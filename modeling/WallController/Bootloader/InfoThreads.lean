/-
  WallController.Bootloader.InfoThreads
  ────────────────────────────────
  **THE THREADS AND THE LOST-PACKET INFO FRAMES.**

  Each step of a thread moves the frames in one of the ways of `TxLine.Moves`
  (`Threads.step_line`); where the thread stands says which (`Threads.cause`).

  A session begins with a cleared Tx record (`StartsClear`), whatever the
  other threads do.
-/
import WallController.Bootloader.InfoFrames

namespace WallController.Bootloader

open WallController.Lib

variable {q : Bool} {env : Env} {b : Btl} {j : Job}

/-! ## §1. The Tx functions. -/

/-- The Tx functions cancel the Tx work item before and after the abort. -/
def TxPc.cause : TxPc → Cause
  | .errorCancel | .cancelTx => .cancel
  | _ => .none

theorem TxPc.step_line {s : Shared} {p : TxPc} :
    TxLine.Moves p.cause s.line (p.step env s).2.line := by
  cases p with
  | retry =>
      show TxLine.Moves _ _ ((retrySection env s.btl).2.line s.txWork.queued)
      unfold retrySection
      split
      · exact .kept
      rename_i hretry
      split
      · exact .kept
      · rename_i hcount
        exact .resubmitted env.txQueued (not_not.mp hretry) (Nat.not_le.mp hcount)
  | schedule =>
      show TxLine.Moves _ _ ((bScheduleLostPacketTimeouts env s.btl).line s.txWork.queued)
      unfold bScheduleLostPacketTimeouts
      split
      · rename_i hst
        exact .scheduled hst.1 hst.2
      · exact .kept
  | error => exact .kept
  | errorCancel => exact .unscheduled rfl false
  | abort =>
      show TxLine.Moves _ _ ((vAbortBootloaderSessionLocked s.btl).line s.txWork.queued)
      rw [vAbortBootloaderSessionLocked_line]
      exact .gaveUp
  | cancelState => exact .kept
  | cancelTx => exact .unscheduled rfl false

/-! ## §2. The threads. -/

def CanPc.cause (env : Env) (b : Btl) : CanPc → Cause
  | .reinit _ => .reinit
  | .setInProg _ => .start
  | .finalize _ => .recover (decide b.entersRecovery)
  | .getLost _ => .build env.txQueued
  | .tx p _ => p.cause
  | _ => .none

/-- The step that runs the section of a command. -/
theorem SectionLines.moves {s : Shared} {m : CtrlMsg} {c : Cause} {uiTimeOut_ms : Nat}
    {bRefreshed : Bool} {recovers : Prop} {r : Except Btl (Job × SectionEnd)}
    (h : SectionLines s.txWork.queued recovers { btl := s.btl, msg := m } r)
    (hc : recovers → c.recovers = true) :
    (afterSection r).2.halted.isSome ∨ TxLine.Moves c s.line
      (s.refresh env uiTimeOut_ms bRefreshed (afterSection r).2).line := by
  cases h with
  | stopped b hb => exact .inl hb
  | @kept j' h =>
      right
      show TxLine.Moves c s.line (j'.btl.line s.txWork.queued)
      rw [h]
      exact .kept
  | @recovery j' hrec h =>
      right
      show TxLine.Moves c s.line (j'.btl.line s.txWork.queued)
      rw [h]
      exact .recovery (hc hrec)
  | @gaveUp j' h =>
      right
      show TxLine.Moves c s.line (j'.btl.line s.txWork.queued)
      rw [h]
      exact .gaveUp
  | @completed j' h =>
      right
      show TxLine.Moves c s.line (j'.btl.line s.txWork.queued)
      rw [h]
      exact .left .fwImgWriteCompleted (by decide)

/-- A step that leaves the view as it is. -/
theorem TxLine.Moves.of_eq {c : Cause} {L L' : TxLine} (h : L' = L) : TxLine.Moves c L L' := by
  rw [h]
  exact .kept

/-- The section of `vGet_LostPacketInfo`. -/
theorem vGetLostPacketInfoSection_line :
    TxLine.Moves (.build env.txQueued) (j.btl.line q)
      ((vGetLostPacketInfoSection env j).2.btl.line q) := by
  unfold vGetLostPacketInfoSection
  split
  · exact .kept
  split
  · exact .kept
  · rename_i hidle
    have hbuilt : TxLine.Moves (.build env.txQueued) (j.btl.line q)
        ((j.btl.line q).built (lostPacketInfoFrame j.btl.img j.btl.tx.uiFrameSeq) env.txQueued) :=
      .built rfl j.btl.img (not_not.mp hidle)
    exact hbuilt

/-- The section of `vHandle_LostPacketInfo_TxResponse`. -/
theorem txResponseSection_line {eAck uiFrameSeq : UInt8} {s : Shared} :
    TxLine.Moves .none s.line (txResponseSection eAck uiFrameSeq s).2.line := by
  unfold txResponseSection
  dsimp only
  split
  · exact .kept
  split
  · exact .kept
  split
  · exact .kept
  rename_i hidle
  split
  · exact .kept
  split
  · exact .acked hidle
  · exact .retrying hidle

theorem CanPc.step_line {s s' : Shared} {pc pc' : CanPc} (h : pc.step env s = some (pc', s')) :
    s'.btl.halted.isSome ∨ TxLine.Moves (pc.cause env s.btl) s.line s'.line := by
  cases pc with
  | idle => cases h
  | dispatch m =>
      cases h
      exact .inr .kept
  | idleState m =>
      cases h
      exact .inr (.of_eq idleStateSection_line)
  | initManager m =>
      cases h
      exact .inr (.of_eq vInitBootloaderManagerErased_line)
  | setInProg m =>
      cases h
      exact .inr (.started rfl _)
  | finalize m =>
      cases h
      -- the sections of the two image commands, whose lines are known
      exact vFinalizeFWImageWriteSection_lines.moves fun hrec => decide_eq_true hrec
  | update m =>
      cases h
      exact vUpdateFWImageSection_lines.moves False.elim
  | getLost m =>
      change some (_, s.set (vGetLostPacketInfoSection env { btl := s.btl, msg := m }).2.btl)
        = some (pc', s') at h
      cases h
      exact .inr (vGetLostPacketInfoSection_line (j := { btl := s.btl, msg := m }))
  | txResponse m =>
      cases h
      exact .inr txResponseSection_line
  | completedCancel m =>
      cases h
      exact .inr .kept
  | completedEntry m =>
      cases h
      exact .inr .kept
  | completedInvalidate m =>
      cases h
      exact .inr .kept
  | completedInvalidated m =>
      cases h
      exact .inr .kept
  | completedClose m =>
      cases h
      exact .inr (.of_eq flashAreaCloseIfOpen_line)
  | request m rets =>
      unfold CanPc.step at h
      dsimp only at h
      split at h
      · cases h
        exact .inr .kept
      · cases h
        exact .inr .kept
  | requestAbort m rets =>
      cases h
      right
      show TxLine.Moves _ _ ((vAbortBootloaderSessionLocked s.btl).line s.txWork.queued)
      -- the abort clears the Tx record and keeps what is queued
      rw [vAbortBootloaderSessionLocked_line]
      exact .gaveUp
  | setReboot m =>
      cases h
      exact .inr (.left .reboot (by decide))
  | setRebootCancel m =>
      cases h
      exact .inr .kept
  | refreshReboot m =>
      cases h
      exact .inr .kept
  | rebootInvalidate =>
      cases h
      exact .inr .kept
  | rebootCancel =>
      cases h
      exact .inr .kept
  | sysReboot =>
      cases h
      exact .inl rfl
  | errorState m =>
      unfold CanPc.step at h
      dsimp only at h
      split at h
      · cases h
        exact .inr .kept
      · cases h
        exact .inr .kept
  | reinit m =>
      cases h
      right
      show TxLine.Moves _ _ ((resetSession .idle true s.btl).line s.txWork.queued)
      rw [resetSession_line]
      exact .reinitialized rfl
  | tx p m =>
      cases h
      exact .inr TxPc.step_line
  | answer m =>
      cases h
      right
      split
      · exact .kept
      · exact .kept

theorem receiveFrame_line {s : Shared} {f : CanFrame} :
    (receiveFrame f s).2.line = s.line := by
  unfold receiveFrame
  dsimp only
  split
  · rfl
  · split <;> rfl

def TxHandler.cause : TxHandler → Cause
  | .tx p => p.cause
  | _ => .none

theorem TxHandler.step_line {s s' : Shared} {pc pc' : TxHandler}
    (h : pc.step env s = some (pc', s')) : TxLine.Moves pc.cause s.line s'.line := by
  cases pc with
  | idle => cases h
  | lock =>
      unfold TxHandler.step at h
      dsimp only at h
      split at h
      · cases h
        exact .kept
      rename_i hidle
      split at h
      · cases h
        exact .kept
      · cases h
        exact .retrying hidle
  | tx p =>
      cases h
      exact TxPc.step_line

def StateHandler.cause : StateHandler → Cause
  | .cancelTx => .cancel
  | _ => .none

theorem StateHandler.step_line {s s' : Shared} {pc pc' : StateHandler}
    (h : pc.step env s = some (pc', s')) : TxLine.Moves pc.cause s.line s'.line := by
  cases pc with
  | idle => cases h
  | lock =>
      unfold StateHandler.step at h
      dsimp only at h
      split at h
      · cases h
        exact .kept
      split at h
      · cases h
        exact .kept
      split at h
      · cases h
        exact .kept
      · cases h
        show TxLine.Moves _ _ ((vAbortBootloaderSessionLocked
          (vInvalidateBootloaderStateTimeOutLocked s.btl)).line s.txWork.queued)
        rw [vAbortBootloaderSessionLocked_line]
        exact .gaveUp
  | cancelTx =>
      cases h
      exact .unscheduled rfl false
  | reboot =>
      cases h
      exact .kept

/-- The delay of the Tx work item ends: the item is queued, or refused. -/
theorem Shared.expireTx_line {s s' : Shared} (h : s.expireTx = some s') :
    TxLine.Moves (if s.txWork.canceling then .cancel else .none) s.line s'.line := by
  obtain ⟨w, hw, rfl⟩ := Option.map_eq_some_iff.mp h
  have hqueued := DelayableWork.expire_queued hw
  have htimer : s.line.scheduled = true := by
    show (_ || _) = true
    rw [← s.txTimer, (DelayableWork.expire_cases hw).1]
    rfl
  cases hc : s.txWork.canceling with
  | true => exact .unscheduled rfl _
  | false =>
      -- from the delay to the queue
      rw [hc, Bool.not_false, Bool.or_true] at hqueued
      apply TxLine.Moves.of_eq
      show TxLine.mk s.line.state s.line.tx w.queued s.line.infos = s.line
      rw [hqueued, ← htimer]

/-- What a step of the system may do. -/
def Threads.cause (t : Threads) (a : Act × Env) : Cause :=
  match a.1 with
  | .can => t.can.cause a.2 t.shared.btl
  | .txHandler => t.txHandler.cause
  | .stateHandler => t.stateHandler.cause
  | .txRuns => .cancel
  -- an expiry that the kernel refuses
  | .txExpires => if t.shared.txWork.canceling then .cancel else .none
  | _ => .none

/-- **One step**, of a machine that goes on. -/
theorem Threads.step_line {t t' : Threads} {a : Act × Env} (h : t.step a = some t')
    (hrun : t'.shared.btl.halted = none) :
    TxLine.Moves (t.cause a) t.shared.line t'.shared.line := by
  obtain ⟨act, env⟩ := a
  unfold Threads.step at h
  split at h
  · cases h
  cases act with
  | frame f =>
      dsimp only at h
      split at h
      · cases h
        exact .of_eq receiveFrame_line
      · cases h
  | can =>
      obtain ⟨⟨pc, s⟩, hs, rfl⟩ := Option.map_eq_some_iff.mp h
      rcases CanPc.step_line hs with hhalt | hmoves
      · rw [show s.btl.halted = none from hrun] at hhalt
        -- a machine that has stopped is not one that goes on
        cases hhalt
      · exact hmoves
  | txHandler =>
      obtain ⟨⟨pc, s⟩, hs, rfl⟩ := Option.map_eq_some_iff.mp h
      exact TxHandler.step_line hs
  | stateHandler =>
      obtain ⟨⟨pc, s⟩, hs, rfl⟩ := Option.map_eq_some_iff.mp h
      exact StateHandler.step_line hs
  | txExpires =>
      obtain ⟨s, hs, rfl⟩ := Option.map_eq_some_iff.mp h
      exact Shared.expireTx_line hs
  | stateExpires =>
      obtain ⟨s, hs, rfl⟩ := Option.map_eq_some_iff.mp h
      obtain ⟨w, -, rfl⟩ := Option.map_eq_some_iff.mp hs
      exact .kept
  | txRuns =>
      dsimp only at h
      split at h
      · obtain ⟨w, -, rfl⟩ := Option.map_eq_some_iff.mp h
        -- the item leaves the queue when its handler starts
        exact .unscheduled rfl _
      · cases h
  | txReturns =>
      dsimp only at h
      split at h
      · obtain ⟨w, hw, rfl⟩ := Option.map_eq_some_iff.mp h
        apply TxLine.Moves.of_eq
        -- the end of the handler queues nothing
        show t.shared.btl.line w.queued = _
        rw [DelayableWork.finish_queued hw]
        rfl
      · cases h
  | _ =>
      dsimp only at h
      split at h
      · obtain ⟨w, -, rfl⟩ := Option.map_eq_some_iff.mp h
        exact .kept
      · cases h

/-! ## §3. A session begins with a cleared Tx record. -/

/-- What holds of the record while the CAN thread is at its program counter. -/
def CanPc.owes (L : TxLine) : CanPc → Prop
  | .idleState _ | .initManager _ | .setInProg _ => L.tx = LostPacketTx.cleared
  | .getLost _ => L.state ≠ .idle
  | _ => True

theorem CanPc.owes_next {L : TxLine} {m : CtrlMsg} {p : Option TxPc} : (CanPc.next m p).owes L := by
  cases p with
  | none => trivial
  | some p => trivial

theorem CanPc.owes_afterSection {L : TxLine} {r : Except Btl (Job × SectionEnd)} :
    (afterSection r).1.owes L := by
  cases r with
  | error b => trivial
  | ok r =>
      obtain ⟨j, e⟩ := r
      cases e with
      | exit => trivial
      | cancelWork => trivial
      | completed => trivial

theorem completedPc_owes {L : TxLine} {m : CtrlMsg} : (completedPc m).owes L := by
  unfold completedPc
  split
  · trivial
  · trivial

/-- The state that is read decides what is begun. -/
theorem dispatchPc_owes {m : CtrlMsg}
    (hidle : b.mgmt.eBtlState = .idle → b.tx = LostPacketTx.cleared) :
    (dispatchPc b m).owes (b.line q) := by
  unfold dispatchPc
  cases hst : b.mgmt.eBtlState with
  | idle => exact hidle hst
  | fwImgWriteInProg =>
      dsimp only
      split
      · trivial
      have hne : (b.line q).state ≠ .idle := by
        show b.mgmt.eBtlState ≠ .idle
        rw [hst]
        decide
      split
      · trivial
      · trivial
      · trivial
      · exact hne
      · trivial
  | inactive => trivial
  | fwImgWriteCompleted => trivial
  | reboot => trivial
  | error => trivial
  | waitForAuthResponse => trivial

theorem idleStateSection_owes {m : CtrlMsg} {L : TxLine} (h : L.tx = LostPacketTx.cleared) :
    (idleStateSection b m).1.owes L := by
  unfold idleStateSection
  split
  · trivial
  split
  · trivial
  split
  · trivial
  dsimp only
  split
  · exact h
  · exact h
  · trivial

/-- In the idle state, and until a session has begun, the Tx record is cleared. -/
structure StartsClear (t : Threads) : Prop where
  idle : t.shared.line.state = .idle → t.shared.line.tx = LostPacketTx.cleared
  owes : t.can.owes t.shared.line

/-- A cleared record stays as it is, unless a frame is built. -/
theorem TxLine.Moves.keeps_cleared {c : Cause} {L L' : TxLine} (h : TxLine.Moves c L L')
    (hc : c.builds = false) (hL : L.tx = LostPacketTx.cleared) :
    L'.tx = LostPacketTx.cleared := by
  have hidle : L.tx.eTxState = .idle := by
    rw [hL]
    rfl
  cases h with
  | kept => exact hL
  | left s hs => exact hL
  | gaveUp => rfl
  | reinitialized _ => rfl
  | recovery _ => rfl
  | started _ uiaData => exact hL
  | built hb _ _ =>
      rw [hc] at hb
      cases hb
  | retrying hne => exact absurd hidle hne
  | resubmitted queued hretry _ =>
      rw [hidle] at hretry
      cases hretry
  | acked hne => exact absurd hidle hne
  | scheduled _ _ => exact hL
  | unscheduled _ _ => exact hL

/-- The idle state is entered by the initialization alone. -/
theorem TxLine.Moves.idle_state {c : Cause} {L L' : TxLine} (h : TxLine.Moves c L L')
    (hst : L'.state = .idle) :
    L.state = .idle ∨ c.reinits = true ∧ L'.tx = LostPacketTx.cleared := by
  cases h with
  | kept => exact .inl hst
  | left s hs => exact absurd hst hs.2
  | gaveUp => cases hst
  | reinitialized hc => exact .inr ⟨hc, rfl⟩
  | recovery _ => cases hst
  | started _ uiaData => cases hst
  | built _ _ _ => exact .inl hst
  | retrying _ => exact .inl hst
  | resubmitted _ _ _ => exact .inl hst
  | acked _ => exact .inl hst
  | scheduled _ _ => exact .inl hst
  | unscheduled _ _ => exact .inl hst

theorem CanPc.step_owes {s s' : Shared} {pc pc' : CanPc} (h : pc.step env s = some (pc', s'))
    (hidle : s.line.state = .idle → s.line.tx = LostPacketTx.cleared) (hpc : pc.owes s.line) :
    pc'.owes s'.line := by
  cases pc with
  | idle => cases h
  | dispatch m =>
      cases h
      exact dispatchPc_owes hidle
  | idleState m =>
      change some ((idleStateSection s.btl m).1, s.set (idleStateSection s.btl m).2)
        = some (pc', s') at h
      cases h
      -- the section does not touch the Tx record
      have hline : (idleStateSection s.btl m).2.line s.txWork.queued = s.line := idleStateSection_line
      apply idleStateSection_owes
      rw [Shared.set_line, hline]
      exact hpc
  | initManager m =>
      cases h
      have hline : (vInitBootloaderManagerErased env { btl := s.btl, msg := m }).btl.line s.txWork.queued
          = s.line := vInitBootloaderManagerErased_line
      split
      · show TxLine.tx ((vInitBootloaderManagerErased env _).btl.line s.txWork.queued) = _
        rw [hline]
        exact hpc
      · trivial
  | finalize m =>
      cases h
      exact CanPc.owes_afterSection
  | update m =>
      cases h
      exact CanPc.owes_afterSection
  | getLost m =>
      -- whether it schedules a report or answers, nothing is owed
      have hnext : (if (vGetLostPacketInfoSection env { btl := s.btl, msg := m }).1 = true
          then CanPc.tx .schedule _ else .answer _) = pc' :=
        congrArg Prod.fst (Option.some.inj h)
      rw [← hnext]
      split
      · trivial
      · trivial
  | txResponse m =>
      cases h
      exact CanPc.owes_next
  | completedEntry m =>
      cases h
      split
      · trivial
      · exact completedPc_owes
  | completedClose m =>
      cases h
      exact completedPc_owes
  | request m rets =>
      unfold CanPc.step at h
      dsimp only at h
      split at h
      · cases h
        split
        · trivial
        · trivial
      · cases h
        trivial
  | errorState m =>
      unfold CanPc.step at h
      dsimp only at h
      split at h
      · cases h
        trivial
      · cases h
        trivial
  | tx p m =>
      cases h
      exact CanPc.owes_next
  -- at the points below the thread owes nothing
  | setInProg m => cases h; trivial
  | completedCancel m => cases h; trivial
  | completedInvalidate m => cases h; trivial
  | completedInvalidated m => cases h; trivial
  | requestAbort m rets => cases h; trivial
  | setReboot m => cases h; trivial
  | setRebootCancel m => cases h; trivial
  | refreshReboot m => cases h; trivial
  | rebootInvalidate => cases h; trivial
  | rebootCancel => cases h; trivial
  | sysReboot => cases h; trivial
  | reinit m => cases h; trivial
  | answer m => cases h; trivial

/-- A step of another thread leaves what the CAN thread relies on. -/
theorem TxLine.Moves.keeps_owes {c : Cause} {L L' : TxLine} {pc : CanPc}
    (h : TxLine.Moves c L L') (hb : c.builds = false) (hr : c.reinits = false)
    (hpc : pc.owes L) : pc.owes L' := by
  cases pc with
  | idleState m => exact h.keeps_cleared hb hpc
  | initManager m => exact h.keeps_cleared hb hpc
  | setInProg m => exact h.keeps_cleared hb hpc
  | getLost m =>
      intro hst
      rcases h.idle_state hst with hwas | ⟨hre, -⟩
      · exact hpc hwas
      · rw [hr] at hre
        cases hre
  | _ => trivial

/-- A cause that is not the CAN thread's alone. -/
def Cause.plain (c : Cause) : Prop :=
  c.builds = false ∧ c.reinits = false ∧ c.starts = false

theorem TxPc.cause_plain (p : TxPc) : p.cause.plain := by
  cases p <;> exact ⟨rfl, rfl, rfl⟩

/-- Where frames are built. -/
theorem CanPc.cause_builds {pc : CanPc} (h : (pc.cause env b).builds = true) :
    ∃ m, pc = .getLost m := by
  cases pc with
  | getLost m => exact ⟨m, rfl⟩
  | tx p m =>
      have hplain : p.cause.builds = false := p.cause_plain.1
      rw [show (CanPc.tx p m).cause env b = p.cause from rfl, hplain] at h
      cases h
  | _ => cases h

/-- Where sessions are started. -/
theorem CanPc.cause_starts {pc : CanPc} (h : (pc.cause env b).starts = true) :
    ∃ m, pc = .setInProg m := by
  cases pc with
  | setInProg m => exact ⟨m, rfl⟩
  | tx p m =>
      have hplain : p.cause.starts = false := p.cause_plain.2.2
      rw [show (CanPc.tx p m).cause env b = p.cause from rfl, hplain] at h
      cases h
  | _ => cases h

theorem Threads.cause_plain {t : Threads} {a : Act × Env} (h : a.1 ≠ .can) :
    (t.cause a).plain := by
  obtain ⟨act, env⟩ := a
  cases act with
  | can => exact absurd rfl h
  | txHandler =>
      show t.txHandler.cause.plain
      cases t.txHandler with
      | idle => exact ⟨rfl, rfl, rfl⟩
      | lock => exact ⟨rfl, rfl, rfl⟩
      | tx p => exact p.cause_plain
  | stateHandler =>
      show t.stateHandler.cause.plain
      cases t.stateHandler <;> exact ⟨rfl, rfl, rfl⟩
  | txExpires =>
      show Cause.plain (if t.shared.txWork.canceling then .cancel else .none)
      split
      · exact ⟨rfl, rfl, rfl⟩
      · exact ⟨rfl, rfl, rfl⟩
  | _ => exact ⟨rfl, rfl, rfl⟩

theorem receiveFrame_owes {s : Shared} {f : CanFrame} {L : TxLine} :
    (receiveFrame f s).1.owes L := by
  unfold receiveFrame
  dsimp only
  split
  · trivial
  · split <;> trivial

/-- Where the CAN thread is after a step of the others. -/
theorem Threads.step_can {t t' : Threads} {a : Act × Env} (h : t.step a = some t')
    (hcan : a.1 ≠ .can) : t'.can = t.can ∨ ∃ f, t'.can = (receiveFrame f t.shared).1 := by
  obtain ⟨act, env⟩ := a
  unfold Threads.step at h
  split at h
  · cases h
  cases act with
  | can => exact absurd rfl hcan
  | frame f =>
      dsimp only at h
      split at h
      · cases h
        exact .inr ⟨f, rfl⟩
      · cases h
  | txHandler =>
      obtain ⟨⟨pc, s⟩, hs, rfl⟩ := Option.map_eq_some_iff.mp h
      exact .inl rfl
  | stateHandler =>
      obtain ⟨⟨pc, s⟩, hs, rfl⟩ := Option.map_eq_some_iff.mp h
      exact .inl rfl
  | txExpires =>
      obtain ⟨s, hs, rfl⟩ := Option.map_eq_some_iff.mp h
      exact .inl rfl
  | stateExpires =>
      obtain ⟨s, hs, rfl⟩ := Option.map_eq_some_iff.mp h
      exact .inl rfl
  | _ =>
      dsimp only at h
      split at h
      · obtain ⟨w, -, rfl⟩ := Option.map_eq_some_iff.mp h
        exact .inl rfl
      · cases h

theorem StartsClear.step {t t' : Threads} {a : Act × Env} (ht : StartsClear t)
    (h : t.step a = some t') (hrun : t'.shared.btl.halted = none) : StartsClear t' := by
  have hmoves := Threads.step_line h hrun
  constructor
  · intro hst
    rcases hmoves.idle_state hst with hwas | ⟨-, hcleared⟩
    · refine hmoves.keeps_cleared ?_ (ht.idle hwas)
      -- no frame is built in the idle state
      by_cases hcan : a.1 = .can
      · rw [Bool.eq_false_iff]
        intro hb
        have hcause : t.cause a = t.can.cause a.2 t.shared.btl := by
          unfold Threads.cause
          rw [hcan]
        rw [hcause] at hb
        obtain ⟨m, hm⟩ := CanPc.cause_builds hb
        have howes := ht.owes
        rw [hm] at howes
        exact howes hwas
      · exact (Threads.cause_plain hcan).1
    · exact hcleared
  · by_cases hcan : a.1 = .can
    · obtain ⟨act, env⟩ := a
      obtain rfl : act = .can := hcan
      unfold Threads.step at h
      split at h
      · cases h
      obtain ⟨⟨pc, s⟩, hs, rfl⟩ := Option.map_eq_some_iff.mp h
      exact CanPc.step_owes hs ht.idle ht.owes
    · obtain ⟨hb, hr, -⟩ : (t.cause a).plain := Threads.cause_plain hcan
      rcases Threads.step_can h hcan with hsame | ⟨f, hframe⟩
      · rw [hsame]
        exact hmoves.keeps_owes hb hr ht.owes
      · rw [hframe]
        exact receiveFrame_owes

theorem StartsClear.starts {t : Threads} {a : Act × Env} (ht : StartsClear t)
    (h : (t.cause a).starts = true) : t.shared.line.tx = LostPacketTx.cleared := by
  by_cases hcan : a.1 = .can
  · have hcause : t.cause a = t.can.cause a.2 t.shared.btl := by
      unfold Threads.cause
      rw [hcan]
    rw [hcause] at h
    obtain ⟨m, hm⟩ := CanPc.cause_starts h
    have howes := ht.owes
    rw [hm] at howes
    exact howes
  · have hplain : (t.cause a).plain := Threads.cause_plain hcan
    rw [hplain.2.2] at h
    cases h

theorem bInit_tx (slot : FlashArea) (flash : Mem) (env : Env) :
    (bInitBootloaderController slot flash env).tx = LostPacketTx.cleared := by
  have hopened : (flashAreaOpen env (Btl.start slot flash)).tx = LostPacketTx.cleared := by
    unfold flashAreaOpen
    split
    · rfl
    · rfl
  unfold bInitBootloaderController
  dsimp only
  split
  · exact hopened
  · exact hopened

theorem StartsClear.boot (slot : FlashArea) (flash : Mem) (env : Env) :
    StartsClear (Threads.boot (bInitBootloaderController slot flash env)) :=
  ⟨fun _ => bInit_tx slot flash env, trivial⟩

end WallController.Bootloader
