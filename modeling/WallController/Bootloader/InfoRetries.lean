/-
  WallController.Bootloader.InfoRetries
  ────────────────────────────────
  **THE RETRIES OF THE LOST-PACKET INFO FRAMES.**

  The retry count is changed by the command, the NACK and the timer, and each
  of them checks it in one section of the mutex and changes it in another.  It
  stays within `BOOTLOADER_TX_Retry_MAX_COUNT` in every run, as does the
  number of submissions of a frame (`InfoRun.retries_bounded`).

  While a frame is outstanding its timeout is scheduled, or a thread is going
  to schedule it or to abort the session, in the runs in which no
  `k_work_cancel_delayable` comes late, and no expiry falls into the rest of a
  cancelled run of the handler (`retransmission_bounded`).  A late cancellation
  belongs to an earlier frame: it follows the unlock, and the next frame may
  have been submitted in between (`not_retransmission_bounded`).
-/
import WallController.Bootloader.InfoSequence
import WallController.Bootloader.SessionTimeout

namespace WallController.Bootloader

open WallController.Lib

/-! ## §1. The counts. -/

def Obs.isSubmission : Obs → Bool
  | .lostPacketInfo _ _ => true
  | _ => false

/-- How many info frames have been submitted. -/
def submissions (log : List Obs) : Nat := log.countP Obs.isSubmission

theorem submissions_cons (data : List UInt8) (queued : Bool) (log : List Obs) :
    submissions (.lostPacketInfo data queued :: log) = submissions log + 1 :=
  List.countP_cons_of_pos rfl

theorem submissions_filter (log : List Obs) :
    submissions (log.filter Obs.isInfo) = submissions log := by
  unfold submissions
  rw [List.countP_filter]
  apply List.countP_congr
  intro o _
  cases o <;> simp [Obs.isSubmission, Obs.isInfo]

/-- The threads, with the submissions up to the last state in which Tx was idle, and
how often the Tx work item has been started since. -/
structure InfoRun where
  threads : Threads
  submittedIdle : Nat
  handled : Nat

namespace InfoRun

/-- The submissions since Tx was last idle. -/
def submitted (r : InfoRun) : Nat := submissions r.threads.shared.btl.log - r.submittedIdle

/-- The counts, brought up to date. -/
def next (r : InfoRun) (a : Act) (t : Threads) : InfoRun where
  threads := t
  submittedIdle :=
    if t.shared.btl.tx.eTxState = .idle then submissions t.shared.btl.log else r.submittedIdle
  handled :=
    if t.shared.btl.tx.eTxState = .idle then 0
    else match a with | .txRuns => r.handled + 1 | _ => r.handled

def step (r : InfoRun) (a : Act × Env) : Option InfoRun :=
  (r.threads.step a).map (r.next a.1)

end InfoRun

/-- The controller with its threads and the counts. -/
def infoRuns (slot : FlashArea) : TransSys InfoRun (Act × Env) where
  init r := (threads slot).init r.threads
    ∧ r.submittedIdle = submissions r.threads.shared.btl.log ∧ r.handled = 0
  step r a r' := r.step a = some r'

/-! ## §2. The retry count. -/

/-- What bounds the retries; `idleAt` counts the submissions up to the last idle
state. -/
structure TxLine.Retries (L : TxLine) (idleAt : Nat) : Prop where
  idle : L.tx.eTxState = .idle → L.tx.uiRetryCount = 0 ∧ submissions L.infos = idleAt
  count : L.tx.uiRetryCount ≤ BOOTLOADER_TX_Retry_MAX_COUNT
  submitted : submissions L.infos ≤ idleAt + 1 + L.tx.uiRetryCount

/-- A record in which nothing is outstanding. -/
theorem TxLine.Retries.of_idle {L : TxLine} {idleAt : Nat} (hcount : L.tx.uiRetryCount = 0)
    (hsub : submissions L.infos = idleAt) : L.Retries idleAt := by
  refine ⟨fun _ => ⟨hcount, hsub⟩, ?_, ?_⟩
  · rw [hcount]
    exact Nat.zero_le _
  · omega

/-- A record that differs in nothing that counts. -/
theorem TxLine.Retries.congr {L L' : TxLine} {idleAt : Nat} (h : L.Retries idleAt)
    (htx : L'.tx = L.tx) (hsub : submissions L'.infos = submissions L.infos) :
    L'.Retries idleAt := by
  refine ⟨?_, ?_, ?_⟩
  · rw [htx, hsub]
    exact h.idle
  · rw [htx]
    exact h.count
  · rw [htx, hsub]
    exact h.submitted

/-- **One move** keeps the bound, where the count of the idle state is brought up to
date. -/
theorem TxLine.Retries.moves {c : Cause} {L L' : TxLine} {idleAt : Nat} (hL : L.Retries idleAt)
    (h : TxLine.Moves c L L') :
    L'.Retries (if L'.tx.eTxState = .idle then submissions L'.infos else idleAt) := by
  -- where nothing is outstanding any more, the bound starts anew
  by_cases hidle' : L'.tx.eTxState = .idle
  · rw [if_pos hidle']
    refine .of_idle ?_ rfl
    cases h with
    | kept => exact (hL.idle hidle').1
    | left s hs => exact (hL.idle hidle').1
    | gaveUp => rfl
    | reinitialized _ => rfl
    | recovery _ => rfl
    | started _ uiaData => exact (hL.idle hidle').1
    | built _ img _ =>
        unfold TxLine.built at hidle'
        dsimp only at hidle'
        split at hidle'
        · cases hidle'
        · cases hidle'
    | retrying _ => cases hidle'
    | resubmitted _ _ _ => cases hidle'
    | acked _ => rfl
    | scheduled _ _ => exact (hL.idle hidle').1
    | unscheduled _ _ => exact (hL.idle hidle').1
  · rw [if_neg hidle']
    cases h with
    | kept => exact hL
    | left s hs => exact hL.congr rfl rfl
    | gaveUp => exact absurd rfl hidle'
    | reinitialized _ => exact absurd rfl hidle'
    | recovery _ => exact absurd rfl hidle'
    | started _ uiaData => exact hL.congr rfl rfl
    | built _ img hidle =>
        obtain ⟨hcount, hsub⟩ := hL.idle hidle
        refine ⟨fun hno => absurd hno hidle', ?_, ?_⟩
        · unfold TxLine.built
          dsimp only
          split
          · exact hL.count
          · show (L.tx.uiRetryCount + 1) % 256 ≤ BOOTLOADER_TX_Retry_MAX_COUNT
            rw [hcount]
            decide
        · have hnew : submissions (L.built (lostPacketInfoFrame img L.tx.uiFrameSeq) c.queued).infos
              = submissions L.infos + 1 := submissions_cons _ _ _
          rw [hnew, hsub]
          exact Nat.le_add_right _ _
    | retrying hidle => exact ⟨fun hno => absurd hno hidle', hL.count, hL.submitted⟩
    | resubmitted queued hretry hcount =>
        have hnext : (L.tx.uiRetryCount + 1) % 256 = L.tx.uiRetryCount + 1 := by
          unfold BOOTLOADER_TX_Retry_MAX_COUNT at hcount
          omega
        refine ⟨fun hno => absurd hno hidle', ?_, ?_⟩
        · show (L.tx.uiRetryCount + 1) % 256 ≤ BOOTLOADER_TX_Retry_MAX_COUNT
          rw [hnext]
          exact hcount
        · have hnew : submissions (L.resubmitted queued).infos = submissions L.infos + 1 :=
            submissions_cons _ _ _
          have hsub := hL.submitted
          rw [hnew]
          show _ ≤ idleAt + 1 + (L.tx.uiRetryCount + 1) % 256
          rw [hnext]
          omega
    | acked _ => exact absurd rfl hidle'
    | scheduled _ _ => exact hL.congr rfl rfl
    | unscheduled _ _ => exact hL.congr rfl rfl

/-! ## §3. The timeout. -/

/-- A frame is outstanding while the image is being written. -/
def TxLine.Waits (L : TxLine) : Prop :=
  L.state = .fwImgWriteInProg ∧ L.tx.eTxState ≠ .idle

/-- The Tx functions are going to schedule the timeout, or to abort the session. -/
def TxPc.pends (tx : LostPacketTx) : TxPc → Prop
  | .retry => tx.eTxState = .retryInProgress
  | .schedule | .error | .errorCancel | .abort => True
  | .cancelState | .cancelTx => False

def CanPc.pends (tx : LostPacketTx) : CanPc → Prop
  | .tx p _ => p.pends tx
  | _ => False

def TxHandler.pends (tx : LostPacketTx) : TxHandler → Prop
  | .idle => False
  | .lock => True
  | .tx p => p.pends tx

/-- A thread is going to schedule the timeout of the outstanding frame, or to abort the
session. -/
def Threads.retryPending (t : Threads) : Prop :=
  t.can.pends t.shared.btl.tx ∨ t.txHandler.pends t.shared.btl.tx

/-- The timeout of the outstanding frame is scheduled, or a thread is going to schedule
it or to abort the session. -/
def Threads.timeoutPending (t : Threads) : Prop :=
  t.shared.line.scheduled = true ∨ t.retryPending

instance {tx : LostPacketTx} : (p : TxPc) → Decidable (p.pends tx)
  | .retry => inferInstanceAs (Decidable (_ = _))
  | .schedule | .error | .errorCancel | .abort => inferInstanceAs (Decidable True)
  | .cancelState | .cancelTx => inferInstanceAs (Decidable False)

instance {tx : LostPacketTx} (pc : CanPc) : Decidable (pc.pends tx) := by
  unfold CanPc.pends
  split <;> infer_instance

instance {tx : LostPacketTx} : (pc : TxHandler) → Decidable (pc.pends tx)
  | .idle => inferInstanceAs (Decidable False)
  | .lock => inferInstanceAs (Decidable True)
  | .tx p => inferInstanceAs (Decidable (p.pends tx))

instance (t : Threads) : Decidable t.retryPending := inferInstanceAs (Decidable (_ ∨ _))

/-- What counts of the handler before it has counted its retry. -/
def TxHandler.weight (tx : LostPacketTx) : TxHandler → Nat
  | .lock | .tx .error | .tx .errorCancel | .tx .abort => 1
  | .tx .retry => if tx.eTxState = .retryInProgress then 1 else 0
  | _ => 0

theorem TxHandler.weight_le {tx : LostPacketTx} {pc : TxHandler} : pc.weight tx ≤ 1 := by
  unfold TxHandler.weight
  split
  · exact Nat.le_refl 1
  · exact Nat.le_refl 1
  · exact Nat.le_refl 1
  · exact Nat.le_refl 1
  · split
    · exact Nat.le_refl 1
    · exact Nat.zero_le 1
  · exact Nat.zero_le 1

section moves

variable {c : Cause} {L L' : TxLine}

/-- A frame is outstanding after a move where it was before, or has been built. -/
theorem TxLine.Moves.waits (h : TxLine.Moves c L L')
    (hstart : c.starts = true → L.tx = LostPacketTx.cleared) (hwaits : L'.Waits) :
    L.Waits ∨ c.builds = true ∧ L.tx.eTxState = .idle := by
  obtain ⟨hst, hidle⟩ := hwaits
  cases h with
  | kept => exact .inl ⟨hst, hidle⟩
  | left s hs => exact absurd hst hs.1
  | gaveUp => cases hst
  | reinitialized _ => cases hst
  | recovery _ => exact absurd rfl hidle
  | started hc uiaData =>
      have hidle' : L.tx.eTxState ≠ .idle := hidle
      rw [hstart hc] at hidle'
      exact absurd rfl hidle'
  | built hc _ hwas => exact .inr ⟨hc, hwas⟩
  | retrying hwas => exact .inl ⟨hst, hwas⟩
  | resubmitted _ hretry _ =>
      refine .inl ⟨hst, ?_⟩
      rw [hretry]
      decide
  | acked _ => exact absurd rfl hidle
  | scheduled _ hwas => exact .inl ⟨hst, hwas⟩
  | unscheduled _ _ => exact .inl ⟨hst, hidle⟩

/-- A frame that stays outstanding. -/
structure TxLine.Outlasts (c : Cause) (L L' : TxLine) : Prop where
  retry : L.tx.eTxState = .retryInProgress → L'.tx.eTxState = .retryInProgress
  count : L.tx.uiRetryCount ≤ L'.tx.uiRetryCount
  scheduled : c.cancels = false → L.scheduled = true → L'.scheduled = true

theorem TxLine.Moves.outlasts (h : TxLine.Moves c L L') (hwas : L.tx.eTxState ≠ .idle)
    (hidle : L'.tx.eTxState ≠ .idle) : L.Outlasts c L' := by
  cases h with
  | kept => exact ⟨id, Nat.le_refl _, fun _ => id⟩
  | left s hs => exact ⟨id, Nat.le_refl _, fun _ => id⟩
  | gaveUp => exact absurd rfl hidle
  | reinitialized _ => exact absurd rfl hidle
  | recovery _ => exact absurd rfl hidle
  | started _ uiaData => exact ⟨id, Nat.le_refl _, fun _ => id⟩
  | built _ _ hno => exact absurd hno hwas
  | retrying _ => exact ⟨fun _ => rfl, Nat.le_refl _, fun _ => id⟩
  | resubmitted _ _ hcount =>
      refine ⟨fun _ => rfl, ?_, fun _ => id⟩
      show L.tx.uiRetryCount ≤ (L.tx.uiRetryCount + 1) % 256
      unfold BOOTLOADER_TX_Retry_MAX_COUNT at hcount
      omega
  | acked _ => exact absurd rfl hidle
  | scheduled _ _ => exact ⟨id, Nat.le_refl _, fun _ _ => rfl⟩
  | unscheduled hcancel _ =>
      refine ⟨id, Nat.le_refl _, ?_⟩
      intro hc
      rw [hc] at hcancel
      cases hcancel

/-- The steps of one thread leave the others where they were going. -/
theorem TxLine.Outlasts.txPc {p : TxPc} (h : L.Outlasts c L') (hp : p.pends L.tx) :
    p.pends L'.tx := by
  cases p with
  | retry => exact h.retry hp
  | schedule => trivial
  | error => trivial
  | errorCancel => trivial
  | abort => trivial
  | cancelState => exact hp
  | cancelTx => exact hp

theorem TxLine.Outlasts.can {pc : CanPc} (h : L.Outlasts c L') (hp : pc.pends L.tx) :
    pc.pends L'.tx := by
  cases pc with
  | tx p m => exact h.txPc hp
  | _ => exact hp

theorem TxLine.Outlasts.txHandler {pc : TxHandler} (h : L.Outlasts c L') (hp : pc.pends L.tx) :
    pc.pends L'.tx := by
  cases pc with
  | tx p => exact h.txPc hp
  | _ => exact hp

theorem TxLine.Outlasts.weight {pc : TxHandler} (h : L.Outlasts c L') :
    pc.weight L.tx ≤ pc.weight L'.tx := by
  cases pc with
  | idle => exact Nat.le_refl _
  | lock => exact Nat.le_refl _
  | tx p =>
      cases p with
      | retry =>
          show (if L.tx.eTxState = .retryInProgress then 1 else 0)
            ≤ if L'.tx.eTxState = .retryInProgress then 1 else 0
          by_cases hretry : L.tx.eTxState = .retryInProgress
          · rw [if_pos hretry, if_pos (h.retry hretry)]
          · rw [if_neg hretry]
            exact Nat.zero_le _
      | _ => exact Nat.le_refl _

end moves

/-! ## §4. The steps of the threads. -/

variable {env : Env} {s s' : Shared}

/-- The Tx functions get to where they are going. -/
theorem TxPc.step_pends {p : TxPc} (hp : p.pends s.line.tx)
    (hwaits : (p.step env s).2.line.Waits) :
    (p.step env s).2.line.scheduled = true
      ∨ ∃ p', (p.step env s).1 = some p' ∧ p'.pends (p.step env s).2.line.tx := by
  obtain ⟨hst, hidle⟩ := hwaits
  cases p with
  | retry =>
      right
      have hretry : s.btl.tx.eTxState = .retryInProgress := hp
      show ∃ p', (retrySection env s.btl).1 = some p' ∧ p'.pends (retrySection env s.btl).2.tx
      unfold retrySection
      rw [if_neg (not_not.mpr hretry)]
      split
      · exact ⟨.error, rfl, trivial⟩
      · exact ⟨.schedule, rfl, trivial⟩
  | schedule =>
      left
      change (bScheduleLostPacketTimeouts env s.btl).mgmt.eBtlState = _ at hst
      change (bScheduleLostPacketTimeouts env s.btl).tx.eTxState ≠ _ at hidle
      show ((bScheduleLostPacketTimeouts env s.btl).line s.txWork.queued).scheduled = true
      unfold bScheduleLostPacketTimeouts at hst hidle ⊢
      split at hst
      · rename_i hwas
        rw [if_pos hwas]
        rfl
      · rename_i hwas
        rw [if_neg hwas] at hidle
        exact absurd ⟨hst, hidle⟩ hwas
  | error =>
      right
      have hstate : s.btl.mgmt.eBtlState = .fwImgWriteInProg := hst
      exact ⟨.errorCancel, if_pos hstate, trivial⟩
  | errorCancel => exact .inr ⟨.abort, rfl, trivial⟩
  | abort => exact absurd rfl hidle
  | cancelState => exact hp.elim
  | cancelTx => exact hp.elim

/-- The handler counts its retry, or is going to abort the session. -/
theorem TxPc.step_weight {p : TxPc} (hwaits : (p.step env s).2.line.Waits) :
    (TxHandler.tx p).weight s.line.tx + s.line.tx.uiRetryCount
      ≤ (TxHandler.next (p.step env s).1).weight (p.step env s).2.line.tx
        + (p.step env s).2.line.tx.uiRetryCount := by
  obtain ⟨hst, hidle⟩ := hwaits
  cases p with
  | retry =>
      show (if s.btl.tx.eTxState = .retryInProgress then 1 else 0) + s.btl.tx.uiRetryCount
        ≤ (TxHandler.next (retrySection env s.btl).1).weight (retrySection env s.btl).2.tx
          + (retrySection env s.btl).2.tx.uiRetryCount
      unfold retrySection
      split
      · rename_i hretry
        rw [if_neg (not_not.mpr hretry)]
        split
        · exact Nat.le_refl _
        · rename_i hcount
          show 1 + s.btl.tx.uiRetryCount ≤ 0 + (s.btl.tx.uiRetryCount + 1) % 256
          unfold BOOTLOADER_TX_Retry_MAX_COUNT at hcount
          omega
      · exact Nat.le_refl _
  | schedule =>
      show 0 + s.btl.tx.uiRetryCount
        ≤ 0 + (bScheduleLostPacketTimeouts env s.btl).tx.uiRetryCount
      unfold bScheduleLostPacketTimeouts
      split
      · exact Nat.le_refl _
      · exact Nat.le_refl _
  | error =>
      have hstate : s.btl.mgmt.eBtlState = .fwImgWriteInProg := hst
      show 1 + s.btl.tx.uiRetryCount
        ≤ (TxHandler.next (if s.btl.mgmt.eBtlState = _ then some .errorCancel else none)).weight
          s.btl.tx + s.btl.tx.uiRetryCount
      rw [if_pos hstate]
      exact Nat.le_refl _
  | errorCancel => exact Nat.le_refl _
  | abort => exact absurd rfl hidle
  | cancelState => exact Nat.le_refl _
  | cancelTx => exact Nat.le_refl _

/-- The same of the whole handler. -/
theorem TxHandler.step_counts {pc pc' : TxHandler} (h : pc.step env s = some (pc', s'))
    (hwaits : s'.line.Waits) :
    pc.weight s.line.tx + s.line.tx.uiRetryCount
      ≤ pc'.weight s'.line.tx + s'.line.tx.uiRetryCount := by
  cases pc with
  | idle => cases h
  | lock =>
      unfold TxHandler.step at h
      dsimp only at h
      split at h
      · rename_i hidle
        cases h
        exact absurd hidle hwaits.2
      split at h
      · cases h
        exact Nat.le_refl _
      · cases h
        exact Nat.le_refl _
  | tx p =>
      change some (TxHandler.next (p.step env s).1, (p.step env s).2) = some (pc', s') at h
      cases h
      exact TxPc.step_weight hwaits

theorem TxHandler.step_pends {pc pc' : TxHandler} (h : pc.step env s = some (pc', s'))
    (hp : pc.pends s.line.tx) (hwaits : s'.line.Waits) :
    s'.line.scheduled = true ∨ pc'.pends s'.line.tx := by
  cases pc with
  | idle => cases h
  | lock =>
      unfold TxHandler.step at h
      dsimp only at h
      split at h
      · rename_i hidle
        cases h
        exact absurd hidle hwaits.2
      split at h
      · cases h
        exact .inr trivial
      · cases h
        exact .inr rfl
  | tx p =>
      change some (TxHandler.next (p.step env s).1, (p.step env s).2) = some (pc', s') at h
      cases h
      rcases TxPc.step_pends hp hwaits with hscheduled | ⟨p', hnext, hp'⟩
      · exact .inl hscheduled
      · right
        rw [hnext]
        exact hp'

theorem CanPc.step_pends {pc pc' : CanPc} (h : pc.step env s = some (pc', s'))
    (hp : pc.pends s.line.tx) (hwaits : s'.line.Waits) :
    s'.line.scheduled = true ∨ pc'.pends s'.line.tx := by
  cases pc with
  | tx p m =>
      change some (CanPc.next m (p.step env s).1, (p.step env s).2) = some (pc', s') at h
      cases h
      rcases TxPc.step_pends hp hwaits with hscheduled | ⟨p', hnext, hp'⟩
      · exact .inl hscheduled
      · right
        rw [hnext]
        exact hp'
  | _ => exact hp.elim

/-- After a frame has been built its timeout is going to be scheduled. -/
theorem CanPc.step_built {pc pc' : CanPc} (h : pc.step env s = some (pc', s'))
    (hbuilds : (pc.cause env s.btl).builds = true) (hwas : s.line.tx.eTxState = .idle)
    (hidle : s'.line.tx.eTxState ≠ .idle) : pc'.pends s'.line.tx := by
  obtain ⟨m, rfl⟩ := CanPc.cause_builds hbuilds
  have hnext : (if (vGetLostPacketInfoSection env { btl := s.btl, msg := m }).1 = true
      then CanPc.tx .schedule _ else .answer _) = pc' := congrArg Prod.fst (Option.some.inj h)
  have hshared : s.set (vGetLostPacketInfoSection env { btl := s.btl, msg := m }).2.btl = s' :=
    congrArg Prod.snd (Option.some.inj h)
  rw [← hshared] at hidle
  rw [← hnext]
  split
  · trivial
  · rename_i hrefused
    unfold vGetLostPacketInfoSection at hrefused hidle
    by_cases hcmd : m.eCMD ≠ .getLostPacketInfo
    · rw [if_pos hcmd] at hidle
      exact absurd hwas hidle
    · have hnot : ¬ (Job.mk s.btl m).btl.tx.eTxState ≠ .idle := not_not.mpr hwas
      rw [if_neg hcmd, if_neg hnot] at hrefused
      exact absurd rfl hrefused

theorem TxPc.cause_cancels {p : TxPc} (h : p.cause.cancels = true) :
    p = .errorCancel ∨ p = .cancelTx := by
  cases p with
  | errorCancel => exact .inl rfl
  | cancelTx => exact .inr rfl
  | _ => cases h

theorem CanPc.cause_cancels {b : Btl} {pc : CanPc} (h : (pc.cause env b).cancels = true) :
    ∃ p m, pc = .tx p m ∧ p.cause.cancels = true := by
  cases pc with
  | tx p m => exact ⟨p, m, rfl, h⟩
  | _ => cases h

/-! ## §5. The order of the cancellations. -/

/-- A thread cancels the Tx work item after it has given the session up, or has found
nothing outstanding; or the kernel refuses the item, whose handler has been cancelled and
still runs. -/
def Threads.cancelling (t : Threads) : Act → Bool
  | .can => match t.can with | .tx .cancelTx _ => true | _ => false
  | .txHandler => t.txHandler = .tx .cancelTx
  | .stateHandler => t.stateHandler = .cancelTx
  | .txExpires => t.shared.txWork.canceling
  | _ => false

/-- None of these comes when the next frame is outstanding, unless a thread is still going
to schedule its timeout or to abort the session. -/
def CancelsInTime (t : Threads) (a : Act × Env) : Prop :=
  t.cancelling a.1 = true → t.shared.line.Waits → t.retryPending

instance (L : TxLine) : Decidable L.Waits := inferInstanceAs (Decidable (_ ∧ _))

instance (t : Threads) (a : Act × Env) : Decidable (CancelsInTime t a) :=
  inferInstanceAs (Decidable (_ = _ → _ → _))

variable {t t' : Threads}

/-- What is going to schedule the timeout goes on, or has done it. -/
theorem retryPending_step {a : Act × Env} (h : t.step a = some t')
    (hout : t.shared.line.Outlasts (t.cause a) t'.shared.line) (hwaits : t'.shared.line.Waits)
    (hp : t.retryPending) : t'.timeoutPending := by
  obtain ⟨act, env⟩ := a
  unfold Threads.step at h
  split at h
  · cases h
  -- a step of another thread leaves both program points where they are
  have hothers : t'.can = t.can → t'.txHandler = t.txHandler → t'.timeoutPending := by
    intro hcan hhandler
    right
    unfold Threads.retryPending
    rw [hcan, hhandler]
    exact hp.imp hout.can hout.txHandler
  cases act with
  | can =>
      obtain ⟨⟨pc, s⟩, hs, rfl⟩ := Option.map_eq_some_iff.mp h
      -- either this thread schedules the timeout, or the handler still does
      rcases hp with hpends | hpends
      · rcases CanPc.step_pends hs hpends hwaits with hscheduled | hpc
        · exact .inl hscheduled
        · exact .inr (.inl hpc)
      · exact .inr (.inr (hout.txHandler hpends))
  | txHandler =>
      obtain ⟨⟨pc, s⟩, hs, rfl⟩ := Option.map_eq_some_iff.mp h
      rcases hp with hpends | hpends
      · exact .inr (.inl (hout.can hpends))
      · rcases TxHandler.step_pends hs hpends hwaits with hscheduled | hpc
        · exact .inl hscheduled
        · exact .inr (.inr hpc)
  | stateHandler =>
      obtain ⟨⟨pc, s⟩, hs, rfl⟩ := Option.map_eq_some_iff.mp h
      exact hothers rfl rfl
  | frame f =>
      dsimp only at h
      split at h
      · rename_i hcan
        cases h
        rcases hp with hpends | hpends
        · rw [hcan] at hpends
          -- an idle CAN thread has nothing to schedule
          exact hpends.elim
        · exact .inr (.inr (hout.txHandler hpends))
      · cases h
  | txExpires =>
      obtain ⟨s, hs, rfl⟩ := Option.map_eq_some_iff.mp h
      exact hothers rfl rfl
  | stateExpires =>
      obtain ⟨s, hs, rfl⟩ := Option.map_eq_some_iff.mp h
      exact hothers rfl rfl
  | txRuns =>
      dsimp only at h
      split at h
      · obtain ⟨w, -, rfl⟩ := Option.map_eq_some_iff.mp h
        -- the handler starts, and will schedule the timeout itself
        exact .inr (.inr trivial)
      · cases h
  | _ =>
      dsimp only at h
      split at h
      · obtain ⟨w, -, rfl⟩ := Option.map_eq_some_iff.mp h
        exact hothers rfl rfl
      · cases h

/-- The steps that can take the timeout away: a thread about to abort the session, the
start of the handler, and those that have to come in time. -/
theorem cancels_cases {a : Act × Env} (h : (t.cause a).cancels = true) :
    t.retryPending ∨ a.1 = .txRuns ∨ t.cancelling a.1 = true := by
  obtain ⟨act, env⟩ := a
  cases act with
  | can =>
      -- only two points of the report take the timeout away
      obtain ⟨p, m, hpc, hp⟩ := CanPc.cause_cancels h
      rcases TxPc.cause_cancels hp with rfl | rfl
      · left
        left
        rw [hpc]
        trivial
      · right
        right
        unfold Threads.cancelling
        rw [hpc]
  | txHandler =>
      cases hpc : t.txHandler with
      | tx p =>
          change t.txHandler.cause.cancels = true at h
          rw [hpc] at h
          rcases TxPc.cause_cancels h with rfl | rfl
          · left
            right
            rw [hpc]
            trivial
          · exact .inr (.inr (decide_eq_true hpc))
      | _ =>
          change t.txHandler.cause.cancels = true at h
          rw [hpc] at h
          cases h
  | stateHandler =>
      cases hpc : t.stateHandler with
      | cancelTx => exact .inr (.inr (decide_eq_true hpc))
      | _ =>
          change t.stateHandler.cause.cancels = true at h
          rw [hpc] at h
          cases h
  | txExpires =>
      change Cause.cancels (if t.shared.txWork.canceling then .cancel else .none) = true at h
      split at h
      · next hcanceling => exact .inr (.inr hcanceling)
      · cases h
  | txRuns => exact .inr (.inl rfl)
  | _ => cases h

/-- The handler has been started. -/
theorem timeoutPending_runs {env : Env} (h : t.step (.txRuns, env) = some t') :
    t'.timeoutPending := by
  unfold Threads.step at h
  split at h
  · cases h
  dsimp only at h
  split at h
  · obtain ⟨w, -, rfl⟩ := Option.map_eq_some_iff.mp h
    exact .inr (.inr trivial)
  · cases h

/-- **One step** keeps the timeout pending. -/
theorem pending_step {a : Act × Env} (hclear : StartsClear t)
    (hp : t.shared.line.Waits → t.timeoutPending) (hok : CancelsInTime t a)
    (h : t.step a = some t') (hrun : t'.shared.btl.halted = none)
    (hwaits : t'.shared.line.Waits) : t'.timeoutPending := by
  have hmoves := Threads.step_line h hrun
  rcases hmoves.waits hclear.starts hwaits with hwas | ⟨hbuilds, hidle⟩
  · have hout := hmoves.outlasts hwas.2 hwaits.2
    rcases hp hwas with hscheduled | hretry
    · cases hcancels : (t.cause a).cancels with
      | false => exact .inl (hout.scheduled hcancels hscheduled)
      | true =>
          rcases cancels_cases hcancels with hretry | hruns | hlate
          · exact retryPending_step h hout hwaits hretry
          · obtain ⟨act, env⟩ := a
            obtain rfl : act = .txRuns := hruns
            exact timeoutPending_runs h
          · exact retryPending_step h hout hwaits (hok hlate hwas)
    · exact retryPending_step h hout hwaits hretry
  · -- the CAN thread has built a frame
    obtain ⟨act, env⟩ := a
    by_cases hcan : act = .can
    · subst hcan
      unfold Threads.step at h
      split at h
      · cases h
      obtain ⟨⟨pc, s⟩, hs, rfl⟩ := Option.map_eq_some_iff.mp h
      exact .inr (.inl (CanPc.step_built hs hbuilds hidle hwaits.2))
    · have hplain : (t.cause (act, env)).plain := Threads.cause_plain hcan
      rw [hplain.1] at hbuilds
      cases hbuilds

/-! ## §6. All runs. -/

/-- The invariant of the counts. -/
structure InfoRun.Counted (r : InfoRun) : Prop where
  clear : StartsClear r.threads
  retries : r.threads.shared.line.Retries r.submittedIdle
  idle : r.threads.shared.line.tx.eTxState = .idle → r.handled = 0
  handled : r.threads.shared.line.Waits → r.handled
    ≤ r.threads.txHandler.weight r.threads.shared.line.tx
      + r.threads.shared.line.tx.uiRetryCount

/-- The handler counts the retry that it has been started for. -/
theorem handled_step {a : Act × Env} {n : Nat} (hclear : StartsClear t)
    (hidle : t.shared.line.tx.eTxState = .idle → n = 0)
    (hn : t.shared.line.Waits →
      n ≤ t.txHandler.weight t.shared.line.tx + t.shared.line.tx.uiRetryCount)
    (h : t.step a = some t') (hrun : t'.shared.btl.halted = none)
    (hwaits : t'.shared.line.Waits) :
    (match a.1 with | .txRuns => n + 1 | _ => n)
      ≤ t'.txHandler.weight t'.shared.line.tx + t'.shared.line.tx.uiRetryCount := by
  have hmoves := Threads.step_line h hrun
  obtain ⟨act, env⟩ := a
  -- another thread leaves the handler where it is
  have hother : t'.txHandler = t.txHandler →
      n ≤ t'.txHandler.weight t'.shared.line.tx + t'.shared.line.tx.uiRetryCount := by
    intro hsame
    rcases hmoves.waits hclear.starts hwaits with hwas | ⟨-, hno⟩
    · have hout := hmoves.outlasts hwas.2 hwaits.2
      have hweight : t.txHandler.weight t.shared.line.tx
          ≤ t.txHandler.weight t'.shared.line.tx := hout.weight
      have hcount := hout.count
      have hle := hn hwas
      rw [hsame]
      omega
    · rw [hidle hno]
      exact Nat.zero_le _
  unfold Threads.step at h
  split at h
  · cases h
  cases act with
  | can =>
      obtain ⟨⟨pc, s⟩, hs, rfl⟩ := Option.map_eq_some_iff.mp h
      exact hother rfl
  | txHandler =>
      obtain ⟨⟨pc, s⟩, hs, rfl⟩ := Option.map_eq_some_iff.mp h
      rcases hmoves.waits hclear.starts hwaits with hwas | ⟨hbuilds, -⟩
      · have hcounts : t.txHandler.weight t.shared.line.tx + t.shared.line.tx.uiRetryCount
            ≤ pc.weight s.line.tx + s.line.tx.uiRetryCount := TxHandler.step_counts hs hwaits
        exact Nat.le_trans (hn hwas) hcounts
      · have hplain : (t.cause (.txHandler, env)).plain := Threads.cause_plain nofun
        rw [hplain.1] at hbuilds
        cases hbuilds
  | stateHandler =>
      obtain ⟨⟨pc, s⟩, hs, rfl⟩ := Option.map_eq_some_iff.mp h
      exact hother rfl
  | frame f =>
      dsimp only at h
      split at h
      · cases h
        exact hother rfl
      · cases h
  | txRuns =>
      dsimp only at h
      split at h
      · rename_i hstart
        obtain ⟨w, -, rfl⟩ := Option.map_eq_some_iff.mp h
        have hle := hn hwaits
        rw [hstart] at hle
        change n ≤ 0 + t.shared.line.tx.uiRetryCount at hle
        show n + 1 ≤ 1 + t.shared.line.tx.uiRetryCount
        omega
      · cases h
  | txExpires =>
      obtain ⟨s, hs, rfl⟩ := Option.map_eq_some_iff.mp h
      exact hother rfl
  | stateExpires =>
      obtain ⟨s, hs, rfl⟩ := Option.map_eq_some_iff.mp h
      exact hother rfl
  | _ =>
      dsimp only at h
      split at h
      · obtain ⟨w, -, rfl⟩ := Option.map_eq_some_iff.mp h
        exact hother rfl
      · cases h

theorem InfoRun.Counted.step {r r' : InfoRun} {a : Act × Env} (hr : r.Counted)
    (h : r.step a = some r') (hrun : r'.threads.shared.btl.halted = none) : r'.Counted := by
  obtain ⟨t', hstep, rfl⟩ := Option.map_eq_some_iff.mp h
  have hmoves := Threads.step_line hstep hrun
  have hsub : submissions t'.shared.line.infos = submissions t'.shared.btl.log :=
    submissions_filter _
  refine ⟨hr.clear.step hstep hrun, ?_, ?_, ?_⟩
  · have hretries := hr.retries.moves hmoves
    rw [hsub] at hretries
    exact hretries
  · intro hidle
    exact if_pos hidle
  · intro hwaits
    have hne : t'.shared.btl.tx.eTxState ≠ .idle := hwaits.2
    show (if t'.shared.btl.tx.eTxState = .idle then 0 else _) ≤ _
    rw [if_neg hne]
    exact handled_step hr.clear hr.idle hr.handled hstep hrun hwaits

theorem InfoRun.running_of_step {r r' : InfoRun} {a : Act × Env} (h : r.step a = some r') :
    r.threads.shared.btl.halted = none := by
  obtain ⟨t', hstep, -⟩ := Option.map_eq_some_iff.mp h
  exact Threads.running_of_step hstep

theorem infoRuns_counted {slot : FlashArea} {ok : InfoRun → Act × Env → Prop} {r : InfoRun}
    (h : (infoRuns slot).ReachableVia ok r) :
    r.threads.shared.btl.halted = none → r.Counted := by
  induction h with
  | init h =>
      obtain ⟨⟨flash, env, hboot⟩, hsubmitted, hhandled⟩ := h
      intro _
      have hcleared := bInit_tx slot flash env
      refine ⟨?_, .of_idle ?_ ?_, fun _ => hhandled, ?_⟩
      · rw [hboot]
        exact .boot slot flash env
      · rw [hboot]
        show (bInitBootloaderController slot flash env).tx.uiRetryCount = 0
        rw [hcleared]
        rfl
      · rw [hsubmitted]
        exact submissions_filter _
      · intro _
        rw [hhandled]
        exact Nat.zero_le _
  | step _ _ hstep ih =>
      intro hrun
      exact (ih (InfoRun.running_of_step hstep)).step hstep hrun

theorem infoRuns_pending {slot : FlashArea} {r : InfoRun}
    (h : (infoRuns slot).ReachableVia (fun r a => CancelsInTime r.threads a) r) :
    r.threads.shared.btl.halted = none → r.threads.shared.line.Waits →
      r.threads.timeoutPending := by
  induction h with
  | init h =>
      obtain ⟨⟨flash, env, hboot⟩, -, -⟩ := h
      intro _ hwaits
      rw [hboot] at hwaits
      exact absurd hwaits.1 (bInit_watchdog slot flash env).1.1
  | @step r r' a hreach hok hstep ih =>
      intro hrun
      have hrun₀ := InfoRun.running_of_step hstep
      have hclear := (infoRuns_counted hreach hrun₀).clear
      obtain ⟨t', hthreads, rfl⟩ := Option.map_eq_some_iff.mp hstep
      exact pending_step hclear (ih hrun₀) hok hthreads hrun

/-- The retransmission of an info frame. -/
structure InfoRun.Bounded (r : InfoRun) : Prop where
  idle : r.threads.shared.btl.tx.eTxState = .idle → r.threads.shared.btl.tx.uiRetryCount = 0
  retries : r.threads.shared.btl.tx.uiRetryCount ≤ BOOTLOADER_TX_Retry_MAX_COUNT
  submitted : r.submitted ≤ 1 + BOOTLOADER_TX_Retry_MAX_COUNT
  /-- The timeout is scheduled, or a thread is going to schedule it or to abort. -/
  pending : r.threads.shared.line.Waits → r.threads.timeoutPending
  /-- It is scheduled where no operation is in progress. -/
  scheduled : r.threads.quiet → r.threads.shared.line.Waits → r.threads.shared.txWork.Pending
  /-- The handler runs for one frame only so often. -/
  handled : r.threads.shared.line.Waits → r.handled ≤ BOOTLOADER_TX_Retry_MAX_COUNT + 1

/-- Without any condition on the run. -/
theorem InfoRun.Counted.bounded {r : InfoRun} (hr : r.Counted)
    (hp : r.threads.shared.line.Waits → r.threads.timeoutPending) : r.Bounded where
  idle h := (hr.retries.idle h).1
  retries := hr.retries.count
  submitted := by
    have hsubmitted := hr.retries.submitted
    have hcount := hr.retries.count
    have hsub : submissions r.threads.shared.line.infos = submissions r.threads.shared.btl.log :=
      submissions_filter _
    rw [hsub] at hsubmitted
    unfold InfoRun.submitted
    omega
  pending := hp
  scheduled := by
    intro hquiet hwaits
    obtain ⟨hcan, hhandler, -⟩ := hquiet
    rcases hp hwaits with hscheduled | hpends | hpends
    · exact ((Bool.or_eq_true _ _).mp hscheduled).imp_left r.threads.shared.txTimer.trans
    · cases hpc : r.threads.can with
      | idle =>
          rw [hpc] at hpends
          exact hpends.elim
      | _ =>
          rw [hpc] at hcan
          cases hcan
    · rw [hhandler] at hpends
      exact hpends.elim
  handled := by
    intro hwaits
    have hhandled := hr.handled hwaits
    have hcount := hr.retries.count
    have hweight : r.threads.txHandler.weight r.threads.shared.line.tx ≤ 1 :=
      TxHandler.weight_le
    omega

/-- **The retransmission is bounded**, in every run in which no cancellation comes late. -/
theorem retransmission_bounded {slot : FlashArea} {r : InfoRun}
    (h : (infoRuns slot).ReachableVia (fun r a => CancelsInTime r.threads a) r)
    (hrun : r.threads.shared.btl.halted = none) : r.Bounded :=
  (infoRuns_counted h hrun).bounded (infoRuns_pending h hrun)

/-! ## §7. Runs. -/

/-- The threads at time 0, with the counts. -/
def InfoRun.boot : InfoRun where
  threads := Threads.boot (bInitBootloaderController ⟨0x4000⟩ (fun _ => 0) Env.success)
  submittedIdle := 0
  handled := 0

theorem init_boot : (infoRuns ⟨0x4000⟩).init InfoRun.boot :=
  ⟨⟨_, _, rfl⟩, by decide +kernel, rfl⟩

/-- The timer handler has been started when the frame is acknowledged.  It finds
nothing outstanding, and cancels the timeout of the next frame. -/
def lateCancellation : List (Act × Env) :=
  atTime 0 (command requestFrame 5 ++ infoRequest)
    ++ atTime TIMEOUT_LOST_PACKET_TX_ms
      ([.txExpires, .txRuns] ++ infoAck 0 ++ [.txHandler] ++ infoRequest ++ [.txHandler])

/-- The next frame has no timeout. -/
theorem not_retransmission_bounded :
    ¬∀ r, (infoRuns ⟨0x4000⟩).Reachable r → r.threads.shared.btl.halted = none → r.Bounded := by
  intro h
  have hrun : (lateCancellation.foldlM InfoRun.step InfoRun.boot).map (fun r =>
      (decide r.threads.quiet, r.threads.shared.btl.halted.isSome, r.threads.shared.state,
        r.threads.shared.btl.tx.eTxState, decide r.threads.shared.txWork.Pending))
      = some (true, false, .fwImgWriteInProg, .inProgress, false) := by decide +kernel
  obtain ⟨r, hr, hout⟩ := Option.map_eq_some_iff.mp hrun
  obtain ⟨hquiet, hnone, hst, htx, hno⟩ : r.threads.quiet
      ∧ r.threads.shared.btl.halted.isSome = false
      ∧ r.threads.shared.state = .fwImgWriteInProg
      ∧ r.threads.shared.btl.tx.eTxState = .inProgress
      ∧ ¬ r.threads.shared.txWork.Pending := by simpa using hout
  have hreach : (infoRuns ⟨0x4000⟩).Reachable r :=
    TransSys.Reachable.foldlM (fun _ _ _ h => h) (.init init_boot) _ hr
  have hbounded := h r hreach (by simpa using hnone)
  have hwaits : r.threads.shared.line.Waits := by
    refine ⟨hst, ?_⟩
    show r.threads.shared.btl.tx.eTxState ≠ .idle
    rw [htx]
    decide
  exact hno (hbounded.scheduled hquiet hwaits)

/-- A frame that is never acknowledged, up to its third retry. -/
theorem retransmission_bounded_third : ∃ r : InfoRun,
    r.threads.shared.btl.tx.uiRetryCount = 3 ∧ r.submitted = 4 ∧ r.handled = 3 ∧ r.Bounded := by
  have hrun : ((atTime 0 (command requestFrame 5 ++ infoRequest)
      ++ atTime TIMEOUT_LOST_PACKET_TX_ms (txRetry ++ txRetry ++ txRetry)).foldlM
      (TransSys.guarded (fun r a => CancelsInTime r.threads a) InfoRun.step) InfoRun.boot).map
      (fun r => (r.threads.shared.btl.halted.isSome, r.threads.shared.btl.tx.uiRetryCount,
        r.submitted, r.handled))
      = some (false, 3, 4, 3) := by decide +kernel
  obtain ⟨r, hr, hout⟩ := Option.map_eq_some_iff.mp hrun
  obtain ⟨hnone, hcount, hsubmitted, hhandled⟩ : r.threads.shared.btl.halted.isSome = false
      ∧ r.threads.shared.btl.tx.uiRetryCount = 3 ∧ r.submitted = 4 ∧ r.handled = 3 := by
    simpa using hout
  have hreach : (infoRuns ⟨0x4000⟩).ReachableVia (fun r a => CancelsInTime r.threads a) r :=
    TransSys.ReachableVia.foldlM (fun _ _ _ h => TransSys.guarded_some h) (.init init_boot) _ hr
  exact ⟨r, hcount, hsubmitted, hhandled, retransmission_bounded hreach (by simpa using hnone)⟩

end WallController.Bootloader
