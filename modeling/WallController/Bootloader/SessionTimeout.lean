/-
  WallController.Bootloader.SessionTimeout
  ────────────────────────────────
  **A STALLED SESSION IS DETECTED.**

  While an image is being written the timeout is armed with the deadline of
  the last refresh, and the state work item is scheduled or about to run
  (`Watched`); the state handler ends a session only when that deadline has
  passed (`FiresWhenDue`).

  Both hold in every run in which the end of the image is handled outside the
  window of the Tx handler, no session is started while that handler is going
  to cancel the state work item of the one it has aborted, and no expiry of the
  state timer falls into the rest of a cancelled run of its handler, where the
  kernel refuses it (`session_watched`).  Otherwise the new session has no
  watchdog (`session_not_watched`).
-/
import WallController.Bootloader.AcceptedUpdate

namespace WallController.Bootloader

open WallController.Lib

/-! ## §1. The invariant of the timeout. -/

namespace Timeout

/-- The state work item is delayed or queued. -/
def Scheduled (τ : Timeout) : Prop := τ.dog.work.isSome = true ∨ τ.queued = true

/-- The timeout has been armed by the last refresh. -/
structure Armed (τ : Timeout) : Prop where
  inProg : τ.dog.state = .fwImgWriteInProg → τ.dog.armed = true
  deadline : τ.dog.armed = true →
    ∃ now uiTimeOut_ms, τ.last = some (now, uiTimeOut_ms) ∧ τ.dog.deadline = now + uiTimeOut_ms

theorem Armed.moved {τ : Timeout} {s : BootloaderState} (hs : s ≠ .fwImgWriteInProg) :
    (τ.moved s).Armed := by
  refine ⟨fun h => absurd h hs, nofun⟩

theorem Armed.refresh (τ : Timeout) (now : Int) (uiTimeOut_ms : Nat) :
    (τ.refresh now uiTimeOut_ms).Armed :=
  ⟨fun _ => rfl, fun _ => ⟨now, uiTimeOut_ms, rfl, rfl⟩⟩

theorem Armed.cancelled {τ : Timeout} (h : τ.Armed) : τ.cancelled.Armed := ⟨h.inProg, h.deadline⟩

/-- The work item while an image is being written; `P` is that its handler is
about to look at the deadline. -/
def Watches (τ : Timeout) (P : Prop) : Prop :=
  τ.dog.state = .fwImgWriteInProg → τ.Scheduled ∨ P

theorem watches_moved {τ : Timeout} {s : BootloaderState} {P : Prop}
    (hs : s ≠ .fwImgWriteInProg) : (τ.moved s).Watches P :=
  fun h => absurd h hs

theorem watches_refresh (τ : Timeout) (now : Int) (uiTimeOut_ms : Nat) (P : Prop) :
    (τ.refresh now uiTimeOut_ms).Watches P :=
  fun _ => .inl (.inl rfl)

/-- An expired delay leaves the work item queued, where it is not refused. -/
theorem watches_expired {τ : Timeout} {P : Prop} {canceling : Bool}
    (hok : canceling = true → τ.dog.state = .fwImgWriteInProg → P) :
    (τ.expired canceling).Watches P := by
  intro hst
  cases canceling with
  | false => exact .inl (.inr (Bool.or_true _))
  | true => exact .inr (hok rfl hst)

theorem watches_cancelled {τ : Timeout} {P : Prop} (hs : τ.dog.state ≠ .fwImgWriteInProg) :
    τ.cancelled.Watches P :=
  fun h => absurd h hs

end Timeout

open Timeout

theorem TxMoves.armed {env : Env} {p : TxPc} {τ τ' : Timeout} (h : TxMoves env p τ τ')
    (ha : τ.Armed) : τ'.Armed := by
  cases h with
  | kept => exact ha
  | refreshed _ => exact .refresh τ _ _
  | aborted _ => exact .moved (by decide)
  | cancelled _ => exact ha.cancelled

theorem TxMoves.watches {env : Env} {p : TxPc} {τ τ' : Timeout} {P : Prop}
    (h : TxMoves env p τ τ') (hp : p = .cancelState → τ.dog.state ≠ .fwImgWriteInProg)
    (hw : τ.Watches P) : τ'.Watches P := by
  cases h with
  | kept => exact hw
  | refreshed _ => exact watches_refresh τ _ _ P
  | aborted _ => exact watches_moved (by decide)
  | cancelled hc => exact watches_cancelled (hp hc)

theorem CanMoves.watched {env : Env} {pc : CanPc} {τ τ' : Timeout} {P : Prop}
    (h : CanMoves env pc τ τ') (hpc : pc.allows τ.dog.state) (ha : τ.Armed) (hw : τ.Watches P) :
    τ'.Armed ∧ τ'.Watches P := by
  have hmoved : ∀ s, s ≠ BootloaderState.fwImgWriteInProg →
      (τ.moved s).Armed ∧ (τ.moved s).Watches P :=
    fun s hs => ⟨.moved hs, watches_moved hs⟩
  have hrefresh : ∀ (τ : Timeout) now c, (τ.refresh now c).Armed ∧ (τ.refresh now c).Watches P :=
    fun τ now c => ⟨.refresh τ now c, watches_refresh τ now c P⟩
  have hdone : τ.dog.state = .fwImgWriteCompleted ∨ τ.dog.state = .reboot →
      τ.dog.state ≠ .fwImgWriteInProg := by
    intro hst
    rcases hst with hst | hst <;> rw [hst] <;> decide
  cases h with
  | kept => exact ⟨ha, hw⟩
  | tx hp ht =>
      refine ⟨ht.armed ha, ht.watches ?_ hw⟩
      intro hc
      rw [hp, hc] at hpc
      rcases hpc with hs | hs <;> rw [hs] <;> decide
  | started _ => exact hrefresh _ _ _
  | refreshed _ _ => exact hrefresh _ _ _
  | gaveUp _ => exact hmoved _ (by decide)
  | completed _ _ => exact hmoved _ (by decide)
  | invalidated hst => exact hmoved _ (hdone hst)
  | cancelled hst => exact ⟨ha.cancelled, watches_cancelled (hdone hst)⟩
  | upgradeFailed _ => exact hmoved _ (by decide)
  | rebooting _ => exact hmoved _ (by decide)
  | refreshedReboot _ => exact hrefresh _ _ _
  | reinitialized _ => exact hmoved _ (by decide)

/-- The state handler schedules its work item again where it is too early. -/
theorem StateMoves.watched {env : Env} {pc : StateHandler} {τ τ' : Timeout} {P : Prop}
    (h : StateMoves env pc τ τ') (ha : τ.Armed) (hw : τ.Watches (pc = .lock ∨ P)) :
    τ'.Armed ∧ τ'.Watches P := by
  cases h with
  | kept harmed =>
      refine ⟨ha, ?_⟩
      intro hst
      rcases hw hst with h | h | h
      · exact .inl h
      · have hno := harmed h
        rw [ha.inProg hst] at hno
        cases hno
      · exact .inr h
  | rescheduled _ => exact ⟨⟨ha.inProg, ha.deadline⟩, fun _ => .inl (.inl rfl)⟩
  | rebooting _ => exact ⟨.moved (by decide), watches_moved (by decide)⟩
  | expired _ _ _ _ => exact ⟨.moved (by decide), watches_moved (by decide)⟩

/-! ## §2. The claim on a state, and on a step of the state handler. -/

/-- The CAN thread handles no frame. -/
def CanPc.isIdle : CanPc → Bool
  | .idle => true
  | _ => false

/-- No operation is in progress. -/
def Threads.quiet (t : Threads) : Prop :=
  t.can.isIdle = true ∧ t.txHandler = .idle ∧ t.stateHandler = .idle

instance (t : Threads) : Decidable t.quiet := inferInstanceAs (Decidable (_ ∧ _ ∧ _))

/-- The watchdog of the session. -/
structure Watched (t : Threads) : Prop where
  /-- A stalled session is detected. -/
  detected : t.quiet → t.shared.state = .fwImgWriteInProg →
    t.shared.btl.timers.bBootloaderStateTimeoutArmed = true ∧
    (∃ now uiTimeOut_ms, t.shared.refreshed = some (now, uiTimeOut_ms) ∧
      t.shared.btl.timers.iBootloaderStateDeadline_ms ≤ now + uiTimeOut_ms) ∧
    t.shared.stateWork.Pending
  session : t.shared.btl.timers.bBootloaderStateTimeoutArmed = true →
    t.shared.state = .fwImgWriteInProg ∨ t.shared.state = .reboot

/-- The state handler ends a session, or begins to, only when the deadline of
the last refresh has passed. -/
def FiresWhenDue (t : Threads) (env : Env) (t' : Threads) : Prop :=
  t'.shared.state ≠ t.shared.state ∨ t'.stateHandler = .cancelTx →
    t.shared.btl.timers.bBootloaderStateTimeoutArmed = true ∧
    ∃ now uiTimeOut_ms, t.shared.refreshed = some (now, uiTimeOut_ms) ∧
      now + uiTimeOut_ms ≤ env.uptime

/-! ## §3. The steps. -/

/-- The CAN thread starts a session. -/
def Threads.starting (t : Threads) : Act → Bool
  | .can => match t.can with | .setInProg _ => true | _ => false
  | _ => false

/-- The kernel does not queue the state work item, whose handler has been cancelled
and still runs. -/
def Threads.refused (t : Threads) : Act → Bool
  | .stateExpires => t.shared.stateWork.canceling
  | _ => false

/-- The order of the steps that a session depends on. -/
structure SessionOrdered (t : Threads) (a : Act × Env) : Prop where
  /-- The end of the image is not handled in the window of the Tx handler. -/
  ends : EndsOutsideAbort t a
  /-- No session is started while that handler is going to cancel the state work item. -/
  starts : t.starting a.1 = true → t.txHandler ≠ .tx .cancelState
  /-- No expiry is refused while the image is being written, unless the handler is still
  to look at the deadline. -/
  expires : t.refused a.1 = true → t.shared.state = .fwImgWriteInProg → t.stateHandler = .lock

theorem sessionOrdered_iff {t : Threads} {a : Act × Env} :
    SessionOrdered t a ↔ EndsOutsideAbort t a
      ∧ (t.starting a.1 = true → t.txHandler ≠ .tx .cancelState)
      ∧ (t.refused a.1 = true → t.shared.state = .fwImgWriteInProg → t.stateHandler = .lock) :=
  ⟨fun h => ⟨h.ends, h.starts, h.expires⟩, fun h => ⟨h.1, h.2.1, h.2.2⟩⟩

instance (t : Threads) (a : Act × Env) : Decidable (SessionOrdered t a) :=
  decidable_of_iff' _ sessionOrdered_iff

/-- The invariant of the threads. -/
structure Watching (t : Threads) : Prop where
  armed : t.shared.timeout.Armed
  watches : t.shared.timeout.Watches (t.stateHandler = .lock)
  cancel : t.txHandler = .tx .cancelState → t.shared.state ≠ .fwImgWriteInProg

/-- A session is going on after a step of the CAN thread only where it was
before, or has been started. -/
theorem CanMoves.in_prog {env : Env} {pc : CanPc} {τ τ' : Timeout} (h : CanMoves env pc τ τ')
    (hst : τ'.dog.state = .fwImgWriteInProg) :
    τ.dog.state = .fwImgWriteInProg ∨ ∃ m, pc = .setInProg m := by
  cases h with
  | kept => exact .inl hst
  | tx _ ht =>
      cases ht with
      | kept => exact .inl hst
      | refreshed hst => exact .inl hst
      | aborted _ => cases hst
      | cancelled _ => exact .inl hst
  | started hp => exact .inr ⟨_, hp⟩
  | refreshed _ hst => exact .inl hst
  | gaveUp _ => cases hst
  | completed _ _ => cases hst
  | invalidated _ => exact .inl hst
  | cancelled _ => exact .inl hst
  | upgradeFailed _ => cases hst
  | rebooting _ => cases hst
  | refreshedReboot _ => exact .inl hst
  | reinitialized _ => cases hst

theorem watching_can {t : Threads} {env : Env} {pc : CanPc} {s : Shared} (hc : Consistent t)
    (hi : Watching t) (hok : SessionOrdered t (.can, env))
    (h : t.can.step env t.shared = some (pc, s)) (hrun : s.btl.halted = none) :
    Watching { t with can := pc, shared := s } := by
  cases CanPc.step_stepped hc.can h with
  | stopped hhalt _ =>
      rw [hrun] at hhalt
      cases hhalt
  | moved hmoves _ =>
      obtain ⟨harmed, hwatches⟩ := hmoves.watched hc.can hi.armed hi.watches
      refine ⟨harmed, hwatches, ?_⟩
      intro htx hst
      rcases hmoves.in_prog hst with hwas | ⟨m, hm⟩
      · exact hi.cancel htx hwas
      · exact hok.starts (by simp [Threads.starting, hm]) htx

/-- The state work item is about to be cancelled only after the session has
been aborted. -/
theorem TxPc.step_cancelState {env : Env} {s : Shared} {p : TxPc}
    (h : (p.step env s).1 = some .cancelState) : (p.step env s).2.state = .error := by
  cases p with
  | retry =>
      change (retrySection env s.btl).1 = some .cancelState at h
      unfold retrySection at h
      split at h
      · cases h
      · split at h <;> cases h
  | schedule => cases h
  | error =>
      change (if s.btl.mgmt.eBtlState = .fwImgWriteInProg then some TxPc.errorCancel else none)
        = some .cancelState at h
      split at h <;> cases h
  | errorCancel => cases h
  | abort => rfl
  | cancelState => cases h
  | cancelTx => cases h

theorem watching_txFunctions {t : Threads} {env : Env} {p : TxPc} (hi : Watching t)
    (hp : t.txHandler = .tx p) :
    Watching { t with
      txHandler := .next (p.step env t.shared).1, shared := (p.step env t.shared).2 } := by
  have hmoves := p.step_moves env t.shared
  refine ⟨hmoves.armed hi.armed, hmoves.watches ?_ hi.watches, ?_⟩
  · intro hc
    apply hi.cancel
    rw [hp, hc]
  · intro hnext
    have hsome : (p.step env t.shared).1 = some .cancelState := by
      change TxHandler.next (p.step env t.shared).1 = .tx .cancelState at hnext
      generalize (p.step env t.shared).1 = p' at hnext
      cases p' with
      | none => cases hnext
      | some p' =>
          cases hnext
          rfl
    show (p.step env t.shared).2.state ≠ _
    rw [TxPc.step_cancelState hsome]
    decide

theorem watching_txHandler {t : Threads} {env : Env} {pc : TxHandler} {s : Shared}
    (hi : Watching t) (h : t.txHandler.step env t.shared = some (pc, s)) :
    Watching { t with txHandler := pc, shared := s } := by
  cases hp : t.txHandler with
  | idle =>
      rw [hp] at h
      cases h
  | lock =>
      rw [hp] at h
      unfold TxHandler.step at h
      simp only at h
      split at h
      · cases h
        exact ⟨hi.armed, hi.watches, nofun⟩
      split at h
      · cases h
        exact ⟨hi.armed, hi.watches, nofun⟩
      · cases h
        exact ⟨hi.armed, hi.watches, nofun⟩
  | tx p =>
      rw [hp] at h
      have hstep : TxHandler.step env t.shared (.tx p)
          = some (.next (p.step env t.shared).1, (p.step env t.shared).2) := rfl
      rw [hstep] at h
      cases h
      exact watching_txFunctions hi hp

theorem watching_stateHandler {t : Threads} {env : Env} {pc : StateHandler} {s : Shared}
    (hi : Watching t) (h : t.stateHandler.step env t.shared = some (pc, s)) :
    Watching { t with stateHandler := pc, shared := s } := by
  have hmoves := StateHandler.step_moves h
  obtain ⟨harmed, hwatches⟩ := hmoves.watched (P := pc = .lock) hi.armed
    fun hst => (hi.watches hst).imp id .inl
  refine ⟨harmed, hwatches, ?_⟩
  intro htx
  have hne := hi.cancel htx
  show s.timeout.dog.state ≠ _
  generalize s.timeout = τ at hmoves
  cases hmoves with
  | kept _ => exact hne
  | rescheduled _ => exact hne
  | rebooting _ => exact nofun
  | expired _ _ _ _ => exact nofun

theorem watching_step {t t' : Threads} {a : Act × Env} (hc : Consistent t) (hi : Watching t)
    (hok : SessionOrdered t a) (h : t.step a = some t') (hrun : t'.shared.btl.halted = none) :
    Watching t' := by
  obtain ⟨act, env⟩ := a
  unfold Threads.step at h
  split at h
  · cases h
  cases act with
  | frame f =>
      simp only at h
      split at h
      · next hidle =>
          cases h
          have hs : t.shared.state ≠ .fwImgWriteCompleted := by
            have hcan := hc.can
            rw [hidle] at hcan
            exact hcan
          obtain ⟨htimeout, -⟩ := receiveFrame_stepped f hs
          generalize receiveFrame f t.shared = r at htimeout
          have hst : r.2.state = t.shared.state := congrArg (fun τ => τ.dog.state) htimeout
          refine ⟨?_, ?_, ?_⟩
          · show r.2.timeout.Armed
            rw [htimeout]
            exact hi.armed
          · show r.2.timeout.Watches _
            rw [htimeout]
            exact hi.watches
          · intro htx
            show r.2.state ≠ _
            rw [hst]
            exact hi.cancel htx
      · cases h
  | can =>
      obtain ⟨⟨pc, s⟩, hs, rfl⟩ := Option.map_eq_some_iff.mp h
      exact watching_can hc hi hok hs hrun
  | txHandler =>
      obtain ⟨⟨pc, s⟩, hs, rfl⟩ := Option.map_eq_some_iff.mp h
      exact watching_txHandler hi hs
  | stateHandler =>
      obtain ⟨⟨pc, s⟩, hs, rfl⟩ := Option.map_eq_some_iff.mp h
      exact watching_stateHandler hi hs
  | txExpires =>
      obtain ⟨s, hs, rfl⟩ := Option.map_eq_some_iff.mp h
      have hkept := Shared.expireTx_timeout hs
      have hst : s.state = t.shared.state := congrArg (fun τ => τ.dog.state) hkept
      refine ⟨?_, ?_, ?_⟩
      · show s.timeout.Armed
        rw [hkept]
        exact hi.armed
      · show s.timeout.Watches _
        rw [hkept]
        exact hi.watches
      · intro htx
        show s.state ≠ _
        rw [hst]
        exact hi.cancel htx
  | stateExpires =>
      obtain ⟨s, hs, rfl⟩ := Option.map_eq_some_iff.mp h
      have hexpired := Shared.expireState_timeout hs
      have hst : s.state = t.shared.state := congrArg (fun τ => τ.dog.state) hexpired
      refine ⟨?_, ?_, ?_⟩
      · show s.timeout.Armed
        rw [hexpired]
        exact ⟨hi.armed.inProg, hi.armed.deadline⟩
      · -- the work item goes from the delay to the queue
        show s.timeout.Watches _
        rw [hexpired]
        exact watches_expired hok.expires
      · intro htx
        show s.state ≠ _
        rw [hst]
        exact hi.cancel htx
  | txRuns =>
      dsimp only at h
      split at h
      · obtain ⟨w, -, rfl⟩ := Option.map_eq_some_iff.mp h
        exact ⟨⟨hi.armed.inProg, hi.armed.deadline⟩, hi.watches, nofun⟩
      · cases h
  | stateRuns =>
      dsimp only at h
      split at h
      · obtain ⟨w, -, rfl⟩ := Option.map_eq_some_iff.mp h
        -- and from the queue to the handler
        exact ⟨⟨hi.armed.inProg, hi.armed.deadline⟩, fun _ => .inr rfl, hi.cancel⟩
      · cases h
  | txReturns =>
      dsimp only at h
      split at h
      · obtain ⟨w, -, rfl⟩ := Option.map_eq_some_iff.mp h
        exact ⟨⟨hi.armed.inProg, hi.armed.deadline⟩, hi.watches, hi.cancel⟩
      · cases h
  | stateReturns =>
      dsimp only at h
      split at h
      · obtain ⟨w, hw, rfl⟩ := Option.map_eq_some_iff.mp h
        refine ⟨⟨hi.armed.inProg, hi.armed.deadline⟩, ?_, hi.cancel⟩
        show Timeout.Watches { t.shared.timeout with queued := w.queued } _
        rw [DelayableWork.finish_queued hw]
        exact hi.watches
      · cases h

/-! ## §4. The runs. -/

theorem boot_watching (slot : FlashArea) (flash : Mem) (env : Env) :
    Watching (Threads.boot (bInitBootloaderController slot flash env)) := by
  obtain ⟨hst, harmed⟩ := bInit_watchdog slot flash env
  refine ⟨⟨?_, ?_⟩, ?_, nofun⟩
  · intro h
    exact absurd h hst.1
  · intro h
    change (bInitBootloaderController slot flash env).timers.bBootloaderStateTimeoutArmed = true at h
    rw [harmed] at h
    cases h
  · intro h
    exact absurd h hst.1

theorem threads_watching {slot : FlashArea} {t : Threads}
    (h : (threads slot).ReachableVia SessionOrdered t) :
    t.shared.btl.halted = none → Consistent t ∧ Watching t := by
  induction h with
  | init h =>
      obtain ⟨flash, env, rfl⟩ := h
      exact fun _ => ⟨boot_consistent slot flash env, boot_watching slot flash env⟩
  | @step t t' a _ hok hstep ih =>
      obtain ⟨hc, hi⟩ := ih (Threads.running_of_step hstep)
      intro hrun
      exact ⟨(step_keeps hc hok.ends hstep).inv hrun, watching_step hc hi hok hstep hrun⟩

/-- The state handler ends a session only where the timeout is armed, and due. -/
theorem StateHandler.step_due {env : Env} {s s' : Shared} {pc pc' : StateHandler}
    (h : pc.step env s = some (pc', s')) (hend : s'.state ≠ s.state ∨ pc' = .cancelTx) :
    s.timeout.dog.armed = true ∧ s.timeout.dog.deadline ≤ env.uptime := by
  have hsame : ∀ {b : Prop}, s.state ≠ s.state ∨ b → b := fun hor =>
    hor.resolve_left fun hne => hne rfl
  cases pc with
  | idle => cases h
  | lock =>
      unfold StateHandler.step at h
      simp only at h
      split at h
      · cases h
        cases hsame hend
      next harmed =>
      split at h
      · cases h
        cases hsame hend
      next hdue =>
      refine ⟨?_, ?_⟩
      · show s.btl.timers.bBootloaderStateTimeoutArmed = true
        simpa using harmed
      · show s.btl.timers.iBootloaderStateDeadline_ms ≤ env.uptime
        omega
  | cancelTx =>
      cases h
      cases hsame hend
  | reboot =>
      cases h
      cases hsame hend

theorem fires_when_due {t t' : Threads} {env : Env} (hi : t.shared.timeout.Armed)
    (h : t.step (.stateHandler, env) = some t') : FiresWhenDue t env t' := by
  unfold Threads.step at h
  split at h
  · cases h
  obtain ⟨⟨pc, s⟩, hs, rfl⟩ := Option.map_eq_some_iff.mp h
  intro hend
  obtain ⟨harmed, hdue⟩ := StateHandler.step_due hs hend
  obtain ⟨now, uiTimeOut_ms, hlast, hdeadline⟩ := hi.deadline harmed
  refine ⟨harmed, now, uiTimeOut_ms, hlast, ?_⟩
  rw [← hdeadline]
  exact hdue

/-- What the invariant says where no operation is in progress. -/
theorem Watching.watched {t : Threads} (hc : Consistent t) (hi : Watching t) : Watched t where
  detected hquiet hst := by
    have harmed := hi.armed.inProg hst
    obtain ⟨now, uiTimeOut_ms, hlast, hdeadline⟩ := hi.armed.deadline harmed
    refine ⟨harmed, ⟨now, uiTimeOut_ms, hlast, le_of_eq hdeadline⟩, ?_⟩
    rcases hi.watches hst with h | h
    · exact h.imp_left t.shared.stateTimer.trans
    · rw [hquiet.2.2] at h
      cases h
  session := hc.armed

/-- **A stalled session is detected, and no other is ended.**  In every run
whose steps are in the order of `SessionOrdered`, every state that has not
stopped is watched, and the state handler fires only when it is due. -/
theorem session_watched {slot : FlashArea} {t : Threads}
    (h : (threads slot).ReachableVia SessionOrdered t) (hrun : t.shared.btl.halted = none) :
    Watched t ∧ ∀ env t', (threads slot).step t (.stateHandler, env) t' → FiresWhenDue t env t' := by
  obtain ⟨hc, hi⟩ := threads_watching h hrun
  exact ⟨hi.watched hc, fun _ _ hstep => fires_when_due hi.armed hstep⟩

/-- A session has been started, and nothing else happens. -/
theorem session_watched_started : ∃ t : Threads,
    t.quiet ∧ t.shared.state = .fwImgWriteInProg ∧ Watched t := by
  have hrun : ((atTime 0 (command requestFrame 5)).foldlM
      (TransSys.guarded SessionOrdered Threads.step)
      (Threads.boot (bInitBootloaderController ⟨0x4000⟩ (fun _ => 0) Env.success))).map (fun t =>
        (decide t.quiet, t.shared.state, t.shared.btl.halted.isSome))
      = some (true, .fwImgWriteInProg, false) := by decide +kernel
  obtain ⟨t, ht, hout⟩ := Option.map_eq_some_iff.mp hrun
  obtain ⟨hquiet, hst, hnone⟩ : t.quiet ∧ t.shared.state = .fwImgWriteInProg
      ∧ t.shared.btl.halted.isSome = false := by simpa using hout
  have hreach : (threads ⟨0x4000⟩).ReachableVia SessionOrdered t :=
    TransSys.ReachableVia.foldlM (fun _ _ _ h => TransSys.guarded_some h) (.init ⟨_, _, rfl⟩) _ ht
  exact ⟨t, hquiet, hst, (session_watched hreach (by simpa using hnone)).1⟩

/-! ## §5. A session without a watchdog. -/

/-- The Tx handler aborts a session whose lost-packet report is not
acknowledged.  Before it cancels the state work item, the host recovers and
starts the next session. -/
def restartedSession : List (Act × Env) :=
  atTime 0 (command requestFrame 5 ++ command (bridgeFrame .getLostPacketInfo []) 4)
    ++ atTime TIMEOUT_LOST_PACKET_TX_ms txRetry
    ++ atTime (2 * TIMEOUT_LOST_PACKET_TX_ms) txRetry
    ++ atTime (3 * TIMEOUT_LOST_PACKET_TX_ms) txRetry
    ++ atTime (4 * TIMEOUT_LOST_PACKET_TX_ms)
      (txTimeOut 4 ++ command (bridgeFrame .recoverFromError []) 6 ++ command requestFrame 5
        ++ [.txHandler, .txHandler])

/-- The next session has no work item. -/
theorem session_not_watched :
    ¬ ∀ t : Threads, (threads ⟨0x4000⟩).Reachable t → t.shared.btl.halted = none → Watched t := by
  intro h
  have hrun : (Threads.run restartedSession).map (fun t =>
      (decide t.quiet, t.shared.state, t.shared.btl.halted.isSome,
        decide t.shared.stateWork.Pending))
      = some (true, .fwImgWriteInProg, false, false) := by decide +kernel
  obtain ⟨t, ht, hout⟩ := Option.map_eq_some_iff.mp hrun
  obtain ⟨hquiet, hst, hnone, hno⟩ : t.quiet ∧ t.shared.state = .fwImgWriteInProg
      ∧ t.shared.btl.halted.isSome = false ∧ ¬ t.shared.stateWork.Pending := by simpa using hout
  have hreach : (threads ⟨0x4000⟩).Reachable t :=
    TransSys.Reachable.foldlM (fun _ _ _ h => h) (.init ⟨_, _, rfl⟩) _ ht
  have hwatched := h t hreach (by simpa using hnone)
  exact hno (hwatched.detected hquiet hst).2.2

end WallController.Bootloader
