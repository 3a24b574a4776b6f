/-
  WallController.Bootloader.AcceptedUpdate
  ────────────────────────────────
  **AN ACCEPTED UPDATE AND THE TIMERS.**

  Once the image is completed, the session ends in the error state only where
  every upgrade request has failed, and a session that reboots stays so
  (`UpdateStands`).  The threads keep this as long as the end of the image is
  not handled while `vBtlTxTimeOutHandler` is between its look at the state
  and its abort (`update_not_aborted`).  In that window an accepted update is
  lost (`update_aborted`).
-/
import WallController.Bootloader.Timeout
import WallController.Bootloader.Host

namespace WallController.Bootloader

open WallController.Lib

/-! ## §1. The invariant of the threads. -/

/-- `vBtlTxTimeOutHandler` has found an image being written, and is going to
abort the session. -/
def TxHandler.aborting : TxHandler → Bool
  | .tx .errorCancel | .tx .abort => true
  | _ => false

/-- The program counters agree with the state of the session. -/
structure Consistent (t : Threads) : Prop where
  can : t.can.allows t.shared.state
  tx : t.txHandler.aborting = true → t.shared.state ≠ .fwImgWriteCompleted ∧ t.shared.state ≠ .reboot
  armed : t.shared.timeout.dog.armed = true →
    t.shared.state = .fwImgWriteInProg ∨ t.shared.state = .reboot

/-- The CAN thread runs the section of `vFinalize_FWImageWrite`. -/
def Threads.finalizing (t : Threads) : Act → Bool
  | .can => match t.can with | .finalize _ => true | _ => false
  | _ => false

/-- The end of the image is not handled in the window of the Tx handler. -/
def EndsOutsideAbort (t : Threads) (a : Act × Env) : Prop :=
  t.finalizing a.1 = true → t.txHandler.aborting = false

instance : ∀ t a, Decidable (EndsOutsideAbort t a) := fun t a =>
  inferInstanceAs (Decidable (t.finalizing a.1 = true → t.txHandler.aborting = false))

/-- What a step does to an accepted update. -/
def UpdateStands (t : Threads) (a : Act × Env) (t' : Threads) : Prop :=
  (t.shared.state = .fwImgWriteCompleted →
    t'.shared.state = .fwImgWriteCompleted ∨ t'.shared.state = .reboot ∨
    (t'.shared.state = .error ∧ a.1 = .can ∧ ∃ m rets, t.can = .requestAbort m rets ∧
      BOOTLOADER_MAX_REQUEST_UPGRADE_TURNs ≤ rets.length ∧ ∀ ret ∈ rets, ret ≠ 0)) ∧
  (t.shared.state = .reboot → t'.shared.state = .reboot)

/-- A step that leaves the state as it is. -/
theorem UpdateStands.of_state {t t' : Threads} {a : Act × Env}
    (h : t'.shared.state = t.shared.state) : UpdateStands t a t' := by
  refine ⟨fun hst => .inl ?_, fun hst => ?_⟩
  · rw [h, hst]
  · rw [h, hst]

/-- A step of a session that is neither completed nor rebooting. -/
theorem UpdateStands.of_open {t t' : Threads} {a : Act × Env}
    (hc : t.shared.state ≠ .fwImgWriteCompleted) (hr : t.shared.state ≠ .reboot) :
    UpdateStands t a t' :=
  ⟨fun hst => absurd hst hc, fun hst => absurd hst hr⟩

/-! ## §2. The steps. -/

/-- A step keeps the invariant, where the machine goes on, and the update. -/
structure StepKeeps (t : Threads) (a : Act × Env) (t' : Threads) : Prop where
  inv : t'.shared.btl.halted = none → Consistent t'
  stands : UpdateStands t a t'

/-- A step of another thread that leaves the state as it is; it arms the
timeout, or goes to abort, only while an image is being written. -/
theorem StepKeeps.of_kept {t t' : Threads} {a : Act × Env} (hi : Consistent t)
    (hcan : t'.can = t.can)
    (htx : t'.txHandler.aborting = true →
      t.txHandler.aborting = true ∨ t.shared.state = .fwImgWriteInProg)
    (harmed : t'.shared.timeout.dog.armed = true →
      t.shared.timeout.dog.armed = true ∨ t.shared.state = .fwImgWriteInProg)
    (hst : t'.shared.state = t.shared.state) : StepKeeps t a t' where
  inv _ := by
    refine ⟨?_, ?_, ?_⟩
    · rw [hcan, hst]
      exact hi.can
    · intro h
      rw [hst]
      rcases htx h with h | h
      · exact hi.tx h
      · rw [h]
        decide
    · intro h
      rw [hst]
      rcases harmed h with h | h
      · exact hi.armed h
      · exact .inl h
  stands := .of_state hst

/-- Another thread ends a session that is neither completed nor rebooting. -/
theorem StepKeeps.of_error {t t' : Threads} {a : Act × Env} (hi : Consistent t)
    (hcan : t'.can = t.can) (hc : t.shared.state ≠ .fwImgWriteCompleted)
    (hr : t.shared.state ≠ .reboot) (hmoved : t'.shared.timeout = t.shared.timeout.moved .error) :
    StepKeeps t a t' where
  inv _ := by
    have hst : t'.shared.state = .error := congrArg (fun τ => τ.dog.state) hmoved
    refine ⟨?_, ?_, ?_⟩
    · rw [hcan, hst]
      exact CanPc.allows_error hi.can hc hr
    · intro _
      rw [hst]
      decide
    · intro h
      rw [hmoved] at h
      cases h
  stands := .of_open hc hr

theorem step_frame {t : Threads} {a : Act × Env} (f : CanFrame) (hi : Consistent t)
    (hidle : t.can = .idle) :
    StepKeeps t a { t with can := (receiveFrame f t.shared).1, shared := (receiveFrame f t.shared).2 }
    := by
  have hs : t.shared.state ≠ .fwImgWriteCompleted := by
    have hcan := hi.can
    rw [hidle] at hcan
    exact hcan
  obtain ⟨htimeout, hallows⟩ := receiveFrame_stepped f hs
  generalize receiveFrame f t.shared = r at htimeout hallows
  have hst : r.2.state = t.shared.state := congrArg (fun τ => τ.dog.state) htimeout
  refine ⟨fun _ => ⟨?_, ?_, ?_⟩, .of_state hst⟩
  · show r.1.allows r.2.state
    rw [hst]
    exact hallows
  · intro h
    show r.2.state ≠ _ ∧ r.2.state ≠ _
    rw [hst]
    exact hi.tx h
  · intro h
    show r.2.state = _ ∨ r.2.state = _
    rw [hst]
    apply hi.armed
    rw [← htimeout]
    exact h

/-- The armed flag after a step of the CAN thread. -/
theorem CanMoves.armed {env : Env} {pc : CanPc} {τ τ' : Timeout} (h : CanMoves env pc τ τ')
    (hpc : pc.allows τ.dog.state)
    (harmed : τ.dog.armed = true → τ.dog.state = .fwImgWriteInProg ∨ τ.dog.state = .reboot)
    (h' : τ'.dog.armed = true) : τ'.dog.state = .fwImgWriteInProg ∨ τ'.dog.state = .reboot := by
  cases h with
  | kept => exact harmed h'
  | tx _ ht =>
      cases ht with
      | kept => exact harmed h'
      | refreshed hst => exact .inl hst
      | aborted _ => cases h'
      | cancelled _ => exact harmed h'
  | started _ => exact .inl rfl
  | refreshed _ hst => exact .inl hst
  | gaveUp _ => cases h'
  | completed _ _ => cases h'
  | invalidated _ => cases h'
  | cancelled _ => exact harmed h'
  | upgradeFailed _ => cases h'
  | rebooting _ => cases h'
  | refreshedReboot hr =>
      rw [hr] at hpc
      exact .inr hpc
  | reinitialized _ => cases h'

/-- The state after a step of the CAN thread, where it has been completed or
is rebooting. -/
theorem CanMoves.stands {env : Env} {pc : CanPc} {τ τ' : Timeout} (h : CanMoves env pc τ τ')
    (hpc : pc.allows τ.dog.state) :
    (τ.dog.state = .fwImgWriteCompleted →
      τ'.dog.state = .fwImgWriteCompleted ∨ τ'.dog.state = .reboot ∨
      (τ'.dog.state = .error ∧ ∃ m rets, pc = .requestAbort m rets ∧
        BOOTLOADER_MAX_REQUEST_UPGRADE_TURNs ≤ rets.length ∧ ∀ ret ∈ rets, ret ≠ 0)) ∧
    (τ.dog.state = .reboot → τ'.dog.state = .reboot) := by
  have hsame : ∀ {τ' : Timeout}, τ'.dog.state = τ.dog.state →
      (τ.dog.state = .fwImgWriteCompleted →
        τ'.dog.state = .fwImgWriteCompleted ∨ τ'.dog.state = .reboot ∨
        (τ'.dog.state = .error ∧ ∃ m rets, pc = .requestAbort m rets ∧
          BOOTLOADER_MAX_REQUEST_UPGRADE_TURNs ≤ rets.length ∧ ∀ ret ∈ rets, ret ≠ 0)) ∧
      (τ.dog.state = .reboot → τ'.dog.state = .reboot) := by
    intro τ' heq
    rw [heq]
    exact ⟨.inl, id⟩
  cases h with
  | kept => exact hsame rfl
  | tx hp ht =>
      cases ht with
      | kept => exact hsame rfl
      | refreshed _ => exact hsame rfl
      | aborted hab =>
          rw [hp, hab] at hpc
          rcases hpc with hs | hs <;> rw [hs] <;> exact ⟨nofun, nofun⟩
      | cancelled _ => exact hsame rfl
  | started hp =>
      rw [hp] at hpc
      rcases hpc with hs | hs <;> rw [hs] <;> exact ⟨nofun, nofun⟩
  | refreshed _ _ => exact hsame rfl
  | gaveUp hst =>
      rw [hst]
      exact ⟨nofun, nofun⟩
  | completed _ hst =>
      rw [hst]
      exact ⟨nofun, nofun⟩
  | invalidated _ => exact hsame rfl
  | cancelled _ => exact hsame rfl
  | upgradeFailed hp =>
      rw [hp] at hpc
      rw [hpc.1]
      exact ⟨fun _ => .inr (.inr ⟨rfl, _, _, hp, hpc.2⟩), nofun⟩
  | rebooting hp => exact ⟨fun _ => .inr (.inl rfl), fun _ => rfl⟩
  | refreshedReboot _ => exact hsame rfl
  | reinitialized hp =>
      rw [hp] at hpc
      rw [show τ.dog.state = .error from hpc]
      exact ⟨nofun, nofun⟩

/-- The image is not completed, nor the upgrade requested, while the Tx
handler is going to abort the session. -/
theorem CanMoves.not_completed {env : Env} {pc : CanPc} {τ τ' : Timeout} (h : CanMoves env pc τ τ')
    (hpc : pc.allows τ.dog.state) (hfin : ∀ m, pc ≠ .finalize m)
    (hs : τ.dog.state ≠ .fwImgWriteCompleted ∧ τ.dog.state ≠ .reboot) :
    τ'.dog.state ≠ .fwImgWriteCompleted ∧ τ'.dog.state ≠ .reboot := by
  cases h with
  | kept => exact hs
  | tx _ ht =>
      cases ht with
      | kept => exact hs
      | refreshed _ => exact hs
      | aborted _ => exact ⟨nofun, nofun⟩
      | cancelled _ => exact hs
  | started _ => exact ⟨nofun, nofun⟩
  | refreshed _ _ => exact hs
  | gaveUp _ => exact ⟨nofun, nofun⟩
  | completed hp _ => exact absurd hp (hfin _)
  | invalidated _ => exact hs
  | cancelled _ => exact hs
  | upgradeFailed _ => exact ⟨nofun, nofun⟩
  | rebooting hp =>
      rw [hp] at hpc
      exact absurd hpc hs.1
  | refreshedReboot _ => exact hs
  | reinitialized _ => exact ⟨nofun, nofun⟩

theorem step_can {t : Threads} {env : Env} {pc : CanPc} {s : Shared} (hi : Consistent t)
    (hok : EndsOutsideAbort t (.can, env)) (h : t.can.step env t.shared = some (pc, s)) :
    StepKeeps t (.can, env) { t with can := pc, shared := s } := by
  cases CanPc.step_stepped hi.can h with
  | stopped hhalt hst =>
      refine ⟨?_, ?_⟩
      · intro hnone
        change s.btl.halted = none at hnone
        rw [hnone] at hhalt
        cases hhalt
      · rcases hst with hst | hst
        · exact .of_state hst
        · refine .of_open ?_ ?_ <;> rcases hst with hst | hst <;> rw [hst] <;> decide
  | moved hmoves hpc =>
      refine ⟨fun _ => ⟨hpc, ?_, hmoves.armed hi.can hi.armed⟩, ?_⟩
      · intro hab
        refine hmoves.not_completed hi.can ?_ (hi.tx hab)
        intro m hm
        have hno : t.txHandler.aborting = false := hok (by simp [Threads.finalizing, hm])
        change t.txHandler.aborting = true at hab
        rw [hab] at hno
        cases hno
      · obtain ⟨hcompleted, hreboot⟩ := hmoves.stands hi.can
        refine ⟨fun hst => ?_, hreboot⟩
        rcases hcompleted hst with h₁ | h₁ | ⟨herr, hfail⟩
        · exact .inl h₁
        · exact .inr (.inl h₁)
        · exact .inr (.inr ⟨herr, rfl, hfail⟩)

/-- Where the Tx handler is going to abort, it was so before, or has read the
state just now. -/
theorem TxPc.step_aborting {env : Env} {s : Shared} {p : TxPc}
    (h : (TxHandler.next (p.step env s).1).aborting = true) :
    (TxHandler.tx p).aborting = true ∨ s.state = .fwImgWriteInProg := by
  cases p with
  | retry =>
      change (TxHandler.next (retrySection env s.btl).1).aborting = true at h
      unfold retrySection at h
      split at h
      · cases h
      · split at h <;> cases h
  | schedule => cases h
  | error =>
      change (TxHandler.next (if s.btl.mgmt.eBtlState = .fwImgWriteInProg then some .errorCancel
        else none)).aborting = true at h
      split at h
      · next hst => exact .inr hst
      · cases h
  | errorCancel => exact .inl rfl
  | abort => exact .inl rfl
  | cancelState => cases h
  | cancelTx => cases h

theorem step_txFunctions {t : Threads} {a : Act × Env} {env : Env} {p : TxPc} (hi : Consistent t)
    (hp : t.txHandler = .tx p) :
    StepKeeps t a
      { t with txHandler := .next (p.step env t.shared).1, shared := (p.step env t.shared).2 } := by
  have hmoves := p.step_moves env t.shared
  have habort := @TxPc.step_aborting env t.shared p
  rw [← hp] at habort
  generalize p.step env t.shared = r at hmoves habort
  obtain ⟨p', s⟩ := r
  generalize hτ : s.timeout = τ at hmoves
  have hstate : s.state = τ.dog.state := by
    rw [← hτ]
    rfl
  have hkept : τ.dog.state = t.shared.state →
      (τ.dog.armed = true → t.shared.timeout.dog.armed = true ∨
        t.shared.state = .fwImgWriteInProg) →
      StepKeeps t a { t with txHandler := .next p', shared := s } := by
    intro hst harmed
    refine .of_kept hi rfl habort ?_ (hstate.trans hst)
    intro h
    apply harmed
    rw [← hτ]
    exact h
  cases hmoves with
  | kept => exact hkept rfl .inl
  | refreshed hst => exact hkept rfl fun _ => .inr hst
  | aborted hab =>
      have hopen := hi.tx (by rw [hp, hab]; rfl)
      exact .of_error hi rfl hopen.1 hopen.2 hτ
  | cancelled _ => exact hkept rfl .inl

theorem step_txHandler {t : Threads} {a : Act × Env} {env : Env} {pc : TxHandler} {s : Shared}
    (hi : Consistent t) (h : t.txHandler.step env t.shared = some (pc, s)) :
    StepKeeps t a { t with txHandler := pc, shared := s } := by
  cases hp : t.txHandler with
  | idle =>
      rw [hp] at h
      cases h
  | lock =>
      rw [hp] at h
      unfold TxHandler.step at h
      simp only at h
      split at h
      · cases h
        exact .of_kept hi rfl nofun .inl rfl
      split at h
      · cases h
        exact .of_kept hi rfl nofun .inl rfl
      · cases h
        exact .of_kept hi rfl nofun .inl rfl
  | tx p =>
      rw [hp] at h
      have hstep : TxHandler.step env t.shared (.tx p)
          = some (.next (p.step env t.shared).1, (p.step env t.shared).2) := rfl
      rw [hstep] at h
      cases h
      exact step_txFunctions hi hp

theorem step_stateHandler {t : Threads} {a : Act × Env} {env : Env} {pc : StateHandler}
    {s : Shared} (hi : Consistent t) (h : t.stateHandler.step env t.shared = some (pc, s)) :
    StepKeeps t a { t with stateHandler := pc, shared := s } := by
  have hmoves := StateHandler.step_moves h
  generalize hτ : s.timeout = τ at hmoves
  have hstate : s.state = τ.dog.state := by
    rw [← hτ]
    rfl
  have hkept : τ.dog.state = t.shared.state →
      (τ.dog.armed = true → t.shared.timeout.dog.armed = true) →
      StepKeeps t a { t with stateHandler := pc, shared := s } := by
    intro hst harmed
    refine .of_kept hi rfl .inl ?_ (hstate.trans hst)
    intro h
    refine .inl (harmed ?_)
    rw [← hτ]
    exact h
  cases hmoves with
  | kept _ => exact hkept rfl id
  | rescheduled _ => exact hkept rfl id
  | rebooting hst => exact hkept hst.symm nofun
  | expired _ harmed _ hst =>
      rcases hi.armed harmed with hs | hs
      · refine .of_error hi rfl ?_ ?_ hτ <;> rw [hs] <;> decide
      · exact absurd hs hst

/-- **Every step keeps the invariant and the update.** -/
theorem step_keeps {t t' : Threads} {a : Act × Env} (hi : Consistent t)
    (hok : EndsOutsideAbort t a) (h : t.step a = some t') : StepKeeps t a t' := by
  obtain ⟨act, env⟩ := a
  unfold Threads.step at h
  split at h
  · cases h
  cases act with
  | frame f =>
      simp only at h
      split at h
      · next hidle =>
          cases h
          exact step_frame f hi hidle
      · cases h
  | can =>
      obtain ⟨⟨pc, s⟩, hs, rfl⟩ := Option.map_eq_some_iff.mp h
      exact step_can hi hok hs
  | txHandler =>
      obtain ⟨⟨pc, s⟩, hs, rfl⟩ := Option.map_eq_some_iff.mp h
      exact step_txHandler hi hs
  | stateHandler =>
      obtain ⟨⟨pc, s⟩, hs, rfl⟩ := Option.map_eq_some_iff.mp h
      exact step_stateHandler hi hs
  | txExpires =>
      obtain ⟨s, hs, rfl⟩ := Option.map_eq_some_iff.mp h
      obtain ⟨w, -, rfl⟩ := Option.map_eq_some_iff.mp hs
      exact .of_kept hi rfl .inl .inl rfl
  | stateExpires =>
      obtain ⟨s, hs, rfl⟩ := Option.map_eq_some_iff.mp h
      obtain ⟨w, -, rfl⟩ := Option.map_eq_some_iff.mp hs
      exact .of_kept hi rfl .inl .inl rfl
  | txRuns =>
      dsimp only at h
      split at h
      · obtain ⟨w, -, rfl⟩ := Option.map_eq_some_iff.mp h
        exact .of_kept hi rfl nofun .inl rfl
      · cases h
  | _ =>
      dsimp only at h
      split at h
      · obtain ⟨w, -, rfl⟩ := Option.map_eq_some_iff.mp h
        exact .of_kept hi rfl .inl .inl rfl
      · cases h

/-! ## §3. The runs. -/

/-- The initialization leaves no session, and the timeout disarmed. -/
theorem bInit_watchdog (slot : FlashArea) (flash : Mem) (env : Env) :
    ((bInitBootloaderController slot flash env).mgmt.eBtlState ≠ .fwImgWriteInProg ∧
      (bInitBootloaderController slot flash env).mgmt.eBtlState ≠ .fwImgWriteCompleted) ∧
    (bInitBootloaderController slot flash env).timers.bBootloaderStateTimeoutArmed = false := by
  have hw := flashAreaOpen_watchdog env (Btl.start slot flash)
  have harmed := congrArg Watchdog.armed hw
  have hst : (flashAreaOpen env (Btl.start slot flash)).mgmt.eBtlState = .inactive :=
    congrArg Watchdog.state hw
  unfold bInitBootloaderController
  simp only
  split
  · refine ⟨?_, harmed⟩
    rw [hst]
    decide
  · exact ⟨⟨nofun, nofun⟩, harmed⟩

theorem boot_consistent (slot : FlashArea) (flash : Mem) (env : Env) :
    Consistent (Threads.boot (bInitBootloaderController slot flash env)) := by
  obtain ⟨hst, harmed⟩ := bInit_watchdog slot flash env
  refine ⟨hst.2, nofun, ?_⟩
  intro h
  change (bInitBootloaderController slot flash env).timers.bBootloaderStateTimeoutArmed = true at h
  rw [harmed] at h
  cases h

/-- A step is one of a machine that has not stopped. -/
theorem Threads.running_of_step {t t' : Threads} {a : Act × Env} (h : t.step a = some t') :
    t.shared.btl.halted = none := by
  by_contra hne
  have hblocked : t.step a = none := if_pos (Option.isSome_iff_ne_none.mpr hne)
  rw [hblocked] at h
  cases h

theorem threads_consistent {slot : FlashArea} {t : Threads}
    (h : (threads slot).ReachableVia EndsOutsideAbort t) :
    t.shared.btl.halted = none → Consistent t := by
  induction h with
  | init h =>
      obtain ⟨flash, env, rfl⟩ := h
      exact fun _ => boot_consistent slot flash env
  | @step t t' a _ hok hstep ih =>
      have hrun := Threads.running_of_step hstep
      exact (step_keeps (ih hrun) hok hstep).inv

/-- **An accepted update stands.**  In every run in which the end of the image
is not handled in the window of the Tx handler, each step keeps it. -/
theorem update_not_aborted {slot : FlashArea} {t t' : Threads} {a : Act × Env}
    (h : (threads slot).ReachableVia EndsOutsideAbort t) (hok : EndsOutsideAbort t a)
    (hstep : (threads slot).step t a t') : UpdateStands t a t' := by
  have hrun : t.shared.btl.halted = none := Threads.running_of_step hstep
  exact (step_keeps (threads_consistent h hrun) hok hstep).stands

/-! ## §4. An accepted update that is lost. -/

/-- A frame, and the steps of the CAN thread for it. -/
def command (f : CanFrame) (steps : Nat) : List Act := .frame f :: List.replicate steps .can

/-- The Tx timeout, and the steps of its handler. -/
def txTimeOut (steps : Nat) : List Act :=
  .txExpires :: .txRuns :: List.replicate steps .txHandler

/-- The Tx timeout, and the retry of its handler. -/
def txRetry : List Act := txTimeOut 3 ++ [.txReturns]

/-- The steps of a run at the time `now`. -/
def atTime (now : Int) (acts : List Act) : List (Act × Env) :=
  acts.map fun a => (a, { Env.success with uptime := now })

/-- The threads at time 0, and the run of the steps. -/
def Threads.run (acts : List (Act × Env)) : Option Threads :=
  acts.foldlM Threads.step
    (Threads.boot (bInitBootloaderController ⟨0x4000⟩ (fun _ => 0) Env.success))

/-- An update of one packet, up to the request of the upgrade. -/
def completedUpdate : List (Act × Env) :=
  atTime 0 (command requestFrame 5 ++ command (packetFrame 0) 3 ++ command endFrame 8)

/-- A completed update goes on to the reboot. -/
theorem update_not_aborted_reboot : ∃ t t' : Threads,
    t.shared.state = .fwImgWriteCompleted ∧ t'.shared.state = .reboot ∧
      UpdateStands t (.can, Env.success) t' := by
  have hrun : ((completedUpdate.foldlM (TransSys.guarded EndsOutsideAbort Threads.step)
      (Threads.boot (bInitBootloaderController ⟨0x4000⟩ (fun _ => 0) Env.success))).bind fun t =>
        (t.step (.can, Env.success)).map fun t' =>
          (t.shared.state, t.txHandler.aborting, t'.shared.state))
      = some (.fwImgWriteCompleted, false, .reboot) := by decide +kernel
  obtain ⟨t, ht, hrun⟩ := Option.bind_eq_some_iff.mp hrun
  obtain ⟨t', ht', hout⟩ := Option.map_eq_some_iff.mp hrun
  obtain ⟨hst, hab, hst'⟩ : t.shared.state = .fwImgWriteCompleted ∧ t.txHandler.aborting = false
      ∧ t'.shared.state = .reboot := by simpa using hout
  have hreach : (threads ⟨0x4000⟩).ReachableVia EndsOutsideAbort t :=
    TransSys.ReachableVia.foldlM (fun _ _ _ h => TransSys.guarded_some h) (.init ⟨_, _, rfl⟩) _ ht
  exact ⟨t, t', hst, hst', update_not_aborted hreach (fun _ => hab) ht'⟩

/-- An update of one packet, with a lost-packet report that is not acknowledged.
The last Tx timeout has read the state when the image ends. -/
def abortedUpdate : List (Act × Env) :=
  atTime 0 (command requestFrame 5 ++ command (bridgeFrame .getLostPacketInfo []) 4)
    ++ atTime TIMEOUT_LOST_PACKET_TX_ms txRetry
    ++ atTime (2 * TIMEOUT_LOST_PACKET_TX_ms) txRetry
    ++ atTime (3 * TIMEOUT_LOST_PACKET_TX_ms) txRetry
    ++ atTime (4 * TIMEOUT_LOST_PACKET_TX_ms)
      (command (packetFrame 0) 3 ++ txTimeOut 2 ++ command endFrame 12 ++ [.txHandler])

/-- The accepted update is aborted after the reboot has been set. -/
theorem update_aborted :
    ¬ ∀ (t t' : Threads) (a : Act × Env), (threads ⟨0x4000⟩).Reachable t →
      (threads ⟨0x4000⟩).step t a t' → UpdateStands t a t' := by
  intro h
  have hrun : ((Threads.run abortedUpdate).bind fun t =>
      (t.step (.txHandler, Env.success)).map fun t' =>
        (t.shared.state, t'.shared.state)) = some (.reboot, .error) := by decide +kernel
  obtain ⟨t, ht, hrun⟩ := Option.bind_eq_some_iff.mp hrun
  obtain ⟨t', ht', hout⟩ := Option.map_eq_some_iff.mp hrun
  obtain ⟨hst, hst'⟩ : t.shared.state = .reboot ∧ t'.shared.state = .error := by
    simpa using hout
  have hreach : (threads ⟨0x4000⟩).Reachable t :=
    TransSys.Reachable.foldlM (fun _ _ _ h => h) (.init ⟨_, _, rfl⟩) _ ht
  have hstands := (h t t' _ hreach ht').2 hst
  rw [hst'] at hstands
  cases hstands

end WallController.Bootloader
