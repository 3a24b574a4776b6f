/-
  WallController.Bootloader.Timeout
  ────────────────────────────────
  **WHAT THE THREADS DO TO THE SESSION TIMEOUT.**

  The timeout of the session is its watchdog, the queued state work item and
  the last refresh.  Each step of a thread moves it in one of a few ways
  (`TxMoves`, `CanMoves`, `StateMoves`).

  Where the CAN thread stands says what the state of the session can be
  (`CanPc.allows`): the other threads can only move it to the error state.
-/
import WallController.Bootloader.Watchdog

namespace WallController.Bootloader

open WallController.Lib

/-! ## §1. The timeout. -/

/-- The watchdog, the work item on the queue, and the last refresh. -/
structure Timeout where
  dog : Watchdog
  queued : Bool
  last : Option (Int × Nat)

/-- The session timeout of the controller. -/
def Shared.timeout (s : Shared) : Timeout where
  dog := s.btl.watchdog
  queued := s.stateWork.queued
  last := s.refreshed

/-- The state of the session. -/
def Shared.state (s : Shared) : BootloaderState := s.btl.mgmt.eBtlState

@[simp] theorem Shared.timeout_state (s : Shared) : s.timeout.dog.state = s.state := rfl

namespace Timeout

/-- The move to another state, disarmed. -/
def moved (τ : Timeout) (s : BootloaderState) : Timeout := { τ with dog := τ.dog.moved s }

/-- A refresh at time `now`. -/
def refresh (τ : Timeout) (now : Int) (uiTimeOut_ms : Nat) : Timeout :=
  { τ with dog := τ.dog.refreshed now uiTimeOut_ms, last := some (now, uiTimeOut_ms) }

/-- The delay has ended; the work item is queued, unless `canceling`. -/
def expired (τ : Timeout) (canceling : Bool) : Timeout :=
  { τ with dog := τ.dog.cancelled, queued := τ.queued || !canceling }

/-- `k_work_cancel_delayable`. -/
def cancelled (τ : Timeout) : Timeout := { τ with dog := τ.dog.cancelled, queued := false }

end Timeout

theorem Shared.set_timeout (s : Shared) {b : Btl} {w : Watchdog} (h : b.watchdog = w) :
    (s.set b).timeout = { s.timeout with dog := w } := by
  rw [← h]
  rfl

theorem Shared.set_kept (s : Shared) {b : Btl} (h : b.watchdog = s.btl.watchdog) :
    (s.set b).timeout = s.timeout := s.set_timeout h

@[simp] theorem Shared.cancelState_timeout (s : Shared) :
    s.cancelState.timeout = s.timeout.cancelled := rfl

@[simp] theorem Shared.cancelTx_timeout (s : Shared) : s.cancelTx.timeout = s.timeout := rfl

theorem Shared.expireState_timeout {s s' : Shared} (h : s.expireState = some s') :
    s'.timeout = s.timeout.expired s.stateWork.canceling := by
  obtain ⟨w, hw, rfl⟩ := Option.map_eq_some_iff.mp h
  show { s.timeout with dog := s.timeout.dog.cancelled, queued := w.queued } = _
  rw [DelayableWork.expire_queued hw]
  rfl

theorem Shared.expireTx_timeout {s s' : Shared} (h : s.expireTx = some s') :
    s'.timeout = s.timeout := by
  obtain ⟨w, hw, rfl⟩ := Option.map_eq_some_iff.mp h
  rfl

@[simp] theorem Shared.withTxWork_timeout (s : Shared) (w : DelayableWork) :
    (s.withTxWork w).timeout = s.timeout := rfl

@[simp] theorem Shared.withStateWork_timeout (s : Shared) (w : DelayableWork) :
    (s.withStateWork w).timeout = { s.timeout with queued := w.queued } := rfl

theorem Shared.refresh_timeout (s : Shared) {env : Env} {uiTimeOut_ms : Nat} {b : Btl}
    (h : b.watchdog = s.btl.watchdog.refreshed env.uptime uiTimeOut_ms) :
    (s.refresh env uiTimeOut_ms true b).timeout = s.timeout.refresh env.uptime uiTimeOut_ms := by
  unfold Shared.timeout Timeout.refresh
  rw [← h]
  rfl

theorem Shared.not_refresh_timeout (s : Shared) (env : Env) (uiTimeOut_ms : Nat) (b : Btl) :
    (s.refresh env uiTimeOut_ms false b).timeout = (s.set b).timeout := rfl

/-! ## §2. The Tx functions. -/

/-- What one step of the Tx functions does to the timeout. -/
inductive TxMoves (env : Env) (p : TxPc) (τ : Timeout) : Timeout → Prop
  | kept : TxMoves env p τ τ
  | refreshed (hst : τ.dog.state = .fwImgWriteInProg) :
      TxMoves env p τ (τ.refresh env.uptime TIMEOUT_LOST_PACKET_RECOVERY_PROCESS_ms)
  | aborted (hp : p = .abort) : TxMoves env p τ (τ.moved .error)
  | cancelled (hp : p = .cancelState) : TxMoves env p τ τ.cancelled

theorem TxPc.step_moves (env : Env) (s : Shared) (p : TxPc) :
    TxMoves env p s.timeout (p.step env s).2.timeout := by
  cases p with
  | retry =>
      show TxMoves env _ _ (s.set (retrySection env s.btl).2).timeout
      rw [s.set_kept (retrySection_watchdog env s.btl)]
      exact .kept
  | schedule =>
      show TxMoves env _ _ (s.refresh env _ _ (bScheduleLostPacketTimeouts env s.btl)).timeout
      unfold bScheduleLostPacketTimeouts
      by_cases hst : s.btl.mgmt.eBtlState = .fwImgWriteInProg ∧ s.btl.tx.eTxState ≠ .idle
      · rw [if_pos hst, decide_eq_true hst]
        exact .refreshed hst.1
      · rw [if_neg hst, decide_eq_false hst, s.not_refresh_timeout, s.set_kept rfl]
        exact .kept
  | abort =>
      show TxMoves env _ _ (s.set (vAbortBootloaderSessionLocked s.btl)).timeout
      rw [s.set_timeout (vAbortBootloaderSessionLocked_watchdog s.btl)]
      exact .aborted rfl
  | cancelState => exact .cancelled rfl
  | error => exact .kept
  | errorCancel => exact .kept
  | cancelTx => exact .kept

/-- The states of the session while the CAN thread is in the Tx functions. -/
def TxPc.allows : TxPc → BootloaderState → Prop
  | .errorCancel, s | .abort, s => s = .fwImgWriteInProg ∨ s = .error
  | .cancelState, s => s = .idle ∨ s = .error
  | _, s => s ≠ .fwImgWriteCompleted

/-- In the Tx functions an image is never completed. -/
theorem TxPc.allows_not_completed {p : TxPc} {s : BootloaderState} (h : p.allows s) :
    s ≠ .fwImgWriteCompleted := by
  rintro rfl
  cases p <;> simp [TxPc.allows] at h

theorem TxPc.step_allows {env : Env} {s : Shared} {p p' : TxPc} (hp : p.allows s.state)
    (h : (p.step env s).1 = some p') : p'.allows (p.step env s).2.state := by
  cases p with
  | retry =>
      have hstate : (s.set (retrySection env s.btl).2).state = s.state :=
        congrArg Watchdog.state (retrySection_watchdog env s.btl)
      have hnext : p' = .error ∨ p' = .schedule := by
        change (retrySection env s.btl).1 = some p' at h
        unfold retrySection at h
        split at h
        · cases h
        · split at h <;> cases h
          · exact .inl rfl
          · exact .inr rfl
      show p'.allows (s.set (retrySection env s.btl).2).state
      rw [hstate]
      rcases hnext with rfl | rfl <;> exact hp
  | schedule => cases h
  | error =>
      change (if s.btl.mgmt.eBtlState = .fwImgWriteInProg then _ else none) = some p' at h
      split at h
      · next hst =>
          cases h
          exact .inl hst
      · cases h
  | errorCancel =>
      cases h
      exact hp
  | abort =>
      cases h
      exact .inr rfl
  | cancelState =>
      cases h
      show s.state ≠ .fwImgWriteCompleted
      exact TxPc.allows_not_completed hp
  | cancelTx => cases h

/-- Returning from the Tx functions, the image has not been completed. -/
theorem TxPc.step_not_completed {env : Env} {s : Shared} {p : TxPc} (hp : p.allows s.state) :
    (p.step env s).2.state ≠ .fwImgWriteCompleted := by
  have hne := TxPc.allows_not_completed hp
  have hmoves := p.step_moves env s
  rw [← Shared.timeout_state]
  generalize (p.step env s).2.timeout = τ' at hmoves
  cases hmoves with
  | kept => exact hne
  | refreshed _ => exact hne
  | aborted _ =>
      show BootloaderState.error ≠ .fwImgWriteCompleted
      decide
  | cancelled _ => exact hne

/-! ## §3. The CAN thread. -/

/-- The states of the session while the CAN thread is at its program counter. -/
def CanPc.allows : CanPc → BootloaderState → Prop
  | .idle, s | .txResponse _, s | .answer _, s => s ≠ .fwImgWriteCompleted
  | .dispatch m, s => m.bIsMsgOk = true ∧ s ≠ .fwImgWriteCompleted
  | .idleState _, s | .initManager _, s | .setInProg _, s => s = .idle ∨ s = .error
  | .finalize m, s => m.eCMD = .fwUpEnd ∧ (s = .fwImgWriteInProg ∨ s = .error)
  | .getLost _, s => s = .fwImgWriteInProg ∨ s = .error
  | .update m, s => m.bIsMsgOk = true ∧ (s = .fwImgWriteInProg ∨ s = .error)
  | .completedCancel m, s | .completedEntry m, s | .completedInvalidate m, s
  | .completedInvalidated m, s | .completedClose m, s => m.eCMD = .fwUpEnd ∧ s = .fwImgWriteCompleted
  | .setReboot _, s => s = .fwImgWriteCompleted
  | .request _ rets, s => s = .fwImgWriteCompleted ∧ ∀ ret ∈ rets, ret ≠ 0
  | .requestAbort _ rets, s => s = .fwImgWriteCompleted ∧
      BOOTLOADER_MAX_REQUEST_UPGRADE_TURNs ≤ rets.length ∧ ∀ ret ∈ rets, ret ≠ 0
  | .setRebootCancel _, s | .refreshReboot _, s | .rebootInvalidate, s | .rebootCancel, s
  | .sysReboot, s => s = .reboot
  | .errorState _, s | .reinit _, s => s = .error
  | .tx p _, s => p.allows s

/-- Another thread may end the session, unless the image is completed. -/
theorem CanPc.allows_error {pc : CanPc} {s : BootloaderState} (h : pc.allows s)
    (hc : s ≠ .fwImgWriteCompleted) (hr : s ≠ .reboot) : pc.allows .error := by
  cases pc with
  | tx p m => cases p <;> simp_all [CanPc.allows, TxPc.allows]
  | _ => simp_all [CanPc.allows]

/-- What one step of the CAN thread does to the timeout. -/
inductive CanMoves (env : Env) (pc : CanPc) (τ : Timeout) : Timeout → Prop
  | kept : CanMoves env pc τ τ
  | tx {p : TxPc} {m : CtrlMsg} {τ' : Timeout} (hpc : pc = .tx p m) (h : TxMoves env p τ τ') :
      CanMoves env pc τ τ'
  /-- A new session. -/
  | started {m : CtrlMsg} (hpc : pc = .setInProg m) :
      CanMoves env pc τ
        ((τ.moved .fwImgWriteInProg).refresh env.uptime TIMEOUT_FW_UPREQ_TO_FW_UPDATE_ms)
  /-- The session goes on. -/
  | refreshed (uiTimeOut_ms : Nat) (hst : τ.dog.state = .fwImgWriteInProg) :
      CanMoves env pc τ (τ.refresh env.uptime uiTimeOut_ms)
  /-- A check gives the session up. -/
  | gaveUp (hst : τ.dog.state = .fwImgWriteInProg) : CanMoves env pc τ (τ.moved .error)
  | completed {m : CtrlMsg} (hpc : pc = .finalize m) (hst : τ.dog.state = .fwImgWriteInProg) :
      CanMoves env pc τ (τ.moved .fwImgWriteCompleted)
  /-- `vCancel_BootloaderStateTimeOut`. -/
  | invalidated (hst : τ.dog.state = .fwImgWriteCompleted ∨ τ.dog.state = .reboot) :
      CanMoves env pc τ (τ.moved τ.dog.state)
  | cancelled (hst : τ.dog.state = .fwImgWriteCompleted ∨ τ.dog.state = .reboot) :
      CanMoves env pc τ τ.cancelled
  /-- The upgrade has not been accepted. -/
  | upgradeFailed {m : CtrlMsg} {rets : List Int} (hpc : pc = .requestAbort m rets) :
      CanMoves env pc τ (τ.moved .error)
  | rebooting {m : CtrlMsg} (hpc : pc = .setReboot m) : CanMoves env pc τ (τ.moved .reboot)
  | refreshedReboot {m : CtrlMsg} (hpc : pc = .refreshReboot m) :
      CanMoves env pc τ (τ.refresh env.uptime TIMEOUT_REBOOT_CONFIRMATION_ms)
  | reinitialized {m : CtrlMsg} (hpc : pc = .reinit m) : CanMoves env pc τ (τ.moved .idle)

/-- One step of the CAN thread: the machine has stopped, or the timeout has
been moved and the thread is where the state lets it be. -/
inductive CanStepped (env : Env) (pc : CanPc) (s : Shared) (pc' : CanPc) (s' : Shared) : Prop
  | stopped (h : s'.btl.halted.isSome)
      (hst : s'.state = s.state ∨ s.state = .fwImgWriteInProg ∨ s.state = .error)
  | moved (h : CanMoves env pc s.timeout s'.timeout) (hpc : pc'.allows s'.state)

theorem vUpdateFWImageSection_not_completed {env : Env} {j j' : Job} {e : SectionEnd}
    (h : vUpdateFWImageSection env j = .ok (j', e)) : e ≠ .completed := by
  unfold vUpdateFWImageSection at h
  cases hr : vUpdateFWImage env j with
  | error b =>
      rw [hr] at h
      cases h
  | ok j₁ =>
      rw [hr] at h
      simp only at h
      split at h <;> cases h <;> decide

/-- The step that runs the section of a command. -/
theorem SectionMoves.stepped {env : Env} {uiTimeOut_ms : Nat} {bRefreshed : CtrlMsg → Bool}
    {pc : CanPc} {s : Shared} {m : CtrlMsg} {r : Except Btl (Job × SectionEnd)}
    (h : SectionMoves env uiTimeOut_ms bRefreshed { btl := s.btl, msg := m } r)
    (hs : s.state = .fwImgWriteInProg ∨ s.state = .error)
    (hc : ∀ j, r = .ok (j, .completed) → pc = .finalize m ∧ m.eCMD = .fwUpEnd) :
    CanStepped env pc s (afterSection r).1
      (s.refresh env uiTimeOut_ms ((afterSection r).1.answers bRefreshed) (afterSection r).2) := by
  -- every way out of the section answers, or stops the machine
  cases h with
  | stopped b hb => exact .stopped hb (.inr hs)
  | @refused j' hok hw =>
      show CanStepped env pc s (.answer j'.msg) (s.refresh env _ (bRefreshed j'.msg) j'.btl)
      rw [hok]
      refine .moved ?_ ?_
      · rw [s.not_refresh_timeout, s.set_kept hw]
        exact .kept
      · show j'.btl.mgmt.eBtlState ≠ .fwImgWriteCompleted
        have hstate : j'.btl.mgmt.eBtlState = s.state := congrArg Watchdog.state hw
        rw [hstate]
        rcases hs with hs | hs <;> rw [hs] <;> decide
  | @refreshed j' hst hok hw =>
      show CanStepped env pc s (.answer j'.msg) (s.refresh env _ (bRefreshed j'.msg) j'.btl)
      rw [hok]
      refine .moved ?_ ?_
      · rw [s.refresh_timeout hw]
        exact .refreshed uiTimeOut_ms hst
      · show j'.btl.mgmt.eBtlState ≠ .fwImgWriteCompleted
        have hstate : j'.btl.mgmt.eBtlState = .fwImgWriteInProg :=
          (congrArg Watchdog.state hw).trans hst
        rw [hstate]
        decide
  | @gaveUp j' hst hw =>
      refine .moved ?_ ?_
      · show CanMoves env pc s.timeout (s.set j'.btl).timeout
        rw [s.set_timeout hw]
        exact .gaveUp hst
      · have hstate : j'.btl.mgmt.eBtlState = .error := congrArg Watchdog.state hw
        exact .inr hstate
  | @completed j' hst hmsg hw =>
      -- only the end announcement completes an image
      obtain ⟨hpc, hcmd⟩ := hc _ rfl
      refine .moved ?_ ?_
      · show CanMoves env pc s.timeout (s.set j'.btl).timeout
        rw [s.set_timeout hw]
        exact .completed hpc hst
      · have hcmd' : j'.msg.eCMD = .fwUpEnd := (congrArg CtrlMsg.eCMD hmsg).trans hcmd
        exact ⟨hcmd', congrArg Watchdog.state hw⟩

/-- A step that leaves the watchdog as it is. -/
theorem CanStepped.of_kept {env : Env} {pc pc' : CanPc} {s : Shared} {b : Btl}
    (hw : b.watchdog = s.btl.watchdog) (hpc : pc'.allows s.state) :
    CanStepped env pc s pc' (s.set b) := by
  have hstate : (s.set b).state = s.state := congrArg Watchdog.state hw
  refine .moved ?_ ?_
  · rw [s.set_kept hw]
    exact .kept
  · rw [hstate]
    exact hpc

theorem dispatchPc_allows {b : Btl} {m : CtrlMsg} (hok : m.bIsMsgOk = true)
    (hst : b.mgmt.eBtlState ≠ .fwImgWriteCompleted) :
    (dispatchPc b m).allows b.mgmt.eBtlState := by
  unfold dispatchPc
  cases h : b.mgmt.eBtlState with
  | fwImgWriteCompleted => exact absurd h hst
  | fwImgWriteInProg =>
      simp only
      split
      · simp [CanPc.allows]
      · cases hc : m.eCMD <;> simp [CanPc.allows, TxPc.allows, hok, hc]
  | inactive => simp [CanPc.allows]
  | waitForAuthResponse => simp [CanPc.allows]
  | idle => simp [CanPc.allows]
  | reboot => simp [CanPc.allows]
  | error => simp [CanPc.allows]

theorem idleStateSection_allows {b : Btl} {m : CtrlMsg}
    (hst : b.mgmt.eBtlState = .idle ∨ b.mgmt.eBtlState = .error) :
    (idleStateSection b m).1.allows b.mgmt.eBtlState := by
  have hne : b.mgmt.eBtlState ≠ .fwImgWriteCompleted := by
    rcases hst with h | h <;> rw [h] <;> decide
  unfold idleStateSection
  split
  · exact hne
  split
  · exact hne
  split
  · exact hne
  · simp only
    split
    · exact hst
    · exact hst
    · exact hne

theorem txResponseSection_kept (eAck uiFrameSeq : UInt8) (s : Shared) :
    (txResponseSection eAck uiFrameSeq s).2.timeout = s.timeout ∧
      ((txResponseSection eAck uiFrameSeq s).1 = none ∨
        (txResponseSection eAck uiFrameSeq s).1 = some .retry) := by
  unfold txResponseSection
  simp only
  split
  · exact ⟨rfl, .inl rfl⟩
  split
  · exact ⟨rfl, .inl rfl⟩
  split
  · exact ⟨rfl, .inl rfl⟩
  split
  · exact ⟨rfl, .inl rfl⟩
  split
  · exact ⟨rfl, .inl rfl⟩
  · exact ⟨rfl, .inr rfl⟩

theorem completedPc_allows {m : CtrlMsg} (hcmd : m.eCMD = .fwUpEnd) :
    (completedPc m).allows .fwImgWriteCompleted := by
  unfold completedPc
  rw [hcmd]
  exact ⟨rfl, by simp⟩

/-- **One step of the CAN thread.** -/
theorem CanPc.step_stepped {env : Env} {s s' : Shared} {pc pc' : CanPc} (hpc : pc.allows s.state)
    (h : pc.step env s = some (pc', s')) : CanStepped env pc s pc' s' := by
  cases pc with
  | idle => cases h
  | dispatch m =>
      cases h
      -- the next point is the one for the state that `dispatch` has read
      exact .moved .kept (dispatchPc_allows hpc.1 hpc.2)
  | idleState m =>
      cases h
      exact .of_kept (idleStateSection_watchdog s.btl m) (idleStateSection_allows hpc)
  | initManager m =>
      cases h
      refine .of_kept (vInitBootloaderManagerErased_watchdog env _) ?_
      split
      · exact hpc
      · show s.state ≠ .fwImgWriteCompleted
        rcases hpc with hs | hs <;> rw [hs] <;> decide
  | setInProg m =>
      cases h
      -- the session starts, with its timeout armed
      refine .moved (.started rfl) ?_
      show BootloaderState.fwImgWriteInProg ≠ .fwImgWriteCompleted
      decide
  | finalize m =>
      cases h
      exact (vFinalizeFWImageWriteSection_moves env _).stepped hpc.2 fun j _ => ⟨rfl, hpc.1⟩
  | update m =>
      cases h
      refine (vUpdateFWImageSection_moves env hpc.1).stepped hpc.2 ?_
      intro j hj
      exact absurd rfl (vUpdateFWImageSection_not_completed hj)
  | getLost m =>
      have hne : s.state ≠ .fwImgWriteCompleted := by
        rcases hpc with hs | hs <;> rw [hs] <;> decide
      have hw := vGetLostPacketInfoSection_watchdog env { btl := s.btl, msg := m }
      -- the step is the section, with its answer or the report of lost packets after it
      have hstep : CanPc.step env s (.getLost m)
          = some (if (vGetLostPacketInfoSection env { btl := s.btl, msg := m }).1
              then .tx .schedule (vGetLostPacketInfoSection env { btl := s.btl, msg := m }).2.msg
              else .answer (vGetLostPacketInfoSection env { btl := s.btl, msg := m }).2.msg,
            s.set (vGetLostPacketInfoSection env { btl := s.btl, msg := m }).2.btl) := rfl
      rw [hstep] at h
      generalize vGetLostPacketInfoSection env { btl := s.btl, msg := m } = r at h hw
      obtain ⟨bScheduled, j⟩ := r
      cases h
      refine .of_kept hw ?_
      cases bScheduled <;> exact hne
  | txResponse m =>
      have hkept := txResponseSection_kept (m.uiaData.getD 0 0) (m.uiaData.getD 1 0) s
      have hstep : CanPc.step env s (.txResponse m)
          = some (.next { m with bIsACKReq := false }
              (txResponseSection (m.uiaData.getD 0 0) (m.uiaData.getD 1 0) s).1,
            (txResponseSection (m.uiaData.getD 0 0) (m.uiaData.getD 1 0) s).2) := rfl
      rw [hstep] at h
      generalize txResponseSection (m.uiaData.getD 0 0) (m.uiaData.getD 1 0) s = r at h hkept
      obtain ⟨p, s₁⟩ := r
      -- the section of the reply leaves the timeout of the session alone
      obtain ⟨htimeout, hnext⟩ := hkept
      have hstate : s₁.state = s.state := congrArg (fun τ => τ.dog.state) htimeout
      cases h
      refine .moved ?_ ?_
      · rw [htimeout]
        exact .kept
      · rw [hstate]
        rcases hnext with hn | hn <;> cases hn <;> exact hpc
  | completedCancel m =>
      cases h
      exact .moved (.cancelled (.inl hpc.2)) hpc
  | completedEntry m =>
      cases h
      refine .of_kept rfl ?_
      split
      · exact hpc
      · rw [hpc.2]
        exact completedPc_allows hpc.1
  | completedInvalidate m =>
      cases h
      exact .moved (.invalidated (.inl hpc.2)) hpc
  | completedInvalidated m =>
      cases h
      exact .moved (.cancelled (.inl hpc.2)) hpc
  | completedClose m =>
      cases h
      refine .of_kept (flashAreaCloseIfOpen_watchdog s.btl) ?_
      rw [hpc.2]
      exact completedPc_allows hpc.1
  | request m rets =>
      change (if rets.length < BOOTLOADER_MAX_REQUEST_UPGRADE_TURNs then _ else _) = _ at h
      split at h
      · cases h
        -- a request that succeeds ends the loop
        refine .of_kept rfl ?_
        split
        · exact hpc.1
        · next hret => exact ⟨hpc.1, List.forall_mem_cons.mpr ⟨hret, hpc.2⟩⟩
      · next hlen =>
          cases h
          exact .moved .kept ⟨hpc.1, Nat.le_of_not_lt hlen, hpc.2⟩
  | requestAbort m rets =>
      cases h
      -- every request has failed, so the upgrade is given up
      refine .moved ?_ (.inr rfl)
      rw [s.set_timeout (vAbortBootloaderSessionLocked_watchdog s.btl)]
      exact .upgradeFailed rfl
  | setReboot m =>
      cases h
      exact .moved (.rebooting rfl) rfl
  | setRebootCancel m =>
      cases h
      exact .moved (.cancelled (.inr hpc)) hpc
  | refreshReboot m =>
      have hne : s.state ≠ .fwImgWriteCompleted := by
        rw [show s.state = .reboot from hpc]
        decide
      cases h
      exact .moved (.refreshedReboot rfl) hne
  | rebootInvalidate =>
      cases h
      exact .moved (.invalidated (.inr hpc)) hpc
  | rebootCancel =>
      cases h
      exact .moved (.cancelled (.inr hpc)) hpc
  | sysReboot =>
      cases h
      exact .stopped rfl (.inl rfl)
  | errorState m =>
      have hne : s.state ≠ .fwImgWriteCompleted := by
        rw [show s.state = .error from hpc]
        decide
      unfold CanPc.step at h
      dsimp only at h
      split at h <;> cases h
      · exact .of_kept (bIsFirstEntry_watchdog s.btl) hpc
      · exact .of_kept (bIsFirstEntry_watchdog s.btl) hne
  | reinit m =>
      cases h
      refine .moved ?_ (.inl rfl)
      rw [s.set_timeout (resetSession_watchdog .idle true s.btl)]
      exact .reinitialized rfl
  | tx p m =>
      have hmoves := p.step_moves env s
      have hdone := @TxPc.step_not_completed env _ _ hpc
      have hnext := fun p' => @TxPc.step_allows env _ _ p' hpc
      have hstep : CanPc.step env s (.tx p m) = some (.next m (p.step env s).1, (p.step env s).2) :=
        rfl
      rw [hstep] at h
      generalize p.step env s = r at h hmoves hdone hnext
      obtain ⟨p₁, s₁⟩ := r
      -- a step of the lost packet reports: the watchdog is its own
      cases h
      refine .moved (.tx rfl hmoves) ?_
      cases p₁ with
      | none => exact hdone
      | some p' => exact hnext p' rfl
  | answer m =>
      cases h
      split
      · exact .of_kept rfl hpc
      · exact .moved .kept hpc

/-- A frame is taken, while no image is completed. -/
theorem receiveFrame_stepped (f : CanFrame) {s : Shared} (hs : s.state ≠ .fwImgWriteCompleted) :
    (receiveFrame f s).2.timeout = s.timeout ∧ (receiveFrame f s).1.allows s.state := by
  unfold receiveFrame
  generalize vFormatBootloaderMsg s.btl.mgmt.bIsInitialized f = m
  simp only
  split
  · exact ⟨rfl, hs⟩
  · next hok =>
      have hok' : m.bIsMsgOk = true := by simpa using hok
      cases m.eCMD <;> first
        | exact ⟨rfl, hok', hs⟩
        | exact ⟨rfl, hs⟩

/-! ## §4. The state handler. -/

/-- What one step of `vBtlState_TimeOutHandler` does to the timeout. -/
inductive StateMoves (env : Env) (pc : StateHandler) (τ : Timeout) : Timeout → Prop
  | kept (harmed : pc = .lock → τ.dog.armed = false) : StateMoves env pc τ τ
  /-- Too early. -/
  | rescheduled (hearly : env.uptime < τ.dog.deadline) :
      StateMoves env pc τ { τ with dog := { τ.dog with work := some τ.dog.deadline } }
  /-- The confirmation has not come in time. -/
  | rebooting (hst : τ.dog.state = .reboot) : StateMoves env pc τ (τ.moved .reboot)
  /-- The session has stalled. -/
  | expired (hpc : pc = .lock) (harmed : τ.dog.armed = true) (hdue : τ.dog.deadline ≤ env.uptime)
      (hst : τ.dog.state ≠ .reboot) : StateMoves env pc τ (τ.moved .error)

theorem StateHandler.step_moves {env : Env} {s s' : Shared} {pc pc' : StateHandler}
    (h : pc.step env s = some (pc', s')) : StateMoves env pc s.timeout s'.timeout := by
  cases pc with
  | idle => cases h
  | lock =>
      unfold StateHandler.step at h
      simp only at h
      split at h
      · next harmed =>
          cases h
          -- not armed: the expiry comes too late and does nothing
          refine .kept fun _ => ?_
          show s.btl.timers.bBootloaderStateTimeoutArmed = false
          simpa using harmed
      next harmed =>
      have harmed' : s.timeout.dog.armed = true := by
        show s.btl.timers.bBootloaderStateTimeoutArmed = true
        simpa using harmed
      split at h
      · next hearly =>
          cases h
          -- too early: the work item is scheduled for the deadline
          have hdeadline : s.timeout.dog.deadline
              = env.uptime + (s.btl.timers.iBootloaderStateDeadline_ms - env.uptime) := by
            show s.btl.timers.iBootloaderStateDeadline_ms = _
            omega
          show StateMoves env _ s.timeout { s.timeout with dog := { s.timeout.dog with
            work := some (env.uptime + (s.btl.timers.iBootloaderStateDeadline_ms - env.uptime)) } }
          rw [← hdeadline]
          refine .rescheduled ?_
          show env.uptime < s.btl.timers.iBootloaderStateDeadline_ms
          omega
      next hdue =>
      have hdue' : s.timeout.dog.deadline ≤ env.uptime := by
        show s.btl.timers.iBootloaderStateDeadline_ms ≤ env.uptime
        omega
      split at h
      · next hst =>
          cases h
          -- due while rebooting: the restart is next
          have hmoved : (s.set (vInvalidateBootloaderStateTimeOutLocked s.btl)).timeout
              = s.timeout.moved .reboot := by
            have hst' : s.btl.mgmt.eBtlState = .reboot := hst
            unfold Timeout.moved Watchdog.moved
            rw [← hst']
            rfl
          rw [hmoved]
          exact .rebooting hst
      · next hst =>
          cases h
          -- due in a session: it is aborted
          rw [s.set_timeout (vAbortBootloaderSessionLocked_watchdog _)]
          exact .expired rfl harmed' hdue' hst
  | cancelTx =>
      cases h
      exact .kept nofun
  | reboot =>
      cases h
      exact .kept nofun

end WallController.Bootloader
