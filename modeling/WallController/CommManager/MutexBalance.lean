/-
  WallController.CommManager.MutexBalance
  ────────────────────────────────
  **THE MUTEXES OF THE TRANSACTIONS ARE GIVEN BACK.**

  The search and the claim hand the mutex that they have taken to their caller,
  which hands it on to the functions that tell the application.  Whatever the
  timed locks do, every call gives back what it has taken, once, before it
  returns and before it calls the application, and it leaves a free slot
  cleared.

  Main results:
    * `balanced_run`: the discipline of each entry point.
    * `transaction_mutexes_balanced`: the mutexes under any interleaving.
-/
import WallController.CommManager.Calls

namespace WallController.CommManager.Calls

open WallController.Lib WallController.Lib.CellProg

/-! ## §1. The discipline. -/

/-- A free slot holds no command, and its counters, times and revision are zero;
its generation stays. -/
def Cleared (t : CmdTransaction) : Prop :=
  t.eState = .free →
    t.eCommand = eSysMgmt_CMD_None ∧ t.uiRetryCount = 0 ∧ t.uiMaxRetryCount = 0
      ∧ t.uiRevision = 0 ∧ t.uiStartTime_ms = 0 ∧ t.uiTrigTime_ms = 0
      ∧ t.bIsACKRequired = false ∧ t.eErrorCode = .none

/-- A slot in another state. -/
theorem cleared_of_state {t : CmdTransaction} (st : TransState) (h : t.eState = st)
    (hst : st ≠ .free) : Cleared t := fun hfree => absurd (h.symm.trans hfree) hst

theorem cleared_of_ne {t : CmdTransaction} (h : t.eState ≠ .free) : Cleared t :=
  fun hfree => absurd hfree h

theorem cleared_init : Cleared .init := fun _ => ⟨rfl, rfl, rfl, rfl, rfl, rfl, rfl, rfl⟩

/-- What a call at `p` does, where it holds `own`. -/
abbrev Safe {ρ : Type} (p : Program ρ) (own : Option (Slot × CmdTransaction))
    (Q : ρ → Option (Slot × CmdTransaction) → Prop) : Prop :=
  p.Balanced Cleared Ask.Callback own Q

/-- At the end the call holds nothing. -/
abbrev SafeCall {ρ : Type} (p : Program ρ) : Prop := Safe p none fun _ own => own = none

variable {stCallbacks : Callbacks} {i : Slot} {t : CmdTransaction} {ρ : Type}
  {own : Option (Slot × CmdTransaction)} {Q : ρ → Option (Slot × CmdTransaction) → Prop}

theorem safe_setState {f : SysMgmtError → Program ρ} (st : TransState)
    (h : Safe (f .none) (some (i, { t with eState := st })) Q) :
    Safe (eSetTransactionState i st >>= f) (some (i, t)) Q := ⟨t, rfl, h⟩

/-- A question that is no callback. -/
theorem safe_outside {q : Ask} {f : q.Answer → Program ρ} (hq : ¬ q.Callback)
    (h : ∀ e, Safe (f e) own Q) : Safe (outside q >>= f) own Q :=
  balanced_ask (fun hc => absurd hc hq) h

/-- A callback that ends the call. -/
theorem safe_callback {q : Ask} : SafeCall (outside q) :=
  balanced_ask_last (fun _ => rfl) fun _ => rfl

/-- The mutex is given back, and the call goes on without it. -/
theorem safe_unlock {f : Unit → Program ρ} (ht : Cleared t) (h : Safe (f ()) none Q) :
    Safe (mutexUnlock i >>= f) (some (i, t)) Q := balanced_unlock ht h

/-- The mutex is given back, and the call ends. -/
theorem safe_unlock_last (ht : Cleared t) :
    Safe (mutexUnlock i) (some (i, t)) fun _ own => own = none := balanced_unlock_last ht rfl

/-! ## §2. Freeing a slot. -/

theorem safe_resetTransactionState (i : Slot) : SafeCall (vResetTransactionState i) := by
  unfold vResetTransactionState
  apply balanced_lock
  intro t _
  apply safe_setState
  rw [if_neg (not_not.mpr rfl)]
  apply balanced_put
  apply balanced_put
  apply safe_setState
  exact safe_unlock_last fun _ => ⟨rfl, rfl, rfl, rfl, rfl, rfl, rfl, rfl⟩

theorem safe_setTransactionFree (p : Option Slot) : SafeCall (vSetTransactionFree p) := by
  cases p with
  | none => exact balanced_pure rfl
  | some i => exact safe_resetTransactionState i

/-! ## §3. Searching and claiming. -/

/-- The claim holds the mutex of the free slot that it gives. -/
theorem safe_claimFree (is : List Slot) :
    Safe (pstClaimFreeTransaction is) none fun r own =>
      match r with
      | none => own = none
      | some i => ∃ t, own = some (i, t) := by
  induction is with
  | nil => exact balanced_pure rfl
  | cons i is ih =>
      unfold pstClaimFreeTransaction
      apply balanced_tryLock
      · intro t ht
        rw [if_neg Bool.true_eq_false.mp]
        apply balanced_get_own
        split
        · exact balanced_pure ⟨t, rfl⟩
        · exact safe_unlock ht ih
      · rw [if_pos rfl]
        exact ih

/-- The search holds the mutex of the live transaction that it finds. -/
theorem safe_findAndLock (eCMD : SysMgmtCommand) (is : List Slot) (e : SysMgmtError) :
    Safe (pstFindAndLockTransaction eCMD is e) none fun r own =>
      match r.1 with
      | none => own = none
      | some i => ∃ t, own = some (i, t) ∧ t.eState ≠ .free := by
  induction is generalizing e with
  | nil => exact balanced_pure rfl
  | cons i is ih =>
      unfold pstFindAndLockTransaction
      apply balanced_get
      intro t₁
      split
      · exact ih e
      apply balanced_get
      intro t₂
      split
      · exact ih e
      apply balanced_tryLock
      · intro t ht
        rw [if_neg Bool.true_eq_false.mp]
        apply balanced_get_own
        apply balanced_get_own
        split
        · next hlive => exact balanced_pure ⟨t, rfl, hlive.1.1⟩
        · exact safe_unlock ht (ih e)
      · rw [if_pos rfl]
        exact ih _

/-! ## §4. Telling the application. -/

variable (stCallbacks)

theorem safe_notifyTransmissionFailure (eCMD : SysMgmtCommand) :
    SafeCall (vNotifyTransmissionFailure stCallbacks eCMD) := by
  unfold vNotifyTransmissionFailure
  by_cases hnull : stCallbacks.vTransmissionFailure = true
  · rw [if_pos hnull]
    exact safe_callback
  · rw [if_neg hnull]
    exact balanced_pure rfl

theorem safe_notifyControllerToReTransmit (i : Slot) :
    SafeCall (bNotifyControllerToReTransmit stCallbacks i) := by
  unfold bNotifyControllerToReTransmit
  by_cases hnull : stCallbacks.bRequestRetransmit = true
  · rw [if_pos hnull]
    exact safe_callback
  · rw [if_neg hnull]
    apply balanced_get
    intro _
    exact balanced_pure rfl

theorem safe_notifyControllerForHostFeedback (i : Slot) :
    SafeCall (vNotifyControllerForHostFeedback stCallbacks i) := by
  unfold vNotifyControllerForHostFeedback
  by_cases hnull : stCallbacks.vTransactionResult = true
  · rw [if_pos hnull]
    exact safe_callback
  · rw [if_neg hnull]
    apply balanced_get
    intro _
    exact safe_setTransactionFree (some i)

/-- The abort gives back the mutex that its caller has taken. -/
theorem safe_notifyControllerTransactionAbort (i : Slot) (t : CmdTransaction) :
    Safe (vNotifyControllerTransactionAbort stCallbacks i) (some (i, t)) fun _ own => own = none := by
  unfold vNotifyControllerTransactionAbort
  apply safe_setState
  apply safe_unlock (cleared_of_state .failed rfl (by decide))
  exact safe_notifyControllerForHostFeedback stCallbacks i

/-- So does the handling of a NACK, on both of its ways. -/
theorem safe_notifyControllerForHostNACK (i : Slot) (ht : Cleared t) :
    Safe (vNotifyControllerForHostNACK stCallbacks i) (some (i, t)) fun _ own => own = none := by
  unfold vNotifyControllerForHostNACK
  apply balanced_get_own
  split
  · exact safe_unlock_last ht
  · apply safe_setState
    apply safe_unlock (cleared_of_state .failed rfl (by decide))
    exact safe_notifyControllerForHostFeedback stCallbacks i

/-! ## §5. Completions and timeouts. -/

theorem safe_freeTransaction (eCommand : SysMgmtCommand) (bNotify : Bool) (ht : Cleared t) :
    Safe (freeTransaction stCallbacks i eCommand bNotify) (some (i, t)) fun _ own => own = none := by
  unfold freeTransaction
  apply safe_unlock ht
  apply (safe_setTransactionFree (some i)).bind_eq
  intro _
  split
  · exact safe_notifyTransmissionFailure stCallbacks eCommand
  · exact balanced_pure rfl

theorem safe_completeTransaction (eCommand : SysMgmtCommand) {st : TransState} (hst : st ≠ .free) :
    Safe (completeTransaction stCallbacks i eCommand st) (some (i, t)) fun _ own => own = none := by
  unfold completeTransaction
  apply safe_outside id
  intro uiNow_ms
  apply balanced_put
  apply safe_setState
  rw [if_neg (not_not.mpr rfl)]
  exact safe_unlock_last (cleared_of_state st rfl hst)

theorem safe_notifyMessageTxComplete (c : TxContext) (eResult : TxCompleteResult)
    (iDriverError : Int) : SafeCall (vNotifyMessageTxComplete stCallbacks c eResult iDriverError) := by
  unfold vNotifyMessageTxComplete
  split
  · exact balanced_pure rfl
  split
  · apply balanced_lock
    intro t ht
    apply balanced_get_own
    split
    · exact safe_unlock_last ht
    · split
      · split
        · exact safe_freeTransaction stCallbacks _ _ ht
        · exact safe_completeTransaction stCallbacks _ (by decide)
      iterate 5
        · exact safe_completeTransaction stCallbacks _ (by decide)
      iterate 4
        · exact safe_freeTransaction stCallbacks _ _ ht
      · split
        · exact safe_freeTransaction stCallbacks _ _ ht
        · exact safe_unlock_last ht
  · exact balanced_pure rfl

theorem safe_failRetransmission (i : Slot) : SafeCall (failRetransmission stCallbacks i) := by
  unfold failRetransmission
  apply balanced_lock
  intro t ht
  apply balanced_get_own
  split
  · apply balanced_put
    apply safe_setState
    apply safe_unlock (cleared_of_state .failed rfl (by decide))
    exact safe_notifyControllerForHostFeedback stCallbacks i
  · exact safe_unlock_last ht

theorem safe_trackTransaction (i : Slot) : SafeCall (trackTransaction stCallbacks i) := by
  unfold trackTransaction
  apply balanced_tryLock
  · intro t ht
    rw [if_neg Bool.true_eq_false.mp]
    apply balanced_get_own
    split
    · exact safe_unlock_last ht
    apply safe_outside id
    intro uiTime_ms
    apply safe_outside id
    intro bTimeOut
    split
    · apply safe_setState
      apply safe_unlock (cleared_of_state .prepareRetransmit rfl (by decide))
      -- the callback and the second section begin without the mutex
      apply (safe_notifyControllerToReTransmit stCallbacks i).bind_eq
      intro bIsDispatch
      split
      · exact safe_failRetransmission stCallbacks i
      · exact balanced_pure rfl
    · exact safe_unlock_last ht
  · rw [if_pos rfl]
    exact balanced_pure rfl

theorem safe_handleSysMgmtMessageTracking (is : List Slot) :
    SafeCall (vHandleSysMgmtMessageTracking stCallbacks is) := by
  induction is with
  | nil => exact balanced_pure rfl
  | cons i is ih =>
      unfold vHandleSysMgmtMessageTracking
      apply (safe_trackTransaction stCallbacks i).bind_eq
      intro _
      exact ih

/-! ## §6. Messages of the host. -/

theorem safe_submitToHandleInvalidMsgFormat (m : CtrlMsg) :
    SafeCall (vSubmitToHandleInvalidMsgFormat stCallbacks m) := by
  unfold vSubmitToHandleInvalidMsgFormat
  dsimp only
  split
  · exact balanced_pure rfl
  apply (safe_findAndLock (m.byte 0) staCMDTransactions .none).bind
  intro r own hown
  obtain ⟨p, e⟩ := r
  cases p with
  | none =>
      obtain rfl : own = none := hown
      exact balanced_pure rfl
  | some i =>
      obtain ⟨t, rfl, hst⟩ := hown
      apply balanced_get_own
      split
      · exact safe_unlock_last (cleared_of_ne hst)
      split
      · exact safe_unlock_last (cleared_of_ne hst)
      split
      · exact safe_unlock_last (cleared_of_ne hst)
      split
      · exact safe_unlock_last (cleared_of_ne hst)
      · apply balanced_put
        exact safe_notifyControllerTransactionAbort stCallbacks i _

theorem safe_submitToTransManagerACKMonitor (m : CtrlMsg) :
    SafeCall (vSubmitToTransManagerACKMonitor stCallbacks m) := by
  unfold vSubmitToTransManagerACKMonitor
  dsimp only
  by_cases hsource : m.byte 0 = eSysMgmt_CMD_None ∨ m.byte 0 ≥ eNUMBER_OF_SYS_MANAGEMENT_COMMANDs
  · rw [if_pos hsource]
    exact safe_callback
  rw [if_neg hsource]
  apply (safe_findAndLock (m.byte 0) staCMDTransactions .none).bind
  intro r own hown
  obtain ⟨p, e⟩ := r
  cases p with
  | none =>
      obtain rfl : own = none := hown
      exact balanced_pure rfl
  | some i =>
      obtain ⟨t, rfl, hst⟩ := hown
      apply balanced_get_own
      split
      · exact safe_unlock_last (cleared_of_ne hst)
      split
      · exact safe_unlock_last (cleared_of_ne hst)
      split
      · exact safe_unlock_last (cleared_of_ne hst)
      split
      · exact safe_unlock_last (cleared_of_ne hst)
      split
      · exact safe_unlock_last (cleared_of_ne hst)
      split
      · apply safe_unlock (cleared_of_ne hst)
        exact safe_callback
      split
      · -- the driver is no callback of the application
        apply safe_outside id
        intro _
        apply balanced_put
        exact safe_notifyControllerTransactionAbort stCallbacks i _
      · apply balanced_put
        split
        · apply safe_setState
          apply safe_unlock (cleared_of_state .destACK rfl (by decide))
          exact safe_notifyControllerForHostFeedback stCallbacks i
        · exact safe_notifyControllerForHostNACK stCallbacks i (cleared_of_ne hst)

theorem safe_dispatchMessage (m : CtrlMsg) : SafeCall (vDispatchMessage stCallbacks m) := by
  unfold vDispatchMessage
  split
  · exact safe_submitToTransManagerACKMonitor stCallbacks m
  split
  · exact safe_submitToHandleInvalidMsgFormat stCallbacks m
  by_cases hnull : stCallbacks.vDispatchCommand = true
  · rw [if_pos hnull]
    exact safe_callback
  · rw [if_neg hnull]
    exact balanced_pure rfl

/-! ## §7. Subscriptions and refusals. -/

/-- The subscription gives back the mutex of the slot that it claimed. -/
theorem safe_claimTransaction (q : Subscription) (i : Slot) (t : CmdTransaction) :
    Safe (claimTransaction q i) (some (i, t)) fun _ own => own = none := by
  unfold claimTransaction
  apply balanced_put
  have hcommand : Safe (vSetTransactionCommand i q.eCMD)
      (some (i, { t with uiGeneration := nextGeneration t.uiGeneration, eType := .transmit }))
      fun _ own => ∃ t, own = some (i, t) := by
    unfold vSetTransactionCommand
    split
    · exact balanced_pure ⟨_, rfl⟩
    · exact ⟨_, rfl, _, rfl⟩
  apply hcommand.bind
  intro _ own hown
  obtain ⟨t₁, rfl⟩ := hown
  apply safe_outside id
  intro uiRevision
  apply balanced_put
  apply safe_setState
  rw [if_neg (not_not.mpr rfl)]
  apply safe_unlock (cleared_of_state .waitingForTxCompletion rfl (by decide))
  exact balanced_pure rfl

/-- And that of the transaction that it found. -/
theorem safe_retransmit (q : Subscription) (i : Slot) (hst : t.eState ≠ .free) :
    Safe (retransmit q i) (some (i, t)) fun _ own => own = none := by
  unfold retransmit
  apply balanced_get_own
  split
  · apply safe_unlock (cleared_of_ne hst)
    exact balanced_pure rfl
  apply balanced_put
  apply balanced_get_own
  split
  · apply balanced_put
    apply safe_setState
    apply safe_unlock (cleared_of_state .failed rfl (by decide))
    exact balanced_pure rfl
  · apply safe_outside id
    intro uiRevision
    apply balanced_put
    apply safe_setState
    rw [if_neg (not_not.mpr rfl)]
    apply safe_unlock (cleared_of_state .waitingForTxCompletion rfl (by decide))
    exact balanced_pure rfl

theorem safe_subscribeToTransactionManager (p : Option (Option (List UInt8))) (bIsACKReq : Bool)
    (uiMaxRetryCount : UInt8) (uiTrigTime_ms : UInt64) :
    SafeCall (stSubscribeToTransactionManager p bIsACKReq uiMaxRetryCount uiTrigTime_ms) := by
  unfold stSubscribeToTransactionManager
  split
  · exact balanced_pure rfl
  split
  · exact balanced_pure rfl
  · next eCMD _ =>
    dsimp only
    apply (safe_findAndLock eCMD staCMDTransactions .none).bind
    intro r own hown
    obtain ⟨found, e⟩ := r
    cases found with
    | some i =>
        obtain ⟨t, rfl, hst⟩ := hown
        exact safe_retransmit _ i hst
    | none =>
        obtain rfl : own = none := hown
        dsimp only
        split
        · exact balanced_pure rfl
        apply (safe_claimFree staCMDTransactions).bind
        intro claimed own hown
        cases claimed with
        | none =>
            obtain rfl : own = none := hown
            exact balanced_pure rfl
        | some i =>
            obtain ⟨t, rfl⟩ := hown
            exact safe_claimTransaction _ i t

theorem safe_manageTransmissionError (eTxResult : TxSubmitResult) (p : Option Slot) :
    SafeCall (bManageTransmissionError eTxResult p) := by
  have hbackOff : ∀ i : Slot, ∀ eTxResult, eTxResult = .busUnavailable ∨ eTxResult = .queueFull →
      SafeCall (bManageTransmissionError eTxResult (some i)) := by
    intro i eTxResult hr
    rcases hr with rfl | rfl
    all_goals
      unfold bManageTransmissionError
      apply balanced_tryLock
      · intro t ht
        rw [if_neg Bool.true_eq_false.mp]
        apply safe_setState
        rw [if_pos rfl]
        apply balanced_put
        apply safe_outside id
        intro uiNow_ms
        apply balanced_put
        apply safe_setState
        apply safe_unlock (cleared_of_state .queued rfl (by decide))
        exact balanced_pure rfl
      · rw [if_pos rfl]
        exact balanced_pure rfl
  cases p with
  | none => exact balanced_pure rfl
  | some i =>
      cases eTxResult with
      | busUnavailable => exact hbackOff i _ (Or.inl rfl)
      | queueFull => exact hbackOff i _ (Or.inr rfl)
      | invalidMsg =>
          apply (safe_resetTransactionState i).bind_eq
          intro _
          exact balanced_pure rfl
      | queued => exact balanced_pure rfl
      | other code => exact balanced_pure rfl

/-! ## §8. All calls. -/

/-- **Every entry point keeps the discipline.** -/
theorem balanced_run (e : Entry) : SafeCall (e.run stCallbacks) := by
  cases e with
  | vNotifyMessageTxComplete c r e => exact safe_notifyMessageTxComplete stCallbacks c r e
  | vHandleSysMgmtMessageTracking => exact safe_handleSysMgmtMessageTracking stCallbacks _
  | vDispatchMessage m => exact safe_dispatchMessage stCallbacks m
  | stSubscribeToTransactionManager d b n ms =>
      apply (safe_subscribeToTransactionManager d b n ms).bind_eq
      intro _
      exact balanced_pure rfl
  | bManageTransmissionError r p =>
      apply (safe_manageTransmissionError r p).bind_eq
      intro _
      exact balanced_pure rfl
  | vSetTransactionFree p => exact safe_setTransactionFree p

/-- **The mutexes of the transactions are balanced.**  In every state that any
threads reach with calls of the entry points, each thread owns the mutex that
it is about to unlock, once, and none when it locks another, calls the
application or returns; a slot whose mutex is free is cleared if it is free. -/
theorem transaction_mutexes_balanced {ι : Type} [DecidableEq ι]
    {s : Cells ι Slot CmdTransaction Ask Ask.Answer Unit}
    (h : (callSystem stCallbacks ι).Reachable s) :
    (∀ t, Cells.Disciplined Ask.Callback s t)
      ∧ ∀ i, (s.mutexes i).owner = none → Cleared (s.cells i) := by
  refine Cells.balanced_of_reachable (balanced_run stCallbacks) ?_ h
  intro cells hcells i
  rw [hcells i]
  exact cleared_init

/-- Two threads free the first slot: one of them has written to it while the other waits
for its mutex, and then returns. -/
theorem transaction_mutexes_balanced_free :
    let i : Slot := ⟨0, by decide⟩
    ∃ s₁ s₂ : Cells Bool Slot CmdTransaction Ask Ask.Answer Unit,
      ((s₁.mutexes i).owner = some false ∧ (s₁.cells i).eState = .invalid
          ∧ Cells.Disciplined Ask.Callback s₁ false ∧ Cells.Disciplined Ask.Callback s₁ true)
        ∧ (s₂.mutexes i).owner = none ∧ (s₂.cells i).eState = .free ∧ Cleared (s₂.cells i)
        ∧ Cells.Disciplined Ask.Callback s₂ false ∧ Cells.Disciplined Ask.Callback s₂ true := by
  intro i
  let program := Entry.run ⟨true, true, true, true⟩
  let frees : Entry := .vSetTransactionFree (some i)
  let s₀ : Cells Bool Slot CmdTransaction Ask Ask.Answer Unit :=
    ⟨fun _ => .init, fun _ => .free, fun _ => .ret ()⟩
  have h₀ : (callSystem ⟨true, true, true, true⟩ Bool).Reachable s₀ :=
    .init ⟨fun _ => rfl, fun _ => rfl, fun _ => ⟨(), rfl⟩⟩
  -- a step of a thread
  have goes {s s' : Cells Bool Slot CmdTransaction Ask Ask.Answer Unit} {t : Bool}
      (h : (callSystem ⟨true, true, true, true⟩ Bool).Reachable s) (hst : Cells.Step program s t s') :
      (callSystem ⟨true, true, true, true⟩ Bool).Reachable s' := .step h trivial hst
  -- both call; the first takes the mutex and writes
  have hfirst := goes (t := false) h₀ (.begins (r := ()) rfl frees)
  have hsecond := goes (t := true) hfirst (.begins (r := ()) rfl frees)
  have hlocks := goes (t := false) hsecond (.locks (m := i) (x := .heldBy false) rfl rfl)
  have h₁ := goes (t := false) hlocks (.store (m := i) rfl)
  -- the rest of its call
  have hcommand := goes (t := false) h₁ (.store (m := i) rfl)
  have hfields := goes (t := false) hcommand (.store (m := i) rfl)
  have hfree := goes (t := false) hfields (.store (m := i) rfl)
  have h₂ := goes (t := false) hfree (.unlocks (m := i) rfl)
  refine ⟨_, _, ⟨rfl, rfl, (transaction_mutexes_balanced _ h₁).1 false,
    (transaction_mutexes_balanced _ h₁).1 true⟩, rfl, rfl, ?_,
    (transaction_mutexes_balanced _ h₂).1 false, (transaction_mutexes_balanced _ h₂).1 true⟩
  exact (transaction_mutexes_balanced _ h₂).2 i rfl

end WallController.CommManager.Calls
