/-
  WallController.CommManager.Calls
  ────────────────────────────────
  **THE ENTRY POINTS OF THE COMMUNICATION MANAGER, LOCK BY LOCK.**

  `WallController_Comm_Manager.c` once more, now one load or store of a slot,
  one operation on its mutex or one call of the outside at a time.  A lock with
  `K_NO_WAIT` or `K_MSEC` can fail at any time; one with `K_FOREVER` waits.

  The outside is the clock, the CAN driver, the revisions of the commands and
  the callbacks of the application.  A callback that calls the manager again
  does so as another thread would.
-/
import WallController.CommManager.Threads
import WallController.Lib.LockedCells

namespace WallController.CommManager.Calls

open WallController.Lib WallController.Lib.CellProg

/-! ## §1. The outside. -/

/-- What a call asks of the outside. -/
inductive Ask where
  | kUptimeGet
  /-- `bIsTimeOut` of the times of a slot. -/
  | bIsTimeOut (uiStartTime_ms uiTime_ms uiTrigTime_ms : UInt64)
  | uiGetCommandRevision (eCMD : SysMgmtCommand)
  | vSendCANMessage (data : List UInt8)
  /-- The callbacks of the application. -/
  | vTransmissionFailure (eCMD : SysMgmtCommand)
  | bRequestRetransmit (pstTransaction : Slot)
  | vTransactionResult (pstTransaction : Slot)
  | vDispatchCommand (pstTMessage : CtrlMsg)

@[reducible] def Ask.Answer : Ask → Type
  | .kUptimeGet => UInt64
  | .bIsTimeOut .. => Bool
  | .uiGetCommandRevision _ => UInt8
  | .bRequestRetransmit _ => Bool
  | .vSendCANMessage _ | .vTransmissionFailure _ | .vTransactionResult _ | .vDispatchCommand _ =>
    Unit

/-- The callbacks of the application. -/
def Ask.Callback : Ask → Prop
  | .vTransmissionFailure _ | .bRequestRetransmit _ | .vTransactionResult _
  | .vDispatchCommand _ => True
  | .kUptimeGet | .bIsTimeOut .. | .uiGetCommandRevision _ | .vSendCANMessage _ => False

/-- `sT_WallController_CommCallbacks_t`: which of the callbacks are not null. -/
structure Callbacks where
  vTransmissionFailure : Bool
  bRequestRetransmit : Bool
  vTransactionResult : Bool
  vDispatchCommand : Bool
  deriving DecidableEq, Repr

abbrev Program := CellProg Slot CmdTransaction Ask Ask.Answer

def outside (q : Ask) : Program q.Answer := ask q

variable (stCallbacks : Callbacks)

/-! ## §2. One slot. -/

/-- `eSet_TransactionState`, where the pointer is not null. -/
def eSetTransactionState (i : Slot) (eState : TransState) : Program SysMgmtError := do
  put i fun t => { t with eState := eState }
  return .none

/-- `vSet_TransactionCommand`. -/
def vSetTransactionCommand (i : Slot) (eCMD : SysMgmtCommand) : Program Unit :=
  if eCMD < eSysMgmt_CMD_Reserved_20 ∨ eCMD ≥ eNUMBER_OF_SYS_MANAGEMENT_COMMANDs then return ()
  else put i fun t => { t with eCommand := eCMD }

/-- `vReset_TransactionState`. -/
def vResetTransactionState (i : Slot) : Program Unit := do
  mutexLock i
  let eErrorCode ← eSetTransactionState i .invalid
  if eErrorCode ≠ .none then mutexUnlock i
  else
    put i fun t => { t with eCommand := eSysMgmt_CMD_None }
    put i fun t =>
      { t with
        bIsACKRequired := false
        eErrorCode := .none
        eType := .numberOfTypes
        uiMaxRetryCount := 0
        uiRetryCount := 0
        uiRevision := 0
        uiStartTime_ms := 0
        uiTrigTime_ms := 0 }
    let _ ← eSetTransactionState i .free
    mutexUnlock i

/-- `vSetTransaction_Free`. -/
def vSetTransactionFree : Option Slot → Program Unit
  | none => return ()
  | some i => vResetTransactionState i

/-- `pstClaimFreeTransaction`, over the slots that are left. -/
def pstClaimFreeTransaction : List Slot → Program (Option Slot)
  | [] => return none
  | i :: is => do
    let bLocked ← mutexTryLock i
    if bLocked = false then pstClaimFreeTransaction is
    else
      let eState ← get i (·.eState)
      if eState = .free then return some i
      else
        mutexUnlock i
        pstClaimFreeTransaction is

/-- `pstFindAndLockTransaction_ByCMDId`, over the slots that are left, with the error so far. -/
def pstFindAndLockTransaction (eCMD : SysMgmtCommand) :
    List Slot → SysMgmtError → Program (Option Slot × SysMgmtError)
  | [], eErrorCode => return (none, eErrorCode)
  | i :: is, eErrorCode => do
    let eState ← get i (·.eState)
    if eState = .free ∨ eState = .invalid then pstFindAndLockTransaction eCMD is eErrorCode
    else
      let eCommand ← get i (·.eCommand)
      if eCommand ≠ eCMD then pstFindAndLockTransaction eCMD is eErrorCode
      else
        let bLocked ← mutexTryLock i
        if bLocked = false then pstFindAndLockTransaction eCMD is .transactionLocked
        else
          let eState ← get i (·.eState)
          let eCommand ← get i (·.eCommand)
          if (eState ≠ .free ∧ eState ≠ .invalid) ∧ eCommand = eCMD then return (some i, .none)
          else
            mutexUnlock i
            pstFindAndLockTransaction eCMD is eErrorCode

/-- The slots in the order of the table. -/
def staCMDTransactions : List Slot := List.finRange MAX_NUMBER_OF_TRANSACTION_TRACKINGs

/-! ## §3. Telling the application. -/

/-- `vNotify_TransmissionFailure`. -/
def vNotifyTransmissionFailure (eCMD : SysMgmtCommand) : Program Unit :=
  if stCallbacks.vTransmissionFailure = true then outside (.vTransmissionFailure eCMD) else return ()

/-- `bNotify_ControllerToReTransmit`. -/
def bNotifyControllerToReTransmit (i : Slot) : Program Bool :=
  if stCallbacks.bRequestRetransmit = true then outside (.bRequestRetransmit i)
  else do
    let _ ← get i (·.eCommand)
    return false

/-- `vNotify_Controller_ForHostFeedback`. -/
def vNotifyControllerForHostFeedback (i : Slot) : Program Unit :=
  if stCallbacks.vTransactionResult = true then outside (.vTransactionResult i)
  else do
    let _ ← get i (·.eCommand)
    vSetTransactionFree (some i)

/-- `vNotify_Controller_TransactionAbort`: it unlocks the slot that the caller has locked. -/
def vNotifyControllerTransactionAbort (i : Slot) : Program Unit := do
  let _ ← eSetTransactionState i .failed
  mutexUnlock i
  vNotifyControllerForHostFeedback stCallbacks i

/-- `vNotify_Controller_ForHostNACK`, likewise. -/
def vNotifyControllerForHostNACK (i : Slot) : Program Unit := do
  let t ← get i id
  if t.uiRetryCount < t.uiMaxRetryCount ∧ isFinalNACK t.eErrorCode = false then mutexUnlock i
  else
    let _ ← eSetTransactionState i .failed
    mutexUnlock i
    vNotifyControllerForHostFeedback stCallbacks i

/-- `vNotify_MsgFormatError_ToHost`. -/
def vNotifyMsgFormatErrorToHost (eCommand : SysMgmtCommand) (uiRev : UInt8)
    (eErrCode : SysMgmtError) : Program Unit :=
  outside (.vSendCANMessage (msgFormatErrorData eCommand uiRev eErrCode))

/-! ## §4. Completions and timeouts. -/

/-- The slot is freed, and the failure told if there is one. -/
def freeTransaction (i : Slot) (eCommand : SysMgmtCommand) (bNotify : Bool) : Program Unit := do
  mutexUnlock i
  vSetTransactionFree (some i)
  if bNotify = true then vNotifyTransmissionFailure stCallbacks eCommand else return ()

/-- The new state of a slot whose completion matches; it is freed if the state cannot be set. -/
def completeTransaction (i : Slot) (eCommand : SysMgmtCommand) (eState : TransState) :
    Program Unit := do
  let uiNow_ms ← outside .kUptimeGet
  put i fun t => { t with uiStartTime_ms := uiNow_ms }
  let eError ← eSetTransactionState i eState
  if eError ≠ .none then freeTransaction stCallbacks i eCommand true
  else mutexUnlock i

/-- `vNotify_MessageTxComplete`. -/
def vNotifyMessageTxComplete (stTContext : TxContext) (eResult : TxCompleteResult)
    (iDriverError : Int) : Program Unit :=
  if stTContext.uiGeneration = 0 then return ()
  else if h : stTContext.uiTransactionIndex < MAX_NUMBER_OF_TRANSACTION_TRACKINGs then do
    let i : Slot := ⟨stTContext.uiTransactionIndex, h⟩
    let eCMD := stTContext.eCommand
    mutexLock i
    let t ← get i id
    if ¬ Matches t stTContext then mutexUnlock i
    else
      match eResult with
      | .success =>
        if t.bIsACKRequired = false then freeTransaction stCallbacks i eCMD false
        else completeTransaction stCallbacks i eCMD .waitingForACK
      | .mailboxTimeout | .completionTimeout | .arbitrationLost | .controllerStopped | .busOff =>
        completeTransaction stCallbacks i eCMD .queued
      | .invalidFrame | .unsupported | .hardwareError | .unknownError =>
        freeTransaction stCallbacks i eCMD true
      | .other _ =>
        if iDriverError < 0 then freeTransaction stCallbacks i eCMD t.bIsACKRequired
        else mutexUnlock i
  else return ()

/-- The part of `vHandle_SysMgmt_MessageTracking` after the retransmission was refused. -/
def failRetransmission (i : Slot) : Program Unit := do
  mutexLock i
  let eState ← get i (·.eState)
  if eState = .prepareRetransmit then
    put i fun t => { t with eErrorCode := .invalidRetransmitRequest }
    let _ ← eSetTransactionState i .failed
    mutexUnlock i
    vNotifyControllerForHostFeedback stCallbacks i
  else mutexUnlock i

/-- One turn of `vHandle_SysMgmt_MessageTracking`. -/
def trackTransaction (i : Slot) : Program Unit := do
  let bLocked ← mutexTryLock i
  if bLocked = false then return ()
  else
    let t ← get i id
    if t.eState ≠ .waitingForACK ∧ t.eState ≠ .queued then mutexUnlock i
    else
      let uiTime_ms ← outside .kUptimeGet
      let bTimeOut : Bool ← outside (.bIsTimeOut t.uiStartTime_ms uiTime_ms t.uiTrigTime_ms)
      if bTimeOut = true then
        let _ ← eSetTransactionState i .prepareRetransmit
        mutexUnlock i
        let bIsDispatch ← bNotifyControllerToReTransmit stCallbacks i
        if bIsDispatch = false then failRetransmission stCallbacks i else return ()
      else mutexUnlock i

/-- `vHandle_SysMgmt_MessageTracking`, over the slots that are left. -/
def vHandleSysMgmtMessageTracking : List Slot → Program Unit
  | [] => return ()
  | i :: is => do
    trackTransaction stCallbacks i
    vHandleSysMgmtMessageTracking is

/-! ## §5. Messages of the host. -/

/-- `vSubmit_To_HandleInvalidMsgFormat`. -/
def vSubmitToHandleInvalidMsgFormat (m : CtrlMsg) : Program Unit :=
  let eCMD := m.byte 0
  if eCMD = eSysMgmt_CMD_None ∨ eCMD ≥ eNUMBER_OF_SYS_MANAGEMENT_COMMANDs then return ()
  else do
    let (pstTransaction, _) ← pstFindAndLockTransaction eCMD staCMDTransactions .none
    match pstTransaction with
    | none => return ()
    | some i =>
      let t ← get i id
      if t.uiRevision ≠ m.byte 1 then mutexUnlock i
      else if t.eState ≠ .waitingForACK then mutexUnlock i
      else
        match SysMgmtError.ofByte (m.byte 2) with
        | none => mutexUnlock i
        | some eErrCode =>
          if eErrCode = .none then mutexUnlock i
          else
            put i fun t => { t with eErrorCode := eErrCode }
            vNotifyControllerTransactionAbort stCallbacks i

/-- `vSubmit_To_TransManager_ACKMonitor`. -/
def vSubmitToTransManagerACKMonitor (m : CtrlMsg) : Program Unit :=
  let eCMD := m.byte 0
  if eCMD = eSysMgmt_CMD_None ∨ eCMD ≥ eNUMBER_OF_SYS_MANAGEMENT_COMMANDs then
    outside (.vSendCANMessage (ackNackData .nack .invalidCommand eSysMgmt_CMD_Undefined (m.byte 1)))
  else do
    let (pstTransaction, _) ← pstFindAndLockTransaction eCMD staCMDTransactions .none
    match pstTransaction with
    | none => return ()
    | some i =>
      let t ← get i id
      if t.eCommand ≠ eCMD then mutexUnlock i
      else if t.eState ≠ .waitingForACK then mutexUnlock i
      else
        match CanAck.ofByte (m.byte 2) with
        | none => mutexUnlock i
        | some eACKControl =>
          if t.uiRevision ≠ m.byte 1 then mutexUnlock i
          else
            match SysMgmtError.ofByte (m.byte 3) with
            | none => mutexUnlock i
            | some eErrCode =>
              if (eACKControl = .ack ∧ eErrCode ≠ .none)
                  ∨ (eACKControl = .nack ∧ eErrCode = .none) then
                mutexUnlock i
                vNotifyMsgFormatErrorToHost eCMD (m.byte 1) .inconsistent_ACKError
              else if bMessageFormatError eErrCode = true then
                -- the message is sent with the mutex held
                vNotifyMsgFormatErrorToHost eCMD (m.byte 1) eErrCode
                put i fun t => { t with eErrorCode := eErrCode }
                vNotifyControllerTransactionAbort stCallbacks i
              else
                put i fun t => { t with eErrorCode := eErrCode }
                match eACKControl with
                | .ack =>
                  let _ ← eSetTransactionState i .destACK
                  mutexUnlock i
                  vNotifyControllerForHostFeedback stCallbacks i
                | .nack => vNotifyControllerForHostNACK stCallbacks i

/-- `vDispatch_Message`. -/
def vDispatchMessage (m : CtrlMsg) : Program Unit :=
  if m.eCMD = eSysMgmt_CMD_ACK_NACK then vSubmitToTransManagerACKMonitor stCallbacks m
  else if m.eCMD = eSysMgmt_CMD_Ret_InvalidMsgFormat then
    vSubmitToHandleInvalidMsgFormat stCallbacks m
  else if stCallbacks.vDispatchCommand = true then outside (.vDispatchCommand m)
  else return ()

/-! ## §6. Subscriptions and refusals. -/

/-- The part of `stSubscribe_To_TransactionManager` with a free slot. -/
def claimTransaction (q : Subscription) (i : Slot) : Program (SysMgmtError × Option Slot) := do
  put i fun t => { t with uiGeneration := nextGeneration t.uiGeneration, eType := .transmit }
  vSetTransactionCommand i q.eCMD
  let uiRevision ← outside (.uiGetCommandRevision q.eCMD)
  put i fun t =>
    { t with
      bIsACKRequired := q.bIsACKReq
      uiRevision := uiRevision
      uiRetryCount := 0
      uiMaxRetryCount := q.uiMaxRetryCount
      uiTrigTime_ms := q.uiTrigTime_ms
      eErrorCode := .none }
  let eErrorCode ← eSetTransactionState i .waitingForTxCompletion
  if eErrorCode ≠ .none then
    mutexUnlock i
    return (.transactionStateWrtie, some i)
  else
    mutexUnlock i
    return (.none, some i)

/-- Its part with the transaction that was found. -/
def retransmit (q : Subscription) (i : Slot) : Program (SysMgmtError × Option Slot) := do
  let eCurrentState ← get i (·.eState)
  if eCurrentState ≠ .prepareRetransmit then
    mutexUnlock i
    return (.invalidRetransmitRequest, none)
  else
    put i fun t => { t with uiRetryCount := t.uiRetryCount + 1 }
    let t ← get i id
    if t.uiRetryCount > t.uiMaxRetryCount then
      put i fun t => { t with eErrorCode := .transactionMaxRetryReach }
      let _ ← eSetTransactionState i .failed
      mutexUnlock i
      return (.transactionMaxRetryReach, some i)
    else
      let uiRevision ← outside (.uiGetCommandRevision q.eCMD)
      put i fun t => { t with uiRevision := uiRevision, eErrorCode := .none }
      let eErrorCode ← eSetTransactionState i .waitingForTxCompletion
      if eErrorCode ≠ .none then
        put i fun t => { t with eErrorCode := .transactionStateWrtie }
        mutexUnlock i
        return (.transactionStateWrtie, some i)
      else
        mutexUnlock i
        return (.none, some i)

/-- `stSubscribe_To_TransactionManager`: the message may be null, and so may its data. -/
def stSubscribeToTransactionManager (pstTxMessage : Option (Option (List UInt8)))
    (bIsACKReq : Bool) (uiMaxRetryCount : UInt8) (uiTrigTime_ms : UInt64) :
    Program (SysMgmtError × Option Slot) :=
  match pstTxMessage with
  | none => return (.invalidPointer, none)
  | some puiData =>
    match checkSubscription puiData with
    | .error eErrorCode => return (eErrorCode, none)
    | .ok eCMD => do
      let q : Subscription := ⟨eCMD, bIsACKReq, uiMaxRetryCount, uiTrigTime_ms⟩
      let (pstTransaction, eErrorCode) ← pstFindAndLockTransaction eCMD staCMDTransactions .none
      match pstTransaction with
      | some i => retransmit q i
      | none =>
        if eErrorCode = .transactionLocked then return (eErrorCode, none)
        else
          let pstTransaction ← pstClaimFreeTransaction staCMDTransactions
          match pstTransaction with
          | none => return (.noFreeTransaction, none)
          | some i => claimTransaction q i

/-- `bManage_TransmissionError`. -/
def bManageTransmissionError (eTxResult : TxSubmitResult) : Option Slot → Program Bool
  | none => return false
  | some i =>
    match eTxResult with
    | .busUnavailable | .queueFull => do
      let bLocked ← mutexTryLock i
      if bLocked = false then return false
      else
        let eErrorCode ← eSetTransactionState i .invalid
        if eErrorCode = .none then
          put i fun t => { t with uiTrigTime_ms := t.uiTrigTime_ms + TRANSACTION_BACKOFF_TIME_ms }
          let uiNow_ms ← outside .kUptimeGet
          put i fun t => { t with uiStartTime_ms := uiNow_ms }
          let _ ← eSetTransactionState i .queued
          mutexUnlock i
          return true
        else
          mutexUnlock i
          return false
    | .invalidMsg => do
      vResetTransactionState i
      return false
    | .queued | .other _ => return true

/-! ## §7. The entry points. -/

/-- A call of an entry point, with its arguments. -/
inductive Entry where
  | vNotifyMessageTxComplete (stTContext : TxContext) (eResult : TxCompleteResult)
      (iDriverError : Int)
  | vHandleSysMgmtMessageTracking
  | vDispatchMessage (m : CtrlMsg)
  | stSubscribeToTransactionManager (pstTxMessage : Option (Option (List UInt8)))
      (bIsACKReq : Bool) (uiMaxRetryCount : UInt8) (uiTrigTime_ms : UInt64)
  | bManageTransmissionError (eTxResult : TxSubmitResult) (pstTransaction : Option Slot)
  | vSetTransactionFree (pstTransaction : Option Slot)

/-- The call without its result. -/
def Entry.run : Entry → Program Unit
  | .vNotifyMessageTxComplete c r e => Calls.vNotifyMessageTxComplete stCallbacks c r e
  | .vHandleSysMgmtMessageTracking =>
    Calls.vHandleSysMgmtMessageTracking stCallbacks staCMDTransactions
  | .vDispatchMessage m => Calls.vDispatchMessage stCallbacks m
  | .stSubscribeToTransactionManager d b n ms => do
    let _ ← Calls.stSubscribeToTransactionManager d b n ms
  | .bManageTransmissionError r p => do
    let _ ← Calls.bManageTransmissionError r p
  | .vSetTransactionFree p => Calls.vSetTransactionFree p

/-- Threads that call the manager after its initialisation. -/
def callSystem (ι : Type) [DecidableEq ι] :
    TransSys (Cells ι Slot CmdTransaction Ask Ask.Answer Unit) ι :=
  Cells.system (Entry.run stCallbacks) fun cells => ∀ i, cells i = .init

end WallController.CommManager.Calls
