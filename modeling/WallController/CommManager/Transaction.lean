/-
  WallController.CommManager.Transaction
  ────────────────────────────────
  **THE TRANSACTIONS OF THE COMMUNICATION MANAGER.**

  `WallController_Comm_Types.h`, and what the functions of
  `WallController_Comm_Manager.c` do to one transaction while they hold its
  mutex.  A section is a function from the slot to the slot, with what the
  thread does once it has released the mutex.

  The CAN driver, the clock and the application callbacks are outside of the
  source; their results are arguments.
-/
import WallController.Bootloader.CanController

namespace WallController.CommManager

open WallController.Bootloader (CanFrame canDlcToBytes CAN_MSG_MAX_SIZE)

/-! ## §1. Types (`WallController_Comm_Types.h`). -/

def MAX_NUMBER_OF_TRANSACTION_TRACKINGs : Nat := 20
def TRANSACTION_BACKOFF_TIME_ms : UInt64 := 50

/-- `eT_SysMgmtCommand_t`: a cast of a byte, so any byte. -/
abbrev SysMgmtCommand := UInt8

def eSysMgmt_CMD_None : SysMgmtCommand := 0
def eSysMgmt_CMD_Reserved_20 : SysMgmtCommand := 20
def eSysMgmt_CMD_ACK_NACK : SysMgmtCommand := 21
def eSysMgmt_CMD_Ret_InvalidMsgFormat : SysMgmtCommand := 22
def eSysMgmt_CMD_Undefined : SysMgmtCommand := 23
def eNUMBER_OF_SYS_MANAGEMENT_COMMANDs : SysMgmtCommand := 25

/-- `eT_SysMgmtErrorCode_t`. -/
inductive SysMgmtError where
  | none
  | invalidCommand
  | invalidFrameLength
  | invalidPayLoadLength
  | payLoadLengthMismatch
  | payLoadLength_NotDefined
  | invalidTranscId
  | invalidPointer
  | noPendingTransaction
  | invalidACKType
  | noWaitForACK
  | invalidRev_ForACK
  | invalidHostFeedback
  | inconsistent_ACKError
  | noFreeTransaction
  | transactionStateWrtie
  | transactionMaxRetryReach
  | invalidCANTxMessage
  | transactionLocked
  | invalidRetransmitRequest
  | invalidLoadSetting
  | invalidPowerSetting
  | destMutexTimeOut
  | nullPointerRef
  deriving DecidableEq, Repr

/-- The error codes in the order of their values. -/
def SysMgmtError.all : List SysMgmtError :=
  [.none, .invalidCommand, .invalidFrameLength, .invalidPayLoadLength, .payLoadLengthMismatch,
    .payLoadLength_NotDefined, .invalidTranscId, .invalidPointer, .noPendingTransaction,
    .invalidACKType, .noWaitForACK, .invalidRev_ForACK, .invalidHostFeedback,
    .inconsistent_ACKError, .noFreeTransaction, .transactionStateWrtie, .transactionMaxRetryReach,
    .invalidCANTxMessage, .transactionLocked, .invalidRetransmitRequest, .invalidLoadSetting,
    .invalidPowerSetting, .destMutexTimeOut, .nullPointerRef]

def SysMgmtError.toByte (e : SysMgmtError) : UInt8 := UInt8.ofNat (all.idxOf e)

/-- The code of a byte below `eNUMBER_OF_SYS_MANAGEMENT_ERROR_CODEs`. -/
def SysMgmtError.ofByte (b : UInt8) : Option SysMgmtError := all[b.toNat]?

theorem SysMgmtError.ofByte_toByte (e : SysMgmtError) : ofByte e.toByte = some e := by
  cases e <;> decide

/-- `eT_CANACK_Ctrl`. -/
inductive CanAck where
  | ack
  | nack
  deriving DecidableEq, Repr

def CanAck.toByte : CanAck → UInt8
  | .ack => 10
  | .nack => 11

def CanAck.ofByte (b : UInt8) : Option CanAck :=
  if b = 10 then some .ack else if b = 11 then some .nack else none

/-- `eT_TransactionType_t`. -/
inductive TransType where
  | none
  | receive
  | transmit
  | numberOfTypes
  deriving DecidableEq, Repr

/-- `eT_TransactionState_t`. -/
inductive TransState where
  | free
  | queued
  | invalid
  | waitingForTxCompletion
  | waitingForACK
  | destACK
  | failed
  | prepareRetransmit
  deriving DecidableEq, Repr

/-- `sT_CmdTransaction_t` without its mutex. -/
structure CmdTransaction where
  eType : TransType
  eState : TransState
  eCommand : SysMgmtCommand
  eErrorCode : SysMgmtError
  bIsACKRequired : Bool
  uiTrigTime_ms : UInt64
  uiStartTime_ms : UInt64
  uiRetryCount : UInt8
  uiMaxRetryCount : UInt8
  uiRevision : UInt8
  uiGeneration : UInt32
  deriving DecidableEq, Repr

/-- A slot after `bInit_WallController_Comm_Manager`. -/
def CmdTransaction.init : CmdTransaction where
  eType := .none
  eState := .free
  eCommand := eSysMgmt_CMD_None
  eErrorCode := .none
  bIsACKRequired := false
  uiTrigTime_ms := 0
  uiStartTime_ms := 0
  uiRetryCount := 0
  uiMaxRetryCount := 0
  uiRevision := 0
  uiGeneration := 0

/-- Neither free nor invalid: what the search for a transaction looks at. -/
def CmdTransaction.Live (t : CmdTransaction) : Prop :=
  t.eState ≠ .free ∧ t.eState ≠ .invalid

instance (t : CmdTransaction) : Decidable t.Live := inferInstanceAs (Decidable (_ ∧ _))

/-! ## §2. Subscription. -/

/-- What `stSubscribe_To_TransactionManager` is asked for, once its message
has passed the checks. -/
structure Subscription where
  eCMD : SysMgmtCommand
  bIsACKReq : Bool
  uiMaxRetryCount : UInt8
  uiTrigTime_ms : UInt64
  deriving DecidableEq, Repr

/-- The checks at the head of `stSubscribe_To_TransactionManager`: the data of
the message, where neither pointer is null. -/
def checkSubscription (puiData : Option (List UInt8)) : Except SysMgmtError SysMgmtCommand :=
  match puiData with
  | none => .error .invalidCANTxMessage
  | some [] => .error .invalidCANTxMessage
  | some (eCMD :: _) =>
    if eCMD < eSysMgmt_CMD_Reserved_20 ∨ eCMD ≥ eNUMBER_OF_SYS_MANAGEMENT_COMMANDs then
      .error .invalidCommand
    else .ok eCMD

/-- The next generation, which is never zero. -/
def nextGeneration (g : UInt32) : UInt32 := if g + 1 = 0 then 1 else g + 1

/-- The section of `stSubscribe_To_TransactionManager` on a free slot. -/
def claimTransaction (q : Subscription) (uiRevision : UInt8) (t : CmdTransaction) :
    CmdTransaction where
  eType := .transmit
  eState := .waitingForTxCompletion
  eCommand := q.eCMD
  eErrorCode := .none
  bIsACKRequired := q.bIsACKReq
  uiTrigTime_ms := q.uiTrigTime_ms
  uiStartTime_ms := t.uiStartTime_ms
  uiRetryCount := 0
  uiMaxRetryCount := q.uiMaxRetryCount
  uiRevision := uiRevision
  uiGeneration := nextGeneration t.uiGeneration

/-- Its section on the transaction it found: the retransmission. -/
def retransmit (uiRevision : UInt8) (t : CmdTransaction) : CmdTransaction × SysMgmtError :=
  if t.eState ≠ .prepareRetransmit then (t, .invalidRetransmitRequest)
  else
    let t := { t with uiRetryCount := t.uiRetryCount + 1 }
    if t.uiRetryCount > t.uiMaxRetryCount then
      ({ t with eErrorCode := .transactionMaxRetryReach, eState := .failed },
        .transactionMaxRetryReach)
    else
      ({ t with uiRevision := uiRevision, eErrorCode := .none, eState := .waitingForTxCompletion },
        .none)

/-- `vReset_TransactionState`. -/
def resetTransaction (t : CmdTransaction) : CmdTransaction :=
  { CmdTransaction.init with eType := .numberOfTypes, uiGeneration := t.uiGeneration }

/-! ## §3. Transmission. -/

/-- `sT_CAN_TxContext_t`. -/
structure TxContext where
  uiGeneration : UInt32
  eCommand : SysMgmtCommand
  uiTransactionIndex : Nat
  uiRevision : UInt8
  deriving DecidableEq, Repr

/-- The section of `vSend_CANMessage`. -/
def txContext (uiTransactionIndex : Nat) (t : CmdTransaction) : TxContext where
  uiGeneration := t.uiGeneration
  eCommand := t.eCommand
  uiTransactionIndex := uiTransactionIndex
  uiRevision := t.uiRevision

/-- `eT_CAN_TxSubmitResult`, with the values that no case names. -/
inductive TxSubmitResult where
  | queued
  | busUnavailable
  | queueFull
  | invalidMsg
  | other (code : Nat)
  deriving DecidableEq, Repr

/-- The section of `bManage_TransmissionError` for a message to be sent again. -/
def backOff (uiNow_ms : UInt64) (t : CmdTransaction) : CmdTransaction :=
  { t with
    uiTrigTime_ms := t.uiTrigTime_ms + TRANSACTION_BACKOFF_TIME_ms
    uiStartTime_ms := uiNow_ms
    eState := .queued }

/-- The `eResult` of a completion, with the values that no case names. -/
inductive TxCompleteResult where
  | success
  | mailboxTimeout
  | completionTimeout
  | arbitrationLost
  | controllerStopped
  | busOff
  | invalidFrame
  | unsupported
  | hardwareError
  | unknownError
  | other (code : Nat)
  deriving DecidableEq, Repr

/-- How the section of `vNotify_MessageTxComplete` ends. -/
inductive Completed where
  /-- The completion does not match the slot. -/
  | stale
  /-- The slot is written and the mutex released. -/
  | written (t : CmdTransaction)
  /-- The mutex is released; the slot is to be freed, and the failure told. -/
  | free (bNotify : Bool)
  deriving DecidableEq, Repr

/-- The transaction is the one the context was taken from. -/
def Matches (t : CmdTransaction) (c : TxContext) : Prop :=
  t.eState = .waitingForTxCompletion ∧ t.eCommand = c.eCommand
    ∧ t.uiGeneration = c.uiGeneration ∧ t.uiRevision = c.uiRevision

instance (t : CmdTransaction) (c : TxContext) : Decidable (Matches t c) :=
  inferInstanceAs (Decidable (_ ∧ _))

/-- The section of `vNotify_MessageTxComplete`. -/
def completeTransaction (c : TxContext) (eResult : TxCompleteResult) (iDriverError : Int)
    (uiNow_ms : UInt64) (t : CmdTransaction) : Completed :=
  if ¬ Matches t c then .stale
  else
    match eResult with
    | .success =>
      if t.bIsACKRequired = false then .free false
      else .written { t with uiStartTime_ms := uiNow_ms, eState := .waitingForACK }
    | .mailboxTimeout | .completionTimeout | .arbitrationLost | .controllerStopped | .busOff =>
      .written { t with uiStartTime_ms := uiNow_ms, eState := .queued }
    | .invalidFrame | .unsupported | .hardwareError | .unknownError => .free true
    | .other _ =>
      if iDriverError < 0 then .free t.bIsACKRequired
      else .written t

/-! ## §4. Timeouts. -/

/-- The first section of `vHandle_SysMgmt_MessageTracking`: the slot, and
whether it is to be retransmitted. -/
def trackTransaction (bIsTimeOut : Bool) (t : CmdTransaction) : CmdTransaction × Bool :=
  if t.eState ≠ .waitingForACK ∧ t.eState ≠ .queued then (t, false)
  else if bIsTimeOut = true then ({ t with eState := .prepareRetransmit }, true)
  else (t, false)

/-- Its second section, after the retransmission was refused: the slot, and
whether it was marked failed. -/
def markFailed (t : CmdTransaction) : CmdTransaction × Bool :=
  if t.eState = .prepareRetransmit then
    ({ t with eErrorCode := .invalidRetransmitRequest, eState := .failed }, true)
  else (t, false)

/-! ## §5. Received frames. -/

/-- `sT_SysMgmt_CtrlMsg_t`. -/
structure CtrlMsg where
  eCMD : SysMgmtCommand
  uiLen : Nat
  uiaData : List UInt8
  deriving DecidableEq, Repr

/-- The zeroed message of `vHandle_SysMgmt_Messages`. -/
def CtrlMsg.zero : CtrlMsg := ⟨eSysMgmt_CMD_None, 0, List.replicate CAN_MSG_MAX_SIZE 0⟩

/-- A byte of the message. -/
def CtrlMsg.byte (m : CtrlMsg) (i : Nat) : UInt8 := m.uiaData.getD i 0

/-- The callback `iGetPayloadLength`, which may be null. -/
abbrev PayloadLengths := Option (SysMgmtCommand → Int)

/-- `iGet_CmdPayLoadLen`. -/
def iGetCmdPayLoadLen (iGetPayloadLength : PayloadLengths) (eCMD : SysMgmtCommand) : Int :=
  if eCMD = eSysMgmt_CMD_ACK_NACK then 4
  else if eCMD = eSysMgmt_CMD_Ret_InvalidMsgFormat then 3
  else
    match iGetPayloadLength with
    | some f => f eCMD
    | none => -1

/-- `eValidate_PayLoadLength`: the error, and the message as far as it is filled in. -/
def eValidatePayLoadLength (iGetPayloadLength : PayloadLengths) (f : CanFrame) :
    SysMgmtError × CtrlMsg :=
  let uiFrameLen := canDlcToBytes f.dlc
  if uiFrameLen < 2 then (.invalidFrameLength, .zero)
  else
    let eCMD := f.data.getD 0 0
    let uiHostDefined_PayloadLen := (f.data.getD 1 0).toNat
    if eCMD < eSysMgmt_CMD_Reserved_20 ∨ eCMD ≥ eNUMBER_OF_SYS_MANAGEMENT_COMMANDs then
      (.invalidCommand, .zero)
    else
      let m := { CtrlMsg.zero with eCMD := eCMD }
      if uiFrameLen < 2 ∨ uiFrameLen < 2 + uiHostDefined_PayloadLen then (.invalidFrameLength, m)
      else if uiHostDefined_PayloadLen > CAN_MSG_MAX_SIZE - 2 then (.invalidPayLoadLength, m)
      else
        let iExpectedPayLen := iGetCmdPayLoadLen iGetPayloadLength eCMD
        if iExpectedPayLen < 0 then (.payLoadLength_NotDefined, m)
        else if (iExpectedPayLen % 256).toNat ≠ uiHostDefined_PayloadLen then
          (.payLoadLengthMismatch, m)
        else (.none, { m with uiLen := uiHostDefined_PayloadLen })

/-- The data of `vSend_ACK_NACK`. -/
def ackNackData (eACKNACK : CanAck) (eErrorCode : SysMgmtError) (uiCommand uiRev : UInt8) :
    List UInt8 :=
  [eSysMgmt_CMD_ACK_NACK, 4, uiCommand, uiRev, eACKNACK.toByte, eErrorCode.toByte]

/-- The data of `vNotify_MsgFormatError_ToHost`. -/
def msgFormatErrorData (eCommand : SysMgmtCommand) (uiRev : UInt8) (eErrCode : SysMgmtError) :
    List UInt8 :=
  [eSysMgmt_CMD_Ret_InvalidMsgFormat, 3, eCommand, uiRev, eErrCode.toByte]

/-- What becomes of a frame before any transaction is looked for. -/
inductive Received where
  /-- It is handled, and these are sent. -/
  | done (sent : List (List UInt8))
  /-- It goes to the application (`vDispatchCommand`). -/
  | dispatch (m : CtrlMsg)
  /-- The transaction of this command is looked for. -/
  | search (m : CtrlMsg) (eCMD : SysMgmtCommand)
  deriving DecidableEq, Repr

/-- The part of `vSubmit_To_TransManager_ACKMonitor` before the search. -/
def submitToACKMonitor (m : CtrlMsg) : Received :=
  if m.byte 0 = eSysMgmt_CMD_None ∨ m.byte 0 ≥ eNUMBER_OF_SYS_MANAGEMENT_COMMANDs then
    .done [ackNackData .nack .invalidCommand eSysMgmt_CMD_Undefined (m.byte 1)]
  else .search m (m.byte 0)

/-- The part of `vSubmit_To_HandleInvalidMsgFormat` before the search. -/
def submitToInvalidMsgFormat (m : CtrlMsg) : Received :=
  if m.byte 0 = eSysMgmt_CMD_None ∨ m.byte 0 ≥ eNUMBER_OF_SYS_MANAGEMENT_COMMANDs then .done []
  else .search m (m.byte 0)

/-- `vDispatch_Message`. -/
def vDispatchMessage (m : CtrlMsg) : Received :=
  if m.eCMD = eSysMgmt_CMD_ACK_NACK then submitToACKMonitor m
  else if m.eCMD = eSysMgmt_CMD_Ret_InvalidMsgFormat then submitToInvalidMsgFormat m
  else .dispatch m

/-- `vHandle_SysMgmt_Messages` for a frame with the identifier of the filter. -/
def vHandleSysMgmtMessages (iGetPayloadLength : PayloadLengths) (f : CanFrame) : Received :=
  let (eErrorCode, m) := eValidatePayLoadLength iGetPayloadLength f
  if eErrorCode ≠ .none then
    let bTerminal := 1 ≤ canDlcToBytes f.dlc
      ∧ f.data.getD 0 0 = eSysMgmt_CMD_Ret_InvalidMsgFormat
    if bTerminal then .done [] else .done [ackNackData .nack eErrorCode m.eCMD 0]
  else
    vDispatchMessage
      { m with uiaData := (f.data.drop 2).take m.uiLen ++ m.uiaData.drop m.uiLen }

/-- What the section on the transaction found does: the slot, the frames sent,
and whether the result is reported (`vNotify_Controller_ForHostFeedback`). -/
structure Outcome where
  slot : CmdTransaction
  sent : List (List UInt8)
  report : Bool
  deriving DecidableEq, Repr

/-- The transaction stays as it is. -/
def Outcome.ignored (t : CmdTransaction) : Outcome := ⟨t, [], false⟩

/-- `bMessage_FormatError`. -/
def bMessageFormatError : SysMgmtError → Bool
  | .invalidCommand | .invalidFrameLength | .invalidPayLoadLength | .payLoadLengthMismatch
  | .payLoadLength_NotDefined | .invalidTranscId | .noPendingTransaction | .noWaitForACK
  | .invalidRev_ForACK | .invalidHostFeedback => true
  | _ => false

/-- The errors after which `vNotify_Controller_ForHostNACK` does not wait for a retry. -/
def isFinalNACK : SysMgmtError → Bool
  | .invalidCommand | .invalidFrameLength | .invalidPayLoadLength | .payLoadLengthMismatch
  | .payLoadLength_NotDefined | .noPendingTransaction | .invalidACKType | .noWaitForACK
  | .invalidRev_ForACK | .inconsistent_ACKError => true
  | _ => false

/-- `vNotify_Controller_ForHostNACK`. -/
def notifyHostNACK (t : CmdTransaction) : Outcome :=
  if t.uiRetryCount < t.uiMaxRetryCount ∧ isFinalNACK t.eErrorCode = false then .ignored t
  else ⟨{ t with eState := .failed }, [], true⟩

/-- The section of `vSubmit_To_TransManager_ACKMonitor`. -/
def ackMonitor (m : CtrlMsg) (eCMD : SysMgmtCommand) (t : CmdTransaction) : Outcome :=
  if t.eCommand ≠ eCMD then .ignored t
  else if t.eState ≠ .waitingForACK then .ignored t
  else
    match CanAck.ofByte (m.byte 2) with
    | none => .ignored t
    | some eACKControl =>
      if t.uiRevision ≠ m.byte 1 then .ignored t
      else
        match SysMgmtError.ofByte (m.byte 3) with
        | none => .ignored t
        | some eErrCode =>
          if (eACKControl = .ack ∧ eErrCode ≠ .none) ∨ (eACKControl = .nack ∧ eErrCode = .none) then
            ⟨t, [msgFormatErrorData eCMD (m.byte 1) .inconsistent_ACKError], false⟩
          else if bMessageFormatError eErrCode = true then
            ⟨{ t with eErrorCode := eErrCode, eState := .failed },
              [msgFormatErrorData eCMD (m.byte 1) eErrCode], true⟩
          else
            let t := { t with eErrorCode := eErrCode }
            match eACKControl with
            | .ack => ⟨{ t with eState := .destACK }, [], true⟩
            | .nack => notifyHostNACK t

/-- The section of `vSubmit_To_HandleInvalidMsgFormat`. -/
def handleInvalidMsgFormat (m : CtrlMsg) (t : CmdTransaction) : Outcome :=
  if t.uiRevision ≠ m.byte 1 then .ignored t
  else if t.eState ≠ .waitingForACK then .ignored t
  else
    match SysMgmtError.ofByte (m.byte 2) with
    | none => .ignored t
    | some eErrCode =>
      if eErrCode = .none then .ignored t
      else ⟨{ t with eErrorCode := eErrCode, eState := .failed }, [], true⟩

/-- The section on the transaction that was found for a message. -/
def handleFound (m : CtrlMsg) (eCMD : SysMgmtCommand) (t : CmdTransaction) : Outcome :=
  if m.eCMD = eSysMgmt_CMD_ACK_NACK then ackMonitor m eCMD t else handleInvalidMsgFormat m t

end WallController.CommManager
