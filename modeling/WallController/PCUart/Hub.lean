/-
  WallController.PCUart.Hub
  ────────────────────────────────
  **THE PC UART HUB AND ITS SERVICES.**

  `ePC_UART_API_DispatchFrame` and the two services behind it.  A frame makes
  at most one call to the bulk transfer controller, so the handling of a
  frame is given in two parts: `dispatchFrame` up to the call, and `resume`
  from the result of the call to the error code.  A frame without a call is
  answered by the first part alone.

  The atomics `eActiveOperation` and `bBulkSessionActive` are written by the
  UART thread only.
-/
import WallController.LittleFs.Bulk

namespace WallController.PCUart

open WallController.LittleFs

/-! ## §1. Constants (`PC_UART_Protocol.h`). -/

def PC_UART_PROTOCOL_BULK_START_FIXED_LENGTH : Nat := 8
def PC_UART_PROTOCOL_BULK_DATA_FIXED_LENGTH : Nat := 8
def CAN_MSG_MAX_SIZE : Nat := 64
def eNUMBER_OF_AUDIO_SOURCES : Nat := 4

/-- `ePC_UART_Operation_t`. -/
inductive Operation where
  | idle
  | firmwareBridge
  | localBulkFile
  deriving DecidableEq, Repr

/-- `(ePC_UART_Operation_t)puiPayload[0]`, where it names a service. -/
def operationOf (uiOperation : UInt8) : Option Operation :=
  if uiOperation = 1 then some .firmwareBridge
  else if uiOperation = 2 then some .localBulkFile
  else none

/-- `ePC_UART_Error_t`, as far as a dispatched frame is answered with it. -/
inductive Error where
  | none
  | invalidLength
  | canTxFail
  | invalidCommand
  | invalidOperation
  | operationBusy
  | serviceUnavailable
  | queueFull
  | invalidFrame
  | bulkStartFailed
  | bulkTransferFailed
  | bulkTimeout
  | bulkCRCMismatch
  | bulkSizeMismatch
  | fileNotFound
  | fileReadFailed
  deriving DecidableEq, Repr

/-- `ePC_UART_Command_t`. -/
def ePC_UART_Command_SelectOperation : UInt8 := 0x01
def ePC_UART_Command_ReleaseOperation : UInt8 := 0x02
def ePC_UART_Command_BulkStart : UInt8 := 0x40
def ePC_UART_Command_BulkData : UInt8 := 0x41
def ePC_UART_Command_BulkEnd : UInt8 := 0x42
def ePC_UART_Command_ConfigRead : UInt8 := 0x43

/-- `bIs_HostBootloaderCommand`. -/
def bIsHostBootloaderCommand (uiCommand : UInt8) : Bool :=
  [21, 22, 23, 24, 25, 26, 27, 30, 31, 33].contains uiCommand

/-! ## §2. Frames, state and environment. -/

/-- The arguments of `ePC_UART_API_DispatchFrame`; `none` is a null pointer,
and a buffer holds at least `uiPayloadLen` bytes. -/
structure Frame where
  uiCommand : UInt8
  puiPayload : Option (List UInt8)
  uiPayloadLen : Nat
  inBounds : ∀ p, puiPayload = some p → uiPayloadLen ≤ p.length

/-- The two atomics. -/
structure Hub where
  eActiveOperation : Operation
  bBulkSessionActive : Bool
  deriving DecidableEq, Repr

/-- The state after `vInit_PC_UART_API`. -/
def Hub.init : Hub := { eActiveOperation := .idle, bBulkSessionActive := false }

/-- The results of the other calls: `eFlexCAN_SendMsg`,
`iRead_AudioSrcConfigurationRecord` and `bPC_UART_API_SendFrame`. -/
structure UartEnv where
  canQueued : Bool
  recordRead : Int
  frameSent : Bool

/-- A frame is answered, or it calls the bulk controller. -/
inductive Answer where
  | now (hub : Hub) (eError : Error)
  | call (c : Call)

def byteAt (p : List UInt8) (i : Nat) : UInt8 := p.getD i 0

/-- `u16Read_BigEndian`. -/
def u16ReadBigEndian (p : List UInt8) (i : Nat) : UInt16 :=
  (byteAt p i).toUInt16 <<< 8 ||| (byteAt p (i + 1)).toUInt16

/-- `uiRead_BigEndian`. -/
def uiReadBigEndian (p : List UInt8) (i : Nat) : UInt32 :=
  (byteAt p i).toUInt32 <<< 24 ||| (byteAt p (i + 1)).toUInt32 <<< 16
    ||| (byteAt p (i + 2)).toUInt32 <<< 8 ||| (byteAt p (i + 3)).toUInt32

/-! ## §3. The bulk file service. -/

/-- `eProcess_ConfigRead`. -/
def eProcessConfigRead (env : UartEnv) (hub : Hub) (puiPayload : Option (List UInt8))
    (uiPayloadLen : Nat) : Error :=
  match puiPayload with
  | none => .invalidLength
  | some p =>
    if uiPayloadLen ≠ 1 then .invalidLength
    else if hub.bBulkSessionActive then .operationBusy
    else if (byteAt p 0).toNat ≥ eNUMBER_OF_AUDIO_SOURCES then .invalidFrame
    else if env.recordRead = -ENOENT then .fileNotFound
    else if env.recordRead ≠ 0 then .fileReadFailed
    else if !env.frameSent then .serviceUnavailable
    else .none

/-- The C string of a `START` payload. -/
def fileNameOf (p : List UInt8) (uiFileNameLen : Nat) : Path :=
  ((p.drop 8).take uiFileNameLen).takeWhile (· ≠ 0)

/-- The request of a `START` payload. -/
def transferDataOf (p : List UInt8) (uiFileNameLen : Nat) : BulkTransferData where
  eFileType := (byteAt p 0).toNat
  pcaFileName := fileNameOf p uiFileNameLen
  uiFileSize := (uiReadBigEndian p 1).toNat
  uiCRC := u16ReadBigEndian p 5
  size_lt := (uiReadBigEndian p 1).toNat_lt

/-- `eProcess_BulkStart` up to `bStart_BulkDataTransfer`. -/
def eProcessBulkStart (hub : Hub) (puiPayload : Option (List UInt8)) (uiPayloadLen : Nat) :
    Answer :=
  match puiPayload with
  | none => .now hub .invalidLength
  | some p =>
    if uiPayloadLen < PC_UART_PROTOCOL_BULK_START_FIXED_LENGTH then .now hub .invalidLength
    else
      let uiFileNameLen := (byteAt p 7).toNat
      if uiFileNameLen = 0 ∨ uiFileNameLen ≥ MAX_FILE_NAME_LENGTH
          ∨ uiPayloadLen ≠ PC_UART_PROTOCOL_BULK_START_FIXED_LENGTH + uiFileNameLen then
        .now hub .invalidLength
      else
        let stTransferData := transferDataOf p uiFileNameLen
        if (directoryOf stTransferData.eFileType).isNone ∨ stTransferData.uiFileSize = 0 then
          .now hub .invalidFrame
        else .call (.start stTransferData)

/-- `eProcess_BulkStart` from the result of `bStart_BulkDataTransfer`. -/
def eProcessBulkStartResult (hub : Hub) (bResult : Bool) : Hub × Error :=
  if !bResult then (hub, .bulkStartFailed)
  else ({ hub with bBulkSessionActive := true }, .none)

/-- `eProcess_BulkData` up to `iSend_BulkTransferData`. -/
def eProcessBulkData (hub : Hub) (puiPayload : Option (List UInt8)) (uiPayloadLen : Nat) :
    Answer :=
  if !hub.bBulkSessionActive then .now hub .invalidOperation
  else
    match puiPayload with
    | none => .now hub .invalidLength
    | some p =>
      if uiPayloadLen < PC_UART_PROTOCOL_BULK_DATA_FIXED_LENGTH then .now hub .invalidLength
      else
        let uiDataLen := (u16ReadBigEndian p 4).toNat
        if uiDataLen = 0 ∨ uiDataLen > MAX_FRAME_LENGTH
            ∨ uiPayloadLen ≠ PC_UART_PROTOCOL_BULK_DATA_FIXED_LENGTH + uiDataLen then
          .now hub .invalidLength
        else
          .call (.send
            { uiFrameId := (uiReadBigEndian p 0).toNat
              uiMsg := (p.drop 8).take uiDataLen
              uiFrameCRC := u16ReadBigEndian p 6 })

/-- `eProcess_BulkData` from the result of `iSend_BulkTransferData`. -/
def eProcessBulkDataResult (hub : Hub) (iResult : Int) : Hub × Error :=
  if iResult = -ENOMSG ∨ iResult = -EAGAIN then (hub, .queueFull)
  else if iResult = 0 then (hub, .none)
  else (hub, .invalidFrame)

/-- `eProcess_BulkEnd` up to `vEnd_BulkDataTransfer`. -/
def eProcessBulkEnd (hub : Hub) (uiPayloadLen : Nat) : Answer :=
  if uiPayloadLen ≠ 0 then .now hub .invalidLength
  else if !hub.bBulkSessionActive then .now hub .invalidOperation
  else .call .end_

/-- `eProcess_BulkEnd` from the result of `vEnd_BulkDataTransfer`. -/
def eProcessBulkEndResult (hub : Hub) (stResult : TransferResult) : Hub × Error :=
  let hub' := { hub with bBulkSessionActive := false }
  if stResult.eTransferState = .success ∧ stResult.eErrorState = .none then (hub', .none)
  else
    match stResult.eErrorState with
    | .timeOut => (hub', .bulkTimeout)
    | .crcMismatch => (hub', .bulkCRCMismatch)
    | .receivedByteCountMismatch => (hub', .bulkSizeMismatch)
    | _ => (hub', .bulkTransferFailed)

/-- `ePC_UART_BulkFileService_Process`: the answer and `*pbOperationComplete`. -/
def ePCUARTBulkFileServiceProcess (env : UartEnv) (hub : Hub) (f : Frame) : Answer × Bool :=
  if f.uiCommand = ePC_UART_Command_BulkStart then
    (eProcessBulkStart hub f.puiPayload f.uiPayloadLen, false)
  else if f.uiCommand = ePC_UART_Command_BulkData then
    (eProcessBulkData hub f.puiPayload f.uiPayloadLen, false)
  else if f.uiCommand = ePC_UART_Command_BulkEnd then
    (eProcessBulkEnd hub f.uiPayloadLen, true)
  else if f.uiCommand = ePC_UART_Command_ConfigRead then
    (.now hub (eProcessConfigRead env hub f.puiPayload f.uiPayloadLen), false)
  else (.now hub .invalidCommand, false)

/-! ## §4. The firmware bridge service. -/

/-- `ePC_UART_FWBridgeService_Process`. -/
def ePCUARTFWBridgeServiceProcess (env : UartEnv) (f : Frame) : Error :=
  if !bIsHostBootloaderCommand f.uiCommand then .invalidCommand
  else if f.uiPayloadLen > CAN_MSG_MAX_SIZE - 1
      ∨ (f.uiPayloadLen > 0 ∧ f.puiPayload.isNone) then .invalidLength
  else if env.canQueued then .none
  else .canTxFail

/-! ## §5. The hub. -/

/-- `eSelect_Operation`. -/
def eSelectOperation (hub : Hub) (puiPayload : Option (List UInt8)) (uiPayloadLen : Nat) :
    Hub × Error :=
  match puiPayload with
  | none => (hub, .invalidLength)
  | some p =>
    if uiPayloadLen ≠ 1 then (hub, .invalidLength)
    else
      match operationOf (byteAt p 0) with
      | none => (hub, .invalidOperation)
      | some eRequestedOperation =>
        if hub.eActiveOperation = eRequestedOperation then (hub, .none)
        else if hub.eActiveOperation ≠ .idle then (hub, .operationBusy)
        else ({ hub with eActiveOperation := eRequestedOperation }, .none)

/-- `eRelease_Operation`. -/
def eReleaseOperation (hub : Hub) (uiPayloadLen : Nat) : Hub × Error :=
  if uiPayloadLen ≠ 0 then (hub, .invalidLength)
  else if hub.eActiveOperation = .localBulkFile ∧ hub.bBulkSessionActive then
    (hub, .operationBusy)
  else ({ hub with eActiveOperation := .idle }, .none)

/-- `ePC_UART_API_DispatchFrame` up to a call of the bulk controller. -/
def dispatchFrame (env : UartEnv) (hub : Hub) (f : Frame) : Answer :=
  if f.uiCommand = ePC_UART_Command_SelectOperation then
    let (hub', eError) := eSelectOperation hub f.puiPayload f.uiPayloadLen
    .now hub' eError
  else if f.uiCommand = ePC_UART_Command_ReleaseOperation then
    let (hub', eError) := eReleaseOperation hub f.uiPayloadLen
    .now hub' eError
  else
    match hub.eActiveOperation with
    | .firmwareBridge => .now hub (ePCUARTFWBridgeServiceProcess env f)
    | .localBulkFile =>
      match ePCUARTBulkFileServiceProcess env hub f with
      | (.call c, _) => .call c
      | (.now hub' eError, bOperationComplete) =>
        if bOperationComplete then .now { hub' with eActiveOperation := .idle } eError
        else .now hub' eError
    | .idle => .now hub .invalidOperation

/-- The service and the hub from the result of the call; only a `BulkEnd`
has completed the operation.  The results have the type of their calls. -/
def resume (hub : Hub) (c : Call) (reply : Reply) : Hub × Error :=
  match c, reply with
  | .start _, .started bResult => eProcessBulkStartResult hub bResult
  | .send _, .sent iResult => eProcessBulkDataResult hub iResult
  | .end_, .ended stResult =>
      let (hub', eError) := eProcessBulkEndResult hub stResult
      ({ hub' with eActiveOperation := .idle }, eError)
  | _, _ => (hub, .serviceUnavailable)

end WallController.PCUart
