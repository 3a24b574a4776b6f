/-
  WallController.Host.FileTransfer
  ────────────────────────────────
  **A FILE FROM THE HOST TOOL TO THE CONTROLLER.**

  The calls that `_send_transfer_file_worker` makes on its `BridgeClient`, the
  line between the two sides, and the bulk service of the firmware with its
  threads.  The client writes a frame and waits for the two bytes of the
  response; the API thread reads the frame, dispatches it and answers.

  The line loses and changes nothing, and the client waits until the response
  has come.
-/
import WallController.Host.Bridge
import WallController.PCUart.Session
import WallController.PCUart.Transmit
import WallController.LittleFs.Progress

namespace WallController.Host

open WallController.Lib WallController.PCUart WallController.LittleFs

/-! ## §1. The calls of the host. -/

def CMD_BULK_START : Nat := 0x40
def CMD_BULK_DATA : Nat := 0x41
def CMD_BULK_END : Nat := 0x42

/-- `UART_ERROR_NAMES`, by the error code. -/
def UART_ERROR_NAMES : List String :=
  ["None", "InvalidVersion", "InvalidLength", "FrameCRCMismatch", "CANTxFail", "InvalidCommand",
    "InvalidOperation", "OperationBusy", "ServiceUnavailable", "QueueFull", "InvalidFrame",
    "BulkStartFailed", "BulkTransferFailed", "BulkTimeout", "BulkCRCMismatch", "BulkSizeMismatch",
    "FileNotFound", "FileReadFailed"]

/-- The text of a refused command. -/
def nackText (command sequence : Nat) (error : UInt8) : String :=
  "Bridge NACK: cmd=" ++ toString command ++ ", seq=" ++ toString sequence ++ ", error="
    ++ toString error.toNat ++ " (" ++ (UART_ERROR_NAMES[error.toNat]?).getD "UnknownError" ++ ")"

/-- The format `02X`. -/
def hex02X (n : Nat) : String :=
  let digits := (Nat.toDigits 16 n).map Char.toUpper
  String.ofList (if digits.length < 2 then [ '0'] ++ digits else digits)

/-- `send_bulk_start`, `send_bulk_data` and `send_bulk_end`. -/
inductive BulkCall where
  | start (fileType : Nat) (fileName : String) (fileData : List UInt8)
  | data (frameId : Nat) (chunk : List UInt8)
  | end_
  deriving DecidableEq, Repr

/-- The payload of `send_bulk_end`. -/
def sendBulkEnd (selectedOperation : Option Nat) : Except String (List UInt8) :=
  if selectedOperation ≠ some OPERATION_LOCAL_BULK_FILE then
    .error "Local Bulk File operation is not selected"
  else .ok []

def BulkCall.payload (selectedOperation : Option Nat) : BulkCall → Except String (List UInt8)
  | .start fileType fileName fileData => sendBulkStart selectedOperation fileType fileName fileData
  | .data frameId chunk => sendBulkData selectedOperation frameId chunk
  | .end_ => sendBulkEnd selectedOperation

def BulkCall.command : BulkCall → Nat
  | .start _ _ _ => CMD_BULK_START
  | .data _ _ => CMD_BULK_DATA
  | .end_ => CMD_BULK_END

/-- The client once the call has returned. -/
def BulkCall.finish (c : BridgeClient) : BulkCall → BridgeClient
  | .end_ => { c with selectedOperation := none }
  | _ => c

/-- The loop of `_send_transfer_file_worker`, from a frame on. -/
def dataCalls (frameId : Nat) (fileData : List UInt8) : List BulkCall :=
  if fileData = [] then []
  else .data frameId (fileData.take BULK_DATA_LENGTH)
    :: dataCalls (frameId + 1) (fileData.drop BULK_DATA_LENGTH)
termination_by fileData.length
decreasing_by
  rename_i hne
  have hpos := List.length_pos_iff.mpr hne
  rw [List.length_drop]
  have hlength : 0 < BULK_DATA_LENGTH := by decide
  omega

/-- The calls of `_send_transfer_file_worker`. -/
def transferCalls (fileType : Nat) (fileName : String) (fileData : List UInt8) : List BulkCall :=
  .start fileType fileName fileData :: (dataCalls 0 fileData ++ [.end_])

/-! ## §2. The two sides. -/

/-- Where the worker of the host tool stands: before its next call, waiting for the
response to one, or stopped by an exception of a call. -/
inductive HostPc where
  | calls (todo : List BulkCall)
  | waiting (call : BulkCall) (sequence : Nat) (todo : List BulkCall)
  | raised (call : BulkCall) (error : String)
  deriving DecidableEq, Repr

/-- The client with its worker, the bytes on their way to the controller, the reader of the
API thread, and the service.  What the controller sends is in the port of the client. -/
structure Upload where
  client : BridgeClient
  pc : HostPc
  wire : List UInt8
  api : Api
  service : Service

namespace Upload

variable (u : Upload)

/-- `send_pc_uart_command`, up to the response. -/
def send (call : BulkCall) (todo : List BulkCall) (payload : List UInt8) : Upload :=
  let sequence := u.client.sequence
  let client := { u.client with sequence := (sequence + 1) &&& 0xFFFF }
  match buildUartFrame call.command sequence payload with
  | none => { u with client := client, pc := .raised call "struct.error" }
  | some frame =>
      { u with client := client, wire := u.wire ++ frame, pc := .waiting call sequence todo }

/-- `send_pc_uart_command`, from the response on. -/
def respond (call : BulkCall) (sequence : Nat) (todo : List BulkCall) : Upload :=
  match readBridgeResponse call.command sequence u.client with
  | (.error error, client) => { u with client := client, pc := .raised call error }
  | (.ok (status, error), client) =>
      if status = UART_ACK then { u with client := call.finish client, pc := .calls todo }
      else if status = UART_NACK then
        { u with client := client, pc := .raised call (nackText call.command sequence error) }
      else
        { u with
          client := client
          pc := .raised call ("Unexpected bridge response 0x" ++ hex02X status.toNat ++ ": cmd="
            ++ toString call.command ++ ", seq=" ++ toString sequence) }

/-- A step of the host tool. -/
def hostStep : Option Upload :=
  match u.pc with
  | .calls [] => none
  | .calls (call :: todo) =>
      match call.payload u.client.selectedOperation with
      | .error error => some { u with pc := .raised call error }
      | .ok payload => some (u.send call todo payload)
  | .waiting call sequence todo =>
      if u.client.port.length < 2 then none else some (u.respond call sequence todo)
  | .raised _ _ => none

/-- What the reader has sent. -/
def sentBytes (api : Api) : List UInt8 := api.sent.reverse.flatMap (TxOp.message 0)

/-- `vSend_UARTResponse`, at the end of the loop of the API thread. -/
def answer (eError : Error) : Upload :=
  let uiStatus := if eError = .none then PC_UART_PROTOCOL_ACK else PC_UART_PROTOCOL_NACK
  { u with
    client.port := u.client.port ++ [uiStatus, eError.toByte]
    api.bUARTDebugNextFrame := false }

/-- The API thread reads from the line, and dispatches the frame that it has read. -/
def readStep (env : UartEnv) : Option Upload :=
  match u.service.waiting with
  | some _ => none
  | none =>
    match bReadUARTFrame (received u.wire) { u.api with sent := [] } with
    | (.waiting, _) => none
    | (.failed rx, api) =>
        some { u with
          client.port := u.client.port ++ sentBytes api, wire := bytesOf rx, api := api }
    | (.done f rx, api) =>
        (u.service.step (.frame f.toFrame env)).map fun service =>
          let u' : Upload :=
            { u with
              client.port := u.client.port ++ sentBytes api
              wire := bytesOf rx
              api := api
              service := service }
          match dispatchFrame env u.service.hub f.toFrame with
          | .now _ eError => u'.answer eError
          | .call _ => u'

/-- The API thread takes the result of a call and answers. -/
def answerStep : Option Upload :=
  match u.service.waiting, u.service.bulk.uart with
  | some c, .returned reply =>
      (u.service.step .answer).map fun service =>
        { u with service := service }.answer (resume u.service.hub c reply).2
  | _, _ => none

/-- A step of the service inside a call, or of one of its other threads. -/
def serviceStep (a : ServiceAct) : Option Upload :=
  (u.service.step a).map fun service => { u with service := service }

end Upload

inductive UploadAct where
  | host
  | read (env : UartEnv)
  | inCall (env : Env)
  | answer
  | worker (env : Env)
  | tail (i : Nat)
  | handler (env : Env)

def Upload.step (u : Upload) : UploadAct → Option Upload
  | .host => u.hostStep
  | .read env => u.readStep env
  | .inCall env => u.serviceStep (.inCall env)
  | .answer => u.answerStep
  | .worker env => u.serviceStep (.worker env)
  | .tail i => u.serviceStep (.tail i)
  | .handler env => u.serviceStep (.handler env)

/-- The host tool has selected the operation and begins; the controller is at rest. -/
structure Upload.Begins (fileType : Nat) (fileName : String) (fileData : List UInt8) (u : Upload) :
    Prop where
  selected : u.client.selectedOperation = some OPERATION_LOCAL_BULK_FILE
  sequence : u.client.sequence ≤ 0xFFFF
  port : u.client.port = []
  pc : u.pc = .calls (transferCalls fileType fileName fileData)
  wire : u.wire = []
  debug : u.api.bUARTDebugNextFrame = false
  waiting : u.service.waiting = none
  hub : u.service.hub = ⟨.localBulkFile, false⟩
  reachable : bulkSystem.Reachable u.service.bulk
  uart : u.service.bulk.uart = .idle
  calm : Calm u.service.bulk
  alone : Alone u.service.bulk

/-- The upload of a file. -/
def uploadSystem (fileType : Nat) (fileName : String) (fileData : List UInt8) :
    TransSys Upload UploadAct where
  init u := u.Begins fileType fileName fileData
  step u a u' := u.step a = some u'

end WallController.Host
