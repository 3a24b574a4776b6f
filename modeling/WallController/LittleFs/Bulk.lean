/-
  WallController.LittleFs.Bulk
  ────────────────────────────────
  **THE BULK FILE TRANSFER AND ITS THREADS.**

  `LittleFs_Controller.c`, region "Bulk Data Transfer", as one system of
  threads over a shared state:

      the UART thread   bStart_BulkDataTransfer, iSend_BulkTransferData,
                        vEnd_BulkDataTransfer, one call at a time
      the bulk worker   vLittleFs_FileTransferMonitor
      the work queue    vDataTransfer_TimeOutHandler

  Each thread has a program counter, and one step of a thread makes at most
  one access to what another thread can change meanwhile: an atomic, the
  message queue, the semaphore, the counters that the worker keeps, the file.
  A step is `none` where the thread is blocked.

  A worker that has cleared `bMsg_ThreadInitialized` can no longer be aborted;
  what it still does (`k_sem_give`, `k_work_submit`) is a `Tail`, which may
  run at any later time, also during the next transfer.  The control fields
  that no function reads (`uiOffset`, `uiLastActivityTime_ms`, `eFileType`)
  are left out.
-/
import WallController.LittleFs.Types
import WallController.Lib.Runs

namespace WallController.LittleFs

open WallController.Lib

/-! ## §1. Program counters. -/

/-- Inside `vSet_BulkkTransferData_ToDefault`. -/
inductive ResetPc where
  | fields
  | abort
  | idle
  deriving DecidableEq, Repr

/-- Inside `bStart_BulkDataTransfer`. -/
inductive StartPc where
  | lock
  | check
  | reset (p : ResetPc)
  | path
  | delete
  | create
  | open_
  | openFailed
  | setup
  | publish
  | startThread
  | unlock (bResult : Bool)
  deriving DecidableEq, Repr

/-- Inside `iSend_BulkTransferData`. -/
inductive DataPc where
  | lock
  | check
  | checkError
  | accept
  | account
  | unlock (iRet : Int)
  deriving DecidableEq, Repr

/-- Inside `vEnd_BulkDataTransfer`.  `setError` and `setFailed` continue at
`Indicate_Failure` (`bExit` false) or at `Exit` (`bExit` true). -/
inductive EndPc where
  | entry
  | lock (eState : FileTransferState)
  | check (eState : FileTransferState)
  | finalizing
  | put
  | take
  | error
  | size
  | crc
  | setNone
  | setSuccess
  | sync
  | close
  | refresh
  | setError (eError : ErrorState) (bExit : Bool)
  | setFailed (bExit : Bool)
  | abort
  | failClose
  | failDelete
  | report
  | reportError (eState : FileTransferState)
  | reset (p : ResetPc) (stResult : TransferResult)
  | unlock (stResult : TransferResult)
  deriving DecidableEq, Repr

/-- A call of the UART thread. -/
inductive Call where
  | start (stTTransferData : BulkTransferData)
  | send (stMsg : MsgData)
  | end_

/-- What a call returns. -/
inductive Reply where
  | started (bResult : Bool)
  | sent (iRet : Int)
  | ended (stResult : TransferResult)
  deriving DecidableEq, Repr

/-- The UART thread. -/
inductive Uart where
  | idle
  | start (stTTransferData : BulkTransferData) (pc : StartPc)
  | data (stMsg : MsgData) (pc : DataPc)
  | end_ (pc : EndPc)
  | returned (reply : Reply)

/-- The bulk worker, with the message that it has in hand. -/
inductive Worker where
  | get
  | check (stMsg : MsgData)
  | write (stMsg : MsgData)
  | crc (stMsg : MsgData)
  | size (stMsg : MsgData)
  | recheck (stMsg : MsgData)
  | setError (eError : ErrorState)
  | setFailed
  | clear (bSubmitCleanupWork : Bool)
  deriving DecidableEq, Repr

/-- The rest of `vSignal_BulkWorkerDone` after the flag is cleared. -/
inductive Tail where
  | give (bSubmitCleanupWork : Bool)
  | submit
  deriving DecidableEq, Repr

/-- The work queue thread inside `vDataTransfer_TimeOutHandler`. -/
inductive Handler where
  | idle
  | lock
  | check
  | setFailed
  | close
  | delete
  | reset (p : ResetPc)
  | unlock
  deriving DecidableEq, Repr

/-- The holder of `kMutex_BulkTransfer`. -/
inductive Owner where
  | uart
  | workQueue
  deriving DecidableEq, Repr

/-! ## §2. The state. -/

/-- What the callers see of the transfers: a `START` that opened its file
under the full path, a `DATA` frame that was accepted, and an `END` with its
result and the files at that moment.  A log has the newest event first. -/
inductive Event where
  | started (stTTransferData : BulkTransferData) (pcaTotalFilePath : Path)
  | accepted (stMsg : MsgData)
  | ended (stResult : TransferResult) (files : Files)

/-- The state of the bulk transfer system. -/
structure Bulk where
  eTransferState : FileTransferState
  eError : ErrorState
  bMsgQ_Initialized : Bool
  bMsg_ThreadInitialized : Bool
  ctrl : BulkDataControl
  queue : List BulkQueueMessage
  files : Files
  kMutex_BulkTransfer : Option Owner
  kSem_BulkWorkerDone : Bool
  stMsgWorkQueue : Bool
  uart : Uart
  worker : Option Worker
  tails : List Tail
  handler : Handler
  log : List Event

/-- The static storage at boot. -/
def Bulk.boot (files : Files) : Bulk :=
  { eTransferState := .idle, eError := .none
    bMsgQ_Initialized := false, bMsg_ThreadInitialized := false
    ctrl :=
      { pcaTotalFilePath := [], uiFileSize := 0, uiReceivedSize := 0, uiAcceptedSize := 0
        uiNextFrameId := 0, uiRunningCRC := 0, uiCRC := 0, bFileOpen := false, stTFileData := [] }
    queue := [], files := files
    kMutex_BulkTransfer := none, kSem_BulkWorkerDone := false, stMsgWorkQueue := false
    uart := .idle, worker := none, tails := [], handler := .idle, log := [] }

/-- `bIsBulkTransferActive`. -/
def Bulk.bIsBulkTransferActive (b : Bulk) : Bool := b.eTransferState != .idle

/-- `bIsBulkDataReceiving`. -/
def Bulk.bIsBulkDataReceiving (b : Bulk) : Bool := b.eTransferState == .receiving

/-- `bIsMsgQueueInError`. -/
def Bulk.bIsMsgQueueInError (b : Bulk) : Bool := b.eError != .none

/-- `bCanProcessQueuedBulkData`. -/
def Bulk.bCanProcessQueuedBulkData (b : Bulk) : Bool :=
  b.eTransferState == .receiving || b.eTransferState == .finalizing

/-! ## §3. Shared procedures. -/

/-- One step of `vSet_BulkkTransferData_ToDefault`; the flags are cleared in
the step that aborts the worker. -/
def resetStep (p : ResetPc) (b : Bulk) : Bulk :=
  match p with
  | .fields =>
      { b with
        ctrl :=
          { b.ctrl with
            pcaTotalFilePath := [], uiCRC := 0, uiFileSize := 0, uiReceivedSize := 0
            uiAcceptedSize := 0, uiNextFrameId := 0, uiRunningCRC := 0xFFFF }
        queue := if b.bMsgQ_Initialized then [] else b.queue }
  | .abort =>
      { b with
        worker := if b.bMsg_ThreadInitialized then none else b.worker
        bMsgQ_Initialized := false, bMsg_ThreadInitialized := false
        ctrl := { b.ctrl with bFileOpen := false } }
  | .idle =>
      { b with kSem_BulkWorkerDone := false, eError := .none, eTransferState := .idle }

/-- The next point of `vSet_BulkkTransferData_ToDefault`. -/
def ResetPc.next : ResetPc → Option ResetPc
  | .fields => some .abort
  | .abort => some .idle
  | .idle => none

/-- `fs_close(&stTFileData)` and `bFileOpen = false`. -/
def Bulk.fileClosed (b : Bulk) : Bulk := { b with ctrl := { b.ctrl with bFileOpen := false } }

/-! ## §4. `bStart_BulkDataTransfer`. -/

/-- The UART thread goes on at `pc`. -/
def Bulk.atStart (b : Bulk) (r : BulkTransferData) (pc : StartPc) : Bulk :=
  { b with uart := .start r pc }

def Bulk.returned (b : Bulk) (reply : Reply) : Bulk := { b with uart := .returned reply }

def startStep (env : Env) (r : BulkTransferData) (pc : StartPc) (b : Bulk) : Option Bulk :=
  match pc with
  | .lock =>
      if (directoryOf r.eFileType).isNone ∨ r.uiFileSize = 0 then
        some (b.returned (.started false))
      else if b.kMutex_BulkTransfer = none then
        some ({ b with kMutex_BulkTransfer := some .uart }.atStart r .check)
      -- the lock times out, or the call still waits
      else if env.timeOut then some (b.returned (.started false))
      else none
  | .check =>
      if b.bIsBulkTransferActive then some (b.atStart r (.unlock false))
      else some (b.atStart r (.reset .fields))
  | .reset p =>
      some ((resetStep p b).atStart r (match p.next with | some p' => .reset p' | none => .path))
  | .path =>
      match directoryOf r.eFileType with
      | none => some (b.atStart r (.unlock false))
      | some pcaDirPath =>
        match bBuildValidateFullPathName pcaDirPath r.pcaFileName with
        | none => some ({ b with eTransferState := .idle }.atStart r (.unlock false))
        | some caFullPath =>
            some ({ b with ctrl := { b.ctrl with pcaTotalFilePath := caFullPath } }.atStart r
              .delete)
  | .delete =>
      -- a file left under the path is replaced
      let (iResult, files) :=
        iDeleteFile env b.bIsBulkTransferActive b.ctrl.pcaTotalFilePath b.files
      if iResult ≠ 0 ∧ iResult ≠ -ENOENT then
        some ({ b with files := files }.atStart r (.unlock false))
      else some ({ b with files := files }.atStart r .create)
  | .create =>
      let (iResult, files) :=
        iCreateFile env b.bIsBulkTransferActive ((directoryOf r.eFileType).getD [])
          r.pcaFileName b.files
      if iResult < 0 then some ({ b with files := files }.atStart r (.unlock false))
      else some ({ b with files := files }.atStart r .open_)
  | .open_ =>
      let (iResult, files) := fsOpenTrunc env b.ctrl.pcaTotalFilePath b.files
      if iResult < 0 then some ({ b with files := files }.atStart r .openFailed)
      else
        some ({ b with
          files := files
          ctrl :=
            { b.ctrl with stTFileData := b.ctrl.pcaTotalFilePath, bFileOpen := true } }.atStart r
          .setup)
  | .openFailed =>
      -- the file just created is taken away again
      some ({ b with
        files := (iDeleteFileInternal env b.ctrl.pcaTotalFilePath b.files).2 }.atStart r
        (.unlock false))
  | .setup =>
      some ({ b with
        ctrl :=
          { b.ctrl with uiFileSize := r.uiFileSize, uiCRC := r.uiCRC, uiRunningCRC := 0xFFFF }
        queue := [], kSem_BulkWorkerDone := false }.atStart r .publish)
  | .publish =>
      -- the state is published before the worker thread is started
      some ({ b with
        bMsgQ_Initialized := true, bMsg_ThreadInitialized := true, eTransferState := .receiving
        log := .started r b.ctrl.pcaTotalFilePath :: b.log }.atStart r
        .startThread)
  | .startThread => some ({ b with worker := some .get }.atStart r (.unlock true))
  | .unlock bResult =>
      some ({ b with kMutex_BulkTransfer := none }.returned (.started bResult))

/-! ## §5. `iSend_BulkTransferData`. -/

def Bulk.atData (b : Bulk) (m : MsgData) (pc : DataPc) : Bulk :=
  { b with uart := .data m pc }

def dataStep (env : Env) (m : MsgData) (pc : DataPc) (b : Bulk) : Option Bulk :=
  match pc with
  | .lock =>
      if m.uiDataLen = 0 ∨ m.uiDataLen > MAX_FRAME_LENGTH then
        some (b.returned (.sent (-EINVAL)))
      else if b.kMutex_BulkTransfer = none then
        some ({ b with kMutex_BulkTransfer := some .uart }.atData m .check)
      else if env.timeOut then some (b.returned (.sent (-EBUSY)))
      else none
  | .check =>
      if b.bIsBulkDataReceiving then some (b.atData m .checkError)
      else some (b.atData m (.unlock (-EBADE)))
  | .checkError =>
      if b.bIsMsgQueueInError then some (b.atData m (.unlock (-EBADE)))
      else some (b.atData m .accept)
  | .accept =>
      -- order, size and checksum of the frame, and then room in the queue
      if m.uiFrameId ≠ b.ctrl.uiNextFrameId then some (b.atData m (.unlock (-EILSEQ)))
      else if b.ctrl.uiAcceptedSize > b.ctrl.uiFileSize
          ∨ m.uiDataLen > b.ctrl.uiFileSize - b.ctrl.uiAcceptedSize then
        some (b.atData m (.unlock (-EFBIG)))
      else if u16CRC16CCITTUpdate 0xFFFF m.uiMsg ≠ m.uiFrameCRC then
        some (b.atData m (.unlock (-EBADMSG)))
      else if b.queue.length < MAX_MSGQ_DEPTH then
        some ({ b with queue := b.queue ++ [BulkQueueMessage.data m], log := .accepted m :: b.log }.atData m
          .account)
      else some (b.atData m (.unlock (-ENOMSG)))
  | .account =>
      -- both counters are `uint32_t`
      some ({ b with
        ctrl :=
          { b.ctrl with
            uiAcceptedSize := (b.ctrl.uiAcceptedSize + m.uiDataLen) % 4294967296
            uiNextFrameId := (b.ctrl.uiNextFrameId + 1) % 4294967296 } }.atData m (.unlock 0))
  | .unlock iRet => some ({ b with kMutex_BulkTransfer := none }.returned (.sent iRet))

/-! ## §6. `vEnd_BulkDataTransfer`. -/

def Bulk.atEnd (b : Bulk) (pc : EndPc) : Bulk := { b with uart := .end_ pc }

def endStep (env : Env) (pc : EndPc) (b : Bulk) : Option Bulk :=
  match pc with
  -- the state that a timeout of the lock reports is read before the lock
  | .entry => some (b.atEnd (.lock b.eTransferState))
  | .lock eState =>
      if b.kMutex_BulkTransfer = none then
        some ({ b with kMutex_BulkTransfer := some .uart }.atEnd (.check eState))
      else if env.timeOut then some (b.returned (.ended ⟨eState, .invalidRequest⟩))
      else none
  | .check eState =>
      if b.bIsBulkDataReceiving then some (b.atEnd .finalizing)
      else some (b.atEnd (.unlock ⟨eState, .invalidRequest⟩))
  | .finalizing => some ({ b with eTransferState := .finalizing }.atEnd .put)
  | .put =>
      -- the end marker waits for room in the queue
      if b.queue.length < MAX_MSGQ_DEPTH then
        some ({ b with queue := b.queue ++ [BulkQueueMessage.end_] }.atEnd .take)
      else if env.timeOut then some (b.atEnd (.setError .queueError false))
      else none
  | .take =>
      if b.kSem_BulkWorkerDone then
        some ({ b with kSem_BulkWorkerDone := false }.atEnd .error)
      else if env.timeOut then some (b.atEnd (.setError .timeOut false))
      else none
  | .error =>
      if b.bIsMsgQueueInError then some (b.atEnd (.setFailed false)) else some (b.atEnd .size)
  | .size =>
      if b.ctrl.uiReceivedSize ≠ b.ctrl.uiFileSize then
        some (b.atEnd (.setError .receivedByteCountMismatch false))
      else some (b.atEnd .crc)
  | .crc =>
      if b.ctrl.uiRunningCRC ≠ b.ctrl.uiCRC then
        some (b.atEnd (.setError .crcMismatch false))
      else some (b.atEnd .setNone)
  | .setNone => some ({ b with eError := .none }.atEnd .setSuccess)
  | .setSuccess => some ({ b with eTransferState := .success }.atEnd .sync)
  | .sync =>
      if env.sync < 0 then some (b.atEnd (.setError .fileSync false)) else some (b.atEnd .close)
  | .close =>
      if env.close < 0 then some (b.fileClosed.atEnd (.setError .fileClose true))
      else some (b.fileClosed.atEnd .refresh)
  | .refresh =>
      if env.refresh < 0 then some (b.atEnd (.setError .refreshFileCatalog true))
      else some (b.atEnd .report)
  | .setError eError bExit => some ({ b with eError := eError }.atEnd (.setFailed bExit))
  | .setFailed bExit =>
      some ({ b with eTransferState := .failed }.atEnd (if bExit then .report else .abort))
  | .abort =>
      -- `k_thread_abort`, where the thread has been started
      if b.bMsg_ThreadInitialized then
        some ({ b with worker := none, bMsg_ThreadInitialized := false }.atEnd .failClose)
      else some (b.atEnd .failClose)
  | .failClose =>
      if b.ctrl.bFileOpen then
        if env.close < 0 ∧ b.eError = .none then
          some ({ b.fileClosed with eError := .fileClose }.atEnd .failDelete)
        else some (b.fileClosed.atEnd .failDelete)
      else some (b.atEnd .failDelete)
  | .failDelete =>
      let (iResult, files) := iDeleteFileInternal env b.ctrl.pcaTotalFilePath b.files
      -- a file that is not there counts as deleted
      if iResult < 0 ∧ iResult ≠ -ENOENT then
        some ({ b with files := files, eError := .fileDelete }.atEnd .report)
      else some ({ b with files := files }.atEnd .report)
  | .report => some (b.atEnd (.reportError b.eTransferState))
  | .reportError eState =>
      some ({ b with log := .ended ⟨eState, b.eError⟩ b.files :: b.log }.atEnd
        (.reset .fields ⟨eState, b.eError⟩))
  | .reset p stResult =>
      some ((resetStep p b).atEnd
        (match p.next with | some p' => .reset p' stResult | none => .unlock stResult))
  | .unlock stResult =>
      some ({ b with kMutex_BulkTransfer := none }.returned (.ended stResult))

/-- One step of the UART thread inside a call. -/
def uartStep (env : Env) (b : Bulk) : Option Bulk :=
  match b.uart with
  | .idle => none
  | .start r pc => startStep env r pc b
  | .data m pc => dataStep env m pc b
  | .end_ pc => endStep env pc b
  | .returned _ => none

/-! ## §7. `vLittleFs_FileTransferMonitor`. -/

def Bulk.atWorker (b : Bulk) (w : Worker) : Bulk := { b with worker := some w }

/-- One step of the worker.  `k_msgq_get` gives up only on an empty queue;
`recheck` is the test at the head of `iBulkWrite_ToFile`. -/
def workerStep (env : Env) (b : Bulk) : Option Bulk :=
  match b.worker with
  | none => none
  | some .get =>
      match b.queue with
      | [] => if env.timeOut then some (b.atWorker (.setError .timeOut)) else none
      | .end_ :: queue => some ({ b with queue := queue }.atWorker (.clear false))
      | .data m :: queue => some ({ b with queue := queue }.atWorker (.check m))
  | some (.check m) =>
      if b.bCanProcessQueuedBulkData then some (b.atWorker (.recheck m))
      else some (b.atWorker (.setError .queueError))
  | some (.recheck m) =>
      if m.uiDataLen = 0 ∨ m.uiDataLen > MAX_FRAME_LENGTH ∨ !b.bCanProcessQueuedBulkData then
        some (b.atWorker (.setError .writeError))
      else some (b.atWorker (.write m))
  | some (.write m) =>
      let (iRes, files) := fsWrite env b.ctrl.stTFileData m.uiMsg b.files
      if iRes < 0 ∨ iRes ≠ m.uiDataLen then
        some ({ b with files := files }.atWorker (.setError .writeError))
      else some ({ b with files := files }.atWorker (.crc m))
  | some (.crc m) =>
      some ({ b with
        ctrl :=
          { b.ctrl with
            uiRunningCRC := u16CRC16CCITTUpdate b.ctrl.uiRunningCRC m.uiMsg } }.atWorker (.size m))
  | some (.size m) =>
      some ({ b with
        ctrl :=
          { b.ctrl with
            uiReceivedSize := (b.ctrl.uiReceivedSize + m.uiDataLen) % 4294967296 } }.atWorker .get)
  | some (.setError eError) => some ({ b with eError := eError }.atWorker .setFailed)
  | some .setFailed => some ({ b with eTransferState := .failed }.atWorker (.clear true))
  | some (.clear bSubmitCleanupWork) =>
      some { b with
        bMsg_ThreadInitialized := false, worker := none
        tails := b.tails ++ [.give bSubmitCleanupWork] }

/-- One step of a worker past `vClear_MsgThread_InitFlag`. -/
def tailStep (i : Nat) (b : Bulk) : Option Bulk :=
  match b.tails[i]? with
  | none => none
  | some (.give true) =>
      some { b with kSem_BulkWorkerDone := true, tails := b.tails.set i .submit }
  | some (.give false) =>
      some { b with kSem_BulkWorkerDone := true, tails := b.tails.eraseIdx i }
  | some .submit => some { b with stMsgWorkQueue := true, tails := b.tails.eraseIdx i }

/-! ## §8. `vDataTransfer_TimeOutHandler`. -/

/-- `!(!bIs_MsgQueueInError() || !bIsBulkTransferActive())`: the handler has
something to clean up. -/
def Bulk.needsCleanup (b : Bulk) : Bool := b.bIsMsgQueueInError && b.bIsBulkTransferActive

def Bulk.atHandler (b : Bulk) (h : Handler) : Bulk := { b with handler := h }

def handlerStep (env : Env) (b : Bulk) : Option Bulk :=
  match b.handler with
  | .idle =>
      if b.stMsgWorkQueue then some ({ b with stMsgWorkQueue := false }.atHandler .lock) else none
  | .lock =>
      if b.kMutex_BulkTransfer = none then
        some ({ b with kMutex_BulkTransfer := some .workQueue }.atHandler .check)
      else none
  | .check => if b.needsCleanup then some (b.atHandler .setFailed) else some (b.atHandler .unlock)
  | .setFailed => some ({ b with eTransferState := .failed }.atHandler .close)
  | .close =>
      if b.ctrl.bFileOpen then
        if env.close < 0 then some ({ b.fileClosed with eError := .fileClose }.atHandler .delete)
        else some (b.fileClosed.atHandler .delete)
      else some (b.atHandler .delete)
  | .delete =>
      let (iResult, files) := iDeleteFileInternal env b.ctrl.pcaTotalFilePath b.files
      if iResult < 0 ∧ iResult ≠ -ENOENT then
        some ({ b with files := files, eError := .fileDelete }.atHandler (.reset .fields))
      else some ({ b with files := files }.atHandler (.reset .fields))
  | .reset p =>
      some ((resetStep p b).atHandler (match p.next with | some p' => .reset p' | none => .unlock))
  | .unlock => some ({ b with kMutex_BulkTransfer := none }.atHandler .idle)

/-! ## §9. The system. -/

/-- What happens next: the UART thread calls, goes on or takes its result;
the worker, a former worker or the work queue goes on. -/
inductive Act where
  | call (c : Call)
  | uart (env : Env)
  | ret
  | worker (env : Env)
  | tail (i : Nat)
  | handler (env : Env)

/-- The first point of a call. -/
def Call.entry : Call → Uart
  | .start r => .start r .lock
  | .send m => .data m .lock
  | .end_ => .end_ .entry

def Bulk.call (b : Bulk) (c : Call) : Option Bulk :=
  match b.uart with
  | .idle => some { b with uart := c.entry }
  | _ => none

def Bulk.ret (b : Bulk) : Option Bulk :=
  match b.uart with
  | .returned _ => some { b with uart := .idle }
  | _ => none

def Bulk.step (b : Bulk) (a : Act) : Option Bulk :=
  match a with
  | .call c => b.call c
  | .uart env => uartStep env b
  | .ret => b.ret
  | .worker env => workerStep env b
  | .tail i => tailStep i b
  | .handler env => handlerStep env b

/-- The bulk transfer system from boot, over any files. -/
def bulkSystem : TransSys Bulk Act where
  init b := ∃ files, b = Bulk.boot files
  step b a b' := b.step a = some b'

end WallController.LittleFs
