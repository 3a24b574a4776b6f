/-
  WallController.Bootloader.Threads
  ────────────────────────────────
  **THE BOOTLOADER AND ITS THREADS.**

  The controller of `Bootloader_Ctrl.c` as it is shared by three threads:

      the CAN thread      `vHandle_Bootloader_Messages`, one frame at a time
      the work queue      `vBtlState_TimeOutHandler`
                          `vBtlTxTimeOutHandler`

  Each thread has a program counter.  One step of a thread is one section
  under the session or the lost-packet mutex, one call of the work queue, or
  the work between two of these.  What a section does is what the handler of
  `Ctrl` does up to its unlock; the cancellations after the unlock are steps
  of their own.

  A work item is delayed (`stBtlStateTimeOutWork`, `stBtlTxTimeOutWork`),
  queued, and running, in any combination.  Its delay ends at any time, so its
  handler can run early, late, and after the item has been cancelled and
  scheduled again.  A cancellation marks the item whose handler runs: until
  that handler has returned to the work queue, an expired delay does not queue
  it.  The two handlers may also run at the same time.
-/
import WallController.Bootloader.CanController
import WallController.Lib.DelayedWork

namespace WallController.Bootloader

open WallController.Lib

/-! ## §1. The shared state. -/

/-- The controller, the two work items, and the last refresh of the session
deadline with the time it was made at.  The delays are the timers of the
controller. -/
structure Shared where
  btl : Btl
  stateWork : DelayableWork
  txWork : DelayableWork
  refreshed : Option (Int × Nat)
  stateTimer : stateWork.scheduled = btl.timers.stBtlStateTimeOutWork.isSome
  txTimer : txWork.scheduled = btl.timers.stBtlTxTimeOutWork.isSome

/-- A section that changes the controller alone. -/
def Shared.set (s : Shared) (b : Btl) : Shared where
  btl := b
  stateWork := s.stateWork.timed b.timers.stBtlStateTimeOutWork.isSome
  txWork := s.txWork.timed b.timers.stBtlTxTimeOutWork.isSome
  refreshed := s.refreshed
  stateTimer := rfl
  txTimer := rfl

/-- A section that has refreshed the deadline, where `bRefreshed`. -/
def Shared.refresh (s : Shared) (env : Env) (uiTimeOut_ms : Nat) (bRefreshed : Bool) (b : Btl) :
    Shared :=
  { s.set b with
    refreshed := if bRefreshed then some (env.uptime, uiTimeOut_ms) else s.refreshed }

/-- `k_work_cancel_delayable(&stBtlStateTimeOut_Work_t)`. -/
def Shared.cancelState (s : Shared) : Shared :=
  { s with
    btl := cancelStateTimeOutWork s.btl
    stateWork := s.stateWork.cancel
    stateTimer := rfl }

/-- `k_work_cancel_delayable(&stBtlTxTimeOut_Work_t)`. -/
def Shared.cancelTx (s : Shared) : Shared :=
  { s with
    btl := cancelTxTimeOutWork s.btl
    txWork := s.txWork.cancel
    txTimer := rfl }

/-- The delay of the state work item has ended. -/
def Shared.expireState (s : Shared) : Option Shared :=
  s.stateWork.expire.map fun w =>
    { s.set (cancelStateTimeOutWork s.btl) with
      stateWork := w.timed false
      stateTimer := rfl }

/-- The delay of the Tx work item has ended. -/
def Shared.expireTx (s : Shared) : Option Shared :=
  s.txWork.expire.map fun w =>
    { s.set (cancelTxTimeOutWork s.btl) with
      txWork := w.timed false
      txTimer := rfl }

/-- The state work item, started or finished by the work queue. -/
def Shared.withStateWork (s : Shared) (w : DelayableWork) : Shared :=
  { s with
    stateWork := w.timed s.btl.timers.stBtlStateTimeOutWork.isSome
    stateTimer := rfl }

/-- The Tx work item, started or finished by the work queue. -/
def Shared.withTxWork (s : Shared) (w : DelayableWork) : Shared :=
  { s with
    txWork := w.timed s.btl.timers.stBtlTxTimeOutWork.isSome
    txTimer := rfl }

/-! ## §2. The Tx functions, which both threads use. -/

/-- Inside `vProcess_Bootloader_RetryTx`, `bSchedule_LostPacketTimeouts`,
`vProcess_Bootloader_TxError` and `vAbort_BootloaderSession`. -/
inductive TxPc where
  /-- The section of `vProcess_Bootloader_RetryTx`. -/
  | retry
  /-- The section of `bSchedule_LostPacketTimeouts`. -/
  | schedule
  /-- `vProcess_Bootloader_TxError` reads the state. -/
  | error
  /-- It has found an image being written, and cancels the Tx work item. -/
  | errorCancel
  /-- The section of `vAbort_BootloaderSession`. -/
  | abort
  /-- The cancellations after it. -/
  | cancelState
  | cancelTx
  deriving DecidableEq, Repr

/-- The section of `vProcess_Bootloader_RetryTx`. -/
def retrySection (env : Env) (b : Btl) : Option TxPc × Btl :=
  if b.tx.eTxState ≠ .retryInProgress then (none, b)
  else if b.tx.uiRetryCount ≥ BOOTLOADER_TX_Retry_MAX_COUNT then (some .error, b)
  else
    let data := b.tx.uiaTxData.take (b.tx.stTCANTxMsg.getD 0)
    (some .schedule, { b with
      log := .lostPacketInfo data env.txQueued :: b.log
      tx := { b.tx with
        uiRetryCount := (b.tx.uiRetryCount + 1) % 256, eTxState := .retryInProgress } })

/-- One step in the Tx functions; `none` where they return. -/
def TxPc.step (env : Env) (s : Shared) : TxPc → Option TxPc × Shared
  | .retry =>
      let (p, b) := retrySection env s.btl
      (p, s.set b)
  | .schedule =>
      (none, s.refresh env TIMEOUT_LOST_PACKET_RECOVERY_PROCESS_ms
        (s.btl.mgmt.eBtlState = .fwImgWriteInProg ∧ s.btl.tx.eTxState ≠ .idle)
        (bScheduleLostPacketTimeouts env s.btl))
  | .error =>
      (if s.btl.mgmt.eBtlState = .fwImgWriteInProg then some .errorCancel else none, s)
  | .errorCancel => (some .abort, s.cancelTx)
  | .abort => (some .cancelState, s.set (vAbortBootloaderSessionLocked s.btl))
  | .cancelState => (some .cancelTx, s.cancelState)
  | .cancelTx => (none, s.cancelTx)

/-! ## §3. The timer handlers. -/

/-- The work queue inside `vBtlTxTimeOutHandler`. -/
inductive TxHandler where
  | idle
  | lock
  | tx (p : TxPc)
  deriving DecidableEq, Repr

/-- The work queue inside `vBtlState_TimeOutHandler`. -/
inductive StateHandler where
  | idle
  | lock
  | cancelTx
  | reboot
  deriving DecidableEq, Repr

/-- Back in the work queue, or on in the Tx functions. -/
def TxHandler.next : Option TxPc → TxHandler
  | none => .idle
  | some p => .tx p

/-- One step of `vBtlTxTimeOutHandler`. -/
def TxHandler.step (env : Env) (s : Shared) : TxHandler → Option (TxHandler × Shared)
  | .idle => none
  | .lock =>
      if s.btl.tx.eTxState = .idle then some (.tx .cancelTx, s)
      else if s.btl.tx.uiRetryCount ≥ BOOTLOADER_TX_Retry_MAX_COUNT then some (.tx .error, s)
      else some (.tx .retry, s.set { s.btl with tx := { s.btl.tx with eTxState := .retryInProgress } })
  | .tx p =>
      let (p', s) := p.step env s
      some (.next p', s)

/-- One step of `vBtlState_TimeOutHandler`. -/
def StateHandler.step (env : Env) (s : Shared) : StateHandler → Option (StateHandler × Shared)
  | .idle => none
  | .lock =>
      if !s.btl.timers.bBootloaderStateTimeoutArmed then some (.idle, s)
      else
        let iRemainingTime_ms := s.btl.timers.iBootloaderStateDeadline_ms - env.uptime
        if iRemainingTime_ms > 0 then
          some (.idle, s.set { s.btl with timers := { s.btl.timers with
            stBtlStateTimeOutWork := some (env.uptime + iRemainingTime_ms) } })
        else
          let b := vInvalidateBootloaderStateTimeOutLocked s.btl
          if b.mgmt.eBtlState = .reboot then some (.reboot, s.set b)
          else some (.cancelTx, s.set (vAbortBootloaderSessionLocked b))
  | .cancelTx => some (.idle, s.cancelTx)
  | .reboot => some (.idle, s.set { s.btl with halted := some .sysReboot })

/-! ## §4. The sections of the commands. -/

/-- How a section of a command ends: the handler returns, it has given the
session up, or the image is completed. -/
inductive SectionEnd where
  | exit
  | cancelWork
  | completed
  deriving DecidableEq, Repr

/-- A rejection inside a section that gives the session up; the cancellations
follow the unlock. -/
def rejectAndAbortLocked (j : Job) (eErrorCode : BootloaderError) : Job × SectionEnd :=
  let j := vSetBootloaderMsgStatus j false eErrorCode
  ({ j with btl := vAbortBootloaderSessionLocked j.btl }, .cancelWork)

/-- The work items as they were at the start of a section. -/
def Btl.withWorks (b b₀ : Btl) : Btl :=
  { b with timers := { b.timers with
      stBtlStateTimeOutWork := b₀.timers.stBtlStateTimeOutWork
      stBtlTxTimeOutWork := b₀.timers.stBtlTxTimeOutWork } }

/-- The section of `vUpdate_FWImage`: where it gives the session up, the work
items are cancelled after it. -/
def vUpdateFWImageSection (env : Env) (j : Job) : Except Btl (Job × SectionEnd) :=
  match vUpdateFWImage env j with
  | .error b => .error b
  | .ok j' =>
      if j.btl.mgmt.eBtlState = .fwImgWriteInProg ∧ j'.btl.mgmt.eBtlState = .error then
        .ok ({ j' with btl := j'.btl.withWorks j.btl }, .cancelWork)
      else .ok (j', .exit)

/-- The move to the completed state, and the invalidation with it. -/
def Btl.markedCompleted (b : Btl) : Btl :=
  vInvalidateBootloaderStateTimeOutLocked { b with mgmt := { b.mgmt with
    eBtlState := .fwImgWriteCompleted, bIsFirstEntry := true } }

/-- The checks in the section of `vFinalize_FWImageWrite`. -/
def checkImageSection (env : Env) (j : Job) : Except Btl (Job × SectionEnd) :=
  let b := j.btl
  if b.img.bLostPacketStateTriggered then
    if uiGetPendingLostPacketCount b.img > 0 then
      let j := vSetBootloaderMsgStatus j false .missingPacketsPending
      .ok ({ j with btl := vEnterLostPacketRecoveryLocked env j.btl }, .exit)
    else if b.img.uiReceivedByteCount ≠ b.mgmt.uiFWImgSize then
      .ok (rejectAndAbortLocked j .imageIncomplete)
    else
      match vValidateFWImgCRCFromFlashAtLostPacketState env b with
      | .error b => .error b
      | .ok (e, b) =>
          let j := { j with btl := b }
          if e ≠ .none then .ok (rejectAndAbortLocked j e)
          else .ok ({ j with btl := j.btl.markedCompleted }, .completed)
  else
    if b.img.uiReceivedByteCount ≠ b.mgmt.uiFWImgSize then
      .ok (rejectAndAbortLocked j .imageIncomplete)
    else if b.img.uiRunningCRC ≠ b.mgmt.uiCRC then
      .ok (rejectAndAbortLocked j .crcMismatch)
    else .ok ({ j with btl := j.btl.markedCompleted }, .completed)

/-- The section of `vFinalize_FWImageWrite`. -/
def vFinalizeFWImageWriteSection (env : Env) (j : Job) : Except Btl (Job × SectionEnd) :=
  if j.btl.mgmt.eBtlState ≠ .fwImgWriteInProg then
    .ok (vSetBootloaderMsgStatus j false .updateInProgress, .exit)
  else
    let expected := uiExpectedPacketCount j.btl.mgmt.uiFWImgSize
    if expected > UINT16_MAX then
      .ok (rejectAndAbortLocked j .imageTooLarge)
    else if j.btl.img.uiNextId < expected then
      let (bHandled, j) := bCanHandleMissingPackets j expected
      if !bHandled then .ok (j, .cancelWork)
      else checkImageSection env j
    else checkImageSection env j

/-- `vInit_BootloaderManager_ForNewFWImage` before it sets the state. -/
def vInitBootloaderManagerErased (env : Env) (j : Job) : Job :=
  let uiaData := j.msg.uiaData
  let uiFWImgSize := requestedSize uiaData
  let j := { j with btl := { j.btl with mgmt := { j.btl.mgmt with uiFWImgSize } } }
  if uiFWImgSize = 0 then
    vSetBootloaderMsgStatus j false .invalidImageSize
  else if j.btl.mgmt.uiFlashAreaSize ≤ FW_IMAGE_SECONDARY_SLOT_WRITE_OFFSET then
    vSetBootloaderMsgStatus j false .flashBoundsExceeded
  else if uiFWImgSize > j.btl.mgmt.uiFlashAreaSize - FW_IMAGE_SECONDARY_SLOT_WRITE_OFFSET then
    vSetBootloaderMsgStatus j false .imageTooLarge
  else
    vEraseFlashArea env { j with btl := { j.btl with
      mgmt := { j.btl.mgmt with
        uiHWRev := (uiaData.getD 3 0).toNat
        uiLibRev := be16 uiaData 4
        uiFWRev := be16 uiaData 6
        uiCRC := UInt16.ofNat (be16 uiaData 8) }
      img := FWImgCtrl.cleared } }

/-- The section of `vGet_LostPacketInfo`; the flag tells whether the timeouts
are scheduled after it. -/
def vGetLostPacketInfoSection (env : Env) (j : Job) : Bool × Job :=
  if j.msg.eCMD ≠ .getLostPacketInfo then
    (false, vSetBootloaderMsgStatus j false .invalidCommand)
  else if j.btl.tx.eTxState ≠ .idle then
    (false, vSetBootloaderMsgStatus j false .upgradeRequestFail)
  else
    let b := j.btl
    let data := lostPacketInfoFrame b.img b.tx.uiFrameSeq
    let tx := { b.tx with
      uiaTxData := data ++ b.tx.uiaTxData.drop data.length
      stTCANTxMsg := some data.length }
    let tx := if env.txQueued
      then { tx with eTxState := .inProgress, uiFrameSeq := (tx.uiFrameSeq + 1) % 256 }
      else { tx with eTxState := .retryInProgress, uiRetryCount := (tx.uiRetryCount + 1) % 256 }
    (true, { j with btl := { b with log := .lostPacketInfo data env.txQueued :: b.log, tx } })

/-- The section of `vHandle_LostPacketInfo_TxResponse`. -/
def txResponseSection (eAck uiFrameSeq : UInt8) (s : Shared) : Option TxPc × Shared :=
  let b := s.btl
  if eAck ≠ eCAN_ACK ∧ eAck ≠ eCAN_NACK then (none, s)
  else if b.tx.stTCANTxMsg.getD 0 < 3 then (none, s)
  else if b.tx.eTxState = .idle then (none, s)
  else if uiFrameSeq ≠ b.tx.uiaTxData.getD 2 0 then (none, s)
  else if eAck = eCAN_ACK then
    let s := s.cancelTx
    (none, s.set { s.btl with tx := { s.btl.tx with uiRetryCount := 0, eTxState := .idle } })
  else
    (some .retry, s.set { b with tx := { b.tx with eTxState := .retryInProgress } })

/-! ## §5. The CAN thread. -/

/-- The CAN thread inside `vHandle_Bootloader_Messages`. -/
inductive CanPc where
  | idle
  /-- `vUpdateBootloader` reads the state. -/
  | dispatch (m : CtrlMsg)
  /-- `vExecute_Bootloader_IdleState`, up to `bIsFirstEntry`. -/
  | idleState (m : CtrlMsg)
  | initManager (m : CtrlMsg)
  /-- `vSet_BootloaderState(eBootloader_State_FWImgWrite_InProg)`. -/
  | setInProg (m : CtrlMsg)
  | finalize (m : CtrlMsg)
  | update (m : CtrlMsg)
  | getLost (m : CtrlMsg)
  /-- `vHandle_LostPacketInfo_TxResponse`. -/
  | txResponse (m : CtrlMsg)
  /-- The cancellation after the section of `vFinalize_FWImageWrite`. -/
  | completedCancel (m : CtrlMsg)
  /-- `vExecute_Bootloader_FWImgWrite_Completed`: `bIsFirstEntry`, the section
  and the cancellation of `vCancel_BootloaderStateTimeOut`, the close. -/
  | completedEntry (m : CtrlMsg)
  | completedInvalidate (m : CtrlMsg)
  | completedInvalidated (m : CtrlMsg)
  | completedClose (m : CtrlMsg)
  /-- `vRequest_MCUbootImageUpgrade`, after the tries with these results. -/
  | request (m : CtrlMsg) (rets : List Int)
  /-- Its `vAbort_BootloaderSession`, when every try has failed. -/
  | requestAbort (m : CtrlMsg) (rets : List Int)
  /-- `vSet_BootloaderState(eBootloader_State_Reboot)`, and its cancellation. -/
  | setReboot (m : CtrlMsg)
  | setRebootCancel (m : CtrlMsg)
  | refreshReboot (m : CtrlMsg)
  /-- `vExecute_Bootloader_Reboot`. -/
  | rebootInvalidate
  | rebootCancel
  | sysReboot
  | errorState (m : CtrlMsg)
  | reinit (m : CtrlMsg)
  | tx (p : TxPc) (m : CtrlMsg)
  /-- The answer of `vProcess_Bootloader_Messages`. -/
  | answer (m : CtrlMsg)

/-- The status of a message. -/
def CtrlMsg.status (m : CtrlMsg) (bIsMsgOk : Bool) (eErrorCode : BootloaderError) : CtrlMsg :=
  { m with bIsMsgOk, eErrorCode }

/-- Back to the answer, or on in the Tx functions. -/
def CanPc.next (m : CtrlMsg) : Option TxPc → CanPc
  | none => .answer m
  | some p => .tx p m

/-- After a section. -/
def CanPc.after (m : CtrlMsg) : SectionEnd → CanPc
  | .exit => .answer m
  | .cancelWork => .tx .cancelState m
  | .completed => .completedCancel m

/-- The handler for the state that `vUpdateBootloader` has read. -/
def dispatchPc (b : Btl) (m : CtrlMsg) : CanPc :=
  match b.mgmt.eBtlState with
  | .inactive | .waitForAuthResponse => .answer m
  | .idle => .idleState m
  | .fwImgWriteInProg =>
      if !b.mgmt.bIsInitialized then .answer m
      else
        match m.eCMD with
        | .fwUpStop => .tx .abort (m.status true .none)
        | .fwUpEnd => .finalize m
        | .fwUpMsg => .update m
        | .getLostPacketInfo => .getLost m
        | _ => .answer (m.status false .invalidCommand)
  | .fwImgWriteCompleted => .completedEntry m
  | .reboot => .rebootInvalidate
  | .error => .errorState m

/-- The first section of `vExecute_Bootloader_IdleState`. -/
def idleStateSection (b : Btl) (m : CtrlMsg) : CanPc × Btl :=
  if !b.mgmt.bIsInitialized then (.answer (m.status false .notInitialized), b)
  else if b.mgmt.eBtlState = .fwImgWriteInProg then
    (.answer (m.status false .updateInProgress), b)
  else if m.uiLen ≠ 10 then (.answer (m.status false .invalidPayloadLength), b)
  else
    let b := (bIsFirstEntry b).2
    match m.eCMD with
    | .none | .fwUpReq => (.initManager m, b)
    | _ => (.answer (m.status false .invalidCommand), b)

/-- The switch of `vExecute_Bootloader_FWImgWrite_Completed`. -/
def completedPc (m : CtrlMsg) : CanPc :=
  match m.eCMD with
  | .fwUpEnd => .request m []
  | _ => .answer m

/-- Where a section has left the CAN thread; the machine may have stopped. -/
def afterSection : Except Btl (Job × SectionEnd) → CanPc × Btl
  | .error b => (.idle, b)
  | .ok (j, e) => (.after j.msg e, j.btl)

/-- The thread answers, and `p` holds of the message. -/
def CanPc.answers (p : CtrlMsg → Bool) : CanPc → Bool
  | .answer m => p m
  | _ => false

/-- One step of the CAN thread. -/
def CanPc.step (env : Env) (s : Shared) : CanPc → Option (CanPc × Shared)
  | .idle => none
  | .dispatch m => some (dispatchPc s.btl m, s)
  | .idleState m =>
      let (pc, b) := idleStateSection s.btl m
      some (pc, s.set b)
  | .initManager m =>
      let j := vInitBootloaderManagerErased env { btl := s.btl, msg := m }
      some (if j.msg.bIsMsgOk then .setInProg j.msg else .answer j.msg, s.set j.btl)
  | .setInProg m =>
      let b := { s.btl with log := .sessionStarted m.uiaData :: s.btl.log }
      some (.answer { m with bIsMsgOk := true },
        s.refresh env TIMEOUT_FW_UPREQ_TO_FW_UPDATE_ms true
          (vSetBootloaderState env .fwImgWriteInProg b))
  | .finalize m =>
      let (pc, b) := afterSection (vFinalizeFWImageWriteSection env { btl := s.btl, msg := m })
      -- refreshed where packets are pending
      some (pc, s.refresh env TIMEOUT_LOST_PACKET_RECOVERY_PROCESS_ms
        (pc.answers fun m => m.eErrorCode = .missingPacketsPending) b)
  | .update m =>
      let (pc, b) := afterSection (vUpdateFWImageSection env { btl := s.btl, msg := m })
      -- refreshed where the packet has been accepted
      some (pc, s.refresh env TIMEOUT_FW_UPDATE_NextPacket_ms (pc.answers (·.bIsMsgOk)) b)
  | .getLost m =>
      let (bScheduled, j) := vGetLostPacketInfoSection env { btl := s.btl, msg := m }
      some (if bScheduled then .tx .schedule j.msg else .answer j.msg, s.set j.btl)
  | .txResponse m =>
      let (p, s) := txResponseSection (m.uiaData.getD 0 0) (m.uiaData.getD 1 0) s
      some (.next { m with bIsACKReq := false } p, s)
  | .completedCancel m => some (.completedEntry m, s.cancelState)
  | .completedEntry m =>
      let (bFirst, b) := bIsFirstEntry s.btl
      some (if bFirst then .completedInvalidate m else completedPc m, s.set b)
  | .completedInvalidate m =>
      some (.completedInvalidated m, s.set (vInvalidateBootloaderStateTimeOutLocked s.btl))
  | .completedInvalidated m => some (.completedClose m, s.cancelState)
  | .completedClose m => some (completedPc m, s.set (flashAreaCloseIfOpen s.btl))
  | .request m rets =>
      if rets.length < BOOTLOADER_MAX_REQUEST_UPGRADE_TURNs then
        let ret := env.upgrade rets.length
        let b := { s.btl with
          log := .bootRequestUpgrade s.btl.mgmt s.btl.flash ret :: s.btl.log }
        some (if ret = 0 then .setReboot (m.status true .none) else .request m (ret :: rets),
          s.set b)
      else some (.requestAbort (m.status false .upgradeRequestFail) rets, s)
  | .requestAbort m _ =>
      some (.tx .cancelState m, s.set (vAbortBootloaderSessionLocked s.btl))
  | .setReboot m =>
      let b := { s.btl with mgmt := { s.btl.mgmt with eBtlState := .reboot, bIsFirstEntry := true } }
      some (.setRebootCancel m, s.set (vInvalidateBootloaderStateTimeOutLocked b))
  | .setRebootCancel m => some (.refreshReboot m, s.cancelState)
  | .refreshReboot m =>
      some (.answer m, s.refresh env TIMEOUT_REBOOT_CONFIRMATION_ms true
        (vRefreshBootloaderStateTimeOutLocked env TIMEOUT_REBOOT_CONFIRMATION_ms s.btl))
  | .rebootInvalidate =>
      some (.rebootCancel, s.set (vInvalidateBootloaderStateTimeOutLocked s.btl))
  | .rebootCancel => some (.sysReboot, s.cancelState)
  | .sysReboot => some (.idle, s.set { s.btl with halted := some .sysReboot })
  | .errorState m =>
      let b := (bIsFirstEntry s.btl).2
      match m.eCMD with
      | .recoverFromError => some (.reinit m, s.set b)
      | _ => some (.answer (m.status false .invalidCommand), s.set b)
  | .reinit m =>
      some (.tx .cancelState (m.status true .none), s.set (resetSession .idle true s.btl))
  | .tx p m =>
      let (p', s) := p.step env s
      some (.next m p', s)
  | .answer m => some (.idle, if m.bIsACKReq then s.set (vCANSendBtlACKNACK m s.btl) else s)

/-- The CAN thread takes a frame. -/
def receiveFrame (f : CanFrame) (s : Shared) : CanPc × Shared :=
  let m := vFormatBootloaderMsg s.btl.mgmt.bIsInitialized f
  if !m.bIsMsgOk then (.idle, s.set (vCANSendBtlACKNACK m s.btl))
  else
    match m.eCMD with
    | .fwUpReq | .fwUpMsg | .getLostPacketInfo | .fwUpEnd | .fwUpPause | .fwUpStop | .authStart
    | .updateAuthResponse | .recoverFromError => (.dispatch m, s)
    | .retLostPacketInfo => (.txResponse m, s)
    | _ => (.answer (m.status false .invalidCommand), s)

/-! ## §6. The system. -/

/-- The threads and what they share. -/
structure Threads where
  shared : Shared
  can : CanPc
  txHandler : TxHandler
  stateHandler : StateHandler

/-- What happens next: a thread takes a step, a frame arrives, the delay of a
work item ends, or the work queue starts its handler or takes note that it has
returned. -/
inductive Act where
  | frame (f : CanFrame)
  | can
  | txHandler
  | stateHandler
  | txExpires
  | stateExpires
  | txRuns
  | stateRuns
  | txReturns
  | stateReturns

/-- One step of the system, `none` where it is not possible. -/
def Threads.step (t : Threads) (a : Act × Env) : Option Threads :=
  if t.shared.btl.halted.isSome then none
  else
    match a.1 with
    | .frame f =>
        match t.can with
        | .idle => let (pc, s) := receiveFrame f t.shared; some { t with can := pc, shared := s }
        | _ => none
    | .can => (t.can.step a.2 t.shared).map fun (pc, s) => { t with can := pc, shared := s }
    | .txHandler =>
        (t.txHandler.step a.2 t.shared).map fun (pc, s) => { t with txHandler := pc, shared := s }
    | .stateHandler =>
        (t.stateHandler.step a.2 t.shared).map fun (pc, s) =>
          { t with stateHandler := pc, shared := s }
    | .txExpires => t.shared.expireTx.map fun s => { t with shared := s }
    | .stateExpires => t.shared.expireState.map fun s => { t with shared := s }
    | .txRuns =>
        if t.txHandler = .idle then
          t.shared.txWork.start.map fun w =>
            { t with txHandler := .lock, shared := t.shared.withTxWork w }
        else none
    | .stateRuns =>
        if t.stateHandler = .idle then
          t.shared.stateWork.start.map fun w =>
            { t with stateHandler := .lock, shared := t.shared.withStateWork w }
        else none
    | .txReturns =>
        if t.txHandler = .idle then
          t.shared.txWork.finish.map fun w => { t with shared := t.shared.withTxWork w }
        else none
    | .stateReturns =>
        if t.stateHandler = .idle then
          t.shared.stateWork.finish.map fun w => { t with shared := t.shared.withStateWork w }
        else none

/-- The threads when the initialization has returned. -/
def Threads.boot (b : Btl) : Threads where
  shared :=
    { btl := b
      stateWork := DelayableWork.init.timed b.timers.stBtlStateTimeOutWork.isSome
      txWork := DelayableWork.init.timed b.timers.stBtlTxTimeOutWork.isSome
      refreshed := none
      stateTimer := rfl
      txTimer := rfl }
  can := .idle
  txHandler := .idle
  stateHandler := .idle

/-- The controller with its threads. -/
def threads (slot : FlashArea) : TransSys Threads (Act × Env) where
  init t := ∃ flash env, t = Threads.boot (bInitBootloaderController slot flash env)
  step t a t' := t.step a = some t'

end WallController.Bootloader
