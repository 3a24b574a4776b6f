/-
  WallController.Bootloader.Trace
  ────────────────────────────────
  **THE TRACE IS NEVER READ.**

  The trace of the controller records its calls and answers.  Every function
  extends it, and none looks at it: with other entries below its trace, a
  function does the same and adds the same entries on top.  There is one lemma
  for each function of the state machine, `addLog` on both sides of it; the
  step of the machine is `step_addLog`.
-/
import WallController.Bootloader.CanController

namespace WallController.Bootloader

open WallController.Lib

/-! ## §1. Other entries below the trace. -/

/-- The controller with the entries `l` below its trace. -/
def Btl.addLog (l : List Obs) (b : Btl) : Btl := { b with log := b.log ++ l }

def Job.addLog (l : List Obs) (j : Job) : Job := { j with btl := j.btl.addLog l }

/-- The result of a handler, with the entries below its trace. -/
def addLogResult {α : Type} (l : List Obs) (g : α → α) : Except Btl α → Except Btl α
  | .ok a => .ok (g a)
  | .error b => .error (b.addLog l)

/-- Both branches of a conditional that does not look at the trace. -/
theorem ite_addLog {α β : Type} {c d : Prop} [Decidable c] [Decidable d] {g : α → β} {x y : β}
    {x' y' : α} (h : c ↔ d) (hx : x = g x') (hy : y = g y') :
    (if c then x else y) = g (if d then x' else y') := by
  rw [apply_ite g]
  exact if_congr h hx hy

variable (l : List Obs) (env : Env)

/-! ## §2. Calls and resets. -/

theorem flashAreaOpen_addLog (b : Btl) :
    flashAreaOpen env (b.addLog l) = (flashAreaOpen env b).addLog l := by
  unfold flashAreaOpen
  split <;> rfl

theorem flashAreaCloseIfOpen_addLog (b : Btl) :
    flashAreaCloseIfOpen (b.addLog l) = (flashAreaCloseIfOpen b).addLog l := by
  obtain ⟨mgmt, img, tx, timers, slot, flashArea, flash, log, halted⟩ := b
  cases flashArea <;> rfl

theorem flashAreaWrite_addLog (uipacketId off : Nat) (data : List UInt8) (pass : Nat) (b : Btl) :
    flashAreaWrite env uipacketId off data pass (b.addLog l)
      = addLogResult l (Prod.map id (Btl.addLog l))
          (flashAreaWrite env uipacketId off data pass b) := by
  obtain ⟨mgmt, img, tx, timers, slot, flashArea, flash, log, halted⟩ := b
  cases flashArea <;> rfl

theorem flashAreaRead_addLog (off len pass : Nat) (b : Btl) :
    flashAreaRead env off len pass (b.addLog l)
      = addLogResult l (Prod.map id (Btl.addLog l)) (flashAreaRead env off len pass b) := by
  obtain ⟨mgmt, img, tx, timers, slot, flashArea, flash, log, halted⟩ := b
  cases flashArea <;> rfl

theorem resetSession_addLog (eState : BootloaderState) (bFirstEntry : Bool) (b : Btl) :
    resetSession eState bFirstEntry (b.addLog l)
      = (resetSession eState bFirstEntry b).addLog l := by
  obtain ⟨mgmt, img, tx, timers, slot, flashArea, flash, log, halted⟩ := b
  cases flashArea <;> rfl

theorem vAbortBootloaderSession_addLog (b : Btl) :
    vAbortBootloaderSession (b.addLog l) = (vAbortBootloaderSession b).addLog l :=
  congrArg cancelWorks (resetSession_addLog l .error false b)

theorem rejectAndAbort_addLog (j : Job) (e : BootloaderError) :
    rejectAndAbort (j.addLog l) e = (rejectAndAbort j e).addLog l :=
  congrArg (fun b => ({ vSetBootloaderMsgStatus j false e with btl := b } : Job))
    (vAbortBootloaderSession_addLog l j.btl)

theorem vSetBootloaderState_addLog (eState : BootloaderState) (b : Btl) :
    vSetBootloaderState env eState (b.addLog l) = (vSetBootloaderState env eState b).addLog l := by
  cases eState <;> rfl

/-! ## §3. Packets. -/

theorem bCanHandleMissingPackets_addLog (j : Job) (uipacketId : Nat) :
    bCanHandleMissingPackets (j.addLog l) uipacketId
      = Prod.map id (Job.addLog l) (bCanHandleMissingPackets j uipacketId) := by
  have habort := resetSession_addLog l .error false j.btl
  refine ite_addLog Iff.rfl ?_ rfl
  exact congrArg (fun b => (false, ({ vSetBootloaderMsgStatus j false .invalidPacketId with
    btl := b } : Job))) habort

theorem vHandlePacketIdMismatch_addLog (j : Job) (uipacketId : Nat) :
    vHandlePacketIdMismatch (j.addLog l) uipacketId
      = Prod.map id (Job.addLog l) (vHandlePacketIdMismatch j uipacketId) := by
  refine ite_addLog Iff.rfl (bCanHandleMissingPackets_addLog l j uipacketId) ?_
  have hlost : (j.addLog l).btl.img.staLostPacketIDs = j.btl.img.staLostPacketIDs := rfl
  rw [hlost]
  cases j.btl.img.staLostPacketIDs.find? fun p => p.uiPacketId == uipacketId with
  | none => rfl
  | some p => exact ite_addLog Iff.rfl rfl rfl

theorem writeBlocks_addLog (uipacketId : Nat) (blocks : List Nat) (j : Job) :
    writeBlocks env uipacketId blocks (j.addLog l)
      = addLogResult l (Prod.map id (Job.addLog l)) (writeBlocks env uipacketId blocks j) := by
  induction blocks generalizing j with
  | nil => rfl
  | cons uiIndex rest ih =>
      have hreject := fun j e => congrArg (fun j => (.ok (false, j) : Except Btl (Bool × Job)))
        (rejectAndAbort_addLog l j e)
      unfold writeBlocks
      refine ite_addLog Iff.rfl (hreject j .flashBoundsExceeded) ?_
      refine ite_addLog Iff.rfl rfl ?_
      refine ite_addLog Iff.rfl (hreject j .flashBoundsExceeded) ?_
      obtain ⟨⟨mgmt, img, tx, timers, slot, flashArea, flash, log, halted⟩, msg⟩ := j
      cases flashArea with
      | none => rfl
      | some fa =>
          dsimp only [Job.addLog, Btl.addLog, flashAreaWrite]
          refine ite_addLog Iff.rfl ?_ ?_
          · exact hreject ⟨⟨_, _, _, _, _, _, _, _ :: log, _⟩, _⟩ .flashAreaWriteFail
          refine ite_addLog Iff.rfl rfl ?_
          exact ih ⟨⟨_, _, _, _, _, _, _, _ :: log, _⟩, _⟩

theorem finishPacket_addLog (uipacketId : Nat) (r : Except Btl (Bool × Job)) :
    finishPacket env uipacketId (addLogResult l (Prod.map id (Job.addLog l)) r)
      = addLogResult l (Job.addLog l) (finishPacket env uipacketId r) := by
  cases r with
  | error b => rfl
  | ok r =>
      obtain ⟨bContinue, j⟩ := r
      cases bContinue <;> rfl

theorem writePacket_addLog (uipacketId : Nat) (bIsFirstPacket : Bool) (j : Job) :
    writePacket env uipacketId bIsFirstPacket (j.addLog l)
      = addLogResult l (Job.addLog l) (writePacket env uipacketId bIsFirstPacket j) := by
  have hreject : ∀ j₁ j₀ : Job, j₁ = j₀.addLog l →
      (.ok (rejectAndAbort j₁ .flashAreaOpenFail) : Except Btl Job)
        = addLogResult l (Job.addLog l) (.ok (rejectAndAbort j₀ .flashAreaOpenFail)) := by
    intro j₁ j₀ h
    rw [h, rejectAndAbort_addLog]
    rfl
  have hwrite : ∀ j₁ j₀ : Job, j₁ = j₀.addLog l →
      finishPacket env uipacketId (writeBlocks env uipacketId blockIndexes j₁)
        = addLogResult l (Job.addLog l)
            (finishPacket env uipacketId (writeBlocks env uipacketId blockIndexes j₀)) := by
    intro j₁ j₀ h
    rw [h, writeBlocks_addLog, finishPacket_addLog]
  -- the handle is opened before the first packet
  have hopen := fun img => congrArg (fun b => (⟨b, j.msg⟩ : Job))
    (flashAreaOpen_addLog l env { j.btl with img := img })
  refine ite_addLog Iff.rfl (hreject _ _ ?_) (hwrite _ _ ?_)
  · exact ite_addLog Iff.rfl (hopen _) rfl
  · exact ite_addLog Iff.rfl (hopen _) rfl

/-- What follows a mismatch of the packet id. -/
theorem afterMismatch_addLog (uipacketId : Nat) (bIsFirstPacket : Bool) (r : Bool × Job) :
    (if !(Prod.map id (Job.addLog l) r).1 then
      .ok (if (r.2.addLog l).btl.mgmt.eBtlState = .error
        then { r.2.addLog l with btl := cancelWorks (r.2.addLog l).btl } else r.2.addLog l)
      else writePacket env uipacketId bIsFirstPacket (r.2.addLog l) : Except Btl Job)
    = addLogResult l (Job.addLog l) (if !r.1 then
        .ok (if r.2.btl.mgmt.eBtlState = .error
          then { r.2 with btl := cancelWorks r.2.btl } else r.2)
        else writePacket env uipacketId bIsFirstPacket r.2) := by
  refine ite_addLog Iff.rfl ?_ (writePacket_addLog l env _ _ r.2)
  refine congrArg (Except.ok (ε := Btl)) ?_
  exact ite_addLog (g := Job.addLog l) Iff.rfl rfl rfl

theorem vUpdateFWImage_addLog (j : Job) :
    vUpdateFWImage env (j.addLog l) = addLogResult l (Job.addLog l) (vUpdateFWImage env j) := by
  have hreject := congrArg (Except.ok (ε := Btl)) (rejectAndAbort_addLog l j .flashBoundsExceeded)
  have hmismatch := vHandlePacketIdMismatch_addLog l j (packetId j.msg.uiaData)
  refine ite_addLog Iff.rfl rfl ?_
  refine ite_addLog Iff.rfl rfl ?_
  refine ite_addLog Iff.rfl rfl ?_
  refine ite_addLog Iff.rfl hreject ?_
  refine ite_addLog Iff.rfl ?_ (writePacket_addLog l env _ _ j)
  dsimp only
  rw [show (j.addLog l).msg = j.msg from rfl, hmismatch]
  exact afterMismatch_addLog l env _ _ _

/-! ## §4. Lost-packet info. -/

theorem bScheduleLostPacketTimeouts_addLog (b : Btl) :
    bScheduleLostPacketTimeouts env (b.addLog l)
      = (bScheduleLostPacketTimeouts env b).addLog l :=
  ite_addLog Iff.rfl rfl rfl

theorem vProcessBootloaderTxError_addLog (b : Btl) :
    vProcessBootloaderTxError (b.addLog l) = (vProcessBootloaderTxError b).addLog l :=
  ite_addLog Iff.rfl (vAbortBootloaderSession_addLog l (cancelTxTimeOutWork b)) rfl

theorem vProcessBootloaderRetryTx_addLog (b : Btl) :
    vProcessBootloaderRetryTx env (b.addLog l) = (vProcessBootloaderRetryTx env b).addLog l := by
  refine ite_addLog Iff.rfl rfl ?_
  refine ite_addLog Iff.rfl (vProcessBootloaderTxError_addLog l b) ?_
  exact bScheduleLostPacketTimeouts_addLog l env { b with log := _ :: b.log, tx := _ }

theorem vGetLostPacketInfo_addLog (j : Job) :
    vGetLostPacketInfo env (j.addLog l) = (vGetLostPacketInfo env j).addLog l := by
  refine ite_addLog Iff.rfl rfl ?_
  refine ite_addLog Iff.rfl rfl ?_
  exact congrArg (fun b => (⟨b, j.msg⟩ : Job))
    (bScheduleLostPacketTimeouts_addLog l env { j.btl with log := _ :: j.btl.log, tx := _ })

theorem vHandleLostPacketInfoTxResponse_addLog (eAck uiFrameSeq : UInt8) (b : Btl) :
    vHandleLostPacketInfoTxResponse env eAck uiFrameSeq (b.addLog l)
      = (vHandleLostPacketInfoTxResponse env eAck uiFrameSeq b).addLog l := by
  refine ite_addLog Iff.rfl rfl ?_
  refine ite_addLog Iff.rfl rfl ?_
  refine ite_addLog Iff.rfl rfl ?_
  refine ite_addLog Iff.rfl rfl ?_
  exact ite_addLog Iff.rfl rfl (vProcessBootloaderRetryTx_addLog l env { b with tx := _ })

theorem vHandleHostAcknowledgements_addLog (j : Job) :
    vHandleHostAcknowledgements env (j.addLog l) = (vHandleHostAcknowledgements env j).addLog l := by
  obtain ⟨b, eCMD, bIsMsgOk, bIsACKReq, eErrorCode, uiaData⟩ := j
  cases eCMD with
  | retLostPacketInfo =>
      exact congrArg (fun b => (⟨b, _⟩ : Job))
        (vHandleLostPacketInfoTxResponse_addLog l env _ _ b)
  | _ => rfl

/-! ## §5. Finishing the image. -/

theorem readBack_addLog (fuel pass uiReadOffset uiBytesToRead iretryCount : Nat) (b : Btl) :
    readBack env fuel pass uiReadOffset uiBytesToRead iretryCount (b.addLog l)
      = addLogResult l (Prod.map id (Btl.addLog l))
          (readBack env fuel pass uiReadOffset uiBytesToRead iretryCount b) := by
  induction fuel generalizing pass uiReadOffset uiBytesToRead iretryCount b with
  | zero => rfl
  | succ fuel ih =>
      refine ite_addLog Iff.rfl rfl ?_
      obtain ⟨mgmt, img, tx, timers, slot, flashArea, flash, log, halted⟩ := b
      cases flashArea with
      | none => rfl
      | some fa =>
          dsimp only [Btl.addLog, flashAreaRead]
          refine ite_addLog Iff.rfl ?_ ?_
          · refine ite_addLog Iff.rfl rfl ?_
            exact ih _ _ _ _ ⟨_, _, _, _, _, _, _, _ :: log, _⟩
          · exact ih _ _ _ _ ⟨_, _, _, _, _, _, _, _ :: log, _⟩

theorem compareCRC_addLog (r : Except Btl (Bool × Btl)) :
    compareCRC (addLogResult l (Prod.map id (Btl.addLog l)) r)
      = addLogResult l (Prod.map id (Btl.addLog l)) (compareCRC r) := by
  cases r with
  | error b => rfl
  | ok r =>
      obtain ⟨bRead, b⟩ := r
      cases bRead <;> rfl

theorem vValidateFWImgCRC_addLog (b : Btl) :
    vValidateFWImgCRCFromFlashAtLostPacketState env (b.addLog l)
      = addLogResult l (Prod.map id (Btl.addLog l))
          (vValidateFWImgCRCFromFlashAtLostPacketState env b) := by
  refine ite_addLog Iff.rfl rfl ?_
  refine ite_addLog Iff.rfl rfl ?_
  exact (congrArg compareCRC (readBack_addLog l env _ _ _ _ _ b)).trans (compareCRC_addLog l _)

theorem requestUpgradeLoop_addLog (left uiRetryCount : Nat) (b : Btl) :
    requestUpgradeLoop env left uiRetryCount (b.addLog l)
      = Prod.map id (Btl.addLog l) (requestUpgradeLoop env left uiRetryCount b) := by
  induction left generalizing uiRetryCount b with
  | zero => rfl
  | succ left ih => exact ite_addLog Iff.rfl rfl (ih _ { b with log := _ :: b.log })

theorem vRequestMCUbootImageUpgrade_addLog (j : Job) :
    vRequestMCUbootImageUpgrade env (j.addLog l)
      = (vRequestMCUbootImageUpgrade env j).addLog l := by
  have hloop := requestUpgradeLoop_addLog l env BOOTLOADER_MAX_REQUEST_UPGRADE_TURNs 0 j.btl
  unfold vRequestMCUbootImageUpgrade
  rw [show (j.addLog l).btl = j.btl.addLog l from rfl, hloop]
  generalize requestUpgradeLoop env BOOTLOADER_MAX_REQUEST_UPGRADE_TURNs 0 j.btl = r
  obtain ⟨bRequested, b⟩ := r
  exact ite_addLog Iff.rfl (rejectAndAbort_addLog l ⟨b, j.msg⟩ .upgradeRequestFail) rfl

theorem vExecuteBootloaderFWImgWriteCompleted_addLog (j : Job) :
    vExecuteBootloaderFWImgWriteCompleted env (j.addLog l)
      = (vExecuteBootloaderFWImgWriteCompleted env j).addLog l := by
  have hfirst : ∀ b : Btl, (if b.mgmt.bIsFirstEntry
      then flashAreaCloseIfOpen (vCancelBootloaderStateTimeOut (bIsFirstEntry (b.addLog l)).2)
      else (bIsFirstEntry (b.addLog l)).2)
        = (if b.mgmt.bIsFirstEntry
            then flashAreaCloseIfOpen (vCancelBootloaderStateTimeOut (bIsFirstEntry b).2)
            else (bIsFirstEntry b).2).addLog l := fun b =>
    ite_addLog Iff.rfl
      (flashAreaCloseIfOpen_addLog l (vCancelBootloaderStateTimeOut (bIsFirstEntry b).2)) rfl
  have hjob := congrArg (fun b => (⟨b, j.msg⟩ : Job)) (hfirst j.btl)
  obtain ⟨b, eCMD, bIsMsgOk, bIsACKReq, eErrorCode, uiaData⟩ := j
  cases eCMD with
  | fwUpEnd =>
      exact (congrArg (vRequestMCUbootImageUpgrade env) hjob).trans
        (vRequestMCUbootImageUpgrade_addLog l env ⟨_, _⟩)
  | _ => exact hjob

theorem markCompleted_addLog (j : Job) :
    markCompleted env (j.addLog l) = (markCompleted env j).addLog l :=
  vExecuteBootloaderFWImgWriteCompleted_addLog l env
    { j with btl := cancelStateTimeOutWork (vInvalidateBootloaderStateTimeOutLocked
        { j.btl with mgmt := _ }) }

theorem checkImage_addLog (j : Job) :
    checkImage env (j.addLog l) = addLogResult l (Job.addLog l) (checkImage env j) := by
  have hreject := fun j e => congrArg (Except.ok (ε := Btl)) (rejectAndAbort_addLog l j e)
  have hmark := fun j => congrArg (Except.ok (ε := Btl)) (markCompleted_addLog l env j)
  refine ite_addLog Iff.rfl ?_ ?_
  · refine ite_addLog Iff.rfl rfl ?_
    refine ite_addLog Iff.rfl (hreject j .imageIncomplete) ?_
    rw [show (j.addLog l).btl = j.btl.addLog l from rfl, vValidateFWImgCRC_addLog]
    cases vValidateFWImgCRCFromFlashAtLostPacketState env j.btl with
    | error b => rfl
    | ok r => exact ite_addLog Iff.rfl (hreject ⟨r.2, j.msg⟩ r.1) (hmark ⟨r.2, j.msg⟩)
  · refine ite_addLog Iff.rfl (hreject j .imageIncomplete) ?_
    exact ite_addLog Iff.rfl (hreject j .crcMismatch) (hmark j)

theorem vFinalizeFWImageWrite_addLog (j : Job) :
    vFinalizeFWImageWrite env (j.addLog l)
      = addLogResult l (Job.addLog l) (vFinalizeFWImageWrite env j) := by
  have hmissing := bCanHandleMissingPackets_addLog l j (uiExpectedPacketCount j.btl.mgmt.uiFWImgSize)
  refine ite_addLog Iff.rfl rfl ?_
  refine ite_addLog Iff.rfl
    (congrArg (Except.ok (ε := Btl)) (rejectAndAbort_addLog l j .imageTooLarge)) ?_
  refine ite_addLog Iff.rfl ?_ (checkImage_addLog l env j)
  rw [show (j.addLog l).btl.mgmt = j.btl.mgmt from rfl, hmissing]
  generalize bCanHandleMissingPackets j (uiExpectedPacketCount j.btl.mgmt.uiFWImgSize) = r
  exact ite_addLog Iff.rfl rfl (checkImage_addLog l env r.2)

/-! ## §6. Starting a session. -/

theorem vEraseFlashArea_addLog (j : Job) :
    vEraseFlashArea env (j.addLog l) = (vEraseFlashArea env j).addLog l := by
  have hopen := congrArg (fun b => (⟨b, j.msg⟩ : Job)) (flashAreaOpen_addLog l env j.btl)
  unfold vEraseFlashArea
  rw [show (j.addLog l).btl = j.btl.addLog l from rfl, flashAreaOpen_addLog]
  refine ite_addLog Iff.rfl rfl ?_
  exact ite_addLog Iff.rfl rfl rfl

theorem vInitBootloaderManagerForNewFWImage_addLog (j : Job) :
    vInitBootloaderManagerForNewFWImage env (j.addLog l)
      = (vInitBootloaderManagerForNewFWImage env j).addLog l := by
  -- what follows the erase
  have hstart : ∀ (uiaData : List UInt8) (j₁ j₀ : Job), j₁ = j₀.addLog l →
      (if !j₁.msg.bIsMsgOk then j₁
        else { btl := vSetBootloaderState env .fwImgWriteInProg { j₁.btl with
                log := .sessionStarted uiaData :: j₁.btl.log }
               msg := { j₁.msg with bIsMsgOk := true } })
        = Job.addLog l (if !j₀.msg.bIsMsgOk then j₀
            else { btl := vSetBootloaderState env .fwImgWriteInProg { j₀.btl with
                    log := .sessionStarted uiaData :: j₀.btl.log }
                   msg := { j₀.msg with bIsMsgOk := true } }) := by
    intro uiaData j₁ j₀ h
    rw [h]
    exact ite_addLog Iff.rfl rfl rfl
  refine ite_addLog Iff.rfl rfl ?_
  refine ite_addLog Iff.rfl rfl ?_
  refine ite_addLog Iff.rfl rfl ?_
  exact hstart _ _ _ (vEraseFlashArea_addLog l env ⟨{ j.btl with mgmt := _, img := _ }, j.msg⟩)

theorem vExecuteBootloaderIdleState_addLog (j : Job) :
    vExecuteBootloaderIdleState env (j.addLog l) = (vExecuteBootloaderIdleState env j).addLog l := by
  refine ite_addLog Iff.rfl rfl ?_
  refine ite_addLog Iff.rfl rfl ?_
  refine ite_addLog Iff.rfl rfl ?_
  obtain ⟨b, eCMD, bIsMsgOk, bIsACKReq, eErrorCode, uiaData⟩ := j
  cases eCMD with
  | none | fwUpReq =>
      exact vInitBootloaderManagerForNewFWImage_addLog l env ⟨(bIsFirstEntry b).2, _⟩
  | _ => rfl

/-! ## §7. The machine. -/

theorem vExecuteBootloaderFWImgWriteState_addLog (j : Job) :
    vExecuteBootloaderFWImgWriteState env (j.addLog l)
      = addLogResult l (Job.addLog l) (vExecuteBootloaderFWImgWriteState env j) := by
  refine ite_addLog Iff.rfl rfl ?_
  have habort := congrArg
    (fun b => (.ok ⟨b, (vSetBootloaderMsgStatus j true .none).msg⟩ : Except Btl Job))
    (vAbortBootloaderSession_addLog l j.btl)
  have hget := congrArg (Except.ok (ε := Btl)) (vGetLostPacketInfo_addLog l env j)
  have hfinalize := vFinalizeFWImageWrite_addLog l env j
  have hupdate := vUpdateFWImage_addLog l env j
  obtain ⟨b, eCMD, bIsMsgOk, bIsACKReq, eErrorCode, uiaData⟩ := j
  cases eCMD with
  | fwUpStop => exact habort
  | fwUpEnd => exact hfinalize
  | fwUpMsg => exact hupdate
  | getLostPacketInfo => exact hget
  | _ => rfl

theorem vExecuteBootloaderErrorState_addLog (j : Job) :
    vExecuteBootloaderErrorState (j.addLog l) = (vExecuteBootloaderErrorState j).addLog l := by
  obtain ⟨b, eCMD, bIsMsgOk, bIsACKReq, eErrorCode, uiaData⟩ := j
  cases eCMD with
  | recoverFromError =>
      exact congrArg (fun b => (⟨cancelWorks b, _⟩ : Job))
        (resetSession_addLog l .idle true (bIsFirstEntry b).2)
  | _ => rfl

theorem vUpdateBootloader_addLog (j : Job) :
    vUpdateBootloader env (j.addLog l) = addLogResult l (Job.addLog l) (vUpdateBootloader env j) := by
  have hidle := congrArg (Except.ok (ε := Btl)) (vExecuteBootloaderIdleState_addLog l env j)
  have hwrite := vExecuteBootloaderFWImgWriteState_addLog l env j
  have hcompleted := congrArg (Except.ok (ε := Btl))
    (vExecuteBootloaderFWImgWriteCompleted_addLog l env j)
  have herror := congrArg (Except.ok (ε := Btl)) (vExecuteBootloaderErrorState_addLog l j)
  unfold vUpdateBootloader
  rw [show (j.addLog l).btl.mgmt = j.btl.mgmt from rfl]
  cases j.btl.mgmt.eBtlState with
  | idle => exact hidle
  | fwImgWriteInProg => exact hwrite
  | fwImgWriteCompleted => exact hcompleted
  | error => exact herror
  | _ => rfl

theorem vBtlStateTimeOutHandler_addLog (b : Btl) :
    vBtlStateTimeOutHandler env (b.addLog l)
      = addLogResult l (Btl.addLog l) (vBtlStateTimeOutHandler env b) := by
  refine ite_addLog Iff.rfl rfl ?_
  refine ite_addLog Iff.rfl rfl ?_
  refine ite_addLog Iff.rfl rfl ?_
  exact congrArg (fun b => Except.ok (ε := Btl) (cancelTxTimeOutWork b))
    (resetSession_addLog l .error false (vInvalidateBootloaderStateTimeOutLocked b))

theorem vBtlTxTimeOutHandler_addLog (b : Btl) :
    vBtlTxTimeOutHandler env (b.addLog l) = (vBtlTxTimeOutHandler env b).addLog l := by
  refine ite_addLog Iff.rfl rfl ?_
  refine ite_addLog Iff.rfl (vProcessBootloaderTxError_addLog l b) ?_
  exact vProcessBootloaderRetryTx_addLog l env { b with tx := _ }

theorem dispatchMessage_addLog (j : Job) :
    dispatchMessage env (j.addLog l) = addLogResult l (Job.addLog l) (dispatchMessage env j) := by
  have hupdate := vUpdateBootloader_addLog l env j
  have hack := congrArg (Except.ok (ε := Btl)) (vHandleHostAcknowledgements_addLog l env j)
  obtain ⟨b, eCMD, bIsMsgOk, bIsACKReq, eErrorCode, uiaData⟩ := j
  cases eCMD with
  | retLostPacketInfo => exact hack
  | fwUpReq | fwUpMsg | getLostPacketInfo | fwUpEnd | fwUpPause | fwUpStop | authStart
  | updateAuthResponse | recoverFromError => exact hupdate
  | _ => rfl

theorem vHandleBootloaderMessages_addLog (f : CanFrame) (b : Btl) :
    vHandleBootloaderMessages env f (b.addLog l)
      = (vHandleBootloaderMessages env f b).addLog l := by
  refine ite_addLog Iff.rfl rfl ?_
  unfold vProcessBootloaderMessages
  have hdispatch := dispatchMessage_addLog l env
    { btl := b, msg := vFormatBootloaderMsg b.mgmt.bIsInitialized f }
  rw [show dispatchMessage env
      { btl := b.addLog l, msg := vFormatBootloaderMsg (b.addLog l).mgmt.bIsInitialized f }
    = _ from hdispatch]
  cases dispatchMessage env { btl := b, msg := vFormatBootloaderMsg b.mgmt.bIsInitialized f } with
  | error b => rfl
  | ok j => exact ite_addLog Iff.rfl rfl rfl

/-- Either result of a timer handler is the state it leaves. -/
theorem merge_addLogResult (r : Except Btl Btl) :
    (match addLogResult l (Btl.addLog l) r with | .ok b => b | .error b => b)
      = Btl.addLog l (match r with | .ok b => b | .error b => b) := by
  cases r with
  | error b => rfl
  | ok b => rfl

/-- **A step does not look at the trace.** -/
theorem step_addLog (b : Btl) (a : Event × Env) :
    step (b.addLog l) a = (step b a).addLog l := by
  obtain ⟨e, env⟩ := a
  refine ite_addLog Iff.rfl rfl ?_
  cases e with
  | frame f => exact vHandleBootloaderMessages_addLog l env f b
  | txTimeOut => exact vBtlTxTimeOutHandler_addLog l env { b with timers := _ }
  | stateTimeOut =>
      have h := vBtlStateTimeOutHandler_addLog l env
        { b with timers := { b.timers with stBtlStateTimeOutWork := none } }
      refine Eq.trans ?_ (merge_addLogResult l _)
      rw [← h]
      rfl

end WallController.Bootloader
