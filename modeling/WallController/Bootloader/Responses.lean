/-
  WallController.Bootloader.Responses
  ────────────────────────────────
  **THE ANSWERS TO THE FRAMES.**

  `vFormat_Bootloader_Msg` presets the status of a well-formed command to OK,
  and the handlers overwrite it on their way.  `Handled` is what a handler of
  an ack-requiring command leaves behind, whichever way it takes: a rejection
  with an error code, or the transition that the command is for, with the
  status OK.  No handler sends an answer itself (`Silent`), so the answer is
  the one that `vProcess_Bootloader_Messages` sends at the end.
-/
import WallController.Bootloader.Invariant

namespace WallController.Bootloader

open WallController.Lib

/-! ## §1. The responses of a trace. -/

/-- A frame of `vCAN_SendBtl_ACK_NACK`: an ACK where `bIsMsgOk`, else a NACK. -/
structure Response where
  eCMD : BootloaderCommand
  bIsMsgOk : Bool
  eErrorCode : BootloaderError
  deriving DecidableEq

/-- The response among the calls. -/
def Obs.response? : Obs → Option Response
  | .response eCMD bIsMsgOk eErrorCode => some { eCMD, bIsMsgOk, eErrorCode }
  | _ => none

/-- The responses of the trace, newest first. -/
def Btl.responses (b : Btl) : List Response := b.log.filterMap Obs.response?

/-- No response has been sent between the two. -/
def Silent (b b' : Btl) : Prop := b'.responses = b.responses

namespace Silent

variable {b b' b'' : Btl}

theorem of_log_eq (h : b'.log = b.log) : Silent b b' := by
  unfold Silent Btl.responses
  rw [h]

theorem refl (b : Btl) : Silent b b := rfl

theorem trans (h₁ : Silent b b') (h₂ : Silent b' b'') : Silent b b'' :=
  Eq.trans h₂ h₁

/-- Calls that are no response. -/
theorem of_calls (calls : List Obs) (hl : b'.log = calls ++ b.log)
    (hc : ∀ o ∈ calls, o.response? = none) : Silent b b' := by
  unfold Silent Btl.responses
  rw [hl, List.filterMap_append, List.filterMap_eq_nil_iff.mpr hc, List.nil_append]

theorem one {o : Obs} (hl : b'.log = o :: b.log) (ho : o.response? = none) : Silent b b' :=
  of_calls [o] hl (by simpa using ho)

end Silent

/-- No response has been sent between the two, and the state is the same or
the error state. -/
structure Quiet (b b' : Btl) : Prop where
  silent : Silent b b'
  state : b'.mgmt.eBtlState = b.mgmt.eBtlState ∨ b'.mgmt.eBtlState = .error

namespace Quiet

variable {b b' b'' : Btl}

theorem of_log_eq (h : b'.log = b.log) (hs : b'.mgmt.eBtlState = b.mgmt.eBtlState) :
    Quiet b b' :=
  ⟨.of_log_eq h, .inl hs⟩

theorem refl (b : Btl) : Quiet b b := of_log_eq rfl rfl

theorem trans (h₁ : Quiet b b') (h₂ : Quiet b' b'') : Quiet b b'' where
  silent := h₁.silent.trans h₂.silent
  state := by
    rcases h₂.state with h | h
    · rw [h]
      exact h₁.state
    · exact .inr h

theorem one {o : Obs} (hl : b'.log = o :: b.log) (ho : o.response? = none)
    (hs : b'.mgmt.eBtlState = b.mgmt.eBtlState) : Quiet b b' :=
  ⟨.one hl ho, .inl hs⟩

/-- A change before quiet work. -/
theorem prepend (h : Quiet b' b'') (hl : b'.log = b.log)
    (hs : b'.mgmt.eBtlState = b.mgmt.eBtlState) : Quiet b b'' :=
  (of_log_eq hl hs).trans h

/-- A call before quiet work. -/
theorem prependCall {o : Obs} (h : Quiet b' b'') (hl : b'.log = o :: b.log)
    (ho : o.response? = none) (hs : b'.mgmt.eBtlState = b.mgmt.eBtlState) : Quiet b b'' :=
  (one hl ho hs).trans h

end Quiet

/-! ## §2. The handlers are quiet. -/

theorem flashAreaOpen_quiet (env : Env) (b : Btl) : Quiet b (flashAreaOpen env b) := by
  unfold flashAreaOpen
  by_cases h : env.open_ = 0
  · rw [if_pos h]
    exact .one rfl rfl rfl
  · rw [if_neg h]
    exact .one rfl rfl rfl

theorem flashAreaCloseIfOpen_quiet (b : Btl) : Quiet b (flashAreaCloseIfOpen b) := by
  unfold flashAreaCloseIfOpen
  by_cases h : b.flashArea.isSome
  · rw [if_pos h]
    exact .one rfl rfl rfl
  · rw [if_neg h]
    exact .refl b

theorem resetSession_silent (eState : BootloaderState) (bFirstEntry : Bool) (b : Btl) :
    Silent b (resetSession eState bFirstEntry b) := by
  have hinv : Silent b (vInvalidateBootloaderStateTimeOutLocked b) := .of_log_eq rfl
  exact (hinv.trans (flashAreaCloseIfOpen_quiet _).silent).trans (.of_log_eq rfl)

theorem vAbortBootloaderSessionLocked_quiet (b : Btl) :
    Quiet b (vAbortBootloaderSessionLocked b) :=
  ⟨resetSession_silent _ _ b, .inr rfl⟩

theorem vAbortBootloaderSession_quiet (b : Btl) : Quiet b (vAbortBootloaderSession b) :=
  (vAbortBootloaderSessionLocked_quiet b).trans (.of_log_eq rfl rfl)

theorem rejectAndAbort_quiet (j : Job) (e : BootloaderError) :
    Quiet j.btl (rejectAndAbort j e).btl :=
  vAbortBootloaderSession_quiet j.btl

/-- The controller that the write loop leaves behind. -/
def loopResult : Except Btl (Bool × Job) → Btl
  | .ok r => r.2.btl
  | .error b => b

/-- The write loop, by its blocks. -/
theorem writeBlocks_quiet (env : Env) (id : Nat) (blocks : List Nat) (j : Job) :
    Quiet j.btl (loopResult (writeBlocks env id blocks j)) := by
  induction blocks generalizing j with
  | nil => exact .refl _
  | cons uiIndex rest ih =>
      unfold writeBlocks
      simp only
      split
      · exact rejectAndAbort_quiet j _
      split
      · exact .refl _
      split
      · exact rejectAndAbort_quiet j _
      generalize (if id * DATA_PAYLOAD_PER_ONE_IMAGE_FRAME + (uiIndex - 2)
        + FW_IMG_WRITE_BYTE_LENGTH ≤ j.btl.mgmt.uiFWImgSize then _ else _) = uiWriteLen
      unfold flashAreaWrite
      cases hfa : j.btl.flashArea with
      | none => exact .of_log_eq rfl rfl
      | some fa =>
          simp only
          generalize (if fa.fa_size < _ then EINVAL else env.write _) = ret
          -- the block has been handed to the flash
          split
          · exact (rejectAndAbort_quiet _ _).prependCall rfl rfl rfl
          · split
            · exact .one rfl rfl rfl
            · exact (ih _).prependCall rfl rfl rfl

theorem finishPacket_quiet (env : Env) (id : Nat) {b : Btl} {r : Except Btl (Bool × Job)}
    (h : Quiet b (loopResult r)) : Quiet b (handlerResult (finishPacket env id r)) := by
  match r, h with
  | .error _, h => exact h
  | .ok (false, _), h => exact h
  | .ok (true, _), h => exact h.trans (.one rfl rfl rfl)

theorem writePacket_quiet (env : Env) (id : Nat) (bIsFirstPacket : Bool) (j : Job) :
    Quiet j.btl (handlerResult (writePacket env id bIsFirstPacket j)) := by
  unfold writePacket
  simp only
  generalize hj : (if bIsFirstPacket = true then _ else _ : Job) = j₁
  have hopen : Quiet j.btl j₁.btl := by
    rw [← hj]
    split
    · exact (flashAreaOpen_quiet env _).prepend rfl rfl
    · exact .of_log_eq rfl rfl
  split
  · exact hopen.trans (rejectAndAbort_quiet _ _)
  · exact finishPacket_quiet env id (hopen.trans (writeBlocks_quiet env id blockIndexes j₁))

/-- A handled packet. -/
theorem vUpdateFWImage_quiet (env : Env) (j : Job) :
    Quiet j.btl (handlerResult (vUpdateFWImage env j)) := by
  unfold vUpdateFWImage
  split
  · exact .refl _
  simp only
  split
  · exact .refl _
  split
  · exact .refl _
  split
  · exact rejectAndAbort_quiet j _
  split
  · next hid =>
      have hm := vHandlePacketIdMismatch_outcome j hid
      generalize vHandlePacketIdMismatch j (packetId j.msg.uiaData) = r at hm ⊢
      cases hm with
      | @admitted img _ =>
          simp only [Bool.not_true, Bool.false_eq_true, if_false]
          have himg : Quiet j.btl { j.btl with img := img } := .of_log_eq rfl rfl
          exact himg.trans (writePacket_quiet env _ _ { j with btl := { j.btl with img := img } })
      | refused _ =>
          simp only [Bool.not_false, if_true]
          split
          · exact .of_log_eq rfl rfl
          · exact .refl _
      | tooMany _ =>
          simp only [Bool.not_false, if_true]
          have habort := vAbortBootloaderSessionLocked_quiet j.btl
          split
          · exact habort.trans (.of_log_eq rfl rfl)
          · exact habort
  · exact writePacket_quiet env _ _ j

theorem bScheduleLostPacketTimeouts_quiet (env : Env) (b : Btl) :
    Quiet b (bScheduleLostPacketTimeouts env b) := by
  unfold bScheduleLostPacketTimeouts
  split
  · exact .of_log_eq rfl rfl
  · exact .refl b

theorem vProcessBootloaderTxError_quiet (b : Btl) : Quiet b (vProcessBootloaderTxError b) := by
  unfold vProcessBootloaderTxError
  split
  · exact (vAbortBootloaderSession_quiet _).prepend rfl rfl
  · exact .refl b

theorem vProcessBootloaderRetryTx_quiet (env : Env) (b : Btl) :
    Quiet b (vProcessBootloaderRetryTx env b) := by
  unfold vProcessBootloaderRetryTx
  split
  · exact .refl b
  split
  · exact vProcessBootloaderTxError_quiet b
  · exact (bScheduleLostPacketTimeouts_quiet env _).prependCall rfl rfl rfl

theorem vGetLostPacketInfo_quiet (env : Env) (j : Job) :
    Quiet j.btl (vGetLostPacketInfo env j).btl := by
  unfold vGetLostPacketInfo
  split
  · exact .refl _
  split
  · exact .refl _
  · exact (bScheduleLostPacketTimeouts_quiet env _).prependCall rfl rfl rfl

theorem vHandleLostPacketInfoTxResponse_quiet (env : Env) (eAck uiFrameSeq : UInt8) (b : Btl) :
    Quiet b (vHandleLostPacketInfoTxResponse env eAck uiFrameSeq b) := by
  unfold vHandleLostPacketInfoTxResponse
  repeat' split
  · exact .refl b
  · exact .refl b
  · exact .refl b
  · exact .refl b
  · exact .of_log_eq rfl rfl
  · exact (vProcessBootloaderRetryTx_quiet env _).prepend rfl rfl

/-- The controller that the read loop leaves behind. -/
def readResult : Except Btl (Bool × Btl) → Btl
  | .ok r => r.2
  | .error b => b

/-- The read loop, by its passes. -/
theorem readBack_quiet (env : Env) (fuel pass off n iretryCount : Nat) (b : Btl) :
    Quiet b (readResult (readBack env fuel pass off n iretryCount b)) := by
  induction fuel generalizing pass off n iretryCount b with
  | zero => exact .refl b
  | succ fuel ih =>
      unfold readBack
      split
      · exact .refl b
      unfold flashAreaRead
      cases hfa : b.flashArea with
      | none => exact .of_log_eq rfl rfl
      | some fa =>
          simp only
          generalize (if fa.fa_size < _ then EINVAL else env.read _) = ret
          split
          · split
            · exact .one rfl rfl rfl
            · exact (ih _ _ _ _ _).prependCall rfl rfl rfl
          · exact (ih _ _ _ _ _).prependCall rfl rfl rfl

theorem compareCRC_quiet {b b' : Btl} {e : BootloaderError} {r : Except Btl (Bool × Btl)}
    (hr : Quiet b (readResult r)) (h : compareCRC r = .ok (e, b')) : Quiet b b' := by
  unfold compareCRC at h
  split at h
  · cases h
  · cases h
    exact hr
  · cases h
    exact hr.trans (.of_log_eq rfl rfl)

/-- The check of the CRC after a loss. -/
theorem vValidate_quiet (env : Env) (b : Btl) {b' : Btl} {e : BootloaderError}
    (h : vValidateFWImgCRCFromFlashAtLostPacketState env b = .ok (e, b')) : Quiet b b' := by
  unfold vValidateFWImgCRCFromFlashAtLostPacketState at h
  by_cases ht : (!b.img.bLostPacketStateTriggered) = true
  · rw [if_pos ht] at h
    cases h
    exact .refl _
  rw [if_neg ht] at h
  by_cases hrec : b.img.uiRecoveredPacketCount < b.img.uiLostPacketCount
  · rw [if_pos hrec] at h
    cases h
    exact .refl _
  rw [if_neg hrec] at h
  exact compareCRC_quiet (readBack_quiet env _ _ _ _ _ b) h

/-! ## §3. The outcomes of an ack-requiring command. -/

/-- The transition that a command is for: where it starts and where it leads. -/
def ownTransition : BootloaderCommand → Option (BootloaderState × BootloaderState)
  | .fwUpReq => some (.idle, .fwImgWriteInProg)
  | .fwUpEnd => some (.fwImgWriteInProg, .reboot)
  | .fwUpStop => some (.fwImgWriteInProg, .error)
  | .recoverFromError => some (.error, .idle)
  | _ => none

/-- The command has caused its own transition. -/
def Caused (eCMD : BootloaderCommand) (b b' : Btl) : Prop :=
  ownTransition eCMD = some (b.mgmt.eBtlState, b'.mgmt.eBtlState)

instance (eCMD : BootloaderCommand) (b b' : Btl) : Decidable (Caused eCMD b b') :=
  inferInstanceAs (Decidable (_ = _))

/-- A transition leads somewhere else. -/
theorem ownTransition_ne {eCMD : BootloaderCommand} {s s' : BootloaderState}
    (h : ownTransition eCMD = some (s, s')) : s ≠ s' := by
  unfold ownTransition at h
  split at h
  all_goals cases h
  all_goals decide

/-- The image is verified: with the missing ids recorded, all its bytes have
been received and the CRC is that of the update request. -/
def ImageVerified (b : Btl) : Prop :=
  ∃ img, Records b.img (uiExpectedPacketCount b.mgmt.uiFWImgSize) img ∧
    Checked { b with img := img }

/-- What the transition of a command takes. -/
def Earned (env : Env) (b : Btl) (m : CtrlMsg) : Prop :=
  match m.eCMD with
  | .fwUpReq => 1 ≤ requestedSize m.uiaData ∧ requestedSize m.uiaData ≤ b.uiAvailableFlashSize ∧
      env.open_ = 0 ∧ env.erase = 0
  | .fwUpEnd => ImageVerified b ∧
      ∃ uiRetryCount < BOOTLOADER_MAX_REQUEST_UPGRADE_TURNs, env.upgrade uiRetryCount = 0
  | _ => True

/-- What the handling of an ack-requiring command leaves behind. -/
inductive Handled (env : Env) (j : Job) : Except Btl Job → Prop
  | rejected {b : Btl} (e : BootloaderError) (he : e ≠ .none) (hs : Quiet j.btl b)
      (hc : ¬ Caused j.msg.eCMD j.btl b) :
      Handled env j (.ok { btl := b, msg := { j.msg with bIsMsgOk := false, eErrorCode := e } })
  | performed {b : Btl} (hs : Silent j.btl b) (hc : Caused j.msg.eCMD j.btl b)
      (hearned : Earned env j.btl j.msg) :
      Handled env j (.ok { btl := b, msg := { j.msg with bIsMsgOk := true, eErrorCode := .none } })

/-- A rejection that changes nothing. -/
theorem Handled.unchanged (env : Env) (j : Job) {e : BootloaderError} (he : e ≠ .none) :
    Handled env j (.ok (vSetBootloaderMsgStatus j false e)) :=
  .rejected e he (.refl _) fun h => ownTransition_ne h rfl

/-- A rejected end of the image: the state that follows is not the reboot. -/
theorem Handled.endRejected {env : Env} {j : Job} {b : Btl} {e : BootloaderError} (he : e ≠ .none)
    (hcmd : j.msg.eCMD = .fwUpEnd) (hst : j.btl.mgmt.eBtlState = .fwImgWriteInProg)
    (hs : Quiet j.btl b) :
    Handled env j (.ok { btl := b, msg := { j.msg with bIsMsgOk := false, eErrorCode := e } }) := by
  refine .rejected e he hs ?_
  intro hc
  rw [Caused, hcmd, hst] at hc
  rcases hs.state with h | h
  · rw [h, hst] at hc
    cases hc
  · rw [h] at hc
    cases hc

/-- The session given up at the end of the image, from any state on the way. -/
theorem Handled.endAborted {env : Env} {j : Job} {b : Btl} {e : BootloaderError} (he : e ≠ .none)
    (hcmd : j.msg.eCMD = .fwUpEnd) (hst : j.btl.mgmt.eBtlState = .fwImgWriteInProg)
    (hs : Silent j.btl b) : Handled env j (.ok (rejectAndAbort { j with btl := b } e)) :=
  .endRejected he hcmd hst
    ⟨hs.trans (vAbortBootloaderSession_quiet b).silent, .inr rfl⟩

/-- A rejection in the idle state stays there. -/
theorem Handled.idle {env : Env} {j : Job} {b : Btl} {e : BootloaderError} (he : e ≠ .none)
    (hs : Silent j.btl b) (hst : b.mgmt.eBtlState = j.btl.mgmt.eBtlState) :
    Handled env j (.ok { btl := b, msg := { j.msg with bIsMsgOk := false, eErrorCode := e } }) := by
  refine .rejected e he ⟨hs, .inl hst⟩ ?_
  intro hc
  rw [Caused, hst] at hc
  exact ownTransition_ne hc rfl

/-- An update request in the idle state. -/
theorem vInitBootloaderManager_handled (env : Env) {j : Job}
    (hst : j.btl.mgmt.eBtlState = .idle) (hcmd : j.msg.eCMD = .fwUpReq) :
    Handled env j (.ok (vInitBootloaderManagerForNewFWImage env j)) := by
  unfold vInitBootloaderManagerForNewFWImage
  simp only
  by_cases hzero : requestedSize j.msg.uiaData = 0
  · rw [if_pos hzero]
    exact .idle (by decide) (.of_log_eq rfl) rfl
  rw [if_neg hzero]
  by_cases hsmall : j.btl.mgmt.uiFlashAreaSize ≤ FW_IMAGE_SECONDARY_SLOT_WRITE_OFFSET
  · rw [if_pos hsmall]
    exact .idle (by decide) (.of_log_eq rfl) rfl
  rw [if_neg hsmall]
  by_cases hlarge : requestedSize j.msg.uiaData
      > j.btl.mgmt.uiFlashAreaSize - FW_IMAGE_SECONDARY_SLOT_WRITE_OFFSET
  · rw [if_pos hlarge]
    exact .idle (by decide) (.of_log_eq rfl) rfl
  rw [if_neg hlarge]
  generalize hj₁ : ({ j with btl := { j.btl with
    mgmt := { j.btl.mgmt with
      uiFWImgSize := requestedSize j.msg.uiaData
      uiHWRev := (j.msg.uiaData.getD 3 0).toNat
      uiLibRev := be16 j.msg.uiaData 4
      uiFWRev := be16 j.msg.uiaData 6
      uiCRC := UInt16.ofNat (be16 j.msg.uiaData 8) }
    img := FWImgCtrl.cleared } } : Job) = j₁
  have herase := vEraseFlashArea_outcome env j₁
  generalize vEraseFlashArea env j₁ = j₂ at herase ⊢
  subst hj₁
  cases herase with
  | openFailed hopen =>
      simp only [vSetBootloaderMsgStatus, Bool.not_false, if_true]
      exact .idle (by decide) (.one rfl rfl) rfl
  | eraseFailed herase =>
      simp only [vSetBootloaderMsgStatus, Bool.not_false, if_true]
      exact .idle (by decide)
        (.of_calls [.flashClose, .flashErase env.erase, .flashOpen 0] rfl
          (by simp [Obs.response?])) rfl
  | erased hopen herase =>
      simp only [vSetBootloaderMsgStatus, Bool.not_true, Bool.false_eq_true, if_false]
      refine .performed ?_ ?_ ?_
      · exact .of_calls [.sessionStarted _, .flashClose, .flashErase 0, .flashOpen 0]
          rfl (by simp [Obs.response?])
      · rw [Caused, hcmd, hst]
        rfl
      · unfold Earned Btl.uiAvailableFlashSize
        rw [hcmd]
        exact ⟨Nat.pos_of_ne_zero hzero, Nat.not_lt.mp hlarge, hopen, herase⟩

theorem vExecuteBootloaderIdleState_handled (env : Env) {j : Job}
    (hst : j.btl.mgmt.eBtlState = .idle) (hcmd : j.msg.eCMD ≠ .none) :
    Handled env j (.ok (vExecuteBootloaderIdleState env j)) := by
  unfold vExecuteBootloaderIdleState
  split
  · exact .unchanged env j (by decide)
  split
  · exact .unchanged env j (by decide)
  split
  · exact .unchanged env j (by decide)
  simp only
  split
  · next hnone => exact absurd hnone hcmd
  · next hreq =>
      -- the flag of the first entry is cleared before the request is looked at
      have hinit := vInitBootloaderManager_handled env
        (j := { j with btl := (bIsFirstEntry j.btl).2 }) hst hreq
      generalize vInitBootloaderManagerForNewFWImage env { j with btl := (bIsFirstEntry j.btl).2 }
        = j₁ at hinit ⊢
      cases hinit with
      | rejected e he hs hc => exact .rejected e he (hs.prepend rfl rfl) hc
      | performed hs hc hearned =>
          refine .performed hs hc ?_
          unfold Earned at hearned ⊢
          simp only [hreq] at hearned ⊢
          exact hearned
  · exact .idle (by decide) (.of_log_eq rfl) rfl

/-- A command in the error state. -/
theorem vExecuteBootloaderErrorState_handled (env : Env) {j : Job}
    (hst : j.btl.mgmt.eBtlState = .error) :
    Handled env j (.ok (vExecuteBootloaderErrorState j)) := by
  unfold vExecuteBootloaderErrorState
  simp only
  split
  · next hcmd =>
      have hreset : Silent j.btl (resetSession .idle true (bIsFirstEntry j.btl).2) :=
        resetSession_silent .idle true (bIsFirstEntry j.btl).2
      refine .performed (hreset.trans (.of_log_eq rfl)) ?_ ?_
      · rw [Caused, hcmd, hst]
        rfl
      · unfold Earned
        rw [hcmd]
        trivial
  · exact .idle (by decide) (.of_log_eq rfl) rfl

/-! ## §4. The end of the image. -/

/-- The tries of the upgrade request: the result tells whether one of them has
succeeded. -/
theorem requestUpgradeLoop_success (env : Env) (left uiRetryCount : Nat) (b : Btl)
    (h : (requestUpgradeLoop env left uiRetryCount b).1 = true) :
    ∃ k < uiRetryCount + left, env.upgrade k = 0 := by
  induction left generalizing uiRetryCount b with
  | zero => cases h
  | succ left ih =>
      unfold requestUpgradeLoop at h
      simp only at h
      by_cases hret : env.upgrade uiRetryCount = 0
      · exact ⟨uiRetryCount, by omega, hret⟩
      · rw [if_neg hret] at h
        obtain ⟨k, hk, hok⟩ := ih _ _ h
        exact ⟨k, by omega, hok⟩

theorem markCompleted_handled (env : Env) {j : Job} {b : Btl} (hcmd : j.msg.eCMD = .fwUpEnd)
    (hst : j.btl.mgmt.eBtlState = .fwImgWriteInProg) (hs : Silent j.btl b)
    (hv : ImageVerified j.btl) : Handled env j (.ok (markCompleted env { j with btl := b })) := by
  rw [markCompleted_eq env (j := { j with btl := b }) hcmd]
  have hcompleted : Silent j.btl b.completed :=
    (hs.trans (.of_log_eq rfl)).trans (flashAreaCloseIfOpen_quiet _).silent
  unfold vRequestMCUbootImageUpgrade
  obtain ⟨tries, htries, hreq⟩ :=
    requestUpgradeLoop_spec env BOOTLOADER_MAX_REQUEST_UPGRADE_TURNs 0 b.completed
  have hok := requestUpgradeLoop_success env BOOTLOADER_MAX_REQUEST_UPGRADE_TURNs 0 b.completed
  generalize requestUpgradeLoop env BOOTLOADER_MAX_REQUEST_UPGRADE_TURNs 0 b.completed = r
    at htries hok ⊢
  obtain ⟨bRequested, b₂⟩ := r
  simp only at htries hok ⊢
  have htried : Silent j.btl b₂ := by
    rw [htries]
    refine hcompleted.trans (.of_calls tries rfl ?_)
    intro o ho
    obtain ⟨ret, rfl⟩ := hreq o ho
    rfl
  cases bRequested with
  | false =>
      simp only [Bool.not_false, if_true]
      exact .endAborted (by decide) hcmd hst htried
  | true =>
      simp only [Bool.not_true, Bool.false_eq_true, if_false]
      refine .performed (htried.trans (.of_log_eq rfl)) ?_ ?_
      · rw [Caused, hcmd, hst]
        rfl
      · unfold Earned
        rw [hcmd]
        obtain ⟨k, hk, hup⟩ := hok rfl
        exact ⟨hv, k, by omega, hup⟩

/-- Bytes are counted through the open handle only. -/
def CountsWhenOpen (b : Btl) : Prop :=
  b.mgmt.eBtlState = .fwImgWriteInProg → b.flashArea = none → b.img.uiReceivedByteCount = 0

/-- The checks of the image, with the missing ids recorded. -/
theorem checkImage_handled (env : Env) {j : Job} {img : FWImgCtrl} (hcmd : j.msg.eCMD = .fwUpEnd)
    (hst : j.btl.mgmt.eBtlState = .fwImgWriteInProg) (hsize : 0 < j.btl.mgmt.uiFWImgSize)
    (hrec : Records j.btl.img (uiExpectedPacketCount j.btl.mgmt.uiFWImgSize) img)
    (hopen : j.btl.flashArea = none → img.uiReceivedByteCount = 0) :
    Handled env j (checkImage env { j with btl := { j.btl with img := img } }) := by
  have himg : Silent j.btl { j.btl with img := img } := .of_log_eq rfl
  unfold checkImage
  simp only
  by_cases ht : img.bLostPacketStateTriggered = true
  · rw [if_pos ht]
    by_cases hp : uiGetPendingLostPacketCount img > 0
    · rw [if_pos hp]
      exact .endRejected (by decide) hcmd hst (.of_log_eq rfl rfl)
    rw [if_neg hp]
    by_cases hrecv : img.uiReceivedByteCount ≠ j.btl.mgmt.uiFWImgSize
    · rw [if_pos hrecv]
      exact .endAborted (by decide) hcmd hst himg
    rw [if_neg hrecv]
    have hv := vValidate_outcome env { j.btl with img := img } ht
    have hquiet : ∀ e b', vValidateFWImgCRCFromFlashAtLostPacketState env { j.btl with img := img }
        = .ok (e, b') → Silent { j.btl with img := img } b' :=
      fun e b' h => (vValidate_quiet env { j.btl with img := img } h).silent
    generalize vValidateFWImgCRCFromFlashAtLostPacketState env { j.btl with img := img } = r
      at hv hquiet ⊢
    cases hv with
    | @rejected b' e he h why =>
        simp only [if_pos he]
        exact .endAborted he hcmd hst (himg.trans (hquiet e b' rfl))
    | @accepted b' h hflash hcrc hrange =>
        simp only [ne_eq, not_true_eq_false, if_false]
        refine markCompleted_handled env hcmd hst (himg.trans (hquiet .none b' rfl)) ?_
        exact ⟨img, hrec, not_not.mp hrecv, hcrc, fun _ => hrange⟩
    | stopped h why =>
        -- the received bytes have been written through an open handle
        have := hopen why
        have := not_not.mp hrecv
        omega
  · rw [if_neg ht]
    by_cases hrecv : img.uiReceivedByteCount ≠ j.btl.mgmt.uiFWImgSize
    · rw [if_pos hrecv]
      exact .endAborted (by decide) hcmd hst himg
    rw [if_neg hrecv]
    by_cases hcrc : img.uiRunningCRC ≠ j.btl.mgmt.uiCRC
    · rw [if_pos hcrc]
      exact .endAborted (by decide) hcmd hst himg
    · rw [if_neg hcrc]
      refine markCompleted_handled env hcmd hst himg ?_
      refine ⟨img, hrec, not_not.mp hrecv, ?_, fun h => absurd h ht⟩
      unfold Btl.finalCRC
      rw [if_neg ht]
      exact not_not.mp hcrc

theorem vFinalizeFWImageWrite_handled (env : Env) {j : Job} (hcmd : j.msg.eCMD = .fwUpEnd)
    (hst : j.btl.mgmt.eBtlState = .fwImgWriteInProg) (hsize : 0 < j.btl.mgmt.uiFWImgSize)
    (hopen : CountsWhenOpen j.btl) : Handled env j (vFinalizeFWImageWrite env j) := by
  unfold vFinalizeFWImageWrite
  simp only [hst, ne_eq, not_true_eq_false, if_false]
  by_cases hmax : uiExpectedPacketCount j.btl.mgmt.uiFWImgSize > UINT16_MAX
  · rw [if_pos hmax]
    exact .endAborted (by decide) hcmd hst (.refl _)
  rw [if_neg hmax]
  by_cases hnext : j.btl.img.uiNextId < uiExpectedPacketCount j.btl.mgmt.uiFWImgSize
  · rw [if_pos hnext]
    rcases bCanHandleMissingPackets_cases j hnext with ⟨hcount, heq⟩ | ⟨hmany, heq⟩
    · simp only [heq, Bool.not_true, Bool.false_eq_true, if_false]
      exact checkImage_handled env hcmd hst hsize (.gap hnext hcount) (hopen hst)
    · simp only [heq, Bool.not_false, if_true]
      exact .endAborted (by decide) hcmd hst (.refl _)
  · rw [if_neg hnext]
    exact checkImage_handled env hcmd hst hsize (.none (Nat.not_lt.mp hnext)) (hopen hst)

/-- A command in a session that is neither a packet nor a query. -/
theorem vExecuteBootloaderFWImgWriteState_handled (env : Env) {j : Job}
    (hinit : j.btl.mgmt.bIsInitialized = true)
    (hst : j.btl.mgmt.eBtlState = .fwImgWriteInProg) (hsize : 0 < j.btl.mgmt.uiFWImgSize)
    (hopen : CountsWhenOpen j.btl)
    (hcmd : j.msg.eCMD ≠ .fwUpMsg ∧ j.msg.eCMD ≠ .getLostPacketInfo) :
    Handled env j (vExecuteBootloaderFWImgWriteState env j) := by
  unfold vExecuteBootloaderFWImgWriteState
  simp only [hinit, Bool.not_true, Bool.false_eq_true, if_false]
  split
  · next hstop =>
      refine .performed (vAbortBootloaderSession_quiet j.btl).silent ?_ ?_
      · rw [Caused, hstop, hst]
        rfl
      · unfold Earned
        rw [hstop]
        trivial
  · next hend => exact vFinalizeFWImageWrite_handled env hend hst hsize hopen
  · next hmsg => exact absurd hmsg hcmd.1
  · next hget => exact absurd hget hcmd.2
  · exact .unchanged env j (by decide)

/-! ## §5. Bytes are counted through the open handle only. -/

/-- The session has been given up, or its count stands. -/
def CountStands (b b' : Btl) : Prop :=
  b'.mgmt.eBtlState ≠ .fwImgWriteInProg ∨
    b'.img.uiReceivedByteCount = b.img.uiReceivedByteCount

theorem rejectAndAbort_countStands (b : Btl) (j : Job) (e : BootloaderError) :
    CountStands b (rejectAndAbort j e).btl :=
  .inl (rejectAndAbort_ended j e).state.1

/-- With the handle closed the loop is left at its first block. -/
theorem writeBlocks_closed {env : Env} {id : Nat} {blocks : List Nat} {j j' : Job} {b : Bool}
    (hfa : j.btl.flashArea = none) (h : writeBlocks env id blocks j = .ok (b, j')) :
    CountStands j.btl j'.btl := by
  unfold writeBlocks at h
  split at h
  · cases h
    exact .inr rfl
  simp only [flashAreaWrite, hfa] at h
  split at h
  · cases h
    exact rejectAndAbort_countStands _ _ _
  split at h
  · cases h
    exact .inr rfl
  split at h
  · cases h
    exact rejectAndAbort_countStands _ _ _
  · cases h

theorem writePacket_closed {env : Env} {id : Nat} {j j' : Job} (hfa : j.btl.flashArea = none)
    (h : writePacket env id false j = .ok j') : CountStands j.btl j'.btl := by
  unfold writePacket at h
  simp only [Bool.false_eq_true, if_false, false_and] at h
  generalize hj₁ : ({ j with btl := { j.btl with img := _ } } : Job) = j₁ at h
  have hcount : j₁.btl.img.uiReceivedByteCount = j.btl.img.uiReceivedByteCount := by rw [← hj₁]
  have hfa₁ : j₁.btl.flashArea = none := by rw [← hj₁]; exact hfa
  cases hr : writeBlocks env id blockIndexes j₁ with
  | error b =>
      rw [hr] at h
      cases h
  | ok r =>
      obtain ⟨bDone, j₂⟩ := r
      have hst := writeBlocks_closed hfa₁ hr
      unfold CountStands at hst ⊢
      rw [hcount] at hst
      rw [hr] at h
      cases bDone with
      | false =>
          cases h
          exact hst
      | true =>
          cases h
          refine hst.imp (fun hne => hne) fun hcount₂ => ?_
          show (vHandleLostPacketRecovery id j₂.btl.img.written).uiReceivedByteCount = _
          rw [(vHandleLostPacketRecovery_bytes id j₂.btl.img.written).1]
          exact hcount₂

/-- A packet that finds the handle closed, and is not the first one. -/
theorem vUpdateFWImage_closed (env : Env) {j : Job} (j' : Job) (hfa : j.btl.flashArea = none)
    (hu : ¬ j.btl.img.untouched) (h : vUpdateFWImage env j = .ok j') :
    CountStands j.btl j'.btl := by
  unfold vUpdateFWImage at h
  rw [show decide (j.btl.img.uiLastId = 0 ∧ j.btl.img.uiNextId = 0) = false from
    decide_eq_false hu] at h
  split at h
  · cases h
    exact .inr rfl
  simp only at h
  split at h
  · cases h
    exact .inr rfl
  split at h
  · cases h
    exact .inr rfl
  split at h
  · cases h
    exact rejectAndAbort_countStands _ _ _
  split at h
  · next hid =>
      have hm := vHandlePacketIdMismatch_outcome j hid
      generalize vHandlePacketIdMismatch j (packetId j.msg.uiaData) = r at hm h
      cases hm with
      | @admitted img hadm =>
          simp only [Bool.not_true, Bool.false_eq_true, if_false] at h
          have hst := writePacket_closed (j := { j with btl := { j.btl with img := img } }) hfa h
          unfold CountStands at hst ⊢
          simp only [hadm.unchanged.1] at hst
          exact hst
      | refused _ =>
          simp only [Bool.not_false, if_true] at h
          split at h <;> cases h <;> exact .inr rfl
      | tooMany _ =>
          have hend := (vAbortBootloaderSessionLocked_ended j.btl).state.1
          simp only [Bool.not_false, if_true] at h
          split at h <;> cases h <;> exact .inl hend
  · exact writePacket_closed hfa h

theorem CountsWhenOpen.kept {b b' : Btl} (hc : CountsWhenOpen b) (h : Kept b b') :
    CountsWhenOpen b' := by
  unfold CountsWhenOpen
  rw [h.work.mgmt, h.flashArea, h.img]
  exact hc

theorem EndedBy.countsWhenOpen {P : Obs → Prop} {b b' : Btl} (h : EndedBy P b b') :
    CountsWhenOpen b' :=
  fun hst => absurd hst h.state.1

/-- Outside of a session. -/
theorem CountsWhenOpen.outside {env : Env} {ends : Prop} {mark : Obs → Prop} {b b' : Btl}
    (hc : CountsWhenOpen b)
    (hst : b.mgmt.eBtlState ≠ .fwImgWriteInProg) (h : Transition env ends mark b b')
    (hrun : b'.halted = none) : CountsWhenOpen b' := by
  cases h with
  | kept h => exact hc.kept h
  | ended h => exact h.countsWhenOpen
  | started h =>
      intro _ _
      rw [h.img]
      rfl
  | accepted hstate => exact absurd hstate hst
  | missing _ hstate => exact absurd hstate hst
  | completed _ hstate => exact absurd hstate hst
  | nullHandle _ hstate => exact absurd hstate hst
  | rebooted _ _ _ _ hh =>
      rw [hh] at hrun
      cases hrun

/-- A packet in a session. -/
theorem CountsWhenOpen.packet {env : Env} {slot : FlashArea} {j : Job} (hb : Base slot j.btl)
    (hst : j.btl.mgmt.eBtlState = .fwImgWriteInProg) (hc : CountsWhenOpen j.btl)
    (hrun : (handlerResult (vUpdateFWImage env j)).halted = none) :
    CountsWhenOpen (handlerResult (vUpdateFWImage env j)) := by
  have hout := vUpdateFWImage_outcome env j hst (hb.idle hst) (hb.room hst) hb.first
  have hclosed := fun j' => vUpdateFWImage_closed env (j := j) j'
  generalize vUpdateFWImage env j = r at hout hrun hclosed ⊢
  cases hout with
  | refused e why => exact hc
  | gaveUp e h why => exact (rejectAndAbort_ended _ e).countsWhenOpen
  | stopped h why htouched => cases hrun
  | @accepted img b hlen hadm hopen hin h hs =>
      intro _ hfa'
      have hfa₁ : (j.btl.beginPacket env (packetId j.msg.uiaData) img).flashArea = none := by
        rw [← h.flashArea]
        exact hfa'
      unfold Btl.beginPacket flashAreaOpen at hfa₁
      by_cases hu : j.btl.img.untouched
      · -- the first packet has opened the handle
        rw [if_pos hu, if_pos (hopen hu)] at hfa₁
        cases hfa₁
      · rw [if_neg hu] at hfa₁
        rcases hclosed _ hfa₁ hu rfl with hne | hcount
        · refine absurd ?_ hne
          show b.mgmt.eBtlState = _
          rw [h.work.mgmt, beginPacket_mgmt]
          exact hst
        · exact hcount.trans (hc hst hfa₁)

/-- The end of the image in a session. -/
theorem CountsWhenOpen.finish {env : Env} {j : Job} {r : Except Btl Job}
    (hst : j.btl.mgmt.eBtlState = .fwImgWriteInProg) (hc : CountsWhenOpen j.btl)
    (hcmd : j.msg.eCMD = .fwUpEnd) (h : FinishOutcome env j r)
    (hrun : (handlerResult r).halted = none) : CountsWhenOpen (handlerResult r) := by
  cases h with
  | tooLarge _ => exact (rejectAndAbort_ended j _).countsWhenOpen
  | tooMany _ => exact (rejectAndAbort_ended j _).countsWhenOpen
  | @checked img r hmax hrec h =>
      cases h with
      | pending hp =>
          intro _ hfa
          show img.uiReceivedByteCount = 0
          have hcount := hc hst hfa
          cases hrec with
          | none _ => exact hcount
          | gap _ _ => exact hcount
      | gaveUp e h hp why => exact (rejectAndAbort_ended _ e).countsWhenOpen
      | stopped h why hp => cases hrun
      | @completed b h hflash hchecked =>
          exact (markCompleted_ended env (j := { j with btl := b }) hcmd).countsWhenOpen

/-- A command in any state. -/
theorem CountsWhenOpen.update {env : Env} {slot : FlashArea} {j : Job} (hb : Base slot j.btl)
    (hc : CountsWhenOpen j.btl) (hrun : (handlerResult (vUpdateBootloader env j)).halted = none) :
    CountsWhenOpen (handlerResult (vUpdateBootloader env j)) := by
  by_cases hst : j.btl.mgmt.eBtlState = .fwImgWriteInProg
  · unfold vUpdateBootloader vExecuteBootloaderFWImgWriteState at hrun ⊢
    simp only [hst, hb.initialized hst, Bool.not_true, Bool.false_eq_true, if_false] at hrun ⊢
    cases hcmd : j.msg.eCMD with
    | fwUpStop => exact (vAbortBootloaderSession_ended _).countsWhenOpen
    | fwUpEnd =>
        simp only [hcmd] at hrun ⊢
        exact hc.finish hst hcmd (vFinalizeFWImageWrite_outcome env j hst) hrun
    | fwUpMsg =>
        simp only [hcmd] at hrun ⊢
        exact hc.packet hb hst hrun
    | getLostPacketInfo => exact hc.kept (vGetLostPacketInfo_kept env j)
    | _ => exact hc
  · exact hc.outside hst (vUpdateBootloader_transition env hb) hrun

theorem TxStep.countsWhenOpen {b b' : Btl} (hc : CountsWhenOpen b) (h : TxStep b b') :
    CountsWhenOpen b' := by
  rcases h with h | h
  · exact hc.kept h
  · exact h.countsWhenOpen

/-- The state timer stops the machine by the reboot. -/
theorem stateTimeOut_stopped {env : Env} {b b' : Btl}
    (h : vBtlStateTimeOutHandler env b = .error b') : b'.halted = some .sysReboot := by
  unfold vBtlStateTimeOutHandler at h
  split at h
  · cases h
  simp only at h
  split at h
  · cases h
  split at h
  · cases h
    rfl
  · cases h

theorem CountsWhenOpen.stateTimeOut (env : Env) {b b' : Btl} (hc : CountsWhenOpen b)
    (h : vBtlStateTimeOutHandler env b = .ok b') : CountsWhenOpen b' := by
  unfold vBtlStateTimeOutHandler at h
  split at h
  · cases h
    exact hc
  simp only at h
  split at h
  · cases h
    exact hc.kept (.of_tx_timers b b.tx _)
  split at h
  · cases h
  · cases h
    have hend := vAbortBootloaderSessionLocked_ended (vInvalidateBootloaderStateTimeOutLocked b)
    exact fun hst => absurd hst hend.state.1

/-- One step. -/
theorem CountsWhenOpen.step {slot : FlashArea} {b : Btl} (hb : Base slot b)
    (hc : CountsWhenOpen b) (hrun : b.halted = none) (a : Event × Env)
    (hrun' : (step b a).halted = none) : CountsWhenOpen (step b a) := by
  obtain ⟨e, env⟩ := a
  unfold Bootloader.step at hrun' ⊢
  rw [hrun] at hrun' ⊢
  simp only [Option.isSome_none, Bool.false_eq_true, if_false] at hrun' ⊢
  unfold stepEvent at hrun' ⊢
  cases e with
  | frame f =>
      simp only [vHandleBootloaderMessages] at hrun' ⊢
      split at hrun'
      · next hbad =>
          rw [if_pos hbad]
          exact hc.kept (vCANSendBtlACKNACK_kept _ b)
      next hok =>
      rw [if_neg hok]
      have hk := vProcessBootloaderMessages_kept env
        { btl := b, msg := vFormatBootloaderMsg b.mgmt.bIsInitialized f }
      rw [hk.work.halted] at hrun'
      refine CountsWhenOpen.kept ?_ hk
      unfold dispatchMessage at hrun' ⊢
      split at hrun'
      all_goals first
        | exact hc.update hb hrun'
        | exact (vHandleHostAcknowledgements_step env { btl := b, msg := _ }).countsWhenOpen hc
        | exact hc
  | stateTimeOut =>
      simp only at hrun' ⊢
      have hc₀ : CountsWhenOpen
          { b with timers := { b.timers with stBtlStateTimeOutWork := none } } := hc.kept (.of_tx_timers b b.tx _)
      cases hr : vBtlStateTimeOutHandler env
          { b with timers := { b.timers with stBtlStateTimeOutWork := none } } with
      | ok b' => exact hc₀.stateTimeOut env hr
      | error b' =>
          rw [hr] at hrun'
          rw [stateTimeOut_stopped hr] at hrun'
          cases hrun'
  | txTimeOut =>
      exact (vBtlTxTimeOutHandler_step env _).countsWhenOpen
        (hc.kept (.of_tx_timers b b.tx _))

/-! ## §6. The answer to a frame. -/

/-- The frame carries one of the commands that are not answered, with its
whole payload. -/
def Unanswered (f : CanFrame) : Prop :=
  ∃ eCMD n, (eCMD = .fwUpMsg ∨ eCMD = .getLostPacketInfo ∨ eCMD = .retLostPacketInfo) ∧
    BootloaderCommand.ofByte (f.data.getD 0 0) = eCMD ∧
    bGetBootloaderExpectedPayloadLen eCMD = some n ∧ n + 1 ≤ canDlcToBytes f.dlc

/-- What `vFormat_Bootloader_Msg` makes of a frame: a rejection, a command
that requires an answer, or one that is not answered. -/
inductive Formatted (bIsInitialized : Bool) (f : CanFrame) : CtrlMsg → Prop
  | rejected {m : CtrlMsg} (hok : m.bIsMsgOk = false) (he : m.eErrorCode ≠ .none)
      (why : bIsInitialized = true → ¬ Unanswered f) : Formatted bIsInitialized f m
  | required {m : CtrlMsg} (hinit : bIsInitialized = true) (hok : m.bIsMsgOk = true)
      (hack : m.bIsACKReq = true)
      (hcmd : m.eCMD = .fwUpReq ∨ m.eCMD = .fwUpEnd ∨ m.eCMD = .fwUpPause ∨ m.eCMD = .fwUpStop ∨
        m.eCMD = .recoverFromError)
      (hun : ¬ Unanswered f) : Formatted bIsInitialized f m
  | quiet {m : CtrlMsg} (hinit : bIsInitialized = true) (hok : m.bIsMsgOk = true)
      (hack : m.bIsACKReq = false)
      (hcmd : m.eCMD = .fwUpMsg ∨ m.eCMD = .getLostPacketInfo ∨ m.eCMD = .retLostPacketInfo)
      (hun : Unanswered f) : Formatted bIsInitialized f m

theorem vFormatBootloaderMsg_formatted (bIsInitialized : Bool) (f : CanFrame) :
    Formatted bIsInitialized f (vFormatBootloaderMsg bIsInitialized f) := by
  unfold vFormatBootloaderMsg
  cases bIsInitialized with
  | false => exact .rejected rfl (by simp) (fun h => by cases h)
  | true =>
      simp only [Bool.not_true, Bool.false_eq_true, if_false]
      -- the checks of the frame, in the order of the source
      by_cases hlen : canDlcToBytes f.dlc < 1
      · rw [if_pos hlen]
        refine .rejected rfl (by simp) fun _ => ?_
        rintro ⟨_, n, -, -, -, hn⟩
        omega
      rw [if_neg hlen]
      by_cases hrange : f.data.getD 0 0 < BootloaderCommand.fwUpReq.toByte ∨ f.data.getD 0 0 ≥ 35
      · rw [if_pos hrange]
        refine .rejected rfl (by simp) fun _ => ?_
        rintro ⟨eCMD, n, hcmd, hbyte, -, -⟩
        rw [← BootloaderCommand.toByte_ofByte (f.data.getD 0 0), hbyte] at hrange
        rcases hcmd with rfl | rfl | rfl <;> exact absurd hrange (by decide)
      rw [if_neg hrange]
      cases hexp : bGetBootloaderExpectedPayloadLen (.ofByte (f.data.getD 0 0)) with
      | none =>
          refine .rejected rfl (by simp) fun _ => ?_
          rintro ⟨eCMD, n, -, rfl, hn, -⟩
          rw [hexp] at hn
          cases hn
      | some uiExpectedPayloadLen =>
          simp only
          by_cases hshort : canDlcToBytes f.dlc - 1 < uiExpectedPayloadLen
          · rw [if_pos hshort]
            refine .rejected rfl (by simp) fun _ => ?_
            rintro ⟨eCMD, n, -, rfl, hn, hle⟩
            rw [hexp] at hn
            cases hn
            omega
          rw [if_neg hshort]
          unfold vUpdateBtlMsgACKRequirement
          simp only
          -- which commands are answered depends on the command byte alone
          have hun : ∀ c, BootloaderCommand.ofByte (f.data.getD 0 0) = c →
              ¬ (c = .fwUpMsg ∨ c = .getLostPacketInfo ∨ c = .retLostPacketInfo) →
              ¬ Unanswered f := by
            rintro c rfl hnot ⟨eCMD, n, hcmd, rfl, -⟩
            exact hnot hcmd
          have hfull : ∀ c, BootloaderCommand.ofByte (f.data.getD 0 0) = c →
              c = .fwUpMsg ∨ c = .getLostPacketInfo ∨ c = .retLostPacketInfo → Unanswered f := by
            rintro c rfl hc
            exact ⟨_, uiExpectedPayloadLen, hc, rfl, hexp, by omega⟩
          cases hcmd : BootloaderCommand.ofByte (f.data.getD 0 0) with
          | fwUpReq => exact .required rfl rfl rfl (by simp) (hun _ hcmd (by simp))
          | fwUpEnd => exact .required rfl rfl rfl (by simp) (hun _ hcmd (by simp))
          | fwUpPause => exact .required rfl rfl rfl (by simp) (hun _ hcmd (by simp))
          | fwUpStop => exact .required rfl rfl rfl (by simp) (hun _ hcmd (by simp))
          | recoverFromError => exact .required rfl rfl rfl (by simp) (hun _ hcmd (by simp))
          | fwUpMsg => exact .quiet rfl rfl rfl (by simp) (hfull _ hcmd (by simp))
          | getLostPacketInfo => exact .quiet rfl rfl rfl (by simp) (hfull _ hcmd (by simp))
          | retLostPacketInfo => exact .quiet rfl rfl rfl (by simp) (hfull _ hcmd (by simp))
          | _ =>
              rw [hcmd] at hexp
              cases hexp

/-- The states of an initialized controller between two events. -/
def Active (b : Btl) : Prop :=
  b.mgmt.eBtlState = .idle ∨ b.mgmt.eBtlState = .fwImgWriteInProg ∨
    b.mgmt.eBtlState = .reboot ∨ b.mgmt.eBtlState = .error

/-- The answer to frame `f`, handled between `b` and `b'`. -/
inductive Answer (env : Env) (f : CanFrame) (b b' : Btl) : Prop
  | nack (r : Response) (hr : b'.responses = r :: b.responses) (hok : r.bIsMsgOk = false)
      (he : r.eErrorCode ≠ .none)
      (hst : b'.mgmt.eBtlState = b.mgmt.eBtlState ∨ b'.mgmt.eBtlState = .error)
      (hc : ¬ Caused (vFormatBootloaderMsg b.mgmt.bIsInitialized f).eCMD b b')
      (hun : b.mgmt.bIsInitialized = true → ¬ Unanswered f)
  | ack (r : Response) (hr : b'.responses = r :: b.responses) (hok : r.bIsMsgOk = true)
      (hc : Caused (vFormatBootloaderMsg b.mgmt.bIsInitialized f).eCMD b b')
      (hearned : Earned env b (vFormatBootloaderMsg b.mgmt.bIsInitialized f))
      (hun : ¬ Unanswered f)
  | quiet (h : Quiet b b')
      (hc : ¬ Caused (vFormatBootloaderMsg b.mgmt.bIsInitialized f).eCMD b b')
      (why : b.mgmt.bIsInitialized = true ∧
        (Unanswered f ∨ b.mgmt.eBtlState = .reboot))

/-- No transition of a command starts at the reboot. -/
theorem not_caused_of_reboot {eCMD : BootloaderCommand} {b b' : Btl}
    (h : b.mgmt.eBtlState = .reboot) : ¬ Caused eCMD b b' := by
  intro hc
  rw [Caused, h] at hc
  unfold ownTransition at hc
  split at hc <;> cases hc

/-- The answer to a command that has been handled. -/
theorem Handled.answered {env : Env} {f : CanFrame} {b : Btl} {m : CtrlMsg} {r : Except Btl Job}
    (hm : m = vFormatBootloaderMsg b.mgmt.bIsInitialized f) (hack : m.bIsACKReq = true)
    (hun : ¬ Unanswered f) :
    Handled env { btl := b, msg := m } r → Answer env f b (match r with
      | .error b' => b'
      | .ok j => if j.msg.bIsACKReq then vCANSendBtlACKNACK j.msg j.btl else j.btl) := by
  intro h
  cases h with
  | @rejected b' e he hs hc =>
      simp only [hack, if_true]
      refine .nack { eCMD := m.eCMD, bIsMsgOk := false, eErrorCode := e } ?_ rfl he hs.state ?_
        (fun _ => hun)
      · exact congrArg _ hs.silent
      · rw [← hm]
        exact hc
  | @performed b' hs hc hearned =>
      simp only [hack, if_true]
      refine .ack { eCMD := m.eCMD, bIsMsgOk := true, eErrorCode := .none } ?_ rfl ?_ ?_ hun
      · exact congrArg _ hs
      · rw [← hm]
        exact hc
      · rw [← hm]
        exact hearned

/-- A command that requires an answer. -/
theorem vProcessBootloaderMessages_required (env : Env) {slot : FlashArea} {f : CanFrame} {b : Btl}
    {m : CtrlMsg} (hb : Base slot b) (hcounts : CountsWhenOpen b) (hact : Active b)
    (hm : m = vFormatBootloaderMsg b.mgmt.bIsInitialized f)
    (hinit : b.mgmt.bIsInitialized = true) (hack : m.bIsACKReq = true)
    (hcmd : m.eCMD = .fwUpReq ∨ m.eCMD = .fwUpEnd ∨ m.eCMD = .fwUpPause ∨ m.eCMD = .fwUpStop ∨
      m.eCMD = .recoverFromError)
    (hun : ¬ Unanswered f) :
    Answer env f b (vProcessBootloaderMessages env { btl := b, msg := m }) := by
  have hdispatch : dispatchMessage env { btl := b, msg := m }
      = vUpdateBootloader env { btl := b, msg := m } := by
    unfold dispatchMessage
    rcases hcmd with h | h | h | h | h <;> simp only [h]
  unfold vProcessBootloaderMessages
  rw [hdispatch]
  -- away from the reboot the command has been handled, and its answer is sent
  have hsend := @Handled.answered env f b m (vUpdateBootloader env { btl := b, msg := m })
    hm hack hun
  rcases hact with hst | hst | hst | hst
  · apply hsend
    unfold vUpdateBootloader
    simp only [hst]
    refine vExecuteBootloaderIdleState_handled env hst ?_
    rcases hcmd with h | h | h | h | h <;> rw [h] <;> decide
  · apply hsend
    unfold vUpdateBootloader
    simp only [hst]
    refine vExecuteBootloaderFWImgWriteState_handled env hinit hst (hb.size_pos hst) hcounts ?_
    rcases hcmd with h | h | h | h | h <;> rw [h] <;> decide
  · unfold vUpdateBootloader
    simp only [hst]
    exact .quiet (.of_log_eq rfl rfl) (not_caused_of_reboot hst) ⟨hinit, .inr hst⟩
  · apply hsend
    unfold vUpdateBootloader
    simp only [hst]
    exact vExecuteBootloaderErrorState_handled env hst

/-- The handler leaves no answer to be sent. -/
structure Unacknowledged (b : Btl) (r : Except Btl Job) : Prop where
  quiet : Quiet b (handlerResult r)
  noAck : ∀ j, r = .ok j → j.msg.bIsACKReq = false

theorem Unacknowledged.of_ok {b : Btl} {j : Job} (h : Quiet b j.btl)
    (hack : j.msg.bIsACKReq = false) : Unacknowledged b (.ok j) where
  quiet := h
  noAck := by
    rintro _ ⟨⟩
    exact hack

/-- A handled command that is for no transition has been rejected. -/
theorem Handled.unacknowledged {env : Env} {j : Job} {r : Except Btl Job} (h : Handled env j r)
    (hown : ownTransition j.msg.eCMD = none) (hack : j.msg.bIsACKReq = false) :
    Unacknowledged j.btl r := by
  cases h with
  | rejected e he hs hc => exact .of_ok hs hack
  | performed hs hc hearned =>
      rw [Caused, hown] at hc
      cases hc

/-- A packet in a session. -/
theorem vUpdateFWImage_unacknowledged (env : Env) {slot : FlashArea} {j : Job}
    (hb : Base slot j.btl) (hst : j.btl.mgmt.eBtlState = .fwImgWriteInProg)
    (hack : j.msg.bIsACKReq = false) : Unacknowledged j.btl (vUpdateFWImage env j) := by
  refine ⟨vUpdateFWImage_quiet env j, ?_⟩
  have hout := vUpdateFWImage_outcome env j hst (hb.idle hst) (hb.room hst) hb.first
  intro j' hj'
  rw [hj'] at hout
  cases hout with
  | refused e why => exact hack
  | gaveUp e h why => exact hack
  | accepted hlen hadm hopen hin h hs => exact hack

theorem vGetLostPacketInfo_noAck (env : Env) (j : Job) :
    (vGetLostPacketInfo env j).msg.bIsACKReq = j.msg.bIsACKReq := by
  unfold vGetLostPacketInfo
  split
  · rfl
  · split <;> rfl

/-- A command that is not answered, in any state. -/
theorem dispatchMessage_unacknowledged (env : Env) {slot : FlashArea} {j : Job}
    (hb : Base slot j.btl) (hact : Active j.btl) (hinit : j.btl.mgmt.bIsInitialized = true)
    (hack : j.msg.bIsACKReq = false)
    (hcmd : j.msg.eCMD = .fwUpMsg ∨ j.msg.eCMD = .getLostPacketInfo ∨
      j.msg.eCMD = .retLostPacketInfo) :
    Unacknowledged j.btl (dispatchMessage env j) := by
  have hown : ownTransition j.msg.eCMD = none := by
    rcases hcmd with h | h | h <;> rw [h] <;> rfl
  have hupdate : Unacknowledged j.btl (vUpdateBootloader env j) := by
    unfold vUpdateBootloader
    rcases hact with hst | hst | hst | hst
    · simp only [hst]
      refine (vExecuteBootloaderIdleState_handled env hst ?_).unacknowledged hown hack
      rcases hcmd with h | h | h <;> rw [h] <;> decide
    · simp only [hst]
      unfold vExecuteBootloaderFWImgWriteState
      simp only [hinit, Bool.not_true, Bool.false_eq_true, if_false]
      rcases hcmd with h | h | h
      · simp only [h]
        exact vUpdateFWImage_unacknowledged env hb hst hack
      · simp only [h]
        exact .of_ok (vGetLostPacketInfo_quiet env j) (by rw [vGetLostPacketInfo_noAck, hack])
      · simp only [h]
        exact .of_ok (.refl _) hack
    · simp only [hst]
      exact ⟨.of_log_eq rfl rfl, fun _ h => by cases h⟩
    · simp only [hst]
      exact (vExecuteBootloaderErrorState_handled env hst).unacknowledged hown hack
  unfold dispatchMessage
  rcases hcmd with h | h | h
  · simp only [h]
    exact hupdate
  · simp only [h]
    exact hupdate
  · simp only [h, vHandleHostAcknowledgements, vHandleACKForLostPacketInfo, ne_eq,
      not_true_eq_false, if_false]
    exact .of_ok (vHandleLostPacketInfoTxResponse_quiet env _ _ _) rfl

/-- **The answer to a frame.** -/
theorem vHandleBootloaderMessages_answer (env : Env) {slot : FlashArea} (f : CanFrame) {b : Btl}
    (hb : Base slot b) (hcounts : CountsWhenOpen b)
    (hact : b.mgmt.bIsInitialized = true → Active b) :
    Answer env f b (vHandleBootloaderMessages env f b) := by
  unfold vHandleBootloaderMessages
  simp only
  have hf := vFormatBootloaderMsg_formatted b.mgmt.bIsInitialized f
  generalize hm : vFormatBootloaderMsg b.mgmt.bIsInitialized f = m at hf ⊢
  cases hf with
  | rejected hok he why =>
      simp only [hok, Bool.not_false, if_true]
      refine .nack { eCMD := m.eCMD, bIsMsgOk := m.bIsMsgOk, eErrorCode := m.eErrorCode } rfl hok he
        (.inl rfl) (fun hc => ownTransition_ne hc rfl) why
  | required hinit hok hack hcmd hun =>
      simp only [hok, Bool.not_true, Bool.false_eq_true, if_false]
      exact vProcessBootloaderMessages_required env hb hcounts (hact hinit) hm.symm hinit hack
        hcmd hun
  | quiet hinit hok hack hcmd hun =>
      simp only [hok, Bool.not_true, Bool.false_eq_true, if_false]
      have hdispatch := dispatchMessage_unacknowledged env (j := { btl := b, msg := m }) hb
        (hact hinit) hinit hack hcmd
      have hquiet : Quiet b (vProcessBootloaderMessages env { btl := b, msg := m }) := by
        unfold vProcessBootloaderMessages
        generalize dispatchMessage env { btl := b, msg := m } = r at hdispatch ⊢
        cases r with
        | error b' => exact hdispatch.quiet
        | ok j =>
            simp only [hdispatch.noAck j rfl, Bool.false_eq_true, if_false]
            exact hdispatch.quiet
      refine .quiet hquiet ?_ ⟨hinit, .inl hun⟩
      rw [hm]
      intro hc
      unfold Caused at hc
      rcases hcmd with h | h | h <;> rw [h] at hc <;> cases hc

/-! ## §7. Runs. -/

theorem vBtlStateTimeOutHandler_quiet (env : Env) (b : Btl) :
    Quiet b (match vBtlStateTimeOutHandler env b with | .ok b' => b' | .error b' => b') := by
  unfold vBtlStateTimeOutHandler
  by_cases harmed : b.timers.bBootloaderStateTimeoutArmed = true
  · simp only [harmed, Bool.not_true, Bool.false_eq_true, if_false]
    by_cases hleft : b.timers.iBootloaderStateDeadline_ms - env.uptime > 0
    · rw [if_pos hleft]
      exact .of_log_eq rfl rfl
    rw [if_neg hleft]
    by_cases hreb : (vInvalidateBootloaderStateTimeOutLocked b).mgmt.eBtlState = .reboot
    · rw [if_pos hreb]
      exact .of_log_eq rfl rfl
    · rw [if_neg hreb]
      have habort : Quiet b
          (vAbortBootloaderSessionLocked (vInvalidateBootloaderStateTimeOutLocked b)) :=
        (vAbortBootloaderSessionLocked_quiet _).prepend rfl rfl
      exact habort.trans (.of_log_eq rfl rfl)
  · have harmed' : b.timers.bBootloaderStateTimeoutArmed = false := by simpa using harmed
    simp only [harmed', Bool.not_false, if_true]
    exact .refl b

theorem vBtlTxTimeOutHandler_quiet (env : Env) (b : Btl) :
    Quiet b (vBtlTxTimeOutHandler env b) := by
  unfold vBtlTxTimeOutHandler
  split
  · exact .of_log_eq rfl rfl
  split
  · exact vProcessBootloaderTxError_quiet b
  · exact (vProcessBootloaderRetryTx_quiet env _).prepend rfl rfl

/-- The controller stays initialized, or not initialized. -/
theorem Transition.initialized {env : Env} {ends : Prop} {mark : Obs → Prop} {slot : FlashArea} {b b' : Btl}
    (hb : Base slot b) (h : Transition env ends mark b b') :
    b'.mgmt.bIsInitialized = b.mgmt.bIsInitialized := by
  cases h with
  | kept h => rw [h.work.mgmt]
  | ended h => exact h.initialized
  | started h => rw [h.initialized, h.was_initialized]
  | accepted hstate hlen hadm hopen hin h hst => rw [(endPacket_work _ hb.first h).1]
  | missing hends hstate hmax hrec => rfl
  | completed hends hstate hmax hrec hw hflash hc h => rw [h.initialized, hw.mgmt]
  | nullHandle h hstate why htouched => exact congrArg Mgmt.bIsInitialized h.mgmt
  | rebooted hm hs hlog hfa h => rw [hm]

/-- What holds of a running machine. -/
structure RunningInv (slot : FlashArea) (b : Btl) : Prop where
  base : Base slot b
  counts : CountsWhenOpen b
  active : b.mgmt.bIsInitialized = true → Active b

/-- The answer to a frame in a run. -/
theorem RunningInv.answer {slot : FlashArea} {b : Btl} (hinv : RunningInv slot b)
    (hrun : b.halted = none) (f : CanFrame) (env : Env) :
    Answer env f b (step b (.frame f, env)) := by
  unfold Bootloader.step
  rw [hrun]
  exact vHandleBootloaderMessages_answer env f hinv.base hinv.counts hinv.active

/-- A timer handler in a run. -/
theorem step_timer_quiet {b : Btl} (hrun : b.halted = none) {e : Event} (he : ∀ f, e ≠ .frame f)
    (env : Env) : Quiet b (step b (e, env)) := by
  unfold Bootloader.step
  rw [hrun]
  cases e with
  | frame f => exact absurd rfl (he f)
  | stateTimeOut => exact (vBtlStateTimeOutHandler_quiet env _).prepend rfl rfl
  | txTimeOut => exact (vBtlTxTimeOutHandler_quiet env _).prepend rfl rfl

theorem Quiet.active {b b' : Btl} (h : Quiet b b') (ha : Active b) : Active b' := by
  unfold Active
  rcases h.state with hst | hst
  · rw [hst]
    exact ha
  · exact .inr (.inr (.inr hst))

theorem Answer.active {env : Env} {f : CanFrame} {b b' : Btl} (h : Answer env f b b')
    (ha : Active b) : Active b' := by
  cases h with
  | nack r hr hok he hst hc hun =>
      unfold Active
      rcases hst with hst | hst
      · rw [hst]
        exact ha
      · exact .inr (.inr (.inr hst))
  | ack r hr hok hc hearned hun =>
      unfold Caused ownTransition at hc
      unfold Active
      split at hc
      · simp only [Option.some.injEq, Prod.mk.injEq] at hc
        exact .inr (.inl hc.2.symm)
      · simp only [Option.some.injEq, Prod.mk.injEq] at hc
        exact .inr (.inr (.inl hc.2.symm))
      · simp only [Option.some.injEq, Prod.mk.injEq] at hc
        exact .inr (.inr (.inr hc.2.symm))
      · simp only [Option.some.injEq, Prod.mk.injEq] at hc
        exact .inl hc.2.symm
      · cases hc
  | quiet h hc why => exact h.active ha

theorem RunningInv.step {slot : FlashArea} {b : Btl} (hinv : RunningInv slot b)
    (hrun : b.halted = none) (a : Event × Env) (hrun' : (step b a).halted = none) :
    RunningInv slot (step b a) where
  base := hinv.base.step hrun a hrun'
  counts := hinv.counts.step hinv.base hrun a hrun'
  active := by
    intro hinit
    have hsame : (Bootloader.step b a).mgmt.bIsInitialized = b.mgmt.bIsInitialized := by
      obtain ⟨b₀, b₁, hk₀, htr, hk₁⟩ := step_transition hinv.base hrun a
      rw [hk₁.work.mgmt, htr.initialized (hinv.base.kept hk₀), hk₀.work.mgmt]
    have hact := hinv.active (hsame.symm.trans hinit)
    obtain ⟨e, env⟩ := a
    cases e with
    | frame f => exact (hinv.answer hrun f env).active hact
    | stateTimeOut => exact (step_timer_quiet hrun (fun _ h => by cases h) env).active hact
    | txTimeOut => exact (step_timer_quiet hrun (fun _ h => by cases h) env).active hact

theorem RunningInv.init (slot : FlashArea) (flash : Mem) (env : Env) :
    RunningInv slot (bInitBootloaderController slot flash env) := by
  have hb := Base.init slot flash env
  unfold bInitBootloaderController flashAreaOpen at hb ⊢
  by_cases hopen : env.open_ ≠ 0
  · simp only [if_pos hopen] at hb ⊢
    rw [if_neg hopen] at hb ⊢
    exact ⟨hb, fun hst => by (cases hst), fun hinit => by (cases hinit)⟩
  · simp only [if_neg hopen] at hb ⊢
    exact ⟨hb, fun hst => by (cases hst), fun _ => .inl rfl⟩

theorem runningInv_of_reachable {slot : FlashArea} {b : Btl} (h : (machine slot).Reachable b)
    (hrun : b.halted = none) : RunningInv slot b := by
  revert hrun
  refine h.invariant (I := fun b => b.halted = none → RunningInv slot b) ?_ ?_
  · rintro b ⟨flash, env, rfl⟩ -
    exact .init slot flash env
  · rintro b a b' hb rfl hrun'
    by_cases hrun : b.halted = none
    · exact (hb hrun).step hrun a hrun'
    · rw [step_halted hrun] at hrun'
      exact absurd hrun' hrun

/-! ## §8. Responses and transitions. -/

/-- An ACK is among the responses that the trace has grown by. -/
def Acked (b b' : Btl) : Prop :=
  ∃ rs, b'.responses = rs ++ b.responses ∧ ∃ r ∈ rs, r.bIsMsgOk = true

/-- The responses to frame `f`, handled between `b` and `b'`, match the
transition between the two. -/
structure ResponseMatches (env : Env) (f : CanFrame) (b b' : Btl) : Prop where
  /-- An ACK is sent iff the frame has caused its own transition. -/
  acked : Acked b b' ↔ Caused (vFormatBootloaderMsg b.mgmt.bIsInitialized f).eCMD b b'
  earned : Caused (vFormatBootloaderMsg b.mgmt.bIsInitialized f).eCMD b b' →
    Earned env b (vFormatBootloaderMsg b.mgmt.bIsInitialized f)
  single : Caused (vFormatBootloaderMsg b.mgmt.bIsInitialized f).eCMD b b' →
    ∃ r, b'.responses = r :: b.responses
  /-- Every other frame that is to be answered gets one NACK, and so does
  every frame while the controller is not initialized. -/
  nacked : ¬ Caused (vFormatBootloaderMsg b.mgmt.bIsInitialized f).eCMD b b' →
    b.mgmt.eBtlState ≠ .reboot → (¬ Unanswered f ∨ b.mgmt.bIsInitialized = false) →
    ∃ r, b'.responses = r :: b.responses ∧ r.bIsMsgOk = false ∧ r.eErrorCode ≠ .none
  silent : Unanswered f → b.mgmt.bIsInitialized = true → b'.responses = b.responses

theorem Answer.matches {env : Env} {f : CanFrame} {b b' : Btl} (h : Answer env f b b') :
    ResponseMatches env f b b' := by
  -- an ACK among the new responses is the one that has been sent
  have hsent : ∀ rs₀, b'.responses = rs₀ ++ b.responses →
      (Acked b b' ↔ ∃ r ∈ rs₀, r.bIsMsgOk = true) := by
    intro rs₀ h₀
    constructor
    · rintro ⟨rs, hrs, hr⟩
      rw [h₀] at hrs
      rw [List.append_cancel_right hrs]
      exact hr
    · exact fun hr => ⟨rs₀, h₀, hr⟩
  cases h with
  | nack r hr hok he hst hc hun =>
      refine ⟨?_, fun h => absurd h hc, fun h => absurd h hc, fun _ _ _ => ⟨r, hr, hok, he⟩,
        fun hu hinit => absurd hu (hun hinit)⟩
      rw [hsent [r] hr]
      simp [hok, hc]
  | ack r hr hok hc hearned hun =>
      refine ⟨?_, fun _ => hearned, fun _ => ⟨r, hr⟩, fun h => absurd hc h, fun hu => absurd hu hun⟩
      rw [hsent [r] hr]
      simp [hok, hc]
  | quiet h hc why =>
      refine ⟨?_, fun h => absurd h hc, fun h => absurd h hc, ?_, fun _ _ => h.silent⟩
      · rw [hsent [] h.silent]
        simp [hc]
      · intro _ hreb hor
        rcases why with ⟨hinit, hu | hst⟩
        · rcases hor with hu' | hinit'
          · exact absurd hu hu'
          · rw [hinit] at hinit'
            cases hinit'
        · exact absurd hst hreb

/-- The event is a frame with the command that leaves the error state. -/
def ReceivesRecover (b : Btl) : Event → Prop
  | .frame f => (vFormatBootloaderMsg b.mgmt.bIsInitialized f).eCMD = .recoverFromError
  | _ => False

/-- The error state is left by its command. -/
theorem Answer.error_left {env : Env} {f : CanFrame} {b b' : Btl} (h : Answer env f b b')
    (hst : b.mgmt.eBtlState = .error) (hst' : b'.mgmt.eBtlState ≠ .error) :
    ReceivesRecover b (.frame f) := by
  have hstays : ¬ (b'.mgmt.eBtlState = b.mgmt.eBtlState ∨ b'.mgmt.eBtlState = .error) := by
    rw [hst]
    simp [hst']
  cases h with
  | nack r hr hok he hs hc hun => exact absurd hs hstays
  | ack r hr hok hc hearned hun =>
      unfold Caused ownTransition at hc
      rw [hst] at hc
      unfold ReceivesRecover
      split at hc
      all_goals first
        | next h => exact h
        | cases hc
  | quiet h hc why => exact absurd h.state hstays

/-- **Responses match transitions**: in every run, a frame is answered by an
ACK iff it has caused its own transition, every other frame to be answered
gets one NACK with an error code, and the error state is left by
`RecoverFromError` alone. -/
theorem responses_match_transitions {slot : FlashArea} {b : Btl}
    (h : (machine slot).Reachable b) (hrun : b.halted = none) :
    (∀ f env, ResponseMatches env f b (step b (.frame f, env))) ∧
      ∀ e env, b.mgmt.eBtlState = .error → (step b (e, env)).mgmt.eBtlState ≠ .error →
        ReceivesRecover b e := by
  have hinv := runningInv_of_reachable h hrun
  refine ⟨fun f env => (hinv.answer hrun f env).matches, ?_⟩
  intro e env hst hst'
  have htimer : (∀ f, e ≠ .frame f) → ReceivesRecover b e := by
    intro he
    exfalso
    rcases (step_timer_quiet hrun he env).state with hs | hs
    · exact hst' (hs.trans hst)
    · exact hst' hs
  cases e with
  | frame f => exact (hinv.answer hrun f env).error_left hst hst'
  | stateTimeOut => exact htimer fun _ he => by cases he
  | txTimeOut => exact htimer fun _ he => by cases he

/-- The update of one packet, before the end of the image is announced. -/
theorem responses_match_transitions_end :
    ResponseMatches Env.success endFrame (runFrames ⟨0x4000⟩ [requestFrame, packetFrame 0])
      (step (runFrames ⟨0x4000⟩ [requestFrame, packetFrame 0]) (.frame endFrame, Env.success)) :=
  (responses_match_transitions (reachable_runFrames _ _) (by decide +kernel)).1 _ _

/-- A controller whose initialization has failed rejects a packet that would
not be answered otherwise. -/
theorem responses_not_silent :
    ¬ ∀ (slot : FlashArea) (b : Btl), (machine slot).Reachable b → b.halted = none →
      ∀ f env, Unanswered f → (step b (.frame f, env)).responses = b.responses := by
  intro h
  have hinit : (machine ⟨0x4000⟩).Reachable
      (bInitBootloaderController ⟨0x4000⟩ (fun _ => 0) { Env.success with open_ := -19 }) :=
    .init ⟨_, _, rfl⟩
  have hbad := h _ _ hinit (by decide +kernel) (packetFrame 0) Env.success
    ⟨.fwUpMsg, FW_IMG_PACKET_DATA_LENGTH, .inl rfl, by decide, rfl, by decide⟩
  exact absurd hbad (by decide +kernel)

end WallController.Bootloader
