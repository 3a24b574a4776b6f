/-
  WallController.Bootloader.SentFrames
  ────────────────────────────────
  **THE FRAMES THAT THE CONTROLLER SENDS TO THE HOST.**

  A frame is sent by `vCAN_SendBtl_ACK_NACK`, by the query of the lost packets
  and by a retry of its frame.  The handlers of a packet, of an update request
  and of the end of the image send none (`Unsent`), so a packet is silent and
  a command brings its answer alone.

  Main results:
    * `step_packet_sent`: a packet brings nothing to the host.
    * `step_command_sent`: a command brings its answer, an ACK exactly when the
      transition that it is for has been taken.
-/
import WallController.Bootloader.Blocks
import WallController.Bootloader.Recovery

namespace WallController.Bootloader

open WallController.Lib

/-! ## §1. The frames of a trace. -/

/-- The frames that have been sent, newest first. -/
def Btl.sent (b : Btl) : List (BootloaderCommand × List UInt8) := b.log.filterMap Obs.sent

/-- No frame has been sent between the two. -/
def Unsent (b b' : Btl) : Prop := b'.sent = b.sent

namespace Unsent

variable {b b' b'' : Btl}

theorem of_log_eq (h : b'.log = b.log) : Unsent b b' := by
  unfold Unsent Btl.sent
  rw [h]

theorem refl (b : Btl) : Unsent b b := rfl

theorem trans (h₁ : Unsent b b') (h₂ : Unsent b' b'') : Unsent b b'' :=
  Eq.trans h₂ h₁

theorem one {o : Obs} (hl : b'.log = o :: b.log) (ho : o.sent = none) : Unsent b b' := by
  unfold Unsent Btl.sent
  rw [hl, List.filterMap_cons_none ho]

/-- A change before work that sends nothing. -/
theorem prepend (h : Unsent b' b'') (hl : b'.log = b.log) : Unsent b b'' :=
  (of_log_eq hl).trans h

/-- A call before such work. -/
theorem prependCall {o : Obs} (h : Unsent b' b'') (hl : b'.log = o :: b.log)
    (ho : o.sent = none) : Unsent b b'' :=
  (one hl ho).trans h

end Unsent

/-- What has been sent since the trace was `log`. -/
theorem receive_of_sent (L : Link) {b : Btl} {a : Event × Env}
    {frames : List (BootloaderCommand × List UInt8)} (h : (step b a).sent = frames ++ b.sent) :
    L.receive b.log (step b a).log
      = frames.reverse.filterMap fun m => vSendUARTFrameToPC (L.toHost.frame m.1 m.2) := by
  obtain ⟨calls, hl⟩ := step_log b a
  have hframes : calls.filterMap Obs.sent = frames := by
    unfold Btl.sent at h
    rw [hl, List.filterMap_append] at h
    exact List.append_cancel_right h
  unfold Link.receive
  rw [hl, List.length_append, Nat.add_sub_cancel, List.take_left, List.filterMap_reverse, hframes]

/-! ## §2. Handlers that send nothing. -/

theorem flashAreaOpen_unsent (env : Env) (b : Btl) : Unsent b (flashAreaOpen env b) := by
  unfold flashAreaOpen
  split
  · exact .one rfl rfl
  · exact .one rfl rfl

theorem flashAreaCloseIfOpen_unsent (b : Btl) : Unsent b (flashAreaCloseIfOpen b) := by
  unfold flashAreaCloseIfOpen
  split
  · exact .one rfl rfl
  · exact .refl b

theorem resetSession_unsent (eState : BootloaderState) (bFirstEntry : Bool) (b : Btl) :
    Unsent b (resetSession eState bFirstEntry b) :=
  ((flashAreaCloseIfOpen_unsent (vInvalidateBootloaderStateTimeOutLocked b)).prepend rfl).trans
    (.of_log_eq rfl)

theorem rejectAndAbort_unsent (j : Job) (e : BootloaderError) :
    Unsent j.btl (rejectAndAbort j e).btl :=
  (resetSession_unsent .error false j.btl).trans (.of_log_eq rfl)

theorem vSetBootloaderState_unsent (env : Env) (eState : BootloaderState) (b : Btl) :
    Unsent b (vSetBootloaderState env eState b) := by
  apply Unsent.of_log_eq
  unfold vSetBootloaderState
  split <;> rfl

/-! ### A packet. -/

/-- The write loop, by its blocks. -/
theorem writeBlocks_unsent (env : Env) (id : Nat) (blocks : List Nat) (j : Job) :
    Unsent j.btl (loopResult (writeBlocks env id blocks j)) := by
  induction blocks generalizing j with
  | nil => exact .refl _
  | cons uiIndex rest ih =>
      unfold writeBlocks
      dsimp only
      split
      · exact rejectAndAbort_unsent j _
      split
      · exact .refl _
      split
      · exact rejectAndAbort_unsent j _
      generalize (if id * DATA_PAYLOAD_PER_ONE_IMAGE_FRAME + (uiIndex - 2)
        + FW_IMG_WRITE_BYTE_LENGTH ≤ j.btl.mgmt.uiFWImgSize then _ else _) = uiWriteLen
      unfold flashAreaWrite
      cases hfa : j.btl.flashArea with
      | none => exact .of_log_eq rfl
      | some fa =>
          dsimp only
          generalize (if fa.fa_size < _ then EINVAL else env.write _) = ret
          split
          · exact (rejectAndAbort_unsent _ _).prependCall rfl rfl
          · split
            · exact .one rfl rfl
            · exact (ih _).prependCall rfl rfl

theorem finishPacket_unsent (env : Env) (id : Nat) {b : Btl} {r : Except Btl (Bool × Job)}
    (h : Unsent b (loopResult r)) : Unsent b (handlerResult (finishPacket env id r)) := by
  match r, h with
  | .error _, h => exact h
  | .ok (false, _), h => exact h
  | .ok (true, _), h => exact h.trans (.one rfl rfl)

theorem writePacket_unsent (env : Env) (id : Nat) (bIsFirstPacket : Bool) (j : Job) :
    Unsent j.btl (handlerResult (writePacket env id bIsFirstPacket j)) := by
  unfold writePacket
  dsimp only
  generalize hj : (if bIsFirstPacket = true then _ else _ : Job) = j₁
  have hopen : Unsent j.btl j₁.btl := by
    rw [← hj]
    split
    · exact (flashAreaOpen_unsent env _).prepend rfl
    · exact .of_log_eq rfl
  split
  · exact hopen.trans (rejectAndAbort_unsent _ _)
  · exact finishPacket_unsent env id (hopen.trans (writeBlocks_unsent env id blockIndexes j₁))

theorem vUpdateFWImage_unsent (env : Env) (j : Job) :
    Unsent j.btl (handlerResult (vUpdateFWImage env j)) := by
  unfold vUpdateFWImage
  split
  · exact .refl _
  dsimp only
  split
  · exact .refl _
  split
  · exact .refl _
  split
  · exact rejectAndAbort_unsent j _
  split
  · next hid =>
      have hm := vHandlePacketIdMismatch_outcome j hid
      generalize vHandlePacketIdMismatch j (packetId j.msg.uiaData) = r at hm ⊢
      cases hm with
      | @admitted img _ =>
          simp only [Bool.not_true, Bool.false_eq_true, if_false]
          have himg : Unsent j.btl { j.btl with img := img } := .of_log_eq rfl
          exact himg.trans (writePacket_unsent env _ _ { j with btl := { j.btl with img := img } })
      | refused _ =>
          simp only [Bool.not_false, if_true]
          split
          · exact .of_log_eq rfl
          · exact .refl _
      | tooMany _ =>
          have habort := resetSession_unsent .error false j.btl
          simp only [Bool.not_false, if_true]
          split
          · exact habort.trans (.of_log_eq rfl)
          · exact habort
  · exact writePacket_unsent env _ _ j

/-! ### The end of the image. -/

/-- The read loop, by its passes. -/
theorem readBack_unsent (env : Env) (fuel pass off n iretryCount : Nat) (b : Btl) :
    Unsent b (readResult (readBack env fuel pass off n iretryCount b)) := by
  induction fuel generalizing pass off n iretryCount b with
  | zero => exact .refl b
  | succ fuel ih =>
      unfold readBack
      split
      · exact .refl b
      unfold flashAreaRead
      cases hfa : b.flashArea with
      | none => exact .of_log_eq rfl
      | some fa =>
          dsimp only
          generalize (if fa.fa_size < _ then EINVAL else env.read _) = ret
          split
          · split
            · exact .one rfl rfl
            · exact (ih _ _ _ _ _).prependCall rfl rfl
          · exact (ih _ _ _ _ _).prependCall rfl rfl

theorem vValidate_unsent (env : Env) (b : Btl) :
    Unsent b (checkResult (vValidateFWImgCRCFromFlashAtLostPacketState env b)) := by
  unfold vValidateFWImgCRCFromFlashAtLostPacketState
  split
  · exact .refl b
  split
  · exact .refl b
  have hread := readBack_unsent env (b.uiBytesToRead + 3) 0 b.img.uiReadOffset b.uiBytesToRead 0 b
  generalize readBack env (b.uiBytesToRead + 3) 0 b.img.uiReadOffset b.uiBytesToRead 0 b = r
    at hread ⊢
  match r, hread with
  | .error _, h => exact h
  | .ok (false, _), h => exact h
  | .ok (true, _), h => exact h.trans (.of_log_eq rfl)

/-- The attempts of the upgrade request. -/
theorem requestUpgradeLoop_unsent (env : Env) (left uiRetryCount : Nat) (b : Btl) :
    Unsent b (requestUpgradeLoop env left uiRetryCount b).2 := by
  induction left generalizing uiRetryCount b with
  | zero => exact .refl b
  | succ left ih =>
      unfold requestUpgradeLoop
      dsimp only
      split
      · exact .one rfl rfl
      · exact (ih _ _).prependCall rfl rfl

theorem vRequestMCUbootImageUpgrade_unsent (env : Env) (j : Job) :
    Unsent j.btl (vRequestMCUbootImageUpgrade env j).btl := by
  have hloop := requestUpgradeLoop_unsent env BOOTLOADER_MAX_REQUEST_UPGRADE_TURNs 0 j.btl
  unfold vRequestMCUbootImageUpgrade
  generalize requestUpgradeLoop env BOOTLOADER_MAX_REQUEST_UPGRADE_TURNs 0 j.btl = r at hloop ⊢
  obtain ⟨bRequested, b⟩ := r
  dsimp only
  split
  · exact hloop.trans (rejectAndAbort_unsent { j with btl := b } _)
  · exact hloop.trans ((vSetBootloaderState_unsent env .reboot b).trans (.of_log_eq rfl))

theorem vExecuteBootloaderFWImgWriteCompleted_unsent (env : Env) (j : Job) :
    Unsent j.btl (vExecuteBootloaderFWImgWriteCompleted env j).btl := by
  unfold vExecuteBootloaderFWImgWriteCompleted bIsFirstEntry
  dsimp only
  have hclose : Unsent j.btl (if j.btl.mgmt.bIsFirstEntry = true then
      flashAreaCloseIfOpen (vCancelBootloaderStateTimeOut
        { j.btl with mgmt := { j.btl.mgmt with bIsFirstEntry := false } })
      else { j.btl with mgmt := { j.btl.mgmt with bIsFirstEntry := false } }) := by
    split
    · exact (flashAreaCloseIfOpen_unsent _).prepend rfl
    · exact .of_log_eq rfl
  split
  · exact hclose.trans (vRequestMCUbootImageUpgrade_unsent env { j with btl := _ })
  · exact hclose

theorem markCompleted_unsent (env : Env) (j : Job) : Unsent j.btl (markCompleted env j).btl :=
  (vExecuteBootloaderFWImgWriteCompleted_unsent env { j with btl := _ }).prepend rfl

theorem checkImage_unsent (env : Env) (j : Job) :
    Unsent j.btl (handlerResult (checkImage env j)) := by
  unfold checkImage
  dsimp only
  split
  · split
    · exact .of_log_eq rfl
    split
    · exact rejectAndAbort_unsent j _
    have hcheck := vValidate_unsent env j.btl
    generalize vValidateFWImgCRCFromFlashAtLostPacketState env j.btl = r at hcheck ⊢
    match r, hcheck with
    | .error _, h => exact h
    | .ok (e, b), h =>
        dsimp only
        split
        · exact h.trans (rejectAndAbort_unsent { j with btl := b } _)
        · exact h.trans (markCompleted_unsent env { j with btl := b })
  · split
    · exact rejectAndAbort_unsent j _
    split
    · exact rejectAndAbort_unsent j _
    · exact markCompleted_unsent env j

theorem vFinalizeFWImageWrite_unsent (env : Env) (j : Job) :
    Unsent j.btl (handlerResult (vFinalizeFWImageWrite env j)) := by
  unfold vFinalizeFWImageWrite
  split
  · exact .refl _
  dsimp only
  split
  · exact rejectAndAbort_unsent j _
  split
  · next hnext =>
      rcases bCanHandleMissingPackets_cases j hnext with ⟨-, heq⟩ | ⟨-, heq⟩
      · simp only [heq, Bool.not_true, Bool.false_eq_true, if_false]
        exact (checkImage_unsent env _).prepend rfl
      · simp only [heq, Bool.not_false, if_true]
        exact (resetSession_unsent .error false j.btl).trans (.of_log_eq rfl)
  · exact checkImage_unsent env j

/-! ### The other states. -/

theorem vEraseFlashArea_unsent (env : Env) (j : Job) :
    Unsent j.btl (vEraseFlashArea env j).btl := by
  have herase := vEraseFlashArea_outcome env j
  generalize vEraseFlashArea env j = j' at herase ⊢
  cases herase with
  | openFailed => exact .one rfl rfl
  | eraseFailed => rfl
  | erased => rfl

theorem vInitBootloaderManager_unsent (env : Env) (j : Job) :
    Unsent j.btl (vInitBootloaderManagerForNewFWImage env j).btl := by
  unfold vInitBootloaderManagerForNewFWImage
  dsimp only
  split
  · exact .of_log_eq rfl
  split
  · exact .of_log_eq rfl
  split
  · exact .of_log_eq rfl
  generalize hj : Job.mk (Btl.mk (Mgmt.mk ..) FWImgCtrl.cleared ..) j.msg = j₁
  have hlog : j₁.btl.log = j.btl.log := by rw [← hj]
  have herase := (vEraseFlashArea_unsent env j₁).prepend hlog
  split
  · exact herase
  · refine herase.trans ?_
    exact (vSetBootloaderState_unsent env .fwImgWriteInProg _).prependCall rfl rfl

theorem vExecuteBootloaderIdleState_unsent (env : Env) (j : Job) :
    Unsent j.btl (vExecuteBootloaderIdleState env j).btl := by
  unfold vExecuteBootloaderIdleState bIsFirstEntry
  dsimp only
  split
  · exact .refl _
  split
  · exact .refl _
  split
  · exact .refl _
  split
  · exact (vInitBootloaderManager_unsent env { j with btl := _ }).prepend rfl
  · exact (vInitBootloaderManager_unsent env { j with btl := _ }).prepend rfl
  · exact .of_log_eq rfl

theorem vExecuteBootloaderErrorState_unsent (j : Job) :
    Unsent j.btl (vExecuteBootloaderErrorState j).btl := by
  unfold vExecuteBootloaderErrorState bIsFirstEntry
  dsimp only
  split
  · have hreset := resetSession_unsent .idle true
      { j.btl with mgmt := { j.btl.mgmt with bIsFirstEntry := false } }
    exact (hreset.prepend rfl).trans (.of_log_eq rfl)
  · exact .of_log_eq rfl

/-- **A command other than the query of the lost packets.** -/
theorem vUpdateBootloader_unsent (env : Env) (j : Job) (h : j.msg.eCMD ≠ .getLostPacketInfo) :
    Unsent j.btl (handlerResult (vUpdateBootloader env j)) := by
  unfold vUpdateBootloader
  cases hst : j.btl.mgmt.eBtlState with
  | inactive => exact .refl _
  | idle => exact vExecuteBootloaderIdleState_unsent env j
  | fwImgWriteInProg =>
      unfold vExecuteBootloaderFWImgWriteState
      dsimp only
      split
      · exact .refl _
      split
      · exact (resetSession_unsent .error false j.btl).trans (.of_log_eq rfl)
      · exact vFinalizeFWImageWrite_unsent env j
      · exact vUpdateFWImage_unsent env j
      · next hcmd => exact absurd hcmd h
      · exact .refl _
  | fwImgWriteCompleted => exact vExecuteBootloaderFWImgWriteCompleted_unsent env j
  | reboot => exact .of_log_eq rfl
  | error => exact vExecuteBootloaderErrorState_unsent j
  | waitForAuthResponse => exact .refl _

/-! ## §3. The frames of the host. -/

/-- The commands of the host, with the lengths of their payloads. -/
def HostCommand (cmd : BootloaderCommand) (payload : List UInt8) : Prop :=
  UpdateCommand cmd payload ∨ (cmd = .getLostPacketInfo ∧ payload.length = 0) ∨
    (cmd = .retLostPacketInfo ∧ payload.length = 2)

/-- The control message of such a frame. -/
def hostMessage (cmd : BootloaderCommand) (payload : List UInt8) : CtrlMsg :=
  vUpdateBtlMsgACKRequirement { CtrlMsg.zero with eCMD := cmd, uiaData := payload }

/-- **A frame of the host** is processed. -/
theorem step_hostFrame (env : Env) {b : Btl} {f : CanFrame} {cmd : BootloaderCommand}
    {payload : List UInt8} (hrun : b.halted = none) (hinit : b.mgmt.bIsInitialized = true)
    (hc : Carries f cmd payload) (hcmd : HostCommand cmd payload) :
    step b (.frame f, env)
      = vProcessBootloaderMessages env { btl := b, msg := hostMessage cmd payload } := by
  have hmsg : vFormatBootloaderMsg true f = hostMessage cmd payload := by
    rcases hcmd with (⟨rfl, hl⟩ | ⟨rfl, hl⟩ | ⟨rfl, hl⟩) | ⟨rfl, hl⟩ | ⟨rfl, hl⟩
    all_goals exact vFormatBootloaderMsg_eq hc (by decide) rfl (by rw [hl]; rfl)
  have hok : (hostMessage cmd payload).bIsMsgOk = true := by
    rcases hcmd with (⟨rfl, -⟩ | ⟨rfl, -⟩ | ⟨rfl, -⟩) | ⟨rfl, -⟩ | ⟨rfl, -⟩ <;> rfl
  rw [step_frame_eq env f hrun]
  unfold vHandleBootloaderMessages
  rw [hinit, hmsg]
  simp only [hok, Bool.not_true, Bool.false_eq_true, if_false]

section Frames

variable {slot : FlashArea} {b : Btl} {f : CanFrame} {cmd : BootloaderCommand}
  {payload : List UInt8} (env : Env) (hinv : RunningInv slot b) (hrun : b.halted = none)
  (hinit : b.mgmt.bIsInitialized = true)
include hinv hrun hinit

/-- A frame that is not answered leaves what its handler leaves. -/
theorem step_unanswered (hc : Carries f cmd payload) (hcmd : HostCommand cmd payload)
    (hquiet : cmd = .fwUpMsg ∨ cmd = .getLostPacketInfo ∨ cmd = .retLostPacketInfo) :
    step b (.frame f, env)
      = handlerResult (dispatchMessage env { btl := b, msg := hostMessage cmd payload }) := by
  have hfields : (hostMessage cmd payload).bIsACKReq = false ∧
      (hostMessage cmd payload).eCMD = cmd := by
    rcases hquiet with rfl | rfl | rfl <;> exact ⟨rfl, rfl⟩
  have hunack := dispatchMessage_unacknowledged env
    (j := { btl := b, msg := hostMessage cmd payload }) hinv.base (hinv.active hinit) hinit
    hfields.1 (by rw [hfields.2]; exact hquiet)
  rw [step_hostFrame env hrun hinit hc hcmd]
  unfold vProcessBootloaderMessages
  generalize dispatchMessage env { btl := b, msg := hostMessage cmd payload } = r at hunack ⊢
  cases r with
  | error b' => rfl
  | ok j =>
      dsimp only
      rw [hunack.noAck j rfl, if_neg Bool.false_ne_true]
      rfl

/-- **A packet brings nothing to the host.** -/
theorem step_packet_sent (hc : Carries f .fwUpMsg payload)
    (hlen : payload.length = FW_IMG_PACKET_DATA_LENGTH) :
    (step b (.frame f, env)).sent = b.sent := by
  rw [step_unanswered env hinv hrun hinit hc (.inl (.inr (.inl ⟨rfl, hlen⟩))) (.inl rfl)]
  exact vUpdateBootloader_unsent env { btl := b, msg := hostMessage .fwUpMsg payload } nofun

/-- The query of the lost packets brings one page at most. -/
theorem step_query_sent (hc : Carries f .getLostPacketInfo []) :
    (step b (.frame f, env)).sent = b.sent ∨
      (step b (.frame f, env)).sent
        = (.retLostPacketInfo, pageBytes b.img b.tx.uiFrameSeq) :: b.sent := by
  rw [step_unanswered env hinv hrun hinit hc (.inr (.inl ⟨rfl, rfl⟩)) (.inr (.inl rfl))]
  show (handlerResult (vUpdateBootloader env _)).sent = _ ∨
    (handlerResult (vUpdateBootloader env _)).sent = _
  unfold vUpdateBootloader
  -- only a session answers with a page
  rcases hinv.active hinit with hst | hst | hst | hst
  · simp only [hst]
    exact .inl (vExecuteBootloaderIdleState_unsent env _)
  · simp only [hst]
    unfold vExecuteBootloaderFWImgWriteState
    simp only [hinit, Bool.not_true, Bool.false_eq_true, if_false]
    show (vGetLostPacketInfo env
      { btl := b, msg := hostMessage .getLostPacketInfo [] }).btl.sent = _ ∨
      (vGetLostPacketInfo env { btl := b, msg := hostMessage .getLostPacketInfo [] }).btl.sent = _
    unfold vGetLostPacketInfo
    by_cases hidle : b.tx.eTxState = .idle
    · have hne : ¬ (hostMessage .getLostPacketInfo []).eCMD ≠ .getLostPacketInfo := not_not.mpr rfl
      simp only [hidle, if_neg hne, ne_eq, not_true_eq_false, if_false]
      generalize (if env.txQueued = true then _ else _ : LostPacketTx) = tx
      obtain ⟨timers, htimers⟩ := bScheduleLostPacketTimeouts_frame env { b with
        log := .lostPacketInfo (lostPacketInfoFrame b.img b.tx.uiFrameSeq) env.txQueued :: b.log
        tx := tx }
      rw [htimers, lostPacketInfoFrame_eq]
      cases env.txQueued with
      | false => exact .inl rfl
      | true => exact .inr rfl
    · have hbusy : b.tx.eTxState ≠ .idle := hidle
      simp only [hbusy, ne_eq, not_false_eq_true, if_true]
      left
      split <;> rfl
  · simp only [hst]
    exact .inl rfl
  · simp only [hst]
    exact .inl (vExecuteBootloaderErrorState_unsent _)

/-- The ACK of a page is not answered. -/
theorem step_acknowledge_sent {uiFrameSeq : UInt8}
    (hc : Carries f .retLostPacketInfo [BOOTLOADER_ACK, uiFrameSeq]) :
    (step b (.frame f, env)).sent = b.sent := by
  rw [step_unanswered env hinv hrun hinit hc (.inr (.inr ⟨rfl, rfl⟩)) (.inr (.inr rfl))]
  show (vHandleLostPacketInfoTxResponse env BOOTLOADER_ACK uiFrameSeq b).sent = b.sent
  unfold vHandleLostPacketInfoTxResponse
  split
  · rfl
  split
  · rfl
  split
  · rfl
  split
  · rfl
  split
  · rfl
  · next hack => exact absurd rfl hack

/-- **A command brings its answer alone**: an ACK exactly when the transition
that it is for has been taken. -/
theorem step_command_sent (hc : Carries f cmd payload) (hcmd : UpdateCommand cmd payload)
    (hanswered : cmd ≠ .fwUpMsg) (hreboot : b.mgmt.eBtlState ≠ .reboot) :
    ∃ (bIsMsgOk : Bool) (eErrorCode : BootloaderError),
      (step b (.frame f, env)).sent
        = (cmd, [if bIsMsgOk then eCAN_ACK else eCAN_NACK, UInt8.ofNat eErrorCode.ctorIdx])
          :: b.sent ∧
      (bIsMsgOk = true ↔ Caused cmd b (step b (.frame f, env))) := by
  have hstep := step_hostFrame env hrun hinit hc (.inl hcmd)
  -- both commands ask for an answer
  have hfields : (hostMessage cmd payload).bIsACKReq = true ∧
      (hostMessage cmd payload).eCMD = cmd ∧ cmd ≠ .getLostPacketInfo ∧ cmd ≠ .none ∧
      dispatchMessage env { btl := b, msg := hostMessage cmd payload }
        = vUpdateBootloader env { btl := b, msg := hostMessage cmd payload } := by
    rcases hcmd with ⟨rfl, -⟩ | ⟨rfl, -⟩ | ⟨rfl, -⟩
    · exact ⟨rfl, rfl, nofun, nofun, rfl⟩
    · exact absurd rfl hanswered
    · exact ⟨rfl, rfl, nofun, nofun, rfl⟩
  obtain ⟨hack, heCMD, hquery, hnone, hdispatch⟩ := hfields
  -- the handler itself sends nothing: the answer is the only frame
  have hunsent := vUpdateBootloader_unsent env
    { btl := b, msg := hostMessage cmd payload } (by rw [heCMD]; exact hquery)
  have hhandled : Handled env { btl := b, msg := hostMessage cmd payload }
      (vUpdateBootloader env { btl := b, msg := hostMessage cmd payload }) := by
    unfold vUpdateBootloader
    -- the states of an initialized controller; a reboot takes no command
    rcases hinv.active hinit with hst | hst | hst | hst
    · simp only [hst]
      exact vExecuteBootloaderIdleState_handled env hst (by rw [heCMD]; exact hnone)
    · simp only [hst]
      exact vExecuteBootloaderFWImgWriteState_handled env hinit hst (hinv.base.size_pos hst)
        hinv.counts ⟨by rw [heCMD]; exact hanswered, by rw [heCMD]; exact hquery⟩
    · exact absurd hst hreboot
    · simp only [hst]
      exact vExecuteBootloaderErrorState_handled env hst
  unfold vProcessBootloaderMessages at hstep
  rw [hdispatch] at hstep
  generalize vUpdateBootloader env { btl := b, msg := hostMessage cmd payload } = r
    at hunsent hhandled hstep
  cases hhandled with
  | @rejected b' e he hs hcaused =>
      dsimp only at hstep
      rw [hack, if_pos rfl] at hstep
      refine ⟨false, e, ?_, ?_⟩
      · rw [hstep]
        show (_, _) :: b'.sent = _
        rw [show b'.sent = b.sent from hunsent, heCMD]
      · rw [hstep]
        dsimp only at hcaused
        rw [heCMD] at hcaused
        exact iff_of_false Bool.false_ne_true hcaused
  | @performed b' hs hcaused hearned =>
      dsimp only at hstep
      rw [hack, if_pos rfl] at hstep
      refine ⟨true, .none, ?_, ?_⟩
      · rw [hstep]
        show (_, _) :: b'.sent = _
        rw [show b'.sent = b.sent from hunsent, heCMD]
      · rw [hstep]
        dsimp only at hcaused
        rw [heCMD] at hcaused
        exact iff_of_true rfl hcaused

end Frames

end WallController.Bootloader
