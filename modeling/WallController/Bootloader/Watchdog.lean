/-
  WallController.Bootloader.Watchdog
  ────────────────────────────────
  **WHAT THE SECTIONS DO TO THE SESSION WATCHDOG.**

  The watchdog of a session is its state, the armed flag, the deadline and the
  delay of the state work item.  A section leaves it as it is, refreshes it,
  or moves the state and disarms it; which of these it does is all that the
  interleavings of the threads depend on.
-/
import WallController.Bootloader.Threads
import WallController.Bootloader.Finish

namespace WallController.Bootloader

open WallController.Lib

/-! ## §1. The watchdog. -/

/-- The state of the session and its timeout. -/
structure Watchdog where
  state : BootloaderState
  armed : Bool
  deadline : Int
  work : Option Int
  deriving DecidableEq

/-- The watchdog of the controller. -/
def Btl.watchdog (b : Btl) : Watchdog where
  state := b.mgmt.eBtlState
  armed := b.timers.bBootloaderStateTimeoutArmed
  deadline := b.timers.iBootloaderStateDeadline_ms
  work := b.timers.stBtlStateTimeOutWork

namespace Watchdog

/-- A refresh at time `now`. -/
def refreshed (w : Watchdog) (now : Int) (uiTimeOut_ms : Nat) : Watchdog :=
  { w with armed := true, deadline := now + uiTimeOut_ms, work := some (now + uiTimeOut_ms) }

/-- The move to another state, disarmed. -/
def moved (w : Watchdog) (s : BootloaderState) : Watchdog :=
  { w with state := s, armed := false, deadline := 0 }

/-- The cancellation of the state work item. -/
def cancelled (w : Watchdog) : Watchdog := { w with work := none }

end Watchdog

/-! ## §2. The small steps. -/

theorem resetSession_watchdog (eState : BootloaderState) (bFirstEntry : Bool) (b : Btl) :
    (resetSession eState bFirstEntry b).watchdog = b.watchdog.moved eState := by
  have htimers : ∀ b₀ : Btl, (flashAreaCloseIfOpen b₀).timers = b₀.timers := by
    intro b₀
    unfold flashAreaCloseIfOpen
    split <;> rfl
  unfold resetSession Btl.watchdog Watchdog.moved
  simp only [vReinitTxLostPacketInfo, htimers]
  rfl

@[simp] theorem vAbortBootloaderSessionLocked_watchdog (b : Btl) :
    (vAbortBootloaderSessionLocked b).watchdog = b.watchdog.moved .error :=
  resetSession_watchdog .error false b

@[simp] theorem cancelTxTimeOutWork_watchdog (b : Btl) :
    (cancelTxTimeOutWork b).watchdog = b.watchdog := rfl

@[simp] theorem cancelStateTimeOutWork_watchdog (b : Btl) :
    (cancelStateTimeOutWork b).watchdog = b.watchdog.cancelled := rfl

@[simp] theorem vRefresh_watchdog (env : Env) (uiTimeOut_ms : Nat) (b : Btl) :
    (vRefreshBootloaderStateTimeOutLocked env uiTimeOut_ms b).watchdog
      = b.watchdog.refreshed env.uptime uiTimeOut_ms := rfl

@[simp] theorem bIsFirstEntry_watchdog (b : Btl) : (bIsFirstEntry b).2.watchdog = b.watchdog := rfl

@[simp] theorem flashAreaCloseIfOpen_watchdog (b : Btl) :
    (flashAreaCloseIfOpen b).watchdog = b.watchdog := by
  unfold flashAreaCloseIfOpen
  split <;> rfl

@[simp] theorem flashAreaOpen_watchdog (env : Env) (b : Btl) :
    (flashAreaOpen env b).watchdog = b.watchdog := by
  unfold flashAreaOpen
  split <;> rfl

theorem vEraseFlashArea_watchdog (env : Env) (j : Job) :
    (vEraseFlashArea env j).btl.watchdog = j.btl.watchdog := by
  unfold vEraseFlashArea
  simp only
  split
  · exact flashAreaOpen_watchdog env j.btl
  · split <;> exact flashAreaOpen_watchdog env j.btl

theorem retrySection_watchdog (env : Env) (b : Btl) :
    (retrySection env b).2.watchdog = b.watchdog := by
  unfold retrySection
  split
  · rfl
  · split <;> rfl

theorem vGetLostPacketInfoSection_watchdog (env : Env) (j : Job) :
    (vGetLostPacketInfoSection env j).2.btl.watchdog = j.btl.watchdog := by
  unfold vGetLostPacketInfoSection
  split
  · rfl
  · split <;> rfl

theorem vInitBootloaderManagerErased_watchdog (env : Env) (j : Job) :
    (vInitBootloaderManagerErased env j).btl.watchdog = j.btl.watchdog := by
  unfold vInitBootloaderManagerErased
  simp only
  split
  · rfl
  split
  · rfl
  split
  · rfl
  · exact vEraseFlashArea_watchdog env _

theorem idleStateSection_watchdog (b : Btl) (m : CtrlMsg) :
    (idleStateSection b m).2.watchdog = b.watchdog := by
  unfold idleStateSection
  split
  · rfl
  split
  · rfl
  split
  · rfl
  · simp only
    split <;> rfl

/-! ## §3. A packet. -/

/-- The loop is left with the watchdog as it was, or with the session given
up and both work items cancelled. -/
theorem writeBlocks_watchdog {env : Env} {id : Nat} {blocks : List Nat} {j j' : Job} {b : Bool}
    (h : writeBlocks env id blocks j = .ok (b, j')) :
    j'.msg.bIsMsgOk = (b && j.msg.bIsMsgOk) ∧
      j'.btl.watchdog = if b then j.btl.watchdog else (j.btl.watchdog.moved .error).cancelled := by
  induction blocks generalizing j with
  | nil =>
      cases h
      exact ⟨rfl, rfl⟩
  | cons uiIndex rest ih =>
      -- a rejection gives the session up
      have hreject : ∀ (j₁ : Job) (e : BootloaderError), j₁.btl.watchdog = j.btl.watchdog →
          (rejectAndAbort j₁ e).btl.watchdog = (j.btl.watchdog.moved .error).cancelled := by
        intro j₁ e h₁
        rw [← h₁, ← vAbortBootloaderSessionLocked_watchdog]
        rfl
      unfold writeBlocks at h
      simp only at h
      split at h
      · cases h
        exact ⟨rfl, hreject _ _ rfl⟩
      split at h
      · cases h
        exact ⟨rfl, rfl⟩
      split at h
      · cases h
        exact ⟨rfl, hreject _ _ rfl⟩
      generalize (if id * DATA_PAYLOAD_PER_ONE_IMAGE_FRAME + (uiIndex - 2)
        + FW_IMG_WRITE_BYTE_LENGTH ≤ j.btl.mgmt.uiFWImgSize then _ else _) = uiWriteLen at h
      unfold flashAreaWrite at h
      cases hfa : j.btl.flashArea with
      | none =>
          rw [hfa] at h
          cases h
      | some fa =>
          rw [hfa] at h
          simp only at h
          generalize (if fa.fa_size < _ then EINVAL else env.write _) = ret at h
          split at h
          · cases h
            exact ⟨rfl, hreject _ _ rfl⟩
          · split at h
            · cases h
              exact ⟨rfl, rfl⟩
            · have hrest := ih h
              exact hrest

/-- What `vUpdate_FWImage` does to the watchdog: nothing where the packet is
refused, a refresh where it is accepted, and the end of the session. -/
inductive UpdateMoves (env : Env) (j j' : Job) : Prop
  | refused (hok : j'.msg.bIsMsgOk = false) (h : j'.btl.watchdog = j.btl.watchdog)
  | accepted (hst : j.btl.mgmt.eBtlState = .fwImgWriteInProg)
      (hok : j'.msg.bIsMsgOk = j.msg.bIsMsgOk)
      (h : j'.btl.watchdog
        = j.btl.watchdog.refreshed env.uptime TIMEOUT_FW_UPDATE_NextPacket_ms)
  | gaveUp (hst : j.btl.mgmt.eBtlState = .fwImgWriteInProg) (hok : j'.msg.bIsMsgOk = false)
      (h : j'.btl.watchdog = (j.btl.watchdog.moved .error).cancelled)

theorem writePacket_moves {env : Env} {id : Nat} {bIsFirstPacket : Bool} {j j₀ j' : Job}
    (hst : j₀.btl.mgmt.eBtlState = .fwImgWriteInProg) (hmsg : j.msg = j₀.msg)
    (hw : j.btl.watchdog = j₀.btl.watchdog) (h : writePacket env id bIsFirstPacket j = .ok j') :
    UpdateMoves env j₀ j' := by
  unfold writePacket at h
  simp only at h
  -- the first packet opens the flash area
  generalize hj₁ : (if bIsFirstPacket = true then _ else _ : Job) = j₁ at h
  have h₁ : j₁.btl.watchdog = j₀.btl.watchdog ∧ j₁.msg = j₀.msg := by
    rw [← hj₁, ← hw, ← hmsg]
    split
    · exact ⟨flashAreaOpen_watchdog env _, rfl⟩
    · exact ⟨rfl, rfl⟩
  split at h
  · cases h
    refine .gaveUp hst rfl ?_
    show (vAbortBootloaderSessionLocked _).watchdog.cancelled = _
    rw [vAbortBootloaderSessionLocked_watchdog, ← h₁.1]
    rfl
  cases hr : writeBlocks env id blockIndexes j₁ with
  | error b =>
      rw [hr] at h
      cases h
  | ok r =>
      obtain ⟨bDone, j₂⟩ := r
      obtain ⟨hok, hdog⟩ := writeBlocks_watchdog hr
      rw [hr] at h
      cases bDone with
      | false =>
          cases h
          refine .gaveUp hst hok ?_
          rw [hdog, h₁.1]
          rfl
      | true =>
          cases h
          refine .accepted hst ?_ ?_
          · rw [← h₁.2]
            exact hok
          · rw [← h₁.1]
            show j₂.btl.watchdog.refreshed _ _ = _
            rw [hdog]
            rfl

theorem vUpdateFWImage_moves {env : Env} {j j' : Job} (h : vUpdateFWImage env j = .ok j') :
    UpdateMoves env j j' := by
  unfold vUpdateFWImage at h
  -- refused before the session is touched
  split at h
  · cases h
    exact .refused rfl rfl
  simp only at h
  split at h
  · cases h
    exact .refused rfl rfl
  next hst =>
  have hst' : j.btl.mgmt.eBtlState = .fwImgWriteInProg := not_not.mp hst
  split at h
  · cases h
    exact .refused rfl rfl
  have habort : (vAbortBootloaderSession j.btl).watchdog
      = (j.btl.watchdog.moved .error).cancelled := by
    rw [← vAbortBootloaderSessionLocked_watchdog]
    rfl
  split at h
  · cases h
    exact .gaveUp hst' rfl habort
  split at h
  · next hid =>
      -- a packet that is not the next one is admitted, refused, or one too many
      have hm := vHandlePacketIdMismatch_outcome j hid
      generalize vHandlePacketIdMismatch j (packetId j.msg.uiaData) = r at hm h
      cases hm with
      | @admitted img _ =>
          simp only [Bool.not_true, Bool.false_eq_true, if_false] at h
          exact writePacket_moves (j := { j with btl := { j.btl with img := img } }) hst' rfl rfl h
      | refused _ =>
          have hne : ¬ (vSetBootloaderMsgStatus j false .invalidPacketId).btl.mgmt.eBtlState
              = .error := by
            show ¬ j.btl.mgmt.eBtlState = .error
            rw [hst']
            decide
          simp only [Bool.not_false, if_true] at h
          split at h
          · next herr => exact absurd herr hne
          · cases h
            exact .refused rfl rfl
      | tooMany _ =>
          have herr : (vAbortBootloaderSessionLocked j.btl).mgmt.eBtlState = .error := rfl
          simp only [Bool.not_false, if_true] at h
          split at h
          · cases h
            exact .gaveUp hst' rfl habort
          · next hne => exact absurd herr hne
  · exact writePacket_moves hst' rfl rfl h

/-- The ends of a section that leave the session, with what they do to the
watchdog. -/
inductive SectionMoves (env : Env) (uiTimeOut_ms : Nat) (bRefreshed : CtrlMsg → Bool) (j : Job) :
    Except Btl (Job × SectionEnd) → Prop
  | stopped (b : Btl) (h : b.halted.isSome) : SectionMoves env uiTimeOut_ms bRefreshed j (.error b)
  /-- Nothing has been done. -/
  | refused {j' : Job} (hok : bRefreshed j'.msg = false) (h : j'.btl.watchdog = j.btl.watchdog) :
      SectionMoves env uiTimeOut_ms bRefreshed j (.ok (j', .exit))
  /-- The session goes on. -/
  | refreshed {j' : Job} (hst : j.btl.mgmt.eBtlState = .fwImgWriteInProg)
      (hok : bRefreshed j'.msg = true)
      (h : j'.btl.watchdog = j.btl.watchdog.refreshed env.uptime uiTimeOut_ms) :
      SectionMoves env uiTimeOut_ms bRefreshed j (.ok (j', .exit))
  /-- The session has been given up. -/
  | gaveUp {j' : Job} (hst : j.btl.mgmt.eBtlState = .fwImgWriteInProg)
      (h : j'.btl.watchdog = j.btl.watchdog.moved .error) :
      SectionMoves env uiTimeOut_ms bRefreshed j (.ok (j', .cancelWork))
  /-- The image is completed. -/
  | completed {j' : Job} (hst : j.btl.mgmt.eBtlState = .fwImgWriteInProg) (hmsg : j'.msg = j.msg)
      (h : j'.btl.watchdog = j.btl.watchdog.moved .fwImgWriteCompleted) :
      SectionMoves env uiTimeOut_ms bRefreshed j (.ok (j', .completed))

/-- The write loop stops the machine on the null handle. -/
theorem writeBlocks_stopped {env : Env} {id : Nat} {blocks : List Nat} {j : Job} {b : Btl}
    (h : writeBlocks env id blocks j = .error b) : b.halted.isSome := by
  induction blocks generalizing j with
  | nil => cases h
  | cons uiIndex rest ih =>
      unfold writeBlocks at h
      simp only at h
      split at h
      · cases h
      split at h
      · cases h
      split at h
      · cases h
      unfold flashAreaWrite at h
      cases hfa : j.btl.flashArea with
      | none =>
          rw [hfa] at h
          cases h
          rfl
      | some fa =>
          rw [hfa] at h
          simp only at h
          generalize (if fa.fa_size < _ then EINVAL else env.write _) = ret at h
          split at h
          · cases h
          · split at h
            · split at h
              · cases h
              · exact ih h
            · split at h
              · cases h
              · exact ih h

theorem writePacket_stopped {env : Env} {id : Nat} {bIsFirstPacket : Bool} {j : Job} {b : Btl}
    (h : writePacket env id bIsFirstPacket j = .error b) : b.halted.isSome := by
  unfold writePacket at h
  simp only at h
  split at h
  · cases h
  generalize (if bIsFirstPacket = true then _ else _ : Job) = j₁ at h
  cases hr : writeBlocks env id blockIndexes j₁ with
  | error b' =>
      rw [hr] at h
      cases h
      exact writeBlocks_stopped hr
  | ok r =>
      rw [hr] at h
      obtain ⟨bDone, j₂⟩ := r
      cases bDone <;> cases h

theorem vUpdateFWImage_stopped {env : Env} {j : Job} {b : Btl}
    (h : vUpdateFWImage env j = .error b) : b.halted.isSome := by
  unfold vUpdateFWImage at h
  split at h
  · cases h
  simp only at h
  split at h
  · cases h
  split at h
  · cases h
  split at h
  · cases h
  split at h
  · split at h
    · cases h
    · exact writePacket_stopped h
  · exact writePacket_stopped h

/-- The section of `vUpdate_FWImage`. -/
theorem vUpdateFWImageSection_moves (env : Env) {j : Job} (hok : j.msg.bIsMsgOk = true) :
    SectionMoves env TIMEOUT_FW_UPDATE_NextPacket_ms (·.bIsMsgOk) j
      (vUpdateFWImageSection env j) := by
  unfold vUpdateFWImageSection
  cases hr : vUpdateFWImage env j with
  | error b => exact .stopped b (vUpdateFWImage_stopped hr)
  | ok j' =>
      simp only
      have hm := vUpdateFWImage_moves hr
      -- a session that goes on has not gone to the error state
      have hgoes : ∀ w, j'.btl.watchdog = w → w.state = j.btl.mgmt.eBtlState →
          ¬ (j.btl.mgmt.eBtlState = .fwImgWriteInProg ∧ j'.btl.mgmt.eBtlState = .error) := by
        rintro w hw hs ⟨hst, herr⟩
        have hs' : j'.btl.mgmt.eBtlState = j.btl.mgmt.eBtlState := by
          rw [← hs, ← hw]
          rfl
        rw [hs', hst] at herr
        cases herr
      cases hm with
      | refused hno h =>
          rw [if_neg (hgoes _ h rfl)]
          exact .refused hno h
      | accepted hst hyes h =>
          rw [if_neg (hgoes _ h rfl)]
          exact .refreshed hst (hyes.trans hok) h
      | gaveUp hst hno h =>
          have herr : j'.btl.mgmt.eBtlState = .error := congrArg Watchdog.state h
          rw [if_pos ⟨hst, herr⟩]
          refine .gaveUp hst ?_
          have harmed : j'.btl.timers.bBootloaderStateTimeoutArmed = false :=
            congrArg Watchdog.armed h
          have hdeadline : j'.btl.timers.iBootloaderStateDeadline_ms = 0 :=
            congrArg Watchdog.deadline h
          unfold Btl.withWorks Btl.watchdog Watchdog.moved
          simp only [herr, harmed, hdeadline]

/-! ## §4. The end of the image. -/

theorem compareCRC_watchdog {b b' : Btl} {e : BootloaderError} {r : Except Btl (Bool × Btl)}
    (hr : ∀ bDone b₁, r = .ok (bDone, b₁) → b₁.watchdog = b.watchdog)
    (h : compareCRC r = .ok (e, b')) : b'.watchdog = b.watchdog := by
  unfold compareCRC at h
  split at h
  · cases h
  · cases h
    exact hr _ _ rfl
  · next b₁ =>
      cases h
      exact hr true b₁ rfl

theorem readBack_watchdog {env : Env} {fuel pass off n iretryCount : Nat} {b b₁ : Btl}
    {bDone : Bool} (h : readBack env fuel pass off n iretryCount b = .ok (bDone, b₁)) :
    b₁.watchdog = b.watchdog := by
  have hout := readBack_outcome env fuel pass off n iretryCount b
  rw [h] at hout
  have hwatch : WritesOnly b b₁ → b₁.watchdog = b.watchdog := by
    intro hw
    unfold Btl.watchdog
    rw [hw.work.mgmt, hw.timers]
  cases hout with
  | finished h _ _ _ => exact hwatch h
  | failed h _ => exact hwatch h

theorem vValidate_watchdog {env : Env} {b b' : Btl} {e : BootloaderError}
    (h : vValidateFWImgCRCFromFlashAtLostPacketState env b = .ok (e, b')) :
    b'.watchdog = b.watchdog := by
  unfold vValidateFWImgCRCFromFlashAtLostPacketState at h
  by_cases ht : (!b.img.bLostPacketStateTriggered) = true
  · rw [if_pos ht] at h
    cases h
    rfl
  rw [if_neg ht] at h
  by_cases hrec : b.img.uiRecoveredPacketCount < b.img.uiLostPacketCount
  · rw [if_pos hrec] at h
    cases h
    rfl
  rw [if_neg hrec] at h
  exact compareCRC_watchdog (fun _ _ hr => readBack_watchdog hr) h

theorem rejectAndAbortLocked_moves (env : Env) (uiTimeOut_ms : Nat) (bRefreshed : CtrlMsg → Bool)
    {j j₀ : Job} (hst : j₀.btl.mgmt.eBtlState = .fwImgWriteInProg)
    (hw : j.btl.watchdog = j₀.btl.watchdog) (e : BootloaderError) :
    SectionMoves env uiTimeOut_ms bRefreshed j₀ (.ok (rejectAndAbortLocked j e)) := by
  refine .gaveUp hst ?_
  rw [← hw]
  exact vAbortBootloaderSessionLocked_watchdog j.btl

/-- The checks, on a controller with the watchdog of the section's start. -/
theorem checkImageSection_moves (env : Env) {j j₀ : Job}
    (hst : j₀.btl.mgmt.eBtlState = .fwImgWriteInProg)
    (hmsg : j.msg = j₀.msg) (hw : j.btl.watchdog = j₀.btl.watchdog) :
    SectionMoves env TIMEOUT_LOST_PACKET_RECOVERY_PROCESS_ms
      (fun m => m.eErrorCode = .missingPacketsPending) j₀ (checkImageSection env j) := by
  unfold checkImageSection
  simp only
  by_cases ht : j.btl.img.bLostPacketStateTriggered = true
  · rw [if_pos ht]
    split
    · refine .refreshed hst (by simp [vSetBootloaderMsgStatus]) ?_
      rw [← hw]
      rfl
    split
    · exact rejectAndAbortLocked_moves env _ _ hst hw _
    cases hv : vValidateFWImgCRCFromFlashAtLostPacketState env j.btl with
    | error b =>
        have hout := vValidate_outcome env j.btl ht
        rw [hv] at hout
        cases hout with
        | stopped _ _ => exact .stopped _ rfl
    | ok r =>
        obtain ⟨e, b⟩ := r
        have hwb := (vValidate_watchdog hv).trans hw
        simp only
        split
        · exact rejectAndAbortLocked_moves env _ _ (j := { j with btl := b }) hst hwb e
        · refine .completed hst hmsg ?_
          rw [← hwb]
          rfl
  · rw [if_neg ht]
    split
    · exact rejectAndAbortLocked_moves env _ _ hst hw _
    split
    · exact rejectAndAbortLocked_moves env _ _ hst hw _
    · refine .completed hst hmsg ?_
      rw [← hw]
      rfl

/-- The section of `vFinalize_FWImageWrite`. -/
theorem vFinalizeFWImageWriteSection_moves (env : Env) (j : Job) :
    SectionMoves env TIMEOUT_LOST_PACKET_RECOVERY_PROCESS_ms
      (fun m => m.eErrorCode = .missingPacketsPending) j (vFinalizeFWImageWriteSection env j) := by
  unfold vFinalizeFWImageWriteSection
  by_cases hst : j.btl.mgmt.eBtlState ≠ .fwImgWriteInProg
  · rw [if_pos hst]
    exact .refused (by simp [vSetBootloaderMsgStatus]) rfl
  rw [if_neg hst]
  have hst' := not_not.mp hst
  simp only
  split
  · exact rejectAndAbortLocked_moves env _ _ hst' rfl _
  split
  · next hnext =>
      rcases bCanHandleMissingPackets_cases j hnext with ⟨-, heq⟩ | ⟨-, heq⟩
      · simp only [heq, Bool.not_true, Bool.false_eq_true, if_false]
        exact checkImageSection_moves env hst' rfl rfl
      · simp only [heq, Bool.not_false, if_true]
        exact .gaveUp hst' (vAbortBootloaderSessionLocked_watchdog j.btl)
  · exact checkImageSection_moves env hst' rfl rfl

end WallController.Bootloader
