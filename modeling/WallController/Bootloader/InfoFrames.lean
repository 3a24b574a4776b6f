/-
  WallController.Bootloader.InfoFrames
  ────────────────────────────────
  **WHAT THE SECTIONS DO TO THE LOST-PACKET INFO FRAMES.**

  The frame that is sent, the Tx state, the retries and the Tx work item, with
  the state of the session and the frames submitted in it.  Each step of a
  thread moves them in one of a few ways (`TxLine.Moves`).
-/
import WallController.Bootloader.Watchdog

namespace WallController.Bootloader

open WallController.Lib

/-! ## §1. The view. -/

/-- The marks in the trace that tell the frames of a session. -/
def Obs.isInfo : Obs → Bool
  | .sessionStarted _ | .lostPacketInfo _ _ => true
  | _ => false

/-- The state of the session, the Tx record, whether the Tx work item is delayed or
queued, and the marks. -/
structure TxLine where
  state : BootloaderState
  tx : LostPacketTx
  scheduled : Bool
  infos : List Obs

/-- The view of the controller, where the Tx work item is queued or not. -/
def Btl.line (b : Btl) (queued : Bool) : TxLine where
  state := b.mgmt.eBtlState
  tx := b.tx
  scheduled := b.timers.stBtlTxTimeOutWork.isSome || queued
  infos := b.log.filter Obs.isInfo

def Shared.line (s : Shared) : TxLine := s.btl.line s.txWork.queued

/-- What a step may do, by where its thread stands, and whether a frame that it submits is
queued. -/
structure Cause where
  reinits : Bool
  starts : Bool
  recovers : Bool
  builds : Bool
  cancels : Bool
  queued : Bool

namespace Cause

/-- Nothing out of the ordinary. -/
def none : Cause := ⟨false, false, false, false, false, false⟩

def reinit : Cause := { none with reinits := true }

def start : Cause := { none with starts := true }

def recover (bRecovers : Bool) : Cause := { none with recovers := bRecovers }

def build (queued : Bool) : Cause := { none with builds := true, queued := queued }

def cancel : Cause := { none with cancels := true }

end Cause

namespace TxLine

/-- The Tx record cleared, in another state or in the same one. -/
def cleared (L : TxLine) (s : BootloaderState) : TxLine :=
  { L with state := s, tx := LostPacketTx.cleared }

/-- `k_work_cancel_delayable(&stBtlTxTimeOut_Work_t)`. -/
def cancelled (L : TxLine) : TxLine := { L with scheduled := false }

/-- The data to submit again. -/
def outstanding (L : TxLine) : List UInt8 := L.tx.uiaTxData.take (L.tx.stTCANTxMsg.getD 0)

/-- The Tx record with a new frame. -/
def built (L : TxLine) (data : List UInt8) (queued : Bool) : TxLine :=
  let tx := { L.tx with
    uiaTxData := data ++ L.tx.uiaTxData.drop data.length
    stTCANTxMsg := some data.length }
  { L with
    tx := if queued
      then { tx with eTxState := .inProgress, uiFrameSeq := (tx.uiFrameSeq + 1) % 256 }
      else { tx with eTxState := .retryInProgress, uiRetryCount := (tx.uiRetryCount + 1) % 256 }
    infos := .lostPacketInfo data queued :: L.infos }

/-- The frame once more. -/
def resubmitted (L : TxLine) (queued : Bool) : TxLine :=
  { L with
    tx := { L.tx with uiRetryCount := (L.tx.uiRetryCount + 1) % 256, eTxState := .retryInProgress }
    infos := .lostPacketInfo L.outstanding queued :: L.infos }

/-- What a step does to the info frames; `c` is what it may do where its thread
stands. -/
inductive Moves (c : Cause) (L : TxLine) : TxLine → Prop
  | kept : Moves c L L
  /-- The image is completed, or the machine is going to reboot. -/
  | left (s : BootloaderState) (hs : s ≠ .fwImgWriteInProg ∧ s ≠ .idle) :
      Moves c L { L with state := s }
  /-- The session has been given up. -/
  | gaveUp : Moves c L (L.cleared .error)
  | reinitialized (hc : c.reinits = true) : Moves c L (L.cleared .idle)
  /-- `vEnter_LostPacketRecovery_Locked`. -/
  | recovery (hc : c.recovers = true) : Moves c L (L.cleared .fwImgWriteInProg)
  | started (hc : c.starts = true) (uiaData : List UInt8) :
      Moves c L { L with state := .fwImgWriteInProg, infos := .sessionStarted uiaData :: L.infos }
  /-- `vGet_LostPacketInfo`. -/
  | built (hc : c.builds = true) (img : FWImgCtrl) (hidle : L.tx.eTxState = .idle) :
      Moves c L (L.built (lostPacketInfoFrame img L.tx.uiFrameSeq) c.queued)
  /-- The timeout or a NACK. -/
  | retrying (hidle : L.tx.eTxState ≠ .idle) :
      Moves c L { L with tx := { L.tx with eTxState := .retryInProgress } }
  | resubmitted (queued : Bool) (hretry : L.tx.eTxState = .retryInProgress)
      (hcount : L.tx.uiRetryCount < BOOTLOADER_TX_Retry_MAX_COUNT) :
      Moves c L (L.resubmitted queued)
  | acked (hidle : L.tx.eTxState ≠ .idle) :
      Moves c L { L.cancelled with tx := { L.tx with uiRetryCount := 0, eTxState := .idle } }
  | scheduled (hst : L.state = .fwImgWriteInProg) (hidle : L.tx.eTxState ≠ .idle) :
      Moves c L { L with scheduled := true }
  /-- The Tx work item has been cancelled, or is started. -/
  | unscheduled (hc : c.cancels = true) (bScheduled : Bool) :
      Moves c L { L with scheduled := bScheduled }

end TxLine

@[simp] theorem Shared.set_line (s : Shared) (b : Btl) : (s.set b).line = b.line s.txWork.queued := rfl

@[simp] theorem Shared.refresh_line (s : Shared) (env : Env) (uiTimeOut_ms : Nat)
    (bRefreshed : Bool) (b : Btl) :
    (s.refresh env uiTimeOut_ms bRefreshed b).line = b.line s.txWork.queued := rfl

@[simp] theorem Shared.cancelState_line (s : Shared) : s.cancelState.line = s.line := rfl

@[simp] theorem Shared.cancelTx_line (s : Shared) : s.cancelTx.line = s.line.cancelled := rfl

/-! ## §2. The small steps. -/

variable {q : Bool} {env : Env} {b b' : Btl} {j j' : Job}

@[simp] theorem flashAreaCloseIfOpen_line : (flashAreaCloseIfOpen b).line q = b.line q := by
  unfold flashAreaCloseIfOpen
  split
  · rfl
  · rfl

@[simp] theorem flashAreaOpen_line : (flashAreaOpen env b).line q = b.line q := by
  unfold flashAreaOpen
  split
  · rfl
  · rfl

@[simp] theorem resetSession_line {eState : BootloaderState} {bFirstEntry : Bool} :
    (resetSession eState bFirstEntry b).line q = (b.line q).cleared eState := by
  have hclosed : (flashAreaCloseIfOpen (vInvalidateBootloaderStateTimeOutLocked b)).line q
      = b.line q := flashAreaCloseIfOpen_line
  unfold resetSession TxLine.cleared
  rw [← hclosed]
  rfl

@[simp] theorem vAbortBootloaderSessionLocked_line :
    (vAbortBootloaderSessionLocked b).line q = (b.line q).cleared .error := resetSession_line

theorem vEraseFlashArea_line : (vEraseFlashArea env j).btl.line q = j.btl.line q := by
  unfold vEraseFlashArea
  dsimp only
  split
  · exact flashAreaOpen_line
  split
  · exact flashAreaOpen_line
  · exact flashAreaOpen_line

theorem vInitBootloaderManagerErased_line :
    (vInitBootloaderManagerErased env j).btl.line q = j.btl.line q := by
  unfold vInitBootloaderManagerErased
  dsimp only
  split
  · rfl
  split
  · rfl
  split
  · rfl
  · exact vEraseFlashArea_line

theorem idleStateSection_line {m : CtrlMsg} : (idleStateSection b m).2.line q = b.line q := by
  unfold idleStateSection
  split
  · rfl
  split
  · rfl
  split
  · rfl
  dsimp only
  split
  · rfl
  · rfl
  · rfl

/-! ## §3. A packet. -/

theorem vAbortBootloaderSession_line :
    (vAbortBootloaderSession b).line q = { (b.line q).cleared .error with scheduled := q } := by
  have hlocked : (vAbortBootloaderSessionLocked b).line q = (b.line q).cleared .error :=
    vAbortBootloaderSessionLocked_line
  rw [← hlocked]
  rfl

/-- The loop leaves the frames as they are, or the session has been given up. -/
theorem writeBlocks_line {id : Nat} {blocks : List Nat} {bDone : Bool}
    (h : writeBlocks env id blocks j = .ok (bDone, j')) :
    j'.btl.line q = if bDone then j.btl.line q
      else { (j.btl.line q).cleared .error with scheduled := q } := by
  induction blocks generalizing j with
  | nil =>
      cases h
      rfl
  | cons uiIndex rest ih =>
      have hreject : ∀ (j₁ : Job) (e : BootloaderError), j₁.btl.line q = j.btl.line q →
          (rejectAndAbort j₁ e).btl.line q
            = { (j.btl.line q).cleared .error with scheduled := q } := by
        intro j₁ e h₁
        rw [← h₁]
        exact vAbortBootloaderSession_line
      unfold writeBlocks at h
      dsimp only at h
      split at h
      · cases h
        exact hreject _ _ rfl
      split at h
      · cases h
        rfl
      split at h
      · cases h
        exact hreject _ _ rfl
      generalize (if id * DATA_PAYLOAD_PER_ONE_IMAGE_FRAME + (uiIndex - 2)
        + FW_IMG_WRITE_BYTE_LENGTH ≤ j.btl.mgmt.uiFWImgSize then _ else _) = uiWriteLen at h
      unfold flashAreaWrite at h
      cases hfa : j.btl.flashArea with
      | none =>
          rw [hfa] at h
          cases h
      | some fa =>
          rw [hfa] at h
          dsimp only at h
          generalize (if fa.fa_size < _ then EINVAL else env.write _) = ret at h
          split at h
          · cases h
            exact hreject _ _ rfl
          split at h
          · cases h
            rfl
          · have hrest := ih h
            exact hrest

/-- How a packet ends: as it was, or with the session given up. -/
inductive PacketLines (q : Bool) (j j' : Job) : Prop
  | kept (h : j'.btl.line q = j.btl.line q)
  | gaveUp (hst : j.btl.mgmt.eBtlState = .fwImgWriteInProg)
      (h : j'.btl.line q = { (j.btl.line q).cleared .error with scheduled := q })

theorem writePacket_lines {id : Nat} {bIsFirstPacket : Bool} {j₀ : Job}
    (hst : j₀.btl.mgmt.eBtlState = .fwImgWriteInProg)
    (hline : j.btl.line q = j₀.btl.line q) (h : writePacket env id bIsFirstPacket j = .ok j') :
    PacketLines q j₀ j' := by
  unfold writePacket at h
  dsimp only at h
  generalize hj₁ : (if bIsFirstPacket = true then _ else _ : Job) = j₁ at h
  have h₁ : j₁.btl.line q = j₀.btl.line q := by
    rw [← hj₁, ← hline]
    split
    · exact flashAreaOpen_line
    · rfl
  split at h
  · cases h
    apply PacketLines.gaveUp hst
    rw [← h₁]
    exact vAbortBootloaderSession_line
  cases hr : writeBlocks env id blockIndexes j₁ with
  | error b =>
      rw [hr] at h
      cases h
  | ok r =>
      obtain ⟨bDone, j₂⟩ := r
      have hline₂ : j₂.btl.line q = _ := writeBlocks_line hr
      rw [h₁] at hline₂
      rw [hr] at h
      cases bDone with
      | false =>
          cases h
          exact .gaveUp hst hline₂
      | true =>
          cases h
          apply PacketLines.kept
          exact hline₂

theorem vUpdateFWImage_lines (h : vUpdateFWImage env j = .ok j') : PacketLines q j j' := by
  unfold vUpdateFWImage at h
  split at h
  · cases h
    exact .kept rfl
  dsimp only at h
  split at h
  · cases h
    exact .kept rfl
  rename_i hne
  have hst : j.btl.mgmt.eBtlState = .fwImgWriteInProg := not_not.mp hne
  split at h
  · cases h
    exact .kept rfl
  split at h
  · cases h
    exact .gaveUp hst vAbortBootloaderSession_line
  split at h
  · rename_i hid
    have hm := vHandlePacketIdMismatch_outcome j hid
    generalize vHandlePacketIdMismatch j (packetId j.msg.uiaData) = r at hm h
    cases hm with
    | @admitted img _ =>
        simp only [Bool.not_true, Bool.false_eq_true, if_false] at h
        exact writePacket_lines (j := { j with btl := { j.btl with img := img } }) hst rfl h
    | refused _ =>
        simp only [Bool.not_false, if_true] at h
        split at h
        · rename_i herr
          have herr' : j.btl.mgmt.eBtlState = .error := herr
          rw [hst] at herr'
          cases herr'
        · cases h
          exact .kept rfl
    | tooMany _ =>
        have herr : (vAbortBootloaderSessionLocked j.btl).mgmt.eBtlState = .error := rfl
        simp only [Bool.not_false, if_true] at h
        split at h
        · cases h
          exact .gaveUp hst vAbortBootloaderSession_line
        · rename_i hgone
          exact absurd herr hgone
  · exact writePacket_lines hst rfl h

/-- The end of the image is announced while packets are pending, and there is room to
record them. -/
def Btl.entersRecovery (b : Btl) : Prop :=
  b.mgmt.eBtlState = .fwImgWriteInProg
    ∧ uiExpectedPacketCount b.mgmt.uiFWImgSize ≤ UINT16_MAX
    ∧ if b.img.uiNextId < uiExpectedPacketCount b.mgmt.uiFWImgSize then
        b.img.uiLostPacketCount + (uiExpectedPacketCount b.mgmt.uiFWImgSize - b.img.uiNextId)
          ≤ MAX_NUMBER_OF_ALLOWABLE_LOST_PACKETs
      else b.img.bLostPacketStateTriggered = true ∧ 0 < uiGetPendingLostPacketCount b.img

instance (b : Btl) : Decidable b.entersRecovery := by
  unfold Btl.entersRecovery
  infer_instance

/-- How a section of a command ends. -/
inductive SectionLines (q : Bool) (recovers : Prop) (j : Job) :
    Except Btl (Job × SectionEnd) → Prop
  | stopped (b : Btl) (h : b.halted.isSome) : SectionLines q recovers j (.error b)
  | kept {j' : Job} (h : j'.btl.line q = j.btl.line q) : SectionLines q recovers j (.ok (j', .exit))
  /-- Packets are pending. -/
  | recovery {j' : Job} (hrec : recovers)
      (h : j'.btl.line q = (j.btl.line q).cleared .fwImgWriteInProg) :
      SectionLines q recovers j (.ok (j', .exit))
  | gaveUp {j' : Job} (h : j'.btl.line q = (j.btl.line q).cleared .error) :
      SectionLines q recovers j (.ok (j', .cancelWork))
  | completed {j' : Job} (h : j'.btl.line q = { j.btl.line q with state := .fwImgWriteCompleted }) :
      SectionLines q recovers j (.ok (j', .completed))

/-- The work items are what they were, whether or not the session has been given up. -/
theorem withWorks_line {L : TxLine} (h : b'.line q = { L with scheduled := q })
    (hL : L.scheduled = (b.line q).scheduled) : (b'.withWorks b).line q = L := by
  obtain ⟨state, tx, scheduled, infos⟩ := L
  have hstate : b'.mgmt.eBtlState = state := congrArg TxLine.state h
  have htx : b'.tx = tx := congrArg TxLine.tx h
  have hinfos : b'.log.filter Obs.isInfo = infos := congrArg TxLine.infos h
  have hscheduled : scheduled = (b.timers.stBtlTxTimeOutWork.isSome || q) := hL
  rw [hscheduled, ← hstate, ← htx, ← hinfos]
  rfl

/-- The section of `vUpdate_FWImage`. -/
theorem vUpdateFWImageSection_lines : SectionLines q False j (vUpdateFWImageSection env j) := by
  unfold vUpdateFWImageSection
  cases hr : vUpdateFWImage env j with
  | error b => exact .stopped b (vUpdateFWImage_stopped hr)
  | ok j' =>
      dsimp only
      have hlines : PacketLines q j j' := vUpdateFWImage_lines hr
      by_cases hended : j.btl.mgmt.eBtlState = .fwImgWriteInProg ∧ j'.btl.mgmt.eBtlState = .error
      · rw [if_pos hended]
        apply SectionLines.gaveUp
        cases hlines with
        | kept h =>
            have hsame : j'.btl.mgmt.eBtlState = j.btl.mgmt.eBtlState := congrArg TxLine.state h
            rw [hended.1, hended.2] at hsame
            cases hsame
        | gaveUp _ h => exact withWorks_line h rfl
      · rw [if_neg hended]
        cases hlines with
        | kept h => exact .kept h
        | gaveUp hst h =>
            have herr : j'.btl.mgmt.eBtlState = .error := congrArg TxLine.state h
            exact absurd ⟨hst, herr⟩ hended

/-! ## §4. The end of the image. -/

theorem readBack_line {fuel pass off n iretryCount : Nat} {bDone : Bool}
    (h : readBack env fuel pass off n iretryCount b = .ok (bDone, b')) :
    b'.line q = b.line q := by
  induction fuel generalizing pass off n iretryCount b with
  | zero =>
      cases h
      rfl
  | succ fuel ih =>
      unfold readBack at h
      split at h
      · cases h
        rfl
      dsimp only at h
      unfold flashAreaRead at h
      cases hfa : b.flashArea with
      | none =>
          rw [hfa] at h
          cases h
      | some fa =>
          rw [hfa] at h
          dsimp only at h
          generalize (if fa.fa_size < _ then EINVAL else env.read _) = ret at h
          split at h
          · split at h
            · cases h
              rfl
            · have hrest := ih h
              exact hrest
          · have hrest := ih h
            exact hrest

theorem vValidate_line {e : BootloaderError}
    (h : vValidateFWImgCRCFromFlashAtLostPacketState env b = .ok (e, b')) :
    b'.line q = b.line q := by
  unfold vValidateFWImgCRCFromFlashAtLostPacketState at h
  split at h
  · cases h
    rfl
  split at h
  · cases h
    rfl
  cases hr : readBack env (b.uiBytesToRead + 3) 0 b.img.uiReadOffset b.uiBytesToRead 0 b with
  | error b₁ =>
      rw [hr] at h
      cases h
  | ok r =>
      obtain ⟨bDone, b₁⟩ := r
      have hline : b₁.line q = b.line q := readBack_line hr
      rw [hr] at h
      cases bDone with
      | false =>
          cases h
          exact hline
      | true =>
          cases h
          exact hline

theorem checkImageSection_lines {recovers : Prop} {j₀ : Job}
    (hst : j₀.btl.mgmt.eBtlState = .fwImgWriteInProg)
    (hline : j.btl.line q = j₀.btl.line q)
    (hrec : j.btl.img.bLostPacketStateTriggered = true →
      0 < uiGetPendingLostPacketCount j.btl.img → recovers) :
    SectionLines q recovers j₀ (checkImageSection env j) := by
  have hreject : ∀ (j₁ : Job) (e : BootloaderError), j₁.btl.line q = j₀.btl.line q →
      SectionLines q recovers j₀ (.ok (rejectAndAbortLocked j₁ e)) := by
    intro j₁ e h₁
    apply SectionLines.gaveUp
    rw [← h₁]
    exact vAbortBootloaderSessionLocked_line
  have hcompleted : ∀ j₁ : Job, j₁.btl.line q = j₀.btl.line q →
      SectionLines q recovers j₀
        (.ok ({ j₁ with btl := j₁.btl.markedCompleted }, .completed)) := by
    intro j₁ h₁
    apply SectionLines.completed
    rw [← h₁]
    rfl
  unfold checkImageSection
  dsimp only
  by_cases ht : j.btl.img.bLostPacketStateTriggered = true
  · rw [if_pos ht]
    split
    · rename_i hpending
      apply SectionLines.recovery (hrec ht hpending)
      rw [← hline]
      have hstate : j.btl.mgmt.eBtlState = .fwImgWriteInProg :=
        (congrArg TxLine.state hline).trans hst
      unfold TxLine.cleared
      rw [← hstate]
      rfl
    split
    · exact hreject _ _ hline
    cases hv : vValidateFWImgCRCFromFlashAtLostPacketState env j.btl with
    | error b =>
        have hout := vValidate_outcome env j.btl ht
        rw [hv] at hout
        cases hout with
        | stopped _ _ => exact .stopped _ rfl
    | ok r =>
        obtain ⟨e, b⟩ := r
        have hlineb : b.line q = j₀.btl.line q := (vValidate_line hv).trans hline
        dsimp only
        split
        · exact hreject { j with btl := b } e hlineb
        · exact hcompleted { j with btl := b } hlineb
  · rw [if_neg ht]
    split
    · exact hreject _ _ hline
    split
    · exact hreject _ _ hline
    · exact hcompleted _ hline

/-- The section of `vFinalize_FWImageWrite`. -/
theorem vFinalizeFWImageWriteSection_lines :
    SectionLines q j.btl.entersRecovery j (vFinalizeFWImageWriteSection env j) := by
  unfold vFinalizeFWImageWriteSection
  by_cases hst : j.btl.mgmt.eBtlState ≠ .fwImgWriteInProg
  · rw [if_pos hst]
    exact .kept rfl
  rw [if_neg hst]
  have hst' : j.btl.mgmt.eBtlState = .fwImgWriteInProg := not_not.mp hst
  dsimp only
  split
  · exact .gaveUp vAbortBootloaderSessionLocked_line
  rename_i hmax
  have hmax' := Nat.not_lt.mp hmax
  split
  · rename_i hnext
    rcases bCanHandleMissingPackets_cases j hnext with ⟨hroom, heq⟩ | ⟨-, heq⟩
    · rw [heq]
      dsimp only
      rw [Bool.not_true, if_neg Bool.false_ne_true]
      refine checkImageSection_lines hst' rfl ?_
      intro _ _
      refine ⟨hst', hmax', ?_⟩
      rw [if_pos hnext]
      exact hroom
    · rw [heq]
      dsimp only
      rw [Bool.not_false, if_pos rfl]
      exact .gaveUp vAbortBootloaderSessionLocked_line
  · rename_i hnext
    refine checkImageSection_lines hst' rfl ?_
    intro ht hpending
    refine ⟨hst', hmax', ?_⟩
    rw [if_neg hnext]
    exact ⟨ht, hpending⟩

end WallController.Bootloader
