/-
  WallController.Bootloader.Transitions
  ────────────────────────────────
  **WHAT ONE EVENT CAN DO.**

  `Transition` lists everything a command or a timer handler can do to the
  controller, with the conditions under which it does it.  Every invariant of
  the machine is derived from this list; none of them looks at a handler.

  The list needs little of the state before the event: the handle agrees with
  the trace, it is closed outside of a session and before the first packet,
  and no packet is in the middle of being written (`Base`).
-/
import WallController.Bootloader.Upgrade
import WallController.Bootloader.CanController

namespace WallController.Bootloader

open WallController.Lib

/-! ## §1. The invariant of the handle and of the records around it. -/

/-- What holds of the controller between two events, whatever has happened to
the image. -/
structure Base (slot : FlashArea) (b : Btl) : Prop where
  slot_eq : b.slot = slot
  size : b.mgmt.bIsInitialized = true → b.mgmt.uiFlashAreaSize = slot.fa_size
  /-- The completed state is left before the event ends. -/
  state : b.mgmt.eBtlState ≠ .fwImgWriteCompleted
  handle : HandleOk b
  closed : b.mgmt.eBtlState ≠ .fwImgWriteInProg → b.flashArea = none
  first : b.img.untouched → b.flashArea = none
  initialized : b.mgmt.eBtlState = .fwImgWriteInProg → b.mgmt.bIsInitialized = true
  idle : b.mgmt.eBtlState = .fwImgWriteInProg → b.img.bIsFlashWritInProgress = false
  size_pos : b.mgmt.eBtlState = .fwImgWriteInProg → 0 < b.mgmt.uiFWImgSize
  room : b.mgmt.eBtlState = .fwImgWriteInProg →
    FW_IMAGE_SECONDARY_SLOT_WRITE_OFFSET < b.mgmt.uiFlashAreaSize

/-- Work that leaves the image record, the flash and the handle alone. -/
structure Kept (b b' : Btl) : Prop where
  work : Work b b'
  img : b'.img = b.img
  flash : b'.flash = b.flash
  flashArea : b'.flashArea = b.flashArea

theorem Kept.refl (b : Btl) : Kept b b := ⟨.refl b, rfl, rfl, rfl⟩

theorem Kept.trans {b b' b'' : Btl} (h₁ : Kept b b') (h₂ : Kept b' b'') : Kept b b'' where
  work := h₁.work.trans h₂.work
  img := h₂.img.trans h₁.img
  flash := h₂.flash.trans h₁.flash
  flashArea := h₂.flashArea.trans h₁.flashArea

/-- A change of the Tx record and the timers. -/
theorem Kept.of_tx_timers (b : Btl) (tx : LostPacketTx) (timers : Timers) :
    Kept b { b with tx := tx, timers := timers } :=
  ⟨.of_log_eq rfl rfl rfl rfl rfl, rfl, rfl, rfl⟩

/-- A call outside of the flash map. -/
theorem Kept.call {b : Btl} {o : Obs} (hp : o.plain)
    (ho : ∀ isOpen, handleStep isOpen o = some isOpen) (tx : LostPacketTx) :
    Kept b { b with tx := tx, log := o :: b.log } :=
  ⟨.one rfl rfl rfl rfl hp fun h => h.other rfl rfl rfl (ho _), rfl, rfl, rfl⟩

theorem Base.kept {slot : FlashArea} {b b' : Btl} (hb : Base slot b) (h : Kept b b') :
    Base slot b' where
  slot_eq := h.work.slot.trans hb.slot_eq
  size := by rw [h.work.mgmt]; exact hb.size
  state := by rw [h.work.mgmt]; exact hb.state
  handle := h.work.handle hb.handle
  closed := by rw [h.work.mgmt, h.flashArea]; exact hb.closed
  first := by rw [h.img, h.flashArea]; exact hb.first
  initialized := by rw [h.work.mgmt]; exact hb.initialized
  idle := by rw [h.work.mgmt, h.img]; exact hb.idle
  size_pos := by rw [h.work.mgmt]; exact hb.size_pos
  room := by rw [h.work.mgmt]; exact hb.room

/-- The marks of the progress, beside the calls. -/
def Obs.mark : Obs → Bool
  | .sessionStarted _ | .packetAccepted _ _ => true
  | _ => false

theorem Obs.plain_not_mark {o : Obs} (h : o.plain) : o.mark = false := by
  cases o <;> first | rfl | cases h

/-- Neither an upgrade request nor a mark. -/
structure Ordinary (o : Obs) : Prop where
  request : ∀ mgmt flash ret, o ≠ .bootRequestUpgrade mgmt flash ret
  mark : o.mark = false

theorem Obs.plain_ordinary {o : Obs} (h : o.plain) : Ordinary o :=
  ⟨Obs.plain_not_request h, Obs.plain_not_mark h⟩

/-- The marks that a command can make: the start of a session carries the
payload of the request, an accepted packet the id and the data of its own.  The
idle state takes no command at all for a request. -/
def CtrlMsg.Marks (m : CtrlMsg) : Obs → Prop
  | .sessionStarted uiaData =>
      (m.eCMD = .none ∨ m.eCMD = .fwUpReq) ∧ uiaData = m.uiaData
  | .packetAccepted id data =>
      m.eCMD = .fwUpMsg ∧ id = packetId m.uiaData ∧ data = m.uiaData.drop 2
  | _ => False

/-- A new session, as its request declares it: the partition is erased, the
image record cleared. -/
structure Started (uiaData : List UInt8) (b b' : Btl) : Prop where
  was_idle : b.mgmt.eBtlState = .idle
  state : b'.mgmt.eBtlState = .fwImgWriteInProg
  initialized : b'.mgmt.bIsInitialized = true
  was_initialized : b.mgmt.bIsInitialized = true
  size : b'.mgmt.uiFlashAreaSize = b.mgmt.uiFlashAreaSize
  slot : b'.slot = b.slot
  halted : b'.halted = b.halted
  flashArea : b'.flashArea = none
  img : b'.img = FWImgCtrl.cleared
  log : b'.log = .sessionStarted uiaData :: .flashClose :: .flashErase 0 :: .flashOpen 0 :: b.log
  image_size : b'.mgmt.uiFWImgSize = requestedSize uiaData
  image_crc : b'.mgmt.uiCRC = UInt16.ofNat (be16 uiaData 8)
  size_pos : 0 < b'.mgmt.uiFWImgSize
  size_fits : b'.mgmt.uiFWImgSize + FW_IMAGE_SECONDARY_SLOT_WRITE_OFFSET
    ≤ b'.mgmt.uiFlashAreaSize
  handle : HandleOk b → HandleOk b'

/-! ## §2. The list. -/

/-- What one command or timer handler can do to the controller; `ends` says
that it is the command that announces the end of the image, `mark` which marks
it can make. -/
inductive Transition (env : Env) (ends : Prop) (mark : Obs → Prop) (b : Btl) : Btl → Prop
  /-- Rejections, and everything about the Tx record and the timers. -/
  | kept {b' : Btl} (h : Kept b b') : Transition env ends mark b b'
  /-- The session is given up, or no session is begun. -/
  | ended {b' : Btl} (h : EndedBy Ordinary b b') : Transition env ends mark b b'
  | started {b' : Btl} {uiaData : List UInt8} (h : Started uiaData b b')
      (hmark : mark (.sessionStarted uiaData)) : Transition env ends mark b b'
  /-- A packet is accepted. -/
  | accepted {id : Nat} {img : FWImgCtrl} {b₁ : Btl} {data : List UInt8}
      (hstate : b.mgmt.eBtlState = .fwImgWriteInProg)
      (hlen : data.length = DATA_PAYLOAD_PER_ONE_IMAGE_FRAME)
      (hadm : Admits b.img id img)
      (hopen : b.img.untouched → env.open_ = 0)
      (hin : id * DATA_PAYLOAD_PER_ONE_IMAGE_FRAME ≤ b.uiAvailableFlashSize)
      (h : WritesOnly (b.beginPacket env id img) b₁)
      (hst : img.uiReceivedByteCount + packetLen b.mgmt.uiFWImgSize id ≤ b.mgmt.uiFWImgSize →
        Stored id (packetAddr id) DATA_PAYLOAD_PER_ONE_IMAGE_FRAME
          (data.take (packetLen b.mgmt.uiFWImgSize id)) (b.beginPacket env id img) b₁)
      (hmark : mark (.packetAccepted id data)) :
      Transition env ends mark b (b₁.endPacket env id data)
  /-- The end of the image is announced while packets are missing. -/
  | missing {img : FWImgCtrl} (hends : ends) (hstate : b.mgmt.eBtlState = .fwImgWriteInProg)
      (hmax : uiExpectedPacketCount b.mgmt.uiFWImgSize ≤ UINT16_MAX)
      (hrec : Records b.img (uiExpectedPacketCount b.mgmt.uiFWImgSize) img) :
      Transition env ends mark b (vEnterLostPacketRecoveryLocked env { b with img := img })
  /-- The image has passed the checks, and the upgrade is requested. -/
  | completed {img : FWImgCtrl} {b₁ b' : Btl} (hends : ends) (hstate : b.mgmt.eBtlState = .fwImgWriteInProg)
      (hmax : uiExpectedPacketCount b.mgmt.uiFWImgSize ≤ UINT16_MAX)
      (hrec : Records b.img (uiExpectedPacketCount b.mgmt.uiFWImgSize) img)
      (hw : Work { b with img := img } b₁) (hflash : b₁.flash = b.flash)
      (hc : Checked { b with img := img }) (h : EndedBy (RequestsFor b₁) b₁ b') :
      Transition env ends mark b b'
  /-- A write or a read on the null handle. -/
  | nullHandle {b' : Btl} (h : Work b b') (hstate : b.mgmt.eBtlState = .fwImgWriteInProg)
      (why : b.flashArea = none) (htouched : ¬ b.img.untouched) :
      Transition env ends mark b { b' with halted := some .nullFlashArea }
  | rebooted {b' : Btl} (hm : b'.mgmt = b.mgmt) (hs : b'.slot = b.slot)
      (hlog : b'.log = b.log) (hfa : b'.flashArea = b.flashArea)
      (h : b'.halted = some .sysReboot) : Transition env ends mark b b'

/-- A transition under a weaker reading of `ends` and of `mark`. -/
theorem Transition.mono {env : Env} {p q : Prop} {mark mark' : Obs → Prop} {b b' : Btl}
    (h : Transition env p mark b b') (hpq : p → q) (hmark' : ∀ o, mark o → mark' o) :
    Transition env q mark' b b' := by
  cases h with
  | kept h => exact .kept h
  | ended h => exact .ended h
  | started h hmark => exact .started h (hmark' _ hmark)
  | accepted hstate hlen hadm hopen hin h hst hmark =>
      exact .accepted hstate hlen hadm hopen hin h hst (hmark' _ hmark)
  | missing hends hstate hmax hrec => exact .missing (hpq hends) hstate hmax hrec
  | completed hends hstate hmax hrec hw hflash hc h =>
      exact .completed (hpq hends) hstate hmax hrec hw hflash hc h
  | nullHandle h hstate why htouched => exact .nullHandle h hstate why htouched
  | rebooted hm hs hlog hfa h => exact .rebooted hm hs hlog hfa h

/-- The controller that a handler leaves behind. -/
def handlerResult : Except Btl Job → Btl
  | .ok j => j.btl
  | .error b => b

/-! ## §3. Outside of a session. -/

/-- Outside of a session nothing but the trace, the flash, the flag of the
first entry and the fields of the next image change. -/
theorem EndedBy.outside {b b' : Btl} (calls : List Obs)
    (hstate : b'.mgmt.eBtlState = b.mgmt.eBtlState)
    (h₁ : b.mgmt.eBtlState ≠ .fwImgWriteInProg) (h₂ : b.mgmt.eBtlState ≠ .fwImgWriteCompleted)
    (hinit : b'.mgmt.bIsInitialized = b.mgmt.bIsInitialized)
    (hsize : b'.mgmt.uiFlashAreaSize = b.mgmt.uiFlashAreaSize) (hslot : b'.slot = b.slot)
    (hh : b'.halted = b.halted) (hfa : b'.flashArea = none)
    (hlog : b'.log = calls ++ b.log) (hc : ∀ o ∈ calls, Ordinary o)
    (hok : HandleOk b → HandleOk b') : EndedBy Ordinary b b' where
  state := by
    rw [hstate]
    exact ⟨h₁, h₂⟩
  initialized := hinit
  size := hsize
  slot := hslot
  halted := hh
  flashArea := hfa
  log := ⟨calls, hlog, hc⟩
  handle := hok

theorem Ended.ordinary {b b' : Btl} (h : Ended b b') : EndedBy Ordinary b b' :=
  { h with
    log := by
      obtain ⟨calls, hl, hp⟩ := h.log
      exact ⟨calls, hl, fun o ho => Obs.plain_ordinary (hp o ho)⟩ }

/-- The flag of the first entry is of no concern outside of a session. -/
theorem bIsFirstEntry_ended {slot : FlashArea} {b : Btl} (hb : Base slot b)
    (hst : b.mgmt.eBtlState ≠ .fwImgWriteInProg) :
    EndedBy Ordinary b (bIsFirstEntry b).2 := by
  refine .outside [] rfl hst hb.state rfl rfl rfl rfl (hb.closed hst) rfl (by simp) ?_
  exact fun h => h.congr rfl rfl rfl

/-- The erase: the partition is opened, erased and closed again. -/
inductive EraseOutcome (env : Env) (j : Job) : Job → Prop
  | openFailed (h : env.open_ ≠ 0) :
      EraseOutcome env j (vSetBootloaderMsgStatus
        { j with btl := { j.btl with log := .flashOpen env.open_ :: j.btl.log } }
        false .flashAreaOpenFail)
  | eraseFailed (h : env.erase ≠ 0) :
      EraseOutcome env j (vSetBootloaderMsgStatus
        { j with btl := { j.btl with
          flashArea := none
          flash := env.wreck
          log := .flashClose :: .flashErase env.erase :: .flashOpen 0 :: j.btl.log } }
        false .flashAreaEraseFail)
  | erased (hopen : env.open_ = 0) (herase : env.erase = 0) :
      EraseOutcome env j (vSetBootloaderMsgStatus
        { j with btl := { j.btl with
          flashArea := none
          flash := fun _ => 0xFF
          log := .flashClose :: .flashErase 0 :: .flashOpen 0 :: j.btl.log } }
        true .none)

theorem vEraseFlashArea_outcome (env : Env) (j : Job) :
    EraseOutcome env j (vEraseFlashArea env j) := by
  unfold vEraseFlashArea flashAreaOpen
  by_cases hopen : env.open_ = 0
  · simp only [hopen, if_true, ne_eq, not_true_eq_false, if_false]
    by_cases herase : env.erase = 0
    · simp only [herase, if_true, not_true_eq_false, if_false]
      exact .erased hopen herase
    · simp only [herase, if_false, not_false_eq_true, if_true]
      exact .eraseFailed herase
  · simp only [hopen, if_false, ne_eq, not_false_eq_true, if_true]
    exact .openFailed hopen

/-- Open, erase and close keep the discipline of a closed handle. -/
theorem HandleOk.erase {b b' : Btl} {ret : Int} (h : HandleOk b) (hfa : b.flashArea = none)
    (hlog : b'.log = .flashClose :: .flashErase ret :: .flashOpen 0 :: b.log)
    (hfa' : b'.flashArea = none) : HandleOk b' where
  trace := by
    rw [hlog, hfa']
    simp [handleOpen, h.trace, hfa, handleStep]
  slot := by
    intro fa hfa''
    rw [hfa'] at hfa''
    cases hfa''

/-- A request in the idle state begins a session, or changes nothing that
matters. -/
theorem vInitBootloaderManager_outcome (env : Env) {slot : FlashArea} {j : Job}
    (hb : Base slot j.btl) (hst : j.btl.mgmt.eBtlState = .idle)
    (hinit : j.btl.mgmt.bIsInitialized = true) :
    EndedBy Ordinary j.btl (vInitBootloaderManagerForNewFWImage env j).btl ∨
      Started j.msg.uiaData j.btl (vInitBootloaderManagerForNewFWImage env j).btl := by
  have hne : j.btl.mgmt.eBtlState ≠ .fwImgWriteInProg := by
    rw [hst]
    decide
  have hfa := hb.closed hne
  unfold vInitBootloaderManagerForNewFWImage
  simp only
  generalize hsize : requestedSize j.msg.uiaData = size
  by_cases hzero : size = 0
  · rw [if_pos hzero]
    exact .inl (.outside [] rfl hne hb.state rfl rfl rfl rfl hfa rfl (by simp)
      fun h => h.congr rfl rfl rfl)
  rw [if_neg hzero]
  by_cases hsmall : j.btl.mgmt.uiFlashAreaSize ≤ FW_IMAGE_SECONDARY_SLOT_WRITE_OFFSET
  · rw [if_pos hsmall]
    exact .inl (.outside [] rfl hne hb.state rfl rfl rfl rfl hfa rfl (by simp)
      fun h => h.congr rfl rfl rfl)
  rw [if_neg hsmall]
  by_cases hlarge : size > j.btl.mgmt.uiFlashAreaSize - FW_IMAGE_SECONDARY_SLOT_WRITE_OFFSET
  · rw [if_pos hlarge]
    exact .inl (.outside [] rfl hne hb.state rfl rfl rfl rfl hfa rfl (by simp)
      fun h => h.congr rfl rfl rfl)
  rw [if_neg hlarge]
  -- the erase decides
  generalize hj₁ : ({ j with btl := { j.btl with
    mgmt := { j.btl.mgmt with
      uiFWImgSize := size
      uiHWRev := (j.msg.uiaData.getD 3 0).toNat
      uiLibRev := be16 j.msg.uiaData 4
      uiFWRev := be16 j.msg.uiaData 6
      uiCRC := UInt16.ofNat (be16 j.msg.uiaData 8) }
    img := FWImgCtrl.cleared } } : Job) = j₁
  have herase := vEraseFlashArea_outcome env j₁
  generalize vEraseFlashArea env j₁ = j₂ at herase ⊢
  cases herase with
  | openFailed hopen =>
      simp only [vSetBootloaderMsgStatus, Bool.not_false, if_true]
      subst hj₁
      refine .inl (.outside [.flashOpen env.open_] rfl hne hb.state rfl rfl rfl rfl hfa rfl ?_ ?_)
      · intro o ho
        rw [List.mem_singleton.mp ho]
        exact ⟨fun _ _ _ => by simp, rfl⟩
      · intro h
        refine h.cons rfl ?_ h.slot
        simp [handleStep, hfa, hopen]
  | eraseFailed herase =>
      simp only [vSetBootloaderMsgStatus, Bool.not_false, if_true]
      subst hj₁
      refine .inl (.outside [.flashClose, .flashErase env.erase, .flashOpen 0]
        rfl hne hb.state rfl rfl rfl rfl rfl rfl ?_ ?_)
      · intro o ho
        simp only [List.mem_cons, List.not_mem_nil, or_false] at ho
        rcases ho with rfl | rfl | rfl <;> exact ⟨fun _ _ _ => by simp, rfl⟩
      · exact fun h => h.erase hfa rfl rfl
  | erased hopen herase =>
      simp only [vSetBootloaderMsgStatus, Bool.not_true, Bool.false_eq_true, if_false]
      subst hj₁
      refine .inr ?_
      exact {
        was_idle := hst
        state := rfl
        initialized := hinit
        was_initialized := hinit
        size := rfl
        slot := rfl
        halted := rfl
        flashArea := rfl
        img := rfl
        log := rfl
        image_size := hsize.symm
        image_crc := rfl
        size_pos := Nat.pos_of_ne_zero hzero
        size_fits := by
          show size + _ ≤ j.btl.mgmt.uiFlashAreaSize
          omega
        handle := by
          intro h
          have herased : HandleOk { j.btl with
              log := .flashClose :: .flashErase 0 :: .flashOpen 0 :: j.btl.log } :=
            h.erase hfa rfl hfa
          exact herased.cons rfl (by rw [hfa]; rfl) (by intro fa hfa'; cases hfa') }

/-! ## §4. The lost-packet info frames. -/

/-- The Tx functions keep the session or give it up. -/
def TxStep (b b' : Btl) : Prop := Kept b b' ∨ Ended b b'

theorem Kept.txStep {b b' b'' : Btl} (h₁ : Kept b b') (h₂ : TxStep b' b'') : TxStep b b'' := by
  rcases h₂ with h₂ | h₂
  · exact .inl (h₁.trans h₂)
  · exact .inr (h₁.work.ended (fun _ hp => hp) h₂)

theorem TxStep.transition {env : Env} {ends : Prop} {mark : Obs → Prop} {b b' : Btl}
    (h : TxStep b b') : Transition env ends mark b b' := by
  rcases h with h | h
  · exact .kept h
  · exact .ended h.ordinary

theorem bScheduleLostPacketTimeouts_kept (env : Env) (b : Btl) :
    Kept b (bScheduleLostPacketTimeouts env b) := by
  unfold bScheduleLostPacketTimeouts
  by_cases h : b.mgmt.eBtlState = .fwImgWriteInProg ∧ b.tx.eTxState ≠ .idle
  · rw [if_pos h]
    exact .of_tx_timers b _ _
  · rw [if_neg h]
    exact .refl b

theorem vProcessBootloaderTxError_step (b : Btl) : TxStep b (vProcessBootloaderTxError b) := by
  unfold vProcessBootloaderTxError
  by_cases h : b.mgmt.eBtlState = .fwImgWriteInProg
  · rw [if_pos h]
    have hcancel : Kept b (cancelTxTimeOutWork b) := .of_tx_timers b _ _
    exact hcancel.txStep (.inr (vAbortBootloaderSession_ended _))
  · rw [if_neg h]
    exact .inl (.refl b)

theorem vProcessBootloaderRetryTx_step (env : Env) (b : Btl) :
    TxStep b (vProcessBootloaderRetryTx env b) := by
  unfold vProcessBootloaderRetryTx
  by_cases h : b.tx.eTxState ≠ .retryInProgress
  · rw [if_pos h]
    exact .inl (.refl b)
  rw [if_neg h]
  by_cases hmax : b.tx.uiRetryCount ≥ BOOTLOADER_TX_Retry_MAX_COUNT
  · rw [if_pos hmax]
    exact vProcessBootloaderTxError_step b
  · rw [if_neg hmax]
    refine .inl ((Kept.call ?_ ?_ _).trans (bScheduleLostPacketTimeouts_kept env _))
    · rfl
    · exact fun _ => rfl

theorem vGetLostPacketInfo_kept (env : Env) (j : Job) :
    Kept j.btl (vGetLostPacketInfo env j).btl := by
  unfold vGetLostPacketInfo
  by_cases hcmd : j.msg.eCMD ≠ .getLostPacketInfo
  · rw [if_pos hcmd]
    exact .refl _
  rw [if_neg hcmd]
  by_cases htx : j.btl.tx.eTxState ≠ .idle
  · rw [if_pos htx]
    exact .refl _
  · rw [if_neg htx]
    refine (Kept.call ?_ ?_ _).trans (bScheduleLostPacketTimeouts_kept env _)
    · rfl
    · exact fun _ => rfl

theorem vHandleLostPacketInfoTxResponse_step (env : Env) (eAck uiFrameSeq : UInt8) (b : Btl) :
    TxStep b (vHandleLostPacketInfoTxResponse env eAck uiFrameSeq b) := by
  unfold vHandleLostPacketInfoTxResponse
  by_cases hack : eAck ≠ eCAN_ACK ∧ eAck ≠ eCAN_NACK
  · rw [if_pos hack]
    exact .inl (.refl b)
  rw [if_neg hack]
  by_cases hlen : b.tx.stTCANTxMsg.getD 0 < 3
  · rw [if_pos hlen]
    exact .inl (.refl b)
  rw [if_neg hlen]
  by_cases hidle : b.tx.eTxState = .idle
  · rw [if_pos hidle]
    exact .inl (.refl b)
  rw [if_neg hidle]
  by_cases hseq : uiFrameSeq ≠ b.tx.uiaTxData.getD 2 0
  · rw [if_pos hseq]
    exact .inl (.refl b)
  rw [if_neg hseq]
  by_cases hok : eAck = eCAN_ACK
  · rw [if_pos hok]
    exact .inl (.of_tx_timers b _ _)
  · rw [if_neg hok]
    exact (Kept.of_tx_timers b _ b.timers).txStep (vProcessBootloaderRetryTx_step env _)

theorem vHandleHostAcknowledgements_step (env : Env) (j : Job) :
    TxStep j.btl (vHandleHostAcknowledgements env j).btl := by
  unfold vHandleHostAcknowledgements
  split
  · unfold vHandleACKForLostPacketInfo
    by_cases hcmd : j.msg.eCMD ≠ .retLostPacketInfo
    · rw [if_pos hcmd]
      exact .inl (.refl _)
    · rw [if_neg hcmd]
      exact vHandleLostPacketInfoTxResponse_step env _ _ _
  · exact .inl (.refl _)

theorem vBtlTxTimeOutHandler_step (env : Env) (b : Btl) :
    TxStep b (vBtlTxTimeOutHandler env b) := by
  unfold vBtlTxTimeOutHandler
  by_cases hidle : b.tx.eTxState = .idle
  · rw [if_pos hidle]
    exact .inl (.of_tx_timers b _ _)
  rw [if_neg hidle]
  by_cases hmax : b.tx.uiRetryCount ≥ BOOTLOADER_TX_Retry_MAX_COUNT
  · rw [if_pos hmax]
    exact vProcessBootloaderTxError_step b
  · rw [if_neg hmax]
    exact (Kept.of_tx_timers b _ b.timers).txStep (vProcessBootloaderRetryTx_step env _)

/-! ## §5. The commands and the timer handlers. -/

/-- A command in the idle state. -/
theorem vExecuteBootloaderIdleState_transition (env : Env) {ends : Prop} {slot : FlashArea} {j : Job}
    (hb : Base slot j.btl) (hst : j.btl.mgmt.eBtlState = .idle) :
    Transition env ends j.msg.Marks j.btl (vExecuteBootloaderIdleState env j).btl := by
  have hne : j.btl.mgmt.eBtlState ≠ .fwImgWriteInProg := by
    rw [hst]
    decide
  unfold vExecuteBootloaderIdleState
  by_cases hinit : j.btl.mgmt.bIsInitialized = true
  · simp only [hinit, Bool.not_true, Bool.false_eq_true, if_false, hne]
    by_cases hlen : j.msg.uiLen ≠ 10
    · rw [if_pos hlen]
      exact .kept (.refl _)
    rw [if_neg hlen]
    have hentry := bIsFirstEntry_ended hb hne
    have hb' : Base slot (bIsFirstEntry j.btl).2 :=
      { hb with handle := hentry.handle hb.handle }
    have hstart := vInitBootloaderManager_outcome env
      (j := { j with btl := (bIsFirstEntry j.btl).2 }) hb' hst hinit
    have hrequest (hcmd : j.msg.eCMD = .none ∨ j.msg.eCMD = .fwUpReq) :
        Transition env ends j.msg.Marks j.btl (vInitBootloaderManagerForNewFWImage env
          { j with btl := (bIsFirstEntry j.btl).2 }).btl := by
      rcases hstart with h | h
      · exact .ended { h with handle := fun hok => h.handle (hentry.handle hok) }
      · exact .started { h with handle := fun hok => h.handle (hentry.handle hok) } ⟨hcmd, rfl⟩
    split
    · exact hrequest (.inl ‹_›)
    · exact hrequest (.inr ‹_›)
    · exact .ended hentry
  · have hinit' : j.btl.mgmt.bIsInitialized = false := by simpa using hinit
    simp only [hinit', Bool.not_false, if_true]
    exact .kept (.refl _)

/-- A packet in a session. -/
theorem PacketOutcome.transition {env : Env} {ends : Prop} {mark : Obs → Prop} {id : Nat} {j : Job}
    {r : Except Btl Job} (hstate : j.btl.mgmt.eBtlState = .fwImgWriteInProg)
    (h : PacketOutcome env id j r) (hmark : mark (.packetAccepted id (j.msg.uiaData.drop 2))) :
    Transition env ends mark j.btl (handlerResult r) := by
  cases h with
  | refused e why => exact .kept (.refl _)
  | @gaveUp b e h why =>
      have hend := rejectAndAbort_ended { j with btl := b } e
      exact .ended (h.ended (fun _ hp => Obs.plain_ordinary hp) hend.ordinary)
  | stopped h why htouched => exact .nullHandle h hstate why htouched
  | accepted hlen hadm hopen hin h hst =>
      refine .accepted hstate ?_ hadm hopen hin h hst hmark
      rw [List.length_drop]
      show j.msg.uiLen - 2 = _
      rw [hlen]
      rfl

/-- In an untouched session the end of the image finds packets missing. -/
theorem Records.pending_pos {img img' : FWImgCtrl} {n : Nat} (h : Records img n img')
    (hn : 0 < n) (hu : img.untouched) : 0 < uiGetPendingLostPacketCount img' := by
  cases h with
  | none hle =>
      have := hu.2
      omega
  | gap hlt _ =>
      unfold uiGetPendingLostPacketCount
      rw [List.countP_pos_iff]
      have hmem : LostPacketCtrl.mk false img.uiNextId
          ∈ missingEntries img.uiNextId (n - img.uiNextId) :=
        mem_missingEntries.mpr ⟨rfl, Nat.le_refl _, by show img.uiNextId < _; omega⟩
      exact ⟨_, List.mem_append_right _ hmem, rfl⟩

/-- The announced end of the image. -/
theorem FinishOutcome.transition {env : Env} {mark : Obs → Prop} {j : Job} {r : Except Btl Job}
    (hstate : j.btl.mgmt.eBtlState = .fwImgWriteInProg) (hcmd : j.msg.eCMD = .fwUpEnd)
    (hsize : 0 < j.btl.mgmt.uiFWImgSize) (h : FinishOutcome env j r) :
    Transition env (j.msg.eCMD = .fwUpEnd) mark j.btl (handlerResult r) := by
  cases h with
  | tooLarge h => exact .ended (rejectAndAbort_ended j _).ordinary
  | tooMany h => exact .ended (rejectAndAbort_ended j _).ordinary
  | @checked img r hmax hrec h =>
      cases h with
      | pending hp => exact .missing hcmd hstate hmax hrec
      | @gaveUp b e h hp why =>
          have hend := rejectAndAbort_ended { j with btl := b } e
          have hw : Work j.btl b := Work.of_img h
          exact .ended (hw.ended (fun _ hp => Obs.plain_ordinary hp) hend.ordinary)
      | stopped h why hp =>
          refine .nullHandle (Work.of_img h) hstate why ?_
          intro hu
          have hpos : 0 < uiExpectedPacketCount j.btl.mgmt.uiFWImgSize := by
            unfold uiExpectedPacketCount DATA_PAYLOAD_PER_ONE_IMAGE_FRAME
            omega
          have := hrec.pending_pos hpos hu
          have hp' : uiGetPendingLostPacketCount img = 0 := hp
          omega
      | @completed b h hflash hc =>
          exact .completed hcmd hstate hmax hrec h hflash hc
            (markCompleted_ended env (j := { j with btl := b }) hcmd)

/-- **One command.** -/
theorem vUpdateBootloader_transition (env : Env) {slot : FlashArea} {j : Job}
    (hb : Base slot j.btl) :
    Transition env (j.msg.eCMD = .fwUpEnd) j.msg.Marks j.btl
      (handlerResult (vUpdateBootloader env j)) := by
  unfold vUpdateBootloader
  cases hst : j.btl.mgmt.eBtlState with
  | inactive => exact .kept (.refl _)
  | idle => exact vExecuteBootloaderIdleState_transition env hb hst
  | fwImgWriteInProg =>
      unfold vExecuteBootloaderFWImgWriteState
      simp only [hb.initialized hst, Bool.not_true, Bool.false_eq_true, if_false]
      cases hcmd : j.msg.eCMD with
      | fwUpStop => exact .ended (vAbortBootloaderSession_ended _).ordinary
      | fwUpEnd =>
          have hout := vFinalizeFWImageWrite_outcome env j hst
          exact (hout.transition hst hcmd (hb.size_pos hst)).mono (fun _ => rfl) fun _ h => h
      | fwUpMsg =>
          have hout := vUpdateFWImage_outcome env j hst (hb.idle hst) (hb.room hst) hb.first
          exact hout.transition hst ⟨hcmd, rfl, rfl⟩
      | getLostPacketInfo => exact .kept (vGetLostPacketInfo_kept env j)
      | _ => exact .kept (.refl _)
  | fwImgWriteCompleted => exact absurd hst hb.state
  | reboot => exact .rebooted rfl rfl rfl rfl rfl
  | error =>
      have hne : j.btl.mgmt.eBtlState ≠ .fwImgWriteInProg := by
        rw [hst]
        decide
      have hentry := bIsFirstEntry_ended hb hne
      unfold vExecuteBootloaderErrorState
      simp only
      split
      · have hend := (vReinitBootloaderStateMachine_ended (bIsFirstEntry j.btl).2).ordinary
        exact .ended { hend with handle := fun hok => hend.handle (hentry.handle hok) }
      · exact .ended hentry
  | waitForAuthResponse => exact .kept (.refl _)

/-- **The state timer.** -/
theorem vBtlStateTimeOutHandler_transition (env : Env) {ends : Prop} {mark : Obs → Prop} (b : Btl) :
    Transition env ends mark b
      (match vBtlStateTimeOutHandler env b with | .ok b' => b' | .error b' => b') := by
  unfold vBtlStateTimeOutHandler
  by_cases harmed : b.timers.bBootloaderStateTimeoutArmed = true
  · simp only [harmed, Bool.not_true, Bool.false_eq_true, if_false]
    by_cases hleft : b.timers.iBootloaderStateDeadline_ms - env.uptime > 0
    · rw [if_pos hleft]
      exact .kept (.of_tx_timers b b.tx _)
    rw [if_neg hleft]
    by_cases hreb : (vInvalidateBootloaderStateTimeOutLocked b).mgmt.eBtlState = .reboot
    · rw [if_pos hreb]
      exact .rebooted rfl rfl rfl rfl rfl
    · rw [if_neg hreb]
      have hinv : Work b (vInvalidateBootloaderStateTimeOutLocked b) :=
        .of_log_eq rfl rfl rfl rfl rfl
      have hend := vAbortBootloaderSessionLocked_ended (vInvalidateBootloaderStateTimeOutLocked b)
      have hall : Ended b _ := hinv.ended (fun _ hp => hp) hend
      exact .ended { hall.ordinary with handle := fun hok => (hall.handle hok).congr rfl rfl rfl }
  · have harmed' : b.timers.bBootloaderStateTimeoutArmed = false := by simpa using harmed
    simp only [harmed', Bool.not_false, if_true]
    exact .kept (.refl _)

/-! ## §6. One step of the machine. -/

/-- The event is a well-formed frame that announces the end of the image. -/
def ReceivesEnd (b : Btl) : Event → Prop
  | .frame f => (vFormatBootloaderMsg b.mgmt.bIsInitialized f).bIsMsgOk = true ∧
      (vFormatBootloaderMsg b.mgmt.bIsInitialized f).eCMD = .fwUpEnd
  | _ => False

instance (b : Btl) : (e : Event) → Decidable (ReceivesEnd b e)
  | .frame _ => inferInstanceAs (Decidable (_ ∧ _))
  | .stateTimeOut => inferInstanceAs (Decidable False)
  | .txTimeOut => inferInstanceAs (Decidable False)

/-- The marks that the handling of an event can make: a frame those of its
message, if it is well formed. -/
def Event.Marks (b : Btl) : Event → Obs → Prop
  | .frame f => fun o => (vFormatBootloaderMsg b.mgmt.bIsInitialized f).bIsMsgOk = true ∧
      (vFormatBootloaderMsg b.mgmt.bIsInitialized f).Marks o
  | _ => fun _ => False

/-- The answer to a frame only extends the trace. -/
theorem vCANSendBtlACKNACK_kept (m : CtrlMsg) (b : Btl) : Kept b (vCANSendBtlACKNACK m b) :=
  Kept.call rfl (fun _ => rfl) b.tx

/-- A handled command, and its answer where one is due. -/
theorem vProcessBootloaderMessages_kept (env : Env) (j : Job) :
    Kept (handlerResult (dispatchMessage env j)) (vProcessBootloaderMessages env j) := by
  unfold vProcessBootloaderMessages
  generalize dispatchMessage env j = r
  cases r with
  | error b' => exact .refl _
  | ok j =>
      simp only [handlerResult]
      by_cases hack : j.msg.bIsACKReq = true
      · rw [if_pos hack]
        exact vCANSendBtlACKNACK_kept j.msg j.btl
      · rw [if_neg hack]
        exact .refl _

/-- A frame: a rejection, or a command and its answer. -/
theorem vHandleBootloaderMessages_transition (env : Env) {slot : FlashArea} {b : Btl}
    (hb : Base slot b) (f : CanFrame) :
    ∃ b', Transition env (ReceivesEnd b (.frame f)) ((Event.frame f).Marks b) b b' ∧
      Kept b' (vHandleBootloaderMessages env f b) := by
  unfold vHandleBootloaderMessages
  simp only [ReceivesEnd, Event.Marks]
  generalize vFormatBootloaderMsg b.mgmt.bIsInitialized f = msg
  by_cases hok : (!msg.bIsMsgOk) = true
  · rw [if_pos hok]
    exact ⟨b, .kept (.refl b), vCANSendBtlACKNACK_kept msg b⟩
  rw [if_neg hok]
  refine ⟨_, ?_, vProcessBootloaderMessages_kept env { btl := b, msg }⟩
  have hmsg : msg.bIsMsgOk = true := by simpa using hok
  have hupdate := (vUpdateBootloader_transition env (j := { btl := b, msg }) hb).mono
    (fun hcmd => (⟨hmsg, hcmd⟩ : msg.bIsMsgOk = true ∧ msg.eCMD = .fwUpEnd))
    fun o ho => (⟨hmsg, ho⟩ : msg.bIsMsgOk = true ∧ msg.Marks o)
  unfold dispatchMessage
  split
  all_goals first
    | exact hupdate
    | exact (vHandleHostAcknowledgements_step env { btl := b, msg }).transition
    | exact .kept (.refl b)

/-- **One step**: before and after the transition only the timers and the
trace move. -/
theorem step_transition {slot : FlashArea} {b : Btl} (hb : Base slot b) (hrun : b.halted = none)
    (a : Event × Env) :
    ∃ b₀ b₁, Kept b b₀ ∧ Transition a.2 (ReceivesEnd b a.1) (a.1.Marks b) b₀ b₁ ∧
      Kept b₁ (step b a) := by
  obtain ⟨e, env⟩ := a
  unfold step
  rw [hrun]
  simp only [Option.isSome_none, Bool.false_eq_true, if_false]
  unfold stepEvent
  cases e with
  | frame f =>
      obtain ⟨b', htr, hk⟩ := vHandleBootloaderMessages_transition env hb f
      exact ⟨b, b', .refl b, htr, hk⟩
  | stateTimeOut =>
      exact ⟨_, _, .of_tx_timers b b.tx _, vBtlStateTimeOutHandler_transition env _, .refl _⟩
  | txTimeOut =>
      exact ⟨_, _, .of_tx_timers b b.tx _, (vBtlTxTimeOutHandler_step env _).transition, .refl _⟩

end WallController.Bootloader
