/-
  WallController.Bootloader.Receive
  ────────────────────────────────
  **RECEIVING A PACKET.**

  `vUpdate_FWImage` admits a packet, writes it and records it.  The outcomes
  are those of the write loop together with a refusal that changes nothing
  (`PacketOutcome`).  An accepted packet keeps the session invariant
  (`SessionInv.accept`): the bookkeeping of ids follows the way the packet was
  admitted, the bytes follow from what the write loop has stored.
-/
import WallController.Bootloader.Packets

namespace WallController.Bootloader

open WallController.Lib

/-! ## §1. Admission. -/

/-- Packet `id` is admitted, with the image record that it is written under:
it is the next one, or it leaves a gap that is recorded, or it is pending. -/
inductive Admits (img : FWImgCtrl) (id : Nat) : FWImgCtrl → Prop
  | next (h : id = img.uiNextId) : Admits img id img
  | gap (h : img.uiNextId < id)
      (hcount : img.uiLostPacketCount + (id - img.uiNextId)
        ≤ MAX_NUMBER_OF_ALLOWABLE_LOST_PACKETs) :
      Admits img id (img.withMissing (id - img.uiNextId))
  | pending {p : LostPacketCtrl} (h : id < img.uiNextId)
      (hfind : img.staLostPacketIDs.find? (fun q => q.uiPacketId == id) = some p)
      (hp : p.bIsHandled = false) : Admits img id img

/-- Packet `id` is behind and not pending. -/
def Refused (img : FWImgCtrl) (id : Nat) : Prop :=
  id < img.uiNextId ∧
    ∀ p, img.staLostPacketIDs.find? (fun q => q.uiPacketId == id) = some p → p.bIsHandled = true

/-- Packet `id` leaves a gap that the lost list has no room for. -/
def TooManyLost (img : FWImgCtrl) (id : Nat) : Prop :=
  img.uiNextId < id ∧
    MAX_NUMBER_OF_ALLOWABLE_LOST_PACKETs < img.uiLostPacketCount + (id - img.uiNextId)

/-- The three ways `vHandle_PacketId_Mismatch` ends. -/
inductive MismatchOutcome (j : Job) (id : Nat) : Bool × Job → Prop
  | admitted {img : FWImgCtrl} (h : Admits j.btl.img id img) :
      MismatchOutcome j id (true, { j with btl := { j.btl with img := img } })
  | refused (h : Refused j.btl.img id) :
      MismatchOutcome j id (false, vSetBootloaderMsgStatus j false .invalidPacketId)
  | tooMany (h : TooManyLost j.btl.img id) :
      MismatchOutcome j id (false, { vSetBootloaderMsgStatus j false .invalidPacketId with
        btl := vAbortBootloaderSessionLocked j.btl })

/-- Recording a gap, or giving up for the lack of room. -/
theorem bCanHandleMissingPackets_cases (j : Job) {id : Nat} (h : j.btl.img.uiNextId < id) :
    (j.btl.img.uiLostPacketCount + (id - j.btl.img.uiNextId)
        ≤ MAX_NUMBER_OF_ALLOWABLE_LOST_PACKETs ∧
      bCanHandleMissingPackets j id = (true, { j with btl := { j.btl with
        img := j.btl.img.withMissing (id - j.btl.img.uiNextId) } })) ∨
    (TooManyLost j.btl.img id ∧
      bCanHandleMissingPackets j id = (false,
        { vSetBootloaderMsgStatus j false .invalidPacketId with
          btl := vAbortBootloaderSessionLocked j.btl })) := by
  unfold bCanHandleMissingPackets
  by_cases hcount : j.btl.img.uiLostPacketCount + (id - j.btl.img.uiNextId)
      > MAX_NUMBER_OF_ALLOWABLE_LOST_PACKETs
  · exact .inr ⟨⟨h, hcount⟩, if_pos hcount⟩
  · exact .inl ⟨Nat.not_lt.mp hcount, if_neg hcount⟩

theorem vHandlePacketIdMismatch_outcome (j : Job) {id : Nat} (h : j.btl.img.uiNextId ≠ id) :
    MismatchOutcome j id (vHandlePacketIdMismatch j id) := by
  unfold vHandlePacketIdMismatch
  by_cases hgt : id > j.btl.img.uiNextId
  · rw [if_pos hgt]
    rcases bCanHandleMissingPackets_cases j hgt with ⟨hcount, heq⟩ | ⟨hmany, heq⟩
    · rw [heq]
      exact .admitted (.gap hgt hcount)
    · rw [heq]
      exact .tooMany hmany
  · rw [if_neg hgt]
    have hlt : id < j.btl.img.uiNextId := by omega
    cases hfind : j.btl.img.staLostPacketIDs.find? (fun p => p.uiPacketId == id) with
    | none =>
        refine .refused ⟨hlt, ?_⟩
        intro p hp
        rw [hfind] at hp
        cases hp
    | some p =>
        by_cases hp : p.bIsHandled = false
        · simp only [if_pos hp]
          exact .admitted (.pending hlt hfind hp)
        · simp only [if_neg hp]
          refine .refused ⟨hlt, ?_⟩
          intro q hq
          rw [hfind] at hq
          cases hq
          simpa using hp

/-! ## §2. The outcomes of a packet. -/

/-- No packet has been received and none has been missed. -/
def FWImgCtrl.untouched (img : FWImgCtrl) : Prop := img.uiLastId = 0 ∧ img.uiNextId = 0

instance (img : FWImgCtrl) : Decidable img.untouched :=
  inferInstanceAs (Decidable (img.uiLastId = 0 ∧ img.uiNextId = 0))

/-- The image record while packet `id` is written. -/
def FWImgCtrl.writing (img : FWImgCtrl) (id : Nat) : FWImgCtrl :=
  { img with
    bIsFlashWritInProgress := true
    uiLastId := id
    uiNextId := if id ≥ img.uiNextId then (id + 1) % 65536 else img.uiNextId }

/-- The controller as packet `id` enters the write loop: the first packet
opens the handle. -/
def Btl.beginPacket (env : Env) (id : Nat) (img : FWImgCtrl) (b : Btl) : Btl :=
  if b.img.untouched then flashAreaOpen env { b with img := img.writing id }
  else { b with img := img.writing id }

/-- The image record once the packet is written. -/
def FWImgCtrl.written (img : FWImgCtrl) : FWImgCtrl :=
  { img with bIsFlashWritInProgress := false }

/-- The controller after a finished write loop. -/
def Btl.endPacket (env : Env) (id : Nat) (data : List UInt8) (b : Btl) : Btl :=
  vRefreshBootloaderStateTimeOutLocked env TIMEOUT_FW_UPDATE_NextPacket_ms { b with
    img := vHandleLostPacketRecovery id b.img.written
    log := .packetAccepted id data :: b.log }

/-- Why a session can be given up at packet `id`. -/
inductive PacketFault (env : Env) (id : Nat) (b : Btl) : Prop
  | tooMany (h : TooManyLost b.img id)
  | openFailed (h : b.img.untouched) (hopen : env.open_ ≠ 0)
  | writeFailed {img : FWImgCtrl} (hadm : Admits b.img id img)
      (hopen : b.img.untouched → env.open_ = 0)
      (h : ¬ Smooth env (id * DATA_PAYLOAD_PER_ONE_IMAGE_FRAME) (b.beginPacket env id img))

/-- The outcomes of `vUpdate_FWImage` on packet `id` in a session. -/
inductive PacketOutcome (env : Env) (id : Nat) (j : Job) : Except Btl Job → Prop
  | refused (e : BootloaderError)
      (why : j.msg.uiLen ≠ FW_IMG_PACKET_DATA_LENGTH ∨ Refused j.btl.img id) :
      PacketOutcome env id j (.ok (vSetBootloaderMsgStatus j false e))
  | gaveUp {b : Btl} (e : BootloaderError) (h : Work j.btl b) (why : PacketFault env id j.btl) :
      PacketOutcome env id j (.ok (rejectAndAbort { j with btl := b } e))
  | stopped {b : Btl} (h : Work j.btl b) (why : j.btl.flashArea = none)
      (htouched : ¬ j.btl.img.untouched) :
      PacketOutcome env id j (.error { b with halted := some .nullFlashArea })
  | accepted {img : FWImgCtrl} {b : Btl} (hlen : j.msg.uiLen = FW_IMG_PACKET_DATA_LENGTH)
      (hadm : Admits j.btl.img id img)
      (hopen : j.btl.img.untouched → env.open_ = 0)
      (hin : id * DATA_PAYLOAD_PER_ONE_IMAGE_FRAME ≤ j.btl.uiAvailableFlashSize)
      (h : WritesOnly (j.btl.beginPacket env id img) b)
      (hst : img.uiReceivedByteCount + packetLen j.btl.mgmt.uiFWImgSize id
          ≤ j.btl.mgmt.uiFWImgSize →
        Stored id (packetAddr id) DATA_PAYLOAD_PER_ONE_IMAGE_FRAME
          ((j.msg.uiaData.drop 2).take (packetLen j.btl.mgmt.uiFWImgSize id))
          (j.btl.beginPacket env id img) b) :
      PacketOutcome env id j (.ok { j with btl := b.endPacket env id (j.msg.uiaData.drop 2) })

theorem beginPacket_work {env : Env} {id : Nat} {img : FWImgCtrl} {b : Btl}
    (hfirst : b.img.untouched → b.flashArea = none) : Work b (b.beginPacket env id img) := by
  unfold Btl.beginPacket
  by_cases hu : b.img.untouched
  · rw [if_pos hu]
    have hopen : Work { b with img := img.writing id }
        (flashAreaOpen env { b with img := img.writing id }) :=
      flashAreaOpen_work env (hfirst hu)
    exact hopen.of_img
  · rw [if_neg hu]
    exact .of_log_eq rfl rfl rfl rfl rfl

@[simp] theorem flashAreaOpen_img (env : Env) (b : Btl) :
    (flashAreaOpen env b).img = b.img := by
  unfold flashAreaOpen
  by_cases h : env.open_ = 0
  · rw [if_pos h]
  · rw [if_neg h]

@[simp] theorem beginPacket_img (env : Env) (id : Nat) (img : FWImgCtrl) (b : Btl) :
    (b.beginPacket env id img).img = img.writing id := by
  unfold Btl.beginPacket
  by_cases hu : b.img.untouched
  · rw [if_pos hu, flashAreaOpen_img]
  · rw [if_neg hu]

@[simp] theorem beginPacket_mgmt (env : Env) (id : Nat) (img : FWImgCtrl) (b : Btl) :
    (b.beginPacket env id img).mgmt = b.mgmt := by
  unfold Btl.beginPacket flashAreaOpen
  by_cases hu : b.img.untouched <;> by_cases h : env.open_ = 0 <;> simp [hu, h]

@[simp] theorem beginPacket_flash (env : Env) (id : Nat) (img : FWImgCtrl) (b : Btl) :
    (b.beginPacket env id img).flash = b.flash := by
  unfold Btl.beginPacket flashAreaOpen
  by_cases hu : b.img.untouched <;> by_cases h : env.open_ = 0 <;> simp [hu, h]

/-- `writePacket` after the admission. -/
theorem writePacket_eq (env : Env) (id : Nat) (j : Job) (img : FWImgCtrl) :
    writePacket env id (decide j.btl.img.untouched) { j with btl := { j.btl with img := img } } =
      if j.btl.img.untouched ∧ env.open_ ≠ 0 then
        .ok (rejectAndAbort { j with btl := j.btl.beginPacket env id img } .flashAreaOpenFail)
      else
        finishPacket env id (writeBlocks env id blockIndexes
          { j with btl := j.btl.beginPacket env id img }) := by
  unfold writePacket Btl.beginPacket
  by_cases hu : j.btl.img.untouched
  · simp only [hu, decide_true, if_true, true_and]
    rfl
  · simp only [hu, decide_false, if_false, false_and, Bool.false_eq_true]
    rfl

/-- Writing an admitted packet. -/
theorem writePacket_outcome (env : Env) (id : Nat) (j : Job) {img : FWImgCtrl}
    (hlen : j.msg.uiLen = FW_IMG_PACKET_DATA_LENGTH) (hadm : Admits j.btl.img id img)
    (hfirst : j.btl.img.untouched → j.btl.flashArea = none) :
    PacketOutcome env id j (writePacket env id (decide j.btl.img.untouched)
      { j with btl := { j.btl with img := img } }) := by
  have hbegin : Work j.btl (j.btl.beginPacket env id img) := beginPacket_work hfirst
  rw [writePacket_eq]
  by_cases hfail : j.btl.img.untouched ∧ env.open_ ≠ 0
  · rw [if_pos hfail]
    exact .gaveUp _ hbegin (.openFailed hfail.1 hfail.2)
  rw [if_neg hfail]
  have hopen : j.btl.img.untouched → env.open_ = 0 := by
    intro hu
    by_contra hne
    exact hfail ⟨hu, hne⟩
  have hloop := writeBlocks_outcome env id (show 0 + 3 = 3 from rfl)
    { j with btl := j.btl.beginPacket env id img } hlen
  generalize hr : writeBlocks env id blockIndexes
    { j with btl := j.btl.beginPacket env id img } = r
  rw [show blockIndexes.drop 0 = blockIndexes from rfl, hr] at hloop
  cases hloop with
  | finished h hst =>
      have hin := writeBlocks_inside hr
      unfold Btl.uiAvailableFlashSize at hin
      rw [beginPacket_mgmt] at hin
      refine .accepted hlen hadm hopen hin h ?_
      intro hfits
      simp only [beginPacket_img, beginPacket_mgmt, bytesLeft, Nat.mul_zero, Nat.add_zero,
        Nat.sub_zero] at hst
      rw [Nat.mul_comm id] at hst
      refine hst ?_
      show img.uiReceivedByteCount + _ ≤ _
      have := List.length_take_le (packetLen j.btl.mgmt.uiFWImgSize id) (j.msg.uiaData.drop 2)
      omega
  | gaveUp e h why =>
      exact .gaveUp e (hbegin.trans h) (.writeFailed hadm hopen why)
  | stopped h why =>
      have htouched : ¬ j.btl.img.untouched := by
        intro hu
        -- the first packet has just opened the handle
        have hsome : (j.btl.beginPacket env id img).flashArea = some j.btl.slot := by
          unfold Btl.beginPacket flashAreaOpen
          rw [if_pos hu, if_pos (hopen hu)]
        rw [show (j.btl.beginPacket env id img).flashArea = none from why] at hsome
        cases hsome
      refine .stopped (hbegin.trans h) ?_ htouched
      unfold Btl.beginPacket at why
      rw [if_neg htouched] at why
      exact why

/-- **The outcomes of `vUpdate_FWImage`** in a session. -/
theorem vUpdateFWImage_outcome (env : Env) (j : Job)
    (hstate : j.btl.mgmt.eBtlState = .fwImgWriteInProg)
    (hidle : j.btl.img.bIsFlashWritInProgress = false)
    (hsize : FW_IMAGE_SECONDARY_SLOT_WRITE_OFFSET < j.btl.mgmt.uiFlashAreaSize)
    (hfirst : j.btl.img.untouched → j.btl.flashArea = none) :
    PacketOutcome env (packetId j.msg.uiaData) j (vUpdateFWImage env j) := by
  unfold vUpdateFWImage
  by_cases hlen : j.msg.uiLen ≠ FW_IMG_PACKET_DATA_LENGTH
  · rw [if_pos hlen]
    exact .refused _ (.inl hlen)
  have hlen' : j.msg.uiLen = FW_IMG_PACKET_DATA_LENGTH := by simpa using hlen
  rw [if_neg hlen]
  simp only [hstate, hidle, ne_eq, not_true_eq_false, if_false, Bool.false_eq_true,
    if_neg (Nat.not_le.mpr hsize)]
  by_cases hid : j.btl.img.uiNextId = packetId j.msg.uiaData
  · rw [if_neg (not_not.mpr hid)]
    exact writePacket_outcome env _ j hlen' (.next hid.symm) hfirst
  · rw [if_pos hid]
    have hm := vHandlePacketIdMismatch_outcome j hid
    generalize vHandlePacketIdMismatch j (packetId j.msg.uiaData) = r at hm ⊢
    cases hm with
    | admitted hadm =>
        simp only [Bool.not_true, Bool.false_eq_true, if_false]
        exact writePacket_outcome env _ j hlen' hadm hfirst
    | refused hr =>
        have hne : ¬ (vSetBootloaderMsgStatus j false .invalidPacketId).btl.mgmt.eBtlState
            = .error := by
          show ¬ j.btl.mgmt.eBtlState = .error
          rw [hstate]
          decide
        simp only [Bool.not_false, if_true, if_neg hne]
        exact .refused _ (.inr hr)
    | tooMany hmany =>
        simp only [Bool.not_false, if_true]
        exact .gaveUp .invalidPacketId (.refl _) (.tooMany hmany)

/-! ## §3. An accepted packet keeps the session invariant. -/

@[simp] theorem crcBound_withMissing (img : FWImgCtrl) (d : Nat) :
    (img.withMissing d).crcBound = img.crcBound := by
  unfold FWImgCtrl.withMissing FWImgCtrl.crcBound
  rw [if_pos rfl]

/-- A packet id is admitted either as the next one, once its gap is recorded,
or as a pending one. -/
theorem Admits.tracks {img img' : FWImgCtrl} {ids : List Nat} {id : Nat} (h : Tracks img ids)
    (hadm : Admits img id img') :
    Tracks img' ids ∧ (id = img'.uiNextId ∨
      ∃ p, img'.staLostPacketIDs.find? (fun q => q.uiPacketId == id) = some p ∧
        p.bIsHandled = false) := by
  cases hadm with
  | next hid => exact ⟨h, .inl hid⟩
  | gap hlt hcount =>
      refine ⟨h.withMissing (by omega) hcount, .inl ?_⟩
      show id = img.uiNextId + (id - img.uiNextId)
      omega
  | pending hlt hfind hp => exact ⟨h, .inr ⟨_, hfind, hp⟩⟩

/-- What the admission leaves as it is. -/
theorem Admits.unchanged {img img' : FWImgCtrl} {id : Nat} (hadm : Admits img id img') :
    img'.uiReceivedByteCount = img.uiReceivedByteCount ∧
      img'.uiRunningCRC = img.uiRunningCRC ∧ img'.crcBound = img.crcBound := by
  cases hadm with
  | next _ => exact ⟨rfl, rfl, rfl⟩
  | gap _ _ => exact ⟨rfl, rfl, crcBound_withMissing _ _⟩
  | pending _ _ _ => exact ⟨rfl, rfl, rfl⟩

theorem Admits.next_le {img img' : FWImgCtrl} {id n : Nat} (hadm : Admits img id img')
    (h : img.uiNextId ≤ n) (hid : id ≤ n) : img'.uiNextId ≤ n := by
  cases hadm with
  | next _ => exact h
  | gap hlt _ =>
      show img.uiNextId + (id - img.uiNextId) ≤ n
      omega
  | pending _ _ _ => exact h

/-- An admitted id is not accepted yet. -/
theorem Admits.not_mem {img img' : FWImgCtrl} {ids : List Nat} {id : Nat} (h : Tracks img ids)
    (hadm : Admits img id img') : id ∉ ids := by
  obtain ⟨ht, hid | ⟨p, hfind, hp⟩⟩ := hadm.tracks h
  · intro hmem
    have := ((ht.mem_iff id).mp hmem).1
    omega
  · intro hmem
    have hpid : p.uiPacketId = id := by simpa using List.find?_some hfind
    have := ((ht.mem_iff id).mp hmem).2 p (List.mem_of_find?_eq_some hfind) hpid
    rw [hp] at this
    cases this

/-- An entry of the lost list is found under its id. -/
theorem find?_lost {ps : List LostPacketCtrl} (hs : (ps.map (·.uiPacketId)).Pairwise (· < ·))
    {p : LostPacketCtrl} (hp : p ∈ ps) :
    ps.find? (fun q => q.uiPacketId == p.uiPacketId) = some p := by
  induction ps with
  | nil => cases hp
  | cons q ps ih =>
      rw [List.map_cons, List.pairwise_cons] at hs
      rw [List.find?_cons]
      rcases List.mem_cons.mp hp with hp | hp
      · rw [hp, beq_self_eq_true]
      · have hlt := hs.1 _ (List.mem_map_of_mem (f := (·.uiPacketId)) hp)
        rw [beq_eq_false_iff_ne.mpr (by omega)]
        exact ih hs.2 hp

/-- A refused id has been accepted before. -/
theorem Refused.mem {img : FWImgCtrl} {ids : List Nat} {id : Nat} (h : Tracks img ids)
    (hr : Refused img id) : id ∈ ids := by
  rw [h.mem_iff]
  refine ⟨hr.1, ?_⟩
  intro p hp hpi
  refine hr.2 p ?_
  rw [← hpi]
  exact find?_lost h.lost_sorted hp

theorem vHandleLostPacketRecovery_none {id : Nat} {img : FWImgCtrl}
    (h : img.staLostPacketIDs.find? (fun q => q.uiPacketId == id) = none) :
    vHandleLostPacketRecovery id img = img := by
  unfold vHandleLostPacketRecovery
  cases img.bLostPacketStateTriggered with
  | false => rfl
  | true => simp only [Bool.not_true, Bool.false_eq_true, if_false, h]

theorem vHandleLostPacketRecovery_some {id : Nat} {img : FWImgCtrl} {p : LostPacketCtrl}
    (ht : img.bLostPacketStateTriggered = true)
    (h : img.staLostPacketIDs.find? (fun q => q.uiPacketId == id) = some p)
    (hp : p.bIsHandled = false) :
    vHandleLostPacketRecovery id img = { img with
      staLostPacketIDs := markHandled id img.staLostPacketIDs
      uiRecoveredPacketCount := img.uiRecoveredPacketCount + 1
      bLostPacketDetected := false } := by
  unfold vHandleLostPacketRecovery
  simp only [ht, Bool.not_true, Bool.false_eq_true, if_false, h, hp]

/-- `img'` is the record of an admitted packet as the write loop leaves it:
the lost packets are those of `img`, and the next id is past the packet. -/
structure AfterLoop (id : Nat) (img img' : FWImgCtrl) : Prop where
  lost : img'.staLostPacketIDs = img.staLostPacketIDs
  next : img'.uiNextId = if id ≥ img.uiNextId then (id + 1) % 65536 else img.uiNextId
  last : img'.uiLastId = id
  recovered : img'.uiRecoveredPacketCount = img.uiRecoveredPacketCount
  triggered : img'.bLostPacketStateTriggered = img.bLostPacketStateTriggered
  first : img'.uiFirstLostPacketId = img.uiFirstLostPacketId

theorem WritesOnly.afterLoop {env : Env} {id : Nat} {img : FWImgCtrl} {b b₁ : Btl}
    (h : WritesOnly (b.beginPacket env id img) b₁) :
    AfterLoop id img b₁.img.written := by
  obtain ⟨crc, n, himg⟩ := h.img
  rw [beginPacket_img] at himg
  rw [himg]
  exact ⟨rfl, rfl, rfl, rfl, rfl, rfl⟩

/-- The bookkeeping after an accepted packet. -/
theorem Tracks.end_packet {img img' : FWImgCtrl} {ids : List Nat} {id : Nat}
    (h : Tracks img ids) (hid : id + 1 < 65536)
    (hadm : id = img.uiNextId ∨
      ∃ p, img.staLostPacketIDs.find? (fun q => q.uiPacketId == id) = some p ∧
        p.bIsHandled = false)
    (hloop : AfterLoop id img img') :
    Tracks (vHandleLostPacketRecovery id img') (id :: ids) := by
  rcases hadm with hid' | ⟨p, hfind, hp⟩
  · subst hid'
    -- all lost ids are below the packet
    have hnone : img'.staLostPacketIDs.find? (fun q => q.uiPacketId == img.uiNextId) = none := by
      rw [hloop.lost, List.find?_eq_none]
      intro q hq heq
      have hlt := h.lost_below q hq
      have heq' : q.uiPacketId = img.uiNextId := by simpa using heq
      omega
    rw [vHandleLostPacketRecovery_none hnone]
    refine h.accept_next hloop.lost ?_ hloop.recovered hloop.triggered hloop.first
    rw [hloop.next, if_pos (Nat.le_refl _), Nat.mod_eq_of_lt hid]
  · have hmem := List.mem_of_find?_eq_some hfind
    have hpid : p.uiPacketId = id := by simpa using List.find?_some hfind
    have hlt := h.lost_below p hmem
    have ht : img'.bLostPacketStateTriggered = true := by
      rw [hloop.triggered]
      exact h.triggered.mpr (List.length_pos_of_mem hmem)
    have hfind' : img'.staLostPacketIDs.find? (fun q => q.uiPacketId == id) = some p := by
      rw [hloop.lost, hfind]
    rw [vHandleLostPacketRecovery_some ht hfind' hp]
    refine h.recover hfind hp ?_ ?_ ?_ hloop.triggered hloop.first
    · show markHandled id img'.staLostPacketIDs = _
      rw [hloop.lost]
    · show img'.uiNextId = _
      rw [hloop.next, if_neg (by omega)]
    · show img'.uiRecoveredPacketCount + 1 = _
      rw [hloop.recovered]

/-- The end of a packet does not touch the counters of bytes. -/
theorem vHandleLostPacketRecovery_bytes (id : Nat) (img : FWImgCtrl) :
    (vHandleLostPacketRecovery id img).uiReceivedByteCount = img.uiReceivedByteCount ∧
      (vHandleLostPacketRecovery id img).uiRunningCRC = img.uiRunningCRC ∧
      (vHandleLostPacketRecovery id img).bIsFlashWritInProgress = img.bIsFlashWritInProgress ∧
      (vHandleLostPacketRecovery id img).uiLastId = img.uiLastId ∧
      (vHandleLostPacketRecovery id img).uiNextId = img.uiNextId ∧
      (vHandleLostPacketRecovery id img).crcBound = img.crcBound := by
  unfold vHandleLostPacketRecovery
  by_cases ht : (!img.bLostPacketStateTriggered) = true
  · rw [if_pos ht]
    exact ⟨rfl, rfl, rfl, rfl, rfl, rfl⟩
  · rw [if_neg ht]
    split
    · exact ⟨rfl, rfl, rfl, rfl, rfl, rfl⟩
    · split
      · exact ⟨rfl, rfl, rfl, rfl, rfl, rfl⟩
      · exact ⟨rfl, rfl, rfl, rfl, rfl, rfl⟩

/-- The session after packet `id` with payload `data`, given the calls made
for it. -/
def Session.accept (s : Session) (id : Nat) (data : List UInt8) (calls : List Obs) : Session :=
  s.extend (.packetAccepted id data :: calls)

namespace Session

variable {s : Session} {calls : List Obs} {id : Nat} {data : List UInt8}

theorem packets_accept (h : ∀ o ∈ calls, o.plain) :
    (s.accept id data calls).packets = (id, data) :: s.packets :=
  packets_extend_accepted h id data

theorem ids_accept (h : ∀ o ∈ calls, o.plain) :
    (s.accept id data calls).ids = id :: s.ids := by
  unfold ids
  rw [packets_accept h]
  rfl

/-- The image bytes of the new packet, and those of the others. -/
theorem imageBytes_accept (h : ∀ o ∈ calls, o.plain) (i : Nat) :
    (s.accept id data calls).imageBytes i =
      if i = id then data.take (packetLen s.size id) else s.imageBytes i := by
  unfold imageBytes
  rw [payload_cons (packets_accept h)]
  by_cases hi : i = id
  · rw [if_pos hi, if_pos hi, hi]
    rfl
  · rw [if_neg hi, if_neg hi]
    rfl

/-- A packet outside of the first `n` does not change their image. -/
theorem image_accept {n : Nat} (h : ∀ o ∈ calls, o.plain) (hid : ∀ i < n, i ≠ id) :
    (s.accept id data calls).image n = s.image n := by
  refine image_congr ?_
  intro i hi
  rw [imageBytes_accept h, if_neg (hid i hi)]

end Session

/-- **An accepted packet keeps the session invariant.** -/
theorem SessionInv.accept {s : Session} {env : Env} {id : Nat} {b b₁ : Btl} {img : FWImgCtrl}
    {data : List UInt8} (h : SessionInv s b) (hfirst : b.img.untouched → b.flashArea = none)
    (hid : id + 1 < 65536) (hlen : data.length = DATA_PAYLOAD_PER_ONE_IMAGE_FRAME)
    (hadm : Admits b.img id img)
    (hst : Stored id (packetAddr id) DATA_PAYLOAD_PER_ONE_IMAGE_FRAME
      (data.take (packetLen s.size id)) (b.beginPacket env id img) b₁) :
    ∃ calls, (∀ o ∈ calls, o.plain) ∧
      (b₁.endPacket env id data).log = .packetAccepted id data :: (calls ++ b.log) ∧
      SessionInv (s.accept id data calls) (b₁.endPacket env id data) := by
  have hbegin : Work b (b.beginPacket env id img) := beginPacket_work hfirst
  have hwork : Work b b₁ := hbegin.trans hst.writes.work
  obtain ⟨calls₀, hl₀, -⟩ := hbegin.log
  obtain ⟨calls₁, hl₁, hwrote⟩ := hst.wrote
  have hlog : b₁.log = (calls₁ ++ calls₀) ++ b.log := by
    rw [hl₁, hl₀, List.append_assoc]
  have hplain := hwork.plain hlog
  obtain ⟨htr, hway⟩ := hadm.tracks h.tracks
  obtain ⟨hrecv, hcrc, hbound⟩ := hadm.unchanged
  have hnew : id ∉ s.ids := hadm.not_mem h.tracks
  have hblen : (data.take (packetLen s.size id)).length = packetLen s.size id := by
    rw [List.length_take, hlen]
    exact min_eq_left (packetLen_le _ _)
  have hloop := hst.writes.afterLoop
  have hbytes := vHandleLostPacketRecovery_bytes id b₁.img.written
  refine ⟨calls₁ ++ calls₀, hplain, ?_, ?_⟩
  · show _ :: b₁.log = _
    rw [hlog]
  have hmgmt : b₁.mgmt = b.mgmt := hwork.mgmt
  exact {
    size := by
      show b₁.mgmt.uiFWImgSize = s.size
      rw [hmgmt]
      exact h.size
    crc := by
      show b₁.mgmt.uiCRC = s.crc
      rw [hmgmt]
      exact h.crc
    size_pos := h.size_pos
    size_fits := by
      show s.size + _ ≤ b₁.mgmt.uiFlashAreaSize
      rw [hmgmt]
      exact h.size_fits
    tracks := by
      rw [Session.ids_accept hplain]
      exact htr.end_packet hid hway hloop
    next_le := by
      show (vHandleLostPacketRecovery id b₁.img.written).uiNextId ≤ _
      rw [hbytes.2.2.2.2.1, hloop.next]
      by_cases hge : id ≥ img.uiNextId
      · rw [if_pos hge, Nat.mod_eq_of_lt hid]
        exact Nat.le_of_lt_succ hid
      · rw [if_neg hge]
        exact hadm.next_le h.next_le (by unfold UINT16_MAX; omega)
    received := by
      rw [Session.ids_accept hplain, List.map_cons, List.sum_cons]
      show (vHandleLostPacketRecovery id b₁.img.written).uiReceivedByteCount
        = packetLen s.size id + (s.ids.map (packetLen s.size)).sum
      rw [hbytes.1, ← h.received, Nat.add_comm, ← hrecv, ← hblen]
      show b₁.img.uiReceivedByteCount = _
      rw [hst.received, beginPacket_img]
      rfl
    running := by
      show (vHandleLostPacketRecovery id b₁.img.written).uiRunningCRC
        = u16CRC16CCITTUpdate 0xFFFF ((s.accept id data (calls₁ ++ calls₀)).image
          (vHandleLostPacketRecovery id b₁.img.written).crcBound)
      rw [hbytes.2.1, hbytes.2.2.2.2.2]
      have hrunning : b₁.img.written.uiRunningCRC = if img.bLostPacketStateTriggered
          then img.uiRunningCRC
          else u16CRC16CCITTUpdate img.uiRunningCRC (data.take (packetLen s.size id)) := by
        show b₁.img.uiRunningCRC = _
        rw [hst.crc, beginPacket_img]
        rfl
      rw [hrunning]
      have hrun : img.uiRunningCRC = u16CRC16CCITTUpdate 0xFFFF (s.image img.crcBound) := by
        rw [hcrc, hbound]
        exact h.running
      have hbelow : ∀ i < img.crcBound, i ≠ id := by
        rintro i hi rfl
        exact hnew (htr.mem_of_lt_crcBound hi)
      have himage := @Session.image_accept s _ id data _ hplain hbelow
      by_cases ht : img.bLostPacketStateTriggered = true
      · -- the CRC stands still at the first lost id
        have hb : b₁.img.written.crcBound = img.crcBound := by
          unfold FWImgCtrl.crcBound
          rw [hloop.triggered, hloop.first, if_pos ht, if_pos ht]
        rw [if_pos ht, hb, himage, hrun]
      · -- nothing is lost: the packet is the next one
        rw [if_neg ht]
        have hnil := htr.lost_eq_nil (by simpa using ht)
        have hid' : id = img.uiNextId := by
          rcases hway with hid' | ⟨p, hfind, -⟩
          · exact hid'
          · rw [hnil] at hfind
            cases hfind
        have hb₀ : img.crcBound = id := by
          unfold FWImgCtrl.crcBound
          rw [if_neg ht, hid']
        have hb : b₁.img.written.crcBound = id + 1 := by
          unfold FWImgCtrl.crcBound
          rw [hloop.triggered, if_neg ht, hloop.next, if_pos (by omega), Nat.mod_eq_of_lt hid]
        rw [hb₀] at hrun himage
        rw [hb, Session.image_succ, himage, Session.imageBytes_accept hplain, if_pos rfl,
          u16CRC16CCITTUpdate_append, ← hrun]
    writing := hbytes.2.2.1
    payload_length := by
      intro q hq
      rw [Session.packets_accept hplain, List.mem_cons] at hq
      rcases hq with hq | hq
      · rw [hq]
        exact hlen
      · exact h.payload_length q hq
    stored := by
      intro i hi k v hv
      rw [Session.ids_accept hplain, List.mem_cons] at hi
      rw [Session.imageBytes_accept hplain] at hv
      by_cases heq : i = id
      · rw [if_pos heq] at hv
        subst heq
        refine ⟨hst.inside k v hv, ?_⟩
        obtain ⟨off, block, hmem, hoff, hblock⟩ := hwrote k v hv
        refine ⟨i, off, block, ?_, ?_, hoff, hblock⟩
        · show _ ∈ _ :: ((calls₁ ++ calls₀) ++ s.calls)
          exact List.mem_cons_of_mem _ (List.mem_append_left _ (List.mem_append_left _ hmem))
        · rw [Session.ids_accept hplain]
          exact List.mem_cons_self
      · rw [if_neg heq] at hv
        have hi' : i ∈ s.ids := hi.resolve_left heq
        obtain ⟨hflash, hwr⟩ := h.stored i hi' k v hv
        refine ⟨?_, hwr.extend⟩
        -- the window of the new packet does not reach the packet `i`
        have hk : k < (s.imageBytes i).length := (List.getElem?_eq_some_iff.mp hv).1
        rw [h.imageBytes_length hi'] at hk
        have hk48 := packetLen_le s.size i
        show b₁.flash _ = v
        rw [hst.outside, beginPacket_flash, hflash]
        unfold packetAddr DATA_PAYLOAD_PER_ONE_IMAGE_FRAME at *
        omega }

end WallController.Bootloader
