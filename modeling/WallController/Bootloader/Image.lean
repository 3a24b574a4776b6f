/-
  WallController.Bootloader.Image
  ────────────────────────────────
  **THE SESSION INVARIANT, AND WHAT A COMPLETE SESSION HAS STORED.**

  `SessionInv` ties the image record and the flash to the accepted packets of
  the session.  Its first half is the bookkeeping of ids (`Tracks`), its
  second half is about bytes: the received count, the running CRC and the
  flash content.

  Two facts follow that do not mention the code again.  The flash below a
  packet id all of whose predecessors are accepted holds the image bytes of
  these packets (`read_image`); and when the received count is the image
  size, every byte of the image range has been written by an accepted packet
  (`complete_written`).
-/
import WallController.Bootloader.Session
import Mathlib

namespace WallController.Bootloader

open WallController.Lib

/-! ## §1. The invariant. -/

/-- The number of image bytes in packet `i` of an image of `size` bytes. -/
def packetLen (size i : Nat) : Nat := chunkLen DATA_PAYLOAD_PER_ONE_IMAGE_FRAME size i

/-- Where packet `i` of an image is stored. -/
def packetAddr (i : Nat) : Nat :=
  FW_IMAGE_SECONDARY_SLOT_WRITE_OFFSET + DATA_PAYLOAD_PER_ONE_IMAGE_FRAME * i

/-- The ids that the running CRC covers are those below this one. -/
def FWImgCtrl.crcBound (img : FWImgCtrl) : Nat :=
  if img.bLostPacketStateTriggered then img.uiFirstLostPacketId else img.uiNextId

/-- The image record and the flash, against the accepted packets of the
session, while the image is being written. -/
structure SessionInv (s : Session) (b : Btl) : Prop where
  size : b.mgmt.uiFWImgSize = s.size
  crc : b.mgmt.uiCRC = s.crc
  size_pos : 0 < s.size
  size_fits : s.size + FW_IMAGE_SECONDARY_SLOT_WRITE_OFFSET ≤ b.mgmt.uiFlashAreaSize
  tracks : Tracks b.img s.ids
  next_le : b.img.uiNextId ≤ UINT16_MAX
  received : b.img.uiReceivedByteCount = (s.ids.map (packetLen s.size)).sum
  running : b.img.uiRunningCRC = u16CRC16CCITTUpdate 0xFFFF (s.image b.img.crcBound)
  writing : b.img.bIsFlashWritInProgress = false
  payload_length : ∀ q ∈ s.packets, q.2.length = DATA_PAYLOAD_PER_ONE_IMAGE_FRAME
  stored : ∀ i ∈ s.ids, ∀ k v, (s.imageBytes i)[k]? = some v →
    b.flash (packetAddr i + k) = v ∧ s.Wrote (packetAddr i + k) v

theorem packetLen_le (size i : Nat) : packetLen size i ≤ DATA_PAYLOAD_PER_ONE_IMAGE_FRAME :=
  chunkLen_le i

/-! ## §2. Payloads of accepted packets. -/

namespace Session

variable {s : Session}

theorem payload_mem {i : Nat} (h : i ∈ s.ids) : (i, s.payload i) ∈ s.packets := by
  unfold ids at h
  unfold payload
  generalize s.packets = packets at h ⊢
  induction packets with
  | nil => cases h
  | cons q ps ih =>
      obtain ⟨id, data⟩ := q
      by_cases hi : i = id
      · subst hi
        simp
      · have hi' : (i == id) = false := beq_eq_false_iff_ne.mpr hi
        rw [List.lookup_cons, hi']
        refine List.mem_cons_of_mem _ (ih ?_)
        rw [List.map_cons, List.mem_cons] at h
        exact h.resolve_left hi

/-- The payload of a new packet, and those of the others. -/
theorem payload_cons {t : Session} {id : Nat} {data : List UInt8}
    (h : t.packets = (id, data) :: s.packets) (i : Nat) :
    t.payload i = if i = id then data else s.payload i := by
  unfold payload
  rw [h, List.lookup_cons]
  by_cases hi : i = id
  · rw [if_pos hi, beq_iff_eq.mpr hi]
    rfl
  · rw [if_neg hi, beq_eq_false_iff_ne.mpr hi]

theorem imageBytes_length (hlen : ∀ q ∈ s.packets, q.2.length = DATA_PAYLOAD_PER_ONE_IMAGE_FRAME)
    {i : Nat} (h : i ∈ s.ids) : (s.imageBytes i).length = packetLen s.size i := by
  unfold imageBytes
  rw [List.length_take, hlen _ (payload_mem h)]
  exact min_eq_left (packetLen_le _ _)

theorem image_succ (n : Nat) : s.image (n + 1) = s.image n ++ s.imageBytes n := by
  unfold image
  rw [List.range_succ, List.flatMap_append, List.flatMap_singleton]

/-- The image of the first packets depends on these packets only. -/
theorem image_congr {t : Session} {n : Nat} (h : ∀ i < n, t.imageBytes i = s.imageBytes i) :
    t.image n = s.image n := by
  unfold image
  induction n with
  | zero => rw [List.range_zero, List.flatMap_nil, List.flatMap_nil]
  | succ n ih =>
      rw [List.range_succ, List.flatMap_append, List.flatMap_append,
        ih fun i hi => h i (Nat.lt_succ_of_lt hi)]
      simp only [List.flatMap_singleton, h n (Nat.lt_succ_self n)]

end Session

/-- All ids below the CRC bound are accepted. -/
theorem Tracks.mem_of_lt_crcBound {img : FWImgCtrl} {ids : List Nat} (h : Tracks img ids)
    {i : Nat} (hi : i < img.crcBound) : i ∈ ids := by
  rw [h.mem_iff]
  unfold FWImgCtrl.crcBound at hi
  by_cases ht : img.bLostPacketStateTriggered
  · rw [if_pos ht] at hi
    -- the first lost id is the least of the list
    have hne := h.triggered.mp ht
    obtain ⟨p, ps, hl⟩ := List.exists_cons_of_length_pos hne
    have hfirst := h.first p (by rw [hl]; rfl)
    have hsorted := h.lost_sorted
    rw [hl, List.map_cons, List.pairwise_cons] at hsorted
    have hbelow := h.lost_below p (by rw [hl]; exact List.mem_cons_self)
    refine ⟨by omega, ?_⟩
    intro q hq hqi
    rw [hl] at hq
    rcases List.mem_cons.mp hq with hq | hq
    · subst hq
      omega
    · have := hsorted.1 _ (List.mem_map_of_mem (f := (·.uiPacketId)) hq)
      omega
  · rw [if_neg ht] at hi
    refine ⟨hi, ?_⟩
    intro q hq
    rw [h.lost_eq_nil (by simpa using ht)] at hq
    cases hq

/-! ## §3. Completeness. -/

namespace SessionInv

variable {s : Session} {b : Btl}

theorem imageBytes_length (h : SessionInv s b) {i : Nat} (hi : i ∈ s.ids) :
    (s.imageBytes i).length = packetLen s.size i :=
  Session.imageBytes_length h.payload_length hi

/-- The list of accepted ids, as a set, gives the same sum. -/
theorem sum_ids (h : SessionInv s b) :
    (s.ids.map (packetLen s.size)).sum = ∑ i ∈ s.ids.toFinset, packetLen s.size i :=
  (List.sum_toFinset _ h.tracks.nodup).symm

/-- The received count never exceeds the image size. -/
theorem received_le (h : SessionInv s b) : b.img.uiReceivedByteCount ≤ s.size := by
  rw [h.received, h.sum_ids]
  exact sum_chunkLen_le _

/-- A packet that is not accepted yet still fits. -/
theorem received_add_le (h : SessionInv s b) {i : Nat} (hi : i ∉ s.ids) :
    b.img.uiReceivedByteCount + packetLen s.size i ≤ s.size := by
  rw [h.received, h.sum_ids]
  exact sum_chunkLen_add_le (by simpa using hi)

/-- The received count is the image size exactly when every packet of the
image is accepted. -/
theorem received_eq_iff (h : SessionInv s b) :
    b.img.uiReceivedByteCount = s.size ↔
      ∀ i, DATA_PAYLOAD_PER_ONE_IMAGE_FRAME * i < s.size → i ∈ s.ids := by
  rw [h.received, h.sum_ids]
  have hiff := sum_chunkLen_eq_iff (c := DATA_PAYLOAD_PER_ONE_IMAGE_FRAME) (n := s.size)
    (by decide) s.ids.toFinset
  simp only [List.mem_toFinset] at hiff
  exact hiff

/-- Below an id all of whose predecessors are accepted, the flash holds the
image bytes of these packets. -/
theorem read_image (h : SessionInv s b) {n : Nat} (hn : ∀ i < n, i ∈ s.ids) :
    b.flash.read FW_IMAGE_SECONDARY_SLOT_WRITE_OFFSET
      (min (DATA_PAYLOAD_PER_ONE_IMAGE_FRAME * n) s.size) = s.image n := by
  induction n with
  | zero => simp [Session.image]
  | succ n ih =>
      have hlow := ih fun i hi => hn i (Nat.lt_succ_of_lt hi)
      have hmem := hn n (Nat.lt_succ_self n)
      have hsplit : min (DATA_PAYLOAD_PER_ONE_IMAGE_FRAME * (n + 1)) s.size
          = min (DATA_PAYLOAD_PER_ONE_IMAGE_FRAME * n) s.size + packetLen s.size n := by
        unfold packetLen chunkLen DATA_PAYLOAD_PER_ONE_IMAGE_FRAME
        omega
      rw [hsplit, Mem.read_add, hlow, Session.image_succ]
      congr 1
      by_cases hlen : packetLen s.size n = 0
      · -- the packet starts past the end of the image
        have hnil := h.imageBytes_length hmem
        rw [hlen] at hnil
        rw [hlen, Mem.read_zero, List.length_eq_zero_iff.mp hnil]
      · have hstart : min (DATA_PAYLOAD_PER_ONE_IMAGE_FRAME * n) s.size
            = DATA_PAYLOAD_PER_ONE_IMAGE_FRAME * n := by
          unfold packetLen chunkLen at hlen
          omega
        rw [hstart]
        refine Mem.read_eq (h.imageBytes_length hmem) ?_
        intro k hk
        have hk' : k < (s.imageBytes n).length := by rwa [h.imageBytes_length hmem]
        have hst := h.stored n hmem k _ (List.getElem?_eq_getElem hk')
        rw [List.getD_eq_getElem _ _ hk']
        exact hst.1

/-- **A complete session has written its image**: when the received count is
the image size, every byte of the image range holds what an accepted packet
of the session wrote there. -/
theorem complete_written (h : SessionInv s b) (hfull : b.img.uiReceivedByteCount = s.size)
    {a : Nat} (ha : a < s.size) :
    s.Wrote (FW_IMAGE_SECONDARY_SLOT_WRITE_OFFSET + a)
      (b.flash (FW_IMAGE_SECONDARY_SLOT_WRITE_OFFSET + a)) := by
  have hdiv := Nat.div_add_mod a DATA_PAYLOAD_PER_ONE_IMAGE_FRAME
  have hmod := Nat.mod_lt a (show 0 < DATA_PAYLOAD_PER_ONE_IMAGE_FRAME by decide)
  have hmem : a / DATA_PAYLOAD_PER_ONE_IMAGE_FRAME ∈ s.ids :=
    h.received_eq_iff.mp hfull _ (by omega)
  have hk : a % DATA_PAYLOAD_PER_ONE_IMAGE_FRAME
      < (s.imageBytes (a / DATA_PAYLOAD_PER_ONE_IMAGE_FRAME)).length := by
    rw [h.imageBytes_length hmem]
    unfold packetLen chunkLen
    omega
  obtain ⟨hflash, hwrote⟩ := h.stored _ hmem _ _ (List.getElem?_eq_getElem hk)
  have haddr : packetAddr (a / DATA_PAYLOAD_PER_ONE_IMAGE_FRAME)
      + a % DATA_PAYLOAD_PER_ONE_IMAGE_FRAME = FW_IMAGE_SECONDARY_SLOT_WRITE_OFFSET + a := by
    unfold packetAddr
    omega
  rw [haddr] at hflash hwrote
  rw [hflash]
  exact hwrote

end SessionInv

end WallController.Bootloader
