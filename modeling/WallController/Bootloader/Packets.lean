/-
  WallController.Bootloader.Packets
  ────────────────────────────────
  **WHAT THE WRITE LOOP DOES WITH A PACKET.**

  The write loop stores a packet in blocks of 16 bytes.  Seen from outside it
  has three outcomes (`WriteOutcome`):

      finished   the image bytes of the packet are stored, counted and, while
                 nothing is lost, added to the running CRC
      gaveUp     a bound or a failing write has ended the session
      stopped    the handle was the null handle

  The loop may also be left by its second `break`, when the received count
  reaches the image size.  As long as the packet still fits into the image
  this happens only at the end of the packet, so it is the first outcome too.
-/
import WallController.Bootloader.Image

namespace WallController.Bootloader

open WallController.Lib

/-! ## §1. Bytes stored at an address. -/

/-- `b'` is `b` after some writes: besides the flash and the trace only the
running CRC and the received count have changed. -/
structure WritesOnly (b b' : Btl) : Prop where
  work : Work b b'
  img : ∃ crc n, b'.img = { b.img with uiRunningCRC := crc, uiReceivedByteCount := n }
  tx : b'.tx = b.tx
  timers : b'.timers = b.timers
  flashArea : b'.flashArea = b.flashArea

theorem WritesOnly.refl (b : Btl) : WritesOnly b b where
  work := .refl b
  img := ⟨_, _, rfl⟩
  tx := rfl
  timers := rfl
  flashArea := rfl

theorem WritesOnly.trans {b b' b'' : Btl} (h₁ : WritesOnly b b') (h₂ : WritesOnly b' b'') :
    WritesOnly b b'' where
  work := h₁.work.trans h₂.work
  img := by
    obtain ⟨crc₁, n₁, hi₁⟩ := h₁.img
    obtain ⟨crc₂, n₂, hi₂⟩ := h₂.img
    exact ⟨crc₂, n₂, by rw [hi₂, hi₁]⟩
  tx := h₂.tx.trans h₁.tx
  timers := h₂.timers.trans h₁.timers
  flashArea := h₂.flashArea.trans h₁.flashArea

/-- `b'` is `b` after the image bytes `bytes` of packet `id` have been stored
from `addr` on, by writes that stay within a window of `w` bytes. -/
structure Stored (id addr w : Nat) (bytes : List UInt8) (b b' : Btl) : Prop where
  writes : WritesOnly b b'
  crc : b'.img.uiRunningCRC = if b.img.bLostPacketStateTriggered then b.img.uiRunningCRC
    else u16CRC16CCITTUpdate b.img.uiRunningCRC bytes
  received : b'.img.uiReceivedByteCount = b.img.uiReceivedByteCount + bytes.length
  inside : ∀ k v, bytes[k]? = some v → b'.flash (addr + k) = v
  outside : ∀ x, x < addr ∨ addr + w ≤ x → b'.flash x = b.flash x
  wrote : ∃ calls : List Obs, b'.log = calls ++ b.log ∧ ∀ k v, bytes[k]? = some v →
    ∃ off data, .flashWrite id off data 0 ∈ calls ∧ off ≤ addr + k ∧
      data[addr + k - off]? = some v

/-- Nothing is left to store. -/
theorem Stored.nil (id addr w : Nat) (b : Btl) : Stored id addr w [] b b where
  writes := .refl b
  crc := by simp
  received := rfl
  inside := by simp
  outside _ _ := rfl
  wrote := ⟨[], rfl, by simp⟩

theorem Stored.widen {id addr w w' : Nat} {bytes : List UInt8} {b b' : Btl}
    (h : Stored id addr w bytes b b') (hw : w ≤ w') : Stored id addr w' bytes b b' :=
  { h with outside := fun x hx => h.outside x (by omega) }

/-- A block, and the bytes after it.  A partial block is the last one. -/
theorem Stored.append {id addr w₁ w₂ : Nat} {xs ys : List UInt8} {b b' b'' : Btl}
    (h₁ : Stored id addr w₁ xs b b') (h₂ : Stored id (addr + w₁) w₂ ys b' b'')
    (hlen : xs.length ≤ w₁) (hfull : xs.length = w₁ ∨ ys = []) :
    Stored id addr (w₁ + w₂) (xs ++ ys) b b'' where
  writes := h₁.writes.trans h₂.writes
  crc := by
    obtain ⟨crc, n, himg⟩ := h₁.writes.img
    rw [h₂.crc, h₁.crc, himg]
    cases ht : b.img.bLostPacketStateTriggered with
    | true => simp
    | false => simp [u16CRC16CCITTUpdate_append]
  received := by
    rw [h₂.received, h₁.received, List.length_append, Nat.add_assoc]
  inside := by
    intro k v hv
    by_cases hk : k < xs.length
    · -- the second write lies behind the block
      rw [List.getElem?_append_left hk] at hv
      rw [h₂.outside _ (.inl (by omega))]
      exact h₁.inside k v hv
    · rw [List.getElem?_append_right (by omega)] at hv
      rcases hfull with hfull | hnil
      · have := h₂.inside _ v hv
        rwa [show addr + w₁ + (k - xs.length) = addr + k by omega] at this
      · rw [hnil] at hv
        cases hv
  outside := by
    intro x hx
    rw [h₂.outside x (by omega), h₁.outside x (by omega)]
  wrote := by
    obtain ⟨c₁, hl₁, hw₁⟩ := h₁.wrote
    obtain ⟨c₂, hl₂, hw₂⟩ := h₂.wrote
    refine ⟨c₂ ++ c₁, by rw [hl₂, hl₁, List.append_assoc], ?_⟩
    intro k v hv
    by_cases hk : k < xs.length
    · rw [List.getElem?_append_left hk] at hv
      obtain ⟨off, data, hmem, hoff, hdata⟩ := hw₁ k v hv
      exact ⟨off, data, List.mem_append_right _ hmem, hoff, hdata⟩
    · rw [List.getElem?_append_right (by omega)] at hv
      rcases hfull with hfull | hnil
      · obtain ⟨off, data, hmem, hoff, hdata⟩ := hw₂ _ v hv
        rw [show addr + w₁ + (k - xs.length) = addr + k by omega] at hoff hdata
        exact ⟨off, data, List.mem_append_left _ hmem, hoff, hdata⟩
      · rw [hnil] at hv
        cases hv

/-! ## §2. The outcomes of the loop. -/

/-- The bytes that the image area of the partition has room for. -/
def Btl.uiAvailableFlashSize (b : Btl) : Nat :=
  b.mgmt.uiFlashAreaSize - FW_IMAGE_SECONDARY_SLOT_WRITE_OFFSET

/-- Nothing can go wrong in the loop from image offset `off` on: the writes
succeed, the handle is open, and the blocks fit the partition. -/
structure Smooth (env : Env) (off : Nat) (b : Btl) : Prop where
  write : ∀ k, env.write k = 0
  flashArea : b.flashArea = some { fa_size := b.mgmt.uiFlashAreaSize }
  aligned : FW_IMG_WRITE_BYTE_LENGTH ∣ b.uiAvailableFlashSize
  size : b.mgmt.uiFWImgSize ≤ b.uiAvailableFlashSize
  off : off ≤ b.uiAvailableFlashSize ∧ FW_IMG_WRITE_BYTE_LENGTH ∣ off

/-- The outcomes of the write loop from image offset `off` on, where the bytes
`bytes` of packet `id` are left and the window is `w`.  A finished loop has
stored the bytes when they still fit into the image. -/
inductive WriteOutcome (env : Env) (id off w : Nat) (bytes : List UInt8) (j : Job) :
    Except Btl (Bool × Job) → Prop
  | finished {b : Btl} (h : WritesOnly j.btl b)
      (hst : j.btl.img.uiReceivedByteCount + bytes.length ≤ j.btl.mgmt.uiFWImgSize →
        Stored id (FW_IMAGE_SECONDARY_SLOT_WRITE_OFFSET + off) w bytes j.btl b) :
      WriteOutcome env id off w bytes j (.ok (true, { j with btl := b }))
  | gaveUp {b : Btl} (e : BootloaderError) (h : Work j.btl b) (why : ¬ Smooth env off j.btl) :
      WriteOutcome env id off w bytes j (.ok (false, rejectAndAbort { j with btl := b } e))
  | stopped {b : Btl} (h : Work j.btl b) (why : j.btl.flashArea = none) :
      WriteOutcome env id off w bytes j (.error { b with halted := some .nullFlashArea })

/-! ## §3. One pass of the loop. -/

/-- A write with the handle open that reports 0 has stored its block. -/
theorem flashAreaWrite_stored {env : Env} {id off pass : Nat} {data : List UInt8} {b b' : Btl}
    (h : flashAreaWrite env id off data pass b = .ok (0, b')) :
    b' = { b with flash := b.flash.write off data, log := .flashWrite id off data 0 :: b.log } := by
  unfold flashAreaWrite at h
  cases hfa : b.flashArea with
  | none =>
      rw [hfa] at h
      cases h
  | some fa =>
      rw [hfa] at h
      simp only [Except.ok.injEq, Prod.mk.injEq] at h
      obtain ⟨hret, rfl⟩ := h
      rw [hret, if_pos rfl, ← hfa]

/-- A write through the null handle. -/
theorem flashAreaWrite_null {env : Env} {id off pass : Nat} {data : List UInt8} {b b' : Btl}
    (h : flashAreaWrite env id off data pass b = .error b') :
    b.flashArea = none ∧ b' = { b with halted := some .nullFlashArea } := by
  unfold flashAreaWrite at h
  cases hfa : b.flashArea with
  | none =>
      rw [hfa] at h
      cases h
      exact ⟨rfl, rfl⟩
  | some fa =>
      rw [hfa] at h
      cases h

/-- Within the partition the result is that of the driver. -/
theorem flashAreaWrite_ret {env : Env} {id off pass : Nat} {data : List UInt8} {b b' : Btl}
    {fa : FlashArea} {ret : Int} (h : flashAreaWrite env id off data pass b = .ok (ret, b'))
    (hfa : b.flashArea = some fa) (hfits : off + data.length ≤ fa.fa_size) :
    ret = env.write pass := by
  unfold flashAreaWrite at h
  rw [hfa] at h
  simp only [Except.ok.injEq, Prod.mk.injEq] at h
  rw [← h.1, if_neg (by omega)]

/-- One block: the image bytes of the block, padded to the write length. -/
theorem stored_block {id off : Nat} {bytes pad : List UInt8} {b : Btl}
    (hopen : b.flashArea.isSome) (hlen : (bytes ++ pad).length = FW_IMG_WRITE_BYTE_LENGTH) :
    Stored id (FW_IMAGE_SECONDARY_SLOT_WRITE_OFFSET + off) FW_IMG_WRITE_BYTE_LENGTH bytes b
      { b with
        img := { b.img with
          uiRunningCRC := if !b.img.bLostPacketStateTriggered
            then u16CRC16CCITTUpdate b.img.uiRunningCRC bytes else b.img.uiRunningCRC
          uiReceivedByteCount := b.img.uiReceivedByteCount + bytes.length }
        flash := b.flash.write (FW_IMAGE_SECONDARY_SLOT_WRITE_OFFSET + off) (bytes ++ pad)
        log := .flashWrite id (FW_IMAGE_SECONDARY_SLOT_WRITE_OFFSET + off) (bytes ++ pad) 0
          :: b.log } := by
  rw [List.length_append] at hlen
  exact {
    writes := {
      work := .one rfl rfl rfl rfl rfl fun h => h.other rfl rfl rfl (by rw [hopen]; rfl)
      img := ⟨_, _, rfl⟩
      tx := rfl
      timers := rfl
      flashArea := rfl }
    crc := by
      show (if !b.img.bLostPacketStateTriggered then _ else _) = _
      cases b.img.bLostPacketStateTriggered <;> rfl
    received := rfl
    inside := by
      intro k v hv
      have hk : k < bytes.length := (List.getElem?_eq_some_iff.mp hv).1
      show Mem.write _ _ _ _ = v
      rw [Mem.write_inside (by omega) (by rw [List.length_append]; omega),
        Nat.add_sub_cancel_left, List.getD_append _ _ _ _ hk, List.getD_eq_getElem?_getD, hv]
      rfl
    outside := by
      intro x hx
      exact Mem.write_outside (by rw [List.length_append]; omega)
    wrote := by
      refine ⟨[_], rfl, ?_⟩
      intro k v hv
      have hk : k < bytes.length := (List.getElem?_eq_some_iff.mp hv).1
      refine ⟨_, _, List.mem_singleton.mpr rfl, Nat.le_add_right _ _, ?_⟩
      rw [Nat.add_sub_cancel_left, List.getElem?_append_left hk, hv] }

/-- The image bytes of a packet that the blocks from the `m`-th on store. -/
def bytesLeft (size id m : Nat) (uiaData : List UInt8) : List UInt8 :=
  (uiaData.drop (2 + FW_IMG_WRITE_BYTE_LENGTH * m)).take
    (packetLen size id - FW_IMG_WRITE_BYTE_LENGTH * m)

/-- The next block, of `n` bytes, and what is left after it. -/
theorem bytesLeft_split {size id m n : Nat} {uiaData : List UInt8}
    (hn : n = min FW_IMG_WRITE_BYTE_LENGTH (packetLen size id - FW_IMG_WRITE_BYTE_LENGTH * m)) :
    bytesLeft size id m uiaData
      = (uiaData.drop (2 + FW_IMG_WRITE_BYTE_LENGTH * m)).take n
        ++ bytesLeft size id (m + 1) uiaData := by
  unfold bytesLeft FW_IMG_WRITE_BYTE_LENGTH at *
  have hsum : packetLen size id - 16 * m = n + (packetLen size id - 16 * (m + 1)) := by
    omega
  rw [hsum, List.take_add, List.drop_drop]
  congr 1
  by_cases hfull : n = 16
  · rw [show 2 + 16 * m + n = 2 + 16 * (m + 1) by omega]
  · -- a partial block is the last one
    rw [show packetLen size id - 16 * (m + 1) = 0 by omega]
    rfl

/-- A pass that stores a block, followed by the rest of the loop. -/
theorem Stored.prepend {env : Env} {id off w : Nat} {xs ys : List UInt8} {j : Job}
    {b : Btl} {r : Except Btl (Bool × Job)}
    (h₁ : Stored id (FW_IMAGE_SECONDARY_SLOT_WRITE_OFFSET + off) FW_IMG_WRITE_BYTE_LENGTH
      xs j.btl b)
    (hlen : xs.length ≤ FW_IMG_WRITE_BYTE_LENGTH)
    (hfull : xs.length = FW_IMG_WRITE_BYTE_LENGTH ∨ ys = [])
    (hoff : off + FW_IMG_WRITE_BYTE_LENGTH ≤ j.btl.uiAvailableFlashSize)
    (h₂ : WriteOutcome env id (off + FW_IMG_WRITE_BYTE_LENGTH) w ys { j with btl := b } r) :
    WriteOutcome env id off (FW_IMG_WRITE_BYTE_LENGTH + w) (xs ++ ys) j r := by
  have hm : b.mgmt = j.btl.mgmt := h₁.writes.work.mgmt
  cases h₂ with
  | finished h hst =>
      refine .finished (h₁.writes.trans h) ?_
      intro hfits
      refine h₁.append (hst ?_) hlen hfull
      show b.img.uiReceivedByteCount + _ ≤ b.mgmt.uiFWImgSize
      rw [h₁.received, hm]
      rw [List.length_append] at hfits
      omega
  | gaveUp e h why =>
      refine .gaveUp e (h₁.writes.work.trans h) ?_
      intro hs
      apply why
      exact {
        write := hs.write
        flashArea := by
          show b.flashArea = some { fa_size := b.mgmt.uiFlashAreaSize }
          rw [h₁.writes.flashArea, hm]
          exact hs.flashArea
        aligned := by
          show _ ∣ b.mgmt.uiFlashAreaSize - _
          rw [hm]
          exact hs.aligned
        size := by
          show b.mgmt.uiFWImgSize ≤ b.mgmt.uiFlashAreaSize - _
          rw [hm]
          exact hs.size
        off := by
          show _ ≤ b.mgmt.uiFlashAreaSize - _ ∧ _
          rw [hm]
          exact ⟨hoff, Nat.dvd_add hs.off.2 (Nat.dvd_refl _)⟩ }
  | stopped h why =>
      refine .stopped (h₁.writes.work.trans h) ?_
      rw [← h₁.writes.flashArea]
      exact why

theorem blockIndexes_drop : ∀ m < 3,
    blockIndexes.drop m = (2 + FW_IMG_WRITE_BYTE_LENGTH * m) :: blockIndexes.drop (m + 1) := by
  decide

/-- **The write loop**, from its `m`-th block on: it stores the image bytes
that are left, unless a bound, a failing write or the null handle ends it. -/
theorem writeBlocks_outcome (env : Env) (id : Nat) {m k : Nat} (hm : m + k = 3) (j : Job)
    (hlen : j.msg.uiaData.length = FW_IMG_PACKET_DATA_LENGTH) :
    WriteOutcome env id (id * DATA_PAYLOAD_PER_ONE_IMAGE_FRAME + FW_IMG_WRITE_BYTE_LENGTH * m)
      (FW_IMG_WRITE_BYTE_LENGTH * k) (bytesLeft j.btl.mgmt.uiFWImgSize id m j.msg.uiaData) j
      (writeBlocks env id (blockIndexes.drop m) j) := by
  induction k generalizing m j with
  | zero =>
      -- all three blocks are done
      obtain rfl : m = 3 := by omega
      have hnil : bytesLeft j.btl.mgmt.uiFWImgSize id 3 j.msg.uiaData = [] := by
        have := packetLen_le j.btl.mgmt.uiFWImgSize id
        unfold bytesLeft FW_IMG_WRITE_BYTE_LENGTH
        unfold DATA_PAYLOAD_PER_ONE_IMAGE_FRAME at this
        rw [show packetLen j.btl.mgmt.uiFWImgSize id - 16 * 3 = 0 by omega]
        rfl
      rw [hnil]
      exact .finished (.refl _) fun _ => .nil ..
  | succ k ih =>
      rw [blockIndexes_drop m (by omega)]
      unfold writeBlocks
      simp only [Nat.add_sub_cancel_left]
      have hlast := packetLen_le j.btl.mgmt.uiFWImgSize id
      generalize hoff : id * DATA_PAYLOAD_PER_ONE_IMAGE_FRAME + FW_IMG_WRITE_BYTE_LENGTH * m = off
      generalize hn : (if off + FW_IMG_WRITE_BYTE_LENGTH ≤ j.btl.mgmt.uiFWImgSize
        then FW_IMG_WRITE_BYTE_LENGTH else j.btl.mgmt.uiFWImgSize - off) = n
      by_cases hbound : off > j.btl.mgmt.uiFlashAreaSize - FW_IMAGE_SECONDARY_SLOT_WRITE_OFFSET
      · rw [if_pos hbound]
        refine .gaveUp _ (.refl _) ?_
        intro hs
        exact absurd hs.off.1 (Nat.not_le.mpr hbound)
      rw [if_neg hbound]
      by_cases hend : off ≥ j.btl.mgmt.uiFWImgSize
      · -- the block starts past the end of the image
        rw [if_pos hend]
        have hnil : bytesLeft j.btl.mgmt.uiFWImgSize id m j.msg.uiaData = [] := by
          unfold bytesLeft packetLen chunkLen
          rw [Nat.mul_comm id] at hoff
          rw [show min DATA_PAYLOAD_PER_ONE_IMAGE_FRAME (j.btl.mgmt.uiFWImgSize
            - DATA_PAYLOAD_PER_ONE_IMAGE_FRAME * id) - FW_IMG_WRITE_BYTE_LENGTH * m = 0 by omega]
          rfl
        rw [hnil]
        exact .finished (.refl _) fun _ => .nil ..
      rw [if_neg hend]
      by_cases hroom : off + FW_IMG_WRITE_BYTE_LENGTH
          > j.btl.mgmt.uiFlashAreaSize - FW_IMAGE_SECONDARY_SLOT_WRITE_OFFSET
      · rw [if_pos hroom]
        refine .gaveUp _ (.refl _) ?_
        intro hs
        -- an aligned image that fits has room for its last block
        obtain ⟨a, ha⟩ := hs.aligned
        obtain ⟨c, hc⟩ := hs.off.2
        have hsize := hs.size
        unfold Btl.uiAvailableFlashSize FW_IMG_WRITE_BYTE_LENGTH at *
        omega
      rw [if_neg hroom]
      -- the next block has `n` bytes
      have hblock : n = min FW_IMG_WRITE_BYTE_LENGTH
          (packetLen j.btl.mgmt.uiFWImgSize id - FW_IMG_WRITE_BYTE_LENGTH * m) := by
        unfold packetLen chunkLen
        unfold FW_IMG_WRITE_BYTE_LENGTH DATA_PAYLOAD_PER_ONE_IMAGE_FRAME at *
        split at hn <;> omega
      have hsplit := @bytesLeft_split j.btl.mgmt.uiFWImgSize id m n j.msg.uiaData hblock
      generalize hys : bytesLeft j.btl.mgmt.uiFWImgSize id (m + 1) j.msg.uiaData = ys at hsplit
      generalize hxs : (j.msg.uiaData.drop (2 + FW_IMG_WRITE_BYTE_LENGTH * m)).take n = xs
        at hsplit ⊢
      have hxlen : xs.length = n := by
        rw [← hxs, List.length_take, List.length_drop, hlen]
        unfold FW_IMG_WRITE_BYTE_LENGTH FW_IMG_PACKET_DATA_LENGTH at *
        omega
      have hnpos : n ≤ FW_IMG_WRITE_BYTE_LENGTH := by omega
      rw [hsplit]
      split
      · rename_i b hw
        obtain ⟨hnone, rfl⟩ := flashAreaWrite_null hw
        exact .stopped (.of_log_eq rfl rfl rfl rfl rfl) hnone
      · rename_i ret b hw
        by_cases hret : ret ≠ 0
        · rw [if_pos hret]
          refine .gaveUp _ (flashAreaWrite_work hw).of_img ?_
          intro hs
          apply hret
          rw [flashAreaWrite_ret hw hs.flashArea, hs.write]
          rw [List.length_append, List.length_replicate, hxlen]
          show _ ≤ j.btl.mgmt.uiFlashAreaSize
          unfold FW_IMAGE_SECONDARY_SLOT_WRITE_OFFSET FW_IMG_WRITE_BYTE_LENGTH at *
          omega
        · rw [if_neg hret]
          obtain rfl : ret = 0 := by simpa using hret
          have hopen : j.btl.flashArea.isSome := by
            cases hfa : j.btl.flashArea with
            | some fa => rfl
            | none =>
                unfold flashAreaWrite at hw
                rw [hfa] at hw
                cases hw
          have hb := flashAreaWrite_stored hw
          clear hw
          -- the state after the pass
          obtain ⟨b₁, hb₁⟩ : ∃ b₁ : Btl, b₁ = { b with
              img := { b.img with uiReceivedByteCount := b.img.uiReceivedByteCount + n } } :=
            ⟨_, rfl⟩
          have hst : Stored id (FW_IMAGE_SECONDARY_SLOT_WRITE_OFFSET + off)
              FW_IMG_WRITE_BYTE_LENGTH xs j.btl b₁ := by
            have hblk := @stored_block id off xs
              (List.replicate (FW_IMG_WRITE_BYTE_LENGTH - n) 0xFF) j.btl hopen
              (by rw [List.length_append, List.length_replicate, hxlen]; omega)
            rw [hxlen] at hblk
            rw [hb₁, hb]
            exact hblk
          have hmgmt : b₁.mgmt = j.btl.mgmt := hst.writes.work.mgmt
          have hcount : b₁.img.uiReceivedByteCount = j.btl.img.uiReceivedByteCount + n := by
            rw [hst.received, hxlen]
          have hcount' : b.img.uiReceivedByteCount + n = b₁.img.uiReceivedByteCount := by
            rw [hb₁]
          rw [← hb₁, hcount']
          clear hb₁ hb hcount'
          by_cases hbreak : b₁.img.uiReceivedByteCount ≥ j.btl.mgmt.uiFWImgSize
          · -- the image is complete, so nothing of the packet is left
            rw [if_pos hbreak]
            refine .finished hst.writes ?_
            intro hfits
            rw [List.length_append] at hfits
            have hnil : ys = [] := List.length_eq_zero_iff.mp (by omega)
            rw [hnil, List.append_nil]
            exact hst.widen (Nat.le_mul_of_pos_right _ (Nat.succ_pos k))
          · rw [if_neg hbreak]
            have hfull : xs.length = FW_IMG_WRITE_BYTE_LENGTH ∨ ys = [] := by
              by_cases hpart : n = FW_IMG_WRITE_BYTE_LENGTH
              · exact .inl (hxlen.trans hpart)
              · refine .inr ?_
                rw [← hys]
                unfold bytesLeft
                unfold FW_IMG_WRITE_BYTE_LENGTH at *
                rw [show packetLen j.btl.mgmt.uiFWImgSize id - 16 * (m + 1) = 0 by omega]
                rfl
            have hnext := ih (show m + 1 + k = 3 by omega) { j with btl := b₁ } hlen
            simp only [hmgmt, hys] at hnext
            rw [Nat.mul_succ, Nat.add_comm (_ * k)]
            refine hst.prepend (by omega) hfull (by unfold Btl.uiAvailableFlashSize; omega) ?_
            rw [← hoff, Nat.add_assoc, ← Nat.mul_succ]
            exact hnext

/-- A packet whose first block starts behind the partition is not written. -/
theorem writeBlocks_inside {env : Env} {id : Nat} {j j' : Job}
    (h : writeBlocks env id blockIndexes j = .ok (true, j')) :
    id * DATA_PAYLOAD_PER_ONE_IMAGE_FRAME ≤ j.btl.uiAvailableFlashSize := by
  by_contra hout
  have hout' : id * DATA_PAYLOAD_PER_ONE_IMAGE_FRAME + (2 - 2)
      > j.btl.mgmt.uiFlashAreaSize - FW_IMAGE_SECONDARY_SLOT_WRITE_OFFSET := Nat.not_le.mp hout
  unfold blockIndexes writeBlocks at h
  simp only [if_pos hout', Except.ok.injEq, Prod.mk.injEq, Bool.false_eq_true, false_and] at h

end WallController.Bootloader
