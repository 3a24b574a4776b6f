/-
  WallController.Bootloader.Host
  ────────────────────────────────
  **THE HOST SIDE OF AN UPDATE (`tools/fw_update_uart_gui.py`).**

  The update tool cuts an image into packets of 48 bytes, pads the last one
  with `0xFF`, and announces size and CRC in the update request.  A Python
  function that raises is `none` here, and a Python integer is a `Nat`.

  The lemmas say what the controller finds in the frames: the request carries
  the size and the CRC of the image, packet `i` carries the bytes of the image
  from `48 * i` on, and put together in order these bytes are the image.
-/
import WallController.Bootloader.Receive

namespace WallController.Bootloader

open WallController.Lib

/-! ## §1. The CRC of the tool. -/

/-- One pass of the inner loop of `crc16_ccitt`. -/
def crc16CcittBit (crc : Nat) : Nat :=
  if crc &&& 0x8000 ≠ 0 then ((crc <<< 1) ^^^ 0x1021) &&& 0xFFFF else (crc <<< 1) &&& 0xFFFF

/-- `crc16_ccitt(data, initial)`. -/
def crc16Ccitt (data : List UInt8) (initial : Nat) : Nat :=
  data.foldl (fun crc byte => Nat.repeat crc16CcittBit 8 (crc ^^^ (byte.toNat <<< 8))) initial

theorem crc16CcittBit_toNat (crc : UInt16) : crc16CcittBit crc.toNat = (crc16Bit crc).toNat := by
  have hmask (x : Nat) : x &&& 0xFFFF = x % 65536 := Nat.and_two_pow_sub_one_eq_mod x 16
  have hshift : (crc <<< 1).toNat = crc.toNat <<< 1 % 65536 := by
    simp [UInt16.toNat_shiftLeft]
  have htop : (crc.toNat &&& 0x8000 ≠ 0) ↔ (crc &&& 0x8000 ≠ 0) := by
    rw [← UInt16.toNat_inj.ne]
    simp
  unfold crc16CcittBit crc16Bit
  by_cases h : crc &&& 0x8000 ≠ 0
  · rw [if_pos h, if_pos (htop.mpr h), hmask, UInt16.toNat_xor, hshift]
    exact Nat.xor_mod_two_pow (n := 16)
  · rw [if_neg h, if_neg (fun h' => h (htop.mp h')), hmask, hshift]

theorem repeat_crc16CcittBit (n : Nat) (crc : UInt16) :
    Nat.repeat crc16CcittBit n crc.toNat = (Nat.repeat crc16Bit n crc).toNat := by
  induction n with
  | zero => rfl
  | succ n ih =>
      show crc16CcittBit (Nat.repeat crc16CcittBit n crc.toNat) = _
      rw [ih, crc16CcittBit_toNat]
      rfl

/-- **The two CRCs agree.** -/
theorem crc16Ccitt_eq (data : List UInt8) (crc : UInt16) :
    crc16Ccitt data crc.toNat = (u16CRC16CCITTUpdate crc data).toNat := by
  induction data generalizing crc with
  | nil => rfl
  | cons byte data ih =>
      have hshift : (byte.toUInt16 <<< 8).toNat = byte.toNat <<< 8 := by
        have hlt := byte.toNat_lt
        simp only [UInt16.toNat_shiftLeft, UInt8.toNat_toUInt16]
        show byte.toNat <<< 8 % 65536 = _
        rw [Nat.shiftLeft_eq]
        omega
      have hbyte : Nat.repeat crc16CcittBit 8 (crc.toNat ^^^ (byte.toNat <<< 8))
          = (crc16Byte crc byte).toNat := by
        rw [← hshift, ← UInt16.toNat_xor, repeat_crc16CcittBit]
        rfl
      show crc16Ccitt data (Nat.repeat crc16CcittBit 8 (crc.toNat ^^^ (byte.toNat <<< 8))) = _
      rw [hbyte, ih]
      rfl

/-! ## §2. The update request. -/

def MAX_FW_SIZE_24BIT : Nat := 0xFFFFFF
def HW_REV : Nat := 1
def LIB_REV : Nat := 1
def FW_REV : Nat := 1

/-- `build_fw_update_request(image)`; a `ValueError` is `none`. -/
def buildFwUpdateRequest (image : List UInt8) : Option (List UInt8) :=
  let image_size := image.length
  let image_crc := crc16Ccitt image 0xFFFF
  if image_size = 0 then none
  else if image_size > MAX_FW_SIZE_24BIT then none
  else
    some [
      UInt8.ofNat (image_size >>> 16), UInt8.ofNat (image_size >>> 8), UInt8.ofNat image_size,
      UInt8.ofNat HW_REV, UInt8.ofNat (LIB_REV >>> 8), UInt8.ofNat LIB_REV,
      UInt8.ofNat (FW_REV >>> 8), UInt8.ofNat FW_REV,
      UInt8.ofNat (image_crc >>> 8), UInt8.ofNat image_crc]

/-- **The request carries the size and the CRC of the image.** -/
theorem buildFwUpdateRequest_spec {image request : List UInt8}
    (h : buildFwUpdateRequest image = some request) :
    request.length = 10 ∧ 0 < image.length ∧ requestedSize request = image.length ∧
      UInt16.ofNat (be16 request 8) = u16CRC16CCITTUpdate 0xFFFF image := by
  unfold buildFwUpdateRequest at h
  by_cases hzero : image.length = 0
  · simp only [if_pos hzero] at h
    cases h
  by_cases hlarge : image.length > MAX_FW_SIZE_24BIT
  · simp only [if_neg hzero, if_pos hlarge] at h
    cases h
  simp only [if_neg hzero, if_neg hlarge, Option.some.injEq] at h
  subst h
  have hcrc : crc16Ccitt image 0xFFFF = (u16CRC16CCITTUpdate 0xFFFF image).toNat :=
    crc16Ccitt_eq image 0xFFFF
  have hlt := (u16CRC16CCITTUpdate 0xFFFF image).toNat_lt
  refine ⟨rfl, by omega, ?_, ?_⟩
  · unfold requestedSize
    unfold MAX_FW_SIZE_24BIT at hlarge
    simp only [List.getD_cons_zero, List.getD_cons_succ, UInt8.toNat_ofNat',
      Nat.shiftRight_eq_div_pow]
    omega
  · rw [← UInt16.toNat_inj]
    unfold be16
    rw [hcrc]
    generalize (u16CRC16CCITTUpdate 0xFFFF image).toNat = crc at hlt ⊢
    simp only [List.getD_cons_zero, List.getD_cons_succ, UInt8.toNat_ofNat',
      Nat.shiftRight_eq_div_pow, UInt16.toNat_ofNat']
    omega

/-! ## §3. The packets. -/

def FW_UP_MSG_PAYLOAD_LEN : Nat := 50
def FW_UP_MSG_DATA_LEN : Nat := 48

/-- `FirmwarePacket`. -/
structure FirmwarePacket where
  packet_id : Nat
  offset : Nat
  valid_len : Nat
  payload : List UInt8
  deriving DecidableEq

/-- `struct.pack(">H", value)`, which raises for values of more than 16 bits. -/
def structPackH (value : Nat) : Option (List UInt8) :=
  if value ≤ 0xFFFF then some [UInt8.ofNat (value / 256), UInt8.ofNat value] else none

/-- The bytes of the image that packet `packet_id` is about. -/
def imageChunk (image : List UInt8) (packet_id : Nat) : List UInt8 :=
  (image.drop (FW_UP_MSG_DATA_LEN * packet_id)).take FW_UP_MSG_DATA_LEN

/-- One pass of the loop of `build_fw_packets`. -/
def buildFwPacket (image : List UInt8) (packet_id : Nat) : Option FirmwarePacket :=
  let chunk := imageChunk image packet_id
  let valid_len := chunk.length
  let chunk := if chunk.length < FW_UP_MSG_DATA_LEN
    then chunk ++ List.replicate (FW_UP_MSG_DATA_LEN - chunk.length) 0xFF else chunk
  (structPackH packet_id).bind fun header =>
    let payload := header ++ chunk
    if payload.length ≠ FW_UP_MSG_PAYLOAD_LEN then none
    else some { packet_id, offset := FW_UP_MSG_DATA_LEN * packet_id, valid_len, payload }

/-- The loop of `build_fw_packets` over the packet ids. -/
def buildFwPacketsLoop (image : List UInt8) : List Nat → Option (List FirmwarePacket)
  | [] => some []
  | packet_id :: rest =>
      (buildFwPacket image packet_id).bind fun packet =>
        (buildFwPacketsLoop image rest).map fun packets => packet :: packets

/-- `build_fw_packets(image)`; the ids are those of `enumerate(range(0,
len(image), FW_UP_MSG_DATA_LEN))`. -/
def buildFwPackets (image : List UInt8) : Option (List FirmwarePacket) :=
  buildFwPacketsLoop image
    (List.range ((image.length + FW_UP_MSG_DATA_LEN - 1) / FW_UP_MSG_DATA_LEN))

/-- What the controller finds in a packet of the tool. -/
structure FirmwarePacket.Describes (image : List UInt8) (p : FirmwarePacket) : Prop where
  length : p.payload.length = FW_IMG_PACKET_DATA_LENGTH
  id : packetId p.payload = p.packet_id
  /-- The part of the payload within the image is the chunk of the packet. -/
  bytes : (p.payload.drop 2).take (packetLen image.length p.packet_id)
    = imageChunk image p.packet_id

theorem buildFwPacket_spec {image : List UInt8} {packet_id : Nat} {p : FirmwarePacket}
    (h : buildFwPacket image packet_id = some p) :
    p.packet_id = packet_id ∧ p.Describes image := by
  unfold buildFwPacket structPackH at h
  by_cases hid : packet_id ≤ 0xFFFF
  swap
  · rw [if_neg hid] at h
    cases h
  rw [if_pos hid] at h
  simp only [Option.bind_some] at h
  have hlen : (imageChunk image packet_id).length = packetLen image.length packet_id := by
    unfold imageChunk packetLen chunkLen FW_UP_MSG_DATA_LEN DATA_PAYLOAD_PER_ONE_IMAGE_FRAME
    rw [List.length_take, List.length_drop]
  have hmax := packetLen_le image.length packet_id
  -- the padded chunk starts with the chunk and has the full length
  obtain ⟨padded, hpadded⟩ : ∃ padded, padded =
      if (imageChunk image packet_id).length < FW_UP_MSG_DATA_LEN
      then imageChunk image packet_id
        ++ List.replicate (FW_UP_MSG_DATA_LEN - (imageChunk image packet_id).length) 0xFF
      else imageChunk image packet_id := ⟨_, rfl⟩
  have htake : padded.take (packetLen image.length packet_id) = imageChunk image packet_id := by
    rw [hpadded, ← hlen]
    split
    · exact List.take_left
    · exact List.take_length
  rw [← hpadded] at h
  by_cases hfull : ([UInt8.ofNat (packet_id / 256), UInt8.ofNat packet_id] ++ padded).length
      ≠ FW_UP_MSG_PAYLOAD_LEN
  · rw [if_pos hfull] at h
    cases h
  rw [if_neg hfull] at h
  cases h
  refine ⟨rfl, not_not.mp hfull, ?_, htake⟩
  show (UInt8.ofNat (packet_id / 256)).toNat * 256 + (UInt8.ofNat packet_id).toNat = packet_id
  rw [UInt8.toNat_ofNat', UInt8.toNat_ofNat']
  omega

theorem buildFwPacketsLoop_spec {image : List UInt8} {ids : List Nat}
    {packets : List FirmwarePacket} (h : buildFwPacketsLoop image ids = some packets) :
    packets.map (·.packet_id) = ids ∧ ∀ p ∈ packets, p.Describes image := by
  induction ids generalizing packets with
  | nil =>
      cases h
      exact ⟨rfl, by simp⟩
  | cons packet_id rest ih =>
      unfold buildFwPacketsLoop at h
      cases hp : buildFwPacket image packet_id with
      | none =>
          rw [hp] at h
          cases h
      | some p =>
          cases hps : buildFwPacketsLoop image rest with
          | none =>
              rw [hp, hps] at h
              cases h
          | some ps =>
              rw [hp, hps] at h
              cases h
              obtain ⟨hid, hdesc⟩ := buildFwPacket_spec hp
              obtain ⟨hids, hall⟩ := ih hps
              refine ⟨by rw [List.map_cons, hid, hids], ?_⟩
              intro q hq
              rcases List.mem_cons.mp hq with hq | hq
              · rw [hq]
                exact hdesc
              · exact hall q hq

/-- **The packets of an image**: their ids are those below the packet count of
the controller, and each describes its part of the image. -/
theorem buildFwPackets_spec {image : List UInt8} {packets : List FirmwarePacket}
    (h : buildFwPackets image = some packets) :
    packets.map (·.packet_id) = List.range (uiExpectedPacketCount image.length) ∧
      ∀ p ∈ packets, p.Describes image :=
  buildFwPacketsLoop_spec h

/-- **Reassembly**: the chunks in order are the image, as far as they reach. -/
theorem flatMap_imageChunk (image : List UInt8) (n : Nat) :
    (List.range n).flatMap (imageChunk image) = image.take (FW_UP_MSG_DATA_LEN * n) := by
  induction n with
  | zero => simp
  | succ n ih =>
      rw [List.range_succ, List.flatMap_append, ih, List.flatMap_singleton, Nat.mul_succ,
        List.take_add]
      rfl

end WallController.Bootloader
