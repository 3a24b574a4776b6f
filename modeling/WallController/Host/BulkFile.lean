/-
  WallController.Host.BulkFile
  ────────────────────────────────
  **THE PAYLOADS OF A FILE TRANSFER, AS THE HOST TOOL BUILDS THEM.**

  `fw_update_uart_gui.py`: `send_bulk_start`, `send_bulk_data` and
  `send_bulk_end` up to `send_pc_uart_command`, and what the bulk file
  service of the firmware reads from their payloads.
-/
import WallController.Lib.Bytes
import WallController.Lib.Utf8
import WallController.Bootloader.Host
import WallController.PCUart.Hub

namespace WallController.Host

open WallController.Lib

/-! ## §1. The payloads. -/

def OPERATION_LOCAL_BULK_FILE : Nat := 2
def BULK_DATA_LENGTH : Nat := 256
def MAX_BULK_FILE_NAME_BYTES : Nat := 29

/-- `FILE_TYPE_IDS.values()`. -/
def FILE_TYPE_IDS : List Nat := [1, 2, 3, 4]

/-- A big-endian integer of `struct.pack`. -/
def packBE (width n : Nat) : List UInt8 := (putLE width n).reverse

@[simp] theorem length_packBE (width n : Nat) : (packBE width n).length = width := by
  simp [packBE]

/-- `crc16_ccitt(data)`. -/
def crc16 (data : List UInt8) : Nat := Bootloader.crc16Ccitt data 0xFFFF

theorem crc16_eq (data : List UInt8) : crc16 data = (u16CRC16CCITTUpdate 0xFFFF data).toNat :=
  Bootloader.crc16Ccitt_eq data 0xFFFF

/-- The payload of `send_bulk_start`. -/
def sendBulkStart (selectedOperation : Option Nat) (fileType : Nat) (fileName : String)
    (fileData : List UInt8) : Except String (List UInt8) :=
  let encodedName := utf8Bytes fileName
  if encodedName = [] ∨ encodedName.length > MAX_BULK_FILE_NAME_BYTES then
    .error ("File name must contain 1 to " ++ toString MAX_BULK_FILE_NAME_BYTES ++ " UTF-8 bytes")
  else if fileData = [] then .error "Cannot transfer an empty file"
  else if fileData.length > 0xFFFFFFFF then
    .error "File is too large for the 32-bit bulk-transfer size field"
  else if fileType ∉ FILE_TYPE_IDS then
    .error ("Unsupported file type: " ++ toString fileType)
  else if selectedOperation ≠ some OPERATION_LOCAL_BULK_FILE then
    .error "Local Bulk File operation is not selected"
  else
    .ok (packBE 1 fileType ++ packBE 4 fileData.length ++ packBE 2 (crc16 fileData)
      ++ packBE 1 encodedName.length ++ encodedName)

/-- The payload of `send_bulk_data`. -/
def sendBulkData (selectedOperation : Option Nat) (frameId : Nat) (data : List UInt8) :
    Except String (List UInt8) :=
  if selectedOperation ≠ some OPERATION_LOCAL_BULK_FILE then
    .error "Local Bulk File operation is not selected"
  else if data = [] ∨ data.length > BULK_DATA_LENGTH then
    .error ("Bulk frame data length must be 1 to " ++ toString BULK_DATA_LENGTH ++ " bytes")
  else .ok (packBE 4 frameId ++ packBE 2 data.length ++ packBE 2 (crc16 data) ++ data)

/-! ## §2. What the firmware reads. -/

open WallController.PCUart WallController.LittleFs

theorem packBE_one (n : Nat) : packBE 1 n = [UInt8.ofNat n] := rfl

theorem packBE_two (n : Nat) : packBE 2 n = [UInt8.ofNat (n / 256), UInt8.ofNat n] := rfl

theorem packBE_four (n : Nat) :
    packBE 4 n = [UInt8.ofNat (n / 256 / 256 / 256), UInt8.ofNat (n / 256 / 256),
      UInt8.ofNat (n / 256), UInt8.ofNat n] := rfl

/-- A disjunction of a shifted number and a small one is their sum. -/
theorem shift_or (x : Nat) {y i : Nat} (h : y < 2 ^ i) : x <<< i ||| y = x * 2 ^ i + y := by
  rw [← Nat.shiftLeft_add_eq_or_of_lt h, Nat.shiftLeft_eq]

theorem u16ReadBigEndian_packBE {n : Nat} (p : List UInt8) (i : Nat) (hn : n < 65536)
    (h0 : byteAt p i = UInt8.ofNat (n / 256)) (h1 : byteAt p (i + 1) = UInt8.ofNat n) :
    u16ReadBigEndian p i = UInt16.ofNat n := by
  unfold u16ReadBigEndian
  rw [h0, h1]
  apply UInt16.toNat_inj.mp
  have hhigh : n / 256 % 256 = n / 256 := Nat.mod_eq_of_lt (by omega)
  have hshift : (n / 256) <<< 8 % 65536 = (n / 256) <<< 8 :=
    Nat.mod_eq_of_lt (by rw [Nat.shiftLeft_eq]; omega)
  have hlow : n % 256 < 2 ^ 8 := by omega
  simp only [UInt16.toNat_or, UInt16.toNat_shiftLeft, UInt8.toNat_toUInt16, UInt8.toNat_ofNat',
    UInt16.toNat_ofNat']
  show (n / 256 % 256) <<< 8 % 65536 ||| n % 256 = n % 65536
  rw [hhigh, hshift, shift_or _ hlow]
  omega

theorem uiReadBigEndian_packBE {n : Nat} (p : List UInt8) (i : Nat) (hn : n < 4294967296)
    (h0 : byteAt p i = UInt8.ofNat (n / 256 / 256 / 256))
    (h1 : byteAt p (i + 1) = UInt8.ofNat (n / 256 / 256))
    (h2 : byteAt p (i + 2) = UInt8.ofNat (n / 256)) (h3 : byteAt p (i + 3) = UInt8.ofNat n) :
    uiReadBigEndian p i = UInt32.ofNat n := by
  unfold uiReadBigEndian
  rw [h0, h1, h2, h3]
  apply UInt32.toNat_inj.mp
  simp only [UInt32.toNat_or, UInt32.toNat_shiftLeft, UInt8.toNat_toUInt32, UInt8.toNat_ofNat',
    UInt32.toNat_ofNat']
  show (n / 256 / 256 / 256 % 256) <<< 24 % 4294967296
      ||| (n / 256 / 256 % 256) <<< 16 % 4294967296
      ||| (n / 256 % 256) <<< 8 % 4294967296 ||| n % 256 = n % 4294967296
  have hbyte : ∀ x k : Nat, k ≤ 24 → (x % 256) <<< k % 4294967296 = (x % 256) <<< k := by
    intro x k hk
    apply Nat.mod_eq_of_lt
    rw [Nat.shiftLeft_eq]
    calc x % 256 * 2 ^ k ≤ 255 * 2 ^ 24 :=
          Nat.mul_le_mul (by omega) (Nat.pow_le_pow_right (by decide) hk)
      _ < 4294967296 := by decide
  rw [hbyte _ 24 (by omega), hbyte _ 16 (by omega), hbyte _ 8 (by omega),
    shift_or _ (show (n / 256 / 256 % 256) <<< 16 < 2 ^ 24 by rw [Nat.shiftLeft_eq]; omega)]
  -- the sum of the high bytes is again a shifted number
  rw [show n / 256 / 256 / 256 % 256 * 2 ^ 24 + (n / 256 / 256 % 256) <<< 16
      = (n / 256 / 256 / 256 % 256 * 2 ^ 8 + n / 256 / 256 % 256) <<< 16 by
        simp only [Nat.shiftLeft_eq]; omega,
    shift_or _ (show (n / 256 % 256) <<< 8 < 2 ^ 16 by rw [Nat.shiftLeft_eq]; omega)]
  rw [show (n / 256 / 256 / 256 % 256 * 2 ^ 8 + n / 256 / 256 % 256) * 2 ^ 16
        + (n / 256 % 256) <<< 8
      = ((n / 256 / 256 / 256 % 256 * 2 ^ 8 + n / 256 / 256 % 256) * 2 ^ 8
          + n / 256 % 256) <<< 8 by simp only [Nat.shiftLeft_eq]; omega,
    shift_or _ (show n % 256 < 2 ^ 8 by omega)]
  omega

/-- The request that the service makes of a `START` payload of the host. -/
theorem eProcessBulkStart_host {fileType : Nat} {fileName : String} {fileData payload : List UInt8}
    (hub : Hub) (h : sendBulkStart (some OPERATION_LOCAL_BULK_FILE) fileType fileName fileData
      = .ok payload) :
    ∃ t : BulkTransferData,
      eProcessBulkStart hub (some payload) payload.length = .call (.start t)
        ∧ t.eFileType = fileType ∧ t.uiFileSize = fileData.length
        ∧ t.pcaFileName = (utf8Bytes fileName).takeWhile (· ≠ 0)
        ∧ t.uiCRC = u16CRC16CCITTUpdate 0xFFFF fileData := by
  -- the checks of the host in its order, with what the rest of the proof needs of each
  unfold sendBulkStart at h
  simp only [] at h
  split at h
  · cases h
  next hname =>
  split at h
  · cases h
  next hdata =>
  split at h
  · cases h
  next hsize =>
  split at h
  · cases h
  next htype =>
  rw [if_neg (by simp)] at h
  obtain ⟨hne, hlen⟩ : utf8Bytes fileName ≠ [] ∧ (utf8Bytes fileName).length ≤ 29 := by
    simpa [MAX_BULK_FILE_NAME_BYTES] using hname
  have hpos : 0 < (utf8Bytes fileName).length := List.length_pos_iff.mpr hne
  have htype : fileType = 1 ∨ fileType = 2 ∨ fileType = 3 ∨ fileType = 4 := by
    have : fileType ∈ FILE_TYPE_IDS := not_not.mp htype
    simpa [FILE_TYPE_IDS] using this
  have hcrc := (u16CRC16CCITTUpdate 0xFFFF fileData).toNat_lt
  rw [← crc16_eq] at hcrc
  rw [packBE_one, packBE_four, packBE_two, packBE_one] at h
  -- the payload, byte by byte
  have hp : payload = UInt8.ofNat fileType :: UInt8.ofNat (fileData.length / 256 / 256 / 256)
      :: UInt8.ofNat (fileData.length / 256 / 256) :: UInt8.ofNat (fileData.length / 256)
      :: UInt8.ofNat fileData.length :: UInt8.ofNat (crc16 fileData / 256)
      :: UInt8.ofNat (crc16 fileData) :: UInt8.ofNat (utf8Bytes fileName).length
      :: utf8Bytes fileName := by
    cases h
    rfl
  clear h
  have hnameLen : (byteAt payload 7).toNat = (utf8Bytes fileName).length := by
    rw [hp]
    show (UInt8.ofNat (utf8Bytes fileName).length).toNat = _
    rw [UInt8.toNat_ofNat']
    exact Nat.mod_eq_of_lt (by omega)
  have hpayload : payload.length = 8 + (utf8Bytes fileName).length := by
    rw [hp]
    simp only [List.length_cons]
    omega
  have hsz : uiReadBigEndian payload 1 = UInt32.ofNat fileData.length :=
    uiReadBigEndian_packBE payload 1 (by omega) (by rw [hp]; rfl) (by rw [hp]; rfl)
      (by rw [hp]; rfl) (by rw [hp]; rfl)
  have hft : (byteAt payload 0).toNat = fileType := by
    rw [hp]
    show (UInt8.ofNat fileType).toNat = fileType
    rw [UInt8.toNat_ofNat']
    exact Nat.mod_eq_of_lt (by omega)
  -- the firmware's checks pass, and the fields are read back
  refine ⟨transferDataOf payload (utf8Bytes fileName).length, ?_, hft, ?_, ?_, ?_⟩
  · unfold eProcessBulkStart
    simp only [hnameLen]
    rw [if_neg (by unfold PC_UART_PROTOCOL_BULK_START_FIXED_LENGTH; omega),
      if_neg (by unfold MAX_FILE_NAME_LENGTH PC_UART_PROTOCOL_BULK_START_FIXED_LENGTH; omega)]
    have hdir : directoryOf (transferDataOf payload (utf8Bytes fileName).length).eFileType
        ≠ none := by
      show directoryOf (byteAt payload 0).toNat ≠ none
      rw [hft]
      rcases htype with rfl | rfl | rfl | rfl <;> simp [directoryOf]
    have hlarge : (transferDataOf payload (utf8Bytes fileName).length).uiFileSize ≠ 0 := by
      show (uiReadBigEndian payload 1).toNat ≠ 0
      have : 0 < fileData.length := List.length_pos_iff.mpr hdata
      rw [hsz, UInt32.toNat_ofNat', Nat.mod_eq_of_lt (by omega)]
      omega
    rw [if_neg (by simp [hdir, hlarge])]
  · show (uiReadBigEndian payload 1).toNat = _
    rw [hsz, UInt32.toNat_ofNat']
    exact Nat.mod_eq_of_lt (by omega)
  · show ((payload.drop 8).take _).takeWhile _ = _
    rw [show payload.drop 8 = utf8Bytes fileName by rw [hp]; rfl, List.take_length]
  · show u16ReadBigEndian payload 5 = _
    rw [u16ReadBigEndian_packBE payload 5 hcrc (by rw [hp]; rfl) (by rw [hp]; rfl), crc16_eq,
      UInt16.ofNat_toNat]

end WallController.Host
