/-
  WallController.Host.SourceConfig
  ────────────────────────────────
  **THE CONFIGURATION RECORD, AS THE HOST TOOL READS AND WRITES IT.**

  `fw_update_uart_gui.py`: `validate_source_configuration`,
  `encode_source_configuration`, `decode_source_configuration` and
  `validate_bulk_file_selection`.  This is a second implementation of the
  format of `AudioSrc.Record`, translated from its own source.

  Texts are `String`s: a Python string with a lone surrogate is refused by
  `.encode("utf-8")`, and has no counterpart here.  `zlib.crc32` and
  `str.lower` are the parameters `crc32` and `lower`.
-/
import WallController.Lib.Bytes
import WallController.Lib.Utf8
import Mathlib

namespace WallController.Host

open WallController.Lib

/-! ## §1. Constants. -/

def NUMBER_OF_AUDIO_SOURCES : Int := 4

/-- `b"SRCF"`. -/
def SOURCE_CONFIG_MAGIC : List UInt8 := [0x53, 0x52, 0x43, 0x46]
def SOURCE_CONFIG_VERSION : Nat := 2
def SOURCE_CONFIG_NAME_MAX_BYTES : Nat := 23
def SOURCE_CONFIG_HEADER_SIZE : Nat := 24
def SOURCE_CONFIG_CRC_OFFSET : Nat := 16
/-- `SOURCE_CONFIG_RECORD.size`. -/
def SOURCE_CONFIG_RECORD_SIZE : Nat := 48

def SOURCE_CONFIG_FLAG_ACTIVE : UInt8 := 1
def SOURCE_CONFIG_FLAG_MUTED : UInt8 := 2
def SOURCE_CONFIG_FLAG_SELECTED : UInt8 := 4
def SOURCE_CONFIG_KNOWN_FLAGS : UInt8 :=
  SOURCE_CONFIG_FLAG_ACTIVE ||| SOURCE_CONFIG_FLAG_MUTED ||| SOURCE_CONFIG_FLAG_SELECTED

def FILE_TYPE_CONFIG : Nat := 1

/-- `SOURCE_TYPE_NAMES`. -/
def SOURCE_TYPE_NAMES : List (Int × String) := [(0, "None"), (1, "Wired"), (2, "Bluetooth")]

structure SourceConfiguration where
  sourceType : Int
  sourceId : Int
  sourceName : String
  volume : Int
  isActive : Bool
  isMuted : Bool
  isSelected : Bool
  deriving DecidableEq, Repr

/-- `default_source_configuration`. -/
def defaultSourceConfiguration (sourceId : Int) : SourceConfiguration where
  sourceType := 0
  sourceId := sourceId
  sourceName := "Source " ++ toString (sourceId + 1)
  volume := 0
  isActive := false
  isMuted := false
  isSelected := false

/-! ## §2. Texts. -/

/-- `str.isspace` of a character. -/
def isSpace (c : Char) : Bool :=
  let n := c.toNat
  (9 ≤ n && n ≤ 13) || (28 ≤ n && n ≤ 32) || n = 0x85 || n = 0xA0 || n = 0x1680
    || (0x2000 ≤ n && n ≤ 0x200A) || n = 0x2028 || n = 0x2029 || n = 0x202F || n = 0x205F
    || n = 0x3000

/-- `str.strip`. -/
def strip (s : String) : String :=
  String.ofList ((s.toList.dropWhile isSpace).reverse.dropWhile isSpace).reverse

/-- `"source_" + "%02d" % n + ".bin"` of a number below 10. -/
def expectedName (sourceId : Int) : String := "source_0" ++ toString sourceId ++ ".bin"

/-- `"%0" ++ width ++ "X" % n`. -/
def hex (width n : Nat) : String :=
  let digits := (Nat.toDigits 16 n).map Char.toUpper
  String.ofList (List.replicate (width - digits.length) (Char.ofNat 48) ++ digits)

/-! ## §3. The functions. -/

/-- The beginning of a message about a source. -/
def about (sourceId : Int) (text : String) : String := "Source " ++ toString sourceId ++ ": " ++ text

/-- `validate_source_configuration`: the encoded name. -/
def validateSourceConfiguration (c : SourceConfiguration) : Except String (List UInt8) :=
  if (SOURCE_TYPE_NAMES.lookup c.sourceType).isNone then
    .error (about c.sourceId "Source Type must match eAudioSrc_Type_t")
  else if ¬ (0 ≤ c.sourceId ∧ c.sourceId < NUMBER_OF_AUDIO_SOURCES) then
    .error ("Source ID " ++ toString c.sourceId ++ " is outside 0.."
      ++ toString (NUMBER_OF_AUDIO_SOURCES - 1))
  else if strip c.sourceName = "" then .error (about c.sourceId "Source Name cannot be empty")
  else if c.sourceName ≠ strip c.sourceName then
    .error (about c.sourceId "Source Name cannot start or end with whitespace")
  else if c.sourceName.toList.contains (Char.ofNat 0) then
    .error (about c.sourceId "Source Name cannot contain NUL")
  else
    let sourceName := utf8Bytes (strip c.sourceName)
    if sourceName.length > SOURCE_CONFIG_NAME_MAX_BYTES then
      .error (about c.sourceId ("Source Name is " ++ toString sourceName.length
        ++ " UTF-8 bytes; maximum is " ++ toString SOURCE_CONFIG_NAME_MAX_BYTES))
    else if ¬ (0 ≤ c.volume ∧ c.volume ≤ 100) then
      .error (about c.sourceId "Volume must be between 0 and 100")
    else if c.isActive ∧ c.sourceType = 0 then
      .error (about c.sourceId "An active source cannot have Source Type None")
    else if c.isSelected ∧ ¬ c.isActive then
      .error (about c.sourceId "A selected source must also be active")
    else .ok sourceName

variable (crc32 : List UInt8 → UInt32)

/-- One byte of `struct.pack`, of a number below 256. -/
def byteOf (n : Int) : UInt8 := UInt8.ofNat n.toNat

/-- `encode_source_configuration`. -/
def encodeSourceConfiguration (c : SourceConfiguration) : Except String (List UInt8) :=
  match validateSourceConfiguration c with
  | .error e => .error e
  | .ok sourceName =>
    let sourceNameField :=
      sourceName ++ List.replicate (SOURCE_CONFIG_NAME_MAX_BYTES + 1 - sourceName.length) 0
    let flags := (if c.isActive then SOURCE_CONFIG_FLAG_ACTIVE else 0)
      ||| (if c.isMuted then SOURCE_CONFIG_FLAG_MUTED else 0)
      ||| (if c.isSelected then SOURCE_CONFIG_FLAG_SELECTED else 0)
    let sourcePayload :=
      [byteOf c.sourceType, byteOf c.sourceId, flags, byteOf c.volume,
        UInt8.ofNat sourceName.length, 0, 0, 0] ++ sourceNameField
    .ok (SOURCE_CONFIG_MAGIC ++ (putLE 2 SOURCE_CONFIG_VERSION
      ++ (putLE 2 SOURCE_CONFIG_HEADER_SIZE ++ (putLE 4 SOURCE_CONFIG_RECORD_SIZE
      ++ (putLE 4 (crc32 sourcePayload).toNat ++ sourcePayload)))))

section Offsets

variable {record : List UInt8} (h : record.length = 48)
include h

/-! The fields of `SOURCE_CONFIG_RECORD` lie within a record. -/

theorem magic_fits : 0 + 4 ≤ record.length := by omega
theorem version_fits : 4 + 2 ≤ record.length := by omega
theorem headerSize_fits : 6 + 2 ≤ record.length := by omega
theorem totalSize_fits : 8 + 4 ≤ record.length := by omega
theorem expectedCrc32_fits : 12 + 4 ≤ record.length := by omega
theorem sourceType_fits : 16 < record.length := by omega
theorem sourceId_fits : 17 < record.length := by omega
theorem flags_fits : 18 < record.length := by omega
theorem volume_fits : 19 < record.length := by omega
theorem sourceNameLength_fits : 20 < record.length := by omega
theorem reserved_fits : 21 + 3 ≤ record.length := by omega
theorem sourceName_fits : 24 + 24 ≤ record.length := by omega

end Offsets

/-- `decode_source_configuration`. -/
def decodeSourceConfiguration (record : List UInt8) : Except String SourceConfiguration :=
  if h : record.length = 48 then
    let magic := (fieldAt 0 4 record (magic_fits h)).toList
    let version := getLE (fieldAt 4 2 record (version_fits h)).toList
    let headerSize := getLE (fieldAt 6 2 record (headerSize_fits h)).toList
    let totalSize := getLE (fieldAt 8 4 record (totalSize_fits h)).toList
    let expectedCrc32 := getLE (fieldAt 12 4 record (expectedCrc32_fits h)).toList
    let sourceType := getElem record 16 (sourceType_fits h)
    let sourceId : Int := (getElem record 17 (sourceId_fits h)).toNat
    let flags := getElem record 18 (flags_fits h)
    let volume := getElem record 19 (volume_fits h)
    let sourceNameLength := (getElem record 20 (sourceNameLength_fits h)).toNat
    let reserved := (fieldAt 21 3 record (reserved_fits h)).toList
    let sourceNameField := (fieldAt 24 24 record (sourceName_fits h)).toList
    if magic ≠ SOURCE_CONFIG_MAGIC then .error "Invalid source configuration magic"
    else if version ≠ SOURCE_CONFIG_VERSION then
      .error ("Unsupported source configuration version: " ++ toString version)
    else if headerSize ≠ SOURCE_CONFIG_HEADER_SIZE then
      .error ("Invalid source configuration header size: " ++ toString headerSize)
    else if totalSize ≠ SOURCE_CONFIG_RECORD_SIZE then
      .error ("Invalid source configuration record size: " ++ toString totalSize)
    else if flags &&& ~~~SOURCE_CONFIG_KNOWN_FLAGS ≠ 0 then
      .error (about sourceId ("Unknown flag bits 0x" ++ hex 2 flags.toNat))
    else if reserved ≠ [0, 0, 0] then .error (about sourceId "Reserved bytes must be zero")
    else if sourceNameLength > SOURCE_CONFIG_NAME_MAX_BYTES then
      .error (about sourceId "Invalid source-name length")
    else if (crc32 (record.drop SOURCE_CONFIG_CRC_OFFSET)).toNat ≠ expectedCrc32 then
      .error (about sourceId ("CRC32 mismatch (stored 0x" ++ hex 8 expectedCrc32
        ++ ", calculated 0x" ++ hex 8 (crc32 (record.drop SOURCE_CONFIG_CRC_OFFSET)).toNat ++ ")"))
    else if (sourceNameField.drop sourceNameLength).any (· ≠ 0) then
      .error (about sourceId "Source-name padding must be zero")
    else
      match utf8Decode (sourceNameField.take sourceNameLength) with
      | none => .error (about sourceId "Source Name is not valid UTF-8")
      | some sourceName =>
        let configuration : SourceConfiguration :=
          { sourceType := sourceType.toNat
            sourceId := sourceId
            sourceName := sourceName
            volume := volume.toNat
            isActive := decide (flags &&& SOURCE_CONFIG_FLAG_ACTIVE ≠ 0)
            isMuted := decide (flags &&& SOURCE_CONFIG_FLAG_MUTED ≠ 0)
            isSelected := decide (flags &&& SOURCE_CONFIG_FLAG_SELECTED ≠ 0) }
        match validateSourceConfiguration configuration with
        | .error e => .error e
        | .ok _ => .ok configuration
  else
    .error ("Source configuration record must be " ++ toString SOURCE_CONFIG_RECORD_SIZE ++ " bytes")

variable (lower : String → String)

/-- `validate_bulk_file_selection`. -/
def validateBulkFileSelection (fileType : Nat) (fileName : String) (fileData : List UInt8) :
    Except String Unit :=
  if fileType ≠ FILE_TYPE_CONFIG then .ok ()
  else
    match decodeSourceConfiguration crc32 fileData with
    | .error e => .error e
    | .ok configuration =>
      if lower fileName ≠ lower (expectedName configuration.sourceId) then
        .error ("Config transfers must use the source record filename matching the record ID. "
          ++ "Expected " ++ expectedName configuration.sourceId ++ ", received " ++ fileName ++ ".")
      else .ok ()

end WallController.Host
