/-
  WallController.AudioSrc.Record
  ────────────────────────────────
  **THE CONFIGURATION RECORD OF AN AUDIO SOURCE.**

  `AudioSrcConfiguration.c`: the 48 bytes of `source_NN.bin`, their check
  and decoding (`bDecode_AudioSourceConfiguration`), and the encoding of a
  table entry (`bEncode_AudioSrcConfiguration`).

  `crc32_ieee` belongs to the operating system.  It is the parameter `crc32`,
  and nothing is assumed of it: the two functions apply it to the same bytes.

  Main results:
    * `wellFormed_of_decode`: what is accepted is well formed.
    * `decode_encode`: a well-formed entry is encoded, and decoded to itself.
-/
import WallController.Lib.Bytes
import Mathlib.Logic.Basic

namespace WallController.AudioSrc

open WallController.Lib

/-! ## §1. Constants and types. -/

abbrev AUDIO_SOURCE_CONFIG_NAME_SIZE : Nat := 24
def AUDIO_SOURCE_CONFIG_RECORD_SIZE : Nat := 48
def AUDIO_SOURCE_CONFIG_VERSION : Nat := 2
def AUDIO_SOURCE_CONFIG_HEADER_SIZE : Nat := 24
def AUDIO_SOURCE_CONFIG_CRC_OFFSET : Nat := 16
def SELECTED_AUDIO_SRC_MAX_VOLUME : Nat := 100

/-- `"SRCF"`. -/
def AUDIO_SOURCE_CONFIG_MAGIC : Vector UInt8 4 := #v[0x53, 0x52, 0x43, 0x46]

def AUDIO_SOURCE_CONFIG_FLAG_ACTIVE : UInt8 := 1
def AUDIO_SOURCE_CONFIG_FLAG_MUTED : UInt8 := 2
def AUDIO_SOURCE_CONFIG_FLAG_SELECTED : UInt8 := 4
def AUDIO_SOURCE_CONFIG_KNOWN_FLAGS : UInt8 :=
  AUDIO_SOURCE_CONFIG_FLAG_ACTIVE ||| AUDIO_SOURCE_CONFIG_FLAG_MUTED
    ||| AUDIO_SOURCE_CONFIG_FLAG_SELECTED

abbrev eNUMBER_OF_AUDIO_SOURCES : Nat := 4

/-- The enumerators of `eAudioSrc_Id_t` below `eNUMBER_OF_AUDIO_SOURCES`. -/
abbrev AudioSrcId := Fin eNUMBER_OF_AUDIO_SOURCES

instance : NeZero eNUMBER_OF_AUDIO_SOURCES := ⟨by decide⟩

/-- `eAudioSrc_Type_t`. -/
inductive AudioSrcType where
  | none
  | wired
  | bluetooth
  deriving DecidableEq, Repr

def AudioSrcType.toByte : AudioSrcType → UInt8
  | .none => 0
  | .wired => 1
  | .bluetooth => 2

/-- The enumerator of a byte below `eNUMBER_OF_AUDIO_SRC_TYPEs`. -/
def AudioSrcType.ofByte (b : UInt8) : Option AudioSrcType :=
  if b = 0 then some .none
  else if b = 1 then some .wired
  else if b = 2 then some .bluetooth
  else Option.none

/-- `sT_AudioSourceConfig_t`, less the connection state, which no record
holds. -/
structure AudioSourceConfig where
  eSrcId : AudioSrcId
  eSrcType : AudioSrcType
  caSrcName : Vector UInt8 AUDIO_SOURCE_CONFIG_NAME_SIZE
  bIsActive : Bool
  bIsMute : Bool
  bIsSelected : Bool
  uiVolume : UInt16
  deriving DecidableEq, Repr

/-- An entry of the table before anything is loaded. -/
def AudioSourceConfig.zero : AudioSourceConfig where
  eSrcId := 0
  eSrcType := .none
  caSrcName := Vector.replicate _ 0
  bIsActive := false
  bIsMute := false
  bIsSelected := false
  uiVolume := 0

/-- `sT_AudioSourceConfigRecord_t`. -/
structure AudioSourceConfigRecord where
  au8Magic : Vector UInt8 4
  au8VersionLE : Vector UInt8 2
  au8HeaderSizeLE : Vector UInt8 2
  au8TotalSizeLE : Vector UInt8 4
  au8PayloadCRC32LE : Vector UInt8 4
  uiSourceType : UInt8
  uiSourceId : UInt8
  uiFlags : UInt8
  uiVolume : UInt8
  uiSourceNameLength : UInt8
  au8Reserved : Vector UInt8 3
  caSourceName : Vector UInt8 AUDIO_SOURCE_CONFIG_NAME_SIZE
  deriving DecidableEq, Repr

/-! ## §2. The bytes of a record. -/

namespace AudioSourceConfigRecord

variable (r : AudioSourceConfigRecord)

/-- The bytes from `AUDIO_SOURCE_CONFIG_CRC_OFFSET` on. -/
def payload : List UInt8 :=
  [r.uiSourceType, r.uiSourceId, r.uiFlags, r.uiVolume, r.uiSourceNameLength]
    ++ (r.au8Reserved.toList ++ r.caSourceName.toList)

/-- The packed structure, as `iWrite_ToFileBin` is given it. -/
def toBytes : List UInt8 :=
  r.au8Magic.toList ++ (r.au8VersionLE.toList ++ (r.au8HeaderSizeLE.toList
    ++ (r.au8TotalSizeLE.toList ++ (r.au8PayloadCRC32LE.toList ++ r.payload))))

@[simp] theorem length_toBytes : r.toBytes.length = AUDIO_SOURCE_CONFIG_RECORD_SIZE := by
  simp [toBytes, payload, AUDIO_SOURCE_CONFIG_RECORD_SIZE, AUDIO_SOURCE_CONFIG_NAME_SIZE]

theorem drop_toBytes : r.toBytes.drop AUDIO_SOURCE_CONFIG_CRC_OFFSET = r.payload := by
  simp [toBytes, AUDIO_SOURCE_CONFIG_CRC_OFFSET, List.drop_append, List.drop_eq_nil_of_le]

/-- The structure over 48 bytes. -/
def ofBytes (bs : List UInt8) (h : bs.length = 48) : AudioSourceConfigRecord where
  au8Magic := fieldAt 0 4 bs (by omega)
  au8VersionLE := fieldAt 4 2 bs (by omega)
  au8HeaderSizeLE := fieldAt 6 2 bs (by omega)
  au8TotalSizeLE := fieldAt 8 4 bs (by omega)
  au8PayloadCRC32LE := fieldAt 12 4 bs (by omega)
  uiSourceType := bs[16]
  uiSourceId := bs[17]
  uiFlags := bs[18]
  uiVolume := bs[19]
  uiSourceNameLength := bs[20]
  au8Reserved := fieldAt 21 3 bs (by omega)
  caSourceName := fieldAt 24 24 bs (by omega)

/-- The bytes of the structure over them. -/
theorem toBytes_ofBytes (bs : List UInt8) (h : bs.length = 48) : (ofBytes bs h).toBytes = bs := by
  have hname : (fieldAt 24 24 bs (by omega)).toList = bs.drop 24 := by
    rw [toList_fieldAt]
    exact List.take_of_length_le (by simp [h])
  simp only [toBytes, payload, ofBytes, List.cons_append, List.nil_append]
  rw [hname, fieldAt_append_drop, getElem_cons_drop, getElem_cons_drop, getElem_cons_drop,
    getElem_cons_drop, getElem_cons_drop, fieldAt_append_drop, fieldAt_append_drop,
    fieldAt_append_drop, fieldAt_append_drop, fieldAt_append_drop, List.drop_zero]

/-- The structure over the bytes of a record. -/
theorem ofBytes_toBytes : ofBytes r.toBytes r.length_toBytes = r := by
  cases r
  simp only [ofBytes, AudioSourceConfigRecord.mk.injEq]
  refine ⟨?_, ?_, ?_, ?_, ?_, ?_, ?_, ?_, ?_, ?_, ?_, ?_⟩
  all_goals
    simp [toBytes, payload, fieldAt_append_right, fieldAt_cons, fieldAt_append_left, fieldAt_toList]

end AudioSourceConfigRecord

/-! ## §3. Encoding and decoding. -/

/-- `strnlen`. -/
def strnlen (s : List UInt8) : Nat := (s.takeWhile (· ≠ 0)).length

/-- The first `len` characters, copied into a buffer of zeros. -/
def copyName (src : Vector UInt8 AUDIO_SOURCE_CONFIG_NAME_SIZE) (len : Nat) :
    Vector UInt8 AUDIO_SOURCE_CONFIG_NAME_SIZE :=
  Vector.ofFn fun i => if i.val < len then src[i] else 0

/-- `bValidate_SourceName`. -/
def bValidateSourceName (name : Vector UInt8 AUDIO_SOURCE_CONFIG_NAME_SIZE) (len : Nat) : Bool :=
  if len = 0 ∨ len ≥ AUDIO_SOURCE_CONFIG_NAME_SIZE then false
  else if (name.toList.take len).contains 0 then false
  else (name.toList.drop len).all (· = 0)

/-- `sys_put_le16`, `sys_put_le32`. -/
def sysPutLE (width n : Nat) : Vector UInt8 width := ⟨(putLE width n).toArray, by simp⟩

/-- `sys_get_le16`, `sys_get_le32`. -/
def sysGetLE {width : Nat} (bytes : Vector UInt8 width) : Nat := getLE bytes.toList

/-- The flags byte. -/
def flagsOf (bIsActive bIsMute bIsSelected : Bool) : UInt8 :=
  (if bIsActive then AUDIO_SOURCE_CONFIG_FLAG_ACTIVE else 0)
    ||| (if bIsMute then AUDIO_SOURCE_CONFIG_FLAG_MUTED else 0)
    ||| (if bIsSelected then AUDIO_SOURCE_CONFIG_FLAG_SELECTED else 0)

variable (crc32 : List UInt8 → UInt32)

/-- The CRC over the bytes from `AUDIO_SOURCE_CONFIG_CRC_OFFSET` on. -/
def AudioSourceConfigRecord.crc (r : AudioSourceConfigRecord) : Nat :=
  (crc32 (r.toBytes.drop AUDIO_SOURCE_CONFIG_CRC_OFFSET)).toNat

/-- The record with its CRC. -/
def AudioSourceConfigRecord.seal (r : AudioSourceConfigRecord) : AudioSourceConfigRecord :=
  { r with au8PayloadCRC32LE := sysPutLE 4 (r.crc crc32) }

/-- The record of an entry, before its CRC. -/
def AudioSourceConfig.record (c : AudioSourceConfig) : AudioSourceConfigRecord where
  au8Magic := AUDIO_SOURCE_CONFIG_MAGIC
  au8VersionLE := sysPutLE 2 AUDIO_SOURCE_CONFIG_VERSION
  au8HeaderSizeLE := sysPutLE 2 AUDIO_SOURCE_CONFIG_HEADER_SIZE
  au8TotalSizeLE := sysPutLE 4 AUDIO_SOURCE_CONFIG_RECORD_SIZE
  au8PayloadCRC32LE := sysPutLE 4 0
  uiSourceType := c.eSrcType.toByte
  uiSourceId := UInt8.ofNat c.eSrcId.val
  uiFlags := flagsOf c.bIsActive c.bIsMute c.bIsSelected
  uiVolume := c.uiVolume.toUInt8
  uiSourceNameLength := UInt8.ofNat (strnlen c.caSrcName.toList)
  au8Reserved := #v[0, 0, 0]
  caSourceName := copyName c.caSrcName (strnlen c.caSrcName.toList)

/-- `bEncode_AudioSrcConfiguration`. -/
def bEncodeAudioSrcConfiguration (c : AudioSourceConfig) : Option AudioSourceConfigRecord :=
  let uiNameLength := strnlen c.caSrcName.toList
  if uiNameLength = 0 ∨ uiNameLength ≥ AUDIO_SOURCE_CONFIG_NAME_SIZE then none
  else if c.uiVolume.toNat > SELECTED_AUDIO_SRC_MAX_VOLUME then none
  else some (c.record.seal crc32)

/-- `bDecode_AudioSourceConfiguration`. -/
def bDecodeAudioSourceConfiguration (r : AudioSourceConfigRecord) (eExpectedSourceId : AudioSrcId) :
    Option AudioSourceConfig :=
  if r.au8Magic ≠ AUDIO_SOURCE_CONFIG_MAGIC then none
  else if sysGetLE r.au8VersionLE ≠ AUDIO_SOURCE_CONFIG_VERSION
      ∨ sysGetLE r.au8HeaderSizeLE ≠ AUDIO_SOURCE_CONFIG_HEADER_SIZE
      ∨ sysGetLE r.au8TotalSizeLE ≠ AUDIO_SOURCE_CONFIG_RECORD_SIZE then none
  else if r.crc crc32 ≠ sysGetLE r.au8PayloadCRC32LE then none
  else if hid : r.uiSourceId.toNat ≥ eNUMBER_OF_AUDIO_SOURCES then none
  else if r.uiSourceId.toNat ≠ eExpectedSourceId.val then none
  else
    match AudioSrcType.ofByte r.uiSourceType with
    | none => none
    | some .none => none
    | some eSrcType =>
      if r.uiVolume.toNat > SELECTED_AUDIO_SRC_MAX_VOLUME then none
      else if r.uiFlags &&& ~~~AUDIO_SOURCE_CONFIG_KNOWN_FLAGS ≠ 0 then none
      else if r.au8Reserved ≠ #v[0, 0, 0] then none
      else if !bValidateSourceName r.caSourceName r.uiSourceNameLength.toNat then none
      else
        let bIsActive := decide (r.uiFlags &&& AUDIO_SOURCE_CONFIG_FLAG_ACTIVE ≠ 0)
        let bIsMute := decide (r.uiFlags &&& AUDIO_SOURCE_CONFIG_FLAG_MUTED ≠ 0)
        let bIsSelected := decide (r.uiFlags &&& AUDIO_SOURCE_CONFIG_FLAG_SELECTED ≠ 0)
        if !bIsActive && bIsSelected then none
        else
          some
            { eSrcId := ⟨r.uiSourceId.toNat, Nat.lt_of_not_ge hid⟩
              eSrcType := eSrcType
              caSrcName := copyName r.caSourceName r.uiSourceNameLength.toNat
              bIsActive := bIsActive
              bIsMute := bIsMute
              bIsSelected := bIsSelected
              uiVolume := r.uiVolume.toUInt16 }

/-- What the decoding of a record for the source `id` guarantees. -/
structure WellFormed (id : AudioSrcId) (c : AudioSourceConfig) : Prop where
  id : c.eSrcId = id
  type : c.eSrcType ≠ .none
  volume : c.uiVolume.toNat ≤ SELECTED_AUDIO_SRC_MAX_VOLUME
  name : bValidateSourceName c.caSrcName (strnlen c.caSrcName.toList) = true
  selected : c.bIsSelected = true → c.bIsActive = true

/-! ## §4. Names. -/

variable {name : Vector UInt8 AUDIO_SOURCE_CONFIG_NAME_SIZE} {len : Nat}

theorem bValidateSourceName_iff :
    bValidateSourceName name len = true
      ↔ 0 < len ∧ len < AUDIO_SOURCE_CONFIG_NAME_SIZE ∧ 0 ∉ name.toList.take len
        ∧ ∀ b ∈ name.toList.drop len, b = 0 := by
  unfold bValidateSourceName
  split
  · next hlen =>
    constructor
    · intro h
      cases h
    · rintro ⟨hpos, hlt, -⟩
      omega
  · next hlen =>
    have hpos : 0 < len := by omega
    have hlt : len < AUDIO_SOURCE_CONFIG_NAME_SIZE := by omega
    split
    · next hzero =>
      simp only [List.contains_iff_mem] at hzero
      simp [hzero]
    · next hzero =>
      simp only [List.contains_iff_mem] at hzero
      simp [hpos, hlt, hzero]

/-- Behind its length, an accepted name is zero. -/
theorem getElem_of_validate (h : bValidateSourceName name len = true) {i : Nat}
    (hi : i < AUDIO_SOURCE_CONFIG_NAME_SIZE) (hge : len ≤ i) : name[i] = 0 := by
  obtain ⟨-, -, -, hzero⟩ := bValidateSourceName_iff.mp h
  refine hzero _ (List.mem_drop_iff_getElem.mpr ⟨i - len, by simp; omega, ?_⟩)
  rw [Vector.getElem_toList]
  congr 1
  omega

/-- The length byte of an accepted name is where its first zero stands. -/
theorem strnlen_of_validate (h : bValidateSourceName name len = true) :
    strnlen name.toList = len := by
  obtain ⟨-, hlt, hne, -⟩ := bValidateSourceName_iff.mp h
  have hlen : len < name.toList.length := by simpa using hlt
  have hstop : name.toList[len] = 0 := by
    rw [Vector.getElem_toList]
    exact getElem_of_validate h hlt le_rfl
  have htake : ∀ b ∈ name.toList.take len, decide (b ≠ 0) = true := by
    intro b hb
    simp only [ne_eq, decide_eq_true_eq]
    rintro rfl
    exact hne hb
  unfold strnlen
  rw [← List.take_append_drop len name.toList, List.takeWhile_append_of_pos htake,
    List.drop_eq_getElem_cons hlen, List.takeWhile_cons_of_neg (by simp [hstop])]
  rw [List.append_nil, List.length_take]
  omega

/-- An accepted name is its own copy. -/
theorem copyName_of_validate (h : bValidateSourceName name len = true) :
    copyName name len = name := by
  apply Vector.ext
  intro i hi
  simp only [copyName, Vector.getElem_ofFn]
  split
  · rfl
  · next hge => exact (getElem_of_validate h hi (by omega)).symm

/-! ## §5. The format. -/

variable {crc32}
variable {r : AudioSourceConfigRecord} {id : AudioSrcId} {c : AudioSourceConfig}

@[simp] theorem ofByte_toByte (t : AudioSrcType) : AudioSrcType.ofByte t.toByte = some t := by
  cases t <;> rfl

theorem sysGetLE_sysPutLE {width n : Nat} (h : n < 256 ^ width) :
    sysGetLE (sysPutLE width n) = n := by
  simp [sysGetLE, sysPutLE, getLE_putLE h]

theorem sysPutLE_sysGetLE {width : Nat} (bytes : Vector UInt8 width) :
    sysPutLE width (sysGetLE bytes) = bytes := by
  apply Vector.toList_inj.mp
  have := putLE_getLE bytes.toList
  rw [Vector.length_toList] at this
  simpa [sysPutLE, sysGetLE] using this

/-- The known flags are those of three bits. -/
theorem flagsOf_known (f : UInt8) (h : f &&& ~~~AUDIO_SOURCE_CONFIG_KNOWN_FLAGS = 0) :
    flagsOf (decide (f &&& AUDIO_SOURCE_CONFIG_FLAG_ACTIVE ≠ 0))
      (decide (f &&& AUDIO_SOURCE_CONFIG_FLAG_MUTED ≠ 0))
      (decide (f &&& AUDIO_SOURCE_CONFIG_FLAG_SELECTED ≠ 0)) = f := by
  have hall : ∀ b : BitVec 8, UInt8.ofBitVec b &&& ~~~AUDIO_SOURCE_CONFIG_KNOWN_FLAGS = 0 →
      flagsOf (decide (UInt8.ofBitVec b &&& AUDIO_SOURCE_CONFIG_FLAG_ACTIVE ≠ 0))
        (decide (UInt8.ofBitVec b &&& AUDIO_SOURCE_CONFIG_FLAG_MUTED ≠ 0))
        (decide (UInt8.ofBitVec b &&& AUDIO_SOURCE_CONFIG_FLAG_SELECTED ≠ 0))
        = UInt8.ofBitVec b := by decide +kernel
  exact hall f.toBitVec h

/-- The flags byte is read back. -/
theorem flagsOf_bits (bIsActive bIsMute bIsSelected : Bool) :
    flagsOf bIsActive bIsMute bIsSelected &&& ~~~AUDIO_SOURCE_CONFIG_KNOWN_FLAGS = 0
      ∧ decide (flagsOf bIsActive bIsMute bIsSelected &&& AUDIO_SOURCE_CONFIG_FLAG_ACTIVE ≠ 0)
          = bIsActive
      ∧ decide (flagsOf bIsActive bIsMute bIsSelected &&& AUDIO_SOURCE_CONFIG_FLAG_MUTED ≠ 0)
          = bIsMute
      ∧ decide (flagsOf bIsActive bIsMute bIsSelected &&& AUDIO_SOURCE_CONFIG_FLAG_SELECTED ≠ 0)
          = bIsSelected := by
  cases bIsActive <;> cases bIsMute <;> cases bIsSelected <;> decide

/-- A record that is accepted for the source `id`, and the entry made of it. -/
structure Accepted (crc32 : List UInt8 → UInt32) (r : AudioSourceConfigRecord) (id : AudioSrcId)
    (c : AudioSourceConfig) : Prop where
  magic : r.au8Magic = AUDIO_SOURCE_CONFIG_MAGIC
  version : sysGetLE r.au8VersionLE = AUDIO_SOURCE_CONFIG_VERSION
  headerSize : sysGetLE r.au8HeaderSizeLE = AUDIO_SOURCE_CONFIG_HEADER_SIZE
  totalSize : sysGetLE r.au8TotalSizeLE = AUDIO_SOURCE_CONFIG_RECORD_SIZE
  crc : r.crc crc32 = sysGetLE r.au8PayloadCRC32LE
  sourceId : r.uiSourceId.toNat = id.val
  type : AudioSrcType.ofByte r.uiSourceType = some c.eSrcType
  typed : c.eSrcType ≠ .none
  volume : r.uiVolume.toNat ≤ SELECTED_AUDIO_SRC_MAX_VOLUME
  flags : r.uiFlags &&& ~~~AUDIO_SOURCE_CONFIG_KNOWN_FLAGS = 0
  reserved : r.au8Reserved = #v[0, 0, 0]
  name : bValidateSourceName r.caSourceName r.uiSourceNameLength.toNat = true
  selected : c.bIsSelected = true → c.bIsActive = true
  entry : c =
    { eSrcId := id
      eSrcType := c.eSrcType
      caSrcName := copyName r.caSourceName r.uiSourceNameLength.toNat
      bIsActive := decide (r.uiFlags &&& AUDIO_SOURCE_CONFIG_FLAG_ACTIVE ≠ 0)
      bIsMute := decide (r.uiFlags &&& AUDIO_SOURCE_CONFIG_FLAG_MUTED ≠ 0)
      bIsSelected := decide (r.uiFlags &&& AUDIO_SOURCE_CONFIG_FLAG_SELECTED ≠ 0)
      uiVolume := r.uiVolume.toUInt16 }

theorem inactive_not_selected {a s : Bool} : ¬ (!a && s) = true ↔ (s = true → a = true) := by
  cases a <;> cases s <;> decide

theorem accepted_of_decode (h : bDecodeAudioSourceConfiguration crc32 r id = some c) :
    Accepted crc32 r id c := by
  simp only [bDecodeAudioSourceConfiguration, Option.ite_none_left_eq_some,
    Option.dite_none_left_eq_some] at h
  obtain ⟨hmagic, hsizes, hcrc, hlt, hid, h⟩ := h
  have hid : r.uiSourceId.toNat = id.val := not_not.mp hid
  split at h
  · cases h
  · cases h
  · next t htyped htype =>
    simp only [Option.ite_none_left_eq_some] at h
    obtain ⟨hvol, hflags, hres, hname, hsel, h⟩ := h
    obtain ⟨hversion, hheader, htotal⟩ := by simpa only [not_or, not_not] using hsizes
    cases h
    exact
      { magic := not_not.mp hmagic
        version := hversion
        headerSize := hheader
        totalSize := htotal
        crc := not_not.mp hcrc
        sourceId := hid
        type := htype
        typed := htyped
        volume := by omega
        flags := not_not.mp hflags
        reserved := not_not.mp hres
        name := by simpa using hname
        selected := inactive_not_selected.mp hsel
        entry := by
          have : (⟨r.uiSourceId.toNat, Nat.lt_of_not_ge hlt⟩ : AudioSrcId) = id := Fin.ext hid
          rw [this] }

theorem decode_of_accepted (h : Accepted crc32 r id c) :
    bDecodeAudioSourceConfiguration crc32 r id = some c := by
  have hlt : ¬ r.uiSourceId.toNat ≥ eNUMBER_OF_AUDIO_SOURCES := by
    rw [h.sourceId]
    exact Nat.not_le.mpr id.isLt
  have hid : (⟨r.uiSourceId.toNat, Nat.lt_of_not_ge hlt⟩ : AudioSrcId) = id := Fin.ext h.sourceId
  have hsel := inactive_not_selected.mpr h.selected
  rw [h.entry] at hsel
  unfold bDecodeAudioSourceConfiguration
  rw [if_neg (not_not.mpr h.magic), if_neg (by simp [h.version, h.headerSize, h.totalSize]),
    if_neg (not_not.mpr h.crc), dif_neg hlt, if_neg (not_not.mpr h.sourceId), h.type]
  split
  · next heq => cases heq
  · next heq => exact absurd (Option.some.inj heq) h.typed
  · next t _ heq =>
    have ht : c.eSrcType = t := Option.some.inj heq
    rw [if_neg (by have := h.volume; omega), if_neg (not_not.mpr h.flags),
      if_neg (not_not.mpr h.reserved), if_neg (by simp [h.name])]
    show (if _ then none else some _) = _
    rw [if_neg hsel, hid, ← ht]
    exact congrArg some h.entry.symm

/-- **What is accepted is well formed.** -/
theorem wellFormed_of_decode (h : bDecodeAudioSourceConfiguration crc32 r id = some c) :
    WellFormed id c := by
  have ha := accepted_of_decode h
  have hname : c.caSrcName = r.caSourceName := by
    rw [ha.entry]
    exact copyName_of_validate ha.name
  refine ⟨by rw [ha.entry], ha.typed, ?_, ?_, ha.selected⟩
  · rw [ha.entry]
    simpa using ha.volume
  · rw [hname, strnlen_of_validate ha.name]
    exact ha.name

theorem encode_of_wellFormed (h : WellFormed id c) :
    bEncodeAudioSrcConfiguration crc32 c = some (c.record.seal crc32) := by
  obtain ⟨hpos, hlt, -⟩ := bValidateSourceName_iff.mp h.name
  unfold bEncodeAudioSrcConfiguration
  rw [if_neg (by omega), if_neg (by have := h.volume; omega)]

@[simp] theorem crc_seal (r : AudioSourceConfigRecord) : (r.seal crc32).crc crc32 = r.crc crc32 := by
  simp only [AudioSourceConfigRecord.crc, AudioSourceConfigRecord.drop_toBytes]
  rfl

/-- The record of a well-formed entry is accepted. -/
theorem accepted_record (h : WellFormed id c) : Accepted crc32 (c.record.seal crc32) id c := by
  obtain ⟨hpos, hlt, -⟩ := bValidateSourceName_iff.mp h.name
  -- the name fits its buffer, so its length is one byte
  have hlt : strnlen c.caSrcName.toList < 24 := hlt
  have hlen : (UInt8.ofNat (strnlen c.caSrcName.toList)).toNat = strnlen c.caSrcName.toList := by
    rw [UInt8.toNat_ofNat']
    exact Nat.mod_eq_of_lt (by omega)
  have hname := copyName_of_validate h.name
  have hbound : c.uiVolume.toNat ≤ 100 := h.volume
  have hvol : c.uiVolume.toUInt8.toNat = c.uiVolume.toNat := by
    rw [UInt16.toNat_toUInt8]
    exact Nat.mod_eq_of_lt (by omega)
  obtain ⟨hknown, hactive, hmute, hselected⟩ := flagsOf_bits c.bIsActive c.bIsMute c.bIsSelected
  exact
    { magic := rfl
      version := sysGetLE_sysPutLE (by decide)
      headerSize := sysGetLE_sysPutLE (by decide)
      totalSize := sysGetLE_sysPutLE (by decide)
      crc := by
        rw [crc_seal]
        exact (sysGetLE_sysPutLE (UInt32.toNat_lt _)).symm
      sourceId := by
        show (UInt8.ofNat c.eSrcId.val).toNat = id.val
        have hid : id.val < 4 := id.isLt
        rw [h.id, UInt8.toNat_ofNat']
        exact Nat.mod_eq_of_lt (by omega)
      type := ofByte_toByte _
      typed := h.type
      volume := hvol.trans_le h.volume
      flags := hknown
      reserved := rfl
      name := by
        show bValidateSourceName (copyName _ _) (UInt8.ofNat _).toNat = true
        rw [hlen, hname]
        exact h.name
      selected := h.selected
      entry := by
        have hvol : c.uiVolume.toUInt8.toUInt16 = c.uiVolume := by
          apply UInt16.toNat_inj.mp
          rw [UInt8.toNat_toUInt16, hvol]
        show c =
          { eSrcId := id
            eSrcType := c.eSrcType
            caSrcName := copyName (copyName _ _) (UInt8.ofNat (strnlen c.caSrcName.toList)).toNat
            bIsActive := decide (flagsOf _ _ _ &&& _ ≠ 0)
            bIsMute := decide (flagsOf _ _ _ &&& _ ≠ 0)
            bIsSelected := decide (flagsOf _ _ _ &&& _ ≠ 0)
            uiVolume := c.uiVolume.toUInt8.toUInt16 }
        rw [hlen, hname, hname, hactive, hmute, hselected, hvol, ← h.id] }

/-- **A well-formed entry is encoded, and decoded to itself.** -/
theorem decode_encode (h : WellFormed id c) :
    bEncodeAudioSrcConfiguration crc32 c = some (c.record.seal crc32)
      ∧ bDecodeAudioSourceConfiguration crc32 (c.record.seal crc32) id = some c :=
  ⟨encode_of_wellFormed h, decode_of_accepted (accepted_record h)⟩

theorem toByte_of_ofByte {b : UInt8} {t : AudioSrcType} (h : AudioSrcType.ofByte b = some t) :
    t.toByte = b := by
  unfold AudioSrcType.ofByte at h
  repeat' split at h
  all_goals
    cases h
    try (next hb => exact hb.symm)

/-- **The format is canonical**: what is accepted is the record of its entry. -/
theorem record_of_decode (h : bDecodeAudioSourceConfiguration crc32 r id = some c) :
    c.record.seal crc32 = r := by
  have ha := accepted_of_decode h
  have hentry := ha.entry
  -- each field of the record is that of the entry decoded from it
  have hname : c.caSrcName = r.caSourceName := by
    rw [hentry]
    exact copyName_of_validate ha.name
  have hstr : strnlen c.caSrcName.toList = r.uiSourceNameLength.toNat := by
    rw [hname]
    exact strnlen_of_validate ha.name
  have htype : c.record.uiSourceType = r.uiSourceType := toByte_of_ofByte ha.type
  have hid : c.record.uiSourceId = r.uiSourceId := by
    show UInt8.ofNat c.eSrcId.val = r.uiSourceId
    rw [hentry]
    show UInt8.ofNat id.val = r.uiSourceId
    rw [← ha.sourceId, UInt8.ofNat_toNat]
  have hflags : c.record.uiFlags = r.uiFlags := by
    show flagsOf c.bIsActive c.bIsMute c.bIsSelected = r.uiFlags
    rw [hentry]
    exact flagsOf_known _ ha.flags
  have hvol : c.record.uiVolume = r.uiVolume := by
    show c.uiVolume.toUInt8 = r.uiVolume
    rw [hentry]
    simp
  have hlen : c.record.uiSourceNameLength = r.uiSourceNameLength := by
    show UInt8.ofNat (strnlen c.caSrcName.toList) = r.uiSourceNameLength
    rw [hstr, UInt8.ofNat_toNat]
  have hbuf : c.record.caSourceName = r.caSourceName := by
    show copyName c.caSrcName (strnlen c.caSrcName.toList) = r.caSourceName
    rw [hstr, hname]
    exact copyName_of_validate ha.name
  have hres : c.record.au8Reserved = r.au8Reserved := ha.reserved.symm
  -- the checksum covers only fields that agree
  have hcrc : c.record.crc crc32 = sysGetLE r.au8PayloadCRC32LE := by
    rw [← ha.crc]
    simp only [AudioSourceConfigRecord.crc, AudioSourceConfigRecord.drop_toBytes,
      AudioSourceConfigRecord.payload, htype, hid, hflags, hvol, hlen, hres, hbuf]
  show (⟨AUDIO_SOURCE_CONFIG_MAGIC, sysPutLE 2 AUDIO_SOURCE_CONFIG_VERSION,
    sysPutLE 2 AUDIO_SOURCE_CONFIG_HEADER_SIZE, sysPutLE 4 AUDIO_SOURCE_CONFIG_RECORD_SIZE,
    sysPutLE 4 (c.record.crc crc32), c.record.uiSourceType, c.record.uiSourceId,
    c.record.uiFlags, c.record.uiVolume, c.record.uiSourceNameLength, c.record.au8Reserved,
    c.record.caSourceName⟩ : AudioSourceConfigRecord) = r
  rw [htype, hid, hflags, hvol, hlen, hres, hbuf, hcrc, ← ha.magic, ← ha.version,
    ← ha.headerSize, ← ha.totalSize]
  simp only [sysPutLE_sysGetLE]

/-! ## §6. The CRC for evaluation. -/

/-- One bit of CRC-32, reflected. -/
def crc32Bit (crc : UInt32) : UInt32 :=
  if crc &&& 1 ≠ 0 then (crc >>> 1) ^^^ 0xEDB88320 else crc >>> 1

/-- What `crc32_ieee` is documented to compute: the CRC-32 of IEEE 802.3. -/
def crc32Ieee (data : List UInt8) : UInt32 :=
  ~~~ data.foldl (fun crc b => Nat.repeat crc32Bit 8 (crc ^^^ b.toUInt32)) 0xFFFFFFFF

/-- The check value of CRC-32. -/
example : crc32Ieee [0x31, 0x32, 0x33, 0x34, 0x35, 0x36, 0x37, 0x38, 0x39] = 0xCBF43926 := by
  decide +kernel

end WallController.AudioSrc
