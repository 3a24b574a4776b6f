/-
  WallController.Host.ConfigCodec
  ────────────────────────────────
  **THE CONFIGURATION AND ITS TWO FORMS.**

  The host tool keeps a configuration as a record of 48 bytes and as a JSON
  object (`source_configuration_to_json`, `source_configuration_from_json`).
  Both readers end with the check of `validate_source_configuration`, so a valid
  configuration comes back from either form; and the decoder leaves no byte of a
  record open, so each configuration has one binary form.

  Main results:
    * `from_to_json`: the JSON object, and back.
    * `encode_decode_host`: the record of what was decoded.
    * `codec_round_trip`: all three.
-/
import WallController.AudioSrc.HostAgreement

namespace WallController.Host

open WallController.Lib WallController.AudioSrc

/-! ## §1. JSON objects. -/

/-- The objects that are told apart: a `bool` is an `int` for Python, but not here. -/
inductive JsonObject where
  | bool (b : Bool)
  | int (n : Int)
  | str (s : String)
  | dict (items : List (String × JsonObject))
  /-- `None`, a `float` or a `list`. -/
  | other

/-- `SOURCE_TYPE_IDS`. -/
def SOURCE_TYPE_IDS : List (String × Int) := [("None", 0), ("Wired", 1), ("Bluetooth", 2)]

/-- `source_configuration_to_json`; the type of a configuration that is not valid may have
no name. -/
def sourceConfigurationToJson (c : SourceConfiguration) : Option JsonObject :=
  match SOURCE_TYPE_NAMES.lookup c.sourceType with
  | none => none
  | some sourceTypeName =>
    some (.dict [("sourceType", .str sourceTypeName), ("sourceId", .int c.sourceId),
      ("sourceName", .str c.sourceName), ("isActive", .bool c.isActive),
      ("isMuted", .bool c.isMuted), ("isSelected", .bool c.isSelected),
      ("volume", .int c.volume)])

/-- `required_fields`, sorted. -/
def requiredFields : List String :=
  ["isActive", "isMuted", "isSelected", "sourceId", "sourceName", "sourceType", "volume"]

section Fields

variable (items : List (String × JsonObject)) (fieldName : String)

/-- A field that must be a `bool`. -/
def boolField : Except String Bool :=
  match items.lookup fieldName with
  | some (.bool b) => .ok b
  | _ => .error (fieldName ++ " must be true or false")

/-- A field that must be an `int` and no `bool`. -/
def intField : Except String Int :=
  match items.lookup fieldName with
  | some (.int n) => .ok n
  | _ => .error (fieldName ++ " must be a whole number")

/-- A field that must be a `str`. -/
def strField : Except String String :=
  match items.lookup fieldName with
  | some (.str s) => .ok s
  | _ => .error (fieldName ++ " must be text")

end Fields

/-- `source_configuration_from_json`. -/
def sourceConfigurationFromJson : JsonObject → Except String SourceConfiguration
  | .dict items =>
    let missingFields := requiredFields.filter fun f => (items.lookup f).isNone
    if missingFields ≠ [] then
      .error ("Source configuration is missing: " ++ ", ".intercalate missingFields)
    else do
      let isActive ← boolField items "isActive"
      let isMuted ← boolField items "isMuted"
      let isSelected ← boolField items "isSelected"
      let sourceId ← intField items "sourceId"
      let volume ← intField items "volume"
      let sourceTypeName ← strField items "sourceType"
      let sourceName ← strField items "sourceName"
      match SOURCE_TYPE_IDS.lookup sourceTypeName with
      | none =>
        .error ("sourceType must be one of: " ++ ", ".intercalate (SOURCE_TYPE_IDS.map Prod.fst))
      | some sourceType =>
        let configuration : SourceConfiguration :=
          { sourceType := sourceType
            sourceId := sourceId
            sourceName := sourceName
            volume := volume
            isActive := isActive
            isMuted := isMuted
            isSelected := isSelected }
        match validateSourceConfiguration configuration with
        | .error e => .error e
        | .ok _ => .ok configuration
  | _ => .error "Every source configuration must be a JSON object"

variable {crc32 : List UInt8 → UInt32} {c : SourceConfiguration} {name data : List UInt8}

/-- A valid type has a name, and the name has that type. -/
theorem typeName_of_valid (hv : HostValid c name) :
    ∃ sourceTypeName, SOURCE_TYPE_NAMES.lookup c.sourceType = some sourceTypeName
      ∧ SOURCE_TYPE_IDS.lookup sourceTypeName = some c.sourceType := by
  rcases hv.type with h | h | h
  · rw [h]
    exact ⟨"None", by decide, by decide⟩
  · rw [h]
    exact ⟨"Wired", by decide, by decide⟩
  · rw [h]
    exact ⟨"Bluetooth", by decide, by decide⟩

/-- **A valid configuration comes back from its JSON object.** -/
theorem from_to_json (hv : validateSourceConfiguration c = .ok name) :
    ∃ json, sourceConfigurationToJson c = some json
      ∧ sourceConfigurationFromJson json = .ok c := by
  obtain ⟨sourceTypeName, hname, htype⟩ := typeName_of_valid (hostValid_of_ok hv)
  unfold sourceConfigurationToJson
  rw [hname]
  refine ⟨_, rfl, ?_⟩
  show (match SOURCE_TYPE_IDS.lookup sourceTypeName with
    | none => _
    | some sourceType => _) = _
  rw [htype]
  show (match validateSourceConfiguration c with
    | .error e => _
    | .ok _ => _) = _
  rw [hv]

/-! ## §2. The record of a configuration. -/

/-- A decoded record has 48 bytes. -/
theorem length_of_decode (hd : decodeSourceConfiguration crc32 data = .ok c) : data.length = 48 := by
  by_contra hlen
  unfold decodeSourceConfiguration at hd
  rw [dif_neg hlen] at hd
  cases hd

/-- The name field of an accepted record is its name, padded. -/
theorem paddedName_of_accepted {r : AudioSourceConfigRecord} (ha : HostAccepted crc32 r c)
    (hname : name = r.caSourceName.toList.take r.uiSourceNameLength.toNat)
    (hlen : name.length ≤ 24) : paddedName name hlen = r.caSourceName := by
  have hshort : r.uiSourceNameLength.toNat ≤ 23 := ha.length
  have hfield : r.caSourceName.toList.length = 24 := Vector.length_toList
  have hcount : name.length = r.uiSourceNameLength.toNat := by
    rw [hname, List.length_take, hfield]
    omega
  have hpadding : r.caSourceName.toList.drop r.uiSourceNameLength.toNat
      = List.replicate (24 - name.length) 0 := by
    refine List.eq_replicate_iff.mpr ⟨?_, ha.padding⟩
    rw [List.length_drop, hfield, hcount]
  apply Vector.toList_inj.mp
  show name ++ List.replicate (24 - name.length) 0 = r.caSourceName.toList
  rw [← hpadding, hname, List.take_append_drop]

/-- The host's record is the one that it accepted. -/
theorem hostRecord_of_accepted {r : AudioSourceConfigRecord} (ha : HostAccepted crc32 r c)
    (hv : validateSourceConfiguration c = .ok name) (hlen : name.length ≤ 24) :
    hostRecord crc32 c name hlen = r := by
  have hname : name = r.caSourceName.toList.take r.uiSourceNameLength.toNat :=
    (hostValid_of_ok hv).bytes.trans ha.name_valid.2
  have hbuf := paddedName_of_accepted ha hname hlen
  have hentry := ha.entry
  have htype : byteOf c.sourceType = r.uiSourceType := by
    rw [hentry]
    exact UInt8.ofNat_toNat
  have hid : byteOf c.sourceId = r.uiSourceId := by
    rw [hentry]
    exact UInt8.ofNat_toNat
  have hvol : byteOf c.volume = r.uiVolume := by
    rw [hentry]
    exact UInt8.ofNat_toNat
  have hflags : flagsOf c.isActive c.isMuted c.isSelected = r.uiFlags := by
    rw [hentry]
    exact flagsOf_known _ ha.flags
  have hcount : UInt8.ofNat name.length = r.uiSourceNameLength := by
    have hshort : r.uiSourceNameLength.toNat ≤ 23 := ha.length
    have hfield : r.caSourceName.toList.length = 24 := Vector.length_toList
    have hlength : name.length = r.uiSourceNameLength.toNat := by
      rw [hname, List.length_take, hfield]
      omega
    rw [hlength, UInt8.ofNat_toNat]
  have hres : r.au8Reserved = #v[0, 0, 0] := Vector.toList_inj.mp ha.reserved
  have hmagic : r.au8Magic = AUDIO_SOURCE_CONFIG_MAGIC := Vector.toList_inj.mp ha.magic
  unfold hostRecord
  rw [htype, hid, hvol, hflags, hcount, hbuf, ← hres]
  have hcrc : ({ au8Magic := AUDIO_SOURCE_CONFIG_MAGIC
                 au8VersionLE := sysPutLE 2 SOURCE_CONFIG_VERSION
                 au8HeaderSizeLE := sysPutLE 2 SOURCE_CONFIG_HEADER_SIZE
                 au8TotalSizeLE := sysPutLE 4 SOURCE_CONFIG_RECORD_SIZE
                 au8PayloadCRC32LE := sysPutLE 4 0
                 uiSourceType := r.uiSourceType
                 uiSourceId := r.uiSourceId
                 uiFlags := r.uiFlags
                 uiVolume := r.uiVolume
                 uiSourceNameLength := r.uiSourceNameLength
                 au8Reserved := r.au8Reserved
                 caSourceName := r.caSourceName } : AudioSourceConfigRecord).crc crc32
      = sysGetLE r.au8PayloadCRC32LE := by
    rw [← ha.crc]
    simp only [AudioSourceConfigRecord.crc, AudioSourceConfigRecord.drop_toBytes,
      AudioSourceConfigRecord.payload]
  unfold AudioSourceConfigRecord.seal
  rw [hcrc, ← hmagic, ← ha.version, ← ha.headerSize, ← ha.totalSize]
  simp only [sysPutLE_sysGetLE]

/-- **The record of what was decoded is the record that was decoded.** -/
theorem encode_decode_host (hd : decodeSourceConfiguration crc32 data = .ok c) :
    encodeSourceConfiguration crc32 c = .ok data := by
  have hlen := length_of_decode hd
  have ha := (decodeSourceConfiguration_eq hlen).mp hd
  obtain ⟨name, hv⟩ := ha.valid
  have hshort : name.length ≤ 24 := Nat.le_trans (hostValid_of_ok hv).length (by decide)
  rw [encodeSourceConfiguration_eq hv hshort, hostRecord_of_accepted ha hv hshort,
    AudioSourceConfigRecord.toBytes_ofBytes]

/-! ## §3. The result. -/

/-- **The configuration codec.**  A valid configuration comes back from its record
and from its JSON object, and a record that is accepted is the one of what it is
decoded to. -/
theorem codec_round_trip (crc32 : List UInt8 → UInt32) :
    (∀ c name, validateSourceConfiguration c = .ok name →
      (∃ record, encodeSourceConfiguration crc32 c = .ok record
        ∧ decodeSourceConfiguration crc32 record = .ok c)
      ∧ ∃ json, sourceConfigurationToJson c = some json
        ∧ sourceConfigurationFromJson json = .ok c)
    ∧ ∀ record c, decodeSourceConfiguration crc32 record = .ok c →
      encodeSourceConfiguration crc32 c = .ok record := by
  refine ⟨fun c name hv => ⟨?_, from_to_json hv⟩, fun record c hd => encode_decode_host hd⟩
  have hshort : name.length ≤ 24 := Nat.le_trans (hostValid_of_ok hv).length (by decide)
  have hencode : encodeSourceConfiguration crc32 c = .ok (hostRecord crc32 c name hshort).toBytes :=
    encodeSourceConfiguration_eq hv hshort
  exact ⟨_, hencode, decode_encode_host hencode⟩

/-- A Bluetooth source comes back from both forms. -/
theorem codec_round_trip_bluetooth :
    (∃ record, encodeSourceConfiguration crc32Ieee bluetoothSource = .ok record
      ∧ decodeSourceConfiguration crc32Ieee record = .ok bluetoothSource)
    ∧ ∃ json, sourceConfigurationToJson bluetoothSource = some json
      ∧ sourceConfigurationFromJson json = .ok bluetoothSource := by
  have hv : validateSourceConfiguration bluetoothSource = .ok (utf8Bytes "Phone") := by
    decide +kernel
  exact (codec_round_trip crc32Ieee).1 _ _ hv

end WallController.Host
