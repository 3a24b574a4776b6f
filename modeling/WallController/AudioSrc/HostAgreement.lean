/-
  WallController.AudioSrc.HostAgreement
  ────────────────────────────────
  **THE HOST ENCODER AND THE FIRMWARE DECODER.**

  A Config file that the host accepts for a transfer is stored by the bulk
  service, and read and decoded at the next power-up.  The two sides check
  the same format, with two differences: the host accepts the source type
  `None`, which the firmware refuses, and it compares the file name without
  regard to case, which the file system does not.

  Main results:
    * `host_firmware_agree`: apart from these two, what the host accepts is
      found by the load, accepted, and decoded to the same fields; and what
      the host encodes, it accepts.
    * `host_firmware_disagree`: the record of an unused source.
-/
import WallController.AudioSrc.FailedSave
import WallController.Host.SourceConfig
import WallController.Host.BulkFile
import Mathlib

namespace WallController.AudioSrc

open WallController.Lib WallController.Host WallController.LittleFs WallController.PCUart

/-! ## §1. The statement. -/

/-- The path at which the bulk service stores a Config file of the host. -/
def storedPath (fileName : String) (fileData : List UInt8) : Option Path :=
  match sendBulkStart (some OPERATION_LOCAL_BULK_FILE) FILE_TYPE_CONFIG fileName fileData with
  | .error _ => none
  | .ok payload =>
    match eProcessBulkStart Hub.init (some payload) payload.length with
    | .call (.start t) =>
        (directoryOf t.eFileType).bind fun dir => bBuildValidateFullPathName dir t.pcaFileName
    | _ => none

/-- The entry of the firmware has the fields of the host's configuration. -/
structure SameConfiguration (h : SourceConfiguration) (c : AudioSourceConfig) : Prop where
  type : h.sourceType = c.eSrcType.toByte.toNat
  id : h.sourceId = c.eSrcId.val
  active : h.isActive = c.bIsActive
  muted : h.isMuted = c.bIsMute
  selected : h.isSelected = c.bIsSelected
  volume : h.volume = c.uiVolume.toNat
  name : utf8Bytes h.sourceName = c.caSrcName.toList.takeWhile (· ≠ 0)

/-- The file is stored where the load reads the source of its record, and decoded
there to the host's configuration. -/
def FirmwareAgrees (crc32 : List UInt8 → UInt32) (fileName : String) (fileData : List UInt8) :
    Prop :=
  ∃ h id c, decodeSourceConfiguration crc32 fileData = .ok h ∧ h.sourceId = (id : AudioSrcId).val
    ∧ storedPath fileName fileData = some (configPath id)
    ∧ decodeBytes crc32 id fileData = some c ∧ SameConfiguration h c

/-- What `str.lower` is relied on for: without upper-case letters an ASCII string
is unchanged, and NUL is no cased character. -/
structure StrLower (lower : String → String) : Prop where
  fixed : ∀ s, (∀ ch ∈ s.toList, ch.toNat < 128 ∧ ¬ (65 ≤ ch.toNat ∧ ch.toNat ≤ 90)) →
    lower s = s
  nul : ∀ s, Char.ofNat 0 ∈ s.toList → Char.ofNat 0 ∈ (lower s).toList

/-! ## §2. What the host has checked. -/

variable {crc32 : List UInt8 → UInt32} {h : SourceConfiguration} {data name : List UInt8}

/-- A configuration that is valid for the host. -/
structure HostValid (h : SourceConfiguration) (name : List UInt8) : Prop where
  type : h.sourceType = 0 ∨ h.sourceType = 1 ∨ h.sourceType = 2
  id : 0 ≤ h.sourceId ∧ h.sourceId < 4
  nonempty : h.sourceName ≠ ""
  nul : Char.ofNat 0 ∉ h.sourceName.toList
  bytes : name = utf8Bytes h.sourceName
  length : name.length ≤ 23
  volume : 0 ≤ h.volume ∧ h.volume ≤ 100
  active : h.isActive = true → h.sourceType ≠ 0
  selected : h.isSelected = true → h.isActive = true

theorem hostValid_of_ok (hv : validateSourceConfiguration h = .ok name) : HostValid h name := by
  unfold validateSourceConfiguration at hv
  -- the checks in the order of the host's tool, each named for the error it raises
  simp only [] at hv
  split at hv
  · cases hv
  next htype =>
  split at hv
  · cases hv
  next hid =>
  split at hv
  · cases hv
  next hempty =>
  split at hv
  · cases hv
  next hstrip =>
  split at hv
  · cases hv
  next hnul =>
  split at hv
  · cases hv
  next hlen =>
  split at hv
  · cases hv
  next hvol =>
  split at hv
  · cases hv
  next hactive =>
  split at hv
  · cases hv
  next hsel =>
  cases hv
  -- the name is its own stripped form
  have hstrip : h.sourceName = strip h.sourceName := not_not.mp hstrip
  rw [← hstrip] at hempty hlen
  have hlist : (SOURCE_TYPE_NAMES.lookup h.sourceType).isNone = false := by simpa using htype
  refine
    { type := ?_
      id := not_not.mp hid
      nonempty := hempty
      nul := by simpa using hnul
      bytes := by rw [← hstrip]
      length := by
        rw [← hstrip]
        exact Nat.le_of_not_lt hlen
      volume := not_not.mp hvol
      active := fun ha ht => hactive ⟨ha, ht⟩
      selected := fun hs => by
        by_contra ha
        exact hsel ⟨hs, ha⟩ }
  -- the table of type names has exactly the types 0, 1 and 2
  by_contra hne
  have h0 : (h.sourceType == 0) = false := beq_false_of_ne fun e => hne (Or.inl e)
  have h1 : (h.sourceType == 1) = false := beq_false_of_ne fun e => hne (Or.inr (Or.inl e))
  have h2 : (h.sourceType == 2) = false := beq_false_of_ne fun e => hne (Or.inr (Or.inr e))
  simp [SOURCE_TYPE_NAMES, List.lookup, h0, h1, h2] at hlist

/-- A record that the host decodes to `h`. -/
structure HostAccepted (crc32 : List UInt8 → UInt32) (r : AudioSourceConfigRecord)
    (h : SourceConfiguration) : Prop where
  magic : r.au8Magic.toList = SOURCE_CONFIG_MAGIC
  version : sysGetLE r.au8VersionLE = SOURCE_CONFIG_VERSION
  headerSize : sysGetLE r.au8HeaderSizeLE = SOURCE_CONFIG_HEADER_SIZE
  totalSize : sysGetLE r.au8TotalSizeLE = SOURCE_CONFIG_RECORD_SIZE
  flags : r.uiFlags &&& ~~~SOURCE_CONFIG_KNOWN_FLAGS = 0
  reserved : r.au8Reserved.toList = [0, 0, 0]
  length : r.uiSourceNameLength.toNat ≤ SOURCE_CONFIG_NAME_MAX_BYTES
  crc : r.crc crc32 = sysGetLE r.au8PayloadCRC32LE
  padding : ∀ b ∈ r.caSourceName.toList.drop r.uiSourceNameLength.toNat, b = 0
  name : utf8Decode (r.caSourceName.toList.take r.uiSourceNameLength.toNat) = some h.sourceName
  valid : ∃ name, validateSourceConfiguration h = .ok name
  entry : h =
    { sourceType := r.uiSourceType.toNat
      sourceId := r.uiSourceId.toNat
      sourceName := h.sourceName
      volume := r.uiVolume.toNat
      isActive := decide (r.uiFlags &&& SOURCE_CONFIG_FLAG_ACTIVE ≠ 0)
      isMuted := decide (r.uiFlags &&& SOURCE_CONFIG_FLAG_MUTED ≠ 0)
      isSelected := decide (r.uiFlags &&& SOURCE_CONFIG_FLAG_SELECTED ≠ 0) }

/-- The host's decoding, on the structure over the bytes. -/
theorem decodeSourceConfiguration_eq (hlen : data.length = 48) {h : SourceConfiguration} :
    decodeSourceConfiguration crc32 data = .ok h
      ↔ HostAccepted crc32 (.ofBytes data hlen) h := by
  have hbytes := AudioSourceConfigRecord.toBytes_ofBytes data hlen
  have hcrc : (AudioSourceConfigRecord.ofBytes data hlen).crc crc32
      = (crc32 (data.drop SOURCE_CONFIG_CRC_OFFSET)).toNat := by
    unfold AudioSourceConfigRecord.crc
    rw [hbytes]
    rfl
  constructor
  · intro hd
    -- the checks of the decoder, field by field of the record
    unfold decodeSourceConfiguration at hd
    rw [dif_pos hlen] at hd
    simp only [] at hd
    split at hd
    · cases hd
    next hmagic =>
    split at hd
    · cases hd
    next hversion =>
    split at hd
    · cases hd
    next hheader =>
    split at hd
    · cases hd
    next htotal =>
    split at hd
    · cases hd
    next hflags =>
    split at hd
    · cases hd
    next hreserved =>
    split at hd
    · cases hd
    next hlength =>
    split at hd
    · cases hd
    next hc =>
    split at hd
    · cases hd
    next hpad =>
    split at hd
    · cases hd
    next sourceName hname =>
    split at hd
    · cases hd
    next name hvalid =>
    cases hd
    exact
      { magic := not_not.mp hmagic
        version := not_not.mp hversion
        headerSize := not_not.mp hheader
        totalSize := not_not.mp htotal
        flags := not_not.mp hflags
        reserved := not_not.mp hreserved
        length := Nat.le_of_not_lt hlength
        crc := by
          rw [hcrc]
          exact not_not.mp hc
        padding := by
          intro b hb
          by_contra hne
          exact hpad (List.any_eq_true.mpr ⟨b, hb, by simpa using hne⟩)
        name := hname
        valid := ⟨name, hvalid⟩
        entry := rfl }
  · intro ha
    obtain ⟨name, hvalid⟩ := ha.valid
    have hentry : h =
        { sourceType := data[16].toNat
          sourceId := data[17].toNat
          sourceName := h.sourceName
          volume := data[19].toNat
          isActive := decide (data[18] &&& SOURCE_CONFIG_FLAG_ACTIVE ≠ 0)
          isMuted := decide (data[18] &&& SOURCE_CONFIG_FLAG_MUTED ≠ 0)
          isSelected := decide (data[18] &&& SOURCE_CONFIG_FLAG_SELECTED ≠ 0) } := ha.entry
    -- each check of the decoder is passed by an accepted record
    have hmagic : (fieldAt 0 4 data (by omega)).toList = SOURCE_CONFIG_MAGIC := ha.magic
    have hversion : getLE (fieldAt 4 2 data (by omega)).toList = SOURCE_CONFIG_VERSION := ha.version
    have hheader : getLE (fieldAt 6 2 data (by omega)).toList = SOURCE_CONFIG_HEADER_SIZE :=
      ha.headerSize
    have htotal : getLE (fieldAt 8 4 data (by omega)).toList = SOURCE_CONFIG_RECORD_SIZE :=
      ha.totalSize
    have hflags : data[18] &&& ~~~SOURCE_CONFIG_KNOWN_FLAGS = 0 := ha.flags
    have hreserved : (fieldAt 21 3 data (by omega)).toList = [0, 0, 0] := ha.reserved
    have hlength : ¬ data[20].toNat > SOURCE_CONFIG_NAME_MAX_BYTES := Nat.not_lt.mpr ha.length
    have hc : (crc32 (data.drop SOURCE_CONFIG_CRC_OFFSET)).toNat
        = getLE (fieldAt 12 4 data (by omega)).toList := hcrc.symm.trans ha.crc
    have hpad : ¬ ((fieldAt 24 24 data (by omega)).toList.drop data[20].toNat).any (· ≠ 0)
        = true := by
      intro hany
      obtain ⟨b, hb, hne⟩ := List.any_eq_true.mp hany
      exact absurd (ha.padding b hb) (by simpa using hne)
    have hname : utf8Decode ((fieldAt 24 24 data (by omega)).toList.take data[20].toNat)
        = some h.sourceName := ha.name
    unfold decodeSourceConfiguration
    rw [dif_pos hlen]
    simp only []
    rw [if_neg (not_not.mpr hmagic), if_neg (not_not.mpr hversion), if_neg (not_not.mpr hheader),
      if_neg (not_not.mpr htotal), if_neg (not_not.mpr hflags), if_neg (not_not.mpr hreserved),
      if_neg hlength, if_neg (not_not.mpr hc), if_neg hpad, hname]
    simp only [← hentry, hvalid]

/-! ## §3. What the firmware makes of it. -/

theorem take_of_validate {name : Vector UInt8 AUDIO_SOURCE_CONFIG_NAME_SIZE} {len : Nat}
    (hv : bValidateSourceName name len = true) :
    name.toList.takeWhile (· ≠ 0) = name.toList.take len := by
  have hstr := strnlen_of_validate hv
  unfold strnlen at hstr
  have hprefix : name.toList.takeWhile (· ≠ 0) <+: name.toList := List.takeWhile_prefix _
  have htake := List.prefix_iff_eq_take.mp hprefix
  rw [hstr] at htake
  exact htake

/-- The firmware accepts the name. -/
theorem HostAccepted.name_valid {r : AudioSourceConfigRecord} (ha : HostAccepted crc32 r h) :
    bValidateSourceName r.caSourceName r.uiSourceNameLength.toNat = true
      ∧ utf8Bytes h.sourceName = r.caSourceName.toList.take r.uiSourceNameLength.toNat := by
  obtain ⟨name, hvalid⟩ := ha.valid
  have hv := hostValid_of_ok hvalid
  have hbytes := utf8Bytes_of_decode ha.name
  have hlen : r.uiSourceNameLength.toNat ≤ 23 := ha.length
  refine ⟨bValidateSourceName_iff.mpr ⟨?_, ?_, ?_, ha.padding⟩, hbytes⟩
  · by_contra hzero
    have hzero : r.uiSourceNameLength.toNat = 0 := by omega
    rw [hzero, List.take_zero] at hbytes
    exact hv.nonempty (utf8Bytes_inj (hbytes.trans (by decide)))
  · show r.uiSourceNameLength.toNat < 24
    omega
  · rw [← hbytes, zero_mem_utf8Bytes]
    exact hv.nul

/-- The firmware accepts what the host accepts, with a source type. -/
theorem accepted_of_hostAccepted {r : AudioSourceConfigRecord} (ha : HostAccepted crc32 r h)
    (htype : r.uiSourceType ≠ 0) :
    ∃ id c, h.sourceId = (id : AudioSrcId).val ∧ Accepted crc32 r id c ∧ SameConfiguration h c := by
  obtain ⟨name, hvalid⟩ := ha.valid
  have hv := hostValid_of_ok hvalid
  obtain ⟨hname, hbytes⟩ := ha.name_valid
  have hentry := ha.entry
  have hsid : h.sourceId = r.uiSourceId.toNat := by rw [hentry]
  have hstype : h.sourceType = r.uiSourceType.toNat := by rw [hentry]
  have hvol : h.volume = r.uiVolume.toNat := by rw [hentry]
  have hactive : h.isActive = decide (r.uiFlags &&& SOURCE_CONFIG_FLAG_ACTIVE ≠ 0) := by
    rw [hentry]
  have hmuted : h.isMuted = decide (r.uiFlags &&& SOURCE_CONFIG_FLAG_MUTED ≠ 0) := by rw [hentry]
  have hselected : h.isSelected = decide (r.uiFlags &&& SOURCE_CONFIG_FLAG_SELECTED ≠ 0) := by
    rw [hentry]
  have hid := hv.id
  have hlt : r.uiSourceId.toNat < 4 := by omega
  have hvolume := hv.volume
  have hne : r.uiSourceType.toNat ≠ 0 := fun h0 => htype (UInt8.toNat_inj.mp h0)
  -- type 0 is the one that the firmware refuses
  obtain ⟨t, ht, htb⟩ : ∃ t : AudioSrcType, AudioSrcType.ofByte r.uiSourceType = some t ∧ t ≠ .none := by
    have : r.uiSourceType.toNat = 1 ∨ r.uiSourceType.toNat = 2 := by
      have := hv.type
      omega
    rcases this with h1 | h2
    · exact ⟨.wired, by rw [show r.uiSourceType = 1 from UInt8.toNat_inj.mp h1]; rfl, by simp⟩
    · exact ⟨.bluetooth, by rw [show r.uiSourceType = 2 from UInt8.toNat_inj.mp h2]; rfl, by simp⟩
  refine ⟨⟨r.uiSourceId.toNat, hlt⟩,
    { eSrcId := ⟨r.uiSourceId.toNat, hlt⟩
      eSrcType := t
      caSrcName := copyName r.caSourceName r.uiSourceNameLength.toNat
      bIsActive := decide (r.uiFlags &&& AUDIO_SOURCE_CONFIG_FLAG_ACTIVE ≠ 0)
      bIsMute := decide (r.uiFlags &&& AUDIO_SOURCE_CONFIG_FLAG_MUTED ≠ 0)
      bIsSelected := decide (r.uiFlags &&& AUDIO_SOURCE_CONFIG_FLAG_SELECTED ≠ 0)
      uiVolume := r.uiVolume.toUInt16 }, hsid, ?_, ?_⟩
  · exact
      -- field by field as the firmware's decoder checks them
      { magic := Vector.toList_inj.mp (ha.magic.trans (by decide))
        version := ha.version
        headerSize := ha.headerSize
        totalSize := ha.totalSize
        crc := ha.crc
        sourceId := rfl
        type := ht
        typed := htb
        volume := by
          show r.uiVolume.toNat ≤ 100
          omega
        flags := ha.flags
        reserved := Vector.toList_inj.mp (ha.reserved.trans (by decide))
        name := hname
        selected := fun hs => by
          have := hv.selected (hselected.trans hs)
          exact hactive.symm.trans this
        entry := rfl }
  · exact
      { type := by rw [hstype, toByte_of_ofByte ht]
        id := hsid
        active := hactive
        muted := hmuted
        selected := hselected
        volume := by rw [hvol]; simp
        name := by
          rw [hbytes, copyName_of_validate hname, take_of_validate hname] }

/-! ## §4. Where the file is stored. -/

/-- The service stores a Config file under the C string of its name. -/
theorem storedPath_eq {fileName : String} {path : Path} (hs : storedPath fileName data = some path) :
    bBuildValidateFullPathName EXT_LITTLEFS_CONFIG_DIRECTORY
      ((utf8Bytes fileName).takeWhile (· ≠ 0)) = some path := by
  unfold storedPath at hs
  split at hs
  · cases hs
  · next payload hpayload =>
    obtain ⟨t, hstart, htype, -, hname, -⟩ := eProcessBulkStart_host Hub.init hpayload
    rw [hstart] at hs
    simp only [htype, hname] at hs
    exact hs

theorem storedPath_of {fileName : String} (hpos : utf8Bytes fileName ≠ [])
    (hlen : (utf8Bytes fileName).length ≤ 29) (hdata : data.length = 48) :
    storedPath fileName data = bBuildValidateFullPathName EXT_LITTLEFS_CONFIG_DIRECTORY
      ((utf8Bytes fileName).takeWhile (· ≠ 0)) := by
  obtain ⟨payload, hpayload⟩ : ∃ payload, sendBulkStart (some OPERATION_LOCAL_BULK_FILE)
      FILE_TYPE_CONFIG fileName data = .ok payload := by
    unfold sendBulkStart
    simp only []
    rw [if_neg (by simp [hpos, MAX_BULK_FILE_NAME_BYTES, hlen]),
      if_neg (by rintro rfl; simp at hdata), if_neg (by omega), if_neg (by decide),
      if_neg (by simp)]
    exact ⟨_, rfl⟩
  obtain ⟨t, hstart, htype, -, hname, -⟩ := eProcessBulkStart_host Hub.init hpayload
  unfold storedPath
  simp only [hpayload, hstart, htype, hname]
  rfl

theorem path_of_build {dir name path : Path} (hslash : (ascii "/").isSuffixOf dir = true)
    (hb : bBuildValidateFullPathName dir name = some path) : path = dir ++ name := by
  unfold bBuildValidateFullPathName at hb
  simp only [hslash, if_true] at hb
  repeat' split at hb
  all_goals
    first
    | cases hb; done
    | (cases hb; simp)

/-- The expected names and the paths of the load. -/
theorem expectedName_bytes (id : AudioSrcId) :
    configPath id = EXT_LITTLEFS_CONFIG_DIRECTORY ++ utf8Bytes (expectedName id.val)
      ∧ bBuildValidateFullPathName EXT_LITTLEFS_CONFIG_DIRECTORY (utf8Bytes (expectedName id.val))
          = some (configPath id)
      ∧ (utf8Bytes (expectedName id.val)).length = 13
      ∧ ∀ ch ∈ (expectedName id.val).toList,
          ch ≠ Char.ofNat 0 ∧ ch.toNat < 128 ∧ ¬ (65 ≤ ch.toNat ∧ ch.toNat ≤ 90) := by
  have hpaths : configPath id = EXT_LITTLEFS_CONFIG_DIRECTORY ++ utf8Bytes (expectedName id.val)
      ∧ bBuildValidateFullPathName EXT_LITTLEFS_CONFIG_DIRECTORY (utf8Bytes (expectedName id.val))
          = some (configPath id)
      ∧ (utf8Bytes (expectedName id.val)).length = 13 := by
    revert id
    decide +kernel
  have hchars : (expectedName id.val).toList.all (fun ch => decide
      (ch ≠ Char.ofNat 0 ∧ ch.toNat < 128 ∧ ¬ (65 ≤ ch.toNat ∧ ch.toNat ≤ 90))) = true := by
    revert id
    decide +kernel
  refine ⟨hpaths.1, hpaths.2.1, hpaths.2.2, ?_⟩
  intro ch hch
  exact of_decide_eq_true (List.all_eq_true.mp hchars ch hch)

/-- **The agreement for one file**: where the host has accepted it, the firmware
finds, accepts and decodes it if and only if the name has no upper-case letters
and the source type is not `None`. -/
theorem firmwareAgrees_iff {lower : String → String} (hl : StrLower lower) {fileName : String}
    (hok : validateBulkFileSelection crc32 lower FILE_TYPE_CONFIG fileName data = .ok ()) :
    FirmwareAgrees crc32 fileName data ↔ lower fileName = fileName ∧ data[16]? ≠ some 0 := by
  unfold validateBulkFileSelection at hok
  rw [if_neg (by simp)] at hok
  split at hok
  · cases hok
  next h hdecode =>
  split at hok
  · cases hok
  next hsame =>
  have hsame : lower fileName = lower (expectedName h.sourceId) := not_not.mp hsame
  have hlen : data.length = 48 := by
    by_contra hne
    unfold decodeSourceConfiguration at hdecode
    rw [dif_neg hne] at hdecode
    cases hdecode
  have ha := (decodeSourceConfiguration_eq hlen).mp hdecode
  have htype : data[16]? = some (AudioSourceConfigRecord.ofBytes data hlen).uiSourceType :=
    List.getElem?_eq_getElem (by omega)
  have hfixed : ∀ id : AudioSrcId, lower (expectedName id.val) = expectedName id.val := fun id =>
    hl.fixed _ fun ch hch => ((expectedName_bytes id).2.2.2 ch hch).2
  have hread : ∀ id, decodeBytes crc32 id data
      = bDecodeAudioSourceConfiguration crc32 (.ofBytes data hlen) id := by
    intro id
    unfold decodeBytes
    exact dif_pos hlen
  constructor
  · rintro ⟨h', id, c, hdecode', hid, hpath, hc, -⟩
    cases Except.ok.inj (hdecode.symm.trans hdecode')
    rw [hread] at hc
    have hacc := accepted_of_decode hc
    obtain ⟨hsource, -, -, hchars⟩ := expectedName_bytes id
    rw [hid, hfixed id] at hsame
    -- the name without NUL is its own C string
    have hnul : Char.ofNat 0 ∉ fileName.toList := by
      intro hmem
      have := hl.nul _ hmem
      rw [hsame] at this
      exact (hchars _ this).1 rfl
    have hbytes := path_of_build (by decide) (storedPath_eq hpath)
    rw [takeWhile_utf8Bytes hnul, hsource] at hbytes
    have hname : fileName = expectedName id.val :=
      utf8Bytes_inj (List.append_cancel_left hbytes).symm
    refine ⟨hsame.trans hname.symm, ?_⟩
    rw [htype]
    intro hzero
    have hnone := hacc.type
    rw [Option.some.inj hzero] at hnone
    exact hacc.typed (Option.some.inj hnone).symm
  · rintro ⟨hlower, hne⟩
    obtain ⟨id, c, hid, hacc, hfields⟩ := accepted_of_hostAccepted ha fun hzero =>
      hne (by rw [htype, hzero])
    obtain ⟨hsource, hbuild, hlength, hchars⟩ := expectedName_bytes id
    rw [hid, hfixed id, hlower] at hsame
    refine ⟨h, id, c, hdecode, hid, ?_, ?_, hfields⟩
    · have hnul : Char.ofNat 0 ∉ (expectedName id.val).toList := fun hmem => (hchars _ hmem).1 rfl
      rw [hsame, storedPath_of (by intro h0; simp [h0] at hlength) (by omega) hlen,
        takeWhile_utf8Bytes hnul]
      exact hbuild
    · rw [hread]
      exact decode_of_accepted hacc

/-! ## §5. What the host encodes, it accepts. -/

/-- The name field, padded with zeros. -/
def paddedName (name : List UInt8) (hlen : name.length ≤ 24) :
    Vector UInt8 AUDIO_SOURCE_CONFIG_NAME_SIZE :=
  ⟨(name ++ List.replicate (24 - name.length) 0).toArray, by
    show (name ++ List.replicate (24 - name.length) 0).length = 24
    rw [List.length_append, List.length_replicate]
    omega⟩

theorem size_reserved : #[(0 : UInt8), 0, 0].size = 3 := rfl

/-- The record that the host builds. -/
def hostRecord (crc32 : List UInt8 → UInt32) (h : SourceConfiguration) (name : List UInt8)
    (hlen : name.length ≤ 24) : AudioSourceConfigRecord :=
  ({ au8Magic := AUDIO_SOURCE_CONFIG_MAGIC
     au8VersionLE := sysPutLE 2 SOURCE_CONFIG_VERSION
     au8HeaderSizeLE := sysPutLE 2 SOURCE_CONFIG_HEADER_SIZE
     au8TotalSizeLE := sysPutLE 4 SOURCE_CONFIG_RECORD_SIZE
     au8PayloadCRC32LE := sysPutLE 4 0
     uiSourceType := byteOf h.sourceType
     uiSourceId := byteOf h.sourceId
     uiFlags := flagsOf h.isActive h.isMuted h.isSelected
     uiVolume := byteOf h.volume
     uiSourceNameLength := UInt8.ofNat name.length
     au8Reserved := ⟨#[0, 0, 0], size_reserved⟩
     caSourceName := paddedName name hlen } : AudioSourceConfigRecord).seal crc32

theorem encodeSourceConfiguration_eq (hv : validateSourceConfiguration h = .ok name)
    (hlen : name.length ≤ 24) :
    encodeSourceConfiguration crc32 h = .ok (hostRecord crc32 h name hlen).toBytes := by
  unfold encodeSourceConfiguration
  rw [hv]
  have hput : ∀ width n, (sysPutLE width n).toList = putLE width n := fun _ _ => rfl
  simp only [hostRecord, AudioSourceConfigRecord.seal, AudioSourceConfigRecord.crc,
    AudioSourceConfigRecord.toBytes, AudioSourceConfigRecord.payload, hput]
  rfl

theorem byteOf_toNat {n : Int} (h0 : 0 ≤ n) (h1 : n < 256) : ((byteOf n).toNat : Int) = n := by
  unfold byteOf
  rw [UInt8.toNat_ofNat', Nat.mod_eq_of_lt (by omega)]
  omega

theorem hostAccepted_hostRecord (hv : validateSourceConfiguration h = .ok name)
    (hlen : name.length ≤ 24) : HostAccepted crc32 (hostRecord crc32 h name hlen) h := by
  have hvalid := hostValid_of_ok hv
  have hshort := hvalid.length
  have hid := hvalid.id
  have hvol := hvalid.volume
  have htype := hvalid.type
  have hcount : (UInt8.ofNat name.length).toNat = name.length := by
    rw [UInt8.toNat_ofNat']
    exact Nat.mod_eq_of_lt (by omega)
  obtain ⟨hknown, hactive, hmuted, hselected⟩ := flagsOf_bits h.isActive h.isMuted h.isSelected
  have hfield : (paddedName name hlen).toList = name ++ List.replicate (24 - name.length) 0 := rfl
  exact
    { magic := rfl
      version := sysGetLE_sysPutLE (by decide)
      headerSize := sysGetLE_sysPutLE (by decide)
      totalSize := sysGetLE_sysPutLE (by decide)
      flags := hknown
      reserved := rfl
      length := by
        show (UInt8.ofNat name.length).toNat ≤ 23
        omega
      crc := by
        show (AudioSourceConfigRecord.seal crc32 _).crc crc32 = sysGetLE (sysPutLE 4 _)
        rw [crc_seal, sysGetLE_sysPutLE (UInt32.toNat_lt _)]
      padding := by
        show ∀ b ∈ (paddedName name hlen).toList.drop (UInt8.ofNat name.length).toNat, b = 0
        rw [hcount, hfield, List.drop_left]
        exact fun b hb => List.eq_of_mem_replicate hb
      name := by
        show utf8Decode ((paddedName name hlen).toList.take (UInt8.ofNat name.length).toNat) = _
        rw [hcount, hfield, List.take_left, hvalid.bytes, utf8Decode_utf8Bytes]
      valid := ⟨name, hv⟩
      entry := by
        show h =
          { sourceType := (byteOf h.sourceType).toNat
            sourceId := (byteOf h.sourceId).toNat
            sourceName := h.sourceName
            volume := (byteOf h.volume).toNat
            isActive := decide (flagsOf _ _ _ &&& _ ≠ 0)
            isMuted := decide (flagsOf _ _ _ &&& _ ≠ 0)
            isSelected := decide (flagsOf _ _ _ &&& _ ≠ 0) }
        rw [byteOf_toNat (by omega) (by omega), byteOf_toNat (by omega) (by omega),
          byteOf_toNat (by omega) (by omega)]
        rw [show SOURCE_CONFIG_FLAG_ACTIVE = AUDIO_SOURCE_CONFIG_FLAG_ACTIVE from rfl,
          show SOURCE_CONFIG_FLAG_MUTED = AUDIO_SOURCE_CONFIG_FLAG_MUTED from rfl,
          show SOURCE_CONFIG_FLAG_SELECTED = AUDIO_SOURCE_CONFIG_FLAG_SELECTED from rfl,
          hactive, hmuted, hselected] }

/-- **What the host encodes, it decodes to the same configuration.** -/
theorem decode_encode_host (he : encodeSourceConfiguration crc32 h = .ok data) :
    decodeSourceConfiguration crc32 data = .ok h := by
  cases hv : validateSourceConfiguration h with
  | error e =>
    unfold encodeSourceConfiguration at he
    rw [hv] at he
    cases he
  | ok name =>
    have hlen : name.length ≤ 24 := (hostValid_of_ok hv).length.trans (by decide)
    rw [encodeSourceConfiguration_eq hv hlen] at he
    cases he
    refine (decodeSourceConfiguration_eq (AudioSourceConfigRecord.length_toBytes _)).mpr ?_
    rw [AudioSourceConfigRecord.ofBytes_toBytes]
    exact hostAccepted_hostRecord hv hlen

/-! ## §6. The result. -/

/-- **The host encoder and the firmware decoder agree** on every Config file that
the host accepts, if and only if its name has no upper-case letters and its source
type is not `None`; and what the host encodes, it accepts. -/
theorem host_firmware_agree (crc32 : List UInt8 → UInt32) {lower : String → String}
    (hl : StrLower lower) :
    (∀ fileName data, validateBulkFileSelection crc32 lower FILE_TYPE_CONFIG fileName data = .ok () →
      (FirmwareAgrees crc32 fileName data ↔ lower fileName = fileName ∧ data[16]? ≠ some 0))
    ∧ ∀ h data, encodeSourceConfiguration crc32 h = .ok data →
        decodeSourceConfiguration crc32 data = .ok h :=
  ⟨fun _ _ hok => firmwareAgrees_iff hl hok, fun _ _ he => decode_encode_host he⟩

/-- ASCII lower case. -/
def asciiLower (s : String) : String := String.ofList (s.toList.map Char.toLower)

theorem strLower_ascii : StrLower asciiLower := by
  constructor
  · intro s hs
    have hlower : ∀ ch ∈ s.toList, Char.toLower ch = id ch := by
      intro ch hch
      unfold Char.toLower
      rw [dif_neg]
      · rfl
      · rintro ⟨hge, hle⟩
        exact (hs ch hch).2 ⟨UInt32.le_iff_toNat_le.mp hge, UInt32.le_iff_toNat_le.mp hle⟩
    have hmap : s.toList.map Char.toLower = s.toList := by
      rw [List.map_congr_left hlower, List.map_id]
    unfold asciiLower
    rw [hmap, String.ofList_toList]
  · intro s hs
    unfold asciiLower
    rw [String.toList_ofList]
    exact List.mem_map.mpr ⟨_, hs, by decide⟩

/-- The configuration of a Bluetooth source. -/
def bluetoothSource : SourceConfiguration where
  sourceType := 2
  sourceId := 1
  sourceName := "Phone"
  volume := 55
  isActive := true
  isMuted := false
  isSelected := true

theorem host_firmware_agree_bluetooth :
    FirmwareAgrees crc32Ieee "source_01.bin"
      (hostRecord crc32Ieee bluetoothSource (utf8Bytes "Phone") (by decide)).toBytes := by
  obtain ⟨hagree, hencode⟩ := host_firmware_agree crc32Ieee strLower_ascii
  have hv : validateSourceConfiguration bluetoothSource = .ok (utf8Bytes "Phone") := by
    decide +kernel
  have hdecode := hencode _ _ (encodeSourceConfiguration_eq hv (by decide))
  refine (hagree _ _ ?_).mpr ⟨by decide +kernel, by decide +kernel⟩
  unfold validateBulkFileSelection
  rw [if_neg (by simp), hdecode]
  exact if_neg (by decide +kernel)

/-- The record of an unused source, as the host has it by default. -/
theorem host_firmware_disagree :
    ¬ ∀ fileName data,
      validateBulkFileSelection crc32Ieee asciiLower FILE_TYPE_CONFIG fileName data = .ok () →
        FirmwareAgrees crc32Ieee fileName data := by
  intro hall
  have hv : validateSourceConfiguration (defaultSourceConfiguration 0)
      = .ok (utf8Bytes "Source 1") := by decide +kernel
  have hdecode : decodeSourceConfiguration crc32Ieee _ = _ :=
    decode_encode_host (encodeSourceConfiguration_eq hv (by decide))
  have hok : validateBulkFileSelection crc32Ieee asciiLower FILE_TYPE_CONFIG "source_00.bin"
      (hostRecord crc32Ieee (defaultSourceConfiguration 0) (utf8Bytes "Source 1")
        (by decide)).toBytes = .ok () := by
    unfold validateBulkFileSelection
    rw [if_neg (by simp), hdecode]
    exact if_neg (by decide +kernel)
  exact ((firmwareAgrees_iff strLower_ascii hok).mp (hall _ _ hok)).2 (by decide +kernel)

end WallController.AudioSrc
