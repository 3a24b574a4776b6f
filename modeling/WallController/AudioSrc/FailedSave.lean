/-
  WallController.AudioSrc.FailedSave
  ────────────────────────────────
  **A FAILED SAVE OF A CONFIGURATION.**

  The updates of `AudioSrcConfiguration.c` on the files themselves: an update
  changes the table, writes the record with `iWrite_ToFileBin`, and restores
  the table where the write reports an error.  The file has been truncated by
  then, and what it holds depends on the call that failed.

  An update holds the locks of its sources from its checks to its last write,
  so it is one step here.

  Main results:
    * `savedBy_saveEntry`: what one save leaves.
    * `makesSaves_run`: the run of an update is that of its saves.
    * `failed_save_iff`: an update that reports an error changes nothing exactly
      where each of its writes keeps the old contents.
-/
import WallController.AudioSrc.Selection
import WallController.LittleFs.FileWrite
import Mathlib

namespace WallController.AudioSrc

open WallController.Lib LittleFs

/-! ## §1. The model. -/

/-- The table, and the disk with its files. -/
structure ConfigDisk where
  staAudioSrcConfigs : AudioSrcId → AudioSourceConfig
  bAudioSrcMutexesInitialized : Bool
  disk : Disk

/-- The results of the calls of one `iWrite_ToFileBin`. -/
structure SaveEnv extends DiskEnv where
  bIsBulkTransferActive : Bool

/-- The results of the calls of an update: its locks, and its first and second save. -/
structure UpdateEnv where
  bSelectionLock : Bool
  bSourceLock : Bool
  save : Nat → SaveEnv

/-- `AUDIO_SOURCE_CONFIG_FILE_FORMAT` with the number of a source: the path that its load reads
and its updates write. -/
def configPath (id : AudioSrcId) : Path :=
  EXT_LITTLEFS_CONFIG_DIRECTORY ++ ascii "source_0" ++ [0x30 + UInt8.ofNat id.val] ++ ascii ".bin"

def configFile (id : AudioSrcId) : List Name := components (configPath id)

variable (crc32 : List UInt8 → UInt32)

namespace ConfigDisk

variable (s : ConfigDisk) (env : UpdateEnv)

/-- `iUpdate_AudioSrcFile`. -/
def iUpdateAudioSrcFile (c : AudioSourceConfig) (env : SaveEnv) (disk : Disk) : Int × Disk :=
  match bEncodeAudioSrcConfiguration crc32 c with
  | none => (-EBADE, disk)
  | some r =>
      disk.iWriteToFileBin env.toDiskEnv env.bIsBulkTransferActive (configPath c.eSrcId) r.toBytes
        AUDIO_SOURCE_CONFIG_RECORD_SIZE

/-- Replace the entry of a source and write its file; restore the entry if the write
reports an error. -/
def saveEntry (id : AudioSrcId) (entry restored : AudioSourceConfig) (env : SaveEnv) :
    Int × ConfigDisk :=
  let (iResult, disk) := iUpdateAudioSrcFile crc32 entry env s.disk
  let kept := if iResult ≠ 0 then restored else entry
  (iResult,
    { s with
      staAudioSrcConfigs := Function.update s.staAudioSrcConfigs id kept, disk := disk })

/-- `bUpdate_AudioSrcMuteStatus`. -/
def bUpdateAudioSrcMuteStatus (eSrcId : Nat) (bIsMute : Bool) : Bool × ConfigDisk :=
  withSource eSrcId (false, s) fun id =>
    if !s.bAudioSrcMutexesInitialized then (false, s)
    else if !env.bSourceLock then (false, s)
    else
      let entry := s.staAudioSrcConfigs id
      if entry.bIsMute = bIsMute then (true, s)
      else
        let (iResult, s) := s.saveEntry crc32 id { entry with bIsMute := bIsMute } entry (env.save 0)
        (iResult = 0, s)

/-- `iUpdate_AudioSrcVolume`. -/
def iUpdateAudioSrcVolume (eSrcId : Nat) (uiVolume : UInt8) : Int × ConfigDisk :=
  withSource eSrcId (-EINVAL, s) fun id =>
    if uiVolume.toNat > SELECTED_AUDIO_SRC_MAX_VOLUME then (-EINVAL, s)
    else if !s.bAudioSrcMutexesInitialized then (-EACCES, s)
    else if !env.bSourceLock then (-EBUSY, s)
    else
      let entry := s.staAudioSrcConfigs id
      if entry.uiVolume = uiVolume.toUInt16 then (0, s)
      else s.saveEntry crc32 id { entry with uiVolume := uiVolume.toUInt16 } entry (env.save 0)

/-- The end of a selection: the new source is stored as selected. -/
def selectSource (id : AudioSrcId) (env : SaveEnv) : Int × ConfigDisk :=
  let entry := s.staAudioSrcConfigs id
  s.saveEntry crc32 id { entry with bIsSelected := true } { entry with bIsSelected := false } env

/-- The selected source is stored as unselected. -/
def unselectSource (id : AudioSrcId) (env : SaveEnv) : Int × ConfigDisk :=
  let entry := s.staAudioSrcConfigs id
  s.saveEntry crc32 id { entry with bIsSelected := false } { entry with bIsSelected := true } env

/-- `iUpdate_AudioScrSelected`. -/
def iUpdateAudioScrSelected (eSrcId : Nat) (bIsSelected : Bool) : Int × ConfigDisk :=
  withSource eSrcId (-EINVAL, s) fun id =>
    if !s.bAudioSrcMutexesInitialized then (-EACCES, s)
    else if !env.bSelectionLock then (-EBUSY, s)
    else
      let ePreviousSrcId := eFindSelectedAudioSrc s.staAudioSrcConfigs
      if !bIsSelected then
        if !env.bSourceLock then (-EBUSY, s)
        else if !(s.staAudioSrcConfigs id).bIsSelected then (0, s)
        else s.unselectSource crc32 id (env.save 0)
      else if ePreviousSrcId = some id then (0, s)
      else if !env.bSourceLock then (-EBUSY, s)
      else if !(s.staAudioSrcConfigs id).bIsActive then (-EACCES, s)
      else
        match ePreviousSrcId with
        | none => s.selectSource crc32 id (env.save 0)
        | some prev =>
            let (iResult, s) := s.unselectSource crc32 prev (env.save 0)
            if iResult ≠ 0 then (iResult, s) else s.selectSource crc32 id (env.save 1)

/-- `iUpdate_AudioSrcConfigurations`. -/
def iUpdateAudioSrcConfigurations (puiData : List UInt8) (eSrcId : Nat) : Int × ConfigDisk :=
  if puiData.length ≠ AUDIO_SOURCE_CONFIG_RECORD_SIZE then (-EINVAL, s)
  else
    withSource eSrcId (-EINVAL, s) fun id =>
      if !s.bAudioSrcMutexesInitialized then (-EACCES, s)
      else
        match decodeBytes crc32 id puiData with
        | none => (-EINVAL, s)
        | some c =>
          if !env.bSelectionLock then (-EBUSY, s)
          else if !env.bSourceLock then (-EBUSY, s)
          else
            let eSelectedSrcId := eFindSelectedAudioSrc s.staAudioSrcConfigs
            if c.bIsSelected && eSelectedSrcId.isSome && eSelectedSrcId ≠ some id then
              (-EALREADY, s)
            else
              let (iResult, disk) :=
                s.disk.iWriteToFileBin (env.save 0).toDiskEnv (env.save 0).bIsBulkTransferActive
                  (configPath id) puiData puiData.length
              if iResult ≠ 0 then (- EIO, { s with disk := disk })
              else
                (0,
                  { s with
                    staAudioSrcConfigs := Function.update s.staAudioSrcConfigs id c
                    disk := disk })

end ConfigDisk

/-- The updates of a configuration. -/
inductive Update where
  | mute (eSrcId : Nat) (bIsMute : Bool)
  | volume (eSrcId : Nat) (uiVolume : UInt8)
  | select (eSrcId : Nat) (bIsSelected : Bool)
  | configure (puiData : List UInt8) (eSrcId : Nat)
  deriving DecidableEq

def Update.eSrcId : Update → Nat
  | .mute eSrcId _ | .volume eSrcId _ | .select eSrcId _ | .configure _ eSrcId => eSrcId

/-- Whether the update succeeds, and the state that it leaves. -/
def Update.run (u : Update) (env : UpdateEnv) (s : ConfigDisk) : Bool × ConfigDisk :=
  match u with
  | .mute eSrcId bIsMute => s.bUpdateAudioSrcMuteStatus crc32 env eSrcId bIsMute
  | .volume eSrcId uiVolume => (s.iUpdateAudioSrcVolume crc32 env eSrcId uiVolume).map (· = 0) id
  | .select eSrcId bIsSelected =>
      (s.iUpdateAudioScrSelected crc32 env eSrcId bIsSelected).map (· = 0) id
  | .configure puiData eSrcId =>
      (s.iUpdateAudioSrcConfigurations crc32 env puiData eSrcId).map (· = 0) id

/-! ## §2. What a failed update should leave, and when it does. -/

/-- The file of a source exists, and its record is decoded to the entry. -/
structure ConfigDisk.Holds (s : ConfigDisk) (id : AudioSrcId) : Prop where
  file : configFile id ∈ s.disk.volume.files
  record : decodeBytes crc32 id (s.disk.volume.content (configFile id))
    = some (s.staAudioSrcConfigs id)

/-- Each file holds its entry, and at most one source is selected. -/
structure ConfigDisk.Saved (s : ConfigDisk) : Prop where
  holds : ∀ id, s.Holds crc32 id
  single : ∀ i j, Marked (s.staAudioSrcConfigs i) → Marked (s.staAudioSrcConfigs j) → i = j

/-- If the update reports an error, the entry of its source is as before, and the files
hold the entries. -/
def Update.ChangesNothing (u : Update) (env : UpdateEnv) (s : ConfigDisk) : Prop :=
  (u.run crc32 env s).1 = false →
    (∀ id : AudioSrcId, id.val = u.eSrcId →
      (u.run crc32 env s).2.staAudioSrcConfigs id = s.staAudioSrcConfigs id)
    ∧ ∀ id, (u.run crc32 env s).2.Holds crc32 id

/-- The entries that an update stores, one after the other. -/
def Update.saves (env : UpdateEnv) (s : ConfigDisk) :
    Update → List (AudioSrcId × AudioSourceConfig)
  | .mute eSrcId bIsMute => withSource eSrcId [] fun id =>
      let entry := s.staAudioSrcConfigs id
      if s.bAudioSrcMutexesInitialized && env.bSourceLock && entry.bIsMute != bIsMute then
        [(id, { entry with bIsMute := bIsMute })]
      else []
  | .volume eSrcId uiVolume => withSource eSrcId [] fun id =>
      let entry := s.staAudioSrcConfigs id
      if uiVolume.toNat ≤ SELECTED_AUDIO_SRC_MAX_VOLUME && s.bAudioSrcMutexesInitialized
          && env.bSourceLock && entry.uiVolume != uiVolume.toUInt16 then
        [(id, { entry with uiVolume := uiVolume.toUInt16 })]
      else []
  | .select eSrcId bIsSelected => withSource eSrcId [] fun id =>
      let entry := s.staAudioSrcConfigs id
      let ePreviousSrcId := eFindSelectedAudioSrc s.staAudioSrcConfigs
      if !(s.bAudioSrcMutexesInitialized && env.bSelectionLock && env.bSourceLock) then []
      else if !bIsSelected then
        if entry.bIsSelected then [(id, { entry with bIsSelected := false })] else []
      else if ePreviousSrcId = some id || !entry.bIsActive then []
      else
        (ePreviousSrcId.toList.map fun prev =>
            (prev, { s.staAudioSrcConfigs prev with bIsSelected := false }))
          ++ [(id, { entry with bIsSelected := true })]
  | .configure puiData eSrcId => withSource eSrcId [] fun id =>
      let eSelectedSrcId := eFindSelectedAudioSrc s.staAudioSrcConfigs
      if !(s.bAudioSrcMutexesInitialized && env.bSelectionLock && env.bSourceLock) then []
      else
        match decodeBytes crc32 id puiData with
        | none => []
        | some c =>
            if c.bIsSelected && eSelectedSrcId.isSome && eSelectedSrcId ≠ some id then []
            else [(id, c)]

/-- The file write of a save keeps the old contents or completes. -/
def SaveEnv.Keeps (env : SaveEnv) (s : ConfigDisk) (id : AudioSrcId) (c : AudioSourceConfig) :
    Prop :=
  env.toDiskEnv.Keeps s.disk env.bIsBulkTransferActive (configPath id)
    (c.record.seal crc32).toBytes AUDIO_SOURCE_CONFIG_RECORD_SIZE

/-- The file write of a save completes. -/
def SaveEnv.Stores (env : SaveEnv) (s : ConfigDisk) (id : AudioSrcId) : Prop :=
  env.toDiskEnv.Opens s.disk env.bIsBulkTransferActive (configPath id)
    ∧ env.toDiskEnv.Completes AUDIO_SOURCE_CONFIG_RECORD_SIZE AUDIO_SOURCE_CONFIG_RECORD_SIZE

/-- Each save that comes after completed ones keeps the old contents or completes. -/
def KeepsEach (save : Nat → SaveEnv) (s : ConfigDisk) :
    Nat → List (AudioSrcId × AudioSourceConfig) → Prop
  | _, [] => True
  | i, (id, c) :: rest =>
      (save i).Keeps crc32 s id c ∧ ((save i).Stores s id → KeepsEach save s (i + 1) rest)

/-- No write of the update loses the old contents of its file. -/
def Update.Kept (u : Update) (env : UpdateEnv) (s : ConfigDisk) : Prop :=
  KeepsEach crc32 env.save s 0 (u.saves crc32 env s)

/-- From a load on, which has read each entry from its file and checked that they go
together. -/
def configDiskSystem : TransSys ConfigDisk (Update × UpdateEnv) where
  init s := (∀ id, s.Holds crc32 id)
    ∧ Store.bValidateAllSourceConfigurations s.staAudioSrcConfigs = true
  step s a s' := s' = (a.1.run crc32 a.2 s).2

/-! ## §3. One save. -/

variable {crc32} {s s' : ConfigDisk} {id : AudioSrcId} {c restored : AudioSourceConfig}
  {env : SaveEnv}

theorem configFile_injective : Function.Injective configFile := by decide +kernel

theorem record_ne_nil (c : AudioSourceConfig) : (c.record.seal crc32).toBytes ≠ [] := by
  intro h
  have hlen := AudioSourceConfigRecord.length_toBytes (c.record.seal crc32)
  rw [h] at hlen
  cases hlen

theorem decodeBytes_record (h : WellFormed id c) :
    decodeBytes crc32 id (c.record.seal crc32).toBytes = some c := by
  rw [decodeBytes_toBytes]
  exact (decode_encode h).2

/-- Bytes that are decoded to an entry are its record. -/
theorem eq_record_of_decodeBytes {b : List UInt8} (h : decodeBytes crc32 id b = some c) :
    b = (c.record.seal crc32).toBytes := by
  unfold decodeBytes at h
  split at h
  · rw [record_of_decode h]
    exact (AudioSourceConfigRecord.toBytes_ofBytes b _).symm
  · cases h

theorem ConfigDisk.Holds.wellFormed (h : s.Holds crc32 id) :
    WellFormed id (s.staAudioSrcConfigs id) :=
  wellFormed_of_decodeBytes h.record

/-- What a save leaves of a state whose files hold the entries. -/
structure SavedBy (crc32 : List UInt8 → UInt32) (env : SaveEnv) (s : ConfigDisk) (id : AudioSrcId)
    (c : AudioSourceConfig) (bOk : Bool) (s' : ConfigDisk) : Prop where
  stores : bOk = true ↔ env.Stores s id
  table : s'.staAudioSrcConfigs
    = if bOk then Function.update s.staAudioSrcConfigs id c else s.staAudioSrcConfigs
  holds : bOk = true → ∀ j, s'.Holds crc32 j
  keeps : bOk = false → ((∀ j, s'.Holds crc32 j) ↔ env.Keeps crc32 s id c)
  volume : WritesTo (configFile id) s.disk.volume s'.disk.volume
  paths : s'.disk.stTFileCatalog.map FileInfo.caFilePath
    = s.disk.stTFileCatalog.map FileInfo.caFilePath

/-- After a write to one file the others hold their entries, if these are the same. -/
theorem holds_iff (hs : ∀ j, s.Holds crc32 j)
    (hvolume : WritesTo (configFile id) s.disk.volume s'.disk.volume)
    (htable : ∀ j, j ≠ id → s'.staAudioSrcConfigs j = s.staAudioSrcConfigs j) :
    (∀ j, s'.Holds crc32 j) ↔ decodeBytes crc32 id (s'.disk.volume.content (configFile id))
      = some (s'.staAudioSrcConfigs id) := by
  constructor
  · exact fun h => (h id).record
  · intro hid j
    constructor
    · rw [hvolume.tree]
      exact (hs j).file
    · by_cases hj : j = id
      · rw [hj]
        exact hid
      · have hne : configFile j ≠ configFile id := fun h => hj (configFile_injective h)
        rw [hvolume.others _ hne, htable j hj]
        exact (hs j).record

/-- The write of a record, with the table as it is after it. -/
theorem savedBy_write (hs : ∀ j, s.Holds crc32 j) (hwf : WellFormed id c)
    {w : Int × Disk} (hw : w = s.disk.iWriteToFileBin env.toDiskEnv env.bIsBulkTransferActive
      (configPath id) (c.record.seal crc32).toBytes AUDIO_SOURCE_CONFIG_RECORD_SIZE) :
    SavedBy crc32 env s id c (w.1 = 0)
      { s with
        staAudioSrcConfigs :=
          if w.1 = 0 then Function.update s.staAudioSrcConfigs id c else s.staAudioSrcConfigs
        disk := w.2 } := by
  have hmax : 0 < AUDIO_SOURCE_CONFIG_RECORD_SIZE := by decide
  have hlen := AudioSourceConfigRecord.length_toBytes (c.record.seal crc32)
  have hrecord := eq_record_of_decodeBytes (hs id).record
  have hframe : WritesTo (configFile id) s.disk.volume w.2.volume
      ∧ w.2.stTFileCatalog.map FileInfo.caFilePath
        = s.disk.stTFileCatalog.map FileInfo.caFilePath := by
    rw [hw]
    exact iWriteToFileBin_frame
  have hzero : w.1 = 0 ↔ env.Stores s id := by
    rw [hw, iWriteToFileBin_eq_zero (record_ne_nil c) hmax, hlen]
    exact Iff.rfl
  have hcontent : w.1 = 0 →
      w.2.volume.content (configFile id) = (c.record.seal crc32).toBytes := by
    rw [hw]
    exact iWriteToFileBin_content (record_ne_nil c) hmax
  have hkeeps : (w.1 ≠ 0 →
      w.2.volume.content (configFile id) = s.disk.volume.content (configFile id))
        ↔ env.Keeps crc32 s id c := by
    rw [hw]
    refine iWriteToFileBin_keeps_iff (record_ne_nil c) hmax (Nat.le_of_eq ?_)
    rw [hlen]
    exact ((congrArg List.length hrecord).trans (AudioSourceConfigRecord.length_toBytes _)).symm
  by_cases hok : w.1 = 0
  · rw [if_pos hok, decide_eq_true hok]
    refine ⟨iff_of_true rfl (hzero.mp hok), rfl, fun _ => ?_, (fun h => nomatch h), hframe.1,
      hframe.2⟩
    refine (holds_iff hs hframe.1 fun j hj => Function.update_of_ne hj _ _).mpr ?_
    dsimp only
    rw [hcontent hok, Function.update_self]
    exact decodeBytes_record hwf
  · rw [if_neg hok, decide_eq_false hok]
    refine ⟨iff_of_false (by decide) (fun h => hok (hzero.mpr h)), rfl, (fun h => nomatch h),
      fun _ => ?_, hframe.1, hframe.2⟩
    have hholds : (∀ j, ConfigDisk.Holds crc32 { s with disk := w.2 } j) ↔ _ :=
      holds_iff hs hframe.1 fun _ _ => rfl
    refine hholds.trans (Iff.trans ?_ hkeeps)
    -- the bytes that are decoded to the entry are the old ones
    constructor
    · intro h _
      exact (eq_record_of_decodeBytes h).trans hrecord.symm
    · intro h
      dsimp only
      rw [h hok]
      exact (hs id).record

theorem savedBy_saveEntry (hs : ∀ j, s.Holds crc32 j) (hwf : WellFormed id c)
    (hrestored : restored = s.staAudioSrcConfigs id) :
    SavedBy crc32 env s id c ((s.saveEntry crc32 id c restored env).1 = 0)
      (s.saveEntry crc32 id c restored env).2 := by
  obtain ⟨w, hw⟩ : ∃ w, w = s.disk.iWriteToFileBin env.toDiskEnv env.bIsBulkTransferActive
    (configPath id) (c.record.seal crc32).toBytes AUDIO_SOURCE_CONFIG_RECORD_SIZE := ⟨_, rfl⟩
  have hsave : s.saveEntry crc32 id c restored env = (w.1,
      { s with
        staAudioSrcConfigs :=
          if w.1 = 0 then Function.update s.staAudioSrcConfigs id c else s.staAudioSrcConfigs
        disk := w.2 }) := by
    unfold ConfigDisk.saveEntry ConfigDisk.iUpdateAudioSrcFile
    rw [encode_of_wellFormed hwf, hwf.id]
    dsimp only
    rw [← hw]
    by_cases hok : w.1 = 0
    · rw [if_neg (not_not.mpr hok), if_pos hok]
    · rw [if_pos hok, if_neg hok, hrestored, Function.update_eq_self]
  rw [hsave]
  exact savedBy_write hs hwf hw

/-! ## §4. The saves of an update. -/

/-- Saves one after the other, up to one that fails. -/
inductive SavedInOrder (crc32 : List UInt8 → UInt32) (save : Nat → SaveEnv) :
    Nat → ConfigDisk → List (AudioSrcId × AudioSourceConfig) → Bool → ConfigDisk → Prop
  | done {i : Nat} {s : ConfigDisk} : SavedInOrder crc32 save i s [] true s
  | failed {i : Nat} {s s' : ConfigDisk} {id : AudioSrcId} {c : AudioSourceConfig}
      {rest : List (AudioSrcId × AudioSourceConfig)}
      (h : SavedBy crc32 (save i) s id c false s') :
      SavedInOrder crc32 save i s ((id, c) :: rest) false s'
  | stored {i : Nat} {s s' s'' : ConfigDisk} {id : AudioSrcId} {c : AudioSourceConfig}
      {rest : List (AudioSrcId × AudioSourceConfig)} {bOk : Bool}
      (h : SavedBy crc32 (save i) s id c true s')
      (hsingle : Marked c → ∀ j, Marked (s.staAudioSrcConfigs j) → j = id)
      (hrest : SavedInOrder crc32 save (i + 1) s' rest bOk s'') :
      SavedInOrder crc32 save i s ((id, c) :: rest) bOk s''

variable {save : Nat → SaveEnv} {i : Nat} {saves : List (AudioSrcId × AudioSourceConfig)}
  {bOk : Bool}

theorem SaveEnv.Stores.keeps (h : env.Stores s id) : env.Keeps crc32 s id c := by
  intro _
  rw [AudioSourceConfigRecord.length_toBytes]
  exact Or.inl h.2

/-- A save does not change what the writes to other files do. -/
theorem SavedBy.keepsEach_iff (h : SavedBy crc32 env s id c bOk s')
    (hne : ∀ e ∈ saves, e.1 ≠ id) :
    KeepsEach crc32 save s' i saves ↔ KeepsEach crc32 save s i saves := by
  induction saves generalizing i with
  | nil => exact Iff.rfl
  | cons e rest ih =>
      obtain ⟨id', c'⟩ := e
      have hopens : ∀ env' : SaveEnv,
          env'.toDiskEnv.Opens s'.disk env'.bIsBulkTransferActive (configPath id')
            ↔ env'.toDiskEnv.Opens s.disk env'.bIsBulkTransferActive (configPath id') :=
        fun _ => opens_congr h.paths h.volume.tree
      have hcontent : s'.disk.volume.content (configFile id')
          = s.disk.volume.content (configFile id') :=
        h.volume.others _ fun heq => hne _ List.mem_cons_self (configFile_injective heq)
      have hrest := ih (i := i + 1) fun e he => hne e (List.mem_cons_of_mem _ he)
      have hkeeps : (save i).Keeps crc32 s' id' c' ↔ (save i).Keeps crc32 s id' c' := by
        unfold SaveEnv.Keeps DiskEnv.Keeps
        rw [hopens]
        unfold configFile at hcontent
        rw [hcontent]
      have hstores : (save i).Stores s' id' ↔ (save i).Stores s id' := by
        unfold SaveEnv.Stores
        rw [hopens]
      unfold KeepsEach
      rw [hkeeps, hstores, hrest]

/-- **The saves in order** keep the files where each of them does. -/
theorem SavedInOrder.holds_iff (h : SavedInOrder crc32 save i s saves bOk s')
    (hnodup : (saves.map Prod.fst).Nodup) :
    (bOk = false → ∀ j, s'.Holds crc32 j) ↔ KeepsEach crc32 save s i saves := by
  induction h with
  | done => exact iff_of_true (fun h => nomatch h) trivial
  | @failed i s s' id c rest h =>
      unfold KeepsEach
      have hstops : ¬(save i).Stores s id := fun hstores => nomatch h.stores.mpr hstores
      rw [forall_prop_of_true rfl, h.keeps rfl]
      exact ⟨fun hkeeps => ⟨hkeeps, fun hstores => absurd hstores hstops⟩, fun hall => hall.1⟩
  | @stored i s s' s'' id c rest bOk h _ hrest ih =>
      obtain ⟨hfresh, hnodup⟩ := List.nodup_cons.mp hnodup
      have hne : ∀ e ∈ rest, e.1 ≠ id := by
        intro e he heq
        exact hfresh (List.mem_map.mpr ⟨e, he, heq⟩)
      have hstores : (save i).Stores s id := h.stores.mp rfl
      unfold KeepsEach
      rw [ih hnodup, h.keepsEach_iff hne]
      exact ⟨fun hkeeps => ⟨hstores.keeps, fun _ => hkeeps⟩, fun hall => hall.2 hstores⟩

/-- If one save fails, the entries of the later ones are as before. -/
theorem SavedInOrder.table (h : SavedInOrder crc32 save i s saves false s') {j : AudioSrcId}
    (hj : ∀ e ∈ saves.dropLast, e.1 ≠ j) : s'.staAudioSrcConfigs j = s.staAudioSrcConfigs j := by
  generalize hfails : false = bOk at h
  induction h with
  | done => cases hfails
  | failed h => rw [h.table, if_neg (by decide)]
  | @stored i s s' s'' id c rest bOk h _ hrest ih =>
      subst hfails
      have hrest' : rest ≠ [] := by
        rintro rfl
        cases hrest
      rw [List.dropLast_cons_of_ne_nil hrest'] at hj
      rw [ih (fun e he => hj e (List.mem_cons_of_mem _ he)) rfl, h.table, if_pos rfl]
      exact Function.update_of_ne (Ne.symm (hj _ List.mem_cons_self)) _ _

/-- What the saves leave in order. -/
theorem SavedInOrder.saved (hs : s.Saved crc32) (h : SavedInOrder crc32 save i s saves bOk s')
    (hholds : bOk = false → ∀ j, s'.Holds crc32 j) : s'.Saved crc32 := by
  induction h with
  | done => exact hs
  | failed h =>
      refine ⟨hholds rfl, ?_⟩
      rw [h.table, if_neg (by decide)]
      exact hs.single
  | @stored i s s' s'' id c rest bOk h hsingle hrest ih =>
      refine ih ⟨h.holds rfl, ?_⟩ hholds
      rw [h.table, if_pos rfl]
      intro j k hj hk
      -- only the source that is stored as selected, or as before
      by_cases hjid : j = id
      · by_cases hkid : k = id
        · rw [hjid, hkid]
        · rw [hjid, Function.update_self] at hj
          rw [Function.update_of_ne hkid] at hk
          exact absurd (hsingle hj k hk) hkid
      · rw [Function.update_of_ne hjid] at hj
        by_cases hkid : k = id
        · rw [hkid, Function.update_self] at hk
          exact absurd (hsingle hk j hj) hjid
        · rw [Function.update_of_ne hkid] at hk
          exact hs.single j k hj hk

/-! ## §5. The updates. -/

/-- An update of the source `eSrcId` changes nothing, or makes these saves in order. -/
def MakesSaves (crc32 : List UInt8 → UInt32) (save : Nat → SaveEnv) (s : ConfigDisk) (eSrcId : Nat)
    (saves : List (AudioSrcId × AudioSourceConfig)) (r : Bool × ConfigDisk) : Prop :=
  (saves = [] ∧ r.2 = s)
    ∨ (SavedInOrder crc32 save 0 s saves r.1 r.2 ∧ (saves.map Prod.fst).Nodup
      ∧ ∀ id : AudioSrcId, id.val = eSrcId → ∀ e ∈ saves.dropLast, e.1 ≠ id)

theorem makesSaves_nil {eSrcId : Nat} : MakesSaves crc32 save s eSrcId [] (bOk, s) :=
  Or.inl ⟨rfl, rfl⟩

theorem SavedBy.inOrder (h : SavedBy crc32 (save i) s id c bOk s')
    (hsingle : Marked c → ∀ j, Marked (s.staAudioSrcConfigs j) → j = id) :
    SavedInOrder crc32 save i s [(id, c)] bOk s' := by
  cases bOk with
  | false => exact .failed h
  | true => exact .stored h hsingle .done

theorem makesSaves_single {eSrcId : Nat} (h : SavedBy crc32 (save 0) s id c bOk s')
    (hsingle : Marked c → ∀ j, Marked (s.staAudioSrcConfigs j) → j = id) :
    MakesSaves crc32 save s eSrcId [(id, c)] (bOk, s') :=
  Or.inr ⟨h.inOrder hsingle, List.nodup_singleton _, fun _ _ _ he => nomatch he⟩

theorem makesSaves_mute (hs : s.Saved crc32) (env : UpdateEnv) (eSrcId : Nat) (bIsMute : Bool) :
    MakesSaves crc32 env.save s eSrcId ((Update.mute eSrcId bIsMute).saves crc32 env s)
      ((Update.mute eSrcId bIsMute).run crc32 env s) := by
  unfold Update.saves Update.run ConfigDisk.bUpdateAudioSrcMuteStatus withSource
  dsimp only
  split
  · rename_i hid
    generalize (⟨eSrcId, hid⟩ : AudioSrcId) = id
    cases hinit : s.bAudioSrcMutexesInitialized with
    | false => exact makesSaves_nil
    | true =>
        cases hlock : env.bSourceLock with
        | false => exact makesSaves_nil
        | true =>
            by_cases hsame : (s.staAudioSrcConfigs id).bIsMute = bIsMute
            · rw [if_neg (by simp [hsame]), if_neg (by decide), if_neg (by decide), if_pos hsame]
              exact makesSaves_nil
            · rw [if_pos (by simpa using hsame), if_neg (by decide), if_neg (by decide),
                if_neg hsame]
              have hwf := (hs.holds id).wellFormed
              exact makesSaves_single
                (savedBy_saveEntry hs.holds ⟨hwf.id, hwf.type, hwf.volume, hwf.name, hwf.selected⟩ rfl)
                fun hmarked j hj => hs.single j id hj hmarked
  · exact makesSaves_nil

theorem makesSaves_volume (hs : s.Saved crc32) (env : UpdateEnv) (eSrcId : Nat) (uiVolume : UInt8) :
    MakesSaves crc32 env.save s eSrcId ((Update.volume eSrcId uiVolume).saves crc32 env s)
      ((Update.volume eSrcId uiVolume).run crc32 env s) := by
  unfold Update.saves Update.run ConfigDisk.iUpdateAudioSrcVolume withSource
  dsimp only
  split
  · rename_i hid
    generalize (⟨eSrcId, hid⟩ : AudioSrcId) = id
    by_cases hbound : uiVolume.toNat > SELECTED_AUDIO_SRC_MAX_VOLUME
    · rw [if_pos hbound, if_neg (by simp; omega)]
      exact makesSaves_nil
    rw [if_neg hbound, decide_eq_true (by omega), Bool.true_and]
    cases hinit : s.bAudioSrcMutexesInitialized with
    | false => exact makesSaves_nil
    | true =>
        cases hlock : env.bSourceLock with
        | false => exact makesSaves_nil
        | true =>
            by_cases hsame : (s.staAudioSrcConfigs id).uiVolume = uiVolume.toUInt16
            · rw [if_neg (by simp [hsame]), if_neg (by decide), if_neg (by decide), if_pos hsame]
              exact makesSaves_nil
            · rw [if_pos (by simpa using hsame), if_neg (by decide), if_neg (by decide),
                if_neg hsame]
              have hwf := (hs.holds id).wellFormed
              have hvolume : uiVolume.toUInt16.toNat ≤ SELECTED_AUDIO_SRC_MAX_VOLUME := by
                rw [UInt8.toNat_toUInt16]
                omega
              exact makesSaves_single
                (savedBy_saveEntry hs.holds ⟨hwf.id, hwf.type, hvolume, hwf.name, hwf.selected⟩ rfl)
                fun hmarked j hj => hs.single j id hj hmarked
  · exact makesSaves_nil

/-- The end of a selection, where no other source is selected. -/
theorem savedBy_selectSource (hs : s.Saved crc32)
    (hactive : (s.staAudioSrcConfigs id).bIsActive = true)
    (hnone : ∀ j, ¬Marked (s.staAudioSrcConfigs j)) :
    SavedBy crc32 env s id { s.staAudioSrcConfigs id with bIsSelected := true }
      ((s.selectSource crc32 id env).1 = 0) (s.selectSource crc32 id env).2 := by
  have hwf := (hs.holds id).wellFormed
  have hfalse : (s.staAudioSrcConfigs id).bIsSelected = false := by
    simpa [Marked] using hnone id
  refine savedBy_saveEntry hs.holds ⟨hwf.id, hwf.type, hwf.volume, hwf.name, fun _ => hactive⟩ ?_
  rw [← hfalse]

/-- The selected source is unselected. -/
theorem savedBy_unselectSource (hs : s.Saved crc32)
    (hmarked : Marked (s.staAudioSrcConfigs id)) :
    SavedBy crc32 env s id { s.staAudioSrcConfigs id with bIsSelected := false }
      ((s.unselectSource crc32 id env).1 = 0) (s.unselectSource crc32 id env).2 := by
  have hwf := (hs.holds id).wellFormed
  have htrue : (s.staAudioSrcConfigs id).bIsSelected = true := hmarked
  refine savedBy_saveEntry hs.holds
    ⟨hwf.id, hwf.type, hwf.volume, hwf.name, fun h => nomatch h⟩ ?_
  rw [← htrue]

/-- A selection that takes the place of another. -/
theorem makesSaves_reselect (hs : s.Saved crc32) {eSrcId : Nat} {prev next : AudioSrcId}
    (hnext : next.val = eSrcId) (hne : prev ≠ next)
    (hprev : Marked (s.staAudioSrcConfigs prev))
    (hactive : (s.staAudioSrcConfigs next).bIsActive = true) {r : Int × ConfigDisk}
    (hr : r = (let (iResult, s) := s.unselectSource crc32 prev (save 0)
      if iResult ≠ 0 then (iResult, s) else s.selectSource crc32 next (save 1))) :
    MakesSaves crc32 save s eSrcId
      [(prev, { s.staAudioSrcConfigs prev with bIsSelected := false }),
        (next, { s.staAudioSrcConfigs next with bIsSelected := true })]
      (r.map (· = 0) fun s => s) := by
  have hnodup : [prev, next].Nodup := by simp [hne]
  have hothers : ∀ id : AudioSrcId, id.val = eSrcId →
      ∀ e ∈ [(prev, { s.staAudioSrcConfigs prev with bIsSelected := false })], e.1 ≠ id := by
    intro id hid e he heq
    obtain rfl := List.mem_singleton.mp he
    exact hne (heq.trans (Fin.ext (hid.trans hnext.symm)))
  have hfirst : SavedBy crc32 (save 0) s prev _ _ _ := savedBy_unselectSource hs hprev
  generalize s.unselectSource crc32 prev (save 0) = first at hfirst hr
  obtain ⟨iResult, mid⟩ := first
  dsimp only at hfirst hr
  by_cases hok : iResult = 0
  · rw [if_neg (not_not.mpr hok)] at hr
    rw [decide_eq_true hok] at hfirst
    have hunmarked : ¬Marked { s.staAudioSrcConfigs prev with bIsSelected := false } :=
      fun h => nomatch h
    have hmid := (hfirst.inOrder fun h => absurd h hunmarked).saved hs fun h => nomatch h
    have hentry : mid.staAudioSrcConfigs next = s.staAudioSrcConfigs next := by
      rw [hfirst.table, if_pos rfl]
      exact Function.update_of_ne (Ne.symm hne) _ _
    have hnone : ∀ j, ¬Marked (mid.staAudioSrcConfigs j) := by
      intro j hj
      rw [hfirst.table, if_pos rfl] at hj
      by_cases hjprev : j = prev
      · rw [hjprev, Function.update_self] at hj
        exact hunmarked hj
      · rw [Function.update_of_ne hjprev] at hj
        exact hjprev (hs.single j prev hj hprev)
    have hsecond : SavedBy crc32 (save 1) mid next _ _ _ :=
      savedBy_selectSource hmid (hentry.symm ▸ hactive) hnone
    rw [hentry] at hsecond
    subst hr
    exact Or.inr ⟨.stored hfirst (fun h => absurd h hunmarked)
      (hsecond.inOrder fun _ j hj => absurd hj (hnone j)), hnodup, hothers⟩
  · rw [if_pos hok] at hr
    rw [decide_eq_false hok] at hfirst
    subst hr
    refine Or.inr ⟨?_, hnodup, hothers⟩
    show SavedInOrder crc32 save 0 s _ (decide (iResult = 0)) mid
    rw [decide_eq_false hok]
    exact .failed hfirst

theorem makesSaves_select (hs : s.Saved crc32) (env : UpdateEnv) (eSrcId : Nat)
    (bIsSelected : Bool) :
    MakesSaves crc32 env.save s eSrcId ((Update.select eSrcId bIsSelected).saves crc32 env s)
      ((Update.select eSrcId bIsSelected).run crc32 env s) := by
  unfold Update.saves Update.run ConfigDisk.iUpdateAudioScrSelected withSource
  dsimp only
  split
  · rename_i hid
    have hval : (⟨eSrcId, hid⟩ : AudioSrcId).val = eSrcId := rfl
    generalize (⟨eSrcId, hid⟩ : AudioSrcId) = id at hval ⊢
    -- the first check that fails ends the update before any save
    cases hinit : s.bAudioSrcMutexesInitialized with
    | false => exact makesSaves_nil
    | true =>
    cases hselection : env.bSelectionLock with
    | false => exact makesSaves_nil
    | true =>
    cases bIsSelected with
    | false =>
        cases hlock : env.bSourceLock with
        | false => exact makesSaves_nil
        | true =>
            cases hselected : (s.staAudioSrcConfigs id).bIsSelected with
            | false => exact makesSaves_nil
            | true =>
                exact makesSaves_single (savedBy_unselectSource hs hselected)
                  fun hmarked => nomatch hmarked
    | true =>
        generalize hprev : eFindSelectedAudioSrc s.staAudioSrcConfigs = ePreviousSrcId
        -- a source already selected is not saved again
        by_cases hsame : ePreviousSrcId = some id
        · cases hlock : env.bSourceLock with
          | false =>
              rw [if_pos (by decide), if_neg (by decide), if_neg (by decide), if_neg (by decide),
                if_pos hsame]
              exact makesSaves_nil
          | true =>
              rw [if_neg (by decide), if_neg (by decide), if_pos (by simp [hsame]),
                if_neg (by decide), if_neg (by decide), if_neg (by decide), if_pos hsame]
              exact makesSaves_nil
        cases hlock : env.bSourceLock with
        | false =>
            rw [if_pos (by decide), if_neg (by decide), if_neg (by decide), if_neg (by decide),
              if_neg hsame, if_pos (by decide)]
            exact makesSaves_nil
        | true =>
        by_cases hactive : (s.staAudioSrcConfigs id).bIsActive = true
        · rw [if_neg (by decide), if_neg (by decide), if_neg (by simp [hsame, hactive]),
            if_neg (by decide), if_neg (by decide), if_neg (by decide), if_neg hsame,
            if_neg (by decide), if_neg (by simp [hactive])]
          cases ePreviousSrcId with
          | none =>
              have hnone : ∀ j, ¬Marked (s.staAudioSrcConfigs j) :=
                fun j => not_marked_of_find hprev
              exact makesSaves_single (savedBy_selectSource hs hactive hnone)
                fun _ j hj => absurd hj (hnone j)
          | some prev =>
              -- two saves: the previous source without its mark, then the new one
              have hne : prev ≠ id := fun h => hsame (congrArg some h)
              exact makesSaves_reselect hs hval hne (marked_of_find hprev) hactive rfl
        · rw [if_neg (by decide), if_neg (by decide), if_pos (by simp [hactive]),
            if_neg (by decide), if_neg (by decide), if_neg (by decide), if_neg hsame,
            if_neg (by decide), if_pos (by simp [hactive])]
          exact makesSaves_nil
  · exact makesSaves_nil

theorem makesSaves_configure (hs : s.Saved crc32) (env : UpdateEnv) (puiData : List UInt8)
    (eSrcId : Nat) :
    MakesSaves crc32 env.save s eSrcId ((Update.configure puiData eSrcId).saves crc32 env s)
      ((Update.configure puiData eSrcId).run crc32 env s) := by
  unfold Update.saves Update.run ConfigDisk.iUpdateAudioSrcConfigurations withSource
  by_cases hid : eSrcId < eNUMBER_OF_AUDIO_SOURCES
  · simp only [dif_pos hid]
    generalize (⟨eSrcId, hid⟩ : AudioSrcId) = id
    by_cases hlen : puiData.length = AUDIO_SOURCE_CONFIG_RECORD_SIZE
    · rw [if_neg (not_not.mpr hlen)]
      cases hinit : s.bAudioSrcMutexesInitialized with
      | false => exact makesSaves_nil
      | true =>
      cases hdecode : decodeBytes crc32 id puiData with
      | none =>
          rw [ite_self]
          exact makesSaves_nil
      | some c =>
      cases hselection : env.bSelectionLock with
      | false => exact makesSaves_nil
      | true =>
      cases hlock : env.bSourceLock with
      | false => exact makesSaves_nil
      | true =>
      dsimp only
      generalize hfind : eFindSelectedAudioSrc s.staAudioSrcConfigs = eSelectedSrcId
      -- a record that asks for a second selected source is refused
      by_cases hother : (c.bIsSelected && eSelectedSrcId.isSome
          && decide (eSelectedSrcId ≠ some id)) = true
      · rw [if_neg (by decide), if_pos hother, if_neg (by decide), if_neg (by decide),
          if_neg (by decide), if_pos hother]
        exact makesSaves_nil
      · rw [if_neg (by decide), if_neg hother, if_neg (by decide), if_neg (by decide),
          if_neg (by decide), if_neg hother]
        -- what is stored marks this source only
        have hsingle : Marked c → ∀ j, Marked (s.staAudioSrcConfigs j) → j = id := by
          intro hmarked j hj
          have hselected : c.bIsSelected = true := hmarked
          cases eSelectedSrcId with
          | none => exact absurd hj (not_marked_of_find hfind)
          | some k =>
              have hk : k = id := by simpa [hselected] using hother
              exact hs.single j id hj (hk ▸ marked_of_find hfind)
        have hsaved := savedBy_write hs.holds (wellFormed_of_decodeBytes hdecode)
          (congrArg (fun data => s.disk.iWriteToFileBin (env.save 0).toDiskEnv
            (env.save 0).bIsBulkTransferActive (configPath id) data
              AUDIO_SOURCE_CONFIG_RECORD_SIZE) (eq_record_of_decodeBytes hdecode))
        rw [hinit] at hsaved
        rw [hlen]
        generalize s.disk.iWriteToFileBin (env.save 0).toDiskEnv
          (env.save 0).bIsBulkTransferActive (configPath id) puiData
            AUDIO_SOURCE_CONFIG_RECORD_SIZE = w at hsaved ⊢
        obtain ⟨iResult, disk⟩ := w
        dsimp only at hsaved ⊢
        by_cases hok : iResult = 0
        · rw [decide_eq_true hok, if_pos hok] at hsaved
          rw [if_neg (not_not.mpr hok)]
          exact makesSaves_single hsaved hsingle
        · rw [decide_eq_false hok, if_neg hok] at hsaved
          rw [if_pos hok]
          exact makesSaves_single hsaved hsingle
    · have hnone : decodeBytes crc32 id puiData = none := dif_neg hlen
      rw [if_pos hlen, hnone, ite_self]
      exact makesSaves_nil
  · simp only [dif_neg hid]
    rw [ite_self]
    exact makesSaves_nil

/-- The run of an update is that of its saves. -/
theorem makesSaves_run (hs : s.Saved crc32) (u : Update) (env : UpdateEnv) :
    MakesSaves crc32 env.save s u.eSrcId (u.saves crc32 env s) (u.run crc32 env s) := by
  cases u with
  | mute eSrcId bIsMute => exact makesSaves_mute hs env eSrcId bIsMute
  | volume eSrcId uiVolume => exact makesSaves_volume hs env eSrcId uiVolume
  | select eSrcId bIsSelected => exact makesSaves_select hs env eSrcId bIsSelected
  | configure puiData eSrcId => exact makesSaves_configure hs env puiData eSrcId

/-! ## §6. A failed update. -/

/-- One update. -/
theorem changesNothing_iff (hs : s.Saved crc32) (u : Update) (env : UpdateEnv) :
    u.ChangesNothing crc32 env s ↔ u.Kept crc32 env s := by
  unfold Update.ChangesNothing Update.Kept
  rcases makesSaves_run hs u env with ⟨hnone, hsame⟩ | ⟨horder, hnodup, hothers⟩
  · rw [hnone, hsame]
    exact iff_of_true (fun _ => ⟨fun _ _ => rfl, hs.holds⟩) trivial
  · rw [← horder.holds_iff hnodup]
    constructor
    · exact fun h hfails => (h hfails).2
    · intro h hfails
      refine ⟨fun id hid => ?_, h hfails⟩
      rw [hfails] at horder
      exact horder.table (hothers id hid)

theorem saved_run (hs : s.Saved crc32) {u : Update} {env : UpdateEnv}
    (hkept : u.Kept crc32 env s) : (u.run crc32 env s).2.Saved crc32 := by
  rcases makesSaves_run hs u env with ⟨-, hsame⟩ | ⟨horder, hnodup, -⟩
  · rw [hsame]
    exact hs
  · exact horder.saved hs ((horder.holds_iff hnodup).mpr hkept)

theorem saved_of_reachable
    (h : (configDiskSystem crc32).ReachableVia (fun s a => a.1.Kept crc32 a.2 s) s) :
    s.Saved crc32 := by
  refine h.invariant ?_ ?_
  · intro s ⟨hholds, hvalid⟩
    simp only [Store.bValidateAllSourceConfigurations, Bool.and_eq_true, decide_eq_true_eq]
      at hvalid
    refine ⟨hholds, fun i j hi hj => ?_⟩
    exact Finset.card_le_one.mp hvalid.2 i (Finset.mem_filter.mpr ⟨Finset.mem_univ i, hi⟩) j
      (Finset.mem_filter.mpr ⟨Finset.mem_univ j, hj⟩)
  · rintro s ⟨u, env⟩ s' hs hkept rfl
    exact saved_run hs hkept

variable (crc32) in
/-- **A failed save** changes nothing exactly where no write of the update loses the old
contents: in every state whose files hold the entries, and so in every run whose updates
have lost none. -/
theorem failed_save_iff :
    (∀ s, (configDiskSystem crc32).ReachableVia (fun s a => a.1.Kept crc32 a.2 s) s →
      s.Saved crc32)
      ∧ ∀ s, s.Saved crc32 → ∀ u env, Update.ChangesNothing crc32 u env s ↔ u.Kept crc32 env s :=
  ⟨fun _ h => saved_of_reachable h, fun _ hs u env => changesNothing_iff hs u env⟩

/-- The four files on a disk. -/
def sampleVolume : Volume where
  entries :=
    ((configFile 0).dropLast, .dir)
      :: (List.finRange eNUMBER_OF_AUDIO_SOURCES).map fun id => (configFile id, .file)
  nodup := by decide +kernel
  rooted := by decide +kernel
  content n :=
    match (List.finRange eNUMBER_OF_AUDIO_SOURCES).find? fun id => configFile id = n with
    | none => []
    | some id => sampleRecord id (id = 0) 10

/-- The disk after a load. -/
def sampleDisk : ConfigDisk where
  staAudioSrcConfigs id := sampleEntry id (id = 0) 10
  bAudioSrcMutexesInitialized := true
  disk :=
    { volume := sampleVolume
      stTFileCatalog := (List.finRange eNUMBER_OF_AUDIO_SOURCES).map fun id =>
        ⟨(configPath id).drop EXT_LITTLEFS_CONFIG_DIRECTORY.length, configPath id, 13, 48⟩ }

/-- Only the size of the file cannot be read. -/
def statFails : UpdateEnv where
  bSelectionLock := true
  bSourceLock := true
  save _ := { DiskEnv.calm with stat := - EIO, bIsBulkTransferActive := false }

theorem init_sampleDisk : (configDiskSystem crc32Ieee).init sampleDisk := by
  have hrecord : ∀ id, decodeBytes crc32Ieee id (sampleVolume.content (configFile id))
      = some (sampleEntry id (id = 0) 10) := by decide +kernel
  have hfile : ∀ id, configFile id ∈ sampleVolume.files := by decide +kernel
  exact ⟨fun id => ⟨hfile id, hrecord id⟩, by decide +kernel⟩

/-- The new volume is in the file, and the old one in the table. -/
theorem not_changesNothing :
    ¬∀ s, (configDiskSystem crc32Ieee).Reachable s →
      ∀ u env, Update.ChangesNothing crc32Ieee u env s := by
  intro h
  have hvolume := h sampleDisk (.init init_sampleDisk) (.volume 1 20) statFails (by decide +kernel)
  have hnew : decodeBytes crc32Ieee 1
      (((Update.volume 1 20).run crc32Ieee statFails sampleDisk).2.disk.volume.content
        (configFile 1)) = some (sampleEntry 1 false 20) := by decide +kernel
  have hold : ((Update.volume 1 20).run crc32Ieee statFails sampleDisk).2.staAudioSrcConfigs 1
      = sampleEntry 1 false 10 := by decide +kernel
  have hrecord := (hvolume.2 1).record
  rw [hold] at hrecord
  exact absurd (hnew.symm.trans hrecord) (by decide)

theorem failed_save_iff_sample :
    sampleDisk.Saved crc32Ieee
      ∧ (Update.ChangesNothing crc32Ieee (.volume 1 20) statFails sampleDisk
        ↔ Update.Kept crc32Ieee (.volume 1 20) statFails sampleDisk) :=
  have hsaved := (failed_save_iff crc32Ieee).1 sampleDisk (.init init_sampleDisk)
  ⟨hsaved, (failed_save_iff crc32Ieee).2 sampleDisk hsaved _ _⟩

end WallController.AudioSrc
