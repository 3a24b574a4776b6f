/-
  WallController.AudioSrc.Config
  ────────────────────────────────
  **THE TABLE OF AUDIO SOURCES AND ITS FILES.**

  `AudioSrcConfiguration.c`: the table `staAudioSrcConfigs`, the four files
  `/lfs/Config/source_%02u.bin`, the operations that change them, and the
  load at power-up.

  Granularity.  An operation holds the locks of its sources from its checks
  to its last write, so it is one step for each file write: the selection of
  a source, which writes two files, is suspended between them, with the
  selection lock and two source locks held.  Power may be lost between any
  two steps.  A write succeeds, or it is reported as failed with the old or
  the new record in the file.
-/
import WallController.AudioSrc.Record
import WallController.Lib.Runs
import WallController.Lib.WriteThrough
import Mathlib.Data.Fintype.Card
import Mathlib.Data.Finset.Card

namespace WallController.AudioSrc

open WallController.Lib

/-! ## §1. The state. -/

def EIO : Int := 5
def EACCES : Int := 13
def EBUSY : Int := 16
def EINVAL : Int := 22
def ENOENT : Int := 2
def EBADE : Int := 52
def EALREADY : Int := 114

/-- The outcome of the file write of a step. -/
inductive WriteResult where
  | ok
  | failed (iResult : Int) (persisted : Bool)
  deriving DecidableEq, Repr

/-- The files `source_00.bin` to `source_03.bin`; `none` is a missing file. -/
abbrev SourceFiles := AudioSrcId → Option (List UInt8)

/-- `eSelecting` is the selection suspended between its two writes: the source
already unselected, and the source to select. -/
structure Store where
  staAudioSrcConfigs : AudioSrcId → AudioSourceConfig
  files : SourceFiles
  eSelecting : Option (AudioSrcId × AudioSrcId)
  bAudioSrcMutexesInitialized : Bool
  bConfigurationsLoaded : Bool

/-- The result of an operation, or that it goes on with its second write. -/
inductive Progress where
  | done (iResult : Except Int Unit)
  | suspended

/-! ## §2. File access. -/

/-- `iWrite_ToFileBin` on the file of a source. -/
def iWriteToFileBin (id : AudioSrcId) (data : List UInt8) (w : WriteResult) (files : SourceFiles) :
    Except Int Unit × SourceFiles :=
  if files id = none then (.error (-ENOENT), files)
  else
    match w with
    | .ok => (.ok (), Function.update files id (some data))
    | .failed iResult persisted =>
        (.error iResult, if persisted then Function.update files id (some data) else files)

variable (crc32 : List UInt8 → UInt32)

/-- The record over the bytes of a file or a request, decoded. -/
def decodeBytes (id : AudioSrcId) (data : List UInt8) : Option AudioSourceConfig :=
  if h : data.length = AUDIO_SOURCE_CONFIG_RECORD_SIZE then
    bDecodeAudioSourceConfiguration crc32 (.ofBytes data h) id
  else none

/-- `iUpdate_AudioSrcFile`. -/
def iUpdateAudioSrcFile (c : AudioSourceConfig) (w : WriteResult) (files : SourceFiles) :
    Except Int Unit × SourceFiles :=
  match bEncodeAudioSrcConfiguration crc32 c with
  | none => (.error (-EBADE), files)
  | some r => iWriteToFileBin c.eSrcId r.toBytes w files

/-! ## §3. The operations. -/

/-- `eFind_SelectedAudioSrc`. -/
def eFindSelectedAudioSrc (table : AudioSrcId → AudioSourceConfig) : Option AudioSrcId :=
  (List.finRange eNUMBER_OF_AUDIO_SOURCES).find? fun id => (table id).bIsSelected

/-- The check of the identifier that every operation begins with. -/
def withSource {ρ : Type*} (eSrcId : Nat) (refused : ρ) (f : AudioSrcId → ρ) : ρ :=
  if h : eSrcId < eNUMBER_OF_AUDIO_SOURCES then f ⟨eSrcId, h⟩ else refused

namespace Store

variable (s : Store)

/-- The lock of a source is held by the suspended selection. -/
def locked (id : AudioSrcId) : Bool :=
  match s.eSelecting with
  | none => false
  | some (prev, next) => id = prev || id = next

/-- Replace the entry of a source, write its file from the table, and restore the
entry if the write is reported as failed. -/
def saveEntry (id : AudioSrcId) (entry restored : AudioSourceConfig) (w : WriteResult) :
    Except Int Unit × Store :=
  match iUpdateAudioSrcFile crc32 entry w s.files with
  | (.ok _, files) =>
      (.ok (),
        { s with
          staAudioSrcConfigs := Function.update s.staAudioSrcConfigs id entry, files := files })
  | (.error iResult, files) =>
      (.error iResult,
        { s with
          staAudioSrcConfigs := Function.update s.staAudioSrcConfigs id restored, files := files })

/-- `bUpdate_AudioSrcMuteStatus`. -/
def bUpdateAudioSrcMuteStatus (eSrcId : Nat) (bIsMute : Bool) (w : WriteResult) : Bool × Store :=
  withSource eSrcId (false, s) fun id =>
    if !s.bAudioSrcMutexesInitialized then (false, s)
    else if s.locked id then (false, s)
    else
      let entry := s.staAudioSrcConfigs id
      if entry.bIsMute = bIsMute then (true, s)
      else
        let (iResult, s) := s.saveEntry crc32 id { entry with bIsMute := bIsMute } entry w
        (iResult.isOk, s)

/-- `iUpdate_AudioSrcVolume`. -/
def iUpdateAudioSrcVolume (eSrcId : Nat) (uiVolume : UInt8) (w : WriteResult) :
    Except Int Unit × Store :=
  withSource eSrcId (.error (-EINVAL), s) fun id =>
    if uiVolume.toNat > SELECTED_AUDIO_SRC_MAX_VOLUME then (.error (-EINVAL), s)
    else if !s.bAudioSrcMutexesInitialized then (.error (-EACCES), s)
    else if s.locked id then (.error (-EBUSY), s)
    else
      let entry := s.staAudioSrcConfigs id
      if entry.uiVolume = uiVolume.toUInt16 then (.ok (), s)
      else s.saveEntry crc32 id { entry with uiVolume := uiVolume.toUInt16 } entry w

/-- The end of a selection: the new source is stored as selected. -/
def selectSource (id : AudioSrcId) (w : WriteResult) : Except Int Unit × Store :=
  let entry := s.staAudioSrcConfigs id
  s.saveEntry crc32 id { entry with bIsSelected := true } { entry with bIsSelected := false } w

/-- `iUpdate_AudioScrSelected`, up to its first write. -/
def iUpdateAudioScrSelected (eSrcId : Nat) (bIsSelected : Bool) (w : WriteResult) :
    Progress × Store :=
  withSource eSrcId (.done (.error (-EINVAL)), s) fun id =>
    if !s.bAudioSrcMutexesInitialized then (.done (.error (-EACCES)), s)
    else if s.eSelecting.isSome then (.done (.error (-EBUSY)), s)
    else
      let ePreviousSrcId := eFindSelectedAudioSrc s.staAudioSrcConfigs
      if !bIsSelected then
        let entry := s.staAudioSrcConfigs id
        if !entry.bIsSelected then (.done (.ok ()), s)
        else
          let (iResult, s) :=
            s.saveEntry crc32 id { entry with bIsSelected := false }
              { entry with bIsSelected := true } w
          (.done iResult, s)
      else if ePreviousSrcId = some id then (.done (.ok ()), s)
      else if !(s.staAudioSrcConfigs id).bIsActive then (.done (.error (-EACCES)), s)
      else
        match ePreviousSrcId with
        | none =>
            let (iResult, s) := s.selectSource crc32 id w
            (.done iResult, s)
        | some prev =>
            let entry := s.staAudioSrcConfigs prev
            -- the old source is persisted as unselected first
            match s.saveEntry crc32 prev { entry with bIsSelected := false }
              { entry with bIsSelected := true } w with
            | (.error iResult, s) => (.done (.error iResult), s)
            | (.ok _, s) => (.suspended, { s with eSelecting := some (prev, id) })

/-- `iUpdate_AudioScrSelected`, from its second write on. -/
def finishSelection (w : WriteResult) : Progress × Store :=
  match s.eSelecting with
  | none => (.suspended, s)
  | some (_, id) =>
      let (iResult, s) := s.selectSource crc32 id w
      (.done iResult, { s with eSelecting := none })

/-- `iUpdate_AudioSrcConfigurations`. -/
def iUpdateAudioSrcConfigurations (puiData : List UInt8) (eSrcId : Nat) (w : WriteResult) :
    Except Int Unit × Store :=
  if puiData.length ≠ AUDIO_SOURCE_CONFIG_RECORD_SIZE then (.error (-EINVAL), s)
  else
    withSource eSrcId (.error (-EINVAL), s) fun id =>
      if !s.bAudioSrcMutexesInitialized then (.error (-EACCES), s)
      else
        match decodeBytes crc32 id puiData with
        | none => (.error (-EINVAL), s)
        | some c =>
          if s.eSelecting.isSome then (.error (-EBUSY), s)
          else
            let eSelectedSrcId := eFindSelectedAudioSrc s.staAudioSrcConfigs
            if c.bIsSelected && eSelectedSrcId.isSome && eSelectedSrcId ≠ some id then
              (.error (-EALREADY), s)
            else
              match iWriteToFileBin id puiData w s.files with
              | (.error _, files) => (.error (- EIO), { s with files := files })
              | (.ok _, files) =>
                  (.ok (),
                    { s with
                      staAudioSrcConfigs := Function.update s.staAudioSrcConfigs id c
                      files := files })

/-! ## §4. The load at power-up. -/

/-- The entry that a file holds. -/
def readEntry (files : SourceFiles) (id : AudioSrcId) : Option AudioSourceConfig :=
  (files id).bind (decodeBytes crc32 id)

/-- `bValidate_AllSourceConfigurations`. -/
def bValidateAllSourceConfigurations (table : AudioSrcId → AudioSourceConfig) : Bool :=
  decide (∀ id, (table id).eSrcId = id)
    && decide (∀ id, (table id).bIsSelected = true → (table id).bIsActive = true)
    && decide ((Finset.univ.filter fun id => (table id).bIsSelected = true).card ≤ 1)

/-- `bLoad_AudioConfigurations`. -/
def bLoadAudioConfigurations : Bool × Store :=
  let s := { s with bAudioSrcMutexesInitialized := true, bConfigurationsLoaded := false }
  if h : ∀ id, (readEntry crc32 s.files id).isSome then
    let table := fun id => (readEntry crc32 s.files id).get (h id)
    if !bValidateAllSourceConfigurations table then (false, s)
    else (true, { s with staAudioSrcConfigs := table, bConfigurationsLoaded := true })
  else (false, s)

end Store

/-- The static data at power-up. -/
def Store.powerUp (files : SourceFiles) : Store where
  staAudioSrcConfigs := fun _ => .zero
  files := files
  eSelecting := none
  bAudioSrcMutexesInitialized := false
  bConfigurationsLoaded := false

/-- `bInit_ExtFlash_FsController`: the load, whatever comes of it. -/
def Store.boot (files : SourceFiles) : Store :=
  ((Store.powerUp files).bLoadAudioConfigurations crc32).2

/-- The load at a power-up with these files. -/
def loads (files : SourceFiles) : Bool :=
  ((Store.powerUp files).bLoadAudioConfigurations crc32).1

/-! ## §5. The system. -/

/-- The operations with the outcome of their write, a completed host transfer of
a file, and a loss of power. -/
inductive Operation where
  | mute (eSrcId : Nat) (bIsMute : Bool) (w : WriteResult)
  | volume (eSrcId : Nat) (uiVolume : UInt8) (w : WriteResult)
  | select (eSrcId : Nat) (bIsSelected : Bool) (w : WriteResult)
  | finishSelect (w : WriteResult)
  | configure (puiData : List UInt8) (eSrcId : Nat) (w : WriteResult)
  | transfer (id : AudioSrcId) (data : List UInt8)
  | reboot
  deriving DecidableEq

def Store.step (s : Store) : Operation → Store
  | .mute eSrcId bIsMute w => (s.bUpdateAudioSrcMuteStatus crc32 eSrcId bIsMute w).2
  | .volume eSrcId uiVolume w => (s.iUpdateAudioSrcVolume crc32 eSrcId uiVolume w).2
  | .select eSrcId bIsSelected w => (s.iUpdateAudioScrSelected crc32 eSrcId bIsSelected w).2
  | .finishSelect w => (s.finishSelection crc32 w).2
  | .configure puiData eSrcId w => (s.iUpdateAudioSrcConfigurations crc32 puiData eSrcId w).2
  | .transfer id data => { s with files := Function.update s.files id (some data) }
  | .reboot => Store.boot crc32 s.files

end WallController.AudioSrc
