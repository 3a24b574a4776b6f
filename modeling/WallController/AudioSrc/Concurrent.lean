/-
  WallController.AudioSrc.Concurrent
  ────────────────────────────────
  **THE AUDIO SOURCE CALLS AS CONCURRENT PROGRAMS.**

  `AudioSrcConfiguration.c` once more, now one access to `staAudioSrcConfigs`,
  one operation on a mutex or one file access at a time, called from any
  thread.  Every lock may time out, also while the mutex is free.  What a file
  access returns is arbitrary: the files themselves, which other code also
  writes, are not part of the state.

  A call that no other thread disturbs does what the operation of
  `AudioSrc.Config` does (`AudioSrc.Updates`).

  `bInit_AudioSrcMutexes` checks its flag without a lock, so a thread may
  initialise a source mutex that another thread holds.  A failed
  `k_mutex_init` is a step as well.
-/
import WallController.AudioSrc.Config
import WallController.Lib.LockDiscipline

namespace WallController.AudioSrc.Concurrent

open WallController.Lib

/-! ## §1. The shared data. -/

/-- The static data. -/
structure Ram where
  staAudioSrcConfigs : AudioSrcId → AudioSourceConfig
  bAudioSrcMutexesInitialized : Bool
  bConfigurationsLoaded : Bool

/-- `kMutex_AudioSrcSelection` and `staAudioSrcMutexes`. -/
inductive MutexId where
  | selection
  | source (id : AudioSrcId)
  deriving DecidableEq, Repr

/-- `iRead_FromFileBin` and `iWrite_ToFileBin` on the file of a source. -/
inductive FileCall where
  | read (id : AudioSrcId)
  | write (id : AudioSrcId) (data : List UInt8)

/-- What a file access returns; the data of a write is not used. -/
structure FileResult where
  iResult : Int
  data : List UInt8
  deriving DecidableEq, Repr

abbrev Program := Prog Ram MutexId FileCall FileResult

/-- A field of an entry. -/
def load {β : Type} (id : AudioSrcId) (field : AudioSourceConfig → β) : Program β :=
  .read fun r => field (r.staAudioSrcConfigs id)

/-- The store of a field of an entry. -/
def store (id : AudioSrcId) (f : AudioSourceConfig → AudioSourceConfig) : Program Unit :=
  .write fun r =>
    { r with
      staAudioSrcConfigs := Function.update r.staAudioSrcConfigs id (f (r.staAudioSrcConfigs id)) }

/-! ## §2. The helpers. -/

variable (crc32 : List UInt8 → UInt32)

/-- `k_mutex_init` of each source mutex. -/
def initEach : List AudioSrcId → Program Bool
  | [] => return true
  | id :: ids => do
    if ← .mutexInit (.source id) then initEach ids else return false

/-- `bInit_AudioSrcMutexes`. -/
def bInitAudioSrcMutexes : Program Bool := do
  if ← .read (·.bAudioSrcMutexesInitialized) then return true
  else if ← initEach (List.finRange eNUMBER_OF_AUDIO_SOURCES) then
    .write fun r => { r with bAudioSrcMutexesInitialized := true }
    return true
  else return false

/-- The loop of `eFind_SelectedAudioSrc`; `none` is `eNUMBER_OF_AUDIO_SOURCES`. -/
def findSelected : List AudioSrcId → Program (Option AudioSrcId)
  | [] => return none
  | id :: ids => do
    if ← load id (·.bIsSelected) then return some id else findSelected ids

/-- `eFind_SelectedAudioSrc`. -/
def eFindSelectedAudioSrc : Program (Option AudioSrcId) :=
  findSelected (List.finRange eNUMBER_OF_AUDIO_SOURCES)

/-- Unlock the mutexes of sources, in the order of the list. -/
def unlockEach : List AudioSrcId → Program Unit
  | [] => return ()
  | id :: ids => do
    let _ ← .mutexUnlock (.source id)
    unlockEach ids

/-- Lock the mutexes of the wanted sources of a list; `locked` are those already
locked, which are unlocked in the order of `rollback` if a lock fails. -/
def lockEach (wanted : AudioSrcId → Bool) (rollback : List AudioSrcId → List AudioSrcId) :
    List AudioSrcId → List AudioSrcId → Program Int
  | [], _ => return 0
  | id :: ids, locked =>
    if wanted id then do
      if ← .mutexLock (.source id) then lockEach wanted rollback ids (locked ++ [id])
      else
        unlockEach (rollback locked)
        return -EBUSY
    else lockEach wanted rollback ids locked

/-- One of two sources, where the first may be `eNUMBER_OF_AUDIO_SOURCES`. -/
def oneOf (eFirstSrcId : Option AudioSrcId) (eSecondSrcId id : AudioSrcId) : Bool :=
  some id = eFirstSrcId || id = eSecondSrcId

/-- `iLock_AudioSources`, which rolls back in ascending order. -/
def iLockAudioSources (eFirstSrcId : Option AudioSrcId) (eSecondSrcId : AudioSrcId) : Program Int :=
  lockEach (oneOf eFirstSrcId eSecondSrcId) id (List.finRange eNUMBER_OF_AUDIO_SOURCES) []

/-- `vUnlock_AudioSources`, in descending order. -/
def vUnlockAudioSources (eFirstSrcId : Option AudioSrcId) (eSecondSrcId : AudioSrcId) :
    Program Unit :=
  unlockEach ((List.finRange eNUMBER_OF_AUDIO_SOURCES).reverse.filter
    (oneOf eFirstSrcId eSecondSrcId))

/-- `vCopy_AudioSrcConfiguration` from a local entry, one field after the other. -/
def vCopyAudioSrcConfiguration (id : AudioSrcId) (c : AudioSourceConfig) : Program Unit := do
  store id fun e => { e with eSrcId := c.eSrcId }
  store id fun e => { e with eSrcType := c.eSrcType }
  store id fun e => { e with caSrcName := c.caSrcName }
  store id fun e => { e with bIsActive := c.bIsActive }
  store id fun e => { e with bIsMute := c.bIsMute }
  store id fun e => { e with bIsSelected := c.bIsSelected }
  store id fun e => { e with uiVolume := c.uiVolume }

/-- `iUpdate_AudioSrcFile`.  `bEncode_AudioSrcConfiguration` loads the fields of the
entry one by one. -/
def iUpdateAudioSrcFile (id : AudioSrcId) : Program Int := do
  let caSrcName ← load id (·.caSrcName)
  let uiVolume ← load id (·.uiVolume)
  let eSrcType ← load id (·.eSrcType)
  let eSrcId ← load id (·.eSrcId)
  let bIsActive ← load id (·.bIsActive)
  let bIsMute ← load id (·.bIsMute)
  let bIsSelected ← load id (·.bIsSelected)
  match bEncodeAudioSrcConfiguration crc32
    ⟨eSrcId, eSrcType, caSrcName, bIsActive, bIsMute, bIsSelected, uiVolume⟩ with
  | none => return -EBADE
  | some record =>
    -- the path is built from the entry, not from the record
    let ePathId ← load id (·.eSrcId)
    let r ← .call (.write ePathId record.toBytes)
    return r.iResult

/-- The end of each update of one field: write the file, and restore the field if
that fails. -/
def saveOrRestore (id : AudioSrcId) (restore : AudioSourceConfig → AudioSourceConfig) :
    Program Int := do
  let iResult ← iUpdateAudioSrcFile crc32 id
  if iResult = 0 then return 0
  else
    store id restore
    return iResult

/-! ## §3. The calls. -/

/-- `bUpdate_AudioSrcMuteStatus`. -/
def bUpdateAudioSrcMuteStatus (eSrcId : Nat) (bIsMute : Bool) : Program Bool :=
  withSource eSrcId (return false) fun id => do
    if ← .read (·.bAudioSrcMutexesInitialized) then
      if ← .mutexLock (.source id) then
        let bPreviousMuteState ← load id (·.bIsMute)
        if bPreviousMuteState = bIsMute then .mutexUnlock (.source id)
        else
          store id fun e => { e with bIsMute := bIsMute }
          let iResult ← saveOrRestore crc32 id fun e => { e with bIsMute := bPreviousMuteState }
          let bIsUnlocked ← .mutexUnlock (.source id)
          return iResult = 0 && bIsUnlocked
      else return false
    else return false

/-- `iUpdate_AudioSrcVolume`. -/
def iUpdateAudioSrcVolume (eSrcId : Nat) (uiVolume : UInt8) : Program Int :=
  withSource eSrcId (return -EINVAL) fun id =>
    if uiVolume.toNat > SELECTED_AUDIO_SRC_MAX_VOLUME then return -EINVAL
    else do
      if ← .read (·.bAudioSrcMutexesInitialized) then
        let iResult ← iLockAudioSources (some id) id
        if iResult = 0 then
          let uiPreviousVolume ← load id (·.uiVolume)
          if uiPreviousVolume = uiVolume.toUInt16 then
            vUnlockAudioSources (some id) id
            return 0
          else
            store id fun e => { e with uiVolume := uiVolume.toUInt16 }
            let iResult ← saveOrRestore crc32 id fun e => { e with uiVolume := uiPreviousVolume }
            vUnlockAudioSources (some id) id
            return iResult
        else return iResult
      else return -EACCES

/-- The end of a call that holds the selection and two sources. -/
def releaseAll (eFirstSrcId : Option AudioSrcId) (eSecondSrcId : AudioSrcId) (iResult : Int) :
    Program Int := do
  vUnlockAudioSources eFirstSrcId eSecondSrcId
  let _ ← .mutexUnlock .selection
  return iResult

/-- `iUpdate_AudioScrSelected` to unselect a source, the selection locked. -/
def unselect (id : AudioSrcId) : Program Int := do
  let iResult ← iLockAudioSources (some id) id
  if iResult = 0 then
    if ← load id (·.bIsSelected) then
      store id fun e => { e with bIsSelected := false }
      let iResult ← saveOrRestore crc32 id fun e => { e with bIsSelected := true }
      releaseAll (some id) id iResult
    else releaseAll (some id) id 0
  else
    let _ ← .mutexUnlock .selection
    return iResult

/-- The second write of `iUpdate_AudioScrSelected`: the new source. -/
def selectNew (ePreviousSrcId : Option AudioSrcId) (id : AudioSrcId) : Program Int := do
  store id fun e => { e with bIsSelected := true }
  let iResult ← saveOrRestore crc32 id fun e => { e with bIsSelected := false }
  releaseAll ePreviousSrcId id iResult

/-- `iUpdate_AudioScrSelected` to select a source, the selection locked. -/
def select (ePreviousSrcId : Option AudioSrcId) (id : AudioSrcId) : Program Int :=
  if ePreviousSrcId = some id then do
    let _ ← .mutexUnlock .selection
    return 0
  else do
    let iResult ← iLockAudioSources ePreviousSrcId id
    if iResult = 0 then
      if ← load id (·.bIsActive) then
        match ePreviousSrcId with
        | none => selectNew crc32 none id
        | some prev =>
          store prev fun e => { e with bIsSelected := false }
          let iResult ← saveOrRestore crc32 prev fun e => { e with bIsSelected := true }
          if iResult = 0 then selectNew crc32 (some prev) id
          else releaseAll (some prev) id iResult
      else releaseAll ePreviousSrcId id (-EACCES)
    else
      let _ ← .mutexUnlock .selection
      return iResult

/-- `iUpdate_AudioScrSelected`. -/
def iUpdateAudioScrSelected (eSrcId : Nat) (bIsSelected : Bool) : Program Int :=
  withSource eSrcId (return -EINVAL) fun id => do
    if ← .read (·.bAudioSrcMutexesInitialized) then
      if ← .mutexLock .selection then
        let ePreviousSrcId ← eFindSelectedAudioSrc
        if bIsSelected then select crc32 ePreviousSrcId id else unselect crc32 id
      else return -EBUSY
    else return -EACCES

/-- `iUpdate_AudioSrcConfigurations` from its locks on, with the decoded record. -/
def configure (puiData : List UInt8) (id : AudioSrcId) (c : AudioSourceConfig) : Program Int := do
  if ← .mutexLock .selection then
    let iResult ← iLockAudioSources (some id) id
    if iResult = 0 then
      let eSelectedSrcId ← eFindSelectedAudioSrc
      if c.bIsSelected && eSelectedSrcId.isSome && eSelectedSrcId ≠ some id then
        releaseAll (some id) id (-EALREADY)
      else
        let r ← .call (.write id puiData)
        if r.iResult = 0 then
          vCopyAudioSrcConfiguration id c
          releaseAll (some id) id 0
        else releaseAll (some id) id (- EIO)
    else
      let _ ← .mutexUnlock .selection
      return iResult
  else return -EBUSY

/-- `iUpdate_AudioSrcConfigurations`. -/
def iUpdateAudioSrcConfigurations (puiData : List UInt8) (eSrcId : Nat) : Program Int :=
  if puiData.length ≠ AUDIO_SOURCE_CONFIG_RECORD_SIZE then return -EINVAL
  else
    withSource eSrcId (return -EINVAL) fun id => do
      if ← .read (·.bAudioSrcMutexesInitialized) then
        match decodeBytes crc32 id puiData with
        | none => return -EINVAL
        | some c => configure puiData id c
      else return -EACCES

/-- The loop of `bLoad_AudioConfigurations` that reads and decodes the files into the
local table. -/
def readEach : List AudioSrcId → (AudioSrcId → AudioSourceConfig) →
    Program (Option (AudioSrcId → AudioSourceConfig))
  | [], staTemp => return some staTemp
  | id :: ids, staTemp => do
    let r ← .call (.read id)
    if r.iResult = 0 then
      match decodeBytes crc32 id r.data with
      | none => return none
      | some c => readEach ids (Function.update staTemp id c)
    else return none

/-- The copy of the local table. -/
def copyEach (staTemp : AudioSrcId → AudioSourceConfig) : List AudioSrcId → Program Unit
  | [] => return ()
  | id :: ids => do
    vCopyAudioSrcConfiguration id (staTemp id)
    copyEach staTemp ids

/-- `bLoad_AudioConfigurations` from its locks on, with the valid local table.  It
locks all sources, and rolls back in descending order. -/
def install (staTemp : AudioSrcId → AudioSourceConfig) : Program Bool := do
  if ← .mutexLock .selection then
    let iResult ←
      lockEach (fun _ => true) List.reverse (List.finRange eNUMBER_OF_AUDIO_SOURCES) []
    if iResult = 0 then
      copyEach staTemp (List.finRange eNUMBER_OF_AUDIO_SOURCES)
      unlockEach (List.finRange eNUMBER_OF_AUDIO_SOURCES).reverse
      let _ ← .mutexUnlock .selection
      .write fun r => { r with bConfigurationsLoaded := true }
      return true
    else
      let _ ← .mutexUnlock .selection
      return false
  else return false

/-- `bLoad_AudioConfigurations`. -/
def bLoadAudioConfigurations : Program Bool := do
  if ← bInitAudioSrcMutexes then
    .write fun r => { r with bConfigurationsLoaded := false }
    match ← readEach crc32 (List.finRange eNUMBER_OF_AUDIO_SOURCES) fun _ => .zero with
    | none => return false
    | some staTemp =>
      if Store.bValidateAllSourceConfigurations staTemp then install staTemp else return false
  else return false

/-! ## §4. The system. -/

inductive Call where
  | mute (eSrcId : Nat) (bIsMute : Bool)
  | volume (eSrcId : Nat) (uiVolume : UInt8)
  | select (eSrcId : Nat) (bIsSelected : Bool)
  | configure (puiData : List UInt8) (eSrcId : Nat)
  | load
  deriving DecidableEq, Repr

/-- A `bool` as an `int`. -/
def Call.program : Call → Program Int
  | .mute eSrcId bIsMute => Bool.toInt <$> bUpdateAudioSrcMuteStatus crc32 eSrcId bIsMute
  | .volume eSrcId uiVolume => iUpdateAudioSrcVolume crc32 eSrcId uiVolume
  | .select eSrcId bIsSelected => iUpdateAudioScrSelected crc32 eSrcId bIsSelected
  | .configure puiData eSrcId => iUpdateAudioSrcConfigurations crc32 puiData eSrcId
  | .load => Bool.toInt <$> bLoadAudioConfigurations crc32

/-- The static data at power-up. -/
def Ram.powerUp : Ram where
  staAudioSrcConfigs := fun _ => .zero
  bAudioSrcMutexesInitialized := false
  bConfigurationsLoaded := false

/-- The calls from any threads, from power-up on. -/
def callSystem (ι : Type) [DecidableEq ι] :
    TransSys (Threads ι Ram MutexId FileCall FileResult Int) (ThreadLabel ι Call FileResult) :=
  Threads.system (Call.program crc32) fun r => r = .powerUp

end WallController.AudioSrc.Concurrent
