/-
  WallController.AudioSrc.Updates
  ────────────────────────────────
  **ONE UPDATE, THREE GRANULARITIES.**

  `AudioSrc.Config` and `AudioSrc.FailedSave` take an update as one step, or as
  one for each of its files; `AudioSrc.Concurrent` has one step for each access.
  Where no other thread disturbs it, an update of `AudioSrc.Concurrent` has the
  result of the others, leaves the table as they do, and releases its locks.

  Main results:
    * `Store.mute_alone`, `Store.volume_alone`, `Store.select_alone` and
      `Store.configure_alone`: the operations of `AudioSrc.Config`.
    * `ConfigDisk.mute_alone` and the like: those of `AudioSrc.FailedSave`.
-/
import WallController.AudioSrc.Alone
import WallController.AudioSrc.FailedSave

namespace WallController.AudioSrc

open WallController.Lib
open WallController.Lib.Prog (Alone)
open Concurrent (CallOutcomes Lockable MutexId Ram fileResult lockable_one saved)

variable {crc32 : List UInt8 → UInt32} {o : CallOutcomes} {id : AudioSrcId}

/-! ## §1. The operations of `AudioSrc.Config`. -/

/-- The `int` of a result. -/
def code : Except Int Unit → Int
  | .ok _ => 0
  | .error iResult => iResult

/-- A failure has a code. -/
def WriteResult.Coded (w : WriteResult) : Prop := ∀ bPersisted, w ≠ .failed 0 bPersisted

namespace Store

variable {s : Store} {w w' : WriteResult}

/-- The static data. -/
abbrev ram (s : Store) : Ram where
  staAudioSrcConfigs := s.staAudioSrcConfigs
  bAudioSrcMutexesInitialized := s.bAudioSrcMutexesInitialized
  bConfigurationsLoaded := s.bConfigurationsLoaded

/-- The locks that a suspended selection holds are not obtained, the others are. -/
structure Meets (s : Store) (o : CallOutcomes) : Prop where
  selection : o.lock .selection = s.eSelecting.isNone
  source : ∀ id, o.lock (.source id) = !s.locked id

/-- The file of an entry is written with this outcome. -/
def Answers (crc32 : List UInt8 → UInt32) (o : CallOutcomes) (w : WriteResult)
    (files : SourceFiles) (c : AudioSourceConfig) : Prop :=
  fileResult crc32 o c = code (iUpdateAudioSrcFile crc32 c w files).1

theorem iWriteToFileBin_coded (hw : w.Coded) {data : List UInt8} {files : SourceFiles}
    {iResult : Int} (h : (iWriteToFileBin id data w files).1 = .error iResult) : iResult ≠ 0 := by
  unfold iWriteToFileBin at h
  split at h
  · obtain rfl := Except.error.inj h
    decide
  · cases w with
    | ok => cases h
    | failed iFailed bPersisted =>
        obtain rfl := Except.error.inj h
        rintro rfl
        exact hw bPersisted rfl

/-- A save that reports an error, or not, by its code. -/
theorem saveEntry_cases (hw : w.Coded) (id : AudioSrcId) (entry restored : AudioSourceConfig) :
    (∃ files, iUpdateAudioSrcFile crc32 entry w s.files = (.ok (), files)
        ∧ s.saveEntry crc32 id entry restored w = (.ok (), { s with
          staAudioSrcConfigs := Function.update s.staAudioSrcConfigs id entry, files := files }))
      ∨ ∃ iResult files, iResult ≠ 0
        ∧ iUpdateAudioSrcFile crc32 entry w s.files = (.error iResult, files)
        ∧ s.saveEntry crc32 id entry restored w = (.error iResult, { s with
          staAudioSrcConfigs := Function.update s.staAudioSrcConfigs id restored
          files := files }) := by
  unfold saveEntry
  cases hfile : iUpdateAudioSrcFile crc32 entry w s.files with
  | mk result files =>
      cases result with
      | ok u => exact Or.inl ⟨files, rfl, rfl⟩
      | error iResult =>
          refine Or.inr ⟨iResult, files, ?_, rfl, rfl⟩
          unfold iUpdateAudioSrcFile at hfile
          split at hfile
          · obtain rfl := Except.error.inj (congrArg Prod.fst hfile)
            decide
          · exact iWriteToFileBin_coded hw (congrArg Prod.fst hfile)

/-- A save of a thread alone is a save of the store. -/
theorem saved_eq_saveEntry (hw : w.Coded) {entry restored : AudioSourceConfig}
    (hanswer : Answers crc32 o w s.files entry) :
    saved crc32 o s.ram id entry restored
      = (code (s.saveEntry crc32 id entry restored w).1,
        (s.saveEntry crc32 id entry restored w).2.ram) := by
  unfold saved
  rw [hanswer]
  rcases saveEntry_cases hw id entry restored
    with ⟨files, hfile, hsave⟩ | ⟨e, files, he, hfile, hsave⟩
  · rw [hfile, hsave]
    rfl
  · rw [hfile, hsave]
    show (e, s.ram.setEntry id (if e = 0 then entry else restored)) = _
    rw [if_neg he]
    rfl

theorem code_eq_zero (hw : w.Coded) (id : AudioSrcId) (entry restored : AudioSourceConfig) :
    decide (code (s.saveEntry crc32 id entry restored w).1 = 0)
      = (s.saveEntry crc32 id entry restored w).1.isOk := by
  rcases saveEntry_cases hw id entry restored with ⟨files, -, hsave⟩ | ⟨e, files, he, -, hsave⟩
  · rw [hsave]
    rfl
  · rw [hsave]
    exact decide_eq_false he

/-- `bUpdate_AudioSrcMuteStatus` alone. -/
theorem mute_alone (h : s.Meets o) (hw : w.Coded) (hanswer : ∀ c, Answers crc32 o w s.files c)
    (bIsMute : Bool) :
    (Concurrent.bUpdateAudioSrcMuteStatus crc32 id.val bIsMute).exec o ⟨s.ram, []⟩
      = ((s.bUpdateAudioSrcMuteStatus crc32 id.val bIsMute w).1,
        ⟨(s.bUpdateAudioSrcMuteStatus crc32 id.val bIsMute w).2.ram, []⟩) := by
  rw [Concurrent.exec_bUpdateAudioSrcMuteStatus]
  unfold bUpdateAudioSrcMuteStatus
  rw [withSource_val, h.source id, saved_eq_saveEntry hw (hanswer _)]
  simp only [Bool.not_not]
  split
  · rfl
  · split
    · rfl
    · by_cases hsame : (s.staAudioSrcConfigs id).bIsMute = bIsMute
      · rw [if_pos hsame, if_pos hsame]
      · rw [if_neg hsame, if_neg hsame, code_eq_zero hw]

/-- `iUpdate_AudioSrcVolume` alone. -/
theorem volume_alone (h : s.Meets o) (hw : w.Coded) (hanswer : ∀ c, Answers crc32 o w s.files c)
    (uiVolume : UInt8) :
    (Concurrent.iUpdateAudioSrcVolume crc32 id.val uiVolume).exec o ⟨s.ram, []⟩
      = (code (s.iUpdateAudioSrcVolume crc32 id.val uiVolume w).1,
        ⟨(s.iUpdateAudioSrcVolume crc32 id.val uiVolume w).2.ram, []⟩) := by
  have hlock : ¬ Lockable o (some id) id ↔ s.locked id = true := by
    rw [lockable_one, h.source id]
    simp
  rw [Concurrent.exec_iUpdateAudioSrcVolume]
  unfold iUpdateAudioSrcVolume
  rw [withSource_val, saved_eq_saveEntry hw (hanswer _)]
  simp only [hlock]
  split
  · rfl
  · split
    · rfl
    · split
      · rfl
      · split <;> rfl

/-- `iUpdate_AudioScrSelected` to its end. -/
def selectToEnd (crc32 : List UInt8 → UInt32) (s : Store) (eSrcId : Nat) (bIsSelected : Bool)
    (w w' : WriteResult) : Int × Store :=
  match s.iUpdateAudioScrSelected crc32 eSrcId bIsSelected w with
  | (.done iResult, s) => (code iResult, s)
  | (.suspended, s) =>
    match s.finishSelection crc32 w' with
    | (.done iResult, s) => (code iResult, s)
    | (.suspended, s) => (0, s)

theorem Meets.lockable (h : s.Meets o) (hnone : s.eSelecting = none) (eFirst : Option AudioSrcId)
    (id : AudioSrcId) : Lockable o eFirst id := by
  intro j _
  rw [h.source j]
  unfold locked
  rw [hnone]
  rfl

/-- `iUpdate_AudioScrSelected` alone, with its two saves. -/
theorem select_alone (h : s.Meets o) (hw : w.Coded) (hw' : w'.Coded)
    (hcleared : ∀ c, c.bIsSelected = false → Answers crc32 o w s.files c)
    (hselected : ∀ c, c.bIsSelected = true →
      match eFindSelectedAudioSrc s.staAudioSrcConfigs with
      | none => Answers crc32 o w s.files c
      | some prev => Answers crc32 o w' (s.saveEntry crc32 prev
          { s.staAudioSrcConfigs prev with bIsSelected := false }
          { s.staAudioSrcConfigs prev with bIsSelected := true } w).2.files c)
    (bIsSelected : Bool) :
    (Concurrent.iUpdateAudioScrSelected crc32 id.val bIsSelected).exec o ⟨s.ram, []⟩
      = ((selectToEnd crc32 s id.val bIsSelected w w').1,
        ⟨(selectToEnd crc32 s id.val bIsSelected w w').2.ram, []⟩) := by
  rw [Concurrent.exec_iUpdateAudioScrSelected, h.selection]
  unfold selectToEnd iUpdateAudioScrSelected
  rw [withSource_val]
  simp only [Option.not_isNone]
  split
  · rfl
  split
  · rfl
  next hnone =>
  -- between the two saves of an earlier call no other update runs
  replace hnone : s.eSelecting = none := Option.not_isSome_iff_eq_none.mp hnone
  cases bIsSelected with
  | false =>
      show (Concurrent.unselect crc32 id).exec o ⟨s.ram, [.selection]⟩ = _
      rw [Concurrent.exec_unselect, if_neg (not_not.mpr (h.lockable hnone _ _)),
        saved_eq_saveEntry hw (hcleared _ rfl)]
      split <;> rfl
  | true =>
      show (Concurrent.select crc32 (eFindSelectedAudioSrc s.staAudioSrcConfigs) id).exec o
        ⟨s.ram, [.selection]⟩ = _
      rw [Concurrent.exec_select]
      have hlock := not_not.mpr (h.lockable hnone (eFindSelectedAudioSrc s.staAudioSrcConfigs) id)
      rw [if_neg hlock]
      cases hprev : eFindSelectedAudioSrc s.staAudioSrcConfigs with
      | none =>
          rw [hprev] at hselected
          dsimp only
          rw [saved_eq_saveEntry hw (hselected _ rfl)]
          split
          · rfl
          · split <;> rfl
      | some prev =>
          rw [hprev] at hselected
          dsimp only at hselected ⊢
          rw [saved_eq_saveEntry hw (hcleared _ rfl)]
          split
          · rfl
          split
          · rfl
          -- the second save is made on the state that the first one leaves
          rcases saveEntry_cases hw prev { s.staAudioSrcConfigs prev with bIsSelected := false }
            { s.staAudioSrcConfigs prev with bIsSelected := true }
            with ⟨files, -, hsave⟩ | ⟨e, files, he, -, hsave⟩
          · rw [hsave] at hselected ⊢
            let s₂ : Store := { s with
              staAudioSrcConfigs := Function.update s.staAudioSrcConfigs prev
                { s.staAudioSrcConfigs prev with bIsSelected := false }
              files := files
              eSelecting := some (prev, id) }
            have hsecond : saved crc32 o s₂.ram id
                { s₂.staAudioSrcConfigs id with bIsSelected := true }
                { s₂.staAudioSrcConfigs id with bIsSelected := false } = _ :=
              saved_eq_saveEntry hw' (hselected _ rfl)
            exact congrArg (fun x : Int × Ram => (x.1, (⟨x.2, []⟩ : Alone Ram MutexId))) hsecond
          · rw [hsave]
            -- a first save that fails ends the call with its error
            show (if e ≠ 0 then _ else _) = _
            rw [if_pos he]
            rfl

/-- `iUpdate_AudioSrcConfigurations` alone. -/
theorem configure_alone (h : s.Meets o) (hw : w.Coded) {puiData : List UInt8}
    (hanswer : (o.answer (.write id puiData)).iResult
      = code (iWriteToFileBin id puiData w s.files).1) :
    (Concurrent.iUpdateAudioSrcConfigurations crc32 puiData id.val).exec o ⟨s.ram, []⟩
      = (code (s.iUpdateAudioSrcConfigurations crc32 puiData id.val w).1,
        ⟨(s.iUpdateAudioSrcConfigurations crc32 puiData id.val w).2.ram, []⟩) := by
  rw [Concurrent.exec_iUpdateAudioSrcConfigurations]
  unfold iUpdateAudioSrcConfigurations
  rw [withSource_val]
  split
  · rfl
  split
  · rfl
  cases hdecode : decodeBytes crc32 id puiData with
  | none => rfl
  | some c =>
      dsimp only
      rw [Concurrent.exec_configure, h.selection, Option.not_isNone]
      split
      · rfl
      next hnone =>
      replace hnone : s.eSelecting = none := Option.not_isSome_iff_eq_none.mp hnone
      rw [if_neg (not_not.mpr (h.lockable hnone _ _))]
      dsimp only
      split
      · rfl
      · rw [hanswer]
        cases hfile : iWriteToFileBin id puiData w s.files with
        | mk result files =>
            cases result with
            | ok u => rfl
            | error e =>
                have he : e ≠ 0 := iWriteToFileBin_coded hw (congrArg Prod.fst hfile)
                show (if e ≠ 0 then _ else _) = _
                rw [if_pos he]
                rfl

end Store

/-! ## §2. The operations of `AudioSrc.FailedSave`. -/

/-- The locks of the two models are the same. -/
structure UpdateEnv.Meets (env : UpdateEnv) (o : CallOutcomes) : Prop where
  selection : o.lock .selection = env.bSelectionLock
  source : ∀ id, o.lock (.source id) = env.bSourceLock

theorem UpdateEnv.Meets.lockable {env : UpdateEnv} (h : env.Meets o) (eFirst : Option AudioSrcId)
    (id : AudioSrcId) : ¬ Lockable o eFirst id ↔ (!env.bSourceLock) = true := by
  have hid : Concurrent.oneOf eFirst id id = true := by
    unfold Concurrent.oneOf
    simp
  have hlockable : Lockable o eFirst id ↔ env.bSourceLock = true :=
    ⟨fun hall => (h.source id).symm.trans (hall id hid), fun hlock j _ => (h.source j).trans hlock⟩
  rw [hlockable]
  simp

namespace ConfigDisk

variable {s : ConfigDisk} {env : UpdateEnv} {bLoaded : Bool}

/-- The static data; the disk model has no `bConfigurationsLoaded`. -/
abbrev ram (s : ConfigDisk) (bConfigurationsLoaded : Bool) : Ram where
  staAudioSrcConfigs := s.staAudioSrcConfigs
  bAudioSrcMutexesInitialized := s.bAudioSrcMutexesInitialized
  bConfigurationsLoaded := bConfigurationsLoaded

/-- The file of an entry is written as on the disk. -/
def Answers (crc32 : List UInt8 → UInt32) (o : CallOutcomes) (env : SaveEnv) (disk : LittleFs.Disk)
    (c : AudioSourceConfig) : Prop :=
  fileResult crc32 o c = (iUpdateAudioSrcFile crc32 c env disk).1

theorem saved_eq_saveEntry {save : SaveEnv} {entry restored : AudioSourceConfig}
    (hanswer : Answers crc32 o save s.disk entry) :
    saved crc32 o (s.ram bLoaded) id entry restored
      = ((s.saveEntry crc32 id entry restored save).1,
        (s.saveEntry crc32 id entry restored save).2.ram bLoaded) := by
  unfold saved saveEntry
  rw [hanswer]
  cases hfile : iUpdateAudioSrcFile crc32 entry save s.disk with
  | mk iResult disk =>
      show (iResult, Ram.setEntry _ id (if iResult = 0 then entry else restored)) = _
      by_cases hzero : iResult = 0
      · rw [if_pos hzero]
        dsimp only
        rw [if_neg (not_not.mpr hzero)]
        rfl
      · rw [if_neg hzero]
        dsimp only
        rw [if_pos hzero]
        rfl

theorem saved_eq_unselectSource {save : SaveEnv}
    (hanswer : ∀ c, c.bIsSelected = false → Answers crc32 o save s.disk c) :
    saved crc32 o (s.ram bLoaded) id { s.staAudioSrcConfigs id with bIsSelected := false }
        { s.staAudioSrcConfigs id with bIsSelected := true }
      = ((s.unselectSource crc32 id save).1, (s.unselectSource crc32 id save).2.ram bLoaded) :=
  saved_eq_saveEntry (hanswer _ rfl)

theorem saved_eq_selectSource {save : SaveEnv}
    (hanswer : ∀ c, c.bIsSelected = true → Answers crc32 o save s.disk c) :
    saved crc32 o (s.ram bLoaded) id { s.staAudioSrcConfigs id with bIsSelected := true }
        { s.staAudioSrcConfigs id with bIsSelected := false }
      = ((s.selectSource crc32 id save).1, (s.selectSource crc32 id save).2.ram bLoaded) :=
  saved_eq_saveEntry (hanswer _ rfl)

/-- `bUpdate_AudioSrcMuteStatus` alone. -/
theorem mute_alone (h : env.Meets o) (hanswer : ∀ c, Answers crc32 o (env.save 0) s.disk c)
    (bIsMute : Bool) :
    (Concurrent.bUpdateAudioSrcMuteStatus crc32 id.val bIsMute).exec o ⟨s.ram bLoaded, []⟩
      = ((s.bUpdateAudioSrcMuteStatus crc32 env id.val bIsMute).1,
        ⟨(s.bUpdateAudioSrcMuteStatus crc32 env id.val bIsMute).2.ram bLoaded, []⟩) := by
  rw [Concurrent.exec_bUpdateAudioSrcMuteStatus]
  unfold bUpdateAudioSrcMuteStatus
  rw [withSource_val, h.source id, saved_eq_saveEntry (hanswer _)]
  split
  · rfl
  · split
    · rfl
    · by_cases hsame : (s.staAudioSrcConfigs id).bIsMute = bIsMute
      · rw [if_pos hsame, if_pos hsame]
      · rw [if_neg hsame, if_neg hsame]

/-- `iUpdate_AudioSrcVolume` alone. -/
theorem volume_alone (h : env.Meets o) (hanswer : ∀ c, Answers crc32 o (env.save 0) s.disk c)
    (uiVolume : UInt8) :
    (Concurrent.iUpdateAudioSrcVolume crc32 id.val uiVolume).exec o ⟨s.ram bLoaded, []⟩
      = ((s.iUpdateAudioSrcVolume crc32 env id.val uiVolume).1,
        ⟨(s.iUpdateAudioSrcVolume crc32 env id.val uiVolume).2.ram bLoaded, []⟩) := by
  rw [Concurrent.exec_iUpdateAudioSrcVolume]
  unfold iUpdateAudioSrcVolume
  rw [withSource_val, saved_eq_saveEntry (hanswer _)]
  simp only [h.lockable]
  split
  · rfl
  · split
    · rfl
    · split
      · rfl
      · split <;> rfl

/-- `iUpdate_AudioScrSelected` alone, with its two saves. -/
theorem select_alone (h : env.Meets o)
    (hcleared : ∀ c, c.bIsSelected = false → Answers crc32 o (env.save 0) s.disk c)
    (hselected : ∀ c, c.bIsSelected = true →
      match eFindSelectedAudioSrc s.staAudioSrcConfigs with
      | none => Answers crc32 o (env.save 0) s.disk c
      | some prev =>
          Answers crc32 o (env.save 1) (s.unselectSource crc32 prev (env.save 0)).2.disk c)
    (bIsSelected : Bool) :
    (Concurrent.iUpdateAudioScrSelected crc32 id.val bIsSelected).exec o ⟨s.ram bLoaded, []⟩
      = ((s.iUpdateAudioScrSelected crc32 env id.val bIsSelected).1,
        ⟨(s.iUpdateAudioScrSelected crc32 env id.val bIsSelected).2.ram bLoaded, []⟩) := by
  rw [Concurrent.exec_iUpdateAudioScrSelected, h.selection]
  unfold iUpdateAudioScrSelected
  rw [withSource_val]
  split
  · rfl
  split
  · rfl
  cases bIsSelected with
  | false =>
      show (Concurrent.unselect crc32 id).exec o ⟨s.ram bLoaded, [.selection]⟩ = _
      rw [Concurrent.exec_unselect, saved_eq_unselectSource hcleared]
      simp only [h.lockable, Bool.not_false, if_true]
      split
      · rfl
      · split <;> rfl
  | true =>
      show (Concurrent.select crc32 (eFindSelectedAudioSrc s.staAudioSrcConfigs) id).exec o
        ⟨s.ram bLoaded, [.selection]⟩ = _
      rw [Concurrent.exec_select]
      simp only [h.lockable, Bool.not_true, Bool.false_eq_true, if_false]
      cases hprev : eFindSelectedAudioSrc s.staAudioSrcConfigs with
      | none =>
          rw [hprev] at hselected
          dsimp only
          rw [saved_eq_selectSource hselected]
          split
          · rfl
          · split
            · rfl
            · split <;> rfl
      | some prev =>
          rw [hprev] at hselected
          dsimp only at hselected ⊢
          rw [saved_eq_unselectSource hcleared]
          -- both saves in order, each with the result of its own write
          cases hunselect : s.unselectSource crc32 prev (env.save 0) with
          | mk e s₁ =>
          rw [hunselect] at hselected
          dsimp only at hselected ⊢
          rw [saved_eq_selectSource hselected]
          split
          · rfl
          split
          · rfl
          split
          · rfl
          · split <;> rfl

/-- `iUpdate_AudioSrcConfigurations` alone. -/
theorem configure_alone (h : env.Meets o) {puiData : List UInt8}
    (hanswer : (o.answer (.write id puiData)).iResult
      = (s.disk.iWriteToFileBin (env.save 0).toDiskEnv (env.save 0).bIsBulkTransferActive
        (configPath id) puiData puiData.length).1) :
    (Concurrent.iUpdateAudioSrcConfigurations crc32 puiData id.val).exec o ⟨s.ram bLoaded, []⟩
      = ((s.iUpdateAudioSrcConfigurations crc32 env puiData id.val).1,
        ⟨(s.iUpdateAudioSrcConfigurations crc32 env puiData id.val).2.ram bLoaded, []⟩) := by
  rw [Concurrent.exec_iUpdateAudioSrcConfigurations]
  unfold iUpdateAudioSrcConfigurations
  rw [withSource_val]
  split
  · rfl
  split
  · rfl
  cases hdecode : decodeBytes crc32 id puiData with
  | none => rfl
  | some c =>
      dsimp only
      rw [Concurrent.exec_configure, h.selection, hanswer]
      simp only [h.lockable]
      split
      · rfl
      split
      · rfl
      split
      · rfl
      · split <;> rfl

end ConfigDisk

end WallController.AudioSrc
