/-
  WallController.AudioSrc.Alone
  ────────────────────────────────
  **THE AUDIO SOURCE CALLS OF ONE THREAD ALONE.**

  What the helpers of `AudioSrc.Concurrent` do where no other thread disturbs
  them: what they leave of the table and of the locks, by the locks that are
  obtained and by the results of the file accesses.
-/
import WallController.AudioSrc.Concurrent
import WallController.AudioSrc.Effects
import WallController.Lib.Sequential
import Mathlib

namespace WallController.AudioSrc.Concurrent

open WallController.Lib
open WallController.Lib.Prog (Outcomes Alone exec_bind_of)

/-- The initialisations, the locks and the file accesses of a call. -/
abbrev CallOutcomes := Outcomes MutexId FileCall FileResult

variable {o : CallOutcomes} {r : Ram} {held : List MutexId}

/-! ## §1. The locks. -/

/-- The unlocks of the mutexes that were taken last, in any order. -/
theorem exec_unlockEach {ids taken : List AudioSrcId} (h : taken.Perm ids) :
    (unlockEach ids).exec o ⟨r, taken.map MutexId.source ++ held⟩ = ((), ⟨r, held⟩) := by
  induction ids generalizing taken with
  | nil =>
      obtain rfl := h.eq_nil
      rfl
  | cons id ids ih =>
      have hmem : id ∈ taken := h.mem_iff.mpr List.mem_cons_self
      have herase : (taken.map MutexId.source ++ held).erase (.source id)
          = (taken.erase id).map MutexId.source ++ held := by
        rw [List.erase_append_left _ (List.mem_map_of_mem hmem),
          List.map_erase fun _ _ heq => MutexId.source.inj heq]
      unfold unlockEach
      rw [exec_bind_of Prog.exec_mutexUnlock]
      show (unlockEach ids).exec o ⟨r, List.erase _ _⟩ = _
      rw [herase]
      refine ih ((h.erase id).trans ?_)
      rw [List.erase_cons_head]

/-- The locks of the wanted sources, or none of them. -/
theorem exec_lockEach {wanted : AudioSrcId → Bool}
    {rollback : List AudioSrcId → List AudioSrcId} (hrollback : ∀ l, (rollback l).Perm l)
    (ids locked : List AudioSrcId) :
    (lockEach wanted rollback ids locked).exec o ⟨r, locked.reverse.map MutexId.source ++ held⟩
      = if ∀ id ∈ ids, wanted id = true → o.lock (.source id) = true then
          (0, ⟨r, (locked ++ ids.filter wanted).reverse.map MutexId.source ++ held⟩)
        else (-EBUSY, ⟨r, held⟩) := by
  induction ids generalizing locked with
  | nil =>
      rw [if_pos (fun _ h => nomatch h), List.filter_nil, List.append_nil]
      rfl
  | cons id ids ih =>
      unfold lockEach
      by_cases hwanted : wanted id = true
      · rw [if_pos hwanted, List.filter_cons_of_pos hwanted]
        by_cases hid : o.lock (.source id) = true
        · rw [exec_bind_of (Prog.exec_mutexLock_ok hid), if_pos rfl]
          have htaken : (.source id :: (locked.reverse.map MutexId.source ++ held) : List MutexId)
              = (locked ++ [id]).reverse.map MutexId.source ++ held := by simp
          show (lockEach _ _ ids (locked ++ [id])).exec o ⟨r, .source id :: _⟩ = _
          rw [htaken, ih (locked ++ [id])]
          simp only [List.forall_mem_cons, hid, implies_true, true_and, List.append_assoc,
            List.singleton_append]
        · rw [exec_bind_of (Prog.exec_mutexLock_fails hid), if_neg Bool.false_ne_true,
            exec_bind_of (exec_unlockEach (locked.reverse_perm.trans (hrollback locked).symm)),
            if_neg fun h => hid (h id List.mem_cons_self hwanted)]
          rfl
      · rw [if_neg hwanted, ih locked, List.filter_cons_of_neg hwanted]
        simp only [List.forall_mem_cons, hwanted, Bool.false_eq_true, false_implies, true_and]

/-! ## §2. The table. -/

theorem exec_findSelected (ids : List AudioSrcId) (a : Alone Ram MutexId) :
    (findSelected ids).exec o a
      = (ids.find? fun id => (a.mem.staAudioSrcConfigs id).bIsSelected, a) := by
  induction ids with
  | nil => rfl
  | cons id ids ih =>
      unfold findSelected load
      rw [exec_bind_of Prog.exec_read, List.find?_cons]
      by_cases h : (a.mem.staAudioSrcConfigs id).bIsSelected = true
      · rw [if_pos h, h]
        rfl
      · rw [if_neg h, ih, Bool.of_not_eq_true h]

theorem exec_eFindSelectedAudioSrc (a : Alone Ram MutexId) :
    eFindSelectedAudioSrc.exec o a = (AudioSrc.eFindSelectedAudioSrc a.mem.staAudioSrcConfigs, a) :=
  exec_findSelected _ a

/-- The static data with another entry of a source. -/
def Ram.setEntry (r : Ram) (id : AudioSrcId) (c : AudioSourceConfig) : Ram :=
  { r with staAudioSrcConfigs := Function.update r.staAudioSrcConfigs id c }

theorem exec_store (id : AudioSrcId) (f : AudioSourceConfig → AudioSourceConfig) :
    (store id f).exec o ⟨r, held⟩ = ((), ⟨r.setEntry id (f (r.staAudioSrcConfigs id)), held⟩) := rfl

/-! ## §3. The file of a source. -/

variable (crc32 : List UInt8 → UInt32)

/-- The result of `iUpdate_AudioSrcFile` for an entry. -/
def fileResult (o : CallOutcomes) (c : AudioSourceConfig) : Int :=
  match bEncodeAudioSrcConfiguration crc32 c with
  | none => -EBADE
  | some record => (o.answer (.write c.eSrcId record.toBytes)).iResult

/-- An entry is replaced and its file written, or it is restored. -/
def saved (o : CallOutcomes) (r : Ram) (id : AudioSrcId) (entry restored : AudioSourceConfig) :
    Int × Ram :=
  let iResult := fileResult crc32 o entry
  (iResult, r.setEntry id (if iResult = 0 then entry else restored))

variable {crc32}

theorem exec_iUpdateAudioSrcFile (id : AudioSrcId) (a : Alone Ram MutexId) :
    (iUpdateAudioSrcFile crc32 id).exec o a
      = (fileResult crc32 o (a.mem.staAudioSrcConfigs id), a) := by
  unfold iUpdateAudioSrcFile load fileResult
  simp only [exec_bind_of Prog.exec_read]
  cases bEncodeAudioSrcConfiguration crc32 (a.mem.staAudioSrcConfigs id) with
  | none => rfl
  | some record => rfl

theorem exec_save {ρ : Type} (id : AudioSrcId)
    (f restore : AudioSourceConfig → AudioSourceConfig) (next : Int → Program ρ) :
    (do
      store id f
      let iResult ← saveOrRestore crc32 id restore
      next iResult).exec o ⟨r, held⟩
      = let x := saved crc32 o r id (f (r.staAudioSrcConfigs id))
          (restore (f (r.staAudioSrcConfigs id)))
        (next x.1).exec o ⟨x.2, held⟩ := by
  have hentry : (r.setEntry id (f (r.staAudioSrcConfigs id))).staAudioSrcConfigs id
      = f (r.staAudioSrcConfigs id) := Function.update_self ..
  have hfile : (iUpdateAudioSrcFile crc32 id).exec o
      ⟨r.setEntry id (f (r.staAudioSrcConfigs id)), held⟩ = _ := exec_iUpdateAudioSrcFile id _
  rw [hentry] at hfile
  rw [exec_bind_of (exec_store id f)]
  unfold saveOrRestore saved
  rw [Prog.exec_bind, exec_bind_of hfile]
  by_cases hzero : fileResult crc32 o (f (r.staAudioSrcConfigs id)) = 0
  · rw [if_pos hzero]
    dsimp only
    rw [if_pos hzero, hzero]
    rfl
  · rw [if_neg hzero, exec_bind_of (exec_store id restore), hentry]
    dsimp only
    rw [if_neg hzero]
    unfold Ram.setEntry
    rw [Function.update_idem]
    rfl

/-! ## §4. The calls. -/

variable {id : AudioSrcId} {eFirst : Option AudioSrcId}

theorem exec_bUpdateAudioSrcMuteStatus (bIsMute : Bool) :
    (bUpdateAudioSrcMuteStatus crc32 id.val bIsMute).exec o ⟨r, []⟩
      = if !r.bAudioSrcMutexesInitialized then (false, ⟨r, []⟩)
        else if !o.lock (.source id) then (false, ⟨r, []⟩)
        else if (r.staAudioSrcConfigs id).bIsMute = bIsMute then (true, ⟨r, []⟩)
        else
          let x := saved crc32 o r id { r.staAudioSrcConfigs id with bIsMute := bIsMute }
            (r.staAudioSrcConfigs id)
          (x.1 = 0, ⟨x.2, []⟩) := by
  unfold bUpdateAudioSrcMuteStatus
  rw [withSource_val, exec_bind_of Prog.exec_read]
  cases hinit : r.bAudioSrcMutexesInitialized with
  | false => rfl
  | true =>
      rw [if_pos rfl, if_neg (by decide)]
      by_cases hlock : o.lock (.source id) = true
      · rw [exec_bind_of (Prog.exec_mutexLock_ok hlock), if_pos rfl,
          if_neg (by rw [hlock]; decide)]
        unfold load
        rw [exec_bind_of Prog.exec_read]
        by_cases hsame : (r.staAudioSrcConfigs id).bIsMute = bIsMute
        · rw [if_pos hsame, if_pos hsame, Prog.exec_mutexUnlock, List.erase_cons_head]
          simp
        · rw [if_neg hsame, if_neg hsame, exec_save]
          dsimp only
          rw [exec_bind_of Prog.exec_mutexUnlock, List.erase_cons_head]
          simp [Prog.exec_pure]
      · rw [exec_bind_of (Prog.exec_mutexLock_fails hlock), if_neg Bool.false_ne_true,
          if_pos (by rw [Bool.of_not_eq_true hlock]; rfl)]
        rfl

/-- The mutexes that `iLock_AudioSources` takes, the last one first. -/
def taken (eFirst : Option AudioSrcId) (id : AudioSrcId) : List MutexId :=
  ((List.finRange eNUMBER_OF_AUDIO_SOURCES).filter (oneOf eFirst id)).reverse.map .source

/-- Both sources can be locked. -/
def Lockable (o : CallOutcomes) (eFirst : Option AudioSrcId) (id : AudioSrcId) : Prop :=
  ∀ j, oneOf eFirst id j = true → o.lock (.source j) = true

instance : Decidable (Lockable o eFirst id) := inferInstanceAs (Decidable (∀ _, _))

theorem exec_iLockAudioSources :
    (iLockAudioSources eFirst id).exec o ⟨r, held⟩
      = if Lockable o eFirst id then (0, ⟨r, taken eFirst id ++ held⟩)
        else (-EBUSY, ⟨r, held⟩) := by
  have hlocks : (iLockAudioSources eFirst id).exec o ⟨r, held⟩ = _ :=
    exec_lockEach List.Perm.refl (List.finRange eNUMBER_OF_AUDIO_SOURCES) []
  simp only [List.mem_finRange, forall_const] at hlocks
  exact hlocks

theorem exec_vUnlockAudioSources :
    (vUnlockAudioSources eFirst id).exec o ⟨r, taken eFirst id ++ held⟩ = ((), ⟨r, held⟩) := by
  unfold vUnlockAudioSources taken
  rw [List.filter_reverse]
  exact exec_unlockEach (List.Perm.refl _)

theorem exec_releaseAll (iResult : Int) :
    (releaseAll eFirst id iResult).exec o ⟨r, taken eFirst id ++ [.selection]⟩
      = (iResult, ⟨r, []⟩) := by
  unfold releaseAll
  rw [exec_bind_of exec_vUnlockAudioSources, exec_bind_of Prog.exec_mutexUnlock,
    List.erase_cons_head]
  rfl

/-- The end of a call that could not lock its sources. -/
theorem exec_releaseSelection (iResult : Int) :
    (do
      let _ ← Prog.mutexUnlock .selection
      return iResult : Program Int).exec o ⟨r, [.selection]⟩ = (iResult, ⟨r, []⟩) := by
  rw [exec_bind_of Prog.exec_mutexUnlock, List.erase_cons_head]
  rfl

/-- One source to be locked. -/
theorem lockable_one : Lockable o (some id) id ↔ o.lock (.source id) = true := by
  unfold Lockable oneOf
  simp

theorem exec_iUpdateAudioSrcVolume (uiVolume : UInt8) :
    (iUpdateAudioSrcVolume crc32 id.val uiVolume).exec o ⟨r, []⟩
      = if uiVolume.toNat > SELECTED_AUDIO_SRC_MAX_VOLUME then (-EINVAL, ⟨r, []⟩)
        else if !r.bAudioSrcMutexesInitialized then (-EACCES, ⟨r, []⟩)
        else if ¬ Lockable o (some id) id then (-EBUSY, ⟨r, []⟩)
        else if (r.staAudioSrcConfigs id).uiVolume = uiVolume.toUInt16 then (0, ⟨r, []⟩)
        else
          let x := saved crc32 o r id
            { r.staAudioSrcConfigs id with uiVolume := uiVolume.toUInt16 }
            (r.staAudioSrcConfigs id)
          (x.1, ⟨x.2, []⟩) := by
  unfold iUpdateAudioSrcVolume
  rw [withSource_val]
  by_cases hmax : uiVolume.toNat > SELECTED_AUDIO_SRC_MAX_VOLUME
  · rw [if_pos hmax, if_pos hmax]
    rfl
  rw [if_neg hmax, if_neg hmax, exec_bind_of Prog.exec_read]
  cases hinit : r.bAudioSrcMutexesInitialized with
  | false => rfl
  | true =>
      rw [if_pos rfl, if_neg (by decide)]
      have hlocks : (iLockAudioSources (some id) id).exec o ⟨r, []⟩ = _ := exec_iLockAudioSources
      have hunlocks : ∀ r, (vUnlockAudioSources (some id) id).exec o ⟨r, taken (some id) id ++ []⟩
          = ((), ⟨r, []⟩) := fun _ => exec_vUnlockAudioSources
      by_cases hlock : Lockable o (some id) id
      · rw [if_pos hlock] at hlocks
        rw [exec_bind_of hlocks, if_pos rfl, if_neg (not_not.mpr hlock)]
        unfold load
        rw [exec_bind_of Prog.exec_read]
        by_cases hsame : (r.staAudioSrcConfigs id).uiVolume = uiVolume.toUInt16
        · rw [if_pos hsame, if_pos hsame, exec_bind_of (hunlocks r)]
          rfl
        · rw [if_neg hsame, if_neg hsame, exec_save]
          dsimp only
          rw [exec_bind_of (hunlocks _)]
          rfl
      · rw [if_neg hlock] at hlocks
        rw [exec_bind_of hlocks, if_neg (by decide), if_pos hlock]
        rfl

theorem exec_unselect :
    (unselect crc32 id).exec o ⟨r, [.selection]⟩
      = if ¬ Lockable o (some id) id then (-EBUSY, ⟨r, []⟩)
        else if !(r.staAudioSrcConfigs id).bIsSelected then (0, ⟨r, []⟩)
        else
          let x := saved crc32 o r id { r.staAudioSrcConfigs id with bIsSelected := false }
            { r.staAudioSrcConfigs id with bIsSelected := true }
          (x.1, ⟨x.2, []⟩) := by
  unfold unselect
  have hlocks : (iLockAudioSources (some id) id).exec o ⟨r, [.selection]⟩ = _ :=
    exec_iLockAudioSources
  by_cases hlock : Lockable o (some id) id
  · rw [if_pos hlock] at hlocks
    rw [exec_bind_of hlocks, if_pos rfl, if_neg (not_not.mpr hlock)]
    unfold load
    rw [exec_bind_of Prog.exec_read]
    by_cases hselected : (r.staAudioSrcConfigs id).bIsSelected = true
    · rw [if_pos hselected, exec_save, if_neg (by rw [hselected]; decide)]
      exact exec_releaseAll _
    · rw [if_neg hselected, if_pos (by rw [Bool.of_not_eq_true hselected]; rfl)]
      exact exec_releaseAll _
  · rw [if_neg hlock] at hlocks
    rw [exec_bind_of hlocks, if_neg (by decide), if_pos hlock]
    exact exec_releaseSelection _

theorem exec_selectNew :
    (selectNew crc32 eFirst id).exec o ⟨r, taken eFirst id ++ [.selection]⟩
      = let x := saved crc32 o r id { r.staAudioSrcConfigs id with bIsSelected := true }
          { r.staAudioSrcConfigs id with bIsSelected := false }
        (x.1, ⟨x.2, []⟩) := by
  unfold selectNew
  rw [exec_save]
  exact exec_releaseAll _

theorem exec_select :
    (select crc32 eFirst id).exec o ⟨r, [.selection]⟩
      = if eFirst = some id then (0, ⟨r, []⟩)
        else if ¬ Lockable o eFirst id then (-EBUSY, ⟨r, []⟩)
        else if !(r.staAudioSrcConfigs id).bIsActive then (-EACCES, ⟨r, []⟩)
        else
          let selected (r : Ram) :=
            saved crc32 o r id { r.staAudioSrcConfigs id with bIsSelected := true }
              { r.staAudioSrcConfigs id with bIsSelected := false }
          match eFirst with
          | none => ((selected r).1, ⟨(selected r).2, []⟩)
          | some prev =>
              let x := saved crc32 o r prev { r.staAudioSrcConfigs prev with bIsSelected := false }
                { r.staAudioSrcConfigs prev with bIsSelected := true }
              if x.1 ≠ 0 then (x.1, ⟨x.2, []⟩)
              else ((selected x.2).1, ⟨(selected x.2).2, []⟩) := by
  unfold select
  by_cases hsame : eFirst = some id
  · rw [if_pos hsame, if_pos hsame]
    exact exec_releaseSelection _
  rw [if_neg hsame, if_neg hsame]
  -- the locks are tried first: the entries are read under them
  have hlocks : (iLockAudioSources eFirst id).exec o ⟨r, [.selection]⟩ = _ :=
    exec_iLockAudioSources
  by_cases hlock : Lockable o eFirst id
  · rw [if_pos hlock] at hlocks
    rw [exec_bind_of hlocks, if_pos rfl, if_neg (not_not.mpr hlock)]
    unfold load
    rw [exec_bind_of Prog.exec_read]
    by_cases hactive : (r.staAudioSrcConfigs id).bIsActive = true
    · rw [if_pos hactive, if_neg (by rw [hactive]; decide)]
      cases eFirst with
      | none => exact exec_selectNew
      | some prev =>
          dsimp only
          -- the mark of the previous source is cleared and saved before the new one is set
          rw [exec_save]
          dsimp only
          generalize saved crc32 o r prev _ _ = x
          by_cases hzero : x.1 = 0
          · rw [if_pos hzero, if_neg (not_not.mpr hzero)]
            exact exec_selectNew
          · rw [if_neg hzero, if_pos hzero]
            -- the first save has failed, so the new source is not touched
            exact exec_releaseAll _
    · rw [if_neg hactive, if_pos (by rw [Bool.of_not_eq_true hactive]; rfl)]
      exact exec_releaseAll _
  · rw [if_neg hlock] at hlocks
    rw [exec_bind_of hlocks, if_neg (by decide), if_pos hlock]
    exact exec_releaseSelection _

theorem exec_iUpdateAudioScrSelected (bIsSelected : Bool) :
    (iUpdateAudioScrSelected crc32 id.val bIsSelected).exec o ⟨r, []⟩
      = if !r.bAudioSrcMutexesInitialized then (-EACCES, ⟨r, []⟩)
        else if !o.lock .selection then (-EBUSY, ⟨r, []⟩)
        else if bIsSelected then
          (select crc32 (AudioSrc.eFindSelectedAudioSrc r.staAudioSrcConfigs) id).exec o
            ⟨r, [.selection]⟩
        else (unselect crc32 id).exec o ⟨r, [.selection]⟩ := by
  unfold iUpdateAudioScrSelected
  rw [withSource_val, exec_bind_of Prog.exec_read]
  cases hinit : r.bAudioSrcMutexesInitialized with
  | false => rfl
  | true =>
      rw [if_pos rfl, if_neg (by decide)]
      by_cases hlock : o.lock .selection = true
      · rw [exec_bind_of (Prog.exec_mutexLock_ok hlock), if_pos rfl,
          exec_bind_of (exec_eFindSelectedAudioSrc _)]
        have hgranted : ¬ (!o.lock .selection) = true := by
          rw [hlock]
          decide
        rw [if_neg hgranted]
        split <;> rfl
      · rw [exec_bind_of (Prog.exec_mutexLock_fails hlock), if_neg Bool.false_ne_true,
          if_pos (by rw [Bool.of_not_eq_true hlock]; rfl)]
        rfl

theorem exec_vCopyAudioSrcConfiguration (c : AudioSourceConfig) :
    (vCopyAudioSrcConfiguration id c).exec o ⟨r, held⟩ = ((), ⟨r.setEntry id c, held⟩) := by
  unfold vCopyAudioSrcConfiguration store Ram.setEntry
  simp only [exec_bind_of Prog.exec_write, Prog.exec_write, Function.update_self,
    Function.update_idem]

theorem exec_configure (puiData : List UInt8) (c : AudioSourceConfig) :
    (configure puiData id c).exec o ⟨r, []⟩
      = if !o.lock .selection then (-EBUSY, ⟨r, []⟩)
        else if ¬ Lockable o (some id) id then (-EBUSY, ⟨r, []⟩)
        else
          let eSelectedSrcId := AudioSrc.eFindSelectedAudioSrc r.staAudioSrcConfigs
          if c.bIsSelected && eSelectedSrcId.isSome && eSelectedSrcId ≠ some id then
            (-EALREADY, ⟨r, []⟩)
          else if (o.answer (.write id puiData)).iResult ≠ 0 then (- EIO, ⟨r, []⟩)
          else (0, ⟨r.setEntry id c, []⟩) := by
  unfold configure
  by_cases hselection : o.lock .selection = true
  · rw [exec_bind_of (Prog.exec_mutexLock_ok hselection), if_pos rfl,
      if_neg (by rw [hselection]; decide)]
    have hlocks : (iLockAudioSources (some id) id).exec o ⟨r, [.selection]⟩ = _ :=
      exec_iLockAudioSources
    by_cases hlock : Lockable o (some id) id
    · rw [if_pos hlock] at hlocks
      rw [exec_bind_of hlocks, if_pos rfl, if_neg (not_not.mpr hlock),
        exec_bind_of (exec_eFindSelectedAudioSrc _)]
      dsimp only
      split
      · exact exec_releaseAll _
      · rw [exec_bind_of Prog.exec_call]
        by_cases hzero : (o.answer (.write id puiData)).iResult = 0
        · rw [if_pos hzero, if_neg (not_not.mpr hzero),
            exec_bind_of (exec_vCopyAudioSrcConfiguration c)]
          exact exec_releaseAll _
        · rw [if_neg hzero, if_pos hzero]
          exact exec_releaseAll _
    · rw [if_neg hlock] at hlocks
      rw [exec_bind_of hlocks, if_neg (by decide), if_pos hlock]
      exact exec_releaseSelection _
  · rw [exec_bind_of (Prog.exec_mutexLock_fails hselection), if_neg Bool.false_ne_true,
      if_pos (by rw [Bool.of_not_eq_true hselection]; rfl)]
    rfl

theorem exec_iUpdateAudioSrcConfigurations (puiData : List UInt8) :
    (iUpdateAudioSrcConfigurations crc32 puiData id.val).exec o ⟨r, []⟩
      = if puiData.length ≠ AUDIO_SOURCE_CONFIG_RECORD_SIZE then (-EINVAL, ⟨r, []⟩)
        else if !r.bAudioSrcMutexesInitialized then (-EACCES, ⟨r, []⟩)
        else
          match decodeBytes crc32 id puiData with
          | none => (-EINVAL, ⟨r, []⟩)
          | some c => (configure puiData id c).exec o ⟨r, []⟩ := by
  unfold iUpdateAudioSrcConfigurations
  split
  · rfl
  rw [withSource_val, exec_bind_of Prog.exec_read]
  cases hinit : r.bAudioSrcMutexesInitialized with
  | false => rfl
  | true =>
      rw [if_pos rfl, if_neg (by decide)]
      cases decodeBytes crc32 id puiData with
      | none => rfl
      | some c => rfl

end WallController.AudioSrc.Concurrent
