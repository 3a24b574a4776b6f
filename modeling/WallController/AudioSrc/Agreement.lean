/-
  WallController.AudioSrc.Agreement
  ────────────────────────────────
  **THE TABLE AGREES WITH ITS FILES.**

  The operations write through from the table, and encoding and decoding are
  inverse; so without file-system errors every file is decoded to the entry
  of its source, and a save changes only its own field of the record.  The
  one exception is the host: a transfer replaces the file, and nothing
  reloads the table.

  Main results:
    * `table_agrees`: as long as every transferred record is decoded to the
      entry in the table.
    * `table_disagrees`: a transfer of another record is forgotten by the
      table, and reverted by the next save.
-/
import WallController.AudioSrc.Selection

namespace WallController.AudioSrc

open WallController.Lib

variable (crc32 : List UInt8 → UInt32)

/-! ## §1. The runs. -/

/-- The runs from a successful load. -/
def loadedSystem : TransSys Store Operation where
  init s := ∃ files, loads crc32 files = true ∧ s = Store.boot crc32 files
  step s a s' := s' = s.step crc32 a

/-- No file-system errors, and valid records only. -/
def Healthy (s : Store) (a : Operation) : Prop := a.write = .ok ∧ ValidTransfer crc32 s a

instance (s : Store) (a : Operation) : Decidable (Healthy crc32 s a) :=
  inferInstanceAs (Decidable (_ ∧ _))

/-- No file-system errors, and a transfer only of what the table holds already. -/
def KeepsAgreement (s : Store) : Operation → Prop
  | .transfer id data => decodeBytes crc32 id data = some (s.staAudioSrcConfigs id)
  | a => a.write = .ok

instance (s : Store) (a : Operation) : Decidable (KeepsAgreement crc32 s a) :=
  match a with
  | .transfer id data => inferInstanceAs (Decidable (decodeBytes crc32 id data = _))
  | .mute _ _ _ | .volume _ _ _ | .select _ _ _ | .finishSelect _ | .configure _ _ _ | .reboot =>
      inferInstanceAs (Decidable (_ = WriteResult.ok))

/-- Every file is decoded to the entry of its source. -/
def TableAgrees (s : Store) : Prop :=
  ∀ id, Store.readEntry crc32 s.files id = some (s.staAudioSrcConfigs id)

/-- A step that succeeds changes only its own field of each stored record. -/
def SavesOwnField (s : Store) : Prop :=
  ∀ a, KeepsAgreement crc32 s a → ∀ id c, Store.readEntry crc32 s.files id = some c →
    ∃ c', Store.readEntry crc32 (s.step crc32 a).files id = some c' ∧ a.Owns c c'

variable {crc32} {s : Store} {a : Operation}

/-! ## §2. The invariant. -/

theorem owns_refl (a : Operation) (c : AudioSourceConfig) : a.Owns c c := by
  cases a <;> trivial

/-- The step lemma for the table. -/
theorem table_owns (hs : Sound s) (a : Operation) (id : AudioSrcId) :
    a.Owns (s.staAudioSrcConfigs id) ((s.step crc32 a).staAudioSrcConfigs id) := by
  have heff := step_effect crc32 hs a
  generalize s.step crc32 a = s' at heff
  cases heff with
  | nothing h =>
    rw [show s'.staAudioSrcConfigs = s.staAudioSrcConfigs from congrArg WriteThrough.cache h]
    exact owns_refl a _
  | transferred i b ha h =>
    subst ha
    trivial
  | rebooted ha h =>
    subst ha
    trivial
  | saved i c b o h facts =>
    rw [show s'.staAudioSrcConfigs = (s.cached.save i c b o).cache from
      congrArg WriteThrough.cache h]
    cases o with
    | refused | misreported => exact owns_refl a _
    | done =>
      show a.Owns (s.staAudioSrcConfigs id) (Function.update s.staAudioSrcConfigs i c id)
      by_cases hid : id = i
      · subst hid
        rw [Function.update_self]
        exact facts.owns
      · rw [Function.update_of_ne hid]
        exact owns_refl a _

/-- A table that agrees with its files is loaded again. -/
theorem loads_of_agrees (hs : Sound s) (h : TableAgrees crc32 s) :
    loads crc32 s.files = true := by
  have hagrees : s.cached.Agrees (decodeBytes crc32) := h
  refine loads_of_single (fun id => ?_) ?_
  · rw [h id]
    rfl
  · show (s.cached.storedMarks (decodeBytes crc32) Marked).Subsingleton
    rw [hagrees.storedMarks_eq]
    exact hs.single

/-- The step lemma for the agreement. -/
theorem agrees_step (hs : Sound s) (h : TableAgrees crc32 s) (hok : KeepsAgreement crc32 s a) :
    TableAgrees crc32 (s.step crc32 a) := by
  have hagrees : s.cached.Agrees (decodeBytes crc32) := h
  have heff := step_effect crc32 hs a
  have hload := loads_of_agrees hs h
  show (s.step crc32 a).cached.Agrees (decodeBytes crc32)
  generalize s.step crc32 a = s' at heff
  cases heff with
  | nothing hs' => exact hs' ▸ hagrees
  | transferred i b ha hs' =>
    subst ha
    rw [hs']
    exact hagrees.overwrite_iff.mpr hok
  | rebooted ha hs' =>
    rw [hs']
    rcases boot_cases crc32 s.files with ⟨-, hboot, -⟩ | ⟨hfail, -⟩
    · exact hboot
    · exact absurd (hload.symm.trans hfail) (by simp)
  | saved i c b o hs' facts =>
    have hw : a.write = .ok := by
      cases a with
      | transfer id data => rfl
      | _ => exact hok
    have hfile : s.files i ≠ none := by
      intro hnone
      have := h i
      simp [Store.readEntry, hnone] at this
    have ho : o = .done := by
      rw [facts.outcome, writeOutcome, if_neg hfile, hw]
      rfl
    rw [hs', ho]
    exact hagrees.save facts.read

theorem agrees_of_reachable (h : (loadedSystem crc32).ReachableVia (KeepsAgreement crc32) s) :
    Sound s ∧ TableAgrees crc32 s := by
  refine TransSys.ReachableVia.invariant (I := fun s => Sound s ∧ TableAgrees crc32 s) ?_ ?_ h
  · rintro s ⟨files, hload, rfl⟩
    refine ⟨sound_boot files, ?_⟩
    rcases boot_cases crc32 files with ⟨-, hboot, -⟩ | ⟨hfail, -⟩
    · exact hboot
    · exact absurd (hload.symm.trans hfail) (by simp)
  · rintro s a s' ⟨hs, hagrees⟩ hok rfl
    exact ⟨hs.step a, agrees_step hs hagrees hok⟩

/-- **The table agrees with its files** in every state of the runs from a successful
load without file-system errors in which the host transfers only what the
table holds already, and every step changes only its own field of the stored
records. -/
theorem table_agrees (h : (loadedSystem crc32).ReachableVia (KeepsAgreement crc32) s) :
    TableAgrees crc32 s ∧ SavesOwnField crc32 s := by
  obtain ⟨hs, hagrees⟩ := agrees_of_reachable h
  refine ⟨hagrees, fun a hok id c hc => ?_⟩
  have hentry : s.staAudioSrcConfigs id = c := Option.some.inj ((hagrees id).symm.trans hc)
  refine ⟨_, agrees_step hs hagrees hok id, ?_⟩
  rw [← hentry]
  exact table_owns hs a id

/-- The selection moves, the volume and a record are updated, the host transfers the
record of an entry, and power is lost. -/
theorem table_agrees_updated :
    TableAgrees crc32Ieee
        ([.select 1 true .ok, .finishSelect .ok, .volume 1 30 .ok,
          .configure (sampleRecord 2 false 55) 2 .ok, .transfer 1 (sampleRecord 1 true 30),
          .reboot].foldl (Store.step crc32Ieee) (Store.boot crc32Ieee sampleFiles))
      ∧ SavesOwnField crc32Ieee
        ([.select 1 true .ok, .finishSelect .ok, .volume 1 30 .ok,
          .configure (sampleRecord 2 false 55) 2 .ok, .transfer 1 (sampleRecord 1 true 30),
          .reboot].foldl (Store.step crc32Ieee) (Store.boot crc32Ieee sampleFiles)) := by
  have hboot : (loadedSystem crc32Ieee).ReachableVia (KeepsAgreement crc32Ieee)
      (Store.boot crc32Ieee sampleFiles) := .init ⟨sampleFiles, loads_sampleFiles, rfl⟩
  exact table_agrees (TransSys.ReachableVia.foldl (fun _ _ => rfl) hboot _ (by decide +kernel))

/-- The host transfers a record with another volume: the table does not follow, and
the next save of the mute flag reverts the volume. -/
theorem table_disagrees :
    ¬ ∀ s, (loadedSystem crc32Ieee).ReachableVia (Healthy crc32Ieee) s →
      TableAgrees crc32Ieee s ∧ SavesOwnField crc32Ieee s := by
  intro h
  have hboot : (loadedSystem crc32Ieee).ReachableVia (Healthy crc32Ieee)
      (Store.boot crc32Ieee sampleFiles) := .init ⟨sampleFiles, loads_sampleFiles, rfl⟩
  have hreach : (loadedSystem crc32Ieee).ReachableVia (Healthy crc32Ieee)
      ([.transfer 1 (sampleRecord 1 false 40)].foldl (Store.step crc32Ieee)
        (Store.boot crc32Ieee sampleFiles)) :=
    TransSys.ReachableVia.foldl (fun _ _ => rfl) hboot _ (by decide +kernel)
  obtain ⟨c', hc', howns⟩ := (h _ hreach).2 (.mute 1 true .ok) rfl 1 (sampleEntry 1 false 40)
    (by decide +kernel)
  have hreverted : Store.readEntry crc32Ieee
      ((([.transfer 1 (sampleRecord 1 false 40)].foldl (Store.step crc32Ieee)
        (Store.boot crc32Ieee sampleFiles)).step crc32Ieee (.mute 1 true .ok)).files) 1
      = some { sampleEntry 1 false 10 with bIsMute := true } := by decide +kernel
  rw [hreverted] at hc'
  cases hc'
  have howns : ({ sampleEntry 1 false 10 with bIsMute := true } : AudioSourceConfig)
      = { sampleEntry 1 false 40 with bIsMute := true } := howns
  exact absurd (congrArg AudioSourceConfig.uiVolume howns) (by decide)

end WallController.AudioSrc
