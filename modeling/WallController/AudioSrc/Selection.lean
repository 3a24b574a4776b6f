/-
  WallController.AudioSrc.Selection
  ────────────────────────────────
  **AT MOST ONE PERSISTED SELECTION.**

  In memory at most one source is selected, whatever happens (`Sound`).  The
  files follow as long as only what is selected in memory is selected in a
  file (`Covered`).  Three things break this: a host transfer of a SELECTED
  record for a source that the table holds unselected; a write of a new
  selection that is stored and reported as failed, so that the table is
  restored to unselected; and a power-up whose load fails while a file is
  SELECTED.

  Main results:
    * `one_selected`: without these, at most one file is SELECTED in every
      state of every run, and the next load does not fail for two.
    * `not_one_selected`: a host transfer leaves two.
-/
import WallController.AudioSrc.Effects
import Mathlib

namespace WallController.AudioSrc

open WallController.Lib

variable (crc32 : List UInt8 → UInt32)

/-! ## §1. The runs. -/

/-- The files that carry the SELECTED flag. -/
def selectedFiles (files : SourceFiles) : Set AudioSrcId :=
  {id | ∃ c, Store.readEntry crc32 files id = some c ∧ Marked c}

/-- The table learns of a selection at power-up, if there is one. -/
def KnownAtBoot (files : SourceFiles) : Prop :=
  loads crc32 files = true ∨ ∀ id, ∀ c ∈ Store.readEntry crc32 files id, ¬ Marked c

instance (files : SourceFiles) : Decidable (KnownAtBoot crc32 files) :=
  inferInstanceAs (Decidable (_ ∨ _))

def configSystem : TransSys Store Operation where
  init s := ∃ files, KnownAtBoot crc32 files ∧ s = Store.boot crc32 files
  step s a s' := s' = s.step crc32 a

/-- At most one file is SELECTED, and where the four files are valid records the
load succeeds. -/
def OneSelected (s : Store) : Prop :=
  (selectedFiles crc32 s.files).Subsingleton
    ∧ ((∀ id, (Store.readEntry crc32 s.files id).isSome) → loads crc32 s.files = true)

/-- A host transfer of a Config file that is a valid record for its source. -/
def ValidTransfer (_ : Store) : Operation → Prop
  | .transfer id data => (decodeBytes crc32 id data).isSome
  | _ => True

instance (s : Store) (a : Operation) : Decidable (ValidTransfer crc32 s a) :=
  match a with
  | .transfer _ _ => inferInstanceAs (Decidable (_ = true))
  | .mute _ _ _ | .volume _ _ _ | .select _ _ _ | .finishSelect _ | .configure _ _ _ | .reboot =>
      isTrue trivial

/-- A step that selects in the files only what is selected in the table. -/
def KeepsSelection (s : Store) : Operation → Prop
  | .transfer id data =>
      ∀ c ∈ decodeBytes crc32 id data, Marked c → Marked (s.staAudioSrcConfigs id)
  | .reboot => KnownAtBoot crc32 s.files
  | a => s.writesNewSelection crc32 a = true → a.write.outcome ≠ .misreported

instance (s : Store) (a : Operation) : Decidable (KeepsSelection crc32 s a) :=
  match a with
  | .transfer id data => inferInstanceAs (Decidable (∀ c ∈ decodeBytes crc32 id data, _ → _))
  | .reboot => inferInstanceAs (Decidable (KnownAtBoot crc32 s.files))
  | .mute _ _ _ | .volume _ _ _ | .select _ _ _ | .finishSelect _ | .configure _ _ _ =>
      inferInstanceAs (Decidable (_ → _))

/-! ## §2. The invariant. -/

variable {crc32} {s s' : Store} {a : Operation}

/-- At power-up. -/
theorem covered_boot {files : SourceFiles} (h : KnownAtBoot crc32 files) :
    (Store.boot crc32 files).cached.Covered (decodeBytes crc32) Marked := by
  rcases boot_cases crc32 files with ⟨-, hagrees, hsingle⟩ | ⟨hfail, hzero⟩
  · exact hagrees.covered (hagrees.storedMarks_eq (m := Marked) ▸ hsingle)
  · refine ⟨(sound_boot files).single, ?_⟩
    rintro i ⟨c, hc, hm⟩
    rcases h with h | h
    · exact absurd (h.symm.trans hfail) (by simp)
    · have hc : Store.readEntry crc32 (Store.boot crc32 files).files i = some c := hc
      rw [boot_files] at hc
      exact absurd hm (h i c hc)

theorem KeepsSelection.write (hok : KeepsSelection crc32 s a)
    (hnew : s.writesNewSelection crc32 a = true) : a.write.outcome ≠ .misreported := by
  cases a with
  | transfer id data | reboot => cases hnew
  | _ => exact hok hnew

theorem outcome_of_misreported {files : SourceFiles} {id : AudioSrcId} {w : WriteResult}
    (h : writeOutcome files id w = .misreported) : w.outcome = .misreported := by
  unfold writeOutcome at h
  split at h
  · cases h
  · exact h

/-- The step lemma. -/
theorem covered_step (hs : Sound s) (h : s.cached.Covered (decodeBytes crc32) Marked)
    (hok : KeepsSelection crc32 s a) :
    (s.step crc32 a).cached.Covered (decodeBytes crc32) Marked := by
  have heff := step_effect crc32 hs a
  generalize s.step crc32 a = s' at heff
  cases heff with
  | nothing hs' => exact hs' ▸ h
  | transferred i b ha hs' =>
    subst ha
    rw [hs']
    exact h.overwrite fun c hc hm => hok c hc hm
  | rebooted ha hs' =>
    subst ha
    rw [hs']
    exact covered_boot hok
  | saved i c b o hs' facts =>
    rw [hs']
    refine h.save facts.read facts.single fun ho hm => ?_
    rcases facts.fresh hm with hold | hnew
    · exact hold
    · exact absurd (outcome_of_misreported (facts.outcome.symm.trans ho)) (hok.write hnew)

theorem covered_of_reachable (h : (configSystem crc32).ReachableVia (KeepsSelection crc32) s) :
    Sound s ∧ s.cached.Covered (decodeBytes crc32) Marked := by
  refine TransSys.ReachableVia.invariant
    (I := fun s => Sound s ∧ s.cached.Covered (decodeBytes crc32) Marked) ?_ ?_ h
  · rintro s ⟨files, hknown, rfl⟩
    exact ⟨sound_boot files, covered_boot hknown⟩
  · rintro s a s' ⟨hs, hc⟩ hok rfl
    exact ⟨hs.step a, covered_step hs hc hok⟩

/-- **At most one file is SELECTED**, in every state of the runs in which no host
transfer and no misreported write selects in a file what the table does not
hold as selected, and no power-up with a SELECTED file fails to load: the
next load does not fail because of two selected sources. -/
theorem one_selected (h : (configSystem crc32).ReachableVia (KeepsSelection crc32) s) :
    OneSelected crc32 s := by
  have hsingle : (selectedFiles crc32 s.files).Subsingleton :=
    (covered_of_reachable h).2.storedMarks
  exact ⟨hsingle, fun hvalid => loads_of_single hvalid hsingle⟩

/-! ## §3. Runs. -/

/-- A source with a one-letter name. -/
def sampleEntry (id : AudioSrcId) (bIsSelected : Bool) (uiVolume : UInt16) : AudioSourceConfig where
  eSrcId := id
  eSrcType := .wired
  caSrcName := copyName (Vector.replicate _ 0x41) 1
  bIsActive := true
  bIsMute := false
  bIsSelected := bIsSelected
  uiVolume := uiVolume

/-- The record of a sample entry. -/
def sampleRecord (id : AudioSrcId) (bIsSelected : Bool) (uiVolume : UInt16) : List UInt8 :=
  ((sampleEntry id bIsSelected uiVolume).record.seal crc32Ieee).toBytes

/-- Four valid files, with the first source selected. -/
def sampleFiles : SourceFiles := fun id => some (sampleRecord id (id = 0) 10)

theorem loads_sampleFiles : loads crc32Ieee sampleFiles = true := by decide +kernel

theorem reachable_boot {ok : Store → Operation → Prop} {files : SourceFiles}
    (h : loads crc32 files = true) :
    (configSystem crc32).ReachableVia ok (Store.boot crc32 files) :=
  .init ⟨files, Or.inl h, rfl⟩

/-- Another source is selected, with a volume update between the two writes; a mute
is misreported; the host transfers an unselected record; power is lost. -/
theorem one_selected_reselected :
    OneSelected crc32Ieee
      ([.select 1 true .ok, .volume 2 30 .ok, .finishSelect .ok, .mute 1 true (.failed (- EIO) true),
        .transfer 3 (sampleRecord 3 false 20), .reboot].foldl (Store.step crc32Ieee)
        (Store.boot crc32Ieee sampleFiles)) :=
  one_selected (TransSys.ReachableVia.foldl (fun _ _ => rfl) (reachable_boot loads_sampleFiles) _
    (by decide +kernel))

/-- The host transfers a valid SELECTED record while another source is selected. -/
theorem not_one_selected :
    ¬ ∀ s, (configSystem crc32Ieee).ReachableVia (ValidTransfer crc32Ieee) s →
      OneSelected crc32Ieee s := by
  intro h
  have hreach : (configSystem crc32Ieee).ReachableVia (ValidTransfer crc32Ieee)
      ([.transfer 1 (sampleRecord 1 true 10)].foldl (Store.step crc32Ieee)
        (Store.boot crc32Ieee sampleFiles)) :=
    TransSys.ReachableVia.foldl (fun _ _ => rfl) (reachable_boot loads_sampleFiles) _
      (by decide +kernel)
  have htwo : (0 : AudioSrcId) = 1 := (h _ hreach).1
    ⟨sampleEntry 0 true 10, by decide +kernel, rfl⟩
    ⟨sampleEntry 1 true 10, by decide +kernel, rfl⟩
  cases htwo

end WallController.AudioSrc
