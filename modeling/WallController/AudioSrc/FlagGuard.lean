/-
  WallController.AudioSrc.FlagGuard
  ────────────────────────────────
  **THE SELECTION MUTEX GUARDS THE FLAGS.**

  The flags ACTIVE and SELECTED of the table change only in a thread that owns
  `kMutex_AudioSrcSelection`, and every exit of a call unlocks it where at most
  one source is selected, an active one: the restored flags of a failed write
  are the flags before it.

  The source mutexes alone would not do: the first loads may initialise a
  source mutex while it is held.

  Main result: `safe_program`, for each call.
-/
import WallController.AudioSrc.Concurrent
import WallController.AudioSrc.Effects

namespace WallController.AudioSrc.Concurrent

open WallController.Lib Prog

/-! ## §1. The flags. -/

/-- The flags ACTIVE and SELECTED of the sources. -/
abbrev Flags := AudioSrcId → Bool × Bool

def Ram.flags (r : Ram) : Flags :=
  fun id => ((r.staAudioSrcConfigs id).bIsActive, (r.staAudioSrcConfigs id).bIsSelected)

namespace Flags

/-- Set the flag SELECTED. -/
def select (F : Flags) (id : AudioSrcId) (b : Bool) : Flags := Function.update F id ((F id).1, b)

/-- At most one source is selected, and it is active. -/
structure Consistent (F : Flags) : Prop where
  single : ∀ i j, (F i).2 = true → (F j).2 = true → i = j
  active : ∀ i, (F i).2 = true → (F i).1 = true

variable {F : Flags} {id i : AudioSrcId} {b b' : Bool}

theorem select_self (h : (F id).2 = b) : F.select id b = F := by
  subst h
  exact Function.update_eq_self id F

theorem select_apply_self : (F.select id b) id = ((F id).1, b) := Function.update_self ..

theorem select_apply_of_ne (h : i ≠ id) : (F.select id b) i = F i := Function.update_of_ne h ..

@[simp] theorem select_select : (F.select id b).select id b' = F.select id b' := by
  unfold select
  rw [Function.update_self, Function.update_idem]

/-- The change of one flag leaves ACTIVE as it is. -/
theorem select_fst : (F.select id b i).1 = (F i).1 := by
  by_cases h : i = id
  · rw [h, select_apply_self]
  · rw [select_apply_of_ne h]

theorem selected_of_unselect (h : (F.select id false i).2 = true) : (F i).2 = true ∧ i ≠ id := by
  by_cases hi : i = id
  · rw [hi, select_apply_self] at h
    cases h
  · rw [select_apply_of_ne hi] at h
    exact ⟨h, hi⟩

/-- A source is unselected. -/
theorem Consistent.unselect (h : F.Consistent) : (F.select id false).Consistent where
  single i j hi hj := h.single i j (selected_of_unselect hi).1 (selected_of_unselect hj).1
  active i hi := by
    rw [select_fst]
    exact h.active i (selected_of_unselect hi).1

/-- Where no other source is selected, an active source may be. -/
theorem Consistent.update (h : F.Consistent) (hothers : b = true → ∀ i, (F i).2 = true → i = id)
    {a : Bool} (hactive : b = true → a = true) :
    Consistent (Function.update F id (a, b)) := by
  have hself : ∀ i, (Function.update F id (a, b) i).2 = true → i ≠ id → (F i).2 = true := by
    intro i hi hne
    rw [Function.update_of_ne hne] at hi
    exact hi
  have hselected : (Function.update F id (a, b) id).2 = true → b = true := by
    intro hid
    rw [Function.update_self] at hid
    exact hid
  constructor
  · intro i j hi hj
    by_cases hii : i = id
    · subst hii
      by_cases hji : j = i
      · exact hji.symm
      · exact (hothers (hselected hi) j (hself j hj hji)).symm
    · by_cases hji : j = id
      · subst hji
        exact hothers (hselected hj) i (hself i hi hii)
      · exact h.single i j (hself i hi hii) (hself j hj hji)
  · intro i hi
    by_cases hii : i = id
    · subst hii
      rw [Function.update_self]
      exact hactive (hselected hi)
    · rw [Function.update_of_ne hii]
      exact h.active i (hself i hi hii)

end Flags

/-! ## §2. The helpers. -/

/-- The flags are those of the table, guarded by the selection mutex. -/
abbrev Safe {ρ : Type} (p : Program ρ) (own : Option Flags) (Q : ρ → Option Flags → Prop) : Prop :=
  p.Guarded .selection Ram.flags Flags.Consistent own Q

variable {crc32 : List UInt8 → UInt32} {own : Option Flags} {F : Flags} {id : AudioSrcId}
  {ids : List AudioSrcId}

theorem flags_update (r : Ram) (id : AudioSrcId) (c : AudioSourceConfig) :
    Ram.flags { r with staAudioSrcConfigs := Function.update r.staAudioSrcConfigs id c }
      = Function.update r.flags id (c.bIsActive, c.bIsSelected) := by
  funext i
  by_cases h : i = id
  · subst h
    simp only [Ram.flags, Function.update_self]
  · simp only [Ram.flags, Function.update_of_ne h]

/-- A store beside the flags. -/
theorem safe_store {f : AudioSourceConfig → AudioSourceConfig} {Q : Unit → Option Flags → Prop}
    (hactive : ∀ c, (f c).bIsActive = c.bIsActive)
    (hselected : ∀ c, (f c).bIsSelected = c.bIsSelected) (h : Q () own) :
    Safe (store id f) own Q := by
  refine guarded_write (fun r => ?_) h
  rw [flags_update, hactive, hselected]
  exact Function.update_eq_self id r.flags

/-- A store of the flags by the owner. -/
theorem safe_store_some {f : AudioSourceConfig → AudioSourceConfig} {a b : Bool}
    {Q : Unit → Option Flags → Prop}
    (hf : ∀ c, (c.bIsActive, c.bIsSelected) = F id → ((f c).bIsActive, (f c).bIsSelected) = (a, b))
    (h : Q () (some (Function.update F id (a, b)))) :
    Safe (store id f) (some F) Q := by
  refine guarded_write_some fun r hr => ?_
  rw [flags_update, hf _ (congrFun hr id), hr]
  exact h

/-- The store of the flag SELECTED. -/
theorem safe_store_select {b : Bool} {Q : Unit → Option Flags → Prop}
    (h : Q () (some (F.select id b))) :
    Safe (store id fun e => { e with bIsSelected := b }) (some F) Q := by
  refine safe_store_some (fun c hc => ?_) h
  rw [← hc]

theorem safe_load {β : Type} {field : AudioSourceConfig → β} {Q : β → Option Flags → Prop}
    (h : ∀ x, Q x own) : Safe (load id field) own Q :=
  guarded_read fun _ => h _

/-- The owner of the selection mutex reads the flags it knows. -/
theorem safe_load_selected {Q : Bool → Option Flags → Prop} (h : Q (F id).2 (some F)) :
    Safe (load id (·.bIsSelected)) (some F) Q := by
  refine guarded_read_some fun r hr => ?_
  subst hr
  exact h

theorem safe_load_active {Q : Bool → Option Flags → Prop} (h : Q (F id).1 (some F)) :
    Safe (load id (·.bIsActive)) (some F) Q := by
  refine guarded_read_some fun r hr => ?_
  subst hr
  exact h

theorem safe_unlockEach {Q : Unit → Option Flags → Prop} (h : Q () own) :
    Safe (unlockEach ids) own Q := by
  induction ids with
  | nil => exact h
  | cons id ids ih => exact .bind_eq (guarded_mutexUnlock (by simp) fun _ => rfl) fun _ => ih

theorem safe_lockEach {wanted : AudioSrcId → Bool} {rollback : List AudioSrcId → List AudioSrcId}
    {locked : List AudioSrcId} {Q : Int → Option Flags → Prop} (h : ∀ r, Q r own) :
    Safe (lockEach wanted rollback ids locked) own Q := by
  induction ids generalizing locked with
  | nil => exact h 0
  | cons id ids ih =>
      unfold lockEach
      split
      · refine .bind_eq (guarded_mutexLock (by simp) fun _ => rfl) fun b => ?_
        cases b with
        | true => exact ih
        | false => exact .bind_eq (safe_unlockEach rfl) fun _ => h _
      · exact ih

/-- A file update only reads the entry. -/
theorem safe_updateFile {Q : Int → Option Flags → Prop} (h : ∀ r, Q r own) :
    Safe (iUpdateAudioSrcFile crc32 id) own Q := by
  have hload : ∀ {β : Type} (field : AudioSourceConfig → β) (f : β → Program Int),
      (∀ x, Safe (f x) own Q) → Safe (load id field >>= f) own Q :=
    fun field f hf => .bind_eq (safe_load fun _ => rfl) hf
  unfold iUpdateAudioSrcFile
  refine hload _ _ fun caSrcName => hload _ _ fun uiVolume => hload _ _ fun eSrcType => ?_
  refine hload _ _ fun eSrcId => hload _ _ fun bIsActive => hload _ _ fun bIsMute => ?_
  refine hload _ _ fun bIsSelected => ?_
  split
  · exact h _
  · refine hload _ _ fun ePathId => ?_
    exact .bind_eq (guarded_call fun _ => rfl) fun r => h r.iResult

/-- The flags after a save are as before it, or restored. -/
theorem safe_saveOrRestore {restore : AudioSourceConfig → AudioSourceConfig}
    {Q : Int → Option Flags → Prop} (hok : Q 0 own)
    (hfails : ∀ r, r ≠ 0 → Safe (store id restore) own fun _ own' => Q r own') :
    Safe (saveOrRestore crc32 id restore) own Q := by
  refine .bind_eq (safe_updateFile fun _ => rfl) fun r => ?_
  by_cases hr : r = 0
  · rw [if_pos hr]
    exact hok
  · rw [if_neg hr]
    exact .bind (hfails r hr) fun _ _ h => h

/-- A save of a field beside the flags. -/
theorem safe_saveOrRestore_beside {restore : AudioSourceConfig → AudioSourceConfig}
    (hactive : ∀ c, (restore c).bIsActive = c.bIsActive)
    (hselected : ∀ c, (restore c).bIsSelected = c.bIsSelected) :
    Safe (saveOrRestore crc32 id restore) own fun _ own' => own' = own :=
  safe_saveOrRestore rfl fun _ _ => safe_store hactive hselected rfl

/-- The search for the selected source. -/
theorem safe_findSelected {Q : Option AudioSrcId → Option Flags → Prop}
    (hsome : ∀ i, (F i).2 = true → Q (some i) (some F))
    (hnone : (∀ i ∈ ids, (F i).2 = false) → Q none (some F)) :
    Safe (findSelected ids) (some F) Q := by
  induction ids with
  | nil => exact hnone fun i hi => absurd hi List.not_mem_nil
  | cons id ids ih =>
      refine .bind (Q := fun b own => b = (F id).2 ∧ own = some F)
        (safe_load_selected ⟨rfl, rfl⟩) ?_
      rintro _ _ ⟨rfl, rfl⟩
      by_cases hid : (F id).2 = true
      · rw [if_pos hid]
        exact hsome id hid
      · rw [if_neg hid]
        refine ih fun hids => hnone fun i hi => ?_
        rcases List.mem_cons.mp hi with rfl | hi
        · exact Bool.eq_false_iff.mpr hid
        · exact hids i hi

/-- What the search returns. -/
structure Finds (F : Flags) (eSelected : Option AudioSrcId) : Prop where
  some : ∀ i, eSelected = some i → (F i).2 = true
  none : eSelected = none → ∀ i, (F i).2 = false

theorem safe_find : Safe eFindSelectedAudioSrc (some F) fun r own => Finds F r ∧ own = some F := by
  refine safe_findSelected (fun i hi => ⟨⟨?_, fun h => by cases h⟩, rfl⟩) fun h => ⟨⟨?_, ?_⟩, rfl⟩
  · intro j hj
    obtain rfl : i = j := Option.some.inj hj
    exact hi
  · intro j hj
    cases hj
  · exact fun _ i => h i (List.mem_finRange i)

/-- The end of a call, where the flags are consistent. -/
theorem safe_unlockSelection {ρ : Type} {r : ρ} {Q : ρ → Option Flags → Prop}
    (hF : F.Consistent) (h : Q r none) :
    Safe (do let _ ← .mutexUnlock .selection; return r) (some F) Q :=
  .bind_eq (guarded_mutexUnlock_self hF fun _ => rfl) fun _ => h

theorem safe_releaseAll {eFirst : Option AudioSrcId} {iResult : Int} (hF : F.Consistent) :
    Safe (releaseAll eFirst id iResult) (some F) fun _ own => own = none :=
  .bind_eq (safe_unlockEach rfl) fun _ => safe_unlockSelection hF rfl

/-- The copy of an entry brings both flags. -/
theorem safe_copy {c : AudioSourceConfig} :
    Safe (vCopyAudioSrcConfiguration id c) (some F) fun _ own =>
      own = some (Function.update F id (c.bIsActive, c.bIsSelected)) := by
  unfold vCopyAudioSrcConfiguration
  refine .bind_eq (safe_store (fun _ => rfl) (fun _ => rfl) rfl) fun _ => ?_
  refine .bind_eq (safe_store (fun _ => rfl) (fun _ => rfl) rfl) fun _ => ?_
  refine .bind_eq (safe_store (fun _ => rfl) (fun _ => rfl) rfl) fun _ => ?_
  refine .bind_eq (safe_store_some (a := c.bIsActive) (b := (F id).2) (fun e he => ?_) rfl)
    fun _ => ?_
  · rw [← he]
  refine .bind_eq (safe_store (fun _ => rfl) (fun _ => rfl) rfl) fun _ => ?_
  refine .bind_eq (safe_store_some (a := c.bIsActive) (b := c.bIsSelected) (fun e he => ?_) rfl)
    fun _ => ?_
  · rw [Function.update_self] at he
    rw [← (Prod.mk.inj he).1]
  rw [Function.update_idem]
  exact safe_store (fun _ => rfl) (fun _ => rfl) rfl

theorem safe_copyEach {staTemp : AudioSrcId → AudioSourceConfig} {Q : Unit → Option Flags → Prop}
    (h : ∀ F' : Flags, (∀ i ∈ ids, F' i = ((staTemp i).bIsActive, (staTemp i).bIsSelected)) →
      (∀ i, i ∉ ids → F' i = F i) → Q () (some F')) :
    Safe (copyEach staTemp ids) (some F) Q := by
  induction ids generalizing F with
  | nil => exact h F (fun i hi => absurd hi List.not_mem_nil) fun _ _ => rfl
  | cons id ids ih =>
      refine .bind_eq safe_copy fun _ => ih fun F' hin hout => h F' (fun i hi => ?_) fun i hi => ?_
      · by_cases hids : i ∈ ids
        · exact hin i hids
        · obtain rfl : i = id := (List.mem_cons.mp hi).resolve_right hids
          rw [hout i hids, Function.update_self]
      · obtain ⟨hne, hids⟩ := not_or.mp fun h => hi (List.mem_cons.mpr h)
        rw [hout i hids, Function.update_of_ne hne]

/-! ## §3. The calls. -/

theorem safe_withSource {ρ : Type} {eSrcId : Nat} {refused : Program ρ}
    {f : AudioSrcId → Program ρ} {Q : ρ → Option Flags → Prop} (hrefused : Safe refused own Q)
    (hf : ∀ id, Safe (f id) own Q) : Safe (withSource eSrcId refused f) own Q := by
  unfold withSource
  split
  · exact hf _
  · exact hrefused

/-- A branch on a read of the memory. -/
theorem safe_ifRead {ρ : Type} {f : Ram → Bool} {p q : Program ρ} {Q : ρ → Option Flags → Prop}
    (hp : Safe p own Q) (hq : Safe q own Q) :
    Safe (do if ← .read f then p else q) own Q := by
  refine .bind_eq (guarded_read fun _ => rfl) fun b => ?_
  cases b with
  | true => exact hp
  | false => exact hq

theorem safe_mute (eSrcId : Nat) (bIsMute : Bool) :
    Safe (bUpdateAudioSrcMuteStatus crc32 eSrcId bIsMute) none fun _ own => own = none := by
  refine safe_withSource rfl fun id => safe_ifRead ?_ rfl
  refine .bind_eq (guarded_mutexLock (by simp) fun _ => rfl) fun b => ?_
  cases b with
  | false => exact rfl
  | true =>
      refine .bind_eq (safe_load fun _ => rfl) fun bPrevious => ?_
      by_cases hsame : bPrevious = bIsMute
      · rw [if_pos hsame]
        exact guarded_mutexUnlock (by simp) fun _ => rfl
      · rw [if_neg hsame]
        refine .bind_eq (safe_store (fun _ => rfl) (fun _ => rfl) rfl) fun _ => ?_
        refine .bind_eq (safe_saveOrRestore_beside (fun _ => rfl) fun _ => rfl) fun r => ?_
        exact .bind_eq (guarded_mutexUnlock (by simp) fun _ => rfl) fun _ => rfl

theorem safe_volume (eSrcId : Nat) (uiVolume : UInt8) :
    Safe (iUpdateAudioSrcVolume crc32 eSrcId uiVolume) none fun _ own => own = none := by
  refine safe_withSource rfl fun id => ?_
  split
  · exact rfl
  refine safe_ifRead (.bind_eq (safe_lockEach fun _ => rfl) fun r => ?_) rfl
  by_cases hr : r = 0
  · rw [if_pos hr]
    refine .bind_eq (safe_load fun _ => rfl) fun uiPrevious => ?_
    by_cases hsame : uiPrevious = uiVolume.toUInt16
    · rw [if_pos hsame]
      exact .bind_eq (safe_unlockEach rfl) fun _ => rfl
    · rw [if_neg hsame]
      refine .bind_eq (safe_store (fun _ => rfl) (fun _ => rfl) rfl) fun _ => ?_
      refine .bind_eq (safe_saveOrRestore_beside (fun _ => rfl) fun _ => rfl) fun r => ?_
      exact .bind_eq (safe_unlockEach rfl) fun _ => rfl
  · rw [if_neg hr]
    exact rfl

/-- The lock of sources by the owner of the selection, which unlocks it if that
fails. -/
theorem safe_withSources {wanted : AudioSrcId → Bool}
    {rollback : List AudioSrcId → List AudioSrcId} {p : Program Int} (hF : F.Consistent)
    (hp : Safe p (some F) fun _ own => own = none) :
    Safe (do
      let iResult ← lockEach wanted rollback ids []
      if iResult = 0 then p
      else
        let _ ← .mutexUnlock .selection
        return iResult) (some F) fun _ own => own = none := by
  refine .bind_eq (safe_lockEach fun _ => rfl) fun r => ?_
  by_cases hr : r = 0
  · rw [if_pos hr]
    exact hp
  · rw [if_neg hr]
    exact safe_unlockSelection hF rfl

theorem safe_unselect (hF : F.Consistent) :
    Safe (unselect crc32 id) (some F) fun _ own => own = none := by
  refine safe_withSources hF ?_
  refine .bind (Q := fun b own => b = (F id).2 ∧ own = some F) (safe_load_selected ⟨rfl, rfl⟩) ?_
  rintro _ _ ⟨rfl, rfl⟩
  by_cases hid : (F id).2 = true
  · rw [if_pos hid]
    refine .bind_eq (safe_store_select rfl) fun _ => ?_
    -- the restored flags are the flags before the call
    refine .bind (Q := fun _ own => ∃ F', own = some F' ∧ F'.Consistent)
      (safe_saveOrRestore ⟨_, rfl, hF.unselect⟩ fun _ _ => safe_store_select ⟨_, rfl, ?_⟩) ?_
    · rw [Flags.select_select, Flags.select_self hid]
      exact hF
    · rintro r _ ⟨F', rfl, hF'⟩
      exact safe_releaseAll hF'
  · rw [if_neg hid]
    exact safe_releaseAll hF

/-- The second write of a selection, where nothing is selected. -/
theorem safe_selectNew {ePrevious : Option AudioSrcId} (hF : F.Consistent)
    (hnone : ∀ i, (F i).2 = false) (hactive : (F id).1 = true) :
    Safe (selectNew crc32 ePrevious id) (some F) fun _ own => own = none := by
  have hselected : (F.select id true).Consistent := by
    refine hF.update (fun _ i hi => ?_) fun _ => hactive
    rw [hnone i] at hi
    cases hi
  refine .bind_eq (safe_store_select rfl) fun _ => ?_
  refine .bind (Q := fun _ own => ∃ F', own = some F' ∧ F'.Consistent)
    (safe_saveOrRestore ⟨_, rfl, hselected⟩ fun _ _ => safe_store_select ⟨_, rfl, ?_⟩) ?_
  · rw [Flags.select_select, Flags.select_self (hnone id)]
    exact hF
  · rintro r _ ⟨F', rfl, hF'⟩
    exact safe_releaseAll hF'

theorem safe_select {ePrevious : Option AudioSrcId} (hF : F.Consistent)
    (hfinds : Finds F ePrevious) :
    Safe (select crc32 ePrevious id) (some F) fun _ own => own = none := by
  unfold select
  by_cases hself : ePrevious = some id
  · rw [if_pos hself]
    exact safe_unlockSelection hF rfl
  rw [if_neg hself]
  refine safe_withSources hF ?_
  refine .bind (Q := fun b own => b = (F id).1 ∧ own = some F) (safe_load_active ⟨rfl, rfl⟩) ?_
  rintro _ _ ⟨rfl, rfl⟩
  by_cases hactive : (F id).1 = true
  · rw [if_pos hactive]
    cases ePrevious with
    | none => exact safe_selectNew hF (hfinds.none rfl) hactive
    | some prev =>
        have hprev := hfinds.some prev rfl
        -- between the two writes nothing is selected
        have hbetween : ∀ i, (F.select prev false i).2 = false := by
          intro i
          refine Bool.eq_false_iff.mpr fun hi => ?_
          obtain ⟨hi, hne⟩ := Flags.selected_of_unselect hi
          exact hne (hF.single i prev hi hprev)
        refine .bind_eq (safe_store_select rfl) fun _ => ?_
        refine .bind (Q := fun r own => (r = 0 ∧ own = some (F.select prev false))
          ∨ (r ≠ 0 ∧ own = some F)) ?_ ?_
        · refine safe_saveOrRestore (Or.inl ⟨rfl, rfl⟩) fun r hr => ?_
          refine safe_store_select (Or.inr ⟨hr, ?_⟩)
          rw [Flags.select_select, Flags.select_self hprev]
        · rintro r _ (⟨rfl, rfl⟩ | ⟨hr, rfl⟩)
          · rw [if_pos rfl]
            refine safe_selectNew hF.unselect hbetween ?_
            rw [Flags.select_fst]
            exact hactive
          · rw [if_neg hr]
            exact safe_releaseAll hF
  · rw [if_neg hactive]
    exact safe_releaseAll hF

/-- The lock of the selection, where a failed lock ends the call. -/
theorem safe_withSelection {ρ : Type} {p q : Program ρ} {Q : ρ → Option Flags → Prop}
    (hp : ∀ F : Flags, F.Consistent → Safe p (some F) Q) (hq : Safe q none Q) :
    Safe (do if ← .mutexLock .selection then p else q) none Q := by
  refine .bind (guarded_mutexLock_self
    (Q := fun b own => (b = true ∧ ∃ F : Flags, F.Consistent ∧ own = some F)
      ∨ (b = false ∧ own = none))
    (fun F hF => Or.inl ⟨rfl, F, hF, rfl⟩) (Or.inr ⟨rfl, rfl⟩)) ?_
  rintro b own (⟨rfl, F, hF, rfl⟩ | ⟨rfl, rfl⟩)
  · exact hp F hF
  · exact hq

theorem safe_updateSelected (eSrcId : Nat) (bIsSelected : Bool) :
    Safe (iUpdateAudioScrSelected crc32 eSrcId bIsSelected) none fun _ own => own = none := by
  refine safe_withSource rfl fun id => safe_ifRead (safe_withSelection (fun F hF => ?_) rfl) rfl
  refine .bind safe_find ?_
  rintro ePrevious _ ⟨hfinds, rfl⟩
  cases bIsSelected with
  | true => exact safe_select hF hfinds
  | false => exact safe_unselect hF

theorem safe_configure {puiData : List UInt8} {c : AudioSourceConfig}
    (hc : decodeBytes crc32 id puiData = some c) :
    Safe (configure puiData id c) none fun _ own => own = none := by
  refine safe_withSelection (fun F hF => safe_withSources hF ?_) rfl
  refine .bind safe_find ?_
  rintro eSelected _ ⟨hfinds, rfl⟩
  by_cases hother : (c.bIsSelected && eSelected.isSome && eSelected ≠ some id) = true
  · rw [if_pos hother]
    exact safe_releaseAll hF
  rw [if_neg hother]
  -- the record does not select a second source
  have hself : c.bIsSelected = true → ∀ i, (F i).2 = true → i = id := by
    intro hselected i hi
    cases eSelected with
    | none =>
        rw [hfinds.none rfl i] at hi
        cases hi
    | some j =>
        have hj : j = id := by simpa [hselected] using hother
        subst hj
        exact hF.single i j hi (hfinds.some j rfl)
  refine .bind_eq (guarded_call fun _ => rfl) fun r => ?_
  by_cases hr : r.iResult = 0
  · rw [if_pos hr]
    exact .bind_eq safe_copy fun _ =>
      safe_releaseAll (hF.update hself (wellFormed_of_decodeBytes hc).selected)
  · rw [if_neg hr]
    exact safe_releaseAll hF

theorem safe_updateConfigurations (puiData : List UInt8) (eSrcId : Nat) :
    Safe (iUpdateAudioSrcConfigurations crc32 puiData eSrcId) none fun _ own => own = none := by
  unfold iUpdateAudioSrcConfigurations
  split
  · exact rfl
  refine safe_withSource rfl fun id => safe_ifRead ?_ rfl
  cases hc : decodeBytes crc32 id puiData with
  | none => exact rfl
  | some c => exact safe_configure hc

theorem safe_initMutexes : Safe bInitAudioSrcMutexes none fun _ own => own = none := by
  have heach : ∀ ids, Safe (initEach ids) none fun _ own => own = none := by
    intro ids
    induction ids with
    | nil => exact rfl
    | cons id ids ih =>
        refine .bind_eq (guarded_mutexInit (by simp) fun _ => rfl) fun b => ?_
        cases b with
        | true => exact ih
        | false => exact rfl
  refine safe_ifRead rfl (.bind_eq (heach _) fun b => ?_)
  cases b with
  | true => exact .bind_eq (guarded_write (fun _ => rfl) rfl) fun _ => rfl
  | false => exact rfl

theorem safe_readEach (staTemp : AudioSrcId → AudioSourceConfig) :
    Safe (readEach crc32 ids staTemp) none fun _ own => own = none := by
  induction ids generalizing staTemp with
  | nil => exact rfl
  | cons id ids ih =>
      refine .bind_eq (guarded_call fun _ => rfl) fun r => ?_
      split
      · cases decodeBytes crc32 id r.data with
        | none => exact rfl
        | some c => exact ih _
      · exact rfl

/-- The flags of a valid table. -/
theorem consistent_of_validate {staTemp : AudioSrcId → AudioSourceConfig}
    (h : Store.bValidateAllSourceConfigurations staTemp = true) :
    Flags.Consistent fun i => ((staTemp i).bIsActive, (staTemp i).bIsSelected) := by
  unfold Store.bValidateAllSourceConfigurations at h
  simp only [Bool.and_eq_true, decide_eq_true_eq] at h
  obtain ⟨⟨-, hactive⟩, hsingle⟩ := h
  refine ⟨fun i j hi hj => ?_, hactive⟩
  exact Finset.card_le_one.mp hsingle i (by simpa using hi) j (by simpa using hj)

theorem safe_install {staTemp : AudioSrcId → AudioSourceConfig}
    (h : Store.bValidateAllSourceConfigurations staTemp = true) :
    Safe (install staTemp) none fun _ own => own = none := by
  refine safe_withSelection (fun F hF => ?_) rfl
  refine .bind_eq (safe_lockEach fun _ => rfl) fun r => ?_
  by_cases hr : r = 0
  · rw [if_pos hr]
    refine .bind (Q := fun _ own => ∃ F' : Flags, own = some F' ∧ F'.Consistent)
      (safe_copyEach fun F' hin _ => ⟨F', rfl, ?_⟩) ?_
    · have hF' : F' = fun i => ((staTemp i).bIsActive, (staTemp i).bIsSelected) :=
        funext fun i => hin i (List.mem_finRange i)
      rw [hF']
      exact consistent_of_validate h
    · rintro _ _ ⟨F', rfl, hF'⟩
      refine .bind_eq (safe_unlockEach rfl) fun _ => ?_
      refine .bind_eq (guarded_mutexUnlock_self hF' fun _ => rfl) fun _ => ?_
      exact .bind_eq (guarded_write (fun _ => rfl) rfl) fun _ => rfl
  · rw [if_neg hr]
    exact safe_unlockSelection hF rfl

theorem safe_loadConfigurations :
    Safe (bLoadAudioConfigurations crc32) none fun _ own => own = none := by
  refine .bind_eq safe_initMutexes fun b => ?_
  cases b with
  | false => exact rfl
  | true =>
      refine .bind_eq (guarded_write (fun _ => rfl) rfl) fun _ => ?_
      refine .bind_eq (safe_readEach _) fun table => ?_
      cases table with
      | none => exact rfl
      | some staTemp =>
          by_cases h : Store.bValidateAllSourceConfigurations staTemp = true
          · show Safe (if _ then _ else _) none _
            rw [if_pos h]
            exact safe_install h
          · show Safe (if _ then _ else _) none _
            rw [if_neg h]
            exact rfl

theorem safe_program (c : Call) : Safe (c.program crc32) none fun _ own => own = none := by
  cases c with
  | mute eSrcId bIsMute => exact .bind_eq (safe_mute eSrcId bIsMute) fun _ => rfl
  | volume eSrcId uiVolume => exact safe_volume eSrcId uiVolume
  | select eSrcId bIsSelected => exact safe_updateSelected eSrcId bIsSelected
  | configure puiData eSrcId => exact safe_updateConfigurations puiData eSrcId
  | load => exact .bind_eq safe_loadConfigurations fun _ => rfl

end WallController.AudioSrc.Concurrent
