/-
  WallController.AudioSrc.Effects
  ────────────────────────────────
  **WHAT ONE STEP CAN DO TO THE TABLE AND THE FILES.**

  The table and the files are a write-through table (`Store.cached`).  Every
  step leaves it alone, saves one entry, or is a host transfer or a reboot
  (`Effect`); what a save may store depends on the operation (`SaveFacts`).
  Everything proved of runs follows from this one inversion.

  `Sound` is what holds in every run: each entry is zero or well formed, at
  most one is selected, and none is while a selection is suspended.
-/
import WallController.AudioSrc.Config

namespace WallController.AudioSrc

open WallController.Lib

/-! ## §1. The view of the library. -/

/-- The table and the files. -/
def Store.cached (s : Store) : WriteThrough AudioSrcId AudioSourceConfig (List UInt8) :=
  ⟨s.staAudioSrcConfigs, s.files⟩

/-- The state with another table and other files. -/
def Store.put (s : Store) (c : WriteThrough AudioSrcId AudioSourceConfig (List UInt8)) : Store :=
  { s with staAudioSrcConfigs := c.cache, files := c.disk }

@[simp] theorem cached_put (s : Store) (c) : (s.put c).cached = c := rfl
@[simp] theorem put_eSelecting (s : Store) (c) : (s.put c).eSelecting = s.eSelecting := rfl

/-- The SELECTED flag. -/
def Marked (c : AudioSourceConfig) : Prop := c.bIsSelected = true

instance (c : AudioSourceConfig) : Decidable (Marked c) := inferInstanceAs (Decidable (_ = _))

def WriteResult.outcome : WriteResult → SaveOutcome
  | .ok => .done
  | .failed _ false => .refused
  | .failed _ true => .misreported

/-- The outcome on a file that may be missing. -/
def writeOutcome (files : SourceFiles) (id : AudioSrcId) (w : WriteResult) : SaveOutcome :=
  if files id = none then .refused else w.outcome

/-- The outcome of the write of a step. -/
def Operation.write : Operation → WriteResult
  | .mute _ _ w | .volume _ _ w | .select _ _ w | .finishSelect w | .configure _ _ w => w
  | .transfer _ _ | .reboot => .ok

/-- The entry `c'` differs from `c` in the field of the operation only. -/
def Operation.Owns : Operation → AudioSourceConfig → AudioSourceConfig → Prop
  | .mute _ _ _, c, c' => c' = { c with bIsMute := c'.bIsMute }
  | .volume _ _ _, c, c' => c' = { c with uiVolume := c'.uiVolume }
  | .select _ _ _, c, c' | .finishSelect _, c, c' => c' = { c with bIsSelected := c'.bIsSelected }
  | .configure _ _ _, _, _ | .transfer _ _, _, _ | .reboot, _, _ => True

variable (crc32 : List UInt8 → UInt32)

/-- The write of the step would store a SELECTED record while the table holds no
source as selected. -/
def Store.writesNewSelection (s : Store) : Operation → Bool
  | .select eSrcId true _ =>
      withSource eSrcId false fun id =>
        s.bAudioSrcMutexesInitialized && s.eSelecting.isNone
          && (eFindSelectedAudioSrc s.staAudioSrcConfigs).isNone
          && (s.staAudioSrcConfigs id).bIsActive
  | .finishSelect _ => s.eSelecting.isSome
  | .configure puiData eSrcId _ =>
      withSource eSrcId false fun id =>
        s.bAudioSrcMutexesInitialized && s.eSelecting.isNone
          && (eFindSelectedAudioSrc s.staAudioSrcConfigs).isNone
          && (decodeBytes crc32 id puiData).any fun c => c.bIsSelected
  | _ => false

/-! ## §2. The effect of a step. -/

variable {crc32}

/-- What is known of the save of an operation. -/
structure SaveFacts (crc32 : List UInt8 → UInt32) (s : Store) (a : Operation) (i : AudioSrcId)
    (c : AudioSourceConfig) (b : List UInt8) (o : SaveOutcome) : Prop where
  read : decodeBytes crc32 i b = some c
  outcome : o = writeOutcome s.files i a.write
  owns : a.Owns (s.staAudioSrcConfigs i) c
  single : Marked c → ∀ j, Marked (s.staAudioSrcConfigs j) → j = i
  fresh : Marked c → Marked (s.staAudioSrcConfigs i) ∨ s.writesNewSelection crc32 a = true

inductive Effect (crc32 : List UInt8 → UInt32) (s : Store) (a : Operation) (s' : Store) : Prop
  | nothing (h : s'.cached = s.cached)
  | saved (i : AudioSrcId) (c : AudioSourceConfig) (b : List UInt8) (o : SaveOutcome)
      (h : s'.cached = s.cached.save i c b o) (facts : SaveFacts crc32 s a i c b o)
  | transferred (i : AudioSrcId) (b : List UInt8) (ha : a = .transfer i b)
      (h : s'.cached = s.cached.overwrite i b)
  | rebooted (ha : a = .reboot) (h : s' = Store.boot crc32 s.files)

/-- No source is selected while a selection is suspended, and the source to select
is active. -/
def Suspended (s : Store) : Prop :=
  ∀ prev next, s.eSelecting = some (prev, next) →
    (s.staAudioSrcConfigs next).bIsActive = true ∧ ∀ j, ¬ Marked (s.staAudioSrcConfigs j)

structure Sound (s : Store) : Prop where
  entry : ∀ i, s.staAudioSrcConfigs i = .zero ∨ WellFormed i (s.staAudioSrcConfigs i)
  single : (s.cached.cacheMarks Marked).Subsingleton
  suspended : Suspended s

variable {s s' : Store} {a : Operation} {id : AudioSrcId} {c : AudioSourceConfig} {w : WriteResult}

/-! ## §3. Decoding. -/

theorem decodeBytes_toBytes (r : AudioSourceConfigRecord) :
    decodeBytes crc32 id r.toBytes = bDecodeAudioSourceConfiguration crc32 r id := by
  unfold decodeBytes
  rw [dif_pos r.length_toBytes, r.ofBytes_toBytes]

theorem wellFormed_of_decodeBytes {b : List UInt8} (h : decodeBytes crc32 id b = some c) :
    WellFormed id c := by
  unfold decodeBytes at h
  split at h
  · exact wellFormed_of_decode h
  · cases h

/-! ## §4. The find. -/

variable {table : AudioSrcId → AudioSourceConfig}

theorem marked_of_find (h : eFindSelectedAudioSrc table = some id) : Marked (table id) := by
  have := List.find?_some h
  exact this

theorem not_marked_of_find (h : eFindSelectedAudioSrc table = none) : ¬ Marked (table id) :=
  List.find?_eq_none.mp h id (List.mem_finRange id)

/-! ## §5. The save of an entry. -/

theorem iWriteToFileBin_cases (id : AudioSrcId) (data : List UInt8) (w : WriteResult)
    (files : SourceFiles) :
    (writeOutcome files id w = .done
        ∧ iWriteToFileBin id data w files = (.ok (), Function.update files id (some data)))
    ∨ (writeOutcome files id w = .refused
        ∧ ∃ iResult, iWriteToFileBin id data w files = (.error iResult, files))
    ∨ (writeOutcome files id w = .misreported
        ∧ ∃ iResult, iWriteToFileBin id data w files
            = (.error iResult, Function.update files id (some data))) := by
  unfold writeOutcome iWriteToFileBin
  split
  · exact Or.inr (Or.inl ⟨rfl, _, rfl⟩)
  · cases w with
    | ok => exact Or.inl ⟨rfl, rfl⟩
    | failed iResult persisted =>
      cases persisted with
      | false => exact Or.inr (Or.inl ⟨rfl, iResult, rfl⟩)
      | true => exact Or.inr (Or.inr ⟨rfl, iResult, rfl⟩)

variable (crc32 s w) in
/-- The save of a well-formed entry is a save of the write-through table. -/
theorem saveEntry_wellFormed (hwf : WellFormed id c) :
    (s.saveEntry crc32 id c (s.staAudioSrcConfigs id) w).2
        = s.put (s.cached.save id c (c.record.seal crc32).toBytes (writeOutcome s.files id w))
      ∧ ((s.saveEntry crc32 id c (s.staAudioSrcConfigs id) w).1 = .ok ()
          ↔ writeOutcome s.files id w = .done) := by
  have hencode : bEncodeAudioSrcConfiguration crc32 c = some (c.record.seal crc32) :=
    encode_of_wellFormed hwf
  unfold Store.saveEntry iUpdateAudioSrcFile
  rw [hencode]
  simp only [hwf.id]
  rcases iWriteToFileBin_cases id (c.record.seal crc32).toBytes w s.files with
    ⟨ho, hw⟩ | ⟨ho, iResult, hw⟩ | ⟨ho, iResult, hw⟩
  · rw [hw, ho]
    exact ⟨rfl, by simp⟩
  · rw [hw, ho]
    simp only [Function.update_eq_self]
    exact ⟨rfl, by simp⟩
  · rw [hw, ho]
    simp only [Function.update_eq_self]
    exact ⟨rfl, by simp⟩

/-- An entry without a name is not saved. -/
theorem saveEntry_nameless (hname : c.caSrcName = AudioSourceConfig.zero.caSrcName) :
    (s.saveEntry crc32 id c (s.staAudioSrcConfigs id) w).2 = s := by
  have hencode : bEncodeAudioSrcConfiguration crc32 c = none := by
    unfold bEncodeAudioSrcConfiguration
    rw [hname, if_pos (Or.inl (by decide))]
  unfold Store.saveEntry iUpdateAudioSrcFile
  rw [hencode]
  simp only [Function.update_eq_self]

/-- The save of an entry in which a field has changed. -/
theorem saveEntry_cases (hs : Sound s) (hname : c.caSrcName = (s.staAudioSrcConfigs id).caSrcName)
    (hwf : WellFormed id (s.staAudioSrcConfigs id) → WellFormed id c) :
    (s.saveEntry crc32 id c (s.staAudioSrcConfigs id) w).2 = s
    ∨ (WellFormed id c ∧ (s.saveEntry crc32 id c (s.staAudioSrcConfigs id) w).2
        = s.put (s.cached.save id c (c.record.seal crc32).toBytes (writeOutcome s.files id w))) := by
  rcases hs.entry id with hzero | hentry
  · rw [hzero] at hname
    exact Or.inl (saveEntry_nameless hname)
  · exact Or.inr ⟨hwf hentry, (saveEntry_wellFormed crc32 s w (hwf hentry)).1⟩

theorem effect_saveEntry (id : AudioSrcId) (c : AudioSourceConfig) (hs : Sound s)
    (hname : c.caSrcName = (s.staAudioSrcConfigs id).caSrcName)
    (hwf : WellFormed id (s.staAudioSrcConfigs id) → WellFormed id c)
    (howns : a.Owns (s.staAudioSrcConfigs id) c)
    (hsingle : Marked c → ∀ j, Marked (s.staAudioSrcConfigs j) → j = id)
    (hfresh : Marked c → Marked (s.staAudioSrcConfigs id) ∨ s.writesNewSelection crc32 a = true) :
    Effect crc32 s a (s.saveEntry crc32 id c (s.staAudioSrcConfigs id) a.write).2 := by
  rcases show _ ∨ (WellFormed id c ∧ (s.saveEntry crc32 id c _ a.write).2 = _) from
    saveEntry_cases hs hname hwf with h | ⟨hc, h⟩
  · rw [h]
    exact .nothing rfl
  · rw [h]
    refine .saved id c _ _ (cached_put _ _) ⟨?_, rfl, howns, hsingle, hfresh⟩
    rw [decodeBytes_toBytes]
    exact (decode_encode hc).2

/-! ## §6. The operations. -/

theorem withSource_cases {ρ : Type*} {P : ρ → Prop} {eSrcId : Nat} {refused : ρ}
    {f : AudioSrcId → ρ} (hrefused : P refused)
    (hf : ∀ id : AudioSrcId, eSrcId = id.val → P (f id)) : P (withSource eSrcId refused f) := by
  unfold withSource
  split
  · next h => exact hf ⟨eSrcId, h⟩ rfl
  · exact hrefused

@[simp] theorem withSource_val {ρ : Type*} (id : AudioSrcId) (refused : ρ) (f : AudioSrcId → ρ) :
    withSource id.val refused f = f id := by
  unfold withSource
  rw [dif_pos id.isLt]

/-- Only the table and the files matter, except after a reboot. -/
theorem Effect.congr {s'' : Store} (h : Effect crc32 s a s') (hc : s''.cached = s'.cached)
    (ha : a ≠ .reboot) : Effect crc32 s a s'' := by
  cases h with
  | nothing h => exact .nothing (hc.trans h)
  | saved i c b o h facts => exact .saved i c b o (hc.trans h) facts
  | transferred i b ha h => exact .transferred i b ha (hc.trans h)
  | rebooted h _ => exact absurd h ha

theorem effect_mute (hs : Sound s) (eSrcId : Nat) (bIsMute : Bool) (w : WriteResult) :
    Effect crc32 s (.mute eSrcId bIsMute w)
      (s.bUpdateAudioSrcMuteStatus crc32 eSrcId bIsMute w).2 := by
  refine withSource_cases (P := fun r : Bool × Store => Effect crc32 s (.mute eSrcId bIsMute w) r.2)
    (.nothing rfl) fun id _ => ?_
  split
  · exact .nothing rfl
  split
  · exact .nothing rfl
  simp only []
  split
  · exact .nothing rfl
  exact effect_saveEntry id { s.staAudioSrcConfigs id with bIsMute := bIsMute } hs rfl
      (fun h => ⟨h.id, h.type, h.volume, h.name, h.selected⟩) rfl
      (fun hm j hj => hs.single hj hm) fun hm => Or.inl hm

theorem effect_volume (hs : Sound s) (eSrcId : Nat) (uiVolume : UInt8) (w : WriteResult) :
    Effect crc32 s (.volume eSrcId uiVolume w)
      (s.iUpdateAudioSrcVolume crc32 eSrcId uiVolume w).2 := by
  refine withSource_cases
    (P := fun r : _ × Store => Effect crc32 s (.volume eSrcId uiVolume w) r.2)
    (.nothing rfl) fun id _ => ?_
  split
  · exact .nothing rfl
  next hvol =>
  split
  · exact .nothing rfl
  split
  · exact .nothing rfl
  simp only []
  split
  · exact .nothing rfl
  exact effect_saveEntry id { s.staAudioSrcConfigs id with uiVolume := uiVolume.toUInt16 } hs rfl
      (fun h => ⟨h.id, h.type, by simpa using hvol, h.name, h.selected⟩) rfl
      (fun hm j hj => hs.single hj hm) fun hm => Or.inl hm

theorem restored_eq {b : Bool} (h : c.bIsSelected = b) : { c with bIsSelected := b } = c := by
  rw [← h]

/-- The end of a selection, with no source selected. -/
theorem effect_selectSource (hs : Sound s) (hactive : (s.staAudioSrcConfigs id).bIsActive = true)
    (hnone : ∀ j, ¬ Marked (s.staAudioSrcConfigs j))
    (howns : a.Owns (s.staAudioSrcConfigs id)
      { s.staAudioSrcConfigs id with bIsSelected := true })
    (hnew : s.writesNewSelection crc32 a = true) :
    Effect crc32 s a (s.selectSource crc32 id a.write).2 := by
  have hrest := restored_eq (Bool.eq_false_of_not_eq_true (hnone id))
  unfold Store.selectSource
  simp only []
  rw [hrest]
  exact effect_saveEntry id { s.staAudioSrcConfigs id with bIsSelected := true } hs rfl
    (fun h => ⟨h.id, h.type, h.volume, h.name, fun _ => hactive⟩) howns
    (fun _ j hj => absurd hj (hnone j)) fun _ => Or.inr hnew

theorem effect_select (hs : Sound s) (eSrcId : Nat) (bIsSelected : Bool) (w : WriteResult) :
    Effect crc32 s (.select eSrcId bIsSelected w)
      (s.iUpdateAudioScrSelected crc32 eSrcId bIsSelected w).2 := by
  refine withSource_cases
    (P := fun r : _ × Store => Effect crc32 s (.select eSrcId bIsSelected w) r.2)
    (.nothing rfl) fun id hid => ?_
  split
  · exact .nothing rfl
  next hinit =>
  split
  · exact .nothing rfl
  next hidle =>
  simp only []
  split
  · next hunselect =>
    split
    · exact .nothing rfl
    next hmarked =>
    have hmarked : (s.staAudioSrcConfigs id).bIsSelected = true := by simpa using hmarked
    -- a failed save puts back the entry as it was
    rw [restored_eq hmarked]
    exact effect_saveEntry id { s.staAudioSrcConfigs id with bIsSelected := false } hs rfl
      (fun h => ⟨h.id, h.type, h.volume, h.name, fun h => by (cases h)⟩) rfl
      (fun hm => by (cases hm)) fun hm => by (cases hm)
  next hselect =>
  split
  · exact .nothing rfl
  next hne =>
  split
  · exact .nothing rfl
  next hactive =>
  have hactive : (s.staAudioSrcConfigs id).bIsActive = true := by simpa using hactive
  split
  · next hfind =>
    -- no source is marked, so one save is the whole selection
    refine effect_selectSource (a := .select eSrcId bIsSelected w) hs hactive
      (fun j => not_marked_of_find hfind) rfl ?_
    have htrue : bIsSelected = true := by simpa using hselect
    have hinit : s.bAudioSrcMutexesInitialized = true := by simpa using hinit
    have hidle : s.eSelecting = none := by simpa using hidle
    rw [htrue, hid]
    simp [Store.writesNewSelection, hinit, hidle, hfind, hactive]
  · next prev hfind =>
    -- the marked source loses its mark first; the rest is left to `finishSelection`
    have hmarked := marked_of_find hfind
    rw [restored_eq hmarked]
    have heff : Effect crc32 s (.select eSrcId bIsSelected w) _ :=
      effect_saveEntry prev { s.staAudioSrcConfigs prev with bIsSelected := false } hs rfl
        (fun h => ⟨h.id, h.type, h.volume, h.name, fun h => by (cases h)⟩) rfl
        (fun hm => by (cases hm)) fun hm => by (cases hm)
    refine heff.congr ?_ (by simp)
    split
    · next h => exact congrArg (fun x => x.2.cached) h.symm
    · next h => exact congrArg (fun x => x.2.cached) h.symm

theorem effect_finishSelect (hs : Sound s) (w : WriteResult) :
    Effect crc32 s (.finishSelect w) (s.finishSelection crc32 w).2 := by
  unfold Store.finishSelection
  split
  · exact .nothing rfl
  · next prev id hsel =>
    obtain ⟨hactive, hnone⟩ := hs.suspended prev id hsel
    have heff : Effect crc32 s (.finishSelect w) _ :=
      effect_selectSource hs hactive hnone rfl (by simp [Store.writesNewSelection, hsel])
    exact heff.congr rfl (by simp)

theorem effect_configure (hs : Sound s) (puiData : List UInt8) (eSrcId : Nat) (w : WriteResult) :
    Effect crc32 s (.configure puiData eSrcId w)
      (s.iUpdateAudioSrcConfigurations crc32 puiData eSrcId w).2 := by
  unfold Store.iUpdateAudioSrcConfigurations
  split
  · exact .nothing rfl
  refine withSource_cases
    (P := fun r : _ × Store => Effect crc32 s (.configure puiData eSrcId w) r.2)
    (.nothing rfl) fun id hid => ?_
  split
  · exact .nothing rfl
  next hinit =>
  split
  · exact .nothing rfl
  next c hread =>
  split
  · exact .nothing rfl
  next hidle =>
  simp only []
  split
  · exact .nothing rfl
  next hother =>
  have hinit : s.bAudioSrcMutexesInitialized = true := by simpa using hinit
  have hidle : s.eSelecting = none := by simpa using hidle
  -- an incoming selected source is the one selected, or none is
  have hfind : c.bIsSelected = true → eFindSelectedAudioSrc s.staAudioSrcConfigs = none
      ∨ eFindSelectedAudioSrc s.staAudioSrcConfigs = some id := by
    intro hm
    cases hf : eFindSelectedAudioSrc s.staAudioSrcConfigs with
    | none => exact Or.inl rfl
    | some j => simpa [hm, hf] using hother
  have hfacts : SaveFacts crc32 s (.configure puiData eSrcId w) id c puiData
      (writeOutcome s.files id w) := by
    refine ⟨hread, rfl, trivial, ?_, ?_⟩
    · intro hm j hj
      rcases hfind hm with hf | hf
      · exact absurd hj (not_marked_of_find hf)
      · exact hs.single hj (marked_of_find hf)
    · intro hm
      have hm : c.bIsSelected = true := hm
      rcases hfind hm with hf | hf
      · right
        rw [hid]
        simp [Store.writesNewSelection, hinit, hidle, hf, hread, hm]
      · exact Or.inl (marked_of_find hf)
  rcases iWriteToFileBin_cases id puiData w s.files with ⟨ho, hw⟩ | ⟨ho, iResult, hw⟩ | ⟨ho, iResult, hw⟩
  · rw [hw]
    exact .saved id c puiData .done rfl (ho ▸ hfacts)
  · rw [hw]
    exact .nothing rfl
  · rw [hw]
    exact .saved id c puiData .misreported rfl (ho ▸ hfacts)

variable (crc32) in
/-- **The inversion of a step.** -/
theorem step_effect (hs : Sound s) (a : Operation) : Effect crc32 s a (s.step crc32 a) := by
  cases a with
  | mute eSrcId bIsMute w => exact effect_mute hs eSrcId bIsMute w
  | volume eSrcId uiVolume w => exact effect_volume hs eSrcId uiVolume w
  | select eSrcId bIsSelected w => exact effect_select hs eSrcId bIsSelected w
  | finishSelect w => exact effect_finishSelect hs w
  | configure puiData eSrcId w => exact effect_configure hs puiData eSrcId w
  | transfer id data => exact .transferred id data rfl rfl
  | reboot => exact .rebooted rfl rfl

/-! ## §7. The load. -/

theorem readEntry_eq (s : Store) (id : AudioSrcId) :
    Store.readEntry crc32 s.files id = s.cached.stored (decodeBytes crc32) id := rfl

variable (crc32) in
/-- The files at a power-up agree with the table after a load that succeeds; a load
that fails leaves the table as it was at power-up. -/
theorem boot_cases (files : SourceFiles) :
    (loads crc32 files = true
        ∧ (Store.boot crc32 files).cached.Agrees (decodeBytes crc32)
        ∧ ((Store.boot crc32 files).cached.cacheMarks Marked).Subsingleton)
    ∨ (loads crc32 files = false
        ∧ ∀ id, (Store.boot crc32 files).staAudioSrcConfigs id = .zero) := by
  unfold loads Store.boot Store.bLoadAudioConfigurations
  simp only []
  split
  · next hall =>
    split
    · exact Or.inr ⟨rfl, fun _ => rfl⟩
    · next hvalid =>
      have hvalid : Store.bValidateAllSourceConfigurations
          (fun id => (Store.readEntry crc32 files id).get (hall id)) = true := by
        by_contra h
        exact hvalid (congrArg not (Bool.eq_false_of_not_eq_true h))
      unfold Store.bValidateAllSourceConfigurations at hvalid
      simp only [Bool.and_eq_true, decide_eq_true_eq] at hvalid
      refine Or.inl ⟨rfl, fun id => ?_, ?_⟩
      · exact (Option.some_get (hall id)).symm
      · intro i hi j hj
        exact Finset.card_le_one.mp hvalid.2 i (Finset.mem_filter.mpr ⟨Finset.mem_univ i, hi⟩) j
          (Finset.mem_filter.mpr ⟨Finset.mem_univ j, hj⟩)
  · exact Or.inr ⟨rfl, fun _ => rfl⟩

@[simp] theorem boot_files (files : SourceFiles) : (Store.boot crc32 files).files = files := by
  unfold Store.boot Store.bLoadAudioConfigurations
  simp only []
  split
  · split <;> rfl
  · rfl

@[simp] theorem boot_eSelecting (files : SourceFiles) :
    (Store.boot crc32 files).eSelecting = none := by
  unfold Store.boot Store.bLoadAudioConfigurations
  simp only []
  split
  · split <;> rfl
  · rfl

/-- With every file valid, the load succeeds unless two sources are selected. -/
theorem loads_of_single {files : SourceFiles}
    (hvalid : ∀ id, (Store.readEntry crc32 files id).isSome)
    (hsingle : {id | ∃ c, Store.readEntry crc32 files id = some c ∧ Marked c}.Subsingleton) :
    loads crc32 files = true := by
  have hget : ∀ id, ∃ c, Store.readEntry crc32 files id = some c := fun id =>
    Option.isSome_iff_exists.mp (hvalid id)
  have hwf : ∀ id (h : (Store.readEntry crc32 files id).isSome),
      WellFormed id ((Store.readEntry crc32 files id).get h) := by
    intro id h
    obtain ⟨b, -, hb⟩ := Option.bind_eq_some_iff.mp (Option.some_get h).symm
    exact wellFormed_of_decodeBytes hb
  have hall : Store.bValidateAllSourceConfigurations
      (fun id => (Store.readEntry crc32 files id).get (hvalid id)) = true := by
    unfold Store.bValidateAllSourceConfigurations
    simp only [Bool.and_eq_true, decide_eq_true_eq]
    refine ⟨⟨fun id => (hwf id _).id, fun id => (hwf id _).selected⟩, ?_⟩
    refine Finset.card_le_one.mpr fun i hi j hj => ?_
    exact hsingle ⟨_, (Option.some_get (hvalid i)).symm, (Finset.mem_filter.mp hi).2⟩
      ⟨_, (Option.some_get (hvalid j)).symm, (Finset.mem_filter.mp hj).2⟩
  unfold loads Store.bLoadAudioConfigurations
  simp only []
  split
  · split
    · next hbad =>
      have hbad : Store.bValidateAllSourceConfigurations
          (fun id => (Store.readEntry crc32 files id).get (hvalid id)) = false :=
        Bool.eq_false_of_not_eq_true' hbad
      exact absurd (hbad.symm.trans hall) (by simp)
    · rfl
  · next hnot => exact absurd hvalid hnot

theorem sound_boot (files : SourceFiles) : Sound (Store.boot crc32 files) := by
  rcases boot_cases crc32 files with ⟨-, hagrees, hsingle⟩ | ⟨-, hzero⟩
  · refine ⟨fun id => Or.inr ?_, hsingle, ?_⟩
    · obtain ⟨b, -, hb⟩ := Option.bind_eq_some_iff.mp (hagrees id)
      exact wellFormed_of_decodeBytes hb
    · intro prev next h
      rw [boot_eSelecting] at h
      cases h
  · refine ⟨fun id => Or.inl (hzero id), ?_, ?_⟩
    · intro i hi
      have hi : Marked ((Store.boot crc32 files).staAudioSrcConfigs i) := hi
      rw [hzero i] at hi
      cases hi
    · intro prev next h
      rw [boot_eSelecting] at h
      cases h

/-! ## §8. What holds in every run. -/

theorem saveEntry_eSelecting (id : AudioSrcId) (entry restored : AudioSourceConfig)
    (w : WriteResult) : (s.saveEntry crc32 id entry restored w).2.eSelecting = s.eSelecting := by
  unfold Store.saveEntry
  split <;> rfl

theorem mute_eSelecting (eSrcId : Nat) (bIsMute : Bool) (w : WriteResult) :
    (s.bUpdateAudioSrcMuteStatus crc32 eSrcId bIsMute w).2.eSelecting = s.eSelecting := by
  refine withSource_cases (P := fun r : Bool × Store => r.2.eSelecting = s.eSelecting) rfl
    fun id _ => ?_
  split
  · rfl
  split
  · rfl
  simp only []
  split
  · rfl
  · exact saveEntry_eSelecting _ _ _ _

theorem volume_eSelecting (eSrcId : Nat) (uiVolume : UInt8) (w : WriteResult) :
    (s.iUpdateAudioSrcVolume crc32 eSrcId uiVolume w).2.eSelecting = s.eSelecting := by
  refine withSource_cases (P := fun r : _ × Store => r.2.eSelecting = s.eSelecting) rfl
    fun id _ => ?_
  split
  · rfl
  split
  · rfl
  split
  · rfl
  simp only []
  split
  · rfl
  · exact saveEntry_eSelecting _ _ _ _

variable (crc32 s) in
/-- A record update does nothing while a selection is suspended. -/
theorem configure_eSelecting (puiData : List UInt8) (eSrcId : Nat) (w : WriteResult) :
    (s.iUpdateAudioSrcConfigurations crc32 puiData eSrcId w).2 = s
      ∨ (s.iUpdateAudioSrcConfigurations crc32 puiData eSrcId w).2.eSelecting = none := by
  unfold Store.iUpdateAudioSrcConfigurations
  split
  · exact Or.inl rfl
  refine withSource_cases (P := fun r : _ × Store => r.2 = s ∨ r.2.eSelecting = none)
    (Or.inl rfl) fun id _ => ?_
  split
  · exact Or.inl rfl
  split
  · exact Or.inl rfl
  split
  · exact Or.inl rfl
  next hidle =>
  have hidle : s.eSelecting = none := by simpa using hidle
  simp only []
  split
  · exact Or.inl rfl
  split <;> exact Or.inr hidle

/-- An operation on one field other than the marks keeps a suspended selection. -/
theorem Suspended.keep (h : Suspended s) (heff : Effect crc32 s a s')
    (hsel : s'.eSelecting = s.eSelecting)
    (howns : ∀ c c', a.Owns c c' → c'.bIsActive = c.bIsActive ∧ c'.bIsSelected = c.bIsSelected)
    (ha : a ≠ .reboot) : Suspended s' := by
  have hkeep : ∀ j, (s'.staAudioSrcConfigs j).bIsActive = (s.staAudioSrcConfigs j).bIsActive
      ∧ (s'.staAudioSrcConfigs j).bIsSelected = (s.staAudioSrcConfigs j).bIsSelected := by
    intro j
    cases heff with
    | nothing h =>
      have : s'.staAudioSrcConfigs = s.staAudioSrcConfigs := congrArg WriteThrough.cache h
      rw [this]
      exact ⟨rfl, rfl⟩
    | saved i c b o h facts =>
      have htable := congrArg WriteThrough.cache h
      have hsame : s'.staAudioSrcConfigs = s'.cached.cache := rfl
      cases o with
      | refused | misreported =>
        rw [hsame, htable]
        exact ⟨rfl, rfl⟩
      | done =>
        rw [hsame, htable]
        show (Function.update s.staAudioSrcConfigs i c j).bIsActive = _
          ∧ (Function.update s.staAudioSrcConfigs i c j).bIsSelected = _
        by_cases hj : j = i
        · subst hj
          rw [Function.update_self]
          exact howns _ _ facts.owns
        · rw [Function.update_of_ne hj]
          exact ⟨rfl, rfl⟩
    | transferred i b ha h =>
      have : s'.staAudioSrcConfigs = s.staAudioSrcConfigs := congrArg WriteThrough.cache h
      rw [this]
      exact ⟨rfl, rfl⟩
    | rebooted h _ => exact absurd h ha
  intro prev next hs'
  obtain ⟨hactive, hnone⟩ := h prev next (hsel ▸ hs')
  refine ⟨(hkeep next).1.trans hactive, fun j hj => hnone j ?_⟩
  exact (hkeep j).2.symm.trans hj

theorem suspended_select (hs : Sound s) (eSrcId : Nat) (bIsSelected : Bool) (w : WriteResult) :
    Suspended (s.iUpdateAudioScrSelected crc32 eSrcId bIsSelected w).2 := by
  refine withSource_cases (P := fun r : _ × Store => Suspended r.2) hs.suspended fun id _ => ?_
  split
  · exact hs.suspended
  split
  · exact hs.suspended
  next hidle =>
  have hidle : s.eSelecting = none := by simpa using hidle
  -- a call that does not enter the second save leaves nothing suspended
  have hnone : ∀ s' : Store, s'.eSelecting = s.eSelecting → Suspended s' := by
    intro s' h prev next hsel
    rw [h, hidle] at hsel
    cases hsel
  simp only []
  split
  · split
    · exact hs.suspended
    · exact hnone _ (saveEntry_eSelecting _ _ _ _)
  split
  · exact hs.suspended
  next hne =>
  split
  · exact hs.suspended
  next hactive =>
  split
  · exact hnone _ (saveEntry_eSelecting _ _ _ _)
  · next prev hfind =>
    have hmarked := marked_of_find hfind
    have hwf : WellFormed prev (s.staAudioSrcConfigs prev) := by
      rcases hs.entry prev with hzero | hwf
      · rw [hzero] at hmarked
        cases hmarked
      · exact hwf
    rw [restored_eq hmarked]
    -- the entry saved is the old one without its mark, and stays well formed
    have hsave := saveEntry_wellFormed crc32 s w
      (c := { s.staAudioSrcConfigs prev with bIsSelected := false })
      ⟨hwf.id, hwf.type, hwf.volume, hwf.name, fun h => by (cases h)⟩
    split
    · next iResult s₁ h₁ =>
      refine hnone _ ?_
      rw [show s₁ = _ from (congrArg Prod.snd h₁).symm]
      exact saveEntry_eSelecting _ _ _ _
    · next s₁ h₁ =>
      rw [h₁] at hsave
      obtain ⟨hs₁, hdone⟩ := hsave
      have hs₁ : s₁ = _ := hs₁
      rw [hdone.mp rfl] at hs₁
      -- both entries are between the two saves: the old one unmarked, the new one still active
      intro prev' next hsel
      obtain ⟨rfl, rfl⟩ : prev = prev' ∧ id = next := by simpa using hsel
      have hne : id ≠ prev := by
        rintro rfl
        exact hne hfind
      rw [hs₁]
      show (Function.update s.staAudioSrcConfigs prev _ id).bIsActive = true
        ∧ ∀ j, ¬ Marked (Function.update s.staAudioSrcConfigs prev _ j)
      refine ⟨?_, fun j => ?_⟩
      · rw [Function.update_of_ne hne]
        simpa using hactive
      · by_cases hj : j = prev
        · rw [hj, Function.update_self]
          intro h
          cases h
        · rw [Function.update_of_ne hj]
          -- only one source was marked before
          exact fun h => hj (hs.single h hmarked)

variable (crc32) in
theorem suspended_step (hs : Sound s) (a : Operation) : Suspended (s.step crc32 a) := by
  have heff := step_effect crc32 hs a
  cases a with
  | mute eSrcId bIsMute w =>
    exact hs.suspended.keep heff (mute_eSelecting _ _ _)
      (fun c c' h => by rw [show c' = _ from h]; exact ⟨rfl, rfl⟩) (by simp)
  | volume eSrcId uiVolume w =>
    exact hs.suspended.keep heff (volume_eSelecting _ _ _)
      (fun c c' h => by rw [show c' = _ from h]; exact ⟨rfl, rfl⟩) (by simp)
  | select eSrcId bIsSelected w => exact suspended_select hs _ _ _
  | finishSelect w =>
    show Suspended (s.finishSelection crc32 w).2
    unfold Store.finishSelection
    split
    · exact hs.suspended
    · intro prev next h
      cases h
  | configure puiData eSrcId w =>
    rcases configure_eSelecting crc32 s puiData eSrcId w with h | h
    · show Suspended (s.iUpdateAudioSrcConfigurations crc32 puiData eSrcId w).2
      rw [h]
      exact hs.suspended
    · intro prev next hsel
      rw [show (s.step crc32 (.configure puiData eSrcId w)).eSelecting = none from h] at hsel
      cases hsel
  | transfer id data => exact hs.suspended
  | reboot => exact (sound_boot s.files).suspended

/-- **What holds in every run**: whatever the writes do, the table is well formed
and at most one of its entries is selected. -/
theorem Sound.step (hs : Sound s) (a : Operation) : Sound (s.step crc32 a) := by
  have hsus := suspended_step crc32 hs a
  have heff := step_effect crc32 hs a
  generalize s.step crc32 a = s' at heff hsus
  have hcopy : ∀ s'' : Store, s''.staAudioSrcConfigs = s.staAudioSrcConfigs → Suspended s'' →
      Sound s'' := by
    intro s'' h hsus
    refine ⟨fun i => by rw [h]; exact hs.entry i, ?_, hsus⟩
    intro i hi j hj
    refine hs.single ?_ ?_
    · show Marked (s.staAudioSrcConfigs i)
      rw [← h]
      exact hi
    · show Marked (s.staAudioSrcConfigs j)
      rw [← h]
      exact hj
  cases heff with
  | nothing h => exact hcopy s' (congrArg WriteThrough.cache h) hsus
  | transferred i b ha h => exact hcopy s' (congrArg WriteThrough.cache h) hsus
  | rebooted ha h => exact h ▸ sound_boot s.files
  | saved i c b o h facts =>
    have htable : s'.staAudioSrcConfigs = _ := congrArg WriteThrough.cache h
    cases o with
    | refused | misreported => exact hcopy s' htable hsus
    | done =>
      refine ⟨fun j => ?_, ?_, hsus⟩
      · rw [htable]
        show Function.update s.staAudioSrcConfigs i c j = .zero
          ∨ WellFormed j (Function.update s.staAudioSrcConfigs i c j)
        by_cases hj : j = i
        · subst hj
          rw [Function.update_self]
          exact Or.inr (wellFormed_of_decodeBytes facts.read)
        · rw [Function.update_of_ne hj]
          exact hs.entry j
      · rw [h]
        exact WriteThrough.cacheMarks_save hs.single facts.single

end WallController.AudioSrc
