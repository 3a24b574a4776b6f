/-
  WallController.LittleFs.Paths
  ────────────────────────────────
  **THE PATHS THAT THE CONTROLLER ACCEPTS.**

  `bBuild_Validate_FullPathName` and `bDelete_Directory` test a path for its
  first bytes and for the parts `/./` and `/../`, inside and at the end.  Here
  this is read as a statement about the words between the slashes (`Contained`).

  Main results:
    * `contained_of_fullPath`: of the path of a file.
    * `contained_of_directory`: of a directory to delete, which is not the root.
-/
import WallController.LittleFs.Catalog
import Mathlib.Data.List.DropRight
import Mathlib.Data.List.Infix

namespace WallController.LittleFs

/-! ## §1. Words. -/

/-- The words of a path, where repeated slashes count as one. -/
def words (path : Path) : List Path := (splitSlash path).filter fun w => w ≠ []

/-- A path below the mount point, through which no word leads upwards. -/
structure Contained (path : Path) : Prop where
  absolute : path.head? = some slash
  mount : (words path).head? = some (ascii "lfs")
  noDots : ∀ w ∈ words path, w ≠ ascii "." ∧ w ≠ ascii ".."

variable {path rest dir name w : Path}

theorem splitSlash_cons (rest : Path) : splitSlash (slash :: rest) = [] :: splitSlash rest :=
  splitSlash_append [] rest

theorem words_append (path rest : Path) :
    words (path ++ slash :: rest) = words path ++ words rest := by
  unfold words
  rw [splitSlash_append, List.filter_append]

theorem words_name (hne : name ≠ []) (hslash : slash ∉ name) : words name = [name] := by
  unfold words
  rw [splitSlash_name hslash]
  simp [hne]

theorem words_nil : words [] = [] := rfl

theorem words_cons (rest : Path) : words (slash :: rest) = words rest := words_append [] rest

/-- The path of a file in a directory. -/
theorem words_childPath (hne : name ≠ []) (hslash : slash ∉ name) :
    words (childPath dir name) = words dir ++ [name] := by
  unfold childPath
  by_cases hsuffix : (ascii "/").isSuffixOf dir = true
  · rw [if_pos hsuffix, List.append_nil]
    obtain ⟨front, rfl⟩ := List.isSuffixOf_iff_suffix.mp hsuffix
    have hdir : words (front ++ ascii "/") = words front := by
      have h := words_append front []
      rwa [words_nil, List.append_nil] at h
    have hpath := words_append front name
    rw [words_name hne hslash] at hpath
    rw [hdir, List.append_assoc]
    exact hpath
  · rw [if_neg hsuffix, List.append_assoc]
    have hpath := words_append dir name
    rw [words_name hne hslash] at hpath
    exact hpath

/-- A byte other than a slash stands in some word. -/
theorem mem_splitSlash_of_mem {c : UInt8} (hc : c ∈ rest) (hne : c ≠ slash) :
    ∃ w ∈ splitSlash rest, c ∈ w := by
  induction rest with
  | nil => exact absurd hc List.not_mem_nil
  | cons b bs ih =>
      by_cases hb : b = slash
      · subst hb
        obtain ⟨w, hw, hcw⟩ := ih ((List.mem_cons.mp hc).resolve_left hne)
        exact ⟨w, splitSlash_cons bs ▸ List.mem_cons_of_mem _ hw, hcw⟩
      · rw [splitSlash, if_neg hb]
        cases hbs : splitSlash bs with
        | nil => exact absurd hbs (splitSlash_ne_nil bs)
        | cons w₁ ws =>
            rcases List.mem_cons.mp hc with rfl | hc
            · exact ⟨c :: w₁, List.mem_cons_self, List.mem_cons_self⟩
            · obtain ⟨w, hw, hcw⟩ := ih hc
              rw [hbs] at hw
              rcases List.mem_cons.mp hw with rfl | hw
              · exact ⟨b :: w, List.mem_cons_self, List.mem_cons_of_mem _ hcw⟩
              · exact ⟨w, List.mem_cons_of_mem _ hw, hcw⟩

theorem not_mem_of_mem_splitSlash (hw : w ∈ splitSlash rest) : slash ∉ w := by
  induction rest generalizing w with
  | nil =>
      rw [List.mem_singleton.mp hw]
      exact List.not_mem_nil
  | cons b bs ih =>
      by_cases hb : b = slash
      · subst hb
        rw [splitSlash_cons] at hw
        rcases List.mem_cons.mp hw with rfl | hw
        · exact List.not_mem_nil
        · exact ih hw
      · rw [splitSlash, if_neg hb] at hw
        cases hbs : splitSlash bs with
        | nil => exact absurd hbs (splitSlash_ne_nil bs)
        | cons w₁ ws =>
            rw [hbs] at hw ih
            rcases List.mem_cons.mp hw with rfl | hw
            · intro hmem
              rcases List.mem_cons.mp hmem with heq | hmem
              · exact hb heq.symm
              · exact ih List.mem_cons_self hmem
            · exact ih (List.mem_cons_of_mem _ hw)

theorem words_ne_nil {c : UInt8} (hlast : rest.getLast? = some c) (hne : c ≠ slash) :
    words rest ≠ [] := by
  obtain ⟨w, hw, hc⟩ := mem_splitSlash_of_mem (List.mem_of_getLast? hlast) hne
  have hmem : w ∈ words rest := List.mem_filter.mpr ⟨hw, by simpa using List.ne_nil_of_mem hc⟩
  exact List.ne_nil_of_mem hmem

/-! ## §2. The tests on a path. -/

theorem strstr_iff {part : Path} : strstr path part = true ↔ part <:+: path := by
  unfold strstr
  rw [List.any_eq_true, List.infix_iff_prefix_suffix]
  constructor
  · rintro ⟨t, ht, hpre⟩
    exact ⟨t, List.isPrefixOf_iff_prefix.mp hpre, (List.mem_tails _ _).mp ht⟩
  · rintro ⟨t, hpre, ht⟩
    exact ⟨t, (List.mem_tails _ _).mpr ht, List.isPrefixOf_iff_prefix.mpr hpre⟩

/-- A word stands after a slash, and at the end or before another slash. -/
theorem around_of_mem (h : w ∈ splitSlash rest) :
    slash :: w <:+ slash :: rest ∨ slash :: w ++ [slash] <:+: slash :: rest := by
  induction hlen : rest.length using Nat.strongRecOn generalizing rest with
  | _ len ih =>
      by_cases hslash : slash ∈ rest
      · obtain ⟨front, back, rfl, hfront⟩ := List.eq_append_cons_of_mem hslash
        rw [splitSlash_append, splitSlash_name hfront] at h
        rcases List.mem_append.mp h with h | h
        · right
          rw [List.mem_singleton.mp h]
          exact ⟨[], back, by simp⟩
        · have hshort : back.length < len := by
            rw [← hlen, List.length_append, List.length_cons]
            omega
          have hback : slash :: back <:+ slash :: (front ++ slash :: back) :=
            ⟨slash :: front, by simp⟩
          exact (ih _ hshort h rfl).imp (fun hw => hw.trans hback)
            fun hw => hw.trans hback.isInfix
      · rw [splitSlash_name hslash] at h
        left
        rw [List.mem_singleton.mp h]

/-- **The test for `.` and `..`** finds them, wherever they stand. -/
theorem noDots_of_test (htest : bContainsDotPathComponent (slash :: rest) = false)
    (h : w ∈ splitSlash rest) : w ≠ ascii "." ∧ w ≠ ascii ".." := by
  unfold bContainsDotPathComponent at htest
  simp only [Bool.or_eq_false_iff] at htest
  obtain ⟨⟨⟨hmid₂, hmid₁⟩, hend₂⟩, hend₁⟩ := htest
  have hfound : ∀ part : Path, strstr (slash :: rest) (part ++ [slash]) = false →
      part.isSuffixOf (slash :: rest) = false → part ≠ slash :: w := by
    rintro part hmid hend rfl
    rcases around_of_mem h with hw | hw
    · rw [List.isSuffixOf_iff_suffix.mpr hw] at hend
      cases hend
    · rw [strstr_iff.mpr hw] at hmid
      cases hmid
  constructor
  · rintro rfl
    exact hfound (ascii "/.") hmid₁ hend₁ rfl
  · rintro rfl
    exact hfound (ascii "/..") hmid₂ hend₂ rfl

/-- The test for the mount point, after which a slash stands. -/
theorem mount_append (hmount : EXT_LITTLEFS_MOUNT_POINT.isPrefixOf path = true)
    (hnext : (path.drop EXT_LITTLEFS_MOUNT_POINT.length).head? = some slash) :
    ∃ rest, path = EXT_LITTLEFS_MOUNT_POINT ++ slash :: rest := by
  obtain ⟨back, rfl⟩ := List.isPrefixOf_iff_prefix.mp hmount
  rw [List.drop_left] at hnext
  obtain ⟨rest, rfl⟩ := List.head?_eq_some_iff.mp hnext
  exact ⟨rest, rfl⟩

theorem words_mount : words EXT_LITTLEFS_MOUNT_POINT = [ascii "lfs"] := by decide

/-- The two tests together. -/
theorem contained_of_tests
    (hmount : path = EXT_LITTLEFS_MOUNT_POINT
      ∨ ∃ rest, path = EXT_LITTLEFS_MOUNT_POINT ++ slash :: rest)
    (htest : bContainsDotPathComponent path = false) : Contained path := by
  have hstart : ∃ back, path = slash :: back ∧ (words path).head? = some (ascii "lfs") := by
    rcases hmount with rfl | ⟨rest, rfl⟩
    · exact ⟨ascii "lfs", rfl, rfl⟩
    · refine ⟨ascii "lfs" ++ slash :: rest, rfl, ?_⟩
      rw [words_append, words_mount]
      rfl
  obtain ⟨back, rfl, hhead⟩ := hstart
  refine ⟨rfl, hhead, fun w hw => noDots_of_test htest ?_⟩
  rw [words_cons] at hw
  exact List.mem_of_mem_filter hw

/-! ## §3. What is accepted. -/

/-- The tests of `bBuild_Validate_FullPathName`. -/
theorem tests_of_fullPath (h : bBuildValidateFullPathName dir name = some path) :
    (name ≠ [] ∧ slash ∉ name ∧ name ≠ ascii "." ∧ name ≠ ascii "..")
      ∧ Contained dir ∧ path = childPath dir name ∧ name.length < MAX_FILE_NAME_LENGTH
      ∧ path.length < MAX_FILE_PATH_LENGTH := by
  unfold bBuildValidateFullPathName at h
  dsimp only at h
  split at h
  · cases h
  split at h
  · cases h
  split at h
  · cases h
  split at h
  · cases h
  split at h
  · cases h
  split at h
  · cases h
  split at h
  · cases h
  rename_i hname _ hslash _ hmount htest hdots
  replace h : (if (childPath dir name).length ≥ MAX_FILE_PATH_LENGTH then none
    else some (childPath dir name)) = some path := h
  split at h
  · cases h
  rename_i hlen
  cases h
  obtain ⟨hpre, hnext⟩ := not_or.mp hmount
  obtain ⟨hdot₁, hdot₂⟩ := not_or.mp hdots
  have hnonempty : name ≠ [] := by
    rintro rfl
    exact hname (Or.inl (Nat.zero_min _))
  have hdir : Contained dir := by
    refine contained_of_tests ?_ (by simpa using htest)
    have hpre : EXT_LITTLEFS_MOUNT_POINT.isPrefixOf dir = true := by simpa using hpre
    rcases not_and_or.mp hnext with hend | hnext
    · obtain ⟨back, rfl⟩ := List.isPrefixOf_iff_prefix.mp hpre
      rw [List.drop_left] at hend
      left
      rw [List.head?_eq_none_iff.mp (not_not.mp hend), List.append_nil]
    · exact Or.inr (mount_append hpre (not_not.mp hnext))
  refine ⟨⟨hnonempty, fun hmem => ?_, hdot₁, hdot₂⟩, hdir, rfl, by omega, Nat.lt_of_not_le hlen⟩
  obtain ⟨front, back, rfl⟩ := List.append_of_mem hmem
  exact hslash (strstr_iff.mpr ⟨front, back, by simp [ascii, slash]⟩)

/-- **The path of a file** is below the mount point, and ends in the name. -/
theorem contained_of_fullPath (h : bBuildValidateFullPathName dir name = some path) :
    path.length < MAX_FILE_PATH_LENGTH ∧ Contained path ∧ (words path).getLast? = some name
      ∧ slash ∉ name := by
  obtain ⟨⟨hne, hslash, hdot₁, hdot₂⟩, hdir, rfl, -, hlen⟩ := tests_of_fullPath h
  have hwords : words (childPath dir name) = words dir ++ [name] := words_childPath hne hslash
  refine ⟨hlen, ⟨?_, ?_, ?_⟩, ?_, hslash⟩
  · unfold childPath
    rw [List.append_assoc, List.head?_append, hdir.absolute]
    rfl
  · rw [hwords, List.head?_append, hdir.mount]
    rfl
  · intro w hw
    rw [hwords] at hw
    rcases List.mem_append.mp hw with hw | hw
    · exact hdir.noDots w hw
    · rw [List.mem_singleton.mp hw]
      exact ⟨hdot₁, hdot₂⟩
  · rw [hwords, List.getLast?_concat]

/-- Trimmed to more than one byte, a path does not end in a slash. -/
theorem getLast_trimSlashes (hlen : 1 < (trimSlashes path).length) :
    ∃ c, (trimSlashes path).getLast? = some c ∧ c ≠ slash := by
  cases path with
  | nil => exact absurd hlen (by decide)
  | cons b bs =>
      have htrim : trimSlashes (b :: bs) = b :: bs.rdropWhile fun b => b = slash := rfl
      rw [htrim] at hlen ⊢
      have hne : (bs.rdropWhile fun b => decide (b = slash)) ≠ [] := by
        intro hnil
        rw [hnil] at hlen
        exact absurd hlen (Nat.lt_irrefl 1)
      refine ⟨_, ?_, fun hslash =>
        List.rdropWhile_last_not (fun b => decide (b = slash)) bs hne (decide_eq_true hslash)⟩
      rw [List.getLast?_cons, List.getLast?_eq_some_getLast hne]
      rfl

theorem length_trimSlashes (path : Path) : (trimSlashes path).length ≤ path.length := by
  cases path with
  | nil => exact Nat.le_refl 0
  | cons b bs =>
      have hpre := List.rdropWhile_prefix (fun b => decide (b = slash)) bs
      exact Nat.succ_le_succ hpre.length_le

/-- **The directory to delete** is below the mount point, and not the mount point
itself. -/
theorem contained_of_directory (h : directoryToDelete dir = some path) :
    Contained path ∧ 2 ≤ (words path).length ∧ path.length < MAX_FILE_PATH_LENGTH
      ∧ (∃ rest, path = EXT_LITTLEFS_MOUNT_POINT ++ slash :: rest)
      ∧ ∃ c, path.getLast? = some c ∧ c ≠ slash := by
  unfold directoryToDelete at h
  dsimp only at h
  split at h
  · cases h
  split at h
  · cases h
  rename_i hlen htests
  cases h
  simp only [not_or] at htests
  obtain ⟨hlong, hmount, hnext, htest⟩ := htests
  obtain ⟨rest, hpath⟩ := mount_append (by simpa using hmount) (not_not.mp hnext)
  have hlast : ∃ c, (trimSlashes dir).getLast? = some c ∧ c ≠ slash := by
    refine getLast_trimSlashes ?_
    have hmountLen : EXT_LITTLEFS_MOUNT_POINT.length = 4 := rfl
    omega
  have hshort := length_trimSlashes dir
  refine ⟨contained_of_tests (Or.inr ⟨rest, hpath⟩) (by simpa using htest), ?_, by omega,
    ⟨rest, hpath⟩, hlast⟩
  obtain ⟨c, hlast, hc⟩ := hlast
  rw [hpath] at hlast ⊢
  rw [words_append, words_mount, List.length_append, List.length_singleton]
  have hrest : (slash :: rest).getLast? = some c := by
    rwa [List.getLast?_append_of_ne_nil _ (List.cons_ne_nil _ _)] at hlast
  have hne : words (slash :: rest) ≠ [] := words_ne_nil hrest hc
  rw [words_cons] at hne
  have hpos := List.length_pos_iff.mpr hne
  omega

theorem names_of_words {ws : List Path} (hslash : ∀ w ∈ ws, slash ∉ w)
    (hdots : ∀ w ∈ ws, w ≠ [] → w ≠ ascii "." ∧ w ≠ ascii "..") :
    (ws.filterMap Name.of).map Subtype.val = ws.filter fun w => w ≠ [] := by
  induction ws with
  | nil => rfl
  | cons w ws ih =>
      obtain ⟨hw, hslashes⟩ := List.forall_mem_cons.mp hslash
      obtain ⟨hd, hdots'⟩ := List.forall_mem_cons.mp hdots
      have hrest := ih hslashes hdots'
      by_cases hne : w = []
      · subst hne
        exact hrest
      · have hname : Name.of w = some ⟨w, hne, hw, hd hne⟩ := dif_pos _
        rw [List.filterMap_cons, hname, List.filter_cons_of_pos (by simpa using hne)]
        exact congrArg _ hrest

/-- The node of a contained path has the names that the path has as words. -/
theorem components_of_contained (h : Contained (EXT_LITTLEFS_MOUNT_POINT ++ slash :: rest)) :
    (components (EXT_LITTLEFS_MOUNT_POINT ++ slash :: rest)).map Subtype.val = words rest := by
  unfold components
  rw [List.drop_left, splitSlash_cons]
  show ((splitSlash rest).filterMap Name.of).map Subtype.val = words rest
  refine names_of_words (fun w hw => not_mem_of_mem_splitSlash hw) ?_
  intro w hw hne
  refine h.noDots w ?_
  rw [words_append]
  exact List.mem_append_right _ (List.mem_filter.mpr ⟨hw, by simpa using hne⟩)

end WallController.LittleFs
