/-
  WallController.Lib.FileTree
  ────────────────────────────────
  **TREES OF DIRECTORIES AND FILES, AND THEIR TRAVERSAL.**

  A node is the list of names that leads to it from the root.  A tree is the
  list of its nodes below the root, each once and each in a directory of the
  tree; it is changed by `add` and `remove`.

  A traversal has visited some directories and knows of others (`Frontier`).
  The visit of a known directory makes its subdirectories known; whatever the
  order of the visits, each directory is visited once, and when none is left
  all have been.
-/
import Mathlib.Data.List.Basic
import Mathlib.Data.List.Induction
import Mathlib.Data.List.Nodup
import Mathlib.Data.List.Perm.Basic
import Mathlib.Data.List.Perm.Subperm

namespace WallController.Lib

/-- A file or a directory. -/
inductive EntryType where
  | file
  | dir
  deriving DecidableEq, Repr

/-- The nodes below the root. -/
structure FileTree (ν : Type*) where
  entries : List (List ν × EntryType)
  nodup : (entries.map Prod.fst).Nodup
  rooted : ∀ e ∈ entries, e.1 ≠ [] ∧ (e.1.dropLast = [] ∨ (e.1.dropLast, EntryType.dir) ∈ entries)

namespace FileTree

variable {ν : Type*} {t t' : FileTree ν} {n d : List ν} {k : EntryType} {x : ν}

/-! ## §1. The nodes. -/

def files (t : FileTree ν) : List (List ν) :=
  (t.entries.filter fun e => e.2 = .file).map Prod.fst

/-- The directories, from the root on. -/
def dirs (t : FileTree ν) : List (List ν) :=
  [] :: (t.entries.filter fun e => e.2 = .dir).map Prod.fst

theorem mem_files : n ∈ t.files ↔ (n, EntryType.file) ∈ t.entries := by
  simp [files]

theorem mem_dirs : n ∈ t.dirs ↔ n = [] ∨ (n, EntryType.dir) ∈ t.entries := by
  simp [dirs]

theorem nodup_files (t : FileTree ν) : t.files.Nodup :=
  t.nodup.sublist (List.filter_sublist.map _)

theorem nodup_dirs (t : FileTree ν) : t.dirs.Nodup := by
  refine List.nodup_cons.mpr ⟨fun hroot => ?_, t.nodup.sublist (List.filter_sublist.map _)⟩
  obtain ⟨e, he, hnil⟩ := List.mem_map.mp hroot
  exact (t.rooted e (List.mem_of_mem_filter he)).1 hnil

variable [DecidableEq ν]

/-- What a node is, if it is in the tree. -/
def kind (t : FileTree ν) (n : List ν) : Option EntryType :=
  if n = [] then some .dir else (t.entries.find? fun e => e.1 = n).map Prod.snd

theorem kind_of_mem (h : (n, k) ∈ t.entries) : t.kind n = some k := by
  unfold kind
  rw [if_neg (t.rooted _ h).1]
  cases hfind : t.entries.find? fun e => e.1 = n with
  | none => exact absurd (decide_eq_true rfl) (List.find?_eq_none.mp hfind _ h)
  | some e =>
      have hn : e.1 = n := by simpa using List.find?_some hfind
      have he : e = (n, k) :=
        List.inj_on_of_nodup_map t.nodup (List.mem_of_find?_eq_some hfind) h hn
      rw [he]
      rfl

theorem mem_of_kind (hn : n ≠ []) (h : t.kind n = some k) : (n, k) ∈ t.entries := by
  unfold kind at h
  rw [if_neg hn] at h
  obtain ⟨e, hfind, rfl⟩ := Option.map_eq_some_iff.mp h
  have he : e.1 = n := by simpa using List.find?_some hfind
  subst he
  exact List.mem_of_find?_eq_some hfind

theorem kind_dir_iff : t.kind n = some .dir ↔ n ∈ t.dirs := by
  rw [mem_dirs]
  by_cases hn : n = []
  · simp [kind, hn]
  · constructor
    · exact fun h => Or.inr (mem_of_kind hn h)
    · exact fun h => kind_of_mem (h.resolve_left hn)

theorem kind_file_iff : t.kind n = some .file ↔ n ∈ t.files := by
  rw [mem_files]
  by_cases hn : n = []
  · subst hn
    constructor
    · intro h
      cases h
    · exact fun h => absurd rfl (t.rooted _ h).1
  · exact ⟨mem_of_kind hn, kind_of_mem⟩

theorem kind_none_iff : t.kind n = none ↔ n ≠ [] ∧ n ∉ t.entries.map Prod.fst := by
  constructor
  · intro h
    refine ⟨?_, fun hmem => ?_⟩
    · rintro rfl
      cases h
    · obtain ⟨e, he, rfl⟩ := List.mem_map.mp hmem
      rw [kind_of_mem he] at h
      cases h
  · rintro ⟨hn, hmem⟩
    cases hk : t.kind n with
    | none => rfl
    | some k => exact absurd (List.mem_map_of_mem (mem_of_kind hn hk)) hmem

/-! ## §2. Listings. -/

/-- The name and type of an entry of the directory. -/
def childOf (d : List ν) (e : List ν × EntryType) : Option (ν × EntryType) :=
  match e.1.getLast? with
  | some x => if e.1.dropLast = d then some (x, e.2) else none
  | none => none

/-- The listing of a directory. -/
def children (t : FileTree ν) (d : List ν) : List (ν × EntryType) := t.entries.filterMap (childOf d)

theorem childOf_eq_some {e : List ν × EntryType} :
    childOf d e = some (x, k) ↔ e = (d ++ [x], k) := by
  obtain ⟨n, k'⟩ := e
  unfold childOf
  rcases List.eq_nil_or_concat n with rfl | ⟨l, y, rfl⟩
  · simp
  · simp only [List.concat_eq_append, List.getLast?_concat, List.dropLast_concat]
    by_cases hd : l = d
    · subst hd
      simp
    · rw [if_neg hd]
      simp [hd]

theorem mem_children : (x, k) ∈ t.children d ↔ (d ++ [x], k) ∈ t.entries := by
  unfold children
  rw [List.mem_filterMap]
  constructor
  · rintro ⟨e, he, hx⟩
    rw [childOf_eq_some.mp hx] at he
    exact he
  · exact fun h => ⟨_, h, childOf_eq_some.mpr rfl⟩

/-- The nodes of one type in a directory. -/
def nodesIn (t : FileTree ν) (k : EntryType) (d : List ν) : List (List ν) :=
  ((t.children d).filter fun c => c.2 = k).map fun c => d ++ [c.1]

theorem mem_nodesIn : n ∈ t.nodesIn k d ↔ ∃ x, n = d ++ [x] ∧ (n, k) ∈ t.entries := by
  unfold nodesIn
  rw [List.mem_map]
  constructor
  · rintro ⟨⟨x, k'⟩, hc, rfl⟩
    obtain ⟨hchild, hk⟩ := List.mem_filter.mp hc
    obtain rfl : k' = k := of_decide_eq_true hk
    exact ⟨x, rfl, mem_children.mp hchild⟩
  · rintro ⟨x, rfl, h⟩
    exact ⟨(x, k), List.mem_filter.mpr ⟨mem_children.mpr h, decide_eq_true rfl⟩, rfl⟩

theorem mem_nodesIn_dropLast (hn : n ∈ t.dirs) (hne : n ≠ []) : n ∈ t.nodesIn .dir n.dropLast :=
  mem_nodesIn.mpr ⟨n.getLast hne, (List.dropLast_concat_getLast hne).symm,
    (mem_dirs.mp hn).resolve_left hne⟩

theorem nodup_children (t : FileTree ν) (d : List ν) :
    ((t.children d).map fun c => d ++ [c.1]).Nodup := by
  refine t.nodup.sublist ?_
  unfold children
  induction t.entries with
  | nil => exact List.Sublist.slnil
  | cons e es ih =>
      rw [List.filterMap_cons]
      cases hc : childOf d e with
      | none => exact ih.cons _
      | some c =>
          obtain ⟨x, k⟩ := c
          rw [childOf_eq_some.mp hc]
          exact ih.cons_cons _

theorem nodup_nodesIn : (t.nodesIn k d).Nodup :=
  (t.nodup_children d).sublist (List.filter_sublist.map _)

/-! ## §3. Changes. -/

/-- A new node in a directory of the tree. -/
def add (t : FileTree ν) (n : List ν) (k : EntryType) (hnew : t.kind n = none)
    (hdir : t.kind n.dropLast = some .dir) : FileTree ν where
  entries := t.entries ++ [(n, k)]
  nodup := by
    rw [List.map_append, List.nodup_append]
    refine ⟨t.nodup, List.nodup_singleton n, fun a ha b hb => ?_⟩
    obtain rfl : b = n := by simpa using hb
    rintro rfl
    exact (kind_none_iff.mp hnew).2 ha
  rooted := by
    intro e he
    rcases List.mem_append.mp he with he | he
    · exact ⟨(t.rooted e he).1, (t.rooted e he).2.imp_right (List.mem_append_left _)⟩
    · obtain rfl : e = (n, k) := by simpa using he
      refine ⟨(kind_none_iff.mp hnew).1, ?_⟩
      exact (mem_dirs.mp (kind_dir_iff.mp hdir)).imp_right (List.mem_append_left _)

/-- Remove a node that is not the directory of another one. -/
def remove (t : FileTree ν) (n : List ν) (hempty : t.children n = []) : FileTree ν where
  entries := t.entries.filter fun e => e.1 ≠ n
  nodup := t.nodup.sublist (List.filter_sublist.map _)
  rooted := by
    intro e he
    obtain ⟨he, -⟩ := List.mem_filter.mp he
    obtain ⟨hne, hdir⟩ := t.rooted e he
    refine ⟨hne, hdir.imp_right fun hdir => List.mem_filter.mpr ⟨hdir, decide_eq_true ?_⟩⟩
    intro hn
    have hchild : (e.1.getLast hne, e.2) ∈ t.children n := by
      rw [mem_children, ← hn, List.dropLast_concat_getLast hne]
      exact he
    rw [hempty] at hchild
    exact List.not_mem_nil hchild

/-- A file is not the directory of another node. -/
theorem children_of_file (h : (n, EntryType.file) ∈ t.entries) : t.children n = [] := by
  refine List.eq_nil_iff_forall_not_mem.mpr fun c hc => ?_
  have hparent := (t.rooted _ (mem_children.mp hc)).2
  rw [List.dropLast_concat, ← mem_dirs, ← kind_dir_iff, kind_of_mem h] at hparent
  cases hparent

theorem children_eq_nil_iff : t.children d = [] ↔ ∀ e ∈ t.entries, e.1.dropLast ≠ d := by
  constructor
  · rintro hnil e he rfl
    have hne := (t.rooted e he).1
    have hmem : (e.1.getLast hne, e.2) ∈ t.children e.1.dropLast := by
      rw [mem_children, List.dropLast_concat_getLast hne]
      exact he
    rw [hnil] at hmem
    exact List.not_mem_nil hmem
  · intro h
    refine List.eq_nil_iff_forall_not_mem.mpr fun c hc => ?_
    exact h _ (mem_children.mp hc) List.dropLast_concat

theorem children_remove {hempty : t.children n = []} :
    (t.remove n hempty).children d = (t.children d).filter fun c => d ++ [c.1] ≠ n := by
  show (t.entries.filter fun e => e.1 ≠ n).filterMap (childOf d) = _
  unfold children
  induction t.entries with
  | nil => rfl
  | cons e es ih =>
      rw [List.filterMap_cons]
      cases hc : childOf d e with
      | none =>
          by_cases hn : e.1 = n
          · rw [List.filter_cons_of_neg (by simpa using hn)]
            exact ih
          · rw [List.filter_cons_of_pos (by simpa using hn), List.filterMap_cons, hc]
            exact ih
      | some c =>
          obtain ⟨x, k⟩ := c
          have he := childOf_eq_some.mp hc
          subst he
          by_cases hn : d ++ [x] = n
          · rw [List.filter_cons_of_neg (by simpa using hn),
              List.filter_cons_of_neg (by simpa using hn)]
            exact ih
          · rw [List.filter_cons_of_pos (by simpa using hn),
              List.filter_cons_of_pos (by simpa using hn), List.filterMap_cons, hc]
            exact congrArg _ ih

/-- The first entry of a listing is removed from it. -/
theorem children_remove_head {rest : List (ν × EntryType)} {hempty : t.children (d ++ [x]) = []}
    (h : t.children d = (x, k) :: rest) : (t.remove (d ++ [x]) hempty).children d = rest := by
  have hnodup := t.nodup_children d
  rw [h, List.map_cons, List.nodup_cons] at hnodup
  rw [children_remove, h, List.filter_cons_of_neg (by simp)]
  refine List.filter_eq_self.mpr fun c hc => decide_eq_true fun heq => hnodup.1 ?_
  exact List.mem_map.mpr ⟨c, hc, heq⟩

/-- A removal of what is there leaves less. -/
theorem length_remove_lt {hempty : t.children n = []} (h : (n, k) ∈ t.entries) :
    (t.remove n hempty).entries.length < t.entries.length :=
  List.length_filter_lt_length_iff_exists.mpr ⟨(n, k), h, by simp⟩

/-- Fewer nodes. -/
def Within (t t' : FileTree ν) : Prop := t.entries.Sublist t'.entries

omit [DecidableEq ν] in
theorem Within.refl (t : FileTree ν) : t.Within t := List.Sublist.refl _

omit [DecidableEq ν] in
theorem Within.trans {t'' : FileTree ν} (h : t.Within t') (h' : t'.Within t'') : t.Within t'' :=
  List.Sublist.trans h h'

theorem remove_within {hempty : t.children n = []} : (t.remove n hempty).Within t :=
  List.filter_sublist

omit [DecidableEq ν] in
theorem Within.files (h : t.Within t') : t.files.Sublist t'.files := (h.filter _).map _

omit [DecidableEq ν] in
theorem Within.dirs (h : t.Within t') : t.dirs.Sublist t'.dirs := ((h.filter _).map _).cons_cons _

theorem files_add_file {hnew : t.kind n = none} {hdir : t.kind n.dropLast = some .dir} :
    (t.add n .file hnew hdir).files = t.files ++ [n] := by
  simp [files, add]

theorem files_add_dir {hnew : t.kind n = none} {hdir : t.kind n.dropLast = some .dir} :
    (t.add n .dir hnew hdir).files = t.files := by
  simp [files, add]

/-! ## §4. Traversals. -/

/-- The directories below `root` that are visited, and those known and not yet
visited. -/
structure Frontier (t : FileTree ν) (root : List ν) (visited known : List (List ν)) : Prop where
  nodup : (visited ++ known).Nodup
  start : root ∈ visited ++ known
  closed : ∀ d ∈ visited, ∀ n ∈ t.nodesIn .dir d, n ∈ visited ++ known
  inside : ∀ n ∈ visited ++ known,
    n ∈ t.dirs ∧ root <+: n ∧ (n = root ∨ n.dropLast ∈ visited)

variable {root : List ν} {visited known known' : List (List ν)}

theorem Frontier.init (h : root ∈ t.dirs) : Frontier t root [] [root] where
  nodup := List.nodup_singleton _
  start := List.mem_singleton_self _
  closed d hd := absurd hd List.not_mem_nil
  inside n hn := by
    obtain rfl : n = root := List.mem_singleton.mp hn
    exact ⟨h, List.prefix_refl _, Or.inl rfl⟩

theorem Frontier.perm (h : Frontier t root visited known) (hperm : known.Perm known') :
    Frontier t root visited known' := by
  have hall := hperm.append_left visited
  refine ⟨hall.nodup_iff.mp h.nodup, hall.mem_iff.mp h.start, ?_, ?_⟩
  · exact fun d hd n hn => hall.mem_iff.mp (h.closed d hd n hn)
  · exact fun n hn => h.inside n (hall.mem_iff.mpr hn)

/-- A subdirectory of a known directory is new, because its parent has not been
visited before. -/
theorem Frontier.fresh (h : Frontier t root visited (known ++ [d])) {n : List ν}
    (hn : n ∈ t.nodesIn .dir d) : n ∉ visited ++ (known ++ [d]) := by
  intro hold
  obtain ⟨x, rfl, -⟩ := mem_nodesIn.mp hn
  rcases (h.inside _ hold).2.2 with hroot | hparent
  · have hlen := (h.inside d (by simp)).2.1.length_le
    rw [← hroot, List.length_append, List.length_singleton] at hlen
    omega
  · rw [List.dropLast_concat] at hparent
    exact (List.nodup_append.mp h.nodup).2.2 d hparent d (by simp) rfl

/-- **A visit** of a known directory, whose subdirectories become known. -/
theorem Frontier.visit (h : Frontier t root visited (known ++ [d])) :
    Frontier t root (visited ++ [d]) (known ++ t.nodesIn .dir d) := by
  have hmem : ∀ n, n ∈ (visited ++ [d]) ++ (known ++ t.nodesIn .dir d)
      ↔ n ∈ visited ++ (known ++ [d]) ∨ n ∈ t.nodesIn .dir d := by
    intro n
    simp only [List.mem_append, List.mem_singleton]
    tauto
  refine ⟨?_, ?_, ?_, ?_⟩
  · have hperm : ((visited ++ [d]) ++ (known ++ t.nodesIn .dir d)).Perm
        ((visited ++ (known ++ [d])) ++ t.nodesIn .dir d) := by
      simp only [List.append_assoc]
      refine List.Perm.append_left _ ?_
      rw [← List.append_assoc, ← List.append_assoc]
      exact List.Perm.append_right _ List.perm_append_comm
    rw [hperm.nodup_iff, List.nodup_append]
    refine ⟨h.nodup, nodup_nodesIn, ?_⟩
    rintro a ha b hb rfl
    exact h.fresh hb ha
  · exact (hmem root).mpr (Or.inl h.start)
  · intro d' hd' n hn
    rw [hmem]
    rcases List.mem_append.mp hd' with hd' | hd'
    · exact Or.inl (h.closed d' hd' n hn)
    · obtain rfl : d' = d := List.mem_singleton.mp hd'
      exact Or.inr hn
  · intro n hn
    rcases (hmem n).mp hn with hn | hn
    · obtain ⟨hdir, hroot, hparent⟩ := h.inside n hn
      exact ⟨hdir, hroot, hparent.imp_right (List.mem_append_left _)⟩
    · have hroot := (h.inside d (by simp)).2.1
      obtain ⟨x, rfl, hentry⟩ := mem_nodesIn.mp hn
      refine ⟨mem_dirs.mpr (Or.inr hentry), hroot.trans (List.prefix_append _ _), Or.inr ?_⟩
      rw [List.dropLast_concat]
      exact List.mem_append_right _ (List.mem_singleton_self d)

/-- **Completeness**: where no directory is left, all have been visited. -/
theorem Frontier.complete (h : Frontier t root visited []) (hd : d ∈ t.dirs)
    (hroot : root <+: d) : d ∈ visited := by
  have hstart := h.start
  rw [List.append_nil] at hstart
  by_cases heq : root = d
  · exact heq ▸ hstart
  · induction d using List.reverseRecOn with
    | nil => exact absurd (List.prefix_nil.mp hroot) heq
    | append_singleton d x ih =>
        have hentry := (mem_dirs.mp hd).resolve_left (by simp)
        have hdir := (t.rooted _ hentry).2
        rw [List.dropLast_concat, ← mem_dirs] at hdir
        have hpre := (List.prefix_concat_iff.mp hroot).resolve_left heq
        have hparent : d ∈ visited := by
          by_cases hd' : root = d
          · exact hd' ▸ hstart
          · exact ih hdir hpre hd'
        have hmem := h.closed d hparent _ (mem_nodesIn.mpr ⟨x, rfl, hentry⟩)
        rwa [List.append_nil] at hmem

/-- There are no more known directories than directories. -/
theorem Frontier.length_le (h : Frontier t root visited known) :
    (visited ++ known).length ≤ t.dirs.length :=
  (h.nodup.subperm fun n hn => (h.inside n hn).1).length_le

/-- The files of the visited directories are listed once. -/
theorem Frontier.nodup_files (h : Frontier t root visited known) :
    (visited.flatMap (t.nodesIn .file)).Nodup := by
  rw [List.nodup_flatMap]
  refine ⟨fun d _ => nodup_nodesIn, ?_⟩
  refine (List.nodup_append.mp h.nodup).1.imp fun {d d'} hne => ?_
  intro n hn hn'
  obtain ⟨x, rfl, -⟩ := mem_nodesIn.mp hn
  obtain ⟨x', heq, -⟩ := mem_nodesIn.mp hn'
  exact hne (List.append_inj_left' heq rfl)

theorem Frontier.files_subset {n : List ν} (hn : n ∈ visited.flatMap (t.nodesIn .file)) :
    n ∈ t.files := by
  obtain ⟨d, -, hn⟩ := List.mem_flatMap.mp hn
  obtain ⟨x, -, hentry⟩ := mem_nodesIn.mp hn
  exact mem_files.mpr hentry

theorem Frontier.length_files_le (h : Frontier t root visited known) :
    (visited.flatMap (t.nodesIn .file)).length ≤ t.files.length :=
  (h.nodup_files.subperm fun _ hn => files_subset hn).length_le

/-- **The files** that a complete traversal lists are the files of the tree. -/
theorem Frontier.files_perm (h : Frontier t [] visited []) :
    (visited.flatMap (t.nodesIn .file)).Perm t.files := by
  refine (List.perm_ext_iff_of_nodup h.nodup_files t.nodup_files).mpr fun n => ⟨files_subset, ?_⟩
  intro hn
  have hentry := mem_files.mp hn
  obtain ⟨hne, hdir⟩ := t.rooted _ hentry
  refine List.mem_flatMap.mpr ⟨n.dropLast, h.complete (mem_dirs.mpr hdir) List.nil_prefix, mem_nodesIn.mpr ?_⟩
  exact ⟨n.getLast hne, (List.dropLast_concat_getLast hne).symm, hentry⟩

/-! ## §5. The breadth first order. -/

/-- A known directory found first is visited first. -/
theorem Frontier.next {ds : List (List ν)} (h : Frontier t root visited (d :: ds)) :
    Frontier t root (visited ++ [d]) (ds ++ t.nodesIn .dir d) :=
  (h.perm (List.perm_append_singleton d ds).symm).visit

/-- The visits from the queue on. -/
def breadthFirst (t : FileTree ν) : Nat → List (List ν) → List (List ν)
  | 0, _ => []
  | _ + 1, [] => []
  | fuel + 1, d :: ds => d :: t.breadthFirst fuel (ds ++ t.nodesIn .dir d)

/-- The directories from `root` down, those of each depth together. -/
def below (t : FileTree ν) (root : List ν) : List (List ν) := t.breadthFirst t.dirs.length [root]

variable {fuel : Nat}

theorem Frontier.known_nil (h : Frontier t root visited known)
    (hfuel : t.dirs.length ≤ visited.length) : known = [] := by
  have hle := h.length_le
  rw [List.length_append] at hle
  exact List.eq_nil_of_length_eq_zero (by omega)

theorem Frontier.breadthFirst (h : Frontier t root visited known)
    (hfuel : t.dirs.length ≤ fuel + visited.length) :
    Frontier t root (visited ++ t.breadthFirst fuel known) [] := by
  induction fuel generalizing visited known with
  | zero =>
      obtain rfl := h.known_nil (by omega)
      rwa [FileTree.breadthFirst, List.append_nil]
  | succ fuel ih =>
      cases known with
      | nil => rwa [FileTree.breadthFirst, List.append_nil]
      | cons d ds =>
          have hnext := ih h.next (by rw [List.length_append, List.length_singleton]; omega)
          rwa [List.append_assoc] at hnext

/-- What is known is visited. -/
theorem Frontier.length_le_breadthFirst (h : Frontier t root visited known)
    (hfuel : t.dirs.length ≤ fuel + visited.length) :
    (visited ++ known).length ≤ (visited ++ t.breadthFirst fuel known).length := by
  have hall := h.breadthFirst hfuel
  refine (h.nodup.subperm fun n hn => ?_).length_le
  exact hall.complete (h.inside n hn).1 (h.inside n hn).2.1

/-- The subdirectories come after their directory. -/
theorem Frontier.order (h : Frontier t root visited known)
    (hfuel : t.dirs.length ≤ fuel + visited.length) {front back : List (List ν)}
    (hsplit : t.breadthFirst fuel known = front ++ d :: back) (hn : n ∈ t.nodesIn .dir d) :
    n ∈ back := by
  induction fuel generalizing visited known front with
  | zero =>
      rw [FileTree.breadthFirst] at hsplit
      exact absurd hsplit.symm (by simp)
  | succ fuel ih =>
      cases known with
      | nil =>
          rw [FileTree.breadthFirst] at hsplit
          exact absurd hsplit.symm (by simp)
      | cons d' ds =>
          rw [FileTree.breadthFirst] at hsplit
          have hfuel' : t.dirs.length ≤ fuel + (visited ++ [d']).length := by
            rw [List.length_append, List.length_singleton]
            omega
          cases front with
          | nil =>
              obtain ⟨rfl, rfl⟩ := List.cons.inj hsplit
              have hknown : n ∈ ds ++ t.nodesIn .dir d' := List.mem_append_right _ hn
              have hin := h.next.inside n (List.mem_append_right _ hknown)
              have hall := (h.next.breadthFirst hfuel').complete hin.1 hin.2.1
              refine (List.mem_append.mp hall).resolve_left fun hold => ?_
              exact (List.nodup_append.mp h.next.nodup).2.2 n hold n hknown rfl
          | cons d'' front =>
              exact ih h.next hfuel' (List.cons.inj hsplit).2

variable (hroot : root ∈ t.dirs)
include hroot

theorem frontier_below : Frontier t root (t.below root) [] :=
  (Frontier.init hroot).breadthFirst (Nat.le_add_right _ _)

theorem nodup_below : (t.below root).Nodup := by
  have h := (frontier_below hroot).nodup
  rwa [List.append_nil] at h

theorem mem_below : d ∈ t.below root ↔ d ∈ t.dirs ∧ root <+: d := by
  constructor
  · intro hd
    have hin := (frontier_below hroot).inside d (by rwa [List.append_nil])
    exact ⟨hin.1, hin.2.1⟩
  · exact fun h => (frontier_below hroot).complete h.1 h.2

theorem below_order {front back : List (List ν)} (hsplit : t.below root = front ++ d :: back)
    (hn : n ∈ t.nodesIn .dir d) : n ∈ back :=
  (Frontier.init hroot).order (Nat.le_add_right _ _) hsplit hn

theorem below_eq_cons : ∃ rest, t.below root = root :: rest := by
  have hpos : 0 < t.dirs.length := List.length_pos_of_mem hroot
  obtain ⟨fuel, hfuel⟩ := Nat.exists_eq_succ_of_ne_zero (Nat.pos_iff_ne_zero.mp hpos)
  unfold below
  rw [hfuel]
  exact ⟨_, rfl⟩

end FileTree

end WallController.Lib
