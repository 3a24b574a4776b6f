/-
  WallController.LittleFs.CatalogWalk
  ────────────────────────────────
  **THE WALK LISTS EVERY FILE ONCE.**

  The work list of `iGetFileInfo` and the directories it has walked are a
  traversal of the volume, and the staging area is a function of the two
  (`stagingOf`).  The walk succeeds exactly on a volume within its bounds
  (`Walkable`) where no call that it makes fails (`DiskEnv.WalkWorks`).

  Main results:
    * `walk_eq_ok_iff`: when the walk succeeds, and what it has staged then.
    * `getFileInfo_correct`: the result and the catalogue of `iGetFileInfo`.
-/
import WallController.LittleFs.Catalog

namespace WallController.LittleFs

open WallController.Lib FileTree

/-! ## §1. The reads of a directory. -/

/-- No call fails that reads a directory of `uiCount` entries. -/
structure DirFaults.Works (faults : DirFaults) (uiCount : Nat) : Prop where
  opendir : 0 ≤ faults.opendir
  readdir : ∀ i ≤ uiCount, 0 ≤ faults.readdir i
  closedir : 0 ≤ faults.closedir

section Reads

variable {α : Type} {readdir : Nat → Int} {process : α → Name × EntryType → Except Int α}
  {faults : DirFaults} {v : Volume} {path : Path} {es : List (Name × EntryType)} {i : Nat}
  {w w' : α}

/-- The entries of a directory are processed in order. -/
theorem readEach_eq_ok : readEach readdir process i es w = .ok w'
    ↔ (∀ j ≤ es.length, 0 ≤ readdir (i + j)) ∧ es.foldlM process w = .ok w' := by
  -- induction on the entries: `fs_readdir` is called once more than there are entries
  induction es generalizing i w with
  | nil =>
      unfold readEach
      by_cases hread : readdir i < 0
      · rw [if_pos hread]
        constructor
        · intro h
          cases h
        · intro h
          have hzero := h.1 0 (Nat.le_refl 0)
          rw [Nat.add_zero] at hzero
          omega
      · rw [if_neg hread]
        constructor
        · intro h
          -- past the last entry the call reports the end of the directory
          refine ⟨fun j hj => ?_, h⟩
          obtain rfl : j = 0 := Nat.le_zero.mp hj
          rw [Nat.add_zero]
          omega
        · exact fun h => h.2
  | cons e es ih =>
      unfold readEach
      rw [List.foldlM_cons]
      by_cases hread : readdir i < 0
      · rw [if_pos hread]
        constructor
        · intro h
          cases h
        · intro h
          have hzero := h.1 0 (Nat.zero_le _)
          rw [Nat.add_zero] at hzero
          omega
      · rw [if_neg hread]
        cases hentry : process w e with
        | error iResult =>
            constructor
            · intro h
              cases h
            · intro h
              cases h.2
        | ok w₁ =>
            show readEach readdir process (i + 1) es w₁ = .ok w'
              ↔ _ ∧ es.foldlM process w₁ = .ok w'
            rw [ih]
            refine and_congr_left fun _ => ?_
            -- the calls of the tail are those of the list shifted by one
            constructor
            · intro h j hj
              cases j with
              | zero =>
                  rw [Nat.add_zero]
                  omega
              | succ j =>
                  have hj := h j (Nat.le_of_succ_le_succ hj)
                  rwa [Nat.add_assoc, Nat.add_comm 1 j] at hj
            · intro h j hj
              have hj := h (j + 1) (Nat.succ_le_succ hj)
              rwa [Nat.add_assoc, Nat.add_comm 1 j]

/-- A listing of a directory of the volume. -/
theorem fsOpendir_eq_ok {fault : Int} : v.fsOpendir fault path = .ok es
    ↔ 0 ≤ fault ∧ components path ∈ v.dirs ∧ es = v.children (components path) := by
  unfold Volume.fsOpendir
  rw [← kind_dir_iff]
  by_cases hfault : fault < 0
  · rw [if_pos hfault]
    constructor
    · intro h
      cases h
    · intro h
      omega
  · rw [if_neg hfault]
    cases hkind : v.kind (components path) with
    | none => simp
    | some k =>
        cases k with
        | file => simp
        | dir =>
            constructor
            · intro h
              cases h
              exact ⟨Int.not_lt.mp hfault, rfl, rfl⟩
            · intro h
              rw [h.2.2]

theorem readDirectory_eq_ok : readDirectory faults v path process w = .ok w'
    ↔ components path ∈ v.dirs ∧ faults.Works (v.children (components path)).length
      ∧ (v.children (components path)).foldlM process w = .ok w' := by
  unfold readDirectory
  cases hopen : v.fsOpendir faults.opendir path with
  | error iResult =>
      constructor
      · intro h
        cases h
      · rintro ⟨hd, hworks, -⟩
        rw [fsOpendir_eq_ok.mpr ⟨hworks.opendir, hd, rfl⟩] at hopen
        cases hopen
  | ok es =>
      obtain ⟨hfault, hd, rfl⟩ := fsOpendir_eq_ok.mp hopen
      dsimp only
      cases hread : readEach faults.readdir process 0 (v.children (components path)) w with
      | error iResult =>
          constructor
          · intro h
            cases h
          · rintro ⟨-, hworks, hfold⟩
            have hok : readEach faults.readdir process 0 (v.children (components path)) w
                = .ok w' := by
              refine readEach_eq_ok.mpr ⟨fun j hj => ?_, hfold⟩
              rw [Nat.zero_add]
              exact hworks.readdir j hj
            rw [hok] at hread
            cases hread
      | ok w₁ =>
          obtain ⟨hreaddir, hfold⟩ := readEach_eq_ok.mp hread
          dsimp only
          by_cases hclose : faults.closedir < 0
          · rw [if_pos hclose]
            constructor
            · intro h
              cases h
            · intro h
              have hclosedir := h.2.1.closedir
              omega
          · rw [if_neg hclose, hfold]
            constructor
            · intro h
              refine ⟨hd, ⟨hfault, fun j hj => ?_, Int.not_lt.mp hclose⟩, h⟩
              have hj := hreaddir j hj
              rwa [Nat.zero_add] at hj
            · exact fun h => h.2.2

end Reads

/-! ## §2. The staging area. -/

/-- The entry that a file has in the catalogue. -/
def Volume.infoOf (v : Volume) (n : List Name) : FileInfo :=
  let caFileName := (n.getLast?.map Subtype.val).getD []
  ⟨caFileName, render n, caFileName.length, (v.content n).length⟩

/-- The entries of one type in a listing, as nodes. -/
def nodesOf (k : EntryType) (d : List Name) (es : List (Name × EntryType)) : List (List Name) :=
  (es.filter fun c => c.2 = k).map fun c => d ++ [c.1]

/-- An entry that the walk accepts. -/
def Accepts (d : List Name) (e : Name × EntryType) : Prop :=
  (render (d ++ [e.1])).length < MAX_FILE_PATH_LENGTH
    ∧ (e.2 = .file → e.1.val.length < MAX_FILE_NAME_LENGTH)

/-- What a listing adds to the staging area. -/
def Staging.add (v : Volume) (d : List Name) (es : List (Name × EntryType)) (w : Staging) :
    Staging where
  caDirectoryWorkList := w.caDirectoryWorkList ++ (nodesOf .dir d es).map render
  uiTotalDirectoryCount := w.uiTotalDirectoryCount + (nodesOf .dir d es).length
  staStagingFileInfo := w.staStagingFileInfo ++ (nodesOf .file d es).map v.infoOf

/-- The staging area is within its bounds. -/
structure Staging.Fits (w : Staging) : Prop where
  work : w.caDirectoryWorkList.length ≤ MAX_DIRECTORY_COUNT
  total : w.uiTotalDirectoryCount ≤ MAX_DIRECTORY_COUNT
  files : w.staStagingFileInfo.length ≤ MAX_FILE_COUNT

variable {env : DiskEnv} {v : Volume} {d : List Name} {w w' : Staging}
  {es : List (Name × EntryType)} {e : Name × EntryType}

theorem infoOf_append (v : Volume) (d : List Name) (name : Name) :
    v.infoOf (d ++ [name])
      = ⟨name.val, render (d ++ [name]), name.val.length, (v.content (d ++ [name])).length⟩ := by
  simp [Volume.infoOf]

theorem nodesOf_cons (k : EntryType) (d : List Name) (e : Name × EntryType) :
    nodesOf k d (e :: es) = nodesOf k d [e] ++ nodesOf k d es := by
  unfold nodesOf
  rw [← List.map_append, ← List.filter_append, List.singleton_append]

theorem nodesOf_dir (name : Name) (k : EntryType) :
    nodesOf k d [(name, .dir)] = if k = .dir then [d ++ [name]] else [] := by
  cases k <;> rfl

theorem nodesOf_file (name : Name) (k : EntryType) :
    nodesOf k d [(name, .file)] = if k = .file then [d ++ [name]] else [] := by
  cases k <;> rfl

theorem Staging.add_nil : w.add v d [] = w := by
  simp [Staging.add, nodesOf]

theorem Staging.add_cons : w.add v d (e :: es) = (w.add v d [e]).add v d es := by
  unfold Staging.add
  rw [nodesOf_cons .dir, nodesOf_cons .file]
  simp [Nat.add_assoc]

theorem Staging.Fits.of_add (h : (w.add v d es).Fits) : w.Fits := by
  obtain ⟨hwork, htotal, hfiles⟩ := h
  simp only [Staging.add, List.length_append, List.length_map] at hwork htotal hfiles
  exact ⟨by omega, by omega, by omega⟩

/-- **One entry** is staged if the walk accepts it and there is room. -/
theorem stageEntry_eq_ok (hfits : w.Fits) :
    stageEntry (v.sizeIn (render d)) (render d) w e = .ok w'
      ↔ Accepts d e ∧ (w.add v d [e]).Fits ∧ w' = w.add v d [e] := by
  obtain ⟨name, k⟩ := e
  unfold stageEntry Accepts
  rw [childPath_render]
  by_cases hpath : (render (d ++ [name])).length ≥ MAX_FILE_PATH_LENGTH
  · rw [if_pos hpath]
    constructor
    · intro h
      cases h
    · intro h
      exact absurd h.1.1 (Nat.not_lt.mpr hpath)
  · rw [if_neg hpath]
    have hshort := Nat.lt_of_not_le hpath
    obtain ⟨hwork, htotal, hfiles⟩ := hfits
    cases k with
    | dir =>
        -- a directory goes to the work list and counts towards the total
        have hadd : w.add v d [(name, EntryType.dir)]
            = ⟨w.caDirectoryWorkList ++ [render (d ++ [name])], w.uiTotalDirectoryCount + 1,
              w.staStagingFileInfo⟩ := by
          simp [Staging.add, nodesOf_dir]
        rw [hadd]
        dsimp only
        by_cases hfull : w.uiTotalDirectoryCount ≥ MAX_DIRECTORY_COUNT
            ∨ w.caDirectoryWorkList.length ≥ MAX_DIRECTORY_COUNT
        · rw [if_pos hfull]
          constructor
          · intro h
            cases h
          · rintro ⟨-, ⟨hwork', htotal', -⟩, -⟩
            -- room after the entry means there was room before it
            simp only [List.length_append, List.length_singleton] at hwork' htotal'
            omega
        · rw [if_neg hfull]
          constructor
          · intro h
            cases h
            refine ⟨⟨hshort, fun hfile => by cases hfile⟩, ⟨?_, ?_, hfiles⟩, rfl⟩
            · rw [List.length_append, List.length_singleton]
              omega
            · show w.uiTotalDirectoryCount + 1 ≤ MAX_DIRECTORY_COUNT
              omega
          · rintro ⟨-, -, rfl⟩
            rfl
    | file =>
        -- a file goes to the staged catalogue only
        have hadd : w.add v d [(name, EntryType.file)]
            = ⟨w.caDirectoryWorkList, w.uiTotalDirectoryCount,
              w.staStagingFileInfo
                ++ [⟨name.val, render (d ++ [name]), name.val.length,
                  v.sizeIn (render d) name⟩]⟩ := by
          simp [Staging.add, nodesOf_file, infoOf_append, Volume.sizeIn, components_render]
        rw [hadd]
        dsimp only
        by_cases hfull : w.staStagingFileInfo.length ≥ MAX_FILE_COUNT
        · rw [if_pos hfull]
          constructor
          · intro h
            cases h
          · rintro ⟨-, ⟨-, -, hfiles'⟩, -⟩
            simp only [List.length_append, List.length_singleton] at hfiles'
            omega
        · rw [if_neg hfull]
          by_cases hname : name.val.length ≥ MAX_FILE_NAME_LENGTH
          · rw [if_pos hname]
            constructor
            · intro h
              cases h
            · intro h
              exact absurd (h.1.2 rfl) (Nat.not_lt.mpr hname)
          · rw [if_neg hname]
            constructor
            · intro h
              cases h
              refine ⟨⟨hshort, fun _ => Nat.lt_of_not_le hname⟩, ⟨hwork, htotal, ?_⟩, rfl⟩
              rw [List.length_append, List.length_singleton]
              omega
            · rintro ⟨-, -, rfl⟩
              rfl

/-- **The entries** of a listing. -/
theorem foldlM_stageEntry (hfits : w.Fits) :
    es.foldlM (stageEntry (v.sizeIn (render d)) (render d)) w = .ok w'
      ↔ (∀ e ∈ es, Accepts d e) ∧ (w.add v d es).Fits ∧ w' = w.add v d es := by
  induction es generalizing w with
  | nil =>
      rw [Staging.add_nil]
      constructor
      · intro h
        cases h
        exact ⟨fun e he => absurd he List.not_mem_nil, hfits, rfl⟩
      · rintro ⟨-, -, rfl⟩
        rfl
  | cons e es ih =>
      rw [List.foldlM_cons, Staging.add_cons]
      cases hentry : stageEntry (v.sizeIn (render d)) (render d) w e with
      | error iResult =>
          constructor
          · intro h
            cases h
          · rintro ⟨haccepts, hadd, -⟩
            have hok := (stageEntry_eq_ok hfits).mpr
              ⟨haccepts e List.mem_cons_self, hadd.of_add, rfl⟩
            rw [hok] at hentry
            cases hentry
      | ok w₁ =>
          obtain ⟨haccept, hfits₁, rfl⟩ := (stageEntry_eq_ok hfits).mp hentry
          show es.foldlM (stageEntry (v.sizeIn (render d)) (render d)) (w.add v d [e])
            = Except.ok w' ↔ _
          rw [ih hfits₁, List.forall_mem_cons]
          tauto

/-! ## §3. The walk. -/

/-- The volume is within the bounds of the walk. -/
structure Walkable (v : Volume) : Prop where
  files : v.files.length ≤ MAX_FILE_COUNT
  dirs : v.dirs.length ≤ MAX_DIRECTORY_COUNT
  paths : ∀ e ∈ v.entries, (render e.1).length < MAX_FILE_PATH_LENGTH
  names : ∀ d name, d ++ [name] ∈ v.files → name.val.length < MAX_FILE_NAME_LENGTH

/-- No call fails that reads a directory of the volume. -/
def DiskEnv.WalkWorks (env : DiskEnv) (v : Volume) : Prop :=
  ∀ d ∈ v.dirs, (env.walk (render d)).Works (v.children d).length

/-- The staging area after the walk of some directories. -/
def stagingOf (v : Volume) (visited known : List (List Name)) : Staging where
  caDirectoryWorkList := known.map render
  uiTotalDirectoryCount := (visited ++ known).length
  staStagingFileInfo := (visited.flatMap (v.nodesIn .file)).map v.infoOf

variable {visited known : List (List Name)}

theorem stagingOf_start (v : Volume) :
    stagingOf v [] [[]] = ⟨[EXT_LITTLEFS_MOUNT_POINT], 1, []⟩ := rfl

/-- The walk on its way: what it has visited was accepted, and fits. -/
structure Tour (env : DiskEnv) (v : Volume) (visited known : List (List Name)) : Prop where
  frontier : Frontier v.toFileTree [] visited known
  fits : (stagingOf v visited known).Fits
  works : ∀ d ∈ visited, (env.walk (render d)).Works (v.children d).length
  accepts : ∀ d ∈ visited, ∀ e ∈ v.children d, Accepts d e

theorem Tour.start (env : DiskEnv) (v : Volume) : Tour env v [] [[]] where
  frontier := Frontier.init (mem_dirs.mpr (Or.inl rfl))
  fits := by
    have hone : 1 ≤ MAX_DIRECTORY_COUNT := by decide
    exact ⟨hone, hone, Nat.zero_le _⟩
  works _ hd := absurd hd List.not_mem_nil
  accepts _ hd := absurd hd List.not_mem_nil

theorem fits_of_walkable (hv : Walkable v) (h : Frontier v.toFileTree [] visited known) :
    (stagingOf v visited known).Fits := by
  have hdirs := Nat.le_trans h.length_le hv.dirs
  have hfiles := Nat.le_trans h.length_files_le hv.files
  refine ⟨?_, hdirs, ?_⟩
  · show (known.map render).length ≤ MAX_DIRECTORY_COUNT
    rw [List.length_append] at hdirs
    rw [List.length_map]
    omega
  · show (List.map _ _).length ≤ MAX_FILE_COUNT
    rwa [List.length_map]

/-- The staging area with the directory taken off that is walked next. -/
def stagingWithout (v : Volume) (visited known : List (List Name)) (d : List Name) : Staging :=
  { stagingOf v visited (known ++ [d]) with caDirectoryWorkList := known.map render }

theorem stagingWithout_add : (stagingWithout v visited known d).add v d (v.children d)
    = stagingOf v (visited ++ [d]) (known ++ v.nodesIn .dir d) := by
  have hnodes : ∀ k, nodesOf k d (v.children d) = v.nodesIn k d := fun _ => rfl
  unfold stagingWithout stagingOf Staging.add
  simp only [hnodes, List.map_append, List.flatMap_append, List.flatMap_singleton,
    List.length_append, List.length_singleton, Staging.mk.injEq, true_and, and_true]
  omega

theorem Tour.fits_without (h : Tour env v visited (known ++ [d])) :
    (stagingWithout v visited known d).Fits := by
  obtain ⟨hwork, htotal, hfiles⟩ := h.fits
  refine ⟨?_, htotal, hfiles⟩
  simp only [stagingOf, List.map_append, List.length_append] at hwork
  show (known.map render).length ≤ MAX_DIRECTORY_COUNT
  omega

/-- **One directory** of the walk. -/
theorem Tour.visit (h : Tour env v visited (known ++ [d]))
    (hread : readDirectory (env.walk (render d)) v (render d)
      (stageEntry (v.sizeIn (render d)) (render d)) (stagingWithout v visited known d) = .ok w') :
    Tour env v (visited ++ [d]) (known ++ v.nodesIn .dir d)
      ∧ w' = stagingOf v (visited ++ [d]) (known ++ v.nodesIn .dir d) := by
  obtain ⟨-, hworks, hfold⟩ := readDirectory_eq_ok.mp hread
  rw [components_render] at hworks hfold
  obtain ⟨haccepts, hfits, hw'⟩ := (foldlM_stageEntry h.fits_without).mp hfold
  rw [stagingWithout_add] at hfits hw'
  refine ⟨⟨h.frontier.visit, hfits, ?_, ?_⟩, hw'⟩
  · intro d' hd'
    rcases List.mem_append.mp hd' with hd' | hd'
    · exact h.works d' hd'
    · rw [List.mem_singleton.mp hd']
      exact hworks
  · intro d' hd'
    rcases List.mem_append.mp hd' with hd' | hd'
    · exact h.accepts d' hd'
    · rw [List.mem_singleton.mp hd']
      exact haccepts

theorem Walkable.accepts (hv : Walkable v) (he : e ∈ v.children d) : Accepts d e := by
  have hentry := mem_children.mp he
  refine ⟨hv.paths _ hentry, fun hfile => hv.names d e.1 (mem_files.mpr ?_)⟩
  rwa [← hfile]

theorem Tour.visit_ok (h : Tour env v visited (known ++ [d])) (hv : Walkable v)
    (hworks : env.WalkWorks v) :
    ∃ w', readDirectory (env.walk (render d)) v (render d)
      (stageEntry (v.sizeIn (render d)) (render d)) (stagingWithout v visited known d)
        = .ok w' := by
  have hd : d ∈ v.dirs := (h.frontier.inside d (by simp)).1
  simp only [readDirectory_eq_ok, components_render]
  refine ⟨_, hd, hworks d hd, (foldlM_stageEntry h.fits_without).mpr
    ⟨fun e he => hv.accepts he, ?_, rfl⟩⟩
  rw [stagingWithout_add]
  exact fits_of_walkable hv h.frontier.visit

/-- A pass of the walk's loop. -/
theorem walk_succ (fuel : Nat) : walk env v (fuel + 1) (stagingOf v visited (known ++ [d]))
    = match readDirectory (env.walk (render d)) v (render d)
        (stageEntry (v.sizeIn (render d)) (render d)) (stagingWithout v visited known d) with
      | .error iResult => .error iResult
      | .ok w => walk env v fuel w := by
  have hlast : (stagingOf v visited (known ++ [d])).caDirectoryWorkList.getLast?
      = some (render d) := by
    simp [stagingOf]
  have hrest : (stagingOf v visited (known ++ [d])).caDirectoryWorkList.dropLast
      = known.map render := by
    simp [stagingOf]
  rw [walk, hlast]
  dsimp only
  rw [hrest]
  rfl

theorem walk_nil (fuel : Nat) :
    walk env v fuel (stagingOf v visited []) = .ok (stagingOf v visited []) := by
  cases fuel with
  | zero => rfl
  | succ fuel => rw [walk]; rfl

/-- What a walk that succeeds has visited, with enough fuel. -/
theorem Tour.sound {fuel : Nat} (h : Tour env v visited known)
    (hfuel : MAX_DIRECTORY_COUNT ≤ fuel + visited.length)
    (hwalk : walk env v fuel (stagingOf v visited known) = .ok w') :
    ∃ visited', Tour env v visited' [] ∧ w' = stagingOf v visited' [] := by
  induction fuel generalizing visited known with
  | zero =>
      -- without fuel all the directories that fit have been visited
      have htotal : (visited ++ known).length ≤ MAX_DIRECTORY_COUNT := h.fits.total
      rw [List.length_append] at htotal
      obtain rfl : known = [] := List.eq_nil_of_length_eq_zero (by omega)
      cases hwalk
      exact ⟨visited, h, rfl⟩
  | succ fuel ih =>
      rcases List.eq_nil_or_concat known with rfl | ⟨known, d, rfl⟩
      · rw [walk_nil] at hwalk
        cases hwalk
        exact ⟨visited, h, rfl⟩
      · rw [List.concat_eq_append] at h hwalk
        rw [walk_succ] at hwalk
        cases hread : readDirectory (env.walk (render d)) v (render d)
            (stageEntry (v.sizeIn (render d)) (render d)) (stagingWithout v visited known d) with
        | error iResult =>
            rw [hread] at hwalk
            cases hwalk
        | ok w₁ =>
            rw [hread] at hwalk
            obtain ⟨hnext, rfl⟩ := h.visit hread
            refine ih hnext ?_ hwalk
            rw [List.length_append, List.length_singleton]
            omega

/-- A walkable volume is walked, whatever the fuel. -/
theorem Tour.succeeds (h : Tour env v visited known) (hv : Walkable v) (hworks : env.WalkWorks v)
    (fuel : Nat) : ∃ w', walk env v fuel (stagingOf v visited known) = .ok w' := by
  induction fuel generalizing visited known with
  | zero => exact ⟨_, rfl⟩
  | succ fuel ih =>
      rcases List.eq_nil_or_concat known with rfl | ⟨known, d, rfl⟩
      · exact ⟨_, walk_nil _⟩
      · rw [List.concat_eq_append] at h ⊢
        obtain ⟨w₁, hread⟩ := h.visit_ok hv hworks
        obtain ⟨hnext, rfl⟩ := h.visit hread
        rw [walk_succ, hread]
        exact ih hnext

/-- A complete walk has met every bound. -/
theorem Tour.walkable (h : Tour env v visited []) : Walkable v ∧ env.WalkWorks v := by
  have hmem : ∀ d ∈ v.dirs, d ∈ visited := fun d hd => h.frontier.complete hd List.nil_prefix
  have haccepts : ∀ d name k, (d ++ [name], k) ∈ v.entries → Accepts d (name, k) := by
    intro d name k hentry
    have hdir := (v.rooted _ hentry).2
    rw [List.dropLast_concat, ← mem_dirs] at hdir
    exact h.accepts d (hmem d hdir) _ (mem_children.mpr hentry)
  refine ⟨⟨?_, ?_, ?_, ?_⟩, fun d hd => h.works d (hmem d hd)⟩
  · have hfiles : (List.map _ _).length ≤ MAX_FILE_COUNT := h.fits.files
    rw [List.length_map] at hfiles
    rwa [← h.frontier.files_perm.length_eq]
  · have htotal : (visited ++ []).length ≤ MAX_DIRECTORY_COUNT := h.fits.total
    rw [List.append_nil] at htotal
    exact Nat.le_trans (v.nodup_dirs.subperm hmem).length_le htotal
  · intro e hentry
    rcases List.eq_nil_or_concat e.1 with hnil | ⟨d, name, hconcat⟩
    · exact absurd hnil (v.rooted e hentry).1
    · rw [List.concat_eq_append] at hconcat
      have haccept := haccepts d name e.2 (hconcat ▸ hentry)
      rw [hconcat]
      exact haccept.1
  · intro d name hfile
    exact (haccepts d name .file (mem_files.mp hfile)).2 rfl

/-- More fuel makes no difference, so the loop has ended of itself. -/
theorem Tour.ends {fuel : Nat} (h : Tour env v visited known)
    (hfuel : MAX_DIRECTORY_COUNT ≤ fuel + visited.length) (more : Nat) :
    walk env v (fuel + more) (stagingOf v visited known)
      = walk env v fuel (stagingOf v visited known) := by
  induction fuel generalizing visited known with
  | zero =>
      have htotal : (visited ++ known).length ≤ MAX_DIRECTORY_COUNT := h.fits.total
      rw [List.length_append] at htotal
      obtain rfl : known = [] := List.eq_nil_of_length_eq_zero (by omega)
      rw [walk_nil, walk_nil]
  | succ fuel ih =>
      rcases List.eq_nil_or_concat known with rfl | ⟨known, d, rfl⟩
      · rw [walk_nil, walk_nil]
      · rw [List.concat_eq_append] at h ⊢
        rw [Nat.succ_add, walk_succ, walk_succ]
        cases hread : readDirectory (env.walk (render d)) v (render d)
            (stageEntry (v.sizeIn (render d)) (render d)) (stagingWithout v visited known d) with
        | error iResult => rfl
        | ok w₁ =>
            obtain ⟨hnext, rfl⟩ := h.visit hread
            refine ih hnext ?_
            rw [List.length_append, List.length_singleton]
            omega

/-! ## §4. The errors. -/

theorem stageEntry_error {uiSize : Name → Nat} {path : Path} {iResult : Int}
    (h : stageEntry uiSize path w e = .error iResult) : iResult < 0 := by
  unfold stageEntry at h
  dsimp only at h
  split at h
  · cases h
    decide
  split at h
  · split at h
    · cases h
      decide
    · cases h
  · split at h
    · cases h
      decide
    split at h
    · cases h
      decide
    · cases h

theorem readEach_error {α : Type} {readdir : Nat → Int}
    {process : α → Name × EntryType → Except Int α}
    (hprocess : ∀ w e r, process w e = .error r → r < 0) {i : Nat} {w : α} {iResult : Int}
    (h : readEach readdir process i es w = .error iResult) : iResult < 0 := by
  induction es generalizing i w with
  | nil =>
      unfold readEach at h
      split at h
      · cases h
        assumption
      · cases h
  | cons e es ih =>
      unfold readEach at h
      split at h
      · cases h
        assumption
      split at h
      · rename_i hentry
        cases h
        exact hprocess _ _ _ hentry
      · exact ih h

theorem missing_neg (n : List Name) : v.missing n < 0 := by
  unfold Volume.missing
  split <;> decide

theorem fsOpendir_error {fault iResult : Int} {path : Path}
    (h : v.fsOpendir fault path = .error iResult) : iResult < 0 := by
  unfold Volume.fsOpendir at h
  split at h
  · cases h
    assumption
  split at h
  · cases h
  · cases h
    decide
  · cases h
    exact missing_neg _

theorem readDirectory_error {α : Type} {faults : DirFaults} {path : Path}
    {process : α → Name × EntryType → Except Int α}
    (hprocess : ∀ w e r, process w e = .error r → r < 0) {w : α} {iResult : Int}
    (h : readDirectory faults v path process w = .error iResult) : iResult < 0 := by
  unfold readDirectory at h
  split at h
  · rename_i hopen
    cases h
    exact fsOpendir_error hopen
  split at h
  · rename_i hread
    cases h
    exact readEach_error hprocess hread
  split at h
  · cases h
    assumption
  · cases h

theorem walk_error {fuel : Nat} {iResult : Int} (h : walk env v fuel w = .error iResult) :
    iResult < 0 := by
  induction fuel generalizing w with
  | zero => cases h
  | succ fuel ih =>
      unfold walk at h
      split at h
      · cases h
      split at h
      · rename_i hread
        cases h
        exact readDirectory_error (fun _ _ _ => stageEntry_error) hread
      · exact ih h

/-! ## §5. The result. -/

/-- **The walk** of a volume succeeds exactly within its bounds. -/
theorem walk_eq_ok_iff : (∃ w', walk env v MAX_DIRECTORY_COUNT (stagingOf v [] [[]]) = .ok w')
    ↔ Walkable v ∧ env.WalkWorks v := by
  constructor
  · rintro ⟨w', hwalk⟩
    obtain ⟨visited, htour, -⟩ :=
      (Tour.start env v).sound (Nat.le_add_right _ _) hwalk
    exact htour.walkable
  · intro h
    exact (Tour.start env v).succeeds h.1 h.2 _

/-- A walk that succeeds has emptied its work list, and staged the files. -/
theorem walk_files (h : walk env v MAX_DIRECTORY_COUNT (stagingOf v [] [[]]) = .ok w') :
    w'.caDirectoryWorkList = [] ∧ w'.staStagingFileInfo.Perm (v.files.map v.infoOf) := by
  obtain ⟨visited, htour, rfl⟩ := (Tour.start env v).sound (Nat.le_add_right _ _) h
  exact ⟨rfl, htour.frontier.files_perm.map _⟩

variable {s : Disk}

theorem getFileInfo_volume (env : DiskEnv) (s : Disk) :
    (s.iGetFileInfo env).2.volume = s.volume := by
  unfold Disk.iGetFileInfo
  split
  · rfl
  · split <;> rfl

theorem getFileInfo_eq_zero :
    (s.iGetFileInfo env).1 = 0
      ↔ env.rebuildLock = true ∧ Walkable s.volume ∧ env.WalkWorks s.volume := by
  rw [← walk_eq_ok_iff]
  unfold Disk.iGetFileInfo
  rw [← stagingOf_start s.volume]
  cases env.rebuildLock with
  | false =>
      constructor
      · intro h
        have hcode : -ENOLCK = 0 := h
        exact absurd hcode (by decide)
      · intro h
        cases h.1
  | true =>
      cases hwalk : walk env s.volume MAX_DIRECTORY_COUNT (stagingOf s.volume [] [[]]) with
      | error iResult =>
          have hneg := walk_error hwalk
          constructor
          · intro h
            have hzero : iResult = 0 := h
            omega
          · rintro ⟨-, w', hw'⟩
            cases hw'
      | ok w' => exact ⟨fun _ => ⟨rfl, w', rfl⟩, fun _ => rfl⟩

theorem getFileInfo_files (h : (s.iGetFileInfo env).1 = 0) :
    (s.iGetFileInfo env).2.stTFileCatalog.Perm (s.volume.files.map s.volume.infoOf) := by
  obtain ⟨hlock, hok⟩ := getFileInfo_eq_zero.mp h
  obtain ⟨w', hwalk⟩ := walk_eq_ok_iff.mpr hok
  have hfiles := (walk_files hwalk).2
  unfold Disk.iGetFileInfo
  rw [← stagingOf_start s.volume, hlock, hwalk]
  exact hfiles

theorem getFileInfo_failed (h : (s.iGetFileInfo env).1 ≠ 0) : (s.iGetFileInfo env).2 = s := by
  unfold Disk.iGetFileInfo at h ⊢
  by_cases hlock : (!env.rebuildLock) = true
  · rw [if_pos hlock]
  · rw [if_neg hlock] at h ⊢
    split
    · rfl
    · rename_i hwalk
      rw [hwalk] at h
      exact absurd rfl h

/-- **The directory walk.**  It ends of itself, succeeds exactly on a volume within
its bounds where no call fails, and puts every file into the catalogue once, with
its path, name and size; where it fails the catalogue stays. -/
theorem getFileInfo_correct (env : DiskEnv) (s : Disk) :
    (∀ more, walk env s.volume (MAX_DIRECTORY_COUNT + more) ⟨[EXT_LITTLEFS_MOUNT_POINT], 1, []⟩
        = walk env s.volume MAX_DIRECTORY_COUNT ⟨[EXT_LITTLEFS_MOUNT_POINT], 1, []⟩)
      ∧ ((s.iGetFileInfo env).1 = 0
        ↔ env.rebuildLock = true ∧ Walkable s.volume ∧ env.WalkWorks s.volume)
      ∧ ((s.iGetFileInfo env).1 = 0 →
        (s.iGetFileInfo env).2.stTFileCatalog.Perm (s.volume.files.map s.volume.infoOf))
      ∧ ((s.iGetFileInfo env).1 ≠ 0 →
        (s.iGetFileInfo env).2.stTFileCatalog = s.stTFileCatalog)
      ∧ (s.iGetFileInfo env).2.volume = s.volume := by
  refine ⟨fun more => ?_, getFileInfo_eq_zero, getFileInfo_files, fun h => ?_,
    getFileInfo_volume env s⟩
  · rw [← stagingOf_start s.volume]
    exact (Tour.start env s.volume).ends (Nat.le_add_right _ _) more
  · rw [getFileInfo_failed h]

end WallController.LittleFs
