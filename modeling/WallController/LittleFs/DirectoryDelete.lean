/-
  WallController.LittleFs.DirectoryDelete
  ────────────────────────────────
  **THE REMOVAL OF A DIRECTORY.**

  `iDelete_AllFiles_InsideDirectory` lists the directories below the target,
  breadth first, before it removes anything; then it empties and removes them
  from the last one on.  The first pass checks the number of the directories
  and the length of their paths, but not of the paths of the files.

  Main results:
    * `discover_eq_ok`: the first pass lists `v.below`, if it fits.
    * `removeDirectories_calm`: how the second pass ends where no call fails.
    * `allOrNothing_iff`: when the removal is all or nothing.
-/
import WallController.LittleFs.CatalogWalk
import WallController.LittleFs.Paths

namespace WallController.LittleFs

open WallController.Lib FileTree

/-! ## §1. The paths below the target. -/

/-- A path below the mount point that does not end in a slash. -/
structure Target (p : Path) : Prop where
  mount : EXT_LITTLEFS_MOUNT_POINT.length ≤ p.length
  last : p.getLast? ≠ some slash
  short : p.length < MAX_FILE_PATH_LENGTH

/-- The path under which a node below the target is found. -/
def pathBelow (p : Path) (n : List Name) : Path := extendPath p (n.drop (components p).length)

variable {p q : Path} {n d : List Name} {name : Name} {v v' : Volume} {env : DiskEnv}

theorem target_of_directory (h : directoryToDelete q = some p) : Target p := by
  obtain ⟨-, -, hlen, ⟨rest, hrest⟩, c, hlast, hc⟩ := contained_of_directory h
  refine ⟨?_, ?_, hlen⟩
  · rw [hrest, List.length_append]
    omega
  · rw [hlast]
    exact fun heq => hc (Option.some.inj heq)

theorem pathBelow_target (p : Path) : pathBelow p (components p) = p := by
  simp [pathBelow, extendPath]

theorem components_pathBelow (hp : Target p) (hn : components p <+: n) :
    components (pathBelow p n) = n := by
  obtain ⟨m, rfl⟩ := hn
  unfold pathBelow
  rw [components_extendPath hp.mount, List.drop_left]

theorem childPath_pathBelow (hp : Target p) (hn : components p <+: n) (name : Name) :
    childPath (pathBelow p n) name.val = pathBelow p (n ++ [name]) := by
  obtain ⟨m, rfl⟩ := hn
  unfold pathBelow
  rw [childPath_extendPath hp.last, List.append_assoc, List.drop_left, List.drop_left]

/-! ## §2. The first pass. -/

/-- The paths of the subdirectories in a listing. -/
def subdirectories (path : Path) (es : List (Name × EntryType)) : List Path :=
  (es.filter fun c => c.2 = .dir).map fun c => childPath path c.1.val

/-- **The entries** of a listing: the subdirectories are added if they fit. -/
theorem foldlM_discoverEntry {path : Path} {es : List (Name × EntryType)}
    {dirs dirs' : List Path} (hdirs : dirs.length ≤ MAX_DIRECTORY_COUNT) :
    es.foldlM (discoverEntry path) dirs = .ok dirs'
      ↔ (∀ c ∈ subdirectories path es, c.length < MAX_FILE_PATH_LENGTH)
        ∧ (dirs ++ subdirectories path es).length ≤ MAX_DIRECTORY_COUNT
        ∧ dirs' = dirs ++ subdirectories path es := by
  induction es generalizing dirs with
  | nil =>
      have hnone : subdirectories path [] = [] := rfl
      rw [hnone, List.append_nil]
      constructor
      · intro h
        cases h
        exact ⟨fun c hc => absurd hc List.not_mem_nil, hdirs, rfl⟩
      · rintro ⟨-, -, rfl⟩
        rfl
  | cons e es ih =>
      rw [List.foldlM_cons]
      unfold discoverEntry
      by_cases hdir : e.2 = .dir
      · have hcons : subdirectories path (e :: es)
            = childPath path e.1.val :: subdirectories path es := by
          unfold subdirectories
          rw [List.filter_cons_of_pos (by simpa using hdir), List.map_cons]
        rw [if_neg (not_not.mpr hdir), hcons, List.forall_mem_cons]
        by_cases hfull : dirs.length ≥ MAX_DIRECTORY_COUNT
        · rw [if_pos hfull]
          constructor
          · intro h
            cases h
          · rintro ⟨-, hlen, -⟩
            rw [List.length_append, List.length_cons] at hlen
            omega
        · rw [if_neg hfull]
          by_cases hlong : (childPath path e.1.val).length ≥ MAX_FILE_PATH_LENGTH
          · rw [if_pos hlong]
            constructor
            · intro h
              cases h
            · rintro ⟨⟨hshort, -⟩, -⟩
              omega
          · rw [if_neg hlong]
            have hshort := Nat.lt_of_not_le hlong
            have hroom : (dirs ++ [childPath path e.1.val]).length ≤ MAX_DIRECTORY_COUNT := by
              rw [List.length_append, List.length_singleton]
              omega
            show es.foldlM (discoverEntry path) (dirs ++ [childPath path e.1.val])
              = Except.ok dirs' ↔ _
            rw [ih hroom, List.append_assoc, List.singleton_append]
            tauto
      · have hcons : subdirectories path (e :: es) = subdirectories path es := by
          unfold subdirectories
          rw [List.filter_cons_of_neg (by simpa using hdir)]
        rw [if_pos hdir, hcons]
        exact ih hdirs

theorem subdirectories_pathBelow (hp : Target p) (hd : components p <+: d) :
    subdirectories (pathBelow p d) (v.children d) = (v.nodesIn .dir d).map (pathBelow p) := by
  unfold subdirectories nodesIn
  rw [List.map_map]
  exact List.map_congr_left fun c _ => childPath_pathBelow hp hd c.1

/-- The volume is within the bounds of the first pass. -/
structure Discoverable (v : Volume) (p : Path) : Prop where
  target : components p ∈ v.dirs
  count : (v.below (components p)).length ≤ MAX_DIRECTORY_COUNT
  paths : ∀ n ∈ v.below (components p), (pathBelow p n).length < MAX_FILE_PATH_LENGTH

section Discover

variable {visited known ds : List (List Name)} {fuel k : Nat} {out : List Path}

/-- One directory of the first pass. -/
theorem discover_read (hp : Target p)
    (h : Frontier v.toFileTree (components p) visited (d :: ds))
    (hlen : (visited ++ d :: ds).length ≤ MAX_DIRECTORY_COUNT) :
    readDirectory (env.discover (pathBelow p d)) v (pathBelow p d) (discoverEntry (pathBelow p d))
        ((visited ++ d :: ds).map (pathBelow p)) = .ok out
      ↔ (env.discover (pathBelow p d)).Works (v.children d).length
        ∧ (∀ n ∈ v.nodesIn .dir d, (pathBelow p n).length < MAX_FILE_PATH_LENGTH)
        ∧ ((visited ++ [d]) ++ (ds ++ v.nodesIn .dir d)).length ≤ MAX_DIRECTORY_COUNT
        ∧ out = ((visited ++ [d]) ++ (ds ++ v.nodesIn .dir d)).map (pathBelow p) := by
  obtain ⟨hd, hroot, -⟩ := h.inside d (by simp)
  have hlist : (visited ++ [d]) ++ (ds ++ v.nodesIn .dir d)
      = (visited ++ d :: ds) ++ v.nodesIn .dir d := by
    simp
  rw [readDirectory_eq_ok, components_pathBelow hp hroot,
    foldlM_discoverEntry (by rwa [List.length_map]), subdirectories_pathBelow hp hroot,
    List.forall_mem_map, ← List.map_append, List.length_map, hlist]
  tauto

/-- A pass of the loop. -/
theorem discover_succ (fuel : Nat) :
    discover env v (fuel + 1) visited.length ((visited ++ d :: ds).map (pathBelow p))
      = match readDirectory (env.discover (pathBelow p d)) v (pathBelow p d)
          (discoverEntry (pathBelow p d)) ((visited ++ d :: ds).map (pathBelow p)) with
        | .error iResult => .error iResult
        | .ok dirs => discover env v fuel (visited ++ [d]).length dirs := by
  have hget : ((visited ++ d :: ds).map (pathBelow p))[visited.length]? = some (pathBelow p d) := by
    simp
  rw [List.length_append, List.length_singleton]
  cases hread : readDirectory (env.discover (pathBelow p d)) v (pathBelow p d)
      (discoverEntry (pathBelow p d)) ((visited ++ d :: ds).map (pathBelow p)) with
  | error iResult => simp only [discover, hget, hread]
  | ok dirs => simp only [discover, hget, hread]

theorem discover_nil (fuel : Nat) :
    discover env v fuel visited.length ((visited ++ []).map (pathBelow p))
      = .ok ((visited ++ []).map (pathBelow p)) := by
  cases fuel with
  | zero => rfl
  | succ fuel =>
      have hget : ((visited ++ []).map (pathBelow p))[visited.length]? = none := by simp
      rw [discover, hget]

/-- **The first pass** from a directory of the list on, with enough fuel. -/
theorem discover_visits (hp : Target p)
    (h : Frontier v.toFileTree (components p) visited known)
    (hlen : (visited ++ known).length ≤ MAX_DIRECTORY_COUNT)
    (hfuel : MAX_DIRECTORY_COUNT ≤ fuel + visited.length)
    (hk : v.dirs.length ≤ k + visited.length) :
    discover env v fuel visited.length ((visited ++ known).map (pathBelow p)) = .ok out
      ↔ (∀ d ∈ v.breadthFirst k known, (env.discover (pathBelow p d)).Works (v.children d).length
          ∧ ∀ n ∈ v.nodesIn .dir d, (pathBelow p n).length < MAX_FILE_PATH_LENGTH)
        ∧ (visited ++ v.breadthFirst k known).length ≤ MAX_DIRECTORY_COUNT
        ∧ out = (visited ++ v.breadthFirst k known).map (pathBelow p) := by
  have hdone : ∀ {visited : List (List Name)} (fuel k : Nat),
      (visited ++ []).length ≤ MAX_DIRECTORY_COUNT →
      (discover env v fuel visited.length ((visited ++ []).map (pathBelow p)) = .ok out
        ↔ (∀ d ∈ v.breadthFirst k [], (env.discover (pathBelow p d)).Works (v.children d).length
            ∧ ∀ n ∈ v.nodesIn .dir d, (pathBelow p n).length < MAX_FILE_PATH_LENGTH)
          ∧ (visited ++ v.breadthFirst k []).length ≤ MAX_DIRECTORY_COUNT
          ∧ out = (visited ++ v.breadthFirst k []).map (pathBelow p)) := by
    intro visited fuel k hlen
    have hnil : v.breadthFirst k [] = [] := by cases k <;> rfl
    rw [discover_nil, hnil]
    constructor
    · intro h
      cases h
      exact ⟨fun d hd => absurd hd List.not_mem_nil, hlen, rfl⟩
    · rintro ⟨-, -, rfl⟩
      rfl
  -- induction on the fuel: one directory of the work list is listed at each turn
  induction fuel generalizing visited known k with
  | zero =>
      rw [List.length_append] at hlen
      -- as many directories as the work list can hold have been listed, so none is waiting
      obtain rfl : known = [] := List.eq_nil_of_length_eq_zero (by omega)
      exact hdone 0 k (by rw [List.length_append]; exact hlen)
  | succ fuel ih =>
      cases known with
      | nil => exact hdone (fuel + 1) k hlen
      | cons d ds =>
          have hdirs := h.length_le
          rw [List.length_append, List.length_cons] at hdirs
          -- `d` itself is still to be visited, so the abstract search has a step left
          obtain ⟨k, rfl⟩ : ∃ k', k = k' + 1 := Nat.exists_eq_succ_of_ne_zero (by omega)
          have hvisited : (visited ++ [d]).length = visited.length + 1 := by
            rw [List.length_append, List.length_singleton]
          have hk' : v.dirs.length ≤ k + (visited ++ [d]).length := by omega
          have hlist : visited ++ d :: v.breadthFirst k (ds ++ v.nodesIn .dir d)
              = (visited ++ [d]) ++ v.breadthFirst k (ds ++ v.nodesIn .dir d) := by
            simp
          have hknown := h.next.length_le_breadthFirst hk'
          rw [discover_succ, breadthFirst, List.forall_mem_cons, hlist]
          cases hread : readDirectory (env.discover (pathBelow p d)) v (pathBelow p d)
              (discoverEntry (pathBelow p d)) ((visited ++ d :: ds).map (pathBelow p)) with
          | error iResult =>
              constructor
              · intro hok
                cases hok
              · rintro ⟨⟨⟨hworks, hpaths⟩, -⟩, hcount, -⟩
                rw [(discover_read hp h hlen).mpr
                  ⟨hworks, hpaths, Nat.le_trans hknown hcount, rfl⟩] at hread
                cases hread
          | ok dirs =>
              obtain ⟨hworks, hpaths, hroom, rfl⟩ := (discover_read hp h hlen).mp hread
              -- the subdirectories of `d` go behind the ones already known
              have hrest := ih h.next hroom (by omega) hk'
              show discover env v fuel (visited ++ [d]).length _ = .ok out ↔ _
              refine Iff.trans hrest ?_
              tauto

/-- More fuel makes no difference, so the first pass ends of itself. -/
theorem discover_more (env : DiskEnv) (hp : Target p)
    (h : Frontier v.toFileTree (components p) visited known)
    (hlen : (visited ++ known).length ≤ MAX_DIRECTORY_COUNT)
    (hfuel : MAX_DIRECTORY_COUNT ≤ fuel + visited.length) (more : Nat) :
    discover env v (fuel + more) visited.length ((visited ++ known).map (pathBelow p))
      = discover env v fuel visited.length ((visited ++ known).map (pathBelow p)) := by
  induction fuel generalizing visited known with
  | zero =>
      rw [List.length_append] at hlen
      obtain rfl : known = [] := List.eq_nil_of_length_eq_zero (by omega)
      rw [discover_nil, discover_nil]
  | succ fuel ih =>
      cases known with
      | nil => rw [discover_nil, discover_nil]
      | cons d ds =>
          rw [Nat.succ_add, discover_succ, discover_succ]
          cases hread : readDirectory (env.discover (pathBelow p d)) v (pathBelow p d)
              (discoverEntry (pathBelow p d)) ((visited ++ d :: ds).map (pathBelow p)) with
          | error iResult => rfl
          | ok dirs =>
              obtain ⟨-, -, hroom, rfl⟩ := (discover_read hp h hlen).mp hread
              refine ih h.next hroom ?_
              rw [List.length_append, List.length_singleton]
              omega

/-- **The first pass** lists the directories, if they fit and no call fails. -/
theorem discover_eq_ok (hp : Target p) (hroot : components p ∈ v.dirs) :
    discover env v MAX_DIRECTORY_COUNT 0 [p] = .ok out
      ↔ (∀ d ∈ v.below (components p), (env.discover (pathBelow p d)).Works (v.children d).length)
        ∧ Discoverable v p ∧ out = (v.below (components p)).map (pathBelow p) := by
  have hone : [components p].length ≤ MAX_DIRECTORY_COUNT := by
    show 1 ≤ MAX_DIRECTORY_COUNT
    decide
  have hbelow : v.breadthFirst v.dirs.length [components p] = v.below (components p) := rfl
  have h := @discover_visits p v env [] [components p] MAX_DIRECTORY_COUNT v.dirs.length out hp
    (Frontier.init hroot) hone (Nat.le_add_right _ _) (Nat.le_add_right _ _)
  rw [List.nil_append, List.map_singleton, pathBelow_target, List.nil_append, hbelow] at h
  refine Iff.trans h ?_
  have hpaths : (∀ d ∈ v.below (components p), ∀ n ∈ v.nodesIn .dir d,
      (pathBelow p n).length < MAX_FILE_PATH_LENGTH)
        ↔ ∀ n ∈ v.below (components p), (pathBelow p n).length < MAX_FILE_PATH_LENGTH := by
    constructor
    · intro hall n hn
      obtain ⟨hdir, hpre⟩ := (mem_below hroot).mp hn
      by_cases hn' : n = components p
      · rw [hn', pathBelow_target]
        exact hp.short
      · have hin := (frontier_below hroot).inside n (by rwa [List.append_nil])
        have hne : n ≠ [] := by
          rintro rfl
          exact hn' (List.prefix_nil.mp hpre).symm
        exact hall _ (hin.2.2.resolve_left hn') n (mem_nodesIn_dropLast hdir hne)
    · intro hall d hd n hn
      have hclosed := (frontier_below hroot).closed d hd n hn
      rw [List.append_nil] at hclosed
      exact hall n hclosed
  constructor
  · rintro ⟨hall, hcount, hout⟩
    exact ⟨fun d hd => (hall d hd).1, ⟨hroot, hcount, hpaths.mp fun d hd => (hall d hd).2⟩, hout⟩
  · rintro ⟨hworks, ⟨-, hcount, hfit⟩, hout⟩
    exact ⟨fun d hd => ⟨hworks d hd, hpaths.mpr hfit d hd⟩, hcount, hout⟩

end Discover

/-! ## §3. The removal of the files of a directory. -/

/-- Some nodes are removed, which all are in `Q`. -/
structure Removes (Q : List Name → EntryType → Prop) (v v' : Volume) : Prop where
  content : v'.content = v.content
  within : v'.Within v.toFileTree
  kept : ∀ e ∈ v.entries, e ∈ v'.entries ∨ Q e.1 e.2

section Removes

variable {Q Q' : List Name → EntryType → Prop} {v'' : Volume}

theorem Removes.refl : Removes Q v v where
  content := rfl
  within := Within.refl _
  kept _ he := Or.inl he

theorem Removes.trans (h : Removes Q v v') (h' : Removes Q v' v'') : Removes Q v v'' where
  content := h'.content.trans h.content
  within := h'.within.trans h.within
  kept e he := (h.kept e he).elim (h'.kept e) Or.inr

theorem Removes.mono (h : Removes Q v v') (hQ : ∀ e ∈ v.entries, Q e.1 e.2 → Q' e.1 e.2) :
    Removes Q' v v' where
  content := h.content
  within := h.within
  kept e he := (h.kept e he).imp_right (hQ e he)

/-- **One removal** of a node without entries. -/
theorem fsUnlink_eq_ok {fault : Int} {path : Path} : v.fsUnlink fault path = .ok v'
    ↔ 0 ≤ fault ∧ (∃ k, (components path, k) ∈ v.entries)
      ∧ ∃ hempty, v' = ⟨v.remove (components path) hempty, v.content⟩ := by
  unfold Volume.fsUnlink
  by_cases hfault : fault < 0
  · rw [if_pos hfault]
    constructor
    · intro h
      cases h
    · intro h
      omega
  · rw [if_neg hfault]
    cases hkind : v.kind (components path) with
    | none =>
        constructor
        · intro h
          cases h
        · rintro ⟨-, ⟨k, hk⟩, -⟩
          rw [kind_of_mem hk] at hkind
          cases hkind
    | some k =>
        dsimp only
        by_cases hroot : components path = []
        · rw [if_pos hroot]
          constructor
          · intro h
            cases h
          · rintro ⟨-, ⟨k, hk⟩, -⟩
            exact absurd hroot (v.rooted _ hk).1
        · rw [if_neg hroot]
          by_cases hempty : v.children (components path) = []
          · rw [dif_pos hempty]
            constructor
            · intro h
              cases h
              exact ⟨Int.not_lt.mp hfault, ⟨k, mem_of_kind hroot hkind⟩, hempty, rfl⟩
            · rintro ⟨-, -, -, rfl⟩
              rfl
          · rw [dif_neg hempty]
            constructor
            · intro h
              cases h
            · rintro ⟨-, -, hnil, -⟩
              exact absurd hnil hempty

theorem removes_of_fsUnlink {fault : Int} {path : Path} (h : v.fsUnlink fault path = .ok v')
    (hQ : ∀ k, (components path, k) ∈ v.entries → Q (components path) k) : Removes Q v v' := by
  obtain ⟨-, -, hempty, rfl⟩ := fsUnlink_eq_ok.mp h
  refine ⟨rfl, List.filter_sublist, fun e he => ?_⟩
  by_cases hn : e.1 = components path
  · right
    rw [hn]
    exact hQ e.2 (hn ▸ he)
  · exact Or.inl (List.mem_filter.mpr ⟨he, decide_eq_true hn⟩)

theorem fsUnlink_error {fault iResult : Int} {path : Path}
    (h : v.fsUnlink fault path = .error iResult) : iResult < 0 := by
  unfold Volume.fsUnlink at h
  split at h
  · cases h
    assumption
  split at h
  · cases h
    exact missing_neg _
  split at h
  · cases h
    decide
  split at h
  · cases h
  · cases h
    decide

end Removes

section Empty

variable {fuel i : Nat} {iResult : Int} {rest : List (Name × EntryType)} {x : Name}

/-- A file of the directory. -/
def FileOf (d n : List Name) (k : EntryType) : Prop := n.dropLast = d ∧ k = .file

/-- **The files** of a directory are removed, and all of them where it succeeds. -/
theorem emptyDirectory_removes (hp : Target p) (hd : components p <+: d)
    (h : emptyDirectory env (pathBelow p d) fuel i v = (iResult, v')) :
    Removes (FileOf d) v v'
      ∧ (iResult = 0 → (v.children d).length < fuel → v'.children d = []) := by
  -- induction on the fuel, which the loop needs once for each entry
  induction fuel generalizing i v with
  | zero =>
      cases h
      exact ⟨Removes.refl, fun _ hlen => absurd hlen (Nat.not_lt_zero _)⟩
  | succ fuel ih =>
      -- an early return leaves the volume as it is, and its result is negative
      have hfailed : ∀ {r : Int}, r < 0 → (r, v) = (iResult, v') →
          Removes (FileOf d) v v'
            ∧ (iResult = 0 → (v.children d).length < fuel + 1 → v'.children d = []) := by
        intro r hr heq
        cases heq
        exact ⟨Removes.refl, fun hzero => by omega⟩
      unfold emptyDirectory at h
      dsimp only at h
      cases hopen : v.fsOpendir (env.remove (pathBelow p d) i).opendir (pathBelow p d) with
      | error r =>
          rw [hopen] at h
          exact hfailed (fsOpendir_error hopen) h
      | ok es =>
          obtain ⟨-, -, hes⟩ := fsOpendir_eq_ok.mp hopen
          rw [components_pathBelow hp hd] at hes
          rw [hopen] at h
          dsimp only at h
          split at h
          · rename_i hread
            exact hfailed hread h
          cases es with
          | nil =>
              dsimp only at h
              split at h
              · rename_i hclose
                exact hfailed hclose h
              · cases h
                exact ⟨Removes.refl, fun _ _ => hes.symm⟩
          | cons e es =>
              obtain ⟨x, k⟩ := e
              dsimp only at h
              rw [childPath_pathBelow hp hd] at h
              split at h
              · exact hfailed (by decide) h
              split at h
              · rename_i hclose
                exact hfailed hclose h
              split at h
              · exact hfailed (by decide) h
              rename_i hfile
              obtain rfl : k = .file := not_not.mp hfile
              have hentry : (d ++ [x], EntryType.file) ∈ v.entries := by
                rw [← mem_children, ← hes]
                exact List.mem_cons_self
              have hx : components (pathBelow p (d ++ [x])) = d ++ [x] :=
                components_pathBelow hp (hd.trans (List.prefix_append _ _))
              split at h
              · rename_i hunlink
                exact hfailed (fsUnlink_error hunlink) h
              · rename_i v₁ hunlink
                -- the entry unlinked is a file of `d`
                have hone : Removes (FileOf d) v v₁ := by
                  refine removes_of_fsUnlink hunlink fun k hk => ?_
                  rw [hx] at hk ⊢
                  have hkind := kind_of_mem hk
                  rw [kind_of_mem hentry] at hkind
                  exact ⟨List.dropLast_concat, (Option.some.inj hkind).symm⟩
                obtain ⟨hrest, hempty⟩ := ih h
                refine ⟨hone.trans hrest, fun hzero hlen => hempty hzero ?_⟩
                obtain ⟨-, -, hnil, rfl⟩ := fsUnlink_eq_ok.mp hunlink
                rw [← hes, List.length_cons] at hlen
                -- the next pass reads the directory again and finds one entry less
                have hchildren : (v.remove (components (pathBelow p (d ++ [x]))) hnil).children d
                    = es := by
                  simp only [hx]
                  exact children_remove_head hes.symm
                show ((v.remove _ hnil).children d).length < fuel
                rw [hchildren]
                omega

/-- More fuel makes no difference, because each pass removes an entry. -/
theorem emptyDirectory_more {path : Path} (hfuel : v.entries.length < fuel) (more : Nat) :
    emptyDirectory env path (fuel + more) i v = emptyDirectory env path fuel i v := by
  induction fuel generalizing i v with
  | zero => exact absurd hfuel (Nat.not_lt_zero _)
  | succ fuel ih =>
      rw [Nat.succ_add, emptyDirectory, emptyDirectory]
      dsimp only
      cases v.fsOpendir (env.remove path i).opendir path with
      | error iResult => rfl
      | ok es =>
          cases es with
          | nil => rfl
          | cons e es =>
              dsimp only
              cases hunlink : v.fsUnlink (env.unlinkEntry (childPath path e.1.val))
                  (childPath path e.1.val) with
              | error iResult => rfl
              | ok v₁ =>
                  obtain ⟨-, ⟨k, hk⟩, hempty, rfl⟩ := fsUnlink_eq_ok.mp hunlink
                  have hlt : (v.remove _ hempty).entries.length < v.entries.length :=
                    length_remove_lt hk
                  have hless : (v.remove _ hempty).entries.length < fuel := by omega
                  dsimp only
                  rw [ih hless]

end Empty

/-! ## §4. The second pass. -/

/-- A node below the target. -/
def Beneath (p : Path) (n : List Name) (_ : EntryType) : Prop :=
  components p <+: n ∧ n ≠ components p

section Remove

variable {iResult : Int} {ds : List (List Name)}

theorem length_children_lt (v : Volume) (d : List Name) :
    (v.children d).length < v.entries.length + 1 :=
  Nat.lt_succ_of_le (List.length_filterMap_le _ _)

theorem beneath_of_fileOf (hd : components p <+: d) :
    ∀ e ∈ v.entries, FileOf d e.1 e.2 → Beneath p e.1 e.2 := by
  rintro e he ⟨hparent, -⟩
  have hne := (v.rooted e he).1
  have hpre : d <+: e.1 := hparent ▸ List.dropLast_prefix e.1
  refine ⟨hd.trans hpre, fun heq => ?_⟩
  have hlen := hd.length_le
  rw [← heq, ← hparent, List.length_dropLast] at hlen
  have hpos := List.length_pos_iff.mpr hne
  omega

/-- **The directories** are emptied and removed, and the target only emptied. -/
theorem removeDirectories_removes (hp : Target p)
    (hds : ∀ d ∈ ds, components p <+: d ∧ d ≠ components p)
    (h : removeDirectories env ((ds ++ [components p]).map (pathBelow p)) v = (iResult, v')) :
    Removes (Beneath p) v v' ∧ (iResult = 0 → v'.children (components p) = []) := by
  -- the work list is taken from its end, and the target is the last one left
  induction ds generalizing v with
  | nil =>
      rw [List.nil_append, List.map_singleton, removeDirectories] at h
      cases hempty : emptyDirectory env (pathBelow p (components p)) (v.entries.length + 1) 0 v with
      | mk r v₁ =>
          obtain ⟨hfiles, hnil⟩ := emptyDirectory_removes hp (List.prefix_refl _) hempty
          have hbelow := hfiles.mono (beneath_of_fileOf (List.prefix_refl _))
          rw [hempty] at h
          dsimp only at h
          split at h
          · rename_i hr
            cases h
            exact ⟨hbelow, fun hzero => absurd hzero hr⟩
          · rename_i hr
            cases h
            exact ⟨hbelow, fun _ => hnil (not_not.mp hr) (length_children_lt v _)⟩
  | cons d ds ih =>
      obtain ⟨hd, hds⟩ := List.forall_mem_cons.mp hds
      rw [List.cons_append, List.map_cons, removeDirectories] at h
      cases hempty : emptyDirectory env (pathBelow p d) (v.entries.length + 1) 0 v with
      | mk r v₁ =>
          have hbelow := (emptyDirectory_removes hp hd.1 hempty).1.mono (beneath_of_fileOf hd.1)
          rw [hempty] at h
          dsimp only at h
          split at h
          · rename_i hr
            cases h
            exact ⟨hbelow, fun hzero => absurd hzero hr⟩
          split at h
          · rename_i hlast
            simp at hlast
          split at h
          · rename_i hunlink
            cases h
            have hneg := fsUnlink_error hunlink
            exact ⟨hbelow, fun hzero => by omega⟩
          · rename_i v₂ hunlink
            obtain ⟨hrest, hnil⟩ := ih hds h
            -- the directory unlinked lies below the target
            have hdir : Removes (Beneath p) v₁ v₂ := by
              refine removes_of_fsUnlink hunlink fun _ _ => ?_
              rw [components_pathBelow hp hd.1]
              exact hd
            exact ⟨(hbelow.trans hdir).trans hrest, hnil⟩

end Remove

/-! ## §5. The calls that the removal makes. -/

/-- What a call returns. -/
def returned {α : Type} : Except Int α → Int
  | .error iResult => iResult
  | .ok _ => 0

/-- The results of the reads in `readEach`. -/
def readEachResults {α : Type} (readdir : Nat → Int)
    (process : α → Name × EntryType → Except Int α) : Nat → List (Name × EntryType) → α → List Int
  | i, [], _ => [readdir i]
  | i, e :: es, w =>
      readdir i ::
        if readdir i < 0 then []
        else
          match process w e with
          | .error _ => []
          | .ok w => readEachResults readdir process (i + 1) es w

/-- The results of the calls in `readDirectory`: a directory that is open is closed
again, whatever its reads have returned. -/
def readDirectoryResults {α : Type} (faults : DirFaults) (v : Volume) (path : Path)
    (process : α → Name × EntryType → Except Int α) (w : α) : List Int :=
  match v.fsOpendir faults.opendir path with
  | .error iResult => [iResult]
  | .ok entries => faults.closedir :: readEachResults faults.readdir process 0 entries w

/-- The results of the calls of the first pass. -/
def discoverResults (env : DiskEnv) (v : Volume) : Nat → Nat → List Path → List Int
  | 0, _, _ => []
  | fuel + 1, uiScanIndex, dirs =>
    match dirs[uiScanIndex]? with
    | none => []
    | some dir =>
      readDirectoryResults (env.discover dir) v dir (discoverEntry dir) dirs
        ++ match readDirectory (env.discover dir) v dir (discoverEntry dir) dirs with
          | .error _ => []
          | .ok dirs => discoverResults env v fuel (uiScanIndex + 1) dirs

/-- The results of the calls in `emptyDirectory`. -/
def emptyResults (env : DiskEnv) (dir : Path) : Nat → Nat → Volume → List Int
  | 0, _, _ => []
  | fuel + 1, uiRemoved, v =>
    let faults := env.remove dir uiRemoved
    match v.fsOpendir faults.opendir dir with
    | .error iResult => [iResult]
    | .ok entries =>
      faults.readdir 0 :: faults.closedir ::
        if faults.readdir 0 < 0 ∨ faults.closedir < 0 then []
        else
          match entries with
          | [] => []
          | (name, eEntryType) :: _ =>
            let caChildPath := childPath dir name.val
            if caChildPath.length ≥ MAX_FILE_PATH_LENGTH ∨ eEntryType ≠ .file then []
            else
              let unlinked := v.fsUnlink (env.unlinkEntry caChildPath) caChildPath
              returned unlinked ::
                match unlinked with
                | .error _ => []
                | .ok v => emptyResults env dir fuel (uiRemoved + 1) v

/-- The results of the calls of the second pass. -/
def removeResults (env : DiskEnv) : List Path → Volume → List Int
  | [], _ => []
  | dir :: rest, v =>
    let emptied := emptyDirectory env dir (v.entries.length + 1) 0 v
    emptyResults env dir (v.entries.length + 1) 0 v
      ++ if emptied.1 ≠ 0 ∨ rest = [] then []
        else
          let unlinked := emptied.2.fsUnlink (env.unlinkEntry dir) dir
          returned unlinked ::
            match unlinked with
            | .error _ => []
            | .ok v => removeResults env rest v

/-- The results of the file system calls that `iDeleteAllFilesInsideDirectory` makes. -/
def deleteResults (env : DiskEnv) (pcaDirectoryPath : Path) (v : Volume) : List Int :=
  if pcaDirectoryPath.length = 0 ∨ pcaDirectoryPath.length ≥ MAX_FILE_PATH_LENGTH then []
  else
    discoverResults env v MAX_DIRECTORY_COUNT 0 [pcaDirectoryPath]
      ++ match discover env v MAX_DIRECTORY_COUNT 0 [pcaDirectoryPath] with
        | .error _ => []
        | .ok dirs => removeResults env dirs.reverse v

/-- Every call that the removal makes succeeds. -/
def DiskEnv.Succeeds (env : DiskEnv) (p : Path) (v : Volume) : Prop :=
  ∀ iResult ∈ deleteResults env p v, 0 ≤ iResult

section Results

variable {α : Type} {faults : DirFaults} {readdir : Nat → Int} {path : Path} {w : α}
  {process : α → Name × EntryType → Except Int α} {fuel i : Nat} {dirs : List Path}

theorem fsOpendir_eq_calm {fault : Int} (h : 0 ≤ fault) :
    v.fsOpendir fault path = v.fsOpendir 0 path := by
  unfold Volume.fsOpendir
  rw [if_neg (Int.not_lt.mpr h), if_neg (Int.lt_irrefl 0)]

theorem fsOpendir_returned {fault : Int} {es : List (Name × EntryType)}
    (h : v.fsOpendir fault path = .ok es) : v.fsOpendir 0 path = .ok es := by
  rw [← fsOpendir_eq_calm (fsOpendir_eq_ok.mp h).1]
  exact h

theorem fsUnlink_returned {fault : Int} (h : 0 ≤ returned (v.fsUnlink fault path)) :
    v.fsUnlink fault path = v.fsUnlink 0 path := by
  cases hunlink : v.fsUnlink fault path with
  | error iResult =>
      rw [hunlink] at h
      exact absurd (fsUnlink_error hunlink) (Int.not_lt.mpr h)
  | ok v' =>
      obtain ⟨-, hrest⟩ := fsUnlink_eq_ok.mp hunlink
      exact (fsUnlink_eq_ok.mpr ⟨Int.le_refl 0, hrest⟩).symm

theorem readEach_eq_calm {es : List (Name × EntryType)}
    (h : ∀ r ∈ readEachResults readdir process i es w, 0 ≤ r) :
    readEach readdir process i es w = readEach (fun _ => 0) process i es w := by
  induction es generalizing i w with
  | nil =>
      have hread := h (readdir i) List.mem_cons_self
      rw [readEach, readEach, if_neg (Int.not_lt.mpr hread), if_neg (Int.lt_irrefl 0)]
  | cons e es ih =>
      rw [readEachResults, List.forall_mem_cons] at h
      obtain ⟨hread, hrest⟩ := h
      rw [if_neg (Int.not_lt.mpr hread)] at hrest
      rw [readEach, readEach, if_neg (Int.not_lt.mpr hread), if_neg (Int.lt_irrefl 0)]
      cases hprocess : process w e with
      | error iResult => rfl
      | ok w' =>
          rw [hprocess] at hrest
          exact ih hrest

theorem readDirectory_eq_calm (h : ∀ r ∈ readDirectoryResults faults v path process w, 0 ≤ r) :
    readDirectory faults v path process w = readDirectory .calm v path process w := by
  unfold readDirectoryResults at h
  unfold readDirectory
  cases hopen : v.fsOpendir faults.opendir path with
  | error iResult =>
      rw [hopen, List.forall_mem_singleton] at h
      exact absurd (fsOpendir_error hopen) (Int.not_lt.mpr h)
  | ok es =>
      rw [hopen, List.forall_mem_cons] at h
      obtain ⟨hclose, hreads⟩ := h
      have hcalm : v.fsOpendir DirFaults.calm.opendir path = .ok es := fsOpendir_returned hopen
      rw [hcalm]
      dsimp only
      rw [readEach_eq_calm hreads]
      show _ = match readEach (fun _ => 0) process 0 es w with
        | .error iResult => Except.error iResult
        | .ok w => if (0 : Int) < 0 then .error 0 else .ok w
      cases readEach (fun _ => 0) process 0 es w with
      | error iResult => rfl
      | ok w' =>
          dsimp only
          rw [if_neg (Int.not_lt.mpr hclose), if_neg (Int.lt_irrefl 0)]

theorem discover_eq_calm (h : ∀ r ∈ discoverResults env v fuel i dirs, 0 ≤ r) :
    discover env v fuel i dirs = discover .calm v fuel i dirs := by
  induction fuel generalizing i dirs with
  | zero => rfl
  | succ fuel ih =>
      rw [discoverResults] at h
      rw [discover, discover]
      cases hdir : dirs[i]? with
      | none => rfl
      | some dir =>
          rw [hdir] at h
          dsimp only at h ⊢
          obtain ⟨hread, hrest⟩ := List.forall_mem_append.mp h
          rw [readDirectory_eq_calm hread] at hrest ⊢
          show _ = match readDirectory .calm v dir (discoverEntry dir) dirs with
            | .error iResult => Except.error iResult
            | .ok dirs => discover .calm v fuel (i + 1) dirs
          cases hdirs : readDirectory .calm v dir (discoverEntry dir) dirs with
          | error iResult => rfl
          | ok dirs' =>
              rw [hdirs] at hrest
              exact ih hrest

theorem emptyDirectory_eq_calm (h : ∀ r ∈ emptyResults env path fuel i v, 0 ≤ r) :
    emptyDirectory env path fuel i v = emptyDirectory .calm path fuel i v := by
  induction fuel generalizing i v with
  | zero => rfl
  | succ fuel ih =>
      rw [emptyResults] at h
      rw [emptyDirectory, emptyDirectory]
      dsimp only at h ⊢
      cases hopen : v.fsOpendir (env.remove path i).opendir path with
      | error iResult =>
          rw [hopen, List.forall_mem_singleton] at h
          exact absurd (fsOpendir_error hopen) (Int.not_lt.mpr h)
      | ok es =>
          have hcalm : v.fsOpendir (DiskEnv.calm.remove path i).opendir path = .ok es :=
            fsOpendir_returned hopen
          rw [hopen, List.forall_mem_cons, List.forall_mem_cons] at h
          obtain ⟨hread, hclose, hrest⟩ := h
          rw [if_neg (by omega)] at hrest
          rw [hcalm]
          have hread' : ¬(DiskEnv.calm.remove path i).readdir 0 < 0 := Int.lt_irrefl 0
          have hclose' : ¬(DiskEnv.calm.remove path i).closedir < 0 := Int.lt_irrefl 0
          dsimp only
          rw [if_neg (Int.not_lt.mpr hread), if_neg hread']
          cases es with
          | nil =>
              dsimp only
              rw [if_neg (Int.not_lt.mpr hclose), if_neg hclose']
          | cons e es =>
              dsimp only at hrest ⊢
              by_cases hlong : (childPath path e.1.val).length ≥ MAX_FILE_PATH_LENGTH
              · rw [if_pos hlong, if_pos hlong]
              rw [if_neg hlong, if_neg hlong, if_neg (Int.not_lt.mpr hclose), if_neg hclose']
              by_cases hfile : e.2 ≠ .file
              · rw [if_pos hfile, if_pos hfile]
              rw [if_neg (not_or.mpr ⟨hlong, hfile⟩), List.forall_mem_cons] at hrest
              obtain ⟨hunlink, hrest⟩ := hrest
              rw [if_neg hfile, if_neg hfile]
              rw [fsUnlink_returned hunlink] at hrest ⊢
              show _ = match v.fsUnlink 0 (childPath path e.1.val) with
                | .error iResult => (iResult, v)
                | .ok v => emptyDirectory .calm path fuel (i + 1) v
              cases hv : v.fsUnlink 0 (childPath path e.1.val) with
              | error iResult => rfl
              | ok v₁ =>
                  rw [hv] at hrest
                  exact ih hrest

theorem removeDirectories_eq_calm (h : ∀ r ∈ removeResults env dirs v, 0 ≤ r) :
    removeDirectories env dirs v = removeDirectories .calm dirs v := by
  induction dirs generalizing v with
  | nil => rfl
  | cons dir rest ih =>
      rw [removeResults, List.forall_mem_append] at h
      obtain ⟨hempty, hrest⟩ := h
      dsimp only at hrest
      rw [removeDirectories, removeDirectories]
      rw [emptyDirectory_eq_calm hempty] at hrest ⊢
      dsimp only
      by_cases hfailed : (emptyDirectory .calm dir (v.entries.length + 1) 0 v).1 ≠ 0
      · rw [if_pos hfailed, if_pos hfailed]
      rw [if_neg hfailed, if_neg hfailed]
      by_cases hlast : rest = []
      · rw [if_pos hlast, if_pos hlast]
      rw [if_neg (not_or.mpr ⟨hfailed, hlast⟩), List.forall_mem_cons] at hrest
      obtain ⟨hunlink, hrest⟩ := hrest
      rw [if_neg hlast, if_neg hlast]
      rw [fsUnlink_returned hunlink] at hrest ⊢
      show _ = match (emptyDirectory .calm dir (v.entries.length + 1) 0 v).2.fsUnlink 0 dir with
        | .error iResult => (iResult, _)
        | .ok v => removeDirectories .calm rest v
      cases hv : (emptyDirectory .calm dir (v.entries.length + 1) 0 v).2.fsUnlink 0 dir with
      | error iResult => rfl
      | ok v₁ =>
          rw [hv] at hrest
          exact ih hrest

/-- **A removal whose calls all succeed** is the one in which no call can fail. -/
theorem deleteAll_eq_calm (h : env.Succeeds p v) :
    iDeleteAllFilesInsideDirectory env p v = iDeleteAllFilesInsideDirectory .calm p v := by
  unfold DiskEnv.Succeeds deleteResults at h
  unfold iDeleteAllFilesInsideDirectory
  split
  · rfl
  · rename_i hlen
    rw [if_neg hlen, List.forall_mem_append] at h
    obtain ⟨hdiscover, hremove⟩ := h
    rw [discover_eq_calm hdiscover] at hremove ⊢
    cases hdirs : discover .calm v MAX_DIRECTORY_COUNT 0 [p] with
    | error iResult => rfl
    | ok dirs =>
        rw [hdirs] at hremove
        exact removeDirectories_eq_calm hremove

end Results

/-! ## §6. The removal where no call fails. -/

theorem calm_works (n : Nat) : DirFaults.calm.Works n :=
  ⟨Int.le_refl 0, fun _ _ => Int.le_refl 0, Int.le_refl 0⟩

/-- A file whose path is within the bound. -/
def Fits (p : Path) (n : List Name) : Prop := (pathBelow p n).length < MAX_FILE_PATH_LENGTH

section Calm

variable {fuel i : Nat} {rest : List (Name × EntryType)} {x : Name} {k : EntryType}
  {P ds : List (List Name)} {w : Volume}

theorem fsOpendir_calm (hp : Target p) (hd : components p <+: d)
    (hdir : d ∈ v.dirs) :
    v.fsOpendir (DiskEnv.calm.remove (pathBelow p d) i).opendir (pathBelow p d) = .ok (v.children d) := by
  rw [fsOpendir_eq_ok, components_pathBelow hp hd]
  exact ⟨(calm_works 0).opendir, hdir, rfl⟩

/-- A pass over an empty directory. -/
theorem emptyDirectory_nil (fuel i : Nat) (hp : Target p) (hd : components p <+: d)
    (hdir : d ∈ v.dirs) (hnil : v.children d = []) :
    emptyDirectory .calm (pathBelow p d) (fuel + 1) i v = (0, v) := by
  have hcalm : (DiskEnv.calm.remove (pathBelow p d) i).Works 0 := calm_works 0
  rw [emptyDirectory, fsOpendir_calm hp hd hdir, hnil]
  dsimp only
  rw [if_neg (Int.not_lt.mpr (hcalm.readdir 0 (Nat.le_refl 0))),
    if_neg (Int.not_lt.mpr hcalm.closedir)]

/-- A pass that meets a path that is too long. -/
theorem emptyDirectory_long (hp : Target p) (hd : components p <+: d)
    (hdir : d ∈ v.dirs) (hcons : v.children d = (x, k) :: rest) (hlong : ¬Fits p (d ++ [x])) :
    emptyDirectory .calm (pathBelow p d) (fuel + 1) i v = (-ENAMETOOLONG, v) := by
  have hcalm : (DiskEnv.calm.remove (pathBelow p d) i).Works 0 := calm_works 0
  rw [emptyDirectory, fsOpendir_calm hp hd hdir, hcons]
  dsimp only
  rw [if_neg (Int.not_lt.mpr (hcalm.readdir 0 (Nat.le_refl 0))), childPath_pathBelow hp hd,
    if_pos (Nat.le_of_not_lt hlong)]

/-- A pass that removes a file. -/
theorem emptyDirectory_file (fuel i : Nat) (hp : Target p) (hd : components p <+: d)
    (hcons : v.children d = (x, .file) :: rest) (hfits : Fits p (d ++ [x])) :
    ∃ hempty, emptyDirectory .calm (pathBelow p d) (fuel + 1) i v
        = emptyDirectory .calm (pathBelow p d) fuel (i + 1)
          ⟨v.remove (d ++ [x]) hempty, v.content⟩
      ∧ (v.remove (d ++ [x]) hempty).children d = rest := by
  have hentry : (d ++ [x], EntryType.file) ∈ v.entries := by
    rw [← mem_children, hcons]
    exact List.mem_cons_self
  have hdir : d ∈ v.dirs := by
    have hparent := (v.rooted _ hentry).2
    rwa [List.dropLast_concat, ← mem_dirs] at hparent
  have hempty := children_of_file hentry
  have hx : components (pathBelow p (d ++ [x])) = d ++ [x] :=
    components_pathBelow hp (hd.trans (List.prefix_append _ _))
  have hunlink : v.fsUnlink (DiskEnv.calm.unlinkEntry (pathBelow p (d ++ [x]))) (pathBelow p (d ++ [x]))
      = .ok ⟨v.remove (d ++ [x]) hempty, v.content⟩ := by
    simp only [fsUnlink_eq_ok, hx]
    exact ⟨Int.le_refl 0, ⟨_, hentry⟩, hempty, trivial⟩
  refine ⟨hempty, ?_, children_remove_head hcons⟩
  have hcalm : (DiskEnv.calm.remove (pathBelow p d) i).Works 0 := calm_works 0
  rw [emptyDirectory, fsOpendir_calm hp hd hdir, hcons]
  dsimp only
  rw [if_neg (Int.not_lt.mpr (hcalm.readdir 0 (Nat.le_refl 0))), childPath_pathBelow hp hd,
    if_neg (Nat.not_le_of_lt hfits), if_neg (Int.not_lt.mpr hcalm.closedir),
    if_neg (not_not.mpr rfl), hunlink]

/-- **A directory of files** is emptied, unless some path is too long. -/
theorem emptyDirectory_calm (hp : Target p) (hd : components p <+: d)
    (hdir : d ∈ v.dirs) (hfiles : ∀ c ∈ v.children d, c.2 = .file)
    (hfuel : (v.children d).length < fuel) :
    ((∀ c ∈ v.children d, Fits p (d ++ [c.1])) →
        ∃ v', emptyDirectory .calm (pathBelow p d) fuel i v = (0, v') ∧ v'.content = v.content
          ∧ v'.entries = v.entries.filter fun e => e.1.dropLast ≠ d)
      ∧ ((∃ c ∈ v.children d, ¬Fits p (d ++ [c.1])) →
        (emptyDirectory .calm (pathBelow p d) fuel i v).1 = -ENAMETOOLONG) := by
  induction fuel generalizing i v with
  | zero => exact absurd hfuel (Nat.not_lt_zero _)
  | succ fuel ih =>
      cases hchildren : v.children d with
      | nil =>
          rw [emptyDirectory_nil _ _ hp hd hdir hchildren]
          refine ⟨fun _ => ⟨v, rfl, rfl, ?_⟩, ?_⟩
          · refine (List.filter_eq_self.mpr fun e he => decide_eq_true ?_).symm
            exact children_eq_nil_iff.mp hchildren e he
          · rintro ⟨c, hc, -⟩
            exact absurd hc List.not_mem_nil
      | cons c rest =>
          obtain ⟨x, k⟩ := c
          rw [hchildren, List.forall_mem_cons] at hfiles
          obtain ⟨hk, hrest⟩ := hfiles
          obtain rfl : k = .file := hk
          by_cases hfits : Fits p (d ++ [x])
          · obtain ⟨hempty, hpass, hnext⟩ :=
              emptyDirectory_file fuel i hp hd hchildren hfits
            -- the directory is still there, and the loop goes on with the files that remain
            have hdir' : d ∈ (v.remove (d ++ [x]) hempty).dirs := by
              refine mem_dirs.mpr ((mem_dirs.mp hdir).imp_right fun hd' => ?_)
              exact List.mem_filter.mpr ⟨hd', by simp⟩
            rw [hchildren, List.length_cons] at hfuel
            have hih := ih (i := i + 1) (v := ⟨v.remove (d ++ [x]) hempty, v.content⟩) hdir'
              (by rw [hnext]; exact hrest) (by rw [hnext]; omega)
            rw [hnext, ← hpass] at hih
            rw [List.forall_mem_cons]
            constructor
            · rintro ⟨-, hall⟩
              obtain ⟨v', hres, hcontent, hentries⟩ := hih.1 hall
              refine ⟨v', hres, hcontent, hentries.trans ?_⟩
              -- what the two steps take away are the entries of `d`
              show (v.entries.filter _).filter _ = _
              rw [List.filter_filter]
              refine List.filter_congr fun e _ => ?_
              by_cases hparent : e.1.dropLast = d
              · simp [hparent]
              · have hne : e.1 ≠ d ++ [x] := by
                  rintro heq
                  exact hparent (heq ▸ List.dropLast_concat)
                simp [hparent, hne]
            · rintro ⟨c, hc, hlong⟩
              rcases List.mem_cons.mp hc with rfl | hc
              · exact absurd hfits hlong
              · exact hih.2 ⟨c, hc, hlong⟩
          · rw [emptyDirectory_long hp hd hdir hchildren hfits]
            refine ⟨fun hall => ?_, fun _ => rfl⟩
            exact absurd (hall _ List.mem_cons_self) hfits

/-- The volume after the directories `P` have been emptied and removed. -/
structure After (P : List (List Name)) (v w : Volume) : Prop where
  content : w.content = v.content
  entries : w.entries = v.entries.filter fun e => e.1 ∉ P ∧ e.1.dropLast ∉ P

theorem After.mem (hw : After P v w) :
    (n, k) ∈ w.entries ↔ (n, k) ∈ v.entries ∧ n ∉ P ∧ n.dropLast ∉ P := by
  rw [hw.entries, List.mem_filter, decide_eq_true_iff]

/-- The next directory is there, and holds its files and no directory. -/
structure Next (P : List (List Name)) (v : Volume) (d : List Name) : Prop where
  dir : d ∈ v.dirs
  notMem : d ∉ P
  parent : d = [] ∨ d.dropLast ∉ P
  inner : ∀ x, (d ++ [x], EntryType.dir) ∈ v.entries → d ++ [x] ∈ P
  dirs : ∀ d' ∈ P, d' ∈ v.dirs

theorem next_of_below (hroot : components p ∈ v.dirs) (front : List (List Name))
    (hsplit : v.below (components p) = front ++ d :: P) : Next P v d := by
  have hnodup := nodup_below hroot
  rw [hsplit] at hnodup
  have hmem : ∀ n ∈ d :: P, n ∈ v.dirs := fun n hn =>
    ((mem_below hroot).mp (hsplit ▸ List.mem_append_right front hn)).1
  have hd := hmem d List.mem_cons_self
  refine ⟨hd, ?_, ?_, fun x hx => ?_, fun d' hd' => hmem d' (List.mem_cons_of_mem d hd')⟩
  · exact (List.nodup_cons.mp (List.nodup_append.mp hnodup).2.1).1
  · -- a directory that comes later is not the parent, whose entries come after it
    by_cases hne : d = []
    · exact Or.inl hne
    · refine Or.inr fun hparent => ?_
      obtain ⟨mid, back, hP⟩ := List.append_of_mem hparent
      have hsplit' : v.below (components p) = (front ++ d :: mid) ++ d.dropLast :: back := by
        rw [hsplit, hP]
        simp
      have hback := below_order hroot hsplit' (mem_nodesIn_dropLast hd hne)
      rw [← hsplit, hsplit'] at hnodup
      exact (List.nodup_append.mp hnodup).2.2 d (by simp) d (List.mem_cons_of_mem _ hback) rfl
  · exact below_order hroot hsplit (mem_nodesIn.mpr ⟨x, rfl, hx⟩)

theorem Next.dir_after (h : Next P v d) (hw : After P v w) : d ∈ w.dirs := by
  refine mem_dirs.mpr ((mem_dirs.mp h.dir).imp_right fun hd => hw.mem.mpr ⟨hd, h.notMem, ?_⟩)
  exact h.parent.resolve_left (v.rooted _ hd).1

/-- What is left in the next directory are its files. -/
theorem Next.children_after (h : Next P v d) (hw : After P v w) :
    (x, k) ∈ w.children d ↔ k = .file ∧ (d ++ [x], EntryType.file) ∈ v.entries := by
  rw [mem_children, hw.mem, List.dropLast_concat]
  constructor
  · rintro ⟨hentry, hx, -⟩
    cases k with
    | dir => exact absurd (h.inner x hentry) hx
    | file => exact ⟨rfl, hentry⟩
  · rintro ⟨rfl, hentry⟩
    refine ⟨hentry, fun hx => ?_, h.notMem⟩
    have hkind := kind_dir_iff.mpr (h.dirs _ hx)
    rw [kind_of_mem hentry] at hkind
    cases hkind

theorem After.start (v : Volume) : After [] v v :=
  ⟨rfl, (List.filter_eq_self.mpr fun _ _ => by simp).symm⟩

/-- **The next directory** is emptied, unless the path of one of its files is too
long. -/
theorem Next.emptied (h : Next P v d) (hw : After P v w) (hp : Target p) (hd : components p <+: d) :
    ((∀ x, (d ++ [x], EntryType.file) ∈ v.entries → Fits p (d ++ [x])) →
        ∃ w', emptyDirectory .calm (pathBelow p d) (w.entries.length + 1) 0 w = (0, w')
          ∧ w'.content = v.content
          ∧ w'.entries = w.entries.filter fun e => e.1.dropLast ≠ d)
      ∧ (∀ x, (d ++ [x], EntryType.file) ∈ v.entries → ¬Fits p (d ++ [x]) →
        (emptyDirectory .calm (pathBelow p d) (w.entries.length + 1) 0 w).1 = -ENAMETOOLONG) := by
  obtain ⟨hfit, hlong⟩ := emptyDirectory_calm (i := 0) hp hd (h.dir_after hw)
    (fun c hc => ((h.children_after hw).mp hc).1) (length_children_lt w d)
  constructor
  · intro hall
    obtain ⟨w', hres, hcontent, hentries⟩ :=
      hfit fun c hc => hall c.1 ((h.children_after hw).mp hc).2
    exact ⟨w', hres, hcontent.trans hw.content, hentries⟩
  · intro x hx hno
    exact hlong ⟨(x, .file), (h.children_after hw).mpr ⟨rfl, hx⟩, hno⟩

/-- The directory itself is removed after that. -/
theorem Next.removed (h : Next P v d) (hw : After P v w) (hp : Target p) (hd : components p <+: d) (hne : d ≠ []) {w' : Volume}
    (hcontent : w'.content = v.content)
    (hentries : w'.entries = w.entries.filter fun e => e.1.dropLast ≠ d) :
    ∃ w'', w'.fsUnlink (DiskEnv.calm.unlinkEntry (pathBelow p d)) (pathBelow p d) = .ok w''
      ∧ After (d :: P) v w'' := by
  have hempty : w'.children d = [] := by
    refine children_eq_nil_iff.mpr fun e he => ?_
    rw [hentries] at he
    exact of_decide_eq_true (List.mem_filter.mp he).2
  have hdir : (d, EntryType.dir) ∈ w'.entries := by
    have hin := (mem_dirs.mp (h.dir_after hw)).resolve_left hne
    rw [hentries]
    refine List.mem_filter.mpr ⟨hin, decide_eq_true fun (heq : d.dropLast = d) => ?_⟩
    have hlen := congrArg List.length heq
    have hpos := List.length_pos_iff.mpr hne
    rw [List.length_dropLast] at hlen
    omega
  refine ⟨⟨w'.remove d hempty, w'.content⟩, ?_, hcontent, ?_⟩
  · simp only [fsUnlink_eq_ok, components_pathBelow hp hd]
    exact ⟨Int.le_refl 0, ⟨_, hdir⟩, hempty, trivial⟩
  · show w'.entries.filter _ = _
    rw [hentries, hw.entries, List.filter_filter, List.filter_filter]
    refine List.filter_congr fun e _ => ?_
    simp only [List.mem_cons, not_or, Bool.decide_and, decide_not]
    cases decide (e.1 = d) <;> cases decide (e.1.dropLast = d) <;> simp

/-- **The second pass** succeeds where every path is within the bound. -/
theorem removeDirectories_calm (hp : Target p)
    (hroot : components p ∈ v.dirs)
    (hsplit : v.below (components p) = components p :: (ds.reverse ++ P)) (hw : After P v w) :
    ((∀ d ∈ ds ++ [components p], ∀ x, (d ++ [x], EntryType.file) ∈ v.entries →
        Fits p (d ++ [x])) →
        (removeDirectories .calm ((ds ++ [components p]).map (pathBelow p)) w).1 = 0)
      ∧ ((∃ d ∈ ds ++ [components p], ∃ x, (d ++ [x], EntryType.file) ∈ v.entries
          ∧ ¬Fits p (d ++ [x])) →
        (removeDirectories .calm ((ds ++ [components p]).map (pathBelow p)) w).1
          = -ENAMETOOLONG) := by
  -- the work list is taken from its end; `P` are the directories already removed
  induction ds generalizing P w with
  | nil =>
      obtain ⟨hfit, hlong⟩ := (next_of_below hroot [] hsplit).emptied hw hp
        (List.prefix_refl _)
      simp only [List.nil_append, List.mem_singleton, forall_eq, exists_eq_left, List.map_cons,
        List.map_nil, removeDirectories]
      constructor
      · intro hall
        obtain ⟨w', hres, -⟩ := hfit hall
        rw [hres]
        rfl
      · rintro ⟨x, hx, hno⟩
        have hres := hlong x hx hno
        rw [if_pos (by rw [hres]; decide)]
        exact hres
  | cons d ds ih =>
      have hsplit' : v.below (components p) = components p :: (ds.reverse ++ d :: P) := by
        rw [hsplit, List.reverse_cons, List.append_assoc]
        rfl
      have hnext := next_of_below hroot (components p :: ds.reverse) hsplit'
      have hdbelow : d ∈ v.below (components p) := by
        rw [hsplit']
        simp
      have hd := ((mem_below hroot).mp hdbelow).2
      -- each directory is listed once, and the target first
      have hdroot : d ≠ components p := by
        have hnodup := nodup_below hroot
        rw [hsplit'] at hnodup
        rintro rfl
        exact (List.nodup_cons.mp hnodup).1 (by simp)
      have hne : d ≠ [] := by
        rintro rfl
        exact hdroot (List.prefix_nil.mp hd).symm
      obtain ⟨hfit, hlong⟩ := hnext.emptied hw hp hd
      rw [List.cons_append, List.map_cons, removeDirectories]
      by_cases hall : ∀ x, (d ++ [x], EntryType.file) ∈ v.entries → Fits p (d ++ [x])
      · obtain ⟨w', hres, hcontent, hentries⟩ := hfit hall
        obtain ⟨w'', hunlink, hafter⟩ := hnext.removed hw hp hd hne hcontent hentries
        obtain ⟨hzero, herror⟩ := ih hsplit' hafter
        rw [hres]
        dsimp only
        rw [if_neg (not_not.mpr rfl), if_neg (by simp), hunlink]
        constructor
        · intro h
          exact hzero fun d' hd' => h d' (List.mem_cons_of_mem d hd')
        · rintro ⟨d', hd', x, hx, hno⟩
          rcases List.mem_cons.mp hd' with rfl | hd'
          · exact absurd (hall x hx) hno
          · exact herror ⟨d', hd', x, hx, hno⟩
      · simp only [not_forall] at hall
        obtain ⟨x, hx, hno⟩ := hall
        -- a path that is too long ends the pass here
        have hres := hlong x hx hno
        dsimp only
        rw [if_pos (by rw [hres]; decide)]
        exact ⟨fun h => absurd (h d List.mem_cons_self x hx) hno, fun _ => hres⟩

end Calm

/-! ## §7. All or nothing. -/

/-- The paths of the files below the target are within the bound. -/
def FilesFit (v : Volume) (p : Path) : Prop :=
  ∀ n ∈ v.files, Beneath p n .file → Fits p n

/-- The entry that the second pass reads first has a path that is too long: the first
entry of the last directory. -/
def FirstTooLong (v : Volume) (p : Path) : Prop :=
  ∃ d x k rest, (v.below (components p)).getLast? = some d ∧ v.children d = (x, k) :: rest
    ∧ ¬Fits p (d ++ [x])

/-- The removal of what is in the directory `p` ends, removes nothing else, empties
the directory where it succeeds, and removes nothing where the directory does not fit
its bounds. -/
structure AllOrNothing (env : DiskEnv) (p : Path) (v : Volume) : Prop where
  discovers : ∀ more, discover env v (MAX_DIRECTORY_COUNT + more) 0 [p]
    = discover env v MAX_DIRECTORY_COUNT 0 [p]
  empties : ∀ path w more, emptyDirectory env path (w.entries.length + 1 + more) 0 w
    = emptyDirectory env path (w.entries.length + 1) 0 w
  empty : (iDeleteAllFilesInsideDirectory env p v).1 = 0 →
    (iDeleteAllFilesInsideDirectory env p v).2.children (components p) = []
  outside : ∀ e ∈ v.entries, ¬Beneath p e.1 e.2 →
    e ∈ (iDeleteAllFilesInsideDirectory env p v).2.entries
  bounds : env.Succeeds p v →
    (iDeleteAllFilesInsideDirectory env p v).1 = -ENOSPC
      ∨ (iDeleteAllFilesInsideDirectory env p v).1 = -ENAMETOOLONG →
    (iDeleteAllFilesInsideDirectory env p v).2 = v

section Main

variable {iResult : Int}

theorem discover_error {fuel i : Nat} {dirs : List Path}
    (h : discover env v fuel i dirs = .error iResult) : iResult < 0 := by
  have hentry : ∀ (path : Path) dirs e r, discoverEntry path dirs e = .error r → r < 0 := by
    intro path dirs e r h
    unfold discoverEntry at h
    split at h
    · cases h
    split at h
    · cases h
      decide
    split at h
    · cases h
      decide
    · cases h
  induction fuel generalizing i dirs with
  | zero => cases h
  | succ fuel ih =>
      unfold discover at h
      split at h
      · cases h
      split at h
      · rename_i hread
        cases h
        exact readDirectory_error (hentry _) hread
      · exact ih h

/-- A target that is not a directory of the volume is not read. -/
theorem discover_missing (env : DiskEnv) (hroot : components p ∉ v.dirs) :
    ∃ r, ∀ fuel, discover env v (fuel + 1) 0 [p] = .error r := by
  cases hread : readDirectory (env.discover p) v p (discoverEntry p) [p] with
  | error r =>
      refine ⟨r, fun fuel => ?_⟩
      rw [discover, List.getElem?_cons_zero]
      dsimp only
      rw [hread]
  | ok dirs => exact absurd (readDirectory_eq_ok.mp hread).1 hroot

theorem deleteAll_eq (hp : Target p) : iDeleteAllFilesInsideDirectory env p v
    = match discover env v MAX_DIRECTORY_COUNT 0 [p] with
      | .error iResult => (iResult, v)
      | .ok dirs => removeDirectories env dirs.reverse v := by
  have hmount : EXT_LITTLEFS_MOUNT_POINT.length = 4 := rfl
  have hlong := hp.mount
  have hshort := hp.short
  have hfits : ¬(p.length = 0 ∨ p.length ≥ MAX_FILE_PATH_LENGTH) := by omega
  unfold iDeleteAllFilesInsideDirectory
  cases hdiscover : discover env v MAX_DIRECTORY_COUNT 0 [p] with
  | error iResult => simp only [if_neg hfits]
  | ok dirs => simp only [if_neg hfits]

/-- The directories in the order of the second pass. -/
theorem reverse_below (hroot : components p ∈ v.dirs) :
    ∃ ds, v.below (components p) = components p :: ds.reverse
      ∧ ((v.below (components p)).map (pathBelow p)).reverse
        = (ds ++ [components p]).map (pathBelow p)
      ∧ ∀ d ∈ ds, components p <+: d ∧ d ≠ components p := by
  obtain ⟨rest, hrest⟩ := below_eq_cons hroot
  have hnodup := nodup_below hroot
  rw [hrest] at hnodup
  refine ⟨rest.reverse, by rw [hrest, List.reverse_reverse], ?_, fun d hd => ?_⟩
  · rw [hrest, ← List.map_reverse, List.reverse_cons]
  · have hmem := List.mem_reverse.mp hd
    refine ⟨((mem_below hroot).mp (hrest ▸ List.mem_cons_of_mem _ hmem)).2, ?_⟩
    rintro rfl
    exact (List.nodup_cons.mp hnodup).1 hmem

/-- **Containment**: whatever fails, only nodes below the target are removed. -/
theorem deleteAll_removes (env : DiskEnv) (v : Volume) (hp : Target p) :
    Removes (Beneath p) v (iDeleteAllFilesInsideDirectory env p v).2
      ∧ ((iDeleteAllFilesInsideDirectory env p v).1 = 0 →
        (iDeleteAllFilesInsideDirectory env p v).2.children (components p) = []) := by
  rw [deleteAll_eq hp]
  cases hdiscover : discover env v MAX_DIRECTORY_COUNT 0 [p] with
  | error r =>
      have hneg := discover_error hdiscover
      refine ⟨Removes.refl, fun (hzero : r = 0) => ?_⟩
      omega
  | ok dirs =>
      by_cases hroot : components p ∈ v.dirs
      · obtain ⟨-, -, rfl⟩ := (discover_eq_ok hp hroot).mp hdiscover
        obtain ⟨ds, -, hreverse, hds⟩ := reverse_below hroot
        dsimp only
        rw [hreverse]
        exact removeDirectories_removes hp hds rfl
      · obtain ⟨r, hr⟩ := discover_missing env hroot
        have hmissing : discover env v MAX_DIRECTORY_COUNT 0 [p] = .error r := hr 9
        rw [hmissing] at hdiscover
        cases hdiscover

/-- The last directory is read first. -/
theorem getLast_below {d : List Name} {ds rest : List (List Name)}
    (hsplit : v.below (components p) = components p :: ds.reverse)
    (hhead : ds ++ [components p] = d :: rest) : (v.below (components p)).getLast? = some d := by
  have hreverse : (components p :: ds.reverse) = (ds ++ [components p]).reverse := by simp
  rw [hsplit, hreverse, List.getLast?_reverse, hhead, List.head?_cons]

/-- The second pass leaves no more than the emptying of its first directory. -/
theorem removeDirectories_le (env : DiskEnv) (w : Volume) {d : List Name}
    {ds rest : List (List Name)} (hp : Target p) (hds : ∀ d ∈ ds, components p <+: d ∧ d ≠ components p)
    (hhead : ds ++ [components p] = d :: rest) :
    (removeDirectories env ((d :: rest).map (pathBelow p)) w).2.entries.length
      ≤ (emptyDirectory env (pathBelow p d) (w.entries.length + 1) 0 w).2.entries.length := by
  rw [List.map_cons, removeDirectories]
  dsimp only
  split
  · exact Nat.le_refl _
  split
  · exact Nat.le_refl _
  rename_i hrest
  split
  · exact Nat.le_refl _
  · rename_i w' hunlink
    have hone := (removes_of_fsUnlink (Q := fun _ _ => True) hunlink fun _ _ => trivial).within
    refine Nat.le_trans ?_ hone.length_le
    cases ds with
    | nil =>
        obtain ⟨-, rfl⟩ := List.cons.inj hhead
        exact absurd rfl hrest
    | cons d' ds =>
        obtain ⟨rfl, rfl⟩ := List.cons.inj hhead
        exact (removeDirectories_removes hp (List.forall_mem_cons.mp hds).2 rfl).1.within.length_le

/-- Where the first entry fits, something is removed. -/
theorem removeDirectories_shrinks {ds : List (List Name)} (hp : Target p) (hroot : components p ∈ v.dirs)
    (hsplit : v.below (components p) = components p :: ds.reverse)
    (hds : ∀ d ∈ ds, components p <+: d ∧ d ≠ components p) (hfirst : ¬FirstTooLong v p)
    (hlong : ∃ d ∈ ds ++ [components p], ∃ x, (d ++ [x], EntryType.file) ∈ v.entries
      ∧ ¬Fits p (d ++ [x])) :
    (removeDirectories .calm ((ds ++ [components p]).map (pathBelow p)) v).2.entries.length
      < v.entries.length := by
  obtain ⟨d, rest, hhead⟩ : ∃ d rest, ds ++ [components p] = d :: rest :=
    List.exists_cons_of_ne_nil (by simp)
  have hd : components p <+: d ∧ (rest ≠ [] → d ≠ components p) := by
    cases ds with
    | nil =>
        obtain ⟨rfl, rfl⟩ := List.cons.inj hhead
        exact ⟨List.prefix_refl _, fun hne => absurd rfl hne⟩
    | cons d' ds =>
        obtain ⟨rfl, rfl⟩ := List.cons.inj hhead
        have hd := hds _ List.mem_cons_self
        exact ⟨hd.1, fun _ => hd.2⟩
  have hlast := getLast_below hsplit hhead
  obtain ⟨front, hfront⟩ := List.getLast?_eq_some_iff.mp hlast
  have hnext : Next [] v d := next_of_below hroot front hfront
  have hle := removeDirectories_le .calm v hp hds hhead
  rw [hhead]
  cases hchildren : v.children d with
  | cons c cs =>
      -- its first entry is a file within the bound
      obtain ⟨x, k⟩ := c
      have hk : k = .file := by
        have hmem : (x, k) ∈ v.children d := hchildren ▸ List.mem_cons_self
        exact ((hnext.children_after (After.start v)).mp hmem).1
      subst hk
      have hfits : Fits p (d ++ [x]) := by
        by_contra hno
        exact hfirst ⟨d, x, _, cs, hlast, hchildren, hno⟩
      obtain ⟨hempty, hpass, -⟩ := emptyDirectory_file v.entries.length 0
        hp hd.1 hchildren hfits
      have hwithin : (emptyDirectory .calm (pathBelow p d) v.entries.length 1
            ⟨v.remove (d ++ [x]) hempty, v.content⟩).2.entries.length
          ≤ (v.remove (d ++ [x]) hempty).entries.length :=
        (emptyDirectory_removes hp hd.1 rfl).1.within.length_le
      have hentry : (d ++ [x], EntryType.file) ∈ v.entries := by
        rw [← mem_children, hchildren]
        exact List.mem_cons_self
      have hlt : (v.remove (d ++ [x]) hempty).entries.length < v.entries.length :=
        length_remove_lt hentry
      rw [hpass] at hle
      exact Nat.lt_of_le_of_lt (Nat.le_trans hle hwithin) hlt
  | nil =>
      -- it is empty, so it is not the target, and is removed itself
      have hrest : rest ≠ [] := by
        rintro rfl
        obtain ⟨d', hd', x, hx, -⟩ := hlong
        rw [hhead, List.mem_singleton] at hd'
        subst hd'
        have hmem := mem_children.mpr hx
        rw [hchildren] at hmem
        exact List.not_mem_nil hmem
      have hne : d ≠ [] := by
        rintro rfl
        exact hd.2 hrest (List.prefix_nil.mp hd.1).symm
      have hpass := emptyDirectory_nil v.entries.length 0 hp hd.1
        hnext.dir hchildren
      have hall : v.entries = v.entries.filter fun e => e.1.dropLast ≠ d :=
        (List.filter_eq_self.mpr fun e he =>
          decide_eq_true (children_eq_nil_iff.mp hchildren e he)).symm
      obtain ⟨w', hunlink, hafter⟩ :=
        hnext.removed (After.start v) hp hd.1 hne rfl hall
      rw [List.map_cons, removeDirectories, hpass]
      dsimp only
      rw [if_neg (not_not.mpr rfl), if_neg (by simpa using hrest), hunlink]
      dsimp only
      have hwithin : (removeDirectories .calm (rest.map (pathBelow p)) w').2.entries.length
          ≤ w'.entries.length := by
        cases ds with
        | nil =>
            obtain ⟨-, rfl⟩ := List.cons.inj hhead
            exact absurd rfl hrest
        | cons d' ds =>
            obtain ⟨-, rfl⟩ := List.cons.inj hhead
            exact (removeDirectories_removes hp (List.forall_mem_cons.mp hds).2
              rfl).1.within.length_le
      have hlt : w'.entries.length < v.entries.length := by
        obtain ⟨-, ⟨k, hk⟩, hempty, rfl⟩ := fsUnlink_eq_ok.mp hunlink
        show (v.remove _ hempty).entries.length < v.entries.length
        exact length_remove_lt hk
      exact Nat.lt_of_le_of_lt hwithin hlt

/-- The files below the target, by their directory. -/
theorem filesFit_iff (hroot : components p ∈ v.dirs) {ds : List (List Name)}
    (hsplit : v.below (components p) = components p :: ds.reverse) :
    FilesFit v p ↔ ∀ d ∈ ds ++ [components p], ∀ x, (d ++ [x], EntryType.file) ∈ v.entries →
      Fits p (d ++ [x]) := by
  have hmem : ∀ d, d ∈ ds ++ [components p] ↔ d ∈ v.dirs ∧ components p <+: d := by
    intro d
    rw [← mem_below hroot, hsplit]
    simp [or_comm]
  constructor
  · intro h d hd x hx
    have hpre := ((hmem d).mp hd).2
    refine h _ (mem_files.mpr hx) ⟨hpre.trans (List.prefix_append _ _), fun heq => ?_⟩
    have hlen := hpre.length_le
    rw [← heq, List.length_append, List.length_singleton] at hlen
    omega
  · intro h n hn hbelow
    have hentry := mem_files.mp hn
    rcases List.eq_nil_or_concat n with rfl | ⟨d, x, rfl⟩
    · exact absurd rfl (v.rooted _ hentry).1
    · rw [List.concat_eq_append] at hentry hbelow ⊢
      have hdir := (v.rooted _ hentry).2
      rw [List.dropLast_concat, ← mem_dirs] at hdir
      have hpre := (List.prefix_concat_iff.mp hbelow.1).resolve_left fun heq =>
        hbelow.2 heq.symm
      exact h d ((hmem d).mpr ⟨hdir, hpre⟩) x hentry

/-- The result where no call can fail. -/
theorem bounds_iff (v : Volume) (hp : Target p) :
    ((iDeleteAllFilesInsideDirectory .calm p v).1 = -ENOSPC
        ∨ (iDeleteAllFilesInsideDirectory .calm p v).1 = -ENAMETOOLONG →
      (iDeleteAllFilesInsideDirectory .calm p v).2 = v)
      ↔ (Discoverable v p → FilesFit v p ∨ FirstTooLong v p) := by
  rw [deleteAll_eq hp]
  by_cases hdiscoverable : Discoverable v p
  · have hroot := hdiscoverable.target
    have hdiscover : discover .calm v MAX_DIRECTORY_COUNT 0 [p]
        = .ok ((v.below (components p)).map (pathBelow p)) :=
      (discover_eq_ok hp hroot).mpr ⟨fun d _ => calm_works _, hdiscoverable, rfl⟩
    obtain ⟨ds, hsplit, hreverse, hds⟩ := reverse_below hroot
    have hsplit' : v.below (components p) = components p :: (ds.reverse ++ []) := by
      rw [hsplit, List.append_nil]
    obtain ⟨hzero, herror⟩ := removeDirectories_calm hp hroot hsplit' (After.start v)
    rw [hdiscover]
    dsimp only
    rw [hreverse, filesFit_iff hroot hsplit]
    by_cases hfit : ∀ d ∈ ds ++ [components p], ∀ x, (d ++ [x], EntryType.file) ∈ v.entries →
        Fits p (d ++ [x])
    · rw [hzero hfit]
      exact ⟨fun _ _ => Or.inl hfit, fun _ hbound => hbound.elim nofun nofun⟩
    · have hlong : ∃ d ∈ ds ++ [components p], ∃ x, (d ++ [x], EntryType.file) ∈ v.entries
          ∧ ¬Fits p (d ++ [x]) := by
        simpa only [not_forall, exists_prop] using hfit
      constructor
      · intro h _
        -- the pass reports the long path, but something has been removed before it
        have hsame := h (Or.inr (herror hlong))
        refine Or.inr (Classical.byContradiction fun hfirst => ?_)
        have hlt := removeDirectories_shrinks hp hroot hsplit hds hfirst hlong
        rw [hsame] at hlt
        exact absurd hlt (Nat.lt_irrefl _)
      · intro h _
        -- the long path is the first entry read, so nothing has been removed
        obtain ⟨d, x, k, cs, hlast, hchildren, hno⟩ := (h hdiscoverable).resolve_left hfit
        obtain ⟨d', rest, hhead⟩ : ∃ d rest, ds ++ [components p] = d :: rest :=
          List.exists_cons_of_ne_nil (by simp)
        have hd := getLast_below hsplit hhead
        rw [hlast] at hd
        obtain rfl : d = d' := Option.some.inj hd
        have hmem : d ∈ v.below (components p) := List.mem_of_getLast? hlast
        obtain ⟨hdir, hpre⟩ := (mem_below hroot).mp hmem
        rw [hhead, List.map_cons, removeDirectories,
          emptyDirectory_long hp hpre hdir hchildren hno]
        rfl
  · refine ⟨fun _ h => absurd h hdiscoverable, fun _ _ => ?_⟩
    -- the first pass gives up before anything is removed
    cases hdiscover : discover .calm v MAX_DIRECTORY_COUNT 0 [p] with
    | error r => rfl
    | ok dirs =>
        by_cases hroot : components p ∈ v.dirs
        · exact absurd ((discover_eq_ok hp hroot).mp hdiscover).2.1 hdiscoverable
        · obtain ⟨r, hr⟩ := discover_missing .calm hroot
          have hmissing : discover .calm v MAX_DIRECTORY_COUNT 0 [p] = .error r := hr 9
          rw [hmissing] at hdiscover
          cases hdiscover

end Main

/-- **All or nothing**: the removal is, unless the directories fit and some file's path
does not, after something else has been removed. -/
theorem allOrNothing_iff (h : directoryToDelete q = some p) : AllOrNothing env p v
    ↔ (env.Succeeds p v → Discoverable v p → FilesFit v p ∨ FirstTooLong v p) := by
  have hp := target_of_directory h
  constructor
  · intro hall hsucceeds
    have hbounds := hall.bounds hsucceeds
    rw [deleteAll_eq_calm hsucceeds] at hbounds
    exact (bounds_iff v hp).mp hbounds
  · intro hcond
    obtain ⟨hremoves, hempty⟩ := deleteAll_removes env v hp
    refine ⟨fun more => ?_, fun path w more => ?_, hempty, fun e he hout => ?_,
      fun hsucceeds => ?_⟩
    · by_cases hroot : components p ∈ v.dirs
      · have hone : ([] ++ [components p]).length ≤ MAX_DIRECTORY_COUNT := by
          show 1 ≤ MAX_DIRECTORY_COUNT
          decide
        have hmore := discover_more env hp (Frontier.init hroot) hone
          (Nat.le_add_right MAX_DIRECTORY_COUNT _) more
        rwa [List.nil_append, List.map_singleton, pathBelow_target] at hmore
      · obtain ⟨r, hr⟩ := discover_missing env hroot
        have hmore := hr (9 + more)
        rw [Nat.add_right_comm] at hmore
        exact hmore.trans (hr 9).symm
    · exact emptyDirectory_more (Nat.lt_succ_self _) more
    · exact (hremoves.kept e he).resolve_right hout
    · rw [deleteAll_eq_calm hsucceeds]
      exact (bounds_iff v hp).mpr (hcond hsucceeds)

/-- A directory with a file, and then a file whose name is too long. -/
def longNameVolume : Volume where
  entries :=
    [([⟨ascii "d", by decide⟩], .dir),
      ([⟨ascii "d", by decide⟩, ⟨ascii "a", by decide⟩], .file),
      ([⟨ascii "d", by decide⟩, ⟨List.replicate 93 0x62, by decide⟩], .file)]
  nodup := by decide
  rooted := by decide
  content _ := []

/-- The first file is removed before the second one is refused. -/
theorem not_allOrNothing :
    ∃ env p v, directoryToDelete p = some p ∧ ¬AllOrNothing env p v := by
  refine ⟨DiskEnv.calm, ascii "/lfs/d", longNameVolume, by decide, fun h => ?_⟩
  have hsucceeds : DiskEnv.calm.Succeeds (ascii "/lfs/d") longNameVolume := by
    unfold DiskEnv.Succeeds
    decide +kernel
  have hlong : (iDeleteAllFilesInsideDirectory .calm (ascii "/lfs/d") longNameVolume).1
      = -ENAMETOOLONG := by decide +kernel
  have hlost : (iDeleteAllFilesInsideDirectory .calm (ascii "/lfs/d") longNameVolume).2.entries.length
      = 2 := by decide +kernel
  rw [h.bounds hsucceeds (Or.inr hlong)] at hlost
  exact absurd hlost (by decide)

theorem allOrNothing_iff_longName :
    AllOrNothing .calm (ascii "/lfs/d") longNameVolume
      ↔ (DiskEnv.calm.Succeeds (ascii "/lfs/d") longNameVolume →
        Discoverable longNameVolume (ascii "/lfs/d") →
        FilesFit longNameVolume (ascii "/lfs/d") ∨ FirstTooLong longNameVolume (ascii "/lfs/d")) :=
  allOrNothing_iff (show directoryToDelete (ascii "/lfs/d/") = some (ascii "/lfs/d") by decide)

/-! ## §8. Containment. -/

theorem iGetFileInfo_entries (env : DiskEnv) (v : Volume) (files : List FileInfo) :
    (Disk.iGetFileInfo env ⟨v, files⟩).2.volume = v :=
  getFileInfo_volume env ⟨v, files⟩

/-- `bDelete_Directory` removes the directory and what is below it, at most. -/
theorem bDeleteDirectory_removes {s : Disk} {bActive : Bool} (h : directoryToDelete q = some p) :
    Removes (fun n _ => components p <+: n) s.volume
      (s.bDeleteDirectory env bActive q).2.volume := by
  have hp := target_of_directory h
  unfold Disk.bDeleteDirectory
  split
  · exact Removes.refl
  rw [h]
  dsimp only
  split
  · exact Removes.refl
  split
  · exact Removes.refl
  · exact Removes.refl
  · rw [iGetFileInfo_entries]
    have hinside : Removes (fun n _ => components p <+: n) s.volume
        (iDeleteAllFilesInsideDirectory env p s.volume).2 :=
      (deleteAll_removes env s.volume hp).1.mono fun _ _ hbelow => hbelow.1
    split
    · exact hinside
    · split
      · exact hinside
      · rename_i hunlink
        exact hinside.trans (removes_of_fsUnlink hunlink fun _ _ => List.prefix_refl _)

/-- **Path containment**, of the files that are created and the directories that are
deleted. -/
theorem path_containment :
    (∀ dir name path, bBuildValidateFullPathName dir name = some path →
      path.length < MAX_FILE_PATH_LENGTH ∧ Contained path ∧ (words path).getLast? = some name
        ∧ slash ∉ name)
      ∧ ∀ (env : DiskEnv) (s : Disk) bActive dir,
        (directoryToDelete dir = none → s.bDeleteDirectory env bActive dir = (false, s))
          ∧ ∀ path, directoryToDelete dir = some path →
            Contained path ∧ 2 ≤ (words path).length ∧ components path ≠ []
              ∧ ∀ e ∈ s.volume.entries, ¬components path <+: e.1 →
                e ∈ (s.bDeleteDirectory env bActive dir).2.volume.entries := by
  refine ⟨fun dir name path h => contained_of_fullPath h, fun env s bActive dir => ⟨fun h => ?_,
    fun path h => ?_⟩⟩
  · unfold Disk.bDeleteDirectory
    rw [h]
    split <;> rfl
  · obtain ⟨hcontained, hwords, -, ⟨rest, rfl⟩, -⟩ := contained_of_directory h
    refine ⟨hcontained, hwords, fun hnil => ?_, fun e he hout => ?_⟩
    · have hnames := components_of_contained hcontained
      rw [hnil, List.map_nil] at hnames
      rw [words_append, words_mount, ← hnames] at hwords
      exact absurd hwords (by decide)
    · exact ((bDeleteDirectory_removes h).kept e he).resolve_right hout

end WallController.LittleFs
