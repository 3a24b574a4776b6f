/-
  WallController.LittleFs.CatalogInvariant
  ────────────────────────────────
  **THE CATALOGUE AND THE FILE SYSTEM.**

  The catalogue should list each file once, under its path.  A creation adds
  an entry, a removal builds the catalogue anew; the files have changed by
  then, and what remains may fail.

  Main results:
    * `CatalogMatches.run`: a call keeps the match, if what it still has to do
      after a change of the files succeeds.
    * `catalog_matches`: over all runs of the controller.
-/
import WallController.LittleFs.FileWrite
import WallController.LittleFs.DirectoryDelete

namespace WallController.LittleFs

open WallController.Lib FileTree

/-! ## §1. The statement. -/

/-- Each file is listed once, under its path, and nothing else. -/
structure CatalogMatches (s : Disk) : Prop where
  listed : (s.stTFileCatalog.map FileInfo.caFilePath).Perm (s.volume.files.map render)
  bounded : s.stTFileCatalog.length ≤ MAX_FILE_COUNT

/-- The walk that builds the catalogue succeeds on the volume. -/
def DiskEnv.Rebuilds (env : DiskEnv) (v : Volume) : Prop :=
  env.rebuildLock = true ∧ Walkable v ∧ env.WalkWorks v

/-- The volume without what the removal of a directory removes. -/
def Volume.withoutDirectory (env : DiskEnv) (v : Volume) (dir : Path) : Volume :=
  let (iResult, v) := iDeleteAllFilesInsideDirectory env dir v
  if iResult ≠ 0 then v
  else
    match v.fsUnlink env.unlink dir with
    | .error _ => v
    | .ok v => v

/-- The volume that the removals of a call leave. -/
def CatalogCall.leaves (env : DiskEnv) (s : Disk) : CatalogCall → Option Volume
  | .delete path | .deleteInternal path => (s.volume.fsUnlink env.unlink path).toOption
  | .deleteDirectory path => (directoryToDelete path).map (s.volume.withoutDirectory env)
  | _ => none

/-- A creation is under the path without repeated slashes, and its `fs_close` succeeds,
nor does `fs_stat` deny an existing file; a removal of files is followed by a walk that
succeeds. -/
def CatalogCall.Keeps (env : DiskEnv) (s : Disk) : CatalogCall → Prop
  | .create pcafilePath pcafileName =>
      (∀ path, bBuildValidateFullPathName pcafilePath pcafileName = some path →
        render (components path) = path)
      ∧ env.stat ≠ -ENOENT ∧ 0 ≤ env.close
  | c => ∀ v, c.leaves env s = some v → v.files = s.volume.files ∨ env.Rebuilds v

/-- The call that a step makes keeps the match. -/
def Controller.Keeps (s : Controller) : ControllerAct → Prop
  | .bulk a env => ∀ c iResult, s.bulk.catalogCall a = some (c, iResult) → c.Keeps env s.disk
  | .file c env => c.Keeps env s.disk

variable {env : DiskEnv} {s s' : Disk} {v v' : Volume} {path dir name : Path} {bActive : Bool}
  {c : CatalogCall}

/-! ## §2. The match. -/

/-- What is listed depends on the files and on the paths of the catalogue. -/
theorem CatalogMatches.same (hs : CatalogMatches s) (hfiles : s'.volume.files = s.volume.files)
    (hpaths : s'.stTFileCatalog.map FileInfo.caFilePath
      = s.stTFileCatalog.map FileInfo.caFilePath) : CatalogMatches s' := by
  constructor
  · rw [hpaths, hfiles]
    exact hs.listed
  · have hlen := congrArg List.length hpaths
    rw [List.length_map, List.length_map] at hlen
    rw [hlen]
    exact hs.bounded

/-- Each file is found under its path. -/
theorem CatalogMatches.isSome_get (hs : CatalogMatches s) {n : List Name}
    (hn : n ∈ s.volume.files) : (s.pstGetFileByFilePath (render n)).isSome := by
  rw [isSome_get_iff]
  exact hs.listed.mem_iff.mpr (List.mem_map_of_mem hn)

/-- **The walk** makes the catalogue match, where it succeeds. -/
theorem matches_of_getFileInfo (h : (s.iGetFileInfo env).1 = 0) :
    CatalogMatches (s.iGetFileInfo env).2 := by
  have hperm := getFileInfo_files h
  have hvolume := getFileInfo_volume env s
  obtain ⟨-, hwalkable, -⟩ := getFileInfo_eq_zero.mp h
  constructor
  · rw [hvolume]
    have hpaths := hperm.map FileInfo.caFilePath
    rw [List.map_map] at hpaths
    exact hpaths
  · rw [hperm.length_eq, List.length_map]
    exact hwalkable.files

/-- The catalogue is built anew after a removal. -/
theorem CatalogMatches.rebuild (hs : CatalogMatches s)
    (hv : v.files = s.volume.files ∨ env.Rebuilds v) :
    CatalogMatches (Disk.iGetFileInfo env { s with volume := v }).2 := by
  by_cases hzero : (Disk.iGetFileInfo env { s with volume := v }).1 = 0
  · exact matches_of_getFileInfo hzero
  · rcases hv with hfiles | hrebuilds
    · rw [getFileInfo_failed hzero]
      exact hs.same hfiles rfl
    · have hok : (Disk.iGetFileInfo env { s with volume := v }).1 = 0 :=
        getFileInfo_eq_zero.mpr hrebuilds
      exact absurd hok hzero

/-! ## §3. The calls. -/

theorem fsAdd_eq_ok {n : List Name} {k : EntryType} : v.fsAdd n k = .ok v'
    ↔ ∃ hnew hdir, v' = ⟨v.add n k hnew hdir, Function.update v.content n []⟩ := by
  unfold Volume.fsAdd
  constructor
  · intro h
    split at h
    · rename_i hnew
      split at h
      · rename_i hdir
        cases h
        exact ⟨hnew, hdir, rfl⟩
      · cases h
    · cases h
  · rintro ⟨hnew, hdir, rfl⟩
    rw [dif_pos hnew, dif_pos hdir]

/-- The check of the directory creates no file. -/
theorem checkDirectory_files :
    (s.iCheckOrCreateDirectory env dir).2.stTFileCatalog = s.stTFileCatalog
      ∧ (s.iCheckOrCreateDirectory env dir).2.volume.files = s.volume.files := by
  unfold Disk.iCheckOrCreateDirectory
  split
  · exact ⟨rfl, rfl⟩
  · exact ⟨rfl, rfl⟩
  split
  · exact ⟨rfl, rfl⟩
  cases hmkdir : s.volume.fsMkdir env.mkdir dir with
  | error iResult => exact ⟨rfl, rfl⟩
  | ok v =>
      unfold Volume.fsMkdir at hmkdir
      split at hmkdir
      · cases hmkdir
      obtain ⟨hnew, hdir, rfl⟩ := fsAdd_eq_ok.mp hmkdir
      have hfiles : (s.volume.add (components dir) .dir hnew hdir).files = s.volume.files :=
        files_add_dir
      exact ⟨rfl, hfiles⟩

/-- The file is new, and its entry follows. -/
theorem CatalogMatches.createEntry (hs : CatalogMatches s)
    (hcanonical : render (components path) = path) (hnew : components path ∉ s.volume.files)
    (hclose : 0 ≤ env.close) : CatalogMatches (s.createEntry env path name).2 := by
  unfold Disk.createEntry
  split
  · exact hs
  split
  · exact hs
  rename_i hroom
  cases hopen : s.volume.fsOpenCreate env.open_ path with
  | error iResult => exact hs
  | ok v =>
      unfold Volume.fsOpenCreate at hopen
      split at hopen
      · cases hopen
      split at hopen
      · rename_i hkind
        exact absurd (kind_file_iff.mp hkind) hnew
      · cases hopen
      obtain ⟨hfresh, hdir, rfl⟩ := fsAdd_eq_ok.mp hopen
      dsimp only
      rw [if_neg (Int.not_lt.mpr hclose)]
      constructor
      · show (List.map FileInfo.caFilePath (s.stTFileCatalog ++ [_])).Perm
          (List.map render (FileTree.add _ _ _ hfresh hdir).files)
        rw [files_add_file, List.map_append, List.map_append, List.map_singleton,
          List.map_singleton, hcanonical]
        exact hs.listed.append_right _
      · show (s.stTFileCatalog ++ [_]).length ≤ MAX_FILE_COUNT
        rw [List.length_append, List.length_singleton]
        omega

/-- `fs_stat` denies the file. -/
theorem not_mem_of_fsStat {fault : Int} (hfault : fault ≠ -ENOENT)
    (h : v.fsStat fault path = .error (-ENOENT)) : components path ∉ v.files := by
  unfold Volume.fsStat at h
  split at h
  · exact absurd (Except.error.inj h) hfault
  split at h
  · cases h
  · rename_i hkind
    intro hmem
    rw [kind_file_iff.mpr hmem] at hkind
    cases hkind

theorem CatalogMatches.create (hs : CatalogMatches s)
    (hkeeps : (CatalogCall.create dir name).Keeps env s) :
    CatalogMatches (s.iCreateFile env bActive dir name).2 := by
  obtain ⟨hcanonical, hstat, hclose⟩ := hkeeps
  unfold Disk.iCreateFile
  split
  · exact hs
  split
  · exact hs
  rename_i path hpath
  have hchecked : CatalogMatches (s.iCheckOrCreateDirectory env dir).2 := by
    obtain ⟨hcatalog, hfiles⟩ : (s.iCheckOrCreateDirectory env dir).2.stTFileCatalog
        = s.stTFileCatalog ∧ _ := checkDirectory_files
    exact hs.same hfiles (congrArg _ hcatalog)
  generalize s.iCheckOrCreateDirectory env dir = checked at hchecked
  obtain ⟨iResult, s'⟩ := checked
  dsimp only
  split
  · exact hchecked
  split
  · exact hchecked
  rename_i iResult hdenied
  split
  · exact hchecked
  · rename_i hcode
    rw [not_not.mp hcode] at hdenied
    exact hchecked.createEntry (hcanonical path hpath) (not_mem_of_fsStat hstat hdenied) hclose

theorem CatalogMatches.deleteInternal (hs : CatalogMatches s)
    (hkeeps : ∀ v, s.volume.fsUnlink env.unlink path = .ok v →
      v.files = s.volume.files ∨ env.Rebuilds v) :
    CatalogMatches (s.iDeleteFileInternal env path).2 := by
  unfold Disk.iDeleteFileInternal
  cases hget : s.pstGetFileByFilePath path with
  | none => exact hs
  | some f =>
      obtain rfl := get_caFilePath hget
      dsimp only
      split
      · exact hs
      split
      · exact hs
      cases hunlink : s.volume.fsUnlink env.unlink f.caFilePath with
      | error iResult => exact hs
      | ok v => exact hs.rebuild (hkeeps v hunlink)

theorem CatalogMatches.deleteDirectory (hs : CatalogMatches s)
    (hkeeps : ∀ dir, directoryToDelete path = some dir →
      (s.volume.withoutDirectory env dir).files = s.volume.files
        ∨ env.Rebuilds (s.volume.withoutDirectory env dir)) :
    CatalogMatches (s.bDeleteDirectory env bActive path).2 := by
  unfold Disk.bDeleteDirectory
  split
  · exact hs
  cases hdir : directoryToDelete path with
  | none => exact hs
  | some dir =>
      dsimp only
      split
      · exact hs
      split
      · exact hs
      · exact hs
      have hleft := hkeeps dir hdir
      unfold Volume.withoutDirectory at hleft
      generalize iDeleteAllFilesInsideDirectory env dir s.volume = emptied at hleft ⊢
      obtain ⟨iResult, v⟩ := emptied
      dsimp only at hleft ⊢
      by_cases hfailed : iResult ≠ 0
      · rw [if_pos hfailed] at hleft ⊢
        exact hs.rebuild hleft
      · rw [if_neg hfailed] at hleft ⊢
        cases hunlink : v.fsUnlink env.unlink dir with
        | error iResult =>
            rw [hunlink] at hleft
            exact hs.rebuild hleft
        | ok v' =>
            rw [hunlink] at hleft
            exact hs.rebuild hleft

/-- **A call** keeps the match. -/
theorem CatalogMatches.run (hs : CatalogMatches s) (hkeeps : c.Keeps env s) :
    CatalogMatches (c.run env bActive s).2 := by
  cases c with
  | create dir name => exact hs.create hkeeps
  | deleteInternal path =>
      exact hs.deleteInternal fun v hv => hkeeps v (by rw [CatalogCall.leaves, hv]; rfl)
  | delete path =>
      show CatalogMatches (s.iDeleteFile env bActive path).2
      unfold Disk.iDeleteFile
      split
      · exact hs
      · exact hs.deleteInternal fun v hv => hkeeps v (by rw [CatalogCall.leaves, hv]; rfl)
  | deleteDirectory path =>
      exact hs.deleteDirectory fun dir hdir => hkeeps _ (by rw [CatalogCall.leaves, hdir]; rfl)
  | write path data uiMaxWriteSize =>
      have hframe : WritesTo (components path) s.volume
          (s.iWriteToFileBin env bActive path data uiMaxWriteSize).2.volume ∧ _ :=
        iWriteToFileBin_frame
      exact hs.same (congrArg FileTree.files hframe.1.tree) hframe.2
  | refresh =>
      show CatalogMatches (s.iGetFileInfo env).2
      by_cases hzero : (s.iGetFileInfo env).1 = 0
      · exact matches_of_getFileInfo hzero
      · rw [getFileInfo_failed hzero]
        exact hs
  | openTrunc path =>
      show CatalogMatches ((CatalogCall.openTrunc path).run env bActive s).2
      unfold CatalogCall.run
      dsimp only
      cases hopen : s.volume.fsOpenTrunc env.open_ path with
      | error iResult => exact hs
      | ok v =>
          obtain ⟨-, -, rfl⟩ := fsOpenTrunc_eq_ok.mp hopen
          exact hs.same rfl rfl
  | append iResult wreck path data =>
      have htree : (s.volume.fsWrite iResult wreck path data).2.toFileTree
          = s.volume.toFileTree := by
        unfold Volume.fsWrite
        dsimp only
        split <;> rfl
      exact hs.same (congrArg FileTree.files htree) rfl

/-! ## §4. All runs. -/

/-- **The catalogue equals the file system** in every run whose calls keep the match: no
file is missing, none is listed twice, and each is found under its path. -/
theorem catalog_matches {s : Controller} (h : catalogSystem.ReachableVia Controller.Keeps s) :
    CatalogMatches s.disk
      ∧ ∀ n ∈ s.disk.volume.files, (s.disk.pstGetFileByFilePath (render n)).isSome := by
  have hmatches := TransSys.ReachableVia.invariant (I := fun s => CatalogMatches s.disk)
    ?_ ?_ h
  · exact ⟨hmatches, fun n hn => hmatches.isSome_get hn⟩
  · rintro s ⟨-, env, volume, hinit⟩
    have hdisk : CatalogMatches (Disk.iGetFileInfo env ⟨volume, []⟩).2 :=
      matches_of_getFileInfo (by rw [hinit])
    rwa [hinit] at hdisk
  · intro s a s' hs hkeeps hstep
    cases a with
    | bulk a env =>
        obtain ⟨-, hdisk⟩ := hstep
        cases hcall : s.bulk.catalogCall a with
        | none =>
            rw [hcall] at hdisk
            rw [hdisk]
            exact hs
        | some call =>
            obtain ⟨c, iResult⟩ := call
            rw [hcall] at hdisk
            have hrun : CatalogMatches (c.run env s.bulk.bIsBulkTransferActive s.disk).2 :=
              hs.run (hkeeps c iResult hcall)
            rwa [hdisk] at hrun
    | file c env =>
        obtain ⟨-, rfl⟩ := hstep
        exact hs.run hkeeps

/-! ## §5. Runs. -/

/-- A volume without a file. -/
def emptyVolume : Volume where
  entries := []
  nodup := by decide
  rooted := by decide
  content _ := []

/-- The controller after the start on an empty volume. -/
def emptyController : Controller := ⟨Bulk.boot fun _ => none, ⟨emptyVolume, []⟩⟩

theorem init_empty : catalogSystem.init emptyController :=
  ⟨⟨_, rfl⟩, .calm, emptyVolume, rfl⟩

/-- The calls of another thread, one after the other, none of whose own calls fails. -/
def Controller.calls (s : Controller) (cs : List CatalogCall) : Controller :=
  cs.foldl (fun s c => s.after (c.run .calm false s.disk).2) s

theorem step_call {s : Controller} (hidle : s.bulk.bIsBulkTransferActive = false) (c : CatalogCall)
    (hc : c.isBulk = false) :
    catalogSystem.step s (.file c .calm) (s.after (c.run .calm false s.disk).2) :=
  ⟨hc, by rw [hidle]⟩

theorem reachable_calls {s : Controller} (h : catalogSystem.Reachable s)
    (hidle : s.bulk.bIsBulkTransferActive = false) (cs : List CatalogCall)
    (hcs : ∀ c ∈ cs, c.isBulk = false) : catalogSystem.Reachable (s.calls cs) := by
  induction cs generalizing s with
  | nil => exact h
  | cons c cs ih =>
      have hstep := step_call hidle c (hcs c List.mem_cons_self)
      exact ih (.step h trivial hstep) hidle fun c hc => hcs c (List.mem_cons_of_mem _ hc)

/-- Ten directories with a file each, and the removal of the first file. -/
def elevenDirectories : List CatalogCall :=
  (List.range 10).map (fun i => .create (ascii "/lfs/" ++ [0x30 + UInt8.ofNat i]) (ascii "f"))
    ++ [.delete (ascii "/lfs/0/f")]

/-- The file is gone, and its entry is left: the walk finds too many directories. -/
theorem not_catalog_matches : ¬∀ s, catalogSystem.Reachable s → CatalogMatches s.disk := by
  intro h
  have hmatches := h (emptyController.calls elevenDirectories)
    (reachable_calls (.init init_empty) rfl _ (by decide))
  have hlen := hmatches.listed.length_eq
  rw [List.length_map, List.length_map] at hlen
  have hlisted : (emptyController.calls elevenDirectories).disk.stTFileCatalog.length = 10 := by
    decide +kernel
  have hfiles : (emptyController.calls elevenDirectories).disk.volume.files.length = 9 := by
    decide +kernel
  rw [hlisted, hfiles] at hlen
  exact absurd hlen (by decide)

/-- Two files are created, and the first one is removed. -/
def createdAndDeleted : List CatalogCall :=
  [.create (ascii "/lfs/a") (ascii "f"), .create (ascii "/lfs/a") (ascii "g"),
    .delete (ascii "/lfs/a/f")]

theorem keeps_create {full : Path} (hfull : bBuildValidateFullPathName dir name = some full)
    (hrender : render (components full) = full) : (CatalogCall.create dir name).Keeps .calm s := by
  refine ⟨fun path hpath => ?_, by decide, by decide⟩
  obtain rfl := Option.some.inj (hfull.symm.trans hpath)
  exact hrender

/-- The removal of a file, after which the walk succeeds. -/
theorem keeps_delete (h : ((s.volume.fsUnlink DiskEnv.calm.unlink path).toOption.map fun v =>
      (Disk.iGetFileInfo .calm ⟨v, []⟩).1) = some 0) : (CatalogCall.delete path).Keeps .calm s := by
  intro v hv
  have hunlink : (s.volume.fsUnlink DiskEnv.calm.unlink path).toOption = some v := hv
  rw [hunlink] at h
  exact Or.inr (getFileInfo_eq_zero.mp (Option.some.inj h))

/-- Calls of another thread, each of which keeps the match. -/
def KeepsEach : List CatalogCall → Disk → Prop
  | [], _ => True
  | c :: cs, s =>
      c.isBulk = false ∧ c.Keeps .calm s ∧ KeepsEach cs (c.run .calm false s).2

theorem reachableVia_calls {s : Controller} (h : catalogSystem.ReachableVia Controller.Keeps s)
    (hidle : s.bulk.bIsBulkTransferActive = false) {cs : List CatalogCall}
    (hcs : KeepsEach cs s.disk) : catalogSystem.ReachableVia Controller.Keeps (s.calls cs) := by
  induction cs generalizing s with
  | nil => exact h
  | cons c cs ih =>
      obtain ⟨hc, hkeeps, hcs⟩ := hcs
      have hok : s.Keeps (.file c .calm) := hkeeps
      exact ih (.step h hok (step_call hidle c hc)) hidle hcs

/-- The second file is there, and it alone is listed. -/
theorem catalog_matches_created_deleted :
    (emptyController.calls createdAndDeleted).disk.volume.files = [components (ascii "/lfs/a/g")]
      ∧ CatalogMatches (emptyController.calls createdAndDeleted).disk
      ∧ ∀ n ∈ (emptyController.calls createdAndDeleted).disk.volume.files,
        ((emptyController.calls createdAndDeleted).disk.pstGetFileByFilePath (render n)).isSome := by
  have hkeeps : KeepsEach createdAndDeleted emptyController.disk := by
    refine ⟨rfl, ?_, rfl, ?_, rfl, ?_, trivial⟩
    · exact keeps_create (show _ = some (ascii "/lfs/a/f") by decide) (by decide)
    · exact keeps_create (show _ = some (ascii "/lfs/a/g") by decide) (by decide)
    · exact keeps_delete (by decide +kernel)
  refine ⟨by decide +kernel, ?_⟩
  exact catalog_matches (reachableVia_calls (.init init_empty) rfl hkeeps)

end WallController.LittleFs
