/-
  WallController.LittleFs.TargetFile
  ────────────────────────────────
  **THE TARGET OF A TRANSFER ON THE VOLUME.**

  A transfer creates its target, writes it, and in the end builds the
  catalogue anew with it or removes it.  Here this is read off the calls of
  `Catalog`: which of them leave the target in place and listed (`Standing`),
  and when the removal leaves neither the file nor its entry (`Gone`).

  Main results:
    * `standing_created`: after `iCreate_File`.
    * `Standing.removed`: after `iDelete_FileInternal`, if the catalogue can be
      built anew.
    * `standing_refreshed`: after `iGetFileInfo`, for the path of a `START`.
-/
import WallController.LittleFs.CatalogInvariant
import WallController.LittleFs.Transfer

namespace WallController.LittleFs

open WallController.Lib FileTree

/-! ## §1. The statements. -/

/-- The file is there, and the catalogue lists it. -/
structure Standing (path : Path) (s : Disk) : Prop where
  file : components path ∈ s.volume.files
  listed : (s.pstGetFileByFilePath path).isSome

/-- Nothing is there, and the catalogue does not list it. -/
structure Gone (path : Path) (s : Disk) : Prop where
  node : s.volume.kind (components path) = none
  unlisted : s.pstGetFileByFilePath path = none

/-- What the file at a path contains. -/
def Disk.contentAt (s : Disk) (path : Path) : List UInt8 := s.volume.content (components path)

/-- The locks are obtained, and `fs_stat` and `fs_unlink` succeed. -/
structure DiskEnv.Grants (env : DiskEnv) : Prop where
  fileLock : env.fileLock = true
  rebuildLock : env.rebuildLock = true
  stat : 0 ≤ env.stat
  unlink : 0 ≤ env.unlink

variable {env : DiskEnv} {s s' : Disk} {v v' : Volume} {path dir name : Path} {bActive : Bool}
  {c : CatalogCall}

/-- Standing depends on the files and on the paths of the catalogue. -/
theorem Standing.same (h : Standing path s) (hfiles : s'.volume.files = s.volume.files)
    (hcatalog : s'.stTFileCatalog = s.stTFileCatalog) : Standing path s' := by
  constructor
  · rw [hfiles]
    exact h.file
  · unfold Disk.pstGetFileByFilePath
    rw [hcatalog]
    exact h.listed

/-- Both follow from a catalogue that has been built. -/
theorem listed_iff_of_refreshed (h : (s.iGetFileInfo env).1 = 0) :
    ((s.iGetFileInfo env).2.pstGetFileByFilePath path).isSome
      ↔ ∃ n ∈ s.volume.files, render n = path := by
  have hpaths := (getFileInfo_files h).map FileInfo.caFilePath
  rw [List.map_map] at hpaths
  rw [isSome_get_iff, hpaths.mem_iff, List.mem_map]
  rfl

/-! ## §2. The path of a `START`. -/

/-- The directories of the file types have one name, and end in a slash. -/
theorem directoryOf_render {eFileType : Nat} (h : directoryOf eFileType = some dir) :
    ∃ n : List Name, dir = render n ++ [slash] := by
  have hname : ∀ w : Path, (w ≠ [] ∧ slash ∉ w ∧ w ≠ ascii "." ∧ w ≠ ascii "..") →
      dir = EXT_LITTLEFS_MOUNT_POINT ++ (slash :: w ++ [slash]) →
      ∃ n : List Name, dir = render n ++ [slash] := by
    intro w hw hdir
    refine ⟨[⟨w, hw⟩], ?_⟩
    rw [hdir]
    simp [render, extendPath]
  unfold directoryOf at h
  split at h
  · cases h
    exact hname (ascii "Config") (by decide) (by decide)
  · cases h
    exact hname (ascii "Data") (by decide) (by decide)
  · cases h
    exact hname (ascii "Images") (by decide) (by decide)
  · cases h
    exact hname (ascii "Icons") (by decide) (by decide)
  · cases h

/-- **The path of a `START`** has no repeated slashes. -/
theorem target_canonical {r : BulkTransferData} (h : r.target = some path) :
    render (components path) = path := by
  obtain ⟨dir, hdir, hpath⟩ := Option.bind_eq_some_iff.mp h
  obtain ⟨hname, -, rfl, -⟩ := tests_of_fullPath hpath
  obtain ⟨n, rfl⟩ := directoryOf_render hdir
  have hsuffix : (ascii "/").isSuffixOf (render n ++ [slash]) = true := by
    rw [List.isSuffixOf_iff_suffix]
    exact ⟨render n, rfl⟩
  have hnode : childPath (render n ++ [slash]) r.pcaFileName
      = render (n ++ [⟨r.pcaFileName, hname⟩]) := by
    unfold childPath
    rw [if_pos hsuffix, List.append_nil, List.append_assoc]
    show render n ++ (slash :: r.pcaFileName) = _
    exact (extendPath_append EXT_LITTLEFS_MOUNT_POINT n ⟨r.pcaFileName, hname⟩).symm
  rw [hnode, components_render]

/-! ## §3. The calls of the transfer. -/

theorem fsAdd_error {n : List Name} {k : EntryType} {iResult : Int}
    (h : v.fsAdd n k = .error iResult) : iResult < 0 := by
  unfold Volume.fsAdd at h
  split at h
  · split at h
    · cases h
    · cases h
      exact missing_neg _
  · cases h
    decide

theorem checkDirectory_nonpos : (s.iCheckOrCreateDirectory env dir).1 ≤ 0 := by
  unfold Disk.iCheckOrCreateDirectory
  cases hstat : s.volume.fsStat env.statDirectory dir with
  | ok k =>
      cases k with
      | dir => exact Int.le_refl 0
      | file =>
          show -ENOTDIR ≤ 0
          decide
  | error iResult =>
      have hneg : iResult < 0 := by
        unfold Volume.fsStat at hstat
        split at hstat
        · cases hstat
          assumption
        split at hstat
        · cases hstat
        · cases hstat
          exact missing_neg _
      dsimp only
      split
      · exact Int.le_of_lt hneg
      cases hmkdir : s.volume.fsMkdir env.mkdir dir with
      | ok v => exact Int.le_refl 0
      | error iResult' =>
          unfold Volume.fsMkdir at hmkdir
          split at hmkdir
          · cases hmkdir
            exact Int.le_of_lt (by assumption)
          · exact Int.le_of_lt (fsAdd_error hmkdir)

/-- A file opened with `FS_O_CREATE` is there. -/
theorem fsOpenCreate_spec {fault : Int} :
    match v.fsOpenCreate fault path with
    | .ok v' => components path ∈ v'.files
    | .error iResult => iResult < 0 := by
  unfold Volume.fsOpenCreate
  by_cases hfault : fault < 0
  · rw [if_pos hfault]
    exact hfault
  rw [if_neg hfault]
  cases hkind : v.kind (components path) with
  | some k =>
      cases k with
      | file => exact kind_file_iff.mp hkind
      | dir =>
          show -EISDIR < 0
          decide
  | none =>
      dsimp only
      cases hadd : v.fsAdd (components path) .file with
      | error iResult => exact fsAdd_error hadd
      | ok v' =>
          obtain ⟨hnew, hdir, rfl⟩ := fsAdd_eq_ok.mp hadd
          show components path ∈ (v.add (components path) .file hnew hdir).files
          rw [files_add_file]
          exact List.mem_append_right _ List.mem_cons_self

theorem standing_createEntry (h : 0 ≤ (s.createEntry env path name).1) :
    Standing path (s.createEntry env path name).2 := by
  unfold Disk.createEntry at h ⊢
  split
  · next hlock =>
    rw [if_pos hlock] at h
    have hcode : 0 ≤ -EAGAIN := h
    exact absurd hcode (by decide)
  next hlock =>
  rw [if_neg hlock] at h
  split
  · next hroom =>
    rw [if_pos hroom] at h
    have hcode : 0 ≤ -ENOSPC := h
    exact absurd hcode (by decide)
  next hroom =>
  rw [if_neg hroom] at h
  have hopened : match s.volume.fsOpenCreate env.open_ path with
      | .ok v' => components path ∈ v'.files
      | .error iResult => iResult < 0 := fsOpenCreate_spec
  cases hopen : s.volume.fsOpenCreate env.open_ path with
  | error iResult =>
      rw [hopen] at h hopened
      have hneg : iResult < 0 := hopened
      have hpos : 0 ≤ iResult := h
      omega
  | ok v =>
      rw [hopen] at h hopened
      dsimp only at h ⊢
      split
      · next hclose =>
        rw [if_pos hclose] at h
        have hpos : 0 ≤ env.close := h
        omega
      · refine ⟨hopened, ?_⟩
        rw [isSome_get_iff, List.map_append]
        exact List.mem_append_right _ List.mem_cons_self

/-- **A creation** that does not fail leaves its file in place. -/
theorem standing_created (h : 0 ≤ (s.iCreateFile env bActive dir name).1)
    (hpath : bBuildValidateFullPathName dir name = some path) :
    Standing path (s.iCreateFile env bActive dir name).2 := by
  unfold Disk.iCreateFile at h ⊢
  split
  · next hactive =>
    rw [if_pos hactive] at h
    have hcode : 0 ≤ -EBUSY := h
    exact absurd hcode (by decide)
  next hactive =>
  rw [if_neg hactive, hpath] at h
  rw [hpath]
  have hchecked : (s.iCheckOrCreateDirectory env dir).1 ≤ 0 := checkDirectory_nonpos
  generalize s.iCheckOrCreateDirectory env dir = checked at hchecked h ⊢
  obtain ⟨iResult, s'⟩ := checked
  dsimp only at hchecked h ⊢
  split
  · next hfailed =>
    rw [if_pos hfailed] at h
    have hpos : 0 ≤ iResult := h
    omega
  next hfailed =>
  rw [if_neg hfailed] at h
  split
  · next hstat =>
    rw [hstat] at h
    have hcode : 0 ≤ -EEXIST := h
    exact absurd hcode (by decide)
  next iResult' hstat =>
  rw [hstat] at h
  dsimp only at h
  split
  · next hcode =>
    rw [if_pos hcode] at h
    have hexists : 0 ≤ -EEXIST := h
    exact absurd hexists (by decide)
  · next hcode =>
    rw [if_neg hcode] at h
    exact standing_createEntry h

/-- **The removal** of a standing target, where the walk after it succeeds. -/
theorem Standing.removed (hs : Standing path s) (henv : env.Grants)
    (hrebuild : ∀ v, s.volume.fsUnlink env.unlink path = .ok v → env.Rebuilds v) :
    Gone path (s.iDeleteFileInternal env path).2 := by
  -- the file is listed, so the removal looks up its own path and reaches the volume
  obtain ⟨f, hf⟩ := Option.isSome_iff_exists.mp hs.listed
  obtain rfl := get_caFilePath hf
  have hkind : s.volume.kind (components f.caFilePath) = some .file :=
    kind_file_iff.mpr hs.file
  have hstat : s.volume.fsStat env.stat f.caFilePath = .ok .file := by
    unfold Volume.fsStat
    rw [if_neg (Int.not_lt.mpr henv.stat), hkind]
  -- the root is a directory, so the path has a component
  have hne : components f.caFilePath ≠ [] := by
    intro hnil
    rw [hnil] at hkind
    cases hkind
  have hempty : s.volume.children (components f.caFilePath) = [] :=
    children_of_file (mem_files.mp hs.file)
  have hunlink : s.volume.fsUnlink env.unlink f.caFilePath
      = .ok ⟨s.volume.remove (components f.caFilePath) hempty, s.volume.content⟩ := by
    unfold Volume.fsUnlink
    rw [if_neg (Int.not_lt.mpr henv.unlink), hkind]
    dsimp only
    rw [if_neg hne, dif_pos hempty]
  have hdelete : (s.iDeleteFileInternal env f.caFilePath).2
      = (Disk.iGetFileInfo env
          { s with
            volume := ⟨s.volume.remove (components f.caFilePath) hempty, s.volume.content⟩ }).2 := by
    unfold Disk.iDeleteFileInternal
    rw [hf]
    dsimp only
    rw [henv.fileLock, hstat, hunlink]
    rfl
  -- after the unlink no node has the path
  have hnode : (s.volume.remove (components f.caFilePath) hempty).kind (components f.caFilePath)
      = none := by
    rw [kind_none_iff]
    refine ⟨hne, fun hmem => ?_⟩
    obtain ⟨e, he, hpath⟩ := List.mem_map.mp hmem
    exact of_decide_eq_true (List.mem_filter.mp he).2 hpath
  have hzero : (Disk.iGetFileInfo env
      { s with
        volume := ⟨s.volume.remove (components f.caFilePath) hempty, s.volume.content⟩ }).1 = 0 :=
    getFileInfo_eq_zero.mpr (hrebuild _ hunlink)
  rw [hdelete]
  constructor
  · rw [getFileInfo_volume]
    exact hnode
  · rw [← Option.not_isSome_iff_eq_none, listed_iff_of_refreshed hzero]
    -- the rebuilt catalogue lists the files of the volume and no other
    rintro ⟨n, hn, hpath⟩
    have hsame : components f.caFilePath = n := by rw [← hpath, components_render]
    have hkept : (s.volume.remove (components f.caFilePath) hempty).kind n = some .file :=
      kind_file_iff.mpr hn
    rw [← hsame, hnode] at hkept
    cases hkept

/-- **The walk** lists a target under the path of its `START`. -/
theorem standing_refreshed (hfile : components path ∈ s.volume.files)
    (hcanonical : render (components path) = path) (h : (s.iGetFileInfo env).1 = 0) :
    Standing path (s.iGetFileInfo env).2 := by
  constructor
  · rw [getFileInfo_volume]
    exact hfile
  · rw [listed_iff_of_refreshed h]
    exact ⟨_, hfile, hcanonical⟩

/-! ## §4. The calls of other threads. -/

/-- While a transfer is active, a call of another thread is refused. -/
theorem run_active (hc : c.isBulk = false) : (c.run env true s).2 = s := by
  cases c with
  | create dir name => rfl
  | delete path => rfl
  | deleteDirectory path => rfl
  | write path data uiMaxWriteSize =>
      show (s.iWriteToFileBin env true path data uiMaxWriteSize).2 = s
      unfold Disk.iWriteToFileBin
      split
      · rfl
      · rfl
  | deleteInternal path => cases hc
  | refresh => cases hc
  | openTrunc path => cases hc
  | append iResult wreck path data => cases hc

end WallController.LittleFs
