/-
  WallController.LittleFs.ConcurrentDelete
  ────────────────────────────────
  **A DELETION BESIDE OTHER FILE OPERATIONS.**

  `iDelete_FileInternal` looks its entry up before it locks
  `kMutex_FileAccess`, and reads the path from the entry after it.  The table
  is an array, and the entry an index into it: a walk in between writes the
  whole array anew.

  A thread takes one step up to the lock and one for each section of the
  mutex.  The part of the array behind the last entry is zero: an empty path,
  which `fs_stat` refuses.

  Main results:
    * `sections_alone`: the sections of a deletion, taken together.
    * `unlinks_asked`: what is passed to `fs_unlink`, in the runs that put no
      other file in an entry that has been looked up.
-/
import WallController.LittleFs.CatalogInvariant
import Mathlib.Logic.Function.Basic

namespace WallController.LittleFs

open WallController.Lib

/-! ## §1. The threads. -/

/-- The calls of a thread. -/
inductive FileOperation where
  | create (pcafilePath pcafileName : Path)
  | delete (pcaFilePath : Path)
  | deleteDirectory (pcaDirectoryPath : Path)
  | refresh
  deriving DecidableEq, Repr

/-- The section that a thread comes to next. -/
inductive FileThread where
  | idle
  | createEntry (caFullPath pcafileName : Path)
  | unlink (pcaFilePath : Path) (pstFile : Nat)
  | removeDirectory (caDirectoryPath : Path)
  | rebuild
  deriving DecidableEq, Repr

/-- `pstGetFile_ByFilePath`, as the index of the entry. -/
def Disk.indexOf (s : Disk) (pcaFilePath : Path) : Option Nat :=
  s.stTFileCatalog.findIdx? fun f => f.caFilePath = pcaFilePath

namespace FileOperation

variable (env : DiskEnv) (s : Disk)

/-- A call up to its first section. -/
def start (bActive : Bool) : FileOperation → FileThread × Disk
  | .create pcafilePath pcafileName =>
    if bActive then (.idle, s)
    else
      match bBuildValidateFullPathName pcafilePath pcafileName with
      | none => (.idle, s)
      | some caFullPath =>
        let (iResult, s) := s.iCheckOrCreateDirectory env pcafilePath
        if iResult ≠ 0 then (.idle, s)
        else
          match s.volume.fsStat env.stat caFullPath with
          | .ok _ => (.idle, s)
          | .error iResult =>
              if iResult ≠ -ENOENT then (.idle, s) else (.createEntry caFullPath pcafileName, s)
  | .delete pcaFilePath =>
    if bActive then (.idle, s)
    else
      match s.indexOf pcaFilePath with
      | none => (.idle, s)
      | some pstFile => (.unlink pcaFilePath pstFile, s)
  | .deleteDirectory pcaDirectoryPath =>
    if bActive then (.idle, s)
    else
      match directoryToDelete pcaDirectoryPath with
      | none => (.idle, s)
      | some caDirectoryPath => (.removeDirectory caDirectoryPath, s)
  | .refresh => (.rebuild, s)

end FileOperation

namespace FileThread

variable (env : DiskEnv) (s : Disk)

/-- The path that the section of a deletion passes to `fs_unlink`. -/
def passes (pstFile : Nat) : Option Path :=
  if !env.fileLock then none
  else
    match s.stTFileCatalog[pstFile]? with
    | none => none
    | some f =>
      match s.volume.fsStat env.stat f.caFilePath with
      | .error _ => none
      | .ok _ => some f.caFilePath

/-- One section. -/
def enter : FileThread → FileThread × Disk
  | .idle => (.idle, s)
  | .createEntry caFullPath pcafileName => (.idle, (s.createEntry env caFullPath pcafileName).2)
  | .unlink _ pstFile =>
    match passes env s pstFile with
    | none => (.idle, s)
    | some path =>
      match s.volume.fsUnlink env.unlink path with
      | .error _ => (.idle, s)
      | .ok volume => (.rebuild, { s with volume := volume })
  | .removeDirectory caDirectoryPath =>
    if !env.fileLock then (.idle, s)
    else
      match s.volume.fsStat env.stat caDirectoryPath with
      | .error _ => (.idle, s)
      | .ok .file => (.idle, s)
      | .ok .dir =>
        let (iResult, volume) := iDeleteAllFilesInsideDirectory env caDirectoryPath s.volume
        if iResult ≠ 0 then (.rebuild, { s with volume := volume })
        else
          match Volume.fsUnlink volume env.unlink caDirectoryPath with
          | .error _ => (.rebuild, { s with volume := volume })
          | .ok volume => (.rebuild, { s with volume := volume })
  | .rebuild => (.idle, (s.iGetFileInfo env).2)

/-- The entry that a deletion has looked up has its path, or is behind the last. -/
def Holds (stTFileCatalog : List FileInfo) : FileThread → Prop
  | .unlink pcaFilePath pstFile => ∀ f ∈ stTFileCatalog[pstFile]?, f.caFilePath = pcaFilePath
  | _ => True

instance (stTFileCatalog : List FileInfo) : ∀ pc, Decidable (Holds stTFileCatalog pc)
  | .unlink pcaFilePath pstFile =>
      inferInstanceAs (Decidable (∀ f ∈ stTFileCatalog[pstFile]?, f.caFilePath = pcaFilePath))
  | .idle | .createEntry _ _ | .removeDirectory _ | .rebuild => isTrue trivial

/-- The sections that write the catalogue. -/
def writesTable : FileThread → Bool
  | .createEntry _ _ | .rebuild => true
  | _ => false

end FileThread

/-- The disk and its threads.  `unlinked` has the paths that deletions were asked for,
with those that they passed to `fs_unlink`. -/
structure FileThreads (ι : Type*) where
  disk : Disk
  thread : ι → FileThread
  unlinked : List (Path × Path)

inductive FileAct (ι : Type*) where
  | call (t : ι) (c : FileOperation) (bActive : Bool) (env : DiskEnv)
  | enter (t : ι) (env : DiskEnv)

namespace FileThreads

variable {ι : Type*} [DecidableEq ι]

/-- What the section of a thread adds to `unlinked`. -/
def passed (env : DiskEnv) (s : FileThreads ι) (t : ι) : List (Path × Path) :=
  match s.thread t with
  | .unlink pcaFilePath pstFile =>
      (FileThread.passes env s.disk pstFile).toList.map fun path => (pcaFilePath, path)
  | _ => []

def step (s : FileThreads ι) : FileAct ι → Option (FileThreads ι)
  | .call t c bActive env =>
    if s.thread t ≠ .idle then none
    else
      let (pc, disk) := c.start env s.disk bActive
      some { s with disk := disk, thread := Function.update s.thread t pc }
  | .enter t env =>
      let (pc, disk) := (s.thread t).enter env s.disk
      some
        { disk := disk
          thread := Function.update s.thread t pc
          unlinked := s.passed env t ++ s.unlinked }

/-- A section that writes the catalogue puts no other file where a deletion has looked
its own up. -/
def Keeps (s : FileThreads ι) : FileAct ι → Prop
  | .call _ _ _ _ => True
  | .enter t env =>
      (s.thread t).writesTable = true → ∀ t',
        (s.thread t').Holds ((s.thread t).enter env s.disk).2.stTFileCatalog

end FileThreads

/-- From any disk, with no call under way. -/
def fileThreadSystem (ι : Type*) [DecidableEq ι] :
    TransSys (FileThreads ι) (FileAct ι) where
  init s := (∀ t, s.thread t = .idle) ∧ s.unlinked = []
  step s a s' := s.step a = some s'

/-! ## §2. A deletion alone. -/

variable {env : DiskEnv} {s : Disk} {path : Path} {i : Nat}

theorem pstGetFileByFilePath_eq :
    s.pstGetFileByFilePath path = (s.indexOf path).bind (s.stTFileCatalog[·]?) :=
  List.find?_eq_bind_findIdx?_getElem?

theorem indexOf_eq_some (h : s.indexOf path = some i) :
    ∃ f, s.stTFileCatalog[i]? = some f ∧ f.caFilePath = path := by
  obtain ⟨hlt, hpath, -⟩ := List.findIdx?_eq_some_iff_getElem.mp h
  exact ⟨_, List.getElem?_eq_getElem hlt, of_decide_eq_true hpath⟩

/-- The sections of a deletion, one after the other. -/
def Disk.deleteInSections (env : DiskEnv) (s : Disk) (path : Path) : Disk :=
  let looked := FileOperation.start env s false (.delete path)
  let unlinked := looked.1.enter env looked.2
  (unlinked.1.enter env unlinked.2).2

theorem start_delete (h : s.indexOf path = some i) :
    FileOperation.start env s false (.delete path) = (.unlink path i, s) := by
  show (match s.indexOf path with
    | none => (FileThread.idle, s)
    | some pstFile => (FileThread.unlink path pstFile, s)) = _
  rw [h]

/-- With nothing in between, they are the deletion. -/
theorem sections_alone (env : DiskEnv) (s : Disk) (path : Path) :
    s.deleteInSections env path = (s.iDeleteFileInternal env path).2 := by
  unfold Disk.deleteInSections Disk.iDeleteFileInternal
  rw [pstGetFileByFilePath_eq]
  cases hindex : s.indexOf path with
  | none =>
      have hstart : FileOperation.start env s false (.delete path) = (.idle, s) := by
        show (match s.indexOf path with
          | none => (FileThread.idle, s)
          | some pstFile => (FileThread.unlink path pstFile, s)) = _
        rw [hindex]
      rw [hstart]
      rfl
  | some i =>
      obtain ⟨f, hf, -⟩ := indexOf_eq_some hindex
      rw [start_delete hindex, Option.bind_some, hf]
      dsimp only
      -- each way out of the deletion is a section that leaves the disk alone
      by_cases hlock : !env.fileLock
      · have hsection : (FileThread.unlink path i).enter env s = (.idle, s) := by
          unfold FileThread.enter FileThread.passes
          dsimp only
          rw [if_pos hlock]
        rw [hsection, if_pos hlock]
        rfl
      rw [if_neg hlock]
      cases hstat : s.volume.fsStat env.stat f.caFilePath with
      | error iResult =>
          have hsection : (FileThread.unlink path i).enter env s = (.idle, s) := by
            unfold FileThread.enter FileThread.passes
            dsimp only
            rw [if_neg hlock, hf]
            dsimp only
            rw [hstat]
          rw [hsection]
          rfl
      | ok k =>
          have hsection : (FileThread.unlink path i).enter env s
              = match s.volume.fsUnlink env.unlink f.caFilePath with
                | .error _ => (.idle, s)
                | .ok volume => (.rebuild, { s with volume := volume }) := by
            unfold FileThread.enter FileThread.passes
            dsimp only
            rw [if_neg hlock, hf]
            dsimp only
            rw [hstat]
          rw [hsection]
          cases s.volume.fsUnlink env.unlink f.caFilePath with
          | error iResult => rfl
          | ok volume => rfl

/-! ## §3. What the sections write. -/

/-- Before its first section a call writes no entry, and a deletion has looked its own
up. -/
theorem start_spec {c : FileOperation} {bActive : Bool} :
    (c.start env s bActive).2.stTFileCatalog = s.stTFileCatalog
      ∧ (c.start env s bActive).1.Holds s.stTFileCatalog := by
  unfold FileOperation.start
  cases c with
  | create dir name =>
      dsimp only
      split
      · exact ⟨rfl, trivial⟩
      split
      · exact ⟨rfl, trivial⟩
      obtain ⟨hchecked, -⟩ : (s.iCheckOrCreateDirectory env dir).2.stTFileCatalog
          = s.stTFileCatalog ∧ _ := checkDirectory_files
      generalize s.iCheckOrCreateDirectory env dir = checked at hchecked ⊢
      obtain ⟨iResult, s'⟩ := checked
      dsimp only
      split
      · exact ⟨hchecked, trivial⟩
      split
      · exact ⟨hchecked, trivial⟩
      split
      · exact ⟨hchecked, trivial⟩
      · exact ⟨hchecked, trivial⟩
  | delete path =>
      dsimp only
      split
      · exact ⟨rfl, trivial⟩
      cases hindex : s.indexOf path with
      | none => exact ⟨rfl, trivial⟩
      | some i =>
          refine ⟨rfl, ?_⟩
          intro f hf
          obtain ⟨f', hf', hpath⟩ := indexOf_eq_some hindex
          obtain rfl := Option.some.inj (hf.symm.trans hf')
          exact hpath
  | deleteDirectory path =>
      dsimp only
      split
      · exact ⟨rfl, trivial⟩
      split
      · exact ⟨rfl, trivial⟩
      · exact ⟨rfl, trivial⟩
  | refresh => exact ⟨rfl, trivial⟩

/-- A section leads to no other deletion, and a removal leaves the catalogue to the walk
after it. -/
theorem enter_spec {pc : FileThread} :
    (∀ stTFileCatalog, (pc.enter env s).1.Holds stTFileCatalog)
      ∧ (pc.writesTable = false → (pc.enter env s).2.stTFileCatalog = s.stTFileCatalog) := by
  unfold FileThread.enter
  cases pc with
  | idle => exact ⟨fun _ => trivial, fun _ => rfl⟩
  | createEntry path name => exact ⟨fun _ => trivial, nofun⟩
  | rebuild => exact ⟨fun _ => trivial, nofun⟩
  | unlink path i =>
      dsimp only
      split
      · exact ⟨fun _ => trivial, fun _ => rfl⟩
      split
      · exact ⟨fun _ => trivial, fun _ => rfl⟩
      · exact ⟨fun _ => trivial, fun _ => rfl⟩
  | removeDirectory dir =>
      dsimp only
      split
      · exact ⟨fun _ => trivial, fun _ => rfl⟩
      split
      · exact ⟨fun _ => trivial, fun _ => rfl⟩
      · exact ⟨fun _ => trivial, fun _ => rfl⟩
      split
      · exact ⟨fun _ => trivial, fun _ => rfl⟩
      split
      · exact ⟨fun _ => trivial, fun _ => rfl⟩
      · exact ⟨fun _ => trivial, fun _ => rfl⟩

/-- What is passed to `fs_unlink` is in the catalogue. -/
theorem passes_eq_some {path' : Path} (h : FileThread.passes env s i = some path') :
    ∃ f, s.stTFileCatalog[i]? = some f ∧ f.caFilePath = path' := by
  unfold FileThread.passes at h
  split at h
  · cases h
  cases hf : s.stTFileCatalog[i]? with
  | none =>
      rw [hf] at h
      cases h
  | some f =>
      rw [hf] at h
      dsimp only at h
      split at h
      · cases h
      · exact ⟨f, rfl, Option.some.inj h⟩

/-! ## §4. All runs. -/

variable {ι : Type*} [DecidableEq ι]

/-- What a deletion has looked up holds its path or nothing, and what has been passed
to `fs_unlink` is what was asked for. -/
structure LooksUpOwn (s : FileThreads ι) : Prop where
  looked : ∀ t, (s.thread t).Holds s.disk.stTFileCatalog
  asked : ∀ e ∈ s.unlinked, e.2 = e.1

theorem LooksUpOwn.step {s s' : FileThreads ι} {a : FileAct ι} (hs : LooksUpOwn s)
    (hkeeps : s.Keeps a) (hstep : s.step a = some s') : LooksUpOwn s' := by
  unfold FileThreads.step at hstep
  cases a with
  | call t c bActive env =>
      dsimp only at hstep
      split at hstep
      · cases hstep
      obtain rfl := Option.some.inj hstep
      obtain ⟨htable, hlooked⟩ : (c.start env s.disk bActive).2.stTFileCatalog
          = s.disk.stTFileCatalog ∧ _ := start_spec
      refine ⟨?_, hs.asked⟩
      intro t'
      dsimp only
      rw [htable]
      by_cases ht : t' = t
      · rw [ht, Function.update_self]
        exact hlooked
      · rw [Function.update_of_ne ht]
        exact hs.looked t'
  | enter t env =>
      dsimp only at hstep
      obtain rfl := Option.some.inj hstep
      constructor
      · intro t'
        dsimp only
        by_cases ht : t' = t
        · rw [ht, Function.update_self]
          exact enter_spec.1 _
        -- a thread that only looked its file up keeps what it has, unless the table moves
        rw [Function.update_of_ne ht]
        cases hwrites : (s.thread t).writesTable with
        | true => exact hkeeps hwrites t'
        | false =>
            rw [enter_spec.2 hwrites]
            exact hs.looked t'
      · intro e he
        rcases List.mem_append.mp he with hnew | hold
        · unfold FileThreads.passed at hnew
          cases hpc : s.thread t with
          | unlink path i =>
              rw [hpc] at hnew
              obtain ⟨path', hpath', rfl⟩ := List.mem_map.mp hnew
              -- the path unlinked is the one the table has under the index looked up
              obtain ⟨f, hf, rfl⟩ := passes_eq_some (Option.mem_toList.mp hpath')
              have hholds := hs.looked t
              rw [hpc] at hholds
              exact hholds f hf
          | idle => rw [hpc] at hnew; cases hnew
          | createEntry path name => rw [hpc] at hnew; cases hnew
          | removeDirectory dir => rw [hpc] at hnew; cases hnew
          | rebuild => rw [hpc] at hnew; cases hnew
        · exact hs.asked e hold

/-- **A deletion passes its own path to `fs_unlink`**, in every run whose sections put
no other file where a deletion has looked its own up. -/
theorem unlinks_asked {s : FileThreads ι}
    (h : (fileThreadSystem ι).ReachableVia FileThreads.Keeps s) :
    ∀ e ∈ s.unlinked, e.2 = e.1 := by
  have hown := TransSys.ReachableVia.invariant (I := LooksUpOwn) ?_ ?_ h
  · exact hown.asked
  · rintro s ⟨hidle, hunlinked⟩
    constructor
    · intro t
      rw [hidle t]
      trivial
    · rw [hunlinked]
      intro e he
      cases he
  · intro s a s' hs hkeeps hstep
    exact hs.step hkeeps hstep

/-! ## §5. Runs. -/

/-- Three files in the mount point, and two threads. -/
def threeFiles : FileThreads Bool where
  disk := (emptyController.calls
    [.create (ascii "/lfs") (ascii "a"), .create (ascii "/lfs") (ascii "b"),
      .create (ascii "/lfs") (ascii "c")]).disk
  thread _ := .idle
  unlinked := []

theorem init_threeFiles : (fileThreadSystem Bool).init threeFiles :=
  ⟨fun _ => rfl, rfl⟩

/-- One thread looks up `b`; the other removes `file`, with the walk; the first goes
on. -/
def besideRemoval (file : Path) : List (FileAct Bool) :=
  [.call true (.delete (ascii "/lfs/b")) false .calm, .call false (.delete file) false .calm,
    .enter false .calm, .enter false .calm, .enter true .calm]

/-- With `a` gone, the entry of `b` holds `c`. -/
theorem not_unlinks_asked : ¬∀ s, (fileThreadSystem Bool).Reachable s →
    ∀ e ∈ s.unlinked, e.2 = e.1 := by
  intro h
  have hrun : (((besideRemoval (ascii "/lfs/a")).foldlM FileThreads.step threeFiles).map
      FileThreads.unlinked)
      = some [(ascii "/lfs/b", ascii "/lfs/c"), (ascii "/lfs/a", ascii "/lfs/a")] := by
    decide +kernel
  obtain ⟨s, hs, hunlinked⟩ := Option.map_eq_some_iff.mp hrun
  have hreach : (fileThreadSystem Bool).Reachable s :=
    .foldlM (fun _ _ _ hstep => hstep) (.init init_threeFiles) _ hs
  have hasked := h s hreach (ascii "/lfs/b", ascii "/lfs/c") (by rw [hunlinked]; decide)
  exact absurd hasked (by decide)

instance (s : FileThreads Bool) : ∀ a, Decidable (s.Keeps a)
  | .call _ _ _ _ => isTrue trivial
  | .enter t env =>
      inferInstanceAs (Decidable (_ = _ → ∀ t',
        (s.thread t').Holds ((s.thread t).enter env s.disk).2.stTFileCatalog))

/-- With `c` gone, the entry of `b` stays where it is. -/
theorem unlinks_asked_last :
    ∃ s : FileThreads Bool,
      s.unlinked = [(ascii "/lfs/b", ascii "/lfs/b"), (ascii "/lfs/c", ascii "/lfs/c")]
        ∧ ∀ e ∈ s.unlinked, e.2 = e.1 := by
  have hrun : (((besideRemoval (ascii "/lfs/c")).foldlM
      (TransSys.guarded FileThreads.Keeps FileThreads.step) threeFiles).map
      FileThreads.unlinked)
      = some [(ascii "/lfs/b", ascii "/lfs/b"), (ascii "/lfs/c", ascii "/lfs/c")] := by
    decide +kernel
  obtain ⟨s, hs, hunlinked⟩ := Option.map_eq_some_iff.mp hrun
  have hreach : (fileThreadSystem Bool).ReachableVia FileThreads.Keeps s :=
    .foldlM (fun _ _ _ hstep => TransSys.guarded_some hstep) (.init init_threeFiles) _ hs
  exact ⟨s, hunlinked, unlinks_asked hreach⟩

end WallController.LittleFs
