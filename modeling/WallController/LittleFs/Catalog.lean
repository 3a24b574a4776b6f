/-
  WallController.LittleFs.Catalog
  ────────────────────────────────
  **THE FILE CATALOGUE.**

  `LittleFs_Controller.c`, outside of the bulk transfer: `iGetFileInfo` builds
  the catalogue from a walk through the directories, `iCreate_File` adds an
  entry to it, `iDelete_File` and `bDelete_Directory` change the volume and
  build it anew.

  The bulk transfer calls the same functions.  `catalogSystem` is the bulk
  transfer system beside the volume and the catalogue: each of its steps that
  calls one of these functions also runs it here, and has the same result; what
  a call of another thread changes, the transfer finds changed.
-/
import WallController.LittleFs.Bulk
import WallController.LittleFs.Volume

namespace WallController.LittleFs

open WallController.Lib

def MAX_FILE_COUNT : Nat := 32
def MAX_DIRECTORY_COUNT : Nat := 10

/-! ## §1. The state, and what may fail. -/

/-- `sT_FileInfo_t`. -/
structure FileInfo where
  caFileName : Path
  caFilePath : Path
  uiFileNameLen : Nat
  uiFileSize : Nat
  deriving DecidableEq, Repr

/-- The volume, and `stTFileCatalog`; `uiFileCount` is the length of the list. -/
structure Disk where
  volume : Volume
  stTFileCatalog : List FileInfo

/-- The results of the calls that read a directory; `readdir i` is that of the read
of the entry `i`, or of the end. -/
structure DirFaults where
  opendir : Int
  readdir : Nat → Int
  closedir : Int

/-- The results of the calls made in one function.  `fileLock` is the lock of
`kMutex_FileAccess` in the function itself and `rebuildLock` that in
`iGetFileInfo`; `walk` and `discover` are for each directory, `remove` also for each
entry removed before, `unlinkEntry` for each path and `write` for each chunk; `wreck`
is what a failing call on a file open for writing leaves of it. -/
structure DiskEnv where
  fileLock : Bool
  rebuildLock : Bool
  statDirectory : Int
  mkdir : Int
  stat : Int
  open_ : Int
  write : Nat → Int
  sync : Int
  close : Int
  unlink : Int
  wreck : List UInt8
  walk : Path → DirFaults
  discover : Path → DirFaults
  remove : Path → Nat → DirFaults
  unlinkEntry : Path → Int

/-- No call fails. -/
def DirFaults.calm : DirFaults := ⟨0, fun _ => 0, 0⟩

/-- No call fails. -/
def DiskEnv.calm : DiskEnv where
  fileLock := true
  rebuildLock := true
  statDirectory := 0
  mkdir := 0
  stat := 0
  open_ := 0
  write _ := MAX_FRAME_LENGTH
  sync := 0
  close := 0
  unlink := 0
  wreck := []
  walk _ := .calm
  discover _ := .calm
  remove _ _ := .calm
  unlinkEntry _ := 0

/-! ## §2. `iGetFileInfo`. -/

/-- The staging area: the directories still to walk, how many there were in all,
and the entries. -/
structure Staging where
  caDirectoryWorkList : List Path
  uiTotalDirectoryCount : Nat
  staStagingFileInfo : List FileInfo
  deriving DecidableEq, Repr

/-- One entry of a directory; `uiSize` is the size that the listing reports. -/
def stageEntry (uiSize : Name → Nat) (caCurrentDirectory : Path) (w : Staging)
    (e : Name × EntryType) : Except Int Staging :=
  let caChildPath := childPath caCurrentDirectory e.1.val
  if caChildPath.length ≥ MAX_FILE_PATH_LENGTH then .error (-ENAMETOOLONG)
  else
    match e.2 with
    | .dir =>
        if w.uiTotalDirectoryCount ≥ MAX_DIRECTORY_COUNT
            ∨ w.caDirectoryWorkList.length ≥ MAX_DIRECTORY_COUNT then .error (-ENOSPC)
        else
          .ok
            { w with
              caDirectoryWorkList := w.caDirectoryWorkList ++ [caChildPath]
              uiTotalDirectoryCount := w.uiTotalDirectoryCount + 1 }
    | .file =>
        if w.staStagingFileInfo.length ≥ MAX_FILE_COUNT then .error (-ENOSPC)
        else if e.1.val.length ≥ MAX_FILE_NAME_LENGTH then .error (-ENAMETOOLONG)
        else
          .ok
            { w with
              staStagingFileInfo :=
                w.staStagingFileInfo
                  ++ [⟨e.1.val, caChildPath, e.1.val.length, uiSize e.1⟩] }

/-- The entries of a directory, from the entry `i` on, until one fails. -/
def readEach {α : Type} (readdir : Nat → Int) (process : α → Name × EntryType → Except Int α) :
    Nat → List (Name × EntryType) → α → Except Int α
  | i, [], w => if readdir i < 0 then .error (readdir i) else .ok w
  | i, e :: es, w =>
      if readdir i < 0 then .error (readdir i)
      else
        match process w e with
        | .error iResult => .error iResult
        | .ok w => readEach readdir process (i + 1) es w

/-- All entries of a directory; a failure to close it counts where nothing else
has failed. -/
def readDirectory {α : Type} (faults : DirFaults) (v : Volume) (path : Path)
    (process : α → Name × EntryType → Except Int α) (w : α) : Except Int α :=
  match v.fsOpendir faults.opendir path with
  | .error iResult => .error iResult
  | .ok entries =>
    match readEach faults.readdir process 0 entries w with
    | .error iResult => .error iResult
    | .ok w => if faults.closedir < 0 then .error faults.closedir else .ok w

/-- The size of an entry of a directory. -/
def Volume.sizeIn (v : Volume) (dir : Path) (name : Name) : Nat :=
  (v.content (components dir ++ [name])).length

/-- The walk, which takes the directory found last.  There are never more directories
than `MAX_DIRECTORY_COUNT`, which is the fuel: the work list is empty at the end
(`walk_ends`). -/
def walk (env : DiskEnv) (v : Volume) : Nat → Staging → Except Int Staging
  | 0, w => .ok w
  | fuel + 1, w =>
    match w.caDirectoryWorkList.getLast? with
    | none => .ok w
    | some dir =>
      match readDirectory (env.walk dir) v dir (stageEntry (v.sizeIn dir) dir)
        { w with caDirectoryWorkList := w.caDirectoryWorkList.dropLast } with
      | .error iResult => .error iResult
      | .ok w => walk env v fuel w

namespace Disk

variable (env : DiskEnv) (s : Disk)

/-- `iGetFileInfo` of the mount point. -/
def iGetFileInfo : Int × Disk :=
  if !env.rebuildLock then (-ENOLCK, s)
  else
    match walk env s.volume MAX_DIRECTORY_COUNT ⟨[EXT_LITTLEFS_MOUNT_POINT], 1, []⟩ with
    | .error iResult => (iResult, s)
    | .ok w => (0, { s with stTFileCatalog := w.staStagingFileInfo })

/-! ## §3. Files. -/

/-- `pstGetFile_ByFilePath`. -/
def pstGetFileByFilePath (pcaFilePath : Path) : Option FileInfo :=
  s.stTFileCatalog.find? fun f => f.caFilePath = pcaFilePath

/-- `iCheckOrCreateDirectory`. -/
def iCheckOrCreateDirectory (caDirectoryPath : Path) : Int × Disk :=
  match s.volume.fsStat env.statDirectory caDirectoryPath with
  | .ok .dir => (0, s)
  | .ok .file => (-ENOTDIR, s)
  | .error iResult =>
    if iResult ≠ -ENOENT then (iResult, s)
    else
      match s.volume.fsMkdir env.mkdir caDirectoryPath with
      | .error iResult => (iResult, s)
      | .ok volume => (0, { s with volume := volume })

/-- `iCreate_File` from its lock on. -/
def createEntry (caFullPath pcafileName : Path) : Int × Disk :=
  if !env.fileLock then (-EAGAIN, s)
  else if s.stTFileCatalog.length ≥ MAX_FILE_COUNT then (-ENOSPC, s)
  else
    match s.volume.fsOpenCreate env.open_ caFullPath with
    | .error iResult => (iResult, s)
    | .ok volume =>
      if env.close < 0 then (env.close, { s with volume := volume })
      else
        (0,
          { volume := volume
            stTFileCatalog :=
              s.stTFileCatalog ++ [⟨pcafileName, caFullPath, pcafileName.length, 0⟩] })

/-- `iCreate_File`.  The directory check has set the flag `bisAvailable`, so a
failing `fs_stat` counts as an existing file as well. -/
def iCreateFile (bActive : Bool) (pcafilePath pcafileName : Path) : Int × Disk :=
  if bActive then (-EBUSY, s)
  else
    match bBuildValidateFullPathName pcafilePath pcafileName with
    | none => (-EINVAL, s)
    | some caFullPath =>
      let (iResult, s) := s.iCheckOrCreateDirectory env pcafilePath
      if iResult ≠ 0 then (iResult, s)
      else
        match s.volume.fsStat env.stat caFullPath with
        | .ok _ => (-EEXIST, s)
        | .error iResult =>
          if iResult ≠ -ENOENT then (-EEXIST, s) else s.createEntry env caFullPath pcafileName

/-- `iDelete_FileInternal`. -/
def iDeleteFileInternal (pcaFilePath : Path) : Int × Disk :=
  match s.pstGetFileByFilePath pcaFilePath with
  | none => (-ENOENT, s)
  | some pstFile =>
    if !env.fileLock then (- EIO, s)
    else
      match s.volume.fsStat env.stat pstFile.caFilePath with
      | .error iResult => (iResult, s)
      | .ok _ =>
        match s.volume.fsUnlink env.unlink pstFile.caFilePath with
        | .error iResult => (iResult, s)
        | .ok volume => iGetFileInfo env { s with volume := volume }

/-- `iDelete_File`. -/
def iDeleteFile (bActive : Bool) (pcaFilePath : Path) : Int × Disk :=
  if bActive then (-EBUSY, s) else s.iDeleteFileInternal env pcaFilePath

/-- The chunks of `iWrite_ToFileBin`: each is at most `uiMaxWriteSize` bytes, and a
write may take less than it is given.  A write that takes nothing is an error. -/
def writeChunks (path : Path) (uiMaxWriteSize : Nat) :
    Nat → Nat → List UInt8 → Volume → Int × Volume
  | 0, _, _, v => (0, v)
  | fuel + 1, i, data, v =>
    if data = [] then (0, v)
    else
      let chunk := data.take uiMaxWriteSize
      let (uiTotWrittenBytes, v) := v.fsWrite (min (env.write i) chunk.length) env.wreck path chunk
      if uiTotWrittenBytes ≤ 0 then
        (if uiTotWrittenBytes = 0 then - EIO else uiTotWrittenBytes, v)
      else writeChunks path uiMaxWriteSize fuel (i + 1) (data.drop uiTotWrittenBytes.toNat) v

/-- The size of the entry that was looked up. -/
def setFileSize (pcaFilePath : Path) (uiFileSize : Nat) : List FileInfo → List FileInfo
  | [] => []
  | f :: fs =>
      if f.caFilePath = pcaFilePath then { f with uiFileSize := uiFileSize } :: fs
      else f :: setFileSize pcaFilePath uiFileSize fs

/-- `iWrite_ToFileBin`. -/
def iWriteToFileBin (bActive : Bool) (pcaFilePath : Path) (puiDataBuff : List UInt8)
    (uiMaxWriteSize : Nat) : Int × Disk :=
  if puiDataBuff = [] ∨ uiMaxWriteSize = 0 then (-EINVAL, s)
  else if bActive then (-EBUSY, s)
  else if !env.fileLock then (-EBUSY, s)
  else
    match s.pstGetFileByFilePath pcaFilePath with
    | none => (-ENOENT, s)
    | some pstFile =>
      match s.volume.fsOpenTrunc env.open_ pstFile.caFilePath with
      | .error iResult => (iResult, s)
      | .ok volume =>
        let path := pstFile.caFilePath
        let (iResult, volume) :=
          writeChunks env path uiMaxWriteSize puiDataBuff.length 0 puiDataBuff volume
        if iResult < 0 then
          (iResult, { s with volume := volume.fsSettle env.close env.wreck path })
        else
          let volume := (volume.fsSettle env.sync env.wreck path).fsSettle env.close env.wreck path
          let iResult := if env.sync < 0 then env.sync else if env.close < 0 then env.close else 0
          match Volume.fsStat volume env.stat path with
          | .error iStatResult =>
              (if iResult < 0 then iResult else iStatResult, { s with volume := volume })
          | .ok _ =>
              let size := (volume.content (components path)).length
              (iResult,
                { volume := volume
                  stTFileCatalog := setFileSize pcaFilePath size s.stTFileCatalog })

end Disk

/-! ## §4. `bDelete_Directory`. -/

/-- One entry in the pass that discovers the directories below. -/
def discoverEntry (pcaCurrentDirectory : Path) (caDirectoryList : List Path)
    (e : Name × EntryType) : Except Int (List Path) :=
  if e.2 ≠ .dir then .ok caDirectoryList
  else if caDirectoryList.length ≥ MAX_DIRECTORY_COUNT then .error (-ENOSPC)
  else if (childPath pcaCurrentDirectory e.1.val).length ≥ MAX_FILE_PATH_LENGTH then
    .error (-ENAMETOOLONG)
  else .ok (caDirectoryList ++ [childPath pcaCurrentDirectory e.1.val])

/-- The first pass, from the directory `uiScanIndex` of the list on. -/
def discover (env : DiskEnv) (v : Volume) : Nat → Nat → List Path → Except Int (List Path)
  | 0, _, dirs => .ok dirs
  | fuel + 1, uiScanIndex, dirs =>
    match dirs[uiScanIndex]? with
    | none => .ok dirs
    | some dir =>
      match readDirectory (env.discover dir) v dir (discoverEntry dir) dirs with
      | .error iResult => .error iResult
      | .ok dirs => discover env v fuel (uiScanIndex + 1) dirs

/-- The removal of the files of a directory, one after the other; `uiRemoved` have
been removed before. -/
def emptyDirectory (env : DiskEnv) (dir : Path) : Nat → Nat → Volume → Int × Volume
  | 0, _, v => (0, v)
  | fuel + 1, uiRemoved, v =>
    let faults := env.remove dir uiRemoved
    match v.fsOpendir faults.opendir dir with
    | .error iResult => (iResult, v)
    | .ok entries =>
      if faults.readdir 0 < 0 then (faults.readdir 0, v)
      else
        match entries with
        | [] => if faults.closedir < 0 then (faults.closedir, v) else (0, v)
        | (name, eEntryType) :: _ =>
          let caChildPath := childPath dir name.val
          if caChildPath.length ≥ MAX_FILE_PATH_LENGTH then (-ENAMETOOLONG, v)
          else if faults.closedir < 0 then (faults.closedir, v)
          else if eEntryType ≠ .file then (-ENOTEMPTY, v)
          else
            match v.fsUnlink (env.unlinkEntry caChildPath) caChildPath with
            | .error iResult => (iResult, v)
            | .ok v => emptyDirectory env dir fuel (uiRemoved + 1) v

/-- The second pass, over the directories from the deepest on.  The last one is the
requested directory, which the caller removes. -/
def removeDirectories (env : DiskEnv) : List Path → Volume → Int × Volume
  | [], v => (0, v)
  | dir :: rest, v =>
    let (iResult, v) := emptyDirectory env dir (v.entries.length + 1) 0 v
    if iResult ≠ 0 then (iResult, v)
    else if rest = [] then (0, v)
    else
      match v.fsUnlink (env.unlinkEntry dir) dir with
      | .error iResult => (iResult, v)
      | .ok v => removeDirectories env rest v

/-- `iDelete_AllFiles_InsideDirectory`. -/
def iDeleteAllFilesInsideDirectory (env : DiskEnv) (pcaDirectoryPath : Path) (v : Volume) :
    Int × Volume :=
  if pcaDirectoryPath.length = 0 ∨ pcaDirectoryPath.length ≥ MAX_FILE_PATH_LENGTH then
    (-ENAMETOOLONG, v)
  else
    match discover env v MAX_DIRECTORY_COUNT 0 [pcaDirectoryPath] with
    | .error iResult => (iResult, v)
    | .ok dirs => removeDirectories env dirs.reverse v

/-- The path without the slashes at its end; its first byte stays. -/
def trimSlashes : Path → Path
  | [] => []
  | c :: cs => c :: (cs.reverse.dropWhile fun b => b = slash).reverse

/-- The directory that `bDelete_Directory` accepts: below the mount point. -/
def directoryToDelete (pcaDirectoryPath : Path) : Option Path :=
  let caDirectoryPath := trimSlashes pcaDirectoryPath
  if pcaDirectoryPath.length = 0 ∨ pcaDirectoryPath.length ≥ MAX_FILE_PATH_LENGTH then none
  else if caDirectoryPath.length ≤ EXT_LITTLEFS_MOUNT_POINT.length
      ∨ !EXT_LITTLEFS_MOUNT_POINT.isPrefixOf caDirectoryPath
      ∨ (caDirectoryPath.drop EXT_LITTLEFS_MOUNT_POINT.length).head? ≠ some slash
      ∨ bContainsDotPathComponent caDirectoryPath then none
  else some caDirectoryPath

namespace Disk

variable (env : DiskEnv) (s : Disk)

/-- `bDelete_Directory`. -/
def bDeleteDirectory (bActive : Bool) (pcaDirectoryPath : Path) : Bool × Disk :=
  if bActive then (false, s)
  else
    match directoryToDelete pcaDirectoryPath with
    | none => (false, s)
    | some caDirectoryPath =>
      if !env.fileLock then (false, s)
      else
        match s.volume.fsStat env.stat caDirectoryPath with
        | .error _ => (false, s)
        | .ok .file => (false, s)
        | .ok .dir =>
          let (iResult, volume) := iDeleteAllFilesInsideDirectory env caDirectoryPath s.volume
          let (iResult, volume) :=
            if iResult ≠ 0 then (iResult, volume)
            else
              match Volume.fsUnlink volume env.unlink caDirectoryPath with
              | .error iResult => (iResult, volume)
              | .ok volume => (0, volume)
          -- the catalogue is built anew, whether or not the removal has succeeded
          let (iCatalogResult, s) := iGetFileInfo env { s with volume := volume }
          (iResult = 0 && iCatalogResult = 0, s)

end Disk

/-! ## §5. The system. -/

/-- A call of one of the functions. -/
inductive CatalogCall where
  | create (pcafilePath pcafileName : Path)
  | delete (pcaFilePath : Path)
  | deleteDirectory (pcaDirectoryPath : Path)
  | write (pcaFilePath : Path) (puiDataBuff : List UInt8) (uiMaxWriteSize : Nat)
  | deleteInternal (pcaFilePath : Path)
  | refresh
  | openTrunc (path : Path)
  | append (iResult : Int) (wreck : List UInt8) (path : Path) (data : List UInt8)
  deriving DecidableEq, Repr

/-- The static functions and the accesses to the target, which are the bulk
transfer's. -/
def CatalogCall.isBulk : CatalogCall → Bool
  | .deleteInternal _ | .refresh | .openTrunc _ | .append _ _ _ _ => true
  | _ => false

def CatalogCall.run (env : DiskEnv) (bActive : Bool) (s : Disk) : CatalogCall → Int × Disk
  | .create pcafilePath pcafileName => s.iCreateFile env bActive pcafilePath pcafileName
  | .delete pcaFilePath => s.iDeleteFile env bActive pcaFilePath
  | .deleteDirectory pcaDirectoryPath =>
      let (bResult, s) := s.bDeleteDirectory env bActive pcaDirectoryPath
      (bResult.toInt, s)
  | .write pcaFilePath puiDataBuff uiMaxWriteSize =>
      s.iWriteToFileBin env bActive pcaFilePath puiDataBuff uiMaxWriteSize
  | .deleteInternal pcaFilePath => s.iDeleteFileInternal env pcaFilePath
  | .refresh => s.iGetFileInfo env
  | .openTrunc path =>
    match s.volume.fsOpenTrunc env.open_ path with
    | .error iResult => (iResult, s)
    | .ok volume => (0, { s with volume := volume })
  | .append iResult wreck path data =>
      let (iResult, volume) := s.volume.fsWrite iResult wreck path data
      (iResult, { s with volume := volume })

/-- The call that the next step of the bulk transfer makes, and the result that it
sees. -/
def Bulk.catalogCall (b : Bulk) (a : Act) : Option (CatalogCall × Int) :=
  let path := b.ctrl.pcaTotalFilePath
  match a with
  | .uart env =>
    match b.uart with
    | .start _ .delete =>
        some (.delete path, (LittleFs.iDeleteFile env b.bIsBulkTransferActive path b.files).1)
    | .start r .create =>
        let dir := (directoryOf r.eFileType).getD []
        some (.create dir r.pcaFileName,
          (LittleFs.iCreateFile env b.bIsBulkTransferActive dir r.pcaFileName b.files).1)
    | .start _ .open_ => some (.openTrunc path, (LittleFs.fsOpenTrunc env path b.files).1)
    | .start _ .openFailed | .end_ .failDelete =>
        some (.deleteInternal path, (LittleFs.iDeleteFileInternal env path b.files).1)
    | .end_ .refresh => some (.refresh, env.refresh)
    | _ => none
  | .worker env =>
    match b.worker with
    | some (.write m) =>
        some (.append env.write (env.wreck.getD []) b.ctrl.stTFileData m.uiMsg,
          (LittleFs.fsWrite env b.ctrl.stTFileData m.uiMsg b.files).1)
    | _ => none
  | .handler env =>
    match b.handler with
    | .delete => some (.deleteInternal path, (LittleFs.iDeleteFileInternal env path b.files).1)
    | _ => none
  | _ => none

/-- The bulk transfer beside the volume and the catalogue. -/
structure Controller where
  bulk : Bulk
  disk : Disk

/-- There is the same at a path. -/
def Disk.SameAt (s s' : Disk) (path : Path) : Prop :=
  s'.volume.kind (components path) = s.volume.kind (components path)
    ∧ s'.volume.content (components path) = s.volume.content (components path)

instance (s s' : Disk) (path : Path) : Decidable (s.SameAt s' path) :=
  inferInstanceAs (Decidable (_ ∧ _))

/-- The file that the transfer finds at a path. -/
def Disk.fileAt (s : Disk) (path : Path) : Option (List UInt8) :=
  if s.volume.kind (components path) = some .file then some (s.volume.content (components path))
  else none

/-- After the call of another thread the transfer finds what the call has changed. -/
def Controller.after (s : Controller) (disk : Disk) : Controller where
  bulk :=
    { s.bulk with
      files := fun path =>
        if s.disk.SameAt disk path then s.bulk.files path else disk.fileAt path }
  disk := disk

inductive ControllerAct where
  | bulk (a : Act) (env : DiskEnv)
  | file (c : CatalogCall) (env : DiskEnv)

def Controller.Step (s : Controller) (a : ControllerAct) (s' : Controller) : Prop :=
  match a with
  | .bulk a env =>
      s.bulk.step a = some s'.bulk
        ∧ match s.bulk.catalogCall a with
          | none => s'.disk = s.disk
          | some (c, iResult) =>
              c.run env s.bulk.bIsBulkTransferActive s.disk = (iResult, s'.disk)
  | .file c env =>
      c.isBulk = false ∧ s' = s.after (c.run env s.bulk.bIsBulkTransferActive s.disk).2

/-- From a successful `bInit_ExtFlash_FsController` on, over any volume. -/
def catalogSystem : TransSys Controller ControllerAct where
  init s := (∃ files, s.bulk = Bulk.boot files)
    ∧ ∃ env volume, Disk.iGetFileInfo env ⟨volume, []⟩ = (0, s.disk)
  step := Controller.Step

end WallController.LittleFs
