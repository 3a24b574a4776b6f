/-
  WallController.LittleFs.Types
  ────────────────────────────────
  **THE DATA OF THE LITTLEFS CONTROLLER.**

  `LittleFs_DataTypes.h`: the states and errors of a bulk file transfer, the
  messages between the UART thread and the bulk worker, and the transfer
  control record.  The atomics of the control record are fields of the system
  state (`Bulk`), because other threads read and write them without a lock;
  the plain fields are `BulkDataControl`.

  Strings are the bytes before the terminating NUL.
-/
import WallController.Crc16
import Mathlib.Logic.Function.Basic

namespace WallController.LittleFs

/-! ## §1. Constants (`ExtFlash_ProjDef.h`, `errno.h`). -/

def MAX_FILE_NAME_LENGTH : Nat := 30
def MAX_FILE_PATH_LENGTH : Nat := 100
def MAX_FRAME_LENGTH : Nat := 256
def MAX_MSGQ_DEPTH : Nat := 10

def ENOENT : Int := 2
def EIO : Int := 5
def EAGAIN : Int := 11
def EBUSY : Int := 16
def EEXIST : Int := 17
def EINVAL : Int := 22
def EFBIG : Int := 27
def ENOSPC : Int := 28
def ENOMSG : Int := 35
def ENOLCK : Int := 46
def EBADE : Int := 52
def EBADMSG : Int := 77
def EMSGSIZE : Int := 122
def EILSEQ : Int := 138

/-! ## §2. Enumerations. -/

/-- `eFileTransfer_State_t`. -/
inductive FileTransferState where
  | idle
  | receiving
  | finalizing
  | failed
  | success
  deriving DecidableEq, Repr

/-- `eErrorState_t`. -/
inductive ErrorState where
  | none
  | timeOut
  | writeError
  | crcMismatch
  | receivedByteCountMismatch
  | fileDelete
  | fileSync
  | fileClose
  | refreshFileCatalog
  | invalidRequest
  | queueError
  | frameCRCMismatch
  | frameSequence
  deriving DecidableEq, Repr

/-! ## §3. Paths. -/

/-- A C string. -/
abbrev Path := List UInt8

/-- The bytes of an ASCII literal. -/
def ascii (s : String) : Path := s.toList.map fun c => UInt8.ofNat c.toNat

def EXT_LITTLEFS_MOUNT_POINT : Path := ascii "/lfs"
def EXT_LITTLEFS_IMAGE_DIRECTORY : Path := ascii "/lfs/Images/"
def EXT_LITTLEFS_ICONS_DIRECTORY : Path := ascii "/lfs/Icons/"
def EXT_LITTLEFS_DATA_DIRECTORY : Path := ascii "/lfs/Data/"
def EXT_LITTLEFS_CONFIG_DIRECTORY : Path := ascii "/lfs/Config/"

/-- The directory of a file type, an `eFileType_t` between `eFile_Error` and
`eNUMBER_OF_FILE_TYPEs`. -/
def directoryOf (eFileType : Nat) : Option Path :=
  match eFileType with
  | 1 => some EXT_LITTLEFS_CONFIG_DIRECTORY
  | 2 => some EXT_LITTLEFS_DATA_DIRECTORY
  | 3 => some EXT_LITTLEFS_IMAGE_DIRECTORY
  | 4 => some EXT_LITTLEFS_ICONS_DIRECTORY
  | _ => none

/-- `strstr(pcaPath, pcaPart) != NULL`. -/
def strstr (pcaPath pcaPart : Path) : Bool := pcaPath.tails.any fun rest => pcaPart.isPrefixOf rest

/-- `bContains_DotPathComponent`. -/
def bContainsDotPathComponent (pcaPath : Path) : Bool :=
  strstr pcaPath (ascii "/../") || strstr pcaPath (ascii "/./")
    || (ascii "/..").isSuffixOf pcaPath || (ascii "/.").isSuffixOf pcaPath

/-- `bBuild_Validate_FullPathName`; the lengths are those of `strnlen`, bounded
by the lengths of the arrays. -/
def bBuildValidateFullPathName (pcafilePath pcafileName : Path) : Option Path :=
  let uiFileNameLen := min pcafileName.length MAX_FILE_NAME_LENGTH
  let uiFilePathLen := min pcafilePath.length MAX_FILE_PATH_LENGTH
  if uiFileNameLen = 0 ∨ uiFileNameLen ≥ MAX_FILE_NAME_LENGTH then none
  else if uiFilePathLen = 0 ∨ uiFilePathLen ≥ MAX_FILE_PATH_LENGTH then none
  else if strstr pcafileName (ascii "/") then none
  else if pcafilePath.head? ≠ (ascii "/").head? then none
  else if !EXT_LITTLEFS_MOUNT_POINT.isPrefixOf pcafilePath
      ∨ ((pcafilePath.drop EXT_LITTLEFS_MOUNT_POINT.length).head? ≠ none
        ∧ (pcafilePath.drop EXT_LITTLEFS_MOUNT_POINT.length).head? ≠ (ascii "/").head?) then none
  else if bContainsDotPathComponent pcafilePath then none
  else if pcafileName = ascii "." ∨ pcafileName = ascii ".." then none
  else
    let pcaSeparator := if (ascii "/").isSuffixOf pcafilePath then [] else ascii "/"
    let caFullPath := pcafilePath ++ pcaSeparator ++ pcafileName
    if caFullPath.length ≥ MAX_FILE_PATH_LENGTH then none else some caFullPath

/-! ## §4. Records. -/

/-- `sT_BulkTransferData`; the size is a 32-bit field. -/
structure BulkTransferData where
  eFileType : Nat
  pcaFileName : Path
  uiFileSize : Nat
  uiCRC : UInt16
  size_lt : uiFileSize < 4294967296

/-- `sT_MsgData_t`; `uiMsg` holds the `uiDataLen` payload bytes. -/
structure MsgData where
  uiFrameId : Nat
  uiMsg : List UInt8
  uiFrameCRC : UInt16
  deriving DecidableEq, Repr

/-- `uiDataLen`. -/
def MsgData.uiDataLen (m : MsgData) : Nat := m.uiMsg.length

/-- `sT_BulkQueueMessage_t`. -/
inductive BulkQueueMessage where
  | data (stData : MsgData)
  | end_
  deriving DecidableEq, Repr

/-- `sT_TransferResult_t`. -/
structure TransferResult where
  eTransferState : FileTransferState
  eErrorState : ErrorState
  deriving DecidableEq, Repr

/-- The plain fields of `sT_BulkDataControl_t` that are read anywhere;
`stTFileData` is the path of the file that the handle was opened on. -/
structure BulkDataControl where
  pcaTotalFilePath : Path
  uiFileSize : Nat
  uiReceivedSize : Nat
  uiAcceptedSize : Nat
  uiNextFrameId : Nat
  uiRunningCRC : UInt16
  uiCRC : UInt16
  bFileOpen : Bool
  stTFileData : Path
  deriving DecidableEq

/-! ## §5. The file system. -/

/-- The content of every file. -/
abbrev Files := Path → Option (List UInt8)

/-- The results of the calls made in one step: whether a wait gives up, and
what the file system reports.  `listed` tells whether the file catalog knows
the path, `wreck` is what a failing write leaves of a file. -/
structure Env where
  timeOut : Bool
  fileLock : Bool
  listed : Bool
  catalogFull : Bool
  directory : Int
  stat : Int
  unlink : Int
  open_ : Int
  write : Int
  sync : Int
  close : Int
  refresh : Int
  wreck : Option (List UInt8)

/-- A file system without faults, whose writes are of `n` bytes. -/
def Env.healthy (n : Int) : Env :=
  { timeOut := false, fileLock := true, listed := true, catalogFull := false, directory := 0
    stat := 0, unlink := 0, open_ := 0, write := n, sync := 0, close := 0, refresh := 0
    wreck := none }

/-- `fs_stat` of a file. -/
def fsStat (env : Env) (path : Path) (files : Files) : Int :=
  if env.stat ≠ 0 then env.stat else if (files path).isSome then 0 else -ENOENT

/-- `iDelete_FileInternal`: the result and the files. -/
def iDeleteFileInternal (env : Env) (pcaFilePath : Path) (files : Files) : Int × Files :=
  if !env.listed then (-ENOENT, files)
  else if !env.fileLock then (- EIO, files)
  else if fsStat env pcaFilePath files ≠ 0 then (fsStat env pcaFilePath files, files)
  else if env.unlink ≠ 0 then (env.unlink, files)
  else (env.refresh, Function.update files pcaFilePath none)

/-- `iDelete_File`; `bActive` is `bIsBulkTransferActive()`. -/
def iDeleteFile (env : Env) (bActive : Bool) (pcaFilePath : Path) (files : Files) : Int × Files :=
  if bActive then (-EBUSY, files) else iDeleteFileInternal env pcaFilePath files

/-- `iCreate_File`; `bActive` is `bIsBulkTransferActive()`.  The directory check
has set the flag `bisAvailable`, so a failing `fs_stat` counts as an existing
file as well. -/
def iCreateFile (env : Env) (bActive : Bool) (pcafilePath pcafileName : Path) (files : Files) :
    Int × Files :=
  if bActive then (-EBUSY, files)
  else
    match bBuildValidateFullPathName pcafilePath pcafileName with
    | none => (-EINVAL, files)
    | some caFullPath =>
        if env.directory ≠ 0 then (env.directory, files)
        else if fsStat env caFullPath files ≠ -ENOENT then (-EEXIST, files)
        else if !env.fileLock then (-EAGAIN, files)
        else if env.catalogFull then (-ENOSPC, files)
        else if env.open_ < 0 then (env.open_, files)
        else if env.open_ = 0 ∧ env.close < 0 then
          (env.close, Function.update files caFullPath (some []))
        else (0, Function.update files caFullPath (some []))

/-- `fs_open` of an existing file for writing, truncated. -/
def fsOpenTrunc (env : Env) (path : Path) (files : Files) : Int × Files :=
  if env.open_ < 0 then (env.open_, files)
  else if (files path).isNone then (-ENOENT, files)
  else (env.open_, Function.update files path (some []))

/-- `fs_write` at the end of a file: a result `n` appends the first `n`
bytes, an error leaves the file as it happens to be. -/
def fsWrite (env : Env) (path : Path) (data : List UInt8) (files : Files) : Int × Files :=
  if env.write < 0 then (env.write, Function.update files path env.wreck)
  else (env.write,
    Function.update files path ((files path).map fun c => c ++ data.take env.write.toNat))

end WallController.LittleFs
