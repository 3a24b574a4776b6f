/-
  WallController.LittleFs.Volume
  ────────────────────────────────
  **PATHS, AND THE VOLUME UNDER THE MOUNT POINT.**

  The file system calls that the controller makes.  A path is resolved name by
  name, where repeated slashes count as one.  No node is named `.` or `..`: each
  loop over a directory skips these entries of a listing, and the controller
  refuses them in a path.

  A call returns zero or a negative code.  It fails with the code `fault` if
  that is negative; otherwise it does what the file system documents.
-/
import WallController.LittleFs.Types
import WallController.Lib.FileTree
import Mathlib.Data.List.Induction

namespace WallController.LittleFs

open WallController.Lib

/-! ## §1. Names and paths. -/

def slash : UInt8 := 0x2F

/-- The name of a file or a directory. -/
abbrev Name := { w : Path // w ≠ [] ∧ slash ∉ w ∧ w ≠ ascii "." ∧ w ≠ ascii ".." }

def Name.of (w : Path) : Option Name :=
  if h : w ≠ [] ∧ slash ∉ w ∧ w ≠ ascii "." ∧ w ≠ ascii ".." then some ⟨w, h⟩ else none

/-- The words between the slashes. -/
def splitSlash : Path → List Path
  | [] => [[]]
  | c :: cs =>
      if c = slash then [] :: splitSlash cs
      else
        match splitSlash cs with
        | [] => [[c]]
        | w :: ws => (c :: w) :: ws

/-- The node that a path below the mount point leads to. -/
def components (path : Path) : List Name :=
  (splitSlash (path.drop EXT_LITTLEFS_MOUNT_POINT.length)).filterMap Name.of

/-- The path of a node below the one of `path`. -/
def extendPath (path : Path) (n : List Name) : Path :=
  path ++ n.flatMap fun name => slash :: name.val

/-- The path of a node without repeated slashes. -/
def render (n : List Name) : Path := extendPath EXT_LITTLEFS_MOUNT_POINT n

/-- `"%s%s%s"` of a directory, the separator it needs and a name. -/
def childPath (dir name : Path) : Path :=
  dir ++ (if (ascii "/").isSuffixOf dir then [] else ascii "/") ++ name

theorem Name.of_val (name : Name) : Name.of name.val = some name := dif_pos name.2

theorem splitSlash_name {w : Path} (hw : slash ∉ w) : splitSlash w = [w] := by
  induction w with
  | nil => rfl
  | cons c cs ih =>
      obtain ⟨hc, hcs⟩ := not_or.mp fun h => hw (List.mem_cons.mpr h)
      rw [splitSlash, if_neg (Ne.symm hc), ih hcs]

theorem splitSlash_ne_nil (w : Path) : splitSlash w ≠ [] := by
  cases w with
  | nil => simp [splitSlash]
  | cons c cs =>
      unfold splitSlash
      split
      · simp
      · split <;> simp

theorem splitSlash_append (w rest : Path) :
    splitSlash (w ++ slash :: rest) = splitSlash w ++ splitSlash rest := by
  induction w with
  | nil =>
      have hslash : splitSlash (slash :: rest) = [] :: splitSlash rest := by
        rw [splitSlash, if_pos rfl]
      exact hslash
  | cons c cs ih =>
      rw [List.cons_append, splitSlash, splitSlash, ih]
      by_cases hc : c = slash
      · rw [if_pos hc, if_pos hc, List.cons_append]
      · rw [if_neg hc, if_neg hc]
        cases hcs : splitSlash cs with
        | nil => exact absurd hcs (splitSlash_ne_nil cs)
        | cons w ws => rfl

/-- A name below a path. -/
theorem components_append {path : Path} (hlen : EXT_LITTLEFS_MOUNT_POINT.length ≤ path.length)
    (name : Name) : components (path ++ slash :: name.val) = components path ++ [name] := by
  unfold components
  rw [List.drop_append_of_le_length hlen, splitSlash_append, List.filterMap_append,
    splitSlash_name name.2.2.1, List.filterMap_cons, Name.of_val]
  rfl

theorem length_extendPath (path : Path) (n : List Name) :
    path.length ≤ (extendPath path n).length := by
  unfold extendPath
  rw [List.length_append]
  exact Nat.le_add_right _ _

theorem extendPath_append (path : Path) (n : List Name) (name : Name) :
    extendPath path (n ++ [name]) = extendPath path n ++ slash :: name.val := by
  simp [extendPath, List.append_assoc]

/-- A node that is written down is read back. -/
theorem components_extendPath {path : Path}
    (hlen : EXT_LITTLEFS_MOUNT_POINT.length ≤ path.length) (n : List Name) :
    components (extendPath path n) = components path ++ n := by
  induction n using List.reverseRecOn with
  | nil => rw [extendPath, List.flatMap_nil, List.append_nil, List.append_nil]
  | append_singleton n name ih =>
      rw [extendPath_append, components_append (Nat.le_trans hlen (length_extendPath path n)), ih,
        List.append_assoc]

/-- The path of a node does not end in a slash. -/
theorem not_isSuffixOf_extendPath {path : Path} (hpath : path.getLast? ≠ some slash)
    (n : List Name) : (ascii "/").isSuffixOf (extendPath path n) = false := by
  rw [← Bool.not_eq_true, List.isSuffixOf_iff_suffix]
  rintro ⟨front, hfront⟩
  have hlast : (extendPath path n).getLast? = some slash := by
    rw [← hfront]
    exact List.getLast?_concat
  rcases List.eq_nil_or_concat n with rfl | ⟨n, name, rfl⟩
  · rw [extendPath, List.flatMap_nil, List.append_nil] at hlast
    exact hpath hlast
  · rw [List.concat_eq_append, extendPath_append] at hlast
    obtain ⟨c, hc⟩ := List.getLast?_isSome.mpr name.2.1 |> Option.isSome_iff_exists.mp
    rw [List.getLast?_append, List.getLast?_cons, hc] at hlast
    have hslash : c = slash := by simpa using hlast
    have hmem := List.mem_of_getLast? hc
    rw [hslash] at hmem
    exact name.2.2.1 hmem

theorem childPath_extendPath {path : Path} (hpath : path.getLast? ≠ some slash) (n : List Name)
    (name : Name) : childPath (extendPath path n) name.val = extendPath path (n ++ [name]) := by
  rw [extendPath_append]
  unfold childPath
  rw [not_isSuffixOf_extendPath hpath, List.append_assoc]
  rfl

theorem components_render (n : List Name) : components (render n) = n :=
  components_extendPath (Nat.le_refl _) n

theorem render_injective : Function.Injective render := by
  intro n n' h
  rw [← components_render n, h, components_render]

theorem childPath_render (n : List Name) (name : Name) :
    childPath (render n) name.val = render (n ++ [name]) :=
  childPath_extendPath (by decide) n name

/-! ## §2. The file system calls. -/

def ENOTDIR : Int := 20
def EISDIR : Int := 21
def ENOTEMPTY : Int := 90
def ENAMETOOLONG : Int := 91

/-- The files and directories, and what the files contain. -/
structure Volume extends FileTree Name where
  content : List Name → List UInt8

namespace Volume

variable (v : Volume)

/-- The error for a node that does not exist. -/
def missing (n : List Name) : Int :=
  if n.inits.any fun m => v.kind m = some .file then -ENOTDIR else -ENOENT

/-- `fs_stat`. -/
def fsStat (fault : Int) (path : Path) : Except Int EntryType :=
  if fault < 0 then .error fault
  else
    match v.kind (components path) with
    | some k => .ok k
    | none => .error (v.missing (components path))

/-- A new node. -/
def fsAdd (n : List Name) (k : EntryType) : Except Int Volume :=
  if hnew : v.kind n = none then
    if hdir : v.kind n.dropLast = some .dir then
      .ok ⟨v.add n k hnew hdir, Function.update v.content n []⟩
    else .error (v.missing n)
  else .error (-EEXIST)

/-- `fs_mkdir`. -/
def fsMkdir (fault : Int) (path : Path) : Except Int Volume :=
  if fault < 0 then .error fault else v.fsAdd (components path) .dir

/-- `fs_open` with `FS_O_CREATE | FS_O_WRITE`. -/
def fsOpenCreate (fault : Int) (path : Path) : Except Int Volume :=
  if fault < 0 then .error fault
  else
    match v.kind (components path) with
    | some .file => .ok v
    | some .dir => .error (-EISDIR)
    | none => v.fsAdd (components path) .file

/-- `fs_unlink`. -/
def fsUnlink (fault : Int) (path : Path) : Except Int Volume :=
  if fault < 0 then .error fault
  else
    match v.kind (components path) with
    | none => .error (v.missing (components path))
    | some _ =>
      if components path = [] then .error (-EINVAL)
      else if hempty : v.children (components path) = [] then
        .ok ⟨v.remove (components path) hempty, v.content⟩
      else .error (-ENOTEMPTY)

/-- `fs_opendir`, and the entries that `fs_readdir` returns then. -/
def fsOpendir (fault : Int) (path : Path) : Except Int (List (Name × EntryType)) :=
  if fault < 0 then .error fault
  else
    match v.kind (components path) with
    | some .dir => .ok (v.children (components path))
    | some .file => .error (-ENOTDIR)
    | none => .error (v.missing (components path))

/-- `fs_open` with `FS_O_WRITE | FS_O_TRUNC`. -/
def fsOpenTrunc (fault : Int) (path : Path) : Except Int Volume :=
  if fault < 0 then .error fault
  else
    match v.kind (components path) with
    | some .file => .ok { v with content := Function.update v.content (components path) [] }
    | some .dir => .error (-EISDIR)
    | none => .error (v.missing (components path))

/-- `fs_write` at the end of a file: a result `n` appends the first `n` bytes, an
error leaves what `wreck` says. -/
def fsWrite (iResult : Int) (wreck : List UInt8) (path : Path) (data : List UInt8) : Int × Volume :=
  let n := components path
  if iResult < 0 then (iResult, { v with content := Function.update v.content n wreck })
  else
    (iResult,
      { v with content := Function.update v.content n (v.content n ++ data.take iResult.toNat) })

/-- `fs_sync` and `fs_close` of a file that was written: an error leaves what `wreck`
says. -/
def fsSettle (fault : Int) (wreck : List UInt8) (path : Path) : Volume :=
  if fault < 0 then { v with content := Function.update v.content (components path) wreck } else v

end Volume

end WallController.LittleFs
