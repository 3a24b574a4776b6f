/-
  WallController.LittleFs.FileWrite
  ────────────────────────────────
  **WHAT A FILE WRITE LEAVES.**

  `iWrite_ToFileBin` truncates the file, writes it chunk by chunk, and then
  syncs, closes and measures it.  The result and the contents afterwards are
  given here as a function of the results of its calls.

  Main results:
    * `writeChunks_end`: the three ends of the chunks.
    * `iWriteToFileBin_refused`, `iWriteToFileBin_opened`: the result and the
      contents, before and after the truncation.
    * `iWriteToFileBin_keeps_iff`: when a failing write leaves the old contents.
-/
import WallController.LittleFs.CatalogWalk

namespace WallController.LittleFs

open WallController.Lib FileTree

/-! ## §1. The chunks. -/

/-- The result of the first write that takes nothing, if one comes before `uiLen` bytes
have been taken. -/
def DiskEnv.firstStop (env : DiskEnv) (uiMaxWriteSize : Nat) : Nat → Nat → Nat → Option Int
  | 0, _, _ => none
  | fuel + 1, i, uiLen =>
      if uiLen = 0 then none
      else if env.write i ≤ 0 then some (env.write i)
      else
        env.firstStop uiMaxWriteSize fuel (i + 1)
          (uiLen - min (env.write i).toNat uiMaxWriteSize)

/-- The end of the chunks: all bytes are written, a write fails, or a write takes
nothing. -/
inductive ChunksEnd (env : DiskEnv) (old data : List UInt8) :
    Option Int → Int → List UInt8 → Prop
  | all : ChunksEnd env old data none 0 (old ++ data)
  | failed {iResult : Int} (h : iResult < 0) :
      ChunksEnd env old data (some iResult) iResult env.wreck
  | short {k : Nat} (h : k < data.length) :
      ChunksEnd env old data (some 0) (- EIO) (old ++ data.take k)

/-- Only the contents of one file change. -/
structure WritesTo (n : List Name) (v v' : Volume) : Prop where
  tree : v'.toFileTree = v.toFileTree
  others : ∀ m, m ≠ n → v'.content m = v.content m

variable {env : DiskEnv} {v v' : Volume} {n : List Name} {path : Path} {data : List UInt8}
  {uiMaxWriteSize fuel i : Nat}

theorem WritesTo.refl : WritesTo n v v := ⟨rfl, fun _ _ => rfl⟩

theorem WritesTo.trans {v'' : Volume} (h : WritesTo n v v') (h' : WritesTo n v' v'') :
    WritesTo n v v'' :=
  ⟨h'.tree.trans h.tree, fun m hm => (h'.others m hm).trans (h.others m hm)⟩

theorem writesTo_update (bytes : List UInt8) :
    WritesTo n v { v with content := Function.update v.content n bytes } :=
  ⟨rfl, fun _ hm => Function.update_of_ne hm _ _⟩

theorem fsWrite_fst (iResult : Int) (wreck : List UInt8) :
    (v.fsWrite iResult wreck path data).1 = iResult := by
  unfold Volume.fsWrite
  dsimp only
  split <;> rfl

theorem writesTo_fsWrite (iResult : Int) :
    WritesTo (components path) v (v.fsWrite iResult env.wreck path data).2 := by
  unfold Volume.fsWrite
  dsimp only
  split
  · exact writesTo_update _
  · exact writesTo_update _

theorem writesTo_fsSettle (fault : Int) :
    WritesTo (components path) v (v.fsSettle fault env.wreck path) := by
  unfold Volume.fsSettle
  split
  · exact writesTo_update _
  · exact WritesTo.refl

theorem fsOpenTrunc_eq_ok {fault : Int} : v.fsOpenTrunc fault path = .ok v'
    ↔ 0 ≤ fault ∧ components path ∈ v.files
      ∧ v' = { v with content := Function.update v.content (components path) [] } := by
  unfold Volume.fsOpenTrunc
  rw [← kind_file_iff]
  by_cases hfault : fault < 0
  · rw [if_pos hfault]
    constructor
    · intro h
      cases h
    · intro h
      omega
  · rw [if_neg hfault]
    cases hkind : v.kind (components path) with
    | none => simp
    | some k =>
        cases k with
        | dir => simp
        | file =>
            constructor
            · intro h
              cases h
              exact ⟨Int.not_lt.mp hfault, rfl, rfl⟩
            · rintro ⟨-, -, rfl⟩
              rfl

theorem fsOpenTrunc_error {fault iResult : Int} (h : v.fsOpenTrunc fault path = .error iResult) :
    iResult < 0 := by
  unfold Volume.fsOpenTrunc at h
  split at h
  · cases h
    assumption
  split at h
  · cases h
  · cases h
    decide
  · cases h
    exact missing_neg _

theorem fsSettle_content (fault : Int) (wreck : List UInt8) :
    (v.fsSettle fault wreck path).content (components path)
      = if fault < 0 then wreck else v.content (components path) := by
  unfold Volume.fsSettle
  split
  · exact Function.update_self _ _ _
  · rfl

theorem chunksEnd_nil (old : List UInt8) : ChunksEnd env old [] none 0 old := by
  have hall : ChunksEnd env old [] none 0 (old ++ []) := .all
  rwa [List.append_nil] at hall

/-- The bytes taken by a first write come before those of the rest. -/
theorem ChunksEnd.before {old bytes : List UInt8} {k : Nat} {stop : Option Int} {iResult : Int}
    (hk : k ≤ data.length)
    (h : ChunksEnd env (old ++ data.take k) (data.drop k) stop iResult bytes) :
    ChunksEnd env old data stop iResult bytes := by
  cases h with
  | all =>
      rw [List.append_assoc, List.take_append_drop]
      exact .all
  | failed hneg => exact .failed hneg
  | @short k' hk' =>
      rw [List.length_drop] at hk'
      rw [List.append_assoc, ← List.take_add]
      exact .short (by omega)

/-- **The chunks** end in one of three ways. -/
theorem writeChunks_end (hmax : 0 < uiMaxWriteSize) (hfuel : data.length ≤ fuel) :
    WritesTo (components path) v (Disk.writeChunks env path uiMaxWriteSize fuel i data v).2
      ∧ ChunksEnd env (v.content (components path)) data
        (env.firstStop uiMaxWriteSize fuel i data.length)
        (Disk.writeChunks env path uiMaxWriteSize fuel i data v).1
        ((Disk.writeChunks env path uiMaxWriteSize fuel i data v).2.content
          (components path)) := by
  -- induction on the fuel: each turn writes at least one byte or ends the loop
  induction fuel generalizing i data v with
  | zero =>
      obtain rfl : data = [] := List.eq_nil_of_length_eq_zero (Nat.le_zero.mp hfuel)
      exact ⟨WritesTo.refl, chunksEnd_nil _⟩
  | succ fuel ih =>
      unfold Disk.writeChunks DiskEnv.firstStop
      by_cases hdata : data = []
      · subst hdata
        exact ⟨WritesTo.refl, chunksEnd_nil _⟩
      · have hlen : data.length ≠ 0 := fun h => hdata (List.eq_nil_of_length_eq_zero h)
        rw [if_neg hdata, if_neg hlen]
        dsimp only
        rw [List.length_take]
        by_cases hstop : env.write i ≤ 0
        · -- the file system takes nothing
          have hmin : min (env.write i) ((min uiMaxWriteSize data.length : Nat) : Int)
              = env.write i := by omega
          rw [hmin, fsWrite_fst, if_pos hstop, if_pos hstop]
          refine ⟨writesTo_fsWrite _, ?_⟩
          unfold Volume.fsWrite
          dsimp only
          by_cases hzero : env.write i = 0
          · rw [hzero, if_pos rfl, if_neg (by decide)]
            have hshort : ChunksEnd env (v.content (components path)) data (some 0) (- EIO)
                (v.content (components path) ++ data.take 0) :=
              .short (Nat.pos_of_ne_zero hlen)
            simpa using hshort
          · have hneg : env.write i < 0 := by omega
            rw [if_neg hzero, if_pos hneg]
            simpa using ChunksEnd.failed hneg
        · -- it takes some of the chunk, and the rest follows
          have hk : ∃ k : Nat, min (env.write i) ((min uiMaxWriteSize data.length : Nat) : Int) = k
              ∧ 0 < k ∧ k ≤ data.length ∧ k ≤ uiMaxWriteSize
              ∧ data.length - k
                = data.length - min (env.write i).toNat uiMaxWriteSize :=
            ⟨min (env.write i).toNat (min uiMaxWriteSize data.length), by omega, by omega,
              by omega, by omega, by omega⟩
          obtain ⟨k, hmin, hpos, hle, hroom, hrest⟩ := hk
          rw [hmin, fsWrite_fst, if_neg hstop, if_neg (by omega), ← hrest, ← List.length_drop,
            Int.toNat_natCast]
          have hdrop : (data.drop k).length ≤ fuel := by
            rw [List.length_drop]
            omega
          -- the file grows by the bytes the file system has taken
          have hwrite : (v.fsWrite k env.wreck path (data.take uiMaxWriteSize)).2.content
              (components path) = v.content (components path) ++ data.take k := by
            unfold Volume.fsWrite
            dsimp only
            rw [if_neg (by omega), Int.toNat_natCast, List.take_take, Nat.min_eq_left hroom]
            exact Function.update_self _ _ _
          obtain ⟨hframe, hend⟩ := ih (i := i + 1)
            (v := (v.fsWrite k env.wreck path (data.take uiMaxWriteSize)).2) hdrop
          rw [hwrite] at hend
          exact ⟨(writesTo_fsWrite _).trans hframe, hend.before hle⟩

/-! ## §2. The whole write. -/

/-- The write reaches the truncation of the file. -/
structure DiskEnv.Opens (env : DiskEnv) (s : Disk) (bActive : Bool) (path : Path) : Prop where
  idle : bActive = false
  lock : env.fileLock = true
  listed : (s.pstGetFileByFilePath path).isSome
  opened : 0 ≤ env.open_
  file : components path ∈ s.volume.files

/-- No call after the truncation fails. -/
structure DiskEnv.Completes (env : DiskEnv) (uiMaxWriteSize uiLen : Nat) : Prop where
  writes : env.firstStop uiMaxWriteSize uiLen 0 uiLen = none
  sync : 0 ≤ env.sync
  close : 0 ≤ env.close
  stat : 0 ≤ env.stat

/-- The contents after the truncation: a failing call on the open file leaves what the
file system makes of it, and a write that takes nothing what was written before. -/
def DiskEnv.Leaves (env : DiskEnv) (uiMaxWriteSize : Nat) (data bytes : List UInt8) : Prop :=
  match env.firstStop uiMaxWriteSize data.length 0 data.length with
  | none => bytes = if env.sync < 0 ∨ env.close < 0 then env.wreck else data
  | some iResult =>
      if iResult < 0 ∨ env.close < 0 then bytes = env.wreck
      else ∃ k < data.length, bytes = data.take k

variable {s : Disk} {bActive : Bool}

theorem get_caFilePath {f : FileInfo} (h : s.pstGetFileByFilePath path = some f) :
    f.caFilePath = path := by
  unfold Disk.pstGetFileByFilePath at h
  simpa using List.find?_some h

theorem isSome_get_iff : (s.pstGetFileByFilePath path).isSome
    ↔ path ∈ s.stTFileCatalog.map FileInfo.caFilePath := by
  unfold Disk.pstGetFileByFilePath
  rw [List.find?_isSome, List.mem_map]
  simp

theorem setFileSize_paths (path : Path) (uiFileSize : Nat) (files : List FileInfo) :
    (Disk.setFileSize path uiFileSize files).map FileInfo.caFilePath
      = files.map FileInfo.caFilePath := by
  induction files with
  | nil => rfl
  | cons f fs ih =>
      unfold Disk.setFileSize
      split
      · rfl
      · rw [List.map_cons, List.map_cons, ih]

/-- A write that does not reach the truncation fails and changes nothing. -/
theorem iWriteToFileBin_refused (hdata : data ≠ []) (hmax : 0 < uiMaxWriteSize)
    (h : ¬env.Opens s bActive path) :
    (s.iWriteToFileBin env bActive path data uiMaxWriteSize).1 ≠ 0
      ∧ (s.iWriteToFileBin env bActive path data uiMaxWriteSize).2 = s := by
  have hargs : ¬(data = [] ∨ uiMaxWriteSize = 0) := by
    rintro (hnil | hzero)
    · exact hdata hnil
    · omega
  unfold Disk.iWriteToFileBin
  rw [if_neg hargs]
  split
  · exact ⟨by show -EBUSY ≠ 0; decide, rfl⟩
  split
  · exact ⟨by show -EBUSY ≠ 0; decide, rfl⟩
  rename_i hidle hlock
  cases hget : s.pstGetFileByFilePath path with
  | none => exact ⟨by show -ENOENT ≠ 0; decide, rfl⟩
  | some f =>
      obtain rfl := get_caFilePath hget
      dsimp only
      cases hopen : s.volume.fsOpenTrunc env.open_ f.caFilePath with
      | error iResult =>
          have hneg := fsOpenTrunc_error hopen
          exact ⟨Int.ne_of_lt hneg, rfl⟩
      | ok v' =>
          obtain ⟨hfault, hfile, -⟩ := fsOpenTrunc_eq_ok.mp hopen
          exact absurd ⟨by simpa using hidle, by simpa using hlock, by rw [hget]; rfl, hfault,
            hfile⟩ h

/-- The result and the contents of a write that reaches the truncation. -/
theorem iWriteToFileBin_opened (hdata : data ≠ []) (hmax : 0 < uiMaxWriteSize)
    (h : env.Opens s bActive path) :
    ((s.iWriteToFileBin env bActive path data uiMaxWriteSize).1 = 0
        ↔ env.Completes uiMaxWriteSize data.length)
      ∧ env.Leaves uiMaxWriteSize data
        ((s.iWriteToFileBin env bActive path data uiMaxWriteSize).2.volume.content
          (components path))
      ∧ WritesTo (components path) s.volume
        (s.iWriteToFileBin env bActive path data uiMaxWriteSize).2.volume := by
  have hargs : ¬(data = [] ∨ uiMaxWriteSize = 0) := by
    rintro (hnil | hzero)
    · exact hdata hnil
    · omega
  obtain ⟨f, hget⟩ := Option.isSome_iff_exists.mp h.listed
  obtain rfl := get_caFilePath hget
  have hopen : s.volume.fsOpenTrunc env.open_ f.caFilePath = .ok { s.volume with
      content := Function.update s.volume.content (components f.caFilePath) [] } :=
    fsOpenTrunc_eq_ok.mpr ⟨h.opened, h.file, rfl⟩
  unfold Disk.iWriteToFileBin
  rw [if_neg hargs, if_neg (by rw [h.idle]; decide), if_neg (by rw [h.lock]; decide), hget]
  dsimp only
  rw [hopen]
  dsimp only
  -- from the truncation on the file is empty, and only its content is written
  generalize hv : ({ s.volume with
    content := Function.update s.volume.content (components f.caFilePath) [] } : Volume) = v
  have hframe : WritesTo (components f.caFilePath) s.volume v := hv ▸ writesTo_update _
  have hnil : v.content (components f.caFilePath) = [] := by
    rw [← hv]
    exact Function.update_self _ _ _
  have hwrites : ChunksEnd env (v.content (components f.caFilePath)) data
      (env.firstStop uiMaxWriteSize data.length 0 data.length) _ _ ∧ _ :=
    (writeChunks_end hmax (Nat.le_refl data.length)).symm
  obtain ⟨hend, hchunks⟩ := hwrites
  rw [hnil] at hend
  unfold DiskEnv.Leaves
  have hcompletes : env.Completes uiMaxWriteSize data.length →
      env.firstStop uiMaxWriteSize data.length 0 data.length = none := fun hall => hall.writes
  generalize hstop : env.firstStop uiMaxWriteSize data.length 0 data.length = stop
    at hend hcompletes ⊢
  generalize Disk.writeChunks env f.caFilePath uiMaxWriteSize data.length 0 data v = written
    at hend hchunks ⊢
  obtain ⟨iResult, v'⟩ := written
  dsimp only at hend hchunks ⊢
  generalize hbytes : v'.content (components f.caFilePath) = bytes at hend
  -- the loop has ended in one of three ways
  cases hend with
  | all =>
      rw [if_neg (by decide)]
      generalize hsynced : v'.fsSettle env.sync env.wreck f.caFilePath = vs
      generalize hclosed : vs.fsSettle env.close env.wreck f.caFilePath = vc
      have hwrites : WritesTo (components f.caFilePath) s.volume vc := by
        rw [← hclosed, ← hsynced]
        exact ((hframe.trans hchunks).trans (writesTo_fsSettle _)).trans (writesTo_fsSettle _)
      have hfile : vc.kind (components f.caFilePath) = some .file := by
        rw [hwrites.tree]
        exact kind_file_iff.mpr h.file
      -- an error of sync or close leaves the file in an unknown state
      have hcontent : vc.content (components f.caFilePath)
          = if env.sync < 0 ∨ env.close < 0 then env.wreck else data := by
        rw [← hclosed, fsSettle_content, ← hsynced, fsSettle_content, hbytes, List.nil_append]
        by_cases hclose : env.close < 0
        · rw [if_pos hclose, if_pos (Or.inr hclose)]
        · simp only [hclose, or_false, if_false]
      unfold Volume.fsStat
      by_cases hstat : env.stat < 0
      · -- the write has succeeded, and its size cannot be read
        rw [if_pos hstat]
        refine ⟨⟨fun hzero => ?_, fun hall => absurd hall.stat (by omega)⟩, hcontent, hwrites⟩
        dsimp only at hzero
        split at hzero <;> omega
      · rw [if_neg hstat, hfile]
        refine ⟨⟨fun hzero => ?_, fun hall => ?_⟩, hcontent, hwrites⟩
        · dsimp only at hzero
          have hcalls : 0 ≤ env.sync ∧ 0 ≤ env.close := by
            split at hzero
            · omega
            · split at hzero <;> omega
          exact ⟨hstop, hcalls.1, hcalls.2, by omega⟩
        · have hsync := hall.sync
          have hclose := hall.close
          rw [if_neg (by omega), if_neg (by omega)]
  | failed hneg =>
      rw [if_pos hneg]
      refine ⟨⟨fun hzero => ?_, fun hall => nomatch hcompletes hall⟩, ?_,
        (hframe.trans hchunks).trans (writesTo_fsSettle _)⟩
      · exact absurd hzero (Int.ne_of_lt hneg)
      · dsimp only
        rw [if_pos (Or.inl hneg), fsSettle_content, hbytes, ite_self]
  | short hk =>
      rw [if_pos (by decide)]
      refine ⟨⟨fun hzero => ?_, fun hall => nomatch hcompletes hall⟩, ?_,
        (hframe.trans hchunks).trans (writesTo_fsSettle _)⟩
      · have hcode : - EIO = 0 := hzero
        -- a write of no bytes is the error `EIO`
        exact absurd hcode (by decide)
      · dsimp only
        rw [fsSettle_content, hbytes]
        by_cases hclose : env.close < 0
        · rw [if_pos (Or.inr hclose), if_pos hclose]
        · rw [if_neg (by omega), if_neg hclose]
          exact ⟨_, hk, rfl⟩

/-- The write succeeds where it reaches the truncation and completes. -/
theorem iWriteToFileBin_eq_zero (hdata : data ≠ []) (hmax : 0 < uiMaxWriteSize) :
    (s.iWriteToFileBin env bActive path data uiMaxWriteSize).1 = 0
      ↔ env.Opens s bActive path ∧ env.Completes uiMaxWriteSize data.length := by
  by_cases hopens : env.Opens s bActive path
  · rw [(iWriteToFileBin_opened hdata hmax hopens).1]
    exact (and_iff_right hopens).symm
  · have hrefused : (s.iWriteToFileBin env bActive path data uiMaxWriteSize).1 ≠ 0 :=
      (iWriteToFileBin_refused hdata hmax hopens).1
    exact ⟨fun h => absurd h hrefused, fun h => absurd h.1 hopens⟩

/-- A write that succeeds has replaced the contents. -/
theorem iWriteToFileBin_content (hdata : data ≠ []) (hmax : 0 < uiMaxWriteSize)
    (h : (s.iWriteToFileBin env bActive path data uiMaxWriteSize).1 = 0) :
    (s.iWriteToFileBin env bActive path data uiMaxWriteSize).2.volume.content (components path)
      = data := by
  obtain ⟨hopens, hall⟩ := (iWriteToFileBin_eq_zero hdata hmax).mp h
  have hleaves := (iWriteToFileBin_opened hdata hmax hopens).2.1
  have hsync := hall.sync
  have hclose := hall.close
  unfold DiskEnv.Leaves at hleaves
  rw [hall.writes] at hleaves
  rwa [if_neg (by omega)] at hleaves

/-- A write changes the contents of its file only, and no path of the catalogue. -/
theorem iWriteToFileBin_frame :
    WritesTo (components path) s.volume
        (s.iWriteToFileBin env bActive path data uiMaxWriteSize).2.volume
      ∧ (s.iWriteToFileBin env bActive path data uiMaxWriteSize).2.stTFileCatalog.map
          FileInfo.caFilePath = s.stTFileCatalog.map FileInfo.caFilePath := by
  by_cases hargs : data = [] ∨ uiMaxWriteSize = 0
  · unfold Disk.iWriteToFileBin
    rw [if_pos hargs]
    exact ⟨WritesTo.refl, rfl⟩
  obtain ⟨hdata, hzero⟩ := not_or.mp hargs
  constructor
  · by_cases hopens : env.Opens s bActive path
    · exact (iWriteToFileBin_opened hdata (Nat.pos_of_ne_zero hzero) hopens).2.2
    · rw [(iWriteToFileBin_refused hdata (Nat.pos_of_ne_zero hzero) hopens).2]
      exact WritesTo.refl
  · unfold Disk.iWriteToFileBin
    rw [if_neg hargs]
    split
    · rfl
    split
    · rfl
    split
    · rfl
    split
    · rfl
    dsimp only
    split
    · rfl
    split
    · rfl
    · exact setFileSize_paths _ _ _

/-- Whether a write reaches the truncation depends on the catalogue's paths and on the
files. -/
theorem opens_congr {s' : Disk}
    (hpaths : s'.stTFileCatalog.map FileInfo.caFilePath = s.stTFileCatalog.map FileInfo.caFilePath)
    (htree : s'.volume.toFileTree = s.volume.toFileTree) :
    env.Opens s' bActive path ↔ env.Opens s bActive path := by
  have hlisted : (s'.pstGetFileByFilePath path).isSome ↔ (s.pstGetFileByFilePath path).isSome := by
    rw [isSome_get_iff, isSome_get_iff, hpaths]
  constructor
  · intro h
    exact ⟨h.idle, h.lock, hlisted.mp h.listed, h.opened, htree ▸ h.file⟩
  · intro h
    exact ⟨h.idle, h.lock, hlisted.mpr h.listed, h.opened, htree ▸ h.file⟩

/-! ## §3. A failing write and the old contents. -/

/-- A call after the truncation fails, and the contents are the old ones again. -/
def DiskEnv.Restores (env : DiskEnv) (uiMaxWriteSize : Nat) (data old : List UInt8) : Prop :=
  match env.firstStop uiMaxWriteSize data.length 0 data.length with
  | none => if env.sync < 0 ∨ env.close < 0 then env.wreck = old else data = old
  | some iResult => (iResult < 0 ∨ env.close < 0) ∧ env.wreck = old

/-- The write is refused before the truncation, completes, or fails and restores the
contents. -/
def DiskEnv.Keeps (env : DiskEnv) (s : Disk) (bActive : Bool) (path : Path) (data : List UInt8)
    (uiMaxWriteSize : Nat) : Prop :=
  env.Opens s bActive path → env.Completes uiMaxWriteSize data.length
    ∨ env.Restores uiMaxWriteSize data (s.volume.content (components path))

theorem leaves_old_iff {old bytes : List UInt8} (hold : data.length ≤ old.length)
    (h : env.Leaves uiMaxWriteSize data bytes) :
    bytes = old ↔ env.Restores uiMaxWriteSize data old := by
  unfold DiskEnv.Leaves at h
  unfold DiskEnv.Restores
  generalize env.firstStop uiMaxWriteSize data.length 0 data.length = stop at h ⊢
  cases stop with
  | none =>
      dsimp only at h ⊢
      by_cases hfails : env.sync < 0 ∨ env.close < 0
      · rw [if_pos hfails] at h ⊢
        rw [h]
      · rw [if_neg hfails] at h ⊢
        rw [h]
  | some iResult =>
      dsimp only at h ⊢
      by_cases hfails : iResult < 0 ∨ env.close < 0
      · rw [if_pos hfails] at h
        rw [h]
        exact ⟨fun hwreck => ⟨hfails, hwreck⟩, fun hrestores => hrestores.2⟩
      · -- a part of the new contents is shorter than the old ones
        rw [if_neg hfails] at h
        obtain ⟨k, hk, rfl⟩ := h
        constructor
        · intro heq
          rw [← heq, List.length_take] at hold
          omega
        · exact fun hrestores => absurd hrestores.1 hfails

/-- **A failing write** leaves the old contents exactly where it keeps them. -/
theorem iWriteToFileBin_keeps_iff (hdata : data ≠ []) (hmax : 0 < uiMaxWriteSize)
    (hold : data.length ≤ (s.volume.content (components path)).length) :
    ((s.iWriteToFileBin env bActive path data uiMaxWriteSize).1 ≠ 0 →
        (s.iWriteToFileBin env bActive path data uiMaxWriteSize).2.volume.content
          (components path) = s.volume.content (components path))
      ↔ env.Keeps s bActive path data uiMaxWriteSize := by
  by_cases hopens : env.Opens s bActive path
  · obtain ⟨hzero, hleaves, -⟩ := iWriteToFileBin_opened hdata hmax hopens
    rw [leaves_old_iff hold hleaves, ne_eq, hzero]
    constructor
    · intro h _
      exact or_iff_not_imp_left.mpr h
    · exact fun h hfails => (h hopens).resolve_left hfails
  · constructor
    · exact fun _ h => absurd h hopens
    · intro _ _
      rw [(iWriteToFileBin_refused hdata hmax hopens).2]

end WallController.LittleFs
