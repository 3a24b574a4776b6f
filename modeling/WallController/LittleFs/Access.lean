/-
  WallController.LittleFs.Access
  ────────────────────────────────
  **THE OTHER FILE OPERATIONS BESIDE A BULK TRANSFER.**

  `iWrite_ToFileBin`, `iCreate_File`, `iDelete_File`, `bDelete_Directory` and
  `iRead_FromFileBin`, called by any number of other threads: each tests
  `bIsBulkTransferActive()` first, and accesses files later, inside
  `kMutex_FileAccess`.  The test and the lock section are two steps, and the
  bulk transfer may take any steps in between.

  `START` opens its target while the state is still idle and publishes
  `Receiving` later, under another mutex.  So a call that has passed its test
  is still under way when the transfer begins.

  Main results:
    * `transfer_exclusive`: if no call is under way when `START` opens its
      target, and none passes its test before `Receiving` is published, no
      other operation touches a file during a transfer, and a transfer that
      reports success has been undisturbed and is delivered.
    * `transfer_not_exclusive`: a write truncates a file during a transfer.
-/
import WallController.LittleFs.Lifecycle

namespace WallController.LittleFs

open WallController.Lib

/-! ## §1. The calls. -/

inductive AccessKind where
  | open_
  | truncate
  | create
  | read
  | unlink
  deriving DecidableEq, Repr

/-- What a call does to a file. -/
structure Access where
  kind : AccessKind
  path : Path
  deriving DecidableEq, Repr

/-- The calls of the other threads, with the arguments that pass their checks. -/
inductive FileCall where
  | iWriteToFileBin (pcaFilePath : Path) (puiDataBuff : List UInt8)
  | iCreateFile (pcafilePath pcafileName : Path)
  | iDeleteFile (pcaFilePath : Path)
  | bDeleteDirectory (pcaDirectoryPath : Path)
  | iReadFromFileBin (pcaFilePath : Path) (uiLength : Nat)
  deriving DecidableEq, Repr

/-- The lock section of a call: its accesses, and the files afterwards.  A
write that fails leaves `env.wreck`; `entries` are the files that a directory
walk reaches before it fails. -/
def FileCall.lockSection (env : Env) (entries : List Path) (c : FileCall) (files : Files) :
    List Access × Files :=
  if !env.fileLock then ([], files)
  else
    match c with
    | .iWriteToFileBin path data =>
        if !env.listed then ([], files)
        else if (fsOpenTrunc env path files).1 ≠ 0 then ([⟨.open_, path⟩], files)
        else
          ([⟨.open_, path⟩, ⟨.truncate, path⟩],
            Function.update files path (if env.write < 0 then env.wreck else some data))
    | .iCreateFile dir name =>
        match bBuildValidateFullPathName dir name with
        | none => ([], files)
        | some path =>
            if env.directory ≠ 0 ∨ fsStat env path files ≠ -ENOENT ∨ env.catalogFull then
              ([], files)
            else ([⟨.create, path⟩], (LittleFs.iCreateFile env false dir name files).2)
    | .iDeleteFile path =>
        if !env.listed ∨ fsStat env path files ≠ 0 then ([], files)
        else ([⟨.unlink, path⟩], (iDeleteFileInternal env path files).2)
    | .bDeleteDirectory dir =>
        if env.stat ≠ 0 then ([], files)
        else
          let inside := entries.filter fun p => (dir ++ ascii "/").isPrefixOf p
          (inside.map fun p => ⟨.unlink, p⟩,
            inside.foldl (fun fs p => Function.update fs p none) files)
    | .iReadFromFileBin path uiLength =>
        if fsStat env path files ≠ 0 ∨ (files path).map List.length ≠ some uiLength then ([], files)
        else ([⟨.open_, path⟩, ⟨.read, path⟩], files)

/-! ## §2. The system. -/

/-- The bulk transfer, the calls past their test, and the accesses of such
calls since the last `START` opened its target. -/
structure Shared where
  bulk : Bulk
  underWay : List FileCall
  since : List Access

inductive SharedAct where
  | bulk (a : Act)
  | test (c : FileCall)
  | access (i : Nat) (env : Env) (entries : List Path)

/-- At `fs_open` of the target. -/
def Uart.atOpen : Uart → Bool
  | .start _ .open_ => true
  | _ => false

/-- The target is open, and the state is still idle. -/
def Uart.unpublished : Uart → Bool
  | .start _ .setup | .start _ .publish => true
  | _ => false

def Shared.step (s : Shared) (a : SharedAct) : Option Shared :=
  match a with
  | .bulk a =>
      (s.bulk.step a).map fun bulk =>
        { s with
          bulk := bulk
          since := if s.bulk.uart.atOpen && bulk.uart.unpublished then [] else s.since }
  | .test c =>
      if s.bulk.bIsBulkTransferActive then some s
      else some { s with underWay := s.underWay ++ [c] }
  | .access i env entries =>
    match s.underWay[i]? with
    | none => none
    | some c =>
        let (accesses, files) := c.lockSection env entries s.bulk.files
        some
          { bulk := { s.bulk with files := files }
            underWay := s.underWay.eraseIdx i
            since := s.since ++ accesses }

def sharedSystem : TransSys Shared SharedAct where
  init s := ∃ files, s = { bulk := Bulk.boot files, underWay := [], since := [] }
  step s a s' := s.step a = some s'

/-- No call is under way when `START` opens its target, and none passes its test
between there and the publication. -/
def Undisturbed (s : Shared) (a : SharedAct) : Prop :=
  match a with
  | .bulk (.uart _) => s.bulk.uart.atOpen = true → s.underWay = []
  | .test _ => s.bulk.uart.unpublished = false
  | _ => True

instance (s : Shared) (a : SharedAct) : Decidable (Undisturbed s a) :=
  match a with
  | .bulk (.uart _) => inferInstanceAs (Decidable (_ → _))
  | .test _ => inferInstanceAs (Decidable (_ = _))
  | .access _ _ _ => isTrue trivial
  | .bulk (.call _) => isTrue trivial
  | .bulk .ret => isTrue trivial
  | .bulk (.worker _) => isTrue trivial
  | .bulk (.tail _) => isTrue trivial
  | .bulk (.handler _) => isTrue trivial

/-- No access to a file while a transfer is receiving or finalizing. -/
def Excluded (s : Shared) : Prop :=
  ∀ i env entries s', s.step (.access i env entries) = some s' → s'.since ≠ s.since →
    s.bulk.eTransferState ≠ .receiving ∧ s.bulk.eTransferState ≠ .finalizing

/-! ## §3. The invariant. -/

/-- Calls are under way only outside of transfers; during a transfer, and while
`START` prepares one with its target open, nothing has been accessed. -/
structure Exclusive (s : Shared) : Prop where
  idle : s.underWay ≠ [] → s.bulk.eTransferState = .idle
  closed : s.underWay ≠ [] → s.bulk.uart.unpublished = false
  since : s.bulk.eTransferState ≠ .idle ∨ s.bulk.uart.unpublished = true → s.since = []

/-- What is known of the bulk transfer itself. -/
structure Sound (b : Bulk) : Prop where
  inv : Inv b
  busy : Busy b
  handlerBusy : HandlerBusy b

theorem Sound.step {b b' : Bulk} {a : Act} (hs : Sound b) (h : b.step a = some b') : Sound b' :=
  ⟨hs.inv.step h, hs.busy.step hs.inv h, hs.handlerBusy.step hs.inv h⟩

variable {s s' : Shared} {b b' : Bulk}

/-- Where the files are changed under an idle transfer, but not a target that `START` has
opened, nothing that is known of the transfer is lost. -/
theorem Sound.files (hs : Sound b) (hidle : b.eTransferState = .idle) {files : Files}
    (htarget : b.uart.opening = true →
      files b.ctrl.pcaTotalFilePath = b.files b.ctrl.pcaTotalFilePath) :
    Sound { b with files := files } := by
  have hi := hs.inv
  have hbusy : b.uart.handling = false := Bool.eq_false_iff.mpr fun h => hs.busy h hidle
  refine ⟨⟨hi.uartLock, hi.handlerLock, hi.worker, hi.receiving, hi.idle, ?_, ?_, ?_, hi.faithful⟩,
    hs.busy, hs.handlerBusy⟩
  · have hat := hi.uartAt
    show b.uart.At { b with files := files }
    generalize b.uart = u at hat htarget hbusy
    cases u with
    | idle | returned r => trivial
    | start r pc =>
      cases pc with
      | lock | check | unlock res => trivial
      | reset p =>
        cases p with
        | fields => exact ⟨hat.worker, hat.state, hat.closed⟩
        | abort | idle =>
          exact ⟨⟨hat.1.worker, hat.1.state, hat.1.closed⟩,
            ⟨hat.2.received, hat.2.acceptedSize, hat.2.nextId⟩⟩
      | path | openFailed =>
        exact ⟨⟨hat.1.worker, hat.1.state, hat.1.closed⟩,
          ⟨hat.2.received, hat.2.acceptedSize, hat.2.nextId⟩⟩
      | delete | create | open_ =>
        exact ⟨⟨hat.1.worker, hat.1.state, hat.1.closed⟩,
          ⟨hat.2.1.received, hat.2.1.acceptedSize, hat.2.1.nextId⟩, hat.2.2⟩
      | setup =>
        obtain ⟨hopened, hcleared, haimed⟩ := hat
        exact ⟨⟨hopened.worker, hopened.state, hopened.opened, hopened.handle,
          (htarget rfl).trans hopened.empty⟩,
          ⟨hcleared.received, hcleared.acceptedSize, hcleared.nextId⟩, haimed⟩
      | publish =>
        obtain ⟨hworker, hstate, hfresh⟩ := hat
        exact ⟨hworker, hstate, { hfresh with empty := (htarget rfl).trans hfresh.empty }⟩
      | startThread => exact absurd (hidle.symm.trans hat.2.2.1) (by decide)
    | data m pc => cases pc <;> exact hat
    | end_ pc => cases pc <;> trivial
  · have hat := hi.handlerAt
    show b.handler.At { b with files := files }
    generalize b.handler = hd at hat
    cases hd with
    | idle | lock | check | setFailed | unlock => trivial
    | close => exact hat
    | delete => exact ⟨hat.closed, hat.state⟩
    | reset p =>
      cases p with
      | fields | abort => exact ⟨hat.closed, hat.state⟩
      | idle => exact ⟨⟨hat.1.closed, hat.1.state⟩, hat.2⟩
  · intro hopen hnot
    exact absurd (hi.idle hidle hopen) (Bool.eq_false_iff.mp hnot)

/-- The target is not open. -/
theorem Sound.access (hs : Sound b) (hidle : b.eTransferState = .idle)
    (hopen : b.uart.opening = false) (files : Files) : Sound { b with files := files } :=
  hs.files hidle fun h => absurd h (Bool.eq_false_iff.mp hopen)

/-- The points with the target open and the state idle are entered from
`fs_open` only. -/
theorem unpublished_step {a : Act} (h : b.step a = some b') (hu : b'.uart.unpublished = true) :
    b.uart.unpublished = true ∨ (b.uart.atOpen = true ∧ ∃ env, a = .uart env) := by
  cases a with
  | call c =>
    simp only [Bulk.step, Bulk.call] at h
    split at h
    · cases h
      cases c <;> cases hu
    · cases h
  | ret =>
    simp only [Bulk.step, Bulk.ret] at h
    split at h
    · cases h
      cases hu
    · cases h
  | worker env =>
    -- the other threads leave the UART thread where it is
    rw [(workerStep_frame (show workerStep env b = some b' from h)).uart] at hu
    exact Or.inl hu
  | tail i =>
    rw [tailStep_frame (show tailStep i b = some b' from h)] at hu
    exact Or.inl hu
  | handler env =>
    rw [handlerStep_uart (show handlerStep env b = some b' from h)] at hu
    exact Or.inl hu
  | uart env =>
    simp only [Bulk.step, uartStep] at h
    cases hb : b.uart with
    | idle | returned r => simp [hb] at h
    | start r pc =>
      simp only [hb] at h
      cases pc with
      | open_ => exact Or.inr ⟨rfl, env, rfl⟩
      | setup | publish => exact Or.inl rfl
      | reset p =>
        cases h
        cases p <;> cases hu
      | _ =>
        simp only [startStep] at h
        repeat' split at h
        all_goals
          -- every other point of the call leads to a point that is not unpublished
          cases h
          try cases hu
    | data m pc =>
      simp only [hb] at h
      cases pc <;>
      · simp only [dataStep] at h
        repeat' split at h
        all_goals
          cases h
          try cases hu
    | end_ pc =>
      simp only [hb] at h
      cases pc with
      | reset p r =>
        cases h
        cases p <;> cases hu
      | setFailed bExit =>
        cases h
        cases bExit <;> cases hu
      | _ =>
        simp only [endStep] at h
        repeat' split at h
        all_goals
          cases h
          try cases hu

theorem publish_unpublished {r : BulkTransferData} (h : b.uart = .start r .publish) :
    b.uart.unpublished = true := by
  rw [h]
  rfl

/-- A step of the bulk transfer. -/
theorem Exclusive.bulk {a : Act} (he : Exclusive s) (hs : Sound s.bulk)
    (h : s.bulk.step a = some b') (hok : Undisturbed s (.bulk a)) :
    Exclusive
      { s with
        bulk := b'
        since := if s.bulk.uart.atOpen && b'.uart.unpublished then [] else s.since } := by
  constructor
  · intro hw
    refine idle_step hs.inv hs.busy hs.handlerBusy h (he.idle hw) fun r hu => ?_
    have := he.closed hw
    rw [publish_unpublished hu] at this
    cases this
  · intro hw
    refine Bool.eq_false_iff.mpr fun hu => ?_
    rcases unpublished_step h hu with hu' | ⟨ho, env, rfl⟩
    · have := he.closed hw
      rw [hu'] at this
      cases this
    · exact hw (hok ho)
  · intro hne
    show (if s.bulk.uart.atOpen && b'.uart.unpublished then [] else s.since) = []
    split
    · rfl
    · next hnot =>
      apply he.since
      rcases hne with hne | hu
      · by_cases hidle : s.bulk.eTransferState = .idle
        · by_cases hpub : ∃ r, s.bulk.uart = .start r .publish
          · obtain ⟨r, hr⟩ := hpub
            exact Or.inr (publish_unpublished hr)
          · have hidle' := idle_step hs.inv hs.busy hs.handlerBusy h hidle
              fun r hr => hpub ⟨r, hr⟩
            exact absurd hidle' hne
        · exact Or.inl hidle
      · rcases unpublished_step h hu with hu' | ⟨ho, -⟩
        · exact Or.inr hu'
        · exact absurd (by simp [ho, hu]) hnot

theorem Exclusive.step {a : SharedAct} (he : Exclusive s) (hs : Sound s.bulk)
    (h : s.step a = some s') (hok : Undisturbed s a) : Exclusive s' ∧ Sound s'.bulk := by
  cases a with
  | bulk a =>
    obtain ⟨bulk, hb, rfl⟩ := Option.map_eq_some_iff.mp h
    exact ⟨he.bulk hs hb hok, hs.step hb⟩
  | test c =>
    simp only [Shared.step] at h
    split at h
    · cases h
      exact ⟨he, hs⟩
    · next hactive =>
      cases h
      have hidle : s.bulk.eTransferState = .idle := by
        simpa [Bulk.bIsBulkTransferActive] using hactive
      exact ⟨⟨fun _ => hidle, fun _ => hok, he.since⟩, hs⟩
  | access i env entries =>
    simp only [Shared.step] at h
    split at h
    · cases h
    · next c hc =>
      cases h
      have hw : s.underWay ≠ [] := by
        intro h0
        simp [h0] at hc
      have hidle := he.idle hw
      have hclosed := he.closed hw
      refine ⟨⟨fun _ => hidle, fun _ => hclosed, fun h => ?_⟩, hs.access hidle ?_ _⟩
      · rcases h with h | h
        · exact absurd hidle h
        · exact absurd (hclosed.symm.trans h) (by simp)
      · -- at `startThread` the state is no longer idle
        have hat := hs.inv.uartAt
        generalize s.bulk.uart = u at hat hclosed
        cases u with
        | idle | returned r | data m pc | end_ pc => rfl
        | start r pc =>
          cases pc with
          | startThread => exact absurd (hidle.symm.trans hat.2.2.1) (by simp)
          | setup | publish => cases hclosed
          | _ => rfl

theorem exclusive_of_reachable (h : sharedSystem.ReachableVia Undisturbed s) :
    Exclusive s ∧ Sound s.bulk := by
  refine TransSys.ReachableVia.invariant (I := fun s => Exclusive s ∧ Sound s.bulk) ?_ ?_ h
  · rintro s ⟨files, rfl⟩
    exact ⟨⟨fun h => absurd rfl h, fun h => absurd rfl h, fun _ => rfl⟩, inv_boot files,
      fun h => by (cases h), fun h => by (cases h)⟩
  · rintro s a s' ⟨he, hs⟩ hok hst
    exact he.step hs hst hok

/-- **The transfer has its files for itself** in the runs in which no call is
under way when `START` opens its target, and none passes its test before
`Receiving` is published: no call accesses a file during the transfer; when
`END` is about to report success, no call has accessed any file since the
target was opened; and every reported success is a delivery. -/
theorem transfer_exclusive (h : sharedSystem.ReachableVia Undisturbed s) :
    Excluded s
      ∧ (s.bulk.uart = .end_ (.reportError .success) → s.since = [])
      ∧ ∀ later earlier files,
          s.bulk.log = later ++ .ended ⟨.success, .none⟩ files :: earlier →
          ∃ t, currentTransfer earlier = some t ∧ t.Delivered files := by
  obtain ⟨he, hs⟩ := exclusive_of_reachable h
  refine ⟨?_, ?_, hs.inv.faithful⟩
  · intro i env entries s' hst _
    simp only [Shared.step] at hst
    split at hst
    · cases hst
    · next c hc =>
      have hw : s.underWay ≠ [] := by
        intro h0
        simp [h0] at hc
      simp [he.idle hw]
  · intro hu
    exact he.since (Or.inl (hs.busy (by rw [hu]; rfl)))

/-- A write of the target ends before the transfer, a second one is refused during it, and
`END` returns. -/
def writesAroundTransfer : List SharedAct :=
  let write := SharedAct.test (.iWriteToFileBin (ascii "/lfs/Config/a.bin") [0x58])
  [write, .access 0 (.healthy 1) []] ++ (threeByteTransfer.take 15).map .bulk ++ [write]
    ++ (threeByteTransfer.drop 15 ++ List.replicate 4 (Act.uart (.healthy 3))).map .bulk

/-- `END` has returned success, and neither write has disturbed the transfer. -/
theorem transfer_exclusive_refused_write :
    ∃ s, writesAroundTransfer.foldlM (TransSys.guarded Undisturbed Shared.step)
        { bulk := Bulk.boot fun _ => none, underWay := [], since := [] } = some s
      ∧ s.bulk.uart = .returned (.ended ⟨.success, .none⟩) ∧ s.since = [] ∧ Excluded s
      ∧ ∀ later earlier files,
          s.bulk.log = later ++ .ended ⟨.success, .none⟩ files :: earlier →
          ∃ t, currentTransfer earlier = some t ∧ t.Delivered files := by
  have hrun : (writesAroundTransfer.foldlM (TransSys.guarded Undisturbed Shared.step)
      { bulk := Bulk.boot fun _ => none, underWay := [], since := [] }).map
        (fun s => (s.bulk.uart.succeeded, s.since)) = some (true, []) := by
    decide +kernel
  obtain ⟨s, hs, hout⟩ := Option.map_eq_some_iff.mp hrun
  obtain ⟨hsucceeded, hsince⟩ := Prod.mk.inj hout
  have hreach : sharedSystem.ReachableVia Undisturbed s :=
    TransSys.ReachableVia.foldlM (fun _ _ _ h => TransSys.guarded_some h) (.init ⟨_, rfl⟩) _ hs
  have h := transfer_exclusive hreach
  exact ⟨s, hs, succeeded_iff hsucceeded, hsince, h.1, h.2.2⟩

/-- A write of the target passes its test just before the transfer. -/
def writeBeforeTransfer : List SharedAct :=
  .test (.iWriteToFileBin (ascii "/lfs/Config/a.bin") [0x58])
    :: (threeByteTransfer.take 15).map SharedAct.bulk

/-- The write truncates the target while the transfer is receiving. -/
theorem transfer_not_exclusive :
    ¬ ∀ s, sharedSystem.Reachable s → Excluded s := by
  intro h
  have hrun : ((writeBeforeTransfer.foldlM Shared.step
      { bulk := Bulk.boot fun _ => none, underWay := [], since := [] }).bind fun s =>
        (s.step (.access 0 (.healthy 1) [])).map fun s' =>
          (s.bulk.eTransferState, s.since, s'.since))
        = some (.receiving, [],
          [⟨.open_, ascii "/lfs/Config/a.bin"⟩, ⟨.truncate, ascii "/lfs/Config/a.bin"⟩]) := by
    decide +kernel
  obtain ⟨s, hs, hrun⟩ := Option.bind_eq_some_iff.mp hrun
  obtain ⟨s', hs', hout⟩ := Option.map_eq_some_iff.mp hrun
  obtain ⟨hstate, hsince, hsince'⟩ : s.bulk.eTransferState = .receiving ∧ s.since = []
      ∧ s'.since = _ := by simpa using hout
  have hreach : sharedSystem.Reachable s :=
    TransSys.Reachable.foldlM (fun _ _ _ h => h) (.init ⟨_, rfl⟩) _ hs
  exact (h s hreach 0 _ _ s' hs' (by simp [hsince, hsince'])).1 hstate

end WallController.LittleFs
