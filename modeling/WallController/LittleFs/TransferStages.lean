/-
  WallController.LittleFs.TransferStages
  ────────────────────────────────
  **A TRANSFER ENDS WITH ALL OF ITS FILE OR WITH NOTHING.**

  A transfer is over when `vSet_BulkkTransferData_ToDefault` stores `Idle`, in
  `END` or in the cleanup of the work queue.  By then the target has been
  written, closed and listed, or closed and removed.  `TargetStage` is how far this
  has come, read off the program counters; `TargetStage.At` is what holds there of
  the volume, of the catalogue and of the calls on the file handle.

  Two paths of `END` come to `Exit` past the removal: `fs_close` fails after
  the verification, or `iGetFileInfo` does.  The file stays, and `END` reports
  a failure.  A removal whose walk fails leaves the entry of the file.

  Main results:
    * `Accounted.startStep`, `Accounted.dataStep`, `Accounted.endStep`: each step
      of the UART thread keeps what the stage says.
-/
import WallController.LittleFs.TargetFile
import WallController.LittleFs.Access

namespace WallController.LittleFs

open WallController.Lib

/-! ## §1. The calls on the file handle. -/

/-- A call on `stTFileData`: `fs_open`, where it succeeds, and `fs_close`. -/
inductive HandleCall where
  | open_ (path : Path)
  | close
  deriving DecidableEq, Repr

/-- The calls that the next step makes on the handle. -/
def Bulk.handleCalls (b : Bulk) : Act → List HandleCall
  | .uart env =>
    match b.uart with
    | .start _ .open_ =>
        let path := b.ctrl.pcaTotalFilePath
        if (fsOpenTrunc env path b.files).1 < 0 then [] else [.open_ path]
    | .end_ .close => [.close]
    | .end_ .failClose => if b.ctrl.bFileOpen then [.close] else []
    | _ => []
  | .handler _ =>
    match b.handler with
    | .close => if b.ctrl.bFileOpen then [.close] else []
    | _ => []
  | _ => []

/-- The controller, and the calls on the handle so far, newest first. -/
structure Audited where
  ctl : Controller
  handle : List HandleCall

def Audited.Step (s : Audited) (a : ControllerAct) (s' : Audited) : Prop :=
  s.ctl.Step a s'.ctl
    ∧ s'.handle =
      match a with
      | .bulk a _ => s.ctl.bulk.handleCalls a ++ s.handle
      | .file _ _ => s.handle

/-- The step stores `Idle`: with the result of an `END`, or in the cleanup. -/
def Bulk.ends (b : Bulk) : Act → Option (Option TransferResult)
  | .uart _ =>
    match b.uart with
    | .end_ (.reset .idle stResult) => some (some stResult)
    | _ => none
  | .handler _ =>
    match b.handler with
    | .reset .idle => some none
    | _ => none
  | _ => none

/-- The whole file is there and listed. -/
structure StoredFile (t : Transfer) (s : Disk) : Prop where
  standing : Standing t.pcaTotalFilePath s
  content : s.contentAt t.pcaTotalFilePath = payload t.accepted
  length : (payload t.accepted).length = t.request.uiFileSize
  crc : u16CRC16CCITTUpdate 0xFFFF (payload t.accepted) = t.request.uiCRC

/-- The call that lists or removes the target at the end of a transfer. -/
def Bulk.lastCall (b : Bulk) : Act → Option CatalogCall
  | .uart _ =>
    match b.uart with
    | .end_ .refresh => some .refresh
    | .end_ .failDelete => some (.deleteInternal b.ctrl.pcaTotalFilePath)
    | _ => none
  | .handler _ =>
    match b.handler with
    | .delete => some (.deleteInternal b.ctrl.pcaTotalFilePath)
    | _ => none
  | _ => none

/-- The walk of a call succeeds, after the removal. -/
def CatalogCall.Walks (env : DiskEnv) (s : Disk) : CatalogCall → Prop
  | .refresh => env.Rebuilds s.volume
  | .deleteInternal path =>
    match s.volume.fsUnlink env.unlink path with
    | .error _ => True
    | .ok v => env.Rebuilds v
  | _ => True

/-- The locks of the last call are obtained, and `fs_stat` and `fs_unlink` succeed. -/
def Audited.Granted (s : Audited) : ControllerAct → Prop
  | .bulk a env => ∀ c, s.ctl.bulk.lastCall a = some c → env.Grants
  | .file _ _ => True

/-- The target stands as it did, with its content. -/
def Spares (path : Path) (s s' : Disk) : Prop :=
  (Standing path s → Standing path s') ∧ s'.contentAt path = s.contentAt path

/-- Between its creation and `Receiving` the target is not yet protected. -/
def Uart.unprotected (u : Uart) : Bool := u.atOpen || u.unpublished

/-- `END` closes a file that it has verified without an error, the walk of the last call
succeeds, no worker takes back the success of an `END`, and no other thread touches a
target that is not yet protected. -/
def Audited.Spared (s : Audited) : ControllerAct → Prop
  | .bulk a env =>
      (∀ c, s.ctl.bulk.lastCall a = some c → c.Walks env s.ctl.disk)
        ∧ match a with
          | .uart env => s.ctl.bulk.uart = .end_ .close → 0 ≤ env.close
          | .worker _ =>
              s.ctl.bulk.worker = some .setFailed → s.ctl.bulk.eTransferState ≠ .success
          | _ => True
  | .file c env =>
      s.ctl.bulk.uart.unprotected = true →
        Spares s.ctl.bulk.ctrl.pcaTotalFilePath s.ctl.disk
          (c.run env s.ctl.bulk.bIsBulkTransferActive s.ctl.disk).2

/-! ## §3. The stages. -/

/-- How far the target has come: created, its handle open, closed and to be listed,
closed and to be removed, or settled.  `kept` is a target that stays beside a failure. -/
inductive TargetStage where
  | idle
  | created
  | open_
  | listing
  | removing
  | settled (bSuccess : Bool)
  | kept
  deriving DecidableEq, Repr

def Uart.stage (eTransferState : FileTransferState) (bFileOpen : Bool) : Uart → TargetStage
  | .start _ .open_ => .created
  | .end_ .refresh => .listing
  | .end_ .failDelete => .removing
  | .end_ (.setError _ true) | .end_ (.setFailed true) => .kept
  | .end_ .report => .settled (eTransferState == .success)
  | .end_ (.reportError eState) => .settled (eState == .success)
  | .end_ (.reset _ stResult) => .settled (stResult.eTransferState == .success)
  | _ => if bFileOpen then .open_ else .idle

def Bulk.stage (b : Bulk) : TargetStage :=
  match b.handler with
  | .delete => .removing
  | .reset _ => .settled false
  | _ => b.uart.stage b.eTransferState b.ctrl.bFileOpen

/-- The handle of the path has been closed once. -/
def ClosedOnce (path : Path) (handle : List HandleCall) : Prop :=
  ∃ earlier, handle = .close :: .open_ path :: earlier

/-- The content that the transfer has of its target is that of the volume. -/
def Mirrored (b : Bulk) (s : Disk) : Prop :=
  ∀ bytes, b.files b.ctrl.stTFileData = some bytes → s.contentAt b.ctrl.stTFileData = bytes

/-- The last transfer, whose target has the path. -/
structure Owns (t : Transfer) (log : List Event) (path : Path) : Prop where
  last : lastTransfer log = some t
  handle : t.pcaTotalFilePath = path
  target : t.request.target = some t.pcaTotalFilePath

def TargetStage.At (b : Bulk) (disk : Disk) (handle : List HandleCall) : TargetStage → Prop
  | .idle => b.eTransferState = .idle
  | .created => Standing b.ctrl.pcaTotalFilePath disk
  | .open_ =>
      (∃ earlier, handle = .open_ b.ctrl.stTFileData :: earlier)
        ∧ Standing b.ctrl.stTFileData disk ∧ Mirrored b disk
  | .listing =>
      ClosedOnce b.ctrl.stTFileData handle ∧ Standing b.ctrl.stTFileData disk ∧ Mirrored b disk
        ∧ ∃ t, Owns t b.log b.ctrl.stTFileData
  | .removing =>
      ClosedOnce b.ctrl.stTFileData handle ∧ Standing b.ctrl.stTFileData disk
        ∧ b.ctrl.pcaTotalFilePath = b.ctrl.stTFileData ∧ ∃ t, Owns t b.log b.ctrl.stTFileData
  | .settled true =>
      ClosedOnce b.ctrl.stTFileData handle ∧ NothingLeft b.queue b.worker
        ∧ ∃ t, Owns t b.log b.ctrl.stTFileData ∧ StoredFile t disk
  | .settled false =>
      ClosedOnce b.ctrl.stTFileData handle
        ∧ ∃ t, Owns t b.log b.ctrl.stTFileData ∧ Gone t.pcaTotalFilePath disk
  | .kept => False

/-- `END` has stored `Success`, and may still fail. -/
def Uart.verifying : Uart → Bool
  | .end_ .sync | .end_ .close | .end_ .refresh => true
  | _ => false

/-- **The invariant.** -/
structure Accounted (b : Bulk) (disk : Disk) (handle : List HandleCall) : Prop where
  stage : b.stage.At b disk handle
  success : b.uart.verifying = true → b.eTransferState = .success

/-- What a step does on the disk. -/
def Bulk.Calls (b : Bulk) (a : Act) (env : DiskEnv) (disk disk' : Disk) : Prop :=
  match b.catalogCall a with
  | none => disk' = disk
  | some (c, iResult) => c.run env b.bIsBulkTransferActive disk = (iResult, disk')

/-- At this point the stage tells no more than whether the handle is open. -/
def Uart.Plain (u : Uart) : Prop :=
  ∀ eTransferState bFileOpen,
    u.stage eTransferState bFileOpen = if bFileOpen then .open_ else .idle

/-- The points whose step calls the catalogue or closes the handle. -/
def Uart.touches : Uart → Bool
  | .start _ .delete | .start _ .create | .start _ .open_ | .start _ .openFailed => true
  | .end_ .close | .end_ .refresh | .end_ .failClose | .end_ .failDelete => true
  | _ => false

variable {b b' : Bulk} {disk disk' : Disk} {handle handle' : List HandleCall} {e : Env}
  {env : DiskEnv} {a : Act} {t : Transfer} {path : Path}

/-! ## §4. What a step leaves alone. -/

theorem stage_of_outside (hh : b.handler.inSection = false) :
    b.stage = b.uart.stage b.eTransferState b.ctrl.bFileOpen := by
  unfold Bulk.stage
  cases hb : b.handler with
  | idle | lock | check | setFailed | close | unlock => rfl
  | delete | reset p =>
      rw [hb] at hh
      cases hh

theorem Uart.plain_outside {u : Uart} (h : u.inSection = false) : u.Plain := by
  intro eTransferState bFileOpen
  cases u with
  | idle | returned r => rfl
  | start r pc => cases pc <;> first | rfl | cases h
  | data m pc => rfl
  | end_ pc => cases pc <;> first | rfl | cases h

/-- At a point that touches nothing, the disk and the calls on the handle stay. -/
theorem untouched (ht : b.uart.touches = false) (hd : b.Calls (.uart e) env disk disk')
    (hh : handle' = b.handleCalls (.uart e) ++ handle) : disk' = disk ∧ handle' = handle := by
  unfold Bulk.Calls Bulk.catalogCall at hd
  unfold Bulk.handleCalls at hh
  generalize b.uart = u at ht hd hh
  cases u with
  | idle | returned r | data m pc => exact ⟨hd, hh⟩
  | start r pc => cases pc <;> first | exact ⟨hd, hh⟩ | cases ht
  | end_ pc => cases pc <;> first | exact ⟨hd, hh⟩ | cases ht

/-- A move that leaves the transfer and the stage alone. -/
theorem Accounted.move (ha : Accounted b disk handle) (hs : SameTransfer b b')
    (hstage : b'.stage = b.stage)
    (hverifying : b'.uart.verifying = true → b.uart.verifying = true) :
    Accounted b' disk handle := by
  constructor
  · have hat := ha.stage
    rw [hstage]
    rw [hs]
    generalize b.stage = g at hat ⊢
    cases g with
    | settled bSuccess => cases bSuccess <;> exact hat
    | idle | created | open_ | listing | removing | kept => exact hat
  · intro hv
    have hstate : b'.eTransferState = b.eTransferState := by rw [hs]
    rw [hstate]
    exact ha.success (hverifying hv)

/-- A move of the UART thread between two points that are plain. -/
theorem Accounted.outside (ha : Accounted b disk handle) (hs : SameTransfer b b')
    (hhandler : b'.handler = b.handler) (hplain : b.uart.Plain) (hplain' : b'.uart.Plain)
    (hverifying : b'.uart.verifying = false) : Accounted b' disk handle := by
  refine ha.move hs ?_ fun h => absurd (hverifying.symm.trans h) (by decide)
  have hopen : b'.ctrl.bFileOpen = b.ctrl.bFileOpen := by rw [hs]
  unfold Bulk.stage
  rw [hhandler, hplain, hplain', hopen]

/-- Inside the mutex the stage is that of the UART thread. -/
theorem Accounted.uartAt (ha : Accounted b disk handle) (hi : Inv b)
    (hin : b.uart.inSection = true) :
    (b.uart.stage b.eTransferState b.ctrl.bFileOpen).At b disk handle := by
  have hat := ha.stage
  rwa [stage_of_outside (hi.handler_outside hin)] at hat

/-- A step of the UART thread inside the mutex. -/
theorem Accounted.of_uartAt (hi : Inv b) (hin : b.uart.inSection = true)
    (hhandler : b'.handler = b.handler)
    (hat : (b'.uart.stage b'.eTransferState b'.ctrl.bFileOpen).At b' disk handle)
    (hsuccess : b'.uart.verifying = true → b'.eTransferState = .success) :
    Accounted b' disk handle := by
  refine ⟨?_, hsuccess⟩
  have ho := hi.handler_outside hin
  rwa [stage_of_outside (by rw [hhandler]; exact ho)]

/-- A step of the UART thread inside the mutex between two points that are plain. -/
theorem Accounted.inside (ha : Accounted b disk handle) (hi : Inv b)
    (hin : b.uart.inSection = true) (hplain : b.uart.Plain) (hhandler : b'.handler = b.handler)
    (hplain' : b'.uart.Plain) (hopen : b'.ctrl.bFileOpen = b.ctrl.bFileOpen)
    (hpath : b'.ctrl.stTFileData = b.ctrl.stTFileData) (hfiles : b'.files = b.files)
    (hidle : b.ctrl.bFileOpen = false → b.eTransferState = .idle → b'.eTransferState = .idle)
    (hsuccess : b'.uart.verifying = true → b'.eTransferState = .success) :
    Accounted b' disk handle := by
  refine .of_uartAt hi hin hhandler ?_ hsuccess
  have hat := ha.uartAt hi hin
  rw [hplain] at hat
  rw [hplain', hopen]
  cases hb : b.ctrl.bFileOpen with
  | false =>
      rw [hb] at hat
      exact hidle hb hat
  | true =>
      rw [hb] at hat
      obtain ⟨hhandle, hstanding, hmirrored⟩ := hat
      refine ⟨?_, ?_, ?_⟩
      · rw [hpath]
        exact hhandle
      · rw [hpath]
        exact hstanding
      · unfold Mirrored
        rw [hpath, hfiles]
        exact hmirrored

/-! ## §5. The steps of `bStart_BulkDataTransfer`. -/

/-- While `START` prepares its transfer, the stage is idle as long as no target has
been created. -/
theorem Accounted.preparing (hi : Inv b) (hin : b.uart.inSection = true)
    (hhandler : b'.handler = b.handler) (hplain' : b'.uart.Plain)
    (hverifying : b'.uart.verifying = false) (hclosed : b'.ctrl.bFileOpen = false)
    (hidle : b'.eTransferState = .idle) : Accounted b' disk handle := by
  refine .of_uartAt hi hin hhandler ?_ fun h => absurd (hverifying.symm.trans h) (by decide)
  rw [hplain', hclosed]
  exact hidle

theorem Accounted.startStep {r : BulkTransferData} {pc : StartPc} (ha : Accounted b disk handle)
    (hi : Inv b) (hu : b.uart = .start r pc) (h : startStep e r pc b = some b')
    (hd : b.Calls (.uart e) env disk disk')
    (hh : handle' = b.handleCalls (.uart e) ++ handle) : Accounted b' disk' handle' := by
  have hat := hi.uartAt
  have hquiet : (Uart.start r pc).touches = false → disk' = disk ∧ handle' = handle := fun ht =>
    untouched (by rw [hu]; exact ht) hd hh
  rw [hu] at hat
  cases pc with
  | lock =>
      -- no call is made and no stage is left: the account is the one before
      obtain ⟨rfl, rfl⟩ := hquiet rfl
      have hplain : b.uart.Plain := by rw [hu]; exact fun _ _ => rfl
      simp only [LittleFs.startStep] at h
      split at h
      · cases h
        exact ha.outside rfl rfl hplain (fun _ _ => rfl) rfl
      split at h
      · cases h
        exact ha.outside rfl rfl hplain (fun _ _ => rfl) rfl
      split at h
      · cases h
        exact ha.outside rfl rfl hplain (fun _ _ => rfl) rfl
      · cases h
  | check =>
      obtain ⟨rfl, rfl⟩ := hquiet rfl
      have hplain : b.uart.Plain := by rw [hu]; exact fun _ _ => rfl
      simp only [LittleFs.startStep] at h
      split at h
      · cases h
        exact ha.outside rfl rfl hplain (fun _ _ => rfl) rfl
      · cases h
        exact ha.outside rfl rfl hplain (fun _ _ => rfl) rfl
  | reset p =>
      -- nothing is owed before the file is open: each step up to `open_` is `preparing`
      have hin : b.uart.inSection = true := by rw [hu]; rfl
      cases h
      cases p with
      | fields =>
          obtain ⟨-, hs, hc⟩ := Preparing.reset hat .fields
          exact .preparing hi hin rfl (fun _ _ => rfl) rfl hc hs
      | abort =>
          obtain ⟨-, hs, hc⟩ := Preparing.reset hat.1 .abort
          exact .preparing hi hin rfl (fun _ _ => rfl) rfl hc hs
      | idle =>
          obtain ⟨-, hs, hc⟩ := Preparing.reset hat.1 .idle
          exact .preparing hi hin rfl (fun _ _ => rfl) rfl hc hs
  | path =>
      have hin : b.uart.inSection = true := by rw [hu]; rfl
      have hp : Preparing b := hat.1
      simp only [LittleFs.startStep] at h
      split at h
      · cases h
        exact .preparing hi hin rfl (fun _ _ => rfl) rfl hp.closed hp.state
      split at h
      · cases h
        exact .preparing hi hin rfl (fun _ _ => rfl) rfl hp.closed rfl
      · cases h
        exact .preparing hi hin rfl (fun _ _ => rfl) rfl hp.closed hp.state
  | delete =>
      have hin : b.uart.inSection = true := by rw [hu]; rfl
      have hp : Preparing b := hat.1
      simp only [LittleFs.startStep] at h
      split at h
      · cases h
        exact .preparing hi hin rfl (fun _ _ => rfl) rfl hp.closed hp.state
      · cases h
        exact .preparing hi hin rfl (fun _ _ => rfl) rfl hp.closed hp.state
  | create =>
      have hin : b.uart.inSection = true := by rw [hu]; rfl
      obtain ⟨hp, -, htarget⟩ : Preparing b ∧ Cleared b ∧ Aimed r b := hat
      simp only [LittleFs.startStep] at h
      split at h
      · cases h
        exact .preparing hi hin rfl (fun _ _ => rfl) rfl hp.closed hp.state
      · next hcreated =>
        cases h
        unfold Bulk.Calls Bulk.catalogCall at hd
        rw [hu] at hd
        dsimp only [CatalogCall.run] at hd
        -- the file created is the one the transfer aims at
        obtain ⟨dir, hdir, hpath⟩ := Option.bind_eq_some_iff.mp htarget
        rw [hdir, Option.getD_some] at hd hcreated
        have hstanding : Standing b.ctrl.pcaTotalFilePath
            (disk.iCreateFile env b.bIsBulkTransferActive dir r.pcaFileName).2 :=
          standing_created (by rw [hd]; omega) hpath
        rw [hd] at hstanding
        exact .of_uartAt hi hin rfl hstanding (fun h => by cases h)
  | open_ =>
      have hin : b.uart.inSection = true := by rw [hu]; rfl
      have hp : Preparing b := hat.1
      simp only [LittleFs.startStep] at h
      split at h
      · cases h
        exact .preparing hi hin rfl (fun _ _ => rfl) rfl hp.closed hp.state
      · next hopened =>
        cases h
        have hstanding := ha.uartAt hi hin
        rw [hu] at hstanding
        replace hstanding : Standing b.ctrl.pcaTotalFilePath disk := hstanding
        unfold Bulk.Calls Bulk.catalogCall at hd
        rw [hu] at hd
        dsimp only [CatalogCall.run] at hd
        unfold Bulk.handleCalls at hh
        rw [hu] at hh
        dsimp only at hh
        rw [if_neg hopened] at hh
        -- both views of the open agree: the volume refuses it exactly where the code sees an error
        cases hopen : disk.volume.fsOpenTrunc env.open_ b.ctrl.pcaTotalFilePath with
        | error iResult =>
            rw [hopen] at hd
            have hresult := congrArg Prod.fst hd
            have hneg := fsOpenTrunc_error hopen
            dsimp only at hresult
            omega
        | ok v =>
            rw [hopen] at hd
            obtain ⟨-, -, rfl⟩ := fsOpenTrunc_eq_ok.mp hopen
            obtain rfl := congrArg Prod.snd hd
            refine .of_uartAt hi hin rfl ⟨⟨handle, hh⟩, hstanding.same rfl rfl, ?_⟩
              (fun h => by cases h)
            -- the file is opened empty, so the mirror starts with no bytes
            intro bytes hbytes
            have hempty := fsOpenTrunc_empty hopened
            obtain rfl := Option.some.inj (hempty.symm.trans hbytes)
            exact Function.update_self _ _ _
  | openFailed =>
      have hin : b.uart.inSection = true := by rw [hu]; rfl
      have hp : Preparing b := hat.1
      cases h
      exact .preparing hi hin rfl (fun _ _ => rfl) rfl hp.closed hp.state
  | setup =>
      have hin : b.uart.inSection = true := by rw [hu]; rfl
      obtain ⟨rfl, rfl⟩ := hquiet rfl
      cases h
      exact ha.inside hi hin (by rw [hu]; exact fun _ _ => rfl) rfl (fun _ _ => rfl) rfl rfl rfl
        (fun _ hidle => hidle) (fun h => by cases h)
  | publish =>
      have hin : b.uart.inSection = true := by rw [hu]; rfl
      obtain ⟨rfl, rfl⟩ := hquiet rfl
      have hopened : b.ctrl.bFileOpen = true := hat.2.2.opened
      cases h
      exact ha.inside hi hin (by rw [hu]; exact fun _ _ => rfl) rfl (fun _ _ => rfl) rfl rfl rfl
        (fun hclosed _ => absurd (hopened.symm.trans hclosed) (by decide)) (fun h => by cases h)
  | startThread =>
      have hin : b.uart.inSection = true := by rw [hu]; rfl
      obtain ⟨rfl, rfl⟩ := hquiet rfl
      cases h
      exact ha.inside hi hin (by rw [hu]; exact fun _ _ => rfl) rfl (fun _ _ => rfl) rfl rfl rfl
        (fun _ hidle => hidle) (fun h => by cases h)
  | unlock bResult =>
      obtain ⟨rfl, rfl⟩ := hquiet rfl
      cases h
      exact ha.outside rfl rfl (by rw [hu]; exact fun _ _ => rfl) (fun _ _ => rfl) rfl

/-! ## §6. The steps of `iSend_BulkTransferData`. -/

theorem Accounted.dataStep {m : MsgData} {pc : DataPc} (ha : Accounted b disk handle)
    (hi : Inv b) (hu : b.uart = .data m pc) (h : dataStep e m pc b = some b') :
    Accounted b' disk handle := by
  have hplain : b.uart.Plain := by rw [hu]; exact fun _ _ => rfl
  have hquiet : SameTransfer b b' → b'.handler = b.handler → b'.uart.Plain →
      b'.uart.verifying = false → Accounted b' disk handle := fun hs hhandler hplain' hverifying =>
    ha.outside hs hhandler hplain hplain' hverifying
  cases pc with
  | lock | check | checkError =>
      simp only [LittleFs.dataStep] at h
      repeat' split at h
      all_goals first | cases h; done | (cases h; exact hquiet rfl rfl (fun _ _ => rfl) rfl)
  | accept =>
      simp only [LittleFs.dataStep] at h
      split at h
      · cases h
        exact hquiet rfl rfl (fun _ _ => rfl) rfl
      split at h
      · cases h
        exact hquiet rfl rfl (fun _ _ => rfl) rfl
      split at h
      · cases h
        exact hquiet rfl rfl (fun _ _ => rfl) rfl
      split at h
      · cases h
        exact ha.inside hi (by rw [hu]; rfl) hplain rfl (fun _ _ => rfl) rfl rfl rfl
          (fun _ hidle => hidle) (fun h => by cases h)
      · cases h
        exact hquiet rfl rfl (fun _ _ => rfl) rfl
  | account =>
      cases h
      exact ha.inside hi (by rw [hu]; rfl) hplain rfl (fun _ _ => rfl) rfl rfl rfl
        (fun _ hidle => hidle) (fun h => by cases h)
  | unlock iRet =>
      cases h
      exact hquiet rfl rfl (fun _ _ => rfl) rfl

/-! ## §7. The steps of `vEnd_BulkDataTransfer`. -/

/-- With its file open and no `START` under way, the target is that of the transfer. -/
theorem Inv.owns (hi : Inv b) (hopen : b.ctrl.bFileOpen = true) (hop : b.uart.opening = false) :
    b.ctrl.pcaTotalFilePath = b.ctrl.stTFileData ∧ ∃ t, Owns t b.log b.ctrl.stTFileData := by
  obtain ⟨t, ht⟩ := hi.sending hopen hop
  have hp := ht.producer
  refine ⟨hp.path.trans hp.handle.symm, t, ?_⟩
  exact ⟨lastTransfer_of_current hp.current, hp.handle.symm, hp.target⟩

/-- **The removal**, at the end of a failed transfer. -/
theorem Accounted.removal {iResult : Int}
    (hat : TargetStage.removing.At b disk handle)
    (hrun : disk.iDeleteFileInternal env b.ctrl.pcaTotalFilePath = (iResult, disk'))
    (henv : env.Grants)
    (hwalks : (CatalogCall.deleteInternal b.ctrl.pcaTotalFilePath).Walks env disk) :
    (TargetStage.settled false).At b disk' handle := by
  obtain ⟨hclosed, hstanding, hpath, t, ht⟩ := hat
  rw [hpath] at hrun hwalks
  have hgone := hstanding.removed henv fun v hv => by
    unfold CatalogCall.Walks at hwalks
    dsimp only at hwalks
    rwa [hv] at hwalks
  rw [hrun] at hgone
  refine ⟨hclosed, t, ht, ?_⟩
  rw [ht.handle]
  exact hgone

/-- **The listing**, at the end of a transfer that `END` has verified. -/
theorem Accounted.listing {iResult : Int} (hat : TargetStage.listing.At b disk handle)
    (hverified : ∃ t, Verified t b) (hrun : disk.iGetFileInfo env = (iResult, disk'))
    (hzero : iResult = 0) : (TargetStage.settled true).At b disk' handle := by
  obtain ⟨hclosed, hstanding, hmirrored, t, ht⟩ := hat
  have hhandle := ht.handle
  obtain ⟨t', hcomplete, hcrc⟩ := hverified
  obtain rfl : t = t' :=
    Option.some.inj (ht.last.symm.trans (lastTransfer_of_current hcomplete.current))
  rw [← hhandle] at hclosed hstanding
  have hok : (disk.iGetFileInfo env).1 = 0 := by rw [hrun]; exact hzero
  have hlisted := standing_refreshed hstanding.file (target_canonical hcomplete.target) hok
  have hvolume := getFileInfo_volume env disk
  rw [hrun] at hlisted hvolume
  have hcontent : disk.contentAt b.ctrl.stTFileData = payload t.accepted := by
    refine hmirrored _ ?_
    rw [← hhandle]
    exact hcomplete.written.file
  rw [hhandle] at hclosed
  refine ⟨hclosed, ⟨hcomplete.drained, hcomplete.free⟩, t, ht, hlisted, ?_, hcomplete.length, hcrc⟩
  unfold Disk.contentAt at hcontent ⊢
  rw [hvolume, hhandle]
  exact hcontent

/-- What is settled stays so while the control block is reset. -/
theorem TargetStage.settled_mono {bSuccess : Bool}
    (hat : (TargetStage.settled bSuccess).At b disk handle)
    (hpath : b'.ctrl.stTFileData = b.ctrl.stTFileData)
    (hlog : lastTransfer b'.log = lastTransfer b.log)
    (hdrained : NothingLeft b.queue b.worker → NothingLeft b'.queue b'.worker) :
    (TargetStage.settled bSuccess).At b' disk handle := by
  have howns : ∀ t, Owns t b.log b.ctrl.stTFileData → Owns t b'.log b'.ctrl.stTFileData := by
    intro t h
    refine ⟨?_, ?_, h.target⟩
    · rw [hlog]
      exact h.last
    · rw [hpath]
      exact h.handle
  cases bSuccess with
  | true =>
      obtain ⟨hclosed, hold, t, ht, hstored⟩ := hat
      rw [← hpath] at hclosed
      exact ⟨hclosed, hdrained hold, t, howns t ht, hstored⟩
  | false =>
      obtain ⟨hclosed, t, ht, hgone⟩ := hat
      rw [← hpath] at hclosed
      exact ⟨hclosed, t, howns t ht, hgone⟩

theorem Accounted.endStep {pc : EndPc} (ha : Accounted b disk handle) (hs : Sound b)
    (hu : b.uart = .end_ pc) (h : endStep e pc b = some b')
    (hd : b.Calls (.uart e) env disk disk') (hh : handle' = b.handleCalls (.uart e) ++ handle)
    (hwalks : ∀ c, b.lastCall (.uart e) = some c → c.Walks env disk)
    (hgranted : ∀ c, b.lastCall (.uart e) = some c → env.Grants)
    (hclosing : b.uart = .end_ .close → 0 ≤ e.close) : Accounted b' disk' handle' := by
  have hi := hs.inv
  have hat := hi.uartAt
  have hquiet : (Uart.end_ pc).touches = false → disk' = disk ∧ handle' = handle := fun ht =>
    untouched (by rw [hu]; exact ht) hd hh
  rw [hu] at hat
  cases pc with
  | entry =>
      obtain ⟨rfl, rfl⟩ := hquiet rfl
      cases h
      exact ha.outside rfl rfl (by rw [hu]; exact fun _ _ => rfl) (fun _ _ => rfl) rfl
  | lock eState =>
      obtain ⟨rfl, rfl⟩ := hquiet rfl
      have hplain : b.uart.Plain := by rw [hu]; exact fun _ _ => rfl
      simp only [LittleFs.endStep] at h
      split at h
      · cases h
        exact ha.outside rfl rfl hplain (fun _ _ => rfl) rfl
      split at h
      · cases h
        exact ha.outside rfl rfl hplain (fun _ _ => rfl) rfl
      · cases h
  | check eState =>
      obtain ⟨rfl, rfl⟩ := hquiet rfl
      have hplain : b.uart.Plain := by rw [hu]; exact fun _ _ => rfl
      simp only [LittleFs.endStep] at h
      split at h
      · cases h
        exact ha.outside rfl rfl hplain (fun _ _ => rfl) rfl
      · cases h
        exact ha.outside rfl rfl hplain (fun _ _ => rfl) rfl
  | finalizing =>
      obtain ⟨rfl, rfl⟩ := hquiet rfl
      have hopen : b.ctrl.bFileOpen = true := hat
      cases h
      -- the file is open before and after, and only the state's name changes
      exact ha.inside hi (by rw [hu]; rfl) (by rw [hu]; exact fun _ _ => rfl) rfl
        (fun _ _ => rfl) rfl rfl rfl
        (fun hclosed _ => absurd (hopen.symm.trans hclosed) (by decide)) (fun h => by cases h)
  | put =>
      obtain ⟨rfl, rfl⟩ := hquiet rfl
      have hplain : b.uart.Plain := by rw [hu]; exact fun _ _ => rfl
      simp only [LittleFs.endStep] at h
      split at h
      · cases h
        exact ha.inside hi (by rw [hu]; rfl) hplain rfl (fun _ _ => rfl) rfl rfl rfl
          (fun _ hidle => hidle) (fun h => by cases h)
      split at h
      · cases h
        exact ha.outside rfl rfl hplain (fun _ _ => rfl) rfl
      · cases h
  | take =>
      obtain ⟨rfl, rfl⟩ := hquiet rfl
      have hplain : b.uart.Plain := by rw [hu]; exact fun _ _ => rfl
      simp only [LittleFs.endStep] at h
      split at h
      · cases h
        exact ha.outside rfl rfl hplain (fun _ _ => rfl) rfl
      split at h
      · cases h
        exact ha.outside rfl rfl hplain (fun _ _ => rfl) rfl
      · cases h
  | error | size | crc =>
      obtain ⟨rfl, rfl⟩ := hquiet rfl
      have hplain : b.uart.Plain := by rw [hu]; exact fun _ _ => rfl
      simp only [LittleFs.endStep] at h
      split at h
      · cases h
        exact ha.outside rfl rfl hplain (fun _ _ => rfl) rfl
      · cases h
        exact ha.outside rfl rfl hplain (fun _ _ => rfl) rfl
  | setNone =>
      obtain ⟨rfl, rfl⟩ := hquiet rfl
      cases h
      exact ha.outside rfl rfl (by rw [hu]; exact fun _ _ => rfl) (fun _ _ => rfl) rfl
  | setSuccess =>
      obtain ⟨rfl, rfl⟩ := hquiet rfl
      have hopen : b.ctrl.bFileOpen = true := hat.1.opened
      cases h
      exact ha.inside hi (by rw [hu]; rfl) (by rw [hu]; exact fun _ _ => rfl) rfl
        (fun _ _ => rfl) rfl rfl rfl
        -- from here the state is success, and the stages below carry it to the rebuilt catalogue
        (fun hclosed _ => absurd (hopen.symm.trans hclosed) (by decide)) (fun _ => rfl)
  | sync =>
      obtain ⟨rfl, rfl⟩ := hquiet rfl
      have hplain : b.uart.Plain := by rw [hu]; exact fun _ _ => rfl
      have hsuccess := ha.success (by rw [hu]; rfl)
      simp only [LittleFs.endStep] at h
      split at h
      · cases h
        exact ha.outside rfl rfl hplain (fun _ _ => rfl) rfl
      · cases h
        exact ha.inside hi (by rw [hu]; rfl) hplain rfl (fun _ _ => rfl) rfl rfl rfl
          (fun _ hidle => hidle) (fun _ => hsuccess)
  | close =>
      have hin : b.uart.inSection = true := by rw [hu]; rfl
      have hopen : b.ctrl.bFileOpen = true := hat.1.opened
      have hsuccess := ha.success (by rw [hu]; rfl)
      -- the close touches the handle only: the volume and the catalogue stay
      obtain rfl : disk' = disk := by
        unfold Bulk.Calls Bulk.catalogCall at hd
        rwa [hu] at hd
      obtain rfl : handle' = .close :: handle := by
        unfold Bulk.handleCalls at hh
        rwa [hu] at hh
      simp only [LittleFs.endStep] at h
      -- `hclosing`: this close succeeds, so the branch that keeps the file is not taken
      rw [if_neg (Int.not_lt.mpr (hclosing hu))] at h
      cases h
      have hstage := ha.uartAt hi hin
      rw [hu, hopen] at hstage
      obtain ⟨⟨earlier, rfl⟩, hstanding, hmirrored⟩ := hstage
      have howns := (hi.owns hopen (by rw [hu]; rfl)).2
      exact .of_uartAt hi hin rfl ⟨⟨earlier, rfl⟩, hstanding, hmirrored, howns⟩ (fun _ => hsuccess)
  | refresh =>
      have hin : b.uart.inSection = true := by rw [hu]; rfl
      have hsuccess := ha.success (by rw [hu]; rfl)
      have hcall : b.catalogCall (.uart e) = some (.refresh, e.refresh) := by
        unfold Bulk.catalogCall
        rw [hu]
      have hrun : disk.iGetFileInfo env = (e.refresh, disk') := by
        unfold Bulk.Calls at hd
        rwa [hcall] at hd
      -- the rebuild succeeds because the walk over the tree meets no error
      have hzero : e.refresh = 0 := by
        have hwalk : env.Rebuilds disk.volume :=
          hwalks .refresh (by unfold Bulk.lastCall; rw [hu])
        have hok := getFileInfo_eq_zero.mpr hwalk
        rwa [hrun] at hok
      obtain rfl : handle' = handle := by
        unfold Bulk.handleCalls at hh
        rwa [hu] at hh
      have hstage := ha.uartAt hi hin
      rw [hu] at hstage
      simp only [LittleFs.endStep] at h
      rw [if_neg (by omega)] at h
      cases h
      refine .of_uartAt hi hin rfl ?_ (fun h => by cases h)
      show (TargetStage.settled (b.eTransferState == .success)).At _ _ _
      rw [hsuccess]
      exact TargetStage.settled_mono (Accounted.listing hstage hat.2 hrun hzero) rfl rfl
        id
  | setError eError bExit =>
      obtain ⟨rfl, rfl⟩ := hquiet rfl
      have hin : b.uart.inSection = true := by rw [hu]; rfl
      cases bExit with
      | false =>
          cases h
          exact ha.outside rfl rfl (by rw [hu]; exact fun _ _ => rfl) (fun _ _ => rfl) rfl
      | true =>
          -- an error after the close is the stage `kept`, which no run under the condition reaches
          have hkept := ha.uartAt hi hin
          rw [hu] at hkept
          exact hkept.elim
  | setFailed bExit =>
      obtain ⟨rfl, rfl⟩ := hquiet rfl
      have hin : b.uart.inSection = true := by rw [hu]; rfl
      cases bExit with
      | false =>
          have hopen : b.ctrl.bFileOpen = true := hat.opened
          cases h
          exact ha.inside hi hin (by rw [hu]; exact fun _ _ => rfl) rfl (fun _ _ => rfl) rfl rfl
            rfl (fun hclosed _ => absurd (hopen.symm.trans hclosed) (by decide))
            (fun h => by cases h)
      | true =>
          have hkept := ha.uartAt hi hin
          rw [hu] at hkept
          exact hkept.elim
  | abort =>
      obtain ⟨rfl, rfl⟩ := hquiet rfl
      have hin : b.uart.inSection = true := by rw [hu]; rfl
      have hplain : b.uart.Plain := by rw [hu]; exact fun _ _ => rfl
      simp only [LittleFs.endStep] at h
      split at h
      · cases h
        exact ha.inside hi hin hplain rfl (fun _ _ => rfl) rfl rfl rfl (fun _ hidle => hidle)
          (fun h => by cases h)
      · cases h
        exact ha.outside rfl rfl hplain (fun _ _ => rfl) rfl
  | failClose =>
      have hin : b.uart.inSection = true := by rw [hu]; rfl
      have hstage := ha.uartAt hi hin
      have hbusy := hs.busy (by rw [hu]; rfl)
      obtain rfl : disk' = disk := by
        unfold Bulk.Calls Bulk.catalogCall at hd
        rwa [hu] at hd
      -- a busy transfer has its file open here, so the handle is closed now
      have hopen : b.ctrl.bFileOpen = true := by
        rw [hu] at hstage
        cases hb : b.ctrl.bFileOpen with
        | true => rfl
        | false =>
            rw [hb] at hstage
            exact absurd hstage hbusy
      obtain rfl : handle' = .close :: handle := by
        unfold Bulk.handleCalls at hh
        rw [hu] at hh
        dsimp only at hh
        rwa [if_pos hopen] at hh
      rw [hu, hopen] at hstage
      obtain ⟨⟨earlier, rfl⟩, hstanding, -⟩ := hstage
      obtain ⟨hpath, howns⟩ := hi.owns hopen (by rw [hu]; rfl)
      have hclosed : ClosedOnce b.ctrl.stTFileData
          (.close :: .open_ b.ctrl.stTFileData :: earlier) := ⟨earlier, rfl⟩
      simp only [LittleFs.endStep] at h
      rw [if_pos hopen] at h
      split at h
      · cases h
        exact .of_uartAt hi hin rfl ⟨hclosed, hstanding, hpath, howns⟩ (fun h => by cases h)
      · cases h
        exact .of_uartAt hi hin rfl ⟨hclosed, hstanding, hpath, howns⟩ (fun h => by cases h)
  | failDelete =>
      have hin : b.uart.inSection = true := by rw [hu]; rfl
      have hfailed : b.eTransferState = .failed := hat.1
      -- both models delete the file at the path of the transfer
      have hcall : b.catalogCall (.uart e) = some (.deleteInternal b.ctrl.pcaTotalFilePath,
          (iDeleteFileInternal e b.ctrl.pcaTotalFilePath b.files).1) := by
        unfold Bulk.catalogCall
        rw [hu]
      have hrun : disk.iDeleteFileInternal env b.ctrl.pcaTotalFilePath
          = ((iDeleteFileInternal e b.ctrl.pcaTotalFilePath b.files).1, disk') := by
        unfold Bulk.Calls at hd
        rwa [hcall] at hd
      obtain rfl : handle' = handle := by
        unfold Bulk.handleCalls at hh
        rwa [hu] at hh
      have hstage := ha.uartAt hi hin
      rw [hu] at hstage
      have hlast : b.lastCall (.uart e) = some (.deleteInternal b.ctrl.pcaTotalFilePath) := by
        unfold Bulk.lastCall
        rw [hu]
      have hsettled := Accounted.removal hstage hrun (hgranted _ hlast) (hwalks _ hlast)
      -- a failed transfer settles with the file gone from volume and catalogue
      have hfalse : (b.eTransferState == .success) = false := by rw [hfailed]; rfl
      simp only [LittleFs.endStep] at h
      split at h
      · cases h
        refine .of_uartAt hi hin rfl ?_ (fun h => by cases h)
        show (TargetStage.settled (b.eTransferState == .success)).At _ _ _
        rw [hfalse]
        exact TargetStage.settled_mono hsettled rfl rfl id
      · cases h
        refine .of_uartAt hi hin rfl ?_ (fun h => by cases h)
        show (TargetStage.settled (b.eTransferState == .success)).At _ _ _
        rw [hfalse]
        exact TargetStage.settled_mono hsettled rfl rfl id
  | report =>
      obtain ⟨rfl, rfl⟩ := hquiet rfl
      have hin : b.uart.inSection = true := by rw [hu]; rfl
      have hstage := ha.uartAt hi hin
      rw [hu] at hstage
      cases h
      exact .of_uartAt hi hin rfl
        (TargetStage.settled_mono hstage rfl rfl id) (fun h => by cases h)
  | reportError eState =>
      obtain ⟨rfl, rfl⟩ := hquiet rfl
      have hin : b.uart.inSection = true := by rw [hu]; rfl
      have hstage := ha.uartAt hi hin
      rw [hu] at hstage
      cases h
      exact .of_uartAt hi hin rfl
        (TargetStage.settled_mono hstage rfl rfl id) (fun h => by cases h)
  | reset p stResult =>
      obtain ⟨rfl, rfl⟩ := hquiet rfl
      have hin : b.uart.inSection = true := by rw [hu]; rfl
      have hstage := ha.uartAt hi hin
      rw [hu] at hstage
      cases h
      cases p with
      | fields =>
          exact .of_uartAt hi hin rfl
            (TargetStage.settled_mono hstage rfl rfl fun h => h.reset .fields)
            (fun h => by cases h)
      | abort =>
          exact .of_uartAt hi hin rfl
            (TargetStage.settled_mono hstage rfl rfl fun h => h.reset .abort)
            (fun h => by cases h)
      | idle =>
          -- idle again: nothing is owed for the next transfer
          have hclosed : b.ctrl.bFileOpen = false := hat.1.closed
          exact .preparing hi hin rfl (fun _ _ => rfl) rfl hclosed rfl
  | unlock stResult =>
      obtain ⟨rfl, rfl⟩ := hquiet rfl
      cases h
      exact ha.outside rfl rfl (by rw [hu]; exact fun _ _ => rfl) (fun _ _ => rfl) rfl

end WallController.LittleFs
