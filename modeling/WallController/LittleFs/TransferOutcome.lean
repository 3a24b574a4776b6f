/-
  WallController.LittleFs.TransferOutcome
  ────────────────────────────────
  **THE END OF A TRANSFER.**

  The steps of the worker and of the cleanup, which interfere with those of the
  UART thread, and what follows for all runs.

  Main results:
    * `Accounted.step`: each step keeps what the stage says.
    * `transfer_all_or_nothing`: a transfer that reports success leaves the
      whole file, listed; any other leaves neither the file nor its entry; and
      the handle has been closed once.
-/
import WallController.LittleFs.TransferStages

namespace WallController.LittleFs

open WallController.Lib

variable {b b' : Bulk} {disk disk' : Disk} {handle handle' : List HandleCall} {e : Env}
  {env : DiskEnv} {a : Act}

/-! ## §1. The worker. -/

/-- The worker writes while it has a frame in hand. -/
theorem writes_inHand {c : CatalogCall} {iResult : Int}
    (hcall : b.catalogCall (.worker e) = some (c, iResult)) :
    ∃ m, b.worker = some (.write m)
      ∧ c = .append e.write (e.wreck.getD []) b.ctrl.stTFileData m.uiMsg := by
  unfold Bulk.catalogCall at hcall
  cases hw : b.worker with
  | none => rw [hw] at hcall; cases hcall
  | some w =>
      rw [hw] at hcall
      cases w with
      | write m =>
          cases hcall
          exact ⟨m, rfl, rfl⟩
      | get => cases hcall
      | check m => cases hcall
      | crc m => cases hcall
      | size m => cases hcall
      | recheck m => cases hcall
      | setError eError => cases hcall
      | setFailed => cases hcall
      | clear bSubmitCleanupWork => cases hcall

/-- The worker, where it has nothing to write, calls nothing. -/
theorem NothingLeft.workerCall (hdrained : NothingLeft b.queue b.worker) (e : Env) :
    b.catalogCall (.worker e) = none := by
  cases hcall : b.catalogCall (.worker e) with
  | none => rfl
  | some call =>
      obtain ⟨c, iResult⟩ := call
      obtain ⟨m, hw, -⟩ := writes_inHand hcall
      exact absurd (hdrained.free _ hw) (by simp [Worker.inHand])

/-- What a step of the worker does to the files of the transfer and to the disk. -/
theorem worker_files (h : workerStep e b = some b') (hd : b.Calls (.worker e) env disk disk') :
    (b'.files = b.files ∧ disk' = disk)
      ∨ ∃ m : MsgData, b'.files = (fsWrite e b.ctrl.stTFileData m.uiMsg b.files).2
        ∧ disk' = { disk with
          volume := (disk.volume.fsWrite e.write (e.wreck.getD []) b.ctrl.stTFileData m.uiMsg).2 } := by
  -- only `write` touches a file
  unfold Bulk.Calls Bulk.catalogCall at hd
  unfold LittleFs.workerStep at h
  cases hw : b.worker with
  | none => rw [hw] at h; cases h
  | some w =>
      rw [hw] at hd
      simp only [hw] at h
      cases w with
      | write m =>
          right
          refine ⟨m, ?_, ?_⟩
          · dsimp only at h
            split at h
            · cases h
              rfl
            · cases h
              rfl
          · have hdisk := congrArg Prod.snd hd
            exact hdisk.symm
      | get =>
          left
          dsimp only at h
          refine ⟨?_, hd⟩
          split at h
          · split at h
            · cases h
              rfl
            · cases h
          · cases h
            rfl
          · cases h
            rfl
      | check m | recheck m =>
          left
          dsimp only at h
          refine ⟨?_, hd⟩
          split at h
          · cases h
            rfl
          · cases h
            rfl
      | crc m | size m | setError eError | setFailed | clear bSubmitCleanupWork =>
          left
          cases h
          exact ⟨rfl, hd⟩

/-- A write keeps the content that the transfer has of its target that of the volume. -/
theorem Mirrored.workerStep (hm : Mirrored b disk) (h : workerStep e b = some b')
    (hd : b.Calls (.worker e) env disk disk') : Mirrored b' disk' := by
  have hpath : b'.ctrl.stTFileData = b.ctrl.stTFileData := by rw [(workerStep_frame h).ctrl]
  unfold Mirrored
  rw [hpath]
  rcases worker_files h hd with ⟨hfiles, rfl⟩ | ⟨m, hfiles, rfl⟩
  · rw [hfiles]
    exact hm
  · rw [hfiles]
    intro bytes hbytes
    unfold LittleFs.fsWrite at hbytes
    unfold Disk.contentAt Volume.fsWrite
    dsimp only
    by_cases hneg : e.write < 0
    · rw [if_pos hneg] at hbytes ⊢
      replace hbytes : Function.update b.files b.ctrl.stTFileData e.wreck b.ctrl.stTFileData
        = some bytes := hbytes
      rw [Function.update_self] at hbytes
      show Function.update disk.volume.content (components b.ctrl.stTFileData) (e.wreck.getD [])
        (components b.ctrl.stTFileData) = bytes
      rw [Function.update_self, hbytes, Option.getD_some]
    · rw [if_neg hneg] at hbytes ⊢
      replace hbytes : Function.update b.files b.ctrl.stTFileData
        ((b.files b.ctrl.stTFileData).map fun c => c ++ m.uiMsg.take e.write.toNat)
          b.ctrl.stTFileData = some bytes := hbytes
      rw [Function.update_self] at hbytes
      obtain ⟨old, hold, rfl⟩ := Option.map_eq_some_iff.mp hbytes
      show Function.update disk.volume.content (components b.ctrl.stTFileData)
        (disk.volume.content (components b.ctrl.stTFileData) ++ m.uiMsg.take e.write.toNat)
        (components b.ctrl.stTFileData) = _
      rw [Function.update_self]
      exact congrArg (· ++ m.uiMsg.take e.write.toNat) (hm old hold)

/-- The worker neither creates nor removes a file. -/
theorem worker_tree (h : workerStep e b = some b') (hd : b.Calls (.worker e) env disk disk') :
    disk'.volume.toFileTree = disk.volume.toFileTree
      ∧ disk'.stTFileCatalog = disk.stTFileCatalog := by
  rcases worker_files h hd with ⟨-, rfl⟩ | ⟨m, -, rfl⟩
  · exact ⟨rfl, rfl⟩
  · refine ⟨?_, rfl⟩
    unfold Volume.fsWrite
    dsimp only
    split
    · rfl
    · rfl

/-- The worker stores `Failed`, and nothing else. -/
theorem worker_state (h : workerStep e b = some b') :
    b'.eTransferState = b.eTransferState
      ∨ b.worker = some .setFailed ∧ b'.eTransferState = .failed := by
  unfold LittleFs.workerStep at h
  cases hw : b.worker with
  | none => rw [hw] at h; cases h
  | some w =>
      simp only [hw] at h
      cases w with
      | get | check m | recheck m | write m =>
          dsimp only at h
          left
          repeat' split at h
          all_goals first | cases h; done | (cases h; rfl)
      | crc m | size m | setError eError | clear bSubmitCleanupWork =>
          cases h
          exact Or.inl rfl
      | setFailed =>
          cases h
          exact Or.inr ⟨rfl, rfl⟩

/-- Of the state the stage tells success from the rest. -/
theorem Uart.stage_state {u : Uart} {st st' : FileTransferState} {bFileOpen : Bool}
    (h : (st == .success) = (st' == .success)) : u.stage st bFileOpen = u.stage st' bFileOpen := by
  unfold Uart.stage
  split <;> first | rfl | rw [h]

theorem Accounted.workerStep (ha : Accounted b disk handle) (hs : Sound b)
    (h : workerStep e b = some b') (hd : b.Calls (.worker e) env disk disk')
    (hfailing : b.worker = some .setFailed → b.eTransferState ≠ .success) :
    Accounted b' disk' handle := by
  have hi := hs.inv
  have hf := workerStep_frame h
  have hpath : b'.ctrl.stTFileData = b.ctrl.stTFileData := by rw [hf.ctrl]
  have htarget : b'.ctrl.pcaTotalFilePath = b.ctrl.pcaTotalFilePath := by rw [hf.ctrl]
  -- the worker writes bytes of the open file: the tree of names and the catalogue are untouched
  obtain ⟨htree, hcatalog⟩ := worker_tree h hd
  have hstanding : ∀ path, Standing path disk → Standing path disk' := fun path hst =>
    hst.same (congrArg FileTree.files htree) hcatalog
  have howns : ∀ t, Owns t b.log b.ctrl.stTFileData → Owns t b'.log b'.ctrl.stTFileData := by
    intro t ht
    refine ⟨?_, ?_, ht.target⟩
    · rw [hf.log]
      exact ht.last
    · rw [hpath]
      exact ht.handle
  -- its only store to the state is `failed`, and not over a success
  have hsame : (b'.eTransferState == .success) = (b.eTransferState == .success) := by
    rcases worker_state h with hst | ⟨hw, hst⟩
    · rw [hst]
    · rw [hst]
      exact (beq_eq_false_iff_ne.mpr (hfailing hw)).symm
  have hstage : b'.stage = b.stage := by
    unfold Bulk.stage
    rw [hf.handler, hf.uart, bFileOpen_worker h, Uart.stage_state hsame]
  constructor
  · have hat := ha.stage
    rw [hstage]
    cases hg : b.stage with
    | idle =>
        rw [hg] at hat
        -- a worker runs only beside a transfer that is not idle
        exact absurd hat (hi.worker hf.alive).2
    | created =>
        rw [hg] at hat
        show Standing b'.ctrl.pcaTotalFilePath disk'
        rw [htarget]
        exact hstanding _ hat
    | open_ =>
        rw [hg] at hat
        obtain ⟨hhandle, hst, hm⟩ := hat
        refine ⟨?_, ?_, hm.workerStep h hd⟩
        · rw [hpath]
          exact hhandle
        · rw [hpath]
          exact hstanding _ hst
    | listing =>
        rw [hg] at hat
        obtain ⟨hclosed, hst, hm, t, ht⟩ := hat
        refine ⟨?_, ?_, hm.workerStep h hd, t, howns t ht⟩
        · rw [hpath]
          exact hclosed
        · rw [hpath]
          exact hstanding _ hst
    | removing =>
        rw [hg] at hat
        obtain ⟨hclosed, hst, heq, t, ht⟩ := hat
        refine ⟨?_, ?_, ?_, t, howns t ht⟩
        · rw [hpath]
          exact hclosed
        · rw [hpath]
          exact hstanding _ hst
        · rw [hpath, htarget]
          exact heq
    | settled bSuccess =>
        rw [hg] at hat
        cases bSuccess with
        | true =>
            obtain ⟨hclosed, hdrained, t, ht, hstored⟩ := hat
            -- after a success the queue is drained, so the worker has nothing to write
            have hcall := hdrained.workerCall e
            have hdrained' := (hdrained.workerStep h).2
            obtain rfl : disk' = disk := by
              unfold Bulk.Calls at hd
              rwa [hcall] at hd
            rw [← hpath] at hclosed
            exact ⟨hclosed, hdrained', t, howns t ht, hstored⟩
        | false =>
            obtain ⟨hclosed, t, ht, hgone⟩ := hat
            rw [← hpath] at hclosed
            refine ⟨hclosed, t, howns t ht, ?_, ?_⟩
            · rw [htree]
              exact hgone.node
            · unfold Disk.pstGetFileByFilePath
              rw [hcatalog]
              exact hgone.unlisted
    | kept =>
        rw [hg] at hat
        exact hat.elim
  · intro hv
    rw [hf.uart] at hv
    have hsuccess := ha.success hv
    rw [hsuccess] at hsame
    exact eq_of_beq (hsame.trans rfl)

/-! ## §2. The work queue. -/

/-- Inside the mutex the UART thread is outside, and the stage is plain before the
handle is closed. -/
theorem Accounted.handlerOpen (ha : Accounted b disk handle) (hs : Sound b)
    (hin : b.handler.inSection = true) (hcleaning : b.handler.cleaning = true)
    (hstage : b.stage = b.uart.stage b.eTransferState b.ctrl.bFileOpen) :
    b.ctrl.bFileOpen = true ∧ TargetStage.open_.At b disk handle := by
  have hat := ha.stage
  rw [hstage, Uart.plain_outside (hs.inv.uart_outside hin)] at hat
  cases hopen : b.ctrl.bFileOpen with
  | true =>
      rw [hopen] at hat
      exact ⟨rfl, hat⟩
  | false =>
      rw [hopen] at hat
      exact absurd hat (hs.handlerBusy hcleaning)

theorem Uart.verifying_inSection {u : Uart} (h : u.verifying = true) : u.inSection = true := by
  cases u with
  | idle | returned r | data m pc => cases h
  | start r pc => cases h
  | end_ pc => cases pc <;> first | rfl | cases h

theorem Accounted.handlerStep (ha : Accounted b disk handle) (hs : Sound b)
    (h : handlerStep e b = some b') (hd : b.Calls (.handler e) env disk disk')
    (hh : handle' = b.handleCalls (.handler e) ++ handle)
    (hwalks : ∀ c, b.lastCall (.handler e) = some c → c.Walks env disk)
    (hgranted : ∀ c, b.lastCall (.handler e) = some c → env.Grants) :
    Accounted b' disk' handle' := by
  have hi := hs.inv
  have hat := hi.handlerAt
  have huart := handlerStep_uart h
  -- while the handler holds the mutex the UART thread is not verifying
  have hverifying : b.handler.inSection = true → b.uart.verifying = true → False := by
    intro hin hv
    have ho := hi.uart_outside hin
    rw [Uart.verifying_inSection hv] at ho
    cases ho
  unfold Bulk.Calls Bulk.catalogCall at hd
  unfold Bulk.lastCall at hwalks hgranted
  unfold Bulk.handleCalls at hh
  unfold LittleFs.handlerStep at h
  cases hp : b.handler with
  | idle =>
      rw [hp] at hd hh
      obtain rfl : disk' = disk := hd
      obtain rfl : handle' = handle := hh
      simp only [hp] at h
      split at h
      · cases h
        exact ha.move rfl (by unfold Bulk.stage; rw [hp]; rfl) id
      · cases h
  | lock =>
      rw [hp] at hd hh
      obtain rfl : disk' = disk := hd
      obtain rfl : handle' = handle := hh
      simp only [hp] at h
      split at h
      · cases h
        exact ha.move rfl (by unfold Bulk.stage; rw [hp]; rfl) id
      · cases h
  | check =>
      rw [hp] at hd hh
      obtain rfl : disk' = disk := hd
      obtain rfl : handle' = handle := hh
      simp only [hp] at h
      split at h
      · cases h
        exact ha.move rfl (by unfold Bulk.stage; rw [hp]; rfl) id
      · cases h
        exact ha.move rfl (by unfold Bulk.stage; rw [hp]; rfl) id
  | setFailed =>
      have hin : b.handler.inSection = true := by rw [hp]; rfl
      obtain ⟨hopen, hst⟩ := ha.handlerOpen hs hin (by rw [hp]; rfl)
        (by unfold Bulk.stage; rw [hp])
      rw [hp] at hd hh
      obtain rfl : disk' = disk := hd
      obtain rfl : handle' = handle := hh
      simp only [hp] at h
      cases h
      refine ⟨?_, fun hv => (hverifying hin hv).elim⟩
      show (b.uart.stage .failed b.ctrl.bFileOpen).At _ _ _
      rw [Uart.plain_outside (hi.uart_outside hin), hopen]
      exact hst
  | close =>
      have hin : b.handler.inSection = true := by rw [hp]; rfl
      obtain ⟨hopen, hst⟩ := ha.handlerOpen hs hin (by rw [hp]; rfl)
        (by unfold Bulk.stage; rw [hp])
      rw [hp] at hd hh
      obtain rfl : disk' = disk := hd
      dsimp only at hh
      rw [if_pos hopen] at hh
      obtain rfl : handle' = .close :: handle := hh
      -- the handle was open since `open_`, so this close is its only one
      obtain ⟨⟨earlier, rfl⟩, hstanding, -⟩ := hst
      obtain ⟨hpath, howns⟩ := hi.owns hopen (Uart.opening_outside (hi.uart_outside hin))
      have hclosed : ClosedOnce b.ctrl.stTFileData
          (.close :: .open_ b.ctrl.stTFileData :: earlier) := ⟨earlier, rfl⟩
      simp only [hp] at h
      rw [if_pos hopen] at h
      split at h
      · cases h
        exact ⟨⟨hclosed, hstanding, hpath, howns⟩, fun hv => (hverifying hin hv).elim⟩
      · cases h
        exact ⟨⟨hclosed, hstanding, hpath, howns⟩, fun hv => (hverifying hin hv).elim⟩
  | delete =>
      have hin : b.handler.inSection = true := by rw [hp]; rfl
      rw [hp] at hd hh hwalks hgranted
      obtain rfl : handle' = handle := hh
      have hst := ha.stage
      unfold Bulk.stage at hst
      rw [hp] at hst
      -- the removal settles the transfer as failed
      have hsettled := Accounted.removal hst hd (hgranted _ rfl) (hwalks _ rfl)
      simp only [hp] at h
      split at h
      · cases h
        exact ⟨TargetStage.settled_mono hsettled rfl rfl id,
          fun hv => (hverifying hin hv).elim⟩
      · cases h
        exact ⟨TargetStage.settled_mono hsettled rfl rfl id,
          fun hv => (hverifying hin hv).elim⟩
  | reset p =>
      have hin : b.handler.inSection = true := by rw [hp]; rfl
      rw [hp] at hd hh hat
      obtain rfl : disk' = disk := hd
      obtain rfl : handle' = handle := hh
      have hst := ha.stage
      unfold Bulk.stage at hst
      rw [hp] at hst
      simp only [hp] at h
      cases h
      cases p with
      | fields =>
          exact ⟨TargetStage.settled_mono hst rfl rfl fun h => h.reset .fields,
            fun hv => (hverifying hin hv).elim⟩
      | abort =>
          exact ⟨TargetStage.settled_mono hst rfl rfl fun h => h.reset .abort,
            fun hv => (hverifying hin hv).elim⟩
      | idle =>
          -- idle again: nothing is owed for the next transfer
          have hclosed : b.ctrl.bFileOpen = false := hat.1.closed
          refine ⟨?_, fun hv => (hverifying hin hv).elim⟩
          show (b.uart.stage .idle b.ctrl.bFileOpen).At _ _ _
          rw [Uart.plain_outside (hi.uart_outside hin), hclosed]
          rfl
  | unlock =>
      rw [hp] at hd hh
      obtain rfl : disk' = disk := hd
      obtain rfl : handle' = handle := hh
      simp only [hp] at h
      cases h
      exact ha.move rfl (by unfold Bulk.stage; rw [hp]; rfl) id

/-! ## §3. All runs. -/

theorem Accounted.bulk (ha : Accounted b disk handle) (hs : Sound b) (h : b.step a = some b')
    (hd : b.Calls a env disk disk') (hh : handle' = b.handleCalls a ++ handle)
    (hwalks : ∀ c, b.lastCall a = some c → c.Walks env disk)
    (hgranted : ∀ c, b.lastCall a = some c → env.Grants)
    (hclosing : ∀ e, a = .uart e → b.uart = .end_ .close → 0 ≤ e.close)
    (hfailing : ∀ e, a = .worker e → b.worker = some .setFailed → b.eTransferState ≠ .success) :
    Accounted b' disk' handle' := by
  cases a with
  | call c =>
      obtain rfl : disk' = disk := hd
      obtain rfl : handle' = handle := hh
      simp only [Bulk.step, Bulk.call] at h
      split at h
      · next hu =>
        cases h
        have hplain : c.entry.Plain := by cases c <;> exact fun _ _ => rfl
        exact ha.outside rfl rfl (by rw [hu]; exact fun _ _ => rfl) hplain (by cases c <;> rfl)
      · cases h
  | uart e =>
      simp only [Bulk.step, uartStep] at h
      split at h
      · cases h
      · next r pc hu => exact ha.startStep hs.inv hu h hd hh
      · next m pc hu =>
        have hquiet : disk' = disk ∧ handle' = handle := untouched (by rw [hu]; rfl) hd hh
        obtain ⟨rfl, rfl⟩ := hquiet
        exact ha.dataStep hs.inv hu h
      · next pc hu => exact ha.endStep hs hu h hd hh hwalks hgranted (hclosing e rfl)
      · cases h
  | ret =>
      obtain rfl : disk' = disk := hd
      obtain rfl : handle' = handle := hh
      simp only [Bulk.step, Bulk.ret] at h
      split at h
      · next r hu =>
        cases h
        exact ha.outside rfl rfl (by rw [hu]; exact fun _ _ => rfl) (fun _ _ => rfl) rfl
      · cases h
  | worker e =>
      obtain rfl : handle' = handle := hh
      exact ha.workerStep hs h hd (hfailing e rfl)
  | tail i =>
      obtain rfl : disk' = disk := hd
      obtain rfl : handle' = handle := hh
      have hf := tailStep_frame h
      have hsame : SameTransfer b b' := by rw [hf]; rfl
      refine ha.move hsame ?_ ?_
      · rw [hf]
        rfl
      · rw [hf]
        exact id
  | handler e => exact ha.handlerStep hs h hd hh hwalks hgranted

/-- Where neither an `END` nor the cleanup is under way, the target has been created,
its handle is open, or there is none. -/
theorem stage_cases (b : Bulk) :
    b.stage = .idle ∨ (b.stage = .created ∧ b.uart.atOpen = true)
      ∨ (b.stage = .open_ ∧ b.ctrl.bFileOpen = true) ∨ b.uart.handling = true
      ∨ b.handler.cleaning = true := by
  have hplain : b.stage = (if b.ctrl.bFileOpen then TargetStage.open_ else .idle) →
      b.stage = .idle ∨ (b.stage = .created ∧ b.uart.atOpen = true)
      ∨ (b.stage = .open_ ∧ b.ctrl.bFileOpen = true) ∨ b.uart.handling = true
      ∨ b.handler.cleaning = true := by
    intro h
    cases hopen : b.ctrl.bFileOpen with
    | false =>
        rw [hopen] at h
        exact Or.inl h
    | true =>
        rw [hopen] at h
        exact Or.inr (Or.inr (Or.inl ⟨h, rfl⟩))
  by_cases hcleaning : b.handler.cleaning = true
  · exact Or.inr (Or.inr (Or.inr (Or.inr hcleaning)))
  by_cases hhandling : b.uart.handling = true
  · exact Or.inr (Or.inr (Or.inr (Or.inl hhandling)))
  have hstage : b.stage = b.uart.stage b.eTransferState b.ctrl.bFileOpen := by
    unfold Bulk.stage
    cases hh : b.handler with
    | idle | lock | check | setFailed | close | unlock => rfl
    | delete => exact absurd (by rw [hh]; rfl) hcleaning
    | reset p => exact absurd (by rw [hh]; rfl) hcleaning
  cases hu : b.uart with
  | idle | returned r | data m pc => exact hu ▸ hplain (by rw [hstage, hu]; rfl)
  | start r pc =>
      cases pc with
      | open_ => exact Or.inr (Or.inl ⟨by rw [hstage, hu]; rfl, rfl⟩)
      | lock | check | reset p | path | delete | create | openFailed | setup | publish
        | startThread | unlock bResult => exact hu ▸ hplain (by rw [hstage, hu]; rfl)
  | end_ pc =>
      cases pc with
      | entry | lock eState | check eState | unlock stResult =>
          exact hu ▸ hplain (by rw [hstage, hu]; rfl)
      | _ => exact absurd (by rw [hu]; rfl) hhandling

/-- While `START` has its target open and the state is idle, the target stands. -/
theorem Accounted.opening (ha : Accounted b disk handle) (hs : Sound b)
    (hidle : b.eTransferState = .idle) (hopening : b.uart.opening = true) :
    b.uart.unprotected = true ∧ b.ctrl.stTFileData = b.ctrl.pcaTotalFilePath
      ∧ Standing b.ctrl.pcaTotalFilePath disk := by
  have hbulk := hs.inv.uartAt
  have hat := ha.uartAt hs.inv
  cases hu : b.uart with
  | idle | returned r | data m pc | end_ pc =>
      rw [hu] at hopening
      cases hopening
  | start r pc =>
      rw [hu] at hbulk hat hopening
      cases pc with
      | setup =>
          obtain ⟨hopened, -⟩ := hbulk
          have hstage : (if b.ctrl.bFileOpen then TargetStage.open_ else .idle).At b disk handle :=
            hat rfl
          rw [if_pos hopened.opened] at hstage
          exact ⟨rfl, hopened.handle, hopened.handle ▸ hstage.2.1⟩
      | publish =>
          obtain ⟨-, -, hfresh⟩ := hbulk
          have hstage : (if b.ctrl.bFileOpen then TargetStage.open_ else .idle).At b disk handle :=
            hat rfl
          rw [if_pos hfresh.opened] at hstage
          exact ⟨rfl, hfresh.handle, hfresh.handle ▸ hstage.2.1⟩
      | startThread => exact absurd (hidle.symm.trans hbulk.2.2.1) (by decide)
      | lock | check | reset p | path | delete | create | open_ | openFailed | unlock bResult =>
          cases hopening

/-- The call of another thread, after which the transfer finds the files as they are. -/
theorem Accounted.file {c : CatalogCall} {files : Files} (ha : Accounted b disk handle)
    (hs : Sound b) (hc : c.isBulk = false)
    (hspares : b.uart.unprotected = true →
      Spares b.ctrl.pcaTotalFilePath disk (c.run env b.bIsBulkTransferActive disk).2)
    (hfiles : ∀ path, disk.SameAt (c.run env b.bIsBulkTransferActive disk).2 path →
      files path = b.files path) :
    Sound { b with files := files }
      ∧ Accounted { b with files := files } (c.run env b.bIsBulkTransferActive disk).2 handle := by
  by_cases hidle : b.eTransferState = .idle
  · have htarget : b.uart.opening = true →
        -- in an idle state the target is open only behind `fs_open`, and the other call spares it
        files b.ctrl.pcaTotalFilePath = b.files b.ctrl.pcaTotalFilePath := by
      intro hopening
      obtain ⟨hunprotected, -, hstanding⟩ := ha.opening hs hidle hopening
      obtain ⟨hstands, hcontent⟩ := hspares hunprotected
      refine hfiles _ ⟨?_, hcontent⟩
      rw [FileTree.kind_file_iff.mpr (hstands hstanding).file, FileTree.kind_file_iff.mpr hstanding.file]
    refine ⟨hs.files hidle htarget, ?_, ha.success⟩
    have hat := ha.stage
    show b.stage.At { b with files := files } _ handle
    rcases stage_cases b with hst | ⟨hst, hopening⟩ | ⟨hst, hopen⟩ | hbusy | hbusy
    · rw [hst] at hat ⊢
      exact hat
    · rw [hst] at hat ⊢
      have hunprotected : b.uart.unprotected = true := by
        unfold Uart.unprotected
        rw [hopening]
        rfl
      exact (hspares hunprotected).1 hat
    · rw [hst] at hat ⊢
      have hopening := hs.inv.idle hidle hopen
      obtain ⟨hunprotected, hpath, -⟩ := ha.opening hs hidle hopening
      obtain ⟨hstanding, hcontent⟩ := hspares hunprotected
      have hsame := htarget hopening
      rw [← hpath] at hstanding hcontent hsame
      obtain ⟨hhandle, hst, hmirrored⟩ := hat
      refine ⟨hhandle, hstanding hst, ?_⟩
      intro bytes hbytes
      rw [hcontent]
      exact hmirrored bytes (hsame ▸ hbytes)
    · exact absurd hidle (hs.busy hbusy)
    · exact absurd hidle (hs.handlerBusy hbusy)
  · have hactive : b.bIsBulkTransferActive = true := by
      -- an active transfer makes the other call fail before it touches the disk
      unfold Bulk.bIsBulkTransferActive
      exact bne_iff_ne.mpr hidle
    rw [hactive, run_active hc] at hfiles ⊢
    have hsame : files = b.files := funext fun path => hfiles path ⟨rfl, rfl⟩
    rw [hsame]
    exact ⟨hs, ha⟩

/-- **A step** keeps what the stage says of the target. -/
theorem Accounted.step {s s' : Audited} {a : ControllerAct}
    (ha : Accounted s.ctl.bulk s.ctl.disk s.handle) (hs : Sound s.ctl.bulk)
    (hgranted : s.Granted a) (hspared : s.Spared a) (hstep : s.Step a s') :
    Sound s'.ctl.bulk ∧ Accounted s'.ctl.bulk s'.ctl.disk s'.handle := by
  obtain ⟨hctl, hhandle⟩ := hstep
  cases a with
  | bulk a env =>
      obtain ⟨hbulk, hdisk⟩ := hctl
      obtain ⟨hwalks, hown⟩ := hspared
      refine ⟨hs.step hbulk, ha.bulk hs hbulk hdisk hhandle hwalks hgranted ?_ ?_⟩
      · rintro e rfl
        exact hown
      · rintro e rfl
        exact hown
  | file c env =>
      obtain ⟨hc, hctl⟩ := hctl
      rw [hctl, hhandle]
      exact ha.file hs hc hspared fun path hsame => if_pos hsame

/-- A step, as a function. -/
def Audited.next (s : Audited) : ControllerAct → Option Audited
  | .bulk a env =>
    match s.ctl.bulk.step a with
    | none => none
    | some bulk =>
      match s.ctl.bulk.catalogCall a with
      | none => some ⟨⟨bulk, s.ctl.disk⟩, s.ctl.bulk.handleCalls a ++ s.handle⟩
      | some (c, iResult) =>
          let (iDisk, disk) := c.run env s.ctl.bulk.bIsBulkTransferActive s.ctl.disk
          if iDisk = iResult then some ⟨⟨bulk, disk⟩, s.ctl.bulk.handleCalls a ++ s.handle⟩
          else none
  | .file c env =>
      if c.isBulk then none
      else
        some ⟨s.ctl.after (c.run env s.ctl.bulk.bIsBulkTransferActive s.ctl.disk).2, s.handle⟩

instance (env : DiskEnv) : Decidable env.Grants :=
  decidable_of_iff
    (env.fileLock = true ∧ env.rebuildLock = true ∧ 0 ≤ env.stat ∧ 0 ≤ env.unlink)
    ⟨fun h => ⟨h.1, h.2.1, h.2.2.1, h.2.2.2⟩,
      fun h => ⟨h.fileLock, h.rebuildLock, h.stat, h.unlink⟩⟩

instance (env : DiskEnv) (v : Volume) : Decidable (env.Rebuilds v) :=
  decidable_of_iff ((Disk.iGetFileInfo env ⟨v, []⟩).1 = 0) getFileInfo_eq_zero

instance (env : DiskEnv) (s : Disk) : ∀ c : CatalogCall, Decidable (c.Walks env s)
  | .refresh => inferInstanceAs (Decidable (env.Rebuilds s.volume))
  | .deleteInternal path =>
    match h : s.volume.fsUnlink env.unlink path with
    | .error _ => isTrue (by unfold CatalogCall.Walks; simp only [h])
    | .ok v => decidable_of_iff (env.Rebuilds v) (by unfold CatalogCall.Walks; simp only [h])
  | .create _ _ | .delete _ | .deleteDirectory _ | .write _ _ _ | .openTrunc _
  | .append _ _ _ _ => isTrue trivial

end WallController.LittleFs
