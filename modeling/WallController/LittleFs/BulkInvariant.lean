/-
  WallController.LittleFs.BulkInvariant
  ────────────────────────────────
  **EVERY SUCCESSFUL TRANSFER IS DELIVERED.**

  One lemma for each of the three calls, one for the work queue handler and
  one for a former worker: a step keeps the invariant.  The worker's step is
  in `Assertions`.

  Main result:
    * `inv_of_reachable`: the invariant over all interleavings; with it, the
      files at every success in the log hold what was accepted.
-/
import WallController.LittleFs.Assertions

namespace WallController.LittleFs

open WallController.Lib

variable {b b' : Bulk} {env : Env}

/-! ## §1. The steps of `bStart_BulkDataTransfer`. -/

/-- The reset of a controller at rest. -/
theorem Preparing.reset (hp : Preparing b) (p : ResetPc) : Preparing (resetStep p b) := by
  cases p with
  | fields => exact ⟨hp.worker, hp.state, hp.closed⟩
  | abort =>
    refine ⟨?_, hp.state, rfl⟩
    show (if b.bMsg_ThreadInitialized then none else b.worker) = none
    rw [hp.worker, ite_self]
  | idle => exact ⟨hp.worker, rfl, hp.closed⟩

theorem Cleared.reset (hc : Cleared b) (p : ResetPc) : Cleared (resetStep p b) := by
  cases p with
  | fields => exact ⟨rfl, rfl, rfl⟩
  | abort | idle => exact ⟨hc.received, hc.acceptedSize, hc.nextId⟩

/-- A file opened for writing and truncated is empty. -/
theorem fsOpenTrunc_empty {path : Path} {files : Files}
    (h : ¬ (fsOpenTrunc env path files).1 < 0) : (fsOpenTrunc env path files).2 path = some [] := by
  unfold fsOpenTrunc at h ⊢
  split at h
  · next hneg => exact absurd hneg h
  · next hneg =>
    rw [if_neg hneg]
    split at h
    · simp [ENOENT] at h
    · next hsome =>
      rw [if_neg hsome]
      exact Function.update_self path (some []) files

theorem Inv.startStep {r : BulkTransferData} {pc : StartPc} (hi : Inv b)
    (hu : b.uart = .start r pc) (h : startStep env r pc b = some b') : Inv b' := by
  have hat := hi.uartAt
  rw [hu] at hat
  cases pc with
  | lock =>
    have ho : b.uart.inSection = false := by rw [hu]; rfl
    simp only [LittleFs.startStep] at h
    split at h
    · cases h
      exact hi.outside rfl ho rfl rfl rfl
    · split at h
      · next hm =>
        -- from here to `unlock` the UART thread holds the bulk mutex
        cases h
        exact hi.lock ho hm rfl rfl rfl trivial
      · split at h
        · cases h
          exact hi.outside rfl ho rfl rfl rfl
        · cases h
  | check =>
    have hin : b.uart.inSection = true := by rw [hu]; rfl
    have hop : b.uart.opening = false := by rw [hu]; rfl
    have hpe : b.uart.pending = [] := by rw [hu]; rfl
    simp only [LittleFs.startStep] at h
    split at h
    · cases h
      exact hi.move rfl hin rfl rfl rfl hop.symm hpe.symm trivial
    · next hactive =>
      cases h
      have hidle : b.eTransferState = .idle := by
        simpa [Bulk.bIsBulkTransferActive] using hactive
      refine hi.move rfl hin rfl rfl rfl hop.symm hpe.symm ⟨?_, hidle, ?_⟩
      -- a worker never runs beside an idle state, so none is left over
      · exact Classical.byContradiction fun hw => (hi.worker hw).2 hidle
      · exact Bool.eq_false_iff.mpr fun ho => by simpa [hop] using hi.idle hidle ho
  | reset p =>
    have hin : b.uart.inSection = true := by rw [hu]; rfl
    cases h
    -- each store of the reset keeps what the stores before it cleared
    cases p with
    | fields =>
      obtain ⟨hw, hs, hc⟩ := Preparing.reset hat .fields
      exact hi.preparing hin rfl rfl rfl rfl ⟨hw, hs, hc⟩ ⟨⟨hw, hs, hc⟩, ⟨rfl, rfl, rfl⟩⟩
    | abort =>
      obtain ⟨hw, hs, hc⟩ := Preparing.reset hat.1 .abort
      obtain ⟨hr, ha, hn⟩ := hat.2.reset .abort
      exact hi.preparing hin rfl rfl rfl rfl ⟨hw, hs, hc⟩ ⟨⟨hw, hs, hc⟩, ⟨hr, ha, hn⟩⟩
    | idle =>
      obtain ⟨hw, hs, hc⟩ := Preparing.reset hat.1 .idle
      obtain ⟨hr, ha, hn⟩ := hat.2.reset .idle
      exact hi.preparing hin rfl rfl rfl rfl ⟨hw, hs, hc⟩ ⟨⟨hw, hs, hc⟩, ⟨hr, ha, hn⟩⟩
  | path =>
    have hin : b.uart.inSection = true := by rw [hu]; rfl
    obtain ⟨hp, hc⟩ : Preparing b ∧ Cleared b := hat
    simp only [LittleFs.startStep] at h
    split at h
    · cases h
      exact hi.preparing hin rfl rfl rfl rfl ⟨hp.worker, hp.state, hp.closed⟩ trivial
    · next dir hdir =>
      split at h
      · cases h
        exact hi.preparing hin rfl rfl rfl rfl ⟨hp.worker, rfl, hp.closed⟩ trivial
      · next path hname =>
        cases h
        refine hi.preparing hin rfl rfl rfl rfl ⟨hp.worker, hp.state, hp.closed⟩
          ⟨⟨hp.worker, hp.state, hp.closed⟩, ⟨hc.received, hc.acceptedSize, hc.nextId⟩, ?_⟩
        show (directoryOf r.eFileType).bind _ = _
        rw [hdir]
        exact hname
  | delete =>
    have hin : b.uart.inSection = true := by rw [hu]; rfl
    obtain ⟨hp, hc, ht⟩ : Preparing b ∧ Cleared b ∧ Aimed r b := hat
    simp only [LittleFs.startStep] at h
    split at h
    · cases h
      exact hi.preparing hin rfl rfl rfl rfl ⟨hp.worker, hp.state, hp.closed⟩ trivial
    · cases h
      exact hi.preparing hin rfl rfl rfl rfl ⟨hp.worker, hp.state, hp.closed⟩
        ⟨⟨hp.worker, hp.state, hp.closed⟩, ⟨hc.received, hc.acceptedSize, hc.nextId⟩, ht⟩
  | create =>
    have hin : b.uart.inSection = true := by rw [hu]; rfl
    obtain ⟨hp, hc, ht⟩ : Preparing b ∧ Cleared b ∧ Aimed r b := hat
    simp only [LittleFs.startStep] at h
    split at h
    · cases h
      exact hi.preparing hin rfl rfl rfl rfl ⟨hp.worker, hp.state, hp.closed⟩ trivial
    · cases h
      exact hi.preparing hin rfl rfl rfl rfl ⟨hp.worker, hp.state, hp.closed⟩
        ⟨⟨hp.worker, hp.state, hp.closed⟩, ⟨hc.received, hc.acceptedSize, hc.nextId⟩, ht⟩
  | open_ =>
    have hin : b.uart.inSection = true := by rw [hu]; rfl
    obtain ⟨hp, hc, ht⟩ : Preparing b ∧ Cleared b ∧ Aimed r b := hat
    simp only [LittleFs.startStep] at h
    split at h
    · cases h
      exact hi.preparing hin rfl rfl rfl rfl ⟨hp.worker, hp.state, hp.closed⟩
        ⟨⟨hp.worker, hp.state, hp.closed⟩, ⟨hc.received, hc.acceptedSize, hc.nextId⟩⟩
    · next hopen =>
      cases h
      -- the file is open, but nothing can be sent before `startThread` publishes the transfer
      refine hi.inside hin rfl rfl rfl (fun hw => absurd hp.worker hw) (fun _ => rfl)
        (fun _ _ => rfl) ⟨⟨hp.worker, hp.state, rfl, rfl, fsOpenTrunc_empty hopen⟩,
          ⟨hc.received, hc.acceptedSize, hc.nextId⟩, ht⟩ (fun _ ho => by cases ho) hi.faithful
  | openFailed =>
    have hin : b.uart.inSection = true := by rw [hu]; rfl
    obtain ⟨hp, hc⟩ : Preparing b ∧ Cleared b := hat
    cases h
    exact hi.preparing hin rfl rfl rfl rfl ⟨hp.worker, hp.state, hp.closed⟩ trivial
  | setup =>
    have hin : b.uart.inSection = true := by rw [hu]; rfl
    obtain ⟨ho, hc, ht⟩ : Opened b ∧ Cleared b ∧ Aimed r b := hat
    cases h
    refine hi.inside hin rfl rfl rfl (fun hw => absurd ho.worker hw) (fun _ => ho.opened)
      (fun _ _ => rfl) ⟨ho.worker, ho.state, ?_⟩ (fun _ ho => by cases ho) hi.faithful
    exact ⟨ho.opened, ht, ho.handle, ho.empty, rfl, rfl, rfl, hc.received, hc.acceptedSize,
      hc.nextId, rfl⟩
  | publish =>
    have hin : b.uart.inSection = true := by rw [hu]; rfl
    obtain ⟨hw, hs, hf⟩ : b.worker = none ∧ b.eTransferState = .idle ∧ Fresh r b := hat
    cases h
    refine hi.inside hin rfl rfl rfl (fun hw' => absurd hw hw') (fun _ => hf.opened)
      (fun _ _ => rfl) ⟨hw, rfl, rfl, ?_, b.log, rfl⟩ (fun _ ho => by cases ho) ?_
    · exact ⟨hf.opened, hf.target, hf.handle, hf.empty, hf.size, hf.crc, hf.running, hf.received,
        hf.acceptedSize, hf.nextId, hf.queue⟩
    -- a start entry in the log: no result and no accepted payload
    · exact hi.faithful.cons (by simp)
  | startThread =>
    have hin : b.uart.inSection = true := by rw [hu]; rfl
    obtain ⟨hw, hfl, hs, hf, log, hlog⟩ : b.worker = none ∧ b.bMsg_ThreadInitialized = true
      ∧ b.eTransferState = .receiving ∧ Fresh r b ∧ ∃ log, b.log = _ := hat
    cases h
    -- the worker of the newest start in the log runs, and nothing has been sent yet
    refine hi.inside hin rfl rfl rfl (fun _ => ⟨hfl, ?_⟩) (fun _ => hf.opened) ?_ trivial
      (fun _ _ => ⟨_, (hf.start hlog).congr rfl rfl rfl rfl rfl⟩) hi.faithful
    · show b.eTransferState ≠ .idle
      simp [hs]
    · intro hidle
      exact absurd (hs.symm.trans hidle) (by simp)
  | unlock res =>
    cases h
    exact hi.unlock (by rw [hu]; rfl) (by rw [hu]; rfl) (by rw [hu]; rfl) rfl

/-! ## §2. The steps of `iSend_BulkTransferData`. -/

theorem Inv.dataStep {m : MsgData} {pc : DataPc} (hi : Inv b)
    (hu : b.uart = .data m pc) (h : dataStep env m pc b = some b') : Inv b' := by
  have hat := hi.uartAt
  rw [hu] at hat
  have hop : b.uart.opening = false := by rw [hu]; rfl
  cases pc with
  | lock =>
    have ho : b.uart.inSection = false := by rw [hu]; rfl
    simp only [LittleFs.dataStep] at h
    split at h
    · cases h
      exact hi.outside rfl ho rfl rfl rfl
    · next hlen =>
      split at h
      · next hm =>
        cases h
        refine hi.lock ho hm rfl rfl rfl fun h0 => hlen (Or.inl ?_)
        rw [MsgData.uiDataLen, h0, List.length_nil]
      · split at h
        · cases h
          exact hi.outside rfl ho rfl rfl rfl
        · cases h
  | check =>
    have hin : b.uart.inSection = true := by rw [hu]; rfl
    have hpe : b.uart.pending = [] := by rw [hu]; rfl
    simp only [LittleFs.dataStep] at h
    split at h
    · next hr =>
      cases h
      have hr' : b.eTransferState = .receiving := by simpa [Bulk.bIsBulkDataReceiving] using hr
      exact hi.move rfl hin rfl rfl rfl hop.symm hpe.symm ⟨hat, hi.receiving hr'⟩
    · cases h
      exact hi.move rfl hin rfl rfl rfl hop.symm hpe.symm trivial
  | checkError =>
    have hin : b.uart.inSection = true := by rw [hu]; rfl
    have hpe : b.uart.pending = [] := by rw [hu]; rfl
    simp only [LittleFs.dataStep] at h
    split at h
    · cases h
      exact hi.move rfl hin rfl rfl rfl hop.symm hpe.symm trivial
    · cases h
      exact hi.move rfl hin rfl rfl rfl hop.symm hpe.symm hat
  | accept =>
    have hin : b.uart.inSection = true := by rw [hu]; rfl
    have hpe : b.uart.pending = [] := by rw [hu]; rfl
    obtain ⟨hm, hopen⟩ : m.uiMsg ≠ [] ∧ b.ctrl.bFileOpen = true := hat
    simp only [LittleFs.dataStep] at h
    split at h
    · cases h
      exact hi.move rfl hin rfl rfl rfl hop.symm hpe.symm trivial
    · next hid =>
      split at h
      · cases h
        exact hi.move rfl hin rfl rfl rfl hop.symm hpe.symm trivial
      · next hfit =>
        split at h
        · cases h
          exact hi.move rfl hin rfl rfl rfl hop.symm hpe.symm trivial
        · split at h
          · cases h
            -- the only branch that queues the payload: it stays pending until `account` counts it
            obtain ⟨t, ht⟩ := hi.sending hopen hop
            rw [hpe] at ht
            refine hi.inside hin rfl rfl rfl hi.worker hi.receiving ?_ ⟨hm, hopen⟩
              (fun _ _ => ⟨t.accept m, ?_⟩) (hi.faithful.cons (by simp))
            · exact fun h1 h2 => absurd (hi.idle h1 h2) (by simp [hop])
            · exact ht.accept hm (not_not.mp hid) (by omega) rfl rfl rfl rfl rfl
          · cases h
            exact hi.move rfl hin rfl rfl rfl hop.symm hpe.symm trivial
  | account =>
    have hin : b.uart.inSection = true := by rw [hu]; rfl
    have hpe : b.uart.pending = [m] := by rw [hu]; rfl
    obtain ⟨hm, hopen⟩ : m.uiMsg ≠ [] ∧ b.ctrl.bFileOpen = true := hat
    cases h
    -- the counters now cover the pending payload
    obtain ⟨t, ht⟩ := hi.sending hopen hop
    rw [hpe] at ht
    refine hi.inside hin rfl rfl rfl hi.worker hi.receiving ?_ trivial
      (fun _ _ => ⟨t, ht.account rfl rfl rfl rfl rfl⟩) hi.faithful
    exact fun h1 h2 => absurd (hi.idle h1 h2) (by simp [hop])
  | unlock i =>
    cases h
    exact hi.unlock (by rw [hu]; rfl) hop (by rw [hu]; rfl) rfl

/-! ## §3. The steps of `vEnd_BulkDataTransfer`. -/

theorem Closed.reset (hc : Closed b) (p : ResetPc) : Closed (resetStep p b) := by
  cases p with
  | fields => exact ⟨hc.closed, hc.state⟩
  | abort => exact ⟨rfl, hc.state⟩
  | idle => exact ⟨hc.closed, by simp [resetStep]⟩

/-- After the abort no worker is left: one without the flag has ended. -/
theorem Inv.worker_aborted (hi : Inv b) : (resetStep .abort b).worker = none := by
  show (if b.bMsg_ThreadInitialized then none else b.worker) = none
  by_cases hf : b.bMsg_ThreadInitialized = true
  · rw [if_pos hf]
  · rw [if_neg hf]
    exact Classical.byContradiction fun hw => hf (hi.worker hw).1

/-- The steps of `vEnd_BulkDataTransfer` with the file open. -/
theorem Inv.ending (hi : Inv b) {pc pc' : EndPc} (hu : b.uart = .end_ pc)
    (hin : b.uart.inSection = true) (hopen : b.ctrl.bFileOpen = true)
    (hmutex : b'.kMutex_BulkTransfer = b.kMutex_BulkTransfer) (hhandler : b'.handler = b.handler)
    (hlog : b'.log = b.log) (hu' : b'.uart = .end_ pc') (hin' : b'.uart.inSection = true)
    (hctrl : b'.ctrl = b.ctrl) (hstate : b'.eTransferState ≠ .idle)
    (hworker : b'.worker ≠ none → b'.bMsg_ThreadInitialized = true)
    (hat : pc'.At b') (hsend : ∀ t, Sending t [] b → Sending t [] b') : Inv b' := by
  have hop : b.uart.opening = false := by rw [hu]; rfl
  have hpe : b.uart.pending = [] := by rw [hu]; rfl
  refine hi.inside hin hmutex hhandler hin' (fun hw => ⟨hworker hw, hstate⟩) ?_
    (fun h => absurd h hstate) (by rw [hu']; exact hat) ?_ (by rw [hlog]; exact hi.faithful)
  · exact fun _ => by rw [hctrl]; exact hopen
  · intro _ _
    obtain ⟨t, ht⟩ := hi.sending hopen hop
    rw [hpe] at ht
    rw [hu']
    exact ⟨t, hsend t ht⟩

/-- With its file open, a transfer is not idle. -/
theorem Inv.not_idle (hi : Inv b) {pc : EndPc} (hu : b.uart = .end_ pc)
    (hopen : b.ctrl.bFileOpen = true) : b.eTransferState ≠ .idle := by
  intro hidle
  have := hi.idle hidle hopen
  rw [hu] at this
  cases this

theorem Inv.endStep {pc : EndPc} (hi : Inv b)
    (hu : b.uart = .end_ pc) (h : endStep env pc b = some b') : Inv b' := by
  have hat := hi.uartAt
  rw [hu] at hat
  have hop : b.uart.opening = false := by rw [hu]; rfl
  have hpe : b.uart.pending = [] := by rw [hu]; rfl
  cases pc with
  | entry =>
    cases h
    exact hi.outside rfl (by rw [hu]; rfl) rfl rfl rfl
  | lock st =>
    have ho : b.uart.inSection = false := by rw [hu]; rfl
    simp only [LittleFs.endStep] at h
    split at h
    · next hm =>
      cases h
      exact hi.lock ho hm rfl rfl rfl trivial
    · split at h
      · cases h
        exact hi.outside rfl ho rfl rfl rfl
      · cases h
  | check st =>
    have hin : b.uart.inSection = true := by rw [hu]; rfl
    simp only [LittleFs.endStep] at h
    split at h
    · next hr =>
      cases h
      have hr' : b.eTransferState = .receiving := by simpa [Bulk.bIsBulkDataReceiving] using hr
      exact hi.move rfl hin rfl rfl rfl hop.symm hpe.symm (hi.receiving hr')
    · cases h
      exact hi.move rfl hin rfl rfl rfl hop.symm hpe.symm trivial
  | finalizing =>
    have hin : b.uart.inSection = true := by rw [hu]; rfl
    cases h
    exact hi.ending hu hin hat rfl rfl rfl rfl rfl rfl (by simp [Bulk.atEnd])
      (fun hw => (hi.worker hw).1) ⟨hat, by simp [Bulk.atEnd]⟩
      fun t ht => ht.congr rfl rfl rfl rfl rfl
  | put =>
    have hin : b.uart.inSection = true := by rw [hu]; rfl
    obtain ⟨hopen, hst⟩ : Ending b := hat
    simp only [LittleFs.endStep] at h
    split at h
    · cases h
      exact hi.ending hu hin hopen rfl rfl rfl rfl rfl rfl (hi.not_idle hu hopen)
        (fun hw => (hi.worker hw).1) ⟨hopen, hst⟩
        fun t ht => ht.putEnd rfl rfl rfl rfl rfl
    · split at h
      · cases h
        exact hi.move rfl hin rfl rfl rfl hop.symm hpe.symm ⟨hopen, hst⟩
      · cases h
  | take =>
    have hin : b.uart.inSection = true := by rw [hu]; rfl
    obtain ⟨hopen, hst⟩ : Ending b := hat
    simp only [LittleFs.endStep] at h
    split at h
    · cases h
      exact hi.move rfl hin rfl rfl rfl hop.symm hpe.symm ⟨hopen, hst⟩
    · split at h
      · cases h
        exact hi.move rfl hin rfl rfl rfl hop.symm hpe.symm ⟨hopen, hst⟩
      · cases h
  | error =>
    have hin : b.uart.inSection = true := by rw [hu]; rfl
    obtain ⟨hopen, hst⟩ : Ending b := hat
    simp only [LittleFs.endStep] at h
    split at h
    · cases h
      exact hi.move rfl hin rfl rfl rfl hop.symm hpe.symm ⟨hopen, hst⟩
    · cases h
      exact hi.move rfl hin rfl rfl rfl hop.symm hpe.symm ⟨hopen, hst⟩
  | size =>
    have hin : b.uart.inSection = true := by rw [hu]; rfl
    obtain ⟨hopen, hst⟩ : Ending b := hat
    simp only [LittleFs.endStep] at h
    split at h
    · cases h
      exact hi.move rfl hin rfl rfl rfl hop.symm hpe.symm ⟨hopen, hst⟩
    · next hsize =>
      cases h
      -- sizes equal: every byte of the file has been sent
      obtain ⟨t, ht⟩ := hi.sending hopen hop
      have hc := ht.complete (not_not.mp hsize)
      exact hi.move rfl hin rfl rfl rfl hop.symm hpe.symm
        ⟨⟨hopen, hst⟩, t, hc.congr rfl rfl rfl rfl hc.drained hc.free⟩
  | crc =>
    have hin : b.uart.inSection = true := by rw [hu]; rfl
    obtain ⟨⟨hopen, hst⟩, t, hc⟩ : Ending b ∧ ∃ t, Complete t b := hat
    simp only [LittleFs.endStep] at h
    split at h
    · cases h
      exact hi.move rfl hin rfl rfl rfl hop.symm hpe.symm ⟨hopen, hst⟩
    · next hcrc =>
      cases h
      -- checksums equal as well: the file holds what the host announced
      have hv := hc.verified (not_not.mp hcrc)
      exact hi.move rfl hin rfl rfl rfl hop.symm hpe.symm ⟨⟨hopen, hst⟩, t, hv.congr rfl rfl rfl rfl rfl rfl⟩
  | setNone =>
    have hin : b.uart.inSection = true := by rw [hu]; rfl
    obtain ⟨⟨hopen, hst⟩, t, hv⟩ : Ending b ∧ ∃ t, Verified t b := hat
    cases h
    exact hi.move rfl hin rfl rfl rfl hop.symm hpe.symm ⟨⟨hopen, hst⟩, t, hv.congr rfl rfl rfl rfl rfl rfl⟩
  | setSuccess =>
    have hin : b.uart.inSection = true := by rw [hu]; rfl
    obtain ⟨⟨hopen, hst⟩, t, hv⟩ : Ending b ∧ ∃ t, Verified t b := hat
    cases h
    exact hi.ending hu hin hopen rfl rfl rfl rfl rfl rfl (by simp [Bulk.atEnd])
      (fun hw => (hi.worker hw).1)
      ⟨⟨hopen, by simp [Bulk.atEnd]⟩, t, hv.congr rfl rfl rfl rfl rfl rfl⟩
      fun t ht => ht.congr rfl rfl rfl rfl rfl
  | sync =>
    have hin : b.uart.inSection = true := by rw [hu]; rfl
    obtain ⟨⟨hopen, hst⟩, t, hv⟩ : Ending b ∧ ∃ t, Verified t b := hat
    simp only [LittleFs.endStep] at h
    split at h
    · cases h
      exact hi.move rfl hin rfl rfl rfl hop.symm hpe.symm ⟨hopen, hst⟩
    · cases h
      exact hi.move rfl hin rfl rfl rfl hop.symm hpe.symm ⟨⟨hopen, hst⟩, t, hv.congr rfl rfl rfl rfl rfl rfl⟩
  | close =>
    have hin : b.uart.inSection = true := by rw [hu]; rfl
    obtain ⟨⟨hopen, hst⟩, t, hv⟩ : Ending b ∧ ∃ t, Verified t b := hat
    simp only [LittleFs.endStep] at h
    split at h
    · cases h
      exact hi.closed hin rfl rfl rfl ⟨rfl, hst⟩ hi.worker ⟨rfl, hst⟩ hi.faithful
    · cases h
      exact hi.closed hin rfl rfl rfl ⟨rfl, hst⟩ hi.worker
        ⟨⟨rfl, hst⟩, t, hv.congr rfl rfl rfl rfl rfl rfl⟩ hi.faithful
  | refresh =>
    have hin : b.uart.inSection = true := by rw [hu]; rfl
    obtain ⟨⟨hcl, hst⟩, t, hv⟩ : Closed b ∧ ∃ t, Verified t b := hat
    simp only [LittleFs.endStep] at h
    split at h
    · cases h
      exact hi.move rfl hin rfl rfl rfl hop.symm hpe.symm ⟨hcl, hst⟩
    · cases h
      exact hi.move rfl hin rfl rfl rfl hop.symm hpe.symm
        ⟨⟨hcl, hst⟩, fun _ => ⟨t, hv.congr rfl rfl rfl rfl rfl rfl⟩⟩
  | setError e bExit =>
    have hin : b.uart.inSection = true := by rw [hu]; rfl
    cases h
    -- `bExit` errors come after the close, the others still have the file open
    cases bExit with
    | true =>
      have hc : Closed b := hat
      exact hi.move rfl hin rfl rfl rfl hop.symm hpe.symm ⟨hc.closed, hc.state⟩
    | false =>
      have hc : Ending b := hat
      exact hi.move rfl hin rfl rfl rfl hop.symm hpe.symm ⟨hc.opened, hc.state⟩
  | setFailed bExit =>
    have hin : b.uart.inSection = true := by rw [hu]; rfl
    cases h
    cases bExit with
    | true =>
      have hc : Closed b := hat
      exact hi.closed hin rfl rfl rfl ⟨hc.closed, by simp [Bulk.atEnd]⟩
        (fun hw => ⟨(hi.worker hw).1, by simp [Bulk.atEnd]⟩)
        ⟨⟨hc.closed, by simp [Bulk.atEnd]⟩, by simp [Bulk.atEnd]⟩ hi.faithful
    | false =>
      have hc : Ending b := hat
      exact hi.ending hu hin hc.opened rfl rfl rfl rfl rfl rfl (by simp [Bulk.atEnd])
        (fun hw => (hi.worker hw).1) rfl fun t ht => ht.congr rfl rfl rfl rfl rfl
  | abort =>
    have hin : b.uart.inSection = true := by rw [hu]; rfl
    have hst : b.eTransferState = .failed := hat
    simp only [LittleFs.endStep] at h
    split at h
    · cases h
      -- an aborted worker writes no more; what it has written stays
      refine hi.inside hin rfl rfl rfl (fun hw => absurd rfl hw) hi.receiving ?_ hst ?_ hi.faithful
      · exact fun h1 => absurd (hst.symm.trans h1) (by simp)
      · intro h1 _
        obtain ⟨t, ht⟩ := hi.sending h1 hop
        rw [hpe] at ht
        exact ⟨t, ht.abort rfl rfl rfl rfl rfl⟩
    · cases h
      exact hi.move rfl hin rfl rfl rfl hop.symm hpe.symm hst
  | failClose =>
    have hin : b.uart.inSection = true := by rw [hu]; rfl
    have hst : b.eTransferState = .failed := hat
    have hnr : b.eTransferState ≠ .receiving := by simp [hst]
    simp only [LittleFs.endStep] at h
    split at h
    · split at h
      · cases h
        exact hi.closed hin rfl rfl rfl ⟨rfl, hnr⟩ hi.worker ⟨hst, rfl⟩ hi.faithful
      · cases h
        exact hi.closed hin rfl rfl rfl ⟨rfl, hnr⟩ hi.worker ⟨hst, rfl⟩ hi.faithful
    · next hcl =>
      cases h
      exact hi.move rfl hin rfl rfl rfl hop.symm hpe.symm ⟨hst, Bool.eq_false_iff.mpr hcl⟩
  | failDelete =>
    have hin : b.uart.inSection = true := by rw [hu]; rfl
    obtain ⟨hst, hcl⟩ : b.eTransferState = .failed ∧ b.ctrl.bFileOpen = false := hat
    have hnr : b.eTransferState ≠ .receiving := by simp [hst]
    have hns : b.eTransferState = .success → ∃ t, Verified t b' := by simp [hst]
    simp only [LittleFs.endStep] at h
    split at h
    · cases h
      exact hi.closed hin rfl rfl rfl ⟨hcl, hnr⟩ hi.worker ⟨⟨hcl, hnr⟩, hns⟩ hi.faithful
    · cases h
      exact hi.closed hin rfl rfl rfl ⟨hcl, hnr⟩ hi.worker ⟨⟨hcl, hnr⟩, hns⟩ hi.faithful
  | report =>
    have hin : b.uart.inSection = true := by rw [hu]; rfl
    obtain ⟨⟨hcl, hst⟩, hv⟩ : Closed b ∧ (b.eTransferState = .success → ∃ t, Verified t b) := hat
    cases h
    refine hi.move rfl hin rfl rfl rfl hop.symm hpe.symm ⟨⟨hcl, hst⟩, fun hs => ?_⟩
    exact (hv hs).imp fun t ht => ht.congr rfl rfl rfl rfl rfl rfl
  | reportError st =>
    have hin : b.uart.inSection = true := by rw [hu]; rfl
    obtain ⟨⟨hcl, hst⟩, hv⟩ : Closed b ∧ (st = .success → ∃ t, Verified t b) := hat
    cases h
    refine hi.closed hin rfl rfl rfl ⟨hcl, hst⟩ hi.worker ⟨hcl, hst⟩ ?_
    -- only a success speaks of the file, and `report` kept its proof
    exact hi.faithful.ended fun hs => (hv (by simpa using congrArg TransferResult.eTransferState hs)).imp
      fun t ht => ⟨ht.1.current, ht.delivered⟩
  | reset p r =>
    have hin : b.uart.inSection = true := by rw [hu]; rfl
    cases h
    cases p with
    | fields =>
      obtain ⟨hcl, hst⟩ := Closed.reset hat .fields
      exact hi.closed hin rfl rfl rfl ⟨hcl, hst⟩ hi.worker ⟨hcl, hst⟩ hi.faithful
    | abort =>
      obtain ⟨hcl, hst⟩ := Closed.reset hat .abort
      -- the abort leaves no worker, so the state may go back to idle
      have hw := hi.worker_aborted
      exact hi.closed hin rfl rfl rfl ⟨hcl, hst⟩ (fun h => absurd hw h) ⟨⟨hcl, hst⟩, hw⟩ hi.faithful
    | idle =>
      obtain ⟨hc, hw⟩ : Closed b ∧ b.worker = none := hat
      obtain ⟨hcl, hst⟩ := hc.reset .idle
      exact hi.closed hin rfl rfl rfl ⟨hcl, hst⟩ (fun h => absurd hw h) trivial hi.faithful
  | unlock r =>
    cases h
    exact hi.unlock (by rw [hu]; rfl) hop hpe rfl

/-! ## §4. The work queue and the former workers. -/

/-- A step of the handler: the UART thread is outside, or the handler is. -/
theorem Inv.handling (hi : Inv b) (hin : b.handler.inSection = true)
    (hmutex : b'.kMutex_BulkTransfer = b.kMutex_BulkTransfer) (huart : b'.uart = b.uart)
    (hlog : b'.log = b.log) (hin' : b'.handler.inSection = true)
    (hworker : b'.worker ≠ none →
      b'.bMsg_ThreadInitialized = true ∧ b'.eTransferState ≠ .idle)
    (hreceiving : b'.eTransferState ≠ .receiving)
    (hidle : b'.eTransferState = .idle → b'.ctrl.bFileOpen = false)
    (hat : b'.handler.At b')
    (hsending : b'.ctrl.bFileOpen = true → ∀ t, Sending t [] b → Sending t [] b')
    (hopen : b'.ctrl.bFileOpen = true → b.ctrl.bFileOpen = true) : Inv b' := by
  have ho := hi.uart_outside hin
  constructor
  · rw [hmutex, huart]; exact hi.uartLock
  · rw [hmutex, hi.handlerLock, hin, hin']
  · exact hworker
  · exact fun h => absurd h hreceiving
  · exact fun h1 h2 => absurd (h2.symm.trans (hidle h1)) (by simp)
  · rw [huart]; exact Uart.at_outside ho b'
  · exact hat
  · intro h1 _
    obtain ⟨t, ht⟩ := hi.sending (hopen h1) (Uart.opening_outside ho)
    rw [huart]
    rw [Uart.pending_outside ho] at ht ⊢
    exact ⟨t, hsending h1 t ht⟩
  · rw [hlog]; exact hi.faithful

/-- The handler's steps with the file closed. -/
theorem Inv.handlingClosed (hi : Inv b) (hin : b.handler.inSection = true)
    (hmutex : b'.kMutex_BulkTransfer = b.kMutex_BulkTransfer) (huart : b'.uart = b.uart)
    (hlog : b'.log = b.log) (hin' : b'.handler.inSection = true) (hc : Closed b')
    (hworker : b'.worker ≠ none →
      b'.bMsg_ThreadInitialized = true ∧ b'.eTransferState ≠ .idle)
    (hat : b'.handler.At b') : Inv b' := by
  have hclosed : ∀ {P : Prop}, b'.ctrl.bFileOpen = true → P := fun h =>
    absurd (hc.closed.symm.trans h) (by simp)
  exact hi.handling hin hmutex huart hlog hin' hworker hc.state (fun _ => hc.closed) hat
    (fun h => hclosed h) (fun h => hclosed h)

/-- The handler moves, and the UART thread does not. -/
theorem Inv.handlerMove (hi : Inv b) (hs : SameTransfer b b') (huart : b'.uart = b.uart)
    (hul : b'.kMutex_BulkTransfer = some .uart ↔ b.kMutex_BulkTransfer = some .uart)
    (hhl : b'.kMutex_BulkTransfer = some .workQueue ↔ b'.handler.inSection = true)
    (hat : b'.handler.At b') : Inv b' := by
  refine hi.same hs ?_ hhl (by rw [huart]) (by rw [huart]) ?_ hat
  · rw [hul, huart]; exact hi.uartLock
  · rw [huart]; exact Uart.at_congr hs hi.uartAt

/-- The handler leaves the UART thread where it is. -/
theorem handlerStep_uart (h : handlerStep env b = some b') : b'.uart = b.uart := by
  unfold LittleFs.handlerStep at h
  cases hh : b.handler with
  | idle | lock | check | close | delete =>
    simp only [hh] at h
    repeat' split at h
    all_goals first | (cases h; rfl) | cases h
  | setFailed | unlock =>
    simp only [hh] at h
    cases h
    rfl
  | reset p =>
    simp only [hh] at h
    cases h
    cases p <;> rfl

theorem Inv.handlerStep (hi : Inv b) (h : handlerStep env b = some b') : Inv b' := by
  have hat := hi.handlerAt
  unfold LittleFs.handlerStep at h
  cases hh : b.handler with
  | idle =>
    simp only [hh] at h
    split at h
    · cases h
      have hl := hi.handlerLock
      rw [hh] at hl
      exact hi.handlerMove rfl rfl Iff.rfl hl trivial
    · cases h
  | lock =>
    simp only [hh] at h
    split at h
    · next hm =>
      cases h
      exact hi.handlerMove rfl rfl (by simp [Bulk.atHandler, hm])
        (by simp [Bulk.atHandler, Handler.inSection]) trivial
    · cases h
  | check =>
    have hl := hi.handlerLock
    rw [hh] at hl
    simp only [hh] at h
    split at h
    · cases h
      exact hi.handlerMove rfl rfl Iff.rfl hl trivial
    · cases h
      exact hi.handlerMove rfl rfl Iff.rfl hl trivial
  | setFailed =>
    have hin : b.handler.inSection = true := by rw [hh]; rfl
    simp only [hh] at h
    cases h
    -- the session is marked failed while its file is still open
    exact hi.handling hin rfl rfl rfl rfl (fun hw => ⟨(hi.worker hw).1, by simp [Bulk.atHandler]⟩)
      (by simp [Bulk.atHandler]) (by simp [Bulk.atHandler]) rfl
      (fun _ t ht => ht.congr rfl rfl rfl rfl rfl) (fun h => h)
  | close =>
    have hin : b.handler.inSection = true := by rw [hh]; rfl
    rw [hh] at hat
    have hst : b.eTransferState = .failed := hat
    have hnr : b.eTransferState ≠ .receiving := by simp [hst]
    simp only [hh] at h
    split at h
    · split at h
      · cases h
        exact hi.handlingClosed hin rfl rfl rfl rfl ⟨rfl, hnr⟩ hi.worker ⟨rfl, hnr⟩
      · cases h
        exact hi.handlingClosed hin rfl rfl rfl rfl ⟨rfl, hnr⟩ hi.worker ⟨rfl, hnr⟩
    · next hcl =>
      cases h
      have hcl' : b.ctrl.bFileOpen = false := Bool.eq_false_iff.mpr hcl
      exact hi.handlingClosed hin rfl rfl rfl rfl ⟨hcl', hnr⟩ hi.worker ⟨hcl', hnr⟩
  | delete =>
    have hin : b.handler.inSection = true := by rw [hh]; rfl
    rw [hh] at hat
    obtain ⟨hcl, hnr⟩ : Closed b := hat
    simp only [hh] at h
    split at h
    · cases h
      exact hi.handlingClosed hin rfl rfl rfl rfl ⟨hcl, hnr⟩ hi.worker ⟨hcl, hnr⟩
    · cases h
      exact hi.handlingClosed hin rfl rfl rfl rfl ⟨hcl, hnr⟩ hi.worker ⟨hcl, hnr⟩
  | reset p =>
    have hin : b.handler.inSection = true := by rw [hh]; rfl
    rw [hh] at hat
    simp only [hh] at h
    cases h
    cases p with
    | fields =>
      obtain ⟨hcl, hst⟩ := Closed.reset hat .fields
      exact hi.handlingClosed hin rfl rfl rfl rfl ⟨hcl, hst⟩ hi.worker ⟨hcl, hst⟩
    | abort =>
      obtain ⟨hcl, hst⟩ := Closed.reset hat .abort
      -- as at the end of a transfer: no worker is left when the state becomes idle
      have hw := hi.worker_aborted
      exact hi.handlingClosed hin rfl rfl rfl rfl ⟨hcl, hst⟩ (fun h => absurd hw h) ⟨⟨hcl, hst⟩, hw⟩
    | idle =>
      obtain ⟨hc, hw⟩ : Closed b ∧ b.worker = none := hat
      obtain ⟨hcl, hst⟩ := hc.reset .idle
      exact hi.handlingClosed hin rfl rfl rfl rfl ⟨hcl, hst⟩ (fun h => absurd hw h) trivial
  | unlock =>
    have hl := hi.handlerLock.mpr (by rw [hh]; rfl)
    simp only [hh] at h
    cases h
    exact hi.handlerMove rfl rfl (by simp [Bulk.atHandler, hl])
      (by simp [Bulk.atHandler, Handler.inSection]) trivial

/-- A former worker gives the semaphore and submits the handler, no more. -/
theorem tailStep_frame {i : Nat} (h : tailStep i b = some b') :
    b' = { b with
      kSem_BulkWorkerDone := b'.kSem_BulkWorkerDone, stMsgWorkQueue := b'.stMsgWorkQueue
      tails := b'.tails } := by
  unfold tailStep at h
  split at h <;> cases h <;> rfl

theorem Inv.tailStep {i : Nat} (hi : Inv b) (h : tailStep i b = some b') : Inv b' := by
  have hf := tailStep_frame h
  have hs : SameTransfer b b' := by rw [hf]; rfl
  have huart : b'.uart = b.uart := by rw [hf]
  have hmutex : b'.kMutex_BulkTransfer = b.kMutex_BulkTransfer := by rw [hf]
  have hhandler : b'.handler = b.handler := by rw [hf]
  refine hi.handlerMove hs huart (by rw [hmutex]) ?_ ?_
  · rw [hmutex, hhandler]; exact hi.handlerLock
  · rw [hhandler]; exact Handler.at_congr hs hi.handlerAt

/-! ## §5. All runs. -/

theorem Inv.step {a : Act} (hi : Inv b) (h : b.step a = some b') : Inv b' := by
  cases a with
  | call c =>
    simp only [Bulk.step, Bulk.call] at h
    split at h
    · next hu =>
      cases h
      exact hi.outside rfl (by rw [hu]; rfl) rfl rfl (by cases c <;> rfl)
    · cases h
  | uart env =>
    simp only [Bulk.step, uartStep] at h
    split at h
    · cases h
    · next r pc hu => exact hi.startStep hu h
    · next m pc hu => exact hi.dataStep hu h
    · next pc hu => exact hi.endStep hu h
    · cases h
  | ret =>
    simp only [Bulk.step, Bulk.ret] at h
    split at h
    · next r hu =>
      cases h
      exact hi.outside rfl (by rw [hu]; rfl) rfl rfl rfl
    · cases h
  | worker env => exact hi.workerStep h
  | tail i => exact hi.tailStep h
  | handler env => exact hi.handlerStep h

/-- **The invariant holds in every state of every run.** -/
theorem inv_of_reachable (h : bulkSystem.Reachable b) : Inv b := by
  refine TransSys.Reachable.invariant ?_ (fun b a b' hi hst => hi.step hst) h
  rintro b ⟨files, rfl⟩
  exact inv_boot files

end WallController.LittleFs
