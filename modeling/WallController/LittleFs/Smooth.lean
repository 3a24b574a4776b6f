/-
  WallController.LittleFs.Smooth
  ────────────────────────────────
  **THE CALLS OF A TRANSFER WITHOUT FAULTS.**

  A step of the UART thread leads from one point of a call to the next, and
  what is left to do gets less.  An `END` behind the last frame finds every
  frame counted and reports success; a `START` may fail, but then it has
  started nothing.

  Main result:
    * `Call.Smooth.step`: the step of any call.
-/
import WallController.LittleFs.Feeding

namespace WallController.LittleFs

open WallController.Lib

variable {b b' : Bulk} {env : Env} {r : BulkTransferData} {ms : List MsgData} {marked : Bool}
  {m : MsgData}

/-! ## §1. `END`. -/

/-- The frames are the whole file. -/
structure IsWhole (r : BulkTransferData) (ms : List MsgData) : Prop where
  length : (payload ms).length = r.uiFileSize
  crc : u16CRC16CCITTUpdate 0xFFFF (payload ms) = r.uiCRC

/-- The worker has given the semaphore. -/
theorem Finalizing.taken (hs : Finalizing r ms true b) (hsem : b.kSem_BulkWorkerDone = true) :
    Drained ms b ∧ Alone b := by
  rcases hs.feeding.threads with hd | ⟨-, hd⟩
  · rw [hd.sem] at hsem
    cases hsem
  · rcases hd.leaving with ⟨-, -, hno⟩ | ⟨-, -, hno⟩ | ⟨hw, htails, -⟩
    · rw [hno] at hsem
      cases hsem
    · rw [hno] at hsem
      cases hsem
    · exact ⟨hd, hw, htails⟩

/-- The transfer that `END` has verified is the one on its way. -/
theorem Finishing.verified {eState : FileTransferState} (hs : Finishing r ms eState b)
    (h : ∃ t, Verified t b) : Stored r ms b := by
  obtain ⟨t, ht⟩ := h
  obtain ⟨path, hcurrent⟩ := hs.current
  have heq : t = ⟨r, path, ms⟩ := Option.some.inj (ht.1.current.symm.trans hcurrent)
  have hdelivered := ht.delivered
  rw [heq] at hdelivered
  exact ⟨path, hdelivered.target, hdelivered.content⟩

theorem Reported.reset {stResult : TransferResult} (hs : Reported r ms stResult b) (p : ResetPc)
    (u : Uart) : Reported r ms stResult { resetStep p b with uart := u } := by
  cases p with
  | fields => exact ⟨hs.result, ⟨hs.alone.worker, hs.alone.tails⟩, hs.stored⟩
  | abort =>
      refine ⟨hs.result, ⟨?_, hs.alone.tails⟩, hs.stored⟩
      show (if b.bMsg_ThreadInitialized then none else b.worker) = none
      rw [hs.alone.worker, ite_self]
  | idle => exact ⟨hs.result, ⟨hs.alone.worker, hs.alone.tails⟩, hs.stored⟩

/-- A reset leaves no more to do than before. -/
theorem Alone.work_reset (ha : Alone b) (p : ResetPc) (u : Uart) :
    { resetStep p b with uart := u }.work ≤ b.work := by
  cases p with
  | fields =>
      have hqueue : (if b.bMsgQ_Initialized then [] else b.queue).length ≤ b.queue.length := by
        split
        · exact Nat.zero_le _
        · exact Nat.le_refl _
      show 6 * (if b.bMsgQ_Initialized then [] else b.queue).length
        + (b.worker.elim 0 Worker.steps + 4 * b.tails.length) ≤ _
      unfold Bulk.work
      omega
  | abort =>
      show 6 * b.queue.length + ((if b.bMsg_ThreadInitialized then none else b.worker).elim 0
        Worker.steps + 4 * b.tails.length) ≤ b.work
      rw [show (if b.bMsg_ThreadInitialized then none else b.worker) = b.worker by
        rw [ha.worker, ite_self]]
      exact Nat.le_refl _
  | idle => exact Nat.le_refl _

/-- **A step of `END`.** -/
theorem EndPc.Smooth.step {pc : EndPc} (hs : pc.Smooth r ms b) (hi : Inv b) (hwhole : IsWhole r ms)
    (hu : b.uart = .end_ pc) (hok : CallFaultless b.uart env)
    (h : endStep env pc b = some b') : Went r ms .end_ b b' := by
  have hat := hi.uartAt
  rw [hu] at hok hat
  obtain ⟨htime, hsync, hclose, hrefresh⟩ := hok
  have hto : ∀ pc', b'.uart = .end_ pc' → pc'.Smooth r ms b' → Call.Smooth r ms .end_ b' :=
    fun pc' hu' hs' => .inl ⟨pc', hu', hs'⟩
  cases pc with
  | entry =>
      have hs : Receiving r ms b := hs
      cases h
      exact .of_moves hu rfl (Nat.lt_succ_self 29) (hto (.lock _) rfl (hs.moves rfl))
  | lock eState =>
      have hs : Receiving r ms b := hs
      unfold endStep at h
      dsimp only at h
      rw [htime] at h
      -- no timeout: the mutex is free, or the call waits
      split at h
      · cases h
        exact .of_moves hu rfl (Nat.lt_succ_self 28) (hto (.check _) rfl (hs.moves rfl))
      · cases h
  | check eState =>
      have hs : Receiving r ms b := hs
      have hreceiving : b.bIsBulkDataReceiving = true := by
        unfold Bulk.bIsBulkDataReceiving
        rw [hs.state]
        rfl
      unfold endStep at h
      dsimp only at h
      rw [if_pos hreceiving] at h
      cases h
      exact .of_moves hu rfl (Nat.lt_succ_self 27) (hto .finalizing rfl (hs.moves rfl))
  | finalizing =>
      have hs : Receiving r ms b := hs
      cases h
      -- what is queued is still processed while the state is `Finalizing`
      refine .of_lower hu (Nat.le_refl _) (Nat.lt_succ_self 26) (hto .put rfl ⟨?_, rfl⟩) rfl rfl
      have hf := hs.feeding
      refine ⟨hf.current, hf.opened, rfl, hf.error, ?_⟩
      rcases hf.threads with hd | ⟨hmarked, -⟩
      · exact .inl ⟨hd.worker, hd.queue, hd.tails, hd.sem⟩
      · cases hmarked
  | put =>
      have hs : Finalizing r ms false b := hs
      unfold endStep at h
      dsimp only at h
      rw [htime] at h
      -- the end marker goes behind the whole file
      split at h
      · cases h
        refine .of_put hu .end_ rfl rfl rfl (show 18 + 6 < 26 by decide) (hto .take rfl ⟨?_, hs.state⟩)
          rfl rfl
        have hf := hs.feeding
        refine ⟨hf.current, hf.opened, hf.process, hf.error, .inl ?_⟩
        rcases hf.threads with hd | ⟨hmarked, -⟩
        · obtain ⟨queued, hq⟩ := hd.queue
          refine ⟨hd.worker, ⟨queued, ?_⟩, hd.tails, hd.sem⟩
          show b.queue ++ _ = _
          rw [hq]
          simp [endMarker]
        · cases hmarked
      · cases h
  | take =>
      have hs : Finalizing r ms true b := hs
      unfold endStep at h
      dsimp only at h
      rw [htime] at h
      split at h
      · next hsem =>
        -- the semaphore is up: the worker has written the whole file and is gone
        obtain ⟨hd, ha⟩ := hs.taken hsem
        cases h
        exact .of_lower hu (Nat.le_refl _) (Nat.lt_succ_self 17)
          (hto .error rfl ⟨⟨⟨ha.worker, ha.tails⟩, hs.feeding.current, hs.feeding.error, hs.state⟩,
            hd.received⟩) rfl rfl
      · cases h
  | error =>
      obtain ⟨hs, hreceived⟩ : Finishing r ms .finalizing b ∧ _ := hs
      have hsound : ¬ b.bIsMsgQueueInError = true := by
        unfold Bulk.bIsMsgQueueInError
        rw [hs.error]
        decide
      unfold endStep at h
      dsimp only at h
      rw [if_neg hsound] at h
      cases h
      exact .of_moves hu rfl (Nat.lt_succ_self 16) (hto .size rfl ⟨hs.moves rfl, hreceived⟩)
  | size =>
      obtain ⟨hs, hreceived⟩ : Finishing r ms .finalizing b ∧ _ := hs
      obtain ⟨t, ht⟩ := hi.sending hat.opened (by rw [hu]; rfl)
      obtain ⟨path, hcurrent⟩ := hs.current
      -- the transfer of the log is the one the host sends, so the sizes agree
      have heq : t = ⟨r, path, ms⟩ :=
        Option.some.inj (ht.producer.current.symm.trans hcurrent)
      have hsize : b.ctrl.uiReceivedSize = b.ctrl.uiFileSize := by
        rw [ht.producer.size, heq, hreceived, hwhole.length]
      unfold endStep at h
      dsimp only at h
      rw [if_neg (not_not.mpr hsize)] at h
      cases h
      exact .of_moves hu rfl (Nat.lt_succ_self 15) (hto .crc rfl ⟨hs.moves rfl, hreceived⟩)
  | crc =>
      obtain ⟨hs, hreceived⟩ : Finishing r ms .finalizing b ∧ _ := hs
      obtain ⟨t, ht⟩ := hat.2
      obtain ⟨path, hcurrent⟩ := hs.current
      -- the checksum runs over the bytes written, which are the whole file
      have heq : t = ⟨r, path, ms⟩ := Option.some.inj (ht.current.symm.trans hcurrent)
      have hcrc : b.ctrl.uiRunningCRC = b.ctrl.uiCRC := by
        rw [ht.written.running, ht.crc, heq]
        exact hwhole.crc
      unfold endStep at h
      dsimp only at h
      rw [if_neg (not_not.mpr hcrc)] at h
      cases h
      exact .of_moves hu rfl (Nat.lt_succ_self 14) (hto .setNone rfl (hs.moves rfl))
  | setNone =>
      have hs : Finishing r ms .finalizing b := hs
      cases h
      exact .of_lower hu (Nat.le_refl _) (Nat.lt_succ_self 13)
        (hto .setSuccess rfl ⟨⟨hs.alone.worker, hs.alone.tails⟩, hs.current, rfl, hs.state⟩) rfl rfl
  | setSuccess =>
      have hs : Finishing r ms .finalizing b := hs
      cases h
      exact .of_lower hu (Nat.le_refl _) (Nat.lt_succ_self 12)
        (hto .sync rfl ⟨⟨hs.alone.worker, hs.alone.tails⟩, hs.current, hs.error, rfl⟩) rfl rfl
  | sync =>
      have hs : Finishing r ms .success b := hs
      unfold endStep at h
      dsimp only at h
      -- sync, close and refresh answer without an error in a faultless call
      rw [if_neg (Int.not_lt.mpr hsync)] at h
      cases h
      exact .of_moves hu rfl (Nat.lt_succ_self 11) (hto .close rfl (hs.moves rfl))
  | close =>
      have hs : Finishing r ms .success b := hs
      unfold endStep at h
      dsimp only at h
      rw [if_neg (Int.not_lt.mpr hclose)] at h
      cases h
      exact .of_lower hu (Nat.le_refl _) (Nat.lt_succ_self 10)
        (hto .refresh rfl ⟨⟨hs.alone.worker, hs.alone.tails⟩, hs.current, hs.error, hs.state⟩) rfl rfl
  | refresh =>
      have hs : Finishing r ms .success b := hs
      unfold endStep at h
      dsimp only at h
      rw [if_neg (Int.not_lt.mpr hrefresh)] at h
      cases h
      exact .of_moves hu rfl (show 7 < 10 by decide) (hto .report rfl (hs.moves rfl))
  | report =>
      have hs : Finishing r ms .success b := hs
      cases h
      exact .of_moves hu rfl (Nat.lt_succ_self 6)
        (hto (.reportError _) rfl ⟨hs.state, hs.moves rfl⟩)
  | reportError eState =>
      obtain ⟨rfl, hs⟩ : eState = .success ∧ Finishing r ms .success b := hs
      -- the result is reported with the file already stored
      have hstored := hs.verified (hat.2 rfl)
      cases h
      refine .of_lower hu (Nat.le_refl _) (Nat.lt_succ_self 5) (hto (.reset .fields _) rfl ⟨?_, ?_, ?_⟩)
        rfl rfl
      · rw [hs.error]
      · exact ⟨hs.alone.worker, hs.alone.tails⟩
      · exact hstored
  | reset p stResult =>
      have hs : Reported r ms stResult b := hs
      cases h
      have hreset := hs.reset p
      have hwork := hs.alone.work_reset p
      cases p with
      | fields =>
          exact .of_lower hu (hwork _) (Nat.lt_succ_self 4) (hto (.reset .abort _) rfl (hreset _)) rfl rfl
      | abort =>
          exact .of_lower hu (hwork _) (Nat.lt_succ_self 3) (hto (.reset .idle _) rfl (hreset _)) rfl rfl
      | idle =>
          exact .of_lower hu (hwork _) (Nat.lt_succ_self 2) (hto (.unlock _) rfl (hreset _)) rfl rfl
  | unlock stResult =>
      have hs : Reported r ms stResult b := hs
      cases h
      exact .of_moves hu rfl (Nat.lt_succ_self 1)
        (.inr ⟨_, rfl, hs.result, ⟨hs.alone.worker, hs.alone.tails⟩, hs.stored⟩)
  -- no error path is entered without a fault
  | setError eError bExit => cases hs
  | setFailed bExit => cases hs
  | abort => cases hs
  | failClose => cases hs
  | failDelete => cases hs

/-! ## §2. `START`. -/

/-- The worker has started on a fresh file. -/
theorem Fresh.receiving {log : List Event} (hf : Fresh r b) (ha : Alone b)
    (herror : b.eError = .none) (hsem : b.kSem_BulkWorkerDone = false)
    (hstate : b.eTransferState = .receiving)
    (hlog : b.log = .started r b.ctrl.pcaTotalFilePath :: log) (u : Uart) :
    Receiving r [] { b with worker := some .get, uart := u } where
  feeding := {
    current := ⟨b.ctrl.pcaTotalFilePath, by
      show currentTransfer b.log = _
      rw [hlog]
      rfl⟩
    opened := hf.opened
    process := by
      unfold Bulk.bCanProcessQueuedBulkData
      rw [hstate]
      rfl
    error := herror
    threads := .inl ⟨⟨.get, rfl, rfl⟩, ⟨[], hf.queue⟩, ha.tails, hsem⟩ }
  state := hstate

/-- **A step of `START`**: it may fail, but then it has started nothing. -/
theorem StartPc.Smooth.step {pc : StartPc} (hs : pc.Smooth r b) (hi : Inv b)
    (hu : b.uart = .start r pc) (hok : CallFaultless b.uart env)
    (h : startStep env r pc b = some b') : Went r [] (.start r) b b' := by
  have hat := hi.uartAt
  rw [hu] at hat
  have hto : ∀ pc', b'.uart = .start r pc' → pc'.Smooth r b' →
      Call.Smooth r [] (.start r) b' := fun pc' hu' hs' => ⟨rfl, .inl ⟨pc', hu', hs'⟩⟩
  cases pc with
  | lock =>
      have hs : Alone b := hs
      unfold startStep at h
      dsimp only at h
      rw [hok.1] at h
      split at h
      · cases h
        -- without the mutex `START` fails and has started nothing
        exact .of_moves hu rfl (show 1 < 14 by decide) ⟨rfl, .inr (.inr ⟨rfl, hs.moves rfl⟩)⟩
      split at h
      · cases h
        exact .of_moves hu rfl (Nat.lt_succ_self 13) (hto .check rfl (hs.moves rfl))
      · cases h
  | check =>
      have hs : Alone b := hs
      unfold startStep at h
      dsimp only at h
      split at h
      · cases h
        exact .of_moves hu rfl (show 2 < 13 by decide) (hto (.unlock false) rfl (hs.moves rfl))
      · cases h
        exact .of_moves hu rfl (Nat.lt_succ_self 12) (hto (.reset .fields) rfl (hs.moves rfl))
  | reset p =>
      -- a reset with no worker left has nobody to abort
      have hs : Alone b := by cases p <;> exact hs
      have hwork := hs.work_reset p
      cases h
      cases p with
      | fields =>
          exact .of_lower hu (hwork _) (Nat.lt_succ_self 11)
            (hto (.reset .abort) rfl ⟨hs.worker, hs.tails⟩) rfl rfl
      | abort =>
          refine .of_lower hu (hwork _) (Nat.lt_succ_self 10) (hto (.reset .idle) rfl ⟨?_, hs.tails⟩)
            rfl rfl
          show (if b.bMsg_ThreadInitialized then none else b.worker) = none
          rw [hs.worker, ite_self]
      | idle =>
          exact .of_lower hu (hwork _) (Nat.lt_succ_self 9)
            (hto .path rfl ⟨⟨hs.worker, hs.tails⟩, rfl⟩) rfl rfl
  | path =>
      obtain ⟨hs, herror⟩ : Alone b ∧ b.eError = .none := hs
      unfold startStep at h
      dsimp only at h
      -- each failure of the preparation leads to `unlock false` with no worker started
      split at h
      · cases h
        exact .of_moves hu rfl (show 2 < 9 by decide) (hto (.unlock false) rfl (hs.moves rfl))
      split at h
      · cases h
        exact .of_lower hu (Nat.le_refl _) (show 2 < 9 by decide)
          (hto (.unlock false) rfl ⟨hs.worker, hs.tails⟩) rfl rfl
      · cases h
        exact .of_lower hu (Nat.le_refl _) (Nat.lt_succ_self 8)
          (hto .delete rfl ⟨⟨hs.worker, hs.tails⟩, herror⟩) rfl rfl
  | delete =>
      obtain ⟨hs, herror⟩ : Alone b ∧ b.eError = .none := hs
      unfold startStep at h
      dsimp only at h
      split at h
      · cases h
        exact .of_lower hu (Nat.le_refl _) (show 2 < 8 by decide)
          (hto (.unlock false) rfl ⟨hs.worker, hs.tails⟩) rfl rfl
      · cases h
        exact .of_lower hu (Nat.le_refl _) (Nat.lt_succ_self 7)
          (hto .create rfl ⟨⟨hs.worker, hs.tails⟩, herror⟩) rfl rfl
  | create =>
      obtain ⟨hs, herror⟩ : Alone b ∧ b.eError = .none := hs
      unfold startStep at h
      dsimp only at h
      split at h
      · cases h
        exact .of_lower hu (Nat.le_refl _) (show 2 < 7 by decide)
          (hto (.unlock false) rfl ⟨hs.worker, hs.tails⟩) rfl rfl
      · cases h
        exact .of_lower hu (Nat.le_refl _) (Nat.lt_succ_self 6)
          (hto .open_ rfl ⟨⟨hs.worker, hs.tails⟩, herror⟩) rfl rfl
  | open_ =>
      obtain ⟨hs, herror⟩ : Alone b ∧ b.eError = .none := hs
      unfold startStep at h
      dsimp only at h
      split at h
      · cases h
        exact .of_lower hu (Nat.le_refl _) (Nat.lt_succ_self 5)
          (hto .openFailed rfl ⟨hs.worker, hs.tails⟩) rfl rfl
      · cases h
        exact .of_lower hu (Nat.le_refl _) (Nat.lt_succ_self 5)
          (hto .setup rfl ⟨⟨hs.worker, hs.tails⟩, herror⟩) rfl rfl
  | openFailed =>
      have hs : Alone b := hs
      cases h
      exact .of_lower hu (Nat.le_refl _) (show 2 < 5 by decide)
        (hto (.unlock false) rfl ⟨hs.worker, hs.tails⟩) rfl rfl
  | setup =>
      obtain ⟨hs, herror⟩ : Alone b ∧ b.eError = .none := hs
      cases h
      refine .of_lower hu ?_ (Nat.lt_succ_self 4)
        (hto .publish rfl ⟨⟨hs.worker, hs.tails⟩, herror, rfl⟩) rfl rfl
      -- the queue is emptied, so the work left over can only shrink
      show 6 * 0 + (b.worker.elim 0 Worker.steps + 4 * b.tails.length) ≤ b.work
      unfold Bulk.work
      omega
  | publish =>
      obtain ⟨hs, herror, hsem⟩ : Alone b ∧ b.eError = .none ∧ b.kSem_BulkWorkerDone = false := hs
      cases h
      exact .of_lower hu (Nat.le_refl _) (Nat.lt_succ_self 3)
        (hto .startThread rfl ⟨⟨hs.worker, hs.tails⟩, herror, hsem⟩) rfl rfl
  | startThread =>
      obtain ⟨hs, herror, hsem⟩ : Alone b ∧ b.eError = .none ∧ b.kSem_BulkWorkerDone = false := hs
      obtain ⟨-, -, hstate, hfresh, log, hlog⟩ : b.worker = none ∧ _ ∧ _ ∧ Fresh r b ∧ _ := hat
      cases h
      refine .of_lower hu ?_ (Nat.lt_succ_self 2)
        (hto (.unlock true) rfl (hfresh.receiving hs herror hsem hstate hlog _)) rfl rfl
      -- the worker starts with an empty queue: its steps are those of one `get`
      show 6 * b.queue.length + (0 + 4 * b.tails.length) ≤ b.work
      unfold Bulk.work
      omega
  | unlock bResult =>
      cases h
      cases bResult with
      | false =>
          have hs : Alone b := hs
          exact .of_moves hu rfl (Nat.lt_succ_self 1) ⟨rfl, .inr (.inr ⟨rfl, hs.moves rfl⟩)⟩
      | true =>
          have hs : Receiving r [] b := hs
          exact .of_moves hu rfl (Nat.lt_succ_self 1) ⟨rfl, .inr (.inl ⟨rfl, hs.moves rfl⟩)⟩

/-! ## §3. All calls. -/

/-- A frame that is sent is in order, and `END` comes behind the whole file. -/
def Call.Proper (r : BulkTransferData) (ms : List MsgData) : Call → Prop
  | .start _ => ms = []
  | .send m => InOrder r ms m
  | .end_ => IsWhole r ms

/-- **A step of the UART thread inside a call.** -/
theorem Call.Smooth.step {c : Call} (hs : c.Smooth r ms b) (hc : c.Proper r ms) (hi : Inv b)
    (hok : CallFaultless b.uart env) (hroom : FindsRoom b) (h : uartStep env b = some b') :
    Went r ms c b b' := by
  unfold uartStep at h
  cases c with
  | start r' =>
      obtain ⟨rfl, hs⟩ := hs
      have hnil : ms = [] := hc
      rw [hnil]
      rcases hs with ⟨pc, hu, hs⟩ | ⟨hu, -⟩ | ⟨hu, -⟩
      · rw [hu] at h
        exact hs.step hi hu hok h
      · rw [hu] at h
        cases h
      · rw [hu] at h
        cases h
  | send m =>
      rcases hs with ⟨pc, hu, hs⟩ | ⟨hu, -⟩
      · rw [hu] at h
        exact hs.step hi hc hu hok hroom h
      · rw [hu] at h
        cases h
  | end_ =>
      rcases hs with ⟨pc, hu, hs⟩ | ⟨stResult, hu, -⟩
      · rw [hu] at h
        exact hs.step hi hc hu hok h
      · rw [hu] at h
        cases h

end WallController.LittleFs
