/-
  WallController.LittleFs.Feeding
  ────────────────────────────────
  **A TRANSFER WITHOUT FAULTS.**

  The worker takes what is queued, the file system serves its calls, and no
  wait runs out.  Then the worker ends at the end marker only, with every
  frame counted, and a frame that is in order is accepted as soon as there is
  room for it.

  `Call.Smooth` says what holds then at every point of the three calls;
  `Uart.steps` is how far it is to the end of a call, and `Bulk.work` what the
  other threads still have to do.
-/
import WallController.LittleFs.Lifecycle

namespace WallController.LittleFs

open WallController.Lib

/-! ## §1. The threads beside the UART thread. -/

/-- A step of the worker without a fault: no wait runs out, and a frame is
written whole. -/
def WorkerFaultless (b : Bulk) (env : Env) : Prop :=
  env.timeOut = false ∧ ∀ m, b.worker = some (.write m) → env.write = m.uiDataLen

/-- The work queue has nothing to do. -/
structure Calm (b : Bulk) : Prop where
  handler : b.handler = .idle
  work : b.stMsgWorkQueue = false

/-- The UART thread is alone. -/
structure Alone (b : Bulk) : Prop where
  worker : b.worker = none
  tails : b.tails = []

/-- What stands behind the frames of the queue. -/
def endMarker (marked : Bool) : List BulkQueueMessage := if marked then [.end_] else []

/-- The worker takes and writes frames; `marked` when `END` has put its
marker. -/
structure Draining (marked : Bool) (b : Bulk) : Prop where
  worker : ∃ w, b.worker = some w ∧ w.processing = true
  queue : ∃ queued : List MsgData, b.queue = queued.map .data ++ endMarker marked
  tails : b.tails = []
  sem : b.kSem_BulkWorkerDone = false

/-- The worker has taken the marker, with every accepted frame counted. -/
structure Drained (ms : List MsgData) (b : Bulk) : Prop where
  queue : b.queue = []
  received : b.ctrl.uiReceivedSize = (payload ms).length
  leaving : (b.worker = some (.clear false) ∧ b.tails = [] ∧ b.kSem_BulkWorkerDone = false)
    ∨ (b.worker = none ∧ b.tails = [.give false] ∧ b.kSem_BulkWorkerDone = false)
    ∨ (b.worker = none ∧ b.tails = [] ∧ b.kSem_BulkWorkerDone = true)

/-- The transfer `r` is on its way, with the frames `ms` accepted. -/
structure Feeding (r : BulkTransferData) (ms : List MsgData) (marked : Bool) (b : Bulk) : Prop where
  current : ∃ path, currentTransfer b.log = some ⟨r, path, ms⟩
  opened : b.ctrl.bFileOpen = true
  process : b.bCanProcessQueuedBulkData = true
  error : b.eError = .none
  threads : Draining marked b ∨ marked = true ∧ Drained ms b

/-- The steps of a worker up to its next frame, or to its end. -/
def Worker.steps : Worker → Nat
  | .get => 0
  | .size _ => 1
  | .crc _ => 2
  | .write _ => 3
  | .recheck _ => 4
  | .check _ => 5
  | .clear _ => 5
  | .setFailed => 6
  | .setError _ => 7

/-- What the threads beside the UART thread still have to do. -/
def Bulk.work (b : Bulk) : Nat :=
  6 * b.queue.length + (b.worker.elim 0 Worker.steps + 4 * b.tails.length)

/-- What is put into the queue is work for the worker. -/
theorem Bulk.work_put {b b' : Bulk} (x : BulkQueueMessage) (hqueue : b'.queue = b.queue ++ [x])
    (hworker : b'.worker = b.worker) (htails : b'.tails = b.tails) : b'.work = b.work + 6 := by
  unfold Bulk.work
  rw [hqueue, hworker, htails, List.length_append, List.length_singleton]
  omega

/-- The frames are of a length that the worker writes. -/
def FitsAll (ms : List MsgData) : Prop := ∀ m ∈ ms, 0 < m.uiDataLen ∧ m.uiDataLen ≤ MAX_FRAME_LENGTH

variable {b b' : Bulk} {env : Env} {r : BulkTransferData} {ms : List MsgData} {marked : Bool}

/-- The invariant, at the transfer that is on its way. -/
theorem Feeding.sending (hf : Feeding r ms marked b) (hi : Inv b)
    (hopening : b.uart.opening = false) :
    ∃ path, Sending ⟨r, path, ms⟩ b.uart.pending b := by
  obtain ⟨t, ht⟩ := hi.sending hf.opened hopening
  obtain ⟨path, hcurrent⟩ := hf.current
  have heq : t = ⟨r, path, ms⟩ := Option.some.inj (ht.producer.current.symm.trans hcurrent)
  exact ⟨path, heq ▸ ht⟩

/-- The worker goes on, or it takes the marker. -/
theorem Draining.workerStep {t : Transfer} {pending : List MsgData} (hd : Draining marked b)
    (hs : Sending t pending b) (hfits : FitsAll t.accepted)
    (hprocess : b.bCanProcessQueuedBulkData = true) (hok : WorkerFaultless b env)
    (h : workerStep env b = some b') :
    b'.eTransferState = b.eTransferState ∧ b'.eError = b.eError ∧ b'.work < b.work
      ∧ (Draining marked b' ∨ marked = true ∧ Drained t.accepted b') := by
  obtain ⟨done, rest, hacc, hrec, hat⟩ := hs.consumer
  obtain ⟨w, hw, hp⟩ := hd.worker
  obtain ⟨queued, hq⟩ := hd.queue
  have hgo : ∀ {c : Bulk} {w' : Worker}, c.worker = some w' → w'.processing = true →
      c.queue = b.queue → c.tails = b.tails → c.kSem_BulkWorkerDone = b.kSem_BulkWorkerDone →
      Draining marked c ∨ marked = true ∧ Drained t.accepted c := by
    intro c w' hw' hp' hqueue htails hsem
    exact .inl ⟨⟨w', hw', hp'⟩, ⟨queued, hqueue.trans hq⟩, htails.trans hd.tails,
      hsem.trans hd.sem⟩
  have hlower : ∀ c : Bulk, c.queue = b.queue → c.tails = b.tails →
      c.worker.elim 0 Worker.steps < w.steps → c.work < b.work := by
    intro c hqueue htails hlt
    unfold Bulk.work
    rw [hw, hqueue, htails]
    show _ < 6 * b.queue.length + (w.steps + 4 * b.tails.length)
    omega
  -- a frame in the hand of the worker has been accepted
  have hinHand : ∀ m, rest = m :: dataOf b.queue →
      0 < m.uiDataLen ∧ m.uiDataLen ≤ MAX_FRAME_LENGTH := by
    intro m hrest
    refine hfits m ?_
    rw [hacc, hrest]
    exact List.mem_append_right _ List.mem_cons_self
  have hwork : b.work = 6 * b.queue.length + (w.steps + 4 * b.tails.length) := by
    unfold Bulk.work
    rw [hw]
    rfl
  unfold LittleFs.workerStep at h
  unfold WorkerAt at hat
  rw [hw] at h hat
  cases w with
  | get =>
      cases queued with
      | cons m queued =>
          have hcons : b.queue = .data m :: (queued.map .data ++ endMarker marked) := hq
          dsimp only at h
          rw [hcons] at h
          cases h
          refine ⟨rfl, rfl, ?_, .inl ⟨⟨_, rfl, rfl⟩, ⟨queued, rfl⟩, hd.tails, hd.sem⟩⟩
          rw [hwork, hcons, List.length_cons]
          show 6 * (queued.map BulkQueueMessage.data ++ endMarker marked).length + (5 + 4 * b.tails.length)
            < 6 * ((queued.map BulkQueueMessage.data ++ endMarker marked).length + 1) + (0 + 4 * b.tails.length)
          omega
      | nil =>
          cases marked with
          | false =>
              have hempty : b.queue = [] := hq
              dsimp only at h
              rw [hempty, hok.1] at h
              cases h
          | true =>
              have hend : b.queue = [.end_] := hq
              have hrest : rest = [] := by rw [hat.2, hend]; rfl
              dsimp only at h
              rw [hend] at h
              cases h
              refine ⟨rfl, rfl, ?_, .inr ⟨rfl, rfl, ?_, .inl ⟨rfl, hd.tails, hd.sem⟩⟩⟩
              · rw [hwork, hend]
                show 6 * 0 + (5 + 4 * b.tails.length) < 6 * 1 + (0 + 4 * b.tails.length)
                omega
              · show b.ctrl.uiReceivedSize = _
                rw [hrec, hacc, hrest, List.append_nil]
  | check m =>
      dsimp only at h
      rw [if_pos hprocess] at h
      cases h
      exact ⟨rfl, rfl, hlower _ rfl rfl (Nat.lt_succ_self _), hgo rfl rfl rfl rfl rfl⟩
  | recheck m =>
      obtain ⟨hpos, hle⟩ := hinHand m hat.2
      dsimp only at h
      rw [if_neg] at h
      · cases h
        exact ⟨rfl, rfl, hlower _ rfl rfl (Nat.lt_succ_self _), hgo rfl rfl rfl rfl rfl⟩
      · rw [hprocess]
        rintro (hzero | hlarge | hno)
        · omega
        · omega
        · cases hno
  | write m =>
      have hwrite := hok.2 m hw
      have hres : (fsWrite env b.ctrl.stTFileData m.uiMsg b.files).1 = m.uiDataLen := by
        unfold fsWrite
        rw [if_neg (by omega)]
        exact hwrite
      dsimp only at h
      rw [if_neg (by omega)] at h
      cases h
      exact ⟨rfl, rfl, hlower _ rfl rfl (Nat.lt_succ_self _), hgo rfl rfl rfl rfl rfl⟩
  | crc m =>
      cases h
      exact ⟨rfl, rfl, hlower _ rfl rfl (Nat.lt_succ_self _), hgo rfl rfl rfl rfl rfl⟩
  | size m =>
      cases h
      exact ⟨rfl, rfl, hlower _ rfl rfl (Nat.lt_succ_self _), hgo rfl rfl rfl rfl rfl⟩
  | setError e => cases hp
  | setFailed => cases hp
  | clear bSubmit => cases hp

/-- The worker ends. -/
theorem Drained.workerStep (hd : Drained ms b) (h : workerStep env b = some b') :
    b'.eTransferState = b.eTransferState ∧ b'.eError = b.eError ∧ b'.work < b.work
      ∧ Drained ms b' := by
  unfold LittleFs.workerStep at h
  rcases hd.leaving with ⟨hw, htails, hsem⟩ | ⟨hw, -, -⟩ | ⟨hw, -, -⟩
  · rw [hw] at h
    cases h
    refine ⟨rfl, rfl, ?_, hd.queue, hd.received, .inr (.inl ⟨rfl, ?_, hsem⟩)⟩
    · unfold Bulk.work
      rw [hw, htails]
      show 6 * b.queue.length + (0 + 4 * 1) < 6 * b.queue.length + (5 + 4 * 0)
      omega
    · show b.tails ++ _ = _
      rw [htails]
      rfl
  · rw [hw] at h
    cases h
  · rw [hw] at h
    cases h

/-- A step of the threads beside the UART thread: the transfer goes on, and
there is less to do. -/
structure Fed (r : BulkTransferData) (ms : List MsgData) (marked : Bool) (b b' : Bulk) : Prop where
  feeding : Feeding r ms marked b'
  state : b'.eTransferState = b.eTransferState
  work : b'.work < b.work
  uart : b'.uart = b.uart
  calm : Calm b → Calm b'

theorem Feeding.fed (hf : Feeding r ms marked b) (huart : b'.uart = b.uart)
    (hhandler : b'.handler = b.handler) (hsubmitted : b'.stMsgWorkQueue = b.stMsgWorkQueue)
    (hlog : b'.log = b.log) (hopen : b'.ctrl.bFileOpen = b.ctrl.bFileOpen) (hstate : b'.eTransferState = b.eTransferState)
    (herror : b'.eError = b.eError) (hwork : b'.work < b.work)
    (hthreads : Draining marked b' ∨ marked = true ∧ Drained ms b') : Fed r ms marked b b' where
  feeding := {
    current := by rw [hlog]; exact hf.current
    opened := by rw [hopen]; exact hf.opened
    process := by
      unfold Bulk.bCanProcessQueuedBulkData
      rw [hstate]
      exact hf.process
    error := by rw [herror]; exact hf.error
    threads := hthreads }
  state := hstate
  work := hwork
  uart := huart
  calm hc := ⟨hhandler.trans hc.handler, hsubmitted.trans hc.work⟩

/-- **A step of the worker.** -/
theorem Feeding.workerStep (hf : Feeding r ms marked b) (hi : Inv b)
    (hopening : b.uart.opening = false) (hfits : FitsAll ms) (hok : WorkerFaultless b env)
    (h : workerStep env b = some b') : Fed r ms marked b b' := by
  have hframe := workerStep_frame h
  have hopen := bFileOpen_worker h
  rcases hf.threads with hd | ⟨rfl, hd⟩
  · obtain ⟨path, hs⟩ := hf.sending hi hopening
    obtain ⟨hstate, herror, hwork, hthreads⟩ := hd.workerStep hs hfits hf.process hok h
    exact hf.fed hframe.uart hframe.handler hframe.work hframe.log hopen hstate herror hwork hthreads
  · obtain ⟨hstate, herror, hwork, hd'⟩ := hd.workerStep h
    exact hf.fed hframe.uart hframe.handler hframe.work hframe.log hopen hstate herror hwork
      (.inr ⟨rfl, hd'⟩)

/-- **A step of a former worker**: it gives the semaphore. -/
theorem Feeding.tailStep {i : Nat} (hf : Feeding r ms marked b) (h : tailStep i b = some b') :
    Fed r ms marked b b' := by
  have hnone : ∀ {P : Prop}, b.tails = [] → P := by
    intro P htails
    unfold LittleFs.tailStep at h
    rw [htails] at h
    cases h
  rcases hf.threads with hd | ⟨rfl, hd⟩
  · exact hnone hd.tails
  rcases hd.leaving with ⟨-, htails, -⟩ | ⟨hw, htails, -⟩ | ⟨-, htails, -⟩
  · exact hnone htails
  · unfold LittleFs.tailStep at h
    rw [htails] at h
    cases i with
    | zero =>
        cases h
        refine hf.fed rfl rfl rfl rfl rfl rfl rfl ?_
          (.inr ⟨rfl, hd.queue, hd.received, .inr (.inr ⟨hw, ?_, rfl⟩)⟩)
        · unfold Bulk.work
          rw [htails]
          show 6 * b.queue.length + (b.worker.elim 0 Worker.steps + 4 * 0)
            < 6 * b.queue.length + (b.worker.elim 0 Worker.steps + 4 * 1)
          omega
        · rfl
    | succ i => cases h
  · exact hnone htails

/-! ## §2. The points of the calls. -/

/-- Frames are accepted. -/
structure Receiving (r : BulkTransferData) (ms : List MsgData) (b : Bulk) : Prop where
  feeding : Feeding r ms false b
  state : b.eTransferState = .receiving

/-- `END` waits for the worker. -/
structure Finalizing (r : BulkTransferData) (ms : List MsgData) (marked : Bool) (b : Bulk) :
    Prop where
  feeding : Feeding r ms marked b
  state : b.eTransferState = .finalizing

/-- `END` goes on behind the worker. -/
structure Finishing (r : BulkTransferData) (ms : List MsgData) (eState : FileTransferState)
    (b : Bulk) : Prop where
  alone : Alone b
  current : ∃ path, currentTransfer b.log = some ⟨r, path, ms⟩
  error : b.eError = .none
  state : b.eTransferState = eState

/-- The frames stand in the file of the request. -/
def Stored (r : BulkTransferData) (ms : List MsgData) (b : Bulk) : Prop :=
  ∃ path, r.target = some path ∧ b.files path = some (payload ms)

/-- `END` has reported success. -/
structure Reported (r : BulkTransferData) (ms : List MsgData) (stResult : TransferResult)
    (b : Bulk) : Prop where
  result : stResult = ⟨.success, .none⟩
  alone : Alone b
  stored : Stored r ms b

def StartPc.Smooth (r : BulkTransferData) (pc : StartPc) (b : Bulk) : Prop :=
  match pc with
  | .unlock true => Receiving r [] b
  | .path | .delete | .create | .open_ | .setup => Alone b ∧ b.eError = .none
  | .publish | .startThread => Alone b ∧ b.eError = .none ∧ b.kSem_BulkWorkerDone = false
  | _ => Alone b

def DataPc.Smooth (r : BulkTransferData) (ms : List MsgData) (m : MsgData) (pc : DataPc)
    (b : Bulk) : Prop :=
  match pc with
  | .lock | .check | .checkError | .accept => Receiving r ms b
  | .account => Receiving r (ms ++ [m]) b
  | .unlock iRet => iRet = 0 ∧ Receiving r (ms ++ [m]) b

def EndPc.Smooth (r : BulkTransferData) (ms : List MsgData) (pc : EndPc) (b : Bulk) : Prop :=
  match pc with
  | .entry | .lock _ | .check _ | .finalizing => Receiving r ms b
  | .put => Finalizing r ms false b
  | .take => Finalizing r ms true b
  | .error | .size | .crc =>
      Finishing r ms .finalizing b ∧ b.ctrl.uiReceivedSize = (payload ms).length
  | .setNone | .setSuccess => Finishing r ms .finalizing b
  | .sync | .close | .refresh | .report => Finishing r ms .success b
  | .reportError eState => eState = .success ∧ Finishing r ms .success b
  | .reset _ stResult | .unlock stResult => Reported r ms stResult b
  | _ => False

/-- Where the UART thread stands inside a call, and what holds there; `ms` are
the frames accepted before the call. -/
def Call.Smooth (r : BulkTransferData) (ms : List MsgData) (c : Call) (b : Bulk) : Prop :=
  match c with
  | .start r' => r' = r ∧ ((∃ pc, b.uart = .start r pc ∧ pc.Smooth r b)
      ∨ (b.uart = .returned (.started true) ∧ Receiving r [] b)
      ∨ (b.uart = .returned (.started false) ∧ Alone b))
  | .send m => (∃ pc, b.uart = .data m pc ∧ pc.Smooth r ms m b)
      ∨ (b.uart = .returned (.sent 0) ∧ Receiving r (ms ++ [m]) b)
  | .end_ => (∃ pc, b.uart = .end_ pc ∧ pc.Smooth r ms b)
      ∨ ∃ stResult, b.uart = .returned (.ended stResult) ∧ Reported r ms stResult b

/-- A step of a call without a fault: no wait runs out, and `END` finishes the
file. -/
def CallFaultless (u : Uart) (env : Env) : Prop :=
  env.timeOut = false ∧ match u with
    | .end_ _ => 0 ≤ env.sync ∧ 0 ≤ env.close ∧ 0 ≤ env.refresh
    | _ => True

/-- A `DATA` frame finds room in the queue. -/
def FindsRoom (b : Bulk) : Prop :=
  match b.uart with
  | .data _ .accept => b.queue.length < MAX_MSGQ_DEPTH
  | _ => True

/-- The steps to the end of a call; putting something into the queue takes as
many as the worker needs for it. -/
def StartPc.steps : StartPc → Nat
  | .lock => 14
  | .check => 13
  | .reset .fields => 12
  | .reset .abort => 11
  | .reset .idle => 10
  | .path => 9
  | .delete => 8
  | .create => 7
  | .open_ => 6
  | .openFailed => 5
  | .setup => 5
  | .publish => 4
  | .startThread => 3
  | .unlock _ => 2

def DataPc.steps : DataPc → Nat
  | .lock => 14
  | .check => 13
  | .checkError => 12
  | .accept => 11
  | .account => 3
  | .unlock _ => 2

def EndPc.steps : EndPc → Nat
  | .entry => 30
  | .lock _ => 29
  | .check _ => 28
  | .finalizing => 27
  | .put => 26
  | .take => 18
  | .error => 17
  | .size => 16
  | .crc => 15
  | .setNone => 14
  | .setSuccess => 13
  | .sync => 12
  | .close => 11
  | .refresh => 10
  | .setError _ _ => 9
  | .setFailed _ => 8
  | .abort => 8
  | .failClose => 8
  | .failDelete => 8
  | .report => 7
  | .reportError _ => 6
  | .reset .fields _ => 5
  | .reset .abort _ => 4
  | .reset .idle _ => 3
  | .unlock _ => 2

def Uart.steps : Uart → Nat
  | .idle => 0
  | .start _ pc => pc.steps
  | .data _ pc => pc.steps
  | .end_ pc => pc.steps
  | .returned _ => 1

/-- A step of the UART thread to the next point of its call. -/
structure Went (r : BulkTransferData) (ms : List MsgData) (c : Call) (b b' : Bulk) : Prop where
  smooth : c.Smooth r ms b'
  lower : b'.uart.steps + b'.work < b.uart.steps + b.work
  calm : Calm b → Calm b'

/-- The UART thread moves, and it takes or releases the mutex at most. -/
def Moves (b b' : Bulk) : Prop :=
  b' = { b with kMutex_BulkTransfer := b'.kMutex_BulkTransfer, uart := b'.uart }

theorem Feeding.moves (h : Feeding r ms marked b) (hmoves : Moves b b') :
    Feeding r ms marked b' := by
  rw [hmoves]
  refine ⟨h.current, h.opened, h.process, h.error, ?_⟩
  rcases h.threads with hd | ⟨hmarked, hd⟩
  · exact .inl ⟨hd.worker, hd.queue, hd.tails, hd.sem⟩
  · exact .inr ⟨hmarked, hd.queue, hd.received, hd.leaving⟩

theorem Receiving.moves (h : Receiving r ms b) (hmoves : Moves b b') : Receiving r ms b' :=
  ⟨h.feeding.moves hmoves, by rw [hmoves]; exact h.state⟩

theorem Finalizing.moves (h : Finalizing r ms marked b) (hmoves : Moves b b') :
    Finalizing r ms marked b' :=
  ⟨h.feeding.moves hmoves, by rw [hmoves]; exact h.state⟩

theorem Alone.moves (h : Alone b) (hmoves : Moves b b') : Alone b' := by
  rw [hmoves]
  exact ⟨h.worker, h.tails⟩

theorem Finishing.moves {eState : FileTransferState} (h : Finishing r ms eState b)
    (hmoves : Moves b b') : Finishing r ms eState b' :=
  ⟨h.alone.moves hmoves, by rw [hmoves]; exact h.current, by rw [hmoves]; exact h.error,
    by rw [hmoves]; exact h.state⟩

/-- A step after which the others have no more to do than before. -/
theorem Went.of_lower {c : Call} {u : Uart} (hu : b.uart = u) (hwork : b'.work ≤ b.work)
    (hsteps : b'.uart.steps < u.steps) (hsmooth : c.Smooth r ms b')
    (hhandler : b'.handler = b.handler) (hsubmitted : b'.stMsgWorkQueue = b.stMsgWorkQueue) :
    Went r ms c b b' := by
  rw [← hu] at hsteps
  exact ⟨hsmooth, by omega, fun hc => ⟨hhandler.trans hc.handler, hsubmitted.trans hc.work⟩⟩

/-- A step that puts something into the queue. -/
theorem Went.of_put {c : Call} {u : Uart} (hu : b.uart = u) (x : BulkQueueMessage)
    (hqueue : b'.queue = b.queue ++ [x]) (hworker : b'.worker = b.worker)
    (htails : b'.tails = b.tails) (hsteps : b'.uart.steps + 6 < u.steps)
    (hsmooth : c.Smooth r ms b') (hhandler : b'.handler = b.handler)
    (hsubmitted : b'.stMsgWorkQueue = b.stMsgWorkQueue) : Went r ms c b b' := by
  have hwork := Bulk.work_put x hqueue hworker htails
  rw [← hu] at hsteps
  exact ⟨hsmooth, by omega, fun hc => ⟨hhandler.trans hc.handler, hsubmitted.trans hc.work⟩⟩

/-- A step that leaves the rest alone. -/
theorem Went.of_moves {c : Call} {u : Uart} (hu : b.uart = u) (hmoves : Moves b b')
    (hsteps : b'.uart.steps < u.steps) (hsmooth : c.Smooth r ms b') : Went r ms c b b' := by
  refine .of_lower hu ?_ hsteps hsmooth (by rw [hmoves]) (by rw [hmoves])
  rw [hmoves]
  exact Nat.le_refl b.work

/-! ## §3. `DATA`. -/

/-- The frame is the next one, it fits and it is sound. -/
structure InOrder (r : BulkTransferData) (ms : List MsgData) (m : MsgData) : Prop where
  pos : 0 < m.uiDataLen
  le : m.uiDataLen ≤ MAX_FRAME_LENGTH
  id : m.uiFrameId = ms.length
  fits : (payload ms).length + m.uiDataLen ≤ r.uiFileSize
  crc : m.uiFrameCRC = u16CRC16CCITTUpdate 0xFFFF m.uiMsg

variable {m : MsgData}

theorem dataStep_lock (hm : InOrder r ms m) (hok : env.timeOut = false) :
    dataStep env m .lock b = if b.kMutex_BulkTransfer = none then
      some ({ b with kMutex_BulkTransfer := some .uart }.atData m .check) else none := by
  unfold dataStep
  dsimp only
  rw [if_neg (not_or.mpr ⟨Nat.ne_of_gt hm.pos, Nat.not_lt.mpr hm.le⟩), hok]
  rfl

theorem Receiving.dataStep_check (hs : Receiving r ms b) :
    dataStep env m .check b = some (b.atData m .checkError) := by
  have hreceiving : b.bIsBulkDataReceiving = true := by
    unfold Bulk.bIsBulkDataReceiving
    rw [hs.state]
    rfl
  exact if_pos hreceiving

theorem Receiving.dataStep_checkError (hs : Receiving r ms b) :
    dataStep env m .checkError b = some (b.atData m .accept) := by
  have hsound : ¬ b.bIsMsgQueueInError = true := by
    unfold Bulk.bIsMsgQueueInError
    rw [hs.feeding.error]
    decide
  exact if_neg hsound

/-- A frame in order is accepted when there is room for it. -/
theorem Receiving.dataStep_accept (hs : Receiving r ms b) (hi : Inv b)
    (hu : b.uart = .data m .accept) (hm : InOrder r ms m) :
    dataStep env m .accept b = if b.queue.length < MAX_MSGQ_DEPTH then
      some ({ b with
        queue := b.queue ++ [BulkQueueMessage.data m], log := .accepted m :: b.log }.atData m .account)
      else some (b.atData m (.unlock (-ENOMSG))) := by
  obtain ⟨path, hsending⟩ := hs.feeding.sending hi (by rw [hu]; rfl)
  have hp := hsending.producer
  have hpending : b.uart.pending = [] := by rw [hu]; rfl
  rw [hpending] at hp
  have hid : m.uiFrameId = b.ctrl.uiNextFrameId := hm.id.trans hp.nextId.symm
  have haccepted : b.ctrl.uiAcceptedSize = (payload ms).length := hp.acceptedSize
  have hsize : b.ctrl.uiFileSize = r.uiFileSize := hp.size
  have hfits := hm.fits
  unfold dataStep
  dsimp only
  rw [if_neg (not_not.mpr hid), haccepted, hsize, if_neg (by omega),
    if_neg (not_not.mpr hm.crc.symm)]

/-- A frame joins the queue. -/
theorem Receiving.accepted (hs : Receiving r ms b) (u : Uart) :
    Receiving r (ms ++ [m])
      { b with queue := b.queue ++ [.data m], log := .accepted m :: b.log, uart := u } := by
  have hf := hs.feeding
  obtain ⟨path, hcurrent⟩ := hf.current
  refine ⟨⟨⟨path, ?_⟩, hf.opened, hf.process, hf.error, .inl ?_⟩, hs.state⟩
  · show (currentTransfer b.log).map _ = _
    rw [hcurrent]
    rfl
  · rcases hf.threads with hd | ⟨hmarked, -⟩
    · obtain ⟨queued, hq⟩ := hd.queue
      refine ⟨hd.worker, ⟨queued ++ [m], ?_⟩, hd.tails, hd.sem⟩
      show b.queue ++ [.data m] = _
      rw [hq]
      simp [endMarker]
    · cases hmarked

/-- **A step of `DATA`.** -/
theorem DataPc.Smooth.step {pc : DataPc} (hs : pc.Smooth r ms m b) (hi : Inv b)
    (hm : InOrder r ms m) (hu : b.uart = .data m pc) (hok : CallFaultless b.uart env)
    (hroom : FindsRoom b) (h : dataStep env m pc b = some b') : Went r ms (.send m) b b' := by
  have hto : ∀ pc', b'.uart = .data m pc' → pc'.Smooth r ms m b' → Call.Smooth r ms (.send m) b' :=
    fun pc' hu' hs' => .inl ⟨pc', hu', hs'⟩
  cases pc with
  | lock =>
      have hs : Receiving r ms b := hs
      rw [dataStep_lock hm hok.1] at h
      split at h
      · cases h
        exact .of_moves hu rfl (Nat.lt_succ_self 13) (hto .check rfl (hs.moves rfl))
      · cases h
  | check =>
      have hs : Receiving r ms b := hs
      rw [hs.dataStep_check] at h
      cases h
      exact .of_moves hu rfl (Nat.lt_succ_self 12) (hto .checkError rfl (hs.moves rfl))
  | checkError =>
      have hs : Receiving r ms b := hs
      rw [hs.dataStep_checkError] at h
      cases h
      exact .of_moves hu rfl (Nat.lt_succ_self 11) (hto .accept rfl (hs.moves rfl))
  | accept =>
      have hs : Receiving r ms b := hs
      have hlt : b.queue.length < MAX_MSGQ_DEPTH := by
        unfold FindsRoom at hroom
        rwa [hu] at hroom
      rw [hs.dataStep_accept hi hu hm, if_pos hlt] at h
      cases h
      exact .of_put hu (.data m) rfl rfl rfl (show 3 + 6 < 11 by decide) (hto .account rfl (hs.accepted _)) rfl rfl
  | account =>
      have hs : Receiving r (ms ++ [m]) b := hs
      cases h
      refine .of_lower hu (Nat.le_refl _) (Nat.lt_succ_self 2) (hto (.unlock 0) rfl ⟨rfl, ?_⟩) rfl rfl
      have hf := hs.feeding
      refine ⟨⟨hf.current, hf.opened, hf.process, hf.error, ?_⟩, hs.state⟩
      rcases hf.threads with hd | ⟨hmarked, -⟩
      · exact .inl ⟨hd.worker, hd.queue, hd.tails, hd.sem⟩
      · cases hmarked
  | unlock iRet =>
      obtain ⟨rfl, hs⟩ : iRet = 0 ∧ Receiving r (ms ++ [m]) b := hs
      cases h
      exact .of_moves hu rfl (Nat.lt_succ_self 1) (.inr ⟨rfl, hs.moves rfl⟩)

end WallController.LittleFs
