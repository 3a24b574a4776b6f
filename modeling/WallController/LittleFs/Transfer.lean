/-
  WallController.LittleFs.Transfer
  ────────────────────────────────
  **WHAT HAS ARRIVED OF A TRANSFER.**

  A transfer, as its host sees it, is the last `START` of the log and the
  `DATA` frames accepted since.  `Sending` relates it to the shared state:
  the producer's counters describe the accepted frames, and these are the
  frames that the worker has counted, followed by the one in its hand and by
  the queue.  The file and the running CRC are one frame ahead of the
  counters between the write and the last update.

  The worker's steps, an accepted frame, the end marker and an abort keep
  the relation; where the received size is the declared one, nothing is left
  in the queue and the file is complete.
-/
import WallController.LittleFs.Bulk
import Mathlib.Data.List.Range

namespace WallController.LittleFs

/-! ## §1. Transfers. -/

/-- A transfer and the frames accepted for it. -/
structure Transfer where
  request : BulkTransferData
  pcaTotalFilePath : Path
  accepted : List MsgData

/-- The full path that a `START` names. -/
def BulkTransferData.target (r : BulkTransferData) : Option Path :=
  (directoryOf r.eFileType).bind fun pcaDirPath =>
    bBuildValidateFullPathName pcaDirPath r.pcaFileName

/-- The bytes of a list of frames. -/
def payload (ms : List MsgData) : List UInt8 := ms.flatMap MsgData.uiMsg

@[simp] theorem payload_nil : payload [] = [] := rfl

@[simp] theorem payload_append (xs ys : List MsgData) :
    payload (xs ++ ys) = payload xs ++ payload ys := List.flatMap_append

@[simp] theorem payload_cons (m : MsgData) (ms : List MsgData) :
    payload (m :: ms) = m.uiMsg ++ payload ms := rfl

/-- The transfer that a log, newest event first, is in the middle of. -/
def currentTransfer : List Event → Option Transfer
  | [] => none
  | .started r path :: _ => some ⟨r, path, []⟩
  | .accepted m :: log =>
      (currentTransfer log).map fun t => { t with accepted := t.accepted ++ [m] }
  | .ended _ _ :: _ => none

/-- The last transfer of a log, newest event first. -/
def lastTransfer : List Event → Option Transfer
  | [] => none
  | .started r path :: _ => some ⟨r, path, []⟩
  | .accepted m :: log => (lastTransfer log).map fun t => { t with accepted := t.accepted ++ [m] }
  | .ended _ _ :: log => lastTransfer log

theorem lastTransfer_of_current {t : Transfer} {log : List Event}
    (h : currentTransfer log = some t) : lastTransfer log = some t := by
  induction log generalizing t with
  | nil => cases h
  | cons event log ih =>
      cases event with
      | started r path => exact h
      | ended stResult files => cases h
      | accepted m =>
          unfold currentTransfer at h
          obtain ⟨t', ht', rfl⟩ := Option.map_eq_some_iff.mp h
          unfold lastTransfer
          rw [ih ht']
          rfl

/-- The whole transfer stands in the file. -/
structure Transfer.Delivered (t : Transfer) (files : Files) : Prop where
  target : t.request.target = some t.pcaTotalFilePath
  content : files t.pcaTotalFilePath = some (payload t.accepted)
  ids : t.accepted.map MsgData.uiFrameId = List.range t.accepted.length
  length : (payload t.accepted).length = t.request.uiFileSize
  crc : u16CRC16CCITTUpdate 0xFFFF (payload t.accepted) = t.request.uiCRC

/-- The frames of a queue. -/
def dataOf (queue : List BulkQueueMessage) : List MsgData :=
  queue.filterMap fun
    | .data m => some m
    | .end_ => none

@[simp] theorem dataOf_nil : dataOf [] = [] := rfl

@[simp] theorem dataOf_data (m : MsgData) (queue : List BulkQueueMessage) :
    dataOf (.data m :: queue) = m :: dataOf queue := rfl

@[simp] theorem dataOf_end (queue : List BulkQueueMessage) :
    dataOf (.end_ :: queue) = dataOf queue := rfl

@[simp] theorem dataOf_append (xs ys : List BulkQueueMessage) :
    dataOf (xs ++ ys) = dataOf xs ++ dataOf ys := List.filterMap_append

/-! ## §2. What a step of the worker leaves alone. -/

/-- The frame of a worker step. -/
structure WorkerFrame (b b' : Bulk) : Prop where
  uart : b'.uart = b.uart
  handler : b'.handler = b.handler
  mutex : b'.kMutex_BulkTransfer = b.kMutex_BulkTransfer
  log : b'.log = b.log
  work : b'.stMsgWorkQueue = b.stMsgWorkQueue
  tails : ∀ x ∈ b.tails, x ∈ b'.tails
  ctrl : b'.ctrl =
    { b.ctrl with
      uiRunningCRC := b'.ctrl.uiRunningCRC, uiReceivedSize := b'.ctrl.uiReceivedSize }
  state : b'.eTransferState = b.eTransferState ∨ b'.eTransferState = .failed
  alive : b.worker ≠ none
  flag : b'.worker ≠ none → b'.bMsg_ThreadInitialized = b.bMsg_ThreadInitialized

theorem workerStep_frame {env : Env} {b b' : Bulk} (h : workerStep env b = some b') :
    WorkerFrame b b' := by
  unfold workerStep at h
  cases hw : b.worker with
  | none => simp [hw] at h
  | some w =>
    cases w with
    | get =>
      simp only [hw] at h
      split at h
      · split at h
        · cases h
          constructor <;> simp [Bulk.atWorker, hw]
        · cases h
      all_goals
        cases h
        constructor <;> simp [Bulk.atWorker, hw]
    | check m =>
      simp only [hw] at h
      split at h <;> (cases h; constructor <;> simp [Bulk.atWorker, hw])
    | recheck m =>
      simp only [hw] at h
      split at h <;> (cases h; constructor <;> simp [Bulk.atWorker, hw])
    | write m =>
      simp only [hw] at h
      split at h <;> (cases h; constructor <;> simp [Bulk.atWorker, hw])
    | crc m =>
      simp only [hw] at h
      cases h
      constructor <;> simp [Bulk.atWorker, hw]
    | size m =>
      simp only [hw] at h
      cases h
      constructor <;> simp [Bulk.atWorker, hw]
    | setError e =>
      simp only [hw] at h
      cases h
      constructor <;> simp [Bulk.atWorker, hw]
    | setFailed =>
      simp only [hw] at h
      cases h
      constructor <;> simp [Bulk.atWorker, hw]
    | clear submit =>
      simp only [hw] at h
      cases h
      constructor <;> simp +contextual [hw]

/-! ## §3. The two ends of the queue. -/

/-- The producer's fields describe the frames accepted so far; `pending` is
the frame that is queued but not yet accounted for. -/
structure Producer (t : Transfer) (pending : List MsgData) (b : Bulk) : Prop where
  current : currentTransfer b.log = some t
  target : t.request.target = some t.pcaTotalFilePath
  path : b.ctrl.pcaTotalFilePath = t.pcaTotalFilePath
  handle : b.ctrl.stTFileData = t.pcaTotalFilePath
  size : b.ctrl.uiFileSize = t.request.uiFileSize
  crc : b.ctrl.uiCRC = t.request.uiCRC
  ids : t.accepted.map MsgData.uiFrameId = List.range t.accepted.length
  filled : ∀ m ∈ t.accepted, m.uiMsg ≠ []
  nextId : b.ctrl.uiNextFrameId + pending.length = t.accepted.length
  acceptedSize :
    b.ctrl.uiAcceptedSize + (payload pending).length = (payload t.accepted).length
  fits : (payload t.accepted).length ≤ t.request.uiFileSize

/-- The file and the running CRC are those of the frames `done`. -/
structure Written (path : Path) (done : List MsgData) (b : Bulk) : Prop where
  file : b.files path = some (payload done)
  running : b.ctrl.uiRunningCRC = u16CRC16CCITTUpdate 0xFFFF (payload done)

/-- Where the worker stands between the frames it has counted, `done`, and
the others, `rest`.  Of a worker that is about to end, or has ended, only
the case that nothing was left matters. -/
def WorkerAt (path : Path) (done rest : List MsgData) (b : Bulk) : Prop :=
  match b.worker with
  | some .get => Written path done b ∧ rest = dataOf b.queue
  | some (.check m) => Written path done b ∧ rest = m :: dataOf b.queue
  | some (.recheck m) => Written path done b ∧ rest = m :: dataOf b.queue
  | some (.write m) => Written path done b ∧ rest = m :: dataOf b.queue
  | some (.crc m) =>
      b.files path = some (payload (done ++ [m]))
        ∧ b.ctrl.uiRunningCRC = u16CRC16CCITTUpdate 0xFFFF (payload done)
        ∧ rest = m :: dataOf b.queue
  | some (.size m) => Written path (done ++ [m]) b ∧ rest = m :: dataOf b.queue
  | some (.setError _) => rest = [] → Written path done b ∧ dataOf b.queue = []
  | some .setFailed => rest = [] → Written path done b ∧ dataOf b.queue = []
  | some (.clear _) => rest = [] → Written path done b ∧ dataOf b.queue = []
  | none => rest = [] → Written path done b ∧ dataOf b.queue = []

/-- The consumer's side: the accepted frames are those counted and the rest. -/
def Consumer (t : Transfer) (b : Bulk) : Prop :=
  ∃ done rest, t.accepted = done ++ rest
    ∧ b.ctrl.uiReceivedSize = (payload done).length ∧ WorkerAt t.pcaTotalFilePath done rest b

/-- The transfer `t` is on its way. -/
structure Sending (t : Transfer) (pending : List MsgData) (b : Bulk) : Prop where
  producer : Producer t pending b
  consumer : Consumer t b

variable {t : Transfer} {path : Path} {pending done rest : List MsgData} {b b' : Bulk} {env : Env}

theorem Written.congr (h : Written path done b) (hfiles : b'.files = b.files)
    (hctrl : b'.ctrl.uiRunningCRC = b.ctrl.uiRunningCRC) : Written path done b' :=
  ⟨hfiles ▸ h.file, hctrl ▸ h.running⟩

/-- Where nothing is left, the file is that of the counted frames, whatever
the worker is about to do. -/
theorem WorkerAt.settled (h : WorkerAt path done [] b) :
    Written path done b ∧ dataOf b.queue = [] := by
  unfold WorkerAt at h
  cases hw : b.worker with
  | none =>
    rw [hw] at h
    exact h rfl
  | some w =>
    rw [hw] at h
    cases w with
    | get => exact ⟨h.1, h.2.symm⟩
    | crc m => exact absurd h.2.2 (by simp)
    | check m => exact absurd h.2 (by simp)
    | recheck m => exact absurd h.2 (by simp)
    | write m => exact absurd h.2 (by simp)
    | size m => exact absurd h.2 (by simp)
    | setError e => exact h rfl
    | setFailed => exact h rfl
    | clear s => exact h rfl

/-- Only the worker, the queue, the files and the running CRC count. -/
theorem WorkerAt.congr (h : WorkerAt path done rest b) (hw : b'.worker = b.worker)
    (hq : b'.queue = b.queue) (hf : b'.files = b.files)
    (hc : b'.ctrl.uiRunningCRC = b.ctrl.uiRunningCRC) : WorkerAt path done rest b' := by
  have hwr : ∀ {ds}, Written path ds b → Written path ds b' := fun h => h.congr hf hc
  unfold WorkerAt at h ⊢
  rw [hw]
  cases hwb : b.worker with
  | none =>
    rw [hwb] at h
    exact fun h0 => ⟨hwr (h h0).1, by rw [hq]; exact (h h0).2⟩
  | some w =>
    rw [hwb] at h
    cases w with
    | get | check m | recheck m | write m | size m =>
      exact ⟨hwr h.1, by rw [hq]; exact h.2⟩
    | crc m =>
      exact ⟨by rw [hf]; exact h.1, by rw [hc]; exact h.2.1, by rw [hq]; exact h.2.2⟩
    | setError e | setFailed | clear s =>
      exact fun h0 => ⟨hwr (h h0).1, by rw [hq]; exact (h h0).2⟩

/-- A worker that stops leaves the queue and the file as they are. -/
theorem WorkerAt.stopped (h : WorkerAt path done rest b) (hw : b'.worker = none)
    (hq : b'.queue = b.queue) (hf : b'.files = b.files) (hc : b'.ctrl = b.ctrl) :
    WorkerAt path done rest b' := by
  unfold WorkerAt
  rw [hw]
  rintro rfl
  obtain ⟨hwr, hq0⟩ := h.settled
  exact ⟨hwr.congr hf (by rw [hc]), by rw [hq, hq0]⟩

/-! ## §4. The steps of the worker. -/

theorem Producer.congr (h : Producer t pending b) (hlog : b'.log = b.log)
    (hctrl : b'.ctrl =
      { b.ctrl with
        uiRunningCRC := b'.ctrl.uiRunningCRC, uiReceivedSize := b'.ctrl.uiReceivedSize }) :
    Producer t pending b' := by
  constructor
  · rw [hlog]; exact h.current
  · exact h.target
  · rw [hctrl]; exact h.path
  · rw [hctrl]; exact h.handle
  · rw [hctrl]; exact h.size
  · rw [hctrl]; exact h.crc
  · exact h.ids
  · exact h.filled
  · rw [hctrl]; exact h.nextId
  · rw [hctrl]; exact h.acceptedSize
  · exact h.fits

/-- A write that reports the length of the frame has appended the frame. -/
theorem fsWrite_whole {path : Path} {data content : List UInt8} {files : Files}
    (hc : files path = some content)
    (hn : ¬ ((fsWrite env path data files).1 < 0
      ∨ (fsWrite env path data files).1 ≠ data.length)) :
    (fsWrite env path data files).2 path = some (content ++ data) := by
  unfold fsWrite at hn ⊢
  split
  · next hneg => simp [hneg] at hn
  · next hneg =>
    simp only [if_neg hneg, not_or, ne_eq, not_not] at hn
    have hlen : env.write.toNat = data.length := by omega
    simp [hc, hlen]

/-- The next point of the worker, and what stands in the file there. -/
theorem Consumer.workerStep (hp : Producer t pending b) (hc : Consumer t b)
    (h : workerStep env b = some b') : Consumer t b' := by
  obtain ⟨done, rest, hacc, hrec, hat⟩ := hc
  unfold LittleFs.workerStep at h
  unfold WorkerAt at hat
  cases hw : b.worker with
  | none => simp [hw] at h
  | some w =>
    rw [hw] at hat
    simp only [hw] at h
    cases w with
    | get =>
      obtain ⟨hwr, hrest⟩ := hat
      simp only at h
      split at h
      · next hq =>
        split at h
        · cases h
          exact ⟨done, rest, hacc, hrec, fun _ => ⟨hwr.congr rfl rfl, by simp [hq, Bulk.atWorker]⟩⟩
        · cases h
      · next q hq =>
        cases h
        rw [hq, dataOf_end] at hrest
        exact ⟨done, rest, hacc, hrec, fun h0 => ⟨hwr.congr rfl rfl, hrest.symm.trans h0⟩⟩
      · next m q hq =>
        cases h
        rw [hq, dataOf_data] at hrest
        exact ⟨done, rest, hacc, hrec, hwr.congr rfl rfl, hrest⟩
    | check m =>
      simp only at h
      split at h
      · cases h
        exact ⟨done, rest, hacc, hrec, hat.1.congr rfl rfl, hat.2⟩
      · cases h
        exact ⟨done, rest, hacc, hrec, fun h0 => absurd (hat.2.symm.trans h0) (by simp)⟩
    | recheck m =>
      simp only at h
      split at h
      · cases h
        exact ⟨done, rest, hacc, hrec, fun h0 => absurd (hat.2.symm.trans h0) (by simp)⟩
      · cases h
        exact ⟨done, rest, hacc, hrec, hat.1.congr rfl rfl, hat.2⟩
    | write m =>
      simp only at h
      split at h
      · cases h
        exact ⟨done, rest, hacc, hrec, fun h0 => absurd (hat.2.symm.trans h0) (by simp)⟩
      · next hn =>
        cases h
        rw [hp.handle] at hn
        have hfile := fsWrite_whole hat.1.file hn
        refine ⟨done, rest, hacc, hrec, ?_, hat.1.running, hat.2⟩
        show (fsWrite env b.ctrl.stTFileData m.uiMsg b.files).2 t.pcaTotalFilePath = _
        rw [hp.handle, hfile, payload_append, payload_cons, payload_nil, List.append_nil]
    | crc m =>
      cases h
      refine ⟨done, rest, hacc, hrec, ⟨hat.1, ?_⟩, hat.2.2⟩
      show u16CRC16CCITTUpdate b.ctrl.uiRunningCRC m.uiMsg = _
      rw [hat.2.1, payload_append, payload_cons, payload_nil, List.append_nil,
        u16CRC16CCITTUpdate_append]
    | size m =>
      cases h
      have hrest : rest = m :: dataOf b.queue := hat.2
      have hacc' : t.accepted = (done ++ [m]) ++ dataOf b.queue := by
        rw [hacc, hrest, List.append_assoc, List.singleton_append]
      refine ⟨done ++ [m], dataOf b.queue, hacc', ?_, hat.1.congr rfl rfl, rfl⟩
      -- the counter cannot wrap: the accepted bytes fit the declared size
      have hfits := hp.fits
      have hlt := t.request.size_lt
      rw [hacc'] at hfits
      simp only [payload_append, payload_cons, payload_nil, List.append_nil,
        List.length_append] at hfits ⊢
      show (b.ctrl.uiReceivedSize + m.uiMsg.length) % 4294967296 = _
      rw [hrec, Nat.mod_eq_of_lt (by omega)]
    | setError e =>
      cases h
      exact ⟨done, rest, hacc, hrec, fun h0 => ⟨(hat h0).1.congr rfl rfl, (hat h0).2⟩⟩
    | setFailed =>
      cases h
      exact ⟨done, rest, hacc, hrec, fun h0 => ⟨(hat h0).1.congr rfl rfl, (hat h0).2⟩⟩
    | clear s =>
      cases h
      exact ⟨done, rest, hacc, hrec, fun h0 => ⟨(hat h0).1.congr rfl rfl, (hat h0).2⟩⟩

/-- **The worker keeps the relation.** -/
theorem Sending.workerStep (hs : Sending t pending b) (h : workerStep env b = some b') :
    Sending t pending b' :=
  ⟨hs.producer.congr (workerStep_frame h).log (workerStep_frame h).ctrl,
    hs.consumer.workerStep hs.producer h⟩

/-! ## §5. The steps of the producer. -/

/-- Only the queue, the files, the control fields, the worker and the log
count. -/
theorem Sending.congr (hs : Sending t pending b) (hctrl : b'.ctrl = b.ctrl)
    (hqueue : b'.queue = b.queue) (hfiles : b'.files = b.files)
    (hworker : b'.worker = b.worker) (hlog : b'.log = b.log) : Sending t pending b' := by
  obtain ⟨done, rest, hacc, hrec, hat⟩ := hs.consumer
  exact ⟨hs.producer.congr hlog (by rw [hctrl]), done, rest, hacc, by rw [hctrl, hrec],
    hat.congr hworker hqueue hfiles (by rw [hctrl])⟩

/-- What is put at the end of the queue is put at the end of the rest. -/
theorem WorkerAt.put (h : WorkerAt path done rest b) (x : BulkQueueMessage)
    (hw : b'.worker = b.worker) (hq : b'.queue = b.queue ++ [x]) (hf : b'.files = b.files)
    (hc : b'.ctrl = b.ctrl) : WorkerAt path done (rest ++ dataOf [x]) b' := by
  have hwr : ∀ {ds}, Written path ds b → Written path ds b' := fun h => h.congr hf (by rw [hc])
  have hstop : (rest = [] → Written path done b ∧ dataOf b.queue = [])
      → rest ++ dataOf [x] = [] → Written path done b' ∧ dataOf b'.queue = [] := by
    intro hr h0
    obtain ⟨h1, h2⟩ := List.append_eq_nil_iff.mp h0
    exact ⟨hwr (hr h1).1, by rw [hq, dataOf_append, (hr h1).2, h2]; rfl⟩
  unfold WorkerAt at h ⊢
  rw [hw]
  cases hwb : b.worker with
  | none =>
    rw [hwb] at h
    exact hstop h
  | some w =>
    rw [hwb] at h
    cases w with
    | get | check m | recheck m | write m | size m =>
      exact ⟨hwr h.1, by simp only [hq, dataOf_append, h.2, List.cons_append]⟩
    | crc m =>
      exact ⟨by rw [hf]; exact h.1, by rw [hc]; exact h.2.1,
        by simp only [hq, dataOf_append, h.2.2, List.cons_append]⟩
    | setError e | setFailed | clear s => exact hstop h

/-- The transfer with one more accepted frame. -/
def Transfer.accept (t : Transfer) (m : MsgData) : Transfer :=
  { t with accepted := t.accepted ++ [m] }

/-- **An accepted frame** has the next identifier and fits, and it joins the
queue. -/
theorem Sending.accept (hs : Sending t [] b) {m : MsgData} (hm : m.uiMsg ≠ [])
    (hid : m.uiFrameId = b.ctrl.uiNextFrameId)
    (hfit : m.uiDataLen ≤ b.ctrl.uiFileSize - b.ctrl.uiAcceptedSize)
    (hw : b'.worker = b.worker) (hq : b'.queue = b.queue ++ [.data m])
    (hf : b'.files = b.files) (hc : b'.ctrl = b.ctrl) (hl : b'.log = .accepted m :: b.log) :
    Sending (t.accept m) [m] b' := by
  obtain ⟨hp, done, rest, hacc, hrec, hat⟩ := hs
  have hnext := hp.nextId
  have hsize := hp.acceptedSize
  have hfits := hp.fits
  rw [hp.size] at hfit
  unfold MsgData.uiDataLen at hfit
  simp only [payload_nil, List.length_nil, Nat.add_zero] at hnext hsize
  refine ⟨?_, done, rest ++ [m], ?_, by rw [hc, hrec], hat.put (.data m) hw hq hf hc⟩
  · constructor
    · rw [hl, currentTransfer, hp.current]
      rfl
    · exact hp.target
    · rw [hc]; exact hp.path
    · rw [hc]; exact hp.handle
    · rw [hc]; exact hp.size
    · rw [hc]; exact hp.crc
    · show (t.accepted ++ [m]).map _ = List.range (t.accepted ++ [m]).length
      rw [List.map_append, hp.ids, List.length_append, List.length_singleton, List.range_succ,
        List.map_singleton, hid, hnext]
    · intro x hx
      rcases List.mem_append.mp hx with hx | hx
      · exact hp.filled x hx
      · rw [List.mem_singleton.mp hx]
        exact hm
    · show b'.ctrl.uiNextFrameId + 1 = (t.accepted ++ [m]).length
      rw [hc, hnext, List.length_append, List.length_singleton]
    · show b'.ctrl.uiAcceptedSize + (payload [m]).length = (payload (t.accepted ++ [m])).length
      rw [hc, hsize, payload_append, List.length_append]
    · show (payload (t.accepted ++ [m])).length ≤ t.request.uiFileSize
      simp only [payload_append, payload_cons, payload_nil, List.append_nil, List.length_append]
      omega
  · show t.accepted ++ [m] = done ++ (rest ++ [m])
    rw [hacc, List.append_assoc]

/-- No more frames than bytes: every frame has a payload. -/
theorem length_le_payload {ms : List MsgData} (h : ∀ m ∈ ms, m.uiMsg ≠ []) :
    ms.length ≤ (payload ms).length := by
  induction ms with
  | nil => exact Nat.le_refl 0
  | cons m ms ih =>
    have hm := List.length_pos_iff.mpr (h m (by simp))
    have hms := ih fun x hx => h x (by simp [hx])
    simp only [List.length_cons, payload_cons, List.length_append]
    omega

/-- The counters catch up with the queue; neither wraps. -/
theorem Sending.account {m : MsgData} (hs : Sending t [m] b)
    (hc : b'.ctrl =
      { b.ctrl with
        uiAcceptedSize := (b.ctrl.uiAcceptedSize + m.uiDataLen) % 4294967296
        uiNextFrameId := (b.ctrl.uiNextFrameId + 1) % 4294967296 })
    (hw : b'.worker = b.worker) (hq : b'.queue = b.queue) (hf : b'.files = b.files)
    (hl : b'.log = b.log) : Sending t [] b' := by
  obtain ⟨hp, done, rest, hacc, hrec, hat⟩ := hs
  have hnext := hp.nextId
  have hsize := hp.acceptedSize
  have hfits := hp.fits
  have hlt := t.request.size_lt
  have hlen := length_le_payload hp.filled
  simp only [payload_cons, payload_nil, List.append_nil, List.length_singleton] at hnext hsize
  refine ⟨?_, done, rest, hacc, by rw [hc]; exact hrec, ?_⟩
  · constructor
    · rw [hl]; exact hp.current
    · exact hp.target
    · rw [hc]; exact hp.path
    · rw [hc]; exact hp.handle
    · rw [hc]; exact hp.size
    · rw [hc]; exact hp.crc
    · exact hp.ids
    · exact hp.filled
    · rw [hc]
      show (b.ctrl.uiNextFrameId + 1) % 4294967296 + 0 = _
      rw [Nat.mod_eq_of_lt (by omega)]
      exact hnext
    · rw [hc]
      show (b.ctrl.uiAcceptedSize + m.uiMsg.length) % 4294967296 + 0 = _
      rw [Nat.mod_eq_of_lt (by omega)]
      exact hsize
    · exact hp.fits
  · exact (WorkerAt.congr hat hw hq hf (by rw [hc]))

/-- The end marker joins the queue. -/
theorem Sending.putEnd (hs : Sending t pending b) (hw : b'.worker = b.worker)
    (hq : b'.queue = b.queue ++ [.end_]) (hf : b'.files = b.files) (hc : b'.ctrl = b.ctrl)
    (hl : b'.log = b.log) : Sending t pending b' := by
  obtain ⟨done, rest, hacc, hrec, hat⟩ := hs.consumer
  refine ⟨hs.producer.congr hl (by rw [hc]), done, rest, hacc, by rw [hc, hrec], ?_⟩
  have hput := hat.put .end_ hw hq hf hc
  rwa [dataOf_end, dataOf_nil, List.append_nil] at hput

/-- The worker is aborted. -/
theorem Sending.abort (hs : Sending t pending b) (hw : b'.worker = none)
    (hq : b'.queue = b.queue) (hf : b'.files = b.files) (hc : b'.ctrl = b.ctrl)
    (hl : b'.log = b.log) : Sending t pending b' := by
  obtain ⟨done, rest, hacc, hrec, hat⟩ := hs.consumer
  exact ⟨hs.producer.congr hl (by rw [hc]), done, rest, hacc, by rw [hc, hrec],
    hat.stopped hw hq hf hc⟩

/-! ## §6. The first and the last moment of a transfer. -/

/-- Everything `bStart_BulkDataTransfer` has prepared for the request `r`. -/
structure Fresh (r : BulkTransferData) (b : Bulk) : Prop where
  opened : b.ctrl.bFileOpen = true
  target : r.target = some b.ctrl.pcaTotalFilePath
  handle : b.ctrl.stTFileData = b.ctrl.pcaTotalFilePath
  empty : b.files b.ctrl.pcaTotalFilePath = some []
  size : b.ctrl.uiFileSize = r.uiFileSize
  crc : b.ctrl.uiCRC = r.uiCRC
  running : b.ctrl.uiRunningCRC = 0xFFFF
  received : b.ctrl.uiReceivedSize = 0
  acceptedSize : b.ctrl.uiAcceptedSize = 0
  nextId : b.ctrl.uiNextFrameId = 0
  queue : b.queue = []

/-- The worker starts on an empty file and an empty queue. -/
theorem Fresh.start {r : BulkTransferData} {log : List Event} (h : Fresh r b)
    (hlog : b.log = .started r b.ctrl.pcaTotalFilePath :: log) :
    Sending ⟨r, b.ctrl.pcaTotalFilePath, []⟩ []
      { b with worker := some .get } where
  producer :=
    { current := by rw [hlog]; rfl
      target := h.target
      path := rfl
      handle := h.handle
      size := h.size
      crc := h.crc
      ids := rfl
      filled := by simp
      nextId := h.nextId
      acceptedSize := h.acceptedSize
      fits := Nat.zero_le _ }
  consumer :=
    ⟨[], [], rfl, h.received, ⟨h.empty, h.running⟩, by rw [h.queue, dataOf_nil]⟩

/-- The frame in the worker's hand. -/
def Worker.inHand : Worker → Option MsgData
  | .check m | .recheck m | .write m | .crc m | .size m => some m
  | .get | .setError _ | .setFailed | .clear _ => none

/-- Every accepted byte is in the file, and they are as many as declared. -/
structure Complete (t : Transfer) (b : Bulk) : Prop where
  current : currentTransfer b.log = some t
  target : t.request.target = some t.pcaTotalFilePath
  crc : b.ctrl.uiCRC = t.request.uiCRC
  ids : t.accepted.map MsgData.uiFrameId = List.range t.accepted.length
  length : (payload t.accepted).length = t.request.uiFileSize
  written : Written t.pcaTotalFilePath t.accepted b
  drained : dataOf b.queue = []
  free : ∀ w, b.worker = some w → w.inHand = none

theorem WorkerAt.free (h : WorkerAt path done [] b) {w : Worker} (hw : b.worker = some w) :
    w.inHand = none := by
  unfold WorkerAt at h
  rw [hw] at h
  cases w with
  | get | setError e | setFailed | clear s => rfl
  | check m | recheck m | write m | size m => exact absurd h.2 (by simp)
  | crc m => exact absurd h.2.2 (by simp)

/-- **The received size is the declared one** only when nothing is left. -/
theorem Sending.complete (hs : Sending t pending b)
    (h : b.ctrl.uiReceivedSize = b.ctrl.uiFileSize) : Complete t b := by
  obtain ⟨hp, done, rest, hacc, hrec, hat⟩ := hs
  have hfits := hp.fits
  rw [hrec, hp.size] at h
  have hrest : rest = [] := by
    have hle : rest.length ≤ (payload rest).length :=
      length_le_payload fun m hm => hp.filled m (by simp [hacc, hm])
    rw [hacc, payload_append, List.length_append] at hfits
    exact List.length_eq_zero_iff.mp (by omega)
  subst hrest
  rw [List.append_nil] at hacc
  subst hacc
  exact ⟨hp.current, hp.target, hp.crc, hp.ids, h, hat.settled.1, hat.settled.2, fun _ hw => hat.free hw⟩

theorem Complete.congr (h : Complete t b) (hlog : b'.log = b.log)
    (hcrc : b'.ctrl.uiCRC = b.ctrl.uiCRC)
    (hrun : b'.ctrl.uiRunningCRC = b.ctrl.uiRunningCRC) (hfiles : b'.files = b.files)
    (hqueue : dataOf b'.queue = []) (hfree : ∀ w, b'.worker = some w → w.inHand = none) :
    Complete t b' :=
  ⟨by rw [hlog]; exact h.current, h.target, by rw [hcrc]; exact h.crc, h.ids, h.length,
    h.written.congr hfiles hrun, hqueue, hfree⟩

/-- The worker no longer changes anything. -/
theorem Complete.workerStep (hc : Complete t b) (h : workerStep env b = some b') :
    Complete t b' := by
  have hfree := hc.free
  have hq0 := hc.drained
  unfold LittleFs.workerStep at h
  cases hw : b.worker with
  | none => simp [hw] at h
  | some w =>
    have hhand := hfree w hw
    simp only [hw] at h
    cases w with
    | check m | recheck m | write m | crc m | size m => exact absurd hhand (by simp [Worker.inHand])
    | get =>
      simp only at h
      split at h
      · split at h
        · cases h
          exact hc.congr rfl rfl rfl rfl hq0 (by simp [Bulk.atWorker, Worker.inHand])
        · cases h
      · next q hq =>
        cases h
        rw [hq, dataOf_end] at hq0
        exact hc.congr rfl rfl rfl rfl hq0 (by simp [Bulk.atWorker, Worker.inHand])
      · next m q hq =>
        rw [hq, dataOf_data] at hq0
        exact absurd hq0 (by simp)
    | setError e =>
      cases h
      exact hc.congr rfl rfl rfl rfl hq0 (by simp [Bulk.atWorker, Worker.inHand])
    | setFailed =>
      cases h
      exact hc.congr rfl rfl rfl rfl hq0 (by simp [Bulk.atWorker, Worker.inHand])
    | clear s =>
      cases h
      exact hc.congr rfl rfl rfl rfl hq0 (by simp)

/-- Complete, and the declared CRC is that of the file. -/
def Verified (t : Transfer) (b : Bulk) : Prop :=
  Complete t b ∧ u16CRC16CCITTUpdate 0xFFFF (payload t.accepted) = t.request.uiCRC

/-- The comparison of the CRCs. -/
theorem Complete.verified (hc : Complete t b) (h : b.ctrl.uiRunningCRC = b.ctrl.uiCRC) :
    Verified t b :=
  ⟨hc, by rw [← hc.written.running, h, hc.crc]⟩

theorem Verified.congr (h : Verified t b) (hlog : b'.log = b.log)
    (hcrc : b'.ctrl.uiCRC = b.ctrl.uiCRC)
    (hrun : b'.ctrl.uiRunningCRC = b.ctrl.uiRunningCRC) (hfiles : b'.files = b.files)
    (hqueue : b'.queue = b.queue) (hworker : b'.worker = b.worker) : Verified t b' :=
  ⟨h.1.congr hlog hcrc hrun hfiles (by rw [hqueue]; exact h.1.drained)
    (by rw [hworker]; exact h.1.free), h.2⟩

theorem Verified.delivered (h : Verified t b) : t.Delivered b.files :=
  ⟨h.1.target, h.1.written.file, h.1.ids, h.1.length, h.2⟩

end WallController.LittleFs
