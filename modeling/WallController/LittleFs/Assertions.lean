/-
  WallController.LittleFs.Assertions
  ────────────────────────────────
  **WHAT HOLDS AT EVERY POINT OF THE BULK TRANSFER.**

  The system of threads is verified with an assertion for every point of the
  UART thread and of the work queue handler (`At`), and with an invariant of
  the shared state (`Inv`).  Inside the mutex only the worker interferes, and
  the worker's step changes little: the counters, the file, its own flag, and
  the transfer state to `failed`.  So each assertion is checked once against
  the thread it belongs to, and once against the worker; the second half is
  done here, with the moves of a thread that leave the transfer alone.
-/
import WallController.LittleFs.Transfer

namespace WallController.LittleFs

/-! ## §1. Assertions. -/

/-- The point lies inside `kMutex_BulkTransfer`. -/
def Uart.inSection : Uart → Bool
  | .idle | .returned _ => false
  | .start _ .lock => false
  | .start _ _ => true
  | .data _ .lock => false
  | .data _ _ => true
  | .end_ .entry | .end_ (.lock _) => false
  | .end_ _ => true

def Handler.inSection : Handler → Bool
  | .idle | .lock => false
  | _ => true

/-- The file is open, but its transfer has not begun. -/
def Uart.opening : Uart → Bool
  | .start _ .setup | .start _ .publish | .start _ .startThread => true
  | _ => false

/-- The frame that is queued but not yet accounted for. -/
def Uart.pending : Uart → List MsgData
  | .data m .account => [m]
  | _ => []

/-- The controller is at rest. -/
structure Preparing (b : Bulk) : Prop where
  worker : b.worker = none
  state : b.eTransferState = .idle
  closed : b.ctrl.bFileOpen = false

/-- The counters stand at zero. -/
structure Cleared (b : Bulk) : Prop where
  received : b.ctrl.uiReceivedSize = 0
  acceptedSize : b.ctrl.uiAcceptedSize = 0
  nextId : b.ctrl.uiNextFrameId = 0

/-- The full path is that of the request. -/
def Aimed (r : BulkTransferData) (b : Bulk) : Prop := r.target = some b.ctrl.pcaTotalFilePath

/-- The target is open and empty. -/
structure Opened (b : Bulk) : Prop where
  worker : b.worker = none
  state : b.eTransferState = .idle
  opened : b.ctrl.bFileOpen = true
  handle : b.ctrl.stTFileData = b.ctrl.pcaTotalFilePath
  empty : b.files b.ctrl.pcaTotalFilePath = some []

def StartPc.At (r : BulkTransferData) (pc : StartPc) (b : Bulk) : Prop :=
  match pc with
  | .lock => True
  | .check => True
  | .reset .fields => Preparing b
  | .reset _ => Preparing b ∧ Cleared b
  | .path => Preparing b ∧ Cleared b
  | .delete => Preparing b ∧ Cleared b ∧ Aimed r b
  | .create => Preparing b ∧ Cleared b ∧ Aimed r b
  | .open_ => Preparing b ∧ Cleared b ∧ Aimed r b
  | .openFailed => Preparing b ∧ Cleared b
  | .setup => Opened b ∧ Cleared b ∧ Aimed r b
  | .publish => b.worker = none ∧ b.eTransferState = .idle ∧ Fresh r b
  | .startThread =>
      b.worker = none ∧ b.bMsg_ThreadInitialized = true ∧ b.eTransferState = .receiving
        ∧ Fresh r b
        ∧ ∃ log, b.log = .started r b.ctrl.pcaTotalFilePath :: log
  | .unlock _ => True

def DataPc.At (m : MsgData) (pc : DataPc) (b : Bulk) : Prop :=
  match pc with
  | .lock => True
  | .unlock _ => True
  | .check => m.uiMsg ≠ []
  | _ => m.uiMsg ≠ [] ∧ b.ctrl.bFileOpen = true

/-- The transfer is over for the producer, and its file is closed. -/
structure Closed (b : Bulk) : Prop where
  closed : b.ctrl.bFileOpen = false
  state : b.eTransferState ≠ .receiving

/-- The transfer is over for the producer, and its file is still open. -/
structure Ending (b : Bulk) : Prop where
  opened : b.ctrl.bFileOpen = true
  state : b.eTransferState ≠ .receiving

def EndPc.At (pc : EndPc) (b : Bulk) : Prop :=
  match pc with
  | .entry => True
  | .lock _ => True
  | .check _ => True
  | .finalizing => b.ctrl.bFileOpen = true
  | .put => Ending b
  | .take => Ending b
  | .error => Ending b
  | .size => Ending b
  | .crc => Ending b ∧ ∃ t, Complete t b
  | .setNone => Ending b ∧ ∃ t, Verified t b
  | .setSuccess => Ending b ∧ ∃ t, Verified t b
  | .sync => Ending b ∧ ∃ t, Verified t b
  | .close => Ending b ∧ ∃ t, Verified t b
  | .refresh => Closed b ∧ ∃ t, Verified t b
  | .setError _ false => Ending b
  | .setFailed false => Ending b
  | .setError _ true => Closed b
  | .setFailed true => Closed b
  | .abort => b.eTransferState = .failed
  | .failClose => b.eTransferState = .failed
  | .failDelete => b.eTransferState = .failed ∧ b.ctrl.bFileOpen = false
  | .report => Closed b ∧ (b.eTransferState = .success → ∃ t, Verified t b)
  | .reportError eState => Closed b ∧ (eState = .success → ∃ t, Verified t b)
  | .reset .idle _ => Closed b ∧ b.worker = none
  | .reset _ _ => Closed b
  | .unlock _ => True

def Uart.At (u : Uart) (b : Bulk) : Prop :=
  match u with
  | .idle => True
  | .start r pc => pc.At r b
  | .data m pc => pc.At m b
  | .end_ pc => pc.At b
  | .returned _ => True

def Handler.At (h : Handler) (b : Bulk) : Prop :=
  match h with
  | .idle => True
  | .lock => True
  | .check => True
  | .setFailed => True
  | .close => b.eTransferState = .failed
  | .delete => Closed b
  | .reset .idle => Closed b ∧ b.worker = none
  | .reset _ => Closed b
  | .unlock => True

/-- Every success in the log was a delivery. -/
def Faithful (log : List Event) : Prop :=
  ∀ later earlier files, log = later ++ .ended ⟨.success, .none⟩ files :: earlier →
    ∃ t, currentTransfer earlier = some t ∧ t.Delivered files

/-- An event that is not a success adds nothing to show. -/
theorem Faithful.cons {log : List Event} {e : Event} (h : Faithful log)
    (he : ∀ files, e ≠ .ended ⟨.success, .none⟩ files) : Faithful (e :: log) := by
  intro later earlier files heq
  cases later with
  | nil => exact absurd (List.cons.inj heq).1 (he files)
  | cons x later => exact h later earlier files (List.cons.inj heq).2

/-- The end of a transfer. -/
theorem Faithful.ended {log : List Event} {r : TransferResult} {files : Files}
    (h : Faithful log)
    (hr : r = ⟨.success, .none⟩ → ∃ t, currentTransfer log = some t ∧ t.Delivered files) :
    Faithful (.ended r files :: log) := by
  intro later earlier files' heq
  cases later with
  | nil =>
    obtain ⟨h1, rfl⟩ := List.cons.inj heq
    obtain ⟨rfl, rfl⟩ := Event.ended.inj h1
    exact hr rfl
  | cons x later => exact h later earlier files' (List.cons.inj heq).2

/-- **The invariant.** -/
structure Inv (b : Bulk) : Prop where
  uartLock : b.kMutex_BulkTransfer = some .uart ↔ b.uart.inSection = true
  handlerLock : b.kMutex_BulkTransfer = some .workQueue ↔ b.handler.inSection = true
  worker : b.worker ≠ none → b.bMsg_ThreadInitialized = true ∧ b.eTransferState ≠ .idle
  receiving : b.eTransferState = .receiving → b.ctrl.bFileOpen = true
  idle : b.eTransferState = .idle → b.ctrl.bFileOpen = true → b.uart.opening = true
  uartAt : b.uart.At b
  handlerAt : b.handler.At b
  sending : b.ctrl.bFileOpen = true → b.uart.opening = false → ∃ t, Sending t b.uart.pending b
  faithful : Faithful b.log

variable {b b' : Bulk} {env : Env}

theorem inv_boot (files : Files) : Inv (Bulk.boot files) := by
  constructor <;> simp [Bulk.boot, Uart.inSection, Handler.inSection, Uart.At, Handler.At]
  intro later earlier files h
  simp at h

/-! ## §2. Outside the mutex. -/

theorem Uart.at_outside {u : Uart} (h : u.inSection = false) (b : Bulk) : u.At b := by
  cases u with
  | idle | returned r => trivial
  | start r pc => cases pc <;> trivial
  | data m pc => cases pc <;> trivial
  | end_ pc => cases pc <;> trivial

theorem Uart.opening_outside {u : Uart} (h : u.inSection = false) : u.opening = false := by
  cases u with
  | idle | returned r | data m pc | end_ pc => rfl
  | start r pc => cases pc <;> trivial

theorem Uart.pending_outside {u : Uart} (h : u.inSection = false) : u.pending = [] := by
  cases u with
  | idle | returned r | start r pc | end_ pc => rfl
  | data m pc => cases pc <;> trivial

theorem Handler.at_outside {h : Handler} (ho : h.inSection = false) (b : Bulk) : h.At b := by
  cases h <;> trivial

/-- The two sections exclude each other. -/
theorem Inv.handler_outside (hi : Inv b) (h : b.uart.inSection = true) :
    b.handler.inSection = false := by
  have hm := hi.uartLock.mpr h
  have hl := hi.handlerLock
  rw [hm] at hl
  simpa using hl

theorem Inv.uart_outside (hi : Inv b) (h : b.handler.inSection = true) :
    b.uart.inSection = false := by
  have hm := hi.handlerLock.mpr h
  have hl := hi.uartLock
  rw [hm] at hl
  simpa using hl

/-! ## §3. The worker interferes with no assertion. -/

section Interference

variable (h : workerStep env b = some b')
include h

theorem bFileOpen_worker : b'.ctrl.bFileOpen = b.ctrl.bFileOpen := by
  rw [(workerStep_frame h).ctrl]

theorem failed_worker (hf : b.eTransferState = .failed) : b'.eTransferState = .failed :=
  (workerStep_frame h).state.elim (fun hs => hs.trans hf) id

theorem receiving_worker (hf : b'.eTransferState = .receiving) :
    b.eTransferState = .receiving := by
  rcases (workerStep_frame h).state with hs | hs
  · rwa [← hs]
  · rw [hs] at hf
    cases hf

theorem Closed.workerStep (hc : Closed b) : Closed b' :=
  ⟨by rw [bFileOpen_worker h]; exact hc.closed, fun hr => hc.state (receiving_worker h hr)⟩

theorem Ending.workerStep (hc : Ending b) : Ending b' :=
  ⟨by rw [bFileOpen_worker h]; exact hc.opened, fun hr => hc.state (receiving_worker h hr)⟩

theorem Verified.workerStep {t : Transfer} (hv : Verified t b) : Verified t b' :=
  ⟨hv.1.workerStep h, hv.2⟩

theorem StartPc.at_worker {r : BulkTransferData} {pc : StartPc} (ha : pc.At r b) :
    pc.At r b' := by
  have halive := (workerStep_frame h).alive
  cases pc with
  | lock | check | unlock res => trivial
  | reset p =>
    cases p with
    | fields => exact absurd ha.worker halive
    | abort | idle => exact absurd ha.1.worker halive
  | path | delete | create | open_ | openFailed | setup => exact absurd ha.1.worker halive
  | publish | startThread => exact absurd ha.1 halive

theorem DataPc.at_worker {m : MsgData} {pc : DataPc} (ha : pc.At m b) : pc.At m b' := by
  cases pc with
  | lock | unlock i => trivial
  | check => exact ha
  | checkError | accept | account => exact ⟨ha.1, by rw [bFileOpen_worker h]; exact ha.2⟩

theorem EndPc.at_worker {pc : EndPc} (ha : pc.At b) : pc.At b' := by
  cases pc with
  | entry | lock st | check st | unlock r => trivial
  | finalizing =>
    show b'.ctrl.bFileOpen = true
    rw [bFileOpen_worker h]
    exact ha
  | put | take | error | size => exact ha.workerStep h
  | crc => exact ⟨ha.1.workerStep h, ha.2.imp fun t ht => ht.workerStep h⟩
  | setNone | setSuccess | sync | close | refresh =>
    exact ⟨ha.1.workerStep h, ha.2.imp fun t ht => ht.workerStep h⟩
  | setError e bExit => cases bExit <;> exact ha.workerStep h
  | setFailed bExit => cases bExit <;> exact ha.workerStep h
  | abort | failClose => exact failed_worker h ha
  | failDelete => exact ⟨failed_worker h ha.1, by rw [bFileOpen_worker h]; exact ha.2⟩
  | report =>
    refine ⟨ha.1.workerStep h, fun hs => ?_⟩
    rcases (workerStep_frame h).state with hst | hst
    · exact (ha.2 (hst ▸ hs)).imp fun t ht => ht.workerStep h
    · rw [hst] at hs
      cases hs
  | reportError st =>
    exact ⟨ha.1.workerStep h, fun hs => (ha.2 hs).imp fun t ht => ht.workerStep h⟩
  | reset p r =>
    cases p with
    | fields | abort => exact ha.workerStep h
    | idle => exact absurd ha.2 (workerStep_frame h).alive

theorem Uart.at_worker {u : Uart} (ha : u.At b) : u.At b' := by
  cases u with
  | idle | returned r => trivial
  | start r pc => exact StartPc.at_worker h ha
  | data m pc => exact DataPc.at_worker h ha
  | end_ pc => exact EndPc.at_worker h ha

theorem Handler.at_worker {hd : Handler} (ha : hd.At b) : hd.At b' := by
  cases hd with
  | idle | lock | check | setFailed | unlock => trivial
  | close => exact failed_worker h ha
  | delete => exact Closed.workerStep h ha
  | reset p =>
    cases p with
    | fields | abort => exact Closed.workerStep h ha
    | idle => exact absurd ha.2 (workerStep_frame h).alive

/-- **A step of the worker keeps the invariant.** -/
theorem Inv.workerStep (hi : Inv b) : Inv b' := by
  have hf := workerStep_frame h
  have hw := hi.worker hf.alive
  constructor
  · rw [hf.mutex, hf.uart]; exact hi.uartLock
  · rw [hf.mutex, hf.handler]; exact hi.handlerLock
  · intro halive
    refine ⟨by rw [hf.flag halive]; exact hw.1, ?_⟩
    rcases hf.state with hs | hs
    · rw [hs]; exact hw.2
    · rw [hs]; simp
  · intro hr
    rw [bFileOpen_worker h]
    exact hi.receiving (receiving_worker h hr)
  · intro hidle
    rcases hf.state with hs | hs
    · exact absurd (hs ▸ hidle) hw.2
    · rw [hs] at hidle
      cases hidle
  · rw [hf.uart]; exact Uart.at_worker h hi.uartAt
  · rw [hf.handler]; exact Handler.at_worker h hi.handlerAt
  · rw [bFileOpen_worker h, hf.uart]
    intro ho hu
    exact (hi.sending ho hu).imp fun t ht => ht.workerStep h
  · rw [hf.log]; exact hi.faithful

end Interference

/-! ## §4. The UART thread at the mutex. -/

/-- `b'` has the transfer of `b`: it differs in the position of the threads, in
the mutex, the semaphore and the error at most. -/
def SameTransfer (b b' : Bulk) : Prop :=
  b' = { b with
    eError := b'.eError, kMutex_BulkTransfer := b'.kMutex_BulkTransfer
    kSem_BulkWorkerDone := b'.kSem_BulkWorkerDone, stMsgWorkQueue := b'.stMsgWorkQueue
    uart := b'.uart, tails := b'.tails, handler := b'.handler }

section SameTransfer

variable (hs : SameTransfer b b')
include hs

theorem Preparing.congr (h : Preparing b) : Preparing b' := by
  rw [hs]; exact ⟨h.worker, h.state, h.closed⟩

theorem Cleared.congr (h : Cleared b) : Cleared b' := by
  rw [hs]; exact ⟨h.received, h.acceptedSize, h.nextId⟩

theorem Opened.congr (h : Opened b) : Opened b' := by
  rw [hs]; exact ⟨h.worker, h.state, h.opened, h.handle, h.empty⟩

theorem Fresh.congr {r : BulkTransferData} (h : Fresh r b) : Fresh r b' := by
  rw [hs]
  exact ⟨h.opened, h.target, h.handle, h.empty, h.size, h.crc, h.running, h.received,
    h.acceptedSize, h.nextId, h.queue⟩

theorem Closed.congr (h : Closed b) : Closed b' := by
  rw [hs]; exact ⟨h.closed, h.state⟩

theorem Ending.congr (h : Ending b) : Ending b' := by
  rw [hs]; exact ⟨h.opened, h.state⟩

theorem Verified.same {t : Transfer} (h : Verified t b) : Verified t b' := by
  rw [hs]; exact h.congr rfl rfl rfl rfl rfl rfl

theorem Sending.same {t : Transfer} {pending : List MsgData} (h : Sending t pending b) :
    Sending t pending b' := by
  rw [hs]; exact h.congr rfl rfl rfl rfl rfl

theorem StartPc.at_congr {r : BulkTransferData} {pc : StartPc} (ha : pc.At r b) : pc.At r b' := by
  cases pc with
  | lock | check | unlock res => trivial
  | reset p =>
    cases p with
    | fields => exact Preparing.congr hs ha
    | abort | idle => exact ⟨ha.1.congr hs, ha.2.congr hs⟩
  | path | openFailed => exact ⟨ha.1.congr hs, ha.2.congr hs⟩
  | delete | create | open_ | setup =>
    exact ⟨ha.1.congr hs, ha.2.1.congr hs, by rw [hs]; exact ha.2.2⟩
  | publish =>
    obtain ⟨hw, hst, hf⟩ := ha
    exact ⟨by rw [hs]; exact hw, by rw [hs]; exact hst, hf.congr hs⟩
  | startThread =>
    obtain ⟨hw, hfl, hst, hf, hlog⟩ := ha
    exact ⟨by rw [hs]; exact hw, by rw [hs]; exact hfl, by rw [hs]; exact hst, hf.congr hs,
      by rw [hs]; exact hlog⟩

theorem DataPc.at_congr {m : MsgData} {pc : DataPc} (ha : pc.At m b) : pc.At m b' := by
  cases pc with
  | lock | unlock i => trivial
  | check => exact ha
  | checkError | accept | account => exact ⟨ha.1, by rw [hs]; exact ha.2⟩

theorem EndPc.at_congr {pc : EndPc} (ha : pc.At b) : pc.At b' := by
  cases pc with
  | entry | lock st | check st | unlock r => trivial
  | put | take | error | size => exact Ending.congr hs ha
  | crc =>
    exact ⟨ha.1.congr hs, ha.2.imp fun t ht => by
      rw [hs]; exact Complete.congr ht rfl rfl rfl rfl ht.drained ht.free⟩
  | setNone | setSuccess | sync | close | refresh =>
    exact ⟨ha.1.congr hs, ha.2.imp fun t ht => ht.same hs⟩
  | setError e bExit => cases bExit <;> exact ha.congr hs
  | setFailed bExit => cases bExit <;> exact ha.congr hs
  | finalizing | abort | failClose | failDelete => rw [hs]; exact ha
  | report =>
    exact ⟨ha.1.congr hs, fun h => (ha.2 (by rw [hs] at h; exact h)).imp fun t ht => ht.same hs⟩
  | reportError st => exact ⟨ha.1.congr hs, fun h => (ha.2 h).imp fun t ht => ht.same hs⟩
  | reset p r =>
    cases p with
    | fields | abort => exact Closed.congr hs ha
    | idle => exact ⟨ha.1.congr hs, by rw [hs]; exact ha.2⟩

theorem Uart.at_congr {u : Uart} (ha : u.At b) : u.At b' := by
  cases u with
  | idle | returned r => trivial
  | start r pc => exact StartPc.at_congr hs ha
  | data m pc => exact DataPc.at_congr hs ha
  | end_ pc => exact EndPc.at_congr hs ha

theorem Handler.at_congr {hd : Handler} (ha : hd.At b) : hd.At b' := by
  cases hd with
  | idle | lock | check | setFailed | unlock => trivial
  | close => rw [hs]; exact ha
  | delete => exact Closed.congr hs ha
  | reset p =>
    cases p with
    | fields | abort => exact Closed.congr hs ha
    | idle => exact ⟨ha.1.congr hs, by rw [hs]; exact ha.2⟩

end SameTransfer

/-- **A step that leaves the transfer alone**: the locks and the assertions
are left to check. -/
theorem Inv.same (hi : Inv b) (hs : SameTransfer b b')
    (huart : b'.kMutex_BulkTransfer = some .uart ↔ b'.uart.inSection = true)
    (hhandler : b'.kMutex_BulkTransfer = some .workQueue ↔ b'.handler.inSection = true)
    (hopen : b'.uart.opening = b.uart.opening) (hpe : b'.uart.pending = b.uart.pending)
    (hat : b'.uart.At b') (hhat : b'.handler.At b') : Inv b' where
  uartLock := huart
  handlerLock := hhandler
  worker := by rw [hs]; exact hi.worker
  receiving := by rw [hs]; exact hi.receiving
  idle := by rw [hopen, hs]; exact hi.idle
  uartAt := hat
  handlerAt := hhat
  sending := by
    intro h1 h2
    rw [hopen] at h2
    rw [hs] at h1
    rw [hpe]
    exact (hi.sending h1 h2).imp fun t ht => ht.same hs
  faithful := by rw [hs]; exact hi.faithful

/-- A move of the UART thread outside the mutex. -/
theorem Inv.outside (hi : Inv b) (hs : SameTransfer b b') (ho : b.uart.inSection = false)
    (hmutex : b'.kMutex_BulkTransfer = b.kMutex_BulkTransfer) (hhandler : b'.handler = b.handler)
    (ho' : b'.uart.inSection = false) : Inv b' := by
  refine hi.same hs ?_ ?_ ?_ ?_ (Uart.at_outside ho' b') ?_
  · rw [hmutex, hi.uartLock, ho, ho']
  · rw [hmutex, hhandler]; exact hi.handlerLock
  · rw [Uart.opening_outside ho, Uart.opening_outside ho']
  · rw [Uart.pending_outside ho, Uart.pending_outside ho']
  · rw [hhandler]; exact Handler.at_congr hs hi.handlerAt

/-- A move of the UART thread inside the mutex. -/
theorem Inv.move (hi : Inv b) (hs : SameTransfer b b') (hin : b.uart.inSection = true)
    (hmutex : b'.kMutex_BulkTransfer = b.kMutex_BulkTransfer) (hhandler : b'.handler = b.handler)
    (hin' : b'.uart.inSection = true) (hopen : b'.uart.opening = b.uart.opening)
    (hpe : b'.uart.pending = b.uart.pending) (hat : b'.uart.At b') : Inv b' := by
  refine hi.same hs ?_ ?_ hopen hpe hat ?_
  · rw [hmutex, hi.uartLock, hin, hin']
  · rw [hmutex, hhandler]; exact hi.handlerLock
  · rw [hhandler]; exact Handler.at_congr hs hi.handlerAt

/-- The UART thread takes the mutex. -/
theorem Inv.lock (hi : Inv b) (ho : b.uart.inSection = false)
    (hm : b.kMutex_BulkTransfer = none) {u : Uart} (hu : u.inSection = true)
    (hopen : u.opening = false) (hpe : u.pending = [])
    (hat : u.At { b with kMutex_BulkTransfer := some .uart, uart := u }) :
    Inv { b with kMutex_BulkTransfer := some .uart, uart := u } := by
  have hh : b.handler.inSection = false := by
    have hl := hi.handlerLock
    rw [hm] at hl
    simpa using hl
  refine hi.same rfl ?_ ?_ ?_ ?_ hat (Handler.at_outside hh _)
  · simp [hu]
  · simp [hh]
  · rw [Uart.opening_outside ho]; exact hopen
  · rw [Uart.pending_outside ho]; exact hpe

/-- The UART thread releases the mutex. -/
theorem Inv.unlock (hi : Inv b) (hin : b.uart.inSection = true) (hopen : b.uart.opening = false)
    (hpe : b.uart.pending = []) {u : Uart} (hu : u.inSection = false) :
    Inv { b with kMutex_BulkTransfer := none, uart := u } := by
  have hh := hi.handler_outside hin
  refine hi.same rfl ?_ ?_ ?_ ?_ (Uart.at_outside hu _) (Handler.at_outside hh _)
  · simp [hu]
  · simp [hh]
  · rw [hopen]; exact Uart.opening_outside hu
  · rw [hpe]; exact Uart.pending_outside hu

/-- A step inside the mutex: the handler is outside. -/
theorem Inv.inside (hi : Inv b) (hin : b.uart.inSection = true)
    (hmutex : b'.kMutex_BulkTransfer = b.kMutex_BulkTransfer) (hhandler : b'.handler = b.handler)
    (hin' : b'.uart.inSection = true)
    (hworker : b'.worker ≠ none →
      b'.bMsg_ThreadInitialized = true ∧ b'.eTransferState ≠ .idle)
    (hreceiving : b'.eTransferState = .receiving → b'.ctrl.bFileOpen = true)
    (hidle : b'.eTransferState = .idle → b'.ctrl.bFileOpen = true → b'.uart.opening = true)
    (hat : b'.uart.At b')
    (hsending : b'.ctrl.bFileOpen = true → b'.uart.opening = false →
      ∃ t, Sending t b'.uart.pending b')
    (hfaithful : Faithful b'.log) : Inv b' where
  uartLock := by rw [hmutex, hi.uartLock, hin, hin']
  handlerLock := by rw [hmutex, hhandler]; exact hi.handlerLock
  worker := hworker
  receiving := hreceiving
  idle := hidle
  uartAt := hat
  handlerAt := by
    rw [hhandler]
    exact Handler.at_outside (hi.handler_outside hin) b'
  sending := hsending
  faithful := hfaithful

/-- A step that leaves the controller at rest. -/
theorem Inv.preparing (hi : Inv b) (hin : b.uart.inSection = true)
    (hmutex : b'.kMutex_BulkTransfer = b.kMutex_BulkTransfer) (hhandler : b'.handler = b.handler)
    (hlog : b'.log = b.log) (hin' : b'.uart.inSection = true) (hp : Preparing b')
    (hat : b'.uart.At b') : Inv b' := by
  have hclosed : ∀ {P : Prop}, b'.ctrl.bFileOpen = true → P := fun h =>
    absurd (hp.closed.symm.trans h) (by simp)
  refine hi.inside hin hmutex hhandler hin' (fun h => absurd hp.worker h) ?_
    (fun _ h => hclosed h) hat (fun h _ => hclosed h) (by rw [hlog]; exact hi.faithful)
  intro h
  rw [hp.state] at h
  cases h

/-- A step that ends with the file closed. -/
theorem Inv.closed (hi : Inv b) (hin : b.uart.inSection = true)
    (hmutex : b'.kMutex_BulkTransfer = b.kMutex_BulkTransfer) (hhandler : b'.handler = b.handler)
    (hin' : b'.uart.inSection = true) (hc : Closed b')
    (hworker : b'.worker ≠ none →
      b'.bMsg_ThreadInitialized = true ∧ b'.eTransferState ≠ .idle)
    (hat : b'.uart.At b') (hfaithful : Faithful b'.log) : Inv b' := by
  have hclosed : ∀ {P : Prop}, b'.ctrl.bFileOpen = true → P := fun h =>
    absurd (hc.closed.symm.trans h) (by simp)
  exact hi.inside hin hmutex hhandler hin' hworker (fun h => absurd h hc.state)
    (fun _ h => hclosed h) hat (fun h _ => hclosed h) hfaithful

end WallController.LittleFs
