/-
  WallController.PCUart.Transmit
  ────────────────────────────────
  **THE TWO THREADS THAT WRITE TO THE PC UART.**

  `vThread_PC_UART_API` reads frames, has them dispatched and answers them;
  `vThread_PC_UART_API_CANRx` sends the CAN frames that the firmware bridge
  forwards.  A step of a thread takes or releases `stUARTTxMutex`, writes one
  byte, or goes on with the work of the thread up to its next operation on the
  transmitter.

  The answers to the requests of one byte are written without the mutex.  All
  other messages are written under it, so they can only be torn by these.

  Main results:
    * `transmit_whole`: as long as no request is answered while a frame is
      being forwarded, what has been sent is a sequence of whole messages.
    * `transmit_torn`: a `?` in the middle of a forwarded frame.
-/
import WallController.Bootloader.CanController
import WallController.PCUart.Arbiter
import WallController.PCUart.Framing

namespace WallController.PCUart

open WallController.Lib WallController.Bootloader

/-! ## §1. One operation. -/

/-- The threads that write to the UART. -/
inductive Thread where
  | api
  | canRx
  deriving DecidableEq, Repr

/-- The transmitter: the mutex with its owner, the sequence counter, the bytes
written and the messages they belong to, in the order in which the first byte
of each was written. -/
structure Line where
  stUARTTxMutex : Option Thread
  uiPC_UART_APITxSeq : UInt16
  bytes : List UInt8
  begun : List (List UInt8)
  deriving DecidableEq, Repr

/-- The bytes of an operation. -/
def TxOp.message (uiPC_UART_APITxSeq : UInt16) : TxOp → List UInt8
  | .direct uiByte => [uiByte]
  | .debug uiDebugByte => [uiDebugByte]
  | .response uiStatus uiErrorCode => [uiStatus, uiErrorCode]
  | .frame uiCommand puiPayload => uartFrame uiCommand uiPC_UART_APITxSeq puiPayload

/-- A frame advances the sequence counter. -/
def TxOp.nextSeq (uiPC_UART_APITxSeq : UInt16) : TxOp → UInt16
  | .frame _ _ => uiPC_UART_APITxSeq + 1
  | _ => uiPC_UART_APITxSeq

/-- Where a thread stands in an operation: before it, or with the mutex and
with `rest` of the message to be written. -/
inductive OpPc where
  | start (op : TxOp)
  | locked (op : TxOp) (message rest : List UInt8)
  deriving DecidableEq, Repr

/-- One byte, or one operation on the mutex; behind the operation there is no
`OpPc`. -/
def OpPc.step (t : Thread) (pc : OpPc) (l : Line) : Option (Option OpPc × Line) :=
  match pc with
  | .start (.direct uiByte) =>
      some (none, { l with bytes := l.bytes ++ [uiByte], begun := l.begun ++ [[uiByte]] })
  | .start op =>
      if l.stUARTTxMutex = none then
        let message := op.message l.uiPC_UART_APITxSeq
        some (some (.locked op message message), { l with stUARTTxMutex := some t })
      else none
  | .locked op message (uiByte :: rest) =>
      some (some (.locked op message rest), { l with
        bytes := l.bytes ++ [uiByte]
        begun := if rest.length + 1 = message.length then l.begun ++ [message] else l.begun })
  | .locked op _ [] =>
      some (none, { l with
        stUARTTxMutex := none, uiPC_UART_APITxSeq := op.nextSeq l.uiPC_UART_APITxSeq })

/-- The operation goes on, or it is done. -/
theorem OpPc.step_not_start {t : Thread} {pc : OpPc} {op' : Option OpPc} {l l' : Line}
    (hs : pc.step t l = some (op', l')) (op : TxOp) : op' ≠ some (.start op) := by
  unfold OpPc.step at hs
  intro hstart
  rw [hstart] at hs
  split at hs
  · cases hs
  · split at hs <;> cases hs
  · cases hs
  · cases hs

/-! ## §2. The threads. -/

/-- `ePC_UART_Error_t`. -/
def Error.toByte : Error → UInt8
  | .none => 0
  | .invalidLength => 2
  | .canTxFail => 4
  | .invalidCommand => 5
  | .invalidOperation => 6
  | .operationBusy => 7
  | .serviceUnavailable => 8
  | .queueFull => 9
  | .invalidFrame => 10
  | .bulkStartFailed => 11
  | .bulkTransferFailed => 12
  | .bulkTimeout => 13
  | .bulkCRCMismatch => 14
  | .bulkSizeMismatch => 15
  | .fileNotFound => 16
  | .fileReadFailed => 17

/-- The frame as the dispatcher takes it. -/
def ReceivedFrame.toFrame (f : ReceivedFrame) : Frame where
  uiCommand := f.uiCommand
  puiPayload := some f.puiPayload
  uiPayloadLen := f.puiPayload.length
  inBounds := by
    rintro p ⟨⟩
    exact Nat.le_refl _

/-- The results of the calls made while a frame is dispatched; `record` is the
configuration record that has been read.  The threads run with the hub
initialized, and the answer to `ConfigRead` is within the limit, so it is
sent. -/
structure DispatchEnv where
  canQueued : Bool
  recordRead : Int
  record : List UInt8
  replies : Replies

def DispatchEnv.uartEnv (env : DispatchEnv) : UartEnv where
  canQueued := env.canQueued
  recordRead := env.recordRead
  frameSent := true

/-- The frame that `eProcess_ConfigRead` sends. -/
def configReadOps (env : DispatchEnv) (hub : Hub) (f : ReceivedFrame) : List TxOp :=
  if hub.eActiveOperation = .localBulkFile ∧ f.uiCommand = ePC_UART_Command_ConfigRead
      ∧ eProcessConfigRead env.uartEnv hub (some f.puiPayload) f.puiPayload.length = .none then
    [.frame ePC_UART_Command_ConfigRead (byteAt f.puiPayload 0 :: env.record)]
  else []

/-- What the API thread does next, once its operations are done. -/
inductive ApiPc where
  | read
  | dispatch (f : ReceivedFrame)
  /-- It waits for a byte that does not come. -/
  | waiting
  deriving DecidableEq, Repr

/-- `vThread_PC_UART_API`: the input still to come, the operations to be done
before it goes on, and where it stands in one of them. -/
structure ApiThread where
  pc : ApiPc
  rx : List Rx
  api : Api
  todo : List TxOp
  op : Option OpPc

/-- The loop of `vThread_PC_UART_API`, from one function to the next. -/
def ApiThread.next (env : DispatchEnv) (hub : Hub) (a : ApiThread) : Hub × ApiThread :=
  match a.pc with
  | .read =>
      match bReadUARTFrame a.rx { a.api with sent := [] } with
      | (.waiting, s) => (hub, { a with pc := .waiting, rx := [], api := s, todo := s.sent.reverse })
      | (.failed rx, s) => (hub, { a with rx := rx, api := s, todo := s.sent.reverse })
      | (.done f rx, s) =>
          (hub, { a with pc := .dispatch f, rx := rx, api := s, todo := s.sent.reverse })
  | .dispatch f =>
      let (hub', eError) :=
        serve hub { frame := f.toFrame, env := env.uartEnv, replies := env.replies }
      let uiStatus := if eError = .none then PC_UART_PROTOCOL_ACK else PC_UART_PROTOCOL_NACK
      (hub', { a with
        pc := .read
        api := { a.api with bUARTDebugNextFrame := false }
        todo := configReadOps env hub f ++ [.response uiStatus eError.toByte] })
  | .waiting => (hub, a)

/-- `vSend_UARTFrameToPC`. -/
def vSendUARTFrameToPC (f : CanFrame) : Option TxOp :=
  let uiLen := canDlcToBytes f.dlc
  if uiLen = 0 then none else some (.frame (byteAt f.data 0) ((f.data.drop 1).take (uiLen - 1)))

/-- `vThread_PC_UART_API_CANRx`: waiting for a frame, with a frame, or sending
it. -/
inductive CanRxPc where
  | get
  | got (f : CanFrame)
  | sending (op : OpPc)

def CanRxPc.op : CanRxPc → Option OpPc
  | .sending op => some op
  | _ => none

/-- Sending goes on, or the thread waits for the next frame. -/
def CanRxPc.after : Option OpPc → CanRxPc
  | some op => .sending op
  | none => .get

@[simp] theorem CanRxPc.after_op (op : Option OpPc) : (CanRxPc.after op).op = op := by
  cases op with
  | none => rfl
  | some op => rfl

/-! ## §3. The system. -/

def PC_UART_API_CAN_RX_QUEUE_DEPTH : Nat := 8

/-- The two threads, the operation they share, the queue between the CAN
driver and the second one, and the transmitter. -/
structure Port where
  hub : Hub
  msgq_PC_UART_APICANRx : List CanFrame
  api : ApiThread
  canRx : CanRxPc
  line : Line

/-- `vPC_UART_API_ForwardCANFrame` is called, or a thread takes a step. -/
inductive PortAct where
  | forward (f : CanFrame)
  | api (env : DispatchEnv)
  | canRx

/-- A step of the API thread. -/
def Port.stepApi (env : DispatchEnv) (p : Port) : Option Port :=
  match p.api.op with
  | some pc =>
      (pc.step .api p.line).map fun (op, line) => { p with api := { p.api with op }, line }
  | none =>
      match p.api.todo with
      | op :: todo => some { p with api := { p.api with op := some (.start op), todo } }
      | [] =>
          let (hub, api) := p.api.next env p.hub
          some { p with hub, api }

/-- A step of the CAN thread. -/
def Port.stepCanRx (p : Port) : Option Port :=
  match p.canRx with
  | .get =>
      match p.msgq_PC_UART_APICANRx with
      | [] => none
      | f :: fs => some { p with canRx := .got f, msgq_PC_UART_APICANRx := fs }
  | .got f =>
      if p.hub.eActiveOperation = .firmwareBridge then
        match vSendUARTFrameToPC f with
        | some op => some { p with canRx := .sending (.start op) }
        | none => some { p with canRx := .get }
      else some { p with canRx := .get }
  | .sending pc =>
      (pc.step .canRx p.line).map fun (op, line) => { p with canRx := .after op, line }

def Port.step (p : Port) : PortAct → Option Port
  | .forward f =>
      if p.hub.eActiveOperation = .firmwareBridge
          ∧ p.msgq_PC_UART_APICANRx.length < PC_UART_API_CAN_RX_QUEUE_DEPTH then
        some { p with msgq_PC_UART_APICANRx := p.msgq_PC_UART_APICANRx ++ [f] }
      else some p
  | .api env => p.stepApi env
  | .canRx => p.stepCanRx

/-- After `vInit_PC_UART_API`, with the input that will come. -/
def Port.boot (rx : List Rx) : Port where
  hub := Hub.init
  msgq_PC_UART_APICANRx := []
  api := { pc := .read, rx, api := Api.boot, todo := [], op := none }
  canRx := .get
  line := { stUARTTxMutex := none, uiPC_UART_APITxSeq := 0, bytes := [], begun := [] }

def portSystem : TransSys Port PortAct where
  init p := ∃ rx, p = Port.boot rx
  step p a p' := p.step a = some p'

/-! ## §4. Whole messages. -/

/-- What is still to be written of a message that has been begun. -/
def OpPc.inside : OpPc → List UInt8
  | .start _ => []
  | .locked _ message rest => if rest.length < message.length then rest else []

/-- The thread holds the mutex. -/
def OpPc.isLocked : OpPc → Bool
  | .start _ => false
  | .locked .. => true

def inside (op : Option OpPc) : List UInt8 := (op.map OpPc.inside).getD []

def isLocked (op : Option OpPc) : Bool := (op.map OpPc.isLocked).getD false

theorem inside_of_not_locked {op : Option OpPc} (h : isLocked op = false) : inside op = [] := by
  cases op with
  | none => rfl
  | some pc =>
      cases pc with
      | start op => rfl
      | locked op message rest => cases h

/-- Where each thread stands. -/
def Port.ops (p : Port) : Thread → Option OpPc
  | .api => p.api.op
  | .canRx => p.canRx.op

/-- The bytes of one operation. -/
def IsMessage (message : List UInt8) : Prop :=
  ∃ (op : TxOp) (uiSeq : UInt16), message = op.message uiSeq

/-- What has been sent is a sequence of whole messages, up to the rest of the
one that is being written. -/
structure Port.Whole (p : Port) : Prop where
  sent : p.line.bytes ++ (inside (p.ops .api) ++ inside (p.ops .canRx)) = p.line.begun.flatten
  messages : ∀ message ∈ p.line.begun, IsMessage message

/-- A message that is being written is a message, of which `rest` remains. -/
def OpOk : OpPc → Prop
  | .start _ => True
  | .locked _ message rest => IsMessage message ∧ message ≠ [] ∧ rest <:+ message

/-- The invariant: the owner of the mutex is the thread inside of a message,
and what has been sent goes up to the rest of this message. -/
structure LineInv (l : Line) (ops : Thread → Option OpPc) : Prop where
  owner : ∀ t, l.stUARTTxMutex = some t ↔ isLocked (ops t) = true
  ok : ∀ t pc, ops t = some pc → OpOk pc
  sent : l.bytes ++ (inside (ops .api) ++ inside (ops .canRx)) = l.begun.flatten
  messages : ∀ message ∈ l.begun, IsMessage message

theorem TxOp.message_ne_nil (op : TxOp) (uiSeq : UInt16) : op.message uiSeq ≠ [] := by
  cases op <;> simp [TxOp.message, uartFrame, uiaSOF]

namespace LineInv

variable {l : Line} {ops ops' : Thread → Option OpPc}

/-- At most one thread is inside of a message. -/
theorem other (h : LineInv l ops) {t t' : Thread} (ht : isLocked (ops t) = true) (hne : t' ≠ t) :
    inside (ops t') = [] := by
  refine inside_of_not_locked ?_
  rw [← Bool.not_eq_true, ← h.owner]
  rw [(h.owner t).mpr ht]
  rintro ⟨⟩
  exact hne rfl

/-- With only one thread inside of a message, its rest is all that remains. -/
theorem rest_eq {ops : Thread → Option OpPc} {t : Thread}
    (hother : ∀ t', t' ≠ t → inside (ops t') = []) :
    inside (ops .api) ++ inside (ops .canRx) = inside (ops t) := by
  cases t with
  | api => rw [hother .canRx (by decide), List.append_nil]
  | canRx => rw [hother .api (by decide), List.nil_append]

/-- The places of the threads after a step of `t`. -/
structure Moved (t : Thread) (op' : Option OpPc) (ops ops' : Thread → Option OpPc) : Prop where
  self : ops' t = op'
  others : ∀ t', t' ≠ t → ops' t' = ops t'

/-- What is to be shown after a step of `t`: nothing of the other threads. -/
theorem of_moved (h : LineInv l ops) {t : Thread} {op' : Option OpPc} {l' : Line}
    (hm : Moved t op' ops ops') (hself : l'.stUARTTxMutex = some t ↔ isLocked op' = true)
    (hothers : ∀ t', t' ≠ t → (l'.stUARTTxMutex = some t' ↔ l.stUARTTxMutex = some t'))
    (hok : ∀ pc, op' = some pc → OpOk pc)
    (hsent : l'.bytes ++ (inside (ops' .api) ++ inside (ops' .canRx)) = l'.begun.flatten)
    (hmessages : ∀ message ∈ l'.begun, IsMessage message) : LineInv l' ops' := by
  refine ⟨?_, ?_, hsent, hmessages⟩
  · intro t'
    by_cases heq : t' = t
    · rw [heq, hm.self]
      exact hself
    · rw [hm.others t' heq, hothers t' heq]
      exact h.owner t'
  · intro t' pc hpc
    by_cases heq : t' = t
    · rw [heq, hm.self] at hpc
      exact hok pc hpc
    · rw [hm.others t' heq] at hpc
      exact h.ok t' pc hpc

/-- No message is being written. -/
theorem begun_eq (h : LineInv l ops) (hnone : ∀ t, inside (ops t) = []) :
    l.bytes = l.begun.flatten := by
  rw [← h.sent, hnone, hnone]
  simp

/-- A byte that belongs to no message under the mutex. -/
theorem direct (h : LineInv l ops) {t : Thread} {uiByte : UInt8} {seq : UInt16}
    (ht : isLocked (ops t) = false) (hnone : ∀ t', t' ≠ t → inside (ops t') = [])
    (hm : Moved t none ops ops') :
    LineInv { l with bytes := l.bytes ++ [uiByte], begun := l.begun ++ [[uiByte]],
                     uiPC_UART_APITxSeq := seq } ops' := by
  have hall : ∀ t', inside (ops t') = [] := by
    intro t'
    by_cases heq : t' = t
    · rw [heq]
      exact inside_of_not_locked ht
    · exact hnone t' heq
  have hall' : ∀ t', inside (ops' t') = [] := by
    intro t'
    by_cases heq : t' = t
    · rw [heq, hm.self]
      rfl
    · rw [hm.others t' heq]
      exact hall t'
  refine h.of_moved hm ?_ (fun _ _ => Iff.rfl) (fun pc hpc => by (cases hpc)) ?_ ?_
  · exact (h.owner t).trans (by rw [ht]; rfl)
  · show l.bytes ++ [uiByte] ++ _ = (l.begun ++ [[uiByte]]).flatten
    rw [hall', hall', h.begun_eq hall]
    simp
  · intro message hmem
    rcases List.mem_append.mp hmem with hmem | hmem
    · exact h.messages message hmem
    · rw [List.mem_singleton.mp hmem]
      exact ⟨.direct uiByte, 0, rfl⟩

/-- The mutex is taken. -/
theorem lock (h : LineInv l ops) {t : Thread} (hfree : l.stUARTTxMutex = none) (op : TxOp)
    (hm : Moved t (some (.locked op (op.message l.uiPC_UART_APITxSeq)
      (op.message l.uiPC_UART_APITxSeq))) ops ops') :
    LineInv { l with stUARTTxMutex := some t } ops' := by
  have hunlocked : ∀ t', isLocked (ops t') = false := by
    intro t'
    rw [← Bool.not_eq_true, ← h.owner, hfree]
    exact fun h => by cases h
  have hself : inside (ops' t) = [] := by
    rw [hm.self]
    exact if_neg (Nat.lt_irrefl _)
  have hother : ∀ t', t' ≠ t → inside (ops' t') = [] := by
    intro t' hne
    rw [hm.others t' hne]
    exact inside_of_not_locked (hunlocked t')
  refine h.of_moved hm ⟨fun _ => rfl, fun _ => rfl⟩ ?_ ?_ ?_ h.messages
  · intro t' hne
    rw [hfree]
    refine ⟨fun hown => absurd (Option.some.inj hown).symm hne, fun hown => by (cases hown)⟩
  · intro pc hpc
    cases hpc
    exact ⟨⟨op, _, rfl⟩, op.message_ne_nil _, List.suffix_refl _⟩
  · show l.bytes ++ _ = l.begun.flatten
    rw [rest_eq hother, hself, List.append_nil]
    exact h.begun_eq fun t' => inside_of_not_locked (hunlocked t')

/-- A byte of a message under the mutex. -/
theorem write (h : LineInv l ops) {t : Thread} {op : TxOp} {message rest : List UInt8}
    {uiByte : UInt8} (ht : ops t = some (.locked op message (uiByte :: rest)))
    (hm : Moved t (some (.locked op message rest)) ops ops') :
    LineInv { l with
      bytes := l.bytes ++ [uiByte]
      begun := if rest.length + 1 = message.length then l.begun ++ [message] else l.begun }
      ops' := by
  have hlocked : isLocked (ops t) = true := by rw [ht]; rfl
  obtain ⟨hmessage, hne, hsuffix⟩ := h.ok t _ ht
  have hlen : rest.length + 1 ≤ message.length := hsuffix.length_le
  -- the mutex keeps every other thread outside its message
  have hother : ∀ t', t' ≠ t → inside (ops' t') = [] := by
    intro t' hne'
    rw [hm.others t' hne']
    exact h.other hlocked hne'
  have hself : inside (ops' t) = rest := by
    rw [hm.self]
    exact if_pos (by omega)
  have hsent := h.sent
  rw [rest_eq fun t' => h.other hlocked, ht] at hsent
  refine h.of_moved hm ?_ (fun _ _ => Iff.rfl) ?_ ?_ ?_
  · exact ⟨fun _ => rfl, fun _ => (h.owner t).mpr hlocked⟩
  · intro pc hpc
    cases hpc
    exact ⟨hmessage, hne, (List.suffix_cons _ _).trans hsuffix⟩
  · show l.bytes ++ [uiByte] ++ _ = List.flatten (if _ then _ else _)
    rw [rest_eq hother, hself]
    by_cases hfirst : rest.length + 1 = message.length
    · -- the first byte of the message
      have hwhole : uiByte :: rest = message := hsuffix.eq_of_length hfirst
      have hbefore : l.bytes = l.begun.flatten := by
        rw [← hsent]
        show _ = l.bytes ++ (if rest.length + 1 < message.length then _ else [])
        rw [if_neg (by omega), List.append_nil]
      rw [if_pos hfirst, List.flatten_append, ← hbefore, ← hwhole]
      simp
    · rw [if_neg hfirst, ← hsent]
      show _ = l.bytes ++ (if rest.length + 1 < message.length then uiByte :: rest else [])
      rw [if_pos (by omega)]
      simp
  · intro m hmem
    dsimp only at hmem
    split at hmem
    · rcases List.mem_append.mp hmem with hmem | hmem
      · exact h.messages m hmem
      · rw [List.mem_singleton.mp hmem]
        exact hmessage
    · exact h.messages m hmem

/-- The mutex is released. -/
theorem unlock (h : LineInv l ops) {t : Thread} {op : TxOp} {message : List UInt8} {seq : UInt16}
    (ht : ops t = some (.locked op message [])) (hm : Moved t none ops ops') :
    LineInv { l with stUARTTxMutex := none, uiPC_UART_APITxSeq := seq } ops' := by
  have hlocked : isLocked (ops t) = true := by rw [ht]; rfl
  have hself : inside (ops' t) = [] := by rw [hm.self]; rfl
  have hother : ∀ t', t' ≠ t → inside (ops' t') = [] := by
    intro t' hne
    rw [hm.others t' hne]
    exact h.other hlocked hne
  have hsent := h.sent
  rw [rest_eq fun t' => h.other hlocked, ht] at hsent
  refine h.of_moved hm ⟨fun hown => by (cases hown), fun hown => by (cases hown)⟩ ?_
    (fun pc hpc => by (cases hpc)) ?_ h.messages
  · intro t' hne
    rw [(h.owner t).mpr hlocked]
    exact ⟨fun hown => by (cases hown), fun hown => absurd (Option.some.inj hown).symm hne⟩
  · show l.bytes ++ _ = l.begun.flatten
    rw [rest_eq hother, hself, ← hsent]
    show _ = l.bytes ++ (if 0 < message.length then [] else [])
    rw [ite_self]

/-- **One operation of a thread**: no other thread is inside of a message when
a byte is written without the mutex. -/
theorem step (h : LineInv l ops) {t : Thread} {pc : OpPc} {op' : Option OpPc} {l' : Line}
    (ht : ops t = some pc) (hs : pc.step t l = some (op', l')) (hm : Moved t op' ops ops')
    (hdirect : ∀ uiByte, pc = .start (.direct uiByte) → ∀ t', t' ≠ t → inside (ops t') = []) :
    LineInv l' ops' := by
  have hstart : ∀ op, pc = .start op → isLocked (ops t) = false := by
    rintro op rfl
    rw [ht]
    rfl
  have hlock : ∀ op, (if l.stUARTTxMutex = none then
        some (some (OpPc.locked op (op.message l.uiPC_UART_APITxSeq)
          (op.message l.uiPC_UART_APITxSeq)), { l with stUARTTxMutex := some t })
      else none) = some (op', l') → LineInv l' ops' := by
    intro op hs
    by_cases hfree : l.stUARTTxMutex = none
    · rw [if_pos hfree] at hs
      cases hs
      exact h.lock hfree op hm
    · rw [if_neg hfree] at hs
      cases hs
  cases pc with
  | start op =>
      cases op with
      | direct uiByte =>
          cases hs
          exact h.direct (hstart _ rfl) (hdirect uiByte rfl) hm
      | debug uiDebugByte => exact hlock _ hs
      | response uiStatus uiErrorCode => exact hlock _ hs
      | frame uiCommand puiPayload => exact hlock _ hs
  | locked op message rest =>
      cases rest with
      | nil =>
          cases hs
          exact h.unlock ht hm
      | cons uiByte rest =>
          cases hs
          exact h.write ht hm

/-- A thread that is inside of no message goes on to something else outside of
a message. -/
theorem idle (h : LineInv l ops) {t : Thread} (ht : isLocked (ops t) = false) {op' : Option OpPc}
    (hop' : isLocked op' = false) (hm : Moved t op' ops ops') : LineInv l ops' := by
  have hinside : ∀ t', inside (ops' t') = inside (ops t') := by
    intro t'
    by_cases heq : t' = t
    · rw [heq, hm.self, inside_of_not_locked ht, inside_of_not_locked hop']
    · rw [hm.others t' heq]
  refine h.of_moved hm ?_ (fun _ _ => Iff.rfl) ?_ ?_ h.messages
  · rw [h.owner, ht, hop']
  · intro pc hpc
    cases pc with
    | start op => trivial
    | locked op message rest =>
        rw [hpc] at hop'
        cases hop'
  · rw [hinside, hinside]
    exact h.sent

end LineInv

/-! ## §5. Runs. -/

/-- The API thread is about to answer a request of one byte. -/
def ApiThread.answersRequest (a : ApiThread) : Bool :=
  match a.op with
  | some (.start (.direct _)) => true
  | _ => false

/-- No request is answered while a frame is being forwarded. -/
def Port.Undisturbed (p : Port) : PortAct → Prop
  | .api _ => p.api.answersRequest = true → inside p.canRx.op = []
  | _ => True

instance (p : Port) : (a : PortAct) → Decidable (p.Undisturbed a)
  | .api _ => inferInstanceAs (Decidable (_ → _))
  | .forward _ => inferInstanceAs (Decidable True)
  | .canRx => inferInstanceAs (Decidable True)

/-- The invariant of the line, and that the CAN thread sends frames only. -/
structure Port.Inv (p : Port) : Prop where
  line : LineInv p.line p.ops
  canRx : ∀ uiByte, p.canRx.op ≠ some (.start (.direct uiByte))

theorem Port.Inv.boot (rx : List Rx) : (Port.boot rx).Inv where
  line := {
    owner := by
      rintro (_ | _)
      · exact ⟨fun h => by (cases h), fun h => by (cases h)⟩
      · exact ⟨fun h => by (cases h), fun h => by (cases h)⟩
    ok := by
      rintro (_ | _) pc hpc
      · cases hpc
      · cases hpc
    sent := rfl
    messages := fun message hmem => by (cases hmem) }
  canRx uiByte h := by (cases h)

/-- A step of the API thread. -/
theorem Port.Inv.stepApi {p p' : Port} {env : DispatchEnv} (h : p.Inv)
    (hok : p.Undisturbed (.api env)) (hs : p.stepApi env = some p') : p'.Inv := by
  have hmoved : ∀ (api : ApiThread) (hub : Hub) (line : Line),
      LineInv.Moved .api api.op p.ops { p with hub := hub, api := api, line := line }.ops := by
    intro api hub line
    refine ⟨rfl, ?_⟩
    rintro (_ | _) hne
    · exact absurd rfl hne
    · rfl
  unfold Port.stepApi at hs
  cases hop : p.api.op with
  | none =>
      have hunlocked : isLocked (p.ops .api) = false := by
        show isLocked p.api.op = false
        rw [hop]
        rfl
      rw [hop] at hs
      cases htodo : p.api.todo with
      | cons op todo =>
          rw [htodo] at hs
          cases hs
          exact ⟨h.line.idle hunlocked rfl (hmoved _ _ _), h.canRx⟩
      | nil =>
          rw [htodo] at hs
          -- the loop goes on outside of an operation
          have hnext : (p.api.next env p.hub).2.op = none := by
            unfold ApiThread.next
            split
            · split <;> exact hop
            · exact hop
            · exact hop
          generalize p.api.next env p.hub = r at hs hnext
          cases hs
          refine ⟨h.line.idle hunlocked ?_ (hmoved r.2 r.1 p.line), h.canRx⟩
          rw [hnext]
          rfl
  | some pc =>
      rw [hop] at hs
      obtain ⟨⟨op', line'⟩, hstep, hp'⟩ := Option.map_eq_some_iff.mp hs
      cases hp'
      refine ⟨h.line.step (t := .api) hop hstep (hmoved { p.api with op := op' } p.hub line') ?_, h.canRx⟩
      rintro uiByte rfl t' hne
      have hcan : inside p.canRx.op = [] := hok (by unfold ApiThread.answersRequest; rw [hop])
      cases t' with
      | api => exact absurd rfl hne
      | canRx => exact hcan

/-- A step of the CAN thread. -/
theorem Port.Inv.stepCanRx {p p' : Port} (h : p.Inv) (hs : p.stepCanRx = some p') : p'.Inv := by
  have hmoved : ∀ (canRx : CanRxPc) (queue : List CanFrame) (line : Line),
      LineInv.Moved .canRx canRx.op p.ops
        { p with canRx := canRx, msgq_PC_UART_APICANRx := queue, line := line }.ops := by
    intro canRx queue line
    refine ⟨rfl, ?_⟩
    rintro (_ | _) hne
    · rfl
    · exact absurd rfl hne
  -- a step of the thread outside a message leaves the line alone
  have hidle : ∀ canRx queue, p.canRx.op = none → isLocked canRx.op = false →
      (∀ uiByte, canRx.op ≠ some (.start (.direct uiByte))) →
      ({ p with canRx := canRx, msgq_PC_UART_APICANRx := queue } : Port).Inv := by
    intro canRx queue hnone hunlocked hframe
    have hbefore : isLocked (p.ops .canRx) = false := by
      show isLocked p.canRx.op = false
      rw [hnone]
      rfl
    exact ⟨h.line.idle hbefore hunlocked (hmoved canRx queue p.line), hframe⟩
  unfold Port.stepCanRx at hs
  cases hpc : p.canRx with
  | get =>
      have hnone : p.canRx.op = none := by rw [hpc]; rfl
      rw [hpc] at hs
      cases hqueue : p.msgq_PC_UART_APICANRx with
      | nil =>
          rw [hqueue] at hs
          cases hs
      | cons f fs =>
          rw [hqueue] at hs
          cases hs
          exact hidle (.got f) fs hnone rfl fun uiByte hop => by (cases hop)
  | got f =>
      have hnone : p.canRx.op = none := by rw [hpc]; rfl
      have hget : ({ p with canRx := .get } : Port).Inv :=
        hidle .get p.msgq_PC_UART_APICANRx hnone rfl fun uiByte hop => by (cases hop)
      rw [hpc] at hs
      dsimp only at hs
      split at hs
      · unfold vSendUARTFrameToPC at hs
        -- a frame without data is not forwarded
        dsimp only at hs
        by_cases hlen : canDlcToBytes f.dlc = 0
        · rw [if_pos hlen] at hs
          cases hs
          exact hget
        · rw [if_neg hlen] at hs
          cases hs
          refine hidle (.sending (.start (.frame _ _))) p.msgq_PC_UART_APICANRx hnone rfl ?_
          intro uiByte hop
          cases hop
      · cases hs
        exact hget
  | sending pc =>
      have hop : p.canRx.op = some pc := by rw [hpc]; rfl
      rw [hpc] at hs
      obtain ⟨⟨op', line'⟩, hstep, hp'⟩ := Option.map_eq_some_iff.mp hs
      cases hp'
      refine ⟨h.line.step (t := .canRx) hop hstep ?_ ?_, ?_⟩
      · have hm := hmoved (.after op') p.msgq_PC_UART_APICANRx line'
        rw [CanRxPc.after_op] at hm
        exact hm
      · intro uiByte hdirect
        rw [hdirect] at hop
        exact absurd hop (h.canRx uiByte)
      · intro uiByte
        show (CanRxPc.after op').op ≠ _
        rw [CanRxPc.after_op]
        exact OpPc.step_not_start hstep _

theorem Port.Inv.step {p p' : Port} {a : PortAct} (h : p.Inv) (hok : p.Undisturbed a)
    (hs : p.step a = some p') : p'.Inv := by
  cases a with
  | forward f =>
      unfold Port.step at hs
      dsimp only at hs
      split at hs <;> cases hs
      · exact ⟨h.line, h.canRx⟩
      · exact h
  | api env => exact h.stepApi hok hs
  | canRx => exact h.stepCanRx hs

/-- The invariant holds as long as no request is answered while a frame is
being forwarded. -/
theorem Port.Inv.reachable {p : Port} (h : portSystem.ReachableVia Port.Undisturbed p) :
    p.Inv := by
  induction h with
  | init hinit =>
      obtain ⟨rx, rfl⟩ := hinit
      exact Port.Inv.boot rx
  | step _ hok hs ih => exact ih.step hok hs

/-- **Whole messages**: as long as no request is answered while a frame is
being forwarded, the bytes sent are a sequence of whole messages, up to the
rest of the one that is being written. -/
theorem transmit_whole {p : Port} (h : portSystem.ReachableVia Port.Undisturbed p) : p.Whole :=
  ⟨(Port.Inv.reachable h).line.sent, (Port.Inv.reachable h).line.messages⟩

/-- Every call succeeds. -/
def DispatchEnv.healthy : DispatchEnv where
  canQueued := true
  recordRead := 0
  record := []
  replies := ⟨true, 0, ⟨.success, .none⟩⟩

/-- The CAN frame of a response with three bytes. -/
def forwarded : CanFrame where
  dlc := 3
  data := [21, 10, 0] ++ List.replicate 61 0
  length_data := by decide

/-- The firmware bridge is selected; a `?` follows. -/
def bridgeInput : List Rx := received (uartFrame ePC_UART_Command_SelectOperation 0 [1] ++ [0x3F])

/-- The bridge is selected, and the CAN thread holds the mutex for the frame. -/
def beginForward : List PortAct :=
  List.replicate 7 (.api .healthy) ++ [.forward forwarded, .canRx, .canRx, .canRx]

/-- The answer to the `?`. -/
def answerRequest : List PortAct := List.replicate 3 (.api .healthy)

/-- Two bytes of the frame. -/
def writeTwo : List PortAct := [.canRx, .canRx]

/-- The `?` is answered before the first byte of the frame. -/
theorem transmit_whole_forwarded :
    ∃ p, portSystem.ReachableVia Port.Undisturbed p
      ∧ p.line.bytes = [6, 0, 0x21, 0x42, 0x4C] ∧ p.Whole := by
  have hrun : (((beginForward ++ answerRequest ++ writeTwo).foldlM
      (TransSys.guarded Port.Undisturbed Port.step) (Port.boot bridgeInput)).map
        fun p => p.line.bytes) = some [6, 0, 0x21, 0x42, 0x4C] := by
    decide +kernel
  obtain ⟨p, hp, hbytes⟩ := Option.map_eq_some_iff.mp hrun
  have hreach : portSystem.ReachableVia Port.Undisturbed p :=
    TransSys.ReachableVia.foldlM (fun _ _ _ h => TransSys.guarded_some h) (.init ⟨_, rfl⟩) _ hp
  exact ⟨p, hreach, hbytes, transmit_whole hreach⟩

/-- The `?` is answered behind the second byte of the frame. -/
theorem transmit_torn : ¬ ∀ p, portSystem.Reachable p → p.Whole := by
  intro h
  have hrun : (((beginForward ++ writeTwo ++ answerRequest).foldlM Port.step
      (Port.boot bridgeInput)).map fun p => decide (p.line.bytes
        ++ (inside (p.ops .api) ++ inside (p.ops .canRx)) = p.line.begun.flatten))
          = some false := by
    decide +kernel
  obtain ⟨p, hp, htorn⟩ := Option.map_eq_some_iff.mp hrun
  have hreach : portSystem.Reachable p :=
    TransSys.Reachable.foldlM (fun _ _ _ h => h) (.init ⟨_, rfl⟩) _ hp
  exact of_decide_eq_false htorn (h p hreach).sent

end WallController.PCUart
