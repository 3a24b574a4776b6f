/-
  WallController.CommManager.Threads
  ────────────────────────────────
  **THE THREADS OF THE COMMUNICATION MANAGER.**

  The table of transactions, any number of application threads, the manager
  thread and the callbacks of the CAN driver.  A step is one section under the
  mutex of a slot, or one atomic load outside of it; a lock with a timeout can
  fail at any time.  The threads take their steps in any order.

  A thread that subscribed sends its message (`vSend_CANMessage`) and hands a
  refusal to `bManage_TransmissionError`.  An accepted submission has at most
  one completion, at any later time and on any idle thread.
-/
import WallController.CommManager.Transaction
import WallController.Lib.Runs
import Mathlib.Logic.Function.Basic

namespace WallController.CommManager

open WallController.Bootloader (CanFrame)
open WallController.Lib

abbrev Slot := Fin MAX_NUMBER_OF_TRANSACTION_TRACKINGs

/-- The manager thread, and the threads that subscribe or run a callback of
the driver. -/
inductive Thread (ι : Type) where
  | manager
  | app (i : ι)
  deriving DecidableEq, Repr

/-- Where `pstFindAndLockTransaction_ByCMDId` stands at a slot: it loads the
state, then the command, then takes the mutex. -/
inductive Stage where
  | state
  | command
  | lock
  deriving DecidableEq, Repr

/-- Where a thread stands. -/
inductive Pc where
  | idle
  /-- In the search of `stSubscribe_To_TransactionManager`; `bLocked` says that
  a mutex timed out. -/
  | searching (q : Subscription) (k : Nat) (stage : Stage) (bLocked : Bool)
  /-- In `pstClaimFreeTransaction`. -/
  | claiming (q : Subscription) (k : Nat)
  /-- The subscription gave this slot, in this generation; the message is to be sent. -/
  | subscribed (i : Slot) (uiGeneration : UInt32)
  /-- In `vSend_CANMessage`, with the context taken from the slot. -/
  | submitting (i : Slot) (uiGeneration : UInt32) (c : TxContext)
  /-- The driver refused the message; `bManage_TransmissionError` is to be called. -/
  | refused (i : Slot) (eTxResult : TxSubmitResult)
  /-- The subscription is over, with this result. -/
  | finished (eErrorCode : SysMgmtError)
  /-- In `vNotify_MessageTxComplete`, its mutex released: the slot is to be
  freed and then, if `bNotify`, the failure told.  `bLost` says that the
  message required an ACK and failed. -/
  | freeing (i : Slot) (uiGeneration : UInt32) (bNotify bLost : Bool)
  | telling (bLost : Bool)
  deriving DecidableEq, Repr

/-- Where the manager thread stands in its loop.  The last argument of
`reporting` and `releasing` is the slot where the tracking goes on. -/
inductive ManagerPc where
  | waiting
  | finding (m : CtrlMsg) (eCMD : SysMgmtCommand) (k : Nat) (stage : Stage)
  | tracking (k : Nat)
  /-- In the callback `bRequestRetransmit`. -/
  | retransmitting (i : Slot)
  /-- The callback refused. -/
  | marking (i : Slot)
  /-- `vTransactionResult` is to be called. -/
  | reporting (i : Slot) (k : Nat)
  /-- The callback frees the slot. -/
  | releasing (i : Slot) (k : Nat)
  deriving DecidableEq, Repr

/-- An accepted submission: its context, and the generation that the
subscription of its thread had given. -/
structure Submission where
  context : TxContext
  uiGeneration : UInt32
  deriving DecidableEq, Repr

/-- The table and the threads.  The last four fields count: how often a slot
entered `Failed` or `Dest_ACK`, and was reported; and how many transactions a
thread dropped for a failed message that required an ACK, and told of. -/
structure Comm (ι : Type) where
  slots : Slot → CmdTransaction
  uiaRevision : SysMgmtCommand → UInt8
  pc : Thread ι → Pc
  manager : ManagerPc
  inFlight : List Submission
  entries : Slot → Nat
  results : Slot → Nat
  drops : Thread ι → Nat
  failures : Thread ι → Nat

/-- One step.  `bLock` says whether the mutex is taken where it can fail. -/
inductive Act (ι : Type) where
  /-- `stSubscribe_To_TransactionManager` is called. -/
  | subscribe (t : Thread ι) (puiData : Option (List UInt8)) (bIsACKReq : Bool)
      (uiMaxRetryCount : UInt8) (uiTrigTime_ms : UInt64)
  /-- A step of its search. -/
  | look (t : Thread ι) (bLock : Bool)
  /-- A step of `pstClaimFreeTransaction`. -/
  | claim (t : Thread ι) (bLock : Bool)
  /-- `vSend_CANMessage` up to the driver. -/
  | stamp (t : Thread ι) (bIsCANStopped : Bool)
  /-- `eFlexCAN_SendMsg` answers. -/
  | submit (t : Thread ι) (eTxResult : TxSubmitResult)
  /-- `bManage_TransmissionError`. -/
  | manage (t : Thread ι) (bLock : Bool) (uiNow_ms : UInt64)
  /-- An application thread goes on. -/
  | leave (t : Thread ι)
  /-- A completion arrives: the section of `vNotify_MessageTxComplete`. -/
  | complete (t : Thread ι) (sub : Submission) (eResult : TxCompleteResult) (iDriverError : Int)
      (uiNow_ms : UInt64)
  /-- Its `vSetTransaction_Free`. -/
  | free (t : Thread ι)
  /-- Its `vNotify_TransmissionFailure`. -/
  | tell (t : Thread ι)
  /-- The manager thread receives a frame, or none within its timeout. -/
  | receive (f : Option CanFrame)
  /-- A step of its search, or the section on the transaction found. -/
  | find (bLock : Bool)
  /-- A step of `vHandle_SysMgmt_MessageTracking`. -/
  | track (bLock bIsTimeOut : Bool)
  /-- `bRequestRetransmit` returns. -/
  | answer (bIsDispatch : Bool)
  | mark
  /-- `vTransactionResult` is called; it frees the slot or leaves it. -/
  | report (bFrees : Bool)
  | release
  /-- The application calls `vSetTransaction_Free`. -/
  | appFree (i : Slot)
  /-- `vUpdate_CommandRevision`. -/
  | revise (eCMD : SysMgmtCommand) (uiNewVal : UInt8)

variable {ι : Type}

/-- After `bInit_WallController_Comm_Manager`. -/
def Comm.init : Comm ι where
  slots := fun _ => .init
  uiaRevision := fun _ => 0
  pc := fun _ => .idle
  manager := .waiting
  inFlight := []
  entries := fun _ => 0
  results := fun _ => 0
  drops := fun _ => 0
  failures := fun _ => 0

/-! ## §1. Updates. -/

/-- Write a slot; a slot that enters `Failed` or `Dest_ACK` is counted. -/
def Comm.write (s : Comm ι) (i : Slot) (t : CmdTransaction) : Comm ι :=
  { s with
    slots := Function.update s.slots i t
    entries := if t.eState ≠ (s.slots i).eState ∧ (t.eState = .failed ∨ t.eState = .destACK) then
        Function.update s.entries i (s.entries i + 1)
      else s.entries }

def Comm.goto [DecidableEq ι] (s : Comm ι) (t : Thread ι) (p : Pc) : Comm ι :=
  { s with pc := Function.update s.pc t p }

/-! ## §2. The steps of a thread. -/

variable [DecidableEq ι]

/-- A thread can begin: it is idle, and the manager thread is in its callback. -/
def Comm.Ready (s : Comm ι) (t : Thread ι) : Prop :=
  s.pc t = .idle ∧ (t = .manager → ∃ i, s.manager = .retransmitting i)

/-- The manager thread is in the callback of a retransmission. -/
def decidableRetransmitting (m : ManagerPc) : Decidable (∃ i, m = .retransmitting i) :=
  match m with
  | .retransmitting i => .isTrue ⟨i, rfl⟩
  | .waiting | .finding .. | .tracking _ | .marking _ | .reporting .. | .releasing .. =>
    .isFalse fun ⟨_, h⟩ => by cases h

instance (s : Comm ι) (t : Thread ι) : Decidable (s.Ready t) :=
  have := decidableRetransmitting s.manager
  inferInstanceAs (Decidable (_ ∧ _))

def Comm.subscribe (s : Comm ι) (t : Thread ι) (puiData : Option (List UInt8)) (bIsACKReq : Bool)
    (uiMaxRetryCount : UInt8) (uiTrigTime_ms : UInt64) : Option (Comm ι) :=
  if s.Ready t then
    match checkSubscription puiData with
    | .error e => some (s.goto t (.finished e))
    | .ok eCMD =>
      some (s.goto t (.searching ⟨eCMD, bIsACKReq, uiMaxRetryCount, uiTrigTime_ms⟩ 0 .state false))
  else none

/-- The section of the subscription on the transaction found. -/
def Comm.resubscribe (s : Comm ι) (t : Thread ι) (q : Subscription) (i : Slot) : Comm ι :=
  let r := retransmit (s.uiaRevision q.eCMD) (s.slots i)
  (s.write i r.1).goto t
    (if r.2 = .none then .subscribed i r.1.uiGeneration else .finished r.2)

/-- A step of the search of `stSubscribe_To_TransactionManager`. -/
def Comm.look (s : Comm ι) (t : Thread ι) (bLock : Bool) : Option (Comm ι) :=
  match s.pc t with
  | .searching q k stage bLocked =>
    if h : k < MAX_NUMBER_OF_TRANSACTION_TRACKINGs then
      match stage with
      | .state =>
        if (s.slots ⟨k, h⟩).Live then some (s.goto t (.searching q k .command bLocked))
        else some (s.goto t (.searching q (k + 1) .state bLocked))
      | .command =>
        if (s.slots ⟨k, h⟩).eCommand = q.eCMD then some (s.goto t (.searching q k .lock bLocked))
        else some (s.goto t (.searching q (k + 1) .state bLocked))
      | .lock =>
        if bLock = false then some (s.goto t (.searching q (k + 1) .state true))
        else if (s.slots ⟨k, h⟩).Live ∧ (s.slots ⟨k, h⟩).eCommand = q.eCMD then
          some (s.resubscribe t q ⟨k, h⟩)
        else some (s.goto t (.searching q (k + 1) .state bLocked))
    else if bLocked = true then some (s.goto t (.finished .transactionLocked))
    else some (s.goto t (.claiming q 0))
  | _ => none

/-- A step of `pstClaimFreeTransaction`, with the section on the slot it claims. -/
def Comm.claim (s : Comm ι) (t : Thread ι) (bLock : Bool) : Option (Comm ι) :=
  match s.pc t with
  | .claiming q k =>
    if h : k < MAX_NUMBER_OF_TRANSACTION_TRACKINGs then
      if bLock = true ∧ (s.slots ⟨k, h⟩).eState = .free then
        let c := claimTransaction q (s.uiaRevision q.eCMD) (s.slots ⟨k, h⟩)
        some ((s.write ⟨k, h⟩ c).goto t (.subscribed ⟨k, h⟩ c.uiGeneration))
      else some (s.goto t (.claiming q (k + 1)))
    else some (s.goto t (.finished .noFreeTransaction))
  | _ => none

/-- The next step of the thread in `pstClaimFreeTransaction` claims the slot: it takes the
mutex, and the slot is free. -/
def Comm.Claims (s : Comm ι) (t : Thread ι) (bLock : Bool) (q : Subscription) (i : Slot) : Prop :=
  s.pc t = .claiming q i ∧ bLock = true ∧ (s.slots i).eState = .free

def Comm.stamp (s : Comm ι) (t : Thread ι) (bIsCANStopped : Bool) : Option (Comm ι) :=
  match s.pc t with
  | .subscribed i g =>
    some (s.goto t
      (if bIsCANStopped = true then .refused i .busUnavailable
        else .submitting i g (txContext i (s.slots i))))
  | _ => none

def Comm.submit (s : Comm ι) (t : Thread ι) (eTxResult : TxSubmitResult) : Option (Comm ι) :=
  match s.pc t with
  | .submitting i g c =>
    if eTxResult = .queued then
      some ({ s with inFlight := ⟨c, g⟩ :: s.inFlight }.goto t (.finished .none))
    else some (s.goto t (.refused i eTxResult))
  | _ => none

/-- `bManage_TransmissionError`. -/
def Comm.manage (s : Comm ι) (t : Thread ι) (bLock : Bool) (uiNow_ms : UInt64) :
    Option (Comm ι) :=
  match s.pc t with
  | .refused i eTxResult =>
    let s := s.goto t (.finished .none)
    match eTxResult with
    | .busUnavailable | .queueFull =>
      some (if bLock = true then s.write i (backOff uiNow_ms (s.slots i)) else s)
    | .invalidMsg => some (s.write i (resetTransaction (s.slots i)))
    | .queued | .other _ => some s
  | _ => none

def Comm.leave (s : Comm ι) (t : Thread ι) : Option (Comm ι) :=
  match t, s.pc t with
  | .app _, .finished _ => some (s.goto t .idle)
  | _, _ => none

/-- `vNotify_MessageTxComplete` up to the release of the mutex. -/
def Comm.complete (s : Comm ι) (t : Thread ι) (sub : Submission) (eResult : TxCompleteResult)
    (iDriverError : Int) (uiNow_ms : UInt64) : Option (Comm ι) :=
  if t ≠ .manager ∧ s.pc t = .idle ∧ sub ∈ s.inFlight then
    let s := { s with inFlight := s.inFlight.erase sub }
    let c := sub.context
    if c.uiGeneration = 0 then some s
    else if h : c.uiTransactionIndex < MAX_NUMBER_OF_TRANSACTION_TRACKINGs then
      let i : Slot := ⟨c.uiTransactionIndex, h⟩
      match completeTransaction c eResult iDriverError uiNow_ms (s.slots i) with
      | .stale => some s
      | .written x => some (s.write i x)
      | .free bNotify =>
        let bLost := (s.slots i).bIsACKRequired && decide (eResult ≠ .success)
        some ({ s with
          drops := if bLost = true then Function.update s.drops t (s.drops t + 1) else s.drops
          }.goto t (.freeing i sub.uiGeneration bNotify bLost))
    else some s
  else none

def Comm.free (s : Comm ι) (t : Thread ι) : Option (Comm ι) :=
  match s.pc t with
  | .freeing i _ bNotify bLost =>
    some ((s.write i (resetTransaction (s.slots i))).goto t
      (if bNotify = true then .telling bLost else .idle))
  | _ => none

def Comm.tell (s : Comm ι) (t : Thread ι) : Option (Comm ι) :=
  match s.pc t with
  | .telling bLost =>
    some ({ s with
      failures := if bLost = true then Function.update s.failures t (s.failures t + 1)
        else s.failures }.goto t .idle)
  | _ => none

/-! ## §3. The steps of the manager thread. -/

/-- A frame with the identifier of the filter, and the callback `iGetPayloadLength`. -/
def Comm.receive (lengths : PayloadLengths) (s : Comm ι) (f : Option CanFrame) :
    Option (Comm ι) :=
  if s.manager = .waiting then
    match f with
    | none => some { s with manager := .tracking 0 }
    | some f =>
      match vHandleSysMgmtMessages lengths f with
      | .done _ => some { s with manager := .tracking 0 }
      | .dispatch _ => some { s with manager := .tracking 0 }
      | .search m eCMD => some { s with manager := .finding m eCMD 0 .state }
  else none

/-- The section on the transaction that the manager thread found. -/
def Comm.handle (s : Comm ι) (m : CtrlMsg) (eCMD : SysMgmtCommand) (i : Slot) : Comm ι :=
  let o := handleFound m eCMD (s.slots i)
  { s.write i o.slot with manager := if o.report = true then .reporting i 0 else .tracking 0 }

/-- A step of the search of the manager thread. -/
def Comm.find (s : Comm ι) (bLock : Bool) : Option (Comm ι) :=
  match s.manager with
  | .finding m eCMD k stage =>
    if h : k < MAX_NUMBER_OF_TRANSACTION_TRACKINGs then
      match stage with
      | .state =>
        if (s.slots ⟨k, h⟩).Live then some { s with manager := .finding m eCMD k .command }
        else some { s with manager := .finding m eCMD (k + 1) .state }
      | .command =>
        if (s.slots ⟨k, h⟩).eCommand = eCMD then
          some { s with manager := .finding m eCMD k .lock }
        else some { s with manager := .finding m eCMD (k + 1) .state }
      | .lock =>
        if bLock = true ∧ (s.slots ⟨k, h⟩).Live ∧ (s.slots ⟨k, h⟩).eCommand = eCMD then
          some (s.handle m eCMD ⟨k, h⟩)
        else some { s with manager := .finding m eCMD (k + 1) .state }
    else some { s with manager := .tracking 0 }
  | _ => none

/-- A step of `vHandle_SysMgmt_MessageTracking`. -/
def Comm.track (s : Comm ι) (bLock bIsTimeOut : Bool) : Option (Comm ι) :=
  match s.manager with
  | .tracking k =>
    if h : k < MAX_NUMBER_OF_TRANSACTION_TRACKINGs then
      if bLock = true then
        let r := trackTransaction bIsTimeOut (s.slots ⟨k, h⟩)
        some { s.write ⟨k, h⟩ r.1 with
          manager := if r.2 = true then .retransmitting ⟨k, h⟩ else .tracking (k + 1) }
      else some { s with manager := .tracking (k + 1) }
    else some { s with manager := .waiting }
  | _ => none

/-- `bRequestRetransmit` returns, once the subscription it made is over. -/
def Comm.answer (s : Comm ι) (bIsDispatch : Bool) : Option (Comm ι) :=
  match s.manager, s.pc .manager with
  | .retransmitting i, .idle | .retransmitting i, .finished _ =>
    some { s.goto .manager .idle with
      manager := if bIsDispatch = true then .tracking (i + 1) else .marking i }
  | _, _ => none

def Comm.mark (s : Comm ι) : Option (Comm ι) :=
  match s.manager with
  | .marking i =>
    let r := markFailed (s.slots i)
    some { s.write i r.1 with
      manager := if r.2 = true then .reporting i (i + 1) else .tracking (i + 1) }
  | _ => none

def Comm.report (s : Comm ι) (bFrees : Bool) : Option (Comm ι) :=
  match s.manager with
  | .reporting i k =>
    some { s with
      manager := if bFrees = true then .releasing i k else .tracking k
      results := Function.update s.results i (s.results i + 1) }
  | _ => none

def Comm.release (s : Comm ι) : Option (Comm ι) :=
  match s.manager with
  | .releasing i k =>
    some { s.write i (resetTransaction (s.slots i)) with manager := .tracking k }
  | _ => none

/-- `vUpdate_CommandRevision`. -/
def Comm.revise (s : Comm ι) (eCMD : SysMgmtCommand) (uiNewVal : UInt8) : Comm ι :=
  if eCMD < eSysMgmt_CMD_Reserved_20 ∨ eCMD ≥ eNUMBER_OF_SYS_MANAGEMENT_COMMANDs then s
  else
    { s with
      uiaRevision := Function.update s.uiaRevision eCMD (if uiNewVal = 0 then 1 else uiNewVal) }

/-! ## §4. All threads. -/

/-- One step of any thread. -/
def Comm.step (lengths : PayloadLengths) (s : Comm ι) : Act ι → Option (Comm ι)
  | .subscribe t puiData bIsACKReq uiMaxRetryCount uiTrigTime_ms =>
    s.subscribe t puiData bIsACKReq uiMaxRetryCount uiTrigTime_ms
  | .look t bLock => s.look t bLock
  | .claim t bLock => s.claim t bLock
  | .stamp t bIsCANStopped => s.stamp t bIsCANStopped
  | .submit t eTxResult => s.submit t eTxResult
  | .manage t bLock uiNow_ms => s.manage t bLock uiNow_ms
  | .leave t => s.leave t
  | .complete t sub eResult iDriverError uiNow_ms =>
    s.complete t sub eResult iDriverError uiNow_ms
  | .free t => s.free t
  | .tell t => s.tell t
  | .receive f => s.receive lengths f
  | .find bLock => s.find bLock
  | .track bLock bIsTimeOut => s.track bLock bIsTimeOut
  | .answer bIsDispatch => s.answer bIsDispatch
  | .mark => s.mark
  | .report bFrees => s.report bFrees
  | .release => s.release
  | .appFree i => some (s.write i (resetTransaction (s.slots i)))
  | .revise eCMD uiNewVal => some (s.revise eCMD uiNewVal)

def commSystem (ι : Type) [DecidableEq ι] (lengths : PayloadLengths) :
    TransSys (Comm ι) (Act ι) where
  init s := s = .init
  step s a s' := s.step lengths a = some s'

end WallController.CommManager
