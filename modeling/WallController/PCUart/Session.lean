/-
  WallController.PCUart.Session
  ────────────────────────────────
  **THE SESSION FLAG AND THE TRANSFER STATE.**

  The hub and the bulk controller together: the UART thread dispatches a
  frame, waits inside a call of the controller, and answers; the worker, the
  former workers and the work queue take their steps in between.

  The session flag follows the calls of the UART thread, the transfer state
  also the cleanup after a timeout or an error.  Two steps set them apart:
  the cleanup of a transfer whose session is still open, and an `END` that
  gives up on the mutex while its transfer is sound.

  Main results:
    * `session_agrees`: without these two steps, the flag and the state agree
      whenever no step is pending, and after a transfer the other operations
      are accepted again.
    * `session_disagrees`: an inactivity timeout leaves the flag behind.
-/
import WallController.LittleFs.Lifecycle
import WallController.PCUart.Arbiter

namespace WallController.PCUart

open WallController.Lib WallController.LittleFs

/-! ## §1. The system. -/

/-- `waiting` is the call that the UART thread is inside of. -/
structure Service where
  hub : Hub
  bulk : Bulk
  waiting : Option Call

/-- The UART thread takes a frame, goes on inside the call or answers; the
other threads go on. -/
inductive ServiceAct where
  | frame (f : Frame) (env : UartEnv)
  | inCall (env : Env)
  | answer
  | worker (env : Env)
  | tail (i : Nat)
  | handler (env : Env)

def Service.step (s : Service) (a : ServiceAct) : Option Service :=
  match a with
  | .frame f env =>
    match s.waiting with
    | some _ => none
    | none =>
      match dispatchFrame env s.hub f with
      | .now hub _ => some { s with hub := hub }
      | .call c => (s.bulk.step (.call c)).map fun bulk => { s with bulk := bulk, waiting := some c }
  | .inCall env => (s.bulk.step (.uart env)).map fun bulk => { s with bulk := bulk }
  | .answer =>
    match s.waiting, s.bulk.uart with
    | some c, .returned reply =>
        (s.bulk.step .ret).map fun bulk =>
          { hub := (resume s.hub c reply).1, bulk := bulk, waiting := none }
    | _, _ => none
  | .worker env => (s.bulk.step (.worker env)).map fun bulk => { s with bulk := bulk }
  | .tail i => (s.bulk.step (.tail i)).map fun bulk => { s with bulk := bulk }
  | .handler env => (s.bulk.step (.handler env)).map fun bulk => { s with bulk := bulk }

def Service.boot (files : Files) : Service :=
  { hub := Hub.init, bulk := Bulk.boot files, waiting := none }

def serviceSystem : TransSys Service ServiceAct where
  init s := ∃ files, s = Service.boot files
  step s a s' := s.step a = some s'

/-- No step is pending: no thread is under way, no work is submitted, and the
worker, if there is one, waits on an empty queue. -/
structure Service.Quiescent (s : Service) : Prop where
  waiting : s.waiting = none
  handler : s.bulk.handler = .idle
  work : s.bulk.stMsgWorkQueue = false
  tails : s.bulk.tails = []
  worker : s.bulk.worker = none ∨ (s.bulk.worker = some .get ∧ s.bulk.queue = [])

/-! ## §2. The steps that set the flag and the state apart. -/

/-- The UART thread is inside `vEnd_BulkDataTransfer`. -/
def Service.inEnd (s : Service) : Prop := s.waiting = some .end_

/-- The session is open, or its flag is about to be set. -/
def Service.open_ (s : Service) : Prop :=
  s.hub.bBulkSessionActive = true ∨ s.bulk.uart = .returned (.started true)

/-- The handler has found a transfer to clean up, and the host has not begun to
end it. -/
def CleansOpenSession (s : Service) : Prop :=
  s.bulk.handler = .check ∧ s.bulk.needsCleanup = true ∧ s.open_ ∧ ¬ s.inEnd

/-- `END` gives up on the mutex, and its transfer is sound. -/
def GivesUpSoundTransfer (s : Service) : Prop :=
  (∃ st, s.bulk.uart = .end_ (.lock st)) ∧ s.bulk.kMutex_BulkTransfer ≠ none
    ∧ s.bulk.eTransferState = .receiving ∧ s.bulk.eError = .none

/-- The UART thread waits for the mutex in `vEnd_BulkDataTransfer`. -/
def atEndLock : Uart → Bool
  | .end_ (.lock _) => true
  | _ => false

theorem atEndLock_iff (u : Uart) : atEndLock u = true ↔ ∃ st, u = .end_ (.lock st) := by
  constructor
  · intro h
    unfold atEndLock at h
    split at h
    · exact ⟨_, rfl⟩
    · cases h
  · rintro ⟨st, rfl⟩
    rfl

instance (s : Service) : Decidable s.inEnd :=
  match h : s.waiting with
  | some .end_ => isTrue h
  | some (.start _) => isFalse (by simp [Service.inEnd, h])
  | some (.send _) => isFalse (by simp [Service.inEnd, h])
  | none => isFalse (by simp [Service.inEnd, h])

instance (s : Service) : Decidable (s.bulk.uart = .returned (.started true)) :=
  match h : s.bulk.uart with
  | .returned reply => decidable_of_iff (reply = .started true) (by simp)
  | .idle => isFalse (by simp)
  | .start _ _ => isFalse (by simp)
  | .data _ _ => isFalse (by simp)
  | .end_ _ => isFalse (by simp)

instance (s : Service) : Decidable s.open_ := inferInstanceAs (Decidable (_ ∨ _))

instance (s : Service) : Decidable (CleansOpenSession s) := inferInstanceAs (Decidable (_ ∧ _))

instance (s : Service) : Decidable (GivesUpSoundTransfer s) :=
  have : Decidable (∃ st, s.bulk.uart = .end_ (.lock st)) :=
    decidable_of_iff _ (atEndLock_iff s.bulk.uart)
  inferInstanceAs (Decidable (_ ∧ _))

/-- A step that keeps the flag and the state together. -/
def Together (s : Service) (a : ServiceAct) : Prop :=
  match a with
  | .handler _ => ¬ CleansOpenSession s
  | .inCall _ => ¬ GivesUpSoundTransfer s
  | _ => True

instance (s : Service) (a : ServiceAct) : Decidable (Together s a) :=
  match a with
  | .handler _ => inferInstanceAs (Decidable (¬ CleansOpenSession s))
  | .inCall _ => inferInstanceAs (Decidable (¬ GivesUpSoundTransfer s))
  | .frame _ _ => isTrue trivial
  | .answer => isTrue trivial
  | .worker _ => isTrue trivial
  | .tail _ => isTrue trivial

/-! ## §3. The invariant. -/

/-- Where the UART thread is, by the call it is inside of. -/
def Waits (waiting : Option Call) (u : Uart) : Prop :=
  match waiting with
  | none => u = .idle
  | some (.start r) => (∃ pc, u = .start r pc) ∨ ∃ res, u = .returned (.started res)
  | some (.send m) => (∃ pc, u = .data m pc) ∨ ∃ i, u = .returned (.sent i)
  | some .end_ => (∃ pc, u = .end_ pc) ∨ ∃ r, u = .returned (.ended r)

/-- A `START` has published its transfer and has not reported back. -/
def Published (u : Uart) : Prop :=
  (∃ r, u = .start r .startThread) ∨ (∃ r, u = .start r (.unlock true))
    ∨ u = .returned (.started true)

/-- An `END` is about to report back. -/
def Reports (u : Uart) : Prop := (∃ r, u = .end_ (.unlock r)) ∨ ∃ r, u = .returned (.ended r)

/-- The transfer is on its way or waits for its end. -/
structure Live (b : Bulk) : Prop where
  state : b.eTransferState ≠ .idle
  handler : b.handler.cleaning = false

/-- No sound transfer is left. -/
def Dead (b : Bulk) : Prop := b.eTransferState = .receiving → b.eError ≠ .none

/-- **The invariant** of the runs that keep the flag and the state together. -/
structure Linked (s : Service) : Prop where
  waits : Waits s.waiting s.bulk.uart
  endOpen : s.inEnd → s.hub.bBulkSessionActive = true
  live : s.hub.bBulkSessionActive = true → ¬ s.inEnd → Live s.bulk
  published : Published s.bulk.uart → Live s.bulk
  dead : s.hub.bBulkSessionActive = false → ¬ Published s.bulk.uart → Dead s.bulk
  reports : Reports s.bulk.uart → Dead s.bulk

variable {s s' : Service} {b b' : Bulk} {env : Env}

/-! ## §4. The worker, the tails and the handler. -/

theorem Live.workerStep (hl : Live b) (h : workerStep env b = some b') : Live b' := by
  have hf := workerStep_frame h
  refine ⟨?_, by rw [hf.handler]; exact hl.handler⟩
  rcases hf.state with hs | hs
  · rw [hs]; exact hl.state
  · rw [hs]; simp

theorem Dead.workerStep (hd : Dead b) (ha : Alive b) (h : workerStep env b = some b') :
    Dead b' := by
  intro hr
  rcases workerStep_error h with ⟨heq, -⟩ | ⟨e, hw, heq, -⟩
  · rw [heq]; exact hd (receiving_worker h hr)
  · rw [heq]; exact ha.realError e hw

theorem Live.handlerStep (hl : Live b) (h : handlerStep env b = some b')
    (hclean : ¬ (b.handler = .check ∧ b.needsCleanup = true)) : Live b' := by
  have hcl := hl.handler
  unfold LittleFs.handlerStep at h
  cases hh : b.handler with
  | idle | lock =>
    simp only [hh] at h
    split at h
    · cases h
      exact ⟨hl.state, rfl⟩
    · cases h
  | check =>
    simp only [hh] at h
    split at h
    · next hc => exact absurd ⟨hh, hc⟩ hclean
    · cases h
      exact ⟨hl.state, rfl⟩
  | unlock =>
    simp only [hh] at h
    cases h
    exact ⟨hl.state, rfl⟩
  | setFailed | close | delete | reset p =>
    rw [hh] at hcl
    cases hcl

theorem Dead.handlerStep (hd : Dead b) (hi : Inv b) (h : handlerStep env b = some b') :
    Dead b' := by
  have hat := hi.handlerAt
  unfold LittleFs.handlerStep at h
  cases hh : b.handler with
  | idle | lock | check =>
    simp only [hh] at h
    split at h <;> first | (cases h; exact hd) | cases h
  | setFailed =>
    simp only [hh] at h
    cases h
    intro hr
    cases hr
  | close =>
    rw [hh] at hat
    have hst : b.eTransferState = .failed := hat
    have hnr : b.eTransferState ≠ .receiving := by simp [hst]
    simp only [hh] at h
    split at h
    · split at h <;> (cases h; exact fun hr => absurd hr hnr)
    · cases h
      exact fun hr => absurd hr hnr
  | delete =>
    rw [hh] at hat
    have hnr : b.eTransferState ≠ .receiving := hat.state
    simp only [hh] at h
    split at h <;> (cases h; exact fun hr => absurd hr hnr)
  | reset p =>
    rw [hh] at hat
    simp only [hh] at h
    cases h
    cases p with
    | fields => exact fun hr => absurd hr (Closed.reset hat .fields).state
    | abort => exact fun hr => absurd hr (Closed.reset hat .abort).state
    | idle => exact fun hr => absurd hr (Closed.reset hat.1 .idle).state
  | unlock =>
    simp only [hh] at h
    cases h
    exact hd

/-! ## §5. The calls. -/

/-- What a step of the UART thread inside a call has to keep. -/
structure CallLink (b b' : Bulk) : Prop where
  live : Live b → Live b'
  published : Published b'.uart → Live b'
  dead : (¬ Published b.uart → Dead b) → ¬ Published b'.uart → Dead b'

/-- A step that leaves the transfer alone. -/
theorem CallLink.quiet (hstate : b'.eTransferState = b.eTransferState)
    (herr : b'.eError = b.eError) (hhandler : b'.handler = b.handler)
    (hp : ¬ Published b.uart) (hp' : ¬ Published b'.uart) : CallLink b b' where
  live hl := ⟨by rw [hstate]; exact hl.state, by rw [hhandler]; exact hl.handler⟩
  published h := absurd h hp'
  dead hd _ := by
    intro hr
    rw [herr]
    exact hd hp (hstate ▸ hr)

/-- A step of a `START` before its transfer is published. -/
theorem CallLink.idle (hstate : b.eTransferState = .idle) (hstate' : b'.eTransferState = .idle)
    (hp' : ¬ Published b'.uart) : CallLink b b' where
  live hl := absurd hstate hl.state
  published h := absurd h hp'
  dead _ _ := fun hr => by rw [hstate'] at hr; cases hr

theorem not_published_start {r : BulkTransferData} {pc : StartPc} (h1 : pc ≠ .startThread)
    (h2 : pc ≠ .unlock true) : ¬ Published (.start r pc) := by
  rintro (⟨r', h⟩ | ⟨r', h⟩ | h)
  · exact h1 (Uart.start.inj h).2
  · exact h2 (Uart.start.inj h).2
  · cases h

theorem startStep_linked {r : BulkTransferData} {pc : StartPc} (hi : Inv b)
    (hu : b.uart = .start r pc) (h : startStep env r pc b = some b')
    (hpub : Published b.uart → Live b) : CallLink b b' := by
  have hat := hi.uartAt
  rw [hu] at hat
  cases pc with
  | lock =>
    -- the transfer is not published before `publish`
    have hp : ¬ Published b.uart := by rw [hu]; exact not_published_start (by simp) (by simp)
    simp only [LittleFs.startStep] at h
    repeat' split at h
    all_goals
      first
      | (cases h; exact .quiet rfl rfl rfl hp (by simp [Published, Bulk.returned, Bulk.atStart]))
      | cases h
  | check =>
    have hp : ¬ Published b.uart := by rw [hu]; exact not_published_start (by simp) (by simp)
    simp only [LittleFs.startStep] at h
    split at h <;>
    · cases h
      exact .quiet rfl rfl rfl hp (by simp [Published, Bulk.atStart])
  | reset p =>
    cases h
    cases p with
    | fields =>
      have hp : Preparing b := hat
      exact .idle hp.state hp.state
        (not_published_start (by simp [ResetPc.next]) (by simp [ResetPc.next]))
    | abort =>
      have hp : Preparing b ∧ Cleared b := hat
      exact .idle hp.1.state hp.1.state
        (not_published_start (by simp [ResetPc.next]) (by simp [ResetPc.next]))
    | idle =>
      have hp : Preparing b ∧ Cleared b := hat
      exact .idle hp.1.state rfl
        (not_published_start (by simp [ResetPc.next]) (by simp [ResetPc.next]))
  | path =>
    have hs : b.eTransferState = .idle := hat.1.state
    simp only [LittleFs.startStep] at h
    split at h
    · cases h
      exact .idle hs hs (not_published_start (by simp) (by simp))
    · split at h
      · cases h
        exact .idle hs rfl (not_published_start (by simp) (by simp))
      · cases h
        exact .idle hs hs (not_published_start (by simp) (by simp))
  | delete | create | open_ =>
    have hs : b.eTransferState = .idle := hat.1.state
    simp only [LittleFs.startStep] at h
    split at h <;>
    · cases h
      exact .idle hs hs (not_published_start (by simp) (by simp))
  | openFailed | setup =>
    have hs : b.eTransferState = .idle := hat.1.state
    cases h
    exact .idle hs hs (not_published_start (by simp) (by simp))
  | publish =>
    have hs : b.eTransferState = .idle := hat.2.1
    -- inside its section `START` shuts the handler out
    have hh : b.handler.inSection = false := hi.handler_outside (by rw [hu]; rfl)
    have hcl : b.handler.cleaning = false := by
      cases hb : b.handler <;> rw [hb] at hh <;> first | rfl | cases hh
    cases h
    refine ⟨fun hl => absurd hs hl.state, fun _ => ⟨by simp [Bulk.atStart], hcl⟩, fun _ hp => ?_⟩
    exact absurd (Or.inl ⟨r, rfl⟩) hp
  | startThread =>
    -- from here the transfer is live, and only the response is missing
    have hl : Live b := hpub (Or.inl ⟨r, hu⟩)
    cases h
    refine ⟨fun _ => ⟨hl.state, hl.handler⟩, fun _ => ⟨hl.state, hl.handler⟩, fun _ hp => ?_⟩
    exact absurd (Or.inr (Or.inl ⟨r, rfl⟩)) hp
  | unlock res =>
    cases h
    cases res with
    | true =>
      have hl : Live b := hpub (Or.inr (Or.inl ⟨r, hu⟩))
      refine ⟨fun _ => ⟨hl.state, hl.handler⟩, fun _ => ⟨hl.state, hl.handler⟩, fun _ hp => ?_⟩
      exact absurd (Or.inr (Or.inr rfl)) hp
    | false =>
      exact .quiet rfl rfl rfl (by rw [hu]; exact not_published_start (by simp) (by simp))
        (by simp [Published, Bulk.returned])

/-- A `START` stays inside its call until it returns. -/
theorem startStep_waits {r : BulkTransferData} {pc : StartPc}
    (h : startStep env r pc b = some b') : Waits (some (.start r)) b'.uart := by
  have hpc : ∀ (c : Bulk) pc', Waits (some (.start r)) (c.atStart r pc').uart :=
    fun c pc' => Or.inl ⟨pc', rfl⟩
  have hret : ∀ (c : Bulk) res, Waits (some (.start r)) (c.returned (.started res)).uart :=
    fun c res => Or.inr ⟨res, rfl⟩
  cases pc with
  | lock | check | path | delete | create | open_ =>
    simp only [LittleFs.startStep] at h
    repeat' split at h
    all_goals
      first
      | (cases h; first | exact hpc _ _ | exact hret _ _)
      | cases h
  | reset p | openFailed | setup | publish | startThread =>
    cases h
    exact hpc _ _
  | unlock res =>
    cases h
    exact hret _ _

/-- `DATA` leaves the transfer state alone. -/
theorem dataStep_linked {m : MsgData} {pc : DataPc} (hu : b.uart = .data m pc)
    (h : dataStep env m pc b = some b') :
    Waits (some (.send m)) b'.uart ∧ CallLink b b' := by
  have hp : ¬ Published b.uart := by simp [Published, hu]
  cases pc with
  | lock | check | checkError | accept =>
    simp only [LittleFs.dataStep] at h
    repeat' split at h
    all_goals
      first
      | (cases h; exact ⟨Or.inl ⟨_, rfl⟩, .quiet rfl rfl rfl hp (by simp [Published, Bulk.atData])⟩)
      | (cases h; exact ⟨Or.inr ⟨_, rfl⟩, .quiet rfl rfl rfl hp (by simp [Published, Bulk.returned])⟩)
      | cases h
  | account =>
    cases h
    exact ⟨Or.inl ⟨_, rfl⟩, .quiet rfl rfl rfl hp (by simp [Published, Bulk.atData])⟩
  | unlock i =>
    cases h
    exact ⟨Or.inr ⟨_, rfl⟩, .quiet rfl rfl rfl hp (by simp [Published, Bulk.returned])⟩

/-- `END` reports on a transfer that is over, unless it gives up on the mutex. -/
theorem endStep_linked {pc : EndPc} (hu : b.uart = .end_ pc)
    (h : endStep env pc b = some b') (hrep : Reports b.uart → Dead b)
    (hgive : (∃ st, pc = .lock st) → b.kMutex_BulkTransfer ≠ none → Dead b) :
    Waits (some .end_) b'.uart ∧ ¬ Published b'.uart ∧ (Reports b'.uart → Dead b') := by
  -- inside the section, before the report
  have hin : ∀ (c : Bulk) pc', (∀ r, pc' ≠ .unlock r) →
      Waits (some .end_) (c.atEnd pc').uart ∧ ¬ Published (c.atEnd pc').uart
        ∧ (Reports (c.atEnd pc').uart → Dead (c.atEnd pc')) := by
    intro c pc' hne
    refine ⟨Or.inl ⟨pc', rfl⟩, by simp [Published, Bulk.atEnd], ?_⟩
    rintro (⟨r, h⟩ | ⟨r, h⟩)
    · exact absurd (Uart.end_.inj h) (hne r)
    · cases h
  have hdead : ∀ (c : Bulk) pc', Dead (c.atEnd pc') →
      Waits (some .end_) (c.atEnd pc').uart ∧ ¬ Published (c.atEnd pc').uart
        ∧ (Reports (c.atEnd pc').uart → Dead (c.atEnd pc')) := fun c pc' hd =>
    ⟨Or.inl ⟨pc', rfl⟩, by simp [Published, Bulk.atEnd], fun _ => hd⟩
  have hret : ∀ (c : Bulk) r, Dead (c.returned (.ended r)) →
      Waits (some .end_) (c.returned (.ended r)).uart ∧ ¬ Published (c.returned (.ended r)).uart
        ∧ (Reports (c.returned (.ended r)).uart → Dead (c.returned (.ended r))) := fun c r hd =>
    ⟨Or.inr ⟨r, rfl⟩, by simp [Published, Bulk.returned], fun _ => hd⟩
  cases pc with
  | lock st =>
    simp only [LittleFs.endStep] at h
    split at h
    · cases h
      exact hin _ _ (by simp)
    · next hm =>
      split at h
      · cases h
        exact hret b _ (hgive ⟨st, rfl⟩ hm)
      · cases h
  | check st =>
    simp only [LittleFs.endStep] at h
    split at h
    · cases h
      exact hin _ _ (by simp)
    · next hr =>
      cases h
      refine hdead b _ fun hr' => absurd ?_ hr
      have hr'' : b.eTransferState = .receiving := hr'
      simp [Bulk.bIsBulkDataReceiving, hr'']
  | put | take | error | size | crc | sync | close | refresh | abort | failDelete =>
    simp only [LittleFs.endStep] at h
    repeat' split at h
    all_goals
      first
      | (cases h; exact hin _ _ (by simp))
      | cases h
  | failClose =>
    simp only [LittleFs.endStep] at h
    repeat' split at h
    all_goals (cases h; exact hin _ _ (by simp))
  | entry | finalizing | setNone | setSuccess | setError e x | report | reportError st =>
    cases h
    exact hin _ _ (by simp)
  | setFailed bExit =>
    cases h
    cases bExit <;> exact hin _ _ (by simp)
  | reset p r =>
    cases h
    cases p with
    | fields | abort => exact hin _ _ (by simp [ResetPc.next])
    | idle =>
      refine hdead (resetStep .idle b) _ fun hr => ?_
      cases hr
  | unlock r =>
    cases h
    exact hret { b with kMutex_BulkTransfer := none } r (hrep (Or.inl ⟨r, hu⟩))

/-! ## §6. Frames and answers. -/

/-- A frame that is answered at once leaves the session flag alone; an `END` is
called inside a session only. -/
theorem dispatchFrame_session (env : UartEnv) (hub : Hub) (f : Frame) :
    (∀ hub' eError, dispatchFrame env hub f = .now hub' eError →
        hub'.bBulkSessionActive = hub.bBulkSessionActive)
      ∧ (dispatchFrame env hub f = .call .end_ → hub.bBulkSessionActive = true) := by
  by_cases hsel : f.uiCommand = ePC_UART_Command_SelectOperation
  · have hkeep : (eSelectOperation hub f.puiPayload f.uiPayloadLen).1.bBulkSessionActive
        = hub.bBulkSessionActive := by
      unfold eSelectOperation
      repeat' split
      all_goals rfl
    simp only [dispatchFrame, if_pos hsel]
    refine ⟨fun hub' e h => ?_, fun h => by cases h⟩
    obtain ⟨rfl, -⟩ := Answer.now.inj h
    exact hkeep
  by_cases hrel : f.uiCommand = ePC_UART_Command_ReleaseOperation
  · have hkeep : (eReleaseOperation hub f.uiPayloadLen).1.bBulkSessionActive
        = hub.bBulkSessionActive := by
      unfold eReleaseOperation
      repeat' split
      all_goals rfl
    simp only [dispatchFrame, if_neg hsel, if_pos hrel]
    refine ⟨fun hub' e h => ?_, fun h => by cases h⟩
    obtain ⟨rfl, -⟩ := Answer.now.inj h
    exact hkeep
  cases hop : hub.eActiveOperation with
  | firmwareBridge | idle =>
    simp only [dispatchFrame, if_neg hsel, if_neg hrel, hop]
    refine ⟨fun hub' e h => ?_, fun h => by cases h⟩
    obtain ⟨rfl, -⟩ := Answer.now.inj h
    rfl
  | localBulkFile =>
    have hd : Dispatched hub f (dispatchFrame env hub f) := dispatchFrame_bulk hop hsel hrel
    generalize dispatchFrame env hub f = a at hd ⊢
    cases hd with
    | now e _ | dropped e _ _ _ =>
      refine ⟨fun hub' e h => ?_, fun h => by cases h⟩
      obtain ⟨rfl, -⟩ := Answer.now.inj h
      rfl
    | start r _ | send m _ _ => exact ⟨fun _ _ h => by (cases h), fun h => by cases h⟩
    | end_ _ _ hs => exact ⟨fun _ _ h => by (cases h), fun _ => hs⟩

/-- The session flag after the answer. -/
theorem resume_session (hub : Hub) (r : BulkTransferData) (m : MsgData) (res : Bool) (i : Int)
    (e : TransferResult) :
    (resume hub (.start r) (.started res)).1.bBulkSessionActive = (res || hub.bBulkSessionActive)
      ∧ (resume hub (.send m) (.sent i)).1.bBulkSessionActive = hub.bBulkSessionActive
      ∧ (resume hub .end_ (.ended e)).1.bBulkSessionActive = false := by
  refine ⟨?_, ?_, ?_⟩
  · show (eProcessBulkStartResult hub res).1.bBulkSessionActive = _
    unfold eProcessBulkStartResult
    cases res <;> simp
  · show (eProcessBulkDataResult hub i).1.bBulkSessionActive = _
    unfold eProcessBulkDataResult
    repeat' split
    all_goals rfl
  · show (eProcessBulkEndResult hub e).1.bBulkSessionActive = false
    rw [(bulkEnd_result hub e).1]

/-- A call begins. -/
theorem Linked.call (hl : Linked s) (hw : s.waiting = none) {c : Call}
    (hend : c = .end_ → s.hub.bBulkSessionActive = true) :
    Linked { s with bulk := { s.bulk with uart := c.entry }, waiting := some c } := by
  have hu : s.bulk.uart = .idle := by simpa [Waits, hw] using hl.waits
  have hnp : ¬ Published s.bulk.uart := by simp [Published, hu]
  have hne : ¬ s.inEnd := by simp [Service.inEnd, hw]
  have hnp' : ¬ Published c.entry := by cases c <;> simp [Published, Call.entry]
  constructor
  · cases c <;> exact Or.inl ⟨_, rfl⟩
  · intro h
    exact hend (Option.some.inj h)
  · intro hs _
    exact ⟨(hl.live hs hne).state, (hl.live hs hne).handler⟩
  · exact fun h => absurd h hnp'
  · exact fun hs _ => hl.dead hs hnp
  · intro h
    cases c <;> simp [Reports, Call.entry] at h

/-- The UART thread answers. -/
theorem Linked.answer (hl : Linked s) {c : Call} {reply : Reply} (hw : s.waiting = some c)
    (hu : s.bulk.uart = .returned reply) :
    Linked
      { hub := (resume s.hub c reply).1, bulk := { s.bulk with uart := .idle }, waiting := none } := by
  have hwaits := hl.waits
  rw [hw, hu] at hwaits
  -- the flag follows from the call; the transfer is that of the state before
  have hlink : ∀ hub : Hub,
      (hub.bBulkSessionActive = true → Live s.bulk)
      → (hub.bBulkSessionActive = false → Dead s.bulk)
      → Linked { hub := hub, bulk := { s.bulk with uart := .idle }, waiting := none } := by
    intro hub hlive hdead
    refine ⟨rfl, fun h => by (cases h), fun hs _ => ⟨(hlive hs).state, (hlive hs).handler⟩, ?_,
      fun hs _ => hdead hs, ?_⟩
    · intro h
      simp [Published] at h
    · intro h
      simp [Reports] at h
  cases c with
  | start r =>
    obtain ⟨pc, h⟩ | ⟨res, h⟩ := hwaits
    · cases h
    · cases h
      have hsess := (resume_session s.hub r ⟨0, [], 0⟩ res 0 ⟨.idle, .none⟩).1
      have hne : ¬ s.inEnd := by simp [Service.inEnd, hw]
      cases res with
      | true =>
        have hpub : Live s.bulk := hl.published (Or.inr (Or.inr hu))
        refine hlink _ (fun _ => hpub) fun hs => ?_
        rw [hsess] at hs
        cases hs
      | false =>
        rw [Bool.false_or] at hsess
        refine hlink _ (fun hs => hl.live (hsess ▸ hs) hne) fun hs => ?_
        exact hl.dead (hsess ▸ hs) (by simp [Published, hu])
  | send m =>
    obtain ⟨pc, h⟩ | ⟨i, h⟩ := hwaits
    · cases h
    · cases h
      have hsess := (resume_session s.hub ⟨0, [], 0, 0, by decide⟩ m true i ⟨.idle, .none⟩).2.1
      have hne : ¬ s.inEnd := by simp [Service.inEnd, hw]
      refine hlink _ (fun hs => hl.live (hsess ▸ hs) hne) fun hs => ?_
      exact hl.dead (hsess ▸ hs) (by simp [Published, hu])
  | end_ =>
    obtain ⟨pc, h⟩ | ⟨r, h⟩ := hwaits
    · cases h
    · cases h
      have hsess := (resume_session s.hub ⟨0, [], 0, 0, by decide⟩ ⟨0, [], 0⟩ true 0 r).2.2
      refine hlink _ (fun hs => ?_) fun _ => hl.reports (Or.inr ⟨r, hu⟩)
      rw [hsess] at hs
      cases hs

/-! ## §7. All steps. -/

theorem Waits.of_reports {w : Option Call} {u : Uart} (h : Waits w u) (hr : Reports u) :
    w = some .end_ := by
  cases w with
  | none =>
    have hu : u = .idle := h
    simp [Reports, hu] at hr
  | some c =>
    cases c with
    | start r => rcases h with ⟨pc, rfl⟩ | ⟨res, rfl⟩ <;> simp [Reports] at hr
    | send m => rcases h with ⟨pc, rfl⟩ | ⟨i, rfl⟩ <;> simp [Reports] at hr
    | end_ => rfl

theorem Waits.of_published {w : Option Call} {u : Uart} (h : Waits w u) (hp : Published u) :
    w ≠ some .end_ := by
  rintro rfl
  rcases h with ⟨pc, rfl⟩ | ⟨r, rfl⟩ <;> simp [Published] at hp

/-- The UART thread goes on inside its call. -/
theorem Linked.inCall (hl : Linked s) (hi : Inv s.bulk) (h : uartStep env s.bulk = some b')
    (hgive : ¬ GivesUpSoundTransfer s) : Linked { s with bulk := b' } := by
  have hwaits := hl.waits
  -- `START` and `DATA`: not inside an `END`
  have hlink : ∀ c, c ≠ .end_ → s.waiting = some c → Waits (some c) b'.uart →
      CallLink s.bulk b' → Linked { s with bulk := b' } := by
    intro c hc hw hw' hcl
    have hne : ¬ s.inEnd := fun he => hc (Option.some.inj (hw.symm.trans he))
    refine ⟨hw ▸ hw', fun he => absurd he hne, fun hs _ => hcl.live (hl.live hs hne),
      hcl.published, fun hs => hcl.dead (hl.dead hs), fun hr => ?_⟩
    exact absurd (Option.some.inj (hw'.of_reports hr)) hc
  obtain ⟨w, hw⟩ : ∃ w, s.waiting = w := ⟨_, rfl⟩
  rw [hw] at hwaits
  cases w with
  | none =>
    have hu : s.bulk.uart = .idle := hwaits
    simp [uartStep, hu] at h
  | some c =>
    cases c with
    | start r =>
      rcases hwaits with ⟨pc, hu⟩ | ⟨res, hu⟩
      · simp only [uartStep, hu] at h
        exact hlink _ (by simp) hw (startStep_waits h) (startStep_linked hi hu h hl.published)
      · simp [uartStep, hu] at h
    | send m =>
      rcases hwaits with ⟨pc, hu⟩ | ⟨i, hu⟩
      · simp only [uartStep, hu] at h
        exact hlink _ (by simp) hw (dataStep_linked hu h).1 (dataStep_linked hu h).2
      · simp [uartStep, hu] at h
    | end_ =>
      rcases hwaits with ⟨pc, hu⟩ | ⟨r, hu⟩
      · simp only [uartStep, hu] at h
        have hsess := hl.endOpen hw
        obtain ⟨hw', hnp, hrep⟩ := endStep_linked hu h hl.reports fun hverified hm hr herr => by
          obtain ⟨st, hpc⟩ := hverified
          exact hgive ⟨⟨st, by rw [hu, hpc]⟩, hm, hr, herr⟩
        exact ⟨hw ▸ hw', fun _ => hsess, fun _ hne => absurd hw hne, fun hp => absurd hp hnp,
          fun hs => absurd (hsess.symm.trans hs) (by simp), hrep⟩
      · simp [uartStep, hu] at h

/-- A step of another thread. -/
theorem Linked.beside (hl : Linked s) (huart : b'.uart = s.bulk.uart)
    (hlive : (s.hub.bBulkSessionActive = true ∧ ¬ s.inEnd ∨ Published s.bulk.uart) →
      Live s.bulk → Live b')
    (hdead : Dead s.bulk → Dead b') : Linked { s with bulk := b' } := by
  refine ⟨huart ▸ hl.waits, hl.endOpen, fun hs hne => hlive (Or.inl ⟨hs, hne⟩) (hl.live hs hne), ?_,
    ?_, ?_⟩
  · intro hp
    have hp' : Published s.bulk.uart := huart ▸ hp
    exact hlive (Or.inr hp') (hl.published hp')
  · exact fun hs hnp => hdead (hl.dead hs (huart ▸ hnp))
  · intro hr
    have hr' : Reports s.bulk.uart := huart ▸ hr
    exact hdead (hl.reports hr')

theorem Linked.step {a : ServiceAct} (hl : Linked s) (hi : Inv s.bulk) (ha : Alive s.bulk)
    (h : s.step a = some s') (hok : Together s a) : Linked s' := by
  cases a with
  | frame f env =>
    simp only [Service.step] at h
    obtain ⟨w, hw⟩ : ∃ w, s.waiting = w := ⟨_, rfl⟩
    cases w with
    | some c => simp [hw] at h
    | none =>
      rw [hw] at h
      simp only at h
      have hu : s.bulk.uart = .idle := by simpa [Waits, hw] using hl.waits
      obtain ⟨hnow, hcall⟩ := dispatchFrame_session env s.hub f
      split at h
      · next hub' e hd =>
        cases h
        have hsess := hnow hub' e hd
        have hl' : Linked { s with hub := hub' } :=
          ⟨hl.waits, fun he => hsess.trans (hl.endOpen he), fun hs => hl.live (hsess ▸ hs),
            hl.published, fun hs => hl.dead (hsess ▸ hs), hl.reports⟩
        simpa only [hw] using hl'
      · next c hd =>
        obtain ⟨bulk, hb, rfl⟩ := Option.map_eq_some_iff.mp h
        simp only [Bulk.step, Bulk.call, hu] at hb
        cases hb
        exact hl.call hw fun hc => hcall (hc ▸ hd)
  | inCall env =>
    obtain ⟨bulk, hb, rfl⟩ := Option.map_eq_some_iff.mp h
    exact hl.inCall hi hb hok
  | answer =>
    simp only [Service.step] at h
    split at h
    · next c reply hw hu =>
      obtain ⟨bulk, hb, rfl⟩ := Option.map_eq_some_iff.mp h
      simp only [Bulk.step, Bulk.ret, hu] at hb
      cases hb
      exact hl.answer hw hu
    · cases h
  | worker env =>
    obtain ⟨bulk, hb, rfl⟩ := Option.map_eq_some_iff.mp h
    exact hl.beside (workerStep_frame hb).uart (fun _ hlv => hlv.workerStep hb)
      fun hd => hd.workerStep ha hb
  | tail i =>
    obtain ⟨bulk, hb, rfl⟩ := Option.map_eq_some_iff.mp h
    have hf := tailStep_frame (show tailStep i s.bulk = some bulk from hb)
    refine hl.beside (by rw [hf]) (fun _ hlv => ?_) fun hd => ?_
    · exact ⟨by rw [hf]; exact hlv.state, by rw [hf]; exact hlv.handler⟩
    · intro hr
      rw [hf] at hr ⊢
      exact hd hr
  | handler env =>
    obtain ⟨bulk, hb, rfl⟩ := Option.map_eq_some_iff.mp h
    refine hl.beside (handlerStep_uart hb) (fun hopen hlv => ?_) fun hd => hd.handlerStep hi hb
    refine hlv.handlerStep hb fun hcleanup => ?_
    obtain ⟨hc, hneeds⟩ := hcleanup
    -- the handler at its check, so the UART thread is outside the mutex
    have ho := hi.uart_outside (by rw [hc]; rfl)
    rcases hopen with ⟨hs, hne⟩ | hp
    · exact hok ⟨hc, hneeds, Or.inl hs, hne⟩
    · have hne := hl.waits.of_published hp
      rcases hp with ⟨r, hu⟩ | ⟨r, hu⟩ | hu
      · rw [hu] at ho
        cases ho
      · rw [hu] at ho
        cases ho
      · exact hok ⟨hc, hneeds, Or.inr hu, hne⟩

/-- The bulk controller inside the service makes its own steps only. -/
theorem step_bulk {a : ServiceAct} (h : s.step a = some s') :
    s'.bulk = s.bulk ∨ ∃ act, s.bulk.step act = some s'.bulk := by
  cases a with
  | frame f env =>
    simp only [Service.step] at h
    split at h
    · cases h
    · split at h
      · cases h
        exact Or.inl rfl
      · obtain ⟨bulk, hb, rfl⟩ := Option.map_eq_some_iff.mp h
        exact Or.inr ⟨_, hb⟩
  | answer =>
    simp only [Service.step] at h
    split at h
    · obtain ⟨bulk, hb, rfl⟩ := Option.map_eq_some_iff.mp h
      exact Or.inr ⟨_, hb⟩
    · cases h
  | inCall env | worker env | tail i | handler env =>
    obtain ⟨bulk, hb, rfl⟩ := Option.map_eq_some_iff.mp h
    exact Or.inr ⟨_, hb⟩

theorem linked_of_reachable (h : serviceSystem.ReachableVia Together s) :
    Inv s.bulk ∧ Alive s.bulk ∧ Linked s := by
  refine TransSys.ReachableVia.invariant
    (I := fun s => Inv s.bulk ∧ Alive s.bulk ∧ Linked s) ?_ ?_ h
  · rintro s ⟨files, rfl⟩
    refine ⟨inv_boot files, alive_boot files, rfl, fun h => by (cases h), fun h => by (cases h), ?_,
      fun _ _ h => by (cases h), fun _ h => by (cases h)⟩
    intro h
    simp [Published, Service.boot, Bulk.boot] at h
  · rintro s a s' ⟨hi, ha, hl⟩ hok hst
    have hl' := hl.step hi ha hst hok
    rcases step_bulk hst with hb | ⟨act, hb⟩
    · exact ⟨hb ▸ hi, hb ▸ ha, hl'⟩
    · exact ⟨hi.step hb, ha.step hi hb, hl'⟩

/-! ## §8. The agreement. -/

/-- At rest, a transfer that is not idle is sound: it is receiving, without an
error. -/
theorem Alive.sound_at_rest (ha : Alive s.bulk) (hq : s.Quiescent)
    (hu : s.bulk.uart = .idle) (hne : s.bulk.eTransferState ≠ .idle) :
    s.bulk.eTransferState = .receiving ∧ s.bulk.eError = .none := by
  rcases ha.alive (by rw [hu]; rfl) (by rw [hq.handler]; rfl) hne with hr | ⟨e, hw⟩ | ⟨-, hc⟩
  · exact ⟨hr.state, hr.error⟩
  · rcases hq.worker with hw' | ⟨hw', -⟩ <;> simp [hw'] at hw
  · rcases hq.worker with hw' | ⟨hw', -⟩ <;>
      simp [CleanupComing, hw', hq.tails, hq.work, hq.handler] at hc

/-- The operations that a session shuts out are accepted again. -/
structure Reopened (hub : Hub) : Prop where
  /-- `ReleaseOperation`, and then `SelectOperation` of the firmware bridge. -/
  release : ∀ env f, f.uiCommand = ePC_UART_Command_ReleaseOperation → f.uiPayloadLen = 0 →
    dispatchFrame env hub f = .now { hub with eActiveOperation := .idle } .none
      ∧ ∀ env' f', f'.uiCommand = ePC_UART_Command_SelectOperation → f'.puiPayload = some [1] →
        f'.uiPayloadLen = 1 →
        dispatchFrame env' { hub with eActiveOperation := .idle } f'
          = .now { hub with eActiveOperation := .firmwareBridge } .none
  /-- `ConfigRead` of a readable record. -/
  configRead : hub.eActiveOperation = .localBulkFile → ∀ env f id,
    f.uiCommand = ePC_UART_Command_ConfigRead → f.puiPayload = some [id] → f.uiPayloadLen = 1 →
    id.toNat < eNUMBER_OF_AUDIO_SOURCES → env.recordRead = 0 → env.frameSent = true →
    dispatchFrame env hub f = .now hub .none

theorem reopened_of_no_session {hub : Hub} (h : hub.bBulkSessionActive = false) :
    Reopened hub := by
  constructor
  · intro env f hc hn
    refine ⟨?_, fun env' f' hc' hp' hn' => ?_⟩
    · simp [dispatchFrame, hc, hn, h, eReleaseOperation, ePC_UART_Command_ReleaseOperation,
        ePC_UART_Command_SelectOperation]
    · simp [dispatchFrame, hc', hp', hn', eSelectOperation, operationOf, byteAt]
  · intro hop env f id hc hp hn hid hr hs
    have hid' : ¬ id.toNat ≥ eNUMBER_OF_AUDIO_SOURCES := Nat.not_le.mpr hid
    simp [dispatchFrame, hc, hop, ePCUARTBulkFileServiceProcess, eProcessConfigRead, hp, hn, h,
      byteAt, hid', hr, hs, ENOENT, ePC_UART_Command_ConfigRead, ePC_UART_Command_SelectOperation,
      ePC_UART_Command_ReleaseOperation, ePC_UART_Command_BulkStart, ePC_UART_Command_BulkData,
      ePC_UART_Command_BulkEnd]

/-- **The session flag agrees with the transfer state** whenever no step is
pending, in the runs that neither clean up under an open session nor give up
the end of a sound transfer; and without a transfer the other operations are
accepted. -/
theorem session_agrees (h : serviceSystem.ReachableVia Together s) (hq : s.Quiescent) :
    (s.hub.bBulkSessionActive = true ↔ s.bulk.eTransferState ≠ .idle)
      ∧ (s.bulk.eTransferState = .idle → Reopened s.hub) := by
  obtain ⟨hi, ha, hl⟩ := linked_of_reachable h
  have hu : s.bulk.uart = .idle := by simpa [Waits, hq.waiting] using hl.waits
  have hne : ¬ s.inEnd := by simp [Service.inEnd, hq.waiting]
  have hnp : ¬ Published s.bulk.uart := by simp [Published, hu]
  have hiff : s.hub.bBulkSessionActive = true ↔ s.bulk.eTransferState ≠ .idle := by
    constructor
    · exact fun hs => (hl.live hs hne).state
    · intro hst
      by_contra hs
      obtain ⟨hr, he⟩ := Alive.sound_at_rest ha hq hu hst
      exact hl.dead (Bool.eq_false_iff.mpr hs) hnp hr he
  refine ⟨hiff, fun hidle => reopened_of_no_session (Bool.eq_false_iff.mpr fun hs => ?_)⟩
  exact hiff.mp hs hidle

/-- The bulk file service is selected, and a transfer is started. -/
def startTransfer : List ServiceAct :=
  (openSession.map fun q => ServiceAct.frame q.frame q.env)
    ++ List.replicate 13 (.inCall (.healthy 0)) ++ [.answer]

/-- At rest, with a session open or not, and with a transfer or without. -/
def atRest (bSession : Bool) (eState : FileTransferState) (s : Service) : Bool :=
  s.waiting.isNone && s.bulk.handler == .idle && !s.bulk.stMsgWorkQueue && s.bulk.tails == []
    && (s.bulk.worker == none || (s.bulk.worker == some .get && s.bulk.queue == []))
    && s.hub.bBulkSessionActive == bSession && s.bulk.eTransferState == eState

theorem atRest_spec {bSession : Bool} {eState : FileTransferState}
    (h : atRest bSession eState s = true) :
    s.Quiescent ∧ s.hub.bBulkSessionActive = bSession ∧ s.bulk.eTransferState = eState := by
  simp only [atRest, Bool.and_eq_true, Bool.or_eq_true, Option.isNone_iff_eq_none, beq_iff_eq,
    Bool.not_eq_true'] at h
  obtain ⟨⟨⟨⟨⟨⟨hw, hh⟩, hq⟩, ht⟩, hwork⟩, hs⟩, he⟩ := h
  exact ⟨⟨hw, hh, hq, ht, hwork⟩, hs, he⟩

/-- While the host transfers a file, the flag is set. -/
theorem session_agrees_started :
    ∃ s, serviceSystem.ReachableVia Together s ∧ s.Quiescent
      ∧ s.bulk.eTransferState = .receiving ∧ s.hub.bBulkSessionActive = true := by
  have hrun : ((startTransfer.foldlM (TransSys.guarded Together Service.step)
      (Service.boot fun _ => none)).map (atRest true .receiving)) = some true := by
    decide +kernel
  obtain ⟨s, hs, hrest⟩ := Option.map_eq_some_iff.mp hrun
  obtain ⟨hq, -, hstate⟩ := atRest_spec hrest
  have hreach : serviceSystem.ReachableVia Together s :=
    TransSys.ReachableVia.foldlM (fun _ _ _ h => TransSys.guarded_some h) (.init ⟨_, rfl⟩) _ hs
  exact ⟨s, hreach, hq, hstate, (session_agrees hreach hq).1.mpr (by simp [hstate])⟩

/-- The host stays silent: the worker times out, and the handler cleans up. -/
def timeOutTransfer : List ServiceAct :=
  startTransfer ++ List.replicate 4 (.worker { Env.healthy 0 with timeOut := true })
    ++ [.tail 0, .tail 0] ++ List.replicate 10 (.handler (.healthy 0))

/-- After an inactivity timeout the session stays open over an idle transfer. -/
theorem session_disagrees :
    ¬ ∀ s, serviceSystem.Reachable s → s.Quiescent →
      (s.hub.bBulkSessionActive = true ↔ s.bulk.eTransferState ≠ .idle)
        ∧ (s.bulk.eTransferState = .idle → Reopened s.hub) := by
  intro h
  have hrun : ((timeOutTransfer.foldlM Service.step (Service.boot fun _ => none)).map
      (atRest true .idle)) = some true := by decide +kernel
  obtain ⟨s, hs, hrest⟩ := Option.map_eq_some_iff.mp hrun
  obtain ⟨hq, hsess, hstate⟩ := atRest_spec hrest
  have hreach : serviceSystem.Reachable s :=
    TransSys.Reachable.foldlM (fun _ _ _ h => h) (.init ⟨_, rfl⟩) _ hs
  exact (h s hreach hq).1.mp hsess hstate

end WallController.PCUart
