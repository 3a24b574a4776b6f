/-
  WallController.Lvgl.InputController
  ────────────────────────────────
  **THE ENCODER AND ITS SWITCH (`UI_InputController.c`).**

  The driver of the encoder calls `vEncoder_Callback` with the counts since its
  last call; they are collected until they make up detents, and the remainder is
  kept.  The switch of the encoder calls its own handler.  Both submit messages
  to `kmsgq_eQDC_MessageQueue`, from which the UI thread takes them, and neither
  waits: when the queue is full the oldest message goes.

  The two callbacks and the UI thread interleave, call by call.  The queue is
  that of `Lib.LossyQueue`.

  Main results: `detents_conserved`, for every interleaving, and
  `newest_inputs_kept`, where nothing comes between a submission's look and its
  put.
-/
import WallController.Lib.LossyQueue

namespace WallController.Lvgl.Encoder

open WallController.Lib

/-! ## §1. The messages. -/

def MAX_ENCODER_MESSAGEs : Nat := 12

/-- `eUIInputType_t`. -/
inductive UIInputType where
  | none
  | rotate
  | press
  | release
  deriving DecidableEq, Repr

/-- `sT_UIInput_t`. -/
structure UIInput where
  eType : UIInputType
  iDetents : Int
  uiTimestamp_ms : UInt32
  deriving DecidableEq, Repr

/-- The count modes of the encoder. -/
inductive CountMode where
  | quadratureCycle_1Count
  | quadratureCycle_2Count
  | quadratureCycle_4Count
  | other
  deriving DecidableEq, Repr

/-- The switch of `bInitialize_eQDC`; the configuration has one count for a cycle. -/
def countsPerDetent : CountMode → Nat
  | .quadratureCycle_1Count => 1
  | .quadratureCycle_2Count => 2
  | .quadratureCycle_4Count => 4
  | .other => 1

/-- `sT_eQDC_PosChangeNotify_t`, as far as the callback reads it. -/
structure PosChangeNotify where
  /-- The counts of one period of the 500 Hz trigger.  The accumulator is below the counts of a
  detent, so the `int32_t` sum could only overflow from 2^31 - 4 counts in a period on. -/
  iEncPosDiff : Int
  /-- `eDir` is `eQDC_Dir_CCW`. -/
  bIsCCW : Bool
  deriving DecidableEq, Repr

/-- The signed counts of a notification. -/
def PosChangeNotify.iSignedDelta (n : PosChangeNotify) : Int :=
  if n.bIsCCW then -(n.iEncPosDiff.natAbs : Int) else n.iEncPosDiff.natAbs

/-- `bCalculate_Detents`: its answer, the message, and the new accumulator.  The
division and the remainder are those of C. -/
def bCalculate_Detents (uiNAV_COUNTS_PER_DETENT : Nat) (iEncoderCountAccumulator : Int)
    (stTeQDCData : PosChangeNotify) (uiTime_ms : UInt32) : Bool × UIInput × Int :=
  if uiNAV_COUNTS_PER_DETENT = 0 then (false, ⟨.none, 0, uiTime_ms⟩, iEncoderCountAccumulator)
  else if stTeQDCData.iEncPosDiff = 0 then (false, ⟨.none, 0, uiTime_ms⟩, iEncoderCountAccumulator)
  else
    let iCount := iEncoderCountAccumulator + stTeQDCData.iSignedDelta
    let iDetent_Delta := iCount.tdiv uiNAV_COUNTS_PER_DETENT
    let iRest := iCount.tmod uiNAV_COUNTS_PER_DETENT
    if iDetent_Delta = 0 then (false, ⟨.none, 0, uiTime_ms⟩, iRest)
    else (true, ⟨.rotate, iDetent_Delta, uiTime_ms⟩, iRest)

/-- `struct input_event`: whether it is a key and the key is `INPUT_KEY_0`, and its value. -/
structure InputEvent where
  bIsKey : Bool
  bIsKey0 : Bool
  value : Int
  deriving DecidableEq, Repr

/-- The message of `vEnc_SWPressed_InterruptHandler`, if it submits one. -/
def switchMessage (e : InputEvent) (uiTime_ms : UInt32) : Option UIInput :=
  if e.bIsKey && e.bIsKey0 then
    if e.value = 1 then some ⟨.press, 0, uiTime_ms⟩
    else if e.value = 0 then some ⟨.release, 0, uiTime_ms⟩
    else none
  else none

/-! ## §2. The controller. -/

/-- The two callbacks that submit. -/
inductive Source where
  | encoder
  | switch
  deriving DecidableEq, Repr

instance : Fintype Source where
  elems := {.encoder, .switch}
  complete source := by cases source <;> decide

structure InputController where
  uiNAV_COUNTS_PER_DETENT : Nat
  iEncoderCountAccumulator : Int
  kmsgq_eQDC_MessageQueue : LossyQueue Source UIInput
  /-- The counts of the encoder so far. -/
  turned : Int

inductive Act where
  /-- `vEncoder_Callback`, up to its look at the queue. -/
  | encoder (stTeQDCData : PosChangeNotify) (uiTime_ms : UInt32)
  /-- `vEnc_SWPressed_InterruptHandler`, up to its look at the queue. -/
  | switch (e : InputEvent) (uiTime_ms : UInt32)
  /-- The next call of `vSubmit_Message`. -/
  | submit (source : Source)
  /-- `iGet_NextUIEvent` finds a message. -/
  | next
  deriving DecidableEq, Repr

namespace InputController

/-- After `bInitialize_eQDC`. -/
def init (eQDCCountMode : CountMode) : InputController where
  uiNAV_COUNTS_PER_DETENT := countsPerDetent eQDCCountMode
  iEncoderCountAccumulator := 0
  kmsgq_eQDC_MessageQueue := .empty
  turned := 0

variable (s : InputController)

/-- One step of the queue. -/
def onQueue (a : LossyQueue.Act Source UIInput) : Option InputController :=
  (s.kmsgq_eQDC_MessageQueue.step MAX_ENCODER_MESSAGEs a).map fun q =>
    { s with kmsgq_eQDC_MessageQueue := q }

/-- The callback counts; a message is submitted if there are detents. -/
def vEncoder_Callback (stTeQDCData : PosChangeNotify) (uiTime_ms : UInt32) :
    Option InputController :=
  let r := bCalculate_Detents s.uiNAV_COUNTS_PER_DETENT s.iEncoderCountAccumulator stTeQDCData
    uiTime_ms
  let s := { s with
    iEncoderCountAccumulator := r.2.2
    turned := s.turned + stTeQDCData.iSignedDelta }
  if r.1 then s.onQueue (.submit .encoder r.2.1) else some s

/-- One step.  A callback is not called again before it has returned. -/
def step : Act → Option InputController
  | .encoder stTeQDCData uiTime_ms =>
    if s.kmsgq_eQDC_MessageQueue.producers .encoder = .idle then
      s.vEncoder_Callback stTeQDCData uiTime_ms
    else none
  | .switch e uiTime_ms =>
    if s.kmsgq_eQDC_MessageQueue.producers .switch = .idle then
      match switchMessage e uiTime_ms with
      | none => some s
      | some m => s.onQueue (.submit .switch m)
    else none
  | .submit source => s.onQueue (.act source)
  | .next => s.onQueue .receive

end InputController

def inputSystem (eQDCCountMode : CountMode) : TransSys InputController Act where
  init s := s = .init eQDCCountMode
  step s a s' := s.step a = some s'

/-! ## §3. The counts and the detents. -/

open InputController

variable {s s' : InputController} {eQDCCountMode : CountMode}

/-- The detents of a message. -/
def detents (m : UIInput) : Int := m.iDetents

theorem delta_eq_zero {n : PosChangeNotify} (h : n.iEncPosDiff = 0) : n.iSignedDelta = 0 := by
  unfold PosChangeNotify.iSignedDelta
  rw [h]
  split <;> rfl

/-- The detents of the message and the remainder make up the counts. -/
theorem calculate_counts {uiN : Nat} (hpos : 0 < uiN) {iAcc : Int} (hacc : iAcc.natAbs < uiN)
    (n : PosChangeNotify) (uiTime_ms : UInt32) :
    uiN * (bCalculate_Detents uiN iAcc n uiTime_ms).2.1.iDetents
        + (bCalculate_Detents uiN iAcc n uiTime_ms).2.2 = iAcc + n.iSignedDelta ∧
      (bCalculate_Detents uiN iAcc n uiTime_ms).2.2.natAbs < uiN ∧
      ((bCalculate_Detents uiN iAcc n uiTime_ms).1 = false →
        (bCalculate_Detents uiN iAcc n uiTime_ms).2.1.iDetents = 0) := by
  have hdiv := Int.mul_tdiv_add_tmod (iAcc + n.iSignedDelta) uiN
  have hrest : ((iAcc + n.iSignedDelta).tmod uiN).natAbs < uiN := by
    rw [Int.natAbs_tmod]
    exact Nat.mod_lt _ hpos
  unfold bCalculate_Detents
  rw [if_neg hpos.ne']
  split
  · next hzero =>
    refine ⟨?_, hacc, fun _ => rfl⟩
    show (uiN : Int) * 0 + iAcc = iAcc + n.iSignedDelta
    rw [delta_eq_zero hzero]
    omega
  · dsimp only
    split
    · next hnone =>
      refine ⟨?_, hrest, fun _ => rfl⟩
      rw [hnone] at hdiv
      exact hdiv
    · exact ⟨hdiv, hrest, fun h => absurd h (by simp)⟩

/-- A message of the switch has no detents. -/
theorem switch_detents {e : InputEvent} {uiTime_ms : UInt32} {m : UIInput}
    (h : switchMessage e uiTime_ms = some m) : m.iDetents = 0 := by
  unfold switchMessage at h
  split at h
  · split at h
    · obtain rfl := Option.some.inj h
      rfl
    · split at h
      · obtain rfl := Option.some.inj h
        rfl
      · exact absurd h (by simp)
  · exact absurd h (by simp)

/-- The counts so far are in the messages and in the accumulator. -/
structure Counted (eQDCCountMode : CountMode) (s : InputController) : Prop where
  counts : s.uiNAV_COUNTS_PER_DETENT = countsPerDetent eQDCCountMode
  rest : s.iEncoderCountAccumulator.natAbs < s.uiNAV_COUNTS_PER_DETENT
  sum : s.uiNAV_COUNTS_PER_DETENT * LossyQueue.total detents s.kmsgq_eQDC_MessageQueue.submitted
    + s.iEncoderCountAccumulator = s.turned

theorem countsPerDetent_pos (eQDCCountMode : CountMode) : 0 < countsPerDetent eQDCCountMode := by
  cases eQDCCountMode <;> decide

theorem Counted.init (eQDCCountMode : CountMode) : Counted eQDCCountMode (.init eQDCCountMode) where
  counts := rfl
  rest := countsPerDetent_pos eQDCCountMode
  sum := by
    show (countsPerDetent eQDCCountMode : Int) * 0 + 0 = 0
    omega

/-- A step of the queue submits the message, or nothing. -/
theorem submitted_of_step {q q' : LossyQueue Source UIInput} {a : LossyQueue.Act Source UIInput}
    (h : q.step MAX_ENCODER_MESSAGEs a = some q') :
    (∃ i m, a = .submit i m ∧ q'.submitted = q.submitted ++ [m]) ∨
      ((∀ i m, a ≠ .submit i m) ∧ q'.submitted = q.submitted) := by
  rcases LossyQueue.step_cases h with ⟨i, m, rfl, _, rfl⟩ | ⟨i, m, rfl, _, rfl⟩ | ⟨i, m, rfl, _, rfl⟩ |
    ⟨rfl, _, rfl⟩
  · exact Or.inl ⟨i, m, rfl, rfl⟩
  · refine Or.inr ⟨fun _ _ => by simp, ?_⟩
    unfold LossyQueue.putMsg
    split <;> rfl
  · refine Or.inr ⟨fun _ _ => by simp, ?_⟩
    rcases LossyQueue.takeMsg_cases q .dropped with ⟨_, heq⟩ | ⟨_, _, _, heq⟩ <;> rw [heq]
  · refine Or.inr ⟨fun _ _ => by simp, ?_⟩
    rcases LossyQueue.takeMsg_cases q .received with ⟨_, heq⟩ | ⟨_, _, _, heq⟩ <;> rw [heq]

theorem Counted.encoder (h : Counted eQDCCountMode s) (n : PosChangeNotify) (uiTime_ms : UInt32)
    (hst : s.vEncoder_Callback n uiTime_ms = some s') : Counted eQDCCountMode s' := by
  have hpos : 0 < s.uiNAV_COUNTS_PER_DETENT := by
    rw [h.counts]
    exact countsPerDetent_pos _
  obtain ⟨hcounts, hrest, hnone⟩ := calculate_counts hpos h.rest n uiTime_ms
  have hsum := h.sum
  unfold InputController.vEncoder_Callback at hst
  dsimp only at hst
  split at hst
  · obtain ⟨q, hq, rfl⟩ := Option.map_eq_some_iff.mp hst
    rcases submitted_of_step hq with ⟨i, m, ha, hsub⟩ | ⟨hno, _⟩
    · obtain ⟨_, rfl⟩ := LossyQueue.Act.submit.inj ha
      refine ⟨h.counts, hrest, ?_⟩
      show (s.uiNAV_COUNTS_PER_DETENT : Int) * LossyQueue.total detents q.submitted + _ = s.turned + _
      rw [hsub, LossyQueue.total_append, LossyQueue.total_singleton, Int.mul_add]
      unfold detents at hsum ⊢
      dsimp only at hsum ⊢
      omega
    · exact absurd rfl (hno _ _)
  · next hfalse =>
    obtain rfl := Option.some.inj hst
    refine ⟨h.counts, hrest, ?_⟩
    rw [hnone (Bool.eq_false_iff.mpr hfalse), Int.mul_zero] at hcounts
    show (s.uiNAV_COUNTS_PER_DETENT : Int)
        * LossyQueue.total detents s.kmsgq_eQDC_MessageQueue.submitted
        + (bCalculate_Detents s.uiNAV_COUNTS_PER_DETENT s.iEncoderCountAccumulator n uiTime_ms).2.2
      = s.turned + n.iSignedDelta
    omega

/-- A step of the queue that submits no detents. -/
theorem Counted.onQueue (h : Counted eQDCCountMode s) {a : LossyQueue.Act Source UIInput}
    (ha : ∀ i m, a = .submit i m → m.iDetents = 0) (hst : s.onQueue a = some s') :
    Counted eQDCCountMode s' := by
  obtain ⟨q, hq, rfl⟩ := Option.map_eq_some_iff.mp hst
  refine ⟨h.counts, h.rest, ?_⟩
  show (s.uiNAV_COUNTS_PER_DETENT : Int) * LossyQueue.total detents q.submitted + _ = s.turned
  rcases submitted_of_step hq with ⟨i, m, hsub, heq⟩ | ⟨_, heq⟩
  · rw [heq, LossyQueue.total_append, LossyQueue.total_singleton]
    unfold detents
    rw [ha i m hsub, Int.add_zero]
    exact h.sum
  · rw [heq]
    exact h.sum

/-- What a step does to the queue: nothing, or one step of its own. -/
theorem queue_step {a : Act} (hst : s.step a = some s') :
    s'.kmsgq_eQDC_MessageQueue = s.kmsgq_eQDC_MessageQueue ∨
      ∃ b, s.kmsgq_eQDC_MessageQueue.step MAX_ENCODER_MESSAGEs b = some s'.kmsgq_eQDC_MessageQueue ∧
        ∀ i, b = .act i ↔ a = .submit i := by
  cases a with
  | encoder n uiTime_ms =>
    unfold InputController.step InputController.vEncoder_Callback at hst
    dsimp only at hst
    split at hst
    · split at hst
      · obtain ⟨q, hq, rfl⟩ := Option.map_eq_some_iff.mp hst
        exact Or.inr ⟨_, hq, fun i => by simp⟩
      · obtain rfl := Option.some.inj hst
        exact Or.inl rfl
    · exact absurd hst (by simp)
  | switch e uiTime_ms =>
    unfold InputController.step at hst
    dsimp only at hst
    split at hst
    · split at hst
      · obtain rfl := Option.some.inj hst
        exact Or.inl rfl
      · obtain ⟨q, hq, rfl⟩ := Option.map_eq_some_iff.mp hst
        exact Or.inr ⟨_, hq, fun i => by simp⟩
    · exact absurd hst (by simp)
  | submit source =>
    obtain ⟨q, hq, rfl⟩ := Option.map_eq_some_iff.mp hst
    exact Or.inr ⟨_, hq, fun i => by simp⟩
  | next =>
    obtain ⟨q, hq, rfl⟩ := Option.map_eq_some_iff.mp hst
    exact Or.inr ⟨_, hq, fun i => by simp⟩

theorem Counted.step {a : Act} (h : Counted eQDCCountMode s) (hst : s.step a = some s') :
    Counted eQDCCountMode s' := by
  cases a with
  | encoder n uiTime_ms =>
    unfold InputController.step at hst
    dsimp only at hst
    split at hst
    · exact h.encoder n uiTime_ms hst
    · exact absurd hst (by simp)
  | switch e uiTime_ms =>
    unfold InputController.step at hst
    dsimp only at hst
    split at hst
    · cases hm : switchMessage e uiTime_ms with
      | none =>
        rw [hm] at hst
        obtain rfl := Option.some.inj hst
        exact h
      | some m =>
        rw [hm] at hst
        refine h.onQueue ?_ hst
        intro i m' hsub
        obtain ⟨_, rfl⟩ := LossyQueue.Act.submit.inj hsub
        exact switch_detents hm
    · exact absurd hst (by simp)
  | submit source => exact h.onQueue (fun _ _ hsub => absurd hsub (by simp)) hst
  | next => exact h.onQueue (fun _ _ hsub => absurd hsub (by simp)) hst

/-- The queue of the controller makes the steps of the library's queue. -/
theorem queue_reachable (h : (inputSystem eQDCCountMode).Reachable s) :
    (LossyQueue.queueSystem Source UIInput MAX_ENCODER_MESSAGEs).Reachable s.kmsgq_eQDC_MessageQueue := by
  refine TransSys.Reachable.invariant
    (I := fun s => (LossyQueue.queueSystem Source UIInput MAX_ENCODER_MESSAGEs).Reachable
      s.kmsgq_eQDC_MessageQueue) ?_ ?_ h
  · intro s hs
    rw [show s = .init eQDCCountMode from hs]
    exact .init rfl
  · intro s a s' hi hst
    rcases queue_step hst with heq | ⟨b, hb, _⟩
    · rw [heq]
      exact hi
    · exact .step hi trivial hb

/-! ## §4. What becomes of the counts. -/

/-- **No detent is lost without a trace**: in every interleaving, the detents of the
messages that the UI thread has taken, that wait, that were given up or refused, and that
are being submitted, with the remainder in the accumulator, are the counts of the encoder;
and the messages are taken in the order of their puts, each once. -/
theorem detents_conserved (h : (inputSystem eQDCCountMode).Reachable s) :
    (countsPerDetent eQDCCountMode : Int) *
        (LossyQueue.total detents (LossyQueue.leaving .received s.kmsgq_eQDC_MessageQueue.taken)
          + LossyQueue.total detents (LossyQueue.leaving .dropped s.kmsgq_eQDC_MessageQueue.taken)
          + LossyQueue.total detents s.kmsgq_eQDC_MessageQueue.queue
          + LossyQueue.total detents s.kmsgq_eQDC_MessageQueue.refused
          + LossyQueue.underWay detents s.kmsgq_eQDC_MessageQueue)
        + s.iEncoderCountAccumulator = s.turned ∧
      s.iEncoderCountAccumulator.natAbs < countsPerDetent eQDCCountMode ∧
      s.kmsgq_eQDC_MessageQueue.queue.length ≤ MAX_ENCODER_MESSAGEs ∧
      s.kmsgq_eQDC_MessageQueue.put
        = s.kmsgq_eQDC_MessageQueue.taken.map (fun t => t.2) ++ s.kmsgq_eQDC_MessageQueue.queue := by
  have hcounted : Counted eQDCCountMode s := by
    refine TransSys.Reachable.invariant ?_ ?_ h
    · intro s hs
      rw [show s = .init eQDCCountMode from hs]
      exact .init eQDCCountMode
    · intro s a s' hi hst
      exact hi.step hst
  have hqueue := LossyQueue.accounted (queue_reachable h)
  have hbalance := hqueue.balance detents
  rw [hqueue.order, LossyQueue.total_append, LossyQueue.total_taken] at hbalance
  have hsum := hcounted.sum
  rw [hcounted.counts] at hsum
  refine ⟨?_, by rw [← hcounted.counts]; exact hcounted.rest, hqueue.bounded, hqueue.order⟩
  rw [← hsum, hbalance]

/-- Two callbacks overlap, and the encoder has turned by one detent and a half. -/
def overlapRun : List Act :=
  [.encoder ⟨3, false⟩ 10, .switch ⟨true, true, 1⟩ 11, .submit .switch, .submit .encoder, .next]

theorem detents_conserved_overlap :
    ∃ s, overlapRun.foldlM InputController.step (.init .quadratureCycle_2Count) = some s ∧
      s.turned = 3 ∧ s.iEncoderCountAccumulator = 1 ∧
      s.iEncoderCountAccumulator.natAbs < countsPerDetent .quadratureCycle_2Count := by
  refine ⟨_, rfl, rfl, rfl, ?_⟩
  have h := detents_conserved (TransSys.Reachable.foldlM
    (M := inputSystem .quadratureCycle_2Count) (fun _ _ _ hs => hs) (.init rfl) overlapRun rfl)
  exact h.2.1

/-! ## §5. What the queue keeps. -/

/-- Nothing comes between a submission's look and its put: no other submission, and no call of
the UI thread. -/
def Uninterrupted (s : InputController) (a : Act) : Prop :=
  ∀ source, s.kmsgq_eQDC_MessageQueue.producers source ≠ .idle → a = .submit source

instance (s : InputController) (a : Act) : Decidable (Uninterrupted s a) :=
  inferInstanceAs (Decidable (∀ _, _ → _))

/-- **The newest inputs are kept**: where nothing interrupts a submission, no message is
refused, and between two submissions the newest `MAX_ENCODER_MESSAGEs` messages have been
taken by the UI thread, or wait. -/
theorem newest_inputs_kept (h : (inputSystem eQDCCountMode).ReachableVia Uninterrupted s) :
    s.kmsgq_eQDC_MessageQueue.refused = [] ∧
      ((∀ source, s.kmsgq_eQDC_MessageQueue.producers source = .idle) →
        ∀ k m, s.kmsgq_eQDC_MessageQueue.taken[k]? = some (.dropped, m) →
          k + MAX_ENCODER_MESSAGEs < s.kmsgq_eQDC_MessageQueue.put.length) := by
  have hqueue : (LossyQueue.queueSystem Source UIInput MAX_ENCODER_MESSAGEs).ReachableVia
      LossyQueue.Alone s.kmsgq_eQDC_MessageQueue := by
    refine TransSys.ReachableVia.invariant
      (I := fun s => (LossyQueue.queueSystem Source UIInput MAX_ENCODER_MESSAGEs).ReachableVia
        LossyQueue.Alone s.kmsgq_eQDC_MessageQueue) ?_ ?_ h
    · intro s hs
      rw [show s = .init eQDCCountMode from hs]
      exact .init rfl
    · intro s a s' hi hok hst
      rcases queue_step hst with heq | ⟨b, hb, hact⟩
      · rw [heq]
        exact hi
      · exact .step hi (fun i hne => (hact i).mpr (hok i hne)) hb
  have hsteady := LossyQueue.newest_kept (by decide) hqueue
  refine ⟨hsteady.refused, ?_⟩
  intro hidle k m hk
  exact hsteady.put_lt (fun i m' => by rw [hidle i]; simp) hk

/-- The switch is pressed and released, seven times. -/
def sevenPresses : List Act :=
  (List.replicate 6 [Act.switch ⟨true, true, 1⟩ 0, .submit .switch, .switch ⟨true, true, 0⟩ 5,
      .submit .switch]).flatten
    ++ [.switch ⟨true, true, 1⟩ 0, .submit .switch, .submit .switch]

/-- The first press is given up, and it is the oldest of thirteen messages. -/
theorem newest_inputs_kept_seven :
    ∃ s, sevenPresses.foldlM (TransSys.guarded Uninterrupted InputController.step)
        (.init .quadratureCycle_1Count) = some s ∧
      s.kmsgq_eQDC_MessageQueue.taken[0]? = some (.dropped, ⟨.press, 0, 0⟩) ∧
      0 + MAX_ENCODER_MESSAGEs < s.kmsgq_eQDC_MessageQueue.put.length := by
  refine ⟨_, rfl, rfl, ?_⟩
  have h : (inputSystem .quadratureCycle_1Count).ReachableVia Uninterrupted _ :=
    TransSys.ReachableVia.foldlM (fun _ _ _ hs => TransSys.guarded_some hs) (.init rfl) sevenPresses rfl
  exact (newest_inputs_kept h).2 (fun source => by cases source <;> rfl) 0 _ rfl

end WallController.Lvgl.Encoder
