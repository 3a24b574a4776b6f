/-
  WallController.LittleFs.Progress
  ────────────────────────────────
  **A TRANSFER WITHOUT FAULTS GOES ON.**

  The threads beside the UART thread leave it at its point of a call, and
  there is always a thread that can go on: a call waits for room in the queue
  or for the semaphore only while the worker has something to do.

  Main results:
    * `Call.Smooth.beside`: the steps of the other threads.
    * `Call.Smooth.progress`: some thread can go on, or the call has returned.
    * `Receiving.fills`, `Receiving.overflows`: a frame in order, with room in the
      queue and without.
-/
import WallController.LittleFs.Smooth

namespace WallController.LittleFs

open WallController.Lib

variable {b b' : Bulk} {env : Env} {r : BulkTransferData} {ms : List MsgData} {marked : Bool}
  {m : MsgData}

/-! ## §1. The other threads inside a call. -/

theorem Receiving.fed (h : Receiving r ms b) (hfed : Fed r ms false b b') : Receiving r ms b' :=
  ⟨hfed.feeding, hfed.state.trans h.state⟩

theorem Finalizing.fed (h : Finalizing r ms marked b) (hfed : Fed r ms marked b b') :
    Finalizing r ms marked b' :=
  ⟨hfed.feeding, hfed.state.trans h.state⟩

/-- The UART thread is alone, or the steps of the others leave it at its
point. -/
def Beside (r : BulkTransferData) (c : Call) (ms : List MsgData) (b : Bulk) : Prop :=
  Alone b ∨ ∃ ms' marked, FitsAll ms' ∧ b.uart.opening = false ∧ Feeding r ms' marked b
    ∧ ∀ b', Fed r ms' marked b b' → c.Smooth r ms b'

theorem FitsAll.append {m : MsgData} (h : FitsAll ms) (hm : InOrder r ms m) :
    FitsAll (ms ++ [m]) := by
  intro x hx
  rcases List.mem_append.mp hx with hx | hx
  · exact h x hx
  · rw [List.mem_singleton.mp hx]
    exact ⟨hm.pos, hm.le⟩

theorem FitsAll.nil : FitsAll [] := by
  intro m hm
  cases hm

theorem StartPc.Smooth.beside {pc : StartPc} (hs : pc.Smooth r b)
    (hu : b.uart = .start r pc) : Beside r (.start r) [] b := by
  cases pc with
  | unlock bResult =>
      cases bResult with
      | false => exact .inl hs
      | true =>
          have hs : Receiving r [] b := hs
          refine .inr ⟨[], false, .nil, by rw [hu]; rfl, hs.feeding, ?_⟩
          intro b' hfed
          exact ⟨rfl, .inl ⟨.unlock true, hfed.uart.trans hu, hs.fed hfed⟩⟩
  | path => exact .inl hs.1
  | delete => exact .inl hs.1
  | create => exact .inl hs.1
  | open_ => exact .inl hs.1
  | setup => exact .inl hs.1
  | publish => exact .inl hs.1
  | startThread => exact .inl hs.1
  | lock => exact .inl hs
  | check => exact .inl hs
  | reset p => cases p <;> exact .inl hs
  | openFailed => exact .inl hs

theorem DataPc.Smooth.beside {pc : DataPc} (hs : pc.Smooth r ms m b) (hm : InOrder r ms m)
    (hfits : FitsAll ms) (hu : b.uart = .data m pc) : Beside r (.send m) ms b := by
  have hbefore : Receiving r ms b → (∀ b', Receiving r ms b' → pc.Smooth r ms m b') →
      Beside r (.send m) ms b := by
    intro hr hto
    refine .inr ⟨ms, false, hfits, by rw [hu]; rfl, hr.feeding, ?_⟩
    intro b' hfed
    exact .inl ⟨pc, hfed.uart.trans hu, hto b' (hr.fed hfed)⟩
  have hbehind : Receiving r (ms ++ [m]) b →
      (∀ b', Receiving r (ms ++ [m]) b' → pc.Smooth r ms m b') → Beside r (.send m) ms b := by
    intro hr hto
    refine .inr ⟨ms ++ [m], false, hfits.append hm, by rw [hu]; rfl, hr.feeding, ?_⟩
    intro b' hfed
    exact .inl ⟨pc, hfed.uart.trans hu, hto b' (hr.fed hfed)⟩
  cases pc with
  | lock => exact hbefore hs fun _ h => h
  | check => exact hbefore hs fun _ h => h
  | checkError => exact hbefore hs fun _ h => h
  | accept => exact hbefore hs fun _ h => h
  | account => exact hbehind hs fun _ h => h
  | unlock iRet => exact hbehind hs.2 fun _ h => ⟨hs.1, h⟩

theorem EndPc.Smooth.beside {pc : EndPc} (hs : pc.Smooth r ms b) (hfits : FitsAll ms)
    (hu : b.uart = .end_ pc) : Beside r .end_ ms b := by
  have hbefore : ∀ marked, Feeding r ms marked b →
      (∀ b', Fed r ms marked b b' → pc.Smooth r ms b') → Beside r .end_ ms b := by
    intro marked hf hto
    refine .inr ⟨ms, marked, hfits, by rw [hu]; rfl, hf, ?_⟩
    intro b' hfed
    exact .inl ⟨pc, hfed.uart.trans hu, hto b' hfed⟩
  have hreceiving : Receiving r ms b → (∀ b', Receiving r ms b' → pc.Smooth r ms b') →
      Beside r .end_ ms b := fun hr hto =>
    hbefore false hr.feeding fun b' hfed => hto b' (hr.fed hfed)
  cases pc with
  | entry => exact hreceiving hs fun _ h => h
  | lock eState => exact hreceiving hs fun _ h => h
  | check eState => exact hreceiving hs fun _ h => h
  | finalizing => exact hreceiving hs fun _ h => h
  | put =>
      have hs : Finalizing r ms false b := hs
      exact hbefore false hs.feeding fun b' hfed => hs.fed hfed
  | take =>
      have hs : Finalizing r ms true b := hs
      exact hbefore true hs.feeding fun b' hfed => hs.fed hfed
  | error => exact .inl hs.1.alone
  | size => exact .inl hs.1.alone
  | crc => exact .inl hs.1.alone
  | reportError eState => exact .inl hs.2.alone
  | setNone => exact .inl (Finishing.alone hs)
  | setSuccess => exact .inl (Finishing.alone hs)
  | sync => exact .inl (Finishing.alone hs)
  | close => exact .inl (Finishing.alone hs)
  | refresh => exact .inl (Finishing.alone hs)
  | report => exact .inl (Finishing.alone hs)
  | reset p stResult => exact .inl (Reported.alone hs)
  | unlock stResult => exact .inl (Reported.alone hs)
  | setError eError bExit => cases hs
  | setFailed bExit => cases hs
  | abort => cases hs
  | failClose => cases hs
  | failDelete => cases hs

/-- **The other threads leave a call at its point.** -/
theorem Call.Smooth.beside {c : Call} (hs : c.Smooth r ms b) (hc : c.Proper r ms)
    (hfits : FitsAll ms) : Beside r c ms b := by
  cases c with
  | start r' =>
      obtain ⟨rfl, hs⟩ := hs
      have hnil : ms = [] := hc
      rw [hnil]
      rcases hs with ⟨pc, hu, hs⟩ | ⟨hu, hs⟩ | ⟨hu, hs⟩
      · exact hs.beside hu
      · refine .inr ⟨[], false, .nil, by rw [hu]; rfl, hs.feeding, ?_⟩
        intro b' hfed
        exact ⟨rfl, .inr (.inl ⟨hfed.uart.trans hu, hs.fed hfed⟩)⟩
      · exact .inl hs
  | send m =>
      rcases hs with ⟨pc, hu, hs⟩ | ⟨hu, hs⟩
      · exact hs.beside hc hfits hu
      · refine .inr ⟨ms ++ [m], false, hfits.append hc, by rw [hu]; rfl, hs.feeding, ?_⟩
        intro b' hfed
        exact .inr ⟨hfed.uart.trans hu, hs.fed hfed⟩
  | end_ =>
      rcases hs with ⟨pc, hu, hs⟩ | ⟨stResult, hu, hs⟩
      · exact hs.beside hfits hu
      · exact .inl hs.alone

/-! ## §2. Progress. -/

/-- The worker can go on. -/
def WorkerProgress (b : Bulk) : Prop :=
  ∃ env b', WorkerFaultless b env ∧ workerStep env b = some b'

/-- Some thread can go on. -/
def Progress (b : Bulk) : Prop :=
  (∃ env b', CallFaultless b.uart env ∧ FindsRoom b ∧ uartStep env b = some b')
    ∨ WorkerProgress b ∨ ∃ b', tailStep 0 b = some b'

/-- While there is something in the queue, the worker goes on. -/
theorem Draining.progress (hd : Draining marked b) (hne : b.queue ≠ []) : WorkerProgress b := by
  obtain ⟨w, hw, hp⟩ := hd.worker
  -- a healthy environment, with the whole payload written, is one in which the worker goes on
  have hgo : ∀ n : Int, (∀ m, w = .write m → n = m.uiDataLen) →
      (∃ b', LittleFs.workerStep (.healthy n) b = some b') → WorkerProgress b := by
    rintro n hn ⟨b', h⟩
    refine ⟨.healthy n, b', ⟨rfl, ?_⟩, h⟩
    intro m hm
    exact hn m (Option.some.inj (hw.symm.trans hm))
  cases w with
  | get =>
      refine hgo 0 (fun m h => by (cases h)) ?_
      unfold LittleFs.workerStep
      rw [hw]
      cases hq : b.queue with
      | nil => exact absurd hq hne
      | cons x queue =>
          cases x with
          | data m => exact ⟨_, rfl⟩
          | end_ => exact ⟨_, rfl⟩
  | check m =>
      refine hgo 0 (fun m h => by (cases h)) ?_
      unfold LittleFs.workerStep
      rw [hw]
      dsimp only
      split <;> exact ⟨_, rfl⟩
  | recheck m =>
      refine hgo 0 (fun m h => by (cases h)) ?_
      unfold LittleFs.workerStep
      rw [hw]
      dsimp only
      split <;> exact ⟨_, rfl⟩
  | write m =>
      refine hgo m.uiDataLen (fun m' h => by (cases h; rfl)) ?_
      unfold LittleFs.workerStep
      rw [hw]
      dsimp only
      split <;> exact ⟨_, rfl⟩
  | crc m =>
      refine hgo 0 (fun m h => by (cases h)) ?_
      unfold LittleFs.workerStep
      rw [hw]
      exact ⟨_, rfl⟩
  | size m =>
      refine hgo 0 (fun m h => by (cases h)) ?_
      unfold LittleFs.workerStep
      rw [hw]
      exact ⟨_, rfl⟩
  -- the error points are not reached without a fault
  | setError e => cases hp
  | setFailed => cases hp
  | clear bSubmit => cases hp

/-- The worker ends, or it has given the semaphore. -/
theorem Drained.progress (hd : Drained ms b) : b.kSem_BulkWorkerDone = true ∨ Progress b := by
  rcases hd.leaving with ⟨hw, -, -⟩ | ⟨-, htails, -⟩ | ⟨-, -, hsem⟩
  · refine .inr (.inr (.inl ⟨.healthy 0, ?_⟩))
    unfold LittleFs.workerStep
    rw [hw]
    refine ⟨_, ⟨rfl, ?_⟩, rfl⟩
    intro m hm
    rw [hw] at hm
    cases hm
  · refine .inr (.inr (.inr ?_))
    unfold LittleFs.tailStep
    rw [htails]
    exact ⟨_, rfl⟩
  · exact .inl hsem

/-- With the work queue calm, the mutex is free outside of a call's section. -/
theorem Calm.free (hc : Calm b) (hi : Inv b) (hu : b.uart.inSection = false) :
    b.kMutex_BulkTransfer = none := by
  cases hm : b.kMutex_BulkTransfer with
  | none => rfl
  | some owner =>
      cases owner with
      | uart =>
          have := hi.uartLock.mp hm
          rw [hu] at this
          cases this
      | workQueue =>
          have := hi.handlerLock.mp hm
          rw [hc.handler] at this
          cases this

theorem StartPc.progress {pc : StartPc} (hi : Inv b) (hc : Calm b) (hu : b.uart = .start r pc) :
    ∃ b', startStep (.healthy 0) r pc b = some b' := by
  cases pc with
  | lock =>
      unfold startStep
      dsimp only
      rw [if_pos (hc.free hi (by rw [hu]; rfl))]
      split <;> exact ⟨_, rfl⟩
  | check =>
      unfold startStep
      dsimp only
      split <;> exact ⟨_, rfl⟩
  | path =>
      unfold startStep
      dsimp only
      split
      · exact ⟨_, rfl⟩
      · split <;> exact ⟨_, rfl⟩
  | delete =>
      unfold startStep
      dsimp only
      split <;> exact ⟨_, rfl⟩
  | create =>
      unfold startStep
      dsimp only
      split <;> exact ⟨_, rfl⟩
  | open_ =>
      unfold startStep
      dsimp only
      split <;> exact ⟨_, rfl⟩
  | reset p => exact ⟨_, rfl⟩
  | openFailed => exact ⟨_, rfl⟩
  | setup => exact ⟨_, rfl⟩
  | publish => exact ⟨_, rfl⟩
  | startThread => exact ⟨_, rfl⟩
  | unlock bResult => exact ⟨_, rfl⟩

/-- Inside of a call, where no frame waits for room. -/
theorem progress_of_uart (hroom : FindsRoom b) (h : ∃ b', uartStep (.healthy 0) b = some b') :
    Progress b := by
  obtain ⟨b', h⟩ := h
  refine .inl ⟨.healthy 0, b', ⟨rfl, ?_⟩, hroom, h⟩
  cases b.uart with
  | end_ pc => exact ⟨Int.le_refl _, Int.le_refl _, Int.le_refl _⟩
  | idle => trivial
  | start r pc => trivial
  | data m pc => trivial
  | returned reply => trivial

theorem DataPc.Smooth.progress {pc : DataPc} (hs : pc.Smooth r ms m b) (hm : InOrder r ms m)
    (hi : Inv b) (hc : Calm b) (hu : b.uart = .data m pc) : Progress b := by
  have hstep : ∀ env, uartStep env b = dataStep env m pc b := by
    intro env
    unfold uartStep
    rw [hu]
  have hgo : FindsRoom b → (∃ b', dataStep (.healthy 0) m pc b = some b') → Progress b := by
    intro hroom h
    refine progress_of_uart hroom ?_
    rw [hstep]
    exact h
  -- only `accept` needs room in the queue
  have hroom : pc ≠ .accept → FindsRoom b := by
    intro hne
    unfold FindsRoom
    rw [hu]
    cases pc with
    | accept => exact absurd rfl hne
    | lock => trivial
    | check => trivial
    | checkError => trivial
    | account => trivial
    | unlock iRet => trivial
  cases pc with
  | lock =>
      refine hgo (hroom (by simp)) ?_
      -- the work queue is calm, so nobody else holds the mutex
      rw [dataStep_lock hm rfl, if_pos (hc.free hi (by rw [hu]; rfl))]
      exact ⟨_, rfl⟩
  | check =>
      have hs : Receiving r ms b := hs
      exact hgo (hroom (by simp)) ⟨_, hs.dataStep_check⟩
  | checkError =>
      have hs : Receiving r ms b := hs
      exact hgo (hroom (by simp)) ⟨_, hs.dataStep_checkError⟩
  | accept =>
      have hs : Receiving r ms b := hs
      by_cases hlt : b.queue.length < MAX_MSGQ_DEPTH
      · refine hgo (by unfold FindsRoom; rw [hu]; exact hlt) ?_
        rw [hs.dataStep_accept hi hu hm, if_pos hlt]
        exact ⟨_, rfl⟩
      · -- the queue is full, so the worker goes on
        have hne : b.queue ≠ [] := by
          intro hnil
          rw [hnil] at hlt
          exact hlt (by decide)
        rcases hs.feeding.threads with hd | ⟨hmarked, -⟩
        · exact .inr (.inl (hd.progress hne))
        · cases hmarked
  | account => exact hgo (hroom (by simp)) ⟨_, rfl⟩
  | unlock iRet => exact hgo (hroom (by simp)) ⟨_, rfl⟩

theorem EndPc.Smooth.progress {pc : EndPc} (hs : pc.Smooth r ms b) (hi : Inv b) (hc : Calm b)
    (hu : b.uart = .end_ pc) : Progress b := by
  have hgo : (∃ b', endStep (.healthy 0) pc b = some b') → Progress b := by
    intro h
    refine progress_of_uart ?_ ?_
    · unfold FindsRoom
      rw [hu]
      trivial
    · unfold uartStep
      rw [hu]
      exact h
  cases pc with
  | lock eState =>
      refine hgo ?_
      unfold endStep
      dsimp only
      rw [if_pos (hc.free hi (by rw [hu]; rfl))]
      exact ⟨_, rfl⟩
  | put =>
      have hs : Finalizing r ms false b := hs
      by_cases hlt : b.queue.length < MAX_MSGQ_DEPTH
      · refine hgo ?_
        unfold endStep
        dsimp only
        rw [if_pos hlt]
        exact ⟨_, rfl⟩
      · have hne : b.queue ≠ [] := by
          intro hnil
          rw [hnil] at hlt
          exact hlt (by decide)
        -- the queue is full, so the worker goes on
        rcases hs.feeding.threads with hd | ⟨hmarked, -⟩
        · exact .inr (.inl (hd.progress hne))
        · cases hmarked
  | take =>
      have hs : Finalizing r ms true b := hs
      have htake : b.kSem_BulkWorkerDone = true → Progress b := by
        intro hsem
        refine hgo ?_
        unfold endStep
        dsimp only
        rw [if_pos hsem]
        exact ⟨_, rfl⟩
      -- the call waits for the semaphore while the worker still has the end marker to take
      rcases hs.feeding.threads with hd | ⟨-, hd⟩
      · refine .inr (.inl (hd.progress ?_))
        obtain ⟨queued, hq⟩ := hd.queue
        rw [hq]
        simp [endMarker]
      · rcases hd.progress with hsem | hprogress
        · exact htake hsem
        · exact hprogress
  | entry => exact hgo ⟨_, rfl⟩
  | finalizing => exact hgo ⟨_, rfl⟩
  | setNone => exact hgo ⟨_, rfl⟩
  | setSuccess => exact hgo ⟨_, rfl⟩
  | report => exact hgo ⟨_, rfl⟩
  | reportError eState => exact hgo ⟨_, rfl⟩
  | reset p stResult => exact hgo ⟨_, rfl⟩
  | unlock stResult => exact hgo ⟨_, rfl⟩
  | check eState | error | size | crc | sync | close | refresh =>
      refine hgo ?_
      unfold endStep
      dsimp only
      split <;> exact ⟨_, rfl⟩
  | setError eError bExit => cases hs
  | setFailed bExit => cases hs
  | abort => cases hs
  | failClose => cases hs
  | failDelete => cases hs

/-- **The call goes on, or the worker does**: a call waits for the mutex, for
room in the queue and for the semaphore only. -/
theorem Call.Smooth.progress {c : Call} (hs : c.Smooth r ms b) (hp : c.Proper r ms) (hi : Inv b)
    (hc : Calm b) : (∃ reply, b.uart = .returned reply) ∨ Progress b := by
  cases c with
  | start r' =>
      obtain ⟨rfl, hs⟩ := hs
      rcases hs with ⟨pc, hu, -⟩ | ⟨hu, -⟩ | ⟨hu, -⟩
      · refine .inr (progress_of_uart ?_ ?_)
        · unfold FindsRoom
          rw [hu]
          trivial
        · unfold uartStep
          rw [hu]
          exact StartPc.progress hi hc hu
      · exact .inl ⟨_, hu⟩
      · exact .inl ⟨_, hu⟩
  | send m =>
      rcases hs with ⟨pc, hu, hs⟩ | ⟨hu, -⟩
      · exact .inr (hs.progress hp hi hc hu)
      · exact .inl ⟨_, hu⟩
  | end_ =>
      rcases hs with ⟨pc, hu, hs⟩ | ⟨stResult, hu, -⟩
      · exact .inr (hs.progress hi hc hu)
      · exact .inl ⟨_, hu⟩

/-! ## §3. A frame, while the worker is late. -/

/-- The invariant along the steps of a run. -/
theorem inv_of_run (n : Nat) (hi : Inv b)
    (hrun : (List.replicate n (Act.uart (.healthy 0))).foldlM Bulk.step b = some b') : Inv b' := by
  induction n generalizing b with
  | zero =>
      cases hrun
      exact hi
  | succ n ih =>
      rw [List.replicate_succ, List.foldlM_cons] at hrun
      obtain ⟨b₁, h₁, hrun⟩ := Option.bind_eq_some_iff.mp hrun
      exact ih (hi.step h₁) hrun

/-- Inside of `iSend_BulkTransferData`, with the mutex. -/
def Bulk.inData (b : Bulk) (m : MsgData) (pc : DataPc) : Bulk :=
  { b with kMutex_BulkTransfer := some .uart, uart := .data m pc }

/-- A frame in order comes to the queue. -/
theorem Receiving.toAccept (hs : Receiving r ms b) (hi : Inv b) (hc : Calm b)
    (hu : b.uart = .idle) (hm : InOrder r ms m) :
    (List.replicate 3 (Act.uart (.healthy 0))).foldlM Bulk.step { b with uart := .data m .lock }
      = some (b.inData m .accept) := by
  have hfree : b.kMutex_BulkTransfer = none := hc.free hi (by rw [hu]; rfl)
  have h₀ : Bulk.step { b with uart := .data m .lock } (.uart (.healthy 0))
      = some (b.inData m .check) := by
    show dataStep (.healthy 0) m .lock { b with uart := .data m .lock } = _
    rw [dataStep_lock hm rfl, if_pos hfree]
    rfl
  have hcheck : Receiving r ms (b.inData m .check) := hs.moves rfl
  have h₁ : Bulk.step (b.inData m .check) (.uart (.healthy 0)) = some (b.inData m .checkError) :=
    show dataStep (.healthy 0) m .check (b.inData m .check) = _ from hcheck.dataStep_check
  have herror : Receiving r ms (b.inData m .checkError) := hs.moves rfl
  have h₂ : Bulk.step (b.inData m .checkError) (.uart (.healthy 0)) = some (b.inData m .accept) :=
    show dataStep (.healthy 0) m .checkError (b.inData m .checkError) = _ from
      herror.dataStep_checkError
  simp only [List.replicate_succ, List.replicate_zero, List.foldlM_cons, List.foldlM_nil, h₀, h₁,
    h₂, Option.bind_eq_bind, Option.bind_some]
  rfl

theorem inv_inData (hs : Receiving r ms b) (hi : Inv b) (hc : Calm b) (hu : b.uart = .idle)
    (hm : InOrder r ms m) : Inv (b.inData m .accept) := by
  have hcall : b.step (.call (.send m)) = some { b with uart := .data m .lock } := by
    show b.call (.send m) = _
    unfold Bulk.call
    rw [hu]
    rfl
  exact inv_of_run 3 (hi.step hcall) (hs.toAccept hi hc hu hm)

/-- With room in the queue, the frame is accepted. -/
theorem Receiving.fills (hs : Receiving r ms b) (hi : Inv b) (hc : Calm b) (hu : b.uart = .idle)
    (hm : InOrder r ms m) (hlt : b.queue.length < MAX_MSGQ_DEPTH) :
    ∃ b', (List.replicate 6 (Act.uart (.healthy 0))).foldlM Bulk.step
        { b with uart := .data m .lock } = some b'
      ∧ b'.uart = .returned (.sent 0) ∧ Receiving r (ms ++ [m]) b' ∧ Calm b' ∧ Inv b'
      ∧ b'.queue.length = b.queue.length + 1 := by
  have hacceptInv := inv_inData hs hi hc hu hm
  have haccept : Receiving r ms (b.inData m .accept) := hs.moves rfl
  have h₃ : dataStep (.healthy 0) m .accept (b.inData m .accept) = _ :=
    haccept.dataStep_accept hacceptInv rfl hm
  rw [if_pos (show (b.inData m .accept).queue.length < MAX_MSGQ_DEPTH from hlt)] at h₃
  have hqueued := haccept.accepted (m := m) (.data m .account)
  -- the last three steps
  have hrun : (List.replicate 3 (Act.uart (.healthy 0))).foldlM Bulk.step (b.inData m .accept)
      = some { b with
          queue := b.queue ++ [BulkQueueMessage.data m], log := .accepted m :: b.log
          ctrl := { b.ctrl with
            uiAcceptedSize := (b.ctrl.uiAcceptedSize + m.uiDataLen) % 4294967296
            uiNextFrameId := (b.ctrl.uiNextFrameId + 1) % 4294967296 }
          kMutex_BulkTransfer := none, uart := .returned (.sent 0) } := by
    rw [List.replicate_succ, List.foldlM_cons]
    show (dataStep (.healthy 0) m .accept (b.inData m .accept) >>= _) = _
    rw [h₃]
    rfl
  have hwhole : ∀ {b'}, (List.replicate 3 (Act.uart (.healthy 0))).foldlM Bulk.step
      (b.inData m .accept) = some b' → (List.replicate 6 (Act.uart (.healthy 0))).foldlM Bulk.step
        { b with uart := .data m .lock } = some b' := by
    intro b' hrun
    rw [show 6 = 3 + 3 from rfl, List.replicate_add, List.foldlM_append, hs.toAccept hi hc hu hm]
    exact hrun
  have hinv := inv_of_run 3 hacceptInv hrun
  refine ⟨_, hwhole hrun, rfl, ?_, ⟨hc.handler, hc.work⟩, hinv, ?_⟩
  · have hf := hqueued.feeding
    refine ⟨⟨hf.current, hf.opened, hf.process, hf.error, .inl ?_⟩, hs.state⟩
    rcases hf.threads with hd | ⟨hmarked, -⟩
    · exact ⟨hd.worker, hd.queue, hd.tails, hd.sem⟩
    · cases hmarked
  · show (b.queue ++ [_]).length = _
    rw [List.length_append, List.length_singleton]

/-- A full queue refuses it, and the transfer stays as it is. -/
theorem Receiving.overflows (hs : Receiving r ms b) (hi : Inv b) (hc : Calm b)
    (hu : b.uart = .idle) (hm : InOrder r ms m) (hfull : ¬ b.queue.length < MAX_MSGQ_DEPTH) :
    (List.replicate 5 (Act.uart (.healthy 0))).foldlM Bulk.step { b with uart := .data m .lock }
      = some { b with kMutex_BulkTransfer := none, uart := .returned (.sent (-ENOMSG)) } := by
  have haccept : Receiving r ms (b.inData m .accept) := hs.moves rfl
  have h₃ : dataStep (.healthy 0) m .accept (b.inData m .accept) = _ :=
    haccept.dataStep_accept (inv_inData hs hi hc hu hm) rfl hm
  rw [if_neg (show ¬ (b.inData m .accept).queue.length < MAX_MSGQ_DEPTH from hfull)] at h₃
  rw [show 5 = 3 + 2 from rfl, List.replicate_add, List.foldlM_append, hs.toAccept hi hc hu hm]
  show (dataStep (.healthy 0) m .accept (b.inData m .accept) >>= _) = _
  rw [h₃]
  rfl

end WallController.LittleFs
