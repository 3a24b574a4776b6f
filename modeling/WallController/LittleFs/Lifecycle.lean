/-
  WallController.LittleFs.Lifecycle
  ────────────────────────────────
  **A TRANSFER THAT IS NOT IDLE IS RUNNING, OR ITS CLEANUP IS ON THE WAY.**

  When no thread is inside an `END` or inside the cleanup itself, a transfer
  state other than idle has one of three reasons: the worker is processing,
  without an error; the worker is about to record an error; or an error is
  recorded and something still to run will get the handler to its check.
  So the transfer state cannot stay behind when the last thread comes to
  rest.
-/
import WallController.LittleFs.Returned

namespace WallController.LittleFs

open WallController.Lib

/-! ## §1. The three reasons. -/

/-- The worker still takes and writes frames. -/
def Worker.processing : Worker → Bool
  | .get | .check _ | .recheck _ | .write _ | .crc _ | .size _ => true
  | .setError _ | .setFailed | .clear _ => false

/-- Inside the cleanup of `vDataTransfer_TimeOutHandler`. -/
def Handler.cleaning : Handler → Bool
  | .setFailed | .close | .delete | .reset _ => true
  | .idle | .lock | .check | .unlock => false

/-- A `START` that is about to start the worker, or an `END` that has found
its transfer. -/
def Uart.handling : Uart → Bool
  | .start _ .startThread => true
  | .end_ pc =>
    match pc with
    | .entry | .lock _ | .check _ | .unlock _ => false
    | _ => true
  | _ => false

/-- A `START` past its reset. -/
def Uart.prepared : Uart → Bool
  | .start _ pc =>
    match pc with
    | .lock | .check | .reset _ | .unlock _ => false
    | _ => true
  | _ => false

structure Running (b : Bulk) : Prop where
  state : b.eTransferState = .receiving
  error : b.eError = .none
  worker : ∃ w, b.worker = some w ∧ w.processing = true
  noEnd : BulkQueueMessage.end_ ∉ b.queue

def AboutToFail (b : Bulk) : Prop := ∃ e, b.worker = some (.setError e)

/-- Something still to run leads to the handler's check. -/
def CleanupComing (b : Bulk) : Prop :=
  b.worker = some .setFailed ∨ b.worker = some (.clear true)
    ∨ Tail.give true ∈ b.tails ∨ Tail.submit ∈ b.tails ∨ b.stMsgWorkQueue = true
    ∨ b.handler = .lock ∨ b.handler = .check

def Failing (b : Bulk) : Prop := b.eError ≠ .none ∧ CleanupComing b

structure Alive (b : Bulk) : Prop where
  prepared : b.uart.prepared = true → b.eError = .none
  realError : ∀ e, b.worker = some (.setError e) → e ≠ .none
  alive : b.uart.handling = false → b.handler.cleaning = false → b.eTransferState ≠ .idle →
    Running b ∨ AboutToFail b ∨ Failing b

variable {b b' : Bulk} {env : Env}

/-! ## §2. The worker and the tails. -/

/-- The worker at the points of a transfer without an end marker. -/
theorem Running.workerStep (hr : Running b) (h : workerStep env b = some b') :
    Running b' ∨ AboutToFail b' := by
  obtain ⟨hst, herr, ⟨w, hw, hp⟩, hend⟩ := hr
  unfold LittleFs.workerStep at h
  simp only [hw] at h
  cases w with
  | get =>
    simp only at h
    split at h
    · split at h
      · cases h
        -- the get has timed out on the empty queue, and the worker is about to fail
        exact Or.inr ⟨_, rfl⟩
      · cases h
    · next q hq => exact absurd (by simp [hq]) hend
    · next m q hq =>
      cases h
      refine Or.inl ⟨hst, herr, ⟨_, rfl, rfl⟩, fun hmem => hend ?_⟩
      -- the end marker would have been in the queue before the message was taken
      rw [hq]
      exact List.mem_cons_of_mem _ hmem
  | check m =>
    simp only at h
    split at h
    · cases h
      exact Or.inl ⟨hst, herr, ⟨_, rfl, rfl⟩, hend⟩
    · cases h
      exact Or.inr ⟨_, rfl⟩
  | recheck m =>
    simp only at h
    split at h
    · cases h
      exact Or.inr ⟨_, rfl⟩
    · cases h
      exact Or.inl ⟨hst, herr, ⟨_, rfl, rfl⟩, hend⟩
  | write m =>
    simp only at h
    split at h
    · cases h
      exact Or.inr ⟨_, rfl⟩
    · cases h
      exact Or.inl ⟨hst, herr, ⟨_, rfl, rfl⟩, hend⟩
  | crc m | size m =>
    cases h
    exact Or.inl ⟨hst, herr, ⟨_, rfl, rfl⟩, hend⟩
  | setError e | setFailed | clear s => cases hp

/-- What the worker can do to the error and to itself. -/
theorem workerStep_error (h : workerStep env b = some b') :
    (b'.eError = b.eError ∧ ∀ e, b'.worker = some (.setError e) → e ≠ .none)
      ∨ ∃ e, b.worker = some (.setError e) ∧ b'.eError = e ∧ b'.worker = some .setFailed := by
  unfold LittleFs.workerStep at h
  cases hw : b.worker with
  | none => simp [hw] at h
  | some w =>
    simp only [hw] at h
    cases w with
    | get | check m | recheck m | write m =>
      simp only at h
      repeat' split at h
      all_goals
        cases h
        try exact Or.inl ⟨rfl, by simp [Bulk.atWorker]⟩
    | crc m | size m | setFailed | clear s =>
      cases h
      exact Or.inl ⟨rfl, by simp [Bulk.atWorker]⟩
    | setError e =>
      cases h
      exact Or.inr ⟨e, rfl, rfl, rfl⟩

theorem CleanupComing.workerStep (hc : CleanupComing b) (h : workerStep env b = some b') :
    CleanupComing b' := by
  have hf := workerStep_frame h
  unfold CleanupComing
  rcases hc with hw | hw | ht | ht | hq | hh | hh
  · simp only [LittleFs.workerStep, hw] at h
    cases h
    exact Or.inr (Or.inl rfl)
  · simp only [LittleFs.workerStep, hw] at h
    cases h
    exact Or.inr (Or.inr (Or.inl (List.mem_append_right _ (List.mem_singleton.mpr rfl))))
  · exact Or.inr (Or.inr (Or.inl (hf.tails _ ht)))
  · exact Or.inr (Or.inr (Or.inr (Or.inl (hf.tails _ ht))))
  · rw [hf.work]; simp [hq]
  · rw [hf.handler]; simp [hh]
  · rw [hf.handler]; simp [hh]

/-- A former worker hands its submission on. -/
theorem CleanupComing.tailStep {i : Nat} (hc : CleanupComing b) (h : tailStep i b = some b') :
    CleanupComing b' := by
  have hf := tailStep_frame h
  have hw : b'.worker = b.worker := by rw [hf]
  have hh : b'.handler = b.handler := by rw [hf]
  unfold CleanupComing at hc ⊢
  rw [hw, hh]
  unfold LittleFs.tailStep at h
  split at h
  · cases h
  · next hi =>
    cases h
    have hsub : Tail.submit ∈ b.tails.set i .submit :=
      List.mem_set (List.getElem?_eq_some_iff.mp hi).1 _
    exact Or.inr (Or.inr (Or.inr (Or.inl hsub)))
  · next hi =>
    cases h
    have hkeep : ∀ x ∈ b.tails, x ≠ .give false → x ∈ b.tails.eraseIdx i := by
      intro x hx hne
      obtain ⟨j, hj⟩ := List.mem_iff_getElem?.mp hx
      refine List.mem_eraseIdx_iff_getElem?.mpr ⟨j, fun hji => hne ?_, hj⟩
      rw [hji, hi] at hj
      exact (Option.some.inj hj).symm
    rcases hc with hc | hc | ht | ht | hc
    · exact Or.inl hc
    · exact Or.inr (Or.inl hc)
    · exact Or.inr (Or.inr (Or.inl (hkeep _ ht (by simp))))
    · exact Or.inr (Or.inr (Or.inr (Or.inl (hkeep _ ht (by simp)))))
    · exact Or.inr (Or.inr (Or.inr (Or.inr hc)))
  · cases h
    simp

/-- Past its reset, a `START` has no worker beside it. -/
theorem Inv.prepared_worker (hi : Inv b) (h : b.uart.prepared = true) : b.worker = none := by
  have hat := hi.uartAt
  cases hu : b.uart with
  | idle | returned r | data m pc | end_ pc => rw [hu] at h; cases h
  | start r pc =>
    rw [hu] at h hat
    cases pc with
    | lock | check | reset p | unlock res => cases h
    | path | delete | create | open_ | openFailed | setup => exact hat.1.worker
    | publish | startThread => exact hat.1

theorem Uart.prepared_inSection {u : Uart} (h : u.prepared = true) : u.inSection = true := by
  cases u with
  | idle | returned r | data m pc | end_ pc => cases h
  | start r pc => cases pc <;> first | rfl | cases h

theorem Alive.workerStep (ha : Alive b) (hi : Inv b) (h : workerStep env b = some b') :
    Alive b' := by
  have hf := workerStep_frame h
  have herr := workerStep_error h
  constructor
  · intro hp
    rw [hf.uart] at hp
    exact absurd (hi.prepared_worker hp) hf.alive
  · rcases herr with ⟨-, hreal⟩ | ⟨e, -, -, hw⟩
    · exact hreal
    · simp [hw]
  · intro hu hh _
    rw [hf.uart] at hu
    rw [hf.handler] at hh
    rcases ha.alive hu hh (hi.worker hf.alive).2 with hr | ⟨e, hw⟩ | ⟨hne, hc⟩
    · rcases hr.workerStep h with hr | hr
      · exact Or.inl hr
      · exact Or.inr (Or.inl hr)
    · have hreal := ha.realError e hw
      simp only [LittleFs.workerStep, hw] at h
      cases h
      exact Or.inr (Or.inr ⟨hreal, Or.inl rfl⟩)
    · refine Or.inr (Or.inr ⟨?_, hc.workerStep h⟩)
      rcases herr with ⟨heq, -⟩ | ⟨e, hw, heq, -⟩
      · rw [heq]; exact hne
      · rw [heq]; exact ha.realError e hw

theorem Alive.tailStep {i : Nat} (ha : Alive b) (h : tailStep i b = some b') : Alive b' := by
  have hcoming : CleanupComing b → CleanupComing b' := fun hc => hc.tailStep h
  have hf := tailStep_frame h
  generalize b'.kSem_BulkWorkerDone = sem at hf
  generalize b'.stMsgWorkQueue = work at hf
  generalize b'.tails = tails at hf
  subst hf
  refine ⟨ha.prepared, ha.realError, fun h1 h2 h3 => ?_⟩
  rcases ha.alive h1 h2 h3 with hr | hr | ⟨hne, hc⟩
  · exact Or.inl ⟨hr.state, hr.error, hr.worker, hr.noEnd⟩
  · exact Or.inr (Or.inl hr)
  · exact Or.inr (Or.inr ⟨hne, hcoming hc⟩)

/-! ## §3. The handler. -/

/-- What the handler does while it cleans up: it stays there, or the state is
idle. -/
theorem Alive.cleaned (ha : Alive b) (huart : b'.uart = b.uart)
    (hprep : b.uart.prepared = false) (hworker : b'.worker = b.worker ∨ b'.worker = none)
    (hdone : b'.handler.cleaning = true ∨ b'.eTransferState = .idle) : Alive b' := by
  constructor
  · intro hp
    rw [huart, hprep] at hp
    cases hp
  · rcases hworker with hw | hw
    · rw [hw]; exact ha.realError
    · simp [hw]
  · intro _ hh hne
    rcases hdone with hd | hd
    · rw [hh] at hd
      cases hd
    · exact absurd hd hne

theorem Alive.handlerStep (ha : Alive b) (hi : Inv b) (h : handlerStep env b = some b') :
    Alive b' := by
  unfold LittleFs.handlerStep at h
  -- the handler's section and a prepared `START` exclude each other
  have hprep : b.handler.inSection = true → b.uart.prepared = false := by
    intro hin
    have ho := hi.uart_outside hin
    exact Bool.eq_false_iff.mpr fun hp => by simp [Uart.prepared_inSection hp] at ho
  cases hh : b.handler with
  | idle =>
    simp only [hh] at h
    split at h
    · cases h
      refine ⟨ha.prepared, ha.realError, fun h1 _ h3 => ?_⟩
      -- a cleanup that was coming is still coming: the handler itself is on its way
      rcases ha.alive h1 (by rw [hh]; rfl) h3 with hr | hr | hr
      · exact Or.inl ⟨hr.state, hr.error, hr.worker, hr.noEnd⟩
      · exact Or.inr (Or.inl hr)
      · exact Or.inr (Or.inr ⟨hr.1, by simp [CleanupComing, Bulk.atHandler]⟩)
    · cases h
  | lock =>
    simp only [hh] at h
    split at h
    · cases h
      refine ⟨ha.prepared, ha.realError, fun h1 _ h3 => ?_⟩
      rcases ha.alive h1 (by rw [hh]; rfl) h3 with hr | hr | hr
      · exact Or.inl ⟨hr.state, hr.error, hr.worker, hr.noEnd⟩
      · exact Or.inr (Or.inl hr)
      · exact Or.inr (Or.inr ⟨hr.1, by simp [CleanupComing, Bulk.atHandler]⟩)
    · cases h
  | check =>
    simp only [hh] at h
    split at h
    · cases h
      exact ha.cleaned rfl (hprep (by rw [hh]; rfl)) (Or.inl rfl) (Or.inl rfl)
    · next hclean =>
      cases h
      refine ⟨ha.prepared, ha.realError, fun h1 _ h3 => ?_⟩
      rcases ha.alive h1 (by rw [hh]; rfl) h3 with hr | hr | hr
      · exact Or.inl ⟨hr.state, hr.error, hr.worker, hr.noEnd⟩
      · exact Or.inr (Or.inl hr)
      · refine absurd ?_ hclean
        -- an error of an active transfer is what `needsCleanup` looks for: this branch is out
        have h3' : b.eTransferState ≠ .idle := h3
        simp [Bulk.needsCleanup, Bulk.bIsMsgQueueInError, Bulk.bIsBulkTransferActive, hr.1, h3']
  | setFailed =>
    simp only [hh] at h
    cases h
    exact ha.cleaned rfl (hprep (by rw [hh]; rfl)) (Or.inl rfl) (Or.inl rfl)
  | close =>
    have hp := hprep (by rw [hh]; rfl)
    simp only [hh] at h
    split at h
    · split at h <;> (cases h; exact ha.cleaned rfl hp (Or.inl rfl) (Or.inl rfl))
    · cases h
      exact ha.cleaned rfl hp (Or.inl rfl) (Or.inl rfl)
  | delete =>
    have hp := hprep (by rw [hh]; rfl)
    simp only [hh] at h
    split at h <;> (cases h; exact ha.cleaned rfl hp (Or.inl rfl) (Or.inl rfl))
  | reset p =>
    have hp := hprep (by rw [hh]; rfl)
    simp only [hh] at h
    cases h
    cases p with
    | fields => exact ha.cleaned rfl hp (Or.inl rfl) (Or.inl rfl)
    | abort => exact ha.cleaned rfl hp (Or.inr hi.worker_aborted) (Or.inl rfl)
    | idle => exact ha.cleaned rfl hp (Or.inl rfl) (Or.inr rfl)
  | unlock =>
    simp only [hh] at h
    cases h
    refine ⟨ha.prepared, ha.realError, fun h1 _ h3 => ?_⟩
    rcases ha.alive h1 (by rw [hh]; rfl) h3 with hr | hr | ⟨hne, hc⟩
    · exact Or.inl ⟨hr.state, hr.error, hr.worker, hr.noEnd⟩
    · exact Or.inr (Or.inl hr)
    · simp only [CleanupComing, hh, reduceCtorEq, or_false] at hc
      exact Or.inr (Or.inr ⟨hne, by simpa [CleanupComing, Bulk.atHandler] using hc⟩)

/-! ## §4. The UART thread. -/

/-- A step that touches neither the state, the error nor what runs beside. -/
theorem Alive.same (ha : Alive b) (hstate : b'.eTransferState = b.eTransferState)
    (herr : b'.eError = b.eError) (hworker : b'.worker = b.worker) (hqueue : b'.queue = b.queue)
    (htails : b'.tails = b.tails) (hwork : b'.stMsgWorkQueue = b.stMsgWorkQueue)
    (hhandler : b'.handler = b.handler)
    (hprep : b'.uart.prepared = true → b.uart.prepared = true)
    (hhandling : b'.uart.handling = false → b.uart.handling = false) : Alive b' := by
  constructor
  · intro hp
    rw [herr]
    exact ha.prepared (hprep hp)
  · rw [hworker]; exact ha.realError
  · rw [hstate, hhandler]
    intro h1 h2 h3
    rcases ha.alive (hhandling h1) h2 h3 with hr | ⟨e, hr⟩ | ⟨hne, hc⟩
    · exact Or.inl ⟨by rw [hstate]; exact hr.state, by rw [herr]; exact hr.error,
        by rw [hworker]; exact hr.worker, by rw [hqueue]; exact hr.noEnd⟩
    · exact Or.inr (Or.inl ⟨e, by rw [hworker]; exact hr⟩)
    · refine Or.inr (Or.inr ⟨by rw [herr]; exact hne, ?_⟩)
      unfold CleanupComing
      rw [hworker, htails, hwork, hhandler]
      exact hc

/-- A step to an idle transfer, or into an `END`. -/
theorem Alive.vacuous (ha : Alive b) (hworker : b'.worker = b.worker ∨ b'.worker = none)
    (hprep : b'.uart.prepared = true → b'.eError = .none)
    (h : b'.eTransferState = .idle ∨ b'.uart.handling = true) : Alive b' := by
  constructor
  · exact hprep
  · rcases hworker with hw | hw
    · rw [hw]; exact ha.realError
    · simp [hw]
  · intro h1 _ h3
    rcases h with h | h
    · exact absurd h h3
    · rw [h] at h1
      cases h1

theorem Alive.startStep {r : BulkTransferData} {pc : StartPc} (ha : Alive b) (hi : Inv b)
    (hu : b.uart = .start r pc) (h : startStep env r pc b = some b') : Alive b' := by
  have hat := hi.uartAt
  have hprep := ha.prepared
  rw [hu] at hat hprep
  cases pc with
  | lock =>
    simp only [LittleFs.startStep] at h
    -- neither the state, the error nor a thread changes at the lock
    repeat' split at h
    all_goals
      first
      | (cases h; exact ha.same rfl rfl rfl rfl rfl rfl rfl (fun hp => by cases hp)
          (fun _ => by rw [hu]; rfl))
      | cases h
  | check =>
    simp only [LittleFs.startStep] at h
    split at h <;>
    · cases h
      exact ha.same rfl rfl rfl rfl rfl rfl rfl (fun hp => by cases hp) (fun _ => by rw [hu]; rfl)
  | reset p =>
    cases h
    cases p with
    | fields =>
      have hp : Preparing b := hat
      -- before `publish` the state is idle, and an idle transfer owes nothing
      exact ha.vacuous (Or.inl rfl) (fun hp => by cases hp) (Or.inl hp.state)
    | abort =>
      have hp : Preparing b ∧ Cleared b := hat
      exact ha.vacuous (Or.inr hi.worker_aborted) (fun hp => by cases hp) (Or.inl hp.1.state)
    | idle => exact ha.vacuous (Or.inl rfl) (fun _ => rfl) (Or.inl rfl)
  | path =>
    have hp : Preparing b ∧ Cleared b := hat
    simp only [LittleFs.startStep] at h
    split at h
    · cases h
      exact ha.vacuous (Or.inl rfl) (fun _ => hprep rfl) (Or.inl hp.1.state)
    · split at h
      · cases h
        exact ha.vacuous (Or.inl rfl) (fun _ => hprep rfl) (Or.inl rfl)
      · cases h
        exact ha.vacuous (Or.inl rfl) (fun _ => hprep rfl) (Or.inl hp.1.state)
  | delete | create | open_ =>
    have hs : b.eTransferState = .idle := hat.1.state
    simp only [LittleFs.startStep] at h
    split at h <;>
    · cases h
      exact ha.vacuous (Or.inl rfl) (fun _ => hprep rfl) (Or.inl hs)
  | openFailed | setup =>
    have hs : b.eTransferState = .idle := hat.1.state
    cases h
    exact ha.vacuous (Or.inl rfl) (fun _ => hprep rfl) (Or.inl hs)
  | publish =>
    cases h
    exact ha.vacuous (Or.inl rfl) (fun _ => hprep rfl) (Or.inr rfl)
  | startThread =>
    obtain ⟨hw, hfl, hs, hf, -⟩ := hat
    cases h
    -- the worker of the published transfer runs, with no end marker queued
    refine ⟨fun hp => by (cases hp), by simp [Bulk.atStart], fun _ _ _ => Or.inl ?_⟩
    refine ⟨hs, hprep rfl, ⟨.get, rfl, rfl⟩, ?_⟩
    show BulkQueueMessage.end_ ∉ b.queue
    simp [hf.queue]
  | unlock res =>
    cases h
    exact ha.same rfl rfl rfl rfl rfl rfl rfl (fun hp => by cases hp) (fun _ => by rw [hu]; rfl)

theorem Alive.dataStep {m : MsgData} {pc : DataPc} (ha : Alive b)
    (hu : b.uart = .data m pc) (h : dataStep env m pc b = some b') : Alive b' := by
  have hsame : ∀ pc', Alive (b.atData m pc') := fun pc' =>
    ha.same rfl rfl rfl rfl rfl rfl rfl (fun hp => by cases hp) (fun _ => by rw [hu]; rfl)
  cases pc with
  | lock =>
    simp only [LittleFs.dataStep] at h
    repeat' split at h
    all_goals
      first
      | (cases h; exact ha.same rfl rfl rfl rfl rfl rfl rfl (fun hp => by cases hp)
          (fun _ => by rw [hu]; rfl))
      | cases h
  | check | checkError =>
    simp only [LittleFs.dataStep] at h
    split at h <;> (cases h; exact hsame _)
  | accept =>
    simp only [LittleFs.dataStep] at h
    split at h
    · cases h; exact hsame _
    · split at h
      · cases h; exact hsame _
      · split at h
        · cases h; exact hsame _
        · split at h
          · cases h
            refine ⟨fun hp => by (cases hp), ha.realError, fun _ h2 h3 => ?_⟩
            rcases ha.alive (by rw [hu]; rfl) h2 h3 with hr | hr | hr
            · refine Or.inl ⟨hr.state, hr.error, hr.worker, fun hmem => ?_⟩
              rcases List.mem_append.mp hmem with hmem | hmem
              · exact hr.noEnd hmem
              · exact absurd (List.mem_singleton.mp hmem) (by simp)
            · exact Or.inr (Or.inl hr)
            · exact Or.inr (Or.inr hr)
          · cases h; exact hsame _
  | account =>
    cases h
    exact ha.same rfl rfl rfl rfl rfl rfl rfl (fun hp => by cases hp) (fun _ => by rw [hu]; rfl)
  | unlock i =>
    cases h
    exact ha.same rfl rfl rfl rfl rfl rfl rfl (fun hp => by cases hp) (fun _ => by rw [hu]; rfl)

theorem Alive.endStep {pc : EndPc} (ha : Alive b) (hi : Inv b)
    (hu : b.uart = .end_ pc) (h : endStep env pc b = some b') : Alive b' := by
  -- inside the handling of an `END` nothing is claimed
  have hin : ∀ c : Bulk, c.worker = b.worker ∨ c.worker = none → c.uart.prepared = false →
      c.uart.handling = true → Alive c := fun c hw hp hh =>
    ha.vacuous hw (fun h => by rw [hp] at h; cases h) (Or.inr hh)
  cases pc with
  | entry =>
    cases h
    exact ha.same rfl rfl rfl rfl rfl rfl rfl (fun hp => by cases hp) (fun _ => by rw [hu]; rfl)
  | lock st =>
    simp only [LittleFs.endStep] at h
    repeat' split at h
    all_goals
      first
      | (cases h; exact ha.same rfl rfl rfl rfl rfl rfl rfl (fun hp => by cases hp)
          (fun _ => by rw [hu]; rfl))
      | cases h
  | check st =>
    simp only [LittleFs.endStep] at h
    split at h
    · cases h
      exact hin _ (Or.inl rfl) rfl rfl
    · cases h
      exact ha.same rfl rfl rfl rfl rfl rfl rfl (fun hp => by cases hp) (fun _ => by rw [hu]; rfl)
  | finalizing | setNone | setSuccess | setError e x | report | reportError st =>
    cases h
    exact hin _ (Or.inl rfl) rfl rfl
  | setFailed bExit =>
    cases h
    cases bExit <;> exact hin _ (Or.inl rfl) rfl rfl
  | put | take =>
    simp only [LittleFs.endStep] at h
    split at h
    · cases h
      exact hin _ (Or.inl rfl) rfl rfl
    · split at h
      · cases h
        exact hin _ (Or.inl rfl) rfl rfl
      · cases h
  | error | size | crc | sync | close | refresh | failDelete =>
    simp only [LittleFs.endStep] at h
    split at h <;> (cases h; exact hin _ (Or.inl rfl) rfl rfl)
  | abort =>
    simp only [LittleFs.endStep] at h
    split at h
    · cases h
      exact hin _ (Or.inr rfl) rfl rfl
    · cases h
      exact hin _ (Or.inl rfl) rfl rfl
  | failClose =>
    simp only [LittleFs.endStep] at h
    split at h
    · split at h <;> (cases h; exact hin _ (Or.inl rfl) rfl rfl)
    · cases h
      exact hin _ (Or.inl rfl) rfl rfl
  | reset p r =>
    cases h
    cases p with
    | fields => exact hin _ (Or.inl rfl) rfl rfl
    | abort => exact hin _ (Or.inr hi.worker_aborted) rfl rfl
    | idle => exact ha.vacuous (Or.inl rfl) (fun hp => by cases hp) (Or.inl rfl)
  | unlock r =>
    cases h
    exact ha.same rfl rfl rfl rfl rfl rfl rfl (fun hp => by cases hp) (fun _ => by rw [hu]; rfl)

/-! ## §5. All runs. -/

theorem alive_boot (files : Files) : Alive (Bulk.boot files) := by
  constructor <;> simp [Bulk.boot, Uart.prepared]

theorem Alive.step {a : Act} (ha : Alive b) (hi : Inv b) (h : b.step a = some b') : Alive b' := by
  cases a with
  | call c =>
    simp only [Bulk.step, Bulk.call] at h
    split at h
    · next hu =>
      cases h
      exact ha.same rfl rfl rfl rfl rfl rfl rfl (fun hp => by cases c <;> cases hp)
        (fun _ => by rw [hu]; rfl)
    · cases h
  | uart env =>
    simp only [Bulk.step, uartStep] at h
    split at h
    · cases h
    · next r pc hu => exact ha.startStep hi hu h
    · next m pc hu => exact ha.dataStep hu h
    · next pc hu => exact ha.endStep hi hu h
    · cases h
  | ret =>
    simp only [Bulk.step, Bulk.ret] at h
    split at h
    · next r hu =>
      cases h
      exact ha.same rfl rfl rfl rfl rfl rfl rfl (fun hp => by cases hp) (fun _ => by rw [hu]; rfl)
    · cases h
  | worker env => exact ha.workerStep hi h
  | tail i => exact ha.tailStep h
  | handler env => exact ha.handlerStep hi h

/-- **A transfer that is not idle is running or failing**, in every state of
every run. -/
theorem alive_of_reachable (h : bulkSystem.Reachable b) : Alive b := by
  have hboth : Inv b ∧ Alive b := by
    refine TransSys.Reachable.invariant (I := fun b => Inv b ∧ Alive b) ?_ ?_ h
    · rintro b ⟨files, rfl⟩
      exact ⟨inv_boot files, alive_boot files⟩
    · rintro b a b' ⟨hi, ha⟩ hst
      exact ⟨hi.step hst, ha.step hi hst⟩
  exact hboth.2

/-! ## §6. Inside an `END` or a cleanup the transfer is not idle. -/

/-- Inside the handling of a transfer its state is not idle. -/
def Busy (b : Bulk) : Prop := b.uart.handling = true → b.eTransferState ≠ .idle

theorem Busy.workerStep (hb : Busy b) (h : workerStep env b = some b') : Busy b' := by
  have hf := workerStep_frame h
  intro hu
  rw [hf.uart] at hu
  rcases hf.state with hs | hs
  · rw [hs]; exact hb hu
  · rw [hs]; simp

theorem Uart.handling_inSection {u : Uart} (h : u.handling = true) : u.inSection = true := by
  cases u with
  | idle | returned r | data m pc => cases h
  | start r pc => cases pc <;> first | rfl | cases h
  | end_ pc => cases pc <;> first | rfl | cases h

theorem Busy.handlerStep (hb : Busy b) (hi : Inv b) (h : handlerStep env b = some b') :
    Busy b' := by
  have huart := handlerStep_uart h
  intro hu
  rw [huart] at hu
  have ho := hi.handler_outside (Uart.handling_inSection hu)
  unfold LittleFs.handlerStep at h
  cases hh : b.handler with
  | idle | lock =>
    simp only [hh] at h
    split at h
    · cases h
      exact hb hu
    · cases h
  | check | setFailed | close | delete | reset p | unlock =>
    rw [hh] at ho
    cases ho

theorem Busy.startStep {r : BulkTransferData} {pc : StartPc}
    (h : startStep env r pc b = some b') : Busy b' := by
  have hquiet : ∀ (c : Bulk) pc', pc' ≠ .startThread → Busy (c.atStart r pc') := by
    intro c pc' hne hu
    cases pc' <;> first | exact absurd rfl hne | cases hu
  cases pc with
  | publish =>
    cases h
    intro _
    simp [Bulk.atStart]
  | lock | check | path | delete | create | open_ =>
    simp only [LittleFs.startStep] at h
    repeat' split at h
    all_goals
      first
      | (cases h; exact hquiet _ _ (by simp))
      | (cases h; exact fun hu => by cases hu)
      | cases h
  | reset p =>
    cases h
    cases p <;> exact hquiet _ _ (by simp [ResetPc.next])
  | openFailed | setup | startThread =>
    cases h
    exact hquiet _ _ (by simp)
  | unlock res =>
    cases h
    exact fun hu => by cases hu

theorem Busy.dataStep {m : MsgData} {pc : DataPc} (h : dataStep env m pc b = some b') :
    Busy b' := by
  cases pc with
  | lock | check | checkError | accept =>
    simp only [LittleFs.dataStep] at h
    repeat' split at h
    all_goals
      first
      | (cases h; exact fun hu => by cases hu)
      | cases h
  | account | unlock i =>
    cases h
    exact fun hu => by cases hu

theorem Busy.endStep {pc : EndPc} (hb : Busy b) (hu : b.uart = .end_ pc)
    (h : endStep env pc b = some b') : Busy b' := by
  -- inside the section of `END` the transfer is not idle before the step
  have hst : (Uart.end_ pc).handling = true → b.eTransferState ≠ .idle := by
    rw [← hu]; exact hb
  cases pc with
  | entry =>
    cases h
    exact fun hu => by cases hu
  | lock st =>
    simp only [LittleFs.endStep] at h
    repeat' split at h
    all_goals
      first
      | (cases h; exact fun hu => by cases hu)
      | cases h
  | check st =>
    simp only [LittleFs.endStep] at h
    split at h
    · next hr =>
      cases h
      have hr' : b.eTransferState = .receiving := by simpa [Bulk.bIsBulkDataReceiving] using hr
      intro _
      simp [Bulk.atEnd, hr']
    · cases h
      exact fun hu => by cases hu
  | finalizing | setSuccess | setFailed x =>
    cases h
    intro _
    simp [Bulk.atEnd]
  | setNone | setError e x | report | reportError st =>
    cases h
    exact fun _ => hst rfl
  | put | take | error | size | crc | sync | close | refresh | abort | failClose | failDelete =>
    simp only [LittleFs.endStep] at h
    repeat' split at h
    all_goals
      first
      | (cases h; exact fun _ => hst rfl)
      | cases h
  | reset p r =>
    cases h
    cases p with
    | fields | abort => exact fun _ => hst rfl
    | idle => exact fun hu => by cases hu
  | unlock r =>
    cases h
    exact fun hu => by cases hu

theorem Busy.step {a : Act} (hb : Busy b) (hi : Inv b) (h : b.step a = some b') : Busy b' := by
  cases a with
  | call c =>
    simp only [Bulk.step, Bulk.call] at h
    split at h
    · cases h
      exact fun hu => by cases c <;> cases hu
    · cases h
  | uart env =>
    simp only [Bulk.step, uartStep] at h
    split at h
    · cases h
    · exact Busy.startStep h
    · exact Busy.dataStep h
    · next pc hu => exact hb.endStep hu h
    · cases h
  | ret =>
    simp only [Bulk.step, Bulk.ret] at h
    split at h
    · cases h
      exact fun hu => by cases hu
    · cases h
  | worker env => exact hb.workerStep h
  | tail i =>
    have hf := tailStep_frame (show tailStep i b = some b' from h)
    intro hu
    rw [hf] at hu ⊢
    exact hb hu
  | handler env => exact hb.handlerStep hi h

/-- While the handler cleans up, the state is not idle. -/
def HandlerBusy (b : Bulk) : Prop := b.handler.cleaning = true → b.eTransferState ≠ .idle

/-- Outside the mutex the UART thread changes neither the state nor the
handler. -/
theorem uartStep_outside (h : uartStep env b = some b') (ho : b.uart.inSection = false) :
    b'.eTransferState = b.eTransferState ∧ b'.handler = b.handler := by
  unfold uartStep at h
  cases hu : b.uart with
  | idle | returned r => simp [hu] at h
  | start r pc =>
    rw [hu] at ho
    simp only [hu] at h
    cases pc <;> try cases ho
    simp only [LittleFs.startStep] at h
    repeat' split at h
    all_goals first | (cases h; exact ⟨rfl, rfl⟩) | cases h
  | data m pc =>
    rw [hu] at ho
    simp only [hu] at h
    cases pc <;> try cases ho
    simp only [LittleFs.dataStep] at h
    repeat' split at h
    all_goals first | (cases h; exact ⟨rfl, rfl⟩) | cases h
  | end_ pc =>
    rw [hu] at ho
    simp only [hu] at h
    cases pc <;> try cases ho
    · cases h
      exact ⟨rfl, rfl⟩
    · simp only [LittleFs.endStep] at h
      repeat' split at h
      all_goals first | (cases h; exact ⟨rfl, rfl⟩) | cases h

theorem resetStep_handler (p : ResetPc) (b : Bulk) : (resetStep p b).handler = b.handler := by
  cases p <;> rfl

/-- No step of the UART thread moves the handler. -/
theorem uartStep_handler (h : uartStep env b = some b') : b'.handler = b.handler := by
  unfold uartStep at h
  cases hu : b.uart with
  | idle | returned r => simp [hu] at h
  | start r pc =>
    simp only [hu] at h
    cases pc with
    | reset p =>
      cases h
      exact resetStep_handler p b
    | _ =>
      simp only [LittleFs.startStep] at h
      repeat' split at h
      all_goals first | (cases h; rfl) | cases h
  | data m pc =>
    simp only [hu] at h
    cases pc <;>
    · simp only [LittleFs.dataStep] at h
      repeat' split at h
      all_goals first | (cases h; rfl) | cases h
  | end_ pc =>
    simp only [hu] at h
    cases pc with
    | reset p r =>
      cases h
      exact resetStep_handler p b
    | _ =>
      simp only [LittleFs.endStep] at h
      repeat' split at h
      all_goals first | (cases h; rfl) | cases h

theorem HandlerBusy.handlerStep (hb : HandlerBusy b) (h : handlerStep env b = some b') :
    HandlerBusy b' := by
  unfold LittleFs.handlerStep at h
  cases hh : b.handler with
  | idle | lock =>
    simp only [hh] at h
    split at h
    · cases h
      exact fun hc => by cases hc
    · cases h
  | check =>
    simp only [hh] at h
    split at h
    · next hneeds =>
      cases h
      intro _ hidle
      have hidle' : b.eTransferState = .idle := hidle
      simp [Bulk.needsCleanup, Bulk.bIsBulkTransferActive, hidle'] at hneeds
    · cases h
      exact fun hc => by cases hc
  | setFailed =>
    simp only [hh] at h
    cases h
    intro _
    simp [Bulk.atHandler]
  | close | delete =>
    have hst := hb (by rw [hh]; rfl)
    simp only [hh] at h
    repeat' split at h
    all_goals (cases h; exact fun _ => hst)
  | reset p =>
    have hst := hb (by rw [hh]; rfl)
    simp only [hh] at h
    cases h
    cases p with
    | fields | abort => exact fun _ => hst
    | idle => exact fun hc => by cases hc
  | unlock =>
    simp only [hh] at h
    cases h
    exact fun hc => by cases hc

theorem HandlerBusy.step {a : Act} (hb : HandlerBusy b) (hi : Inv b) (h : b.step a = some b') :
    HandlerBusy b' := by
  cases a with
  | call c =>
    simp only [Bulk.step, Bulk.call] at h
    split at h
    · cases h
      exact hb
    · cases h
  | uart env =>
    have hh := uartStep_handler (show uartStep env b = some b' from h)
    intro hc
    rw [hh] at hc
    have hin : b.handler.inSection = true := by
      cases hd : b.handler <;> rw [hd] at hc <;> first | rfl | cases hc
    rw [(uartStep_outside h (hi.uart_outside hin)).1]
    exact hb hc
  | ret =>
    simp only [Bulk.step, Bulk.ret] at h
    split at h
    · cases h
      exact hb
    · cases h
  | worker env =>
    have hf := workerStep_frame (show LittleFs.workerStep env b = some b' from h)
    intro hc
    rw [hf.handler] at hc
    rcases hf.state with hs | hs
    · rw [hs]; exact hb hc
    · rw [hs]; simp
  | tail i =>
    have hf := tailStep_frame (show LittleFs.tailStep i b = some b' from h)
    intro hc
    rw [hf] at hc ⊢
    exact hb hc
  | handler env => exact hb.handlerStep h

/-- Only a `START` that publishes its transfer ends the idle state. -/
theorem idle_step {a : Act} (hi : Inv b) (hb : Busy b) (hh : HandlerBusy b)
    (h : b.step a = some b') (hidle : b.eTransferState = .idle)
    (hpub : ∀ r, b.uart ≠ .start r .publish) : b'.eTransferState = .idle := by
  cases a with
  | call c =>
    simp only [Bulk.step, Bulk.call] at h
    split at h
    · cases h
      exact hidle
    · cases h
  | ret =>
    simp only [Bulk.step, Bulk.ret] at h
    split at h
    · cases h
      exact hidle
    · cases h
  | worker env =>
    -- a worker runs only beside a transfer that is not idle
    exact absurd hidle (hi.worker (workerStep_frame (show LittleFs.workerStep env b = _ from h)).alive).2
  | tail i =>
    rw [tailStep_frame (show LittleFs.tailStep i b = some b' from h)]
    exact hidle
  | handler env =>
    simp only [Bulk.step, LittleFs.handlerStep] at h
    cases hd : b.handler with
    | setFailed => exact absurd hidle (hh (by rw [hd]; rfl))
    | reset p =>
      simp only [hd] at h
      cases h
      cases p <;> first | exact hidle | rfl
    | _ =>
      simp only [hd] at h
      repeat' split at h
      all_goals first | (cases h; exact hidle) | cases h
  | uart env =>
    simp only [Bulk.step, uartStep] at h
    cases hu : b.uart with
    | idle | returned r => simp [hu] at h
    | start r pc =>
      simp only [hu] at h
      cases pc with
      | publish => exact absurd hu (hpub r)
      | reset p =>
        cases h
        cases p <;> first | exact hidle | rfl
      | _ =>
        simp only [LittleFs.startStep] at h
        repeat' split at h
        all_goals first | (cases h; exact hidle) | (cases h; rfl) | cases h
    | data m pc =>
      simp only [hu] at h
      cases pc <;>
      · simp only [LittleFs.dataStep] at h
        repeat' split at h
        all_goals first | (cases h; exact hidle) | cases h
    | end_ pc =>
      simp only [hu] at h
      -- inside its section `END` has an active transfer, outside it stores nothing
      by_cases hhand : (Uart.end_ pc).handling = true
      · exact absurd hidle (hb (by rw [hu]; exact hhand))
      · cases pc <;> try exact absurd rfl hhand
        all_goals
          simp only [LittleFs.endStep] at h
          repeat' split at h
          all_goals first | (cases h; exact hidle) | cases h

end WallController.LittleFs
