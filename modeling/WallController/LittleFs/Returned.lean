/-
  WallController.LittleFs.Returned
  ────────────────────────────────
  **WHAT THE CALLS HAVE RETURNED.**

  The log of the state is written at points inside the calls.  The host sees
  the calls that it makes and what they return: `servedSystem` keeps these
  beside the state, and `Told` says that they tell the same of a transfer as
  the log.  After the report of a success nothing writes to the file until
  `END` has returned it (`Settled`).

  Main result:
    * `bulk_transfer_delivered`: when an `END` returns success, the file is the
      concatenation of the frames for which `iSend_BulkTransferData` has
      returned 0 since the `START`, in order, with the declared length and CRC,
      over all interleavings.
-/
import WallController.LittleFs.BulkInvariant

namespace WallController.LittleFs

open WallController.Lib

/-! ## §1. The calls of a run. -/

/-- The call that the UART thread is inside of. -/
def Uart.call : Uart → Option Call
  | .start r _ => some (.start r)
  | .data m _ => some (.send m)
  | .end_ _ => some .end_
  | .idle | .returned _ => none

/-- The call that returns in a step, with its result. -/
def returnedIn (b b' : Bulk) : List (Call × Reply) :=
  match b.uart.call, b'.uart with
  | some c, .returned reply => [(c, reply)]
  | _, _ => []

/-- The state beside the calls that have returned, newest first, with their results. -/
structure Served where
  bulk : Bulk
  calls : List (Call × Reply)

def Served.step (s : Served) (a : Act) : Option Served :=
  (s.bulk.step a).map fun b => ⟨b, returnedIn s.bulk b ++ s.calls⟩

/-- The bulk transfer system with the calls that its runs have made. -/
def servedSystem : TransSys Served Act where
  init s := ∃ files, s = ⟨Bulk.boot files, []⟩
  step s a s' := s.step a = some s'

/-- What a call means for the transfer: a `START` that returns true begins one, and a
`DATA` frame for which 0 is returned adds to it. -/
def note (c : Call) (reply : Reply) (t : Option (BulkTransferData × List MsgData)) :
    Option (BulkTransferData × List MsgData) :=
  match c, reply with
  | .start r, .started true => some (r, [])
  | .send m, .sent iRet => if iRet = 0 then t.map fun t => (t.1, t.2 ++ [m]) else t
  | _, _ => t

/-- The request of the last `START` that has returned true, and the frames for which
`iSend_BulkTransferData` has returned 0 since, in order. -/
def sinceStart : List (Call × Reply) → Option (BulkTransferData × List MsgData)
  | [] => none
  | (c, reply) :: calls => note c reply (sinceStart calls)

variable {s s' : Served} {b b' : Bulk} {env : Env} {a : Act} {calls : List (Call × Reply)}

theorem served_step (h : s.step a = some s') :
    s.bulk.step a = some s'.bulk ∧ s'.calls = returnedIn s.bulk s'.bulk ++ s.calls := by
  obtain ⟨b, hb, rfl⟩ := Option.map_eq_some_iff.mp h
  exact ⟨hb, rfl⟩

theorem bulk_reachable_of_served (h : servedSystem.Reachable s) :
    bulkSystem.Reachable s.bulk := by
  induction h with
  | init h =>
      obtain ⟨files, rfl⟩ := h
      exact .init ⟨files, rfl⟩
  | step _ _ hst ih => exact .step ih trivial (served_step hst).1

/-- Every run has its calls. -/
theorem served_of_reachable (h : bulkSystem.Reachable b) :
    ∃ calls, servedSystem.Reachable ⟨b, calls⟩ := by
  induction h with
  | init h =>
      obtain ⟨files, rfl⟩ := h
      exact ⟨[], .init ⟨files, rfl⟩⟩
  | @step b b' a _ _ hst ih =>
      obtain ⟨calls, hcalls⟩ := ih
      refine ⟨returnedIn b b' ++ calls, .step hcalls trivial (a := a) ?_⟩
      show (b.step a).map _ = _
      rw [show b.step a = some b' from hst]
      rfl

/-! ## §2. The log tells what the calls have returned. -/

/-- The result of the call under way, where it is settled and has been logged. -/
def Uart.outcome : Uart → Option Reply
  | .start _ .startThread => some (.started true)
  | .start _ (.unlock bResult) => some (.started bResult)
  | .data _ .account => some (.sent 0)
  | .data _ (.unlock iRet) => some (.sent iRet)
  | _ => none

/-- The transfer that the calls tell of, and the one under way. -/
def Uart.told (u : Uart) (t : Option (BulkTransferData × List MsgData)) :
    Option (BulkTransferData × List MsgData) :=
  match u.call, u.outcome with
  | some c, some reply => note c reply t
  | _, _ => t

/-- The request and the frames of the last transfer of a log. -/
def inLog (log : List Event) : Option (BulkTransferData × List MsgData) :=
  (lastTransfer log).map fun t => (t.request, t.accepted)

/-- The log and the calls tell of the same transfer. -/
def Told (b : Bulk) (calls : List (Call × Reply)) : Prop :=
  inLog b.log = b.uart.told (sinceStart calls)

theorem inLog_accepted (m : MsgData) (log : List Event) :
    inLog (.accepted m :: log) = note (.send m) (.sent 0) (inLog log) := by
  unfold inLog
  rw [lastTransfer]
  cases lastTransfer log <;> rfl

/-- A step of another thread. -/
theorem Told.same (h : Told b calls) (hlog : b'.log = b.log) (huart : b'.uart = b.uart) :
    Told b' (returnedIn b b' ++ calls) := by
  have hnone : returnedIn b b' = [] := by
    unfold returnedIn
    rw [huart]
    cases b.uart <;> rfl
  unfold Told
  rw [hnone, List.nil_append, hlog, huart]
  exact h

theorem Told.startStep {r : BulkTransferData} {pc : StartPc} (ht : Told b calls)
    (hu : b.uart = .start r pc) (h : startStep env r pc b = some b') :
    Told b' (returnedIn b b' ++ calls) := by
  unfold Told returnedIn at *
  rw [hu] at ht ⊢
  cases pc with
  | lock | check | path | delete | create | open_ =>
      simp only [LittleFs.startStep] at h
      repeat' split at h
      all_goals first | (cases h; exact ht) | cases h
  | reset p =>
      cases h
      cases p <;> exact ht
  | publish =>
      -- the `START` is logged here, and can no longer fail
      cases h
      rfl
  | openFailed | setup | startThread | unlock bResult =>
      cases h
      exact ht

theorem Told.dataStep {m : MsgData} {pc : DataPc} (ht : Told b calls)
    (hu : b.uart = .data m pc) (h : dataStep env m pc b = some b') :
    Told b' (returnedIn b b' ++ calls) := by
  unfold Told returnedIn at *
  rw [hu] at ht ⊢
  cases pc with
  | lock | check | checkError =>
      simp only [LittleFs.dataStep] at h
      repeat' split at h
      all_goals first | (cases h; exact ht) | cases h
  | accept =>
      simp only [LittleFs.dataStep] at h
      split at h
      · cases h
        exact ht
      split at h
      · cases h
        exact ht
      split at h
      · cases h
        exact ht
      split at h
      · -- the frame is logged here, and 0 is returned for it
        cases h
        exact (inLog_accepted m b.log).trans (congrArg (note (.send m) (.sent 0)) ht)
      · cases h
        exact ht
  | account | unlock iRet =>
      cases h
      exact ht

theorem Told.endStep {pc : EndPc} (ht : Told b calls) (hu : b.uart = .end_ pc)
    (h : endStep env pc b = some b') : Told b' (returnedIn b b' ++ calls) := by
  unfold Told returnedIn at *
  rw [hu] at ht ⊢
  cases pc with
  | entry | finalizing | setNone | setSuccess | setError eError bExit | report
  | unlock stResult =>
      cases h
      exact ht
  | reportError eState =>
      -- the end of a transfer does not change which one was the last
      cases h
      exact ht
  | setFailed bExit =>
      cases h
      cases bExit <;> exact ht
  | reset p stResult =>
      cases h
      cases p <;> exact ht
  | lock | check | put | take | error | size | crc | sync | close | refresh | abort | failClose
  | failDelete =>
      simp only [LittleFs.endStep] at h
      repeat' split at h
      all_goals first | (cases h; exact ht) | cases h

/-- The handler logs nothing. -/
theorem handlerStep_log (h : handlerStep env b = some b') : b'.log = b.log := by
  unfold LittleFs.handlerStep at h
  cases hh : b.handler with
  | idle | lock | check | close | delete =>
      simp only [hh] at h
      repeat' split at h
      all_goals first | (cases h; rfl) | cases h
  | setFailed | unlock =>
      simp only [hh] at h
      cases h
      rfl
  | reset p =>
      simp only [hh] at h
      cases h
      cases p <;> rfl

theorem Told.step (ht : Told b calls) (h : b.step a = some b') :
    Told b' (returnedIn b b' ++ calls) := by
  cases a with
  | call c =>
      simp only [Bulk.step, Bulk.call] at h
      split at h
      · next hu =>
        cases h
        unfold Told returnedIn at *
        rw [hu] at ht ⊢
        cases c <;> exact ht
      · cases h
  | uart env =>
      simp only [Bulk.step, uartStep] at h
      split at h
      · cases h
      · next r pc hu => exact ht.startStep hu h
      · next m pc hu => exact ht.dataStep hu h
      · next pc hu => exact ht.endStep hu h
      · cases h
  | ret =>
      simp only [Bulk.step, Bulk.ret] at h
      split at h
      · next reply hu =>
        cases h
        unfold Told returnedIn at *
        rw [hu] at ht ⊢
        exact ht
      · cases h
  | worker env => exact ht.same (workerStep_frame h).log (workerStep_frame h).uart
  | tail i =>
      have hf := tailStep_frame h
      exact ht.same (by rw [hf]) (by rw [hf])
  | handler env => exact ht.same (handlerStep_log h) (handlerStep_uart h)

/-- **The log and the calls agree** in every state of every run. -/
theorem told_of_reachable (h : servedSystem.Reachable s) : Told s.bulk s.calls := by
  refine TransSys.Reachable.invariant (I := fun s => Told s.bulk s.calls) ?_ ?_ h
  · rintro s ⟨files, rfl⟩
    rfl
  · intro s a s' ht hst
    obtain ⟨hb, hcalls⟩ := served_step hst
    rw [hcalls]
    exact ht.step hb

/-! ## §3. From the report of a success to its return. -/

/-- A success is the newest event, and the files are as they were then. -/
def SuccessNewest (b : Bulk) : Prop :=
  ∃ earlier, b.log = .ended ⟨.success, .none⟩ b.files :: earlier

/-- No frame is left to write. -/
structure NothingLeft (queue : List BulkQueueMessage) (worker : Option Worker) : Prop where
  queue : dataOf queue = []
  free : ∀ w, worker = some w → w.inHand = none

/-- The reset of the transfer is done, and the handler does not find one to clean up. -/
structure AtRest (b : Bulk) : Prop where
  worker : b.worker = none
  state : b.eTransferState = .idle

def Handler.passive : Handler → Bool
  | .idle | .lock | .check | .unlock => true
  | _ => false

/-- What holds on the way from the report of a success to its return. -/
def Settled (b : Bulk) : Prop :=
  match b.uart with
  | .end_ (.reset _ stResult) =>
      stResult = ⟨.success, .none⟩ → SuccessNewest b ∧ NothingLeft b.queue b.worker
  | .end_ (.unlock stResult) => stResult = ⟨.success, .none⟩ → SuccessNewest b ∧ AtRest b
  | .returned (.ended stResult) =>
      stResult = ⟨.success, .none⟩ → SuccessNewest b ∧ AtRest b ∧ b.handler.passive = true
  | _ => True

theorem SuccessNewest.same (h : SuccessNewest b) (hlog : b'.log = b.log) (hfiles : b'.files = b.files) :
    SuccessNewest b' := by
  unfold SuccessNewest
  rw [hlog, hfiles]
  exact h

/-- A worker that has nothing to write changes no file. -/
theorem NothingLeft.workerStep (hd : NothingLeft b.queue b.worker)
    (h : workerStep env b = some b') :
    b'.files = b.files ∧ NothingLeft b'.queue b'.worker := by
  unfold LittleFs.workerStep at h
  cases hw : b.worker with
  | none =>
      rw [hw] at h
      cases h
  | some w =>
      have hhand := hd.free w hw
      simp only [hw] at h
      cases w with
      | check m | recheck m | write m | crc m | size m =>
          exact absurd hhand (by simp [Worker.inHand])
      | get =>
          simp only at h
          split at h
          · split at h
            · cases h
              exact ⟨rfl, hd.queue, by simp [Bulk.atWorker, Worker.inHand]⟩
            · cases h
          · next queue hq =>
            cases h
            have hrest := hd.queue
            rw [hq, dataOf_end] at hrest
            exact ⟨rfl, hrest, by simp [Bulk.atWorker, Worker.inHand]⟩
          · next m queue hq =>
            have hrest := hd.queue
            rw [hq, dataOf_data] at hrest
            exact absurd hrest (by simp)
      | setError e | setFailed =>
          cases h
          exact ⟨rfl, hd.queue, by simp [Bulk.atWorker, Worker.inHand]⟩
      | clear bSubmitCleanupWork =>
          cases h
          exact ⟨rfl, hd.queue, by simp⟩

theorem NothingLeft.reset (h : NothingLeft b.queue b.worker) (p : ResetPc) :
    NothingLeft (resetStep p b).queue (resetStep p b).worker := by
  cases p with
  | fields =>
      refine ⟨?_, h.free⟩
      show dataOf (if b.bMsgQ_Initialized then [] else b.queue) = []
      split
      · rfl
      · exact h.queue
  | abort =>
      refine ⟨h.queue, ?_⟩
      intro w hw
      replace hw : (if b.bMsg_ThreadInitialized then none else b.worker) = some w := hw
      split at hw
      · cases hw
      · exact h.free w hw
  | idle => exact ⟨h.queue, h.free⟩

/-- The handler outside of a cleanup changes nothing of the transfer. -/
theorem handlerStep_passive (hp : b.handler.passive = true)
    (hidle : b.handler = .check → b.eTransferState = .idle)
    (h : handlerStep env b = some b') : SameTransfer b b' ∧ b'.handler.passive = true := by
  unfold LittleFs.handlerStep at h
  cases hh : b.handler with
  | idle | lock =>
      simp only [hh] at h
      split at h
      · cases h
        exact ⟨rfl, rfl⟩
      · cases h
  | check =>
      have hnone : b.needsCleanup = false := by
        unfold Bulk.needsCleanup Bulk.bIsBulkTransferActive
        rw [hidle hh, bne_self_eq_false, Bool.and_false]
      simp only [hh, hnone] at h
      cases h
      exact ⟨rfl, rfl⟩
  | unlock =>
      simp only [hh] at h
      cases h
      exact ⟨rfl, rfl⟩
  | setFailed | close | delete | reset p =>
      rw [hh] at hp
      cases hp

theorem SameTransfer.successNewest (hs : SameTransfer b b') (h : SuccessNewest b) : SuccessNewest b' :=
  h.same (by rw [hs]) (by rw [hs])

theorem SameTransfer.nothingLeft (hs : SameTransfer b b') (h : NothingLeft b.queue b.worker) :
    NothingLeft b'.queue b'.worker := by
  rw [hs]
  exact ⟨h.queue, h.free⟩

theorem SameTransfer.atRest (hs : SameTransfer b b') (h : AtRest b) : AtRest b' := by
  rw [hs]
  exact ⟨h.worker, h.state⟩

/-- A step of another thread that leaves the transfer alone. -/
theorem Settled.same (h : Settled b) (hs : SameTransfer b b') (huart : b'.uart = b.uart)
    (hhandler : b.handler.passive = true → b'.handler.passive = true) : Settled b' := by
  unfold Settled at *
  rw [huart]
  cases hu : b.uart with
  | idle | start r pc | data m pc => trivial
  | end_ pc =>
      rw [hu] at h
      cases pc with
      | reset p stResult =>
          exact fun hr => ⟨hs.successNewest (h hr).1, hs.nothingLeft (h hr).2⟩
      | unlock stResult =>
          exact fun hr => ⟨hs.successNewest (h hr).1, hs.atRest (h hr).2⟩
      | _ => trivial
  | returned reply =>
      rw [hu] at h
      cases reply with
      | started bResult => trivial
      | sent iRet => trivial
      | ended stResult =>
          intro hr
          obtain ⟨hrep, hrest, hp⟩ := h hr
          exact ⟨hs.successNewest hrep, hs.atRest hrest, hhandler hp⟩

theorem Settled.workerStep (h : Settled b) (hst : workerStep env b = some b') :
    Settled b' := by
  have hf := workerStep_frame hst
  have hgone : AtRest b → False := fun hrest => hf.alive hrest.worker
  unfold Settled at *
  rw [hf.uart]
  cases hu : b.uart with
  | idle | start r pc | data m pc => trivial
  | end_ pc =>
      rw [hu] at h
      cases pc with
      | reset p stResult =>
          intro hr
          obtain ⟨hrep, hd⟩ := h hr
          obtain ⟨hfiles, hd'⟩ := hd.workerStep hst
          exact ⟨hrep.same hf.log hfiles, hd'⟩
      | unlock stResult => exact fun hr => (hgone (h hr).2).elim
      | _ => trivial
  | returned reply =>
      rw [hu] at h
      cases reply with
      | started bResult => trivial
      | sent iRet => trivial
      | ended stResult => exact fun hr => (hgone (h hr).2.1).elim

/-- The steps of `END`: the report finds the transfer verified, the reset empties the
queue and aborts the worker. -/
theorem Settled.endStep {pc : EndPc} (h : Settled b) (hi : Inv b) (hu : b.uart = .end_ pc)
    (hst : endStep env pc b = some b') : Settled b' := by
  have hat := hi.uartAt
  rw [hu] at hat
  unfold Settled at *
  rw [hu] at h
  cases pc with
  | entry | finalizing | setNone | setSuccess | setError eError bExit | report =>
      cases hst
      trivial
  | setFailed bExit =>
      cases hst
      cases bExit <;> trivial
  | put | take | error | size | crc | sync | close | refresh | abort | failClose | failDelete =>
      simp only [LittleFs.endStep] at hst
      repeat' split at hst
      all_goals first | (cases hst; trivial) | cases hst
  | lock eState =>
      simp only [LittleFs.endStep] at hst
      split at hst
      · cases hst
        trivial
      split at hst
      · cases hst
        intro hr
        cases hr
      · cases hst
  | check eState =>
      simp only [LittleFs.endStep] at hst
      split at hst
      · cases hst
        trivial
      · cases hst
        intro hr
        cases hr
  | reportError eState =>
      obtain ⟨-, hv⟩ : Closed b ∧ (eState = .success → ∃ t, Verified t b) := hat
      cases hst
      intro hr
      -- the report of a success has the proof that the whole file was written
      obtain ⟨t, ht⟩ := hv (congrArg TransferResult.eTransferState hr)
      have hresult : (⟨eState, b.eError⟩ : TransferResult) = ⟨.success, .none⟩ := hr
      refine ⟨⟨b.log, ?_⟩, ht.1.drained, ht.1.free⟩
      show .ended ⟨eState, b.eError⟩ b.files :: b.log = _
      rw [hresult]
      rfl
  | reset p stResult =>
      cases hst
      cases p with
      | fields =>
          intro hr
          obtain ⟨hrep, hd⟩ := h hr
          exact ⟨hrep.same rfl rfl, hd.reset .fields⟩
      | abort =>
          intro hr
          obtain ⟨hrep, hd⟩ := h hr
          exact ⟨hrep.same rfl rfl, hd.reset .abort⟩
      | idle =>
          intro hr
          obtain ⟨-, hw⟩ : Closed b ∧ b.worker = none := hat
          exact ⟨(h hr).1.same rfl rfl, hw, rfl⟩
  | unlock stResult =>
      have hout := hi.handler_outside (by rw [hu]; rfl)
      have hpassive : b.handler.passive = true := by
        cases hh : b.handler with
        | idle | lock => rfl
        | check | unlock => rfl
        | setFailed | close | delete | reset p =>
            rw [hh] at hout
            cases hout
      cases hst
      intro hr
      obtain ⟨hrep, hrest⟩ := h hr
      exact ⟨hrep.same rfl rfl, ⟨hrest.worker, hrest.state⟩, hpassive⟩

/-- The steps of the other two calls are not on that way. -/
theorem Settled.startStep {r : BulkTransferData} {pc : StartPc}
    (hst : startStep env r pc b = some b') : Settled b' := by
  cases pc with
  | lock | check | path | delete | create | open_ =>
      simp only [LittleFs.startStep] at hst
      repeat' split at hst
      all_goals first | (cases hst; trivial) | cases hst
  | openFailed | setup | publish | startThread | unlock bResult =>
      cases hst
      trivial
  | reset p =>
      cases hst
      cases p <;> trivial

theorem Settled.dataStep {m : MsgData} {pc : DataPc} (hst : dataStep env m pc b = some b') :
    Settled b' := by
  cases pc with
  | lock | check | checkError | accept =>
      simp only [LittleFs.dataStep] at hst
      repeat' split at hst
      all_goals first | (cases hst; trivial) | cases hst
  | account | unlock iRet =>
      cases hst
      trivial

/-- The handler: inside of `END` the mutex keeps it out, and after it there is nothing
to clean up. -/
theorem Settled.handlerStep (h : Settled b) (hi : Inv b) (hst : handlerStep env b = some b') :
    Settled b' := by
  have huart := handlerStep_uart hst
  have hmove : b.handler.passive = true →
      (b.handler = .check → b.eTransferState = .idle) → Settled b' := by
    intro hp hidle
    obtain ⟨hs, hp'⟩ := handlerStep_passive hp hidle hst
    exact h.same hs huart fun _ => hp'
  have hinside : b.uart.inSection = true → Settled b' := by
    intro hin
    have hout := hi.handler_outside hin
    cases hh : b.handler with
    | idle | lock => exact hmove (by rw [hh]; rfl) (by rw [hh]; exact nofun)
    | check | unlock | setFailed | close | delete | reset p =>
        rw [hh] at hout
        cases hout
  cases hu : b.uart with
  | end_ pc =>
      cases pc with
      | reset p stResult | unlock stResult => exact hinside (by rw [hu]; rfl)
      | _ =>
          unfold Settled
          rw [huart, hu]
          trivial
  | returned reply =>
      cases reply with
      | ended stResult =>
          by_cases hr : stResult = ⟨.success, .none⟩
          · have hend := h
            unfold Settled at hend
            rw [hu] at hend
            obtain ⟨-, hrest, hp⟩ := hend hr
            exact hmove hp fun _ => hrest.state
          · unfold Settled
            rw [huart, hu]
            exact fun hr' => absurd hr' hr
      | _ =>
          unfold Settled
          rw [huart, hu]
          trivial
  | _ =>
      unfold Settled
      rw [huart, hu]
      trivial

theorem Settled.step (h : Settled b) (hi : Inv b) (hst : b.step a = some b') : Settled b' := by
  cases a with
  | call c =>
      simp only [Bulk.step, Bulk.call] at hst
      split at hst
      · cases hst
        cases c <;> trivial
      · cases hst
  | uart env =>
      simp only [Bulk.step, uartStep] at hst
      split at hst
      · cases hst
      · exact Settled.startStep hst
      · exact Settled.dataStep hst
      · next pc hu => exact h.endStep hi hu hst
      · cases hst
  | ret =>
      simp only [Bulk.step, Bulk.ret] at hst
      split at hst
      · cases hst
        trivial
      · cases hst
  | worker env => exact h.workerStep hst
  | tail i =>
      have hf := tailStep_frame hst
      refine h.same (by rw [hf]; rfl) (by rw [hf]) fun hp => ?_
      rw [hf]
      exact hp
  | handler env => exact h.handlerStep hi hst

theorem settled_of_reachable (h : bulkSystem.Reachable b) : Settled b := by
  have hboth : Inv b ∧ Settled b := by
    refine TransSys.Reachable.invariant (I := fun b => Inv b ∧ Settled b) ?_ ?_ h
    · rintro b ⟨files, rfl⟩
      exact ⟨inv_boot files, trivial⟩
    · rintro b a b' ⟨hi, hs⟩ hst
      exact ⟨hi.step hst, hs.step hi hst⟩
  exact hboth.2

/-! ## §4. The returned success. -/

/-- **A returned success is a delivery.**  Whenever an `END` has returned success, the
file at the path of the last `START` that returned true holds exactly the payloads of the
frames for which 0 has been returned since, in order; their identifiers are `0 .. n-1`,
and their length and CRC are the declared ones. -/
theorem bulk_transfer_delivered (h : servedSystem.Reachable s)
    (hend : s.bulk.uart = .returned (.ended ⟨.success, .none⟩)) :
    ∃ r accepted path, sinceStart s.calls = some (r, accepted)
      ∧ r.target = some path
      ∧ s.bulk.files path = some (payload accepted)
      ∧ accepted.map MsgData.uiFrameId = List.range accepted.length
      ∧ (payload accepted).length = r.uiFileSize
      ∧ u16CRC16CCITTUpdate 0xFFFF (payload accepted) = r.uiCRC := by
  have hreach := bulk_reachable_of_served h
  have hsettled := settled_of_reachable hreach
  have htold := told_of_reachable h
  unfold Settled at hsettled
  unfold Told at htold
  rw [hend] at hsettled htold
  obtain ⟨⟨earlier, hlog⟩, -⟩ := hsettled rfl
  -- the success in the log, and the transfer that it ended
  obtain ⟨t, ht, hd⟩ := (inv_of_reachable hreach).faithful [] earlier s.bulk.files hlog
  have hcalls : sinceStart s.calls = some (t.request, t.accepted) := by
    refine htold.symm.trans ?_
    unfold inLog
    rw [hlog, lastTransfer, lastTransfer_of_current ht]
    rfl
  exact ⟨t.request, t.accepted, t.pcaTotalFilePath, hcalls, hd.target, hd.content, hd.ids,
    hd.length, hd.crc⟩

/-- A `START`, one frame and an `END` up to its report, with the worker in between. -/
def threeByteTransfer : List Act :=
  let bytes : List UInt8 := [0x41, 0x42, 0x43]
  let crc := u16CRC16CCITTUpdate 0xFFFF bytes
  let uart := Act.uart (.healthy 3)
  let worker := Act.worker (.healthy 3)
  [.call (.start ⟨1, ascii "a.bin", 3, crc, by decide⟩)] ++ List.replicate 13 uart ++ [.ret]
    ++ [.call (.send ⟨0, bytes, crc⟩)] ++ List.replicate 6 uart ++ [.ret]
    ++ List.replicate 6 worker
    ++ [.call .end_] ++ List.replicate 5 uart ++ List.replicate 2 worker ++ [.tail 0]
    ++ List.replicate 11 uart

/-- The call has returned success. -/
def Uart.succeeded : Uart → Bool
  | .returned (.ended ⟨.success, .none⟩) => true
  | _ => false

theorem succeeded_iff {u : Uart} (h : u.succeeded = true) :
    u = .returned (.ended ⟨.success, .none⟩) := by
  unfold Uart.succeeded at h
  split at h
  · rfl
  · cases h

/-- The same transfer, whose frame is sent twice, up to the return of `END`. -/
def repeatedFrameTransfer : List Act :=
  let bytes : List UInt8 := [0x41, 0x42, 0x43]
  let uart := Act.uart (.healthy 3)
  threeByteTransfer.take 29
    ++ [.call (.send ⟨0, bytes, u16CRC16CCITTUpdate 0xFFFF bytes⟩)] ++ List.replicate 5 uart
    ++ [.ret] ++ threeByteTransfer.drop 29 ++ List.replicate 4 uart

/-- The three bytes arrive once; the second frame has been refused. -/
theorem bulk_transfer_delivered_repeated_frame :
    ∃ s r accepted path, servedSystem.Reachable s
      ∧ s.bulk.uart = .returned (.ended ⟨.success, .none⟩)
      ∧ s.calls.map Prod.snd
        = [.ended ⟨.success, .none⟩, .sent (-EILSEQ), .sent 0, .started true]
      ∧ sinceStart s.calls = some (r, accepted)
      ∧ r.target = some path
      ∧ s.bulk.files path = some (payload accepted)
      ∧ accepted.map MsgData.uiFrameId = List.range accepted.length
      ∧ (payload accepted).length = r.uiFileSize
      ∧ u16CRC16CCITTUpdate 0xFFFF (payload accepted) = r.uiCRC := by
  have hrun : ((repeatedFrameTransfer.foldlM Served.step ⟨Bulk.boot fun _ => none, []⟩).map
      fun s => (s.bulk.uart.succeeded, s.calls.map Prod.snd))
        = some (true, [.ended ⟨.success, .none⟩, .sent (-EILSEQ), .sent 0, .started true]) := by
    decide +kernel
  obtain ⟨s, hs, hout⟩ := Option.map_eq_some_iff.mp hrun
  obtain ⟨hsucceeded, hreplies⟩ := Prod.mk.inj hout
  have hreach : servedSystem.Reachable s :=
    TransSys.Reachable.foldlM (fun _ _ _ h => h) (.init ⟨_, rfl⟩) _ hs
  have hend := succeeded_iff hsucceeded
  obtain ⟨r, accepted, path, hdelivered⟩ := bulk_transfer_delivered hreach hend
  exact ⟨s, r, accepted, path, hreach, hend, hreplies, hdelivered⟩

end WallController.LittleFs
