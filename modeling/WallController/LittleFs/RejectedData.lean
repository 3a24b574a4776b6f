/-
  WallController.LittleFs.RejectedData
  ────────────────────────────────
  **A REJECTED DATA FRAME IS A NO-OP.**

  A call of `iSend_BulkTransferData` that returns an error has only taken and
  released the mutex.  So its steps can be deleted from a run, whatever the
  worker, the former workers and the work queue do meanwhile: the rest of the
  run can be made without them, and leads to the same state.

  Main results:
    * `foldlM_withoutRejected`: the run without the rejected frames.
    * `acceptedFits_of_reachable`: the accepted size never exceeds the file size.
    * `rejected_data_no_op`: both.
-/
import WallController.LittleFs.BulkInvariant
import Mathlib

namespace WallController.LittleFs

open WallController.Lib

/-! ## §1. The rejected calls of a run. -/

/-- What the call under way has returned. -/
def Uart.reply : Uart → Option Reply
  | .returned reply => some reply
  | _ => none

/-- What the call under way returns in the rest of the run, or the next call where none
is under way. -/
def Bulk.callReply (b : Bulk) : List Act → Option Reply
  | [] => b.uart.reply
  | a :: as =>
    match b.uart.reply with
    | some reply => some reply
    | none => (b.step a).bind fun b' => b'.callReply as

/-- An error of `iSend_BulkTransferData`. -/
def Reply.isRejection : Reply → Bool
  | .sent iRet => iRet ≠ 0
  | _ => false

/-- The call under way is one of `iSend_BulkTransferData`, and it returns an error. -/
def Bulk.rejects (b : Bulk) (as : List Act) : Bool := (b.callReply as).any Reply.isRejection

/-- A step of the UART thread. -/
def Act.isUart : Act → Bool
  | .call _ | .uart _ | .ret => true
  | _ => false

/-- The steps of the rejected calls. -/
def rejectedStep (b : Bulk) (as : List Act) : Bool :=
  (as.head?.any Act.isUart) && b.rejects as

/-- The run without the rejected calls. -/
def withoutRejected (b : Bulk) (as : List Act) : List Act :=
  TransSys.erase Bulk.step rejectedStep b as

/-- The state without the UART thread. -/
def Bulk.outside (b : Bulk) : Bulk :=
  { b with
    uart := .idle
    kMutex_BulkTransfer :=
      if b.kMutex_BulkTransfer = some .uart then none else b.kMutex_BulkTransfer }

def Uart.isIdle : Uart → Bool
  | .idle => true
  | _ => false

/-- The state in the run without the rejected calls. -/
def Bulk.view (b : Bulk) (as : List Act) : Bulk :=
  if !b.uart.isIdle && b.rejects as then b.outside else b

/-! ## §2. Which calls are rejected. -/

variable {b b' : Bulk} {a : Act} {as : List Act} {env : Env}

theorem uart_of_step (ha : a.isUart = false) (h : b.step a = some b') : b'.uart = b.uart := by
  cases a with
  | call c => cases ha
  | uart env => cases ha
  | ret => cases ha
  | worker env => exact (workerStep_frame h).uart
  | tail i => rw [tailStep_frame h]
  | handler env => exact handlerStep_uart h

/-- What the call under way returns: its own steps stay inside `P`, where only such replies
are returned. -/
theorem callReply_spec {P : Uart → Prop} {Q : Reply → Prop}
    (hstep : ∀ b b' env, P b.uart → uartStep env b = some b' → P b'.uart)
    (hidle : ¬P .idle) (hreply : ∀ reply, P (.returned reply) → Q reply)
    (h : P b.uart) (as : List Act) {reply : Reply} (hr : b.callReply as = some reply) : Q reply := by
  have hreturned : ∀ b : Bulk, P b.uart → b.uart.reply = some reply → Q reply := by
    intro b hb hreturns
    cases hu : b.uart with
    | returned r =>
      rw [hu] at hb hreturns
      cases hreturns
      exact hreply reply hb
    | idle | start r pc | data m pc | end_ pc =>
      rw [hu] at hreturns
      cases hreturns
  -- induction on the run: the call stays inside `P` until its reply is there
  induction as generalizing b with
  | nil => exact hreturned b h hr
  | cons a as ih =>
    unfold Bulk.callReply at hr
    cases hreturns : b.uart.reply with
    | some r =>
      rw [hreturns] at hr
      cases hr
      exact hreturned b h hreturns
    | none =>
      rw [hreturns] at hr
      dsimp only at hr
      cases hstepped : b.step a with
      | none =>
        rw [hstepped] at hr
        cases hr
      | some b' =>
        rw [hstepped] at hr
        refine ih ?_ hr
        -- a step of the UART thread keeps `P`, and a step of another thread leaves the call alone
        by_cases ha : a.isUart = true
        · cases a with
          | call c =>
            cases hu : b.uart with
            | idle => exact absurd (hu ▸ h) hidle
            | start r pc | data m pc | end_ pc | returned reply =>
              simp [Bulk.step, Bulk.call, hu] at hstepped
          | uart env => exact hstep b b' env h hstepped
          | ret =>
            cases hu : b.uart with
            | returned reply => simp [hu, Uart.reply] at hreturns
            | idle | start r pc | data m pc | end_ pc =>
              simp [Bulk.step, Bulk.ret, hu] at hstepped
          | worker env | tail i | handler env => cases ha
        · rw [uart_of_step (Bool.eq_false_iff.mpr ha) hstepped]
          exact h

/-- Calls that stay inside `P` until they return are not rejected. -/
theorem not_rejects {P : Uart → Prop}
    (hstep : ∀ b b' env, P b.uart → uartStep env b = some b' → P b'.uart)
    (hidle : ¬P .idle) (hreply : ∀ reply, P (.returned reply) → reply.isRejection = false)
    (h : P b.uart) (as : List Act) : b.rejects as = false := by
  unfold Bulk.rejects
  cases hr : b.callReply as with
  | none => rfl
  | some reply => exact callReply_spec hstep hidle hreply h as hr

/-- A frame that has been queued. -/
def Uart.Queued : Uart → Prop
  | .data _ .account => True
  | .data _ (.unlock iRet) => iRet = 0
  | .returned (.sent iRet) => iRet = 0
  | _ => False

theorem not_rejects_queued (h : b.uart.Queued) : b.rejects as = false := by
  refine not_rejects (P := Uart.Queued) ?_ id ?_ h as
  · intro b b' env hb hstep
    unfold uartStep at hstep
    cases hu : b.uart with
    | idle | start r pc | end_ pc =>
      rw [hu] at hb
      exact hb.elim
    | returned reply =>
      rw [hu] at hstep
      cases hstep
    | data m pc =>
      rw [hu] at hb hstep
      cases pc with
      | lock | check | checkError | accept => exact hb.elim
      | account =>
        cases hstep
        exact rfl
      | unlock iRet =>
        cases hstep
        exact hb
  · intro reply hreply
    cases reply with
    | started bResult => exact hreply.elim
    | sent iRet =>
      have hzero : iRet = 0 := hreply
      rw [hzero]
      rfl
    | ended stResult => exact hreply.elim

/-- A `START` or an `END`. -/
def Uart.NoData : Uart → Prop
  | .start _ _ | .end_ _ => True
  | .returned (.started _) | .returned (.ended _) => True
  | _ => False

theorem noData_startStep {r : BulkTransferData} {pc : StartPc}
    (h : startStep env r pc b = some b') : b'.uart.NoData := by
  unfold startStep at h
  cases pc with
  | lock | check | path | delete | create | open_ =>
    simp only at h
    repeat' split at h
    all_goals first | (cases h; trivial) | cases h
  | reset p | openFailed | setup | publish | startThread | unlock bResult =>
    cases h
    trivial

theorem noData_endStep {pc : EndPc} (h : endStep env pc b = some b') : b'.uart.NoData := by
  unfold endStep at h
  cases pc with
  | lock st | check st | put | take | error | size | crc | sync | close | refresh | abort
    | failClose | failDelete =>
    simp only at h
    repeat' split at h
    all_goals first | (cases h; trivial) | cases h
  | entry | finalizing | setNone | setSuccess | setError e bExit | setFailed bExit | report
    | reportError st | reset p res | unlock res =>
    cases h
    trivial

theorem not_rejects_noData (h : b.uart.NoData) : b.rejects as = false := by
  refine not_rejects (P := Uart.NoData) ?_ id ?_ h as
  · intro b b' env hb hstep
    unfold uartStep at hstep
    cases hu : b.uart with
    | idle | data m pc =>
      rw [hu] at hb
      exact hb.elim
    | returned reply =>
      rw [hu] at hstep
      cases hstep
    | start r pc =>
      rw [hu] at hstep
      exact noData_startStep hstep
    | end_ pc =>
      rw [hu] at hstep
      exact noData_endStep hstep
  · intro reply hreply
    cases reply with
    | sent iRet => exact hreply.elim
    | started bResult | ended stResult => rfl

/-! ## §3. The steps of the other threads. -/

/-- The state with the UART thread and the mutex replaced. -/
def Bulk.put (b : Bulk) (u : Uart) (m : Option Owner) : Bulk :=
  { b with uart := u, kMutex_BulkTransfer := m }

variable {u : Uart} {m : Option Owner}

/-- The worker uses neither. -/
theorem workerStep_put (h : workerStep env b = some b') :
    workerStep env (b.put u m) = some (b'.put u m) := by
  have hput : (b.put u m).worker = b.worker := rfl
  unfold workerStep at h ⊢
  rw [hput]
  cases hw : b.worker with
  | none =>
    rw [hw] at h
    cases h
  | some w =>
    rw [hw] at h
    cases w with
    | get =>
      have hqueue : (b.put u m).queue = b.queue := rfl
      dsimp only at h ⊢
      rw [hqueue]
      split at h
      · split at h
        · cases h
          rename_i hwait
          exact if_pos hwait
        · cases h
      · cases h
        rfl
      · cases h
        rfl
    | check x | recheck x | write x =>
      dsimp only at h ⊢
      split at h
      · rename_i hcond
        cases h
        exact if_pos hcond
      · rename_i hcond
        cases h
        exact if_neg hcond
    | crc x | size x | setError x | setFailed | clear x =>
      cases h
      rfl

theorem tailStep_put {i : Nat} (h : tailStep i b = some b') :
    tailStep i (b.put u m) = some (b'.put u m) := by
  have htails : (b.put u m).tails = b.tails := rfl
  unfold tailStep at h ⊢
  rw [htails]
  split at h
  · cases h
  all_goals
    cases h
    rfl

/-- The work queue uses the mutex only. -/
theorem handlerStep_put (h : handlerStep env b = some b') :
    handlerStep env (b.put u b.kMutex_BulkTransfer)
      = some (b'.put u b'.kMutex_BulkTransfer) := by
  have hput : (b.put u b.kMutex_BulkTransfer).handler = b.handler := rfl
  unfold handlerStep at h ⊢
  rw [hput]
  cases hh : b.handler with
  | idle | lock =>
    rw [hh] at h
    dsimp only at h ⊢
    split at h
    · rename_i hcond
      cases h
      exact if_pos hcond
    · cases h
  | check | delete =>
    rw [hh] at h
    dsimp only at h ⊢
    split at h
    · rename_i hcond
      cases h
      exact if_pos hcond
    · rename_i hcond
      cases h
      exact if_neg hcond
  | close =>
    rw [hh] at h
    dsimp only at h ⊢
    split at h
    · rename_i hopen
      split at h
      · rename_i hcond
        cases h
        exact (if_pos hopen).trans (if_pos hcond)
      · rename_i hcond
        cases h
        exact (if_pos hopen).trans (if_neg hcond)
    · rename_i hopen
      cases h
      exact if_neg hopen
  | setFailed | unlock =>
    rw [hh] at h
    cases h
    rfl
  | reset p =>
    rw [hh] at h
    cases h
    cases p <;> rfl

/-- A step of another thread can be made in the state without the UART thread. -/
theorem outside_step (hi : Inv b) (ha : a.isUart = false) (h : b.step a = some b') :
    b.outside.step a = some b'.outside := by
  have huart := uart_of_step ha h
  have hi' := hi.step h
  by_cases hin : b.uart.inSection = true
  · have hm := hi.uartLock.mpr hin
    have hm' : b'.kMutex_BulkTransfer = some .uart := hi'.uartLock.mpr (huart ▸ hin)
    have hout : b.outside = b.put .idle none := by
      unfold Bulk.outside
      rw [if_pos hm]
      rfl
    have hout' : b'.outside = b'.put .idle none := by
      unfold Bulk.outside
      rw [if_pos hm']
      rfl
    rw [hout, hout']
    cases a with
    | call c => cases ha
    | uart env => cases ha
    | ret => cases ha
    | worker env => exact workerStep_put h
    | tail i => exact tailStep_put h
    | handler env =>
      -- the work queue is outside its section, and waits for the mutex
      have hhandler := hi.handler_outside hin
      have hstep : handlerStep env b = some b' := h
      show handlerStep env (b.put .idle none) = _
      unfold handlerStep at hstep ⊢
      have hput : (b.put .idle none).handler = b.handler := rfl
      rw [hput]
      cases hh : b.handler with
      | idle =>
        rw [hh] at hstep
        dsimp only at hstep ⊢
        split at hstep
        · rename_i hwork
          cases hstep
          exact if_pos hwork
        · cases hstep
      | lock =>
        rw [hh] at hstep
        dsimp only at hstep
        rw [hm, if_neg (by decide)] at hstep
        cases hstep
      | check | setFailed | close | delete | reset p | unlock =>
        rw [hh] at hhandler
        cases hhandler
  · have hm : b.kMutex_BulkTransfer ≠ some .uart := fun hm => hin (hi.uartLock.mp hm)
    have hm' : b'.kMutex_BulkTransfer ≠ some .uart :=
      fun hm => hin (huart ▸ hi'.uartLock.mp hm)
    have hout : b.outside = b.put .idle b.kMutex_BulkTransfer := by
      unfold Bulk.outside
      rw [if_neg hm]
      rfl
    have hout' : b'.outside = b'.put .idle b'.kMutex_BulkTransfer := by
      unfold Bulk.outside
      rw [if_neg hm']
      rfl
    rw [hout, hout']
    cases a with
    | call c => cases ha
    | uart env => cases ha
    | ret => cases ha
    | worker env =>
      rw [(workerStep_frame h).mutex]
      exact workerStep_put h
    | tail i =>
      have hmutex : b'.kMutex_BulkTransfer = b.kMutex_BulkTransfer := by rw [tailStep_frame h]
      rw [hmutex]
      exact tailStep_put h
    | handler env => exact handlerStep_put h

/-! ## §4. The steps of a rejected call. -/

/-- Nothing but the UART thread and the mutex changes. -/
def SameButUart (b b' : Bulk) : Prop := b' = b.put b'.uart b'.kMutex_BulkTransfer

/-- A step of `iSend_BulkTransferData`, unless it queues the frame or accounts for it. -/
theorem dataStep_rejected {x : MsgData} {pc : DataPc} (hu : b.uart = .data x pc)
    (h : dataStep env x pc b = some b') (hnot : ¬b'.uart.Queued) :
    SameButUart b b'
      ∧ (b'.kMutex_BulkTransfer = b.kMutex_BulkTransfer
        ∨ b.kMutex_BulkTransfer = none ∧ b'.kMutex_BulkTransfer = some .uart
        ∨ b'.kMutex_BulkTransfer = none ∧ b.uart.inSection = true) := by
  unfold dataStep at h
  cases pc with
  | lock =>
    simp only at h
    split at h
    · cases h
      exact ⟨rfl, Or.inl rfl⟩
    · split at h
      · rename_i hm
        cases h
        exact ⟨rfl, Or.inr (Or.inl ⟨hm, rfl⟩)⟩
      · split at h
        · cases h
          exact ⟨rfl, Or.inl rfl⟩
        · cases h
  | check | checkError =>
    simp only at h
    split at h
    all_goals
      cases h
      exact ⟨rfl, Or.inl rfl⟩
  | accept =>
    simp only at h
    split at h
    · cases h
      exact ⟨rfl, Or.inl rfl⟩
    split at h
    · cases h
      exact ⟨rfl, Or.inl rfl⟩
    split at h
    · cases h
      exact ⟨rfl, Or.inl rfl⟩
    split at h
    · cases h
      -- the branch that queues the frame is the one excluded
      exact absurd trivial hnot
    · cases h
      exact ⟨rfl, Or.inl rfl⟩
  | account =>
    cases h
    exact absurd rfl hnot
  | unlock iRet =>
    cases h
    refine ⟨rfl, Or.inr (Or.inr ⟨rfl, ?_⟩)⟩
    rw [hu]
    rfl

theorem dataStep_busy {x : MsgData} {pc : DataPc} (h : dataStep env x pc b = some b') :
    b'.uart.isIdle = false := by
  unfold dataStep at h
  cases pc with
  | lock | check | checkError | accept =>
    simp only at h
    repeat' split at h
    all_goals first | (cases h; rfl) | cases h
  | account | unlock iRet =>
    cases h
    rfl

theorem callReply_cons (hr : b.uart.reply = none) (h : b.step a = some b') :
    b.callReply (a :: as) = b'.callReply as := by
  rw [Bulk.callReply, hr, h]
  rfl

theorem outside_eq_self (hm : b.kMutex_BulkTransfer ≠ some .uart) (hu : b.uart = .idle) :
    b.outside = b := by
  unfold Bulk.outside
  rw [if_neg hm, ← hu]

theorem SameButUart.outside (h : SameButUart b b')
    (hm : b'.kMutex_BulkTransfer = b.kMutex_BulkTransfer
      ∨ b.kMutex_BulkTransfer = none ∧ b'.kMutex_BulkTransfer = some .uart
      ∨ b'.kMutex_BulkTransfer = none ∧ b.kMutex_BulkTransfer = some .uart) :
    b'.outside = b.outside := by
  have hmutex : (if b'.kMutex_BulkTransfer = some .uart then none else b'.kMutex_BulkTransfer)
      = if b.kMutex_BulkTransfer = some .uart then none else b.kMutex_BulkTransfer := by
    rcases hm with hm | ⟨hm, hm'⟩ | ⟨hm', hm⟩
    · rw [hm]
    · rw [hm, hm']
      rfl
    · rw [hm, hm']
      rfl
  unfold Bulk.outside
  rw [hmutex, h]
  rfl

/-- A step of a rejected call, and where the call stands before and after it. -/
theorem rejected_step (hi : Inv b) (h : b.step a = some b') (ha : a.isUart = true)
    (hrejects : b.rejects (a :: as) = true) :
    SameButUart b b' ∧ b.view (a :: as) = b'.view as := by
  have hi' := hi.step h
  have hview : b.view (a :: as) = if b.uart.isIdle then b else b.outside := by
    unfold Bulk.view
    rw [hrejects, Bool.and_true]
    cases b.uart.isIdle <;> rfl
  cases a with
  | worker env | tail i | handler env => cases ha
  | call c =>
    cases hu : b.uart with
    | start r pc | data m pc | end_ pc | returned reply =>
      simp [Bulk.step, Bulk.call, hu] at h
    | idle =>
      -- an idle UART thread holds no mutex, so the call starts from the state as it is
      have hm : b.kMutex_BulkTransfer ≠ some .uart := by
        intro hm
        have hin := hi.uartLock.mp hm
        rw [hu] at hin
        cases hin
      have hrest : b'.rejects as = true := by
        unfold Bulk.rejects at hrejects ⊢
        rwa [callReply_cons (by rw [hu]; rfl) h] at hrejects
      have hcall : b' = b.put c.entry b.kMutex_BulkTransfer := by
        simp only [Bulk.step, Bulk.call, hu, Option.some.injEq] at h
        exact h.symm
      have hsame : SameButUart b b' := by rw [hcall]; rfl
      refine ⟨hsame, ?_⟩
      have hout := hsame.outside (Or.inl (by rw [hcall]; rfl))
      rw [hview, hu]
      unfold Bulk.view
      have hbusy : b'.uart.isIdle = false := by rw [hcall]; cases c <;> rfl
      rw [hrest, hbusy]
      exact (outside_eq_self hm hu).symm.trans hout.symm
  | uart env =>
    cases hu : b.uart with
    | idle | returned reply => simp [Bulk.step, uartStep, hu] at h
    | start r pc | end_ pc =>
      -- a `START` or an `END` is no rejected data frame
      have hnot : b.rejects (.uart env :: as) = false := not_rejects_noData (by rw [hu]; trivial)
      rw [hnot] at hrejects
      cases hrejects
    | data x pc =>
      have hstep : dataStep env x pc b = some b' := by
        simpa only [Bulk.step, uartStep, hu] using h
      have hrest : b'.rejects as = true := by
        unfold Bulk.rejects at hrejects ⊢
        rwa [callReply_cons (by rw [hu]; rfl) h] at hrejects
      -- what is queued is accepted in the end, so a rejected call never queues
      have hnot : ¬b'.uart.Queued := by
        intro hqueued
        rw [not_rejects_queued hqueued] at hrest
        cases hrest
      obtain ⟨hsame, hm⟩ := dataStep_rejected hu hstep hnot
      refine ⟨hsame, ?_⟩
      have hout := hsame.outside (hm.imp_right fun hm => hm.imp_right fun hm =>
        ⟨hm.1, hi.uartLock.mpr hm.2⟩)
      rw [hview, hu]
      unfold Bulk.view
      rw [hrest, dataStep_busy hstep]
      exact hout.symm
  | ret =>
    cases hu : b.uart with
    | idle | start r pc | data m pc | end_ pc => simp [Bulk.step, Bulk.ret, hu] at h
    | returned reply =>
      have hret : b' = b.put .idle b.kMutex_BulkTransfer := by
        simp only [Bulk.step, Bulk.ret, hu, Option.some.injEq] at h
        exact h.symm
      have hsame : SameButUart b b' := by rw [hret]; rfl
      refine ⟨hsame, ?_⟩
      -- the call has given the mutex back before it returns
      have hm : b'.kMutex_BulkTransfer ≠ some .uart := by
        intro hm
        have hin := hi'.uartLock.mp hm
        rw [hret] at hin
        cases hin
      have hidle : b'.uart = .idle := by rw [hret]; rfl
      have hout := hsame.outside (Or.inl (by rw [hret]; rfl))
      rw [hview, hu]
      unfold Bulk.view
      rw [hidle]
      exact hout.symm.trans (outside_eq_self hm hidle)

theorem rejects_of_other (ha : a.isUart = false) (h : b.step a = some b') :
    b'.rejects as = b.rejects (a :: as) := by
  unfold Bulk.rejects
  have huart := uart_of_step ha h
  cases hr : b.uart.reply with
  | none => rw [callReply_cons hr h]
  | some reply =>
    have hr' : b'.uart.reply = some reply := huart ▸ hr
    have hb : b.callReply (a :: as) = some reply := by rw [Bulk.callReply, hr]
    have hb' : b'.callReply as = some reply := by
      cases as with
      | nil => exact hr'
      | cons a' as => rw [Bulk.callReply, hr']
    rw [hb, hb']

/-- A step of no rejected call. -/
theorem kept_step (hi : Inv b) (h : b.step a = some b')
    (hkept : rejectedStep b (a :: as) = false) :
    (b.view (a :: as)).step a = some (b'.view as) := by
  by_cases ha : a.isUart = true
  · have hnot : b.rejects (a :: as) = false := by
      simpa [rejectedStep, ha] using hkept
    have hview : b.view (a :: as) = b := by
      unfold Bulk.view
      rw [hnot, Bool.and_false]
      rfl
    have hview' : b'.view as = b' := by
      unfold Bulk.view
      cases hr : b.uart.reply with
      | none =>
        unfold Bulk.rejects at hnot ⊢
        rw [callReply_cons hr h] at hnot
        rw [hnot, Bool.and_false]
        rfl
      | some reply =>
        cases hu : b.uart with
        | idle | start r pc | data m pc | end_ pc => simp [hu, Uart.reply] at hr
        | returned reply =>
          cases a with
          | worker env | tail i | handler env => cases ha
          | call c => simp [Bulk.step, Bulk.call, hu] at h
          | uart env => simp [Bulk.step, uartStep, hu] at h
          | ret =>
            simp only [Bulk.step, Bulk.ret, hu, Option.some.injEq] at h
            rw [← h]
            rfl
    rw [hview, hview']
    exact h
  · have hother : a.isUart = false := Bool.eq_false_iff.mpr ha
    unfold Bulk.view
    rw [rejects_of_other hother h, uart_of_step hother h]
    split
    · exact outside_step hi hother h
    · exact h

/-! ## §5. All runs. -/

/-- **The run without the rejected calls** leads to the same state. -/
theorem foldlM_withoutRejected (hi : Inv b) (hrun : as.foldlM Bulk.step b = some b') :
    (withoutRejected b as).foldlM Bulk.step (b.view as) = some (b'.view []) := by
  refine TransSys.foldlM_erase Bulk.view (fun b a b' hi h => hi.step h) ?_ ?_ hi as hrun
  · intro b a as b' hi h hhidden
    obtain ⟨ha, hrejects⟩ := Bool.and_eq_true_iff.mp hhidden
    exact (rejected_step hi h ha hrejects).2
  · intro b a as b' hi h hkept
    exact kept_step hi h hkept

theorem view_nil (hi : Inv b') :
    b' = { b'.view [] with uart := b'.uart }
      ∧ (b'.uart.reply.any Reply.isRejection = false → b'.view [] = b') := by
  have hrejects : b'.rejects [] = b'.uart.reply.any Reply.isRejection := rfl
  unfold Bulk.view
  rw [hrejects]
  constructor
  · split
    · rename_i hview
      -- a call that has returned holds no mutex
      have hm : b'.kMutex_BulkTransfer ≠ some .uart := by
        intro hm
        have hin := hi.uartLock.mp hm
        cases hu : b'.uart with
        | returned reply =>
          rw [hu] at hin
          cases hin
        | idle | start r pc | data m pc | end_ pc => simp [hu, Uart.reply] at hview
      unfold Bulk.outside
      rw [if_neg hm]
    · rfl
  · intro hnot
    rw [hnot, Bool.and_false]
    rfl

/-! ## §6. The accepted size. -/

/-- What has been accepted, and what is queued but not accounted for, fits into the
file, whose size is a 32-bit number. -/
def AcceptedFits (b : Bulk) : Prop :=
  b.ctrl.uiAcceptedSize + (payload b.uart.pending).length ≤ b.ctrl.uiFileSize
    ∧ b.ctrl.uiFileSize < 4294967296

/-- The sizes and the pending frame are the same. -/
theorem AcceptedFits.same (hf : AcceptedFits b) (hpending : b'.uart.pending = b.uart.pending)
    (haccepted : b'.ctrl.uiAcceptedSize = b.ctrl.uiAcceptedSize)
    (hsize : b'.ctrl.uiFileSize = b.ctrl.uiFileSize) : AcceptedFits b' := by
  unfold AcceptedFits
  rw [hpending, haccepted, hsize]
  exact hf

theorem AcceptedFits.reset (hf : AcceptedFits b) (hpending : b.uart.pending = []) (p : ResetPc) :
    AcceptedFits (resetStep p b) := by
  cases p with
  | fields =>
    unfold AcceptedFits
    show 0 + (payload b.uart.pending).length ≤ 0 ∧ 0 < 4294967296
    rw [hpending]
    decide
  | abort | idle => exact hf

theorem AcceptedFits.startStep {r : BulkTransferData} {pc : StartPc} (hf : AcceptedFits b) (hi : Inv b)
    (hu : b.uart = .start r pc) (h : startStep env r pc b = some b') : AcceptedFits b' := by
  have hpending : b.uart.pending = [] := by rw [hu]; rfl
  have hat := hi.uartAt
  rw [hu] at hat
  unfold LittleFs.startStep at h
  cases pc with
  | lock | check | path | delete | create | open_ =>
    simp only at h
    repeat' split at h
    all_goals first | (cases h; exact hf.same hpending.symm rfl rfl) | cases h
  | reset p =>
    cases h
    exact (hf.reset hpending p).same (by cases p <;> exact hpending.symm) rfl rfl
  | setup =>
    cases h
    have hcleared : b.ctrl.uiAcceptedSize = 0 := hat.2.1.acceptedSize
    show b.ctrl.uiAcceptedSize + 0 ≤ r.uiFileSize ∧ r.uiFileSize < 4294967296
    exact ⟨by omega, r.size_lt⟩
  | openFailed | publish | startThread | unlock bResult =>
    cases h
    exact hf.same hpending.symm rfl rfl

theorem AcceptedFits.dataStep {x : MsgData} {pc : DataPc} (hf : AcceptedFits b)
    (hu : b.uart = .data x pc) (h : dataStep env x pc b = some b') : AcceptedFits b' := by
  unfold LittleFs.dataStep at h
  cases pc with
  | lock | check | checkError =>
    have hpending : b.uart.pending = [] := by rw [hu]; rfl
    simp only at h
    repeat' split at h
    all_goals first | (cases h; exact hf.same hpending.symm rfl rfl) | cases h
  | accept =>
    have hpending : b.uart.pending = [] := by rw [hu]; rfl
    simp only at h
    split at h
    · cases h
      exact hf.same hpending.symm rfl rfl
    split at h
    · cases h
      exact hf.same hpending.symm rfl rfl
    rename_i hfits
    split at h
    · cases h
      exact hf.same hpending.symm rfl rfl
    split at h
    · cases h
      -- the size check has been passed, so the pending payload still fits
      refine ⟨?_, hf.2⟩
      show b.ctrl.uiAcceptedSize + (payload [x]).length ≤ b.ctrl.uiFileSize
      have hlen : (payload [x]).length = x.uiDataLen := by
        simp [payload_cons, MsgData.uiDataLen]
      omega
    · cases h
      exact hf.same hpending.symm rfl rfl
  | account =>
    cases h
    obtain ⟨hfits, hsize⟩ := hf
    rw [hu] at hfits
    have hlen : (payload [x]).length = x.uiDataLen := by
      simp [payload_cons, MsgData.uiDataLen]
    have hpending : b.ctrl.uiAcceptedSize + (payload [x]).length ≤ b.ctrl.uiFileSize := hfits
    refine ⟨?_, hsize⟩
    show (b.ctrl.uiAcceptedSize + x.uiDataLen) % 4294967296 + 0 ≤ b.ctrl.uiFileSize
    -- the sum is at most the file size, which is a 32-bit value: it does not wrap
    rw [Nat.mod_eq_of_lt (by omega)]
    omega
  | unlock iRet =>
    have hpending : b.uart.pending = [] := by rw [hu]; rfl
    cases h
    exact hf.same hpending.symm rfl rfl

theorem AcceptedFits.endStep {pc : EndPc} (hf : AcceptedFits b) (hu : b.uart = .end_ pc)
    (h : endStep env pc b = some b') : AcceptedFits b' := by
  have hpending : b.uart.pending = [] := by rw [hu]; rfl
  unfold LittleFs.endStep at h
  cases pc with
  | lock st | check st | put | take | error | size | crc | sync | close | refresh | abort
    | failClose | failDelete =>
    simp only at h
    repeat' split at h
    all_goals first | (cases h; exact hf.same hpending.symm rfl rfl) | cases h
  | reset p res =>
    cases h
    exact (hf.reset hpending p).same (by cases p <;> exact hpending.symm) rfl rfl
  | entry | finalizing | setNone | setSuccess | setError e bExit | setFailed bExit | report
    | reportError st | unlock res =>
    cases h
    exact hf.same hpending.symm rfl rfl

theorem AcceptedFits.handlerStep (hf : AcceptedFits b) (hi : Inv b) (h : handlerStep env b = some b') :
    AcceptedFits b' := by
  have huart := handlerStep_uart h
  have hpending := congrArg Uart.pending huart
  unfold LittleFs.handlerStep at h
  cases hh : b.handler with
  | idle | lock | check | close | delete =>
    simp only [hh] at h
    repeat' split at h
    all_goals first | (cases h; exact hf.same hpending rfl rfl) | cases h
  | setFailed | unlock =>
    simp only [hh] at h
    cases h
    exact hf.same hpending rfl rfl
  | reset p =>
    have hin : b.handler.inSection = true := by rw [hh]; rfl
    have hnone := Uart.pending_outside (hi.uart_outside hin)
    simp only [hh] at h
    cases h
    exact (hf.reset hnone p).same (by cases p <;> rfl) rfl rfl

theorem AcceptedFits.step (hf : AcceptedFits b) (hi : Inv b) (h : b.step a = some b') : AcceptedFits b' := by
  cases a with
  | call c =>
    simp only [Bulk.step, Bulk.call] at h
    split at h
    · rename_i hu
      cases h
      exact hf.same (by rw [hu]; cases c <;> rfl) rfl rfl
    · cases h
  | uart env =>
    simp only [Bulk.step, uartStep] at h
    split at h
    · cases h
    · rename_i r pc hu
      exact hf.startStep hi hu h
    · rename_i m pc hu
      exact hf.dataStep hu h
    · rename_i pc hu
      exact hf.endStep hu h
    · cases h
  | ret =>
    simp only [Bulk.step, Bulk.ret] at h
    split at h
    · rename_i reply hu
      cases h
      exact hf.same (by rw [hu]; rfl) rfl rfl
    · cases h
  | worker env =>
    have hframe := workerStep_frame h
    exact hf.same (by rw [hframe.uart]) (by rw [hframe.ctrl]) (by rw [hframe.ctrl])
  | tail i =>
    have hframe := tailStep_frame h
    exact hf.same (by rw [hframe]) (by rw [hframe]) (by rw [hframe])
  | handler env => exact hf.handlerStep hi h

theorem acceptedFits_of_reachable (h : bulkSystem.Reachable b) : AcceptedFits b := by
  have hboth := TransSys.Reachable.invariant (I := fun b => Inv b ∧ AcceptedFits b)
    (by
      rintro b ⟨files, rfl⟩
      exact ⟨inv_boot files, by show 0 + 0 ≤ 0 ∧ 0 < 4294967296; decide⟩)
    (fun b a b' hi hst => ⟨hi.1.step hst, hi.2.step hi.1 hst⟩) h
  exact hboth.2

/-- **A rejected frame is a no-op.**  The accepted size never exceeds the file size, and
no addition to it wraps; a step of a rejected call changes nothing but the mutex; and
the run without the rejected calls leads to the same state. -/
theorem rejected_data_no_op :
    (∀ b, bulkSystem.Reachable b →
      b.ctrl.uiAcceptedSize ≤ b.ctrl.uiFileSize
        ∧ ∀ m, b.uart = .data m .account → b.ctrl.uiAcceptedSize + m.uiDataLen < 4294967296)
    ∧ (∀ b a as b', bulkSystem.Reachable b → b.step a = some b' →
      rejectedStep b (a :: as) = true → SameButUart b b')
    ∧ ∀ b as b', bulkSystem.Reachable b → b.uart = .idle → as.foldlM Bulk.step b = some b' →
      ∃ d, (withoutRejected b as).foldlM Bulk.step b = some d
        ∧ b' = { d with uart := b'.uart }
        ∧ (b'.uart.reply.any Reply.isRejection = false → d = b') := by
  refine ⟨fun b h => ?_, fun b a as b' h hst hrejected => ?_, fun b as b' h hidle hrun => ?_⟩
  · obtain ⟨hfits, hsize⟩ := acceptedFits_of_reachable h
    refine ⟨by omega, fun m hm => ?_⟩
    rw [hm] at hfits
    have hlen : (payload [m]).length = m.uiDataLen := by simp [payload_cons, MsgData.uiDataLen]
    have hpending : b.ctrl.uiAcceptedSize + (payload [m]).length ≤ b.ctrl.uiFileSize := hfits
    omega
  · obtain ⟨ha, hrejects⟩ := Bool.and_eq_true_iff.mp hrejected
    exact (rejected_step (inv_of_reachable h) hst ha hrejects).1
  · have herased := foldlM_withoutRejected (inv_of_reachable h) hrun
    have hview : b.view as = b := by
      unfold Bulk.view
      rw [hidle]
      rfl
    rw [hview] at herased
    have hreach : bulkSystem.Reachable b' := h.foldlM (fun _ _ _ h => h) as hrun
    exact ⟨_, herased, view_nil (inv_of_reachable hreach)⟩

theorem requestedSize_lt : 3 < 4294967296 := by decide

/-- A `START`, and a frame with the wrong identifier. -/
def wrongIdFrame : List Act :=
  let bytes : List UInt8 := [0x41, 0x42, 0x43]
  let crc := u16CRC16CCITTUpdate 0xFFFF bytes
  let uart := Act.uart (.healthy 3)
  [.call (.start ⟨1, ascii "a.bin", 3, crc, requestedSize_lt⟩)] ++ List.replicate 13 uart ++ [.ret]
    ++ [.call (.send ⟨1, bytes, crc⟩)] ++ List.replicate 5 uart ++ [.ret]

/-- Only the `START` is left of the run. -/
example : (withoutRejected (Bulk.boot fun _ => none) wrongIdFrame).length = 15 := by
  decide +kernel

theorem rejected_data_no_op_wrong_id :
    ∃ b', wrongIdFrame.foldlM Bulk.step (Bulk.boot fun _ => none) = some b'
      ∧ ∃ d, (withoutRejected (Bulk.boot fun _ => none) wrongIdFrame).foldlM Bulk.step
          (Bulk.boot fun _ => none) = some d
        ∧ b' = { d with uart := b'.uart }
        ∧ (b'.uart.reply.any Reply.isRejection = false → d = b') := by
  have hrun : (wrongIdFrame.foldlM Bulk.step (Bulk.boot fun _ => none)).isSome = true := by
    decide +kernel
  obtain ⟨b', hb⟩ := Option.isSome_iff_exists.mp hrun
  exact ⟨b', hb, rejected_data_no_op.2.2 _ _ _ (.init ⟨_, rfl⟩) rfl hb⟩

end WallController.LittleFs
