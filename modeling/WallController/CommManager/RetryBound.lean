/-
  WallController.CommManager.RetryBound
  ────────────────────────────────
  **HOW OFTEN A TRANSACTION IS RETRANSMITTED.**

  `stSubscribe_To_TransactionManager` counts the retransmissions of a
  transaction in 8 bits and compares after it has counted.  A limit of 255 is
  never passed: the counter is 0 again.  Every other limit holds, over all
  orders of timeouts, completions, answers of the host, refusals of the driver
  and re-subscriptions.

  Main results:
    * `step_op`: what the threads of the manager do to a slot.
    * `retransmission_bound`: the limit holds exactly when it is not 255.
-/
import WallController.CommManager.Sections

namespace WallController.CommManager

open WallController.Lib

/-! ## §1. One transaction. -/

/-- What a section does to a transaction that has been subscribed. -/
inductive SlotOp where
  /-- The tracking, with the answer of `bIsTimeOut`. -/
  | track (bIsTimeOut : Bool)
  /-- The subscription finds the transaction. -/
  | resubscribe (uiRevision : UInt8)
  /-- The retransmission was refused by the callback. -/
  | mark
  | complete (c : TxContext) (eResult : TxCompleteResult) (iDriverError : Int) (uiNow_ms : UInt64)
  /-- An ACK, a NACK or a format error of the host. -/
  | feedback (m : CtrlMsg) (eCMD : SysMgmtCommand)
  /-- `bManage_TransmissionError` for the message that was subscribed. -/
  | refuse (uiNow_ms : UInt64)
  /-- `vSetTransaction_Free`. -/
  | free
  deriving DecidableEq, Repr

/-- The slot after the section of a completion; it is freed later. -/
def Completed.slot (t : CmdTransaction) : Completed → CmdTransaction
  | .written t' => t'
  | .stale | .free _ => t

/-- The slot after `bManage_TransmissionError`, for the message that was subscribed. -/
def refuseTransaction (uiNow_ms : UInt64) (t : CmdTransaction) : CmdTransaction :=
  if t.eState = .waitingForTxCompletion then backOff uiNow_ms t else t

def SlotOp.apply (t : CmdTransaction) : SlotOp → CmdTransaction
  | .track bIsTimeOut => (trackTransaction bIsTimeOut t).1
  | .resubscribe uiRevision => (retransmit uiRevision t).1
  | .mark => (markFailed t).1
  | .complete c eResult iDriverError uiNow_ms =>
    (completeTransaction c eResult iDriverError uiNow_ms t).slot t
  | .feedback m eCMD => (handleFound m eCMD t).slot
  | .refuse uiNow_ms => refuseTransaction uiNow_ms t
  | .free => resetTransaction t

/-- Whether the operation retransmits: a re-subscription that puts the
transaction back into `WaitingFor_TxCompletion`. -/
def SlotOp.resent (t : CmdTransaction) : SlotOp → Nat
  | .resubscribe uiRevision => if (retransmit uiRevision t).2 = .none then 1 else 0
  | _ => 0

def runOps (t : CmdTransaction) (ops : List SlotOp) : CmdTransaction := ops.foldl SlotOp.apply t

/-- The number of retransmissions of a run. -/
def resends : CmdTransaction → List SlotOp → Nat
  | _, [] => 0
  | t, op :: ops => op.resent t + resends (op.apply t) ops

/-- The limit of the retransmissions of a transaction. -/
structure RetriesBounded (uiMaxRetryCount : UInt8) (t : CmdTransaction) : Prop where
  bound : ∀ ops, resends t ops ≤ uiMaxRetryCount.toNat
  /-- The re-subscription after the last one fails the transaction. -/
  next : ∀ ops uiRevision, resends t ops = uiMaxRetryCount.toNat →
    (runOps t ops).eState = .prepareRetransmit →
      (retransmit uiRevision (runOps t ops)).2 = .transactionMaxRetryReach
        ∧ (retransmit uiRevision (runOps t ops)).1.eState = .failed
        ∧ (retransmit uiRevision (runOps t ops)).1.eErrorCode = .transactionMaxRetryReach
  /-- A failed transaction is not retransmitted. -/
  final : ∀ ops ops', (runOps t ops).eState = .failed → resends (runOps t ops) ops' = 0

theorem runOps_append (t : CmdTransaction) (ops ops' : List SlotOp) :
    runOps t (ops ++ ops') = runOps (runOps t ops) ops' := List.foldl_append

theorem resends_append (t : CmdTransaction) (ops ops' : List SlotOp) :
    resends t (ops ++ ops') = resends t ops + resends (runOps t ops) ops' := by
  induction ops generalizing t with
  | nil =>
      show resends t ops' = 0 + resends t ops'
      omega
  | cons op ops ih =>
      show op.resent t + resends (op.apply t) (ops ++ ops')
        = op.resent t + resends (op.apply t) ops + resends (runOps (op.apply t) ops) ops'
      rw [ih]
      omega

/-! ## §2. What an operation can do. -/

/-- The transaction has come to its end, or is free. -/
def Settled (t : CmdTransaction) : Prop :=
  t.eState = .failed ∨ t.eState = .destACK ∨ t.eState = .free

theorem Settled.ne {t : CmdTransaction} {st : TransState} (h : Settled t) (hf : st ≠ .failed)
    (ha : st ≠ .destACK) (hfree : st ≠ .free) : t.eState ≠ st := by
  intro hst
  rcases h with h | h | h
  · exact hf (hst.symm.trans h)
  · exact ha (hst.symm.trans h)
  · exact hfree (hst.symm.trans h)

/-- The counter and the limit are as they were. -/
structure SameCounters (t t' : CmdTransaction) : Prop where
  count : t'.uiRetryCount = t.uiRetryCount
  limit : t'.uiMaxRetryCount = t.uiMaxRetryCount

theorem SameCounters.refl (t : CmdTransaction) : SameCounters t t := ⟨rfl, rfl⟩

/-- A write that is no retransmission: the counters are as they were, or the
transaction comes to its end; and what has come to its end stays so. -/
structure Unsent (t t' : CmdTransaction) : Prop where
  counters : SameCounters t t' ∨ Settled t'
  settled : Settled t → Settled t'

theorem Unsent.refl (t : CmdTransaction) : Unsent t t := ⟨Or.inl (.refl t), id⟩

/-- A write of a transaction that has not come to its end. -/
theorem Unsent.of_state {t t' : CmdTransaction} {st : TransState} (h : SameCounters t t')
    (hst : t.eState = st) (hf : st ≠ .failed) (ha : st ≠ .destACK) (hfree : st ≠ .free) :
    Unsent t t' :=
  ⟨Or.inl h, fun hs => absurd hst (hs.ne hf ha hfree)⟩

theorem track_unsent (b : Bool) (t : CmdTransaction) : Unsent t (trackTransaction b t).1 := by
  unfold trackTransaction
  split
  · exact .refl t
  · next h =>
    split
    · by_cases hack : t.eState = .waitingForACK
      · exact .of_state ⟨rfl, rfl⟩ hack (by decide) (by decide) (by decide)
      · have hqueued : t.eState = .queued := by
          by_contra hq
          exact h ⟨hack, hq⟩
        exact .of_state ⟨rfl, rfl⟩ hqueued (by decide) (by decide) (by decide)
    · exact .refl t

theorem markFailed_unsent (t : CmdTransaction) : Unsent t (markFailed t).1 := by
  unfold markFailed
  split
  · exact ⟨Or.inl ⟨rfl, rfl⟩, fun _ => Or.inl rfl⟩
  · exact .refl t

theorem complete_unsent (c : TxContext) (r : TxCompleteResult) (e : Int) (now : UInt64)
    (t : CmdTransaction) : Unsent t ((completeTransaction c r e now t).slot t) := by
  unfold completeTransaction
  split
  · exact .refl t
  · next hm =>
    have hst : t.eState = .waitingForTxCompletion := (not_not.mp hm).1
    split
    · split
      · exact .refl t
      · exact .of_state ⟨rfl, rfl⟩ hst (by decide) (by decide) (by decide)
    iterate 5
      · exact .of_state ⟨rfl, rfl⟩ hst (by decide) (by decide) (by decide)
    iterate 4
      · exact .refl t
    · split
      · exact .refl t
      · exact .refl t

theorem refuse_unsent (now : UInt64) (t : CmdTransaction) : Unsent t (refuseTransaction now t) := by
  unfold refuseTransaction
  split
  · next hst => exact .of_state ⟨rfl, rfl⟩ hst (by decide) (by decide) (by decide)
  · exact .refl t

theorem handleFound_unsent (m : CtrlMsg) (eCMD : SysMgmtCommand) (t : CmdTransaction) :
    Unsent t (handleFound m eCMD t).slot := by
  rcases handleFound_cases m eCMD t with ⟨hslot, -⟩ | ⟨e, st, hst, hslot, -⟩
  · rw [hslot]
    exact .refl t
  · rw [hslot]
    exact .of_state ⟨rfl, rfl⟩ hst (by decide) (by decide) (by decide)

/-- **What an operation does**: a re-subscription of a transaction to be
retransmitted counts, and nothing else does. -/
theorem SlotOp.apply_cases (op : SlotOp) (t : CmdTransaction) :
    (op.resent t = 0 ∧ Unsent t (op.apply t))
      ∨ ∃ uiRevision, op = .resubscribe uiRevision ∧ t.eState = .prepareRetransmit := by
  cases op with
  | track bIsTimeOut => exact Or.inl ⟨rfl, track_unsent bIsTimeOut t⟩
  | mark => exact Or.inl ⟨rfl, markFailed_unsent t⟩
  | feedback m eCMD => exact Or.inl ⟨rfl, handleFound_unsent m eCMD t⟩
  | free => exact Or.inl ⟨rfl, Or.inr (Or.inr (Or.inr rfl)), fun _ => Or.inr (Or.inr rfl)⟩
  | resubscribe uiRevision =>
      by_cases hst : t.eState = .prepareRetransmit
      · exact Or.inr ⟨uiRevision, rfl, hst⟩
      · have hrefused : retransmit uiRevision t = (t, .invalidRetransmitRequest) := if_pos hst
        left
        constructor
        · show (if (retransmit uiRevision t).2 = .none then 1 else 0) = 0
          rw [hrefused]
          rfl
        · show Unsent t (retransmit uiRevision t).1
          rw [hrefused]
          exact .refl t
  | complete c r e now => exact Or.inl ⟨rfl, complete_unsent c r e now t⟩
  | refuse now => exact Or.inl ⟨rfl, refuse_unsent now t⟩

/-! ## §3. Limits below 255. -/

/-- The transaction after `k` retransmissions. -/
structure Counted (m : UInt8) (k : Nat) (t : CmdTransaction) : Prop where
  le : k ≤ m.toNat
  counting : Settled t ∨ t.uiMaxRetryCount = m ∧ t.uiRetryCount.toNat = k

variable {m : UInt8} {k : Nat} {t : CmdTransaction}

/-- The re-subscription of a transaction that has been retransmitted `k` times. -/
theorem Counted.retransmit (h : Counted m k t) (hm : m ≠ 255) (hst : t.eState = .prepareRetransmit)
    (uiRevision : UInt8) :
    (k < m.toNat ∧ (retransmit uiRevision t).2 = .none
      ∧ (retransmit uiRevision t).1.uiMaxRetryCount = m
      ∧ (retransmit uiRevision t).1.uiRetryCount.toNat = k + 1)
    ∨ (k = m.toNat ∧ (CommManager.retransmit uiRevision t).2 = .transactionMaxRetryReach
      ∧ (CommManager.retransmit uiRevision t).1.eState = .failed
      ∧ (CommManager.retransmit uiRevision t).1.eErrorCode = .transactionMaxRetryReach) := by
  have hle := h.le
  have hlimit : m.toNat < 255 := by
    have hlt := m.toNat_lt
    have hne : m.toNat ≠ 255 := fun he => hm (UInt8.toNat_inj.mp he)
    omega
  rcases h.counting with hs | ⟨hmax, hcount⟩
  · exact absurd hst (hs.ne (by decide) (by decide) (by decide))
  have hnext : (t.uiRetryCount + 1).toNat = k + 1 := by
    rw [UInt8.toNat_add, hcount]
    show (k + 1) % 256 = k + 1
    omega
  unfold CommManager.retransmit
  rw [if_neg (not_not.mpr hst)]
  dsimp only
  by_cases hreach : t.uiRetryCount + 1 > t.uiMaxRetryCount
  · rw [if_pos hreach]
    rw [gt_iff_lt, UInt8.lt_iff_toNat_lt, hmax, hnext] at hreach
    exact Or.inr ⟨by omega, rfl, rfl, rfl⟩
  · rw [if_neg hreach]
    rw [gt_iff_lt, UInt8.lt_iff_toNat_lt, hmax, hnext] at hreach
    exact Or.inl ⟨by omega, rfl, hmax, hnext⟩

theorem Counted.step (h : Counted m k t) (hm : m ≠ 255) (op : SlotOp) :
    Counted m (k + op.resent t) (op.apply t) := by
  rcases op.apply_cases t with ⟨hnone, hunsent⟩ | ⟨uiRevision, rfl, hst⟩
  · rw [hnone]
    refine ⟨h.le, ?_⟩
    rcases h.counting with hs | ⟨hmax, hcount⟩
    · exact Or.inl (hunsent.settled hs)
    · rcases hunsent.counters with hsame | hs
      · exact Or.inr ⟨hsame.limit.trans hmax, (congrArg _ hsame.count).trans hcount⟩
      · exact Or.inl hs
  · show Counted m (k + if (CommManager.retransmit uiRevision t).2 = .none then 1 else 0)
      (CommManager.retransmit uiRevision t).1
    rcases h.retransmit hm hst uiRevision with ⟨hlt, hnone, hmax, hcount⟩ | ⟨-, herror, hfailed, -⟩
    · rw [if_pos hnone]
      exact ⟨hlt, Or.inr ⟨hmax, hcount⟩⟩
    · rw [herror, if_neg (by decide)]
      exact ⟨h.le, Or.inl (Or.inl hfailed)⟩

theorem Counted.run (h : Counted m k t) (hm : m ≠ 255) (ops : List SlotOp) :
    Counted m (k + resends t ops) (runOps t ops) := by
  induction ops generalizing k t with
  | nil => exact h
  | cons op ops ih =>
      show Counted m (k + (op.resent t + resends (op.apply t) ops)) (runOps (op.apply t) ops)
      rw [← Nat.add_assoc]
      exact ih (h.step hm op)

/-- What has come to its end is not retransmitted. -/
theorem Settled.resends (h : Settled t) (ops : List SlotOp) : resends t ops = 0 := by
  induction ops generalizing t with
  | nil => rfl
  | cons op ops ih =>
      show op.resent t + CommManager.resends (op.apply t) ops = 0
      rcases op.apply_cases t with ⟨hnone, hunsent⟩ | ⟨uiRevision, -, hst⟩
      · rw [hnone, ih (hunsent.settled h)]
      · exact absurd hst (h.ne (by decide) (by decide) (by decide))

/-! ## §4. The limit 255. -/

/-- A message times out in its mailbox, and is retransmitted after its timeout. -/
def mailboxRound (t : CmdTransaction) : List SlotOp :=
  [.complete (txContext 0 t) .mailboxTimeout 0 0, .track true, .resubscribe t.uiRevision]

/-- A transaction with the limit 255 that is sent. -/
structure Unlimited (t : CmdTransaction) : Prop where
  sent : t.eState = .waitingForTxCompletion
  limit : t.uiMaxRetryCount = 255

/-- The counter is not above 255, so the round retransmits. -/
theorem Unlimited.round (h : Unlimited t) :
    resends t (mailboxRound t) = 1 ∧ Unlimited (runOps t (mailboxRound t)) := by
  have hcomplete : completeTransaction (txContext 0 t) .mailboxTimeout 0 0 t
      = .written { t with uiStartTime_ms := 0, eState := .queued } :=
    if_neg (not_not.mpr ⟨h.sent, rfl, rfl, rfl⟩)
  have htrack : trackTransaction true { t with uiStartTime_ms := 0, eState := .queued }
      = ({ t with uiStartTime_ms := 0, eState := .prepareRetransmit }, true) := rfl
  have hle : ¬ t.uiRetryCount + 1 > t.uiMaxRetryCount := by
    have hlt := (t.uiRetryCount + 1).toNat_lt
    rw [h.limit, gt_iff_lt, UInt8.lt_iff_toNat_lt]
    show ¬ 255 < (t.uiRetryCount + 1).toNat
    omega
  have hsend : retransmit t.uiRevision { t with uiStartTime_ms := 0, eState := .prepareRetransmit }
      = ({ t with
          uiStartTime_ms := 0
          uiRetryCount := t.uiRetryCount + 1
          eErrorCode := .none
          eState := .waitingForTxCompletion }, .none) := if_neg hle
  have hfirst : (SlotOp.complete (txContext 0 t) .mailboxTimeout 0 0).apply t
      = { t with uiStartTime_ms := 0, eState := .queued } := by
    show (completeTransaction (txContext 0 t) .mailboxTimeout 0 0 t).slot t = _
    rw [hcomplete]
    rfl
  have hsecond : (SlotOp.track true).apply { t with uiStartTime_ms := 0, eState := .queued }
      = { t with uiStartTime_ms := 0, eState := .prepareRetransmit } := congrArg Prod.fst htrack
  unfold mailboxRound
  constructor
  · show 0 + (0 + (SlotOp.resent _ (.resubscribe t.uiRevision) + 0)) = 1
    rw [hfirst, hsecond]
    show 0 + (0 + ((if (retransmit t.uiRevision _).2 = .none then 1 else 0) + 0)) = 1
    rw [hsend]
    rfl
  · show Unlimited ((SlotOp.resubscribe t.uiRevision).apply ((SlotOp.track true).apply
      ((SlotOp.complete (txContext 0 t) .mailboxTimeout 0 0).apply t)))
    rw [hfirst, hsecond]
    show Unlimited (retransmit t.uiRevision _).1
    rw [hsend]
    exact ⟨rfl, h.limit⟩

/-- Any number of retransmissions. -/
theorem Unlimited.resends (h : Unlimited t) (n : Nat) : ∃ ops, resends t ops = n := by
  have hrun : ∃ ops, CommManager.resends t ops = n ∧ Unlimited (runOps t ops) := by
    induction n with
    | zero => exact ⟨[], rfl, h⟩
    | succ n ih =>
        obtain ⟨ops, hn, hops⟩ := ih
        obtain ⟨hone, hround⟩ := hops.round
        refine ⟨ops ++ mailboxRound (runOps t ops), ?_, ?_⟩
        · rw [resends_append, hn, hone]
        · rw [runOps_append]
          exact hround
  obtain ⟨ops, hn, -⟩ := hrun
  exact ⟨ops, hn⟩

theorem Unlimited.not_bounded (h : Unlimited t) : ¬ RetriesBounded 255 t := by
  intro hb
  obtain ⟨ops, hops⟩ := h.resends 256
  have hle : CommManager.resends t ops ≤ 255 := hb.bound ops
  omega

/-! ## §5. Every limit. -/

/-- **A subscribed transaction is retransmitted as often as its limit says, and
then fails for good, exactly when the limit is not 255.** -/
theorem retransmission_bound (q : Subscription) (uiRevision : UInt8) (t : CmdTransaction) :
    RetriesBounded q.uiMaxRetryCount (claimTransaction q uiRevision t)
      ↔ q.uiMaxRetryCount ≠ 255 := by
  constructor
  · intro hb hmax
    have hu : Unlimited (claimTransaction q uiRevision t) := ⟨rfl, hmax⟩
    rw [hmax] at hb
    exact hu.not_bounded hb
  · intro hm
    have hstart : Counted q.uiMaxRetryCount 0 (claimTransaction q uiRevision t) :=
      ⟨Nat.zero_le _, Or.inr ⟨rfl, rfl⟩⟩
    refine ⟨fun ops => ?_, fun ops rev hops hst => ?_, fun ops ops' hfailed => ?_⟩
    · have hle := (hstart.run hm ops).le
      omega
    · have hrun := hstart.run hm ops
      rcases hrun.retransmit hm hst rev with ⟨hlt, -⟩ | ⟨-, hfails⟩
      · omega
      · exact hfails
    · exact Settled.resends (Or.inl hfailed) ops'

/-- A transaction with the limit 255 is retransmitted 256 times. -/
theorem not_retries_bounded :
    ¬ RetriesBounded 255
      (claimTransaction ⟨eSysMgmt_CMD_Reserved_20, true, 255, 1000⟩ 1 .init) := by
  have hu : Unlimited (claimTransaction ⟨eSysMgmt_CMD_Reserved_20, true, 255, 1000⟩ 1 .init) :=
    ⟨rfl, rfl⟩
  exact hu.not_bounded

/-! ## §6. The threads. -/

section Threads

variable {ι : Type} [DecidableEq ι] {s s' : Comm ι}

/-- `bManage_TransmissionError` is called for a message that is still to be sent. -/
def RefusesSent (s : Comm ι) : Act ι → Prop
  | .manage t _ _ => ∀ i r, s.pc t = .refused i r → (s.slots i).eState = .waitingForTxCompletion
  | _ => True

omit [DecidableEq ι] in
theorem write_op (s : Comm ι) {i : Slot} {x : CmdTransaction} (op : SlotOp)
    (h : x = op.apply (s.slots i)) (j : Slot) :
    (s.write i x).slots j = s.slots j
      ∨ ∃ op : SlotOp, (s.write i x).slots j = op.apply (s.slots j) := by
  by_cases hj : j = i
  · subst hj
    rw [write_slot_self]
    exact Or.inr ⟨op, h⟩
  · exact Or.inl (write_slot_ne s x hj)

/-- **The threads of the manager do nothing else to a slot**: a step that does
not claim the slot leaves it, or is one of the operations on its transaction. -/
theorem step_op {lengths : PayloadLengths} {a : Act ι} (h : s.step lengths a = some s')
    (hclaim : ∀ t b, a ≠ .claim t b) (hrefused : RefusesSent s a) (j : Slot) :
    s'.slots j = s.slots j ∨ ∃ op : SlotOp, s'.slots j = op.apply (s.slots j) := by
  cases a with
  | subscribe t d b n ms =>
    obtain ⟨-, ⟨e, -, rfl⟩ | ⟨c, -, rfl⟩⟩ := subscribe_cases h
    · exact Or.inl rfl
    · exact Or.inl rfl
  | look t b =>
    obtain ⟨q, k, stage, l, -, ⟨p, -, rfl⟩ | ⟨hk, -, -, -, rfl⟩⟩ := look_cases h
    · exact Or.inl rfl
    · exact write_op s (.resubscribe (s.uiaRevision q.eCMD)) rfl j
  | claim t b => exact absurd rfl (hclaim t b)
  | stamp t b =>
    obtain ⟨i, g, -, rfl | rfl⟩ := stamp_cases h
    · exact Or.inl rfl
    · exact Or.inl rfl
  | submit t r =>
    obtain ⟨i, g, c, -, ⟨-, rfl⟩ | ⟨-, rfl⟩⟩ := submit_cases h
    · exact Or.inl rfl
    · exact Or.inl rfl
  | manage t b now =>
    obtain ⟨i, r, x, hpc, hx, rfl⟩ := manage_cases h
    -- `hrefused`: a refused transaction was waiting to be sent
    have hst := hrefused i r hpc
    cases hx with
    | queued _ _ now =>
      exact write_op (s.goto t _) (.refuse now) (if_pos hst).symm j
    | locked => exact Or.inl (congrFun (congrArg Comm.slots (write_same (s.goto t _) i)) j)
    | freed => exact write_op (s.goto t _) .free rfl j
    | left => exact Or.inl (congrFun (congrArg Comm.slots (write_same (s.goto t _) i)) j)
  | leave t =>
    obtain ⟨-, -, rfl⟩ := leave_cases h
    exact Or.inl rfl
  | complete t sub r e now =>
    obtain ⟨-, -, -, ⟨rfl, -⟩ | ⟨hk, -, ⟨x, hx, rfl⟩ | ⟨n, l, -, -, rfl⟩⟩⟩ := complete_cases h
    · exact Or.inl rfl
    · refine write_op { s with inFlight := s.inFlight.erase sub }
        (.complete sub.context r e now) ?_ j
      exact (congrArg (Completed.slot _) hx).symm
    · exact Or.inl rfl
  | free t =>
    obtain ⟨i, g, n, l, -, rfl⟩ := free_cases h
    exact write_op s .free rfl j
  | tell t =>
    obtain ⟨l, -, rfl⟩ := tell_cases h
    exact Or.inl rfl
  | receive f =>
    obtain ⟨-, rfl | ⟨m, c, rfl⟩⟩ := receive_cases h
    · exact Or.inl rfl
    · exact Or.inl rfl
  | find b =>
    obtain ⟨m, c, k, stage, -, rfl | ⟨k', stage', rfl⟩ | ⟨hk, rfl⟩⟩ := find_cases h
    · exact Or.inl rfl
    · exact Or.inl rfl
    -- the frame found is fed back to the transaction of the slot
    · exact write_op s (.feedback m c) rfl j
  | track b1 b2 =>
    obtain ⟨k, -, rfl | rfl | ⟨hk, rfl⟩⟩ := track_cases h
    · exact Or.inl rfl
    · exact Or.inl rfl
    · exact write_op s (.track b2) rfl j
  | answer b =>
    obtain ⟨i, -, -, rfl⟩ := answer_cases h
    exact Or.inl rfl
  | mark =>
    obtain ⟨i, -, rfl⟩ := mark_cases h
    exact write_op s .mark rfl j
  | report b =>
    obtain ⟨i, k, -, rfl⟩ := report_cases h
    exact Or.inl rfl
  | release =>
    obtain ⟨i, k, -, rfl⟩ := release_cases h
    exact write_op s .free rfl j
  | appFree i =>
    cases h
    exact write_op s .free rfl j
  | revise c v =>
    cases h
    -- a revision is no part of a slot
    obtain ⟨r, hr⟩ := revise_eq s c v
    rw [hr]
    exact Or.inl rfl

end Threads

end WallController.CommManager
