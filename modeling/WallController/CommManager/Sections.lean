/-
  WallController.CommManager.Sections
  ────────────────────────────────
  **WHAT THE SECTIONS KEEP.**

  Only the claim of a free slot starts a transaction.  Every other section
  leaves the generation of the slot, and a slot that is live after it was live
  before, with the same command (`Kept`); the exception is
  `bManage_TransmissionError`, which queues the slot whatever it holds.

  Main results:
    * `step_generation`: the generation changes by a claim only.
    * `step_kept`: the other steps keep every slot.
    * `look_cases`, `claim_cases`: the ways a search and a claim go on.
-/
import WallController.CommManager.Threads

namespace WallController.CommManager

open WallController.Bootloader (CanFrame CAN_MSG_MAX_SIZE)
open WallController.Lib

/-! ## §1. One slot. -/

/-- The same transaction, or none. -/
structure Kept (t t' : CmdTransaction) : Prop where
  generation : t'.uiGeneration = t.uiGeneration
  command : t'.Live → t.Live ∧ t'.eCommand = t.eCommand

theorem Kept.refl (t : CmdTransaction) : Kept t t := ⟨rfl, fun h => ⟨h, rfl⟩⟩

/-- A write of a live slot to another live state. -/
theorem Kept.of_live {t t' : CmdTransaction} (hg : t'.uiGeneration = t.uiGeneration)
    (hc : t'.eCommand = t.eCommand) (h : t.Live) : Kept t t' :=
  ⟨hg, fun _ => ⟨h, hc⟩⟩

theorem live_of_state {t : CmdTransaction} {st : TransState} (h : t.eState = st)
    (hf : st ≠ .free) (hi : st ≠ .invalid) : t.Live := by
  constructor
  · rw [h]; exact hf
  · rw [h]; exact hi

theorem reset_kept (t : CmdTransaction) : Kept t (resetTransaction t) :=
  ⟨rfl, fun h => absurd rfl h.1⟩

theorem retransmit_kept (rev : UInt8) (t : CmdTransaction) : Kept t (retransmit rev t).1 := by
  unfold retransmit
  split
  · exact .refl t
  · next h =>
    have hlive : t.Live := live_of_state (not_not.mp h) (by decide) (by decide)
    dsimp only
    split
    · exact .of_live rfl rfl hlive
    · exact .of_live rfl rfl hlive

theorem complete_kept {c : TxContext} {r : TxCompleteResult} {e : Int} {now : UInt64}
    {t t' : CmdTransaction} (h : completeTransaction c r e now t = .written t') : Kept t t' := by
  unfold completeTransaction at h
  split at h
  · cases h
  · next hm =>
    have hlive : t.Live := live_of_state (not_not.mp hm).1 (by decide) (by decide)
    split at h
    · split at h
      · cases h
      · cases h
        exact .of_live rfl rfl hlive
    iterate 5
      · cases h
        exact .of_live rfl rfl hlive
    iterate 4
      · cases h
    · split at h
      · cases h
      · cases h
        exact .refl _

theorem track_kept (b : Bool) (t : CmdTransaction) : Kept t (trackTransaction b t).1 := by
  unfold trackTransaction
  split
  · exact .refl t
  · next h =>
    split
    · refine .of_live rfl rfl ?_
      by_cases hack : t.eState = .waitingForACK
      · exact live_of_state hack (by decide) (by decide)
      · have hq : t.eState = .queued := by
          by_contra hq
          exact h ⟨hack, hq⟩
        exact live_of_state hq (by decide) (by decide)
    · exact .refl t

theorem markFailed_kept (t : CmdTransaction) : Kept t (markFailed t).1 := by
  unfold markFailed
  split
  · next h => exact .of_live rfl rfl (live_of_state h (by decide) (by decide))
  · exact .refl t

/-- Where a frame does something to a transaction, that waits for its ACK. -/
theorem handleFound_cases (m : CtrlMsg) (eCMD : SysMgmtCommand) (t : CmdTransaction) :
    ((handleFound m eCMD t).slot = t ∧ (handleFound m eCMD t).report = false)
      ∨ ∃ e st, t.eState = .waitingForACK
        ∧ (handleFound m eCMD t).slot = { t with eErrorCode := e, eState := st }
        ∧ ((st = .waitingForACK ∧ (handleFound m eCMD t).report = false)
          ∨ ((st = .failed ∨ st = .destACK) ∧ (handleFound m eCMD t).report = true)) := by
  -- the checks in the order of the two handlers; a failed one leaves the slot
  unfold handleFound
  split
  · unfold ackMonitor
    split
    · exact Or.inl ⟨rfl, rfl⟩
    · split
      · exact Or.inl ⟨rfl, rfl⟩
      · next hst =>
        have hst : t.eState = .waitingForACK := not_not.mp hst
        split
        · exact Or.inl ⟨rfl, rfl⟩
        · split
          · exact Or.inl ⟨rfl, rfl⟩
          · split
            · exact Or.inl ⟨rfl, rfl⟩
            · next e _ =>
              split
              · exact Or.inl ⟨rfl, rfl⟩
              · split
                · exact Or.inr ⟨e, .failed, hst, rfl, Or.inr ⟨Or.inl rfl, rfl⟩⟩
                · dsimp only
                  split
                  · exact Or.inr ⟨e, .destACK, hst, rfl, Or.inr ⟨Or.inr rfl, rfl⟩⟩
                  · unfold notifyHostNACK
                    split
                    · refine Or.inr ⟨e, .waitingForACK, hst, ?_, Or.inl ⟨rfl, rfl⟩⟩
                      -- a retry is left, and the NACK is not final: the transaction goes on waiting
                      rw [← hst]
                      rfl
                    · exact Or.inr ⟨e, .failed, hst, rfl, Or.inr ⟨Or.inl rfl, rfl⟩⟩
  · unfold handleInvalidMsgFormat
    split
    · exact Or.inl ⟨rfl, rfl⟩
    · split
      · exact Or.inl ⟨rfl, rfl⟩
      · next hst =>
        have hst : t.eState = .waitingForACK := not_not.mp hst
        split
        · exact Or.inl ⟨rfl, rfl⟩
        · next e _ =>
          split
          · exact Or.inl ⟨rfl, rfl⟩
          · exact Or.inr ⟨e, .failed, hst, rfl, Or.inr ⟨Or.inl rfl, rfl⟩⟩

theorem handleFound_kept (m : CtrlMsg) (eCMD : SysMgmtCommand) (t : CmdTransaction) :
    Kept t (handleFound m eCMD t).slot := by
  rcases handleFound_cases m eCMD t with ⟨hs, -⟩ | ⟨e, st, hst, hs, -⟩
  · rw [hs]
    exact .refl t
  · rw [hs]
    exact .of_live rfl rfl (live_of_state hst (by decide) (by decide))

/-! ## §2. The table. -/

variable {ι : Type} {s s' : Comm ι} {t : Thread ι} {i j : Slot}

@[simp] theorem write_pc (s : Comm ι) (i : Slot) (x : CmdTransaction) :
    (s.write i x).pc = s.pc := rfl
@[simp] theorem write_manager (s : Comm ι) (i : Slot) (x : CmdTransaction) :
    (s.write i x).manager = s.manager := rfl
@[simp] theorem write_inFlight (s : Comm ι) (i : Slot) (x : CmdTransaction) :
    (s.write i x).inFlight = s.inFlight := rfl
@[simp] theorem write_slots (s : Comm ι) (i : Slot) (x : CmdTransaction) :
    (s.write i x).slots = Function.update s.slots i x := rfl

theorem write_slot_self (s : Comm ι) (i : Slot) (x : CmdTransaction) :
    (s.write i x).slots i = x := Function.update_self ..

theorem write_slot_ne (s : Comm ι) {i j : Slot} (x : CmdTransaction) (h : j ≠ i) :
    (s.write i x).slots j = s.slots j := Function.update_of_ne h ..

theorem write_same (s : Comm ι) (i : Slot) : s.write i (s.slots i) = s := by
  unfold Comm.write
  rw [Function.update_eq_self, if_neg (by simp)]

theorem write_kept {x : CmdTransaction} (h : Kept (s.slots i) x) (j : Slot) :
    Kept (s.slots j) ((s.write i x).slots j) := by
  by_cases hj : j = i
  · subst hj
    rw [write_slot_self]
    exact h
  · rw [write_slot_ne _ _ hj]
    exact .refl _

variable [DecidableEq ι]

@[simp] theorem goto_slots (s : Comm ι) (t : Thread ι) (p : Pc) :
    (s.goto t p).slots = s.slots := rfl
@[simp] theorem goto_manager (s : Comm ι) (t : Thread ι) (p : Pc) :
    (s.goto t p).manager = s.manager := rfl
@[simp] theorem goto_inFlight (s : Comm ι) (t : Thread ι) (p : Pc) :
    (s.goto t p).inFlight = s.inFlight := rfl

theorem goto_pc_self (s : Comm ι) (t : Thread ι) (p : Pc) : (s.goto t p).pc t = p :=
  Function.update_self ..

theorem goto_pc_ne (s : Comm ι) {t t' : Thread ι} (p : Pc) (h : t' ≠ t) :
    (s.goto t p).pc t' = s.pc t' := Function.update_of_ne h ..

/-! ## §3. Searching and claiming. -/

/-- How a search goes on without taking a mutex for good. -/
inductive Looked (s : Comm ι) (q : Subscription) (k : Nat) (bLocked : Bool) : Pc → Prop
  /-- The slot looked at is not the one. -/
  | passed (hk : k < MAX_NUMBER_OF_TRANSACTION_TRACKINGs)
      (hnot : ¬ ((s.slots ⟨k, hk⟩).Live ∧ (s.slots ⟨k, hk⟩).eCommand = q.eCMD)) :
      Looked s q k bLocked (.searching q (k + 1) .state bLocked)
  | timedOut : Looked s q k bLocked (.searching q (k + 1) .state true)
  | onward (stage : Stage) : Looked s q k bLocked (.searching q k stage bLocked)
  | locked : Looked s q k bLocked (.finished .transactionLocked)
  /-- All slots were passed. -/
  | absent (hk : MAX_NUMBER_OF_TRANSACTION_TRACKINGs ≤ k) (hfree : bLocked = false) :
      Looked s q k bLocked (.claiming q 0)

/-- The ways a step of the search goes on. -/
theorem look_cases {bLock : Bool} (h : s.look t bLock = some s') :
    ∃ q k stage bLocked, s.pc t = .searching q k stage bLocked
      ∧ ((∃ p, Looked s q k bLocked p ∧ s' = s.goto t p)
        ∨ ∃ hk, (stage = .lock ∧ bLock = true) ∧ (s.slots ⟨k, hk⟩).Live
          ∧ (s.slots ⟨k, hk⟩).eCommand = q.eCMD ∧ s' = s.resubscribe t q ⟨k, hk⟩) := by
  unfold Comm.look at h
  split at h
  · next q k stage bLocked hpc =>
    refine ⟨q, k, stage, bLocked, hpc, ?_⟩
    split at h
    · next hk =>
      cases stage with
      | state =>
        dsimp only at h
        split at h
        · exact Or.inl ⟨_, .onward _, (Option.some.inj h).symm⟩
        · next hnot =>
          exact Or.inl ⟨_, .passed hk fun h' => hnot h'.1, (Option.some.inj h).symm⟩
      | command =>
        dsimp only at h
        split at h
        · exact Or.inl ⟨_, .onward _, (Option.some.inj h).symm⟩
        · next hnot =>
          exact Or.inl ⟨_, .passed hk fun h' => hnot h'.2, (Option.some.inj h).symm⟩
      | lock =>
        dsimp only at h
        split at h
        · exact Or.inl ⟨_, .timedOut, (Option.some.inj h).symm⟩
        · next hlock =>
          split at h
          · next hfound =>
            exact Or.inr ⟨hk, ⟨rfl, Bool.of_not_eq_false hlock⟩, hfound.1, hfound.2,
              (Option.some.inj h).symm⟩
          · next hnot => exact Or.inl ⟨_, .passed hk hnot, (Option.some.inj h).symm⟩
    · next hk =>
      split at h
      · exact Or.inl ⟨_, .locked, (Option.some.inj h).symm⟩
      · next hfree =>
        exact Or.inl ⟨_, .absent (Nat.le_of_not_lt hk) (Bool.eq_false_iff.mpr hfree),
          (Option.some.inj h).symm⟩
  · cases h

/-- The ways a step of `pstClaimFreeTransaction` goes on. -/
theorem claim_cases {bLock : Bool} (h : s.claim t bLock = some s') :
    ∃ q k, s.pc t = .claiming q k
      ∧ (s' = s.goto t (.claiming q (k + 1)) ∨ s' = s.goto t (.finished .noFreeTransaction)
        ∨ ∃ hk, s.Claims t bLock q ⟨k, hk⟩
          ∧ s' = (s.write ⟨k, hk⟩ (claimTransaction q (s.uiaRevision q.eCMD)
              (s.slots ⟨k, hk⟩))).goto t
            (.subscribed ⟨k, hk⟩ (nextGeneration (s.slots ⟨k, hk⟩).uiGeneration))) := by
  unfold Comm.claim at h
  split at h
  · next q k hpc =>
    refine ⟨q, k, hpc, ?_⟩
    split at h
    · next hk =>
      split at h
      · next hfree => exact Or.inr (Or.inr ⟨hk, ⟨hpc, hfree⟩, (Option.some.inj h).symm⟩)
      · exact Or.inl (Option.some.inj h).symm
    · exact Or.inr (Or.inl (Option.some.inj h).symm)
  · cases h

/-! ## §4. The other steps of a thread. -/

theorem subscribe_cases {puiData : Option (List UInt8)} {bIsACKReq : Bool} {n : UInt8}
    {ms : UInt64} (h : s.subscribe t puiData bIsACKReq n ms = some s') :
    s.Ready t ∧ ((∃ e, e ≠ .none ∧ s' = s.goto t (.finished e))
      ∨ ∃ eCMD, checkSubscription puiData = .ok eCMD
        ∧ s' = s.goto t (.searching ⟨eCMD, bIsACKReq, n, ms⟩ 0 .state false)) := by
  unfold Comm.subscribe at h
  split at h
  · next hready =>
    refine ⟨hready, ?_⟩
    split at h
    · next e he =>
      refine Or.inl ⟨e, ?_, (Option.some.inj h).symm⟩
      unfold checkSubscription at he
      split at he
      · cases he; decide
      · cases he; decide
      · split at he
        · cases he; decide
        · cases he
    · next eCMD he => exact Or.inr ⟨eCMD, he, (Option.some.inj h).symm⟩
  · cases h

theorem stamp_cases {bIsCANStopped : Bool} (h : s.stamp t bIsCANStopped = some s') :
    ∃ i g, s.pc t = .subscribed i g
      ∧ (s' = s.goto t (.refused i .busUnavailable)
        ∨ s' = s.goto t (.submitting i g (txContext i (s.slots i)))) := by
  unfold Comm.stamp at h
  split at h
  · next i g hpc =>
    refine ⟨i, g, hpc, ?_⟩
    split at h
    · exact Or.inl (Option.some.inj h).symm
    · exact Or.inr (Option.some.inj h).symm
  · cases h

theorem submit_cases {r : TxSubmitResult} (h : s.submit t r = some s') :
    ∃ i g c, s.pc t = .submitting i g c
      ∧ ((r = .queued
          ∧ s' = ({ s with inFlight := ⟨c, g⟩ :: s.inFlight } : Comm ι).goto t (.finished .none))
        ∨ (r ≠ .queued ∧ s' = s.goto t (.refused i r))) := by
  unfold Comm.submit at h
  split at h
  · next i g c hpc =>
    refine ⟨i, g, c, hpc, ?_⟩
    split at h
    · next hr => exact Or.inl ⟨hr, (Option.some.inj h).symm⟩
    · next hr => exact Or.inr ⟨hr, (Option.some.inj h).symm⟩
  · cases h

/-- What `bManage_TransmissionError` does to the slot. -/
inductive Managed (t : CmdTransaction) : TxSubmitResult → Bool → CmdTransaction → Prop
  | queued (r : TxSubmitResult) (hr : r = .busUnavailable ∨ r = .queueFull) (now : UInt64) :
      Managed t r true (backOff now t)
  | locked (r : TxSubmitResult) (hr : r = .busUnavailable ∨ r = .queueFull) : Managed t r false t
  | freed (b : Bool) : Managed t .invalidMsg b (resetTransaction t)
  | left (r : TxSubmitResult) (hr : r = .queued ∨ ∃ code, r = .other code) (b : Bool) :
      Managed t r b t

theorem manage_cases {bLock : Bool} {now : UInt64} (h : s.manage t bLock now = some s') :
    ∃ i r x, s.pc t = .refused i r ∧ Managed (s.slots i) r bLock x
      ∧ s' = (s.goto t (.finished .none)).write i x := by
  unfold Comm.manage at h
  split at h
  · next i r hpc =>
    have hsame : s.goto t (.finished .none)
        = (s.goto t (.finished .none)).write i (s.slots i) := (write_same _ i).symm
    cases r with
    | busUnavailable =>
      cases bLock with
      | false => exact ⟨i, _, _, hpc, .locked _ (Or.inl rfl), (Option.some.inj h).symm.trans hsame⟩
      | true => exact ⟨i, _, _, hpc, .queued _ (Or.inl rfl) now, (Option.some.inj h).symm⟩
    | queueFull =>
      cases bLock with
      | false => exact ⟨i, _, _, hpc, .locked _ (Or.inr rfl), (Option.some.inj h).symm.trans hsame⟩
      | true => exact ⟨i, _, _, hpc, .queued _ (Or.inr rfl) now, (Option.some.inj h).symm⟩
    | invalidMsg => exact ⟨i, _, _, hpc, .freed bLock, (Option.some.inj h).symm⟩
    | queued => exact ⟨i, _, _, hpc, .left _ (Or.inl rfl) _, (Option.some.inj h).symm.trans hsame⟩
    | other code =>
      exact ⟨i, _, _, hpc, .left _ (Or.inr ⟨code, rfl⟩) _, (Option.some.inj h).symm.trans hsame⟩
  · cases h

theorem leave_cases (h : s.leave t = some s') :
    t ≠ .manager ∧ (∃ e, s.pc t = .finished e) ∧ s' = s.goto t .idle := by
  unfold Comm.leave at h
  split at h
  · next e hpc => exact ⟨by simp, ⟨e, hpc⟩, (Option.some.inj h).symm⟩
  · cases h

/-- A completion is taken from the driver and ignored, or it writes the slot
it matches, or leaves it to be freed. -/
theorem complete_cases {sub : Submission} {r : TxCompleteResult} {e : Int} {now : UInt64}
    (h : s.complete t sub r e now = some s') :
    t ≠ .manager ∧ s.pc t = .idle ∧ sub ∈ s.inFlight
      ∧ ((s' = { s with inFlight := s.inFlight.erase sub }
          ∧ (sub.context.uiGeneration = 0
            ∨ ∀ h : sub.context.uiTransactionIndex < MAX_NUMBER_OF_TRANSACTION_TRACKINGs,
              ¬ Matches (s.slots ⟨_, h⟩) sub.context))
        ∨ ∃ hk : sub.context.uiTransactionIndex < MAX_NUMBER_OF_TRANSACTION_TRACKINGs,
          Matches (s.slots ⟨_, hk⟩) sub.context
          ∧ ((∃ x, completeTransaction sub.context r e now (s.slots ⟨_, hk⟩) = .written x
              ∧ s' = ({ s with inFlight := s.inFlight.erase sub } : Comm ι).write ⟨_, hk⟩ x)
            ∨ ∃ bNotify bLost,
              completeTransaction sub.context r e now (s.slots ⟨_, hk⟩) = .free bNotify
              ∧ bLost = ((s.slots ⟨_, hk⟩).bIsACKRequired && decide (r ≠ .success))
              ∧ s' = ({ s with
                  inFlight := s.inFlight.erase sub
                  drops := if bLost = true then Function.update s.drops t (s.drops t + 1)
                    else s.drops } : Comm ι).goto t
                (.freeing ⟨_, hk⟩ sub.uiGeneration bNotify bLost))) := by
  unfold Comm.complete at h
  split at h
  · next hpre =>
    refine ⟨hpre.1, hpre.2.1, hpre.2.2, ?_⟩
    dsimp only at h
    split at h
    · next hg => exact Or.inl ⟨(Option.some.inj h).symm, Or.inl hg⟩
    · split at h
      · next hk =>
        -- a completion that is not stale has matched the generation of its slot
        have hstale : ∀ x, completeTransaction sub.context r e now (s.slots ⟨_, hk⟩) = x →
            x ≠ .stale → Matches (s.slots ⟨_, hk⟩) sub.context := by
          intro x hx hne
          by_contra hm
          unfold completeTransaction at hx
          rw [if_pos hm] at hx
          exact hne hx.symm
        split at h
        · next hx =>
          refine Or.inl ⟨(Option.some.inj h).symm, Or.inr fun _ hm => ?_⟩
          -- stale: the section returned at the check of the generation
          unfold completeTransaction at hx
          rw [if_neg (not_not.mpr hm)] at hx
          split at hx
          · split at hx <;> cases hx
          iterate 9
            · cases hx
          · split at hx <;> cases hx
        · next x hx =>
          exact Or.inr ⟨hk, hstale _ hx (by simp), Or.inl ⟨x, hx, (Option.some.inj h).symm⟩⟩
        · next b hx =>
          exact Or.inr ⟨hk, hstale _ hx (by simp),
            Or.inr ⟨b, _, hx, rfl, (Option.some.inj h).symm⟩⟩
      · next hk =>
        exact Or.inl ⟨(Option.some.inj h).symm, Or.inr fun hlt => absurd hlt hk⟩
  · cases h

theorem free_cases (h : s.free t = some s') :
    ∃ i g bNotify bLost, s.pc t = .freeing i g bNotify bLost
      ∧ s' = (s.write i (resetTransaction (s.slots i))).goto t
        (if bNotify = true then .telling bLost else .idle) := by
  unfold Comm.free at h
  split at h
  · next i g n l hpc => exact ⟨i, g, n, l, hpc, (Option.some.inj h).symm⟩
  · cases h

theorem tell_cases (h : s.tell t = some s') :
    ∃ bLost, s.pc t = .telling bLost
      ∧ s' = ({ s with
        failures := if bLost = true then Function.update s.failures t (s.failures t + 1)
          else s.failures } : Comm ι).goto t .idle := by
  unfold Comm.tell at h
  split at h
  · next l hpc => exact ⟨l, hpc, (Option.some.inj h).symm⟩
  · cases h

/-! ## §5. The steps of the manager thread. -/

omit [DecidableEq ι] in
theorem receive_cases {lengths : PayloadLengths} {f : Option Bootloader.CanFrame}
    (h : s.receive lengths f = some s') :
    s.manager = .waiting ∧ (s' = { s with manager := .tracking 0 }
      ∨ ∃ m eCMD, s' = { s with manager := .finding m eCMD 0 .state }) := by
  unfold Comm.receive at h
  split at h
  · next hw =>
    refine ⟨hw, ?_⟩
    split at h
    · exact Or.inl (Option.some.inj h).symm
    · split at h
      · exact Or.inl (Option.some.inj h).symm
      · exact Or.inl (Option.some.inj h).symm
      · next m eCMD _ => exact Or.inr ⟨m, eCMD, (Option.some.inj h).symm⟩
  · cases h

omit [DecidableEq ι] in
theorem find_cases {bLock : Bool} (h : s.find bLock = some s') :
    ∃ m eCMD k stage, s.manager = .finding m eCMD k stage
      ∧ (s' = { s with manager := .tracking 0 }
        ∨ (∃ k' stage', s' = { s with manager := .finding m eCMD k' stage' })
        ∨ ∃ hk : k < MAX_NUMBER_OF_TRANSACTION_TRACKINGs, s' = s.handle m eCMD ⟨k, hk⟩) := by
  unfold Comm.find at h
  split at h
  · next m eCMD k stage hm =>
    refine ⟨m, eCMD, k, stage, hm, ?_⟩
    split at h
    · next hk =>
      cases stage with
      | state =>
        dsimp only at h
        split at h
        · exact Or.inr (Or.inl ⟨_, _, (Option.some.inj h).symm⟩)
        · exact Or.inr (Or.inl ⟨_, _, (Option.some.inj h).symm⟩)
      | command =>
        dsimp only at h
        split at h
        · exact Or.inr (Or.inl ⟨_, _, (Option.some.inj h).symm⟩)
        · exact Or.inr (Or.inl ⟨_, _, (Option.some.inj h).symm⟩)
      | lock =>
        dsimp only at h
        split at h
        · exact Or.inr (Or.inr ⟨hk, (Option.some.inj h).symm⟩)
        · exact Or.inr (Or.inl ⟨_, _, (Option.some.inj h).symm⟩)
    · exact Or.inl (Option.some.inj h).symm
  · cases h

omit [DecidableEq ι] in
theorem track_cases {bLock b : Bool} (h : s.track bLock b = some s') :
    ∃ k, s.manager = .tracking k
      ∧ (s' = { s with manager := .waiting } ∨ s' = { s with manager := .tracking (k + 1) }
        ∨ ∃ hk : k < MAX_NUMBER_OF_TRANSACTION_TRACKINGs,
          s' = { s.write ⟨k, hk⟩ (trackTransaction b (s.slots ⟨k, hk⟩)).1 with
            manager := if (trackTransaction b (s.slots ⟨k, hk⟩)).2 = true then
              .retransmitting ⟨k, hk⟩ else .tracking (k + 1) }) := by
  unfold Comm.track at h
  split at h
  · next k hm =>
    refine ⟨k, hm, ?_⟩
    split at h
    · next hk =>
      split at h
      · exact Or.inr (Or.inr ⟨hk, (Option.some.inj h).symm⟩)
      · exact Or.inr (Or.inl (Option.some.inj h).symm)
    · exact Or.inl (Option.some.inj h).symm
  · cases h

theorem answer_cases {b : Bool} (h : s.answer b = some s') :
    ∃ i, s.manager = .retransmitting i
      ∧ (s.pc .manager = .idle ∨ ∃ e, s.pc .manager = .finished e)
      ∧ s' = { s.goto .manager .idle with
          manager := if b = true then .tracking (i + 1) else .marking i } := by
  unfold Comm.answer at h
  split at h
  · next i hm hpc => exact ⟨i, hm, Or.inl hpc, (Option.some.inj h).symm⟩
  · next i e hm hpc => exact ⟨i, hm, Or.inr ⟨e, hpc⟩, (Option.some.inj h).symm⟩
  · cases h

omit [DecidableEq ι] in
theorem mark_cases (h : s.mark = some s') :
    ∃ i, s.manager = .marking i
      ∧ s' = { s.write i (markFailed (s.slots i)).1 with
          manager := if (markFailed (s.slots i)).2 = true then .reporting i (i + 1)
            else .tracking (i + 1) } := by
  unfold Comm.mark at h
  split at h
  · next i hm => exact ⟨i, hm, (Option.some.inj h).symm⟩
  · cases h

omit [DecidableEq ι] in
theorem report_cases {b : Bool} (h : s.report b = some s') :
    ∃ i k, s.manager = .reporting i k
      ∧ s' = { s with
          manager := if b = true then .releasing i k else .tracking k
          results := Function.update s.results i (s.results i + 1) } := by
  unfold Comm.report at h
  split at h
  · next i k hm => exact ⟨i, k, hm, (Option.some.inj h).symm⟩
  · cases h

omit [DecidableEq ι] in
theorem release_cases (h : s.release = some s') :
    ∃ i k, s.manager = .releasing i k
      ∧ s' = { s.write i (resetTransaction (s.slots i)) with manager := .tracking k } := by
  unfold Comm.release at h
  split at h
  · next i k hm => exact ⟨i, k, hm, (Option.some.inj h).symm⟩
  · cases h

omit [DecidableEq ι] in
theorem revise_eq (s : Comm ι) (eCMD : SysMgmtCommand) (v : UInt8) :
    ∃ r, s.revise eCMD v = { s with uiaRevision := r } := by
  unfold Comm.revise
  split
  · exact ⟨s.uiaRevision, rfl⟩
  · exact ⟨_, rfl⟩

/-! ## §6. Any step. -/

/-- The steps that neither claim a slot nor manage a refusal keep every slot. -/
theorem step_kept {lengths : PayloadLengths} {a : Act ι} (h : s.step lengths a = some s')
    (hclaim : ∀ t b, a ≠ .claim t b) (hmanage : ∀ t b now, a ≠ .manage t b now) (j : Slot) :
    Kept (s.slots j) (s'.slots j) := by
  -- case by case through the inversion lemmas; only the steps that write a slot say something
  cases a with
  | subscribe t d b n ms =>
    obtain ⟨-, ⟨e, -, rfl⟩ | ⟨c, -, rfl⟩⟩ := subscribe_cases h
    · exact .refl _
    · exact .refl _
  | look t b =>
    obtain ⟨q, k, stage, l, -, ⟨p, -, rfl⟩ | ⟨hk, -, -, -, rfl⟩⟩ := look_cases h
    · exact .refl _
    · exact write_kept (retransmit_kept _ _) j
  | claim t b => exact absurd rfl (hclaim t b)
  | stamp t b =>
    obtain ⟨i, g, -, rfl | rfl⟩ := stamp_cases h
    · exact .refl _
    · exact .refl _
  | submit t r =>
    obtain ⟨i, g, c, -, ⟨-, rfl⟩ | ⟨-, rfl⟩⟩ := submit_cases h
    · exact .refl _
    · exact .refl _
  | manage t b now => exact absurd rfl (hmanage t b now)
  | leave t =>
    obtain ⟨-, -, rfl⟩ := leave_cases h
    exact .refl _
  | complete t sub r e now =>
    obtain ⟨-, -, -, ⟨rfl, -⟩ | ⟨hk, -, ⟨x, hx, rfl⟩ | ⟨n, l, -, -, rfl⟩⟩⟩ := complete_cases h
    · exact .refl _
    · exact write_kept (complete_kept hx) j
    · exact .refl _
  | free t =>
    obtain ⟨i, g, n, l, -, rfl⟩ := free_cases h
    exact write_kept (reset_kept _) j
  | tell t =>
    obtain ⟨l, -, rfl⟩ := tell_cases h
    exact .refl _
  | receive f =>
    obtain ⟨-, rfl | ⟨m, c, rfl⟩⟩ := receive_cases h
    · exact .refl _
    · exact .refl _
  | find b =>
    obtain ⟨m, c, k, stage, -, rfl | ⟨k', stage', rfl⟩ | ⟨hk, rfl⟩⟩ := find_cases h
    · exact .refl _
    · exact .refl _
    · exact write_kept (handleFound_kept _ _ _) j
  | track b1 b2 =>
    obtain ⟨k, -, rfl | rfl | ⟨hk, rfl⟩⟩ := track_cases h
    · exact .refl _
    · exact .refl _
    · exact write_kept (track_kept _ _) j
  | answer b =>
    obtain ⟨i, -, -, rfl⟩ := answer_cases h
    exact .refl _
  | mark =>
    obtain ⟨i, -, rfl⟩ := mark_cases h
    exact write_kept (markFailed_kept _) j
  | report b =>
    obtain ⟨i, k, -, rfl⟩ := report_cases h
    exact .refl _
  | release =>
    obtain ⟨i, k, -, rfl⟩ := release_cases h
    exact write_kept (reset_kept _) j
  | appFree i =>
    cases h
    exact write_kept (reset_kept _) j
  | revise c v =>
    cases h
    obtain ⟨r, hr⟩ := revise_eq s c v
    rw [hr]
    exact .refl _

/-- The generation of a slot changes when the slot is claimed, and never else. -/
theorem step_generation {lengths : PayloadLengths} {a : Act ι} (h : s.step lengths a = some s')
    (hclaim : ∀ t b, a ≠ .claim t b) (j : Slot) :
    (s'.slots j).uiGeneration = (s.slots j).uiGeneration := by
  by_cases hmanage : ∀ t b now, a ≠ .manage t b now
  · exact (step_kept h hclaim hmanage j).generation
  · push Not at hmanage
    obtain ⟨t, b, now, rfl⟩ := hmanage
    obtain ⟨i, r, x, -, hx, rfl⟩ := manage_cases h
    -- a refusal keeps the generation too
    have hg : x.uiGeneration = (s.slots i).uiGeneration := by
      cases hx <;> rfl
    by_cases hj : j = i
    · subst hj
      rw [write_slot_self]
      exact hg
    · rw [write_slot_ne _ _ hj]
      rfl

/-- The threads other than the one that takes the step stand where they stood. -/
def Act.thread : Act ι → Option (Thread ι)
  | .subscribe t _ _ _ _ | .look t _ | .claim t _ | .stamp t _ | .submit t _ | .manage t _ _
  | .leave t | .complete t _ _ _ _ | .free t | .tell t => some t
  | .answer _ => some .manager
  | .receive _ | .find _ | .track _ _ | .mark | .report _ | .release | .appFree _
  | .revise _ _ => none

theorem step_pc_ne {lengths : PayloadLengths} {a : Act ι} (h : s.step lengths a = some s')
    (hne : a.thread ≠ some t) : s'.pc t = s.pc t := by
  -- each step moves its own thread, if any
  have hother : ∀ (s : Comm ι) (t' : Thread ι) (p : Pc), some t' ≠ some t →
      (s.goto t' p).pc t = s.pc t :=
    fun s t' p hne => goto_pc_ne s p fun heq => hne (congrArg some heq.symm)
  cases a with
  | subscribe t' d b n ms =>
    obtain ⟨-, ⟨e, -, rfl⟩ | ⟨c, -, rfl⟩⟩ := subscribe_cases h
    · exact hother _ _ _ hne
    · exact hother _ _ _ hne
  | look t' b =>
    obtain ⟨q, k, stage, l, -, ⟨p, -, rfl⟩ | ⟨hk, -, -, -, rfl⟩⟩ := look_cases h
    · exact hother _ _ _ hne
    · exact hother _ _ _ hne
  | claim t' b =>
    obtain ⟨q, k, -, rfl | rfl | ⟨hk, -, rfl⟩⟩ := claim_cases h
    · exact hother _ _ _ hne
    · exact hother _ _ _ hne
    · exact hother _ _ _ hne
  | stamp t' b =>
    obtain ⟨i, g, -, rfl | rfl⟩ := stamp_cases h
    · exact hother _ _ _ hne
    · exact hother _ _ _ hne
  | submit t' r =>
    obtain ⟨i, g, c, -, ⟨-, rfl⟩ | ⟨-, rfl⟩⟩ := submit_cases h
    · exact hother _ _ _ hne
    · exact hother _ _ _ hne
  | manage t' b now =>
    obtain ⟨i, r, x, -, -, rfl⟩ := manage_cases h
    exact hother _ _ _ hne
  | leave t' =>
    obtain ⟨-, -, rfl⟩ := leave_cases h
    exact hother _ _ _ hne
  | complete t' sub r e now =>
    obtain ⟨-, -, -, ⟨rfl, -⟩ | ⟨hk, -, ⟨x, hx, rfl⟩ | ⟨n, l, -, -, rfl⟩⟩⟩ := complete_cases h
    · rfl
    · rfl
    · exact hother _ _ _ hne
  | free t' =>
    obtain ⟨i, g, n, l, -, rfl⟩ := free_cases h
    exact hother _ _ _ hne
  | tell t' =>
    obtain ⟨l, -, rfl⟩ := tell_cases h
    exact hother _ _ _ hne
  | receive f =>
    obtain ⟨-, rfl | ⟨m, c, rfl⟩⟩ := receive_cases h
    · rfl
    · rfl
  | find b =>
    obtain ⟨m, c, k, stage, -, rfl | ⟨k', stage', rfl⟩ | ⟨hk, rfl⟩⟩ := find_cases h
    · rfl
    · rfl
    · rfl
  | track b1 b2 =>
    obtain ⟨k, -, rfl | rfl | ⟨hk, rfl⟩⟩ := track_cases h
    · rfl
    · rfl
    · rfl
  | answer b =>
    obtain ⟨i, -, -, rfl⟩ := answer_cases h
    exact hother _ _ _ hne
  | mark =>
    obtain ⟨i, -, rfl⟩ := mark_cases h
    rfl
  | report b =>
    obtain ⟨i, k, -, rfl⟩ := report_cases h
    rfl
  | release =>
    obtain ⟨i, k, -, rfl⟩ := release_cases h
    rfl
  | appFree i =>
    cases h
    rfl
  | revise c v =>
    cases h
    obtain ⟨r, hr⟩ := revise_eq s c v
    rw [hr]

/-! ## §7. The run of one subscription. -/

/-- A thread subscribes the command up to its claim: it passes the free slots
of an empty table. -/
def subscribeCommand {ι : Type} (t : Thread ι) (eCMD : SysMgmtCommand) : List (Act ι) :=
  Act.subscribe t (some [eCMD]) true 3 100 :: List.replicate 21 (Act.look t true)

def firstSlot : Slot := ⟨0, by decide⟩
def secondSlot : Slot := ⟨1, by decide⟩

/-- A frame with these bytes. -/
def frameOf (d : List UInt8) (h : d.length ≤ CAN_MSG_MAX_SIZE) : CanFrame where
  dlc := d.length
  data := d ++ List.replicate (CAN_MSG_MAX_SIZE - d.length) 0
  length_data := by
    rw [List.length_append, List.length_replicate]
    omega

end WallController.CommManager
