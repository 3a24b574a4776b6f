/-
  WallController.CommManager.Completion
  ────────────────────────────────
  **STALE COMPLETIONS.**

  `vNotify_MessageTxComplete` checks under the mutex that the slot holds the
  transaction of the completion, but some branches release the mutex before
  they free the slot; and `vSend_CANMessage` takes the context from the slot
  some time after the subscription.  A slot that is claimed anew in one of
  these two gaps is another transaction's.

  Main results:
    * `completion_touches_own`: in the runs without such a claim, a completion
      writes or frees a slot only in the generation it was submitted for.
    * `completion_frees_newer`: the slot is freed by the application and
      claimed anew between the check and the free.
-/
import WallController.CommManager.Sections

namespace WallController.CommManager

open WallController.Lib

variable {ι : Type} {s s' : Comm ι}

/-! ## §1. Whose slot a thread holds. -/

/-- A thread that will act on its slot without a further check of the
generation, or take the context from it, still has the slot in its generation. -/
def Pc.Current (s : Comm ι) : Pc → Prop
  | .subscribed i g => (s.slots i).uiGeneration = g
  | .submitting _ g c => c.uiGeneration = g
  | .freeing i g _ _ => (s.slots i).uiGeneration = g
  | _ => True

/-- The slot that a thread will free, or take the context of its message from. -/
def Pc.pending : Pc → Option Slot
  | .subscribed i _ => some i
  | .freeing i _ _ _ => some i
  | _ => none

/-- No slot is claimed while a completion is about to free it, or a message
about to take its context. -/
def ClaimsSettled (s : Comm ι) : Act ι → Prop
  | .claim t bLock => ∀ q i, s.Claims t bLock q i → ∀ t', (s.pc t').pending ≠ some i
  | _ => True

/-- What the steps of a completion may change: the slot that holds the
generation whose submission produced the completion. -/
def TouchesOwn (s : Comm ι) (a : Act ι) (s' : Comm ι) : Prop :=
  match a with
  | .complete _ sub _ _ _ =>
    ∀ i, s'.slots i ≠ s.slots i → (s.slots i).uiGeneration = sub.uiGeneration
  | .free t =>
    ∀ i, s'.slots i ≠ s.slots i →
      ∃ g bNotify bLost, s.pc t = .freeing i g bNotify bLost ∧ (s.slots i).uiGeneration = g
  | _ => True

structure CurrentInv (s : Comm ι) : Prop where
  threads : ∀ t, (s.pc t).Current s
  inFlight : ∀ sub ∈ s.inFlight, sub.context.uiGeneration = sub.uiGeneration

theorem CurrentInv.init : CurrentInv (Comm.init : Comm ι) :=
  ⟨fun _ => trivial, fun _ h => by cases h⟩

/-! ## §2. The steps. -/

/-- Only the generations matter. -/
theorem Pc.Current.congr {p : Pc} (h : p.Current s)
    (hg : ∀ j, (s'.slots j).uiGeneration = (s.slots j).uiGeneration) : p.Current s' := by
  cases p with
  | subscribed i g => exact (hg i).trans h
  | freeing i g n l => exact (hg i).trans h
  | submitting i g c => exact h
  | idle | searching | claiming | refused | finished | telling => exact trivial

theorem Looked.current {q : Subscription} {k : Nat} {bLocked : Bool} {p : Pc} {s₁ : Comm ι}
    (h : Looked s q k bLocked p) : p.Current s₁ := by
  cases h <;> trivial

variable [DecidableEq ι] {lengths : PayloadLengths}

/-- A step that claims no slot: the thread that takes it has to be looked at. -/
theorem CurrentInv.other {a : Act ι} (h : CurrentInv s) (hst : s.step lengths a = some s')
    (hclaim : ∀ t b, a ≠ .claim t b) (hnew : ∀ t, a.thread = some t → (s'.pc t).Current s')
    (hflight : ∀ sub ∈ s'.inFlight, sub.context.uiGeneration = sub.uiGeneration) :
    CurrentInv s' := by
  refine ⟨?_, hflight⟩
  intro t
  by_cases ht : a.thread = some t
  · exact hnew t ht
  · rw [step_pc_ne hst ht]
    exact (h.threads t).congr (step_generation hst hclaim)

/-- The section on the transaction found gives it to the thread. -/
theorem resubscribe_current (s : Comm ι) (t : Thread ι) (q : Subscription) (i : Slot) :
    ((s.resubscribe t q i).pc t).Current (s.resubscribe t q i) := by
  unfold Comm.resubscribe
  dsimp only
  rw [goto_pc_self]
  split
  · show (((s.write i _).goto t _).slots i).uiGeneration = _
    rw [goto_slots, write_slot_self]
  · trivial

theorem CurrentInv.claim {t : Thread ι} {bLock : Bool} (h : CurrentInv s)
    (hok : ClaimsSettled s (.claim t bLock)) (hst : s.claim t bLock = some s') :
    CurrentInv s' := by
  obtain ⟨q, k, hpc, rfl | rfl | ⟨hk, hclaims, rfl⟩⟩ := claim_cases hst
  · refine ⟨?_, h.inFlight⟩
    -- the try-lock failed, or the slot was not free: no slot is written
    intro t'
    by_cases ht : t' = t
    · subst ht
      rw [goto_pc_self]
      trivial
    · rw [goto_pc_ne _ _ ht]
      exact (h.threads t').congr fun _ => rfl
  · refine ⟨?_, h.inFlight⟩
    intro t'
    by_cases ht : t' = t
    · subst ht
      rw [goto_pc_self]
      trivial
    · rw [goto_pc_ne _ _ ht]
      exact (h.threads t').congr fun _ => rfl
  · refine ⟨?_, h.inFlight⟩
    intro t'
    by_cases ht : t' = t
    · subst ht
      rw [goto_pc_self]
      -- the claiming thread takes the generation it writes
      show (((s.write ⟨k, hk⟩ _).goto t' _).slots ⟨k, hk⟩).uiGeneration = _
      rw [goto_slots, write_slot_self]
      rfl
    · rw [goto_pc_ne _ _ ht, write_pc]
      -- nobody is about to submit or to free the slot claimed
      have hne : (s.pc t').pending ≠ some ⟨k, hk⟩ := hok q _ hclaims t'
      have hcur := h.threads t'
      generalize s.pc t' = p at hne hcur
      cases p with
      | subscribed i g =>
        have hi : i ≠ ⟨k, hk⟩ := fun heq => hne (congrArg some heq)
        show (((s.write ⟨k, hk⟩ _).goto t _).slots i).uiGeneration = g
        rw [goto_slots, write_slot_ne _ _ hi]
        exact hcur
      | freeing i g n l =>
        have hi : i ≠ ⟨k, hk⟩ := fun heq => hne (congrArg some heq)
        show (((s.write ⟨k, hk⟩ _).goto t _).slots i).uiGeneration = g
        rw [goto_slots, write_slot_ne _ _ hi]
        exact hcur
      | submitting i g c => exact hcur
      | idle | searching | claiming | refused | finished | telling => exact trivial

theorem CurrentInv.complete {t : Thread ι} {sub : Submission} {r : TxCompleteResult} {e : Int}
    {now : UInt64} (h : CurrentInv s)
    (hst : s.step lengths (.complete t sub r e now) = some s') : CurrentInv s' := by
  obtain ⟨-, hpc, hsub, hcases⟩ := complete_cases hst
  have hown := h.inFlight sub hsub
  have hflight : ∀ x ∈ s.inFlight.erase sub, x.context.uiGeneration = x.uiGeneration :=
    fun x hx => h.inFlight x (List.mem_of_mem_erase hx)
  refine h.other hst (fun _ _ => by simp) ?_ ?_
  · intro t' ht
    obtain rfl : t = t' := Option.some.inj ht
    rcases hcases with ⟨rfl, -⟩ | ⟨hk, hm, ⟨x, hx, rfl⟩ | ⟨n, l, hx, -, rfl⟩⟩
    · rw [show s.pc t = .idle from hpc]
      trivial
    · rw [write_pc, show s.pc t = .idle from hpc]
      trivial
    · rw [goto_pc_self]
      -- the thread that completes the submission frees the generation it has matched
      exact hm.2.2.1.trans hown
  · rcases hcases with ⟨rfl, -⟩ | ⟨hk, hm, ⟨x, hx, rfl⟩ | ⟨n, l, hx, -, rfl⟩⟩
    · exact hflight
    · exact hflight
    · exact hflight

theorem CurrentInv.step {a : Act ι} (h : CurrentInv s) (hok : ClaimsSettled s a)
    (hst : s.step lengths a = some s') : CurrentInv s' := by
  cases a with
  | claim t b => exact h.claim hok hst
  | complete t sub r e now => exact h.complete hst
  | subscribe t d b n ms =>
    obtain ⟨-, ⟨e, -, rfl⟩ | ⟨c, -, rfl⟩⟩ := subscribe_cases hst
    · refine h.other hst (fun _ _ => by simp) ?_ h.inFlight
      intro t' ht
      obtain rfl : t = t' := Option.some.inj ht
      rw [goto_pc_self]
      trivial
    · refine h.other hst (fun _ _ => by simp) ?_ h.inFlight
      intro t' ht
      obtain rfl : t = t' := Option.some.inj ht
      rw [goto_pc_self]
      trivial
  | look t b =>
    obtain ⟨q, k, stage, l, -, ⟨p, hp, rfl⟩ | ⟨hk, -, -, -, rfl⟩⟩ := look_cases hst
    · refine h.other hst (fun _ _ => by simp) ?_ h.inFlight
      intro t' ht
      obtain rfl : t = t' := Option.some.inj ht
      rw [goto_pc_self]
      exact hp.current
    · refine h.other hst (fun _ _ => by simp) ?_ h.inFlight
      intro t' ht
      obtain rfl : t = t' := Option.some.inj ht
      -- a re-subscription reads the generation of the slot it has found
      exact resubscribe_current ..
  | stamp t b =>
    obtain ⟨i, g, hpc, rfl | rfl⟩ := stamp_cases hst
    · refine h.other hst (fun _ _ => by simp) ?_ h.inFlight
      intro t' ht
      obtain rfl : t = t' := Option.some.inj ht
      rw [goto_pc_self]
      trivial
    · refine h.other hst (fun _ _ => by simp) ?_ h.inFlight
      intro t' ht
      obtain rfl : t = t' := Option.some.inj ht
      have hcur := h.threads t
      rw [hpc] at hcur
      rw [goto_pc_self]
      exact hcur
  | submit t r =>
    obtain ⟨i, g, c, hpc, ⟨-, rfl⟩ | ⟨-, rfl⟩⟩ := submit_cases hst
    · refine h.other hst (fun _ _ => by simp) ?_ ?_
      · intro t' ht
        obtain rfl : t = t' := Option.some.inj ht
        rw [goto_pc_self]
        trivial
      · intro sub hsub
        rcases List.mem_cons.mp hsub with rfl | hold
        · have hcur := h.threads t
          -- the submission carries the generation of the thread that submits it
          rw [hpc] at hcur
          exact hcur
        · exact h.inFlight sub hold
    · refine h.other hst (fun _ _ => by simp) ?_ h.inFlight
      intro t' ht
      obtain rfl : t = t' := Option.some.inj ht
      rw [goto_pc_self]
      trivial
  | manage t b now =>
    obtain ⟨i, r, x, -, -, rfl⟩ := manage_cases hst
    refine h.other hst (fun _ _ => by simp) ?_ h.inFlight
    intro t' ht
    obtain rfl : t = t' := Option.some.inj ht
    rw [write_pc, goto_pc_self]
    trivial
  | leave t =>
    obtain ⟨-, -, rfl⟩ := leave_cases hst
    refine h.other hst (fun _ _ => by simp) ?_ h.inFlight
    intro t' ht
    obtain rfl : t = t' := Option.some.inj ht
    rw [goto_pc_self]
    trivial
  | free t =>
    obtain ⟨i, g, n, l, -, rfl⟩ := free_cases hst
    refine h.other hst (fun _ _ => by simp) ?_ h.inFlight
    intro t' ht
    obtain rfl : t = t' := Option.some.inj ht
    rw [goto_pc_self]
    split <;> trivial
  | tell t =>
    obtain ⟨l, -, rfl⟩ := tell_cases hst
    refine h.other hst (fun _ _ => by simp) ?_ h.inFlight
    intro t' ht
    obtain rfl : t = t' := Option.some.inj ht
    rw [goto_pc_self]
    trivial
  | answer b =>
    obtain ⟨i, -, -, rfl⟩ := answer_cases hst
    refine h.other hst (fun _ _ => by simp) ?_ h.inFlight
    intro t' ht
    obtain rfl : Thread.manager = t' := Option.some.inj ht
    have hidle : (s.goto .manager .idle).pc .manager = .idle := goto_pc_self ..
    show ((s.goto .manager .idle).pc .manager).Current _
    rw [hidle]
    trivial
  | receive f =>
    -- the manager writes no generation and moves no other thread
    refine h.other hst (fun _ _ => by simp) (fun _ ht => by cases ht) ?_
    obtain ⟨-, rfl | ⟨m, c, rfl⟩⟩ := receive_cases hst
    · exact h.inFlight
    · exact h.inFlight
  | find b =>
    refine h.other hst (fun _ _ => by simp) (fun _ ht => by cases ht) ?_
    obtain ⟨m, c, k, stage, -, rfl | ⟨k', stage', rfl⟩ | ⟨hk, rfl⟩⟩ := find_cases hst
    · exact h.inFlight
    · exact h.inFlight
    · exact h.inFlight
  | track b1 b2 =>
    refine h.other hst (fun _ _ => by simp) (fun _ ht => by cases ht) ?_
    obtain ⟨k, -, rfl | rfl | ⟨hk, rfl⟩⟩ := track_cases hst
    · exact h.inFlight
    · exact h.inFlight
    · exact h.inFlight
  | mark =>
    refine h.other hst (fun _ _ => by simp) (fun _ ht => by cases ht) ?_
    obtain ⟨i, -, rfl⟩ := mark_cases hst
    exact h.inFlight
  | report b =>
    refine h.other hst (fun _ _ => by simp) (fun _ ht => by cases ht) ?_
    obtain ⟨i, k, -, rfl⟩ := report_cases hst
    exact h.inFlight
  | release =>
    refine h.other hst (fun _ _ => by simp) (fun _ ht => by cases ht) ?_
    obtain ⟨i, k, -, rfl⟩ := release_cases hst
    exact h.inFlight
  | appFree i =>
    refine h.other hst (fun _ _ => by simp) (fun _ ht => by cases ht) ?_
    cases hst
    exact h.inFlight
  | revise c v =>
    refine h.other hst (fun _ _ => by simp) (fun _ ht => by cases ht) ?_
    cases hst
    obtain ⟨r, hr⟩ := revise_eq s c v
    rw [hr]
    exact h.inFlight

/-! ## §3. All runs. -/

/-- A completion whose thread is current touches its own generation. -/
theorem CurrentInv.touchesOwn {a : Act ι} (h : CurrentInv s)
    (hst : s.step lengths a = some s') : TouchesOwn s a s' := by
  cases a with
  | complete t sub r e now =>
    intro i hne
    obtain ⟨-, -, hsub, hcases⟩ := complete_cases hst
    rcases hcases with ⟨rfl, -⟩ | ⟨hk, hm, ⟨x, hx, rfl⟩ | ⟨n, l, hx, -, rfl⟩⟩
    · exact absurd rfl hne
    · by_cases hi : i = ⟨_, hk⟩
      · subst hi
        exact hm.2.2.1.trans (h.inFlight sub hsub)
      · exact absurd (write_slot_ne _ _ hi) hne
    · exact absurd rfl hne
  | free t =>
    intro i hne
    obtain ⟨j, g, n, l, hpc, rfl⟩ := free_cases hst
    rw [goto_slots] at hne
    by_cases hi : i = j
    · subst hi
      refine ⟨g, n, l, hpc, ?_⟩
      have hcur := h.threads t
      rw [hpc] at hcur
      exact hcur
    · exact absurd (write_slot_ne _ _ hi) hne
  | subscribe | look | claim | stamp | submit | manage | leave | tell | receive | find | track
  | answer | mark | report | release | appFree | revise => exact trivial

/-- **A completion touches its own transaction.**  In every run in which no
slot is claimed while a completion is about to free it, or a message about to
take its context, `vNotify_MessageTxComplete` writes or frees a slot only while
the slot holds the generation whose submission produced the completion. -/
theorem completion_touches_own (h : (commSystem ι lengths).ReachableVia ClaimsSettled s)
    (a : Act ι) (s' : Comm ι) (hst : (commSystem ι lengths).step s a s') : TouchesOwn s a s' := by
  have hi : CurrentInv s := by
    refine TransSys.ReachableVia.invariant (I := CurrentInv) ?_ ?_ h
    · rintro s rfl
      exact CurrentInv.init
    · intro s a s' hi hok hst
      exact hi.step hok hst
  exact hi.touchesOwn hst

theorem free_eq {t : Thread ι} {i : Slot} {g : UInt32} {n l : Bool}
    (h : s.pc t = .freeing i g n l) : s.step lengths (.free t)
      = some ((s.write i (resetTransaction (s.slots i))).goto t
        (if n = true then .telling l else .idle)) := by
  show s.free t = _
  unfold Comm.free
  rw [h]

/-- No thread refers to a slot when one is claimed. -/
def ClaimsFirst (s : Comm Unit) : Act Unit → Prop
  | .claim .. => (s.pc .manager).pending = none ∧ (s.pc (.app ())).pending = none
  | _ => True

instance (s : Comm Unit) : DecidablePred (ClaimsFirst s)
  | .claim .. => inferInstanceAs (Decidable (_ ∧ _))
  | .subscribe .. | .look .. | .stamp .. | .submit .. | .manage .. | .leave _ | .complete ..
  | .free _ | .tell _ | .receive _ | .find _ | .track .. | .answer _ | .mark | .report _
  | .release | .appFree _ | .revise .. => .isTrue trivial

theorem ClaimsFirst.settled {s : Comm Unit} {a : Act Unit} (h : ClaimsFirst s a) :
    ClaimsSettled s a := by
  cases a with
  | claim t b =>
    intro q i _ t' hpend
    cases t' with
    | manager => exact absurd (h.1.symm.trans hpend) (by simp)
    | app i => exact absurd (h.2.symm.trans hpend) (by simp)
  | subscribe | look | stamp | submit | manage | leave | complete | free | tell | receive | find
  | track | answer | mark | report | release | appFree | revise => exact trivial

/-- The submission of the command 20 in the first slot, in its first generation. -/
def firstSubmission : Submission := ⟨⟨1, 20, 0, 0⟩, 1⟩

/-- A thread sends the command 20; its completion finds an invalid frame and
is about to free the slot. -/
def failedMessage {ι : Type} (t : Thread ι) : List (Act ι) :=
  subscribeCommand t 20 ++ [Act.claim t true, Act.stamp t false, Act.submit t .queued,
    Act.leave t, Act.complete t firstSubmission .invalidFrame 0 0]

/-- The completion frees the slot in the generation it belongs to. -/
theorem completion_touches_first :
    ∃ s s' : Comm Unit, s.step none (.free (.app ())) = some s'
      ∧ s'.slots firstSlot ≠ s.slots firstSlot ∧ TouchesOwn s (.free (.app ())) s' := by
  have hrun : (((failedMessage (.app ())).foldlM (TransSys.guarded ClaimsFirst (Comm.step none))
      Comm.init).map fun s => decide (s.pc (.app ()) = .freeing firstSlot 1 true true
        ∧ (s.slots firstSlot).eState = .waitingForTxCompletion)) = some true := by
    decide +kernel
  obtain ⟨s, hs, hfacts⟩ := Option.map_eq_some_iff.mp hrun
  obtain ⟨hpc, hstate⟩ := of_decide_eq_true hfacts
  have hreach : (commSystem Unit none).ReachableVia ClaimsSettled s :=
    TransSys.ReachableVia.foldlM (fun _ _ _ h => ⟨(TransSys.guarded_some h).1.settled,
      (TransSys.guarded_some h).2⟩) (.init rfl) _ hs
  have hst : s.step none (.free (.app ())) = _ := free_eq hpc
  refine ⟨s, _, hst, ?_, completion_touches_own hreach _ _ hst⟩
  intro heq
  rw [goto_slots, write_slot_self] at heq
  rw [← heq] at hstate
  cases hstate

/-- The application frees the slot, and another thread claims it anew. -/
def claimedAnew : List (Act Bool) :=
  failedMessage (.app false) ++ [.appFree firstSlot] ++ subscribeCommand (.app true) 20
    ++ [.claim (.app true) true]

/-- The completion of the first generation frees the second. -/
theorem completion_frees_newer :
    ¬ ∀ s : Comm Bool, (commSystem Bool none).Reachable s →
      ∀ a s', (commSystem Bool none).step s a s' → TouchesOwn s a s' := by
  intro h
  have hrun : ((claimedAnew.foldlM (Comm.step none) Comm.init).map fun s =>
      decide (s.pc (.app false) = .freeing firstSlot 1 true true
        ∧ (s.slots firstSlot).eState = .waitingForTxCompletion
        ∧ (s.slots firstSlot).uiGeneration = 2)) = some true := by
    decide +kernel
  obtain ⟨s, hs, hfacts⟩ := Option.map_eq_some_iff.mp hrun
  obtain ⟨hpc, hstate, hgen⟩ := of_decide_eq_true hfacts
  have hreach : (commSystem Bool none).Reachable s :=
    TransSys.Reachable.foldlM (fun _ _ _ h => h) (.init rfl) _ hs
  have hne : ((s.write firstSlot (resetTransaction (s.slots firstSlot))).goto (.app false)
      (.telling true)).slots firstSlot ≠ s.slots firstSlot := by
    intro heq
    rw [goto_slots, write_slot_self] at heq
    rw [← heq] at hstate
    cases hstate
  obtain ⟨g, n, l, hpc', hg⟩ := h s hreach _ _ (free_eq hpc) firstSlot hne
  rw [hpc] at hpc'
  cases hpc'
  exact absurd (hgen.symm.trans hg) (by decide)

end WallController.CommManager
