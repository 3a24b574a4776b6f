/-
  WallController.CommManager.OneTransaction
  ────────────────────────────────
  **ONE LIVE TRANSACTION PER COMMAND.**

  A subscription looks at the slots one after the other and only then claims a
  free one.  What it has seen stays true, unless another subscription of the
  same command claims a slot that it has already passed.

  Main results:
    * `one_transaction_per_command`: in the runs without such a claim, two
      live slots have different commands, for any number of threads.
    * `two_transactions_one_command`: two threads that subscribe the same
      command at the same time get two slots.
-/
import WallController.CommManager.Sections

namespace WallController.CommManager

open WallController.Lib

variable {ι : Type} {s s' : Comm ι}

/-! ## §1. What a subscription has seen. -/

/-- The slot holds a live transaction of the command. -/
def Holds (s : Comm ι) (eCMD : SysMgmtCommand) (j : Slot) : Prop :=
  (s.slots j).Live ∧ (s.slots j).eCommand = eCMD

/-- No slot below `n` holds a live transaction of the command. -/
def Absent (s : Comm ι) (eCMD : SysMgmtCommand) (n : Nat) : Prop :=
  ∀ j : Slot, j.val < n → ¬ Holds s eCMD j

/-- The command and the number of slots that a subscription has seen without
it; a search that met a locked slot ends without a claim, and counts for none. -/
def Pc.seen : Pc → Option (SysMgmtCommand × Nat)
  | .searching q k _ false => some (q.eCMD, k)
  | .claiming q _ => some (q.eCMD, MAX_NUMBER_OF_TRANSACTION_TRACKINGs)
  | _ => none

/-- Two slots hold no live transactions of one command. -/
def OnePerCommand (s : Comm ι) : Prop :=
  ∀ i j, (s.slots i).Live → (s.slots j).Live → (s.slots i).eCommand = (s.slots j).eCommand → i = j

/-- The operations the table is shared by, `bManage_TransmissionError` apart;
and a free slot is claimed only when no other subscription of the command has
passed that slot already. -/
def ClaimsUnpassed (s : Comm ι) : Act ι → Prop
  | .claim t bLock => ∀ q i, s.Claims t bLock q i → ∀ t', t' ≠ t → ∀ n,
      (s.pc t').seen = some (q.eCMD, n) → n ≤ i
  | .manage .. => False
  | _ => True

structure TableInv (s : Comm ι) : Prop where
  one : OnePerCommand s
  seen : ∀ t eCMD n, (s.pc t).seen = some (eCMD, n) → Absent s eCMD n

theorem TableInv.init : TableInv (Comm.init : Comm ι) := by
  constructor
  · intro i j hi
    exact absurd rfl hi.1
  · intro t eCMD n hseen
    cases hseen

/-! ## §2. The steps. -/

theorem Holds.of_kept {eCMD : SysMgmtCommand} {j : Slot} (hk : Kept (s.slots j) (s'.slots j))
    (h : Holds s' eCMD j) : Holds s eCMD j :=
  ⟨(hk.command h.1).1, (hk.command h.1).2.symm.trans h.2⟩

/-- The steps that keep every slot. -/
theorem TableInv.of_kept (h : TableInv s) (hk : ∀ j, Kept (s.slots j) (s'.slots j))
    (hpc : ∀ t eCMD n, (s'.pc t).seen = some (eCMD, n) → Absent s eCMD n) : TableInv s' := by
  constructor
  · intro i j hi hj heq
    have hi' := (hk i).command hi
    have hj' := (hk j).command hj
    exact h.one i j hi'.1 hj'.1 (hi'.2.symm.trans (heq.trans hj'.2))
  · intro t eCMD n hseen j hlt hholds
    exact hpc t eCMD n hseen j hlt (hholds.of_kept (hk j))

/-- A search that goes on has seen what it says. -/
theorem Looked.absent_below {q : Subscription} {k : Nat} {bLocked : Bool} {p : Pc}
    (h : Looked s q k bLocked p) (hold : bLocked = false → Absent s q.eCMD k)
    {eCMD : SysMgmtCommand} {n : Nat} (hseen : p.seen = some (eCMD, n)) : Absent s eCMD n := by
  cases h with
  | passed hk hnot =>
    cases bLocked with
    | true => cases hseen
    | false =>
      cases hseen
      intro j hlt hholds
      rcases Nat.lt_succ_iff_lt_or_eq.mp hlt with hj | hj
      · exact hold rfl j hj hholds
      · obtain rfl : j = ⟨k, hk⟩ := Fin.ext hj
        exact hnot hholds
  | timedOut => cases hseen
  | onward stage =>
    cases bLocked with
    | true => cases hseen
    | false =>
      cases hseen
      exact hold rfl
  | locked => cases hseen
  | absent hk hfree =>
    cases hseen
    intro j _ hholds
    exact hold hfree j (Nat.lt_of_lt_of_le j.isLt hk) hholds

variable [DecidableEq ι]

theorem TableInv.look {t : Thread ι} {bLock : Bool} (h : TableInv s) (hst : s.look t bLock = some s') :
    TableInv s' := by
  have hstep : s.step none (.look t bLock) = some s' := hst
  have hk := step_kept hstep (fun _ _ => by simp) (fun _ _ _ => by simp)
  refine h.of_kept hk ?_
  intro t' eCMD n hseen
  by_cases ht : t' = t
  · subst ht
    obtain ⟨q, k, stage, l, hpc, ⟨p, hp, rfl⟩ | ⟨hk, -, -, -, rfl⟩⟩ := look_cases hst
    · rw [goto_pc_self] at hseen
      refine hp.absent_below ?_ hseen
      rintro rfl
      exact h.seen t' q.eCMD k (by rw [hpc]; rfl)
    · unfold Comm.resubscribe at hseen
      dsimp only at hseen
      rw [goto_pc_self] at hseen
      split at hseen <;> cases hseen
  · rw [step_pc_ne hstep fun heq => ht (Option.some.inj heq).symm] at hseen
    exact h.seen t' eCMD n hseen

/-- A claim, where no other subscription of the command has passed the slot. -/
theorem TableInv.claim {t : Thread ι} {bLock : Bool} (h : TableInv s)
    (hok : ClaimsUnpassed s (.claim t bLock)) (hst : s.claim t bLock = some s') : TableInv s' := by
  obtain ⟨q, k, hpc, hcases⟩ := claim_cases hst
  -- the subscription has passed the whole table without finding its command
  have habsent : Absent s q.eCMD MAX_NUMBER_OF_TRANSACTION_TRACKINGs :=
    h.seen t q.eCMD _ (by rw [hpc]; rfl)
  rcases hcases with rfl | rfl | ⟨hk, hclaims, rfl⟩
  · refine h.of_kept (fun _ => .refl _) ?_
    intro t' eCMD n hseen
    by_cases ht : t' = t
    · subst ht
      rw [goto_pc_self] at hseen
      cases hseen
      exact habsent
    · rw [goto_pc_ne _ _ ht] at hseen
      exact h.seen t' eCMD n hseen
  · refine h.of_kept (fun _ => .refl _) ?_
    intro t' eCMD n hseen
    by_cases ht : t' = t
    · subst ht
      rw [goto_pc_self] at hseen
      cases hseen
    · rw [goto_pc_ne _ _ ht] at hseen
      exact h.seen t' eCMD n hseen
  · -- The new transaction is the only one of its command.
    constructor
    · intro i j hi hj heq
      rw [goto_slots] at hi hj heq
      by_cases hik : i = ⟨k, hk⟩
      · by_cases hjk : j = ⟨k, hk⟩
        · rw [hik, hjk]
        · rw [write_slot_ne _ _ hjk] at hj heq
          rw [hik, write_slot_self] at heq
          exact absurd ⟨hj, heq.symm⟩ (habsent j j.isLt)
      · rw [write_slot_ne _ _ hik] at hi heq
        by_cases hjk : j = ⟨k, hk⟩
        · rw [hjk, write_slot_self] at heq
          exact absurd ⟨hi, heq⟩ (habsent i i.isLt)
        · rw [write_slot_ne _ _ hjk] at hj heq
          exact h.one i j hi hj heq
    · intro t' eCMD n hseen j hlt hholds
      by_cases ht : t' = t
      · subst ht
        rw [goto_pc_self] at hseen
        cases hseen
      · rw [goto_pc_ne _ _ ht] at hseen
        unfold Holds at hholds
        rw [goto_slots] at hholds
        by_cases hjk : j = ⟨k, hk⟩
        · subst hjk
          rw [write_slot_self] at hholds
          obtain rfl : q.eCMD = eCMD := hholds.2
          -- `hok`: no other subscription of this command has passed the slot claimed
          exact absurd (hok q _ hclaims t' ht n hseen) (Nat.not_le.mpr hlt)
        · rw [write_slot_ne _ _ hjk] at hholds
          exact h.seen t' eCMD n hseen j hlt hholds

/-- The other steps leave a thread that has seen nothing of the table. -/
theorem TableInv.other {lengths : PayloadLengths} {a : Act ι} (h : TableInv s) (hst : s.step lengths a = some s')
    (hclaim : ∀ t b, a ≠ .claim t b) (hmanage : ∀ t b now, a ≠ .manage t b now)
    (hnew : ∀ t eCMD n, a.thread = some t → (s'.pc t).seen = some (eCMD, n) → n = 0) :
    TableInv s' := by
  refine h.of_kept (step_kept hst hclaim hmanage) ?_
  intro t eCMD n hseen
  by_cases ht : a.thread = some t
  · obtain rfl := hnew t eCMD n ht hseen
    intro j hlt
    exact absurd hlt (Nat.not_lt_zero _)
  · rw [step_pc_ne hst ht] at hseen
    exact h.seen t eCMD n hseen

theorem TableInv.step {lengths : PayloadLengths} {a : Act ι} (h : TableInv s)
    (hok : ClaimsUnpassed s a) (hst : s.step lengths a = some s') : TableInv s' := by
  cases a with
  | look t b => exact h.look hst
  | claim t b => exact h.claim hok hst
  -- a refused submission writes the slot back; the condition leaves it out
  | manage t b now => exact absurd hok id
  | subscribe t d b n ms =>
    refine h.other hst (fun _ _ => by simp) (fun _ _ _ => by simp) ?_
    intro t' eCMD m ht hseen
    obtain rfl : t = t' := Option.some.inj ht
    obtain ⟨-, ⟨e, -, rfl⟩ | ⟨c, -, rfl⟩⟩ := subscribe_cases hst
    · rw [goto_pc_self] at hseen
      cases hseen
    · rw [goto_pc_self] at hseen
      -- the new subscription has seen nothing of the table yet
      cases hseen
      rfl
  | stamp t b =>
    refine h.other hst (fun _ _ => by simp) (fun _ _ _ => by simp) ?_
    intro t' eCMD m ht hseen
    obtain rfl : t = t' := Option.some.inj ht
    obtain ⟨i, g, -, rfl | rfl⟩ := stamp_cases hst
    · rw [goto_pc_self] at hseen
      cases hseen
    · rw [goto_pc_self] at hseen
      cases hseen
  | submit t r =>
    refine h.other hst (fun _ _ => by simp) (fun _ _ _ => by simp) ?_
    intro t' eCMD m ht hseen
    obtain rfl : t = t' := Option.some.inj ht
    obtain ⟨i, g, c, -, ⟨-, rfl⟩ | ⟨-, rfl⟩⟩ := submit_cases hst
    · rw [goto_pc_self] at hseen
      cases hseen
    · rw [goto_pc_self] at hseen
      cases hseen
  | leave t =>
    refine h.other hst (fun _ _ => by simp) (fun _ _ _ => by simp) ?_
    intro t' eCMD m ht hseen
    obtain rfl : t = t' := Option.some.inj ht
    obtain ⟨-, -, rfl⟩ := leave_cases hst
    rw [goto_pc_self] at hseen
    cases hseen
  | complete t sub r e now =>
    refine h.other hst (fun _ _ => by simp) (fun _ _ _ => by simp) ?_
    intro t' eCMD m ht hseen
    obtain rfl : t = t' := Option.some.inj ht
    obtain ⟨-, hpc, -, ⟨rfl, -⟩ | ⟨hk, -, ⟨x, hx, rfl⟩ | ⟨n, l, -, -, rfl⟩⟩⟩ :=
      complete_cases hst
    · rw [show s.pc t = .idle from hpc] at hseen
      cases hseen
    · rw [write_pc, show s.pc t = .idle from hpc] at hseen
      cases hseen
    · rw [goto_pc_self] at hseen
      cases hseen
  | free t =>
    refine h.other hst (fun _ _ => by simp) (fun _ _ _ => by simp) ?_
    intro t' eCMD m ht hseen
    obtain rfl : t = t' := Option.some.inj ht
    obtain ⟨i, g, n, l, -, rfl⟩ := free_cases hst
    rw [goto_pc_self] at hseen
    split at hseen <;> cases hseen
  | tell t =>
    refine h.other hst (fun _ _ => by simp) (fun _ _ _ => by simp) ?_
    intro t' eCMD m ht hseen
    obtain rfl : t = t' := Option.some.inj ht
    obtain ⟨l, -, rfl⟩ := tell_cases hst
    rw [goto_pc_self] at hseen
    cases hseen
  | answer b =>
    refine h.other hst (fun _ _ => by simp) (fun _ _ _ => by simp) ?_
    intro t' eCMD m ht hseen
    obtain rfl : Thread.manager = t' := Option.some.inj ht
    obtain ⟨i, -, -, rfl⟩ := answer_cases hst
    have hidle : (s.goto .manager .idle).pc .manager = .idle := goto_pc_self ..
    rw [show ({ s.goto .manager .idle with
        manager := if b = true then ManagerPc.tracking (i + 1) else .marking i } : Comm ι).pc
        .manager = .idle from hidle] at hseen
    cases hseen
  | receive | find | track | mark | report | release | appFree | revise =>
    exact h.other hst (fun _ _ => by simp) (fun _ _ _ => by simp) fun _ _ _ ht => by cases ht

/-! ## §3. All runs. -/

/-- **At most one live transaction per command.**  In every run in which no
subscription claims a slot that another subscription of the same command has
already passed, two slots that are neither free nor invalid have different
commands. -/
theorem one_transaction_per_command {lengths : PayloadLengths}
    (h : (commSystem ι lengths).ReachableVia ClaimsUnpassed s) : OnePerCommand s := by
  have hi : TableInv s := by
    refine TransSys.ReachableVia.invariant (I := TableInv) ?_ ?_ h
    · rintro s rfl
      exact TableInv.init
    · intro s a s' hi hok hst
      exact hi.step hok hst
  exact hi.one

/-- One application thread subscribes, and the manager thread does not. -/
def SubscribesAlone (s : Comm Unit) : Act Unit → Prop
  | .claim t _ => t = .app () ∧ (s.pc .manager).seen = none
  | .manage .. => False
  | _ => True

instance (s : Comm Unit) : DecidablePred (SubscribesAlone s)
  | .claim .. => inferInstanceAs (Decidable (_ ∧ _))
  | .manage .. => .isFalse id
  | .subscribe .. | .look .. | .stamp .. | .submit .. | .leave _ | .complete ..
  | .free _ | .tell _ | .receive _ | .find _ | .track .. | .answer _ | .mark | .report _
  | .release | .appFree _ | .revise .. => .isTrue trivial

theorem SubscribesAlone.unpassed {s : Comm Unit} {a : Act Unit} (h : SubscribesAlone s a) :
    ClaimsUnpassed s a := by
  cases a with
  | claim t b =>
    intro q i _ t' ht n hseen
    cases t' with
    | manager => exact absurd (h.2.symm.trans hseen) (by simp)
    | app i => exact absurd h.1.symm ht
  | manage t b now => exact h
  | subscribe | look | stamp | submit | leave | complete | free | tell | receive | find | track
  | answer | mark | report | release | appFree | revise => exact trivial

/-- One thread subscribes. -/
def subscribeOnce : List (Act Unit) := subscribeCommand (.app ()) 20 ++ [.claim (.app ()) true]

/-- The first command of the enumeration, in the first slot. -/
theorem one_transaction_first :
    ∃ s : Comm Unit, (s.slots firstSlot).Live ∧ (s.slots firstSlot).eCommand = 20
      ∧ OnePerCommand s := by
  have hrun : ((subscribeOnce.foldlM (TransSys.guarded SubscribesAlone (Comm.step none))
      Comm.init).map fun s =>
        decide ((s.slots firstSlot).Live ∧ (s.slots firstSlot).eCommand = 20)) = some true := by
    decide +kernel
  obtain ⟨s, hs, hlive⟩ := Option.map_eq_some_iff.mp hrun
  have hreach : (commSystem Unit none).ReachableVia ClaimsUnpassed s :=
    TransSys.ReachableVia.foldlM (fun _ _ _ h => ⟨(TransSys.guarded_some h).1.unpassed,
      (TransSys.guarded_some h).2⟩) (.init rfl) _ hs
  obtain ⟨hl, hc⟩ := of_decide_eq_true hlive
  exact ⟨s, hl, hc, one_transaction_per_command hreach⟩

/-- Two threads subscribe the command; both pass the empty table before either
of them claims. -/
def subscribeTwice : List (Act Bool) :=
  subscribeCommand (.app false) 20 ++ subscribeCommand (.app true) 20
    ++ [.claim (.app false) true, .claim (.app true) true, .claim (.app true) true]

/-- They get the first two slots. -/
theorem two_transactions_one_command :
    ¬ ∀ s : Comm Bool, (commSystem Bool none).Reachable s → OnePerCommand s := by
  intro h
  have hrun : ((subscribeTwice.foldlM (Comm.step none) Comm.init).map fun s =>
      decide ((s.slots firstSlot).Live ∧ (s.slots secondSlot).Live
        ∧ (s.slots firstSlot).eCommand = (s.slots secondSlot).eCommand)) = some true := by
    decide +kernel
  obtain ⟨s, hs, htwo⟩ := Option.map_eq_some_iff.mp hrun
  have hreach : (commSystem Bool none).Reachable s :=
    TransSys.Reachable.foldlM (fun _ _ _ h => h) (.init rfl) _ hs
  obtain ⟨h0, h1, heq⟩ := of_decide_eq_true htwo
  exact absurd (h s hreach _ _ h0 h1 heq) (by decide)

end WallController.CommManager
