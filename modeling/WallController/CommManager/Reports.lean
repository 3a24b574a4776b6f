/-
  WallController.CommManager.Reports
  ────────────────────────────────
  **EVERY TRANSACTION COMES TO ITS REPORT.**

  A slot in `WaitingFor_TxCompletion` is owed one event, and exactly one party
  holds it: the thread that subscribed, until the driver answers; then the
  submission on its way; then the completion that frees the slot.  A slot in
  `Failed` or `Dest_ACK` is the one that the manager thread reports or frees.
  `SlotOk` says both of one slot, and each step moves the event on or settles
  it.

  Main results:
    * `transactions_reported`: in the runs where no re-subscription finds its
      retries used up, no completion brings an unknown result without a driver
      error, and `bManage_TransmissionError` settles what it is given, every
      entry into `Failed` or `Dest_ACK` and every lost message is reported
      once, and no slot waits for an event that cannot come.
    * `transaction_unreported`: the last retry fails the slot in silence.
-/
import WallController.CommManager.Sections
import Mathlib

namespace WallController.CommManager

open WallController.Bootloader (CanFrame)
open WallController.Lib

variable {ι : Type} {s s' : Comm ι} {t : Thread ι} {i j : Slot}

/-! ## §1. Who holds the event of a slot. -/

/-- The slot whose next event a thread holds. -/
def Pc.holds : Pc → Option Slot
  | .subscribed i _ | .submitting i _ _ | .refused i _ | .freeing i _ _ _ => some i
  | _ => none

/-- The lost messages that a thread has still to tell of. -/
def Pc.owes : Pc → Nat
  | .freeing _ _ _ true | .telling true => 1
  | _ => 0

/-- The manager thread is about to report the slot. -/
def ManagerPc.reports (m : ManagerPc) (i : Slot) : Bool :=
  match m with
  | .reporting j _ => decide (j = i)
  | _ => false

/-- The manager thread is about to free the slot that it reported. -/
def ManagerPc.releases (m : ManagerPc) (i : Slot) : Bool :=
  match m with
  | .releasing j _ => decide (j = i)
  | _ => false

/-- The state of a slot whose result is known. -/
def CmdTransaction.Settled (x : CmdTransaction) : Prop := x.eState = .failed ∨ x.eState = .destACK

/-- One slot, as the threads, the driver and the manager thread see it. -/
structure SlotOk (s : Comm ι) (i : Slot) : Prop where
  held : ∀ t, (s.pc t).holds = some i → (s.slots i).eState = .waitingForTxCompletion
    ∧ (∀ sub ∈ s.inFlight, sub.context.uiTransactionIndex ≠ i)
    ∧ ∀ t', (s.pc t').holds = some i → t' = t
  flight : ∀ sub ∈ s.inFlight, sub.context.uiTransactionIndex = i →
    Matches (s.slots i) sub.context
  awaited : (s.slots i).eState = .waitingForTxCompletion →
    (∃ t, (s.pc t).holds = some i) ∨ ∃ sub ∈ s.inFlight, sub.context.uiTransactionIndex = i
  generation : (s.slots i).Live → (s.slots i).uiGeneration ≠ 0
  settled : (s.slots i).Settled ↔ s.manager.reports i = true ∨ s.manager.releases i = true
  count : s.entries i = s.results i + if s.manager.reports i = true then 1 else 0

/-- One thread. -/
structure ThreadOk (s : Comm ι) (t : Thread ι) : Prop where
  stamped : ∀ i g c, s.pc t = .submitting i g c → c = txContext i (s.slots i)
  told : s.drops t = s.failures t + (s.pc t).owes
  tells : ∀ i g bNotify, s.pc t = .freeing i g bNotify true → bNotify = true

structure EventInv (s : Comm ι) : Prop where
  slot : ∀ i, SlotOk s i
  thread : ∀ t, ThreadOk s t
  distinct : s.inFlight.Pairwise fun a b =>
    a.context.uiTransactionIndex ≠ b.context.uiTransactionIndex
  range : ∀ sub ∈ s.inFlight, sub.context.uiTransactionIndex < MAX_NUMBER_OF_TRANSACTION_TRACKINGs

theorem EventInv.init : EventInv (Comm.init : Comm ι) where
  slot i :=
    { held := fun t h => by cases h
      flight := fun sub h => by cases h
      awaited := fun h => by cases h
      generation := fun h => absurd rfl h.1
      settled := by
        constructor
        · rintro (h | h) <;> cases h
        · rintro (h | h) <;> cases h
      count := rfl }
  thread t :=
    { stamped := fun i g c h => by cases h
      told := rfl
      tells := fun i g n h => by cases h }
  distinct := .nil
  range := fun sub h => by cases h

/-! ## §2. What a slot and a thread do not see. -/

/-- The slot looks the same to all that concern it. -/
structure SameView (s s' : Comm ι) (i : Slot) : Prop where
  slot : s'.slots i = s.slots i
  held : ∀ t, (s'.pc t).holds = some i ↔ (s.pc t).holds = some i
  flight : ∀ sub : Submission, sub.context.uiTransactionIndex = i →
    (sub ∈ s'.inFlight ↔ sub ∈ s.inFlight)
  reports : s'.manager.reports i = s.manager.reports i
  releases : s'.manager.releases i = s.manager.releases i
  entries : s'.entries i = s.entries i
  results : s'.results i = s.results i

theorem SlotOk.congr (h : SlotOk s i) (hv : SameView s s' i) : SlotOk s' i where
  held t ht := by
    obtain ⟨hst, hno, honly⟩ := h.held t ((hv.held t).mp ht)
    refine ⟨by rw [hv.slot]; exact hst, ?_, fun t' ht' => honly t' ((hv.held t').mp ht')⟩
    intro sub hsub heq
    exact hno sub ((hv.flight sub heq).mp hsub) heq
  flight sub hsub heq := by
    rw [hv.slot]
    exact h.flight sub ((hv.flight sub heq).mp hsub) heq
  awaited hst := by
    rw [hv.slot] at hst
    rcases h.awaited hst with ⟨t, ht⟩ | ⟨sub, hsub, heq⟩
    · exact Or.inl ⟨t, (hv.held t).mpr ht⟩
    · exact Or.inr ⟨sub, (hv.flight sub heq).mpr hsub, heq⟩
  generation hl := by
    rw [hv.slot] at hl ⊢
    exact h.generation hl
  settled := by rw [hv.slot, hv.reports, hv.releases]; exact h.settled
  count := by rw [hv.entries, hv.results, hv.reports]; exact h.count

theorem ThreadOk.congr (h : ThreadOk s t) (hpc : s'.pc t = s.pc t)
    (hd : s'.drops t = s.drops t) (hf : s'.failures t = s.failures t)
    (hslot : ∀ i, (s.pc t).holds = some i → s'.slots i = s.slots i) : ThreadOk s' t where
  stamped i g c hp := by
    rw [hpc] at hp
    rw [hslot i (by rw [hp]; rfl)]
    exact h.stamped i g c hp
  told := by rw [hpc, hd, hf]; exact h.told
  tells i g n hp := h.tells i g n (hpc ▸ hp)

/-- Nobody holds the event of a slot that waits for none. -/
theorem EventInv.not_held (h : EventInv s) (hst : (s.slots i).eState ≠ .waitingForTxCompletion)
    (t : Thread ι) : (s.pc t).holds ≠ some i :=
  fun ht => hst ((h.slot i).held t ht).1

theorem EventInv.not_flight (h : EventInv s)
    (hst : (s.slots i).eState ≠ .waitingForTxCompletion) :
    ∀ sub ∈ s.inFlight, sub.context.uiTransactionIndex ≠ i :=
  fun sub hsub heq => hst ((h.slot i).flight sub hsub heq).1

theorem SameView.trans {s'' : Comm ι} (h : SameView s s' i) (h' : SameView s' s'' i) :
    SameView s s'' i where
  slot := h'.slot.trans h.slot
  held t := (h'.held t).trans (h.held t)
  flight sub heq := (h'.flight sub heq).trans (h.flight sub heq)
  reports := h'.reports.trans h.reports
  releases := h'.releases.trans h.releases
  entries := h'.entries.trans h.entries
  results := h'.results.trans h.results

theorem write_entries_ne {x : CmdTransaction} (hj : j ≠ i) :
    (s.write i x).entries j = s.entries j := by
  unfold Comm.write
  dsimp only
  split
  · exact Function.update_of_ne hj ..
  · rfl

/-- A write that settles nothing is not counted. -/
theorem write_entries {x : CmdTransaction} (hx : ¬ x.Settled) :
    (s.write i x).entries = s.entries :=
  if_neg fun h => hx h.2

/-- A write that settles the slot is. -/
theorem write_entries_settled {x : CmdTransaction} (hold : ¬ (s.slots i).Settled)
    (hx : x.Settled) : (s.write i x).entries i = s.entries i + 1 := by
  have hne : x.eState ≠ (s.slots i).eState := by
    intro heq
    unfold CmdTransaction.Settled at hold hx
    rw [heq] at hx
    exact hold hx
  unfold Comm.write
  dsimp only
  rw [if_pos ⟨hne, hx⟩, Function.update_self]

theorem write_view {x : CmdTransaction} (hj : j ≠ i) : SameView s (s.write i x) j :=
  ⟨write_slot_ne _ _ hj, fun _ => Iff.rfl, fun _ _ => Iff.rfl, rfl, rfl, write_entries_ne hj, rfl⟩

/-- A thread other than the writer, that holds another slot. -/
theorem ThreadOk.write (h : ThreadOk s t) {x : CmdTransaction} (hi : (s.pc t).holds ≠ some i) :
    ThreadOk (s.write i x) t := by
  refine h.congr rfl rfl rfl ?_
  intro j hj
  refine write_slot_ne _ _ ?_
  rintro rfl
  exact hi hj

/-! ## §3. Steps that write no slot. -/

variable [DecidableEq ι]

/-- A thread goes on and holds what it held. -/
theorem EventInv.goto (h : EventInv s) {p : Pc} (hholds : p.holds = (s.pc t).holds)
    (howes : p.owes = (s.pc t).owes)
    (hstamp : ∀ i g c, p = .submitting i g c → c = txContext i (s.slots i))
    (htell : ∀ i g n, p ≠ .freeing i g n true) : EventInv (s.goto t p) where
  slot i := by
    refine (h.slot i).congr ⟨rfl, ?_, fun _ _ => Iff.rfl, rfl, rfl, rfl, rfl⟩
    intro t'
    by_cases ht : t' = t
    · subst ht
      rw [goto_pc_self, hholds]
    · rw [goto_pc_ne _ _ ht]
  thread t' := by
    by_cases ht : t' = t
    · subst ht
      refine ⟨?_, ?_, ?_⟩
      · intro i g c hp
        rw [goto_pc_self] at hp
        exact hstamp i g c hp
      · rw [goto_pc_self, howes]
        exact (h.thread t').told
      · intro i g n hp
        rw [goto_pc_self] at hp
        exact absurd hp (htell i g n)
    · exact (h.thread t').congr (goto_pc_ne _ _ ht) rfl rfl fun _ _ => rfl
  distinct := h.distinct
  range := h.range

omit [DecidableEq ι] in
/-- The manager thread goes on, with no slot to report or to free. -/
theorem EventInv.managerGoto (h : EventInv s) {m : ManagerPc}
    (hold : ∀ i, s.manager.reports i = false ∧ s.manager.releases i = false)
    (hnew : ∀ i, m.reports i = false ∧ m.releases i = false) :
    EventInv { s with manager := m } where
  slot i := by
    refine (h.slot i).congr ⟨rfl, fun _ => Iff.rfl, fun _ _ => Iff.rfl, ?_, ?_, rfl, rfl⟩
    · exact (hnew i).1.trans (hold i).1.symm
    · exact (hnew i).2.trans (hold i).2.symm
  thread t := (h.thread t).congr rfl rfl rfl fun _ _ => rfl
  distinct := h.distinct
  range := h.range

/-- The driver accepts the message: its submission holds the event now. -/
theorem EventInv.submitted (h : EventInv s) {g : UInt32} {c : TxContext}
    (hpc : s.pc t = .submitting i g c) :
    EventInv (({ s with inFlight := ⟨c, g⟩ :: s.inFlight } : Comm ι).goto t (.finished .none)) := by
  have hholds : (s.pc t).holds = some i := by rw [hpc]; rfl
  -- the event of the slot is held by this thread alone
  obtain ⟨hst, hno, honly⟩ := (h.slot i).held t hholds
  obtain rfl : c = txContext i (s.slots i) := (h.thread t).stamped i g c hpc
  refine ⟨?_, ?_, ?_, ?_⟩
  · intro j
    by_cases hj : j = i
    · subst hj
      refine ⟨?_, ?_, ?_, (h.slot j).generation, (h.slot j).settled, (h.slot j).count⟩
      · intro t' ht'
        by_cases ht : t' = t
        · subst ht
          rw [goto_pc_self] at ht'
          cases ht'
        · rw [goto_pc_ne _ _ ht] at ht'
          exact absurd (honly t' ht') ht
      · intro sub hsub heq
        rcases List.mem_cons.mp hsub with rfl | hold
        -- the context submitted is the one stamped from the slot
        · exact ⟨hst, rfl, rfl, rfl⟩
        · exact absurd heq (hno sub hold)
      · intro _
        exact Or.inr ⟨_, List.mem_cons_self .., rfl⟩
    · refine (h.slot j).congr ⟨rfl, ?_, ?_, rfl, rfl, rfl, rfl⟩
      · intro t'
        by_cases ht : t' = t
        · subst ht
          rw [goto_pc_self, hholds]
          constructor
          · intro h'
            cases h'
          · intro h'
            -- no other slot had this thread as its holder
            exact absurd (Option.some.inj h').symm hj
        · rw [goto_pc_ne _ _ ht]
      · intro sub heq
        constructor
        · intro hsub
          rcases List.mem_cons.mp hsub with rfl | hold
          · exact absurd (Fin.ext heq).symm hj
          · exact hold
        · exact List.mem_cons_of_mem _
  · intro t'
    by_cases ht : t' = t
    · subst ht
      refine ⟨?_, ?_, ?_⟩
      · intro i' g' c' hp
        rw [goto_pc_self] at hp
        cases hp
      · have htold := (h.thread t').told
        rw [hpc] at htold
        rw [goto_pc_self]
        exact htold
      · intro i' g' n hp
        rw [goto_pc_self] at hp
        cases hp
    · exact (h.thread t').congr (goto_pc_ne _ _ ht) rfl rfl fun _ _ => rfl
  -- no submission of the slot was in flight before
  · exact List.Pairwise.cons (fun sub hsub heq => hno sub hsub heq.symm) h.distinct
  · intro sub hsub
    rcases List.mem_cons.mp hsub with rfl | hold
    · exact i.isLt
    · exact h.range sub hold

/-! ## §4. Steps that write a slot. -/

theorem goto_view {p : Pc} (hold : (s.pc t).holds ≠ some j) (hnew : p.holds ≠ some j) :
    SameView s (s.goto t p) j := by
  refine ⟨rfl, ?_, fun _ _ => Iff.rfl, rfl, rfl, rfl, rfl⟩
  intro t'
  by_cases ht : t' = t
  · subst ht
    rw [goto_pc_self]
    exact ⟨fun h => absurd h hnew, fun h => absurd h hold⟩
  · rw [goto_pc_ne _ _ ht]

theorem ThreadOk.goto_ne {t' : Thread ι} {p : Pc} (h : ThreadOk s t') (ht : t' ≠ t) :
    ThreadOk (s.goto t p) t' :=
  h.congr (goto_pc_ne _ _ ht) rfl rfl fun _ _ => rfl

/-- A thread that is in none of the steps that need care. -/
theorem ThreadOk.goto_self {p : Pc} (h : ThreadOk s t) (howes : p.owes = (s.pc t).owes)
    (hstamp : ∀ i g c, p ≠ .submitting i g c) (htell : ∀ i g n, p ≠ .freeing i g n true) :
    ThreadOk (s.goto t p) t := by
  refine ⟨?_, ?_, ?_⟩
  · intro i g c hp
    rw [goto_pc_self] at hp
    exact absurd hp (hstamp i g c)
  · rw [goto_pc_self, howes]
    exact h.told
  · intro i g n hp
    rw [goto_pc_self] at hp
    exact absurd hp (htell i g n)

/-- A subscription gets the slot: its thread holds the event. -/
theorem EventInv.acquire (h : EventInv s) {x : CmdTransaction} {g : UInt32}
    (hfree : (s.pc t).holds = none) (howes : (s.pc t).owes = 0)
    (hwait : (s.slots i).eState ≠ .waitingForTxCompletion) (hset : ¬ (s.slots i).Settled)
    (hx : x.eState = .waitingForTxCompletion) (hg : x.uiGeneration ≠ 0) :
    EventInv ((s.write i x).goto t (.subscribed i g)) := by
  -- a slot that waits for its completion is not settled
  have hxset : ¬ x.Settled := by
    unfold CmdTransaction.Settled
    rw [hx]
    simp
  refine ⟨?_, ?_, h.distinct, h.range⟩
  · intro j
    by_cases hj : j = i
    · subst hj
      have hslot : ((s.write j x).goto t (.subscribed j g)).slots j = x := write_slot_self ..
      refine ⟨?_, ?_, ?_, ?_, ?_, ?_⟩
      · intro t' ht'
        -- the slot waited for no completion, so nobody else holds its event
        have honly : ∀ t', (((s.write j x).goto t (.subscribed j g)).pc t').holds = some j →
            t' = t := by
          intro t'' ht''
          by_contra hne
          rw [goto_pc_ne _ _ hne] at ht''
          exact h.not_held hwait t'' ht''
        refine ⟨by rw [hslot]; exact hx, h.not_flight hwait, ?_⟩
        intro t'' ht''
        rw [honly t' ht', honly t'' ht'']
      · intro sub hsub heq
        exact absurd heq (h.not_flight hwait sub hsub)
      · intro _
        refine Or.inl ⟨t, ?_⟩
        rw [goto_pc_self]
        rfl
      · intro _
        rw [hslot]
        exact hg
      · rw [hslot]
        constructor
        · intro hs
          exact absurd hs hxset
        · intro hs
          exact absurd ((h.slot j).settled.mpr hs) hset
      · show (s.write j x).entries j = _
        rw [write_entries hxset]
        exact (h.slot j).count
    · refine (h.slot j).congr ((write_view hj).trans (goto_view ?_ ?_))
      · rw [write_pc, hfree]
        simp
      · intro heq
        exact hj (Option.some.inj heq).symm
  · intro t'
    by_cases ht : t' = t
    · subst ht
      refine ThreadOk.goto_self ((h.thread t').write (by rw [hfree]; simp)) ?_ (by simp) (by simp)
      rw [write_pc, howes]
      rfl
    · exact ((h.thread t').write (h.not_held hwait t')).goto_ne ht

/-- The thread that holds the event settles it: the slot waits no more. -/
theorem EventInv.settle (h : EventInv s) {x : CmdTransaction} {p : Pc}
    (hheld : (s.pc t).holds = some i) (hp : p.holds = none) (howes : p.owes = (s.pc t).owes)
    (hx : x.eState ≠ .waitingForTxCompletion) (hxset : ¬ x.Settled)
    (hg : x.Live → x.uiGeneration ≠ 0) : EventInv ((s.write i x).goto t p) := by
  -- the thread is the only holder, and no submission of the slot is in flight
  obtain ⟨hst, hno, honly⟩ := (h.slot i).held t hheld
  have hset : ¬ (s.slots i).Settled := by
    unfold CmdTransaction.Settled
    rw [hst]
    simp
  have hstamp : ∀ i g c, p ≠ .submitting i g c := by
    rintro i g c rfl
    cases hp
  have htell : ∀ i g n, p ≠ .freeing i g n true := by
    rintro i g n rfl
    cases hp
  refine ⟨?_, ?_, h.distinct, h.range⟩
  · intro j
    by_cases hj : j = i
    · subst hj
      have hslot : ((s.write j x).goto t p).slots j = x := write_slot_self ..
      refine ⟨?_, ?_, ?_, ?_, ?_, ?_⟩
      · intro t' ht'
        by_cases ht : t' = t
        · subst ht
          -- the thread has let go of the event
          rw [goto_pc_self, hp] at ht'
          cases ht'
        · rw [goto_pc_ne _ _ ht] at ht'
          exact absurd (honly t' ht') ht
      · intro sub hsub heq
        exact absurd heq (hno sub hsub)
      · intro hs
        rw [hslot] at hs
        exact absurd hs hx
      · rw [hslot]
        exact hg
      · rw [hslot]
        constructor
        · intro hs
          exact absurd hs hxset
        · intro hs
          exact absurd ((h.slot j).settled.mpr hs) hset
      · show (s.write j x).entries j = _
        -- an unsettled slot adds no entry to the count
        rw [write_entries hxset]
        exact (h.slot j).count
    · refine (h.slot j).congr ((write_view hj).trans (goto_view ?_ ?_))
      · rw [write_pc, hheld]
        exact fun heq => hj (Option.some.inj heq).symm
      · rw [hp]
        simp
  · intro t'
    by_cases ht : t' = t
    · subst ht
      refine ⟨?_, ?_, ?_⟩
      · intro i' g c hp'
        rw [goto_pc_self] at hp'
        exact absurd hp' (hstamp i' g c)
      · rw [goto_pc_self, howes]
        exact (h.thread t').told
      · intro i' g n hp'
        rw [goto_pc_self] at hp'
        exact absurd hp' (htell i' g n)
    · exact ((h.thread t').write fun ht' => ht (honly t' ht')).goto_ne ht

omit [DecidableEq ι] in
/-- The manager thread writes a slot that waits for no completion. -/
theorem EventInv.managerWrite (h : EventInv s) {x : CmdTransaction} {m : ManagerPc}
    (hwait : (s.slots i).eState ≠ .waitingForTxCompletion)
    (hx : x.eState ≠ .waitingForTxCompletion) (hg : x.Live → x.uiGeneration ≠ 0)
    (hother : ∀ j, j ≠ i → s.manager.reports j = false ∧ s.manager.releases j = false
      ∧ m.reports j = false ∧ m.releases j = false)
    (hset : x.Settled ↔ m.reports i = true ∨ m.releases i = true)
    (hcount : (s.write i x).entries i = s.results i + if m.reports i = true then 1 else 0) :
    EventInv { s.write i x with manager := m } := by
  refine ⟨?_, ?_, h.distinct, h.range⟩
  · intro j
    by_cases hj : j = i
    · subst hj
      have hslot : (s.write j x).slots j = x := write_slot_self ..
      refine ⟨?_, ?_, ?_, ?_, ?_, hcount⟩
      · intro t ht
        exact absurd ht (h.not_held hwait t)
      · intro sub hsub heq
        exact absurd heq (h.not_flight hwait sub hsub)
      · intro hs
        exact absurd (hslot ▸ hs) hx
      · intro hl
        show ((s.write j x).slots j).uiGeneration ≠ 0
        rw [hslot]
        exact hg (hslot ▸ hl)
      · show ((s.write j x).slots j).Settled ↔ _
        rw [hslot]
        exact hset
    · obtain ⟨hr, hl, hr', hl'⟩ := hother j hj
      refine (h.slot j).congr ((write_view hj).trans ⟨rfl, fun _ => Iff.rfl, fun _ _ => Iff.rfl,
        ?_, ?_, rfl, rfl⟩)
      · exact hr'.trans hr.symm
      · exact hl'.trans hl.symm
  · intro t
    exact ((h.thread t).write (h.not_held hwait t)).congr rfl rfl rfl fun _ _ => rfl

/-! ## §5. Completions. -/

omit [DecidableEq ι] in
/-- The other submissions are for other slots. -/
theorem EventInv.erase_ne (h : EventInv s) {sub : Submission} (hsub : sub ∈ s.inFlight) :
    ∀ x ∈ s.inFlight.erase sub, x.context.uiTransactionIndex ≠ sub.context.uiTransactionIndex := by
  have hperm := List.perm_cons_erase hsub
  have hpair := (hperm.pairwise_iff fun hne => Ne.symm hne).mp h.distinct
  intro x hx heq
  exact (List.pairwise_cons.mp hpair).1 x hx heq.symm

/-- A completion that writes the slot ends the wait, unless its result is
unknown and the driver has no error. -/
theorem complete_written {c : TxContext} {r : TxCompleteResult} {e : Int} {now : UInt64}
    {x y : CmdTransaction} (h : completeTransaction c r e now x = .written y)
    (hknown : ∀ code, r = .other code → e < 0) :
    (y.eState = .waitingForACK ∨ y.eState = .queued) ∧ y.uiGeneration = x.uiGeneration := by
  unfold completeTransaction at h
  split at h
  · cases h
  · split at h
    · split at h
      · cases h
      · cases h
        exact ⟨Or.inl rfl, rfl⟩
    iterate 5
      · cases h
        exact ⟨Or.inr rfl, rfl⟩
    iterate 4
      · cases h
    · next code =>
      rw [if_pos (hknown code rfl)] at h
      cases h

/-- A lost message that required an ACK is told of. -/
theorem complete_free {c : TxContext} {r : TxCompleteResult} {e : Int} {now : UInt64}
    {x : CmdTransaction} {bNotify : Bool} (h : completeTransaction c r e now x = .free bNotify)
    (hack : x.bIsACKRequired = true) (hr : r ≠ .success) : bNotify = true := by
  unfold completeTransaction at h
  split at h
  · cases h
  · split at h
    · exact absurd rfl hr
    iterate 5
      · cases h
    iterate 4
      · cases h
        rfl
    · split at h
      · cases h
        exact hack
      · cases h

theorem EventInv.complete (h : EventInv s) {sub : Submission} {r : TxCompleteResult} {e : Int}
    {now : UInt64} (hknown : ∀ code, r = .other code → e < 0)
    (hst : s.complete t sub r e now = some s') : EventInv s' := by
  obtain ⟨-, hidle, hsub, hcases⟩ := complete_cases hst
  have hlt := h.range sub hsub
  have hslot := h.slot ⟨_, hlt⟩
  have hm : Matches (s.slots ⟨_, hlt⟩) sub.context := hslot.flight sub hsub rfl
  have hlive : (s.slots ⟨_, hlt⟩).Live := live_of_state hm.1 (by decide) (by decide)
  have hgen := hslot.generation hlive
  have hset : ¬ (s.slots ⟨_, hlt⟩).Settled := by
    unfold CmdTransaction.Settled
    rw [hm.1]
    simp
  have herase := h.erase_ne hsub
  have hnoheld : ∀ t', (s.pc t').holds ≠ some ⟨_, hlt⟩ :=
    fun t' ht' => (hslot.held t' ht').2.1 sub hsub rfl
  have hdistinct : (s.inFlight.erase sub).Pairwise fun a b =>
      a.context.uiTransactionIndex ≠ b.context.uiTransactionIndex :=
    h.distinct.sublist List.erase_sublist
  have hrange : ∀ x ∈ s.inFlight.erase sub,
      x.context.uiTransactionIndex < MAX_NUMBER_OF_TRANSACTION_TRACKINGs :=
    fun x hx => h.range x (List.mem_of_mem_erase hx)
  -- What a slot sees of the submissions that are left.
  have hleft : ∀ j : Slot, j ≠ ⟨_, hlt⟩ → ∀ x : Submission, x.context.uiTransactionIndex = j →
      (x ∈ s.inFlight.erase sub ↔ x ∈ s.inFlight) := by
    intro j hj x hx
    refine ⟨List.mem_of_mem_erase, fun hmem => (List.mem_erase_of_ne ?_).mpr hmem⟩
    rintro rfl
    exact hj (Fin.ext hx).symm
  rcases hcases with ⟨-, hg | hno⟩ | ⟨hk, -, ⟨x, hx, rfl⟩ | ⟨n, l, hx, hl, rfl⟩⟩
  · exact absurd (hm.2.2.1.trans hg) hgen
  · exact absurd hm (hno hlt)
  · obtain ⟨hxst, hxg⟩ := complete_written hx hknown
    have hxwait : x.eState ≠ .waitingForTxCompletion := by
      rcases hxst with hxst | hxst <;> rw [hxst] <;> decide
    have hxset : ¬ x.Settled := by
      unfold CmdTransaction.Settled
      rcases hxst with hxst | hxst <;> rw [hxst] <;> simp
    refine ⟨?_, ?_, hdistinct, hrange⟩
    · intro j
      by_cases hj : j = ⟨_, hk⟩
      · subst hj
        have hnew : (({ s with inFlight := s.inFlight.erase sub } : Comm ι).write ⟨_, hk⟩ x).slots
            ⟨_, hk⟩ = x := write_slot_self ..
        refine ⟨?_, ?_, ?_, ?_, ?_, ?_⟩
        · intro t' ht'
          exact absurd ht' (hnoheld t')
        · intro y hy heq
          exact absurd heq (herase y hy)
        · intro hs
          rw [hnew] at hs
          exact absurd hs hxwait
        · intro _
          rw [hnew, hxg]
          exact hgen
        · rw [hnew]
          constructor
          · intro hs
            exact absurd hs hxset
          · intro hs
            exact absurd (hslot.settled.mpr hs) hset
        · rw [write_entries hxset]
          exact hslot.count
      · have hview : SameView s { s with inFlight := s.inFlight.erase sub } j :=
          ⟨rfl, fun _ => Iff.rfl, hleft j hj, rfl, rfl, rfl, rfl⟩
        exact (h.slot j).congr (hview.trans (write_view hj))
    · intro t'
      exact ((h.thread t').write (hnoheld t')).congr rfl rfl rfl fun _ _ => rfl
  · refine ⟨?_, ?_, hdistinct, hrange⟩
    · intro j
      by_cases hj : j = ⟨_, hk⟩
      · subst hj
        refine ⟨?_, ?_, ?_, hslot.generation, hslot.settled, hslot.count⟩
        · intro t' ht'
          have honly : ∀ t'', ((({ s with
              inFlight := s.inFlight.erase sub
              drops := if l = true then Function.update s.drops t (s.drops t + 1)
                else s.drops } : Comm ι).goto t
              (.freeing ⟨_, hk⟩ sub.uiGeneration n l)).pc t'').holds = some ⟨_, hk⟩ → t'' = t := by
            intro t'' ht''
            by_contra hne
            rw [goto_pc_ne _ _ hne] at ht''
            exact hnoheld t'' ht''
          refine ⟨hm.1, fun y hy heq => herase y hy heq, ?_⟩
          intro t'' ht''
          rw [honly t' ht', honly t'' ht'']
        · intro y hy heq
          exact absurd heq (herase y hy)
        · intro _
          refine Or.inl ⟨t, ?_⟩
          rw [goto_pc_self]
          rfl
      · have hview : SameView s { s with
            inFlight := s.inFlight.erase sub
            drops := if l = true then Function.update s.drops t (s.drops t + 1) else s.drops } j :=
          ⟨rfl, fun _ => Iff.rfl, hleft j hj, rfl, rfl, rfl, rfl⟩
        refine (h.slot j).congr (hview.trans (goto_view ?_ ?_))
        · show (s.pc t).holds ≠ some j
          rw [hidle]
          simp [Pc.holds]
        · exact fun heq => hj (Option.some.inj heq).symm
    · intro t'
      by_cases ht : t' = t
      · subst ht
        refine ⟨?_, ?_, ?_⟩
        · intro i g c hp
          rw [goto_pc_self] at hp
          cases hp
        · have htold := (h.thread t').told
          rw [hidle] at htold
          rw [goto_pc_self]
          cases l with
          | false => exact htold
          | true =>
            show Function.update s.drops t' (s.drops t' + 1) t' = s.failures t' + 1
            rw [Function.update_self, htold]
            rfl
        · intro i g n' hp
          rw [goto_pc_self] at hp
          cases hp
          obtain ⟨hack, hr⟩ : (s.slots ⟨_, hk⟩).bIsACKRequired = true
              ∧ decide (r ≠ .success) = true := by
            simpa using hl.symm
          exact complete_free hx hack (of_decide_eq_true hr)
      · refine (h.thread t').congr (goto_pc_ne _ _ ht) ?_ rfl fun _ _ => rfl
        show (if l = true then Function.update s.drops t (s.drops t + 1) else s.drops) t' = _
        split
        · exact Function.update_of_ne ht ..
        · rfl

/-! ## §6. All steps. -/

/-- The callbacks as registered: `bRequestRetransmit` subscribes the message of
the slot again and returns whether the result was `None`, `vTransactionResult`
frees the slot that it is given, and nobody else frees one. -/
def Contract (s : Comm ι) : Act ι → Prop
  | .subscribe t puiData .. => t = .manager → ∀ i, s.manager = .retransmitting i →
      checkSubscription puiData = .ok (s.slots i).eCommand
  | .answer bIsDispatch => ∃ e, s.pc .manager = .finished e ∧ bIsDispatch = decide (e = .none)
  | .report bFrees => bFrees = true
  | .appFree _ => False
  | _ => True

/-- A step that leaves no transaction behind: a re-subscription finds a retry
left, a result that no case names comes with a driver error, and
`bManage_TransmissionError` gets its mutex and a code that it handles. -/
def Handled (s : Comm ι) : Act ι → Prop
  | .look t bLock => ∀ q k bLocked, s.pc t = .searching q k .lock bLocked → bLock = true →
      ∀ h : k < MAX_NUMBER_OF_TRANSACTION_TRACKINGs, (s.slots ⟨k, h⟩).eCommand = q.eCMD →
        (s.slots ⟨k, h⟩).eState = .prepareRetransmit →
          ¬ (s.slots ⟨k, h⟩).uiRetryCount + 1 > (s.slots ⟨k, h⟩).uiMaxRetryCount
  | .complete _ _ eResult iDriverError _ => ∀ code, eResult = .other code → iDriverError < 0
  | .manage t bLock _ => ∀ i eTxResult, s.pc t = .refused i eTxResult →
      eTxResult = .invalidMsg
        ∨ ((eTxResult = .busUnavailable ∨ eTxResult = .queueFull) ∧ bLock = true)
  | _ => True

theorem EventInv.resubscribe (h : EventInv s) {q : Subscription}
    (hfree : (s.pc t).holds = none) (howes : (s.pc t).owes = 0)
    (hretry : (s.slots i).eState = .prepareRetransmit →
      ¬ (s.slots i).uiRetryCount + 1 > (s.slots i).uiMaxRetryCount) :
    EventInv (s.resubscribe t q i) := by
  unfold Comm.resubscribe retransmit
  by_cases hst : (s.slots i).eState = .prepareRetransmit
  · rw [if_neg (not_not.mpr hst)]
    dsimp only
    rw [if_neg (hretry hst)]
    dsimp only
    rw [if_pos rfl]
    have hlive : (s.slots i).Live := live_of_state hst (by decide) (by decide)
    refine h.acquire hfree howes (by rw [hst]; decide) ?_ rfl ((h.slot i).generation hlive)
    unfold CmdTransaction.Settled
    rw [hst]
    simp
  · rw [if_pos hst]
    dsimp only
    rw [write_same, if_neg (by decide)]
    exact h.goto (by rw [hfree]; rfl) (by rw [howes]; rfl) (by simp) (by simp)

omit [DecidableEq ι] in
theorem Looked.quiet {q : Subscription} {k : Nat} {bLocked : Bool} {p : Pc}
    (h : Looked s q k bLocked p) : p.holds = none ∧ p.owes = 0
      ∧ (∀ i g c, p ≠ .submitting i g c) ∧ ∀ i g n, p ≠ .freeing i g n true := by
  cases h <;> exact ⟨rfl, rfl, by simp, by simp⟩

theorem EventInv.look {bLock : Bool} (h : EventInv s) (hok : Handled s (.look t bLock))
    (hst : s.look t bLock = some s') : EventInv s' := by
  obtain ⟨q, k, stage, l, hpc, ⟨p, hp, rfl⟩ | ⟨hk, ⟨rfl, hlock⟩, hlive, hcmd, rfl⟩⟩ :=
    look_cases hst
  · obtain ⟨hholds, howes, hsub, hfree⟩ := hp.quiet
    refine h.goto ?_ ?_ (fun i g c heq => absurd heq (hsub i g c)) hfree
    · rw [hholds, hpc]
      rfl
    · rw [howes, hpc]
      rfl
  · exact h.resubscribe (by rw [hpc]; rfl) (by rw [hpc]; rfl) (hok q k l hpc hlock hk hcmd)

theorem nextGeneration_ne (g : UInt32) : nextGeneration g ≠ 0 := by
  unfold nextGeneration
  split
  · decide
  · next h => exact h

theorem EventInv.claim {bLock : Bool} (h : EventInv s) (hst : s.claim t bLock = some s') :
    EventInv s' := by
  obtain ⟨q, k, hpc, rfl | rfl | ⟨hk, ⟨-, -, hfree⟩, rfl⟩⟩ := claim_cases hst
  · exact h.goto (by rw [hpc]; rfl) (by rw [hpc]; rfl) (by simp) (by simp)
  · exact h.goto (by rw [hpc]; rfl) (by rw [hpc]; rfl) (by simp) (by simp)
  · refine h.acquire (by rw [hpc]; rfl) (by rw [hpc]; rfl) (by rw [hfree]; decide) ?_ rfl
      (nextGeneration_ne _)
    unfold CmdTransaction.Settled
    rw [hfree]
    simp

theorem reset_quiet (x : CmdTransaction) : (resetTransaction x).eState ≠ .waitingForTxCompletion
    ∧ ¬ (resetTransaction x).Settled
    ∧ ((resetTransaction x).Live → (resetTransaction x).uiGeneration ≠ 0) := by
  refine ⟨by simp [resetTransaction, CmdTransaction.init], ?_, fun h => absurd rfl h.1⟩
  unfold CmdTransaction.Settled
  simp [resetTransaction, CmdTransaction.init]

theorem EventInv.manage {bLock : Bool} {now : UInt64} (h : EventInv s)
    (hok : Handled s (.manage t bLock now)) (hst : s.manage t bLock now = some s') :
    EventInv s' := by
  obtain ⟨i, r, x, hpc, hx, rfl⟩ := manage_cases hst
  have hheld : (s.pc t).holds = some i := by rw [hpc]; rfl
  have hlive : (s.slots i).Live :=
    live_of_state ((h.slot i).held t hheld).1 (by decide) (by decide)
  show EventInv ((s.write i x).goto t (.finished .none))
  cases hx with
  | queued r hr now =>
    refine h.settle hheld rfl (by rw [hpc]; rfl) (by simp [backOff]) ?_
      fun _ => (h.slot i).generation hlive
    unfold CmdTransaction.Settled
    simp [backOff]
  | locked r hr =>
    rcases hok i r hpc with rfl | ⟨-, hlock⟩
    · rcases hr with hr | hr <;> cases hr
    · cases hlock
  | freed b =>
    obtain ⟨hwait, hset, hgen⟩ := reset_quiet (s.slots i)
    exact h.settle hheld rfl (by rw [hpc]; rfl) hwait hset hgen
  | left r hr b =>
    rcases hok i r hpc with rfl | ⟨rfl | rfl, -⟩
    · rcases hr with hr | ⟨code, hr⟩ <;> cases hr
    · rcases hr with hr | ⟨code, hr⟩ <;> cases hr
    · rcases hr with hr | ⟨code, hr⟩ <;> cases hr

theorem EventInv.free (h : EventInv s) (hst : s.free t = some s') : EventInv s' := by
  obtain ⟨i, g, n, l, hpc, rfl⟩ := free_cases hst
  obtain ⟨hwait, hset, hgen⟩ := reset_quiet (s.slots i)
  refine h.settle (by rw [hpc]; rfl) ?_ ?_ hwait hset hgen
  · split <;> rfl
  · rw [hpc]
    cases l with
    | true =>
      rw [(h.thread t).tells i g n hpc]
      rfl
    | false => split <;> rfl

theorem EventInv.tell (h : EventInv s) (hst : s.tell t = some s') : EventInv s' := by
  obtain ⟨l, hpc, rfl⟩ := tell_cases hst
  refine ⟨?_, ?_, h.distinct, h.range⟩
  · intro i
    have hview : SameView s { s with
        failures := if l = true then Function.update s.failures t (s.failures t + 1)
          else s.failures } i :=
      ⟨rfl, fun _ => Iff.rfl, fun _ _ => Iff.rfl, rfl, rfl, rfl, rfl⟩
    refine (h.slot i).congr (hview.trans (goto_view ?_ (by simp [Pc.holds])))
    show (s.pc t).holds ≠ some i
    rw [hpc]
    simp [Pc.holds]
  · intro t'
    by_cases ht : t' = t
    · subst ht
      refine ⟨?_, ?_, ?_⟩
      · intro i g c hp
        rw [goto_pc_self] at hp
        cases hp
      · have htold := (h.thread t').told
        rw [hpc] at htold
        rw [goto_pc_self]
        cases l with
        | false => exact htold
        | true =>
          show s.drops t' = Function.update s.failures t' (s.failures t' + 1) t' + 0
          rw [Function.update_self, htold]
          rfl
      · intro i g n hp
        rw [goto_pc_self] at hp
        cases hp
    · refine (h.thread t').congr (goto_pc_ne _ _ ht) rfl ?_ fun _ _ => rfl
      show (if l = true then Function.update s.failures t (s.failures t + 1) else s.failures) t' = _
      split
      · exact Function.update_of_ne ht ..
      · rfl

/-! ## §7. The manager thread. -/

omit [DecidableEq ι] in
theorem EventInv.handle (h : EventInv s) (m : CtrlMsg) (eCMD : SysMgmtCommand) (i : Slot)
    (hold : ∀ j, s.manager.reports j = false ∧ s.manager.releases j = false) :
    EventInv (s.handle m eCMD i) := by
  have hset : ¬ (s.slots i).Settled := by
    rw [(h.slot i).settled, (hold i).1, (hold i).2]
    simp
  -- no report is under way, so the entries and the results agree
  have hcount : s.entries i = s.results i := by
    have hc := (h.slot i).count
    rwa [(hold i).1] at hc
  unfold Comm.handle
  dsimp only
  rcases handleFound_cases m eCMD (s.slots i) with ⟨hs, hr⟩ | ⟨e, st, hst, hs, hcases⟩
  · rw [hs, hr, write_same]
    -- the frame does nothing to the transaction
    exact h.managerGoto hold fun _ => ⟨rfl, rfl⟩
  · have hlive : (s.slots i).Live := live_of_state hst (by decide) (by decide)
    have hgen := (h.slot i).generation hlive
    rw [hs]
    rcases hcases with ⟨rfl, hr⟩ | ⟨hfinal, hr⟩
    · rw [hr]
      -- an error that is not final: the transaction goes on waiting
      have hnot : ¬ CmdTransaction.Settled
          { s.slots i with eErrorCode := e, eState := .waitingForACK } := by
        unfold CmdTransaction.Settled
        simp
      refine h.managerWrite (by rw [hst]; decide) (by simp) (fun _ => hgen) ?_ ?_ ?_
      · intro j _
        exact ⟨(hold j).1, (hold j).2, rfl, rfl⟩
      · constructor
        · intro hs
          exact absurd hs hnot
        · rintro (hs | hs) <;> cases hs
      · rw [write_entries hnot]
        exact hcount
    · rw [hr, if_pos rfl]
      -- the transaction is settled, and its report is the next thing to do
      have hnew : CmdTransaction.Settled { s.slots i with eErrorCode := e, eState := st } := hfinal
      refine h.managerWrite (by rw [hst]; decide) ?_ (fun _ => hgen) ?_ ?_ ?_
      · rcases hfinal with rfl | rfl <;> simp
      · intro j hj
        refine ⟨(hold j).1, (hold j).2, ?_, rfl⟩
        exact decide_eq_false fun heq => hj heq.symm
      · constructor
        · intro _
          exact Or.inl (decide_eq_true rfl)
        · intro _
          exact hnew
      · have hrep : (ManagerPc.reporting i 0).reports i = true := decide_eq_true rfl
        rw [write_entries_settled hset hnew, hcount, if_pos hrep]

/-- Neither reporting nor releasing. -/
def ManagerPc.Quiet (m : ManagerPc) : Prop := ∀ j, m.reports j = false ∧ m.releases j = false

omit [DecidableEq ι] in
theorem EventInv.track {bLock b : Bool} (h : EventInv s) (hst : s.track bLock b = some s') :
    EventInv s' := by
  obtain ⟨k, hm, hcases⟩ := track_cases hst
  have hold : s.manager.Quiet := by
    intro j
    rw [hm]
    exact ⟨rfl, rfl⟩
  rcases hcases with rfl | rfl | ⟨hk, rfl⟩
  · exact h.managerGoto hold fun _ => ⟨rfl, rfl⟩
  · exact h.managerGoto hold fun _ => ⟨rfl, rfl⟩
  · unfold trackTransaction
    split
    · rw [write_same]
      exact h.managerGoto hold fun _ => ⟨rfl, rfl⟩
    · next hstate =>
      split
      · have hwait : (s.slots ⟨k, hk⟩).eState ≠ .waitingForTxCompletion := by
          intro heq
          exact hstate ⟨by rw [heq]; decide, by rw [heq]; decide⟩
        have hlive : (s.slots ⟨k, hk⟩).Live := by
          constructor
          · intro heq
            exact hstate ⟨by rw [heq]; decide, by rw [heq]; decide⟩
          · intro heq
            exact hstate ⟨by rw [heq]; decide, by rw [heq]; decide⟩
        have hnot : ¬ CmdTransaction.Settled
            { s.slots ⟨k, hk⟩ with eState := .prepareRetransmit } := by
          unfold CmdTransaction.Settled
          simp
        have hcount := (h.slot ⟨k, hk⟩).count
        rw [(hold _).1] at hcount
        refine h.managerWrite hwait (by simp) (fun _ => (h.slot _).generation hlive) ?_ ?_ ?_
        · intro j _
          exact ⟨(hold j).1, (hold j).2, rfl, rfl⟩
        · constructor
          · intro hs
            exact absurd hs hnot
          · rintro (hs | hs) <;> cases hs
        · dsimp only
          rw [write_entries hnot]
          exact hcount
      · rw [write_same]
        exact h.managerGoto hold fun _ => ⟨rfl, rfl⟩

omit [DecidableEq ι] in
theorem EventInv.mark (h : EventInv s) (hst : s.mark = some s') : EventInv s' := by
  obtain ⟨i, hm, rfl⟩ := mark_cases hst
  have hold : s.manager.Quiet := by
    intro j
    rw [hm]
    exact ⟨rfl, rfl⟩
  unfold markFailed
  split
  · next hstate =>
    have hlive : (s.slots i).Live := live_of_state hstate (by decide) (by decide)
    have hset : ¬ (s.slots i).Settled := by
      unfold CmdTransaction.Settled
      rw [hstate]
      simp
    have hnew : CmdTransaction.Settled
        { s.slots i with eErrorCode := .invalidRetransmitRequest, eState := .failed } := Or.inl rfl
    have hcount := (h.slot i).count
    rw [(hold _).1] at hcount
    refine h.managerWrite (by rw [hstate]; decide) (by simp)
      (fun _ => (h.slot _).generation hlive) ?_ ?_ ?_
    · intro j hj
      refine ⟨(hold j).1, (hold j).2, ?_, rfl⟩
      exact decide_eq_false fun heq => hj heq.symm
    · constructor
      · intro _
        exact Or.inl (decide_eq_true rfl)
      · intro _
        exact hnew
    · have hrep : (ManagerPc.reporting i (i + 1)).reports i = true := decide_eq_true rfl
      rw [write_entries_settled hset hnew, hcount]
      dsimp only
      rw [if_pos rfl, if_pos hrep]
      rfl
  · rw [write_same]
    exact h.managerGoto hold fun _ => ⟨rfl, rfl⟩

omit [DecidableEq ι] in
theorem EventInv.report {b : Bool} (h : EventInv s) (hok : Contract s (.report b))
    (hst : s.report b = some s') : EventInv s' := by
  obtain ⟨i, k, hm, rfl⟩ := report_cases hst
  have hb : b = true := hok
  subst hb
  refine ⟨?_, fun t => (h.thread t).congr rfl rfl rfl fun _ _ => rfl, h.distinct, h.range⟩
  intro j
  by_cases hj : j = i
  · subst hj
    have hslot := h.slot j
    refine ⟨hslot.held, hslot.flight, hslot.awaited, hslot.generation, ?_, ?_⟩
    · have hset : (s.slots j).Settled := by
        rw [hslot.settled, hm]
        exact Or.inl (decide_eq_true rfl)
      constructor
      · intro _
        exact Or.inr (decide_eq_true rfl)
      · intro _
        exact hset
    · have hrep : (ManagerPc.reporting j k).reports j = true := decide_eq_true rfl
      have hcount := hslot.count
      rw [hm, if_pos hrep] at hcount
      show s.entries j = Function.update s.results j (s.results j + 1) j + 0
      rw [Function.update_self]
      exact hcount
  · refine (h.slot j).congr ⟨rfl, fun _ => Iff.rfl, fun _ _ => Iff.rfl, ?_, ?_, rfl,
      Function.update_of_ne hj ..⟩
    · rw [hm]
      exact (decide_eq_false fun heq => hj heq.symm).symm
    · rw [hm]
      exact decide_eq_false fun heq => hj heq.symm

omit [DecidableEq ι] in
theorem EventInv.release (h : EventInv s) (hst : s.release = some s') : EventInv s' := by
  obtain ⟨i, k, hm, rfl⟩ := release_cases hst
  obtain ⟨hwait, hset, hgen⟩ := reset_quiet (s.slots i)
  have hsettled : (s.slots i).Settled := by
    rw [(h.slot i).settled, hm]
    exact Or.inr (decide_eq_true rfl)
  refine h.managerWrite ?_ hwait hgen ?_ ?_ ?_
  · intro heq
    unfold CmdTransaction.Settled at hsettled
    rw [heq] at hsettled
    rcases hsettled with hs | hs <;> cases hs
  · intro j hj
    rw [hm]
    exact ⟨rfl, decide_eq_false fun heq => hj heq.symm, rfl, rfl⟩
  · constructor
    · intro hs
      exact absurd hs hset
    · rintro (hs | hs) <;> cases hs
  · have hcount := (h.slot i).count
    rw [hm] at hcount
    rw [write_entries hset]
    exact hcount

theorem EventInv.step {lengths : PayloadLengths} {a : Act ι} (h : EventInv s)
    (hcon : Contract s a) (hok : Handled s a) (hst : s.step lengths a = some s') :
    EventInv s' := by
  cases a with
  | look t b => exact h.look hok hst
  | claim t b => exact h.claim hst
  | manage t b now => exact h.manage hok hst
  | complete t sub r e now => exact h.complete hok hst
  | free t => exact h.free hst
  | tell t => exact h.tell hst
  | track b1 b2 => exact h.track hst
  | mark => exact h.mark hst
  | report b => exact h.report hcon hst
  | release => exact h.release hst
  -- the application frees no slot by itself
  | appFree i => exact absurd hcon id
  | subscribe t d b n ms =>
    obtain ⟨hready, ⟨e, -, rfl⟩ | ⟨c, -, rfl⟩⟩ := subscribe_cases hst
    · exact h.goto (by rw [hready.1]; rfl) (by rw [hready.1]; rfl) (by simp) (by simp)
    · exact h.goto (by rw [hready.1]; rfl) (by rw [hready.1]; rfl) (by simp) (by simp)
  | stamp t b =>
    obtain ⟨i, g, hpc, rfl | rfl⟩ := stamp_cases hst
    · exact h.goto (by rw [hpc]; rfl) (by rw [hpc]; rfl) (by simp) (by simp)
    · refine h.goto (by rw [hpc]; rfl) (by rw [hpc]; rfl) ?_ (by simp)
      intro i' g' c heq
      cases heq
      rfl
  | submit t r =>
    obtain ⟨i, g, c, hpc, ⟨-, rfl⟩ | ⟨-, rfl⟩⟩ := submit_cases hst
    · exact h.submitted hpc
    · exact h.goto (by rw [hpc]; rfl) (by rw [hpc]; rfl) (by simp) (by simp)
  | leave t =>
    obtain ⟨-, ⟨e, hpc⟩, rfl⟩ := leave_cases hst
    exact h.goto (by rw [hpc]; rfl) (by rw [hpc]; rfl) (by simp) (by simp)
  | receive f =>
    obtain ⟨hm, hcases⟩ := receive_cases hst
    -- the manager is between two frames: it reports nothing and releases nothing
    have hold : s.manager.Quiet := by
      intro j
      rw [hm]
      exact ⟨rfl, rfl⟩
    rcases hcases with rfl | ⟨m, c, rfl⟩
    · exact h.managerGoto hold fun _ => ⟨rfl, rfl⟩
    · exact h.managerGoto hold fun _ => ⟨rfl, rfl⟩
  | find b =>
    obtain ⟨m, c, k, stage, hm, hcases⟩ := find_cases hst
    have hold : s.manager.Quiet := by
      intro j
      rw [hm]
      exact ⟨rfl, rfl⟩
    rcases hcases with rfl | ⟨k', stage', rfl⟩ | ⟨hk, rfl⟩
    · exact h.managerGoto hold fun _ => ⟨rfl, rfl⟩
    · exact h.managerGoto hold fun _ => ⟨rfl, rfl⟩
    · exact h.handle m c _ hold
  | answer b =>
    obtain ⟨i, hm, hpc, rfl⟩ := answer_cases hst
    have hgoto : EventInv (s.goto .manager .idle) := by
      rcases hpc with hpc | ⟨e, hpc⟩
      · exact h.goto (by rw [hpc]) (by rw [hpc]) (by simp) (by simp)
      · exact h.goto (by rw [hpc]; rfl) (by rw [hpc]; rfl) (by simp) (by simp)
    refine hgoto.managerGoto ?_ ?_
    · intro j
      rw [goto_manager, hm]
      exact ⟨rfl, rfl⟩
    · intro j
      split <;> exact ⟨rfl, rfl⟩
  | revise c v =>
    cases hst
    obtain ⟨r, hr⟩ := revise_eq s c v
    rw [hr]
    exact ⟨fun i => (h.slot i).congr ⟨rfl, fun _ => Iff.rfl, fun _ _ => Iff.rfl, rfl, rfl, rfl, rfl⟩,
      fun t => (h.thread t).congr rfl rfl rfl fun _ _ => rfl, h.distinct, h.range⟩

theorem EventInv.reachable {lengths : PayloadLengths}
    (h : (commSystem ι lengths).ReachableVia (fun s a => Contract s a ∧ Handled s a) s) :
    EventInv s := by
  refine TransSys.ReachableVia.invariant (I := EventInv) ?_ ?_ h
  · rintro s rfl
    exact EventInv.init
  · intro s a s' hi hok hst
    exact hi.step hok.1 hok.2 hst

/-! ## §8. The reports. -/

/-- Every event is reported, and no slot waits for one that cannot come. -/
structure Accounted (s : Comm ι) : Prop where
  /-- Each entry into `Failed` or `Dest_ACK` has one report, made or next. -/
  reported : ∀ i, s.entries i = s.results i + if s.manager.reports i = true then 1 else 0
  /-- So has each lost message that required an ACK. -/
  told : ∀ t, s.drops t = s.failures t + (s.pc t).owes
  /-- The report of a lost message is made once the slot is freed. -/
  tells : ∀ t i g bNotify, s.pc t = .freeing i g bNotify true → bNotify = true
  /-- A slot in `Failed` or `Dest_ACK` is the one being reported or freed. -/
  settled : ∀ i, (s.slots i).Settled → s.manager.reports i = true ∨ s.manager.releases i = true
  /-- A slot that waits for a completion has one to come: a thread is sending
  its message or freeing it, or the driver has its submission. -/
  awaited : ∀ i, (s.slots i).eState = .waitingForTxCompletion →
    (∃ t, (s.pc t).holds = some i)
      ∨ ∃ sub ∈ s.inFlight, sub.context.uiTransactionIndex = i ∧ Matches (s.slots i) sub.context

omit [DecidableEq ι] in
theorem EventInv.accounted (h : EventInv s) : Accounted s where
  reported i := (h.slot i).count
  told t := (h.thread t).told
  tells t := (h.thread t).tells
  settled i hs := (h.slot i).settled.mp hs
  awaited i hs := by
    rcases (h.slot i).awaited hs with ht | ⟨sub, hsub, heq⟩
    · exact Or.inl ht
    · exact Or.inr ⟨sub, hsub, heq, (h.slot i).flight sub hsub heq⟩

/-- A completion that matches its slot ends the wait, or frees the slot next. -/
def EndsWait (s' : Comm ι) (t : Thread ι) (i : Slot) : Prop :=
  (s'.slots i).eState ≠ .waitingForTxCompletion ∨ ∃ g n l, s'.pc t = .freeing i g n l

theorem EventInv.complete_ends (h : EventInv s) {sub : Submission} {r : TxCompleteResult}
    {e : Int} {now : UInt64} (hknown : ∀ code, r = .other code → e < 0)
    (hst : s.complete t sub r e now = some s') (hi : sub.context.uiTransactionIndex = i)
    (hm : Matches (s.slots i) sub.context) : EndsWait s' t i := by
  obtain ⟨-, -, hsub, hcases⟩ := complete_cases hst
  have hgen := (h.slot i).generation (live_of_state hm.1 (by decide) (by decide))
  have hslot : ∀ hk, (⟨sub.context.uiTransactionIndex, hk⟩ : Slot) = i :=
    fun hk => Fin.ext hi
  rcases hcases with ⟨-, hg | hno⟩ | ⟨hk, -, ⟨x, hx, rfl⟩ | ⟨n, l, -, -, rfl⟩⟩
  · exact absurd (hm.2.2.1.trans hg) hgen
  · have hlt := h.range sub hsub
    exact absurd (hslot hlt ▸ hm) (hno hlt)
  · obtain rfl := hslot hk
    refine Or.inl ?_
    rw [write_slot_self]
    rcases (complete_written hx hknown).1 with hxst | hxst <;> rw [hxst] <;> decide
  · obtain rfl := hslot hk
    refine Or.inr ⟨sub.uiGeneration, n, l, ?_⟩
    rw [goto_pc_self]

theorem free_frees {g : UInt32} {n l : Bool} (hpc : s.pc t = .freeing i g n l) (hst : s.free t = some s') :
    (s'.slots i).eState = .free := by
  obtain ⟨i', g', n', l', hpc', rfl⟩ := free_cases hst
  rw [hpc] at hpc'
  cases hpc'
  rw [goto_slots, write_slot_self]
  rfl

/-- **Every transaction comes to its report.**  With the callbacks as
registered, in every run where each re-subscription finds a retry left, each
unnamed result comes with a driver error, and `bManage_TransmissionError` gets
its mutex and a code that it handles: every failed, answered or lost
transaction is reported once, no slot stays in `Failed`, `Dest_ACK` or
`WaitingFor_TxCompletion`, and a completion that matches its slot ends the
wait or makes its thread free the slot, which ends it too. -/
theorem transactions_reported {lengths : PayloadLengths}
    (h : (commSystem ι lengths).ReachableVia (fun s a => Contract s a ∧ Handled s a) s) :
    Accounted s
      ∧ (∀ t sub r e now s', (commSystem ι lengths).step s (.complete t sub r e now) s' →
        Handled s (.complete t sub r e now) → ∀ i : Slot, sub.context.uiTransactionIndex = i →
          Matches (s.slots i) sub.context → EndsWait s' t i)
      ∧ ∀ t i g n l s', s.pc t = .freeing i g n l → (commSystem ι lengths).step s (.free t) s' →
        (s'.slots i).eState = .free := by
  have hi := EventInv.reachable h
  refine ⟨hi.accounted, ?_, ?_⟩
  · intro t sub r e now s' hst hok i hidx hm
    exact hi.complete_ends hok hst hidx hm
  · intro t i g n l s' hpc hst
    exact free_frees hpc hst

/-! ## §9. A run with a report, and one without. -/

/-- One thread sends a message, whose completion is a success; the manager
thread sends none. -/
def Plain (s : Comm Unit) : Act Unit → Prop
  | .subscribe t .. => t ≠ .manager
  | .look .. => ∀ i, (s.slots i).eState ≠ .prepareRetransmit
  | .complete _ _ eResult _ _ => eResult = .success
  | .report bFrees => bFrees = true
  | .manage .. | .answer _ | .appFree _ => False
  | _ => True

instance (s : Comm Unit) : DecidablePred (Plain s) := by
  intro a
  cases a <;> unfold Plain <;> infer_instance

theorem Plain.sound {s : Comm Unit} {a : Act Unit} (h : Plain s a) :
    Contract s a ∧ Handled s a := by
  cases a with
  | subscribe t d b n ms => exact ⟨fun ht => absurd ht h, trivial⟩
  | look t b =>
    refine ⟨trivial, ?_⟩
    intro q k l _ _ hk _ hst
    exact absurd hst (h ⟨k, hk⟩)
  | complete t sub r e now =>
    obtain rfl : r = .success := h
    exact ⟨trivial, fun code hcode => by cases hcode⟩
  | report b => exact ⟨h, trivial⟩
  | manage | answer | appFree => exact absurd h id
  | claim | stamp | submit | leave | free | tell | receive | find | track | mark | release
  | revise => exact ⟨trivial, trivial⟩

/-- The frame that acknowledges the command 20 in its first revision. -/
def ackFrame : CanFrame :=
  frameOf (ackNackData .ack .none 20 0) (by decide)

/-- The thread sends the command 20, the host acknowledges it, and the result
is reported. -/
def acknowledged {ι : Type} (t : Thread ι) : List (Act ι) :=
  subscribeCommand t 20 ++ [Act.claim t true, Act.stamp t false, Act.submit t .queued,
    Act.leave t, Act.complete t ⟨⟨1, 20, 0, 0⟩, 1⟩ .success 0 0, Act.receive (some ackFrame),
    Act.find true, Act.find true, Act.find true, Act.report true]

/-- The slot entered `Dest_ACK` once, and was reported once. -/
theorem transactions_reported_first :
    ∃ s : Comm Unit, (commSystem Unit none).ReachableVia (fun s a => Contract s a ∧ Handled s a) s
      ∧ s.entries firstSlot = 1 ∧ s.results firstSlot = 1 ∧ Accounted s := by
  have hrun : (((acknowledged (.app ())).foldlM (TransSys.guarded Plain (Comm.step none))
      Comm.init).map fun s => decide (s.entries firstSlot = 1 ∧ s.results firstSlot = 1))
        = some true := by
    decide +kernel
  obtain ⟨s, hs, hfacts⟩ := Option.map_eq_some_iff.mp hrun
  obtain ⟨hentries, hresults⟩ := of_decide_eq_true hfacts
  have hreach : (commSystem Unit none).ReachableVia (fun s a => Contract s a ∧ Handled s a) s :=
    TransSys.ReachableVia.foldlM (fun _ _ _ h => ⟨(TransSys.guarded_some h).1.sound,
      (TransSys.guarded_some h).2⟩) (.init rfl) _ hs
  exact ⟨s, hreach, hentries, hresults, (transactions_reported hreach).1⟩

/-- The callbacks for a message of the command 20. -/
def Retries (s : Comm Unit) : Act Unit → Prop
  | .subscribe t puiData .. => t = .manager →
      puiData = some [20] ∧ ∀ i, s.manager = .retransmitting i → (s.slots i).eCommand = 20
  | .answer bIsDispatch => s.pc .manager = .finished .transactionMaxRetryReach
      ∧ bIsDispatch = false
  | .report bFrees => bFrees = true
  | .appFree _ => False
  | _ => True

/-- The transaction in retransmission, if there is one, is for command 20. -/
def decidableRetransmits (s : Comm Unit) (m : ManagerPc) :
    Decidable (∀ i, m = .retransmitting i → (s.slots i).eCommand = 20) :=
  match m with
  | .retransmitting i =>
    if h : (s.slots i).eCommand = 20 then .isTrue fun _ heq => by cases heq; exact h
    else .isFalse fun hall => h (hall i rfl)
  | .waiting | .finding .. | .tracking _ | .marking _ | .reporting .. | .releasing .. =>
    .isTrue fun _ heq => by cases heq

instance (s : Comm Unit) : DecidablePred (Retries s) := by
  intro a
  have hretransmits := decidableRetransmits s s.manager
  cases a <;> unfold Retries <;> infer_instance

theorem Retries.contract {s : Comm Unit} {a : Act Unit} (h : Retries s a) : Contract s a := by
  cases a with
  | subscribe t d b n ms =>
    intro ht i hm
    obtain ⟨rfl, hcmd⟩ := h ht
    rw [hcmd i hm]
    rfl
  | answer b =>
    obtain ⟨hpc, rfl⟩ := h
    exact ⟨_, hpc, rfl⟩
  | report b => exact h
  | appFree i => exact h
  | look | complete | manage | claim | stamp | submit | leave | free | tell | receive | find
  | track | mark | release | revise => exact trivial

/-- The command 20 with no retry: its ACK does not come, the manager thread
subscribes it again and is refused. -/
def lastRetry : List (Act Unit) :=
  [Act.subscribe (.app ()) (some [20]) true 0 100] ++ List.replicate 21 (Act.look (.app ()) true)
    ++ [Act.claim (.app ()) true, Act.stamp (.app ()) false, Act.submit (.app ()) .queued,
      Act.leave (.app ()), Act.complete (.app ()) ⟨⟨1, 20, 0, 0⟩, 1⟩ .success 0 0,
      Act.receive none, Act.track true true, Act.subscribe .manager (some [20]) true 0 100]
    ++ List.replicate 3 (Act.look .manager true) ++ [Act.answer false, Act.mark]

/-- The slot is left in `Failed`, and the tracking goes on without a report. -/
theorem transaction_unreported :
    ¬ ∀ s : Comm Unit, (commSystem Unit none).ReachableVia Contract s → Accounted s := by
  intro h
  have hrun : ((lastRetry.foldlM (TransSys.guarded Retries (Comm.step none)) Comm.init).map
      fun s => decide ((s.slots firstSlot).eState = .failed ∧ s.manager = .tracking 1))
        = some true := by
    decide +kernel
  obtain ⟨s, hs, hfacts⟩ := Option.map_eq_some_iff.mp hrun
  obtain ⟨hstate, hm⟩ := of_decide_eq_true hfacts
  have hreach : (commSystem Unit none).ReachableVia Contract s :=
    TransSys.ReachableVia.foldlM (fun _ _ _ h => ⟨(TransSys.guarded_some h).1.contract,
      (TransSys.guarded_some h).2⟩) (.init rfl) _ hs
  rcases (h s hreach).settled firstSlot (Or.inl hstate) with hr | hl
  · rw [hm] at hr
    cases hr
  · rw [hm] at hl
    cases hl

end WallController.CommManager
