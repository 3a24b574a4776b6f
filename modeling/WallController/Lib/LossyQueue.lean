/-
  WallController.Lib.LossyQueue
  ────────────────────────────────
  **A BOUNDED QUEUE THAT GIVES UP ITS OLDEST MESSAGES.**

  Producers submit messages to a queue of `cap` places and never wait.  A
  submission looks whether there is room; if there is none it takes the oldest
  message out, and then it puts its own in.  The look, the taking and the
  putting are calls of their own, and whatever other producers and the reader do
  may come between them.

      accounted    nothing is lost without a trace: what is taken out, and what
                   waits, is what was put in, in this order
      newest_kept  where no submission is interrupted, no message is refused,
                   and the newest `cap` messages are never given up
-/
import WallController.Lib.Runs
import Mathlib

namespace WallController.Lib

/-- Where a producer stands. -/
inductive Producer (α : Type) where
  | idle
  /-- It has found room. -/
  | free (m : α)
  /-- It has found none. -/
  | full (m : α)
  /-- It has taken the oldest message out. -/
  | putting (m : α)
  deriving DecidableEq, Repr

/-- How a message has left the queue. -/
inductive Fate where
  | received
  | dropped
  deriving DecidableEq, Repr

/-- The queue, its producers, and what has happened, oldest first. -/
structure LossyQueue (ι α : Type) where
  queue : List α
  producers : ι → Producer α
  submitted : List α
  put : List α
  taken : List (Fate × α)
  refused : List α

namespace LossyQueue

inductive Act (ι α : Type) where
  | submit (i : ι) (m : α)
  /-- The next call of the submission. -/
  | act (i : ι)
  | receive
  deriving DecidableEq, Repr

variable {ι α : Type} [DecidableEq ι] (cap : Nat)

/-! ## §1. The calls. -/

def empty : LossyQueue ι α where
  queue := []
  producers _ := .idle
  submitted := []
  put := []
  taken := []
  refused := []

variable (q : LossyQueue ι α)

/-- The look. -/
def submit (i : ι) (m : α) : LossyQueue ι α :=
  { q with
    producers := Function.update q.producers i (if q.queue.length < cap then .free m else .full m)
    submitted := q.submitted ++ [m] }

/-- The put, which fails on a full queue. -/
def putMsg (i : ι) (m : α) : LossyQueue ι α :=
  if q.queue.length < cap then
    { q with
      queue := q.queue ++ [m]
      put := q.put ++ [m]
      producers := Function.update q.producers i .idle }
  else
    { q with
      refused := q.refused ++ [m]
      producers := Function.update q.producers i .idle }

/-- The oldest message, if there is one, leaves the queue. -/
def takeMsg (fate : Fate) : LossyQueue ι α :=
  match q.queue with
  | [] => q
  | m :: queue => { q with queue := queue, taken := q.taken ++ [(fate, m)] }

def step : Act ι α → Option (LossyQueue ι α)
  | .submit i m =>
    match q.producers i with
    | .idle => some (q.submit cap i m)
    | .free _ | .full _ | .putting _ => none
  | .act i =>
    match q.producers i with
    | .idle => none
    | .free m | .putting m => some (q.putMsg cap i m)
    | .full m =>
      let q := q.takeMsg .dropped
      some { q with producers := Function.update q.producers i (.putting m) }
  | .receive => if q.queue = [] then none else some (q.takeMsg .received)

section

omit [DecidableEq ι]

/-- The oldest message is taken; the others keep their order. -/
theorem takeMsg_cases (q : LossyQueue ι α) (fate : Fate) :
    (q.queue = [] ∧ q.takeMsg fate = q) ∨
      ∃ m queue, q.queue = m :: queue ∧
        q.takeMsg fate = { q with queue := queue, taken := q.taken ++ [(fate, m)] } := by
  unfold takeMsg
  cases hq : q.queue with
  | nil => exact Or.inl ⟨rfl, rfl⟩
  | cons m queue => exact Or.inr ⟨m, queue, rfl, rfl⟩

@[simp] theorem takeMsg_producers (q : LossyQueue ι α) (fate : Fate) :
    (q.takeMsg fate).producers = q.producers := by
  rcases takeMsg_cases q fate with ⟨_, heq⟩ | ⟨_, _, _, heq⟩ <;> rw [heq]

/-- What was waiting first is now what was taken last. -/
theorem taken_append (taken : List (Fate × α)) (fate : Fate) (m : α) (queue : List α) :
    (taken ++ [(fate, m)]).map (fun t => t.2) ++ queue = taken.map (fun t => t.2) ++ m :: queue := by
  rw [List.map_append, List.append_assoc]
  rfl

end

/-- One producer has moved; the others are idle. -/
theorem eq_of_update_ne {f : ι → Producer α} {i : ι} {p : Producer α}
    (hidle : ∀ j, j ≠ i → f j = .idle) {j : ι} (hj : Function.update f i p j ≠ .idle) : j = i := by
  by_contra hne
  rw [Function.update_of_ne hne] at hj
  exact hj (hidle j hne)

variable {q} {q' : LossyQueue ι α} {cap}

/-- What a step is. -/
theorem step_cases {a : Act ι α} (h : q.step cap a = some q') :
    (∃ i m, a = .submit i m ∧ q.producers i = .idle ∧ q' = q.submit cap i m) ∨
      (∃ i m, a = .act i ∧ (q.producers i = .free m ∨ q.producers i = .putting m) ∧
        q' = q.putMsg cap i m) ∨
      (∃ i m, a = .act i ∧ q.producers i = .full m ∧
        q' = { q.takeMsg .dropped with
          producers := Function.update q.producers i (.putting m) }) ∨
      (a = .receive ∧ q.queue ≠ [] ∧ q' = q.takeMsg .received) := by
  cases a with
  | submit i m =>
    cases hi : q.producers i with
    | idle =>
      simp only [step, hi] at h
      exact Or.inl ⟨i, m, rfl, hi, (Option.some.inj h).symm⟩
    | free | full | putting =>
      simp only [step, hi] at h
      exact absurd h (by simp)
  | act i =>
    cases hi : q.producers i with
    | idle =>
      simp only [step, hi] at h
      exact absurd h (by simp)
    | free m =>
      simp only [step, hi] at h
      exact Or.inr (Or.inl ⟨i, m, rfl, Or.inl hi, (Option.some.inj h).symm⟩)
    | putting m =>
      simp only [step, hi] at h
      exact Or.inr (Or.inl ⟨i, m, rfl, Or.inr hi, (Option.some.inj h).symm⟩)
    | full m =>
      simp only [step, hi, takeMsg_producers] at h
      exact Or.inr (Or.inr (Or.inl ⟨i, m, rfl, hi, (Option.some.inj h).symm⟩))
  | receive =>
    have h' : (if q.queue = [] then none else some (q.takeMsg .received)) = some q' := h
    split at h'
    · exact absurd h' (by simp)
    · next hne => exact Or.inr (Or.inr (Or.inr ⟨rfl, hne, (Option.some.inj h').symm⟩))

def queueSystem (ι α : Type) [DecidableEq ι] (cap : Nat) : TransSys (LossyQueue ι α) (Act ι α) where
  init q := q = empty
  step q a q' := q.step cap a = some q'

/-! ## §2. Nothing is lost without a trace. -/

/-- What a producer has submitted, and not put yet. -/
def Producer.weight (w : α → Int) : Producer α → Int
  | .idle => 0
  | .free m | .full m | .putting m => w m

/-- The sum of a weight over a list of messages. -/
def total (w : α → Int) (ms : List α) : Int := (ms.map w).sum

theorem total_append (w : α → Int) (ms ms' : List α) : total w (ms ++ ms') = total w ms + total w ms' := by
  unfold total
  rw [List.map_append, List.sum_append]

theorem total_singleton (w : α → Int) (m : α) : total w [m] = w m := by
  unfold total
  rw [List.map_singleton, List.sum_singleton]

/-- The messages that have left the queue in one way. -/
def leaving (fate : Fate) (taken : List (Fate × α)) : List α :=
  (taken.filter fun t => decide (t.1 = fate)).map fun t => t.2

theorem total_taken (w : α → Int) (taken : List (Fate × α)) :
    total w (taken.map fun t => t.2)
      = total w (leaving .received taken) + total w (leaving .dropped taken) := by
  induction taken with
  | nil => rfl
  | cons t taken ih =>
    obtain ⟨fate, m⟩ := t
    have hcons : ∀ ms, total w (m :: ms) = w m + total w ms := fun ms => List.sum_cons
    rw [List.map_cons, hcons, ih]
    cases fate with
    | received =>
      show _ = total w (m :: leaving .received taken) + total w (leaving .dropped taken)
      rw [hcons]
      omega
    | dropped =>
      show _ = total w (leaving .received taken) + total w (m :: leaving .dropped taken)
      rw [hcons]
      omega

variable [Fintype ι]

/-- What is under way. -/
def underWay (w : α → Int) (q : LossyQueue ι α) : Int := ∑ i, Producer.weight w (q.producers i)

theorem sum_update (w : α → Int) (f : ι → Producer α) (i : ι) (p : Producer α) :
    ∑ j, Producer.weight w (Function.update f i p j) + Producer.weight w (f i)
      = ∑ j, Producer.weight w (f j) + Producer.weight w p := by
  rw [← Finset.add_sum_erase Finset.univ _ (Finset.mem_univ i),
    ← Finset.add_sum_erase Finset.univ (fun j => Producer.weight w (f j)) (Finset.mem_univ i)]
  have hrest : ∑ j ∈ Finset.univ.erase i, Producer.weight w (Function.update f i p j)
      = ∑ j ∈ Finset.univ.erase i, Producer.weight w (f j) := by
    refine Finset.sum_congr rfl ?_
    intro j hj
    rw [Function.update_of_ne (Finset.ne_of_mem_erase hj)]
  rw [hrest, Function.update_self]
  omega

/-- The account of a queue. -/
structure Accounted (cap : Nat) (q : LossyQueue ι α) : Prop where
  bounded : q.queue.length ≤ cap
  order : q.put = q.taken.map (fun t => t.2) ++ q.queue
  balance : ∀ w, total w q.submitted = total w q.put + total w q.refused + underWay w q

omit [DecidableEq ι] in
theorem Accounted.empty (cap : Nat) : Accounted cap (empty : LossyQueue ι α) where
  bounded := Nat.zero_le _
  order := rfl
  balance w := by
    show 0 = 0 + 0 + ∑ i : ι, (0 : Int)
    rw [Finset.sum_const_zero]
    rfl

theorem Accounted.submit (h : q.Accounted cap) {i : ι} (hi : q.producers i = .idle) (m : α) :
    (q.submit cap i m).Accounted cap where
  bounded := h.bounded
  order := h.order
  balance w := by
    have hsum := sum_update w q.producers i (if q.queue.length < cap then .free m else .full m)
    have hm : Producer.weight w (if q.queue.length < cap then .free m else .full m) = w m := by
      split <;> rfl
    have hold := h.balance w
    rw [hi, hm] at hsum
    show total w (q.submitted ++ [m]) = total w q.put + total w q.refused
      + ∑ j, Producer.weight w (Function.update q.producers i _ j)
    rw [total_append, total_singleton, hold]
    unfold underWay
    have hidle : Producer.weight w (.idle : Producer α) = 0 := rfl
    omega

theorem Accounted.putMsg (h : q.Accounted cap) {i : ι} {m : α}
    (hi : ∀ w, Producer.weight w (q.producers i) = w m) : (q.putMsg cap i m).Accounted cap := by
  have hsum : ∀ w, ∑ j, Producer.weight w (Function.update q.producers i .idle j) + w m
      = ∑ j, Producer.weight w (q.producers j) := by
    intro w
    have hsum := sum_update w q.producers i .idle
    rw [hi] at hsum
    exact hsum.trans (Int.add_zero _)
  unfold LossyQueue.putMsg
  split
  · next hlt =>
    refine ⟨?_, ?_, ?_⟩
    · show (q.queue ++ [m]).length ≤ cap
      rw [List.length_append]
      exact hlt
    · show q.put ++ [m] = q.taken.map (fun t => t.2) ++ (q.queue ++ [m])
      rw [h.order, List.append_assoc]
    · intro w
      have hold := h.balance w
      have hnew := hsum w
      unfold underWay at hold
      show total w q.submitted = total w (q.put ++ [m]) + total w q.refused
        + ∑ j, Producer.weight w (Function.update q.producers i .idle j)
      rw [total_append, total_singleton]
      omega
  · refine ⟨h.bounded, h.order, ?_⟩
    intro w
    have hold := h.balance w
    have hnew := hsum w
    unfold underWay at hold
    show total w q.submitted = total w q.put + total w (q.refused ++ [m])
      + ∑ j, Producer.weight w (Function.update q.producers i .idle j)
    rw [total_append, total_singleton]
    omega

omit [DecidableEq ι] in
theorem Accounted.takeMsg (h : q.Accounted cap) (fate : Fate) : (q.takeMsg fate).Accounted cap := by
  rcases takeMsg_cases q fate with ⟨_, heq⟩ | ⟨m, queue, hq, heq⟩
  · rw [heq]
    exact h
  · rw [heq]
    have hbounded := h.bounded
    have horder := h.order
    rw [hq] at hbounded horder
    refine ⟨?_, ?_, h.balance⟩
    · exact Nat.le_of_succ_le hbounded
    · exact horder.trans (taken_append _ _ _ _).symm

theorem Accounted.step {a : Act ι α} (h : q.Accounted cap) (hst : q.step cap a = some q') :
    q'.Accounted cap := by
  rcases step_cases hst with ⟨i, m, rfl, hi, rfl⟩ | ⟨i, m, rfl, hi, rfl⟩ | ⟨i, m, rfl, hi, rfl⟩ |
    ⟨rfl, _, rfl⟩
  · exact h.submit hi m
  · refine h.putMsg ?_
    intro w
    rcases hi with hi | hi <;> (rw [hi]; rfl)
  · have htake := h.takeMsg .dropped
    refine ⟨htake.bounded, htake.order, ?_⟩
    intro w
    have hsum := sum_update w q.producers i (.putting m)
    rw [hi] at hsum
    have hold := htake.balance w
    unfold underWay at hold ⊢
    rw [takeMsg_producers] at hold
    have hm : Producer.weight w (.full m) = Producer.weight w (.putting m) := rfl
    show total w (q.takeMsg .dropped).submitted
      = total w (q.takeMsg .dropped).put + total w (q.takeMsg .dropped).refused
        + ∑ j, Producer.weight w (Function.update q.producers i (.putting m) j)
    omega
  · exact h.takeMsg .received

theorem accounted (h : (queueSystem ι α cap).Reachable q) : q.Accounted cap := by
  refine TransSys.Reachable.invariant ?_ ?_ h
  · intro q hq
    rw [show q = LossyQueue.empty from hq]
    exact .empty cap
  · intro q a q' hi hst
    exact hi.step hst

/-! ## §3. Submissions that are not interrupted. -/

omit [Fintype ι]

/-- While a submission is under way, only its own calls are made. -/
def Alone (q : LossyQueue ι α) (a : Act ι α) : Prop := ∀ i, q.producers i ≠ .idle → a = .act i

/-- What a submission has seen is still so. -/
def Seen (cap : Nat) (q : LossyQueue ι α) : Producer α → Prop
  | .idle => True
  | .free _ | .putting _ => q.queue.length < cap
  | .full _ => q.queue.length = cap

/-- Only messages older than the newest `cap` have been given up; the last of these may be
about to be put. -/
def Kept (cap : Nat) (q : LossyQueue ι α) : Prop :=
  ∀ k m, q.taken[k]? = some (.dropped, m) →
    k + cap < q.put.length ∨ (k + cap = q.put.length ∧ ∃ i m', q.producers i = .putting m')

structure Steady (cap : Nat) (q : LossyQueue ι α) : Prop where
  bounded : q.queue.length ≤ cap
  order : q.put = q.taken.map (fun t => t.2) ++ q.queue
  single : ∀ i j, q.producers i ≠ .idle → q.producers j ≠ .idle → i = j
  seen : ∀ i, Seen cap q (q.producers i)
  refused : q.refused = []
  kept : Kept cap q

omit [DecidableEq ι] in
theorem Steady.empty (cap : Nat) : Steady cap (empty : LossyQueue ι α) where
  bounded := Nat.zero_le _
  order := rfl
  single i j hi := absurd rfl hi
  seen _ := trivial
  refused := rfl
  kept k m h := absurd h (by simp [LossyQueue.empty])

omit [DecidableEq ι] in
/-- Every producer but this one is idle. -/
theorem Steady.others (h : q.Steady cap) {i : ι} (hi : q.producers i ≠ .idle) {j : ι} (hj : j ≠ i) :
    q.producers j = .idle := by
  by_contra hne
  exact hj (h.single j i hne hi)

omit [DecidableEq ι] in
/-- Between two submissions the newest messages are all put. -/
theorem Steady.put_lt (h : q.Steady cap) (hno : ∀ i m, q.producers i ≠ .putting m) {k : Nat} {m : α}
    (hk : q.taken[k]? = some (.dropped, m)) : k + cap < q.put.length := by
  rcases h.kept k m hk with hlt | ⟨_, i, m', hi⟩
  · exact hlt
  · exact absurd hi (hno i m')

theorem Steady.submit (h : q.Steady cap) (hidle : ∀ j, q.producers j = .idle) (i : ι) (m : α) :
    (q.submit cap i m).Steady cap where
  bounded := h.bounded
  order := h.order
  single := by
    intro j k hj hk
    exact (eq_of_update_ne (fun j _ => hidle j) hj).trans (eq_of_update_ne (fun j _ => hidle j) hk).symm
  seen := by
    intro j
    show Seen cap (q.submit cap i m) (Function.update q.producers i _ j)
    by_cases hj : j = i
    · rw [hj, Function.update_self]
      split
      · next hlt => exact hlt
      · next hle => exact Nat.le_antisymm h.bounded (Nat.le_of_not_lt hle)
    · rw [Function.update_of_ne hj, hidle j]
      exact trivial
  refused := h.refused
  kept := by
    intro k m' hk
    exact Or.inl (h.put_lt (fun j m'' => by rw [hidle j]; simp) hk)

/-- The put of a submission that has found or made room. -/
theorem Steady.putMsg (h : q.Steady cap) {i : ι} (hi : q.producers i ≠ .idle)
    (hroom : q.queue.length < cap) (m : α) : (q.putMsg cap i m).Steady cap := by
  unfold LossyQueue.putMsg
  rw [if_pos hroom]
  have hidle : ∀ j, Function.update q.producers i .idle j = .idle := by
    intro j
    by_cases hj : j = i
    · rw [hj, Function.update_self]
    · rw [Function.update_of_ne hj, h.others hi hj]
  refine ⟨?_, ?_, ?_, ?_, h.refused, ?_⟩
  · show (q.queue ++ [m]).length ≤ cap
    rw [List.length_append]
    exact hroom
  · show q.put ++ [m] = q.taken.map (fun t => t.2) ++ (q.queue ++ [m])
    rw [h.order, List.append_assoc]
  · intro j k hj
    exact absurd (hidle j) hj
  · intro j
    show Seen cap _ (Function.update q.producers i .idle j)
    rw [hidle j]
    exact trivial
  · intro k m' hk
    refine Or.inl ?_
    show k + cap < (q.put ++ [m]).length
    rw [List.length_append, List.length_singleton]
    rcases h.kept k m' hk with hold | ⟨hold, _⟩
    · omega
    · omega

/-- The oldest of `cap` messages is given up; it is older than all that have been put. -/
theorem Steady.drop (h : q.Steady cap) {i : ι} {m : α} (hcap : 0 < cap)
    (hi : q.producers i = .full m) :
    { q.takeMsg .dropped with producers := Function.update q.producers i (.putting m) }.Steady cap := by
  -- the producer has seen the queue full, and nobody has taken anything since
  have hfull : q.queue.length = cap := by
    have hseen := h.seen i
    rw [hi] at hseen
    exact hseen
  have hbusy : q.producers i ≠ .idle := by rw [hi]; simp
  rcases takeMsg_cases q .dropped with ⟨hnil, _⟩ | ⟨m', queue, hq, heq⟩
  · rw [hnil] at hfull
    exact absurd hfull hcap.ne
  · rw [heq]
    rw [hq] at hfull
    have horder := h.order
    rw [hq] at horder
    -- what has been put is what has been taken and the `cap` messages still queued
    have hlen : q.put.length = q.taken.length + cap := by
      rw [horder, List.length_append, List.length_map, hfull]
    refine ⟨?_, ?_, ?_, ?_, h.refused, ?_⟩
    · exact Nat.le_of_succ_le hfull.le
    · exact horder.trans (taken_append _ _ _ _).symm
    · intro j k hj hk
      -- one producer is under way, the others are idle
      have hothers : ∀ j, j ≠ i → q.producers j = .idle := fun j hj => h.others hbusy hj
      exact (eq_of_update_ne hothers hj).trans (eq_of_update_ne hothers hk).symm
    · intro j
      show Seen cap _ (Function.update q.producers i (.putting m) j)
      by_cases hj : j = i
      · rw [hj, Function.update_self]
        show queue.length < cap
        rw [← hfull]
        exact Nat.lt_succ_self _
      · rw [Function.update_of_ne hj, h.others hbusy hj]
        exact trivial
    · intro k m'' hk
      have hk' : (q.taken ++ [(Fate.dropped, m')])[k]? = some (.dropped, m'') := hk
      by_cases hlt : k < q.taken.length
      · rw [List.getElem?_append_left hlt] at hk'
        refine Or.inl (h.put_lt ?_ hk')
        intro j m''' hj
        have hji := h.single j i (by rw [hj]; simp) hbusy
        rw [hji, hi] at hj
        exact absurd hj (by simp)
      · have hbound := (List.getElem?_eq_some_iff.mp hk').1
        -- the message taken now is the oldest of the queue
        rw [List.length_append, List.length_singleton] at hbound
        refine Or.inr ⟨?_, i, m, Function.update_self _ _ _⟩
        show k + cap = q.put.length
        omega

omit [DecidableEq ι] in
/-- The reader takes a message while no submission is under way. -/
theorem Steady.receive (h : q.Steady cap) (hidle : ∀ j, q.producers j = .idle) :
    (q.takeMsg .received).Steady cap := by
  rcases takeMsg_cases q .received with ⟨_, heq⟩ | ⟨m, queue, hq, heq⟩
  · rw [heq]
    exact h
  · rw [heq]
    have hbounded := h.bounded
    have horder := h.order
    rw [hq] at hbounded horder
    refine ⟨Nat.le_of_succ_le hbounded, ?_, h.single, ?_, h.refused, ?_⟩
    · exact horder.trans (taken_append _ _ _ _).symm
    · intro j
      show Seen cap _ (q.producers j)
      rw [hidle j]
      exact trivial
    · intro k m' hk
      have hk' : (q.taken ++ [(Fate.received, m)])[k]? = some (.dropped, m') := hk
      by_cases hlt : k < q.taken.length
      · rw [List.getElem?_append_left hlt] at hk'
        exact Or.inl (h.put_lt (fun j m'' => by rw [hidle j]; simp) hk')
      · rw [List.getElem?_append_right (Nat.le_of_not_lt hlt)] at hk'
        have hmem := List.mem_singleton.mp (List.mem_of_getElem? hk')
        exact absurd (congrArg Prod.fst hmem) (by simp)

omit [DecidableEq ι] in
/-- What is not the next call of a submission finds none under way. -/
theorem idle_of_alone {a : Act ι α} (hok : Alone q a) (ha : ∀ i, a ≠ .act i) (j : ι) :
    q.producers j = .idle := by
  by_contra hne
  exact ha j (hok j hne)

theorem Steady.step {a : Act ι α} (h : q.Steady cap) (hcap : 0 < cap) (hok : Alone q a)
    (hst : q.step cap a = some q') : q'.Steady cap := by
  rcases step_cases hst with ⟨i, m, rfl, _, rfl⟩ | ⟨i, m, rfl, hi, rfl⟩ | ⟨i, m, rfl, hi, rfl⟩ |
    ⟨rfl, _, rfl⟩
  · exact h.submit (idle_of_alone hok fun _ => by simp) i m
  · have hseen := h.seen i
    rcases hi with hi | hi
    · rw [hi] at hseen
      exact h.putMsg (by rw [hi]; simp) hseen m
    · rw [hi] at hseen
      exact h.putMsg (by rw [hi]; simp) hseen m
  · exact h.drop hcap hi
  · exact h.receive (idle_of_alone hok fun _ => by simp)

/-- **The newest messages are kept**: where no submission is interrupted. -/
theorem newest_kept (hcap : 0 < cap) (h : (queueSystem ι α cap).ReachableVia Alone q) :
    q.Steady cap := by
  refine TransSys.ReachableVia.invariant ?_ ?_ h
  · intro q hq
    rw [show q = LossyQueue.empty from hq]
    exact .empty cap
  · intro q a q' hi hok hst
    exact hi.step hcap hok hst

end LossyQueue

end WallController.Lib
