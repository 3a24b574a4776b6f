/-
  WallController.Lib.FocusRing
  ────────────────────────────────
  **A FOCUS THAT GOES ROUND, NO FASTER THAN A BLANK TIME ALLOWS.**

  A list of `n` items has the focus on one of them.  A turn moves it to a
  neighbour, and at the ends round to the other end; but a turn within `blank`
  ms of the last one that counted is dropped.  The clock is a word of 32 bits
  that wraps, and two readings of it are compared by their difference.

  Two facts are developed over whole lists of turns, for real times that are
  not bounded by the word:

      run_item       where the focus is: the net number of moves, modulo `n`
      moves_spaced   the moves are at least `blank` apart, through every wrap
-/
import Mathlib

namespace WallController.Lib

/-! ## §1. One step round the ring. -/

/-- The next item of `n`, forwards or backwards. -/
def ringStep (n : Nat) (bForward : Bool) (i : Nat) : Nat :=
  if bForward then (if i + 1 = n then 0 else i + 1) else (if i = 0 then n - 1 else i - 1)

/-- A step, as a number. -/
def ringSign (bForward : Bool) : Int := if bForward then 1 else -1

theorem ringStep_lt {n i : Nat} (bForward : Bool) (h : i < n) : ringStep n bForward i < n := by
  unfold ringStep
  split
  · split
    · omega
    · omega
  · split
    · omega
    · omega

theorem ringStep_emod {n i : Nat} (bForward : Bool) (h : i < n) :
    (ringStep n bForward i : Int) = ((i : Int) + ringSign bForward) % n := by
  cases bForward with
  | true =>
    show ((if i + 1 = n then 0 else i + 1 : Nat) : Int) = ((i : Int) + 1) % n
    split
    · next hend =>
      have hn : (i : Int) + 1 = n := by omega
      rw [hn, Int.emod_self]
      rfl
    · rw [Int.emod_eq_of_lt (by omega) (by omega)]
      push_cast
      rfl
  | false =>
    show ((if i = 0 then n - 1 else i - 1 : Nat) : Int) = ((i : Int) + -1) % n
    split
    · next hzero =>
      have hn : (i : Int) + -1 = ((n : Int) - 1) + n * (-1) := by omega
      rw [hn, Int.add_mul_emod_self_left, Int.emod_eq_of_lt (by omega) (by omega)]
      omega
    · rw [Int.emod_eq_of_lt (by omega) (by omega)]
      omega

theorem ringStep_ne {n i : Nat} (bForward : Bool) (hn : 2 ≤ n) : ringStep n bForward i ≠ i := by
  unfold ringStep
  split
  · split
    · omega
    · omega
  · split
    · omega
    · omega

/-! ## §2. The blank time. -/

/-- The real distance of two readings is no less than their distance as words. -/
theorem word_distance_le {a b : Nat} (h : a ≤ b) :
    (UInt32.ofNat b - UInt32.ofNat a).toNat ≤ b - a := by
  rw [UInt32.toNat_sub, UInt32.toNat_ofNat', UInt32.toNat_ofNat']
  omega

/-- The word has not wrapped since. -/
theorem word_distance_eq {a b : Nat} (h : a ≤ b) (hlt : b < a + 4294967296) :
    (UInt32.ofNat b - UInt32.ofNat a).toNat = b - a := by
  rw [UInt32.toNat_sub, UInt32.toNat_ofNat', UInt32.toNat_ofNat']
  omega

/-! ## §3. Turns. -/

/-- A turn of the knob, with the two readings of the clock, in ms since the start. -/
structure Turn where
  iDetents : Int
  now : Nat
  later : Nat
  deriving DecidableEq, Repr

/-- The focus, and the clock at the last turn that counted. -/
structure Focus where
  item : Nat
  last : UInt32
  deriving DecidableEq, Repr

variable (n blank : Nat)

/-- The turn comes within the blank time. -/
def Focus.blanked (f : Focus) (t : Turn) : Bool :=
  decide ((UInt32.ofNat t.now - f.last).toNat < blank)

/-- A turn: one that is blanked is dropped, one of no detents counts for the time only. -/
def Focus.turn (f : Focus) (t : Turn) : Focus :=
  if f.blanked blank t then f
  else if t.iDetents = 0 then { f with last := UInt32.ofNat t.later }
  else ⟨ringStep n (decide (0 < t.iDetents)) f.item, UInt32.ofNat t.now⟩

/-- The turns that move the focus. -/
def Focus.moves : Focus → List Turn → List Turn
  | _, [] => []
  | f, t :: ts =>
    if !f.blanked blank t && decide (t.iDetents ≠ 0) then t :: moves (f.turn n blank t) ts
    else moves (f.turn n blank t) ts

/-- The net number of steps of a list of moves. -/
def netSteps (ts : List Turn) : Int := (ts.map fun t => ringSign (decide (0 < t.iDetents))).sum

/-- The clock goes on from one reading to the next. -/
def Ordered : Nat → List Turn → Prop
  | _, [] => True
  | start, t :: ts => start ≤ t.now ∧ t.now ≤ t.later ∧ Ordered t.later ts

variable {n blank} {f : Focus} {t : Turn} {ts : List Turn}

theorem Ordered.mono {a b : Nat} (h : Ordered b ts) (hle : a ≤ b) : Ordered a ts := by
  cases ts with
  | nil => exact trivial
  | cons t ts => exact ⟨Nat.le_trans hle h.1, h.2⟩

theorem moves_of_move (h : (!f.blanked blank t && decide (t.iDetents ≠ 0)) = true) :
    f.moves n blank (t :: ts) = t :: (f.turn n blank t).moves n blank ts := if_pos h

theorem moves_of_still (h : (!f.blanked blank t && decide (t.iDetents ≠ 0)) = false) :
    f.moves n blank (t :: ts) = (f.turn n blank t).moves n blank ts :=
  if_neg (by rw [h]; exact Bool.false_ne_true)

/-- A turn that does not move the focus. -/
theorem turn_item_of_still (h : (!f.blanked blank t && decide (t.iDetents ≠ 0)) = false) :
    (f.turn n blank t).item = f.item := by
  unfold Focus.turn
  split
  · rfl
  · next hb =>
    have hzero : t.iDetents = 0 := by
      rw [Bool.eq_false_iff.mpr hb, Bool.not_false, Bool.true_and] at h
      exact not_not.mp (of_decide_eq_false h)
    rw [if_pos hzero]

theorem turn_of_move (h : (!f.blanked blank t && decide (t.iDetents ≠ 0)) = true) :
    f.turn n blank t = ⟨ringStep n (decide (0 < t.iDetents)) f.item, UInt32.ofNat t.now⟩ := by
  rw [Bool.and_eq_true, Bool.not_eq_true'] at h
  unfold Focus.turn
  rw [h.1, if_neg Bool.false_ne_true, if_neg (of_decide_eq_true h.2)]

theorem turn_item_lt (h : f.item < n) (t : Turn) : (f.turn n blank t).item < n := by
  cases hm : (!f.blanked blank t && decide (t.iDetents ≠ 0)) with
  | true =>
    rw [turn_of_move hm]
    exact ringStep_lt _ h
  | false =>
    rw [turn_item_of_still hm]
    exact h

/-! ## §4. Where the focus is. -/

/-- **The focus after a list of turns**: the net number of moves, round the ring. -/
theorem run_item (h : f.item < n) (ts : List Turn) :
    ((ts.foldl (Focus.turn n blank) f).item : Int) = (f.item + netSteps (f.moves n blank ts)) % n := by
  induction ts generalizing f with
  | nil =>
    show (f.item : Int) = ((f.item : Int) + 0) % n
    rw [Int.add_zero, Int.emod_eq_of_lt (by omega) (by omega)]
  | cons t ts ih =>
    rw [List.foldl_cons, ih (turn_item_lt h t)]
    cases hm : (!f.blanked blank t && decide (t.iDetents ≠ 0)) with
    | true =>
      rw [moves_of_move hm, turn_of_move hm]
      show ((ringStep n _ f.item : Nat) + netSteps _ : Int) % n
        = (f.item + (ringSign _ + netSteps _)) % n
      rw [ringStep_emod _ h, Int.emod_add_emod, Int.add_assoc]
    | false =>
      rw [moves_of_still hm, turn_item_of_still hm]

theorem run_item_lt (h : f.item < n) (ts : List Turn) :
    (ts.foldl (Focus.turn n blank) f).item < n := by
  induction ts generalizing f with
  | nil => exact h
  | cons t ts ih => exact ih (turn_item_lt h t)

/-! ## §5. How often it moves. -/

/-- A turn that is not blanked comes late enough. -/
theorem le_now_of_open {last : Nat} (hlast : f.last = UInt32.ofNat last) (hle : last ≤ t.now)
    (h : f.blanked blank t = false) : last + blank ≤ t.now := by
  have hopen : ¬ (UInt32.ofNat t.now - f.last).toNat < blank := of_decide_eq_false h
  have hword := word_distance_le hle
  rw [hlast] at hopen
  omega

/-- The real time of the last turn that counted. -/
theorem turn_last {last start : Nat} (hlast : f.last = UInt32.ofNat last) (hle : last ≤ start)
    (hstart : start ≤ t.now) (hlater : t.now ≤ t.later) :
    ∃ last', (f.turn n blank t).last = UInt32.ofNat last' ∧ last ≤ last' ∧ last' ≤ t.later := by
  unfold Focus.turn
  split
  · exact ⟨last, hlast, Nat.le_refl _, by omega⟩
  · split
    · exact ⟨t.later, rfl, by omega, Nat.le_refl _⟩
    · exact ⟨t.now, rfl, by omega, hlater⟩

/-- Every move comes at least `blank` after the last turn that counted. -/
theorem le_now_of_moves {last start : Nat} (hlast : f.last = UInt32.ofNat last)
    (hle : last ≤ start) (hts : Ordered start ts) :
    ∀ t ∈ f.moves n blank ts, last + blank ≤ t.now := by
  induction ts generalizing f last start with
  | nil =>
    intro t ht
    exact absurd ht List.not_mem_nil
  | cons t ts ih =>
    obtain ⟨hstart, hlater, hrest⟩ := hts
    obtain ⟨last', hlast', hmono, hle'⟩ := @turn_last n blank f t last start hlast hle hstart hlater
    have htail := ih hlast' hle' hrest
    intro u hu
    unfold Focus.moves at hu
    split at hu
    · next hm =>
      rcases List.mem_cons.mp hu with rfl | hu
      · rw [Bool.and_eq_true, Bool.not_eq_true'] at hm
        exact le_now_of_open hlast (by omega) hm.1
      · have h := htail u hu
        omega
    · have h := htail u hu
      omega

/-- **The moves are at least `blank` apart**, however often the clock wraps between. -/
theorem moves_spaced {last start : Nat} (hlast : f.last = UInt32.ofNat last)
    (hle : last ≤ start) (hts : Ordered start ts) :
    (f.moves n blank ts).Pairwise fun t u => t.now + blank ≤ u.now := by
  induction ts generalizing f last start with
  | nil => exact List.Pairwise.nil
  | cons t ts ih =>
    obtain ⟨hstart, hlater, hrest⟩ := hts
    obtain ⟨last', hlast', _, hle'⟩ := @turn_last n blank f t last start hlast hle hstart hlater
    have htail := ih hlast' hle' hrest
    unfold Focus.moves
    split
    · next hm =>
      refine List.pairwise_cons.mpr ⟨?_, htail⟩
      intro u hu
      rw [turn_of_move hm] at hu
      exact le_now_of_moves rfl hlater hrest u hu
    · exact htail

/-- Events that are `blank` apart, in a window of `w`. -/
theorem length_of_spaced {us : List Turn} (h : us.Pairwise fun t u => t.now + blank ≤ u.now)
    {a w : Nat} (hin : ∀ t ∈ us, a ≤ t.now ∧ t.now ≤ a + w) : us.length * blank ≤ w + blank := by
  induction us generalizing a w with
  | nil =>
    rw [List.length_nil, Nat.zero_mul]
    omega
  | cons t us ih =>
    obtain ⟨hhead, htail⟩ := List.pairwise_cons.mp h
    have ht := hin t List.mem_cons_self
    rw [List.length_cons, Nat.add_mul, Nat.one_mul]
    cases us with
    | nil =>
      rw [List.length_nil, Nat.zero_mul]
      omega
    | cons u us =>
      have hu := hhead u List.mem_cons_self
      have hu' := hin u (List.mem_cons_of_mem _ List.mem_cons_self)
      have hw : blank ≤ w := by omega
      have hrest := @ih htail (a + blank) (w - blank) fun v hv => by
        have hv' := hin v (List.mem_cons_of_mem _ hv)
        have hv'' := hhead v hv
        omega
      omega

/-- **A bound on the moves in a window**: one for each blank time, and one more. -/
theorem moves_in_window {last start : Nat} (hpos : 0 < blank) (hlast : f.last = UInt32.ofNat last)
    (hle : last ≤ start) (hts : Ordered start ts) (a w : Nat) :
    ((f.moves n blank ts).filter fun t => decide (a ≤ t.now ∧ t.now ≤ a + w)).length
      ≤ w / blank + 1 := by
  have hspaced := (@moves_spaced n blank f ts last start hlast hle hts).filter
    fun t => decide (a ≤ t.now ∧ t.now ≤ a + w)
  have hlen := length_of_spaced hspaced fun t ht => of_decide_eq_true (List.mem_filter.mp ht).2
  have hdiv := (Nat.le_div_iff_mul_le hpos).mpr hlen
  rw [Nat.add_div_right _ hpos] at hdiv
  exact hdiv

end WallController.Lib
