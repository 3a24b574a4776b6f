/-
  WallController.Lib.DelayedWork
  ────────────────────────────────
  **A WORK ITEM WITH A DELAY.**

  A kernel runs handlers on a queue of its own.  A delayable work item can be
  scheduled (its timer runs), queued (the timer has expired), and running; all
  three may hold at once.  A cancellation takes the item out of the timer and
  out of the queue; when the handler runs at that time, the item is marked, and
  nothing submits it again before the handler has returned:

      schedule       starts the timer, unless the item is scheduled, queued or marked
      reschedule     starts the timer again
      cancel         takes it out, and marks it if the handler runs
      expire         the timer moves the item to the queue
      start, finish  the queue runs the handler

  A synchronous cancellation is `cancel`, and then a wait for `Idle`.
-/
import Mathlib.Data.Bool.Basic

namespace WallController.Lib

/-- A delayable work item: its four flags.  A marked item runs, and is not queued. -/
structure DelayableWork where
  scheduled : Bool
  queued : Bool
  running : Bool
  canceling : Bool
  marked : canceling = true → running = true ∧ queued = false
  deriving DecidableEq

namespace DelayableWork

variable (w : DelayableWork)

/-! ## §1. The operations. -/

/-- After its initialisation. -/
def init : DelayableWork := ⟨false, false, false, false, fun h => absurd h (by decide)⟩

/-- The timer, as it is found running or not. -/
def timed (b : Bool) : DelayableWork := { w with scheduled := b }

/-- The timer is started if the item is at rest, or only runs. -/
def schedule : DelayableWork :=
  if w.scheduled || w.queued || w.canceling then w else { w with scheduled := true }

def reschedule : DelayableWork := { w with scheduled := true }

def cancel : DelayableWork where
  scheduled := false
  queued := false
  running := w.running
  canceling := w.running
  marked h := ⟨h, rfl⟩

/-- The timer has run out; a marked item is not submitted. -/
def expire : Option DelayableWork :=
  if w.scheduled then
    some
      { scheduled := false
        queued := w.queued || !w.canceling
        running := w.running
        canceling := w.canceling
        marked := fun h => ⟨(w.marked h).1, by rw [(w.marked h).2, h]; rfl⟩ }
  else none

/-- The queue calls the handler. -/
def start : Option DelayableWork :=
  if w.queued = true ∧ w.running = false then
    some
      { scheduled := w.scheduled
        queued := false
        running := true
        canceling := w.canceling
        marked := fun _ => ⟨rfl, rfl⟩ }
  else none

/-- The handler has returned. -/
def finish : Option DelayableWork :=
  if w.running then
    some
      { scheduled := w.scheduled
        queued := w.queued
        running := false
        canceling := false
        marked := fun h => absurd h (by decide) }
  else none

/-! ## §2. What an item is about to do. -/

/-- The handler will be called again, with nothing more to be done for it. -/
def Pending : Prop := w.scheduled = true ∨ w.queued = true

instance : Decidable w.Pending := inferInstanceAs (Decidable (_ ∨ _))

/-- Nothing of the item is left. -/
def Idle : Prop := ¬ w.Pending ∧ w.running = false

instance : Decidable w.Idle := inferInstanceAs (Decidable (_ ∧ _))

variable {w} {w' : DelayableWork}

theorem init_idle : init.Idle := by decide

theorem Idle.not_pending (h : w.Idle) : ¬ w.Pending := h.1

theorem Idle.not_canceling (h : w.Idle) : w.canceling = false := by
  by_contra hc
  have hr := (w.marked (Bool.of_not_eq_false hc)).1
  rw [h.2] at hr
  exact absurd hr (by decide)

/-! ## §3. One lemma an operation. -/

@[simp] theorem schedule_running : w.schedule.running = w.running := by
  unfold schedule
  split <;> rfl

@[simp] theorem schedule_canceling : w.schedule.canceling = w.canceling := by
  unfold schedule
  split <;> rfl

/-- A marked item is not scheduled. -/
theorem schedule_of_canceling (h : w.canceling = true) : w.schedule = w := by
  unfold schedule
  exact if_pos (by rw [h, Bool.or_true])

theorem schedule_pending (h : w.canceling = false) : w.schedule.Pending := by
  unfold schedule
  split
  · next hb =>
    rw [h, Bool.or_false, Bool.or_eq_true] at hb
    exact hb
  · exact Or.inl rfl

@[simp] theorem reschedule_running : w.reschedule.running = w.running := rfl

@[simp] theorem reschedule_canceling : w.reschedule.canceling = w.canceling := rfl

theorem reschedule_pending : w.reschedule.Pending := Or.inl rfl

@[simp] theorem cancel_running : w.cancel.running = w.running := rfl

@[simp] theorem cancel_canceling : w.cancel.canceling = w.running := rfl

theorem cancel_not_pending : ¬ w.cancel.Pending := by
  intro h
  rcases h with h | h
  · exact Bool.false_ne_true h
  · exact Bool.false_ne_true h

@[simp] theorem timed_scheduled (b : Bool) : (w.timed b).scheduled = b := rfl

@[simp] theorem timed_queued (b : Bool) : (w.timed b).queued = w.queued := rfl

@[simp] theorem timed_canceling (b : Bool) : (w.timed b).canceling = w.canceling := rfl

theorem expire_queued (h : w.expire = some w') : w'.queued = (w.queued || !w.canceling) := by
  unfold expire at h
  split at h
  · obtain rfl := Option.some.inj h
    rfl
  · exact absurd h (by simp)

/-- An expired timer leaves the item queued, unless it is marked. -/
theorem expire_cases (h : w.expire = some w') :
    w.scheduled = true ∧ w'.running = w.running ∧ w'.canceling = w.canceling ∧
      (w.canceling = false → w'.Pending) := by
  unfold expire at h
  split at h
  · next hs =>
    obtain rfl := Option.some.inj h
    refine ⟨hs, rfl, rfl, ?_⟩
    intro hc
    exact Or.inr (by show (w.queued || !w.canceling) = true; rw [hc, Bool.not_false, Bool.or_true])
  · exact absurd h (by simp)

/-- The handler is called only on a queued item, whose mark has gone. -/
theorem start_cases (h : w.start = some w') :
    w.Pending ∧ w.running = false ∧ w.canceling = false ∧ w'.running = true ∧
      w'.canceling = false ∧ w'.queued = false ∧ w'.scheduled = w.scheduled := by
  unfold start at h
  split at h
  · next hs =>
    obtain rfl := Option.some.inj h
    have hc : w.canceling = false := by
      by_contra hc
      have hr := (w.marked (Bool.of_not_eq_false hc)).1
      rw [hs.2] at hr
      exact absurd hr (by decide)
    exact ⟨Or.inr hs.1, hs.2, hc, rfl, hc, rfl, rfl⟩
  · exact absurd h (by simp)

theorem finish_queued (h : w.finish = some w') : w'.queued = w.queued := by
  unfold finish at h
  split at h
  · obtain rfl := Option.some.inj h
    rfl
  · exact absurd h (by simp)

theorem finish_cases (h : w.finish = some w') :
    w.running = true ∧ w'.running = false ∧ w'.canceling = false ∧ (w'.Pending ↔ w.Pending) := by
  unfold finish at h
  split at h
  · next hr =>
    obtain rfl := Option.some.inj h
    exact ⟨hr, rfl, rfl, Iff.rfl⟩
  · exact absurd h (by simp)

/-! ## §4. An item that is never rescheduled. -/

/-- The item waits in one place only.  `reschedule` alone can start the timer of an item
that is queued. -/
def Single (w : DelayableWork) : Prop := w.scheduled = true → w.queued = false

theorem schedule_single (h : w.Single) : w.schedule.Single := by
  unfold schedule
  split
  · exact h
  · next hb =>
    intro _
    rw [Bool.or_eq_true, Bool.or_eq_true] at hb
    exact Bool.eq_false_iff.mpr fun hq => hb (Or.inl (Or.inr hq))

theorem cancel_single : w.cancel.Single := fun _ => rfl

theorem expire_single (h : w.expire = some w') : w'.Single := by
  unfold expire at h
  split at h
  · obtain rfl := Option.some.inj h
    intro hs
    exact absurd hs Bool.false_ne_true
  · exact absurd h (by simp)

theorem start_single (h : w.start = some w') : w'.Single :=
  fun _ => (start_cases h).2.2.2.2.2.1

theorem finish_single (h : w.finish = some w') (hs : w.Single) : w'.Single := by
  unfold finish at h
  split at h
  · obtain rfl := Option.some.inj h
    exact hs
  · exact absurd h (by simp)

/-- The handler of an item that waits in one place has taken it from there. -/
theorem start_not_pending (h : w.start = some w') (hs : w.Single) : ¬ w'.Pending := by
  obtain ⟨_, _, _, _, _, hq, hsame⟩ := start_cases h
  have hqueued : w.queued = true := by
    unfold start at h
    split at h
    · next hc => exact hc.1
    · exact absurd h (by simp)
  intro hp
  rcases hp with hp | hp
  · rw [hsame] at hp
    exact absurd ((hs hp).symm.trans hqueued) (by decide)
  · exact absurd (hq.symm.trans hp) (by decide)

end DelayableWork

end WallController.Lib
