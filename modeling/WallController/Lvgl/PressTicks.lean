/-
  WallController.Lvgl.PressTicks
  ────────────────────────────────
  **PRESSES OF THE ENCODER AND TICKS OF THE SCREEN.**

  A press of the encoder is long, the first short one, or the second one of a
  double press.  A long press is found by a tick of the screen while the button
  is held, or by the release; the window of a double press ends at a tick, or is
  found to have ended at the next release.  Where the ticks fall makes no
  difference to the presses that are released: `classify` says what each of
  them is, from the times of the events alone.

  Times are numbers of milliseconds without a bound; the code sees them modulo
  2^32.

  Main results:
    * `outcomes_eq`: what a run does with the presses that are released.
    * `press_classification`: two runs with ticks at different places.
    * `not_tick_independent`: a press that is not released can be long or not.
-/
import WallController.Lvgl.AudioSrcScreen

namespace WallController.Lvgl

/-! ## §1. Events and ticks. -/

/-- `eUIInput_Press` and `eUIInput_Release`. -/
inductive Button where
  | press
  | release
  deriving DecidableEq, Repr

/-- An event of the encoder, or a tick of the screen, at a time. -/
inductive PressStep where
  | event (eType : Button) (t : Nat)
  | tick (env : RunEnv) (t : Nat)

/-- The time of a step. -/
def PressStep.time : PressStep → Nat
  | .event _ t | .tick _ t => t

/-- `k_uptime_get_32` at a time. -/
def uptime (t : Nat) : UInt32 := UInt32.ofNat t

namespace AudioSrcScreenContext

/-- One step: an event is handled, or the screen runs. -/
def pressStep (c : AudioSrcScreenContext) : PressStep → AudioSrcScreenContext × List Effect
  | .event .press t => (c.pressButton (uptime t), [])
  | .event .release t => c.releaseButton (uptime t)
  | .tick env t => c.vRun_AudioSrcInfoScreen { env with uiCurrentTime_ms := uptime t }

/-- The effects of successive steps. -/
def pressEffects : AudioSrcScreenContext → List PressStep → List Effect
  | _, [] => []
  | c, a :: as => (c.pressStep a).2 ++ (c.pressStep a).1.pressEffects as

/-- No mute transition is pending, and no press is in progress or remembered. -/
structure Ready (c : AudioSrcScreenContext) : Prop where
  noMute : c.bIsMuteTransitionPending = false
  released : c.bButtonPressed = false
  noPress : c.uiShortPressCount = 0

end AudioSrcScreenContext

/-- The events of a run. -/
def eventsOf (as : List PressStep) : List (Button × Nat) :=
  as.filterMap fun a => match a with
    | .event eType t => some (eType, t)
    | .tick _ _ => none

/-- Steps at times that do not go back. -/
def Timed : Nat → List PressStep → Prop
  | _, [] => True
  | now, a :: as => now ≤ a.time ∧ Timed a.time as

/-- A run that makes these events, with ticks anywhere among them. -/
structure Placement (es : List (Button × Nat)) (as : List PressStep) : Prop where
  events : eventsOf as = es
  timed : Timed 0 as

/-! ## §2. What a press is. -/

/-- A press and its release. -/
structure Press where
  start : Nat
  release : Nat
  deriving DecidableEq, Repr

def Press.held (p : Press) : Nat := p.release - p.start

/-- The presses that are released; `start` is when the button was pressed, if it
is.  A press of a pressed button and a release of a released one are ignored. -/
def pressesFrom : (start : Option Nat) → List (Button × Nat) → List Press
  | _, [] => []
  | none, (.press, t) :: es => pressesFrom (some t) es
  | none, (.release, _) :: es => pressesFrom none es
  | some s, (.press, _) :: es => pressesFrom (some s) es
  | some s, (.release, t) :: es => ⟨s, t⟩ :: pressesFrom none es

/-- The press that is not released. -/
def heldFrom : (start : Option Nat) → List (Button × Nat) → Option Nat
  | start, [] => start
  | none, (.press, t) :: es => heldFrom (some t) es
  | none, (.release, _) :: es => heldFrom none es
  | some s, (.press, _) :: es => heldFrom (some s) es
  | some _, (.release, _) :: es => heldFrom none es

def presses (es : List (Button × Nat)) : List Press := pressesFrom none es
def heldPress (es : List (Button × Nat)) : Option Nat := heldFrom none es

inductive PressKind where
  | long
  | first
  | double
  deriving DecidableEq, Repr

/-- What the code did with a press. -/
def PressKind.ofEffect : Effect → Option PressKind
  | .longPress => some .long
  | .firstShortPress => some .first
  | .request .sourceSelect => some .double
  | _ => none

def outcomes (es : List Effect) : List PressKind := es.filterMap PressKind.ofEffect

theorem outcomes_append (es es' : List Effect) :
    outcomes (es ++ es') = outcomes es ++ outcomes es' := List.filterMap_append

/-- What each press is; `last` is the release of a first short press before it. -/
def classify : (last : Option Nat) → List Press → List PressKind
  | _, [] => []
  | last, p :: ps =>
    if ENCODER_SWITCH_HOLD_TIME_ms.toNat ≤ p.held then .long :: classify none ps
    else if last.any fun t => p.release - t ≤ ENCODER_DOUBLE_PRESS_WINDOW_ms.toNat then
      .double :: classify none ps
    else .first :: classify (some p.release) ps

/-- No press is held for 2^32 ms or longer, and none is released so long after
the release of the press before it. -/
def Within : (previous : Option Nat) → List Press → Prop
  | _, [] => True
  | previous, p :: ps =>
    p.held < 2 ^ 32 ∧ (∀ t ∈ previous, p.release - t < 2 ^ 32) ∧ Within (some p.release) ps

theorem length_classify (last : Option Nat) (ps : List Press) :
    (classify last ps).length = ps.length := by
  induction ps generalizing last with
  | nil => rfl
  | cons p ps ih =>
      unfold classify
      repeat' split
      all_goals
        rw [List.length_cons, List.length_cons, ih]

/-- A press is long exactly when it is held long enough. -/
theorem classify_long_iff (last : Option Nat) (ps : List Press) (i : Nat) (hi : i < ps.length) :
    (classify last ps)[i]? = some .long ↔ ENCODER_SWITCH_HOLD_TIME_ms.toNat ≤ ps[i].held := by
  induction ps generalizing last i with
  | nil => exact absurd hi (Nat.not_lt_zero i)
  | cons p ps ih =>
      cases i with
      | zero =>
          unfold classify
          by_cases hlong : ENCODER_SWITCH_HOLD_TIME_ms.toNat ≤ p.held
          · rw [if_pos hlong]
            exact ⟨fun _ => hlong, fun _ => rfl⟩
          · rw [if_neg hlong]
            refine ⟨fun h => ?_, fun h => absurd h hlong⟩
            split at h
            · cases h
            · cases h
      | succ i =>
          have hi' : i < ps.length := Nat.lt_of_succ_lt_succ hi
          unfold classify
          repeat' split
          all_goals exact ih _ i hi'

/-! ## §3. The buttons of a context. -/

/-- What the context remembers of the encoder. -/
structure Buttons where
  bButtonPressed : Bool
  bLongPressHandled : Bool
  uiButtonPressStart_ms : UInt32
  uiShortPressCount : UInt8
  uiLastShortRelease_ms : UInt32
  deriving DecidableEq, Repr

def AudioSrcScreenContext.buttons (c : AudioSrcScreenContext) : Buttons where
  bButtonPressed := c.bButtonPressed
  bLongPressHandled := c.bLongPressHandled
  uiButtonPressStart_ms := c.uiButtonPressStart_ms
  uiShortPressCount := c.uiShortPressCount
  uiLastShortRelease_ms := c.uiLastShortRelease_ms

namespace Buttons

variable (b : Buttons)

def forget : Buttons := { b with uiShortPressCount := 0, uiLastShortRelease_ms := 0 }

def press (t : UInt32) : Buttons :=
  if !b.bButtonPressed then ⟨true, false, t, b.uiShortPressCount, b.uiLastShortRelease_ms⟩ else b

def release (t : UInt32) : Buttons × List PressKind :=
  if !b.bButtonPressed then (b, [])
  else
    let b' : Buttons := { b with bButtonPressed := false, uiButtonPressStart_ms := 0 }
    if b.bLongPressHandled then ({ b' with bLongPressHandled := false }, [])
    else if t - b.uiButtonPressStart_ms ≥ ENCODER_SWITCH_HOLD_TIME_ms then (b'.forget, [.long])
    else if b.uiShortPressCount = 0
        ∨ t - b.uiLastShortRelease_ms > ENCODER_DOUBLE_PRESS_WINDOW_ms then
      ({ b' with uiShortPressCount := 1, uiLastShortRelease_ms := t }, [.first])
    else (b'.forget, [.double])

def tick (t : UInt32) : Buttons × List PressKind :=
  if b.bButtonPressed then
    if !b.bLongPressHandled ∧ t - b.uiButtonPressStart_ms ≥ ENCODER_SWITCH_HOLD_TIME_ms then
      ({ b.forget with bLongPressHandled := true }, [.long])
    else (b, [])
  else if b.uiShortPressCount = 1
      ∧ t - b.uiLastShortRelease_ms > ENCODER_DOUBLE_PRESS_WINDOW_ms then (b.forget, [])
  else (b, [])

/-- One step of the buttons. -/
def step : PressStep → Buttons × List PressKind
  | .event .press t => (b.press (uptime t), [])
  | .event .release t => b.release (uptime t)
  | .tick _ t => b.tick (uptime t)

/-- The presses of successive steps. -/
def kinds : Buttons → List PressStep → List PressKind
  | _, [] => []
  | b, a :: as => (b.step a).2 ++ (b.step a).1.kinds as

end Buttons

variable {c : AudioSrcScreenContext}

theorem iUpdate_AudioSrcFile_buttons (bForce : Bool) (t : UInt32) (iResult : Int) :
    (c.iUpdate_AudioSrcFile bForce t iResult).1.buttons = c.buttons
      ∧ (c.iUpdate_AudioSrcFile bForce t iResult).1.bIsMuteTransitionPending
        = c.bIsMuteTransitionPending
      ∧ outcomes (c.iUpdate_AudioSrcFile bForce t iResult).2.2 = [] := by
  unfold AudioSrcScreenContext.iUpdate_AudioSrcFile
  repeat' split
  all_goals exact ⟨rfl, rfl, rfl⟩

theorem tick_buttons (c : AudioSrcScreenContext) (t : UInt32) :
    ((c.tickLongPress t).1.tickWindow t).buttons = (c.buttons.tick t).1
      ∧ outcomes (c.tickLongPress t).2 = (c.buttons.tick t).2
      ∧ ((c.tickLongPress t).1.tickWindow t).bIsMuteTransitionPending
        = c.bIsMuteTransitionPending := by
  cases hpressed : c.bButtonPressed with
  | true =>
      have hb : c.buttons.bButtonPressed = true := hpressed
      -- the window does not end while the button is held
      have hwindow : ∀ c' : AudioSrcScreenContext, c'.bButtonPressed = true → c'.tickWindow t = c' := by
        intro c' h
        unfold AudioSrcScreenContext.tickWindow
        rw [if_neg (by simp [h])]
      unfold AudioSrcScreenContext.tickLongPress Buttons.tick
      rw [if_pos hb]
      by_cases hlong : !c.bLongPressHandled
          ∧ t - c.uiButtonPressStart_ms ≥ ENCODER_SWITCH_HOLD_TIME_ms
      · have hlong' : !c.buttons.bLongPressHandled
            ∧ t - c.buttons.uiButtonPressStart_ms ≥ ENCODER_SWITCH_HOLD_TIME_ms := hlong
        rw [if_pos ⟨hpressed, hlong⟩, if_pos hlong']
        dsimp only
        rw [hwindow]
        · exact ⟨rfl, rfl, rfl⟩
        · exact hpressed
      · have hlong' : ¬ (!c.buttons.bLongPressHandled
            ∧ t - c.buttons.uiButtonPressStart_ms ≥ ENCODER_SWITCH_HOLD_TIME_ms) := hlong
        rw [if_neg fun h => hlong h.2, if_neg hlong']
        dsimp only
        rw [hwindow _ hpressed]
        exact ⟨rfl, rfl, rfl⟩
  | false =>
      have hb : c.buttons.bButtonPressed = false := hpressed
      have hlong : c.tickLongPress t = (c, []) := by
        unfold AudioSrcScreenContext.tickLongPress
        rw [if_neg (by simp [hpressed])]
      have hup : ¬ c.buttons.bButtonPressed = true := Bool.eq_false_iff.mp hb
      rw [hlong]
      unfold AudioSrcScreenContext.tickWindow Buttons.tick
      dsimp only
      rw [if_neg hup]
      by_cases hwindow : c.uiShortPressCount = 1
          ∧ t - c.uiLastShortRelease_ms > ENCODER_DOUBLE_PRESS_WINDOW_ms
      · have hwindow' : c.buttons.uiShortPressCount = 1
            ∧ t - c.buttons.uiLastShortRelease_ms > ENCODER_DOUBLE_PRESS_WINDOW_ms := hwindow
        rw [if_pos ⟨by rw [hpressed]; rfl, hwindow⟩, if_pos hwindow']
        exact ⟨rfl, rfl, rfl⟩
      · have hwindow' : ¬ (c.buttons.uiShortPressCount = 1
            ∧ t - c.buttons.uiLastShortRelease_ms > ENCODER_DOUBLE_PRESS_WINDOW_ms) := hwindow
        rw [if_neg fun h => hwindow h.2, if_neg hwindow']
        exact ⟨rfl, rfl, rfl⟩

/-- A tick does to the buttons what the clock tells it, when no mute transition
is pending. -/
theorem vRun_buttons (h : c.bIsMuteTransitionPending = false) (env : RunEnv) :
    (c.vRun_AudioSrcInfoScreen env).1.buttons = (c.buttons.tick env.uiCurrentTime_ms).1
      ∧ outcomes (c.vRun_AudioSrcInfoScreen env).2 = (c.buttons.tick env.uiCurrentTime_ms).2
      ∧ (c.vRun_AudioSrcInfoScreen env).1.bIsMuteTransitionPending = false := by
  obtain ⟨hbuttons, hmute, hsaves⟩ :=
    iUpdate_AudioSrcFile_buttons (c := c) false env.uiSaveTime_ms env.iResult
  unfold AudioSrcScreenContext.vRun_AudioSrcInfoScreen
  generalize c.iUpdate_AudioSrcFile false env.uiSaveTime_ms env.iResult = r at hbuttons hmute hsaves ⊢
  obtain ⟨c', iResult, saves⟩ := r
  dsimp only at hbuttons hmute hsaves ⊢
  rw [h] at hmute
  have hnone : c'.bCanExecute_MuteScreenTransition env = (c', false, []) := by
    unfold AudioSrcScreenContext.bCanExecute_MuteScreenTransition
    rw [hmute]
    rfl
  obtain ⟨htick, hkinds, hkeeps⟩ := tick_buttons c' env.uiCurrentTime_ms
  rw [hnone]
  dsimp only
  rw [if_neg Bool.false_ne_true, outcomes_append, outcomes_append, hsaves, ← hbuttons]
  exact ⟨htick, hkinds, hkeeps.trans hmute⟩

theorem pressButton_buttons (c : AudioSrcScreenContext) (t : UInt32) :
    (c.pressButton t).buttons = c.buttons.press t
      ∧ (c.pressButton t).bIsMuteTransitionPending = c.bIsMuteTransitionPending := by
  unfold AudioSrcScreenContext.pressButton Buttons.press
  cases hpressed : c.bButtonPressed with
  | true =>
      have hb : c.buttons.bButtonPressed = true := hpressed
      rw [hb]
      exact ⟨rfl, rfl⟩
  | false =>
      have hb : c.buttons.bButtonPressed = false := hpressed
      rw [hb]
      exact ⟨rfl, rfl⟩

theorem releaseButton_buttons (c : AudioSrcScreenContext) (t : UInt32) :
    (c.releaseButton t).1.buttons = (c.buttons.release t).1
      ∧ outcomes (c.releaseButton t).2 = (c.buttons.release t).2
      ∧ (c.releaseButton t).1.bIsMuteTransitionPending = c.bIsMuteTransitionPending := by
  unfold AudioSrcScreenContext.releaseButton Buttons.release
  by_cases hup : (!c.bButtonPressed) = true
  · have hup' : (!c.buttons.bButtonPressed) = true := hup
    rw [if_pos hup, if_pos hup']
    exact ⟨rfl, rfl, rfl⟩
  have hup' : ¬ (!c.buttons.bButtonPressed) = true := hup
  rw [if_neg hup, if_neg hup']
  dsimp only
  by_cases hhandled : c.bLongPressHandled = true
  · have hhandled' : c.buttons.bLongPressHandled = true := hhandled
    rw [if_pos hhandled, if_pos hhandled']
    exact ⟨rfl, rfl, rfl⟩
  have hhandled' : ¬ c.buttons.bLongPressHandled = true := hhandled
  rw [if_neg hhandled, if_neg hhandled']
  by_cases hlong : t - c.uiButtonPressStart_ms ≥ ENCODER_SWITCH_HOLD_TIME_ms
  · have hlong' : t - c.buttons.uiButtonPressStart_ms ≥ ENCODER_SWITCH_HOLD_TIME_ms := hlong
    rw [if_pos hlong, if_pos hlong']
    exact ⟨rfl, rfl, rfl⟩
  have hlong' : ¬ t - c.buttons.uiButtonPressStart_ms ≥ ENCODER_SWITCH_HOLD_TIME_ms := hlong
  rw [if_neg hlong, if_neg hlong']
  by_cases hfirst : c.uiShortPressCount = 0
      ∨ t - c.uiLastShortRelease_ms > ENCODER_DOUBLE_PRESS_WINDOW_ms
  · have hfirst' : c.buttons.uiShortPressCount = 0
        ∨ t - c.buttons.uiLastShortRelease_ms > ENCODER_DOUBLE_PRESS_WINDOW_ms := hfirst
    rw [if_pos hfirst, if_pos hfirst']
    exact ⟨rfl, rfl, rfl⟩
  · have hfirst' : ¬ (c.buttons.uiShortPressCount = 0
        ∨ t - c.buttons.uiLastShortRelease_ms > ENCODER_DOUBLE_PRESS_WINDOW_ms) := hfirst
    rw [if_neg hfirst, if_neg hfirst']
    exact ⟨rfl, rfl, rfl⟩

/-- A step of the context is a step of its buttons. -/
theorem pressStep_buttons (h : c.bIsMuteTransitionPending = false) (a : PressStep) :
    (c.pressStep a).1.buttons = (c.buttons.step a).1
      ∧ outcomes (c.pressStep a).2 = (c.buttons.step a).2
      ∧ (c.pressStep a).1.bIsMuteTransitionPending = false := by
  cases a with
  | tick env t => exact vRun_buttons h _
  | event eType t =>
      cases eType with
      | press =>
          obtain ⟨hbuttons, hmute⟩ := pressButton_buttons c (uptime t)
          exact ⟨hbuttons, rfl, hmute.trans h⟩
      | release =>
          obtain ⟨hbuttons, hkinds, hmute⟩ := releaseButton_buttons c (uptime t)
          exact ⟨hbuttons, hkinds, hmute.trans h⟩

/-- **The presses of a run of the screen are those of its buttons.** -/
theorem outcomes_pressEffects (h : c.bIsMuteTransitionPending = false) (as : List PressStep) :
    outcomes (c.pressEffects as) = c.buttons.kinds as := by
  induction as generalizing c with
  | nil => rfl
  | cons a as ih =>
      obtain ⟨hbuttons, hkinds, hmute⟩ := pressStep_buttons h a
      show outcomes ((c.pressStep a).2 ++ (c.pressStep a).1.pressEffects as) = _
      rw [outcomes_append, ih hmute, hkinds, hbuttons]
      rfl

/-! ## §4. The clock. -/

theorem uptime_sub_toNat {s t : Nat} (h : s ≤ t) :
    (uptime t - uptime s).toNat = (t - s) % 2 ^ 32 := by
  unfold uptime
  rw [UInt32.toNat_sub, UInt32.toNat_ofNat', UInt32.toNat_ofNat']
  omega

/-- A difference that the code finds too large is too large. -/
theorem le_of_uptime_sub {s t : Nat} {d : UInt32} (h : s ≤ t) (hd : d ≤ uptime t - uptime s) :
    d.toNat ≤ t - s := by
  rw [UInt32.le_iff_toNat_le, uptime_sub_toNat h] at hd
  omega

theorem lt_of_uptime_sub {s t : Nat} {d : UInt32} (h : s ≤ t) (hd : d < uptime t - uptime s) :
    d.toNat < t - s := by
  rw [UInt32.lt_iff_toNat_lt, uptime_sub_toNat h] at hd
  omega

/-- Below 2^32 the code finds the difference. -/
theorem le_uptime_sub_iff {s t : Nat} (d : UInt32) (h : s ≤ t) (hlt : t - s < 2 ^ 32) :
    d ≤ uptime t - uptime s ↔ d.toNat ≤ t - s := by
  rw [UInt32.le_iff_toNat_le, uptime_sub_toNat h, Nat.mod_eq_of_lt hlt]

theorem lt_uptime_sub_iff {s t : Nat} (d : UInt32) (h : s ≤ t) (hlt : t - s < 2 ^ 32) :
    d < uptime t - uptime s ↔ d.toNat < t - s := by
  rw [UInt32.lt_iff_toNat_lt, uptime_sub_toNat h, Nat.mod_eq_of_lt hlt]

/-! ## §5. Runs. -/

/-- What the buttons remember: `start` is when the button was pressed, if it is,
`bHandled` that a tick has found the press long, `last` the release of a first
short press. -/
structure Tracks (b : Buttons) (start : Option Nat) (bHandled : Bool) (last : Option Nat)
    (now : Nat) : Prop where
  pressed : b.bButtonPressed = start.isSome
  started : ∀ s ∈ start, b.uiButtonPressStart_ms = uptime s ∧ s ≤ now ∧ b.bLongPressHandled = bHandled
  handled : bHandled = true →
    last = none ∧ ∃ s ∈ start, s + ENCODER_SWITCH_HOLD_TIME_ms.toNat ≤ now
  short : b.uiShortPressCount = 0
      ∧ (∀ t ∈ last, t + ENCODER_DOUBLE_PRESS_WINDOW_ms.toNat < now)
    ∨ b.uiShortPressCount = 1 ∧ ∃ t ∈ last, b.uiLastShortRelease_ms = uptime t ∧ t ≤ now

/-- What is still to be found of the presses: nothing more of a press that a
tick has found long. -/
def remaining (bHandled : Bool) (last : Option Nat) (ps : List Press) : List PressKind :=
  if bHandled then classify none ps.tail else classify last ps

/-- The press that is not released was found long by a tick. -/
def FoundHeld (start : Option Nat) (as : List PressStep) : Prop :=
  ∃ s ∈ heldFrom start (eventsOf as), ∃ env t, PressStep.tick env t ∈ as
    ∧ s + ENCODER_SWITCH_HOLD_TIME_ms.toNat ≤ t

variable {b : Buttons} {start last : Option Nat} {bHandled : Bool} {now : Nat}

theorem Tracks.later (h : Tracks b start bHandled last now) {t : Nat} (ht : now ≤ t) :
    Tracks b start bHandled last t := by
  refine ⟨h.pressed, fun s hs => ?_, fun hh => ?_, ?_⟩
  · obtain ⟨hstart, hle, hhandled⟩ := h.started s hs
    exact ⟨hstart, by omega, hhandled⟩
  · obtain ⟨hlast, s, hs, hle⟩ := h.handled hh
    exact ⟨hlast, s, hs, by omega⟩
  · rcases h.short with ⟨hcount, hlast⟩ | ⟨hcount, r, hr, hrelease, hle⟩
    · refine Or.inl ⟨hcount, fun r hr => ?_⟩
      have := hlast r hr
      omega
    · exact Or.inr ⟨hcount, r, hr, hrelease, by omega⟩

theorem Tracks.press (h : Tracks b none bHandled last now) :
    Tracks (b.press (uptime now)) (some now) false last now := by
  have hup : b.bButtonPressed = false := h.pressed
  unfold Buttons.press
  rw [hup]
  refine ⟨rfl, fun s hs => ?_, fun hh => Bool.noConfusion hh, h.short⟩
  obtain rfl : now = s := Option.some.inj hs
  exact ⟨rfl, Nat.le_refl now, rfl⟩

/-- A press of a pressed button is ignored. -/
theorem Tracks.press_pressed {s : Nat} (h : Tracks b (some s) bHandled last now) (t : UInt32) :
    b.press t = b := by
  have hdown : b.bButtonPressed = true := h.pressed
  unfold Buttons.press
  rw [hdown]
  rfl

/-- A release of a released button is ignored. -/
theorem Tracks.release_released (h : Tracks b none bHandled last now) (t : UInt32) :
    b.release t = (b, []) := by
  have hup : b.bButtonPressed = false := h.pressed
  unfold Buttons.release
  rw [hup]
  rfl

/-- A release finds of its press what is still to be found of it. -/
theorem Tracks.release {s : Nat} (h : Tracks b (some s) bHandled last now)
    (hheld : now - s < 2 ^ 32) (hlast : ∀ t ∈ last, now - t < 2 ^ 32) :
    ∃ last', Tracks (b.release (uptime now)).1 none false last' now
      ∧ (∀ t ∈ last', t = now)
      ∧ ∀ ps, remaining bHandled last (⟨s, now⟩ :: ps)
          = (b.release (uptime now)).2 ++ remaining false last' ps := by
  have hdown : ¬ (!b.bButtonPressed) = true := by
    rw [h.pressed]
    exact Bool.false_ne_true
  obtain ⟨hstart, hle, hhandled⟩ := h.started s rfl
  have hnone : ∀ s' ∈ (none : Option Nat), False := fun s' => Option.not_mem_none s'
  unfold Buttons.release
  rw [if_neg hdown]
  dsimp only
  by_cases hlong : bHandled = true
  · -- the press was found long by a tick
    obtain ⟨rfl, -⟩ := h.handled hlong
    rw [if_pos (hhandled.trans hlong)]
    refine ⟨none, ⟨rfl, fun s' hs' => (hnone s' hs').elim, fun hh => Bool.noConfusion hh, ?_⟩,
      fun s' hs' => (hnone s' hs').elim, fun ps => ?_⟩
    · rcases h.short with ⟨hcount, -⟩ | ⟨-, t, ht, -⟩
      · exact Or.inl ⟨hcount, fun s' hs' => (hnone s' hs').elim⟩
      · exact (hnone t ht).elim
    · unfold remaining
      rw [if_pos hlong, if_neg Bool.false_ne_true]
      rfl
  have hshort : bHandled = false := Bool.eq_false_iff.mpr hlong
  subst hshort
  rw [if_neg (by rw [hhandled]; exact Bool.false_ne_true)]
  have hremaining : ∀ (l : Option Nat) (ps : List Press), remaining false l ps = classify l ps :=
    fun l ps => if_neg Bool.false_ne_true
  by_cases hhold : uptime now - b.uiButtonPressStart_ms ≥ ENCODER_SWITCH_HOLD_TIME_ms
  · rw [if_pos hhold]
    rw [hstart, ge_iff_le, le_uptime_sub_iff _ hle hheld] at hhold
    refine ⟨none, ⟨rfl, fun s' hs' => (hnone s' hs').elim, fun hh => Bool.noConfusion hh,
      Or.inl ⟨rfl, fun s' hs' => (hnone s' hs').elim⟩⟩, fun s' hs' => (hnone s' hs').elim,
      fun ps => ?_⟩
    rw [hremaining, hremaining]
    exact if_pos hhold
  rw [if_neg hhold]
  rw [hstart, ge_iff_le, le_uptime_sub_iff _ hle hheld] at hhold
  -- the window is over for the code exactly when it is for `classify`
  have hwindow : (b.uiShortPressCount = 0
        ∨ uptime now - b.uiLastShortRelease_ms > ENCODER_DOUBLE_PRESS_WINDOW_ms)
      ↔ ¬ (last.any fun t => now - t ≤ ENCODER_DOUBLE_PRESS_WINDOW_ms.toNat) = true := by
    rcases h.short with ⟨hcount, hover⟩ | ⟨hcount, t, rfl, hrelease, hle'⟩
    · refine ⟨fun _ hany => ?_, fun _ => Or.inl hcount⟩
      rw [Option.any_eq_true] at hany
      obtain ⟨t, ht, hin⟩ := hany
      have := hover t ht
      have := of_decide_eq_true hin
      omega
    · have hiff := lt_uptime_sub_iff ENCODER_DOUBLE_PRESS_WINDOW_ms hle' (hlast t rfl)
      show _ ↔ ¬ decide (now - t ≤ ENCODER_DOUBLE_PRESS_WINDOW_ms.toNat) = true
      rw [decide_eq_true_iff, Nat.not_le, hcount, hrelease, gt_iff_lt, hiff]
      exact or_iff_right (by decide)
  by_cases hfirst : b.uiShortPressCount = 0
      ∨ uptime now - b.uiLastShortRelease_ms > ENCODER_DOUBLE_PRESS_WINDOW_ms
  · rw [if_pos hfirst]
    refine ⟨some now, ⟨rfl, fun s' hs' => (hnone s' hs').elim, fun hh => Bool.noConfusion hh,
      Or.inr ⟨rfl, now, rfl, rfl, Nat.le_refl now⟩⟩, fun t ht => (Option.some.inj ht).symm,
      fun ps => ?_⟩
    rw [hremaining, hremaining]
    exact (if_neg hhold).trans (if_neg (hwindow.mp hfirst))
  · rw [if_neg hfirst]
    refine ⟨none, ⟨rfl, fun s' hs' => (hnone s' hs').elim, fun hh => Bool.noConfusion hh,
      Or.inl ⟨rfl, fun s' hs' => (hnone s' hs').elim⟩⟩, fun s' hs' => (hnone s' hs').elim,
      fun ps => ?_⟩
    rw [hremaining, hremaining]
    exact (if_neg hhold).trans (if_pos (Classical.not_not.mp fun h' => hfirst (hwindow.mpr h')))

/-- A tick finds nothing, or that the press in progress is long. -/
theorem Tracks.tick (h : Tracks b start bHandled last now) :
    ((b.tick (uptime now)).2 = [] ∧ Tracks (b.tick (uptime now)).1 start bHandled last now)
      ∨ ((b.tick (uptime now)).2 = [.long] ∧ bHandled = false
        ∧ (∃ s ∈ start, s + ENCODER_SWITCH_HOLD_TIME_ms.toNat ≤ now)
        ∧ Tracks (b.tick (uptime now)).1 start true none now) := by
  unfold Buttons.tick
  cases start with
  | some s =>
      have hdown : b.bButtonPressed = true := h.pressed
      obtain ⟨hstart, hle, hhandled⟩ := h.started s rfl
      rw [if_pos hdown]
      by_cases hlong : !b.bLongPressHandled
          ∧ uptime now - b.uiButtonPressStart_ms ≥ ENCODER_SWITCH_HOLD_TIME_ms
      · right
        rw [if_pos hlong]
        have hhold := hlong.2
        -- the 32-bit difference reaches the hold time only if the times do
        rw [hstart] at hhold
        have := le_of_uptime_sub hle hhold
        have hnot : bHandled = false := by
          rw [← hhandled]
          exact (Bool.not_eq_true' _).mp hlong.1
        have hlater : s + ENCODER_SWITCH_HOLD_TIME_ms.toNat ≤ now := by omega
        refine ⟨rfl, hnot, ⟨s, rfl, hlater⟩, hdown, fun s' hs' => ?_, fun _ => ⟨rfl, s, rfl, hlater⟩,
          Or.inl ⟨rfl, fun t ht => (Option.not_mem_none t ht).elim⟩⟩
        obtain rfl : s = s' := Option.some.inj hs'
        exact ⟨hstart, hle, rfl⟩
      · rw [if_neg hlong]
        exact Or.inl ⟨rfl, h⟩
  | none =>
      have hup : ¬ b.bButtonPressed = true := Bool.eq_false_iff.mp h.pressed
      rw [if_neg hup]
      left
      by_cases hwindow : b.uiShortPressCount = 1
          ∧ uptime now - b.uiLastShortRelease_ms > ENCODER_DOUBLE_PRESS_WINDOW_ms
      · rw [if_pos hwindow]
        refine ⟨rfl, h.pressed, fun s hs => (Option.not_mem_none s hs).elim, h.handled, Or.inl ⟨rfl, ?_⟩⟩
        intro t ht
        -- the window of a single press has passed, so its release is forgotten
        rcases h.short with ⟨-, hover⟩ | ⟨-, t', ht', hrelease, hle⟩
        · exact hover t ht
        · obtain rfl : t' = t := Option.some.inj (ht'.symm.trans ht)
          have hend := hwindow.2
          rw [hrelease] at hend
          have := lt_of_uptime_sub hle hend
          omega
      · rw [if_neg hwindow]
        exact ⟨rfl, h⟩

theorem not_handled (h : Tracks b none bHandled last now) : bHandled = false := by
  cases bHandled with
  | false => rfl
  | true =>
      obtain ⟨-, s, hs, -⟩ := h.handled rfl
      exact (Option.not_mem_none s hs).elim

/-- The press in progress is the next one that is released. -/
theorem head_pressesFrom {s : Nat} {as : List PressStep} {p : Press} {ps : List Press}
    (htimed : Timed now as) (h : pressesFrom (some s) (eventsOf as) = p :: ps) :
    p.start = s ∧ now ≤ p.release := by
  induction as generalizing now with
  | nil => exact absurd h.symm (List.cons_ne_nil p ps)
  | cons a as ih =>
      obtain ⟨hle, hrest⟩ := htimed
      cases a with
      | tick env t =>
          obtain ⟨hstart, hrelease⟩ := ih hrest h
          exact ⟨hstart, Nat.le_trans hle hrelease⟩
      | event eType t =>
          cases eType with
          | press =>
              obtain ⟨hstart, hrelease⟩ := ih hrest h
              exact ⟨hstart, Nat.le_trans hle hrelease⟩
          | release =>
              have hp : (⟨s, t⟩ : Press) = p := (List.cons.inj h).1
              rw [← hp]
              exact ⟨rfl, hle⟩

theorem heldFrom_of_pressesFrom_nil {s : Nat} {es : List (Button × Nat)}
    (h : pressesFrom (some s) es = []) : heldFrom (some s) es = some s := by
  induction es with
  | nil => rfl
  | cons e es ih =>
      obtain ⟨eType, t⟩ := e
      cases eType with
      | press => exact ih h
      | release => exact absurd h (List.cons_ne_nil _ _)

theorem FoundHeld.cons {start' : Option Nat} {a : PressStep} {as : List PressStep}
    (h : FoundHeld start' as)
    (hheld : heldFrom start (eventsOf (a :: as)) = heldFrom start' (eventsOf as)) :
    FoundHeld start (a :: as) := by
  obtain ⟨s, hs, env, t, ht, hle⟩ := h
  exact ⟨s, hheld ▸ hs, env, t, List.mem_cons_of_mem a ht, hle⟩

/-- **A run finds the presses that are released, and then perhaps the one that
is not.** -/
theorem Tracks.run {as : List PressStep} {previous : Option Nat}
    (h : Tracks b start bHandled last now) (htimed : Timed now as)
    (hwithin : Within previous (pressesFrom start (eventsOf as)))
    (hlast : ∀ t ∈ last, previous = some t) :
    ∃ tail, b.kinds as = remaining bHandled last (pressesFrom start (eventsOf as)) ++ tail
      ∧ (tail = [] ∨ tail = [.long]
        ∧ (bHandled = true → pressesFrom start (eventsOf as) ≠ []) ∧ FoundHeld start as) := by
  -- induction on the steps: the kinds found are a prefix of those of the presses
  induction as generalizing b start bHandled last now previous with
  | nil =>
      refine ⟨[], ?_, Or.inl rfl⟩
      have hnil : pressesFrom start [] = [] := by cases start <;> rfl
      show [] = remaining bHandled last (pressesFrom start []) ++ []
      rw [hnil]
      cases bHandled <;> rfl
  | cons a as ih =>
      obtain ⟨hle, hrest⟩ := htimed
      cases a with
      | tick env t =>
          have hnow : Tracks b start bHandled last t := h.later hle
          rcases hnow.tick with ⟨hnone, htracks⟩ | ⟨hfound, rfl, ⟨s, rfl, hhold⟩, htracks⟩
          · obtain ⟨tail, hkinds, htail⟩ := ih htracks hrest hwithin hlast
            refine ⟨tail, ?_, ?_⟩
            · show (b.tick (uptime t)).2 ++ (b.tick (uptime t)).1.kinds as = _
              rw [hnone, hkinds]
              rfl
            · rcases htail with hnil | ⟨hlong, hne, hheld⟩
              · exact Or.inl hnil
              · exact Or.inr ⟨hlong, hne, hheld.cons rfl⟩
          · -- the press in progress is long: the run finds it here, and not at its release
            obtain ⟨tail, hkinds, htail⟩ := ih htracks hrest hwithin
              fun t ht => (Option.not_mem_none t ht).elim
            have hhead : b.kinds (.tick env t :: as) = .long :: (classify none
                (pressesFrom (some s) (eventsOf as)).tail ++ tail) := by
              show (b.tick (uptime t)).2 ++ (b.tick (uptime t)).1.kinds as = _
              rw [hfound, hkinds]
              rfl
            have hevents : eventsOf (.tick env t :: as) = eventsOf as := rfl
            rw [hhead, hevents]
            cases hps : pressesFrom (some s) (eventsOf as) with
            | nil =>
                rw [hps] at htail
                refine ⟨[.long], ?_, Or.inr ⟨rfl, fun hh => Bool.noConfusion hh, s,
                  heldFrom_of_pressesFrom_nil hps, env, t, List.mem_cons_self, hhold⟩⟩
                rcases htail with hnil | ⟨-, hne, -⟩
                · rw [hnil]
                  rfl
                · exact absurd rfl (hne rfl)
            | cons p ps =>
                obtain ⟨hstart, hrelease⟩ := head_pressesFrom hrest hps
                have hreleased : t ≤ p.release := hrelease
                have hheld : ENCODER_SWITCH_HOLD_TIME_ms.toNat ≤ p.held := by
                  unfold Press.held
                  omega
                have hlong : remaining false last (p :: ps) = .long :: classify none ps :=
                  (if_neg Bool.false_ne_true).trans (if_pos hheld)
                refine ⟨tail, by rw [hlong]; rfl, ?_⟩
                rcases htail with hnil | ⟨hlong', -, hheld'⟩
                · exact Or.inl hnil
                · exact Or.inr ⟨hlong', fun _ => List.cons_ne_nil p ps, hheld'.cons rfl⟩
      | event eType t =>
          have hnow : Tracks b start bHandled last t := h.later hle
          cases eType with
          | press =>
              cases start with
              | none =>
                  obtain rfl := not_handled h
                  obtain ⟨tail, hkinds, htail⟩ := ih hnow.press hrest hwithin hlast
                  refine ⟨tail, hkinds, ?_⟩
                  rcases htail with hnil | ⟨hlong, hne, hheld⟩
                  · exact Or.inl hnil
                  · exact Or.inr ⟨hlong, hne, hheld.cons rfl⟩
              | some s =>
                  obtain ⟨tail, hkinds, htail⟩ := ih hnow hrest hwithin hlast
                  refine ⟨tail, ?_, ?_⟩
                  · show (b.press (uptime t)).kinds as = _
                    rw [hnow.press_pressed, hkinds]
                    rfl
                  · rcases htail with hnil | ⟨hlong, hne, hheld⟩
                    · exact Or.inl hnil
                    · exact Or.inr ⟨hlong, hne, hheld.cons rfl⟩
          | release =>
              cases start with
              | none =>
                  obtain ⟨tail, hkinds, htail⟩ := ih hnow hrest hwithin hlast
                  refine ⟨tail, ?_, ?_⟩
                  · show (b.release (uptime t)).2 ++ (b.release (uptime t)).1.kinds as = _
                    rw [hnow.release_released, hkinds]
                    rfl
                  · rcases htail with hnil | ⟨hlong, hne, hheld⟩
                    · exact Or.inl hnil
                    · exact Or.inr ⟨hlong, hne, hheld.cons rfl⟩
              | some s =>
                  obtain ⟨hheld, hprevious, hwithin'⟩ := hwithin
                  obtain ⟨last', htracks, hlast', hfinds⟩ :=
                    hnow.release hheld fun r hr => hprevious r (hlast r hr)
                  obtain ⟨tail, hkinds, htail⟩ := ih htracks hrest hwithin'
                    fun r hr => congrArg some (hlast' r hr).symm
                  refine ⟨tail, ?_, ?_⟩
                  · show (b.release (uptime t)).2 ++ (b.release (uptime t)).1.kinds as = _
                    rw [hkinds, ← List.append_assoc, ← hfinds]
                    rfl
                  · rcases htail with hnil | ⟨hlong, -, hheld⟩
                    · exact Or.inl hnil
                    · exact Or.inr ⟨hlong, fun _ => List.cons_ne_nil _ _, hheld.cons rfl⟩

/-! ## §6. Ticks at different places. -/

/-- The screen is left without a press in progress, and without a mute transition. -/
theorem ready_vExit (c : AudioSrcScreenContext) (uiSaveTime_ms : UInt32) (iResult : Int) :
    (c.vExit_AudioSrcInfoScreen uiSaveTime_ms iResult).1.Ready := ⟨rfl, rfl, rfl⟩

theorem Tracks.ready (h : c.Ready) : Tracks c.buttons none false none 0 := by
  refine ⟨h.released, fun s hs => (Option.not_mem_none s hs).elim, fun hh => Bool.noConfusion hh,
    Or.inl ⟨h.noPress, fun t ht => (Option.not_mem_none t ht).elim⟩⟩

/-- **What a run of the screen does with the presses of its events.** -/
theorem outcomes_eq (h : c.Ready) {es : List (Button × Nat)} (hwithin : Within none (presses es))
    {as : List PressStep} (has : Placement es as) :
    ∃ tail, outcomes (c.pressEffects as) = classify none (presses es) ++ tail
      ∧ (tail = [] ∨ tail = [.long] ∧ FoundHeld none as) := by
  obtain ⟨rfl, htimed⟩ := has
  obtain ⟨tail, hkinds, htail⟩ := (Tracks.ready h).run htimed hwithin
    fun t ht => (Option.not_mem_none t ht).elim
  refine ⟨tail, ?_, ?_⟩
  · rw [outcomes_pressEffects h.noMute, hkinds]
    rfl
  · rcases htail with hnil | ⟨hlong, -, hheld⟩
    · exact Or.inl hnil
    · exact Or.inr ⟨hlong, hheld⟩

/-- The effects that make a press of one kind are as many as these presses. -/
theorem count_outcomes {e : Effect} {k : PressKind}
    (hk : ∀ e', PressKind.ofEffect e' = some k ↔ e' = e) (es : List Effect) :
    es.count e = (outcomes es).count k := by
  unfold outcomes List.count
  rw [List.countP_filterMap]
  apply List.countP_congr
  intro e' _
  show (e' == e) = true ↔ _
  rw [beq_iff_eq, ← hk]
  cases PressKind.ofEffect e' with
  | none => simp
  | some k' => simp

theorem count_longPress (es : List Effect) :
    es.count .longPress = (outcomes es).count .long := by
  apply count_outcomes
  intro e
  cases e with
  | request eID => cases eID <;> simp [PressKind.ofEffect]
  | _ => simp [PressKind.ofEffect]

theorem count_request (es : List Effect) :
    es.count (.request .sourceSelect) = (outcomes es).count .double := by
  apply count_outcomes
  intro e
  cases e with
  | request eID => cases eID <;> simp [PressKind.ofEffect]
  | _ => simp [PressKind.ofEffect]

/-- **The presses that are released are the same wherever the ticks fall.**  Each
of them is one of the three kinds, and is long exactly when it was held long
enough; the press that is not released, if there is one, adds at most one long
press, which only a tick so long after it finds. -/
theorem press_classification (h : c.Ready) {es : List (Button × Nat)}
    (hwithin : Within none (presses es)) {as as' : List PressStep} (has : Placement es as)
    (has' : Placement es as') :
    (∃ tail, outcomes (c.pressEffects as) = classify none (presses es) ++ tail
      ∧ (tail = [] ∨ tail = [.long] ∧ FoundHeld none as))
    ∧ (c.pressEffects as).count (.request .sourceSelect)
      = (c.pressEffects as').count (.request .sourceSelect)
    ∧ (heldPress es = none → outcomes (c.pressEffects as) = outcomes (c.pressEffects as')
      ∧ (c.pressEffects as).count .longPress = (c.pressEffects as').count .longPress)
    ∧ (classify none (presses es)).length = (presses es).length
    ∧ ∀ (i : Nat) (hi : i < (presses es).length), (classify none (presses es))[i]? = some .long
      ↔ ENCODER_SWITCH_HOLD_TIME_ms.toNat ≤ (presses es)[i].held := by
  obtain ⟨tail, houtcomes, htail⟩ := outcomes_eq h hwithin has
  obtain ⟨tail', houtcomes', htail'⟩ := outcomes_eq h hwithin has'
  have hdouble : ∀ {as : List PressStep} {tail : List PressKind},
      tail = [] ∨ tail = [.long] ∧ FoundHeld none as → tail.count .double = 0 := by
    intro as tail htail
    rcases htail with rfl | ⟨rfl, -⟩
    · rfl
    · rfl
  have hreleased : ∀ {as : List PressStep} {tail : List PressKind}, eventsOf as = es →
      tail = [] ∨ tail = [.long] ∧ FoundHeld none as → heldPress es = none → tail = [] := by
    intro as tail hes htail hheld
    rcases htail with rfl | ⟨-, s, hs, -⟩
    · rfl
    · -- no press is held at the end
      have hnone : heldFrom none (eventsOf as) = none := hes ▸ hheld
      rw [hnone] at hs
      exact (Option.not_mem_none s hs).elim
  refine ⟨⟨tail, houtcomes, htail⟩, ?_, fun hheld => ?_, length_classify none _,
    fun i hi => classify_long_iff none _ i hi⟩
  · rw [count_request, count_request, houtcomes, houtcomes', List.count_append, List.count_append,
      hdouble htail, hdouble htail']
  · have hsame : outcomes (c.pressEffects as) = outcomes (c.pressEffects as') := by
      rw [houtcomes, houtcomes', hreleased has.events htail hheld,
        hreleased has'.events htail' hheld]
    exact ⟨hsame, by rw [count_longPress, count_longPress, hsame]⟩

/-- A double press, with and without a tick between its presses. -/
theorem press_classification_double :
    let env : RunEnv := ⟨0, 0, 0, false, false, 0⟩
    let as : List PressStep := [.event .press 0, .event .release 100, .event .press 200,
      .event .release 300]
    let as' : List PressStep := [.event .press 0, .event .release 100, .tick env 150,
      .event .press 200, .event .release 300]
    outcomes (AudioSrcScreenContext.zero.pressEffects as)
        = outcomes (AudioSrcScreenContext.zero.pressEffects as') := by
  intro env as as'
  have hwithin : Within none (presses (eventsOf as)) := by
    refine ⟨by decide, fun t ht => (Option.not_mem_none t ht).elim, by decide, ?_, trivial⟩
    intro t ht
    obtain rfl : 100 = t := Option.some.inj ht
    decide
  have has : Placement (eventsOf as) as :=
    ⟨rfl, by decide, by decide, by decide, by decide, trivial⟩
  have has' : Placement (eventsOf as) as' :=
    ⟨rfl, by decide, by decide, by decide, by decide, by decide, trivial⟩
  have hready : AudioSrcScreenContext.zero.Ready := ⟨rfl, rfl, rfl⟩
  exact ((press_classification hready hwithin has has').2.2.1 rfl).1

/-- **A press that is not released is long or not as the ticks fall**: the button
is held from 0 on, and one of the runs has a tick at 3000 ms, before the press at
5000 ms that is ignored. -/
theorem not_tick_independent :
    ¬ ∀ (c : AudioSrcScreenContext) (es : List (Button × Nat)) (as as' : List PressStep),
      c.Ready → Within none (presses es) → Placement es as → Placement es as' →
        (c.pressEffects as).count .longPress = (c.pressEffects as').count .longPress := by
  intro h
  let env : RunEnv := ⟨0, 0, 0, false, false, 0⟩
  have hcount := h .zero [(.press, 0), (.press, 5000)] [.event .press 0, .event .press 5000]
    [.event .press 0, .tick env 3000, .event .press 5000] ⟨rfl, rfl, rfl⟩ trivial
    ⟨rfl, by decide, by decide, trivial⟩ ⟨rfl, by decide, by decide, by decide, trivial⟩
  revert hcount
  decide

end WallController.Lvgl
