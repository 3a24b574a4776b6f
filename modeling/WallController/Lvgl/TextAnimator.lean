/-
  WallController.Lvgl.TextAnimator
  ────────────────────────────────
  **THE TEXT ANIMATOR AND ITS SCREEN (`LVGL_TextAnimate.c`, `BluetoothControl.c`).**

  While the Bluetooth connection is pairing, a timer of LVGL appends dots to a
  text: its callback shows the next of up to four texts.  LVGL calls it on a
  work queue of its own, under the LVGL mutex.  The screen starts the animator
  under that mutex too, but `vStop_TextAnimator` clears the variables without
  it, and takes it for the deletion of the timer only.

  Each load and each store of a variable is a step of its own, also the two loads of
  the call `TextAnimatorCallback_Fn(caAnimatorStrings[uiLoadingTextIndex])` and of
  `uiLoadingTextIndex >= uiMaxAnimationCount`, whose order C leaves open; what one
  of the threads does under the mutex excludes the other's critical sections.
-/
import WallController.Lib.Runs
import Mathlib

namespace WallController.Lvgl.Animator

open WallController.Lib

def MAX_ANIMATION_VARIANTS : Nat := 4
def MAX_ANIMATED_TEXT_LENGTH : Nat := 16

/-! ## §1. The variables. -/

/-- The arguments of `vStart_TextAnimator`; `none` is a null string. -/
structure StartArgs where
  pcaStringAnimate : List (Option String)
  pcaBaseString : String
  uiCount : Nat
  /-- `animatorCallback` is not null. -/
  animatorCallback : Bool
  uiPeriod_ms : Nat
  deriving DecidableEq, Repr

/-- `pcaAnimateString`, and the call of `vUpdate_BLuetoothConnection_UI`. -/
def pairingArgs : StartArgs where
  pcaStringAnimate := [some "", some ".", some "..", some "..."]
  pcaBaseString := ""
  uiCount := 4
  animatorCallback := true
  uiPeriod_ms := 700

/-- Where the UI thread stands in `vStop_TextAnimator`; `pstTimer` and `pfCallback` are its
copies, and say whether the pointer is not null. -/
inductive UiPc where
  | outside
  /-- It loads `bIsAnimatorRunning`. -/
  | stopping
  /-- It copies `pstLoadingTextTimer`. -/
  | copyingTimer
  /-- It copies `TextAnimatorCallback_Fn`. -/
  | copyingFn (pstTimer : Bool)
  /-- It clears `pstLoadingTextTimer`. -/
  | clearingTimer (pstTimer pfCallback : Bool)
  /-- It clears `TextAnimatorCallback_Fn`. -/
  | clearingFn (pstTimer pfCallback : Bool)
  /-- It clears `uiLoadingTextIndex`. -/
  | clearingIndex (pstTimer pfCallback : Bool)
  /-- It clears `uiMaxAnimationCount`. -/
  | clearingCount (pstTimer pfCallback : Bool)
  /-- It lowers `bIsAnimatorRunning`. -/
  | lowering (pstTimer pfCallback : Bool)
  /-- It deletes the timer, under the mutex. -/
  | deleting (pstTimer pfCallback : Bool)
  /-- It shows the empty text. -/
  | notifying (pfCallback : Bool)
  /-- It has returned, and `bAnimationInProgress` is lowered. -/
  | stopped
  deriving DecidableEq, Repr

/-- Where LVGL's thread stands in `vAnimator_TimerCallback`. -/
inductive TickPc where
  /-- It loads `TextAnimatorCallback_Fn`. -/
  | called
  /-- It loads `uiMaxAnimationCount`. -/
  | checked
  /-- It loads the pointer or the index of its call. -/
  | loading
  /-- It loads the index. -/
  | pointerLoaded (pfCallback : Bool)
  /-- It loads the pointer. -/
  | indexLoaded (uiIndex : Nat)
  /-- It calls through the pointer. -/
  | calling (pfCallback : Bool) (uiIndex : Nat)
  /-- `vTextAnimator_Callback` reads the text. -/
  | showing (uiIndex : Nat)
  /-- It loads `uiLoadingTextIndex`. -/
  | counting
  /-- It stores the next index. -/
  | storing (uiIndex : Nat)
  /-- It loads `uiLoadingTextIndex` or `uiMaxAnimationCount`. -/
  | comparing
  /-- It compares the index with `uiMaxAnimationCount`. -/
  | comparingCount (uiIndex : Nat)
  /-- It compares `uiLoadingTextIndex` with the count. -/
  | comparingIndex (uiCount : Nat)
  /-- It stores a zero. -/
  | wrapping
  deriving DecidableEq, Repr

inductive Event where
  /-- The timer has been created for these texts. -/
  | started (texts : List String)
  /-- The callback shows a text. -/
  | shown (text : String)
  /-- `vStop_TextAnimator` shows the empty text. -/
  | stopped
  deriving DecidableEq, Repr

/-- The variables of the animator, the screen, the two threads, and what has been shown,
newest first. -/
structure TextAnimator where
  caAnimatorStrings : List String
  pstLoadingTextTimer : Bool
  uiLoadingTextIndex : Nat
  uiMaxAnimationCount : Nat
  TextAnimatorCallback_Fn : Bool
  bIsAnimatorRunning : Bool
  /-- The timers that LVGL has. -/
  timers : Nat
  bAnimationInProgress : Bool
  /-- Between the calls of `pfEnter` and `pfExit`. -/
  active : Bool
  /-- The stop is that of `pfExit`. -/
  leaving : Bool
  ui : UiPc
  tick : Option TickPc
  /-- A null pointer has been called. -/
  fault : Bool
  log : List Event

inductive Act where
  /-- `bCreate_BluetoothConnControlScreen`: the `memset` of the context. -/
  | create
  /-- `vEnter_BluetoothConnControlScreen`; the state of the connection is pairing, the objects of
  the screen are valid, `lv_timer_create` succeeds. -/
  | enter (bPairing bObjectsValid bTimerCreated : Bool)
  /-- A press, with what `bRequest_UIScreen` answers. -/
  | press (bRequested : Bool)
  | exit
  /-- The next access of `vStop_TextAnimator`. -/
  | ui
  /-- LVGL calls the callback of a timer. -/
  | expire
  /-- The next access of the callback; of two loads in one expression the left one may be the
  first. -/
  | tick (bLeftFirst : Bool)
  deriving DecidableEq, Repr

/-! ## §2. The functions. -/

/-- The loop of `vStart_TextAnimator`: the texts, unless one is null or too long. -/
def animatedTexts (pcaBaseString : String) : List (Option String) → Option (List String)
  | [] => some []
  | none :: _ => none
  | some text :: rest =>
    if (pcaBaseString ++ text).utf8ByteSize ≥ MAX_ANIMATED_TEXT_LENGTH then none
    else (animatedTexts pcaBaseString rest).map fun texts => (pcaBaseString ++ text) :: texts

namespace TextAnimator

def init : TextAnimator where
  caAnimatorStrings := []
  pstLoadingTextTimer := false
  uiLoadingTextIndex := 0
  uiMaxAnimationCount := 0
  TextAnimatorCallback_Fn := false
  bIsAnimatorRunning := false
  timers := 0
  bAnimationInProgress := false
  active := false
  leaving := false
  ui := .outside
  tick := none
  fault := false
  log := []

variable (s : TextAnimator)

/-- `vStop_TextAnimator` under the mutex, as `vStart_TextAnimator` calls it. -/
def vStop_TextAnimator : TextAnimator :=
  if !s.bIsAnimatorRunning then s
  else
    { s with
      pstLoadingTextTimer := false
      TextAnimatorCallback_Fn := false
      uiLoadingTextIndex := 0
      uiMaxAnimationCount := 0
      bIsAnimatorRunning := false
      timers := if s.pstLoadingTextTimer then s.timers - 1 else s.timers
      log := if s.TextAnimatorCallback_Fn then .stopped :: s.log else s.log }

/-- `vStart_TextAnimator`, under the mutex. -/
def vStart_TextAnimator (args : StartArgs) (bTimerCreated : Bool) : TextAnimator :=
  if args.uiCount = 0 ∨ args.uiCount > MAX_ANIMATION_VARIANTS ∨ args.animatorCallback = false
      ∨ args.uiPeriod_ms = 0 then s
  else
    let s := s.vStop_TextAnimator
    match animatedTexts args.pcaBaseString (args.pcaStringAnimate.take args.uiCount) with
    | none => { s with caAnimatorStrings := [] }
    | some texts =>
      if bTimerCreated then
        { s with
          caAnimatorStrings := texts
          uiLoadingTextIndex := 0
          uiMaxAnimationCount := args.uiCount
          TextAnimatorCallback_Fn := true
          pstLoadingTextTimer := true
          timers := s.timers + 1
          bIsAnimatorRunning := true
          log := .started texts :: s.log }
      else
        { s with
          caAnimatorStrings := texts
          uiLoadingTextIndex := 0
          uiMaxAnimationCount := 0
          TextAnimatorCallback_Fn := false
          pstLoadingTextTimer := false
          bIsAnimatorRunning := false }

/-- `vUpdate_BLuetoothConnection_UI`, which the entry calls under the mutex. -/
def vUpdate_BLuetoothConnection_UI (bPairing bObjectsValid bTimerCreated : Bool) : TextAnimator :=
  if bPairing && bObjectsValid then
    { s.vStart_TextAnimator pairingArgs bTimerCreated with bAnimationInProgress := true }
  else s

/-- The next access of `vStop_TextAnimator`, and of the callback of the screen around it. -/
def uiStep : Option TextAnimator :=
  match s.ui with
  | .outside => none
  | .stopping => some { s with ui := if s.bIsAnimatorRunning then .copyingTimer else .stopped }
  | .copyingTimer => some { s with ui := .copyingFn s.pstLoadingTextTimer }
  | .copyingFn pstTimer => some { s with ui := .clearingTimer pstTimer s.TextAnimatorCallback_Fn }
  | .clearingTimer pstTimer pfCallback =>
    some { s with pstLoadingTextTimer := false, ui := .clearingFn pstTimer pfCallback }
  | .clearingFn pstTimer pfCallback =>
    some { s with TextAnimatorCallback_Fn := false, ui := .clearingIndex pstTimer pfCallback }
  | .clearingIndex pstTimer pfCallback =>
    some { s with uiLoadingTextIndex := 0, ui := .clearingCount pstTimer pfCallback }
  | .clearingCount pstTimer pfCallback =>
    some { s with uiMaxAnimationCount := 0, ui := .lowering pstTimer pfCallback }
  | .lowering pstTimer pfCallback =>
    some { s with bIsAnimatorRunning := false, ui := .deleting pstTimer pfCallback }
  | .deleting pstTimer pfCallback =>
    if pstTimer = true ∧ s.tick.isSome = true then none
    else
      some { s with
        timers := if pstTimer then s.timers - 1 else s.timers
        ui := .notifying pfCallback }
  | .notifying pfCallback =>
    some { s with log := if pfCallback then .stopped :: s.log else s.log, ui := .stopped }
  | .stopped =>
    some { s with
      bAnimationInProgress := false
      ui := .outside
      active := s.active && !s.leaving
      leaving := false }

/-- The next access of `vAnimator_TimerCallback`. -/
def tickStep (bLeftFirst : Bool) : Option TextAnimator :=
  match s.tick with
  | none => none
  | some .called =>
    some { s with tick := if s.TextAnimatorCallback_Fn then some .checked else none }
  | some .checked =>
    some { s with tick := if s.uiMaxAnimationCount = 0 then none else some .loading }
  | some .loading =>
    some { s with
      tick := some (if bLeftFirst then .pointerLoaded s.TextAnimatorCallback_Fn
        else .indexLoaded s.uiLoadingTextIndex) }
  | some (.pointerLoaded pfCallback) =>
    some { s with tick := some (.calling pfCallback s.uiLoadingTextIndex) }
  | some (.indexLoaded uiIndex) =>
    some { s with tick := some (.calling s.TextAnimatorCallback_Fn uiIndex) }
  | some (.calling pfCallback uiIndex) =>
    some
      (if pfCallback then { s with tick := some (.showing uiIndex) }
        else { s with fault := true })
  | some (.showing uiIndex) =>
    some { s with
      tick := some .counting
      log := .shown (s.caAnimatorStrings.getD uiIndex "") :: s.log }
  | some .counting => some { s with tick := some (.storing s.uiLoadingTextIndex) }
  | some (.storing uiIndex) =>
    some { s with uiLoadingTextIndex := uiIndex + 1, tick := some .comparing }
  | some .comparing =>
    some { s with
      tick := some (if bLeftFirst then .comparingCount s.uiLoadingTextIndex
        else .comparingIndex s.uiMaxAnimationCount) }
  | some (.comparingCount uiIndex) =>
    some { s with tick := if uiIndex ≥ s.uiMaxAnimationCount then some .wrapping else none }
  | some (.comparingIndex uiCount) =>
    some { s with tick := if s.uiLoadingTextIndex ≥ uiCount then some .wrapping else none }
  | some .wrapping => some { s with uiLoadingTextIndex := 0, tick := none }

/-- One step, unless the program has died of a fault. -/
def step (a : Act) : Option TextAnimator :=
  if s.fault then none
  else
    match a with
    | .create =>
      if s.ui = .outside ∧ s.active = false then some { s with bAnimationInProgress := false }
      else none
    | .enter bPairing bObjectsValid bTimerCreated =>
      if s.ui = .outside ∧ s.active = false ∧ s.tick = none then
        some
          { s.vUpdate_BLuetoothConnection_UI bPairing bObjectsValid bTimerCreated with
            active := true }
      else none
    | .press bRequested =>
      if s.ui = .outside ∧ s.active = true then
        some (if bRequested && s.bAnimationInProgress then { s with ui := .stopping } else s)
      else none
    | .exit =>
      if s.ui = .outside ∧ s.active = true then
        some (if s.bAnimationInProgress then { s with ui := .stopping, leaving := true }
          else { s with active := false })
      else none
    | .ui => s.uiStep
    | .expire => if s.tick = none ∧ 0 < s.timers then some { s with tick := some .called } else none
    | .tick bLeftFirst => s.tickStep bLeftFirst

end TextAnimator

def animatorSystem : TransSys TextAnimator Act where
  init s := s = .init
  step s a s' := s.step a = some s'

end WallController.Lvgl.Animator
