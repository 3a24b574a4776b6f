/-
  WallController.Lvgl.UnmuteWork
  ────────────────────────────────
  **THE MUTE SCREEN (`AudioSrcMute.c`).**

  A press on this screen unmutes the source that is shown.  The UI thread does
  not write the configuration file: it raises `bIsUnmuteInProgress` and
  schedules a work item, whose handler updates the source and raises
  `bWorkCompleted`; `vRun_AudioSrcMuteScreen` finds that flag and asks for the
  screen of the source.  An update that fails, and a request that the screen
  manager refuses, schedule the work again.  The exit lowers the flag and
  cancels the work synchronously.

  Every access to a flag, and every call on the work item, is a step of its
  own here; the steps of the UI thread and of the work queue interleave.
-/
import WallController.AudioSrc.Record
import WallController.Lib.DelayedWork
import WallController.Lib.Runs

namespace WallController.Lvgl

open WallController.AudioSrc (AudioSrcId AudioSourceConfig)
open WallController.Lib

namespace Mute

/-! ## §1. The two threads. -/

/-- Where the UI thread stands in a callback of the screen. -/
inductive UiPc where
  /-- In no callback. -/
  | outside
  /-- `vHandle_EncoderInput` has raised `bIsUnmuteInProgress`. -/
  | pressed
  /-- It has lowered `bWorkCompleted`. -/
  | scheduling
  /-- `vRun_AudioSrcMuteScreen` has found `bWorkCompleted`. -/
  | completed
  /-- Its request was refused. -/
  | refused
  /-- It has lowered `bWorkCompleted`. -/
  | retrying
  /-- Its request was accepted. -/
  | accepted
  /-- It has lowered `bIsUnmuteInProgress`. -/
  | lowering
  /-- `vExit_AudioSrcMuteScreen` has lowered `bIsUnmuteInProgress`. -/
  | exiting
  /-- It has cancelled the work, and waits for the handler. -/
  | waiting
  /-- The work is idle. -/
  | clearing
  /-- `bWorkCompleted` is lowered; the id is to be reset. -/
  | forgetting
  deriving DecidableEq, Repr

/-- Where the handler `vHandle_ScreenSubmit` stands. -/
inductive HandlerPc where
  /-- It is called, and loads `bIsUnmuteInProgress`. -/
  | called
  /-- It calls `bUpdate_AudioSrcMuteStatus`. -/
  | updating
  /-- The update has failed. -/
  | failed
  /-- The update has succeeded. -/
  | updated
  | returning
  deriving DecidableEq, Repr

/-- What the screen does to the store and to the screen manager. -/
inductive Event where
  /-- The screen shows this source. -/
  | entered (eSrcId : AudioSrcId)
  /-- A press that is not ignored. -/
  | pressed
  /-- `bUpdate_AudioSrcMuteStatus(eSrcId, false)`; `none` is `eNUMBER_OF_AUDIO_SOURCES`. -/
  | updated (eSrcId : Option AudioSrcId) (bResult : Bool)
  /-- A request for the screen of the source, accepted. -/
  | requested
  | left
  deriving DecidableEq, Repr

/-- The screen: its two contexts, the work item, and what has happened, newest first. -/
structure MuteScreen where
  /-- Between the calls of `pfEnter` and `pfExit`. -/
  active : Bool
  ui : UiPc
  handler : Option HandlerPc
  work : DelayableWork
  bIsUnmuteInProgress : Bool
  bWorkCompleted : Bool
  eSourceId : Option AudioSrcId
  log : List Event

/-- What is outside of one call of `vEnter_AudioSrcMuteScreen`. -/
structure EnterEnv where
  bRootValid : Bool
  selected : Option AudioSourceConfig
  bIconLoaded : Bool
  deriving DecidableEq, Repr

inductive Act where
  /-- `bCreate_AudioSrcMuteScreen`, with whether the root object exists. -/
  | create (bRootExists : Bool)
  | enter (env : EnterEnv)
  /-- `vHandle_EncoderInput` of a press. -/
  | press
  | run
  | exit
  /-- The next step of the callback, with what `bRequest_UIScreen` answers. -/
  | ui (bRequested : Bool)
  /-- The timer of the work item. -/
  | expire
  /-- The work queue calls the handler. -/
  | call
  /-- The next step of the handler, with what the store makes of the update. -/
  | handler (bUpdated : Bool)
  deriving DecidableEq, Repr

namespace MuteScreen

variable (s : MuteScreen)

/-- After `bInit_AudioSrcMuteScreen`. -/
def init : MuteScreen where
  active := false
  ui := .outside
  handler := none
  work := .init
  bIsUnmuteInProgress := false
  bWorkCompleted := false
  eSourceId := none
  log := []

/-- `bCreate_AudioSrcMuteScreen`: the `memset` of the context. -/
def bCreate_AudioSrcMuteScreen (bRootExists : Bool) : MuteScreen :=
  if bRootExists then s else { s with bIsUnmuteInProgress := false }

/-- `vEnter_AudioSrcMuteScreen`. -/
def vEnter_AudioSrcMuteScreen (env : EnterEnv) : MuteScreen :=
  if !env.bRootValid then s
  else
    match env.selected with
    | none => s
    | some stConfigSnapshot =>
      if stConfigSnapshot.eSrcType = .bluetooth ∧ !env.bIconLoaded then s
      else
        { s with
          eSourceId := some stConfigSnapshot.eSrcId
          log := .entered stConfigSnapshot.eSrcId :: s.log }

/-- The exchange at the start of `vHandle_EncoderInput`. -/
def vHandle_EncoderInput : MuteScreen :=
  if s.bIsUnmuteInProgress then s
  else { s with bIsUnmuteInProgress := true, ui := .pressed, log := .pressed :: s.log }

/-- The load at the start of `vRun_AudioSrcMuteScreen`. -/
def vRun_AudioSrcMuteScreen : MuteScreen :=
  if s.bWorkCompleted then { s with ui := .completed } else s

/-- The store at the start of `vExit_AudioSrcMuteScreen`. -/
def vExit_AudioSrcMuteScreen : MuteScreen :=
  { s with bIsUnmuteInProgress := false, ui := .exiting }

/-- The rest of the callback, step by step. -/
def uiStep (bRequested : Bool) : Option MuteScreen :=
  match s.ui with
  | .outside => none
  | .pressed => some { s with bWorkCompleted := false, ui := .scheduling }
  | .scheduling => some { s with work := s.work.schedule, ui := .outside }
  | .completed =>
    some (if bRequested then { s with ui := .accepted, log := .requested :: s.log }
      else { s with ui := .refused })
  | .refused => some { s with bWorkCompleted := false, ui := .retrying }
  | .retrying => some { s with work := s.work.schedule, ui := .outside }
  | .accepted => some { s with bIsUnmuteInProgress := false, ui := .lowering }
  | .lowering => some { s with bWorkCompleted := false, ui := .outside }
  | .exiting => some { s with work := s.work.cancel, ui := .waiting }
  | .waiting => if s.work.Idle then some { s with ui := .clearing } else none
  | .clearing => some { s with bWorkCompleted := false, ui := .forgetting }
  | .forgetting =>
    some { s with eSourceId := none, ui := .outside, active := false, log := .left :: s.log }

/-- `vHandle_ScreenSubmit`, step by step.  The store rejects an id out of range. -/
def handlerStep (bUpdated : Bool) : Option MuteScreen :=
  match s.handler with
  | none => none
  | some .called =>
    some { s with handler := some (if s.bIsUnmuteInProgress then .updating else .returning) }
  | some .updating =>
    let bResult := s.eSourceId.isSome && bUpdated
    some { s with
      handler := some (if bResult then .updated else .failed)
      log := .updated s.eSourceId bResult :: s.log }
  | some .failed => some { s with work := s.work.schedule, handler := some .returning }
  | some .updated => some { s with bWorkCompleted := true, handler := some .returning }
  | some .returning => s.work.finish.map fun work => { s with work := work, handler := none }

/-- One step.  The callbacks are those of the screen manager: it creates and
enters a screen that is not active, and calls the others on the active one. -/
def step : Act → Option MuteScreen
  | .create bRootExists =>
    if s.ui = .outside ∧ s.active = false then some (s.bCreate_AudioSrcMuteScreen bRootExists)
    else none
  | .enter env =>
    if s.ui = .outside ∧ s.active = false then
      some { s.vEnter_AudioSrcMuteScreen env with active := true }
    else none
  | .press =>
    if s.ui = .outside ∧ s.active = true then some s.vHandle_EncoderInput else none
  | .run => if s.ui = .outside ∧ s.active = true then some s.vRun_AudioSrcMuteScreen else none
  | .exit => if s.ui = .outside ∧ s.active = true then some s.vExit_AudioSrcMuteScreen else none
  | .ui bRequested => s.uiStep bRequested
  | .expire => s.work.expire.map fun work => { s with work := work }
  | .call => s.work.start.map fun work => { s with work := work, handler := some .called }
  | .handler bUpdated => s.handlerStep bUpdated

end MuteScreen

def muteSystem : TransSys MuteScreen Act where
  init s := s = .init
  step s a s' := s.step a = some s'

end Mute

end WallController.Lvgl
