/-
  WallController.Lvgl.AudioSrcScreen
  ────────────────────────────────
  **THE SCREEN OF THE SELECTED AUDIO SOURCE (`SelectedAudioSrcCtrl.c`).**

  The context of the screen and the functions that work on it: the callbacks
  that the screen manager calls, and the handling of the encoder.  The clock,
  the configuration store and the drawing functions are outside; what they
  answer is an argument, and what a function does beside the context is the
  list of its effects.  What is only drawn (the slider and the labels) is left
  out, and so are the functions of the view behind its pointers.
-/
import WallController.AudioSrc.Record
import WallController.Lvgl.ScreenManager
import Mathlib

namespace WallController.Lvgl

open WallController.AudioSrc (AudioSrcId AudioSrcType AudioSourceConfig)

/-! ## §1. Constants and types. -/

def ENCODER_SWITCH_HOLD_TIME_ms : UInt32 := 2000
def ENCODER_DOUBLE_PRESS_WINDOW_ms : UInt32 := 500
def AUDIO_MUTE_TRANSITION_AFTER_ZERO_DELAY_ms : UInt32 := 2000
def AUDIO_MUTE_RETRANSITION_DELAY_ms : UInt32 := 5000
def AUDIO_VOLUME_SAVE_DELAY_ms : UInt32 := 750
def AUDIO_VOLUME_MAX_DIRTY_TIME_ms : UInt32 := 3000

/-- Whether `pstSelect_AudioSrcView` finds a view. -/
def pstSelect_AudioSrcView : AudioSrcType → Bool
  | .bluetooth | .wired => true
  | .none => false

/-- `sT_AudioSrcScreenContext_t`. -/
structure AudioSrcScreenContext where
  eSrcId : AudioSrcId
  eSrcType : AudioSrcType
  uiVolume : UInt8
  uiShortPressCount : UInt8
  uiButtonPressStart_ms : UInt32
  uiLastShortRelease_ms : UInt32
  uiVolLastChange_ms : UInt32
  uiVolDirtySince_ms : UInt32
  bIsVolumeDirty : Bool
  bButtonPressed : Bool
  bLongPressHandled : Bool
  bIsMuteTransitionPending : Bool
  bIsMuteTransitionReady : Bool
  uiMutePendingSince_ms : UInt32
  uiMuteTransitionDelay_ms : UInt32
  deriving DecidableEq, Repr

/-- The context after `memset`. -/
def AudioSrcScreenContext.zero : AudioSrcScreenContext where
  eSrcId := 0
  eSrcType := .none
  uiVolume := 0
  uiShortPressCount := 0
  uiButtonPressStart_ms := 0
  uiLastShortRelease_ms := 0
  uiVolLastChange_ms := 0
  uiVolDirtySince_ms := 0
  bIsVolumeDirty := false
  bButtonPressed := false
  bLongPressHandled := false
  bIsMuteTransitionPending := false
  bIsMuteTransitionReady := false
  uiMutePendingSince_ms := 0
  uiMuteTransitionDelay_ms := 0

/-- What a function does beside the context. -/
inductive Effect where
  /-- `iUpdate_AudioSrcVolume` was called, and this is its result. -/
  | save (eSrcId : AudioSrcId) (uiVolume : UInt8) (iResult : Int)
  /-- A rotation put this volume on the screen. -/
  | shown (eSrcId : AudioSrcId) (uiVolume : UInt8)
  /-- `vHandle_SourceLongPress`. -/
  | longPress
  /-- A short release that is only remembered. -/
  | firstShortPress
  /-- `bRequest_UIScreen`. -/
  | request (eID : ScreenId)
  /-- `bUpdate_AudioSrcMuteStatus(eSrcId, true)`. -/
  | mute (eSrcId : AudioSrcId)
  deriving DecidableEq, Repr

/-- What is outside of one call of `vRun_AudioSrcInfoScreen`: the readings of the clock,
and the answers of the store and of the screen manager. -/
structure RunEnv where
  uiSaveTime_ms : UInt32
  iResult : Int
  uiMuteTime_ms : UInt32
  bMuteStatus : Bool
  bRequested : Bool
  uiCurrentTime_ms : UInt32
  deriving DecidableEq, Repr

/-- What is outside of one call of `vEnter_AudioSrcInfoScreen`. -/
structure EnterEnv where
  uiSaveTime_ms : UInt32
  iResult : Int
  bRootValid : Bool
  selected : Option AudioSourceConfig
  uiTimeNow_ms : UInt32
  deriving DecidableEq, Repr

/-- What is outside of one call of `bCreate_AudioSrcInfoScreen`: the answer of
`iGet_SelectedAudioSrcConfig`, and that of `pfCreate` of the view. -/
structure CreateEnv where
  selected : Option AudioSourceConfig
  bCreated : Bool
  deriving DecidableEq, Repr

namespace AudioSrcScreenContext

variable (c : AudioSrcScreenContext)

/-! ## §2. Saving the volume. -/

/-- `iUpdate_AudioSrcFile`; `iResult` is what `iUpdate_AudioSrcVolume` answers if it is
called. -/
def iUpdate_AudioSrcFile (bForceUpdate : Bool) (uiTimeNow_ms : UInt32) (iResult : Int) :
    AudioSrcScreenContext × Int × List Effect :=
  if !c.bIsVolumeDirty then (c, 0, [])
  else if !bForceUpdate ∧ uiTimeNow_ms - c.uiVolLastChange_ms < AUDIO_VOLUME_SAVE_DELAY_ms
      ∧ uiTimeNow_ms - c.uiVolDirtySince_ms < AUDIO_VOLUME_MAX_DIRTY_TIME_ms then
    (c, 0, [])
  else if iResult ≠ 0 then
    ({ c with uiVolLastChange_ms := uiTimeNow_ms, uiVolDirtySince_ms := uiTimeNow_ms }, iResult,
      [.save c.eSrcId c.uiVolume iResult])
  else ({ c with bIsVolumeDirty := false }, 0, [.save c.eSrcId c.uiVolume iResult])

/-! ## §3. The encoder. -/

/-- The pending transition to the mute screen, and its delay. -/
def pendMute (uiTimeNow_ms uiDelay_ms : UInt32) : AudioSrcScreenContext :=
  { c with
    uiMutePendingSince_ms := uiTimeNow_ms
    uiMuteTransitionDelay_ms := uiDelay_ms
    bIsMuteTransitionPending := true
    bIsMuteTransitionReady := false }

def dropMute : AudioSrcScreenContext :=
  { c with
    uiMutePendingSince_ms := 0
    uiMuteTransitionDelay_ms := 0
    bIsMuteTransitionPending := false
    bIsMuteTransitionReady := false }

/-- The volume after a rotation, within 0 and 100. -/
def rotatedVolume (uiVolume : UInt8) (iDetents : Int) : UInt8 :=
  let iVol := (uiVolume.toNat : Int) + iDetents
  if iVol < 0 then 0 else if iVol ≥ 100 then 100 else UInt8.ofNat iVol.toNat

/-- `vHandle_EncoderRotation`. -/
def vHandle_EncoderRotation (iDetents : Int) (uiTimeNow_ms : UInt32) :
    AudioSrcScreenContext × List Effect :=
  let uiPrevious_Volume := c.uiVolume
  let c := { c with uiVolume := rotatedVolume c.uiVolume iDetents }
  if uiPrevious_Volume = c.uiVolume then (c, [])
  else
    let c :=
      if uiPrevious_Volume > 0 ∧ c.uiVolume = 0 then
        c.pendMute uiTimeNow_ms AUDIO_MUTE_TRANSITION_AFTER_ZERO_DELAY_ms
      else if c.uiVolume > 0 then c.dropMute
      else c
    let c := if !c.bIsVolumeDirty then { c with uiVolDirtySince_ms := uiTimeNow_ms } else c
    ({ c with uiVolLastChange_ms := uiTimeNow_ms, bIsVolumeDirty := true },
      [.shown c.eSrcId c.uiVolume])

/-- `vHandle_EncoderButonPress` of a press. -/
def pressButton (uiTimestamp_ms : UInt32) : AudioSrcScreenContext :=
  if !c.bButtonPressed then
    { c with
      bButtonPressed := true
      bLongPressHandled := false
      uiButtonPressStart_ms := uiTimestamp_ms }
  else c

/-- `vHandle_EncoderButonPress` of a release. -/
def releaseButton (uiTimestamp_ms : UInt32) : AudioSrcScreenContext × List Effect :=
  if !c.bButtonPressed then (c, [])
  else
    let c := { c with bButtonPressed := false }
    if c.bLongPressHandled then
      ({ c with bLongPressHandled := false, uiButtonPressStart_ms := 0 }, [])
    else
      let uiPressDurationTime_ms := uiTimestamp_ms - c.uiButtonPressStart_ms
      let c := { c with uiButtonPressStart_ms := 0 }
      if uiPressDurationTime_ms ≥ ENCODER_SWITCH_HOLD_TIME_ms then
        ({ c with uiShortPressCount := 0, uiLastShortRelease_ms := 0 }, [.longPress])
      else if c.uiShortPressCount = 0
          ∨ uiTimestamp_ms - c.uiLastShortRelease_ms > ENCODER_DOUBLE_PRESS_WINDOW_ms then
        ({ c with uiShortPressCount := 1, uiLastShortRelease_ms := uiTimestamp_ms },
          [.firstShortPress])
      else
        ({ c with uiShortPressCount := 0, uiLastShortRelease_ms := 0 }, [.request .sourceSelect])

/-! ## §4. The callbacks of the screen manager. -/

/-- `bCanExecute_MuteScreenTransition`. -/
def bCanExecute_MuteScreenTransition (env : RunEnv) : AudioSrcScreenContext × Bool × List Effect :=
  if !c.bIsMuteTransitionPending ∨ c.uiVolume ≠ 0 then (c, false, [])
  else if !c.bIsMuteTransitionReady ∧ (c.bIsVolumeDirty
      ∨ env.uiMuteTime_ms - c.uiMutePendingSince_ms < c.uiMuteTransitionDelay_ms) then
    (c, false, [])
  else
    let c := { c with bIsMuteTransitionReady := true }
    if !env.bMuteStatus then (c, false, [.mute c.eSrcId])
    else (c, env.bRequested, [.mute c.eSrcId, .request .sourceMute])

/-- The long press that a tick finds. -/
def tickLongPress (uiCurrentTime_ms : UInt32) : AudioSrcScreenContext × List Effect :=
  if c.bButtonPressed ∧ !c.bLongPressHandled
      ∧ uiCurrentTime_ms - c.uiButtonPressStart_ms ≥ ENCODER_SWITCH_HOLD_TIME_ms then
    ({ c with bLongPressHandled := true, uiShortPressCount := 0, uiLastShortRelease_ms := 0 },
      [.longPress])
  else (c, [])

/-- The end of the double press window that a tick finds. -/
def tickWindow (uiCurrentTime_ms : UInt32) : AudioSrcScreenContext :=
  if !c.bButtonPressed ∧ c.uiShortPressCount = 1
      ∧ uiCurrentTime_ms - c.uiLastShortRelease_ms > ENCODER_DOUBLE_PRESS_WINDOW_ms then
    { c with uiShortPressCount := 0, uiLastShortRelease_ms := 0 }
  else c

/-- `vRun_AudioSrcInfoScreen`. -/
def vRun_AudioSrcInfoScreen (env : RunEnv) : AudioSrcScreenContext × List Effect :=
  let (c, _, saves) := c.iUpdate_AudioSrcFile false env.uiSaveTime_ms env.iResult
  let (c, bResult, mutes) := c.bCanExecute_MuteScreenTransition env
  if bResult then (c, saves ++ mutes)
  else
    let (c, presses) := c.tickLongPress env.uiCurrentTime_ms
    (c.tickWindow env.uiCurrentTime_ms, saves ++ mutes ++ presses)

/-- `bUpdate_AudioSourceInfo`; the argument is the answer of
`iGet_SelectedAudioSrcConfig`. -/
def bUpdate_AudioSourceInfo (selected : Option AudioSourceConfig) : AudioSrcScreenContext × Bool :=
  match selected with
  | none => (c, false)
  | some stSelected =>
    let c := { c with uiVolume := stSelected.uiVolume.toUInt8, eSrcId := stSelected.eSrcId }
    if stSelected.eSrcType ≠ c.eSrcType then (c, false)
    else
      ({ c with bIsVolumeDirty := false, uiVolDirtySince_ms := 0, uiVolLastChange_ms := 0 }, true)

/-- `vEnter_AudioSrcInfoScreen` of a screen with a root object. -/
def vEnter_AudioSrcInfoScreen (env : EnterEnv) : AudioSrcScreenContext × List Effect :=
  let (c, iResult, saves) := c.iUpdate_AudioSrcFile true env.uiSaveTime_ms env.iResult
  if iResult ≠ 0 then (c, saves)
  else if !env.bRootValid then (c, saves)
  else
    let (c, bResult) := c.bUpdate_AudioSourceInfo env.selected
    if !bResult then (c, saves)
    else if c.uiVolume = 0 then
      (c.pendMute env.uiTimeNow_ms AUDIO_MUTE_RETRANSITION_DELAY_ms, saves)
    else (c.dropMute, saves)

/-- `vExit_AudioSrcInfoScreen`. -/
def vExit_AudioSrcInfoScreen (uiSaveTime_ms : UInt32) (iResult : Int) :
    AudioSrcScreenContext × List Effect :=
  let (c, _, saves) := c.iUpdate_AudioSrcFile true uiSaveTime_ms iResult
  ({ c with
    bIsMuteTransitionPending := false
    bIsMuteTransitionReady := false
    bButtonPressed := false
    bLongPressHandled := false
    uiLastShortRelease_ms := 0
    uiButtonPressStart_ms := 0
    uiShortPressCount := 0 }, saves)

end AudioSrcScreenContext

/-- `bCreate_AudioSrcInfoScreen`: whether the root object exists, the context and the
result. -/
def bCreate_AudioSrcInfoScreen (pstRootObj : Bool) (c : AudioSrcScreenContext) (env : CreateEnv) :
    Bool × AudioSrcScreenContext × Bool :=
  match env.selected with
  | none => (pstRootObj, c, false)
  | some stSelected =>
    if !pstSelect_AudioSrcView stSelected.eSrcType then (pstRootObj, c, false)
    else if pstRootObj then (true, c, true)
    else if !env.bCreated then (false, .zero, false)
    else (true, { AudioSrcScreenContext.zero with eSrcType := stSelected.eSrcType }, true)

end WallController.Lvgl
