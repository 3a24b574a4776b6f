/-
  WallController.Lvgl.SourceSelection
  ────────────────────────────────
  **THE SOURCE SELECTION SCREEN (`AudioSrcSelection.c`).**

  Six items: Back, four sources, Menu.  A turn of the encoder moves the focus,
  the coloured item; a press on a source stores it as the selected one, moves
  the check icon to it, and schedules a work item whose handler asks for the
  screen of the source 500 ms later.  Back and Menu cancel the work and ask for
  another screen at once; the exit cancels it too, and does not wait for a
  handler that runs.

  The context is a plain state with the callbacks as functions.  The UI thread
  and the work queue interleave over it (`SelectionScreen.step`).
-/
import WallController.AudioSrc.Record
import WallController.Lib.DelayedWork
import WallController.Lib.Runs
import WallController.Lvgl.ScreenManager

namespace WallController.Lvgl

open WallController.AudioSrc (AudioSrcId AudioSourceConfig eNUMBER_OF_AUDIO_SOURCES)
open WallController.Lib

def ITEM_SELECTION_BACKGROUND_COLOR : Nat := 0x066CFA
def MENU_NAVIGATION_BLANK_TIME_ms : UInt32 := 200

/-- The background of the items of a menu: its colour where it is opaque. -/
abbrev Backgrounds (ι : Type) := ι → Option Nat

/-- `LV_OPA_COVER`, with the colour of the focus. -/
def Backgrounds.cover {ι : Type} [DecidableEq ι] (bg : Backgrounds ι) (eItem : ι) : Backgrounds ι :=
  Function.update bg eItem (some ITEM_SELECTION_BACKGROUND_COLOR)

/-- `LV_OPA_TRANSP`. -/
def Backgrounds.clear {ι : Type} [DecidableEq ι] (bg : Backgrounds ι) (eItem : ι) : Backgrounds ι :=
  Function.update bg eItem none

namespace Selection

/-! ## §1. The items. -/

/-- `eSelectedItem_t`. -/
inductive SelectedItem where
  | back
  | src1
  | src2
  | src3
  | src4
  | menu
  | numberOfItemSelections
  deriving DecidableEq, Repr

/-- The value of the enumerator. -/
def SelectedItem.toNat : SelectedItem → Nat
  | .back => 0
  | .src1 => 1
  | .src2 => 2
  | .src3 => 3
  | .src4 => 4
  | .menu => 5
  | .numberOfItemSelections => 6

/-- The conversion of an `int`. -/
def SelectedItem.ofInt : Nat → SelectedItem
  | 0 => .back
  | 1 => .src1
  | 2 => .src2
  | 3 => .src3
  | 4 => .src4
  | 5 => .menu
  | _ => .numberOfItemSelections

/-- `pstGet_ItemObject`: the item has an object on the screen. -/
def SelectedItem.hasObject (eItem : SelectedItem) : Bool := eItem ≠ .numberOfItemSelections

/-- `eGet_AudioSrcFromItem`; `none` is `eNUMBER_OF_AUDIO_SOURCES`. -/
def eGet_AudioSrcFromItem : SelectedItem → Option AudioSrcId
  | .src1 => some 0
  | .src2 => some 1
  | .src3 => some 2
  | .src4 => some 3
  | .back | .menu | .numberOfItemSelections => none

/-- The switch of `vSet_SelectedItem_ByAudioSrc`. -/
def itemOfSource (eSrcId : AudioSrcId) : SelectedItem :=
  match eSrcId.val with
  | 0 => .src1
  | 1 => .src2
  | 2 => .src3
  | 3 => .src4
  | _ => .back

/-! ## §2. The context and its callbacks. -/

/-- `sT_AudioSrcSelectionScreen_Context_t`, with the two things its objects show. -/
structure ScreenContext where
  eFocusedItem : SelectedItem
  ePreviouslyFocusedItem : SelectedItem
  eCommittedSourceItem : SelectedItem
  uiLastNavigation_ms : UInt32
  background : Backgrounds SelectedItem
  /-- The item that the check icon is on, unless the icon is hidden. -/
  icon : Option SelectedItem

/-- After the `memset`; there are no objects. -/
def ScreenContext.zero : ScreenContext where
  eFocusedItem := .back
  ePreviouslyFocusedItem := .back
  eCommittedSourceItem := .back
  uiLastNavigation_ms := 0
  background _ := none
  icon := none

/-- A successful `bCreate_AudioSrcSelectionScreen`.  The screen as it is
generated has the fourth source covered; the icon is created hidden. -/
def bCreate_AudioSrcSelectionScreen : ScreenContext :=
  { ScreenContext.zero with background := ScreenContext.zero.background.cover .src4 }

/-- `eGet_NextMenuItem`. -/
def eGet_NextMenuItem (eFocusedItem : SelectedItem) (bIsForward : Bool) : SelectedItem :=
  if eFocusedItem.toNat ≥ SelectedItem.numberOfItemSelections.toNat then .numberOfItemSelections
  else if bIsForward then
    if eFocusedItem = .menu then .back else .ofInt (eFocusedItem.toNat + 1)
  else if eFocusedItem = .back then .menu
  else .ofInt (eFocusedItem.toNat - 1)

namespace ScreenContext

variable (c : ScreenContext)

/-- `vUpdate_UI_AtSelectionCHanged`: the old item first. -/
def vUpdate_UI_AtSelectionCHanged : ScreenContext :=
  if c.eFocusedItem.hasObject then
    let background :=
      if c.ePreviouslyFocusedItem.hasObject then c.background.clear c.ePreviouslyFocusedItem
      else c.background
    { c with background := background.cover c.eFocusedItem }
  else c

/-- `vReset_ItemStyles`. -/
def vReset_ItemStyles : ScreenContext := { c with background := fun _ => none }

/-- `vPlace_SelectionIcon`. -/
def vPlace_SelectionIcon (eSelectedItem : SelectedItem) : ScreenContext :=
  if eSelectedItem.toNat < SelectedItem.src1.toNat ∨ eSelectedItem.toNat > SelectedItem.src4.toNat then
    { c with icon := none }
  else { c with icon := some eSelectedItem }

/-- `vSet_SelectedItem_ByAudioSrc`. -/
def vSet_SelectedItem_ByAudioSrc (eSrcId : AudioSrcId) : ScreenContext :=
  let eNewSelectedItem := itemOfSource eSrcId
  let c := { c with eCommittedSourceItem := eNewSelectedItem }
  if eNewSelectedItem = c.eFocusedItem then c
  else { c with ePreviouslyFocusedItem := c.eFocusedItem, eFocusedItem := eNewSelectedItem }

/-- `vUpdate_Selection_FromConfigData`; `none` is a selected configuration that is not there. -/
def vUpdate_Selection_FromConfigData (selected : Option AudioSrcId) : ScreenContext :=
  match selected with
  | none => c
  | some eSrcId =>
    let c := c.vSet_SelectedItem_ByAudioSrc eSrcId
    c.vPlace_SelectionIcon c.eCommittedSourceItem

/-- `vEnter_AudioSrcSelectionScreen` on a root object that is valid. -/
def vEnter_AudioSrcSelectionScreen (selected : Option AudioSrcId) : ScreenContext :=
  (c.vReset_ItemStyles.vUpdate_Selection_FromConfigData selected).vUpdate_UI_AtSelectionCHanged

/-- `vHandle_EncoderRotation`, with its two readings of the clock. -/
def vHandle_EncoderRotation (iDetents : Int) (uiNow_ms uiLater_ms : UInt32) : ScreenContext :=
  if uiNow_ms - c.uiLastNavigation_ms < MENU_NAVIGATION_BLANK_TIME_ms then c
  else if iDetents = 0 then { c with uiLastNavigation_ms := uiLater_ms }
  else
    let eNewIndex := eGet_NextMenuItem c.eFocusedItem (decide (0 < iDetents))
    if eNewIndex = .numberOfItemSelections then { c with uiLastNavigation_ms := uiLater_ms }
    else
      let c := { c with ePreviouslyFocusedItem := c.eFocusedItem, eFocusedItem := eNewIndex }
      { c.vUpdate_UI_AtSelectionCHanged with uiLastNavigation_ms := uiNow_ms }

/-- The source is stored: it becomes the committed one, and gets the icon. -/
def commit : ScreenContext :=
  { c with eCommittedSourceItem := c.eFocusedItem }.vPlace_SelectionIcon c.eFocusedItem

end ScreenContext

/-! ## §3. The two threads. -/

/-- Where the UI thread stands in a callback of the screen. -/
inductive UiPc where
  /-- In no callback. -/
  | outside
  /-- A source has been stored and committed. -/
  | committed
  /-- Back or Menu is pressed: the work is cancelled first. -/
  | cancelling (eScreenId : ScreenId)
  | requesting (eScreenId : ScreenId)
  deriving DecidableEq, Repr

/-- Where the handler `vHandle_ScreenSubmit` stands. -/
inductive HandlerPc where
  /-- It is called, and reads the committed item. -/
  | called
  /-- It takes a snapshot of the source. -/
  | reading (eSrcId : AudioSrcId)
  /-- It requests the screen of the source. -/
  | requesting (eScrId : ScreenId)
  /-- Its request was refused. -/
  | refused
  | returning
  deriving DecidableEq, Repr

/-- What the screen does to the store and to the screen manager. -/
inductive Event where
  | created
  | entered (selected : Option AudioSrcId)
  /-- A source is pressed, and `iUpdate_AudioScrSelected` has stored it. -/
  | chosen (eSrcId : AudioSrcId)
  /-- Back or Menu has cancelled the work. -/
  | revoked
  /-- The UI thread has requested a screen, accepted or not. -/
  | navigated (eScreenId : ScreenId) (bResult : Bool)
  /-- The handler has, cancelled by then or not. -/
  | submitted (eScrId : ScreenId) (bResult bCanceled : Bool)
  | left
  deriving DecidableEq, Repr

/-- The screen: its context, the two threads, the work item, and what has happened, newest first. -/
structure SelectionScreen where
  /-- Between the calls of `pfEnter` and `pfExit`. -/
  active : Bool
  ui : UiPc
  handler : Option HandlerPc
  work : DelayableWork
  context : ScreenContext
  log : List Event

inductive Act where
  /-- `bCreate_AudioSrcSelectionScreen`; the root object exists, or the objects are made. -/
  | create (bRootExists bObjectsMade : Bool)
  /-- `vEnter_AudioSrcSelectionScreen`. -/
  | enter (bRootValid : Bool) (selected : Option AudioSrcId)
  | rotate (iDetents : Int) (uiNow_ms uiLater_ms : UInt32)
  /-- A press, with what `iUpdate_AudioScrSelected` answers if it is called. -/
  | press (iResult : Int)
  | release
  | exit
  /-- The next step of the callback, with what `bRequest_UIScreen` answers. -/
  | ui (bRequested : Bool)
  /-- The timer of the work item. -/
  | expire
  /-- The work queue calls the handler. -/
  | call
  /-- The next step of the handler, with the mute flag of the source and the answer to its
  request. -/
  | handler (bIsMute bRequested : Bool)
  deriving DecidableEq, Repr

namespace SelectionScreen

variable (s : SelectionScreen)

/-- After `bInit_AudioSrcSelectionScreen`. -/
def init : SelectionScreen where
  active := false
  ui := .outside
  handler := none
  work := .init
  context := .zero
  log := []

/-- `bCreate_AudioSrcSelectionScreen`. -/
def create (bRootExists bObjectsMade : Bool) : SelectionScreen :=
  if bRootExists then s
  else
    { s with
      context := if bObjectsMade then bCreate_AudioSrcSelectionScreen else .zero
      log := .created :: s.log }

/-- `vHandle_EncoderButonPress` of a press, up to the first call that another thread can see. -/
def press (iResult : Int) : SelectionScreen :=
  let eFocusedItem := s.context.eFocusedItem
  if eFocusedItem.toNat > SelectedItem.back.toNat ∧ eFocusedItem.toNat < SelectedItem.menu.toNat then
    match eGet_AudioSrcFromItem eFocusedItem with
    | none => s
    | some eSrcId =>
      if iResult ≠ 0 then s
      else
        { s with context := s.context.commit, ui := .committed, log := .chosen eSrcId :: s.log }
  else if eFocusedItem = .back then { s with ui := .cancelling .audioSrcInfo }
  else if eFocusedItem = .menu then { s with ui := .cancelling .mainMenu }
  else s

/-- The rest of the callback, step by step. -/
def uiStep (bRequested : Bool) : Option SelectionScreen :=
  match s.ui with
  | .outside => none
  | .committed => some { s with work := s.work.reschedule, ui := .outside }
  | .cancelling eScreenId =>
    some { s with work := s.work.cancel, ui := .requesting eScreenId, log := .revoked :: s.log }
  | .requesting eScreenId =>
    some { s with ui := .outside, log := .navigated eScreenId bRequested :: s.log }

/-- `vHandle_ScreenSubmit`, step by step. -/
def handlerStep (bIsMute bRequested : Bool) : Option SelectionScreen :=
  match s.handler with
  | none => none
  | some .called =>
    match eGet_AudioSrcFromItem s.context.eCommittedSourceItem with
    | none => some { s with handler := some .returning }
    | some eSrcId => some { s with handler := some (.reading eSrcId) }
  | some (.reading _) =>
    some { s with handler := some (.requesting (if bIsMute then .sourceMute else .audioSrcInfo)) }
  | some (.requesting eScrId) =>
    some { s with
      handler := some (if bRequested then .returning else .refused)
      log := .submitted eScrId bRequested s.work.canceling :: s.log }
  | some .refused => some { s with work := s.work.schedule, handler := some .returning }
  | some .returning => s.work.finish.map fun work => { s with work := work, handler := none }

/-- One step.  The callbacks are those of the screen manager: it creates and
enters a screen that is not active, and calls the others on the active one. -/
def step : Act → Option SelectionScreen
  | .create bRootExists bObjectsMade =>
    if s.ui = .outside ∧ s.active = false then some (s.create bRootExists bObjectsMade) else none
  | .enter bRootValid selected =>
    if s.ui = .outside ∧ s.active = false then
      some (if bRootValid then
          { s with
            active := true
            context := s.context.vEnter_AudioSrcSelectionScreen selected
            log := .entered selected :: s.log }
        else { s with active := true })
    else none
  | .rotate iDetents uiNow_ms uiLater_ms =>
    if s.ui = .outside ∧ s.active = true then
      some { s with context := s.context.vHandle_EncoderRotation iDetents uiNow_ms uiLater_ms }
    else none
  | .press iResult => if s.ui = .outside ∧ s.active = true then some (s.press iResult) else none
  | .release => if s.ui = .outside ∧ s.active = true then some s else none
  | .exit =>
    if s.ui = .outside ∧ s.active = true then
      some { s with work := s.work.cancel, active := false, log := .left :: s.log }
    else none
  | .ui bRequested => s.uiStep bRequested
  | .expire => s.work.expire.map fun work => { s with work := work }
  | .call => s.work.start.map fun work => { s with work := work, handler := some .called }
  | .handler bIsMute bRequested => s.handlerStep bIsMute bRequested

end SelectionScreen

def selectionSystem : TransSys SelectionScreen Act where
  init s := s = .init
  step s a s' := s.step a = some s'

end Selection

end WallController.Lvgl
