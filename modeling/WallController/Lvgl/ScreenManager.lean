/-
  WallController.Lvgl.ScreenManager
  ────────────────────────────────
  **THE UI SCREEN MANAGER.**

  `UI_ScreenManager.c`: a request raises the pending flag by an atomic
  exchange and then stores the id of its screen; the UI thread polls the flag,
  reads the id, activates the screen, resets the id and lowers the flag.
  Each of these is a step of its own here, and the steps of all threads
  interleave.

  The UI thread calls `bRequest_UIScreen` too, from the callbacks of the
  screens; its own next step then waits for the end of that call.
-/
import WallController.Lib.Runs
import Mathlib

namespace WallController.Lvgl

open WallController.Lib

/-! ## §1. Screens and their table. -/

/-- `eScreenId_t`. -/
inductive ScreenId where
  | none
  | welcome
  | audioSrcInfo
  | sourceSelect
  | sourceMute
  | mainMenu
  | bluetoothMenu
  | bluetoothControl
  | numberOfScreens
  deriving DecidableEq, Repr

/-- The value of the enumerator. -/
def ScreenId.toNat : ScreenId → Nat
  | .none => 0
  | .welcome => 1
  | .audioSrcInfo => 2
  | .sourceSelect => 3
  | .sourceMute => 4
  | .mainMenu => 5
  | .bluetoothMenu => 6
  | .bluetoothControl => 7
  | .numberOfScreens => 8

def UI_SCREEN_SLOT_COUNT : Nat := ScreenId.numberOfScreens.toNat - ScreenId.welcome.toNat

/-- `UI_SCREEN_SLOT_INDEX`: a difference of two `size_t`, which wraps. -/
def UI_SCREEN_SLOT_INDEX (eScreenId : ScreenId) : Nat :=
  (eScreenId.toNat + 2 ^ 32 - ScreenId.welcome.toNat) % 2 ^ 32

/-- `sT_UIScreenRuntime_t`: whether the root object exists. -/
structure UIScreenRuntime where
  pstRootObj : Bool
  deriving DecidableEq, Repr

/-- `sT_UIScreenDescriptor_t`, with the runtime it points to. -/
structure UIScreenDescriptor where
  eScreenId : ScreenId
  pstScreenRuntime : Option UIScreenRuntime
  bDeleteOnExit : Bool
  /-- `pfCreate` is not null. -/
  pfCreate : Bool
  deriving DecidableEq, Repr

/-- `sT_UIScreenManager_t`, with the table of descriptors. -/
structure UIScreenManager where
  /-- The slot of the active descriptor. -/
  pstActiveDescriptor : Option Nat
  bIsInitialized : Bool
  bIsTransitionPending : Bool
  ePendingScreenId : ScreenId
  staScreenDescriptors : List UIScreenDescriptor
  deriving DecidableEq, Repr

/-- The init functions of the screens (`bInit_WelcomeScreen` and the others)
differ, for the manager, in the id only. -/
def initScreen (eScreenId : ScreenId) : UIScreenDescriptor where
  eScreenId := eScreenId
  pstScreenRuntime := some ⟨false⟩
  bDeleteOnExit := true
  pfCreate := true

/-- `bInit_ScreenData`, which cannot fail: no init function gets a null pointer. -/
def bInit_ScreenData : List UIScreenDescriptor :=
  [.welcome, .audioSrcInfo, .sourceSelect, .sourceMute, .mainMenu, .bluetoothMenu,
    .bluetoothControl].map initScreen

/-- `bInit_UIScreenManager`. -/
def bInit_UIScreenManager : UIScreenManager where
  pstActiveDescriptor := none
  bIsInitialized := true
  bIsTransitionPending := false
  ePendingScreenId := .none
  staScreenDescriptors := bInit_ScreenData

/-- The descriptor the table holds for a screen. -/
def UIScreenManager.slot (m : UIScreenManager) (eScreenId : ScreenId) : Option UIScreenDescriptor :=
  m.staScreenDescriptors[UI_SCREEN_SLOT_INDEX eScreenId]?

/-- A screen that is in the table, with a runtime. -/
def UIScreenManager.Registered (m : UIScreenManager) (eScreenId : ScreenId) : Prop :=
  ∃ d, m.slot eScreenId = some d ∧ d.eScreenId = eScreenId ∧ d.pstScreenRuntime ≠ none

/-! ## §2. The two sides. -/

/-- `bRequest_UIScreen` up to its exchange.  The result says whether the
exchange found the flag clear, so that the id is stored next. -/
def bRequest_UIScreen (m : UIScreenManager) (eID : ScreenId) : UIScreenManager × Bool :=
  if m.bIsInitialized = false then (m, false)
  else if eID.toNat ≤ ScreenId.none.toNat ∨ eID.toNat ≥ ScreenId.numberOfScreens.toNat then
    (m, false)
  else
    match m.slot eID with
    | none => (m, false)
    | some pstDescriptor =>
      if pstDescriptor.eScreenId ≠ eID ∨ pstDescriptor.pstScreenRuntime = none then (m, false)
      else ({ m with bIsTransitionPending := true }, !m.bIsTransitionPending)

/-- What `pfCreate` answers, and whether it leaves a root object. -/
structure CreateResult where
  bResult : Bool
  pstRootObj : Bool
  deriving DecidableEq, Repr

/-- Replace the runtime of a slot. -/
def UIScreenManager.setRoot (m : UIScreenManager) (i : Nat) (pstRootObj : Bool) :
    UIScreenManager :=
  { m with
    staScreenDescriptors := m.staScreenDescriptors.modify i fun d =>
      { d with pstScreenRuntime := d.pstScreenRuntime.map fun _ => ⟨pstRootObj⟩ } }

/-- `vDelete_ScreenOnExit`. -/
def vDelete_ScreenOnExit (m : UIScreenManager) : Option Nat → UIScreenManager
  | none => m
  | some i =>
    match m.staScreenDescriptors[i]? with
    | none => m
    | some d => if d.bDeleteOnExit = false then m else m.setRoot i false

/-- `bActivate_RequestedScreen` between the read of the id and its reset: the
slot read, with what `pfCreate` does there. -/
def activate (m : UIScreenManager) (uiScreenIndex : Nat) (pstActiveDescriptor : UIScreenDescriptor)
    (created : CreateResult) : UIScreenManager × Bool :=
  if m.pstActiveDescriptor = some uiScreenIndex then (m, true)
  else
    match pstActiveDescriptor.pstScreenRuntime with
    | none => (m, false)
    | some pstScrRuntime =>
      let enter (m : UIScreenManager) : UIScreenManager × Bool :=
        let pstPreviousDescriptor := m.pstActiveDescriptor
        (vDelete_ScreenOnExit { m with pstActiveDescriptor := some uiScreenIndex }
          pstPreviousDescriptor, true)
      if pstScrRuntime.pstRootObj = true then enter m
      else if pstActiveDescriptor.pfCreate = false then (m, false)
      else
        let m := m.setRoot uiScreenIndex created.pstRootObj
        if created.bResult = false then (m, false)
        else if created.pstRootObj = false then (m, false)
        else enter m

/-! ## §3. The threads. -/

/-- The UI thread, and any number of threads that request screens. -/
inductive Thread (ι : Type) where
  | ui
  | worker (i : ι)
  deriving DecidableEq, Repr

/-- Where the UI thread stands in `vRun_UIScreenManager`. -/
inductive UiPc where
  /-- Outside `bActivate_RequestedScreen`. -/
  | running
  /-- The flag was found raised. -/
  | activating
  /-- The id has been read, and the slot of the table it leads to. -/
  | entering (eId : ScreenId)
  /-- The screen is active; the id is to be reset. -/
  | resetting (eId : ScreenId)
  /-- The id is reset; the flag is to be lowered. -/
  | lowering (eId : ScreenId)
  /-- The id read leads outside the table: nothing is known of what follows. -/
  | stray (eId : ScreenId)
  deriving DecidableEq, Repr

/-- The manager and all threads.  `accepted` and `activated` record the ids of
the requests that found the flag clear, and those whose activation lowered it. -/
structure Display (ι : Type) where
  manager : UIScreenManager
  ui : UiPc
  /-- The id that a thread has still to store. -/
  storing : Thread ι → Option ScreenId
  accepted : List ScreenId
  activated : List ScreenId

inductive Act (ι : Type) where
  /-- A thread enters `bRequest_UIScreen` and makes the exchange. -/
  | request (t : Thread ι) (eID : ScreenId)
  /-- It stores its id and returns. -/
  | store (t : Thread ι)
  /-- The UI thread loads the flag. -/
  | poll
  /-- It reads the id. -/
  | read
  /-- It activates the screen, with what `pfCreate` does. -/
  | activate (created : CreateResult)
  /-- It resets the id. -/
  | reset
  /-- It lowers the flag. -/
  | lower
  deriving DecidableEq, Repr

variable {ι : Type}

/-- After `bInit_UIScreenManager`. -/
def Display.init : Display ι where
  manager := bInit_UIScreenManager
  ui := .running
  storing := fun _ => none
  accepted := []
  activated := []

/-- `bRequest_UIScreen` of a thread that is in no other call of it. -/
def Display.request [DecidableEq ι] (s : Display ι) (t : Thread ι) (eID : ScreenId) :
    Option (Display ι) :=
  match s.storing t with
  | some _ => none
  | none =>
    match bRequest_UIScreen s.manager eID with
    | (m, false) => some { s with manager := m }
    | (m, true) =>
      some { s with
        manager := m
        storing := Function.update s.storing t (some eID)
        accepted := s.accepted ++ [eID] }

def Display.store [DecidableEq ι] (s : Display ι) (t : Thread ι) : Option (Display ι) :=
  (s.storing t).map fun eID =>
    { s with
      manager := { s.manager with ePendingScreenId := eID }
      storing := Function.update s.storing t none }

/-- The steps of `vRun_UIScreenManager` itself. -/
def Display.run (s : Display ι) : Act ι → Option (Display ι)
  | .poll =>
    if s.ui = .running then
      some (if s.manager.bIsTransitionPending = true then { s with ui := .activating } else s)
    else none
  | .read =>
    if s.ui = .activating then
      let eId := s.manager.ePendingScreenId
      some { s with ui := if (s.manager.slot eId).isSome then .entering eId else .stray eId }
    else none
  | .activate created =>
    match s.ui with
    | .entering eId =>
      (s.manager.slot eId).map fun d =>
        let r := Lvgl.activate s.manager (UI_SCREEN_SLOT_INDEX eId) d created
        { s with manager := r.1, ui := if r.2 = true then .resetting eId else .running }
    | _ => none
  | .reset =>
    match s.ui with
    | .resetting eId =>
      some { s with
        manager := { s.manager with ePendingScreenId := .none }
        ui := .lowering eId }
    | _ => none
  | .lower =>
    match s.ui with
    | .lowering eId =>
      some { s with
        manager := { s.manager with bIsTransitionPending := false }
        ui := .running
        activated := s.activated ++ [eId] }
    | _ => none
  | _ => none

/-- One step of any thread.  The UI thread goes on only when its own request,
if it makes one, has returned. -/
def Display.step [DecidableEq ι] (s : Display ι) (a : Act ι) : Option (Display ι) :=
  match a with
  | .request t eID => s.request t eID
  | .store t => s.store t
  | a => if s.storing .ui = none then s.run a else none

def displaySystem (ι : Type) [DecidableEq ι] : TransSys (Display ι) (Act ι) where
  init s := s = .init
  step s a s' := s.step a = some s'

end WallController.Lvgl
