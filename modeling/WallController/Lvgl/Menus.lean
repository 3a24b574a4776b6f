/-
  WallController.Lvgl.Menus
  ────────────────────────────────
  **THE MAIN MENU AND THE BLUETOOTH MENU (`MenuSelection.c`, `BluetoothMenu.c`).**

  Two screens of three items each.  They differ in how they paint: the main
  menu clears the item that had the focus and covers the one that gets it, and
  the Bluetooth menu paints all three.  A press leaves the screen alone and asks
  for another one; the Bluetooth menu sets the state of the connection first.
-/
import WallController.Lvgl.SourceSelection

namespace WallController.Lvgl

/-! ## §1. `MenuSelection.c`. -/

namespace MainMenu

/-- `eMenuItem_t`. -/
inductive MenuItem where
  | back
  | bluetooth
  | info
  | numberOfMenuItems
  deriving DecidableEq, Repr

/-- The value of the enumerator. -/
def MenuItem.toNat : MenuItem → Nat
  | .back => 0
  | .bluetooth => 1
  | .info => 2
  | .numberOfMenuItems => 3

/-- The conversion of an `int`. -/
def MenuItem.ofInt : Nat → MenuItem
  | 0 => .back
  | 1 => .bluetooth
  | 2 => .info
  | _ => .numberOfMenuItems

/-- `pstGet_MenuItem`: the item has an object on the screen. -/
def MenuItem.hasObject (eItem : MenuItem) : Bool := eItem ≠ .numberOfMenuItems

/-- `sT_MenuSelectionScreen_Context_t`, with what its objects show. -/
structure ScreenContext where
  eFocusedItem : MenuItem
  ePreviouslyFocusedItem : MenuItem
  uiLastNavigation_ms : UInt32
  background : Backgrounds MenuItem

/-- A successful `bCreate_AudioSrcSelectionScreen` (of this file): after the
`memset`, with the objects as they are generated. -/
def bCreate_AudioSrcSelectionScreen : ScreenContext where
  eFocusedItem := .back
  ePreviouslyFocusedItem := .back
  uiLastNavigation_ms := 0
  background := Backgrounds.cover (fun _ => none) .bluetooth

/-- `eGet_NextMenuItem`. -/
def eGet_NextMenuItem (eFocusedItem : MenuItem) (bIsForward : Bool) : MenuItem :=
  if eFocusedItem.toNat ≥ MenuItem.numberOfMenuItems.toNat then .numberOfMenuItems
  else if bIsForward then
    if eFocusedItem = .info then .back else .ofInt (eFocusedItem.toNat + 1)
  else if eFocusedItem = .back then .info
  else .ofInt (eFocusedItem.toNat - 1)

namespace ScreenContext

variable (c : ScreenContext)

/-- `vSet_SelectedMenuItem`. -/
def vSet_SelectedMenuItem (eNewItem : MenuItem) : ScreenContext :=
  let background :=
    if c.eFocusedItem ≠ .numberOfMenuItems then c.background.clear c.eFocusedItem else c.background
  if !eNewItem.hasObject then { c with background := background }
  else
    { c with
      ePreviouslyFocusedItem := c.eFocusedItem
      eFocusedItem := eNewItem
      background := background.cover eNewItem }

/-- `vEnter_AudioSrcSelectionScreen` (of this file) on a root object that is valid. -/
def vEnter_AudioSrcSelectionScreen : ScreenContext := c.vSet_SelectedMenuItem .bluetooth

/-- `vHandle_EncoderRotation`, with its two readings of the clock. -/
def vHandle_EncoderRotation (iDetents : Int) (uiNow_ms uiLater_ms : UInt32) : ScreenContext :=
  if uiNow_ms - c.uiLastNavigation_ms < MENU_NAVIGATION_BLANK_TIME_ms then c
  else if iDetents = 0 then { c with uiLastNavigation_ms := uiLater_ms }
  else
    let eNewIndex := eGet_NextMenuItem c.eFocusedItem (decide (0 < iDetents))
    if eNewIndex = .numberOfMenuItems then { c with uiLastNavigation_ms := uiLater_ms }
    else { c.vSet_SelectedMenuItem eNewIndex with uiLastNavigation_ms := uiNow_ms }

/-- The screen that `vHandle_EncoderButonPress` requests. -/
def vHandle_EncoderButonPress : Option ScreenId :=
  if c.eFocusedItem = .back then some .sourceSelect
  else if c.eFocusedItem = .bluetooth then some .bluetoothMenu
  else if c.eFocusedItem = .info then some .mainMenu
  else none

end ScreenContext

end MainMenu

/-! ## §2. `BluetoothMenu.c`. -/

namespace BluetoothMenu

def BLUETOOTH_MENU_SELECTED_COLOR : Nat := 0x066CFA
def BLUETOOTH_MENU_NAVIGATION_DELAY_MS : UInt32 := 200

/-- `eBLEState_t`. -/
inductive BLEState where
  | none
  | pairing
  | disconnecting
  | disconnect
  | connected
  deriving DecidableEq, Repr

/-- `eBluetoothMenuItem_t`. -/
inductive BluetoothMenuItem where
  | back
  | connectPair
  | disconnect
  | numberOfItems
  deriving DecidableEq, Repr

/-- The value of the enumerator. -/
def BluetoothMenuItem.toNat : BluetoothMenuItem → Nat
  | .back => 0
  | .connectPair => 1
  | .disconnect => 2
  | .numberOfItems => 3

/-- The conversion of an `int`. -/
def BluetoothMenuItem.ofInt : Nat → BluetoothMenuItem
  | 0 => .back
  | 1 => .connectPair
  | 2 => .disconnect
  | _ => .numberOfItems

/-- `sT_BluetoothMenuScreen_Context_t`, less the previous focus, which nothing
reads, with what its objects show. -/
structure ScreenContext where
  eFocusedItem : BluetoothMenuItem
  uiLastNavigation_ms : UInt32
  background : Backgrounds BluetoothMenuItem

/-- A successful `bCreate_BluetoothMenuScreen`. -/
def bCreate_BluetoothMenuScreen : ScreenContext where
  eFocusedItem := .connectPair
  uiLastNavigation_ms := 0
  background := Backgrounds.cover (fun _ => none) .connectPair

namespace ScreenContext

variable (c : ScreenContext)

/-- `vSet_FocusedItem`: every item is painted. -/
def vSet_FocusedItem (eNewItem : BluetoothMenuItem) : ScreenContext :=
  if eNewItem.toNat ≥ BluetoothMenuItem.numberOfItems.toNat then c
  else
    { c with
      eFocusedItem := eNewItem
      background := fun eItem =>
        if eItem = eNewItem then some BLUETOOTH_MENU_SELECTED_COLOR else none }

/-- `vEnter_BluetoothMenuScreen` on a root object that is valid. -/
def vEnter_BluetoothMenuScreen : ScreenContext :=
  { c with eFocusedItem := .connectPair, uiLastNavigation_ms := 0 }.vSet_FocusedItem .connectPair

/-- `vHandle_EncoderRotation`, which reads the clock once. -/
def vHandle_EncoderRotation (iDetents : Int) (uiNow_ms : UInt32) : ScreenContext :=
  if uiNow_ms - c.uiLastNavigation_ms < BLUETOOTH_MENU_NAVIGATION_DELAY_MS then c
  else if iDetents = 0 then { c with uiLastNavigation_ms := uiNow_ms }
  else
    let eNewItem :=
      if 0 < iDetents then
        if c.eFocusedItem = .disconnect then .back else .ofInt (c.eFocusedItem.toNat + 1)
      else if c.eFocusedItem = .back then .disconnect
      else .ofInt (c.eFocusedItem.toNat - 1)
    { c.vSet_FocusedItem eNewItem with uiLastNavigation_ms := uiNow_ms }

/-- `vHandle_EncoderPress`: the state that is asked for, and the screen that is requested when
`bSet_BleConnectionState` has answered. -/
def vHandle_EncoderPress (bResult : Bool) : Option BLEState × Option ScreenId :=
  match c.eFocusedItem with
  | .back => (none, some .mainMenu)
  | .connectPair => (some .pairing, if bResult then some .bluetoothControl else none)
  | .disconnect => (some .disconnect, if bResult then some .bluetoothControl else none)
  | .numberOfItems => (none, none)

end ScreenContext

end BluetoothMenu

end WallController.Lvgl
