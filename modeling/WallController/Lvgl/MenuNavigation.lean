/-
  WallController.Lvgl.MenuNavigation
  ────────────────────────────────
  **THE FOCUS OF THE MENUS.**

  Three screens keep a focus, each in its own way.  `MenuScreen` is what they
  have in common; `Sound` says that a screen simulates the focus of
  `Lib.FocusRing` and shows it.  From this follow, for every run of turns and
  presses on a screen that has been entered:

    • the focused item is covered, and no other is;
    • the focus is where the net number of moves takes it, round the menu;
    • the moves are so far apart that no window holds more than one for each
      200 ms, and one more.
-/
import WallController.Lib.FocusRing
import WallController.Lvgl.Menus
import WallController.Lvgl.SourceWork
import Mathlib.Data.Fintype.Basic
import Mathlib.Tactic.FinCases

namespace WallController.Lvgl

open WallController.AudioSrc (AudioSrcId)
open WallController.Lib

/-! ## §1. A menu. -/

/-- A screen with a focus, as its callbacks see it. -/
structure MenuScreen where
  Context : Type
  Item : Type
  /-- The number of items. -/
  n : Nat
  toNat : Item → Nat
  eFocusedItem : Context → Item
  uiLastNavigation_ms : Context → UInt32
  background : Context → Backgrounds Item
  /-- The screen has been created, and entered. -/
  Entered : Context → Prop
  rotate : Context → Turn → Context
  /-- A press, with what the store answers if it is called. -/
  press : Context → Int → Context
  /-- The reading that dates a turn of no detents. -/
  dated : Turn → Nat

inductive Input where
  | rotate (t : Turn)
  | press (iResult : Int)
  | release
  deriving DecidableEq, Repr

/-- The turns of a list of inputs. -/
def turns : List Input → List Turn
  | [] => []
  | .rotate t :: is => t :: turns is
  | .press _ :: is => turns is
  | .release :: is => turns is

namespace MenuScreen

variable (M : MenuScreen)

def input (c : M.Context) : Input → M.Context
  | .rotate t => M.rotate c t
  | .press iResult => M.press c iResult
  | .release => c

/-- The turns that change the focus. -/
def moved : M.Context → List Input → List Turn
  | _, [] => []
  | c, .rotate t :: is =>
    if M.toNat (M.eFocusedItem (M.rotate c t)) = M.toNat (M.eFocusedItem c) then
      moved (M.rotate c t) is
    else t :: moved (M.rotate c t) is
  | c, .press iResult :: is => moved (M.press c iResult) is
  | c, .release :: is => moved c is

/-- The focus is on an item, which is covered; the others are not. -/
structure Lit (c : M.Context) : Prop where
  focused : M.toNat (M.eFocusedItem c) < M.n
  covered : M.background c (M.eFocusedItem c) = some ITEM_SELECTION_BACKGROUND_COLOR
  clear : ∀ eItem, eItem ≠ M.eFocusedItem c → M.background c eItem = none

/-- The focus of the screen. -/
def focus (c : M.Context) : Focus := ⟨M.toNat (M.eFocusedItem c), M.uiLastNavigation_ms c⟩

/-- A turn, as the screen dates it. -/
def clock (t : Turn) : Turn := { t with later := M.dated t }

def blank : Nat := MENU_NAVIGATION_BLANK_TIME_ms.toNat

/-- What a turn does: it comes too early, it has no detents, or it moves the focus. -/
inductive Turned (c : M.Context) (t : Turn) : Prop
  | blanked (hearly : UInt32.ofNat t.now - M.uiLastNavigation_ms c < MENU_NAVIGATION_BLANK_TIME_ms)
      (hsame : M.rotate c t = c)
  | dated (hopen : ¬ UInt32.ofNat t.now - M.uiLastNavigation_ms c < MENU_NAVIGATION_BLANK_TIME_ms)
      (hzero : t.iDetents = 0) (hitem : M.eFocusedItem (M.rotate c t) = M.eFocusedItem c)
      (hback : M.background (M.rotate c t) = M.background c)
      (hlast : M.uiLastNavigation_ms (M.rotate c t) = UInt32.ofNat (M.dated t))
  | moved (hopen : ¬ UInt32.ofNat t.now - M.uiLastNavigation_ms c < MENU_NAVIGATION_BLANK_TIME_ms)
      (hdetents : t.iDetents ≠ 0) (hlit : M.Lit (M.rotate c t))
      (hitem : M.toNat (M.eFocusedItem (M.rotate c t))
        = ringStep M.n (decide (0 < t.iDetents)) (M.toNat (M.eFocusedItem c)))
      (hlast : M.uiLastNavigation_ms (M.rotate c t) = UInt32.ofNat t.now)

/-- The screen has a focus that goes round, and shows it. -/
structure Sound : Prop where
  two : 2 ≤ M.n
  dated : ∀ t : Turn, t.now ≤ t.later → t.now ≤ M.dated t ∧ M.dated t ≤ t.later
  entered : ∀ c, M.Entered c → M.Lit c ∧ M.uiLastNavigation_ms c = 0
  turned : ∀ c t, M.Lit c → M.Turned c t
  pressed : ∀ c iResult, M.focus (M.press c iResult) = M.focus c ∧
    M.eFocusedItem (M.press c iResult) = M.eFocusedItem c ∧
    M.background (M.press c iResult) = M.background c

variable {M} {c c' : M.Context} {t : Turn} {is : List Input}

theorem Lit.congr (h : M.Lit c) (hitem : M.eFocusedItem c' = M.eFocusedItem c)
    (hback : M.background c' = M.background c) : M.Lit c' where
  focused := by rw [hitem]; exact h.focused
  covered := by rw [hback, hitem]; exact h.covered
  clear := by rw [hback, hitem]; exact h.clear

theorem Turned.lit (h : M.Turned c t) (hc : M.Lit c) : M.Lit (M.rotate c t) := by
  cases h with
  | blanked _ hsame =>
    rw [hsame]
    exact hc
  | dated _ _ hitem hback _ => exact hc.congr hitem hback
  | moved _ _ hlit _ _ => exact hlit

/-- The comparison of two words is that of their distance. -/
theorem blanked_eq (M : MenuScreen) (c : M.Context) (t : Turn) :
    (M.focus c).blanked blank (M.clock t)
      = decide (UInt32.ofNat t.now - M.uiLastNavigation_ms c < MENU_NAVIGATION_BLANK_TIME_ms) := by
  refine decide_eq_decide.mpr ?_
  rw [UInt32.lt_iff_toNat_lt]
  rfl

/-- The screen simulates the focus of the ring. -/
theorem Turned.focus (h : M.Turned c t) :
    M.focus (M.rotate c t) = (M.focus c).turn M.n blank (M.clock t) := by
  unfold Focus.turn
  rw [blanked_eq]
  cases h with
  | blanked hearly hsame => rw [if_pos (decide_eq_true hearly), hsame]
  | dated hopen hzero hitem _ hlast =>
    rw [if_neg (by rw [decide_eq_true_iff]; exact hopen),
      if_pos (show (M.clock t).iDetents = 0 from hzero)]
    show Focus.mk _ _ = Focus.mk _ _
    rw [hitem, hlast]
    rfl
  | moved hopen hdetents _ hitem hlast =>
    rw [if_neg (by rw [decide_eq_true_iff]; exact hopen),
      if_neg (show ¬ (M.clock t).iDetents = 0 from hdetents)]
    show Focus.mk _ _ = Focus.mk _ _
    rw [hitem, hlast]
    rfl

theorem Sound.turn_lit (hM : M.Sound) (hc : M.Lit c) (t : Turn) : M.Lit (M.rotate c t) :=
  (hM.turned c t hc).lit hc

theorem Sound.turn_focus (hM : M.Sound) (hc : M.Lit c) (t : Turn) :
    M.focus (M.rotate c t) = (M.focus c).turn M.n blank (M.clock t) :=
  (hM.turned c t hc).focus

theorem Sound.press_lit (hM : M.Sound) (hc : M.Lit c) (iResult : Int) : M.Lit (M.press c iResult) :=
  hc.congr (hM.pressed c iResult).2.1 (hM.pressed c iResult).2.2

theorem Sound.press_focus (hM : M.Sound) (c : M.Context) (iResult : Int) :
    M.focus (M.press c iResult) = M.focus c := (hM.pressed c iResult).1

theorem Sound.input_lit (hM : M.Sound) (hc : M.Lit c) (i : Input) : M.Lit (M.input c i) := by
  cases i with
  | rotate t => exact hM.turn_lit hc t
  | press iResult => exact hM.press_lit hc iResult
  | release => exact hc

theorem Sound.run_lit (hM : M.Sound) (hc : M.Lit c) (is : List Input) :
    M.Lit (is.foldl M.input c) := by
  induction is generalizing c with
  | nil => exact hc
  | cons i is ih => exact ih (hM.input_lit hc i)

/-- A turn changes the focus just when it is not blanked and has detents. -/
theorem Sound.moves_iff (hM : M.Sound) (hc : M.Lit c) (t : Turn) :
    M.toNat (M.eFocusedItem (M.rotate c t)) ≠ M.toNat (M.eFocusedItem c) ↔
      (!(M.focus c).blanked blank (M.clock t) && decide (t.iDetents ≠ 0)) = true := by
  have hitem : M.toNat (M.eFocusedItem (M.rotate c t))
    = ((M.focus c).turn M.n blank (M.clock t)).item :=
    congrArg Focus.item (hM.turn_focus hc t)
  rw [hitem]
  cases hm : (!(M.focus c).blanked blank (M.clock t) && decide (t.iDetents ≠ 0)) with
  | true =>
    rw [@turn_of_move M.n blank (M.focus c) (M.clock t) hm]
    exact iff_of_true (ringStep_ne _ hM.two) rfl
  | false =>
    rw [@turn_item_of_still M.n blank (M.focus c) (M.clock t) hm]
    exact iff_of_false (fun h => h rfl) Bool.false_ne_true

/-- The turns that change the focus are the moves of the ring. -/
theorem Sound.moved_map (hM : M.Sound) (hc : M.Lit c) (is : List Input) :
    (M.moved c is).map M.clock = (M.focus c).moves M.n blank ((turns is).map M.clock) := by
  induction is generalizing c with
  | nil => rfl
  | cons i is ih =>
    cases i with
    | rotate t =>
      have hrest := ih (hM.turn_lit hc t)
      rw [hM.turn_focus hc t] at hrest
      have hiff := hM.moves_iff hc t
      show (if _ then M.moved (M.rotate c t) is else t :: M.moved (M.rotate c t) is).map M.clock
        = (M.focus c).moves M.n blank (M.clock t :: (turns is).map M.clock)
      split
      · next hsame =>
        rw [hrest, moves_of_still]
        exact Bool.eq_false_iff.mpr fun hm => hiff.mpr hm hsame
      · next hne =>
        rw [List.map_cons, hrest, moves_of_move]
        exact hiff.mp hne
    | press iResult =>
      have hrest := ih (hM.press_lit hc iResult)
      rw [hM.press_focus] at hrest
      exact hrest
    | release => exact ih hc

theorem Sound.run_focus (hM : M.Sound) (hc : M.Lit c) (is : List Input) :
    M.focus (is.foldl M.input c)
      = ((turns is).map M.clock).foldl (Focus.turn M.n blank) (M.focus c) := by
  induction is generalizing c with
  | nil => rfl
  | cons i is ih =>
    rw [List.foldl_cons, ih (hM.input_lit hc i)]
    cases i with
    | rotate t =>
      show _ = (M.clock t :: (turns is).map M.clock).foldl (Focus.turn M.n blank) (M.focus c)
      rw [List.foldl_cons, ← hM.turn_focus hc t]
      rfl
    | press iResult =>
      show (((turns is).map M.clock).foldl (Focus.turn M.n blank) (M.focus (M.press c iResult))) = _
      rw [hM.press_focus]
      rfl
    | release => rfl

/-- The dating keeps the order of the clock. -/
theorem Sound.ordered (hM : M.Sound) {start : Nat} {ts : List Turn} (h : Ordered start ts) :
    Ordered start (ts.map M.clock) := by
  induction ts generalizing start with
  | nil => exact trivial
  | cons t ts ih =>
    obtain ⟨hstart, hlater, hrest⟩ := h
    have hdated := hM.dated t hlater
    exact ⟨hstart, hdated.1, (ih hrest).mono hdated.2⟩

theorem netSteps_clock (ts : List Turn) : netSteps (ts.map M.clock) = netSteps ts := by
  unfold netSteps
  rw [List.map_map]
  rfl

theorem filter_clock (ts : List Turn) (a w : Nat) :
    ((ts.map M.clock).filter fun t => decide (a ≤ t.now ∧ t.now ≤ a + w)).length
      = (ts.filter fun t => decide (a ≤ t.now ∧ t.now ≤ a + w)).length := by
  rw [List.filter_map, List.length_map]
  rfl

end MenuScreen

open MenuScreen

/-- One item is covered before; it is cleared, and one is covered after. -/
theorem Backgrounds.cover_clear {ι : Type} [DecidableEq ι] {bg : Backgrounds ι} {eOld : ι}
    (h : ∀ eItem, eItem ≠ eOld → bg eItem = none) (eNew : ι) :
    ((bg.clear eOld).cover eNew) eNew = some ITEM_SELECTION_BACKGROUND_COLOR ∧
      ∀ eItem, eItem ≠ eNew → ((bg.clear eOld).cover eNew) eItem = none := by
  unfold Backgrounds.cover Backgrounds.clear
  refine ⟨Function.update_self _ _ _, ?_⟩
  intro eItem hne
  rw [Function.update_of_ne hne]
  by_cases heq : eItem = eOld
  · rw [heq, Function.update_self]
  · rw [Function.update_of_ne heq]
    exact h eItem heq

/-! ## §2. The source selection. -/

namespace Selection

open SelectedItem

def sourceSelectMenu : MenuScreen where
  Context := ScreenContext
  Item := SelectedItem
  n := numberOfItemSelections.toNat
  toNat := SelectedItem.toNat
  eFocusedItem := ScreenContext.eFocusedItem
  uiLastNavigation_ms := ScreenContext.uiLastNavigation_ms
  background := ScreenContext.background
  Entered c := ∃ selected, c = bCreate_AudioSrcSelectionScreen.vEnter_AudioSrcSelectionScreen selected
  rotate c t := c.vHandle_EncoderRotation t.iDetents (UInt32.ofNat t.now) (UInt32.ofNat t.later)
  press c iResult := ({ SelectionScreen.init with active := true, context :=
    c }.press iResult).context
  dated t := t.later

variable {c : ScreenContext}

theorem next_toNat {eItem : SelectedItem} (bIsForward : Bool) (h : eItem.toNat < 6) :
    (eGet_NextMenuItem eItem bIsForward).toNat = ringStep 6 bIsForward eItem.toNat := by
  cases eItem with
  | numberOfItemSelections => exact absurd h (by decide)
  | back | src1 | src2 | src3 | src4 | menu => cases bIsForward <;> rfl

theorem hasObject_of_lt {eItem : SelectedItem} (h : eItem.toNat < 6) : eItem.hasObject = true := by
  cases eItem with
  | numberOfItemSelections => exact absurd h (by decide)
  | back | src1 | src2 | src3 | src4 | menu => rfl

theorem ne_number_of_lt {eItem : SelectedItem} (h : eItem.toNat < 6) :
    eItem ≠ .numberOfItemSelections := by
  rintro rfl
  exact absurd h (by decide)

/-- The repaint clears the item that had the focus, and covers the one that has it. -/
theorem repaint_lit (hfocused : c.eFocusedItem.toNat < 6)
    (hprevious : c.ePreviouslyFocusedItem.toNat < 6)
    (hclear : ∀ eItem, eItem ≠ c.ePreviouslyFocusedItem → c.background eItem = none) :
    sourceSelectMenu.Lit c.vUpdate_UI_AtSelectionCHanged := by
  unfold ScreenContext.vUpdate_UI_AtSelectionCHanged
  rw [if_pos (hasObject_of_lt hfocused), if_pos (hasObject_of_lt hprevious)]
  have hpaint := Backgrounds.cover_clear hclear c.eFocusedItem
  exact ⟨hfocused, hpaint.1, hpaint.2⟩

theorem repaint_focused (c : ScreenContext) :
    c.vUpdate_UI_AtSelectionCHanged.eFocusedItem = c.eFocusedItem := by
  unfold ScreenContext.vUpdate_UI_AtSelectionCHanged
  split <;> rfl

/-- The entry covers Back, or the item of the selected source. -/
theorem enter_lit (selected : Option AudioSrcId) :
    sourceSelectMenu.Lit (bCreate_AudioSrcSelectionScreen.vEnter_AudioSrcSelectionScreen selected) := by
  unfold ScreenContext.vEnter_AudioSrcSelectionScreen
  cases selected with
  | none => exact repaint_lit (by decide) (by decide) fun _ _ => rfl
  | some eSrcId =>
    refine repaint_lit ?_ ?_ fun _ _ => ?_
    · revert eSrcId
      decide
    · revert eSrcId
      decide
    · fin_cases eSrcId <;> rfl

theorem press_context (c : ScreenContext) (iResult : Int) :
    sourceSelectMenu.press c iResult = c ∨ sourceSelectMenu.press c iResult = c.commit := by
  rcases SelectionScreen.press_cases
    { SelectionScreen.init with active := true, context := c } iResult
    with heq | ⟨eSrcId, _, heq⟩ | ⟨eScreenId, heq⟩
  · exact Or.inl (congrArg SelectionScreen.context heq)
  · exact Or.inr (congrArg SelectionScreen.context heq)
  · exact Or.inl (congrArg SelectionScreen.context heq)

/-- A commitment moves the icon only. -/
theorem commit_view (c : ScreenContext) :
    c.commit.eFocusedItem = c.eFocusedItem ∧ c.commit.background = c.background ∧
      c.commit.uiLastNavigation_ms = c.uiLastNavigation_ms := by
  unfold ScreenContext.commit ScreenContext.vPlace_SelectionIcon
  split <;> exact ⟨rfl, rfl, rfl⟩

theorem turned {t : Turn} (hc : sourceSelectMenu.Lit c) : sourceSelectMenu.Turned c t := by
  have hrotate : sourceSelectMenu.rotate c t
      = c.vHandle_EncoderRotation t.iDetents (UInt32.ofNat t.now) (UInt32.ofNat t.later) := rfl
  unfold ScreenContext.vHandle_EncoderRotation at hrotate
  by_cases hearly : UInt32.ofNat t.now - c.uiLastNavigation_ms < MENU_NAVIGATION_BLANK_TIME_ms
  · exact .blanked hearly (by rw [hrotate, if_pos hearly])
  · rw [if_neg hearly] at hrotate
    by_cases hzero : t.iDetents = 0
    · rw [if_pos hzero] at hrotate
      exact .dated hearly hzero (by rw [hrotate]; rfl) (by rw [hrotate]; rfl) (by rw [hrotate]; rfl)
    · have hitem := next_toNat (decide (0 < t.iDetents)) hc.focused
      have hlt := ringStep_lt (decide (0 < t.iDetents)) hc.focused
      have hnew : (eGet_NextMenuItem c.eFocusedItem (decide (0 < t.iDetents))).toNat < 6 :=
        hitem.trans_lt hlt
      dsimp only at hrotate
      rw [if_neg hzero, if_neg (ne_number_of_lt hnew)] at hrotate
      have hlit := @repaint_lit { c with
        ePreviouslyFocusedItem := c.eFocusedItem
        eFocusedItem := eGet_NextMenuItem c.eFocusedItem
          (decide (0 < t.iDetents)) } hnew hc.focused hc.clear
      have hfocus := repaint_focused { c with
        ePreviouslyFocusedItem := c.eFocusedItem
        eFocusedItem := eGet_NextMenuItem c.eFocusedItem (decide (0 < t.iDetents)) }
      refine .moved hearly hzero ?_ ?_ (by rw [hrotate]; rfl)
      · rw [hrotate]
        exact hlit.congr rfl rfl
      · rw [hrotate]
        exact (congrArg SelectedItem.toNat hfocus).trans hitem

theorem sourceSelectMenu_sound : sourceSelectMenu.Sound where
  two := by decide
  dated t h := ⟨h, Nat.le_refl _⟩
  entered := by
    rintro c ⟨selected, rfl⟩
    refine ⟨enter_lit selected, ?_⟩
    cases selected with
    | none => rfl
    | some eSrcId => fin_cases eSrcId <;> rfl
  turned c t hc := turned hc
  pressed c iResult := by
    rcases press_context c iResult with heq | heq
    · rw [heq]
      exact ⟨rfl, rfl, rfl⟩
    · obtain ⟨hfocus, hback, hlast⟩ := commit_view c
      rw [heq]
      refine ⟨?_, hfocus, hback⟩
      show Focus.mk (SelectedItem.toNat c.commit.eFocusedItem) c.commit.uiLastNavigation_ms
        = Focus.mk _ _
      rw [hfocus, hlast]
      rfl

end Selection

/-! ## §3. The main menu. -/

namespace MainMenu

open MenuItem

def mainMenu : MenuScreen where
  Context := ScreenContext
  Item := MenuItem
  n := numberOfMenuItems.toNat
  toNat := MenuItem.toNat
  eFocusedItem := ScreenContext.eFocusedItem
  uiLastNavigation_ms := ScreenContext.uiLastNavigation_ms
  background := ScreenContext.background
  Entered c := c = bCreate_AudioSrcSelectionScreen.vEnter_AudioSrcSelectionScreen
  rotate c t := c.vHandle_EncoderRotation t.iDetents (UInt32.ofNat t.now) (UInt32.ofNat t.later)
  press c _ := c
  dated t := t.later

variable {c : ScreenContext}

theorem next_toNat {eItem : MenuItem} (bIsForward : Bool) (h : eItem.toNat < 3) :
    (eGet_NextMenuItem eItem bIsForward).toNat = ringStep 3 bIsForward eItem.toNat := by
  cases eItem with
  | numberOfMenuItems => exact absurd h (by decide)
  | back | bluetooth | info => cases bIsForward <;> rfl

theorem ne_number_of_lt {eItem : MenuItem} (h : eItem.toNat < 3) : eItem ≠ .numberOfMenuItems := by
  rintro rfl
  exact absurd h (by decide)

/-- The selection clears the item that had the focus, and covers the new one. -/
theorem select_eq {eNewItem : MenuItem} (hfocused : c.eFocusedItem.toNat < 3)
    (hnew : eNewItem.toNat < 3) :
    c.vSet_SelectedMenuItem eNewItem =
      { c with
        ePreviouslyFocusedItem := c.eFocusedItem
        eFocusedItem := eNewItem
        background := (c.background.clear c.eFocusedItem).cover eNewItem } := by
  have hobject : eNewItem.hasObject = true := decide_eq_true (ne_number_of_lt hnew)
  unfold ScreenContext.vSet_SelectedMenuItem
  rw [if_pos (ne_number_of_lt hfocused), hobject]
  rfl

theorem select_lit {eNewItem : MenuItem} (hc : mainMenu.Lit c) (hnew : eNewItem.toNat < 3) :
    mainMenu.Lit (c.vSet_SelectedMenuItem eNewItem) := by
  rw [select_eq hc.focused hnew]
  have hpaint := @Backgrounds.cover_clear MenuItem _ c.background c.eFocusedItem hc.clear eNewItem
  exact ⟨hnew, hpaint.1, hpaint.2⟩

theorem turned {t : Turn} (hc : mainMenu.Lit c) : mainMenu.Turned c t := by
  have hrotate : mainMenu.rotate c t
      = c.vHandle_EncoderRotation t.iDetents (UInt32.ofNat t.now) (UInt32.ofNat t.later) := rfl
  unfold ScreenContext.vHandle_EncoderRotation at hrotate
  by_cases hearly : UInt32.ofNat t.now - c.uiLastNavigation_ms < MENU_NAVIGATION_BLANK_TIME_ms
  · exact .blanked hearly (by rw [hrotate, if_pos hearly])
  · rw [if_neg hearly] at hrotate
    by_cases hzero : t.iDetents = 0
    · rw [if_pos hzero] at hrotate
      exact .dated hearly hzero (by rw [hrotate]; rfl) (by rw [hrotate]; rfl) (by rw [hrotate]; rfl)
    · have hitem := next_toNat (decide (0 < t.iDetents)) hc.focused
      have hnew : (eGet_NextMenuItem c.eFocusedItem (decide (0 < t.iDetents))).toNat < 3 :=
        hitem.trans_lt (ringStep_lt _ hc.focused)
      have hfocus := congrArg ScreenContext.eFocusedItem (select_eq hc.focused hnew)
      dsimp only at hrotate
      rw [if_neg hzero, if_neg (ne_number_of_lt hnew)] at hrotate
      refine .moved hearly hzero ?_ ?_ (by rw [hrotate]; rfl)
      · rw [hrotate]
        exact (select_lit hc hnew).congr rfl rfl
      · rw [hrotate]
        exact (congrArg MenuItem.toNat hfocus).trans hitem

/-- The generated screen has Bluetooth covered, and the focus is on Back: the entry clears
the one, which is clear, and covers the other again. -/
theorem enter_lit : mainMenu.Lit bCreate_AudioSrcSelectionScreen.vEnter_AudioSrcSelectionScreen where
  focused := by decide
  covered := rfl
  clear := by
    intro eItem hne
    cases eItem with
    | bluetooth => exact (hne rfl).elim
    | back | info | numberOfMenuItems => rfl

theorem mainMenu_sound : mainMenu.Sound where
  two := by decide
  dated t h := ⟨h, Nat.le_refl _⟩
  entered := by
    rintro c rfl
    exact ⟨enter_lit, rfl⟩
  turned c t hc := turned hc
  pressed c _ := ⟨rfl, rfl, rfl⟩

/-- After any inputs a press asks for a screen. -/
theorem press_requests (hc : mainMenu.Entered c) (is : List Input) :
    ∃ eID, ScreenContext.vHandle_EncoderButonPress (is.foldl mainMenu.input c) = some eID := by
  have hlit := mainMenu_sound.run_lit (mainMenu_sound.entered c hc).1 is
  have hfocused : (ScreenContext.eFocusedItem (is.foldl mainMenu.input c)).toNat < 3 := hlit.focused
  unfold ScreenContext.vHandle_EncoderButonPress
  generalize ScreenContext.eFocusedItem (is.foldl mainMenu.input c) = eItem at hfocused ⊢
  cases eItem with
  | numberOfMenuItems => exact absurd hfocused (by decide)
  | back | bluetooth | info => exact ⟨_, rfl⟩

end MainMenu

/-! ## §4. The Bluetooth menu. -/

namespace BluetoothMenu

open BluetoothMenuItem

def bluetoothMenu : MenuScreen where
  Context := ScreenContext
  Item := BluetoothMenuItem
  n := numberOfItems.toNat
  toNat := BluetoothMenuItem.toNat
  eFocusedItem := ScreenContext.eFocusedItem
  uiLastNavigation_ms := ScreenContext.uiLastNavigation_ms
  background := ScreenContext.background
  Entered c := c = bCreate_BluetoothMenuScreen.vEnter_BluetoothMenuScreen
  rotate c t := c.vHandle_EncoderRotation t.iDetents (UInt32.ofNat t.now)
  press c _ := c
  dated t := t.now

variable {c : ScreenContext}

/-- The item that a turn selects. -/
def nextItem (eFocusedItem : BluetoothMenuItem) (iDetents : Int) : BluetoothMenuItem :=
  if 0 < iDetents then
    if eFocusedItem = .disconnect then .back else .ofInt (eFocusedItem.toNat + 1)
  else if eFocusedItem = .back then .disconnect
  else .ofInt (eFocusedItem.toNat - 1)

theorem next_toNat {eItem : BluetoothMenuItem} (iDetents : Int) (h : eItem.toNat < 3) :
    (nextItem eItem iDetents).toNat = ringStep 3 (decide (0 < iDetents)) eItem.toNat := by
  unfold nextItem
  by_cases hd : 0 < iDetents
  · rw [if_pos hd, decide_eq_true hd]
    cases eItem with
    | numberOfItems => exact absurd h (by decide)
    | back | connectPair | disconnect => rfl
  · rw [if_neg hd, decide_eq_false hd]
    cases eItem with
    | numberOfItems => exact absurd h (by decide)
    | back | connectPair | disconnect => rfl

/-- Every item is painted. -/
theorem set_lit {eNewItem : BluetoothMenuItem} (hnew : eNewItem.toNat < 3) :
    bluetoothMenu.Lit (c.vSet_FocusedItem eNewItem) ∧
      (c.vSet_FocusedItem eNewItem).eFocusedItem = eNewItem := by
  have hle : ¬ eNewItem.toNat ≥ BluetoothMenuItem.numberOfItems.toNat := Nat.not_le.mpr hnew
  unfold ScreenContext.vSet_FocusedItem
  rw [if_neg hle]
  refine ⟨⟨hnew, if_pos rfl, ?_⟩, rfl⟩
  intro eItem hne
  exact if_neg hne

theorem turned {t : Turn} (hc : bluetoothMenu.Lit c) : bluetoothMenu.Turned c t := by
  have hrotate : bluetoothMenu.rotate c t
      = c.vHandle_EncoderRotation t.iDetents (UInt32.ofNat t.now) := rfl
  unfold ScreenContext.vHandle_EncoderRotation at hrotate
  by_cases hearly : UInt32.ofNat t.now - c.uiLastNavigation_ms < BLUETOOTH_MENU_NAVIGATION_DELAY_MS
  · exact .blanked hearly (by rw [hrotate, if_pos hearly])
  · rw [if_neg hearly] at hrotate
    by_cases hzero : t.iDetents = 0
    · rw [if_pos hzero] at hrotate
      exact .dated hearly hzero (by rw [hrotate]; rfl) (by rw [hrotate]; rfl) (by rw [hrotate]; rfl)
    · have hitem := next_toNat t.iDetents hc.focused
      have hnew : (nextItem c.eFocusedItem t.iDetents).toNat < 3 :=
        hitem.trans_lt (ringStep_lt _ hc.focused)
      have hset := @set_lit c _ hnew
      rw [if_neg hzero] at hrotate
      refine .moved hearly hzero ?_ ?_ (by rw [hrotate]; rfl)
      · rw [hrotate]
        exact hset.1.congr rfl rfl
      · rw [hrotate]
        exact (congrArg BluetoothMenuItem.toNat hset.2).trans hitem

theorem bluetoothMenu_sound : bluetoothMenu.Sound where
  two := by decide
  dated t h := ⟨Nat.le_refl _, h⟩
  entered := by
    rintro c rfl
    exact ⟨(set_lit (by decide)).1, rfl⟩
  turned c t hc := turned hc
  pressed c _ := ⟨rfl, rfl, rfl⟩

/-- After any inputs a press asks for a screen, unless the state of the connection has been
asked for in vain. -/
theorem press_requests (hc : bluetoothMenu.Entered c) (is : List Input) (bResult : Bool) :
    (ScreenContext.vHandle_EncoderPress (is.foldl bluetoothMenu.input c) bResult).2 = none ↔
      bResult = false ∧ ScreenContext.eFocusedItem (is.foldl bluetoothMenu.input c) ≠ .back := by
  have hlit := bluetoothMenu_sound.run_lit (bluetoothMenu_sound.entered c hc).1 is
  have hfocused : (ScreenContext.eFocusedItem (is.foldl bluetoothMenu.input c)).toNat < 3 :=
    hlit.focused
  unfold ScreenContext.vHandle_EncoderPress
  generalize ScreenContext.eFocusedItem (is.foldl bluetoothMenu.input c) = eItem at hfocused ⊢
  cases eItem with
  | numberOfItems => exact absurd hfocused (by decide)
  | back => simp
  | connectPair | disconnect => cases bResult <;> simp

end BluetoothMenu

/-! ## §5. The three menus. -/

/-- The screens with a focus. -/
def menus : List MenuScreen :=
    [Selection.sourceSelectMenu, MainMenu.mainMenu, BluetoothMenu.bluetoothMenu]

theorem menus_sound {M : MenuScreen} (h : M ∈ menus) : M.Sound := by
  rcases List.mem_cons.mp h with rfl | h
  · exact Selection.sourceSelectMenu_sound
  · rcases List.mem_cons.mp h with rfl | h
    · exact MainMenu.mainMenu_sound
    · obtain rfl := List.mem_singleton.mp h
      exact BluetoothMenu.bluetoothMenu_sound

/-- **The focus of a menu**: in every run of inputs on a screen that has been entered, the
focused item alone is covered, the focus is the net number of moves from where it was, round
the menu, and no window of `w` ms holds more than `w / 200 + 1` moves, though the clock wraps. -/
theorem menus_go_round {M : MenuScreen} (hM : M ∈ menus) {c : M.Context} (hc : M.Entered c)
    (is : List Input) (hclock : Ordered 0 (turns is)) :
    M.Lit (is.foldl M.input c) ∧
      (M.toNat (M.eFocusedItem (is.foldl M.input c)) : Int)
        = (M.toNat (M.eFocusedItem c) + netSteps (M.moved c is)) % M.n ∧
      ∀ a w, ((M.moved c is).filter fun t => decide (a ≤ t.now ∧ t.now ≤ a + w)).length
        ≤ w / 200 + 1 := by
  have hsound := menus_sound hM
  obtain ⟨hlit, hlast⟩ := hsound.entered c hc
  have hmoved := hsound.moved_map hlit is
  refine ⟨hsound.run_lit hlit is, ?_, ?_⟩
  · have hitem := @run_item M.n blank (M.focus c) hlit.focused ((turns is).map M.clock)
    rw [← hsound.run_focus hlit is, ← hmoved, netSteps_clock] at hitem
    exact hitem
  · intro a w
    have hwindow := @moves_in_window M.n blank (M.focus c) ((turns is).map M.clock) 0 0 (by decide)
      hlast (Nat.le_refl 0) (hsound.ordered hclock) a w
    rw [← hmoved, filter_clock] at hwindow
    exact hwindow

/-- Three turns on the main menu; the second comes 50 ms after the first. -/
def threeTurns : List Input :=
  [.rotate ⟨1, 1000, 1000⟩, .rotate ⟨1, 1050, 1050⟩, .release, .rotate ⟨3, 1300, 1301⟩]

theorem menus_go_round_main :
    MainMenu.mainMenu.moved MainMenu.bCreate_AudioSrcSelectionScreen.vEnter_AudioSrcSelectionScreen threeTurns
        = [⟨1, 1000, 1000⟩, ⟨3, 1300, 1301⟩] ∧
      MainMenu.mainMenu.Lit (threeTurns.foldl MainMenu.mainMenu.input
        MainMenu.bCreate_AudioSrcSelectionScreen.vEnter_AudioSrcSelectionScreen) := by
  refine ⟨by decide, ?_⟩
  have hmem : MainMenu.mainMenu ∈ menus := List.mem_cons_of_mem _ List.mem_cons_self
  have hclock : Ordered 0 (turns threeTurns) :=
    ⟨by decide, by decide, by decide, by decide, by decide, by decide, trivial⟩
  exact (menus_go_round hmem rfl threeTurns hclock).1

end WallController.Lvgl
