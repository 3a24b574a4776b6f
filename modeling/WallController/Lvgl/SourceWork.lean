/-
  WallController.Lvgl.SourceWork
  ────────────────────────────────
  **THE SCREEN THAT FOLLOWS A CHOICE.**

  A source that is pressed is committed, and its work item asks for the next
  screen later.  In every interleaving of the UI thread with the work queue:

    • the committed item and the check icon are those of the last choice, or of
      the selected source at the entry;
    • the item waits only for a choice that stands, one that neither Back, Menu
      nor the exit has revoked;
    • a handler that ran when the choice was revoked asks for one screen more,
      and then no handler does.

  The other way round, a choice that stands is not lost before its request is
  accepted, unless the timer runs out while a cancelled handler still runs.
-/
import WallController.Lvgl.SourceSelection

namespace WallController.Lvgl.Selection

open WallController.AudioSrc (AudioSrcId eNUMBER_OF_AUDIO_SOURCES)
open WallController.Lib

/-! ## §1. What the log says. -/

/-- A source is chosen, and the choice has not been revoked. -/
def standing : List Event → Bool
  | [] => false
  | .chosen _ :: _ => true
  | .revoked :: _ => false
  | .left :: _ => false
  | .created :: _ => false
  | .entered _ :: log => standing log
  | .navigated _ _ :: log => standing log
  | .submitted _ _ _ :: log => standing log

/-- It has not led to an accepted request yet; that of a cancelled handler is late, and one of
the choice before it. -/
def outstanding : List Event → Bool
  | [] => false
  | .chosen _ :: _ => true
  | .submitted _ true false :: _ => false
  | .revoked :: _ => false
  | .left :: _ => false
  | .created :: _ => false
  | .submitted _ true true :: log => outstanding log
  | .submitted _ false _ :: log => outstanding log
  | .entered _ :: log => outstanding log
  | .navigated _ _ :: log => outstanding log

/-- The requests of the handler since the last choice was revoked. -/
def lateRequests : List Event → Nat
  | [] => 0
  | .chosen _ :: _ => 0
  | .submitted _ _ _ :: log => if standing log then 0 else lateRequests log + 1
  | .revoked :: log => lateRequests log
  | .left :: log => lateRequests log
  | .created :: log => lateRequests log
  | .entered _ :: log => lateRequests log
  | .navigated _ _ :: log => lateRequests log

/-- The item of the last choice, or of the selected source at the entry. -/
def committedOf : List Event → SelectedItem
  | [] => .back
  | .created :: _ => .back
  | .entered (some eSrcId) :: _ => itemOfSource eSrcId
  | .entered none :: log => committedOf log
  | .chosen eSrcId :: _ => itemOfSource eSrcId
  | .revoked :: log => committedOf log
  | .left :: log => committedOf log
  | .navigated _ _ :: log => committedOf log
  | .submitted _ _ _ :: log => committedOf log

/-- The icon is on a source only. -/
def iconOf (eItem : SelectedItem) : Option SelectedItem :=
  if (eGet_AudioSrcFromItem eItem).isSome then some eItem else none

variable {log : List Event}

theorem standing_of_outstanding (h : outstanding log = true) : standing log = true := by
  induction log with
  | nil => exact h
  | cons e log ih =>
    cases e with
    | chosen => rfl
    | revoked | left | created => exact h
    | entered | navigated => exact ih h
    | submitted eScrId bResult bCanceled =>
      cases bResult with
      | true =>
        cases bCanceled with
        | true => exact ih h
        | false => exact absurd h Bool.false_ne_true
      | false => exact ih h

/-- No request is late while a choice stands. -/
theorem late_of_standing (h : standing log = true) : lateRequests log = 0 := by
  induction log with
  | nil => rfl
  | cons e log ih =>
    cases e with
    | chosen => rfl
    | revoked | left | created => exact absurd h Bool.false_ne_true
    | entered | navigated => exact ih h
    | submitted =>
      show (if standing log = true then 0 else lateRequests log + 1) = 0
      exact if_pos h

theorem item_isSource (eSrcId : AudioSrcId) :
    eGet_AudioSrcFromItem (itemOfSource eSrcId) = some eSrcId := by
  revert eSrcId
  decide

theorem eq_itemOfSource {eItem : SelectedItem} {eSrcId : AudioSrcId}
    (h : eGet_AudioSrcFromItem eItem = some eSrcId) : eItem = itemOfSource eSrcId := by
  cases eItem with
  | back | menu | numberOfItemSelections => exact absurd h (by simp [eGet_AudioSrcFromItem])
  | src1 | src2 | src3 | src4 =>
    obtain rfl := Option.some.inj h
    rfl

/-- A choice that stands is of a source. -/
theorem isSource_of_standing (h : standing log = true) :
    ∃ eSrcId, eGet_AudioSrcFromItem (committedOf log) = some eSrcId := by
  induction log with
  | nil => exact absurd h Bool.false_ne_true
  | cons e log ih =>
    cases e with
    | chosen eSrcId => exact ⟨eSrcId, item_isSource eSrcId⟩
    | revoked | left | created => exact absurd h Bool.false_ne_true
    | entered selected =>
      cases selected with
      | none => exact ih h
      | some eSrcId => exact ⟨eSrcId, item_isSource eSrcId⟩
    | navigated | submitted => exact ih h

/-! ## §2. The context. -/

namespace ScreenContext

variable (c : ScreenContext)

theorem vUpdate_UI_committed :
    c.vUpdate_UI_AtSelectionCHanged.eCommittedSourceItem = c.eCommittedSourceItem := by
  unfold vUpdate_UI_AtSelectionCHanged
  split <;> rfl

theorem vUpdate_UI_icon : c.vUpdate_UI_AtSelectionCHanged.icon = c.icon := by
  unfold vUpdate_UI_AtSelectionCHanged
  split <;> rfl

/-- A turn of the encoder changes neither. -/
theorem rotate_committed (iDetents : Int) (uiNow_ms uiLater_ms : UInt32) :
    (c.vHandle_EncoderRotation iDetents uiNow_ms uiLater_ms).eCommittedSourceItem
        = c.eCommittedSourceItem ∧
      (c.vHandle_EncoderRotation iDetents uiNow_ms uiLater_ms).icon = c.icon := by
  unfold vHandle_EncoderRotation
  split
  · exact ⟨rfl, rfl⟩
  · split
    · exact ⟨rfl, rfl⟩
    · dsimp only
      split
      · exact ⟨rfl, rfl⟩
      · exact ⟨vUpdate_UI_committed _, vUpdate_UI_icon _⟩

theorem place_icon {eItem : SelectedItem} : (c.vPlace_SelectionIcon eItem).icon = iconOf eItem := by
  unfold vPlace_SelectionIcon
  cases eItem <;> rfl

theorem place_committed {eItem : SelectedItem} :
    (c.vPlace_SelectionIcon eItem).eCommittedSourceItem = c.eCommittedSourceItem := by
  unfold vPlace_SelectionIcon
  split <;> rfl

theorem setSelected_committed (eSrcId : AudioSrcId) :
    (c.vSet_SelectedItem_ByAudioSrc eSrcId).eCommittedSourceItem = itemOfSource eSrcId := by
  unfold vSet_SelectedItem_ByAudioSrc
  dsimp only
  split <;> rfl

/-- The entry takes the selected source; without one it leaves both alone. -/
theorem enter_committed (eSrcId : AudioSrcId) :
    (c.vEnter_AudioSrcSelectionScreen (some eSrcId)).eCommittedSourceItem = itemOfSource eSrcId ∧
      (c.vEnter_AudioSrcSelectionScreen (some eSrcId)).icon = iconOf (itemOfSource eSrcId) := by
  unfold vEnter_AudioSrcSelectionScreen vUpdate_Selection_FromConfigData
  dsimp only
  rw [vUpdate_UI_committed, vUpdate_UI_icon, place_committed, place_icon, setSelected_committed]
  exact ⟨rfl, rfl⟩

theorem enter_committed_none :
    (c.vEnter_AudioSrcSelectionScreen none).eCommittedSourceItem = c.eCommittedSourceItem ∧
      (c.vEnter_AudioSrcSelectionScreen none).icon = c.icon := by
  unfold vEnter_AudioSrcSelectionScreen vUpdate_Selection_FromConfigData
  dsimp only
  rw [vUpdate_UI_committed, vUpdate_UI_icon]
  exact ⟨rfl, rfl⟩

/-- A press on a source commits the item it is on. -/
theorem commit_committed {eSrcId : AudioSrcId}
    (h : eGet_AudioSrcFromItem c.eFocusedItem = some eSrcId) :
    c.commit.eCommittedSourceItem = itemOfSource eSrcId ∧
      c.commit.icon = iconOf (itemOfSource eSrcId) := by
  unfold commit
  rw [place_committed, place_icon, ← eq_itemOfSource h]
  exact ⟨rfl, rfl⟩

end ScreenContext

/-! ## §3. The invariant. -/

/-- The handler has not made its request yet. -/
def mayAsk : Option HandlerPc → Nat
  | some .called | some (.reading _) | some (.requesting _) => 1
  | some .refused | some .returning | none => 0

theorem mayAsk_le (handler : Option HandlerPc) : mayAsk handler ≤ 1 := by
  cases handler with
  | none => exact Nat.zero_le _
  | some pc =>
    cases pc with
    | called | reading | requesting => exact Nat.le_refl 1
    | refused | returning => exact Nat.zero_le 1

namespace SelectionScreen

structure Inv (s : SelectionScreen) : Prop where
  running : s.work.running = s.handler.isSome
  inactive : s.active = false → s.ui = .outside ∧ standing s.log = false
  chosen : s.ui = .committed → standing s.log = true
  pending : s.work.Pending → standing s.log = true
  live : s.work.running = true → s.work.canceling = false → standing s.log = true
  late : standing s.log = false → lateRequests s.log + mayAsk s.handler ≤ 1
  committed : s.context.eCommittedSourceItem = committedOf s.log
  icon : s.context.icon = iconOf s.context.eCommittedSourceItem

variable {s s' : SelectionScreen}

theorem Inv.init : SelectionScreen.init.Inv where
  running := rfl
  inactive _ := ⟨rfl, rfl⟩
  chosen h := absurd h (by decide)
  pending h := absurd h (by decide)
  live h := absurd h (by decide)
  late _ := by decide
  committed := rfl
  icon := rfl

/-- Once a choice is revoked, at most the handler that runs is late. -/
theorem Inv.late_le (h : s.Inv) : lateRequests s.log + mayAsk s.handler ≤ 1 := by
  cases hst : standing s.log with
  | true =>
    have hlate := late_of_standing hst
    have hask := mayAsk_le s.handler
    omega
  | false => exact h.late hst

/-! ## §4. The callbacks. -/

/-- A step of the UI thread that leaves the item, the handler and what stands alone. -/
theorem Inv.quiet (h : s.Inv) (hwork : s'.work = s.work) (hhandler : s'.handler = s.handler)
    (hstanding : standing s'.log = standing s.log)
    (hlate : lateRequests s'.log = lateRequests s.log)
    (hinactive : s'.active = false → s'.ui = .outside ∧ standing s'.log = false)
    (hchosen : s'.ui ≠ .committed) (hcommitted : s'.context.eCommittedSourceItem = committedOf s'.log)
    (hicon : s'.context.icon = iconOf s'.context.eCommittedSourceItem) : s'.Inv where
  running := by rw [hwork, hhandler]; exact h.running
  inactive := hinactive
  chosen hui := absurd hui hchosen
  pending hp := by rw [hstanding]; exact h.pending (by rw [← hwork]; exact hp)
  live hr hc := by rw [hstanding]; exact h.live (by rw [← hwork]; exact hr) (by rw [← hwork]; exact hc)
  late hs := by rw [hlate, hhandler]; exact h.late (by rw [← hstanding]; exact hs)
  committed := hcommitted
  icon := hicon

/-- The screen is created anew, or not at all. -/
theorem Inv.create (h : s.Inv) (hui : s.ui = .outside) (ha : s.active = false)
    (bRootExists bObjectsMade : Bool) : (s.create bRootExists bObjectsMade).Inv := by
  have hst := (h.inactive ha).2
  unfold SelectionScreen.create
  split
  · exact h
  · refine h.quiet rfl rfl hst.symm rfl (fun _ => ⟨hui, rfl⟩) ?_ ?_ ?_
    · show s.ui ≠ .committed
      rw [hui]
      decide
    · cases bObjectsMade <;> rfl
    · cases bObjectsMade <;> rfl

theorem Inv.enter (h : s.Inv) (hui : s.ui = .outside) (bRootValid : Bool)
    (selected : Option AudioSrcId) :
    (if bRootValid then
        { s with
          active := true
          context := s.context.vEnter_AudioSrcSelectionScreen selected
          log := .entered selected :: s.log }
      else { s with active := true } : SelectionScreen).Inv := by
  have hout : s.ui ≠ .committed := by rw [hui]; decide
  split
  · refine h.quiet rfl rfl rfl rfl (fun ha => absurd ha (by simp)) hout ?_ ?_
    · cases selected with
      | none => exact (s.context.enter_committed_none).1.trans h.committed
      | some eSrcId => exact (s.context.enter_committed eSrcId).1
    · cases selected with
      | none =>
        have hsame := s.context.enter_committed_none
        show (s.context.vEnter_AudioSrcSelectionScreen none).icon = iconOf _
        rw [hsame.2, h.icon, ← hsame.1]
      | some eSrcId =>
        have hnew := s.context.enter_committed eSrcId
        show (s.context.vEnter_AudioSrcSelectionScreen (some eSrcId)).icon = iconOf _
        rw [hnew.2, ← hnew.1]
  · exact h.quiet rfl rfl rfl rfl (fun ha => absurd ha (by simp)) hout h.committed h.icon

theorem Inv.rotate (h : s.Inv) (hui : s.ui = .outside) (ha : s.active = true) (iDetents : Int)
    (uiNow_ms uiLater_ms : UInt32) :
    { s with context := s.context.vHandle_EncoderRotation iDetents uiNow_ms uiLater_ms }.Inv := by
  have hsame := s.context.rotate_committed iDetents uiNow_ms uiLater_ms
  refine h.quiet rfl rfl rfl rfl (fun hn => absurd (ha.symm.trans hn) (by decide)) ?_ ?_ ?_
  · show s.ui ≠ .committed
    rw [hui]
    decide
  · exact hsame.1.trans h.committed
  · show (s.context.vHandle_EncoderRotation iDetents uiNow_ms uiLater_ms).icon = iconOf _
    rw [hsame.2, h.icon, ← hsame.1]

/-- What a press does: nothing, or it commits a source, or it is about to cancel. -/
theorem press_cases (s : SelectionScreen) (iResult : Int) :
    s.press iResult = s ∨
      (∃ eSrcId, eGet_AudioSrcFromItem s.context.eFocusedItem = some eSrcId ∧
        s.press iResult = { s with
          context := s.context.commit
          ui := .committed
          log := .chosen eSrcId :: s.log }) ∨
      ∃ eScreenId, s.press iResult = { s with ui := .cancelling eScreenId } := by
  unfold press
  dsimp only
  split
  · cases he : eGet_AudioSrcFromItem s.context.eFocusedItem with
    | none => exact Or.inl rfl
    | some eSrcId =>
      dsimp only
      split
      · exact Or.inl rfl
      · exact Or.inr (Or.inl ⟨eSrcId, rfl, rfl⟩)
  · split
    · exact Or.inr (Or.inr ⟨_, rfl⟩)
    · split
      · exact Or.inr (Or.inr ⟨_, rfl⟩)
      · exact Or.inl rfl

theorem Inv.press (h : s.Inv) (ha : s.active = true) (iResult : Int) : (s.press iResult).Inv := by
  rcases press_cases s iResult with heq | ⟨eSrcId, hsrc, heq⟩ | ⟨eScreenId, heq⟩
  · rw [heq]
    exact h
  · rw [heq]
    have hcommit := s.context.commit_committed hsrc
    exact
      { running := h.running
        inactive := fun hn => absurd (ha.symm.trans hn) (by decide)
        chosen := fun _ => rfl
        pending := fun _ => rfl
        live := fun _ _ => rfl
        late := fun hs => absurd hs (by simp [standing])
        committed := hcommit.1
        icon := by rw [hcommit.2, ← hcommit.1] }
  · rw [heq]
    exact h.quiet rfl rfl rfl rfl (fun hn => absurd (ha.symm.trans hn) (by decide)) (by simp)
      h.committed h.icon

/-- The work is cancelled, and the choice with it. -/
theorem Inv.cancel (h : s.Inv) {e : Event} (hstanding : standing (e :: s.log) = false)
    (hlate : lateRequests (e :: s.log) = lateRequests s.log)
    (hcommitted : committedOf (e :: s.log) = committedOf s.log) (hwork : s'.work = s.work.cancel)
    (hhandler : s'.handler = s.handler) (hcontext : s'.context = s.context)
    (hlog : s'.log = e :: s.log) (hui : s'.ui ≠ .committed)
    (hinactive : s'.active = false → s'.ui = .outside) : s'.Inv where
  running := by rw [hwork, hhandler]; exact h.running
  inactive hn := ⟨hinactive hn, by rw [hlog]; exact hstanding⟩
  chosen hc := absurd hc hui
  pending hp := by
    rw [hwork] at hp
    exact absurd hp DelayableWork.cancel_not_pending
  live hr hc := by
    rw [hwork] at hr hc
    exact absurd (hr.symm.trans hc) (by decide)
  late _ := by
    rw [hlog, hlate, hhandler]
    exact h.late_le
  committed := by rw [hcontext, hlog, hcommitted]; exact h.committed
  icon := by rw [hcontext]; exact h.icon

theorem Inv.exit (h : s.Inv) (hui : s.ui = .outside) :
    { s with work := s.work.cancel, active := false, log := .left :: s.log }.Inv := by
  refine @Inv.cancel s _ h .left rfl rfl rfl rfl rfl rfl rfl ?_ ?_
  · show s.ui ≠ .committed
    rw [hui]
    decide
  · intro _
    exact hui

theorem Inv.active_of (h : s.Inv) (hui : s.ui ≠ .outside) : s.active = true := by
  by_contra ha
  exact hui (h.inactive (Bool.eq_false_iff.mpr ha)).1

theorem Inv.uiStep (h : s.Inv) {bRequested : Bool} (hst : s.uiStep bRequested = some s') :
    s'.Inv := by
  unfold SelectionScreen.uiStep at hst
  cases hui : s.ui with
  | outside =>
    rw [hui] at hst
    exact absurd hst (by simp)
  | committed =>
    rw [hui] at hst
    obtain rfl := Option.some.inj hst
    have hstanding := h.chosen hui
    have ha := h.active_of (by rw [hui]; decide)
    exact
      { running := h.running
        inactive := fun hn => absurd (ha.symm.trans hn) (by decide)
        chosen := fun _ => hstanding
        pending := fun _ => hstanding
        live := fun _ _ => hstanding
        late := h.late
        committed := h.committed
        icon := h.icon }
  | cancelling eScreenId =>
    rw [hui] at hst
    obtain rfl := Option.some.inj hst
    have ha := h.active_of (by rw [hui]; simp)
    exact @Inv.cancel s _ h .revoked rfl rfl rfl rfl rfl rfl rfl (by simp)
      fun hn => absurd (ha.symm.trans hn) (by decide)
  | requesting eScreenId =>
    rw [hui] at hst
    obtain rfl := Option.some.inj hst
    have ha := h.active_of (by rw [hui]; simp)
    exact h.quiet rfl rfl rfl rfl (fun hn => absurd (ha.symm.trans hn) (by decide)) (by simp)
      h.committed h.icon

/-! ## §5. The work item and its handler. -/

theorem Inv.expire (h : s.Inv) {work : DelayableWork} (hw : s.work.expire = some work) :
    { s with work := work }.Inv := by
  obtain ⟨hsched, hr, hc, _⟩ := DelayableWork.expire_cases hw
  have hstanding := h.pending (Or.inl hsched)
  exact
    { running := hr.trans h.running
      inactive := h.inactive
      chosen := h.chosen
      pending := fun _ => hstanding
      live := fun _ _ => hstanding
      late := h.late
      committed := h.committed
      icon := h.icon }

theorem Inv.call (h : s.Inv) {work : DelayableWork} (hw : s.work.start = some work) :
    { s with work := work, handler := some .called }.Inv := by
  obtain ⟨hp, _, _, hr, _⟩ := DelayableWork.start_cases hw
  have hstanding := h.pending hp
  exact
    { running := hr
      inactive := h.inactive
      chosen := h.chosen
      pending := fun _ => hstanding
      live := fun _ _ => hstanding
      late := fun hs => absurd (hstanding.symm.trans hs) (by decide)
      committed := h.committed
      icon := h.icon }

/-- A step of the handler that does not touch the item. -/
theorem Inv.advance (h : s.Inv) {pc pc' : HandlerPc} (hh : s.handler = some pc)
    (hask : mayAsk (some pc') ≤ mayAsk (some pc)) : { s with handler := some pc' }.Inv where
  running := by
    have hr := h.running
    rw [hh] at hr
    exact hr
  inactive := h.inactive
  chosen := h.chosen
  pending := h.pending
  live := h.live
  late hs := by
    have hlate := h.late hs
    rw [hh] at hlate
    show lateRequests s.log + mayAsk (some pc') ≤ 1
    omega
  committed := h.committed
  icon := h.icon

/-- The request of the handler: late, if no choice stands. -/
theorem Inv.submit (h : s.Inv) {eScrId : ScreenId} (hh : s.handler = some (.requesting eScrId))
    (bRequested : Bool) :
    { s with
      handler := some (if bRequested then .returning else .refused)
      log := .submitted eScrId bRequested s.work.canceling :: s.log }.Inv where
  running := by
    have hr := h.running
    rw [hh] at hr
    exact hr
  inactive := h.inactive
  chosen := h.chosen
  pending := h.pending
  live := h.live
  late hs := by
    have hs' : standing s.log = false := hs
    have hlate := h.late hs'
    rw [hh] at hlate
    have hone : mayAsk (some (.requesting eScrId)) = 1 := rfl
    have hnone : mayAsk (some (if bRequested then .returning else .refused)) = 0 := by
      cases bRequested <;> rfl
    show (if standing s.log = true then 0 else lateRequests s.log + 1) + _ ≤ 1
    rw [if_neg (by rw [hs']; decide), hnone]
    omega
  committed := h.committed
  icon := h.icon

/-- A refused request: the item is scheduled again, unless it has been cancelled. -/
theorem Inv.retry (h : s.Inv) (hh : s.handler = some .refused) :
    { s with work := s.work.schedule, handler := some .returning }.Inv := by
  have hrun : s.work.running = true := by rw [h.running, hh]; rfl
  exact
    { running := by
        show s.work.schedule.running = true
        rw [DelayableWork.schedule_running, hrun]
      inactive := h.inactive
      chosen := h.chosen
      pending := by
        intro hp
        cases hc : s.work.canceling with
        | true =>
          have hp' : s.work.schedule.Pending := hp
          rw [DelayableWork.schedule_of_canceling hc] at hp'
          exact h.pending hp'
        | false => exact h.live hrun hc
      live := fun _ hc => h.live hrun (by rw [← DelayableWork.schedule_canceling]; exact hc)
      late := fun hs => by
        have hlate := h.late hs
        rw [hh] at hlate
        exact hlate
      committed := h.committed
      icon := h.icon }

theorem Inv.finish (h : s.Inv) {work : DelayableWork} (hw : s.work.finish = some work) :
    { s with work := work, handler := none }.Inv := by
  obtain ⟨_, hr, _, hp⟩ := DelayableWork.finish_cases hw
  exact
    { running := hr
      inactive := h.inactive
      chosen := h.chosen
      pending := fun hp' => h.pending (hp.mp hp')
      live := fun hrun _ => absurd (hr.symm.trans hrun) (by decide)
      late := fun hs => by
        have hlate := h.late hs
        show lateRequests s.log + 0 ≤ 1
        omega
      committed := h.committed
      icon := h.icon }

theorem Inv.handlerStep (h : s.Inv) {bIsMute bRequested : Bool}
    (hst : s.handlerStep bIsMute bRequested = some s') : s'.Inv := by
  unfold SelectionScreen.handlerStep at hst
  cases hh : s.handler with
  | none =>
    rw [hh] at hst
    exact absurd hst (by simp)
  | some pc =>
    rw [hh] at hst
    cases pc with
    | called =>
      dsimp only at hst
      split at hst
      · obtain rfl := Option.some.inj hst
        exact h.advance hh (by decide)
      · obtain rfl := Option.some.inj hst
        exact h.advance hh (Nat.le_refl 1)
    | reading eSrcId =>
      obtain rfl := Option.some.inj hst
      exact h.advance hh (Nat.le_refl 1)
    | requesting eScrId =>
      obtain rfl := Option.some.inj hst
      exact h.submit hh bRequested
    | refused =>
      obtain rfl := Option.some.inj hst
      exact h.retry hh
    | returning =>
      obtain ⟨work, hw, rfl⟩ := Option.map_eq_some_iff.mp hst
      exact h.finish hw

/-- What a callback needs, and what it leaves. -/
theorem guard_cases {p : Prop} [Decidable p] {t : SelectionScreen}
    (h : (if p then some t else none) = some s') : p ∧ t = s' := by
  split at h
  · next hp => exact ⟨hp, Option.some.inj h⟩
  · exact absurd h (by simp)

/-- **Every step keeps the invariant.** -/
theorem Inv.step {a : Act} (h : s.Inv) (hst : s.step a = some s') : s'.Inv := by
  cases a with
  | create bRootExists bObjectsMade =>
    obtain ⟨hc, rfl⟩ := guard_cases hst
    exact h.create hc.1 hc.2 bRootExists bObjectsMade
  | enter bRootValid selected =>
    obtain ⟨hc, rfl⟩ := guard_cases hst
    exact h.enter hc.1 bRootValid selected
  | rotate iDetents uiNow_ms uiLater_ms =>
    obtain ⟨hc, rfl⟩ := guard_cases hst
    exact h.rotate hc.1 hc.2 iDetents uiNow_ms uiLater_ms
  | press iResult =>
    obtain ⟨hc, rfl⟩ := guard_cases hst
    exact h.press hc.2 iResult
  | release =>
    obtain ⟨_, rfl⟩ := guard_cases hst
    exact h
  | exit =>
    obtain ⟨hc, rfl⟩ := guard_cases hst
    exact h.exit hc.1
  | ui bRequested => exact h.uiStep hst
  | expire =>
    obtain ⟨work, hw, rfl⟩ := Option.map_eq_some_iff.mp hst
    exact h.expire hw
  | call =>
    obtain ⟨work, hw, rfl⟩ := Option.map_eq_some_iff.mp hst
    exact h.call hw
  | handler bIsMute bRequested => exact h.handlerStep hst

theorem inv_of_reachable (h : selectionSystem.Reachable s) : s.Inv := by
  refine TransSys.Reachable.invariant ?_ ?_ h
  · intro s hs
    rw [show s = .init from hs]
    exact .init
  · intro s a s' hi hst
    exact hi.step hst

end SelectionScreen

/-! ## §6. What follows a choice. -/

open SelectionScreen

variable {s s' : SelectionScreen}

/-- **The work follows the choice**: in every state that the two threads reach, the
committed item and the icon are those the log says, the item waits only for a choice that
stands, a handler runs for one unless it is cancelled, and after a revocation at most one
request is late. -/
theorem selection_work_follows_choice (h : selectionSystem.Reachable s) :
    s.context.eCommittedSourceItem = committedOf s.log ∧
      s.context.icon = iconOf (committedOf s.log) ∧
      (s.work.Pending → s.active = true ∧ standing s.log = true) ∧
      (s.work.running = true → s.work.canceling = false → standing s.log = true) ∧
      lateRequests s.log ≤ 1 := by
  have hi := inv_of_reachable h
  refine ⟨hi.committed, ?_, ?_, hi.live, ?_⟩
  · rw [hi.icon, hi.committed]
  · intro hp
    have hstanding := hi.pending hp
    refine ⟨?_, hstanding⟩
    by_contra ha
    exact absurd (hstanding.symm.trans (hi.inactive (Bool.eq_false_iff.mpr ha)).2) (by decide)
  · have hlate := hi.late_le
    omega

/-- The third source is chosen; its handler runs, and Back is pressed before its request. -/
def lateRun : List Act :=
  [.create false true, .enter true (some 1), .rotate 1 300 300, .press 0, .ui true, .expire, .call,
    .handler false true, .rotate (-1) 600 600, .rotate (-1) 900 900, .rotate (-1) 1200 1200, .press 0,
    .ui true, .handler false true, .handler false true]

/-- Back is pressed while the handler runs, and the request of its screen is late. -/
theorem selection_work_follows_choice_late :
    ∃ s, lateRun.foldlM SelectionScreen.step .init = some s ∧ lateRequests s.log = 1 ∧
      s.context.icon = some .src3 ∧ lateRequests s.log ≤ 1 := by
  refine ⟨_, rfl, rfl, rfl, ?_⟩
  have h := selection_work_follows_choice (TransSys.Reachable.foldlM (M := selectionSystem)
    (fun _ _ _ hs => hs) (.init rfl) lateRun rfl)
  exact h.2.2.2.2

/-! ## §7. No choice is lost. -/

namespace SelectionScreen

/-- The timer of an item does not run out while its cancelled handler still runs: no handler
takes the 500 ms of `SCREEN_DISPLAY_WORKE_SCHEDULE_TIME_ms`. -/
def Prompt (s : SelectionScreen) (a : Act) : Prop := a = .expire → s.work.canceling = false

instance (s : SelectionScreen) (a : Act) : Decidable (Prompt s a) :=
  inferInstanceAs (Decidable (_ → _))

/-- The choice is with the UI thread, with the item, or with the handler. -/
def InPlace (s : SelectionScreen) : Prop :=
  s.ui = .committed ∨ s.work.Pending ∨
    (s.work.canceling = false ∧ ∃ pc, s.handler = some pc ∧ pc ≠ .returning)

structure Kept (s : SelectionScreen) : Prop where
  inv : s.Inv
  place : outstanding s.log = true → s.InPlace

/-- The UI thread was not at a choice, and leaves the item and the handler alone. -/
theorem InPlace.frame (h : s.InPlace) (hui : s.ui ≠ .committed) (hwork : s'.work = s.work)
    (hhandler : s'.handler = s.handler) : s'.InPlace := by
  rcases h with h | h | h
  · exact absurd h hui
  · exact Or.inr (Or.inl (by rw [hwork]; exact h))
  · exact Or.inr (Or.inr (by rw [hwork, hhandler]; exact h))

theorem schedule_keeps {w : DelayableWork} (h : w.Pending) : w.schedule.Pending := by
  cases hc : w.canceling with
  | true =>
    rw [DelayableWork.schedule_of_canceling hc]
    exact h
  | false => exact DelayableWork.schedule_pending hc

theorem InPlace.ui {bRequested : Bool} (h : s.Kept) (hst : s.uiStep bRequested = some s')
    (ho : outstanding s'.log = true) : s'.InPlace := by
  unfold SelectionScreen.uiStep at hst
  cases hui : s.ui with
  | outside =>
    rw [hui] at hst
    exact absurd hst (by simp)
  | committed =>
    rw [hui] at hst
    obtain rfl := Option.some.inj hst
    exact Or.inr (Or.inl DelayableWork.reschedule_pending)
  | cancelling eScreenId =>
    rw [hui] at hst
    obtain rfl := Option.some.inj hst
    exact absurd ho Bool.false_ne_true
  | requesting eScreenId =>
    rw [hui] at hst
    obtain rfl := Option.some.inj hst
    exact (h.place ho).frame (by rw [hui]; simp) rfl rfl

/-- The handler goes on, or hands the choice back to the item. -/
theorem InPlace.handler {bIsMute bRequested : Bool} (h : s.Kept)
    (hst : s.handlerStep bIsMute bRequested = some s') (ho : outstanding s'.log = true) :
    s'.InPlace := by
  unfold SelectionScreen.handlerStep at hst
  cases hh : s.handler with
  | none =>
    rw [hh] at hst
    exact absurd hst (by simp)
  | some pc =>
    rw [hh] at hst
    cases pc with
    | called =>
      dsimp only at hst
      split at hst
      · next hitem =>
        obtain rfl := Option.some.inj hst
        obtain ⟨eSrcId, hsrc⟩ := isSource_of_standing (standing_of_outstanding ho)
        rw [h.inv.committed, hsrc] at hitem
        exact absurd hitem (by simp)
      · obtain rfl := Option.some.inj hst
        rcases h.place ho with hp | hp | hp
        · exact Or.inl hp
        · exact Or.inr (Or.inl hp)
        · exact Or.inr (Or.inr ⟨hp.1, _, rfl, by simp⟩)
    | reading eSrcId =>
      obtain rfl := Option.some.inj hst
      rcases h.place ho with hp | hp | hp
      · exact Or.inl hp
      · exact Or.inr (Or.inl hp)
      · exact Or.inr (Or.inr ⟨hp.1, _, rfl, by simp⟩)
    | requesting eScrId =>
      obtain rfl := Option.some.inj hst
      cases bRequested with
      | true =>
        cases hc : s.work.canceling with
        | false =>
          rw [hc] at ho
          exact absurd ho Bool.false_ne_true
        | true =>
          -- the request is late, so the choice is not with this handler
          rw [hc] at ho
          rcases h.place ho with hp | hp | hp
          · exact Or.inl hp
          · exact Or.inr (Or.inl hp)
          · exact absurd (hc.symm.trans hp.1) (by decide)
      | false =>
        rcases h.place ho with hp | hp | hp
        · exact Or.inl hp
        · exact Or.inr (Or.inl hp)
        · exact Or.inr (Or.inr ⟨hp.1, .refused, rfl, by simp⟩)
    | refused =>
      obtain rfl := Option.some.inj hst
      rcases h.place ho with hp | hp | hp
      · exact Or.inl hp
      · exact Or.inr (Or.inl (schedule_keeps hp))
      · exact Or.inr (Or.inl (DelayableWork.schedule_pending hp.1))
    | returning =>
      obtain ⟨work, hw, rfl⟩ := Option.map_eq_some_iff.mp hst
      obtain ⟨_, _, _, hiff⟩ := DelayableWork.finish_cases hw
      rcases h.place ho with hp | hp | ⟨_, pc, hpc, hne⟩
      · exact Or.inl hp
      · exact Or.inr (Or.inl (hiff.mpr hp))
      · rw [hh] at hpc
        exact absurd (Option.some.inj hpc).symm hne

theorem Kept.step {a : Act} (h : s.Kept) (hok : Prompt s a) (hst : s.step a = some s') :
    s'.Kept := by
  refine ⟨h.inv.step hst, ?_⟩
  -- a choice is outstanding after the step: it was before, or the step has made it
  intro ho
  cases a with
  | create bRootExists bObjectsMade =>
    obtain ⟨_, rfl⟩ := guard_cases hst
    cases bRootExists with
    | true => exact h.place ho
    | false => exact absurd ho Bool.false_ne_true
  | enter bRootValid selected =>
    obtain ⟨hc, rfl⟩ := guard_cases hst
    have hout : s.ui ≠ .committed := by rw [hc.1]; decide
    cases bRootValid with
    | true => exact InPlace.frame (h.place ho) hout rfl rfl
    | false => exact InPlace.frame (h.place ho) hout rfl rfl
  | rotate iDetents uiNow_ms uiLater_ms =>
    obtain ⟨_, rfl⟩ := guard_cases hst
    exact h.place ho
  | press iResult =>
    obtain ⟨hc, rfl⟩ := guard_cases hst
    have hout : s.ui ≠ .committed := by rw [hc.1]; decide
    rcases press_cases s iResult with heq | ⟨eSrcId, _, heq⟩ | ⟨eScreenId, heq⟩
    · rw [heq] at ho ⊢
      -- a press on another source is a new choice, committed by the UI thread
      exact h.place ho
    · rw [heq]
      exact Or.inl rfl
    · rw [heq] at ho ⊢
      exact InPlace.frame (h.place ho) hout rfl rfl
  | release =>
    obtain ⟨_, rfl⟩ := guard_cases hst
    exact h.place ho
  | exit =>
    obtain ⟨_, rfl⟩ := guard_cases hst
    exact absurd ho Bool.false_ne_true
  | ui bRequested => exact InPlace.ui h hst ho
  | expire =>
    obtain ⟨work, hw, rfl⟩ := Option.map_eq_some_iff.mp hst
    -- `Prompt`: the expiry is not refused, so the item is queued
    exact Or.inr (Or.inl ((DelayableWork.expire_cases hw).2.2.2 (hok rfl)))
  | call =>
    obtain ⟨work, hw, rfl⟩ := Option.map_eq_some_iff.mp hst
    obtain ⟨_, _, _, _, hc, _⟩ := DelayableWork.start_cases hw
    exact Or.inr (Or.inr ⟨hc, .called, rfl, by simp⟩)
  | handler bIsMute bRequested => exact InPlace.handler h hst ho

end SelectionScreen

/-- **No choice is lost**: where no timer runs out under a cancelled handler, a choice that
stands and has led to no accepted request of its own is with the UI thread, the item or the
handler. -/
theorem choice_not_lost (h : selectionSystem.ReachableVia Prompt s)
    (ho : outstanding s.log = true) : s.InPlace := by
  have hk : s.Kept := by
    refine TransSys.ReachableVia.invariant ?_ ?_ h
    · intro s hs
      rw [show s = .init from hs]
      exact ⟨.init, fun ho => absurd ho Bool.false_ne_true⟩
    · intro s a s' hi hok hst
      exact hi.step hok hst
  exact hk.place ho

/-- The second source is confirmed, and the request of its handler is refused. -/
def refusedRun : List Act :=
  [.create false true, .enter true (some 1), .press 0, .ui true, .expire, .call, .handler false true,
    .handler false true, .handler false false]

theorem choice_not_lost_refused :
    ∃ s, refusedRun.foldlM (TransSys.guarded Prompt SelectionScreen.step) .init = some s ∧
      s.handler = some .refused ∧ s.InPlace := by
  refine ⟨_, rfl, rfl, ?_⟩
  have h : selectionSystem.ReachableVia Prompt _ := TransSys.ReachableVia.foldlM
    (fun _ _ _ hs => TransSys.guarded_some hs) (.init rfl) refusedRun rfl
  exact choice_not_lost h rfl

end WallController.Lvgl.Selection
