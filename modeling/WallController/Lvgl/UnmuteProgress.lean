/-
  WallController.Lvgl.UnmuteProgress
  ────────────────────────────────
  **A PRESS ON THE MUTE SCREEN IS ANSWERED.**

  When the store and the screen manager do their part, and the screen is not
  left, a press under way comes to an accepted request: `rank` falls with every
  step that changes anything.  This needs a source that is shown.  A screen
  whose `vEnter_AudioSrcMuteScreen` returned early shows none, and its handler
  then schedules itself for ever.
-/
import WallController.Lvgl.UnmuteInvariant

namespace WallController.Lvgl.Mute

open WallController.Lib

namespace MuteScreen

/-! ## §1. What is left to be done. -/

/-- The callback that the UI thread is in. -/
def uiRank : UiPc → Nat
  | .pressed | .refused => 100
  | .scheduling | .retrying => 80
  | .outside => 50
  | .completed => 40
  | .accepted | .lowering | .exiting | .waiting | .clearing | .forgetting => 0

/-- The handler; one that has failed starts the timer again. -/
def handlerRank : Option HandlerPc → Nat
  | some .failed => 20
  | some .called => 8
  | some .updating => 7
  | some .updated => 6
  | some .returning => 1
  | none => 0

/-- The item, by where it waits. -/
def workRank (w : DelayableWork) : Nat := 12 * w.scheduled.toNat + 10 * w.queued.toNat

def rank (s : MuteScreen) : Nat := uiRank s.ui + workRank s.work + handlerRank s.handler

/-- The store and the screen manager do what they are asked, the screen is not left, and
the step is not an idle one. -/
def Goes (s : MuteScreen) (a : Act) : Prop :=
  a ≠ .exit ∧ a ≠ .ui false ∧ a ≠ .handler false ∧ s.step a ≠ some s

/-- The request is accepted, after an update that has succeeded since the press. -/
def Answered (s : MuteScreen) : Prop := s.ui = .accepted ∧ Mute.unmuted s.log = true

/-- A press is under way. -/
structure UnderWay (s : MuteScreen) : Prop where
  inv : s.Inv
  active : s.active = true
  progress : s.bIsUnmuteInProgress = true

variable {s s' : MuteScreen}

/-- The places of the UI thread while a press is under way and not answered. -/
theorem UnderWay.ui_cases (h : s.UnderWay) (hans : ¬ s.Answered) :
    (s.ui = .outside ∧ s.Token) ∨ (s.ui = .completed ∧ s.Result) ∨ s.ui = .pressed ∨
      s.ui = .scheduling ∨ s.ui = .refused ∨ s.ui = .retrying := by
  have hplace := h.inv.place
  have hp := h.progress
  cases hui : s.ui with
  | outside =>
    have htoken := (place_outside hui h.active).mp hplace
    rw [if_pos hp] at htoken
    exact Or.inl ⟨rfl, htoken⟩
  | pressed => simp
  | scheduling => simp
  | refused => simp
  | retrying => simp
  | completed =>
    unfold Place at hplace
    rw [hui] at hplace
    exact Or.inr (Or.inl ⟨rfl, hplace.2⟩)
  | accepted =>
    unfold Place at hplace
    rw [hui] at hplace
    exact absurd ⟨hui, hplace.2.unmuted⟩ hans
  | lowering | exiting | waiting | clearing | forgetting =>
    unfold Place at hplace
    rw [hui] at hplace
    first
      | exact absurd (hplace.1.symm.trans hp) (by decide)
      | exact absurd (hplace.symm.trans hp) (by decide)

/-- What a callback needs, and what it leaves. -/
theorem guard_of {p : Prop} [Decidable p] {s s' : MuteScreen}
    (h : (if p then some s else none) = some s') : p ∧ s = s' := by
  split at h
  · next hp => exact ⟨hp, Option.some.inj h⟩
  · exact absurd h (by simp)

/-- A press during the operation is ignored. -/
theorem press_ignored (hp : s.bIsUnmuteInProgress = true) : s.vHandle_EncoderInput = s := by
  unfold vHandle_EncoderInput
  rw [if_pos hp]

/-! ## §2. Every step leads on. -/

/-- The timer is started at most once. -/
theorem schedule_rank (w : DelayableWork) : workRank w.schedule ≤ workRank w + 12 := by
  unfold DelayableWork.schedule
  split
  · omega
  · show 12 * true.toNat + 10 * w.queued.toNat ≤ 12 * w.scheduled.toNat + 10 * w.queued.toNat + 12
    have htrue : true.toNat = 1 := rfl
    omega

theorem expire_rank {w w' : DelayableWork} (hs : w.Single) (h : w.expire = some w') :
    workRank w' < workRank w := by
  have hsched := (DelayableWork.expire_cases h).1
  have hsingle := DelayableWork.expire_single h
  have hq : w.queued.toNat = 0 := by rw [hs hsched]; rfl
  have hs1 : w.scheduled.toNat = 1 := by rw [hsched]; rfl
  have hs0 : w'.scheduled.toNat = 0 := by
    unfold DelayableWork.expire at h
    rw [if_pos hsched] at h
    obtain rfl := Option.some.inj h
    rfl
  have hq1 := Bool.toNat_le w'.queued
  unfold workRank
  omega

theorem start_rank {w w' : DelayableWork} (h : w.start = some w') :
    workRank w' + 10 = workRank w := by
  obtain ⟨_, _, _, _, _, hq, hs⟩ := DelayableWork.start_cases h
  have hq1 : w.queued.toNat = 1 := by
    unfold DelayableWork.start at h
    split at h
    · next hc => rw [hc.1]; rfl
    · exact absurd h (by simp)
  have hq0 : w'.queued.toNat = 0 := by rw [hq]; rfl
  unfold workRank
  rw [hs]
  omega

theorem finish_rank {w w' : DelayableWork} (h : w.finish = some w') : workRank w' = workRank w := by
  unfold DelayableWork.finish at h
  split at h
  · obtain rfl := Option.some.inj h
    rfl
  · exact absurd h (by simp)

theorem rank_at {ui : UiPc} (hui : s.ui = ui) :
    s.rank = uiRank ui + workRank s.work + handlerRank s.handler := by
  rw [← hui]
  rfl

theorem rank_in {handler : Option HandlerPc} (hh : s.handler = handler) :
    s.rank = uiRank s.ui + workRank s.work + handlerRank handler := by
  rw [← hh]
  rfl

/-- A step of a callback. -/
theorem ui_leads (h : s.UnderWay) (hans : ¬ s.Answered) (hst : s.uiStep true = some s') :
    s'.Answered ∨ s'.rank < s.rank := by
  have hsched := schedule_rank s.work
  unfold uiStep at hst
  rcases h.ui_cases hans with ⟨hui, _⟩ | ⟨hui, hres⟩ | hui | hui | hui | hui
  · rw [hui] at hst
    exact absurd hst (by simp)
  · rw [hui] at hst
    obtain rfl := Option.some.inj hst
    exact Or.inl ⟨rfl, hres.unmuted⟩
  · rw [hui] at hst
    obtain rfl := Option.some.inj hst
    refine Or.inr ?_
    rw [rank_at hui]
    show 80 + workRank s.work + handlerRank s.handler < 100 + workRank s.work + handlerRank s.handler
    omega
  · rw [hui] at hst
    obtain rfl := Option.some.inj hst
    refine Or.inr ?_
    rw [rank_at hui]
    show 50 + workRank s.work.schedule + handlerRank s.handler
      < 80 + workRank s.work + handlerRank s.handler
    omega
  · rw [hui] at hst
    obtain rfl := Option.some.inj hst
    refine Or.inr ?_
    rw [rank_at hui]
    show 80 + workRank s.work + handlerRank s.handler < 100 + workRank s.work + handlerRank s.handler
    omega
  · rw [hui] at hst
    obtain rfl := Option.some.inj hst
    refine Or.inr ?_
    rw [rank_at hui]
    show 50 + workRank s.work.schedule + handlerRank s.handler
      < 80 + workRank s.work + handlerRank s.handler
    omega

/-- A step of the handler, with a source to unmute. -/
theorem handler_leads (hp : s.bIsUnmuteInProgress = true) (hsrc : s.eSourceId.isSome = true)
    (hst : s.handlerStep true = some s') : s'.rank < s.rank := by
  unfold handlerStep at hst
  cases hh : s.handler with
  | none => rw [hh] at hst; exact absurd hst (by simp)
  | some pc =>
    rw [hh] at hst
    rw [rank_in hh]
    cases pc with
    | called =>
      rw [hp] at hst
      obtain rfl := Option.some.inj hst
      show uiRank s.ui + workRank s.work + 7 < uiRank s.ui + workRank s.work + 8
      omega
    | updating =>
      rw [hsrc] at hst
      obtain rfl := Option.some.inj hst
      show uiRank s.ui + workRank s.work + 6 < uiRank s.ui + workRank s.work + 7
      omega
    | failed =>
      obtain rfl := Option.some.inj hst
      have hsched := schedule_rank s.work
      show uiRank s.ui + workRank s.work.schedule + 1 < uiRank s.ui + workRank s.work + 20
      omega
    | updated =>
      obtain rfl := Option.some.inj hst
      show uiRank s.ui + workRank s.work + 1 < uiRank s.ui + workRank s.work + 6
      omega
    | returning =>
      obtain ⟨work, hwork, rfl⟩ := Option.map_eq_some_iff.mp hst
      have hsame := finish_rank hwork
      show uiRank s.ui + workRank work + 0 < uiRank s.ui + workRank s.work + 1
      omega

/-- Without an exit, a press under way stays so until it is answered. -/
theorem UnderWay.step {a : Act} (h : s.UnderWay) (hans : ¬ s.Answered) (hexit : a ≠ .exit)
    (hst : s.step a = some s') : s'.UnderWay ∧ s'.eSourceId = s.eSourceId := by
  have hinv := h.inv.step hst
  have hact := h.active
  have hp := h.progress
  cases a with
  | create bRootExists =>
    -- an active screen is neither created nor entered
    have hc := (guard_of hst).1.2
    exact absurd (hact.symm.trans hc) (by decide)
  | enter env =>
    have hc := (guard_of hst).1.2
    exact absurd (hact.symm.trans hc) (by decide)
  | press =>
    obtain ⟨_, rfl⟩ := guard_of hst
    -- a second press is ignored while the first one is under way
    rw [press_ignored hp] at hinv ⊢
    exact ⟨h, rfl⟩
  | run =>
    obtain ⟨_, rfl⟩ := guard_of hst
    unfold vRun_AudioSrcMuteScreen at hinv ⊢
    split at hinv
    · next hcompleted =>
      rw [if_pos hcompleted]
      exact ⟨⟨hinv, hact, hp⟩, rfl⟩
    · next hcompleted =>
      rw [if_neg hcompleted]
      exact ⟨h, rfl⟩
  | exit => exact absurd rfl hexit
  | ui bRequested =>
    have hst' : s.uiStep bRequested = some s' := hst
    unfold uiStep at hst'
    -- where the UI thread can be before the press is answered
    rcases h.ui_cases hans with ⟨hui, _⟩ | ⟨hui, _⟩ | hui | hui | hui | hui
    · rw [hui] at hst'
      exact absurd hst' (by simp)
    · rw [hui] at hst'
      obtain rfl := Option.some.inj hst'
      cases bRequested with
      | false => exact ⟨⟨hinv, hact, hp⟩, rfl⟩
      | true => exact ⟨⟨hinv, hact, hp⟩, rfl⟩
    · rw [hui] at hst'
      obtain rfl := Option.some.inj hst'
      exact ⟨⟨hinv, hact, hp⟩, rfl⟩
    · rw [hui] at hst'
      obtain rfl := Option.some.inj hst'
      exact ⟨⟨hinv, hact, hp⟩, rfl⟩
    · rw [hui] at hst'
      obtain rfl := Option.some.inj hst'
      exact ⟨⟨hinv, hact, hp⟩, rfl⟩
    · rw [hui] at hst'
      obtain rfl := Option.some.inj hst'
      exact ⟨⟨hinv, hact, hp⟩, rfl⟩
  | expire =>
    obtain ⟨work, _, rfl⟩ := Option.map_eq_some_iff.mp hst
    exact ⟨⟨hinv, hact, hp⟩, rfl⟩
  | call =>
    obtain ⟨work, _, rfl⟩ := Option.map_eq_some_iff.mp hst
    exact ⟨⟨hinv, hact, hp⟩, rfl⟩
  | handler bUpdated =>
    have hst' : s.handlerStep bUpdated = some s' := hst
    unfold handlerStep at hst'
    cases hh : s.handler with
    | none => rw [hh] at hst'; exact absurd hst' (by simp)
    | some pc =>
      rw [hh] at hst'
      cases pc with
      | called | updating | failed | updated =>
        obtain rfl := Option.some.inj hst'
        exact ⟨⟨hinv, hact, hp⟩, rfl⟩
      | returning =>
        obtain ⟨work, _, rfl⟩ := Option.map_eq_some_iff.mp hst'
        exact ⟨⟨hinv, hact, hp⟩, rfl⟩

/-- **Every step leads on**: to the answer, or to a state of lower rank. -/
theorem leads_on {a : Act} (h : s.UnderWay) (hsrc : s.eSourceId.isSome = true)
    (hans : ¬ s.Answered) (hok : s.Goes a) (hst : s.step a = some s') :
    s'.Answered ∨ s'.rank < s.rank := by
  have hact := h.active
  have hp := h.progress
  obtain ⟨hexit, hui, hhandler, hmoves⟩ := hok
  cases a with
  | create bRootExists =>
    have hc := (guard_of hst).1.2
    exact absurd (hact.symm.trans hc) (by decide)
  | enter env =>
    have hc := (guard_of hst).1.2
    exact absurd (hact.symm.trans hc) (by decide)
  | press =>
    -- a second press changes nothing
    obtain ⟨_, rfl⟩ := guard_of hst
    rw [press_ignored hp] at hst
    exact absurd hst hmoves
  | run =>
    obtain ⟨hc, rfl⟩ := guard_of hst
    unfold vRun_AudioSrcMuteScreen at hst ⊢
    split at hst
    · next hcompleted =>
      rw [if_pos hcompleted]
      refine Or.inr ?_
      rw [rank_at hc.1]
      show 40 + workRank s.work + handlerRank s.handler < 50 + workRank s.work + handlerRank s.handler
      omega
    · exact absurd hst hmoves
  | exit => exact absurd rfl hexit
  | ui bRequested =>
    cases bRequested with
    | false => exact absurd rfl hui
    | true => exact ui_leads h hans hst
  | expire =>
    obtain ⟨work, hwork, rfl⟩ := Option.map_eq_some_iff.mp hst
    have hlt := expire_rank h.inv.single hwork
    refine Or.inr ?_
    show uiRank s.ui + workRank work + handlerRank s.handler
      < uiRank s.ui + workRank s.work + handlerRank s.handler
    omega
  | call =>
    obtain ⟨work, hwork, rfl⟩ := Option.map_eq_some_iff.mp hst
    have heq := start_rank hwork
    refine Or.inr ?_
    show uiRank s.ui + workRank work + 8 < uiRank s.ui + workRank s.work + handlerRank s.handler
    omega
  | handler bUpdated =>
    cases bUpdated with
    | false => exact absurd rfl hhandler
    | true => exact Or.inr (handler_leads hp hsrc hst)

/-! ## §3. There is a step. -/

theorem goes_of {a : Act} (hexit : a ≠ .exit) (hui : a ≠ .ui false) (hhandler : a ≠ .handler false)
    (hst : s.step a = some s') (hne : s' ≠ s) : ∃ a s', s.Goes a ∧ s.step a = some s' :=
  ⟨a, s', ⟨hexit, hui, hhandler, fun hsame => hne (Option.some.inj (hst.symm.trans hsame))⟩, hst⟩

/-- The UI thread can go on with its callback. -/
theorem ui_goes {pc pc' : UiPc} (hui : s.ui = pc) (hst : s.uiStep true = some s')
    (hui' : s'.ui = pc') (hne : pc' ≠ pc) : ∃ a s', s.Goes a ∧ s.step a = some s' :=
  goes_of (a := .ui true) (by simp) (by simp) (by simp) hst
    fun heq => hne (by rw [← hui', ← hui, heq])

/-- The handler can go on. -/
theorem handler_goes (h : s.Inv) {pc : HandlerPc} (hh : s.handler = some pc) :
    ∃ a s', s.Goes a ∧ s.step a = some s' := by
  have hrun : s.work.running = true := by rw [h.running, hh]; rfl
  obtain ⟨s', hst, hne⟩ : ∃ s', s.handlerStep true = some s' ∧ s'.handler ≠ s.handler := by
    unfold handlerStep
    rw [hh]
    cases pc with
    | called =>
      refine ⟨_, rfl, ?_⟩
      show some (if s.bIsUnmuteInProgress then HandlerPc.updating else .returning) ≠ some .called
      split <;> simp
    | updating =>
      refine ⟨_, rfl, ?_⟩
      show some (if s.eSourceId.isSome && true then HandlerPc.updated else .failed) ≠ some .updating
      split <;> simp
    | failed => exact ⟨_, rfl, by simp⟩
    | updated => exact ⟨_, rfl, by simp⟩
    | returning =>
      have hfinish : s.work.finish.isSome = true := by
        unfold DelayableWork.finish
        rw [if_pos hrun]
        rfl
      obtain ⟨work, hwork⟩ := Option.isSome_iff_exists.mp hfinish
      exact ⟨{ s with work := work, handler := none }, by rw [hwork]; rfl, by simp⟩
  exact goes_of (a := .handler true) (by simp) (by simp) (by simp) hst fun heq => hne (by rw [heq])

/-- An item that waits can go on. -/
theorem work_goes (hp : s.work.Pending) (hrun : s.work.running = false) :
    ∃ a s', s.Goes a ∧ s.step a = some s' := by
  by_cases hs : s.work.scheduled = true
  · obtain ⟨work, hwork⟩ : ∃ work, s.work.expire = some work := by
      unfold DelayableWork.expire
      rw [if_pos hs]
      exact ⟨_, rfl⟩
    have hnot : work.scheduled = false := by
      unfold DelayableWork.expire at hwork
      rw [if_pos hs] at hwork
      obtain rfl := Option.some.inj hwork
      rfl
    have hst : s.step .expire = some { s with work := work } := by
      show s.work.expire.map _ = _
      rw [hwork]
      rfl
    refine goes_of (by simp) (by simp) (by simp) hst ?_
    · intro heq
      have hwork' : work = s.work := congrArg MuteScreen.work heq
      rw [hwork'] at hnot
      exact absurd (hnot.symm.trans hs) (by decide)
  · have hq : s.work.queued = true := hp.resolve_left hs
    obtain ⟨work, hwork⟩ : ∃ work, s.work.start = some work := by
      unfold DelayableWork.start
      rw [if_pos ⟨hq, hrun⟩]
      exact ⟨_, rfl⟩
    have hon : work.running = true := (DelayableWork.start_cases hwork).2.2.2.1
    have hst : s.step .call = some { s with work := work, handler := some .called } := by
      show s.work.start.map _ = _
      rw [hwork]
      rfl
    refine goes_of (by simp) (by simp) (by simp) hst ?_
    · intro heq
      have hwork' : work = s.work := congrArg MuteScreen.work heq
      rw [hwork'] at hon
      exact absurd (hrun.symm.trans hon) (by decide)

/-- **While a press is under way and not answered, there is a step.** -/
theorem UnderWay.goes (h : s.UnderWay) (hans : ¬ s.Answered) :
    ∃ a s', s.Goes a ∧ s.step a = some s' := by
  rcases h.ui_cases hans with ⟨hui, htoken⟩ | ⟨hui, _⟩ | hui | hui | hui | hui
  · cases htoken with
    | timer hp hrest _ =>
      rcases hrest with hnone | hret
      · exact work_goes hp (by rw [h.inv.running, hnone]; rfl)
      · exact handler_goes h.inv hret
    | handler pc _ hh _ _ _ => exact handler_goes h.inv hh
    | result hres =>
      have hst : s.step .run = some s.vRun_AudioSrcMuteScreen := if_pos ⟨hui, h.active⟩
      refine goes_of (by simp) (by simp) (by simp) hst ?_
      intro heq
      unfold vRun_AudioSrcMuteScreen at heq
      rw [if_pos hres.completed] at heq
      have hui' : UiPc.completed = s.ui := congrArg MuteScreen.ui heq
      rw [hui] at hui'
      exact absurd hui' (by decide)
  · have hst : s.uiStep true = some { s with ui := .accepted, log := .requested :: s.log } := by
      unfold uiStep
      rw [hui]
      rfl
    exact ui_goes hui hst (show _ = UiPc.accepted from rfl) (by decide)
  · have hst : s.uiStep true = some { s with bWorkCompleted := false, ui := .scheduling } := by
      unfold uiStep
      rw [hui]
    exact ui_goes hui hst (show _ = UiPc.scheduling from rfl) (by decide)
  · have hst : s.uiStep true = some { s with work := s.work.schedule, ui := .outside } := by
      unfold uiStep
      rw [hui]
    exact ui_goes hui hst (show _ = UiPc.outside from rfl) (by decide)
  · have hst : s.uiStep true = some { s with bWorkCompleted := false, ui := .retrying } := by
      unfold uiStep
      rw [hui]
    exact ui_goes hui hst (show _ = UiPc.retrying from rfl) (by decide)
  · have hst : s.uiStep true = some { s with work := s.work.schedule, ui := .outside } := by
      unfold uiStep
      rw [hui]
    exact ui_goes hui hst (show _ = UiPc.outside from rfl) (by decide)

/-! ## §4. A screen that shows no source. -/

/-- Only an update of a source succeeds. -/
def Sourced (s : MuteScreen) : Prop :=
  Mute.unmuted s.log = true → s.eSourceId.isSome = true

theorem Sourced.step {a : Act} (h : s.Sourced) (hst : s.step a = some s') : s'.Sourced := by
  cases a with
  | create bRootExists =>
    obtain ⟨_, rfl⟩ := guard_of hst
    unfold bCreate_AudioSrcMuteScreen
    split
    · exact h
    · exact h
  | enter env =>
    obtain ⟨_, rfl⟩ := guard_of hst
    rcases enter_cases s env with heq | ⟨e, heq⟩
    · rw [heq]
      exact h
    · rw [heq]
      exact fun _ => rfl
  | press =>
    obtain ⟨_, rfl⟩ := guard_of hst
    unfold vHandle_EncoderInput
    split
    · exact h
    · intro hu
      -- a press clears the mark of an earlier update
      exact absurd hu (by show ¬ false = true; decide)
  | run =>
    obtain ⟨_, rfl⟩ := guard_of hst
    unfold vRun_AudioSrcMuteScreen
    split
    · exact h
    · exact h
  | exit =>
    obtain ⟨_, rfl⟩ := guard_of hst
    exact h
  | ui bRequested =>
    have hst' : s.uiStep bRequested = some s' := hst
    unfold uiStep at hst'
    cases hui : s.ui with
    | outside => rw [hui] at hst'; exact absurd hst' (by simp)
    | waiting =>
      rw [hui] at hst'
      obtain ⟨_, rfl⟩ := guard_of hst'
      exact h
    | completed =>
      rw [hui] at hst'
      obtain rfl := Option.some.inj hst'
      cases bRequested with
      | false => exact h
      | true => exact h
    | forgetting =>
      rw [hui] at hst'
      obtain rfl := Option.some.inj hst'
      intro hu
      exact absurd hu (by show ¬ false = true; decide)
    | pressed | scheduling | refused | retrying | accepted | lowering | exiting | clearing =>
      rw [hui] at hst'
      obtain rfl := Option.some.inj hst'
      exact h
  | expire =>
    obtain ⟨work, _, rfl⟩ := Option.map_eq_some_iff.mp hst
    exact h
  | call =>
    obtain ⟨work, _, rfl⟩ := Option.map_eq_some_iff.mp hst
    exact h
  | handler bUpdated =>
    have hst' : s.handlerStep bUpdated = some s' := hst
    unfold handlerStep at hst'
    cases hh : s.handler with
    | none => rw [hh] at hst'; exact absurd hst' (by simp)
    | some pc =>
      rw [hh] at hst'
      cases pc with
      | called | failed | updated =>
        obtain rfl := Option.some.inj hst'
        exact h
      | updating =>
        obtain rfl := Option.some.inj hst'
        intro hu
        by_contra hsrc
        -- the update of no source fails
        have hlog : Mute.unmuted (.updated s.eSourceId (s.eSourceId.isSome && bUpdated) :: s.log)
          = true := hu
        rw [Bool.eq_false_iff.mpr hsrc] at hlog
        exact hsrc (h hlog)
      | returning =>
        obtain ⟨work, _, rfl⟩ := Option.map_eq_some_iff.mp hst'
        exact h

theorem sourced_of_reachable (h : muteSystem.Reachable s) : s.Sourced := by
  refine TransSys.Reachable.invariant ?_ ?_ h
  · intro s hs
    rw [show s = .init from hs]
    exact fun hu => absurd hu (by decide)
  · intro s a s' hi hst
    exact hi.step hst

end MuteScreen

open MuteScreen

variable {s : MuteScreen}

/-- **A press under way is answered, if the screen shows a source**: when it is not left
and neither the store nor the screen manager fails, every run comes to an accepted request
that follows a successful update.  Without a source no run does. -/
theorem unmute_answered_iff (h : muteSystem.Reachable s) (ha : s.active = true)
    (hp : s.bIsUnmuteInProgress = true) :
    muteSystem.Inevitable Goes Answered s ↔ s.eSourceId.isSome = true := by
  have hway : s.UnderWay := ⟨inv_of_reachable h, ha, hp⟩
  constructor
  · intro hinevitable
    by_contra hsrc
    refine TransSys.Inevitable.not_of_invariant
      (I := fun s => s.UnderWay ∧ s.Sourced ∧ ¬ s.eSourceId.isSome = true) ?_ ?_
      ⟨hway, sourced_of_reachable h, hsrc⟩ hinevitable
    · intro s a s' hi hok hst
      have hans : ¬ s.Answered := fun hans => hi.2.2 (hi.2.1 hans.2)
      obtain ⟨hway', hsame⟩ := hi.1.step hans hok.1 hst
      exact ⟨hway', hi.2.1.step hst, by rw [hsame]; exact hi.2.2⟩
    · intro s hi hans
      exact hi.2.2 (hi.2.1 hans.2)
  · intro hsrc
    refine TransSys.Inevitable.of_measure (I := fun s => s.UnderWay ∧ s.eSourceId.isSome = true)
      rank ?_ ?_ ⟨hway, hsrc⟩
    · intro s a s' hi hans hok hst
      obtain ⟨hway', hsame⟩ := hi.1.step hans hok.1 hst
      rcases leads_on hi.1 hi.2 hans hok hst with hdone | hlt
      · exact Or.inl hdone
      · exact Or.inr ⟨⟨hway', by rw [hsame]; exact hi.2⟩, hlt⟩
    · intro s hi hans
      exact hi.1.goes hans

/-- The press is answered where a source is shown; where the store had no selected source
when the screen was entered, it is not. -/
theorem unmute_answered_iff_pressed :
    ∃ s t, (pressRun (some mutedSource)).foldlM MuteScreen.step .init = some s ∧
      (pressRun none).foldlM MuteScreen.step .init = some t ∧
      muteSystem.Inevitable Goes Answered s ∧ ¬ muteSystem.Inevitable Goes Answered t := by
  refine ⟨_, _, rfl, rfl, ?_, ?_⟩
  · have h := unmute_answered_iff (TransSys.Reachable.foldlM (M := muteSystem)
      (fun _ _ _ hs => hs) (.init rfl) (pressRun (some mutedSource)) rfl)
    exact (h rfl rfl).mpr rfl
  · have h := unmute_answered_iff (TransSys.Reachable.foldlM (M := muteSystem)
      (fun _ _ _ hs => hs) (.init rfl) (pressRun none) rfl)
    exact fun hin => absurd ((h rfl rfl).mp hin) Bool.false_ne_true

end WallController.Lvgl.Mute
