/-
  WallController.Lvgl.UnmuteInvariant
  ────────────────────────────────
  **A PRESS ON THE MUTE SCREEN IS NEITHER LOST NOR DONE TWICE.**

  While `bIsUnmuteInProgress` is raised, the operation is in exactly one place:
  with a callback of the UI thread that has still to schedule it, with the timer,
  with the handler, or in `bWorkCompleted`.  `Token` names the last three, and
  `Place` says for each place of the UI thread where the operation is; every step
  of either thread moves the operation from one to another, or hands it back.

  From this follow, for every interleaving, what the screen does to the store
  and to the screen manager (`Justified`), that nothing of it is left behind
  when the screen is left, and that a press is answered.
-/
import WallController.Lvgl.UnmuteWork

namespace WallController.Lvgl.Mute

open WallController.AudioSrc (AudioSrcId AudioSourceConfig)
open WallController.Lib

/-! ## §1. What the log must say. -/

/-- The source that the screen shows. -/
def shown : List Event → Option AudioSrcId
  | [] => none
  | .entered eSrcId :: _ => some eSrcId
  | .left :: _ => none
  | .pressed :: log => shown log
  | .updated _ _ :: log => shown log
  | .requested :: log => shown log

/-- An update has succeeded since the last press on the screen. -/
def unmuted : List Event → Bool
  | [] => false
  | .updated _ true :: _ => true
  | .updated _ false :: log => unmuted log
  | .entered _ :: log => unmuted log
  | .requested :: log => unmuted log
  | .pressed :: _ => false
  | .left :: _ => false

/-- Every update is one of the source shown, and every request follows an update that
has succeeded since the last press. -/
def Justified : List Event → Prop
  | [] => True
  | .updated eSrcId _ :: log => eSrcId = shown log ∧ Justified log
  | .requested :: log => unmuted log = true ∧ Justified log
  | .entered _ :: log => Justified log
  | .pressed :: log => Justified log
  | .left :: log => Justified log

namespace MuteScreen

/-! ## §2. The places of the operation. -/

/-- The handler does not run, or is about to return. -/
def Resting (s : MuteScreen) : Prop := s.handler = none ∨ s.handler = some .returning

/-- The operation is in no place. -/
structure Quiet (s : MuteScreen) : Prop where
  pending : ¬ s.work.Pending
  resting : s.Resting
  completed : s.bWorkCompleted = false

/-- The operation is in `bWorkCompleted`. -/
structure Result (s : MuteScreen) : Prop where
  pending : ¬ s.work.Pending
  resting : s.Resting
  completed : s.bWorkCompleted = true
  unmuted : Mute.unmuted s.log = true

/-- The operation is in exactly one place. -/
inductive Token (s : MuteScreen) : Prop
  | timer (hp : s.work.Pending) (hr : s.Resting) (hc : s.bWorkCompleted = false)
  | handler (pc : HandlerPc) (hp : ¬ s.work.Pending) (hh : s.handler = some pc)
      (hpc : pc ≠ .returning) (hu : pc = .updated → Mute.unmuted s.log = true)
      (hc : s.bWorkCompleted = false)
  | result (hr : s.Result)

/-- A callback has the operation: it has still to schedule the work item, after a press or a
refused request. -/
def Notifying (s : MuteScreen) : Prop :=
  s.ui = .pressed ∨ s.ui = .scheduling ∨ s.ui = .retrying

/-- The operation is in exactly one of four places. -/
inductive InOnePlace (s : MuteScreen) : Prop
  | notification (hn : s.Notifying) (hq : s.Quiet)
  | token (hn : ¬ s.Notifying) (ht : s.Token)

/-- The screen has been left. -/
structure Left (s : MuteScreen) : Prop where
  progress : s.bIsUnmuteInProgress = false
  idle : s.work.Idle
  completed : s.bWorkCompleted = false
  source : s.eSourceId = none

/-- Where the operation is, by the place of the UI thread. -/
def Place (s : MuteScreen) : Prop :=
  match s.ui with
  | .outside =>
    if s.active = false then s.Left
    else if s.bIsUnmuteInProgress = true then s.Token else s.Quiet
  | .pressed | .scheduling | .retrying => s.bIsUnmuteInProgress = true ∧ s.Quiet
  | .completed | .refused | .accepted => s.bIsUnmuteInProgress = true ∧ s.Result
  | .lowering => s.bIsUnmuteInProgress = false ∧ s.Result
  | .exiting => s.bIsUnmuteInProgress = false
  | .waiting =>
    s.bIsUnmuteInProgress = false ∧ ¬ s.work.Pending ∧
      (s.work.running = true → s.work.canceling = true)
  | .clearing => s.bIsUnmuteInProgress = false ∧ s.work.Idle
  | .forgetting => s.bIsUnmuteInProgress = false ∧ s.work.Idle ∧ s.bWorkCompleted = false

/-- The invariant of the screen. -/
structure Inv (s : MuteScreen) : Prop where
  running : s.work.running = s.handler.isSome
  canceling : s.work.canceling = true → s.ui = .waiting
  single : s.work.Single
  source : s.eSourceId = shown s.log
  justified : Justified s.log
  inactive : s.active = false → s.ui = .outside
  place : s.Place

variable {s s' : MuteScreen}

theorem Inv.init : MuteScreen.init.Inv where
  running := rfl
  canceling h := absurd h (by decide)
  single _ := rfl
  source := rfl
  justified := trivial
  inactive _ := rfl
  place := ⟨rfl, DelayableWork.init_idle, rfl, rfl⟩

/-- A handler that runs is not idle. -/
theorem Inv.no_handler (h : s.Inv) (hi : s.work.Idle) : s.handler = none := by
  have hr := h.running
  rw [hi.2] at hr
  exact Option.not_isSome_iff_eq_none.mp (by rw [← hr]; decide)

theorem Inv.not_canceling (h : s.Inv) (hui : s.ui ≠ .waiting) : s.work.canceling = false := by
  by_contra hc
  exact hui (h.canceling (Bool.of_not_eq_false hc))

theorem Inv.active_of (h : s.Inv) (hui : s.ui ≠ .outside) : s.active = true := by
  by_contra ha
  exact hui (h.inactive (Bool.eq_false_iff.mpr ha))

/-! ## §3. The callbacks. -/

theorem place_outside (hui : s.ui = .outside) (ha : s.active = true) :
    s.Place ↔ if s.bIsUnmuteInProgress = true then s.Token else s.Quiet := by
  unfold Place
  rw [hui]
  show (if s.active = false then _ else _) ↔ _
  rw [if_neg (by rw [ha]; decide)]

theorem place_left (hui : s.ui = .outside) (ha : s.active = false) : s.Place ↔ s.Left := by
  unfold Place
  rw [hui]
  show (if s.active = false then _ else _) ↔ _
  rw [if_pos ha]

theorem place_quiet (hui : s.ui = .outside) (ha : s.active = true)
    (hp : s.bIsUnmuteInProgress = false) (hq : s.Quiet) : s.Place := by
  rw [place_outside hui ha, if_neg (by rw [hp]; decide)]
  exact hq

theorem place_token (hui : s.ui = .outside) (ha : s.active = true)
    (hp : s.bIsUnmuteInProgress = true) (ht : s.Token) : s.Place := by
  rw [place_outside hui ha, if_pos hp]
  exact ht

theorem Inv.left (h : s.Inv) (ha : s.active = false) : s.Left :=
  (place_left (h.inactive ha) ha).mp h.place

/-- At each place of the UI thread, inside the callbacks too. -/
theorem Inv.in_one_place (h : s.Inv) (hp : s.bIsUnmuteInProgress = true) : s.InOnePlace := by
  have hplace := h.place
  unfold Place at hplace
  have hlowered : ∀ {P : Prop}, s.bIsUnmuteInProgress = false → P := fun hl =>
    absurd (hl.symm.trans hp) (by decide)
  cases hui : s.ui with
  | outside =>
    have ha : s.active = true := by
      by_contra ha
      exact hlowered (h.left (Bool.eq_false_iff.mpr ha)).progress
    have ht := (place_outside hui ha).mp h.place
    rw [if_pos hp] at ht
    exact .token (by simp [Notifying, hui]) ht
  | pressed =>
    rw [hui] at hplace
    exact .notification (Or.inl hui) hplace.2
  | scheduling =>
    rw [hui] at hplace
    exact .notification (Or.inr (Or.inl hui)) hplace.2
  | retrying =>
    rw [hui] at hplace
    exact .notification (Or.inr (Or.inr hui)) hplace.2
  | completed | refused | accepted =>
    rw [hui] at hplace
    exact .token (by simp [Notifying, hui]) (.result hplace.2)
  | exiting =>
    rw [hui] at hplace
    exact hlowered hplace
  | lowering | waiting | clearing | forgetting =>
    rw [hui] at hplace
    exact hlowered hplace.1

theorem Inv.create (h : s.Inv) (ha : s.active = false) (bRootExists : Bool) :
    (s.bCreate_AudioSrcMuteScreen bRootExists).Inv := by
  unfold bCreate_AudioSrcMuteScreen
  split
  · exact h
  · -- the flag that `memset` clears is clear
    have hs : { s with bIsUnmuteInProgress := false } = s := by
      rw [← (h.left ha).progress]
    rw [hs]
    exact h

/-- What `vEnter_AudioSrcMuteScreen` stores, if anything. -/
theorem enter_cases (s : MuteScreen) (env : EnterEnv) :
    s.vEnter_AudioSrcMuteScreen env = s ∨
      ∃ e, s.vEnter_AudioSrcMuteScreen env =
        { s with eSourceId := some e, log := .entered e :: s.log } := by
  unfold vEnter_AudioSrcMuteScreen
  split
  · exact Or.inl rfl
  · split
    · exact Or.inl rfl
    · next c _ =>
      split
      · exact Or.inl rfl
      · exact Or.inr ⟨c.eSrcId, rfl⟩

theorem Left.quiet (h : s.Left) (hh : s.handler = none) : s.Quiet :=
  ⟨h.idle.not_pending, Or.inl hh, h.completed⟩

theorem Inv.enter (h : s.Inv) (ha : s.active = false) (env : EnterEnv) :
    ({ s.vEnter_AudioSrcMuteScreen env with active := true } : MuteScreen).Inv := by
  have hl := h.left ha
  have hh := h.no_handler hl.idle
  have hui := h.inactive ha
  have hquiet := hl.quiet hh
  rcases enter_cases s env with heq | ⟨e, heq⟩
  · rw [heq]
    exact ⟨h.running, h.canceling, h.single, h.source, h.justified, fun hc => absurd hc (by simp),
      place_quiet hui rfl hl.progress ⟨hquiet.pending, hquiet.resting, hquiet.completed⟩⟩
  · rw [heq]
    exact ⟨h.running, h.canceling, h.single, rfl, h.justified, fun hc => absurd hc (by simp),
      place_quiet hui rfl hl.progress ⟨hquiet.pending, hquiet.resting, hquiet.completed⟩⟩

theorem Inv.press (h : s.Inv) (hui : s.ui = .outside) (ha : s.active = true) :
    s.vHandle_EncoderInput.Inv := by
  unfold vHandle_EncoderInput
  split
  · exact h
  · next hp =>
    have hplace := (place_outside hui ha).mp h.place
    rw [if_neg hp] at hplace
    have hc := h.not_canceling (by rw [hui]; decide)
    refine ⟨h.running, fun hc' => absurd (hc.symm.trans hc') (by decide), h.single, h.source,
      h.justified, fun ha' => absurd (ha.symm.trans ha') (by decide), ?_⟩
    show true = true ∧ Quiet _
    exact ⟨rfl, hplace.pending, hplace.resting, hplace.completed⟩

theorem Token.result_of (h : s.Token) (hc : s.bWorkCompleted = true) : s.Result := by
  cases h with
  | timer _ _ hc' => exact absurd (hc'.symm.trans hc) (by decide)
  | handler _ _ _ _ _ hc' => exact absurd (hc'.symm.trans hc) (by decide)
  | result hr => exact hr

theorem Inv.run (h : s.Inv) (hui : s.ui = .outside) (ha : s.active = true) :
    s.vRun_AudioSrcMuteScreen.Inv := by
  unfold vRun_AudioSrcMuteScreen
  split
  · next hcompleted =>
    have hplace := (place_outside hui ha).mp h.place
    have hc := h.not_canceling (by rw [hui]; decide)
    refine ⟨h.running, fun hc' => absurd (hc.symm.trans hc') (by decide), h.single, h.source,
      h.justified, fun ha' => absurd (ha.symm.trans ha') (by decide), ?_⟩
    show s.bIsUnmuteInProgress = true ∧ Result _
    by_cases hp : s.bIsUnmuteInProgress = true
    · rw [if_pos hp] at hplace
      have hr := hplace.result_of hcompleted
      exact ⟨hp, hr.pending, hr.resting, hr.completed, hr.unmuted⟩
    · rw [if_neg hp] at hplace
      exact absurd (hplace.completed.symm.trans hcompleted) (by decide)
  · exact h

theorem Inv.exit (h : s.Inv) (hui : s.ui = .outside) (ha : s.active = true) :
    s.vExit_AudioSrcMuteScreen.Inv := by
  have hc := h.not_canceling (by rw [hui]; decide)
  exact ⟨h.running, fun hc' => absurd (hc.symm.trans hc') (by decide), h.single, h.source,
    h.justified, fun ha' => absurd (ha.symm.trans ha') (by decide), rfl⟩

/-! ## §4. The rest of the callbacks. -/

/-- The steps of a callback that do not touch the work item, with what they leave. -/
theorem Inv.ui_keep (h : s.Inv) (hui : s.ui ≠ .waiting) (hact : s.active = true)
    (hwork : s'.work = s.work) (hhandler : s'.handler = s.handler)
    (hsource : s'.eSourceId = s.eSourceId) (hlog : s'.log = s.log)
    (hactive : s'.active = s.active) (hplace : s'.Place) : s'.Inv where
  running := by rw [hwork, hhandler]; exact h.running
  canceling hc := by
    rw [hwork] at hc
    exact absurd (h.canceling hc) hui
  single := by rw [hwork]; exact h.single
  source := by rw [hsource, hlog]; exact h.source
  justified := by rw [hlog]; exact h.justified
  inactive ha := by
    rw [hactive] at ha
    exact absurd (hact.symm.trans ha) (by decide)
  place := hplace

/-- The operation is handed to the timer. -/
theorem Inv.ui_schedule (h : s.Inv) (hui : s.ui ≠ .waiting) (hact : s.active = true)
    (hp : s.bIsUnmuteInProgress = true) (hq : s.Quiet) :
    ({ s with work := s.work.schedule, ui := .outside } : MuteScreen).Inv where
  running := by
    show s.work.schedule.running = s.handler.isSome
    rw [DelayableWork.schedule_running]
    exact h.running
  canceling hc := by
    have hc' : s.work.schedule.canceling = true := hc
    rw [DelayableWork.schedule_canceling] at hc'
    exact absurd (h.canceling hc') hui
  single := DelayableWork.schedule_single h.single
  source := h.source
  justified := h.justified
  inactive ha := absurd (hact.symm.trans ha) (by decide)
  place := place_token rfl hact hp
    (.timer (DelayableWork.schedule_pending (h.not_canceling hui)) hq.resting hq.completed)

theorem Inv.uiStep {bRequested : Bool} (h : s.Inv) (hst : s.uiStep bRequested = some s') :
    s'.Inv := by
  have hplace := h.place
  unfold MuteScreen.uiStep at hst
  -- `Place` names the one holder of the operation, and each step hands it on
  unfold Place at hplace
  cases hui : s.ui with
  | outside => rw [hui] at hst; exact absurd hst (by simp)
  | pressed =>
    rw [hui] at hst hplace
    obtain rfl := Option.some.inj hst
    exact h.ui_keep (by rw [hui]; decide) (h.active_of (by rw [hui]; decide)) rfl rfl rfl rfl rfl
      ⟨hplace.1, hplace.2.pending, hplace.2.resting, rfl⟩
  | scheduling =>
    rw [hui] at hst hplace
    obtain rfl := Option.some.inj hst
    exact h.ui_schedule (by rw [hui]; decide) (h.active_of (by rw [hui]; decide)) hplace.1 hplace.2
  | completed =>
    rw [hui] at hst hplace
    obtain rfl := Option.some.inj hst
    have hact := h.active_of (by rw [hui]; decide)
    have hr := hplace.2
    cases bRequested with
    | false =>
      exact h.ui_keep (by rw [hui]; decide) hact rfl rfl rfl rfl rfl
        ⟨hplace.1, hr.pending, hr.resting, hr.completed, hr.unmuted⟩
    | true =>
      -- the notification is accepted, and the operation has been justified by an unmute
      refine ⟨h.running, ?_, h.single, h.source, ⟨hr.unmuted, h.justified⟩, ?_, ?_⟩
      · intro hc
        exact absurd (h.canceling hc) (by rw [hui]; decide)
      · intro ha
        exact absurd (hact.symm.trans ha) (by decide)
      · exact ⟨hplace.1, hr.pending, hr.resting, hr.completed, hr.unmuted⟩
  | refused =>
    rw [hui] at hst hplace
    obtain rfl := Option.some.inj hst
    exact h.ui_keep (by rw [hui]; decide) (h.active_of (by rw [hui]; decide)) rfl rfl rfl rfl rfl
      ⟨hplace.1, hplace.2.pending, hplace.2.resting, rfl⟩
  | retrying =>
    rw [hui] at hst hplace
    obtain rfl := Option.some.inj hst
    exact h.ui_schedule (by rw [hui]; decide) (h.active_of (by rw [hui]; decide)) hplace.1 hplace.2
  | accepted =>
    rw [hui] at hst hplace
    obtain rfl := Option.some.inj hst
    have hr := hplace.2
    exact h.ui_keep (by rw [hui]; decide) (h.active_of (by rw [hui]; decide)) rfl rfl rfl rfl rfl
      ⟨rfl, hr.pending, hr.resting, hr.completed, hr.unmuted⟩
  | lowering =>
    rw [hui] at hst hplace
    obtain rfl := Option.some.inj hst
    have hact := h.active_of (by rw [hui]; decide)
    exact h.ui_keep (by rw [hui]; decide) hact rfl rfl rfl rfl rfl
      (place_quiet rfl hact hplace.1 ⟨hplace.2.pending, hplace.2.resting, rfl⟩)
  | exiting =>
    rw [hui] at hst hplace
    obtain rfl := Option.some.inj hst
    have hact := h.active_of (by rw [hui]; decide)
    -- the item is not pending any more, and the thread waits for its handler to end
    refine ⟨h.running, fun _ => rfl, DelayableWork.cancel_single, h.source, h.justified, ?_, ?_⟩
    · intro ha
      exact absurd (hact.symm.trans ha) (by decide)
    · exact ⟨hplace, DelayableWork.cancel_not_pending, fun hr => hr⟩
  | waiting =>
    rw [hui] at hst hplace
    have hact := h.active_of (by rw [hui]; decide)
    have hst' : (if s.work.Idle then some { s with ui := .clearing } else none) = some s' := hst
    split at hst'
    · next hidle =>
      obtain rfl := Option.some.inj hst'
      -- the item is idle, so the context may be cleared
      refine ⟨h.running, ?_, h.single, h.source, h.justified, ?_, ⟨hplace.1, hidle⟩⟩
      · intro hc
        exact absurd (hidle.not_canceling.symm.trans hc) (by decide)
      · intro ha
        exact absurd (hact.symm.trans ha) (by decide)
    · exact absurd hst' (by simp)
  | clearing =>
    rw [hui] at hst hplace
    obtain rfl := Option.some.inj hst
    exact h.ui_keep (by rw [hui]; decide) (h.active_of (by rw [hui]; decide)) rfl rfl rfl rfl rfl
      ⟨hplace.1, hplace.2, rfl⟩
  | forgetting =>
    rw [hui] at hst hplace
    obtain rfl := Option.some.inj hst
    refine ⟨h.running, ?_, h.single, rfl, h.justified, fun _ => rfl, ?_⟩
    · intro hc
      exact absurd (hplace.2.1.not_canceling.symm.trans hc) (by decide)
    · exact ⟨hplace.1, hplace.2.1, hplace.2.2, rfl⟩

/-! ## §5. The work queue. -/

/-- What a step of the timer or of the handler does to the operation: it passes it on. -/
structure QueueStep (s s' : MuteScreen) : Prop where
  ui : s'.ui = s.ui
  active : s'.active = s.active
  progress : s'.bIsUnmuteInProgress = s.bIsUnmuteInProgress
  source : s'.eSourceId = s.eSourceId
  shown : Mute.shown s'.log = Mute.shown s.log
  running : s'.work.running = s'.handler.isSome
  canceling : s'.work.canceling = true → s.work.canceling = true
  single : s'.work.Single
  justified : Justified s'.log
  busy : ¬ (s.work.Idle ∧ s.handler = none)
  token : s.bIsUnmuteInProgress = true → s.work.canceling = false → s.Token → s'.Token
  quiet : s.Quiet → s'.Quiet
  result : s.Result → s'.Result
  waiting : ¬ s.work.Pending → (s.work.running = true → s.work.canceling = true) →
    ¬ s'.work.Pending ∧ (s'.work.running = true → s'.work.canceling = true)

/-- **A step of the work queue keeps the invariant.** -/
theorem Inv.queue (h : s.Inv) (hq : QueueStep s s') : s'.Inv where
  running := hq.running
  canceling hc := hq.ui.trans (h.canceling (hq.canceling hc))
  single := hq.single
  source := by rw [hq.source, hq.shown]; exact h.source
  justified := hq.justified
  inactive ha := hq.ui.trans (h.inactive (hq.active.symm.trans ha))
  place := by
    have hplace := h.place
    have hidle : ¬ s.work.Idle := fun hi => hq.busy ⟨hi, h.no_handler hi⟩
    unfold Place at hplace ⊢
    rw [hq.ui, hq.active, hq.progress]
    cases hui : s.ui with
    | outside =>
      rw [hui] at hplace
      have hc := h.not_canceling (by rw [hui]; decide)
      show if s.active = false then s'.Left
        else if s.bIsUnmuteInProgress = true then s'.Token else s'.Quiet
      have hplace' : if s.active = false then s.Left
        else if s.bIsUnmuteInProgress = true then s.Token else s.Quiet := hplace
      split at hplace'
      · exact absurd hplace'.idle hidle
      · next ha =>
        rw [if_neg ha]
        split at hplace'
        · next hp =>
          rw [if_pos hp]
          exact hq.token hp hc hplace'
        · next hp =>
          rw [if_neg hp]
          exact hq.quiet hplace'
    | pressed => rw [hui] at hplace; exact ⟨hplace.1, hq.quiet hplace.2⟩
    | scheduling => rw [hui] at hplace; exact ⟨hplace.1, hq.quiet hplace.2⟩
    | retrying => rw [hui] at hplace; exact ⟨hplace.1, hq.quiet hplace.2⟩
    | completed => rw [hui] at hplace; exact ⟨hplace.1, hq.result hplace.2⟩
    | refused => rw [hui] at hplace; exact ⟨hplace.1, hq.result hplace.2⟩
    | accepted => rw [hui] at hplace; exact ⟨hplace.1, hq.result hplace.2⟩
    | lowering => rw [hui] at hplace; exact ⟨hplace.1, hq.result hplace.2⟩
    | exiting => rw [hui] at hplace; exact hplace
    | waiting => rw [hui] at hplace; exact ⟨hplace.1, hq.waiting hplace.2.1 hplace.2.2⟩
    | clearing => rw [hui] at hplace; exact absurd hplace.2 hidle
    | forgetting => rw [hui] at hplace; exact absurd hplace.2.1 hidle

theorem Resting.ne (h : s.Resting) {pc : HandlerPc} (hh : s.handler = some pc) :
    pc = .returning := by
  rcases h with h | h
  · rw [hh] at h
    exact absurd h (by simp)
  · rw [hh] at h
    exact Option.some.inj h

theorem Inv.expire {work : DelayableWork} (h : s.Inv) (hst : s.work.expire = some work) :
    ({ s with work := work } : MuteScreen).Inv := by
  obtain ⟨hs, hr, hc, hp⟩ := DelayableWork.expire_cases hst
  have hpending : s.work.Pending := Or.inl hs
  refine h.queue ⟨rfl, rfl, rfl, rfl, rfl, hr.trans h.running, fun hc' => hc.symm.trans hc',
    DelayableWork.expire_single hst, h.justified, fun hi => hi.1.not_pending hpending,
    ?_, ?_, ?_, ?_⟩
  · intro _ hcan ht
    cases ht with
    | timer _ hrest hcompleted => exact .timer (hp hcan) hrest hcompleted
    | handler _ hnot => exact absurd hpending hnot
    | result hres => exact absurd hpending hres.pending
  · intro hquiet
    exact absurd hpending hquiet.pending
  · intro hres
    exact absurd hpending hres.pending
  · intro hnot _
    exact absurd hpending hnot

theorem Inv.call {work : DelayableWork} (h : s.Inv) (hst : s.work.start = some work) :
    ({ s with work := work, handler := some .called } : MuteScreen).Inv := by
  obtain ⟨hpending, _, _, hr, hc, _, _⟩ := DelayableWork.start_cases hst
  have hnot := DelayableWork.start_not_pending hst h.single
  refine h.queue ⟨rfl, rfl, rfl, rfl, rfl, hr, fun hc' => absurd (hc.symm.trans hc') (by decide),
    DelayableWork.start_single hst, h.justified, fun hi => hi.1.not_pending hpending,
    ?_, ?_, ?_, ?_⟩
  · intro _ _ ht
    cases ht with
    | timer _ _ hcompleted =>
      exact .handler .called hnot rfl (by decide) (fun hpc => absurd hpc (by decide)) hcompleted
    | handler _ hnot' => exact absurd hpending hnot'
    | result hres => exact absurd hpending hres.pending
  · intro hquiet
    exact absurd hpending hquiet.pending
  · intro hres
    exact absurd hpending hres.pending
  · intro hnot' _
    exact absurd hpending hnot'

/-- A step of the handler that leaves the work item and the flags as they are. -/
theorem Inv.handler_moves {pc pc' : HandlerPc} {log : List Event} (h : s.Inv)
    (hh : s.handler = some pc) (hpc : pc ≠ .returning)
    (hshown : Mute.shown log = Mute.shown s.log) (hjust : Justified log)
    (htoken : s.bIsUnmuteInProgress = true →
      pc' ≠ .returning ∧ (pc' = .updated → Mute.unmuted log = true)) :
    ({ s with handler := some pc', log := log } : MuteScreen).Inv := by
  have hbusy : ¬ s.Resting := fun hr => hpc (hr.ne hh)
  refine h.queue ⟨rfl, rfl, rfl, rfl, hshown, ?_, fun hc => hc, h.single, hjust, ?_, ?_, ?_, ?_, ?_⟩
  · rw [h.running, hh]
    rfl
  · intro hi
    rw [hh] at hi
    exact absurd hi.2 (by simp)
  · intro hp _ ht
    cases ht with
    | timer _ hr _ => exact absurd hr hbusy
    | handler _ hnot _ _ _ hc => exact .handler pc' hnot rfl (htoken hp).1 (htoken hp).2 hc
    | result hres => exact absurd hres.resting hbusy
  · intro hquiet
    exact absurd hquiet.resting hbusy
  · intro hres
    exact absurd hres.resting hbusy
  · intro hnot hrun
    exact ⟨hnot, hrun⟩

theorem Inv.handler_schedules (h : s.Inv) (hh : s.handler = some .failed) :
    ({ s with work := s.work.schedule, handler := some .returning } : MuteScreen).Inv := by
  have hbusy : ¬ s.Resting := fun hr => absurd (hr.ne hh) (by decide)
  have hrun : s.work.running = true := by rw [h.running, hh]; rfl
  refine h.queue ⟨rfl, rfl, rfl, rfl, rfl, ?_, ?_, DelayableWork.schedule_single h.single,
    h.justified, ?_, ?_, ?_, ?_, ?_⟩
  · show s.work.schedule.running = true
    rw [DelayableWork.schedule_running]
    exact hrun
  · intro hc
    have hc' : s.work.schedule.canceling = true := hc
    rwa [DelayableWork.schedule_canceling] at hc'
  · intro hi
    rw [hh] at hi
    exact absurd hi.2 (by simp)
  · intro _ hcan ht
    cases ht with
    | timer _ hr _ => exact absurd hr hbusy
    | handler _ _ _ _ _ hc => exact .timer (DelayableWork.schedule_pending hcan) (Or.inr rfl) hc
    | result hres => exact absurd hres.resting hbusy
  · intro hquiet
    exact absurd hquiet.resting hbusy
  · intro hres
    exact absurd hres.resting hbusy
  · -- the screen is being left: the item is marked, and the timer does not start
    intro hnot hmark
    show ¬ s.work.schedule.Pending ∧
      (s.work.schedule.running = true → s.work.schedule.canceling = true)
    rw [DelayableWork.schedule_of_canceling (hmark hrun)]
    exact ⟨hnot, hmark⟩

theorem Inv.handler_completes (h : s.Inv) (hh : s.handler = some .updated) :
    ({ s with bWorkCompleted := true, handler := some .returning } : MuteScreen).Inv := by
  have hbusy : ¬ s.Resting := fun hr => absurd (hr.ne hh) (by decide)
  refine h.queue ⟨rfl, rfl, rfl, rfl, rfl, ?_, fun hc => hc, h.single, h.justified,
    ?_, ?_, ?_, ?_, ?_⟩
  · rw [h.running, hh]
    rfl
  · intro hi
    rw [hh] at hi
    exact absurd hi.2 (by simp)
  · intro _ _ ht
    cases ht with
    | timer _ hr _ => exact absurd hr hbusy
    | handler pc hnot hh' _ hu _ =>
      have hpc : pc = .updated := Option.some.inj (hh'.symm.trans hh)
      exact .result ⟨hnot, Or.inr rfl, rfl, hu hpc⟩
    | result hres => exact absurd hres.resting hbusy
  · intro hquiet
    exact absurd hquiet.resting hbusy
  · intro hres
    exact absurd hres.resting hbusy
  · intro hnot hrun
    exact ⟨hnot, hrun⟩

theorem Inv.handler_returns {work : DelayableWork} (h : s.Inv) (hh : s.handler = some .returning)
    (hst : s.work.finish = some work) :
    ({ s with work := work, handler := none } : MuteScreen).Inv := by
  obtain ⟨_, hr, hc, hiff⟩ := DelayableWork.finish_cases hst
  refine h.queue ⟨rfl, rfl, rfl, rfl, rfl, hr, fun hc' => absurd (hc.symm.trans hc') (by decide),
    DelayableWork.finish_single hst h.single, h.justified, ?_, ?_, ?_, ?_, ?_⟩
  · intro hi
    rw [hh] at hi
    exact absurd hi.2 (by simp)
  · intro _ _ ht
    cases ht with
    | timer hp _ hcompleted => exact .timer (hiff.mpr hp) (Or.inl rfl) hcompleted
    | handler pc _ hh' hpc _ _ => exact absurd (Option.some.inj (hh'.symm.trans hh)) hpc
    | result hres =>
      exact .result
        ⟨fun hp => hres.pending (hiff.mp hp), Or.inl rfl, hres.completed, hres.unmuted⟩
  · intro hquiet
    exact ⟨fun hp => hquiet.pending (hiff.mp hp), Or.inl rfl, hquiet.completed⟩
  · intro hres
    exact ⟨fun hp => hres.pending (hiff.mp hp), Or.inl rfl, hres.completed, hres.unmuted⟩
  · intro hnot _
    exact ⟨fun hp => hnot (hiff.mp hp), fun hr' => absurd (hr.symm.trans hr') (by decide)⟩

theorem Inv.handlerStep {bUpdated : Bool} (h : s.Inv) (hst : s.handlerStep bUpdated = some s') :
    s'.Inv := by
  unfold MuteScreen.handlerStep at hst
  cases hh : s.handler with
  | none => rw [hh] at hst; exact absurd hst (by simp)
  | some pc =>
    rw [hh] at hst
    cases pc with
    | called =>
      obtain rfl := Option.some.inj hst
      refine h.handler_moves hh (by decide) rfl h.justified ?_
      intro hp
      rw [if_pos hp]
      exact ⟨by decide, fun hpc => absurd hpc (by decide)⟩
    | updating =>
      obtain rfl := Option.some.inj hst
      refine h.handler_moves hh (by decide) rfl ⟨h.source, h.justified⟩ ?_
      intro _
      cases hb : s.eSourceId.isSome && bUpdated with
      | false => exact ⟨by decide, fun hpc => absurd hpc (by decide)⟩
      | true => exact ⟨by decide, fun _ => rfl⟩
    | failed =>
      obtain rfl := Option.some.inj hst
      exact h.handler_schedules hh
    | updated =>
      obtain rfl := Option.some.inj hst
      exact h.handler_completes hh
    | returning =>
      obtain ⟨work, hwork, rfl⟩ := Option.map_eq_some_iff.mp hst
      exact h.handler_returns hh hwork

/-! ## §6. Every run. -/

/-- **One step of either thread keeps the invariant.** -/
theorem Inv.step {a : Act} (h : s.Inv) (hst : s.step a = some s') : s'.Inv := by
  cases a with
  | create bRootExists =>
    have hst' : (if s.ui = .outside ∧ s.active = false then
      some (s.bCreate_AudioSrcMuteScreen bRootExists) else none) = some s' := hst
    split at hst'
    · next hc =>
      obtain rfl := Option.some.inj hst'
      exact h.create hc.2 bRootExists
    · exact absurd hst' (by simp)
  | enter env =>
    have hst' : (if s.ui = .outside ∧ s.active = false then
      some { s.vEnter_AudioSrcMuteScreen env with active := true } else none) = some s' := hst
    split at hst'
    · next hc =>
      obtain rfl := Option.some.inj hst'
      exact h.enter hc.2 env
    · exact absurd hst' (by simp)
  | press =>
    have hst' : (if s.ui = .outside ∧ s.active = true then some s.vHandle_EncoderInput else none)
      = some s' := hst
    split at hst'
    · next hc =>
      obtain rfl := Option.some.inj hst'
      exact h.press hc.1 hc.2
    · exact absurd hst' (by simp)
  | run =>
    have hst' : (if s.ui = .outside ∧ s.active = true then some s.vRun_AudioSrcMuteScreen else none)
      = some s' := hst
    split at hst'
    · next hc =>
      obtain rfl := Option.some.inj hst'
      exact h.run hc.1 hc.2
    · exact absurd hst' (by simp)
  | exit =>
    have hst' : (if s.ui = .outside ∧ s.active = true then some s.vExit_AudioSrcMuteScreen
      else none) = some s' := hst
    split at hst'
    · next hc =>
      obtain rfl := Option.some.inj hst'
      exact h.exit hc.1 hc.2
    · exact absurd hst' (by simp)
  | ui bRequested => exact h.uiStep hst
  | expire =>
    obtain ⟨work, hwork, rfl⟩ := Option.map_eq_some_iff.mp hst
    exact h.expire hwork
  | call =>
    obtain ⟨work, hwork, rfl⟩ := Option.map_eq_some_iff.mp hst
    exact h.call hwork
  | handler bUpdated => exact h.handlerStep hst

theorem inv_of_reachable (h : muteSystem.Reachable s) : s.Inv := by
  refine TransSys.Reachable.invariant ?_ ?_ h
  · intro s hs
    rw [show s = .init from hs]
    exact .init
  · intro s a s' hi hst
    exact hi.step hst

end MuteScreen

open MuteScreen

variable {s : MuteScreen}

/-- **A press is neither lost nor done twice**: in every state that the two threads reach,
the updates are those of the source shown, and a request follows an update that has
succeeded; a press under way is in exactly one place, also inside a callback; and once the
screen is left nothing of it is. -/
theorem unmute_in_one_place (h : muteSystem.Reachable s) :
    Justified s.log ∧
      s.Place ∧
      (s.bIsUnmuteInProgress = true → s.InOnePlace) ∧
      (s.active = true → s.ui = .outside → s.bIsUnmuteInProgress = false → s.Quiet) ∧
      (s.active = false → s.Left ∧ s.handler = none) := by
  have hi := inv_of_reachable h
  refine ⟨hi.justified, hi.place, hi.in_one_place, ?_, ?_⟩
  · intro ha hui hp
    have hplace := (place_outside hui ha).mp hi.place
    rwa [if_neg (by rw [hp]; decide)] at hplace
  · intro ha
    exact ⟨hi.left ha, hi.no_handler (hi.left ha).idle⟩

/-- A muted source that is selected. -/
def mutedSource : AudioSourceConfig :=
  { AudioSourceConfig.zero with
    eSrcId := 1
    eSrcType := .wired
    bIsMute := true
    bIsSelected := true }

/-- The screen is entered, and pressed; the press has been handed to the timer. -/
def pressRun (selected : Option AudioSourceConfig) : List Act :=
  [.create false, .enter ⟨true, selected, true⟩, .press, .ui true, .ui true]

/-- The notification has cleared the result, and not scheduled the work item yet. -/
theorem unmute_in_one_place_pressed :
    ∃ s, (pressRun (some mutedSource)).dropLast.foldlM MuteScreen.step .init = some s ∧
      s.ui = .scheduling ∧ Justified s.log ∧ s.Place ∧ s.InOnePlace := by
  refine ⟨_, rfl, rfl, ?_⟩
  have h := unmute_in_one_place (TransSys.Reachable.foldlM (M := muteSystem) (fun _ _ _ hs => hs)
    (.init rfl) (pressRun (some mutedSource)).dropLast rfl)
  exact ⟨h.1, h.2.1, h.2.2.1 rfl⟩

end WallController.Lvgl.Mute
