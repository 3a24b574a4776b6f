/-
  WallController.Lvgl.PendingVolume
  ────────────────────────────────
  **THE VOLUME THAT IS STILL TO BE SAVED.**

  A rotation shows a volume and marks the context of the source screen dirty;
  a tick, the exit and the next entry of the screen save it, and a save that
  fails leaves it dirty for the next one.  The context belongs to a screen that
  the manager deletes on exit, though: the next entry creates it anew, and the
  volume is gone before the entry can save it.

  The screens are activated by `activate` of `Lvgl.ScreenManager`; the callbacks
  of the source screen run where the manager calls them.

  Main result: `volume_retained`, in the runs that create no screen while a
  volume is to be saved.
-/
import WallController.Lvgl.AudioSrcScreen

namespace WallController.Lvgl

open WallController.Lib
open WallController.AudioSrc (AudioSrcId AudioSourceConfig)

/-! ## §1. The runs. -/

/-- The manager, the context of the source screen, and what its callbacks have done. -/
structure SourceScreen where
  manager : UIScreenManager
  context : AudioSrcScreenContext
  log : List Effect

/-- After `bInit_UIScreenManager`. -/
def SourceScreen.init : SourceScreen := ⟨bInit_UIScreenManager, .zero, []⟩

/-- What is outside of one activation: the environments of the callbacks of the source
screen, and what `pfCreate` of another screen does. -/
structure ActivateEnv where
  create : CreateEnv
  created : CreateResult
  uiExitTime_ms : UInt32
  iExitResult : Int
  enter : EnterEnv
  deriving DecidableEq, Repr

inductive ScreenStep where
  | rotate (iDetents : Int) (uiTimeNow_ms : UInt32)
  | tick (env : RunEnv)
  /-- The manager activates the screen that was requested. -/
  | activate (eId : ScreenId) (env : ActivateEnv)
  deriving DecidableEq, Repr

namespace SourceScreen

variable (s : SourceScreen)

/-- The source screen is active. -/
def Active : Prop := s.manager.pstActiveDescriptor = some (UI_SCREEN_SLOT_INDEX .audioSrcInfo)

instance : Decidable s.Active := inferInstanceAs (Decidable (_ = _))

/-- The activation of this screen calls `bCreate_AudioSrcInfoScreen`. -/
def Creates (eId : ScreenId) (d : UIScreenDescriptor) : Prop :=
  eId = .audioSrcInfo ∧ d.pstScreenRuntime = some ⟨false⟩ ∧ d.pfCreate = true

instance (eId : ScreenId) (d : UIScreenDescriptor) : Decidable (Creates eId d) :=
  inferInstanceAs (Decidable (_ ∧ _))

/-- `pfCreate` of the requested screen, and the context it leaves. -/
def create (eId : ScreenId) (d : UIScreenDescriptor) (env : ActivateEnv) :
    AudioSrcScreenContext × CreateResult :=
  if Creates eId d then
    let (pstRootObj, context, bResult) := bCreate_AudioSrcInfoScreen false s.context env.create
    (context, ⟨bResult, pstRootObj⟩)
  else (s.context, env.created)

/-- `pfExit` of the previous screen and `pfEnter` of the requested one, where they are
those of the source screen. -/
def leaveAndEnter (context : AudioSrcScreenContext) (eId : ScreenId) (env : ActivateEnv) :
    AudioSrcScreenContext × List Effect :=
  let (context, exited) :=
    if s.Active then context.vExit_AudioSrcInfoScreen env.uiExitTime_ms env.iExitResult
    else (context, [])
  let (context, entered) :=
    if eId = .audioSrcInfo then context.vEnter_AudioSrcInfoScreen env.enter else (context, [])
  (context, exited ++ entered)

/-- `bActivate_RequestedScreen`, with the callbacks of the source screen. -/
def activate (eId : ScreenId) (env : ActivateEnv) : SourceScreen :=
  match s.manager.slot eId with
  | none => s
  | some pstActiveDescriptor =>
    let uiScreenIndex := UI_SCREEN_SLOT_INDEX eId
    if s.manager.pstActiveDescriptor = some uiScreenIndex then s
    else
      let (context, created) := s.create eId pstActiveDescriptor env
      let (manager, bResult) := Lvgl.activate s.manager uiScreenIndex pstActiveDescriptor created
      if bResult = false then { s with manager := manager, context := context }
      else
        let (context, effects) := s.leaveAndEnter context eId env
        ⟨manager, context, s.log ++ effects⟩

/-- One step; the input and the run of the source screen are those of the active one. -/
def step : ScreenStep → SourceScreen
  | .rotate iDetents uiTimeNow_ms =>
    if s.Active then
      let (context, effects) := s.context.vHandle_EncoderRotation iDetents uiTimeNow_ms
      { s with context := context, log := s.log ++ effects }
    else s
  | .tick env =>
    if s.Active then
      let (context, effects) := s.context.vRun_AudioSrcInfoScreen env
      { s with context := context, log := s.log ++ effects }
    else s
  | .activate eId env => s.activate eId env

end SourceScreen

def sourceSystem : TransSys SourceScreen ScreenStep where
  init s := s = .init
  step s a s' := s' = s.step a

/-! ## §2. The pending volume. -/

/-- What an effect makes of the volume that is still to be saved. -/
def pendingStep : Option (AudioSrcId × UInt8) → Effect → Option (AudioSrcId × UInt8)
  | _, .shown eSrcId uiVolume => some (eSrcId, uiVolume)
  | p, .save eSrcId uiVolume iResult => if iResult = 0 ∧ p = some (eSrcId, uiVolume) then none else p
  | p, _ => p

/-- The last volume that was shown, unless it has been saved. -/
def pending (log : List Effect) : Option (AudioSrcId × UInt8) := log.foldl pendingStep none

/-- The context holds the volume: dirty, with its value and its source. -/
def Retained (c : AudioSrcScreenContext) (p : Option (AudioSrcId × UInt8)) : Prop :=
  ∀ eSrcId uiVolume, p = some (eSrcId, uiVolume) →
    c.bIsVolumeDirty = true ∧ c.eSrcId = eSrcId ∧ c.uiVolume = uiVolume

/-- The property of a state. -/
def SourceScreen.Retains (s : SourceScreen) : Prop := Retained s.context (pending s.log)

/-- The entry of the screen tries the pending volume again. -/
def SourceScreen.Retries (s : SourceScreen) : Prop :=
  ∀ env eSrcId uiVolume, pending s.log = some (eSrcId, uiVolume) →
    .save eSrcId uiVolume env.iResult ∈ (s.context.vEnter_AudioSrcInfoScreen env).2

/-- The activation creates the source screen: it was not active, its root object is
gone, and there is a view for the selected source. -/
def SourceScreen.Resets (s : SourceScreen) : ScreenStep → Prop
  | .activate eId env => ∃ d, s.manager.slot eId = some d ∧ ¬ s.Active ∧ SourceScreen.Creates eId d
      ∧ ∃ stSelected, env.create.selected = some stSelected
        ∧ pstSelect_AudioSrcView stSelected.eSrcType = true
  | _ => False

/-- No screen is created while a volume is pending. -/
def SourceScreen.KeepsContext (s : SourceScreen) (a : ScreenStep) : Prop :=
  s.Resets a → pending s.log = none

/-! ## §3. The callbacks. -/

variable {c c' : AudioSrcScreenContext} {p : Option (AudioSrcId × UInt8)}

theorem Retained.none (c : AudioSrcScreenContext) : Retained c none :=
  fun _ _ h => nomatch h

/-- A clean context holds no pending volume. -/
theorem Retained.eq_none (h : Retained c p) (hclean : c.bIsVolumeDirty = false) : p = .none := by
  cases p with
  | none => rfl
  | some x =>
      obtain ⟨eSrcId, uiVolume⟩ := x
      have hdirty := (h eSrcId uiVolume rfl).1
      rw [hclean] at hdirty
      cases hdirty

theorem Retained.congr (h : Retained c p) (hd : c'.bIsVolumeDirty = c.bIsVolumeDirty)
    (hi : c'.eSrcId = c.eSrcId) (hv : c'.uiVolume = c.uiVolume) : Retained c' p := by
  intro eSrcId uiVolume hp
  obtain ⟨hdirty, hid, hvol⟩ := h eSrcId uiVolume hp
  exact ⟨hd.trans hdirty, hi.trans hid, hv.trans hvol⟩

/-- Effects that neither show nor save. -/
def Silent (es : List Effect) : Prop := ∀ e ∈ es, ∀ p, pendingStep p e = p

theorem Silent.foldl {es : List Effect} (h : Silent es) (p : Option (AudioSrcId × UInt8)) :
    es.foldl pendingStep p = p := by
  induction es with
  | nil => rfl
  | cons e es ih =>
      rw [List.foldl_cons, h e List.mem_cons_self p]
      exact ih fun e' he' => h e' (List.mem_cons_of_mem e he')

theorem silent_nil : Silent [] := fun _ he => nomatch he

theorem silent_cons {e : Effect} {es : List Effect} (he : ∀ p, pendingStep p e = p)
    (hes : Silent es) : Silent (e :: es) := by
  intro e' he'
  rcases List.mem_cons.mp he' with rfl | htail
  · exact he
  · exact hes e' htail

/-- A save keeps the volume until it succeeds. -/
theorem retained_iUpdate (h : Retained c p) (bForce : Bool) (t : UInt32) (iResult : Int) :
    Retained (c.iUpdate_AudioSrcFile bForce t iResult).1
      ((c.iUpdate_AudioSrcFile bForce t iResult).2.2.foldl pendingStep p) := by
  unfold AudioSrcScreenContext.iUpdate_AudioSrcFile
  split
  · exact h
  split
  · exact h
  split
  · next hfails =>
    have hsame : pendingStep p (.save c.eSrcId c.uiVolume iResult) = p :=
      if_neg fun hs => hfails hs.1
    show Retained _ (pendingStep p (.save c.eSrcId c.uiVolume iResult))
    rw [hsame]
    exact h.congr rfl rfl rfl
  · next hdone =>
    have hsaved : pendingStep p (.save c.eSrcId c.uiVolume iResult) = .none := by
      cases p with
      | none => exact if_neg fun hs => nomatch hs.2
      | some x =>
          obtain ⟨eSrcId, uiVolume⟩ := x
          obtain ⟨-, hid, hvol⟩ := h eSrcId uiVolume rfl
          exact if_pos ⟨not_not.mp hdone, by rw [hid, hvol]⟩
    show Retained _ (pendingStep p (.save c.eSrcId c.uiVolume iResult))
    rw [hsaved]
    exact .none _

/-- A forced save that does not fail leaves the context clean. -/
theorem clean_iUpdate {t : UInt32} {iResult : Int}
    (h : (c.iUpdate_AudioSrcFile true t iResult).2.1 = 0) :
    (c.iUpdate_AudioSrcFile true t iResult).1.bIsVolumeDirty = false := by
  unfold AudioSrcScreenContext.iUpdate_AudioSrcFile at h ⊢
  split
  · next hclean => exact (Bool.not_eq_true' _).mp hclean
  · next hdirty =>
    rw [if_neg hdirty, if_neg (by simp)] at h
    rw [if_neg (by simp)]
    split
    · next hfails =>
      rw [if_pos hfails] at h
      exact absurd h hfails
    · rfl

/-- A forced save of a dirty context is tried. -/
theorem tries_iUpdate (h : c.bIsVolumeDirty = true) (t : UInt32) (iResult : Int) :
    (c.iUpdate_AudioSrcFile true t iResult).2.2 = [.save c.eSrcId c.uiVolume iResult] := by
  unfold AudioSrcScreenContext.iUpdate_AudioSrcFile
  rw [if_neg (by simp [h]), if_neg (by simp)]
  split
  · rfl
  · rfl

theorem retained_rotation (h : Retained c p) (iDetents : Int) (t : UInt32) :
    Retained (c.vHandle_EncoderRotation iDetents t).1
      ((c.vHandle_EncoderRotation iDetents t).2.foldl pendingStep p) := by
  unfold AudioSrcScreenContext.vHandle_EncoderRotation
  dsimp only
  split
  · next hsame => exact h.congr rfl rfl hsame.symm
  · intro eSrcId uiVolume hp
    obtain ⟨hid, hvol⟩ := Prod.mk.inj (Option.some.inj hp)
    exact ⟨rfl, hid, hvol⟩

/-- The transition to the mute screen leaves the volume alone. -/
theorem retained_mute (h : Retained c p) (env : RunEnv) :
    Silent (c.bCanExecute_MuteScreenTransition env).2.2
      ∧ Retained (c.bCanExecute_MuteScreenTransition env).1 p := by
  unfold AudioSrcScreenContext.bCanExecute_MuteScreenTransition
  split
  · exact ⟨silent_nil, h⟩
  split
  · exact ⟨silent_nil, h⟩
  have hready : Retained { c with bIsMuteTransitionReady := true } p := h.congr rfl rfl rfl
  dsimp only
  split
  · exact ⟨silent_cons (fun _ => rfl) silent_nil, hready⟩
  · exact ⟨silent_cons (fun _ => rfl) (silent_cons (fun _ => rfl) silent_nil), hready⟩

theorem retained_longPress (h : Retained c p) (t : UInt32) :
    Silent (c.tickLongPress t).2 ∧ Retained (c.tickLongPress t).1 p := by
  unfold AudioSrcScreenContext.tickLongPress
  split
  · exact ⟨silent_cons (fun _ => rfl) silent_nil, h.congr rfl rfl rfl⟩
  · exact ⟨silent_nil, h⟩

theorem retained_window (h : Retained c p) (t : UInt32) : Retained (c.tickWindow t) p := by
  unfold AudioSrcScreenContext.tickWindow
  split
  · exact h.congr rfl rfl rfl
  · exact h

/-- A run of the screen: the save, and what does not concern the volume. -/
theorem retained_run (h : Retained c p) (env : RunEnv) :
    Retained (c.vRun_AudioSrcInfoScreen env).1
      ((c.vRun_AudioSrcInfoScreen env).2.foldl pendingStep p) := by
  have hsave := retained_iUpdate h false env.uiSaveTime_ms env.iResult
  obtain ⟨hmutes, hmute⟩ := retained_mute hsave env
  obtain ⟨hpresses, hpress⟩ := retained_longPress hmute env.uiCurrentTime_ms
  unfold AudioSrcScreenContext.vRun_AudioSrcInfoScreen
  dsimp only
  split
  · show Retained _ ((_ ++ _ : List Effect).foldl pendingStep p)
    rw [List.foldl_append, hmutes.foldl]
    exact hmute
  · show Retained _ ((_ ++ _ ++ _ : List Effect).foldl pendingStep p)
    rw [List.foldl_append, List.foldl_append, hmutes.foldl, hpresses.foldl]
    exact retained_window hpress env.uiCurrentTime_ms

theorem retained_exit (h : Retained c p) (t : UInt32) (iResult : Int) :
    Retained (c.vExit_AudioSrcInfoScreen t iResult).1
      ((c.vExit_AudioSrcInfoScreen t iResult).2.foldl pendingStep p) :=
  (retained_iUpdate h true t iResult).congr rfl rfl rfl

/-- The entry of a context that holds the volume. -/
theorem retained_enter (h : Retained c p) (env : EnterEnv) :
    Retained (c.vEnter_AudioSrcInfoScreen env).1
      ((c.vEnter_AudioSrcInfoScreen env).2.foldl pendingStep p) := by
  have hsave := retained_iUpdate h true env.uiSaveTime_ms env.iResult
  have hclean : (c.iUpdate_AudioSrcFile true env.uiSaveTime_ms env.iResult).2.1 = 0 → _ :=
    clean_iUpdate
  unfold AudioSrcScreenContext.vEnter_AudioSrcInfoScreen
  generalize c.iUpdate_AudioSrcFile true env.uiSaveTime_ms env.iResult = r at hsave hclean ⊢
  obtain ⟨c₁, iResult, saves⟩ := r
  dsimp only at hsave hclean ⊢
  split
  · exact hsave
  split
  · exact hsave
  · next hdone _ =>
    -- nothing is pending any more: the stored volume may be shown
    have hnone : saves.foldl pendingStep p = .none := hsave.eq_none (hclean (not_not.mp hdone))
    repeat' split
    all_goals
      show Retained _ (saves.foldl pendingStep p)
      rw [hnone]
      exact .none _

theorem retries_enter (h : Retained c p) {eSrcId : AudioSrcId} {uiVolume : UInt8}
    (hp : p = some (eSrcId, uiVolume)) (env : EnterEnv) :
    .save eSrcId uiVolume env.iResult ∈ (c.vEnter_AudioSrcInfoScreen env).2 := by
  obtain ⟨hdirty, rfl, rfl⟩ := h eSrcId uiVolume hp
  have htries := tries_iUpdate hdirty env.uiSaveTime_ms env.iResult
  unfold AudioSrcScreenContext.vEnter_AudioSrcInfoScreen
  generalize c.iUpdate_AudioSrcFile true env.uiSaveTime_ms env.iResult = r at htries ⊢
  obtain ⟨c₁, iResult, saves⟩ := r
  dsimp only at htries ⊢
  repeat' split
  all_goals
    show _ ∈ saves
    rw [htries]
    exact List.mem_singleton_self _

/-- The entry of a clean context saves nothing. -/
theorem clean_enter (hclean : c.bIsVolumeDirty = false) (env : EnterEnv) :
    (c.vEnter_AudioSrcInfoScreen env).1.bIsVolumeDirty = false
      ∧ (c.vEnter_AudioSrcInfoScreen env).2 = [] := by
  have hsave : c.iUpdate_AudioSrcFile true env.uiSaveTime_ms env.iResult = (c, 0, []) := by
    unfold AudioSrcScreenContext.iUpdate_AudioSrcFile
    exact if_pos (by simp [hclean])
  unfold AudioSrcScreenContext.vEnter_AudioSrcInfoScreen
  rw [hsave]
  dsimp only
  rw [if_neg (fun h => h rfl)]
  split
  · exact ⟨hclean, rfl⟩
  -- the screen shows the stored volume, or nothing is changed but the values
  have hshown : (c.bUpdate_AudioSourceInfo env.selected).1.bIsVolumeDirty = false := by
    unfold AudioSrcScreenContext.bUpdate_AudioSourceInfo
    split
    · exact hclean
    dsimp only
    split
    · exact hclean
    · rfl
  split
  · exact ⟨hshown, rfl⟩
  split
  · exact ⟨hshown, rfl⟩
  · exact ⟨hshown, rfl⟩

/-! ## §4. The activation. -/

variable {s : SourceScreen} {eId : ScreenId} {d : UIScreenDescriptor} {env : ActivateEnv}

/-- Without a view the creation gives up before it touches the context. -/
theorem bCreate_early {cenv : CreateEnv}
    (h : ¬ ∃ stSelected, cenv.selected = some stSelected
      ∧ pstSelect_AudioSrcView stSelected.eSrcType = true) :
    (bCreate_AudioSrcInfoScreen false c cenv).2.1 = c := by
  unfold bCreate_AudioSrcInfoScreen
  split
  · rfl
  · next stSelected hsel =>
    split
    · rfl
    · next hview =>
      exact absurd ⟨stSelected, hsel, by simpa using hview⟩ h

/-- With a view it leaves a context that is clean, whatever it was. -/
theorem bCreate_clean {cenv : CreateEnv}
    (h : ∃ stSelected, cenv.selected = some stSelected
      ∧ pstSelect_AudioSrcView stSelected.eSrcType = true) :
    (bCreate_AudioSrcInfoScreen false c cenv).2.1.bIsVolumeDirty = false := by
  obtain ⟨stSelected, hsel, hview⟩ := h
  unfold bCreate_AudioSrcInfoScreen
  rw [hsel]
  dsimp only
  split
  · next hnone =>
    rw [hview] at hnone
    exact absurd hnone (by decide)
  rw [if_neg Bool.false_ne_true]
  split
  · rfl
  · rfl

/-- The creation keeps a context that holds the volume, unless it resets it. -/
theorem retained_create (h : s.Retains) (hslot : s.manager.slot eId = some d)
    (hother : s.manager.pstActiveDescriptor ≠ some (UI_SCREEN_SLOT_INDEX eId))
    (hkeep : s.KeepsContext (.activate eId env)) :
    Retained (s.create eId d env).1 (pending s.log) := by
  unfold SourceScreen.create
  by_cases hcreates : SourceScreen.Creates eId d
  · rw [if_pos hcreates]
    show Retained (bCreate_AudioSrcInfoScreen false s.context env.create).2.1 (pending s.log)
    by_cases hview : ∃ stSelected, env.create.selected = some stSelected
        ∧ pstSelect_AudioSrcView stSelected.eSrcType = true
    · have hinactive : ¬ s.Active := by
        rw [hcreates.1] at hother
        exact hother
      rw [hkeep ⟨d, hslot, hinactive, hcreates, hview⟩]
      exact .none _
    · rw [bCreate_early hview]
      exact h
  · rw [if_neg hcreates]
    exact h

theorem retained_leaveAndEnter (s : SourceScreen) (h : Retained c p) (eId : ScreenId)
    (env : ActivateEnv) :
    Retained (s.leaveAndEnter c eId env).1
      ((s.leaveAndEnter c eId env).2.foldl pendingStep p) := by
  have hexit : Retained
      (if s.Active then c.vExit_AudioSrcInfoScreen env.uiExitTime_ms env.iExitResult
        else (c, [])).1
      ((if s.Active then c.vExit_AudioSrcInfoScreen env.uiExitTime_ms env.iExitResult
        else (c, [])).2.foldl pendingStep p) := by
    split
    · exact retained_exit h _ _
    · exact h
  unfold SourceScreen.leaveAndEnter
  dsimp only
  rw [List.foldl_append]
  split
  · exact retained_enter hexit env.enter
  · exact hexit

/-- **One step**: the context holds the pending volume, if the step does not reset it. -/
theorem retains_step (h : s.Retains) {a : ScreenStep} (hkeep : s.KeepsContext a) :
    (s.step a).Retains := by
  cases a with
  | rotate iDetents t =>
      show SourceScreen.Retains (if s.Active then _ else s)
      split
      · show Retained _ ((s.log ++ _).foldl pendingStep none)
        rw [List.foldl_append]
        exact retained_rotation h iDetents t
      · exact h
  | tick env =>
      show SourceScreen.Retains (if s.Active then _ else s)
      split
      · show Retained _ ((s.log ++ _).foldl pendingStep none)
        rw [List.foldl_append]
        exact retained_run h env
      · exact h
  | activate eId env =>
      show (s.activate eId env).Retains
      unfold SourceScreen.activate
      split
      · exact h
      next d hslot =>
      dsimp only
      split
      · exact h
      next hother =>
      have hcreate := retained_create h hslot hother hkeep
      split
      · exact hcreate
      · show Retained _ ((s.log ++ _).foldl pendingStep none)
        rw [List.foldl_append]
        exact retained_leaveAndEnter s hcreate eId env

/-- A step that resets the context while a volume is pending loses it. -/
theorem lost_step {a : ScreenStep} (h : ¬ s.KeepsContext a) : ¬ (s.step a).Retains := by
  obtain ⟨hresets, hpending⟩ := Classical.not_imp.mp h
  cases a with
  | rotate iDetents t => exact hresets.elim
  | tick env => exact hresets.elim
  | activate eId env =>
      obtain ⟨d, hslot, hinactive, hcreates, hview⟩ := hresets
      have hclean : (s.create eId d env).1.bIsVolumeDirty = false := by
        unfold SourceScreen.create
        rw [if_pos hcreates]
        exact bCreate_clean hview
      have hother : s.manager.pstActiveDescriptor ≠ some (UI_SCREEN_SLOT_INDEX eId) := by
        rw [hcreates.1]
        exact hinactive
      -- neither the failure nor the entry makes the new context dirty, and nothing is saved
      have hstep : (s.activate eId env).context.bIsVolumeDirty = false
          ∧ (s.activate eId env).log = s.log := by
        unfold SourceScreen.activate
        rw [hslot]
        dsimp only
        rw [if_neg hother]
        split
        · exact ⟨hclean, rfl⟩
        · obtain ⟨henter, hsilent⟩ := clean_enter hclean env.enter
          unfold SourceScreen.leaveAndEnter
          dsimp only
          rw [if_neg hinactive, if_pos hcreates.1]
          refine ⟨henter, ?_⟩
          show s.log ++ ([] ++ _) = s.log
          rw [hsilent, List.append_nil, List.append_nil]
      intro hretains
      have hnone := Retained.eq_none hretains hstep.1
      change pending (s.activate eId env).log = none at hnone
      rw [hstep.2] at hnone
      exact hpending hnone

/-! ## §5. The root object. -/

/-- The source screen has a root object only while it is active: it is created anew for
every entry. -/
def UIScreenManager.Recreates (m : UIScreenManager) : Prop :=
  ∃ d r, m.slot .audioSrcInfo = some d ∧ d.pfCreate = true ∧ d.bDeleteOnExit = true
    ∧ d.pstScreenRuntime = some r
    ∧ (m.pstActiveDescriptor ≠ some (UI_SCREEN_SLOT_INDEX .audioSrcInfo) → r.pstRootObj = false)

variable {m : UIScreenManager}

theorem UIScreenManager.Recreates.init : bInit_UIScreenManager.Recreates :=
  ⟨initScreen .audioSrcInfo, ⟨false⟩, rfl, rfl, rfl, rfl, fun _ => rfl⟩

theorem UIScreenManager.Recreates.setRoot_ne (h : m.Recreates) {i : Nat}
    (hi : i ≠ UI_SCREEN_SLOT_INDEX .audioSrcInfo) (b : Bool) : (m.setRoot i b).Recreates := by
  obtain ⟨d, r, hslot, hrest⟩ := h
  exact ⟨d, r, (List.getElem?_modify_ne _ _ hi).trans hslot, hrest⟩

theorem UIScreenManager.Recreates.setRoot_self (h : m.Recreates) {b : Bool}
    (hb : m.pstActiveDescriptor ≠ some (UI_SCREEN_SLOT_INDEX .audioSrcInfo) → b = false) :
    (m.setRoot (UI_SCREEN_SLOT_INDEX .audioSrcInfo) b).Recreates := by
  obtain ⟨d, r, hslot, hcreate, hdelete, hruntime, -⟩ := h
  refine ⟨{ d with pstScreenRuntime := d.pstScreenRuntime.map fun _ => ⟨b⟩ }, ⟨b⟩, ?_, hcreate,
    hdelete, by rw [hruntime]; rfl, hb⟩
  show (m.staScreenDescriptors.modify _ _)[_]? = _
  have hget : m.staScreenDescriptors[UI_SCREEN_SLOT_INDEX .audioSrcInfo]? = some d := hslot
  rw [List.getElem?_modify_eq, hget]
  rfl

/-- A deletion only takes root objects away. -/
theorem UIScreenManager.Recreates.delete (h : m.Recreates) (o : Option Nat) :
    (vDelete_ScreenOnExit m o).Recreates := by
  unfold vDelete_ScreenOnExit
  split
  · exact h
  next i =>
  split
  · exact h
  split
  · exact h
  by_cases hi : i = UI_SCREEN_SLOT_INDEX .audioSrcInfo
  · rw [hi]
    exact h.setRoot_self fun _ => rfl
  · exact h.setRoot_ne hi false

/-- The active source screen may have its root object. -/
theorem UIScreenManager.Recreates.active_self (h : m.Recreates) :
    ({ m with pstActiveDescriptor := some (UI_SCREEN_SLOT_INDEX .audioSrcInfo) } :
      UIScreenManager).Recreates := by
  obtain ⟨d, r, hslot, hcreate, hdelete, hruntime, -⟩ := h
  exact ⟨d, r, hslot, hcreate, hdelete, hruntime, fun hne => absurd rfl hne⟩

/-- The end of an activation: the new screen is active, and the previous one deleted. -/
theorem UIScreenManager.Recreates.enter (h : m.Recreates) (i : Nat) :
    (vDelete_ScreenOnExit { m with pstActiveDescriptor := some i }
      m.pstActiveDescriptor).Recreates := by
  by_cases hi : i = UI_SCREEN_SLOT_INDEX .audioSrcInfo
  · rw [hi]
    exact h.active_self.delete _
  · obtain ⟨d, r, hslot, hcreate, hdelete, hruntime, hroot⟩ := h
    by_cases hactive : m.pstActiveDescriptor = some (UI_SCREEN_SLOT_INDEX .audioSrcInfo)
    · -- the source screen is the previous one: its root object is the one deleted
      have hget : m.staScreenDescriptors[UI_SCREEN_SLOT_INDEX .audioSrcInfo]? = some d := hslot
      refine ⟨{ d with pstScreenRuntime := d.pstScreenRuntime.map fun _ => ⟨false⟩ }, ⟨false⟩, ?_,
        hcreate, hdelete, by rw [hruntime]; rfl, fun _ => rfl⟩
      rw [hactive]
      unfold vDelete_ScreenOnExit
      dsimp only
      rw [hget]
      dsimp only
      rw [if_neg (by rw [hdelete]; exact Bool.true_eq_false.mp)]
      show (m.staScreenDescriptors.modify _ _)[_]? = _
      rw [List.getElem?_modify_eq, hget]
      rfl
    · have hentered : ({ m with pstActiveDescriptor := some i } : UIScreenManager).Recreates :=
        ⟨d, r, hslot, hcreate, hdelete, hruntime, fun _ => hroot hactive⟩
      exact hentered.delete _

/-- An activation, where the creation of the source screen leaves no root object unless
it succeeds. -/
theorem UIScreenManager.Recreates.activate (h : m.Recreates) (i : Nat) {created : CreateResult}
    (hcreated : i = UI_SCREEN_SLOT_INDEX .audioSrcInfo → d.pfCreate = true →
      d.pstScreenRuntime = some ⟨false⟩ → created.bResult = created.pstRootObj) :
    (Lvgl.activate m i d created).1.Recreates := by
  unfold Lvgl.activate
  split
  · exact h
  split
  · exact h
  next r hruntime =>
  dsimp only
  split
  · exact h.enter i
  next hroot =>
  split
  · exact h
  next hcreate =>
  by_cases hi : i = UI_SCREEN_SLOT_INDEX .audioSrcInfo
  · have hsame : created.bResult = created.pstRootObj := by
      refine hcreated hi (Bool.of_not_eq_false hcreate) ?_
      rw [hruntime]
      exact congrArg (fun b => some (UIScreenRuntime.mk b)) (Bool.of_not_eq_true hroot)
    split
    · next hfails =>
      rw [hi]
      exact h.setRoot_self fun _ => hsame ▸ hfails
    split
    · next hnone =>
      rw [hi]
      exact h.setRoot_self fun _ => hnone
    · rw [hi]
      exact (h.active_self.setRoot_self fun hne => absurd rfl hne).delete _
  · have hset := h.setRoot_ne hi created.pstRootObj
    split
    · exact hset
    split
    · exact hset
    · exact hset.enter i

/-- The creation of the source screen leaves a root object exactly if it succeeds. -/
theorem bCreate_root (c : AudioSrcScreenContext) (cenv : CreateEnv) :
    (bCreate_AudioSrcInfoScreen false c cenv).2.2 = (bCreate_AudioSrcInfoScreen false c cenv).1 := by
  unfold bCreate_AudioSrcInfoScreen
  split
  · rfl
  split
  · rfl
  rw [if_neg Bool.false_ne_true]
  split
  · rfl
  · rfl

/-- No other id leads to the slot of the source screen. -/
theorem slot_index_source (h : UI_SCREEN_SLOT_INDEX eId = UI_SCREEN_SLOT_INDEX .audioSrcInfo) :
    eId = .audioSrcInfo := by
  revert h
  cases eId <;> decide

theorem recreates_step (h : s.manager.Recreates) (a : ScreenStep) :
    (s.step a).manager.Recreates := by
  cases a with
  | rotate iDetents t =>
      show (SourceScreen.manager (if s.Active then _ else s)).Recreates
      split
      · exact h
      · exact h
  | tick env =>
      show (SourceScreen.manager (if s.Active then _ else s)).Recreates
      split
      · exact h
      · exact h
  | activate eId env =>
      show (s.activate eId env).manager.Recreates
      unfold SourceScreen.activate
      split
      · exact h
      next d _ =>
      dsimp only
      split
      · exact h
      have hmanager : (Lvgl.activate s.manager (UI_SCREEN_SLOT_INDEX eId) d
          (s.create eId d env).2).1.Recreates := by
        refine h.activate _ fun hindex hcreate hruntime => ?_
        have hcreates : SourceScreen.Creates eId d := ⟨slot_index_source hindex, hruntime, hcreate⟩
        unfold SourceScreen.create
        rw [if_pos hcreates]
        exact bCreate_root s.context env.create
      split
      · exact hmanager
      · exact hmanager

/-! ## §6. Runs. -/

/-- **The volume that is shown stays pending**: in every run that creates the source
screen only while nothing is to be saved, the context is dirty with the last volume shown
until a save of it succeeds, and the next entry saves that volume; a step that creates the
screen before loses it. -/
theorem volume_retained (s : SourceScreen) :
    (sourceSystem.ReachableVia SourceScreen.KeepsContext s → s.Retains ∧ s.Retries)
      ∧ ∀ a, ¬ s.KeepsContext a → ¬ (s.step a).Retains := by
  constructor
  · intro hreach
    have hretains : s.Retains := by
      refine TransSys.ReachableVia.invariant (I := SourceScreen.Retains) ?_ ?_ hreach
      · intro s hinit
        rw [show s = .init from hinit]
        exact .none _
      · intro s a s' hs hkeep hstep
        rw [show s' = s.step a from hstep]
        exact retains_step hs hkeep
    exact ⟨hretains, fun env eSrcId uiVolume hp => retries_enter hretains hp env⟩
  · intro a h
    exact lost_step h

/-- The retry of `vEnter_AudioSrcInfoScreen` is never reached: in every run, an entry of
the screen with a volume that its exit could not save loses the volume. -/
theorem reentry_loses (h : sourceSystem.Reachable s) (hinactive : ¬ s.Active)
    (hpending : pending s.log ≠ none)
    (hview : ∃ stSelected, env.create.selected = some stSelected
      ∧ pstSelect_AudioSrcView stSelected.eSrcType = true) :
    ¬ (s.step (.activate .audioSrcInfo env)).Retains := by
  have hroot : s.manager.Recreates := by
    refine TransSys.Reachable.invariant (I := fun s => s.manager.Recreates) ?_ ?_ h
    · intro s hinit
      rw [show s = .init from hinit]
      exact .init
    · intro s a s' hs hstep
      rw [show s' = s.step a from hstep]
      exact recreates_step hs a
  obtain ⟨d, ⟨pstRootObj⟩, hslot, hcreate, -, hruntime, hnone⟩ := hroot
  obtain rfl : pstRootObj = false := hnone hinactive
  refine lost_step fun hkeep => hpending (hkeep ?_)
  exact ⟨d, hslot, hinactive, ⟨rfl, hruntime, hcreate⟩, hview⟩

/-! ## §7. Failing saves. -/

/-- A wired source with volume 40. -/
def wiredSource : AudioSourceConfig where
  eSrcId := 1
  eSrcType := .wired
  caSrcName := Vector.replicate _ 0
  bIsActive := true
  bIsMute := false
  bIsSelected := true
  uiVolume := 40

/-- An activation where the source is `wiredSource`, every screen can be created, and the
saves fail. -/
def wiredEnv : ActivateEnv where
  create := ⟨some wiredSource, true⟩
  created := ⟨true, true⟩
  uiExitTime_ms := 2000
  iExitResult := -5
  enter := ⟨3000, -5, true, some wiredSource, 3000⟩

/-- The screen is entered, and the encoder turned by five detents. -/
def turned : SourceScreen :=
  [ScreenStep.activate .audioSrcInfo wiredEnv, .rotate 5 1000].foldl SourceScreen.step .init

theorem keepsContext_rotate (s : SourceScreen) (iDetents : Int) (t : UInt32) :
    s.KeepsContext (.rotate iDetents t) := False.elim

theorem keepsContext_tick (s : SourceScreen) (env : RunEnv) : s.KeepsContext (.tick env) :=
  False.elim

theorem turned_reachable : sourceSystem.ReachableVia SourceScreen.KeepsContext turned := by
  have hentered : sourceSystem.ReachableVia SourceScreen.KeepsContext
      (SourceScreen.init.step (.activate .audioSrcInfo wiredEnv)) :=
    .step (.init rfl) (fun _ => rfl) rfl
  exact .step hentered (keepsContext_rotate _ 5 1000) rfl

/-- A tick that cannot save volume 45. -/
theorem volume_retained_tick :
    ((turned.step (.tick ⟨2000, -5, 2000, false, false, 2000⟩)).Retains
      ∧ (turned.step (.tick ⟨2000, -5, 2000, false, false, 2000⟩)).Retries)
      ∧ pending (turned.step (.tick ⟨2000, -5, 2000, false, false, 2000⟩)).log = some (1, 45) :=
  ⟨(volume_retained _).1 (.step turned_reachable (keepsContext_tick _ _) rfl), by decide⟩

/-- The exit to the source selection and back, with the save failing at the exit. -/
def reentered : SourceScreen :=
  [ScreenStep.activate .sourceSelect wiredEnv, .activate .audioSrcInfo wiredEnv].foldl
    SourceScreen.step turned

/-- The screen shows the stored volume 40 again, volume 45 is not saved and is not tried. -/
theorem not_volume_retained :
    ¬ ∀ s, sourceSystem.Reachable s → s.Retains ∧ s.Retries := by
  intro h
  have hturned : sourceSystem.Reachable turned :=
    TransSys.Reachable.foldl (fun _ _ => rfl) (.init rfl) _
  have hreach : sourceSystem.Reachable reentered :=
    TransSys.Reachable.foldl (fun _ _ => rfl) hturned _
  have hpending : pending reentered.log = some (1, 45) := by decide
  have hdirty := ((h reentered hreach).1 1 45 hpending).1
  have hclean : reentered.context.bIsVolumeDirty = false := by decide
  rw [hclean] at hdirty
  cases hdirty

end WallController.Lvgl
