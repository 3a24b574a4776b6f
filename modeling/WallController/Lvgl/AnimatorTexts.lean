/-
  WallController.Lvgl.AnimatorTexts
  ────────────────────────────────
  **WHAT THE ANIMATOR SHOWS.**

  `Stage` says what the variables hold at each place of `vStop_TextAnimator`,
  `Live` what the callback finds as long as its pointer is not cleared, and
  `Flight` what it has loaded before it shows a text.  In every interleaving the
  index stays inside the array, there is at most one timer, and none once the
  screen is left.  The texts come in their order, but the last one before a stop
  may be the first of the array: `vStop_TextAnimator` clears the index without the
  mutex, and the callback may load it after that.

  The pointer is not safe either, for the same reason.  Where it is not cleared
  between the callback's check and its loads, nothing is called through a null
  pointer, and every text comes in its order (`no_null_call`).
-/
import WallController.Lvgl.TextAnimator

namespace WallController.Lvgl.Animator

open WallController.Lib

/-! ## §1. What the log says. -/

/-- The texts of the last start. -/
def textsOf : List Event → List String
  | [] => []
  | .started texts :: _ => texts
  | .shown _ :: log => textsOf log
  | .stopped :: log => textsOf log

/-- The animator has been started, and not stopped since. -/
def running : List Event → Bool
  | [] => false
  | .started _ :: _ => true
  | .shown _ :: log => running log
  | .stopped :: _ => false

/-- The number of texts since the last start. -/
def shownSince : List Event → Nat
  | [] => 0
  | .started _ :: _ => 0
  | .shown _ :: log => shownSince log + 1
  | .stopped :: log => shownSince log

/-- Between a start and its stop the texts come round in their order, and no text outside;
the last one before a stop may be the first of the array.  With `bStopping` the newest text
may be the last one. -/
def Faithful : Bool → List Event → Prop
  | _, [] => True
  | _, .started _ :: log => running log = false ∧ Faithful false log
  | bStopping, .shown text :: log =>
    running log = true ∧
      ((textsOf log)[shownSince log % (textsOf log).length]? = some text ∨
        (bStopping = true ∧ (textsOf log)[0]? = some text)) ∧
      Faithful false log
  | _, .stopped :: log => running log = true ∧ Faithful true log

theorem Faithful.mono {b b' : Bool} {log : List Event} (h : Faithful b log)
    (hb : b = true → b' = true) : Faithful b' log := by
  cases log with
  | nil => trivial
  | cons event log =>
    cases event with
    | started texts => exact h
    | shown text => exact ⟨h.1, h.2.1.imp_right fun hfirst => ⟨hb hfirst.1, hfirst.2⟩, h.2.2⟩
    | stopped => exact h

/-- The index after the next text. -/
theorem next_index {n c : Nat} (hn : 0 < n) (hc : 0 < c) :
    n % c = if (n - 1) % c + 1 < c then (n - 1) % c + 1 else 0 := by
  have hsucc : n % c = ((n - 1) % c + 1) % c := by
    rw [Nat.mod_add_mod]
    congr 1
    omega
  have hlt := Nat.mod_lt (n - 1) hc
  rw [hsucc]
  split
  · next h => exact Nat.mod_eq_of_lt h
  · next h =>
    have heq : (n - 1) % c + 1 = c := by omega
    rw [heq, Nat.mod_self]

/-- `vStop_TextAnimator` has cleared the index, and not shown the empty text yet. -/
def UiPc.late : UiPc → Bool
  | .clearingCount _ _ | .lowering _ _ | .deleting _ _ | .notifying _ => true
  | _ => false

namespace TextAnimator

/-! ## §2. The invariant. -/

/-- What the pointers, the flag, the timers and the log are. -/
structure At (s : TextAnimator) (bTimer bFn bFlag : Bool) (n : Nat) (bRun : Bool) : Prop where
  timer : s.pstLoadingTextTimer = bTimer
  fn : s.TextAnimatorCallback_Fn = bFn
  flag : s.bIsAnimatorRunning = bFlag
  timers : s.timers = n
  run : running s.log = bRun

/-- What they are at each place of the UI thread. -/
def Stage (s : TextAnimator) : Prop :=
  match s.ui with
  | .outside =>
    s.At s.bIsAnimatorRunning s.bIsAnimatorRunning s.bIsAnimatorRunning s.bIsAnimatorRunning.toNat
        s.bIsAnimatorRunning ∧
      (s.bIsAnimatorRunning = true → s.bAnimationInProgress = true) ∧
      (s.active = false → s.bIsAnimatorRunning = false)
  | .stopping =>
    s.At s.bIsAnimatorRunning s.bIsAnimatorRunning s.bIsAnimatorRunning s.bIsAnimatorRunning.toNat
      s.bIsAnimatorRunning
  | .copyingTimer => s.At true true true 1 true
  | .copyingFn pstTimer => pstTimer = true ∧ s.At true true true 1 true
  | .clearingTimer pstTimer pfCallback =>
    pstTimer = true ∧ pfCallback = true ∧ s.At true true true 1 true
  | .clearingFn pstTimer pfCallback =>
    pstTimer = true ∧ pfCallback = true ∧ s.At false true true 1 true
  | .clearingIndex pstTimer pfCallback | .clearingCount pstTimer pfCallback
  | .lowering pstTimer pfCallback =>
    pstTimer = true ∧ pfCallback = true ∧ s.At false false true 1 true
  | .deleting pstTimer pfCallback =>
    pstTimer = true ∧ pfCallback = true ∧ s.At false false false 1 true
  | .notifying pfCallback => pfCallback = true ∧ s.At false false false 0 true
  | .stopped => s.At false false false 0 false

/-- The index is inside the array wherever it is used. -/
def IndexOk (s : TextAnimator) : Prop :=
  s.uiMaxAnimationCount ≤ 4 ∧
    match s.tick with
    | none | some .called | some .checked | some .loading | some (.pointerLoaded _)
    | some .counting => s.uiLoadingTextIndex < 4
    | some (.indexLoaded uiIndex) | some (.calling _ uiIndex) | some (.showing uiIndex)
    | some (.storing uiIndex) => uiIndex < 4 ∧ s.uiLoadingTextIndex < 4
    | some .comparing | some .wrapping => s.uiLoadingTextIndex ≤ 4
    | some (.comparingCount uiIndex) => uiIndex ≤ 4 ∧ s.uiLoadingTextIndex ≤ uiIndex
    | some (.comparingIndex uiCount) => uiCount ≤ 4 ∧ s.uiLoadingTextIndex ≤ 4

/-- The index of the text that comes next. -/
def next (s : TextAnimator) : Nat := shownSince s.log % s.caAnimatorStrings.length

/-- Where the index stands while it is not cleared, after so many texts of `c`. -/
def IndexAt (s : TextAnimator) (n c : Nat) : Prop :=
  match s.tick with
  | none | some .called | some .checked | some .loading | some (.pointerLoaded _) =>
    s.uiLoadingTextIndex = n % c
  | some (.indexLoaded uiIndex) | some (.calling _ uiIndex) | some (.showing uiIndex) =>
    uiIndex = n % c ∧ s.uiLoadingTextIndex = n % c
  | some .counting => 0 < n ∧ s.uiLoadingTextIndex = (n - 1) % c
  | some (.storing uiIndex) => 0 < n ∧ uiIndex = (n - 1) % c
  | some .comparing => 0 < n ∧ s.uiLoadingTextIndex = (n - 1) % c + 1
  | some (.comparingCount uiIndex) =>
    0 < n ∧ uiIndex = (n - 1) % c + 1 ∧ s.uiLoadingTextIndex = uiIndex
  | some (.comparingIndex uiCount) =>
    0 < n ∧ uiCount = c ∧ s.uiLoadingTextIndex = (n - 1) % c + 1
  | some .wrapping => n % c = 0

/-- What the callback finds while its pointer is not cleared. -/
structure Live (s : TextAnimator) : Prop where
  texts : textsOf s.log = s.caAnimatorStrings
  count : s.uiMaxAnimationCount = s.caAnimatorStrings.length
  pos : 0 < s.caAnimatorStrings.length
  index : s.IndexAt (shownSince s.log) s.caAnimatorStrings.length
  faithful : Faithful false s.log

/-- The texts are those of the last start, and have come in their order. -/
structure Airing (s : TextAnimator) : Prop where
  texts : textsOf s.log = s.caAnimatorStrings
  pos : 0 < s.caAnimatorStrings.length
  run : running s.log = true
  faithful : Faithful false s.log

/-- An index that is the next one, or that has been cleared. -/
def Loadable (s : TextAnimator) (uiIndex : Nat) : Prop :=
  uiIndex = s.next ∨ (uiIndex = 0 ∧ s.ui.late = true)

/-- What the callback has between its check and its text. -/
def Flight (s : TextAnimator) : Prop :=
  match s.tick with
  | some .checked | some .loading => s.Airing ∧ s.Loadable s.uiLoadingTextIndex
  | some (.pointerLoaded pfCallback) =>
    s.Airing ∧ s.Loadable s.uiLoadingTextIndex ∧
      (pfCallback = false → s.TextAnimatorCallback_Fn = false)
  | some (.indexLoaded uiIndex) | some (.showing uiIndex) => s.Airing ∧ s.Loadable uiIndex
  | some (.calling pfCallback uiIndex) =>
    s.Airing ∧ s.Loadable uiIndex ∧ (pfCallback = false → s.TextAnimatorCallback_Fn = false)
  | none | some .called | some .counting | some (.storing _) | some .comparing
  | some (.comparingCount _) | some (.comparingIndex _) | some .wrapping => True

structure Inv (s : TextAnimator) : Prop where
  stage : s.Stage
  index : s.IndexOk
  live : s.TextAnimatorCallback_Fn = true → s.Live
  flight : s.Flight
  faithful : Faithful s.ui.late s.log
  ticking : s.tick ≠ none → 0 < s.timers
  inactive : s.active = false → s.ui = .outside
  fault : s.fault = true → s.TextAnimatorCallback_Fn = false ∧ s.timers = 1

variable {s s' : TextAnimator}

theorem Inv.init : TextAnimator.init.Inv where
  stage := ⟨⟨rfl, rfl, rfl, rfl, rfl⟩, fun h => absurd h (by decide), fun _ => rfl⟩
  index := ⟨Nat.zero_le _, Nat.zero_lt_succ 3⟩
  live h := absurd h (by decide)
  flight := trivial
  faithful := trivial
  ticking h := absurd rfl h
  inactive _ := rfl
  fault h := absurd h (by decide)

/-! ## §3. The places. -/

/-- What follows from the stage alone. -/
structure Facts (s : TextAnimator) : Prop where
  timers : s.timers ≤ 1
  fn : s.TextAnimatorCallback_Fn = true → s.timers = 1
  run : s.timers = 1 → running s.log = true

theorem At.facts {bTimer bFn bFlag : Bool} {n : Nat} {bRun : Bool}
    (h : s.At bTimer bFn bFlag n bRun)
    (hn : n ≤ 1) (hfn : bFn = true → n = 1) (hrun : n = 1 → bRun = true) : s.Facts where
  timers := by rw [h.timers]; exact hn
  fn hf := by rw [h.timers]; exact hfn (h.fn.symm.trans hf)
  run ht := by rw [h.run]; exact hrun (h.timers.symm.trans ht)

theorem At.facts_of_flag {b : Bool} (h : s.At b b b b.toNat b) : s.Facts := by
  cases b with
  | true => exact h.facts (by decide) (by decide) (by decide)
  | false => exact h.facts (by decide) (by decide) (by decide)

/-- The stage of a place, where the place is known. -/
theorem Inv.stage_at (h : s.Inv) {ui : UiPc} (hui : s.ui = ui) :
    ({ s with ui := ui } : TextAnimator).Stage := by
  obtain rfl := hui
  exact h.stage

theorem Inv.facts (h : s.Inv) : s.Facts := by
  cases hui : s.ui with
  | outside =>
    have hat := (h.stage_at hui).1
    exact At.facts_of_flag ⟨hat.timer, hat.fn, hat.flag, hat.timers, hat.run⟩
  | stopping =>
    have hat := h.stage_at hui
    exact At.facts_of_flag ⟨hat.timer, hat.fn, hat.flag, hat.timers, hat.run⟩
  | copyingTimer =>
    have hat := h.stage_at hui
    exact At.facts ⟨hat.timer, hat.fn, hat.flag, hat.timers, hat.run⟩
      (by decide) (by decide) (by decide)
  | copyingFn =>
    have hat := (h.stage_at hui).2
    exact At.facts ⟨hat.timer, hat.fn, hat.flag, hat.timers, hat.run⟩
      (by decide) (by decide) (by decide)
  | clearingTimer | clearingFn | clearingIndex | clearingCount | lowering | deleting =>
    have hat := (h.stage_at hui).2.2
    exact At.facts ⟨hat.timer, hat.fn, hat.flag, hat.timers, hat.run⟩
      (by decide) (by decide) (by decide)
  | notifying =>
    have hat := (h.stage_at hui).2
    exact At.facts ⟨hat.timer, hat.fn, hat.flag, hat.timers, hat.run⟩
      (by decide) (by decide) (by decide)
  | stopped =>
    have hat := h.stage_at hui
    exact At.facts ⟨hat.timer, hat.fn, hat.flag, hat.timers, hat.run⟩
      (by decide) (by decide) (by decide)

/-- A smaller index, and a smaller count. -/
theorem IndexOk.lower (h : s.IndexOk) (htick : s'.tick = s.tick)
    (hindex : s'.uiLoadingTextIndex ≤ s.uiLoadingTextIndex)
    (hcount : s'.uiMaxAnimationCount ≤ s.uiMaxAnimationCount) : s'.IndexOk := by
  obtain ⟨hmax, hat⟩ := h
  refine ⟨Nat.le_trans hcount hmax, ?_⟩
  rw [htick]
  cases ht : s.tick with
  | none =>
    rw [ht] at hat
    exact Nat.lt_of_le_of_lt hindex hat
  | some pc =>
    rw [ht] at hat
    cases pc with
    | called | checked | loading | pointerLoaded | counting => exact Nat.lt_of_le_of_lt hindex hat
    | indexLoaded | calling | showing | storing => exact ⟨hat.1, Nat.lt_of_le_of_lt hindex hat.2⟩
    | comparing | wrapping => exact Nat.le_trans hindex hat
    | comparingCount | comparingIndex => exact ⟨hat.1, Nat.le_trans hindex hat.2⟩

/-- A step that keeps the texts and the log, and keeps the index or clears it late. -/
theorem Flight.keep (h : s.Flight) (htick : s'.tick = s.tick)
    (hstrings : s'.caAnimatorStrings = s.caAnimatorStrings) (hlog : s'.log = s.log)
    (hlate : s.ui.late = true → s'.ui.late = true)
    (hindex : s'.uiLoadingTextIndex = s.uiLoadingTextIndex ∨
      (s'.uiLoadingTextIndex = 0 ∧ s'.ui.late = true))
    (hfn : s.TextAnimatorCallback_Fn = false → s'.TextAnimatorCallback_Fn = false) : s'.Flight := by
  have hairing : s.Airing → s'.Airing := by
    intro ha
    refine ⟨?_, ?_, ?_, ?_⟩
    · rw [hlog, hstrings]
      exact ha.texts
    · rw [hstrings]
      exact ha.pos
    · rw [hlog]
      exact ha.run
    · rw [hlog]
      exact ha.faithful
  have hloaded : ∀ {uiIndex}, s.Loadable uiIndex → s'.Loadable uiIndex := by
    intro uiIndex hl
    unfold Loadable next at *
    rw [hlog, hstrings]
    exact hl.imp_right fun hcleared => ⟨hcleared.1, hlate hcleared.2⟩
  have hload : s.Loadable s.uiLoadingTextIndex → s'.Loadable s'.uiLoadingTextIndex := by
    intro hl
    rcases hindex with heq | hcleared
    · rw [heq]
      exact hloaded hl
    · exact Or.inr hcleared
  unfold Flight at *
  rw [htick]
  cases ht : s.tick with
  | none => trivial
  | some pc =>
    rw [ht] at h
    cases pc with
    | checked | loading => exact ⟨hairing h.1, hload h.2⟩
    | pointerLoaded => exact ⟨hairing h.1, hload h.2.1, fun hp => hfn (h.2.2 hp)⟩
    | indexLoaded | showing => exact ⟨hairing h.1, hloaded h.2⟩
    | calling => exact ⟨hairing h.1, hloaded h.2.1, fun hp => hfn (h.2.2 hp)⟩
    | called | counting | storing | comparing | comparingCount | comparingIndex | wrapping =>
      trivial

/-! ## §4. The UI thread. -/

/-- A step of the UI thread that shows nothing. -/
theorem Inv.move (h : s.Inv) (hstage : s'.Stage) (htick : s'.tick = s.tick)
    (hstrings : s'.caAnimatorStrings = s.caAnimatorStrings)
    (hindex : s'.uiLoadingTextIndex = s.uiLoadingTextIndex ∨
      (s'.uiLoadingTextIndex = 0 ∧ s'.ui.late = true))
    (hcount : s'.uiMaxAnimationCount ≤ s.uiMaxAnimationCount)
    (hfn : s.TextAnimatorCallback_Fn = false → s'.TextAnimatorCallback_Fn = false)
    (hlate : s.ui.late = true → s'.ui.late = true)
    (hlive : s'.TextAnimatorCallback_Fn = true → s'.Live) (hlog : s'.log = s.log)
    (hticking : s.tick ≠ none → 0 < s'.timers) (hinactive : s'.active = false → s'.ui = .outside)
    (hfault : s'.fault = false) : s'.Inv where
  stage := hstage
  index := by
    refine h.index.lower htick ?_ hcount
    rcases hindex with heq | ⟨hzero, -⟩
    · exact Nat.le_of_eq heq
    · rw [hzero]
      exact Nat.zero_le _
  live := hlive
  flight := h.flight.keep htick hstrings hlog hlate hindex hfn
  faithful := by
    rw [hlog]
    exact h.faithful.mono hlate
  ticking ht := hticking (by rw [← htick]; exact ht)
  inactive := hinactive
  fault hf := absurd (hfault.symm.trans hf) (by decide)

/-- What the callback finds has not changed. -/
theorem Live.congr (h : s.Live) (htick : s'.tick = s.tick)
    (hindex : s'.uiLoadingTextIndex = s.uiLoadingTextIndex)
    (hcount : s'.uiMaxAnimationCount = s.uiMaxAnimationCount)
    (hstrings : s'.caAnimatorStrings = s.caAnimatorStrings) (hlog : s'.log = s.log) : s'.Live where
  texts := by rw [hlog, hstrings]; exact h.texts
  count := by rw [hcount, hstrings]; exact h.count
  pos := by rw [hstrings]; exact h.pos
  index := by
    have hat := h.index
    unfold IndexAt at hat ⊢
    rw [htick, hindex, hlog, hstrings]
    exact hat
  faithful := by rw [hlog]; exact h.faithful

theorem Inv.active_of (h : s.Inv) (hui : s.ui ≠ .outside) : s.active = true := by
  by_contra ha
  exact hui (h.inactive (Bool.eq_false_iff.mpr ha))

theorem Inv.uiStep (h : s.Inv) (hf : s.fault = false) (hst : s.uiStep = some s') : s'.Inv := by
  unfold TextAnimator.uiStep at hst
  cases hui : s.ui with
  | outside =>
    rw [hui] at hst
    exact absurd hst (by simp)
  | stopping =>
    rw [hui] at hst
    obtain rfl := Option.some.inj hst
    have hat := h.stage_at hui
    have ha := h.active_of (by rw [hui]; simp)
    refine h.move ?_ rfl rfl (Or.inl rfl) (Nat.le_refl _) id
      (fun hl => absurd (hui ▸ hl) (by simp [UiPc.late]))
      (fun hfn => (h.live hfn).congr rfl rfl rfl rfl rfl) rfl h.ticking
      (fun hn => absurd (ha.symm.trans hn) (by decide)) hf
    cases hb : s.bIsAnimatorRunning with
    | true =>
      have htimers : s.timers = 1 := hat.timers.trans (congrArg Bool.toNat hb)
      exact ⟨hat.timer.trans hb, hat.fn.trans hb, rfl, htimers, hat.run.trans hb⟩
    | false =>
      have htimers : s.timers = 0 := hat.timers.trans (congrArg Bool.toNat hb)
      exact ⟨hat.timer.trans hb, hat.fn.trans hb, rfl, htimers, hat.run.trans hb⟩
  | copyingTimer =>
    rw [hui] at hst
    obtain rfl := Option.some.inj hst
    have hat := h.stage_at hui
    have ha := h.active_of (by rw [hui]; simp)
    exact h.move ⟨hat.timer, hat.timer, hat.fn, hat.flag, hat.timers, hat.run⟩ rfl rfl (Or.inl rfl)
      (Nat.le_refl _) id (fun hl => absurd (hui ▸ hl) (by simp [UiPc.late]))
      (fun hfn => (h.live hfn).congr rfl rfl rfl rfl rfl) rfl h.ticking
      (fun hn => absurd (ha.symm.trans hn) (by decide)) hf
  | copyingFn pstTimer =>
    rw [hui] at hst
    obtain rfl := Option.some.inj hst
    obtain ⟨ht, hat⟩ := h.stage_at hui
    have ha := h.active_of (by rw [hui]; simp)
    exact h.move ⟨ht, hat.fn, hat.timer, hat.fn, hat.flag, hat.timers, hat.run⟩ rfl rfl (Or.inl rfl)
      (Nat.le_refl _) id (fun hl => absurd (hui ▸ hl) (by simp [UiPc.late]))
      (fun hfn => (h.live hfn).congr rfl rfl rfl rfl rfl) rfl h.ticking
      (fun hn => absurd (ha.symm.trans hn) (by decide)) hf
  | clearingTimer pstTimer pfCallback =>
    rw [hui] at hst
    obtain rfl := Option.some.inj hst
    obtain ⟨ht, hc, hat⟩ := h.stage_at hui
    have ha := h.active_of (by rw [hui]; simp)
    exact h.move ⟨ht, hc, rfl, hat.fn, hat.flag, hat.timers, hat.run⟩ rfl rfl (Or.inl rfl)
      (Nat.le_refl _) id (fun hl => absurd (hui ▸ hl) (by simp [UiPc.late]))
      (fun hfn => (h.live hfn).congr rfl rfl rfl rfl rfl) rfl h.ticking
      (fun hn => absurd (ha.symm.trans hn) (by decide)) hf
  | clearingFn pstTimer pfCallback =>
    rw [hui] at hst
    obtain rfl := Option.some.inj hst
    obtain ⟨ht, hc, hat⟩ := h.stage_at hui
    have ha := h.active_of (by rw [hui]; simp)
    exact h.move ⟨ht, hc, hat.timer, rfl, hat.flag, hat.timers, hat.run⟩ rfl rfl (Or.inl rfl)
      (Nat.le_refl _) (fun _ => rfl) (fun hl => absurd (hui ▸ hl) (by simp [UiPc.late]))
      (fun hfn => absurd hfn (by simp)) rfl h.ticking
      (fun hn => absurd (ha.symm.trans hn) (by decide)) hf
  | clearingIndex pstTimer pfCallback =>
    -- from here on the callback may load the index of the first text
    rw [hui] at hst
    obtain rfl := Option.some.inj hst
    obtain ⟨ht, hc, hat⟩ := h.stage_at hui
    have ha := h.active_of (by rw [hui]; simp)
    exact h.move ⟨ht, hc, hat.timer, hat.fn, hat.flag, hat.timers, hat.run⟩ rfl rfl
      (Or.inr ⟨rfl, rfl⟩) (Nat.le_refl _) id (fun _ => rfl)
      (fun hfn => absurd (hat.fn.symm.trans hfn) (by decide)) rfl h.ticking
      (fun hn => absurd (ha.symm.trans hn) (by decide)) hf
  | clearingCount pstTimer pfCallback =>
    rw [hui] at hst
    obtain rfl := Option.some.inj hst
    obtain ⟨ht, hc, hat⟩ := h.stage_at hui
    have ha := h.active_of (by rw [hui]; simp)
    exact h.move ⟨ht, hc, hat.timer, hat.fn, hat.flag, hat.timers, hat.run⟩ rfl rfl (Or.inl rfl)
      (Nat.zero_le _) id (fun _ => rfl)
      (fun hfn => absurd (hat.fn.symm.trans hfn) (by decide)) rfl h.ticking
      (fun hn => absurd (ha.symm.trans hn) (by decide)) hf
  | lowering pstTimer pfCallback =>
    rw [hui] at hst
    obtain rfl := Option.some.inj hst
    obtain ⟨ht, hc, hat⟩ := h.stage_at hui
    have ha := h.active_of (by rw [hui]; simp)
    exact h.move ⟨ht, hc, hat.timer, hat.fn, rfl, hat.timers, hat.run⟩ rfl rfl (Or.inl rfl)
      (Nat.le_refl _) id (fun _ => rfl)
      (fun hfn => absurd (hat.fn.symm.trans hfn) (by decide)) rfl h.ticking
      (fun hn => absurd (ha.symm.trans hn) (by decide)) hf
  | deleting pstTimer pfCallback =>
    rw [hui] at hst
    obtain ⟨rfl, hc, hat⟩ := h.stage_at hui
    have ha := h.active_of (by rw [hui]; simp)
    dsimp only at hst
    split at hst
    · exact absurd hst (by simp)
    · next hfree =>
      obtain rfl := Option.some.inj hst
      have hnone : s.tick = none := by
        by_contra hne
        exact hfree ⟨rfl, Option.isSome_iff_ne_none.mpr hne⟩
      have htimers : s.timers - 1 = 0 := by
        have hone : s.timers = 1 := hat.timers
        omega
      exact h.move ⟨hc, hat.timer, hat.fn, hat.flag, htimers, hat.run⟩ rfl rfl (Or.inl rfl)
        (Nat.le_refl _) id (fun _ => rfl)
        (fun hfn => absurd (hat.fn.symm.trans hfn) (by decide)) rfl
        (fun hne => absurd hnone hne) (fun hn => absurd (ha.symm.trans hn) (by decide)) hf
  | notifying pfCallback =>
    rw [hui] at hst
    obtain rfl := Option.some.inj hst
    obtain ⟨rfl, hat⟩ := h.stage_at hui
    have ha := h.active_of (by rw [hui]; simp)
    have hzero : s.timers = 0 := hat.timers
    have hnone : s.tick = none := by
      by_contra hne
      have hpos := h.ticking hne
      omega
    have hflight : TextAnimator.Flight { s with log := .stopped :: s.log, ui := .stopped } := by
      unfold Flight
      simp only [hnone]
    have hfaithful := h.faithful
    rw [hui] at hfaithful
    refine ⟨⟨hat.timer, hat.fn, hat.flag, hzero, rfl⟩, h.index, ?_, hflight, ⟨hat.run, hfaithful⟩,
      h.ticking, ?_, ?_⟩
    · exact fun hfn => absurd (hat.fn.symm.trans hfn) (by decide)
    · exact fun hn => absurd (ha.symm.trans hn) (by decide)
    · exact fun hfault => absurd (hf.symm.trans hfault) (by decide)
  | stopped =>
    rw [hui] at hst
    obtain rfl := Option.some.inj hst
    have hat := h.stage_at hui
    have hflag : s.bIsAnimatorRunning = false := hat.flag
    refine h.move ?_ rfl rfl (Or.inl rfl) (Nat.le_refl _) id
      (fun hl => absurd (hui ▸ hl) (by simp [UiPc.late]))
      (fun hfn => absurd (hat.fn.symm.trans hfn) (by decide)) rfl h.ticking (fun _ => rfl) hf
    refine ⟨?_, fun hb => absurd (hflag.symm.trans hb) (by decide), fun _ => hflag⟩
    show At _ s.bIsAnimatorRunning s.bIsAnimatorRunning s.bIsAnimatorRunning _ s.bIsAnimatorRunning
    rw [hflag]
    exact ⟨hat.timer, hat.fn, rfl, hat.timers, hat.run⟩

/-! ## §5. The callbacks of the screen. -/

theorem animatedTexts_pairing :
    animatedTexts pairingArgs.pcaBaseString (pairingArgs.pcaStringAnimate.take pairingArgs.uiCount)
      = some ["", ".", "..", "..."] := by
  decide +kernel

/-- The start of the pairing texts, where nothing runs. -/
theorem start_pairing (hflag : s.bIsAnimatorRunning = false) (bTimerCreated : Bool) :
    s.vStart_TextAnimator pairingArgs bTimerCreated =
      if bTimerCreated then
        { s with
          caAnimatorStrings := ["", ".", "..", "..."]
          uiLoadingTextIndex := 0
          uiMaxAnimationCount := 4
          TextAnimatorCallback_Fn := true
          pstLoadingTextTimer := true
          timers := s.timers + 1
          bIsAnimatorRunning := true
          log := .started ["", ".", "..", "..."] :: s.log }
      else
        { s with
          caAnimatorStrings := ["", ".", "..", "..."]
          uiLoadingTextIndex := 0
          uiMaxAnimationCount := 0
          TextAnimatorCallback_Fn := false
          pstLoadingTextTimer := false
          bIsAnimatorRunning := false } := by
  have hstop : s.vStop_TextAnimator = s := by
    unfold vStop_TextAnimator
    rw [hflag]
    rfl
  unfold vStart_TextAnimator
  rw [if_neg (by decide), hstop]
  simp only [animatedTexts_pairing]
  rfl

/-- The entry, where nothing runs. -/
theorem Inv.enter (h : s.Inv) (hf : s.fault = false) (hui : s.ui = .outside) (ha : s.active = false)
    (htick : s.tick = none) (bPairing bObjectsValid bTimerCreated : Bool) :
    ({ s.vUpdate_BLuetoothConnection_UI bPairing bObjectsValid bTimerCreated with
        active := true } : TextAnimator).Inv := by
  -- outside an active screen nothing of an earlier animation is left
  obtain ⟨hat, hprogress, hinactive⟩ := h.stage_at hui
  have hflag : s.bIsAnimatorRunning = false := hinactive ha
  have hfn : s.TextAnimatorCallback_Fn = false := hat.fn.trans hflag
  have htimers : s.timers = 0 := hat.timers.trans (congrArg Bool.toNat hflag)
  have hrun : running s.log = false := hat.run.trans hflag
  have hfaithful : Faithful false s.log := by
    have hlog := h.faithful
    rwa [hui] at hlog
  have hflight : ∀ {s' : TextAnimator}, s'.tick = s.tick → s'.Flight := by
    intro s' hs'
    unfold Flight
    rw [hs', htick]
    trivial
  unfold vUpdate_BLuetoothConnection_UI
  split
  · rw [start_pairing hflag]
    split
    · -- the timer has been created
      refine ⟨?_, ?_, ?_, hflight rfl, ⟨hrun, hfaithful⟩, ?_, ?_, ?_⟩
      · show Stage _
        unfold Stage
        simp only [hui]
        exact ⟨⟨rfl, rfl, rfl, by show s.timers + 1 = 1; omega, rfl⟩, fun _ => trivial,
          fun hn => absurd hn (by decide)⟩
      · show IndexOk _
        unfold IndexOk
        simp only [htick]
        decide
      · intro _
        -- the animation starts at text 0 of the four
        refine ⟨rfl, rfl, Nat.zero_lt_succ 3, ?_, hrun, hfaithful⟩
        show IndexAt _ 0 4
        unfold IndexAt
        simp only [htick]
      · exact fun ht => absurd htick ht
      · exact fun hn => absurd hn (by simp)
      · exact fun hfault => absurd (hf.symm.trans hfault) (by decide)
    · -- there was no memory for it
      refine ⟨?_, ?_, ?_, hflight rfl, h.faithful, ?_, ?_, ?_⟩
      · show Stage _
        unfold Stage
        simp only [hui]
        exact ⟨⟨rfl, rfl, rfl, htimers, hrun⟩, fun hn => absurd hn (by decide),
          fun hn => absurd hn (by decide)⟩
      · show IndexOk _
        unfold IndexOk
        simp only [htick]
        decide
      · exact fun hn => absurd hn (by simp)
      · exact fun ht => absurd htick ht
      · exact fun hn => absurd hn (by simp)
      · exact fun hfault => absurd (hf.symm.trans hfault) (by decide)
  · refine ⟨?_, h.index, ?_, hflight rfl, h.faithful, ?_, ?_, ?_⟩
    · show Stage _
      -- a connected screen shows no animation
      unfold Stage
      simp only [hui]
      exact ⟨⟨hat.timer, hat.fn, rfl, hat.timers, hat.run⟩, hprogress,
        fun hn => absurd hn (by decide)⟩
    · exact fun hn => absurd (hfn.symm.trans hn) (by decide)
    · exact h.ticking
    · exact fun hn => absurd hn (by simp)
    · exact fun hfault => absurd (hf.symm.trans hfault) (by decide)

/-- A callback of the screen before it stops the animator. -/
theorem Inv.stopping (h : s.Inv) (hf : s.fault = false) (hui : s.ui = .outside)
    (ha : s.active = true) (leaving : Bool) :
    ({ s with ui := .stopping, leaving := leaving } : TextAnimator).Inv := by
  obtain ⟨hat, -, -⟩ := h.stage_at hui
  exact h.move ⟨hat.timer, hat.fn, rfl, hat.timers, hat.run⟩ rfl rfl (Or.inl rfl) (Nat.le_refl _) id
    (fun hl => absurd (hui ▸ hl) (by simp [UiPc.late]))
    (fun hfn => (h.live hfn).congr rfl rfl rfl rfl rfl) rfl h.ticking
    (fun hn => absurd (ha.symm.trans hn) (by decide)) hf

/-- The screen is left while no animation is in progress. -/
theorem Inv.left (h : s.Inv) (hf : s.fault = false) (hui : s.ui = .outside)
    (hprogress : s.bAnimationInProgress = false) :
    ({ s with active := false } : TextAnimator).Inv := by
  obtain ⟨hat, hin, -⟩ := h.stage_at hui
  have hflag : s.bIsAnimatorRunning = false := by
    by_contra hne
    exact absurd (hprogress.symm.trans (hin (by simpa using hne))) (by decide)
  refine h.move ?_ rfl rfl (Or.inl rfl) (Nat.le_refl _) id id
    (fun hfn => (h.live hfn).congr rfl rfl rfl rfl rfl) rfl h.ticking (fun _ => hui) hf
  show Stage _
  unfold Stage
  simp only [hui]
  exact ⟨⟨hat.timer, hat.fn, rfl, hat.timers, hat.run⟩, hin, fun _ => hflag⟩

theorem Inv.create (h : s.Inv) (hf : s.fault = false) (hui : s.ui = .outside)
    (ha : s.active = false) :
    ({ s with bAnimationInProgress := false } : TextAnimator).Inv := by
  obtain ⟨hat, -, hinactive⟩ := h.stage_at hui
  have hflag : s.bIsAnimatorRunning = false := hinactive ha
  refine h.move ?_ rfl rfl (Or.inl rfl) (Nat.le_refl _) id id
    (fun hfn => (h.live hfn).congr rfl rfl rfl rfl rfl) rfl h.ticking (fun _ => hui) hf
  show Stage _
  unfold Stage
  simp only [hui]
  exact ⟨⟨hat.timer, hat.fn, rfl, hat.timers, hat.run⟩,
    fun hb => absurd (hflag.symm.trans hb) (by decide), fun _ => hflag⟩

/-! ## §6. The callback of the timer. -/

theorem At.congr {bTimer bFn bFlag : Bool} {n : Nat} {bRun : Bool}
    (h : s.At bTimer bFn bFlag n bRun)
    (htimer : s'.pstLoadingTextTimer = s.pstLoadingTextTimer)
    (hfn : s'.TextAnimatorCallback_Fn = s.TextAnimatorCallback_Fn)
    (hflag : s'.bIsAnimatorRunning = s.bIsAnimatorRunning) (htimers : s'.timers = s.timers)
    (hrun : running s'.log = running s.log) : s'.At bTimer bFn bFlag n bRun where
  timer := htimer.trans h.timer
  fn := hfn.trans h.fn
  flag := hflag.trans h.flag
  timers := htimers.trans h.timers
  run := hrun.trans h.run

/-- The callback leaves the stage of the UI thread. -/
theorem Stage.ticked (h : s.Stage) (tick : Option TickPc) (uiIndex : Nat) (fault : Bool)
    (log : List Event) (hrun : running log = running s.log) :
    ({ s with tick := tick, uiLoadingTextIndex := uiIndex, fault := fault, log := log } :
      TextAnimator).Stage := by
  unfold Stage at h ⊢
  cases hui : s.ui with
  | outside =>
    rw [hui] at h
    exact ⟨h.1.congr rfl rfl rfl rfl hrun, h.2⟩
  | stopping | copyingTimer | stopped =>
    rw [hui] at h
    exact h.congr rfl rfl rfl rfl hrun
  | copyingFn | notifying =>
    rw [hui] at h
    exact ⟨h.1, h.2.congr rfl rfl rfl rfl hrun⟩
  | clearingTimer | clearingFn | clearingIndex | clearingCount | lowering | deleting =>
    rw [hui] at h
    exact ⟨h.1, h.2.1, h.2.2.congr rfl rfl rfl rfl hrun⟩

/-- A step of the callback that shows nothing. -/
theorem Inv.ticked (h : s.Inv) (hf : s.fault = false) (tick : Option TickPc) (uiIndex : Nat)
    (htimers : tick ≠ none → 0 < s.timers)
    (hok : ({ s with tick := tick, uiLoadingTextIndex := uiIndex } : TextAnimator).IndexOk)
    (hat : s.TextAnimatorCallback_Fn = true →
      ({ s with tick := tick, uiLoadingTextIndex := uiIndex } : TextAnimator).IndexAt
        (shownSince s.log) s.caAnimatorStrings.length)
    (hflight : ({ s with tick := tick, uiLoadingTextIndex := uiIndex } : TextAnimator).Flight) :
    ({ s with tick := tick, uiLoadingTextIndex := uiIndex } : TextAnimator).Inv where
  stage := h.stage.ticked tick uiIndex s.fault s.log rfl
  index := hok
  live hfn :=
    ⟨(h.live hfn).texts, (h.live hfn).count, (h.live hfn).pos, hat hfn, (h.live hfn).faithful⟩
  flight := hflight
  faithful := h.faithful
  ticking := htimers
  inactive := h.inactive
  fault hn := absurd (hf.symm.trans hn) (by decide)

/-- A step of the callback that shows nothing leaves the texts. -/
theorem Airing.ticked (h : s.Airing) (tick : Option TickPc) (uiIndex : Nat) :
    ({ s with tick := tick, uiLoadingTextIndex := uiIndex } : TextAnimator).Airing :=
  ⟨h.texts, h.pos, h.run, h.faithful⟩

/-- The text of an index. -/
theorem Airing.text (h : s.Airing) {uiIndex : Nat} (hlt : uiIndex < s.caAnimatorStrings.length) :
    (textsOf s.log)[uiIndex]? = some (s.caAnimatorStrings.getD uiIndex "") := by
  rw [h.texts, List.getD_eq_getElem?_getD, List.getElem?_eq_getElem hlt]
  rfl

theorem Airing.next_text (h : s.Airing) :
    (textsOf s.log)[shownSince s.log % (textsOf s.log).length]?
      = some (s.caAnimatorStrings.getD s.next "") := by
  have htext := h.text (Nat.mod_lt (shownSince s.log) h.pos)
  unfold next
  rw [← htext, h.texts]

theorem Inv.tickStep (h : s.Inv) (hf : s.fault = false) {bLeftFirst : Bool}
    (hst : s.tickStep bLeftFirst = some s') : s'.Inv := by
  unfold TextAnimator.tickStep at hst
  cases htick : s.tick with
  | none =>
    rw [htick] at hst
    exact absurd hst (by simp)
  | some pc =>
    have hpos : 0 < s.timers := h.ticking (by rw [htick]; simp)
    have hone : s.timers = 1 := by
      have hle := h.facts.timers
      omega
    obtain ⟨hmax, hok⟩ := h.index
    have hat : s.TextAnimatorCallback_Fn = true →
        s.IndexAt (shownSince s.log) s.caAnimatorStrings.length := fun hfn => (h.live hfn).index
    have hflight := h.flight
    unfold IndexAt at hat
    unfold Flight at hflight
    rw [htick] at hst hok hat hflight
    cases pc with
    | called =>
      obtain rfl := Option.some.inj hst
      refine h.ticked hf _ _ (fun _ => hpos) ?_ ?_ ?_
      · split
        · exact ⟨hmax, hok⟩
        · exact ⟨hmax, hok⟩
      · intro hfn
        rw [if_pos hfn]
        exact hat hfn
      · split
        · next hfn =>
          -- the check has found the pointer, so nothing has been cleared
          have hlive := h.live hfn
          exact ⟨⟨hlive.texts, hlive.pos, h.facts.run hone, hlive.faithful⟩, Or.inl (hat hfn)⟩
        · trivial
    | checked =>
      obtain rfl := Option.some.inj hst
      refine h.ticked hf _ _ (fun _ => hpos) ?_ ?_ ?_
      · split
        · exact ⟨hmax, hok⟩
        · exact ⟨hmax, hok⟩
      · intro hfn
        split
        · exact hat hfn
        · exact hat hfn
      · split
        · trivial
        · exact ⟨hflight.1.ticked _ _, hflight.2⟩
    | loading =>
      obtain rfl := Option.some.inj hst
      obtain ⟨hairing, hload⟩ := hflight
      cases bLeftFirst with
      | true =>
        exact h.ticked hf (some (.pointerLoaded _)) _ (fun _ => hpos) ⟨hmax, hok⟩ hat
          ⟨hairing.ticked _ _, hload, fun hfn => hfn⟩
      | false =>
        exact h.ticked hf (some (.indexLoaded _)) _ (fun _ => hpos) ⟨hmax, hok, hok⟩
          (fun hfn => ⟨hat hfn, hat hfn⟩) ⟨hairing.ticked _ _, hload⟩
    | pointerLoaded pfCallback =>
      obtain rfl := Option.some.inj hst
      obtain ⟨hairing, hload, hnull⟩ := hflight
      exact h.ticked hf _ _ (fun _ => hpos) ⟨hmax, hok, hok⟩ (fun hfn => ⟨hat hfn, hat hfn⟩)
        ⟨hairing.ticked _ _, hload, hnull⟩
    | indexLoaded uiIndex =>
      obtain rfl := Option.some.inj hst
      obtain ⟨hairing, hload⟩ := hflight
      exact h.ticked hf _ _ (fun _ => hpos) ⟨hmax, hok⟩ hat
        ⟨hairing.ticked _ _, hload, fun hfn => hfn⟩
    | calling pfCallback uiIndex =>
      obtain rfl := Option.some.inj hst
      obtain ⟨hairing, hload, hnull⟩ := hflight
      cases pfCallback with
      | true =>
        exact h.ticked hf (some (.showing _)) _ (fun _ => hpos) ⟨hmax, hok⟩ hat
          ⟨hairing.ticked _ _, hload⟩
      | false =>
        have hfn := hnull rfl
        rw [← htick]
        show ({ s with fault := true } : TextAnimator).Inv
        refine ⟨h.stage.ticked s.tick s.uiLoadingTextIndex true s.log rfl, h.index, ?_, ?_,
          h.faithful, fun _ => hpos, h.inactive, ?_⟩
        · exact fun hn => absurd (hfn.symm.trans hn) (by decide)
        · exact h.flight.keep rfl rfl rfl (fun hl => hl) (Or.inl rfl) (fun hn => hn)
        · exact fun _ => ⟨hfn, hone⟩
    | showing uiIndex =>
      obtain rfl := Option.some.inj hst
      obtain ⟨hairing, hload⟩ := hflight
      have hshown : (textsOf s.log)[shownSince s.log % (textsOf s.log).length]?
            = some (s.caAnimatorStrings.getD uiIndex "") ∨
          (s.ui.late = true ∧
            (textsOf s.log)[0]? = some (s.caAnimatorStrings.getD uiIndex "")) := by
        rcases hload with heq | ⟨hzero, hlate⟩
        · rw [heq]
          exact Or.inl hairing.next_text
        · rw [hzero]
          exact Or.inr ⟨hlate, hairing.text hairing.pos⟩
      refine ⟨h.stage.ticked _ _ _ _ rfl, ⟨hmax, hok.2⟩, ?_, trivial,
        ⟨hairing.run, hshown, hairing.faithful⟩, fun _ => hpos, h.inactive, ?_⟩
      · -- the pointer has not been cleared, and so nothing else has
        intro hfn
        have hlive := h.live hfn
        obtain ⟨hindex, hcurrent⟩ := hat hfn
        refine ⟨hlive.texts, hlive.count, hlive.pos, ⟨Nat.succ_pos _, hcurrent⟩, hairing.run,
          Or.inl ?_, hairing.faithful⟩
        rw [show uiIndex = s.next from hindex]
        exact hairing.next_text
      · exact fun hn => absurd (hf.symm.trans hn) (by decide)
    | counting =>
      obtain rfl := Option.some.inj hst
      exact h.ticked hf _ _ (fun _ => hpos) ⟨hmax, hok, hok⟩ hat trivial
    | storing uiIndex =>
      obtain rfl := Option.some.inj hst
      refine h.ticked hf _ _ (fun _ => hpos) ⟨hmax, hok.1⟩ ?_ trivial
      intro hfn
      obtain ⟨hn, hindex⟩ := hat hfn
      exact ⟨hn, congrArg (· + 1) hindex⟩
    | comparing =>
      obtain rfl := Option.some.inj hst
      cases bLeftFirst with
      | true =>
        exact h.ticked hf (some (.comparingCount _)) _ (fun _ => hpos)
          ⟨hmax, hok, Nat.le_refl _⟩ (fun hfn => ⟨(hat hfn).1, (hat hfn).2, rfl⟩) trivial
      | false =>
        exact h.ticked hf (some (.comparingIndex _)) _ (fun _ => hpos) ⟨hmax, hmax, hok⟩
          (fun hfn => ⟨(hat hfn).1, (h.live hfn).count, (hat hfn).2⟩) trivial
    | comparingIndex uiCount =>
      obtain rfl := Option.some.inj hst
      refine h.ticked hf _ _ (fun _ => hpos) ?_ ?_ ?_
      · split
        · exact ⟨hmax, hok.2⟩
        · next hlt =>
          refine ⟨hmax, ?_⟩
          show s.uiLoadingTextIndex < 4
          have hle := hok.1
          omega
      · intro hfn
        obtain ⟨hn, hcount, hcurrent⟩ := hat hfn
        have hnext := next_index hn (h.live hfn).pos
        rw [hcurrent, hcount]
        split
        · next hge =>
          rw [if_neg (by omega)] at hnext
          exact hnext
        · next hlt =>
          rw [if_pos (by omega)] at hnext
          exact hnext.symm
      · split
        · trivial
        · trivial
    | comparingCount uiIndex =>
      obtain rfl := Option.some.inj hst
      refine h.ticked hf _ _ (fun _ => hpos) ?_ ?_ ?_
      · split
        · exact ⟨hmax, Nat.le_trans hok.2 hok.1⟩
        · next hlt =>
          refine ⟨hmax, ?_⟩
          show s.uiLoadingTextIndex < 4
          have hle := hok.2
          omega
      · intro hfn
        obtain ⟨hn, hindex, hcurrent⟩ := hat hfn
        have hcount := (h.live hfn).count
        have hnext := next_index hn (h.live hfn).pos
        rw [hcurrent, hindex, hcount]
        split
        · next hge =>
          rw [if_neg (by omega)] at hnext
          exact hnext
        · next hlt =>
          rw [if_pos (by omega)] at hnext
          exact hnext.symm
      · split
        · trivial
        · trivial
    | wrapping =>
      obtain rfl := Option.some.inj hst
      refine h.ticked hf _ _ (fun hn => absurd rfl hn) ⟨hmax, Nat.zero_lt_succ 3⟩ ?_ trivial
      intro hfn
      exact (hat hfn).symm

/-! ## §7. Runs. -/

theorem Inv.step (h : s.Inv) {a : Act} (hst : s.step a = some s') : s'.Inv := by
  unfold TextAnimator.step at hst
  split at hst
  · exact absurd hst (by simp)
  · next hne =>
    have hf : s.fault = false := Bool.eq_false_iff.mpr hne
    cases a with
    | create =>
      dsimp only at hst
      split at hst
      · next hc =>
        obtain rfl := Option.some.inj hst
        exact h.create hf hc.1 hc.2
      · exact absurd hst (by simp)
    | enter bPairing bObjectsValid bTimerCreated =>
      dsimp only at hst
      split at hst
      · next hc =>
        obtain rfl := Option.some.inj hst
        exact h.enter hf hc.1 hc.2.1 hc.2.2 bPairing bObjectsValid bTimerCreated
      · exact absurd hst (by simp)
    | press bRequested =>
      dsimp only at hst
      split at hst
      · next hc =>
        obtain rfl := Option.some.inj hst
        split
        · exact h.stopping hf hc.1 hc.2 s.leaving
        · exact h
      · exact absurd hst (by simp)
    | exit =>
      dsimp only at hst
      split at hst
      · next hc =>
        obtain rfl := Option.some.inj hst
        split
        · exact h.stopping hf hc.1 hc.2 true
        · next hp => exact h.left hf hc.1 (Bool.eq_false_iff.mpr hp)
      · exact absurd hst (by simp)
    | ui => exact h.uiStep hf hst
    | expire =>
      dsimp only at hst
      split at hst
      · next hc =>
        obtain rfl := Option.some.inj hst
        obtain ⟨hmax, hok⟩ := h.index
        rw [hc.1] at hok
        refine h.ticked hf _ _ (fun _ => hc.2) ⟨hmax, hok⟩ ?_ trivial
        intro hfn
        have hat := (h.live hfn).index
        unfold IndexAt at hat
        rw [hc.1] at hat
        exact hat
      · exact absurd hst (by simp)
    | tick bLeftFirst => exact h.tickStep hf hst

theorem inv_of_reachable (hr : animatorSystem.Reachable s) : s.Inv := by
  refine hr.invariant ?_ ?_
  · intro s hinit
    rw [show s = .init from hinit]
    exact Inv.init
  · intro s a s' h hst
    exact h.step hst

end TextAnimator

/-- The pointer has been cleared, and LVGL still has the timer. -/
def UiPc.Cleared : UiPc → Prop
  | .clearingIndex _ _ | .clearingCount _ _ | .lowering _ _ | .deleting _ _ => True
  | .outside | .stopping | .copyingTimer | .copyingFn _ | .clearingTimer _ _ | .clearingFn _ _
  | .notifying _ | .stopped => False

variable {s s' : TextAnimator}

namespace TextAnimator

theorem Inv.cleared (h : s.Inv) (hfn : s.TextAnimatorCallback_Fn = false) (htimers : s.timers = 1) :
    s.ui.Cleared := by
  have hzero : s.bIsAnimatorRunning.toNat = s.timers →
      s.TextAnimatorCallback_Fn = s.bIsAnimatorRunning → False := by
    intro ht hf
    rw [← hf, hfn] at ht
    exact absurd (ht.trans htimers) (by decide)
  cases hui : s.ui with
  | outside =>
    have hat := (h.stage_at hui).1
    exact (hzero hat.timers.symm hat.fn).elim
  | stopping =>
    have hat := h.stage_at hui
    exact (hzero hat.timers.symm hat.fn).elim
  | copyingTimer =>
    have hat := h.stage_at hui
    exact absurd (hat.fn.symm.trans hfn) (by decide)
  | copyingFn =>
    have hat := (h.stage_at hui).2
    exact absurd (hat.fn.symm.trans hfn) (by decide)
  | clearingTimer | clearingFn =>
    have hat := (h.stage_at hui).2.2
    exact absurd (hat.fn.symm.trans hfn) (by decide)
  | clearingIndex | clearingCount | lowering | deleting => trivial
  | notifying =>
    have hnone : s.timers = 0 := (h.stage_at hui).2.timers
    omega
  | stopped =>
    have hnone : s.timers = 0 := (h.stage_at hui).timers
    omega

end TextAnimator

/-- **The texts come in their order**, in every interleaving of the two threads, but for the
last one before a stop, which may be the first of the array: the index is inside the array,
LVGL has one timer at most, and none once the screen is left. -/
theorem texts_in_order (hr : animatorSystem.Reachable s) :
    Faithful s.ui.late s.log ∧
      s.timers ≤ 1 ∧
      (∀ uiIndex, s.tick = some (.showing uiIndex) → uiIndex < MAX_ANIMATION_VARIANTS) ∧
      (s.active = false → s.timers = 0 ∧ s.tick = none ∧ running s.log = false) ∧
      (s.fault = true → s.ui.Cleared) := by
  have h := TextAnimator.inv_of_reachable hr
  refine ⟨h.faithful, h.facts.timers, ?_, ?_, fun hf => h.cleared (h.fault hf).1 (h.fault hf).2⟩
  · intro uiIndex htick
    have hok := h.index.2
    rw [htick] at hok
    exact hok.1
  · intro ha
    obtain ⟨hat, -, hinactive⟩ := h.stage_at (h.inactive ha)
    have hflag : s.bIsAnimatorRunning = false := hinactive ha
    have htimers : s.timers = 0 := hat.timers.trans (congrArg Bool.toNat hflag)
    refine ⟨htimers, ?_, hat.run.trans hflag⟩
    by_contra hne
    have hpos := h.ticking hne
    omega

/-- A call of the callback that nothing comes between. -/
def wholeTick : List Act := .expire :: List.replicate 10 (.tick true)

/-- The screen is entered while pairing, and two texts are shown.  It is left while the
callback has loaded the pointer for the third, and the index is cleared before its load. -/
def leftInCall : List Act :=
  [.create, .enter true true true] ++ wholeTick ++ wholeTick
    ++ [.expire, .tick true, .tick true, .tick true, .exit] ++ List.replicate 6 .ui
    ++ List.replicate 7 (.tick true) ++ List.replicate 5 .ui

/-- The last text is the first again. -/
theorem texts_in_order_left :
    ∃ s, leftInCall.foldlM TextAnimator.step .init = some s ∧
      s.log = [.stopped, .shown "", .shown ".", .shown "", .started ["", ".", "..", "..."]] ∧
      Faithful s.ui.late s.log ∧ s.timers = 0 := by
  refine ⟨_, rfl, rfl, ?_⟩
  have h := texts_in_order (TransSys.Reachable.foldlM (M := animatorSystem) (fun _ _ _ hs => hs)
    (.init rfl) leftInCall rfl)
  exact ⟨h.1, (h.2.2.2.1 rfl).1⟩

/-! ## §8. The pointer. -/

namespace TextAnimator

/-- The callback has found the pointer, and has not loaded it and the index for its call. -/
def Loading (s : TextAnimator) : Prop :=
  match s.tick with
  | some .checked | some .loading | some (.pointerLoaded _) | some (.indexLoaded _) => True
  | _ => False

instance (s : TextAnimator) : Decidable s.Loading := by
  unfold Loading
  split <;> infer_instance

/-- The UI thread does not clear the pointer between the callback's check of it and the loads
of its call. -/
def Unhurried (s : TextAnimator) (a : Act) : Prop :=
  a = .ui → s.ui = .clearingFn true true → ¬s.Loading

instance (s : TextAnimator) (a : Act) : Decidable (s.Unhurried a) :=
  inferInstanceAs (Decidable (_ → _))

/-- What the callback has loaded, once it has checked the pointer. -/
def Loaded (s : TextAnimator) : Prop :=
  match s.tick with
  | some (.pointerLoaded pfCallback) => pfCallback = true
  | some (.calling pfCallback uiIndex) => pfCallback = true ∧ uiIndex = s.next
  | some (.showing uiIndex) => uiIndex = s.next
  | _ => True

/-- What the check has found is still there at the loads. -/
structure Sound (s : TextAnimator) : Prop where
  inv : s.Inv
  loading : s.Loading → s.TextAnimatorCallback_Fn = true
  loaded : s.Loaded
  faithful : Faithful false s.log
  fault : s.fault = false

/-- A step that leaves the callback where it is. -/
theorem Sound.frame (h : s.Sound) (hinv : s'.Inv) (htick : s'.tick = s.tick)
    (hstrings : s'.caAnimatorStrings = s.caAnimatorStrings) (hlog : s'.log = s.log)
    (hfn : s.Loading → s'.TextAnimatorCallback_Fn = s.TextAnimatorCallback_Fn)
    (hfault : s'.fault = s.fault) : s'.Sound where
  inv := hinv
  loading hl := by
    have hl' : s.Loading := by
      unfold Loading at *
      rwa [htick] at hl
    exact (hfn hl').trans (h.loading hl')
  loaded := by
    have hloaded := h.loaded
    unfold Loaded next at *
    rw [htick, hlog, hstrings]
    exact hloaded
  faithful := by rw [hlog]; exact h.faithful
  fault := hfault.trans h.fault

/-- No callback runs, or it has the wrap of the index left only. -/
theorem Sound.quiet (hinv : s'.Inv) (htick : s'.tick = none ∨ s'.tick = some .wrapping)
    (hfaithful : Faithful false s'.log) (hfault : s'.fault = false) : s'.Sound where
  inv := hinv
  loading hl := by
    unfold Loading at hl
    rcases htick with htick | htick <;> rw [htick] at hl <;> exact hl.elim
  loaded := by
    unfold Loaded
    rcases htick with htick | htick <;> rw [htick] <;> trivial
  faithful := hfaithful
  fault := hfault

/-- The UI thread leaves the callback and its texts alone, clears the pointer at one place,
and logs at one place. -/
theorem uiStep_frame (hst : s.uiStep = some s') :
    s'.tick = s.tick ∧ s'.fault = s.fault ∧ s'.caAnimatorStrings = s.caAnimatorStrings ∧
      (s'.TextAnimatorCallback_Fn = s.TextAnimatorCallback_Fn ∨
        ∃ pstTimer pfCallback, s.ui = .clearingFn pstTimer pfCallback) ∧
      (s'.log = s.log ∨ ∃ pfCallback, s.ui = .notifying pfCallback) := by
  unfold TextAnimator.uiStep at hst
  cases hui : s.ui with
  | outside =>
    rw [hui] at hst
    exact absurd hst (by simp)
  | clearingFn pstTimer pfCallback =>
    rw [hui] at hst
    obtain rfl := Option.some.inj hst
    exact ⟨rfl, rfl, rfl, Or.inr ⟨pstTimer, pfCallback, rfl⟩, Or.inl rfl⟩
  | notifying pfCallback =>
    rw [hui] at hst
    obtain rfl := Option.some.inj hst
    exact ⟨rfl, rfl, rfl, Or.inl rfl, Or.inr ⟨pfCallback, rfl⟩⟩
  | deleting =>
    rw [hui] at hst
    dsimp only at hst
    split at hst
    · exact absurd hst (by simp)
    · obtain rfl := Option.some.inj hst
      exact ⟨rfl, rfl, rfl, Or.inl rfl, Or.inl rfl⟩
  | stopping | copyingTimer | copyingFn | clearingTimer | clearingIndex | clearingCount | lowering
  | stopped =>
    rw [hui] at hst
    obtain rfl := Option.some.inj hst
    exact ⟨rfl, rfl, rfl, Or.inl rfl, Or.inl rfl⟩

theorem Sound.ui (h : s.Sound) (hok : s.Unhurried .ui) (hinv : s'.Inv) (hst : s.uiStep = some s') :
    s'.Sound := by
  obtain ⟨htick, hfault, hstrings, hfn, hlog | ⟨pfCallback, hui⟩⟩ := uiStep_frame hst
  · refine h.frame hinv htick hstrings hlog (fun hl => ?_) hfault
    rcases hfn with hfn | ⟨pstTimer, pfCallback, hui⟩
    · exact hfn
    · obtain ⟨rfl, rfl, -⟩ := h.inv.stage_at hui
      exact absurd hl (hok rfl hui)
  · -- the empty text: LVGL has no timer any more
    obtain ⟨rfl, hat⟩ := h.inv.stage_at hui
    have hnone : s.tick = none := by
      by_contra hne
      have hpos := h.inv.ticking hne
      have hzero : s.timers = 0 := hat.timers
      omega
    have hrun : running s.log = true := hat.run
    refine Sound.quiet hinv (Or.inl (htick.trans hnone)) ?_ (hfault.trans h.fault)
    unfold TextAnimator.uiStep at hst
    rw [hui] at hst
    obtain rfl := Option.some.inj hst
    exact ⟨hrun, h.faithful.mono fun hn => absurd hn (by decide)⟩

theorem Sound.tick (h : s.Sound) (hinv : s'.Inv) {bLeftFirst : Bool}
    (hst : s.tickStep bLeftFirst = some s') : s'.Sound := by
  have hf := h.fault
  have hflight := h.inv.flight
  have hloaded := h.loaded
  have hloading := h.loading
  unfold TextAnimator.tickStep at hst
  unfold Flight at hflight
  unfold Loaded at hloaded
  unfold Loading at hloading
  cases htick : s.tick with
  | none =>
    rw [htick] at hst
    exact absurd hst (by simp)
  | some pc =>
    rw [htick] at hst hflight hloaded hloading
    cases pc with
    | called =>
      obtain rfl := Option.some.inj hst
      refine ⟨hinv, fun hl => ?_, ?_, h.faithful, hf⟩
      · show s.TextAnimatorCallback_Fn = true
        -- the callback stops here, unless the animation runs
        by_contra hne
        unfold Loading at hl
        rw [if_neg hne] at hl
        exact hl
      · unfold Loaded
        by_cases hfn : s.TextAnimatorCallback_Fn = true
        · simp only [if_pos hfn]
        · simp only [if_neg hfn]
    | checked =>
      -- the pointer stays set while the call is being loaded
      have hfn := hloading trivial
      obtain rfl := Option.some.inj hst
      refine ⟨hinv, fun _ => hfn, ?_, h.faithful, hf⟩
      unfold Loaded
      by_cases hcount : s.uiMaxAnimationCount = 0
      · simp only [if_pos hcount]
      · simp only [if_neg hcount]
    | loading =>
      have hfn := hloading trivial
      obtain rfl := Option.some.inj hst
      refine ⟨hinv, fun _ => hfn, ?_, h.faithful, hf⟩
      cases bLeftFirst with
      | true => exact hfn
      | false => trivial
    | pointerLoaded pfCallback =>
      have hfn := hloading trivial
      -- the index loaded is that of the text to be shown next
      have hat := (h.inv.live hfn).index
      unfold IndexAt at hat
      rw [htick] at hat
      obtain rfl := Option.some.inj hst
      exact ⟨hinv, fun hl => hl.elim, ⟨hloaded, hat⟩, h.faithful, hf⟩
    | indexLoaded uiIndex =>
      have hfn := hloading trivial
      have hat := (h.inv.live hfn).index
      unfold IndexAt at hat
      rw [htick] at hat
      obtain rfl := Option.some.inj hst
      exact ⟨hinv, fun hl => hl.elim, ⟨hfn, hat.1⟩, h.faithful, hf⟩
    | calling pfCallback uiIndex =>
      obtain rfl := Option.some.inj hst
      obtain ⟨rfl, hindex⟩ := hloaded
      exact ⟨hinv, fun hl => hl.elim, hindex, h.faithful, hf⟩
    | showing uiIndex =>
      obtain rfl := Option.some.inj hst
      obtain ⟨hairing, -⟩ := hflight
      refine ⟨hinv, fun hl => hl.elim, trivial, ⟨hairing.run, Or.inl ?_, hairing.faithful⟩, hf⟩
      -- the text shown is the one behind the last in the log
      rw [hloaded]
      exact hairing.next_text
    | counting | storing | wrapping =>
      obtain rfl := Option.some.inj hst
      exact ⟨hinv, fun hl => hl.elim, trivial, h.faithful, hf⟩
    | comparing =>
      obtain rfl := Option.some.inj hst
      cases bLeftFirst with
      | true => exact ⟨hinv, fun hl => hl.elim, trivial, h.faithful, hf⟩
      | false => exact ⟨hinv, fun hl => hl.elim, trivial, h.faithful, hf⟩
    | comparingIndex uiCount =>
      -- the count is loaded already, and the index only now
      obtain rfl := Option.some.inj hst
      refine Sound.quiet hinv ?_ h.faithful hf
      by_cases hge : s.uiLoadingTextIndex ≥ uiCount
      · exact Or.inr (if_pos hge)
      · exact Or.inl (if_neg hge)
    | comparingCount uiIndex =>
      obtain rfl := Option.some.inj hst
      refine Sound.quiet hinv ?_ h.faithful hf
      by_cases hge : uiIndex ≥ s.uiMaxAnimationCount
      · exact Or.inr (if_pos hge)
      · exact Or.inl (if_neg hge)

/-- The entry starts no callback, and logs a start at most. -/
theorem update_frame (bPairing bObjectsValid bTimerCreated : Bool)
    (hflag : s.bIsAnimatorRunning = false) :
    (s.vUpdate_BLuetoothConnection_UI bPairing bObjectsValid bTimerCreated).tick = s.tick ∧
      (s.vUpdate_BLuetoothConnection_UI bPairing bObjectsValid bTimerCreated).fault = s.fault ∧
      (Faithful false s.log → running s.log = false →
        Faithful false
          (s.vUpdate_BLuetoothConnection_UI bPairing bObjectsValid bTimerCreated).log) := by
  unfold vUpdate_BLuetoothConnection_UI
  split
  · rw [start_pairing hflag]
    split
    · exact ⟨rfl, rfl, fun hlog hrun => ⟨hrun, hlog⟩⟩
    · exact ⟨rfl, rfl, fun hlog _ => hlog⟩
  · exact ⟨rfl, rfl, fun hlog _ => hlog⟩

theorem Sound.step (h : s.Sound) {a : Act} (hok : s.Unhurried a) (hst : s.step a = some s') :
    s'.Sound := by
  have hinv := h.inv.step hst
  unfold TextAnimator.step at hst
  rw [if_neg (Bool.eq_false_iff.mp h.fault)] at hst
  cases a with
  | create =>
    dsimp only at hst
    split at hst
    · obtain rfl := Option.some.inj hst
      exact h.frame hinv rfl rfl rfl (fun _ => rfl) rfl
    · exact absurd hst (by simp)
  | enter bPairing bObjectsValid bTimerCreated =>
    dsimp only at hst
    split at hst
    · next hc =>
      obtain ⟨hui, ha, hnone⟩ := hc
      obtain rfl := Option.some.inj hst
      obtain ⟨hat, -, hinactive⟩ := h.inv.stage_at hui
      have hflag := hinactive ha
      obtain ⟨htick, hfault, hlog⟩ :=
        -- the entry logs the start of an animation at most
        update_frame (s := s) bPairing bObjectsValid bTimerCreated hflag
      exact Sound.quiet hinv (Or.inl (htick.trans hnone)) (hlog h.faithful (hat.run.trans hflag))
        (hfault.trans h.fault)
    · exact absurd hst (by simp)
  | press bRequested =>
    dsimp only at hst
    split at hst
    · obtain rfl := Option.some.inj hst
      split
      · next hp =>
        rw [if_pos hp] at hinv
        exact h.frame hinv rfl rfl rfl (fun _ => rfl) rfl
      · exact h
    · exact absurd hst (by simp)
  | exit =>
    dsimp only at hst
    split at hst
    · obtain rfl := Option.some.inj hst
      split
      · next hp =>
        rw [if_pos hp] at hinv
        exact h.frame hinv rfl rfl rfl (fun _ => rfl) rfl
      · next hp =>
        rw [if_neg hp] at hinv
        exact h.frame hinv rfl rfl rfl (fun _ => rfl) rfl
    · exact absurd hst (by simp)
  | ui => exact h.ui hok hinv hst
  | expire =>
    dsimp only at hst
    split at hst
    · obtain rfl := Option.some.inj hst
      exact ⟨hinv, fun hl => hl.elim, trivial, h.faithful, h.fault⟩
    · exact absurd hst (by simp)
  | tick bLeftFirst => exact h.tick hinv hst

end TextAnimator

/-- **No call through a null pointer**, and every text in its order, where the UI thread does
not clear the pointer between the callback's check and the loads of its call. -/
theorem no_null_call (h : animatorSystem.ReachableVia TextAnimator.Unhurried s) :
    s.fault = false ∧ Faithful false s.log := by
  have hs : s.Sound := by
    refine TransSys.ReachableVia.invariant ?_ ?_ h
    · intro s hinit
      rw [show s = .init from hinit]
      exact TextAnimator.Sound.quiet .init (Or.inl rfl) trivial rfl
    · intro s a s' hi hok hst
      exact hi.step hok hst
  exact ⟨hs.fault, hs.faithful⟩

/-- The screen is left while the callback runs, after its loads. -/
def leftBehind : List Act :=
  [.create, .enter true true true] ++ wholeTick
    ++ [.expire, .tick true, .tick true, .tick false, .tick true, .exit] ++ List.replicate 6 .ui
    ++ List.replicate 2 (.tick true) ++ List.replicate 2 .ui ++ List.replicate 4 (.tick true)

theorem no_null_call_left :
    ∃ s, leftBehind.foldlM (TransSys.guarded TextAnimator.Unhurried TextAnimator.step) .init
        = some s ∧
      s.ui = .deleting true true ∧ s.log.head? = some (.shown ".") ∧
      s.fault = false ∧ Faithful false s.log := by
  refine ⟨_, rfl, rfl, rfl, ?_⟩
  have h : animatorSystem.ReachableVia TextAnimator.Unhurried _ := TransSys.ReachableVia.foldlM
    (fun _ _ _ hs => TransSys.guarded_some hs) (.init rfl) leftBehind rfl
  exact no_null_call h

/-- The pointer is cleared after the check: the callback calls a null pointer. -/
example :
    (List.foldlM TextAnimator.step .init
      ([.create, .enter true true true, .expire, .tick true, .tick true, .exit]
        ++ List.replicate 5 .ui ++ List.replicate 3 (.tick true))).map TextAnimator.fault
      = some true := rfl

end WallController.Lvgl.Animator
