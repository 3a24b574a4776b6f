/-
  WallController.WallCtrl.Startup
  ────────────────────────────────
  **THE WAY FROM POWER-UP TO THE FIRST SCREEN.**

  The log says in which order the states are entered and what is asked of the
  UI (`InOrder`).  The clock of the state Startup wraps after 2^32 ms, which can
  delay the state Active, and never brings it too early.

  Main results:
    * `startup_in_order`: Idle, Startup, Active, with no way back; Startup follows
      its command, Active comes 3 s later at the earliest, and one screen is
      asked for.
    * `screen_of_selected`: where nobody else works on the audio sources
      meanwhile, it is the screen of the one selected source.
-/
import WallController.AudioSrc.Selection
import WallController.Lib.FocusRing
import WallController.WallCtrl.StateMachine

namespace WallController.WallCtrl

open WallController.Lib WallController.AudioSrc

/-! ## §1. What the log says. -/

/-- The states entered, newest first. -/
def entries : List Event → List WallCtrlState
  | [] => []
  | .entered eNewState _ :: log => eNewState :: entries log
  | .commanded _ :: log | .clocked _ :: log | .requested _ _ :: log => entries log

/-- When the first call in the state Startup has read the clock. -/
def clockedAt : List Event → Option Nat
  | [] => none
  | .clocked now :: _ => some now
  | .commanded _ :: log | .entered _ _ :: log | .requested _ _ :: log => clockedAt log

/-- The number of screens asked for. -/
def requests : List Event → Nat
  | [] => 0
  | .requested _ _ :: log => requests log + 1
  | .commanded _ :: log | .entered _ _ :: log | .clocked _ :: log => requests log

/-- The order of what happens. -/
def InOrder : List Event → Prop
  | [] => True
  | .commanded _ :: log => InOrder log
  | .entered eNewState now :: log =>
    InOrder log ∧
      ((eNewState = .startup ∧ entries log = [] ∧ .commanded .startup ∈ log) ∨
        (eNewState = .active ∧ entries log = [.startup] ∧
          ∃ start, clockedAt log = some start ∧ start + WALLCTRL_STARTUP_STATE_TIMEOUT_ms ≤ now))
  | .clocked _ :: log => InOrder log ∧ entries log = [.startup] ∧ clockedAt log = none
  | .requested _ _ :: log => InOrder log ∧ entries log = [.active, .startup] ∧ requests log = 0

/-! ## §2. Commands. -/

variable {crc32 : List UInt8 → UInt32} {s s' : MainLoop} {eCmd : WallCtrlCmd}

/-- A command that is taken was set, unless there is none; the other flags stay. -/
theorem takeCommand_cases (eCmds : List WallCtrlCmd) (flags : WallCtrlCmd → Bool) :
    takeCommand eCmds flags = (.none, flags) ∨
      ∃ eCmd, flags eCmd = true ∧
        takeCommand eCmds flags = (eCmd, Function.update flags eCmd false) := by
  induction eCmds with
  | nil => exact Or.inl rfl
  | cons eCmd eCmds ih =>
    unfold takeCommand
    split
    · next h => exact Or.inr ⟨eCmd, h, rfl⟩
    · exact ih

/-- Startup is taken where it was set, and stays set where another command is taken. -/
theorem eGet_WallCtrl_Command_startup (flags : WallCtrlCmd → Bool) :
    ((eGet_WallCtrl_Command flags).1 = .startup → flags .startup = true) ∧
      ((eGet_WallCtrl_Command flags).1 ≠ .startup →
        (eGet_WallCtrl_Command flags).2 .startup = flags .startup) ∧
      ((eGet_WallCtrl_Command flags).2 .startup = true → flags .startup = true) := by
  unfold eGet_WallCtrl_Command
  rcases takeCommand_cases [.none, .enterBootloader, .startup, .active] flags
    with h | ⟨eCmd, hset, h⟩
  · rw [h]
    exact ⟨fun hn => absurd hn (by simp), fun _ => rfl, id⟩
  · rw [h]
    refine ⟨?_, ?_, ?_⟩
    · intro hc
      obtain rfl : eCmd = .startup := hc
      exact hset
    · intro hc
      exact Function.update_of_ne (Ne.symm hc) ..
    · intro hflag
      by_cases hc : eCmd = .startup
      · rw [← hc]
        exact hset
      · exact (Function.update_of_ne (Ne.symm hc) ..).symm.trans hflag

/-! ## §3. The invariant. -/

namespace MainLoop

/-- What the log says in each state. -/
def Stage (s : MainLoop) : Prop :=
  match s.machine.eCurrentState with
  | .idle => entries s.log = [] ∧ clockedAt s.log = none ∧ (s.pc = .outside ∨ s.pc = .commanding)
  | .startup =>
    entries s.log = [.startup] ∧
      (s.machine.bIsFirstEntry = true → clockedAt s.log = none ∧ s.pc = .outside) ∧
      (s.machine.bIsFirstEntry = false →
        (∃ start, clockedAt s.log = some start ∧ s.uiTrigttime_ms = UInt32.ofNat start ∧
          start ≤ s.now) ∧
          (s.pc = .outside ∨ s.pc = .commanding ∨ s.pc = .deciding))
  | .bootloader => False
  | .active =>
    entries s.log = [.active, .startup] ∧ s.pc ≠ .deciding ∧
      (s.machine.bIsFirstEntry = true → requests s.log = 0 ∧ s.pc = .outside) ∧
      (s.pc ≠ .outside → s.pc ≠ .commanding → requests s.log = 0) ∧ requests s.log ≤ 1

structure Inv (s : MainLoop) : Prop where
  stage : s.Stage
  order : InOrder s.log
  set : s.machine.baWallCtrlCmds .startup = true → .commanded .startup ∈ s.log
  kept : .commanded .startup ∈ s.log → s.machine.eCurrentState = .idle →
    s.machine.baWallCtrlCmds .startup = true
  quiet : s.machine.eCurrentState ≠ .active → requests s.log = 0

theorem Inv.init (files : SourceFiles) : (MainLoop.init crc32 files).Inv where
  stage := ⟨rfl, rfl, Or.inl rfl⟩
  order := trivial
  set h := absurd h Bool.false_ne_true
  kept h := absurd h List.not_mem_nil
  quiet _ := rfl

theorem Inv.elapse (h : s.Inv) (ms : Nat) : ({ s with now := s.now + ms } : MainLoop).Inv := by
  refine ⟨?_, h.order, h.set, h.kept, h.quiet⟩
  have hst := h.stage
  unfold Stage at hst ⊢
  cases hstate : s.machine.eCurrentState with
  | startup =>
    simp only [hstate] at hst ⊢
    refine ⟨hst.1, hst.2.1, fun hentry => ?_⟩
    obtain ⟨⟨start, hclock, htrig, hle⟩, hpc⟩ := hst.2.2 hentry
    exact ⟨⟨start, hclock, htrig, by omega⟩, hpc⟩
  | bootloader =>
    simp only [hstate] at hst
  | idle | active =>
    simp only [hstate] at hst ⊢
    exact hst

theorem Inv.command (h : s.Inv) (eCmd : WallCtrlCmd) :
    ({ s with
        machine := s.machine.vWallCtrl_Set_Command eCmd
        log := .commanded eCmd :: s.log } : MainLoop).Inv := by
  refine ⟨?_, h.order, ?_, ?_, h.quiet⟩
  · have hst := h.stage
    unfold Stage at hst ⊢
    exact hst
  · intro hset
    by_cases hc : eCmd = .startup
    · rw [hc]
      exact List.mem_cons_self
    · have hflag : s.machine.baWallCtrlCmds .startup = true :=
        (Function.update_of_ne (Ne.symm hc) ..).symm.trans hset
      exact List.mem_cons_of_mem _ (h.set hflag)
  · intro hmem hidle
    show Function.update s.machine.baWallCtrlCmds eCmd true .startup = true
    by_cases hc : eCmd = .startup
    · rw [hc, Function.update_self]
    · rw [Function.update_of_ne (Ne.symm hc)]
      refine h.kept ?_ hidle
      rcases List.mem_cons.mp hmem with heq | hmem
      · exact absurd (Event.commanded.inj heq).symm hc
      · exact hmem

/-- Another place of the call, and other audio sources. -/
theorem Inv.move (h : s.Inv) {pc : RunPc} {store : Store}
    (hstage : ({ s with pc := pc, store := store } : MainLoop).Stage) :
    ({ s with pc := pc, store := store } : MainLoop).Inv :=
  ⟨hstage, h.order, h.set, h.kept, h.quiet⟩

/-- The places of `vLoad_UIScreen`. -/
def Loading : RunPc → Prop
  | .outside | .commanding | .deciding => False
  | .loading | .fetching | .selecting _ | .finishing _ | .requesting _ => True

/-- The screen is asked for in the state Active. -/
theorem Inv.loading (h : s.Inv) (hpc : Loading s.pc) :
    s.machine.eCurrentState = .active ∧ entries s.log = [.active, .startup] ∧
      s.machine.bIsFirstEntry = false ∧ requests s.log = 0 := by
  have hne : s.pc ≠ .outside ∧ s.pc ≠ .commanding ∧ s.pc ≠ .deciding := by
    refine ⟨?_, ?_, ?_⟩ <;> intro heq <;> rw [heq] at hpc <;> exact hpc
  have hst := h.stage
  unfold Stage at hst
  cases hstate : s.machine.eCurrentState with
  | idle =>
    simp only [hstate] at hst
    rcases hst.2.2 with hpc' | hpc'
    · exact absurd hpc' hne.1
    · exact absurd hpc' hne.2.1
  | startup =>
    simp only [hstate] at hst
    cases hentry : s.machine.bIsFirstEntry with
    | true => exact absurd (hst.2.1 hentry).2 hne.1
    | false =>
      rcases (hst.2.2 hentry).2 with hpc' | hpc' | hpc'
      · exact absurd hpc' hne.1
      · exact absurd hpc' hne.2.1
      · exact absurd hpc' hne.2.2
  | bootloader =>
    simp only [hstate] at hst
  | active =>
    simp only [hstate] at hst
    obtain ⟨hentries, -, hfirst, hload, -⟩ := hst
    refine ⟨rfl, hentries, ?_, hload hne.1 hne.2.1⟩
    by_contra hentry
    exact hne.1 (hfirst (by simpa using hentry)).2

/-- A step of `vLoad_UIScreen`. -/
theorem Inv.load (h : s.Inv) (hpc : Loading s.pc) {pc : RunPc} (store : Store)
    (hpc' : pc ≠ .deciding) :
    ({ s with pc := pc, store := store } : MainLoop).Inv := by
  obtain ⟨hstate, hentries, hentry, hreq⟩ := h.loading hpc
  refine h.move ?_
  unfold Stage
  simp only [hstate]
  refine ⟨hentries, hpc', fun hfirst => ?_, fun _ _ => hreq, by omega⟩
  exact absurd (hentry.symm.trans hfirst) (by decide)

theorem Inv.begin (h : s.Inv) (hpc : s.pc = .outside) : s.begin.Inv := by
  obtain ⟨⟨eCurrentState, bIsFirstEntry, flags⟩, trig, store, now, pc, log⟩ := s
  obtain ⟨hst, horder, hset, hkept, hquiet⟩ := h
  obtain rfl : pc = .outside := hpc
  cases bIsFirstEntry with
  | false =>
    cases eCurrentState with
    | idle => exact ⟨⟨hst.1, hst.2.1, Or.inr rfl⟩, horder, hset, hkept, hquiet⟩
    | startup =>
      have hclock := (hst.2.2 rfl).1
      exact ⟨⟨hst.1, fun hn => absurd hn Bool.false_ne_true,
          fun _ => ⟨hclock, Or.inr (Or.inl rfl)⟩⟩,
        horder, hset, hkept, hquiet⟩
    | bootloader => exact hst.elim
    | active =>
      exact ⟨⟨hst.1, by simp [MainLoop.begin], fun hn => absurd hn Bool.false_ne_true,
        fun _ hn => absurd rfl hn, hst.2.2.2.2⟩, horder, hset, hkept, hquiet⟩
  | true =>
    cases eCurrentState with
    | idle => exact ⟨⟨hst.1, hst.2.1, Or.inr rfl⟩, horder, hset, hkept, hquiet⟩
    | startup =>
      obtain ⟨hclock, -⟩ := hst.2.1 rfl
      refine ⟨⟨hst.1, fun hn => absurd hn Bool.false_ne_true, fun _ => ?_⟩, ⟨horder, hst.1, hclock⟩,
        fun hflag => List.mem_cons_of_mem _ (hset hflag),
        fun _ hn => absurd hn (by simp [MainLoop.begin]),
        hquiet⟩
      exact ⟨⟨now, rfl, rfl, Nat.le_refl now⟩, Or.inr (Or.inl rfl)⟩
    | bootloader => exact hst.elim
    | active =>
      have hnone := (hst.2.2.1 rfl).1
      exact ⟨⟨hst.1, by simp [MainLoop.begin], fun hn => absurd hn Bool.false_ne_true,
          fun _ _ => hnone,
        hst.2.2.2.2⟩, horder, hset, hkept, hquiet⟩

theorem Inv.commanding (h : s.Inv) (hpc : s.pc = .commanding) (answer : Answer) :
    (s.runStep crc32 answer).Inv := by
  obtain ⟨⟨eCurrentState, bIsFirstEntry, flags⟩, trig, store, now, pc, log⟩ := s
  obtain ⟨hst, horder, hset, hkept, hquiet⟩ := h
  obtain rfl : pc = .commanding := hpc
  obtain ⟨htaken, hstays, hwas⟩ := eGet_WallCtrl_Command_startup flags
  unfold MainLoop.runStep
  dsimp only
  generalize eGet_WallCtrl_Command flags = taken at htaken hstays hwas ⊢
  obtain ⟨eCmd, flags'⟩ := taken
  have hset' : flags' .startup = true → .commanded .startup ∈ log := fun hflag => hset (hwas hflag)
  cases eCurrentState with
  | idle =>
    -- only Startup leads on
    have hstay : eCmd ≠ .startup →
        MainLoop.Inv ⟨⟨.idle, bIsFirstEntry, flags'⟩, trig, store, now, .outside, log⟩ := by
      intro hne
      refine ⟨⟨hst.1, hst.2.1, Or.inl rfl⟩, horder, hset', fun hmem hidle => ?_, hquiet⟩
      exact (hstays hne).trans (hkept hmem hidle)
    cases eCmd with
    | startup =>
      have hmem : .commanded .startup ∈ log := hset (htaken rfl)
      refine ⟨⟨congrArg (_ :: ·) hst.1, fun _ => ⟨hst.2.1, rfl⟩,
          fun hn => absurd hn (by simp [MainLoop.handle, MainLoop.enter,
            WallCtrlStateMachine.vWallCtrl_Set_State])⟩,
        ⟨horder, Or.inl ⟨rfl, hst.1, hmem⟩⟩, ?_, ?_, fun _ => hquiet (by simp)⟩
      · exact fun _ => List.mem_cons_of_mem _ hmem
      · exact fun _ hn => absurd hn (by simp [MainLoop.handle, MainLoop.enter,
          WallCtrlStateMachine.vWallCtrl_Set_State])
    | none | enterBootloader | active => exact hstay (by decide)
  | startup =>
    cases bIsFirstEntry with
    | true => exact absurd (hst.2.1 rfl).2 (by simp)
    | false =>
      obtain ⟨hclock, -⟩ := hst.2.2 rfl
      have hgo : ∀ pc, pc = .outside ∨ pc = .commanding ∨ pc = .deciding →
          MainLoop.Inv ⟨⟨.startup, false, flags'⟩, trig, store, now, pc, log⟩ := by
        intro pc hpc
        exact ⟨⟨hst.1, fun hn => absurd hn Bool.false_ne_true, fun _ => ⟨hclock, hpc⟩⟩, horder,
          hset',
          fun _ hn => absurd hn (by simp), hquiet⟩
      cases eCmd with
      | none | startup => exact hgo .deciding (Or.inr (Or.inr rfl))
      | enterBootloader | active => exact hgo .outside (Or.inl rfl)
  | bootloader => exact hst.elim
  | active =>
    have hgo :
        MainLoop.Inv ⟨⟨.active, bIsFirstEntry, flags'⟩, trig, store, now, .outside, log⟩ := by
      refine ⟨⟨hst.1, by simp, fun hfirst => ⟨(hst.2.2.1 hfirst).1, rfl⟩, fun hn => absurd rfl hn,
        hst.2.2.2.2⟩,
        horder, hset', fun _ hn => absurd hn (by simp), hquiet⟩
    cases eCmd with
    | none | startup | enterBootloader | active => exact hgo

theorem Inv.deciding (h : s.Inv) (hpc : s.pc = .deciding) (answer : Answer) :
    (s.runStep crc32 answer).Inv := by
  obtain ⟨⟨eCurrentState, bIsFirstEntry, flags⟩, trig, store, now, pc, log⟩ := s
  obtain ⟨hst, horder, hset, hkept, hquiet⟩ := h
  obtain rfl : pc = .deciding := hpc
  cases eCurrentState with
  | idle =>
    rcases hst.2.2 with hn | hn
    · exact absurd hn (by simp)
    · exact absurd hn (by simp)
  | startup =>
    cases bIsFirstEntry with
    | true => exact absurd (hst.2.1 rfl).2 (by simp)
    | false =>
      obtain ⟨⟨start, hclock, htrig, hle⟩, -⟩ := hst.2.2 rfl
      have hnone : requests log = 0 := hquiet (by simp)
      unfold MainLoop.runStep
      dsimp only
      split
      · next helapsed =>
        -- the word has wrapped or not: at least so much time has passed
        obtain rfl : trig = UInt32.ofNat start := htrig
        have hword : (UInt32.ofNat now - UInt32.ofNat start).toNat ≤ now - start :=
          word_distance_le hle
        have htime : start + WALLCTRL_STARTUP_STATE_TIMEOUT_ms ≤ now := by
          have hpos : WALLCTRL_STARTUP_STATE_TIMEOUT_ms = 3000 := rfl
          omega
        refine ⟨⟨congrArg (_ :: ·) hst.1, by simp [MainLoop.enter], fun _ => ⟨hnone, rfl⟩,
            fun hn => absurd rfl hn, by show requests log ≤ 1; omega⟩,
          ⟨horder, Or.inr ⟨rfl, hst.1, start, hclock, htime⟩⟩, ?_, ?_, ?_⟩
        · exact fun hflag => List.mem_cons_of_mem _ (hset hflag)
        · exact fun _ hn =>
            absurd hn (by simp [MainLoop.enter, WallCtrlStateMachine.vWallCtrl_Set_State])
        · exact fun _ => hnone
      · refine ⟨⟨hst.1, fun hn => absurd hn Bool.false_ne_true, fun _ => ?_⟩, horder, hset, hkept,
          hquiet⟩
        exact ⟨⟨start, hclock, htrig, hle⟩, Or.inl rfl⟩
  | bootloader => exact hst.elim
  | active => exact absurd rfl hst.2.1

theorem Inv.runStep (h : s.Inv) (answer : Answer) : (s.runStep crc32 answer).Inv := by
  cases hpc : s.pc with
  | outside =>
    have hinv := h.begin hpc
    unfold MainLoop.runStep
    rw [hpc]
    exact hinv
  | commanding => exact h.commanding hpc answer
  | deciding => exact h.deciding hpc answer
  | loading =>
    have hload : Loading s.pc := by rw [hpc]; trivial
    unfold MainLoop.runStep
    rw [hpc]
    dsimp only
    split
    · exact h.load hload s.store (by simp)
    · split
      · exact h.load hload s.store (by simp)
      · exact h.load hload s.store (by simp)
  | fetching =>
    have hload : Loading s.pc := by rw [hpc]; trivial
    unfold MainLoop.runStep
    rw [hpc]
    exact h.load hload s.store (by simp)
  | selecting bIsMute =>
    have hload : Loading s.pc := by rw [hpc]; trivial
    unfold MainLoop.runStep
    rw [hpc]
    dsimp only
    split
    · exact h.load hload _ (by simp)
    · exact h.load hload _ (by simp)
    · exact h.load hload _ (by simp)
  | finishing bIsMute =>
    have hload : Loading s.pc := by rw [hpc]; trivial
    unfold MainLoop.runStep
    rw [hpc]
    dsimp only
    split
    · exact h.load hload _ (by simp)
    · exact h.load hload _ (by simp)
    · exact h.load hload _ (by simp)
  | requesting eNewScreenId =>
    have hload : Loading s.pc := by rw [hpc]; trivial
    obtain ⟨hstate, hentries, hentry, hreq⟩ := h.loading hload
    unfold MainLoop.runStep
    rw [hpc]
    refine ⟨?_, ⟨h.order, hentries, hreq⟩, fun hflag => List.mem_cons_of_mem _ (h.set hflag),
      ?_, ?_⟩
    · show Stage _
      unfold Stage
      simp only [hstate]
      refine ⟨hentries, by simp, fun hn => absurd (hentry.symm.trans hn) (by decide),
        fun _ hn => absurd rfl hn, ?_⟩
      show requests s.log + 1 ≤ 1
      omega
    · exact fun _ hn => absurd (hstate.symm.trans hn) (by decide)
    · exact fun hn => absurd hstate hn

theorem Inv.step (h : s.Inv) {a : Act} (hst : s.step crc32 a = some s') : s'.Inv := by
  cases a with
  | elapse ms =>
    obtain rfl := Option.some.inj hst
    exact h.elapse ms
  | command eCmd =>
    obtain rfl := Option.some.inj hst
    exact h.command eCmd
  | store a =>
    unfold MainLoop.step at hst
    dsimp only at hst
    split at hst
    · obtain rfl := Option.some.inj hst
      exact h.move h.stage
    · exact absurd hst (by simp)
  | run answer =>
    obtain rfl := Option.some.inj hst
    exact h.runStep answer

theorem inv_of_reachable (hr : (wallCtrlSystem crc32).Reachable s) : s.Inv := by
  refine hr.invariant ?_ ?_
  · intro s hinit
    obtain ⟨files, rfl⟩ := hinit
    exact Inv.init files
  · intro s a s' h hst
    exact h.step hst

end MainLoop

/-- **The states come in order**: Startup after its command, Active 3 s after the first call
in Startup at the earliest, and then one screen is asked for.  A command that is set in the state
Idle is not lost, and a call that reads the clock in Startup after its time leaves it unless
the clock has wrapped. -/
theorem startup_in_order (hr : (wallCtrlSystem crc32).Reachable s) :
    InOrder s.log ∧
      s.machine.eCurrentState ≠ .bootloader ∧
      requests s.log ≤ 1 ∧
      (.commanded .startup ∈ s.log → s.machine.eCurrentState = .idle →
        s.machine.baWallCtrlCmds .startup = true) ∧
      ∀ start answer, s.pc = .deciding → clockedAt s.log = some start →
        start + WALLCTRL_STARTUP_STATE_TIMEOUT_ms ≤ s.now → s.now < start + 4294967296 →
        (s.runStep crc32 answer).machine.eCurrentState = .active := by
  have h := MainLoop.inv_of_reachable hr
  have hst := h.stage
  unfold MainLoop.Stage at hst
  refine ⟨h.order, ?_, ?_, h.kept, ?_⟩
  · intro hn
    simp only [hn] at hst
  · cases hstate : s.machine.eCurrentState with
    | active =>
      simp only [hstate] at hst
      exact hst.2.2.2.2
    | idle | startup | bootloader =>
      have hnone := h.quiet (by rw [hstate]; simp)
      omega
  · intro start answer hpc hclock htime hword
    have htrig : s.uiTrigttime_ms = UInt32.ofNat start ∧ start ≤ s.now := by
      cases hstate : s.machine.eCurrentState with
      | idle =>
        simp only [hstate, hpc] at hst
        simp at hst
      | startup =>
        simp only [hstate, hpc] at hst
        cases hentry : s.machine.bIsFirstEntry with
        | true => exact absurd (hst.2.1 hentry).2 (by simp)
        | false =>
          obtain ⟨⟨start', hclock', htrig, hle⟩, -⟩ := hst.2.2 hentry
          obtain rfl : start' = start := Option.some.inj (hclock'.symm.trans hclock)
          exact ⟨htrig, hle⟩
      | bootloader =>
        simp only [hstate] at hst
      | active =>
        simp only [hstate] at hst
        exact absurd hpc hst.2.1
    have helapsed := word_distance_eq htrig.2 hword
    have hpos : WALLCTRL_STARTUP_STATE_TIMEOUT_ms = 3000 := rfl
    unfold MainLoop.runStep
    rw [hpc]
    dsimp only
    rw [htrig.1, helapsed, if_pos (by omega)]
    rfl

/-- Nothing is on the flash; the main loop polls once too early. -/
def earlyPoll : List Act :=
  [.command .startup] ++ List.replicate 4 (.run ⟨true, .ok, true⟩) ++ [.elapse 2999] ++
    List.replicate 3 (.run ⟨true, .ok, true⟩) ++ [.elapse 1]

theorem startup_in_order_early :
    ∃ s, earlyPoll.foldlM (MainLoop.step crc32Ieee) (.init crc32Ieee fun _ => none) = some s ∧
      s.log = [.clocked 0, .entered .startup 0, .commanded .startup] ∧ InOrder s.log ∧
      (s.runStep crc32Ieee ⟨true, .ok, true⟩).machine.eCurrentState = .active := by
  refine ⟨_, rfl, rfl, ?_⟩
  have h := startup_in_order (TransSys.Reachable.foldlM (M := wallCtrlSystem crc32Ieee)
    (fun _ _ _ hs => hs)
    (.init ⟨fun _ => none, rfl⟩) earlyPoll rfl)
  exact ⟨h.1, h.2.2.2.2 0 ⟨true, .ok, true⟩ rfl rfl (by decide) (by decide)⟩

/-! ## §4. The screen of the selected source. -/

variable {store store' : Store} {w : WriteResult}

/-- A save that succeeds leaves the entry in the table. -/
theorem saveEntry_ok {id : AudioSrcId} {entry restored : AudioSourceConfig}
    (h : store.saveEntry crc32 id entry restored w = (.ok (), store')) :
    store'.staAudioSrcConfigs id = entry := by
  unfold Store.saveEntry at h
  split at h
  · obtain ⟨-, rfl⟩ := Prod.mk.inj h
    exact Function.update_self ..
  · exact absurd (Prod.mk.inj h).1 (by simp)

/-- The selection of a source, where none is selected: one write, and no change but the flag. -/
theorem select_first (id : AudioSrcId) (hnone : ∀ j, ¬ Marked (store.staAudioSrcConfigs j))
    {r : Progress}
    (h : store.iUpdateAudioScrSelected crc32 id.val true w = (r, store')) :
    (∃ iResult, r = .done iResult) ∧
      (r = .done (.ok ()) →
        store'.staAudioSrcConfigs id
          = { store.staAudioSrcConfigs id with bIsSelected := true }) := by
  have hfind : eFindSelectedAudioSrc store.staAudioSrcConfigs = none := by
    cases hf : eFindSelectedAudioSrc store.staAudioSrcConfigs with
    | none => rfl
    | some j => exact absurd (marked_of_find hf) (hnone j)
  unfold Store.iUpdateAudioScrSelected at h
  rw [withSource_val] at h
  dsimp only at h
  rw [hfind] at h
  split at h
  · obtain ⟨rfl, -⟩ := Prod.mk.inj h
    exact ⟨⟨_, rfl⟩, fun hn => absurd (Progress.done.inj hn) (by simp)⟩
  split at h
  · obtain ⟨rfl, -⟩ := Prod.mk.inj h
    exact ⟨⟨_, rfl⟩, fun hn => absurd (Progress.done.inj hn) (by simp)⟩
  rw [if_neg (by decide), if_neg (by simp)] at h
  split at h
  · obtain ⟨rfl, -⟩ := Prod.mk.inj h
    exact ⟨⟨_, rfl⟩, fun hn => absurd (Progress.done.inj hn) (by simp)⟩
  obtain ⟨hr, hs'⟩ := Prod.mk.inj h
  subst hr hs'
  refine ⟨⟨_, rfl⟩, fun hok => ?_⟩
  have hok := Progress.done.inj hok
  exact saveEntry_ok (Prod.ext hok rfl)

namespace MainLoop

instance : DecidablePred Loading := fun pc =>
  match pc with
  | .outside | .commanding | .deciding => .isFalse id
  | .loading | .fetching | .selecting _ | .finishing _ | .requesting _ => .isTrue trivial

/-- No other thread works on the audio sources while the main loop loads the screen. -/
def Undisturbed (s : MainLoop) : Act → Prop
  | .store _ => ¬ Loading s.pc
  | .elapse _ | .command _ | .run _ => True

instance (s : MainLoop) (a : Act) : Decidable (s.Undisturbed a) :=
  match a with
  | .store _ => inferInstanceAs (Decidable (¬ _))
  | .elapse _ | .command _ | .run _ => .isTrue trivial

/-- What the main loop knows of the audio sources. -/
def Knows (s : MainLoop) : Prop :=
  match s.pc with
  | .outside | .loading | .commanding | .deciding => True
  | .fetching => ∀ j, ¬ Marked (s.store.staAudioSrcConfigs j)
  | .selecting bIsMute =>
    (∀ j, ¬ Marked (s.store.staAudioSrcConfigs j)) ∧
      bIsMute = (s.store.staAudioSrcConfigs 0).bIsMute
  | .finishing _ => False
  | .requesting eNewScreenId =>
    ∃ id, Marked (s.store.staAudioSrcConfigs id) ∧
      eNewScreenId = screenOf (s.store.staAudioSrcConfigs id).bIsMute

theorem Knows.of_plain
    (h : s.pc = .outside ∨ s.pc = .loading ∨ s.pc = .commanding ∨ s.pc = .deciding) :
    s.Knows := by
  unfold Knows
  rcases h with h | h | h | h
  · rw [h]
    trivial
  · rw [h]
    trivial
  · rw [h]
    trivial
  · rw [h]
    trivial

theorem begin_pc : s.begin.pc = .commanding ∨ s.begin.pc = .loading := by
  obtain ⟨⟨eCurrentState, bIsFirstEntry, flags⟩, trig, store, now, pc, log⟩ := s
  cases bIsFirstEntry with
  | false => exact Or.inl rfl
  | true =>
    cases eCurrentState with
    | idle | startup | bootloader => exact Or.inl rfl
    | active => exact Or.inr rfl

theorem handle_pc (eCmd : WallCtrlCmd) :
    (s.handle eCmd).pc = .outside ∨ (s.handle eCmd).pc = .deciding := by
  unfold handle
  split
  · exact Or.inl rfl
  · exact Or.inr rfl
  · exact Or.inr rfl
  · exact Or.inl rfl

/-- The snapshot is the entry of the selected source. -/
theorem iGet_SelectedAudioSrcConfig_ok {bLocked : Bool} {c : AudioSourceConfig}
    (h : iGet_SelectedAudioSrcConfig store bLocked = .ok c) :
    ∃ id, Marked (store.staAudioSrcConfigs id) ∧ c = store.staAudioSrcConfigs id := by
  unfold iGet_SelectedAudioSrcConfig at h
  split at h
  · exact absurd h (by simp)
  · split at h
    · exact absurd h (by simp)
    · next id hfind => exact ⟨id, marked_of_find hfind, (Except.ok.inj h).symm⟩

/-- There is no data where no source is selected. -/
theorem iGet_SelectedAudioSrcConfig_noData {bLocked : Bool}
    (h : iGet_SelectedAudioSrcConfig store bLocked = .error (-ENODATA)) (j : AudioSrcId) :
    ¬ Marked (store.staAudioSrcConfigs j) := by
  unfold iGet_SelectedAudioSrcConfig at h
  split at h
  · exact absurd (Except.error.inj h) (by decide)
  · split at h
    · next hfind => exact not_marked_of_find hfind
    · exact absurd h (by simp)

theorem Knows.runStep (h : s.Knows) (answer : Answer) : (s.runStep crc32 answer).Knows := by
  unfold Knows at h
  unfold MainLoop.runStep
  cases hpc : s.pc with
  | outside =>
    refine Knows.of_plain ?_
    rcases begin_pc (s := s) with hn | hn
    · exact Or.inr (Or.inr (Or.inl hn))
    · exact Or.inr (Or.inl hn)
  | loading =>
    dsimp only
    split
    · next c hc =>
      obtain ⟨id, hm, rfl⟩ := iGet_SelectedAudioSrcConfig_ok hc
      exact ⟨id, hm, rfl⟩
    · next iResult hc =>
      split
      · next hdata =>
        rw [hdata] at hc
        exact iGet_SelectedAudioSrcConfig_noData hc
      · trivial
  | fetching =>
    rw [hpc] at h
    exact ⟨h, rfl⟩
  | selecting bIsMute =>
    rw [hpc] at h
    obtain ⟨hnone, rfl⟩ := h
    dsimp only
    split
    · next store' hsel =>
      have hentry := (select_first 0 hnone hsel).2 rfl
      refine ⟨0, ?_, ?_⟩
      · show (store'.staAudioSrcConfigs 0).bIsSelected = true
        rw [hentry]
      · show screenOf _ = screenOf (store'.staAudioSrcConfigs 0).bIsMute
        rw [hentry]
    · trivial
    · next store' hsel =>
      obtain ⟨iResult, hn⟩ := (select_first 0 hnone hsel).1
      exact absurd hn (by simp)
  | finishing bIsMute =>
    rw [hpc] at h
    exact h.elim
  | requesting eNewScreenId => exact trivial
  | commanding =>
    refine Knows.of_plain ?_
    rcases handle_pc (s := { s with
      machine := { s.machine with
        baWallCtrlCmds := (eGet_WallCtrl_Command s.machine.baWallCtrlCmds).2 } })
      (eGet_WallCtrl_Command s.machine.baWallCtrlCmds).1 with hn | hn
    · exact Or.inl hn
    · exact Or.inr (Or.inr (Or.inr hn))
  | deciding =>
    dsimp only
    split
    · exact trivial
    · exact trivial

theorem begin_store : s.begin.store = s.store := by
  obtain ⟨⟨eCurrentState, bIsFirstEntry, flags⟩, trig, store, now, pc, log⟩ := s
  cases bIsFirstEntry with
  | false => rfl
  | true =>
    cases eCurrentState with
    | idle | startup | bootloader | active => rfl

theorem handle_store (eCmd : WallCtrlCmd) : (s.handle eCmd).store = s.store := by
  unfold handle
  split <;> rfl

theorem sound_runStep (hs : Sound s.store) (answer : Answer) :
    Sound (s.runStep crc32 answer).store := by
  have hselect : ∀ r store',
      s.store.iUpdateAudioScrSelected crc32 0 true answer.write = (r, store') →
      Sound store' := by
    intro r store' h
    have hstep : Sound (s.store.step crc32 (.select 0 true answer.write)) := hs.step _
    rw [show s.store.step crc32 (.select 0 true answer.write) = store'
      from congrArg Prod.snd h] at hstep
    exact hstep
  have hfinish : ∀ r store', s.store.finishSelection crc32 answer.write = (r, store') →
      Sound store' := by
    intro r store' h
    have hstep : Sound (s.store.step crc32 (.finishSelect answer.write)) := hs.step _
    rw [show s.store.step crc32 (.finishSelect answer.write) = store'
      from congrArg Prod.snd h] at hstep
    exact hstep
  unfold MainLoop.runStep
  cases s.pc with
  | outside =>
    show Sound s.begin.store
    rw [begin_store]
    exact hs
  | loading =>
    dsimp only
    split
    · exact hs
    · exact hs
  | fetching | requesting => exact hs
  | selecting bIsMute =>
    dsimp only
    split
    · next h => exact hselect _ _ h
    · next h => exact hselect _ _ h
    · next h => exact hselect _ _ h
  | finishing bIsMute =>
    dsimp only
    split
    · next h => exact hfinish _ _ h
    · next h => exact hfinish _ _ h
    · next h => exact hfinish _ _ h
  | commanding =>
    show Sound (handle _ _).store
    rw [handle_store]
    exact hs
  | deciding =>
    dsimp only
    split
    · exact hs
    · exact hs

/-- While no screen is loaded there is nothing to know. -/
theorem Knows.of_not_loading (h : ¬ Loading s.pc) : s.Knows := by
  unfold Knows
  cases hpc : s.pc with
  | outside | commanding | deciding => trivial
  | loading | fetching | selecting | finishing | requesting =>
    rw [hpc] at h
    exact absurd trivial h

/-- The step lemma. -/
theorem Knows.step (h : s.Knows) (hs : Sound s.store) {a : Act} (hok : s.Undisturbed a)
    (hst : s.step crc32 a = some s') : s'.Knows ∧ Sound s'.store := by
  cases a with
  | elapse ms =>
    obtain rfl := Option.some.inj hst
    exact ⟨h, hs⟩
  | command eCmd =>
    obtain rfl := Option.some.inj hst
    exact ⟨h, hs⟩
  | store a =>
    unfold MainLoop.step at hst
    dsimp only at hst
    split at hst
    · obtain rfl := Option.some.inj hst
      exact ⟨Knows.of_not_loading hok, hs.step a⟩
    · exact absurd hst (by simp)
  | run answer =>
    obtain rfl := Option.some.inj hst
    exact ⟨h.runStep answer, sound_runStep hs answer⟩

end MainLoop

/-- **The screen of the selected source**: where no other thread works on the audio sources
while the screen is loaded, exactly one source is selected when the screen is asked for, and the
screen is the one of that source, muted or not. -/
theorem screen_of_selected (h : (wallCtrlSystem crc32).ReachableVia MainLoop.Undisturbed s)
    {eNewScreenId : Lvgl.ScreenId} (hpc : s.pc = .requesting eNewScreenId) :
    ∃ id, (∀ j, (s.store.staAudioSrcConfigs j).bIsSelected = true ↔ j = id) ∧
      eNewScreenId = screenOf (s.store.staAudioSrcConfigs id).bIsMute := by
  have hinv : s.Knows ∧ Sound s.store := by
    refine TransSys.ReachableVia.invariant (I := fun s => s.Knows ∧ Sound s.store) ?_ ?_ h
    · intro s hinit
      obtain ⟨files, rfl⟩ := hinit
      exact ⟨trivial, sound_boot files⟩
    · intro s a s' hi hok hst
      exact hi.1.step hi.2 hok hst
  obtain ⟨hknows, hs⟩ := hinv
  unfold MainLoop.Knows at hknows
  rw [hpc] at hknows
  obtain ⟨id, hm, hscreen⟩ := hknows
  refine ⟨id, fun j => ⟨fun hj => hs.single hj hm, ?_⟩, hscreen⟩
  intro hj
  rw [hj]
  exact hm

/-- Four valid files, with no source selected and the first one muted. -/
def unselectedFiles : SourceFiles := fun id =>
  some (({ sampleEntry id false 10 with bIsMute := decide (id = 0) }.record.seal crc32Ieee).toBytes)

/-- The volume of a source changes, and the first source is selected on the way to its screen. -/
def firstStart : List Act :=
  [.command .startup] ++ List.replicate 4 (.run ⟨true, .ok, true⟩) ++
    [.store (.volume 1 30 .ok), .elapse 3000] ++ List.replicate 5 (.run ⟨true, .ok, true⟩)

theorem screen_of_selected_first :
    ∃ s, firstStart.foldlM (TransSys.guarded MainLoop.Undisturbed (MainLoop.step crc32Ieee))
        (.init crc32Ieee unselectedFiles) = some s ∧
      s.pc = .requesting .sourceMute ∧
      ∃ id, (∀ j, (s.store.staAudioSrcConfigs j).bIsSelected = true ↔ j = id) ∧
        Lvgl.ScreenId.sourceMute = screenOf (s.store.staAudioSrcConfigs id).bIsMute := by
  have hrun : (firstStart.foldlM (TransSys.guarded MainLoop.Undisturbed (MainLoop.step crc32Ieee))
      (.init crc32Ieee unselectedFiles)).map MainLoop.pc = some (.requesting .sourceMute) := by
    decide +kernel
  obtain ⟨s, hs, hpc⟩ := Option.map_eq_some_iff.mp hrun
  have h : (wallCtrlSystem crc32Ieee).ReachableVia MainLoop.Undisturbed s :=
    TransSys.ReachableVia.foldlM (fun _ _ _ hs => TransSys.guarded_some hs) (.init ⟨unselectedFiles, rfl⟩) firstStart hs
  exact ⟨s, hs, hpc, screen_of_selected h hpc⟩

end WallController.WallCtrl
