/-
  WallController.Lvgl.ScreenRequests
  ────────────────────────────────
  **NO SCREEN REQUEST IS LOST.**

  The pending flag is a lock that a request takes and the UI thread gives
  back: between the two, one accepted request is outstanding.  `Phase` says how
  far it has come.  The request publishes the flag before the id the flag
  guards, so the UI thread can read an id that is not stored yet.

  Main results:
    * `screen_requests_served`: in the runs where the UI thread reads the id
      only when no request has still to store its own, the id read is the one
      of the outstanding request, and the flag is lowered for each accepted
      request in turn.  On each step the condition is also necessary.
    * `screen_request_overtaken`: without it, the id `eScreen_None` is read
      and the index leaves the table.
-/
import WallController.Lvgl.ScreenManager

namespace WallController.Lvgl

open WallController.Lib

/-! ## §1. The table of screens. -/

/-- An id that is a screen. -/
def ScreenId.Valid (e : ScreenId) : Prop :=
  ScreenId.none.toNat < e.toNat ∧ e.toNat < ScreenId.numberOfScreens.toNat

instance (e : ScreenId) : Decidable e.Valid := inferInstanceAs (Decidable (_ ∧ _))

/-- Every slot holds the descriptor of its screen, with a runtime. -/
structure UIScreenManager.Sound (m : UIScreenManager) : Prop where
  initialized : m.bIsInitialized = true
  ids : m.staScreenDescriptors.map (·.eScreenId)
    = [.welcome, .audioSrcInfo, .sourceSelect, .sourceMute, .mainMenu, .bluetoothMenu,
      .bluetoothControl]
  runtimes : ∀ d ∈ m.staScreenDescriptors, d.pstScreenRuntime ≠ none

variable {m m' : UIScreenManager} {e : ScreenId}

/-- A screen's index lies in the table. -/
theorem slot_index_lt (h : e.Valid) : UI_SCREEN_SLOT_INDEX e < UI_SCREEN_SLOT_COUNT := by
  cases e <;> first | decide | exact absurd h (by decide)

theorem UIScreenManager.Sound.length (h : m.Sound) : m.staScreenDescriptors.length = UI_SCREEN_SLOT_COUNT := by
  have hlen := congrArg List.length h.ids
  rw [List.length_map] at hlen
  exact hlen

/-- The index of `eScreen_None` wraps, far outside the table. -/
theorem UIScreenManager.Sound.slot_none (h : m.Sound) : m.slot .none = none := by
  refine List.getElem?_eq_none ?_
  rw [h.length]
  decide

theorem UIScreenManager.Sound.registered (h : m.Sound) (he : e.Valid) : m.Registered e := by
  have hlt : UI_SCREEN_SLOT_INDEX e < m.staScreenDescriptors.length := by
    rw [h.length]
    exact slot_index_lt he
  refine ⟨m.staScreenDescriptors[UI_SCREEN_SLOT_INDEX e], List.getElem?_eq_getElem hlt, ?_,
    h.runtimes _ (List.getElem_mem hlt)⟩
  have hid : (m.staScreenDescriptors.map (·.eScreenId))[UI_SCREEN_SLOT_INDEX e]?
      = some (m.staScreenDescriptors[UI_SCREEN_SLOT_INDEX e]).eScreenId := by
    rw [List.getElem?_map, List.getElem?_eq_getElem hlt]
    rfl
  rw [h.ids] at hid
  cases e <;> first | exact absurd he (by decide) | exact (Option.some.inj hid).symm

theorem UIScreenManager.Sound.init : bInit_UIScreenManager.Sound :=
  ⟨rfl, rfl, by decide⟩

/-- Neither the flag, the id nor the active slot are part of the table. -/
theorem UIScreenManager.Sound.congr (h : m.Sound) (hi : m'.bIsInitialized = m.bIsInitialized)
    (ht : m'.staScreenDescriptors = m.staScreenDescriptors) : m'.Sound :=
  ⟨hi.trans h.initialized, by rw [ht]; exact h.ids, by rw [ht]; exact h.runtimes⟩

theorem UIScreenManager.Sound.setRoot (h : m.Sound) (i : Nat) (b : Bool) : (m.setRoot i b).Sound := by
  refine ⟨h.initialized, ?_, ?_⟩
  · rw [← h.ids]
    apply List.ext_getElem
    · simp [UIScreenManager.setRoot]
    · intro n h₁ h₂
      simp only [UIScreenManager.setRoot, List.getElem_map, List.getElem_modify]
      split <;> rfl
  · intro d hd
    obtain ⟨n, hn, rfl⟩ := List.getElem_of_mem hd
    have hn' : n < m.staScreenDescriptors.length := by
      simpa [UIScreenManager.setRoot] using hn
    have hr := h.runtimes _ (List.getElem_mem hn')
    simp only [UIScreenManager.setRoot, List.getElem_modify]
    split
    · intro heq
      exact hr (Option.map_eq_none_iff.mp heq)
    · exact hr

theorem UIScreenManager.Sound.delete (h : m.Sound) (o : Option Nat) : (vDelete_ScreenOnExit m o).Sound := by
  unfold vDelete_ScreenOnExit
  split
  · exact h
  · split
    · exact h
    · split
      · exact h
      · exact h.setRoot _ _

/-- `vDelete_ScreenOnExit` touches the table only. -/
theorem delete_pending (m : UIScreenManager) (o : Option Nat) :
    (vDelete_ScreenOnExit m o).bIsTransitionPending = m.bIsTransitionPending
      ∧ (vDelete_ScreenOnExit m o).ePendingScreenId = m.ePendingScreenId := by
  unfold vDelete_ScreenOnExit
  split
  · exact ⟨rfl, rfl⟩
  · split
    · exact ⟨rfl, rfl⟩
    · split <;> exact ⟨rfl, rfl⟩

/-- An activation leaves the table sound, and the flag and the id alone. -/
theorem UIScreenManager.Sound.activate (h : m.Sound) (i : Nat) (d : UIScreenDescriptor) (c : CreateResult) :
    (activate m i d c).1.Sound
      ∧ (activate m i d c).1.bIsTransitionPending = m.bIsTransitionPending
      ∧ (activate m i d c).1.ePendingScreenId = m.ePendingScreenId := by
  unfold Lvgl.activate
  split
  · exact ⟨h, rfl, rfl⟩
  · split
    · exact ⟨h, rfl, rfl⟩
    · dsimp only
      split
      · have hset : ({ m with pstActiveDescriptor := some i } : UIScreenManager).Sound :=
          h.congr rfl rfl
        exact ⟨hset.delete _, delete_pending _ _⟩
      · split
        · exact ⟨h, rfl, rfl⟩
        · have hroot := h.setRoot i c.pstRootObj
          split
          · exact ⟨hroot, rfl, rfl⟩
          · split
            · exact ⟨hroot, rfl, rfl⟩
            · have hset : ({ m.setRoot i c.pstRootObj with
                  pstActiveDescriptor := some i } : UIScreenManager).Sound :=
                hroot.congr rfl rfl
              exact ⟨hset.delete _, delete_pending _ _⟩

/-- A request that goes past its exchange asks for a screen, and found the
flag clear; any other leaves all as it was. -/
theorem request_cases (h : m.Sound) (eID : ScreenId) :
    (bRequest_UIScreen m eID = ({ m with bIsTransitionPending := true }, true)
        ∧ eID.Valid ∧ m.bIsTransitionPending = false)
      ∨ bRequest_UIScreen m eID = (m, false) := by
  unfold bRequest_UIScreen
  rw [if_neg (by rw [h.initialized]; exact Bool.noConfusion)]
  by_cases hv : eID.Valid
  · obtain ⟨d, hd, hid, hr⟩ := h.registered hv
    have hin : ¬ (eID.toNat ≤ ScreenId.none.toNat
        ∨ eID.toNat ≥ ScreenId.numberOfScreens.toNat) := by
      unfold ScreenId.Valid at hv
      omega
    rw [if_neg hin, hd]
    dsimp only
    rw [if_neg (by simp [hid, hr])]
    cases hp : m.bIsTransitionPending with
    | false => exact Or.inl ⟨rfl, hv, rfl⟩
    | true =>
      right
      obtain ⟨a, b, p, q, t⟩ := m
      cases hp
      rfl
  · have hout : eID.toNat ≤ ScreenId.none.toNat
        ∨ eID.toNat ≥ ScreenId.numberOfScreens.toNat := by
      unfold ScreenId.Valid at hv
      omega
    rw [if_pos hout]
    exact Or.inr rfl

/-! ## §2. The outstanding request. -/

variable {ι : Type} {s s' : Display ι}

/-- How far the outstanding request has come. -/
inductive Phase (s : Display ι) : Prop
  /-- There is none. -/
  | clear (hpend : s.manager.bIsTransitionPending = false) (hstore : ∀ t, s.storing t = none)
      (hid : s.manager.ePendingScreenId = .none) (hui : s.ui = .running)
      (hlog : s.accepted = s.activated)
  /-- The flag is raised; a thread has still to store the id. -/
  | raised (t : Thread ι) (e : ScreenId) (he : e.Valid)
      (hpend : s.manager.bIsTransitionPending = true) (ht : s.storing t = some e)
      (hother : ∀ t', t' ≠ t → s.storing t' = none)
      (hid : s.manager.ePendingScreenId = .none) (hui : s.ui = .running ∨ s.ui = .activating)
      (hlog : s.accepted = s.activated ++ [e])
  /-- The id is stored. -/
  | stored (e : ScreenId) (he : e.Valid) (hpend : s.manager.bIsTransitionPending = true)
      (hstore : ∀ t, s.storing t = none) (hid : s.manager.ePendingScreenId = e)
      (hui : s.ui = .running ∨ s.ui = .activating ∨ s.ui = .entering e ∨ s.ui = .resetting e)
      (hlog : s.accepted = s.activated ++ [e])
  /-- The screen is active and the id reset. -/
  | shown (e : ScreenId) (he : e.Valid) (hpend : s.manager.bIsTransitionPending = true)
      (hstore : ∀ t, s.storing t = none) (hid : s.manager.ePendingScreenId = .none)
      (hui : s.ui = .lowering e) (hlog : s.accepted = s.activated ++ [e])

structure Inv (s : Display ι) : Prop where
  sound : s.manager.Sound
  phase : Phase s

theorem Inv.init : Inv (Display.init : Display ι) :=
  ⟨.init, .clear rfl (fun _ => rfl) rfl rfl rfl⟩

/-- The UI thread reads the id only when no thread has still to store one. -/
def ReadsStored (s : Display ι) : Act ι → Prop
  | .read => ∀ t, s.storing t = none
  | _ => True

/-- What the requests are owed in a state: the UI thread has read no id but
the one of the outstanding request, a screen in the table; and the flag was
lowered for the accepted requests in turn, each by the activation of its own
screen, the outstanding one excepted. -/
structure Served (s : Display ι) : Prop where
  inTable : ∀ e, s.ui ≠ .stray e
  own : ∀ e, s.ui = .entering e ∨ s.ui = .resetting e ∨ s.ui = .lowering e →
    UI_SCREEN_SLOT_INDEX e < UI_SCREEN_SLOT_COUNT ∧ s.manager.Registered e
      ∧ s.accepted = s.activated ++ [e]
  lowered : s.manager.bIsTransitionPending = false → s.accepted = s.activated
  kept : s.manager.bIsTransitionPending = true → ∃ e, s.accepted = s.activated ++ [e]

theorem Inv.served (h : Inv s) : Served s := by
  obtain ⟨hsound, hphase⟩ := h
  cases hphase with
  | clear hpend hstore hid hui hlog =>
    refine ⟨?_, ?_, fun _ => hlog, fun hp => absurd (hpend.symm.trans hp) (by decide)⟩
    · intro e
      simp [hui]
    · intro e he
      simp [hui] at he
  | raised t e hv hpend ht hother hid hui hlog =>
    refine ⟨?_, ?_, fun hp => absurd (hpend.symm.trans hp) (by decide), fun _ => ⟨e, hlog⟩⟩
    · intro e'
      rcases hui with hui | hui <;> simp [hui]
    · intro e' he'
      rcases hui with hui | hui <;> simp [hui] at he'
  | stored e hv hpend hstore hid hui hlog =>
    refine ⟨?_, ?_, fun hp => absurd (hpend.symm.trans hp) (by decide), fun _ => ⟨e, hlog⟩⟩
    · intro e'
      rcases hui with hui | hui | hui | hui <;> simp [hui]
    · intro e' he'
      have heq : e' = e := by
        rcases hui with hui | hui | hui | hui <;> simp [hui] at he' <;> exact he'.symm
      subst heq
      exact ⟨slot_index_lt hv, hsound.registered hv, hlog⟩
  | shown e hv hpend hstore hid hui hlog =>
    refine ⟨?_, ?_, fun hp => absurd (hpend.symm.trans hp) (by decide), fun _ => ⟨e, hlog⟩⟩
    · intro e'
      simp [hui]
    · intro e' he'
      have heq : e' = e := by
        simp [hui] at he'
        exact he'.symm
      subst heq
      exact ⟨slot_index_lt hv, hsound.registered hv, hlog⟩

/-! ## §3. The steps of the UI thread. -/

theorem Inv.poll (h : Inv s) (hst : s.run .poll = some s') : Inv s' := by
  simp only [Display.run] at hst
  split at hst
  · next hrun =>
    cases hst
    split
    · next hp =>
      refine ⟨h.sound, ?_⟩
      cases h.phase with
      | clear hpend => exact absurd (hpend.symm.trans hp) (by decide)
      | raised t e hv hpend ht hother hid hui hlog =>
        exact .raised t e hv hpend ht hother hid (Or.inr rfl) hlog
      | stored e hv hpend hstore hid hui hlog =>
        exact .stored e hv hpend hstore hid (Or.inr (Or.inl rfl)) hlog
      | shown e hv hpend hstore hid hui hlog => exact absurd (hrun.symm.trans hui) (by simp)
    · exact h
  · cases hst

/-- The read, once the id is stored. -/
theorem Inv.read (h : Inv s) (hok : ReadsStored s .read) (hst : s.run .read = some s') :
    Inv s' := by
  simp only [Display.run] at hst
  split at hst
  · next hact =>
    cases hst
    refine ⟨h.sound, ?_⟩
    cases h.phase with
    | clear hpend hstore hid hui => exact absurd (hact.symm.trans hui) (by simp)
    | raised t e hv hpend ht => exact absurd ((hok t).symm.trans ht) (by simp)
    | stored e hv hpend hstore hid hui hlog =>
      obtain ⟨d, hd, -⟩ := h.sound.registered hv
      refine .stored e hv hpend hstore hid (Or.inr (Or.inr (Or.inl ?_))) hlog
      dsimp only
      rw [hid, hd]
      rfl
    | shown e hv hpend hstore hid hui hlog => exact absurd (hact.symm.trans hui) (by simp)
  · cases hst

theorem Inv.activate {created : CreateResult} (h : Inv s)
    (hst : s.run (.activate created) = some s') : Inv s' := by
  simp only [Display.run] at hst
  split at hst
  · next e hui =>
    obtain ⟨d, hd, rfl⟩ := Option.map_eq_some_iff.mp hst
    obtain ⟨hsound, hflag, hsame⟩ :=
      h.sound.activate (UI_SCREEN_SLOT_INDEX e) d created
    refine ⟨hsound, ?_⟩
    cases h.phase with
    | clear _ _ _ hui' => exact absurd (hui.symm.trans hui') (by simp)
    | raised _ _ _ _ _ _ _ hui' =>
      rcases hui' with h' | h' <;> exact absurd (hui.symm.trans h') (by simp)
    | stored e' hv hpend hstore hid hui' hlog =>
      have heq : e = e' := by
        rcases hui' with h' | h' | h' | h' <;> simpa using hui.symm.trans h'
      subst heq
      refine .stored e hv (hflag.trans hpend) hstore (hsame.trans hid) ?_ hlog
      dsimp only
      split
      · exact Or.inr (Or.inr (Or.inr rfl))
      · exact Or.inl rfl
    | shown _ _ _ _ _ hui' => exact absurd (hui.symm.trans hui') (by simp)
  · cases hst

theorem Inv.reset (h : Inv s) (hst : s.run .reset = some s') : Inv s' := by
  simp only [Display.run] at hst
  split at hst
  · next e hui =>
    cases hst
    have hsound : ({ s.manager with ePendingScreenId := .none } : UIScreenManager).Sound :=
      h.sound.congr rfl rfl
    refine ⟨hsound, ?_⟩
    cases h.phase with
    | clear _ _ _ hui' => exact absurd (hui.symm.trans hui') (by simp)
    | raised _ _ _ _ _ _ _ hui' =>
      rcases hui' with h' | h' <;> exact absurd (hui.symm.trans h') (by simp)
    | stored e' hv hpend hstore hid hui' hlog =>
      have heq : e = e' := by
        rcases hui' with h' | h' | h' | h' <;> simpa using hui.symm.trans h'
      subst heq
      exact .shown e hv hpend hstore rfl rfl hlog
    | shown _ _ _ _ _ hui' => exact absurd (hui.symm.trans hui') (by simp)
  · cases hst

theorem Inv.lower (h : Inv s) (hst : s.run .lower = some s') : Inv s' := by
  simp only [Display.run] at hst
  split at hst
  · next e hui =>
    cases hst
    have hsound : ({ s.manager with bIsTransitionPending := false } : UIScreenManager).Sound :=
      h.sound.congr rfl rfl
    refine ⟨hsound, ?_⟩
    cases h.phase with
    | clear _ _ _ hui' => exact absurd (hui.symm.trans hui') (by simp)
    | raised _ _ _ _ _ _ _ hui' =>
      rcases hui' with h' | h' <;> exact absurd (hui.symm.trans h') (by simp)
    | stored _ _ _ _ _ hui' =>
      rcases hui' with h' | h' | h' | h' <;> exact absurd (hui.symm.trans h') (by simp)
    | shown e' hv hpend hstore hid hui' hlog =>
      have heq : e = e' := by simpa using hui.symm.trans hui'
      subst heq
      exact .clear rfl hstore hid rfl hlog
  · cases hst

/-- Read before the id is stored, the id is still `eScreen_None`. -/
theorem Inv.read_early (h : Inv s) (hearly : ¬ ReadsStored s .read)
    (hst : s.run .read = some s') : s'.ui = .stray .none := by
  simp only [Display.run] at hst
  split at hst
  · cases hst
    have hid : s.manager.ePendingScreenId = .none := by
      cases h.phase with
      | raised _ _ _ _ _ _ hid => exact hid
      | clear _ hstore => exact absurd hstore hearly
      | stored _ _ _ hstore => exact absurd hstore hearly
      | shown _ _ _ hstore => exact absurd hstore hearly
    dsimp only
    rw [hid, h.sound.slot_none]
    rfl
  · cases hst

/-! ## §4. All steps. -/

theorem ite_some {p : Prop} [Decidable p] {o : Option (Display ι)}
    (h : (if p then o else none) = some s') : o = some s' := by
  split at h
  · exact h
  · cases h

variable [DecidableEq ι]

theorem Inv.request {t : Thread ι} {eID : ScreenId} (h : Inv s)
    (hst : s.request t eID = some s') : Inv s' := by
  unfold Display.request at hst
  cases ht : s.storing t with
  | some e =>
    rw [ht] at hst
    cases hst
  | none =>
    rw [ht] at hst
    rcases request_cases h.sound eID with ⟨heq, hv, hclear⟩ | heq
    · rw [heq] at hst
      cases hst
      have hsound : ({ s.manager with bIsTransitionPending := true } : UIScreenManager).Sound :=
        h.sound.congr rfl rfl
      refine ⟨hsound, ?_⟩
      cases h.phase with
      | clear hpend hstore hid hui hlog =>
        refine .raised t eID hv rfl (Function.update_self ..) ?_ hid (Or.inl hui) ?_
        · intro t' hne
          exact (Function.update_of_ne hne ..).trans (hstore t')
        · show s.accepted ++ [eID] = s.activated ++ [eID]
          rw [hlog]
      | raised _ _ _ hpend => exact absurd (hclear.symm.trans hpend) (by decide)
      | stored _ _ hpend => exact absurd (hclear.symm.trans hpend) (by decide)
      | shown _ _ hpend => exact absurd (hclear.symm.trans hpend) (by decide)
    · rw [heq] at hst
      cases hst
      exact h

theorem Inv.store {t : Thread ι} (h : Inv s) (hst : s.store t = some s') : Inv s' := by
  unfold Display.store at hst
  obtain ⟨e', ht', rfl⟩ := Option.map_eq_some_iff.mp hst
  have hsound : ({ s.manager with ePendingScreenId := e' } : UIScreenManager).Sound :=
    h.sound.congr rfl rfl
  refine ⟨hsound, ?_⟩
  cases h.phase with
  | clear hpend hstore => exact absurd ((hstore t).symm.trans ht') (by simp)
  | stored _ _ _ hstore => exact absurd ((hstore t).symm.trans ht') (by simp)
  | shown _ _ _ hstore => exact absurd ((hstore t).symm.trans ht') (by simp)
  | raised t₀ e hv hpend ht hother hid hui hlog =>
    by_cases hne : t = t₀
    · subst hne
      obtain rfl := Option.some.inj (ht.symm.trans ht')
      refine .stored e hv hpend ?_ rfl ?_ hlog
      · intro t'
        by_cases h' : t' = t
        · subst h'
          exact Function.update_self ..
        · exact (Function.update_of_ne h' ..).trans (hother t' h')
      · rcases hui with hui | hui
        · exact Or.inl hui
        · exact Or.inr (Or.inl hui)
    · exact absurd ((hother t hne).symm.trans ht') (by simp)

theorem Inv.step {a : Act ι} (h : Inv s) (hok : ReadsStored s a) (hst : s.step a = some s') :
    Inv s' := by
  cases a with
  | request t eID => exact h.request hst
  | store t => exact h.store hst
  | poll => exact h.poll (ite_some hst)
  | read => exact h.read hok (ite_some hst)
  | activate created => exact h.activate (ite_some hst)
  | reset => exact h.reset (ite_some hst)
  | lower => exact h.lower (ite_some hst)

/-! ## §5. All runs. -/

/-- **Screen requests over all runs.**  In the runs whose UI thread reads the
pending id only when no thread has still to store one, every accepted request
is served by its own id, and the flag is lowered for it alone; and the next
step keeps this exactly when it meets the condition. -/
theorem screen_requests_served (h : (displaySystem ι).ReachableVia ReadsStored s) :
    Served s ∧ ∀ a s', (displaySystem ι).step s a s' → (Served s' ↔ ReadsStored s a) := by
  have hi : Inv s := by
    refine TransSys.ReachableVia.invariant (I := Inv) ?_ ?_ h
    · rintro s rfl
      exact Inv.init
    · intro s a s' hi hok hst
      exact hi.step hok hst
  refine ⟨hi.served, ?_⟩
  intro a s' hst
  constructor
  · intro hserved
    cases a with
    | read =>
      by_contra hearly
      exact hserved.inTable _ (hi.read_early hearly (ite_some hst))
    | request | store | poll | activate | reset | lower => exact trivial
  · intro hok
    exact (hi.step hok hst).served

/-- A worker asks for the welcome screen, the id is stored between the poll and
the read, and the UI thread shows the screen. -/
theorem screen_requests_served_welcome :
    ∃ s : Display Unit, s.activated = [.welcome] ∧ s.manager.pstActiveDescriptor = some 0
      ∧ Served s := by
  have hraised : (displaySystem Unit).ReachableVia ReadsStored _ :=
    .step (a := .poll) (.step (a := .request (.worker ()) .welcome) (.init rfl) trivial rfl)
      trivial rfl
  have hread : (displaySystem Unit).ReachableVia ReadsStored _ :=
    .step (a := .read) (.step (a := .store (.worker ())) hraised trivial rfl)
      (fun t => by rcases t with _ | ⟨⟨⟩⟩ <;> rfl) rfl
  have hshown : (displaySystem Unit).ReachableVia ReadsStored _ :=
    .step (a := .lower) (.step (a := .reset) (.step (a := .activate ⟨true, true⟩) hread
      trivial rfl) trivial rfl) trivial rfl
  exact ⟨_, rfl, rfl, (screen_requests_served hshown).1⟩

/-- The UI thread reads between the exchange of a request and its store: it
finds `eScreen_None`, whose index is `2 ^ 32 - 1`. -/
theorem screen_request_overtaken :
    ¬ ∀ s : Display Unit, (displaySystem Unit).Reachable s → Served s := by
  intro h
  have hreach : (displaySystem Unit).Reachable _ :=
    .step (a := .read) (.step (a := .poll) (.step (a := .request (.worker ()) .welcome)
      (.init rfl) trivial rfl) trivial rfl) trivial rfl
  exact (h _ hreach).inTable .none rfl

end WallController.Lvgl
