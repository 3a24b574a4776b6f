/-
  WallController.AudioSrc.LockOrder
  ────────────────────────────────
  **THE ORDER OF THE LOCKS.**

  The selection comes first, then the sources from the first on.  Every exit
  of a call has unlocked what the call locked, also after some of the locks.

  Main result: `locks_program`, for each call.
-/
import WallController.AudioSrc.Concurrent

namespace WallController.AudioSrc.Concurrent

open WallController.Lib Prog

variable {crc32 : List UInt8 → UInt32} {id : AudioSrcId} {ids : List AudioSrcId}

/-! ## §1. The helpers. -/

/-- The selection mutex comes first, then the sources. -/
def MutexId.rank : MutexId → Nat
  | .selection => 0
  | .source id => id + 1

theorem MutexId.rank_le (m : MutexId) : m.rank ≤ eNUMBER_OF_AUDIO_SOURCES := by
  cases m with
  | selection => exact Nat.zero_le _
  | source id => exact id.isLt

/-- The mutexes of the sources in a list. -/
def sources (ids : List AudioSrcId) : Set MutexId := {m | ∃ id ∈ ids, m = .source id}

abbrev Locks {ρ : Type} (p : Program ρ) (held : Set MutexId) (H : ρ → Set MutexId) : Prop :=
  p.Orderly MutexId.rank held H

variable {held base : Set MutexId}

theorem locks_unlockEach :
    Locks (unlockEach ids) held fun _ => held \ sources ids := by
  induction ids generalizing held with
  | nil =>
      intro m hm
      refine ⟨hm, ?_⟩
      rintro ⟨id, hid, -⟩
      exact List.not_mem_nil hid
  | cons id ids ih =>
      refine .bind orderly_mutexUnlock fun _ => ih.mono fun _ m hm => ?_
      obtain ⟨⟨hm, hne⟩, hids⟩ := hm
      refine ⟨hm, ?_⟩
      rintro ⟨i, hi, rfl⟩
      rcases List.mem_cons.mp hi with rfl | hi
      · exact hne rfl
      · exact hids ⟨i, hi, rfl⟩

/-- What the locks of sources come to: all wanted ones are held, or none is. -/
theorem locks_lockEach {wanted : AudioSrcId → Bool}
    {rollback : List AudioSrcId → List AudioSrcId} {locked : List AudioSrcId}
    (hroll : ∀ l i, i ∈ l → i ∈ rollback l) (hbase : base ⊆ {.selection})
    (hsorted : (locked ++ ids).Pairwise (· < ·)) :
    Locks (lockEach wanted rollback ids locked) (base ∪ sources locked) fun r =>
      if r = 0 then base ∪ sources (locked ++ ids.filter wanted) else base := by
  induction ids generalizing locked with
  | nil =>
      refine orderly_pure ?_
      rw [if_pos rfl, List.filter_nil, List.append_nil]
  | cons id ids ih =>
      unfold lockEach
      by_cases hid : wanted id = true
      · rw [if_pos hid, List.filter_cons_of_pos hid]
        have hbelow : ∀ m ∈ base ∪ sources locked, m.rank < (MutexId.source id).rank := by
          rintro m (hm | ⟨i, hi, rfl⟩)
          · rw [hbase hm]
            exact Nat.succ_pos _
          · have hlt := (List.pairwise_append.mp hsorted).2.2 i hi id List.mem_cons_self
            exact Nat.succ_lt_succ hlt
        refine .bind (orderly_mutexLock hbelow) fun b => ?_
        cases b with
        | true =>
            have hsorted' : ((locked ++ [id]) ++ ids).Pairwise (· < ·) := by
              rw [List.append_assoc]
              exact hsorted
            have hnext := ih hsorted'
            rw [List.append_assoc] at hnext
            refine hnext.anti ?_
            rintro m (rfl | hm | ⟨i, hi, rfl⟩)
            · exact Or.inr ⟨id, by simp, rfl⟩
            · exact Or.inl hm
            · exact Or.inr ⟨i, List.mem_append_left _ hi, rfl⟩
        | false =>
            refine .bind locks_unlockEach fun _ => ?_
            rintro m ⟨hm | ⟨i, hi, rfl⟩, hnot⟩
            · exact hm
            · exact absurd ⟨i, hroll locked i hi, rfl⟩ hnot
      · rw [if_neg hid, List.filter_cons_of_neg hid]
        refine ih (hsorted.sublist ?_)
        exact List.Sublist.append_left (List.sublist_cons_self id ids) locked

/-- The mutexes of `iLock_AudioSources`. -/
def wantedSources (eFirst : Option AudioSrcId) (id : AudioSrcId) : Set MutexId :=
  sources ((List.finRange eNUMBER_OF_AUDIO_SOURCES).filter (oneOf eFirst id))

theorem locks_lockSources {eFirst : Option AudioSrcId} (hbase : base ⊆ {.selection}) :
    Locks (iLockAudioSources eFirst id) base fun r =>
      if r = 0 then base ∪ wantedSources eFirst id else base := by
  have h : Locks (lockEach (oneOf eFirst id) (fun l => l) (List.finRange _) [])
      (base ∪ sources []) _ :=
    locks_lockEach (fun _ _ h => h) hbase (List.pairwise_lt_finRange _)
  exact h.anti fun _ hm => Or.inl hm

/-- The unlock of what an unlock list covers. -/
theorem locks_unlockAll {locked : List AudioSrcId} (h : ∀ i ∈ locked, i ∈ ids) :
    Locks (unlockEach ids) (base ∪ sources locked) fun _ => base := by
  refine locks_unlockEach.mono fun _ => ?_
  rintro m ⟨hm | ⟨i, hi, rfl⟩, hnot⟩
  · exact hm
  · exact absurd ⟨i, h i hi, rfl⟩ hnot

theorem locks_unlockSources {eFirst : Option AudioSrcId} :
    Locks (vUnlockAudioSources eFirst id) (base ∪ wantedSources eFirst id) fun _ => base := by
  refine locks_unlockAll fun i hi => ?_
  rw [List.mem_filter] at hi ⊢
  exact ⟨List.mem_reverse.mpr hi.1, hi.2⟩

theorem locks_unlockSelection {ρ : Type} {r : ρ} :
    Locks (do let _ ← .mutexUnlock .selection; return r) {.selection} fun _ => ∅ :=
  .bind orderly_mutexUnlock fun _ _ hm => hm.2 hm.1

theorem locks_releaseAll {eFirst : Option AudioSrcId} {iResult : Int} :
    Locks (releaseAll eFirst id iResult) ({.selection} ∪ wantedSources eFirst id) fun _ => ∅ :=
  .bind locks_unlockSources fun _ => locks_unlockSelection

theorem locks_saveOrRestore {restore : AudioSourceConfig → AudioSourceConfig} :
    Locks (saveOrRestore crc32 id restore) held fun _ => held := by
  have hfile : Locks (iUpdateAudioSrcFile crc32 id) held fun _ => held := by
    unfold iUpdateAudioSrcFile
    refine .bind orderly_read fun caSrcName => .bind orderly_read fun uiVolume => ?_
    refine .bind orderly_read fun eSrcType => .bind orderly_read fun eSrcId => ?_
    refine .bind orderly_read fun bIsActive => .bind orderly_read fun bIsMute => ?_
    refine .bind orderly_read fun bIsSelected => ?_
    split
    · exact subset_rfl
    · exact .bind orderly_read fun ePathId => .bind orderly_call fun r => subset_rfl
  refine .bind hfile fun r => ?_
  split
  · exact subset_rfl
  · exact .bind orderly_write fun _ => subset_rfl

theorem locks_findSelected : Locks (findSelected ids) held fun _ => held := by
  induction ids with
  | nil => exact subset_rfl
  | cons id ids ih =>
      refine .bind orderly_read fun b => ?_
      cases b with
      | true => exact subset_rfl
      | false => exact ih

theorem locks_copy {c : AudioSourceConfig} :
    Locks (vCopyAudioSrcConfiguration id c) held fun _ => held := by
  unfold vCopyAudioSrcConfiguration
  refine .bind orderly_write fun _ => .bind orderly_write fun _ => ?_
  refine .bind orderly_write fun _ => .bind orderly_write fun _ => ?_
  exact .bind orderly_write fun _ => .bind orderly_write fun _ => orderly_write

theorem locks_copyEach {staTemp : AudioSrcId → AudioSourceConfig} :
    Locks (copyEach staTemp ids) held fun _ => held := by
  induction ids with
  | nil => exact subset_rfl
  | cons id ids ih => exact .bind locks_copy fun _ => ih

/-! ## §2. The calls. -/

theorem locks_withSource {ρ : Type} {eSrcId : Nat} {refused : Program ρ}
    {f : AudioSrcId → Program ρ} {H : ρ → Set MutexId} (hrefused : Locks refused held H)
    (hf : ∀ id, Locks (f id) held H) : Locks (withSource eSrcId refused f) held H := by
  unfold withSource
  split
  · exact hf _
  · exact hrefused

theorem locks_ifRead {ρ : Type} {f : Ram → Bool} {p q : Program ρ} {H : ρ → Set MutexId}
    (hp : Locks p held H) (hq : Locks q held H) :
    Locks (do if ← .read f then p else q) held H := by
  refine .bind orderly_read fun b => ?_
  cases b with
  | true => exact hp
  | false => exact hq

/-- A call that locks one mutex and returns if that fails. -/
theorem locks_ifLock {ρ : Type} {m : MutexId} {p q : Program ρ} {H : ρ → Set MutexId}
    (hp : Locks p {m} H) (hq : Locks q ∅ H) : Locks (do if ← .mutexLock m then p else q) ∅ H := by
  refine .bind (orderly_mutexLock fun m' hm' => absurd hm' (Set.notMem_empty m')) fun b => ?_
  cases b with
  | true => exact hp.anti fun m' hm' => hm'.resolve_right (Set.notMem_empty m')
  | false => exact hq

theorem locks_mute (eSrcId : Nat) (bIsMute : Bool) :
    Locks (bUpdateAudioSrcMuteStatus crc32 eSrcId bIsMute) ∅ fun _ => ∅ := by
  refine locks_withSource subset_rfl fun id => locks_ifRead (locks_ifLock ?_ subset_rfl) subset_rfl
  have hunlock : Locks (.mutexUnlock (.source id)) {.source id} fun _ => ∅ :=
    orderly_mutexUnlock.mono fun _ m hm => hm.2 hm.1
  refine .bind orderly_read fun bPrevious => ?_
  by_cases hsame : bPrevious = bIsMute
  · rw [if_pos hsame]
    exact hunlock
  · rw [if_neg hsame]
    refine .bind orderly_write fun _ => .bind locks_saveOrRestore fun r => ?_
    exact .bind hunlock fun _ => subset_rfl

theorem locks_volume (eSrcId : Nat) (uiVolume : UInt8) :
    Locks (iUpdateAudioSrcVolume crc32 eSrcId uiVolume) ∅ fun _ => ∅ := by
  refine locks_withSource subset_rfl fun id => ?_
  split
  · exact subset_rfl
  refine locks_ifRead (.bind (locks_lockSources (Set.empty_subset _)) fun r => ?_) subset_rfl
  by_cases hr : r = 0
  · rw [if_pos hr, if_pos hr]
    refine .bind orderly_read fun uiPrevious => ?_
    by_cases hsame : uiPrevious = uiVolume.toUInt16
    · rw [if_pos hsame]
      exact .bind locks_unlockSources fun _ => subset_rfl
    · rw [if_neg hsame]
      refine .bind orderly_write fun _ => .bind locks_saveOrRestore fun r => ?_
      exact .bind locks_unlockSources fun _ => subset_rfl
  · rw [if_neg hr, if_neg hr]
    exact subset_rfl

/-- The lock of two sources by the owner of the selection, which unlocks it if that
fails. -/
theorem locks_withSources {eFirst : Option AudioSrcId} {p : Program Int}
    (hp : Locks p ({.selection} ∪ wantedSources eFirst id) fun _ => ∅) :
    Locks (do
      let iResult ← iLockAudioSources eFirst id
      if iResult = 0 then p
      else
        let _ ← .mutexUnlock .selection
        return iResult) {.selection} fun _ => ∅ := by
  refine .bind (locks_lockSources subset_rfl) fun r => ?_
  by_cases hr : r = 0
  · rw [if_pos hr, if_pos hr]
    exact hp
  · rw [if_neg hr, if_neg hr]
    exact locks_unlockSelection

/-- The write of one flag, and the end of the call. -/
theorem locks_saveAndRelease {eFirst : Option AudioSrcId} {id i : AudioSrcId}
    {f restore : AudioSourceConfig → AudioSourceConfig} :
    Locks (do
      store i f
      let iResult ← saveOrRestore crc32 i restore
      releaseAll eFirst id iResult) ({.selection} ∪ wantedSources eFirst id) fun _ => ∅ :=
  .bind orderly_write fun _ => .bind locks_saveOrRestore fun _ => locks_releaseAll

theorem locks_select {ePrevious : Option AudioSrcId} :
    Locks (select crc32 ePrevious id) {.selection} fun _ => ∅ := by
  unfold select
  split
  · exact locks_unlockSelection
  refine locks_withSources (locks_ifRead ?_ locks_releaseAll)
  cases ePrevious with
  | none => exact locks_saveAndRelease
  | some prev =>
      refine .bind orderly_write fun _ => .bind locks_saveOrRestore fun r => ?_
      split
      · exact locks_saveAndRelease
      · exact locks_releaseAll

theorem locks_updateSelected (eSrcId : Nat) (bIsSelected : Bool) :
    Locks (iUpdateAudioScrSelected crc32 eSrcId bIsSelected) ∅ fun _ => ∅ := by
  refine locks_withSource subset_rfl fun id => locks_ifRead (locks_ifLock ?_ subset_rfl) subset_rfl
  refine .bind locks_findSelected fun ePrevious => ?_
  cases bIsSelected with
  | true => exact locks_select
  | false => exact locks_withSources (locks_ifRead locks_saveAndRelease locks_releaseAll)

theorem locks_updateConfigurations (puiData : List UInt8) (eSrcId : Nat) :
    Locks (iUpdateAudioSrcConfigurations crc32 puiData eSrcId) ∅ fun _ => ∅ := by
  unfold iUpdateAudioSrcConfigurations
  split
  · exact subset_rfl
  refine locks_withSource subset_rfl fun id => locks_ifRead ?_ subset_rfl
  cases decodeBytes crc32 id puiData with
  | none => exact subset_rfl
  | some c =>
      refine locks_ifLock (locks_withSources ?_) subset_rfl
      refine .bind locks_findSelected fun eSelected => ?_
      split
      · exact locks_releaseAll
      refine .bind orderly_call fun r => ?_
      split
      · exact .bind locks_copy fun _ => locks_releaseAll
      · exact locks_releaseAll

theorem locks_initMutexes : Locks bInitAudioSrcMutexes ∅ fun _ => ∅ := by
  have heach : ∀ ids, Locks (initEach ids) ∅ fun _ => ∅ := by
    intro ids
    induction ids with
    | nil => exact subset_rfl
    | cons id ids ih =>
        refine .bind orderly_mutexInit fun b => ?_
        cases b with
        | true => exact ih
        | false => exact subset_rfl
  refine locks_ifRead subset_rfl (.bind (heach _) fun b => ?_)
  cases b with
  | true => exact .bind orderly_write fun _ => subset_rfl
  | false => exact subset_rfl

theorem locks_readEach (staTemp : AudioSrcId → AudioSourceConfig) :
    Locks (readEach crc32 ids staTemp) ∅ fun _ => ∅ := by
  induction ids generalizing staTemp with
  | nil => exact subset_rfl
  | cons id ids ih =>
      refine .bind orderly_call fun r => ?_
      split
      · cases decodeBytes crc32 id r.data with
        | none => exact subset_rfl
        | some c => exact ih _
      · exact subset_rfl

theorem locks_install (staTemp : AudioSrcId → AudioSourceConfig) :
    Locks (install staTemp) ∅ fun _ => ∅ := by
  refine locks_ifLock ?_ subset_rfl
  have hlock : Locks (lockEach (fun _ => true) List.reverse (List.finRange _) [])
      ({.selection} ∪ sources []) _ :=
    locks_lockEach (fun _ _ => List.mem_reverse.mpr) subset_rfl (List.pairwise_lt_finRange _)
  refine .bind (hlock.anti fun _ hm => Or.inl hm) fun r => ?_
  by_cases hr : r = 0
  · rw [if_pos hr, if_pos hr]
    refine .bind locks_copyEach fun _ => .bind (locks_unlockAll fun i _ => ?_) fun _ => ?_
    · exact List.mem_reverse.mpr (List.mem_finRange i)
    refine .bind orderly_mutexUnlock fun _ => .bind orderly_write fun _ => ?_
    exact fun _ hm => hm.2 hm.1
  · rw [if_neg hr, if_neg hr]
    exact locks_unlockSelection

theorem locks_loadConfigurations : Locks (bLoadAudioConfigurations crc32) ∅ fun _ => ∅ := by
  refine .bind locks_initMutexes fun b => ?_
  cases b with
  | false => exact subset_rfl
  | true =>
      refine .bind orderly_write fun _ => .bind (locks_readEach _) fun table => ?_
      cases table with
      | none => exact subset_rfl
      | some staTemp =>
          show Locks (if _ then _ else _) _ _
          split
          · exact locks_install staTemp
          · exact subset_rfl

theorem locks_program (c : Call) : Locks (c.program crc32) ∅ fun _ => ∅ := by
  cases c with
  | mute eSrcId bIsMute => exact .bind (locks_mute eSrcId bIsMute) fun _ => subset_rfl
  | volume eSrcId uiVolume => exact locks_volume eSrcId uiVolume
  | select eSrcId bIsSelected => exact locks_updateSelected eSrcId bIsSelected
  | configure puiData eSrcId => exact locks_updateConfigurations puiData eSrcId
  | load => exact .bind locks_loadConfigurations fun _ => subset_rfl

end WallController.AudioSrc.Concurrent
