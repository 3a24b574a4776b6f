/-
  WallController.AudioSrc.Unique
  ────────────────────────────────
  **ONE SELECTED SOURCE UNDER CONCURRENCY.**

  Main result: `selection_unique`.  In every state that the calls reach, in any
  interleaving and with any lock timeouts and file errors, at most one source
  is selected while the selection mutex is free, the finished calls have
  released their mutexes, and no threads are deadlocked.
-/
import WallController.AudioSrc.FlagGuard
import WallController.AudioSrc.LockOrder
import WallController.AudioSrc.Selection
import Mathlib

namespace WallController.AudioSrc.Concurrent

open WallController.Lib

variable {crc32 : List UInt8 → UInt32}

/-- While the selection is free at most one source is selected, an active one; the
threads whose calls are finished own no mutex; and no threads wait for each
other. -/
structure SelectionUnique {ι : Type} (s : Threads ι Ram MutexId FileCall FileResult Int) :
    Prop where
  single : (s.mutexes .selection).owner = none → ∀ i j,
    (s.mem.staAudioSrcConfigs i).bIsSelected = true →
      (s.mem.staAudioSrcConfigs j).bIsSelected = true → i = j
  active : (s.mutexes .selection).owner = none → ∀ i,
    (s.mem.staAudioSrcConfigs i).bIsSelected = true →
      (s.mem.staAudioSrcConfigs i).bIsActive = true
  released : ∀ t r, s.pc t = .ret r → ∀ m, (s.mutexes m).owner ≠ some t
  noDeadlock : ∀ S, ¬ Deadlock (fun m => (s.mutexes m).owner) (fun t => (s.pc t).waits) S

/-- **One selected source**, in every state that any interleaving of the calls reaches. -/
theorem selection_unique {ι : Type} [DecidableEq ι]
    {s : Threads ι Ram MutexId FileCall FileResult Int} (h : (callSystem crc32 ι).Reachable s) :
    SelectionUnique s := by
  have hgood : (s.mutexes .selection).owner = none → s.mem.flags.Consistent := by
    refine Threads.good_of_reachable safe_program ?_ h
    rintro r rfl
    refine ⟨fun i j hi _ => ?_, fun i hi => ?_⟩
    · cases hi
    · cases hi
  exact {
    single := fun hfree => (hgood hfree).single
    active := fun hfree => (hgood hfree).active
    released := fun t r hidle => Threads.released_of_reachable locks_program h hidle
    noDeadlock := Threads.no_deadlock_of_reachable locks_program MutexId.rank_le h }

/-- Everything idle at power-up. -/
def powerUp (ι : Type) : Threads ι Ram MutexId FileCall FileResult Int where
  mem := .powerUp
  mutexes _ := .free
  pc _ := .ret 0

/-- The next steps of a thread up to its next file access. -/
def goes (t : Bool) (n : Nat) : List (ThreadLabel Bool Call FileResult) :=
  List.replicate n (.next t .go)

/-- One thread loads the sample files.  The other selects source 1; a mute of source 0
times out meanwhile, and the second write of the selection fails. -/
def failedSelection : List (ThreadLabel Bool Call FileResult) :=
  .begins true .load :: goes true 7
    ++ (List.finRange eNUMBER_OF_AUDIO_SOURCES).map
      (fun id => .next true (.result ⟨0, sampleRecord id (id = 0) 10⟩))
    ++ goes true 39 ++ [.begins false (.select 1 true), .begins true (.mute 0 true)]
    ++ goes false 5 ++ [.next true .go, .next true .failed]
    ++ goes false 10 ++ [.next false (.result ⟨0, []⟩)]
    ++ goes false 9 ++ [.next false (.result ⟨- EIO, []⟩)] ++ goes false 4

theorem selection_unique_failedSelection :
    ∃ s, failedSelection.foldlM (Threads.step (Call.program crc32Ieee)) (powerUp Bool) = some s
      ∧ SelectionUnique s := by
  obtain ⟨s, hrun⟩ : ∃ s,
      failedSelection.foldlM (Threads.step (Call.program crc32Ieee)) (powerUp Bool) = some s :=
    Option.isSome_iff_exists.mp (by decide +kernel)
  have hreach : (callSystem crc32Ieee Bool).Reachable s :=
    TransSys.Reachable.foldlM (fun _ _ _ hs => hs)
      (.init ⟨rfl, fun _ => rfl, fun _ => ⟨0, rfl⟩⟩) _ hrun
  exact ⟨s, hrun, selection_unique hreach⟩

end WallController.AudioSrc.Concurrent
