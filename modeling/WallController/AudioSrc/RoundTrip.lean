/-
  WallController.AudioSrc.RoundTrip
  ────────────────────────────────
  **THE RECORD OF AN ENTRY, AND BACK.**

  The encoder checks the name and the volume of an entry, the decoder also its
  type, its flags and the bytes after the name.  What the encoder does not
  check holds in every run (`Sound`): an entry is empty, or it was decoded.

  The load is a step here that may come at any time, as often as it likes.

  Main results:
    * `sound_of_loaded`: the table is sound after any operations and loads.
    * `record_round_trip`: its entries are encoded and decoded to themselves, and
      a record that is accepted is the one of its entry.
-/
import WallController.AudioSrc.Effects

namespace WallController.AudioSrc

open WallController.Lib

variable (crc32 : List UInt8 → UInt32)

/-! ## §1. The load as an operation. -/

/-- `bLoad_AudioConfigurations` where a file may not be read (`bRead`) and a lock not
be obtained (`bLock`); the lock of the selection is held by a suspended one. -/
def Store.load (s : Store) (bRead bLock : Bool) : Store :=
  if bRead && bLock && s.eSelecting.isNone then (s.bLoadAudioConfigurations crc32).2
  else { s with bAudioSrcMutexesInitialized := true, bConfigurationsLoaded := false }

inductive LoadedOperation where
  | operation (a : Operation)
  | load (bRead bLock : Bool)

def Store.loadedStep (s : Store) : LoadedOperation → Store
  | .operation a => s.step crc32 a
  | .load bRead bLock => s.load crc32 bRead bLock

/-- From power-up on, with any files. -/
def recordSystem : TransSys Store LoadedOperation where
  init s := ∃ files, s = Store.powerUp files
  step s a s' := s' = s.loadedStep crc32 a

/-! ## §2. What holds in every run. -/

variable {crc32} {s : Store}

theorem sound_powerUp (files : SourceFiles) : Sound (Store.powerUp files) where
  entry _ := Or.inl rfl
  single i hi := by
    have hmarked : Marked AudioSourceConfig.zero := hi
    cases hmarked
  suspended prev next h := by cases h

/-- A load installs four decoded entries, or none. -/
theorem Sound.load (hs : Sound s) (bRead bLock : Bool) : Sound (s.load crc32 bRead bLock) := by
  have hsame : ∀ bInit bLoaded, Sound { s with
      bAudioSrcMutexesInitialized := bInit, bConfigurationsLoaded := bLoaded } :=
    fun _ _ => ⟨hs.entry, hs.single, hs.suspended⟩
  unfold Store.load
  split
  · rename_i hload
    have hnone : s.eSelecting = none := by
      simp only [Bool.and_eq_true, Option.isNone_iff_eq_none] at hload
      exact hload.2
    unfold Store.bLoadAudioConfigurations
    simp only []
    split
    · rename_i hread
      split
      · exact hsame true false
      · rename_i hvalid
        simp only [Bool.not_eq_true, Bool.not_eq_false', Store.bValidateAllSourceConfigurations,
          Bool.and_eq_true, decide_eq_true_eq] at hvalid
        refine ⟨fun id => Or.inr ?_, ?_, ?_⟩
        · obtain ⟨b, -, hb⟩ := Option.bind_eq_some_iff.mp (Option.some_get (hread id)).symm
          exact wellFormed_of_decodeBytes hb
        · intro i hi j hj
          exact Finset.card_le_one.mp hvalid.2 i
            (Finset.mem_filter.mpr ⟨Finset.mem_univ i, hi⟩) j
            (Finset.mem_filter.mpr ⟨Finset.mem_univ j, hj⟩)
        · intro prev next h
          rw [show s.eSelecting = some (prev, next) from h] at hnone
          cases hnone
    · exact hsame true false
  · exact hsame true false

theorem sound_of_loaded (h : (recordSystem crc32).Reachable s) : Sound s := by
  refine h.invariant ?_ ?_
  · rintro s ⟨files, rfl⟩
    exact sound_powerUp files
  · rintro s a s' hs rfl
    cases a with
    | operation a => exact hs.step a
    | load bRead bLock => exact hs.load bRead bLock

/-! ## §3. The round trip. -/

theorem wellFormed_of_encode {id : AudioSrcId} {r : AudioSourceConfigRecord}
    (hs : Sound s) (h : bEncodeAudioSrcConfiguration crc32 (s.staAudioSrcConfigs id) = some r) :
    WellFormed id (s.staAudioSrcConfigs id) := by
  refine (hs.entry id).resolve_left fun hzero => ?_
  rw [hzero] at h
  cases h

variable (crc32) in
/-- **The round trip.**  In every run the record of an entry is accepted for its source
and decoded to the entry, and only an entry without a name has none; and a record that is
accepted for a source is the record of what it is decoded to. -/
theorem record_round_trip :
    (∀ s, (recordSystem crc32).Reachable s → ∀ id,
      (s.staAudioSrcConfigs id = .zero
        ∨ (bEncodeAudioSrcConfiguration crc32 (s.staAudioSrcConfigs id)).isSome)
      ∧ ∀ r, bEncodeAudioSrcConfiguration crc32 (s.staAudioSrcConfigs id) = some r →
        r.toBytes.length = 48
          ∧ bDecodeAudioSourceConfiguration crc32 r id = some (s.staAudioSrcConfigs id))
      ∧ ∀ r id c, bDecodeAudioSourceConfiguration crc32 r id = some c →
        bEncodeAudioSrcConfiguration crc32 c = some r := by
  refine ⟨fun s hreach id => ⟨?_, fun r hr => ?_⟩, fun r id c h => ?_⟩
  · refine ((sound_of_loaded hreach).entry id).imp_right fun hwf => ?_
    rw [(decode_encode hwf).1]
    rfl
  · have hwf := wellFormed_of_encode (sound_of_loaded hreach) hr
    rw [(decode_encode hwf).1] at hr
    obtain rfl := Option.some.inj hr
    exact ⟨AudioSourceConfigRecord.length_toBytes _, (decode_encode hwf).2⟩
  · rw [(decode_encode (wellFormed_of_decode h)).1, record_of_decode h]

end WallController.AudioSrc
