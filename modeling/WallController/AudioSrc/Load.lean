/-
  WallController.AudioSrc.Load
  ────────────────────────────────
  **THE LOAD OF THE CONFIGURATIONS, WITH THE CONNECTION STATES.**

  `bLoad_AudioConfigurations` on all of `staAudioSrcConfigs`: the entries of
  `AudioSrc.Concurrent` and, beside them, the connection states, which no record
  holds.  The load prepares four local entries, the connection state among
  their fields, and copies them into the table with `vCopy_AudioSrcConfiguration`,
  which leaves that field out.

  Any read may fail or answer any bytes, any initialisation of a mutex may fail
  and any lock may time out.

  Main results:
    * `bLoadAudioConfigurations_eq`: this load is that of `AudioSrc.Concurrent`,
      the connection states left alone.
    * `load_all_or_nothing_iff`.
-/
import WallController.AudioSrc.Alone
import WallController.AudioSrc.Selection

namespace WallController.AudioSrc.Load

open WallController.Lib
open WallController.Lib.Prog (Outcomes Alone exec_bind_of exec_lift)
open WallController.AudioSrc.Concurrent

/-! ## §1. The data. -/

/-- `eBLEState_t`. -/
inductive BleState where
  | none
  | pairing
  | disconnecting
  | disconnect
  | connected
  deriving DecidableEq, Repr

/-- `sT_AudioSourceConfig_t`. -/
structure SourceEntry where
  config : AudioSourceConfig
  eBleState : BleState
  deriving DecidableEq, Repr

/-- An entry of zeros. -/
def SourceEntry.zero : SourceEntry := ⟨.zero, .none⟩

/-- The static data; the entry of a source is its part of both tables. -/
structure Statics where
  ram : Ram
  eBleState : AudioSrcId → BleState

/-- The static data at power-up. -/
def Statics.powerUp : Statics := ⟨.powerUp, fun _ => .none⟩

def Statics.entry (s : Statics) (id : AudioSrcId) : SourceEntry :=
  ⟨s.ram.staAudioSrcConfigs id, s.eBleState id⟩

abbrev LoadProgram := Prog Statics MutexId FileCall FileResult

/-- A program that does not access the connection states. -/
def onRam {ρ : Type} (p : Program ρ) : LoadProgram ρ :=
  p.lift Statics.ram fun s r => { s with ram := r }

/-! ## §2. The load. -/

variable (crc32 : List UInt8 → UInt32)

/-- `vCopy_AudioSrcConfiguration`, which copies every field but `eBleState`. -/
def vCopyAudioSrcConfiguration (id : AudioSrcId) (c : SourceEntry) : LoadProgram Unit :=
  onRam (Concurrent.vCopyAudioSrcConfiguration id c.config)

/-- The loop that reads and decodes the files into the local table. -/
def readEach : List AudioSrcId → (AudioSrcId → SourceEntry) →
    LoadProgram (Option (AudioSrcId → SourceEntry))
  | [], staTemp => return some staTemp
  | id :: ids, staTemp => do
    let r ← .call (.read id)
    if r.iResult = 0 then
      match decodeBytes crc32 id r.data with
      | none => return none
      | some c => readEach ids (Function.update staTemp id ⟨c, .disconnect⟩)
    else return none

/-- The copy of the local table. -/
def copyEach (staTemp : AudioSrcId → SourceEntry) : List AudioSrcId → LoadProgram Unit
  | [] => return ()
  | id :: ids => do
    vCopyAudioSrcConfiguration id (staTemp id)
    copyEach staTemp ids

/-- `bLoad_AudioConfigurations` from its locks on, with the valid local table. -/
def install (staTemp : AudioSrcId → SourceEntry) : LoadProgram Bool := do
  if ← .mutexLock .selection then
    let iResult ← onRam
      (lockEach (fun _ => true) List.reverse (List.finRange eNUMBER_OF_AUDIO_SOURCES) [])
    if iResult = 0 then
      copyEach staTemp (List.finRange eNUMBER_OF_AUDIO_SOURCES)
      onRam (unlockEach (List.finRange eNUMBER_OF_AUDIO_SOURCES).reverse)
      let _ ← .mutexUnlock .selection
      onRam (.write fun r => { r with bConfigurationsLoaded := true })
      return true
    else
      let _ ← .mutexUnlock .selection
      return false
  else return false

/-- `bLoad_AudioConfigurations`. -/
def bLoadAudioConfigurations : LoadProgram Bool := do
  if ← onRam bInitAudioSrcMutexes then
    onRam (.write fun r => { r with bConfigurationsLoaded := false })
    match ← readEach crc32 (List.finRange eNUMBER_OF_AUDIO_SOURCES) fun _ => .zero with
    | none => return false
    | some staTemp =>
      if Store.bValidateAllSourceConfigurations fun id => (staTemp id).config then install staTemp
      else return false
  else return false

/-! ## §3. The load of `AudioSrc.Concurrent`. -/

variable {crc32}

theorem onRam_bind {ρ ρ' : Type} (p : Program ρ) (f : ρ → Program ρ') :
    onRam (p >>= f) = (onRam p >>= fun r => onRam (f r)) := Prog.lift_bind _ _ p f

theorem copyEach_eq (staTemp : AudioSrcId → SourceEntry) (ids : List AudioSrcId) :
    copyEach staTemp ids = onRam (Concurrent.copyEach (fun id => (staTemp id).config) ids) := by
  induction ids with
  | nil => rfl
  | cons id ids ih =>
      unfold copyEach Concurrent.copyEach
      rw [onRam_bind, ih]
      rfl

theorem install_eq (staTemp : AudioSrcId → SourceEntry) :
    install staTemp = onRam (Concurrent.install fun id => (staTemp id).config) := by
  unfold install Concurrent.install
  rw [onRam_bind]
  refine congrArg _ (funext fun bLocked => ?_)
  cases bLocked with
  | false => rfl
  | true =>
      show (onRam _ >>= _) = onRam (_ >>= _)
      rw [onRam_bind]
      refine congrArg _ (funext fun iResult => ?_)
      by_cases hzero : iResult = 0
      · rw [if_pos hzero, if_pos hzero, onRam_bind, copyEach_eq]
        refine congrArg _ (funext fun _ => ?_)
        rw [onRam_bind]
        rfl
      · rw [if_neg hzero, if_neg hzero]
        rfl

/-- The reads prepare the same entries, with a connection state that no record holds. -/
theorem bind_readEach {ρ : Type} {f : Option (AudioSrcId → SourceEntry) → LoadProgram ρ}
    {g : Option (AudioSrcId → AudioSourceConfig) → Program ρ} (hnone : f none = onRam (g none))
    (hsome : ∀ staTemp, f (some staTemp) = onRam (g (some fun id => (staTemp id).config)))
    (ids : List AudioSrcId) (staTemp : AudioSrcId → SourceEntry) :
    (readEach crc32 ids staTemp >>= f)
      = onRam (Concurrent.readEach crc32 ids (fun id => (staTemp id).config) >>= g) := by
  induction ids generalizing staTemp with
  | nil => exact hsome staTemp
  | cons id ids ih =>
      show Prog.external _ _ = Prog.external _ _
      refine congrArg _ (funext fun r => ?_)
      show (if r.iResult = 0 then _ else _ : LoadProgram _) >>= f
        = onRam ((if r.iResult = 0 then _ else _ : Program _) >>= g)
      split
      · cases decodeBytes crc32 id r.data with
        | none => exact hnone
        | some c =>
            have htable : (fun id' => (Function.update staTemp id ⟨c, .disconnect⟩ id').config)
                = Function.update (fun id' => (staTemp id').config) id c :=
              Function.comp_update SourceEntry.config staTemp id _
            show (readEach crc32 ids _ >>= f) = onRam (Concurrent.readEach crc32 ids _ >>= g)
            rw [← htable]
            exact ih _
      · exact hnone

/-- **The load of `AudioSrc.Concurrent`** is this one, on its part of the static data. -/
theorem bLoadAudioConfigurations_eq :
    bLoadAudioConfigurations crc32 = onRam (Concurrent.bLoadAudioConfigurations crc32) := by
  unfold bLoadAudioConfigurations Concurrent.bLoadAudioConfigurations
  rw [onRam_bind]
  refine congrArg _ (funext fun bReady => ?_)
  cases bReady with
  | false => rfl
  | true =>
      show (onRam _ >>= _) = onRam (_ >>= _)
      rw [onRam_bind]
      refine congrArg _ (funext fun _ => ?_)
      refine bind_readEach rfl (fun staTemp => ?_) _ _
      dsimp only
      split
      · exact install_eq staTemp
      · rfl

variable (crc32)

/-! ## §4. What the load meets. -/

/-- The reads, the initialisations and the locks of a load. -/
abbrev LoadOutcomes := Outcomes MutexId FileCall FileResult

/-- The decoding of a file, if it is read. -/
def decodedFile (o : LoadOutcomes) (id : AudioSrcId) : Option AudioSourceConfig :=
  if (o.answer (.read id)).iResult = 0 then decodeBytes crc32 id (o.answer (.read id)).data
  else none

/-- The entry that the loader prepares. -/
def prepared (o : LoadOutcomes) (id : AudioSrcId) : SourceEntry :=
  ⟨(decodedFile crc32 o id).getD .zero, .disconnect⟩

/-- The mutexes are initialised, or can be. -/
def MutexesReady (o : LoadOutcomes) (r : Ram) : Prop :=
  r.bAudioSrcMutexesInitialized = true ∨ ∀ id, o.init (.source id) = true

instance (o : LoadOutcomes) (r : Ram) : Decidable (MutexesReady o r) :=
  inferInstanceAs (Decidable (_ ∨ _))

/-- Every file is read and is a record of its source, the four fit together, and no lock
times out. -/
structure AllSucceed (o : LoadOutcomes) (s : Statics) : Prop where
  ready : MutexesReady o s.ram
  files : ∀ id, (decodedFile crc32 o id).isSome
  valid : Store.bValidateAllSourceConfigurations (fun id => (prepared crc32 o id).config) = true
  selection : o.lock .selection = true
  sources : ∀ id, o.lock (.source id) = true

/-- The execution of a load by a thread that holds none of its mutexes. -/
def runLoad (o : LoadOutcomes) (s : Statics) : Bool × Alone Statics MutexId :=
  (bLoadAudioConfigurations crc32).exec o ⟨s, []⟩

/-- **All or nothing**: a load that fails changes no field of the table, one that succeeds
leaves in each entry what was prepared from its file; all locks are released. -/
structure AllOrNothing (o : LoadOutcomes) (s : Statics) : Prop where
  released : (runLoad crc32 o s).2.held = []
  failed : (runLoad crc32 o s).1 = false → ∀ id, (runLoad crc32 o s).2.mem.entry id = s.entry id
  decoded : (runLoad crc32 o s).1 = true → ∀ id,
    decodedFile crc32 o id = some ((runLoad crc32 o s).2.mem.entry id).config
      ∧ ((runLoad crc32 o s).2.mem.entry id).eBleState = .disconnect
  loaded : (runLoad crc32 o s).1 = true →
    (runLoad crc32 o s).2.mem.ram.bConfigurationsLoaded = true

/-! ## §5. The parts of the load. -/

variable {crc32} {o : LoadOutcomes} {s : Statics} {r : Ram} {held : List MutexId}

/-- The execution of a program that does not access the connection states. -/
theorem exec_onRam {ρ : Type} (p : Program ρ) (s : Statics) (held : List MutexId) :
    (onRam p).exec o ⟨s, held⟩ = ((p.exec o ⟨s.ram, held⟩).1,
      ⟨{ s with ram := (p.exec o ⟨s.ram, held⟩).2.mem }, (p.exec o ⟨s.ram, held⟩).2.held⟩) := by
  have hpart : Prog.IsPart Statics.ram fun s r => { s with ram := r } :=
    ⟨fun _ _ => rfl, fun _ _ _ => rfl, fun _ => rfl⟩
  exact exec_lift hpart p s held

theorem exec_onRam_of {ρ : Type} {p : Program ρ} {x : ρ} {r' : Ram} {held' : List MutexId}
    (h : p.exec o ⟨s.ram, held⟩ = (x, ⟨r', held'⟩)) :
    (onRam p).exec o ⟨s, held⟩ = (x, ⟨{ s with ram := r' }, held'⟩) := by
  rw [exec_onRam, h]

theorem exec_initEach (ids : List AudioSrcId) :
    (initEach ids).exec o ⟨r, []⟩
      = (decide (∀ id ∈ ids, o.init (.source id) = true), ⟨r, []⟩) := by
  induction ids with
  | nil => rfl
  | cons id ids ih =>
      unfold initEach
      by_cases hid : o.init (.source id) = true
      · rw [exec_bind_of (Prog.exec_mutexInit_ok hid), if_pos rfl]
        show (initEach ids).exec o ⟨r, []⟩ = _
        rw [ih]
        simp only [List.forall_mem_cons, hid, true_and]
      · rw [exec_bind_of (Prog.exec_mutexInit_fails hid), if_neg Bool.false_ne_true]
        rw [decide_eq_false fun h => hid (h id List.mem_cons_self)]
        rfl

/-- `bInit_AudioSrcMutexes` sets its flag exactly if it succeeds. -/
theorem exec_bInit (o : LoadOutcomes) (r : Ram) :
    bInitAudioSrcMutexes.exec o ⟨r, []⟩ = (decide (MutexesReady o r),
      ⟨{ r with bAudioSrcMutexesInitialized := decide (MutexesReady o r) }, []⟩) := by
  unfold bInitAudioSrcMutexes
  rw [exec_bind_of Prog.exec_read]
  by_cases hflag : r.bAudioSrcMutexesInitialized = true
  · have hready : MutexesReady o r := Or.inl hflag
    rw [if_pos hflag, decide_eq_true hready]
    show (true, (⟨r, []⟩ : Alone Ram MutexId)) = _
    rw [show { r with bAudioSrcMutexesInitialized := true } = r by rw [← hflag]]
  · rw [if_neg hflag, exec_bind_of (exec_initEach _)]
    by_cases hall : ∀ id, o.init (.source id) = true
    · have hready : MutexesReady o r := Or.inr hall
      rw [decide_eq_true hready, decide_eq_true fun id _ => hall id, if_pos rfl]
      rfl
    · have hnot : ¬ MutexesReady o r := fun h => h.elim hflag hall
      rw [decide_eq_false hnot, decide_eq_false fun h => hall fun id => h id (List.mem_finRange id),
        if_neg Bool.false_ne_true]
      show (false, (⟨r, []⟩ : Alone Ram MutexId)) = _
      rw [show { r with bAudioSrcMutexesInitialized := false } = r by
        rw [← Bool.of_not_eq_true hflag]]

/-- The locks of the load. -/
theorem exec_lockAll (r : Ram) (held : List MutexId) :
    (lockEach (fun _ => true) List.reverse (List.finRange eNUMBER_OF_AUDIO_SOURCES) []).exec o
        ⟨r, held⟩
      = if ∀ id, o.lock (.source id) = true then
          (0, ⟨r, (List.finRange eNUMBER_OF_AUDIO_SOURCES).reverse.map MutexId.source ++ held⟩)
        else (-EBUSY, ⟨r, held⟩) := by
  have hlocks : (lockEach (fun _ => true) List.reverse (List.finRange eNUMBER_OF_AUDIO_SOURCES)
      []).exec o ⟨r, held⟩ = _ := exec_lockEach List.reverse_perm _ []
  simp only [List.mem_finRange, forall_const, List.filter_true] at hlocks
  exact hlocks

/-- The reads and their decoding, where all succeed. -/
theorem exec_readEach_ok (ids : List AudioSrcId)
    (h : ∀ id ∈ ids, (decodedFile crc32 o id).isSome) (staTemp : AudioSrcId → SourceEntry)
    (a : Alone Statics MutexId) :
    ∃ staTemp', (readEach crc32 ids staTemp).exec o a = (some staTemp', a)
      ∧ ∀ id, staTemp' id = if id ∈ ids then prepared crc32 o id else staTemp id := by
  induction ids generalizing staTemp with
  | nil => exact ⟨staTemp, rfl, fun id => (if_neg fun hmem => nomatch hmem).symm⟩
  | cons id ids ih =>
      have hfile := h id List.mem_cons_self
      unfold decodedFile at hfile
      split at hfile
      case isFalse => cases hfile
      next hread =>
      obtain ⟨c, hc⟩ := Option.isSome_iff_exists.mp hfile
      have hprepared : prepared crc32 o id = ⟨c, .disconnect⟩ := by
        unfold prepared decodedFile
        rw [if_pos hread, hc]
        rfl
      obtain ⟨staTemp', hexec, htable⟩ := ih (fun id' hid' => h id' (List.mem_cons_of_mem id hid'))
        (Function.update staTemp id ⟨c, .disconnect⟩)
      refine ⟨staTemp', ?_, fun id' => ?_⟩
      · unfold readEach
        rw [exec_bind_of Prog.exec_call, if_pos hread, hc]
        exact hexec
      · rw [htable id']
        by_cases hmem : id' ∈ ids
        · rw [if_pos hmem, if_pos (List.mem_cons_of_mem id hmem)]
        · rw [if_neg hmem]
          by_cases hid : id' = id
          · subst hid
            rw [Function.update_self, if_pos List.mem_cons_self, hprepared]
          · rw [Function.update_of_ne hid,
              if_neg fun hcons => hmem (List.mem_of_ne_of_mem hid hcons)]

/-- A file that is not read or not a record ends the load. -/
theorem exec_readEach_fails (ids : List AudioSrcId)
    (h : ¬ ∀ id ∈ ids, (decodedFile crc32 o id).isSome) (staTemp : AudioSrcId → SourceEntry)
    (a : Alone Statics MutexId) : (readEach crc32 ids staTemp).exec o a = (none, a) := by
  induction ids generalizing staTemp with
  | nil => exact absurd (fun _ hmem => nomatch hmem) h
  | cons id ids ih =>
      unfold readEach
      rw [exec_bind_of Prog.exec_call]
      by_cases hread : (o.answer (.read id)).iResult = 0
      · rw [if_pos hread]
        cases hc : decodeBytes crc32 id (o.answer (.read id)).data with
        | none => rfl
        | some c =>
            refine ih (fun hall => h fun id' hid' => ?_) _
            rcases List.mem_cons.mp hid' with rfl | htail
            · unfold decodedFile
              rw [if_pos hread, hc]
              rfl
            · exact hall id' htail
      · rw [if_neg hread]
        rfl

/-- `vCopy_AudioSrcConfiguration` field by field. -/
theorem exec_vCopy (id : AudioSrcId) (c : SourceEntry) (s : Statics) (held : List MutexId) :
    (vCopyAudioSrcConfiguration id c).exec o ⟨s, held⟩
      = ((), ⟨{ s with ram.staAudioSrcConfigs :=
          Function.update s.ram.staAudioSrcConfigs id c.config }, held⟩) := by
  refine exec_onRam_of ?_
  unfold Concurrent.vCopyAudioSrcConfiguration store
  simp only [exec_bind_of Prog.exec_write, Prog.exec_write, Function.update_self,
    Function.update_idem]

theorem exec_copyEach (staTemp : AudioSrcId → SourceEntry) (ids : List AudioSrcId) (s : Statics)
    (held : List MutexId) :
    (copyEach staTemp ids).exec o ⟨s, held⟩
      = ((), ⟨{ s with ram.staAudioSrcConfigs := fun id =>
          if id ∈ ids then (staTemp id).config else s.ram.staAudioSrcConfigs id }, held⟩) := by
  induction ids generalizing s with
  | nil => rfl
  | cons id ids ih =>
      unfold copyEach
      rw [exec_bind_of (exec_vCopy id (staTemp id) s held), ih]
      have htable : (fun id' => if id' ∈ ids then (staTemp id').config
            else Function.update s.ram.staAudioSrcConfigs id (staTemp id).config id')
          = fun id' => if id' ∈ id :: ids then (staTemp id').config
            else s.ram.staAudioSrcConfigs id' := by
        funext id'
        by_cases hmem : id' ∈ ids
        · rw [if_pos hmem, if_pos (List.mem_cons_of_mem id hmem)]
        · rw [if_neg hmem]
          by_cases hid : id' = id
          · subst hid
            rw [Function.update_self, if_pos List.mem_cons_self]
          · rw [Function.update_of_ne hid,
              if_neg fun hcons => hmem (List.mem_of_ne_of_mem hid hcons)]
      exact congrArg (fun t => ((), (⟨{ s with ram.staAudioSrcConfigs := t }, held⟩ :
        Alone Statics MutexId))) htable

/-- The copy of the whole table. -/
theorem exec_copyAll (staTemp : AudioSrcId → SourceEntry) (s : Statics) (held : List MutexId) :
    (copyEach staTemp (List.finRange eNUMBER_OF_AUDIO_SOURCES)).exec o ⟨s, held⟩
      = ((), ⟨{ s with ram.staAudioSrcConfigs := fun id => (staTemp id).config }, held⟩) := by
  rw [exec_copyEach]
  simp only [List.mem_finRange, if_true]

/-! ## §6. The load. -/

/-- The locks of the load: all of them, or none is kept and nothing is copied. -/
theorem exec_install (staTemp : AudioSrcId → SourceEntry) (s : Statics) :
    (install staTemp).exec o ⟨s, []⟩
      = if o.lock .selection = true ∧ ∀ id, o.lock (.source id) = true then
          (true, ⟨{ s with
            ram.staAudioSrcConfigs := fun id => (staTemp id).config
            ram.bConfigurationsLoaded := true }, []⟩)
        else (false, ⟨s, []⟩) := by
  unfold install
  by_cases hselection : o.lock .selection = true
  · rw [exec_bind_of (Prog.exec_mutexLock_ok hselection), if_pos rfl]
    have hlocks := exec_lockAll (o := o) s.ram [.selection]
    by_cases hsources : ∀ id, o.lock (.source id) = true
    · rw [if_pos hsources] at hlocks
      rw [exec_bind_of (exec_onRam_of hlocks), if_pos rfl, exec_bind_of (exec_copyAll _ _ _),
        exec_bind_of (exec_onRam_of (exec_unlockEach (List.Perm.refl _))),
        exec_bind_of Prog.exec_mutexUnlock,
        exec_bind_of (exec_onRam_of Prog.exec_write), if_pos ⟨hselection, hsources⟩]
      show (true, (⟨_, List.erase [.selection] .selection⟩ : Alone Statics MutexId)) = _
      rw [List.erase_cons_head]
    · rw [if_neg hsources] at hlocks
      rw [exec_bind_of (exec_onRam_of hlocks), if_neg (by decide),
        exec_bind_of Prog.exec_mutexUnlock, if_neg fun h => hsources h.2]
      show (false, (⟨s, List.erase [.selection] .selection⟩ : Alone Statics MutexId)) = _
      rw [List.erase_cons_head]
  · rw [exec_bind_of (Prog.exec_mutexLock_fails hselection), if_neg Bool.false_ne_true,
      if_neg fun h => hselection h.1]
    rfl

/-- The reads of the load. -/
theorem exec_readAll_ok (h : ∀ id, (decodedFile crc32 o id).isSome)
    (a : Alone Statics MutexId) :
    (readEach crc32 (List.finRange eNUMBER_OF_AUDIO_SOURCES) fun _ => .zero).exec o a
      = (some (prepared crc32 o), a) := by
  obtain ⟨staTemp, hexec, htable⟩ :=
    exec_readEach_ok (List.finRange eNUMBER_OF_AUDIO_SOURCES) (fun id _ => h id) (fun _ => .zero) a
  have hall : staTemp = prepared crc32 o := by
    funext id
    rw [htable id, if_pos (List.mem_finRange id)]
  rw [hexec, hall]

theorem exec_readAll_fails (h : ¬ ∀ id, (decodedFile crc32 o id).isSome)
    (a : Alone Statics MutexId) :
    (readEach crc32 (List.finRange eNUMBER_OF_AUDIO_SOURCES) fun _ => .zero).exec o a = (none, a) :=
  exec_readEach_fails _ (fun hall => h fun id => hall id (List.mem_finRange id)) _ a

/-- The static data once the load has begun. -/
def Statics.begun (s : Statics) : Statics :=
  { s with
    ram.bAudioSrcMutexesInitialized := true
    ram.bConfigurationsLoaded := false }

/-- The load from its reads on. -/
theorem runLoad_ready (h : MutexesReady o s.ram) :
    runLoad crc32 o s = Prog.exec o (do
      match ← readEach crc32 (List.finRange eNUMBER_OF_AUDIO_SOURCES) fun _ => .zero with
      | none => return false
      | some staTemp =>
        if Store.bValidateAllSourceConfigurations fun id => (staTemp id).config then
          install staTemp
        else return false) ⟨s.begun, []⟩ := by
  unfold runLoad bLoadAudioConfigurations
  have hinit := exec_bInit o s.ram
  rw [decide_eq_true h] at hinit
  rw [exec_bind_of (exec_onRam_of hinit), if_pos rfl, exec_bind_of (exec_onRam_of Prog.exec_write)]
  rfl

/-- A load that meets no error. -/
theorem runLoad_ok (h : AllSucceed crc32 o s) :
    runLoad crc32 o s = (true, ⟨⟨⟨fun id => (prepared crc32 o id).config, true, true⟩,
      s.eBleState⟩, []⟩) := by
  rw [runLoad_ready h.ready, exec_bind_of (exec_readAll_ok h.files _)]
  show Prog.exec o (if _ then _ else _) _ = _
  rw [if_pos h.valid, exec_install, if_pos ⟨h.selection, h.sources⟩]
  rfl

/-- Any other load leaves the table. -/
theorem runLoad_fails (h : ¬ AllSucceed crc32 o s) :
    ∃ r', runLoad crc32 o s = (false, ⟨{ s with ram := r' }, []⟩)
      ∧ r'.staAudioSrcConfigs = s.ram.staAudioSrcConfigs := by
  by_cases hready : MutexesReady o s.ram
  · refine ⟨s.begun.ram, ?_, rfl⟩
    rw [runLoad_ready hready]
    by_cases hfiles : ∀ id, (decodedFile crc32 o id).isSome
    · rw [exec_bind_of (exec_readAll_ok hfiles _)]
      show Prog.exec o (if _ then _ else _) _ = _
      by_cases hvalid :
          Store.bValidateAllSourceConfigurations (fun id => (prepared crc32 o id).config) = true
      · rw [if_pos hvalid, exec_install,
          if_neg fun hlocks => h ⟨hready, hfiles, hvalid, hlocks.1, hlocks.2⟩]
        rfl
      · rw [if_neg hvalid]
        rfl
    · rw [exec_bind_of (exec_readAll_fails hfiles _)]
      rfl
  · have hinit := exec_bInit o s.ram
    rw [decide_eq_false hready] at hinit
    refine ⟨{ s.ram with bAudioSrcMutexesInitialized := false }, ?_, rfl⟩
    unfold runLoad bLoadAudioConfigurations
    rw [exec_bind_of (exec_onRam_of hinit), if_neg Bool.false_ne_true]
    rfl

/-- **The load is all or nothing** exactly where it meets an error, or every connection
state is that of a disconnected source before. -/
theorem load_all_or_nothing_iff (crc32 : List UInt8 → UInt32) (o : LoadOutcomes) (s : Statics) :
    AllOrNothing crc32 o s ↔ (AllSucceed crc32 o s → ∀ id, s.eBleState id = .disconnect) := by
  by_cases hsucceeds : AllSucceed crc32 o s
  · have hrun := runLoad_ok hsucceeds
    constructor
    · intro h _ id
      have hstate := (h.decoded (by rw [hrun]) id).2
      rw [hrun] at hstate
      exact hstate
    · intro h
      refine ⟨by rw [hrun], fun hfalse => ?_, fun _ id => ⟨?_, ?_⟩, fun _ => by rw [hrun]⟩
      · rw [hrun] at hfalse
        cases hfalse
      · rw [hrun]
        obtain ⟨c, hc⟩ := Option.isSome_iff_exists.mp (hsucceeds.files id)
        show _ = some (prepared crc32 o id).config
        unfold prepared
        rw [hc]
        rfl
      · rw [hrun]
        exact h hsucceeds id
  · obtain ⟨r', hrun, htable⟩ := runLoad_fails hsucceeds
    refine iff_of_true ⟨by rw [hrun], fun _ id => ?_, fun htrue => ?_, fun htrue => ?_⟩
      fun h => absurd h hsucceeds
    · rw [hrun]
      show (⟨r'.staAudioSrcConfigs id, s.eBleState id⟩ : SourceEntry) = s.entry id
      rw [htable]
      rfl
    · rw [hrun] at htrue
      cases htrue
    · rw [hrun] at htrue
      cases htrue

/-- The execution is one of the runs of the threads: that of a thread which begins the
load while all mutexes are free, and which no other thread disturbs. -/
theorem runLoad_run {ι χ : Type} [DecidableEq ι] {program : χ → LoadProgram Bool} {t : ι}
    {threads : Threads ι Statics MutexId FileCall FileResult Bool}
    (h : threads.At t (bLoadAudioConfigurations crc32) ⟨s, []⟩) :
    threads.RunsTo program t (runLoad crc32 o s) :=
  Threads.exec_run o h

/-! ## §7. The load at power-up. -/

/-- `iRead_FromFileBin` on a file. -/
def readResult : Option (List UInt8) → FileResult
  | some data => ⟨0, data⟩
  | none => ⟨-ENOENT, []⟩

/-- The reads of these files; nothing else fails. -/
def readsOf (files : SourceFiles) : LoadOutcomes where
  init _ := true
  lock _ := true
  answer
    | .read id => readResult (files id)
    | .write _ _ => ⟨0, []⟩

theorem decodedFile_readsOf (files : SourceFiles) (id : AudioSrcId) :
    decodedFile crc32 (readsOf files) id = Store.readEntry crc32 files id := by
  have hread : ∀ file : Option (List UInt8),
      (if (readResult file).iResult = 0 then decodeBytes crc32 id (readResult file).data else none)
        = file.bind (decodeBytes crc32 id) := by
    intro file
    cases file with
    | none => exact if_neg (by decide)
    | some data => exact if_pos rfl
  exact hread (files id)

/-- The load of `AudioSrc.Config` is this load where no lock times out. -/
theorem allSucceed_readsOf (files : SourceFiles) (s : Statics) :
    AllSucceed crc32 (readsOf files) s ↔ loads crc32 files = true := by
  -- a read that succeeds is decoded as the entry of the file is
  have hentry : ∀ id, decodedFile crc32 (readsOf files) id = Store.readEntry crc32 files id :=
    decodedFile_readsOf files
  have htable : ∀ h : ∀ id, (Store.readEntry crc32 files id).isSome,
      (fun id => (Store.readEntry crc32 files id).get (h id))
        = fun id => (prepared crc32 (readsOf files) id).config := by
    intro h
    funext id
    show _ = (decodedFile crc32 (readsOf files) id).getD .zero
    rw [hentry id, Option.get_eq_getD]
  constructor
  · intro h
    have hfiles : ∀ id, (Store.readEntry crc32 files id).isSome := by
      intro id
      rw [← hentry id]
      exact h.files id
    -- the validation is that of the table the four files give
    have hvalid := h.valid
    rw [← htable hfiles] at hvalid
    unfold loads Store.bLoadAudioConfigurations
    dsimp only
    split
    · split
      · next hbad =>
        have hbad : Store.bValidateAllSourceConfigurations
            (fun id => (Store.readEntry crc32 files id).get (hfiles id)) = false :=
          Bool.eq_false_of_not_eq_true' hbad
        exact absurd (hbad.symm.trans hvalid) Bool.false_ne_true
      · rfl
    · next hnot => exact absurd hfiles hnot
  · intro h
    unfold loads Store.bLoadAudioConfigurations at h
    dsimp only at h
    split at h
    case isFalse => cases h
    next hfiles =>
    split at h
    case isTrue => cases h
    next hvalid =>
    refine ⟨Or.inr fun _ => rfl, fun id => ?_, ?_, rfl, fun _ => rfl⟩
    · rw [hentry id]
      exact hfiles id
    · rw [← htable hfiles]
      exact Bool.of_not_eq_false fun hbad => hvalid ((Bool.not_eq_true' _).mpr hbad)

/-- The first load of four valid files leaves the connection states as they were. -/
theorem not_load_all_or_nothing :
    ¬ AllOrNothing crc32Ieee (readsOf sampleFiles) .powerUp := by
  intro h
  have hsucceeds : AllSucceed crc32Ieee (readsOf sampleFiles) .powerUp :=
    (allSucceed_readsOf sampleFiles .powerUp).mpr loads_sampleFiles
  have hstate := (load_all_or_nothing_iff crc32Ieee _ _).mp h hsucceeds 0
  cases hstate

end WallController.AudioSrc.Load
