/-
  WallController.Host.AdcDecoder
  ────────────────────────────────
  **THE DECODER OF THE ADC STREAM (`adc_uart_visualizer.py`).**

  `PacketDecoder.feed` looks for a configuration block, the bytes `ADCF` with a
  count and so many descriptors, and then decodes measurement packets of six
  bytes.  A call that completes the configuration returns at once: packets that
  arrived behind the block wait in the buffer for the next call.

  §1 and §2 are translated from the source.  §3 says what the decoder does with
  its buffer step by step, as a decoder of `Lib.Decoder`; §4 and §5 show that a
  call is a run of it, cut back to the phase in which the call began.

  Main results:
    * `feed_drains`: a call of `feed` is such a run until it comes to rest.
    * `configured_iff`: the startup is over exactly when the stream holds an
      accepted configuration block.
    * `chunking_iff`: the splittings of a stream that make no difference.
-/
import WallController.Lib.Decoder
import Mathlib.Data.List.Infix

namespace WallController.Host.Adc

open WallController.Lib

/-! ## §1. Constants and data. -/

def DESCRIPTOR_SIZE : Nat := 4
def PACKET_SIZE : Nat := 6

/-- `b"ADCF"`. -/
def STARTUP_MAGIC : List UInt8 := [0x41, 0x44, 0x43, 0x46]
def MAX_CONFIG_DESCRIPTORS : Nat := 64

/-- The keys of `MODULE_NAMES`. -/
def MODULE_NAMES : List UInt8 := [0, 1]
/-- The keys of `RESOLUTION_BITS`. -/
def RESOLUTION_BITS : List UInt8 := [0, 1]
/-- The keys of `VALUE_TYPE_NAMES`. -/
def VALUE_TYPE_NAMES : List UInt8 := [0, 1, 2, 3, 4]

/-- What the decoder returns: an `ADCDescriptor` or an `ADCPacket`. -/
inductive Item (τ : Type) where
  | descriptor (module channel resolution valueType : UInt8)
  | packet (module channel resolution valueType : UInt8) (measuredValue : Nat) (timestamp : τ)
  deriving DecidableEq, Repr

/-- The fields of `PacketDecoder` beside its buffer. -/
structure Control where
  discardedBytes : Nat
  startupComplete : Bool
  descriptorCount : Nat
  expectedDescriptors : Option Nat
  deriving DecidableEq, Repr

structure PacketDecoder extends Control where
  buffer : List UInt8
  deriving DecidableEq, Repr

/-- `PacketDecoder.__init__`. -/
def Control.init : Control where
  discardedBytes := 0
  startupComplete := false
  descriptorCount := 0
  expectedDescriptors := none

def PacketDecoder.init : PacketDecoder := { Control.init with buffer := [] }

/-- A byte of a candidate. -/
def at_ (candidate : List UInt8) (i : Nat) : UInt8 := candidate.getD i 0

/-- `PacketDecoder._valid`. -/
def valid (candidate : List UInt8) : Bool :=
  MODULE_NAMES.contains (at_ candidate 0) && at_ candidate 1 < 32
    && RESOLUTION_BITS.contains (at_ candidate 2) && VALUE_TYPE_NAMES.contains (at_ candidate 3)

/-- `del self.buffer[:n]`. -/
def PacketDecoder.del (d : PacketDecoder) (n : Nat) : PacketDecoder :=
  { d with buffer := d.buffer.drop n }

/-- `self.discarded_bytes += n`. -/
def Control.discard (s : Control) (n : Nat) : Control :=
  { s with discardedBytes := s.discardedBytes + n }

/-- The same for the decoder. -/
def PacketDecoder.discard (d : PacketDecoder) (n : Nat) : PacketDecoder :=
  { d.toControl.discard n with buffer := d.buffer }

theorem Control.discard_discard (s : Control) (m n : Nat) :
    (s.discard m).discard n = s.discard (m + n) := by
  unfold Control.discard
  dsimp only
  rw [Nat.add_assoc]

/-- `self.expected_descriptors = expected`. -/
def PacketDecoder.expect (d : PacketDecoder) (expected : Option Nat) : PacketDecoder :=
  { d with expectedDescriptors := expected }

/-! ## §2. `feed`. -/

/-- `bytearray.find` of `STARTUP_MAGIC`. -/
def findMagic : List UInt8 → Option Nat
  | [] => none
  | x :: xs =>
    if STARTUP_MAGIC.isPrefixOf (x :: xs) then some 0 else (findMagic xs).map (· + 1)

/-- The inner loop of the startup: the number of descriptors expected, or
`none` when `feed` returns. -/
def awaitDescriptors : (fuel : Nat) → PacketDecoder → PacketDecoder × Option Nat
  | 0, d => (d, none)
  | fuel + 1, d =>
    match d.expectedDescriptors with
    | some n => (d, some n)
    | none =>
      match findMagic d.buffer with
      | none =>
        let keep := min d.buffer.length (STARTUP_MAGIC.length - 1)
        ((d.discard (d.buffer.length - keep)).del (d.buffer.length - keep), none)
      | some magicIndex =>
        let d := (d.del magicIndex).discard magicIndex
        if d.buffer.length < STARTUP_MAGIC.length + 1 then (d, none)
        else
          let descriptorCount := (at_ d.buffer STARTUP_MAGIC.length).toNat
          let d := d.del (STARTUP_MAGIC.length + 1)
          if descriptorCount = 0 ∨ descriptorCount > MAX_CONFIG_DESCRIPTORS then
            awaitDescriptors fuel (d.discard (STARTUP_MAGIC.length + 1))
          else awaitDescriptors fuel (d.expect (some descriptorCount))

/-- The candidates of a configuration block. -/
def candidates (expected : Nat) (buffer : List UInt8) : List (List UInt8) :=
  (List.range expected).map fun index =>
    (buffer.drop (index * DESCRIPTOR_SIZE)).take DESCRIPTOR_SIZE

variable {τ : Type}

def descriptorOf (candidate : List UInt8) : Item τ :=
  .descriptor (at_ candidate 0) (at_ candidate 1) (at_ candidate 2) (at_ candidate 3)

/-- The loop of `feed` while the startup is not complete. -/
def startupLoop : (fuel : Nat) → PacketDecoder → List (Item τ) × PacketDecoder
  | 0, d => ([], d)
  | fuel + 1, d =>
    match awaitDescriptors (d.buffer.length + 2) d with
    | (d, none) => ([], d)
    | (d, some expected) =>
      let required := expected * DESCRIPTOR_SIZE
      if d.buffer.length < required then ([], d)
      else
        let cs := candidates expected d.buffer
        let d := (d.del required).expect none
        if !cs.all valid then startupLoop fuel (d.discard required)
        else
          (cs.map descriptorOf, { d with descriptorCount := cs.length, startupComplete := true })

def packetOf (timestamp : τ) (candidate : List UInt8) : Item τ :=
  .packet (at_ candidate 0) (at_ candidate 1) (at_ candidate 2) (at_ candidate 3)
    ((at_ candidate 4).toNat <<< 8 ||| (at_ candidate 5).toNat) timestamp

/-- The loop of `feed` after the startup. -/
def measurementLoop (timestamp : τ) : (fuel : Nat) → PacketDecoder → List (Item τ) × PacketDecoder
  | 0, d => ([], d)
  | fuel + 1, d =>
    if d.buffer.length < PACKET_SIZE then ([], d)
    else
      let candidate := d.buffer.take PACKET_SIZE
      if !valid candidate then
        measurementLoop timestamp fuel ((d.del 1).discard 1)
      else
        let r := measurementLoop timestamp fuel (d.del PACKET_SIZE)
        (packetOf timestamp candidate :: r.1, r.2)

/-- `PacketDecoder.feed`. -/
def feed (timestamp : τ) (d : PacketDecoder) (data : List UInt8) : List (Item τ) × PacketDecoder :=
  let d := { d with buffer := d.buffer ++ data }
  if d.startupComplete = false then startupLoop (d.buffer.length + 1) d
  else measurementLoop timestamp (d.buffer.length + 1) d

/-- Successive calls: the concatenation of what they return. -/
def feedAll (timestamp : τ) : PacketDecoder → (chunks : List (List UInt8)) →
    List (Item τ) × PacketDecoder
  | d, [] => ([], d)
  | d, chunk :: chunks =>
    let r := feed timestamp d chunk
    let r' := feedAll timestamp r.2 chunks
    (r.1 ++ r'.1, r'.2)

/-! ## §3. Step by step. -/

/-- What the decoder does next with its buffer. -/
def adcStep (timestamp : τ) (s : Control) (b : List UInt8) :
    Option (Control × Nat × List (Item τ)) :=
  if s.startupComplete = false then
    match s.expectedDescriptors with
    | none =>
      if b.length < STARTUP_MAGIC.length then none
      else if STARTUP_MAGIC.isPrefixOf b = false then
        some (s.discard 1, 1, [])
      else if b.length < STARTUP_MAGIC.length + 1 then none
      else
        let n := (at_ b STARTUP_MAGIC.length).toNat
        if n = 0 ∨ n > MAX_CONFIG_DESCRIPTORS then
          some (s.discard (STARTUP_MAGIC.length + 1), STARTUP_MAGIC.length + 1, [])
        else some ({ s with expectedDescriptors := some n }, STARTUP_MAGIC.length + 1, [])
    | some n =>
      if n = 0 ∨ b.length < n * DESCRIPTOR_SIZE then none
      else if (candidates n b).all valid = false then
        some ({ s.discard (n * DESCRIPTOR_SIZE) with expectedDescriptors := none },
          n * DESCRIPTOR_SIZE, [])
      else
        some ({ s with
          descriptorCount := n
          startupComplete := true
          expectedDescriptors := none }, n * DESCRIPTOR_SIZE, (candidates n b).map descriptorOf)
  else if b.length < PACKET_SIZE then none
  else if valid (b.take PACKET_SIZE) = false then
    some (s.discard 1, 1, [])
  else some (s, PACKET_SIZE, [packetOf timestamp (b.take PACKET_SIZE)])

theorem at_append {b : List UInt8} {i : Nat} (h : i < b.length) (more : List UInt8) :
    at_ (b ++ more) i = at_ b i := by
  unfold at_
  rw [List.getD_eq_getElem?_getD, List.getElem?_append_left h, ← List.getD_eq_getElem?_getD]

/-- Whether a buffer begins with the magic does not depend on what follows. -/
theorem magic_append {b : List UInt8} (h : STARTUP_MAGIC.length ≤ b.length) (more : List UInt8) :
    STARTUP_MAGIC.isPrefixOf (b ++ more) = STARTUP_MAGIC.isPrefixOf b := by
  rw [Bool.eq_iff_iff, List.isPrefixOf_iff_prefix, List.isPrefixOf_iff_prefix]
  constructor
  · intro hmore
    exact List.prefix_of_prefix_length_le hmore (List.prefix_append b more) h
  · intro hb
    exact hb.trans (List.prefix_append b more)

theorem candidates_append {n : Nat} {b : List UInt8} (h : n * DESCRIPTOR_SIZE ≤ b.length)
    (more : List UInt8) : candidates n (b ++ more) = candidates n b := by
  unfold candidates
  apply List.map_congr_left
  intro index hindex
  have hlt : index < n := List.mem_range.mp hindex
  unfold DESCRIPTOR_SIZE at *
  rw [List.drop_append_of_le_length (by omega),
    List.take_append_of_le_length (by rw [List.length_drop]; omega)]

theorem adcStep_append {timestamp : τ} {s : Control} {b : List UInt8}
    {r : Control × Nat × List (Item τ)} (h : adcStep timestamp s b = some r) (more : List UInt8) :
    adcStep timestamp s (b ++ more) = some r := by
  have hlonger : b.length ≤ (b ++ more).length := by
    rw [List.length_append]
    omega
  unfold adcStep at h ⊢
  by_cases hstart : s.startupComplete = false
  · rw [if_pos hstart] at h ⊢
    cases hexp : s.expectedDescriptors with
    | none =>
        rw [hexp] at h
        dsimp only at h ⊢
        by_cases hshort : b.length < STARTUP_MAGIC.length
        · rw [if_pos hshort] at h
          cases h
        · rw [if_neg hshort] at h
          rw [if_neg (by omega), magic_append (Nat.not_lt.mp hshort)]
          by_cases hmagic : STARTUP_MAGIC.isPrefixOf b = false
          · rw [if_pos hmagic] at h ⊢
            exact h
          · rw [if_neg hmagic] at h ⊢
            by_cases hcount : b.length < STARTUP_MAGIC.length + 1
            · rw [if_pos hcount] at h
              cases h
            · rw [if_neg hcount] at h
              rw [if_neg (by omega), at_append (by omega)]
              exact h
    | some n =>
        rw [hexp] at h
        dsimp only at h ⊢
        by_cases hshort : n = 0 ∨ b.length < n * DESCRIPTOR_SIZE
        · rw [if_pos hshort] at h
          cases h
        · rw [if_neg hshort] at h
          rw [if_neg (by omega), candidates_append (by omega)]
          exact h
  · rw [if_neg hstart] at h ⊢
    by_cases hshort : b.length < PACKET_SIZE
    · rw [if_pos hshort] at h
      cases h
    · rw [if_neg hshort] at h
      rw [if_neg (by omega), List.take_append_of_le_length (Nat.not_lt.mp hshort)]
      exact h

theorem adcStep_uses {timestamp : τ} {s s' : Control} {b : List UInt8} {n : Nat}
    {out : List (Item τ)} (h : adcStep timestamp s b = some (s', n, out)) :
    0 < n ∧ n ≤ b.length := by
  have hmagic : STARTUP_MAGIC.length = 4 := rfl
  have hpacket : PACKET_SIZE = 6 := rfl
  unfold adcStep DESCRIPTOR_SIZE at h
  dsimp only at h
  repeat' split at h
  all_goals simp only [reduceCtorEq, Option.some.injEq, Prod.mk.injEq] at h
  all_goals omega

/-- The decoder of the stream. -/
def adc (timestamp : τ) : Decoder Control UInt8 (Item τ) where
  step := adcStep timestamp
  step_append h more := adcStep_append h more
  step_uses h := adcStep_uses h

/-- The decoder until the startup is complete. -/
def startup (timestamp : τ) : Decoder Control UInt8 (Item τ) :=
  (adc timestamp).restrict fun s => !s.startupComplete

/-- The decoder after that. -/
def measurement (timestamp : τ) : Decoder Control UInt8 (Item τ) :=
  (adc timestamp).restrict fun s => s.startupComplete

theorem startup_step (timestamp : τ) {s : Control} (hs : s.startupComplete = false)
    (b : List UInt8) : (startup timestamp).step s b = adcStep timestamp s b :=
  Decoder.restrict_step (by rw [hs]; rfl) b

theorem measurement_step (timestamp : τ) {s : Control} (hs : s.startupComplete = true)
    (b : List UInt8) : (measurement timestamp).step s b = adcStep timestamp s b :=
  Decoder.restrict_step hs b

theorem adcStep_short {timestamp : τ} {s : Control} (hs : s.startupComplete = false)
    (hexp : s.expectedDescriptors = none) {b : List UInt8}
    (hlen : b.length < STARTUP_MAGIC.length) :
    adcStep timestamp s b = none := by
  unfold adcStep
  rw [if_pos hs, hexp]
  exact if_pos hlen

/-- What the steps of the startup do while a header is expected. -/
theorem adcStep_header {timestamp : τ} {s : Control} (hs : s.startupComplete = false)
    (hexp : s.expectedDescriptors = none) {b : List UInt8}
    (hlen : STARTUP_MAGIC.length ≤ b.length) :
    adcStep timestamp s b =
      if STARTUP_MAGIC.isPrefixOf b = false then
        some (s.discard 1, 1, [])
      else if b.length < STARTUP_MAGIC.length + 1 then none
      else if (at_ b STARTUP_MAGIC.length).toNat = 0
          ∨ (at_ b STARTUP_MAGIC.length).toNat > MAX_CONFIG_DESCRIPTORS then
        some (s.discard (STARTUP_MAGIC.length + 1), STARTUP_MAGIC.length + 1, [])
      else
        some ({ s with expectedDescriptors := some (at_ b STARTUP_MAGIC.length).toNat },
          STARTUP_MAGIC.length + 1, []) := by
  unfold adcStep
  rw [if_pos hs, hexp]
  exact if_neg (Nat.not_lt.mpr hlen)

/-- What they do while a block is expected. -/
theorem adcStep_block {timestamp : τ} {s : Control} (hs : s.startupComplete = false) {n : Nat}
    (hexp : s.expectedDescriptors = some n) (hn : 0 < n) {b : List UInt8}
    (hlen : n * DESCRIPTOR_SIZE ≤ b.length) :
    adcStep timestamp s b =
      if (candidates n b).all valid = false then
        some ({ s.discard (n * DESCRIPTOR_SIZE) with expectedDescriptors := none },
          n * DESCRIPTOR_SIZE, [])
      else
        some ({ s with
          descriptorCount := n
          startupComplete := true
          expectedDescriptors := none },
          n * DESCRIPTOR_SIZE, (candidates n b).map descriptorOf) := by
  unfold adcStep
  rw [if_pos hs, hexp]
  exact if_neg (by omega)

/-! ## §4. The search of the magic. -/

/-- What `findMagic` finds is the first occurrence. -/
theorem findMagic_some {b : List UInt8} {i : Nat} (h : findMagic b = some i) :
    STARTUP_MAGIC.isPrefixOf (b.drop i) = true
      ∧ ∀ j < i, STARTUP_MAGIC.isPrefixOf (b.drop j) = false := by
  induction b generalizing i with
  | nil => cases h
  | cons x xs ih =>
      unfold findMagic at h
      by_cases hhere : STARTUP_MAGIC.isPrefixOf (x :: xs) = true
      · rw [if_pos hhere] at h
        cases h
        exact ⟨hhere, fun j hj => absurd hj (Nat.not_lt_zero j)⟩
      · rw [if_neg hhere] at h
        obtain ⟨k, hk, rfl⟩ := Option.map_eq_some_iff.mp h
        obtain ⟨hfound, hbefore⟩ := ih hk
        refine ⟨hfound, fun j hj => ?_⟩
        cases j with
        | zero => exact Bool.eq_false_iff.mpr hhere
        | succ j => exact hbefore j (by omega)

theorem findMagic_none {b : List UInt8} (h : findMagic b = none) (j : Nat) :
    STARTUP_MAGIC.isPrefixOf (b.drop j) = false := by
  induction b generalizing j with
  | nil =>
      rw [List.drop_nil]
      rfl
  | cons x xs ih =>
      unfold findMagic at h
      by_cases hhere : STARTUP_MAGIC.isPrefixOf (x :: xs) = true
      · rw [if_pos hhere] at h
        cases h
      · rw [if_neg hhere] at h
        cases j with
        | zero => exact Bool.eq_false_iff.mpr hhere
        | succ j => exact ih (Option.map_eq_none_iff.mp h) j

/-- Bytes at which no magic begins are discarded one by one. -/
theorem run_discard {timestamp : τ} {s : Control} (hs : s.startupComplete = false)
    (hexp : s.expectedDescriptors = none) {b : List UInt8} {i : Nat}
    (hlen : ∀ j < i, j + STARTUP_MAGIC.length ≤ b.length)
    (hnone : ∀ j < i, STARTUP_MAGIC.isPrefixOf (b.drop j) = false) :
    (startup timestamp).Run s b [] (s.discard i) (b.drop i) := by
  have hmagic : STARTUP_MAGIC.length = 4 := rfl
  induction i generalizing s b with
  | zero => exact .refl s b
  | succ i ih =>
      have hstep : (startup timestamp).step s b = some (s.discard 1, 1, []) := by
        have hfour := hlen 0 (Nat.succ_pos i)
        rw [startup_step _ hs, adcStep_header hs hexp (by omega)]
        exact if_pos (hnone 0 (Nat.succ_pos i))
      have hshift : ∀ j < i, STARTUP_MAGIC.isPrefixOf ((b.drop 1).drop j) = false := by
        intro j hj
        rw [List.drop_drop, Nat.add_comm]
        exact hnone (j + 1) (by omega)
      have hlonger : ∀ j < i, j + STARTUP_MAGIC.length ≤ (b.drop 1).length := by
        intro j hj
        have hfour := hlen (j + 1) (by omega)
        rw [List.length_drop]
        omega
      have htail := ih (s := s.discard 1) hs hexp hlonger hshift
      rw [List.drop_drop, Nat.add_comm 1 i, Control.discard_discard, Nat.add_comm 1 i] at htail
      exact Decoder.Run.step hstep htail

/-! ## §5. A call is a run. -/

/-- The startup is not complete; where a block is expected, it is not empty. -/
structure Starting (s : Control) : Prop where
  open_ : s.startupComplete = false
  count : ∀ n, s.expectedDescriptors = some n → 0 < n

/-- What the inner loop has done when it is left. -/
structure Awaited (timestamp : τ) (d : PacketDecoder) (r : PacketDecoder × Option Nat) : Prop where
  run : (startup timestamp).Run d.toControl d.buffer [] r.1.toControl r.1.buffer
  starting : Starting r.1.toControl
  expects : r.1.expectedDescriptors = r.2
  quiet : r.2 = none → (startup timestamp).Quiet r.1.toControl r.1.buffer

theorem Awaited.after {timestamp : τ} {d d' : PacketDecoder} {r : PacketDecoder × Option Nat}
    (h : Awaited timestamp d' r)
    (hrun : (startup timestamp).Run d.toControl d.buffer [] d'.toControl d'.buffer) :
    Awaited timestamp d r := ⟨hrun.trans h.run, h.starting, h.expects, h.quiet⟩

theorem awaitDescriptors_awaited (timestamp : τ) {fuel : Nat} {d : PacketDecoder}
    (hd : Starting d.toControl) (hfuel : d.buffer.length + 2 ≤ fuel) :
    Awaited timestamp d (awaitDescriptors fuel d) := by
  have hmagic : STARTUP_MAGIC.length = 4 := rfl
  induction fuel generalizing d with
  | zero => omega
  | succ fuel ih =>
  unfold awaitDescriptors
  cases hexp : d.expectedDescriptors with
  | some n => exact ⟨.refl _ _, hd, hexp, fun h => by cases h⟩
  | none =>
  dsimp only
  have hnocount : ∀ n, (none : Option Nat) = some n → 0 < n := fun n h => by cases h
  cases hfind : findMagic d.buffer with
  | none =>
      -- all but three bytes are discarded, and then there is too little to go on
      dsimp only
      have hleft : (d.buffer.drop
          (d.buffer.length - min d.buffer.length (STARTUP_MAGIC.length - 1))).length
          < STARTUP_MAGIC.length := by
        rw [List.length_drop]
        omega
      refine ⟨run_discard hd.open_ hexp (fun j hj => by omega) fun j _ => findMagic_none hfind j,
        ⟨hd.open_, hd.count⟩, hexp, fun _ => ?_⟩
      have hopen : ((d.discard
          (d.buffer.length - min d.buffer.length (STARTUP_MAGIC.length - 1))).del
          (d.buffer.length - min d.buffer.length (STARTUP_MAGIC.length - 1))).startupComplete
            = false :=
        hd.open_
      exact (startup_step _ hopen _).trans (adcStep_short hopen hexp hleft)
  | some magicIndex =>
      dsimp only
      obtain ⟨hfound, hbefore⟩ := findMagic_some hfind
      have hprefix := (List.isPrefixOf_iff_prefix.mp hfound).length_le
      rw [List.length_drop] at hprefix
      have hrun : (startup timestamp).Run d.toControl d.buffer []
          ((d.del magicIndex).discard magicIndex).toControl
          ((d.del magicIndex).discard magicIndex).buffer :=
        run_discard hd.open_ hexp (fun j hj => by omega) hbefore
      have hb : ((d.del magicIndex).discard magicIndex).buffer = d.buffer.drop magicIndex := rfl
      have hopen : ((d.del magicIndex).discard magicIndex).startupComplete = false := hd.open_
      have hnone : ((d.del magicIndex).discard magicIndex).expectedDescriptors = none := hexp
      generalize (d.del magicIndex).discard magicIndex = d₁ at hrun hb hopen hnone ⊢
      have hlen : d₁.buffer.length = d.buffer.length - magicIndex := by rw [hb, List.length_drop]
      have hnext := (startup_step timestamp hopen d₁.buffer).trans
        (adcStep_header hopen hnone (by omega))
      rw [if_neg (by rw [hb, hfound]; exact Bool.true_eq_false.mp)] at hnext
      by_cases hshort : d₁.buffer.length < STARTUP_MAGIC.length + 1
      · rw [if_pos hshort] at hnext ⊢
        exact ⟨hrun, ⟨hopen, fun n h => by rw [hnone] at h; cases h⟩, hnone, fun _ => hnext⟩
      rw [if_neg hshort] at hnext ⊢
      have hrest : (d₁.buffer.drop (STARTUP_MAGIC.length + 1)).length + 2 ≤ fuel := by
        rw [List.length_drop]
        omega
      by_cases hcount : (at_ d₁.buffer STARTUP_MAGIC.length).toNat = 0
          ∨ (at_ d₁.buffer STARTUP_MAGIC.length).toNat > MAX_CONFIG_DESCRIPTORS
      · rw [if_pos hcount] at hnext ⊢
        have hstart : Starting (d₁.discard (STARTUP_MAGIC.length + 1)).toControl :=
          ⟨hopen, fun n h => nomatch hnone.symm.trans h⟩
        exact (ih (d := (d₁.del _).discard _) hstart hrest).after (hrun.trans (.single hnext))
      · rw [if_neg hcount] at hnext ⊢
        have hstart : Starting
            (d₁.expect (some (at_ d₁.buffer STARTUP_MAGIC.length).toNat)).toControl := by
          refine ⟨hopen, fun n h => ?_⟩
          cases h
          omega
        exact (ih (d := (d₁.del _).expect _) hstart hrest).after (hrun.trans (.single hnext))

theorem length_candidates (n : Nat) (b : List UInt8) : (candidates n b).length = n := by
  unfold candidates
  rw [List.length_map, List.length_range]

/-- The startup loop runs until it comes to rest. -/
theorem startupLoop_drains (timestamp : τ) {fuel : Nat} {d : PacketDecoder}
    (hd : Starting d.toControl) (hfuel : d.buffer.length < fuel) :
    (startup timestamp).Drains d.toControl d.buffer (startupLoop (τ := τ) fuel d).1
        (startupLoop (τ := τ) fuel d).2.toControl (startupLoop (τ := τ) fuel d).2.buffer := by
  induction fuel generalizing d with
  | zero => omega
  | succ fuel ih =>
  unfold startupLoop
  have hawait := awaitDescriptors_awaited timestamp hd (Nat.le_refl _)
  cases hr : awaitDescriptors (d.buffer.length + 2) d with
  | mk d₁ expected =>
  rw [hr] at hawait
  obtain ⟨hrun, hstarting, hexp, hquiet⟩ := hawait
  have hle := hrun.length_le
  dsimp only at hrun hstarting hexp hquiet hle
  cases expected with
  | none => exact ⟨hrun, hquiet rfl⟩
  | some n =>
  dsimp only
  have hn := hstarting.count n hexp
  have hnext := startup_step timestamp hstarting.open_ d₁.buffer
  by_cases hshort : d₁.buffer.length < n * DESCRIPTOR_SIZE
  · rw [if_pos hshort]
    refine ⟨hrun, hnext.trans ?_⟩
    unfold adcStep
    rw [if_pos hstarting.open_, hexp]
    exact if_pos (Or.inr hshort)
  rw [if_neg hshort]
  rw [adcStep_block hstarting.open_ hexp hn (Nat.not_lt.mp hshort)] at hnext
  have hused : 0 < n * DESCRIPTOR_SIZE := Nat.mul_pos hn (by decide)
  cases hvalid : (candidates n d₁.buffer).all valid with
  | false =>
      rw [if_pos hvalid] at hnext
      have hrest : (d₁.buffer.drop (n * DESCRIPTOR_SIZE)).length < fuel := by
        rw [List.length_drop]
        omega
      have hstart : Starting
          (((d₁.del (n * DESCRIPTOR_SIZE)).expect none).discard (n * DESCRIPTOR_SIZE)).toControl :=
        ⟨hstarting.open_, fun n h => nomatch h⟩
      exact (hrun.trans (.single hnext)).drains
        (ih (d := ((d₁.del _).expect none).discard _) hstart hrest)
  | true =>
      rw [hvalid, if_neg Bool.true_eq_false.mp] at hnext
      refine ⟨hrun.trans ?_, Decoder.restrict_quiet rfl _⟩
      rw [length_candidates]
      exact .single hnext

/-- The measurement loop runs until it comes to rest. -/
theorem measurementLoop_drains (timestamp : τ) {fuel : Nat} {d : PacketDecoder}
    (hd : d.startupComplete = true) (hfuel : d.buffer.length < fuel) :
    (measurement timestamp).Drains d.toControl d.buffer (measurementLoop timestamp fuel d).1
        (measurementLoop timestamp fuel d).2.toControl
        (measurementLoop timestamp fuel d).2.buffer := by
  have hpacket : PACKET_SIZE = 6 := rfl
  induction fuel generalizing d with
  | zero => omega
  | succ fuel ih =>
  unfold measurementLoop
  have hnext := measurement_step timestamp hd d.buffer
  unfold adcStep at hnext
  rw [if_neg (by rw [hd]; exact Bool.true_eq_false.mp)] at hnext
  by_cases hshort : d.buffer.length < PACKET_SIZE
  · rw [if_pos hshort] at hnext ⊢
    exact Decoder.Quiet.drains hnext
  rw [if_neg hshort] at hnext ⊢
  dsimp only
  have hrest : ∀ k, 0 < k → (d.buffer.drop k).length < fuel := by
    intro k hk
    rw [List.length_drop]
    omega
  cases hvalid : valid (d.buffer.take PACKET_SIZE) with
  | false =>
      rw [if_pos hvalid] at hnext
      exact (Decoder.Run.single hnext).drains
        (ih (d := (d.del 1).discard 1) hd (hrest 1 (by omega)))
  | true =>
      rw [hvalid, if_neg Bool.true_eq_false.mp] at hnext
      exact (Decoder.Run.single hnext).drains (ih (d := d.del PACKET_SIZE) hd (hrest _ (by omega)))

/-- The phase of the decoder that a call runs. -/
def phase (timestamp : τ) (startupComplete : Bool) : Decoder Control UInt8 (Item τ) :=
  if startupComplete then measurement timestamp else startup timestamp

/-- **A call of `feed` runs its phase until it comes to rest.** -/
theorem feed_drains (timestamp : τ) {d : PacketDecoder}
    (hd : d.startupComplete = false → Starting d.toControl) (data : List UInt8) :
    (phase timestamp d.startupComplete).Drains d.toControl (d.buffer ++ data)
      (feed timestamp d data).1 (feed timestamp d data).2.toControl
      (feed timestamp d data).2.buffer := by
  unfold feed phase
  dsimp only
  cases hs : d.startupComplete with
  | false =>
      rw [if_pos rfl, if_neg Bool.false_ne_true]
      exact startupLoop_drains timestamp (d := { d with buffer := d.buffer ++ data }) (hd hs)
        (Nat.lt_succ_self _)
  | true =>
      rw [if_neg Bool.true_eq_false.mp, if_pos rfl]
      exact measurementLoop_drains timestamp (d := { d with buffer := d.buffer ++ data }) hs
        (Nat.lt_succ_self _)

/-! ## §6. Configured streams. -/

/-- The steps of the startup. -/
inductive StartupStep (s : Control) (b : List UInt8) : Control → Nat → List (Item τ) → Prop
  | skip (hexp : s.expectedDescriptors = none) (hmagic : STARTUP_MAGIC.isPrefixOf b = false)
      (hlen : STARTUP_MAGIC.length ≤ b.length) : StartupStep s b (s.discard 1) 1 []
  | count (hexp : s.expectedDescriptors = none) (hmagic : STARTUP_MAGIC.isPrefixOf b = true)
      (hlen : STARTUP_MAGIC.length < b.length)
      (hcount : (at_ b STARTUP_MAGIC.length).toNat = 0
        ∨ (at_ b STARTUP_MAGIC.length).toNat > MAX_CONFIG_DESCRIPTORS) :
      StartupStep s b (s.discard (STARTUP_MAGIC.length + 1)) (STARTUP_MAGIC.length + 1) []
  | header (hexp : s.expectedDescriptors = none) (hmagic : STARTUP_MAGIC.isPrefixOf b = true)
      (hlen : STARTUP_MAGIC.length < b.length)
      (hcount : ¬ ((at_ b STARTUP_MAGIC.length).toNat = 0
        ∨ (at_ b STARTUP_MAGIC.length).toNat > MAX_CONFIG_DESCRIPTORS)) :
      StartupStep s b { s with expectedDescriptors := some (at_ b STARTUP_MAGIC.length).toNat }
        (STARTUP_MAGIC.length + 1) []
  | reject (n : Nat) (hexp : s.expectedDescriptors = some n) (hlen : n * DESCRIPTOR_SIZE ≤ b.length)
      (hinvalid : (candidates n b).all valid = false) :
      StartupStep s b { s.discard (n * DESCRIPTOR_SIZE) with expectedDescriptors := none }
        (n * DESCRIPTOR_SIZE) []
  | accept (n : Nat) (hexp : s.expectedDescriptors = some n) (hlen : n * DESCRIPTOR_SIZE ≤ b.length)
      (hvalid : (candidates n b).all valid = true) :
      StartupStep s b
        { s with descriptorCount := n, startupComplete := true, expectedDescriptors := none }
        (n * DESCRIPTOR_SIZE) ((candidates n b).map descriptorOf)

variable {timestamp : τ} {s s' : Control} {b b' xs ys rest : List UInt8} {out : List (Item τ)}

/-- The startup makes no other steps. -/
theorem startup_cases {n : Nat} (h : (startup timestamp).step s b = some (s', n, out)) :
    s.startupComplete = false ∧ StartupStep s b s' n out := by
  cases hs : s.startupComplete with
  | true =>
      -- a complete startup takes no more bytes
      have hquiet : (startup timestamp).Quiet s b := Decoder.restrict_quiet (by rw [hs]; rfl) b
      rw [hquiet] at h
      cases h
  | false =>
  rw [startup_step _ hs] at h
  refine ⟨rfl, ?_⟩
  -- each branch that consumes bytes is one constructor
  unfold adcStep at h
  rw [if_pos hs] at h
  cases hexp : s.expectedDescriptors with
  | none =>
      rw [hexp] at h
      dsimp only at h
      split at h
      · cases h
      next hlen =>
      split at h
      · next hmagic =>
        cases h
        exact .skip hexp hmagic (Nat.not_lt.mp hlen)
      next hmagic =>
      split at h
      · cases h
      next hlonger =>
      split at h
      · next hcount =>
        cases h
        exact .count hexp (Bool.of_not_eq_false hmagic) (by omega) hcount
      · next hcount =>
        cases h
        exact .header hexp (Bool.of_not_eq_false hmagic) (by omega) hcount
  | some k =>
      rw [hexp] at h
      dsimp only at h
      split at h
      · cases h
      next hlen =>
      split at h
      · next hinvalid =>
        cases h
        exact .reject k hexp (by omega) hinvalid
      · next hvalid =>
        cases h
        exact .accept k hexp (by omega) (Bool.of_not_eq_false hvalid)

/-- The count of a configuration block. -/
def GoodCount (count : UInt8) : Prop := ¬ (count.toNat = 0 ∨ count.toNat > MAX_CONFIG_DESCRIPTORS)

theorem GoodCount.pos {count : UInt8} (h : GoodCount count) : 0 < count.toNat :=
  Nat.pos_of_ne_zero fun hzero => h (Or.inl hzero)

/-- `Configured xs rest`: the first accepted configuration block of the stream
`xs` is followed by `rest`.  Before it there are bytes at which no magic begins,
headers with an impossible count, and blocks with an invalid descriptor. -/
inductive Configured : List UInt8 → List UInt8 → Prop
  | skip {x : UInt8} {xs rest : List UInt8} (hmagic : STARTUP_MAGIC.isPrefixOf (x :: xs) = false)
      (h : Configured xs rest) : Configured (x :: xs) rest
  | count {count : UInt8} {xs rest : List UInt8} (hcount : ¬ GoodCount count)
      (h : Configured xs rest) : Configured (STARTUP_MAGIC ++ count :: xs) rest
  | block {count : UInt8} {block xs rest : List UInt8} (hcount : GoodCount count)
      (hlen : block.length = count.toNat * DESCRIPTOR_SIZE)
      (hinvalid : (candidates count.toNat block).all valid = false) (h : Configured xs rest) :
      Configured (STARTUP_MAGIC ++ count :: (block ++ xs)) rest
  | accepted {count : UInt8} {block rest : List UInt8} (hcount : GoodCount count)
      (hlen : block.length = count.toNat * DESCRIPTOR_SIZE)
      (hvalid : (candidates count.toNat block).all valid = true) :
      Configured (STARTUP_MAGIC ++ count :: (block ++ rest)) rest

/-- A buffer that begins with a magic and a count. -/
theorem eq_magic_append (hmagic : STARTUP_MAGIC.isPrefixOf b = true)
    (hlen : STARTUP_MAGIC.length < b.length) :
    b = STARTUP_MAGIC ++ at_ b STARTUP_MAGIC.length :: b.drop (STARTUP_MAGIC.length + 1) := by
  obtain ⟨tail, rfl⟩ := List.isPrefixOf_iff_prefix.mp hmagic
  cases tail with
  | nil =>
      rw [List.append_nil] at hlen
      omega
  | cons count tail => rfl

theorem isPrefixOf_magic (xs : List UInt8) :
    STARTUP_MAGIC.isPrefixOf (STARTUP_MAGIC ++ xs) = true :=
  List.isPrefixOf_iff_prefix.mpr (List.prefix_append _ _)

/-- The same where a header or, behind a header, a block of `n` descriptors comes next. -/
def Awaits : Option Nat → List UInt8 → List UInt8 → Prop
  | none, b, rest => Configured b rest
  | some n, b, rest =>
    ∃ block ys, b = block ++ ys ∧ block.length = n * DESCRIPTOR_SIZE
      ∧ ((candidates n block).all valid = true ∧ rest = ys
        ∨ (candidates n block).all valid = false ∧ Configured ys rest)

/-- The block at the beginning of a buffer. -/
theorem exists_block {n : Nat} (hlen : n * DESCRIPTOR_SIZE ≤ b.length) :
    ∃ block, b = block ++ b.drop (n * DESCRIPTOR_SIZE) ∧ block.length = n * DESCRIPTOR_SIZE
      ∧ candidates n block = candidates n b := by
  refine ⟨b.take (n * DESCRIPTOR_SIZE), (List.take_append_drop _ _).symm, ?_, ?_⟩
  · rw [List.length_take, Nat.min_eq_left hlen]
  · have htake : n * DESCRIPTOR_SIZE ≤ (b.take (n * DESCRIPTOR_SIZE)).length := by
      rw [List.length_take, Nat.min_eq_left hlen]
    have h := candidates_append htake (b.drop (n * DESCRIPTOR_SIZE))
    rw [List.take_append_drop] at h
    exact h.symm

/-- What a run of the startup has found when it completes it. -/
theorem awaits_of_run (hrun : (startup timestamp).Run s b out s' b')
    (hs : s.startupComplete = false) (hend : s'.startupComplete = true) :
    Awaits s.expectedDescriptors b b' := by
  induction hrun with
  | refl s b =>
      rw [hs] at hend
      cases hend
  | @step s s₁ s₂ b b₂ n out out' hstep hrest ih =>
      obtain ⟨-, hcases⟩ := startup_cases hstep
      cases hcases with
      | skip hexp hmagic hlen =>
          have hnext : Awaits s.expectedDescriptors (b.drop 1) b₂ := ih hs hend
          rw [hexp] at hnext ⊢
          cases b with
          | nil => exact absurd hlen (by decide)
          | cons x xs => exact .skip hmagic hnext
      | count hexp hmagic hlen hcount =>
          have hnext : Awaits s.expectedDescriptors (b.drop (STARTUP_MAGIC.length + 1)) b₂ :=
            ih hs hend
          rw [hexp] at hnext ⊢
          show Configured b b₂
          rw [eq_magic_append hmagic hlen]
          exact .count (not_not.mpr hcount) hnext
      | header hexp hmagic hlen hcount =>
          obtain ⟨block, ys, hdrop, hblock, hrest⟩ := ih hs hend
          rw [hexp]
          show Configured b b₂
          rw [eq_magic_append hmagic hlen, hdrop]
          rcases hrest with ⟨hvalid, rfl⟩ | ⟨hinvalid, hnext⟩
          · exact .accepted hcount hblock hvalid
          · exact .block hcount hblock hinvalid hnext
      | reject n hexp hlen hinvalid =>
          obtain ⟨block, hb, hblock, hsame⟩ := exists_block hlen
          rw [hexp]
          exact ⟨block, _, hb, hblock, Or.inr ⟨hsame ▸ hinvalid, ih hs hend⟩⟩
      | accept n hexp hlen hvalid =>
          obtain ⟨block, hb, hblock, hsame⟩ := exists_block hlen
          -- the startup is complete, and the decoder stops
          obtain ⟨-, -, hstop⟩ := Decoder.Quiet.run_eq (Decoder.restrict_quiet rfl _) hrest
          rw [hexp]
          exact ⟨block, _, hb, hblock, Or.inl ⟨hsame ▸ hvalid, hstop⟩⟩

/-- A configured stream holds a header and a descriptor at least. -/
theorem Configured.length_lt (h : Configured xs rest) : STARTUP_MAGIC.length < xs.length := by
  induction h with
  | skip hmagic h ih =>
      rw [List.length_cons]
      omega
  | count hcount h ih =>
      rw [List.length_append, List.length_cons]
      omega
  | block hcount hlen hinvalid h ih =>
      rw [List.length_append, List.length_cons]
      omega
  | accepted hcount hlen hvalid =>
      rw [List.length_append, List.length_cons]
      omega

/-- The steps behind a magic. -/
theorem header_step (timestamp : τ) (hs : s.startupComplete = false)
    (hexp : s.expectedDescriptors = none) (count : UInt8) (xs : List UInt8) :
    (startup timestamp).step s (STARTUP_MAGIC ++ count :: xs) =
      if count.toNat = 0 ∨ count.toNat > MAX_CONFIG_DESCRIPTORS then
        some (s.discard (STARTUP_MAGIC.length + 1), STARTUP_MAGIC.length + 1, [])
      else
        some ({ s with expectedDescriptors := some count.toNat }, STARTUP_MAGIC.length + 1,
          []) := by
  have hlen : (STARTUP_MAGIC ++ count :: xs).length = STARTUP_MAGIC.length + 1 + xs.length := by
    rw [List.length_append, List.length_cons]
    omega
  rw [startup_step _ hs, adcStep_header hs hexp (by omega), isPrefixOf_magic,
    if_neg Bool.true_eq_false.mp, if_neg (by omega)]
  rfl

/-- The step behind a header. -/
theorem block_step (timestamp : τ) (hs : s.startupComplete = false) {n : Nat}
    (hexp : s.expectedDescriptors = some n) (hn : 0 < n) {block : List UInt8}
    (hlen : block.length = n * DESCRIPTOR_SIZE) (xs : List UInt8) :
    (startup timestamp).step s (block ++ xs) =
      if (candidates n block).all valid = false then
        some ({ s.discard (n * DESCRIPTOR_SIZE) with expectedDescriptors := none },
          n * DESCRIPTOR_SIZE, [])
      else
        some ({ s with
          descriptorCount := n
          startupComplete := true
          expectedDescriptors := none }, n * DESCRIPTOR_SIZE,
          (candidates n block).map descriptorOf) := by
  have hle : n * DESCRIPTOR_SIZE ≤ (block ++ xs).length := by
    rw [List.length_append]
    omega
  rw [startup_step _ hs, adcStep_block hs hexp hn hle, candidates_append (by omega)]

theorem drop_block {block : List UInt8} {n : Nat} (hlen : block.length = n) (xs : List UInt8) :
    (block ++ xs).drop n = xs := by
  rw [← hlen, List.drop_left]

/-- A configured stream is decoded up to the end of the block. -/
theorem Configured.run (timestamp : τ) (h : Configured xs rest) (hs : s.startupComplete = false)
    (hexp : s.expectedDescriptors = none) :
    ∃ out s', (startup timestamp).Run s xs out s' rest ∧ s'.startupComplete = true := by
  induction h generalizing s with
  | @skip x xs rest hmagic h ih =>
      have hlen : STARTUP_MAGIC.length ≤ (x :: xs).length := by
        have := h.length_lt
        rw [List.length_cons]
        omega
      have hstep : (startup timestamp).step s (x :: xs) = some (s.discard 1, 1, []) := by
        rw [startup_step _ hs, adcStep_header hs hexp hlen]
        exact if_pos hmagic
      obtain ⟨out, s', hrun, hend⟩ := ih (s := s.discard 1) hs hexp
      exact ⟨_, s', .step hstep hrun, hend⟩
  | @count count xs rest hcount h ih =>
      have hstep := header_step timestamp hs hexp count xs
      rw [if_pos (not_not.mp hcount)] at hstep
      obtain ⟨out, s', hrun, hend⟩ := ih (s := s.discard (STARTUP_MAGIC.length + 1)) hs hexp
      exact ⟨_, s', .step hstep hrun, hend⟩
  | @block count block xs rest hcount hlen hinvalid h ih =>
      have hstep := header_step timestamp hs hexp count (block ++ xs)
      rw [if_neg hcount] at hstep
      have hblock := block_step timestamp
        (s := { s with expectedDescriptors := some count.toNat }) hs rfl hcount.pos hlen xs
      rw [hinvalid, if_pos rfl] at hblock
      obtain ⟨out, s', hrun, hend⟩ := ih
        (s := { s.discard (count.toNat * DESCRIPTOR_SIZE) with expectedDescriptors := none }) hs rfl
      rw [← drop_block hlen xs] at hrun
      exact ⟨_, s', .step hstep (.step hblock hrun), hend⟩
  | @accepted count block rest hcount hlen hvalid =>
      have hstep := header_step timestamp hs hexp count (block ++ rest)
      rw [if_neg hcount] at hstep
      have hblock := block_step timestamp
        (s := { s with expectedDescriptors := some count.toNat }) hs rfl hcount.pos hlen rest
      rw [hvalid, if_neg Bool.true_eq_false.mp] at hblock
      have hrun := Decoder.Run.step hstep (.single hblock)
      rw [show (STARTUP_MAGIC ++ count :: (block ++ rest)).drop (STARTUP_MAGIC.length + 1)
        = block ++ rest from rfl, drop_block hlen] at hrun
      exact ⟨_, _, hrun, rfl⟩

/-- A stream that leaves the startup incomplete is not configured. -/
theorem not_configured (h : (startup timestamp).Drains .init xs out s b)
    (hs : s.startupComplete = false) (rest : List UInt8) : ¬ Configured xs rest := by
  intro hconfigured
  obtain ⟨out', s', hrun, hend⟩ := hconfigured.run timestamp (s := .init) rfl rfl
  have hquiet : (startup timestamp).Quiet s' rest := Decoder.restrict_quiet (by rw [hend]; rfl) rest
  obtain ⟨-, rfl, -⟩ := h.unique ⟨hrun, hquiet⟩
  rw [hs] at hend
  cases hend

/-- **The startup is over exactly when the stream is configured**, and the
buffer then holds what follows the block. -/
theorem configured_iff (h : (startup timestamp).Drains .init xs out s b) :
    Configured xs rest ↔ s.startupComplete = true ∧ b = rest := by
  constructor
  · intro hconfigured
    obtain ⟨out', s', hrun, hend⟩ := hconfigured.run timestamp (s := .init) rfl rfl
    have hquiet : (startup timestamp).Quiet s' rest :=
      Decoder.restrict_quiet (by rw [hend]; rfl) rest
    obtain ⟨-, rfl, rfl⟩ := h.unique ⟨hrun, hquiet⟩
    exact ⟨hend, rfl⟩
  · intro hend
    obtain ⟨hend, rfl⟩ := hend
    exact awaits_of_run h.run rfl hend

/-! ## §7. Chunks. -/

/-- The startup goes on from a sound state, or is complete. -/
theorem starting_of_run (hrun : (startup timestamp).Run s b out s' b')
    (hs : s.startupComplete = false → Starting s) :
    s'.startupComplete = false → Starting s' := by
  induction hrun with
  | refl s b => exact hs
  | @step s s₁ s₂ b b₂ n out out' hstep hrest ih =>
      refine ih fun hopen => ⟨hopen, ?_⟩
      obtain ⟨hfalse, hcases⟩ := startup_cases hstep
      intro k hk
      cases hcases with
      | skip hexp hmagic hlen => exact (hs hfalse).count k hk
      | count hexp hmagic hlen hcount => exact (hs hfalse).count k hk
      | header hexp hmagic hlen hcount =>
          cases hk
          omega
      | reject n hexp hlen hinvalid => cases hk
      | accept n hexp hlen hvalid => cases hopen

/-- A measurement is decoded, or a byte discarded, wherever input is used up. -/
theorem measurement_run (hrun : (measurement timestamp).Run s b out s' b')
    (hs : s.startupComplete = true) :
    s'.startupComplete = true ∧ s.discardedBytes ≤ s'.discardedBytes
      ∧ (out = [] → s'.discardedBytes = s.discardedBytes → b' = b) := by
  induction hrun with
  | refl s b => exact ⟨hs, Nat.le_refl _, fun _ _ => rfl⟩
  | @step s s₁ s₂ b b₂ n out out' hstep hrest ih =>
      rw [measurement_step _ hs] at hstep
      unfold adcStep at hstep
      rw [if_neg (by rw [hs]; exact Bool.true_eq_false.mp)] at hstep
      split at hstep
      · cases hstep
      split at hstep
      · cases hstep
        obtain ⟨hend, hle, -⟩ := ih hs
        have hmore : s.discardedBytes + 1 ≤ s₂.discardedBytes := hle
        exact ⟨hend, by omega, fun _ hsame => by omega⟩
      · cases hstep
        obtain ⟨hend, hle, -⟩ := ih hs
        exact ⟨hend, hle, fun hout => nomatch hout⟩

theorem measurement_quiet_iff (hs : s.startupComplete = true) :
    (measurement timestamp).Quiet s b ↔ b.length < PACKET_SIZE := by
  unfold Decoder.Quiet
  rw [measurement_step _ hs]
  unfold adcStep
  rw [if_neg (by rw [hs]; exact Bool.true_eq_false.mp)]
  constructor
  · intro h
    by_contra hlong
    rw [if_neg hlong] at h
    split at h
    · cases h
    · cases h
  · intro hshort
    exact if_pos hshort

/-- The packets behind the startup. -/
theorem feedAll_measurement (timestamp : τ) {d : PacketDecoder} (hd : d.startupComplete = true)
    (chunk : List UInt8) (chunks : List (List UInt8)) :
    (measurement timestamp).Drains d.toControl (d.buffer ++ (chunk :: chunks).flatten)
      (feedAll timestamp d (chunk :: chunks)).1 (feedAll timestamp d (chunk :: chunks)).2.toControl
      (feedAll timestamp d (chunk :: chunks)).2.buffer := by
  induction chunks generalizing d chunk with
  | nil =>
      have hfeed := feed_drains timestamp (d := d) (fun h => nomatch hd.symm.trans h) chunk
      rw [hd] at hfeed
      show (measurement timestamp).Drains _ (d.buffer ++ (chunk ++ [])) (_ ++ []) _ _
      rw [List.append_nil, List.append_nil]
      exact hfeed
  | cons next chunks ih =>
      have hfeed := feed_drains timestamp (d := d) (fun h => nomatch hd.symm.trans h) chunk
      rw [hd] at hfeed
      have hnext := ih (measurement_run hfeed.run hd).1 next
      have hall := hfeed.append hnext
      rw [List.append_assoc] at hall
      exact hall

/-- What successive calls do during the startup: it is not complete at the end,
or one of the chunks completes it. -/
theorem feedAll_startup (timestamp : τ) {d : PacketDecoder}
    (hd : (startup timestamp).Drains .init xs out d.toControl d.buffer)
    (hs : d.startupComplete = false) (chunks : List (List UInt8)) :
    (startup timestamp).Drains .init (xs ++ chunks.flatten) (out ++ (feedAll timestamp d chunks).1)
        (feedAll timestamp d chunks).2.toControl (feedAll timestamp d chunks).2.buffer
      ∧ (feedAll timestamp d chunks).2.startupComplete = false
    ∨ ∃ before chunk after d₁ out₁, chunks = before ++ chunk :: after
      ∧ (∀ rest, ¬ Configured (xs ++ before.flatten) rest)
      ∧ (startup timestamp).Drains .init (xs ++ before.flatten ++ chunk) out₁
        (PacketDecoder.toControl d₁) d₁.buffer
      ∧ d₁.startupComplete = true
      ∧ out ++ (feedAll timestamp d chunks).1 = out₁ ++ (feedAll timestamp d₁ after).1
      ∧ (feedAll timestamp d chunks).2 = (feedAll timestamp d₁ after).2 := by
  -- induction on the chunks: the first one that completes the startup, if any
  induction chunks generalizing xs out d with
  | nil =>
      refine Or.inl ⟨?_, hs⟩
      show (startup timestamp).Drains .init (xs ++ []) (out ++ []) _ _
      rw [List.append_nil, List.append_nil]
      exact hd
  | cons chunk chunks ih =>
      have hstarting := starting_of_run hd.run fun h => ⟨h, fun n hn => nomatch hn⟩
      have hfeed := feed_drains timestamp hstarting chunk
      rw [hs] at hfeed
      have hnext := hd.append hfeed
      have hout : (feedAll timestamp d (chunk :: chunks)).1
          = (feed timestamp d chunk).1 ++ (feedAll timestamp (feed timestamp d chunk).2 chunks).1 :=
        rfl
      cases hend : (feed timestamp d chunk).2.startupComplete with
      | true =>
          refine Or.inr ⟨[], chunk, chunks, (feed timestamp d chunk).2,
            out ++ (feed timestamp d chunk).1, rfl, ?_, ?_, hend, ?_, rfl⟩
          · intro rest
            -- what came before this chunk configures nothing yet
            show ¬ Configured (xs ++ []) rest
            rw [List.append_nil]
            exact not_configured hd hs rest
          · show (startup timestamp).Drains .init (xs ++ [] ++ chunk) _ _ _
            rw [List.append_nil]
            exact hnext
          · rw [hout, List.append_assoc]
      | false =>
          rcases ih hnext hend with ⟨hdrains, hopen⟩ | ⟨before, c, after, d₁, out₁, rfl, hnot,
            hdrains, hdone, hout₁, hd₁⟩
          · refine Or.inl ⟨?_, hopen⟩
            rw [hout, List.flatten_cons, ← List.append_assoc, ← List.append_assoc]
            exact hdrains
          · refine Or.inr ⟨chunk :: before, c, after, d₁, out₁, rfl, ?_, ?_, hdone, ?_, hd₁⟩
            · rw [List.flatten_cons, ← List.append_assoc]
              exact hnot
            · rw [List.flatten_cons, ← List.append_assoc]
              exact hdrains
            · rw [hout, ← List.append_assoc]
              exact hout₁

/-- Where the chunks make no difference: the chunks before the last one do not
hold a whole configuration block that is accepted, or fewer bytes than a packet
has follow that block in the stream. -/
def Harmless (chunks : List (List UInt8)) : Prop :=
  (∀ rest, ¬ Configured chunks.dropLast.flatten rest)
    ∨ ∀ rest, Configured chunks.flatten rest → rest.length < PACKET_SIZE

/-- The same items and the same count of discarded bytes. -/
def SameResult (r r' : List (Item τ) × PacketDecoder) : Prop :=
  r.1 = r'.1 ∧ r.2.discardedBytes = r'.2.discardedBytes

theorem dropLast_append_cons (before : List (List UInt8)) (chunk next : List UInt8)
    (after : List (List UInt8)) :
    (before ++ chunk :: next :: after).dropLast
      = before ++ chunk :: (next :: after).dropLast := by
  rw [List.dropLast_append_of_ne_nil (by simp)]
  rfl

/-- **Chunks make no difference exactly where they are harmless.**  Otherwise
the call that gets the whole stream leaves the packets behind the configuration
block in its buffer. -/
theorem chunking_iff (timestamp : τ) (chunks : List (List UInt8)) :
    SameResult (feedAll timestamp .init chunks) (feed timestamp .init chunks.flatten)
      ↔ Harmless chunks := by
  have hinit : (startup timestamp).Drains .init [] [] PacketDecoder.init.toControl
      PacketDecoder.init.buffer := Decoder.Quiet.drains rfl
  have hwhole := feed_drains timestamp (d := .init) (fun h => ⟨h, fun n hn => nomatch hn⟩)
    chunks.flatten
  have hwhole : (startup timestamp).Drains .init chunks.flatten
      (feed timestamp .init chunks.flatten).1 (feed timestamp .init chunks.flatten).2.toControl
      (feed timestamp .init chunks.flatten).2.buffer := hwhole
  rcases feedAll_startup timestamp hinit rfl chunks with ⟨hdrains, hopen⟩ | ⟨before, chunk, after, d₁,
    out₁, rfl, hnot, hdrains, hdone, hout, hd⟩
  · -- the startup is not complete at the end
    obtain ⟨hout, hcontrol, -⟩ := hdrains.unique hwhole
    refine ⟨fun _ => Or.inr fun rest hconfigured => ?_, fun _ => ⟨hout, congrArg _ hcontrol⟩⟩
    exact absurd hconfigured (not_configured hdrains hopen rest)
  · have hstop : ∀ more, (startup timestamp).Quiet d₁.toControl more :=
      fun more => Decoder.restrict_quiet (by rw [hdone]; rfl) more
    -- the whole stream is decoded up to the end of the block
    have hstopped := (hdrains.append (Decoder.Quiet.drains (hstop (d₁.buffer ++ after.flatten))))
    have hflatten : [] ++ before.flatten ++ chunk ++ after.flatten
        = (before ++ chunk :: after).flatten := by simp
    rw [hflatten] at hstopped
    obtain ⟨hout', hcontrol, -⟩ := hstopped.unique hwhole
    have hconfigured := (configured_iff hstopped).mpr ⟨hdone, rfl⟩
    rw [List.append_nil] at hout'
    rw [List.nil_append] at hnot hdrains hout
    cases after with
    | nil =>
        -- the block ends in the last chunk
        rw [show (feedAll timestamp d₁ []).1 = [] from rfl, List.append_nil] at hout
        refine ⟨fun _ => Or.inl ?_, fun _ => ⟨hout.trans hout', ?_⟩⟩
        · rw [List.dropLast_concat]
          exact hnot
        · rw [hd]
          exact congrArg Control.discardedBytes hcontrol
    | cons next after =>
        have hpackets := feedAll_measurement timestamp hdone next after
        obtain ⟨hend, hle, hmoves⟩ := measurement_run hpackets.run hdone
        have hdiscarded : (feed timestamp .init
          (before ++ chunk :: next :: after).flatten).2.discardedBytes
            = d₁.discardedBytes := (congrArg Control.discardedBytes hcontrol).symm
        have hsame : SameResult (feedAll timestamp .init (before ++ chunk :: next :: after))
              (feed timestamp .init (before ++ chunk :: next :: after).flatten)
            ↔ (feedAll timestamp d₁ (next :: after)).1 = []
              ∧ (feedAll timestamp d₁ (next :: after)).2.discardedBytes = d₁.discardedBytes := by
          unfold SameResult
          rw [hout, hd, ← hout', hdiscarded, List.append_right_eq_self]
        rw [hsame]
        constructor
        · intro hnothing
          have hbuffer := hmoves hnothing.1 hnothing.2
          refine Or.inr fun rest hrest => ?_
          obtain ⟨-, rfl⟩ := (configured_iff hstopped).mp hrest
          have hquiet := hpackets.quiet
          rw [hbuffer] at hquiet
          exact (measurement_quiet_iff hend).mp hquiet
        · intro hharmless
          rcases hharmless with hnone | hshort
          · -- the chunks before the last one hold the block
            have hbefore := hdrains.append (Decoder.Quiet.drains
              (hstop (d₁.buffer ++ (next :: after).dropLast.flatten)))
            have hflatten' : before.flatten ++ chunk ++ (next :: after).dropLast.flatten
                = (before ++ chunk :: next :: after).dropLast.flatten := by
              rw [dropLast_append_cons]
              simp
            rw [hflatten'] at hbefore
            exact absurd ((configured_iff hbefore).mpr ⟨hdone, rfl⟩) (hnone _)
          · have hquiet : (measurement timestamp).Quiet d₁.toControl
                (d₁.buffer ++ (next :: after).flatten) :=
              (measurement_quiet_iff hdone).mpr (hshort _ hconfigured)
            obtain ⟨hnothing, hcontrol₁, -⟩ := hpackets.unique hquiet.drains
            exact ⟨hnothing, congrArg Control.discardedBytes hcontrol₁⟩

/-- A configuration block of one descriptor, and a packet. -/
def oneDescriptor : List UInt8 := STARTUP_MAGIC ++ [1, 0, 7, 1, 3]
def onePacket : List UInt8 := [0, 7, 1, 3, 0x12, 0x34]

/-- A packet in the chunk of the configuration block is decoded by the next
call only. -/
theorem not_chunking : ¬ ∀ (timestamp : Nat) (chunks : List (List UInt8)),
    SameResult (feedAll timestamp .init chunks) (feed timestamp .init chunks.flatten) := by
  intro h
  have hitems := (h 0 [oneDescriptor ++ onePacket, onePacket]).1
  exact absurd hitems (by decide)

end WallController.Host.Adc
