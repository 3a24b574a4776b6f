/-
  WallController.Bootloader.Session
  ────────────────────────────────
  **THE SESSION, AND THE BOOKKEEPING OF PACKET IDS.**

  A session begins with an update request whose erase succeeded.  What it has
  received is read off the trace (`currentSession`).  The image record of the
  controller keeps a summary of the ids; `Tracks` says how `uiNextId`, the
  lost list and the recovered count describe the set of accepted ids, and the
  lemmas after it are the three ways it changes:

      withMissing   a gap is recorded
      accept_next   the packet `uiNextId` is accepted
      recover       a pending lost packet is accepted
-/
import WallController.Bootloader.Calls
import WallController.Lib.Chunks

namespace WallController.Bootloader

open WallController.Lib

/-! ## §1. The session of a trace. -/

/-- A session: the payload of its update request, and the calls since. -/
structure Session where
  request : List UInt8
  calls : List Obs

/-- The last calls were a successful erase and the close after it. -/
def justErased : List Obs → Bool
  | .flashClose :: .flashErase ret :: _ => decide (ret = 0)
  | _ => false

/-- The session of a trace, newest call first.  It starts right after a
successful erase, and the next erase ends it. -/
def currentSession : List Obs → Option Session
  | [] => none
  | .sessionStarted uiaData :: log =>
      if justErased log then some { request := uiaData, calls := [] } else none
  | .flashErase _ :: _ => none
  | o :: log => (currentSession log).map fun s => { s with calls := o :: s.calls }

/-- The packet that a call reports as accepted. -/
def Obs.accepted : Obs → Option (Nat × List UInt8)
  | .packetAccepted id data => some (id, data)
  | _ => none

namespace Session

/-- The image size that the update request declares. -/
def size (s : Session) : Nat := requestedSize s.request

/-- The CRC that it declares. -/
def crc (s : Session) : UInt16 := UInt16.ofNat (be16 s.request 8)

/-- The accepted packets, newest first. -/
def packets (s : Session) : List (Nat × List UInt8) := s.calls.filterMap Obs.accepted

/-- The ids of the accepted packets. -/
def ids (s : Session) : List Nat := s.packets.map Prod.fst

/-- The payload of the accepted packet `id`. -/
def payload (s : Session) (id : Nat) : List UInt8 := (s.packets.lookup id).getD []

/-- The part of the payload of packet `id` that lies within the image. -/
def imageBytes (s : Session) (id : Nat) : List UInt8 :=
  (s.payload id).take (chunkLen DATA_PAYLOAD_PER_ONE_IMAGE_FRAME s.size id)

/-- The image bytes of the first `n` packets. -/
def image (s : Session) (n : Nat) : List UInt8 := (List.range n).flatMap s.imageBytes

/-- In this session an accepted packet has written `v` at address `a`. -/
def Wrote (s : Session) (a : Nat) (v : UInt8) : Prop :=
  ∃ id off data, .flashWrite id off data 0 ∈ s.calls ∧ id ∈ s.ids ∧
    off ≤ a ∧ data[a - off]? = some v

/-- The session after more calls. -/
def extend (s : Session) (calls : List Obs) : Session := { s with calls := calls ++ s.calls }

variable {s : Session} {calls : List Obs}

@[simp] theorem size_extend : (s.extend calls).size = s.size := rfl
@[simp] theorem crc_extend : (s.extend calls).crc = s.crc := rfl

theorem filterMap_accepted_of_plain (h : ∀ o ∈ calls, o.plain) :
    calls.filterMap Obs.accepted = [] := by
  rw [List.filterMap_eq_nil_iff]
  intro o ho
  have hp := h o ho
  cases o <;> first | rfl | cases hp

/-- Plain calls add no packet. -/
theorem packets_extend_plain (h : ∀ o ∈ calls, o.plain) :
    (s.extend calls).packets = s.packets := by
  show (calls ++ s.calls).filterMap _ = _
  rw [List.filterMap_append, filterMap_accepted_of_plain h]
  rfl

/-- An accepted packet after plain calls adds exactly this packet. -/
theorem packets_extend_accepted (h : ∀ o ∈ calls, o.plain) (id : Nat) (data : List UInt8) :
    (s.extend (.packetAccepted id data :: calls)).packets = (id, data) :: s.packets := by
  show ((id, data) :: (calls ++ s.calls).filterMap Obs.accepted) = _
  rw [List.filterMap_append, filterMap_accepted_of_plain h]
  rfl

theorem Wrote.extend {a : Nat} {v : UInt8} (h : s.Wrote a v) : (s.extend calls).Wrote a v := by
  obtain ⟨id, off, data, hcall, hid, hoff, hv⟩ := h
  refine ⟨id, off, data, List.mem_append_right _ hcall, ?_, hoff, hv⟩
  obtain ⟨q, hq, rfl⟩ := List.mem_map.mp hid
  refine List.mem_map.mpr ⟨q, ?_, rfl⟩
  show q ∈ (calls ++ s.calls).filterMap _
  rw [List.filterMap_append]
  exact List.mem_append_right _ hq

end Session

/-- Plain calls and accepted packets belong to the session of the trace. -/
theorem currentSession_append {calls log : List Obs} {s : Session}
    (hs : currentSession log = some s)
    (hc : ∀ o ∈ calls, (∀ ret, o ≠ .flashErase ret) ∧ ∀ uiaData, o ≠ .sessionStarted uiaData) :
    currentSession (calls ++ log) = some (s.extend calls) := by
  induction calls with
  | nil => exact hs
  | cons o calls ih =>
      have ih' := ih fun o' ho' => hc o' (List.mem_cons_of_mem _ ho')
      obtain ⟨herase, hstart⟩ := hc o List.mem_cons_self
      show currentSession (o :: (calls ++ log)) = _
      cases o with
      | flashErase ret => exact absurd rfl (herase ret)
      | sessionStarted uiaData => exact absurd rfl (hstart uiaData)
      | _ =>
          simp only [currentSession, ih', Option.map_some, Session.extend, List.cons_append]

theorem Obs.plain_not_start {o : Obs} (h : o.plain) :
    (∀ ret, o ≠ .flashErase ret) ∧ ∀ uiaData, o ≠ .sessionStarted uiaData := by
  constructor
  · rintro ret rfl
    cases h
  · rintro uiaData rfl
    cases h

/-! ## §2. The ids: what is lost and what is accepted. -/

/-- The image record after the gap handler has recorded the next `d` ids. -/
def FWImgCtrl.withMissing (img : FWImgCtrl) (d : Nat) : FWImgCtrl :=
  { img with
    staLostPacketIDs := img.staLostPacketIDs ++ missingEntries img.uiNextId d
    uiFirstLostPacketId :=
      if img.bLostPacketStateTriggered then img.uiFirstLostPacketId else img.uiNextId
    bLostPacketStateTriggered := true
    uiNextId := img.uiNextId + d
    bLostPacketDetected := true }

/-- The lost list and the counters describe the accepted ids. -/
structure Tracks (img : FWImgCtrl) (ids : List Nat) : Prop where
  lost_count : img.uiLostPacketCount ≤ MAX_NUMBER_OF_ALLOWABLE_LOST_PACKETs
  /-- The lost ids are increasing, hence pairwise distinct. -/
  lost_sorted : (img.staLostPacketIDs.map (·.uiPacketId)).Pairwise (· < ·)
  lost_below : ∀ p ∈ img.staLostPacketIDs, p.uiPacketId < img.uiNextId
  nodup : ids.Nodup
  /-- The accepted ids are those below `uiNextId` that are not pending. -/
  mem_iff : ∀ i, i ∈ ids ↔ i < img.uiNextId ∧
    ∀ p ∈ img.staLostPacketIDs, p.uiPacketId = i → p.bIsHandled = true
  recovered : img.uiRecoveredPacketCount = img.staLostPacketIDs.countP (·.bIsHandled)
  triggered : img.bLostPacketStateTriggered = true ↔ 0 < img.uiLostPacketCount
  first : ∀ p, img.staLostPacketIDs.head? = some p → img.uiFirstLostPacketId = p.uiPacketId

theorem mem_missingEntries {n d : Nat} {p : LostPacketCtrl} :
    p ∈ missingEntries n d ↔ p.bIsHandled = false ∧ n ≤ p.uiPacketId ∧ p.uiPacketId < n + d := by
  unfold missingEntries
  rw [List.mem_map]
  constructor
  · rintro ⟨i, hi, rfl⟩
    have hi' := List.mem_range.mp hi
    exact ⟨rfl, Nat.le_add_right _ _, Nat.add_lt_add_left hi' _⟩
  · rintro ⟨hh, h₁, h₂⟩
    refine ⟨p.uiPacketId - n, List.mem_range.mpr (by omega), ?_⟩
    obtain ⟨handled, id⟩ := p
    subst hh
    show LostPacketCtrl.mk false (n + (id - n)) = _
    rw [Nat.add_sub_cancel' h₁]

@[simp] theorem length_missingEntries (n d : Nat) : (missingEntries n d).length = d := by
  simp [missingEntries]

theorem missingEntries_sorted (n d : Nat) :
    ((missingEntries n d).map (·.uiPacketId)).Pairwise (· < ·) := by
  unfold missingEntries
  rw [List.map_map, List.pairwise_map]
  refine List.Pairwise.imp ?_ List.pairwise_lt_range
  intro a b hab
  show n + a < n + b
  omega

theorem countP_missingEntries (n d : Nat) :
    (missingEntries n d).countP (·.bIsHandled) = 0 := by
  rw [List.countP_eq_zero]
  intro p hp
  rw [(mem_missingEntries.mp hp).1]
  exact Bool.false_ne_true

namespace Tracks

variable {img img' : FWImgCtrl} {ids : List Nat}

/-- The cleared record of a new session. -/
theorem cleared : Tracks FWImgCtrl.cleared [] where
  lost_count := Nat.zero_le _
  lost_sorted := .nil
  lost_below := by simp [FWImgCtrl.cleared]
  nodup := .nil
  mem_iff := by simp [FWImgCtrl.cleared]
  recovered := rfl
  triggered := by simp [FWImgCtrl.cleared, FWImgCtrl.uiLostPacketCount]
  first := by simp [FWImgCtrl.cleared]

/-- Only the fields of the lost packets matter. -/
theorem congr (h : Tracks img ids) (hl : img'.staLostPacketIDs = img.staLostPacketIDs)
    (hn : img'.uiNextId = img.uiNextId)
    (hr : img'.uiRecoveredPacketCount = img.uiRecoveredPacketCount)
    (ht : img'.bLostPacketStateTriggered = img.bLostPacketStateTriggered)
    (hf : img'.uiFirstLostPacketId = img.uiFirstLostPacketId) : Tracks img' ids where
  lost_count := by
    show img'.staLostPacketIDs.length ≤ _
    rw [hl]
    exact h.lost_count
  lost_sorted := by rw [hl]; exact h.lost_sorted
  lost_below := by rw [hl, hn]; exact h.lost_below
  nodup := h.nodup
  mem_iff := by rw [hl, hn]; exact h.mem_iff
  recovered := by rw [hl, hr]; exact h.recovered
  triggered := by
    show _ ↔ 0 < img'.staLostPacketIDs.length
    rw [hl, ht]
    exact h.triggered
  first := by rw [hl, hf]; exact h.first

/-- When nothing was lost the list is empty. -/
theorem lost_eq_nil (h : Tracks img ids) (ht : img.bLostPacketStateTriggered = false) :
    img.staLostPacketIDs = [] := by
  have hn : ¬ 0 < img.uiLostPacketCount := by
    rw [← h.triggered, ht]
    exact Bool.false_ne_true
  exact List.length_eq_zero_iff.mp (by simpa [FWImgCtrl.uiLostPacketCount] using hn)

/-- Recording a gap. -/
theorem withMissing (h : Tracks img ids) {d : Nat} (hd : 0 < d)
    (hcount : img.uiLostPacketCount + d ≤ MAX_NUMBER_OF_ALLOWABLE_LOST_PACKETs) :
    Tracks (img.withMissing d) ids where
  lost_count := by
    show (img.staLostPacketIDs ++ missingEntries img.uiNextId d).length ≤ _
    rw [List.length_append, length_missingEntries]
    exact hcount
  lost_sorted := by
    show ((img.staLostPacketIDs ++ missingEntries img.uiNextId d).map _).Pairwise _
    rw [List.map_append, List.pairwise_append]
    refine ⟨h.lost_sorted, missingEntries_sorted _ _, ?_⟩
    intro a ha b hb
    obtain ⟨p, hp, rfl⟩ := List.mem_map.mp ha
    obtain ⟨q, hq, rfl⟩ := List.mem_map.mp hb
    exact lt_of_lt_of_le (h.lost_below p hp) (mem_missingEntries.mp hq).2.1
  lost_below := by
    intro p hp
    show p.uiPacketId < img.uiNextId + d
    rcases List.mem_append.mp hp with hp | hp
    · have := h.lost_below p hp
      omega
    · exact (mem_missingEntries.mp hp).2.2
  nodup := h.nodup
  mem_iff := by
    intro i
    rw [h.mem_iff i]
    show _ ↔ i < img.uiNextId + d ∧
      ∀ p ∈ img.staLostPacketIDs ++ missingEntries img.uiNextId d, _
    constructor
    · rintro ⟨hi, hall⟩
      refine ⟨by omega, ?_⟩
      intro p hp hpi
      rcases List.mem_append.mp hp with hp | hp
      · exact hall p hp hpi
      · have := (mem_missingEntries.mp hp).2.1
        omega
    · rintro ⟨hi, hall⟩
      refine ⟨?_, fun p hp => hall p (List.mem_append_left _ hp)⟩
      -- an id of the gap would be pending
      by_contra hge
      have hmem : LostPacketCtrl.mk false i ∈ missingEntries img.uiNextId d :=
        mem_missingEntries.mpr ⟨rfl, by simpa using hge, hi⟩
      cases hall _ (List.mem_append_right _ hmem) rfl
  recovered := by
    show img.uiRecoveredPacketCount = (img.staLostPacketIDs ++ _).countP _
    rw [List.countP_append, countP_missingEntries, h.recovered]
    rfl
  triggered := by
    show (true = true) ↔ 0 < (img.staLostPacketIDs ++ missingEntries img.uiNextId d).length
    rw [List.length_append, length_missingEntries]
    simp only [true_iff]
    omega
  first := by
    intro p hp
    show (if img.bLostPacketStateTriggered then _ else _) = _
    by_cases ht : img.bLostPacketStateTriggered
    · rw [if_pos ht]
      apply h.first
      -- the head is that of the old list, which is not empty
      have hne : 0 < img.staLostPacketIDs.length := h.triggered.mp ht
      have hp' : (img.staLostPacketIDs ++ missingEntries img.uiNextId d).head? = some p := hp
      rw [List.head?_append_of_ne_nil _ (List.length_pos_iff.mp hne)] at hp'
      exact hp'
    · rw [if_neg ht]
      have hnil := h.lost_eq_nil (by simpa using ht)
      have hp' : (img.staLostPacketIDs ++ missingEntries img.uiNextId d).head? = some p := hp
      rw [hnil, List.nil_append] at hp'
      obtain ⟨d', rfl⟩ : ∃ d', d = d' + 1 := ⟨d - 1, by omega⟩
      simp only [missingEntries, List.range_succ_eq_map, List.map_cons, List.head?_cons,
        Option.some.injEq] at hp'
      rw [← hp']
      rfl

/-- Accepting the packet `uiNextId`. -/
theorem accept_next (h : Tracks img ids) (hl : img'.staLostPacketIDs = img.staLostPacketIDs)
    (hn : img'.uiNextId = img.uiNextId + 1)
    (hr : img'.uiRecoveredPacketCount = img.uiRecoveredPacketCount)
    (ht : img'.bLostPacketStateTriggered = img.bLostPacketStateTriggered)
    (hf : img'.uiFirstLostPacketId = img.uiFirstLostPacketId) :
    Tracks img' (img.uiNextId :: ids) where
  lost_count := by
    show img'.staLostPacketIDs.length ≤ _
    rw [hl]
    exact h.lost_count
  lost_sorted := by rw [hl]; exact h.lost_sorted
  lost_below := by
    intro p hp
    rw [hl] at hp
    have := h.lost_below p hp
    omega
  nodup := by
    refine List.nodup_cons.mpr ⟨?_, h.nodup⟩
    -- what has been received lies below `uiNextId`
    intro hmem
    have := ((h.mem_iff _).mp hmem).1
    omega
  mem_iff := by
    intro i
    rw [hl, hn, List.mem_cons, h.mem_iff i]
    constructor
    · rintro (rfl | ⟨hi, hall⟩)
      · refine ⟨Nat.lt_succ_self _, ?_⟩
        intro p hp hpi
        have := h.lost_below p hp
        omega
      · exact ⟨by omega, hall⟩
    · rintro ⟨hi, hall⟩
      by_cases heq : i = img.uiNextId
      · exact .inl heq
      · exact .inr ⟨by omega, hall⟩
  recovered := by rw [hl, hr]; exact h.recovered
  triggered := by
    show _ ↔ 0 < img'.staLostPacketIDs.length
    rw [hl, ht]
    exact h.triggered
  first := by rw [hl, hf]; exact h.first

end Tracks

/-! ## §3. Recovering a lost packet. -/

@[simp] theorem map_markHandled (id : Nat) (ps : List LostPacketCtrl) :
    (markHandled id ps).map (·.uiPacketId) = ps.map (·.uiPacketId) := by
  induction ps with
  | nil => rfl
  | cons p ps ih =>
      unfold markHandled
      by_cases hp : p.uiPacketId = id
      · rw [if_pos hp]
        rfl
      · rw [if_neg hp, List.map_cons, List.map_cons, ih]

/-- The handled entries: those that were, and the one of the id. -/
theorem pending_markHandled {id : Nat} {ps : List LostPacketCtrl}
    (hs : (ps.map (·.uiPacketId)).Pairwise (· < ·)) (i : Nat) :
    (∀ p ∈ markHandled id ps, p.uiPacketId = i → p.bIsHandled = true) ↔
      i = id ∨ ∀ p ∈ ps, p.uiPacketId = i → p.bIsHandled = true := by
  induction ps with
  | nil => simp [markHandled]
  | cons p ps ih =>
      rw [List.map_cons, List.pairwise_cons] at hs
      obtain ⟨hlt, hs'⟩ := hs
      unfold markHandled
      by_cases hp : p.uiPacketId = id
      · rw [if_pos hp]
        simp only [List.forall_mem_cons]
        -- no later entry has the id of the first one
        have hlater : i = id → ∀ q ∈ ps, q.uiPacketId ≠ i := by
          rintro rfl q hq rfl
          have := hlt _ (List.mem_map_of_mem (f := (·.uiPacketId)) hq)
          omega
        constructor
        · rintro ⟨-, hall⟩
          by_cases hi : i = id
          · exact .inl hi
          · exact .inr ⟨fun hpi => absurd (hpi.symm.trans hp) hi, hall⟩
        · rintro (rfl | ⟨-, hall⟩)
          · exact ⟨fun _ => trivial, fun q hq hqi => absurd hqi (hlater rfl q hq)⟩
          · exact ⟨fun _ => trivial, hall⟩
      · rw [if_neg hp]
        simp only [List.forall_mem_cons]
        rw [ih hs']
        constructor
        · rintro ⟨hhead, rfl | hall⟩
          · exact .inl rfl
          · exact .inr ⟨hhead, hall⟩
        · rintro (rfl | ⟨hhead, hall⟩)
          · exact ⟨fun hpi => absurd hpi hp, .inl rfl⟩
          · exact ⟨hhead, .inr hall⟩

/-- One more entry is handled. -/
theorem countP_markHandled {id : Nat} {ps : List LostPacketCtrl} {p : LostPacketCtrl}
    (hfind : ps.find? (fun q => q.uiPacketId == id) = some p) (hp : p.bIsHandled = false) :
    (markHandled id ps).countP (·.bIsHandled) = ps.countP (·.bIsHandled) + 1 := by
  induction ps with
  | nil => cases hfind
  | cons q ps ih =>
      unfold markHandled
      rw [List.find?_cons] at hfind
      by_cases hq : q.uiPacketId = id
      · rw [if_pos hq]
        rw [hq, beq_self_eq_true] at hfind
        cases hfind
        simp [hp]
      · rw [if_neg hq]
        rw [beq_eq_false_iff_ne.mpr hq] at hfind
        rw [List.countP_cons, List.countP_cons, ih hfind]
        omega

theorem head_markHandled {id : Nat} {ps : List LostPacketCtrl} {p : LostPacketCtrl}
    (h : (markHandled id ps).head? = some p) :
    ∃ q, ps.head? = some q ∧ q.uiPacketId = p.uiPacketId := by
  cases ps with
  | nil => cases h
  | cons q ps =>
      refine ⟨q, rfl, ?_⟩
      unfold markHandled at h
      by_cases hq : q.uiPacketId = id
      · rw [if_pos hq] at h
        cases h
        rfl
      · rw [if_neg hq] at h
        cases h
        rfl

/-- Accepting a pending packet. -/
theorem Tracks.recover {img img' : FWImgCtrl} {ids : List Nat} {id : Nat} {p : LostPacketCtrl}
    (h : Tracks img ids)
    (hfind : img.staLostPacketIDs.find? (fun q => q.uiPacketId == id) = some p)
    (hp : p.bIsHandled = false)
    (hl : img'.staLostPacketIDs = markHandled id img.staLostPacketIDs)
    (hn : img'.uiNextId = img.uiNextId)
    (hr : img'.uiRecoveredPacketCount = img.uiRecoveredPacketCount + 1)
    (ht : img'.bLostPacketStateTriggered = img.bLostPacketStateTriggered)
    (hf : img'.uiFirstLostPacketId = img.uiFirstLostPacketId) :
    Tracks img' (id :: ids) := by
  have hmem : p ∈ img.staLostPacketIDs := List.mem_of_find?_eq_some hfind
  have hid : p.uiPacketId = id := by simpa using List.find?_some hfind
  have hlen : img'.staLostPacketIDs.length = img.staLostPacketIDs.length := by
    have := congrArg List.length (map_markHandled id img.staLostPacketIDs)
    rw [List.length_map, List.length_map] at this
    rw [hl, this]
  exact {
    lost_count := by
      show img'.staLostPacketIDs.length ≤ _
      rw [hlen]
      exact h.lost_count
    lost_sorted := by
      rw [hl, map_markHandled]
      exact h.lost_sorted
    lost_below := by
      intro q hq
      have hq' : q.uiPacketId ∈ img'.staLostPacketIDs.map (·.uiPacketId) :=
        List.mem_map_of_mem (f := (·.uiPacketId)) hq
      rw [hl, map_markHandled] at hq'
      obtain ⟨r, hr', hrq⟩ := List.mem_map.mp hq'
      rw [hn, ← hrq]
      exact h.lost_below r hr'
    nodup := by
      refine List.nodup_cons.mpr ⟨?_, h.nodup⟩
      -- a pending packet has not been received before
      intro hin
      have := ((h.mem_iff id).mp hin).2 p hmem hid
      rw [hp] at this
      cases this
    mem_iff := by
      -- the packet recovered is the one id that is no longer pending
      intro i
      rw [hl, hn, pending_markHandled h.lost_sorted, List.mem_cons, h.mem_iff i]
      constructor
      · rintro (rfl | ⟨hi, hall⟩)
        · refine ⟨?_, .inl rfl⟩
          rw [← hid]
          exact h.lost_below p hmem
        · exact ⟨hi, .inr hall⟩
      · rintro ⟨hi, rfl | hall⟩
        · exact .inl rfl
        · exact .inr ⟨hi, hall⟩
    recovered := by rw [hl, hr, countP_markHandled hfind hp, h.recovered]
    triggered := by
      show _ ↔ 0 < img'.staLostPacketIDs.length
      rw [hlen, ht]
      exact h.triggered
    first := by
      intro q hq
      rw [hl] at hq
      obtain ⟨r, hr', hrq⟩ := head_markHandled hq
      rw [hf, ← hrq]
      exact h.first r hr' }

end WallController.Bootloader
