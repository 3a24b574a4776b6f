/-
  WallController.Bootloader.Invariant
  ────────────────────────────────
  **THE INVARIANTS OF THE BOOTLOADER, OVER ALL RUNS.**

  Three statements about every run from the initialization, for any frames,
  timer handlers and results of the flash calls:

      session_invariant    the image record describes the session
      upgrade_verified     the upgrade is requested for a verified image only
      handle_discipline    the flash handle is open exactly while it is used

  The first two are about partitions that 16-bit packet ids can address.  The
  third one fails when the end of the image is announced before its first
  packet (`handle_used_closed`), and holds in every run without such a step.
-/
import WallController.Bootloader.Marks

namespace WallController.Bootloader

open WallController.Lib

/-! ## §1. The handle and the records around it. -/

theorem EndedBy.base {P : Obs → Prop} {slot : FlashArea} {b b' : Btl} (h : EndedBy P b b')
    (hslot : b.slot = slot)
    (hsize : b.mgmt.bIsInitialized = true → b.mgmt.uiFlashAreaSize = slot.fa_size)
    (hok : HandleOk b) : Base slot b' where
  slot_eq := h.slot.trans hslot
  size := by rw [h.initialized, h.size]; exact hsize
  state := h.state.2
  handle := h.handle hok
  closed _ := h.flashArea
  first _ := h.flashArea
  initialized hst := absurd hst h.state.1
  idle hst := absurd hst h.state.1
  size_pos hst := absurd hst h.state.1
  room hst := absurd hst h.state.1

/-- A packet leaves its mark in the image record. -/
theorem AfterLoop.touched {id : Nat} {img img' : FWImgCtrl} (h : AfterLoop id img img') :
    ¬ (vHandleLostPacketRecovery id img').untouched := by
  obtain ⟨-, -, -, hlast, hnext, -⟩ := vHandleLostPacketRecovery_bytes id img'
  rintro ⟨hl, hn⟩
  rw [hlast, h.last] at hl
  rw [hnext, h.next, hl] at hn
  by_cases hge : 0 ≥ img.uiNextId
  · rw [if_pos hge] at hn
    omega
  · rw [if_neg hge] at hn
    omega

/-- The end of a packet does not touch the records around the image. -/
theorem endPacket_work (data : List UInt8) {env : Env} {id : Nat} {img : FWImgCtrl} {b b₁ : Btl}
    (hfirst : b.img.untouched → b.flashArea = none)
    (h : WritesOnly (b.beginPacket env id img) b₁) :
    (b₁.endPacket env id data).mgmt = b.mgmt ∧ (b₁.endPacket env id data).slot = b.slot ∧
      (b₁.endPacket env id data).halted = b.halted ∧
      (HandleOk b → HandleOk (b₁.endPacket env id data)) := by
  have hw : Work b b₁ := (beginPacket_work hfirst).trans h.work
  refine ⟨hw.mgmt, hw.slot, hw.halted, ?_⟩
  intro hok
  exact (hw.handle hok).other rfl rfl rfl rfl

/-- Every transition that does not stop the machine keeps `Base`. -/
theorem Base.transition {env : Env} {ends : Prop} {mark : Obs → Prop} {slot : FlashArea} {b b' : Btl}
    (hb : Base slot b) (h : Transition env ends mark b b') (hrun : b'.halted = none) : Base slot b' := by
  cases h with
  | kept h => exact hb.kept h
  | ended h => exact h.base hb.slot_eq hb.size hb.handle
  | started h =>
      exact {
        slot_eq := h.slot.trans hb.slot_eq
        size := fun _ => h.size.trans (hb.size h.was_initialized)
        state := by rw [h.state]; decide
        handle := h.handle hb.handle
        closed := fun _ => h.flashArea
        first := fun _ => h.flashArea
        initialized := fun _ => h.initialized
        idle := fun _ => by rw [h.img]; rfl
        size_pos := fun _ => h.size_pos
        room := fun _ => by
          have := h.size_pos
          have := h.size_fits
          omega }
  | @accepted id img b₁ data hstate hlen hadm hopen hin h hst =>
      obtain ⟨hm, hs, -, hok⟩ := endPacket_work data hb.first h
      have hloop := h.afterLoop
      have hbytes := vHandleLostPacketRecovery_bytes id b₁.img.written
      exact {
        slot_eq := hs.trans hb.slot_eq
        size := by rw [hm]; exact hb.size
        state := by rw [hm]; exact hb.state
        handle := hok hb.handle
        closed := fun hne => absurd (by rw [hm]; exact hstate) hne
        -- after a packet the session is no longer untouched
        first := fun hu => absurd hu hloop.touched
        initialized := by rw [hm]; exact hb.initialized
        idle := fun _ => hbytes.2.2.1
        size_pos := by rw [hm]; exact hb.size_pos
        room := by rw [hm]; exact hb.room }
  | @missing img hends hstate hmax hrec =>
      exact {
        slot_eq := hb.slot_eq
        size := hb.size
        state := hb.state
        handle := hb.handle.congr rfl rfl rfl
        closed := hb.closed
        first := by
          intro hu
          -- a gap moves `uiNextId` forward, so it is not 0
          cases hrec with
          | none hle => exact hb.first hu
          | gap hlt hcount =>
              have hnext : b.img.uiNextId + (uiExpectedPacketCount b.mgmt.uiFWImgSize
                - b.img.uiNextId) = 0 := hu.2
              omega
        initialized := hb.initialized
        idle := by
          intro hst
          cases hrec with
          | none _ => exact hb.idle hst
          | gap _ _ => exact hb.idle hst
        size_pos := hb.size_pos
        room := hb.room }
  | @completed img b₁ b' hends hstate hmax hrec hw hflash hc h =>
      refine h.base (hw.slot.trans hb.slot_eq) ?_ (hw.handle (hb.handle.congr rfl rfl rfl))
      rw [hw.mgmt]
      exact hb.size
  | nullHandle h hstate why htouched => cases hrun
  | rebooted hm hs hlog hfa h =>
      rw [h] at hrun
      cases hrun

/-- The initialization establishes `Base`. -/
theorem Base.init (slot : FlashArea) (flash : Mem) (env : Env) :
    Base slot (bInitBootloaderController slot flash env) := by
  -- with a failed open nothing is initialized, and most fields hold vacuously
  have hstart : HandleOk (Btl.start slot flash) := ⟨rfl, fun _ h => by cases h⟩
  have hopen := flashAreaOpen_work env (b := Btl.start slot flash) rfl
  unfold bInitBootloaderController
  by_cases h : env.open_ ≠ 0
  · simp only [if_pos h]
    have heq : flashAreaOpen env (Btl.start slot flash)
        = { Btl.start slot flash with log := [.flashOpen env.open_] } := by
      unfold flashAreaOpen
      rw [if_neg h]
      rfl
    have hok := hopen.handle hstart
    rw [heq] at hok ⊢
    exact {
      slot_eq := rfl
      size := fun hinit => by cases hinit
      state := by simp [Btl.start]
      handle := hok
      closed := fun _ => rfl
      first := fun _ => rfl
      initialized := fun hst => by cases hst
      idle := fun hst => by cases hst
      size_pos := fun hst => by cases hst
      room := fun hst => by cases hst }
  · simp only [if_neg h]
    have heq : flashAreaOpen env (Btl.start slot flash)
        = { Btl.start slot flash with flashArea := some slot, log := [.flashOpen env.open_] } := by
      unfold flashAreaOpen
      rw [if_pos (not_not.mp h)]
      rfl
    have hok := hopen.handle hstart
    rw [heq] at hok ⊢
    exact {
      slot_eq := rfl
      size := fun _ => rfl
      state := by simp
      handle := hok.cons rfl rfl (fun _ h => by cases h)
      closed := fun _ => rfl
      first := fun _ => rfl
      initialized := fun hst => by cases hst
      idle := fun hst => by cases hst
      size_pos := fun hst => by cases hst
      room := fun hst => by cases hst }

/-- One step. -/
theorem Base.step {slot : FlashArea} {b : Btl} (hb : Base slot b) (hrun : b.halted = none)
    (a : Event × Env) (hrun' : (step b a).halted = none) : Base slot (step b a) := by
  obtain ⟨b₀, b₁, hk₀, htr, hk₁⟩ := step_transition hb hrun a
  refine ((hb.kept hk₀).transition htr ?_).kept hk₁
  rw [← hk₁.work.halted]
  exact hrun'

/-- In every run of a machine that has not stopped. -/
theorem base_of_reachable {slot : FlashArea} {b : Btl} (h : (machine slot).Reachable b)
    (hrun : b.halted = none) : Base slot b := by
  revert hrun
  refine h.invariant (I := fun b => b.halted = none → Base slot b) ?_ ?_
  · rintro b ⟨flash, env, rfl⟩ -
    exact .init slot flash env
  · rintro b a b' hb rfl hrun'
    by_cases hrun : b.halted = none
    · exact (hb hrun).step hrun a hrun'
    · rw [step_halted hrun] at hrun'
      exact absurd hrun' hrun

/-! ## §2. The session. -/

/-- In a session the trace knows it, and the image record describes it. -/
def SessionOk (b : Btl) : Prop :=
  b.mgmt.eBtlState = .fwImgWriteInProg → ∃ s, currentSession b.log = some s ∧ SessionInv s b

theorem SessionOk.kept {b b' : Btl} (hs : SessionOk b) (h : Kept b b') : SessionOk b' := by
  intro hst
  rw [h.work.mgmt] at hst
  obtain ⟨s, hcur, hinv⟩ := hs hst
  obtain ⟨calls, hl, hp⟩ := h.work.log
  refine ⟨s.extend calls, ?_, ?_⟩
  · rw [hl]
    exact currentSession_append hcur fun o ho => Obs.plain_not_start (hp o ho)
  · exact (hinv.extend hp).congr h.work.mgmt h.img h.flash

theorem EndedBy.sessionOk {P : Obs → Prop} {b b' : Btl} (h : EndedBy P b b') : SessionOk b' :=
  fun hst => absurd hst h.state.1

theorem Started.currentSession {uiaData : List UInt8} {b b' : Btl} (h : Started uiaData b b') :
    currentSession b'.log = some { request := uiaData, calls := [] } := by
  rw [h.log]
  rfl

/-- A new session has received nothing. -/
theorem Started.sessionInv {uiaData : List UInt8} {b b' : Btl} (h : Started uiaData b b') :
    SessionInv { request := uiaData, calls := [] } b' where
  size := h.image_size
  crc := h.image_crc
  size_pos := by
    have hpos := h.size_pos
    rwa [h.image_size] at hpos
  size_fits := by
    have hfits := h.size_fits
    rwa [h.image_size] at hfits
  tracks := by
    rw [h.img]
    exact .cleared
  next_le := by
    rw [h.img]
    exact Nat.zero_le _
  received := by
    rw [h.img]
    rfl
  running := by
    rw [h.img]
    rfl
  writing := by
    rw [h.img]
    rfl
  payload_length := by
    intro q hq
    cases hq
  stored := by
    intro i hi
    cases hi

/-- Every transition that does not stop the machine keeps the session
invariant, on a partition that packet ids can address. -/
theorem SessionOk.transition {env : Env} {ends : Prop} {mark : Obs → Prop} {slot : FlashArea} {b b' : Btl}
    (hslot : SlotBound slot)
    (hb : Base slot b) (hs : SessionOk b) (h : Transition env ends mark b b') (hrun : b'.halted = none) :
    SessionOk b' := by
  cases h with
  | kept h => exact hs.kept h
  | ended h => exact h.sessionOk
  | started h => exact fun _ => ⟨_, h.currentSession, h.sessionInv⟩
  | @accepted id img b₁ data hstate hlen hadm hopen hin h hst =>
      intro _
      obtain ⟨s, hcur, hinv⟩ := hs hstate
      have hsize := hb.size (hb.initialized hstate)
      have hid : id + 1 < 65536 := by
        unfold Btl.uiAvailableFlashSize at hin
        unfold SlotBound at hslot
        unfold DATA_PAYLOAD_PER_ONE_IMAGE_FRAME FW_IMAGE_SECONDARY_SLOT_WRITE_OFFSET at *
        omega
      have hfits : img.uiReceivedByteCount + packetLen b.mgmt.uiFWImgSize id
          ≤ b.mgmt.uiFWImgSize := by
        rw [hadm.unchanged.1, hinv.size]
        exact hinv.received_add_le (hadm.not_mem hinv.tracks)
      have hstored := hst hfits
      rw [hinv.size] at hstored
      obtain ⟨calls, hp, hlog, hinv'⟩ :=
        hinv.accept hb.first hid hlen hadm hstored
      refine ⟨_, ?_, hinv'⟩
      rw [hlog, ← List.cons_append]
      refine currentSession_append hcur ?_
      intro o ho
      rcases List.mem_cons.mp ho with rfl | ho
      · exact ⟨fun _ => by simp, fun _ => by simp⟩
      · exact Obs.plain_not_start (hp o ho)
  | missing hends hstate hmax hrec =>
      intro _
      obtain ⟨s, hcur, hinv⟩ := hs hstate
      exact ⟨s, hcur, (hinv.records hrec hmax).congr rfl rfl rfl⟩
  | completed hends hstate hmax hrec hw hflash hc h => exact h.sessionOk
  | nullHandle h hstate why htouched => cases hrun
  | rebooted hm hs' hlog hfa h =>
      rw [h] at hrun
      cases hrun

/-! ## §3. The upgrade requests. -/

theorem UpgradesVerified.work {b b' : Btl} (hu : UpgradesVerified b.log) (h : Work b b') :
    UpgradesVerified b'.log := by
  obtain ⟨calls, hl, hp⟩ := h.log
  rw [hl]
  exact hu.append_plain hp

/-- Every transition keeps the requests verified; only the completion of an
image makes new ones. -/
theorem UpgradesVerified.transition {env : Env} {ends : Prop} {mark : Obs → Prop} {slot : FlashArea}
    {b b' : Btl} (hslot : SlotBound slot) (hb : Base slot b) (hs : SessionOk b) (hu : UpgradesVerified b.log)
    (h : Transition env ends mark b b') : UpgradesVerified b'.log := by
  cases h with
  | kept h => exact hu.work h.work
  | ended h =>
      -- the calls at the end of a session make no request
      obtain ⟨calls, hl, hp⟩ := h.log
      rw [hl]
      clear hl
      induction calls with
      | nil => exact hu
      | cons o calls ih =>
          exact (ih fun o' ho' => hp o' (List.mem_cons_of_mem _ ho')).cons
            (hp o List.mem_cons_self).request
  | started h =>
      rw [h.log]
      refine (((hu.cons ?_).cons ?_).cons ?_).cons ?_ <;> simp
  | @accepted id img b₁ data hstate hlen hadm hopen hin h hst =>
      have hw : Work b b₁ := (beginPacket_work hb.first).trans h.work
      exact (hu.work hw).cons (by simp)
  | missing hends hstate hmax hrec => exact hu
  | @completed img b₁ b' hends hstate hmax hrec hw hflash hc h =>
      obtain ⟨s, hcur, hinv⟩ := hs hstate
      obtain ⟨calls, hl, hp⟩ := hw.log
      -- the packets recorded as lost are counted as missing
      have hinv₁ := hinv.records hrec hmax
      have hcrc := hinv₁.finalCRC_eq hc
        ((hb.size (hb.initialized hstate)).trans (congrArg _ hb.slot_eq.symm))
        (by rw [show Btl.slot { b with img := img } = slot from hb.slot_eq]; exact hslot)
        hb.handle.slot
      -- the checksum the code compared is the one of the bytes in the flash
      have hver : Verified s b.mgmt b.flash := {
        size := hinv.size
        crc := hinv.crc
        written := fun a ha => hinv₁.complete_written (hc.received.trans hinv.size) ha
        checked := by
          rw [← hinv.crc, ← hc.crc, hcrc] }
      obtain ⟨calls', hl', hp'⟩ := h.log
      rw [hl']
      have hu₁ : UpgradesVerified b₁.log := hu.work (Work.of_img hw)
      -- the session of the log is still the one that has been verified
      have hcur₁ : currentSession b₁.log = some (s.extend calls) := by
        rw [hl]
        exact currentSession_append hcur fun o ho => Obs.plain_not_start (hp o ho)
      have hver₁ : Verified (s.extend calls) b₁.mgmt b₁.flash := by
        rw [hw.mgmt, hflash]
        exact hver.extend
      exact hu₁.append_requests hcur₁ hver₁ hp'
  | @nullHandle b' h hstate why htouched =>
      have hu' : UpgradesVerified b'.log := hu.work h
      exact hu'
  | rebooted hm hs' hlog hfa h =>
      rw [hlog]
      exact hu

/-! ## §4. Runs. -/

/-- The invariant of all runs: the requests are verified, and a running
machine satisfies the two invariants. -/
structure RunInv (slot : FlashArea) (b : Btl) : Prop where
  upgrades : UpgradesVerified b.log
  running : b.halted = none → Base slot b ∧ SessionOk b

theorem RunInv.init (slot : FlashArea) (flash : Mem) (env : Env) :
    RunInv slot (bInitBootloaderController slot flash env) := by
  have hb := Base.init slot flash env
  unfold bInitBootloaderController at *
  by_cases h : env.open_ ≠ 0
  · simp only [if_pos h] at hb ⊢
    have heq : flashAreaOpen env (Btl.start slot flash)
        = { Btl.start slot flash with log := [.flashOpen env.open_] } := by
      unfold flashAreaOpen
      rw [if_neg h]
      rfl
    rw [heq] at hb ⊢
    exact ⟨UpgradesVerified.nil.cons (by simp), fun _ => ⟨hb, fun hst => by cases hst⟩⟩
  · simp only [if_neg h] at hb ⊢
    refine ⟨?_, fun _ => ⟨hb, fun hst => by cases hst⟩⟩
    unfold flashAreaClose flashAreaOpen
    rw [if_pos (not_not.mp h)]
    exact (UpgradesVerified.nil.cons (by simp)).cons (by simp)

/-- One step. -/
theorem RunInv.step {slot : FlashArea} (hslot : SlotBound slot) {b : Btl} (h : RunInv slot b)
    (a : Event × Env) : RunInv slot (step b a) := by
  by_cases hrun : b.halted = none
  · obtain ⟨hb, hs⟩ := h.running hrun
    obtain ⟨b₀, b₁, hk₀, htr, hk₁⟩ := step_transition hb hrun a
    have hb₀ := hb.kept hk₀
    have hs₀ := hs.kept hk₀
    refine ⟨?_, ?_⟩
    · exact ((h.upgrades.work hk₀.work).transition hslot hb₀ hs₀ htr).work hk₁.work
    · intro hrun'
      have hrun₁ : b₁.halted = none := by
        rw [← hk₁.work.halted]
        exact hrun'
      exact ⟨(hb₀.transition htr hrun₁).kept hk₁, (hs₀.transition hslot hb₀ htr hrun₁).kept hk₁⟩
  · rw [step_halted hrun]
    exact h

theorem runInv_of_reachable {slot : FlashArea} (hslot : SlotBound slot) {b : Btl}
    (h : (machine slot).Reachable b) : RunInv slot b := by
  refine h.invariant ?_ ?_
  · rintro b ⟨flash, env, rfl⟩
    exact .init slot flash env
  · rintro b a b' hb rfl
    exact hb.step hslot a

/-- The marks of every run come from its frames. -/
theorem marksCarried_of_reachable {slot : FlashArea} {b : Btl} (h : (machine slot).Reachable b) :
    MarksCarried slot b :=
  marksCarried_of_base (fun _ hr => base_of_reachable hr) h

/-- **The session invariant**: in every run, whenever the image is being
written and no call is under way, the image record describes the session, whose
request and packets are those of frames of the run. -/
theorem session_invariant {slot : FlashArea} (hslot : SlotBound slot) {b : Btl}
    (h : (machine slot).Reachable b) (hrun : b.halted = none)
    (hst : b.mgmt.eBtlState = .fwImgWriteInProg) :
    MarksCarried slot b ∧ ∃ s, currentSession b.log = some s ∧ SessionInv s b :=
  ⟨marksCarried_of_reachable h, ((runInv_of_reachable hslot h).running hrun).2 hst⟩

/-- A session that has missed its first packet. -/
theorem session_invariant_lost :
    MarksCarried ⟨0x4000⟩ (runFrames ⟨0x4000⟩ [requestFrame, packetFrame 1]) ∧
      ∃ s, currentSession (runFrames ⟨0x4000⟩ [requestFrame, packetFrame 1]).log = some s ∧
        SessionInv s (runFrames ⟨0x4000⟩ [requestFrame, packetFrame 1]) :=
  session_invariant (by decide) (reachable_runFrames _ _) (by decide +kernel) (by decide +kernel)

/-- **The upgrade is requested for a verified image only**: in every run, each
call of `boot_request_upgrade` is made for a session whose whole image range
has been written by accepted packets of the session and whose stored bytes
have the CRC declared by the payload of the frame that began the session. -/
theorem upgrade_verified {slot : FlashArea} (hslot : SlotBound slot) {b : Btl}
    (h : (machine slot).Reachable b) : UpgradesVerified b.log ∧ MarksCarried slot b :=
  ⟨(runInv_of_reachable hslot h).upgrades, marksCarried_of_reachable h⟩

/-- The update of one packet goes all the way to the reboot. -/
theorem upgrade_verified_reboot :
    updateOfOnePacket.mgmt.eBtlState = .reboot ∧
      UpgradesVerified updateOfOnePacket.log ∧ MarksCarried ⟨0x4000⟩ updateOfOnePacket := by
  have hreach : (machine ⟨0x4000⟩).Reachable updateOfOnePacket := reachable_runFrames _ _
  exact ⟨by decide +kernel, upgrade_verified (by decide) hreach⟩

/-! ## §5. The discipline of the handle. -/

/-- In a session the handle is open once a packet has been received or missed. -/
def Opened (b : Btl) : Prop :=
  b.mgmt.eBtlState = .fwImgWriteInProg → ¬ b.img.untouched → b.flashArea.isSome = true

/-- The end of the image is announced before its first packet, and the lost
list has room for all packets. -/
def EndsBeforeFirstPacket (b : Btl) (e : Event) : Prop :=
  ReceivesEnd b e ∧ b.mgmt.eBtlState = .fwImgWriteInProg ∧ b.img.untouched ∧
    uiExpectedPacketCount b.mgmt.uiFWImgSize ≤ MAX_NUMBER_OF_ALLOWABLE_LOST_PACKETs

instance (b : Btl) (e : Event) : Decidable (EndsBeforeFirstPacket b e) :=
  inferInstanceAs (Decidable (_ ∧ _ ∧ _ ∧ _))

/-- The handle is used open, opened and closed in turn, and closed in the idle
and the error state. -/
structure HandleDiscipline (b : Btl) : Prop where
  /-- The trace obeys the discipline, and ends with the handle as it is. -/
  handle : HandleOk b
  /-- No write and no read has used the null handle. -/
  notNull : b.halted ≠ some .nullFlashArea
  closed : b.mgmt.eBtlState = .idle ∨ b.mgmt.eBtlState = .error → b.flashArea = none

theorem Base.discipline {slot : FlashArea} {b : Btl} (hb : Base slot b)
    (hrun : b.halted ≠ some .nullFlashArea) : HandleDiscipline b where
  handle := hb.handle
  notNull := hrun
  closed := by
    intro hst
    apply hb.closed
    rcases hst with hst | hst <;> rw [hst] <;> decide

theorem Opened.kept {b b' : Btl} (ho : Opened b) (h : Kept b b') : Opened b' := by
  unfold Opened
  rw [h.work.mgmt, h.img, h.flashArea]
  exact ho

theorem EndedBy.opened {P : Obs → Prop} {b b' : Btl} (h : EndedBy P b b') : Opened b' :=
  fun hst => absurd hst h.state.1

/-- Every transition keeps the handle open for the session, unless it ends an
image none of whose packets has been received. -/
theorem Opened.transition {env : Env} {ends : Prop} {mark : Obs → Prop} {slot : FlashArea} {b b' : Btl}
    (hb : Base slot b) (ho : Opened b) (hrun : b.halted = none)
    (hok : ends → ¬ (b.mgmt.eBtlState = .fwImgWriteInProg ∧ b.img.untouched ∧
      uiExpectedPacketCount b.mgmt.uiFWImgSize ≤ MAX_NUMBER_OF_ALLOWABLE_LOST_PACKETs))
    (h : Transition env ends mark b b') :
    HandleDiscipline b' ∧ (b'.halted = none → Base slot b' ∧ Opened b') := by
  -- a transition that does not stop the machine
  have hgo : b'.halted = b.halted → Opened b' →
      HandleDiscipline b' ∧ (b'.halted = none → Base slot b' ∧ Opened b') := by
    intro hh ho'
    rw [hrun] at hh
    have hb' := hb.transition h hh
    refine ⟨hb'.discipline ?_, fun _ => ⟨hb', ho'⟩⟩
    rw [hh]
    exact fun hx => by cases hx
  cases h with
  | kept h => exact hgo h.work.halted (ho.kept h)
  | ended h => exact hgo h.halted h.opened
  | started h =>
      refine hgo h.halted ?_
      intro _ hu
      exact absurd (by rw [h.img]; exact ⟨rfl, rfl⟩) hu
  | @accepted id img b₁ data hstate hlen hadm hopen hin h hst =>
      refine hgo (endPacket_work data hb.first h).2.2.1 ?_
      intro _ _
      show b₁.flashArea.isSome = true
      rw [h.flashArea]
      unfold Btl.beginPacket flashAreaOpen
      by_cases hu : b.img.untouched
      · rw [if_pos hu, if_pos (hopen hu)]
        rfl
      · rw [if_neg hu]
        exact ho hstate hu
  | @missing img hends hstate hmax hrec =>
      refine hgo rfl ?_
      intro _ _
      -- by the condition the session has received or missed a packet before
      have hu : ¬ b.img.untouched := by
        intro hu
        refine hok hends ⟨hstate, hu, ?_⟩
        have hzero := hu.2
        cases hrec with
        | none hle => omega
        | gap hlt hcount => omega
      exact ho hstate hu
  | completed hends hstate hmax hrec hw hflash hc h =>
      exact hgo (h.halted.trans hw.halted) h.opened
  | nullHandle h hstate why htouched =>
      have := ho hstate htouched
      rw [why] at this
      cases this
  | rebooted hm hs hlog hfa h =>
      refine ⟨⟨?_, ?_, ?_⟩, fun hrun' => ?_⟩
      · exact hb.handle.congr hlog hfa hs
      · rw [h]
        exact fun hx => by cases hx
      · rw [hm, hfa]
        exact (hb.discipline (by rw [hrun]; exact fun hx => by cases hx)).closed
      · rw [h] at hrun'
        cases hrun'

theorem HandleDiscipline.kept {b b' : Btl} (hd : HandleDiscipline b) (h : Kept b b') :
    HandleDiscipline b' where
  handle := h.work.handle hd.handle
  notNull := by
    rw [h.work.halted]
    exact hd.notNull
  closed := by
    rw [h.work.mgmt, h.flashArea]
    exact hd.closed

/-- One step, unless it announces the end of an image before its first
packet. -/
theorem HandleDiscipline.step {slot : FlashArea} {b : Btl} {a : Event × Env}
    (hd : HandleDiscipline b) (hi : b.halted = none → Base slot b ∧ Opened b)
    (hok : ¬ EndsBeforeFirstPacket b a.1) :
    HandleDiscipline (step b a) ∧
      ((step b a).halted = none → Base slot (step b a) ∧ Opened (step b a)) := by
  by_cases hrun : b.halted = none
  · obtain ⟨hb, ho⟩ := hi hrun
    obtain ⟨b₀, b₁, hk₀, htr, hk₁⟩ := step_transition hb hrun a
    have hrun₀ : b₀.halted = none := by rw [hk₀.work.halted, hrun]
    obtain ⟨hd₁, hi₁⟩ := (ho.kept hk₀).transition (hb.kept hk₀) hrun₀
      (by
        intro hends
        rw [hk₀.work.mgmt, hk₀.img]
        exact fun hbad => hok ⟨hends, hbad⟩) htr
    refine ⟨hd₁.kept hk₁, ?_⟩
    intro hrun'
    obtain ⟨hb₁, ho₁⟩ := hi₁ (by rw [← hk₁.work.halted]; exact hrun')
    exact ⟨hb₁.kept hk₁, ho₁.kept hk₁⟩
  · rw [step_halted hrun]
    exact ⟨hd, hi⟩

/-- **The discipline of the handle**: it is kept in every state of every run
in which the end of an image is never announced before its first packet. -/
theorem handle_discipline {slot : FlashArea} {b : Btl}
    (h : (machine slot).ReachableVia (fun b a => ¬ EndsBeforeFirstPacket b a.1) b) :
    HandleDiscipline b := by
  have hall : HandleDiscipline b ∧ (b.halted = none → Base slot b ∧ Opened b) := by
    refine h.invariant (I := fun b => HandleDiscipline b ∧
      (b.halted = none → Base slot b ∧ Opened b)) ?_ ?_
    · rintro b ⟨flash, env, rfl⟩
      have hb := Base.init slot flash env
      have hstate : (bInitBootloaderController slot flash env).mgmt.eBtlState
          ≠ .fwImgWriteInProg ∧ (bInitBootloaderController slot flash env).halted = none := by
        unfold bInitBootloaderController flashAreaOpen
        by_cases hopen : env.open_ ≠ 0
        · simp only [if_pos hopen]
          rw [if_neg hopen]
          exact ⟨by simp [Btl.start], rfl⟩
        · simp only [if_neg hopen]
          rw [if_pos (not_not.mp hopen)]
          exact ⟨by simp, rfl⟩
      refine ⟨hb.discipline ?_, fun _ => ⟨hb, fun hst => absurd hst hstate.1⟩⟩
      rw [hstate.2]
      exact fun hx => by cases hx
    · rintro b a b' ⟨hd, hi⟩ hok rfl
      exact hd.step hi hok
  exact hall.1

/-- The discipline along the update of one packet. -/
theorem handle_discipline_reboot : HandleDiscipline updateOfOnePacket := by
  have hinit : (machine ⟨0x4000⟩).ReachableVia (fun b a => ¬ EndsBeforeFirstPacket b a.1)
      (bInitBootloaderController ⟨0x4000⟩ (fun _ => 0) Env.success) :=
    .init ⟨_, _, rfl⟩
  exact handle_discipline (hinit.foldl (fun _ _ => rfl) _ (by decide +kernel))

/-- Without the condition it fails: announce the end of the image first, then
send its only packet.  The packet is no longer the first one, so the handle is
not opened for it. -/
theorem handle_used_closed :
    ¬ ∀ (slot : FlashArea) (b : Btl), (machine slot).Reachable b → HandleDiscipline b := by
  intro h
  have hd := h ⟨0x4000⟩ _ (reachable_runFrames _ [requestFrame, endFrame, packetFrame 0])
  exact hd.notNull (by decide +kernel)

end WallController.Bootloader
