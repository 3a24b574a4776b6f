/-
  WallController.Bootloader.Finish
  ────────────────────────────────
  **ENDING AN UPDATE: MISSING PACKETS, THE CRC AND THE UPGRADE REQUEST.**

  `vFinalize_FWImageWrite` records the ids that are still missing, and checks
  the image once none is pending.  A session without loss is checked by its
  running CRC; after a loss the CRC is completed from the flash.  Both checks
  are about one value, `finalCRC`, and for a session that satisfies its
  invariant and is complete this value is the CRC of the image range of the
  flash (`SessionInv.finalCRC_eq`).
-/
import WallController.Bootloader.Receive

namespace WallController.Bootloader

open WallController.Lib

/-! ## §1. Reading the flash back. -/

/-- The handle is open on a partition that holds the range of `n` bytes from
`off` on. -/
def Btl.Reaches (b : Btl) (off n : Nat) : Prop :=
  ∃ fa, b.flashArea = some fa ∧ off + n ≤ fa.fa_size

/-- The outcomes of the read loop over `n` bytes from `off` on. -/
inductive ReadOutcome (env : Env) (fuel off n : Nat) (b : Btl) : Except Btl (Bool × Btl) → Prop
  | finished {b' : Btl} (h : WritesOnly b b') (hflash : b'.flash = b.flash)
      (hcrc : b'.img.uiRunningCRC
        = u16CRC16CCITTUpdate b.img.uiRunningCRC (b.flash.read off n))
      (hrange : 0 < n → b.Reaches off n) :
      ReadOutcome env fuel off n b (.ok (true, b'))
  | failed {b' : Btl} (h : WritesOnly b b')
      (why : ¬ ((∀ k, env.read k = 0) ∧ b.Reaches off n ∧ n < fuel)) :
      ReadOutcome env fuel off n b (.ok (false, b'))
  | stopped {b' : Btl} (h : Work b b') (why : b.flashArea = none) :
      ReadOutcome env fuel off n b (.error { b' with halted := some .nullFlashArea })

/-- The three ways a read ends. -/
theorem flashAreaRead_cases (env : Env) (off len pass : Nat) (b : Btl) :
    (b.flashArea = none ∧
      flashAreaRead env off len pass b = .error { b with halted := some .nullFlashArea }) ∨
    ∃ ret log, flashAreaRead env off len pass b = .ok (ret, { b with log := log }) ∧
      WritesOnly b { b with log := log } ∧
      ((ret = 0 → b.Reaches off len) ∧
        (ret ≠ 0 → ¬ (env.read pass = 0 ∧ b.Reaches off len))) := by
  rcases Option.eq_none_or_eq_some b.flashArea with hfa | ⟨fa, hfa⟩
  · refine .inl ⟨hfa, ?_⟩
    unfold flashAreaRead
    rw [hfa]
  · have hread : flashAreaRead env off len pass b =
        .ok (if fa.fa_size < off + len then EINVAL else env.read pass, { b with
          log := .flashRead off len (if fa.fa_size < off + len then EINVAL else env.read pass)
            :: b.log }) := by
      unfold flashAreaRead
      rw [hfa]
    refine .inr ⟨_, _, hread, ⟨.one rfl rfl rfl rfl rfl ?_, ⟨_, _, rfl⟩, rfl, rfl, rfl⟩, ?_, ?_⟩
    · intro h
      exact h.other rfl rfl rfl (by rw [hfa]; rfl)
    · intro hret
      by_cases hout : fa.fa_size < off + len
      · rw [if_pos hout] at hret
        cases hret
      · exact ⟨fa, hfa, by omega⟩
    · rintro hret ⟨hok, fa', hfa', hin⟩
      rw [hfa] at hfa'
      cases hfa'
      rw [if_neg (by omega), hok] at hret
      exact hret rfl

/-- **The read loop**: it adds the bytes of the range to the running CRC,
unless reads fail or the handle is the null handle. -/
theorem readBack_outcome (env : Env) (fuel pass off n iretryCount : Nat) (b : Btl) :
    ReadOutcome env fuel off n b (readBack env fuel pass off n iretryCount b) := by
  induction fuel generalizing pass off n iretryCount b with
  | zero =>
      refine .failed (.refl b) ?_
      rintro ⟨-, -, hfuel⟩
      exact Nat.not_lt_zero _ hfuel
  | succ fuel ih =>
      unfold readBack
      by_cases hn : n = 0
      · rw [if_pos hn, hn]
        exact .finished (.refl b) rfl rfl (fun h => absurd h (Nat.lt_irrefl 0))
      rw [if_neg hn]
      generalize hv : min DATA_PAYLOAD_PER_ONE_IMAGE_FRAME n = v
      have hvpos : 0 < v ∧ v ≤ n := by
        unfold DATA_PAYLOAD_PER_ONE_IMAGE_FRAME at hv
        omega
      rcases flashAreaRead_cases env off v pass b with
        ⟨hnull, hread⟩ | ⟨ret, log, hread, hw, hok, hbad⟩
      · simp only [hread]
        exact .stopped (.refl b) hnull
      simp only [hread]
      have hsub : b.Reaches off n → b.Reaches off v := by
        rintro ⟨fa, hfa, hin⟩
        exact ⟨fa, hfa, by omega⟩
      by_cases hret : ret ≠ 0
      · rw [if_pos hret]
        by_cases hretry : iretryCount + 1 ≥ 3
        · rw [if_pos hretry]
          refine .failed hw ?_
          rintro ⟨hall, hin, -⟩
          exact hbad hret ⟨hall pass, hsub hin⟩
        · rw [if_neg hretry]
          -- another try of the same read
          have hnext := ih (pass + 1) off n (iretryCount + 1) { b with log := log }
          generalize readBack env fuel (pass + 1) off n (iretryCount + 1) { b with log := log } = r
            at hnext ⊢
          cases hnext with
          | finished h hflash hcrc hrange => exact .finished (hw.trans h) hflash hcrc hrange
          | failed h why =>
              refine .failed (hw.trans h) ?_
              rintro ⟨hall, hin, -⟩
              exact hbad hret ⟨hall pass, hsub hin⟩
          | stopped h why => exact .stopped (hw.work.trans h) why
      · rw [if_neg hret]
        have hret' : ret = 0 := by simpa using hret
        obtain ⟨fa, hfa, hin⟩ := hok hret'
        generalize hb₁ : ({ b with
          img := { b.img with
            uiRunningCRC := u16CRC16CCITTUpdate b.img.uiRunningCRC (b.flash.read off v) }
          log := log } : Btl) = b₁
        have hw₁ : WritesOnly b b₁ := by
          rw [← hb₁]
          refine hw.trans ?_
          exact ⟨.of_log_eq rfl rfl rfl rfl rfl, ⟨_, _, rfl⟩, rfl, rfl, rfl⟩
        have hnext := ih (pass + 1) (off + v) (n - v) iretryCount b₁
        have hflash₁ : b₁.flash = b.flash := by rw [← hb₁]
        have hcrc₁ : b₁.img.uiRunningCRC
            = u16CRC16CCITTUpdate b.img.uiRunningCRC (b.flash.read off v) := by rw [← hb₁]
        have hfa₁ := hw₁.flashArea
        generalize readBack env fuel (pass + 1) (off + v) (n - v) iretryCount b₁ = r at hnext ⊢
        cases hnext with
        | finished h hflash hcrc hrange =>
            refine .finished (hw₁.trans h) (hflash.trans hflash₁) ?_ ?_
            · rw [hcrc, hcrc₁, hflash₁, ← u16CRC16CCITTUpdate_append, ← Mem.read_add,
                Nat.add_sub_cancel' hvpos.2]
            · intro _
              by_cases hrest : n - v = 0
              · exact ⟨fa, hfa, by omega⟩
              · obtain ⟨fa', hfa', hin'⟩ := hrange (by omega)
                exact ⟨fa', by rw [← hfa₁, hfa'], by omega⟩
        | failed h why =>
            refine .failed (hw₁.trans h) ?_
            rintro ⟨hall, ⟨fa', hfa', hin'⟩, hfuel⟩
            exact why ⟨hall, ⟨fa', by rw [hfa₁, hfa'], by omega⟩, by omega⟩
        | stopped h why => exact .stopped (hw₁.work.trans h) (by rw [← hfa₁]; exact why)

/-- The bound of the read loop is no limit: once it exceeds the bytes and the
tries that are left, a larger bound changes nothing. -/
theorem readBack_fuel (env : Env) (fuel pass off n iretryCount : Nat) (b : Btl)
    (h : n + 3 ≤ fuel + iretryCount) (hretry : iretryCount < 3) :
    readBack env (fuel + 1) pass off n iretryCount b
      = readBack env fuel pass off n iretryCount b := by
  induction fuel generalizing pass off n iretryCount b with
  | zero => omega
  | succ fuel ih =>
      rw [readBack, readBack]
      by_cases hn : n = 0
      · rw [if_pos hn, if_pos hn]
      rw [if_neg hn, if_neg hn]
      rcases flashAreaRead_cases env off (min DATA_PAYLOAD_PER_ONE_IMAGE_FRAME n) pass b with
        ⟨-, hread⟩ | ⟨ret, log, hread, -⟩
      · simp only [hread]
      · simp only [hread]
        by_cases hret : ret ≠ 0
        · rw [if_pos hret, if_pos hret]
          by_cases hlast : iretryCount + 1 ≥ 3
          · rw [if_pos hlast, if_pos hlast]
          · rw [if_neg hlast, if_neg hlast]
            exact ih _ _ _ _ _ (by omega) (by omega)
        · rw [if_neg hret, if_neg hret]
          refine ih _ _ _ _ _ ?_ hretry
          unfold DATA_PAYLOAD_PER_ONE_IMAGE_FRAME
          omega

/-! ## §2. The checks of the image. -/

/-- The CRC that is compared with the one of the update request: the running
CRC, after a loss completed from the flash. -/
def Btl.finalCRC (b : Btl) : UInt16 :=
  if b.img.bLostPacketStateTriggered then
    u16CRC16CCITTUpdate b.img.uiRunningCRC (b.flash.read b.img.uiReadOffset b.uiBytesToRead)
  else b.img.uiRunningCRC

/-- What the checks have established when the image is marked completed. -/
structure Checked (b : Btl) : Prop where
  received : b.img.uiReceivedByteCount = b.mgmt.uiFWImgSize
  crc : b.finalCRC = b.mgmt.uiCRC
  range : b.img.bLostPacketStateTriggered = true → 0 < b.uiBytesToRead →
    b.Reaches b.img.uiReadOffset b.uiBytesToRead

/-- Why the checks can give a session up. -/
inductive CheckFault (env : Env) (b : Btl) : Prop
  | incomplete (h : b.img.uiReceivedByteCount ≠ b.mgmt.uiFWImgSize)
  | unrecovered (ht : b.img.bLostPacketStateTriggered = true)
      (h : b.img.uiRecoveredPacketCount < b.img.uiLostPacketCount)
  | readFailed (ht : b.img.bLostPacketStateTriggered = true)
      (h : ¬ ((∀ k, env.read k = 0) ∧ b.Reaches b.img.uiReadOffset b.uiBytesToRead))
  | crcMismatch (h : b.finalCRC ≠ b.mgmt.uiCRC)

/-- The outcomes of the checks. -/
inductive CheckOutcome (env : Env) (j : Job) : Except Btl Job → Prop
  | pending (h : 0 < uiGetPendingLostPacketCount j.btl.img) :
      CheckOutcome env j (.ok { vSetBootloaderMsgStatus j false .missingPacketsPending with
        btl := vEnterLostPacketRecoveryLocked env j.btl })
  | gaveUp {b : Btl} (e : BootloaderError) (h : Work j.btl b)
      (hp : j.btl.img.bLostPacketStateTriggered = true →
        uiGetPendingLostPacketCount j.btl.img = 0)
      (why : CheckFault env j.btl) :
      CheckOutcome env j (.ok (rejectAndAbort { j with btl := b } e))
  | stopped {b : Btl} (h : Work j.btl b) (why : j.btl.flashArea = none)
      (hp : uiGetPendingLostPacketCount j.btl.img = 0) :
      CheckOutcome env j (.error { b with halted := some .nullFlashArea })
  | completed {b : Btl} (h : Work j.btl b) (hflash : b.flash = j.btl.flash)
      (hc : Checked j.btl) :
      CheckOutcome env j (.ok (markCompleted env { j with btl := b }))

/-- The outcomes of the CRC check after a loss. -/
inductive ValidateOutcome (env : Env) (b : Btl) : Except Btl (BootloaderError × Btl) → Prop
  | rejected {b' : Btl} {e : BootloaderError} (he : e ≠ .none) (h : Work b b')
      (why : CheckFault env b) : ValidateOutcome env b (.ok (e, b'))
  | accepted {b' : Btl} (h : Work b b') (hflash : b'.flash = b.flash)
      (hcrc : b.finalCRC = b.mgmt.uiCRC)
      (hrange : 0 < b.uiBytesToRead → b.Reaches b.img.uiReadOffset b.uiBytesToRead) :
      ValidateOutcome env b (.ok (.none, b'))
  | stopped {b' : Btl} (h : Work b b') (why : b.flashArea = none) :
      ValidateOutcome env b (.error { b' with halted := some .nullFlashArea })

theorem vValidate_outcome (env : Env) (b : Btl)
    (ht : b.img.bLostPacketStateTriggered = true) :
    ValidateOutcome env b (vValidateFWImgCRCFromFlashAtLostPacketState env b) := by
  have hfinal : b.finalCRC = u16CRC16CCITTUpdate b.img.uiRunningCRC
      (b.flash.read b.img.uiReadOffset b.uiBytesToRead) := by
    unfold Btl.finalCRC
    rw [if_pos ht]
  unfold vValidateFWImgCRCFromFlashAtLostPacketState
  simp only [ht, Bool.not_true, Bool.false_eq_true, if_false]
  by_cases hrec : b.img.uiRecoveredPacketCount < b.img.uiLostPacketCount
  · rw [if_pos hrec]
    exact .rejected (by decide) (.refl b) (.unrecovered ht hrec)
  rw [if_neg hrec]
  have hread := readBack_outcome env (b.uiBytesToRead + 3) 0 b.img.uiReadOffset b.uiBytesToRead 0 b
  generalize readBack env (b.uiBytesToRead + 3) 0 b.img.uiReadOffset b.uiBytesToRead 0 b = r
    at hread ⊢
  cases hread with
  | @finished b' h hflash hcrc hrange =>
      have hw : Work b { b' with img := { b'.img with bLostPacketStateTriggered := false } } :=
        h.work.trans (.of_log_eq rfl rfl rfl rfl rfl)
      unfold compareCRC
      simp only
      by_cases hmatch : b'.img.uiRunningCRC ≠ b'.mgmt.uiCRC
      · rw [if_pos hmatch]
        refine .rejected (by decide) hw (.crcMismatch ?_)
        rw [hfinal, ← hcrc, ← h.work.mgmt]
        exact hmatch
      · rw [if_neg hmatch]
        refine .accepted hw hflash ?_ hrange
        rw [hfinal, ← hcrc, ← h.work.mgmt]
        exact not_not.mp hmatch
  | failed h why =>
      refine .rejected (by decide) h.work (.readFailed ht ?_)
      rintro ⟨hall, hin⟩
      exact why ⟨hall, hin, by omega⟩
  | stopped h why => exact .stopped h why

theorem checkImage_outcome (env : Env) (j : Job) : CheckOutcome env j (checkImage env j) := by
  unfold checkImage
  simp only
  by_cases ht : j.btl.img.bLostPacketStateTriggered = true
  · rw [if_pos ht]
    by_cases hp : uiGetPendingLostPacketCount j.btl.img > 0
    · rw [if_pos hp]
      exact .pending hp
    have hp' : uiGetPendingLostPacketCount j.btl.img = 0 := by omega
    rw [if_neg hp]
    by_cases hrecv : j.btl.img.uiReceivedByteCount ≠ j.btl.mgmt.uiFWImgSize
    · rw [if_pos hrecv]
      exact .gaveUp _ (.refl _) (fun _ => hp') (.incomplete hrecv)
    rw [if_neg hrecv]
    have hv := vValidate_outcome env j.btl ht
    generalize vValidateFWImgCRCFromFlashAtLostPacketState env j.btl = r at hv ⊢
    cases hv with
    | rejected he h why =>
        simp only [if_pos he]
        exact .gaveUp _ h (fun _ => hp') why
    | accepted h hflash hcrc hrange =>
        simp only [ne_eq, not_true_eq_false, if_false]
        exact .completed h hflash ⟨not_not.mp hrecv, hcrc, fun _ => hrange⟩
    | stopped h why => exact .stopped h why hp'
  · rw [if_neg ht]
    have hfinal : j.btl.finalCRC = j.btl.img.uiRunningCRC := by
      unfold Btl.finalCRC
      rw [if_neg ht]
    by_cases hrecv : j.btl.img.uiReceivedByteCount ≠ j.btl.mgmt.uiFWImgSize
    · rw [if_pos hrecv]
      exact .gaveUp _ (.refl _) (fun h => absurd h ht) (.incomplete hrecv)
    rw [if_neg hrecv]
    by_cases hcrc : j.btl.img.uiRunningCRC ≠ j.btl.mgmt.uiCRC
    · rw [if_pos hcrc]
      refine .gaveUp _ (.refl _) (fun h => absurd h ht) (.crcMismatch ?_)
      rw [hfinal]
      exact hcrc
    · rw [if_neg hcrc]
      refine .completed (.refl _) rfl ⟨not_not.mp hrecv, ?_, fun h => absurd h ht⟩
      rw [hfinal]
      exact not_not.mp hcrc

/-- The ids below `n` are recorded: none is missing, or the gap is recorded. -/
inductive Records (img : FWImgCtrl) (n : Nat) : FWImgCtrl → Prop
  | none (h : n ≤ img.uiNextId) : Records img n img
  | gap (h : img.uiNextId < n)
      (hcount : img.uiLostPacketCount + (n - img.uiNextId)
        ≤ MAX_NUMBER_OF_ALLOWABLE_LOST_PACKETs) :
      Records img n (img.withMissing (n - img.uiNextId))

/-- The outcomes of `vFinalize_FWImageWrite` in a session. -/
inductive FinishOutcome (env : Env) (j : Job) : Except Btl Job → Prop
  | tooLarge (h : UINT16_MAX < uiExpectedPacketCount j.btl.mgmt.uiFWImgSize) :
      FinishOutcome env j (.ok (rejectAndAbort j .imageTooLarge))
  | tooMany (h : TooManyLost j.btl.img (uiExpectedPacketCount j.btl.mgmt.uiFWImgSize)) :
      FinishOutcome env j (.ok (rejectAndAbort j .invalidPacketId))
  | checked {img : FWImgCtrl} {r : Except Btl Job}
      (hmax : uiExpectedPacketCount j.btl.mgmt.uiFWImgSize ≤ UINT16_MAX)
      (hrec : Records j.btl.img (uiExpectedPacketCount j.btl.mgmt.uiFWImgSize) img)
      (h : CheckOutcome env { j with btl := { j.btl with img := img } } r) :
      FinishOutcome env j r

theorem vFinalizeFWImageWrite_outcome (env : Env) (j : Job)
    (hstate : j.btl.mgmt.eBtlState = .fwImgWriteInProg) :
    FinishOutcome env j (vFinalizeFWImageWrite env j) := by
  unfold vFinalizeFWImageWrite
  simp only [hstate, ne_eq, not_true_eq_false, if_false]
  by_cases hmax : uiExpectedPacketCount j.btl.mgmt.uiFWImgSize > UINT16_MAX
  · rw [if_pos hmax]
    exact .tooLarge hmax
  have hmax' := Nat.not_lt.mp hmax
  rw [if_neg hmax]
  by_cases hnext : j.btl.img.uiNextId < uiExpectedPacketCount j.btl.mgmt.uiFWImgSize
  · rw [if_pos hnext]
    rcases bCanHandleMissingPackets_cases j hnext with ⟨hcount, heq⟩ | ⟨hmany, heq⟩
    · simp only [heq, Bool.not_true, Bool.false_eq_true, if_false]
      exact .checked hmax' (.gap hnext hcount) (checkImage_outcome env _)
    · simp only [heq, Bool.not_false, if_true]
      exact .tooMany hmany
  · rw [if_neg hnext]
    exact .checked hmax' (.none (Nat.not_lt.mp hnext)) (checkImage_outcome env j)

/-! ## §3. What the checks mean. -/

/-- The invariant is about the management record, the image record and the
flash. -/
theorem SessionInv.congr {s : Session} {b b' : Btl} (h : SessionInv s b)
    (hm : b'.mgmt = b.mgmt) (hi : b'.img = b.img) (hf : b'.flash = b.flash) :
    SessionInv s b' where
  size := by rw [hm]; exact h.size
  crc := by rw [hm]; exact h.crc
  size_pos := h.size_pos
  size_fits := by rw [hm]; exact h.size_fits
  tracks := by rw [hi]; exact h.tracks
  next_le := by rw [hi]; exact h.next_le
  received := by rw [hi]; exact h.received
  running := by rw [hi]; exact h.running
  writing := by rw [hi]; exact h.writing
  payload_length := h.payload_length
  stored := by rw [hf]; exact h.stored

/-- Plain calls do not matter either. -/
theorem SessionInv.extend {s : Session} {b : Btl} {calls : List Obs} (h : SessionInv s b)
    (hp : ∀ o ∈ calls, o.plain) : SessionInv (s.extend calls) b := by
  have hpk : (s.extend calls).packets = s.packets := Session.packets_extend_plain hp
  have hids : (s.extend calls).ids = s.ids := by
    unfold Session.ids
    rw [hpk]
  have hbytes : (s.extend calls).imageBytes = s.imageBytes := by
    funext i
    unfold Session.imageBytes Session.payload
    rw [hpk]
    rfl
  exact {
    size := h.size
    crc := h.crc
    size_pos := h.size_pos
    size_fits := h.size_fits
    tracks := by rw [hids]; exact h.tracks
    next_le := h.next_le
    received := by rw [hids]; exact h.received
    running := by
      unfold Session.image
      rw [hbytes]
      exact h.running
    writing := h.writing
    payload_length := by rw [hpk]; exact h.payload_length
    stored := by
      rw [hids, hbytes]
      intro i hi k v hv
      obtain ⟨hflash, hw⟩ := h.stored i hi k v hv
      exact ⟨hflash, hw.extend⟩ }

/-- Recording the missing ids keeps the invariant. -/
theorem SessionInv.records {s : Session} {b : Btl} {img : FWImgCtrl} {n : Nat}
    (h : SessionInv s b) (hrec : Records b.img n img) (hn : n ≤ UINT16_MAX) :
    SessionInv s { b with img := img } := by
  cases hrec with
  | none _ => exact h
  | gap hlt hcount =>
      exact {
        size := h.size
        crc := h.crc
        size_pos := h.size_pos
        size_fits := h.size_fits
        tracks := h.tracks.withMissing (by omega) hcount
        next_le := by
          show b.img.uiNextId + (n - b.img.uiNextId) ≤ _
          omega
        received := h.received
        running := by
          show b.img.uiRunningCRC = u16CRC16CCITTUpdate _ (s.image (b.img.withMissing _).crcBound)
          rw [crcBound_withMissing]
          exact h.running
        writing := h.writing
        payload_length := h.payload_length
        stored := h.stored }

/-- The partition is smaller than what packet ids of 16 bits can address. -/
def SlotBound (slot : FlashArea) : Prop :=
  slot.fa_size < 65536 * DATA_PAYLOAD_PER_ONE_IMAGE_FRAME

instance (slot : FlashArea) : Decidable (SlotBound slot) := Nat.decLt _ _

/-- The compared CRC of a complete session whose first lost packet lies within
the image: it is the CRC of the image range of the flash. -/
theorem SessionInv.finalCRC_inside {s : Session} {b : Btl} (h : SessionInv s b)
    (hrecv : b.img.uiReceivedByteCount = s.size)
    (hin : b.img.bLostPacketStateTriggered = true →
      DATA_PAYLOAD_PER_ONE_IMAGE_FRAME * b.img.uiFirstLostPacketId ≤ s.size)
    (hmax : s.size < 4294967296) :
    b.finalCRC = u16CRC16CCITTUpdate 0xFFFF
      (b.flash.read FW_IMAGE_SECONDARY_SLOT_WRITE_OFFSET s.size) := by
  have hlow := h.read_image fun i hi => h.tracks.mem_of_lt_crcBound hi
  have hrun := h.running
  unfold Btl.finalCRC
  by_cases ht : b.img.bLostPacketStateTriggered = true
  · rw [if_pos ht]
    have hbound : b.img.crcBound = b.img.uiFirstLostPacketId := by
      unfold FWImgCtrl.crcBound
      rw [if_pos ht]
    rw [hbound] at hlow hrun
    have hin' := hin ht
    have hn : b.uiBytesToRead
        = s.size - DATA_PAYLOAD_PER_ONE_IMAGE_FRAME * b.img.uiFirstLostPacketId := by
      unfold Btl.uiBytesToRead
      rw [h.size]
      omega
    have hoff : b.img.uiReadOffset = FW_IMAGE_SECONDARY_SLOT_WRITE_OFFSET
        + DATA_PAYLOAD_PER_ONE_IMAGE_FRAME * b.img.uiFirstLostPacketId :=
      Nat.add_comm _ _
    -- the flash below the first lost packet, and the flash from it on
    rw [min_eq_left hin'] at hlow
    rw [hrun, ← hlow, ← u16CRC16CCITTUpdate_append, hn, hoff, ← Mem.read_add,
      Nat.add_sub_cancel' hin']
  · rw [if_neg ht]
    have hbound : b.img.crcBound = b.img.uiNextId := by
      unfold FWImgCtrl.crcBound
      rw [if_neg ht]
    rw [hbound] at hlow hrun
    -- every packet of the image is below the next id
    have hall := h.received_eq_iff.mp hrecv
    have hcover : s.size ≤ DATA_PAYLOAD_PER_ONE_IMAGE_FRAME * b.img.uiNextId := by
      by_contra hlt
      have hmem := hall b.img.uiNextId (by omega)
      have := ((h.tracks.mem_iff _).mp hmem).1
      omega
    rw [min_eq_right hcover] at hlow
    rw [hrun, hlow]

/-- **The compared CRC is that of the stored image**: for a complete session
whose checks have passed, it is the CRC of the image range of the flash. -/
theorem SessionInv.finalCRC_eq {s : Session} {b : Btl} (h : SessionInv s b) (hc : Checked b)
    (hsize : b.mgmt.uiFlashAreaSize = b.slot.fa_size) (hslot : SlotBound b.slot)
    (hfa : ∀ fa, b.flashArea = some fa → fa = b.slot) :
    b.finalCRC = u16CRC16CCITTUpdate 0xFFFF
      (b.flash.read FW_IMAGE_SECONDARY_SLOT_WRITE_OFFSET s.size) := by
  have hfits := h.size_fits
  unfold SlotBound at hslot
  refine h.finalCRC_inside (hc.received.trans h.size) ?_
    (by unfold DATA_PAYLOAD_PER_ONE_IMAGE_FRAME at hslot; omega)
  intro ht
  by_contra hout
  have hfirst : b.img.uiFirstLostPacketId < 65536 := by
    obtain ⟨p, ps, hl⟩ := List.exists_cons_of_length_pos (h.tracks.triggered.mp ht)
    have hbelow := h.tracks.lost_below p (by rw [hl]; exact List.mem_cons_self)
    have hnext := h.next_le
    rw [h.tracks.first p (by rw [hl]; rfl)]
    unfold UINT16_MAX at hnext
    omega
  have hn : b.uiBytesToRead = (s.size + 4294967296
      - DATA_PAYLOAD_PER_ONE_IMAGE_FRAME * b.img.uiFirstLostPacketId) % 4294967296 := by
    unfold Btl.uiBytesToRead
    rw [h.size]
  -- the difference has wrapped around, and the range leaves the partition
  unfold DATA_PAYLOAD_PER_ONE_IMAGE_FRAME FW_IMAGE_SECONDARY_SLOT_WRITE_OFFSET at *
  obtain ⟨fa, hopen, hreach⟩ := hc.range ht (by rw [hn]; omega)
  rw [hfa fa hopen] at hreach
  unfold FWImgCtrl.uiReadOffset DATA_PAYLOAD_PER_ONE_IMAGE_FRAME
    FW_IMAGE_SECONDARY_SLOT_WRITE_OFFSET at hreach
  omega

end WallController.Bootloader
