/-
  WallController.Bootloader.ReadBack
  ────────────────────────────────
  **WHAT THE CRC CHECK AFTER A LOSS READS.**

  The check reads from the first lost packet to the end of the image.  Its
  first half is about the loop alone: a pass reads a chunk or counts a failure,
  and the chunks of a finished loop tile the range (`readBack_calls`).  Its
  second half is about the range: the subtraction of the source does not wrap
  as long as the first lost packet starts inside the image.

  A packet past the end of the image is accepted without being written, and
  the next gap then opens past the end too.

  Main results:
    * `recovery_reads_image`: in the runs where no packet opens the first gap
      past the end of the image, every check reads the rest of the image.
    * `recovery_reads_past_image`: a run that opens it there.
-/
import WallController.Bootloader.Blocks
import WallController.Bootloader.Reassembly

namespace WallController.Bootloader

open WallController.Lib

/-! ## §1. The read loop. -/

/-- The addresses that a call has read. -/
def Obs.bytesRead : Obs → List Nat
  | .flashRead off len ret => if ret = 0 then List.range' off len else []
  | _ => []

/-- A read that failed. -/
def Obs.readFailed : Obs → Bool
  | .flashRead _ _ ret => decide (ret ≠ 0)
  | _ => false

/-- The calls of the loop over `n` bytes from `off` on, newest first. -/
structure ReadCalls (off n : Nat) (calls : List Obs) : Prop where
  reads : ∀ o ∈ calls, ∃ off' len ret, o = .flashRead off' len ret ∧ 0 < len ∧
    off ≤ off' ∧ off' + len ≤ off + n

/-- A finished loop has read each byte once, in order, and fewer than three
reads have failed since the first of `iretryCount` failures; a loop that gave up
has failed three times. -/
def Finished (off n iretryCount : Nat) (calls : List Obs) : Except Btl (Bool × Btl) → Prop
  | .ok (true, _) => calls.reverse.flatMap Obs.bytesRead = List.range' off n ∧
      iretryCount + calls.countP Obs.readFailed < 3
  | .ok (false, _) => iretryCount + calls.countP Obs.readFailed = 3
  | .error _ => True

theorem ReadCalls.nil (off n : Nat) : ReadCalls off n [] :=
  ⟨fun _ h => by cases h⟩

/-- The loop over a part of the range, after a read of its first `v` bytes. -/
theorem ReadCalls.after {off n v : Nat} {ret : Int} {calls : List Obs} (hv : 0 < v) (hvn : v ≤ n)
    {skip : Nat} (hskip : skip ≤ n) (h : ReadCalls (off + skip) (n - skip) calls) :
    ReadCalls off n (calls ++ [.flashRead off v ret]) := by
  refine ⟨?_⟩
  intro o ho
  rcases List.mem_append.mp ho with ho | ho
  · obtain ⟨off', len, ret', rfl, hlen, hlow, hhigh⟩ := h.reads o ho
    exact ⟨off', len, ret', rfl, hlen, by omega, by omega⟩
  · obtain rfl := List.mem_singleton.mp ho
    exact ⟨off, v, ret, rfl, hv, Nat.le_refl _, by omega⟩

theorem countP_readFailed (calls : List Obs) (off len : Nat) (ret : Int) :
    (calls ++ [Obs.flashRead off len ret]).countP Obs.readFailed
      = calls.countP Obs.readFailed + if ret ≠ 0 then 1 else 0 := by
  rw [List.countP_append, List.countP_singleton]
  unfold Obs.readFailed
  simp only [decide_eq_true_eq]

/-- A failed read before the rest of the loop. -/
theorem Finished.retried {off n iretryCount v : Nat} {ret : Int} {calls : List Obs}
    {r : Except Btl (Bool × Btl)} (h : Finished off n (iretryCount + 1) calls r) (hret : ret ≠ 0) :
    Finished off n iretryCount (calls ++ [.flashRead off v ret]) r := by
  have hcount := countP_readFailed calls off v ret
  rw [if_pos hret] at hcount
  match r, h with
  | .error _, _ => trivial
  | .ok (false, _), h =>
      show iretryCount + _ = 3
      have h' : iretryCount + 1 + calls.countP Obs.readFailed = 3 := h
      omega
  | .ok (true, _), h =>
      obtain ⟨hcover, hfew⟩ := h
      refine ⟨?_, by omega⟩
      rw [List.reverse_append, List.flatMap_append, hcover]
      show (if ret = 0 then _ else []) ++ [] ++ _ = _
      rw [if_neg hret]
      rfl

/-- A read chunk before the rest of the loop. -/
theorem Finished.read {off n iretryCount v : Nat} {calls : List Obs}
    {r : Except Btl (Bool × Btl)} (hv : v ≤ n)
    (h : Finished (off + v) (n - v) iretryCount calls r) :
    Finished off n iretryCount (calls ++ [.flashRead off v 0]) r := by
  have hcount := countP_readFailed calls off v 0
  rw [if_neg (by simp)] at hcount
  match r, h with
  | .error _, _ => trivial
  | .ok (false, _), h =>
      show iretryCount + _ = 3
      have h' : iretryCount + calls.countP Obs.readFailed = 3 := h
      omega
  | .ok (true, _), h =>
      obtain ⟨hcover, hfew⟩ := h
      refine ⟨?_, by omega⟩
      rw [List.reverse_append, List.flatMap_append, hcover]
      show List.range' off v ++ [] ++ List.range' (off + v) (n - v) = _
      rw [List.append_nil, List.range'_append_1, Nat.add_sub_cancel' hv]

/-- **The read loop**: its calls stay in the range, and those of a finished
loop tile it. -/
theorem readBack_calls (env : Env) (fuel pass off n iretryCount : Nat) (b : Btl)
    (hfuel : n + 3 ≤ fuel + iretryCount) (hretry : iretryCount < 3) :
    ∃ calls, (readResult (readBack env fuel pass off n iretryCount b)).log = calls ++ b.log ∧
      ReadCalls off n calls ∧
      Finished off n iretryCount calls (readBack env fuel pass off n iretryCount b) := by
  -- induction on the fuel, which covers the retries of a read as well
  induction fuel generalizing pass off n iretryCount b with
  | zero => omega
  | succ fuel ih =>
      unfold readBack
      by_cases hn : n = 0
      · rw [if_pos hn]
        subst hn
        exact ⟨[], rfl, .nil .., rfl, hretry⟩
      rw [if_neg hn]
      generalize hv : min DATA_PAYLOAD_PER_ONE_IMAGE_FRAME n = v
      have hvpos : 0 < v ∧ v ≤ n := by
        unfold DATA_PAYLOAD_PER_ONE_IMAGE_FRAME at hv
        omega
      unfold flashAreaRead
      cases hfa : b.flashArea with
      | none => exact ⟨[], rfl, .nil .., trivial⟩
      | some fa =>
          simp only
          generalize (if fa.fa_size < _ then EINVAL else env.read _) = ret
          by_cases hret : ret ≠ 0
          · rw [if_pos hret]
            by_cases hlast : iretryCount + 1 ≥ 3
            · -- the third failure
              rw [if_pos hlast]
              refine ⟨[.flashRead off v ret], rfl,
                (ReadCalls.nil off n).after hvpos.1 hvpos.2 (Nat.zero_le n), ?_⟩
              show iretryCount + ([] ++ [Obs.flashRead off v ret]).countP Obs.readFailed = 3
              rw [countP_readFailed, if_pos hret, List.countP_nil]
              omega
            · -- another try of the same read
              rw [if_neg hlast]
              generalize hb₁ : Btl.mk b.mgmt b.img b.tx b.timers b.slot (some fa) b.flash
                (.flashRead off v ret :: b.log) b.halted = b₁
              obtain ⟨calls, hl, hc, hfin⟩ := ih (pass + 1) off n (iretryCount + 1) b₁
                (by omega) (by omega)
              refine ⟨calls ++ [.flashRead off v ret], ?_,
                hc.after hvpos.1 hvpos.2 (Nat.zero_le n), ?_⟩
              · rw [hl, ← hb₁, List.append_assoc]
                rfl
              · exact hfin.retried hret
          · -- the chunk is added to the running CRC
            rw [if_neg hret]
            obtain rfl : ret = 0 := not_not.mp hret
            generalize hb₁ : Btl.mk b.mgmt (FWImgCtrl.mk ..) b.tx b.timers b.slot (some fa) b.flash
              (.flashRead off v 0 :: b.log) b.halted = b₁
            obtain ⟨calls, hl, hc, hfin⟩ := ih (pass + 1) (off + v) (n - v) iretryCount b₁
              (by omega) hretry
            refine ⟨calls ++ [.flashRead off v 0], ?_, hc.after hvpos.1 hvpos.2 hvpos.2,
              hfin.read hvpos.2⟩
            rw [hl, ← hb₁, List.append_assoc]
            rfl

/-! ## §2. The range. -/

/-- The check of the CRC reads the image from the first lost packet on. -/
structure ReadsImage (env : Env) (b : Btl) : Prop where
  /-- The first lost packet starts inside the image, and the subtraction of
  the source does not wrap. -/
  inside : DATA_PAYLOAD_PER_ONE_IMAGE_FRAME * b.img.uiFirstLostPacketId ≤ b.mgmt.uiFWImgSize
  noWrap : b.uiBytesToRead
    = b.mgmt.uiFWImgSize - DATA_PAYLOAD_PER_ONE_IMAGE_FRAME * b.img.uiFirstLostPacketId
  /-- The loop ends: more passes change nothing. -/
  ends : ∀ fuel, b.uiBytesToRead + 3 ≤ fuel →
    readBack env fuel 0 b.img.uiReadOffset b.uiBytesToRead 0 b
      = readBack env (b.uiBytesToRead + 3) 0 b.img.uiReadOffset b.uiBytesToRead 0 b
  /-- It reads the image only; a check that comes to the comparison has read
  each byte of the range once, in order, with at most two failed reads; one
  that gives up has failed to read three times. -/
  reads : ∃ calls,
    (checkResult (vValidateFWImgCRCFromFlashAtLostPacketState env b)).log = calls ++ b.log ∧
    (∀ o ∈ calls, ∃ off len ret, o = .flashRead off len ret ∧
      FW_IMAGE_SECONDARY_SLOT_WRITE_OFFSET ≤ off ∧
      off + len ≤ FW_IMAGE_SECONDARY_SLOT_WRITE_OFFSET + b.mgmt.uiFWImgSize) ∧
    ∀ e b', vValidateFWImgCRCFromFlashAtLostPacketState env b = .ok (e, b') →
      (e = .none ∨ e = .crcMismatch →
        calls.reverse.flatMap Obs.bytesRead
          = List.range' b.img.uiReadOffset (b.mgmt.uiFWImgSize
            - DATA_PAYLOAD_PER_ONE_IMAGE_FRAME * b.img.uiFirstLostPacketId) ∧
        calls.countP Obs.readFailed ≤ 2) ∧
      (e = .flashAreaReadFail → calls.countP Obs.readFailed = 3)

theorem readBack_ends (env : Env) (pass off n : Nat) (b : Btl) {fuel : Nat} (h : n + 3 ≤ fuel) :
    readBack env fuel pass off n 0 b = readBack env (n + 3) pass off n 0 b := by
  obtain ⟨extra, rfl⟩ := Nat.exists_eq_add_of_le h
  induction extra with
  | zero => rfl
  | succ extra ih =>
      rw [← ih (Nat.le_add_right _ _)]
      exact readBack_fuel env (n + 3 + extra) pass off n 0 b (by omega) (by omega)

theorem compareCRC_log (r : Except Btl (Bool × Btl)) :
    (checkResult (compareCRC r)).log = (readResult r).log := by
  match r with
  | .error _ => rfl
  | .ok (false, _) => rfl
  | .ok (true, _) => rfl

/-- The error code says whether the loop has finished. -/
theorem compareCRC_eq {r : Except Btl (Bool × Btl)} {e : BootloaderError} {b' : Btl}
    (h : compareCRC r = .ok (e, b')) :
    (e = .flashAreaReadFail ∧ ∃ b₁, r = .ok (false, b₁)) ∨
      ((e = .none ∨ e = .crcMismatch) ∧ ∃ b₁, r = .ok (true, b₁)) := by
  unfold compareCRC at h
  split at h
  · cases h
  · cases h
    exact Or.inl ⟨rfl, _, rfl⟩
  · next b₁ =>
    refine Or.inr ⟨?_, b₁, rfl⟩
    obtain ⟨rfl, -⟩ := Prod.mk.inj (Except.ok.inj h)
    split
    · exact Or.inr rfl
    · exact Or.inl rfl

/-- A first lost packet inside the image is all that the check needs. -/
theorem readsImage {env : Env} {b : Btl} (hsmall : b.mgmt.uiFWImgSize < 16777216)
    (h : DATA_PAYLOAD_PER_ONE_IMAGE_FRAME * b.img.uiFirstLostPacketId ≤ b.mgmt.uiFWImgSize) :
    ReadsImage env b := by
  have hn : b.uiBytesToRead
      = b.mgmt.uiFWImgSize - DATA_PAYLOAD_PER_ONE_IMAGE_FRAME * b.img.uiFirstLostPacketId := by
    unfold Btl.uiBytesToRead
    omega
  refine ⟨h, hn, fun fuel hfuel => readBack_ends env 0 _ _ b hfuel, ?_⟩
  rw [← hn]
  unfold vValidateFWImgCRCFromFlashAtLostPacketState
  by_cases ht : (!b.img.bLostPacketStateTriggered) = true
  · rw [if_pos ht]
    refine ⟨[], rfl, by simp, ?_⟩
    intro e b' heq
    cases heq
    exact ⟨by simp, by simp⟩
  rw [if_neg ht]
  by_cases hrec : b.img.uiRecoveredPacketCount < b.img.uiLostPacketCount
  · rw [if_pos hrec]
    refine ⟨[], rfl, by simp, ?_⟩
    intro e b' heq
    cases heq
    exact ⟨by simp, by simp⟩
  rw [if_neg hrec]
  obtain ⟨calls, hl, hc, hfin⟩ := readBack_calls env (b.uiBytesToRead + 3) 0 b.img.uiReadOffset
    b.uiBytesToRead 0 b (Nat.le_refl _) (by omega)
  generalize readBack env (b.uiBytesToRead + 3) 0 b.img.uiReadOffset b.uiBytesToRead 0 b = r
    at hl hfin ⊢
  refine ⟨calls, ?_, ?_, ?_⟩
  · rw [← hl]
    exact compareCRC_log r
  · intro o ho
    obtain ⟨off, len, ret, rfl, -, hlow, hhigh⟩ := hc.reads o ho
    have hstart : b.img.uiReadOffset = DATA_PAYLOAD_PER_ONE_IMAGE_FRAME
        * b.img.uiFirstLostPacketId + FW_IMAGE_SECONDARY_SLOT_WRITE_OFFSET := rfl
    exact ⟨off, len, ret, rfl, by omega, by omega⟩
  · intro e b' heq
    rcases compareCRC_eq heq with ⟨rfl, b₁, rfl⟩ | ⟨he, b₁, rfl⟩
    · have hthree : 0 + calls.countP Obs.readFailed = 3 := hfin
      exact ⟨by simp, fun _ => by omega⟩
    · obtain ⟨hcover, hfew⟩ := hfin
      refine ⟨fun _ => ⟨hcover, by omega⟩, ?_⟩
      intro hread
      rcases he with he | he <;> rw [he] at hread <;> cases hread

/-! ## §3. The size of the image. -/

theorem requestedSize_lt (uiaData : List UInt8) : requestedSize uiaData < 16777216 := by
  have h0 := (uiaData.getD 0 0).toNat_lt
  have h1 := (uiaData.getD 1 0).toNat_lt
  have h2 := (uiaData.getD 2 0).toNat_lt
  unfold requestedSize
  omega

theorem vEraseFlashArea_mgmt (env : Env) (j : Job) :
    (vEraseFlashArea env j).btl.mgmt = j.btl.mgmt := by
  have herase := vEraseFlashArea_outcome env j
  generalize vEraseFlashArea env j = j' at herase ⊢
  cases herase <;> rfl

theorem vSetBootloaderState_size (env : Env) (eState : BootloaderState) (b : Btl) :
    (vSetBootloaderState env eState b).mgmt.uiFWImgSize = b.mgmt.uiFWImgSize := by
  unfold vSetBootloaderState
  split <;> rfl

theorem vInitBootloaderManager_size (env : Env) (j : Job) :
    (vInitBootloaderManagerForNewFWImage env j).btl.mgmt.uiFWImgSize
      = requestedSize j.msg.uiaData := by
  unfold vInitBootloaderManagerForNewFWImage
  dsimp only
  split
  · rfl
  split
  · rfl
  split
  · rfl
  split
  · exact congrArg Mgmt.uiFWImgSize (vEraseFlashArea_mgmt env _)
  · refine (vSetBootloaderState_size env _ _).trans ?_
    exact congrArg Mgmt.uiFWImgSize (vEraseFlashArea_mgmt env _)

/-- A session begins with a size of 24 bits. -/
theorem vExecuteBootloaderIdleState_size (env : Env) {j : Job}
    (hst : j.btl.mgmt.eBtlState = .idle)
    (hstate : (vExecuteBootloaderIdleState env j).btl.mgmt.eBtlState = .fwImgWriteInProg) :
    (vExecuteBootloaderIdleState env j).btl.mgmt.uiFWImgSize < 16777216 := by
  have hidle : ¬ j.btl.mgmt.eBtlState = .fwImgWriteInProg := by
    rw [hst]
    decide
  unfold vExecuteBootloaderIdleState bIsFirstEntry at hstate ⊢
  dsimp only at hstate ⊢
  by_cases hinit : (!j.btl.mgmt.bIsInitialized) = true
  · rw [if_pos hinit] at hstate
    exact absurd hstate hidle
  rw [if_neg hinit, if_neg hidle] at hstate ⊢
  by_cases hlen : j.msg.uiLen ≠ 10
  · rw [if_pos hlen] at hstate
    exact absurd hstate hidle
  rw [if_neg hlen] at hstate ⊢
  cases hcmd : j.msg.eCMD with
  | none =>
      rw [vInitBootloaderManager_size]
      exact requestedSize_lt _
  | fwUpReq =>
      rw [vInitBootloaderManager_size]
      exact requestedSize_lt _
  | _ =>
      rw [hcmd] at hstate
      exact absurd hstate hidle

theorem TxStep.not_begun {b b' : Btl} (h : TxStep b b') (hst : b.mgmt.eBtlState = .idle) :
    b'.mgmt.eBtlState ≠ .fwImgWriteInProg := by
  rcases h with h | h
  · rw [h.work.mgmt, hst]
    decide
  · exact h.state.1

/-- The step that begins a session. -/
theorem step_begun_size {b : Btl} (hrun : b.halted = none) (hst : b.mgmt.eBtlState = .idle)
    (a : Event × Env) (hstate : (step b a).mgmt.eBtlState = .fwImgWriteInProg) :
    (step b a).mgmt.uiFWImgSize < 16777216 := by
  have hidle : b.mgmt.eBtlState ≠ .fwImgWriteInProg := by
    rw [hst]
    decide
  obtain ⟨e, env⟩ := a
  have htimer : (∀ f, e ≠ .frame f) → False := by
    intro he
    rcases (step_timer_quiet hrun he env).state with hs | hs
    · exact hidle (hs.symm.trans hstate)
    · rw [hs] at hstate
      cases hstate
  cases e with
  | stateTimeOut => exact (htimer fun _ => by simp).elim
  | txTimeOut => exact (htimer fun _ => by simp).elim
  | frame f =>
      have hstep : step b (.frame f, env) = vHandleBootloaderMessages env f b := by
        unfold step
        rw [hrun]
        rfl
      rw [hstep] at hstate ⊢
      unfold vHandleBootloaderMessages at hstate ⊢
      dsimp only at hstate ⊢
      generalize vFormatBootloaderMsg b.mgmt.bIsInitialized f = m at hstate ⊢
      by_cases hok : (!m.bIsMsgOk) = true
      · rw [if_pos hok] at hstate
        exact absurd hstate hidle
      rw [if_neg hok] at hstate ⊢
      have hanswer := (vProcessBootloaderMessages_kept env { btl := b, msg := m }).work.mgmt
      rw [hanswer] at hstate ⊢
      have hupdate : vUpdateBootloader env { btl := b, msg := m }
          = .ok (vExecuteBootloaderIdleState env { btl := b, msg := m }) := by
        unfold vUpdateBootloader
        rw [show (Job.mk b m).btl.mgmt.eBtlState = .idle from hst]
      unfold dispatchMessage at hstate ⊢
      rw [hupdate] at hstate ⊢
      have hstarted := @vExecuteBootloaderIdleState_size env { btl := b, msg := m } hst
      split at hstate
      all_goals first
        | exact hstarted hstate
        | exact absurd hstate ((vHandleHostAcknowledgements_step env
            { btl := b, msg := m }).not_begun hst)
        | exact absurd hstate hidle

/-! ## §4. The first lost packet. -/

/-- A session in which no packet is lost yet would record its first gap past
the end of the image, by accepting packet `id`. -/
def GapPastImage (b : Btl) (id : Nat) : Prop :=
  b.mgmt.eBtlState = .fwImgWriteInProg ∧ b.img.bLostPacketStateTriggered = false ∧
    b.mgmt.uiFWImgSize < DATA_PAYLOAD_PER_ONE_IMAGE_FRAME * b.img.uiNextId ∧
    b.img.uiNextId < id ∧
    b.img.uiLostPacketCount + (id - b.img.uiNextId) ≤ MAX_NUMBER_OF_ALLOWABLE_LOST_PACKETs ∧
    id * DATA_PAYLOAD_PER_ONE_IMAGE_FRAME ≤ b.uiAvailableFlashSize

instance (b : Btl) (id : Nat) : Decidable (GapPastImage b id) :=
  inferInstanceAs (Decidable (_ ∧ _ ∧ _ ∧ _ ∧ _ ∧ _))

/-- The event is the packet that opens that gap. -/
def OpensGapPastImage (b : Btl) (e : Event) : Prop :=
  ∃ id, ReceivesPacket b e id ∧ GapPastImage b id

/-- The packet of a frame is the one that it names. -/
theorem opensGapPastImage_frame (b : Btl) (f : CanFrame) :
    OpensGapPastImage b (.frame f) ↔
      let m := vFormatBootloaderMsg b.mgmt.bIsInitialized f
      m.bIsMsgOk = true ∧ m.eCMD = .fwUpMsg ∧ m.uiLen = FW_IMG_PACKET_DATA_LENGTH ∧
        GapPastImage b (packetId m.uiaData) := by
  constructor
  · rintro ⟨id, ⟨hok, hcmd, hlen, rfl⟩, hgap⟩
    exact ⟨hok, hcmd, hlen, hgap⟩
  · intro ⟨hok, hcmd, hlen, hgap⟩
    exact ⟨_, ⟨hok, hcmd, hlen, rfl⟩, hgap⟩

instance (b : Btl) : (e : Event) → Decidable (OpensGapPastImage b e)
  | .frame f => decidable_of_iff' _ (opensGapPastImage_frame b f)
  | .stateTimeOut => isFalse fun h => h.choose_spec.1
  | .txTimeOut => isFalse fun h => h.choose_spec.1

/-- What the range of the check needs. -/
structure RecoveryInv (slot : FlashArea) (b : Btl) : Prop where
  base : Base slot b
  small : b.mgmt.eBtlState = .fwImgWriteInProg → b.mgmt.uiFWImgSize < 16777216
  inside : b.mgmt.eBtlState = .fwImgWriteInProg → b.img.bLostPacketStateTriggered = true →
    DATA_PAYLOAD_PER_ONE_IMAGE_FRAME * b.img.uiFirstLostPacketId ≤ b.mgmt.uiFWImgSize

/-- The gap that the end of the image leaves is inside it. -/
theorem Records.inside {img img' : FWImgCtrl} {size : Nat}
    (h : Records img (uiExpectedPacketCount size) img')
    (hin : img.bLostPacketStateTriggered = true →
      DATA_PAYLOAD_PER_ONE_IMAGE_FRAME * img.uiFirstLostPacketId ≤ size)
    (ht : img'.bLostPacketStateTriggered = true) :
    DATA_PAYLOAD_PER_ONE_IMAGE_FRAME * img'.uiFirstLostPacketId ≤ size := by
  cases h with
  | none _ => exact hin ht
  | gap hlt _ =>
      show DATA_PAYLOAD_PER_ONE_IMAGE_FRAME * (if img.bLostPacketStateTriggered
        then img.uiFirstLostPacketId else img.uiNextId) ≤ size
      split
      · next hwas => exact hin hwas
      · unfold uiExpectedPacketCount DATA_PAYLOAD_PER_ONE_IMAGE_FRAME at *
        omega

/-- An admitted packet keeps the first lost packet inside the image, unless it
opens the first gap past the end. -/
theorem Admits.inside {b : Btl} {id : Nat} {img : FWImgCtrl} (h : Admits b.img id img)
    (hstate : b.mgmt.eBtlState = .fwImgWriteInProg)
    (hroom : id * DATA_PAYLOAD_PER_ONE_IMAGE_FRAME ≤ b.uiAvailableFlashSize)
    (hok : ¬ GapPastImage b id)
    (hin : b.img.bLostPacketStateTriggered = true →
      DATA_PAYLOAD_PER_ONE_IMAGE_FRAME * b.img.uiFirstLostPacketId ≤ b.mgmt.uiFWImgSize)
    (ht : img.bLostPacketStateTriggered = true) :
    DATA_PAYLOAD_PER_ONE_IMAGE_FRAME * img.uiFirstLostPacketId ≤ b.mgmt.uiFWImgSize := by
  cases h with
  | next _ => exact hin ht
  | pending _ _ _ => exact hin ht
  | gap hlt hcount =>
      show DATA_PAYLOAD_PER_ONE_IMAGE_FRAME * (if b.img.bLostPacketStateTriggered
        then b.img.uiFirstLostPacketId else b.img.uiNextId) ≤ b.mgmt.uiFWImgSize
      split
      · next hwas => exact hin hwas
      · next hwas =>
        by_contra hpast
        exact hok ⟨hstate, by simpa using hwas, Nat.not_le.mp hpast, hlt, hcount, hroom⟩

theorem RecoveryInv.kept {slot : FlashArea} {b b' : Btl} (h : RecoveryInv slot b)
    (hk : Kept b b') : RecoveryInv slot b' where
  base := h.base.kept hk
  small := by
    rw [hk.work.mgmt]
    exact h.small
  inside := by
    rw [hk.work.mgmt, hk.img]
    exact h.inside

/-- What a transition does to the range. -/
theorem RecoveryInv.transition {env : Env} {ends : Prop} {mark : Obs → Prop} {slot : FlashArea} {b b' : Btl}
    (h : RecoveryInv slot b) (htr : Transition env ends mark b b') (hrun : b'.halted = none)
    (hbegun : b.mgmt.eBtlState = .idle → b'.mgmt.eBtlState = .fwImgWriteInProg →
      b'.mgmt.uiFWImgSize < 16777216)
    (haccepted : ∀ id data calls, b'.log = .packetAccepted id data :: (calls ++ b.log) →
      ¬ GapPastImage b id) :
    RecoveryInv slot b' := by
  refine ⟨h.base.transition htr hrun, ?_, ?_⟩
  · intro hstate
    cases htr with
    | kept h' =>
        rw [h'.work.mgmt] at hstate ⊢
        exact h.small hstate
    | ended h' => exact absurd hstate h'.state.1
    | started h' => exact hbegun h'.was_idle hstate
    | accepted hst hlen hadm hopen hin h' hsto =>
        rw [(endPacket_work _ h.base.first h').1] at hstate ⊢
        exact h.small hstate
    | missing hends hst hmax hrec => exact h.small hst
    | completed hends hst hmax hrec hw hflash hc h' => exact absurd hstate h'.state.1
    | nullHandle => cases hrun
    | rebooted hm hs hlog hfa h' =>
        rw [hm] at hstate ⊢
        exact h.small hstate
  · intro hstate ht
    -- the first gap lies inside the image, also where this transition has opened it
    cases htr with
    | kept h' => exact (h.kept h').inside hstate ht
    | ended h' => exact absurd hstate h'.state.1
    | started h' =>
        rw [h'.img] at ht
        cases ht
    | @accepted id img b₁ data hst hlen hadm hopen hin h' hsto =>
        have hloop := h'.afterLoop
        obtain ⟨htriggered, hfirst⟩ := vHandleLostPacketRecovery_first id b₁.img.written
        have ht' : img.bLostPacketStateTriggered = true := by
          rw [← hloop.triggered, ← htriggered]
          exact ht
        obtain ⟨c, hlc, -⟩ := ((beginPacket_work h.base.first).trans h'.work).log
        -- the packet accepted opens no gap past the image
        have hok : ¬ GapPastImage b id :=
          haccepted id data c (congrArg (Obs.packetAccepted id data :: ·) hlc)
        rw [(endPacket_work data h.base.first h').1]
        show DATA_PAYLOAD_PER_ONE_IMAGE_FRAME
          * (vHandleLostPacketRecovery id b₁.img.written).uiFirstLostPacketId ≤ _
        rw [hfirst, hloop.first]
        exact hadm.inside hst hin hok (h.inside hst) ht'
    | missing hends hst hmax hrec => exact hrec.inside (h.inside hst) ht
    | completed hends hst hmax hrec hw hflash hc h' => exact absurd hstate h'.state.1
    | nullHandle => cases hrun
    | rebooted hm hs hlog hfa h' =>
        rw [h'] at hrun
        cases hrun

/-- One step, unless it opens the first gap past the end of the image. -/
theorem RecoveryInv.step {slot : FlashArea} {b : Btl} {a : Event × Env}
    (h : b.halted = none → RecoveryInv slot b) (hok : ¬ OpensGapPastImage b a.1)
    (hrun' : (step b a).halted = none) : RecoveryInv slot (step b a) := by
  by_cases hrun : b.halted = none
  · have hi := h hrun
    obtain ⟨calls, hl, hc⟩ := step_calls hi.base a
    obtain ⟨b₀, b₁, hk₀, htr, hk₁⟩ := step_transition hi.base hrun a
    obtain ⟨c₀, hl₀, -⟩ := hk₀.work.log
    obtain ⟨c₁, hl₁, -⟩ := hk₁.work.log
    refine ((hi.kept hk₀).transition htr ?_ ?_ ?_).kept hk₁
    · rw [← hk₁.work.halted]
      exact hrun'
    · intro hidle hbegun
      rw [hk₀.work.mgmt] at hidle
      have hsmall := step_begun_size hrun hidle a
      rw [hk₁.work.mgmt] at hsmall
      exact hsmall hbegun
    · intro id data c hlc hgap
      -- the packet is the one that the event carries
      have hboth : calls ++ b.log = c₁ ++ .packetAccepted id data :: (c ++ c₀) ++ b.log := by
        rw [← hl, hl₁, hlc, hl₀]
        simp
      have heq := List.append_cancel_right hboth
      have hmem : .packetAccepted id data ∈ calls := by
        rw [heq]
        exact List.mem_append_right _ (List.mem_cons_self ..)
      have hreceived := hc.received _ hmem id rfl
      unfold GapPastImage Btl.uiAvailableFlashSize at hgap
      rw [hk₀.work.mgmt, hk₀.img] at hgap
      exact hok ⟨id, hreceived, hgap⟩
  · rw [step_halted hrun] at hrun'
    exact absurd hrun' hrun

theorem RecoveryInv.init (slot : FlashArea) (flash : Mem) (env : Env) :
    RecoveryInv slot (bInitBootloaderController slot flash env) := by
  have hstate : (bInitBootloaderController slot flash env).mgmt.eBtlState
      ≠ .fwImgWriteInProg := by
    unfold bInitBootloaderController flashAreaOpen
    by_cases hopen : env.open_ ≠ 0
    · simp only [if_pos hopen]
      rw [if_neg hopen]
      simp [Btl.start]
    · simp only [if_neg hopen]
      decide
  exact ⟨.init slot flash env, fun h => absurd h hstate, fun h => absurd h hstate⟩

/-- **The check after a loss reads the rest of the image.**  In every run in
which no packet opens the first gap of a session past the end of the image,
whatever the end of the image records, the check does not wrap, ends, stays
inside the image and reads every byte from the first lost packet on exactly
once, in order, with at most two failed reads. -/
theorem recovery_reads_image {slot : FlashArea} {b : Btl}
    (h : (machine slot).ReachableVia (fun b a => ¬ OpensGapPastImage b a.1) b)
    (hrun : b.halted = none) (hstate : b.mgmt.eBtlState = .fwImgWriteInProg) {img : FWImgCtrl}
    (hrec : Records b.img (uiExpectedPacketCount b.mgmt.uiFWImgSize) img)
    (ht : img.bLostPacketStateTriggered = true) (env : Env) :
    ReadsImage env { b with img := img } := by
  have hinv : b.halted = none → RecoveryInv slot b := by
    refine h.invariant (I := fun b => b.halted = none → RecoveryInv slot b) ?_ ?_
    · rintro b ⟨flash, env, rfl⟩ _
      exact .init slot flash env
    · rintro b a b' hi hok rfl
      exact RecoveryInv.step hi hok
  have hi := hinv hrun
  exact readsImage (hi.small hstate) (hrec.inside (hi.inside hstate) ht)

/-- An image of one packet that has been lost and recovered. -/
def recoveredUpdate : Btl := runFrames ⟨0x4000⟩ [requestFrame, packetFrame 1, packetFrame 0]

/-- The check of that image. -/
theorem recovery_reads_image_one :
    ReadsImage Env.success { recoveredUpdate with img := recoveredUpdate.img } := by
  have hinit : (machine ⟨0x4000⟩).ReachableVia (fun b a => ¬ OpensGapPastImage b a.1)
      (bInitBootloaderController ⟨0x4000⟩ (fun _ => 0) Env.success) :=
    .init ⟨_, _, rfl⟩
  have hreach : (machine ⟨0x4000⟩).ReachableVia (fun b a => ¬ OpensGapPastImage b a.1)
      recoveredUpdate :=
    hinit.foldl (fun _ _ => rfl) _ (by decide +kernel)
  have hnone : Records recoveredUpdate.img
      (uiExpectedPacketCount recoveredUpdate.mgmt.uiFWImgSize) recoveredUpdate.img :=
    .none (by decide +kernel)
  exact recovery_reads_image hreach (by decide +kernel) (by decide +kernel) hnone
    (by decide +kernel) Env.success

/-- Without the condition it fails: packet 1 of an image of one packet is
accepted without a write, and packet 5 then opens the first gap at packet 2.
Once the gap is filled, the end of the image is checked from there on. -/
theorem recovery_reads_past_image :
    ¬ ∀ (slot : FlashArea) (b : Btl), (machine slot).Reachable b → b.halted = none →
      b.mgmt.eBtlState = .fwImgWriteInProg → ∀ img,
        Records b.img (uiExpectedPacketCount b.mgmt.uiFWImgSize) img →
        img.bLostPacketStateTriggered = true → ∀ env, ReadsImage env { b with img := img } := by
  intro h
  have hreach := reachable_runFrames ⟨0x4000⟩ [requestFrame, packetFrame 0, packetFrame 1,
    packetFrame 5, packetFrame 2, packetFrame 3, packetFrame 4]
  have hread := h _ _ hreach (by decide +kernel) (by decide +kernel) _
    (.none (by decide +kernel)) (by decide +kernel) Env.success
  have hinside := hread.inside
  revert hinside
  decide +kernel

end WallController.Bootloader
