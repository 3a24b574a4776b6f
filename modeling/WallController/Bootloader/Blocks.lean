/-
  WallController.Bootloader.Blocks
  ────────────────────────────────
  **THE BLOCKS THAT ARE WRITTEN.**

  Only a packet writes, and only blocks of its own: 16 bytes at the offsets
  `0x2000 + 48 * id + 16 * k`, inside the partition, before the end of the
  image, padded with `0xFF`.  An id is accepted once in a session, and a packet
  that is given up ends the session; so no block is written twice before the
  next erase.

  Main results:
    * `step_calls`: the calls of one step.
    * `flash_writes_once`: every write of every run is such a block, and no
      block is written twice between two erases.
-/
import WallController.Bootloader.Responses
import WallController.Bootloader.Trace

namespace WallController.Bootloader

open WallController.Lib

/-! ## §1. Steps that write nothing. -/

/-- The packet that a call writes or accepts. -/
def Obs.packet? : Obs → Option Nat
  | .flashWrite id _ _ _ => some id
  | .packetAccepted id _ => some id
  | _ => none

/-- Nothing has been written or accepted between the two. -/
def Unwritten (b b' : Btl) : Prop :=
  b'.log.filterMap Obs.packet? = b.log.filterMap Obs.packet?

namespace Unwritten

variable {b b' b'' : Btl}

theorem of_log_eq (h : b'.log = b.log) : Unwritten b b' := by
  unfold Unwritten
  rw [h]

theorem refl (b : Btl) : Unwritten b b := rfl

theorem trans (h₁ : Unwritten b b') (h₂ : Unwritten b' b'') : Unwritten b b'' :=
  Eq.trans h₂ h₁

theorem one {o : Obs} (hl : b'.log = o :: b.log) (ho : o.packet? = none) : Unwritten b b' := by
  unfold Unwritten
  rw [hl, List.filterMap_cons_none ho]

/-- A change before the work. -/
theorem prepend (h : Unwritten b' b'') (hl : b'.log = b.log) : Unwritten b b'' :=
  (of_log_eq hl).trans h

/-- A call before the work. -/
theorem prependCall {o : Obs} (h : Unwritten b' b'') (hl : b'.log = o :: b.log)
    (ho : o.packet? = none) : Unwritten b b'' :=
  (one hl ho).trans h

/-- The calls of the work are none of those that write. -/
theorem calls (h : Unwritten b b') {calls : List Obs} (hl : b'.log = calls ++ b.log) :
    ∀ o ∈ calls, o.packet? = none := by
  unfold Unwritten at h
  rw [hl, List.filterMap_append] at h
  have hnil : calls.filterMap Obs.packet? = [] := by
    have hlen := congrArg List.length h
    rw [List.length_append] at hlen
    exact List.length_eq_zero_iff.mp (by omega)
  exact List.filterMap_eq_nil_iff.mp hnil

end Unwritten

theorem flashAreaOpen_unwritten (env : Env) (b : Btl) : Unwritten b (flashAreaOpen env b) := by
  unfold flashAreaOpen
  split
  · exact .one rfl rfl
  · exact .one rfl rfl

theorem flashAreaCloseIfOpen_unwritten (b : Btl) : Unwritten b (flashAreaCloseIfOpen b) := by
  unfold flashAreaCloseIfOpen
  split
  · exact .one rfl rfl
  · exact .refl b

theorem resetSession_unwritten (eState : BootloaderState) (bFirstEntry : Bool) (b : Btl) :
    Unwritten b (resetSession eState bFirstEntry b) := by
  have hinv : Unwritten b (vInvalidateBootloaderStateTimeOutLocked b) := .of_log_eq rfl
  exact (hinv.trans (flashAreaCloseIfOpen_unwritten _)).trans (.of_log_eq rfl)

theorem vAbortBootloaderSession_unwritten (b : Btl) : Unwritten b (vAbortBootloaderSession b) :=
  (resetSession_unwritten .error false b).trans (.of_log_eq rfl)

theorem rejectAndAbort_unwritten (j : Job) (e : BootloaderError) :
    Unwritten j.btl (rejectAndAbort j e).btl :=
  vAbortBootloaderSession_unwritten j.btl

theorem vSetBootloaderState_unwritten (env : Env) (eState : BootloaderState) (b : Btl) :
    Unwritten b (vSetBootloaderState env eState b) := by
  unfold vSetBootloaderState
  split <;> exact .of_log_eq rfl

/-! ### The lost-packet info frames. -/

theorem bScheduleLostPacketTimeouts_unwritten (env : Env) (b : Btl) :
    Unwritten b (bScheduleLostPacketTimeouts env b) := by
  unfold bScheduleLostPacketTimeouts
  split
  · exact .of_log_eq rfl
  · exact .refl b

theorem vProcessBootloaderTxError_unwritten (b : Btl) :
    Unwritten b (vProcessBootloaderTxError b) := by
  unfold vProcessBootloaderTxError
  split
  · exact (vAbortBootloaderSession_unwritten _).prepend rfl
  · exact .refl b

theorem vProcessBootloaderRetryTx_unwritten (env : Env) (b : Btl) :
    Unwritten b (vProcessBootloaderRetryTx env b) := by
  unfold vProcessBootloaderRetryTx
  split
  · exact .refl b
  split
  · exact vProcessBootloaderTxError_unwritten b
  · exact (bScheduleLostPacketTimeouts_unwritten env _).prependCall rfl rfl

theorem vGetLostPacketInfo_unwritten (env : Env) (j : Job) :
    Unwritten j.btl (vGetLostPacketInfo env j).btl := by
  unfold vGetLostPacketInfo
  split
  · exact .refl _
  split
  · exact .refl _
  · exact (bScheduleLostPacketTimeouts_unwritten env _).prependCall rfl rfl

theorem vHandleLostPacketInfoTxResponse_unwritten (env : Env) (eAck uiFrameSeq : UInt8)
    (b : Btl) : Unwritten b (vHandleLostPacketInfoTxResponse env eAck uiFrameSeq b) := by
  unfold vHandleLostPacketInfoTxResponse
  repeat' split
  · exact .refl b
  · exact .refl b
  · exact .refl b
  · exact .refl b
  · exact .of_log_eq rfl
  · exact (vProcessBootloaderRetryTx_unwritten env _).prepend rfl

theorem vHandleHostAcknowledgements_unwritten (env : Env) (j : Job) :
    Unwritten j.btl (vHandleHostAcknowledgements env j).btl := by
  unfold vHandleHostAcknowledgements
  split
  · unfold vHandleACKForLostPacketInfo
    split
    · exact .refl _
    · exact vHandleLostPacketInfoTxResponse_unwritten env _ _ _
  · exact .refl _

/-! ### The end of the image. -/

/-- The read loop, by its passes. -/
theorem readBack_unwritten (env : Env) (fuel pass off n iretryCount : Nat) (b : Btl) :
    Unwritten b (readResult (readBack env fuel pass off n iretryCount b)) := by
  induction fuel generalizing pass off n iretryCount b with
  | zero => exact .refl b
  | succ fuel ih =>
      unfold readBack
      split
      · exact .refl b
      unfold flashAreaRead
      cases hfa : b.flashArea with
      | none => exact .of_log_eq rfl
      | some fa =>
          simp only
          generalize (if fa.fa_size < _ then EINVAL else env.read _) = ret
          split
          · split
            · exact .one rfl rfl
            · exact (ih _ _ _ _ _).prependCall rfl rfl
          · exact (ih _ _ _ _ _).prependCall rfl rfl

/-- The controller that the check of the CRC leaves behind. -/
def checkResult : Except Btl (BootloaderError × Btl) → Btl
  | .ok r => r.2
  | .error b => b

theorem vValidate_unwritten (env : Env) (b : Btl) :
    Unwritten b (checkResult (vValidateFWImgCRCFromFlashAtLostPacketState env b)) := by
  unfold vValidateFWImgCRCFromFlashAtLostPacketState
  split
  · exact .refl b
  split
  · exact .refl b
  have hread := readBack_unwritten env (b.uiBytesToRead + 3) 0 b.img.uiReadOffset
    b.uiBytesToRead 0 b
  generalize readBack env (b.uiBytesToRead + 3) 0 b.img.uiReadOffset b.uiBytesToRead 0 b = r
    at hread ⊢
  match r, hread with
  | .error _, h => exact h
  | .ok (false, _), h => exact h
  | .ok (true, _), h => exact h.trans (.of_log_eq rfl)

theorem requestUpgradeLoop_unwritten (env : Env) (left uiRetryCount : Nat) (b : Btl) :
    Unwritten b (requestUpgradeLoop env left uiRetryCount b).2 := by
  induction left generalizing uiRetryCount b with
  | zero => exact .refl b
  | succ left ih =>
      unfold requestUpgradeLoop
      dsimp only
      split
      · exact .one rfl rfl
      · exact (ih _ _).prependCall rfl rfl

theorem vRequestMCUbootImageUpgrade_unwritten (env : Env) (j : Job) :
    Unwritten j.btl (vRequestMCUbootImageUpgrade env j).btl := by
  have hloop := requestUpgradeLoop_unwritten env BOOTLOADER_MAX_REQUEST_UPGRADE_TURNs 0 j.btl
  unfold vRequestMCUbootImageUpgrade
  generalize requestUpgradeLoop env BOOTLOADER_MAX_REQUEST_UPGRADE_TURNs 0 j.btl = r at hloop ⊢
  obtain ⟨bRequested, b⟩ := r
  dsimp only
  split
  · exact hloop.trans (rejectAndAbort_unwritten { j with btl := b } _)
  · exact hloop.trans ((vSetBootloaderState_unwritten env .reboot b).trans (.of_log_eq rfl))

theorem vExecuteBootloaderFWImgWriteCompleted_unwritten (env : Env) (j : Job) :
    Unwritten j.btl (vExecuteBootloaderFWImgWriteCompleted env j).btl := by
  unfold vExecuteBootloaderFWImgWriteCompleted bIsFirstEntry
  dsimp only
  have hclose : Unwritten j.btl (if j.btl.mgmt.bIsFirstEntry = true then
      flashAreaCloseIfOpen (vCancelBootloaderStateTimeOut
        { j.btl with mgmt := { j.btl.mgmt with bIsFirstEntry := false } })
      else { j.btl with mgmt := { j.btl.mgmt with bIsFirstEntry := false } }) := by
    split
    · exact (flashAreaCloseIfOpen_unwritten _).prepend rfl
    · exact .of_log_eq rfl
  split
  · exact hclose.trans (vRequestMCUbootImageUpgrade_unwritten env { j with btl := _ })
  · exact hclose

theorem markCompleted_unwritten (env : Env) (j : Job) :
    Unwritten j.btl (markCompleted env j).btl :=
  (vExecuteBootloaderFWImgWriteCompleted_unwritten env { j with btl := _ }).prepend rfl

theorem checkImage_unwritten (env : Env) (j : Job) :
    Unwritten j.btl (handlerResult (checkImage env j)) := by
  unfold checkImage
  dsimp only
  split
  · split
    · exact .of_log_eq rfl
    split
    · exact rejectAndAbort_unwritten j _
    have hcheck := vValidate_unwritten env j.btl
    generalize vValidateFWImgCRCFromFlashAtLostPacketState env j.btl = r at hcheck ⊢
    match r, hcheck with
    | .error _, h => exact h
    | .ok (e, b), h =>
        dsimp only
        split
        · exact h.trans (rejectAndAbort_unwritten { j with btl := b } _)
        · exact h.trans (markCompleted_unwritten env { j with btl := b })
  · split
    · exact rejectAndAbort_unwritten j _
    split
    · exact rejectAndAbort_unwritten j _
    · exact markCompleted_unwritten env j

theorem bCanHandleMissingPackets_unwritten (j : Job) (id : Nat) :
    Unwritten j.btl (bCanHandleMissingPackets j id).2.btl := by
  unfold bCanHandleMissingPackets
  dsimp only
  split
  · exact resetSession_unwritten .error false j.btl
  · exact .of_log_eq rfl

theorem vFinalizeFWImageWrite_unwritten (env : Env) (j : Job) :
    Unwritten j.btl (handlerResult (vFinalizeFWImageWrite env j)) := by
  unfold vFinalizeFWImageWrite
  split
  · exact .refl _
  dsimp only
  split
  · exact rejectAndAbort_unwritten j _
  split
  · have hmissing := bCanHandleMissingPackets_unwritten j
      (uiExpectedPacketCount j.btl.mgmt.uiFWImgSize)
    generalize bCanHandleMissingPackets j (uiExpectedPacketCount j.btl.mgmt.uiFWImgSize) = r
      at hmissing ⊢
    obtain ⟨bHandled, j'⟩ := r
    dsimp only
    split
    · exact hmissing.trans (.of_log_eq rfl)
    · exact hmissing.trans (checkImage_unwritten env j')
  · exact checkImage_unwritten env j

/-! ### The other states. -/

theorem vEraseFlashArea_unwritten (env : Env) (j : Job) :
    Unwritten j.btl (vEraseFlashArea env j).btl := by
  have herase := vEraseFlashArea_outcome env j
  generalize vEraseFlashArea env j = j' at herase ⊢
  cases herase with
  | openFailed => exact .one rfl rfl
  | eraseFailed => rfl
  | erased => rfl

theorem vInitBootloaderManager_unwritten (env : Env) (j : Job) :
    Unwritten j.btl (vInitBootloaderManagerForNewFWImage env j).btl := by
  unfold vInitBootloaderManagerForNewFWImage
  dsimp only
  split
  · exact .of_log_eq rfl
  split
  · exact .of_log_eq rfl
  split
  · exact .of_log_eq rfl
  generalize hj : Job.mk (Btl.mk (Mgmt.mk ..) FWImgCtrl.cleared ..) j.msg = j₁
  have hlog : j₁.btl.log = j.btl.log := by rw [← hj]
  have herase := (vEraseFlashArea_unwritten env j₁).prepend hlog
  split
  · exact herase
  · refine herase.trans ?_
    exact (vSetBootloaderState_unwritten env .fwImgWriteInProg _).prependCall rfl rfl

theorem vExecuteBootloaderIdleState_unwritten (env : Env) (j : Job) :
    Unwritten j.btl (vExecuteBootloaderIdleState env j).btl := by
  unfold vExecuteBootloaderIdleState bIsFirstEntry
  dsimp only
  split
  · exact .refl _
  split
  · exact .refl _
  split
  · exact .refl _
  split
  · exact (vInitBootloaderManager_unwritten env { j with btl := _ }).prepend rfl
  · exact (vInitBootloaderManager_unwritten env { j with btl := _ }).prepend rfl
  · exact .of_log_eq rfl

theorem vExecuteBootloaderErrorState_unwritten (j : Job) :
    Unwritten j.btl (vExecuteBootloaderErrorState j).btl := by
  unfold vExecuteBootloaderErrorState bIsFirstEntry
  dsimp only
  split
  · have hreset := resetSession_unwritten .idle true
      { j.btl with mgmt := { j.btl.mgmt with bIsFirstEntry := false } }
    exact (hreset.prepend rfl).trans (.of_log_eq rfl)
  · exact .of_log_eq rfl

/-- A command that is no packet of a session. -/
theorem vUpdateBootloader_unwritten (env : Env) (j : Job)
    (h : ¬ (j.btl.mgmt.eBtlState = .fwImgWriteInProg ∧ j.msg.eCMD = .fwUpMsg)) :
    Unwritten j.btl (handlerResult (vUpdateBootloader env j)) := by
  unfold vUpdateBootloader
  cases hst : j.btl.mgmt.eBtlState with
  | inactive => exact .refl _
  | idle => exact vExecuteBootloaderIdleState_unwritten env j
  | fwImgWriteInProg =>
      unfold vExecuteBootloaderFWImgWriteState
      dsimp only
      split
      · exact .refl _
      split
      · exact vAbortBootloaderSession_unwritten _
      · exact vFinalizeFWImageWrite_unwritten env j
      · next hcmd => exact absurd ⟨hst, hcmd⟩ h
      · exact vGetLostPacketInfo_unwritten env j
      · exact .refl _
  | fwImgWriteCompleted => exact vExecuteBootloaderFWImgWriteCompleted_unwritten env j
  | reboot => exact .of_log_eq rfl
  | error => exact vExecuteBootloaderErrorState_unwritten j
  | waitForAuthResponse => exact .refl _

theorem vBtlStateTimeOutHandler_unwritten (env : Env) (b : Btl) :
    Unwritten b (match vBtlStateTimeOutHandler env b with | .ok b' => b' | .error b' => b') := by
  unfold vBtlStateTimeOutHandler
  dsimp only
  by_cases harmed : (!b.timers.bBootloaderStateTimeoutArmed) = true
  · rw [if_pos harmed]
    exact .refl b
  rw [if_neg harmed]
  by_cases hleft : b.timers.iBootloaderStateDeadline_ms - env.uptime > 0
  · rw [if_pos hleft]
    exact .of_log_eq rfl
  rw [if_neg hleft]
  by_cases hreb : (vInvalidateBootloaderStateTimeOutLocked b).mgmt.eBtlState = .reboot
  · rw [if_pos hreb]
    exact .of_log_eq rfl
  · rw [if_neg hreb]
    exact ((resetSession_unwritten .error false _).prepend rfl).trans (.of_log_eq rfl)

theorem vBtlTxTimeOutHandler_unwritten (env : Env) (b : Btl) :
    Unwritten b (vBtlTxTimeOutHandler env b) := by
  unfold vBtlTxTimeOutHandler
  split
  · exact .of_log_eq rfl
  split
  · exact vProcessBootloaderTxError_unwritten b
  · exact (vProcessBootloaderRetryTx_unwritten env _).prepend rfl

theorem dispatchMessage_unwritten (env : Env) (j : Job)
    (h : ¬ (j.btl.mgmt.eBtlState = .fwImgWriteInProg ∧ j.msg.eCMD = .fwUpMsg)) :
    Unwritten j.btl (handlerResult (dispatchMessage env j)) := by
  have hupdate := vUpdateBootloader_unwritten env j h
  unfold dispatchMessage
  split
  all_goals first
    | exact hupdate
    | exact vHandleHostAcknowledgements_unwritten env j
    | exact .refl _

/-- The answer to a command. -/
theorem vProcessBootloaderMessages_unwritten (env : Env) (j : Job) :
    Unwritten (handlerResult (dispatchMessage env j)) (vProcessBootloaderMessages env j) := by
  unfold vProcessBootloaderMessages
  generalize dispatchMessage env j = r
  cases r with
  | error b => exact .refl _
  | ok j =>
      dsimp only [handlerResult]
      split
      · exact .one rfl rfl
      · exact .refl _

/-! ## §2. The blocks of a packet. -/

/-- The offset that a call writes at. -/
def Obs.block? : Obs → Option Nat
  | .flashWrite _ off _ _ => some off
  | _ => none

/-- A block in a partition of `area` bytes, for an image of `size` bytes. -/
structure BlockOk (area size off : Nat) (data : List UInt8) : Prop where
  length : data.length = FW_IMG_WRITE_BYTE_LENGTH
  aligned : FW_IMG_WRITE_BYTE_LENGTH ∣ off
  low : FW_IMAGE_SECONDARY_SLOT_WRITE_OFFSET ≤ off
  high : off + FW_IMG_WRITE_BYTE_LENGTH ≤ area
  start : off < FW_IMAGE_SECONDARY_SLOT_WRITE_OFFSET + size
  padding : ∀ n v, data[n]? = some v →
    FW_IMAGE_SECONDARY_SLOT_WRITE_OFFSET + size ≤ off + n → v = 0xFF

/-- The calls for packet `id`, newest first, from its `m`-th block on. -/
structure PacketCalls (area size id m : Nat) (calls : List Obs) : Prop where
  own : ∀ id' off data ret, .flashWrite id' off data ret ∈ calls →
    id' = id ∧ BlockOk area size off data ∧
      ∃ k, m ≤ k ∧ k < 3 ∧ off = packetAddr id + FW_IMG_WRITE_BYTE_LENGTH * k
  once : (calls.filterMap Obs.block?).Pairwise (· > ·)
  plain : ∀ o ∈ calls, o.plain = true

theorem PacketCalls.nil (area size id m : Nat) : PacketCalls area size id m [] where
  own _ _ _ _ h := by cases h
  once := .nil
  plain _ h := by cases h

/-- A call that writes nothing, after the others. -/
theorem PacketCalls.cons {area size id m : Nat} {calls : List Obs} {o : Obs}
    (h : PacketCalls area size id m calls) (ho : o.block? = none) (hp : o.plain = true) :
    PacketCalls area size id m (o :: calls) where
  own id' off data ret hmem := by
    rcases List.mem_cons.mp hmem with rfl | hmem
    · cases ho
    · exact h.own id' off data ret hmem
  once := by
    rw [List.filterMap_cons_none ho]
    exact h.once
  plain o' hmem := by
    rcases List.mem_cons.mp hmem with rfl | hmem
    · exact hp
    · exact h.plain o' hmem

/-- A call that writes nothing, before the others. -/
theorem PacketCalls.snoc {area size id m : Nat} {calls : List Obs} {o : Obs}
    (h : PacketCalls area size id m calls) (ho : o.block? = none) (hp : o.plain = true) :
    PacketCalls area size id m (calls ++ [o]) where
  own id' off data ret hmem := by
    rcases List.mem_append.mp hmem with hmem | hmem
    · exact h.own id' off data ret hmem
    · obtain rfl := List.mem_singleton.mp hmem
      cases ho
  once := by
    rw [List.filterMap_append, List.filterMap_cons_none ho, List.filterMap_nil, List.append_nil]
    exact h.once
  plain o' hmem := by
    rcases List.mem_append.mp hmem with hmem | hmem
    · exact h.plain o' hmem
    · obtain rfl := List.mem_singleton.mp hmem
      exact hp

/-- The write of the `m`-th block, before those behind it. -/
theorem PacketCalls.write {area size id m : Nat} {calls : List Obs} {data : List UInt8}
    {ret : Int} (h : PacketCalls area size id (m + 1) calls) (hm : m < 3)
    (hok : BlockOk area size (packetAddr id + FW_IMG_WRITE_BYTE_LENGTH * m) data) :
    PacketCalls area size id m
      (calls ++ [.flashWrite id (packetAddr id + FW_IMG_WRITE_BYTE_LENGTH * m) data ret]) where
  own id' off data' ret' hmem := by
    rcases List.mem_append.mp hmem with hmem | hmem
    · obtain ⟨hid, hblock, k, hk, hk3, hoff⟩ := h.own id' off data' ret' hmem
      exact ⟨hid, hblock, k, by omega, hk3, hoff⟩
    · cases List.mem_singleton.mp hmem
      exact ⟨rfl, hok, m, Nat.le_refl m, hm, rfl⟩
  once := by
    rw [List.filterMap_append, List.pairwise_append]
    refine ⟨h.once, ?_, ?_⟩
    · exact List.pairwise_singleton ..
    · -- the blocks behind are at higher offsets
      intro off hoff off' hoff'
      obtain ⟨o, ho, hblock⟩ := List.mem_filterMap.mp hoff
      obtain rfl : off' = packetAddr id + FW_IMG_WRITE_BYTE_LENGTH * m := by
        simpa [Obs.block?] using hoff'
      cases o with
      | flashWrite id' off'' data' ret' =>
          obtain rfl : off'' = off := by simpa [Obs.block?] using hblock
          obtain ⟨-, -, k, hk, -, rfl⟩ := h.own _ _ _ _ ho
          unfold FW_IMG_WRITE_BYTE_LENGTH
          omega
      | _ => cases hblock
  plain o hmem := by
    rcases List.mem_append.mp hmem with hmem | hmem
    · exact h.plain o hmem
    · obtain rfl := List.mem_singleton.mp hmem
      rfl

/-- Giving a session up closes the handle, if it is open. -/
theorem rejectAndAbort_log (j : Job) (e : BootloaderError) :
    ∃ calls, (rejectAndAbort j e).btl.log = calls ++ j.btl.log ∧
      ∀ o ∈ calls, o = .flashClose := by
  show ∃ calls, (flashAreaCloseIfOpen (vInvalidateBootloaderStateTimeOutLocked j.btl)).log
    = calls ++ j.btl.log ∧ _
  unfold flashAreaCloseIfOpen
  split
  · exact ⟨[.flashClose], rfl, by simp⟩
  · exact ⟨[], rfl, by simp⟩

theorem PacketCalls.closing {area size id m : Nat} {calls closing : List Obs}
    (h : PacketCalls area size id m calls) (hc : ∀ o ∈ closing, o = .flashClose) :
    PacketCalls area size id m (closing ++ calls) := by
  induction closing with
  | nil => exact h
  | cons o closing ih =>
      have ho : o = .flashClose := hc o (List.mem_cons_self ..)
      subst ho
      exact (ih fun o' ho' => hc o' (List.mem_cons_of_mem _ ho')).cons rfl rfl

/-- Giving a session up after some calls for the packet. -/
theorem rejectAndAbort_calls {area size id m : Nat} {calls : List Obs} {j : Job} {log : List Obs}
    (e : BootloaderError) (hl : j.btl.log = calls ++ log)
    (h : PacketCalls area size id m calls) :
    ∃ calls', (rejectAndAbort j e).btl.log = calls' ++ log ∧
      PacketCalls area size id m calls' := by
  obtain ⟨closing, hlog, hc⟩ := rejectAndAbort_log j e
  refine ⟨closing ++ calls, ?_, h.closing hc⟩
  rw [hlog, hl, List.append_assoc]

/-- The block of one pass of the loop. -/
theorem blockOk {area size id m : Nat} {uiaData : List UInt8} {n : Nat}
    (hlen : uiaData.length = FW_IMG_PACKET_DATA_LENGTH) (hm : m < 3)
    (hn : (if id * DATA_PAYLOAD_PER_ONE_IMAGE_FRAME + FW_IMG_WRITE_BYTE_LENGTH * m
      + FW_IMG_WRITE_BYTE_LENGTH ≤ size then FW_IMG_WRITE_BYTE_LENGTH
      else size - (id * DATA_PAYLOAD_PER_ONE_IMAGE_FRAME + FW_IMG_WRITE_BYTE_LENGTH * m)) = n)
    (hend : ¬ id * DATA_PAYLOAD_PER_ONE_IMAGE_FRAME + FW_IMG_WRITE_BYTE_LENGTH * m ≥ size)
    (hroom : ¬ id * DATA_PAYLOAD_PER_ONE_IMAGE_FRAME + FW_IMG_WRITE_BYTE_LENGTH * m
      + FW_IMG_WRITE_BYTE_LENGTH > area - FW_IMAGE_SECONDARY_SLOT_WRITE_OFFSET) :
    BlockOk area size (packetAddr id + FW_IMG_WRITE_BYTE_LENGTH * m)
      ((uiaData.drop (2 + FW_IMG_WRITE_BYTE_LENGTH * m)).take n
        ++ List.replicate (FW_IMG_WRITE_BYTE_LENGTH - n) 0xFF) := by
  have hxlen : ((uiaData.drop (2 + FW_IMG_WRITE_BYTE_LENGTH * m)).take n).length = n := by
    rw [List.length_take, List.length_drop, hlen]
    unfold FW_IMG_WRITE_BYTE_LENGTH FW_IMG_PACKET_DATA_LENGTH at *
    split at hn <;> omega
  have hn16 : n ≤ FW_IMG_WRITE_BYTE_LENGTH := by
    unfold FW_IMG_WRITE_BYTE_LENGTH at *
    split at hn <;> omega
  unfold packetAddr
  refine ⟨?_, ?_, ?_, ?_, ?_, ?_⟩
  · rw [List.length_append, List.length_replicate, hxlen]
    omega
  · unfold FW_IMG_WRITE_BYTE_LENGTH FW_IMAGE_SECONDARY_SLOT_WRITE_OFFSET
      DATA_PAYLOAD_PER_ONE_IMAGE_FRAME
    omega
  · unfold FW_IMAGE_SECONDARY_SLOT_WRITE_OFFSET
    omega
  · unfold FW_IMG_WRITE_BYTE_LENGTH FW_IMAGE_SECONDARY_SLOT_WRITE_OFFSET
      DATA_PAYLOAD_PER_ONE_IMAGE_FRAME at *
    omega
  · unfold FW_IMG_WRITE_BYTE_LENGTH FW_IMAGE_SECONDARY_SLOT_WRITE_OFFSET
      DATA_PAYLOAD_PER_ONE_IMAGE_FRAME at *
    omega
  · -- a byte past the end of the image is one of the padding
    intro i v hv hpast
    have hi : n ≤ i := by
      by_contra hlt
      unfold FW_IMG_WRITE_BYTE_LENGTH FW_IMAGE_SECONDARY_SLOT_WRITE_OFFSET
        DATA_PAYLOAD_PER_ONE_IMAGE_FRAME at *
      split at hn <;> omega
    rw [List.getElem?_append_right (by omega), List.getElem?_replicate] at hv
    split at hv
    · exact (Option.some.inj hv).symm
    · cases hv

/-- **The write loop** from its `m`-th block on: its calls. -/
theorem writeBlocks_calls (env : Env) (id : Nat) {m k : Nat} (hm : m + k = 3) (j : Job)
    (hlen : j.msg.uiaData.length = FW_IMG_PACKET_DATA_LENGTH) :
    ∃ calls, (loopResult (writeBlocks env id (blockIndexes.drop m) j)).log = calls ++ j.btl.log ∧
      PacketCalls j.btl.mgmt.uiFlashAreaSize j.btl.mgmt.uiFWImgSize id m calls := by
  -- induction on the blocks that are left
  induction k generalizing m j with
  | zero =>
      obtain rfl : m = 3 := by omega
      exact ⟨[], rfl, .nil ..⟩
  | succ k ih =>
      rw [blockIndexes_drop m (by omega)]
      unfold writeBlocks
      simp only [Nat.add_sub_cancel_left]
      generalize hn : (if id * DATA_PAYLOAD_PER_ONE_IMAGE_FRAME + FW_IMG_WRITE_BYTE_LENGTH * m
        + FW_IMG_WRITE_BYTE_LENGTH ≤ j.btl.mgmt.uiFWImgSize then FW_IMG_WRITE_BYTE_LENGTH
        else j.btl.mgmt.uiFWImgSize
          - (id * DATA_PAYLOAD_PER_ONE_IMAGE_FRAME + FW_IMG_WRITE_BYTE_LENGTH * m)) = n
      -- the ways out of the loop before the write
      split
      · exact rejectAndAbort_calls _ rfl (.nil ..)
      split
      · exact ⟨[], rfl, .nil ..⟩
      next hend =>
      split
      · exact rejectAndAbort_calls _ rfl (.nil ..)
      next hroom =>
      have hblock := blockOk hlen (show m < 3 by omega) hn hend hroom
      have hoff : FW_IMAGE_SECONDARY_SLOT_WRITE_OFFSET
          + (id * DATA_PAYLOAD_PER_ONE_IMAGE_FRAME + FW_IMG_WRITE_BYTE_LENGTH * m)
          = packetAddr id + FW_IMG_WRITE_BYTE_LENGTH * m := by
        unfold packetAddr
        rw [Nat.mul_comm id, Nat.add_assoc]
      rw [hoff]
      generalize (j.msg.uiaData.drop (2 + FW_IMG_WRITE_BYTE_LENGTH * m)).take n
        ++ List.replicate (FW_IMG_WRITE_BYTE_LENGTH - n) 0xFF = data at hblock ⊢
      -- a write of the packet's own block, whatever it returns
      have hwrite : ∀ ret, PacketCalls j.btl.mgmt.uiFlashAreaSize j.btl.mgmt.uiFWImgSize id m
          [.flashWrite id (packetAddr id + FW_IMG_WRITE_BYTE_LENGTH * m) data ret] :=
        fun ret => (PacketCalls.nil ..).write (by omega) hblock
      unfold flashAreaWrite
      cases hfa : j.btl.flashArea with
      | none => exact ⟨[], rfl, .nil ..⟩
      | some fa =>
          simp only
          generalize (if fa.fa_size < _ then EINVAL else env.write _) = ret
          split
          · exact rejectAndAbort_calls _ rfl (hwrite ret)
          · split
            · exact ⟨_, rfl, hwrite ret⟩
            · -- the rest of the loop
              generalize hj : Job.mk (Btl.mk j.btl.mgmt ..) j.msg = j₁
              have hmgmt : j₁.btl.mgmt = j.btl.mgmt := by rw [← hj]
              obtain ⟨calls, hl, hc⟩ := ih (m := m + 1) (by omega) j₁ (by rw [← hj]; exact hlen)
              rw [hmgmt] at hc
              refine ⟨_, ?_, @PacketCalls.write _ _ _ _ _ _ ret hc (by omega) hblock⟩
              rw [hl, ← hj, List.append_assoc]
              rfl

/-! ## §3. The calls of a step. -/

/-- The event is a well-formed frame with packet `id`. -/
def ReceivesPacket (b : Btl) (e : Event) (id : Nat) : Prop :=
  match e with
  | .frame f =>
      (vFormatBootloaderMsg b.mgmt.bIsInitialized f).bIsMsgOk = true ∧
      (vFormatBootloaderMsg b.mgmt.bIsInitialized f).eCMD = .fwUpMsg ∧
      (vFormatBootloaderMsg b.mgmt.bIsInitialized f).uiLen = FW_IMG_PACKET_DATA_LENGTH ∧
      packetId (vFormatBootloaderMsg b.mgmt.bIsInitialized f).uiaData = id
  | _ => False

/-- The calls of a handler that received packet `id`. -/
structure PacketHandled (b b' : Btl) (id : Nat) (calls : List Obs) : Prop where
  own : ∀ o ∈ calls, ∀ id', o.packet? = some id' → id' = id
  blocks : ∀ id' off data ret, .flashWrite id' off data ret ∈ calls →
    BlockOk b.mgmt.uiFlashAreaSize b.mgmt.uiFWImgSize off data ∧
    (∃ k < 3, off = packetAddr id + FW_IMG_WRITE_BYTE_LENGTH * k) ∧
    (∃ img, Admits b.img id img) ∧
    (b'.halted = none → b'.mgmt.eBtlState = .fwImgWriteInProg →
      ∃ data', .packetAccepted id data' ∈ calls)
  once : (calls.filterMap Obs.block?).Pairwise (· > ·)

theorem block?_of_packet? {o : Obs} (h : o.packet? = none) : o.block? = none := by
  cases o <;> first | rfl | cases h

/-- A handler that writes nothing. -/
theorem PacketHandled.unwritten {b b' : Btl} {id : Nat} {calls : List Obs}
    (h : ∀ o ∈ calls, o.packet? = none) : PacketHandled b b' id calls where
  own o ho id' hid := by
    rw [h o ho] at hid
    cases hid
  blocks id' off data ret hmem := by
    cases h _ hmem
  once := by
    rw [List.filterMap_eq_nil_iff.mpr fun o ho => block?_of_packet? (h o ho)]
    exact .nil

/-- The calls before the end of a packet, where it may have been accepted. -/
theorem PacketCalls.handled {b b' : Btl} {id : Nat} {img : FWImgCtrl} {calls ends : List Obs}
    (h : PacketCalls b.mgmt.uiFlashAreaSize b.mgmt.uiFWImgSize id 0 calls)
    (hadm : Admits b.img id img) (hends : ∀ o ∈ ends, ∃ data, o = .packetAccepted id data)
    (hacc : b'.halted = none → b'.mgmt.eBtlState = .fwImgWriteInProg → ends ≠ []) :
    PacketHandled b b' id (ends ++ calls) where
  own o ho id' hid := by
    rcases List.mem_append.mp ho with ho | ho
    · obtain ⟨data, rfl⟩ := hends o ho
      exact (Option.some.inj hid).symm
    · have hp := h.plain o ho
      cases o with
      | flashWrite id'' off data ret =>
          rw [← Option.some.inj hid]
          exact (h.own _ _ _ _ ho).1
      | packetAccepted => cases hp
      | _ => cases hid
  blocks id' off data ret ho := by
    rcases List.mem_append.mp ho with ho | ho
    · obtain ⟨data', heq⟩ := hends _ ho
      cases heq
    · obtain ⟨-, hok, k, -, hk, hoff⟩ := h.own _ _ _ _ ho
      refine ⟨hok, ⟨k, hk, hoff⟩, ⟨img, hadm⟩, ?_⟩
      intro hhalt hstate
      obtain ⟨o, hmem⟩ := List.exists_mem_of_ne_nil _ (hacc hhalt hstate)
      obtain ⟨data', rfl⟩ := hends o hmem
      exact ⟨data', List.mem_append_left _ hmem⟩
  once := by
    have hnil : ends.filterMap Obs.block? = [] := by
      rw [List.filterMap_eq_nil_iff]
      intro o ho
      obtain ⟨data, rfl⟩ := hends o ho
      rfl
    rw [List.filterMap_append, hnil]
    exact h.once

/-- Writing an admitted packet. -/
theorem writePacket_calls (env : Env) (id : Nat) (j : Job) {img : FWImgCtrl}
    (hlen : j.msg.uiLen = FW_IMG_PACKET_DATA_LENGTH) (hadm : Admits j.btl.img id img) :
    ∃ calls, (handlerResult (writePacket env id (decide j.btl.img.untouched)
        { j with btl := { j.btl with img := img } })).log = calls ++ j.btl.log ∧
      PacketHandled j.btl (handlerResult (writePacket env id (decide j.btl.img.untouched)
        { j with btl := { j.btl with img := img } })) id calls := by
  -- the first packet opens the handle
  obtain ⟨opening, hlog, hopening⟩ : ∃ opening,
      (j.btl.beginPacket env id img).log = opening ++ j.btl.log ∧
        (opening = [] ∨ opening = [.flashOpen env.open_]) := by
    unfold Btl.beginPacket flashAreaOpen
    split
    · split <;> exact ⟨[_], rfl, Or.inr rfl⟩
    · exact ⟨[], rfl, Or.inl rfl⟩
  have hopen : ∀ {area size : Nat} {calls : List Obs}, PacketCalls area size id 0 calls →
      PacketCalls area size id 0 (calls ++ opening) := by
    intro area size calls h
    rcases hopening with rfl | rfl
    · rw [List.append_nil]
      exact h
    · exact h.snoc rfl rfl
  rw [writePacket_eq]
  split
  · -- the handle could not be opened
    obtain ⟨calls, hl, hc⟩ := rejectAndAbort_calls
      (j := { j with btl := j.btl.beginPacket env id img }) .flashAreaOpenFail hlog
      (hopen (.nil j.btl.mgmt.uiFlashAreaSize j.btl.mgmt.uiFWImgSize id 0))
    refine ⟨[] ++ calls, ?_, hc.handled hadm (by simp) ?_⟩
    · rw [List.nil_append]
      exact hl
    · intro _ hstate
      cases hstate
  obtain ⟨calls, hl, hc⟩ := writeBlocks_calls env id (show 0 + 3 = 3 from rfl)
    { j with btl := j.btl.beginPacket env id img } hlen
  have hout := writeBlocks_outcome env id (show 0 + 3 = 3 from rfl)
    { j with btl := j.btl.beginPacket env id img } hlen
  rw [show blockIndexes.drop 0 = blockIndexes from rfl] at hl hout
  dsimp only at hl hc hout
  rw [beginPacket_mgmt] at hc
  rw [hlog, ← List.append_assoc] at hl
  generalize writeBlocks env id blockIndexes { j with btl := j.btl.beginPacket env id img } = r
    at hl hout ⊢
  cases hout with
  | finished h hst =>
      refine ⟨[.packetAccepted id (j.msg.uiaData.drop 2)] ++ (calls ++ opening), ?_,
        (hopen hc).handled hadm (by simp) fun _ _ => by simp⟩
      rw [List.append_assoc]
      exact congrArg (Obs.packetAccepted id (j.msg.uiaData.drop 2) :: ·) hl
  | gaveUp e h why =>
      refine ⟨[] ++ (calls ++ opening), ?_, (hopen hc).handled hadm (by simp) ?_⟩
      · rw [List.nil_append]
        exact hl
      · intro _ hstate
        cases hstate
  | stopped h why =>
      refine ⟨[] ++ (calls ++ opening), ?_, (hopen hc).handled hadm (by simp) ?_⟩
      · rw [List.nil_append]
        exact hl
      · intro hhalt _
        cases hhalt

/-- A change that writes nothing, as the calls for a packet. -/
theorem Unwritten.handled {b b' : Btl} (h : Unwritten b b') (id : Nat) {calls : List Obs}
    (hl : b'.log = calls ++ b.log) : PacketHandled b b' id calls :=
  .unwritten (h.calls hl)

/-- **The calls of `vUpdate_FWImage`** in a session. -/
theorem vUpdateFWImage_calls (env : Env) (j : Job)
    (hstate : j.btl.mgmt.eBtlState = .fwImgWriteInProg)
    (hidle : j.btl.img.bIsFlashWritInProgress = false)
    (hsize : FW_IMAGE_SECONDARY_SLOT_WRITE_OFFSET < j.btl.mgmt.uiFlashAreaSize) :
    ∃ calls, (handlerResult (vUpdateFWImage env j)).log = calls ++ j.btl.log ∧
      PacketHandled j.btl (handlerResult (vUpdateFWImage env j)) (packetId j.msg.uiaData)
        calls ∧
      (calls ≠ [] → j.msg.uiLen = FW_IMG_PACKET_DATA_LENGTH) := by
  unfold vUpdateFWImage
  by_cases hlen : j.msg.uiLen ≠ FW_IMG_PACKET_DATA_LENGTH
  · rw [if_pos hlen]
    exact ⟨[], rfl, (Unwritten.refl _).handled _ rfl, fun h => absurd rfl h⟩
  have hlen' : j.msg.uiLen = FW_IMG_PACKET_DATA_LENGTH := not_not.mp hlen
  rw [if_neg hlen]
  simp only [hstate, hidle, ne_eq, not_true_eq_false, if_false, Bool.false_eq_true,
    if_neg (Nat.not_le.mpr hsize)]
  by_cases hid : j.btl.img.uiNextId = packetId j.msg.uiaData
  · rw [if_neg (not_not.mpr hid)]
    obtain ⟨calls, hl, hc⟩ := writePacket_calls env _ j hlen' (.next hid.symm)
    exact ⟨calls, hl, hc, fun _ => hlen'⟩
  · rw [if_pos hid]
    have hm := vHandlePacketIdMismatch_outcome j hid
    generalize vHandlePacketIdMismatch j (packetId j.msg.uiaData) = r at hm ⊢
    cases hm with
    | admitted hadm =>
        simp only [Bool.not_true, Bool.false_eq_true, if_false]
        obtain ⟨calls, hl, hc⟩ := writePacket_calls env _ j hlen' hadm
        exact ⟨calls, hl, hc, fun _ => hlen'⟩
    | refused hr =>
        have hne : ¬ (vSetBootloaderMsgStatus j false .invalidPacketId).btl.mgmt.eBtlState
            = .error := by
          show ¬ j.btl.mgmt.eBtlState = .error
          rw [hstate]
          decide
        simp only [Bool.not_false, if_true, if_neg hne]
        exact ⟨[], rfl, (Unwritten.refl _).handled _ rfl, fun _ => hlen'⟩
    | tooMany hmany =>
        simp only [Bool.not_false, if_true]
        obtain ⟨closing, hlog, hc⟩ := rejectAndAbort_log j .invalidPacketId
        refine ⟨closing, hlog, .unwritten ?_, fun _ => hlen'⟩
        intro o ho
        rw [hc o ho]
        rfl

/-- The calls of one step, and what they say of the blocks. -/
structure StepCalls (b : Btl) (e : Event) (b' : Btl) (calls : List Obs) : Prop where
  received : ∀ o ∈ calls, ∀ id, o.packet? = some id → ReceivesPacket b e id
  blocks : ∀ id off data ret, .flashWrite id off data ret ∈ calls →
    BlockOk b.mgmt.uiFlashAreaSize b.mgmt.uiFWImgSize off data ∧
    (∃ k < 3, off = packetAddr id + FW_IMG_WRITE_BYTE_LENGTH * k) ∧
    b.mgmt.eBtlState = .fwImgWriteInProg ∧ (∃ img, Admits b.img id img) ∧
    (b'.halted = none → b'.mgmt.eBtlState = .fwImgWriteInProg →
      ∃ data', .packetAccepted id data' ∈ calls)
  once : (calls.filterMap Obs.block?).Pairwise (· > ·)

/-- The trace grows by the calls of the step. -/
theorem step_log (b : Btl) (a : Event × Env) : ∃ calls, (step b a).log = calls ++ b.log := by
  have h := step_addLog b.log { b with log := [] } a
  refine ⟨(step { b with log := [] } a).log, ?_⟩
  exact congrArg Btl.log h

theorem Unwritten.stepCalls {b b' : Btl} {e : Event} {calls : List Obs} (h : Unwritten b b')
    (hl : b'.log = calls ++ b.log) : StepCalls b e b' calls where
  received o ho id hid := by
    rw [h.calls hl o ho] at hid
    cases hid
  blocks id off data ret hmem := by
    cases h.calls hl _ hmem
  once := by
    rw [List.filterMap_eq_nil_iff.mpr fun o ho => block?_of_packet? (h.calls hl o ho)]
    exact .nil

/-- A frame with a packet, in a session. -/
theorem vHandleBootloaderMessages_calls (env : Env) {slot : FlashArea} {b : Btl}
    (hb : Base slot b) {f : CanFrame} {m : CtrlMsg}
    (hm : vFormatBootloaderMsg b.mgmt.bIsInitialized f = m) (hok : m.bIsMsgOk = true)
    (hcmd : m.eCMD = .fwUpMsg) (hstate : b.mgmt.eBtlState = .fwImgWriteInProg) :
    ∃ calls, (vHandleBootloaderMessages env f b).log = calls ++ b.log ∧
      StepCalls b (.frame f) (vHandleBootloaderMessages env f b) calls := by
  -- in a session the frame is handled by `vUpdate_FWImage`
  have hupdate : dispatchMessage env { btl := b, msg := m }
      = vUpdateFWImage env { btl := b, msg := m } := by
    unfold dispatchMessage
    rw [show (Job.mk b m).msg.eCMD = .fwUpMsg from hcmd]
    show vUpdateBootloader env { btl := b, msg := m } = _
    unfold vUpdateBootloader
    rw [show (Job.mk b m).btl.mgmt.eBtlState = .fwImgWriteInProg from hstate]
    show vExecuteBootloaderFWImgWriteState env { btl := b, msg := m } = _
    unfold vExecuteBootloaderFWImgWriteState
    rw [if_neg (by rw [show (Job.mk b m).btl.mgmt.bIsInitialized = true from
      hb.initialized hstate]; decide)]
    rw [show (Job.mk b m).msg.eCMD = .fwUpMsg from hcmd]
  obtain ⟨calls, hl, hc, hlen⟩ := vUpdateFWImage_calls env { btl := b, msg := m } hstate
    (hb.idle hstate) (hb.room hstate)
  -- the answer makes no call on the flash
  have hanswer := vProcessBootloaderMessages_unwritten env { btl := b, msg := m }
  have hkept := vProcessBootloaderMessages_kept env { btl := b, msg := m }
  obtain ⟨answer, hla, -⟩ := hkept.work.log
  have hres : vHandleBootloaderMessages env f b
      = vProcessBootloaderMessages env { btl := b, msg := m } := by
    unfold vHandleBootloaderMessages
    dsimp only
    rw [hm, if_neg (by rw [hok]; decide)]
  rw [hres]
  have hnone := hanswer.calls hla
  have hstep := hkept.work
  rw [hupdate] at hla hstep
  generalize vProcessBootloaderMessages env { btl := b, msg := m } = b' at hla hstep ⊢
  generalize handlerResult (vUpdateFWImage env { btl := b, msg := m }) = b₁ at hl hc hla hstep
  refine ⟨answer ++ calls, by rw [hla, hl, List.append_assoc], ?_, ?_, ?_⟩
  · intro o ho id hid
    rcases List.mem_append.mp ho with ho | ho
    · rw [hnone o ho] at hid
      cases hid
    · show _ ∧ _ ∧ _ ∧ _
      rw [hm]
      exact ⟨hok, hcmd, hlen (List.ne_nil_of_mem ho), (hc.own o ho id hid).symm⟩
  · intro id off data ret ho
    rcases List.mem_append.mp ho with ho | ho
    · cases hnone _ ho
    · obtain rfl : id = packetId m.uiaData := hc.own _ ho id rfl
      obtain ⟨hblock, hk, hadm, hacc⟩ := hc.blocks _ _ _ _ ho
      refine ⟨hblock, hk, hstate, hadm, ?_⟩
      intro hhalt hprog
      obtain ⟨data', hmem⟩ := hacc (hstep.halted.symm.trans hhalt)
        ((congrArg Mgmt.eBtlState hstep.mgmt).symm.trans hprog)
      exact ⟨data', List.mem_append_right _ hmem⟩
  · have hnil : answer.filterMap Obs.block? = [] :=
      List.filterMap_eq_nil_iff.mpr fun o ho => block?_of_packet? (hnone o ho)
    rw [List.filterMap_append, hnil]
    exact hc.once

/-- **The calls of one step.** -/
theorem step_calls {slot : FlashArea} {b : Btl} (hb : Base slot b) (a : Event × Env) :
    ∃ calls, (step b a).log = calls ++ b.log ∧ StepCalls b a.1 (step b a) calls := by
  obtain ⟨e, env⟩ := a
  by_cases hrun : b.halted.isSome = true
  · have hstep : step b (e, env) = b := if_pos hrun
    rw [hstep]
    exact ⟨[], rfl, (Unwritten.refl b).stepCalls rfl⟩
  have hstep : step b (e, env) = stepEvent env e b := if_neg hrun
  obtain ⟨calls, hl⟩ := step_log b (e, env)
  rw [hstep] at hl ⊢
  cases e with
  | stateTimeOut =>
      have h : Unwritten b (stepEvent env .stateTimeOut b) :=
        (vBtlStateTimeOutHandler_unwritten env _).prepend rfl
      exact ⟨calls, hl, h.stepCalls hl⟩
  | txTimeOut =>
      have h : Unwritten b (stepEvent env .txTimeOut b) :=
        (vBtlTxTimeOutHandler_unwritten env _).prepend rfl
      exact ⟨calls, hl, h.stepCalls hl⟩
  | frame f =>
      show ∃ calls, (vHandleBootloaderMessages env f b).log = calls ++ b.log ∧ _
      generalize hm : vFormatBootloaderMsg b.mgmt.bIsInitialized f = m
      -- only a packet in a session is written
      by_cases hpacket : m.bIsMsgOk = true ∧ m.eCMD = .fwUpMsg ∧
          b.mgmt.eBtlState = .fwImgWriteInProg
      · exact vHandleBootloaderMessages_calls env hb hm hpacket.1 hpacket.2.1 hpacket.2.2
      · refine ⟨calls, hl, ?_⟩
        refine Unwritten.stepCalls ?_ hl
        show Unwritten b (vHandleBootloaderMessages env f b)
        unfold vHandleBootloaderMessages
        dsimp only
        rw [hm]
        by_cases hok : m.bIsMsgOk = true
        · rw [if_neg (by rw [hok]; decide)]
          have hdispatch := dispatchMessage_unwritten env { btl := b, msg := m }
            fun h => hpacket ⟨hok, h.2, h.1⟩
          exact hdispatch.trans (vProcessBootloaderMessages_unwritten env _)
        · rw [if_pos (by simpa using hok)]
          exact .one rfl rfl

/-! ## §4. The blocks since the last erase. -/

/-- The offsets written since the last erase that succeeded, newest first. -/
def blocksSinceErase : List Obs → List Nat
  | [] => []
  | .flashErase ret :: log => if ret = 0 then [] else blocksSinceErase log
  | .flashWrite _ off _ _ :: log => off :: blocksSinceErase log
  | _ :: log => blocksSinceErase log

/-- No block is written twice between two erases: at every write, the block is
none of those since the last erase. -/
def WriteOnce (log : List Obs) : Prop :=
  ∀ o older, o :: older <:+ log → ∀ off, o.block? = some off → off ∉ blocksSinceErase older

theorem WriteOnce.nil : WriteOnce [] := by
  intro o older h
  cases List.suffix_nil.mp h

theorem WriteOnce.cons {o : Obs} {log : List Obs} (h : WriteOnce log)
    (ho : ∀ off, o.block? = some off → off ∉ blocksSinceErase log) : WriteOnce (o :: log) := by
  intro o' older hsuffix
  rcases List.suffix_cons_iff.mp hsuffix with heq | hsuffix
  · cases heq
    exact ho
  · exact h o' older hsuffix

theorem mem_blocksSinceErase_cons {o : Obs} {log : List Obs} {off : Nat}
    (h : off ∈ blocksSinceErase (o :: log)) :
    o.block? = some off ∨ off ∈ blocksSinceErase log := by
  cases o with
  | flashErase ret =>
      unfold blocksSinceErase at h
      split at h
      · cases h
      · exact Or.inr h
  | flashWrite id off' data ret =>
      rcases List.mem_cons.mp h with rfl | h
      · exact Or.inl rfl
      · exact Or.inr h
  | _ => exact Or.inr h

theorem mem_blocksSinceErase_append {calls log : List Obs} {off : Nat}
    (h : off ∈ blocksSinceErase (calls ++ log)) :
    off ∈ calls.filterMap Obs.block? ∨ off ∈ blocksSinceErase log := by
  induction calls with
  | nil => exact Or.inr h
  | cons o calls ih =>
      rcases mem_blocksSinceErase_cons h with ho | h
      · exact Or.inl (List.mem_filterMap.mpr ⟨o, List.mem_cons_self .., ho⟩)
      · rcases ih h with hmem | hmem
        · obtain ⟨o', ho', hblock⟩ := List.mem_filterMap.mp hmem
          exact Or.inl (List.mem_filterMap.mpr ⟨o', List.mem_cons_of_mem _ ho', hblock⟩)
        · exact Or.inr hmem

/-- New blocks that are pairwise distinct, and none of those since the erase. -/
theorem WriteOnce.append {calls log : List Obs} (h : WriteOnce log)
    (hnew : (calls.filterMap Obs.block?).Pairwise (· > ·))
    (hold : ∀ off ∈ calls.filterMap Obs.block?, off ∉ blocksSinceErase log) :
    WriteOnce (calls ++ log) := by
  induction calls with
  | nil => exact h
  | cons o calls ih =>
      cases ho : o.block? with
      | none =>
          rw [List.filterMap_cons_none ho] at hnew hold
          refine (ih hnew hold).cons ?_
          intro off hoff
          rw [ho] at hoff
          cases hoff
      | some off =>
          rw [List.filterMap_cons_some ho] at hnew hold
          obtain ⟨hlast, hnew⟩ := List.pairwise_cons.mp hnew
          refine (ih hnew fun off' hmem => hold off' (List.mem_cons_of_mem _ hmem)).cons ?_
          intro off' hoff' hmem
          obtain rfl : off = off' := Option.some.inj (ho.symm.trans hoff')
          rcases mem_blocksSinceErase_append hmem with hmem | hmem
          · exact Nat.lt_irrefl off (hlast off hmem)
          · exact hold off (List.mem_cons_self ..) hmem

/-! ## §5. Runs. -/

/-- No block is written twice, and in a session those since the erase belong
to its accepted packets. -/
structure BlockInv (b : Btl) : Prop where
  once : WriteOnce b.log
  own : b.halted = none → b.mgmt.eBtlState = .fwImgWriteInProg →
    ∀ s, currentSession b.log = some s → ∀ off ∈ blocksSinceErase b.log,
      ∃ i ∈ s.ids, ∃ k < 3, off = packetAddr i + FW_IMG_WRITE_BYTE_LENGTH * k

/-- How a step comes to be in a session: it has just erased the partition, or
it was in the session before. -/
theorem step_session {slot : FlashArea} {b : Btl} (hb : Base slot b) (hrun : b.halted = none)
    (a : Event × Env) {calls : List Obs} (hl : (step b a).log = calls ++ b.log)
    (hrun' : (step b a).halted = none)
    (hstate : (step b a).mgmt.eBtlState = .fwImgWriteInProg) :
    (b.mgmt.eBtlState = .idle ∧ ∃ after before, calls = after ++ .flashErase 0 :: before) ∨
    (b.mgmt.eBtlState = .fwImgWriteInProg ∧
      ∀ o ∈ calls, (∀ ret, o ≠ .flashErase ret) ∧ ∀ uiaData, o ≠ .sessionStarted uiaData) := by
  obtain ⟨b₀, b₁, hk₀, htr, hk₁⟩ := step_transition hb hrun a
  obtain ⟨c₀, hl₀, hp₀⟩ := hk₀.work.log
  obtain ⟨c₁, hl₁, hp₁⟩ := hk₁.work.log
  have hstate₁ : b₁.mgmt.eBtlState = .fwImgWriteInProg := by
    rw [← hk₁.work.mgmt]
    exact hstate
  have hrun₁ : b₁.halted = none := hk₁.work.halted.symm.trans hrun'
  -- a transition within the session, with calls that neither erase nor start
  have hwithin : ∀ c, b₀.mgmt.eBtlState = .fwImgWriteInProg → b₁.log = c ++ b₀.log →
      (∀ o ∈ c, (∀ ret, o ≠ .flashErase ret) ∧ ∀ uiaData, o ≠ .sessionStarted uiaData) →
      b.mgmt.eBtlState = .fwImgWriteInProg ∧
        ∀ o ∈ calls, (∀ ret, o ≠ .flashErase ret) ∧ ∀ uiaData, o ≠ .sessionStarted uiaData := by
    intro c hst hlc hc
    refine ⟨by rw [← hk₀.work.mgmt]; exact hst, ?_⟩
    have hboth : calls ++ b.log = c₁ ++ (c ++ c₀) ++ b.log := by
      rw [← hl, hl₁, hlc, hl₀]
      simp only [List.append_assoc]
    have heq : calls = c₁ ++ (c ++ c₀) := List.append_cancel_right hboth
    intro o ho
    rw [heq] at ho
    rcases List.mem_append.mp ho with ho | ho
    · exact Obs.plain_not_start (hp₁ o ho)
    · rcases List.mem_append.mp ho with ho | ho
      · exact hc o ho
      · exact Obs.plain_not_start (hp₀ o ho)
  cases htr with
  | kept h =>
      obtain ⟨c, hlc, hc⟩ := h.work.log
      refine Or.inr (hwithin c ?_ hlc fun o ho => Obs.plain_not_start (hc o ho))
      rw [← h.work.mgmt]
      exact hstate₁
  | ended h => exact absurd hstate₁ h.state.1
  | @started b₁ uiaData h =>
      refine Or.inl ⟨by rw [← hk₀.work.mgmt]; exact h.was_idle,
        c₁ ++ [.sessionStarted uiaData, .flashClose], .flashOpen 0 :: c₀, ?_⟩
      have hboth : calls ++ b.log = (c₁ ++ [.sessionStarted uiaData, .flashClose])
          ++ .flashErase 0 :: .flashOpen 0 :: c₀ ++ b.log := by
        rw [← hl, hl₁, h.log, hl₀]
        simp
      exact List.append_cancel_right hboth
  | @accepted id img b₂ data hst hlen hadm hopen hin h hsto =>
      have hb₀ : b₀.img.untouched → b₀.flashArea = none := by
        rw [hk₀.img, hk₀.flashArea]
        exact hb.first
      obtain ⟨c, hlc, hc⟩ := ((beginPacket_work hb₀).trans h.work).log
      refine Or.inr (hwithin (.packetAccepted id data :: c) hst ?_ ?_)
      · show .packetAccepted id data :: b₂.log = _
        rw [hlc]
        rfl
      · intro o ho
        rcases List.mem_cons.mp ho with rfl | ho
        · exact ⟨fun _ => by simp, fun _ => by simp⟩
        · exact Obs.plain_not_start (hc o ho)
  | missing hends hst hmax hrec => exact Or.inr (hwithin [] hst rfl (by simp))
  | completed hends hst hmax hrec hw hflash hc h => exact absurd hstate₁ h.state.1
  | nullHandle h hst why htouched => cases hrun₁
  | rebooted hm hs hlog hfa h =>
      rw [h] at hrun₁
      cases hrun₁

/-- One step. -/
theorem BlockInv.step {slot : FlashArea} (hslot : SlotBound slot) {b : Btl}
    (hreach : (machine slot).Reachable b) (h : BlockInv b) (a : Event × Env) :
    BlockInv (step b a) := by
  by_cases hrun : b.halted = none
  · have hb := ((runInv_of_reachable hslot hreach).running hrun).1
    obtain ⟨calls, hl, hc⟩ := step_calls hb a
    have hmem : ∀ off ∈ calls.filterMap Obs.block?, ∃ id data ret,
        .flashWrite id off data ret ∈ calls := by
      intro off hoff
      obtain ⟨o, ho, hblock⟩ := List.mem_filterMap.mp hoff
      cases o with
      | flashWrite id off' data ret =>
          obtain rfl : off' = off := Option.some.inj hblock
          exact ⟨id, data, ret, ho⟩
      | _ => cases hblock
    refine ⟨?_, ?_⟩
    · rw [hl]
      refine h.once.append hc.once ?_
      intro off hoff hold
      obtain ⟨id, data, ret, hw⟩ := hmem off hoff
      obtain ⟨-, ⟨k, hk, hoff⟩, hstate, ⟨img, hadm⟩, -⟩ := hc.blocks _ _ _ _ hw
      obtain ⟨s, hs, hinv⟩ := ((runInv_of_reachable hslot hreach).running hrun).2 hstate
      obtain ⟨i, hi, k', hk', hoff'⟩ := h.own hrun hstate s hs off hold
      -- the block would be one of an accepted packet
      obtain rfl : i = id := by
        unfold packetAddr FW_IMG_WRITE_BYTE_LENGTH DATA_PAYLOAD_PER_ONE_IMAGE_FRAME at *
        omega
      exact hadm.not_mem hinv.tracks hi
    · intro hrun' hstate' s' hs' off hoff
      rw [hl] at hoff
      rcases step_session hb hrun a hl hrun' hstate' with
        ⟨hidle, after, before, rfl⟩ | ⟨hstate, hplain⟩
      · -- nothing has been written since the erase
        have hnone : off ∈ (after ++ Obs.flashErase 0 :: before).filterMap Obs.block? := by
          rw [List.append_assoc] at hoff
          rcases mem_blocksSinceErase_append hoff with hmem | hmem
          · rw [List.filterMap_append]
            exact List.mem_append_left _ hmem
          · rw [List.cons_append] at hmem
            unfold blocksSinceErase at hmem
            rw [if_pos rfl] at hmem
            cases hmem
        obtain ⟨id, data, ret, hw⟩ := hmem off hnone
        have hstate := (hc.blocks _ _ _ _ hw).2.2.1
        rw [hidle] at hstate
        cases hstate
      · obtain ⟨s, hs, -⟩ := ((runInv_of_reachable hslot hreach).running hrun).2 hstate
        have hs'' : s' = s.extend calls := by
          rw [hl, currentSession_append hs hplain] at hs'
          exact (Option.some.inj hs').symm
        subst hs''
        have hids : (s.extend calls).packets = calls.filterMap Obs.accepted ++ s.packets :=
          List.filterMap_append ..
        rcases mem_blocksSinceErase_append hoff with hnew | hold
        · obtain ⟨id, data, ret, hw⟩ := hmem off hnew
          obtain ⟨-, hk, -, -, hacc⟩ := hc.blocks _ _ _ _ hw
          obtain ⟨data', hdata'⟩ := hacc hrun' hstate'
          refine ⟨id, ?_, hk⟩
          refine List.mem_map.mpr ⟨(id, data'), ?_, rfl⟩
          rw [hids]
          exact List.mem_append_left _ (List.mem_filterMap.mpr ⟨_, hdata', rfl⟩)
        · obtain ⟨i, hi, hk⟩ := h.own hrun hstate s hs off hold
          obtain ⟨q, hq, rfl⟩ := List.mem_map.mp hi
          refine ⟨q.1, List.mem_map.mpr ⟨q, ?_, rfl⟩, hk⟩
          rw [hids]
          exact List.mem_append_right _ hq
  · rw [step_halted hrun]
    exact h

/-- **Writes stay in the slot, and write once.**  In every run on a partition
whose packets have 16-bit ids, no block is written twice between two erases;
and whatever event comes next, each write that it makes is of 16 bytes, at an
aligned offset inside the image area of the partition and before the end of the
image, with `0xFF` behind that end. -/
theorem flash_writes_once {slot : FlashArea} (hslot : SlotBound slot) {b : Btl}
    (h : (machine slot).Reachable b) :
    WriteOnce b.log ∧ ∀ a calls, (step b a).log = calls ++ b.log →
      ∀ id off data ret, .flashWrite id off data ret ∈ calls →
        BlockOk b.mgmt.uiFlashAreaSize b.mgmt.uiFWImgSize off data := by
  refine ⟨?_, ?_⟩
  · have hinv : (machine slot).Reachable b ∧ BlockInv b := by
      induction h with
      | init hinit =>
          refine ⟨.init hinit, ?_⟩
          obtain ⟨flash, env, rfl⟩ := hinit
          unfold bInitBootloaderController flashAreaOpen
          by_cases hopen : env.open_ = 0
          · rw [if_pos hopen, if_neg (not_not.mpr hopen)]
            refine ⟨?_, fun _ hstate => by cases hstate⟩
            exact (WriteOnce.nil.cons fun _ ho => by cases ho).cons fun _ ho => by cases ho
          · rw [if_neg hopen, if_pos hopen]
            refine ⟨?_, fun _ hstate => by cases hstate⟩
            exact WriteOnce.nil.cons fun _ ho => by cases ho
      | @step b b' a hb hok hst ih =>
          obtain rfl := hst
          exact ⟨.step hb hok rfl, ih.2.step hslot ih.1 a⟩
    exact hinv.2.once
  · intro a calls hl id off data ret hw
    by_cases hrun : b.halted = none
    · have hb := ((runInv_of_reachable hslot h).running hrun).1
      obtain ⟨calls', hl', hc⟩ := step_calls hb a
      obtain rfl : calls = calls' := List.append_cancel_right (hl.symm.trans hl')
      exact (hc.blocks id off data ret hw).1
    · rw [step_halted hrun] at hl
      have hnone : [] ++ b.log = calls ++ b.log := hl
      obtain rfl : [] = calls := List.append_cancel_right hnone
      cases hw

/-- The update of one packet writes three blocks. -/
theorem flash_writes_once_one :
    (updateOfOnePacket.log.filterMap Obs.block?) = [0x2020, 0x2010, 0x2000] ∧
      WriteOnce updateOfOnePacket.log := by
  have hreach : (machine ⟨0x4000⟩).Reachable updateOfOnePacket := reachable_runFrames _ _
  exact ⟨by decide +kernel, (flash_writes_once (by decide) hreach).1⟩

end WallController.Bootloader
