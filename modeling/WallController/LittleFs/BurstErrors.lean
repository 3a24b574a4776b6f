/-
  WallController.LittleFs.BurstErrors
  ────────────────────────────────
  **BURSTS ON THE UART ARE DETECTED.**

  A frame on the PC UART is protected by the CRC over its header and payload,
  and a `DATA` message inside it once more by the CRC over its data bytes.  The
  CRC of a frame is sent high byte first, so a frame with its CRC field is one
  message whose CRC is zero; a burst that spares the length changes that CRC,
  wherever it lies, the CRC field included.

  Main results:
    * `readHeaderTail_burst`: the reader gives up on a frame hit by a burst.
    * `accept_burst`: `iSend_BulkTransferData` refuses data hit by a burst.
    * `bursts_detected`: both, for whole frames and whole calls.
-/
import WallController.Crc16Bits
import WallController.PCUart.Framing
import WallController.LittleFs.RejectedData

namespace WallController.PCUart

open WallController.Lib

/-! ## §1. A frame and its errors. -/

/-- An error pattern for the region of a frame from the version to the CRC: a
burst that spares the two length bytes. -/
structure FrameBurst (puiPayload errors : List UInt8) : Prop where
  length : errors.length = PC_UART_PROTOCOL_HEADER_LENGTH - uiaSOF.length + puiPayload.length + 2
  burst : Burst errors
  spares : byteAt errors 4 = 0 ∧ byteAt errors 5 = 0

variable {uiCommand : UInt8} {uiSeq : UInt16} {puiPayload errors : List UInt8} {rx : List Rx}

theorem length_headerTail (n : Nat) : (headerTail uiCommand uiSeq n).length = 6 := rfl

theorem length_frameTail :
    (frameTail uiCommand uiSeq puiPayload).length = 6 + puiPayload.length + 2 := by
  unfold frameTail
  dsimp only
  rw [List.length_append, List.length_append, length_headerTail]
  rfl

/-- A frame with its CRC field is a message whose CRC is zero. -/
theorem update_frameTail (uiCommand : UInt8) (uiSeq : UInt16) (puiPayload : List UInt8) :
    u16CRC16CCITTUpdate 0xFFFF (frameTail uiCommand uiSeq puiPayload) = 0 := by
  unfold frameTail
  dsimp only
  rw [u16CRC16CCITTUpdate_append, u16CRC16CCITTUpdate_append]
  exact (update_field_eq_zero_iff _ _).mpr rfl

/-- The check of the reader, for the bytes it has read. -/
theorem update_eq_zero_of_frameCRC {uiaHeaderTail uiaCRC : List UInt8} (htwo : uiaCRC.length = 2)
    (hcrc : u16ReadBigEndian uiaCRC 0 = frameCRC uiaHeaderTail puiPayload) :
    u16CRC16CCITTUpdate 0xFFFF (uiaHeaderTail ++ puiPayload ++ uiaCRC) = 0 := by
  obtain ⟨hhigh, hlow⟩ := (u16ReadBigEndian_eq_iff uiaCRC 0 _).mp hcrc
  rw [u16CRC16CCITTUpdate_append, u16CRC16CCITTUpdate_append, eq_of_length_two htwo, hhigh, hlow]
  exact (update_field_eq_zero_iff _ _).mpr rfl

/-- The parts of a message of known lengths. -/
theorem exists_parts {data : List UInt8} {k m n : Nat} (h : data.length = k + m + n) :
    ∃ xs ys zs, data = xs ++ ys ++ zs ∧ xs.length = k ∧ ys.length = m ∧ zs.length = n := by
  refine ⟨data.take k, (data.drop k).take m, (data.drop k).drop m, ?_, ?_, ?_, ?_⟩
  · rw [List.append_assoc, List.take_append_drop, List.take_append_drop]
  · rw [List.length_take]
    omega
  · rw [List.length_take, List.length_drop]
    omega
  · rw [List.length_drop, List.length_drop]
    omega

theorem byteAt_append {xs ys : List UInt8} {i : Nat} (h : i < xs.length) :
    byteAt (xs ++ ys) i = byteAt xs i := by
  unfold byteAt
  rw [List.getD_eq_getElem?_getD, List.getElem?_append_left h, ← List.getD_eq_getElem?_getD]

/-- A byte that the errors spare. -/
theorem byteAt_flipped {data : List UInt8} {i : Nat} (hlen : errors.length = data.length)
    (hspared : byteAt errors i = 0) : byteAt (flipped data errors) i = byteAt data i := by
  unfold byteAt at hspared ⊢
  rw [List.getD_eq_getElem?_getD] at hspared
  rw [List.getD_eq_getElem?_getD, List.getD_eq_getElem?_getD]
  unfold flipped
  by_cases hi : i < data.length
  · have hi' : i < errors.length := by omega
    rw [List.getElem?_eq_getElem hi'] at hspared
    rw [List.getElem?_zipWith, List.getElem?_eq_getElem hi, List.getElem?_eq_getElem hi']
    show data[i] ^^^ errors[i] = data[i]
    rw [show errors[i] = 0 from hspared, UInt8.xor_zero]
  · rw [List.getElem?_eq_none (Nat.not_lt.mp hi), List.getElem?_eq_none]
    rw [List.length_zipWith]
    omega

/-! ## §2. The reader. -/

/-- The reader has given up, and has answered with one of two errors. -/
def GaveUp (result : Read ReceivedFrame × Api) : Prop :=
  ∃ (rest : List Rx) (s : Api) (uiErrorCode : UInt8),
    result = (.failed rest, s.send (.response PC_UART_PROTOCOL_NACK uiErrorCode))
    ∧ (uiErrorCode = ePC_UART_Error_InvalidVersion
      ∨ uiErrorCode = ePC_UART_Error_FrameCRCMismatch)

/-- **A frame hit by a burst is not read.**  When the version survives, so does
the length, and the CRC is computed over as many bytes as were sent. -/
theorem readHeaderTail_burst (hlen : puiPayload.length ≤ PC_UART_PROTOCOL_MAX_PAYLOAD_LENGTH)
    (hburst : FrameBurst puiPayload errors) (uiCommand : UInt8) (uiSeq : UInt16) (rx : List Rx)
    (s : Api) :
    GaveUp (readHeaderTail (received (flipped (frameTail uiCommand uiSeq puiPayload) errors) ++ rx)
      s) := by
  have herrors : errors.length = (frameTail uiCommand uiSeq puiPayload).length := by
    rw [length_frameTail]
    exact hburst.length
  have hne := update_burst_ne 0xFFFF herrors hburst.burst
  have hhigh := byteAt_flipped herrors hburst.spares.1
  have hlow := byteAt_flipped herrors hburst.spares.2
  have hregion := (length_flipped herrors).trans length_frameTail
  rw [update_frameTail] at hne
  generalize flipped (frameTail uiCommand uiSeq puiPayload) errors = region at hne hhigh hlow hregion
  obtain ⟨uiaHeaderTail, payload, uiaCRC, rfl, hsix, hsize, htwo⟩ := exists_parts hregion
  -- the length field is that of the frame
  have hfield : (u16ReadBigEndian uiaHeaderTail 4).toNat = payload.length := by
    have hle : puiPayload.length ≤ 264 := hlen
    rw [List.append_assoc, byteAt_append (by omega)] at hhigh hlow
    rw [u16ReadBigEndian_toNat, hhigh, hlow, hsize]
    show (UInt8.ofNat _).toNat * 256 + (UInt8.ofNat _).toNat = _
    rw [UInt8.toNat_ofNat', UInt8.toNat_ofNat']
    omega
  unfold readHeaderTail
  rw [show PC_UART_PROTOCOL_HEADER_LENGTH - uiaSOF.length = uiaHeaderTail.length from hsix.symm,
    received_append, received_append, List.append_assoc, List.append_assoc,
    bReadUARTBytesWithTimeout_received]
  dsimp only
  split
  · exact ⟨_, _, _, rfl, Or.inl rfl⟩
  · unfold readPayload
    dsimp only
    rw [hfield, if_neg (by rw [hsize]; exact Nat.not_lt.mpr hlen),
      bReadUARTBytesWithTimeout_received]
    dsimp only
    unfold readCRC
    rw [show (2 : Nat) = uiaCRC.length from htwo.symm, bReadUARTBytesWithTimeout_received]
    dsimp only
    have hmismatch : u16ReadBigEndian uiaCRC 0 ≠ frameCRC uiaHeaderTail payload := by
      intro hcrc
      exact hne (update_eq_zero_of_frameCRC htwo hcrc)
    rw [if_pos hmismatch]
    exact ⟨_, _, _, rfl, Or.inr rfl⟩

/-- The same for the whole reader, after any noise that does not contain the
start sequence. -/
theorem bReadUARTFrame_burst (hlen : puiPayload.length ≤ PC_UART_PROTOCOL_MAX_PAYLOAD_LENGTH)
    (hburst : FrameBurst puiPayload errors) (uiCommand : UInt8) (uiSeq : UInt16)
    {noise : List UInt8} (hnoise : ¬ uiaSOF <:+: searched noise) (rx : List Rx) (s : Api) :
    GaveUp (bReadUARTFrame (received
      (noise ++ (uiaSOF ++ flipped (frameTail uiCommand uiSeq puiPayload) errors)) ++ rx) s) := by
  have hnone : ¬ uiaSOF <:+: [] ++ searched noise := by
    rw [List.nil_append]
    exact hnoise
  obtain ⟨i, s₁, hi, hsearch⟩ := readSOF_noise (.nil blup) blup.length_pos hnone s
  unfold bReadUARTFrame
  rw [received_append, received_append, List.append_assoc, List.append_assoc, hsearch,
    readSOF_uiaSOF hi]
  exact readHeaderTail_burst hlen hburst uiCommand uiSeq rx _

end WallController.PCUart

namespace WallController.LittleFs

open WallController.Lib WallController.PCUart

/-! ## §3. `iSend_BulkTransferData`. -/

/-- A message whose data bytes were changed, while its CRC field was not. -/
def MsgData.corrupted (m : MsgData) (errors : List UInt8) : MsgData :=
  { m with uiMsg := flipped m.uiMsg errors }

/-- A `DATA` message as it was sent, and the burst that hits its data bytes. -/
structure DataBurst (m : MsgData) (errors : List UInt8) : Prop where
  crc : u16CRC16CCITTUpdate 0xFFFF m.uiMsg = m.uiFrameCRC
  length : errors.length = m.uiDataLen
  burst : Burst errors

/-- The frame the service waits for, and it fits the file. -/
structure Bulk.InOrder (b : Bulk) (m : MsgData) : Prop where
  next : m.uiFrameId = b.ctrl.uiNextFrameId
  fits : b.ctrl.uiAcceptedSize + m.uiDataLen ≤ b.ctrl.uiFileSize

/-- The service is between two calls and receives this frame next. -/
structure Bulk.Expects (b : Bulk) (m : MsgData) : Prop extends b.InOrder m where
  idle : b.uart = .idle
  free : b.kMutex_BulkTransfer = none
  receiving : b.bIsBulkDataReceiving = true
  noError : b.bIsMsgQueueInError = false
  size : 0 < m.uiDataLen ∧ m.uiDataLen ≤ MAX_FRAME_LENGTH

variable {b : Bulk} {m : MsgData} {errors : List UInt8}

theorem DataBurst.mismatch (h : DataBurst m errors) :
    u16CRC16CCITTUpdate 0xFFFF (m.corrupted errors).uiMsg ≠ (m.corrupted errors).uiFrameCRC := by
  show u16CRC16CCITTUpdate 0xFFFF (flipped m.uiMsg errors) ≠ m.uiFrameCRC
  rw [← h.crc]
  exact update_burst_ne 0xFFFF h.length h.burst

/-- **Data hit by a burst is refused**, where the frame is in order. -/
theorem accept_burst (h : DataBurst m errors) (horder : b.InOrder (m.corrupted errors))
    (env : Env) :
    dataStep env (m.corrupted errors) .accept b
      = some (b.atData (m.corrupted errors) (.unlock (-EBADMSG))) := by
  have hfits := horder.fits
  show (if (m.corrupted errors).uiFrameId ≠ b.ctrl.uiNextFrameId then _ else _) = _
  rw [if_neg (not_not.mpr horder.next), if_neg (by omega), if_pos h.mismatch]

/-- The call of a message whose CRC does not match. -/
def Uart.Refusing (m : MsgData) : Uart → Prop
  | .data m' .lock | .data m' .check | .data m' .checkError | .data m' .accept => m' = m
  | .data _ (.unlock iRet) => iRet ≠ 0
  | .returned (.sent iRet) => iRet ≠ 0
  | _ => False

/-- Such a call ends in an error, whatever the other threads do meanwhile. -/
theorem callReply_mismatch (hcrc : u16CRC16CCITTUpdate 0xFFFF m.uiMsg ≠ m.uiFrameCRC)
    (h : b.uart = .data m .lock) (as : List Act) {reply : Reply}
    (hreply : b.callReply as = some reply) : reply.isRejection = true := by
  refine callReply_spec (P := Uart.Refusing m) (Q := fun reply => reply.isRejection = true) ?_ id ?_
    (by rw [h]; exact rfl) as hreply
  · intro b b' env hb hstep
    unfold uartStep at hstep
    cases hu : b.uart with
    | idle | start r pc | end_ pc =>
      rw [hu] at hb
      exact hb.elim
    | returned reply =>
      rw [hu] at hstep
      cases hstep
    | data m' pc =>
      rw [hu] at hb hstep
      unfold dataStep at hstep
      cases pc with
      | account => exact hb.elim
      | unlock iRet =>
        cases hstep
        exact hb
      | lock | check | checkError =>
        obtain rfl : m' = m := hb
        dsimp only at hstep
        repeat' split at hstep
        all_goals first
          | (cases hstep; exact rfl)
          | (cases hstep; show (_ : Int) ≠ 0; decide)
          | cases hstep
      | accept =>
        obtain rfl : m' = m := hb
        dsimp only at hstep
        -- the CRC does not match, so the branches behind its check are not reached
        rw [if_pos hcrc] at hstep
        repeat' split at hstep
        all_goals
          cases hstep
          show (_ : Int) ≠ 0
          decide
  · intro reply hreturned
    cases reply with
    | started bResult | ended stResult => exact hreturned.elim
    | sent iRet => exact decide_eq_true hreturned

/-- A call that is about to return an error returns it. -/
theorem callReply_unlock {iRet : Int} (h : b.uart = .data m (.unlock iRet)) (as : List Act)
    {reply : Reply} (hreply : b.callReply as = some reply) : reply = .sent iRet := by
  refine callReply_spec
    (P := fun u => u = .data m (.unlock iRet) ∨ u = .returned (.sent iRet))
    (Q := fun reply => reply = .sent iRet) ?_ ?_ ?_ (Or.inl h) as hreply
  · intro b b' env hb hstep
    unfold uartStep at hstep
    rcases hb with hu | hu
    · rw [hu] at hstep
      cases hstep
      exact Or.inr rfl
    · rw [hu] at hstep
      cases hstep
  · simp
  · intro reply hreturned
    rcases hreturned with hu | hu
    · cases hu
    · exact Uart.returned.inj hu

/-- A whole call that no other thread interrupts. -/
def uninterrupted (m : MsgData) (env : Env) : List Act :=
  .call (.send m) :: List.replicate 5 (.uart env)

theorem call_burst (h : DataBurst m errors) (hexpects : b.Expects (m.corrupted errors))
    (env : Env) :
    (uninterrupted (m.corrupted errors) env).foldlM Bulk.step b
      = some { b with uart := .returned (.sent (-EBADMSG)) } := by
  obtain ⟨horder, hidle, hfree, hreceiving, hnoError, hpos, hle⟩ := hexpects
  generalize hm : m.corrupted errors = m' at *
  have hcall : b.step (.call (.send m')) = some { b with uart := .data m' .lock } := by
    show b.call (.send m') = _
    unfold Bulk.call
    rw [hidle]
    rfl
  have hlock : dataStep env m' .lock { b with uart := .data m' .lock }
      = some { b with uart := .data m' .check, kMutex_BulkTransfer := some .uart } := by
    unfold dataStep
    dsimp only
    rw [if_neg (by omega), if_pos hfree]
    rfl
  have hcheck : dataStep env m' .check
        { b with uart := .data m' .check, kMutex_BulkTransfer := some .uart }
      = some { b with uart := .data m' .checkError, kMutex_BulkTransfer := some .uart } :=
    if_pos hreceiving
  have herror : dataStep env m' .checkError
        { b with uart := .data m' .checkError, kMutex_BulkTransfer := some .uart }
      = some { b with uart := .data m' .accept, kMutex_BulkTransfer := some .uart } :=
    if_neg (Bool.eq_false_iff.mp hnoError)
  have haccept : dataStep env m' .accept
        { b with uart := .data m' .accept, kMutex_BulkTransfer := some .uart }
      = some { b with
          uart := .data m' (.unlock (-EBADMSG)), kMutex_BulkTransfer := some .uart } := by
    subst hm
    have hbusy : Bulk.InOrder
        { b with uart := .data (m.corrupted errors) .accept, kMutex_BulkTransfer := some .uart }
        (m.corrupted errors) := ⟨horder.next, horder.fits⟩
    exact accept_burst h hbusy env
  unfold uninterrupted
  rw [List.foldlM_cons, hcall]
  show (List.replicate 5 (Act.uart env)).foldlM Bulk.step _ = _
  simp only [List.replicate, List.foldlM_cons, Bulk.step, uartStep, hlock, hcheck, herror, haccept,
    Option.bind_eq_bind, Option.bind_some]
  show some { b with uart := _, kMutex_BulkTransfer := none } = _
  rw [← hfree]

/-! ## §4. Both levels. -/

/-- **Bursts are detected.**  The reader gives up on every frame whose region
from the version to the CRC was hit by a burst that spares the length.  A call
of `iSend_BulkTransferData` with data hit by a burst ends in an error, however
it interleaves with the other threads; where its frame is in order when it is
checked, that error is `-EBADMSG`, and so it is for a whole call that no other
thread interrupts. -/
theorem bursts_detected :
    (∀ (uiCommand : UInt8) (uiSeq : UInt16) (puiPayload errors noise : List UInt8) (rx : List Rx)
        (s : Api),
      puiPayload.length ≤ PC_UART_PROTOCOL_MAX_PAYLOAD_LENGTH → ¬ uiaSOF <:+: searched noise →
      FrameBurst puiPayload errors →
      GaveUp (bReadUARTFrame (received
        (noise ++ (uiaSOF ++ flipped (frameTail uiCommand uiSeq puiPayload) errors)) ++ rx) s))
    ∧ ∀ (m : MsgData) (errors : List UInt8) (b : Bulk), DataBurst m errors →
      (b.uart = .data (m.corrupted errors) .lock →
        ∀ as reply, b.callReply as = some reply → reply.isRejection = true)
      ∧ (b.uart = .data (m.corrupted errors) .accept → b.InOrder (m.corrupted errors) →
        ∀ env, ∃ b', b.step (.uart env) = some b'
          ∧ ∀ as reply, b'.callReply as = some reply → reply = .sent (-EBADMSG))
      ∧ (b.Expects (m.corrupted errors) → ∀ env,
        (uninterrupted (m.corrupted errors) env).foldlM Bulk.step b
          = some { b with uart := .returned (.sent (-EBADMSG)) }) := by
  constructor
  · intro uiCommand uiSeq puiPayload errors noise rx s hlen hnoise hburst
    exact bReadUARTFrame_burst hlen hburst uiCommand uiSeq hnoise rx s
  · intro m errors b hburst
    refine ⟨?_, ?_, fun hexpects env => call_burst hburst hexpects env⟩
    · intro hlock as reply hreply
      exact callReply_mismatch hburst.mismatch hlock as hreply
    · intro haccept horder env
      refine ⟨b.atData (m.corrupted errors) (.unlock (-EBADMSG)), ?_, ?_⟩
      · show uartStep env b = _
        unfold uartStep
        rw [haccept]
        exact accept_burst hburst horder env
      · intro as reply hreply
        exact callReply_unlock rfl as hreply

/-- One set bit. -/
theorem burst_single (before after : Nat) {errors : List UInt8}
    (h : bitsOf errors = List.replicate before false ++ [true] ++ List.replicate after false) :
    Burst errors := ⟨before, [true], after, h, by decide, by decide⟩

/-- A service that waits for the first frame of a file of one byte. -/
def receivingOne : Bulk :=
  let b := Bulk.boot fun _ => none
  { b with
    eTransferState := .receiving
    ctrl := { b.ctrl with uiFileSize := 1 } }

/-- The message it waits for. -/
def zeroMessage : MsgData where
  uiFrameId := 0
  uiMsg := [0]
  uiFrameCRC := u16CRC16CCITTUpdate 0xFFFF [0]

/-- One flipped bit in a payload of one byte, and in a message of one byte. -/
theorem bursts_detected_single (env : Env) :
    GaveUp (bReadUARTFrame (received
        ([] ++ (uiaSOF ++ flipped (frameTail 1 0 [0]) [0, 0, 0, 0, 0, 0, 1, 0, 0])) ++ []) Api.boot)
    ∧ (uninterrupted (zeroMessage.corrupted [1]) env).foldlM Bulk.step receivingOne
      = some { receivingOne with uart := .returned (.sent (-EBADMSG)) } := by
  have hframe : FrameBurst [0] [0, 0, 0, 0, 0, 0, 1, 0, 0] :=
    ⟨rfl, burst_single 55 16 (by decide), by decide⟩
  have hdata : DataBurst zeroMessage [1] := ⟨rfl, rfl, burst_single 7 0 (by decide)⟩
  have hexpects : receivingOne.Expects (zeroMessage.corrupted [1]) :=
    ⟨⟨rfl, by decide⟩, rfl, rfl, rfl, rfl, by decide⟩
  exact ⟨bursts_detected.1 1 0 [0] _ [] [] Api.boot (by decide) (by decide) hframe,
    (bursts_detected.2 zeroMessage [1] receivingOne hdata).2.2 hexpects env⟩

end WallController.LittleFs
