/-
  WallController.PCUart.Framing
  ────────────────────────────────
  **THE BLUP FRAMES OF THE PC UART (`PC_UART_API.c`).**

  `bRead_UARTFrame` looks for the start sequence, one byte at a time, and then
  reads the rest of the header, the payload and the CRC.  While it looks for
  the start sequence, three bytes are requests of their own: they are answered
  at once and do not count as received.

  The input of the reader is what it finds at the ring buffer: a byte, or no
  byte until the deadline of the read has passed.  A reader whose input is used
  up is still waiting.  What the reader sends is collected in `sent`, the newest
  operation first; a response or a debug byte is sent under `stUARTTxMutex`, the
  answer to a request is not.

  Main results:
    * `bReadUARTFrame_frame`: a frame is read after any noise that does not
      contain the start sequence.
    * `bReadUARTFrame_received`: what has been read is a well-formed frame.
-/
import WallController.Lib.StartSequence
import WallController.PCUart.Hub

namespace WallController.PCUart

open WallController.Lib

/-! ## §1. Constants (`PC_UART_Protocol.h`, `PC_UART_API.c`). -/

def PC_UART_PROTOCOL_VERSION : UInt8 := 1
def PC_UART_PROTOCOL_HEADER_LENGTH : Nat := 10
def PC_UART_PROTOCOL_BULK_MAX_DATA_LENGTH : Nat := 256
def PC_UART_PROTOCOL_MAX_PAYLOAD_LENGTH : Nat :=
  PC_UART_PROTOCOL_BULK_DATA_FIXED_LENGTH + PC_UART_PROTOCOL_BULK_MAX_DATA_LENGTH
def PC_UART_PROTOCOL_ACK : UInt8 := 0x06
def PC_UART_PROTOCOL_NACK : UInt8 := 0x15

/-- `ePC_UART_Error_t`, as far as the reader answers with it. -/
def ePC_UART_Error_InvalidVersion : UInt8 := 1
def ePC_UART_Error_InvalidLength : UInt8 := 2
def ePC_UART_Error_FrameCRCMismatch : UInt8 := 3

/-- `uiaSOF`, the bytes `BLUP`. -/
def uiaSOF : List UInt8 := [0x42, 0x4C, 0x55, 0x50]

/-- The start sequence of a frame. -/
def blup : StartSequence UInt8 where
  first := 0x42
  rest := [0x4C, 0x55, 0x50]
  first_notMem := by decide

theorem blup_symbols : blup.symbols = uiaSOF := rfl

/-- The requests of one byte: `?`, `D` and `A`. -/
def isRequest (uiByte : UInt8) : Bool := uiByte = 0x3F ∨ uiByte = 0x44 ∨ uiByte = 0x41

/-! ## §2. What is sent. -/

/-- One operation on the transmitter. -/
inductive TxOp where
  /-- `uart_poll_out`, without the mutex. -/
  | direct (uiByte : UInt8)
  /-- `vSend_UARTDebugByte`. -/
  | debug (uiDebugByte : UInt8)
  /-- `vSend_UARTResponse`. -/
  | response (uiStatus uiErrorCode : UInt8)
  /-- `bPC_UART_API_SendFrame`, from the lock on. -/
  | frame (uiCommand : UInt8) (puiPayload : List UInt8)
  deriving DecidableEq, Repr

/-- The header of a frame behind the start sequence. -/
def headerTail (uiCommand : UInt8) (uiSeq : UInt16) (uiPayloadLen : Nat) : List UInt8 :=
  [PC_UART_PROTOCOL_VERSION, uiCommand, (uiSeq >>> 8).toUInt8, uiSeq.toUInt8,
    UInt8.ofNat (uiPayloadLen / 256), UInt8.ofNat uiPayloadLen]

/-- The CRC of a frame: over the header behind the start sequence, then over
the payload. -/
def frameCRC (uiaHeaderTail puiPayload : List UInt8) : UInt16 :=
  u16CRC16CCITTUpdate (u16CRC16CCITTUpdate 0xFFFF uiaHeaderTail) puiPayload

/-- What follows the start sequence in a frame. -/
def frameTail (uiCommand : UInt8) (uiSeq : UInt16) (puiPayload : List UInt8) : List UInt8 :=
  let uiaHeaderTail := headerTail uiCommand uiSeq puiPayload.length
  let uiCRC := frameCRC uiaHeaderTail puiPayload
  uiaHeaderTail ++ puiPayload ++ [(uiCRC >>> 8).toUInt8, uiCRC.toUInt8]

/-- The bytes that `bPC_UART_API_SendFrame` writes. -/
def uartFrame (uiCommand : UInt8) (uiSeq : UInt16) (puiPayload : List UInt8) : List UInt8 :=
  uiaSOF ++ frameTail uiCommand uiSeq puiPayload

/-- The transmitter: the initialization flag and the sequence counter. -/
structure Transmitter where
  bPC_UART_APIInitialized : Bool
  uiPC_UART_APITxSeq : UInt16
  deriving DecidableEq, Repr

/-- `bPC_UART_API_SendFrame`: its result, the transmitter after it and the
bytes it writes.  A payload that is not null holds at least `uiPayloadLen`
bytes. -/
def bPCUARTAPISendFrame (t : Transmitter) (uiCommand : UInt8) (puiPayload : Option (List UInt8))
    (uiPayloadLen : Nat) : Bool × Transmitter × List UInt8 :=
  if !t.bPC_UART_APIInitialized ∨ uiPayloadLen > PC_UART_PROTOCOL_MAX_PAYLOAD_LENGTH
      ∨ (uiPayloadLen > 0 ∧ puiPayload.isNone) then
    (false, t, [])
  else
    (true, { t with uiPC_UART_APITxSeq := t.uiPC_UART_APITxSeq + 1 },
      uartFrame uiCommand t.uiPC_UART_APITxSeq ((puiPayload.getD []).take uiPayloadLen))

/-! ## §3. The reader. -/

/-- What the reader finds at the ring buffer. -/
inductive Rx where
  | byte (uiByte : UInt8)
  /-- No byte until the deadline. -/
  | timeOut
  deriving DecidableEq, Repr

/-- The state of the API thread that the reader uses.  No callback is
registered unless `vPC_UART_API_RegisterADCDataRequestCallback` is called; its
calls are counted. -/
structure Api where
  bUARTDebugNextFrame : Bool
  pfADCDataRequestCallback : Bool
  adcRequests : Nat
  sent : List TxOp
  deriving DecidableEq, Repr

namespace Api

/-- Before the first frame. -/
def boot : Api where
  bUARTDebugNextFrame := false
  pfADCDataRequestCallback := false
  adcRequests := 0
  sent := []

/-- One operation on the transmitter. -/
def send (s : Api) (op : TxOp) : Api := { s with sent := op :: s.sent }

/-- `vSend_UARTDebugByte`. -/
def vSendUARTDebugByte (s : Api) (uiDebugByte : UInt8) : Api :=
  if s.bUARTDebugNextFrame then s.send (.debug uiDebugByte) else s

/-- The debug byte and the response of a reader that gives up. -/
def reject (s : Api) (uiDebugByte uiErrorCode : UInt8) : Api :=
  (s.vSendUARTDebugByte uiDebugByte).send (.response PC_UART_PROTOCOL_NACK uiErrorCode)

/-- The answer to a request of one byte. -/
def request (s : Api) (uiByte : UInt8) : Api :=
  if uiByte = 0x3F then s.send (.direct 0x21)
  else if uiByte = 0x44 then { s with bUARTDebugNextFrame := true }.send (.direct 0x64)
  else if s.pfADCDataRequestCallback then { s with adcRequests := s.adcRequests + 1 }
  else s

end Api

/-- `uiSOFIndex` after one more byte. -/
def nextSOFIndex (uiSOFIndex : Nat) (uiByte : UInt8) : Nat :=
  if uiByte = uiaSOF.getD uiSOFIndex 0 then uiSOFIndex + 1
  else if uiByte = uiaSOF.getD 0 0 then 1 else 0

/-- The search of the start sequence: the input behind it, or `none` when the
search goes on. -/
def readSOF : (uiSOFIndex : Nat) → List Rx → Api → Option (List Rx) × Api
  | _, [], s => (none, s)
  | uiSOFIndex, .timeOut :: rx, s => readSOF uiSOFIndex rx s
  | uiSOFIndex, .byte uiByte :: rx, s =>
      if isRequest uiByte then readSOF uiSOFIndex rx (s.request uiByte)
      else if nextSOFIndex uiSOFIndex uiByte < uiaSOF.length then
        readSOF (nextSOFIndex uiSOFIndex uiByte) rx s
      else (some rx, s)

/-- The result of a call of the reader; `rx` is the input behind it. -/
inductive Read (α : Type) where
  | done (a : α) (rx : List Rx)
  | failed (rx : List Rx)
  /-- The input is used up. -/
  | waiting
  deriving DecidableEq, Repr

/-- `bRead_UARTBytesWithTimeout`. -/
def bReadUARTBytesWithTimeout : (uiLen : Nat) → List Rx → Read (List UInt8)
  | 0, rx => .done [] rx
  | _ + 1, [] => .waiting
  | _ + 1, .timeOut :: rx => .failed rx
  | uiLen + 1, .byte uiByte :: rx =>
      match bReadUARTBytesWithTimeout uiLen rx with
      | .done bytes rx => .done (uiByte :: bytes) rx
      | .failed rx => .failed rx
      | .waiting => .waiting

/-- The fields that `bRead_UARTFrame` returns. -/
structure ReceivedFrame where
  uiCommand : UInt8
  uiSeq : UInt16
  puiPayload : List UInt8
  deriving DecidableEq, Repr

/-- The reading of the CRC, and its check. -/
def readCRC (uiaHeaderTail puiPayload : List UInt8) (rx : List Rx) (s : Api) :
    Read ReceivedFrame × Api :=
  match bReadUARTBytesWithTimeout 2 rx with
  | .waiting => (.waiting, s)
  | .failed rx => (.failed rx, s.reject 0x74 ePC_UART_Error_InvalidLength)
  | .done uiaCRC rx =>
      let s := s.vSendUARTDebugByte 0x54
      if u16ReadBigEndian uiaCRC 0 ≠ frameCRC uiaHeaderTail puiPayload then
        (.failed rx, s.reject 0x63 ePC_UART_Error_FrameCRCMismatch)
      else
        (.done
          { uiCommand := byteAt uiaHeaderTail 1
            uiSeq := u16ReadBigEndian uiaHeaderTail 2
            puiPayload } rx,
          s.vSendUARTDebugByte 0x43)

/-- The reading of the payload, and what follows it. -/
def readPayload (uiaHeaderTail : List UInt8) (rx : List Rx) (s : Api) : Read ReceivedFrame × Api :=
  let uiPayloadLen := (u16ReadBigEndian uiaHeaderTail 4).toNat
  if uiPayloadLen > PC_UART_PROTOCOL_MAX_PAYLOAD_LENGTH then
    (.failed rx, s.reject 0x6C ePC_UART_Error_InvalidLength)
  else
    match bReadUARTBytesWithTimeout uiPayloadLen rx with
    | .waiting => (.waiting, s)
    | .failed rx => (.failed rx, s.reject 0x70 ePC_UART_Error_InvalidLength)
    | .done puiPayload rx => readCRC uiaHeaderTail puiPayload rx (s.vSendUARTDebugByte 0x50)

/-- The reading of the header behind the start sequence, and what follows it. -/
def readHeaderTail (rx : List Rx) (s : Api) : Read ReceivedFrame × Api :=
  match bReadUARTBytesWithTimeout (PC_UART_PROTOCOL_HEADER_LENGTH - uiaSOF.length) rx with
  | .waiting => (.waiting, s)
  | .failed rx => (.failed rx, s.reject 0x68 ePC_UART_Error_InvalidLength)
  | .done uiaHeaderTail rx =>
      let s := s.vSendUARTDebugByte 0x48
      if byteAt uiaHeaderTail 0 ≠ PC_UART_PROTOCOL_VERSION then
        (.failed rx, s.reject 0x76 ePC_UART_Error_InvalidVersion)
      else readPayload uiaHeaderTail rx s

/-- `bRead_UARTFrame`. -/
def bReadUARTFrame (rx : List Rx) (s : Api) : Read ReceivedFrame × Api :=
  match readSOF 0 rx s with
  | (none, s) => (.waiting, s)
  | (some rx, s) => readHeaderTail rx (s.vSendUARTDebugByte 0x53)

/-! ## §4. Big-endian fields. -/

theorem u16ReadBigEndian_toNat (p : List UInt8) (i : Nat) :
    (u16ReadBigEndian p i).toNat = (byteAt p i).toNat * 256 + (byteAt p (i + 1)).toNat := by
  have hhigh := (byteAt p i).toNat_lt
  have hlow := (byteAt p (i + 1)).toNat_lt
  unfold u16ReadBigEndian
  simp only [UInt16.toNat_or, UInt16.toNat_shiftLeft, UInt8.toNat_toUInt16]
  show (byteAt p i).toNat <<< 8 % 65536 ||| (byteAt p (i + 1)).toNat = _
  rw [Nat.mod_eq_of_lt (by rw [Nat.shiftLeft_eq]; omega), ← Nat.shiftLeft_add_eq_or_of_lt hlow,
    Nat.shiftLeft_eq]

theorem highByte_toNat (x : UInt16) : (x >>> 8).toUInt8.toNat = x.toNat / 256 := by
  have hlt := x.toNat_lt
  rw [UInt16.toNat_toUInt8, UInt16.toNat_shiftRight]
  show x.toNat >>> 8 % 256 = _
  rw [Nat.shiftRight_eq_div_pow]
  omega

theorem lowByte_toNat (x : UInt16) : x.toUInt8.toNat = x.toNat % 256 := UInt16.toNat_toUInt8 x

/-- A field holds `x` when its bytes are those of `x`. -/
theorem u16ReadBigEndian_eq_iff (p : List UInt8) (i : Nat) (x : UInt16) :
    u16ReadBigEndian p i = x ↔ byteAt p i = (x >>> 8).toUInt8 ∧ byteAt p (i + 1) = x.toUInt8 := by
  have hhigh := (byteAt p i).toNat_lt
  have hlow := (byteAt p (i + 1)).toNat_lt
  rw [← UInt16.toNat_inj, ← UInt8.toNat_inj, ← UInt8.toNat_inj, u16ReadBigEndian_toNat,
    highByte_toNat, lowByte_toNat]
  omega

/-! ## §5. The search of the start sequence. -/

theorem nextSOFIndex_eq {uiSOFIndex : Nat} (h : uiSOFIndex < blup.length) (uiByte : UInt8) :
    nextSOFIndex uiSOFIndex uiByte = blup.advance uiSOFIndex uiByte := by
  have hget : blup.symbols[uiSOFIndex]? = some (uiaSOF.getD uiSOFIndex 0) := by
    have hlt : uiSOFIndex < uiaSOF.length := h
    rw [blup_symbols, List.getD_eq_getElem?_getD, List.getElem?_eq_getElem hlt]
    rfl
  unfold nextSOFIndex StartSequence.advance
  rw [hget]
  by_cases hgoes : uiByte = uiaSOF.getD uiSOFIndex 0
  · rw [if_pos hgoes, if_pos (congrArg some hgoes.symm)]
  · rw [if_neg hgoes, if_neg fun h => hgoes (Option.some.inj h).symm]
    rfl

/-- The bytes that count in the search of the start sequence. -/
def searched (bytes : List UInt8) : List UInt8 := bytes.filter fun uiByte => !isRequest uiByte

theorem searched_append (xs ys : List UInt8) :
    searched (xs ++ ys) = searched xs ++ searched ys := List.filter_append xs ys

theorem searched_uiaSOF : searched uiaSOF = uiaSOF := rfl

/-- The bytes of an input. -/
def bytesOf (rx : List Rx) : List UInt8 :=
  rx.filterMap fun r => match r with
    | .byte uiByte => some uiByte
    | .timeOut => none

/-- Bytes without a time out. -/
def received (bytes : List UInt8) : List Rx := bytes.map .byte

theorem received_append (xs ys : List UInt8) :
    received (xs ++ ys) = received xs ++ received ys := List.map_append

theorem bytesOf_append (xs ys : List Rx) : bytesOf (xs ++ ys) = bytesOf xs ++ bytesOf ys :=
  List.filterMap_append

@[simp] theorem bytesOf_received (bytes : List UInt8) : bytesOf (received bytes) = bytes := by
  unfold bytesOf received
  rw [List.filterMap_map]
  exact List.filterMap_some

/-- Noise that does not contain the start sequence leaves the search on. -/
theorem readSOF_noise {xs noise : List UInt8} {uiSOFIndex : Nat}
    (h : blup.Progress xs uiSOFIndex) (hi : uiSOFIndex < blup.length)
    (hnoise : ¬ uiaSOF <:+: xs ++ searched noise) (s : Api) :
    ∃ i s', i < blup.length ∧
      ∀ rx, readSOF uiSOFIndex (received noise ++ rx) s = readSOF i rx s' := by
  induction noise generalizing xs uiSOFIndex s with
  | nil => exact ⟨uiSOFIndex, s, hi, fun _ => rfl⟩
  | cons uiByte noise ih =>
      by_cases hreq : isRequest uiByte = true
      · have hsame : searched (uiByte :: noise) = searched noise := by
          unfold searched
          rw [List.filter_cons_of_neg (by simp [hreq])]
        rw [hsame] at hnoise
        obtain ⟨i, s', hi', heq⟩ := ih h hi hnoise (s.request uiByte)
        exact ⟨i, s', hi', fun rx => (if_pos hreq).trans (heq rx)⟩
      have hnext : searched (uiByte :: noise) = uiByte :: searched noise := by
        unfold searched
        rw [List.filter_cons_of_pos (by simp [hreq])]
      have hstep := h.advance hi uiByte
      rw [hnext, List.append_cons] at hnoise
      -- the sequence is not complete, or the noise would contain it
      have hlt : blup.advance uiSOFIndex uiByte < blup.length := by
        refine lt_of_le_of_ne hstep.le fun hend => hnoise ?_
        have hsuffix := hstep.complete_iff.mp hend
        exact hsuffix.isInfix.trans (List.prefix_append _ _).isInfix
      obtain ⟨i, s', hi', heq⟩ := ih hstep hlt hnoise s
      refine ⟨i, s', hi', fun rx => ?_⟩
      refine (if_neg hreq).trans ?_
      rw [nextSOFIndex_eq hi]
      exact (if_pos hlt).trans (heq rx)

/-- The start sequence is found wherever the search stands. -/
theorem readSOF_uiaSOF {uiSOFIndex : Nat} (hi : uiSOFIndex < blup.length) (rx : List Rx) (s : Api) :
    readSOF uiSOFIndex (received uiaSOF ++ rx) s = (some rx, s) := by
  have hcases : uiSOFIndex = 0 ∨ uiSOFIndex = 1 ∨ uiSOFIndex = 2 ∨ uiSOFIndex = 3 := by
    have : uiSOFIndex < 4 := hi
    omega
  rcases hcases with rfl | rfl | rfl | rfl <;> rfl

/-- What the search has used up when it ends. -/
theorem readSOF_found {xs : List UInt8} {uiSOFIndex : Nat} {rx rest : List Rx} {s s' : Api}
    (h : blup.Progress xs uiSOFIndex) (hi : uiSOFIndex < blup.length)
    (hfound : readSOF uiSOFIndex rx s = (some rest, s')) :
    ∃ used, rx = used ++ rest ∧ uiaSOF <:+ xs ++ searched (bytesOf used) := by
  induction rx generalizing xs uiSOFIndex s with
  | nil => cases hfound
  | cons r rx ih =>
      cases r with
      | timeOut =>
          obtain ⟨used, rfl, hs⟩ := ih h hi hfound
          exact ⟨.timeOut :: used, rfl, hs⟩
      | byte uiByte =>
          unfold readSOF at hfound
          by_cases hreq : isRequest uiByte = true
          · rw [if_pos hreq] at hfound
            obtain ⟨used, rfl, hs⟩ := ih h hi hfound
            refine ⟨.byte uiByte :: used, rfl, ?_⟩
            have hsame : searched (bytesOf (.byte uiByte :: used)) = searched (bytesOf used) :=
              List.filter_cons_of_neg (by simp [hreq])
            rw [hsame]
            exact hs
          rw [if_neg hreq, nextSOFIndex_eq hi] at hfound
          have hstep := h.advance hi uiByte
          have hnext : ∀ used, searched (bytesOf (.byte uiByte :: used))
              = uiByte :: searched (bytesOf used) := fun used =>
            List.filter_cons_of_pos (by simp [hreq])
          by_cases hlt : blup.advance uiSOFIndex uiByte < uiaSOF.length
          · rw [if_pos hlt] at hfound
            obtain ⟨used, rfl, hs⟩ := ih hstep hlt hfound
            refine ⟨.byte uiByte :: used, rfl, ?_⟩
            rw [hnext, List.append_cons]
            exact hs
          · rw [if_neg hlt] at hfound
            cases hfound
            refine ⟨[.byte uiByte], rfl, ?_⟩
            rw [hnext]
            exact hstep.complete_iff.mp (Nat.le_antisymm hstep.le (Nat.not_lt.mp hlt))

/-! ## §6. The rest of a frame. -/

/-- The bytes are there. -/
theorem bReadUARTBytesWithTimeout_received (bytes : List UInt8) (rx : List Rx) :
    bReadUARTBytesWithTimeout bytes.length (received bytes ++ rx) = .done bytes rx := by
  induction bytes with
  | nil => rfl
  | cons uiByte bytes ih =>
      show (match bReadUARTBytesWithTimeout bytes.length (received bytes ++ rx) with
        | .done bytes rx => Read.done (uiByte :: bytes) rx
        | .failed rx => .failed rx
        | .waiting => .waiting) = _
      rw [ih]

/-- The bytes have been there. -/
theorem bReadUARTBytesWithTimeout_done {uiLen : Nat} {rx rest : List Rx} {bytes : List UInt8}
    (h : bReadUARTBytesWithTimeout uiLen rx = .done bytes rest) :
    rx = received bytes ++ rest ∧ bytes.length = uiLen := by
  induction uiLen generalizing rx bytes with
  | zero =>
      cases h
      exact ⟨rfl, rfl⟩
  | succ uiLen ih =>
      cases rx with
      | nil => cases h
      | cons r rx =>
          cases r with
          | timeOut => cases h
          | byte uiByte =>
              unfold bReadUARTBytesWithTimeout at h
              cases hrest : bReadUARTBytesWithTimeout uiLen rx with
              | waiting =>
                  rw [hrest] at h
                  cases h
              | failed rx' =>
                  rw [hrest] at h
                  cases h
              | done bytes' rx' =>
                  rw [hrest] at h
                  cases h
                  obtain ⟨rfl, hlen⟩ := ih hrest
                  exact ⟨rfl, congrArg (· + 1) hlen⟩

/-- A frame behind its start sequence is read. -/
theorem readHeaderTail_frameTail (uiCommand : UInt8) (uiSeq : UInt16) {puiPayload : List UInt8}
    (hlen : puiPayload.length ≤ PC_UART_PROTOCOL_MAX_PAYLOAD_LENGTH) (rx : List Rx) (s : Api) :
    ∃ s', readHeaderTail (received (frameTail uiCommand uiSeq puiPayload) ++ rx) s
      = (.done ⟨uiCommand, uiSeq, puiPayload⟩ rx, s') := by
  have hseq : u16ReadBigEndian (headerTail uiCommand uiSeq puiPayload.length) 2 = uiSeq :=
    (u16ReadBigEndian_eq_iff _ _ _).mpr ⟨rfl, rfl⟩
  have hsize : (u16ReadBigEndian (headerTail uiCommand uiSeq puiPayload.length) 4).toNat
      = puiPayload.length := by
    have hle : puiPayload.length ≤ 264 := hlen
    rw [u16ReadBigEndian_toNat]
    show (UInt8.ofNat _).toNat * 256 + (UInt8.ofNat _).toNat = _
    rw [UInt8.toNat_ofNat', UInt8.toNat_ofNat']
    omega
  have hcrc : ∀ x : UInt16, u16ReadBigEndian [(x >>> 8).toUInt8, x.toUInt8] 0 = x := fun x =>
    (u16ReadBigEndian_eq_iff _ _ _).mpr ⟨rfl, rfl⟩
  unfold frameTail
  dsimp only
  rw [received_append, received_append, List.append_assoc, List.append_assoc]
  generalize hheader : headerTail uiCommand uiSeq puiPayload.length = uiaHeaderTail at hseq hsize ⊢
  have hsix : uiaHeaderTail.length = 6 := by rw [← hheader]; rfl
  have hcommand : byteAt uiaHeaderTail 1 = uiCommand := by rw [← hheader]; rfl
  have hversion : byteAt uiaHeaderTail 0 = PC_UART_PROTOCOL_VERSION := by rw [← hheader]; rfl
  unfold readHeaderTail
  rw [show PC_UART_PROTOCOL_HEADER_LENGTH - uiaSOF.length = uiaHeaderTail.length from hsix.symm,
    bReadUARTBytesWithTimeout_received]
  simp only [hversion, ne_eq, not_true_eq_false, if_false]
  unfold readPayload
  dsimp only
  rw [hsize, if_neg (Nat.not_lt.mpr hlen), bReadUARTBytesWithTimeout_received]
  dsimp only
  unfold readCRC
  generalize frameCRC uiaHeaderTail puiPayload = uiCRC
  have hread : bReadUARTBytesWithTimeout 2 (received [(uiCRC >>> 8).toUInt8, uiCRC.toUInt8] ++ rx)
      = .done [(uiCRC >>> 8).toUInt8, uiCRC.toUInt8] rx :=
    bReadUARTBytesWithTimeout_received [(uiCRC >>> 8).toUInt8, uiCRC.toUInt8] rx
  rw [hread]
  dsimp only
  rw [hcrc, hseq, hcommand, if_neg (not_not.mpr rfl)]
  exact ⟨_, rfl⟩

/-- A list of six bytes. -/
theorem eq_of_length_six {p : List UInt8} (h : p.length = 6) :
    p = [byteAt p 0, byteAt p 1, byteAt p 2, byteAt p 3, byteAt p 4, byteAt p 5] := by
  match p, h with
  | [_, _, _, _, _, _], _ => rfl

theorem eq_of_length_two {p : List UInt8} (h : p.length = 2) : p = [byteAt p 0, byteAt p 1] := by
  match p, h with
  | [_, _], _ => rfl

/-- A header with the right version is that of its fields. -/
theorem eq_headerTail {uiaHeaderTail : List UInt8} (hsix : uiaHeaderTail.length = 6)
    (hversion : byteAt uiaHeaderTail 0 = PC_UART_PROTOCOL_VERSION) :
    uiaHeaderTail = headerTail (byteAt uiaHeaderTail 1) (u16ReadBigEndian uiaHeaderTail 2)
      (u16ReadBigEndian uiaHeaderTail 4).toNat := by
  obtain ⟨hseq₁, hseq₂⟩ := (u16ReadBigEndian_eq_iff uiaHeaderTail 2 _).mp rfl
  have hsize : (u16ReadBigEndian uiaHeaderTail 4).toNat
      = (byteAt uiaHeaderTail 4).toNat * 256 + (byteAt uiaHeaderTail 5).toNat :=
    u16ReadBigEndian_toNat uiaHeaderTail 4
  have hhigh := (byteAt uiaHeaderTail 4).toNat_lt
  have hlow := (byteAt uiaHeaderTail 5).toNat_lt
  have hlen₁ : byteAt uiaHeaderTail 4
      = UInt8.ofNat ((u16ReadBigEndian uiaHeaderTail 4).toNat / 256) := by
    rw [← UInt8.toNat_inj, UInt8.toNat_ofNat', hsize]
    omega
  have hlen₂ : byteAt uiaHeaderTail 5
      = UInt8.ofNat (u16ReadBigEndian uiaHeaderTail 4).toNat := by
    rw [← UInt8.toNat_inj, UInt8.toNat_ofNat', hsize]
    omega
  unfold headerTail
  rw [← hversion, ← hseq₁, ← hseq₂, ← hlen₁, ← hlen₂]
  exact eq_of_length_six hsix

/-- What has been read behind a start sequence is a frame with a payload
within the limit. -/
theorem readHeaderTail_received {rx rest : List Rx} {s s' : Api} {f : ReceivedFrame}
    (h : readHeaderTail rx s = (.done f rest, s')) :
    rx = received (frameTail f.uiCommand f.uiSeq f.puiPayload) ++ rest ∧
      f.puiPayload.length ≤ PC_UART_PROTOCOL_MAX_PAYLOAD_LENGTH := by
  -- each read takes its bytes from the wire, and each check keeps its field
  unfold readHeaderTail at h
  cases hheader : bReadUARTBytesWithTimeout (PC_UART_PROTOCOL_HEADER_LENGTH - uiaSOF.length) rx with
  | waiting | failed rx₁ =>
      rw [hheader] at h
      cases h
  | done uiaHeaderTail rx₁ =>
  rw [hheader] at h
  dsimp only at h
  split at h
  · cases h
  next hversion =>
  unfold readPayload at h
  dsimp only at h
  split at h
  · cases h
  next hlimit =>
  cases hpayload : bReadUARTBytesWithTimeout (u16ReadBigEndian uiaHeaderTail 4).toNat rx₁ with
  | waiting | failed rx₂ =>
      rw [hpayload] at h
      cases h
  | done puiPayload rx₂ =>
  rw [hpayload] at h
  dsimp only at h
  unfold readCRC at h
  cases hcrc : bReadUARTBytesWithTimeout 2 rx₂ with
  | waiting | failed rx₃ =>
      rw [hcrc] at h
      cases h
  | done uiaCRC rx₃ =>
  rw [hcrc] at h
  dsimp only at h
  split at h
  · cases h
  next hmatch =>
  cases h
  -- the three reads together are the frame behind its start sequence
  obtain ⟨rfl, hsix⟩ := bReadUARTBytesWithTimeout_done hheader
  obtain ⟨rfl, hsize⟩ := bReadUARTBytesWithTimeout_done hpayload
  obtain ⟨rfl, htwo⟩ := bReadUARTBytesWithTimeout_done hcrc
  refine ⟨?_, ?_⟩
  · have hheader := eq_headerTail hsix (not_not.mp hversion)
    obtain ⟨hcrc₁, hcrc₂⟩ := (u16ReadBigEndian_eq_iff uiaCRC 0 _).mp (not_not.mp hmatch)
    unfold frameTail
    dsimp only
    rw [hsize, ← hheader, ← hcrc₁, ← hcrc₂, ← eq_of_length_two htwo, received_append,
      received_append, List.append_assoc, List.append_assoc]
  · rw [hsize]
    exact Nat.not_lt.mp hlimit

/-! ## §7. Frames. -/

/-- **A frame is read** after any noise that does not contain the start
sequence, and nothing behind it is used up. -/
theorem bReadUARTFrame_frame (uiCommand : UInt8) (uiSeq : UInt16) {noise puiPayload : List UInt8}
    (hlen : puiPayload.length ≤ PC_UART_PROTOCOL_MAX_PAYLOAD_LENGTH)
    (hnoise : ¬ uiaSOF <:+: searched noise) (rx : List Rx) (s : Api) :
    ∃ s', bReadUARTFrame (received (noise ++ uartFrame uiCommand uiSeq puiPayload) ++ rx) s
      = (.done ⟨uiCommand, uiSeq, puiPayload⟩ rx, s') := by
  have hnone : ¬ uiaSOF <:+: [] ++ searched noise := by
    rw [List.nil_append]
    exact hnoise
  obtain ⟨i, s₁, hi, hsearch⟩ := readSOF_noise (.nil blup) blup.length_pos hnone s
  obtain ⟨s₂, htail⟩ := readHeaderTail_frameTail uiCommand uiSeq hlen rx
    (s₁.vSendUARTDebugByte 0x53)
  have hsof : readSOF 0 (received (noise ++ uartFrame uiCommand uiSeq puiPayload) ++ rx) s
      = (some (received (frameTail uiCommand uiSeq puiPayload) ++ rx), s₁) := by
    unfold uartFrame
    rw [received_append, received_append, List.append_assoc, List.append_assoc, hsearch,
      readSOF_uiaSOF hi]
  refine ⟨s₂, ?_⟩
  unfold bReadUARTFrame
  rw [hsof]
  exact htail

/-- **What has been read is a frame**: the bytes up to the header end in the
start sequence, not counting the requests among them, and what follows is the
rest of the frame that is returned. -/
theorem bReadUARTFrame_received {rx rest : List Rx} {s s' : Api} {f : ReceivedFrame}
    (h : bReadUARTFrame rx s = (.done f rest, s')) :
    ∃ used, rx = used ++ received (frameTail f.uiCommand f.uiSeq f.puiPayload) ++ rest ∧
      uiaSOF <:+ searched (bytesOf used) ∧
      f.puiPayload.length ≤ PC_UART_PROTOCOL_MAX_PAYLOAD_LENGTH := by
  unfold bReadUARTFrame at h
  cases hsof : readSOF 0 rx s with
  | mk behind s₁ =>
      rw [hsof] at h
      cases behind with
      | none => cases h
      | some rx₁ =>
          obtain ⟨used, rfl, hs⟩ := readSOF_found (.nil blup) blup.length_pos hsof
          obtain ⟨rfl, hlen⟩ := readHeaderTail_received h
          exact ⟨used, (List.append_assoc _ _ _).symm, hs, hlen⟩

end WallController.PCUart
