/-
  WallController.Host.Framing
  ────────────────────────────────
  **FRAMES BETWEEN THE HOST TOOL AND THE CONTROLLER.**

  `build_uart_frame` of the host tool and `bPC_UART_API_SendFrame` of the
  firmware build the same bytes, and the reader of the firmware gets back what
  was put in, whatever noise comes first (`uart_frame_round_trip`).

  The three requests of one byte are taken out of the stream before the start
  sequence is searched, so they may stand inside of it: what has been read is
  then a frame only without them (`request_inside_start_sequence`).
-/
import WallController.Host.BulkFile
import WallController.PCUart.Framing

namespace WallController.Host

open WallController.Lib WallController.PCUart

/-! ## §1. The frames of the host tool. -/

def UART_SOF : List UInt8 := [0x42, 0x4C, 0x55, 0x50]
def UART_VERSION : Nat := 1

/-- `build_uart_frame`; `none` where `struct.pack` raises. -/
def buildUartFrame (command sequence : Nat) (payload : List UInt8) : Option (List UInt8) :=
  if command > 0xFF ∨ sequence > 0xFFFF ∨ payload.length > 0xFFFF then none
  else
    let header := UART_SOF ++ (packBE 1 UART_VERSION ++ packBE 1 command ++ packBE 2 sequence
      ++ packBE 2 payload.length)
    some (header ++ payload ++ packBE 2 (crc16 (header.drop 4 ++ payload)))

/-- The two bytes of a word. -/
theorem packBE_two_toNat (x : UInt16) : packBE 2 x.toNat = [(x >>> 8).toUInt8, x.toUInt8] := by
  have hhigh : UInt8.ofNat (x.toNat / 256) = (x >>> 8).toUInt8 := by
    have hlt := x.toNat_lt
    rw [← UInt8.toNat_inj, UInt8.toNat_ofNat', highByte_toNat]
    omega
  have hlow : UInt8.ofNat x.toNat = x.toUInt8 := by
    rw [← UInt8.toNat_inj, UInt8.toNat_ofNat', lowByte_toNat]
  rw [packBE_two, hhigh, hlow]

/-- **The host tool and the firmware build the same frame.** -/
theorem buildUartFrame_eq (uiCommand : UInt8) (uiSeq : UInt16) {puiPayload : List UInt8}
    (hlen : puiPayload.length ≤ 0xFFFF) :
    buildUartFrame uiCommand.toNat uiSeq.toNat puiPayload
      = some (uartFrame uiCommand uiSeq puiPayload) := by
  have hcommand := uiCommand.toNat_lt
  have hseq := uiSeq.toNat_lt
  have hheader : packBE 1 UART_VERSION ++ packBE 1 uiCommand.toNat ++ packBE 2 uiSeq.toNat
      ++ packBE 2 puiPayload.length = headerTail uiCommand uiSeq puiPayload.length := by
    rw [packBE_two_toNat, packBE_two, packBE_one, packBE_one, UInt8.ofNat_toNat]
    rfl
  unfold buildUartFrame
  rw [if_neg (by omega)]
  dsimp only
  rw [hheader]
  generalize hh : headerTail uiCommand uiSeq puiPayload.length = header
  have hdrop : (UART_SOF ++ header).drop 4 = header := rfl
  rw [hdrop, crc16_eq, packBE_two_toNat, u16CRC16CCITTUpdate_append]
  unfold uartFrame frameTail frameCRC
  rw [hh]
  simp only [List.append_assoc]
  rfl

/-- The frame that the firmware sends. -/
theorem bPCUARTAPISendFrame_eq (uiCommand : UInt8) (uiSeq : UInt16) {puiPayload : List UInt8}
    (hlen : puiPayload.length ≤ PC_UART_PROTOCOL_MAX_PAYLOAD_LENGTH) :
    bPCUARTAPISendFrame ⟨true, uiSeq⟩ uiCommand (some puiPayload) puiPayload.length
      = (true, ⟨true, uiSeq + 1⟩, uartFrame uiCommand uiSeq puiPayload) := by
  unfold bPCUARTAPISendFrame
  rw [if_neg (by simpa using hlen)]
  simp only [Option.getD_some, List.take_length]

/-! ## §2. The round trip. -/

/-- **UART frame round trip.**  Both builders build the frame, and the reader
finds its fields behind any noise that does not contain the start sequence
once the requests are taken out of it.  And what the reader returns has been
received: the bytes before the header end in the start sequence once the
requests are taken out of them, and the rest of the frame follows. -/
theorem uart_frame_round_trip :
    (∀ (uiCommand : UInt8) (uiSeq : UInt16) (puiPayload : List UInt8),
      puiPayload.length ≤ PC_UART_PROTOCOL_MAX_PAYLOAD_LENGTH →
      ∃ frame, buildUartFrame uiCommand.toNat uiSeq.toNat puiPayload = some frame ∧
        (bPCUARTAPISendFrame ⟨true, uiSeq⟩ uiCommand (some puiPayload) puiPayload.length).2.2
          = frame ∧
        ∀ noise, ¬ uiaSOF <:+: searched noise → ∀ rx s, ∃ s',
          bReadUARTFrame (received (noise ++ frame) ++ rx) s
            = (.done ⟨uiCommand, uiSeq, puiPayload⟩ rx, s')) ∧
    ∀ rx rest s s' f, bReadUARTFrame rx s = (.done f rest, s') →
      ∃ used, rx = used ++ received (frameTail f.uiCommand f.uiSeq f.puiPayload) ++ rest ∧
        uiaSOF <:+ searched (bytesOf used) ∧
        f.puiPayload.length ≤ PC_UART_PROTOCOL_MAX_PAYLOAD_LENGTH := by
  constructor
  · intro uiCommand uiSeq puiPayload hlen
    have hle : puiPayload.length ≤ 0xFFFF := Nat.le_trans hlen (by decide)
    refine ⟨uartFrame uiCommand uiSeq puiPayload, buildUartFrame_eq uiCommand uiSeq hle, ?_, ?_⟩
    · rw [bPCUARTAPISendFrame_eq uiCommand uiSeq hlen]
    · intro noise hnoise rx s
      exact bReadUARTFrame_frame uiCommand uiSeq hlen hnoise rx s
  · intro rx rest s s' f h
    exact bReadUARTFrame_received h

/-- A frame whose payload looks like a start sequence and a request, behind a
broken start sequence with a request in it. -/
theorem uart_frame_round_trip_noisy :
    (∃ frame, buildUartFrame 2 7 [0x42, 0x4C, 0x55, 0x50, 0x3F] = some frame ∧
      ∃ s', bReadUARTFrame (received ([0x42, 0x3F, 0x4C, 0x42] ++ frame) ++ []) Api.boot
        = (.done ⟨2, 7, [0x42, 0x4C, 0x55, 0x50, 0x3F]⟩ [], s')) ∧
    ∃ used, received (uartFrame 2 7 []) = used ++ received (frameTail 2 7 []) ++ [] ∧
      uiaSOF <:+ searched (bytesOf used) ∧ 0 ≤ PC_UART_PROTOCOL_MAX_PAYLOAD_LENGTH := by
  constructor
  · obtain ⟨frame, hbuild, -, hread⟩ :=
      uart_frame_round_trip.1 2 7 [0x42, 0x4C, 0x55, 0x50, 0x3F] (by decide)
    exact ⟨frame, hbuild, hread _ (by decide) [] Api.boot⟩
  · exact uart_frame_round_trip.2 (received (uartFrame 2 7 [])) [] Api.boot Api.boot ⟨2, 7, []⟩
      (by decide +kernel)

/-- A request inside of the start sequence: the frame is read, and the bytes
received do not end in it. -/
theorem request_inside_start_sequence :
    ¬ ∀ rx rest s s' f, bReadUARTFrame rx s = (.done f rest, s') →
      ∃ used pre, rx = used ++ rest ∧
        bytesOf used = pre ++ uartFrame f.uiCommand f.uiSeq f.puiPayload := by
  intro h
  have hread : bReadUARTFrame (received ([0x42, 0x3F, 0x4C, 0x55, 0x50] ++ frameTail 2 0 []))
      Api.boot = (.done ⟨2, 0, []⟩ [], Api.boot.send (.direct 0x21)) := by decide +kernel
  obtain ⟨used, pre, hused, hpre⟩ := h _ _ _ _ _ hread
  rw [List.append_nil] at hused
  rw [← hused, bytesOf_received] at hpre
  have hsuffix : uartFrame 2 0 [] <:+ [0x42, 0x3F, 0x4C, 0x55, 0x50] ++ frameTail 2 0 [] :=
    ⟨pre, hpre.symm⟩
  exact absurd hsuffix (by decide +kernel)

end WallController.Host
