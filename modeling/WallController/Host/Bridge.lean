/-
  WallController.Host.Bridge
  ────────────────────────────────
  **THE HOST END OF THE UART (`BridgeClient`).**

  `fw_update_uart_gui.py`: the reading of responses and of frames.  `port` is
  all that the serial port will give; behind it every read runs into its time
  limit, and no read does before.

  Behind the first byte of a start sequence the client reads three bytes and
  compares them with the rest of the sequence.  If they are something else, it
  goes on behind them.

  Main results:
    * `framing_agrees_iff`: the client and the reader of the firmware find the
      same frame exactly when the reads of the client end where the noise ends.
    * `framing_disagrees`: a `B` before the frame.
-/
import WallController.Host.Framing

namespace WallController.Host

open WallController.Lib WallController.PCUart

/-! ## §1. The reads. -/

def UART_ACK : UInt8 := 0x06
def UART_NACK : UInt8 := 0x15

/-- A frame of the controller, as the client returns it. -/
structure SlaveFrame where
  command : UInt8
  sequence : Nat
  payload : List UInt8
  deriving DecidableEq, Repr

/-- `_read_exact`: what has come, and what is still to come. -/
def readExact (length : Nat) (port : List UInt8) : List UInt8 × List UInt8 :=
  (port.take length, port.drop length)

/-- `(hi << 8) | lo`. -/
def readWord (data : List UInt8) (i : Nat) : Nat :=
  (byteAt data i).toNat <<< 8 ||| (byteAt data (i + 1)).toNat

/-- `_read_uart_frame_after_sof_first_byte`, from the version on. -/
def readFrameFields (headerTail port : List UInt8) : Option SlaveFrame × List UInt8 :=
  if (byteAt headerTail 0).toNat ≠ UART_VERSION then (none, port)
  else
    let sequence := readWord headerTail 2
    let payloadLen := readWord headerTail 4
    let (payload, port) := readExact payloadLen port
    let (crcBytes, port) := readExact 2 port
    if payload.length ≠ payloadLen ∨ crcBytes.length ≠ 2 then (none, port)
    else if readWord crcBytes 0 ≠ crc16 (headerTail ++ payload) then (none, port)
    else (some ⟨byteAt headerTail 1, sequence, payload⟩, port)

/-- `_read_uart_frame_after_sof_first_byte`. -/
def readUartFrameAfterSofFirstByte (port : List UInt8) : Option SlaveFrame × List UInt8 :=
  let (sofTail, port) := readExact 3 port
  if sofTail ≠ [0x4C, 0x55, 0x50] then (none, port)
  else
    let (headerTail, port) := readExact 6 port
    if headerTail.length ≠ 6 then (none, port) else readFrameFields headerTail port

/-- What the client reads at one go: a status byte with the byte behind it, if
there is one; a frame, if it is one; or a byte of noise. -/
inductive Reading where
  | status (status : UInt8) (error : Option UInt8)
  | frame (frame : Option SlaveFrame)
  | noise (byte : UInt8)
  deriving DecidableEq, Repr

/-- What both loops of the client do with a byte. -/
def readNext : List UInt8 → Option (Reading × List UInt8)
  | [] => none
  | first :: port =>
      if first = UART_ACK ∨ first = UART_NACK then
        some (.status first port.head?, port.tail)
      else if first = 0x42 then
        let (frame, port) := readUartFrameAfterSofFirstByte port
        some (.frame frame, port)
      else some (.noise first, port)

theorem readNext_status {status : UInt8} (h : status = UART_ACK ∨ status = UART_NACK)
    (port : List UInt8) :
    readNext (status :: port) = some (.status status port.head?, port.tail) :=
  if_pos h

theorem readNext_first (port : List UInt8) :
    readNext (0x42 :: port) = some (.frame (readUartFrameAfterSofFirstByte port).1,
      (readUartFrameAfterSofFirstByte port).2) := rfl

theorem readNext_noise {byte : UInt8} (hstatus : ¬ (byte = UART_ACK ∨ byte = UART_NACK))
    (hfirst : byte ≠ 0x42) (port : List UInt8) :
    readNext (byte :: port) = some (.noise byte, port) :=
  (if_neg hstatus).trans (if_neg hfirst)

theorem readExact_length_le (length : Nat) (port : List UInt8) :
    (readExact length port).2.length ≤ port.length := by
  show (port.drop length).length ≤ port.length
  rw [List.length_drop]
  omega

theorem readFrameFields_length_le (headerTail port : List UInt8) :
    (readFrameFields headerTail port).2.length ≤ port.length := by
  unfold readFrameFields
  split
  · exact Nat.le_refl _
  dsimp only
  split
  · exact Nat.le_trans (readExact_length_le _ _) (readExact_length_le _ _)
  split <;> exact Nat.le_trans (readExact_length_le _ _) (readExact_length_le _ _)

theorem readUartFrame_length_le (port : List UInt8) :
    (readUartFrameAfterSofFirstByte port).2.length ≤ port.length := by
  unfold readUartFrameAfterSofFirstByte
  dsimp only
  split
  · exact readExact_length_le _ _
  split
  · exact Nat.le_trans (readExact_length_le _ _) (readExact_length_le _ _)
  · refine Nat.le_trans (readFrameFields_length_le _ _) ?_
    exact Nat.le_trans (readExact_length_le _ _) (readExact_length_le _ _)

/-- Every turn of a loop takes a byte. -/
theorem readNext_length_lt {port port' : List UInt8} {r : Reading}
    (h : readNext port = some (r, port')) : port'.length < port.length := by
  cases port with
  | nil => cases h
  | cons first port =>
      have htail : port.tail.length ≤ port.length := by
        rw [List.length_tail]
        omega
      by_cases hstatus : first = UART_ACK ∨ first = UART_NACK
      · rw [readNext_status hstatus] at h
        cases h
        exact Nat.lt_succ_of_le htail
      by_cases hfirst : first = 0x42
      · rw [hfirst, readNext_first] at h
        cases h
        exact Nat.lt_succ_of_le (readUartFrame_length_le port)
      · rw [readNext_noise hstatus hfirst] at h
        cases h
        exact Nat.lt_succ_self _

/-! ## §2. The client. -/

/-- `BridgeClient`; `port` is what the serial port will still give. -/
structure BridgeClient where
  sequence : Nat
  selectedOperation : Option Nat
  pendingSlaveFrames : List SlaveFrame
  port : List UInt8
  deriving DecidableEq, Repr

/-- `_read_bridge_response`. -/
def readBridgeResponse (command sequence : Nat) (c : BridgeClient) :
    Except String (UInt8 × UInt8) × BridgeClient :=
  match _h : readNext c.port with
  | none =>
      (.error ("Timeout waiting for bridge ACK: cmd=" ++ toString command ++ ", seq="
        ++ toString sequence), { c with port := [] })
  | some (.status status (some error), port) => (.ok (status, error), { c with port })
  | some (.status _ none, port) =>
      (.error ("Timeout waiting for bridge error byte: cmd=" ++ toString command ++ ", seq="
        ++ toString sequence), { c with port })
  | some (.frame frame, port) =>
      readBridgeResponse command sequence { c with
        port, pendingSlaveFrames := c.pendingSlaveFrames ++ frame.toList }
  | some (.noise _, port) => readBridgeResponse command sequence { c with port }
termination_by c.port.length
decreasing_by all_goals exact readNext_length_lt _h

/-- `wait_for_slave_frame`, from the loop on. -/
def waitLoop (expectedCommand : UInt8) (c : BridgeClient) : Option SlaveFrame × BridgeClient :=
  match _h : readNext c.port with
  | none => (none, { c with port := [] })
  | some (.frame (some frame), port) =>
      if frame.command = expectedCommand then (some frame, { c with port })
      else waitLoop expectedCommand { c with
        port, pendingSlaveFrames := c.pendingSlaveFrames ++ [frame] }
  | some (.frame none, port) => waitLoop expectedCommand { c with port }
  | some (.status _ _, port) => waitLoop expectedCommand { c with port }
  | some (.noise _, port) => waitLoop expectedCommand { c with port }
termination_by c.port.length
decreasing_by all_goals exact readNext_length_lt _h

/-- `wait_for_slave_frame`. -/
def waitForSlaveFrame (expectedCommand : UInt8) (c : BridgeClient) :
    Option SlaveFrame × BridgeClient :=
  match c.pendingSlaveFrames.find? (·.command = expectedCommand) with
  | some frame =>
      (some frame, { c with
        pendingSlaveFrames := c.pendingSlaveFrames.eraseP (·.command = expectedCommand) })
  | none => waitLoop expectedCommand c

/-! ## §3. What the loops pass over. -/

/-- Both loops go from one place of the input to another one, with nothing but
noise and broken frames between them. -/
inductive Skips : List UInt8 → List UInt8 → Prop
  | refl (port : List UInt8) : Skips port port
  | noise {port port' port'' : List UInt8} {byte : UInt8}
      (h : readNext port = some (.noise byte, port')) (hs : Skips port' port'') : Skips port port''
  | broken {port port' port'' : List UInt8}
      (h : readNext port = some (.frame none, port')) (hs : Skips port' port'') : Skips port port''

theorem Skips.trans {port port' port'' : List UInt8} (h : Skips port port')
    (h' : Skips port' port'') : Skips port port'' := by
  induction h with
  | refl port => exact h'
  | noise h _ ih => exact .noise h (ih h')
  | broken h _ ih => exact .broken h (ih h')

theorem readBridgeResponse_skips {port port' : List UInt8} (h : Skips port port')
    (command sequence : Nat) (c : BridgeClient) :
    readBridgeResponse command sequence { c with port := port }
      = readBridgeResponse command sequence { c with port := port' } := by
  induction h with
  | refl port => rfl
  | noise h _ ih =>
      rw [readBridgeResponse, ← ih]
      split <;> simp_all
  | broken h _ ih =>
      rw [readBridgeResponse, ← ih]
      split <;> simp_all

theorem waitLoop_skips {port port' : List UInt8} (h : Skips port port')
    (expectedCommand : UInt8) (c : BridgeClient) :
    waitLoop expectedCommand { c with port := port }
      = waitLoop expectedCommand { c with port := port' } := by
  induction h with
  | refl port => rfl
  | noise h _ ih =>
      rw [waitLoop, ← ih]
      split <;> simp_all
  | broken h _ ih =>
      rw [waitLoop, ← ih]
      split <;> simp_all

/-! ## §4. Noise. -/

/-- Bytes that are noise one by one. -/
theorem Skips.bytes {bytes : List UInt8}
    (h : ∀ byte ∈ bytes, ¬ (byte = UART_ACK ∨ byte = UART_NACK) ∧ byte ≠ 0x42)
    (port : List UInt8) : Skips (bytes ++ port) port := by
  induction bytes with
  | nil => exact .refl port
  | cons byte bytes ih =>
      obtain ⟨hstatus, hfirst⟩ := h byte List.mem_cons_self
      refine .noise (readNext_noise hstatus hfirst _) (ih ?_)
      intro b hb
      exact h b (List.mem_cons_of_mem _ hb)

/-- Three bytes that do not go on with the start sequence. -/
theorem Skips.block {port : List UInt8} (h : port.take 3 ≠ [0x4C, 0x55, 0x50]) :
    Skips (0x42 :: port) (port.drop 3) := by
  have hread : readUartFrameAfterSofFirstByte port = (none, port.drop 3) := by
    unfold readUartFrameAfterSofFirstByte
    exact if_pos h
  refine .broken ?_ (.refl _)
  rw [readNext_first, hread]

/-- The bytes of the start sequence behind the first one. -/
theorem Skips.rest {n : Nat} (hn : 0 < n) (tail : List UInt8) :
    Skips (uiaSOF.drop n ++ tail) tail := by
  apply Skips.bytes
  intro byte hbyte
  have hmem : byte ∈ uiaSOF.drop 1 := by
    obtain ⟨m, rfl⟩ : ∃ m, n = 1 + m := ⟨n - 1, by omega⟩
    rw [← List.drop_drop] at hbyte
    exact List.mem_of_mem_drop hbyte
  have hall : (uiaSOF.drop 1).all (fun byte => decide
      (¬ (byte = UART_ACK ∨ byte = UART_NACK) ∧ byte ≠ 0x42)) = true := by
    decide
  exact of_decide_eq_true (List.all_eq_true.mp hall byte hmem)

/-- **Noise**: the loops come to the start sequence behind it, or they read a
part of it along with the noise and come to what is behind. -/
theorem skips_noise {noise : List UInt8} (hnoise : ¬ uiaSOF <:+: noise)
    (hstatus : ∀ byte ∈ noise, ¬ (byte = UART_ACK ∨ byte = UART_NACK)) (tail : List UInt8) :
    Skips (noise ++ (uiaSOF ++ tail))
      (if blup.swallowed 0 noise = 0 then uiaSOF ++ tail else tail) := by
  generalize hlen : noise.length = n
  -- strong induction: a `B` of the noise takes the three bytes behind it along
  induction n using Nat.strongRecOn generalizing noise with
  | _ n ih =>
      cases noise with
      | nil => exact .refl _
      | cons byte noise =>
          have hshort : ∀ m, ¬ uiaSOF <:+: noise.drop m := by
            intro m hin
            exact hnoise (hin.trans ((List.drop_suffix m noise).isInfix.trans
              (List.suffix_cons byte noise).isInfix))
          have hbytes : ∀ m, ∀ b ∈ noise.drop m, ¬ (b = UART_ACK ∨ b = UART_NACK) := by
            intro m b hb
            exact hstatus b (List.mem_cons_of_mem _ (List.mem_of_mem_drop hb))
          rw [List.length_cons] at hlen
          by_cases hfirst : byte = 0x42
          · subst hfirst
            have hblock := Skips.block (blup.block_ne hnoise tail)
            have hswallowed : blup.swallowed 0 (0x42 :: noise) = blup.swallowed 3 noise := rfl
            rw [hswallowed]
            refine Skips.trans hblock ?_
            by_cases hthree : 3 ≤ noise.length
            · -- the block ends in the noise
              rw [StartSequence.swallowed_of_le hthree,
                show (noise ++ (blup.symbols ++ tail)).drop 3 = noise.drop 3 ++ (uiaSOF ++ tail) from
                  List.drop_append_of_le_length hthree]
              have hlt : (noise.drop 3).length < n := by
                rw [List.length_drop]
                omega
              exact ih _ hlt (hshort 3) (hbytes 3) rfl
            · -- the block ends in the start sequence
              have hlt : noise.length < 3 := Nat.not_le.mp hthree
              rw [StartSequence.swallowed_of_lt hlt, if_neg (by omega)]
              have hdrop : (noise ++ (uiaSOF ++ tail)).drop 3
                  = uiaSOF.drop (3 - noise.length) ++ tail := by
                rw [List.drop_append, List.drop_eq_nil_of_le (by omega), List.nil_append,
                  List.drop_append_of_le_length]
                exact Nat.le_trans (Nat.sub_le _ _) (by decide)
              show Skips ((noise ++ (uiaSOF ++ tail)).drop 3) tail
              rw [hdrop]
              exact Skips.rest (by omega) tail
          · have hswallowed : blup.swallowed 0 (byte :: noise) = blup.swallowed 0 noise :=
              if_neg hfirst
            rw [hswallowed]
            -- any other byte is read alone
            refine .noise (readNext_noise (hstatus byte List.mem_cons_self) hfirst _) ?_
            exact ih noise.length (by omega) (hshort 0) (hbytes 0) rfl

/-! ## §5. Frames. -/

/-- The frame of the firmware, on the host. -/
def SlaveFrame.of (f : ReceivedFrame) : SlaveFrame where
  command := f.uiCommand
  sequence := f.uiSeq.toNat
  payload := f.puiPayload

/-- The words of the host are the words of the firmware. -/
theorem readWord_eq (data : List UInt8) (i : Nat) :
    readWord data i = (u16ReadBigEndian data i).toNat := by
  unfold readWord
  rw [u16ReadBigEndian_toNat, shift_or _ (byteAt data (i + 1)).toNat_lt]
  rfl

/-- **A frame is read**, and nothing behind it. -/
theorem readUartFrame_frame (uiCommand : UInt8) (uiSeq : UInt16) {puiPayload : List UInt8}
    (hlen : puiPayload.length ≤ 0xFFFF) (rest : List UInt8) :
    readUartFrameAfterSofFirstByte
        ([0x4C, 0x55, 0x50] ++ (frameTail uiCommand uiSeq puiPayload ++ rest))
      = (some (SlaveFrame.of ⟨uiCommand, uiSeq, puiPayload⟩), rest) := by
  have hseq : readWord (headerTail uiCommand uiSeq puiPayload.length) 2 = uiSeq.toNat := by
    rw [readWord_eq, (u16ReadBigEndian_eq_iff _ _ uiSeq).mpr ⟨rfl, rfl⟩]
  have hsize : readWord (headerTail uiCommand uiSeq puiPayload.length) 4 = puiPayload.length := by
    rw [readWord_eq, u16ReadBigEndian_toNat]
    show (UInt8.ofNat _).toNat * 256 + (UInt8.ofNat _).toNat = _
    rw [UInt8.toNat_ofNat', UInt8.toNat_ofNat']
    omega
  have hcrc : ∀ x : UInt16, readWord [(x >>> 8).toUInt8, x.toUInt8] 0 = x.toNat := by
    intro x
    rw [readWord_eq, (u16ReadBigEndian_eq_iff _ _ x).mpr ⟨rfl, rfl⟩]
  have hexact : ∀ (data rest : List UInt8) (n : Nat), data.length = n →
      readExact n (data ++ rest) = (data, rest) := by
    rintro data rest _ rfl
    unfold readExact
    rw [List.take_left, List.drop_left]
  unfold readUartFrameAfterSofFirstByte
  rw [hexact [0x4C, 0x55, 0x50] _ 3 rfl]
  dsimp only
  rw [if_neg (not_not.mpr rfl)]
  unfold frameTail frameCRC
  dsimp only
  rw [List.append_assoc, List.append_assoc, ← u16CRC16CCITTUpdate_append]
  generalize hheader : headerTail uiCommand uiSeq puiPayload.length = uiaHeaderTail at hseq hsize ⊢
  have hsix : uiaHeaderTail.length = 6 := by rw [← hheader]; rfl
  have hcommand : byteAt uiaHeaderTail 1 = uiCommand := by rw [← hheader]; rfl
  have hversion : (byteAt uiaHeaderTail 0).toNat = UART_VERSION := by rw [← hheader]; rfl
  rw [hexact uiaHeaderTail _ 6 hsix]
  dsimp only
  rw [if_neg (not_not.mpr hsix)]
  unfold readFrameFields
  rw [if_neg (not_not.mpr hversion), hsize, hseq, hcommand]
  dsimp only
  rw [hexact puiPayload _ _ rfl]
  dsimp only
  rw [hexact [_, _] rest 2 rfl, crc16_eq]
  dsimp only
  rw [hcrc, if_neg (by simp), if_neg (not_not.mpr rfl)]
  rfl

/-- A frame takes as many bytes as it has. -/
theorem readFrameFields_length {headerTail port port' : List UInt8} {f : SlaveFrame}
    (h : readFrameFields headerTail port = (some f, port')) :
    f.payload.length + 2 ≤ port.length := by
  unfold readFrameFields readExact at h
  dsimp only at h
  split at h
  · cases h
  split at h
  · cases h
  next hread =>
  split at h
  · cases h
  cases h
  obtain ⟨hpayload, hcrc⟩ := not_or.mp hread
  have hpayload : _ = _ := not_not.mp hpayload
  have hcrc : _ = _ := not_not.mp hcrc
  rw [List.length_take, List.length_drop] at hcrc
  show (port.take _).length + 2 ≤ port.length
  rw [hpayload]
  omega

theorem readUartFrame_length {port port' : List UInt8} {f : SlaveFrame}
    (h : readUartFrameAfterSofFirstByte port = (some f, port')) :
    f.payload.length + 11 ≤ port.length := by
  unfold readUartFrameAfterSofFirstByte at h
  dsimp only [readExact] at h
  split at h
  · cases h
  split at h
  · cases h
  next hsix =>
  have hfields := readFrameFields_length h
  have hsix : ((port.drop 3).take 6).length = 6 := not_not.mp hsix
  rw [List.length_take, List.length_drop] at hsix
  rw [List.length_drop, List.length_drop] at hfields
  omega

theorem readNext_frame_length {port port' : List UInt8} {f : SlaveFrame}
    (h : readNext port = some (.frame (some f), port')) : f.payload.length + 12 ≤ port.length := by
  cases port with
  | nil => cases h
  | cons first port =>
      by_cases hstatus : first = UART_ACK ∨ first = UART_NACK
      · rw [readNext_status hstatus] at h
        cases h
      by_cases hfirst : first = 0x42
      · rw [hfirst, readNext_first] at h
        obtain ⟨hframe, -⟩ := Prod.mk.inj (Option.some.inj h)
        have hread : readUartFrameAfterSofFirstByte port
            = (some f, (readUartFrameAfterSofFirstByte port).2) :=
          Prod.ext (Reading.frame.inj hframe) rfl
        have hlen := readUartFrame_length hread
        rw [List.length_cons]
        omega
      · rw [readNext_noise hstatus hfirst] at h
        cases h

/-- So does a frame that the loop returns. -/
theorem waitLoop_length {expectedCommand : UInt8} {c c' : BridgeClient} {f : SlaveFrame}
    (h : waitLoop expectedCommand c = (some f, c')) : f.payload.length + 12 ≤ c.port.length := by
  fun_induction waitLoop expectedCommand c with
  | case1 c hread => cases h
  | case2 c frame port hread hcommand =>
      cases h
      exact readNext_frame_length hread
  | case3 c frame port hread hcommand ih =>
      exact Nat.le_trans (ih h) (Nat.le_of_lt (readNext_length_lt hread))
  | case4 c port hread ih => exact Nat.le_trans (ih h) (Nat.le_of_lt (readNext_length_lt hread))
  | case5 c status error port hread ih =>
      exact Nat.le_trans (ih h) (Nat.le_of_lt (readNext_length_lt hread))
  | case6 c byte port hread ih =>
      exact Nat.le_trans (ih h) (Nat.le_of_lt (readNext_length_lt hread))

/-! ## §6. The two ends. -/

/-- The loop at a frame it waits for. -/
theorem waitLoop_frame {port port' : List UInt8} {f : SlaveFrame}
    (h : readNext port = some (.frame (some f), port')) (c : BridgeClient) :
    waitLoop f.command { c with port := port } = (some f, { c with port := port' }) := by
  rw [waitLoop]
  split <;> simp_all

/-- The response behind a frame. -/
theorem readBridgeResponse_frame {port port' : List UInt8} {f : SlaveFrame}
    (h : readNext port = some (.frame (some f), port')) (command sequence : Nat)
    (c : BridgeClient) :
    readBridgeResponse command sequence { c with port := port }
      = readBridgeResponse command sequence { c with
          port := port', pendingSlaveFrames := c.pendingSlaveFrames ++ [f] } := by
  rw [readBridgeResponse]
  split <;> simp_all

theorem readBridgeResponse_status {status : UInt8} (h : status = UART_ACK ∨ status = UART_NACK)
    (error : UInt8) (port : List UInt8) (command sequence : Nat) (c : BridgeClient) :
    readBridgeResponse command sequence { c with port := status :: error :: port }
      = (.ok (status, error), { c with port := port }) := by
  have hread := readNext_status h (error :: port)
  rw [readBridgeResponse]
  split <;> simp_all

/-- The client and the reader of the firmware find the same frame behind the
noise; while it waits for a response, the client keeps the frame and goes on
to the response behind it. -/
def FramingAgrees (noise : List UInt8) (uiCommand : UInt8) (uiSeq : UInt16)
    (puiPayload : List UInt8) : Prop :=
  ∀ (s : Api) (c : BridgeClient), (∀ f ∈ c.pendingSlaveFrames, f.command ≠ uiCommand) →
    ∃ f s', bReadUARTFrame (received (noise ++ uartFrame uiCommand uiSeq puiPayload)) s
        = (.done f [], s') ∧
      waitForSlaveFrame uiCommand { c with
          port := noise ++ uartFrame uiCommand uiSeq puiPayload }
        = (some (SlaveFrame.of f), { c with port := [] }) ∧
      ∀ (command sequence : Nat) (status error : UInt8) (rest : List UInt8),
        status = UART_ACK ∨ status = UART_NACK →
        readBridgeResponse command sequence { c with
            port := noise ++ uartFrame uiCommand uiSeq puiPayload ++ status :: error :: rest }
          = (.ok (status, error), { c with
              port := rest, pendingSlaveFrames := c.pendingSlaveFrames ++ [SlaveFrame.of f] })

/-- The loop of a client without a frame that it waits for. -/
theorem waitForSlaveFrame_eq {c : BridgeClient} {expectedCommand : UInt8}
    (h : ∀ f ∈ c.pendingSlaveFrames, f.command ≠ expectedCommand) (port : List UInt8) :
    waitForSlaveFrame expectedCommand { c with port := port }
      = waitLoop expectedCommand { c with port := port } := by
  have hnone : c.pendingSlaveFrames.find? (·.command = expectedCommand) = none := by
    rw [List.find?_eq_none]
    intro f hf
    rw [decide_eq_true_eq]
    exact h f hf
  unfold waitForSlaveFrame
  dsimp only
  rw [hnone]

/-- The bytes before a frame: no start sequence, no status and no request. -/
structure IsNoise (noise : List UInt8) : Prop where
  start : ¬ uiaSOF <:+: noise
  status : ∀ byte ∈ noise, ¬ (byte = UART_ACK ∨ byte = UART_NACK)
  request : ∀ byte ∈ noise, isRequest byte = false

variable {noise puiPayload : List UInt8} {uiCommand : UInt8} {uiSeq : UInt16}

/-- Noise, as a check of its bytes. -/
theorem IsNoise.of_all (hstart : ¬ uiaSOF <:+: noise)
    (hbytes : noise.all (fun byte => decide (¬ (byte = UART_ACK ∨ byte = UART_NACK))
      && !isRequest byte) = true) : IsNoise noise := by
  have hall : ∀ byte ∈ noise, ¬ (byte = UART_ACK ∨ byte = UART_NACK) ∧ isRequest byte = false := by
    intro byte hbyte
    have hboth := List.all_eq_true.mp hbytes byte hbyte
    rw [Bool.and_eq_true, Bool.not_eq_true'] at hboth
    exact ⟨of_decide_eq_true hboth.1, hboth.2⟩
  exact ⟨hstart, fun byte hbyte => (hall byte hbyte).1, fun byte hbyte => (hall byte hbyte).2⟩

/-- The reader of the firmware finds the frame. -/
theorem IsNoise.firmware (h : IsNoise noise) (uiCommand : UInt8) (uiSeq : UInt16)
    (hlen : puiPayload.length ≤ PC_UART_PROTOCOL_MAX_PAYLOAD_LENGTH) (s : Api) :
    ∃ s', bReadUARTFrame (received (noise ++ uartFrame uiCommand uiSeq puiPayload)) s
      = (.done ⟨uiCommand, uiSeq, puiPayload⟩ [], s') := by
  have hsearched : searched noise = noise := by
    unfold searched
    rw [List.filter_eq_self]
    intro byte hbyte
    rw [h.request byte hbyte]
    rfl
  have hread := bReadUARTFrame_frame uiCommand uiSeq hlen (hsearched ▸ h.start) [] s
  rwa [List.append_nil] at hread

/-- The loops of the client behind the noise. -/
theorem IsNoise.skips (h : IsNoise noise) (uiCommand : UInt8) (uiSeq : UInt16)
    (puiPayload rest : List UInt8) :
    Skips (noise ++ uartFrame uiCommand uiSeq puiPayload ++ rest)
      (if blup.swallowed 0 noise = 0 then uartFrame uiCommand uiSeq puiPayload ++ rest
        else frameTail uiCommand uiSeq puiPayload ++ rest) := by
  have hskips := skips_noise h.start h.status (frameTail uiCommand uiSeq puiPayload ++ rest)
  unfold uartFrame
  rw [List.append_assoc, List.append_assoc]
  exact hskips

/-- The client finds the frame where it begins. -/
theorem readNext_uartFrame (hlen : puiPayload.length ≤ 0xFFFF) (rest : List UInt8) :
    readNext (uartFrame uiCommand uiSeq puiPayload ++ rest)
      = some (.frame (some (SlaveFrame.of ⟨uiCommand, uiSeq, puiPayload⟩)), rest) := by
  have hread := readUartFrame_frame uiCommand uiSeq hlen rest
  have hbytes : uartFrame uiCommand uiSeq puiPayload ++ rest
      = 0x42 :: ([0x4C, 0x55, 0x50] ++ (frameTail uiCommand uiSeq puiPayload ++ rest)) := rfl
  rw [hbytes, readNext_first, hread]

/-- The reads of the client end where the noise ends. -/
theorem FramingAgrees.of_swallowed (h : IsNoise noise)
    (hlen : puiPayload.length ≤ PC_UART_PROTOCOL_MAX_PAYLOAD_LENGTH)
    (hnone : blup.swallowed 0 noise = 0) : FramingAgrees noise uiCommand uiSeq puiPayload := by
  intro s c hpending
  have hle : puiPayload.length ≤ 0xFFFF := Nat.le_trans hlen (by decide)
  obtain ⟨s', hfirmware⟩ := h.firmware uiCommand uiSeq hlen s
  refine ⟨_, s', hfirmware, ?_, ?_⟩
  · have hskips := h.skips uiCommand uiSeq puiPayload []
    rw [if_pos hnone, List.append_nil] at hskips
    rw [waitForSlaveFrame_eq hpending, waitLoop_skips hskips]
    exact waitLoop_frame (readNext_uartFrame hle []) c
  · intro command sequence status error rest hstatus
    have hskips := h.skips uiCommand uiSeq puiPayload (status :: error :: rest)
    rw [if_pos hnone] at hskips
    rw [readBridgeResponse_skips hskips,
      readBridgeResponse_frame (readNext_uartFrame hle _)]
    exact readBridgeResponse_status hstatus error rest command sequence
      { c with pendingSlaveFrames := c.pendingSlaveFrames ++ [_] }

/-- The client has read a part of the start sequence: it does not return the
frame. -/
theorem FramingAgrees.swallowed (h : IsNoise noise)
    (hlen : puiPayload.length ≤ PC_UART_PROTOCOL_MAX_PAYLOAD_LENGTH)
    (hagrees : FramingAgrees noise uiCommand uiSeq puiPayload) :
    blup.swallowed 0 noise = 0 := by
  by_contra hsome
  have hpending : ∀ f ∈ ([] : List SlaveFrame), f.command ≠ uiCommand := by
    intro f hf
    cases hf
  obtain ⟨f, s', hread, hwait, -⟩ := hagrees Api.boot ⟨0, none, [], []⟩ hpending
  obtain ⟨s'', hfirmware⟩ := h.firmware uiCommand uiSeq hlen Api.boot
  rw [hfirmware] at hread
  cases hread
  have hskips := h.skips uiCommand uiSeq puiPayload []
  rw [if_neg hsome, List.append_nil, List.append_nil] at hskips
  have hloop := waitForSlaveFrame_eq (c := ⟨0, none, [], []⟩) hpending
  rw [hloop, waitLoop_skips hskips] at hwait
  have hlong := waitLoop_length hwait
  -- what is left is shorter than a frame with this payload
  have htail : (frameTail uiCommand uiSeq puiPayload).length = puiPayload.length + 8 := by
    unfold frameTail headerTail
    simp only [List.length_append, List.length_cons, List.length_nil]
    omega
  have hpayload : (SlaveFrame.of ⟨uiCommand, uiSeq, puiPayload⟩).payload = puiPayload := rfl
  rw [hpayload] at hlong
  dsimp only at hlong
  omega

/-- **The two ends agree** exactly when the reads of the client, of one byte
or of four from a `B` on, end where the noise ends. -/
theorem framing_agrees_iff (h : IsNoise noise)
    (hlen : puiPayload.length ≤ PC_UART_PROTOCOL_MAX_PAYLOAD_LENGTH) :
    FramingAgrees noise uiCommand uiSeq puiPayload ↔ blup.swallowed 0 noise = 0 :=
  ⟨FramingAgrees.swallowed h hlen, FramingAgrees.of_swallowed h hlen⟩

/-- Two starts that break off, one inside of the other: the client reads them
at one go. -/
theorem framing_agrees_iff_broken :
    FramingAgrees [0x42, 0x42, 0x4C, 0x55, 0x00] 2 7 [1] ↔
      blup.swallowed 0 [0x42, 0x42, 0x4C, 0x55, 0x00] = 0 :=
  framing_agrees_iff (.of_all (by decide) (by decide)) (by decide)

/-- A `B` before the frame: the client reads three bytes of the frame along
with it. -/
theorem framing_disagrees :
    ¬ ∀ (noise : List UInt8) (uiCommand : UInt8) (uiSeq : UInt16) (puiPayload : List UInt8),
      IsNoise noise → puiPayload.length ≤ PC_UART_PROTOCOL_MAX_PAYLOAD_LENGTH →
        FramingAgrees noise uiCommand uiSeq puiPayload := by
  intro h
  have hnoise : IsNoise [0x42] := .of_all (by decide) (by decide)
  have hlen : ([] : List UInt8).length ≤ PC_UART_PROTOCOL_MAX_PAYLOAD_LENGTH := by decide
  have hnone := FramingAgrees.swallowed hnoise hlen (h [0x42] 2 7 [] hnoise hlen)
  exact absurd hnone (by decide)

end WallController.Host
