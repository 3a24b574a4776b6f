/-
  WallController.Bootloader.Delivery
  ────────────────────────────────
  **WHAT THE HOST SENDS, AND WHAT ONE DELIVERED FRAME DOES.**

  After its update request the host sends packets and end announcements, and
  some of them are delivered, in any order and any number of times.  A
  `Delivery` is one delivered frame with the results of the calls made for it;
  `Schedule` is what a whole delivery must satisfy.

  The lemmas of the second half turn a delivered frame into the handler of its
  command.
-/
import WallController.Bootloader.Host
import WallController.Bootloader.Invariant

namespace WallController.Bootloader

open WallController.Lib

/-! ## §1. Deliveries. -/

/-- What the host sends between the update request and the reboot. -/
inductive Send where
  | packet (p : FirmwarePacket)
  | fwUpEnd
  deriving DecidableEq

namespace Send

/-- The command of a frame. -/
def cmd : Send → BootloaderCommand
  | packet _ => .fwUpMsg
  | fwUpEnd => .fwUpEnd

/-- The payload of a frame. -/
def payload : Send → List UInt8
  | packet p => p.payload
  | fwUpEnd => []

end Send

/-- No call fails. -/
structure Env.Succeeds (env : Env) : Prop where
  open_ : env.open_ = 0
  erase : env.erase = 0
  write : ∀ k, env.write k = 0
  read : ∀ k, env.read k = 0
  upgrade : ∀ k, env.upgrade k = 0

/-- One delivered frame. -/
structure Delivery where
  send : Send
  frame : CanFrame
  env : Env

/-- The event of a delivery. -/
def Delivery.event (d : Delivery) : Event × Env := (.frame d.frame, d.env)

/-- The frame carries what the host has sent, and no call fails. -/
structure Delivery.Sound (packets : List FirmwarePacket) (d : Delivery) : Prop where
  carries : Carries d.frame d.send.cmd d.send.payload
  host : ∀ p, d.send = .packet p → p ∈ packets
  succeeds : d.env.Succeeds

/-- How far the ids of the delivered packets have reached, and how many ids
have been skipped over on the way. -/
structure Progress where
  next : Nat
  skipped : Nat

/-- The progress after one more frame, for an image of `n` packets: a packet
skips the ids up to its own, an end announcement all that are left. -/
def Progress.send (n : Nat) (g : Progress) : Send → Progress
  | .packet p => { next := max g.next (p.packet_id + 1), skipped := g.skipped + (p.packet_id - g.next) }
  | .fwUpEnd => { next := max g.next n, skipped := g.skipped + (n - g.next) }

/-- The progress after some frames. -/
def progress (n : Nat) (sends : List Send) : Progress :=
  sends.foldl (Progress.send n) { next := 0, skipped := 0 }

/-- The deliveries of an update: every packet is delivered, the end is
announced only while a packet is missing, and at most as many ids are skipped
over as the lost list has room for. -/
structure Schedule (packets : List FirmwarePacket) (ds : List Delivery) : Prop where
  sound : ∀ d ∈ ds, d.Sound packets
  complete : ∀ p ∈ packets, Send.packet p ∈ ds.map (·.send)
  ends : ∀ pre d post, ds = pre ++ d :: post → d.send = .fwUpEnd →
    ∃ p ∈ packets, Send.packet p ∉ pre.map (·.send)
  few : (progress packets.length (ds.map (·.send))).skipped
    ≤ MAX_NUMBER_OF_ALLOWABLE_LOST_PACKETs

theorem progress_append (n : Nat) (pre post : List Send) :
    progress n (pre ++ post) = post.foldl (Progress.send n) (progress n pre) := by
  unfold progress
  rw [List.foldl_append]

theorem progress_concat (n : Nat) (sends : List Send) (x : Send) :
    progress n (sends ++ [x]) = (progress n sends).send n x := by
  rw [progress_append]
  rfl

/-- The count of skipped ids never goes back. -/
theorem skipped_le_append (n : Nat) (pre post : List Send) :
    (progress n pre).skipped ≤ (progress n (pre ++ post)).skipped := by
  rw [progress_append]
  generalize progress n pre = g
  induction post generalizing g with
  | nil => exact Nat.le_refl _
  | cons x post ih =>
      refine Nat.le_trans ?_ (ih (g.send n x))
      cases x <;> exact Nat.le_add_right _ _

/-- The progress stays within the image. -/
theorem progress_next_le {n : Nat} {sends : List Send}
    (h : ∀ p, Send.packet p ∈ sends → p.packet_id < n) : (progress n sends).next ≤ n := by
  induction sends using List.reverseRecOn with
  | nil => exact Nat.zero_le _
  | append_singleton sends x ih =>
      rw [progress_concat]
      have hpre := ih fun p hp => h p (List.mem_append_left _ hp)
      cases x with
      | packet p =>
          have hp := h p (List.mem_append_right _ (List.mem_singleton.mpr rfl))
          show max _ (p.packet_id + 1) ≤ n
          omega
      | fwUpEnd =>
          show max _ n ≤ n
          omega

/-! ## §2. From frames to handlers. -/

/-- The control message of a well-formed host frame. -/
def hostMsg (cmd : BootloaderCommand) (payload : List UInt8) : CtrlMsg where
  eCMD := cmd
  bIsMsgOk := true
  bIsACKReq := decide (cmd ≠ .fwUpMsg)
  eErrorCode := .none
  uiaData := payload

/-- The commands of an update. -/
def UpdateCommand (cmd : BootloaderCommand) (payload : List UInt8) : Prop :=
  (cmd = .fwUpReq ∧ payload.length = 10) ∨
    (cmd = .fwUpMsg ∧ payload.length = FW_IMG_PACKET_DATA_LENGTH) ∨
    (cmd = .fwUpEnd ∧ payload.length = 0)

/-- The message of a frame that carries a command of the host. -/
theorem vFormatBootloaderMsg_eq {f : CanFrame} {cmd : BootloaderCommand} {payload : List UInt8}
    (hc : Carries f cmd payload)
    (hrange : ¬ (cmd.toByte < BootloaderCommand.fwUpReq.toByte ∨ cmd.toByte ≥ 35))
    (hbyte : BootloaderCommand.ofByte cmd.toByte = cmd)
    (hexpected : bGetBootloaderExpectedPayloadLen cmd = some payload.length) :
    vFormatBootloaderMsg true f
      = vUpdateBtlMsgACKRequirement { CtrlMsg.zero with eCMD := cmd, uiaData := payload } := by
  have hfirst : f.data.getD 0 0 = cmd.toByte := by
    have hdata := hc.data
    cases hf : f.data with
    | nil =>
        rw [hf] at hdata
        cases hdata
    | cons x xs =>
        rw [hf, List.take_succ_cons] at hdata
        exact (List.cons.inj hdata).1
  have hrest : (f.data.drop 1).take payload.length = payload := by
    have hdrop := congrArg (List.drop 1) hc.data
    rwa [List.drop_take, Nat.add_sub_cancel] at hdrop
  have hroom := hc.room
  have hpos : ¬ canDlcToBytes f.dlc < 1 := by omega
  have hlen : ¬ canDlcToBytes f.dlc - 1 < payload.length := by omega
  unfold vFormatBootloaderMsg
  simp only [Bool.not_true, Bool.false_eq_true, if_false, if_neg hpos, hfirst, hbyte,
    if_neg hrange, hexpected, if_neg hlen, hrest]

theorem vFormatBootloaderMsg_carries {f : CanFrame} {cmd : BootloaderCommand}
    {payload : List UInt8} (hc : Carries f cmd payload) (hcmd : UpdateCommand cmd payload) :
    vFormatBootloaderMsg true f = hostMsg cmd payload := by
  -- the three commands are in range, and their payload has the expected length
  have hrange : ¬ (cmd.toByte < BootloaderCommand.fwUpReq.toByte ∨ cmd.toByte ≥ 35) := by
    rcases hcmd with ⟨rfl, -⟩ | ⟨rfl, -⟩ | ⟨rfl, -⟩ <;> decide
  have hbyte : BootloaderCommand.ofByte cmd.toByte = cmd := by
    rcases hcmd with ⟨rfl, -⟩ | ⟨rfl, -⟩ | ⟨rfl, -⟩ <;> rfl
  have hexpected : bGetBootloaderExpectedPayloadLen cmd = some payload.length := by
    rcases hcmd with ⟨rfl, hl⟩ | ⟨rfl, hl⟩ | ⟨rfl, hl⟩ <;> rw [hl] <;> rfl
  rw [vFormatBootloaderMsg_eq hc hrange hbyte hexpected]
  rcases hcmd with ⟨rfl, -⟩ | ⟨rfl, -⟩ | ⟨rfl, -⟩ <;> rfl

/-- **A host frame** runs the handler of its command. -/
theorem step_host (env : Env) {b : Btl} {f : CanFrame} {cmd : BootloaderCommand}
    {payload : List UInt8} (hrun : b.halted = none) (hinit : b.mgmt.bIsInitialized = true)
    (hc : Carries f cmd payload) (hcmd : UpdateCommand cmd payload) :
    Kept (handlerResult (vUpdateBootloader env { btl := b, msg := hostMsg cmd payload }))
      (step b (.frame f, env)) := by
  unfold step
  rw [hrun]
  simp only [Option.isSome_none, Bool.false_eq_true, if_false, stepEvent]
  unfold vHandleBootloaderMessages
  rw [hinit, vFormatBootloaderMsg_carries hc hcmd]
  have hok : ¬ (!(hostMsg cmd payload).bIsMsgOk) = true := by simp [hostMsg]
  simp only [if_neg hok]
  have hdispatch : dispatchMessage env { btl := b, msg := hostMsg cmd payload }
      = vUpdateBootloader env { btl := b, msg := hostMsg cmd payload } := by
    unfold dispatchMessage
    rcases hcmd with ⟨rfl, -⟩ | ⟨rfl, -⟩ | ⟨rfl, -⟩ <;> rfl
  rw [← hdispatch]
  exact vProcessBootloaderMessages_kept env _

/-! ## §3. Deliveries over the bridge. -/

/-- What is sent over the bridge arrives, and no call fails. -/
def Send.deliver (x : Send) : Delivery where
  send := x
  frame := bridgeFrame x.cmd x.payload
  env := Env.success

theorem carries_bridgeFrame {cmd : BootloaderCommand} {payload : List UInt8}
    (h : payload.length < CAN_MSG_MAX_SIZE) : Carries (bridgeFrame cmd payload) cmd payload where
  room := h
  data := by
    show ((cmd.toByte :: payload ++ List.replicate CAN_MSG_MAX_SIZE 0).take CAN_MSG_MAX_SIZE).take
      (payload.length + 1) = _
    rw [List.take_take, min_eq_left h]
    exact List.take_left' (List.length_cons ..)

theorem Env.success_succeeds : Env.success.Succeeds :=
  ⟨rfl, rfl, fun _ => rfl, fun _ => rfl, fun _ => rfl⟩

theorem Send.deliver_sound {packets : List FirmwarePacket} {x : Send}
    (hlen : x.payload.length < CAN_MSG_MAX_SIZE) (hx : ∀ p, x = .packet p → p ∈ packets) :
    x.deliver.Sound packets where
  carries := carries_bridgeFrame hlen
  host := hx
  succeeds := Env.success_succeeds

end WallController.Bootloader
