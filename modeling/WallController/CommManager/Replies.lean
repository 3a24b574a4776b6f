/-
  WallController.CommManager.Replies
  ────────────────────────────────
  **THE REPLIES OF TWO MANAGERS TO EACH OTHER.**

  Two nodes on one bus, each the host of the other.  A frame that one of them
  sends is received by the other, at any later time or never; between two
  frames the tables of transactions change in any way.  The weight of a frame
  bounds what it can still set off:

      a malformed frame      is answered by a NACK
      an ACK or NACK         of no command is answered by a NACK of
                             `eSysMgmt_CMD_Undefined`; of a command, at most
                             by `Ret_InvalidMsgFormat`
      `Ret_InvalidMsgFormat` is answered by nothing

  Main result:
    * `replies_bounded`: one initial frame sets off at most three.
-/
import WallController.CommManager.Sections
import Mathlib

namespace WallController.CommManager

open WallController.Bootloader (CanFrame canDlcToBytes CAN_MSG_MAX_SIZE)
open WallController.Lib

/-! ## §1. Two nodes. -/

inductive Side where
  | left
  | right
  deriving DecidableEq, Repr

def Side.other : Side → Side
  | .left => .right
  | .right => .left

/-- What is configured at a node. -/
structure Node where
  iGetPayloadLength : PayloadLengths
  uiRxFilterID : UInt32
  uiDestID : UInt32

/-- A frame on its way to a node. -/
structure Packet where
  dest : Side
  id : UInt32
  frame : CanFrame

abbrev Table := Slot → CmdTransaction

/-- The tables of the nodes, the frames on their way, and the number of frames
that the managers have sent by themselves. -/
structure Bus where
  tables : Side → Table
  inFlight : List Packet
  sent : Nat

/-- The frame holds the data, as `eFlexCAN_SendMsg` was given them. -/
def Holding (f : CanFrame) (puiData : List UInt8) : Prop :=
  canDlcToBytes f.dlc = puiData.length ∧ f.data.take puiData.length = puiData

/-- What `pstFindAndLockTransaction_ByCMDId` can give: a live transaction of the
command; or none, also where a mutex times out. -/
def CanFind (slots : Table) (eCMD : SysMgmtCommand) : Option Slot → Prop
  | none => True
  | some i => (slots i).Live ∧ (slots i).eCommand = eCMD

/-- `vHandle_SysMgmt_Messages` at a node: the table, and the frames it sends
(`eACK_NACK` and `Ret_InvalidMsgFormat`).  The callbacks send nothing. -/
def Node.handle (n : Node) (slots : Table) (p : Packet) (found : Option Slot) :
    Table × List (List UInt8) :=
  if p.id ≠ n.uiRxFilterID then (slots, [])
  else
    match vHandleSysMgmtMessages n.iGetPayloadLength p.frame with
    | .done sent => (slots, sent)
    | .dispatch _ => (slots, [])
    | .search m eCMD =>
      match found with
      | none => (slots, [])
      | some i =>
        let o := handleFound m eCMD (slots i)
        (Function.update slots i o.slot, o.sent)

inductive BusAct where
  /-- A frame is received and handled, with the transaction that was found for
  it and the frames sent. -/
  | deliver (p : Packet) (found : Option Slot) (out : List Packet)
  /-- A frame is lost, or was not accepted by the driver. -/
  | lose (p : Packet)
  /-- Subscriptions, completions, timeouts and callbacks change a table. -/
  | disturb (side : Side) (slots : Table)

/-- A step of the bus. -/
def Bus.step (nodes : Side → Node) (b : Bus) (a : BusAct) (b' : Bus) : Prop :=
  match a with
  | .deliver p found out =>
    ∃ before after, b.inFlight = before ++ p :: after
      ∧ (∀ m eCMD, vHandleSysMgmtMessages (nodes p.dest).iGetPayloadLength p.frame = .search m eCMD →
          CanFind (b.tables p.dest) eCMD found)
      ∧ List.Forall₂ (fun d (x : Packet) => Holding x.frame d ∧ x.dest = p.dest.other
          ∧ x.id = (nodes p.dest).uiDestID)
        ((nodes p.dest).handle (b.tables p.dest) p found).2 out
      ∧ b' =
        { tables := Function.update b.tables p.dest
            ((nodes p.dest).handle (b.tables p.dest) p found).1
          inFlight := before ++ after ++ out
          sent := b.sent + out.length }
  | .lose p =>
    ∃ before after, b.inFlight = before ++ p :: after
      ∧ b' = { b with inFlight := before ++ after }
  | .disturb side slots => b' = { b with tables := Function.update b.tables side slots }

/-- Any tables, and one frame of any content on its way to one of the nodes. -/
def busSystem (nodes : Side → Node) : TransSys Bus BusAct where
  init b := ∃ p, b.inFlight = [p] ∧ b.sent = 0
  step := Bus.step nodes

/-! ## §2. The weight of a frame. -/

/-- What a reply can still set off at the other node. -/
def replyWeight (puiData : List UInt8) : Nat :=
  if puiData.getD 0 0 = eSysMgmt_CMD_Ret_InvalidMsgFormat then 0
  else if puiData.getD 2 0 = eSysMgmt_CMD_None
      ∨ puiData.getD 2 0 ≥ eNUMBER_OF_SYS_MANAGEMENT_COMMANDs then 2
  else 1

/-- The replies, each with what it can set off. -/
def sentWeight (sent : List (List UInt8)) : Nat :=
  (sent.map fun d => 1 + replyWeight d).sum

def Received.weight : Received → Nat
  | .done sent => sentWeight sent
  | .dispatch _ => 0
  | .search m _ => if m.eCMD = eSysMgmt_CMD_ACK_NACK then 1 else 0

/-- What a frame can set off. -/
def weight (lengths : PayloadLengths) (f : CanFrame) : Nat :=
  (vHandleSysMgmtMessages lengths f).weight

theorem replyWeight_msgFormatError (c r : UInt8) (e : SysMgmtError) :
    replyWeight (msgFormatErrorData c r e) = 0 := rfl

theorem replyWeight_ackNack (a : CanAck) (e : SysMgmtError) (c r : UInt8) :
    replyWeight (ackNackData a e c r)
      = if c = eSysMgmt_CMD_None ∨ c ≥ eNUMBER_OF_SYS_MANAGEMENT_COMMANDs then 2 else 1 := rfl

/-- A transaction is answered by at most one `Ret_InvalidMsgFormat`, and only
after an ACK or NACK. -/
theorem handleFound_sent (m : CtrlMsg) (eCMD : SysMgmtCommand) (t : CmdTransaction) :
    (handleFound m eCMD t).sent = []
      ∨ (m.eCMD = eSysMgmt_CMD_ACK_NACK
        ∧ ∃ c r e, (handleFound m eCMD t).sent = [msgFormatErrorData c r e]) := by
  unfold handleFound
  split
  · next hcmd =>
    unfold ackMonitor
    split
    · exact Or.inl rfl
    · split
      · exact Or.inl rfl
      · split
        · exact Or.inl rfl
        · split
          · exact Or.inl rfl
          · split
            · exact Or.inl rfl
            · split
              · exact Or.inr ⟨hcmd, _, _, _, rfl⟩
              · split
                · exact Or.inr ⟨hcmd, _, _, _, rfl⟩
                · dsimp only
                  split
                  · exact Or.inl rfl
                  · unfold notifyHostNACK
                    split
                    · exact Or.inl rfl
                    · exact Or.inl rfl
  · unfold handleInvalidMsgFormat
    split
    · exact Or.inl rfl
    · split
      · exact Or.inl rfl
      · split
        · exact Or.inl rfl
        · split
          · exact Or.inl rfl
          · exact Or.inl rfl

theorem handleFound_weight (m : CtrlMsg) (eCMD : SysMgmtCommand) (t : CmdTransaction) :
    sentWeight (handleFound m eCMD t).sent
      ≤ if m.eCMD = eSysMgmt_CMD_ACK_NACK then 1 else 0 := by
  rcases handleFound_sent m eCMD t with hs | ⟨hcmd, c, r, e, hs⟩
  · rw [hs]
    exact Nat.zero_le _
  · rw [hs, if_pos hcmd]
    exact Nat.le_refl 1

/-- The replies to a frame weigh no more than the frame. -/
theorem handle_weight (n : Node) (slots : Table) (p : Packet) (found : Option Slot) :
    sentWeight (n.handle slots p found).2 ≤ weight n.iGetPayloadLength p.frame := by
  unfold Node.handle weight
  split
  · exact Nat.zero_le _
  · split
    · next hr =>
      rw [hr]
      exact Nat.le_refl _
    · exact Nat.zero_le _
    · next m eCMD hr =>
      rw [hr]
      split
      · exact Nat.zero_le _
      · exact handleFound_weight m eCMD _

theorem sentWeight_nack_le (a : CanAck) (e : SysMgmtError) (c r : UInt8) :
    sentWeight [ackNackData a e c r] ≤ 3 := by
  unfold sentWeight
  rw [List.map_singleton, List.sum_singleton, replyWeight_ackNack]
  split <;> omega

theorem searched_le (m : CtrlMsg) (eCMD : SysMgmtCommand) :
    (Received.search m eCMD).weight ≤ 1 := by
  show (if m.eCMD = eSysMgmt_CMD_ACK_NACK then 1 else 0) ≤ 1
  split <;> omega

theorem dispatch_weight_le (m : CtrlMsg) : (vDispatchMessage m).weight ≤ 3 := by
  unfold vDispatchMessage
  split
  · unfold submitToACKMonitor
    split
    · exact sentWeight_nack_le ..
    · exact Nat.le_trans (searched_le m _) (by decide)
  · split
    · unfold submitToInvalidMsgFormat
      split
      · exact Nat.zero_le _
      · exact Nat.le_trans (searched_le m _) (by decide)
    · exact Nat.zero_le _

/-- No frame sets off more than three others. -/
theorem weight_le (lengths : PayloadLengths) (f : CanFrame) : weight lengths f ≤ 3 := by
  unfold weight vHandleSysMgmtMessages
  dsimp only
  split
  · split
    · exact Nat.zero_le _
    · exact sentWeight_nack_le ..
  · exact dispatch_weight_le _

/-! ## §3. The weight of a reply. -/

variable {f : CanFrame} {lengths : PayloadLengths}

/-- The bytes of a frame that holds some data. -/
theorem Holding.byte {d : List UInt8} (h : Holding f d) {i : Nat} (hi : i < d.length) :
    f.data.getD i 0 = d.getD i 0 := by
  rw [List.getD_eq_getElem?_getD, List.getD_eq_getElem?_getD, ← h.2, List.getElem?_take_of_lt hi]

/-- A frame of a command with its expected length passes the checks. -/
theorem validate_holding {d : List UInt8} {c : UInt8} {n : Nat} (h : Holding f d)
    (hd : d.length = 2 + n) (hc : d.getD 0 0 = c) (hn : (d.getD 1 0).toNat = n)
    (hcmd : ¬ (c < eSysMgmt_CMD_Reserved_20 ∨ c ≥ eNUMBER_OF_SYS_MANAGEMENT_COMMANDs))
    (hmax : n ≤ CAN_MSG_MAX_SIZE - 2) (hlen : iGetCmdPayLoadLen lengths c = n) (hbyte : n < 256) :
    eValidatePayLoadLength lengths f
      = (.none, { CtrlMsg.zero with eCMD := c, uiLen := n }) := by
  have h0 : f.data.getD 0 0 = c := (h.byte (by omega)).trans hc
  have h1 : (f.data.getD 1 0).toNat = n := by rw [h.byte (by omega)]; exact hn
  have hframe : canDlcToBytes f.dlc = 2 + n := h.1.trans hd
  unfold eValidatePayLoadLength
  dsimp only
  rw [hframe, h0, h1, hlen, if_neg (by omega), if_neg hcmd, if_neg (by omega),
    if_neg (by omega), if_neg (by omega), if_neg]
  have hmod : ((n : Int) % 256).toNat = n := by omega
  exact fun hne => hne hmod

/-- A well-formed message is dispatched with its bytes. -/
theorem handle_holding {d : List UInt8} {c : UInt8} {n : Nat} (h : Holding f d)
    (hd : d.length = 2 + n)
    (hv : eValidatePayLoadLength lengths f = (.none, { CtrlMsg.zero with eCMD := c, uiLen := n })) :
    ∃ m : CtrlMsg, m.eCMD = c ∧ (∀ i, i < n → m.byte i = d.getD (i + 2) 0)
      ∧ vHandleSysMgmtMessages lengths f = vDispatchMessage m := by
  refine ⟨{ eCMD := c, uiLen := n, uiaData := (f.data.drop 2).take n
    ++ CtrlMsg.zero.uiaData.drop n }, rfl, ?_, ?_⟩
  · intro i hi
    have hroom : i < ((f.data.drop 2).take n).length := by
      have hlen : d.length ≤ f.data.length := by
        have hle := congrArg List.length h.2
        rw [List.length_take] at hle
        omega
      rw [List.length_take, List.length_drop]
      omega
    show (((f.data.drop 2).take n) ++ _).getD i 0 = _
    rw [List.getD_append _ _ _ _ hroom, List.getD_eq_getElem?_getD, List.getElem?_take_of_lt hi,
      List.getElem?_drop, Nat.add_comm 2 i, ← List.getD_eq_getElem?_getD]
    exact h.byte (by omega)
  · unfold vHandleSysMgmtMessages
    rw [hv]
    rfl

/-- What a NACK or ACK still sets off. -/
theorem weight_ackNack {a : CanAck} {e : SysMgmtError} {c r : UInt8}
    (h : Holding f (ackNackData a e c r)) :
    weight lengths f ≤ replyWeight (ackNackData a e c r) := by
  have hv : eValidatePayLoadLength lengths f
      = (.none, { CtrlMsg.zero with eCMD := eSysMgmt_CMD_ACK_NACK, uiLen := 4 }) :=
    validate_holding h rfl rfl rfl (by decide) (by decide) rfl (by decide)
  obtain ⟨m, hcmd, hbyte, hm⟩ := handle_holding h rfl hv
  have hb : m.byte 0 = c := hbyte 0 (by decide)
  unfold weight
  rw [hm, replyWeight_ackNack]
  unfold vDispatchMessage
  rw [if_pos hcmd]
  unfold submitToACKMonitor
  rw [hb]
  by_cases hc : c = eSysMgmt_CMD_None ∨ c ≥ eNUMBER_OF_SYS_MANAGEMENT_COMMANDs
  · rw [if_pos hc, if_pos hc]
    exact Nat.le_refl 2
  · rw [if_neg hc, if_neg hc]
    exact searched_le m c

/-- `Ret_InvalidMsgFormat` sets off nothing. -/
theorem weight_msgFormatError {c r : UInt8} {e : SysMgmtError}
    (h : Holding f (msgFormatErrorData c r e)) : weight lengths f = 0 := by
  have hv : eValidatePayLoadLength lengths f
      = (.none, { CtrlMsg.zero with eCMD := eSysMgmt_CMD_Ret_InvalidMsgFormat, uiLen := 3 }) :=
    validate_holding h rfl rfl rfl (by decide) (by decide) rfl (by decide)
  obtain ⟨m, hcmd, hbyte, hm⟩ := handle_holding h rfl hv
  unfold weight
  rw [hm]
  unfold vDispatchMessage
  rw [if_neg (by rw [hcmd]; decide), if_pos hcmd]
  unfold submitToInvalidMsgFormat
  split
  · rfl
  · exact if_neg (by rw [hcmd]; decide)

/-! ## §4. All runs. -/

/-- What has been sent, with all that can still be set off. -/
def Bus.total (nodes : Side → Node) (b : Bus) : Nat :=
  b.sent + (b.inFlight.map fun p => weight (nodes p.dest).iGetPayloadLength p.frame).sum

/-- A reply is one of the two kinds. -/
def IsReply (d : List UInt8) : Prop :=
  (∃ a e c r, d = ackNackData a e c r) ∨ ∃ c r e, d = msgFormatErrorData c r e

/-- A frame that holds a reply weighs no more than the reply. -/
theorem weight_reply {d : List UInt8} (hd : IsReply d) (h : Holding f d) :
    weight lengths f ≤ replyWeight d := by
  rcases hd with ⟨a, e, c, r, rfl⟩ | ⟨c, r, e, rfl⟩
  · exact weight_ackNack h
  · rw [weight_msgFormatError h]
    exact Nat.zero_le _

theorem handleFound_replies (m : CtrlMsg) (eCMD : SysMgmtCommand) (t : CmdTransaction) :
    ∀ d ∈ (handleFound m eCMD t).sent, IsReply d := by
  intro d hd
  rcases handleFound_sent m eCMD t with hs | ⟨-, c, r, e, hs⟩
  · rw [hs] at hd
    cases hd
  · rw [hs] at hd
    exact Or.inr ⟨c, r, e, List.mem_singleton.mp hd⟩

theorem received_replies {sent : List (List UInt8)}
    (h : vHandleSysMgmtMessages lengths f = .done sent) : ∀ d ∈ sent, IsReply d := by
  have hone : ∀ a e c r, ∀ d ∈ [ackNackData a e c r], IsReply d := by
    intro a e c r d h
    exact Or.inl ⟨a, e, c, r, List.mem_singleton.mp h⟩
  have hnone : ∀ d ∈ ([] : List (List UInt8)), IsReply d := fun d h => by cases h
  unfold vHandleSysMgmtMessages at h
  dsimp only at h
  split at h
  · split at h
    · cases h
      exact hnone
    · cases h
      exact hone _ _ _ _
  · unfold vDispatchMessage at h
    split at h
    · unfold submitToACKMonitor at h
      split at h
      · cases h
        exact hone _ _ _ _
      · cases h
    · split at h
      · unfold submitToInvalidMsgFormat at h
        split at h
        · cases h
          exact hnone
        · cases h
      · cases h

theorem handle_replies (n : Node) (slots : Table) (p : Packet) (found : Option Slot) :
    ∀ d ∈ (n.handle slots p found).2, IsReply d := by
  have hnone : ∀ d ∈ ([] : List (List UInt8)), IsReply d := fun d h => by cases h
  unfold Node.handle
  split
  · exact hnone
  · split
    · next sent hr => exact received_replies hr
    · exact hnone
    · next m eCMD hr =>
      split
      · exact hnone
      · exact handleFound_replies m eCMD _

/-- The frames sent weigh, with their number, no more than the replies. -/
theorem out_weight {nodes : Side → Node} {side : Side} {id : UInt32} {sent : List (List UInt8)}
    {out : List Packet} (hsent : ∀ d ∈ sent, IsReply d)
    (h : List.Forall₂ (fun d (x : Packet) => Holding x.frame d ∧ x.dest = side ∧ x.id = id)
      sent out) :
    out.length + (out.map fun p => weight (nodes p.dest).iGetPayloadLength p.frame).sum
      ≤ sentWeight sent := by
  induction h with
  | nil => exact Nat.le_refl _
  | @cons d x ds xs hx _ ih =>
    have hw : weight (nodes x.dest).iGetPayloadLength x.frame ≤ replyWeight d :=
      weight_reply (hsent d (List.mem_cons_self ..)) hx.1
    have hrest := ih fun d hd => hsent d (List.mem_cons_of_mem _ hd)
    unfold sentWeight at hrest ⊢
    rw [List.length_cons, List.map_cons, List.map_cons, List.sum_cons, List.sum_cons]
    omega

/-- No step makes more of what is sent and set off. -/
theorem total_step {nodes : Side → Node} {b b' : Bus} {a : BusAct} (h : b.step nodes a b') :
    b'.total nodes ≤ b.total nodes := by
  unfold Bus.total
  cases a with
  | deliver p found out =>
    obtain ⟨before, after, hin, -, hout, rfl⟩ := h
    have hw := @out_weight nodes _ _ _ _ (handle_replies _ _ _ _) hout
    have hle := handle_weight (nodes p.dest) (b.tables p.dest) p found
    rw [hin]
    simp only [List.map_append, List.map_cons, List.sum_append, List.sum_cons]
    omega
  | lose p =>
    obtain ⟨before, after, hin, rfl⟩ := h
    rw [hin]
    simp only [List.map_append, List.map_cons, List.sum_append, List.sum_cons]
    omega
  | disturb side slots =>
    obtain rfl := h
    exact Nat.le_refl _

/-- **No NACK storm.**  Whatever the tables of the two nodes hold and become,
whatever the one initial frame is, and in whatever order the frames are
delivered or lost, the two managers send at most three frames by themselves. -/
theorem replies_bounded {nodes : Side → Node} {b : Bus} (h : (busSystem nodes).Reachable b) :
    b.sent ≤ 3 := by
  have hi : b.total nodes ≤ 3 := by
    refine TransSys.Reachable.invariant (I := fun b => b.total nodes ≤ 3) ?_ ?_ h
    · rintro b ⟨p, hp, hs⟩
      unfold Bus.total
      rw [hp, hs]
      simpa using weight_le (nodes p.dest).iGetPayloadLength p.frame
    · intro b a b' hb hst
      exact Nat.le_trans (total_step hst) hb
  exact Nat.le_trans (Nat.le_add_right _ _) hi

/-! ## §5. Three frames. -/

/-- A packet for a node, as the other sends it. -/
def packetOf (dest : Side) (d : List UInt8) (h : d.length ≤ CAN_MSG_MAX_SIZE) : Packet :=
  ⟨dest, 0x400, frameOf d h⟩

/-- Each node is the host of the other. -/
def mutualNodes : Side → Node := fun _ => ⟨none, 0x400, 0x400⟩

/-- A transaction of `eSysMgmt_CMD_Undefined` that waits for its ACK. -/
def undefinedWaiting : CmdTransaction :=
  { CmdTransaction.init with eState := .waitingForACK, eCommand := eSysMgmt_CMD_Undefined }

def shortFrame : Packet := packetOf .left [20] (by decide)
def nackNone : Packet :=
  packetOf .right (ackNackData .nack .invalidFrameLength eSysMgmt_CMD_None 0) (by decide)
def nackUndefined : Packet :=
  packetOf .left (ackNackData .nack .invalidCommand eSysMgmt_CMD_Undefined 0) (by decide)
def formatError : Packet :=
  packetOf .right (msgFormatErrorData eSysMgmt_CMD_Undefined 0 .invalidCommand) (by decide)

/-- A frame is delivered on a bus that carries no other. -/
theorem Bus.deliver_reachable {nodes : Side → Node} {tables : Side → Table} {n : Nat} {p : Packet}
    (found : Option Slot) (out : List Packet)
    (h : (busSystem nodes).Reachable ⟨tables, [p], n⟩)
    (hcan : ∀ m eCMD, vHandleSysMgmtMessages (nodes p.dest).iGetPayloadLength p.frame
      = .search m eCMD → CanFind (tables p.dest) eCMD found)
    (hout : List.Forall₂ (fun d (x : Packet) => Holding x.frame d ∧ x.dest = p.dest.other
      ∧ x.id = (nodes p.dest).uiDestID) ((nodes p.dest).handle (tables p.dest) p found).2 out) :
    (busSystem nodes).Reachable
      ⟨Function.update tables p.dest ((nodes p.dest).handle (tables p.dest) p found).1, out,
        n + out.length⟩ :=
  .step (a := .deliver p found out) h trivial ⟨[], [], rfl, hcan, hout, rfl⟩

/-- A frame of one byte is answered by a NACK, the NACK by another one, and
that by `Ret_InvalidMsgFormat`: the bound is reached. -/
theorem replies_bounded_three :
    ∃ b, (busSystem mutualNodes).Reachable b ∧ b.sent = 3 ∧ b.sent ≤ 3 := by
  have hfound : ∀ m eCMD, vHandleSysMgmtMessages none nackUndefined.frame = .search m eCMD →
      eCMD = eSysMgmt_CMD_Undefined := by
    intro m eCMD h
    have hd : (match vHandleSysMgmtMessages none nackUndefined.frame with
        | .search _ c => c | _ => 0) = eSysMgmt_CMD_Undefined := by decide +kernel
    rw [h] at hd
    exact hd
  have hnone : ∀ p ∈ [shortFrame, nackNone], ∀ m eCMD,
      vHandleSysMgmtMessages none p.frame ≠ .search m eCMD := by
    intro p hp m eCMD h
    have hd : [shortFrame, nackNone].all (fun p =>
        match vHandleSysMgmtMessages none p.frame with
        | .search .. => false | _ => true) = true := by decide +kernel
    have hp' := List.all_eq_true.mp hd p hp
    rw [h] at hp'
    cases hp'
  have h0 : (busSystem mutualNodes).Reachable
      ⟨fun _ _ => undefinedWaiting, [shortFrame], 0⟩ := .init ⟨_, rfl, rfl⟩
  have h1 := Bus.deliver_reachable none [nackNone] h0
    (fun m c h => absurd h (hnone _ (by simp) m c)) (.cons ⟨⟨rfl, rfl⟩, rfl, rfl⟩ .nil)
  have h2 := Bus.deliver_reachable none [nackUndefined] h1
    (fun m c h => absurd h (hnone _ (by simp) m c)) (.cons ⟨⟨rfl, rfl⟩, rfl, rfl⟩ .nil)
  have h3 := Bus.deliver_reachable (some firstSlot) [formatError] h2
    (fun m c h => ⟨by decide, (hfound m c h).symm⟩) (.cons ⟨⟨rfl, rfl⟩, rfl, rfl⟩ .nil)
  exact ⟨_, h3, rfl, replies_bounded h3⟩

end WallController.CommManager
