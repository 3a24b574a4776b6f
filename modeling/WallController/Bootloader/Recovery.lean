/-
  WallController.Bootloader.Recovery
  ────────────────────────────────
  **THE HOST ASKS FOR THE LOST PACKETS (`_request_missing_ids_with_client`).**

  The update tool sends `GetLostPacketInfo`, takes one page of packet ids from
  the info frame, acknowledges it, and goes on while the page says that more
  ids are pending.  The controller reports the first 30 pending ids in every
  page.

    • `requestPage`: what one round of the exchange brings, for any table.
    • `missing_ids_requested`: the host has asked for exactly the pending ids
      if and only if one page holds them.
    • `missing_ids_not_requested`: with 31 lost packets it asks 64 times for
      the first 30.
-/
import WallController.Bootloader.Delivery

namespace WallController.Bootloader

open WallController.Lib

/-! ## §1. The line between the two. -/

/-- The CAN-FD frames in one direction: a frame has the command and the payload
it is sent with, and is padded to one of the CAN-FD lengths. -/
structure CanLine where
  frame : BootloaderCommand → List UInt8 → CanFrame
  carries : ∀ cmd payload, payload.length < CAN_MSG_MAX_SIZE →
    Carries (frame cmd payload) cmd payload

/-- Both directions, and the calls of the controller by message of the host;
every frame is queued. -/
structure Link where
  toController : CanLine
  toHost : CanLine
  env : Nat → Env
  queued : ∀ k, (env k).txQueued = true

/-- Command and payload of a UART frame to the host. -/
abbrev SlaveFrame := UInt8 × List UInt8

/-- `vSend_UARTFrameToPC`. -/
def vSendUARTFrameToPC (f : CanFrame) : Option SlaveFrame :=
  let uiLen := canDlcToBytes f.dlc
  if uiLen = 0 then none
  else
    let uiPayloadLen := uiLen - 1
    some (f.data.getD 0 0, (f.data.drop 1).take uiPayloadLen)

/-- The frame that the controller sends, if the trace entry is one. -/
def Obs.sent : Obs → Option (BootloaderCommand × List UInt8)
  | .lostPacketInfo data true => some (BootloaderCommand.ofByte (data.headD 0), data.tail)
  | .response eCMD bIsMsgOk eErrorCode =>
      some (eCMD, [if bIsMsgOk then eCAN_ACK else eCAN_NACK, UInt8.ofNat eErrorCode.ctorIdx])
  | _ => none

/-- The controller, the frames that have reached the host and that it has not
taken yet, and the number of messages it has sent. -/
structure Exchange where
  b : Btl
  frames : List SlaveFrame
  messages : Nat

/-- The frames that the controller has sent since its trace was `log`. -/
def Link.receive (L : Link) (log log' : List Obs) : List SlaveFrame :=
  ((log'.take (log'.length - log.length)).reverse.filterMap Obs.sent).filterMap
    fun m => vSendUARTFrameToPC (L.toHost.frame m.1 m.2)

/-- `send_bootloader_frame(command, payload)`. -/
def Exchange.sendBootloaderFrame (L : Link) (command : BootloaderCommand) (payload : List UInt8)
    (x : Exchange) : Exchange :=
  let b := step x.b (.frame (L.toController.frame command payload), L.env x.messages)
  { b, frames := x.frames ++ L.receive x.b.log b.log, messages := x.messages + 1 }

/-- `wait_for_slave_frame(expected_command)`: the payload of the first frame
of the command; the frames before it stay. -/
def Exchange.waitForSlaveFrame (expected_command : BootloaderCommand) (x : Exchange) :
    Option (List UInt8 × Exchange) :=
  (x.frames.find? fun f => f.1 == expected_command.toByte).map fun f =>
    (f.2, { x with frames := x.frames.eraseP fun f => f.1 == expected_command.toByte })

/-! ## §2. The host. -/

def BOOTLOADER_ACK : UInt8 := 10
def MAX_LOST_PACKET_INFO_PAGES : Nat := 64

/-- The ids in the info bytes. -/
def infoIds : List UInt8 → List Nat
  | hi :: lo :: rest => (hi.toNat <<< 8 ||| lo.toNat) :: infoIds rest
  | _ => []

/-- `_parse_lost_packet_info_payload(payload)`: the ids, the count of those that
remain, and the sequence number of the frame. -/
def parseLostPacketInfoPayload (payload : List UInt8) : List Nat × Int × Option UInt8 :=
  if payload.length < 3 then ([], 0, none)
  else
    let pending_count := (payload.getD 0 0).toNat
    let frame_seq := payload.getD 1 0
    let info_byte_count := (payload.getD 2 0).toNat
    let info := (payload.drop 3).take info_byte_count
    let missing_ids := infoIds info
    (missing_ids, (pending_count : Int) - missing_ids.length, some frame_seq)

/-- The ids of a page that have not been seen are added. -/
def addUnseen (missing_ids page_ids : List Nat) : List Nat :=
  page_ids.foldl (fun ids packet_id => if packet_id ∈ ids then ids else ids ++ [packet_id])
    missing_ids

/-- How the loop has ended. -/
inductive RequestEnd where
  | complete
  | pageLimit
  | noResponse
  | emptyPage
  deriving DecidableEq, Repr

/-- The ACK of a page. -/
def Exchange.acknowledge (L : Link) (frame_seq : Option UInt8) (x : Exchange) : Exchange :=
  match frame_seq with
  | some frame_seq => x.sendBootloaderFrame L .retLostPacketInfo [BOOTLOADER_ACK, frame_seq]
  | none => x

/-- The loop of `_request_missing_ids_with_client`, with the pages left before
the limit. -/
def requestMissingIdsLoop (L : Link) (pages : Nat) (x : Exchange) (missing_ids : List Nat)
    (remaining_count : Int) : List Nat × RequestEnd :=
  if remaining_count > 0 then
    match pages with
    | 0 => (missing_ids, .pageLimit)
    | pages + 1 =>
        match (x.sendBootloaderFrame L .getLostPacketInfo []).waitForSlaveFrame
            .retLostPacketInfo with
        | none => (missing_ids, .noResponse)
        | some (payload, x) =>
            let (page_ids, remaining_count, frame_seq) := parseLostPacketInfoPayload payload
            let missing_ids := addUnseen missing_ids page_ids
            let x := x.acknowledge L frame_seq
            if page_ids = [] then (missing_ids, .emptyPage)
            else requestMissingIdsLoop L pages x missing_ids remaining_count
  else (missing_ids, .complete)

/-- `_request_missing_ids_with_client(client)`. -/
def requestMissingIds (L : Link) (x : Exchange) : List Nat × RequestEnd :=
  requestMissingIdsLoop L MAX_LOST_PACKET_INFO_PAGES x [] 1

/-! ## §3. The ids of a page. -/

/-- The ids that are pending. -/
def FWImgCtrl.pendingIds (img : FWImgCtrl) : List Nat :=
  (img.staLostPacketIDs.filter fun p => !p.bIsHandled).map (·.uiPacketId)

theorem pendingIds_length (img : FWImgCtrl) :
    img.pendingIds.length = uiGetPendingLostPacketCount img := by
  unfold FWImgCtrl.pendingIds uiGetPendingLostPacketCount
  rw [List.length_map, List.countP_eq_length_filter]

/-- The ids in one page. -/
def LOST_PACKET_IDS_PER_PAGE : Nat := 30

/-- Two bytes for an id. -/
def idBytes (ids : List Nat) : List UInt8 :=
  ids.flatMap fun id => [UInt8.ofNat (id / 256), UInt8.ofNat (id % 256)]

theorem idBytes_length (ids : List Nat) : (idBytes ids).length = 2 * ids.length := by
  induction ids with
  | nil => rfl
  | cons id ids ih =>
      show (idBytes ids).length + 1 + 1 = _
      rw [ih, List.length_cons]
      omega

/-- The frame has the first ids that it has room for. -/
theorem lostPacketIdBytes_eq (ps : List LostPacketCtrl) (uiIndex : Nat) :
    lostPacketIdBytes ps uiIndex
      = idBytes (((ps.filter fun p => !p.bIsHandled).map (·.uiPacketId)).take
          ((CAN_MSG_MAX_SIZE - uiIndex) / 2)) := by
  induction ps generalizing uiIndex with
  | nil => simp [lostPacketIdBytes, idBytes]
  | cons p ps ih =>
      unfold lostPacketIdBytes
      by_cases hroom : uiIndex + 1 < CAN_MSG_MAX_SIZE
      · rw [if_pos hroom]
        by_cases hp : p.bIsHandled = true
        · rw [if_pos hp, ih]
          simp [hp]
        · have hmore : (CAN_MSG_MAX_SIZE - uiIndex) / 2
              = (CAN_MSG_MAX_SIZE - (uiIndex + 2)) / 2 + 1 := by omega
          rw [if_neg hp, ih, hmore]
          simp [hp, idBytes]
      · have hfull : (CAN_MSG_MAX_SIZE - uiIndex) / 2 = 0 := by omega
        rw [if_neg hroom, hfull]
        rfl

/-- The bytes of the info frame after the command. -/
def pageBytes (img : FWImgCtrl) (uiFrameSeq : Nat) : List UInt8 :=
  UInt8.ofNat img.pendingIds.length :: UInt8.ofNat uiFrameSeq
    :: UInt8.ofNat (2 * (img.pendingIds.take LOST_PACKET_IDS_PER_PAGE).length)
    :: idBytes (img.pendingIds.take LOST_PACKET_IDS_PER_PAGE)

theorem lostPacketInfoFrame_eq (img : FWImgCtrl) (uiFrameSeq : Nat) :
    lostPacketInfoFrame img uiFrameSeq
      = BootloaderCommand.retLostPacketInfo.toByte :: pageBytes img uiFrameSeq := by
  have hids : (if uiGetPendingLostPacketCount img ≠ 0
      then lostPacketIdBytes img.staLostPacketIDs 4 else [])
      = idBytes (img.pendingIds.take LOST_PACKET_IDS_PER_PAGE) := by
    split
    · exact lostPacketIdBytes_eq img.staLostPacketIDs 4
    · next hnone =>
        have hempty : img.pendingIds = [] := by
          apply List.eq_nil_of_length_eq_zero
          rw [pendingIds_length]
          exact not_not.mp hnone
        rw [hempty]
        rfl
  unfold lostPacketInfoFrame pageBytes
  simp only
  rw [hids, idBytes_length, pendingIds_length]
  rfl

/-- The host reads the ids back, whatever the padding is. -/
theorem infoIds_idBytes {ids : List Nat} (h : ∀ id ∈ ids, id < 65536) :
    infoIds (idBytes ids) = ids := by
  induction ids with
  | nil => rfl
  | cons id ids ih =>
      have hid := h id (List.mem_cons_self ..)
      show ((UInt8.ofNat (id / 256)).toNat <<< 8 ||| (UInt8.ofNat (id % 256)).toNat)
        :: infoIds (idBytes ids) = _
      rw [ih fun id' h' => h id' (List.mem_cons_of_mem _ h'), UInt8.toNat_ofNat',
        UInt8.toNat_ofNat', ← Nat.shiftLeft_add_eq_or_of_lt (by omega), Nat.shiftLeft_eq]
      congr 1
      omega

theorem parse_pageBytes {img : FWImgCtrl} (uiFrameSeq : Nat) (padding : List UInt8)
    (hn : img.pendingIds.length < 256) (hids : ∀ id ∈ img.pendingIds, id < 65536) :
    parseLostPacketInfoPayload (pageBytes img uiFrameSeq ++ padding)
      = (img.pendingIds.take LOST_PACKET_IDS_PER_PAGE,
          (img.pendingIds.length : Int)
            - (img.pendingIds.take LOST_PACKET_IDS_PER_PAGE).length,
          some (UInt8.ofNat uiFrameSeq)) := by
  have hpage : (img.pendingIds.take LOST_PACKET_IDS_PER_PAGE).length ≤ 30 := by
    rw [List.length_take]
    exact Nat.min_le_left _ _
  have hcount : (UInt8.ofNat (2 * (img.pendingIds.take LOST_PACKET_IDS_PER_PAGE).length)).toNat
      = (idBytes (img.pendingIds.take LOST_PACKET_IDS_PER_PAGE)).length := by
    rw [idBytes_length, UInt8.toNat_ofNat']
    omega
  have hinfo : infoIds (idBytes (img.pendingIds.take LOST_PACKET_IDS_PER_PAGE))
      = img.pendingIds.take LOST_PACKET_IDS_PER_PAGE :=
    infoIds_idBytes fun id hid => hids id (List.mem_of_mem_take hid)
  unfold parseLostPacketInfoPayload pageBytes
  have hlong : ¬ (UInt8.ofNat img.pendingIds.length :: UInt8.ofNat uiFrameSeq
      :: UInt8.ofNat (2 * (img.pendingIds.take LOST_PACKET_IDS_PER_PAGE).length)
      :: idBytes (img.pendingIds.take LOST_PACKET_IDS_PER_PAGE) ++ padding).length < 3 := by
    simp
  rw [if_neg hlong]
  simp only [List.cons_append, List.getD_cons_zero, List.getD_cons_succ, List.drop_succ_cons,
    List.drop_zero]
  rw [hcount, List.take_left, hinfo, UInt8.toNat_ofNat', Nat.mod_eq_of_lt hn]

/-! ## §4. The controller. -/

/-- The controller takes requests for lost packets. -/
structure Ready (b : Btl) : Prop where
  running : b.halted = none
  initialized : b.mgmt.bIsInitialized = true
  inProg : b.mgmt.eBtlState = .fwImgWriteInProg
  idle : b.tx.eTxState = .idle

/-- The controller has sent a page and waits for its ACK. -/
structure Asked (b b' : Btl) : Prop where
  running : b'.halted = none
  mgmt : b'.mgmt = b.mgmt
  img : b'.img = b.img
  log : b'.log = .lostPacketInfo (lostPacketInfoFrame b.img b.tx.uiFrameSeq) true :: b.log
  txState : b'.tx.eTxState = .inProgress
  seq : b'.tx.uiaTxData.getD 2 0 = UInt8.ofNat b.tx.uiFrameSeq
  len : ¬ b'.tx.stTCANTxMsg.getD 0 < 3

/-- `bSchedule_LostPacketTimeouts` changes the timers only. -/
theorem bScheduleLostPacketTimeouts_frame (env : Env) (b : Btl) :
    ∃ timers, bScheduleLostPacketTimeouts env b = { b with timers } := by
  unfold bScheduleLostPacketTimeouts
  split
  · exact ⟨_, rfl⟩
  · exact ⟨b.timers, rfl⟩

theorem step_frame_eq (env : Env) {b : Btl} (f : CanFrame) (hrun : b.halted = none) :
    step b (.frame f, env) = vHandleBootloaderMessages env f b := by
  unfold step
  rw [hrun]
  rfl

theorem step_getLostPacketInfo {env : Env} {b : Btl} {f : CanFrame} (hb : Ready b)
    (hc : Carries f .getLostPacketInfo []) (hqueued : env.txQueued = true) :
    Asked b (step b (.frame f, env)) := by
  have hmsg := vFormatBootloaderMsg_eq hc (by decide) rfl rfl
  have hstep : step b (.frame f, env)
      = bScheduleLostPacketTimeouts env { b with
          log := .lostPacketInfo (lostPacketInfoFrame b.img b.tx.uiFrameSeq) true :: b.log
          tx := { b.tx with
            uiaTxData := lostPacketInfoFrame b.img b.tx.uiFrameSeq
              ++ b.tx.uiaTxData.drop (lostPacketInfoFrame b.img b.tx.uiFrameSeq).length
            stTCANTxMsg := some (lostPacketInfoFrame b.img b.tx.uiFrameSeq).length
            eTxState := .inProgress
            uiFrameSeq := (b.tx.uiFrameSeq + 1) % 256 } } := by
    rw [step_frame_eq env f hb.running]
    unfold vHandleBootloaderMessages
    rw [hb.initialized, hmsg]
    show vProcessBootloaderMessages env _ = _
    have hupdate (j : Job) (hj : j.btl = b) (hcmd : j.msg.eCMD = .getLostPacketInfo) :
        vUpdateBootloader env j = .ok (vGetLostPacketInfo env j) := by
      unfold vUpdateBootloader vExecuteBootloaderFWImgWriteState
      rw [hj, hb.inProg, hb.initialized, hcmd]
      rfl
    unfold vProcessBootloaderMessages dispatchMessage
    rw [hupdate _ rfl rfl]
    unfold vGetLostPacketInfo
    simp only [hb.idle, hqueued]
    rfl
  obtain ⟨timers, htimers⟩ := bScheduleLostPacketTimeouts_frame env { b with
    log := .lostPacketInfo (lostPacketInfoFrame b.img b.tx.uiFrameSeq) true :: b.log
    tx := { b.tx with
      uiaTxData := lostPacketInfoFrame b.img b.tx.uiFrameSeq
        ++ b.tx.uiaTxData.drop (lostPacketInfoFrame b.img b.tx.uiFrameSeq).length
      stTCANTxMsg := some (lostPacketInfoFrame b.img b.tx.uiFrameSeq).length
      eTxState := .inProgress
      uiFrameSeq := (b.tx.uiFrameSeq + 1) % 256 } }
  rw [hstep, htimers]
  refine ⟨hb.running, rfl, rfl, rfl, rfl, rfl, ?_⟩
  show ¬ (lostPacketInfoFrame b.img b.tx.uiFrameSeq).length < 3
  rw [lostPacketInfoFrame_eq]
  simp [pageBytes]

theorem step_retLostPacketInfo {env : Env} {b b' : Btl} {f : CanFrame} (hb : Ready b)
    (ha : Asked b b')
    (hc : Carries f .retLostPacketInfo [BOOTLOADER_ACK, UInt8.ofNat b.tx.uiFrameSeq]) :
    Ready (step b' (.frame f, env)) ∧ (step b' (.frame f, env)).img = b.img ∧
      (step b' (.frame f, env)).log = b'.log := by
  have hmsg := vFormatBootloaderMsg_eq hc (by decide) rfl rfl
  have hstep : step b' (.frame f, env)
      = { cancelTxTimeOutWork b' with tx := { b'.tx with uiRetryCount := 0, eTxState := .idle } } := by
    have hinit : b'.mgmt.bIsInitialized = true := by
      rw [ha.mgmt]
      exact hb.initialized
    have hbusy : ¬ b'.tx.eTxState = .idle := by
      rw [ha.txState]
      decide
    rw [step_frame_eq env f ha.running]
    unfold vHandleBootloaderMessages
    rw [hinit, hmsg]
    show vHandleLostPacketInfoTxResponse env BOOTLOADER_ACK (UInt8.ofNat b.tx.uiFrameSeq) b' = _
    unfold vHandleLostPacketInfoTxResponse
    rw [if_neg (by decide), if_neg ha.len, if_neg hbusy, if_neg (not_not.mpr ha.seq.symm),
      if_pos (show BOOTLOADER_ACK = eCAN_ACK from rfl)]
    rfl
  rw [hstep]
  have hmgmt : ∀ {α : Type} (g : Mgmt → α), g b'.mgmt = g b.mgmt := fun g => by rw [ha.mgmt]
  exact ⟨⟨ha.running, (hmgmt (·.bIsInitialized)).trans hb.initialized,
    (hmgmt (·.eBtlState)).trans hb.inProg, rfl⟩, ha.img, rfl⟩

/-! ## §5. One round. -/

/-- A frame arrives with its payload, and some padding. -/
theorem vSendUARTFrameToPC_carries {f : CanFrame} {cmd : BootloaderCommand} {payload : List UInt8}
    (hc : Carries f cmd payload) :
    ∃ padding, vSendUARTFrameToPC f = some (cmd.toByte, payload ++ padding) := by
  have hroom := hc.room
  have hdata := hc.data
  have hne : ¬ canDlcToBytes f.dlc = 0 := by omega
  unfold vSendUARTFrameToPC
  simp only [if_neg hne]
  obtain ⟨rest, hrest⟩ : ∃ rest, f.data = cmd.toByte :: payload ++ rest := by
    refine ⟨f.data.drop (payload.length + 1), ?_⟩
    rw [← hdata, List.take_append_drop]
  refine ⟨rest.take (canDlcToBytes f.dlc - 1 - payload.length), ?_⟩
  rw [hrest]
  simp only [List.cons_append, List.getD_cons_zero, List.drop_succ_cons, List.drop_zero]
  rw [List.take_append, List.take_of_length_le (by omega)]

theorem receive_cons (L : Link) (o : Obs) (log : List Obs) :
    L.receive log (o :: log)
      = (Obs.sent o).toList.filterMap fun m => vSendUARTFrameToPC (L.toHost.frame m.1 m.2) := by
  unfold Link.receive
  have hone : (o :: log).length - log.length = 1 := by
    rw [List.length_cons]
    omega
  rw [hone]
  cases h : Obs.sent o <;> simp [h]

theorem receive_same (L : Link) (log : List Obs) : L.receive log log = [] := by
  simp [Link.receive]

/-- No page is on its way, and the controller takes requests. -/
structure NoneWaiting (img : FWImgCtrl) (x : Exchange) : Prop where
  ready : Ready x.b
  img : x.b.img = img
  frames : ∀ f ∈ x.frames, ¬ f.1 = BootloaderCommand.retLostPacketInfo.toByte

/-- The page of the table, and what is left. -/
def pageIds (img : FWImgCtrl) : List Nat := img.pendingIds.take LOST_PACKET_IDS_PER_PAGE

theorem pageBytes_length (img : FWImgCtrl) (uiFrameSeq : Nat) :
    (pageBytes img uiFrameSeq).length < CAN_MSG_MAX_SIZE := by
  have hpage : (img.pendingIds.take LOST_PACKET_IDS_PER_PAGE).length ≤ 30 := by
    rw [List.length_take]
    exact Nat.min_le_left _ _
  unfold pageBytes CAN_MSG_MAX_SIZE
  simp only [List.length_cons, idBytes_length]
  omega

/-- **One round of the exchange** brings the first pending ids, and leaves the
table as it is. -/
theorem requestPage (L : Link) {img : FWImgCtrl} {x : Exchange} (hx : NoneWaiting img x)
    (hn : img.pendingIds.length < 256) (hids : ∀ id ∈ img.pendingIds, id < 65536) :
    ∃ payload x₁ frame_seq,
      (x.sendBootloaderFrame L .getLostPacketInfo []).waitForSlaveFrame .retLostPacketInfo
        = some (payload, x₁) ∧
      parseLostPacketInfoPayload payload
        = (pageIds img, (img.pendingIds.length : Int) - (pageIds img).length, some frame_seq) ∧
      NoneWaiting img (x₁.acknowledge L (some frame_seq)) := by
  obtain ⟨hready, himg, hframes⟩ := hx
  have hcarried := L.toController.carries .getLostPacketInfo [] (by decide)
  have hasked := step_getLostPacketInfo hready hcarried (L.queued x.messages)
  generalize hb' : step x.b (.frame (L.toController.frame .getLostPacketInfo []),
    L.env x.messages) = b' at hasked
  -- the page arrives, padded
  have hup := L.toHost.carries .retLostPacketInfo (pageBytes img x.b.tx.uiFrameSeq)
    (pageBytes_length img x.b.tx.uiFrameSeq)
  obtain ⟨padding, hpadding⟩ := vSendUARTFrameToPC_carries hup
  have hreceived : L.receive x.b.log b'.log
      = [(BootloaderCommand.retLostPacketInfo.toByte,
          pageBytes img x.b.tx.uiFrameSeq ++ padding)] := by
    rw [hasked.log, receive_cons, himg, lostPacketInfoFrame_eq]
    show List.filterMap _ [(BootloaderCommand.ofByte BootloaderCommand.retLostPacketInfo.toByte,
      pageBytes img x.b.tx.uiFrameSeq)] = _
    rw [show BootloaderCommand.ofByte BootloaderCommand.retLostPacketInfo.toByte
      = .retLostPacketInfo from rfl]
    simp [hpadding]
  have hfind : (x.frames ++ L.receive x.b.log b'.log).find?
      (fun f => f.1 == BootloaderCommand.retLostPacketInfo.toByte)
      = some (BootloaderCommand.retLostPacketInfo.toByte,
          pageBytes img x.b.tx.uiFrameSeq ++ padding) := by
    have hnone : x.frames.find? (fun f => f.1 == BootloaderCommand.retLostPacketInfo.toByte)
        = none := by
      rw [List.find?_eq_none]
      intro f hf
      simpa using hframes f hf
    rw [List.find?_append, hnone, hreceived]
    simp
  have herase : (x.frames ++ L.receive x.b.log b'.log).eraseP
      (fun f => f.1 == BootloaderCommand.retLostPacketInfo.toByte) = x.frames := by
    rw [hreceived, List.eraseP_append_right]
    · simp
    · intro f hf
      simpa using hframes f hf
  refine ⟨_, { b := b', frames := x.frames, messages := x.messages + 1 },
    UInt8.ofNat x.b.tx.uiFrameSeq, ?_,
    parse_pageBytes x.b.tx.uiFrameSeq padding hn hids, ?_⟩
  · unfold Exchange.sendBootloaderFrame Exchange.waitForSlaveFrame
    simp only [hb']
    rw [hfind, herase]
    rfl
  · have hack := @step_retLostPacketInfo (L.env (x.messages + 1)) _ _ _ hready hasked
      (L.toController.carries .retLostPacketInfo _ (show 2 < 64 by decide))
    obtain ⟨hready', himg', hlog'⟩ := hack
    unfold Exchange.acknowledge Exchange.sendBootloaderFrame
    refine ⟨hready', himg'.trans himg, ?_⟩
    simp only [hlog', receive_same, List.append_nil]
    exact hframes

/-! ## §6. The loop. -/

/-- A page of new ids is added as it is. -/
theorem addUnseen_nil {page_ids : List Nat} (h : page_ids.Nodup) : addUnseen [] page_ids = page_ids
    := by
  have hadd : ∀ (rest seen : List Nat), (seen ++ rest).Nodup →
      addUnseen seen rest = seen ++ rest := by
    intro rest
    induction rest with
    | nil => intro seen _; exact (List.append_nil seen).symm
    | cons id rest ih =>
        intro seen hnodup
        have hnew : id ∉ seen := by
          intro hmem
          have hdisjoint := (List.nodup_append.mp hnodup).2.2
          exact hdisjoint id hmem id (List.mem_cons_self ..) rfl
        show addUnseen (if id ∈ seen then seen else seen ++ [id]) rest = _
        rw [if_neg hnew, ih (seen ++ [id]) (by simpa using hnodup)]
        simp
  exact hadd page_ids [] h

/-- A page that has been seen adds nothing. -/
theorem addUnseen_seen {missing_ids page_ids : List Nat} (h : ∀ id ∈ page_ids, id ∈ missing_ids) :
    addUnseen missing_ids page_ids = missing_ids := by
  induction page_ids with
  | nil => rfl
  | cons id rest ih =>
      show addUnseen (if id ∈ missing_ids then missing_ids else _) rest = _
      rw [if_pos (h id (List.mem_cons_self ..))]
      exact ih fun id' h' => h id' (List.mem_cons_of_mem _ h')

/-- One turn of the loop. -/
theorem requestMissingIdsLoop_succ (L : Link) {img : FWImgCtrl} {x : Exchange} (hx : NoneWaiting img x)
    (hn : img.pendingIds.length < 256) (hids : ∀ id ∈ img.pendingIds, id < 65536)
    (pages : Nat) (missing_ids : List Nat) {remaining_count : Int} (hpos : remaining_count > 0) :
    ∃ x', NoneWaiting img x' ∧ requestMissingIdsLoop L (pages + 1) x missing_ids remaining_count
      = if pageIds img = [] then (addUnseen missing_ids (pageIds img), .emptyPage)
        else requestMissingIdsLoop L pages x' (addUnseen missing_ids (pageIds img))
          ((img.pendingIds.length : Int) - (pageIds img).length) := by
  obtain ⟨payload, x₁, frame_seq, hwait, hparse, hquiet⟩ := requestPage L hx hn hids
  refine ⟨_, hquiet, ?_⟩
  rw [requestMissingIdsLoop, if_pos hpos]
  simp only [hwait, hparse]

/-- The loop is left where nothing remains. -/
theorem requestMissingIdsLoop_done (L : Link) (pages : Nat) (x : Exchange) (missing_ids : List Nat) :
    requestMissingIdsLoop L pages x missing_ids 0 = (missing_ids, .complete) := by
  unfold requestMissingIdsLoop
  rw [if_neg (by decide)]

/-- A table that fits in one page is read completely. -/
theorem requestMissingIds_fits (L : Link) {img : FWImgCtrl} {x : Exchange} (hx : NoneWaiting img x)
    (hnodup : img.pendingIds.Nodup) (hids : ∀ id ∈ img.pendingIds, id < 65536)
    (hfits : img.pendingIds.length ≤ LOST_PACKET_IDS_PER_PAGE) :
    ∃ e, e ≠ .pageLimit ∧ requestMissingIds L x = (img.pendingIds, e) := by
  have hpage : pageIds img = img.pendingIds := List.take_of_length_le hfits
  have hn : img.pendingIds.length < 256 := by
    unfold LOST_PACKET_IDS_PER_PAGE at hfits
    omega
  obtain ⟨x', -, hloop⟩ := requestMissingIdsLoop_succ L hx hn hids 63 [] (by decide : (1 : Int) > 0)
  have hrequest : requestMissingIds L x = requestMissingIdsLoop L (63 + 1) x [] 1 := rfl
  rw [hrequest, hloop, hpage, addUnseen_nil hnodup, Int.sub_self, requestMissingIdsLoop_done]
  split
  · exact ⟨.emptyPage, by decide, rfl⟩
  · exact ⟨.complete, by decide, rfl⟩

/-- A larger table is never read completely: every page is the first one. -/
theorem requestMissingIds_exceeds (L : Link) {img : FWImgCtrl} {x : Exchange} (hx : NoneWaiting img x)
    (hnodup : img.pendingIds.Nodup) (hn : img.pendingIds.length < 256)
    (hids : ∀ id ∈ img.pendingIds, id < 65536)
    (hmore : LOST_PACKET_IDS_PER_PAGE < img.pendingIds.length) :
    requestMissingIds L x = (pageIds img, .pageLimit) := by
  have hlen : (pageIds img).length = LOST_PACKET_IDS_PER_PAGE := by
    unfold pageIds
    rw [List.length_take]
    omega
  have hne : pageIds img ≠ [] := by
    intro hempty
    rw [hempty] at hlen
    cases hlen
  have hpos : (img.pendingIds.length : Int) - (pageIds img).length > 0 := by omega
  have hagain : ∀ pages (x : Exchange), NoneWaiting img x →
      requestMissingIdsLoop L pages x (pageIds img)
        ((img.pendingIds.length : Int) - (pageIds img).length) = (pageIds img, .pageLimit) := by
    intro pages
    induction pages with
    | zero =>
        intro x _
        rw [requestMissingIdsLoop, if_pos hpos]
    | succ pages ih =>
        intro x hx
        obtain ⟨x', hx', hloop⟩ := requestMissingIdsLoop_succ L hx hn hids pages (pageIds img) hpos
        rw [hloop, if_neg hne, addUnseen_seen fun id hid => hid]
        exact ih x' hx'
  obtain ⟨x', hx', hloop⟩ := requestMissingIdsLoop_succ L hx hn hids 63 [] (by decide : (1 : Int) > 0)
  have hrequest : requestMissingIds L x = requestMissingIdsLoop L (63 + 1) x [] 1 := rfl
  have hpage : (pageIds img).Nodup := hnodup.sublist (List.take_sublist _ _)
  rw [hrequest, hloop, if_neg hne, addUnseen_nil hpage]
  exact hagain 63 x' hx'

/-- The host has asked for exactly the pending ids, each once. -/
def RequestsPending (L : Link) (x : Exchange) : Prop :=
  (requestMissingIds L x).2 ≠ .pageLimit ∧
    (requestMissingIds L x).1.Perm x.b.img.pendingIds

/-- **The pages of the lost packets.**  For every set of at most 100 pending
ids, the host has them all if and only if they fit in one page. -/
theorem missing_ids_requested (L : Link) (x : Exchange) (hready : Ready x.b)
    (hframes : ∀ f ∈ x.frames, ¬ f.1 = BootloaderCommand.retLostPacketInfo.toByte)
    (hnodup : x.b.img.pendingIds.Nodup) (hn : x.b.img.pendingIds.length ≤ 100)
    (hids : ∀ id ∈ x.b.img.pendingIds, id < 65536) :
    RequestsPending L x ↔ x.b.img.pendingIds.length ≤ LOST_PACKET_IDS_PER_PAGE := by
  have hx : NoneWaiting x.b.img x := ⟨hready, rfl, hframes⟩
  constructor
  · intro h
    by_contra hmore
    have hlimit := requestMissingIds_exceeds L hx hnodup (by omega) hids (not_le.mp hmore)
    apply h.1
    rw [hlimit]
  · intro hfits
    obtain ⟨e, he, hall⟩ := requestMissingIds_fits L hx hnodup hids hfits
    unfold RequestsPending
    rw [hall]
    exact ⟨he, List.Perm.refl _⟩

/-! ## §7. Two tables. -/

/-- The bridge, with every frame padded to 64 bytes. -/
def bridgeLine : CanLine where
  frame := bridgeFrame
  carries _ _ h := carries_bridgeFrame h

def bridgeLink : Link where
  toController := bridgeLine
  toHost := bridgeLine
  env _ := Env.success
  queued _ := rfl

/-- An image of `uiPacketId + 1` packets, of which the last has arrived. -/
def lastPacketOnly (sizeHi sizeLo uiPacketId : UInt8) : Exchange where
  b := runFrames ⟨0x4000⟩
    [bridgeFrame .fwUpReq [0, sizeHi, sizeLo, 0, 0, 0, 0, 0, 0, 0], packetFrame uiPacketId]
  frames := []
  messages := 0

/-- The first of two packets is asked for. -/
theorem missing_ids_requested_one :
    (lastPacketOnly 0 96 1).b.img.pendingIds = [0] ∧
      RequestsPending bridgeLink (lastPacketOnly 0 96 1) := by
  have hids : (lastPacketOnly 0 96 1).b.img.pendingIds = [0] := by decide +kernel
  have hready : Ready (lastPacketOnly 0 96 1).b :=
    ⟨by decide +kernel, by decide +kernel, by decide +kernel, by decide +kernel⟩
  refine ⟨hids, (missing_ids_requested bridgeLink _ hready nofun ?_ ?_ ?_).mpr ?_⟩
    <;> rw [hids] <;> decide

/-- The host never asks for the last of 31 lost packets. -/
theorem missing_ids_not_requested :
    ¬ ∀ (L : Link) (x : Exchange), Ready x.b → x.frames = [] → x.b.img.pendingIds.Nodup →
      x.b.img.pendingIds.length ≤ 100 → (∀ id ∈ x.b.img.pendingIds, id < 65536) →
      RequestsPending L x := by
  intro h
  have hids : (lastPacketOnly 6 0 31).b.img.pendingIds = List.range 31 := by decide +kernel
  have hready : Ready (lastPacketOnly 6 0 31).b :=
    ⟨by decide +kernel, by decide +kernel, by decide +kernel, by decide +kernel⟩
  have hnodup : (lastPacketOnly 6 0 31).b.img.pendingIds.Nodup := by
    rw [hids]
    decide
  have hsmall : ∀ id ∈ (lastPacketOnly 6 0 31).b.img.pendingIds, id < 65536 := by
    rw [hids]
    decide
  have hlen : (lastPacketOnly 6 0 31).b.img.pendingIds.length = 31 := by
    rw [hids]
    rfl
  have hlimit := requestMissingIds_exceeds bridgeLink (x := lastPacketOnly 6 0 31)
    ⟨hready, rfl, nofun⟩ hnodup (by omega) hsmall (by rw [hlen]; decide)
  have hall := h bridgeLink (lastPacketOnly 6 0 31) hready rfl hnodup (by omega) hsmall
  apply hall.1
  rw [hlimit]

end WallController.Bootloader
