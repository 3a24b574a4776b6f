/-
  WallController.Bootloader.UpdateWorker
  ────────────────────────────────
  **AN UPDATE, FROM THE HOST TOOL TO THE CONTROLLER (`_send_update_worker`).**

  The tool sends the update request and waits for its ACK, sends the packets,
  and announces the end.  While the controller answers that packets are missing
  it asks for their ids and sends them again, in five rounds at most
  (`_complete_update_with_recovery`).

  The line may lose any packet, in the first pass and in each round; the
  commands, the pages and the answers arrive.  The user may leave packets out
  (`omit_ids`).

  §2 is about what can no longer become a complete update (`Doomed`), and §5
  about the exchange that is left then (`GivenUp`): it never ends in the report
  of a complete update.
-/
import WallController.Bootloader.Reassembly
import WallController.Bootloader.SentFrames
import WallController.Lib.Resend

namespace WallController.Bootloader

open WallController.Lib

/-! ## §1. The host. -/

def BOOTLOADER_NACK : UInt8 := 11
def BOOTLOADER_ERROR_MISSING_PACKETS_PENDING : UInt8 := 17
def MAX_AUTO_RECOVERY_ROUNDS : Nat := 5

/-- The line of an update: `lost round packet_id` where the packet does not
arrive in the round; round 0 is the first pass. -/
structure UpdateLink extends Link where
  lost : Nat → Nat → Bool

/-- `send_bootloader_frame(CMD_FW_UP_MSG, packet.payload)`. -/
def Exchange.sendPacket (U : UpdateLink) (round : Nat) (packet : FirmwarePacket) (x : Exchange) :
    Exchange :=
  if U.lost round packet.packet_id then { x with messages := x.messages + 1 }
  else x.sendBootloaderFrame U.toLink .fwUpMsg packet.payload

/-- `wait_for_slave_ack(expected_command)`, which raises without an ACK. -/
def Exchange.waitForSlaveAck (expected_command : BootloaderCommand) (x : Exchange) :
    Option Exchange :=
  match x.waitForSlaveFrame expected_command with
  | none => none
  | some (payload, x) =>
      if payload.length < 2 then none
      else if payload.getD 0 0 = BOOTLOADER_ACK then some x
      else none

/-- The exchange that `_open_client` starts. -/
def Exchange.start (b : Btl) : Exchange := { b, frames := [], messages := 0 }

/-- How an update ends. -/
inductive UpdateEnd where
  /-- "Firmware update stream completed". -/
  | completed
  /-- An exception. -/
  | raised
  /-- No slave response observed after FW update end. -/
  | noResponse
  /-- Slave rejected FW update end. -/
  | rejected
  /-- Automatic missing-packet recovery limit reached. -/
  | recoveryLimit
  /-- Missing packets, but no packet ids were received. -/
  | noIds
  deriving DecidableEq, Repr

/-- The loop of `_request_missing_ids_with_client`, with the exchange that it
leaves. -/
def requestMissingIdsWith (L : Link) (pages : Nat) (x : Exchange) (missing_ids : List Nat)
    (remaining_count : Int) : List Nat × Exchange :=
  if remaining_count > 0 then
    match pages with
    | 0 => (missing_ids, x)
    | pages + 1 =>
        match (x.sendBootloaderFrame L .getLostPacketInfo []).waitForSlaveFrame
            .retLostPacketInfo with
        -- the timeout ends the loop, with the ids of the pages before it
        | none => (missing_ids, x.sendBootloaderFrame L .getLostPacketInfo [])
        | some (payload, x) =>
            let (page_ids, remaining_count, frame_seq) := parseLostPacketInfoPayload payload
            let missing_ids := addUnseen missing_ids page_ids
            let x := x.acknowledge L frame_seq
            if page_ids = [] then (missing_ids, x)
            else requestMissingIdsWith L pages x missing_ids remaining_count
  else (missing_ids, x)

/-- The ids are those of the loop without its exchange. -/
theorem requestMissingIdsWith_fst (L : Link) (pages : Nat) (x : Exchange) (missing_ids : List Nat)
    (remaining_count : Int) :
    (requestMissingIdsWith L pages x missing_ids remaining_count).1
      = (requestMissingIdsLoop L pages x missing_ids remaining_count).1 := by
  induction pages generalizing x missing_ids remaining_count with
  | zero =>
      unfold requestMissingIdsWith requestMissingIdsLoop
      split <;> rfl
  | succ pages ih =>
      unfold requestMissingIdsWith requestMissingIdsLoop
      split
      · cases (x.sendBootloaderFrame L .getLostPacketInfo []).waitForSlaveFrame
            .retLostPacketInfo with
        | none => rfl
        | some r =>
            obtain ⟨payload, x₁⟩ := r
            dsimp only
            split
            · rfl
            · exact ih _ _ _
      · rfl

/-- The packets of a round, one after the other. -/
def Exchange.sendPackets (U : UpdateLink) (round : Nat) (packets : List FirmwarePacket)
    (x : Exchange) : Exchange :=
  packets.foldl (fun x packet => x.sendPacket U round packet) x

/-- `_send_packets_with_client(client, packet_ids)`. -/
def sendPacketsWithClient (U : UpdateLink) (round : Nat) (packets : List FirmwarePacket)
    (packet_ids : List Nat) (x : Exchange) : Exchange :=
  packet_ids.foldl (fun x packet_id =>
    match packets[packet_id]? with
    -- an id out of the range is skipped
    | none => x
    | some packet => x.sendPacket U round packet) x

/-- The packets of the ids are sent. -/
theorem sendPacketsWithClient_eq (U : UpdateLink) (round : Nat) (packets : List FirmwarePacket)
    (packet_ids : List Nat) (x : Exchange) :
    sendPacketsWithClient U round packets packet_ids x
      = x.sendPackets U round (packet_ids.filterMap fun packet_id => packets[packet_id]?) := by
  unfold sendPacketsWithClient Exchange.sendPackets
  rw [List.foldl_filterMap]
  congr
  funext x packet_id
  cases packets[packet_id]? <;> rfl

/-- `_complete_update_with_recovery(client)`, with the number of the next round
and the rounds left before the limit. -/
def completeUpdateWithRecovery (U : UpdateLink) (packets : List FirmwarePacket) :
    (recovery_round left : Nat) → Exchange → UpdateEnd × Exchange
  | recovery_round, left, x =>
      match (x.sendBootloaderFrame U.toLink .fwUpEnd []).waitForSlaveFrame .fwUpEnd with
      | none => (.noResponse, x.sendBootloaderFrame U.toLink .fwUpEnd [])
      | some (payload, x) =>
          -- the first two bytes alone decide; the rest is padding of the frame
          if payload.length ≥ 2 ∧ payload.getD 0 0 = BOOTLOADER_ACK then (.completed, x)
          else if ¬ (payload.length ≥ 2 ∧ payload.getD 0 0 = BOOTLOADER_NACK
              ∧ payload.getD 1 0 = BOOTLOADER_ERROR_MISSING_PACKETS_PENDING) then (.rejected, x)
          else
            match left with
            | 0 => (.recoveryLimit, x)
            | left + 1 =>
                let (missing_ids, x) :=
                  requestMissingIdsWith U.toLink MAX_LOST_PACKET_INFO_PAGES x [] 1
                if missing_ids = [] then (.noIds, x)
                else
                  completeUpdateWithRecovery U packets (recovery_round + 1) left
                    (sendPacketsWithClient U recovery_round packets missing_ids x)

/-- `_send_update_worker(omit_ids)` for a loaded image. -/
def sendUpdateWorker (U : UpdateLink) (image : List UInt8) (omit_ids : List Nat) (x : Exchange) :
    UpdateEnd × Exchange :=
  match buildFwPackets image, buildFwUpdateRequest image with
  | some packets, some request =>
      match (x.sendBootloaderFrame U.toLink .fwUpReq request).waitForSlaveAck .fwUpReq with
      | none => (.raised, x.sendBootloaderFrame U.toLink .fwUpReq request)
      | some x =>
          completeUpdateWithRecovery U packets 1 MAX_AUTO_RECOVERY_ROUNDS
            (x.sendPackets U 0 (packets.filter fun packet => packet.packet_id ∉ omit_ids))
  | _, _ => (.raised, x)

/-! ## §2. What can no longer become a complete update. -/

/-- The update of the session cannot complete: the controller has stopped or
given up, the session has missed its first packet before the handle was opened,
or the image has too many packets. -/
def Doomed (slot : FlashArea) (b : Btl) : Prop :=
  b.halted ≠ none ∨ b.mgmt.eBtlState = .error ∨
    (Writing b ∧ Base slot b ∧
      (Unopened slot b ∧ b.mgmt.uiFWImgSize < 4294967296 ∨
        UINT16_MAX < uiExpectedPacketCount b.mgmt.uiFWImgSize))

/-- A step within the session leaves the management record as it is. -/
theorem step_mgmt_eq {slot : FlashArea} {b : Btl} (hb : Base slot b) (hw : Writing b)
    (a : Event × Env) (hw' : Writing (step b a)) : (step b a).mgmt = b.mgmt := by
  obtain ⟨b₀, b₁, hk₀, htr, hk₁⟩ := step_transition hb hw.1 a
  have hw₀ : Writing b₀ := ⟨hk₀.work.halted.trans hw.1, by rw [hk₀.work.mgmt]; exact hw.2⟩
  have hw₁ : Writing b₁ := ⟨hk₁.work.halted ▸ hw'.1, hk₁.work.mgmt ▸ hw'.2⟩
  rw [hk₁.work.mgmt, htr.mgmt_eq (hb.kept hk₀) hw₀ hw₁, hk₀.work.mgmt]

/-- A step leaves the controller initialized. -/
theorem step_initialized {slot : FlashArea} {b : Btl} (hb : Base slot b) (hrun : b.halted = none)
    (a : Event × Env) : (step b a).mgmt.bIsInitialized = b.mgmt.bIsInitialized := by
  obtain ⟨b₀, b₁, hk₀, htr, hk₁⟩ := step_transition hb hrun a
  rw [hk₁.work.mgmt, htr.initialized (hb.kept hk₀), hk₀.work.mgmt]

/-- The state after a frame of the host: as before, the error state, or that of
the transition which the command is for. -/
theorem step_hostFrame_state {slot : FlashArea} {b : Btl} {f : CanFrame} {cmd : BootloaderCommand}
    {payload : List UInt8} (env : Env) (hinv : RunningInv slot b) (hrun : b.halted = none)
    (hinit : b.mgmt.bIsInitialized = true) (hc : Carries f cmd payload)
    (hcmd : HostCommand cmd payload) :
    (step b (.frame f, env)).mgmt.eBtlState = b.mgmt.eBtlState ∨
      (step b (.frame f, env)).mgmt.eBtlState = .error ∨
      Caused cmd b (step b (.frame f, env)) := by
  have hformat : (vFormatBootloaderMsg b.mgmt.bIsInitialized f).eCMD = cmd := by
    rw [hinit]
    rcases hcmd with (⟨rfl, hl⟩ | ⟨rfl, hl⟩ | ⟨rfl, hl⟩) | ⟨rfl, hl⟩ | ⟨rfl, hl⟩
    all_goals
      rw [vFormatBootloaderMsg_eq hc (by decide) rfl (by rw [hl]; rfl)]
      rfl
  cases hinv.answer hrun f env with
  | nack r hr hok he hst hcaused hun => exact hst.imp_right .inl
  | ack r hr hok hcaused hearned hun =>
      rw [hformat] at hcaused
      exact .inr (.inr hcaused)
  | quiet h hcaused why => exact h.state.imp_right .inl

namespace Doomed

variable {slot : FlashArea} {b : Btl} {f : CanFrame} {cmd : BootloaderCommand}
  {payload : List UInt8} {env : Env}

/-- None of its commands takes its transition. -/
theorem not_caused (h : Doomed slot b) (hrun : b.halted = none) (hc : Carries f cmd payload)
    (hcmd : HostCommand cmd payload) (hreq : cmd ≠ .fwUpReq) :
    ¬ Caused cmd b (Bootloader.step b (.frame f, env)) := by
  intro hcaused
  unfold Caused at hcaused
  -- of these commands, the end of the image alone has a transition
  rcases hcmd with (⟨rfl, -⟩ | ⟨rfl, -⟩ | ⟨rfl, hl⟩) | ⟨rfl, -⟩ | ⟨rfl, -⟩
  · exact hreq rfl
  · cases hcaused
  · obtain rfl := List.eq_nil_of_length_eq_zero hl
    simp only [ownTransition, Option.some.injEq, Prod.mk.injEq] at hcaused
    obtain ⟨hst, hreboot⟩ := hcaused
    rcases h with h | h | ⟨hw, hb, ⟨hun, hsize⟩ | hlarge⟩
    · exact h hrun
    · rw [h] at hst
      cases hst
    · exact hun.not_reboot hc hsize hreboot.symm
    · have hmax := (checked_of_reboot hb hw hc hreboot.symm).1
      omega
  · cases hcaused
  · cases hcaused

/-- **No frame of the host changes that.** -/
theorem step (h : Doomed slot b) (hinv : b.halted = none → RunningInv slot b)
    (hinit : b.mgmt.bIsInitialized = true) (hc : Carries f cmd payload)
    (hcmd : HostCommand cmd payload) (hreq : cmd ≠ .fwUpReq) :
    Doomed slot (Bootloader.step b (.frame f, env)) := by
  by_cases hrun : b.halted = none
  swap
  · rw [step_halted hrun]
    exact .inl hrun
  by_cases hrun' : (Bootloader.step b (.frame f, env)).halted = none
  swap
  · exact .inl hrun'
  have hnot : ¬ Caused cmd b (Bootloader.step b (.frame f, env)) :=
    h.not_caused hrun hc hcmd hreq
  rcases step_hostFrame_state env (hinv hrun) hrun hinit hc hcmd with hsame | herr | hcaused
  · -- in the same state the reason stands
    rcases h with h | h | ⟨hw, hb, hwhy⟩
    · exact absurd hrun h
    · exact .inr (.inl (hsame.trans h))
    · have hw' : Writing (Bootloader.step b (.frame f, env)) := ⟨hrun', hsame.trans hw.2⟩
      have hmgmt := step_mgmt_eq hb hw (.frame f, env) hw'
      refine .inr (.inr ⟨hw', hb.step hrun _ hrun', ?_⟩)
      rw [hmgmt]
      exact hwhy.imp_left fun hun => ⟨hun.1.step _ hw', hun.2⟩
  · exact .inr (.inl herr)
  · exact absurd hcaused hnot

end Doomed

/-! ## §3. Frames and answers. -/

/-- A frame of the controller reaches the host with its payload, and some padding. -/
theorem toHost_carried (L : Link) {cmd : BootloaderCommand} {payload : List UInt8}
    (hlen : payload.length < CAN_MSG_MAX_SIZE) :
    ∃ padding, vSendUARTFrameToPC (L.toHost.frame cmd payload)
      = some (cmd.toByte, payload ++ padding) :=
  vSendUARTFrameToPC_carries (L.toHost.carries cmd payload hlen)

namespace Exchange

variable {L : Link} {command : BootloaderCommand} {payload : List UInt8} {x : Exchange}

/-- A message that the controller does not answer. -/
theorem send_silent
    (h : (step x.b (.frame (L.toController.frame command payload), L.env x.messages)).sent
      = x.b.sent) : (x.sendBootloaderFrame L command payload).frames = x.frames := by
  have hnone := receive_of_sent L (show _ = [] ++ x.b.sent from h)
  unfold sendBootloaderFrame
  dsimp only
  rw [hnone]
  exact List.append_nil _

/-- A message that the controller answers with one frame. -/
theorem send_one {cmd : BootloaderCommand} {answer : List UInt8}
    (hlen : answer.length < CAN_MSG_MAX_SIZE)
    (h : (step x.b (.frame (L.toController.frame command payload), L.env x.messages)).sent
      = (cmd, answer) :: x.b.sent) :
    ∃ padding, (x.sendBootloaderFrame L command payload).frames
      = x.frames ++ [(cmd.toByte, answer ++ padding)] := by
  obtain ⟨padding, hcarried⟩ : ∃ padding, vSendUARTFrameToPC (L.toHost.frame cmd answer)
      = some (cmd.toByte, answer ++ padding) := toHost_carried L hlen
  have hone := receive_of_sent L (show _ = [(cmd, answer)] ++ x.b.sent from h)
  refine ⟨padding, ?_⟩
  unfold sendBootloaderFrame
  dsimp only
  rw [hone]
  simp [hcarried]

theorem waitForSlaveFrame_none {cmd : BootloaderCommand}
    (h : ∀ f ∈ x.frames, ¬ f.1 = cmd.toByte) : x.waitForSlaveFrame cmd = none := by
  unfold waitForSlaveFrame
  rw [List.find?_eq_none.mpr]
  · rfl
  · intro f hf
    simpa using h f hf

/-- The frame waited for is the last one. -/
theorem waitForSlaveFrame_last {cmd : BootloaderCommand} {frames : List SlaveFrame}
    {answer : List UInt8} (hx : x.frames = frames ++ [(cmd.toByte, answer)])
    (h : ∀ f ∈ frames, ¬ f.1 = cmd.toByte) :
    x.waitForSlaveFrame cmd = some (answer, { x with frames := frames }) := by
  have hno : ∀ f ∈ frames, ¬ (f.1 == cmd.toByte) = true := by
    intro f hf
    simpa using h f hf
  unfold waitForSlaveFrame
  rw [hx, List.find?_append, List.find?_eq_none.mpr hno, List.eraseP_append_right _ hno]
  simp

/-- An ACK is taken. -/
theorem waitForSlaveAck_acked {cmd : BootloaderCommand} {rest : List UInt8} {x' : Exchange}
    (hwait : x.waitForSlaveFrame cmd = some (eCAN_ACK :: rest, x')) (hrest : 1 ≤ rest.length) :
    x.waitForSlaveAck cmd = some x' := by
  unfold waitForSlaveAck
  rw [hwait]
  dsimp only
  rw [if_neg (by rw [List.length_cons]; omega)]
  exact if_pos rfl

/-- **The answer to a command** is what the host waits for. -/
theorem answered {slot : FlashArea} (hreach : (machine slot).Reachable x.b)
    (hrun : x.b.halted = none) (hinit : x.b.mgmt.bIsInitialized = true)
    (hcmd : UpdateCommand command payload) (hanswered : command ≠ .fwUpMsg)
    (hlen : payload.length < CAN_MSG_MAX_SIZE) (hreboot : x.b.mgmt.eBtlState ≠ .reboot)
    (hframes : ∀ f ∈ x.frames, ¬ f.1 = command.toByte) :
    ∃ (bIsMsgOk : Bool) (rest : List UInt8),
      (x.sendBootloaderFrame L command payload).waitForSlaveFrame command
        = some ((if bIsMsgOk then eCAN_ACK else eCAN_NACK) :: rest,
            { x.sendBootloaderFrame L command payload with frames := x.frames }) ∧
      1 ≤ rest.length ∧
      (bIsMsgOk = true ↔ Caused command x.b (x.sendBootloaderFrame L command payload).b) := by
  obtain ⟨bIsMsgOk, eErrorCode, hsent, hcaused⟩ := step_command_sent (L.env x.messages)
    (runningInv_of_reachable hreach hrun) hrun hinit (L.toController.carries command payload hlen)
    hcmd hanswered hreboot
  obtain ⟨padding, hlast⟩ := send_one (by show 2 < 64; omega) hsent
  exact ⟨bIsMsgOk, UInt8.ofNat eErrorCode.ctorIdx :: padding,
    waitForSlaveFrame_last hlast hframes, by rw [List.length_cons]; omega, hcaused⟩

end Exchange

/-! ## §4. The exchange. -/

/-- What holds of the exchange at the start of the loop and is kept by its
messages holds at its end. -/
theorem requestMissingIdsWith_invariant {L : Link} {I : Exchange → Prop}
    (hquery : ∀ x, I x → I (x.sendBootloaderFrame L .getLostPacketInfo []))
    (hwait : ∀ x payload x', I x → x.waitForSlaveFrame .retLostPacketInfo = some (payload, x') → I x')
    (hack : ∀ x frame_seq, I x → I (x.acknowledge L frame_seq))
    (pages : Nat) (x : Exchange) (missing_ids : List Nat) (remaining_count : Int) (h : I x) :
    I (requestMissingIdsWith L pages x missing_ids remaining_count).2 := by
  induction pages generalizing x missing_ids remaining_count with
  | zero =>
      unfold requestMissingIdsWith
      split
      · exact h
      · exact h
  | succ pages ih =>
      unfold requestMissingIdsWith
      split
      swap
      · exact h
      cases hw : (x.sendBootloaderFrame L .getLostPacketInfo []).waitForSlaveFrame
          .retLostPacketInfo with
      | none => exact hquery x h
      | some r =>
          obtain ⟨payload, x₁⟩ := r
          dsimp only
          have hpage : I (x₁.acknowledge L (parseLostPacketInfoPayload payload).2.2) :=
            hack _ _ (hwait _ _ _ (hquery x h) hw)
          split
          · exact hpage
          · exact ih _ _ _ hpage

/-- The controller is initialized, and no answer to an end is waiting. -/
structure Connected (slot : FlashArea) (x : Exchange) : Prop where
  reach : (machine slot).Reachable x.b
  init : x.b.mgmt.bIsInitialized = true
  frames : ∀ f ∈ x.frames, ¬ f.1 = BootloaderCommand.fwUpEnd.toByte

namespace Connected

variable {slot : FlashArea} {x : Exchange}

/-- A message of the host. -/
theorem send (h : Connected slot x) (L : Link) {cmd : BootloaderCommand} {payload : List UInt8}
    (hframes : ∀ f ∈ (x.sendBootloaderFrame L cmd payload).frames,
      ¬ f.1 = BootloaderCommand.fwUpEnd.toByte) :
    Connected slot (x.sendBootloaderFrame L cmd payload) where
  reach := h.reach.step trivial rfl
  init := by
    show (step x.b _).mgmt.bIsInitialized = true
    by_cases hrun : x.b.halted = none
    · rw [step_initialized (base_of_reachable h.reach hrun) hrun]
      exact h.init
    · rw [step_halted hrun]
      exact h.init
  frames := hframes

/-- A packet brings nothing to the host. -/
theorem sendPacket_frames (h : Connected slot x) (U : UpdateLink) (round : Nat)
    {packet : FirmwarePacket} (hlen : packet.payload.length = FW_IMG_PACKET_DATA_LENGTH) :
    (x.sendPacket U round packet).frames = x.frames := by
  unfold Exchange.sendPacket
  split
  · rfl
  · apply Exchange.send_silent
    by_cases hrun : x.b.halted = none
    · refine step_packet_sent _ (runningInv_of_reachable h.reach hrun) hrun h.init
        (U.toController.carries _ _ ?_) hlen
      rw [hlen]
      decide
    · rw [step_halted hrun]

theorem sendPacket (h : Connected slot x) (U : UpdateLink) (round : Nat) {packet : FirmwarePacket}
    (hlen : packet.payload.length = FW_IMG_PACKET_DATA_LENGTH) :
    Connected slot (x.sendPacket U round packet) := by
  have hframes := h.sendPacket_frames U round hlen
  unfold Exchange.sendPacket at hframes ⊢
  split
  · exact ⟨h.reach, h.init, h.frames⟩
  · next hlost =>
      rw [if_neg hlost] at hframes
      refine h.send U.toLink ?_
      rw [hframes]
      exact h.frames

theorem query (h : Connected slot x) (L : Link) :
    Connected slot (x.sendBootloaderFrame L .getLostPacketInfo []) := by
  refine h.send L ?_
  by_cases hrun : x.b.halted = none
  · rcases step_query_sent (L.env x.messages) (runningInv_of_reachable h.reach hrun) hrun h.init
      (L.toController.carries .getLostPacketInfo [] (by decide)) with hsent | hsent
    · rw [Exchange.send_silent hsent]
      exact h.frames
    · obtain ⟨padding, hpage⟩ := Exchange.send_one (pageBytes_length _ _) hsent
      -- a page is no answer to an end
      rw [hpage]
      intro f hf
      rcases List.mem_append.mp hf with hf | hf
      · exact h.frames f hf
      · rw [List.mem_singleton.mp hf]
        show ¬ BootloaderCommand.retLostPacketInfo.toByte = BootloaderCommand.fwUpEnd.toByte
        decide
  · rw [Exchange.send_silent (by rw [step_halted hrun])]
    exact h.frames

theorem acknowledge (h : Connected slot x) (L : Link) (frame_seq : Option UInt8) :
    Connected slot (x.acknowledge L frame_seq) := by
  cases frame_seq with
  | none => exact h
  | some frame_seq =>
      refine h.send L ?_
      rw [Exchange.send_silent]
      · exact h.frames
      · by_cases hrun : x.b.halted = none
        · exact step_acknowledge_sent _ (runningInv_of_reachable h.reach hrun) hrun h.init
            (L.toController.carries _ _ (by show 2 < 64; omega))
        · rw [step_halted hrun]

/-- A frame is taken. -/
theorem wait (h : Connected slot x) {cmd : BootloaderCommand} {payload : List UInt8}
    {x' : Exchange} (hw : x.waitForSlaveFrame cmd = some (payload, x')) :
    Connected slot x' ∧ x'.b = x.b := by
  unfold Exchange.waitForSlaveFrame at hw
  obtain ⟨f, -, hx⟩ := Option.map_eq_some_iff.mp hw
  obtain ⟨-, rfl⟩ := Prod.mk.inj hx
  exact ⟨⟨h.reach, h.init, fun g hg => h.frames g (List.mem_of_mem_eraseP hg)⟩, rfl⟩

end Connected

/-! ## §5. The exchange that is left. -/

/-- The update of the exchange cannot complete. -/
structure GivenUp (slot : FlashArea) (x : Exchange) : Prop extends Connected slot x where
  doomed : Doomed slot x.b

namespace GivenUp

variable {slot : FlashArea} {x : Exchange}

/-- A message of the host leaves it so. -/
theorem send (h : GivenUp slot x) (L : Link) {cmd : BootloaderCommand} {payload : List UInt8}
    (hconnected : Connected slot (x.sendBootloaderFrame L cmd payload))
    (hcmd : HostCommand cmd payload) (hreq : cmd ≠ .fwUpReq)
    (hlen : payload.length < CAN_MSG_MAX_SIZE) :
    GivenUp slot (x.sendBootloaderFrame L cmd payload) where
  toConnected := hconnected
  doomed := h.doomed.step (runningInv_of_reachable h.reach) h.init
    (L.toController.carries cmd payload hlen) hcmd hreq

theorem sendPacket (h : GivenUp slot x) (U : UpdateLink) (round : Nat) {packet : FirmwarePacket}
    (hlen : packet.payload.length = FW_IMG_PACKET_DATA_LENGTH) :
    GivenUp slot (x.sendPacket U round packet) := by
  have hconnected := h.toConnected.sendPacket U round hlen
  unfold Exchange.sendPacket at hconnected ⊢
  split
  · exact ⟨⟨h.reach, h.init, h.frames⟩, h.doomed⟩
  · next hlost =>
      rw [if_neg hlost] at hconnected
      refine h.send U.toLink hconnected (.inl (.inr (.inl ⟨rfl, hlen⟩))) nofun ?_
      rw [hlen]
      decide

theorem requestMissingIds (h : GivenUp slot x) (L : Link) (pages : Nat) (missing_ids : List Nat)
    (remaining_count : Int) :
    GivenUp slot (requestMissingIdsWith L pages x missing_ids remaining_count).2 := by
  refine requestMissingIdsWith_invariant ?_ ?_ ?_ pages x missing_ids remaining_count h
  · intro y hy
    exact hy.send L (hy.query L) (.inr (.inl ⟨rfl, rfl⟩)) nofun (by decide)
  · intro y payload y' hy hw
    obtain ⟨hconnected, hb⟩ := hy.wait hw
    exact ⟨hconnected, hb ▸ hy.doomed⟩
  · intro y frame_seq hy
    cases frame_seq with
    | none => exact hy
    | some frame_seq =>
        exact hy.send L (hy.acknowledge L (some frame_seq)) (.inr (.inr ⟨rfl, rfl⟩)) nofun
          (by show 2 < 64; omega)

theorem sendPackets (h : GivenUp slot x) (U : UpdateLink) (round : Nat)
    {packets : List FirmwarePacket}
    (hlen : ∀ p ∈ packets, p.payload.length = FW_IMG_PACKET_DATA_LENGTH) :
    GivenUp slot (x.sendPackets U round packets) := by
  unfold Exchange.sendPackets
  induction packets generalizing x with
  | nil => exact h
  | cons p rest ih =>
      rw [List.foldl_cons]
      exact ih (h.sendPacket U round (hlen p List.mem_cons_self)) fun q hq =>
        hlen q (List.mem_cons_of_mem _ hq)

end GivenUp

/-- The end of the image is not acknowledged, and the update cannot complete. -/
def EndRefused (slot : FlashArea) (L : Link) (x : Exchange) : Prop :=
  (x.sendBootloaderFrame L .fwUpEnd []).waitForSlaveFrame .fwUpEnd = none ∨
    ∃ rest x', (x.sendBootloaderFrame L .fwUpEnd []).waitForSlaveFrame .fwUpEnd
      = some (eCAN_NACK :: rest, x') ∧ GivenUp slot x'

/-- An end that does not take its transition, and leaves nothing to complete. -/
theorem EndRefused.of_doomed {slot : FlashArea} {L : Link} {x : Exchange}
    (hreach : (machine slot).Reachable x.b) (hrun : x.b.halted = none)
    (hinit : x.b.mgmt.bIsInitialized = true) (hreboot : x.b.mgmt.eBtlState ≠ .reboot)
    (hframes : ∀ f ∈ x.frames, ¬ f.1 = BootloaderCommand.fwUpEnd.toByte)
    (hnot : ¬ Caused .fwUpEnd x.b (x.sendBootloaderFrame L .fwUpEnd []).b)
    (hdoomed : Doomed slot (x.sendBootloaderFrame L .fwUpEnd []).b) : EndRefused slot L x := by
  obtain ⟨bIsMsgOk, rest, hwait, -, hcaused⟩ := Exchange.answered (L := L) hreach hrun hinit
    (show UpdateCommand .fwUpEnd [] from .inr (.inr ⟨rfl, rfl⟩)) nofun (by decide) hreboot hframes
  -- an ACK would have been that of the transition
  have hnack : bIsMsgOk = false := by
    cases bIsMsgOk with
    | false => rfl
    | true => exact absurd (hcaused.mp rfl) hnot
  rw [hnack] at hwait
  refine .inr ⟨rest, _, hwait, ⟨hreach.step trivial rfl, ?_, hframes⟩, hdoomed⟩
  show (step x.b _).mgmt.bIsInitialized = true
  rw [step_initialized (base_of_reachable hreach hrun) hrun]
  exact hinit

namespace GivenUp

variable {slot : FlashArea} {x : Exchange}

/-- The end of the image. -/
theorem announce (h : GivenUp slot x) (L : Link) : EndRefused slot L x := by
  have hcmd : HostCommand .fwUpEnd [] := .inl (.inr (.inr ⟨rfl, rfl⟩))
  have hcarried := L.toController.carries .fwUpEnd [] (by decide)
  by_cases hrun : x.b.halted = none
  · have hreboot : x.b.mgmt.eBtlState ≠ .reboot := by
      intro hst
      rcases h.doomed with hd | hd | ⟨hw, -⟩
      · exact hd hrun
      · rw [hst] at hd
        cases hd
      · have hwriting := hw.2
        rw [hst] at hwriting
        cases hwriting
    exact .of_doomed h.reach hrun h.init hreboot h.frames
      (h.doomed.not_caused hrun hcarried hcmd nofun)
      (h.doomed.step (runningInv_of_reachable h.reach) h.init hcarried hcmd nofun)
  · -- a controller that has stopped answers nothing
    left
    apply Exchange.waitForSlaveFrame_none
    rw [Exchange.send_silent (by rw [step_halted hrun])]
    exact h.frames

end GivenUp

/-- A refused end, by what comes of the rounds after it. -/
theorem EndRefused.not_completed_of {slot : FlashArea} {x : Exchange} {U : UpdateLink}
    {packets : List FirmwarePacket} (h : EndRefused slot U.toLink x)
    (hlen : ∀ p ∈ packets, p.payload.length = FW_IMG_PACKET_DATA_LENGTH)
    {recovery_round left : Nat}
    (hrest : ∀ left' x', left = left' + 1 → GivenUp slot x' →
      (completeUpdateWithRecovery U packets (recovery_round + 1) left' x').1 ≠ .completed) :
    (completeUpdateWithRecovery U packets recovery_round left x).1 ≠ .completed := by
  unfold completeUpdateWithRecovery
  rcases h with hnone | ⟨rest, x', hwait, h'⟩
  · rw [hnone]
    nofun
  rw [hwait]
  dsimp only
  rw [if_neg fun hack => absurd hack.2 (show ¬ eCAN_NACK = BOOTLOADER_ACK by decide)]
  -- an error other than the missing packets, no round left, or no ids: all end here
  split
  · nofun
  split
  · nofun
  · next left' =>
      split
      · nofun
      · refine hrest left' _ rfl ?_
        rw [sendPacketsWithClient_eq]
        refine (h'.requestMissingIds U.toLink _ _ _).sendPackets U recovery_round ?_
        intro p hp
        obtain ⟨packet_id, -, hpacket⟩ := List.mem_filterMap.mp hp
        exact hlen p (List.mem_of_getElem? hpacket)

/-- **An update that cannot complete is not reported as complete.** -/
theorem GivenUp.not_completed {slot : FlashArea} {x : Exchange} (h : GivenUp slot x)
    {U : UpdateLink} {packets : List FirmwarePacket}
    (hlen : ∀ p ∈ packets, p.payload.length = FW_IMG_PACKET_DATA_LENGTH)
    (recovery_round left : Nat) :
    (completeUpdateWithRecovery U packets recovery_round left x).1 ≠ .completed := by
  induction left generalizing recovery_round x with
  | zero =>
      exact (h.announce U.toLink).not_completed_of hlen fun left' _ hleft _ => absurd hleft (by omega)
  | succ left ih =>
      refine (h.announce U.toLink).not_completed_of hlen ?_
      intro left' x' hleft h'
      obtain rfl : left = left' := by omega
      exact ih h' _

theorem EndRefused.not_completed {slot : FlashArea} {x : Exchange} {U : UpdateLink}
    {packets : List FirmwarePacket} (h : EndRefused slot U.toLink x)
    (hlen : ∀ p ∈ packets, p.payload.length = FW_IMG_PACKET_DATA_LENGTH)
    (recovery_round left : Nat) :
    (completeUpdateWithRecovery U packets recovery_round left x).1 ≠ .completed :=
  h.not_completed_of hlen fun _ _ _ h' => h'.not_completed hlen _ _

end WallController.Bootloader
