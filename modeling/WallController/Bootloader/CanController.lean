/-
  WallController.Bootloader.CanController
  ────────────────────────────────
  **BOOTLOADER FRAMES (`CAN_Controller.c`) AND THE MACHINE AS A WHOLE.**

  A received frame is checked and turned into a control message
  (`vFormatBootloaderMsg`), handled, and answered.  `step` is one event of the
  controller: a frame, or the run of one of the two timer handlers, with the
  results of the calls it makes.  A stopped machine takes no step.
-/
import WallController.Bootloader.Ctrl
import WallController.Lib.Runs

namespace WallController.Bootloader

open WallController.Lib

/-! ## §1. From frames to messages. -/

/-- `can_dlc_to_bytes`. -/
def canDlcToBytes (dlc : Nat) : Nat :=
  [0, 1, 2, 3, 4, 5, 6, 7, 8, 12, 16, 20, 24, 32, 48, 64].getD (min dlc 15) 0

/-- `bGet_BootloaderExpectedPayloadLen`. -/
def bGetBootloaderExpectedPayloadLen : BootloaderCommand → Option Nat
  | .fwUpReq => some 10
  | .fwUpMsg => some FW_IMG_PACKET_DATA_LENGTH
  | .fwUpEnd | .fwUpPause | .fwUpStop | .getLostPacketInfo | .recoverFromError => some 0
  | .retLostPacketInfo => some 2
  | _ => none

/-- `vUpdate_BtlMsgACK_Requirement`. -/
def vUpdateBtlMsgACKRequirement (m : CtrlMsg) : CtrlMsg :=
  match m.eCMD with
  | .fwUpReq | .fwUpEnd | .fwUpPause | .fwUpStop | .recoverFromError =>
      { m with bIsACKReq := true, bIsMsgOk := true, eErrorCode := .none }
  | .fwUpMsg | .getLostPacketInfo | .retLostPacketInfo =>
      { m with bIsACKReq := false, bIsMsgOk := true, eErrorCode := .none }
  | _ => { m with bIsMsgOk := false, eErrorCode := .invalidCommand }

/-- The zeroed control message of `vHandle_Bootloader_Messages`. -/
def CtrlMsg.zero : CtrlMsg where
  eCMD := .invalid
  bIsMsgOk := false
  bIsACKReq := false
  eErrorCode := .none
  uiaData := []

/-- `vFormat_Bootloader_Msg`. -/
def vFormatBootloaderMsg (bIsInitialized : Bool) (f : CanFrame) : CtrlMsg :=
  let m := CtrlMsg.zero
  if !bIsInitialized then { m with eErrorCode := .notInitialized }
  else
    let uiLen := canDlcToBytes f.dlc
    if uiLen < 1 then { m with eErrorCode := .invalidPayloadLength }
    else
      let cmd := f.data.getD 0 0
      let m := { m with eCMD := BootloaderCommand.ofByte cmd }
      if cmd < BootloaderCommand.fwUpReq.toByte ∨ cmd ≥ 35 then
        { m with eErrorCode := .invalidCommand }
      else
        match bGetBootloaderExpectedPayloadLen m.eCMD with
        | none => { m with eErrorCode := .invalidCommand }
        | some uiExpectedPayloadLen =>
            if uiLen - 1 < uiExpectedPayloadLen then
              { m with eErrorCode := .invalidPayloadLength }
            else
              vUpdateBtlMsgACKRequirement
                { m with uiaData := (f.data.drop 1).take uiExpectedPayloadLen }

/-- A CAN frame that carries a command and its payload: the DLC has room for
them, and what follows them in the data array is arbitrary. -/
structure Carries (f : CanFrame) (cmd : BootloaderCommand) (payload : List UInt8) : Prop where
  room : payload.length + 1 ≤ canDlcToBytes f.dlc
  data : f.data.take (payload.length + 1) = cmd.toByte :: payload

/-! ## §2. Handling a frame. -/

/-- `vCAN_SendBtl_ACK_NACK`. -/
def vCANSendBtlACKNACK (m : CtrlMsg) (b : Btl) : Btl :=
  { b with log := .response m.eCMD m.bIsMsgOk m.eErrorCode :: b.log }

/-- The dispatch of `vProcess_Bootloader_Messages`. -/
def dispatchMessage (env : Env) (j : Job) : Except Btl Job :=
  match j.msg.eCMD with
  | .fwUpReq | .fwUpMsg | .getLostPacketInfo | .fwUpEnd | .fwUpPause | .fwUpStop | .authStart
  | .updateAuthResponse | .recoverFromError => vUpdateBootloader env j
  | .retLostPacketInfo => .ok (vHandleHostAcknowledgements env j)
  | _ => .ok (vSetBootloaderMsgStatus j false .invalidCommand)

/-- `vProcess_Bootloader_Messages`. -/
def vProcessBootloaderMessages (env : Env) (j : Job) : Btl :=
  match dispatchMessage env j with
  | .error b => b
  | .ok j => if j.msg.bIsACKReq then vCANSendBtlACKNACK j.msg j.btl else j.btl

/-- `vHandle_Bootloader_Messages`. -/
def vHandleBootloaderMessages (env : Env) (f : CanFrame) (b : Btl) : Btl :=
  let msg := vFormatBootloaderMsg b.mgmt.bIsInitialized f
  if !msg.bIsMsgOk then vCANSendBtlACKNACK msg b
  else vProcessBootloaderMessages env { btl := b, msg }

/-! ## §3. The machine. -/

/-- One event.  A timer handler runs off its work item, which is no longer
scheduled then. -/
def stepEvent (env : Env) (e : Event) (b : Btl) : Btl :=
  match e with
  | .frame f => vHandleBootloaderMessages env f b
  | .stateTimeOut =>
      match vBtlStateTimeOutHandler env
          { b with timers := { b.timers with stBtlStateTimeOutWork := none } } with
      | .ok b => b
      | .error b => b
  | .txTimeOut =>
      vBtlTxTimeOutHandler env { b with timers := { b.timers with stBtlTxTimeOutWork := none } }

/-- One step; a stopped machine stays as it is. -/
def step (b : Btl) (a : Event × Env) : Btl :=
  if b.halted.isSome then b else stepEvent a.2 a.1 b

/-- A stopped machine stays as it is. -/
theorem step_halted {b : Btl} (h : b.halted ≠ none) (a : Event × Env) : step b a = b := by
  unfold step
  rw [if_pos (Option.isSome_iff_ne_none.mpr h)]

/-- The controller as a transition system, from its initialization on a slot
of any content and with any result of the calls. -/
def machine (slot : FlashArea) : TransSys Btl (Event × Env) where
  init b := ∃ flash env, b = bInitBootloaderController slot flash env
  step b a b' := b' = step b a

/-! ## §4. Frames of the bridge. -/

/-- The full frame that carries a command and its payload, in the zeroed array
of `ePC_UART_FWBridgeService_Process`. -/
def bridgeFrame (uiCommand : BootloaderCommand) (puiPayload : List UInt8) : CanFrame where
  dlc := 15
  data := (uiCommand.toByte :: puiPayload ++ List.replicate CAN_MSG_MAX_SIZE 0).take
    CAN_MSG_MAX_SIZE
  length_data := by simp [CAN_MSG_MAX_SIZE]

/-- The environment in which every call succeeds. -/
def Env.success : Env where
  uptime := 0
  open_ := 0
  erase := 0
  write _ := 0
  read _ := 0
  upgrade _ := 0
  txQueued := true
  wreck _ := 0

/-- The controller after the initialization and some frames, with every call
successful. -/
def runFrames (slot : FlashArea) (frames : List CanFrame) : Btl :=
  (frames.map fun f => (Event.frame f, Env.success)).foldl step
    (bInitBootloaderController slot (fun _ => 0) Env.success)

theorem reachable_runFrames (slot : FlashArea) (frames : List CanFrame) :
    (machine slot).Reachable (runFrames slot frames) := by
  have hinit : (machine slot).Reachable
      (bInitBootloaderController slot (fun _ => 0) Env.success) :=
    .init ⟨_, _, rfl⟩
  exact hinit.foldl (fun _ _ => rfl) _

/-- An update request for an image of one packet, the packet, and the end. -/
def requestFrame : CanFrame := bridgeFrame .fwUpReq [0, 0, 48, 0, 0, 0, 0, 0, 0x11, 0x6F]
def packetFrame (uiPacketId : UInt8) : CanFrame :=
  bridgeFrame .fwUpMsg (0 :: uiPacketId :: (List.range 48).map UInt8.ofNat)
def endFrame : CanFrame := bridgeFrame .fwUpEnd []

/-- The update of one packet. -/
def updateOfOnePacket : Btl := runFrames ⟨0x4000⟩ [requestFrame, packetFrame 0, endFrame]

end WallController.Bootloader
