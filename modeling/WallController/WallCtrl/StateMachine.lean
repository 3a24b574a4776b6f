/-
  WallController.WallCtrl.StateMachine
  ────────────────────────────────
  **THE STATE MACHINE OF THE CONTROLLER (`Wallcontroller_StateMachine.c`).**

  The main loop calls `vRun_WallCtrl_StateMachine`.  Other threads set commands,
  whose flags a spin lock guards, and work on the audio sources: the welcome
  screen sets the command Startup when its image has faded in.  The first call
  in the state Active asks for the screen of the selected source.

  A call is suspended wherever it reads the clock, takes a lock, or calls another
  module; between these places it works on variables of its own.
-/
import WallController.AudioSrc.Config
import WallController.Lvgl.ScreenManager

namespace WallController.WallCtrl

open WallController.Lib WallController.AudioSrc

def WALLCTRL_STARTUP_STATE_TIMEOUT_ms : Nat := 3000

def ENODATA : Int := 61

/-! ## §1. States and commands. -/

/-- `eWallCtrlState_t`. -/
inductive WallCtrlState where
  | idle
  | startup
  | bootloader
  | active
  deriving DecidableEq, Repr

/-- `eWallCtrlCmd_t`. -/
inductive WallCtrlCmd where
  | none
  | enterBootloader
  | startup
  | active
  deriving DecidableEq, Repr

/-- `sT_WallCtrl_StateMachine_t`. -/
structure WallCtrlStateMachine where
  eCurrentState : WallCtrlState
  bIsFirstEntry : Bool
  baWallCtrlCmds : WallCtrlCmd → Bool

/-- `vInit_WallCtrl_StateMachine`. -/
def vInit_WallCtrl_StateMachine : WallCtrlStateMachine where
  eCurrentState := .idle
  bIsFirstEntry := true
  baWallCtrlCmds := fun _ => false

/-- `vWallCtrl_Set_State`. -/
def WallCtrlStateMachine.vWallCtrl_Set_State (m : WallCtrlStateMachine) (eNewState : WallCtrlState) :
    WallCtrlStateMachine :=
  { m with eCurrentState := eNewState, bIsFirstEntry := true }

/-- `vWallCtrl_Set_Command`. -/
def WallCtrlStateMachine.vWallCtrl_Set_Command (m : WallCtrlStateMachine) (eCmd : WallCtrlCmd) :
    WallCtrlStateMachine :=
  { m with baWallCtrlCmds := Function.update m.baWallCtrlCmds eCmd true }

/-- The loop of `eGet_WallCtrl_Command`, with the flags that it leaves. -/
def takeCommand : List WallCtrlCmd → (WallCtrlCmd → Bool) → WallCtrlCmd × (WallCtrlCmd → Bool)
  | [], baWallCtrlCmds => (.none, baWallCtrlCmds)
  | eCmd :: eCmds, baWallCtrlCmds =>
    if baWallCtrlCmds eCmd then (eCmd, Function.update baWallCtrlCmds eCmd false)
    else takeCommand eCmds baWallCtrlCmds

/-- `eGet_WallCtrl_Command`. -/
def eGet_WallCtrl_Command (baWallCtrlCmds : WallCtrlCmd → Bool) : WallCtrlCmd × (WallCtrlCmd → Bool) :=
  takeCommand [.none, .enterBootloader, .startup, .active] baWallCtrlCmds

/-! ## §2. The selected source. -/

/-- `iGet_SelectedAudioSrcConfig`; `bLocked` says that its locks are taken in time, which a
suspended selection excludes. -/
def iGet_SelectedAudioSrcConfig (store : Store) (bLocked : Bool) : Except Int AudioSourceConfig :=
  if !bLocked || store.eSelecting.isSome then .error (-EBUSY)
  else
    match eFindSelectedAudioSrc store.staAudioSrcConfigs with
    | none => .error (-ENODATA)
    | some eSelectedSrcId => .ok (store.staAudioSrcConfigs eSelectedSrcId)

/-- The screen of a source. -/
def screenOf (bIsMute : Bool) : Lvgl.ScreenId := if bIsMute then .sourceMute else .audioSrcInfo

/-! ## §3. The main loop. -/

/-- Where the main loop stands in a call of `vRun_WallCtrl_StateMachine`. -/
inductive RunPc where
  | outside
  /-- It calls `iGet_SelectedAudioSrcConfig`. -/
  | loading
  /-- It calls `bGet_AudioSrcConfigurations`. -/
  | fetching
  /-- It calls `iUpdate_AudioScrSelected`. -/
  | selecting (bIsMute : Bool)
  /-- It is at the second write of that call. -/
  | finishing (bIsMute : Bool)
  /-- It calls `bRequest_UIScreen`. -/
  | requesting (eNewScreenId : Lvgl.ScreenId)
  /-- It calls `eGet_WallCtrl_Command`. -/
  | commanding
  /-- It reads the clock in the state Startup. -/
  | deciding
  deriving DecidableEq, Repr

inductive Event where
  | commanded (eCmd : WallCtrlCmd)
  /-- A new state, with the time in ms since the start. -/
  | entered (eNewState : WallCtrlState) (now : Nat)
  /-- The first call in the state Startup has read the clock. -/
  | clocked (now : Nat)
  | requested (eNewScreenId : Lvgl.ScreenId) (bRequested : Bool)
  deriving DecidableEq, Repr

/-- The state machine and its main loop, the audio sources, the time in ms since the start, and
what has happened, newest first. -/
structure MainLoop where
  machine : WallCtrlStateMachine
  uiTrigttime_ms : UInt32
  store : Store
  now : Nat
  pc : RunPc
  log : List Event

/-- What the environment decides in a step of the main loop: whether locks are taken in time, the
outcome of a file write, and the answer to a request. -/
structure Answer where
  bLocked : Bool
  write : WriteResult
  bRequested : Bool
  deriving DecidableEq, Repr

inductive Act where
  | elapse (ms : Nat)
  | command (eCmd : WallCtrlCmd)
  /-- Another thread works on the audio sources. -/
  | store (a : Operation)
  /-- The main loop. -/
  | run (answer : Answer)

namespace MainLoop

variable (crc32 : List UInt8 → UInt32) (s : MainLoop)

/-- The part of the call up to `eGet_WallCtrl_Command`, or up to `vLoad_UIScreen`. -/
def begin : MainLoop :=
  if !s.machine.bIsFirstEntry then { s with pc := .commanding }
  else
    let s := { s with machine := { s.machine with bIsFirstEntry := false } }
    match s.machine.eCurrentState with
    | .idle | .bootloader => { s with pc := .commanding }
    | .startup =>
      { s with uiTrigttime_ms := UInt32.ofNat s.now, pc := .commanding, log := .clocked s.now :: s.log }
    | .active => { s with pc := .loading }

/-- A new state. -/
def enter (eNewState : WallCtrlState) : MainLoop :=
  { s with
    machine := s.machine.vWallCtrl_Set_State eNewState
    pc := .outside
    log := .entered eNewState s.now :: s.log }

/-- What the handlers do with a command; the screen of the state Active has been asked for. -/
def handle (eCmd : WallCtrlCmd) : MainLoop :=
  match s.machine.eCurrentState, eCmd with
  | .idle, .startup => s.enter .startup
  | .startup, .none | .startup, .startup => { s with pc := .deciding }
  | _, _ => { s with pc := .outside }

/-- The next step of the call. -/
def runStep (answer : Answer) : MainLoop :=
  match s.pc with
  | .outside => s.begin
  | .loading =>
    match iGet_SelectedAudioSrcConfig s.store answer.bLocked with
    | .ok stAudioConfig => { s with pc := .requesting (screenOf stAudioConfig.bIsMute) }
    | .error iResult => { s with pc := if iResult = -ENODATA then .fetching else .commanding }
  | .fetching => { s with pc := .selecting (s.store.staAudioSrcConfigs 0).bIsMute }
  | .selecting bIsMute =>
    match s.store.iUpdateAudioScrSelected crc32 0 true answer.write with
    | (.done (.ok ()), store) => { s with store := store, pc := .requesting (screenOf bIsMute) }
    | (.done (.error _), store) => { s with store := store, pc := .commanding }
    | (.suspended, store) => { s with store := store, pc := .finishing bIsMute }
  | .finishing bIsMute =>
    match s.store.finishSelection crc32 answer.write with
    | (.done (.ok ()), store) => { s with store := store, pc := .requesting (screenOf bIsMute) }
    | (.done (.error _), store) | (.suspended, store) => { s with store := store, pc := .commanding }
  | .requesting eNewScreenId =>
    { s with pc := .commanding, log := .requested eNewScreenId answer.bRequested :: s.log }
  | .commanding =>
    let (eCmd, baWallCtrlCmds) := eGet_WallCtrl_Command s.machine.baWallCtrlCmds
    handle { s with machine := { s.machine with baWallCtrlCmds := baWallCtrlCmds } } eCmd
  | .deciding =>
    if (UInt32.ofNat s.now - s.uiTrigttime_ms).toNat ≥ WALLCTRL_STARTUP_STATE_TIMEOUT_ms then
      s.enter .active
    else { s with pc := .outside }

/-- Another thread does not end the selection of the main loop, and power is not lost. -/
def Allowed : Operation → Prop
  | .reboot => False
  | .finishSelect _ => ∀ bIsMute, s.pc ≠ .finishing bIsMute
  | _ => True

instance (a : Operation) : Decidable (s.Allowed a) :=
  match a with
  | .reboot => .isFalse id
  | .finishSelect _ => decidable_of_iff (∀ b ∈ [false, true], s.pc ≠ .finishing b) (by simp [Allowed])
  | .mute _ _ _ | .volume _ _ _ | .select _ _ _ | .configure _ _ _ | .transfer _ _ => .isTrue trivial

def step : Act → Option MainLoop
  | .elapse ms => some { s with now := s.now + ms }
  | .command eCmd =>
    some { s with machine := s.machine.vWallCtrl_Set_Command eCmd, log := .commanded eCmd :: s.log }
  | .store a => if s.Allowed a then some { s with store := s.store.step crc32 a } else none
  | .run answer => some (s.runStep crc32 answer)

/-- After the load of the audio sources. -/
def init (files : SourceFiles) : MainLoop where
  machine := vInit_WallCtrl_StateMachine
  uiTrigttime_ms := 0
  store := Store.boot crc32 files
  now := 0
  pc := .outside
  log := []

end MainLoop

def wallCtrlSystem (crc32 : List UInt8 → UInt32) : TransSys MainLoop Act where
  init s := ∃ files, s = .init crc32 files
  step s a s' := s.step crc32 a = some s'

end WallController.WallCtrl
