/-
  WallController.Bootloader.Isolation
  ────────────────────────────────
  **NO SESSION INFLUENCES A LATER ONE.**

  Whatever has happened before, a controller in the idle state is one of
  `idleWith`: the timers and the Tx record are cleared, and what differs from
  one history to another is a residue that the next update request overwrites
  before anything reads it.  Two idle controllers therefore go on alike, event
  by event, and the entries that their traces grow by are the same
  (`session_isolated`).
-/
import WallController.Bootloader.Responses
import WallController.Bootloader.Trace

namespace WallController.Bootloader

open WallController.Lib

/-! ## §1. The idle controller. -/

/-- What an idle controller still holds of its past. -/
structure Residue where
  bIsFirstEntry : Bool
  uiFWImgSize : Nat
  uiLibRev : Nat
  uiFWRev : Nat
  uiCRC : UInt16
  uiHWRev : Nat
  img : FWImgCtrl
  flash : Mem
  log : List Obs

/-- The idle controller with a residue. -/
def idleWith (slot : FlashArea) (r : Residue) : Btl where
  mgmt := {
    eBtlState := .idle, bIsInitialized := true, bIsFirstEntry := r.bIsFirstEntry
    uiFlashAreaSize := slot.fa_size, uiFWImgSize := r.uiFWImgSize, uiLibRev := r.uiLibRev
    uiFWRev := r.uiFWRev, uiCRC := r.uiCRC, uiHWRev := r.uiHWRev }
  img := r.img
  tx := LostPacketTx.cleared
  timers := {
    iBootloaderStateDeadline_ms := 0, bBootloaderStateTimeoutArmed := false
    stBtlStateTimeOutWork := none, stBtlTxTimeOutWork := none }
  slot := slot
  flashArea := none
  flash := r.flash
  log := r.log
  halted := none

variable {slot : FlashArea} {env : Env}

/-- What an idle controller becomes, as a function of its residue: it stays
idle, or it is in a session that has nothing of the residue but the trace. -/
inductive IdleOutcome (slot : FlashArea) (F : Residue → Btl) : Prop
  | stays (g : Residue → Residue) (new : List Obs) (h : ∀ r, F r = idleWith slot (g r))
      (hlog : ∀ r, (g r).log = new ++ r.log) : IdleOutcome slot F
  | starts (b : Btl) (h : ∀ r, F r = b.addLog r.log) (hst : b.mgmt.eBtlState ≠ .idle) :
      IdleOutcome slot F

/-- Nothing happens, or only the flag of the first entry is cleared. -/
theorem IdleOutcome.unchanged : IdleOutcome slot (idleWith slot) :=
  .stays id [] (fun _ => rfl) fun _ => rfl

theorem IdleOutcome.entered :
    IdleOutcome slot fun r => (bIsFirstEntry (idleWith slot r)).2 :=
  .stays (fun r => { r with bIsFirstEntry := false }) [] (fun _ => rfl) fun _ => rfl

/-- An answer is sent on top. -/
theorem IdleOutcome.answered {F : Residue → Btl} (h : IdleOutcome slot F) (m : CtrlMsg) :
    IdleOutcome slot fun r => vCANSendBtlACKNACK m (F r) := by
  cases h with
  | stays g new h hlog =>
      refine .stays
        (fun r => { g r with log := .response m.eCMD m.bIsMsgOk m.eErrorCode :: (g r).log })
        (.response m.eCMD m.bIsMsgOk m.eErrorCode :: new) ?_ ?_
      · intro r
        rw [h]
        rfl
      · intro r
        show _ :: (g r).log = _ :: (new ++ r.log)
        rw [hlog]
  | starts b h hst =>
      refine .starts (vCANSendBtlACKNACK m b) ?_ hst
      intro r
      rw [h]
      rfl

/-- A handler works on the idle controller: the message it leaves does not
depend on the residue. -/
structure IdleHandled (slot : FlashArea) (H : Residue → Job) : Prop where
  msg : ∃ m, ∀ r, (H r).msg = m
  outcome : IdleOutcome slot fun r => (H r).btl

theorem IdleHandled.congr {H H' : Residue → Job} (h : IdleHandled slot H')
    (heq : ∀ r, H r = H' r) : IdleHandled slot H := by
  rw [funext heq]
  exact h

/-- A rejection of the message. -/
theorem IdleHandled.rejected {F : Residue → Btl} (h : IdleOutcome slot F) (m : CtrlMsg)
    (e : BootloaderError) :
    IdleHandled slot fun r => vSetBootloaderMsgStatus ⟨F r, m⟩ false e where
  msg := ⟨{ m with bIsMsgOk := false, eErrorCode := e }, fun _ => rfl⟩
  outcome := h

/-! ## §2. The update request. -/

/-- What the idle controller holds once the request `m` is taken over: of the
residue there remain the flash and the trace. -/
def requested (m : CtrlMsg) (flash : Mem) (log : List Obs) : Residue where
  bIsFirstEntry := false
  uiFWImgSize := requestedSize m.uiaData
  uiLibRev := be16 m.uiaData 4
  uiFWRev := be16 m.uiaData 6
  uiCRC := UInt16.ofNat (be16 m.uiaData 8)
  uiHWRev := (m.uiaData.getD 3 0).toNat
  img := FWImgCtrl.cleared
  flash := flash
  log := log

/-- What follows the erase. -/
def startSession (env : Env) (uiaData : List UInt8) (j : Job) : Job :=
  if !j.msg.bIsMsgOk then j
  else
    { btl := vSetBootloaderState env .fwImgWriteInProg { j.btl with
        log := .sessionStarted uiaData :: j.btl.log }
      msg := { j.msg with bIsMsgOk := true } }

/-- The erase, and the start of the session where it succeeds. -/
theorem erase_idle (env : Env) (m : CtrlMsg) :
    IdleHandled slot fun r =>
      startSession env m.uiaData
        (vEraseFlashArea env ⟨idleWith slot (requested m r.flash r.log), m⟩) := by
  by_cases hopen : env.open_ ≠ 0
  · have herase : ∀ flash log, vEraseFlashArea env ⟨idleWith slot (requested m flash log), m⟩
        = vSetBootloaderMsgStatus
            ⟨idleWith slot (requested m flash (.flashOpen env.open_ :: log)), m⟩
            false .flashAreaOpenFail := by
      intro flash log
      unfold vEraseFlashArea flashAreaOpen
      rw [if_pos hopen, if_neg hopen]
      rfl
    refine IdleHandled.congr (.rejected (.stays
      (fun r => requested m r.flash (.flashOpen env.open_ :: r.log))
      [.flashOpen env.open_] (fun _ => rfl) fun _ => rfl) m .flashAreaOpenFail) fun r => ?_
    rw [herase]
    rfl
  have hcalls : ∀ flash log, vEraseFlashArea env ⟨idleWith slot (requested m flash log), m⟩
      = if env.erase ≠ 0 then vSetBootloaderMsgStatus
          ⟨idleWith slot (requested m env.wreck
            (.flashClose :: .flashErase env.erase :: .flashOpen env.open_ :: log)), m⟩
          false .flashAreaEraseFail
        else vSetBootloaderMsgStatus
          ⟨idleWith slot (requested m (fun _ => 0xFF)
            (.flashClose :: .flashErase env.erase :: .flashOpen env.open_ :: log)), m⟩
          true .none := by
    intro flash log
    unfold vEraseFlashArea flashAreaOpen
    rw [if_neg hopen, if_pos (not_not.mp hopen)]
    by_cases herase : env.erase ≠ 0
    · rw [if_pos herase, if_pos herase, if_neg herase]
      rfl
    · rw [if_neg herase, if_neg herase, if_pos (not_not.mp herase)]
      rfl
  by_cases herase : env.erase ≠ 0
  · refine IdleHandled.congr (.rejected (.stays
      (fun r => requested m env.wreck
        (.flashClose :: .flashErase env.erase :: .flashOpen env.open_ :: r.log))
      [.flashClose, .flashErase env.erase, .flashOpen env.open_] (fun _ => rfl)
      fun _ => rfl) m .flashAreaEraseFail) fun r => ?_
    rw [hcalls, if_pos herase]
    rfl
  · refine ⟨⟨{ m with bIsMsgOk := true, eErrorCode := .none }, fun r => ?_⟩,
      .starts (vSetBootloaderState env .fwImgWriteInProg (idleWith slot
        (requested m (fun _ => 0xFF) [.sessionStarted m.uiaData, .flashClose,
          .flashErase env.erase, .flashOpen env.open_]))) (fun r => ?_)
            (by simp [vSetBootloaderState, vRefreshBootloaderStateTimeOutLocked])⟩
    · rw [hcalls, if_neg herase]
      rfl
    · rw [hcalls, if_neg herase]
      rfl

theorem vInitBootloaderManager_idle (env : Env) (m : CtrlMsg) :
    IdleHandled slot fun r =>
      vInitBootloaderManagerForNewFWImage env ⟨(bIsFirstEntry (idleWith slot r)).2, m⟩ := by
  -- the requested size stays behind where the request is rejected
  have hsize : IdleOutcome slot fun r => { (bIsFirstEntry (idleWith slot r)).2 with
      mgmt := { (bIsFirstEntry (idleWith slot r)).2.mgmt with
        uiFWImgSize := requestedSize m.uiaData } } :=
    .stays (fun r => { r with bIsFirstEntry := false, uiFWImgSize := requestedSize m.uiaData }) []
      (fun _ => rfl) fun _ => rfl
  by_cases hzero : requestedSize m.uiaData = 0
  · exact (IdleHandled.rejected hsize m .invalidImageSize).congr fun r => if_pos hzero
  by_cases hroom : slot.fa_size ≤ FW_IMAGE_SECONDARY_SLOT_WRITE_OFFSET
  · refine (IdleHandled.rejected hsize m .flashBoundsExceeded).congr fun r => ?_
    exact (if_neg hzero).trans (if_pos hroom)
  by_cases hlarge : requestedSize m.uiaData
      > slot.fa_size - FW_IMAGE_SECONDARY_SLOT_WRITE_OFFSET
  · refine (IdleHandled.rejected hsize m .imageTooLarge).congr fun r => ?_
    exact (if_neg hzero).trans ((if_neg hroom).trans (if_pos hlarge))
  · refine (erase_idle env m).congr fun r => ?_
    exact (if_neg hzero).trans ((if_neg hroom).trans (if_neg hlarge))

/-! ## §3. One event in the idle state. -/

/-- The handler in `Idle`, on a payload of the right length. -/
theorem vExecuteBootloaderIdleState_eq (env : Env) (m : CtrlMsg) (hlen : ¬ m.uiLen ≠ 10)
    (r : Residue) :
    vExecuteBootloaderIdleState env ⟨idleWith slot r, m⟩
      = match m.eCMD with
        | .none | .fwUpReq =>
            vInitBootloaderManagerForNewFWImage env ⟨(bIsFirstEntry (idleWith slot r)).2, m⟩
        | _ => vSetBootloaderMsgStatus ⟨(bIsFirstEntry (idleWith slot r)).2, m⟩ false
            .invalidCommand :=
  if_neg hlen

theorem vExecuteBootloaderIdleState_idle (env : Env) (m : CtrlMsg) :
    IdleHandled slot fun r => vExecuteBootloaderIdleState env ⟨idleWith slot r, m⟩ := by
  by_cases hlen : m.uiLen ≠ 10
  · exact (IdleHandled.rejected .unchanged m .invalidPayloadLength).congr fun r => if_pos hlen
  refine IdleHandled.congr ?_ (vExecuteBootloaderIdleState_eq env m hlen)
  split
  · exact vInitBootloaderManager_idle env m
  · exact vInitBootloaderManager_idle env m
  · exact .rejected .entered m .invalidCommand

/-- No info frame is waiting for its answer. -/
theorem vHandleLostPacketInfoTxResponse_idle (env : Env) (eAck uiFrameSeq : UInt8) (r : Residue) :
    vHandleLostPacketInfoTxResponse env eAck uiFrameSeq (idleWith slot r) = idleWith slot r := by
  unfold vHandleLostPacketInfoTxResponse
  split
  · rfl
  · exact if_pos (Nat.zero_lt_succ 2)

theorem dispatchMessage_idle (env : Env) (m : CtrlMsg) :
    ∃ H, IdleHandled slot H ∧ ∀ r, dispatchMessage env ⟨idleWith slot r, m⟩ = .ok (H r) := by
  have hidle := @vExecuteBootloaderIdleState_idle slot env m
  have hrejected := @IdleHandled.rejected slot _ .unchanged m .invalidCommand
  have hack : IdleHandled slot fun r => ⟨vHandleLostPacketInfoTxResponse env
      (m.uiaData.getD 0 0) (m.uiaData.getD 1 0) (idleWith slot r), { m with bIsACKReq := false }⟩ := by
    refine ⟨⟨_, fun _ => rfl⟩, ?_⟩
    simp only [vHandleLostPacketInfoTxResponse_idle]
    exact .unchanged
  obtain ⟨eCMD, bIsMsgOk, bIsACKReq, eErrorCode, uiaData⟩ := m
  cases eCMD with
  | retLostPacketInfo => exact ⟨_, hack, fun _ => rfl⟩
  | fwUpReq | fwUpMsg | getLostPacketInfo | fwUpEnd | fwUpPause | fwUpStop | authStart
  | updateAuthResponse | recoverFromError => exact ⟨_, hidle, fun _ => rfl⟩
  | _ => exact ⟨_, hrejected, fun _ => rfl⟩

/-- A frame in the idle state. -/
theorem vHandleBootloaderMessages_idle (env : Env) (f : CanFrame) :
    IdleOutcome slot fun r => vHandleBootloaderMessages env f (idleWith slot r) := by
  by_cases hok : (!(vFormatBootloaderMsg true f).bIsMsgOk) = true
  · have heq : ∀ r, vHandleBootloaderMessages env f (idleWith slot r)
        = vCANSendBtlACKNACK (vFormatBootloaderMsg true f) (idleWith slot r) :=
      fun r => if_pos hok
    rw [funext heq]
    exact IdleOutcome.unchanged.answered _
  obtain ⟨H, ⟨⟨m, hm⟩, hout⟩, hH⟩ := dispatchMessage_idle env (vFormatBootloaderMsg true f)
  have heq : ∀ r, vHandleBootloaderMessages env f (idleWith slot r)
      = if m.bIsACKReq then vCANSendBtlACKNACK m (H r).btl else (H r).btl := by
    intro r
    refine (if_neg hok).trans ?_
    unfold vProcessBootloaderMessages
    rw [← hm r]
    have hdispatch : dispatchMessage env ⟨idleWith slot r, vFormatBootloaderMsg
        (idleWith slot r).mgmt.bIsInitialized f⟩ = .ok (H r) := hH r
    rw [hdispatch]
  rw [funext heq]
  by_cases hack : m.bIsACKReq = true
  · simp only [hack, if_true]
    exact hout.answered m
  · simp only [hack]
    exact hout

/-- **One event in the idle state.** -/
theorem step_idle (slot : FlashArea) (a : Event × Env) :
    IdleOutcome slot fun r => step (idleWith slot r) a := by
  obtain ⟨e, env⟩ := a
  cases e with
  | frame f => exact vHandleBootloaderMessages_idle env f
  | stateTimeOut => exact .unchanged
  | txTimeOut => exact .unchanged

/-! ## §4. Every idle controller of a run. -/

/-- The idle controller is one of `idleWith`. -/
def IdleClean (slot : FlashArea) (b : Btl) : Prop :=
  b.mgmt.eBtlState = .idle → ∃ r, b = idleWith slot r

/-- The initialization. -/
theorem IdleClean.init (slot : FlashArea) (flash : Mem) (env : Env) :
    IdleClean slot (bInitBootloaderController slot flash env) := by
  intro hst
  by_cases hopen : env.open_ ≠ 0
  · have heq : bInitBootloaderController slot flash env
        = flashAreaOpen env (Btl.start slot flash) := if_pos hopen
    unfold flashAreaOpen at heq
    rw [if_neg hopen] at heq
    rw [heq] at hst
    cases hst
  · refine ⟨{
      bIsFirstEntry := false, uiFWImgSize := 0, uiLibRev := 0, uiFWRev := 0, uiCRC := 0
      uiHWRev := 0, img := FWImgCtrl.cleared, flash := flash
      log := [.flashClose, .flashOpen env.open_] }, (if_neg hopen).trans ?_⟩
    unfold flashAreaOpen
    rw [if_pos (not_not.mp hopen)]
    rfl

/-- The re-initialization clears everything but the flash and the trace. -/
theorem vReinitBootloaderStateMachine_clean {b : Btl} (hb : Base slot b) (hrun : b.halted = none)
    (hst : b.mgmt.eBtlState = .error) (hinit : b.mgmt.bIsInitialized = true) :
    ∃ r, vReinitBootloaderStateMachine (bIsFirstEntry b).2 = idleWith slot r := by
  have hfa : b.flashArea = none := hb.closed (by rw [hst]; decide)
  have hsize := hb.size hinit
  have hslot := hb.slot_eq
  obtain ⟨⟨eBtlState, bIsInitialized, bFirst, uiFlashAreaSize, _, _, _, _, _⟩, img, tx, timers, slot',
    flashArea, flash, log, halted⟩ := b
  simp only at hrun hinit hfa hsize hslot
  subst hrun hinit hfa hsize hslot
  exact ⟨{
    bIsFirstEntry := true, uiFWImgSize := 0, uiLibRev := 0, uiFWRev := 0, uiCRC := 0
    uiHWRev := 0, img := FWImgCtrl.cleared, flash := flash, log := log }, rfl⟩

/-- The command that leaves the error state. -/
theorem vHandleBootloaderMessages_recover {env : Env} {f : CanFrame} {b : Btl}
    (hb : Base slot b) (hrun : b.halted = none) (hst : b.mgmt.eBtlState = .error)
    (hcmd : (vFormatBootloaderMsg b.mgmt.bIsInitialized f).eCMD = .recoverFromError)
    (hidle : (vHandleBootloaderMessages env f b).mgmt.eBtlState = .idle) :
    ∃ r, vHandleBootloaderMessages env f b = idleWith slot r := by
  have hinit : b.mgmt.bIsInitialized = true := by
    by_contra hnot
    rw [Bool.eq_false_iff.mpr hnot] at hcmd
    cases hcmd
  obtain ⟨r, hr⟩ := vReinitBootloaderStateMachine_clean hb hrun hst hinit
  unfold vHandleBootloaderMessages at hidle ⊢
  dsimp only at hidle ⊢
  generalize vFormatBootloaderMsg b.mgmt.bIsInitialized f = m at hcmd hidle ⊢
  by_cases hok : (!m.bIsMsgOk) = true
  · rw [if_pos hok] at hidle
    have herror : b.mgmt.eBtlState = .idle := hidle
    rw [hst] at herror
    cases herror
  rw [if_neg hok]
  have hdispatch : dispatchMessage env ⟨b, m⟩
      = .ok (vSetBootloaderMsgStatus ⟨idleWith slot r, m⟩ true .none) := by
    unfold dispatchMessage vUpdateBootloader vExecuteBootloaderErrorState
    simp only [hcmd, hst, hr]
  unfold vProcessBootloaderMessages
  rw [hdispatch]
  dsimp only
  split
  · exact ⟨{ r with log := .response m.eCMD true .none :: r.log }, rfl⟩
  · exact ⟨r, rfl⟩

/-- Of the transitions of the commands one leads to the idle state. -/
theorem ownTransition_idle {eCMD : BootloaderCommand} {s : BootloaderState}
    (h : ownTransition eCMD = some (s, .idle)) : s = .error ∧ eCMD = .recoverFromError := by
  cases eCMD with
  | recoverFromError =>
      cases h
      exact ⟨rfl, rfl⟩
  | _ => cases h

/-- A state that a step keeps, or leaves for the error state. -/
theorem Quiet.not_idle {b b' : Btl} (h : Quiet b b') (hst : b.mgmt.eBtlState ≠ .idle) :
    b'.mgmt.eBtlState ≠ .idle := by
  rcases h.state with hs | hs
  · rw [hs]
    exact hst
  · rw [hs]
    decide

/-- One step. -/
theorem IdleClean.step {b : Btl} (hinv : RunningInv slot b) (hc : IdleClean slot b)
    (hrun : b.halted = none) (a : Event × Env) : IdleClean slot (step b a) := by
  intro hst'
  by_cases hst : b.mgmt.eBtlState = .idle
  · obtain ⟨r, rfl⟩ := hc hst
    cases step_idle slot a with
    | stays g new h hlog => exact ⟨g r, h r⟩
    | starts b h hne =>
        rw [h r] at hst'
        exact absurd hst' hne
  obtain ⟨e, env⟩ := a
  cases e with
  | stateTimeOut =>
      exact absurd hst' ((step_timer_quiet hrun (fun _ h => by cases h) env).not_idle hst)
  | txTimeOut =>
      exact absurd hst' ((step_timer_quiet hrun (fun _ h => by cases h) env).not_idle hst)
  | frame f =>
      have hcaused : b.mgmt.eBtlState = .error ∧
          (vFormatBootloaderMsg b.mgmt.bIsInitialized f).eCMD = .recoverFromError := by
        have hkept : ¬ ((Bootloader.step b (.frame f, env)).mgmt.eBtlState = b.mgmt.eBtlState ∨
            (Bootloader.step b (.frame f, env)).mgmt.eBtlState = .error) := by
          rw [hst']
          rintro (h | h)
          · exact hst h.symm
          · cases h
        cases hinv.answer hrun f env with
        | nack r hr hok he hs hc hun => exact absurd hs hkept
        | quiet h hc why => exact absurd h.state hkept
        | ack r hr hok hc hearned hun =>
            unfold Caused at hc
            rw [hst'] at hc
            exact ownTransition_idle hc
      have hstep : Bootloader.step b (.frame f, env) = vHandleBootloaderMessages env f b := by
        unfold Bootloader.step
        rw [hrun]
        rfl
      rw [hstep] at hst' ⊢
      exact vHandleBootloaderMessages_recover hinv.base hrun hcaused.1 hcaused.2 hst'

theorem idleClean_of_reachable {b : Btl} (h : (machine slot).Reachable b) : IdleClean slot b := by
  have hboth : IdleClean slot b ∧ (b.halted = none → RunningInv slot b) := by
    refine h.invariant (I := fun b => IdleClean slot b ∧ (b.halted = none → RunningInv slot b)) ?_ ?_
    · rintro b ⟨flash, env, rfl⟩
      exact ⟨.init slot flash env, fun _ => .init slot flash env⟩
    · rintro b a b' ⟨hc, hinv⟩ rfl
      by_cases hrun : b.halted = none
      · exact ⟨hc.step (hinv hrun) hrun a, fun hrun' => (hinv hrun).step hrun a hrun'⟩
      · rw [step_halted hrun]
        exact ⟨hc, hinv⟩
  exact hboth.1

/-! ## §5. Two runs. -/

/-- The two controllers go on alike from the same trace on: both are idle, or
they differ in the entries below the trace. -/
inductive Alike (slot : FlashArea) (l l' : List Obs) : Btl → Btl → Prop
  | idle (r r' : Residue) (new : List Obs) (hlog : r.log = new ++ l) (hlog' : r'.log = new ++ l') :
      Alike slot l l' (idleWith slot r) (idleWith slot r')
  | started (b : Btl) : Alike slot l l' (b.addLog l) (b.addLog l')

/-- One event. -/
theorem Alike.step {l l' : List Obs} {b c : Btl} (h : Alike slot l l' b c) (a : Event × Env) :
    Alike slot l l' (step b a) (step c a) := by
  cases h with
  | started b =>
      rw [step_addLog, step_addLog]
      exact .started _
  | idle r r' new hlog hlog' =>
      cases step_idle slot a with
      | stays g calls h hg =>
          rw [h r, h r']
          refine .idle (g r) (g r') (calls ++ new) ?_ ?_
          · rw [hg, hlog, List.append_assoc]
          · rw [hg, hlog', List.append_assoc]
      | starts b h hst =>
          rw [h r, h r', hlog, hlog']
          have hadd : ∀ l₀, b.addLog (new ++ l₀) = (b.addLog new).addLog l₀ := by
            intro l₀
            unfold Btl.addLog
            rw [List.append_assoc]
          rw [hadd, hadd]
          exact .started _

/-- A run. -/
theorem Alike.run {l l' : List Obs} {b c : Btl} (h : Alike slot l l' b c)
    (as : List (Event × Env)) :
    Alike slot l l' (as.foldl Bootloader.step b) (as.foldl Bootloader.step c) := by
  induction as generalizing b c with
  | nil => exact h
  | cons a as ih => exact ih (h.step a)

/-- What is seen of the two. -/
theorem Alike.seen {l l' : List Obs} {b c : Btl} (h : Alike slot l l' b c) :
    b.mgmt.eBtlState = c.mgmt.eBtlState ∧ ∃ new, b.log = new ++ l ∧ c.log = new ++ l' := by
  cases h with
  | idle r r' new hlog hlog' => exact ⟨rfl, new, hlog, hlog'⟩
  | started b => exact ⟨rfl, b.log, rfl, rfl⟩

/-- The states that a controller goes through while it handles events. -/
def stateSequence (b : Btl) (as : List (Event × Env)) : List BootloaderState :=
  as.inits.map fun done => (done.foldl step b).mgmt.eBtlState

/-- **Session isolation**: from any two histories that end in the idle state,
the same events are followed by the same calls and answers and by the same
states. -/
theorem session_isolated {b c : Btl} (hb : (machine slot).Reachable b)
    (hc : (machine slot).Reachable c) (hbi : b.mgmt.eBtlState = .idle)
    (hci : c.mgmt.eBtlState = .idle) (as : List (Event × Env)) :
    stateSequence b as = stateSequence c as ∧
      ∃ new, (as.foldl step b).log = new ++ b.log ∧ (as.foldl step c).log = new ++ c.log := by
  obtain ⟨r, rfl⟩ := idleClean_of_reachable hb hbi
  obtain ⟨r', rfl⟩ := idleClean_of_reachable hc hci
  have hstart : Alike slot r.log r'.log (idleWith slot r) (idleWith slot r') :=
    .idle r r' [] rfl rfl
  constructor
  · unfold stateSequence
    refine List.map_congr_left fun done _ => ?_
    exact (hstart.run done).seen.1
  · exact (hstart.run as).seen.2

/-- An update request, a packet and a stop, then the way back to the idle
state; and the controller as it is initialized. -/
theorem session_isolated_after_stop :
    let b := runFrames ⟨0x4000⟩ [requestFrame, packetFrame 0, bridgeFrame .fwUpStop [],
      bridgeFrame .recoverFromError []]
    let c := runFrames ⟨0x4000⟩ []
    let as := [requestFrame, packetFrame 0, endFrame].map fun f => (Event.frame f, Env.success)
    stateSequence b as = stateSequence c as ∧
      ∃ new, (as.foldl step b).log = new ++ b.log ∧ (as.foldl step c).log = new ++ c.log :=
  session_isolated (reachable_runFrames _ _) (reachable_runFrames _ _) (by decide +kernel)
    (by decide +kernel) _

end WallController.Bootloader
