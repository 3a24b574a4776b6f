/-
  WallController.Bootloader.InfoSequence
  ────────────────────────────────
  **THE SEQUENCE NUMBER OF THE LOST-PACKET INFO FRAMES.**

  An acknowledgement names the frame that it answers by `uiFrameSeq`.  The
  number is taken by `vGet_LostPacketInfo`, and advanced where the submission
  is queued; `vEnter_LostPacketRecovery_Locked` sets it back to 0.

  Main results:
    * `Numbered.moves`: the frames of a session have the numbers 0, 1, …
    * `ack_completes_own`: an ACK completes the frame it answers, in the runs
      whose submissions of new frames are queued, and that do not set the
      number back after a frame.
-/
import WallController.Bootloader.InfoThreads
import WallController.Bootloader.AcceptedUpdate
import Mathlib.Data.List.Dedup

namespace WallController.Bootloader

open WallController.Lib

/-! ## §1. The frames of a session. -/

/-- The info frames submitted since the session has started, the newest first. -/
def infoFrames : List Obs → List (List UInt8)
  | [] => []
  | .sessionStarted _ :: _ => []
  | .lostPacketInfo data _ :: log => data :: infoFrames log
  | _ :: log => infoFrames log

/-- The frames of the session of the threads. -/
def Threads.infoFrames (t : Threads) : List (List UInt8) :=
  Bootloader.infoFrames t.shared.btl.log

/-- The number that a frame carries. -/
def frameSeq (data : List UInt8) : UInt8 := data.getD 2 0

/-- The marks tell the frames. -/
theorem infoFrames_filter (log : List Obs) :
    infoFrames (log.filter Obs.isInfo) = infoFrames log := by
  induction log with
  | nil => rfl
  | cons o log ih =>
      cases o with
      | sessionStarted uiaData => rfl
      | lostPacketInfo data queued =>
          show data :: infoFrames (log.filter Obs.isInfo) = data :: infoFrames log
          rw [ih]
      | _ => exact ih

theorem Threads.infoFrames_eq (t : Threads) :
    t.infoFrames = Bootloader.infoFrames t.shared.line.infos :=
  (infoFrames_filter _).symm

/-! ## §2. The numbers. -/

/-- The frames are numbered from 0 on, the next number is the count of frames, and the
frame to submit again is one of them. -/
structure Numbered (tx : LostPacketTx) (outstanding : List UInt8) (frames : List (List UInt8)) :
    Prop where
  seq : tx.uiFrameSeq = frames.dedup.length % 256
  bounded : frames.dedup.length ≤ 256
  below : ∀ d ∈ frames, ∃ i < frames.dedup.length, frameSeq d = UInt8.ofNat i
  apart : ∀ d ∈ frames, ∀ d' ∈ frames, frameSeq d = frameSeq d' → d = d'
  outstanding : tx.eTxState ≠ .idle → outstanding ∈ frames

/-- The invariant of a session. -/
def TxLine.Numbered (L : TxLine) : Prop :=
  Bootloader.Numbered L.tx L.outstanding (infoFrames L.infos)

/-- No frame yet. -/
theorem Numbered.start (outstanding : List UInt8) :
    Numbered LostPacketTx.cleared outstanding [] where
  seq := rfl
  bounded := Nat.zero_le _
  below := nofun
  apart := nofun
  outstanding h := absurd rfl h

theorem frameSeq_lostPacketInfoFrame (img : FWImgCtrl) (uiFrameSeq : Nat) :
    frameSeq (lostPacketInfoFrame img uiFrameSeq) = UInt8.ofNat uiFrameSeq := rfl

theorem ofNat_inj {i k : Nat} (hi : i < 256) (hk : k < 256)
    (h : UInt8.ofNat i = UInt8.ofNat k) : i = k := by
  have hnat := congrArg UInt8.toNat h
  rw [UInt8.toNat_ofNat_of_lt' hi, UInt8.toNat_ofNat_of_lt' hk] at hnat
  exact hnat

/-- A new frame takes the next number. -/
theorem Numbered.built {tx tx' : LostPacketTx} {outstanding data : List UInt8}
    {frames : List (List UInt8)} (h : Numbered tx outstanding frames)
    (hroom : frames.dedup.length < 256) (hdata : frameSeq data = UInt8.ofNat tx.uiFrameSeq)
    (htx : tx'.uiFrameSeq = (tx.uiFrameSeq + 1) % 256) : Numbered tx' data (data :: frames) := by
  have hseq : tx.uiFrameSeq = frames.dedup.length := by
    rw [h.seq]
    exact Nat.mod_eq_of_lt hroom
  rw [hseq] at hdata
  -- no earlier frame has its number
  have hnew : ∀ d ∈ frames, frameSeq d ≠ frameSeq data := by
    intro d hd heq
    obtain ⟨i, hi, hdi⟩ := h.below d hd
    have hsame : i = frames.dedup.length :=
      ofNat_inj (by omega) hroom (hdi.symm.trans (heq.trans hdata))
    omega
  have hmem : data ∉ frames := fun hmem => hnew data hmem rfl
  have hcount : (data :: frames).dedup.length = frames.dedup.length + 1 := by
    rw [List.dedup_cons_of_notMem hmem, List.length_cons]
  refine ⟨?_, ?_, ?_, ?_, fun _ => List.mem_cons_self⟩
  · rw [htx, hcount, hseq]
  · rw [hcount]
    omega
  · rw [hcount]
    intro d hd
    rcases List.mem_cons.mp hd with rfl | hold
    · exact ⟨_, Nat.lt_succ_self _, hdata⟩
    · obtain ⟨i, hi, hdi⟩ := h.below d hold
      exact ⟨i, by omega, hdi⟩
  · intro d hd d' hd' heq
    rcases List.mem_cons.mp hd with rfl | hold
    · rcases List.mem_cons.mp hd' with rfl | hold'
      · rfl
      · exact absurd heq.symm (hnew d' hold')
    · rcases List.mem_cons.mp hd' with rfl | hold'
      · exact absurd heq (hnew d hold)
      · exact h.apart d hold d' hold' heq

/-- A frame is submitted again. -/
theorem Numbered.resubmitted {tx tx' : LostPacketTx} {outstanding : List UInt8}
    {frames : List (List UInt8)} (h : Numbered tx outstanding frames)
    (hidle : tx.eTxState ≠ .idle) (htx : tx'.uiFrameSeq = tx.uiFrameSeq) :
    Numbered tx' outstanding (outstanding :: frames) := by
  have hmem : outstanding ∈ frames := h.outstanding hidle
  have hcount : (outstanding :: frames).dedup = frames.dedup := List.dedup_cons_of_mem hmem
  have hin : ∀ d ∈ outstanding :: frames, d ∈ frames := by
    intro d hd
    rcases List.mem_cons.mp hd with rfl | hold
    · exact hmem
    · exact hold
  refine ⟨?_, ?_, ?_, ?_, fun _ => List.mem_cons_self⟩
  · rw [htx, hcount]
    exact h.seq
  · rw [hcount]
    exact h.bounded
  · rw [hcount]
    intro d hd
    exact h.below d (hin d hd)
  · intro d hd d' hd' heq
    exact h.apart d (hin d hd) d' (hin d' hd') heq

/-- The state and the retries do not matter. -/
theorem Numbered.congr {tx tx' : LostPacketTx} {outstanding : List UInt8}
    {frames : List (List UInt8)} (h : Numbered tx outstanding frames)
    (htx : tx'.uiFrameSeq = tx.uiFrameSeq)
    (hidle : tx'.eTxState ≠ .idle → tx.eTxState ≠ .idle) : Numbered tx' outstanding frames where
  seq := htx.trans h.seq
  bounded := h.bounded
  below := h.below
  apart := h.apart
  outstanding hne := h.outstanding (hidle hne)

/-- **One move** keeps the numbers, if a new frame is queued and has a number left, and
the number is not set back after a frame. -/
theorem Numbered.moves {c : Cause} {L L' : TxLine} (hL : L.state = .fwImgWriteInProg → L.Numbered)
    (hstart : c.starts = true → L.tx = LostPacketTx.cleared)
    (hbuild : c.builds = true → L.state = .fwImgWriteInProg → L.tx.eTxState = .idle →
      c.queued = true ∧ (infoFrames L.infos).dedup.length < 256)
    (hrecover : c.recovers = true → infoFrames L.infos = []) (h : TxLine.Moves c L L')
    (hst : L'.state = .fwImgWriteInProg) : L'.Numbered := by
  cases h with
  | kept => exact hL hst
  | left s hs => exact absurd hst hs.1
  | gaveUp => cases hst
  | reinitialized _ => cases hst
  | recovery hc =>
      show Numbered LostPacketTx.cleared _ (infoFrames L.infos)
      rw [hrecover hc]
      exact .start _
  | started hc uiaData =>
      show Numbered L.tx _ []
      rw [hstart hc]
      exact .start _
  | built hc img hidle =>
      obtain ⟨hqueued, hroom⟩ := hbuild hc hst hidle
      have hout : (L.built (lostPacketInfoFrame img L.tx.uiFrameSeq) c.queued).outstanding
          = lostPacketInfoFrame img L.tx.uiFrameSeq := by
        rw [hqueued]
        exact List.take_left
      show Numbered _ _ (_ :: infoFrames L.infos)
      rw [hout]
      refine (hL hst).built hroom rfl ?_
      rw [hqueued]
      rfl
  | retrying hidle => exact (hL hst).congr rfl fun _ => hidle
  | resubmitted queued hretry _ =>
      have hidle : L.tx.eTxState ≠ .idle := by
        rw [hretry]
        decide
      exact (hL hst).resubmitted hidle rfl
  | acked _ => exact (hL hst).congr rfl fun hne => absurd rfl hne
  | scheduled _ _ => exact hL hst
  | unscheduled _ _ => exact hL hst

/-! ## §3. All runs. -/

/-- While an image is being written, a new frame is queued and has a number left, and the
recovery is not entered after a frame. -/
def SeqAdvances (t : Threads) (a : Act × Env) : Prop :=
  ((t.cause a).builds = true → t.shared.state = .fwImgWriteInProg →
      t.shared.btl.tx.eTxState = .idle →
      (t.cause a).queued = true ∧ t.infoFrames.dedup.length < 256)
    ∧ ((t.cause a).recovers = true → t.infoFrames = [])

instance (t : Threads) (a : Act × Env) : Decidable (SeqAdvances t a) :=
  inferInstanceAs (Decidable ((_ = _ → _ = _ → _ = _ → _ = _ ∧ _ < _) ∧ (_ = _ → _ = _)))

theorem threads_numbered {slot : FlashArea} {t : Threads}
    (h : (threads slot).ReachableVia SeqAdvances t) : t.shared.btl.halted = none →
      StartsClear t ∧ (t.shared.state = .fwImgWriteInProg → t.shared.line.Numbered) := by
  induction h with
  | init h =>
      obtain ⟨flash, env, rfl⟩ := h
      intro _
      refine ⟨.boot slot flash env, ?_⟩
      intro hst
      exact absurd hst (bInit_watchdog slot flash env).1.1
  | @step t t' a _ hok hstep ih =>
      obtain ⟨hclear, hnumbered⟩ := ih (Threads.running_of_step hstep)
      intro hrun
      refine ⟨hclear.step hstep hrun, ?_⟩
      unfold SeqAdvances at hok
      rw [t.infoFrames_eq] at hok
      exact Numbered.moves hnumbered hclear.starts hok.1 hok.2 (Threads.step_line hstep hrun)

/-! ## §4. The acknowledgement. -/

/-- A response moves the Tx state to Idle. -/
def Shared.completes (s : Shared) (eAck uiFrameSeq : UInt8) : Prop :=
  s.btl.tx.eTxState ≠ .idle
    ∧ (txResponseSection eAck uiFrameSeq s).2.btl.tx.eTxState = .idle

/-- It has the number of the frame that would be submitted again. -/
theorem Shared.completes_seq {s : Shared} {eAck uiFrameSeq : UInt8}
    (h : s.completes eAck uiFrameSeq) : frameSeq s.line.outstanding = uiFrameSeq := by
  obtain ⟨hne, hidle⟩ := h
  unfold txResponseSection at hidle
  dsimp only at hidle
  split at hidle
  · exact absurd hidle hne
  split at hidle
  · exact absurd hidle hne
  rename_i hlen
  split at hidle
  · exact absurd hidle hne
  rename_i hseq
  show (s.btl.tx.uiaTxData.take (s.btl.tx.stTCANTxMsg.getD 0)).getD 2 0 = uiFrameSeq
  rw [not_not.mp hseq, List.getD_eq_getElem?_getD, List.getD_eq_getElem?_getD,
    List.getElem?_take_of_lt (by omega)]

/-- **An acknowledgement completes only the frame it answers**: the frames of a session
that have one number are one frame, and where a response completes, the frame that it
answers is the outstanding one. -/
theorem ack_completes_own {slot : FlashArea} {t : Threads}
    (h : (threads slot).ReachableVia SeqAdvances t) (hrun : t.shared.btl.halted = none)
    (hst : t.shared.state = .fwImgWriteInProg) :
    (∀ d ∈ t.infoFrames, ∀ d' ∈ t.infoFrames, frameSeq d = frameSeq d' → d = d') ∧
      ∀ eAck uiFrameSeq, t.shared.completes eAck uiFrameSeq →
        ∀ d ∈ t.infoFrames, frameSeq d = uiFrameSeq → d = t.shared.line.outstanding := by
  have hnumbered := (threads_numbered h hrun).2 hst
  rw [t.infoFrames_eq]
  refine ⟨hnumbered.apart, ?_⟩
  intro eAck uiFrameSeq hcompletes d hd hseq
  refine hnumbered.apart d hd _ (hnumbered.outstanding hcompletes.1) ?_
  rw [hseq, Shared.completes_seq hcompletes]

/-! ## §5. Runs. -/

/-- The host asks for the lost packets, and acknowledges a frame. -/
def infoRequest : List Act := command (bridgeFrame .getLostPacketInfo []) 4
def infoAck (uiFrameSeq : UInt8) : List Act :=
  command (bridgeFrame .retLostPacketInfo [eCAN_ACK, uiFrameSeq]) 2

/-- A first frame that is queued or not, and submitted again after the timeout.  It is
acknowledged, a packet is lost, and the host asks again. -/
def twoInfoFrames (txQueued : Bool) : List (Act × Env) :=
  atTime 0 (command requestFrame 5)
    ++ (infoRequest.map fun a => (a, { Env.success with txQueued := txQueued }))
    ++ atTime TIMEOUT_LOST_PACKET_TX_ms
      (txTimeOut 3 ++ infoAck 0 ++ command (packetFrame 1) 3 ++ infoRequest)

/-- The submission of the first frame fails, and the second one has its number. -/
theorem not_ack_completes_own :
    ¬∀ t : Threads, (threads ⟨0x4000⟩).Reachable t → t.shared.btl.halted = none →
      t.shared.state = .fwImgWriteInProg →
      (∀ d ∈ t.infoFrames, ∀ d' ∈ t.infoFrames, frameSeq d = frameSeq d' → d = d') ∧
        ∀ eAck uiFrameSeq, t.shared.completes eAck uiFrameSeq →
          ∀ d ∈ t.infoFrames, frameSeq d = uiFrameSeq → d = t.shared.line.outstanding := by
  intro h
  have hrun : (Threads.run (twoInfoFrames false)).map (fun t =>
      (t.shared.btl.halted.isSome, t.shared.state, t.infoFrames))
      = some (false, .fwImgWriteInProg, [[27, 1, 0, 2, 0, 0], [27, 0, 0, 0], [27, 0, 0, 0]]) := by
    decide +kernel
  obtain ⟨t, ht, hout⟩ := Option.map_eq_some_iff.mp hrun
  obtain ⟨hnone, hst, hframes⟩ : t.shared.btl.halted.isSome = false
      ∧ t.shared.state = .fwImgWriteInProg
      ∧ t.infoFrames = [[27, 1, 0, 2, 0, 0], [27, 0, 0, 0], [27, 0, 0, 0]] := by
    simpa using hout
  have hreach : (threads ⟨0x4000⟩).Reachable t :=
    TransSys.Reachable.foldlM (fun _ _ _ h => h) (.init ⟨_, _, rfl⟩) _ ht
  have hapart := (h t hreach (by simpa using hnone) hst).1
  rw [hframes] at hapart
  exact absurd (hapart [27, 1, 0, 2, 0, 0] (by decide) [27, 0, 0, 0] (by decide) (by decide))
    (by decide)

/-- The submission of the first frame is queued, and the second one has the next
number. -/
theorem ack_completes_own_next : ∃ t : Threads,
    t.infoFrames = [[27, 1, 1, 2, 0, 0], [27, 0, 0, 0], [27, 0, 0, 0]] ∧
      (∀ d ∈ t.infoFrames, ∀ d' ∈ t.infoFrames, frameSeq d = frameSeq d' → d = d') ∧
        ∀ eAck uiFrameSeq, t.shared.completes eAck uiFrameSeq →
          ∀ d ∈ t.infoFrames, frameSeq d = uiFrameSeq → d = t.shared.line.outstanding := by
  have hrun : ((twoInfoFrames true).foldlM (TransSys.guarded SeqAdvances Threads.step)
      (Threads.boot (bInitBootloaderController ⟨0x4000⟩ (fun _ => 0) Env.success))).map (fun t =>
        (t.shared.btl.halted.isSome, t.shared.state, t.infoFrames))
      = some (false, .fwImgWriteInProg, [[27, 1, 1, 2, 0, 0], [27, 0, 0, 0], [27, 0, 0, 0]]) := by
    decide +kernel
  obtain ⟨t, ht, hout⟩ := Option.map_eq_some_iff.mp hrun
  obtain ⟨hnone, hst, hframes⟩ : t.shared.btl.halted.isSome = false
      ∧ t.shared.state = .fwImgWriteInProg
      ∧ t.infoFrames = [[27, 1, 1, 2, 0, 0], [27, 0, 0, 0], [27, 0, 0, 0]] := by
    simpa using hout
  have hreach : (threads ⟨0x4000⟩).ReachableVia SeqAdvances t :=
    TransSys.ReachableVia.foldlM (fun _ _ _ h => TransSys.guarded_some h) (.init ⟨_, _, rfl⟩) _ ht
  exact ⟨t, hframes, ack_completes_own hreach (by simpa using hnone) hst⟩

end WallController.Bootloader
