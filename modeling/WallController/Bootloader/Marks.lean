/-
  WallController.Bootloader.Marks
  ────────────────────────────────
  **WHERE THE MARKS OF THE TRACE COME FROM.**

  The start of a session and the acceptance of a packet are marks in the trace,
  not calls.  The step that makes one is the handling of a CAN frame, and what
  the mark says is what the frame carries: the payload of the update request,
  the id and the data of the packet (`MarksCarried`).
-/
import WallController.Bootloader.Transitions

namespace WallController.Bootloader

open WallController.Lib

/-! ## §1. The marks of a step. -/

/-- `b'` is `b` after some calls, whose marks are allowed. -/
def Marked (mark : Obs → Prop) (b b' : Btl) : Prop :=
  ∃ calls : List Obs, b'.log = calls ++ b.log ∧ ∀ o ∈ calls, o.mark = true → mark o

namespace Marked

variable {mark : Obs → Prop} {b b' b'' : Btl}

theorem trans (h₁ : Marked mark b b') (h₂ : Marked mark b' b'') : Marked mark b b'' := by
  obtain ⟨calls, hl, hc⟩ := h₁
  obtain ⟨calls', hl', hc'⟩ := h₂
  refine ⟨calls' ++ calls, by rw [hl', hl, List.append_assoc], ?_⟩
  intro o ho
  rcases List.mem_append.mp ho with ho | ho
  · exact hc' o ho
  · exact hc o ho

theorem of_log_eq (h : b'.log = b.log) : Marked mark b b' := ⟨[], h, by simp⟩

/-- Calls without a mark. -/
theorem of_unmarked {calls : List Obs} (hl : b'.log = calls ++ b.log)
    (hc : ∀ o ∈ calls, o.mark = false) : Marked mark b b' := by
  refine ⟨calls, hl, ?_⟩
  intro o ho hm
  rw [hc o ho] at hm
  cases hm

theorem of_work (h : Work b b') : Marked mark b b' := by
  obtain ⟨calls, hl, hp⟩ := h.log
  exact .of_unmarked hl fun o ho => Obs.plain_not_mark (hp o ho)

/-- One mark. -/
theorem cons {o : Obs} (hl : b'.log = o :: b.log) (ho : mark o) : Marked mark b b' := by
  refine ⟨[o], hl, ?_⟩
  intro o' ho' _
  rw [List.mem_singleton.mp ho']
  exact ho

end Marked

/-- A transition makes the marks it is allowed to make. -/
theorem Transition.marked {env : Env} {ends : Prop} {mark : Obs → Prop} {slot : FlashArea}
    {b b' : Btl} (hb : Base slot b) (h : Transition env ends mark b b') : Marked mark b b' := by
  cases h with
  | kept h => exact .of_work h.work
  | ended h =>
      obtain ⟨calls, hl, hc⟩ := h.log
      exact .of_unmarked hl fun o ho => (hc o ho).mark
  | @started _ uiaData h hmark =>
      have herase : Marked mark b
          { b with log := [.flashClose, .flashErase 0, .flashOpen 0] ++ b.log } :=
        .of_unmarked rfl (by simp [Obs.mark])
      exact herase.trans (.cons h.log hmark)
  | @accepted id img b₁ data hstate hlen hadm hopen hin h hst hmark =>
      have hwrites : Work b b₁ := (beginPacket_work hb.first).trans h.work
      exact (Marked.of_work hwrites).trans (.cons rfl hmark)
  | missing hends hstate hmax hrec => exact .of_log_eq rfl
  | @completed img b₁ b' hends hstate hmax hrec hw hflash hc h =>
      obtain ⟨calls, hl, hp⟩ := h.log
      refine (Marked.of_work (Work.of_img hw)).trans (.of_unmarked hl ?_)
      intro o ho
      rcases hp o ho with hp | ⟨mgmt, ret, rfl, -⟩
      · exact Obs.plain_not_mark hp
      · rfl
  | nullHandle h hstate why htouched => exact (Marked.of_work h).trans (.of_log_eq rfl)
  | rebooted hm hs hlog hfa h => exact .of_log_eq hlog

/-- **The marks of a step** are those that its event can make. -/
theorem step_marked {slot : FlashArea} {b : Btl} (hb : Base slot b) (hrun : b.halted = none)
    (a : Event × Env) : Marked (a.1.Marks b) b (step b a) := by
  obtain ⟨b₀, b₁, hk₀, htr, hk₁⟩ := step_transition hb hrun a
  exact ((Marked.of_work hk₀.work).trans (htr.marked (hb.kept hk₀))).trans (.of_work hk₁.work)

/-! ## §2. The frames behind them. -/

theorem bGetBootloaderExpectedPayloadLen_lt {eCMD : BootloaderCommand} {n : Nat}
    (h : bGetBootloaderExpectedPayloadLen eCMD = some n) : n < CAN_MSG_MAX_SIZE := by
  cases eCMD <;> cases h <;> decide

theorem vUpdateBtlMsgACKRequirement_eCMD (m : CtrlMsg) :
    (vUpdateBtlMsgACKRequirement m).eCMD = m.eCMD := by
  unfold vUpdateBtlMsgACKRequirement
  split <;> rfl

theorem vUpdateBtlMsgACKRequirement_uiaData (m : CtrlMsg) :
    (vUpdateBtlMsgACKRequirement m).uiaData = m.uiaData := by
  unfold vUpdateBtlMsgACKRequirement
  split <;> rfl

/-- The message of a well-formed frame is what the frame carries, and its payload
has the length that its command expects. -/
theorem vFormatBootloaderMsg_ok {bIsInitialized : Bool} {f : CanFrame}
    (hok : (vFormatBootloaderMsg bIsInitialized f).bIsMsgOk = true) :
    Carries f (vFormatBootloaderMsg bIsInitialized f).eCMD
        (vFormatBootloaderMsg bIsInitialized f).uiaData ∧
      bGetBootloaderExpectedPayloadLen (vFormatBootloaderMsg bIsInitialized f).eCMD
        = some (vFormatBootloaderMsg bIsInitialized f).uiaData.length := by
  unfold vFormatBootloaderMsg at hok ⊢
  cases bIsInitialized with
  | false => cases hok
  | true =>
      simp only [Bool.not_true, Bool.false_eq_true, if_false] at hok ⊢
      by_cases hshort : canDlcToBytes f.dlc < 1
      · rw [if_pos hshort] at hok
        cases hok
      rw [if_neg hshort] at hok ⊢
      by_cases hrange : f.data.getD 0 0 < BootloaderCommand.fwUpReq.toByte ∨ f.data.getD 0 0 ≥ 35
      · rw [if_pos hrange] at hok
        cases hok
      rw [if_neg hrange] at hok ⊢
      cases hlen : bGetBootloaderExpectedPayloadLen (BootloaderCommand.ofByte (f.data.getD 0 0)) with
      | none =>
          simp only [hlen] at hok
          cases hok
      | some n =>
          simp only [hlen] at hok ⊢
          by_cases hroom : canDlcToBytes f.dlc - 1 < n
          · rw [if_pos hroom] at hok
            cases hok
          rw [if_neg hroom, vUpdateBtlMsgACKRequirement_eCMD, vUpdateBtlMsgACKRequirement_uiaData]
          have hn := bGetBootloaderExpectedPayloadLen_lt hlen
          have hdata := f.length_data
          have htake : ((f.data.drop 1).take n).length = n := by
            rw [List.length_take, List.length_drop]
            omega
          refine ⟨⟨by rw [htake]; omega, ?_⟩, hlen.trans (congrArg some htake.symm)⟩
          rw [htake, BootloaderCommand.toByte_ofByte]
          cases hf : f.data with
          | nil =>
              rw [hf] at hdata
              cases hdata
          | cons x xs => rfl

/-- The frame carries what the mark says. -/
def Obs.CarriedBy (f : CanFrame) : Obs → Prop
  | .sessionStarted uiaData => Carries f .fwUpReq uiaData ∧ uiaData.length = 10
  | .packetAccepted id data => ∃ payload, Carries f .fwUpMsg payload ∧
      payload.length = FW_IMG_PACKET_DATA_LENGTH ∧ id = packetId payload ∧ data = payload.drop 2
  | _ => False

theorem Event.Marks.carried {b : Btl} {f : CanFrame} {o : Obs} (h : (Event.frame f).Marks b o) :
    o.CarriedBy f := by
  obtain ⟨hok, hmark⟩ := h
  obtain ⟨hcarries, hlen⟩ := vFormatBootloaderMsg_ok hok
  generalize vFormatBootloaderMsg b.mgmt.bIsInitialized f = msg at hok hmark hcarries hlen
  cases o with
  | sessionStarted uiaData =>
      obtain ⟨hnone | hcmd, rfl⟩ := hmark
      · rw [hnone] at hlen
        cases hlen
      · rw [hcmd] at hcarries hlen
        exact ⟨hcarries, (Option.some.inj hlen).symm⟩
  | packetAccepted id data =>
      obtain ⟨hcmd, rfl, rfl⟩ := hmark
      rw [hcmd] at hcarries hlen
      exact ⟨_, hcarries, (Option.some.inj hlen).symm, rfl, rfl⟩
  | _ => cases hmark

/-! ## §3. Runs. -/

/-- What a longer list ends in and the shorter one does not begins with one of
the new elements. -/
theorem mem_of_suffix_append {α : Type*} {o : α} {earlier calls log : List α}
    (h : o :: earlier <:+ calls ++ log) (hn : ¬ o :: earlier <:+ log) :
    o ∈ calls ∧ log <:+ earlier := by
  induction calls with
  | nil => exact absurd h hn
  | cons o' calls ih =>
      rcases List.suffix_cons_iff.mp h with heq | hs
      · obtain ⟨rfl, rfl⟩ := List.cons.inj heq
        exact ⟨List.mem_cons_self, List.suffix_append _ _⟩
      · obtain ⟨hmem, hlog⟩ := ih hs
        exact ⟨List.mem_cons_of_mem _ hmem, hlog⟩

/-- Every mark has been made for a frame of the run that carries what it says. -/
def MarksCarried (slot : FlashArea) (b : Btl) : Prop :=
  ∀ later o earlier, b.log = later ++ o :: earlier → o.mark = true →
    ∃ b₀ f env, (machine slot).Reachable b₀ ∧ b₀.log <:+ earlier ∧
      o :: earlier <:+ (step b₀ (.frame f, env)).log ∧
      ((machine slot).startedAt (step b₀ (.frame f, env))).Reachable b ∧ o.CarriedBy f

/-- The initialization makes no mark. -/
theorem unmarked_init {slot : FlashArea} {o : Obs} (ho : o.mark = true) (earlier : List Obs)
    (b : Btl) (h : (machine slot).init b) : ¬ o :: earlier <:+ b.log := by
  obtain ⟨flash, env, rfl⟩ := h
  intro hs
  have hmem := hs.subset List.mem_cons_self
  have hinit : ∀ o' ∈ (bInitBootloaderController slot flash env).log, o'.mark = false := by
    unfold bInitBootloaderController flashAreaClose flashAreaOpen
    by_cases h : env.open_ = 0 <;> simp [h, Btl.start, Obs.mark]
  rw [hinit o hmem] at ho
  cases ho

/-- **The marks of a run come from its frames**, where it reaches running states
of the invariant only. -/
theorem marksCarried_of_base {slot : FlashArea}
    (hbase : ∀ b, (machine slot).Reachable b → b.halted = none → Base slot b) {b : Btl}
    (h : (machine slot).Reachable b) : MarksCarried slot b := by
  intro later o earlier hlog hmark
  have hnow : o :: earlier <:+ b.log := ⟨later, hlog.symm⟩
  obtain ⟨b₀, ⟨e, env⟩, b₁, hr₀, hn₀, rfl, hp₁, hrest⟩ :=
    h.origin (P := fun b => o :: earlier <:+ b.log) (unmarked_init hmark earlier) hnow
  -- the step that adds the mark is one of a running machine
  have hrun : b₀.halted = none := by
    by_contra hhalt
    rw [step_halted hhalt] at hp₁
    exact hn₀ hp₁
  obtain ⟨calls, hl, hc⟩ := step_marked (hbase b₀ hr₀ hrun) hrun (e, env)
  rw [hl] at hp₁
  obtain ⟨hmem, hearlier⟩ := mem_of_suffix_append hp₁ hn₀
  have hmarks := hc o hmem hmark
  rw [← hl] at hp₁
  cases e with
  | frame f => exact ⟨b₀, f, env, hr₀, hearlier, hp₁, hrest, hmarks.carried⟩
  | stateTimeOut => exact hmarks.elim
  | txTimeOut => exact hmarks.elim

end WallController.Bootloader
