/-
  WallController.Bootloader.Calls
  ────────────────────────────────
  **THE FLASH HANDLE AND THE TRACE OF CALLS.**

  A handler works through the flash map calls and either ends the session or
  goes on with it.  What all handlers have in common is collected here:

      handleOpen   the discipline of the handle, read off the trace
      Work         what the calls of a handler leave unchanged
-/
import WallController.Bootloader.Ctrl

namespace WallController.Bootloader

open WallController.Lib

/-! ## §1. The discipline of the handle. -/

/-- One call under the discipline: an open finds the handle closed, every
other call of the flash map finds it open. -/
def handleStep (isOpen : Bool) : Obs → Option Bool
  | .flashOpen ret => if isOpen then none else some (decide (ret = 0))
  | .flashClose => if isOpen then some false else none
  | .flashErase _ | .flashWrite .. | .flashRead .. => if isOpen then some true else none
  | _ => some isOpen

/-- Whether the handle is open after a trace, newest call first; `none` when
some call broke the discipline. -/
def handleOpen : List Obs → Option Bool
  | [] => some false
  | o :: log => (handleOpen log).bind fun isOpen => handleStep isOpen o

/-- The trace obeys the discipline, the handle is open exactly when the trace
says so, and an open handle is that of the slot. -/
structure HandleOk (b : Btl) : Prop where
  trace : handleOpen b.log = some b.flashArea.isSome
  slot : ∀ fa, b.flashArea = some fa → fa = b.slot

theorem HandleOk.cons {b b' : Btl} {o : Obs} (h : HandleOk b) (hlog : b'.log = o :: b.log)
    (ho : handleStep b.flashArea.isSome o = some b'.flashArea.isSome)
    (hslot : ∀ fa, b'.flashArea = some fa → fa = b'.slot) : HandleOk b' where
  trace := by
    rw [hlog, handleOpen, h.trace]
    exact ho
  slot := hslot

/-- A call that leaves the handle alone. -/
theorem HandleOk.other {b b' : Btl} {o : Obs} (h : HandleOk b) (hlog : b'.log = o :: b.log)
    (hfa : b'.flashArea = b.flashArea) (hs : b'.slot = b.slot)
    (ho : handleStep b.flashArea.isSome o = some b.flashArea.isSome) : HandleOk b' := by
  refine h.cons hlog (by rw [hfa]; exact ho) ?_
  rw [hfa, hs]
  exact h.slot

theorem HandleOk.congr {b b' : Btl} (h : HandleOk b) (hlog : b'.log = b.log)
    (hfa : b'.flashArea = b.flashArea) (hs : b'.slot = b.slot) : HandleOk b' where
  trace := by
    rw [hlog, hfa]
    exact h.trace
  slot := by
    rw [hfa, hs]
    exact h.slot

/-! ## §2. The work of a handler. -/

/-- The calls that neither start a session nor end its record: everything but
an erase, a start, an accepted packet and an upgrade request. -/
def Obs.plain : Obs → Bool
  | .flashErase _ | .sessionStarted .. | .packetAccepted .. | .bootRequestUpgrade .. => false
  | _ => true

/-- `b'` is `b` after some plain calls: the records outside of the image
record are unchanged, and the discipline of the handle is kept. -/
structure Work (b b' : Btl) : Prop where
  mgmt : b'.mgmt = b.mgmt
  slot : b'.slot = b.slot
  halted : b'.halted = b.halted
  log : ∃ calls : List Obs, b'.log = calls ++ b.log ∧ ∀ o ∈ calls, o.plain
  handle : HandleOk b → HandleOk b'

namespace Work

variable {b b' b'' : Btl}

/-- No call at all. -/
theorem of_log_eq (hm : b'.mgmt = b.mgmt) (hs : b'.slot = b.slot) (hh : b'.halted = b.halted)
    (hl : b'.log = b.log) (hf : b'.flashArea = b.flashArea) : Work b b' where
  mgmt := hm
  slot := hs
  halted := hh
  log := ⟨[], by simpa using hl, by simp⟩
  handle h := h.congr hl hf hs

theorem refl (b : Btl) : Work b b := of_log_eq rfl rfl rfl rfl rfl

theorem trans (h₁ : Work b b') (h₂ : Work b' b'') : Work b b'' where
  mgmt := h₂.mgmt.trans h₁.mgmt
  slot := h₂.slot.trans h₁.slot
  halted := h₂.halted.trans h₁.halted
  log := by
    obtain ⟨calls₁, hl₁, hp₁⟩ := h₁.log
    obtain ⟨calls₂, hl₂, hp₂⟩ := h₂.log
    refine ⟨calls₂ ++ calls₁, by rw [hl₂, hl₁, List.append_assoc], ?_⟩
    intro o ho
    rcases List.mem_append.mp ho with ho | ho
    · exact hp₂ o ho
    · exact hp₁ o ho
  handle h := h₂.handle (h₁.handle h)

/-- The calls of the work are those that the trace has grown by. -/
theorem plain (h : Work b b') {calls : List Obs} (hl : b'.log = calls ++ b.log) :
    ∀ o ∈ calls, o.plain := by
  obtain ⟨calls', hl', hp⟩ := h.log
  rw [hl'] at hl
  rwa [List.append_cancel_right hl] at hp

/-- The image record may be changed before the work. -/
theorem of_img {img : FWImgCtrl} (h : Work { b with img := img } b') : Work b b' := by
  have h₀ : Work b { b with img := img } := of_log_eq rfl rfl rfl rfl rfl
  exact h₀.trans h

/-- One plain call. -/
theorem one {o : Obs} (hm : b'.mgmt = b.mgmt) (hs : b'.slot = b.slot)
    (hh : b'.halted = b.halted) (hl : b'.log = o :: b.log) (hp : o.plain)
    (hf : HandleOk b → HandleOk b') : Work b b' where
  mgmt := hm
  slot := hs
  halted := hh
  log := ⟨[o], by simpa using hl, by simpa using hp⟩
  handle := hf

end Work

/-- Opening a closed handle. -/
theorem flashAreaOpen_work (env : Env) {b : Btl} (h : b.flashArea = none) :
    Work b (flashAreaOpen env b) := by
  unfold flashAreaOpen
  by_cases hret : env.open_ = 0
  · rw [if_pos hret]
    refine .one rfl rfl rfl rfl rfl fun hb => hb.cons rfl ?_ ?_
    · simp [handleStep, h, hret]
    · intro fa hfa
      cases hfa
      rfl
  · rw [if_neg hret]
    refine .one rfl rfl rfl rfl rfl fun hb => hb.cons rfl ?_ hb.slot
    simp [handleStep, h, hret]

/-- Closing the handle where it is open. -/
theorem flashAreaCloseIfOpen_work (b : Btl) : Work b (flashAreaCloseIfOpen b) := by
  unfold flashAreaCloseIfOpen
  by_cases h : b.flashArea.isSome
  · rw [if_pos h]
    refine .one rfl rfl rfl rfl rfl fun hb => hb.cons rfl ?_ ?_
    · rw [h]
      rfl
    · intro fa hfa
      cases hfa
  · rw [if_neg h]
    exact .refl b

@[simp] theorem flashAreaCloseIfOpen_flashArea (b : Btl) :
    (flashAreaCloseIfOpen b).flashArea = none := by
  unfold flashAreaCloseIfOpen flashAreaClose
  by_cases h : b.flashArea.isSome
  · rw [if_pos h]
  · rw [if_neg h]
    simpa using h

@[simp] theorem flashAreaCloseIfOpen_mgmt (b : Btl) :
    (flashAreaCloseIfOpen b).mgmt = b.mgmt := (flashAreaCloseIfOpen_work b).mgmt

@[simp] theorem flashAreaCloseIfOpen_slot (b : Btl) :
    (flashAreaCloseIfOpen b).slot = b.slot := (flashAreaCloseIfOpen_work b).slot

@[simp] theorem flashAreaCloseIfOpen_halted (b : Btl) :
    (flashAreaCloseIfOpen b).halted = b.halted := (flashAreaCloseIfOpen_work b).halted

/-- A write with the handle open. -/
theorem flashAreaWrite_work {env : Env} {id off pass : Nat} {data : List UInt8} {b b' : Btl}
    {ret : Int} (h : flashAreaWrite env id off data pass b = .ok (ret, b')) : Work b b' := by
  unfold flashAreaWrite at h
  cases hfa : b.flashArea with
  | none =>
      rw [hfa] at h
      cases h
  | some fa =>
      rw [hfa] at h
      cases h
      refine .one rfl rfl rfl rfl rfl fun hb => hb.other rfl hfa.symm rfl ?_
      rw [hfa]
      rfl

/-- A read with the handle open. -/
theorem flashAreaRead_work {env : Env} {off len pass : Nat} {b b' : Btl}
    {ret : Int} (h : flashAreaRead env off len pass b = .ok (ret, b')) : Work b b' := by
  unfold flashAreaRead at h
  cases hfa : b.flashArea with
  | none =>
      rw [hfa] at h
      cases h
  | some fa =>
      rw [hfa] at h
      cases h
      refine .one rfl rfl rfl rfl rfl fun hb => hb.other rfl hfa.symm rfl ?_
      rw [hfa]
      rfl

/-! ## §3. Giving a session up. -/

/-- `b'` is `b` with its session ended by calls that satisfy `P`: the state is
neither of the two in which an image is at work, the partition data stands,
and the handle is closed. -/
structure EndedBy (P : Obs → Prop) (b b' : Btl) : Prop where
  state : b'.mgmt.eBtlState ≠ .fwImgWriteInProg ∧ b'.mgmt.eBtlState ≠ .fwImgWriteCompleted
  initialized : b'.mgmt.bIsInitialized = b.mgmt.bIsInitialized
  size : b'.mgmt.uiFlashAreaSize = b.mgmt.uiFlashAreaSize
  slot : b'.slot = b.slot
  halted : b'.halted = b.halted
  flashArea : b'.flashArea = none
  log : ∃ calls : List Obs, b'.log = calls ++ b.log ∧ ∀ o ∈ calls, P o
  handle : HandleOk b → HandleOk b'

/-- The session has been given up. -/
abbrev Ended : Btl → Btl → Prop := EndedBy fun o => o.plain

/-- The reset ends the session, whatever state it goes to. -/
theorem resetSession_ended {eState : BootloaderState} {bFirstEntry : Bool} (b : Btl)
    (h : eState ≠ .fwImgWriteInProg ∧ eState ≠ .fwImgWriteCompleted) :
    Ended b (resetSession eState bFirstEntry b) := by
  have hinv : Work b (vInvalidateBootloaderStateTimeOutLocked b) :=
    .of_log_eq rfl rfl rfl rfl rfl
  have hwork := hinv.trans (flashAreaCloseIfOpen_work _)
  have hm := hwork.mgmt
  exact {
    state := h
    initialized := by
      show (flashAreaCloseIfOpen _).mgmt.bIsInitialized = _
      rw [hm]
    size := by
      show (flashAreaCloseIfOpen _).mgmt.uiFlashAreaSize = _
      rw [hm]
    slot := hwork.slot
    halted := hwork.halted
    flashArea := flashAreaCloseIfOpen_flashArea _
    log := hwork.log
    handle := fun hb => (hwork.handle hb).congr rfl rfl rfl }

/-- The cancellation of work items touches the timers alone. -/
theorem EndedBy.cancelWorks {P : Obs → Prop} {b b' : Btl} (h : EndedBy P b b') :
    EndedBy P b (cancelWorks b') where
  state := h.state
  initialized := h.initialized
  size := h.size
  slot := h.slot
  halted := h.halted
  flashArea := h.flashArea
  log := h.log
  handle hb := (h.handle hb).congr rfl rfl rfl

/-- Work before the session ends. -/
theorem Work.ended {P : Obs → Prop} {b b' b'' : Btl} (hP : ∀ o, o.plain → P o)
    (h₁ : Work b b') (h₂ : EndedBy P b' b'') : EndedBy P b b'' where
  state := h₂.state
  initialized := by rw [h₂.initialized, h₁.mgmt]
  size := by rw [h₂.size, h₁.mgmt]
  slot := h₂.slot.trans h₁.slot
  halted := h₂.halted.trans h₁.halted
  flashArea := h₂.flashArea
  log := by
    obtain ⟨calls₁, hl₁, hp₁⟩ := h₁.log
    obtain ⟨calls₂, hl₂, hp₂⟩ := h₂.log
    refine ⟨calls₂ ++ calls₁, by rw [hl₂, hl₁, List.append_assoc], ?_⟩
    intro o ho
    rcases List.mem_append.mp ho with ho | ho
    · exact hp₂ o ho
    · exact hP o (hp₁ o ho)
  handle hb := h₂.handle (h₁.handle hb)

theorem vAbortBootloaderSessionLocked_ended (b : Btl) :
    Ended b (vAbortBootloaderSessionLocked b) :=
  resetSession_ended b ⟨by decide, by decide⟩

theorem vAbortBootloaderSession_ended (b : Btl) : Ended b (vAbortBootloaderSession b) :=
  (vAbortBootloaderSessionLocked_ended b).cancelWorks

theorem rejectAndAbort_ended (j : Job) (e : BootloaderError) :
    Ended j.btl (rejectAndAbort j e).btl :=
  vAbortBootloaderSession_ended j.btl

theorem vReinitBootloaderStateMachine_ended (b : Btl) :
    Ended b (vReinitBootloaderStateMachine b) :=
  (resetSession_ended b ⟨by decide, by decide⟩).cancelWorks

end WallController.Bootloader
