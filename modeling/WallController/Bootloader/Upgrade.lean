/-
  WallController.Bootloader.Upgrade
  ────────────────────────────────
  **THE UPGRADE REQUEST.**

  A completed image goes straight on to `boot_request_upgrade`, which is tried
  three times.  Afterwards the controller waits for the reboot or, when every
  try has failed, has given the session up.  `UpgradesVerified` says of a
  trace that every request in it was made for the verified image of the
  session it was made in.
-/
import WallController.Bootloader.Finish

namespace WallController.Bootloader

open WallController.Lib

/-! ## §1. Requests in a trace. -/

/-- The management record and the flash describe the verified image of the
session: size and CRC are those of its update request, every byte of the image
range holds what an accepted packet of the session has written there, and the
CRC of these bytes is that of the update request. -/
structure Verified (s : Session) (mgmt : Mgmt) (flash : Mem) : Prop where
  size : mgmt.uiFWImgSize = s.size
  crc : mgmt.uiCRC = s.crc
  written : ∀ a < s.size, s.Wrote (FW_IMAGE_SECONDARY_SLOT_WRITE_OFFSET + a)
    (flash (FW_IMAGE_SECONDARY_SLOT_WRITE_OFFSET + a))
  checked : u16CRC16CCITTUpdate 0xFFFF
    (flash.read FW_IMAGE_SECONDARY_SLOT_WRITE_OFFSET s.size) = s.crc

/-- Every upgrade request of the trace is for the verified image of the
session current at that point. -/
def UpgradesVerified (log : List Obs) : Prop :=
  ∀ later earlier mgmt flash ret,
    log = later ++ .bootRequestUpgrade mgmt flash ret :: earlier →
      ∃ s, currentSession earlier = some s ∧ Verified s mgmt flash

theorem UpgradesVerified.nil : UpgradesVerified [] := by
  intro later earlier mgmt flash ret hlog
  cases later <;> cases hlog

/-- Other calls do not matter. -/
theorem UpgradesVerified.cons {log : List Obs} {o : Obs} (h : UpgradesVerified log)
    (ho : ∀ mgmt flash ret, o ≠ .bootRequestUpgrade mgmt flash ret) :
    UpgradesVerified (o :: log) := by
  intro later earlier mgmt flash ret hlog
  cases later with
  | nil =>
      cases hlog
      exact absurd rfl (ho mgmt flash ret)
  | cons o' later =>
      cases hlog
      exact h later earlier mgmt flash ret rfl

/-- One more request, for the verified image of the current session. -/
theorem UpgradesVerified.request {log : List Obs} {s : Session} {mgmt : Mgmt} {flash : Mem}
    (h : UpgradesVerified log) (hs : currentSession log = some s) (hv : Verified s mgmt flash)
    (ret : Int) : UpgradesVerified (.bootRequestUpgrade mgmt flash ret :: log) := by
  intro later earlier mgmt' flash' ret' hlog
  cases later with
  | nil =>
      cases hlog
      exact ⟨s, hs, hv⟩
  | cons o' later =>
      cases hlog
      exact h later earlier mgmt' flash' ret' rfl

theorem Obs.plain_not_request {o : Obs} (h : o.plain) (mgmt : Mgmt) (flash : Mem) (ret : Int) :
    o ≠ .bootRequestUpgrade mgmt flash ret := by
  rintro rfl
  cases h

theorem UpgradesVerified.append_plain {log calls : List Obs} (h : UpgradesVerified log)
    (hc : ∀ o ∈ calls, o.plain) : UpgradesVerified (calls ++ log) := by
  induction calls with
  | nil => exact h
  | cons o calls ih =>
      have ih' := ih fun o' ho' => hc o' (List.mem_cons_of_mem _ ho')
      exact ih'.cons (Obs.plain_not_request (hc o List.mem_cons_self))

/-- A call that is plain or requests the upgrade for the image of `b`. -/
def RequestsFor (b : Btl) (o : Obs) : Prop :=
  o.plain ∨ ∃ mgmt ret, o = .bootRequestUpgrade mgmt b.flash ret ∧
    mgmt.uiFWImgSize = b.mgmt.uiFWImgSize ∧ mgmt.uiCRC = b.mgmt.uiCRC

theorem RequestsFor.not_start {b : Btl} {o : Obs} (h : RequestsFor b o) :
    (∀ ret, o ≠ .flashErase ret) ∧ ∀ uiaData, o ≠ .sessionStarted uiaData := by
  rcases h with hp | ⟨mgmt, ret, rfl, -⟩
  · exact Obs.plain_not_start hp
  · exact ⟨fun _ => by simp, fun _ => by simp⟩

theorem Verified.extend {s : Session} {mgmt : Mgmt} {flash : Mem} {calls : List Obs}
    (h : Verified s mgmt flash) : Verified (s.extend calls) mgmt flash where
  size := h.size
  crc := h.crc
  written a ha := (h.written a ha).extend
  checked := h.checked

/-- Requests for a verified image. -/
theorem UpgradesVerified.append_requests {b : Btl} {calls : List Obs} {s : Session}
    (h : UpgradesVerified b.log) (hs : currentSession b.log = some s)
    (hv : Verified s b.mgmt b.flash) (hc : ∀ o ∈ calls, RequestsFor b o) :
    UpgradesVerified (calls ++ b.log) := by
  induction calls with
  | nil => exact h
  | cons o calls ih =>
      have hc' : ∀ o' ∈ calls, RequestsFor b o' := fun o' ho' => hc o' (List.mem_cons_of_mem _ ho')
      rcases hc o List.mem_cons_self with hp | ⟨mgmt, ret, rfl, hsize, hcrc⟩
      · exact (ih hc').cons (Obs.plain_not_request hp)
      · have hcur := currentSession_append hs fun o ho => (hc' o ho).not_start
        refine (ih hc').request hcur ?_ ret
        exact { hv.extend with
          size := hsize.trans hv.size
          crc := hcrc.trans hv.crc }

/-! ## §2. The tries, and the completed state. -/

/-- The tries change the trace alone. -/
theorem requestUpgradeLoop_spec (env : Env) (left uiRetryCount : Nat) (b : Btl) :
    ∃ tries, (requestUpgradeLoop env left uiRetryCount b).2 = { b with log := tries ++ b.log } ∧
      ∀ o ∈ tries, ∃ ret, o = .bootRequestUpgrade b.mgmt b.flash ret := by
  induction left generalizing uiRetryCount b with
  | zero => exact ⟨[], rfl, by simp⟩
  | succ left ih =>
      unfold requestUpgradeLoop
      simp only
      by_cases hret : env.upgrade uiRetryCount = 0
      · rw [if_pos hret]
        refine ⟨[_], rfl, ?_⟩
        intro o ho
        exact ⟨_, List.mem_singleton.mp ho⟩
      · rw [if_neg hret]
        obtain ⟨tries, heq, htries⟩ := ih (uiRetryCount + 1)
          { b with log := .bootRequestUpgrade b.mgmt b.flash (env.upgrade uiRetryCount) :: b.log }
        refine ⟨tries ++ [.bootRequestUpgrade b.mgmt b.flash (env.upgrade uiRetryCount)], ?_, ?_⟩
        · rw [heq, List.append_assoc]
          rfl
        · intro o ho
          rcases List.mem_append.mp ho with ho | ho
          · exact htries o ho
          · exact ⟨_, List.mem_singleton.mp ho⟩

/-- Requests leave the handle alone. -/
theorem HandleOk.requests {b : Btl} {tries : List Obs} (h : HandleOk b)
    (ht : ∀ o ∈ tries, ∃ ret, o = .bootRequestUpgrade b.mgmt b.flash ret) :
    HandleOk { b with log := tries ++ b.log } := by
  induction tries with
  | nil => exact h
  | cons o tries ih =>
      obtain ⟨ret, rfl⟩ := ht o List.mem_cons_self
      have ih' := ih fun o' ho' => ht o' (List.mem_cons_of_mem _ ho')
      exact ih'.other rfl rfl rfl rfl

/-- The controller as the completed state finds it: the timer is off and the
handle closed. -/
def Btl.completed (b : Btl) : Btl :=
  let b := { b with mgmt := { b.mgmt with
    eBtlState := .fwImgWriteCompleted, bIsFirstEntry := false } }
  flashAreaCloseIfOpen (vCancelBootloaderStateTimeOut
    (cancelStateTimeOutWork (vInvalidateBootloaderStateTimeOutLocked b)))

theorem markCompleted_eq (env : Env) {j : Job} (hcmd : j.msg.eCMD = .fwUpEnd) :
    markCompleted env j = vRequestMCUbootImageUpgrade env { j with btl := j.btl.completed } := by
  unfold markCompleted vExecuteBootloaderFWImgWriteCompleted bIsFirstEntry
  simp only [hcmd]
  rfl

/-- The records of a completed image, apart from the state. -/
structure Completed (b b' : Btl) : Prop where
  mgmt : b'.mgmt = { b.mgmt with eBtlState := .fwImgWriteCompleted, bIsFirstEntry := false }
  slot : b'.slot = b.slot
  halted : b'.halted = b.halted
  flash : b'.flash = b.flash
  flashArea : b'.flashArea = none
  log : ∃ calls : List Obs, b'.log = calls ++ b.log ∧ ∀ o ∈ calls, o.plain
  handle : HandleOk b → HandleOk b'

@[simp] theorem flashAreaCloseIfOpen_flash (b : Btl) :
    (flashAreaCloseIfOpen b).flash = b.flash := by
  unfold flashAreaCloseIfOpen flashAreaClose
  by_cases h : b.flashArea.isSome
  · rw [if_pos h]
  · rw [if_neg h]

theorem Btl.completed_spec (b : Btl) : Completed b b.completed := by
  generalize hb₁ : vCancelBootloaderStateTimeOut (cancelStateTimeOutWork
    (vInvalidateBootloaderStateTimeOutLocked { b with mgmt := { b.mgmt with
      eBtlState := .fwImgWriteCompleted, bIsFirstEntry := false } })) = b₁
  have hcl := flashAreaCloseIfOpen_work b₁
  have hlog₁ : b₁.log = b.log := by rw [← hb₁]; rfl
  have heq : b.completed = flashAreaCloseIfOpen b₁ := by rw [← hb₁]; rfl
  rw [heq]
  exact {
    mgmt := by rw [hcl.mgmt, ← hb₁]; rfl
    slot := by rw [hcl.slot, ← hb₁]; rfl
    halted := by rw [hcl.halted, ← hb₁]; rfl
    flash := by rw [flashAreaCloseIfOpen_flash, ← hb₁]; rfl
    flashArea := flashAreaCloseIfOpen_flashArea _
    log := by
      obtain ⟨calls, hl, hp⟩ := hcl.log
      exact ⟨calls, by rw [hl, hlog₁], hp⟩
    handle := by
      intro h
      apply hcl.handle
      exact h.congr hlog₁ (by rw [← hb₁]; rfl) (by rw [← hb₁]; rfl) }

/-- **A completed image ends the session** with requests for this image. -/
theorem markCompleted_ended (env : Env) {j : Job} (hcmd : j.msg.eCMD = .fwUpEnd) :
    EndedBy (RequestsFor j.btl) j.btl (markCompleted env j).btl := by
  rw [markCompleted_eq env hcmd]
  have hc := j.btl.completed_spec
  generalize j.btl.completed = b₁ at hc ⊢
  obtain ⟨tries, htries, hreq⟩ :=
    requestUpgradeLoop_spec env BOOTLOADER_MAX_REQUEST_UPGRADE_TURNs 0 b₁
  obtain ⟨calls, hl, hp⟩ := hc.log
  -- the controller after the tries, before its last state change
  have htried : EndedBy (RequestsFor j.btl) j.btl
      { b₁ with mgmt := { b₁.mgmt with eBtlState := .reboot }, log := tries ++ b₁.log } := {
    state := ⟨by simp, by simp⟩
    initialized := by rw [hc.mgmt]
    size := by rw [hc.mgmt]
    slot := hc.slot
    halted := hc.halted
    flashArea := hc.flashArea
    log := by
      refine ⟨tries ++ calls, by rw [hl, List.append_assoc], ?_⟩
      intro o ho
      rcases List.mem_append.mp ho with ho | ho
      · obtain ⟨ret, rfl⟩ := hreq o ho
        refine .inr ⟨b₁.mgmt, ret, by rw [hc.flash], ?_, ?_⟩
        · rw [hc.mgmt]
        · rw [hc.mgmt]
      · exact .inl (hp o ho)
    handle := by
      intro h
      exact ((hc.handle h).requests hreq).congr rfl rfl rfl }
  unfold vRequestMCUbootImageUpgrade
  generalize requestUpgradeLoop env BOOTLOADER_MAX_REQUEST_UPGRADE_TURNs 0 b₁ = r at htries ⊢
  obtain ⟨bRequested, b₂⟩ := r
  simp only at htries ⊢
  cases bRequested with
  | true =>
      simp only [Bool.not_true, Bool.false_eq_true, if_false]
      subst htries
      exact {
        state := ⟨by simp [vRefreshBootloaderStateTimeOutLocked, vSetBootloaderState,
          cancelStateTimeOutWork, vInvalidateBootloaderStateTimeOutLocked],
          by simp [vRefreshBootloaderStateTimeOutLocked, vSetBootloaderState,
          cancelStateTimeOutWork, vInvalidateBootloaderStateTimeOutLocked]⟩
        initialized := htried.initialized
        size := htried.size
        slot := htried.slot
        halted := htried.halted
        flashArea := htried.flashArea
        log := htried.log
        handle := fun h => (htried.handle h).congr rfl rfl rfl }
  | false =>
      simp only [Bool.not_false, if_true]
      subst htries
      have habort := rejectAndAbort_ended
        { j with btl := { b₁ with log := tries ++ b₁.log } } .upgradeRequestFail
      obtain ⟨calls₂, hl₂, hp₂⟩ := habort.log
      obtain ⟨calls₁, hl₁, hp₁⟩ := htried.log
      exact {
        state := habort.state
        initialized := habort.initialized.trans htried.initialized
        size := habort.size.trans htried.size
        slot := habort.slot.trans htried.slot
        halted := habort.halted.trans htried.halted
        flashArea := habort.flashArea
        log := by
          refine ⟨calls₂ ++ calls₁, ?_, ?_⟩
          · rw [hl₂, List.append_assoc]
            exact congrArg _ hl₁
          · intro o ho
            rcases List.mem_append.mp ho with ho | ho
            · exact .inl (hp₂ o ho)
            · exact hp₁ o ho
        handle := by
          intro h
          apply habort.handle
          exact (htried.handle h).congr rfl rfl rfl }

/-- A completed image whose first request succeeds waits for the reboot. -/
theorem markCompleted_reboot {env : Env} (hup : env.upgrade 0 = 0) {j : Job}
    (hcmd : j.msg.eCMD = .fwUpEnd) :
    (markCompleted env j).btl.mgmt.eBtlState = .reboot ∧
      (markCompleted env j).btl.halted = j.btl.halted ∧
      (markCompleted env j).btl.flash = j.btl.flash := by
  rw [markCompleted_eq env hcmd]
  have hc := j.btl.completed_spec
  have hrequested : requestUpgradeLoop env BOOTLOADER_MAX_REQUEST_UPGRADE_TURNs 0 j.btl.completed
      = (true, { j.btl.completed with
          log := .bootRequestUpgrade j.btl.completed.mgmt j.btl.completed.flash (env.upgrade 0)
            :: j.btl.completed.log }) := by
    unfold BOOTLOADER_MAX_REQUEST_UPGRADE_TURNs requestUpgradeLoop
    simp only [if_pos hup]
  generalize j.btl.completed = b₁ at hc hrequested ⊢
  unfold vRequestMCUbootImageUpgrade
  simp only [hrequested, Bool.not_true, Bool.false_eq_true, if_false]
  exact ⟨rfl, hc.halted, hc.flash⟩

end WallController.Bootloader
