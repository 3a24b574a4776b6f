/-
  WallController.Bootloader.UpdateRecovery
  ────────────────────────────────
  **WHEN AN UPDATE WITH LOST PACKETS COMPLETES.**

  The host sends each packet once and then repeats, in five rounds at most, the
  first 30 of the packets that the controller still misses.  So what decides is
  the list of the packets that have not arrived in the first pass:

    • an update without any packet, or with more than 100 missing, is given up,
    • otherwise the list shrinks round by round (`pendingAfter`), and the update
      completes if and only if it is empty after the fifth.

  Main results:
    * `update_completed_iff`: that condition, and what the controller then holds.
    * `update_completes_of_clean_rounds`: four rounds without a loss are enough.
-/
import WallController.Bootloader.UpdateWorker

namespace WallController.Bootloader

open WallController.Lib

/-! ## §1. What has arrived, and what is pending. -/

/-- A packet of the id has arrived. -/
def Arrived (sends : List Send) (i : Nat) : Prop := ∃ p, Send.packet p ∈ sends ∧ p.packet_id = i

theorem arrived_append {sends sends' : List Send} {i : Nat} :
    Arrived (sends ++ sends') i ↔ Arrived sends i ∨ Arrived sends' i := by
  unfold Arrived
  simp only [List.mem_append, or_and_right, exists_or]

/-- The announcement of the end is no packet. -/
@[simp] theorem not_arrived_fwUpEnd {i : Nat} : ¬ Arrived [.fwUpEnd] i := by
  rintro ⟨p, hp, -⟩
  cases List.mem_singleton.mp hp

/-- The pending ids are those below the next one that have not been accepted. -/
theorem Tracks.mem_pendingIds {img : FWImgCtrl} {ids : List Nat} (h : Tracks img ids) {i : Nat} :
    i ∈ img.pendingIds ↔ i < img.uiNextId ∧ i ∉ ids := by
  unfold FWImgCtrl.pendingIds
  rw [List.mem_map, h.mem_iff]
  constructor
  · rintro ⟨p, hp, rfl⟩
    obtain ⟨hp, hhandled⟩ := List.mem_filter.mp hp
    refine ⟨h.lost_below p hp, ?_⟩
    rintro ⟨-, hall⟩
    rw [hall p hp rfl] at hhandled
    cases hhandled
  · rintro ⟨hlt, hnot⟩
    by_contra hno
    -- an id without a pending entry counts as accepted
    refine hnot ⟨hlt, ?_⟩
    intro p hp hpi
    by_contra hhandled
    refine hno ⟨p, List.mem_filter.mpr ⟨hp, ?_⟩, hpi⟩
    simpa using hhandled

theorem Tracks.pendingIds_sorted {img : FWImgCtrl} {ids : List Nat} (h : Tracks img ids) :
    img.pendingIds.Pairwise (· < ·) :=
  h.lost_sorted.sublist (List.filter_sublist.map _)

/-- Once the end has been announced the pending ids are those that have not
arrived, in their order. -/
theorem Receiving.pendingIds_eq {slot : FlashArea} {image : List UInt8} {sends : List Send}
    {b : Btl} {missing : List Nat} (h : Receiving slot image sends b)
    (hnext : (progress (uiExpectedPacketCount image.length) sends).next
      = uiExpectedPacketCount image.length)
    (hsorted : missing.Pairwise (· < ·))
    (hmissing : ∀ i, i ∈ missing ↔ i < uiExpectedPacketCount image.length ∧ ¬ Arrived sends i) :
    b.img.pendingIds = missing := by
  obtain ⟨s, -, hinv, hrecv⟩ := h.session
  refine hinv.tracks.pendingIds_sorted.eq_of_mem_iff hsorted ?_
  intro i
  rw [hinv.tracks.mem_pendingIds, hmissing, h.next, hnext, hrecv.ids]
  rfl

/-- The progress after packets in the order of their ids: what has been skipped
is what has not been sent. -/
theorem progress_ascending (n : Nat) {ps : List FirmwarePacket}
    (h : (ps.map (·.packet_id)).Pairwise (· < ·)) :
    (progress n (ps.map .packet)).skipped + ps.length = (progress n (ps.map .packet)).next ∧
      ∀ k, (∀ p ∈ ps, p.packet_id < k) → (progress n (ps.map .packet)).next ≤ k := by
  induction ps using List.reverseRecOn with
  | nil => exact ⟨rfl, fun k _ => Nat.zero_le k⟩
  | append_singleton ps p ih =>
      rw [List.map_append, List.pairwise_append] at h
      obtain ⟨hcount, hbelow⟩ := ih h.1
      -- so the packet is never behind the next id: it skips the gap before it
      have hle : (progress n (ps.map .packet)).next ≤ p.packet_id := by
        apply hbelow
        intro q hq
        exact h.2.2 _ (List.mem_map_of_mem hq) _ (List.mem_singleton.mpr rfl)
      rw [List.map_append, List.map_singleton, progress_concat, List.length_append,
        List.length_singleton]
      show _ + (p.packet_id - (progress n (ps.map .packet)).next) + _ = max _ (p.packet_id + 1) ∧
        ∀ k, _ → max _ (p.packet_id + 1) ≤ k
      refine ⟨by omega, ?_⟩
      intro k hk
      have hp := hk p (List.mem_append_right _ (List.mem_singleton.mpr rfl))
      omega

/-- Nothing is skipped any more once the end has been announced. -/
theorem progress_after_end {n : Nat} {sends more : List Send} (hnext : (progress n sends).next = n)
    (hmore : ∀ p, Send.packet p ∈ more → p.packet_id < n) :
    progress n (sends ++ more) = progress n sends := by
  induction more using List.reverseRecOn with
  | nil => rw [List.append_nil]
  | append_singleton more m ih =>
      -- the next id is already past the last packet, and the subtractions are zero
      rw [← List.append_assoc, progress_concat, ih fun p hp => hmore p (List.mem_append_left _ hp)]
      generalize progress n sends = g at hnext
      obtain ⟨next, skipped⟩ := g
      obtain rfl : next = n := hnext
      cases m with
      | packet p =>
          have hp := hmore p (List.mem_append_right _ (List.mem_singleton.mpr rfl))
          show Progress.mk (max next (p.packet_id + 1)) (skipped + (p.packet_id - next)) = _
          rw [max_eq_left (by omega), Nat.sub_eq_zero_of_le (Nat.le_of_lt hp), Nat.add_zero]
      | fwUpEnd =>
          show Progress.mk (max next next) (skipped + (next - next)) = _
          rw [max_self, Nat.sub_self, Nat.add_zero]

/-! ## §2. The controller. -/

section Controller

variable {slot : FlashArea} {image : List UInt8} {sends : List Send} {b : Btl} {f : CanFrame}
  {env : Env}

/-- **A packet that leaves more than 100 ids behind ends the session.** -/
theorem Receiving.packet_too_many {p : FirmwarePacket} (h : Receiving slot image sends b)
    (hdesc : p.Describes image) (hc : Carries f .fwUpMsg p.payload)
    (hmany : MAX_NUMBER_OF_ALLOWABLE_LOST_PACKETs
      < (progress (uiExpectedPacketCount image.length) (sends ++ [.packet p])).skipped) :
    (step b (.frame f, env)).mgmt.eBtlState = .error := by
  have hinit := h.base.initialized h.state
  have hk := step_host env h.running hinit hc (.inr (.inl ⟨rfl, hdesc.length⟩))
  rw [hk.work.mgmt]
  clear hk
  generalize hj : ({ btl := b, msg := hostMsg .fwUpMsg p.payload } : Job) = j
  have hbtl : j.btl = b := by rw [← hj]
  have hdata : j.msg.uiaData = p.payload := by rw [← hj]; rfl
  have hhandler : vUpdateBootloader env j = vUpdateFWImage env j := by
    unfold vUpdateBootloader vExecuteBootloaderFWImgWriteState
    simp only [hbtl, h.state, hinit, Bool.not_true, Bool.false_eq_true, if_false,
      show j.msg.eCMD = .fwUpMsg from by rw [← hj]; rfl]
  have hout := vUpdateFWImage_outcome env j (by rw [hbtl]; exact h.state)
    (by rw [hbtl]; exact h.base.idle h.state) (by rw [hbtl]; exact h.base.room h.state)
    (by rw [hbtl]; exact h.base.first)
  rw [hdata, hdesc.id] at hout
  rw [hhandler]
  generalize vUpdateFWImage env j = r at hout ⊢
  obtain ⟨s, -, hinv, hrecv⟩ := h.session
  have hcount := hinv.tracks.lost_count
  have hskip : MAX_NUMBER_OF_ALLOWABLE_LOST_PACKETs
      < b.img.uiLostPacketCount + (p.packet_id - b.img.uiNextId) := by
    rw [progress_concat] at hmany
    rw [h.next, h.skipped]
    exact hmany
  cases hout with
  | refused e why =>
      -- the packet has its length, and an id ahead of the next one has not arrived
      exfalso
      rcases why with hlen | hr
      · refine hlen ?_
        show j.msg.uiaData.length = _
        rw [hdata]
        exact hdesc.length
      · rw [hbtl] at hr
        have hlt := ((hinv.tracks.mem_iff _).mp (hr.mem hinv.tracks)).1
        omega
  | gaveUp e hw why => rfl
  | stopped hw why htouched =>
      -- a session that has been touched still has its handle
      rw [hbtl] at why htouched
      have hopen := h.opened h.state htouched
      rw [why] at hopen
      cases hopen
  | accepted hlen hadm hopen hin hw hst =>
      -- an id is admitted only while the number of the lost ones stays in its bound
      exfalso
      rw [hbtl] at hadm
      cases hadm with
      | next hid => omega
      | gap hlt hfew =>
          have hfew' : b.img.uiLostPacketCount + (p.packet_id - b.img.uiNextId)
              ≤ MAX_NUMBER_OF_ALLOWABLE_LOST_PACKETs := hfew
          omega
      | pending hlt hfind hp => omega

/-- **An end that leaves more than 100 ids behind ends the session.** -/
theorem Receiving.end_too_many (h : Receiving slot image sends b) (hc : Carries f .fwUpEnd [])
    (hmany : MAX_NUMBER_OF_ALLOWABLE_LOST_PACKETs
      < (progress (uiExpectedPacketCount image.length) (sends ++ [.fwUpEnd])).skipped) :
    (step b (.frame f, env)).mgmt.eBtlState = .error := by
  have hinit := h.base.initialized h.state
  have hk := step_host env h.running hinit hc (.inr (.inr ⟨rfl, rfl⟩))
  rw [hk.work.mgmt, vUpdateBootloader_fwUpEnd h.state hinit]
  clear hk
  have hout := vFinalizeFWImageWrite_outcome env { btl := b, msg := hostMsg .fwUpEnd [] } h.state
  generalize vFinalizeFWImageWrite env { btl := b, msg := hostMsg .fwUpEnd [] } = r at hout ⊢
  obtain ⟨s, -, hinv, hrecv⟩ := h.session
  have hsize : b.mgmt.uiFWImgSize = image.length := hinv.size.trans hrecv.size
  have hcount := hinv.tracks.lost_count
  have hskip : MAX_NUMBER_OF_ALLOWABLE_LOST_PACKETs
      < b.img.uiLostPacketCount + (uiExpectedPacketCount image.length - b.img.uiNextId) := by
    rw [progress_concat] at hmany
    rw [h.next, h.skipped]
    exact hmany
  cases hout with
  | tooLarge hlarge => rfl
  | tooMany hlost => rfl
  | checked hmax hrec hchk =>
      -- the ids after the last packet are recorded before the checks
      exfalso
      change Records b.img (uiExpectedPacketCount b.mgmt.uiFWImgSize) _ at hrec
      rw [hsize] at hrec
      cases hrec with
      | none hle => omega
      | gap hlt hfew => omega

/-- The image does not pass the checks while a packet is missing. -/
theorem Receiving.not_checked {k : Nat} (h : Receiving slot image sends b)
    (hn : uiExpectedPacketCount image.length ≤ UINT16_MAX)
    (hk : k < uiExpectedPacketCount image.length) (hmiss : ¬ Arrived sends k) {img : FWImgCtrl}
    (hrec : Records b.img (uiExpectedPacketCount b.mgmt.uiFWImgSize) img) :
    ¬ Checked { b with img := img } := by
  intro hck
  obtain ⟨s, -, hinv, hrecv⟩ := h.session
  rw [hinv.size, hrecv.size] at hrec
  -- with as many bytes as the image has, every id has been accepted
  have hfull := (hinv.records hrec hn).received_eq_iff.mp (hck.received.trans hinv.size)
  refine hmiss ((hrecv.ids k).mp (hfull k ?_))
  rw [hrecv.size]
  exact lt_uiExpectedPacketCount.mp hk

/-- The end is not accepted while a packet is missing. -/
theorem Receiving.not_caused {k : Nat} (h : Receiving slot image sends b)
    (hn : uiExpectedPacketCount image.length ≤ UINT16_MAX) (hc : Carries f .fwUpEnd [])
    (hk : k < uiExpectedPacketCount image.length) (hmiss : ¬ Arrived sends k) :
    ¬ Caused .fwUpEnd b (step b (.frame f, env)) := by
  intro hcaused
  have hreboot : (step b (.frame f, env)).mgmt.eBtlState = .reboot := by
    unfold Caused ownTransition at hcaused
    simp only [Option.some.injEq, Prod.mk.injEq] at hcaused
    exact hcaused.2.symm
  obtain ⟨-, img, hrec, hck⟩ := checked_of_reboot h.base ⟨h.running, h.state⟩ hc hreboot
  exact h.not_checked hn hk hmiss hrec hck

/-- **An end while a packet is missing** brings a NACK with the error that the
host waits for, and the controller takes requests for the lost packets. -/
theorem Receiving.missing_sent {k : Nat} (h : Receiving slot image sends b) (hsends : sends ≠ [])
    (hn : uiExpectedPacketCount image.length ≤ UINT16_MAX) (hc : Carries f .fwUpEnd [])
    (hk : k < uiExpectedPacketCount image.length) (hmiss : ¬ Arrived sends k)
    (hfew : (progress (uiExpectedPacketCount image.length) (sends ++ [.fwUpEnd])).skipped
      ≤ MAX_NUMBER_OF_ALLOWABLE_LOST_PACKETs) :
    (step b (.frame f, env)).sent
        = (.fwUpEnd, [eCAN_NACK, BOOTLOADER_ERROR_MISSING_PACKETS_PENDING]) :: b.sent ∧
      Ready (step b (.frame f, env)) := by
  have hinit := h.base.initialized h.state
  have hnext : Receiving slot image (sends ++ [.fwUpEnd]) (step b (.frame f, env)) :=
    h.missing hsends hn hc hk hmiss hfew
  have hstep := step_hostFrame env h.running hinit hc (.inl (.inr (.inr ⟨rfl, rfl⟩)))
  have hdispatch : dispatchMessage env { btl := b, msg := hostMessage .fwUpEnd [] }
      = vFinalizeFWImageWrite env { btl := b, msg := hostMessage .fwUpEnd [] } :=
    vUpdateBootloader_fwUpEnd h.state hinit
  unfold vProcessBootloaderMessages at hstep
  rw [hdispatch] at hstep
  have hout := vFinalizeFWImageWrite_outcome env
    { btl := b, msg := hostMessage .fwUpEnd [] } h.state
  generalize vFinalizeFWImageWrite env { btl := b, msg := hostMessage .fwUpEnd [] } = r
    at hout hstep
  generalize step b (.frame f, env) = b' at hstep hnext ⊢
  have hst := hnext.state
  have hrun := hnext.running
  -- the other outcomes leave the session
  cases hout with
  | tooLarge hlarge =>
      rw [hstep] at hst
      cases hst
  | tooMany hlost =>
      rw [hstep] at hst
      cases hst
  | checked hmax hrec hchk =>
      cases hchk with
      | pending hp =>
          rw [hstep]
          exact ⟨rfl, h.running, hinit, h.state, rfl⟩
      | gaveUp e hw hp why =>
          rw [hstep] at hst
          cases hst
      | stopped hw why hp =>
          rw [hstep] at hrun
          cases hrun
      | completed hw hflash hck => exact absurd hck (h.not_checked hn hk hmiss hrec)

/-- The query of the lost packets leaves the session as it is. -/
theorem step_query_kept (hinv : RunningInv slot b) (hrun : b.halted = none)
    (hinit : b.mgmt.bIsInitialized = true) (hst : b.mgmt.eBtlState = .fwImgWriteInProg)
    (hc : Carries f .getLostPacketInfo []) : Kept b (step b (.frame f, env)) := by
  rw [step_unanswered env hinv hrun hinit hc (.inr (.inl ⟨rfl, rfl⟩)) (.inr (.inl rfl))]
  show Kept b (handlerResult (vUpdateBootloader env _))
  unfold vUpdateBootloader vExecuteBootloaderFWImgWriteState
  simp only [hst, hinit, Bool.not_true, Bool.false_eq_true, if_false]
  exact vGetLostPacketInfo_kept env { btl := b, msg := hostMessage .getLostPacketInfo [] }

/-- So does the ACK of a page. -/
theorem step_acknowledge_kept {uiFrameSeq : UInt8} (hinv : RunningInv slot b)
    (hrun : b.halted = none) (hinit : b.mgmt.bIsInitialized = true)
    (hc : Carries f .retLostPacketInfo [BOOTLOADER_ACK, uiFrameSeq]) :
    Kept b (step b (.frame f, env)) := by
  rw [step_unanswered env hinv hrun hinit hc (.inr (.inr ⟨rfl, rfl⟩)) (.inr (.inr rfl))]
  show Kept b (vHandleLostPacketInfoTxResponse env BOOTLOADER_ACK uiFrameSeq b)
  unfold vHandleLostPacketInfoTxResponse
  -- the four guards of the source return at once; an ACK touches the transmitter alone
  split
  · exact .refl b
  split
  · exact .refl b
  split
  · exact .refl b
  split
  · exact .refl b
  split
  · exact .of_tx_timers b _ _
  · next hack => exact absurd rfl hack

end Controller

/-! ## §3. The exchange in the session. -/

/-- The packets of a round that arrive. -/
def arrivals (U : UpdateLink) (round : Nat) (packets : List FirmwarePacket) : List Send :=
  (packets.filter fun p => !U.lost round p.packet_id).map .packet

theorem arrived_arrivals {U : UpdateLink} {round : Nat} {packets : List FirmwarePacket} {i : Nat} :
    Arrived (arrivals U round packets) i
      ↔ i ∈ packets.map (·.packet_id) ∧ U.lost round i = false := by
  unfold Arrived arrivals
  constructor
  · rintro ⟨p, hp, rfl⟩
    obtain ⟨q, hq, heq⟩ := List.mem_map.mp hp
    cases heq
    obtain ⟨hmem, hlost⟩ := List.mem_filter.mp hq
    exact ⟨List.mem_map_of_mem hmem, by simpa using hlost⟩
  · rintro ⟨hi, hlost⟩
    obtain ⟨p, hp, rfl⟩ := List.mem_map.mp hi
    exact ⟨p, List.mem_map_of_mem (List.mem_filter.mpr ⟨hp, by simpa using hlost⟩), rfl⟩

/-- The controller is in the session, with the packets among the frames. -/
structure InSession (slot : FlashArea) (image : List UInt8) (sends : List Send) (x : Exchange) :
    Prop extends Connected slot x where
  receiving : Receiving slot image sends x.b
  below : ∀ i, Arrived sends i → i < uiExpectedPacketCount image.length
  fresh : sends = [] → x.b.img = FWImgCtrl.cleared
  pages : ∀ f ∈ x.frames, ¬ f.1 = BootloaderCommand.retLostPacketInfo.toByte

/-- The image is in the flash, and the controller waits for its reboot. -/
structure Installed (image : List UInt8) (b : Btl) : Prop where
  halted : b.halted = none
  reboot : b.mgmt.eBtlState = .reboot
  flash : b.flash.read FW_IMAGE_SECONDARY_SLOT_WRITE_OFFSET image.length = image

section Exchange

variable {slot : FlashArea} {image : List UInt8} {sends : List Send} {x : Exchange}
  (haligned : FW_IMG_WRITE_BYTE_LENGTH ∣ slot.fa_size)
  (hn : uiExpectedPacketCount image.length ≤ UINT16_MAX)
  {U : UpdateLink} (henv : ∀ k, (U.env k).Succeeds)

/-! ### The packets. -/

include haligned hn henv in
/-- **A packet that arrives** keeps the session, or ends it for good. -/
theorem InSession.sendPacket (h : InSession slot image sends x) {p : FirmwarePacket}
    (hdesc : p.Describes image) (hid : p.packet_id < uiExpectedPacketCount image.length)
    {round : Nat} (harrives : U.lost round p.packet_id = false) :
    InSession slot image (sends ++ [.packet p]) (x.sendPacket U round p) ∨
      (MAX_NUMBER_OF_ALLOWABLE_LOST_PACKETs
          < (progress (uiExpectedPacketCount image.length) (sends ++ [.packet p])).skipped ∧
        GivenUp slot (x.sendPacket U round p)) := by
  have hconnected := h.toConnected.sendPacket U round hdesc.length
  have hframes := h.toConnected.sendPacket_frames U round hdesc.length
  have hc := U.toController.carries .fwUpMsg p.payload (by rw [hdesc.length]; decide)
  have hb : (x.sendPacket U round p).b
      = step x.b (.frame (U.toController.frame .fwUpMsg p.payload), U.env x.messages) := by
    unfold Exchange.sendPacket
    rw [harrives, if_neg Bool.false_ne_true]
    rfl
  by_cases hfew : (progress (uiExpectedPacketCount image.length) (sends ++ [.packet p])).skipped
      ≤ MAX_NUMBER_OF_ALLOWABLE_LOST_PACKETs
  · left
    exact {
      toConnected := hconnected
      receiving := by
        rw [hb]
        exact h.receiving.packet haligned hdesc hid hn hc (henv _) hfew
      below := by
        intro i hi
        rcases arrived_append.mp hi with hi | ⟨q, hq, rfl⟩
        · exact h.below i hi
        · cases List.mem_singleton.mp hq
          exact hid
      fresh := fun hnil => absurd hnil (by simp)
      pages := by rw [hframes]; exact h.pages }
  · right
    refine ⟨Nat.not_le.mp hfew, hconnected, .inr (.inl ?_)⟩
    rw [hb]
    exact h.receiving.packet_too_many hdesc hc (Nat.not_le.mp hfew)

include haligned hn henv in
/-- **The packets of a round.** -/
theorem InSession.sendPackets (h : InSession slot image sends x) {packets : List FirmwarePacket}
    (hpackets : ∀ p ∈ packets,
      p.Describes image ∧ p.packet_id < uiExpectedPacketCount image.length) (round : Nat) :
    InSession slot image (sends ++ arrivals U round packets) (x.sendPackets U round packets) ∨
      (MAX_NUMBER_OF_ALLOWABLE_LOST_PACKETs
          < (progress (uiExpectedPacketCount image.length)
              (sends ++ arrivals U round packets)).skipped ∧
        GivenUp slot (x.sendPackets U round packets)) := by
  induction packets generalizing sends x with
  | nil =>
      left
      show InSession slot image (sends ++ []) x
      rw [List.append_nil]
      exact h
  | cons p rest ih =>
      obtain ⟨hdesc, hid⟩ := hpackets p List.mem_cons_self
      have hrest : ∀ q ∈ rest, q.Describes image ∧
          q.packet_id < uiExpectedPacketCount image.length := fun q hq =>
        hpackets q (List.mem_cons_of_mem _ hq)
      show InSession slot image _ ((x.sendPacket U round p).sendPackets U round rest) ∨
        _ ∧ GivenUp slot ((x.sendPacket U round p).sendPackets U round rest)
      cases hlost : U.lost round p.packet_id with
      | true =>
          -- a lost packet takes its turn on the line, and nothing else
          have hlater : arrivals U round (p :: rest) = arrivals U round rest := by
            unfold arrivals
            rw [List.filter_cons_of_neg (by simp [hlost])]
          rw [hlater]
          refine ih ?_ hrest
          unfold Exchange.sendPacket
          rw [hlost, if_pos rfl]
          exact { h with toConnected := ⟨h.reach, h.init, h.frames⟩ }
      | false =>
          have hnow : sends ++ arrivals U round (p :: rest)
              = (sends ++ [.packet p]) ++ arrivals U round rest := by
            unfold arrivals
            rw [List.filter_cons_of_pos (by simp [hlost]), List.map_cons, List.append_assoc]
            rfl
          rw [hnow]
          rcases h.sendPacket haligned hn henv hdesc hid hlost with hkeeps | ⟨hmany, hends⟩
          · exact ih hkeeps hrest
          · right
            -- the number of the skipped ids never falls again
            exact ⟨Nat.lt_of_lt_of_le hmany (skipped_le_append _ _ _),
              hends.sendPackets U round fun q hq => (hrest q hq).1.length⟩

/-! ### The end. -/

theorem InSession.not_reboot (h : InSession slot image sends x) :
    x.b.mgmt.eBtlState ≠ .reboot := by
  rw [h.receiving.state]
  decide

/-- An ACK of the end. -/
theorem completeUpdateWithRecovery_acked {packets : List FirmwarePacket}
    {recovery_round left : Nat} {rest : List UInt8} {x' : Exchange}
    (hwait : (x.sendBootloaderFrame U.toLink .fwUpEnd []).waitForSlaveFrame .fwUpEnd
      = some (eCAN_ACK :: rest, x')) (hrest : 1 ≤ rest.length) :
    completeUpdateWithRecovery U packets recovery_round left x = (.completed, x') := by
  have hlen : (eCAN_ACK :: rest).length ≥ 2 := by
    rw [List.length_cons]
    omega
  unfold completeUpdateWithRecovery
  rw [hwait]
  dsimp only
  rw [if_pos ⟨hlen, show (eCAN_ACK :: rest).getD 0 0 = BOOTLOADER_ACK from rfl⟩]

/-- A NACK because packets are missing. -/
theorem completeUpdateWithRecovery_missing {packets : List FirmwarePacket}
    {recovery_round left : Nat} {rest : List UInt8} {x' : Exchange}
    (hwait : (x.sendBootloaderFrame U.toLink .fwUpEnd []).waitForSlaveFrame .fwUpEnd
      = some (eCAN_NACK :: BOOTLOADER_ERROR_MISSING_PACKETS_PENDING :: rest, x')) :
    completeUpdateWithRecovery U packets recovery_round left x
      = match left with
        | 0 => (.recoveryLimit, x')
        | left + 1 =>
            let r := requestMissingIdsWith U.toLink MAX_LOST_PACKET_INFO_PAGES x' [] 1
            if r.1 = [] then (.noIds, r.2)
            else completeUpdateWithRecovery U packets (recovery_round + 1) left
              (sendPacketsWithClient U recovery_round packets r.1 r.2) := by
  have hlen : (eCAN_NACK :: BOOTLOADER_ERROR_MISSING_PACKETS_PENDING :: rest).length ≥ 2 := by
    rw [List.length_cons, List.length_cons]
    omega
  rw [completeUpdateWithRecovery, hwait]
  dsimp only
  refine (if_neg fun hack =>
    absurd hack.2 (show ¬ eCAN_NACK = BOOTLOADER_ACK by decide)).trans ?_
  refine (if_neg (not_not.mpr ⟨hlen, rfl, rfl⟩)).trans ?_
  cases left <;> rfl

/-- The tool reports a complete update exactly when `P`, and the image is
installed then. -/
structure CompletesIff (image : List UInt8) (P : Prop) (r : UpdateEnd × Exchange) : Prop where
  completed : r.1 = .completed ↔ P
  installed : r.1 = .completed → Installed image r.2.b

include hn henv in
/-- **The end of a complete image** is accepted. -/
theorem InSession.accepted (h : InSession slot image sends x)
    (hall : ∀ k < uiExpectedPacketCount image.length, Arrived sends k)
    (packets : List FirmwarePacket) (recovery_round left : Nat) :
    CompletesIff image True (completeUpdateWithRecovery U packets recovery_round left x) := by
  have hc := U.toController.carries .fwUpEnd [] (by decide)
  obtain ⟨hhalted, hreboot, hflash⟩ := h.receiving.finish hn hc (henv x.messages)
    (fun p hp => h.below _ ⟨p, hp, rfl⟩) hall
  obtain ⟨bIsMsgOk, rest, hwait, hrest, hcaused⟩ := Exchange.answered (L := U.toLink) h.reach
    h.receiving.running h.init (show UpdateCommand .fwUpEnd [] from .inr (.inr ⟨rfl, rfl⟩)) nofun
    (by decide) h.not_reboot h.frames
  -- the ACK is that of the transition to the reboot
  have hack : bIsMsgOk = true := by
    rw [hcaused]
    unfold Caused ownTransition
    rw [h.receiving.state]
    exact congrArg (fun s => some (BootloaderState.fwImgWriteInProg, s)) hreboot.symm
  rw [hack, if_pos rfl] at hwait
  rw [completeUpdateWithRecovery_acked hwait hrest]
  exact ⟨iff_of_true rfl trivial, fun _ => ⟨hhalted, hreboot, hflash⟩⟩

include hn in
/-- **The end while packets are missing** brings the NACK that starts a round. -/
theorem InSession.missing (h : InSession slot image sends x) (hsends : sends ≠ [])
    {missing : List Nat} (hpending : missing ≠ [])
    (hmissing : ∀ i, i ∈ missing ↔ i < uiExpectedPacketCount image.length ∧ ¬ Arrived sends i)
    (hfew : (progress (uiExpectedPacketCount image.length) (sends ++ [.fwUpEnd])).skipped
      ≤ MAX_NUMBER_OF_ALLOWABLE_LOST_PACKETs) :
    ∃ rest x', (x.sendBootloaderFrame U.toLink .fwUpEnd []).waitForSlaveFrame .fwUpEnd
        = some (eCAN_NACK :: BOOTLOADER_ERROR_MISSING_PACKETS_PENDING :: rest, x') ∧
      InSession slot image (sends ++ [.fwUpEnd]) x' ∧ Ready x'.b := by
  obtain ⟨k, hmem⟩ := List.exists_mem_of_ne_nil missing hpending
  obtain ⟨hk, hmiss⟩ := (hmissing k).mp hmem
  have hc := U.toController.carries .fwUpEnd [] (by decide)
  have hanswer : (step x.b (.frame (U.toController.frame .fwUpEnd []), U.env x.messages)).sent
        = (.fwUpEnd, [eCAN_NACK, BOOTLOADER_ERROR_MISSING_PACKETS_PENDING]) :: x.b.sent ∧
      Ready (step x.b (.frame (U.toController.frame .fwUpEnd []), U.env x.messages)) :=
    h.receiving.missing_sent hsends hn hc hk hmiss hfew
  obtain ⟨hsent, hready⟩ := hanswer
  obtain ⟨padding, hframes⟩ := Exchange.send_one (by show 2 < 64; omega) hsent
  refine ⟨padding, _, Exchange.waitForSlaveFrame_last hframes h.frames, ?_, hready⟩
  exact {
    reach := h.reach.step trivial rfl
    init := hready.initialized
    frames := h.frames
    receiving := h.receiving.missing hsends hn hc hk hmiss hfew
    below := by
      intro i hi
      rcases arrived_append.mp hi with hi | hi
      · exact h.below i hi
      · exact absurd hi not_arrived_fwUpEnd
    fresh := fun hnil => absurd hnil (by simp)
    pages := h.pages }

include hn in
/-- **The end of an image that cannot be completed** is refused: no packet has
arrived, or too many are missing. -/
theorem InSession.refused {k : Nat} (h : InSession slot image sends x)
    (hk : k < uiExpectedPacketCount image.length) (hmiss : ¬ Arrived sends k)
    (hwhy : sends = [] ∨ MAX_NUMBER_OF_ALLOWABLE_LOST_PACKETs
      < (progress (uiExpectedPacketCount image.length) (sends ++ [.fwUpEnd])).skipped) :
    EndRefused slot U.toLink x := by
  have hc := U.toController.carries .fwUpEnd [] (by decide)
  have hnot : ¬ Caused .fwUpEnd x.b
      (step x.b (.frame (U.toController.frame .fwUpEnd []), U.env x.messages)) :=
    h.receiving.not_caused hn hc hk hmiss
  refine .of_doomed h.reach h.receiving.running h.init h.not_reboot h.frames hnot ?_
  show Doomed slot (step x.b (.frame (U.toController.frame .fwUpEnd []), U.env x.messages))
  rcases hwhy with hnil | hmany
  swap
  · exact .inr (.inl (h.receiving.end_too_many hc hmany))
  by_cases hrun : (step x.b (.frame (U.toController.frame .fwUpEnd []),
      U.env x.messages)).halted = none
  swap
  · exact .inl hrun
  have hw : Writing x.b := ⟨h.receiving.running, h.receiving.state⟩
  rcases step_hostFrame_state (U.env x.messages) (runningInv_of_reachable h.reach hw.1) hw.1 h.init
    hc (.inl (.inr (.inr ⟨rfl, rfl⟩))) with hsame | herr | hcaused
  · -- the session goes on without its handle
    have hw' : Writing (step x.b (.frame (U.toController.frame .fwUpEnd []), U.env x.messages)) :=
      ⟨hrun, hsame.trans hw.2⟩
    have hmgmt := step_mgmt_eq h.receiving.base hw _ hw'
    obtain ⟨s, -, hinv, hrecv⟩ := h.receiving.session
    refine .inr (.inr ⟨hw', h.receiving.base.step hw.1 _ hrun, .inl ⟨?_, ?_⟩⟩)
    · exact unopened_of_end h.receiving.base hw (h.fresh hnil) hc hw'
    · rw [hmgmt, hinv.size, hrecv.size]
      unfold uiExpectedPacketCount DATA_PAYLOAD_PER_ONE_IMAGE_FRAME UINT16_MAX at hn
      omega
  · exact .inr (.inl herr)
  · exact absurd hcaused hnot

/-! ### The pages. -/

/-- No page is left behind. -/
theorem requestMissingIdsWith_quiet (L : Link) {img : FWImgCtrl}
    (hlen : img.pendingIds.length < 256) (hids : ∀ id ∈ img.pendingIds, id < 65536) (pages : Nat)
    (y : Exchange) (missing_ids : List Nat) (remaining_count : Int) (hy : NoneWaiting img y) :
    NoneWaiting img (requestMissingIdsWith L pages y missing_ids remaining_count).2 := by
  induction pages generalizing y missing_ids remaining_count with
  | zero =>
      unfold requestMissingIdsWith
      split
      · exact hy
      · exact hy
  | succ pages ih =>
      unfold requestMissingIdsWith
      split
      swap
      · exact hy
      obtain ⟨payload, y₁, frame_seq, hwait, hparse, hquiet⟩ := requestPage L hy hlen hids
      rw [hwait]
      dsimp only
      rw [hparse]
      dsimp only
      split
      · exact hquiet
      · exact ih _ _ _ hquiet

/-- The ids of the pages are the first of the pending ones. -/
theorem requestMissingIdsWith_ids (L : Link) {img : FWImgCtrl} {y : Exchange}
    (hy : NoneWaiting img y) (hsorted : img.pendingIds.Pairwise (· < ·))
    (hlen : img.pendingIds.length < 256) (hids : ∀ id ∈ img.pendingIds, id < 65536) :
    (requestMissingIdsWith L MAX_LOST_PACKET_INFO_PAGES y [] 1).1
      = img.pendingIds.take LOST_PACKET_IDS_PER_PAGE := by
  have hnodup : img.pendingIds.Nodup := hsorted.imp Nat.ne_of_lt
  rw [requestMissingIdsWith_fst]
  show (requestMissingIds L y).1 = _
  -- beyond one page, the controller sends the first page again each time
  by_cases hfits : img.pendingIds.length ≤ LOST_PACKET_IDS_PER_PAGE
  · obtain ⟨e, -, hall⟩ := requestMissingIds_fits L hy hnodup hids hfits
    rw [hall, List.take_of_length_le hfits]
  · rw [requestMissingIds_exceeds L hy hnodup hlen hids (Nat.not_le.mp hfits)]
    rfl

/-- **The pages** bring the first missing ids, and leave the session as it is. -/
theorem InSession.requestMissingIds (h : InSession slot image sends x) (hready : Ready x.b)
    (hnext : (progress (uiExpectedPacketCount image.length) sends).next
      = uiExpectedPacketCount image.length) {missing : List Nat}
    (hsorted : missing.Pairwise (· < ·))
    (hmissing : ∀ i, i ∈ missing ↔ i < uiExpectedPacketCount image.length ∧ ¬ Arrived sends i)
    (L : Link) :
    (requestMissingIdsWith L MAX_LOST_PACKET_INFO_PAGES x [] 1).1
        = missing.take LOST_PACKET_IDS_PER_PAGE ∧
      InSession slot image sends (requestMissingIdsWith L MAX_LOST_PACKET_INFO_PAGES x [] 1).2 := by
  -- the controller reports its pending ids, and these are the missing ones
  have hpending := h.receiving.pendingIds_eq hnext hsorted hmissing
  obtain ⟨s, -, hinv, hrecv⟩ := h.receiving.session
  have hlen : x.b.img.pendingIds.length < 256 := by
    have hle : x.b.img.pendingIds.length ≤ MAX_NUMBER_OF_ALLOWABLE_LOST_PACKETs := by
      rw [pendingIds_length]
      exact Nat.le_trans List.countP_le_length hinv.tracks.lost_count
    unfold MAX_NUMBER_OF_ALLOWABLE_LOST_PACKETs at hle
    omega
  have hids : ∀ id ∈ x.b.img.pendingIds, id < 65536 := by
    intro id hid
    have hlt := (hinv.tracks.mem_pendingIds.mp hid).1
    have hmax := hinv.next_le
    unfold UINT16_MAX at hmax
    omega
  have hx : NoneWaiting x.b.img x := ⟨hready, rfl, h.pages⟩
  have hquiet := requestMissingIdsWith_quiet L hlen hids MAX_LOST_PACKET_INFO_PAGES x [] 1 hx
  -- no frame of the exchange touches the session
  have hkept : Connected slot (requestMissingIdsWith L MAX_LOST_PACKET_INFO_PAGES x [] 1).2 ∧
      Kept x.b (requestMissingIdsWith L MAX_LOST_PACKET_INFO_PAGES x [] 1).2.b := by
    refine requestMissingIdsWith_invariant (I := fun y => Connected slot y ∧ Kept x.b y.b)
      ?_ ?_ ?_ _ x [] 1 ⟨h.toConnected, .refl x.b⟩
    · rintro y ⟨hy, hk⟩
      have hrun : y.b.halted = none := hk.work.halted.trans h.receiving.running
      refine ⟨hy.query L, hk.trans ?_⟩
      exact step_query_kept (runningInv_of_reachable hy.reach hrun) hrun hy.init
        (by rw [hk.work.mgmt]; exact h.receiving.state) (L.toController.carries _ _ (by decide))
    · rintro y payload y' ⟨hy, hk⟩ hw
      obtain ⟨hconnected, hb⟩ := hy.wait hw
      exact ⟨hconnected, by rw [hb]; exact hk⟩
    · rintro y frame_seq ⟨hy, hk⟩
      refine ⟨hy.acknowledge L frame_seq, ?_⟩
      cases frame_seq with
      | none => exact hk
      | some frame_seq =>
          have hrun : y.b.halted = none := hk.work.halted.trans h.receiving.running
          exact hk.trans (step_acknowledge_kept (runningInv_of_reachable hy.reach hrun) hrun hy.init
            (L.toController.carries _ _ (by show 2 < 64; omega)))
  constructor
  · rw [requestMissingIdsWith_ids L hx (by rw [hpending]; exact hsorted) hlen hids, hpending]
  · exact {
      toConnected := hkept.1
      receiving := h.receiving.kept hkept.2
      below := h.below
      fresh := fun hnil => hkept.2.img.trans (h.fresh hnil)
      pages := hquiet.frames }

/-! ## §4. The rounds. -/

/-- The packets of some ids. -/
theorem packets_of_ids {packets : List FirmwarePacket} (hpackets : buildFwPackets image = some packets)
    {ids : List Nat} (hids : ∀ i ∈ ids, i < uiExpectedPacketCount image.length) :
    (ids.filterMap fun i => packets[i]?).map (·.packet_id) = ids := by
  obtain ⟨hrange, -⟩ := buildFwPackets_spec hpackets
  induction ids with
  | nil => rfl
  | cons i rest ih =>
      have hi : packets[i]?.map (·.packet_id) = some i := by
        rw [← List.getElem?_map, hrange, List.getElem?_range (hids i List.mem_cons_self)]
      obtain ⟨p, hp, hpi⟩ := Option.map_eq_some_iff.mp hi
      rw [List.filterMap_cons_some hp, List.map_cons, hpi,
        ih fun j hj => hids j (List.mem_cons_of_mem _ hj)]

include hn henv in
/-- Nothing is pending. -/
theorem InSession.recovered_nil (h : InSession slot image sends x)
    (hmissing : ∀ i, i ∈ ([] : List Nat)
      ↔ i < uiExpectedPacketCount image.length ∧ ¬ Arrived sends i)
    (packets : List FirmwarePacket) (recovery_round left : Nat) :
    CompletesIff image (pendingAfter LOST_PACKET_IDS_PER_PAGE U.lost recovery_round left [] = [])
      (completeUpdateWithRecovery U packets recovery_round left x) := by
  have hall : ∀ k < uiExpectedPacketCount image.length, Arrived sends k := by
    intro k hk
    by_contra hno
    exact absurd ((hmissing k).mpr ⟨hk, hno⟩) List.not_mem_nil
  obtain ⟨hiff, hinstalled⟩ := h.accepted hn henv hall packets recovery_round left
  refine ⟨hiff.trans (iff_of_true trivial ?_), hinstalled⟩
  exact pendingAfter_nil _ _ _ _

include haligned hn henv in
/-- **One round**: the first missing ids are asked for and their packets sent
again, and what is missing then is what the round has not brought. -/
theorem InSession.round {packets : List FirmwarePacket}
    (hpackets : buildFwPackets image = some packets) (h : InSession slot image sends x)
    (hready : Ready x.b)
    (hnext : (progress (uiExpectedPacketCount image.length) sends).next
      = uiExpectedPacketCount image.length)
    (hfew : (progress (uiExpectedPacketCount image.length) sends).skipped
      ≤ MAX_NUMBER_OF_ALLOWABLE_LOST_PACKETs) {missing : List Nat}
    (hsorted : missing.Pairwise (· < ·))
    (hmissing : ∀ i, i ∈ missing ↔ i < uiExpectedPacketCount image.length ∧ ¬ Arrived sends i)
    (recovery_round : Nat) :
    let r := requestMissingIdsWith U.toLink MAX_LOST_PACKET_INFO_PAGES x [] 1
    r.1 = missing.take LOST_PACKET_IDS_PER_PAGE ∧
      ∃ more, InSession slot image (sends ++ more)
          (sendPacketsWithClient U recovery_round packets r.1 r.2) ∧
        (progress (uiExpectedPacketCount image.length) (sends ++ more ++ [.fwUpEnd])).skipped
          ≤ MAX_NUMBER_OF_ALLOWABLE_LOST_PACKETs ∧
        ∀ i, i ∈ resendRound LOST_PACKET_IDS_PER_PAGE (U.lost recovery_round) missing
          ↔ i < uiExpectedPacketCount image.length ∧ ¬ Arrived (sends ++ more) i := by
  obtain ⟨hids, hpaged⟩ := h.requestMissingIds hready hnext hsorted hmissing U.toLink
  dsimp only
  rw [hids, sendPacketsWithClient_eq]
  have hresent : ((missing.take LOST_PACKET_IDS_PER_PAGE).filterMap
      fun i => packets[i]?).map (·.packet_id) = missing.take LOST_PACKET_IDS_PER_PAGE :=
    packets_of_ids hpackets fun i hi => ((hmissing i).mp (List.mem_of_mem_take hi)).1
  have hall : ∀ p ∈ (missing.take LOST_PACKET_IDS_PER_PAGE).filterMap fun i => packets[i]?,
      p.Describes image ∧ p.packet_id < uiExpectedPacketCount image.length := by
    intro p hp
    obtain ⟨i, -, hi⟩ := List.mem_filterMap.mp hp
    have hmem := List.mem_of_getElem? hi
    exact ⟨(buildFwPackets_spec hpackets).2 p hmem, (packets_ids hpackets).2.1 p hmem⟩
  generalize (missing.take LOST_PACKET_IDS_PER_PAGE).filterMap (fun i => packets[i]?) = resent
    at hresent hall ⊢
  have harrived : ∀ p, Send.packet p ∈ arrivals U recovery_round resent →
      p.packet_id < uiExpectedPacketCount image.length := by
    intro p hp
    obtain ⟨q, hq, heq⟩ := List.mem_map.mp hp
    cases heq
    exact (hall p (List.mem_filter.mp hq).1).2
  -- no id is skipped in a round
  have hwithin := progress_after_end hnext harrived
  rcases hpaged.sendPackets haligned hn henv hall recovery_round with hround | ⟨hmany, -⟩
  swap
  · rw [hwithin] at hmany
    exact absurd hfew (Nat.not_le.mpr hmany)
  refine ⟨rfl, _, hround, ?_, ?_⟩
  · have hend : ∀ p, Send.packet p ∈ [Send.fwUpEnd] →
        p.packet_id < uiExpectedPacketCount image.length := by
      intro p hp
      cases List.mem_singleton.mp hp
    rw [progress_after_end (by rw [hwithin]; exact hnext) hend, hwithin]
    exact hfew
  · intro i
    rw [mem_resendRound (hsorted.imp Nat.ne_of_lt), hmissing, arrived_append, arrived_arrivals,
      hresent]
    simp only [not_or, not_and, Bool.not_eq_false, and_assoc]

include haligned hn henv in
/-- **The rounds of an update**: it completes if and only if they leave nothing
pending. -/
theorem InSession.recovered {packets : List FirmwarePacket}
    (hpackets : buildFwPackets image = some packets) (h : InSession slot image sends x)
    (hsends : sends ≠ [])
    (hfew : (progress (uiExpectedPacketCount image.length) (sends ++ [.fwUpEnd])).skipped
      ≤ MAX_NUMBER_OF_ALLOWABLE_LOST_PACKETs) {missing : List Nat}
    (hsorted : missing.Pairwise (· < ·))
    (hmissing : ∀ i, i ∈ missing ↔ i < uiExpectedPacketCount image.length ∧ ¬ Arrived sends i)
    (recovery_round left : Nat) :
    CompletesIff image
      (pendingAfter LOST_PACKET_IDS_PER_PAGE U.lost recovery_round left missing = [])
      (completeUpdateWithRecovery U packets recovery_round left x) := by
  -- on the rounds left, over what has been sent and what is missing of it
  induction left generalizing sends x missing recovery_round with
  | zero =>
      by_cases hnil : missing = []
      · rw [hnil] at hmissing ⊢
        exact h.recovered_nil hn henv hmissing packets recovery_round 0
      -- the end is refused, and no round is left
      obtain ⟨rest, x', hwait, -, -⟩ := h.missing hn hsends hnil hmissing hfew
      rw [completeUpdateWithRecovery_missing hwait]
      exact ⟨iff_of_false nofun hnil, nofun⟩
  | succ left ih =>
      by_cases hnil : missing = []
      · rw [hnil] at hmissing ⊢
        exact h.recovered_nil hn henv hmissing packets recovery_round (left + 1)
      obtain ⟨rest, x', hwait, hsession, hready⟩ := h.missing hn hsends hnil hmissing hfew
      -- the end has recorded every id
      have hnext : (progress (uiExpectedPacketCount image.length) (sends ++ [.fwUpEnd])).next
          = uiExpectedPacketCount image.length := by
        rw [progress_concat]
        exact max_eq_right (progress_next_le fun p hp => h.below _ ⟨p, hp, rfl⟩)
      have hmissing' : ∀ i, i ∈ missing ↔ i < uiExpectedPacketCount image.length ∧
          ¬ Arrived (sends ++ [.fwUpEnd]) i := by
        intro i
        rw [hmissing, arrived_append]
        simp
      obtain ⟨hids, more, hround, hfew', hleft⟩ := hsession.round haligned hn henv hpackets hready
        hnext hfew hsorted hmissing' recovery_round
      have hpage : missing.take LOST_PACKET_IDS_PER_PAGE ≠ [] := by
        obtain ⟨j, rest', rfl⟩ := List.exists_cons_of_ne_nil hnil
        exact List.cons_ne_nil _ _
      rw [completeUpdateWithRecovery_missing hwait]
      dsimp only
      rw [if_neg (by rw [hids]; exact hpage)]
      exact ih hround (by simp) hfew' (hsorted.sublist (resendRound_sublist _ _ _)) hleft _

end Exchange

/-! ## §5. The update. -/

/-- A packet whose id fits in its two bytes is built. -/
theorem buildFwPacket_total (image : List UInt8) {packet_id : Nat} (h : packet_id ≤ 0xFFFF) :
    ∃ p, buildFwPacket image packet_id = some p := by
  unfold buildFwPacket structPackH
  dsimp only
  rw [if_pos h]
  simp only [Option.bind_some]
  have hle : (imageChunk image packet_id).length ≤ FW_UP_MSG_DATA_LEN := List.length_take_le _ _
  refine ⟨_, if_neg (not_not.mpr ?_)⟩
  split
  · simp only [List.cons_append, List.nil_append, List.length_cons, List.length_append,
      List.length_replicate]
    unfold FW_UP_MSG_PAYLOAD_LEN FW_UP_MSG_DATA_LEN at *
    omega
  · simp only [List.cons_append, List.nil_append, List.length_cons]
    unfold FW_UP_MSG_PAYLOAD_LEN FW_UP_MSG_DATA_LEN at *
    omega

/-- An image that is not too large has packets and a request. -/
theorem build_total {image : List UInt8} (hpos : 0 < image.length)
    (hn : uiExpectedPacketCount image.length ≤ UINT16_MAX) :
    (∃ packets, buildFwPackets image = some packets) ∧
      ∃ request, buildFwUpdateRequest image = some request := by
  have hcount := hn
  unfold uiExpectedPacketCount DATA_PAYLOAD_PER_ONE_IMAGE_FRAME UINT16_MAX at hcount
  constructor
  · have hloop : ∀ ids : List Nat, (∀ i ∈ ids, i ≤ 0xFFFF) →
        ∃ packets, buildFwPacketsLoop image ids = some packets := by
      intro ids hids
      induction ids with
      | nil => exact ⟨[], rfl⟩
      | cons i rest ih =>
          obtain ⟨packets, hpackets⟩ := ih fun j hj => hids j (List.mem_cons_of_mem _ hj)
          obtain ⟨p, hp⟩ := buildFwPacket_total image (hids i List.mem_cons_self)
          refine ⟨p :: packets, ?_⟩
          unfold buildFwPacketsLoop
          rw [hp, hpackets]
          rfl
    apply hloop
    intro i hi
    have hlt := List.mem_range.mp hi
    unfold FW_UP_MSG_DATA_LEN at hlt
    omega
  · unfold buildFwUpdateRequest
    dsimp only
    rw [if_neg (by omega), if_neg (by unfold MAX_FW_SIZE_24BIT; omega)]
    exact ⟨_, rfl⟩

/-- The ids that do not arrive in the first pass. -/
def missedIds (U : UpdateLink) (omit_ids : List Nat) (n : Nat) : List Nat :=
  (List.range n).filter fun packet_id => packet_id ∈ omit_ids ∨ U.lost 0 packet_id

theorem mem_missedIds {U : UpdateLink} {omit_ids : List Nat} {n i : Nat} :
    i ∈ missedIds U omit_ids n ↔ i < n ∧ (i ∈ omit_ids ∨ U.lost 0 i = true) := by
  unfold missedIds
  rw [List.mem_filter, List.mem_range, decide_eq_true_eq]

section FirstPass

variable {image : List UInt8} {packets : List FirmwarePacket} (U : UpdateLink)
  (omit_ids : List Nat)

/-- The packets that arrive in the first pass. -/
def firstArrivals (packets : List FirmwarePacket) : List Send :=
  arrivals U 0 (packets.filter fun packet => packet.packet_id ∉ omit_ids)

theorem arrived_firstArrivals (hpackets : buildFwPackets image = some packets) {i : Nat} :
    i ∈ missedIds U omit_ids (uiExpectedPacketCount image.length)
      ↔ i < uiExpectedPacketCount image.length ∧ ¬ Arrived (firstArrivals U omit_ids packets) i := by
  obtain ⟨-, hbelow, hall, -⟩ := packets_ids hpackets
  unfold firstArrivals
  rw [mem_missedIds, arrived_arrivals, List.mem_map]
  refine and_congr_right fun hi => ?_
  obtain ⟨p, hp, hpi⟩ := hall i hi
  have hsent : (∃ q ∈ packets.filter fun packet => packet.packet_id ∉ omit_ids, q.packet_id = i)
      ↔ i ∉ omit_ids := by
    constructor
    · rintro ⟨q, hq, rfl⟩
      simpa using (List.mem_filter.mp hq).2
    · intro hnot
      refine ⟨p, List.mem_filter.mpr ⟨hp, ?_⟩, hpi⟩
      rw [hpi]
      simpa using hnot
  rw [hsent]
  by_cases hi : i ∈ omit_ids <;> simp [hi]

/-- What the end finds to have been skipped is what has not arrived. -/
theorem firstArrivals_count (hpackets : buildFwPackets image = some packets) :
    (progress (uiExpectedPacketCount image.length)
        (firstArrivals U omit_ids packets ++ [.fwUpEnd])).skipped
      = (missedIds U omit_ids (uiExpectedPacketCount image.length)).length ∧
    (firstArrivals U omit_ids packets).length
        + (missedIds U omit_ids (uiExpectedPacketCount image.length)).length
      = uiExpectedPacketCount image.length := by
  obtain ⟨hrange, -⟩ := buildFwPackets_spec hpackets
  obtain ⟨-, hbelow, -, -⟩ := packets_ids hpackets
  unfold firstArrivals arrivals
  generalize hps : (packets.filter fun packet => packet.packet_id ∉ omit_ids).filter
    (fun p => !U.lost 0 p.packet_id) = ps
  have hids : ps.map (·.packet_id) = (List.range (uiExpectedPacketCount image.length)).filter
      fun packet_id => !decide (packet_id ∈ omit_ids ∨ U.lost 0 packet_id) := by
    rw [← hrange, List.filter_map, ← hps, List.filter_filter]
    congr 1
    refine List.filter_congr fun p _ => ?_
    by_cases hp : p.packet_id ∈ omit_ids <;> simp [hp]
  have hsorted : (ps.map (·.packet_id)).Pairwise (· < ·) := by
    rw [hids]
    exact List.pairwise_lt_range.sublist List.filter_sublist
  obtain ⟨hcount, hle⟩ := progress_ascending (uiExpectedPacketCount image.length) hsorted
  have hnext := hle (uiExpectedPacketCount image.length) (by
    intro p hp
    rw [← hps] at hp
    exact hbelow p (List.mem_filter.mp (List.mem_filter.mp hp).1).1)
  -- an id has arrived or has been missed
  have hsplit : ps.length + (missedIds U omit_ids (uiExpectedPacketCount image.length)).length
      = uiExpectedPacketCount image.length := by
    have hparts := List.length_eq_length_filter_add
      (l := List.range (uiExpectedPacketCount image.length))
      (fun packet_id => decide (packet_id ∈ omit_ids ∨ U.lost 0 packet_id))
    rw [← hids, List.length_range, List.length_map] at hparts
    unfold missedIds
    omega
  rw [List.length_map, progress_concat]
  show _ + (uiExpectedPacketCount image.length
    - (progress (uiExpectedPacketCount image.length) (ps.map .packet)).next) = _ ∧ _
  omega

end FirstPass

/-- **The request is acknowledged**, and the session starts. -/
theorem InSession.request {slot : FlashArea} {image request : List UInt8} {b : Btl}
    {U : UpdateLink} (hreach : (machine slot).Reachable b) (hrun : b.halted = none)
    (hidle : b.mgmt.eBtlState = .idle) (hinit : b.mgmt.bIsInitialized = true)
    (hfits : image.length + FW_IMAGE_SECONDARY_SLOT_WRITE_OFFSET ≤ slot.fa_size)
    (hrequest : buildFwUpdateRequest image = some request) (henv : (U.env 0).Succeeds) :
    ∃ x, ((Exchange.start b).sendBootloaderFrame U.toLink .fwUpReq request).waitForSlaveAck .fwUpReq
        = some x ∧ InSession slot image [] x := by
  obtain ⟨hlen, -⟩ := buildFwUpdateRequest_spec hrequest
  have hroom : request.length < CAN_MSG_MAX_SIZE := by
    rw [hlen]
    decide
  obtain ⟨hrecv, himg⟩ := Receiving.request (base_of_reachable hreach hrun) hrun hidle hinit hfits
    hrequest (U.toController.carries .fwUpReq request hroom) henv
  obtain ⟨bIsMsgOk, rest, hwait, hrest, hcaused⟩ := Exchange.answered (L := U.toLink)
    (x := Exchange.start b) hreach hrun hinit
    (show UpdateCommand .fwUpReq request from .inl ⟨rfl, hlen⟩) nofun hroom
    (by show b.mgmt.eBtlState ≠ .reboot; rw [hidle]; decide) nofun
  have hack : bIsMsgOk = true := by
    rw [hcaused]
    unfold Caused ownTransition
    show _ = some (b.mgmt.eBtlState, _)
    rw [hidle]
    exact congrArg (fun s => some (BootloaderState.idle, s)) hrecv.state.symm
  rw [hack, if_pos rfl] at hwait
  refine ⟨_, Exchange.waitForSlaveAck_acked hwait hrest, ?_⟩
  exact {
    reach := hreach.step trivial rfl
    init := hrecv.base.initialized hrecv.state
    frames := nofun
    receiving := hrecv
    below := fun i ⟨p, hp, _⟩ => absurd hp List.not_mem_nil
    fresh := fun _ => himg
    pages := nofun }

/-- When the update completes: the image has at most 65535 packets, of which
some have arrived in the first pass and at most 100 have not, and the rounds
leave nothing pending. -/
structure Recoverable (U : UpdateLink) (n : Nat) (missed : List Nat) : Prop where
  count : n ≤ UINT16_MAX
  few : missed.length ≤ MAX_NUMBER_OF_ALLOWABLE_LOST_PACKETs
  arrived : missed.length < n
  rounds : pendingAfter LOST_PACKET_IDS_PER_PAGE U.lost 1 MAX_AUTO_RECOVERY_ROUNDS missed = []

/-- An update that is not reported as complete. -/
theorem CompletesIff.never {image : List UInt8} {P : Prop} {r : UpdateEnd × Exchange}
    (hnot : r.1 ≠ .completed) (hP : ¬ P) : CompletesIff image P r :=
  ⟨iff_of_false hnot hP, fun h => absurd h hnot⟩

/-- The update once its request has been acknowledged. -/
theorem sendUpdateWorker_eq {U : UpdateLink} {image request : List UInt8} {omit_ids : List Nat}
    {packets : List FirmwarePacket} {x x' : Exchange} (hpackets : buildFwPackets image = some packets)
    (hrequest : buildFwUpdateRequest image = some request)
    (hack : (x.sendBootloaderFrame U.toLink .fwUpReq request).waitForSlaveAck .fwUpReq = some x') :
    sendUpdateWorker U image omit_ids x
      = completeUpdateWithRecovery U packets 1 MAX_AUTO_RECOVERY_ROUNDS
          (x'.sendPackets U 0 (packets.filter fun packet => packet.packet_id ∉ omit_ids)) := by
  unfold sendUpdateWorker
  rw [hpackets, hrequest]
  dsimp only
  rw [hack]

section Update

variable {slot : FlashArea} {b : Btl} (hreach : (machine slot).Reachable b)
  (hrun : b.halted = none) (hidle : b.mgmt.eBtlState = .idle)
  (hinit : b.mgmt.bIsInitialized = true) (haligned : FW_IMG_WRITE_BYTE_LENGTH ∣ slot.fa_size)
  {image : List UInt8} (hfits : image.length ≤ slot.fa_size - FW_IMAGE_SECONDARY_SLOT_WRITE_OFFSET)
  {U : UpdateLink} (henv : ∀ k, (U.env k).Succeeds)
include hreach hrun hidle hinit haligned hfits henv

/-- The update of an image that has packets and a request. -/
theorem sendUpdateWorker_built {packets : List FirmwarePacket} {request : List UInt8}
    (hpackets : buildFwPackets image = some packets)
    (hrequest : buildFwUpdateRequest image = some request) (omit_ids : List Nat) :
    CompletesIff image
      (Recoverable U (uiExpectedPacketCount image.length)
        (missedIds U omit_ids (uiExpectedPacketCount image.length)))
      (sendUpdateWorker U image omit_ids (.start b)) := by
  obtain ⟨-, hpos, -⟩ := buildFwUpdateRequest_spec hrequest
  obtain ⟨x, hack, hsession⟩ := InSession.request hreach hrun hidle hinit (by omega) hrequest
    (henv 0)
  rw [sendUpdateWorker_eq hpackets hrequest hack]
  have hdesc := (buildFwPackets_spec hpackets).2
  have hbelow := (packets_ids hpackets).2.1
  have hlen : ∀ p ∈ packets, p.payload.length = FW_IMG_PACKET_DATA_LENGTH :=
    fun p hp => (hdesc p hp).length
  -- the packets sent are packets of the image
  have hsent : ∀ p ∈ packets.filter fun packet => packet.packet_id ∉ omit_ids,
      p.Describes image ∧ p.packet_id < uiExpectedPacketCount image.length := by
    intro p hp
    have hmem := (List.mem_filter.mp hp).1
    exact ⟨hdesc p hmem, hbelow p hmem⟩
  by_cases hn : uiExpectedPacketCount image.length ≤ UINT16_MAX
  swap
  · -- too many packets: the session was given up from its start
    have hgiven : GivenUp slot x := by
      obtain ⟨s, -, hinv, hrecv⟩ := hsession.receiving.session
      refine ⟨hsession.toConnected, .inr (.inr ⟨⟨hsession.receiving.running,
        hsession.receiving.state⟩, hsession.receiving.base, .inr ?_⟩)⟩
      rw [hinv.size, hrecv.size]
      exact Nat.not_le.mp hn
    exact .never ((hgiven.sendPackets U 0 fun p hp => (hsent p hp).1.length).not_completed hlen 1 _)
      fun hr => hn hr.count
  obtain ⟨hskipped, hcount⟩ := firstArrivals_count U omit_ids hpackets
  have hmissing := fun i => arrived_firstArrivals U omit_ids hpackets (i := i)
  rcases hsession.sendPackets haligned hn henv hsent 0 with hpassed | ⟨hmany, hgiven⟩
  swap
  · -- too many were lost in a row
    refine .never (hgiven.not_completed hlen 1 _) fun hr => ?_
    have hle := skipped_le_append (uiExpectedPacketCount image.length)
      (firstArrivals U omit_ids packets) [.fwUpEnd]
    have hfew := hr.few
    rw [← hskipped] at hfew
    exact absurd (Nat.le_trans hle hfew) (Nat.not_le.mpr hmany)
  change InSession slot image (firstArrivals U omit_ids packets) _ at hpassed
  have hsorted : (missedIds U omit_ids (uiExpectedPacketCount image.length)).Pairwise (· < ·) :=
    List.pairwise_lt_range.sublist List.filter_sublist
  generalize missedIds U omit_ids (uiExpectedPacketCount image.length) = missed
    at hskipped hcount hmissing hsorted ⊢
  by_cases hgood : missed.length ≤ MAX_NUMBER_OF_ALLOWABLE_LOST_PACKETs ∧
      missed.length < uiExpectedPacketCount image.length
  · obtain ⟨hfew, hsome⟩ := hgood
    -- a packet has arrived, so the session is not fresh any more
    have hsends : firstArrivals U omit_ids packets ≠ [] := by
      intro hnil
      rw [hnil, List.length_nil] at hcount
      omega
    obtain ⟨hiff, hinstalled⟩ := hpassed.recovered haligned hn henv hpackets hsends
      (by rw [hskipped]; exact hfew) hsorted hmissing 1 MAX_AUTO_RECOVERY_ROUNDS
    exact ⟨hiff.trans ⟨fun hrounds => ⟨hn, hfew, hsome, hrounds⟩, fun hr => hr.rounds⟩, hinstalled⟩
  · -- no packet has arrived, or too many have not: the first end is refused
    have hpositive : 0 < uiExpectedPacketCount image.length := lt_uiExpectedPacketCount.mpr hpos
    obtain ⟨k, hk⟩ : ∃ k, k ∈ missed := by
      apply List.exists_mem_of_length_pos
      omega
    obtain ⟨hlt, hmiss⟩ := (hmissing k).mp hk
    refine .never ((hpassed.refused hn hlt hmiss ?_).not_completed hlen 1 _)
      fun hr => hgood ⟨hr.few, hr.arrived⟩
    by_cases hfew : missed.length ≤ MAX_NUMBER_OF_ALLOWABLE_LOST_PACKETs
    · left
      apply List.eq_nil_of_length_eq_zero
      omega
    · right
      rw [hskipped]
      exact Nat.not_le.mp hfew

/-- The update of any image. -/
theorem sendUpdateWorker_spec (omit_ids : List Nat) :
    CompletesIff image
      (Recoverable U (uiExpectedPacketCount image.length)
        (missedIds U omit_ids (uiExpectedPacketCount image.length)))
      (sendUpdateWorker U image omit_ids (.start b)) := by
  -- an image without packets or without a request is too large, or empty
  have hbuilt : ∀ n, n = uiExpectedPacketCount image.length →
      Recoverable U n (missedIds U omit_ids n) →
      (∃ packets, buildFwPackets image = some packets) ∧
        ∃ request, buildFwUpdateRequest image = some request := by
    rintro n rfl hr
    have hsome := hr.arrived
    refine build_total ?_ hr.count
    exact Nat.pos_of_ne_zero fun hzero => by
      rw [hzero] at hsome
      exact absurd hsome (Nat.not_lt_zero _)
  cases hpackets : buildFwPackets image with
  | none =>
      refine .never ?_ fun hr => ?_
      · unfold sendUpdateWorker
        rw [hpackets]
        nofun
      · obtain ⟨⟨packets, hsome⟩, -⟩ := hbuilt _ rfl hr
        rw [hpackets] at hsome
        cases hsome
  | some packets =>
      cases hrequest : buildFwUpdateRequest image with
      | none =>
          refine .never ?_ fun hr => ?_
          · unfold sendUpdateWorker
            rw [hpackets, hrequest]
            nofun
          · obtain ⟨-, request, hsome⟩ := hbuilt _ rfl hr
            rw [hrequest] at hsome
            cases hsome
      | some request =>
          exact sendUpdateWorker_built hreach hrun hidle hinit haligned hfits henv hpackets hrequest
            omit_ids

/-- **When an update with lost packets completes.**  Let the tool update an idle
controller with an image that fits, over a line that loses packets in any
pattern, with no call failing.  It reports a complete update if and only if the
image has at most 65535 packets, some arrive in the first pass and at most 100
do not, and five rounds that each send the first 30 again leave none; and then
the image is in the flash and the controller waits for its reboot. -/
theorem update_completed_iff (omit_ids : List Nat) :
    ((sendUpdateWorker U image omit_ids (.start b)).1 = .completed ↔
      Recoverable U (uiExpectedPacketCount image.length)
        (missedIds U omit_ids (uiExpectedPacketCount image.length))) ∧
    ((sendUpdateWorker U image omit_ids (.start b)).1 = .completed →
      Installed image (sendUpdateWorker U image omit_ids (.start b)).2.b) := by
  have hspec := sendUpdateWorker_spec hreach hrun hidle hinit haligned hfits henv omit_ids
  exact ⟨hspec.completed, hspec.installed⟩

/-- **Four rounds without a loss are enough.**  With at most 100 packets missing
after the first pass, and four of the five rounds losing nothing, the update
completes, whatever the fifth loses. -/
theorem update_completes_of_clean_rounds {omit_ids : List Nat}
    (hn : uiExpectedPacketCount image.length ≤ UINT16_MAX)
    (hfew : (missedIds U omit_ids (uiExpectedPacketCount image.length)).length
      ≤ MAX_NUMBER_OF_ALLOWABLE_LOST_PACKETs)
    (hsome : (missedIds U omit_ids (uiExpectedPacketCount image.length)).length
      < uiExpectedPacketCount image.length)
    {clean : Nat → Bool} (hclean : ∀ r, clean r = true → ∀ packet_id, U.lost r packet_id = false)
    (hrounds : 4 ≤ cleanRounds clean 1 MAX_AUTO_RECOVERY_ROUNDS) :
    Installed image (sendUpdateWorker U image omit_ids (.start b)).2.b := by
  have hspec := sendUpdateWorker_spec hreach hrun hidle hinit haligned hfits henv omit_ids
  apply hspec.installed
  rw [hspec.completed]
  refine ⟨hn, hfew, hsome, List.eq_nil_of_length_eq_zero ?_⟩
  have hle := length_pendingAfter_le LOST_PACKET_IDS_PER_PAGE hclean 1 MAX_AUTO_RECOVERY_ROUNDS
    (missedIds U omit_ids (uiExpectedPacketCount image.length))
  unfold MAX_NUMBER_OF_ALLOWABLE_LOST_PACKETs at hfew
  unfold LOST_PACKET_IDS_PER_PAGE at hle ⊢
  omega

end Update

/-! ## §6. An update of two packets. -/

/-- The bridge, with the first packet lost in the first pass and in the first
round. -/
def lossyLink : UpdateLink where
  toLink := bridgeLink
  lost round packet_id := decide (round < 2 ∧ packet_id = 0)

/-- The controller after its boot. -/
def booted : Btl := bInitBootloaderController ⟨0x4000⟩ (fun _ => 0) Env.success

/-- The first packet arrives in the second round. -/
theorem update_completed_second_round :
    (sendUpdateWorker lossyLink twoPackets [] (.start booted)).1 = .completed := by
  have hreach : (machine ⟨0x4000⟩).Reachable booted := .init ⟨_, _, rfl⟩
  refine (update_completed_iff hreach (by decide +kernel) (by decide +kernel) (by decide +kernel)
    (by decide) (by decide +kernel) (fun _ => Env.success_succeeds) []).1.mpr ?_
  exact ⟨by decide, by decide, by decide, by decide⟩

/-- All rounds but the first lose nothing. -/
theorem update_completes_of_clean_rounds_two :
    Installed twoPackets (sendUpdateWorker lossyLink twoPackets [] (.start booted)).2.b := by
  have hreach : (machine ⟨0x4000⟩).Reachable booted := .init ⟨_, _, rfl⟩
  have hclean : ∀ r, decide (2 ≤ r) = true → ∀ packet_id, lossyLink.lost r packet_id = false := by
    intro r hr packet_id
    have hle : 2 ≤ r := of_decide_eq_true hr
    refine decide_eq_false ?_
    omega
  exact update_completes_of_clean_rounds hreach (by decide +kernel) (by decide +kernel)
    (by decide +kernel) (by decide) (by decide +kernel) (fun _ => Env.success_succeeds)
    (by decide) (by decide) (by decide) hclean (by decide)

end WallController.Bootloader
