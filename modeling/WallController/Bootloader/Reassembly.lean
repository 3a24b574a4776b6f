/-
  WallController.Bootloader.Reassembly
  ────────────────────────────────
  **END-TO-END REASSEMBLY OF AN IMAGE.**

  The host's packetiser and the controller's write loop, gap bookkeeping and
  CRC check agree: a delivered update ends with the image in the flash and the
  controller waiting for its reboot (`image_reassembled`).  The invariant of
  the delivery is `Receiving`; it has one lemma for each kind of frame:

      request     the session starts, nothing is received
      packet      a packet is stored, or known already
      missing     an end announcement records the missing ids
      finish      the end announcement of a complete image is accepted

  The exception is a delivery that begins with an end announcement: it leaves
  the first packet without a handle (`Unopened`), and such a session never
  completes.
-/
import WallController.Bootloader.Delivery

namespace WallController.Bootloader

open WallController.Lib

/-! ## §1. The invariant of a delivery. -/

/-- The session has received the packets among the delivered frames. -/
structure Session.Received (s : Session) (image : List UInt8) (sends : List Send) : Prop where
  size : s.size = image.length
  crc : s.crc = u16CRC16CCITTUpdate 0xFFFF image
  bytes : ∀ i ∈ s.ids, s.imageBytes i = imageChunk image i
  ids : ∀ i, i ∈ s.ids ↔ ∃ p, Send.packet p ∈ sends ∧ p.packet_id = i

/-- The controller after some delivered frames. -/
structure Receiving (slot : FlashArea) (image : List UInt8) (sends : List Send) (b : Btl) :
    Prop where
  running : b.halted = none
  state : b.mgmt.eBtlState = .fwImgWriteInProg
  base : Base slot b
  opened : Opened b
  session : ∃ s, currentSession b.log = some s ∧ SessionInv s b ∧ s.Received image sends
  next : b.img.uiNextId = (progress (uiExpectedPacketCount image.length) sends).next
  skipped : b.img.uiLostPacketCount
    = (progress (uiExpectedPacketCount image.length) sends).skipped

/-- Plain calls do not matter to what has been received. -/
theorem Session.Received.extend {s : Session} {image : List UInt8} {sends : List Send}
    {calls : List Obs} (h : s.Received image sends) (hp : ∀ o ∈ calls, o.plain) :
    (s.extend calls).Received image sends := by
  have hpk : (s.extend calls).packets = s.packets := Session.packets_extend_plain hp
  exact {
    size := h.size
    crc := h.crc
    bytes := by
      intro i hi
      have := h.bytes i (by rwa [Session.ids, hpk] at hi)
      rwa [Session.imageBytes, Session.payload, hpk]
    ids := by
      intro i
      rw [Session.ids, hpk]
      exact h.ids i }

theorem Receiving.kept {slot : FlashArea} {image : List UInt8} {sends : List Send} {b b' : Btl}
    (h : Receiving slot image sends b) (hk : Kept b b') : Receiving slot image sends b' where
  running := hk.work.halted.trans h.running
  state := by rw [hk.work.mgmt]; exact h.state
  base := h.base.kept hk
  opened := h.opened.kept hk
  session := by
    obtain ⟨s, hcur, hinv, hrecv⟩ := h.session
    obtain ⟨calls, hl, hp⟩ := hk.work.log
    refine ⟨s.extend calls, ?_, ?_, hrecv.extend hp⟩
    · rw [hl]
      exact currentSession_append hcur fun o ho => Obs.plain_not_start (hp o ho)
    · exact (hinv.congr hk.work.mgmt hk.img hk.flash).extend hp
  next := by rw [hk.img]; exact h.next
  skipped := by rw [hk.img]; exact h.skipped

/-! ## §2. The update request. -/

/-- A request for an image that fits, with no call failing. -/
theorem vInitBootloaderManager_started {env : Env} (henv : env.Succeeds) {j : Job}
    (hpos : 0 < requestedSize j.msg.uiaData)
    (hfits : requestedSize j.msg.uiaData + FW_IMAGE_SECONDARY_SLOT_WRITE_OFFSET
      ≤ j.btl.mgmt.uiFlashAreaSize) :
    (vInitBootloaderManagerForNewFWImage env j).btl.mgmt.eBtlState = .fwImgWriteInProg ∧
      (vInitBootloaderManagerForNewFWImage env j).btl.mgmt.uiFWImgSize
        = requestedSize j.msg.uiaData ∧
      (vInitBootloaderManagerForNewFWImage env j).btl.mgmt.uiCRC
        = UInt16.ofNat (be16 j.msg.uiaData 8) := by
  unfold vInitBootloaderManagerForNewFWImage
  have hroom : ¬ j.btl.mgmt.uiFlashAreaSize ≤ FW_IMAGE_SECONDARY_SLOT_WRITE_OFFSET := by omega
  have hsmall : ¬ requestedSize j.msg.uiaData
      > j.btl.mgmt.uiFlashAreaSize - FW_IMAGE_SECONDARY_SLOT_WRITE_OFFSET := by
    omega
  simp only [if_neg (Nat.ne_of_gt hpos), if_neg hroom, if_neg hsmall, vEraseFlashArea,
    flashAreaOpen, henv.open_, henv.erase, if_true, ne_eq, not_true_eq_false, if_false,
    vSetBootloaderMsgStatus, Bool.not_true, Bool.false_eq_true]
  exact ⟨rfl, rfl, rfl⟩

/-- **The request starts the session.** -/
theorem Receiving.request {slot : FlashArea} {image request : List UInt8} {b : Btl}
    {f : CanFrame} {env : Env} (hb : Base slot b) (hrun : b.halted = none)
    (hidle : b.mgmt.eBtlState = .idle) (hinit : b.mgmt.bIsInitialized = true)
    (hfits : image.length + FW_IMAGE_SECONDARY_SLOT_WRITE_OFFSET ≤ slot.fa_size)
    (hreq : buildFwUpdateRequest image = some request) (hc : Carries f .fwUpReq request)
    (henv : env.Succeeds) :
    Receiving slot image [] (step b (.frame f, env)) ∧
      (step b (.frame f, env)).img = FWImgCtrl.cleared := by
  obtain ⟨hlen, hpos, hsize, hcrc⟩ := buildFwUpdateRequest_spec hreq
  have hk := step_host env hrun hinit hc (.inl ⟨rfl, hlen⟩)
  generalize step b (.frame f, env) = b' at hk ⊢
  -- the handler of the idle state goes on to the request
  generalize hj : ({ btl := (bIsFirstEntry b).2, msg := hostMsg .fwUpReq request } : Job) = j
  have hhandler : vUpdateBootloader env { btl := b, msg := hostMsg .fwUpReq request }
      = .ok (vInitBootloaderManagerForNewFWImage env j) := by
    unfold vUpdateBootloader vExecuteBootloaderIdleState
    have hlen' : ¬ (hostMsg .fwUpReq request).uiLen ≠ 10 := by
      show ¬ request.length ≠ 10
      rw [hlen]
      simp
    have hne : ¬ b.mgmt.eBtlState = .fwImgWriteInProg := by
      rw [hidle]
      decide
    simp only [hidle, hinit, Bool.not_true, Bool.false_eq_true, if_false, if_neg hlen',
      show (hostMsg .fwUpReq request).eCMD = .fwUpReq from rfl, ← hj, reduceCtorEq]
  have hbtl : j.btl = (bIsFirstEntry b).2 := by rw [← hj]
  have hmsg : j.msg.uiaData = request := by rw [← hj]; rfl
  have hbj : Base slot j.btl := by
    rw [hbtl]
    have hne : b.mgmt.eBtlState ≠ .fwImgWriteInProg := by
      rw [hidle]
      decide
    exact { hb with handle := (bIsFirstEntry_ended hb hne).handle hb.handle }
  have hidle' : j.btl.mgmt.eBtlState = .idle := by rw [hbtl]; exact hidle
  have hinit' : j.btl.mgmt.bIsInitialized = true := by rw [hbtl]; exact hinit
  have harea : j.btl.mgmt.uiFlashAreaSize = slot.fa_size := hbj.size hinit'
  obtain ⟨hstate, hsz, hcr⟩ := vInitBootloaderManager_started henv (j := j)
    (by rw [hmsg, hsize]; exact hpos) (by rw [hmsg, hsize, harea]; exact hfits)
  have hout := vInitBootloaderManager_outcome env hbj hidle' hinit'
  rw [hhandler] at hk
  simp only [handlerResult] at hk
  generalize (vInitBootloaderManagerForNewFWImage env j).btl = b₁ at hk hstate hsz hcr hout
  rw [hmsg] at hsz hcr
  rcases hout with hout | hout
  · exact absurd hstate hout.state.1
  have hrun₁ : b₁.halted = none := by
    rw [hout.halted, hbtl]
    exact hrun
  have hb₁ : Base slot b₁ :=
    hbj.transition (show Transition env False (fun _ => True) _ _ from .started hout trivial) hrun₁
  have hrecv : Receiving slot image [] b₁ := {
    running := hrun₁
    state := hstate
    base := hb₁
    opened := by
      intro _ hu
      exact absurd (by rw [hout.img]; exact ⟨rfl, rfl⟩) hu
    session := by
      refine ⟨_, hout.currentSession, hout.sessionInv, ?_⟩
      exact {
        size := hout.image_size.symm.trans (hsz.trans hsize)
        crc := hout.image_crc.symm.trans (hcr.trans hcrc)
        bytes := by simp [Session.ids, Session.packets]
        ids := by simp [Session.ids, Session.packets] }
    next := by rw [hout.img]; rfl
    skipped := by rw [hout.img]; rfl }
  exact ⟨hrecv.kept hk, hk.img.trans hout.img⟩

/-! ## §3. A packet. -/

theorem lt_uiExpectedPacketCount {size k : Nat} :
    k < uiExpectedPacketCount size ↔ DATA_PAYLOAD_PER_ONE_IMAGE_FRAME * k < size := by
  unfold uiExpectedPacketCount DATA_PAYLOAD_PER_ONE_IMAGE_FRAME
  omega

/-- An admitted packet moves the bookkeeping as the delivery does. -/
theorem Admits.progress {img img' : FWImgCtrl} {id : Nat} (h : Admits img id img') :
    (if id ≥ img'.uiNextId then id + 1 else img'.uiNextId) = max img.uiNextId (id + 1) ∧
      img'.uiLostPacketCount = img.uiLostPacketCount + (id - img.uiNextId) := by
  cases h with
  | next hid =>
      rw [if_pos (Nat.le_of_eq hid.symm)]
      omega
  | gap hlt hcount =>
      have hnext : (img.withMissing (id - img.uiNextId)).uiNextId = id := by
        show img.uiNextId + (id - img.uiNextId) = id
        omega
      rw [hnext, if_pos (Nat.le_refl id)]
      refine ⟨by omega, ?_⟩
      show (img.staLostPacketIDs ++ missingEntries _ _).length = _
      rw [List.length_append, length_missingEntries]
      rfl
  | pending hlt hfind hp =>
      rw [if_neg (by omega)]
      omega

/-- A recovered packet leaves the number of lost packets as it is. -/
theorem vHandleLostPacketRecovery_lostCount (id : Nat) (img : FWImgCtrl) :
    (vHandleLostPacketRecovery id img).uiLostPacketCount = img.uiLostPacketCount := by
  have hlen : (markHandled id img.staLostPacketIDs).length = img.staLostPacketIDs.length := by
    have := congrArg List.length (map_markHandled id img.staLostPacketIDs)
    rwa [List.length_map, List.length_map] at this
  unfold vHandleLostPacketRecovery
  by_cases ht : (!img.bLostPacketStateTriggered) = true
  · rw [if_pos ht]
  · rw [if_neg ht]
    split
    · rfl
    · split
      · rfl
      · exact hlen

/-- A packet that was delivered before changes nothing. -/
theorem Receiving.again {slot : FlashArea} {image : List UInt8} {sends : List Send} {b : Btl}
    {p : FirmwarePacket} (h : Receiving slot image sends b)
    (hlt : p.packet_id < b.img.uiNextId)
    (hp : ∃ q, Send.packet q ∈ sends ∧ q.packet_id = p.packet_id) :
    Receiving slot image (sends ++ [.packet p]) b where
  running := h.running
  state := h.state
  base := h.base
  opened := h.opened
  session := by
    obtain ⟨s, hcur, hinv, hrecv⟩ := h.session
    refine ⟨s, hcur, hinv, { hrecv with ids := ?_ }⟩
    intro i
    rw [hrecv.ids]
    constructor
    · rintro ⟨q, hq, hqi⟩
      exact ⟨q, List.mem_append_left _ hq, hqi⟩
    · rintro ⟨q, hq, hqi⟩
      rcases List.mem_append.mp hq with hq | hq
      · exact ⟨q, hq, hqi⟩
      · cases List.mem_singleton.mp hq
        obtain ⟨q', hq', hid⟩ := hp
        exact ⟨q', hq', hid.trans hqi⟩
  next := by
    rw [progress_concat]
    show _ = max _ (p.packet_id + 1)
    rw [← h.next]
    omega
  skipped := by
    rw [progress_concat]
    show _ = _ + (p.packet_id - _)
    rw [← h.next, ← h.skipped]
    omega

/-- In a delivery the write loop cannot fail. -/
theorem Receiving.smooth {slot : FlashArea} {image : List UInt8} {sends : List Send} {b : Btl}
    {env : Env} {img : FWImgCtrl} {id : Nat} (h : Receiving slot image sends b)
    (haligned : FW_IMG_WRITE_BYTE_LENGTH ∣ slot.fa_size) (henv : env.Succeeds)
    (hid : id < uiExpectedPacketCount image.length) :
    Smooth env (id * DATA_PAYLOAD_PER_ONE_IMAGE_FRAME) (b.beginPacket env id img) := by
  obtain ⟨s, hcur, hinv, hrecv⟩ := h.session
  have hsize : b.mgmt.uiFlashAreaSize = slot.fa_size := h.base.size (h.base.initialized h.state)
  have hfits := hinv.size_fits
  have hlen : b.mgmt.uiFWImgSize = image.length := hinv.size.trans hrecv.size
  have hin := lt_uiExpectedPacketCount.mp hid
  have hopen : (b.beginPacket env id img).flashArea = some slot := by
    unfold Btl.beginPacket flashAreaOpen
    by_cases hu : b.img.untouched
    · rw [if_pos hu, if_pos henv.open_]
      exact congrArg some h.base.slot_eq
    · rw [if_neg hu]
      obtain ⟨fa, hfa⟩ := Option.isSome_iff_exists.mp (h.opened h.state hu)
      show b.flashArea = some slot
      rw [hfa, h.base.handle.slot fa hfa, h.base.slot_eq]
  rw [hrecv.size] at hfits
  exact {
    write := henv.write
    flashArea := by rw [hopen, beginPacket_mgmt, hsize]
    aligned := by
      unfold Btl.uiAvailableFlashSize
      rw [beginPacket_mgmt, hsize]
      exact Nat.dvd_sub haligned (by decide)
    size := by
      unfold Btl.uiAvailableFlashSize
      rw [beginPacket_mgmt, hlen]
      omega
    off := by
      unfold Btl.uiAvailableFlashSize
      rw [beginPacket_mgmt]
      refine ⟨?_, Nat.dvd_mul_left_of_dvd (by decide) id⟩
      rw [Nat.mul_comm]
      omega }

/-- **A packet is stored, or known already.** -/
theorem Receiving.packet {slot : FlashArea} {image : List UInt8} {sends : List Send} {b : Btl}
    {p : FirmwarePacket} {f : CanFrame} {env : Env} (h : Receiving slot image sends b)
    (haligned : FW_IMG_WRITE_BYTE_LENGTH ∣ slot.fa_size) (hdesc : p.Describes image)
    (hid : p.packet_id < uiExpectedPacketCount image.length)
    (hn : uiExpectedPacketCount image.length ≤ UINT16_MAX)
    (hc : Carries f .fwUpMsg p.payload) (henv : env.Succeeds)
    (hfew : (progress (uiExpectedPacketCount image.length) (sends ++ [.packet p])).skipped
      ≤ MAX_NUMBER_OF_ALLOWABLE_LOST_PACKETs) :
    Receiving slot image (sends ++ [.packet p]) (step b (.frame f, env)) := by
  have hinit := h.base.initialized h.state
  refine Receiving.kept ?_ (step_host _ h.running hinit hc (.inr (.inl ⟨rfl, hdesc.length⟩)))
  -- the job that the frame becomes, with the packet's payload as its data
  generalize hj : ({ btl := b, msg := hostMsg .fwUpMsg p.payload } : Job) = j
  have hbtl : j.btl = b := by rw [← hj]
  have hdata : j.msg.uiaData = p.payload := by rw [← hj]; rfl
  have hcmd : j.msg.eCMD = .fwUpMsg := by rw [← hj]; rfl
  have hhandler : vUpdateBootloader env j = vUpdateFWImage env j := by
    unfold vUpdateBootloader vExecuteBootloaderFWImgWriteState
    simp only [hbtl, h.state, hinit, Bool.not_true, Bool.false_eq_true, if_false, hcmd]
  have hst : j.btl.mgmt.eBtlState = .fwImgWriteInProg := by rw [hbtl]; exact h.state
  have hout := vUpdateFWImage_outcome env j hst (by rw [hbtl]; exact h.base.idle h.state)
    (by rw [hbtl]; exact h.base.room h.state) (by rw [hbtl]; exact h.base.first)
  have htr : Transition env False (fun _ => True) _ _ := hout.transition hst trivial
  rw [hdata, hdesc.id] at hout
  rw [hhandler]
  generalize vUpdateFWImage env j = r at hout htr ⊢
  obtain ⟨s, hcur, hinv, hrecv⟩ := h.session
  rw [progress_concat] at hfew
  -- this packet does not skip more than the delivery is allowed to
  have hskip : b.img.uiLostPacketCount + (p.packet_id - b.img.uiNextId)
      ≤ MAX_NUMBER_OF_ALLOWABLE_LOST_PACKETs := by
    rw [h.next, h.skipped]
    exact hfew
  cases hout with
  | refused e why =>
      -- refused with the right length: the packet is one of those received before
      have hmem : p.packet_id ∈ s.ids := by
        rcases why with hlen | hr
        · refine absurd ?_ hlen
          show j.msg.uiaData.length = _
          rw [hdata]
          exact hdesc.length
        · rw [hbtl] at hr
          exact hr.mem hinv.tracks
      have hagain := h.again ((hinv.tracks.mem_iff _).mp hmem).1 ((hrecv.ids _).mp hmem)
      show Receiving slot image _ j.btl
      rw [hbtl]
      exact hagain
  | gaveUp e hw why =>
      rw [hbtl] at why
      cases why with
      | tooMany hmany =>
          -- too many packets skipped over: excluded by the bound on the delivery
          have := hmany.2
          omega
      -- no call fails, and the blocks of an aligned slot fit
      | openFailed hu hopen => exact absurd henv.open_ hopen
      | writeFailed hadm hopen hbad => exact absurd (h.smooth haligned henv hid) hbad
  | stopped hw why htouched =>
      rw [hbtl] at why htouched
      -- the handle has been opened with the first packet
      have := h.opened h.state htouched
      rw [why] at this
      cases this
  | @accepted img b₁ hlen hadm hopen hin hw hst' =>
      simp only [handlerResult] at htr ⊢
      rw [hbtl] at hadm hw hst' htr
      rw [hdata] at hst' htr ⊢
      have hrun : (b₁.endPacket env p.packet_id (p.payload.drop 2)).halted = none :=
        (endPacket_work _ h.base.first hw).2.2.1.trans h.running
      have hmgmt : (b₁.endPacket env p.packet_id (p.payload.drop 2)).mgmt = b.mgmt :=
        (endPacket_work _ h.base.first hw).1
      obtain ⟨hbase', hopened'⟩ :=
        (h.opened.transition h.base h.running (fun hf => hf.elim) htr).2 hrun
      have hid' : p.packet_id + 1 < 65536 := by
        unfold UINT16_MAX at hn
        omega
      -- an admitted packet is new
      have hnew : p.packet_id ∉ s.ids := hadm.not_mem hinv.tracks
      have hfit : img.uiReceivedByteCount + packetLen b.mgmt.uiFWImgSize p.packet_id
          ≤ b.mgmt.uiFWImgSize := by
        rw [hadm.unchanged.1, hinv.size]
        exact hinv.received_add_le hnew
      have hstored := hst' hfit
      rw [hinv.size] at hstored
      have hdlen : (p.payload.drop 2).length = DATA_PAYLOAD_PER_ONE_IMAGE_FRAME := by
        rw [List.length_drop, hdesc.length]
        rfl
      obtain ⟨calls, hp, hlog, hinv'⟩ :=
        hinv.accept h.base.first hid' hdlen hadm hstored
      have hloop := hw.afterLoop
      have hprog := hadm.progress
      exact {
        running := hrun
        state := by rw [hmgmt]; exact h.state
        base := hbase'
        opened := hopened'
        -- the session goes on, with one packet more
        session := by
          refine ⟨_, ?_, hinv', ?_⟩
          · rw [hlog, ← List.cons_append]
            refine currentSession_append hcur ?_
            intro o ho
            rcases List.mem_cons.mp ho with rfl | ho
            · exact ⟨fun _ => by simp, fun _ => by simp⟩
            · exact Obs.plain_not_start (hp o ho)
          · exact {
              size := hrecv.size
              crc := hrecv.crc
              bytes := by
                intro i hi
                rw [Session.ids_accept hp, List.mem_cons] at hi
                rw [Session.imageBytes_accept hp]
                -- the bytes of the new packet are its own, the other bytes stay
                by_cases heq : i = p.packet_id
                · rw [if_pos heq, hrecv.size, heq]
                  exact hdesc.bytes
                · rw [if_neg heq]
                  exact hrecv.bytes i (hi.resolve_left heq)
              ids := by
                intro i
                rw [Session.ids_accept hp, List.mem_cons, hrecv.ids]
                constructor
                · rintro (rfl | ⟨q, hq, hqi⟩)
                  · exact ⟨p, List.mem_append_right _ (List.mem_singleton.mpr rfl), rfl⟩
                  · exact ⟨q, List.mem_append_left _ hq, hqi⟩
                · rintro ⟨q, hq, hqi⟩
                  rcases List.mem_append.mp hq with hq | hq
                  · exact .inr ⟨q, hq, hqi⟩
                  · cases List.mem_singleton.mp hq
                    exact .inl hqi.symm }
        next := by
          rw [progress_concat]
          show (vHandleLostPacketRecovery p.packet_id b₁.img.written).uiNextId
            = max _ (p.packet_id + 1)
          rw [(vHandleLostPacketRecovery_bytes _ _).2.2.2.2.1, hloop.next,
            Nat.mod_eq_of_lt hid', hprog.1, h.next]
        skipped := by
          rw [progress_concat]
          show (vHandleLostPacketRecovery p.packet_id b₁.img.written).uiLostPacketCount
            = _ + (p.packet_id - _)
          rw [vHandleLostPacketRecovery_lostCount, ← h.next, ← h.skipped, ← hprog.2]
          exact congrArg List.length hloop.lost }

/-! ## §4. An end announcement. -/

/-- Recording the missing ids moves the bookkeeping as the delivery does. -/
theorem Records.progress {img img' : FWImgCtrl} {n : Nat} (h : Records img n img') :
    img'.uiNextId = max img.uiNextId n ∧
      img'.uiLostPacketCount = img.uiLostPacketCount + (n - img.uiNextId) := by
  cases h with
  | none hle => omega
  | gap hlt hcount =>
      constructor
      · show img.uiNextId + (n - img.uiNextId) = _
        omega
      · show (img.staLostPacketIDs ++ missingEntries _ _).length = _
        rw [List.length_append, length_missingEntries]
        rfl

/-- A missing id below the next one is pending. -/
theorem Tracks.pending_of_missing {img : FWImgCtrl} {ids : List Nat} (h : Tracks img ids)
    {k : Nat} (hk : k ∉ ids) (hlt : k < img.uiNextId) :
    img.bLostPacketStateTriggered = true ∧ 0 < uiGetPendingLostPacketCount img := by
  rw [h.mem_iff] at hk
  obtain ⟨p, hp, -, hhandled⟩ : ∃ p ∈ img.staLostPacketIDs, p.uiPacketId = k ∧
      p.bIsHandled = false := by
    by_contra hno
    refine hk ⟨hlt, ?_⟩
    intro p hp hpk
    by_contra hhandled
    exact hno ⟨p, hp, hpk, by simpa using hhandled⟩
  refine ⟨h.triggered.mpr (List.length_pos_of_mem hp), ?_⟩
  unfold uiGetPendingLostPacketCount
  rw [List.countP_pos_iff]
  exact ⟨p, hp, by rw [hhandled]; rfl⟩

/-- When all ids below the next one are accepted, none is pending and all lost
packets are recovered. -/
theorem Tracks.no_pending {img : FWImgCtrl} {ids : List Nat} (h : Tracks img ids)
    (hall : ∀ k < img.uiNextId, k ∈ ids) :
    uiGetPendingLostPacketCount img = 0 ∧ img.uiRecoveredPacketCount = img.uiLostPacketCount := by
  have hhandled : ∀ p ∈ img.staLostPacketIDs, p.bIsHandled = true := by
    intro p hp
    have hmem := hall _ (h.lost_below p hp)
    exact ((h.mem_iff _).mp hmem).2 p hp rfl
  constructor
  · unfold uiGetPendingLostPacketCount
    rw [List.countP_eq_zero]
    intro p hp
    rw [hhandled p hp]
    exact Bool.false_ne_true
  · rw [h.recovered, List.countP_eq_length.mpr hhandled]
    rfl

/-- The handler of an end announcement, in a session. -/
theorem vUpdateBootloader_fwUpEnd {b : Btl} {env : Env}
    (hst : b.mgmt.eBtlState = .fwImgWriteInProg) (hinit : b.mgmt.bIsInitialized = true) :
    vUpdateBootloader env { btl := b, msg := hostMsg .fwUpEnd [] }
      = vFinalizeFWImageWrite env { btl := b, msg := hostMsg .fwUpEnd [] } := by
  unfold vUpdateBootloader vExecuteBootloaderFWImgWriteState
  simp only [hst, hinit, Bool.not_true, Bool.false_eq_true, if_false,
    show (hostMsg .fwUpEnd []).eCMD = .fwUpEnd from rfl]

/-- A delivered packet has been followed by others only. -/
theorem progress_next_pos {n : Nat} (hn : 0 < n) {sends : List Send} (h : sends ≠ []) :
    0 < (progress n sends).next := by
  obtain ⟨pre, x, rfl⟩ := List.eq_nil_or_concat sends |>.resolve_left h
  rw [List.concat_eq_append, progress_concat]
  cases x with
  | packet p =>
      show 0 < max _ (p.packet_id + 1)
      omega
  | fwUpEnd =>
      show 0 < max _ n
      omega

/-- **An announcement before the last packet records the missing ids.** -/
theorem Receiving.missing {slot : FlashArea} {image : List UInt8} {sends : List Send} {b : Btl}
    {f : CanFrame} {env : Env} {k : Nat} (h : Receiving slot image sends b)
    (hsends : sends ≠ []) (hn : uiExpectedPacketCount image.length ≤ UINT16_MAX)
    (hc : Carries f .fwUpEnd []) (hk : k < uiExpectedPacketCount image.length)
    (hmiss : ¬ ∃ p, Send.packet p ∈ sends ∧ p.packet_id = k)
    (hfew : (progress (uiExpectedPacketCount image.length) (sends ++ [.fwUpEnd])).skipped
      ≤ MAX_NUMBER_OF_ALLOWABLE_LOST_PACKETs) :
    Receiving slot image (sends ++ [.fwUpEnd]) (step b (.frame f, env)) := by
  have hinit := h.base.initialized h.state
  refine Receiving.kept ?_ (step_host _ h.running hinit hc (.inr (.inr ⟨rfl, rfl⟩)))
  rw [vUpdateBootloader_fwUpEnd h.state hinit]
  generalize hj : ({ btl := b, msg := hostMsg .fwUpEnd [] } : Job) = j
  have hbtl : j.btl = b := by rw [← hj]
  have hcmd : j.msg.eCMD = .fwUpEnd := by rw [← hj]; rfl
  have hst : j.btl.mgmt.eBtlState = .fwImgWriteInProg := by rw [hbtl]; exact h.state
  have hout := vFinalizeFWImageWrite_outcome env j hst
  have htr : Transition env _ (fun _ => True) _ _ :=
    hout.transition hst hcmd (by rw [hbtl]; exact h.base.size_pos h.state)
  generalize vFinalizeFWImageWrite env j = r at hout htr ⊢
  obtain ⟨s, hcur, hinv, hrecv⟩ := h.session
  have hsize : b.mgmt.uiFWImgSize = image.length := hinv.size.trans hrecv.size
  have hmem : k ∉ s.ids := by
    rw [hrecv.ids]
    exact hmiss
  rw [progress_concat] at hfew
  cases hout with
  | tooLarge hlarge =>
      rw [hbtl, hsize] at hlarge
      omega
  | tooMany hmany =>
      rw [hbtl, hsize] at hmany
      have := hmany.2
      have hskip : b.img.uiLostPacketCount
          + (uiExpectedPacketCount image.length - b.img.uiNextId)
          ≤ MAX_NUMBER_OF_ALLOWABLE_LOST_PACKETs := by
        rw [h.next, h.skipped]
        exact hfew
      omega
  | @checked img r hmax hrec hchk =>
      rw [hbtl, hsize] at hrec
      have hinv' : SessionInv s { b with img := img } := hinv.records hrec hn
      have hprog := hrec.progress
      -- the missing packet is pending now
      obtain ⟨htrig, hpos⟩ : img.bLostPacketStateTriggered = true ∧
          0 < uiGetPendingLostPacketCount img :=
        hinv'.tracks.pending_of_missing hmem (by show k < img.uiNextId; omega)
      rw [hbtl] at hchk htr
      cases hchk with
      | pending hp =>
          simp only [handlerResult] at htr ⊢
          have hrun : (vEnterLostPacketRecoveryLocked env { b with img := img }).halted = none :=
            h.running
          have htouched : ¬ b.img.untouched := by
            intro hu
            have hnext := progress_next_pos (Nat.zero_lt_of_lt hk) hsends
            rw [← h.next, hu.2] at hnext
            exact Nat.lt_irrefl 0 hnext
          obtain ⟨hbase', hopened'⟩ := (h.opened.transition h.base h.running
            (fun _ hbad => htouched hbad.2.1) htr).2 hrun
          exact {
            running := hrun
            state := h.state
            base := hbase'
            opened := hopened'
            session := by
              refine ⟨s, hcur, hinv'.congr rfl rfl rfl, { hrecv with ids := ?_ }⟩
              intro i
              rw [hrecv.ids]
              simp only [List.mem_append, List.mem_singleton, reduceCtorEq, or_false]
            next := by
              rw [progress_concat]
              show img.uiNextId = max _ _
              rw [hprog.1, h.next]
            skipped := by
              rw [progress_concat]
              show img.uiLostPacketCount = _ + (_ - _)
              rw [hprog.2, h.next, h.skipped] }
      | gaveUp e hw hp why =>
          have hzero : uiGetPendingLostPacketCount img = 0 := hp htrig
          omega
      | stopped hw why hp =>
          have hzero : uiGetPendingLostPacketCount img = 0 := hp
          omega
      | completed hw hflash hck =>
          have hfull := hinv'.received_eq_iff.mp (hck.received.trans hinv.size)
          refine absurd (hfull k ?_) hmem
          rw [hrecv.size]
          exact lt_uiExpectedPacketCount.mp hk

/-- **The announcement after the last packet is accepted**, and the flash holds
the image. -/
theorem Receiving.finish {slot : FlashArea} {image : List UInt8} {sends : List Send} {b : Btl}
    {f : CanFrame} {env : Env} (h : Receiving slot image sends b)
    (hn : uiExpectedPacketCount image.length ≤ UINT16_MAX) (hc : Carries f .fwUpEnd [])
    (henv : env.Succeeds)
    (hbelow : ∀ p, Send.packet p ∈ sends → p.packet_id < uiExpectedPacketCount image.length)
    (hall : ∀ k < uiExpectedPacketCount image.length,
      ∃ p, Send.packet p ∈ sends ∧ p.packet_id = k) :
    (step b (.frame f, env)).halted = none ∧
      (step b (.frame f, env)).mgmt.eBtlState = .reboot ∧
      (step b (.frame f, env)).flash.read FW_IMAGE_SECONDARY_SLOT_WRITE_OFFSET image.length
        = image := by
  have hinit := h.base.initialized h.state
  have hk := step_host env h.running hinit hc (.inr (.inr ⟨rfl, rfl⟩))
  rw [hk.work.halted, hk.work.mgmt, hk.flash, vUpdateBootloader_fwUpEnd h.state hinit]
  clear hk
  generalize hj : ({ btl := b, msg := hostMsg .fwUpEnd [] } : Job) = j
  have hbtl : j.btl = b := by rw [← hj]
  have hcmd : j.msg.eCMD = .fwUpEnd := by rw [← hj]; rfl
  have hst : j.btl.mgmt.eBtlState = .fwImgWriteInProg := by rw [hbtl]; exact h.state
  have hout := vFinalizeFWImageWrite_outcome env j hst
  generalize vFinalizeFWImageWrite env j = r at hout ⊢
  obtain ⟨s, hcur, hinv, hrecv⟩ := h.session
  have hsize : b.mgmt.uiFWImgSize = image.length := hinv.size.trans hrecv.size
  have hpos : 0 < uiExpectedPacketCount image.length := by
    rw [lt_uiExpectedPacketCount, ← hrecv.size]
    exact hinv.size_pos
  -- every packet of the image is accepted, and no id is beyond the image
  have hmem : ∀ k < uiExpectedPacketCount image.length, k ∈ s.ids := by
    intro k hk
    rw [hrecv.ids]
    exact hall k hk
  have hle : b.img.uiNextId ≤ uiExpectedPacketCount image.length := by
    rw [h.next]
    exact progress_next_le hbelow
  have hge : uiExpectedPacketCount image.length ≤ b.img.uiNextId := by
    have := ((hinv.tracks.mem_iff _).mp (hmem (uiExpectedPacketCount image.length - 1)
      (by omega))).1
    omega
  obtain ⟨hpend, hrecovered⟩ := hinv.tracks.no_pending fun k hk => hmem k (by omega)
  have hreceived : b.img.uiReceivedByteCount = s.size := by
    rw [hinv.received_eq_iff]
    intro i hi
    apply hmem
    rw [lt_uiExpectedPacketCount, ← hrecv.size]
    exact hi
  have hopen : b.flashArea = some slot := by
    have hu : ¬ b.img.untouched := by
      intro hu
      have := hu.2
      omega
    obtain ⟨fa, hfa⟩ := Option.isSome_iff_exists.mp (h.opened h.state hu)
    rw [hfa, h.base.handle.slot fa hfa, h.base.slot_eq]
  -- the flash holds the image
  have hread : b.flash.read FW_IMAGE_SECONDARY_SLOT_WRITE_OFFSET image.length = image := by
    have hrd := hinv.read_image (n := uiExpectedPacketCount image.length) hmem
    have hcover : image.length
        ≤ DATA_PAYLOAD_PER_ONE_IMAGE_FRAME * uiExpectedPacketCount image.length := by
      by_contra hlt
      exact Nat.lt_irrefl _ (lt_uiExpectedPacketCount.mpr (Nat.not_le.mp hlt))
    rw [hrecv.size, min_eq_right hcover] at hrd
    have himage : s.image (uiExpectedPacketCount image.length) = image := by
      have hchunks : s.image (uiExpectedPacketCount image.length)
          = (List.range (uiExpectedPacketCount image.length)).flatMap (imageChunk image) := by
        refine List.flatMap_congr ?_
        intro i hi
        exact hrecv.bytes i (hmem i (List.mem_range.mp hi))
      rw [hchunks, flatMap_imageChunk]
      exact List.take_of_length_le hcover
    rw [hrd, himage]
  have hin : b.img.bLostPacketStateTriggered = true →
      DATA_PAYLOAD_PER_ONE_IMAGE_FRAME * b.img.uiFirstLostPacketId < s.size := by
    intro ht
    obtain ⟨p, ps, hl⟩ := List.exists_cons_of_length_pos (hinv.tracks.triggered.mp ht)
    have hlt := hinv.tracks.lost_below p (by rw [hl]; exact List.mem_cons_self)
    rw [hinv.tracks.first p (by rw [hl]; rfl), hrecv.size]
    exact lt_uiExpectedPacketCount.mp (by omega)
  have hmax : s.size < 4294967296 := by
    rw [hrecv.size]
    unfold uiExpectedPacketCount DATA_PAYLOAD_PER_ONE_IMAGE_FRAME UINT16_MAX at hn
    omega
  have hcrc : b.finalCRC = b.mgmt.uiCRC := by
    rw [hinv.finalCRC_inside hreceived (fun ht => Nat.le_of_lt (hin ht)) hmax, hrecv.size, hread,
      hinv.crc, hrecv.crc]
  cases hout with
  | tooLarge hlarge =>
      rw [hbtl, hsize] at hlarge
      omega
  | tooMany hmany =>
      rw [hbtl, hsize] at hmany
      have := hmany.1
      omega
  | @checked img r hmax' hrec hchk =>
      rw [hbtl, hsize] at hrec
      have himg : img = b.img := by
        cases hrec with
        | none _ => rfl
        | gap hlt _ => omega
      subst himg
      rw [hbtl] at hchk
      cases hchk with
      | pending hp =>
          have hp' : 0 < uiGetPendingLostPacketCount b.img := hp
          omega
      | gaveUp e hw hp why =>
          exfalso
          cases why with
          | incomplete hbad => exact hbad (hreceived.trans hinv.size.symm)
          | unrecovered ht hbad =>
              have hbad' : b.img.uiRecoveredPacketCount < b.img.uiLostPacketCount := hbad
              omega
          | readFailed ht hbad =>
              refine hbad ⟨henv.read, slot, hopen, ?_⟩
              have hin' := hin ht
              have hfits := hinv.size_fits
              have harea : b.mgmt.uiFlashAreaSize = slot.fa_size := h.base.size hinit
              show b.img.uiReadOffset + b.uiBytesToRead ≤ _
              unfold FWImgCtrl.uiReadOffset Btl.uiBytesToRead
              rw [hinv.size]
              omega
          | crcMismatch hbad => exact hbad hcrc
      | stopped hw why hp =>
          have hnone : b.flashArea = none := why
          rw [hopen] at hnone
          cases hnone
      | @completed b₁ hw hflash hck =>
          obtain ⟨hreb, hhalt, hfl⟩ := markCompleted_reboot (henv.upgrade 0)
            (j := { j with btl := b₁ }) hcmd
          simp only [handlerResult]
          refine ⟨?_, hreb, ?_⟩
          · rw [hhalt]
            exact hw.halted.trans h.running
          · rw [hfl]
            show b₁.flash.read _ _ = _
            rw [hflash]
            exact hread

/-! ## §5. A delivery that begins with an end announcement. -/

/-- The image is being written, and the machine has not stopped. -/
def Writing (b : Btl) : Prop := b.halted = none ∧ b.mgmt.eBtlState = .fwImgWriteInProg

/-- While the image is being written the management record stands. -/
theorem Transition.mgmt_eq {env : Env} {ends : Prop} {mark : Obs → Prop} {slot : FlashArea} {b b' : Btl}
    (hb : Base slot b) (h : Transition env ends mark b b') (hw : Writing b) (hw' : Writing b') :
    b'.mgmt = b.mgmt := by
  cases h with
  | kept h => exact h.work.mgmt
  | ended h => exact absurd hw'.2 h.state.1
  | started h =>
      have hidle := h.was_idle
      rw [hw.2] at hidle
      cases hidle
  | accepted hstate hlen hadm hopen hin h hst => exact (endPacket_work _ hb.first h).1
  | missing hends hstate hmax hrec => rfl
  | completed hends hstate hmax hrec hwork hflash hc h => exact absurd hw'.2 h.state.1
  | nullHandle h hstate why htouched => cases hw'.1
  | rebooted hm hs hlog hfa h => exact hm

/-- An accepted end announcement has passed the checks. -/
theorem checked_of_reboot {slot : FlashArea} {b : Btl} {f : CanFrame} {env : Env}
    (hb : Base slot b) (hw : Writing b) (hc : Carries f .fwUpEnd [])
    (hreb : (step b (.frame f, env)).mgmt.eBtlState = .reboot) :
    uiExpectedPacketCount b.mgmt.uiFWImgSize ≤ UINT16_MAX ∧
      ∃ img, Records b.img (uiExpectedPacketCount b.mgmt.uiFWImgSize) img ∧
        Checked { b with img := img } := by
  have hinit := hb.initialized hw.2
  have hk := step_host env hw.1 hinit hc (.inr (.inr ⟨rfl, rfl⟩))
  rw [hk.work.mgmt, vUpdateBootloader_fwUpEnd hw.2 hinit] at hreb
  clear hk
  have hout := vFinalizeFWImageWrite_outcome env { btl := b, msg := hostMsg .fwUpEnd [] } hw.2
  generalize vFinalizeFWImageWrite env { btl := b, msg := hostMsg .fwUpEnd [] } = r at hout hreb
  -- every other outcome leaves the state in progress or in error
  have hprog : b.mgmt.eBtlState ≠ .reboot := by
    rw [hw.2]
    decide
  cases hout with
  | tooLarge h => cases hreb
  | tooMany h => cases hreb
  | checked hmax hrec hchk =>
      cases hchk with
      | pending hp => exact absurd hreb hprog
      | gaveUp e hwork hp why => cases hreb
      | @stopped b₁ hwork why hp =>
          have hm : b₁.mgmt = b.mgmt := hwork.mgmt
          have hst : b₁.mgmt.eBtlState = .reboot := hreb
          rw [hm] at hst
          exact absurd hst hprog
      | completed hwork hflash hck => exact ⟨hmax, _, hrec, hck⟩

/-- The session has missed its first packet before the handle was opened. -/
structure Unopened (slot : FlashArea) (b : Btl) : Prop where
  writing : Writing b
  base : Base slot b
  touched : ¬ b.img.untouched
  closed : b.flashArea = none
  triggered : b.img.bLostPacketStateTriggered = true
  first : b.img.uiFirstLostPacketId = 0

/-- Recording more ids leaves the first lost packet as it is. -/
theorem Records.first_lost {img img' : FWImgCtrl} {n : Nat} (h : Records img n img')
    (ht : img.bLostPacketStateTriggered = true) :
    img'.bLostPacketStateTriggered = true ∧
      img'.uiFirstLostPacketId = img.uiFirstLostPacketId := by
  cases h with
  | none _ => exact ⟨ht, rfl⟩
  | gap _ _ => exact ⟨rfl, if_pos ht⟩

theorem Admits.first_lost {img img' : FWImgCtrl} {id : Nat} (h : Admits img id img')
    (ht : img.bLostPacketStateTriggered = true) :
    img'.bLostPacketStateTriggered = true ∧
      img'.uiFirstLostPacketId = img.uiFirstLostPacketId := by
  cases h with
  | next _ => exact ⟨ht, rfl⟩
  | gap _ _ => exact ⟨rfl, if_pos ht⟩
  | pending _ _ _ => exact ⟨ht, rfl⟩

/-- Recovering a packet does not change which one was lost first. -/
theorem vHandleLostPacketRecovery_first (id : Nat) (img : FWImgCtrl) :
    (vHandleLostPacketRecovery id img).bLostPacketStateTriggered
        = img.bLostPacketStateTriggered ∧
      (vHandleLostPacketRecovery id img).uiFirstLostPacketId = img.uiFirstLostPacketId := by
  unfold vHandleLostPacketRecovery
  by_cases ht : (!img.bLostPacketStateTriggered) = true
  · rw [if_pos ht]
    exact ⟨rfl, rfl⟩
  · rw [if_neg ht]
    split
    · exact ⟨rfl, rfl⟩
    · split
      · exact ⟨rfl, rfl⟩
      · exact ⟨rfl, rfl⟩

theorem Unopened.kept {slot : FlashArea} {b b' : Btl} (h : Unopened slot b) (hk : Kept b b') :
    Unopened slot b' where
  writing := ⟨hk.work.halted.trans h.writing.1, by rw [hk.work.mgmt]; exact h.writing.2⟩
  base := h.base.kept hk
  touched := by rw [hk.img]; exact h.touched
  closed := hk.flashArea.trans h.closed
  triggered := by rw [hk.img]; exact h.triggered
  first := by rw [hk.img]; exact h.first

theorem Unopened.transition {env : Env} {ends : Prop} {mark : Obs → Prop} {slot : FlashArea} {b b' : Btl}
    (h : Unopened slot b) (htr : Transition env ends mark b b') (hw' : Writing b') :
    Unopened slot b' := by
  have hbase := h.base.transition htr hw'.1
  cases htr with
  | kept hk => exact h.kept hk
  | ended he => exact absurd hw'.2 he.state.1
  | started hs =>
      -- a start needs an idle state, and the session is writing
      have hidle := hs.was_idle
      rw [h.writing.2] at hidle
      cases hidle
  | @accepted id img b₁ data hstate hlen hadm hopen hin hw hst =>
      obtain ⟨ht, hf⟩ := hadm.first_lost h.triggered
      have hloop := hw.afterLoop
      obtain ⟨ht', hf'⟩ := vHandleLostPacketRecovery_first id b₁.img.written
      exact {
        writing := hw'
        base := hbase
        touched := hloop.touched
        closed := by
          -- `beginPacket` opens the area only for an untouched session
          show b₁.flashArea = none
          rw [hw.flashArea]
          unfold Btl.beginPacket
          rw [if_neg h.touched]
          exact h.closed
        triggered := ht'.trans (hloop.triggered.trans ht)
        first := hf'.trans (hloop.first.trans (hf.trans h.first)) }
  | @missing img hends hstate hmax hrec =>
      obtain ⟨ht, hf⟩ := hrec.first_lost h.triggered
      have hprog := hrec.progress
      exact {
        writing := hw'
        base := hbase
        touched := by
          intro hu
          apply h.touched
          -- an end announcement never takes `uiNextId` back to 0
          cases hrec with
          | none _ => exact hu
          | gap hlt _ =>
              have hzero : max b.img.uiNextId (uiExpectedPacketCount b.mgmt.uiFWImgSize) = 0 :=
                hprog.1.symm.trans hu.2
              omega
        closed := h.closed
        triggered := ht
        first := hf.trans h.first }
  | completed hends hstate hmax hrec hwork hflash hc he => exact absurd hw'.2 he.state.1
  | nullHandle hwork hstate why htouched => cases hw'.1
  | rebooted hm hs hlog hfa hh =>
      rw [hw'.1] at hh
      cases hh

theorem Unopened.step {slot : FlashArea} {b : Btl} (h : Unopened slot b) (a : Event × Env)
    (hw' : Writing (step b a)) : Unopened slot (step b a) := by
  obtain ⟨b₀, b₁, hk₀, htr, hk₁⟩ := step_transition h.base h.writing.1 a
  have hw₁ : Writing b₁ :=
    ⟨hk₁.work.halted ▸ hw'.1, hk₁.work.mgmt ▸ hw'.2⟩
  exact ((h.kept hk₀).transition htr hw₁).kept hk₁

/-- Such a session never completes: the check after a loss reads the image
back through the handle. -/
theorem Unopened.not_reboot {slot : FlashArea} {b : Btl} (h : Unopened slot b) {f : CanFrame}
    {env : Env} (hc : Carries f .fwUpEnd [])
    (hmax : b.mgmt.uiFWImgSize < 4294967296) :
    (Bootloader.step b (.frame f, env)).mgmt.eBtlState ≠ .reboot := by
  intro hreb
  obtain ⟨-, img, hrec, hck⟩ := checked_of_reboot h.base h.writing hc hreb
  obtain ⟨ht, hf⟩ := hrec.first_lost h.triggered
  have hpos := h.base.size_pos h.writing.2
  obtain ⟨fa, hfa, -⟩ := hck.range ht (by
    show 0 < (b.mgmt.uiFWImgSize + 4294967296
      - DATA_PAYLOAD_PER_ONE_IMAGE_FRAME * img.uiFirstLostPacketId) % 4294967296
    rw [hf, h.first]
    omega)
  have hnone : b.flashArea = some fa := hfa
  rw [h.closed] at hnone
  cases hnone

/-- An end announcement right after the update request leaves the session
without its handle. -/
theorem unopened_of_end {slot : FlashArea} {b : Btl} {f : CanFrame} {env : Env}
    (hb : Base slot b) (hw : Writing b) (himg : b.img = FWImgCtrl.cleared)
    (hc : Carries f .fwUpEnd []) (hw' : Writing (step b (.frame f, env))) :
    Unopened slot (step b (.frame f, env)) := by
  have hinit := hb.initialized hw.2
  have hbase := hb.step hw.1 (.frame f, env) hw'.1
  have hk := step_host env hw.1 hinit hc (.inr (.inr ⟨rfl, rfl⟩))
  rw [vUpdateBootloader_fwUpEnd hw.2 hinit] at hk
  generalize step b (.frame f, env) = b' at hk hw' hbase ⊢
  have hout := vFinalizeFWImageWrite_outcome env { btl := b, msg := hostMsg .fwUpEnd [] } hw.2
  generalize vFinalizeFWImageWrite env { btl := b, msg := hostMsg .fwUpEnd [] } = r at hout hk
  have hw₁ : Writing (handlerResult r) := ⟨hk.work.halted ▸ hw'.1, hk.work.mgmt ▸ hw'.2⟩
  -- nothing has been received, so the area is still closed
  have hclosed : b.flashArea = none := hb.first (by rw [himg]; exact ⟨rfl, rfl⟩)
  cases hout with
  | tooLarge h => cases hw₁.2
  | tooMany h => cases hw₁.2
  | @checked img r hmax hrec hchk =>
      have hpos : 0 < uiExpectedPacketCount b.mgmt.uiFWImgSize := by
        rw [lt_uiExpectedPacketCount]
        exact hb.size_pos hw.2
      cases hchk with
      | pending hp =>
          have hrec' : Records FWImgCtrl.cleared (uiExpectedPacketCount b.mgmt.uiFWImgSize) img :=
            himg ▸ hrec
          have hprog := hrec'.progress
          cases hrec' with
          | none hle =>
              -- the image has a packet, so packet 0 is missing
              have hle' : uiExpectedPacketCount b.mgmt.uiFWImgSize ≤ 0 := hle
              omega
          | gap hlt hcount =>
              -- all packets are recorded as lost, and `uiNextId` is no longer 0
              exact {
                writing := hw'
                base := hbase
                touched := by
                  rw [hk.img]
                  intro hu
                  have hzero : max 0 (uiExpectedPacketCount b.mgmt.uiFWImgSize) = 0 :=
                    hprog.1.symm.trans hu.2
                  omega
                closed := hk.flashArea.trans hclosed
                triggered := by rw [hk.img]; rfl
                first := by rw [hk.img]; rfl }
      | gaveUp e hwork hp why => cases hw₁.2
      | stopped hwork why hp => cases hw₁.1
      | @completed b₁ hwork hflash hck =>
          have hend := markCompleted_ended env
            (j := { btl := b₁, msg := hostMsg .fwUpEnd [] }) rfl
          exact absurd hw₁.2 hend.state.1

/-! ## §6. The whole delivery. -/

/-- The controller after the update request and some deliveries. -/
def afterDeliveries (b : Btl) (request : Event × Env) (ds : List Delivery) : Btl :=
  (ds.map (·.event)).foldl step (step b request)

theorem afterDeliveries_concat (b : Btl) (request : Event × Env) (ds : List Delivery)
    (d : Delivery) :
    afterDeliveries b request (ds ++ [d]) = step (afterDeliveries b request ds) d.event := by
  unfold afterDeliveries
  rw [List.map_append, List.foldl_append]
  rfl

/-- The update has succeeded: the session is never given up, and the end
announcement after the deliveries leads to the reboot with the image in the
flash. -/
structure Reassembled (image : List UInt8) (b : Btl) (request : Event × Env)
    (ds : List Delivery) (last : Delivery) : Prop where
  writing : ∀ pre post, ds = pre ++ post → Writing (afterDeliveries b request pre)
  halted : (afterDeliveries b request (ds ++ [last])).halted = none
  reboot : (afterDeliveries b request (ds ++ [last])).mgmt.eBtlState = .reboot
  flash : (afterDeliveries b request (ds ++ [last])).flash.read
    FW_IMAGE_SECONDARY_SLOT_WRITE_OFFSET image.length = image

/-- What holds after the request and is kept by every step of a session holds
after all deliveries. -/
theorem afterDeliveries_invariant (request : Event × Env) (pre ds : List Delivery) {b : Btl}
    {I : Btl → Prop} (hstep : ∀ b a, I b → Writing (step b a) → I (step b a))
    (h0 : I (afterDeliveries b request pre))
    (hw : ∀ mid post, pre ++ ds = mid ++ post → Writing (afterDeliveries b request mid)) :
    I (afterDeliveries b request (pre ++ ds)) := by
  induction ds using List.reverseRecOn with
  | nil => rwa [List.append_nil]
  | append_singleton ds d ih =>
      have hpre := ih fun mid post hmid => hw mid (post ++ [d]) (by
        rw [← List.append_assoc, hmid, List.append_assoc])
      have hlast := hw (pre ++ ds ++ [d]) [] (by simp)
      rw [← List.append_assoc, afterDeliveries_concat]
      rw [afterDeliveries_concat] at hlast
      exact hstep _ _ hpre hlast

/-- The ids of the packets of an image. -/
theorem packets_ids {image : List UInt8} {packets : List FirmwarePacket}
    (h : buildFwPackets image = some packets) :
    packets.length = uiExpectedPacketCount image.length ∧
      (∀ p ∈ packets, p.packet_id < uiExpectedPacketCount image.length) ∧
      (∀ k < uiExpectedPacketCount image.length, ∃ p ∈ packets, p.packet_id = k) ∧
      ∀ p ∈ packets, ∀ q ∈ packets, p.packet_id = q.packet_id → p = q := by
  obtain ⟨hids, -⟩ := buildFwPackets_spec h
  refine ⟨?_, ?_, ?_, ?_⟩
  · have := congrArg List.length hids
    rwa [List.length_map, List.length_range] at this
  · intro p hp
    rw [← List.mem_range, ← hids]
    exact List.mem_map_of_mem (f := (·.packet_id)) hp
  · intro k hk
    rw [← List.mem_range, ← hids] at hk
    exact List.mem_map.mp hk
  · intro p hp q hq hpq
    have hnodup : (packets.map (·.packet_id)).Nodup := by
      rw [hids]
      exact List.nodup_range
    exact List.inj_on_of_nodup_map hnodup hp hq hpq

/-- A delivery that does not begin with an end announcement keeps `Receiving`. -/
theorem receiving_of_schedule {slot : FlashArea} {image : List UInt8}
    {packets : List FirmwarePacket} {b : Btl} {request : Event × Env} {ds : List Delivery}
    (haligned : FW_IMG_WRITE_BYTE_LENGTH ∣ slot.fa_size)
    (hpackets : buildFwPackets image = some packets)
    (hn : uiExpectedPacketCount image.length ≤ UINT16_MAX) (hs : Schedule packets ds)
    (hfirst : ∀ d, ds.head? = some d → d.send ≠ .fwUpEnd)
    (h0 : Receiving slot image [] (step b request)) {pre post : List Delivery}
    (hsplit : ds = pre ++ post) :
    Receiving slot image (pre.map (·.send)) (afterDeliveries b request pre) := by
  obtain ⟨hlen, hbelow, -, hinj⟩ := packets_ids hpackets
  -- induction on the deliveries made, the newest one last
  induction pre using List.reverseRecOn generalizing post with
  | nil => exact h0
  | append_singleton pre d ih =>
      have hsplit' : ds = pre ++ d :: post := by
        rw [hsplit, List.append_assoc]
        rfl
      have hpre := ih hsplit'
      have hsound : d.Sound packets := hs.sound d (by rw [hsplit']; simp)
      have hcarries := hsound.carries
      -- the packets skipped so far are at most those of the whole delivery
      have hfew : (progress (uiExpectedPacketCount image.length)
          (pre.map (·.send) ++ [d.send])).skipped ≤ MAX_NUMBER_OF_ALLOWABLE_LOST_PACKETs := by
        have hall : ds.map (·.send) = (pre.map (·.send) ++ [d.send]) ++ post.map (·.send) := by
          rw [hsplit', List.map_append, List.map_cons, List.append_assoc]
          rfl
        refine Nat.le_trans ?_ hs.few
        rw [hlen, hall]
        exact skipped_le_append _ _ _
      rw [afterDeliveries_concat, List.map_append, List.map_singleton]
      unfold Delivery.event
      cases hd : d.send with
      | packet p =>
          rw [hd] at hcarries hfew
          have hp := hsound.host p hd
          exact hpre.packet haligned ((buildFwPackets_spec hpackets).2 p hp) (hbelow p hp) hn
            hcarries hsound.succeeds hfew
      | fwUpEnd =>
          rw [hd] at hcarries hfew
          -- an end announcement comes while a packet is still missing
          obtain ⟨p, hp, hmiss⟩ := hs.ends pre d post hsplit' hd
          refine hpre.missing ?_ hn hcarries (hbelow p hp) ?_ hfew
          · intro hnil
            rw [List.map_eq_nil_iff.mp hnil, List.nil_append] at hsplit'
            exact hfirst d (by rw [hsplit']; rfl) hd
          · rintro ⟨q, hq, hqp⟩
            obtain ⟨d', hd', hq'⟩ := List.mem_map.mp hq
            have hqmem : q ∈ packets :=
              (hs.sound d' (by rw [hsplit']; exact List.mem_append_left _ hd')).host q hq'
            rw [hinj q hqmem p hp hqp] at hq
            exact hmiss hq

/-- **End-to-end reassembly.**  Let the host send the update request and the
packets of an image that fits the partition, from the idle state, with no call
failing and no timer expiring.  For every delivery that skips over at most 100
ids the update succeeds exactly when the image has at most 65535 packets and
the delivery does not begin with an end announcement. -/
theorem image_reassembled {slot : FlashArea} {b : Btl} (hreach : (machine slot).Reachable b)
    (hrun : b.halted = none) (hidle : b.mgmt.eBtlState = .idle)
    (hinit : b.mgmt.bIsInitialized = true) (haligned : FW_IMG_WRITE_BYTE_LENGTH ∣ slot.fa_size)
    {image request : List UInt8} {packets : List FirmwarePacket}
    (hfits : image.length ≤ slot.fa_size - FW_IMAGE_SECONDARY_SLOT_WRITE_OFFSET)
    (hrequest : buildFwUpdateRequest image = some request)
    (hpackets : buildFwPackets image = some packets)
    {f : CanFrame} (hf : Carries f .fwUpReq request) {env : Env} (henv : env.Succeeds)
    {ds : List Delivery} (hs : Schedule packets ds)
    {last : Delivery} (hlast : last.Sound packets) (hend : last.send = .fwUpEnd) :
    Reassembled image b (.frame f, env) ds last ↔
      packets.length ≤ UINT16_MAX ∧ ∀ d, ds.head? = some d → d.send ≠ .fwUpEnd := by
  obtain ⟨hlen, hbelow, hall, -⟩ := packets_ids hpackets
  obtain ⟨-, hpos, -⟩ := buildFwUpdateRequest_spec hrequest
  have hbase := base_of_reachable hreach hrun
  obtain ⟨h0, himg⟩ := Receiving.request hbase hrun hidle hinit (by omega) hrequest hf henv
  have hcarries := hlast.carries
  rw [hend] at hcarries
  rw [hlen]
  constructor
  · intro hR
    have hreb := hR.reboot
    rw [afterDeliveries_concat] at hreb
    obtain ⟨s, -, hinv, hrecv⟩ := h0.session
    -- the size stands until the last announcement
    have hsized := afterDeliveries_invariant (.frame f, env) [] ds (b := b)
      (I := fun b' => Base slot b' ∧ Writing b' ∧ b'.mgmt.uiFWImgSize = image.length)
      (by
        rintro b' a ⟨hb', hw, hsz⟩ hw'
        obtain ⟨b₀, b₁, hk₀, htr, hk₁⟩ := step_transition hb' hw.1 a
        have hw₀ : Writing b₀ := ⟨hk₀.work.halted.trans hw.1, by rw [hk₀.work.mgmt]; exact hw.2⟩
        have hw₁ : Writing b₁ := ⟨hk₁.work.halted ▸ hw'.1, hk₁.work.mgmt ▸ hw'.2⟩
        refine ⟨hb'.step hw.1 a hw'.1, hw', ?_⟩
        rw [hk₁.work.mgmt, htr.mgmt_eq (hb'.kept hk₀) hw₀ hw₁, hk₀.work.mgmt]
        exact hsz)
      ⟨h0.base, ⟨h0.running, h0.state⟩, hinv.size.trans hrecv.size⟩
      (fun mid post hmid => hR.writing mid post hmid)
    rw [List.nil_append] at hsized
    obtain ⟨hb', hw', hsz⟩ := hsized
    obtain ⟨hmax, -⟩ := checked_of_reboot hb' hw' hcarries hreb
    rw [hsz] at hmax
    refine ⟨hmax, ?_⟩
    intro d hhead hd
    obtain ⟨rest, rfl⟩ : ∃ rest, ds = d :: rest := by
      cases ds with
      | nil => cases hhead
      | cons d' rest =>
          cases hhead
          exact ⟨rest, rfl⟩
    have hcd := (hs.sound d List.mem_cons_self).carries
    rw [hd] at hcd
    -- the handle stays closed until the last announcement
    have hfirst : Unopened slot (afterDeliveries b (.frame f, env) [d]) :=
      unopened_of_end h0.base ⟨h0.running, h0.state⟩ himg hcd (hR.writing [d] rest rfl)
    have hunopened := afterDeliveries_invariant _ _ rest (I := Unopened slot)
      (fun b' a hb' hw' => hb'.step a hw') hfirst hR.writing
    refine hunopened.not_reboot hcarries ?_ hreb
    show (afterDeliveries b (.frame f, env) (d :: rest)).mgmt.uiFWImgSize < _
    rw [hsz]
    unfold uiExpectedPacketCount DATA_PAYLOAD_PER_ONE_IMAGE_FRAME UINT16_MAX at hmax
    omega
  · rintro ⟨hn, hfirst⟩
    have hrecv : ∀ pre post, ds = pre ++ post →
        Receiving slot image (pre.map (·.send)) (afterDeliveries b (.frame f, env) pre) :=
      fun pre post hsplit => receiving_of_schedule haligned hpackets hn hs hfirst h0 hsplit
    have hdone := hrecv ds [] (by simp)
    obtain ⟨hhalt, hreb, hflash⟩ := hdone.finish (f := last.frame) hn hcarries hlast.succeeds
      (by
        intro p hp
        obtain ⟨d, hd, hdp⟩ := List.mem_map.mp hp
        exact hbelow p ((hs.sound d hd).host p hdp))
      (by
        intro k hk
        obtain ⟨p, hp, hpk⟩ := hall k hk
        exact ⟨p, hs.complete p hp, hpk⟩)
    exact {
      writing := fun pre post hsplit => ⟨(hrecv pre post hsplit).running, (hrecv pre post hsplit).state⟩
      halted := by rw [afterDeliveries_concat]; exact hhalt
      reboot := by rw [afterDeliveries_concat]; exact hreb
      flash := by rw [afterDeliveries_concat]; exact hflash }

/-- An image of two packets, and its update. -/
def twoPackets : List UInt8 := (List.range 60).map UInt8.ofNat
def twoPacketsRequest : List UInt8 := (buildFwUpdateRequest twoPackets).getD []
def packetOfTwo (i : Nat) : FirmwarePacket :=
  (buildFwPacket twoPackets i).getD { packet_id := 0, offset := 0, valid_len := 0, payload := [] }

/-- The second packet arrives first, the end is announced too early, and the
first packet is sent again. -/
theorem image_reassembled_recovered :
    Reassembled twoPackets (bInitBootloaderController ⟨0x4000⟩ (fun _ => 0) Env.success)
      (.frame (bridgeFrame .fwUpReq twoPacketsRequest), Env.success)
      [(Send.packet (packetOfTwo 1)).deliver, Send.fwUpEnd.deliver,
        (Send.packet (packetOfTwo 0)).deliver] Send.fwUpEnd.deliver := by
  have hreach : (machine ⟨0x4000⟩).Reachable
      (bInitBootloaderController ⟨0x4000⟩ (fun _ => 0) Env.success) := .init ⟨_, _, rfl⟩
  have hpackets : buildFwPackets twoPackets = some [packetOfTwo 0, packetOfTwo 1] := by
    decide +kernel
  have hschedule : Schedule [packetOfTwo 0, packetOfTwo 1]
      [(Send.packet (packetOfTwo 1)).deliver, Send.fwUpEnd.deliver,
        (Send.packet (packetOfTwo 0)).deliver] := {
    sound := by
      intro d hd
      simp only [List.mem_cons, List.not_mem_nil, or_false] at hd
      rcases hd with rfl | rfl | rfl
      · exact Send.deliver_sound (by decide +kernel) fun p hp => by cases hp; simp
      · exact Send.deliver_sound (by decide) fun p hp => by cases hp
      · exact Send.deliver_sound (by decide +kernel) fun p hp => by cases hp; simp
    complete := by simp [Send.deliver]
    ends := by
      intro pre d post hsplit hd
      refine ⟨packetOfTwo 0, by simp, ?_⟩
      -- only the announcement is an end, and the second packet is before it
      rcases pre with _ | ⟨d₁, _ | ⟨d₂, _ | ⟨d₃, pre⟩⟩⟩
      · simp
      · cases hsplit
        decide +kernel
      · cases hsplit
        cases hd
      · simp at hsplit
    few := by decide +kernel }
  refine (image_reassembled hreach (by decide +kernel) (by decide +kernel) (by decide +kernel)
    (by decide) (by decide +kernel) (by decide +kernel) hpackets
    (carries_bridgeFrame (by decide +kernel)) Env.success_succeeds hschedule
    (Send.deliver_sound (by decide) fun p hp => by cases hp) rfl).mpr ⟨by decide, ?_⟩
  intro d hd
  cases hd
  decide

/-- An image of one packet, and its update. -/
def onePacket : List UInt8 := (List.range 48).map UInt8.ofNat
def onePacketRequest : List UInt8 := (buildFwUpdateRequest onePacket).getD []
def packetOfOne : FirmwarePacket :=
  (buildFwPacket onePacket 0).getD { packet_id := 0, offset := 0, valid_len := 0, payload := [] }

/-- Without the condition it fails: announce the end of the image first, then
deliver its only packet.  The packet is written through the null handle. -/
theorem image_not_reassembled :
    ¬ ∀ (slot : FlashArea) (b : Btl) (image request : List UInt8)
      (packets : List FirmwarePacket) (f : CanFrame) (env : Env) (ds : List Delivery)
      (last : Delivery),
      (machine slot).Reachable b → b.halted = none → b.mgmt.eBtlState = .idle →
      b.mgmt.bIsInitialized = true → FW_IMG_WRITE_BYTE_LENGTH ∣ slot.fa_size →
      image.length ≤ slot.fa_size - FW_IMAGE_SECONDARY_SLOT_WRITE_OFFSET →
      buildFwUpdateRequest image = some request → buildFwPackets image = some packets →
      Carries f .fwUpReq request → env.Succeeds → Schedule packets ds →
      last.Sound packets → last.send = .fwUpEnd →
      Reassembled image b (.frame f, env) ds last := by
  intro hall
  have hreach : (machine ⟨0x4000⟩).Reachable
      (bInitBootloaderController ⟨0x4000⟩ (fun _ => 0) Env.success) := .init ⟨_, _, rfl⟩
  have hpackets : buildFwPackets onePacket = some [packetOfOne] := by decide +kernel
  have hschedule : Schedule [packetOfOne]
      [Send.fwUpEnd.deliver, (Send.packet packetOfOne).deliver] := {
    sound := by
      intro d hd
      simp only [List.mem_cons, List.not_mem_nil, or_false] at hd
      rcases hd with rfl | rfl
      · exact Send.deliver_sound (by decide) fun p hp => by cases hp
      · exact Send.deliver_sound (by decide +kernel) fun p hp => by cases hp; simp
    complete := by simp [Send.deliver]
    ends := by
      intro pre d post hsplit hd
      refine ⟨packetOfOne, by simp, ?_⟩
      rcases pre with _ | ⟨d₁, _ | ⟨d₂, pre⟩⟩
      · simp
      · cases hsplit
        cases hd
      · simp at hsplit
    few := by decide +kernel }
  have hR := hall ⟨0x4000⟩ _ onePacket onePacketRequest [packetOfOne]
    (bridgeFrame .fwUpReq onePacketRequest) Env.success _ Send.fwUpEnd.deliver hreach
    (by decide +kernel) (by decide +kernel) (by decide +kernel) (by decide) (by decide +kernel)
    (by decide +kernel) hpackets (carries_bridgeFrame (by decide +kernel)) Env.success_succeeds
    hschedule (Send.deliver_sound (by decide) fun p hp => by cases hp) rfl
  -- the machine has stopped before the last announcement
  have hrun := (hR.writing _ [] (List.append_nil _).symm).1
  have hstopped : (afterDeliveries
      (bInitBootloaderController ⟨0x4000⟩ (fun _ => 0) Env.success)
      (.frame (bridgeFrame .fwUpReq onePacketRequest), Env.success)
      [Send.fwUpEnd.deliver, (Send.packet packetOfOne).deliver]).halted
        = some .nullFlashArea := by
    decide +kernel
  rw [hstopped] at hrun
  cases hrun

end WallController.Bootloader
