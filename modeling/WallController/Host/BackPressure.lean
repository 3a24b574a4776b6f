/-
  WallController.Host.BackPressure
  ────────────────────────────────
  **WHAT A FULL QUEUE DOES TO AN UPLOAD.**

  The controller answers a `DATA` frame that finds the queue full with
  `QueueFull`, leaves its counters as they are and waits for the same frame
  again.  `send_pc_uart_command` raises on every refusal, so the host never
  sends it again.

  Main results:
    * `upload_completes`: as long as no frame finds the queue full, every
      upload is refused at its `START` or comes to its end with the file stored.
    * `not_upload_completes`: eleven frames, and a worker that is late.
-/
import WallController.Host.UploadStages

namespace WallController.Host

open WallController.Lib WallController.PCUart WallController.LittleFs

variable {fileType : Nat} {fileName : String} {fileData : List UInt8} {u u' : Upload}

/-! ## §1. With room in the queue. -/

theorem Upload.Begins.onTrack (h : u.Begins fileType fileName fileData) :
    u.OnTrack fileType fileName fileData ⟨0, [], 0, 0, by decide⟩ [] .closed where
  inv := inv_of_reachable h.reachable
  calm := h.calm
  debug := h.debug
  sequence := h.sequence
  selected := h.selected
  hub := h.hub
  fits := .nil
  phase := by
    rw [h.pc, h.port, h.wire, h.waiting]
    exact .opening
  stands := by
    rw [h.waiting]
    exact ⟨h.uart, h.alone⟩

/-- **An upload completes as long as no frame finds the queue full**: whatever the order
of the steps, and however late the worker, `START` is refused, or all calls return and the
file holds the data. -/
theorem upload_completes (h : (uploadSystem fileType fileName fileData).init u) :
    (uploadSystem fileType fileName fileData).Inevitable Smoothly
      (fun u => u.Refused fileType fileName fileData ∨ u.Delivered fileType fileName fileData) u := by
  have hbegins : u.Begins fileType fileName fileData := h
  refine TransSys.Inevitable.of_measure
    (I := fun u => ∃ r ms g, u.OnTrack fileType fileName fileData r ms g) Upload.distance ?_ ?_
    ⟨_, _, _, hbegins.onTrack⟩
  · intro u a u' hi _ hok hst
    obtain ⟨r, ms, g, hon⟩ := hi
    exact hon.step hok hst
  · intro u hi _
    obtain ⟨r, ms, g, hon⟩ := hi
    exact hon.progress

/-- The operation has been selected, and the controller has just been started. -/
def Upload.opened (fileType : Nat) (fileName : String) (fileData : List UInt8) (files : Files) :
    Upload where
  client := ⟨0, some OPERATION_LOCAL_BULK_FILE, [], []⟩
  pc := .calls (transferCalls fileType fileName fileData)
  wire := []
  api := Api.boot
  service := ⟨⟨.localBulkFile, false⟩, Bulk.boot files, none⟩

theorem begins_opened (fileType : Nat) (fileName : String) (fileData : List UInt8)
    (files : Files) :
    (uploadSystem fileType fileName fileData).init (.opened fileType fileName fileData files) where
  selected := rfl
  sequence := Nat.zero_le _
  port := rfl
  pc := rfl
  wire := rfl
  debug := rfl
  waiting := rfl
  hub := rfl
  reachable := .init ⟨files, rfl⟩
  uart := rfl
  calm := ⟨rfl, rfl⟩
  alone := ⟨rfl, rfl⟩

/-- A file of three bytes on a fresh controller. -/
theorem upload_completes_three_bytes :
    (uploadSystem 1 "a.bin" [0x41, 0x42, 0x43]).Inevitable Smoothly
      (fun u => u.Refused 1 "a.bin" [0x41, 0x42, 0x43] ∨ u.Delivered 1 "a.bin" [0x41, 0x42, 0x43])
      (.opened 1 "a.bin" [0x41, 0x42, 0x43] fun _ => none) :=
  upload_completes (begins_opened 1 "a.bin" [0x41, 0x42, 0x43] fun _ => none)

/-! ## §2. One call, with the worker at rest. -/

/-- Every run without faults comes to the end of the upload. -/
def Upload.Completes (fileType : Nat) (fileName : String) (fileData : List UInt8) (u : Upload) :
    Prop :=
  (uploadSystem fileType fileName fileData).Inevitable Faultless
    (fun u => u.Refused fileType fileName fileData ∨ u.Delivered fileType fileName fileData) u

/-- The host is before its next call, and the service between two. -/
structure Upload.Ready (todo : List BulkCall) (hub : Hub) (b : Bulk) (u : Upload) : Prop where
  pc : u.pc = .calls todo
  port : u.client.port = []
  wire : u.wire = []
  debug : u.api.bUARTDebugNextFrame = false
  sequence : u.client.sequence ≤ 0xFFFF
  selected : u.client.selectedOperation = some OPERATION_LOCAL_BULK_FILE
  service : u.service = ⟨hub, b, none⟩
  idle : b.uart = .idle

/-- The response to a call has come. -/
structure Upload.Answered (call : BulkCall) (todo : List BulkCall) (eError : Error) (hub : Hub)
    (b : Bulk) (u : Upload) : Prop where
  pc : ∃ sequence, u.pc = .waiting call sequence todo
  port : u.client.port
    = [if eError = .none then PC_UART_PROTOCOL_ACK else PC_UART_PROTOCOL_NACK, eError.toByte]
  wire : u.wire = []
  debug : u.api.bUARTDebugNextFrame = false
  sequence : u.client.sequence ≤ 0xFFFF
  selected : u.client.selectedOperation = some OPERATION_LOCAL_BULK_FILE
  service : u.service = ⟨hub, b, none⟩

variable {call : BulkCall} {todo : List BulkCall} {hub hub' : Hub} {b b' : Bulk} {c : Call}
  {puiPayload : List UInt8} {reply : Reply} {eError : Error}

/-- While the host waits for a response, the upload has not come to its end. -/
theorem not_over_waiting {sequence : Nat} (hpc : u.pc = .waiting call sequence todo) :
    ¬ (u.Refused fileType fileName fileData ∨ u.Delivered fileType fileName fileData) := by
  intro h
  rcases h with ⟨error, hpc'⟩ | ⟨hpc', -⟩
  · rw [hpc] at hpc'
    cases hpc'
  · rw [hpc] at hpc'
    cases hpc'

theorem not_over_calls (hpc : u.pc = .calls (call :: todo)) :
    ¬ (u.Refused fileType fileName fileData ∨ u.Delivered fileType fileName fileData) := by
  intro h
  rcases h with ⟨error, hpc'⟩ | ⟨hpc', -⟩
  · rw [hpc] at hpc'
    cases hpc'
  · rw [hpc] at hpc'
    cases hpc'

theorem Upload.Completes.next (h : u.Completes fileType fileName fileData)
    (hover : ¬ (u.Refused fileType fileName fileData ∨ u.Delivered fileType fileName fileData))
    (a : UploadAct) (hok : Faultless u a) (hst : u.step a = some u') :
    u'.Completes fileType fileName fileData :=
  TransSys.Inevitable.next h hover hok hst

/-- The steps of a call, one after the other. -/
theorem Upload.Completes.inCalls {sequence : Nat} (n : Nat)
    (h : u.Completes fileType fileName fileData) (hpc : u.pc = .waiting call sequence todo)
    (hrun : (List.replicate n (Act.uart (.healthy 0))).foldlM Bulk.step u.service.bulk = some b') :
    ({ u with service := { u.service with bulk := b' } } : Upload).Completes fileType fileName
      fileData := by
  induction n generalizing u with
  | zero =>
      cases hrun
      exact h
  | succ n ih =>
      rw [List.replicate_succ, List.foldlM_cons] at hrun
      obtain ⟨b₁, h₁, hrun⟩ := Option.bind_eq_some_iff.mp hrun
      have hst : u.step (.inCall (.healthy 0))
          = some { u with service := { u.service with bulk := b₁ } } := by
        show u.serviceStep (.inCall (.healthy 0)) = _
        unfold Upload.serviceStep
        show ((u.service.bulk.step (.uart (.healthy 0))).map _).map _ = _
        rw [h₁]
        rfl
      have hok : Faultless u (.inCall (.healthy 0)) := by
        refine ⟨rfl, ?_⟩
        cases u.service.bulk.uart with
        | end_ pc => exact ⟨Int.le_refl 0, Int.le_refl 0, Int.le_refl 0⟩
        | idle => trivial
        | start r pc => trivial
        | data m pc => trivial
        | returned reply => trivial
      have hnext := h.next (not_over_waiting hpc) _ hok hst
      have hlast := ih hnext hpc hrun
      exact hlast

/-- A call goes to the controller and comes back, while the worker is late. -/
theorem Upload.Ready.answered {n : Nat} (h : u.Ready (call :: todo) hub b)
    (hleads : LeadsTo hub call puiPayload c)
    (hrun : (List.replicate n (Act.uart (.healthy 0))).foldlM Bulk.step { b with uart := c.entry }
      = some b')
    (hreply : b'.uart = .returned reply) (hresume : resume hub c reply = (hub', eError))
    (hcompletes : u.Completes fileType fileName fileData) :
    ∃ u' : Upload, u'.Completes fileType fileName fileData
      ∧ u'.Answered call todo eError hub' { b' with uart := .idle } := by
  -- the frame goes to the line
  have hsend : u.hostStep = some (u.send call todo puiPayload) := by
    unfold Upload.hostStep
    rw [h.pc]
    dsimp only
    rw [h.selected, hleads.payload]
  have h₁ := hcompletes.next (not_over_calls h.pc) .host trivial hsend
  rw [send_eq h.sequence hleads.length, h.wire, List.nil_append] at h₁
  generalize hu₁ : ({ u with
    client := { u.client with sequence := (u.client.sequence + 1) &&& 0xFFFF }
    wire := uartFrame (UInt8.ofNat call.command) (UInt16.ofNat u.client.sequence) puiPayload
    pc := .waiting call u.client.sequence todo } : Upload) = u₁ at h₁
  have hpc₁ : u₁.pc = .waiting call u.client.sequence todo := by rw [← hu₁]
  have hservice₁ : u₁.service = ⟨hub, b, none⟩ := by rw [← hu₁]; exact h.service
  have hwire₁ : u₁.wire
      = uartFrame (UInt8.ofNat call.command) (UInt16.ofNat u.client.sequence) puiPayload := by
    rw [← hu₁]
  have hport₁ : u₁.client.port = [] := by rw [← hu₁]; exact h.port
  have hdebug₁ : u₁.api.bUARTDebugNextFrame = false := by rw [← hu₁]; exact h.debug
  have hsequence₁ : u₁.client.sequence ≤ 0xFFFF := by rw [← hu₁]; exact Nat.and_le_right
  have hselected₁ : u₁.client.selectedOperation = some OPERATION_LOCAL_BULK_FILE := by
    rw [← hu₁]
    exact h.selected
  -- the controller reads it and enters the call
  have hleads₁ : LeadsTo u₁.service.hub call puiPayload c := by rw [hservice₁]; exact hleads
  have hread := readStep_eq ⟨true, 0, true⟩ hdebug₁ (by rw [hservice₁])
    (by rw [hservice₁]; exact h.idle) hwire₁ hleads₁
  have h₂ := h₁.next (not_over_waiting hpc₁) (.read ⟨true, 0, true⟩) trivial hread
  rw [hservice₁, hport₁] at h₂
  -- the steps of the call
  have h₃ := Upload.Completes.inCalls n h₂ hpc₁ hrun
  have hanswer := answerStep_eq (u := { u₁ with
    client := { u₁.client with port := [] ++ [] }
    wire := []
    api := { u₁.api with sent := [] }
    service := ⟨hub, b', some c⟩ }) rfl hreply hresume
  have h₄ := h₃.next (not_over_waiting hpc₁) .answer trivial hanswer
  exact ⟨_, h₄, ⟨_, hpc₁⟩, rfl, rfl, rfl, hsequence₁, hselected₁, rfl⟩

/-- The call is accepted, and the host goes on. -/
theorem Upload.Answered.ack (h : u.Answered call todo .none hub b) (hcall : call ≠ .end_)
    (hidle : b.uart = .idle) (hcompletes : u.Completes fileType fileName fileData) :
    ∃ u' : Upload, u'.Completes fileType fileName fileData ∧ u'.Ready todo hub b := by
  obtain ⟨sequence, hpc⟩ := h.pc
  have hst : u.hostStep = some (u.respond call sequence todo) := by
    rw [hostStep_waiting hpc, h.port]
    exact if_neg (Nat.lt_irrefl 2)
  have hnext := hcompletes.next (not_over_waiting hpc) .host trivial hst
  rw [respond_ack h.port, finish_of_ne hcall] at hnext
  exact ⟨_, hnext, rfl, rfl, h.wire, h.debug, h.sequence, h.selected, h.service, hidle⟩

/-- Only the host moves its worker. -/
theorem step_pc {a : UploadAct} (ha : a ≠ .host) (hst : u.step a = some u') : u'.pc = u.pc := by
  have hservice : ∀ {a : ServiceAct}, u.serviceStep a = some u' → u'.pc = u.pc := by
    intro a hst
    unfold Upload.serviceStep at hst
    obtain ⟨service, -, rfl⟩ := Option.map_eq_some_iff.mp hst
    rfl
  cases a with
  | host => exact absurd rfl ha
  | inCall env => exact hservice hst
  | worker env => exact hservice hst
  | tail i => exact hservice hst
  | handler env => exact hservice hst
  | answer =>
      have hst : u.answerStep = some u' := hst
      unfold Upload.answerStep at hst
      split at hst
      · obtain ⟨service, -, rfl⟩ := Option.map_eq_some_iff.mp hst
        rfl
      · cases hst
  | read env =>
      have hst : u.readStep env = some u' := hst
      unfold Upload.readStep at hst
      split at hst
      · cases hst
      split at hst
      · cases hst
      · obtain rfl := Option.some.inj hst
        rfl
      · obtain ⟨service, -, rfl⟩ := Option.map_eq_some_iff.mp hst
        dsimp only
        split <;> rfl

/-- **A refused frame is the end**: the host has raised, and goes on no more. -/
theorem Upload.Answered.nack (h : u.Answered call todo eError hub b) (herror : eError ≠ .none)
    (hcall : ∀ fileType fileName fileData, call ≠ .start fileType fileName fileData) :
    ¬ u.Completes fileType fileName fileData := by
  intro hcompletes
  obtain ⟨sequence, hpc⟩ := h.pc
  have hport := h.port
  rw [if_neg herror] at hport
  have hst : u.hostStep = some (u.respond call sequence todo) := by
    rw [hostStep_waiting hpc, hport]
    exact if_neg (Nat.lt_irrefl 2)
  have hnext := hcompletes.next (not_over_waiting hpc) .host trivial hst
  rw [respond_nack hport] at hnext
  refine TransSys.Inevitable.not_of_invariant (I := fun u => ∃ error, u.pc = .raised call error) ?_ ?_
    ⟨_, rfl⟩ hnext
  · intro u a u' hi _ hst
    obtain ⟨error, hpc⟩ := hi
    refine ⟨error, ?_⟩
    rw [step_pc ?_ hst, hpc]
    intro ha
    rw [ha] at hst
    have hst : u.hostStep = some u' := hst
    unfold Upload.hostStep at hst
    rw [hpc] at hst
    cases hst
  · intro u hi hover
    obtain ⟨error, hpc⟩ := hi
    rcases hover with ⟨error', hpc'⟩ | ⟨hpc', -⟩
    · rw [hpc] at hpc'
      exact hcall _ _ _ (HostPc.raised.inj hpc').1
    · rw [hpc] at hpc'
      cases hpc'

/-! ## §3. The queue fills up. -/

variable {r : BulkTransferData} {ms : List MsgData} {rest : List UInt8}

/-- All frames so far are in the queue: the worker has been late from the start. -/
structure Upload.Fills (fileType : Nat) (fileName : String) (fileData : List UInt8)
    (r : BulkTransferData) (ms : List MsgData) (rest : List UInt8) (b : Bulk) (u : Upload) :
    Prop where
  ready : u.Ready (dataCalls ms.length rest ++ [.end_]) Ground.open_.hub b
  requests : Requests fileType fileName fileData r
  remains : Remains fileData ms rest
  inv : Inv b
  calm : Calm b
  receiving : Receiving r ms b
  queue : b.queue.length = ms.length

theorem payload_length_le (h : FitsAll ms) : (payload ms).length ≤ MAX_FRAME_LENGTH * ms.length := by
  induction ms with
  | nil => exact Nat.le_refl 0
  | cons m ms ih =>
      have hm := (h m List.mem_cons_self).2
      have hms := ih fun x hx => h x (List.mem_cons_of_mem m hx)
      rw [payload_cons, List.length_append, List.length_cons, Nat.mul_succ]
      unfold MsgData.uiDataLen at hm
      omega

theorem Upload.Fills.ne_nil {k : Nat} (h : u.Fills fileType fileName fileData r ms rest b)
    (hk : ms.length + k = MAX_MSGQ_DEPTH)
    (hlong : MAX_FRAME_LENGTH * MAX_MSGQ_DEPTH < fileData.length) : rest ≠ [] := by
  intro hnil
  have hwhole := congrArg List.length h.remains.whole
  have hle := payload_length_le h.remains.fits
  have hmono : MAX_FRAME_LENGTH * ms.length ≤ MAX_FRAME_LENGTH * MAX_MSGQ_DEPTH :=
    Nat.mul_le_mul_left _ (by omega)
  rw [hnil, List.append_nil] at hwhole
  omega

/-- **More frames than the queue holds**: with a worker that is late from the start, the
upload does not come to its end. -/
theorem Upload.Fills.fails (k : Nat) (h : u.Fills fileType fileName fileData r ms rest b)
    (hk : ms.length + k = MAX_MSGQ_DEPTH)
    (hlong : MAX_FRAME_LENGTH * MAX_MSGQ_DEPTH < fileData.length) :
    ¬ u.Completes fileType fileName fileData := by
  induction k generalizing u ms rest b with
  | zero =>
      intro hcompletes
      have hne := h.ne_nil hk hlong
      obtain ⟨puiPayload, hleads⟩ := h.remains.leadsTo h.requests hne
      have hready := h.ready
      rw [dataCalls_of_ne ms.length hne] at hready
      have job := Job.data h.requests h.remains hne
      -- the queue is full
      have hrun := h.receiving.overflows h.inv h.calm hready.idle job.proper (by rw [h.queue]; omega)
      have hresume : resume Ground.open_.hub (.send (frameOf ms.length (rest.take BULK_DATA_LENGTH)))
          (.sent (-ENOMSG)) = (Ground.open_.hub, .queueFull) := rfl
      obtain ⟨u', hcompletes', hanswered⟩ := hready.answered hleads hrun rfl hresume hcompletes
      exact hanswered.nack (by intro herror; cases herror) (by intro _ _ _ hcall; cases hcall)
        hcompletes'
  | succ k ih =>
      intro hcompletes
      have hne := h.ne_nil hk hlong
      obtain ⟨puiPayload, hleads⟩ := h.remains.leadsTo h.requests hne
      have hready := h.ready
      rw [dataCalls_of_ne ms.length hne] at hready
      have job := Job.data h.requests h.remains hne
      have horder : InOrder r ms (frameOf ms.length (rest.take BULK_DATA_LENGTH)) := job.proper
      obtain ⟨b', hrun, hreply, hreceiving, hcalm, hinv, hqueue⟩ :=
        h.receiving.fills h.inv h.calm hready.idle horder (by rw [h.queue]; omega)
      have hresume : resume Ground.open_.hub (.send (frameOf ms.length (rest.take BULK_DATA_LENGTH)))
          (.sent 0) = (Ground.open_.hub, .none) := rfl
      obtain ⟨u', hcompletes', hanswered⟩ := hready.answered hleads hrun hreply hresume hcompletes
      obtain ⟨u'', hcompletes'', hready'⟩ :=
        hanswered.ack (by intro hcall; cases hcall) rfl hcompletes'
      have hret : b'.step .ret = some { b' with uart := .idle } := by
        show b'.ret = _
        unfold Bulk.ret
        rw [hreply]
      have hlength : (ms ++ [frameOf ms.length (rest.take BULK_DATA_LENGTH)]).length
          = ms.length + 1 := by
        rw [List.length_append, List.length_singleton]
      refine ih ⟨?_, h.requests, h.remains.drop horder, hinv.step hret, ⟨hcalm.handler, hcalm.work⟩,
        hreceiving.moves rfl, ?_⟩ ?_ hcompletes''
      · rw [hlength]
        exact hready'
      · rw [hlength, ← h.queue]
        exact hqueue
      · omega

/-! ## §4. Eleven frames. -/

/-- Eleven frames: ten of the full length, and one byte. -/
def elevenFrames : List UInt8 := List.replicate 2561 0

/-- `START` on a fresh controller. -/
theorem start_accepted {r : BulkTransferData} {crc : UInt16} (htype : r.eFileType = 1)
    (hname : r.pcaFileName = [0x61]) (hsize : r.uiFileSize = 2561) (hcrc : r.uiCRC = crc) :
    ∃ b', (List.replicate 13 (Act.uart (.healthy 0))).foldlM Bulk.step
        { Bulk.boot (fun _ => none) with uart := .start r .lock } = some b'
      ∧ b'.uart = .returned (.started true) ∧ Receiving r [] b' ∧ Calm b' ∧ b'.queue = [] := by
  obtain ⟨eFileType, pcaFileName, uiFileSize, uiCRC, size_lt⟩ := r
  dsimp only at htype hname hsize hcrc
  subst htype hname hsize hcrc
  exact ⟨_, rfl, rfl, ⟨⟨⟨_, rfl⟩, rfl, rfl, rfl, .inl ⟨⟨.get, rfl, rfl⟩, ⟨[], rfl⟩, rfl, rfl⟩⟩, rfl⟩,
    ⟨rfl, rfl⟩, rfl⟩

theorem payload_start (hne : fileData ≠ []) (hsize : fileData.length ≤ 0xFFFFFFFF) :
    ∃ p, BulkCall.payload (some OPERATION_LOCAL_BULK_FILE) (.start 1 "a" fileData) = .ok p := by
  show ∃ p, sendBulkStart _ 1 "a" fileData = .ok p
  unfold sendBulkStart
  dsimp only
  rw [if_neg (by decide), if_neg hne, if_neg (Nat.not_lt.mpr hsize), if_neg (by decide),
    if_neg (by decide)]
  exact ⟨_, rfl⟩

/-- The worker takes nothing until the eleventh frame has come: the host raises. -/
theorem not_upload_completes :
    ¬ ∀ (fileType : Nat) (fileName : String) (fileData : List UInt8) (u : Upload),
      (uploadSystem fileType fileName fileData).init u →
        (uploadSystem fileType fileName fileData).Inevitable Faultless
          (fun u => u.Refused fileType fileName fileData ∨ u.Delivered fileType fileName fileData)
          u := by
  intro h
  have hcompletes : (Upload.opened 1 "a" elevenFrames fun _ => none).Completes 1 "a" elevenFrames :=
    h 1 "a" elevenFrames _ (begins_opened 1 "a" elevenFrames fun _ => none)
  have hlength : elevenFrames.length = 2561 := List.length_replicate
  have hne : elevenFrames ≠ [] := by
    intro hnil
    rw [hnil] at hlength
    cases hlength
  obtain ⟨puiPayload, hpayload⟩ := payload_start hne (by rw [hlength]; decide)
  obtain ⟨r, hr, hleads⟩ := leadsTo_start hpayload
  have hname : r.pcaFileName = [0x61] := hr.pcaFileName.trans (by decide)
  obtain ⟨b', hrun, hreply, hreceiving, hcalm, hqueue⟩ :=
    start_accepted hr.eFileType hname (hr.uiFileSize.trans hlength) hr.uiCRC
  have hready : (Upload.opened 1 "a" elevenFrames fun _ => none).Ready
      (transferCalls 1 "a" elevenFrames) ⟨.localBulkFile, false⟩ (Bulk.boot fun _ => none) :=
    ⟨rfl, rfl, rfl, rfl, Nat.zero_le _, rfl, rfl, rfl⟩
  have hresume : resume ⟨.localBulkFile, false⟩ (.start r) (.started true)
      = (Ground.open_.hub, .none) := rfl
  obtain ⟨u', hcompletes', hanswered⟩ := hready.answered hleads hrun hreply hresume hcompletes
  obtain ⟨u'', hcompletes'', hready'⟩ := hanswered.ack (by intro hcall; cases hcall) rfl hcompletes'
  have hinv : Inv { b' with uart := .idle } := by
    have hcall : (Bulk.boot fun _ => none).step (.call (.start r))
        = some { Bulk.boot (fun _ => none) with uart := .start r .lock } := rfl
    have hi := inv_of_run 13 ((inv_boot fun _ => none).step hcall) hrun
    have hret : b'.step .ret = some { b' with uart := .idle } := by
      show b'.ret = _
      unfold Bulk.ret
      rw [hreply]
    exact hi.step hret
  have hfills : u''.Fills 1 "a" elevenFrames r [] elevenFrames { b' with uart := .idle } :=
    ⟨hready', hr, ⟨rfl, .nil⟩, hinv, ⟨hcalm.handler, hcalm.work⟩, hreceiving.moves rfl,
      congrArg List.length hqueue⟩
  exact hfills.fails 10 rfl (by rw [hlength]; decide) hcompletes''

end WallController.Host
