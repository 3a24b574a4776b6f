/-
  WallController.Host.UploadStages
  ────────────────────────────────
  **HOW FAR AN UPLOAD HAS COME.**

  The host makes one call after the other, and each goes the same way: its
  frame is on the line, the service is inside the call that the frame leads
  to, the response is in the port.  `Phase` says where the two sides stand,
  and `Ground` what holds of the bulk transfer between two calls.

  Main result:
    * `Upload.OnTrack.step`: a step without a fault, by which no frame is
      refused for want of room, brings the upload nearer to its end.
-/
import WallController.Host.FileTransfer

namespace WallController.Host

open WallController.Lib WallController.PCUart WallController.LittleFs

/-! ## §1. A frame is read. -/

/-- Without debug bytes the reader sends nothing along with a frame. -/
theorem readHeaderTail_silent {rx rest : List Rx} {s s' : Api} {f : ReceivedFrame}
    (hdebug : s.bUARTDebugNextFrame = false) (h : readHeaderTail rx s = (.done f rest, s')) :
    s' = s := by
  have hsilent : ∀ uiDebugByte, s.vSendUARTDebugByte uiDebugByte = s := by
    intro uiDebugByte
    unfold Api.vSendUARTDebugByte
    rw [hdebug]
    exact if_neg Bool.false_ne_true
  unfold readHeaderTail at h
  cases hheader : bReadUARTBytesWithTimeout (PC_UART_PROTOCOL_HEADER_LENGTH - uiaSOF.length) rx with
  | waiting => rw [hheader] at h; cases h
  | failed rx => rw [hheader] at h; cases h
  | done uiaHeaderTail rx =>
      rw [hheader] at h
      dsimp only at h
      rw [hsilent] at h
      split at h
      · cases h
      unfold readPayload at h
      dsimp only at h
      split at h
      · cases h
      cases hpayload : bReadUARTBytesWithTimeout (u16ReadBigEndian uiaHeaderTail 4).toNat rx with
      | waiting => rw [hpayload] at h; cases h
      | failed rx => rw [hpayload] at h; cases h
      | done puiPayload rx =>
          rw [hpayload] at h
          dsimp only at h
          rw [hsilent] at h
          unfold readCRC at h
          cases hcrc : bReadUARTBytesWithTimeout 2 rx with
          | waiting => rw [hcrc] at h; cases h
          | failed rx => rw [hcrc] at h; cases h
          | done uiaCRC rx =>
              rw [hcrc] at h
              dsimp only at h
              rw [hsilent, hsilent] at h
              split at h
              · cases h
              · cases h
                rfl

/-- A frame alone on the line. -/
theorem bReadUARTFrame_alone (uiCommand : UInt8) (uiSeq : UInt16) {puiPayload : List UInt8}
    (hlen : puiPayload.length ≤ PC_UART_PROTOCOL_MAX_PAYLOAD_LENGTH) {s : Api}
    (hdebug : s.bUARTDebugNextFrame = false) :
    bReadUARTFrame (received (uartFrame uiCommand uiSeq puiPayload)) s
      = (.done ⟨uiCommand, uiSeq, puiPayload⟩ [], s) := by
  have hsof := readSOF_uiaSOF blup.length_pos (received (frameTail uiCommand uiSeq puiPayload)) s
  have hsilent : s.vSendUARTDebugByte 0x53 = s := by
    unfold Api.vSendUARTDebugByte
    rw [hdebug]
    exact if_neg Bool.false_ne_true
  obtain ⟨s', htail⟩ := readHeaderTail_frameTail uiCommand uiSeq hlen [] s
  rw [readHeaderTail_silent hdebug htail, List.append_nil] at htail
  unfold bReadUARTFrame uartFrame
  rw [received_append, hsof]
  dsimp only
  rw [hsilent, htail]

/-! ## §2. The frames of the calls. -/

/-- The `DATA` frame of a chunk. -/
def frameOf (frameId : Nat) (chunk : List UInt8) : MsgData where
  uiFrameId := frameId
  uiMsg := chunk
  uiFrameCRC := u16CRC16CCITTUpdate 0xFFFF chunk

/-- The request that `bulk_start` makes. -/
structure Requests (fileType : Nat) (fileName : String) (fileData : List UInt8)
    (r : BulkTransferData) : Prop where
  eFileType : r.eFileType = fileType
  pcaFileName : r.pcaFileName = (utf8Bytes fileName).takeWhile (· ≠ 0)
  uiFileSize : r.uiFileSize = fileData.length
  uiCRC : r.uiCRC = u16CRC16CCITTUpdate 0xFFFF fileData

/-- The frame of the call, with any sequence number, leads to the call `c`. -/
structure LeadsTo (hub : Hub) (call : BulkCall) (puiPayload : List UInt8) (c : Call) : Prop where
  payload : call.payload (some OPERATION_LOCAL_BULK_FILE) = .ok puiPayload
  length : puiPayload.length ≤ PC_UART_PROTOCOL_MAX_PAYLOAD_LENGTH
  dispatch : ∀ env uiSeq, dispatchFrame env hub
    (ReceivedFrame.toFrame ⟨UInt8.ofNat call.command, uiSeq, puiPayload⟩) = .call c

/-- A call that the bulk file service makes is the one the dispatcher makes. -/
theorem dispatchFrame_of_call {env : UartEnv} {hub : Hub} {f : Frame} {c : Call} {b : Bool}
    (hop : hub.eActiveOperation = .localBulkFile)
    (hsel : f.uiCommand ≠ ePC_UART_Command_SelectOperation)
    (hrel : f.uiCommand ≠ ePC_UART_Command_ReleaseOperation)
    (h : ePCUARTBulkFileServiceProcess env hub f = (.call c, b)) :
    dispatchFrame env hub f = .call c := by
  unfold dispatchFrame
  rw [if_neg hsel, if_neg hrel, hop]
  dsimp only
  rw [h]

/-- `START`. -/
theorem leadsTo_start {fileType : Nat} {fileName : String} {fileData payload : List UInt8}
    (h : BulkCall.payload (some OPERATION_LOCAL_BULK_FILE) (.start fileType fileName fileData)
      = .ok payload) :
    ∃ r, Requests fileType fileName fileData r
      ∧ LeadsTo ⟨.localBulkFile, false⟩ (.start fileType fileName fileData) payload (.start r) := by
  obtain ⟨r, hcall, htype, hsize, hname, hcrc⟩ :=
    eProcessBulkStart_host ⟨.localBulkFile, false⟩ h
  refine ⟨r, ⟨htype, hname, hsize, hcrc⟩, h, ?_, ?_⟩
  · have hstart : sendBulkStart (some OPERATION_LOCAL_BULK_FILE) fileType fileName fileData
        = .ok payload := h
    unfold sendBulkStart at hstart
    dsimp only at hstart
    split at hstart
    · cases hstart
    next hlimits =>
    have hle : (utf8Bytes fileName).length ≤ MAX_BULK_FILE_NAME_BYTES :=
      Nat.not_lt.mp (not_or.mp hlimits).2
    repeat' split at hstart
    all_goals cases hstart
    simp only [List.length_append, length_packBE]
    show _ ≤ 264
    have hmax : MAX_BULK_FILE_NAME_BYTES = 29 := rfl
    omega
  · intro env uiSeq
    exact dispatchFrame_of_call rfl
      (show ePC_UART_Command_BulkStart ≠ ePC_UART_Command_SelectOperation by decide)
      (show ePC_UART_Command_BulkStart ≠ ePC_UART_Command_ReleaseOperation by decide)
      (congrArg (·, false) hcall)

/-- `DATA`. -/
theorem leadsTo_data {frameId : Nat} {chunk : List UInt8} (hid : frameId < 4294967296)
    (hpos : 0 < chunk.length) (hle : chunk.length ≤ BULK_DATA_LENGTH) :
    ∃ payload, LeadsTo ⟨.localBulkFile, true⟩ (.data frameId chunk) payload
      (.send (frameOf frameId chunk)) := by
  -- the chunk fits a frame, and its length and number fit their fields
  have hmax : chunk.length ≤ 256 := hle
  have hne : chunk ≠ [] := List.length_pos_iff.mp hpos
  refine ⟨packBE 4 frameId ++ packBE 2 chunk.length ++ packBE 2 (crc16 chunk) ++ chunk, ?_, ?_, ?_⟩
  · show sendBulkData _ frameId chunk = _
    unfold sendBulkData
    rw [if_neg (not_not.mpr rfl), if_neg (not_or.mpr ⟨hne, Nat.not_lt.mpr hle⟩)]
  · simp only [List.length_append, length_packBE]
    show _ ≤ 264
    omega
  · intro env uiSeq
    -- the payload, byte by byte
    generalize hp : packBE 4 frameId ++ packBE 2 chunk.length ++ packBE 2 (crc16 chunk) ++ chunk = p
    have hcrc := (u16CRC16CCITTUpdate 0xFFFF chunk).toNat_lt
    rw [← crc16_eq] at hcrc
    rw [packBE_four, packBE_two, packBE_two] at hp
    have hlength : p.length = 8 + chunk.length := by
      rw [← hp]
      simp only [List.length_append, List.length_cons, List.length_nil]
    have hdrop : p.drop 8 = chunk := by rw [← hp]; rfl
    have hsize : (u16ReadBigEndian p 4).toNat = chunk.length := by
      rw [u16ReadBigEndian_packBE p 4 (n := chunk.length) (by omega) (by rw [← hp]; rfl)
        (by rw [← hp]; rfl), UInt16.toNat_ofNat']
      omega
    have hframe : (uiReadBigEndian p 0).toNat = frameId := by
      rw [uiReadBigEndian_packBE p 0 hid (by rw [← hp]; rfl) (by rw [← hp]; rfl)
        (by rw [← hp]; rfl) (by rw [← hp]; rfl), UInt32.toNat_ofNat']
      omega
    have hword : u16ReadBigEndian p 6 = u16CRC16CCITTUpdate 0xFFFF chunk := by
      rw [u16ReadBigEndian_packBE p 6 hcrc (by rw [← hp]; rfl) (by rw [← hp]; rfl), crc16_eq,
        UInt16.ofNat_toNat]
    -- the service's checks pass, and the frame is the one handed over
    have hcall : eProcessBulkData ⟨.localBulkFile, true⟩ (some p) p.length
        = .call (.send (frameOf frameId chunk)) := by
      unfold eProcessBulkData
      dsimp only
      have hfixed : PC_UART_PROTOCOL_BULK_DATA_FIXED_LENGTH = 8 := rfl
      have hlimit : MAX_FRAME_LENGTH = 256 := rfl
      rw [hsize, hframe, hword, hdrop, List.take_length, if_neg (show ¬ (!true) = true by decide),
        if_neg (by omega), if_neg (by omega)]
      rfl
    exact dispatchFrame_of_call rfl
      (show ePC_UART_Command_BulkData ≠ ePC_UART_Command_SelectOperation by decide)
      (show ePC_UART_Command_BulkData ≠ ePC_UART_Command_ReleaseOperation by decide)
      (congrArg (·, false) hcall)

/-- `END`. -/
theorem leadsTo_end : LeadsTo ⟨.localBulkFile, true⟩ .end_ [] .end_ where
  payload := rfl
  length := Nat.zero_le _
  dispatch _ _ := rfl

/-! ## §3. How far the upload has come. -/

/-- What holds between two calls: no transfer is on its way, the frames so far have
been accepted, or the file has been stored. -/
inductive Ground where
  | closed
  | open_
  | stored
  deriving DecidableEq, Repr

def Ground.hub : Ground → Hub
  | .closed => ⟨.localBulkFile, false⟩
  | .open_ => ⟨.localBulkFile, true⟩
  | .stored => ⟨.idle, false⟩

def Ground.At (r : BulkTransferData) (ms : List MsgData) (b : Bulk) : Ground → Prop
  | .closed => Alone b
  | .open_ => Receiving r ms b
  | .stored => Alone b ∧ Stored r ms b

/-- Inside of a call, or between two of them. -/
def Stands (r : BulkTransferData) (ms : List MsgData) (g : Ground) (b : Bulk) :
    Option Call → Prop
  | some c => c.Smooth r ms b
  | none => b.uart = .idle ∧ g.At r ms b

/-- The frames `ms` and the bytes `rest` are the file. -/
structure Remains (fileData : List UInt8) (ms : List MsgData) (rest : List UInt8) : Prop where
  whole : payload ms ++ rest = fileData
  fits : FitsAll ms

variable (fileType : Nat) (fileName : String) (fileData : List UInt8)

/-- A call of the host with the calls behind it, and the call of the controller that it
leads to; `ms` are the frames accepted before. -/
inductive Job (r : BulkTransferData) :
    Ground → BulkCall → List BulkCall → Call → List MsgData → Prop
  | start (hr : Requests fileType fileName fileData r) :
      Job r .closed (.start fileType fileName fileData) (dataCalls 0 fileData ++ [.end_])
        (.start r) []
  | data {ms : List MsgData} {rest : List UInt8} (hr : Requests fileType fileName fileData r)
      (hrest : Remains fileData ms rest) (hne : rest ≠ []) :
      Job r .open_ (.data ms.length (rest.take BULK_DATA_LENGTH))
        (dataCalls (ms.length + 1) (rest.drop BULK_DATA_LENGTH) ++ [.end_])
        (.send (frameOf ms.length (rest.take BULK_DATA_LENGTH))) ms
  | end_ {ms : List MsgData} (hr : Requests fileType fileName fileData r)
      (hrest : Remains fileData ms []) : Job r .open_ .end_ [] .end_ ms

/-- Where the two sides stand: the host, what is in its port, what is on the line, and the
call that the service is inside of. -/
inductive Phase (r : BulkTransferData) :
    List MsgData → Ground → HostPc → List UInt8 → List UInt8 → Option Call → Prop
  | opening : Phase r [] .closed (.calls (transferCalls fileType fileName fileData)) [] [] none
  | feeding {ms : List MsgData} {rest : List UInt8} (hr : Requests fileType fileName fileData r)
      (hrest : Remains fileData ms rest) :
      Phase r ms .open_ (.calls (dataCalls ms.length rest ++ [.end_])) [] [] none
  | sent {ms : List MsgData} {g : Ground} {call : BulkCall} {todo : List BulkCall} {c : Call}
      {puiPayload : List UInt8} (sequence : Nat) (uiSeq : UInt16)
      (job : Job fileType fileName fileData r g call todo c ms)
      (hleads : LeadsTo g.hub call puiPayload c) :
      Phase r ms g (.waiting call sequence todo) []
        (uartFrame (UInt8.ofNat call.command) uiSeq puiPayload) none
  | inCall {ms : List MsgData} {g : Ground} {call : BulkCall} {todo : List BulkCall} {c : Call}
      (sequence : Nat) (job : Job fileType fileName fileData r g call todo c ms) :
      Phase r ms g (.waiting call sequence todo) [] [] (some c)
  | accepted {ms : List MsgData} {rest : List UInt8} {call : BulkCall} (sequence : Nat)
      (hr : Requests fileType fileName fileData r) (hrest : Remains fileData ms rest)
      (hcall : call ≠ .end_) :
      Phase r ms .open_ (.waiting call sequence (dataCalls ms.length rest ++ [.end_]))
        [UART_ACK, 0] [] none
  | finished {ms : List MsgData} (sequence : Nat) (hr : Requests fileType fileName fileData r)
      (hrest : Remains fileData ms []) :
      Phase r ms .stored (.waiting .end_ sequence []) [UART_ACK, 0] [] none
  | refused (sequence : Nat) (error : UInt8) (todo : List BulkCall) :
      Phase r [] .closed (.waiting (.start fileType fileName fileData) sequence todo)
        [UART_NACK, error] [] none

/-- **The invariant** of an upload until it is refused or has come to its end. -/
structure Upload.OnTrack (r : BulkTransferData) (ms : List MsgData) (g : Ground) (u : Upload) :
    Prop where
  inv : Inv u.service.bulk
  calm : Calm u.service.bulk
  debug : u.api.bUARTDebugNextFrame = false
  sequence : u.client.sequence ≤ 0xFFFF
  selected : u.client.selectedOperation = some OPERATION_LOCAL_BULK_FILE
  hub : u.service.hub = g.hub
  fits : FitsAll ms
  phase : Phase fileType fileName fileData r ms g u.pc u.client.port u.wire u.service.waiting
  stands : Stands r ms g u.service.bulk u.service.waiting

/-- `send_bulk_start` has raised: the host or the controller refuses the request. -/
def Upload.Refused (u : Upload) : Prop :=
  ∃ error, u.pc = .raised (.start fileType fileName fileData) error

/-- All calls have returned, and the data stand in the file of the request. -/
def Upload.Delivered (u : Upload) : Prop :=
  u.pc = .calls [] ∧ ∃ path,
    (directoryOf fileType).bind (fun pcaDirPath =>
      bBuildValidateFullPathName pcaDirPath ((utf8Bytes fileName).takeWhile (· ≠ 0))) = some path
    ∧ u.service.bulk.files path = some fileData

/-- What the host has still to do. -/
def HostPc.distance (wire : List UInt8) (waiting : Option Call) : HostPc → Nat
  | .calls todo => 50 * todo.length
  | .waiting _ _ todo =>
      50 * todo.length + (if waiting.isSome then 5 else if wire = [] then 1 else 45)
  | .raised _ _ => 0

/-- What is still to be done. -/
def Upload.distance (u : Upload) : Nat :=
  u.pc.distance u.wire u.service.waiting + (u.service.bulk.uart.steps + u.service.bulk.work)

/-- A step without a fault: no wait runs out, `END` finishes the file, and the worker
writes what it has taken. -/
def Faultless (u : Upload) : UploadAct → Prop
  | .inCall env => CallFaultless u.service.bulk.uart env
  | .worker env => WorkerFaultless u.service.bulk env
  | _ => True

/-- A step without a fault, by which no `DATA` frame finds the queue full. -/
def Smoothly (u : Upload) (a : UploadAct) : Prop :=
  Faultless u a ∧ match a with
    | .inCall _ => FindsRoom u.service.bulk
    | _ => True

variable {fileType fileName fileData}
variable {r : BulkTransferData} {ms : List MsgData} {rest : List UInt8} {g : Ground} {b b' : Bulk}
  {u u' : Upload} {call : BulkCall} {todo : List BulkCall} {c : Call} {waiting : Option Call}
  {env : Env}

/-! ## §4. The threads beside the UART thread. -/

/-- The other threads leave the bulk transfer where it stands. -/
theorem Stands.beside (hs : Stands r ms g b waiting)
    (hproper : ∀ c, waiting = some c → c.Proper r ms) (hfits : FitsAll ms) :
    Alone b ∨ ∃ ms' marked, FitsAll ms' ∧ b.uart.opening = false ∧ Feeding r ms' marked b
      ∧ ∀ b', Fed r ms' marked b b' → Stands r ms g b' waiting := by
  cases waiting with
  | some c =>
      have hs : c.Smooth r ms b := hs
      exact hs.beside (hproper c rfl) hfits
  | none =>
      obtain ⟨hu, hg⟩ : b.uart = .idle ∧ g.At r ms b := hs
      cases g with
      | closed => exact .inl hg
      | stored => exact .inl hg.1
      | open_ =>
          have hg : Receiving r ms b := hg
          refine .inr ⟨ms, false, hfits, by rw [hu]; rfl, hg.feeding, ?_⟩
          intro b' hfed
          exact ⟨hfed.uart.trans hu, hg.fed hfed⟩

/-- What a step of another thread leaves, and what it lowers. -/
structure Aside (r : BulkTransferData) (ms : List MsgData) (g : Ground) (waiting : Option Call)
    (b b' : Bulk) : Prop where
  stands : Stands r ms g b' waiting
  work : b'.work < b.work
  uart : b'.uart = b.uart
  calm : Calm b → Calm b'

theorem Stands.workerStep (hs : Stands r ms g b waiting)
    (hproper : ∀ c, waiting = some c → c.Proper r ms) (hfits : FitsAll ms) (hi : Inv b)
    (hok : WorkerFaultless b env) (h : workerStep env b = some b') : Aside r ms g waiting b b' := by
  rcases hs.beside hproper hfits with ha | ⟨ms', marked, hfits', hopening, hf, hto⟩
  · unfold LittleFs.workerStep at h
    rw [ha.worker] at h
    cases h
  · have hfed := hf.workerStep hi hopening hfits' hok h
    exact ⟨hto b' hfed, hfed.work, hfed.uart, hfed.calm⟩

theorem Stands.tailStep {i : Nat} (hs : Stands r ms g b waiting)
    (hproper : ∀ c, waiting = some c → c.Proper r ms) (hfits : FitsAll ms)
    (h : tailStep i b = some b') : Aside r ms g waiting b b' := by
  rcases hs.beside hproper hfits with ha | ⟨ms', marked, -, -, hf, hto⟩
  · unfold LittleFs.tailStep at h
    rw [ha.tails] at h
    cases h
  · have hfed := hf.tailStep h
    exact ⟨hto b' hfed, hfed.work, hfed.uart, hfed.calm⟩

/-- With the work queue calm, the handler does nothing. -/
theorem Calm.handlerStep (hc : Calm b) : handlerStep env b = none := by
  unfold LittleFs.handlerStep
  rw [hc.handler]
  dsimp only
  rw [hc.work, if_neg Bool.false_ne_true]

/-- The calls of the host lead to calls that are in order. -/
theorem Job.proper (job : Job fileType fileName fileData r g call todo c ms) : c.Proper r ms := by
  cases job with
  | start hr => exact rfl
  | @data ms rest hr hrest hne =>
      have hpos := List.length_pos_iff.mpr hne
      have hmax : BULK_DATA_LENGTH = 256 := rfl
      have hlimit : MAX_FRAME_LENGTH = 256 := rfl
      have hwhole := congrArg List.length hrest.whole
      rw [List.length_append] at hwhole
      have hlen : (frameOf ms.length (rest.take BULK_DATA_LENGTH)).uiDataLen
          = min BULK_DATA_LENGTH rest.length := List.length_take
      refine ⟨?_, ?_, rfl, ?_, rfl⟩
      · omega
      · omega
      · rw [hr.uiFileSize]
        omega
  | end_ hr hrest =>
      have hwhole := hrest.whole
      rw [List.append_nil] at hwhole
      refine ⟨?_, ?_⟩
      · rw [hwhole, hr.uiFileSize]
      · rw [hwhole, hr.uiCRC]

/-- Inside of a call there is the call of a job. -/
theorem Phase.proper {pc : HostPc} {port wire : List UInt8}
    (h : Phase fileType fileName fileData r ms g pc port wire waiting) :
    ∀ c, waiting = some c → c.Proper r ms := by
  intro c hc
  cases h with
  | inCall sequence job =>
      rw [← Option.some.inj hc]
      exact job.proper
  | opening => cases hc
  | feeding hr hrest => cases hc
  | sent sequence uiSeq job hleads => cases hc
  | accepted sequence hr hrest hcall => cases hc
  | finished sequence hr hrest => cases hc
  | refused sequence error todo => cases hc

/-! ## §5. The steps of the service. -/

/-- A step of the bulk transfer that leaves the upload on its way. -/
theorem Upload.OnTrack.withBulk (h : u.OnTrack fileType fileName fileData r ms g) (hi : Inv b')
    (hc : Calm b') (hs : Stands r ms g b' u.service.waiting) :
    ({ u with service := { u.service with bulk := b' } } : Upload).OnTrack fileType fileName
      fileData r ms g :=
  ⟨hi, hc, h.debug, h.sequence, h.selected, h.hub, h.fits, h.phase, hs⟩

/-- The step of a thread of the service. -/
theorem serviceStep_bulk {a : ServiceAct} (act : Act)
    (hstep : u.service.step a
      = (u.service.bulk.step act).map fun bulk => { u.service with bulk := bulk })
    (h : u.serviceStep a = some u') :
    ∃ b', u.service.bulk.step act = some b'
      ∧ u' = { u with service := { u.service with bulk := b' } } := by
  unfold Upload.serviceStep at h
  rw [hstep] at h
  obtain ⟨service, hs, rfl⟩ := Option.map_eq_some_iff.mp h
  obtain ⟨b', hb, rfl⟩ := Option.map_eq_some_iff.mp hs
  exact ⟨b', hb, rfl⟩

/-- What a step does to an upload on its way. -/
def Upload.Nearer (fileType : Nat) (fileName : String) (fileData : List UInt8) (u u' : Upload) :
    Prop :=
  (∃ r ms g, u'.OnTrack fileType fileName fileData r ms g) ∧ u'.distance < u.distance

/-- A step of another thread. -/
theorem Upload.OnTrack.aside {act : Act} (h : u.OnTrack fileType fileName fileData r ms g)
    (hstep : u.service.bulk.step act = some b')
    (ha : Aside r ms g u.service.waiting u.service.bulk b') :
    u.Nearer fileType fileName fileData
      { u with service := { u.service with bulk := b' } } := by
  refine ⟨⟨r, ms, g, h.withBulk (h.inv.step hstep) (ha.calm h.calm) ha.stands⟩, ?_⟩
  have hwork := ha.work
  have huart := congrArg Uart.steps ha.uart
  exact Nat.add_lt_add_left (show b'.uart.steps + b'.work < _ by omega) _

theorem Upload.OnTrack.worker (h : u.OnTrack fileType fileName fileData r ms g)
    (hok : WorkerFaultless u.service.bulk env)
    (hst : u.serviceStep (.worker env) = some u') : u.Nearer fileType fileName fileData u' := by
  obtain ⟨b', hb, rfl⟩ := serviceStep_bulk (.worker env) rfl hst
  exact h.aside hb (h.stands.workerStep h.phase.proper h.fits h.inv hok hb)

theorem Upload.OnTrack.tail {i : Nat} (h : u.OnTrack fileType fileName fileData r ms g)
    (hst : u.serviceStep (.tail i) = some u') : u.Nearer fileType fileName fileData u' := by
  obtain ⟨b', hb, rfl⟩ := serviceStep_bulk (.tail i) rfl hst
  exact h.aside hb (h.stands.tailStep h.phase.proper h.fits hb)

theorem Upload.OnTrack.handler (h : u.OnTrack fileType fileName fileData r ms g) :
    u.serviceStep (.handler env) ≠ some u' := by
  intro hst
  obtain ⟨b', hb, -⟩ := serviceStep_bulk (.handler env) rfl hst
  have hnone : handlerStep env u.service.bulk = none := Calm.handlerStep h.calm
  have hb : handlerStep env u.service.bulk = some b' := hb
  rw [hnone] at hb
  cases hb

/-- A step inside of a call. -/
theorem Upload.OnTrack.inCall (h : u.OnTrack fileType fileName fileData r ms g)
    (hok : CallFaultless u.service.bulk.uart env) (hroom : FindsRoom u.service.bulk)
    (hst : u.serviceStep (.inCall env) = some u') : u.Nearer fileType fileName fileData u' := by
  obtain ⟨b', hb, rfl⟩ := serviceStep_bulk (.uart env) rfl hst
  have hs := h.stands
  have hproper := h.phase.proper
  have hb' : uartStep env u.service.bulk = some b' := hb
  cases hw : u.service.waiting with
  | none =>
      rw [hw] at hs
      obtain ⟨hu, -⟩ : u.service.bulk.uart = .idle ∧ _ := hs
      unfold uartStep at hb'
      rw [hu] at hb'
      cases hb'
  | some c =>
      rw [hw] at hs
      have hs : c.Smooth r ms u.service.bulk := hs
      have hwent := hs.step (hproper c hw) h.inv hok hroom hb'
      refine ⟨⟨r, ms, g, h.withBulk (h.inv.step hb) (hwent.calm h.calm) ?_⟩, ?_⟩
      · rw [hw]
        exact hwent.smooth
      · have hlower := hwent.lower
        exact Nat.add_lt_add_left hlower _

/-! ## §6. The host sends. -/

theorem command_lt (call : BulkCall) : call.command < 256 := by
  cases call with
  | start fileType fileName fileData => exact (show 0x40 < 256 by decide)
  | data frameId chunk => exact (show 0x41 < 256 by decide)
  | end_ => exact (show 0x42 < 256 by decide)

/-- The frame of a call goes to the line. -/
theorem send_eq {puiPayload : List UInt8} (hseq : u.client.sequence ≤ 0xFFFF)
    (hlen : puiPayload.length ≤ PC_UART_PROTOCOL_MAX_PAYLOAD_LENGTH) :
    u.send call todo puiPayload
      = { u with
          client := { u.client with sequence := (u.client.sequence + 1) &&& 0xFFFF }
          wire := u.wire ++ uartFrame (UInt8.ofNat call.command) (UInt16.ofNat u.client.sequence)
            puiPayload
          pc := .waiting call u.client.sequence todo } := by
  have hcommand := command_lt call
  have hmax : PC_UART_PROTOCOL_MAX_PAYLOAD_LENGTH = 264 := rfl
  have hframe := buildUartFrame_eq (UInt8.ofNat call.command) (UInt16.ofNat u.client.sequence)
    (show puiPayload.length ≤ 0xFFFF by omega)
  rw [UInt8.toNat_ofNat_of_lt' hcommand,
    UInt16.toNat_ofNat_of_lt' (show u.client.sequence < 65536 by omega)] at hframe
  unfold Upload.send
  dsimp only
  rw [hframe]

theorem uartFrame_ne_nil (uiCommand : UInt8) (uiSeq : UInt16) (puiPayload : List UInt8) :
    uartFrame uiCommand uiSeq puiPayload ≠ [] := by
  intro h
  cases h

theorem distance_sent (uiCommand : UInt8) (uiSeq : UInt16) (puiPayload : List UInt8)
    (sequence : Nat) : HostPc.distance (uartFrame uiCommand uiSeq puiPayload) none
      (.waiting call sequence todo) = 50 * todo.length + 45 := by
  show 50 * todo.length + (if uartFrame uiCommand uiSeq puiPayload = [] then 1 else 45) = _
  rw [if_neg (uartFrame_ne_nil uiCommand uiSeq puiPayload)]

/-- The host begins a call. -/
theorem Upload.OnTrack.begin_ {puiPayload : List UInt8}
    (h : u.OnTrack fileType fileName fileData r ms g) (hpc : u.pc = .calls (call :: todo))
    (hport : u.client.port = []) (hwire : u.wire = []) (hwaiting : u.service.waiting = none)
    {r' : BulkTransferData} (hground : Stands r' ms g u.service.bulk none)
    (job : Job fileType fileName fileData r' g call todo c ms)
    (hleads : LeadsTo g.hub call puiPayload c) :
    u.hostStep = some (u.send call todo puiPayload)
      ∧ u.Nearer fileType fileName fileData (u.send call todo puiPayload) := by
  constructor
  · unfold Upload.hostStep
    rw [hpc]
    dsimp only
    rw [h.selected, hleads.payload]
  · have hwaits : (u.send call todo puiPayload).service.waiting = none := by
      rw [send_eq h.sequence hleads.length]
      exact hwaiting
    rw [send_eq h.sequence hleads.length, hwire, List.nil_append]
    refine ⟨⟨r', ms, g, h.inv, h.calm, h.debug, Nat.and_le_right, h.selected, h.hub, h.fits, ?_, ?_⟩, ?_⟩
    · rw [hport, hwaiting]
      exact .sent u.client.sequence _ job hleads
    · rw [hwaiting]
      exact hground
    · unfold Upload.distance
      refine Nat.add_lt_add_right ?_ _
      rw [hpc, hwaiting]
      show HostPc.distance _ none (.waiting call _ todo) < 50 * (todo.length + 1)
      rw [distance_sent]
      omega

/-- The next chunk goes out in a frame that leads to its call. -/
theorem Remains.leadsTo (hrest : Remains fileData ms rest)
    (hr : Requests fileType fileName fileData r) (hne : rest ≠ []) :
    ∃ puiPayload, LeadsTo Ground.open_.hub (.data ms.length (rest.take BULK_DATA_LENGTH))
      puiPayload (.send (frameOf ms.length (rest.take BULK_DATA_LENGTH))) := by
  have hpos := List.length_pos_iff.mpr hne
  have hmax : BULK_DATA_LENGTH = 256 := rfl
  have hchunk : (rest.take BULK_DATA_LENGTH).length = min BULK_DATA_LENGTH rest.length :=
    List.length_take
  -- the identifier of the frame fits its field: there are no more frames than bytes
  have hid : ms.length < 4294967296 := by
    have hfilled : ms.length ≤ (payload ms).length :=
      length_le_payload fun m hm => List.length_pos_iff.mp (hrest.fits m hm).1
    have hwhole := congrArg List.length hrest.whole
    have hsize := hr.uiFileSize
    have hlt := r.size_lt
    rw [List.length_append] at hwhole
    omega
  exact leadsTo_data hid (by omega) (by omega)

theorem dataCalls_of_ne (frameId : Nat) (hne : rest ≠ []) :
    dataCalls frameId rest = .data frameId (rest.take BULK_DATA_LENGTH)
      :: dataCalls (frameId + 1) (rest.drop BULK_DATA_LENGTH) := by
  rw [dataCalls, if_neg hne]

/-- The next call behind the frames that have been accepted. -/
theorem Remains.next (hrest : Remains fileData ms rest)
    (hr : Requests fileType fileName fileData r) :
    ∃ call todo c puiPayload, dataCalls ms.length rest ++ [.end_] = call :: todo
      ∧ Job fileType fileName fileData r .open_ call todo c ms
      ∧ LeadsTo Ground.open_.hub call puiPayload c := by
  by_cases hne : rest = []
  · rw [hne] at hrest ⊢
    refine ⟨.end_, [], .end_, [], ?_, .end_ hr hrest, leadsTo_end⟩
    rw [dataCalls, if_pos rfl]
    rfl
  · obtain ⟨puiPayload, hleads⟩ := hrest.leadsTo hr hne
    refine ⟨_, _, _, puiPayload, ?_, .data hr hrest hne, hleads⟩
    rw [dataCalls_of_ne ms.length hne]
    rfl

/-! ## §7. The controller reads and answers. -/

theorem Call.smooth_entry (job : Job fileType fileName fileData r g call todo c ms)
    (hs : g.At r ms b) : c.Smooth r ms { b with uart := c.entry } := by
  cases job with
  | start hr =>
      have hs : Alone b := hs
      exact ⟨rfl, .inl ⟨.lock, rfl, hs.moves rfl⟩⟩
  | data hr hrest hne =>
      have hs : Receiving r ms b := hs
      exact .inl ⟨.lock, rfl, hs.moves rfl⟩
  | end_ hr hrest =>
      have hs : Receiving r ms b := hs
      exact .inl ⟨.entry, rfl, hs.moves rfl⟩

theorem Call.entry_steps (c : Call) : c.entry.steps ≤ 30 := by
  cases c with
  | start r => exact (show 14 ≤ 30 by decide)
  | send m => exact (show 14 ≤ 30 by decide)
  | end_ => exact Nat.le_refl 30

/-- The frame of a call is read, and the service enters the call. -/
theorem readStep_eq (e : UartEnv) {puiPayload : List UInt8} {uiSeq : UInt16}
    (hdebug : u.api.bUARTDebugNextFrame = false) (hwaiting : u.service.waiting = none)
    (hu : u.service.bulk.uart = .idle)
    (hwire : u.wire = uartFrame (UInt8.ofNat call.command) uiSeq puiPayload)
    (hleads : LeadsTo u.service.hub call puiPayload c) :
    u.readStep e = some { u with
      client := { u.client with port := u.client.port ++ [] }
      wire := []
      api := { u.api with sent := [] }
      service := { u.service with
        bulk := { u.service.bulk with uart := c.entry }, waiting := some c } } := by
  have hread := bReadUARTFrame_alone (UInt8.ofNat call.command) uiSeq hleads.length
    (s := { u.api with sent := [] }) hdebug
  have hcall : u.service.bulk.step (.call c) = some { u.service.bulk with uart := c.entry } := by
    show u.service.bulk.call c = _
    unfold Bulk.call
    rw [hu]
  have hservice : u.service.step
      (.frame (ReceivedFrame.toFrame ⟨UInt8.ofNat call.command, uiSeq, puiPayload⟩) e)
      = some { u.service with
          bulk := { u.service.bulk with uart := c.entry }, waiting := some c } := by
    unfold Service.step
    dsimp only
    rw [hwaiting]
    dsimp only
    rw [hleads.dispatch]
    dsimp only
    rw [hcall]
    rfl
  unfold Upload.readStep
  rw [hwaiting, hwire, hread]
  dsimp only
  rw [hservice, hleads.dispatch]
  rfl

theorem Upload.OnTrack.read {e : UartEnv} (h : u.OnTrack fileType fileName fileData r ms g)
    (hst : u.readStep e = some u') : u.Nearer fileType fileName fileData u' := by
  -- with nothing on the wire the service reads nothing
  have hempty : u.wire = [] → u.readStep e = none := by
    intro hwire
    unfold Upload.readStep
    rw [hwire]
    cases u.service.waiting with
    | none => rfl
    | some c => rfl
  have hno : u.wire = [] → u.Nearer fileType fileName fileData u' := by
    intro hwire
    rw [hempty hwire] at hst
    cases hst
  have hphase := h.phase
  have hstands := h.stands
  generalize hpc : u.pc = pc at hphase
  generalize hport : u.client.port = port at hphase
  generalize hwire : u.wire = wire at hphase
  generalize hwaiting : u.service.waiting = waiting at hphase hstands
  cases hphase with
  | opening => exact hno hwire
  | feeding hr hrest => exact hno hwire
  | inCall sequence job => exact hno hwire
  | accepted sequence hr hrest hcall => exact hno hwire
  | finished sequence hr hrest => exact hno hwire
  | refused sequence error todo => exact hno hwire
  | @sent _ _ call todo c puiPayload sequence uiSeq job hleads =>
      -- the frame on the wire starts the call that it stands for
      obtain ⟨hu, hground⟩ : u.service.bulk.uart = .idle ∧ g.At r ms u.service.bulk := hstands
      rw [← h.hub] at hleads
      have heq := readStep_eq e h.debug hwaiting hu hwire hleads
      rw [hst] at heq
      obtain rfl := Option.some.inj heq
      have hcall : u.service.bulk.step (.call c) = some { u.service.bulk with uart := c.entry } := by
        show u.service.bulk.call c = _
        unfold Bulk.call
        rw [hu]
      refine ⟨⟨r, ms, g, h.inv.step hcall, ⟨h.calm.handler, h.calm.work⟩, h.debug, h.sequence,
        h.selected, h.hub, h.fits, ?_, Call.smooth_entry job hground⟩, ?_⟩
      · rw [hport, hpc]
        exact .inCall sequence job
      · have hsteps := Call.entry_steps c
        -- the steps of the call are fewer than what the frame was worth
        unfold Upload.distance
        rw [hpc, hwaiting, hwire, hu]
        rw [distance_sent]
        show 50 * todo.length + 5 + (c.entry.steps + u.service.bulk.work)
          < 50 * todo.length + 45 + (0 + u.service.bulk.work)
        omega

/-- The response to a call that has returned. -/
theorem answerStep_eq {reply : Reply} {hub : Hub} {eError : Error}
    (hwaiting : u.service.waiting = some c) (hu : u.service.bulk.uart = .returned reply)
    (hresume : resume u.service.hub c reply = (hub, eError)) :
    u.answerStep = some ({ u with service :=
      { hub := hub, bulk := { u.service.bulk with uart := .idle }, waiting := none } }.answer
        eError) := by
  have hret : u.service.bulk.step .ret = some { u.service.bulk with uart := .idle } := by
    show u.service.bulk.ret = _
    unfold Bulk.ret
    rw [hu]
  have hservice : u.service.step .answer
      = some { hub := hub, bulk := { u.service.bulk with uart := .idle }, waiting := none } := by
    unfold Service.step
    dsimp only
    rw [hwaiting, hu]
    dsimp only
    rw [hret, hresume]
    rfl
  unfold Upload.answerStep
  rw [hwaiting, hu]
  dsimp only
  rw [hservice, hresume]
  rfl

/-- A chunk has been accepted. -/
theorem Remains.drop (hrest : Remains fileData ms rest)
    (horder : InOrder r ms (frameOf ms.length (rest.take BULK_DATA_LENGTH))) :
    Remains fileData (ms ++ [frameOf ms.length (rest.take BULK_DATA_LENGTH)])
      (rest.drop BULK_DATA_LENGTH) := by
  refine ⟨?_, hrest.fits.append horder⟩
  rw [payload_append, payload_cons, payload_nil, List.append_nil, List.append_assoc]
  show payload ms ++ (rest.take BULK_DATA_LENGTH ++ rest.drop BULK_DATA_LENGTH) = fileData
  rw [List.take_append_drop]
  exact hrest.whole

/-- What a call of a job has returned, and where the two sides stand behind it. -/
theorem Job.returned {reply : Reply} {pc : HostPc} {sequence : Nat}
    (job : Job fileType fileName fileData r g call todo c ms) (hfits : FitsAll ms)
    (hs : c.Smooth r ms b) (hu : b.uart = .returned reply)
    (hpc : pc = .waiting call sequence todo) :
    ∃ ms' g' eError, resume g.hub c reply = (g'.hub, eError) ∧ FitsAll ms'
      ∧ Phase fileType fileName fileData r ms' g' pc
        [if eError = .none then PC_UART_PROTOCOL_ACK else PC_UART_PROTOCOL_NACK, eError.toByte] []
        none
      ∧ Stands r ms' g' { b with uart := .idle } none := by
  have hno : ∀ {P : Prop} {u : Uart}, b.uart = u → (∀ reply, u ≠ .returned reply) → P := by
    intro P u hu' hne
    exact absurd (hu'.symm.trans hu) (hne reply)
  rw [hpc]
  cases job with
  | start hr =>
      obtain ⟨-, hs⟩ : r = r ∧ _ := hs
      rcases hs with ⟨pc', hu', -⟩ | ⟨hu', hreceiving⟩ | ⟨hu', halone⟩
      · exact hno hu' fun reply h => by cases h
      · cases hu'.symm.trans hu
        exact ⟨[], .open_, .none, rfl, .nil, .accepted sequence hr ⟨rfl, .nil⟩ (by intro h; cases h),
          rfl, hreceiving.moves rfl⟩
      · cases hu'.symm.trans hu
        exact ⟨[], .closed, .bulkStartFailed, rfl, .nil, .refused sequence _ _, rfl,
          halone.moves rfl⟩
  | @data ms rest hr hrest hne =>
      rcases hs with ⟨pc', hu', -⟩ | ⟨hu', hreceiving⟩
      · exact hno hu' fun reply h => by cases h
      · cases hu'.symm.trans hu
        have horder : InOrder r ms (frameOf ms.length (rest.take BULK_DATA_LENGTH)) :=
          (Job.data hr hrest hne).proper
        have hphase : Phase fileType fileName fileData r _ .open_
            (.waiting (.data ms.length (rest.take BULK_DATA_LENGTH)) sequence _) _ [] none :=
          .accepted sequence hr (hrest.drop horder) (by intro h; cases h)
        rw [List.length_append, List.length_singleton] at hphase
        exact ⟨_, .open_, .none, rfl, hrest.fits.append horder, hphase, rfl, hreceiving.moves rfl⟩
  | end_ hr hrest =>
      rcases hs with ⟨pc', hu', -⟩ | ⟨stResult, hu', hreported⟩
      · exact hno hu' fun reply h => by cases h
      · cases hu'.symm.trans hu
        rw [hreported.result]
        exact ⟨ms, .stored, .none, rfl, hfits, .finished sequence hr hrest, rfl,
          hreported.alone.moves rfl, hreported.stored⟩

theorem answerStep_returned (hst : u.answerStep = some u') :
    ∃ c reply, u.service.waiting = some c ∧ u.service.bulk.uart = .returned reply := by
  unfold Upload.answerStep at hst
  split at hst
  · next c reply hwaiting hu => exact ⟨c, reply, hwaiting, hu⟩
  · cases hst

theorem Upload.OnTrack.answer (h : u.OnTrack fileType fileName fileData r ms g)
    (hst : u.answerStep = some u') : u.Nearer fileType fileName fileData u' := by
  obtain ⟨c', reply, hwaits, hu⟩ := answerStep_returned hst
  have hphase := h.phase
  have hstands := h.stands
  have hno : u.service.waiting = none → u.Nearer fileType fileName fileData u' := by
    intro hwaiting
    rw [hwaits] at hwaiting
    cases hwaiting
  generalize hpc : u.pc = pc at hphase
  generalize hport : u.client.port = port at hphase
  generalize hwire : u.wire = wire at hphase
  generalize hwaiting : u.service.waiting = waiting at hphase hstands
  cases hphase with
  | opening => exact hno hwaiting
  | feeding hr hrest => exact hno hwaiting
  | sent sequence uiSeq job hleads => exact hno hwaiting
  | accepted sequence hr hrest hcall => exact hno hwaiting
  | finished sequence hr hrest => exact hno hwaiting
  | refused sequence error todo => exact hno hwaiting
  | @inCall _ _ call todo c sequence job =>
      have hs : c.Smooth r ms u.service.bulk := hstands
      obtain ⟨ms', g', eError, hresume, hfits, hphase', hstands'⟩ := job.returned h.fits hs hu hpc
      rw [← h.hub] at hresume
      have heq := answerStep_eq hwaiting hu hresume
      rw [hst] at heq
      obtain rfl := Option.some.inj heq
      have hret : u.service.bulk.step .ret = some { u.service.bulk with uart := .idle } := by
        show u.service.bulk.ret = _
        unfold Bulk.ret
        rw [hu]
      refine ⟨⟨r, ms', g', h.inv.step hret, ⟨h.calm.handler, h.calm.work⟩, rfl, h.sequence,
        h.selected, rfl, hfits, ?_, hstands'⟩, ?_⟩
      · show Phase _ _ _ r ms' g' u.pc (u.client.port ++ _) u.wire none
        rw [hport, hwire]
        exact hpc ▸ hphase'
      · unfold Upload.distance
        show u.pc.distance u.wire none + (0 + u.service.bulk.work) < _
        rw [hpc, hwaiting, hwire, hu]
        show 50 * todo.length + 1 + (0 + u.service.bulk.work)
          < 50 * todo.length + 5 + (1 + u.service.bulk.work)
        omega

/-! ## §8. The host goes on. -/

theorem respond_eq {status error : UInt8} {sequence : Nat}
    (hport : u.client.port = [status, error]) (hstatus : status = UART_ACK ∨ status = UART_NACK) :
    readBridgeResponse call.command sequence u.client
      = (.ok (status, error), { u.client with port := [] }) := by
  have hread := readBridgeResponse_status hstatus error [] call.command sequence u.client
  rw [← hport] at hread
  exact hread

/-- The call has been accepted. -/
theorem respond_ack {sequence : Nat} (hport : u.client.port = [UART_ACK, 0]) :
    u.respond call sequence todo
      = { u with client := call.finish { u.client with port := [] }, pc := .calls todo } := by
  unfold Upload.respond
  rw [respond_eq hport (.inl rfl)]
  exact if_pos rfl

/-- The call has been refused: it raises. -/
theorem respond_nack {sequence : Nat} {error : UInt8} (hport : u.client.port = [UART_NACK, error]) :
    u.respond call sequence todo
      = { u with
          client := { u.client with port := [] }
          pc := .raised call (nackText call.command sequence error) } := by
  unfold Upload.respond
  rw [respond_eq hport (.inr rfl)]
  dsimp only
  rw [if_neg (show ¬ UART_NACK = UART_ACK by decide), if_pos rfl]

theorem finish_of_ne (hcall : call ≠ .end_) (client : BridgeClient) :
    call.finish client = client := by
  cases call with
  | start fileType fileName fileData => rfl
  | data frameId chunk => rfl
  | end_ => exact absurd rfl hcall

/-- The host goes on when there is a response. -/
theorem hostStep_waiting {sequence : Nat} (hpc : u.pc = .waiting call sequence todo) :
    u.hostStep
      = if u.client.port.length < 2 then none else some (u.respond call sequence todo) := by
  unfold Upload.hostStep
  rw [hpc]

/-- **A step of the host**: it may be the end. -/
theorem Upload.OnTrack.host (h : u.OnTrack fileType fileName fileData r ms g)
    (hst : u.hostStep = some u') :
    (u'.Refused fileType fileName fileData ∨ u'.Delivered fileType fileName fileData)
      ∨ u.Nearer fileType fileName fileData u' := by
  have hphase := h.phase
  have hstands := h.stands
  -- the host waits in silence as long as no response is there
  have hsilent : ∀ {call sequence todo} {P : Prop}, u.pc = .waiting call sequence todo →
      u.client.port = [] → P := by
    intro call sequence todo P hpc hport
    rw [hostStep_waiting hpc, hport, if_pos (by decide)] at hst
    cases hst
  generalize hpc : u.pc = pc at hphase
  generalize hport : u.client.port = port at hphase
  generalize hwire : u.wire = wire at hphase
  generalize hwaiting : u.service.waiting = waiting at hphase hstands
  cases hphase with
  | opening =>
      cases hpayload : BulkCall.payload (some OPERATION_LOCAL_BULK_FILE)
          (.start fileType fileName fileData) with
      | error error =>
          left
          left
          unfold Upload.hostStep transferCalls at *
          rw [hpc] at hst
          dsimp only at hst
          -- the host's own checks refuse the file
          rw [h.selected, hpayload] at hst
          cases hst
          exact ⟨error, rfl⟩
      | ok puiPayload =>
          right
          obtain ⟨r', hr, hleads⟩ := leadsTo_start hpayload
          have hground : Stands r' [] .closed u.service.bulk none := hstands
          obtain ⟨heq, hnearer⟩ := h.begin_ hpc hport hwire hwaiting hground (.start hr) hleads
          rw [hst] at heq
          obtain rfl := Option.some.inj heq
          exact hnearer
  | feeding hr hrest =>
      right
      -- the next call of the transfer, which the service is ready for
      obtain ⟨call, todo, c, puiPayload, hcalls, job, hleads⟩ := hrest.next hr
      rw [hcalls] at hpc
      obtain ⟨heq, hnearer⟩ := h.begin_ hpc hport hwire hwaiting hstands job hleads
      rw [hst] at heq
      obtain rfl := Option.some.inj heq
      exact hnearer
  | sent sequence uiSeq job hleads => exact hsilent hpc hport
  | inCall sequence job => exact hsilent hpc hport
  | accepted sequence hr hrest hcall =>
      right
      rw [hostStep_waiting hpc, hport, if_neg (by decide), respond_ack hport,
        finish_of_ne hcall] at hst
      obtain rfl := Option.some.inj hst
      refine ⟨⟨r, ms, .open_, h.inv, h.calm, h.debug, h.sequence, h.selected, h.hub, h.fits, ?_, ?_⟩, ?_⟩
      · rw [hwire, hwaiting]
        exact .feeding hr hrest
      · rw [hwaiting]
        exact hstands
      · refine Nat.add_lt_add_right ?_ _
        rw [hpc, hwire, hwaiting]
        exact Nat.lt_succ_self _
  | finished sequence hr hrest =>
      left
      right
      -- the last call has succeeded: the file is stored under its path
      obtain ⟨-, -, path, htarget, hfile⟩ := hstands
      rw [hostStep_waiting hpc, hport, if_neg (by decide), respond_ack hport] at hst
      obtain rfl := Option.some.inj hst
      refine ⟨rfl, path, ?_, ?_⟩
      · rw [← hr.eFileType, ← hr.pcaFileName]
        exact htarget
      · have hwhole := hrest.whole
        -- the frames sent are the whole file
        rw [List.append_nil] at hwhole
        rw [← hwhole]
        exact hfile
  | refused sequence error todo =>
      left
      left
      rw [hostStep_waiting hpc, hport, if_neg (show ¬ [UART_NACK, error].length < 2 from
        Nat.lt_irrefl 2), respond_nack hport] at hst
      obtain rfl := Option.some.inj hst
      exact ⟨_, rfl⟩

/-! ## §9. Every step, and that there is one. -/

/-- **A step without a fault, by which no frame finds the queue full**, is the end of the
upload or brings it nearer. -/
theorem Upload.OnTrack.step {a : UploadAct} (h : u.OnTrack fileType fileName fileData r ms g)
    (hok : Smoothly u a) (hst : u.step a = some u') :
    (u'.Refused fileType fileName fileData ∨ u'.Delivered fileType fileName fileData)
      ∨ u.Nearer fileType fileName fileData u' := by
  cases a with
  | host => exact h.host hst
  | read env => exact .inr (h.read hst)
  | inCall env => exact .inr (h.inCall hok.1 hok.2 hst)
  | answer => exact .inr (h.answer hst)
  | worker env => exact .inr (h.worker hok.1 hst)
  | tail i => exact .inr (h.tail hst)
  | handler env => exact absurd hst h.handler

/-- **There is a step**: the host can send or has its response, or the controller can go on. -/
theorem Upload.OnTrack.progress (h : u.OnTrack fileType fileName fileData r ms g) :
    ∃ a u', Smoothly u a ∧ u.step a = some u' := by
  have hphase := h.phase
  have hstands := h.stands
  have hanswered : ∀ {call sequence todo status error}, u.pc = .waiting call sequence todo →
      u.client.port = [status, error] → ∃ a u', Smoothly u a ∧ u.step a = some u' := by
    intro call sequence todo status error hpc hport
    refine ⟨.host, u.respond call sequence todo, ⟨trivial, trivial⟩, ?_⟩
    show u.hostStep = _
    rw [hostStep_waiting hpc, hport]
    exact if_neg (Nat.lt_irrefl 2)
  generalize hpc : u.pc = pc at hphase
  generalize hport : u.client.port = port at hphase
  generalize hwire : u.wire = wire at hphase
  generalize hwaiting : u.service.waiting = waiting at hphase hstands
  cases hphase with
  | opening =>
      cases hpayload : BulkCall.payload u.client.selectedOperation
          (.start fileType fileName fileData) with
      | error error =>
          refine ⟨.host, { u with pc := .raised (.start fileType fileName fileData) error },
            ⟨trivial, trivial⟩, ?_⟩
          show u.hostStep = _
          unfold Upload.hostStep
          rw [hpc]
          unfold transferCalls
          dsimp only
          rw [hpayload]
      | ok puiPayload =>
          rw [h.selected] at hpayload
          obtain ⟨r', hr, hleads⟩ := leadsTo_start hpayload
          have hground : Stands r' [] .closed u.service.bulk none := hstands
          have hbegin := h.begin_ hpc hport hwire hwaiting hground (.start hr) hleads
          exact ⟨.host, _, ⟨trivial, trivial⟩, hbegin.1⟩
  | feeding hr hrest =>
      obtain ⟨call, todo, c, puiPayload, hcalls, job, hleads⟩ := hrest.next hr
      rw [hcalls] at hpc
      have hbegin := h.begin_ hpc hport hwire hwaiting hstands job hleads
      exact ⟨.host, _, ⟨trivial, trivial⟩, hbegin.1⟩
  | sent sequence uiSeq job hleads =>
      obtain ⟨hu, -⟩ : u.service.bulk.uart = .idle ∧ _ := hstands
      rw [← h.hub] at hleads
      exact ⟨.read ⟨true, 0, true⟩, _, ⟨trivial, trivial⟩,
        readStep_eq ⟨true, 0, true⟩ h.debug hwaiting hu hwire hleads⟩
  | accepted sequence hr hrest hcall => exact hanswered hpc hport
  | finished sequence hr hrest => exact hanswered hpc hport
  | refused sequence error todo => exact hanswered hpc hport
  | @inCall _ _ call todo c sequence job =>
      have hs : c.Smooth r ms u.service.bulk := hstands
      have hgoes : ∀ {a : ServiceAct} {x : Act} {b'},
          u.service.step a = (u.service.bulk.step x).map (fun bulk => { u.service with bulk := bulk }) →
          u.service.bulk.step x = some b' → ∃ u', u.serviceStep a = some u' := by
        intro a x b' hstep hb
        unfold Upload.serviceStep
        rw [hstep, hb]
        exact ⟨_, rfl⟩
      rcases hs.progress job.proper h.inv h.calm with ⟨reply, hu⟩ | hgo
      · obtain ⟨ms', g', eError, hresume, -⟩ := job.returned h.fits hs hu hpc
        rw [← h.hub] at hresume
        exact ⟨.answer, _, ⟨trivial, trivial⟩, answerStep_eq hwaiting hu hresume⟩
      · rcases hgo with ⟨env, b', hfaultless, hroom, hb⟩ | ⟨env, b', hfaultless, hb⟩ | ⟨b', hb⟩
        · obtain ⟨u', hst⟩ := hgoes (a := .inCall env) (x := .uart env) rfl hb
          exact ⟨.inCall env, u', ⟨hfaultless, hroom⟩, hst⟩
        · obtain ⟨u', hst⟩ := hgoes (a := .worker env) (x := .worker env) rfl hb
          exact ⟨.worker env, u', ⟨hfaultless, trivial⟩, hst⟩
        · obtain ⟨u', hst⟩ := hgoes (a := .tail 0) (x := .tail 0) rfl hb
          exact ⟨.tail 0, u', ⟨trivial, trivial⟩, hst⟩

end WallController.Host
