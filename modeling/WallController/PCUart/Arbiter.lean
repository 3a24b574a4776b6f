/-
  WallController.PCUart.Arbiter
  ────────────────────────────────
  **THE OPERATION ARBITER.**

  The hub as a machine over frames, where the bulk controller, the CAN driver
  and the file reads answer anything.  `Served` lists the ways a frame can be
  served; all else is derived from it.

  Main results:
    * `serve_served`: there are no other ways.
    * `operation_arbitrated`: in the runs without a `BulkEnd` that is malformed
      or outside a session, the session lies within its operation, the
      operation changes only as the protocol says, and a rejected frame
      changes nothing.  On each single frame the condition is also necessary.
-/
import WallController.PCUart.Hub
import WallController.Lib.Runs

namespace WallController.PCUart

open WallController.Lib WallController.LittleFs

/-! ## §1. The hub as a machine over frames. -/

/-- The results of the calls of the bulk controller. -/
structure Replies where
  bResult : Bool
  iResult : Int
  stResult : TransferResult

/-- The result of a call. -/
def Replies.to (r : Replies) (c : Call) : Reply :=
  match c with
  | .start _ => .started r.bResult
  | .send _ => .sent r.iResult
  | .end_ => .ended r.stResult

/-- A frame, with the results of all that it calls. -/
structure Request where
  frame : Frame
  env : UartEnv
  replies : Replies

/-- `ePC_UART_API_DispatchFrame`: the state and the error code. -/
def serve (hub : Hub) (q : Request) : Hub × Error :=
  match dispatchFrame q.env hub q.frame with
  | .now hub' eError => (hub', eError)
  | .call c => resume hub c (q.replies.to c)

def hubSystem : TransSys Hub Request where
  init hub := hub = Hub.init
  step hub q hub' := (serve hub q).1 = hub'

/-! ## §2. The ways a frame is served. -/

/-- The answers that reject a frame. -/
def Error.rejects : Error → Bool
  | .invalidLength | .invalidCommand | .invalidFrame | .invalidOperation | .operationBusy => true
  | _ => false

/-- What a frame does to the state, and how it is answered. -/
inductive Served (hub : Hub) (f : Frame) : Hub × Error → Prop
  /-- Nothing changes. -/
  | same (eError : Error)
      (hend : f.uiCommand = ePC_UART_Command_BulkEnd → hub.eActiveOperation ≠ .localBulkFile) :
      Served hub f (hub, eError)
  /-- An operation is selected. -/
  | selected (o : Operation) (hcmd : f.uiCommand = ePC_UART_Command_SelectOperation)
      (hidle : hub.eActiveOperation = .idle) :
      Served hub f ({ hub with eActiveOperation := o }, .none)
  /-- The operation is released. -/
  | released (hcmd : f.uiCommand = ePC_UART_Command_ReleaseOperation)
      (hfree : ¬ (hub.eActiveOperation = .localBulkFile ∧ hub.bBulkSessionActive = true)) :
      Served hub f ({ hub with eActiveOperation := .idle }, .none)
  /-- A session begins. -/
  | opened (hcmd : f.uiCommand = ePC_UART_Command_BulkStart)
      (hop : hub.eActiveOperation = .localBulkFile) :
      Served hub f ({ hub with bBulkSessionActive := true }, .none)
  /-- A session ends, and its operation with it. -/
  | ended (eError : Error) (hcmd : f.uiCommand = ePC_UART_Command_BulkEnd)
      (hop : hub.eActiveOperation = .localBulkFile) (hlen : f.uiPayloadLen = 0)
      (hsession : hub.bBulkSessionActive = true) (herr : eError.rejects = false) :
      Served hub f ({ eActiveOperation := .idle, bBulkSessionActive := false }, eError)
  /-- A rejected `BulkEnd`: the operation is dropped all the same. -/
  | dropped (eError : Error) (hcmd : f.uiCommand = ePC_UART_Command_BulkEnd)
      (hop : hub.eActiveOperation = .localBulkFile)
      (hbad : f.uiPayloadLen ≠ 0 ∨ hub.bBulkSessionActive = false)
      (herr : eError.rejects = true) :
      Served hub f ({ hub with eActiveOperation := .idle }, eError)

variable {hub : Hub} {q : Request}

theorem serve_select (hcmd : q.frame.uiCommand = ePC_UART_Command_SelectOperation) :
    Served hub q.frame (serve hub q) := by
  have hserve : serve hub q
      = eSelectOperation hub q.frame.puiPayload q.frame.uiPayloadLen := by
    simp only [serve, dispatchFrame, if_pos hcmd]
  have hend : q.frame.uiCommand = ePC_UART_Command_BulkEnd →
      hub.eActiveOperation ≠ .localBulkFile := fun h => absurd (hcmd.symm.trans h) (by decide)
  rw [hserve]
  unfold eSelectOperation
  split
  · exact .same _ hend
  · split
    · exact .same _ hend
    · split
      · exact .same _ hend
      · next o ho =>
        split
        · exact .same _ hend
        · split
          · exact .same _ hend
          · next hidle => exact .selected o hcmd (not_not.mp hidle)

theorem serve_release (hcmd : q.frame.uiCommand = ePC_UART_Command_ReleaseOperation) :
    Served hub q.frame (serve hub q) := by
  have hne : q.frame.uiCommand ≠ ePC_UART_Command_SelectOperation := by rw [hcmd]; decide
  have hserve : serve hub q = eReleaseOperation hub q.frame.uiPayloadLen := by
    simp only [serve, dispatchFrame, if_neg hne, if_pos hcmd]
  have hend : q.frame.uiCommand = ePC_UART_Command_BulkEnd →
      hub.eActiveOperation ≠ .localBulkFile := fun h => absurd (hcmd.symm.trans h) (by decide)
  rw [hserve]
  unfold eReleaseOperation
  split
  · exact .same _ hend
  · split
    · exact .same _ hend
    · next hfree => exact .released hcmd hfree

/-- `eProcess_BulkStart` answers at once, or it calls. -/
theorem bulkStart_answer (hub : Hub) (p : Option (List UInt8)) (n : Nat) :
    (∃ eError, eProcessBulkStart hub p n = .now hub eError)
      ∨ ∃ r, eProcessBulkStart hub p n = .call (.start r) := by
  unfold eProcessBulkStart
  cases p with
  | none => exact Or.inl ⟨_, rfl⟩
  | some p =>
    simp only
    split
    · exact Or.inl ⟨_, rfl⟩
    · split
      · exact Or.inl ⟨_, rfl⟩
      · split
        · exact Or.inl ⟨_, rfl⟩
        · exact Or.inr ⟨_, rfl⟩

/-- `eProcess_BulkData` answers at once, or it calls inside a session. -/
theorem bulkData_answer (hub : Hub) (p : Option (List UInt8)) (n : Nat) :
    (∃ eError, eProcessBulkData hub p n = .now hub eError)
      ∨ (hub.bBulkSessionActive = true ∧ ∃ m, eProcessBulkData hub p n = .call (.send m)) := by
  unfold eProcessBulkData
  by_cases hs : hub.bBulkSessionActive = true
  · rw [if_neg (by simp [hs])]
    cases p with
    | none => exact Or.inl ⟨_, rfl⟩
    | some p =>
      simp only
      split
      · exact Or.inl ⟨_, rfl⟩
      · split
        · exact Or.inl ⟨_, rfl⟩
        · exact Or.inr ⟨hs, _, rfl⟩
  · rw [if_pos (by simp [hs])]
    exact Or.inl ⟨_, rfl⟩

/-- `eProcess_BulkEnd` calls for an empty payload inside a session. -/
theorem bulkEnd_answer (hub : Hub) (n : Nat) :
    (∃ eError, eError.rejects = true ∧ (n ≠ 0 ∨ hub.bBulkSessionActive = false)
        ∧ eProcessBulkEnd hub n = .now hub eError)
      ∨ (n = 0 ∧ hub.bBulkSessionActive = true ∧ eProcessBulkEnd hub n = .call .end_) := by
  unfold eProcessBulkEnd
  by_cases hn : n = 0
  · by_cases hs : hub.bBulkSessionActive = true
    · exact Or.inr ⟨hn, hs, by simp [hn, hs]⟩
    · have hs' : hub.bBulkSessionActive = false := Bool.eq_false_iff.mpr hs
      exact Or.inl ⟨.invalidOperation, rfl, Or.inr hs', by simp [hn, hs']⟩
  · exact Or.inl ⟨.invalidLength, rfl, Or.inl hn, by simp [hn]⟩

/-- The end of a session: the flag is cleared, and the error code does not
reject. -/
theorem bulkEnd_result (hub : Hub) (r : TransferResult) :
    (eProcessBulkEndResult hub r).1 = { hub with bBulkSessionActive := false }
      ∧ (eProcessBulkEndResult hub r).2.rejects = false := by
  unfold eProcessBulkEndResult
  simp only
  split
  · exact ⟨rfl, rfl⟩
  · split <;> exact ⟨rfl, rfl⟩

/-- How a frame for the bulk file service is dispatched. -/
inductive Dispatched (hub : Hub) (f : Frame) : Answer → Prop
  | now (eError : Error) (hcmd : f.uiCommand ≠ ePC_UART_Command_BulkEnd) :
      Dispatched hub f (.now hub eError)
  | start (r : BulkTransferData) (hcmd : f.uiCommand = ePC_UART_Command_BulkStart) :
      Dispatched hub f (.call (.start r))
  | send (m : MsgData) (hcmd : f.uiCommand = ePC_UART_Command_BulkData)
      (hsession : hub.bBulkSessionActive = true) : Dispatched hub f (.call (.send m))
  | end_ (hcmd : f.uiCommand = ePC_UART_Command_BulkEnd) (hlen : f.uiPayloadLen = 0)
      (hsession : hub.bBulkSessionActive = true) : Dispatched hub f (.call .end_)
  | dropped (eError : Error) (hcmd : f.uiCommand = ePC_UART_Command_BulkEnd)
      (hbad : f.uiPayloadLen ≠ 0 ∨ hub.bBulkSessionActive = false)
      (herr : eError.rejects = true) :
      Dispatched hub f (.now { hub with eActiveOperation := .idle } eError)

theorem dispatchFrame_bulk {env : UartEnv} {f : Frame}
    (hop : hub.eActiveOperation = .localBulkFile)
    (hsel : f.uiCommand ≠ ePC_UART_Command_SelectOperation)
    (hrel : f.uiCommand ≠ ePC_UART_Command_ReleaseOperation) :
    Dispatched hub f (dispatchFrame env hub f) := by
  unfold dispatchFrame
  rw [if_neg hsel, if_neg hrel]
  simp only [hop, ePCUARTBulkFileServiceProcess]
  by_cases h1 : f.uiCommand = ePC_UART_Command_BulkStart
  · have hend : f.uiCommand ≠ ePC_UART_Command_BulkEnd := by rw [h1]; decide
    rw [if_pos h1]
    rcases bulkStart_answer hub f.puiPayload f.uiPayloadLen with ⟨e, h⟩ | ⟨r, h⟩
    · rw [h]
      exact .now e hend
    · rw [h]
      exact .start r h1
  rw [if_neg h1]
  by_cases h2 : f.uiCommand = ePC_UART_Command_BulkData
  · have hend : f.uiCommand ≠ ePC_UART_Command_BulkEnd := by rw [h2]; decide
    rw [if_pos h2]
    rcases bulkData_answer hub f.puiPayload f.uiPayloadLen with ⟨e, h⟩ | ⟨hs, m, h⟩
    · rw [h]
      exact .now e hend
    · rw [h]
      exact .send m h2 hs
  rw [if_neg h2]
  by_cases h3 : f.uiCommand = ePC_UART_Command_BulkEnd
  · rw [if_pos h3]
    rcases bulkEnd_answer hub f.uiPayloadLen with ⟨e, he, hbad, h⟩ | ⟨hn, hs, h⟩
    · rw [h]
      exact .dropped e h3 hbad he
    · rw [h]
      exact .end_ h3 hn hs
  rw [if_neg h3]
  by_cases h4 : f.uiCommand = ePC_UART_Command_ConfigRead
  · rw [if_pos h4]
    exact .now _ h3
  · rw [if_neg h4]
    exact .now _ h3

/-- A frame for the bulk file service. -/
theorem serve_bulk (hop : hub.eActiveOperation = .localBulkFile)
    (hsel : q.frame.uiCommand ≠ ePC_UART_Command_SelectOperation)
    (hrel : q.frame.uiCommand ≠ ePC_UART_Command_ReleaseOperation) :
    Served hub q.frame (serve hub q) := by
  have hd : Dispatched hub q.frame (dispatchFrame q.env hub q.frame) :=
    dispatchFrame_bulk hop hsel hrel
  unfold serve
  generalize dispatchFrame q.env hub q.frame = a at hd ⊢
  cases hd with
  | now e hcmd => exact .same e fun h => absurd h hcmd
  | start r hcmd =>
    show Served hub q.frame (eProcessBulkStartResult hub q.replies.bResult)
    unfold eProcessBulkStartResult
    split
    · exact .same _ fun h => absurd (hcmd.symm.trans h) (by decide)
    · exact .opened hcmd hop
  | send m hcmd hs =>
    have hend : q.frame.uiCommand = ePC_UART_Command_BulkEnd →
        hub.eActiveOperation ≠ .localBulkFile := fun h => absurd (hcmd.symm.trans h) (by decide)
    show Served hub q.frame (eProcessBulkDataResult hub q.replies.iResult)
    unfold eProcessBulkDataResult
    split
    · exact .same _ hend
    · split <;> exact .same _ hend
  | end_ hcmd hlen hs =>
    obtain ⟨hhub, herr⟩ := bulkEnd_result hub q.replies.stResult
    show Served hub q.frame
      ({ (eProcessBulkEndResult hub q.replies.stResult).1 with eActiveOperation := .idle },
        (eProcessBulkEndResult hub q.replies.stResult).2)
    rw [hhub]
    exact .ended _ hcmd hop hlen hs herr
  | dropped e hcmd hbad he => exact .dropped e hcmd hop hbad he

/-- **Every frame is served in one of the six ways.** -/
theorem serve_served (hub : Hub) (q : Request) : Served hub q.frame (serve hub q) := by
  by_cases hsel : q.frame.uiCommand = ePC_UART_Command_SelectOperation
  · exact serve_select hsel
  by_cases hrel : q.frame.uiCommand = ePC_UART_Command_ReleaseOperation
  · exact serve_release hrel
  cases hop : hub.eActiveOperation with
  | localBulkFile => exact serve_bulk hop hsel hrel
  | firmwareBridge =>
    unfold serve dispatchFrame
    rw [if_neg hsel, if_neg hrel]
    simp only [hop]
    exact .same _ fun _ => by simp [hop]
  | idle =>
    unfold serve dispatchFrame
    rw [if_neg hsel, if_neg hrel]
    simp only [hop]
    exact .same _ fun _ => by simp [hop]

/-! ## §3. The arbiter. -/

/-- The session lies within its operation. -/
def SessionInside (hub : Hub) : Prop :=
  hub.bBulkSessionActive = true → hub.eActiveOperation = .localBulkFile

/-- What one frame may do: the operation changes through a selection from
idle, a release, or the end of an active session; a rejected frame changes
nothing. -/
structure Arbitrated (hub : Hub) (q : Request) : Prop where
  changes : (serve hub q).1.eActiveOperation ≠ hub.eActiveOperation →
    (q.frame.uiCommand = ePC_UART_Command_SelectOperation ∧ (serve hub q).2 = .none
        ∧ hub.eActiveOperation = .idle)
      ∨ (q.frame.uiCommand = ePC_UART_Command_ReleaseOperation ∧ (serve hub q).2 = .none)
      ∨ (q.frame.uiCommand = ePC_UART_Command_BulkEnd ∧ hub.bBulkSessionActive = true
        ∧ (serve hub q).1.bBulkSessionActive = false)
  rejected : (serve hub q).2.rejects = true → (serve hub q).1 = hub

/-- A `BulkEnd` for the bulk file service has no payload and ends a session. -/
def OrderlyEnd (hub : Hub) (q : Request) : Prop :=
  q.frame.uiCommand = ePC_UART_Command_BulkEnd → hub.eActiveOperation = .localBulkFile →
    q.frame.uiPayloadLen = 0 ∧ hub.bBulkSessionActive = true

instance : Decidable (SessionInside hub) := inferInstanceAs (Decidable (_ → _))

instance : Decidable (OrderlyEnd hub q) := inferInstanceAs (Decidable (_ → _ → _))

theorem SessionInside.served {f : Frame} {out : Hub × Error} (hi : SessionInside hub)
    (h : Served hub f out)
    (hend : f.uiCommand = ePC_UART_Command_BulkEnd → hub.eActiveOperation = .localBulkFile →
      f.uiPayloadLen = 0 ∧ hub.bBulkSessionActive = true) : SessionInside out.1 := by
  cases h with
  | same e _ => exact hi
  | selected o hcmd hidle =>
    intro hs
    exact absurd (hidle.symm.trans (hi hs)) (by simp)
  | released hcmd hfree =>
    intro hs
    exact absurd ⟨hi hs, hs⟩ hfree
  | opened hcmd hop => exact fun _ => hop
  | ended e hcmd hop hlen hs herr => exact fun h => by cases h
  | dropped e hcmd hop hbad herr =>
    obtain ⟨hlen, hs⟩ := hend hcmd hop
    rcases hbad with hbad | hbad
    · exact absurd hlen hbad
    · exact absurd (hs.symm.trans hbad) (by simp)

/-- **One frame is arbitrated exactly when it is no disorderly `BulkEnd`.** -/
theorem arbitrated_iff (hub : Hub) (q : Request) : Arbitrated hub q ↔ OrderlyEnd hub q := by
  have hserved := serve_served hub q
  constructor
  · rintro ⟨-, hrej⟩ hcmd hop
    generalize serve hub q = out at hserved hrej
    cases hserved with
    | same e hne => exact absurd hop (hne hcmd)
    | selected o hc hidle => exact absurd (hc.symm.trans hcmd) (by decide)
    | released hc hfree => exact absurd (hc.symm.trans hcmd) (by decide)
    | opened hc _ => exact absurd (hc.symm.trans hcmd) (by decide)
    | ended e _ _ hlen hs _ => exact ⟨hlen, hs⟩
    | dropped e _ _ hbad herr =>
      have heq := hrej herr
      exact absurd (congrArg Hub.eActiveOperation heq) (by simp [hop])
  · intro hend
    constructor
    · intro hne
      generalize serve hub q = out at hserved hne ⊢
      cases hserved with
      | same e _ => exact absurd rfl hne
      | selected o hc hidle => exact Or.inl ⟨hc, rfl, hidle⟩
      | released hc _ => exact Or.inr (Or.inl ⟨hc, rfl⟩)
      | opened _ _ => exact absurd rfl hne
      | ended e hc _ _ hs _ => exact Or.inr (Or.inr ⟨hc, hs, rfl⟩)
      | dropped e hc hop hbad _ =>
        obtain ⟨hlen, hs⟩ := hend hc hop
        exact absurd hbad (by simp [hlen, hs])
    · intro herr
      generalize serve hub q = out at hserved herr ⊢
      cases hserved with
      | same e _ => rfl
      | ended e _ _ _ _ h => exact absurd (h.symm.trans herr) (by simp)
      | dropped e hc hop hbad _ =>
        obtain ⟨hlen, hs⟩ := hend hc hop
        exact absurd hbad (by simp [hlen, hs])
      | selected | released | opened => cases herr

/-- **The arbiter over all runs.**  In the runs whose `BulkEnd` frames, when
the bulk file service is selected, are empty and end a session, every state
has its session inside the operation; and from every state such a frame
changes the operation only through a selection, a release or the end of the
session, and changes nothing when it is rejected. -/
theorem operation_arbitrated (h : hubSystem.ReachableVia OrderlyEnd hub) :
    (hub.bBulkSessionActive = true → hub.eActiveOperation = .localBulkFile)
      ∧ ∀ q, OrderlyEnd hub q → Arbitrated hub q := by
  refine ⟨?_, fun q hq => (arbitrated_iff hub q).mpr hq⟩
  refine TransSys.ReachableVia.invariant (I := SessionInside) ?_ ?_ h
  · rintro hub rfl hs
    cases hs
  · rintro hub q hub' hi hq rfl
    exact hi.served (serve_served hub q) hq

/-- A frame whose calls all succeed. -/
def Request.healthy (uiCommand : UInt8) (payload : List UInt8) : Request where
  frame := ⟨uiCommand, some payload, payload.length, fun _ h => by cases h; exact Nat.le_refl _⟩
  env := ⟨true, 0, true⟩
  replies := ⟨true, 0, ⟨.success, .none⟩⟩

/-- The bulk file service is selected, and a transfer of three bytes begins. -/
def openSession : List Request :=
  [.healthy ePC_UART_Command_SelectOperation [2],
    .healthy ePC_UART_Command_BulkStart [1, 0, 0, 0, 3, 0, 0, 1, 0x61]]

/-- The session is open, inside its operation. -/
theorem operation_arbitrated_session :
    ∃ hub, hubSystem.ReachableVia OrderlyEnd hub ∧ hub.bBulkSessionActive = true
      ∧ hub.eActiveOperation = .localBulkFile ∧ ∀ q, OrderlyEnd hub q → Arbitrated hub q := by
  have hreach : hubSystem.ReachableVia OrderlyEnd
      (openSession.foldl (fun hub q => (serve hub q).1) Hub.init) :=
    TransSys.ReachableVia.foldl (fun _ _ => rfl) (.init rfl) _ (by decide +kernel)
  have hs : (openSession.foldl (fun hub q => (serve hub q).1) Hub.init).bBulkSessionActive
      = true := by decide +kernel
  obtain ⟨hop, harb⟩ := operation_arbitrated hreach
  exact ⟨_, hreach, hs, hop hs, harb⟩

/-- A `BulkEnd` with a byte of payload is rejected with `InvalidLength`, but
it takes the operation away from the open session. -/
theorem operation_not_arbitrated :
    ¬ ∀ hub, hubSystem.Reachable hub → SessionInside hub ∧ ∀ q, Arbitrated hub q := by
  intro h
  have hreach : hubSystem.Reachable
      ((openSession ++ [Request.healthy ePC_UART_Command_BulkEnd [0]]).foldl
        (fun hub q => (serve hub q).1) Hub.init) :=
    TransSys.Reachable.foldl (fun _ _ => rfl) (.init rfl) _
  exact absurd (h _ hreach).1 (by decide +kernel)

end WallController.PCUart
