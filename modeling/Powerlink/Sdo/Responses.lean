import Powerlink.Sdo.Requests
import Powerlink.Sdo.ClientConnection

/-! # Responses and their requests

Two ways in which a response refers to its request: it acknowledges the sequence number of the
frame, and it names the transaction of the command.

* `response_acknowledges_iff`: the response to the next frame in order acknowledges it, except
  when the command is refused.  A refusal resets the connection before the acknowledgement is
  filled in, so that it acknowledges sequence number `63` and the client drops it.
* `response_belongs_iff`: a response with a command names the transaction of the request unless
  the command is a client abort (the echo has an empty header) or does not decode (the
  transaction is then read from the low bits of the first octet). -/

namespace Powerlink

open SdoSequenceHandler

/-- The command that a verdict sends. -/
def Verdict.response {σ η : Type} (transactionId : UInt8) : Verdict σ η → SdoCommand
  | refuse abortCode _ => .abortResponse transactionId abortCode
  | clientAbort => abortEcho
  | answer segmentSize payload _ => .answerTo transactionId segmentSize payload
  | segment t => t.uploadSegment
  | receive _ | complete _ => .answerTo transactionId 0 []
  | delegated response _ _ => response

namespace SdoSequenceHandler

variable {σ η : Type} {h : SdoSequenceHandler} {od : ObjectDictionary σ} {currentTimeUs : ℕ}
  {ch : η} {request responseHeader : SequenceLayerHeader} {r : SdoResponseData}

theorem conclude_command (v : UInt8 × Verdict σ η)
    (hok : (h.conclude responseHeader od currentTimeUs ch v).result = .ok r) :
    r.command = v.2.response v.1 := by
  obtain ⟨tid, v⟩ := v
  cases v <;> cases hok <;> rfl

/-- A response with a command acknowledges the last received frame, or `63` after a reset. -/
theorem conclude_receiveSequenceNumber (v : UInt8 × Verdict σ η)
    (hok : (h.conclude responseHeader od currentTimeUs ch v).result = .ok r) :
    r.seqHeader.receiveSequenceNumber =
      if v.2.isRefusal then 63 else h.lastReceivedSequenceNumber := by
  obtain ⟨tid, v⟩ := v
  cases v <;> cases hok <;> rfl

theorem handleEmptyPayload_receiveSequenceNumber
    (hok : (h.handleEmptyPayload request responseHeader od currentTimeUs).1 = .ok r) :
    r.seqHeader.receiveSequenceNumber = h.lastReceivedSequenceNumber := by
  by_cases hcon : h.state = .opening ∨ request.sendCon = .connectionValid
  · by_cases hup : ∃ t, h.state = .segmentedUpload t
    · obtain ⟨t, hs⟩ := hup
      have hvalid : request.sendCon = .connectionValid := by simpa [hs] using hcon
      rw [handleEmptyPayload_upload hs hvalid] at hok
      cases hok
      rfl
    · rw [handleEmptyPayload_acknowledge (not_exists.mp hup) hcon] at hok
      cases hok
      rfl
  · obtain ⟨hs, hvalid⟩ := not_or.mp hcon
    rw [handleEmptyPayload_error hs hvalid] at hok
    cases hok

/-- A request for retransmission is acknowledged in every state. -/
theorem handleErrorResponse_receiveSequenceNumber (hopen : h.state.isOpen)
    (hnext : request.sendSequenceNumber = nextSequence h.lastReceivedSequenceNumber)
    (hok : (h.handleErrorResponse request).1 = .ok r) :
    r.seqHeader.receiveSequenceNumber = request.sendSequenceNumber := by
  obtain ⟨sendCon, hseq⟩ := processSequenceLayer_inOrder hopen hnext
  rcases handleErrorResponse_cases h request with ⟨command, hresent⟩ | hacknowledged
  · rw [hresent] at hok
    cases hok
    rfl
  · rw [hacknowledged, hseq] at hok
    cases hok
    rfl

end SdoSequenceHandler

/-! ### Acknowledgements -/

/-- The response acknowledges the frame, and no client that waits for the answer to this frame
drops it. -/
def Acknowledges (r : SdoResponseData) (request : SequenceLayerHeader) : Prop :=
  r.seqHeader.receiveSequenceNumber = request.sendSequenceNumber ∧
    ∀ (c : SdoClientConnection) (frame : SequenceLayerHeader × SdoCommand),
      c.lastSentCommand = some frame →
      frame.1.sendSequenceNumber = request.sendSequenceNumber →
      c.handleResponse r.seqHeader r.command ≠ some c

/-- The client accepts a response because of its acknowledgement alone. -/
theorem acknowledges_iff (r : SdoResponseData) (request : SequenceLayerHeader) :
    Acknowledges r request ↔
      r.seqHeader.receiveSequenceNumber = request.sendSequenceNumber := by
  refine ⟨fun hack => hack.1, fun hrsn => ⟨hrsn, fun c frame hsent hseq => ?_⟩⟩
  rw [Ne, SdoClientConnection.handleResponse_eq_self_iff hsent, not_not, hrsn, hseq]

section acknowledgements

variable {σ η : Type} [ObjectDictionaryStorage σ] [SdoCommandHandler σ η]

/-- The acknowledgement of a segment does not change whether a command is refused. -/
theorem verdict_acknowledge_isRefusal (h : SdoSequenceHandler) (request : SequenceLayerHeader)
    (commandPayload : List UInt8) (od : ObjectDictionary σ) (currentTimeUs : ℕ) (ch : η) :
    (verdict (h.acknowledge request) commandPayload od currentTimeUs ch).2.isRefusal =
      (verdict h.state commandPayload od currentTimeUs ch).2.isRefusal := by
  unfold acknowledge
  cases h.state with
  | segmentedUpload t =>
      dsimp only
      split_ifs
      · unfold verdict
        cases SdoCommand.deserialize commandPayload with
        | error e => rfl
        | ok command =>
            simp only [Verdict.ofCommand, Verdict.duringUpload_isRefusal]
            rfl
      · rfl
  | closed | opening | established | segmentedDownload t => rfl

theorem response_acknowledges_iff {h : SdoSequenceHandler} (hopen : h.state.isOpen)
    (payload : List UInt8) {request : SequenceLayerHeader}
    (hdec : SequenceLayerHeader.deserialize (payload.take 4) = .ok request)
    (hnext : request.sendSequenceNumber = nextSequence h.lastReceivedSequenceNumber)
    (od : ObjectDictionary σ) (currentTimeUs : ℕ) (ch : η) {r : SdoResponseData}
    (hok : (h.handleRequest payload od currentTimeUs ch).result = .ok r) :
    Acknowledges r request ↔
      request.receiveCon = .errorResponse ∨ payload.drop 4 = [] ∨
        (verdict h.state (payload.drop 4) od currentTimeUs ch).2.isRefusal = false ∨
        request.sendSequenceNumber = 63 := by
  rw [acknowledges_iff]
  by_cases hr : request.receiveCon = .errorResponse
  · rw [handleRequest_errorResponse hdec hr] at hok
    exact iff_of_true (handleErrorResponse_receiveSequenceNumber hopen hnext hok) (.inl hr)
  · obtain ⟨sendCon, hseq⟩ := processSequenceLayer_inOrder hopen hnext
    by_cases hempty : payload.drop 4 = []
    · rw [handleRequest_empty hdec hr hseq hempty] at hok
      exact iff_of_true (handleEmptyPayload_receiveSequenceNumber hok) (.inr (.inl hempty))
    · rw [handleRequest_command hdec hr hseq hempty] at hok
      have hrefuse := verdict_acknowledge_isRefusal h request (payload.drop 4) od currentTimeUs ch
      have hrsn := conclude_receiveSequenceNumber _ hok
      simp only [received, hrefuse] at hrsn
      rw [hrsn]
      cases (verdict h.state (payload.drop 4) od currentTimeUs ch).2.isRefusal with
      | true => simp [hr, hempty, eq_comm]
      | false => simp

end acknowledgements

/-- A client that speaks over UDP. -/
def udpClient : SdoClientInfo := .udp ⟨192, 168, 100, 1⟩ 3819

/-- An established connection whose last received frame had sequence number `0`. -/
def establishedHandler : SdoSequenceHandler where
  state := .established
  sendSequenceNumber := 1
  lastReceivedSequenceNumber := 0
  clientInfo := udpClient

/-- The header of the next frame of that connection. -/
def nextHeader : SequenceLayerHeader where
  receiveSequenceNumber := 1
  receiveCon := .connectionValid
  sendSequenceNumber := 1
  sendCon := .connectionValid

/-- A `NIL` command is acknowledged. -/
theorem nil_response_acknowledged : ∃ r,
    (establishedHandler.handleRequest (nextHeader.bytes ++ [0, 7, 0, 0, 0, 0, 0, 0])
      (ObjectDictionary.new (none : Option Empty)) 0 ({} : DefaultSdoHandler)).result = .ok r ∧
    Acknowledges r nextHeader :=
  ⟨_, rfl, (response_acknowledges_iff (h := establishedHandler) rfl
    (nextHeader.bytes ++ [0, 7, 0, 0, 0, 0, 0, 0]) rfl rfl
    (ObjectDictionary.new (none : Option Empty)) 0 ({} : DefaultSdoHandler) rfl).mpr
    (.inr (.inr (.inl rfl)))⟩

/-- The abort of an undecodable command is not acknowledged. -/
theorem undecodable_response_not_acknowledged :
    establishedHandler.state = .established ∧
    SequenceLayerHeader.deserialize ((nextHeader.bytes ++ [0]).take 4) = .ok nextHeader ∧
    nextHeader.sendSequenceNumber =
      nextSequence establishedHandler.lastReceivedSequenceNumber ∧
    ∃ r, (establishedHandler.handleRequest (nextHeader.bytes ++ [0])
        (ObjectDictionary.new (none : Option Empty)) 0 ({} : DefaultSdoHandler)).result = .ok r ∧
      r.command.header.isAborted ∧ ¬ Acknowledges r nextHeader := by
  refine ⟨rfl, rfl, rfl, _, rfl, rfl, ?_⟩
  rw [acknowledges_iff]
  decide

/-! ### Transactions -/

/-- The response is marked as one and names the transaction in the second octet of the
command payload. -/
def BelongsTo (response : SdoCommand) (commandPayload : List UInt8) : Prop :=
  response.header.isResponse = true ∧
    commandPayload[1]? = some response.header.transactionId

section transactions

variable {σ : Type} [ObjectDictionaryStorage σ]

namespace Verdict

/-- The responses of the command handler are marked and name the transaction. -/
def HandlerNames {η : Type} (transactionId : UInt8) : Verdict σ η → Prop
  | delegated response _ _ =>
      response.header.isResponse = true ∧ response.header.transactionId = transactionId
  | _ => True

omit [ObjectDictionaryStorage σ] in
theorem ofRead_handlerNames {η : Type} (tid tid' : UInt8) (od : ObjectDictionary σ)
    (r : Except UInt32 ReadData) : HandlerNames tid' (ofRead tid od r : Verdict σ η) := by
  cases r with
  | ok data =>
      rw [ofRead]
      split_ifs <;> trivial
  | error abortCode => trivial

theorem ofWrite_handlerNames {η : Type} (tid : UInt8) (state : SdoServerState)
    (command : SdoCommand) (od : ObjectDictionary σ) (currentTimeUs : ℕ) :
    HandlerNames tid (ofWrite state command od currentTimeUs : Verdict σ η) := by
  unfold ofWrite ofDownload
  split
  · split
    · split <;> trivial
    · trivial
  · split
    · split <;> trivial
    · trivial
  all_goals
    split
    · split
      · trivial
      · split <;> trivial
    · trivial

/-- The default command handler aborts in the name of the transaction. -/
theorem ofCommand_handlerNames (state : SdoServerState) (command : SdoCommand)
    (od : ObjectDictionary σ) (currentTimeUs : ℕ) (ch : DefaultSdoHandler) :
    HandlerNames command.header.transactionId (ofCommand state command od currentTimeUs ch) := by
  have service : HandlerNames command.header.transactionId
      (ofService state command od currentTimeUs ch) := by
    unfold ofService
    cases command.header.commandId with
    | readByIndex | readByName | readAllByIndex | readMultipleParamByIndex =>
        exact ofRead_handlerNames _ _ _ _
    | writeByIndex => exact ofWrite_handlerNames _ _ _ _ _
    | writeByName =>
        simp only [ofNamedWrite]
        split
        · split
          · exact ofWrite_handlerNames _ _ _ _ _
          · trivial
        · trivial
    | writeAllByIndex | writeMultipleParamByIndex | fileRead | fileWrite => exact ⟨rfl, rfl⟩
    | maxSegmentSize | nil | abort => trivial
  unfold ofCommand duringUpload
  cases state with
  | segmentedUpload t =>
      dsimp only
      split_ifs <;> trivial
  | closed | opening | established | segmentedDownload t =>
      dsimp only
      split_ifs
      · trivial
      · exact service

omit [ObjectDictionaryStorage σ] in
/-- Every verdict but a client abort is answered in the name of the transaction. -/
theorem response_names {η : Type} {state : SdoServerState} {tid : UInt8} {v : Verdict σ η}
    (hv : Allowed state tid v) (hhandler : HandlerNames tid v) :
    (v.response tid).header.isResponse = true ∧ (v.response tid).header.transactionId = tid := by
  cases v with
  | refuse abortCode od' => exact ⟨rfl, rfl⟩
  | clientAbort => exact hv.elim
  | answer segmentSize payload od' => exact ⟨rfl, rfl⟩
  | segment t => exact ⟨rfl, hv.1⟩
  | receive t => exact ⟨rfl, rfl⟩
  | complete od' => exact ⟨rfl, rfl⟩
  | delegated response od' ch' => exact hhandler

end Verdict

theorem response_belongs_iff (h : SdoSequenceHandler) (payload : List UInt8)
    {request : SequenceLayerHeader}
    (hdec : SequenceLayerHeader.deserialize (payload.take 4) = .ok request)
    (hr : request.receiveCon ≠ .errorResponse) (hcommand : payload.drop 4 ≠ [])
    (od : ObjectDictionary σ) (currentTimeUs : ℕ) (ch : DefaultSdoHandler) {r : SdoResponseData}
    (hok : (h.handleRequest payload od currentTimeUs ch).result = .ok r) :
    BelongsTo r.command (payload.drop 4) ↔
      match SdoCommand.deserialize (payload.drop 4) with
      | .ok command => command.header.isAborted = false
      | .error _ => (payload.drop 4)[1]? = (payload.drop 4).head?.map (· &&& 0x0F) := by
  rcases hseq : h.processSequenceLayer request with ⟨result, h'⟩
  cases result with
  | error e =>
      rw [handleRequest_rejected hdec hr hseq] at hok
      cases hok
  | ok responseHeader =>
      rw [handleRequest_command hdec hr hseq hcommand] at hok
      rw [BelongsTo, conclude_command _ hok, verdict]
      cases hc : SdoCommand.deserialize (payload.drop 4) with
      | ok command =>
          rw [SdoCommand.transactionId_of_deserialize hc]
          cases habort : command.header.isAborted with
          | true =>
              simp only [Verdict.ofCommand_of_isAborted habort, Verdict.response]
              simp [abortEcho, habort]
          | false =>
              have hnames := Verdict.response_names
                (Verdict.ofCommand_allowed habort h'.state od currentTimeUs ch)
                (Verdict.ofCommand_handlerNames h'.state command od currentTimeUs ch)
              exact iff_of_true ⟨hnames.1, by rw [hnames.2]⟩ habort
      | error e =>
          obtain ⟨b, rest, hb⟩ := List.exists_cons_of_ne_nil hcommand
          simp [hb, Verdict.response, SdoCommand.abortResponse]

/-- The answer to a `NIL` command belongs to it. -/
theorem nil_response_belongs : ∃ r,
    (establishedHandler.handleRequest (nextHeader.bytes ++ [0, 7, 0, 0, 0, 0, 0, 0])
      (ObjectDictionary.new (none : Option Empty)) 0 ({} : DefaultSdoHandler)).result = .ok r ∧
    BelongsTo r.command [0, 7, 0, 0, 0, 0, 0, 0] :=
  ⟨_, rfl, (response_belongs_iff establishedHandler
    (nextHeader.bytes ++ [0, 7, 0, 0, 0, 0, 0, 0]) rfl (by decide) (by decide)
    (ObjectDictionary.new (none : Option Empty)) 0 ({} : DefaultSdoHandler) rfl).mpr rfl⟩

/-- The abort of a command with an unknown identifier names another transaction. -/
theorem undecodable_response_not_belongs : ∃ r,
    (establishedHandler.handleRequest (nextHeader.bytes ++ [0, 7, 0, 0xFF, 0, 0, 0, 0])
      (ObjectDictionary.new (none : Option Empty)) 0 ({} : DefaultSdoHandler)).result = .ok r ∧
    ¬ BelongsTo r.command [0, 7, 0, 0xFF, 0, 0, 0, 0] := by
  refine ⟨_, rfl, ?_⟩
  rintro ⟨-, htid⟩
  revert htid
  decide

end transactions

end Powerlink
