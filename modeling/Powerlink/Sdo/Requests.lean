import Powerlink.Sdo.Verdict

/-! # Requests, case by case

Equations for the two layers of a request.  The sequence layer of an open connection tells
three frames apart: a duplicate of the last frame, the next frame in order and any other one
(`processSequenceLayer_duplicate`, `processSequenceLayer_inOrder`,
`processSequenceLayer_mismatch`); before the connection is open it runs the handshake.  A request
is then one of four things: a request for retransmission, a frame the sequence layer rejects, a
frame without command and a frame with one.  The results of the following modules never unfold
`processSequenceLayer` or `handleRequest`; they use these equations. -/

namespace Powerlink

/-- The connection has passed its handshake. -/
def SdoServerState.isOpen : SdoServerState → Bool
  | .closed | .opening => false
  | .established | .segmentedDownload _ | .segmentedUpload _ => true

/-- The running transfer of a connection: its direction, its data and how far it got. -/
def SdoServerState.transfer : SdoServerState → Option (Bool × List UInt8 × ℕ)
  | .segmentedUpload t => some (true, t.dataBuffer, t.offset)
  | .segmentedDownload t => some (false, t.dataBuffer, t.offset)
  | .closed | .opening | .established => none

namespace SdoSequenceHandler

variable {h : SdoSequenceHandler} {request : SequenceLayerHeader}

/-! ### The sequence layer -/

/-- The connection after the next frame in order. -/
def received (h : SdoSequenceHandler) (request : SequenceLayerHeader) : SdoSequenceHandler :=
  { h with
    state := h.acknowledge request
    lastReceivedSequenceNumber := request.sendSequenceNumber
    sendSequenceNumber := nextSequence h.sendSequenceNumber }

/-- The connection after its handshake. -/
def confirmed (h : SdoSequenceHandler) (request : SequenceLayerHeader) : SdoSequenceHandler :=
  { h with
    state := .established
    lastReceivedSequenceNumber := request.sendSequenceNumber
    sendSequenceNumber := nextSequence h.sendSequenceNumber }

/-- The connection after the first frame of the handshake. -/
def initialized (h : SdoSequenceHandler) (request : SequenceLayerHeader) : SdoSequenceHandler :=
  { h with
    state := .opening
    sendSequenceNumber := 0
    lastReceivedSequenceNumber := request.sendSequenceNumber }

theorem processSequenceLayer_open (hopen : h.state.isOpen) :
    h.processSequenceLayer request = h.processOpenSequence request := by
  unfold processSequenceLayer
  cases hs : h.state with
  | closed => rw [hs] at hopen; cases hopen
  | opening => rw [hs] at hopen; cases hopen
  | established => rfl
  | segmentedDownload t => rfl
  | segmentedUpload t => rfl

theorem processSequenceLayer_duplicate (hopen : h.state.isOpen)
    (hdup : request.sendSequenceNumber = h.lastReceivedSequenceNumber) :
    h.processSequenceLayer request =
      (.ok ⟨h.lastReceivedSequenceNumber, .connectionValid, h.sendSequenceNumber,
        .connectionValid⟩, h) := by
  rw [processSequenceLayer_open hopen, processOpenSequence, if_pos hdup]

theorem processSequenceLayer_inOrder (hopen : h.state.isOpen)
    (hnext : request.sendSequenceNumber = nextSequence h.lastReceivedSequenceNumber) :
    ∃ sendCon, h.processSequenceLayer request =
      (.ok ⟨request.sendSequenceNumber, .connectionValid, nextSequence h.sendSequenceNumber,
        sendCon⟩, h.received request) := by
  have hnew : request.sendSequenceNumber ≠ h.lastReceivedSequenceNumber := by
    rw [hnext]
    exact nextSequence_ne _
  rw [processSequenceLayer_open hopen, processOpenSequence, if_neg hnew,
    if_neg (not_not.mpr hnext)]
  exact ⟨_, rfl⟩

theorem processSequenceLayer_mismatch (hopen : h.state.isOpen)
    (hdup : request.sendSequenceNumber ≠ h.lastReceivedSequenceNumber)
    (hnext : request.sendSequenceNumber ≠ nextSequence h.lastReceivedSequenceNumber) :
    h.processSequenceLayer request =
      (.error (.sdoSequenceError "SDO sequence number mismatch."), h) := by
  rw [processSequenceLayer_open hopen, processOpenSequence, if_neg hdup, if_pos hnext]

theorem processSequenceLayer_initialization (hs : h.state = .closed)
    (hcon : request.sendCon = .initialization) :
    h.processSequenceLayer request =
      (.ok ⟨request.sendSequenceNumber, .initialization, 0, .initialization⟩,
        h.initialized request) := by
  simp only [processSequenceLayer, hs, hcon]
  rfl

theorem processSequenceLayer_noConnection (hs : h.state = .closed)
    (hcon : request.sendCon ≠ .initialization) :
    h.processSequenceLayer request =
      (.ok ⟨request.sendSequenceNumber, .noConnection, h.sendSequenceNumber, .noConnection⟩,
        h) := by
  simp only [processSequenceLayer, hs, hcon]
  rfl

theorem processSequenceLayer_confirmation (hs : h.state = .opening)
    (hcon : request.sendCon = .connectionValid ∧
      request.receiveSequenceNumber = h.sendSequenceNumber) :
    h.processSequenceLayer request =
      (.ok ⟨request.sendSequenceNumber, .connectionValid, nextSequence h.sendSequenceNumber,
        .connectionValid⟩, h.confirmed request) := by
  simp only [processSequenceLayer, hs, if_pos hcon]
  rfl

theorem processSequenceLayer_unconfirmed (hs : h.state = .opening)
    (hcon : ¬ (request.sendCon = .connectionValid ∧
      request.receiveSequenceNumber = h.sendSequenceNumber)) :
    h.processSequenceLayer request =
      (.error (.sdoSequenceError "Invalid sequence state during SDO opening."),
        { h with state := .closed }) := by
  simp only [processSequenceLayer, hs, if_neg hcon]

/-- The sequence layer, case by case. -/
inductive SequenceStep (h : SdoSequenceHandler) (request : SequenceLayerHeader) :
    Except PowerlinkError SequenceLayerHeader × SdoSequenceHandler → Prop
  | duplicate (hopen : h.state.isOpen)
      (hdup : request.sendSequenceNumber = h.lastReceivedSequenceNumber) :
      SequenceStep h request (.ok ⟨h.lastReceivedSequenceNumber, .connectionValid,
        h.sendSequenceNumber, .connectionValid⟩, h)
  | inOrder (hopen : h.state.isOpen)
      (hnext : request.sendSequenceNumber = nextSequence h.lastReceivedSequenceNumber)
      (sendCon : SendConnState) :
      SequenceStep h request (.ok ⟨request.sendSequenceNumber, .connectionValid,
        nextSequence h.sendSequenceNumber, sendCon⟩, h.received request)
  | mismatch (hopen : h.state.isOpen)
      (hdup : request.sendSequenceNumber ≠ h.lastReceivedSequenceNumber)
      (hnext : request.sendSequenceNumber ≠ nextSequence h.lastReceivedSequenceNumber) :
      SequenceStep h request (.error (.sdoSequenceError "SDO sequence number mismatch."), h)
  | initialization (hs : h.state = .closed) (hcon : request.sendCon = .initialization) :
      SequenceStep h request (.ok ⟨request.sendSequenceNumber, .initialization, 0,
        .initialization⟩, h.initialized request)
  | noConnection (hs : h.state = .closed) (hcon : request.sendCon ≠ .initialization) :
      SequenceStep h request (.ok ⟨request.sendSequenceNumber, .noConnection,
        h.sendSequenceNumber, .noConnection⟩, h)
  | confirmation (hs : h.state = .opening)
      (hcon : request.sendCon = .connectionValid ∧
        request.receiveSequenceNumber = h.sendSequenceNumber) :
      SequenceStep h request (.ok ⟨request.sendSequenceNumber, .connectionValid,
        nextSequence h.sendSequenceNumber, .connectionValid⟩, h.confirmed request)
  | unconfirmed (hs : h.state = .opening)
      (hcon : ¬ (request.sendCon = .connectionValid ∧
        request.receiveSequenceNumber = h.sendSequenceNumber)) :
      SequenceStep h request
        (.error (.sdoSequenceError "Invalid sequence state during SDO opening."),
          { h with state := .closed })

theorem processSequenceLayer_step (h : SdoSequenceHandler) (request : SequenceLayerHeader) :
    SequenceStep h request (h.processSequenceLayer request) := by
  by_cases hopen : h.state.isOpen
  · by_cases hdup : request.sendSequenceNumber = h.lastReceivedSequenceNumber
    · rw [processSequenceLayer_duplicate hopen hdup]
      exact .duplicate hopen hdup
    · by_cases hnext : request.sendSequenceNumber = nextSequence h.lastReceivedSequenceNumber
      · obtain ⟨sendCon, hseq⟩ := processSequenceLayer_inOrder hopen hnext
        rw [hseq]
        exact .inOrder hopen hnext sendCon
      · rw [processSequenceLayer_mismatch hopen hdup hnext]
        exact .mismatch hopen hdup hnext
  · cases hs : h.state with
    | closed =>
        by_cases hcon : request.sendCon = .initialization
        · rw [processSequenceLayer_initialization hs hcon]
          exact .initialization hs hcon
        · rw [processSequenceLayer_noConnection hs hcon]
          exact .noConnection hs hcon
    | opening =>
        by_cases hcon : request.sendCon = .connectionValid ∧
            request.receiveSequenceNumber = h.sendSequenceNumber
        · rw [processSequenceLayer_confirmation hs hcon]
          exact .confirmation hs hcon
        · rw [processSequenceLayer_unconfirmed hs hcon]
          exact .unconfirmed hs hcon
    | established | segmentedDownload t | segmentedUpload t =>
        rw [hs] at hopen
        exact absurd rfl hopen

/-- A closed connection starts a handshake or passes the frame on. -/
theorem processSequenceLayer_closed (hs : h.state = .closed) (request : SequenceLayerHeader) :
    ∃ responseHeader h', h.processSequenceLayer request = (.ok responseHeader, h') ∧
      (request.sendCon = .initialization ∧ h'.state = .opening ∨
        request.sendCon ≠ .initialization ∧ h'.state = .closed) := by
  by_cases hcon : request.sendCon = .initialization
  · exact ⟨_, _, processSequenceLayer_initialization hs hcon, .inl ⟨hcon, rfl⟩⟩
  · exact ⟨_, _, processSequenceLayer_noConnection hs hcon, .inr ⟨hcon, hs⟩⟩

/-! ### Segments -/

/-- A segment is never sent without moving the transfer. -/
theorem segment_transfer_ne {σ : Type} {t : SdoTransferState}
    (hallowed : h.state = .segmentedUpload t ∨ (∀ u, h.state ≠ .segmentedUpload u) ∧ t.Fresh)
    (od : ObjectDictionary σ) (currentTimeUs : ℕ) :
    (if t.isLastSegment then SdoServerState.closed
      else .segmentedUpload (t.advanced od currentTimeUs)).transfer ≠ h.state.transfer := by
  rcases hallowed with hs | ⟨hs, hfresh⟩
  · rw [hs]
    cases hlast : t.isLastSegment with
    | true => simp [SdoServerState.transfer]
    | false =>
        simp [SdoServerState.transfer, SdoTransferState.advanced,
          SdoTransferState.currentChunkSize_of_not_last hlast, maxExpeditedPayload]
  · rw [hfresh.isLastSegment]
    cases hst : h.state with
    | segmentedUpload u => exact absurd hst (hs u)
    | closed | opening | established | segmentedDownload u => simp [SdoServerState.transfer]

/-! ### Requests for retransmission -/

theorem handleErrorResponse_resend {t : SdoTransferState} {command : SdoCommand}
    (hs : h.state = .segmentedUpload t) (hlast : t.lastSentSegment = some command) :
    h.handleErrorResponse request =
      (.ok (h.responseData ⟨request.sendSequenceNumber, .connectionValid, h.sendSequenceNumber,
        .connectionValidAckRequest⟩ command), h) := by
  simp only [handleErrorResponse, hs, hlast]

theorem handleErrorResponse_acknowledge
    (hlast : ∀ t, h.state = .segmentedUpload t → t.lastSentSegment = none) :
    h.handleErrorResponse request =
      ((h.processSequenceLayer request).1.map
          (fun ackHeader => (h.processSequenceLayer request).2.responseData ackHeader ⟨{}, none, []⟩),
        (h.processSequenceLayer request).2) := by
  unfold handleErrorResponse
  rcases h.processSequenceLayer request with ⟨e | ackHeader, h'⟩ <;> cases hs : h.state with
  | segmentedUpload t =>
      simp only [hlast t hs]
      rfl
  | closed | opening | established | segmentedDownload t => rfl

/-- A request for retransmission sends the stored segment, or acknowledges if there is none. -/
theorem handleErrorResponse_cases (h : SdoSequenceHandler) (request : SequenceLayerHeader) :
    (∃ command, h.handleErrorResponse request =
        (.ok (h.responseData ⟨request.sendSequenceNumber, .connectionValid, h.sendSequenceNumber,
          .connectionValidAckRequest⟩ command), h)) ∨
      h.handleErrorResponse request =
        ((h.processSequenceLayer request).1.map
            (fun ackHeader => (h.processSequenceLayer request).2.responseData ackHeader
              ⟨{}, none, []⟩),
          (h.processSequenceLayer request).2) := by
  by_cases hlast : ∀ t, h.state = .segmentedUpload t → t.lastSentSegment = none
  · exact .inr (handleErrorResponse_acknowledge hlast)
  · push Not at hlast
    obtain ⟨t, hs, hstored⟩ := hlast
    obtain ⟨command, hcommand⟩ := Option.ne_none_iff_exists'.mp hstored
    exact .inl ⟨command, handleErrorResponse_resend hs hcommand⟩

/-! ### Frames without command -/

section empty

variable {σ : Type} {od : ObjectDictionary σ} {currentTimeUs : ℕ}
  {responseHeader : SequenceLayerHeader}

theorem handleEmptyPayload_upload {t : SdoTransferState} (hs : h.state = .segmentedUpload t)
    (hcon : request.sendCon = .connectionValid) :
    h.handleEmptyPayload request responseHeader od currentTimeUs =
      (.ok (h.responseData
          { responseHeader with receiveSequenceNumber := h.lastReceivedSequenceNumber }
          t.uploadSegment),
        { h with
          state := if t.isLastSegment then .closed
            else .segmentedUpload (t.advanced od currentTimeUs) }) := by
  simp only [handleEmptyPayload, hs, hcon, or_true, if_true,
    SdoTransferState.getNextUploadSegment_command, SdoTransferState.getNextUploadSegment_isLast]
  cases hlast : t.isLastSegment with
  | true => rfl
  | false => rw [SdoTransferState.getNextUploadSegment_state od currentTimeUs hlast]

theorem handleEmptyPayload_acknowledge (hs : ∀ t, h.state ≠ .segmentedUpload t)
    (hcon : h.state = .opening ∨ request.sendCon = .connectionValid) :
    h.handleEmptyPayload request responseHeader od currentTimeUs =
      (.ok (h.responseData
          { responseHeader with receiveSequenceNumber := h.lastReceivedSequenceNumber }
          (.answerTo 0 0 [])),
        { h with state := if h.state = .established then .closed else h.state }) := by
  simp only [handleEmptyPayload, if_pos hcon]
  split <;> rfl

theorem handleEmptyPayload_error (hs : h.state ≠ .opening)
    (hcon : request.sendCon ≠ .connectionValid) :
    h.handleEmptyPayload request responseHeader od currentTimeUs =
      (.error .sdoInvalidCommandPayload, h) := by
  simp only [handleEmptyPayload, hs, hcon, or_self, if_false]

end empty

/-! ### Requests -/

section requests

variable {σ η : Type} [ObjectDictionaryStorage σ] [SdoCommandHandler σ η]
  {payload : List UInt8} {od : ObjectDictionary σ} {currentTimeUs : ℕ} {ch : η}
  {h' : SdoSequenceHandler}

theorem length_of_deserialize
    (hdec : SequenceLayerHeader.deserialize (payload.take 4) = .ok request) :
    ¬ payload.length < 4 := by
  intro hlen
  match payload, hlen with
  | [], _ => cases hdec
  | [_], _ => cases hdec
  | [_, _], _ => cases hdec
  | [_, _, _], _ => cases hdec

theorem deserialize_of_length (hlen : ¬ payload.length < 4) :
    ∃ request, SequenceLayerHeader.deserialize (payload.take 4) = .ok request :=
  SequenceLayerHeader.deserialize_total (by rw [List.length_take]; omega)

/-- A payload that is too short for a header is rejected, every other one has a header. -/
theorem handleRequest_decode (h : SdoSequenceHandler) (payload : List UInt8)
    (od : ObjectDictionary σ) (currentTimeUs : ℕ) (ch : η) :
    payload.length < 4 ∧
        h.handleRequest payload od currentTimeUs ch = ⟨.error .bufferTooShort, h, od, ch⟩ ∨
      ∃ request, SequenceLayerHeader.deserialize (payload.take 4) = .ok request := by
  by_cases hlen : payload.length < 4
  · exact .inl ⟨hlen, by rw [handleRequest, if_pos hlen]⟩
  · exact .inr (deserialize_of_length hlen)

variable (hdec : SequenceLayerHeader.deserialize (payload.take 4) = .ok request)
include hdec

theorem handleRequest_errorResponse (hr : request.receiveCon = .errorResponse) :
    h.handleRequest payload od currentTimeUs ch =
      ⟨(h.handleErrorResponse request).1, (h.handleErrorResponse request).2, od, ch⟩ := by
  simp only [handleRequest, if_neg (length_of_deserialize hdec), hdec, if_pos hr]

variable (hr : request.receiveCon ≠ .errorResponse)
include hr

theorem handleRequest_rejected {e : PowerlinkError}
    (hseq : h.processSequenceLayer request = (.error e, h')) :
    h.handleRequest payload od currentTimeUs ch = ⟨.error e, h', od, ch⟩ := by
  simp only [handleRequest, if_neg (length_of_deserialize hdec), hdec, if_neg hr, hseq]

theorem handleRequest_empty {responseHeader : SequenceLayerHeader}
    (hseq : h.processSequenceLayer request = (.ok responseHeader, h'))
    (hempty : payload.drop 4 = []) :
    h.handleRequest payload od currentTimeUs ch =
      ⟨(h'.handleEmptyPayload request responseHeader od currentTimeUs).1,
        (h'.handleEmptyPayload request responseHeader od currentTimeUs).2, od, ch⟩ := by
  simp only [handleRequest, if_neg (length_of_deserialize hdec), hdec, if_neg hr, hseq, hempty]
  rfl

theorem handleRequest_command {responseHeader : SequenceLayerHeader}
    (hseq : h.processSequenceLayer request = (.ok responseHeader, h'))
    (hcommand : payload.drop 4 ≠ []) :
    h.handleRequest payload od currentTimeUs ch =
      h'.conclude responseHeader od currentTimeUs ch
        (verdict h'.state (payload.drop 4) od currentTimeUs ch) := by
  simp only [handleRequest, if_neg (length_of_deserialize hdec), hdec, if_neg hr, hseq,
    if_neg hcommand, handleCommandPayload_eq]

end requests

end SdoSequenceHandler

end Powerlink
