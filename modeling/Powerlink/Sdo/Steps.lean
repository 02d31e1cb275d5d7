import Powerlink.Sdo.Responses
import Powerlink.Lib.Runs

/-! # Steps of a connection

A connection is driven by requests and by ticks, each with the dictionary, the time and (for a
request) the command handler it is called with.  This module says once what a step can do to
the transfer of a connection:

* `request_cases`: outside an upload, a request keeps the kind of transfer or starts an upload
  and sends its first segment;
* `upload_request_cases`: during an upload, a request is answered by the stored segment, is
  rejected, is taken without a segment being sent, is answered by the next segment or ends the
  transfer;
* `tick_cases`: a tick does nothing, resends the stored segment or gives the transfer up.

The invariants of the following modules are derived from these three lemmas. -/

namespace Powerlink

open SdoSequenceHandler

/-- What happens to a connection: a request or a tick, with the arguments of the call. -/
inductive HandlerEvent (σ η : Type) where
  | request (payload : List UInt8) (od : ObjectDictionary σ) (currentTimeUs : ℕ) (ch : η)
  | tick (od : ObjectDictionary σ) (currentTimeUs : ℕ)

/-- The deadline of the running transfer. -/
def SdoServerState.deadlineUs : SdoServerState → Option ℕ
  | .segmentedUpload t | .segmentedDownload t => t.deadlineUs
  | .closed | .opening | .established => none

/-- An upload is running. -/
def SdoServerState.isUpload : SdoServerState → Bool
  | .segmentedUpload _ => true
  | .closed | .opening | .established | .segmentedDownload _ => false

theorem SdoServerState.isUpload_iff (s : SdoServerState) :
    s.isUpload = true ↔ ∃ t, s = .segmentedUpload t := by
  cases s <;> simp [isUpload]

namespace SdoSequenceHandler

variable {σ η : Type} {h : SdoSequenceHandler} {request : SequenceLayerHeader}
  {payload : List UInt8} {od : ObjectDictionary σ} {currentTimeUs : ℕ} {ch : η}

/-- The connection after an event. -/
def step [ObjectDictionaryStorage σ] [SdoCommandHandler σ η] (h : SdoSequenceHandler) :
    HandlerEvent σ η → SdoSequenceHandler
  | .request payload od currentTimeUs ch => (h.handleRequest payload od currentTimeUs ch).handler
  | .tick od currentTimeUs => (h.tick currentTimeUs od).2

/-! ### The sequence layer -/

/-- The response carries the sequence number that the connection stores. -/
theorem processSequenceLayer_sendSequenceNumber {responseHeader : SequenceLayerHeader}
    {h' : SdoSequenceHandler} (hseq : h.processSequenceLayer request = (.ok responseHeader, h')) :
    responseHeader.sendSequenceNumber = h'.sendSequenceNumber := by
  have hstep := processSequenceLayer_step h request
  rw [hseq] at hstep
  cases hstep <;> rfl

/-- No upload is running, and a running download is the given one. -/
def KeepsTransfer (s s' : SdoServerState) : Prop :=
  (∀ t, s' ≠ .segmentedUpload t) ∧ ∀ t, s' = .segmentedDownload t → s = s'

theorem KeepsTransfer.refl {s : SdoServerState} (hs : ∀ t, s ≠ .segmentedUpload t) :
    KeepsTransfer s s :=
  ⟨hs, fun _ _ => rfl⟩

theorem KeepsTransfer.trans {s s' s'' : SdoServerState} (h₁ : KeepsTransfer s s')
    (h₂ : KeepsTransfer s' s'') : KeepsTransfer s s'' := by
  refine ⟨h₂.1, fun t ht => ?_⟩
  have hs' := h₂.2 t ht
  exact (h₁.2 t (hs'.trans ht)).trans hs'

theorem KeepsTransfer.closed {s : SdoServerState} : KeepsTransfer s .closed := by
  simp [KeepsTransfer]

theorem KeepsTransfer.opening {s : SdoServerState} : KeepsTransfer s .opening := by
  simp [KeepsTransfer]

theorem KeepsTransfer.established {s : SdoServerState} : KeepsTransfer s .established := by
  simp [KeepsTransfer]

theorem acknowledge_eq (hs : ∀ t, h.state ≠ .segmentedUpload t) (request : SequenceLayerHeader) :
    h.acknowledge request = h.state := by
  unfold acknowledge
  split
  · rename_i t ht
    exact absurd ht (hs t)
  · rfl

theorem processSequenceLayer_keepsTransfer (hs : ∀ t, h.state ≠ .segmentedUpload t)
    {result : Except PowerlinkError SequenceLayerHeader} {h' : SdoSequenceHandler}
    (hseq : h.processSequenceLayer request = (result, h')) : KeepsTransfer h.state h'.state := by
  have hstep := processSequenceLayer_step h request
  rw [hseq] at hstep
  cases hstep with
  | duplicate => exact .refl hs
  | inOrder =>
      simp only [received, acknowledge_eq hs]
      exact .refl hs
  | mismatch => exact .refl hs
  | noConnection => exact .refl hs
  | initialization => exact .opening
  | confirmation => exact .established
  | unconfirmed => exact .closed

/-! ### Requests outside an upload -/

theorem handleEmptyPayload_keepsTransfer (hs : ∀ t, h.state ≠ .segmentedUpload t)
    (responseHeader : SequenceLayerHeader) :
    KeepsTransfer h.state
      (h.handleEmptyPayload request responseHeader od currentTimeUs).2.state := by
  by_cases hcon : h.state = .opening ∨ request.sendCon = .connectionValid
  · rw [handleEmptyPayload_acknowledge hs hcon]
    dsimp only
    split_ifs
    · exact .closed
    · exact .refl hs
  · obtain ⟨hopening, hvalid⟩ := not_or.mp hcon
    rw [handleEmptyPayload_error hopening hvalid]
    exact .refl hs

/-- The first segment of an upload was sent. -/
def StartsUpload (od : ObjectDictionary σ) (currentTimeUs : ℕ) (out : Handled σ η) : Prop :=
  ∃ (t : SdoTransferState) (r : SdoResponseData), t.Fresh ∧ out.handler.state = .segmentedUpload (t.advanced od currentTimeUs) ∧
    out.result = .ok r ∧ r.command = t.uploadSegment ∧
    r.seqHeader.sendSequenceNumber = out.handler.sendSequenceNumber

theorem conclude_keepsTransfer (hs : ∀ t, h.state ≠ .segmentedUpload t)
    {responseHeader : SequenceLayerHeader}
    (hheader : responseHeader.sendSequenceNumber = h.sendSequenceNumber) {tid : UInt8}
    {v : Verdict σ η} (hv : v = .clientAbort ∨ v.Allowed h.state tid) :
    KeepsTransfer h.state (h.conclude responseHeader od currentTimeUs ch (tid, v)).handler.state ∨
      StartsUpload od currentTimeUs (h.conclude responseHeader od currentTimeUs ch (tid, v)) := by
  cases v with
  | refuse abortCode od' => exact .inl .closed
  | clientAbort => exact .inl .closed
  | answer segmentSize payload od' =>
      left
      simp only [conclude]
      split_ifs
      · exact .opening
      · exact .closed
  | segment t =>
      right
      obtain ⟨-, hup | ⟨-, hfresh⟩⟩ := hv.resolve_left (by simp)
      · exact absurd hup (hs t)
      · refine ⟨t, _, hfresh, ?_, rfl, rfl, hheader⟩
        simp only [conclude, hfresh.isLastSegment, Bool.false_eq_true, if_false]
  | receive t => exact .inl .closed
  | complete od' => exact .inl .closed
  | delegated response od' ch' =>
      left
      simp only [conclude, closeAfter]
      split_ifs
      · exact .closed
      · exact .refl hs

/-! ### Ticks -/

/-- The transfer state after a retransmission. -/
def rearmed (t : SdoTransferState) (od : ObjectDictionary σ) (currentTimeUs : ℕ) :
    SdoTransferState :=
  { t with
    retransmissionsLeft := t.retransmissionsLeft - 1
    deadlineUs := some (currentTimeUs + sdoTimeoutUs od) }

/-- What a tick does. -/
inductive TickStep (h : SdoSequenceHandler) (od : ObjectDictionary σ) (currentTimeUs : ℕ) :
    Except PowerlinkError (Option SdoResponseData) × SdoSequenceHandler → Prop
  /-- No deadline has passed. -/
  | quiet (hquiet : ∀ deadline, h.state.deadlineUs = some deadline → currentTimeUs < deadline) :
      TickStep h od currentTimeUs (.ok none, h)
  /-- The stored segment is sent again. -/
  | resent (t : SdoTransferState) (deadline : ℕ) (command : SdoCommand)
      (hs : h.state = .segmentedUpload t) (hdeadline : t.deadlineUs = some deadline)
      (hdue : deadline ≤ currentTimeUs) (hleft : 0 < t.retransmissionsLeft)
      (hlast : t.lastSentSegment = some command) :
      TickStep h od currentTimeUs
        (.ok (some (h.responseData ⟨h.lastReceivedSequenceNumber, .connectionValid,
          h.sendSequenceNumber, .connectionValidAckRequest⟩ command)),
          { h with state := .segmentedUpload (rearmed t od currentTimeUs) })
  /-- A retransmission is due, but no segment is stored. -/
  | missing (t : SdoTransferState) (hs : h.state = .segmentedUpload t)
      (hdeadline : t.deadlineUs.isSome) (hlast : t.lastSentSegment = none) :
      TickStep h od currentTimeUs
        (.error (.internalError "Missing last sent segment during retransmission"),
          { h with state := .segmentedUpload (rearmed t od currentTimeUs) })
  /-- The transfer is given up. -/
  | expired (t : SdoTransferState) (deadline : ℕ)
      (hs : h.state = .segmentedUpload t ∧ t.retransmissionsLeft = 0 ∨
        h.state = .segmentedDownload t)
      (hdeadline : t.deadlineUs = some deadline) (hdue : deadline ≤ currentTimeUs) :
      TickStep h od currentTimeUs (h.timeoutAbort t.transactionId)

theorem tick_cases (h : SdoSequenceHandler) (od : ObjectDictionary σ) (currentTimeUs : ℕ) :
    TickStep h od currentTimeUs (h.tick currentTimeUs od) := by
  cases hs : h.state with
  | closed | opening | established =>
      simp only [tick, hs]
      exact .quiet (by simp [hs, SdoServerState.deadlineUs])
  | segmentedDownload t =>
      simp only [tick, hs]
      split
      · rename_i hd
        exact .quiet (by simp [hs, SdoServerState.deadlineUs, hd])
      · rename_i deadline hd
        split
        · rename_i hdue
          exact .quiet (by simpa [hs, SdoServerState.deadlineUs, hd] using hdue)
        · exact .expired t deadline (.inr hs) hd (by omega)
  | segmentedUpload t =>
      simp only [tick, hs]
      split
      · rename_i hd
        exact .quiet (by simp [hs, SdoServerState.deadlineUs, hd])
      · rename_i deadline hd
        split
        · rename_i hdue
          exact .quiet (by simpa [hs, SdoServerState.deadlineUs, hd] using hdue)
        · split
          · rename_i hdue hleft
            split
            · rename_i command hlast
              exact .resent t deadline command hs hd (by omega) hleft hlast
            · rename_i hlast
              exact .missing t hs (by simp [hd]) hlast
          · exact .expired t deadline (.inl ⟨hs, by omega⟩) hd (by omega)

variable [ObjectDictionaryStorage σ] [SdoCommandHandler σ η]

/-- Outside an upload a request starts one or keeps the transfer. -/
theorem request_cases (hs : ∀ t, h.state ≠ .segmentedUpload t) (payload : List UInt8)
    (od : ObjectDictionary σ) (currentTimeUs : ℕ) (ch : η) :
    KeepsTransfer h.state (h.handleRequest payload od currentTimeUs ch).handler.state ∨
      StartsUpload od currentTimeUs (h.handleRequest payload od currentTimeUs ch) := by
  rcases handleRequest_decode h payload od currentTimeUs ch with ⟨-, hshort⟩ | ⟨request, hdec⟩
  · rw [hshort]
    exact .inl (.refl hs)
  · rcases hseq : h.processSequenceLayer request with ⟨result, h'⟩
    have hkeep := processSequenceLayer_keepsTransfer hs hseq
    by_cases hr : request.receiveCon = .errorResponse
    · rw [handleRequest_errorResponse hdec hr,
        handleErrorResponse_acknowledge (fun t ht => absurd ht (hs t)), hseq]
      exact .inl hkeep
    · cases result with
      | error e =>
          rw [handleRequest_rejected hdec hr hseq]
          exact .inl hkeep
      | ok responseHeader =>
          by_cases hempty : payload.drop 4 = []
          · rw [handleRequest_empty hdec hr hseq hempty]
            exact .inl (hkeep.trans (handleEmptyPayload_keepsTransfer hkeep.1 responseHeader))
          · rw [handleRequest_command hdec hr hseq hempty]
            refine (conclude_keepsTransfer hkeep.1
              (processSequenceLayer_sendSequenceNumber hseq)
              (verdict_allowed h'.state (payload.drop 4) od currentTimeUs ch)).imp_left ?_
            exact hkeep.trans

/-! ### Requests during an upload -/

/-- The frame acknowledges a segment of the upload: it has no command but a valid connection, or
a command that continues the transaction. -/
def IsAcknowledgement (t : SdoTransferState) (request : SequenceLayerHeader)
    (commandPayload : List UInt8) : Prop :=
  commandPayload = [] ∧ request.sendCon = .connectionValid ∨
    commandPayload ≠ [] ∧ continuesUpload commandPayload t.transactionId = true

/-- The frame is next in order, but has neither a command nor a valid connection. -/
def IsStall (h : SdoSequenceHandler) (request : SequenceLayerHeader)
    (commandPayload : List UInt8) : Prop :=
  request.receiveCon ≠ .errorResponse ∧
    request.sendSequenceNumber = nextSequence h.lastReceivedSequenceNumber ∧
    commandPayload = [] ∧ request.sendCon ≠ .connectionValid

/-- What a request does to a running upload. -/
inductive UploadStep (h : SdoSequenceHandler) (t : SdoTransferState)
    (request : SequenceLayerHeader) (commandPayload : List UInt8) (od : ObjectDictionary σ)
    (currentTimeUs : ℕ) (out : Handled σ η) : Prop
  /-- The stored segment is sent again. -/
  | resent (command : SdoCommand) (hr : request.receiveCon = .errorResponse)
      (hlast : t.lastSentSegment = some command)
      (hresult : out.result = .ok (h.responseData ⟨request.sendSequenceNumber, .connectionValid,
        h.sendSequenceNumber, .connectionValidAckRequest⟩ command))
      (hhandler : out.handler = h)
  /-- There is no stored segment to send again. -/
  | nothingStored (hr : request.receiveCon = .errorResponse) (hlast : t.lastSentSegment = none)
      (hresult : ∀ r, out.result = .ok r → r.command.header.segmentation = .expedited)
      (hhandler : out.handler = h ∨ out.handler = h.received request)
  /-- The frame is rejected. -/
  | rejected (hr : request.receiveCon ≠ .errorResponse)
      (hnext : request.sendSequenceNumber ≠ nextSequence h.lastReceivedSequenceNumber)
      (hresult : ∀ r, out.result ≠ .ok r) (hhandler : out.handler = h)
  /-- The sequence number is taken, but no segment is sent. -/
  | stalled (hstall : IsStall h request commandPayload) (hresult : ∀ r, out.result ≠ .ok r)
      (hhandler : out.handler = h.received request)
  /-- The next segment is sent. -/
  | sent (h' : SdoSequenceHandler) (r : SdoResponseData)
      (hr : request.receiveCon ≠ .errorResponse)
      (hack : IsAcknowledgement t request commandPayload)
      (horder : request.sendSequenceNumber = h.lastReceivedSequenceNumber ∧ h' = h ∨
        request.sendSequenceNumber = nextSequence h.lastReceivedSequenceNumber ∧
          h' = h.received request)
      (hresult : out.result = .ok r) (hcommand : r.command = t.uploadSegment)
      (hnumber : r.seqHeader.sendSequenceNumber = h'.sendSequenceNumber)
      (hhandler : out.handler = { h' with
        state := if t.isLastSegment then .closed
          else .segmentedUpload (t.advanced od currentTimeUs) })
  /-- The transfer ends without a further segment. -/
  | ended (r : SdoResponseData) (hr : request.receiveCon ≠ .errorResponse)
      (hnonempty : commandPayload ≠ []) (hresult : out.result = .ok r) (hcommand : r.command.header.segmentation = .expedited)
      (hhandler : out.handler.state = .closed)

/-- The next frame in order keeps the upload running. -/
theorem received_upload {t : SdoTransferState} (hs : h.state = .segmentedUpload t)
    (request : SequenceLayerHeader) :
    ∃ t', (h.received request).state = .segmentedUpload t' ∧ (t' = t ∨ t' = acknowledged t) := by
  simp only [received, acknowledge, hs]
  split_ifs
  · exact ⟨_, rfl, .inr rfl⟩
  · exact ⟨_, rfl, .inl rfl⟩

/-- A frame of the running upload, after the sequence layer accepted it.  The transfer `t'` is
`t`, up to the acknowledgement of the stored segment. -/
theorem accepted_upload_cases {t t' : SdoTransferState} {h' : SdoSequenceHandler}
    {responseHeader : SequenceLayerHeader}
    (hdec : SequenceLayerHeader.deserialize (payload.take 4) = .ok request)
    (hr : request.receiveCon ≠ .errorResponse)
    (hseq : h.processSequenceLayer request = (.ok responseHeader, h'))
    (hs' : h'.state = .segmentedUpload t') (ht : t' = t ∨ t' = acknowledged t)
    (horder : request.sendSequenceNumber = h.lastReceivedSequenceNumber ∧ h' = h ∨
      request.sendSequenceNumber = nextSequence h.lastReceivedSequenceNumber ∧
        h' = h.received request) (od : ObjectDictionary σ) (currentTimeUs : ℕ) (ch : η) :
    UploadStep h t request (payload.drop 4) od currentTimeUs
      (h.handleRequest payload od currentTimeUs ch) := by
  have hnumber := processSequenceLayer_sendSequenceNumber hseq
  have hsegment : t'.uploadSegment = t.uploadSegment := by
    rcases ht with rfl | rfl <;> rfl
  have hstate : (if t'.isLastSegment then SdoServerState.closed
        else .segmentedUpload (t'.advanced od currentTimeUs)) =
      if t.isLastSegment then .closed else .segmentedUpload (t.advanced od currentTimeUs) := by
    rcases ht with rfl | rfl <;> rfl
  have htid : t'.transactionId = t.transactionId := by
    rcases ht with rfl | rfl <;> rfl
  by_cases hempty : payload.drop 4 = []
  · rw [handleRequest_empty hdec hr hseq hempty]
    by_cases hcon : request.sendCon = .connectionValid
    · rw [handleEmptyPayload_upload hs' hcon, hsegment, hstate]
      exact .sent h' _ hr (.inl ⟨hempty, hcon⟩) horder rfl rfl hnumber rfl
    · rw [handleEmptyPayload_error (by simp [hs']) hcon]
      rcases horder with ⟨hdup, rfl⟩ | ⟨hnext, rfl⟩
      · exact .rejected hr (hdup ▸ (nextSequence_ne _).symm) (by simp) rfl
      · exact .stalled ⟨hr, hnext, hempty, hcon⟩ (by simp) rfl
  · rw [handleRequest_command hdec hr hseq hempty, hs']
    rcases hv : verdict (.segmentedUpload t') (payload.drop 4) od currentTimeUs ch with ⟨tid, v⟩
    have hcases := verdict_duringUpload t' (payload.drop 4) od currentTimeUs ch
    rw [hv] at hcases
    rcases hcases with rfl | ⟨rfl, hack⟩ | ⟨code, rfl⟩
    · exact .ended _ hr hempty rfl rfl rfl
    · refine .sent h' _ hr (.inr ⟨hempty, htid ▸ hack⟩) horder rfl hsegment hnumber ?_
      simp only [conclude, hstate]
    · exact .ended _ hr hempty rfl rfl rfl

/-- What a request can do to a running upload. -/
theorem upload_request_cases {t : SdoTransferState} (hs : h.state = .segmentedUpload t)
    (hdec : SequenceLayerHeader.deserialize (payload.take 4) = .ok request)
    (od : ObjectDictionary σ) (currentTimeUs : ℕ) (ch : η) :
    UploadStep h t request (payload.drop 4) od currentTimeUs
      (h.handleRequest payload od currentTimeUs ch) := by
  rcases hseq : h.processSequenceLayer request with ⟨result, h'⟩
  have hstep := processSequenceLayer_step h request
  rw [hseq] at hstep
  by_cases hr : request.receiveCon = .errorResponse
  · rw [handleRequest_errorResponse hdec hr]
    cases hlast : t.lastSentSegment with
    | some command =>
        rw [handleErrorResponse_resend hs hlast]
        exact .resent command hr hlast rfl rfl
    | none =>
        rw [handleErrorResponse_acknowledge (by simp [hs, hlast]), hseq]
        refine .nothingStored hr hlast (fun r hok => ?_) ?_
        · cases result with
          | error e => cases hok
          | ok ackHeader =>
              cases hok
              rfl
        · cases hstep with
          | duplicate => exact .inl rfl
          | inOrder => exact .inr rfl
          | mismatch => exact .inl rfl
          | initialization hclosed | noConnection hclosed => simp [hs] at hclosed
          | confirmation hopening | unconfirmed hopening => simp [hs] at hopening
  · cases hstep with
    | duplicate _ hdup =>
        exact accepted_upload_cases hdec hr hseq hs (.inl rfl) (.inl ⟨hdup, rfl⟩) od currentTimeUs ch
    | inOrder _ hnext sendCon =>
        obtain ⟨t', hs', ht⟩ := received_upload hs request
        exact accepted_upload_cases hdec hr hseq hs' ht (.inr ⟨hnext, rfl⟩) od currentTimeUs ch
    | mismatch _ _ hnext =>
        rw [handleRequest_rejected hdec hr hseq]
        exact .rejected hr hnext (by simp) rfl
    | initialization hclosed | noConnection hclosed => simp [hs] at hclosed
    | confirmation hopening | unconfirmed hopening => simp [hs] at hopening

end SdoSequenceHandler

/-! ### A run into an upload -/

/-- A dictionary with an object that is too long for one frame. -/
def uploadDictionary : ObjectDictionary Empty :=
  (ObjectDictionary.new none).insert 0x2000
    ⟨.variable (.domain (List.replicate 5000 0)), "Firmware", some .readWrite, none⟩

/-- A frame without command. -/
def emptyFrame (header : SequenceLayerHeader) : HandlerEvent Empty DefaultSdoHandler :=
  .request header.bytes uploadDictionary 0 {}

/-- The handshake, and a read of the long object with its confirmation. -/
def openUpload : List (HandlerEvent Empty DefaultSdoHandler) :=
  [emptyFrame ⟨63, .noConnection, 0, .initialization⟩,
    .request (SequenceLayerHeader.bytes ⟨0, .connectionValid, 1, .connectionValid⟩ ++
      SdoCommand.bytes ⟨{ transactionId := 7, commandId := .readByIndex, segmentSize := 4 }, none,
        [0x00, 0x20, 0, 0]⟩) uploadDictionary 0 {}]

end Powerlink
