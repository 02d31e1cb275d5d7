import Powerlink.Sdo.Access
import Powerlink.Sdo.Steps

/-! # Requests before a connection is open

What a request does to a connection that is closed or opening.

* `failedClosed_iff`: a request fails and leaves the connection closed exactly if a closed
  connection receives a frame without command that neither initializes nor confirms it, or an
  opening connection receives anything but its confirmation (`LeavesClosed`).
* `closed_request_cases`: a closed connection becomes an open one only through an upload
  (`UploadsUnconnected`), and an opening one only through a request for a handshake
  (`OpensHandshake`).
* `opening_request_cases`: an opening connection that does not fail passes its handshake. -/

namespace Powerlink

open SdoSequenceHandler

/-! ### Failed requests -/

/-- The request fails and leaves the connection closed. -/
def LeavesClosed (h : SdoSequenceHandler) (payload : List UInt8) : Prop :=
  ∃ request, SequenceLayerHeader.deserialize (payload.take 4) = .ok request ∧
    (h.state = .closed ∧ request.receiveCon ≠ .errorResponse ∧ payload.drop 4 = [] ∧
        request.sendCon ≠ .initialization ∧ request.sendCon ≠ .connectionValid ∨
      h.state = .opening ∧ ¬ (request.sendCon = .connectionValid ∧
        request.receiveSequenceNumber = h.sendSequenceNumber))

namespace SdoSequenceHandler

variable {σ η : Type} {h h' : SdoSequenceHandler} {payload : List UInt8}
  {request : SequenceLayerHeader} {od : ObjectDictionary σ} {currentTimeUs : ℕ} {ch : η}

/-- The request failed and left the connection closed. -/
def FailedClosed (out : Handled σ η) : Prop :=
  (∃ e, out.result = .error e) ∧ out.handler.state = .closed

theorem conclude_not_failedClosed (responseHeader : SequenceLayerHeader)
    (v : UInt8 × Verdict σ η) :
    ¬ FailedClosed (h.conclude responseHeader od currentTimeUs ch v) := by
  rintro ⟨⟨e, he⟩, -⟩
  obtain ⟨tid, v⟩ := v
  cases v <;> cases he

/-- The sequence layer never leaves an open connection. -/
theorem processSequenceLayer_isOpen (hopen : h.state.isOpen = true)
    (request : SequenceLayerHeader) : (h.processSequenceLayer request).2.state.isOpen = true := by
  have hstep := processSequenceLayer_step h request
  generalize h.processSequenceLayer request = out at hstep ⊢
  cases hstep with
  | duplicate => exact hopen
  | mismatch => exact hopen
  | inOrder =>
      simp only [received, acknowledge]
      split
      · split_ifs <;> rfl
      · exact hopen
  | initialization hs | noConnection hs | confirmation hs | unconfirmed hs =>
      rw [hs] at hopen
      cases hopen

theorem isOpen_ne_closed {s : SdoServerState} (hopen : s.isOpen = true) : s ≠ .closed := by
  rintro rfl
  cases hopen

/-- A frame without command fails on a closed connection only. -/
theorem handleEmptyPayload_failedClosed_iff (responseHeader : SequenceLayerHeader) :
    FailedClosed (⟨(h.handleEmptyPayload request responseHeader od currentTimeUs).1,
        (h.handleEmptyPayload request responseHeader od currentTimeUs).2, od, ch⟩ : Handled σ η) ↔
      h.state = .closed ∧ request.sendCon ≠ .connectionValid := by
  by_cases hcon : h.state = .opening ∨ request.sendCon = .connectionValid
  · have hnot : ¬ (h.state = .closed ∧ request.sendCon ≠ .connectionValid) := by
      rintro ⟨hs, hinvalid⟩
      rcases hcon with hopening | hvalid
      · rw [hs] at hopening
        cases hopening
      · exact hinvalid hvalid
    refine iff_of_false ?_ hnot
    rintro ⟨⟨e, he⟩, -⟩
    by_cases hup : ∃ t, h.state = .segmentedUpload t
    · obtain ⟨t, hs⟩ := hup
      rw [handleEmptyPayload_upload hs (by simpa [hs] using hcon)] at he
      cases he
    · rw [handleEmptyPayload_acknowledge (not_exists.mp hup) hcon] at he
      cases he
  · obtain ⟨hopening, hinvalid⟩ := not_or.mp hcon
    rw [handleEmptyPayload_error hopening hinvalid]
    exact ⟨fun hf => ⟨hf.2, hinvalid⟩, fun hs => ⟨⟨_, rfl⟩, hs.1⟩⟩

theorem leavesClosed_iff
    (hdec : SequenceLayerHeader.deserialize (payload.take 4) = .ok request) :
    LeavesClosed h payload ↔
      h.state = .closed ∧ request.receiveCon ≠ .errorResponse ∧ payload.drop 4 = [] ∧
          request.sendCon ≠ .initialization ∧ request.sendCon ≠ .connectionValid ∨
        h.state = .opening ∧ ¬ (request.sendCon = .connectionValid ∧
          request.receiveSequenceNumber = h.sendSequenceNumber) := by
  constructor
  · rintro ⟨request', hdec', hleaves⟩
    cases hdec.symm.trans hdec'
    exact hleaves
  · exact fun hleaves => ⟨request, hdec, hleaves⟩

theorem not_failedClosed_of_isOpen {out : Handled σ η} (hopen : out.handler.state.isOpen = true) :
    ¬ FailedClosed out :=
  fun hf => isOpen_ne_closed hopen hf.2

/-- A request for retransmission leaves an open connection open. -/
theorem handleErrorResponse_isOpen (hopen : h.state.isOpen = true)
    (request : SequenceLayerHeader) : (h.handleErrorResponse request).2.state.isOpen = true := by
  rcases handleErrorResponse_cases h request with ⟨command, hresent⟩ | hacknowledged
  · rw [hresent]
    exact hopen
  · rw [hacknowledged]
    exact processSequenceLayer_isOpen hopen request

variable [ObjectDictionaryStorage σ] [SdoCommandHandler σ η]
  (hdec : SequenceLayerHeader.deserialize (payload.take 4) = .ok request)
include hdec

/-- A failed request leaves an open connection open. -/
theorem handleRequest_not_failedClosed (hopen : h.state.isOpen = true) :
    ¬ FailedClosed (h.handleRequest payload od currentTimeUs ch) := by
  by_cases hr : request.receiveCon = .errorResponse
  · rw [handleRequest_errorResponse hdec hr]
    exact not_failedClosed_of_isOpen (handleErrorResponse_isOpen hopen request)
  · rcases hseq : h.processSequenceLayer request with ⟨result, h'⟩
    have hopen' := processSequenceLayer_isOpen hopen request
    rw [hseq] at hopen'
    cases result with
    | error e =>
        rw [handleRequest_rejected hdec hr hseq]
        exact not_failedClosed_of_isOpen hopen'
    | ok responseHeader =>
        by_cases hempty : payload.drop 4 = []
        · rw [handleRequest_empty hdec hr hseq hempty, handleEmptyPayload_failedClosed_iff]
          exact fun hf => isOpen_ne_closed hopen' hf.1
        · rw [handleRequest_command hdec hr hseq hempty]
          exact conclude_not_failedClosed _ _

/-- On a closed connection a frame fails if it has no command and is no part of a handshake. -/
theorem closed_failedClosed_iff (hs : h.state = .closed) :
    FailedClosed (h.handleRequest payload od currentTimeUs ch) ↔
      request.receiveCon ≠ .errorResponse ∧ payload.drop 4 = [] ∧
        request.sendCon ≠ .initialization ∧ request.sendCon ≠ .connectionValid := by
  obtain ⟨responseHeader, h', hseq, hh'⟩ := processSequenceLayer_closed hs request
  by_cases hr : request.receiveCon = .errorResponse
  · rw [handleRequest_errorResponse hdec hr, handleErrorResponse_acknowledge (by simp [hs]), hseq]
    simp [FailedClosed, hr, Except.map]
  · by_cases hempty : payload.drop 4 = []
    · rw [handleRequest_empty hdec hr hseq hempty, handleEmptyPayload_failedClosed_iff]
      rcases hh' with ⟨hcon, hs'⟩ | ⟨hcon, hs'⟩ <;> simp [hr, hempty, hcon, hs']
    · rw [handleRequest_command hdec hr hseq hempty]
      exact iff_of_false (conclude_not_failedClosed _ _) (fun hf => hempty hf.2.1)

/-- On an opening connection everything but the confirmation fails. -/
theorem opening_failedClosed_iff (hs : h.state = .opening) :
    FailedClosed (h.handleRequest payload od currentTimeUs ch) ↔
      ¬ (request.sendCon = .connectionValid ∧
        request.receiveSequenceNumber = h.sendSequenceNumber) := by
  by_cases hcon : request.sendCon = .connectionValid ∧
      request.receiveSequenceNumber = h.sendSequenceNumber
  · have hseq := processSequenceLayer_confirmation hs hcon
    refine iff_of_false ?_ (not_not.mpr hcon)
    by_cases hr : request.receiveCon = .errorResponse
    · rw [handleRequest_errorResponse hdec hr, handleErrorResponse_acknowledge (by simp [hs]), hseq]
      exact not_failedClosed_of_isOpen rfl
    · by_cases hempty : payload.drop 4 = []
      · rw [handleRequest_empty hdec hr hseq hempty, handleEmptyPayload_failedClosed_iff]
        exact fun hf => hf.2 hcon.1
      · rw [handleRequest_command hdec hr hseq hempty]
        exact conclude_not_failedClosed _ _
  · have hseq := processSequenceLayer_unconfirmed hs hcon
    refine iff_of_true ?_ hcon
    by_cases hr : request.receiveCon = .errorResponse
    · rw [handleRequest_errorResponse hdec hr, handleErrorResponse_acknowledge (by simp [hs]), hseq]
      exact ⟨⟨_, rfl⟩, rfl⟩
    · rw [handleRequest_rejected hdec hr hseq]
      exact ⟨⟨_, rfl⟩, rfl⟩

/-- Exactly these requests fail and leave the connection closed. -/
theorem failedClosed_iff (od : ObjectDictionary σ) (currentTimeUs : ℕ) (ch : η) :
    FailedClosed (h.handleRequest payload od currentTimeUs ch) ↔ LeavesClosed h payload := by
  rw [leavesClosed_iff hdec]
  cases hs : h.state with
  | closed => simp [closed_failedClosed_iff hdec hs]
  | opening => simp [opening_failedClosed_iff hdec hs]
  | established | segmentedDownload t | segmentedUpload t =>
      simp [handleRequest_not_failedClosed hdec (h := h) (by rw [hs]; rfl)]

end SdoSequenceHandler

/-! ### Requests on a closed connection -/

section closed

variable {σ η : Type} [ObjectDictionaryStorage σ] [SdoCommandHandler σ η]

/-- The command is answered in one frame. -/
def Verdict.isAnswer {σ η : Type} : Verdict σ η → Bool
  | answer _ _ _ | delegated _ _ _ => true
  | refuse _ _ | clientAbort | segment _ | receive _ | complete _ => false

/-- A read that does not fit into one frame starts an upload on a closed connection. -/
def UploadsUnconnected (h : SdoSequenceHandler) (payload : List UInt8) (od : ObjectDictionary σ)
    (currentTimeUs : ℕ) (ch : η) : Prop :=
  h.state = .closed ∧ ∃ request t,
    SequenceLayerHeader.deserialize (payload.take 4) = .ok request ∧
    request.receiveCon ≠ .errorResponse ∧ payload.drop 4 ≠ [] ∧
    (verdict .closed (payload.drop 4) od currentTimeUs ch).2 = .segment t

/-- The request opens a handshake: it asks for one on a closed connection, and its command, if it
has one, is answered in one frame. -/
def OpensHandshake (h : SdoSequenceHandler) (payload : List UInt8) (od : ObjectDictionary σ)
    (currentTimeUs : ℕ) (ch : η) : Prop :=
  h.state = .closed ∧ ∃ request,
    SequenceLayerHeader.deserialize (payload.take 4) = .ok request ∧
    request.sendCon = .initialization ∧
    (request.receiveCon = .errorResponse ∨ payload.drop 4 = [] ∨
      (verdict .closed (payload.drop 4) od currentTimeUs ch).2.isAnswer = true)

/-- Without a transfer, the verdict does not depend on the handshake. -/
theorem verdict_opening (commandPayload : List UInt8) (od : ObjectDictionary σ)
    (currentTimeUs : ℕ) (ch : η) :
    verdict .opening commandPayload od currentTimeUs ch =
      verdict .closed commandPayload od currentTimeUs ch := rfl

namespace SdoSequenceHandler

variable {h h' : SdoSequenceHandler} {payload : List UInt8} {request : SequenceLayerHeader}
  {od : ObjectDictionary σ} {currentTimeUs : ℕ} {ch : η}

omit [ObjectDictionaryStorage σ] [SdoCommandHandler σ η] in
theorem conclude_opening {responseHeader : SequenceLayerHeader} {v : UInt8 × Verdict σ η}
    (hout : (h.conclude responseHeader od currentTimeUs ch v).handler.state = .opening) :
    h.state = .opening ∧ v.2.isAnswer = true := by
  obtain ⟨tid, v⟩ := v
  cases v with
  | answer segmentSize payload od' =>
      refine ⟨?_, rfl⟩
      by_contra hs
      simp [conclude, hs] at hout
  | delegated response od' ch' =>
      refine ⟨?_, rfl⟩
      simp only [conclude, closeAfter] at hout
      split_ifs at hout
      exact hout
  | segment t =>
      simp only [conclude] at hout
      split_ifs at hout
  | refuse | clientAbort | receive | complete => cases hout

omit [ObjectDictionaryStorage σ] [SdoCommandHandler σ η] in
theorem conclude_isOpen (hs : h.state.isOpen = false) {responseHeader : SequenceLayerHeader}
    {v : UInt8 × Verdict σ η}
    (hout : (h.conclude responseHeader od currentTimeUs ch v).handler.state.isOpen = true) :
    ∃ t, v.2 = .segment t := by
  obtain ⟨tid, v⟩ := v
  cases v with
  | answer segmentSize payload od' =>
      simp only [conclude] at hout
      split_ifs at hout <;> cases hout
  | delegated response od' ch' =>
      simp only [conclude, closeAfter] at hout
      split_ifs at hout
      · cases hout
      · rw [hs] at hout
        cases hout
  | segment t => exact ⟨t, rfl⟩
  | refuse | clientAbort | receive | complete => cases hout

/-- A closed connection becomes an open one only through an upload, and stays in a handshake only
if the request opens it. -/
theorem closed_request_cases (hs : h.state = .closed) (payload : List UInt8)
    (od : ObjectDictionary σ) (currentTimeUs : ℕ) (ch : η) :
    ((h.handleRequest payload od currentTimeUs ch).handler.state.isOpen = true →
        UploadsUnconnected h payload od currentTimeUs ch) ∧
      ((h.handleRequest payload od currentTimeUs ch).handler.state = .opening →
        OpensHandshake h payload od currentTimeUs ch) := by
  rcases handleRequest_decode h payload od currentTimeUs ch with ⟨-, hshort⟩ | ⟨request, hdec⟩
  · rw [hshort]
    simp [hs, SdoServerState.isOpen]
  · obtain ⟨responseHeader, h', hseq, hh'⟩ := processSequenceLayer_closed hs request
    have hnot : h'.state.isOpen = false := by
      rcases hh' with ⟨-, hs'⟩ | ⟨-, hs'⟩ <;> rw [hs'] <;> rfl
    have hinit (hs' : h'.state = .opening) : request.sendCon = .initialization := by
      rcases hh' with ⟨hcon, -⟩ | ⟨-, hclosed⟩
      · exact hcon
      · cases hclosed.symm.trans hs'
    by_cases hr : request.receiveCon = .errorResponse
    · rw [handleRequest_errorResponse hdec hr, handleErrorResponse_acknowledge (by simp [hs]), hseq]
      refine ⟨fun hopen => ?_, fun hs' => ⟨hs, request, hdec, hinit hs', .inl hr⟩⟩
      rw [hnot] at hopen
      cases hopen
    · by_cases hempty : payload.drop 4 = []
      · have hstate : (h'.handleEmptyPayload request responseHeader od currentTimeUs).2.state =
            h'.state := by
          by_cases hcon : h'.state = .opening ∨ request.sendCon = .connectionValid
          · rcases hh' with ⟨-, hs'⟩ | ⟨-, hs'⟩ <;>
              rw [handleEmptyPayload_acknowledge (by simp [hs']) hcon] <;> simp [hs']
          · rw [handleEmptyPayload_error (not_or.mp hcon).1 (not_or.mp hcon).2]
        rw [handleRequest_empty hdec hr hseq hempty, hstate]
        refine ⟨fun hopen => ?_, fun hs' => ⟨hs, request, hdec, hinit hs', .inr (.inl hempty)⟩⟩
        rw [hnot] at hopen
        cases hopen
      · have hverdict : verdict h'.state (payload.drop 4) od currentTimeUs ch =
            verdict .closed (payload.drop 4) od currentTimeUs ch := by
          rcases hh' with ⟨-, hs'⟩ | ⟨-, hs'⟩ <;> rw [hs']
          exact verdict_opening _ od currentTimeUs ch
        rw [handleRequest_command hdec hr hseq hempty, hverdict]
        constructor
        · intro hopen
          obtain ⟨t, ht⟩ := conclude_isOpen hnot hopen
          exact ⟨hs, request, t, hdec, hr, hempty, ht⟩
        · intro hopening
          obtain ⟨hs', hanswer⟩ := conclude_opening hopening
          exact ⟨hs, request, hdec, hinit hs', .inr (.inr hanswer)⟩

/-- An opening connection becomes an open one only through its confirmation. -/
theorem opening_request_cases (hs : h.state = .opening)
    (hdec : SequenceLayerHeader.deserialize (payload.take 4) = .ok request)
    (hleaves : ¬ LeavesClosed h payload) : PassesHandshake h payload := by
  rw [leavesClosed_iff hdec] at hleaves
  have hcon : request.sendCon = .connectionValid ∧
      request.receiveSequenceNumber = h.sendSequenceNumber := by
    by_contra hcon
    exact hleaves (.inr ⟨hs, hcon⟩)
  exact ⟨hs, request, hdec, by rw [processSequenceLayer_confirmation hs hcon]; rfl⟩

end SdoSequenceHandler

end closed

end Powerlink
