import Powerlink.Sdo.Responses

/-! # Duplicated frames

The sequence layer recognises a frame that repeats the last sequence number and answers it with
the old sequence numbers, but passes the frame on.  What the command layer does with it is
therefore done twice: `duplicate_iff` says exactly which duplicates do no harm.  They are the
requests for retransmission, the frames without command outside an upload, and the commands
whose verdict on an established connection leaves the dictionary and the command handler as they
are, starts no upload and is not reset. -/

namespace Powerlink

open SdoSequenceHandler

section duplicates

variable {σ η : Type}

/-- The request was not executed: the dictionary, the command handler and the running transfer
are unchanged, and the response acknowledges the frame under the old sequence number. -/
structure NotExecuted (h : SdoSequenceHandler) (request : SequenceLayerHeader)
    (od : ObjectDictionary σ) (ch : η) (out : Handled σ η) : Prop where
  od_eq : out.od = od
  commandHandler_eq : out.commandHandler = ch
  transfer_eq : out.handler.state.transfer = h.state.transfer
  acknowledged : ∃ r, out.result = .ok r ∧
    r.seqHeader.receiveSequenceNumber = request.sendSequenceNumber ∧
    r.seqHeader.sendSequenceNumber = h.sendSequenceNumber

/-- A verdict that may be carried out twice. -/
def Verdict.Repeatable (state : SdoServerState) (lastReceived : UInt8) (od : ObjectDictionary σ)
    (ch : η) : Verdict σ η → Prop
  | refuse _ od' => state = .established ∧ od' = od ∧ lastReceived = 63
  | clientAbort | receive _ => state = .established
  | answer _ _ od' => state = .established ∧ od' = od
  | segment _ | complete _ => False
  | delegated response od' ch' =>
      (state = .established ∨ endsTransfer response = false) ∧ od' = od ∧ ch' = ch

variable {h : SdoSequenceHandler} {request : SequenceLayerHeader} {od : ObjectDictionary σ}
  {currentTimeUs : ℕ} {ch : η}

/-- The transfer of an open connection is gone exactly if it had none. -/
theorem closed_transfer_iff (hopen : h.state.isOpen) :
    none = h.state.transfer ↔ h.state = .established := by
  cases hs : h.state with
  | closed | opening => rw [hs] at hopen; cases hopen
  | established | segmentedDownload t | segmentedUpload t => simp [SdoServerState.transfer]

/-- Carrying out a verdict on a duplicate is harmless exactly for the repeatable ones. -/
theorem conclude_notExecuted_iff (hopen : h.state.isOpen)
    (hdup : request.sendSequenceNumber = h.lastReceivedSequenceNumber)
    {responseHeader : SequenceLayerHeader}
    (hheader : responseHeader.sendSequenceNumber = h.sendSequenceNumber) {tid : UInt8}
    {v : Verdict σ η} (hv : v = .clientAbort ∨ v.Allowed h.state tid) :
    NotExecuted h request od ch (h.conclude responseHeader od currentTimeUs ch (tid, v)) ↔
      v.Repeatable h.state h.lastReceivedSequenceNumber od ch := by
  have hclosed := closed_transfer_iff hopen
  have hnot : h.state ≠ .opening := by
    intro hs
    rw [hs] at hopen
    cases hopen
  cases v with
  | refuse abortCode od' =>
      constructor
      · rintro ⟨hod, -, htransfer, r, hr, hrsn, -⟩
        cases hr
        exact ⟨hclosed.mp htransfer, hod, hdup ▸ hrsn.symm⟩
      · rintro ⟨hs, hod, hlast⟩
        exact ⟨hod, rfl, hclosed.mpr hs, _, rfl, (hdup.trans hlast).symm, hheader⟩
  | clientAbort =>
      exact ⟨fun hn => hclosed.mp hn.transfer_eq,
        fun hs => ⟨rfl, rfl, hclosed.mpr hs, _, rfl, hdup.symm, hheader⟩⟩
  | answer segmentSize payload od' =>
      simp only [conclude, if_neg hnot]
      exact ⟨fun hn => ⟨hclosed.mp hn.transfer_eq, hn.od_eq⟩,
        fun hs => ⟨hs.2, rfl, hclosed.mpr hs.1, _, rfl, hdup.symm, hheader⟩⟩
  | segment t =>
      have hallowed := (hv.resolve_left (by simp)).2
      exact iff_of_false (fun hn => segment_transfer_ne hallowed od currentTimeUs hn.transfer_eq) id
  | receive t =>
      exact ⟨fun hn => hclosed.mp hn.transfer_eq,
        fun hs => ⟨rfl, rfl, hclosed.mpr hs, _, rfl, hdup.symm, hheader⟩⟩
  | complete od' =>
      obtain ⟨t, hs⟩ := hv.resolve_left (by simp)
      refine iff_of_false (fun hn => ?_) id
      have hest := hclosed.mp hn.transfer_eq
      rw [hs] at hest
      cases hest
  | delegated response od' ch' =>
      have htransfer : (h.closeAfter response).state.transfer = h.state.transfer ↔
          h.state = .established ∨ endsTransfer response = false := by
        cases hends : endsTransfer response with
        | true =>
            rw [closeAfter, if_pos ⟨hnot, hends⟩]
            exact hclosed.trans (by simp)
        | false => simp [closeAfter, hends]
      exact ⟨fun hn => ⟨htransfer.mp hn.transfer_eq, hn.od_eq, hn.commandHandler_eq⟩,
        fun hs => ⟨hs.2.1, hs.2.2, htransfer.mpr hs.1, _, rfl, hdup.symm, hheader⟩⟩

/-- A duplicated request for retransmission is never executed. -/
theorem handleErrorResponse_notExecuted (hopen : h.state.isOpen)
    (hdup : request.sendSequenceNumber = h.lastReceivedSequenceNumber) :
    NotExecuted h request od ch
      ⟨(h.handleErrorResponse request).1, (h.handleErrorResponse request).2, od, ch⟩ := by
  have hseq := processSequenceLayer_duplicate hopen hdup
  rcases handleErrorResponse_cases h request with ⟨command, hresent⟩ | hacknowledged
  · rw [hresent]
    exact ⟨rfl, rfl, rfl, _, rfl, rfl, rfl⟩
  · rw [hacknowledged, hseq]
    exact ⟨rfl, rfl, rfl, _, rfl, hdup.symm, rfl⟩

/-- A duplicated frame without command is harmless outside an upload. -/
theorem handleEmptyPayload_notExecuted_iff (hopen : h.state.isOpen)
    (hdup : request.sendSequenceNumber = h.lastReceivedSequenceNumber)
    {responseHeader : SequenceLayerHeader}
    (hheader : responseHeader.sendSequenceNumber = h.sendSequenceNumber) :
    NotExecuted h request od ch
        ⟨(h.handleEmptyPayload request responseHeader od currentTimeUs).1,
          (h.handleEmptyPayload request responseHeader od currentTimeUs).2, od, ch⟩ ↔
      request.sendCon = .connectionValid ∧ ∀ t, h.state ≠ .segmentedUpload t := by
  by_cases hcon : request.sendCon = .connectionValid
  · by_cases hup : ∃ t, h.state = .segmentedUpload t
    · obtain ⟨t, hs⟩ := hup
      rw [handleEmptyPayload_upload hs hcon]
      exact iff_of_false (fun hn => segment_transfer_ne (.inl hs) od currentTimeUs hn.transfer_eq)
        (fun hc => hc.2 t hs)
    · rw [handleEmptyPayload_acknowledge (not_exists.mp hup) (.inr hcon)]
      refine iff_of_true ⟨rfl, rfl, ?_, _, rfl, hdup.symm, hheader⟩ ⟨hcon, not_exists.mp hup⟩
      dsimp only
      split_ifs with hest
      · rw [hest]
        rfl
      · rfl
  · have hnot : h.state ≠ .opening := by
      intro hs
      rw [hs] at hopen
      cases hopen
    rw [handleEmptyPayload_error hnot hcon]
    refine iff_of_false (fun hn => ?_) (fun hc => hcon hc.1)
    obtain ⟨r, hr, -⟩ := hn.acknowledged
    cases hr

variable [ObjectDictionaryStorage σ] [SdoCommandHandler σ η]

end duplicates

/-- A duplicate of the frame that `establishedHandler` received last. -/
def repeatedHeader : SequenceLayerHeader where
  receiveSequenceNumber := 1
  receiveCon := .connectionValid
  sendSequenceNumber := 0
  sendCon := .connectionValid

/-- A connection in the middle of an upload. -/
def uploadingHandler : SdoSequenceHandler where
  state := .segmentedUpload
    { transactionId := 7
      totalSize := 5000
      dataBuffer := List.replicate 5000 0
      offset := 1452
      index := 0x2000
      subIndex := 0
      deadlineUs := some 15000000
      retransmissionsLeft := 2
      lastSentSegment := some (.answerTo 7 0 []) }
  sendSequenceNumber := 1
  lastReceivedSequenceNumber := 0
  clientInfo := udpClient

end Powerlink
