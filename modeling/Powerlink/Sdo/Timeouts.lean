import Powerlink.Sdo.Steps

/-! # Pending timeouts

A connection with a running transfer is live if a timeout is pending that will end it: an
upload keeps a deadline and the segment to send again, a download keeps a deadline.

`live_iff` says exactly which runs from a new connection stay live.  The sequence layer drops
the deadline and the stored segment as soon as a frame acknowledges the segment, so a frame that
acknowledges it and is then rejected for its missing command leaves an upload that no timeout
will ever end; every other step keeps the connection live. -/

namespace Powerlink

open SdoSequenceHandler

/-- An upload that waits for an acknowledgement. -/
structure SdoTransferState.Pending (t : SdoTransferState) : Prop where
  deadline : t.deadlineUs.isSome
  stored : t.lastSentSegment.isSome
  started : 0 < t.offset
  unfinished : t.offset < t.totalSize
  size : t.totalSize = t.dataBuffer.length

/-- Sending a segment that is not the last one leaves the upload waiting. -/
theorem SdoTransferState.advanced_pending {σ : Type} {t : SdoTransferState}
    (hlast : t.isLastSegment = false) (hsize : t.totalSize = t.dataBuffer.length)
    (od : ObjectDictionary σ) (currentTimeUs : ℕ) : (t.advanced od currentTimeUs).Pending := by
  have hchunk := currentChunkSize_of_not_last hlast
  rw [isLastSegment_eq_false_iff] at hlast
  simp only [maxExpeditedPayload] at hchunk hlast
  refine ⟨rfl, rfl, ?_, ?_, hsize⟩
  · simp only [advanced, hchunk]
    omega
  · simp only [advanced, hchunk]
    omega

/-- The connection is live: a running transfer has a pending timeout, some ticks end it, and no
tick finds the stored segment missing. -/
structure Live (σ : Type) (h : SdoSequenceHandler) : Prop where
  upload : ∀ t, h.state = .segmentedUpload t → t.Pending
  download : ∀ t, h.state = .segmentedDownload t → t.deadlineUs.isSome
  ends : ∀ od : ObjectDictionary σ, h.state.deadlineUs.isSome →
    ∃ times, (Runs.run (fun h time => (h.tick time od).2) h times).state = .closed
  stored : ∀ (od : ObjectDictionary σ) (currentTimeUs : ℕ), (h.tick currentTimeUs od).1 ≠
    .error (.internalError "Missing last sent segment during retransmission")

section live

variable {σ η : Type} {h : SdoSequenceHandler}

/-- A tick at the deadline of an upload retransmits, or gives the upload up. -/
theorem tick_at_deadline {t : SdoTransferState} {deadline : ℕ} (od : ObjectDictionary σ)
    (hs : h.state = .segmentedUpload t) (hd : t.deadlineUs = some deadline)
    (hstored : t.lastSentSegment.isSome) :
    (h.tick deadline od).2.state =
      if t.retransmissionsLeft = 0 then .closed
      else .segmentedUpload (rearmed t od deadline) := by
  have hstep := tick_cases h od deadline
  generalize h.tick deadline od = out at hstep ⊢
  cases hstep with
  | quiet hquiet =>
      have hlt := hquiet deadline (by rw [hs]; exact hd)
      exact absurd hlt (lt_irrefl _)
  | resent t' _ _ hs' _ _ hleft =>
      rw [hs] at hs'
      cases hs'
      rw [if_neg (by omega)]
  | missing t' hs' _ hlast =>
      rw [hs] at hs'
      cases hs'
      simp [hlast] at hstored
  | expired t' _ hs' =>
      rcases hs' with ⟨hs', hzero⟩ | hs'
      · rw [hs] at hs'
        cases hs'
        rw [if_pos hzero]
        rfl
      · rw [hs] at hs'
        cases hs'

/-- The pending timeout of an upload gives it up after its retransmissions. -/
theorem ticks_end_upload (od : ObjectDictionary σ) : ∀ (n : ℕ) {h : SdoSequenceHandler}
    {t : SdoTransferState}, h.state = .segmentedUpload t → t.Pending →
    t.retransmissionsLeft = n →
    ∃ times, (Runs.run (fun h time => (h.tick time od).2) h times).state = .closed
  | 0, h, t, hs, hp, hn => by
      obtain ⟨deadline, hd⟩ := Option.isSome_iff_exists.mp hp.deadline
      have htick := tick_at_deadline od hs hd hp.stored
      rw [if_pos hn] at htick
      exact ⟨[deadline], htick⟩
  | n + 1, h, t, hs, hp, hn => by
      obtain ⟨deadline, hd⟩ := Option.isSome_iff_exists.mp hp.deadline
      have htick := tick_at_deadline od hs hd hp.stored
      rw [if_neg (by omega)] at htick
      obtain ⟨times, htimes⟩ := ticks_end_upload od n htick
        ⟨rfl, hp.stored, hp.started, hp.unfinished, hp.size⟩ (by simp [rearmed, hn])
      exact ⟨deadline :: times, htimes⟩

/-- A connection is live as soon as its transfer has a pending timeout. -/
theorem live_of_pending (hup : ∀ t, h.state = .segmentedUpload t → t.Pending)
    (hdown : ∀ t, h.state = .segmentedDownload t → t.deadlineUs.isSome) : Live σ h := by
  refine ⟨hup, hdown, fun od hdeadline => ?_, fun od currentTimeUs => ?_⟩
  · cases hs : h.state with
    | closed | opening | established => simp [hs, SdoServerState.deadlineUs] at hdeadline
    | segmentedUpload t => exact ticks_end_upload od _ hs (hup t hs) rfl
    | segmentedDownload t =>
        obtain ⟨deadline, hd⟩ := Option.isSome_iff_exists.mp (hdown t hs)
        refine ⟨[deadline], ?_⟩
        simp [Runs.run, tick, hs, hd, timeoutAbort, SdoSequenceHandler.abort, reset]
  · have hstep := tick_cases h od currentTimeUs
    generalize h.tick currentTimeUs od = out at hstep ⊢
    cases hstep with
    | quiet => simp
    | resent => simp
    | expired => simp [timeoutAbort]
    | missing t hs _ hlast =>
        have hstored := (hup t hs).stored
        simp [hlast] at hstored

/-- A state without transfer is live. -/
theorem live_of_keepsTransfer {s : SdoServerState} (hkeep : KeepsTransfer s h.state)
    (hdown : ∀ t, s = .segmentedDownload t → t.deadlineUs.isSome) : Live σ h :=
  live_of_pending (fun t ht => absurd ht (hkeep.1 t))
    (fun t ht => hdown t ((hkeep.2 t ht).trans ht))

theorem live_of_closed (hs : h.state = .closed) : Live σ h :=
  live_of_pending (by simp [hs]) (by simp [hs])

theorem live_of_upload {t : SdoTransferState} (hs : h.state = .segmentedUpload t)
    (ht : t.Pending) : Live σ h :=
  live_of_pending (by simp [hs, ht]) (by simp [hs])

theorem live_new (clientInfo : SdoClientInfo) : Live σ (new clientInfo) := live_of_closed rfl

/-! ### Steps -/

theorem tick_live (hlive : Live σ h) (od : ObjectDictionary σ) (currentTimeUs : ℕ) :
    Live σ (h.tick currentTimeUs od).2 := by
  have hstep := tick_cases h od currentTimeUs
  generalize h.tick currentTimeUs od = out at hstep ⊢
  cases hstep with
  | quiet => exact hlive
  | resent t _ _ hs =>
      have hp := hlive.upload t hs
      exact live_of_upload rfl ⟨rfl, hp.stored, hp.started, hp.unfinished, hp.size⟩
  | missing t hs _ hlast =>
      have hp := hlive.upload t hs
      exact live_of_upload rfl ⟨rfl, hp.stored, hp.started, hp.unfinished, hp.size⟩
  | expired => exact live_of_closed rfl

/-- The frame acknowledges the stored segment of an upload, but has neither a command nor a
valid connection. -/
def DropsTimeout (h : SdoSequenceHandler) (payload : List UInt8) : Prop :=
  ∃ t request, h.state = .segmentedUpload t ∧
    SequenceLayerHeader.deserialize (payload.take 4) = .ok request ∧
    IsStall h request (payload.drop 4) ∧
    request.receiveSequenceNumber = h.sendSequenceNumber

/-- The events that keep a connection live. -/
def KeepsTimeout (h : SdoSequenceHandler) : HandlerEvent σ η → Prop
  | .request payload _ _ _ => ¬ DropsTimeout h payload
  | .tick _ _ => True

/-- The next frame in order keeps the timeout of an upload unless it acknowledges the stored
segment. -/
theorem received_live_iff {t : SdoTransferState} {request : SequenceLayerHeader}
    (hs : h.state = .segmentedUpload t) (hp : t.Pending) :
    Live σ (h.received request) ↔ request.receiveSequenceNumber ≠ h.sendSequenceNumber := by
  by_cases hack : request.receiveSequenceNumber = h.sendSequenceNumber
  · have hs' : (h.received request).state = .segmentedUpload (acknowledged t) := by
      simp only [received, acknowledge, hs, if_pos hack]
    refine iff_of_false (fun hlive => ?_) (not_not.mpr hack)
    have hdeadline := (hlive.upload _ hs').deadline
    cases hdeadline
  · have hs' : (h.received request).state = .segmentedUpload t := by
      simp only [received, acknowledge, hs, if_neg hack]
    exact iff_of_true (live_of_upload hs' hp) hack

variable [ObjectDictionaryStorage σ] [SdoCommandHandler σ η]

theorem upload_request_live_iff {t : SdoTransferState} {request : SequenceLayerHeader}
    {payload : List UInt8} (hs : h.state = .segmentedUpload t) (hlive : Live σ h)
    (hdec : SequenceLayerHeader.deserialize (payload.take 4) = .ok request)
    (od : ObjectDictionary σ) (currentTimeUs : ℕ) (ch : η) :
    Live σ (h.handleRequest payload od currentTimeUs ch).handler ↔
      ¬ (IsStall h request (payload.drop 4) ∧
        request.receiveSequenceNumber = h.sendSequenceNumber) := by
  have hp := hlive.upload t hs
  cases upload_request_cases hs hdec od currentTimeUs ch with
  | resent command hr _ _ hhandler =>
      rw [hhandler]
      exact iff_of_true hlive (fun hc => hc.1.1 hr)
  | nothingStored _ hlast =>
      have hstored := hp.stored
      simp [hlast] at hstored
  | rejected _ hnext _ hhandler =>
      rw [hhandler]
      exact iff_of_true hlive (fun hc => hnext hc.1.2.1)
  | stalled hstall _ hhandler =>
      rw [hhandler, received_live_iff hs hp]
      simp [hstall]
  | sent h' r _ hack _ _ _ _ hhandler =>
      rw [hhandler]
      refine iff_of_true ?_ ?_
      · cases hlast : t.isLastSegment with
        | true => exact live_of_closed rfl
        | false => exact live_of_upload rfl (SdoTransferState.advanced_pending hlast hp.size _ _)
      · rintro ⟨⟨-, -, hempty, hcon⟩, -⟩
        rcases hack with ⟨-, hvalid⟩ | ⟨hnonempty, -⟩
        · exact hcon hvalid
        · exact hnonempty hempty
  | ended r _ hnonempty _ _ hhandler =>
      exact iff_of_true (live_of_closed hhandler) (fun hc => hnonempty hc.1.2.2.1)

/-- A step keeps a live connection live exactly if it keeps its timeout. -/
theorem step_live_iff (hlive : Live σ h) (e : HandlerEvent σ η) :
    Live σ (h.step e) ↔ KeepsTimeout h e := by
  cases e with
  | tick od currentTimeUs => exact iff_of_true (tick_live hlive od currentTimeUs) trivial
  | request payload od currentTimeUs ch =>
      rcases handleRequest_decode h payload od currentTimeUs ch with
        ⟨hlen, hshort⟩ | ⟨request, hdec⟩
      · simp only [step, hshort]
        refine iff_of_true hlive ?_
        rintro ⟨-, request, -, hdec, -⟩
        exact length_of_deserialize hdec hlen
      · by_cases hup : ∃ t, h.state = .segmentedUpload t
        · obtain ⟨t, hs⟩ := hup
          refine (upload_request_live_iff hs hlive hdec od currentTimeUs ch).trans
            (not_congr ⟨fun hc => ⟨t, request, hs, hdec, hc⟩, ?_⟩)
          rintro ⟨-, request', -, hdec', hc⟩
          cases hdec.symm.trans hdec'
          exact hc
        · have hs := not_exists.mp hup
          refine iff_of_true ?_ (fun ⟨t, _, ht, _⟩ => hs t ht)
          rcases request_cases hs payload od currentTimeUs ch with
            hkeep | ⟨t, r, hfresh, hstate, -⟩
          · exact live_of_keepsTransfer hkeep hlive.download
          · exact live_of_upload hstate
              (SdoTransferState.advanced_pending hfresh.isLastSegment hfresh.2.1 _ _)

/-- A run from a new connection stays live exactly if no frame drops the timeout of an upload. -/
theorem live_iff (clientInfo : SdoClientInfo) (events : List (HandlerEvent σ η)) :
    Runs.Always step (Live σ) (new clientInfo) events ↔
      Runs.AllSteps step KeepsTimeout (new clientInfo) events :=
  Runs.always_iff_allSteps (fun _ e hlive => step_live_iff hlive e) (live_new clientInfo)

end live

/-- An acknowledgement without command that asks for an acknowledgement itself leaves an upload
that no timeout ends. -/
theorem acknowledgement_request_not_live :
    ¬ Runs.Always step (Live Empty) (new udpClient)
      (openUpload ++ [emptyFrame ⟨1, .connectionValid, 2, .connectionValidAckRequest⟩]) := by
  intro hlive
  have hup : (Runs.run step (new udpClient) (openUpload ++
      [emptyFrame ⟨1, .connectionValid, 2, .connectionValidAckRequest⟩])).state.isUpload = true := by
    decide +kernel
  have hnone : (Runs.run step (new udpClient) (openUpload ++
      [emptyFrame ⟨1, .connectionValid, 2, .connectionValidAckRequest⟩])).state.deadlineUs =
      none := by
    decide +kernel
  obtain ⟨t, hs⟩ := (SdoServerState.isUpload_iff _).mp hup
  have hdeadline := (hlive.last.upload t hs).deadline
  rw [hs] at hnone
  rw [show t.deadlineUs = none from hnone] at hdeadline
  cases hdeadline

end Powerlink
