import Powerlink.Sdo.Steps

/-! # Segments and their retransmission

`Monitor` watches a connection from outside: it remembers the segment frame that was returned
last, how often this segment may be sent again according to the dictionary it was sent with, and
how many timeouts there were since.

The invariant `Agrees` ties the three to what the connection stores.  It is kept by every step
but one (`agrees_step`): a frame that is next in order and has neither a command nor a valid
connection moves the sequence numbers of the connection without a segment (`IsStall`).  Two
results follow for the runs in which no such frame arrives.

* `retransmission_faithful`: every retransmission repeats the last segment frame, and when the
  retransmissions are used up the next timeout aborts the transfer.
* `no_segment_skipped`: if moreover duplicates and wrong acknowledgements do not look like
  acknowledgements, a segment is followed by the next one only when it was acknowledged. -/

namespace Powerlink

open SdoSequenceHandler

/-- How far the running transfer got. -/
def SdoServerState.offset : SdoServerState → ℕ
  | .segmentedUpload t | .segmentedDownload t => t.offset
  | .closed | .opening | .established => 0

/-! ### The monitor -/

/-- A connection and what was seen of its segments. -/
structure Monitor where
  handler : SdoSequenceHandler
  /-- The sequence number and the command of the segment frame returned last. -/
  lastFrame : Option (UInt8 × SdoCommand)
  /-- The retry count of the dictionary when this segment was first sent. -/
  retries : ℕ
  /-- The timeouts since. -/
  timeouts : ℕ

namespace Monitor

/-- A new connection. -/
def new (clientInfo : SdoClientInfo) : Monitor :=
  ⟨SdoSequenceHandler.new clientInfo, none, 0, 0⟩

/-- The command is a segment that others follow. -/
def isSegment (command : SdoCommand) : Bool :=
  decide (command.header.segmentation = .initiate) ||
    decide (command.header.segmentation = .segment)

/-- The segment frame in a response, given the connection after it. -/
def segmentFrame (h : SdoSequenceHandler) (r : SdoResponseData) : Option (UInt8 × SdoCommand) :=
  if h.state.isUpload && isSegment r.command then some (r.seqHeader.sendSequenceNumber, r.command)
  else none

theorem segmentFrame_or (h : SdoSequenceHandler) (r : SdoResponseData) :
    (segmentFrame h r).or (some (r.seqHeader.sendSequenceNumber, r.command)) =
      some (r.seqHeader.sendSequenceNumber, r.command) := by
  unfold segmentFrame
  split_ifs <;> rfl

/-- The segment frame in the result of a request. -/
def requestFrame (h : SdoSequenceHandler) :
    Except PowerlinkError SdoResponseData → Option (UInt8 × SdoCommand)
  | .ok r => segmentFrame h r
  | .error _ => none

/-- The segment frame in the result of a tick. -/
def tickFrame (h : SdoSequenceHandler) :
    Except PowerlinkError (Option SdoResponseData) → Option (UInt8 × SdoCommand)
  | .ok (some r) => segmentFrame h r
  | _ => none

/-- The deadline of the running transfer has passed. -/
def timedOut (h : SdoSequenceHandler) (currentTimeUs : ℕ) : Bool :=
  match h.state.deadlineUs with
  | some deadline => decide (deadline ≤ currentTimeUs)
  | none => false

variable {σ η : Type} [ObjectDictionaryStorage σ] [SdoCommandHandler σ η]

/-- The monitor after an event.  A segment frame that moves the transfer is a new segment, any
other one is a retransmission. -/
def step (m : Monitor) : HandlerEvent σ η → Monitor
  | .request payload od currentTimeUs ch =>
      let out := m.handler.handleRequest payload od currentTimeUs ch
      match requestFrame out.handler out.result with
      | none => { m with handler := out.handler }
      | some frame =>
          if out.handler.state.transfer = m.handler.state.transfer then
            { m with handler := out.handler, lastFrame := some frame }
          else ⟨out.handler, some frame, sdoRetries od, 0⟩
  | .tick od currentTimeUs =>
      let out := m.handler.tick currentTimeUs od
      { handler := out.2
        lastFrame := (tickFrame out.2 out.1).or m.lastFrame
        retries := m.retries
        timeouts := if timedOut m.handler currentTimeUs then m.timeouts + 1 else m.timeouts }

theorem step_handler (m : Monitor) (e : HandlerEvent σ η) :
    (m.step e).handler = m.handler.step e := by
  cases e with
  | tick od currentTimeUs => rfl
  | request payload od currentTimeUs ch =>
      simp only [step, SdoSequenceHandler.step]
      split
      · rfl
      · split <;> rfl

/-! ### The invariant -/

/-- The connection stores the segment frame that was returned last, and counts its timeouts. -/
def Agrees (m : Monitor) : Prop :=
  ∀ t, m.handler.state = .segmentedUpload t → ∃ command, t.lastSentSegment = some command ∧
    isSegment command = true ∧
    m.lastFrame = some (m.handler.sendSequenceNumber, command) ∧
    t.retransmissionsLeft + m.timeouts = m.retries

theorem agrees_new (clientInfo : SdoClientInfo) : (new clientInfo).Agrees := by
  intro t ht
  cases ht

theorem agrees_of_not_upload {m : Monitor} (hs : ∀ t, m.handler.state ≠ .segmentedUpload t) :
    m.Agrees :=
  fun t ht => absurd ht (hs t)

theorem isSegment_uploadSegment (t : SdoTransferState) :
    isSegment t.uploadSegment = !t.isLastSegment := by
  unfold isSegment SdoTransferState.uploadSegment
  cases t.isLastSegment with
  | true => rfl
  | false => by_cases hoff : t.offset = 0 <;> simp [hoff]

section steps

variable {m : Monitor} {payload : List UInt8} {od : ObjectDictionary σ} {currentTimeUs : ℕ}
  {ch : η}

/-- A new segment is recorded with the retry count of the dictionary. -/
theorem agrees_of_sent {t : SdoTransferState} {r : SdoResponseData}
    (hlast : t.isLastSegment = false)
    (hstate : (m.handler.handleRequest payload od currentTimeUs ch).handler.state =
      .segmentedUpload (t.advanced od currentTimeUs))
    (hresult : (m.handler.handleRequest payload od currentTimeUs ch).result = .ok r)
    (hcommand : r.command = t.uploadSegment)
    (hnumber : r.seqHeader.sendSequenceNumber =
      (m.handler.handleRequest payload od currentTimeUs ch).handler.sendSequenceNumber)
    (hmoved : (m.handler.handleRequest payload od currentTimeUs ch).handler.state.transfer ≠
      m.handler.state.transfer) :
    (m.step (.request payload od currentTimeUs ch)).Agrees := by
  have hframe : requestFrame (m.handler.handleRequest payload od currentTimeUs ch).handler
      (m.handler.handleRequest payload od currentTimeUs ch).result =
      some (r.seqHeader.sendSequenceNumber, t.uploadSegment) := by
    simp only [requestFrame, hresult, segmentFrame, hstate, SdoServerState.isUpload, hcommand,
      isSegment_uploadSegment, hlast]
    rfl
  simp only [step, hframe, if_neg hmoved]
  intro t' ht'
  simp only [hstate] at ht'
  cases ht'
  exact ⟨t.uploadSegment, rfl, by rw [isSegment_uploadSegment, hlast]; rfl, by rw [hnumber], rfl⟩

/-- A request that leaves the connection alone, and returns at most the stored segment. -/
theorem agrees_of_unchanged (hagrees : m.Agrees)
    (hhandler : (m.handler.handleRequest payload od currentTimeUs ch).handler = m.handler)
    (hframe : ∀ t command frame, m.handler.state = .segmentedUpload t →
      t.lastSentSegment = some command →
      requestFrame m.handler (m.handler.handleRequest payload od currentTimeUs ch).result =
        some frame → frame = (m.handler.sendSequenceNumber, command)) :
    (m.step (.request payload od currentTimeUs ch)).Agrees := by
  intro t ht
  rw [step_handler, SdoSequenceHandler.step, hhandler] at ht ⊢
  obtain ⟨command, hstored, hsegment, hlast, hcount⟩ := hagrees t ht
  refine ⟨command, hstored, hsegment, ?_⟩
  simp only [step, hhandler, if_true]
  split
  · exact ⟨hlast, hcount⟩
  · rename_i frame hsome
    rw [hframe t command frame ht hstored hsome]
    exact ⟨rfl, hcount⟩

/-- The event does not move the sequence numbers of an upload without a segment. -/
def NoStall (m : Monitor) : HandlerEvent σ η → Prop
  | .request payload _ _ _ => ∀ request, m.handler.state.isUpload = true →
      SequenceLayerHeader.deserialize (payload.take 4) = .ok request →
      ¬ IsStall m.handler request (payload.drop 4)
  | .tick _ _ => True

theorem agrees_request (hagrees : m.Agrees)
    (hstall : m.NoStall (.request payload od currentTimeUs ch)) :
    (m.step (.request payload od currentTimeUs ch)).Agrees := by
  rcases handleRequest_decode m.handler payload od currentTimeUs ch with
    ⟨-, hshort⟩ | ⟨request, hdec⟩
  · exact agrees_of_unchanged hagrees (by rw [hshort]) (by simp [hshort, requestFrame])
  · by_cases hup : ∃ t, m.handler.state = .segmentedUpload t
    · obtain ⟨t, hs⟩ := hup
      have hisUp := (SdoServerState.isUpload_iff _).mpr ⟨t, hs⟩
      cases upload_request_cases hs hdec od currentTimeUs ch with
      | resent command _ hlast hresult hhandler =>
          refine agrees_of_unchanged hagrees hhandler (fun t' command' frame hs' hlast' hf => ?_)
          rw [hs] at hs'
          cases hs'
          rw [hlast] at hlast'
          cases hlast'
          simp only [hresult, requestFrame, segmentFrame, responseData] at hf
          split_ifs at hf
          exact (Option.some.inj hf).symm
      | nothingStored _ hlast =>
          obtain ⟨command, hstored, -⟩ := hagrees t hs
          rw [hlast] at hstored
          cases hstored
      | rejected _ _ hresult hhandler =>
          refine agrees_of_unchanged hagrees hhandler (fun t' command' frame _ _ hf => ?_)
          cases hres : (m.handler.handleRequest payload od currentTimeUs ch).result with
          | ok r => exact absurd hres (hresult r)
          | error e =>
              rw [hres] at hf
              cases hf
      | stalled hst => exact absurd hst (hstall request hisUp hdec)
      | sent h' r _ _ _ hresult hcommand hnumber hhandler =>
          have hmoved := segment_transfer_ne (h := m.handler) (.inl hs) od currentTimeUs
          cases hlast : t.isLastSegment with
          | true =>
              refine agrees_of_not_upload (fun t' ht' => ?_)
              rw [step_handler, SdoSequenceHandler.step, hhandler, hlast] at ht'
              cases ht'
          | false =>
              rw [hlast] at hmoved hhandler
              exact agrees_of_sent hlast (by rw [hhandler]; rfl) hresult hcommand
                (by rw [hhandler, hnumber]) (by rw [hhandler]; exact hmoved)
      | ended r _ _ _ _ hhandler =>
          refine agrees_of_not_upload (fun t' ht' => ?_)
          rw [step_handler, SdoSequenceHandler.step, hhandler] at ht'
          cases ht'
    · have hs := not_exists.mp hup
      rcases request_cases hs payload od currentTimeUs ch with
        hkeep | ⟨t, r, hfresh, hstate, hresult, hcommand, hnumber⟩
      · refine agrees_of_not_upload (fun t ht => ?_)
        rw [step_handler, SdoSequenceHandler.step] at ht
        exact hkeep.1 t ht
      · have hmoved := segment_transfer_ne (h := m.handler) (.inr ⟨hs, hfresh⟩) od currentTimeUs
        rw [hfresh.isLastSegment] at hmoved
        exact agrees_of_sent hfresh.isLastSegment hstate hresult hcommand hnumber
          (by rw [hstate]; exact hmoved)

omit [ObjectDictionaryStorage σ] [SdoCommandHandler σ η] in
theorem timedOut_iff {h : SdoSequenceHandler} :
    timedOut h currentTimeUs = true ↔
      ∃ deadline, h.state.deadlineUs = some deadline ∧ deadline ≤ currentTimeUs := by
  unfold timedOut
  cases h.state.deadlineUs <;> simp

theorem agrees_tick (hagrees : m.Agrees) :
    (m.step (.tick od currentTimeUs : HandlerEvent σ η)).Agrees := by
  have hstep := tick_cases m.handler od currentTimeUs
  simp only [step]
  generalize m.handler.tick currentTimeUs od = out at hstep ⊢
  cases hstep with
  | quiet hquiet =>
      have hfalse : timedOut m.handler currentTimeUs = false := by
        rw [Bool.eq_false_iff, Ne, timedOut_iff]
        rintro ⟨deadline, hd, hle⟩
        exact absurd (hquiet deadline hd) (by omega)
      simp only [hfalse]
      exact hagrees
  | resent t deadline command hs hd hdue hleft hlast =>
      have htrue : timedOut m.handler currentTimeUs = true :=
        timedOut_iff.mpr ⟨deadline, by rw [hs]; exact hd, hdue⟩
      obtain ⟨command', hstored, hsegment, hframe, hcount⟩ := hagrees t hs
      rw [hlast] at hstored
      cases hstored
      intro t' ht'
      cases ht'
      refine ⟨command, hlast, hsegment, ?_, ?_⟩
      · rw [hframe]
        exact segmentFrame_or _ _
      · simp only [htrue, if_true, rearmed]
        omega
  | missing t hs _ hlast =>
      obtain ⟨command, hstored, -⟩ := hagrees t hs
      rw [hlast] at hstored
      cases hstored
  | expired =>
      intro t' ht'
      cases ht'

/-- Every step without a stall keeps the monitor in agreement with the connection. -/
theorem agrees_step (hagrees : m.Agrees) (e : HandlerEvent σ η) (hstall : m.NoStall e) :
    (m.step e).Agrees := by
  cases e with
  | request payload od currentTimeUs ch => exact agrees_request hagrees hstall
  | tick od currentTimeUs => exact agrees_tick hagrees

end steps

/-! ### Retransmissions -/

/-- The transfer and both sequence numbers are unchanged. -/
def SameProgress (h h' : SdoSequenceHandler) : Prop :=
  h'.state.transfer = h.state.transfer ∧ h'.sendSequenceNumber = h.sendSequenceNumber ∧
    h'.lastReceivedSequenceNumber = h.lastReceivedSequenceNumber

/-- The response repeats the segment frame that was returned last. -/
def Repeats (m : Monitor) (r : SdoResponseData) : Prop :=
  m.lastFrame = some (r.seqHeader.sendSequenceNumber, r.command)

/-- During an upload, a request for retransmission is answered by the last segment frame; a
timeout with retransmissions left repeats it too, and the timeout after the configured number of
them aborts the transfer. -/
def Faithful (m : Monitor) : HandlerEvent σ η → Prop
  | .request payload od currentTimeUs ch => ∀ t request,
      m.handler.state = .segmentedUpload t →
      SequenceLayerHeader.deserialize (payload.take 4) = .ok request →
      request.receiveCon = .errorResponse →
      ∃ r, (m.handler.handleRequest payload od currentTimeUs ch).result = .ok r ∧ m.Repeats r ∧
        SameProgress m.handler (m.handler.handleRequest payload od currentTimeUs ch).handler
  | .tick od currentTimeUs => ∀ t deadline, m.handler.state = .segmentedUpload t →
      t.deadlineUs = some deadline → deadline ≤ currentTimeUs →
      (0 < t.retransmissionsLeft → ∃ r,
        (m.handler.tick currentTimeUs od).1 = .ok (some r) ∧ m.Repeats r ∧
        SameProgress m.handler (m.handler.tick currentTimeUs od).2) ∧
      (m.timeouts = m.retries → ∃ r,
        (m.handler.tick currentTimeUs od).1 = .ok (some r) ∧
        r.command = .abortResponse t.transactionId 0x05040000 ∧
        (m.handler.tick currentTimeUs od).2.state = .closed)

section retransmissions

variable {m : Monitor} {payload : List UInt8} {od : ObjectDictionary σ} {currentTimeUs : ℕ}
  {ch : η}

theorem request_faithful (hagrees : m.Agrees) :
    m.Faithful (.request payload od currentTimeUs ch) := by
  intro t request hs hdec hr
  obtain ⟨command, hstored, -, hframe, -⟩ := hagrees t hs
  rw [handleRequest_errorResponse hdec hr, handleErrorResponse_resend hs hstored]
  exact ⟨_, rfl, hframe, rfl, rfl, rfl⟩

theorem tick_faithful (hagrees : m.Agrees) :
    m.Faithful (.tick od currentTimeUs : HandlerEvent σ η) := by
  intro t deadline hs hd hdue
  obtain ⟨command, hstored, -, hframe, hcount⟩ := hagrees t hs
  have hstep := tick_cases m.handler od currentTimeUs
  generalize m.handler.tick currentTimeUs od = out at hstep ⊢
  cases hstep with
  | quiet hquiet => exact absurd (hquiet deadline (by rw [hs]; exact hd)) (by omega)
  | resent t' _ command' hs' _ _ hleft hlast =>
      rw [hs] at hs'
      cases hs'
      rw [hstored] at hlast
      cases hlast
      refine ⟨fun _ => ⟨_, rfl, hframe, ?_, rfl, rfl⟩, fun hall => by omega⟩
      rw [hs]
      rfl
  | missing t' hs' _ hlast =>
      rw [hs] at hs'
      cases hs'
      rw [hstored] at hlast
      cases hlast
  | expired t' _ hs' =>
      rcases hs' with ⟨hs', hzero⟩ | hs'
      · rw [hs] at hs'
        cases hs'
        exact ⟨fun hleft => by omega, fun _ => ⟨_, rfl, rfl, rfl⟩⟩
      · rw [hs] at hs'
        cases hs'

/-- A faithful retransmission has the sequence number of the last segment frame. -/
theorem Faithful.sendSequenceNumber
    (hfaithful : m.Faithful (.request payload od currentTimeUs ch))
    (hup : m.handler.state.isUpload = true) {request : SequenceLayerHeader}
    (hdec : SequenceLayerHeader.deserialize (payload.take 4) = .ok request)
    (hr : request.receiveCon = .errorResponse) :
    (m.handler.handleRequest payload od currentTimeUs ch).result.toOption.map
      (fun r => r.seqHeader.sendSequenceNumber) = m.lastFrame.map Prod.fst := by
  obtain ⟨t, hs⟩ := (SdoServerState.isUpload_iff _).mp hup
  obtain ⟨r, hresult, hrepeats, -⟩ := hfaithful t request hs hdec hr
  rw [hresult, hrepeats]
  rfl

theorem agrees_always {events : List (HandlerEvent σ η)} (clientInfo : SdoClientInfo)
    (hstall : Runs.AllSteps step NoStall (new clientInfo) events) :
    Runs.Always step Agrees (new clientInfo) events :=
  Runs.always_of_allSteps (fun _ e hagrees hst => agrees_step hagrees e hst)
    (agrees_new clientInfo) hstall

/-- Every retransmission of a run without stalls is faithful. -/
theorem retransmission_faithful {events : List (HandlerEvent σ η)} (clientInfo : SdoClientInfo)
    (hstall : Runs.AllSteps step NoStall (new clientInfo) events) :
    Runs.AllSteps step Faithful (new clientInfo) events := by
  refine Runs.AllSteps.imp (fun m e hagrees _ => ?_) (agrees_always clientInfo hstall) hstall
  cases e with
  | request payload od currentTimeUs ch => exact request_faithful hagrees
  | tick od currentTimeUs => exact tick_faithful hagrees

end retransmissions

/-- A timeout and a request for retransmission after the first segment of an upload. -/
theorem first_segment_faithful :
    Runs.AllSteps step Faithful (new udpClient) (openUpload ++
      [.tick uploadDictionary 15000000, emptyFrame ⟨1, .errorResponse, 2, .connectionValid⟩]) := by
  refine retransmission_faithful udpClient ⟨?_, ?_, trivial, ?_, trivial⟩
  · intro request hup
    cases hup
  · intro request _ _ hstall
    exact absurd hstall.2.2.1 (by decide)
  · intro request _ hdec hstall
    cases hdec
    exact hstall.1 rfl

/-- A frame without command that acknowledges another segment makes the upload repeat its
segment under a new sequence number. -/
theorem stalled_upload_not_faithful :
    ¬ Runs.AllSteps step Faithful (new udpClient) (openUpload ++
      [emptyFrame ⟨0, .connectionValid, 2, .connectionValidAckRequest⟩,
        emptyFrame ⟨1, .errorResponse, 3, .connectionValid⟩]) := by
  rintro ⟨-, -, -, hfaithful, -⟩
  exact absurd (hfaithful.sendSequenceNumber (by decide +kernel) rfl rfl) (by decide +kernel)

/-! ### Acknowledgements -/

/-- The upload goes past the segment that was sent last: its offset grows, or its last segment
is sent. -/
def Advances (h : SdoSequenceHandler) (out : Handled σ η) : Prop :=
  ∃ t, h.state = .segmentedUpload t ∧
    ((∃ t', out.handler.state = .segmentedUpload t' ∧ t.offset < t'.offset) ∨
      ∃ r, out.result = .ok r ∧ r.command.header.segmentation = .complete)

omit [ObjectDictionaryStorage σ] [SdoCommandHandler σ η] in
theorem advances_of_offset {h : SdoSequenceHandler} {out : Handled σ η}
    (hup : h.state.isUpload = true) (hup' : out.handler.state.isUpload = true)
    (hlt : h.state.offset < out.handler.state.offset) : Advances h out := by
  obtain ⟨t, hs⟩ := (SdoServerState.isUpload_iff _).mp hup
  obtain ⟨t', hs'⟩ := (SdoServerState.isUpload_iff _).mp hup'
  rw [hs, hs'] at hlt
  exact ⟨t, hs, .inl ⟨t', hs', hlt⟩⟩

/-- The upload advances only on a request that is next in order and acknowledges the segment
frame returned last. -/
def NothingSkipped (m : Monitor) : HandlerEvent σ η → Prop
  | .request payload od currentTimeUs ch =>
      Advances m.handler (m.handler.handleRequest payload od currentTimeUs ch) →
      ∃ request frame, SequenceLayerHeader.deserialize (payload.take 4) = .ok request ∧
        m.lastFrame = some frame ∧
        request.sendSequenceNumber = nextSequence m.handler.lastReceivedSequenceNumber ∧
        request.receiveSequenceNumber = frame.1
  | .tick od currentTimeUs => ∀ t t', m.handler.state = .segmentedUpload t →
      (m.handler.tick currentTimeUs od).2.state = .segmentedUpload t' → t'.offset = t.offset

/-- During an upload, no frame stalls, and a frame that looks like an acknowledgement is neither
a duplicate nor, if it is next in order, acknowledges anything but the last segment. -/
def ProperAcknowledgement (m : Monitor) : HandlerEvent σ η → Prop
  | .request payload _ _ _ => ∀ t request, m.handler.state = .segmentedUpload t →
      SequenceLayerHeader.deserialize (payload.take 4) = .ok request →
      ¬ IsStall m.handler request (payload.drop 4) ∧
      (request.receiveCon ≠ .errorResponse → IsAcknowledgement t request (payload.drop 4) →
        request.sendSequenceNumber ≠ m.handler.lastReceivedSequenceNumber ∧
        (request.sendSequenceNumber = nextSequence m.handler.lastReceivedSequenceNumber →
          request.receiveSequenceNumber = m.handler.sendSequenceNumber))
  | .tick _ _ => True

omit [ObjectDictionaryStorage σ] [SdoCommandHandler σ η] in
theorem ProperAcknowledgement.noStall {m : Monitor} {e : HandlerEvent σ η}
    (h : m.ProperAcknowledgement e) : m.NoStall e := by
  cases e with
  | tick od currentTimeUs => trivial
  | request payload od currentTimeUs ch =>
      intro request hup hdec
      obtain ⟨t, hs⟩ := (SdoServerState.isUpload_iff _).mp hup
      exact (h t request hs hdec).1

theorem isSegment_ne_complete {command : SdoCommand} (h : isSegment command = true) :
    command.header.segmentation ≠ .complete := by
  intro hc
  simp [isSegment, hc] at h

section acknowledgements

variable {m : Monitor} {payload : List UInt8} {od : ObjectDictionary σ} {currentTimeUs : ℕ}
  {ch : η}

omit [ObjectDictionaryStorage σ] [SdoCommandHandler σ η] in
/-- A result that leaves the connection alone and ends no upload does not advance it. -/
theorem not_advances {h : SdoSequenceHandler} {out : Handled σ η} (hhandler : out.handler = h)
    (hresult : ∀ r, out.result = .ok r → r.command.header.segmentation ≠ .complete) :
    ¬ Advances h out := by
  rintro ⟨t, hs, ⟨t', hs', hlt⟩ | ⟨r, hr, hcomplete⟩⟩
  · rw [hhandler, hs] at hs'
    cases hs'
    omega
  · exact hresult r hr hcomplete

theorem request_nothingSkipped (hagrees : m.Agrees)
    (hproper : m.ProperAcknowledgement (.request payload od currentTimeUs ch)) :
    m.NothingSkipped (.request payload od currentTimeUs ch) := by
  intro hadv
  obtain ⟨t, hs, -⟩ := id hadv
  obtain ⟨command, hstored, hsegment, hframe, -⟩ := hagrees t hs
  rcases handleRequest_decode m.handler payload od currentTimeUs ch with
    ⟨-, hshort⟩ | ⟨request, hdec⟩
  · exact absurd hadv (not_advances (by rw [hshort]) (by simp [hshort]))
  · obtain ⟨hstall, hack⟩ := hproper t request hs hdec
    cases upload_request_cases hs hdec od currentTimeUs ch with
    | resent command' _ hlast hresult hhandler =>
        rw [hstored] at hlast
        cases hlast
        refine absurd hadv (not_advances hhandler (fun r hr => ?_))
        rw [hresult] at hr
        cases hr
        exact isSegment_ne_complete hsegment
    | nothingStored _ hlast =>
        rw [hstored] at hlast
        cases hlast
    | rejected _ _ hresult hhandler =>
        exact absurd hadv (not_advances hhandler (fun r hr => absurd hr (hresult r)))
    | stalled hst => exact absurd hst hstall
    | sent h' r hr hisAck horder =>
        obtain ⟨hnew, hnumber⟩ := hack hr hisAck
        rcases horder with ⟨hdup, -⟩ | ⟨hnext, -⟩
        · exact absurd hdup hnew
        · exact ⟨request, _, hdec, hframe, hnext, hnumber hnext⟩
    | ended r _ _ hresult hcommand hhandler =>
        rcases hadv with ⟨_, -, ⟨t', hs', -⟩ | ⟨r', hr', hcomplete⟩⟩
        · rw [hhandler] at hs'
          cases hs'
        · rw [hresult] at hr'
          cases hr'
          rw [hcommand] at hcomplete
          cases hcomplete

theorem tick_nothingSkipped (m : Monitor) :
    m.NothingSkipped (.tick od currentTimeUs : HandlerEvent σ η) := by
  intro t t' hs hs'
  have hstep := tick_cases m.handler od currentTimeUs
  generalize m.handler.tick currentTimeUs od = out at hstep hs'
  cases hstep with
  | quiet =>
      rw [hs] at hs'
      cases hs'
      rfl
  | resent t'' _ _ hs'' =>
      rw [hs] at hs''
      cases hs''
      cases hs'
      rfl
  | missing t'' hs'' =>
      rw [hs] at hs''
      cases hs''
      cases hs'
      rfl
  | expired => cases hs'

/-- No segment is skipped in a run in which every acknowledgement is proper. -/
theorem no_segment_skipped {events : List (HandlerEvent σ η)} (clientInfo : SdoClientInfo)
    (hproper : Runs.AllSteps step ProperAcknowledgement (new clientInfo) events) :
    Runs.AllSteps step NothingSkipped (new clientInfo) events := by
  have hagrees : Runs.Always step Agrees (new clientInfo) events :=
    Runs.always_of_allSteps (fun _ e hagrees hp => agrees_step hagrees e hp.noStall)
      (agrees_new clientInfo) hproper
  refine Runs.AllSteps.imp (fun m e hagrees hp => ?_) hagrees hproper
  cases e with
  | request payload od currentTimeUs ch => exact request_nothingSkipped hagrees hp
  | tick od currentTimeUs => exact tick_nothingSkipped m

end acknowledgements

/-- The second segment follows the acknowledgement of the first. -/
theorem acknowledged_segment_not_skipped :
    Runs.AllSteps step NothingSkipped (new udpClient) (openUpload ++
      [emptyFrame ⟨1, .connectionValid, 2, .connectionValid⟩]) := by
  refine no_segment_skipped udpClient ⟨?_, ?_, ?_, trivial⟩
  · intro t request hs
    cases hs
  · intro t request hs
    exact absurd ((SdoServerState.isUpload_iff _).mpr ⟨t, hs⟩) (by decide +kernel)
  · intro t request _ hdec
    cases hdec
    refine ⟨fun hstall => hstall.2.2.2 rfl, fun _ _ => ⟨by decide +kernel, fun _ => by decide +kernel⟩⟩

/-- A duplicate of the frame that asked for the upload is taken for an acknowledgement of its
first segment. -/
theorem duplicate_skips_segment :
    ¬ Runs.AllSteps step NothingSkipped (new udpClient) (openUpload ++
      [emptyFrame ⟨0, .connectionValid, 1, .connectionValid⟩]) := by
  rintro ⟨-, -, hskip, -⟩
  obtain ⟨request, frame, hdec, -, hnext, -⟩ :=
    hskip (advances_of_offset (by decide +kernel) (by decide +kernel) (by decide +kernel))
  cases hdec
  exact absurd hnext (by decide +kernel)

end Monitor

end Powerlink
