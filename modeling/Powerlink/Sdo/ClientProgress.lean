import Powerlink.Sdo.ClientConnection
import Powerlink.Lib.Runs

/-! # Progress of a client connection

A client connection that is neither idle nor closed either has a deadline, at which `tick` retries
or gives up, or it has a frame to send.  `CanProgress` states this of a connection, and
`progress_iff` says in which runs it holds of every connection reached.

`handle_response` clears the deadline and the stored frame before it looks at the response.  What
follows has to restore one of the two, and in two cases it does not: a repeated response is
dropped while the connection waits in `UploadInit`, where nothing is ever sent, and a connection is
established for a job without a command. -/

namespace Powerlink

open LittleEndian

namespace SdoClientConnection

variable {σ : Type}

/-- A call of the methods that the manager of the connections uses. -/
inductive Call (σ : Type) where
  | startReadJob (index : UInt16) (subIndex tid : UInt8) (currentTimeUs : ℕ)
      (od : ObjectDictionary σ)
  | startWriteJob (index : UInt16) (subIndex : UInt8) (data : List UInt8) (tid : UInt8)
      (currentTimeUs : ℕ) (od : ObjectDictionary σ)
  | startConciseDcfJob (dcfData : List UInt8) (tid : UInt8) (currentTimeUs : ℕ)
      (od : ObjectDictionary σ)
  | getPendingRequest (currentTimeUs : ℕ) (od : ObjectDictionary σ)
  | handleResponse (seqHeader : SequenceLayerHeader) (cmd : SdoCommand)
  | tick (currentTimeUs : ℕ) (od : ObjectDictionary σ)

/-- The connection after a call; `none` is a panic. -/
def call (c : SdoClientConnection) : Call σ → Option SdoClientConnection
  | .startReadJob index subIndex tid currentTimeUs od =>
      some (c.startReadJob index subIndex tid currentTimeUs od).2
  | .startWriteJob index subIndex data tid currentTimeUs od =>
      some (c.startWriteJob index subIndex data tid currentTimeUs od).2
  | .startConciseDcfJob dcfData tid currentTimeUs od =>
      some (c.startConciseDcfJob dcfData tid currentTimeUs od).2
  | .getPendingRequest currentTimeUs od => some (c.getPendingRequest currentTimeUs od).2
  | .handleResponse seqHeader cmd => c.handleResponse seqHeader cmd
  | .tick currentTimeUs od => some (c.tick currentTimeUs od).2

/-- The connection is idle or closed, waits for a deadline, or has a frame to send. -/
def CanProgress (σ : Type) (c : SdoClientConnection) : Prop :=
  c.isIdle = true ∨ c.deadlineUs.isSome = true ∨
    ∀ (currentTimeUs : ℕ) (od : ObjectDictionary σ),
      (c.getPendingRequest currentTimeUs od).1.isSome = true

/-- An established connection has something to send. -/
def HasWork (c : SdoClientConnection) : Prop :=
  c.dataBuffer ≠ [] ∨ c.pendingCommand.isSome = true ∨ c.prepareNextJobCommand.1 = true

/-- The response acknowledges the frame that was sent last. -/
def Acknowledges (c : SdoClientConnection) (seqHeader : SequenceLayerHeader) : Prop :=
  ∃ frame, c.lastSentCommand = some frame ∧
    seqHeader.receiveSequenceNumber = frame.1.sendSequenceNumber

/-- The response repeats the number of the last one while the answer to a read is awaited. -/
def DropsReadAnswer (c : SdoClientConnection) (seqHeader : SequenceLayerHeader) : Prop :=
  c.state = .uploadInit ∧ seqHeader.sendSequenceNumber = c.lastReceivedSequenceNumber

/-- The response establishes a connection that has nothing to send. -/
def EstablishesIdly (c : SdoClientConnection) (seqHeader : SequenceLayerHeader)
    (cmd : SdoCommand) : Prop :=
  c.state = .opening ∧
    seqHeader.sendSequenceNumber = nextSequence c.lastReceivedSequenceNumber ∧
      cmd.header.isAborted = false ∧
        (seqHeader.receiveCon = .initialization ∧ seqHeader.sendCon = .initialization) ∧
          ¬c.HasWork

/-- The call leaves the connection with a deadline or with a frame to send. -/
def KeepsGoing (c : SdoClientConnection) : Call σ → Prop
  | .handleResponse seqHeader cmd => c.Acknowledges seqHeader →
      ¬c.DropsReadAnswer seqHeader ∧ ¬c.EstablishesIdly seqHeader cmd
  | _ => True

/-! ### The stored frame -/

/-- A stored frame has a deadline, and it belongs to a state that waits for an answer. -/
structure Consistent (c : SdoClientConnection) : Prop where
  armed : c.lastSentCommand.isSome = true → c.deadlineUs.isSome = true
  waits : c.lastSentCommand.isSome = true → c.isIdle = false ∧ c.state ≠ .established

/-- Without a deadline the connection waits for an event that never comes. -/
def Stalls (c : SdoClientConnection) : Prop :=
  c.state = .uploadInit ∨ c.state = .established ∧ ¬c.HasWork

theorem isSome_sendRequest (c : SdoClientConnection) (seq : SequenceLayerHeader) (cmd : SdoCommand)
    (currentTimeUs : ℕ) (od : ObjectDictionary σ) :
    (c.sendRequest seq cmd currentTimeUs od).1.isSome = true := rfl

/-- When `get_pending_request` has a frame to send. -/
theorem isSome_getPendingRequest {c : SdoClientConnection} (hsent : c.lastSentCommand = none)
    (currentTimeUs : ℕ) (od : ObjectDictionary σ) :
    (c.getPendingRequest currentTimeUs od).1.isSome = true ↔ c.isIdle = false ∧ ¬c.Stalls := by
  unfold getPendingRequest isIdle Stalls
  rw [hsent]
  simp only [Option.isSome_none, Bool.false_eq_true, if_false]
  cases hs : c.state with
  | idle => simp
  | closed => simp
  | uploadInit => simp
  | opening => simp [isSome_sendRequest]
  | uploadInProgress => simp [isSome_sendRequest]
  | downloadInProgress => simp [isSome_sendRequest]
  | established =>
      have hidle : c.isIdle = false := by
        unfold isIdle
        rw [hs]
        rfl
      by_cases hbuffer : c.dataBuffer = []
      · cases hpending : c.pendingCommand with
        | some cmd => simp [HasWork, hbuffer, hpending, isSome_sendRequest]
        | none =>
            rcases hjob : c.prepareNextJobCommand with ⟨loaded, c'⟩
            cases loaded with
            | true => simp [HasWork, hbuffer, hpending, hjob, startDownload, isSome_sendRequest]
            | false => simp [HasWork, hbuffer, hpending, hjob]
      · simp [HasWork, hbuffer, startDownload, isSome_sendRequest]

/-- A connection that stalls is busy. -/
theorem Stalls.isIdle {c : SdoClientConnection} (h : c.Stalls) : c.isIdle = false := by
  unfold SdoClientConnection.isIdle
  rcases h with hs | ⟨hs, -⟩
  · rw [hs]
    rfl
  · rw [hs]
    rfl

/-- The connections that cannot go on. -/
theorem canProgress_iff {c : SdoClientConnection} (hc : c.Consistent) :
    CanProgress σ c ↔ ¬(c.deadlineUs = none ∧ c.Stalls) := by
  constructor
  · rintro hprogress ⟨hdeadline, hstalls⟩
    have hsent : c.lastSentCommand = none := by
      rw [← Option.not_isSome_iff_eq_none]
      intro hsome
      have harmed := hc.armed hsome
      rw [hdeadline] at harmed
      cases harmed
    rcases hprogress with hidle | hsome | hrequest
    · rw [hstalls.isIdle] at hidle
      cases hidle
    · rw [hdeadline] at hsome
      cases hsome
    · exact ((isSome_getPendingRequest hsent 0 (.new none)).mp (hrequest 0 (.new none))).2 hstalls
  · intro hno
    cases hdeadline : c.deadlineUs with
    | some deadline => exact .inr (.inl (by rw [hdeadline]; rfl))
    | none =>
        have hsent : c.lastSentCommand = none := by
          rw [← Option.not_isSome_iff_eq_none]
          intro hsome
          have harmed := hc.armed hsome
          rw [hdeadline] at harmed
          cases harmed
        cases hidle : c.isIdle with
        | true => exact .inl hidle
        | false =>
            refine .inr (.inr fun currentTimeUs od => ?_)
            exact (isSome_getPendingRequest hsent currentTimeUs od).mpr
              ⟨hidle, fun hstalls => hno ⟨hdeadline, hstalls⟩⟩

/-! ### What a call leaves behind -/

/-- The deadline is armed. -/
def Armed (c : SdoClientConnection) : Prop :=
  c.deadlineUs.isSome = true ∧ (c.lastSentCommand.isSome = true →
    c.isIdle = false ∧ c.state ≠ .established)

theorem Armed.consistent {c : SdoClientConnection} (h : c.Armed) : c.Consistent :=
  ⟨fun _ => h.1, h.2⟩

/-- Nothing was sent, or it was answered. -/
theorem consistent_of_none {c : SdoClientConnection} (h : c.lastSentCommand = none) :
    c.Consistent := by
  have hno : c.lastSentCommand.isSome = true → False := by
    intro hsome
    rw [h] at hsome
    cases hsome
  exact ⟨fun hsome => (hno hsome).elim, fun hsome => (hno hsome).elim⟩

/-- An idle connection has no stored frame. -/
theorem Consistent.lastSentCommand {c : SdoClientConnection} (hc : c.Consistent)
    (hidle : c.isIdle = true) : c.lastSentCommand = none := by
  rw [← Option.not_isSome_iff_eq_none]
  intro hsome
  have hbusy := (hc.waits hsome).1
  rw [hidle] at hbusy
  cases hbusy

/-- Sending a frame arms the deadline. -/
theorem armed_sendRequest {c : SdoClientConnection} (hidle : c.isIdle = false)
    (hstate : c.state ≠ .established) (seq : SequenceLayerHeader) (cmd : SdoCommand)
    (currentTimeUs : ℕ) (od : ObjectDictionary σ) :
    (c.sendRequest seq cmd currentTimeUs od).2.Armed :=
  ⟨rfl, fun _ => ⟨hidle, hstate⟩⟩

theorem armed_startDownload (c : SdoClientConnection) (currentTimeUs : ℕ)
    (od : ObjectDictionary σ) : (c.startDownload currentTimeUs od).2.Armed :=
  armed_sendRequest rfl (by simp) _ _ currentTimeUs od

/-- `get_pending_request` sends a frame, has none to send, or closes a connection without work. -/
theorem getPendingRequest_cases (c : SdoClientConnection) (currentTimeUs : ℕ)
    (od : ObjectDictionary σ) :
    (c.getPendingRequest currentTimeUs od).2 = c ∨
      (c.getPendingRequest currentTimeUs od).2.Armed ∨
      (c.getPendingRequest currentTimeUs od).2.lastSentCommand = none ∧
        (c.getPendingRequest currentTimeUs od).2.state = .closed := by
  unfold getPendingRequest
  cases hsent : c.lastSentCommand with
  | some frame => exact .inl rfl
  | none =>
      simp only [Option.isSome_none, Bool.false_eq_true, if_false]
      cases hs : c.state with
      | idle => exact .inl rfl
      | closed => exact .inl rfl
      | uploadInit => exact .inl rfl
      | opening =>
          refine .inr (.inl (armed_sendRequest ?_ ?_ _ _ currentTimeUs od))
          · rw [isIdle, hs]
            rfl
          · rw [hs]
            exact nofun
      | uploadInProgress =>
          refine .inr (.inl (armed_sendRequest ?_ ?_ _ _ currentTimeUs od))
          · rw [isIdle, hs]
            rfl
          · rw [hs]
            exact nofun
      | downloadInProgress =>
          have hstate : c.getNextDownloadSegment.2.2.state = .downloadInProgress := hs
          refine .inr (.inl (armed_sendRequest ?_ ?_ _ _ currentTimeUs od))
          · rw [isIdle, hstate]
            rfl
          · rw [hstate]
            exact nofun
      | established =>
          dsimp only
          split_ifs
          · exact .inr (.inl (armed_startDownload c currentTimeUs od))
          · cases hpending : c.pendingCommand with
            | some cmd => exact .inr (.inl (armed_sendRequest rfl (by simp) _ _ currentTimeUs od))
            | none =>
                have hkeeps := prepareNextJobCommand_lastSentCommand c
                rcases hjob : c.prepareNextJobCommand with ⟨loaded, c'⟩
                rw [hjob, hsent] at hkeeps
                cases loaded with
                | true => exact .inr (.inl (armed_startDownload c' currentTimeUs od))
                | false => exact .inr (.inr ⟨hkeeps, rfl⟩)

/-- A call other than `handle_response` changes nothing, arms the deadline, or closes the
connection. -/
theorem call_cases {c c' : SdoClientConnection} (hc : c.Consistent) {e : Call σ}
    (he : ∀ seqHeader cmd, e ≠ .handleResponse seqHeader cmd) (h : c.call e = some c') :
    c' = c ∨ c'.Armed ∨ c'.lastSentCommand = none ∧ c'.state = .closed := by
  cases e with
  | startReadJob index subIndex tid currentTimeUs od =>
      obtain rfl := Option.some.inj h
      unfold startReadJob
      cases hidle : c.isIdle with
      | false => exact .inl rfl
      | true =>
          refine .inr (.inl ⟨rfl, fun hsome => ?_⟩)
          exact absurd (hc.lastSentCommand hidle) (Option.isSome_iff_ne_none.mp hsome)
  | startWriteJob index subIndex data tid currentTimeUs od =>
      obtain rfl := Option.some.inj h
      unfold startWriteJob
      cases hidle : c.isIdle with
      | false => exact .inl rfl
      | true =>
          refine .inr (.inl ⟨rfl, fun hsome => ?_⟩)
          exact absurd (hc.lastSentCommand hidle) (Option.isSome_iff_ne_none.mp hsome)
  | startConciseDcfJob dcfData tid currentTimeUs od =>
      obtain rfl := Option.some.inj h
      unfold startConciseDcfJob
      cases hidle : c.isIdle with
      | false => exact .inl rfl
      | true =>
          simp only [Bool.not_true, Bool.false_eq_true, if_false]
          split_ifs
          · exact .inl rfl
          · refine .inr (.inl ⟨rfl, fun hsome => ?_⟩)
            have hnone := hc.lastSentCommand hidle
            simp only [prepareNextJobCommand_lastSentCommand, hnone] at hsome
            cases hsome
  | getPendingRequest currentTimeUs od =>
      obtain rfl := Option.some.inj h
      exact c.getPendingRequest_cases currentTimeUs od
  | handleResponse seqHeader cmd => exact absurd rfl (he seqHeader cmd)
  | tick currentTimeUs od =>
      obtain rfl := Option.some.inj h
      unfold tick
      cases hdeadline : c.deadlineUs with
      | none => exact .inl rfl
      | some deadline =>
          dsimp only
          split_ifs
          · exact .inl rfl
          · exact .inr (.inl ⟨rfl, hc.waits⟩)
          · exact .inr (.inr ⟨rfl, rfl⟩)

/-! ### Responses -/

/-- Whether a job has a command depends on the job only. -/
theorem prepareNextJobCommand_congr (c c' : SdoClientConnection)
    (h : c'.currentJob = c.currentJob) :
    c'.prepareNextJobCommand.1 = c.prepareNextJobCommand.1 := by
  unfold prepareNextJobCommand
  rw [h]
  cases c.currentJob with
  | none => rfl
  | some job =>
      dsimp only
      by_cases hrem : job.entriesRemaining = 0
      · rw [if_pos hrem, if_pos hrem]
      · rw [if_neg hrem, if_neg hrem]
        split
        · rename_i i₀ i₁ subIndex s₀ s₁ s₂ s₃ rest _
          by_cases hshort : rest.length < (u32OfBytes [s₀, s₁, s₂, s₃]).toNat
          · rw [if_pos hshort, if_pos hshort]
          · rw [if_neg hshort, if_neg hshort]
        · rfl

/-- When a response leaves the connection without a next step. -/
theorem stalls_processResponse {c : SdoClientConnection} (hstate : c.state ≠ .established)
    (seqHeader : SequenceLayerHeader) (cmd : SdoCommand) :
    (c.processResponse seqHeader cmd).Stalls ↔
      c.state = .opening ∧
        (seqHeader.receiveCon = .initialization ∧ seqHeader.sendCon = .initialization) ∧
          ¬c.HasWork := by
  unfold processResponse
  cases hs : c.state with
  | opening =>
      dsimp only
      split_ifs with hinit
      · have hwork : HasWork { c with state := .established } ↔ c.HasWork := by
          unfold HasWork
          rw [prepareNextJobCommand_congr c { c with state := .established } rfl]
        simp [Stalls, hwork, hinit]
      · simp [Stalls, hinit]
  | downloadInProgress =>
      dsimp only
      split_ifs
      · rcases hjob : c.prepareNextJobCommand with ⟨loaded, c'⟩
        cases loaded with
        | true =>
            have hbuffer := prepareNextJobCommand_some hjob
            simp [Stalls, HasWork, hbuffer]
        | false => simp [Stalls]
      · simp [Stalls, hs]
  | uploadInit =>
      dsimp only
      split <;> simp [Stalls]
  | uploadInProgress =>
      dsimp only
      split <;> simp [Stalls]
  | idle => simp [Stalls]
  | closed => simp [Stalls]
  | established => exact absurd hs hstate

theorem processResponse_deadlineUs (c : SdoClientConnection) (seqHeader : SequenceLayerHeader)
    (cmd : SdoCommand) : (c.processResponse seqHeader cmd).deadlineUs = c.deadlineUs := by
  obtain ⟨_, _, _, _, _, _, h⟩ := c.processResponse_frame seqHeader cmd
  rw [h]

/-- What an accepted response leaves behind. -/
theorem handleResponse_acknowledged {c c' : SdoClientConnection} (hc : c.Consistent)
    {seqHeader : SequenceLayerHeader} {cmd : SdoCommand} (hack : c.Acknowledges seqHeader)
    (h : c.handleResponse seqHeader cmd = some c') :
    c'.lastSentCommand = none ∧ c'.deadlineUs = none ∧
      (c'.Stalls ↔ c.DropsReadAnswer seqHeader ∨ c.EstablishesIdly seqHeader cmd) := by
  obtain ⟨frame, hsent, hnumber⟩ := hack
  have hstate : c.state ≠ .established := (hc.waits (by rw [hsent]; rfl)).2
  unfold handleResponse at h
  simp only [hsent, hnumber, ne_eq, not_true_eq_false, if_false] at h
  unfold DropsReadAnswer EstablishesIdly
  by_cases hrepeated : seqHeader.sendSequenceNumber = c.lastReceivedSequenceNumber
  · rw [if_pos hrepeated] at h
    obtain rfl := Option.some.inj h
    have hnext := (nextSequence_ne c.lastReceivedSequenceNumber).symm
    simp [Stalls, hrepeated, hstate, hnext]
  · rw [if_neg hrepeated] at h
    by_cases hnext : seqHeader.sendSequenceNumber = nextSequence c.lastReceivedSequenceNumber
    · rw [if_neg (not_not.mpr hnext)] at h
      cases habort : cmd.header.isAborted with
      | true =>
          rw [habort, if_pos rfl] at h
          split_ifs at h
          obtain rfl := Option.some.inj h
          simp [Stalls, hrepeated]
      | false =>
          rw [habort, if_neg Bool.false_ne_true] at h
          obtain rfl := Option.some.inj h
          refine ⟨processResponse_lastSentCommand _ _ _, processResponse_deadlineUs _ _ _, ?_⟩
          refine (stalls_processResponse ?_ seqHeader cmd).trans ?_
          · exact hstate
          · have hwork : HasWork { c with
                lastSentCommand := none
                deadlineUs := none
                retriesLeft := 0
                lastReceivedSequenceNumber := seqHeader.sendSequenceNumber } ↔ c.HasWork := by
              unfold HasWork
              rw [prepareNextJobCommand_congr c]
              rfl
            rw [hwork]
            simp [hnext, nextSequence_ne]
    · rw [if_pos hnext] at h
      obtain rfl := Option.some.inj h
      simp [Stalls, hrepeated, hnext]

/-- A response that is not accepted has no effect. -/
theorem handleResponse_ignored {c : SdoClientConnection} {seqHeader : SequenceLayerHeader}
    (hack : ¬c.Acknowledges seqHeader) (cmd : SdoCommand) :
    c.handleResponse seqHeader cmd = some c := by
  unfold handleResponse
  cases hsent : c.lastSentCommand with
  | none => rfl
  | some frame =>
      have hnumber : seqHeader.receiveSequenceNumber ≠ frame.1.sendSequenceNumber :=
        fun h => hack ⟨frame, hsent, h⟩
      exact if_pos hnumber

/-! ### Runs -/

theorem consistent_call {c c' : SdoClientConnection} (hc : c.Consistent) {e : Call σ}
    (h : c.call e = some c') : c'.Consistent := by
  by_cases hresponse : ∃ seqHeader cmd, e = .handleResponse seqHeader cmd
  · obtain ⟨seqHeader, cmd, rfl⟩ := hresponse
    by_cases hack : c.Acknowledges seqHeader
    · exact consistent_of_none (handleResponse_acknowledged hc hack h).1
    · obtain rfl := Option.some.inj ((handleResponse_ignored hack cmd).symm.trans h)
      exact hc
  · have hother : ∀ seqHeader cmd, e ≠ .handleResponse seqHeader cmd :=
      fun seqHeader cmd he => hresponse ⟨seqHeader, cmd, he⟩
    rcases call_cases hc hother h with rfl | harmed | ⟨hnone, -⟩
    · exact hc
    · exact harmed.consistent
    · exact consistent_of_none hnone

/-- A call keeps a connection going exactly if it leaves it a deadline or a frame to send. -/
theorem canProgress_call_iff {c c' : SdoClientConnection} (hc : c.Consistent)
    (hprogress : CanProgress σ c) {e : Call σ} (h : c.call e = some c') :
    CanProgress σ c' ↔ c.KeepsGoing e := by
  by_cases hresponse : ∃ seqHeader cmd, e = .handleResponse seqHeader cmd
  · obtain ⟨seqHeader, cmd, rfl⟩ := hresponse
    by_cases hack : c.Acknowledges seqHeader
    · obtain ⟨-, hdeadline, hstalls⟩ := handleResponse_acknowledged hc hack h
      rw [canProgress_iff (consistent_call hc h), hstalls, KeepsGoing]
      simp [hdeadline, hack]
    · obtain rfl := Option.some.inj ((handleResponse_ignored hack cmd).symm.trans h)
      exact iff_of_true hprogress fun hack' => absurd hack' hack
  · have hother : ∀ seqHeader cmd, e ≠ .handleResponse seqHeader cmd :=
      fun seqHeader cmd he => hresponse ⟨seqHeader, cmd, he⟩
    have hkeeps : c.KeepsGoing e := by
      cases e with
      | handleResponse seqHeader cmd => exact absurd rfl (hother seqHeader cmd)
      | _ => trivial
    refine iff_of_true ?_ hkeeps
    rcases call_cases hc hother h with rfl | harmed | ⟨-, hclosed⟩
    · exact hprogress
    · exact .inr (.inl harmed.1)
    · refine .inl ?_
      unfold isIdle
      rw [hclosed]
      rfl

/-- A response that makes the client panic is neither a repetition nor the end of a handshake. -/
theorem keepsGoing_of_panic {c : SdoClientConnection} {e : Call σ} (h : c.call e = none) :
    c.KeepsGoing e := by
  cases e with
  | handleResponse seqHeader cmd =>
      rintro ⟨frame, hsent, hnumber⟩
      have hpanic : c.handleResponse seqHeader cmd = none := h
      unfold handleResponse at hpanic
      simp only [hsent, hnumber, ne_eq, not_true_eq_false, if_false] at hpanic
      split_ifs at hpanic with hrepeated hnext habort
      exact ⟨fun hdrops => hrepeated hdrops.2,
        fun hidly => absurd hidly.2.2.1 (by rw [habort]; exact nofun)⟩
  | _ => cases h

/-- The condition on a call of a connection that has not panicked. -/
def ReachedKeepsGoing : Option SdoClientConnection → Call σ → Prop
  | none, _ => True
  | some c, e => c.KeepsGoing e

/-- Every connection that a run from a new one reaches can go on exactly if no response is dropped
that answers a read, and none establishes a connection without work. -/
theorem progress_iff (targetNodeId : NodeId) (calls : List (Call σ)) :
    Runs.Always (Runs.partialStep call) (Runs.Reached (CanProgress σ)) (some (new targetNodeId))
        calls ↔
      Runs.AllSteps (Runs.partialStep call) ReachedKeepsGoing (some (new targetNodeId)) calls := by
  refine Runs.always_iff_allSteps_of_invariant (I := Runs.Reached Consistent) ?_ ?_
    (consistent_of_none rfl) (.inl rfl)
  · intro s e hs
    cases s with
    | none => trivial
    | some c =>
        cases hcall : c.call e with
        | none =>
            rw [Runs.partialStep, hcall]
            trivial
        | some c' =>
            rw [Runs.partialStep, hcall]
            exact consistent_call hs hcall
  · intro s e hs hprogress
    cases s with
    | none => exact Iff.rfl
    | some c =>
        cases hcall : c.call e with
        | none =>
            rw [Runs.partialStep, hcall]
            exact iff_of_true trivial (keepsGoing_of_panic hcall)
        | some c' =>
            rw [Runs.partialStep, hcall]
            exact canProgress_call_iff hs hprogress hcall

/-- A read whose answer is overtaken by a repetition of the server's first response. -/
def overtakenRead : List (Call Empty) :=
  [.startReadJob 0x2000 0 1 0 (.new none),
    .getPendingRequest 0 (.new none),
    .handleResponse ⟨0, .initialization, 0, .initialization⟩ ⟨{ isResponse := true }, none, []⟩,
    .getPendingRequest 0 (.new none),
    .handleResponse ⟨1, .connectionValid, 0, .connectionValid⟩ ⟨{ isResponse := true }, none, []⟩]

/-- The repetition takes the deadline of the read and leaves it waiting for good. -/
theorem repeated_response_stalls_read :
    ¬∀ (targetNodeId : NodeId) (calls : List (Call Empty)),
      Runs.Always (Runs.partialStep call) (Runs.Reached (CanProgress Empty))
        (some (new targetNodeId)) calls := by
  intro h
  have hlast := (h ⟨5⟩ overtakenRead).last
  have hstalled : (Runs.run (Runs.partialStep call) (some (new ⟨5⟩)) overtakenRead).any (fun c =>
      !c.isIdle && c.deadlineUs.isNone &&
        (c.getPendingRequest 0 (.new none : ObjectDictionary Empty)).1.isNone) = true := by
    decide +kernel
  cases hrun : Runs.run (Runs.partialStep call) (some (new ⟨5⟩)) overtakenRead with
  | none =>
      rw [hrun] at hstalled
      cases hstalled
  | some c =>
      rw [hrun] at hstalled hlast
      rw [Option.any_some, Bool.and_eq_true, Bool.and_eq_true, Option.isNone_iff_eq_none,
        Option.isNone_iff_eq_none] at hstalled
      obtain ⟨⟨hidle, hdeadline⟩, hrequest⟩ := hstalled
      rcases hlast with hlast | hlast | hlast
      · rw [hlast] at hidle
        cases hidle
      · rw [hdeadline] at hlast
        cases hlast
      · have hsome := hlast 0 (.new none)
        rw [hrequest] at hsome
        cases hsome

end SdoClientConnection

end Powerlink
