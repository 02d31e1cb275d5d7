import Powerlink.Sdo.SequenceHandler

/-! # The client side of an SDO connection

The model of `sdo/client_connection.rs`: the state machine of one client connection, which opens
the connection, sends one read or write (or the writes of a Concise DCF, one after the other)
and collects the answer.

`handleResponse` returns `none` where the code panics: it slices the first four octets of the
payload of every accepted abort.  `getPendingRequest` calls itself once after it loaded the
next command of a job; the buffer is not empty then (`prepareNextJobCommand_some`), so that the
second call always sends the first chunk of it. -/

namespace Powerlink

open LittleEndian

/-- `MAX_CLIENT_PAYLOAD`. -/
def maxClientPayload : ℕ := 1452

/-- `SdoClientConnectionState`. -/
inductive SdoClientConnectionState where
  | idle
  | opening
  | established
  | uploadInit
  | uploadInProgress
  | downloadInProgress
  | closed
deriving DecidableEq, Repr

/-- `SdoJob::ConciseDcf`. -/
structure SdoJob where
  data : List UInt8
  offset : ℕ
  entriesRemaining : UInt32
deriving DecidableEq, Repr

/-- `SdoClientConnection`. -/
structure SdoClientConnection where
  targetNodeId : NodeId
  state : SdoClientConnectionState
  transactionId : UInt8
  sendSequenceNumber : UInt8
  lastReceivedSequenceNumber : UInt8
  dataBuffer : List UInt8
  offset : ℕ
  totalSize : ℕ
  deadlineUs : Option ℕ
  retriesLeft : ℕ
  lastSentCommand : Option (SequenceLayerHeader × SdoCommand)
  currentJob : Option SdoJob
  pendingCommand : Option SdoCommand
deriving DecidableEq, Repr

namespace SdoClientConnection

variable {σ : Type}

/-- `SdoClientConnection::new`. -/
def new (targetNodeId : NodeId) : SdoClientConnection where
  targetNodeId := targetNodeId
  state := .idle
  transactionId := 0
  sendSequenceNumber := 0
  lastReceivedSequenceNumber := 63
  dataBuffer := []
  offset := 0
  totalSize := 0
  deadlineUs := none
  retriesLeft := 0
  lastSentCommand := none
  currentJob := none
  pendingCommand := none

/-- `SdoClientConnection::is_idle`. -/
def isIdle (c : SdoClientConnection) : Bool :=
  decide (c.state = .idle) || decide (c.state = .closed)

/-- `SdoClientConnection::is_closed`. -/
def isClosed (c : SdoClientConnection) : Bool := decide (c.state = .closed)

/-- `SdoClientConnection::abort`. -/
def abort (c : SdoClientConnection) (abortCode : UInt32) :
    (SequenceLayerHeader × SdoCommand) × SdoClientConnection :=
  (({ sendSequenceNumber := c.sendSequenceNumber
      sendCon := .noConnection
      receiveSequenceNumber := c.lastReceivedSequenceNumber
      receiveCon := .connectionValid },
    ⟨{ transactionId := c.transactionId
       isResponse := false
       isAborted := true
       segmentation := .expedited
       commandId := .nil
       segmentSize := 4 }, none, u32Bytes abortCode⟩),
    { c with state := .closed, lastSentCommand := none, deadlineUs := none, currentJob := none })

/-! ### Jobs -/

/-- The payload of a write: index, sub-index, a reserved octet, the data. -/
def writePayload (index : UInt16) (subIndex : UInt8) (data : List UInt8) : List UInt8 :=
  u16Bytes index ++ [subIndex, 0] ++ data

/-- `SdoClientConnection::prepare_next_job_command`: whether a command was loaded, and the new
connection. -/
def prepareNextJobCommand (c : SdoClientConnection) : Bool × SdoClientConnection :=
  match c.currentJob with
  | none => (false, c)
  | some job =>
      let done := { c with currentJob := none }
      if job.entriesRemaining = 0 then (false, done)
      else match job.data.drop job.offset with
        | i₀ :: i₁ :: subIndex :: s₀ :: s₁ :: s₂ :: s₃ :: rest =>
            let dataSize := (u32OfBytes [s₀, s₁, s₂, s₃]).toNat
            if rest.length < dataSize then (false, done)
            else
              let fullPayload :=
                writePayload (u16OfBytes [i₀, i₁]) subIndex (rest.take dataSize)
              (true, { c with
                dataBuffer := fullPayload
                totalSize := fullPayload.length
                offset := 0
                currentJob := some
                  { job with
                    offset := job.offset + 7 + dataSize
                    entriesRemaining := job.entriesRemaining - 1 }
                transactionId := if c.transactionId + 1 = 0 then 1 else c.transactionId + 1 })
        | _ => (false, done)

/-- `SdoClientConnection::start_read_job`. -/
def startReadJob (c : SdoClientConnection) (index : UInt16) (subIndex tid : UInt8)
    (currentTimeUs : ℕ) (od : ObjectDictionary σ) :
    Except PowerlinkError Unit × SdoClientConnection :=
  if !c.isIdle then (.error (.sdoSequenceError "Client is busy"), c)
  else
    (.ok (), { c with
      state := .opening
      transactionId := tid
      sendSequenceNumber := 0
      lastReceivedSequenceNumber := 63
      dataBuffer := []
      pendingCommand := some
        ⟨{ transactionId := tid
           segmentation := .expedited
           commandId := .readByIndex
           segmentSize := 4 }, none, u16Bytes index ++ [subIndex, 0]⟩
      deadlineUs := some (currentTimeUs + sdoTimeoutUs od)
      retriesLeft := sdoRetries od })

/-- `SdoClientConnection::start_write_job`. -/
def startWriteJob (c : SdoClientConnection) (index : UInt16) (subIndex : UInt8)
    (data : List UInt8) (tid : UInt8) (currentTimeUs : ℕ) (od : ObjectDictionary σ) :
    Except PowerlinkError Unit × SdoClientConnection :=
  if !c.isIdle then (.error (.sdoSequenceError "Client is busy"), c)
  else
    (.ok (), { c with
      state := .opening
      transactionId := tid
      sendSequenceNumber := 0
      lastReceivedSequenceNumber := 63
      dataBuffer := writePayload index subIndex data
      totalSize := (writePayload index subIndex data).length
      offset := 0
      deadlineUs := some (currentTimeUs + sdoTimeoutUs od)
      retriesLeft := sdoRetries od })

/-- `SdoClientConnection::start_concise_dcf_job`. -/
def startConciseDcfJob (c : SdoClientConnection) (dcfData : List UInt8) (tid : UInt8)
    (currentTimeUs : ℕ) (od : ObjectDictionary σ) :
    Except PowerlinkError Unit × SdoClientConnection :=
  if !c.isIdle then (.error (.sdoSequenceError "Client is busy"), c)
  else if dcfData.length < 4 then (.error (.validationError "Concise DCF too short"), c)
  else
    let opened := { c with
      state := .opening
      transactionId := tid
      sendSequenceNumber := 0
      lastReceivedSequenceNumber := 63
      currentJob := some
        { data := dcfData, offset := 4, entriesRemaining := u32OfBytes (dcfData.take 4) }
      dataBuffer := [] }
    (.ok (), { opened.prepareNextJobCommand.2 with
      deadlineUs := some (currentTimeUs + sdoTimeoutUs od)
      retriesLeft := sdoRetries od })

/-! ### Requests -/

/-- `SdoClientConnection::get_next_download_segment`: the command, whether it is the last one,
and the new connection. -/
def getNextDownloadSegment (c : SdoClientConnection) :
    SdoCommand × Bool × SdoClientConnection :=
  let isInitiate := decide (c.offset = 0)
  let remaining := c.totalSize - c.offset
  let headerDataLen := if isInitiate then c.totalSize else remaining
  let dataOnlyLen := if isInitiate then c.totalSize - 4 else remaining
  let dataEndOffset := c.offset + min maxClientPayload headerDataLen
  let chunk := (c.dataBuffer.drop c.offset).take (min maxClientPayload headerDataLen)
  let segmentation : Segmentation :=
    if isInitiate then if c.totalSize ≤ maxClientPayload + 4 then .expedited else .initiate
    else if remaining ≤ maxClientPayload then .complete
    else .segment
  (⟨{ transactionId := c.transactionId
      segmentation := segmentation
      commandId := .writeByIndex
      segmentSize := UInt16.ofNat chunk.length },
    if isInitiate then some (UInt32.ofNat dataOnlyLen) else none, chunk⟩,
    decide (c.totalSize ≤ dataEndOffset), { c with offset := dataEndOffset })

/-- The sequence header of every frame after the handshake. -/
def requestHeader (c : SdoClientConnection) : SequenceLayerHeader where
  sendSequenceNumber := c.sendSequenceNumber
  sendCon := .connectionValidAckRequest
  receiveSequenceNumber := c.lastReceivedSequenceNumber
  receiveCon := .connectionValid

/-- The end of `get_pending_request`: the frame is stored for retransmission and the deadline
is armed. -/
def sendRequest (c : SdoClientConnection) (seq : SequenceLayerHeader) (cmd : SdoCommand)
    (currentTimeUs : ℕ) (od : ObjectDictionary σ) :
    Option (SequenceLayerHeader × SdoCommand) × SdoClientConnection :=
  (some (seq, cmd), { c with
    deadlineUs := some (currentTimeUs + sdoTimeoutUs od)
    retriesLeft := sdoRetries od
    lastSentCommand := some (seq, cmd)
    sendSequenceNumber := nextSequence c.sendSequenceNumber })

/-- The first chunk of the data buffer, from `Established`. -/
def startDownload (c : SdoClientConnection) (currentTimeUs : ℕ) (od : ObjectDictionary σ) :
    Option (SequenceLayerHeader × SdoCommand) × SdoClientConnection :=
  let (cmd, _, c') := c.getNextDownloadSegment
  sendRequest { c' with state := .downloadInProgress } c.requestHeader cmd currentTimeUs od

/-- `SdoClientConnection::get_pending_request`. -/
def getPendingRequest (c : SdoClientConnection) (currentTimeUs : ℕ) (od : ObjectDictionary σ) :
    Option (SequenceLayerHeader × SdoCommand) × SdoClientConnection :=
  if c.lastSentCommand.isSome then (none, c)
  else match c.state with
    | .opening =>
        c.sendRequest
          { sendSequenceNumber := c.sendSequenceNumber
            sendCon := .initialization
            receiveSequenceNumber := c.lastReceivedSequenceNumber
            receiveCon := .noConnection }
          ⟨{ transactionId := c.transactionId }, none, []⟩ currentTimeUs od
    | .established =>
        if c.dataBuffer ≠ [] then c.startDownload currentTimeUs od
        else match c.pendingCommand with
          | some cmd =>
              sendRequest { c with pendingCommand := none, state := .uploadInit }
                c.requestHeader cmd currentTimeUs od
          | none =>
              match c.prepareNextJobCommand with
              | (true, c') => c'.startDownload currentTimeUs od
              | (false, c') => (none, { c' with state := .closed })
    | .downloadInProgress =>
        let (cmd, _, c') := c.getNextDownloadSegment
        c'.sendRequest c.requestHeader cmd currentTimeUs od
    | .uploadInProgress =>
        c.sendRequest c.requestHeader
          ⟨{ transactionId := c.transactionId
             segmentation := .segment
             commandId := .readByIndex
             segmentSize := 0 }, none, []⟩ currentTimeUs od
    | _ => (none, c)

/-! ### Responses -/

/-- The part of `handle_response` that depends on the connection state. -/
def processResponse (c : SdoClientConnection) (seqHeader : SequenceLayerHeader)
    (cmd : SdoCommand) : SdoClientConnection :=
  match c.state with
  | .opening =>
      if seqHeader.receiveCon = .initialization ∧ seqHeader.sendCon = .initialization then
        { c with state := .established }
      else { c with state := .closed }
  | .downloadInProgress =>
      if c.totalSize ≤ c.offset then
        match c.prepareNextJobCommand with
        | (true, c') => { c' with state := .established }
        | (false, c') => { c' with state := .closed }
      else c
  | .uploadInit =>
      match cmd.header.segmentation with
      | .expedited => { c with dataBuffer := cmd.payload, state := .closed }
      | .initiate =>
          { c with
            totalSize := match cmd.dataSize with
              | some size => size.toNat
              | none => c.totalSize
            dataBuffer := []
            state := .uploadInProgress }
      | _ => { c with state := .closed }
  | .uploadInProgress =>
      match cmd.header.segmentation with
      | .segment => { c with dataBuffer := c.dataBuffer ++ cmd.payload }
      | .complete => { c with dataBuffer := c.dataBuffer ++ cmd.payload, state := .closed }
      | _ => { c with state := .closed }
  | _ => { c with state := .closed }

/-- `SdoClientConnection::handle_response`; `none` is a panic. -/
def handleResponse (c : SdoClientConnection) (seqHeader : SequenceLayerHeader)
    (cmd : SdoCommand) : Option SdoClientConnection :=
  match c.lastSentCommand with
  | none => some c
  | some (lastSeq, _) =>
      if seqHeader.receiveSequenceNumber ≠ lastSeq.sendSequenceNumber then some c
      else
        let c := { c with lastSentCommand := none, deadlineUs := none, retriesLeft := 0 }
        if seqHeader.sendSequenceNumber = c.lastReceivedSequenceNumber then some c
        else if seqHeader.sendSequenceNumber ≠ nextSequence c.lastReceivedSequenceNumber then
          some { c with state := .closed }
        else
          let c := { c with lastReceivedSequenceNumber := seqHeader.sendSequenceNumber }
          if cmd.header.isAborted then
            if cmd.payload.length < 4 then none
            else some { c with state := .closed, currentJob := none }
          else some (c.processResponse seqHeader cmd)

/-- `SdoClientConnection::tick`. -/
def tick (c : SdoClientConnection) (currentTimeUs : ℕ) (od : ObjectDictionary σ) :
    Option (SequenceLayerHeader × SdoCommand) × SdoClientConnection :=
  match c.deadlineUs with
  | none => (none, c)
  | some deadline =>
      if currentTimeUs < deadline then (none, c)
      else if c.retriesLeft > 0 then
        (c.lastSentCommand, { c with
          retriesLeft := c.retriesLeft - 1
          deadlineUs := some (currentTimeUs + sdoTimeoutUs od) })
      else
        let (frame, c') := c.abort 0x05040000
        (some frame, c')

/-- A loaded job command leaves data to send. -/
theorem prepareNextJobCommand_some {c c' : SdoClientConnection}
    (h : c.prepareNextJobCommand = (true, c')) : c'.dataBuffer ≠ [] := by
  unfold prepareNextJobCommand at h
  split at h
  · cases h
  · rename_i job _
    by_cases hrem : job.entriesRemaining = 0
    · simp [hrem] at h
    · simp only [hrem, if_false] at h
      split at h
      · rename_i i₀ i₁ subIndex s₀ s₁ s₂ s₃ rest _
        by_cases hlen : rest.length < (u32OfBytes [s₀, s₁, s₂, s₃]).toNat
        · simp [hlen] at h
        · simp only [hlen, if_false] at h
          obtain rfl := (Prod.mk.inj h).2
          simp [writePayload, u16Bytes, leBytes]
      · cases h

/-! ### Dropped responses -/

/-- A job command is loaded into the buffer; the sequence numbers and the timer are left alone. -/
theorem prepareNextJobCommand_frame (c : SdoClientConnection) :
    ∃ dataBuffer totalSize offset currentJob transactionId, c.prepareNextJobCommand.2 =
      { c with
        dataBuffer := dataBuffer
        totalSize := totalSize
        offset := offset
        currentJob := currentJob
        transactionId := transactionId } := by
  unfold prepareNextJobCommand
  split
  · exact ⟨_, _, _, _, _, rfl⟩
  · rename_i job _
    by_cases hrem : job.entriesRemaining = 0
    · simp only [if_pos hrem]
      exact ⟨_, _, _, _, _, rfl⟩
    · simp only [if_neg hrem]
      split
      · split
        · exact ⟨_, _, _, _, _, rfl⟩
        · exact ⟨_, _, _, _, _, rfl⟩
      · exact ⟨_, _, _, _, _, rfl⟩

/-- A response moves the connection on and changes the buffer or the job. -/
theorem processResponse_frame (c : SdoClientConnection) (seqHeader : SequenceLayerHeader)
    (cmd : SdoCommand) :
    ∃ state dataBuffer totalSize offset currentJob transactionId,
      c.processResponse seqHeader cmd =
        { c with
          state := state
          dataBuffer := dataBuffer
          totalSize := totalSize
          offset := offset
          currentJob := currentJob
          transactionId := transactionId } := by
  obtain ⟨dataBuffer, totalSize, offset, currentJob, transactionId, hjob⟩ :=
    c.prepareNextJobCommand_frame
  unfold processResponse
  split
  · split_ifs
    · exact ⟨_, _, _, _, _, _, rfl⟩
    · exact ⟨_, _, _, _, _, _, rfl⟩
  · split_ifs
    · split
      · rename_i c' h
        obtain rfl : c' = _ := (congrArg Prod.snd h).symm.trans hjob
        exact ⟨_, _, _, _, _, _, rfl⟩
      · rename_i c' h
        obtain rfl : c' = _ := (congrArg Prod.snd h).symm.trans hjob
        exact ⟨_, _, _, _, _, _, rfl⟩
    · exact ⟨_, _, _, _, _, _, rfl⟩
  · split
    · exact ⟨_, _, _, _, _, _, rfl⟩
    · exact ⟨_, _, _, _, _, _, rfl⟩
    · exact ⟨_, _, _, _, _, _, rfl⟩
  · split
    · exact ⟨_, _, _, _, _, _, rfl⟩
    · exact ⟨_, _, _, _, _, _, rfl⟩
    · exact ⟨_, _, _, _, _, _, rfl⟩
  · exact ⟨_, _, _, _, _, _, rfl⟩

theorem prepareNextJobCommand_lastSentCommand (c : SdoClientConnection) :
    c.prepareNextJobCommand.2.lastSentCommand = c.lastSentCommand := by
  obtain ⟨_, _, _, _, _, h⟩ := c.prepareNextJobCommand_frame
  rw [h]

theorem processResponse_lastSentCommand (c : SdoClientConnection)
    (seqHeader : SequenceLayerHeader) (cmd : SdoCommand) :
    (c.processResponse seqHeader cmd).lastSentCommand = c.lastSentCommand := by
  obtain ⟨_, _, _, _, _, _, h⟩ := c.processResponse_frame seqHeader cmd
  rw [h]

/-- A client that waits for an answer drops exactly the responses that acknowledge another
frame. -/
theorem handleResponse_eq_self_iff {c : SdoClientConnection}
    {frame : SequenceLayerHeader × SdoCommand} (hsent : c.lastSentCommand = some frame)
    (seqHeader : SequenceLayerHeader) (cmd : SdoCommand) :
    c.handleResponse seqHeader cmd = some c ↔
      seqHeader.receiveSequenceNumber ≠ frame.1.sendSequenceNumber := by
  constructor
  · intro h hack
    simp only [handleResponse, hsent, if_neg (not_not.mpr hack)] at h
    -- an accepted response clears the stored frame
    have cleared : ∀ c' : SdoClientConnection, some c' = some c → c'.lastSentCommand = none →
        False := by
      intro c' hc' hnone
      obtain rfl := Option.some.inj hc'
      rw [hsent] at hnone
      cases hnone
    split_ifs at h
    · exact cleared _ h rfl
    · exact cleared _ h rfl
    · exact cleared _ h rfl
    · exact cleared _ h (processResponse_lastSentCommand _ _ _)
  · intro hack
    simp only [handleResponse, hsent, if_pos hack]

end SdoClientConnection

end Powerlink
