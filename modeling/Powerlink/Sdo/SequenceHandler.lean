import Powerlink.Sdo.Handlers

/-! # The sequence handler of a server connection

The model of `sdo/sequence_handler.rs`.  A request passes through two layers:

* `processSequenceLayer` checks the sequence numbers against the connection, moves the
  connection through `closed`, `opening` and `established`, and computes the response header;
* `processCommandLayer` executes the decoded command, or continues a running upload.

`handleRequest` ties them together.  Its cases are kept as definitions of their own, in the
order of the source: a retransmission request of the client (`handleErrorResponse`), a frame
without command (`handleEmptyPayload`) and a frame with a command (`handleCommandPayload`).
`tick` retransmits or aborts on a timeout. -/

namespace Powerlink

open Handlers

/-- `SdoResponseData`. -/
structure SdoResponseData where
  clientInfo : SdoClientInfo
  seqHeader : SequenceLayerHeader
  command : SdoCommand
deriving DecidableEq, Repr

/-- The successor of a sequence number, modulo 64. -/
def nextSequence (n : UInt8) : UInt8 := (n + 1) % 64

/-- No sequence number follows itself. -/
theorem nextSequence_ne (n : UInt8) : nextSequence n ≠ n := by
  intro h
  have hn : (nextSequence n).toNat = n.toNat := congrArg UInt8.toNat h
  simp only [nextSequence, UInt8.toNat_mod, UInt8.toNat_add, UInt8.reduceToNat] at hn
  have := n.toNat_lt
  omega

/-- What a request returns and leaves behind: the result, the connection, the dictionary and
the command handler. -/
structure Handled (σ η : Type) where
  result : Except PowerlinkError SdoResponseData
  handler : SdoSequenceHandler
  od : ObjectDictionary σ
  commandHandler : η

namespace SdoSequenceHandler

variable {σ η : Type}

/-- A response of this connection. -/
def responseData (h : SdoSequenceHandler) (seqHeader : SequenceLayerHeader)
    (command : SdoCommand) : SdoResponseData :=
  ⟨h.clientInfo, seqHeader, command⟩

/-! ### The sequence layer -/

/-- The transfer state after the client acknowledged the last segment. -/
def acknowledged (t : SdoTransferState) : SdoTransferState :=
  { t with deadlineUs := none, lastSentSegment := none, retransmissionsLeft := 0 }

/-- The state after an in-order frame: an upload drops its stored segment if the frame
acknowledges it. -/
def acknowledge (h : SdoSequenceHandler) (request : SequenceLayerHeader) : SdoServerState :=
  match h.state with
  | .segmentedUpload t =>
      if request.receiveSequenceNumber = h.sendSequenceNumber then
        .segmentedUpload (acknowledged t)
      else .segmentedUpload t
  | s => s

/-- The part of `process_sequence_layer` for an open connection. -/
def processOpenSequence (h : SdoSequenceHandler) (request : SequenceLayerHeader) :
    Except PowerlinkError SequenceLayerHeader × SdoSequenceHandler :=
  if request.sendSequenceNumber = h.lastReceivedSequenceNumber then
    -- a duplicate keeps both sequence numbers
    (.ok { receiveCon := .connectionValid
           receiveSequenceNumber := h.lastReceivedSequenceNumber
           sendCon := .connectionValid
           sendSequenceNumber := h.sendSequenceNumber }, h)
  else if request.sendSequenceNumber ≠ nextSequence h.lastReceivedSequenceNumber then
    (.error (.sdoSequenceError "SDO sequence number mismatch."), h)
  else
    let state := h.acknowledge request
    (.ok { receiveCon := .connectionValid
           receiveSequenceNumber := request.sendSequenceNumber
           sendCon := match state with
             | .segmentedUpload t =>
                 if t.offset = 0 then .connectionValidAckRequest else .connectionValid
             | _ => .connectionValid
           sendSequenceNumber := nextSequence h.sendSequenceNumber },
      { h with
        state := state
        lastReceivedSequenceNumber := request.sendSequenceNumber
        sendSequenceNumber := nextSequence h.sendSequenceNumber })

/-- `SdoSequenceHandler::process_sequence_layer`. -/
def processSequenceLayer (h : SdoSequenceHandler) (request : SequenceLayerHeader) :
    Except PowerlinkError SequenceLayerHeader × SdoSequenceHandler :=
  match h.state with
  | .closed =>
      if request.sendCon = .initialization then
        (.ok { receiveCon := .initialization
               receiveSequenceNumber := request.sendSequenceNumber
               sendCon := .initialization
               sendSequenceNumber := 0 },
          { h with
            state := .opening
            sendSequenceNumber := 0
            lastReceivedSequenceNumber := request.sendSequenceNumber })
      else
        (.ok { receiveCon := .noConnection
               sendCon := .noConnection
               receiveSequenceNumber := request.sendSequenceNumber
               sendSequenceNumber := h.sendSequenceNumber }, h)
  | .opening =>
      if request.sendCon = .connectionValid ∧
          request.receiveSequenceNumber = h.sendSequenceNumber then
        (.ok { receiveCon := .connectionValid
               receiveSequenceNumber := request.sendSequenceNumber
               sendCon := .connectionValid
               sendSequenceNumber := nextSequence h.sendSequenceNumber },
          { h with
            state := .established
            lastReceivedSequenceNumber := request.sendSequenceNumber
            sendSequenceNumber := nextSequence h.sendSequenceNumber })
      else
        (.error (.sdoSequenceError "Invalid sequence state during SDO opening."),
          { h with state := .closed })
  | .established => h.processOpenSequence request
  | .segmentedDownload _ => h.processOpenSequence request
  | .segmentedUpload _ => h.processOpenSequence request

/-! ### Uploads -/

/-- The answer to a client abort: empty, with the abort flag set. -/
def abortEcho : SdoCommand := ⟨{ isAborted := true }, none, []⟩

/-- The header of a normal response to a command. -/
def responseHeaderFor (command : SdoCommand) : CommandLayerHeader :=
  { transactionId := command.header.transactionId, isResponse := true }

/-- The part of `process_command_layer` for a running upload. -/
def continueUpload (h : SdoSequenceHandler) (t : SdoTransferState) (command : SdoCommand)
    (od : ObjectDictionary σ) (currentTimeUs : ℕ) : SdoCommand × SdoSequenceHandler :=
  if t.transactionId = command.header.transactionId ∧ ¬ command.header.isAborted then
    if command.header.commandId = .nil ∨ command.header.isResponse then
      let (responseCommand, isLast, t') := t.getNextUploadSegment od currentTimeUs
      (responseCommand,
        { h with state := if isLast then .established else .segmentedUpload t' })
    else h.abort command.header.transactionId 0x05040003
  else if command.header.isAborted then (abortEcho, { h with state := .established })
  else h.abort command.header.transactionId 0x08000000

/-! ### Frames without command -/

/-- The path of `handle_request` for a frame that asks for a retransmission. -/
def handleErrorResponse (h : SdoSequenceHandler) (request : SequenceLayerHeader) :
    Except PowerlinkError SdoResponseData × SdoSequenceHandler :=
  let acknowledgeOnly :=
    match h.processSequenceLayer request with
    | (.ok ackHeader, h') => (.ok (h'.responseData ackHeader ⟨{}, none, []⟩), h')
    | (.error e, h') => (.error e, h')
  match h.state with
  | .segmentedUpload t =>
      match t.lastSentSegment with
      | some lastCommand =>
          (.ok (h.responseData
            { receiveSequenceNumber := request.sendSequenceNumber
              receiveCon := .connectionValid
              sendSequenceNumber := h.sendSequenceNumber
              sendCon := .connectionValidAckRequest } lastCommand), h)
      | none => acknowledgeOnly
  | _ => acknowledgeOnly

/-- The path of `handle_request` for a frame without command, after the sequence layer. -/
def handleEmptyPayload (h : SdoSequenceHandler) (request responseHeader : SequenceLayerHeader)
    (od : ObjectDictionary σ) (currentTimeUs : ℕ) :
    Except PowerlinkError SdoResponseData × SdoSequenceHandler :=
  if h.state = .opening ∨ request.sendCon = .connectionValid then
    let responseHeader :=
      { responseHeader with receiveSequenceNumber := h.lastReceivedSequenceNumber }
    match h.state with
    | .segmentedUpload t =>
        let (responseCommand, isLast, t') := t.getNextUploadSegment od currentTimeUs
        (.ok (h.responseData responseHeader responseCommand),
          { h with state := if isLast then .closed else .segmentedUpload t' })
    | _ =>
        (.ok (h.responseData responseHeader ⟨{ transactionId := 0, isResponse := true }, none, []⟩),
          if h.state = .established then { h with state := .closed } else h)
  else (.error .sdoInvalidCommandPayload, h)

/-! ### Timeouts -/

/-- The answer of `tick` that gives up a transfer. -/
def timeoutAbort (h : SdoSequenceHandler) (transactionId : UInt8) :
    Except PowerlinkError (Option SdoResponseData) × SdoSequenceHandler :=
  let (abortCommand, h') := h.abort transactionId 0x05040000
  (.ok (some (h.responseData
    { receiveSequenceNumber := h'.lastReceivedSequenceNumber
      receiveCon := .connectionValid
      sendSequenceNumber := h'.sendSequenceNumber
      sendCon := .noConnection } abortCommand)), h')

/-- `SdoSequenceHandler::tick`. -/
def tick (h : SdoSequenceHandler) (currentTimeUs : ℕ) (od : ObjectDictionary σ) :
    Except PowerlinkError (Option SdoResponseData) × SdoSequenceHandler :=
  match h.state with
  | .segmentedUpload t =>
      match t.deadlineUs with
      | none => (.ok none, h)
      | some deadline =>
          if currentTimeUs < deadline then (.ok none, h)
          else if t.retransmissionsLeft > 0 then
            let h' := { h with
              state := .segmentedUpload { t with
                retransmissionsLeft := t.retransmissionsLeft - 1
                deadlineUs := some (currentTimeUs + sdoTimeoutUs od) } }
            match t.lastSentSegment with
            | some command =>
                (.ok (some (h.responseData
                  { receiveSequenceNumber := h.lastReceivedSequenceNumber
                    receiveCon := .connectionValid
                    sendSequenceNumber := h.sendSequenceNumber
                    sendCon := .connectionValidAckRequest } command)), h')
            | none =>
                (.error (.internalError "Missing last sent segment during retransmission"), h')
          else h.timeoutAbort t.transactionId
  | .segmentedDownload t =>
      match t.deadlineUs with
      | none => (.ok none, h)
      | some deadline =>
          if currentTimeUs < deadline then (.ok none, h) else h.timeoutAbort t.transactionId
  | _ => (.ok none, h)

/-! ### Commands -/

/-- The response ends the transfer. -/
def endsTransfer (response : SdoCommand) : Bool :=
  decide (response.header.segmentation = .expedited) ||
    decide (response.header.segmentation = .complete) || response.header.isAborted

/-- The connection after a response was computed: closed at the end of a transfer, unless the
handshake is still open. -/
def closeAfter (h : SdoSequenceHandler) (response : SdoCommand) : SdoSequenceHandler :=
  if h.state ≠ .opening ∧ endsTransfer response then { h with state := .closed } else h

/-- The response header after the command layer ran. -/
def finishHeader (h : SdoSequenceHandler) (responseHeader : SequenceLayerHeader)
    (response : SdoCommand) : SequenceLayerHeader :=
  { responseHeader with
    receiveSequenceNumber := h.lastReceivedSequenceNumber
    sendCon := if response.header.isAborted then .noConnection else responseHeader.sendCon }

variable [ObjectDictionaryStorage σ] [SdoCommandHandler σ η]

/-- The part of `process_command_layer` that dispatches on the command identifier. -/
def dispatch (h : SdoSequenceHandler) (command : SdoCommand) (od : ObjectDictionary σ)
    (currentTimeUs : ℕ) (commandHandler : η) :
    (SdoCommand × SdoSequenceHandler) × ObjectDictionary σ × η :=
  let responseHeader := responseHeaderFor command
  match command.header.commandId with
  | .readByIndex =>
      (handleReadByIndex h command responseHeader od currentTimeUs, od, commandHandler)
  | .writeByIndex =>
      let (r, od') := handleWriteByIndex h command responseHeader od currentTimeUs
      (r, od', commandHandler)
  | .readByName =>
      (handleReadByName h command responseHeader od currentTimeUs, od, commandHandler)
  | .writeByName =>
      let (r, od') := handleWriteByName h command responseHeader od currentTimeUs
      (r, od', commandHandler)
  | .readAllByIndex =>
      (handleReadAllByIndex h command responseHeader od currentTimeUs, od, commandHandler)
  | .readMultipleParamByIndex =>
      (handleReadMultipleParams h command responseHeader od currentTimeUs, od, commandHandler)
  | .maxSegmentSize => ((handleMaxSegmentSize command responseHeader, h), od, commandHandler)
  | .writeAllByIndex =>
      let (r, od', ch') := SdoCommandHandler.handleWriteAllByIndex commandHandler command od
      ((r, h), od', ch')
  | .writeMultipleParamByIndex =>
      let (r, od', ch') := SdoCommandHandler.handleWriteMultipleParams commandHandler command od
      ((r, h), od', ch')
  | .fileRead =>
      let (r, od', ch') := SdoCommandHandler.handleFileRead commandHandler command od
      ((r, h), od', ch')
  | .fileWrite =>
      let (r, od', ch') := SdoCommandHandler.handleFileWrite commandHandler command od
      ((r, h), od', ch')
  | .nil => ((⟨responseHeader, none, []⟩, h), od, commandHandler)
  | .abort => (h.abort command.header.transactionId 0x05040001, od, commandHandler)

/-- `SdoSequenceHandler::process_command_layer`. -/
def processCommandLayer (h : SdoSequenceHandler) (command : SdoCommand)
    (od : ObjectDictionary σ) (currentTimeUs : ℕ) (commandHandler : η) :
    (SdoCommand × SdoSequenceHandler) × ObjectDictionary σ × η :=
  match h.state with
  | .segmentedUpload t => (h.continueUpload t command od currentTimeUs, od, commandHandler)
  | _ =>
      if command.header.isAborted then
        ((abortEcho, { h with state := .established }), od, commandHandler)
      else h.dispatch command od currentTimeUs commandHandler

/-! ### Requests -/

/-- The path of `handle_request` for a frame with a command, after the sequence layer. -/
def handleCommandPayload (h : SdoSequenceHandler) (responseHeader : SequenceLayerHeader)
    (commandPayload : List UInt8) (od : ObjectDictionary σ) (currentTimeUs : ℕ)
    (commandHandler : η) : Handled σ η :=
  match SdoCommand.deserialize commandPayload with
  | .ok command =>
      let ((response, h'), od', ch') :=
        h.processCommandLayer command od currentTimeUs commandHandler
      ⟨.ok (h.responseData (h'.finishHeader responseHeader response) response),
        h'.closeAfter response, od', ch'⟩
  | .error _ =>
      let tid := (commandPayload.head?.map (· &&& 0x0F)).getD 0
      let (abortCommand, h') := h.abort tid 0x05040001
      ⟨.ok (h.responseData (h'.finishHeader responseHeader abortCommand) abortCommand),
        h', od, commandHandler⟩

/-- `SdoSequenceHandler::handle_request`. -/
def handleRequest (h : SdoSequenceHandler) (requestSdoPayload : List UInt8)
    (od : ObjectDictionary σ) (currentTimeUs : ℕ) (commandHandler : η) : Handled σ η :=
  if requestSdoPayload.length < 4 then ⟨.error .bufferTooShort, h, od, commandHandler⟩
  else match SequenceLayerHeader.deserialize (requestSdoPayload.take 4) with
    | .error e => ⟨.error e, h, od, commandHandler⟩
    | .ok request =>
        let commandPayload := requestSdoPayload.drop 4
        if request.receiveCon = .errorResponse then
          let (result, h') := h.handleErrorResponse request
          ⟨result, h', od, commandHandler⟩
        else match h.processSequenceLayer request with
          | (.error e, h') => ⟨.error e, h', od, commandHandler⟩
          | (.ok responseHeader, h') =>
              if commandPayload = [] then
                let (result, h'') := h'.handleEmptyPayload request responseHeader od currentTimeUs
                ⟨result, h'', od, commandHandler⟩
              else h'.handleCommandPayload responseHeader commandPayload od currentTimeUs
                commandHandler

end SdoSequenceHandler

end Powerlink
