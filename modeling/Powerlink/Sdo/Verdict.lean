import Powerlink.Sdo.SequenceHandler

/-! # What a command comes to

The services of the server stated apart from the connection that runs them.  `verdict` says
what a command comes to in a given transfer state and dictionary: it is refused with an abort
code, it is the client's own abort, it is answered in one frame, it asks for the next segment of
an upload, it adds to or completes a download, or it is delegated.  `conclude` says what the
connection then sends and becomes.

`processCommandLayer_eq` and `handleCommandPayload_eq` connect the two with the model of the
source: the command layer of a connection carries out the verdict, and nothing else.  Results
about requests with a command are case distinctions over the seven verdicts from here on. -/

namespace Powerlink

open LittleEndian Handlers

/-- What a read service answers with: the data, and the object it is read from. -/
structure ReadData where
  payload : List UInt8
  index : UInt16
  subIndex : UInt8

/-! ### Reads -/

section reads

variable {σ : Type} (od : ObjectDictionary σ)

/-- The value of one object. -/
def objectData (index : UInt16) (subIndex : UInt8) : Except UInt32 ReadData :=
  match od.read index subIndex with
  | some value => .ok ⟨value.serialize, index, subIndex⟩
  | none => .error (readAbortCode od index)

/-- The data of a read by index. -/
def readByIndexData (payload : List UInt8) : Except UInt32 ReadData :=
  match ReadByIndexRequest.fromPayload payload with
  | .ok req => objectData od req.index req.subIndex
  | .error e => .error (payloadAbortCode e)

/-- The data of a read by name. -/
def readByNameData (payload : List UInt8) : Except UInt32 ReadData :=
  match ReadByNameRequest.fromPayload payload with
  | .ok name =>
      match od.findByName name with
      | some (index, subIndex) => objectData od index subIndex
      | none => .error 0x060A0023
  | .error e => .error (payloadAbortCode e)

/-- The data of a read of all sub-indices. -/
def readAllData (payload : List UInt8) : Except UInt32 ReadData :=
  match payload with
  | i₀ :: i₁ :: _ =>
      match od.readObject (u16OfBytes [i₀, i₁]) with
      | some (.record subIndices) | some (.array subIndices) =>
          match readElements od (u16OfBytes [i₀, i₁]) 0 subIndices.length [] with
          | some data => .ok ⟨data, u16OfBytes [i₀, i₁], 0⟩
          | none => .error 0x06090011
      | some (.variable _) => .error 0x06090030
      | none => .error 0x06020000
  | _ => .error 0x05040001

/-- The data of a read of several objects. -/
def readMultipleData (payload : List UInt8) : Except UInt32 ReadData :=
  match ReadMultipleParamRequest.fromPayload payload with
  | .ok entries =>
      match readParams od entries [] with
      | .ok data => .ok ⟨u32Bytes (UInt32.ofNat entries.length) ++ data, 0, 0⟩
      | .error abortCode => .error abortCode
  | .error e => .error (payloadAbortCode e)

end reads

/-! ### Verdicts -/

/-- The command acknowledges a segment of the transaction. -/
def SdoCommand.continues (command : SdoCommand) (transactionId : UInt8) : Bool :=
  decide (transactionId = command.header.transactionId) &&
    (decide (command.header.commandId = .nil) || command.header.isResponse)

/-- The command payload acknowledges a segment of the transaction. -/
def continuesUpload (commandPayload : List UInt8) (transactionId : UInt8) : Bool :=
  match SdoCommand.deserialize commandPayload with
  | .ok command => !command.header.isAborted && command.continues transactionId
  | .error _ => false

/-- An upload of which nothing was sent, too long for one frame. -/
def SdoTransferState.Fresh (t : SdoTransferState) : Prop :=
  t.offset = 0 ∧ t.totalSize = t.dataBuffer.length ∧ maxExpeditedPayload < t.totalSize

theorem SdoTransferState.Fresh.isLastSegment {t : SdoTransferState} (h : t.Fresh) :
    t.isLastSegment = false := by
  rw [isLastSegment_eq_false_iff, h.1, Nat.zero_add]
  exact h.2.2

/-- What a command comes to. -/
inductive Verdict (σ η : Type) where
  /-- The command is refused with an abort code. -/
  | refuse (abortCode : UInt32) (od : ObjectDictionary σ)
  /-- The client gave up its transfer. -/
  | clientAbort
  /-- The command is answered in one frame. -/
  | answer (segmentSize : UInt16) (payload : List UInt8) (od : ObjectDictionary σ)
  /-- The next segment of an upload is due. -/
  | segment (transfer : SdoTransferState)
  /-- A download goes on. -/
  | receive (transfer : SdoTransferState)
  /-- A download is complete. -/
  | complete (od : ObjectDictionary σ)
  /-- The command handler answered. -/
  | delegated (response : SdoCommand) (od : ObjectDictionary σ) (commandHandler : η)

namespace Verdict

variable {σ η : Type}

/-- The dictionary a verdict leaves, given the one it found. -/
def odAfter (od : ObjectDictionary σ) : Verdict σ η → ObjectDictionary σ
  | refuse _ od' | answer _ _ od' | complete od' | delegated _ od' _ => od'
  | clientAbort | segment _ | receive _ => od

/-- The command handler a verdict leaves, given the one it found. -/
def commandHandlerAfter (ch : η) : Verdict σ η → η
  | delegated _ _ ch' => ch'
  | _ => ch

/-- The command is refused. -/
def isRefusal : Verdict σ η → Bool
  | refuse _ _ => true
  | _ => false

/-- The data of a read: one frame if it fits, else the first segment of an upload. -/
def ofRead (transactionId : UInt8) (od : ObjectDictionary σ) :
    Except UInt32 ReadData → Verdict σ η
  | .ok data =>
      if data.payload.length ≤ maxExpeditedPayload then
        answer (UInt16.ofNat data.payload.length) data.payload od
      else segment (newUpload transactionId data.payload data.index data.subIndex)
  | .error abortCode => refuse abortCode od

/-- The answer of the command handler. -/
def ofHandler (r : SdoCommand × ObjectDictionary σ × η) : Verdict σ η :=
  delegated r.1 r.2.1 r.2.2

variable [ObjectDictionaryStorage σ]

/-- A frame that goes on with a download, or ends it. -/
def ofDownload (state : SdoServerState) (command : SdoCommand) (od : ObjectDictionary σ)
    (currentTimeUs : ℕ) : Verdict σ η :=
  match state with
  | .segmentedDownload t =>
      if t.transactionId ≠ command.header.transactionId then refuse 0x08000000 od
      else match t.processDownloadSegment command od currentTimeUs with
        | (.ok true, _, od') => complete od'
        | (.ok false, t', _) => receive t'
        | (.error abortCode, _, od') => refuse abortCode od'
  | _ => refuse 0x05040003 od

/-- A write by index. -/
def ofWrite (state : SdoServerState) (command : SdoCommand) (od : ObjectDictionary σ)
    (currentTimeUs : ℕ) : Verdict σ η :=
  match command.header.segmentation with
  | .expedited =>
      match WriteByIndexRequest.fromPayload command.payload with
      | .ok req =>
          match (expeditedWrite command req).performOdWrite od with
          | (.ok (), od') => answer 0 [] od'
          | (.error abortCode, od') => refuse abortCode od'
      | .error e => refuse (payloadAbortCode e) od
  | .initiate =>
      match WriteByIndexRequest.fromPayload command.payload with
      | .ok req =>
          if (command.dataSize.getD 0).toNat = 0 then refuse 0x06070010 od
          else receive (newDownload command req (command.dataSize.getD 0).toNat
            (currentTimeUs + sdoTimeoutUs od))
      | .error e => refuse (payloadAbortCode e) od
  | .segment | .complete => ofDownload state command od currentTimeUs

/-- A write by name. -/
def ofNamedWrite (state : SdoServerState) (command : SdoCommand) (od : ObjectDictionary σ)
    (currentTimeUs : ℕ) : Verdict σ η :=
  match WriteByNameRequest.fromPayload command.payload with
  | .ok req =>
      match od.findByName req.name with
      | some (index, subIndex) =>
          ofWrite state
            { command with
              payload := u16Bytes index ++ [subIndex, 0] ++ req.data
              header := { command.header with
                segmentSize := UInt16.ofNat (u16Bytes index ++ [subIndex, 0] ++ req.data).length } }
            od currentTimeUs
      | none => refuse 0x060A0023 od
  | .error e => refuse (payloadAbortCode e) od

variable [SdoCommandHandler σ η]

/-- The service named by the command identifier. -/
def ofService (state : SdoServerState) (command : SdoCommand) (od : ObjectDictionary σ)
    (currentTimeUs : ℕ) (ch : η) : Verdict σ η :=
  match command.header.commandId with
  | .readByIndex => ofRead command.header.transactionId od (readByIndexData od command.payload)
  | .writeByIndex => ofWrite state command od currentTimeUs
  | .readByName => ofRead command.header.transactionId od (readByNameData od command.payload)
  | .writeByName => ofNamedWrite state command od currentTimeUs
  | .readAllByIndex => ofRead command.header.transactionId od (readAllData od command.payload)
  | .readMultipleParamByIndex =>
      ofRead command.header.transactionId od (readMultipleData od command.payload)
  | .maxSegmentSize => answer 4 (handleMaxSegmentSize command {}).payload od
  | .writeAllByIndex => ofHandler (SdoCommandHandler.handleWriteAllByIndex ch command od)
  | .writeMultipleParamByIndex =>
      ofHandler (SdoCommandHandler.handleWriteMultipleParams ch command od)
  | .fileRead => ofHandler (SdoCommandHandler.handleFileRead ch command od)
  | .fileWrite => ofHandler (SdoCommandHandler.handleFileWrite ch command od)
  | .nil => answer 0 [] od
  | .abort => refuse 0x05040001 od

/-- A command that arrives during an upload. -/
def duringUpload (t : SdoTransferState) (command : SdoCommand) (od : ObjectDictionary σ) :
    Verdict σ η :=
  if command.header.isAborted then clientAbort
  else if command.continues t.transactionId then segment t
  else if t.transactionId = command.header.transactionId then refuse 0x05040003 od
  else refuse 0x08000000 od

omit [ObjectDictionaryStorage σ] [SdoCommandHandler σ η] in
theorem duringUpload_isRefusal (t : SdoTransferState) (command : SdoCommand)
    (od : ObjectDictionary σ) :
    (duringUpload t command od : Verdict σ η).isRefusal =
      (!command.header.isAborted && !command.continues t.transactionId) := by
  unfold duringUpload
  split_ifs with habort hack _
  · simp [isRefusal, habort]
  · simp [isRefusal, hack]
  · simp [isRefusal, habort, hack]
  · simp [isRefusal, habort, hack]

/-- What a command comes to in a transfer state. -/
def ofCommand (state : SdoServerState) (command : SdoCommand) (od : ObjectDictionary σ)
    (currentTimeUs : ℕ) (ch : η) : Verdict σ η :=
  match state with
  | .segmentedUpload t => duringUpload t command od
  | _ => if command.header.isAborted then clientAbort
      else ofService state command od currentTimeUs ch

/-! ### Which verdict a state allows -/

/-- The verdicts a transfer state allows for a command that is no client abort: a segment belongs
to the running upload or to a new one, and only a running download is completed. -/
def Allowed (state : SdoServerState) (transactionId : UInt8) : Verdict σ η → Prop
  | segment t => t.transactionId = transactionId ∧
      (state = .segmentedUpload t ∨ (∀ u, state ≠ .segmentedUpload u) ∧ t.Fresh)
  | complete _ => ∃ t, state = .segmentedDownload t
  | answer _ _ _ | receive _ | delegated _ _ _ => ∀ t, state ≠ .segmentedUpload t
  | refuse _ _ => True
  | clientAbort => False

section allowed

variable {state : SdoServerState} (hstate : ∀ t, state ≠ .segmentedUpload t)
include hstate

omit [ObjectDictionaryStorage σ] [SdoCommandHandler σ η] in
theorem ofRead_allowed (tid : UInt8) (od : ObjectDictionary σ) (r : Except UInt32 ReadData) :
    Allowed state tid (ofRead tid od r : Verdict σ η) := by
  cases r with
  | ok data =>
      rw [ofRead]
      split_ifs with hlen
      · exact hstate
      · exact ⟨rfl, .inr ⟨hstate, rfl, rfl, by simpa [newUpload] using hlen⟩⟩
  | error abortCode => trivial

omit [SdoCommandHandler σ η] in
theorem ofDownload_allowed (tid : UInt8) (command : SdoCommand) (od : ObjectDictionary σ)
    (currentTimeUs : ℕ) :
    Allowed state tid (ofDownload state command od currentTimeUs : Verdict σ η) := by
  unfold ofDownload
  split
  · split_ifs
    · trivial
    · split
      · exact ⟨_, rfl⟩
      · exact hstate
      · trivial
  · trivial

omit [SdoCommandHandler σ η] in
theorem ofWrite_allowed (tid : UInt8) (command : SdoCommand) (od : ObjectDictionary σ)
    (currentTimeUs : ℕ) :
    Allowed state tid (ofWrite state command od currentTimeUs : Verdict σ η) := by
  unfold ofWrite
  cases command.header.segmentation with
  | expedited =>
      dsimp only
      split
      · split
        · exact hstate
        · trivial
      · trivial
  | initiate =>
      dsimp only
      split
      · split_ifs
        · trivial
        · exact hstate
      · trivial
  | segment => exact ofDownload_allowed hstate tid command od currentTimeUs
  | complete => exact ofDownload_allowed hstate tid command od currentTimeUs

omit [SdoCommandHandler σ η] in
theorem ofNamedWrite_allowed (tid : UInt8) (command : SdoCommand) (od : ObjectDictionary σ)
    (currentTimeUs : ℕ) :
    Allowed state tid (ofNamedWrite state command od currentTimeUs : Verdict σ η) := by
  unfold ofNamedWrite
  split
  · split
    · exact ofWrite_allowed hstate _ _ _ _
    · trivial
  · trivial

theorem ofService_allowed (command : SdoCommand) (od : ObjectDictionary σ) (currentTimeUs : ℕ)
    (ch : η) : Allowed state command.header.transactionId
      (ofService state command od currentTimeUs ch) := by
  unfold ofService
  cases command.header.commandId with
  | readByIndex => exact ofRead_allowed hstate _ _ _
  | readByName => exact ofRead_allowed hstate _ _ _
  | readAllByIndex => exact ofRead_allowed hstate _ _ _
  | readMultipleParamByIndex => exact ofRead_allowed hstate _ _ _
  | writeByIndex => exact ofWrite_allowed hstate _ _ _ _
  | writeByName => exact ofNamedWrite_allowed hstate _ _ _ _
  | maxSegmentSize => exact hstate
  | writeAllByIndex => exact hstate
  | writeMultipleParamByIndex => exact hstate
  | fileRead => exact hstate
  | fileWrite => exact hstate
  | nil => exact hstate
  | abort => trivial

end allowed

/-- A client abort is recognised in every state. -/
theorem ofCommand_of_isAborted {command : SdoCommand} (habort : command.header.isAborted = true)
    (state : SdoServerState) (od : ObjectDictionary σ) (currentTimeUs : ℕ) (ch : η) :
    ofCommand state command od currentTimeUs ch = clientAbort := by
  cases state <;> simp only [ofCommand, duringUpload, if_pos habort]

theorem ofCommand_allowed {command : SdoCommand} (habort : command.header.isAborted = false)
    (state : SdoServerState) (od : ObjectDictionary σ) (currentTimeUs : ℕ) (ch : η) :
    Allowed state command.header.transactionId (ofCommand state command od currentTimeUs ch) := by
  have hneg : ¬ command.header.isAborted = true := by simp [habort]
  cases state with
  | segmentedUpload t =>
      simp only [ofCommand, duringUpload, if_neg hneg]
      split_ifs with hack _
      · simp only [SdoCommand.continues, Bool.and_eq_true, decide_eq_true_eq] at hack
        exact ⟨hack.1, .inl rfl⟩
      · trivial
      · trivial
  | closed | opening | established | segmentedDownload t =>
      simp only [ofCommand, if_neg hneg]
      exact ofService_allowed (by simp) command od currentTimeUs ch

end Verdict

/-- The transaction that the answer to a command payload names, and what the payload comes
to. -/
def verdict {σ η : Type} [ObjectDictionaryStorage σ] [SdoCommandHandler σ η]
    (state : SdoServerState) (commandPayload : List UInt8) (od : ObjectDictionary σ)
    (currentTimeUs : ℕ) (ch : η) : UInt8 × Verdict σ η :=
  match SdoCommand.deserialize commandPayload with
  | .ok command =>
      (command.header.transactionId, Verdict.ofCommand state command od currentTimeUs ch)
  | .error _ => ((commandPayload.head?.map (· &&& 0x0F)).getD 0, .refuse 0x05040001 od)

section

variable {σ η : Type} [ObjectDictionaryStorage σ] [SdoCommandHandler σ η]

/-- The verdict on a command that arrives as it was sent. -/
theorem verdict_bytes {command : SdoCommand}
    (hsize : command.header.segmentSize.toNat ≤ command.payload.length) (state : SdoServerState)
    (od : ObjectDictionary σ) (currentTimeUs : ℕ) (ch : η) :
    verdict state command.bytes od currentTimeUs ch =
      (command.header.transactionId, .ofCommand state command.decoded od currentTimeUs ch) := by
  rw [verdict, SdoCommand.deserialize_bytes command hsize]
  rfl

/-- Every command is a client abort or has a verdict the state allows. -/
theorem verdict_allowed (state : SdoServerState) (commandPayload : List UInt8)
    (od : ObjectDictionary σ) (currentTimeUs : ℕ) (ch : η) :
    (verdict state commandPayload od currentTimeUs ch).2 = .clientAbort ∨
      Verdict.Allowed state (verdict state commandPayload od currentTimeUs ch).1
        (verdict state commandPayload od currentTimeUs ch).2 := by
  unfold verdict
  cases SdoCommand.deserialize commandPayload with
  | ok command =>
      cases habort : command.header.isAborted with
      | true => exact .inl (Verdict.ofCommand_of_isAborted habort state od currentTimeUs ch)
      | false => exact .inr (Verdict.ofCommand_allowed habort state od currentTimeUs ch)
  | error e => exact .inr trivial

/-- What a command that arrives during an upload comes to; in particular it leaves the
dictionary and the command handler alone. -/
theorem verdict_duringUpload (t : SdoTransferState) (commandPayload : List UInt8)
    (od : ObjectDictionary σ) (currentTimeUs : ℕ) (ch : η) :
    (verdict (.segmentedUpload t) commandPayload od currentTimeUs ch).2 = .clientAbort ∨
    (verdict (.segmentedUpload t) commandPayload od currentTimeUs ch).2 = .segment t ∧
      continuesUpload commandPayload t.transactionId = true ∨
    ∃ code, (verdict (.segmentedUpload t) commandPayload od currentTimeUs ch).2 =
      .refuse code od := by
  unfold verdict continuesUpload
  cases SdoCommand.deserialize commandPayload with
  | error e => exact .inr (.inr ⟨_, rfl⟩)
  | ok command =>
      simp only [Verdict.ofCommand, Verdict.duringUpload]
      split_ifs with habort hack _
      · exact .inl rfl
      · exact .inr (.inl ⟨rfl, by simp [habort, hack]⟩)
      · exact .inr (.inr ⟨_, rfl⟩)
      · exact .inr (.inr ⟨_, rfl⟩)

end

/-! ### Carrying out a verdict -/

/-- The answer to a transaction in one frame. -/
def SdoCommand.answerTo (transactionId : UInt8) (segmentSize : UInt16) (payload : List UInt8) :
    SdoCommand :=
  ⟨{ transactionId := transactionId, isResponse := true, segmentSize := segmentSize }, none,
    payload⟩

namespace SdoTransferState

variable {σ : Type}

/-- The transfer state after a segment that is not the last one was sent. -/
def advanced (t : SdoTransferState) (od : ObjectDictionary σ) (currentTimeUs : ℕ) :
    SdoTransferState :=
  { t with
    offset := t.offset + t.currentChunkSize
    deadlineUs := some (currentTimeUs + sdoTimeoutUs od)
    retransmissionsLeft := sdoRetries od
    lastSentSegment := some t.uploadSegment }

theorem getNextUploadSegment_command (t : SdoTransferState) (od : ObjectDictionary σ)
    (currentTimeUs : ℕ) : (t.getNextUploadSegment od currentTimeUs).1 = t.uploadSegment := by
  unfold getNextUploadSegment
  split_ifs <;> rfl

theorem getNextUploadSegment_isLast (t : SdoTransferState) (od : ObjectDictionary σ)
    (currentTimeUs : ℕ) : (t.getNextUploadSegment od currentTimeUs).2.1 = t.isLastSegment := by
  unfold getNextUploadSegment
  split_ifs with h <;> simp [h]

theorem getNextUploadSegment_state {t : SdoTransferState} (od : ObjectDictionary σ)
    (currentTimeUs : ℕ) (h : t.isLastSegment = false) :
    (t.getNextUploadSegment od currentTimeUs).2.2 = t.advanced od currentTimeUs := by
  simp [getNextUploadSegment, h, advanced]

end SdoTransferState

namespace SdoSequenceHandler

variable {σ η : Type}

/-- What the command layer returns for a verdict. -/
def carryOut (h : SdoSequenceHandler) (od : ObjectDictionary σ) (currentTimeUs : ℕ) (ch : η)
    (transactionId : UInt8) :
    Verdict σ η → (SdoCommand × SdoSequenceHandler) × ObjectDictionary σ × η
  | .refuse abortCode od' => (h.abort transactionId abortCode, od', ch)
  | .clientAbort => ((abortEcho, { h with state := .established }), od, ch)
  | .answer segmentSize payload od' =>
      ((.answerTo transactionId segmentSize payload, h), od', ch)
  | .segment t =>
      ((t.uploadSegment, { h with
        state := if t.isLastSegment then .established
          else .segmentedUpload (t.advanced od currentTimeUs) }), od, ch)
  | .receive t => ((.answerTo transactionId 0 [], { h with state := .segmentedDownload t }), od, ch)
  | .complete od' => ((.answerTo transactionId 0 [], { h with state := .established }), od', ch)
  | .delegated response od' ch' => ((response, h), od', ch')

/-- What a request returns and leaves behind for a verdict. -/
def conclude (h : SdoSequenceHandler) (responseHeader : SequenceLayerHeader)
    (od : ObjectDictionary σ) (currentTimeUs : ℕ) (ch : η) :
    UInt8 × Verdict σ η → Handled σ η
  | (tid, .refuse abortCode od') =>
      ⟨.ok (h.responseData
          { responseHeader with receiveSequenceNumber := 63, sendCon := .noConnection }
          (.abortResponse tid abortCode)), h.reset, od', ch⟩
  | (_, .clientAbort) =>
      ⟨.ok (h.responseData
          { responseHeader with
            receiveSequenceNumber := h.lastReceivedSequenceNumber, sendCon := .noConnection }
          abortEcho), { h with state := .closed }, od, ch⟩
  | (tid, .answer segmentSize payload od') =>
      ⟨.ok (h.responseData
          { responseHeader with receiveSequenceNumber := h.lastReceivedSequenceNumber }
          (.answerTo tid segmentSize payload)),
        { h with state := if h.state = .opening then .opening else .closed }, od', ch⟩
  | (_, .segment t) =>
      ⟨.ok (h.responseData
          { responseHeader with receiveSequenceNumber := h.lastReceivedSequenceNumber }
          t.uploadSegment),
        { h with
          state := if t.isLastSegment then .closed
            else .segmentedUpload (t.advanced od currentTimeUs) }, od, ch⟩
  | (tid, .receive _) =>
      ⟨.ok (h.responseData
          { responseHeader with receiveSequenceNumber := h.lastReceivedSequenceNumber }
          (.answerTo tid 0 [])), { h with state := .closed }, od, ch⟩
  | (tid, .complete od') =>
      ⟨.ok (h.responseData
          { responseHeader with receiveSequenceNumber := h.lastReceivedSequenceNumber }
          (.answerTo tid 0 [])), { h with state := .closed }, od', ch⟩
  | (_, .delegated response od' ch') =>
      ⟨.ok (h.responseData (h.finishHeader responseHeader response) response),
        h.closeAfter response, od', ch'⟩

/-! ### The command layer carries out the verdict -/

variable {h : SdoSequenceHandler} {command : SdoCommand} {od : ObjectDictionary σ}
  {currentTimeUs : ℕ} {ch : η}

/-- The end of every read service. -/
theorem respond_eq (ch : η) {c : SdoCommand}
    (hc : c.header.transactionId = command.header.transactionId) (data : ReadData) :
    (respond h c (responseHeaderFor command) od currentTimeUs data.payload data.index
        data.subIndex, od, ch) =
      h.carryOut od currentTimeUs ch command.header.transactionId
        (.ofRead command.header.transactionId od (.ok data)) := by
  by_cases hlen : data.payload.length ≤ maxExpeditedPayload
  · simp only [respond, Verdict.ofRead, if_pos hlen]
    rfl
  · have hlast : (newUpload command.header.transactionId data.payload data.index
        data.subIndex).isLastSegment = false := by
      rw [SdoTransferState.isLastSegment_eq_false_iff]
      simpa [newUpload] using hlen
    simp only [respond, Verdict.ofRead, if_neg hlen, hc, carryOut, hlast,
      SdoTransferState.getNextUploadSegment]
    rfl

/-- A read by index, for a command that differs from the given one in its payload only. -/
theorem handleReadByIndex_eq (ch : η) {c : SdoCommand}
    (hc : c.header.transactionId = command.header.transactionId) :
    (handleReadByIndex h c (responseHeaderFor command) od currentTimeUs, od, ch) =
      h.carryOut od currentTimeUs ch command.header.transactionId
        (.ofRead command.header.transactionId od (readByIndexData od c.payload)) := by
  unfold handleReadByIndex readByIndexData objectData
  cases ReadByIndexRequest.fromPayload c.payload with
  | ok req =>
      cases hread : od.read req.index req.subIndex with
      | some value =>
          simp only [hread]
          exact respond_eq ch hc ⟨value.serialize, req.index, req.subIndex⟩
      | none =>
          simp only [hread, hc]
          rfl
  | error e =>
      simp only [hc]
      rfl

theorem handleReadByName_eq (ch : η) :
    (handleReadByName h command (responseHeaderFor command) od currentTimeUs, od, ch) =
      h.carryOut od currentTimeUs ch command.header.transactionId
        (.ofRead command.header.transactionId od (readByNameData od command.payload)) := by
  unfold handleReadByName readByNameData
  cases ReadByNameRequest.fromPayload command.payload with
  | ok name =>
      cases hname : od.findByName name with
      | some address =>
          obtain ⟨index, subIndex⟩ := address
          simp only [hname]
          refine (handleReadByIndex_eq ch rfl).trans ?_
          rw [readByIndexData, ReadByIndexRequest.fromPayload_address]
      | none =>
          simp only [hname]
          rfl
  | error e => rfl

theorem handleReadAllByIndex_eq (ch : η) :
    (handleReadAllByIndex h command (responseHeaderFor command) od currentTimeUs, od, ch) =
      h.carryOut od currentTimeUs ch command.header.transactionId
        (.ofRead command.header.transactionId od (readAllData od command.payload)) := by
  unfold handleReadAllByIndex readAllData
  rcases command.payload with - | ⟨i₀, - | ⟨i₁, rest⟩⟩
  · rfl
  · rfl
  · -- arrays and records share the loop
    have elements (subIndices : List ObjectValue) :
        ((match readElements od (u16OfBytes [i₀, i₁]) 0 subIndices.length [] with
          | some payload => respond h command (responseHeaderFor command) od currentTimeUs payload
              (u16OfBytes [i₀, i₁]) 0
          | none => h.abort command.header.transactionId 0x06090011), od, ch) =
        h.carryOut od currentTimeUs ch command.header.transactionId
          (.ofRead command.header.transactionId od
            (match readElements od (u16OfBytes [i₀, i₁]) 0 subIndices.length [] with
            | some data => .ok ⟨data, u16OfBytes [i₀, i₁], 0⟩
            | none => .error 0x06090011)) := by
      cases readElements od (u16OfBytes [i₀, i₁]) 0 subIndices.length [] with
      | some data => exact respond_eq ch rfl ⟨data, u16OfBytes [i₀, i₁], 0⟩
      | none => rfl
    dsimp only
    rcases od.readObject (u16OfBytes [i₀, i₁]) with - | (value | subIndices | subIndices)
    · rfl
    · rfl
    · exact elements subIndices
    · exact elements subIndices

theorem handleReadMultipleParams_eq (ch : η) :
    (handleReadMultipleParams h command (responseHeaderFor command) od currentTimeUs, od, ch) =
      h.carryOut od currentTimeUs ch command.header.transactionId
        (.ofRead command.header.transactionId od (readMultipleData od command.payload)) := by
  unfold handleReadMultipleParams readMultipleData
  cases ReadMultipleParamRequest.fromPayload command.payload with
  | ok entries =>
      cases hparams : readParams od entries [] with
      | ok data =>
          simp only [hparams]
          exact respond_eq ch rfl ⟨u32Bytes (UInt32.ofNat entries.length) ++ data, 0, 0⟩
      | error abortCode =>
          simp only [hparams]
          rfl
  | error e => rfl

theorem continueUpload_eq (ch : η) (t : SdoTransferState) :
    (h.continueUpload t command od currentTimeUs, od, ch) =
      h.carryOut od currentTimeUs ch command.header.transactionId
        (.duringUpload t command od) := by
  unfold continueUpload Verdict.duringUpload SdoCommand.continues
  by_cases habort : command.header.isAborted
  · rw [if_neg (fun hc => hc.2 habort), if_pos habort, if_pos habort]
    rfl
  · rw [if_neg habort, if_neg habort]
    by_cases htid : t.transactionId = command.header.transactionId
    · rw [if_pos ⟨htid, habort⟩]
      simp only [htid, decide_true, Bool.true_and, Bool.or_eq_true, decide_eq_true_eq, if_true]
      by_cases hack : command.header.commandId = .nil ∨ command.header.isResponse
      · simp only [if_pos hack, carryOut, SdoTransferState.getNextUploadSegment_command,
          SdoTransferState.getNextUploadSegment_isLast]
        cases hlast : t.isLastSegment with
        | true => rfl
        | false => rw [SdoTransferState.getNextUploadSegment_state od currentTimeUs hlast]
      · simp only [if_neg hack]
        rfl
    · rw [if_neg (fun hc => htid hc.1)]
      simp only [htid, decide_false, Bool.false_and, Bool.false_eq_true, if_false]
      rfl

/-- An answer in one frame closes the connection unless the handshake is still open. -/
theorem closeAfter_answerTo (h : SdoSequenceHandler) (tid : UInt8) (segmentSize : UInt16)
    (payload : List UInt8) :
    h.closeAfter (.answerTo tid segmentSize payload) =
      { h with state := if h.state = .opening then .opening else .closed } := by
  by_cases hopen : h.state = .opening
  · rw [closeAfter, if_neg (fun hc => hc.1 hopen), if_pos hopen, ← hopen]
  · rw [closeAfter, if_pos ⟨hopen, rfl⟩, if_neg hopen]

/-- The last segment of an upload ends it, the others do not. -/
theorem endsTransfer_uploadSegment (t : SdoTransferState) :
    endsTransfer t.uploadSegment = t.isLastSegment := by
  unfold endsTransfer SdoTransferState.uploadSegment
  cases t.isLastSegment with
  | true => rfl
  | false => by_cases hoff : t.offset = 0 <;> simp [hoff]

section services

variable [ObjectDictionaryStorage σ]

/-- A segment that does not complete a download leaves the dictionary alone. -/
theorem processDownloadSegment_ok_false {t t' : SdoTransferState} {od' : ObjectDictionary σ}
    (h : t.processDownloadSegment command od currentTimeUs = (.ok false, t', od')) : od' = od := by
  unfold SdoTransferState.processDownloadSegment at h
  dsimp only at h
  split at h
  · cases h
  · split at h
    · split at h
      · cases h
      · split at h <;> cases h
    · cases h
      rfl

/-- A frame that goes on with a download, or ends it. -/
theorem continueDownload_eq (ch : η) {c : SdoCommand}
    (hc : c.header.transactionId = command.header.transactionId)
    (hseg : c.header.segmentation = .segment ∨ c.header.segmentation = .complete) :
    ((handleWriteByIndex h c (responseHeaderFor command) od currentTimeUs).1,
        (handleWriteByIndex h c (responseHeaderFor command) od currentTimeUs).2, ch) =
      h.carryOut od currentTimeUs ch command.header.transactionId
        (.ofWrite h.state c od currentTimeUs) := by
  unfold handleWriteByIndex Verdict.ofWrite Verdict.ofDownload
  rcases hseg with hseg | hseg <;> simp only [hseg, hc] <;> cases h.state with
  | closed => rfl
  | opening => rfl
  | established => rfl
  | segmentedUpload t => rfl
  | segmentedDownload t =>
      dsimp only
      split_ifs with htid
      · rfl
      · rcases hdown : t.processDownloadSegment c od currentTimeUs with ⟨code | done, t', od'⟩
        · rfl
        · cases done with
          | true => rfl
          | false =>
              obtain rfl := processDownloadSegment_ok_false hdown
              rfl

/-- A write by index, for a command that differs from the given one in its payload only. -/
theorem handleWriteByIndex_eq (ch : η) {c : SdoCommand}
    (hc : c.header.transactionId = command.header.transactionId) :
    ((handleWriteByIndex h c (responseHeaderFor command) od currentTimeUs).1,
        (handleWriteByIndex h c (responseHeaderFor command) od currentTimeUs).2, ch) =
      h.carryOut od currentTimeUs ch command.header.transactionId
        (.ofWrite h.state c od currentTimeUs) := by
  cases hseg : c.header.segmentation with
  | expedited =>
      simp only [handleWriteByIndex, Verdict.ofWrite, hseg, hc]
      cases WriteByIndexRequest.fromPayload c.payload with
      | ok req =>
          dsimp only
          rcases (expeditedWrite c req).performOdWrite od with ⟨_ | _, od'⟩ <;> rfl
      | error e => rfl
  | initiate =>
      simp only [handleWriteByIndex, Verdict.ofWrite, hseg, hc]
      cases WriteByIndexRequest.fromPayload c.payload with
      | ok req =>
          dsimp only
          split_ifs <;> rfl
      | error e => rfl
  | segment => exact continueDownload_eq ch hc (.inl hseg)
  | complete => exact continueDownload_eq ch hc (.inr hseg)

theorem handleWriteByName_eq (ch : η) :
    ((handleWriteByName h command (responseHeaderFor command) od currentTimeUs).1,
        (handleWriteByName h command (responseHeaderFor command) od currentTimeUs).2, ch) =
      h.carryOut od currentTimeUs ch command.header.transactionId
        (.ofNamedWrite h.state command od currentTimeUs) := by
  unfold handleWriteByName Verdict.ofNamedWrite
  cases WriteByNameRequest.fromPayload command.payload with
  | ok req =>
      cases hname : od.findByName req.name with
      | some address =>
          simp only [hname]
          exact handleWriteByIndex_eq ch rfl
      | none =>
          simp only [hname]
          rfl
  | error e => rfl

variable [SdoCommandHandler σ η]

theorem dispatch_eq :
    h.dispatch command od currentTimeUs ch =
      h.carryOut od currentTimeUs ch command.header.transactionId
        (.ofService h.state command od currentTimeUs ch) := by
  unfold dispatch Verdict.ofService
  cases command.header.commandId with
  | readByIndex => exact handleReadByIndex_eq ch rfl
  | readByName => exact handleReadByName_eq ch
  | readAllByIndex => exact handleReadAllByIndex_eq ch
  | readMultipleParamByIndex => exact handleReadMultipleParams_eq ch
  | writeByIndex => exact handleWriteByIndex_eq ch rfl
  | writeByName => exact handleWriteByName_eq ch
  | maxSegmentSize => rfl
  | writeAllByIndex => rfl
  | writeMultipleParamByIndex => rfl
  | fileRead => rfl
  | fileWrite => rfl
  | nil => rfl
  | abort => rfl

/-- The command layer carries out the verdict. -/
theorem processCommandLayer_eq :
    h.processCommandLayer command od currentTimeUs ch =
      h.carryOut od currentTimeUs ch command.header.transactionId
        (.ofCommand h.state command od currentTimeUs ch) := by
  unfold processCommandLayer Verdict.ofCommand
  cases hstate : h.state with
  | segmentedUpload t => exact continueUpload_eq ch t
  | closed | opening | established | segmentedDownload t =>
      dsimp only
      split_ifs with habort
      · rfl
      · rw [dispatch_eq, hstate]

/-- A frame with a command concludes as its verdict says. -/
theorem handleCommandPayload_eq (responseHeader : SequenceLayerHeader)
    (commandPayload : List UInt8) :
    h.handleCommandPayload responseHeader commandPayload od currentTimeUs ch =
      h.conclude responseHeader od currentTimeUs ch
        (verdict h.state commandPayload od currentTimeUs ch) := by
  unfold handleCommandPayload verdict
  cases SdoCommand.deserialize commandPayload with
  | error e => rfl
  | ok command =>
      simp only [processCommandLayer_eq]
      cases Verdict.ofCommand h.state command od currentTimeUs ch with
      | refuse abortCode od' => rfl
      | clientAbort => rfl
      | answer segmentSize payload od' =>
          simp only [carryOut, conclude, closeAfter_answerTo]
          rfl
      | segment t =>
          simp only [carryOut, conclude, closeAfter, endsTransfer_uploadSegment]
          cases t.isLastSegment <;> rfl
      | receive t => rfl
      | complete od' => rfl
      | delegated response od' ch' => rfl

end services

end SdoSequenceHandler

end Powerlink
