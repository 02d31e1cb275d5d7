import Powerlink.Sdo.Window
import Powerlink.Sdo.ClientManager

/-! # Responses on the wire

A response of the server leaves the node in an Ethernet frame or in a UDP datagram.  Both
transports write the same octets, the sequence header and the command; the datagram adds a
prefix of four.  They differ in the buffer: `serializeSdoUdpPayload` writes into the 1500 octets
of the caller, `serializeSdoAsndPayload` allocates what it expects the command to take and
counts four of its eight fixed octets.

* `step_ready`, `response_sendable`: in every run the commands of a connection have the shape the
  codec relies on, whichever service, segment, retransmission or abort they come from;
* `serializeSdoUdpPayload_shaped`, `deserializeSdoUdpPayload_shaped`: a datagram carries such a
  command, and the receiver reads back what was sent;
* `serializeSdoAsndPayload_shaped`: the buffer for a frame is too short for every such command;
* `responses_carried_by_udp_only` puts them together over whole runs. -/

namespace Powerlink

open LittleEndian

/-- The shape of a command that fits into one frame: the segment size is the length of the
payload, and an `initiate` frame, and no other, announces a total size. -/
structure SdoCommand.Shaped (c : SdoCommand) : Prop where
  segmentSize : c.header.segmentSize.toNat = c.payload.length
  dataSize : c.dataSize.isSome ↔ c.header.segmentation = .initiate
  payload : c.payload.length ≤ 1452

/-! ### The two transports -/

section transports

variable {s : SequenceLayerHeader} {c : SdoCommand}

theorem SdoCommand.bytes_length (c : SdoCommand) :
    c.bytes.length =
      8 + (if c.header.segmentation = .initiate then 4 else 0) + c.payload.length := by
  have h₂ : (u16Bytes c.header.segmentSize).length = 2 := rfl
  have h₄ : (u32Bytes (c.dataSize.getD 0)).length = 4 := rfl
  unfold bytes
  split_ifs
  · simp only [List.length_append, List.length_cons, List.length_nil, h₂, h₄]
  · simp only [List.length_append, List.length_cons, List.length_nil, h₂]

/-- A command is written if the buffer takes its octets. -/
theorem SdoCommand.serialize_of_fits {n : ℕ} (hfits : c.bytes.length ≤ n) :
    c.serialize (List.replicate n 0) =
      .ok (c.bytes ++ (List.replicate n 0).drop c.bytes.length, c.bytes.length) := by
  have hlen := c.bytes_length
  have hinitiate : ¬ (c.header.segmentation = .initiate ∧ n < 12) := by
    rintro ⟨hseg, hn⟩
    rw [if_pos hseg] at hlen
    omega
  rw [serialize, List.length_replicate, if_neg (by omega), if_neg hinitiate, if_neg (by omega)]

/-- A command is refused if the buffer does not take its octets. -/
theorem SdoCommand.serialize_of_short {n : ℕ} (hshort : n < c.bytes.length) :
    c.serialize (List.replicate n 0) = .error .bufferTooShort := by
  rw [serialize, List.length_replicate]
  split_ifs <;> rfl

/-- A command of the right shape decodes to itself. -/
theorem SdoCommand.Shaped.decoded (h : c.Shaped) : c.decoded = c := by
  obtain ⟨header, dataSize, payload⟩ := c
  have hpayload : payload.take header.segmentSize.toNat = payload :=
    List.take_of_length_le (by rw [h.segmentSize])
  have hsize := h.dataSize
  simp only [SdoCommand.decoded, hpayload]
  cases dataSize with
  | none =>
      rw [if_neg (fun hseg => by simpa using hsize.mpr hseg)]
  | some n =>
      rw [if_pos (hsize.mp rfl)]
      rfl

/-- The octets of a datagram. -/
def udpBytes (s : SequenceLayerHeader) (c : SdoCommand) : List UInt8 :=
  [MessageType.aSnd.toByte, 0, 0, ServiceId.sdo.toByte] ++ s.bytes ++ c.bytes

theorem serializeSdoUdpPayload_shaped (h : c.Shaped) :
    serializeSdoUdpPayload s c 1500 = .ok (udpBytes s c) := by
  have hlen := c.bytes_length
  have hpayload := h.payload
  have hfits : c.bytes.length ≤ 1500 - 8 := by split_ifs at hlen <;> omega
  have hserialize := c.serialize_of_fits hfits
  unfold serializeSdoUdpPayload
  rw [if_neg (by omega), hserialize]
  simp only [bind, Except.bind, List.take_left]
  rfl

/-- The receiver of a datagram reads back what was sent. -/
theorem deserializeSdoUdpPayload_shaped (h : c.Shaped)
    (hr : s.receiveSequenceNumber < 64) (hs : s.sendSequenceNumber < 64) :
    deserializeSdoUdpPayload (udpBytes s c) = .ok (s, c) := by
  have hheader := SequenceLayerHeader.deserialize_bytes hr hs c.bytes
  have hcommand := c.deserialize_bytes h.segmentSize.le
  rw [h.decoded] at hcommand
  have hdrop : (udpBytes s c).drop 4 = s.bytes ++ c.bytes := rfl
  have hdrop' : (udpBytes s c).drop 8 = c.bytes := rfl
  have hlen : ¬ (udpBytes s c).length < 8 := by
    have hseq : s.bytes.length = 4 := rfl
    simp only [udpBytes, List.length_append, List.length_cons, hseq]
    omega
  unfold deserializeSdoUdpPayload
  rw [if_neg hlen, hdrop, hdrop', hheader, hcommand]
  rfl

/-- The buffer for a frame counts four of the eight fixed octets of a command. -/
theorem serializeSdoAsndPayload_shaped (h : c.Shaped) :
    serializeSdoAsndPayload s c = .error .bufferTooShort := by
  have hlen := c.bytes_length
  have hshort : 4 + 4 + (if c.dataSize.isSome then 4 else 0) + c.payload.length - 4 <
      c.bytes.length := by
    rw [hlen]
    by_cases hseg : c.header.segmentation = .initiate
    · rw [if_pos (h.dataSize.mpr hseg), if_pos hseg]
      omega
    · rw [if_neg (fun hsome => hseg (h.dataSize.mp hsome)), if_neg hseg]
      omega
  have hserialize := SdoCommand.serialize_of_short hshort
  unfold serializeSdoAsndPayload
  simp only [hserialize]
  rfl

end transports

/-! ### The commands of a connection -/

theorem SdoCommand.abortResponse_shaped (transactionId : UInt8) (abortCode : UInt32) :
    (abortResponse transactionId abortCode).Shaped := by
  have h₄ : (u32Bytes abortCode).length = 4 := rfl
  refine ⟨h₄.symm, by simp [abortResponse], ?_⟩
  simp only [abortResponse, h₄]
  omega

theorem SdoCommand.answerTo_shaped (transactionId : UInt8) {payload : List UInt8}
    (hlen : payload.length ≤ 1452) :
    (answerTo transactionId (UInt16.ofNat payload.length) payload).Shaped := by
  refine ⟨?_, by simp [answerTo], hlen⟩
  simp only [answerTo, UInt16.toNat_ofNat']
  omega

/-- An answer without data. -/
theorem SdoCommand.answerTo_nil_shaped (transactionId : UInt8) :
    (answerTo transactionId 0 []).Shaped :=
  ⟨rfl, by simp [answerTo], Nat.zero_le _⟩

/-- A segment has the right shape unless it is at once the first and the last one. -/
theorem SdoTransferState.uploadSegment_shaped {t : SdoTransferState}
    (ht : t.offset ≠ 0 ∨ t.isLastSegment = false) : t.uploadSegment.Shaped := by
  have hchunk : t.chunk.length ≤ 1452 := by
    simp only [chunk, currentChunkSize, maxExpeditedPayload, List.length_take]
    omega
  refine ⟨?_, ?_, hchunk⟩
  · simp only [uploadSegment, UInt16.toNat_ofNat']
    omega
  · simp only [uploadSegment]
    by_cases hoffset : t.offset = 0
    · simp [hoffset, ht.resolve_left (not_not.mpr hoffset)]
    · cases t.isLastSegment <;> simp [hoffset]

namespace Verdict

variable {σ : Type} [ObjectDictionaryStorage σ]

/-- The command that a verdict sends has the right shape, whatever the transaction. -/
def Shaped {η : Type} (v : Verdict σ η) : Prop := ∀ transactionId, (v.response transactionId).Shaped

section services

variable {η : Type}

omit [ObjectDictionaryStorage σ] in
theorem shaped_refuse (abortCode : UInt32) (od : ObjectDictionary σ) :
    (refuse abortCode od : Verdict σ η).Shaped :=
  fun transactionId => SdoCommand.abortResponse_shaped transactionId abortCode

omit [ObjectDictionaryStorage σ] in
theorem shaped_answer {payload : List UInt8} (hlen : payload.length ≤ 1452)
    (od : ObjectDictionary σ) :
    (answer (UInt16.ofNat payload.length) payload od : Verdict σ η).Shaped :=
  fun transactionId => SdoCommand.answerTo_shaped transactionId hlen

omit [ObjectDictionaryStorage σ] in
theorem shaped_answer_nil (od : ObjectDictionary σ) : (answer 0 [] od : Verdict σ η).Shaped :=
  SdoCommand.answerTo_nil_shaped

omit [ObjectDictionaryStorage σ] in
theorem shaped_receive (t : SdoTransferState) : (receive t : Verdict σ η).Shaped :=
  SdoCommand.answerTo_nil_shaped

omit [ObjectDictionaryStorage σ] in
theorem shaped_complete (od : ObjectDictionary σ) : (complete od : Verdict σ η).Shaped :=
  SdoCommand.answerTo_nil_shaped

omit [ObjectDictionaryStorage σ] in
theorem shaped_clientAbort : (clientAbort : Verdict σ η).Shaped :=
  fun _ => ⟨rfl, by simp [response, SdoSequenceHandler.abortEcho], Nat.zero_le _⟩

omit [ObjectDictionaryStorage σ] in
theorem shaped_segment {t : SdoTransferState} (ht : t.offset ≠ 0 ∨ t.isLastSegment = false) :
    (segment t : Verdict σ η).Shaped :=
  fun _ => SdoTransferState.uploadSegment_shaped ht

omit [ObjectDictionaryStorage σ] in
theorem shaped_ofRead (transactionId : UInt8) (od : ObjectDictionary σ)
    (r : Except UInt32 ReadData) : (ofRead transactionId od r : Verdict σ η).Shaped := by
  cases r with
  | error abortCode => exact shaped_refuse abortCode od
  | ok data =>
      rw [ofRead]
      split_ifs with hlen
      · exact shaped_answer hlen od
      · refine shaped_segment (.inr ?_)
        rw [SdoTransferState.isLastSegment_eq_false_iff]
        simpa [Handlers.newUpload] using hlen

theorem shaped_ofDownload (state : SdoServerState) (command : SdoCommand)
    (od : ObjectDictionary σ) (currentTimeUs : ℕ) :
    (ofDownload state command od currentTimeUs : Verdict σ η).Shaped := by
  unfold ofDownload
  split
  · split_ifs
    · exact shaped_refuse _ _
    · split
      · exact shaped_complete _
      · exact shaped_receive _
      · exact shaped_refuse _ _
  · exact shaped_refuse _ _

theorem shaped_ofWrite (state : SdoServerState) (command : SdoCommand)
    (od : ObjectDictionary σ) (currentTimeUs : ℕ) :
    (ofWrite state command od currentTimeUs : Verdict σ η).Shaped := by
  unfold ofWrite
  cases command.header.segmentation with
  | expedited =>
      dsimp only
      split
      · split
        · exact shaped_answer_nil _
        · exact shaped_refuse _ _
      · exact shaped_refuse _ _
  | initiate =>
      dsimp only
      split
      · split_ifs
        · exact shaped_refuse _ _
        · exact shaped_receive _
      · exact shaped_refuse _ _
  | segment => exact shaped_ofDownload state command od currentTimeUs
  | complete => exact shaped_ofDownload state command od currentTimeUs

theorem shaped_ofNamedWrite (state : SdoServerState) (command : SdoCommand)
    (od : ObjectDictionary σ) (currentTimeUs : ℕ) :
    (ofNamedWrite state command od currentTimeUs : Verdict σ η).Shaped := by
  unfold ofNamedWrite
  split
  · split
    · exact shaped_ofWrite _ _ _ _
    · exact shaped_refuse _ _
  · exact shaped_refuse _ _

end services

/-- The default handler answers every delegated command with an abort. -/
theorem shaped_ofService (state : SdoServerState) (command : SdoCommand)
    (od : ObjectDictionary σ) (currentTimeUs : ℕ) (ch : DefaultSdoHandler) :
    (ofService state command od currentTimeUs ch).Shaped := by
  have haborts (r : SdoCommand × ObjectDictionary σ × DefaultSdoHandler)
      (hr : r.1 = DefaultSdoHandler.abort command 0x06010001) : (ofHandler r).Shaped := by
    intro transactionId
    rw [ofHandler, hr]
    exact SdoCommand.abortResponse_shaped _ _
  unfold ofService
  cases command.header.commandId with
  | readByIndex => exact shaped_ofRead _ _ _
  | readByName => exact shaped_ofRead _ _ _
  | readAllByIndex => exact shaped_ofRead _ _ _
  | readMultipleParamByIndex => exact shaped_ofRead _ _ _
  | writeByIndex => exact shaped_ofWrite _ _ _ _
  | writeByName => exact shaped_ofNamedWrite _ _ _ _
  | maxSegmentSize =>
      have hlen : (Handlers.handleMaxSegmentSize command {}).payload.length = 4 := rfl
      have hanswer := shaped_answer (η := DefaultSdoHandler) (hlen.trans_le (by omega)) od
      rwa [hlen] at hanswer
  | writeAllByIndex => exact haborts _ rfl
  | writeMultipleParamByIndex => exact haborts _ rfl
  | fileRead => exact haborts _ rfl
  | fileWrite => exact haborts _ rfl
  | nil => exact shaped_answer_nil _
  | abort => exact shaped_refuse _ _

end Verdict

namespace SdoSequenceHandler

variable {σ η : Type} {h h' : SdoSequenceHandler} {request responseHeader : SequenceLayerHeader}
  {od : ObjectDictionary σ} {currentTimeUs : ℕ} {ch : η} {r : SdoResponseData}

/-- The response to an event. -/
def response [ObjectDictionaryStorage σ] [SdoCommandHandler σ η] (h : SdoSequenceHandler) :
    HandlerEvent σ η → Option SdoResponseData
  | .request payload od currentTimeUs ch =>
      (h.handleRequest payload od currentTimeUs ch).result.toOption
  | .tick od currentTimeUs => (h.tick currentTimeUs od).1.toOption.join

/-- The response can be sent: its command has the right shape and the sequence numbers of its
header have six bits. -/
def Sendable (r : SdoResponseData) : Prop :=
  r.command.Shaped ∧ r.seqHeader.receiveSequenceNumber < 64 ∧ r.seqHeader.sendSequenceNumber < 64

/-- What a connection keeps for its responses: a running upload has sent its first segment, the
segment stored for retransmission has the right shape, and the sequence numbers have six bits. -/
structure Ready (h : SdoSequenceHandler) : Prop where
  window : h.InWindow
  started : ∀ t, h.state = .segmentedUpload t → t.offset ≠ 0
  stored : ∀ t command, h.state = .segmentedUpload t → t.lastSentSegment = some command →
    command.Shaped

theorem ready_new (clientInfo : SdoClientInfo) : (new clientInfo).Ready :=
  ⟨inWindow_new clientInfo, by simp [new], by simp [new]⟩

/-- Only a running upload has anything to keep. -/
theorem ready_of_not_upload (hw : h.InWindow) (hs : ∀ t, h.state ≠ .segmentedUpload t) :
    h.Ready :=
  ⟨hw, fun t ht => absurd ht (hs t), fun t _ ht => absurd ht (hs t)⟩

/-- After a segment that is not the last one. -/
theorem ready_of_advanced {t : SdoTransferState} (od : ObjectDictionary σ) (currentTimeUs : ℕ)
    (hw : h.InWindow) (ht : t.isLastSegment = false)
    (hs : h.state = .segmentedUpload (t.advanced od currentTimeUs)) : h.Ready := by
  refine ⟨hw, fun u hu => ?_, fun u command hu hlast => ?_⟩
  · rw [hs] at hu
    cases hu
    simp only [SdoTransferState.advanced, SdoTransferState.currentChunkSize_of_not_last ht,
      maxExpeditedPayload]
    omega
  · rw [hs] at hu
    cases hu
    cases hlast
    exact SdoTransferState.uploadSegment_shaped (.inr ht)

/-! ### The sequence layer -/

/-- The sequence layer keeps the upload, up to the acknowledgement of the stored segment. -/
theorem ready_processSequenceLayer (hrequest : request.sendSequenceNumber < 64) (hh : h.Ready) :
    (h.processSequenceLayer request).2.Ready := by
  have hw := inWindow_processSequenceLayer hrequest hh.window
  have hstep := processSequenceLayer_step h request
  generalize h.processSequenceLayer request = out at hstep hw ⊢
  cases hstep with
  | duplicate | mismatch | noConnection => exact hh
  | initialization => exact ready_of_not_upload hw (by simp [initialized])
  | confirmation => exact ready_of_not_upload hw (by simp [confirmed])
  | unconfirmed => exact ready_of_not_upload hw (by simp)
  | inOrder =>
      by_cases hup : ∃ t, h.state = .segmentedUpload t
      · obtain ⟨t, hs⟩ := hup
        obtain ⟨t', hs', ht'⟩ := received_upload hs request
        refine ⟨hw, fun u hu => ?_, fun u command hu hlast => ?_⟩
        · rw [hs'] at hu
          cases hu
          rcases ht' with rfl | rfl
          · exact hh.started _ hs
          · exact hh.started t hs
        · rw [hs'] at hu
          cases hu
          rcases ht' with rfl | rfl
          · exact hh.stored _ command hs hlast
          · cases hlast
      · refine ready_of_not_upload hw (fun t ht => hup ⟨t, ?_⟩)
        rwa [received, acknowledge_eq (not_exists.mp hup)] at ht

/-- The sequence layer answers within the window. -/
theorem processSequenceLayer_window (hrequest : request.sendSequenceNumber < 64)
    (hh : h.Ready) (hseq : h.processSequenceLayer request = (.ok responseHeader, h')) :
    responseHeader.receiveSequenceNumber < 64 ∧ responseHeader.sendSequenceNumber < 64 := by
  have hw := inWindow_processSequenceLayer hrequest hh.window
  have hsend := processSequenceLayer_sendSequenceNumber hseq
  have hstep := processSequenceLayer_step h request
  rw [hseq] at hstep hw
  refine ⟨?_, hsend ▸ hw.1⟩
  cases hstep with
  | duplicate => exact hh.window.2
  | inOrder | initialization | noConnection | confirmation => exact hrequest

/-! ### The paths of a request -/

/-- The connection stays ready, and what it sends can be sent. -/
def Sends (result : Except PowerlinkError SdoResponseData) (h : SdoSequenceHandler) : Prop :=
  h.Ready ∧ ∀ r, result = .ok r → Sendable r

theorem sends_of_error (hh : h.Ready) (e : PowerlinkError) : Sends (.error e) h :=
  ⟨hh, by simp⟩

theorem sends_handleErrorResponse (hrequest : request.sendSequenceNumber < 64) (hh : h.Ready) :
    Sends (h.handleErrorResponse request).1 (h.handleErrorResponse request).2 := by
  by_cases hlast : ∀ t, h.state = .segmentedUpload t → t.lastSentSegment = none
  · rw [handleErrorResponse_acknowledge hlast]
    have hready := ready_processSequenceLayer hrequest hh
    rcases hseq : h.processSequenceLayer request with ⟨e | ackHeader, h'⟩
    · rw [hseq] at hready
      exact sends_of_error hready e
    · rw [hseq] at hready
      refine ⟨hready, fun r hok => ?_⟩
      cases hok
      exact ⟨⟨rfl, by simp [responseData], Nat.zero_le _⟩,
        processSequenceLayer_window hrequest hh hseq⟩
  · push Not at hlast
    obtain ⟨t, hs, hstored⟩ := hlast
    obtain ⟨command, hcommand⟩ := Option.ne_none_iff_exists'.mp hstored
    rw [handleErrorResponse_resend hs hcommand]
    refine ⟨hh, fun r hok => ?_⟩
    cases hok
    exact ⟨hh.stored t command hs hcommand, hrequest, hh.window.1⟩

theorem sends_handleEmptyPayload (hh : h.Ready)
    (hheader : responseHeader.sendSequenceNumber < 64) :
    Sends (h.handleEmptyPayload request responseHeader od currentTimeUs).1
      (h.handleEmptyPayload request responseHeader od currentTimeUs).2 := by
  by_cases hcon : h.state = .opening ∨ request.sendCon = .connectionValid
  · by_cases hup : ∃ t, h.state = .segmentedUpload t
    · obtain ⟨t, hs⟩ := hup
      have hvalid : request.sendCon = .connectionValid := by simpa [hs] using hcon
      rw [handleEmptyPayload_upload hs hvalid]
      refine ⟨?_, fun r hok => ?_⟩
      · cases hlast : t.isLastSegment with
        | true => exact ready_of_not_upload hh.window (by simp)
        | false => exact ready_of_advanced od currentTimeUs hh.window hlast rfl
      · cases hok
        exact ⟨SdoTransferState.uploadSegment_shaped (.inl (hh.started t hs)), hh.window.2,
          hheader⟩
    · rw [handleEmptyPayload_acknowledge (not_exists.mp hup) hcon]
      refine ⟨ready_of_not_upload hh.window (fun t ht => ?_), fun r hok => ?_⟩
      · dsimp only at ht
        split_ifs at ht
        exact hup ⟨t, ht⟩
      · cases hok
        exact ⟨SdoCommand.answerTo_nil_shaped 0, hh.window.2, hheader⟩
  · obtain ⟨hs, hvalid⟩ := not_or.mp hcon
    rw [handleEmptyPayload_error hs hvalid]
    exact sends_of_error hh _

/-- The header of a response with a command stays in the window. -/
theorem conclude_window {v : UInt8 × Verdict σ η} (hh : h.Ready)
    (hheader : responseHeader.sendSequenceNumber < 64)
    (hok : (h.conclude responseHeader od currentTimeUs ch v).result = .ok r) :
    r.seqHeader.receiveSequenceNumber < 64 ∧ r.seqHeader.sendSequenceNumber < 64 := by
  refine ⟨?_, ?_⟩
  · rw [conclude_receiveSequenceNumber v hok]
    split_ifs
    · decide
    · exact hh.window.2
  · obtain ⟨tid, v⟩ := v
    cases v <;> cases hok <;> exact hheader

theorem sends_conclude {tid : UInt8} {v : Verdict σ η} (hh : h.Ready)
    (hheader : responseHeader.sendSequenceNumber < 64)
    (hshaped : v.Shaped) :
    Sends (h.conclude responseHeader od currentTimeUs ch (tid, v)).result
      (h.conclude responseHeader od currentTimeUs ch (tid, v)).handler := by
  refine ⟨?_, fun r hok => ⟨?_, conclude_window hh hheader hok⟩⟩
  · have hw : (h.conclude responseHeader od currentTimeUs ch (tid, v)).handler.InWindow :=
      inWindow_conclude responseHeader (tid, v) hh.window
    cases v with
    | refuse => exact ready_of_not_upload hw (by simp [conclude, reset])
    | clientAbort | receive | complete => exact ready_of_not_upload hw (by simp [conclude])
    | answer =>
        refine ready_of_not_upload hw (fun t ht => ?_)
        simp only [conclude] at ht
        split_ifs at ht
    | segment t =>
        cases hlast : t.isLastSegment with
        | true => exact ready_of_not_upload hw (by simp [conclude, hlast])
        | false =>
            refine ready_of_advanced od currentTimeUs hw hlast ?_
            simp only [conclude, hlast, Bool.false_eq_true, if_false]
    | delegated response =>
        simp only [conclude, closeAfter] at hw ⊢
        split_ifs
        · exact ready_of_not_upload hh.window (by simp)
        · exact hh
  · rw [conclude_command _ hok]
    exact hshaped tid

/-- A tick sends the stored segment or an abort. -/
theorem sends_tick (hh : h.Ready) (od : ObjectDictionary σ) (currentTimeUs : ℕ) :
    (h.tick currentTimeUs od).2.Ready ∧
      ∀ r, (h.tick currentTimeUs od).1 = .ok (some r) → Sendable r := by
  have hw : (h.tick currentTimeUs od).2.InWindow := inWindow_tick hh.window
  have hstep := tick_cases h od currentTimeUs
  generalize h.tick currentTimeUs od = out at hstep hw ⊢
  cases hstep with
  | quiet => exact ⟨hh, by simp⟩
  | resent t deadline command hs _ _ _ hlast =>
      refine ⟨⟨hw, fun u hu => ?_, fun u stored hu hstored => ?_⟩, fun r hok => ?_⟩
      · cases hu
        exact hh.started t hs
      · cases hu
        exact hh.stored t stored hs hstored
      · cases hok
        exact ⟨hh.stored t command hs hlast, hh.window.2, hh.window.1⟩
  | missing t hs _ hlast =>
      refine ⟨⟨hw, fun u hu => ?_, fun u stored hu hstored => ?_⟩, by simp⟩
      · cases hu
        exact hh.started t hs
      · cases hu
        exact hh.stored t stored hs hstored
  | expired t =>
      refine ⟨ready_of_not_upload hw (by simp [timeoutAbort, abort, reset]), fun r hok => ?_⟩
      cases hok
      exact ⟨SdoCommand.abortResponse_shaped _ _, (inWindow_reset (h := h)).2,
        (inWindow_reset (h := h)).1⟩

section runs

variable [ObjectDictionaryStorage σ] {payload : List UInt8} {handler : DefaultSdoHandler}

/-- What a command comes to has the right shape. -/
theorem verdict_shaped (hh : h.Ready) (commandPayload : List UInt8) (od : ObjectDictionary σ)
    (currentTimeUs : ℕ) (handler : DefaultSdoHandler) :
    (verdict h.state commandPayload od currentTimeUs handler).2.Shaped := by
  by_cases hup : ∃ t, h.state = .segmentedUpload t
  · obtain ⟨t, hs⟩ := hup
    rw [hs]
    rcases verdict_duringUpload t commandPayload od currentTimeUs handler with
      hv | ⟨hv, -⟩ | ⟨code, hv⟩
    · rw [hv]
      exact Verdict.shaped_clientAbort
    · rw [hv]
      exact Verdict.shaped_segment (.inl (hh.started t hs))
    · rw [hv]
      exact Verdict.shaped_refuse code od
  · unfold verdict
    cases SdoCommand.deserialize commandPayload with
    | error e => exact Verdict.shaped_refuse _ od
    | ok command =>
        cases hs : h.state with
        | segmentedUpload t => exact absurd ⟨t, hs⟩ hup
        | closed | opening | established | segmentedDownload t =>
            simp only [Verdict.ofCommand]
            split_ifs
            · exact Verdict.shaped_clientAbort
            · exact Verdict.shaped_ofService _ command od currentTimeUs handler

theorem sends_handleRequest (hh : h.Ready) (payload : List UInt8) (od : ObjectDictionary σ)
    (currentTimeUs : ℕ) (handler : DefaultSdoHandler) :
    Sends (h.handleRequest payload od currentTimeUs handler).result
      (h.handleRequest payload od currentTimeUs handler).handler := by
  rcases handleRequest_decode h payload od currentTimeUs handler with
    ⟨-, hshort⟩ | ⟨request, hdec⟩
  · rw [hshort]
    exact sends_of_error hh _
  have hrequest := SequenceLayerHeader.sendSequenceNumber_lt hdec
  by_cases hr : request.receiveCon = .errorResponse
  · rw [handleRequest_errorResponse hdec hr]
    exact sends_handleErrorResponse hrequest hh
  have hready := ready_processSequenceLayer hrequest hh
  rcases hseq : h.processSequenceLayer request with ⟨e | responseHeader, h'⟩
  · rw [handleRequest_rejected hdec hr hseq]
    rw [hseq] at hready
    exact sends_of_error hready e
  · rw [hseq] at hready
    have hheader := (processSequenceLayer_window hrequest hh hseq).2
    by_cases hempty : payload.drop 4 = []
    · rw [handleRequest_empty hdec hr hseq hempty]
      exact sends_handleEmptyPayload hready hheader
    · rw [handleRequest_command hdec hr hseq hempty]
      exact sends_conclude hready hheader
        (verdict_shaped hready (payload.drop 4) od currentTimeUs handler)

/-- Every event keeps a connection ready. -/
theorem step_ready (h : SdoSequenceHandler) (e : HandlerEvent σ DefaultSdoHandler)
    (hh : h.Ready) : (h.step e).Ready := by
  cases e with
  | request payload od currentTimeUs handler =>
      exact (sends_handleRequest hh payload od currentTimeUs handler).1
  | tick od currentTimeUs => exact (sends_tick hh od currentTimeUs).1

/-- Every response of a ready connection can be sent. -/
theorem response_sendable (hh : h.Ready) {e : HandlerEvent σ DefaultSdoHandler}
    (hr : h.response e = some r) : Sendable r := by
  cases e with
  | request payload od currentTimeUs handler =>
      refine (sends_handleRequest hh payload od currentTimeUs handler).2 r ?_
      simp only [response] at hr
      cases hresult : (h.handleRequest payload od currentTimeUs handler).result with
      | error e => simp [hresult, Except.toOption] at hr
      | ok r' =>
          rw [hresult] at hr
          cases hr
          rfl
  | tick od currentTimeUs =>
      refine (sends_tick hh od currentTimeUs).2 r ?_
      simp only [response] at hr
      cases hresult : (h.tick currentTimeUs od).1 with
      | error e => simp [hresult, Except.toOption] at hr
      | ok r' =>
          rw [hresult] at hr
          exact congrArg Except.ok hr

end runs

end SdoSequenceHandler

/-! ### Both transports -/

/-- A datagram carries the response: the receiver reads back the header and the command. -/
def SdoResponseData.CarriedByUdp (r : SdoResponseData) : Prop :=
  ∃ octets, serializeSdoUdpPayload r.seqHeader r.command 1500 = .ok octets ∧
    deserializeSdoUdpPayload octets = .ok (r.seqHeader, r.command)

/-- A frame carries the response: its payload is that of the datagram without the prefix. -/
def SdoResponseData.CarriedByAsnd (r : SdoResponseData) : Prop :=
  ∃ octets, serializeSdoUdpPayload r.seqHeader r.command 1500 = .ok octets ∧
    serializeSdoAsndPayload r.seqHeader r.command = .ok (octets.drop 4)

/-- The response has the right shape and both transports carry it. -/
structure SdoResponseData.Carried (r : SdoResponseData) : Prop where
  shaped : r.command.Shaped
  udp : r.CarriedByUdp
  asnd : r.CarriedByAsnd

open SdoSequenceHandler in
/-- Every response of every run has the right shape and is carried by a datagram; no response is
carried by a frame, because the buffer for its command is four octets short. -/
theorem responses_carried_by_udp_only {σ : Type} [ObjectDictionaryStorage σ]
    (clientInfo : SdoClientInfo) (events : List (HandlerEvent σ DefaultSdoHandler)) :
    Runs.AllSteps step (fun h e => ∀ r, h.response e = some r →
      r.command.Shaped ∧ r.CarriedByUdp ∧
      serializeSdoAsndPayload r.seqHeader r.command = .error .bufferTooShort ∧ ¬ r.Carried)
      (new clientInfo) events := by
  have hready := Runs.always_of_step step_ready events (ready_new clientInfo)
  refine hready.allSteps (fun h e hh r hr => ?_)
  obtain ⟨hshaped, hreceive, hsend⟩ := response_sendable hh hr
  have hasnd := serializeSdoAsndPayload_shaped (s := r.seqHeader) hshaped
  refine ⟨hshaped, ⟨_, serializeSdoUdpPayload_shaped hshaped,
    deserializeSdoUdpPayload_shaped hshaped hreceive hsend⟩, hasnd, fun hcarried => ?_⟩
  obtain ⟨octets, -, hok⟩ := hcarried.asnd
  rw [hasnd] at hok
  cases hok

open SdoSequenceHandler in
/-- The answer to the first frame of a handshake is not carried by a frame. -/
theorem handshake_not_carried_by_asnd :
    ¬ Runs.AllSteps step (fun h e => ∀ r, h.response e = some r → r.Carried)
      (new (.asnd ⟨240⟩ ⟨0, 1, 2, 3, 4, 5⟩))
      [emptyFrame ⟨63, .noConnection, 0, .initialization⟩] := by
  intro hcarried
  obtain ⟨octets, -, hok⟩ := (hcarried.1 _ rfl).asnd
  cases hok

end Powerlink
