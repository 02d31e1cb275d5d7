import Powerlink.Lib.Slices
import Powerlink.Sdo.ClientManager
import Powerlink.Sdo.ClientProgress
import Powerlink.Sdo.ConciseDcf
import Powerlink.Sdo.EmbeddedExchange

/-! # Responses that crash a client

Every slice and every index on the way of a response, from the received octets through the decoders
into the client connection, is checked here; `none` is the panic.  The decoders check the lengths
before they read (`deserializeChecked_eq`), and so does the parser of a concise DCF.  The code of an
abort is the first four octets of its payload, whose length nobody checks: a client panics exactly
if it accepts an abort that is shorter (`responses_safe_iff`). -/

namespace Powerlink

open LittleEndian Slices

/-! ### The decoders -/

/-- `SequenceLayerHeader::deserialize` with its reads checked. -/
def SequenceLayerHeader.deserializeChecked (buffer : List UInt8) :
    Option (Except PowerlinkError SequenceLayerHeader) :=
  if buffer.length < 4 then some (.error .bufferTooShort)
  else do
    let octet₀ ← buffer[0]?
    let octet₁ ← buffer[1]?
    some do
      let receiveCon ← ReceiveConnState.tryFrom (octet₀ &&& 3)
      let sendCon ← SendConnState.tryFrom (octet₁ &&& 3)
      .ok { receiveCon := receiveCon
            receiveSequenceNumber := (octet₀ >>> 2) &&& 0x3F
            sendCon := sendCon
            sendSequenceNumber := (octet₁ >>> 2) &&& 0x3F }

/-- The payload of a command, from its position in the buffer. -/
def SdoCommand.payloadChecked (buffer : List UInt8) (header : CommandLayerHeader)
    (dataSize : Option UInt32) (payloadOffset : ℕ) : Option (Except PowerlinkError SdoCommand) :=
  if buffer.length < payloadOffset + header.segmentSize.toNat then some (.error .bufferTooShort)
  else do
    let payload ← slice buffer payloadOffset (payloadOffset + header.segmentSize.toNat)
    some (.ok ⟨header, dataSize, payload⟩)

/-- `SdoCommand::deserialize` with its reads checked. -/
def SdoCommand.deserializeChecked (buffer : List UInt8) :
    Option (Except PowerlinkError SdoCommand) :=
  if buffer.length < 8 then some (.error .bufferTooShort)
  else do
    let transactionId ← buffer[1]?
    let flags ← buffer[2]?
    match Segmentation.tryFrom ((flags >>> 6) &&& 3) with
    | .error e => some (.error e)
    | .ok segmentation => do
        let cid ← buffer[3]?
        match CommandId.tryFrom cid with
        | .error e => some (.error e)
        | .ok commandId => do
            let size ← slice buffer 4 6
            let header : CommandLayerHeader :=
              { transactionId := transactionId
                isResponse := decide (flags &&& 0x10 ≠ 0)
                isAborted := decide (flags &&& 0x20 ≠ 0)
                segmentation := segmentation
                commandId := commandId
                segmentSize := u16OfBytes size }
            if segmentation = .initiate then
              if buffer.length < 12 then some (.error .bufferTooShort)
              else do
                let dataSize ← slice buffer 8 12
                payloadChecked buffer header (some (u32OfBytes dataSize)) 12
            else payloadChecked buffer header none 8

/-- `PdoSdoCommand::deserialize` with its reads checked. -/
def PdoSdoCommand.deserializeChecked (buffer : List UInt8) :
    Option (Except PowerlinkError PdoSdoCommand) :=
  if buffer.length < 8 then some (.error .bufferTooShort)
  else do
    let _ ← slice buffer 0 1
    let seq ← buffer[0]?
    let transactionId ← buffer[1]?
    let flags ← buffer[2]?
    let validPayloadLength ← buffer[3]?
    let cid ← buffer[4]?
    match CommandId.tryFrom cid with
    | .error e => some (.error e)
    | .ok commandId => do
        let index ← slice buffer 5 7
        let subIndex ← buffer[7]?
        match Segmentation.tryFrom ((flags >>> 6) &&& 3) with
        | .error e => some (.error e)
        | .ok segmentation =>
            if buffer.length < 8 + validPayloadLength.toNat then some (.error .bufferTooShort)
            else do
              let data ← slice buffer 8 (8 + validPayloadLength.toNat)
              some (.ok
                { sequenceHeader := ⟨(seq >>> 2) &&& 0x3F, seq &&& 3⟩
                  transactionId := transactionId
                  isResponse := decide (flags &&& 0x10 ≠ 0)
                  isAborted := decide (flags &&& 0x20 ≠ 0)
                  segmentation := segmentation
                  commandId := commandId
                  index := u16OfBytes index
                  subIndex := subIndex
                  data := data })

/-- The decoder of the sequence header reads inside of the buffer. -/
theorem SequenceLayerHeader.deserializeChecked_eq (buffer : List UInt8) :
    deserializeChecked buffer = some (deserialize buffer) := by
  unfold deserializeChecked deserialize
  split_ifs with h
  · split
    · simp only [List.length_cons] at h
      omega
    · rfl
  · obtain ⟨b₀, b₁, b₂, b₃, rest, rfl⟩ := exists_four (Nat.not_lt.mp h)
    rfl

/-- The payload of a command reads inside of the buffer. -/
theorem SdoCommand.payloadChecked_eq (front rest : List UInt8) (header : CommandLayerHeader)
    (dataSize : Option UInt32) :
    payloadChecked (front ++ rest) header dataSize front.length =
      some (if rest.length < header.segmentSize.toNat then .error .bufferTooShort
        else .ok ⟨header, dataSize, rest.take header.segmentSize.toNat⟩) := by
  unfold payloadChecked
  rw [List.length_append]
  by_cases h : rest.length < header.segmentSize.toNat
  · rw [if_pos h, if_pos (by omega)]
  · rw [if_neg h, if_neg (by omega),
      slice_eq_some (by omega) (by rw [List.length_append]; omega), List.drop_left,
      Nat.add_sub_cancel_left]
    rfl

/-- The decoder of the command reads inside of the buffer. -/
theorem SdoCommand.deserializeChecked_eq (buffer : List UInt8) :
    deserializeChecked buffer = some (deserialize buffer) := by
  unfold deserializeChecked deserialize
  by_cases h : buffer.length < 8
  · rw [if_pos h]
    split
    · simp only [List.length_cons] at h
      omega
    · rfl
  · rw [if_neg h]
    obtain ⟨b₀, tid, flags, cid, s₀, s₁, b₆, b₇, rest, rfl⟩ := exists_eight (Nat.not_lt.mp h)
    have hsize : slice (b₀ :: tid :: flags :: cid :: s₀ :: s₁ :: b₆ :: b₇ :: rest) 4 6 =
        some [s₀, s₁] := slice_middle [b₀, tid, flags, cid] [s₀, s₁] (b₆ :: b₇ :: rest)
    simp only [List.getElem?_cons_succ, List.getElem?_cons_zero, hsize, bind, Option.bind,
      Except.bind]
    cases hseg : Segmentation.tryFrom ((flags >>> 6) &&& 3) with
    | error e => rfl
    | ok segmentation =>
        dsimp only
        cases hcid : CommandId.tryFrom cid with
        | error e => rfl
        | ok commandId =>
            dsimp only
            by_cases hinit : segmentation = .initiate
            · rw [if_pos hinit, if_pos hinit]
              by_cases hshort : (b₀ :: tid :: flags :: cid :: s₀ :: s₁ :: b₆ :: b₇ :: rest).length
                  < 12
              · rw [if_pos hshort]
                split
                · simp only [List.length_cons] at hshort
                  omega
                · rfl
              · rw [if_neg hshort]
                obtain ⟨d₀, d₁, d₂, d₃, data, rfl⟩ := exists_four (l := rest)
                  (by simp only [List.length_cons] at hshort; omega)
                have hdata : slice (b₀ :: tid :: flags :: cid :: s₀ :: s₁ :: b₆ :: b₇ ::
                    d₀ :: d₁ :: d₂ :: d₃ :: data) 8 12 = some [d₀, d₁, d₂, d₃] :=
                  slice_middle [b₀, tid, flags, cid, s₀, s₁, b₆, b₇] [d₀, d₁, d₂, d₃] data
                rw [hdata]
                exact payloadChecked_eq [b₀, tid, flags, cid, s₀, s₁, b₆, b₇, d₀, d₁, d₂, d₃] data
                  _ _
            · rw [if_neg hinit, if_neg hinit]
              exact payloadChecked_eq [b₀, tid, flags, cid, s₀, s₁, b₆, b₇] rest _ _

/-- The decoder of an embedded command reads inside of the buffer. -/
theorem PdoSdoCommand.deserializeChecked_eq (buffer : List UInt8) :
    deserializeChecked buffer = some (deserialize buffer) := by
  unfold deserializeChecked deserialize
  by_cases h : buffer.length < 8
  · rw [if_pos h]
    split
    · simp only [List.length_cons] at h
      omega
    · rfl
  · rw [if_neg h]
    obtain ⟨seq, tid, flags, length, cid, i₀, i₁, subIndex, rest, rfl⟩ :=
      exists_eight (Nat.not_lt.mp h)
    have hhead : slice (seq :: tid :: flags :: length :: cid :: i₀ :: i₁ :: subIndex :: rest) 0 1 =
        some [seq] :=
      slice_middle [] [seq] (tid :: flags :: length :: cid :: i₀ :: i₁ :: subIndex :: rest)
    have hindex : slice (seq :: tid :: flags :: length :: cid :: i₀ :: i₁ :: subIndex :: rest) 5 7 =
        some [i₀, i₁] :=
      slice_middle [seq, tid, flags, length, cid] [i₀, i₁] (subIndex :: rest)
    simp only [List.getElem?_cons_succ, List.getElem?_cons_zero, hhead, hindex, bind, Option.bind,
      Except.bind]
    cases hcid : CommandId.tryFrom cid with
    | error e => rfl
    | ok commandId =>
        dsimp only
        cases hseg : Segmentation.tryFrom ((flags >>> 6) &&& 3) with
        | error e => rfl
        | ok segmentation =>
            dsimp only
            by_cases hshort : rest.length < length.toNat
            · rw [if_pos hshort, if_pos (by simp only [List.length_cons]; omega)]
            · have hlong : ¬(seq :: tid :: flags :: length :: cid :: i₀ :: i₁ :: subIndex ::
                  rest).length < 8 + length.toNat := by
                simp only [List.length_cons]
                omega
              rw [if_neg hshort, if_neg hlong, slice_eq_some (by omega) (Nat.not_lt.mp hlong),
                Nat.add_sub_cancel_left]
              rfl

/-! ### The client connection -/

/-- An abort whose payload does not hold the abort code. -/
def SdoCommand.IsShortAbort (cmd : SdoCommand) : Prop :=
  cmd.header.isAborted = true ∧ cmd.payload.length < 4

/-- The read of an abort code fails exactly if the payload is too short. -/
theorem readCode_eq_none_iff {β : Type} (payload : List UInt8) (b : β) :
    (do let _ ← slice payload 0 4; some b) = none ↔ payload.length < 4 := by
  have hslice := slice_eq_none_iff payload 0 4
  cases hs : slice payload 0 4 with
  | none =>
      rw [hs] at hslice
      simpa using hslice
  | some code =>
      rw [hs] at hslice
      simpa using hslice

namespace SdoClientConnection

/-- `processResponse` with its reads checked. -/
def processResponseChecked (c : SdoClientConnection) (seqHeader : SequenceLayerHeader)
    (cmd : SdoCommand) : Option SdoClientConnection :=
  match c.state with
  | .downloadInProgress =>
      if c.totalSize ≤ c.offset then do
        match ← c.prepareNextJobCommandChecked with
        | (true, c') => some { c' with state := .established }
        | (false, c') => some { c' with state := .closed }
      else some c
  | _ => some (c.processResponse seqHeader cmd)

/-- `SdoClientConnection::handle_response` with its reads checked. -/
def handleResponseChecked (c : SdoClientConnection) (seqHeader : SequenceLayerHeader)
    (cmd : SdoCommand) : Option SdoClientConnection :=
  match c.lastSentCommand with
  | none => some c
  | some (lastSeq, _) =>
      if seqHeader.receiveSequenceNumber ≠ lastSeq.sendSequenceNumber then some c
      else
        let c := { c with lastSentCommand := none, deadlineUs := none, retriesLeft := 0 }
        if seqHeader.sendSequenceNumber = c.lastReceivedSequenceNumber then some c
        else if seqHeader.sendSequenceNumber ≠ nextSequence c.lastReceivedSequenceNumber then
          some { c with state := .closed }
        else
          let c := { c with lastReceivedSequenceNumber := seqHeader.sendSequenceNumber }
          if cmd.header.isAborted then do
            let _ ← slice cmd.payload 0 4
            some { c with state := .closed, currentJob := none }
          else c.processResponseChecked seqHeader cmd

/-- A command without the abort flag is processed without a panic. -/
theorem processResponseChecked_eq (c : SdoClientConnection) (seqHeader : SequenceLayerHeader)
    (cmd : SdoCommand) :
    c.processResponseChecked seqHeader cmd = some (c.processResponse seqHeader cmd) := by
  unfold processResponseChecked
  split
  · rename_i hstate
    rw [processResponse, hstate, prepareNextJobCommandChecked_eq]
    dsimp only [bind, Option.bind]
    split_ifs
    · rcases c.prepareNextJobCommand with ⟨_ | _, c'⟩
      · rfl
      · rfl
    · rfl
  · rfl

/-- The response is the next one of the server and acknowledges the frame that was sent last. -/
def Accepts (c : SdoClientConnection) (seqHeader : SequenceLayerHeader) : Prop :=
  c.Acknowledges seqHeader ∧
    seqHeader.sendSequenceNumber = nextSequence c.lastReceivedSequenceNumber

/-- A connection panics exactly at an accepted abort that is too short. -/
theorem handleResponseChecked_eq_none_iff (c : SdoClientConnection)
    (seqHeader : SequenceLayerHeader) (cmd : SdoCommand) :
    c.handleResponseChecked seqHeader cmd = none ↔ c.Accepts seqHeader ∧ cmd.IsShortAbort := by
  unfold handleResponseChecked Accepts Acknowledges
  cases hsent : c.lastSentCommand with
  | none => simp
  | some frame =>
      dsimp only
      by_cases hack : seqHeader.receiveSequenceNumber = frame.1.sendSequenceNumber
      · by_cases hnext : seqHeader.sendSequenceNumber = nextSequence c.lastReceivedSequenceNumber
        · have hnew : seqHeader.sendSequenceNumber ≠ c.lastReceivedSequenceNumber := by
            rw [hnext]
            exact nextSequence_ne _
          rw [if_neg (not_not.mpr hack), if_neg hnew, if_neg (not_not.mpr hnext)]
          by_cases habort : cmd.header.isAborted = true
          · rw [if_pos habort, readCode_eq_none_iff]
            simp [SdoCommand.IsShortAbort, habort, hack, hnext]
          · rw [if_neg habort, processResponseChecked_eq]
            simp [SdoCommand.IsShortAbort, habort]
        · rw [if_neg (not_not.mpr hack)]
          split_ifs <;> simp [hnext]
      · rw [if_pos hack]
        simp [hack]

/-- A connection that does not panic behaves as modelled. -/
theorem handleResponseChecked_eq (c : SdoClientConnection) (seqHeader : SequenceLayerHeader)
    (cmd : SdoCommand) :
    c.handleResponseChecked seqHeader cmd = c.handleResponse seqHeader cmd := by
  unfold handleResponseChecked handleResponse
  simp only [processResponseChecked_eq]
  by_cases hshort : cmd.payload.length < 4
  · have hslice : slice cmd.payload 0 4 = none := (slice_eq_none_iff _ _ _).mpr (.inr hshort)
    simp only [hslice, if_pos hshort]
    rfl
  · rw [slice_zero (Nat.not_lt.mp hshort)]
    simp only [if_neg hshort]
    rfl

end SdoClientConnection

/-! ### The client manager -/

namespace SdoClientManager

variable {σ : Type}

/-- `SdoClientManager::handle_response` with its reads checked. -/
def handleResponseChecked (m : SdoClientManager) (source : NodeId) (seq : SequenceLayerHeader)
    (cmd : SdoCommand) : Option SdoClientManager :=
  match m.connections.get? source with
  | none => some m
  | some conn => do
      let conn ← conn.handleResponseChecked seq cmd
      some { m with
        connections := if conn.isClosed then m.connections.erase source
          else m.connections.insert source conn }

theorem handleResponseChecked_eq (m : SdoClientManager) (source : NodeId)
    (seq : SequenceLayerHeader) (cmd : SdoCommand) :
    m.handleResponseChecked source seq cmd = m.handleResponse source seq cmd := by
  unfold handleResponseChecked handleResponse
  cases m.connections.get? source with
  | none => rfl
  | some conn =>
      dsimp only
      rw [SdoClientConnection.handleResponseChecked_eq]

/-- The branch of `process_asnd_frame` for SDO responses, with its reads checked. -/
def receiveChecked (m : SdoClientManager) (source : NodeId) (payload : List UInt8) :
    Option SdoClientManager :=
  if payload.length < 8 then some m
  else do
    let header ← slice payload 0 4
    match ← SequenceLayerHeader.deserializeChecked header with
    | .error _ => some m
    | .ok seqHeader => do
        let command ← slice payload 4 payload.length
        match ← SdoCommand.deserializeChecked command with
        | .error _ => some m
        | .ok cmd => m.handleResponseChecked source seqHeader cmd

/-- The payload is a response that the connection to its source accepts, and an abort that is too
short. -/
def ReceivesShortAbort (m : SdoClientManager) (source : NodeId) (payload : List UInt8) : Prop :=
  ∃ conn seqHeader cmd, m.connections.get? source = some conn ∧
    8 ≤ payload.length ∧ SequenceLayerHeader.deserialize (payload.take 4) = .ok seqHeader ∧
      SdoCommand.deserialize (payload.drop 4) = .ok cmd ∧
        conn.Accepts seqHeader ∧ cmd.IsShortAbort

/-- The manager panics exactly at an accepted abort that is too short. -/
theorem receiveChecked_eq_none_iff (m : SdoClientManager) (source : NodeId)
    (payload : List UInt8) :
    m.receiveChecked source payload = none ↔ m.ReceivesShortAbort source payload := by
  unfold receiveChecked ReceivesShortAbort
  by_cases hlength : payload.length < 8
  · simp [if_pos hlength, Nat.not_le.mpr hlength]
  · have hcommand : slice payload 4 payload.length = some (payload.drop 4) := by
      rw [slice_eq_some (by omega) (Nat.le_refl _), List.take_of_length_le]
      rw [List.length_drop]
    rw [if_neg hlength, slice_zero (by omega), hcommand]
    dsimp only [bind, Option.bind]
    rw [SequenceLayerHeader.deserializeChecked_eq]
    cases SequenceLayerHeader.deserialize (payload.take 4) with
    | error e => simp
    | ok seqHeader =>
        dsimp only
        rw [SdoCommand.deserializeChecked_eq]
        cases SdoCommand.deserialize (payload.drop 4) with
        | error e => simp
        | ok cmd =>
            unfold handleResponseChecked
            cases m.connections.get? source with
            | none => simp
            | some conn =>
                have hconn := conn.handleResponseChecked_eq_none_iff seqHeader cmd
                dsimp only [bind]
                rw [Option.bind_eq_none_iff]
                cases hc : conn.handleResponseChecked seqHeader cmd with
                | none =>
                    rw [hc] at hconn
                    simpa [Nat.not_lt.mp hlength] using hconn
                | some conn' =>
                    rw [hc] at hconn
                    simpa [Nat.not_lt.mp hlength] using hconn

/-- A call of the manager, or the payload of an SDO frame for it. -/
inductive Call (σ : Type) where
  | readObjectByIndex (target : NodeId) (index : UInt16) (subIndex : UInt8) (time : ℕ)
      (od : ObjectDictionary σ)
  | writeObjectByIndex (target : NodeId) (index : UInt16) (subIndex : UInt8) (data : List UInt8)
      (time : ℕ) (od : ObjectDictionary σ)
  | startConfigurationDownload (target : NodeId) (dcfData : List UInt8) (currentTimeUs : ℕ)
      (od : ObjectDictionary σ)
  | getPendingRequest (time : ℕ) (od : ObjectDictionary σ)
  | tick (time : ℕ) (od : ObjectDictionary σ)
  | receive (source : NodeId) (payload : List UInt8)

/-- The manager after a call; `none` is a panic. -/
def call (m : SdoClientManager) : Call σ → Option SdoClientManager
  | .readObjectByIndex target index subIndex time od =>
      some (m.readObjectByIndex target index subIndex time od).2
  | .writeObjectByIndex target index subIndex data time od =>
      some (m.writeObjectByIndex target index subIndex data time od).2
  | .startConfigurationDownload target dcfData currentTimeUs od =>
      some (m.startConfigurationDownload target dcfData currentTimeUs od).2
  | .getPendingRequest time od => some (m.getPendingRequest time od).2
  | .tick time od => some (m.tick time od).2
  | .receive source payload => m.receiveChecked source payload

/-- The call is no abort that is too short. -/
def NoShortAbort (m : SdoClientManager) : Call σ → Prop
  | .receive source payload => ¬m.ReceivesShortAbort source payload
  | _ => True

theorem isSome_call_iff (m : SdoClientManager) (e : Call σ) :
    (m.call e).isSome = true ↔ m.NoShortAbort e := by
  cases e with
  | receive source payload =>
      rw [call, NoShortAbort, ← receiveChecked_eq_none_iff, Option.isSome_iff_ne_none]
  | _ => exact iff_of_true rfl trivial

end SdoClientManager

/-! ### The embedded client -/

namespace EmbeddedSdoClient

/-- `EmbeddedSdoClient::handle_response` with its reads checked. -/
def handleResponseChecked (client : EmbeddedSdoClient) (channelIndex : UInt16)
    (payload : List UInt8) : Option EmbeddedSdoClient :=
  match client.connections.get? channelIndex with
  | none => some client
  | some conn => do
      match ← PdoSdoCommand.deserializeChecked payload with
      | .error _ => some client
      | .ok response =>
          let seq := response.sequenceHeader.sequenceNumber
          let client' : EmbeddedSdoClient :=
            ⟨client.connections.insert channelIndex { conn with lastSequenceNumber := seq }⟩
          if seq ≠ (conn.nextSequenceNumber - 1) % 64 then some client
          else if response.isAborted then do
            let _ ← slice response.data 0 4
            some client'
          else some client'

theorem handleResponseChecked_eq (client : EmbeddedSdoClient) (channelIndex : UInt16)
    (payload : List UInt8) :
    client.handleResponseChecked channelIndex payload =
      client.handleResponse channelIndex payload := by
  unfold handleResponseChecked handleResponse
  cases client.connections.get? channelIndex with
  | none => rfl
  | some conn =>
      dsimp only [bind, Option.bind]
      rw [PdoSdoCommand.deserializeChecked_eq]
      cases PdoSdoCommand.deserialize payload with
      | error e => rfl
      | ok response =>
          dsimp only
          by_cases hshort : response.data.length < 4
          · rw [(slice_eq_none_iff _ _ _).mpr (.inr hshort), decide_eq_true hshort, Bool.and_true]
          · rw [slice_zero (Nat.not_lt.mp hshort), decide_eq_false hshort, Bool.and_false]
            simp

/-- The container answers the last request of its channel, and is an abort that is too short. -/
def ReceivesShortAbort (client : EmbeddedSdoClient) (channelIndex : UInt16)
    (payload : List UInt8) : Prop :=
  ∃ conn response, client.connections.get? channelIndex = some conn ∧
    PdoSdoCommand.deserialize payload = .ok response ∧
      response.sequenceHeader.sequenceNumber = (conn.nextSequenceNumber - 1) % 64 ∧
        response.isAborted = true ∧ response.data.length < 4

/-- The client panics exactly at an accepted abort that is too short. -/
theorem handleResponseChecked_eq_none_iff (client : EmbeddedSdoClient) (channelIndex : UInt16)
    (payload : List UInt8) : client.handleResponseChecked channelIndex payload = none ↔
      client.ReceivesShortAbort channelIndex payload := by
  unfold handleResponseChecked ReceivesShortAbort
  cases client.connections.get? channelIndex with
  | none => simp
  | some conn =>
      dsimp only [bind, Option.bind]
      rw [PdoSdoCommand.deserializeChecked_eq]
      cases PdoSdoCommand.deserialize payload with
      | error e => simp
      | ok response =>
          dsimp only
          by_cases hseq : response.sequenceHeader.sequenceNumber =
              (conn.nextSequenceNumber - 1) % 64
          · rw [if_neg (not_not.mpr hseq)]
            by_cases habort : response.isAborted = true
            · rw [if_pos habort]
              refine (readCode_eq_none_iff response.data _).trans ?_
              simp [hseq, habort]
            · simp [habort]
          · simp [hseq]

/-- A call of the client, or the contents of a container for it. -/
inductive Call where
  | queueRead (channelIndex index : UInt16) (subIndex : UInt8)
  | queueWrite (channelIndex index : UInt16) (subIndex : UInt8) (data : List UInt8)
  | getPendingRequest (channelIndex : UInt16) (containerLen : ℕ)
  | handleResponse (channelIndex : UInt16) (payload : List UInt8)

/-- The client after a call; `none` is a panic.  A request for another index is refused. -/
def call (client : EmbeddedSdoClient) : Call → Option EmbeddedSdoClient
  | .queueRead channelIndex index subIndex =>
      some ((client.queueRead channelIndex index subIndex).toOption.getD client)
  | .queueWrite channelIndex index subIndex data =>
      some ((client.queueWrite channelIndex index subIndex data).toOption.getD client)
  | .getPendingRequest channelIndex containerLen =>
      some (client.getPendingRequest channelIndex containerLen).2
  | .handleResponse channelIndex payload => client.handleResponseChecked channelIndex payload

/-- The call is no abort that is too short. -/
def NoShortAbort (client : EmbeddedSdoClient) : Call → Prop
  | .handleResponse channelIndex payload => ¬client.ReceivesShortAbort channelIndex payload
  | _ => True

theorem isSome_call_iff (client : EmbeddedSdoClient) (e : Call) :
    (client.call e).isSome = true ↔ client.NoShortAbort e := by
  cases e with
  | handleResponse channelIndex payload =>
      rw [call, NoShortAbort, ← handleResponseChecked_eq_none_iff, Option.isSome_iff_ne_none]
  | _ => exact iff_of_true rfl trivial

end EmbeddedSdoClient

/-! ### Runs -/

/-- No run from a new client panics exactly if no step of it receives an abort that the client
accepts and that is shorter than an abort code. -/
theorem responses_safe_iff {σ : Type} (managerCalls : List (SdoClientManager.Call σ))
    (embeddedCalls : List EmbeddedSdoClient.Call) :
    (Runs.Always (Runs.partialStep SdoClientManager.call) (fun m => m.isSome = true)
        (some .new) managerCalls ↔
      Runs.AllSteps (Runs.partialStep SdoClientManager.call)
        (fun m e => Runs.Reached (fun m => m.NoShortAbort e) m) (some .new) managerCalls) ∧
    (Runs.Always (Runs.partialStep EmbeddedSdoClient.call) (fun client => client.isSome = true)
        (some .new) embeddedCalls ↔
      Runs.AllSteps (Runs.partialStep EmbeddedSdoClient.call)
        (fun client e => Runs.Reached (fun client => client.NoShortAbort e) client)
        (some .new) embeddedCalls) :=
  ⟨Runs.always_isSome_iff SdoClientManager.isSome_call_iff _ _,
    Runs.always_isSome_iff EmbeddedSdoClient.isSome_call_iff _ _⟩

/-- A read that the server answers with the empty abort of its sequence handler. -/
def abortedRead : List (SdoClientManager.Call Empty) :=
  [.readObjectByIndex ⟨5⟩ 0x2000 0 0 (.new none),
    .getPendingRequest 0 (.new none),
    .receive ⟨5⟩ (SequenceLayerHeader.bytes ⟨0, .initialization, 0, .initialization⟩ ++
      SdoCommand.bytes ⟨{ isResponse := true }, none, []⟩),
    .getPendingRequest 0 (.new none),
    .receive ⟨5⟩ (SequenceLayerHeader.bytes ⟨1, .connectionValid, 1, .connectionValid⟩ ++
      SdoSequenceHandler.abortEcho.bytes)]

/-- The abort that this crate's own server sends makes the client panic. -/
theorem empty_abort_panics :
    ¬∀ managerCalls : List (SdoClientManager.Call Empty),
      Runs.Always (Runs.partialStep SdoClientManager.call) (fun m => m.isSome = true)
        (some .new) managerCalls := by
  intro h
  have hpanics : Runs.run (Runs.partialStep SdoClientManager.call) (some .new) abortedRead =
      none := by
    decide +kernel
  have hlast := (h abortedRead).last
  rw [hpanics] at hlast
  cases hlast

end Powerlink
