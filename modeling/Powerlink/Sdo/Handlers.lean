import Powerlink.Sdo.Sequence
import Powerlink.Sdo.Transfer

/-! # Command handlers

The connection record of `sdo/sequence_handler.rs` with its `reset` and `abort`, the client key
of `sdo/server.rs`, and the service handlers of `sdo/handlers.rs`.  A handler that takes
`&mut SdoSequenceHandler` returns the new connection; the write handlers also return the new
dictionary. -/

namespace Powerlink

open LittleEndian

/-- `SdoClientInfo`: the transport address of a client. -/
inductive SdoClientInfo where
  | asnd (sourceNodeId : NodeId) (sourceMac : MacAddress)
  | udp (sourceIp : IpAddress) (sourcePort : UInt16)
deriving DecidableEq, Repr

/-- The position of a client in the derived order of `SdoClientInfo`: first the transport, then
the fields in turn. -/
def SdoClientInfo.rank : SdoClientInfo → ℕ
  | .asnd n m => (((((n.id.toNat * 256 + m.b₀.toNat) * 256 + m.b₁.toNat) * 256 +
      m.b₂.toNat) * 256 + m.b₃.toNat) * 256 + m.b₄.toNat) * 256 + m.b₅.toNat
  | .udp a p => 256 ^ 7 + ((((a.b₀.toNat * 256 + a.b₁.toNat) * 256 + a.b₂.toNat) * 256 +
      a.b₃.toNat) * 65536 + p.toNat)

theorem SdoClientInfo.asnd_rank_lt (n : NodeId) (m : MacAddress) :
    (asnd n m).rank < 256 ^ 7 := by
  have := n.id.toNat_lt
  have := m.b₀.toNat_lt
  have := m.b₁.toNat_lt
  have := m.b₂.toNat_lt
  have := m.b₃.toNat_lt
  have := m.b₄.toNat_lt
  have := m.b₅.toNat_lt
  simp only [rank]
  omega

theorem SdoClientInfo.rank_injective : Function.Injective rank := by
  rintro (⟨n, m⟩ | ⟨a, p⟩) (⟨n', m'⟩ | ⟨a', p'⟩) h
  · simp only [rank] at h
    obtain ⟨h, h₅⟩ := digits_inj m.b₅.toNat_lt m'.b₅.toNat_lt h
    obtain ⟨h, h₄⟩ := digits_inj m.b₄.toNat_lt m'.b₄.toNat_lt h
    obtain ⟨h, h₃⟩ := digits_inj m.b₃.toNat_lt m'.b₃.toNat_lt h
    obtain ⟨h, h₂⟩ := digits_inj m.b₂.toNat_lt m'.b₂.toNat_lt h
    obtain ⟨h, h₁⟩ := digits_inj m.b₁.toNat_lt m'.b₁.toNat_lt h
    obtain ⟨h, h₀⟩ := digits_inj m.b₀.toNat_lt m'.b₀.toNat_lt h
    rw [UInt8.toNat_inj] at h h₀ h₁ h₂ h₃ h₄ h₅
    obtain ⟨n⟩ := n
    obtain ⟨m₀, m₁, m₂, m₃, m₄, m₅⟩ := m
    simp_all
  · have := asnd_rank_lt n m
    simp only [rank] at h this
    omega
  · have := asnd_rank_lt n' m'
    simp only [rank] at h this
    omega
  · simp only [rank, Nat.add_left_cancel_iff] at h
    obtain ⟨h, hport⟩ := digits_inj p.toNat_lt p'.toNat_lt h
    obtain ⟨h, h₃⟩ := digits_inj a.b₃.toNat_lt a'.b₃.toNat_lt h
    obtain ⟨h, h₂⟩ := digits_inj a.b₂.toNat_lt a'.b₂.toNat_lt h
    obtain ⟨h, h₁⟩ := digits_inj a.b₁.toNat_lt a'.b₁.toNat_lt h
    rw [UInt8.toNat_inj] at h h₁ h₂ h₃
    rw [UInt16.toNat_inj] at hport
    obtain ⟨a₀, a₁, a₂, a₃⟩ := a
    simp_all

instance : Ranked SdoClientInfo := ⟨SdoClientInfo.rank, SdoClientInfo.rank_injective⟩

/-- `SdoSequenceHandler`: one server-side SDO connection. -/
structure SdoSequenceHandler where
  state : SdoServerState
  sendSequenceNumber : UInt8
  lastReceivedSequenceNumber : UInt8
  clientInfo : SdoClientInfo
deriving DecidableEq, Repr

namespace SdoSequenceHandler

/-- `SdoSequenceHandler::new`. -/
def new (clientInfo : SdoClientInfo) : SdoSequenceHandler where
  state := .closed
  sendSequenceNumber := 0
  lastReceivedSequenceNumber := 63
  clientInfo := clientInfo

/-- `SdoSequenceHandler::is_closed`. -/
def isClosed (h : SdoSequenceHandler) : Bool := decide (h.state = .closed)

/-- `SdoSequenceHandler::reset`. -/
def reset (h : SdoSequenceHandler) : SdoSequenceHandler :=
  { h with state := .closed, sendSequenceNumber := 0, lastReceivedSequenceNumber := 63 }

/-- `SdoSequenceHandler::abort`: the abort command, and the connection after its reset. -/
def abort (h : SdoSequenceHandler) (transactionId : UInt8) (abortCode : UInt32) :
    SdoCommand × SdoSequenceHandler :=
  (SdoCommand.abortResponse transactionId abortCode, h.reset)

end SdoSequenceHandler

namespace Handlers

variable {σ : Type}

/-- The abort code for a request payload that does not parse. -/
def payloadAbortCode : PowerlinkError → UInt32
  | .sdoInvalidCommandPayload => 0x05040001
  | _ => 0x08000000

/-- The abort code for a value that cannot be read. -/
def readAbortCode (od : ObjectDictionary σ) (index : UInt16) : UInt32 :=
  if (od.readObject index).isNone then 0x06020000 else 0x06090011

/-- The transfer state of a new upload. -/
def newUpload (transactionId : UInt8) (payload : List UInt8) (index : UInt16)
    (subIndex : UInt8) : SdoTransferState where
  transactionId := transactionId
  totalSize := payload.length
  dataBuffer := payload
  offset := 0
  index := index
  subIndex := subIndex
  deadlineUs := none
  retransmissionsLeft := 0
  lastSentSegment := none

/-- The common end of the read handlers: the data in one expedited response, or the first
segment of an upload. -/
def respond (handler : SdoSequenceHandler) (command : SdoCommand)
    (responseHeader : CommandLayerHeader) (od : ObjectDictionary σ) (currentTimeUs : ℕ)
    (payload : List UInt8) (index : UInt16) (subIndex : UInt8) :
    SdoCommand × SdoSequenceHandler :=
  if payload.length ≤ maxExpeditedPayload then
    (⟨{ responseHeader with segmentSize := UInt16.ofNat payload.length }, none, payload⟩, handler)
  else
    let (responseCommand, isLast, transferState) :=
      (newUpload command.header.transactionId payload index subIndex).getNextUploadSegment
        od currentTimeUs
    (responseCommand,
      if isLast then handler else { handler with state := .segmentedUpload transferState })

/-- `handle_read_by_index`. -/
def handleReadByIndex (handler : SdoSequenceHandler) (command : SdoCommand)
    (responseHeader : CommandLayerHeader) (od : ObjectDictionary σ) (currentTimeUs : ℕ) :
    SdoCommand × SdoSequenceHandler :=
  match ReadByIndexRequest.fromPayload command.payload with
  | .ok req =>
      match od.read req.index req.subIndex with
      | some value =>
          respond handler command responseHeader od currentTimeUs value.serialize
            req.index req.subIndex
      | none => handler.abort command.header.transactionId (readAbortCode od req.index)
  | .error e => handler.abort command.header.transactionId (payloadAbortCode e)

/-- `handle_read_by_name`: the read by index of the named object. -/
def handleReadByName (handler : SdoSequenceHandler) (command : SdoCommand)
    (responseHeader : CommandLayerHeader) (od : ObjectDictionary σ) (currentTimeUs : ℕ) :
    SdoCommand × SdoSequenceHandler :=
  match ReadByNameRequest.fromPayload command.payload with
  | .ok name =>
      match od.findByName name with
      | some (index, subIndex) =>
          handleReadByIndex handler
            { command with
              payload := u16Bytes index ++ [subIndex, 0]
              header := { command.header with segmentSize := 4 } }
            responseHeader od currentTimeUs
      | none => handler.abort command.header.transactionId 0x060A0023
  | .error e => handler.abort command.header.transactionId (payloadAbortCode e)

/-- The loop of `handle_read_all_by_index`: the values of `n` elements from the `i`-th on. -/
def readElements (od : ObjectDictionary σ) (index : UInt16) :
    ℕ → ℕ → List UInt8 → Option (List UInt8)
  | _, 0, payload => some payload
  | i, n + 1, payload =>
      match od.read index (UInt8.ofNat (i + 1)) with
      | some value => readElements od index (i + 1) n (payload ++ value.serialize)
      | none => none

/-- `handle_read_all_by_index`. -/
def handleReadAllByIndex (handler : SdoSequenceHandler) (command : SdoCommand)
    (responseHeader : CommandLayerHeader) (od : ObjectDictionary σ) (currentTimeUs : ℕ) :
    SdoCommand × SdoSequenceHandler :=
  match command.payload with
  | i₀ :: i₁ :: _ =>
      let index := u16OfBytes [i₀, i₁]
      match od.readObject index with
      | some (.record subIndices) | some (.array subIndices) =>
          match readElements od index 0 subIndices.length [] with
          | some payload => respond handler command responseHeader od currentTimeUs payload index 0
          | none => handler.abort command.header.transactionId 0x06090011
      | some (.variable _) => handler.abort command.header.transactionId 0x06090030
      | none => handler.abort command.header.transactionId 0x06020000
  | _ => handler.abort command.header.transactionId 0x05040001

/-- The zero octets that align a payload to a multiple of four. -/
def padding (payload : List UInt8) : List UInt8 :=
  List.replicate ((4 - payload.length % 4) % 4) 0

/-- The loop of `handle_read_multiple_params`: the answered entries, or an abort code. -/
def readParams (od : ObjectDictionary σ) :
    List MultipleParamEntry → List UInt8 → Except UInt32 (List UInt8)
  | [], payload => .ok payload
  | entry :: rest, payload =>
      match od.read entry.index entry.subIndex with
      | some value =>
          let data := value.serialize
          let extended := payload ++ [0, 0] ++ u16Bytes (UInt16.ofNat data.length) ++ data
          readParams od rest (extended ++ padding extended)
      | none => .error (readAbortCode od entry.index)

/-- `handle_read_multiple_params`. -/
def handleReadMultipleParams (handler : SdoSequenceHandler) (command : SdoCommand)
    (responseHeader : CommandLayerHeader) (od : ObjectDictionary σ) (currentTimeUs : ℕ) :
    SdoCommand × SdoSequenceHandler :=
  match ReadMultipleParamRequest.fromPayload command.payload with
  | .ok entries =>
      match readParams od entries [] with
      | .ok payload =>
          respond handler command responseHeader od currentTimeUs
            (u32Bytes (UInt32.ofNat entries.length) ++ payload) 0 0
      | .error abortCode => handler.abort command.header.transactionId abortCode
  | .error e => handler.abort command.header.transactionId (payloadAbortCode e)

/-- `handle_max_segment_size`. -/
def handleMaxSegmentSize (command : SdoCommand) (responseHeader : CommandLayerHeader) :
    SdoCommand :=
  let maxSizeClient := match command.payload with
    | s₀ :: s₁ :: _ => u16OfBytes [s₀, s₁]
    | _ => 0
  ⟨{ responseHeader with segmentSize := 4 }, none,
    u16Bytes maxSizeClient ++ u16Bytes (UInt16.ofNat maxExpeditedPayload)⟩

variable [ObjectDictionaryStorage σ]

/-- The transfer state of an expedited write. -/
def expeditedWrite (command : SdoCommand) (req : WriteByIndexRequest) : SdoTransferState where
  transactionId := command.header.transactionId
  totalSize := req.data.length
  dataBuffer := req.data
  offset := req.data.length
  index := req.index
  subIndex := req.subIndex
  deadlineUs := none
  retransmissionsLeft := 0
  lastSentSegment := none

/-- The transfer state of a new download. -/
def newDownload (command : SdoCommand) (req : WriteByIndexRequest) (totalSize deadlineUs : ℕ) :
    SdoTransferState where
  transactionId := command.header.transactionId
  totalSize := totalSize
  dataBuffer := req.data
  offset := req.data.length
  index := req.index
  subIndex := req.subIndex
  deadlineUs := some deadlineUs
  retransmissionsLeft := 0
  lastSentSegment := none

/-- `handle_write_by_index`. -/
def handleWriteByIndex (handler : SdoSequenceHandler) (command : SdoCommand)
    (responseHeader : CommandLayerHeader) (od : ObjectDictionary σ) (currentTimeUs : ℕ) :
    (SdoCommand × SdoSequenceHandler) × ObjectDictionary σ :=
  match command.header.segmentation with
  | .expedited =>
      match WriteByIndexRequest.fromPayload command.payload with
      | .ok req =>
          match (expeditedWrite command req).performOdWrite od with
          | (.ok (), od') => ((⟨responseHeader, none, []⟩, handler), od')
          | (.error abortCode, od') =>
              (handler.abort command.header.transactionId abortCode, od')
      | .error e => (handler.abort command.header.transactionId (payloadAbortCode e), od)
  | .initiate =>
      match WriteByIndexRequest.fromPayload command.payload with
      | .ok req =>
          let totalSize := (command.dataSize.getD 0).toNat
          if totalSize = 0 then (handler.abort command.header.transactionId 0x06070010, od)
          else
            ((⟨responseHeader, none, []⟩,
              { handler with
                state := .segmentedDownload
                  (newDownload command req totalSize (currentTimeUs + sdoTimeoutUs od)) }), od)
      | .error e => (handler.abort command.header.transactionId (payloadAbortCode e), od)
  | .segment | .complete =>
      match handler.state with
      | .segmentedDownload transferState =>
          if transferState.transactionId ≠ command.header.transactionId then
            (handler.abort command.header.transactionId 0x08000000, od)
          else match transferState.processDownloadSegment command od currentTimeUs with
            | (.ok true, _, od') =>
                ((⟨responseHeader, none, []⟩, { handler with state := .established }), od')
            | (.ok false, transferState', od') =>
                ((⟨responseHeader, none, []⟩,
                  { handler with state := .segmentedDownload transferState' }), od')
            | (.error abortCode, _, od') =>
                (handler.abort command.header.transactionId abortCode, od')
      | _ => (handler.abort command.header.transactionId 0x05040003, od)

/-- `handle_write_by_name`: the write by index of the named object. -/
def handleWriteByName (handler : SdoSequenceHandler) (command : SdoCommand)
    (responseHeader : CommandLayerHeader) (od : ObjectDictionary σ) (currentTimeUs : ℕ) :
    (SdoCommand × SdoSequenceHandler) × ObjectDictionary σ :=
  match WriteByNameRequest.fromPayload command.payload with
  | .ok req =>
      match od.findByName req.name with
      | some (index, subIndex) =>
          let newPayload := u16Bytes index ++ [subIndex, 0] ++ req.data
          handleWriteByIndex handler
            { command with
              payload := newPayload
              header := { command.header with segmentSize := UInt16.ofNat newPayload.length } }
            responseHeader od currentTimeUs
      | none => (handler.abort command.header.transactionId 0x060A0023, od)
  | .error e => (handler.abort command.header.transactionId (payloadAbortCode e), od)

end Handlers

end Powerlink
