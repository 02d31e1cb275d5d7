import Powerlink.Sdo.Command

/-! # SDO transfers embedded in PDOs

The model of `sdo/embedded.rs`, `sdo/embedded_server.rs` and `sdo/embedded_client.rs`: the
containers that a PDO mapping can hold for an SDO channel.  A server channel answers one command
at a time against the dictionary and keeps the answer until the next outgoing PDO; a client
channel sends the commands queued by the application.  `EmbeddedSdoClient.handleResponse` returns
`none` where the code panics: it slices four octets of the data of every accepted abort. -/

namespace Powerlink

open LittleEndian

/-- `PdoSequenceLayerHeader`. -/
structure PdoSequenceLayerHeader where
  sequenceNumber : UInt8
  connectionState : UInt8
deriving DecidableEq, Repr

/-- `PdoSdoCommand`; the field `valid_payload_length` is the length of the data on the wire. -/
structure PdoSdoCommand where
  sequenceHeader : PdoSequenceLayerHeader
  transactionId : UInt8
  isResponse : Bool
  isAborted : Bool
  segmentation : Segmentation
  commandId : CommandId
  index : UInt16
  subIndex : UInt8
  data : List UInt8
deriving DecidableEq, Repr

namespace PdoSdoCommand

/-- `PdoSdoCommand::deserialize`. -/
def deserialize (buffer : List UInt8) : Except PowerlinkError PdoSdoCommand :=
  match buffer with
  | seq :: transactionId :: flags :: length :: cid :: i₀ :: i₁ :: subIndex :: rest => do
      let commandId ← CommandId.tryFrom cid
      let segmentation ← Segmentation.tryFrom ((flags >>> 6) &&& 3)
      if rest.length < length.toNat then .error .bufferTooShort
      else .ok { sequenceHeader := ⟨(seq >>> 2) &&& 0x3F, seq &&& 3⟩
                 transactionId := transactionId
                 isResponse := decide (flags &&& 0x10 ≠ 0)
                 isAborted := decide (flags &&& 0x20 ≠ 0)
                 segmentation := segmentation
                 commandId := commandId
                 index := u16OfBytes [i₀, i₁]
                 subIndex := subIndex
                 data := rest.take length.toNat }
  | _ => .error .bufferTooShort

/-- `PdoSdoCommand::serialize`. -/
def serialize (c : PdoSdoCommand) : List UInt8 :=
  [(c.sequenceHeader.sequenceNumber <<< 2) ||| c.sequenceHeader.connectionState,
    c.transactionId, SdoCommand.flags c.isResponse c.isAborted c.segmentation,
    UInt8.ofNat c.data.length, c.commandId.toByte] ++ u16Bytes c.index ++ [c.subIndex] ++ c.data

/-- The octet that carries the sequence number and the connection state. -/
def sequenceOctet (c : PdoSdoCommand) : UInt8 :=
  (c.sequenceHeader.sequenceNumber <<< 2) ||| c.sequenceHeader.connectionState

/-- What the receiver decodes from the octets of a command. -/
def decoded (c : PdoSdoCommand) : PdoSdoCommand :=
  { c with sequenceHeader := ⟨(c.sequenceOctet >>> 2) &&& 0x3F, c.sequenceOctet &&& 3⟩ }

/-- The wire has one octet for the length of the data. -/
theorem deserialize_serialize {c : PdoSdoCommand} (h : c.data.length < 256) :
    deserialize c.serialize = .ok c.decoded := by
  obtain ⟨i₀, i₁, hi⟩ : ∃ i₀ i₁, u16Bytes c.index = [i₀, i₁] := ⟨_, _, rfl⟩
  have hindex : u16OfBytes [i₀, i₁] = c.index := by rw [← hi, u16OfBytes_u16Bytes]
  have hlength : (UInt8.ofNat c.data.length).toNat = c.data.length :=
    UInt8.toNat_ofNat_of_lt' h
  unfold serialize deserialize
  rw [hi]
  simp only [List.cons_append, List.nil_append, SdoCommand.commandId_tryFrom_toByte,
    SdoCommand.segmentation_flags, SdoCommand.isResponse_flags, SdoCommand.isAborted_flags,
    hindex, hlength, bind, Except.bind]
  rw [if_neg (lt_irrefl _), List.take_length]
  rfl

end PdoSdoCommand

/-- The contents of a container: the payload, cut or padded to the length of the container. -/
def fillContainer (payload : List UInt8) (containerLen : ℕ) : List UInt8 :=
  payload.take containerLen ++ List.replicate (containerLen - payload.length) 0

@[simp] theorem length_fillContainer (payload : List UInt8) (containerLen : ℕ) :
    (fillContainer payload containerLen).length = containerLen := by
  simp only [fillContainer, List.length_append, List.length_take, List.length_replicate]
  omega

/-! ### The server channels -/

/-- `EmbeddedSdoConnection` of the server. -/
structure EmbeddedServerConnection where
  lastSequenceNumber : UInt8 := 0
  pendingResponse : Option (List UInt8) := none
deriving DecidableEq, Repr

/-- `EmbeddedSdoServer`. -/
structure EmbeddedSdoServer where
  connections : SortedMap UInt16 EmbeddedServerConnection
deriving DecidableEq

namespace EmbeddedSdoServer

variable {σ : Type}

/-- `EmbeddedSdoServer::new`. -/
def new : EmbeddedSdoServer := ⟨.empty⟩

/-- The abort code of a read or write of something that does not exist. -/
def missingCode (od : ObjectDictionary σ) (index : UInt16) : UInt32 :=
  if (od.readObject index).isNone then 0x06020000 else 0x06090011

/-- The abort code of a failed write. -/
def writeErrorCode : PowerlinkError → UInt32
  | .storageError "Object is read-only" => 0x06010002
  | .typeMismatch => 0x06070010
  | .validationError _ => 0x06090030
  | _ => 0x08000020

/-- The answer to a command: an abort code or the data to return. -/
def execute [ObjectDictionaryStorage σ] (req : PdoSdoCommand) (od : ObjectDictionary σ) :
    Except UInt32 (List UInt8) × ObjectDictionary σ :=
  match req.commandId with
  | .readByIndex =>
      match od.read req.index req.subIndex with
      | some value => (.ok value.serialize, od)
      | none => (.error (missingCode od req.index), od)
  | .writeByIndex =>
      match od.read req.index req.subIndex with
      | none => (.error (missingCode od req.index), od)
      | some template =>
          match ObjectValue.deserialize req.data template with
          | .error _ => (.error 0x06070010, od)
          | .ok value =>
              match od.write req.index req.subIndex value with
              | (.ok (), od') => (.ok [], od')
              | (.error e, od') => (.error (writeErrorCode e), od')
  | _ => (.error 0x05040001, od)

/-- `EmbeddedSdoServer::process_command`. -/
def processCommand [ObjectDictionaryStorage σ] (req : PdoSdoCommand) (od : ObjectDictionary σ)
    (responseSeqNum : UInt8) : List UInt8 × ObjectDictionary σ :=
  let response (connectionState : UInt8) (isAborted : Bool) (commandId : CommandId)
      (data : List UInt8) : PdoSdoCommand :=
    { sequenceHeader := ⟨responseSeqNum, connectionState⟩
      transactionId := req.transactionId
      isResponse := true
      isAborted := isAborted
      segmentation := .expedited
      commandId := commandId
      index := req.index
      subIndex := req.subIndex
      data := data }
  match execute req od with
  | (.error code, od') => ((response 3 true .nil (u32Bytes code)).serialize, od')
  | (.ok data, od') => ((response 2 false req.commandId data).serialize, od')

/-- `EmbeddedSdoServer::handle_request`. -/
def handleRequest [ObjectDictionaryStorage σ] (server : EmbeddedSdoServer) (channelIndex : UInt16)
    (payload : List UInt8) (od : ObjectDictionary σ) : EmbeddedSdoServer × ObjectDictionary σ :=
  let conn := (server.connections.get? channelIndex).getD {}
  let opened : EmbeddedSdoServer := ⟨server.connections.insert channelIndex conn⟩
  match PdoSdoCommand.deserialize payload with
  | .error _ => (opened, od)
  | .ok command =>
      let seq := command.sequenceHeader.sequenceNumber
      if seq = conn.lastSequenceNumber then (opened, od)
      else if seq ≠ (conn.lastSequenceNumber + 1) % 64 then (opened, od)
      else
        let r := processCommand command od seq
        (⟨server.connections.insert channelIndex ⟨seq, some r.1⟩⟩, r.2)

/-- `EmbeddedSdoServer::get_pending_response`. -/
def getPendingResponse (server : EmbeddedSdoServer) (channelIndex : UInt16) (containerLen : ℕ) :
    List UInt8 × EmbeddedSdoServer :=
  let conn := (server.connections.get? channelIndex).getD {}
  (match conn.pendingResponse with
    | some payload => fillContainer payload containerLen
    | none => List.replicate containerLen 0,
    ⟨server.connections.insert channelIndex { conn with pendingResponse := none }⟩)

/-- A response fills its container. -/
theorem length_getPendingResponse (server : EmbeddedSdoServer) (channelIndex : UInt16)
    (containerLen : ℕ) : (server.getPendingResponse channelIndex containerLen).1.length =
      containerLen := by
  dsimp only [getPendingResponse]
  split
  · exact length_fillContainer _ _
  · exact List.length_replicate

end EmbeddedSdoServer

/-! ### The client channels -/

/-- `SdoClientRequest`. -/
structure SdoClientRequest where
  commandId : CommandId
  index : UInt16
  subIndex : UInt8
  data : List UInt8
deriving DecidableEq, Repr

/-- `EmbeddedSdoConnection` of the client. -/
structure EmbeddedClientConnection where
  lastSequenceNumber : UInt8 := 0
  nextSequenceNumber : UInt8 := 0
  requestQueue : List SdoClientRequest := []
deriving DecidableEq, Repr

/-- `EmbeddedSdoClient`. -/
structure EmbeddedSdoClient where
  connections : SortedMap UInt16 EmbeddedClientConnection
deriving DecidableEq

namespace EmbeddedSdoClient

/-- `EmbeddedSdoClient::new`. -/
def new : EmbeddedSdoClient := ⟨.empty⟩

/-- The common part of `queue_read` and `queue_write`. -/
def queueRequest (client : EmbeddedSdoClient) (channelIndex : UInt16) (request : SdoClientRequest) :
    Except PowerlinkError EmbeddedSdoClient :=
  if ¬(0x1280 ≤ channelIndex ∧ channelIndex ≤ 0x12FF) then
    .error (.internalError "Invalid SDO client channel index")
  else
    let conn := (client.connections.get? channelIndex).getD {}
    .ok ⟨client.connections.insert channelIndex
      { conn with requestQueue := conn.requestQueue ++ [request] }⟩

/-- `EmbeddedSdoClient::queue_read`. -/
def queueRead (client : EmbeddedSdoClient) (channelIndex index : UInt16) (subIndex : UInt8) :
    Except PowerlinkError EmbeddedSdoClient :=
  client.queueRequest channelIndex ⟨.readByIndex, index, subIndex, []⟩

/-- `EmbeddedSdoClient::queue_write`. -/
def queueWrite (client : EmbeddedSdoClient) (channelIndex index : UInt16) (subIndex : UInt8)
    (data : List UInt8) : Except PowerlinkError EmbeddedSdoClient :=
  client.queueRequest channelIndex ⟨.writeByIndex, index, subIndex, data⟩

/-- `EmbeddedSdoClient::handle_response`; `none` is a panic. -/
def handleResponse (client : EmbeddedSdoClient) (channelIndex : UInt16) (payload : List UInt8) :
    Option EmbeddedSdoClient :=
  match client.connections.get? channelIndex with
  | none => some client
  | some conn =>
      match PdoSdoCommand.deserialize payload with
      | .error _ => some client
      | .ok response =>
          let seq := response.sequenceHeader.sequenceNumber
          if seq ≠ (conn.nextSequenceNumber - 1) % 64 then some client
          else if response.isAborted && decide (response.data.length < 4) then none
          else some
            ⟨client.connections.insert channelIndex { conn with lastSequenceNumber := seq }⟩

/-- The command of a queued request. -/
def requestCommand (request : SdoClientRequest) (sequenceNumber : UInt8) : PdoSdoCommand where
  sequenceHeader := ⟨sequenceNumber, 2⟩
  transactionId := 1
  isResponse := false
  isAborted := false
  segmentation := .expedited
  commandId := request.commandId
  index := request.index
  subIndex := request.subIndex
  data := request.data

/-- `EmbeddedSdoClient::get_pending_request`; a request that does not fit is dropped. -/
def getPendingRequest (client : EmbeddedSdoClient) (channelIndex : UInt16) (containerLen : ℕ) :
    List UInt8 × EmbeddedSdoClient :=
  let conn := (client.connections.get? channelIndex).getD {}
  match conn.requestQueue with
  | [] => (List.replicate containerLen 0, ⟨client.connections.insert channelIndex conn⟩)
  | request :: queue =>
      let payload := (requestCommand request conn.nextSequenceNumber).serialize
      (if containerLen < payload.length then List.replicate containerLen 0
        else fillContainer payload containerLen,
        ⟨client.connections.insert channelIndex
          { conn with
            nextSequenceNumber := (conn.nextSequenceNumber + 1) % 64
            requestQueue := queue }⟩)

/-- A request fills its container. -/
theorem length_getPendingRequest (client : EmbeddedSdoClient) (channelIndex : UInt16)
    (containerLen : ℕ) : (client.getPendingRequest channelIndex containerLen).1.length =
      containerLen := by
  dsimp only [getPendingRequest]
  split
  · exact List.length_replicate
  · dsimp only
    split_ifs
    · exact List.length_replicate
    · exact length_fillContainer _ _

end EmbeddedSdoClient

end Powerlink
