import Powerlink.Sdo.ClientConnection
import Powerlink.Sdo.Server
import Powerlink.Frame.Codec

/-! # The SDO client manager and the SDO transports

The model of `sdo/client_manager.rs`, which runs one client connection per target node, and of
the serialization of SDO frames for ASnd and UDP (`sdo/asnd.rs`, `sdo/udp.rs`,
`sdo/transport.rs`).

`serializeSdoAsndPayload` allocates the command buffer from an estimate that counts four octets
for the eight octets of the command header, as the source does; a command that does not fit is
an error there. -/

namespace Powerlink

/-- A frame of the client manager: the target, the sequence header and the command. -/
abbrev ClientFrame := NodeId × SequenceLayerHeader × SdoCommand

/-- `SdoClientManager`. -/
structure SdoClientManager where
  connections : SortedMap NodeId SdoClientConnection
  nextTransactionId : UInt8
deriving DecidableEq

namespace SdoClientManager

variable {σ : Type}

/-- `SdoClientManager::new`. -/
def new : SdoClientManager := ⟨.empty, 0⟩

/-- `SdoClientManager::get_next_tid`. -/
def getNextTid (m : SdoClientManager) : UInt8 :=
  if m.nextTransactionId + 1 = 0 then 1 else m.nextTransactionId + 1

/-- The connection to a node, new if there is none. -/
def connection (m : SdoClientManager) (target : NodeId) : SdoClientConnection :=
  (m.connections.get? target).getD (.new target)

/-- `SdoClientManager::start_configuration_download`. -/
def startConfigurationDownload (m : SdoClientManager) (target : NodeId) (dcfData : List UInt8)
    (currentTimeUs : ℕ) (od : ObjectDictionary σ) : Except PowerlinkError Unit × SdoClientManager :=
  let tid := m.getNextTid
  let r := (m.connection target).startConciseDcfJob dcfData tid currentTimeUs od
  (r.1, ⟨m.connections.insert target r.2, tid⟩)

/-- `SdoClientManager::read_object_by_index`. -/
def readObjectByIndex (m : SdoClientManager) (target : NodeId) (index : UInt16) (subIndex : UInt8)
    (time : ℕ) (od : ObjectDictionary σ) : Except PowerlinkError Unit × SdoClientManager :=
  let tid := m.getNextTid
  let r := (m.connection target).startReadJob index subIndex tid time od
  (r.1, ⟨m.connections.insert target r.2, tid⟩)

/-- `SdoClientManager::write_object_by_index`. -/
def writeObjectByIndex (m : SdoClientManager) (target : NodeId) (index : UInt16)
    (subIndex : UInt8) (data : List UInt8) (time : ℕ) (od : ObjectDictionary σ) :
    Except PowerlinkError Unit × SdoClientManager :=
  let tid := m.getNextTid
  let r := (m.connection target).startWriteJob index subIndex data tid time od
  (r.1, ⟨m.connections.insert target r.2, tid⟩)

/-- `SdoClientManager::handle_response`; `none` is a panic. -/
def handleResponse (m : SdoClientManager) (source : NodeId) (seq : SequenceLayerHeader)
    (cmd : SdoCommand) : Option SdoClientManager :=
  match m.connections.get? source with
  | none => some m
  | some conn => do
      let conn ← conn.handleResponse seq cmd
      some { m with
        connections := if conn.isClosed then m.connections.erase source
          else m.connections.insert source conn }

/-- One round of the loops of `tick` and `get_pending_request`. -/
def sweepConnection
    (act : SdoClientConnection → Option (SequenceLayerHeader × SdoCommand) × SdoClientConnection)
    (id : NodeId) (conn : SdoClientConnection) (acc : Option ClientFrame × List NodeId) :
    Except Empty (Option ClientFrame × List NodeId) × SdoClientConnection :=
  let r := match acc.1 with
    | some _ => (acc.1, conn)
    | none => ((act conn).1.map (fun out => (id, out)), (act conn).2)
  (.ok (r.1, if r.2.isClosed then acc.2 ++ [id] else acc.2), r.2)

/-- The loops of `tick` and `get_pending_request`: the connections act in key order until one has
a frame, and the closed ones are pruned. -/
def sweep (m : SdoClientManager)
    (act : SdoClientConnection → Option (SequenceLayerHeader × SdoCommand) × SdoClientConnection) :
    Option ClientFrame × SdoClientManager :=
  match m.connections.visit (sweepConnection act) (none, []) with
  | (.ok (res, prune), connections) =>
      (res, { m with connections := connections.eraseAll prune })
  | (.error e, _) => e.elim

/-- `SdoClientManager::tick`. -/
def tick (m : SdoClientManager) (time : ℕ) (od : ObjectDictionary σ) :
    Option ClientFrame × SdoClientManager :=
  m.sweep (fun conn => conn.tick time od)

/-- `SdoClientManager::get_pending_request`. -/
def getPendingRequest (m : SdoClientManager) (time : ℕ) (od : ObjectDictionary σ) :
    Option ClientFrame × SdoClientManager :=
  m.sweep (fun conn => conn.getPendingRequest time od)

/-- `SdoClientManager::next_action_time`. -/
def nextActionTime (m : SdoClientManager) : Option ℕ :=
  (m.connections.entries.filterMap (fun p => p.2.deadlineUs)).min?

end SdoClientManager

/-- The deadline of a transfer state. -/
def SdoServerState.deadline : SdoServerState → Option ℕ
  | .segmentedUpload state => state.deadlineUs
  | .segmentedDownload state => state.deadlineUs
  | _ => none

/-- `SdoServer::next_action_time`. -/
def SdoServer.nextActionTime {η : Type} (server : SdoServer η) : Option ℕ :=
  (server.connections.entries.filterMap (fun p => p.2.state.deadline)).min?

/-! ### Transports -/

/-- `serialize_sdo_asnd_payload`. -/
def serializeSdoAsndPayload (seqHeader : SequenceLayerHeader) (cmd : SdoCommand) :
    Except PowerlinkError (List UInt8) := do
  let estimatedSize := 4 + 4 + (if cmd.dataSize.isSome then 4 else 0) + cmd.payload.length
  let (seqBuf, _) ← seqHeader.serialize (List.replicate 4 0)
  let (cmdBuf, cmdLen) ← cmd.serialize (List.replicate (estimatedSize - 4) 0)
  .ok (seqBuf ++ cmdBuf.take cmdLen)

/-- `AsndTransport::build_response`. -/
def asndBuildResponse (isCn : Bool) (data : SdoResponseData) (macAddress : MacAddress)
    (nodeId : NodeId) : Except PowerlinkError NodeAction :=
  match data.clientInfo with
  | .asnd sourceNodeId sourceMac => do
      let sdoPayload ← serializeSdoAsndPayload data.seqHeader data.command
      serializeFrameAction isCn
        (.aSnd (.new macAddress sourceMac sourceNodeId nodeId .sdo sdoPayload))
  | .udp .. => .error (.internalError "Attempted to build ASnd response for UDP client")

/-- `serialize_sdo_udp_payload` into a buffer of the given length. -/
def serializeSdoUdpPayload (seqHeader : SequenceLayerHeader) (cmd : SdoCommand) (bufferLen : ℕ) :
    Except PowerlinkError (List UInt8) := do
  if bufferLen < 8 then .error .bufferTooShort
  else
    let (cmdBuf, cmdLen) ← cmd.serialize (List.replicate (bufferLen - 8) 0)
    .ok ([MessageType.aSnd.toByte, 0, 0, ServiceId.sdo.toByte] ++ seqHeader.bytes ++
      cmdBuf.take cmdLen)

/-- `UdpTransport::build_response`. -/
def udpBuildResponse (data : SdoResponseData) : Except PowerlinkError NodeAction :=
  match data.clientInfo with
  | .udp sourceIp sourcePort => do
      let payload ← serializeSdoUdpPayload data.seqHeader data.command 1500
      .ok (.sendUdp sourceIp sourcePort payload)
  | .asnd .. => .error (.internalError "Attempted to build UDP response for ASnd client")

/-- `deserialize_sdo_udp_payload`. -/
def deserializeSdoUdpPayload (buffer : List UInt8) :
    Except PowerlinkError (SequenceLayerHeader × SdoCommand) :=
  if buffer.length < 8 then .error .bufferTooShort
  else if buffer.getD 0 0 ≠ MessageType.aSnd.toByte then .error .invalidPlFrame
  else if buffer.getD 3 0 ≠ ServiceId.sdo.toByte then .error (.invalidServiceId (buffer.getD 3 0))
  else do
    let seqHeader ← SequenceLayerHeader.deserialize (buffer.drop 4)
    let cmd ← SdoCommand.deserialize (buffer.drop 8)
    .ok (seqHeader, cmd)

end Powerlink
