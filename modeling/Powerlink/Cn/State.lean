import Powerlink.Nmt.CnStateMachine
import Powerlink.Frame.DllCs
import Powerlink.Od.ErrorHistory
import Powerlink.Pdo.Handler

/-! # The state of a controlled node

The model of `node/cn/state.rs` and of the queue of SDO requests (`sdo/client.rs`): the context of
a controlled node and the payload of its PRes.

`CnContext` has the fields of the source and one more, `history`, which is not in the source and
which no function reads: the list of what happened so far, newest first.  It records the received
SoC frames and the timeouts that are delivered, so that a property of whole runs can refer to them.
The SDO client of `CoreNodeContext`, which only a controlled node uses, is a field of `CnContext`.

`none` is a panic, also of a subtraction or a multiplication that leaves the range of its type. -/

namespace Powerlink

/-- `SdoClient`. -/
structure SdoClient where
  pendingClientRequests : List (NodeId × List UInt8) := []
deriving DecidableEq, Repr

namespace SdoClient

/-- `SdoClient::queue_request`. -/
def queueRequest (c : SdoClient) (targetNodeId : NodeId) (payload : List UInt8) : SdoClient :=
  ⟨c.pendingClientRequests ++ [(targetNodeId, payload)]⟩

/-- `SdoClient::pop_pending_request`. -/
def popPendingRequest (c : SdoClient) : Option (NodeId × List UInt8) × SdoClient :=
  match c.pendingClientRequests with
  | [] => (none, c)
  | request :: requests => (some request, ⟨requests⟩)

/-- `SdoClient::pending_request_count_and_priority`; `PrioGenericRequest` is the default too. -/
def pendingRequestCountAndPriority (c : SdoClient) : UInt8 × PRFlag :=
  (UInt8.ofNat (min c.pendingClientRequests.length 7), .prioGenericRequest)

end SdoClient

/-- An entry of the history of a run. -/
inductive CnEvent where
  /-- A SoC is received while `previous` is the next tick. -/
  | socReceived (timeUs : ℕ) (previous : Option ℕ)
  /-- A `SocTimeout` is delivered to the data link layer, after a last SoC at `lastSocUs`. -/
  | socTimedOut (timeUs lastSocUs : ℕ)
  /-- The heartbeat of a node is overdue. -/
  | heartbeatTimedOut (nodeId : NodeId) (timeUs : ℕ)
deriving DecidableEq, Repr

/-- `CnContext`. -/
structure CnContext (σ : Type) where
  core : CoreNodeContext σ
  sdoClient : SdoClient
  nmtStateMachine : CnNmtStateMachine
  dllStateMachine : DllCsStateMachine
  dllErrorManager : CnErrorCounters
  pendingNmtRequests : List (CnNmtRequest × NodeId)
  emergencyQueue : List ErrorEntry
  heartbeatConsumers : SortedMap NodeId (ℕ × ℕ)
  lastSocReceptionTimeUs : ℕ
  socTimeoutCheckActive : Bool
  nextTickUs : Option ℕ
  enFlag : Bool
  ecFlag : Bool
  errorStatusChanged : Bool
  history : List CnEvent

namespace CnContext

variable {σ : Type}

/-- Adds an entry to the history. -/
def record (c : CnContext σ) (event : CnEvent) : CnContext σ :=
  { c with history := event :: c.history }

/-- `context.nmt_state_machine.current_state()`. -/
def nmtState (c : CnContext σ) : NmtState := c.nmtStateMachine.currentState

/-- `context.nmt_state_machine.node_id`. -/
def nodeId (c : CnContext σ) : NodeId := c.nmtStateMachine.nodeId

/-- `increment_counter` of a counter of an object. -/
def countIn (c : CnContext σ) (index : UInt16) (subIndex : UInt8) : CnContext σ :=
  { c with core := { c.core with od := c.core.od.incrementCounter index subIndex } }

/-- `increment_counter` of a telegram counter `0x1101`. -/
def count (c : CnContext σ) (subIndex : UInt8) : CnContext σ := c.countIn 0x1101 subIndex

/-- `increment_counter` of an error statistics counter `0x1102`. -/
def countError (c : CnContext σ) (subIndex : UInt8) : CnContext σ := c.countIn 0x1102 subIndex

/-- `queue_nmt_service_request`. -/
def queueNmtServiceRequest (c : CnContext σ) (service : NmtServiceRequest) (target : NodeId) :
    CnContext σ :=
  { c with pendingNmtRequests := c.pendingNmtRequests ++ [(.service service, target)] }

/-- `nmt_state_machine.process_event`. -/
def processNmtEvent [ObjectDictionaryStorage σ] (c : CnContext σ) (event : NmtEvent) :
    CnContext σ :=
  let r := c.nmtStateMachine.processEvent event c.core.od
  { c with nmtStateMachine := r.1, core := { c.core with od := r.2 } }

/-! ### The payload of the PRes -/

/-- The mapping entries of the TPDO; one that is not an `UNSIGNED64` is replaced by zero. -/
def tpdoEntries (od : ObjectDictionary σ) (numEntries : UInt8) : List PdoMappingEntry :=
  (List.range numEntries.toNat).map (fun i =>
    match od.read 0x1A00 (UInt8.ofNat (i + 1)) with
    | some (.unsigned64 raw) => .fromU64 raw
    | _ => .fromU64 0)

/-- `apply_tpdo_mapping_entry`.  The error of an entry behind the end of the payload computes
`(offset + length) as u16 * 8`. -/
def applyTpdoMappingEntry (core : CoreNodeContext σ) (payload : List UInt8)
    (entry : PdoMappingEntry) :
    Option (Except PowerlinkError (List UInt8) × CoreNodeContext σ) :=
  match entry.byteOffset, entry.byteLength with
  | some offset, some length =>
      if payload.length < offset + length then
        if (offset + length) % 65536 * 8 < 65536 then some (.error .bufferTooShort, core) else none
      else if isServerChannel entry.index then
        let r := core.embeddedSdoServer.getPendingResponse entry.index length
        some (.ok (overwrite payload offset r.1), { core with embeddedSdoServer := r.2 })
      else if isClientChannel entry.index then
        let r := core.embeddedSdoClient.getPendingRequest entry.index length
        some (.ok (overwrite payload offset r.1), { core with embeddedSdoClient := r.2 })
      else match core.od.read entry.index entry.subIndex with
        | none => some (.ok payload, core)
        | some value =>
            if value.serialize.length ≠ length then some (.error .typeMismatch, core)
            else some (.ok (overwrite payload offset value.serialize), core)
  | _, _ => some (.ok payload, core)

/-- The loop over the mapping entries. -/
def applyTpdoMapping : CoreNodeContext σ → List UInt8 → List PdoMappingEntry →
    Option (Except PowerlinkError (List UInt8) × CoreNodeContext σ)
  | core, payload, [] => some (.ok payload, core)
  | core, payload, entry :: entries =>
      match applyTpdoMappingEntry core payload entry with
      | none => none
      | some (.error e, core) => some (.error e, core)
      | some (.ok payload, core) => applyTpdoMapping core payload entries

/-- The configured size of the PRes payload. -/
def presPayloadLimit (od : ObjectDictionary σ) : ℕ := ((od.readU16 0x1F98 5).getD 36).toNat

/-- `CnContext::build_tpdo_payload`, on the core context. -/
def buildTpdoPayload (core : CoreNodeContext σ) :
    Option (Except PowerlinkError (List UInt8 × PDOVersion) × CoreNodeContext σ) :=
  let pdoVersion : PDOVersion := ⟨(core.od.readU8 0x1800 2).getD 0⟩
  let payload := List.replicate (min (presPayloadLimit core.od) 1490) 0
  let numEntries := (core.od.readU8 0x1A00 0).getD 0
  match applyTpdoMapping core payload (tpdoEntries core.od numEntries) with
  | none => none
  | some (.error e, core) => some (.error e, core)
  | some (.ok payload, core) => some (.ok (payload, pdoVersion), core)

/-- `consume_pdo_payload` of a controlled node.  The two errors of a payload change no counter of
either kind of node, so that the counters of a managing node stand in for those of this one. -/
def consumePdo [ObjectDictionaryStorage σ] (c : CnContext σ) (sourceNodeId : NodeId)
    (payload : List UInt8) (receivedVersion : PDOVersion) (isReady : Bool) :
    Option (CnContext σ) := do
  let r ← consumePdoPayload (c.core, {}) sourceNodeId payload receivedVersion isReady
  some { c with core := r.1 }

end CnContext

end Powerlink
