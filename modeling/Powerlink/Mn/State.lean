import Powerlink.Nmt.StateMachine
import Powerlink.Frame.Dll
import Powerlink.Pdo.Handler
import Powerlink.Sdo.ClientManager

/-! # The state of a managing node

The model of `node/mn/state.rs`: what the managing node tracks of every controlled node, the
phases of its cycle and its context.

`MnContext` has the fields of the source and one more, `history`, which is not in the source and
which no function reads: the list of what happened so far, newest first.  It records the
deadlines that are scheduled, the timeouts that are delivered, the frames of the cycle and those
built for a node, the changes of tracked states, the PRes frames that are handled and the
transitions of the NMT state, each with the values that it finds, so that a property of whole runs
can refer to them.

A `Vec` that is used as a stack keeps its order here: `push` appends and `pop` takes the last
element. -/

namespace Powerlink

instance : Ranked UInt8 where
  rank := UInt8.toNat
  rank_injective := fun _ _ => UInt8.toNat_inj.mp

instance : Ranked IpAddress where
  rank a := ((a.b₀.toNat * 256 + a.b₁.toNat) * 256 + a.b₂.toNat) * 256 + a.b₃.toNat
  rank_injective := by
    rintro ⟨a₀, a₁, a₂, a₃⟩ ⟨b₀, b₁, b₂, b₃⟩ h
    have := a₁.toNat_lt
    have := a₂.toNat_lt
    have := a₃.toNat_lt
    have := b₁.toNat_lt
    have := b₂.toNat_lt
    have := b₃.toNat_lt
    simp only at h
    rw [IpAddress.mk.injEq, ← UInt8.toNat_inj, ← UInt8.toNat_inj, ← UInt8.toNat_inj,
      ← UInt8.toNat_inj]
    omega

/-- `CnState`. -/
inductive CnState where
  | unknown
  | identified
  | preOperational
  | operational
  | stopped
  | missing
deriving DecidableEq, Repr

/-- The derived order of `CnState` is the order of the constructors. -/
instance : LE CnState := ⟨fun a b => a.ctorIdx ≤ b.ctorIdx⟩

instance : LT CnState := ⟨fun a b => a.ctorIdx < b.ctorIdx⟩

instance (a b : CnState) : Decidable (a ≤ b) := inferInstanceAs (Decidable (a.ctorIdx ≤ b.ctorIdx))

instance (a b : CnState) : Decidable (a < b) := inferInstanceAs (Decidable (a.ctorIdx < b.ctorIdx))

/-- `CnIdentity`. -/
structure CnIdentity where
  deviceType : UInt32
  vendorId : UInt32
  productCode : UInt32
  revisionNo : UInt32
  serialNo : UInt32
deriving DecidableEq, Repr

/-- `SdoState`. -/
inductive SdoState where
  | idle
  | inProgress
  | done
deriving DecidableEq, Repr

/-- `CnInfo`, with the values of `CnInfo::default`. -/
structure CnInfo where
  state : CnState := .unknown
  nmtState : NmtState := .nmtNotActive
  enFlag : Bool := false
  eaFlag : Bool := false
  communicationOk : Bool := false
  lastPresTimeUs : ℕ := 0
  dllErrors : ℕ := 0
  identity : Option CnIdentity := none
  sdoState : SdoState := .idle
deriving DecidableEq, Repr

/-- `CyclePhase`. -/
inductive CyclePhase where
  | idle
  | soCSent
  | isochronousPReq
  | isochronousDone
  | asynchronousSoA
  | awaitingMnAsyncSend
deriving DecidableEq, Repr

/-- `AsyncRequest`. -/
structure AsyncRequest where
  nodeId : NodeId
  priority : UInt8
deriving DecidableEq, Repr

/-- `BinaryHeap::pop`: a request of the greatest priority, here the first one in the queue; the
order among equal priorities is not specified. -/
def popAsyncRequest (queue : List AsyncRequest) : Option (AsyncRequest × List AsyncRequest) :=
  let request := queue.find? (fun r => queue.all (fun q => decide (q.priority ≤ r.priority)))
  request.map (fun r => (r, queue.erase r))

/-- `NmtCommandData`. -/
inductive NmtCommandData where
  | none
  | hostName (name : String)
  | flushArp (nodeId : NodeId)
deriving DecidableEq, Repr

/-- The methods of `ConfigurationInterface` that the managing node calls. -/
structure ConfigurationInterface where
  getConfiguration : UInt8 → Except PowerlinkError (List UInt8)
  isSoftwareUpdateRequired : UInt8 → UInt32 → UInt32 → Bool

/-- The tracked nodes. -/
abbrev NodeTable := SortedMap NodeId CnInfo

/-- The tracked state of a node, `Unknown` for a node that is not configured. -/
def NodeTable.state (nodes : NodeTable) (nodeId : NodeId) : CnState :=
  match nodes.get? nodeId with
  | some info => info.state
  | none => .unknown

/-- An entry of the history of a run. -/
inductive MnEvent where
  /-- A timeout is scheduled while `previous` is the next tick. -/
  | scheduled (event : DllMsEvent) (deadlineUs : ℕ) (previous : Option ℕ)
  /-- A timeout is delivered to the data link layer. -/
  | timedOut (event : DllMsEvent) (timeUs : ℕ)
  /-- A PReq or an NMT command for a node is built, or cannot be built. -/
  | built (nodeId : NodeId) (complete : Bool)
  /-- `advance_cycle_phase` builds a frame. -/
  | advanced (frame : PowerlinkFrame)
  /-- The awaited PRes of a node arrives. -/
  | answered (nodeId : NodeId)
  /-- An IdentResponse of a node passes the checks. -/
  | validated (nodeId : NodeId)
  /-- The tracked state of a node changes. -/
  | tracked (nodeId : NodeId) (info : CnInfo) (new : CnState)
  /-- A PRes is handled, while its source is tracked in `state`. -/
  | presReceived (nodeId : NodeId) (withinLimit : Bool) (state : CnState) (nmtState : NmtState)
  /-- The NMT state changes while the nodes are tracked in `nodes`. -/
  | transition (old new : NmtState) (nodes : NodeTable)

/-- `MnContext`. -/
structure MnContext (σ : Type) where
  core : CoreNodeContext σ
  configurationInterface : Option ConfigurationInterface
  nmtStateMachine : MnNmtStateMachine
  dllStateMachine : DllMsStateMachine
  dllErrorManager : MnErrorCounters
  cycleTimeUs : ℕ
  multiplexCycleLen : UInt8
  multiplexAssign : SortedMap NodeId UInt8
  publishConfig : SortedMap UInt8 ServiceId
  currentMultiplexCycle : UInt8
  nodeInfo : NodeTable
  mandatoryNodes : List NodeId
  isochronousNodes : List NodeId
  asyncOnlyNodes : List NodeId
  arpCache : SortedMap IpAddress MacAddress
  nextIsochNodeIdx : ℕ
  currentPhase : CyclePhase
  currentPolledCn : Option NodeId
  asyncRequestQueue : List AsyncRequest
  pendingErRequests : List NodeId
  pendingStatusRequests : List NodeId
  pendingNmtCommands : List (MnNmtCommandRequest × NodeId × NmtCommandData)
  mnAsyncSendQueue : List PowerlinkFrame
  sdoClientManager : SdoClientManager
  lastIdentPollNodeId : NodeId
  lastStatusPollNodeId : NodeId
  nextTickUs : Option ℕ
  pendingTimeoutEvent : Option DllMsEvent
  currentCycleStartTimeUs : ℕ
  initialOperationalActionsDone : Bool
  history : List MnEvent

namespace MnContext

variable {σ : Type}

/-- Adds an entry to the history. -/
def record (c : MnContext σ) (event : MnEvent) : MnContext σ :=
  { c with history := event :: c.history }

/-- `context.nmt_state_machine.current_state()`. -/
def nmtState (c : MnContext σ) : NmtState := c.nmtStateMachine.currentState

/-- `increment_counter` of a telegram counter `0x1101`. -/
def count (c : MnContext σ) (subIndex : UInt8) : MnContext σ :=
  { c with core := c.core.count subIndex }

/-- Assigns the tracked state of a node, if the node is configured. -/
def track (c : MnContext σ) (nodeId : NodeId) (new : CnState) : MnContext σ :=
  match c.nodeInfo.get? nodeId with
  | none => c
  | some info =>
      if info.state = new then c
      else { c with
        nodeInfo := c.nodeInfo.modify nodeId (fun info => { info with state := new })
        history := .tracked nodeId info new :: c.history }

/-- `nmt_state_machine.process_event` on the dictionary of the node. -/
def processNmtEvent [ObjectDictionaryStorage σ] (c : MnContext σ) (event : NmtEvent) :
    MnContext σ :=
  let r := c.nmtStateMachine.processEvent event c.core.od
  let c' := { c with nmtStateMachine := r.1, core := { c.core with od := r.2 } }
  if r.1.currentState = c.nmtState then c'
  else c'.record (.transition c.nmtState r.1.currentState c.nodeInfo)

end MnContext

/-- `ip_from_node_id`. -/
def ipFromNodeId (nodeId : NodeId) : IpAddress := ⟨192, 168, 100, nodeId.id⟩

theorem ipFromNodeId_injective : Function.Injective ipFromNodeId := by
  rintro ⟨a⟩ ⟨b⟩ h
  rw [ipFromNodeId, ipFromNodeId, IpAddress.mk.injEq] at h
  exact congrArg NodeId.mk h.2.2.2

end Powerlink
