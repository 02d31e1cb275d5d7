import Powerlink.Lib.Runs
import Powerlink.Cn.Node

/-! # Runs of a controlled node

A run starts with `ControlledNode::new` and takes one call of the application after the other: a
call of `run_cycle` with any received bytes at any time, a request that is queued, or the event
`CnConfigurationComplete` that the application hands to the public state machine.  Its state is the
context and everything that was returned so far; a run ends where the node could not be created or
has panicked.

`throughout_of_call` is the invariant rule for such runs. -/

namespace Powerlink

variable {σ : Type} [ObjectDictionaryStorage σ]

/-- The calls that an application can make. -/
inductive CnCall where
  | runCycle (input : CycleInput)
  | queueSdoRequest (payload : List UInt8)
  | queueNmtRequest (command : NmtStateCommand) (target : NodeId)
  | configurationComplete

/-- One call; the methods other than `run_cycle` return no action. -/
def CnContext.call (c : CnContext σ) : CnCall → Option (NodeAction × CnContext σ)
  | .runCycle input => c.runCycle input
  | .queueSdoRequest payload =>
      some (.noAction, { c with sdoClient := c.sdoClient.queueRequest cAdrMnDefNodeId payload })
  | .queueNmtRequest command target =>
      some (.noAction,
        { c with pendingNmtRequests := c.pendingNmtRequests ++ [(.command command, target)] })
  | .configurationComplete => some (.noAction, c.processNmtEvent .cnConfigurationComplete)

/-- The time of a call. -/
def CnCall.timeUs : CnCall → Option ℕ
  | runCycle input => some input.currentTimeUs
  | _ => none

/-- A call that has returned. -/
structure CnReturned (σ : Type) where
  before : CnContext σ
  call : CnCall
  action : NodeAction
  after : CnContext σ

/-- The state of a run, with the newest call first. -/
structure CnRun (σ : Type) where
  context : CnContext σ
  returned : List (CnReturned σ)

namespace CnRun

/-- The state before the first call. -/
def start (od : ObjectDictionary σ) (macAddress : MacAddress) : Option (CnRun σ) :=
  (ControlledNode.new od macAddress).toOption.map (fun c => ⟨c, []⟩)

/-- One call. -/
def step (r : CnRun σ) (call : CnCall) : Option (CnRun σ) :=
  (r.context.call call).map (fun p => ⟨p.2, ⟨r.context, call, p.1, p.2⟩ :: r.returned⟩)

/-- The property holds in every state of every run. -/
def Throughout (P : CnRun σ → Prop) : Prop :=
  ∀ (od : ObjectDictionary σ) (macAddress : MacAddress) (calls : List CnCall),
    Runs.Always (Runs.partialStep step) (Runs.Reached P) (start od macAddress) calls

/-- The invariant rule: what holds for a new node and is kept by every call holds throughout every
run. -/
theorem throughout_of_new {P : CnRun σ → Prop}
    (hnew : ∀ (od : ObjectDictionary σ) mac c, ControlledNode.new od mac = .ok c → P ⟨c, []⟩)
    (hstep : ∀ (r : CnRun σ) (call : CnCall) (action : NodeAction) (d : CnContext σ), P r →
      r.context.call call = some (action, d) →
      P ⟨d, ⟨r.context, call, action, d⟩ :: r.returned⟩) : Throughout P := by
  intro od mac calls
  apply Runs.always_reached
  · intro r call r' hr hcall
    obtain ⟨⟨action, d⟩, hsome, rfl⟩ := Option.map_eq_some_iff.mp hcall
    exact hstep r call action d hr hsome
  · unfold start
    cases hc : ControlledNode.new od mac with
    | ok c => exact hnew od mac c hc
    | error e => trivial

/-- The invariant rule for properties that hold of any values of a new node. -/
theorem throughout_of_call {P : CnRun σ → Prop}
    (hinitial : ∀ (od : ObjectDictionary σ) mac machine consumers,
      P ⟨.initial od mac machine consumers, []⟩)
    (hstep : ∀ (r : CnRun σ) (call : CnCall) (action : NodeAction) (d : CnContext σ), P r →
      r.context.call call = some (action, d) →
      P ⟨d, ⟨r.context, call, action, d⟩ :: r.returned⟩) : Throughout P := by
  refine throughout_of_new (fun od mac c hc => ?_) hstep
  obtain ⟨od', machine, consumers, rfl⟩ := ControlledNode.new_eq hc
  exact hinitial od' mac machine consumers

theorem Throughout.mono {P Q : CnRun σ → Prop} (h : ∀ r, P r → Q r) (hP : Throughout P) :
    Throughout Q :=
  fun od mac calls => (hP od mac calls).mono (Runs.Reached.mono h)

theorem Throughout.and {P Q : CnRun σ → Prop} (hP : Throughout P) (hQ : Throughout Q) :
    Throughout (fun r => P r ∧ Q r) :=
  fun od mac calls => ((hP od mac calls).and (hQ od mac calls)).mono Runs.Reached.and

end CnRun

/-! ### Received frames of a run -/

/-- A dictionary without storage for a controlled node with the given node id and cycle time, no
tolerance and no timeout to `NmtBasicEthernet`; `heartbeats` are the entries of `0x1016`. -/
def cnDictionary (nodeId : UInt8) (cycleUs : UInt32) (heartbeats : List UInt32) :
    ObjectDictionary Empty where
  entries := SortedMap.empty
    |>.insert 0x1000 ⟨.variable (.unsigned32 0), "NMT_DeviceType_U32", none, none⟩
    |>.insert 0x1006 ⟨.variable (.unsigned32 cycleUs), "NMT_CycleLen_U32", none, none⟩
    |>.insert 0x1016
      ⟨.array (heartbeats.map .unsigned32), "NMT_ConsumerHeartbeatTime_AU32", none, none⟩
    |>.insert 0x1018 ⟨.record [.unsigned32 0], "NMT_IdentityObject_REC", none, none⟩
    |>.insert 0x1C14 ⟨.variable (.unsigned32 0), "DLL_CNLossOfSocTolerance_U32", none, none⟩
    |>.insert 0x1F82 ⟨.variable (.unsigned32 0), "NMT_FeatureFlags_U32", none, none⟩
    |>.insert 0x1F93 ⟨.record [.unsigned8 nodeId], "NMT_EPLNodeID_REC", none, none⟩
    |>.insert 0x1F99 ⟨.variable (.unsigned32 0), "NMT_CNBasicEthernetTimeout_U32", none, none⟩
  storage := none

/-- A call without a received frame. -/
def CnCall.idle (timeUs : ℕ) : CnCall := .runCycle ⟨none, none, timeUs⟩

/-- A call with a frame on the wire. -/
def CnCall.frame (frame : PowerlinkFrame) (timeUs : ℕ) : CnCall :=
  .runCycle ⟨some (frame.ethernetHeader.bytes ++ padPayload frame.bytes), none, timeUs⟩

/-- The SoC of a managing node. -/
def CnCall.soc (timeUs : ℕ) : CnCall :=
  .frame (.soc (.new ⟨0, 0, 0, 0, 0, 240⟩ {} ⟨0, 0⟩ ⟨0, 0⟩)) timeUs

end Powerlink
