import Powerlink.Mn.Branches
import Powerlink.Mn.Runs

/-! # The application interface of a managing node

The model of the public methods of `ManagingNode` (`node/mn/main.rs`) other than `run_cycle`: NMT
commands are queued for the own asynchronous slot, and SDO transfers are handed to the client
manager.

A run of calls takes these methods and `run_cycle` in any order. -/

namespace Powerlink

/-- An entry of `pending_nmt_commands`: the command, its target and its data. -/
abbrev NmtCommandEntry := MnNmtCommandRequest × NodeId × NmtCommandData

namespace MnContext

variable {σ : Type}

/-- Puts a command at the end of `pending_nmt_commands`. -/
def queueCommand (c : MnContext σ) (command : NmtCommandEntry) : MnContext σ :=
  { c with pendingNmtCommands := c.pendingNmtCommands ++ [command] }

/-- `ManagingNode::queue_nmt_state_command`. -/
def queueNmtStateCommand (c : MnContext σ) (command : NmtStateCommand) (target : NodeId) :
    MnContext σ :=
  c.queueCommand (.state command, target, .none)

/-- `ManagingNode::set_hostname`. -/
def setHostname (c : MnContext σ) (target : NodeId) (hostname : String) :
    Except PowerlinkError Unit × MnContext σ :=
  if 32 < hostname.utf8ByteSize then
    (.error (.validationError "Hostname exceeds 32 characters"), c)
  else if target = cAdrBroadcastNodeId then
    (.error (.validationError "NmtNetHostNameSet must be unicast"), c)
  else (.ok (), c.queueCommand (.managing .nmtNetHostNameSet, target, .hostName hostname))

/-- `ManagingNode::flush_arp_entry`. -/
def flushArpEntry (c : MnContext σ) (target : NodeId) : MnContext σ :=
  c.queueCommand (.managing .nmtFlushArpEntry, cAdrBroadcastNodeId, .flushArp target)

/-- `ManagingNode::read_object`. -/
def readObject (c : MnContext σ) (target : NodeId) (index : UInt16) (subIndex : UInt8)
    (currentTimeUs : ℕ) : Except PowerlinkError Unit × MnContext σ :=
  let r := c.sdoClientManager.readObjectByIndex target index subIndex currentTimeUs c.core.od
  (r.1, { c with sdoClientManager := r.2 })

/-- `ManagingNode::write_object`. -/
def writeObject (c : MnContext σ) (target : NodeId) (index : UInt16) (subIndex : UInt8)
    (data : List UInt8) (currentTimeUs : ℕ) : Except PowerlinkError Unit × MnContext σ :=
  let r := c.sdoClientManager.writeObjectByIndex target index subIndex data currentTimeUs c.core.od
  (r.1, { c with sdoClientManager := r.2 })

end MnContext

/-! ### Calls -/

/-- The calls of an application. -/
inductive MnCall where
  | runCycle (input : CycleInput)
  | queueNmtStateCommand (command : NmtStateCommand) (target : NodeId)
  | setHostname (target : NodeId) (hostname : String)
  | flushArpEntry (target : NodeId)
  | readObject (target : NodeId) (index : UInt16) (subIndex : UInt8) (currentTimeUs : ℕ)
  | writeObject (target : NodeId) (index : UInt16) (subIndex : UInt8) (data : List UInt8)
      (currentTimeUs : ℕ)

namespace MnContext

variable {σ : Type} [ObjectDictionaryStorage σ]

/-- One call; the methods other than `run_cycle` return no action. -/
def call (c : MnContext σ) : MnCall → Option (NodeAction × MnContext σ)
  | .runCycle input => c.runCycle input
  | .queueNmtStateCommand command target => some (.noAction, c.queueNmtStateCommand command target)
  | .setHostname target hostname => some (.noAction, (c.setHostname target hostname).2)
  | .flushArpEntry target => some (.noAction, c.flushArpEntry target)
  | .readObject target index subIndex currentTimeUs =>
      some (.noAction, (c.readObject target index subIndex currentTimeUs).2)
  | .writeObject target index subIndex data currentTimeUs =>
      some (.noAction, (c.writeObject target index subIndex data currentTimeUs).2)

end MnContext

/-! ### Runs of calls -/

/-- A call that has returned. -/
structure ApiReturned (σ : Type) where
  before : MnContext σ
  call : MnCall
  action : NodeAction
  after : MnContext σ

/-- The state of a run of calls, with the newest call first. -/
structure ApiRun (σ : Type) where
  context : MnContext σ
  returned : List (ApiReturned σ)

namespace ApiRun

variable {σ : Type} [ObjectDictionaryStorage σ]

/-- The state before the first call. -/
def start (od : ObjectDictionary σ) (macAddress : MacAddress)
    (configurationInterface : Option ConfigurationInterface) : Option (ApiRun σ) :=
  (ManagingNode.new od macAddress configurationInterface).toOption.map (fun c => ⟨c, []⟩)

/-- One call. -/
def step (r : ApiRun σ) (call : MnCall) : Option (ApiRun σ) :=
  (r.context.call call).map (fun p => ⟨p.2, ⟨r.context, call, p.1, p.2⟩ :: r.returned⟩)

/-- The property holds in every state of every run. -/
def Throughout (P : ApiRun σ → Prop) : Prop :=
  ∀ (od : ObjectDictionary σ) (macAddress : MacAddress)
    (configurationInterface : Option ConfigurationInterface) (calls : List MnCall),
    Runs.Always (Runs.partialStep step) (Runs.Reached P)
      (start od macAddress configurationInterface) calls

/-- The invariant rule: what holds for a new node and is kept by every call holds throughout every
run. -/
theorem throughout_of_new {P : ApiRun σ → Prop}
    (hnew : ∀ (od : ObjectDictionary σ) mac cfg c, ManagingNode.new od mac cfg = .ok c → P ⟨c, []⟩)
    (hstep : ∀ (r : ApiRun σ) (call : MnCall) (action : NodeAction) (d : MnContext σ), P r →
      r.context.call call = some (action, d) →
      P ⟨d, ⟨r.context, call, action, d⟩ :: r.returned⟩) : Throughout P := by
  intro od mac cfg calls
  apply Runs.always_reached
  · intro r call r' hr hcall
    obtain ⟨⟨action, d⟩, hsome, rfl⟩ := Option.map_eq_some_iff.mp hcall
    exact hstep r call action d hr hsome
  · unfold start
    cases hc : ManagingNode.new od mac cfg with
    | ok c => exact hnew od mac cfg c hc
    | error e => trivial

/-- The invariant rule for properties that hold of any values of a new node. -/
theorem throughout_of_call {P : ApiRun σ → Prop}
    (hinitial : ∀ (od : ObjectDictionary σ) mac cfg machine cycleTimeUs lists publish,
      machine.currentState = .nmtNotActive →
      P ⟨.initial od mac cfg machine cycleTimeUs lists publish, []⟩)
    (hstep : ∀ (r : ApiRun σ) (call : MnCall) (action : NodeAction) (d : MnContext σ), P r →
      r.context.call call = some (action, d) →
      P ⟨d, ⟨r.context, call, action, d⟩ :: r.returned⟩) : Throughout P := by
  refine throughout_of_new (fun od mac cfg c hc => ?_) hstep
  obtain ⟨od', machine, cycleTimeUs, lists, publish, hstate, -, rfl⟩ := ManagingNode.new_eq hc
  exact hinitial od' mac cfg machine cycleTimeUs lists publish hstate

theorem Throughout.mono {P Q : ApiRun σ → Prop} (h : ∀ r, P r → Q r) (hP : Throughout P) :
    Throughout Q :=
  fun od mac cfg calls => (hP od mac cfg calls).mono (Runs.Reached.mono h)

theorem Throughout.and {P Q : ApiRun σ → Prop} (hP : Throughout P) (hQ : Throughout Q) :
    Throughout (fun r => P r ∧ Q r) :=
  fun od mac cfg calls => ((hP od mac cfg calls).and (hQ od mac cfg calls)).mono Runs.Reached.and

end ApiRun

end Powerlink
