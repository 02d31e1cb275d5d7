import Powerlink.Cn.Events
import Powerlink.Mn.Node

/-! # The controlled node

The model of `node/cn/tick.rs` and of `ControlledNode` (`node/cn/main.rs`).  `runCycle` is one call
of the application, with the arguments that a managing node takes too.  `none` stands for a panic. -/

namespace Powerlink

namespace CnContext

variable {σ : Type} [ObjectDictionaryStorage σ]

/-! ### The tick -/

omit [ObjectDictionaryStorage σ] in
/-- The timeouts of the SDO server. -/
def tickSdoServer (c : CnContext σ) (currentTimeUs : ℕ) : Option NodeAction × CnContext σ :=
  let r := c.core.sdoServer.tick currentTimeUs c.core.od
  let c := { c with core := { c.core with sdoServer := r.2 } }
  match r.1 with
  | .ok (some response) =>
      let c := c.count 7
      let result := match response.clientInfo with
        | .asnd .. => asndBuildResponse true response c.core.macAddress c.nodeId
        | .udp .. => udpBuildResponse response
      match result with
      | .ok action => (some action, c)
      | .error _ => (none, c)
  | _ => (none, c)

/-- One round of the heartbeat loop, with the nodes found overdue so far: the time of the last
heartbeat is set at the first tick and after a timeout. -/
def visitHeartbeat (currentTimeUs : ℕ) (nodeId : NodeId) (consumer : ℕ × ℕ)
    (timedOutNodes : List NodeId) : Except Unit (List NodeId) × (ℕ × ℕ) :=
  if consumer.2 = 0 then (.ok timedOutNodes, (consumer.1, currentTimeUs))
  else if 0 < consumer.1 then
    if currentTimeUs < consumer.2 then (.error (), consumer)
    else if consumer.1 < currentTimeUs - consumer.2 then
      (.ok (timedOutNodes ++ [nodeId]), (consumer.1, currentTimeUs))
    else (.ok timedOutNodes, consumer)
  else (.ok timedOutNodes, consumer)

/-- One heartbeat timeout; `true` where it ends the tick. -/
def handleHeartbeatTimeout (c : CnContext σ) (nodeId : NodeId) (currentTimeUs : ℕ) :
    Bool × CnContext σ :=
  let c := c.record (.heartbeatTimedOut nodeId currentTimeUs)
  let r := c.dllErrorManager.handleError (.heartbeatTimeout nodeId)
  let c := { c with dllErrorManager := r.2.2 }
  let c := if r.2.1 then
      let c := { c with errorStatusChanged := true }
      if c.errorRegister ≠ c.errorRegister ||| 1 then
        (c.countError 5).writeErrorRegister (c.errorRegister ||| 1)
      else c
    else c
  if r.1 ≠ .none then (true, c.resetAfterError) else (false, c)

/-- The loop over the nodes that are overdue. -/
def handleHeartbeatTimeouts : CnContext σ → List NodeId → ℕ → Bool × CnContext σ
  | c, [], _ => (false, c)
  | c, nodeId :: nodeIds, currentTimeUs =>
      match c.handleHeartbeatTimeout nodeId currentTimeUs with
      | (true, c) => (true, c)
      | (false, c) => handleHeartbeatTimeouts c nodeIds currentTimeUs

/-- The heartbeat check, from `NmtPreOperational2` on. -/
def tickHeartbeats (c : CnContext σ) (currentTimeUs : ℕ) : Option (Bool × CnContext σ) :=
  if .nmtPreOperational2 ≤ c.nmtState then
    match c.heartbeatConsumers.visit (visitHeartbeat currentTimeUs) [] with
    | (.error _, _) => none
    | (.ok timedOutNodes, consumers) =>
        some (handleHeartbeatTimeouts { c with heartbeatConsumers := consumers } timedOutNodes
          currentTimeUs)
  else some (false, c)

omit [ObjectDictionaryStorage σ] in
/-- The next check after a SoC timeout. -/
def rescheduleSocCheck (c : CnContext σ) (currentTimeUs : ℕ) : Option (CnContext σ) :=
  match c.socTiming with
  | none => some { c with socTimeoutCheckActive := false }
  | some (cycleTimeUs, toleranceUs) =>
      if 0 < cycleTimeUs then
        if currentTimeUs < c.lastSocReceptionTimeUs then none
        else
          let cyclesMissed := (currentTimeUs - c.lastSocReceptionTimeUs) / cycleTimeUs + 1
          some { c with
            nextTickUs :=
              some (c.lastSocReceptionTimeUs + cyclesMissed * cycleTimeUs + toleranceUs) }
      else some { c with socTimeoutCheckActive := false }

omit [ObjectDictionaryStorage σ] in
/-- The next check is set, or the checks end. -/
theorem rescheduleSocCheck_frame {c d : CnContext σ} {currentTimeUs : ℕ}
    (h : c.rescheduleSocCheck currentTimeUs = some d) :
    ∃ active next, d = { c with socTimeoutCheckActive := active, nextTickUs := next } := by
  unfold rescheduleSocCheck at h
  split at h
  · exact ⟨_, _, (Option.some.inj h).symm⟩
  · split_ifs at h
    · exact ⟨_, _, (Option.some.inj h).symm⟩
    · exact ⟨_, _, (Option.some.inj h).symm⟩

/-- The SoC timeout, where the state is the NMT state before the tick. -/
def deliverSocTimeout (c : CnContext σ) (nmtState : NmtState) (currentTimeUs : ℕ) :
    Option (CnContext σ) :=
  let c := c.record (.socTimedOut currentTimeUs c.lastSocReceptionTimeUs)
  let r := c.dllStateMachine.processEvent .socTimeout nmtState
  match handleDllErrors { c with dllStateMachine := r.2 } r.1 currentTimeUs with
  | (true, c) => some c
  | (false, c) => if c.socTimeoutCheckActive then c.rescheduleSocCheck currentTimeUs else some c

/-- The deadline of `process_tick`, where the state is the NMT state before the tick. -/
def tickDeadline (c : CnContext σ) (nmtState : NmtState) (currentTimeUs : ℕ) :
    Option (CnContext σ) :=
  let timeoutUs := c.nmtStateMachine.basicEthernetTimeout.toNat
  match c.nextTickUs with
  | none =>
      if nmtState = .nmtNotActive ∧ 0 < timeoutUs then
        some { c with nextTickUs := some (currentTimeUs + timeoutUs) }
      else some c
  | some deadline =>
      if currentTimeUs < deadline then some c
      else
        let c := { c with nextTickUs := none }
        if nmtState = .nmtNotActive then
          if 0 < timeoutUs then
            some { c.processNmtEvent .timeout with socTimeoutCheckActive := false }
          else some c
        else if c.socTimeoutCheckActive then c.deliverSocTimeout nmtState currentTimeUs
        else some c

/-- `process_tick`. -/
def processTick (c : CnContext σ) (currentTimeUs : ℕ) : Option (NodeAction × CnContext σ) :=
  match c.tickSdoServer currentTimeUs with
  | (some action, c) => some (action, c)
  | (none, c) =>
      match c.tickHeartbeats currentTimeUs with
      | none => none
      | some (true, d) => some (.noAction, d)
      | some (false, d) =>
          (d.tickDeadline c.nmtState currentTimeUs).map (fun d => (.noAction, d))

/-! ### Received data -/

/-- The error of a frame that cannot be deserialized. -/
def handleInvalidFormat (c : CnContext σ) : CnContext σ :=
  let r := c.dllErrorManager.handleError .invalidFormat
  let c := { c with dllErrorManager := r.2.2 }
  let c := if r.2.1 then
      writeErrorRegister { c with errorStatusChanged := true } (c.errorRegister ||| 1)
    else c
  if r.1 ≠ .none then c.processNmtEvent .error else c

/-- The look of `process_ethernet_frame` at an SDO frame for this node. -/
def isSdoForNode (c : CnContext σ) (buffer : List UInt8) : Bool :=
  decide (17 < buffer.length) && decide (buffer.getD 14 0 = MessageType.aSnd.toByte) &&
    decide (buffer.getD 15 0 = c.nodeId.id) && decide (buffer.getD 17 0 = ServiceId.sdo.toByte)

/-- `ControlledNode::process_ethernet_frame`. -/
def processEthernetFrame (c : CnContext σ) (buffer : List UInt8) (currentTimeUs : ℕ) :
    Option (NodeAction × CnContext σ) :=
  let c := if c.nmtState = .nmtBasicEthernet then c.processNmtEvent .powerlinkFrameReceived else c
  let c := if c.isSdoForNode buffer then c.count 6 else c
  match deserializeFrame buffer with
  | .ok frame => c.processFrame frame currentTimeUs
  | .error .invalidEthernetFrame => some (.noAction, c)
  | .error _ => some (.noAction, c.handleInvalidFormat)

/-- `ControlledNode::process_udp_datagram`. -/
def processUdpDatagram (c : CnContext σ) (buffer : List UInt8) (sourceIp : IpAddress)
    (sourcePort : UInt16) (currentTimeUs : ℕ) : NodeAction × CnContext σ :=
  match deserializeSdoUdpPayload buffer with
  | .error _ => (.noAction, c)
  | .ok (seqHeader, cmd) =>
      let c := c.count 6
      let r := c.core.sdoServer.handleRequest
        (MnContext.udpSdoPayload seqHeader cmd buffer.length) (.udp sourceIp sourcePort) c.core.od
        currentTimeUs
      let c := { c with core := { c.core with sdoServer := r.2.1, od := r.2.2 } }
      match r.1 with
      | .error _ => (.noAction, c)
      | .ok responseData =>
          match udpBuildResponse responseData with
          | .ok action => (action, c)
          | .error _ => (.noAction, c)

/-- The first part of `run_cycle`: a received Ethernet frame. -/
def receiveEthernet (c : CnContext σ) (input : CycleInput) : Option (NodeAction × CnContext σ) :=
  match input.ethernetFrame with
  | none => some (.noAction, c)
  | some buffer =>
      if MnContext.isPowerlinkBuffer buffer then c.processEthernetFrame buffer input.currentTimeUs
      else some (.noAction, c)

/-- The second part of `run_cycle`: a received UDP datagram. -/
def receiveUdp (c : CnContext σ) (input : CycleInput) : NodeAction × CnContext σ :=
  match input.udpDatagram with
  | none => (.noAction, c)
  | some (buffer, ip, port) =>
      match c.processUdpDatagram buffer ip port input.currentTimeUs with
      | (.sendUdp destIp destPort data, c) => (.sendUdp destIp destPort data, c.count 7)
      | (action, c) => (action, c)

/-- `ControlledNode::run_cycle`. -/
def runCycle (c : CnContext σ) (input : CycleInput) : Option (NodeAction × CnContext σ) := do
  let (action, c) ← c.receiveEthernet input
  if action ≠ .noAction then some (action, c)
  else
    let (action, c) := c.receiveUdp input
    if action ≠ .noAction then some (action, c) else c.processTick input.currentTimeUs

omit [ObjectDictionaryStorage σ] in
/-- `ControlledNode::next_action_time`. -/
def nextActionTime (c : CnContext σ) : Option ℕ := c.nextTickUs

/-! ### Creation -/

omit [ObjectDictionaryStorage σ] in
/-- The heartbeat consumers of `0x1016`, each with its timeout in microseconds. -/
def parseHeartbeatConsumers (od : ObjectDictionary σ) : SortedMap NodeId (ℕ × ℕ) :=
  match od.readObject 0x1016 with
  | some (.array entries) =>
      entries.foldl (fun consumers entry =>
        match entry with
        | .unsigned32 description =>
            let heartbeatTimeMs := (description &&& 0xFFFF).toNat
            let nodeIdVal := ((description >>> 16) &&& 0xFF).toUInt8
            if 0 < heartbeatTimeMs ∧ 0 < nodeIdVal then
              match NodeId.tryFrom nodeIdVal with
              | .ok nodeId => consumers.insert nodeId (heartbeatTimeMs * 1000, 0)
              | .error _ => consumers
            else consumers
        | _ => consumers) .empty
  | _ => .empty

/-- The context of a new node. -/
def initial (od : ObjectDictionary σ) (macAddress : MacAddress) (machine : CnNmtStateMachine)
    (heartbeatConsumers : SortedMap NodeId (ℕ × ℕ)) : CnContext σ where
  core :=
    { od := od
      macAddress := macAddress
      sdoServer := .new
      embeddedSdoServer := .new
      embeddedSdoClient := .new }
  sdoClient := {}
  nmtStateMachine := machine
  dllStateMachine := {}
  dllErrorManager := {}
  pendingNmtRequests := []
  emergencyQueue := []
  heartbeatConsumers := heartbeatConsumers
  lastSocReceptionTimeUs := 0
  socTimeoutCheckActive := false
  nextTickUs := none
  enFlag := false
  ecFlag := true
  errorStatusChanged := false
  history := []

end CnContext

/-- `ControlledNode::new`; the node starts up in `NmtNotActive`. -/
def ControlledNode.new {σ : Type} [ObjectDictionaryStorage σ] (od : ObjectDictionary σ)
    (macAddress : MacAddress) : Except PowerlinkError (CnContext σ) := do
  let (result, od) := od.init
  let _ ← result
  od.validateCnMandatoryObjects
  let nmtStateMachine ← CnNmtStateMachine.fromOd od
  let r := NmtStateMachine.runInternalInitialisation nmtStateMachine od
  .ok (.initial r.2 macAddress r.1 (CnContext.parseHeartbeatConsumers od))

/-- A new node has the values of `initial`. -/
theorem ControlledNode.new_eq {σ : Type} [ObjectDictionaryStorage σ] {od : ObjectDictionary σ}
    {mac : MacAddress} {c : CnContext σ} (h : ControlledNode.new od mac = .ok c) :
    ∃ od' machine consumers, c = .initial od' mac machine consumers := by
  dsimp only [ControlledNode.new] at h
  obtain ⟨-, -, h⟩ := bind_eq_ok_iff.mp h
  obtain ⟨-, -, h⟩ := bind_eq_ok_iff.mp h
  obtain ⟨machine, -, h⟩ := bind_eq_ok_iff.mp h
  exact ⟨_, _, _, (Except.ok.inj h).symm⟩

end Powerlink
