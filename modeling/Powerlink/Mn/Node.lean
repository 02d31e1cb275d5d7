import Powerlink.Mn.Config
import Powerlink.Mn.Events

/-! # The managing node

The model of `node/mn/tick.rs` and of `ManagingNode` (`node/mn/main.rs`).  `runCycle` is one call
of the application: it hands over a received Ethernet frame, a received UDP datagram (the feature
`sdo-udp`; without it the second argument is `none`) and the current time, and gets one action
back.  `none` stands for a panic or for a loop that does not end. -/

namespace Powerlink

namespace MnContext

variable {σ : Type} [ObjectDictionaryStorage σ]

/-! ### The tick -/

omit [ObjectDictionaryStorage σ] in
/-- The condition of `handle_tick` to start a cycle. -/
def cycleDue (c : MnContext σ) (currentTimeUs : ℕ) : Bool :=
  decide (c.cycleTimeUs ≤ currentTimeUs - c.currentCycleStartTimeUs) &&
    decide (.nmtPreOperational1 ≤ c.nmtState) && decide (c.currentPhase = .idle)

omit [ObjectDictionaryStorage σ] in
/-- Step 1 of `handle_tick`: the timeouts of the SDO clients. -/
def tickSdoClient (c : MnContext σ) (currentTimeUs : ℕ) : Option NodeAction × MnContext σ :=
  let r := c.sdoClientManager.tick currentTimeUs c.core.od
  let c := { c with sdoClientManager := r.2 }
  match r.1 with
  | none => (none, c)
  | some request =>
      match c.buildSdoAsndRequest request.1 request.2.1 request.2.2 with
      | .ok frame => (some (send frame), c.count 7)
      | .error _ => (none, c)

omit [ObjectDictionaryStorage σ] in
/-- `build_response` of the transport of a client. -/
def buildResponse (c : MnContext σ) (data : SdoResponseData) : Except PowerlinkError NodeAction :=
  match data.clientInfo with
  | .asnd .. => asndBuildResponse false data c.core.macAddress c.nmtStateMachine.nodeId
  | .udp .. => udpBuildResponse data

omit [ObjectDictionaryStorage σ] in
/-- Step 2 of `handle_tick`: the timeouts of the SDO server. -/
def tickSdoServer (c : MnContext σ) (currentTimeUs : ℕ) : Option NodeAction × MnContext σ :=
  match c.core.sdoServer.nextActionTime with
  | none => (none, c)
  | some deadline =>
      if currentTimeUs < deadline then (none, c)
      else
        let r := c.core.sdoServer.tick currentTimeUs c.core.od
        let c := { c with core := { c.core with sdoServer := r.2 } }
        match r.1 with
        | .ok (some response) =>
            let c := c.count 7
            match c.buildResponse response with
            | .ok action => (some action, c)
            | .error _ => (none, c)
        | _ => (none, c)

/-- The dummy frame that `handle_tick` passes on with a timeout. -/
def timeoutFrame : PowerlinkFrame := .soc (.new ⟨0, 0, 0, 0, 0, 0⟩ {} ⟨0, 0⟩ ⟨0, 0⟩)

/-- The delivery of the pending timeout. -/
def deliverTimeout (c : MnContext σ) (event : DllMsEvent) (currentTimeUs : ℕ) :
    Option (NodeAction × MnContext σ) :=
  let c := record { c with pendingTimeoutEvent := none } (.timedOut event currentTimeUs)
  (c.handleDllEvent event timeoutFrame).advanceCyclePhase currentTimeUs

omit [ObjectDictionaryStorage σ] in
/-- Step 4 of `handle_tick`, where the state is the NMT state before the tick. -/
def progressPhase (c : MnContext σ) (nmtState : NmtState) (deadlinePassed isBootstrapping : Bool)
    (currentTimeUs : ℕ) : Option (NodeAction × MnContext σ) :=
  if nmtState = .nmtPreOperational1 ∧ c.currentPhase = .soCSent then
    c.advanceCyclePhase currentTimeUs
  else if !deadlinePassed && !isBootstrapping && decide (c.currentPhase = .idle) then
    some (.noAction, c)
  else c.tick currentTimeUs

/-- Steps 3 and 4 of `handle_tick`: the deadline, and the progress of the phase. -/
def tickDeadline (c : MnContext σ) (currentTimeUs : ℕ) : Option (NodeAction × MnContext σ) :=
  let nmtState := c.nmtState
  let isBootstrapping := decide (nmtState = .nmtNotActive) && c.nextTickUs.isNone
  let deadlinePassed := match c.nextTickUs with
    | some deadline => decide (deadline ≤ currentTimeUs)
    | none => false
  if deadlinePassed then
    let c := { c with nextTickUs := none }
    if nmtState = .nmtNotActive then some (.noAction, c.processNmtEvent .timeout)
    else match c.pendingTimeoutEvent with
      | some event => c.deliverTimeout event currentTimeUs
      | none => c.progressPhase nmtState true isBootstrapping currentTimeUs
  else c.progressPhase nmtState false isBootstrapping currentTimeUs

/-- `handle_tick`. -/
def handleTick (c : MnContext σ) (currentTimeUs : ℕ) : Option (NodeAction × MnContext σ) :=
  if c.cycleDue currentTimeUs then some (c.startCycle currentTimeUs)
  else match c.tickSdoClient currentTimeUs with
    | (some action, c) => some (action, c)
    | (none, c) =>
        match c.tickSdoServer currentTimeUs with
        | (some action, c) => some (action, c)
        | (none, c) => c.tickDeadline currentTimeUs

/-! ### Received data -/

omit [ObjectDictionaryStorage σ] in
/-- The SDO client branch of `process_asnd_frame`. -/
def processSdoResponse (c : MnContext σ) (frame : ASndFrame) : Option (MnContext σ) :=
  let c := c.count 6
  if frame.payload.length < 8 then some c
  else match SequenceLayerHeader.deserialize (frame.payload.take 4) with
    | .error _ => some c
    | .ok seqHeader =>
        match SdoCommand.deserialize (frame.payload.drop 4) with
        | .error _ => some c
        | .ok cmd => do
            let manager ← c.sdoClientManager.handleResponse frame.source seqHeader cmd
            some { c with sdoClientManager := manager }

/-- `handle_sdo_server_request`. -/
def handleSdoServerRequest (c : MnContext σ) (sdoPayload : List UInt8)
    (clientInfo : SdoClientInfo) (currentTimeUs : ℕ) : NodeAction × MnContext σ :=
  let r := c.core.sdoServer.handleRequest sdoPayload clientInfo c.core.od currentTimeUs
  let c := { c with core := { c.core with sdoServer := r.2.1, od := r.2.2 } }
  match r.1 with
  | .error _ => (.noAction, c)
  | .ok responseData =>
      match asndBuildResponse false responseData c.core.macAddress c.nmtStateMachine.nodeId with
      | .ok action => (action, c.count 7)
      | .error _ => (.noAction, c)

/-- `ManagingNode::process_asnd_frame`. -/
def processAsndFrame (c : MnContext σ) (frame : ASndFrame) (currentTimeUs : ℕ) :
    Option (NodeAction × MnContext σ) :=
  if frame.serviceId = .sdo ∧ frame.destination = c.nmtStateMachine.nodeId then
    (c.processSdoResponse frame).map (fun c => (.noAction, c))
  else if frame.serviceId = .sdo ∧ frame.destination = cAdrMnDefNodeId then
    some ((c.count 6).handleSdoServerRequest frame.payload
      (.asnd frame.source frame.ethHeader.sourceMac) currentTimeUs)
  else (c.processFrame (.aSnd frame) currentTimeUs).map (fun c => (.noAction, c))

/-- `ManagingNode::process_powerlink_frame`. -/
def processPowerlinkFrame (c : MnContext σ) (frame : PowerlinkFrame) (currentTimeUs : ℕ) :
    Option (NodeAction × MnContext σ) :=
  match frame with
  | .pRes _ => (c.processFrame frame currentTimeUs).map (fun c => (.noAction, c))
  | .aSnd frame => c.processAsndFrame frame currentTimeUs
  | _ => some (.noAction, c)

/-- `ManagingNode::process_ethernet_frame`. -/
def processEthernetFrame (c : MnContext σ) (frameBytes : List UInt8) (currentTimeUs : ℕ) :
    Option (NodeAction × MnContext σ) :=
  if c.nmtState = .nmtGsResetCommunication then some (.noAction, c.processNmtEvent .error)
  else match deserializeFrame frameBytes with
    | .ok frame => c.processPowerlinkFrame frame currentTimeUs
    | .error _ => some (.noAction, c)

/-- The payload that `process_udp_datagram` serializes again for the SDO server. -/
def udpSdoPayload (seqHeader : SequenceLayerHeader) (cmd : SdoCommand) (length : ℕ) : List UInt8 :=
  let (buffer, seqLen) := match seqHeader.serialize (List.replicate length 0) with
    | .ok r => r
    | .error _ => (List.replicate length 0, 0)
  let (cmdBuffer, cmdLen) := match cmd.serialize (buffer.drop seqLen) with
    | .ok r => r
    | .error _ => (buffer.drop seqLen, 0)
  (buffer.take seqLen ++ cmdBuffer).take (seqLen + cmdLen)

/-- `ManagingNode::process_udp_datagram`. -/
def processUdpDatagram (c : MnContext σ) (payload : List UInt8) (sourceIp : IpAddress)
    (sourcePort : UInt16) (currentTimeUs : ℕ) : NodeAction × MnContext σ :=
  match deserializeSdoUdpPayload payload with
  | .error _ => (.noAction, c)
  | .ok (seqHeader, cmd) =>
      let c := c.count 6
      let r := c.core.sdoServer.handleRequest (udpSdoPayload seqHeader cmd payload.length)
        (.udp sourceIp sourcePort) c.core.od currentTimeUs
      let c := { c with core := { c.core with sdoServer := r.2.1, od := r.2.2 } }
      match r.1 with
      | .error _ => (.noAction, c)
      | .ok responseData =>
          match udpBuildResponse responseData with
          | .ok action => (action, c)
          | .error _ => (.noAction, c)

end MnContext

/-! ### One call of the application -/

/-- The arguments of `run_cycle`. -/
structure CycleInput where
  ethernetFrame : Option (List UInt8)
  udpDatagram : Option (List UInt8 × IpAddress × UInt16)
  currentTimeUs : ℕ
deriving DecidableEq

namespace MnContext

variable {σ : Type} [ObjectDictionaryStorage σ]

/-- The EtherType check of `run_cycle`. -/
def isPowerlinkBuffer (buffer : List UInt8) : Bool :=
  decide (14 ≤ buffer.length) &&
    decide ((buffer.drop 12).take 2 =
      [(cDllEthertypeEpl >>> 8).toUInt8, cDllEthertypeEpl.toUInt8])

/-- The first part of `run_cycle`: a received Ethernet frame. -/
def receiveEthernet (c : MnContext σ) (input : CycleInput) : Option (NodeAction × MnContext σ) :=
  match input.ethernetFrame with
  | none => some (.noAction, c)
  | some buffer =>
      if isPowerlinkBuffer buffer then c.processEthernetFrame buffer input.currentTimeUs
      else some (.noAction, c)

/-- The second part of `run_cycle`: a received UDP datagram. -/
def receiveUdp (c : MnContext σ) (input : CycleInput) : NodeAction × MnContext σ :=
  match input.udpDatagram with
  | none => (.noAction, c)
  | some (buffer, ip, port) =>
      match c.processUdpDatagram buffer ip port input.currentTimeUs with
      | (.sendUdp destIp destPort data, c) => (.sendUdp destIp destPort data, c.count 7)
      | (action, c) => (action, c)

/-- `ManagingNode::run_cycle`. -/
def runCycle (c : MnContext σ) (input : CycleInput) : Option (NodeAction × MnContext σ) := do
  let (action, c) ← c.receiveEthernet input
  if action ≠ .noAction then some (action, c)
  else
    let (action, c) := c.receiveUdp input
    if action ≠ .noAction then some (action, c) else c.handleTick input.currentTimeUs

omit [ObjectDictionaryStorage σ] in
/-- `ManagingNode::next_action_time`. -/
def nextActionTime (c : MnContext σ) : Option ℕ :=
  if c.currentPhase = .soCSent ∨ c.currentPhase = .awaitingMnAsyncSend then
    some c.currentCycleStartTimeUs
  else if c.nmtState = .nmtNotActive ∧ c.nextTickUs = none then some 0
  else
    let cycleStartTime :=
      if .nmtPreOperational2 ≤ c.nmtState ∧ c.currentPhase = .idle then
        some (c.currentCycleStartTimeUs + c.cycleTimeUs)
      else none
    ([c.core.sdoServer.nextActionTime, c.sdoClientManager.nextActionTime, c.nextTickUs,
      cycleStartTime].filterMap id).min?

end MnContext

end Powerlink
