import Powerlink.Mn.Payload
import Powerlink.Mn.Validation

/-! # The scheduler of a managing node

The model of `node/mn/scheduler.rs`: the choice of the next asynchronous action, the boot-up
transitions, the isochronous polling order and the timeout of the current wait.

`findNextNodeToIdentify` is a loop over the node ids.  Its state is the current id, between 1 and
239 after the wrap, and a flag, so that a loop of more than 478 rounds repeats itself for ever;
`none` stands for such a loop. -/

namespace Powerlink

namespace MnContext

variable {σ : Type}

/-! ### Isochronous polling -/

/-- The multiplexed cycle a node is assigned to, `0` for a continuous node. -/
def assignedCycle (c : MnContext σ) (nodeId : NodeId) : UInt8 :=
  (c.multiplexAssign.get? nodeId).getD 0

/-- `should_poll_this_cycle`. -/
def shouldPollThisCycle (c : MnContext σ) (currentMultiplexCycle : UInt8) (nodeId : NodeId) :
    Bool :=
  decide (c.assignedCycle nodeId = 0) ||
    (decide (0 < c.multiplexCycleLen) &&
      decide (c.assignedCycle nodeId = currentMultiplexCycle + 1))

/-- The states in which a node is polled. -/
def isPollable (state : CnState) : Bool :=
  decide (.preOperational ≤ state) && decide (state ≠ .stopped)

/-- A node is polled in a multiplex cycle. -/
def isEligible (c : MnContext σ) (currentMultiplexCycle : UInt8) (nodeId : NodeId) : Bool :=
  c.shouldPollThisCycle currentMultiplexCycle nodeId && isPollable (c.nodeInfo.state nodeId)

/-- The loop of `get_next_isochronous_node_to_poll` over the nodes behind the cursor: the node
found and the new cursor. -/
def scanIsochronous (c : MnContext σ) (currentMultiplexCycle : UInt8) :
    List NodeId → ℕ → Option NodeId × ℕ
  | [], idx => (none, idx)
  | nodeId :: rest, idx =>
      if c.isEligible currentMultiplexCycle nodeId then (some nodeId, idx + 1)
      else c.scanIsochronous currentMultiplexCycle rest (idx + 1)

/-- `get_next_isochronous_node_to_poll`. -/
def getNextIsochronousNodeToPoll (c : MnContext σ) (currentMultiplexCycle : UInt8) :
    Option NodeId × MnContext σ :=
  let r := c.scanIsochronous currentMultiplexCycle
    (c.isochronousNodes.drop c.nextIsochNodeIdx) c.nextIsochNodeIdx
  (r.1, { c with nextIsochNodeIdx := r.2 })

/-- `has_more_isochronous_nodes`. -/
def hasMoreIsochronousNodes (c : MnContext σ) (currentMultiplexCycle : UInt8) : Bool :=
  (c.isochronousNodes.drop c.nextIsochNodeIdx).any (c.isEligible currentMultiplexCycle)

/-! ### Timeouts -/

/-- `schedule_timeout`. -/
def scheduleTimeout (c : MnContext σ) (deadlineUs : ℕ) (event : DllMsEvent) : MnContext σ :=
  record { c with
    pendingTimeoutEvent := some event
    nextTickUs := match c.nextTickUs with
      | some existing => if deadlineUs < existing then some deadlineUs else some existing
      | none => some deadlineUs } (.scheduled event deadlineUs c.nextTickUs)

/-! ### Boot-up -/

/-- The commands that are queued for the identified nodes at the end of `BOOT_STEP1`. -/
def enableReadyCommands (nodeInfo : NodeTable) :
    List (MnNmtCommandRequest × NodeId × NmtCommandData) :=
  (nodeInfo.entries.filter (fun p => decide (p.2.state = .identified))).map
    (fun p => (.state .enableReadyToOperate, p.1, .none))

/-- `check_bootup_state`. -/
def checkBootupState [ObjectDictionaryStorage σ] (c : MnContext σ) : MnContext σ :=
  match c.nmtState with
  | .nmtPreOperational1 =>
      if checkAllMandatoryIdentified c.mandatoryNodes c.nodeInfo then
        let c := c.processNmtEvent .allCnsIdentified
        { c with pendingNmtCommands := c.pendingNmtCommands ++ enableReadyCommands c.nodeInfo }
      else c
  | .nmtPreOperational2 =>
      if checkAllMandatoryPreop c.mandatoryNodes c.nodeInfo && !c.nmtStateMachine.startupBit 8 then
        c.processNmtEvent .configurationCompleteCnsReady
      else c
  | .nmtReadyToOperate =>
      if checkAllMandatoryCommVerified c.mandatoryNodes c.nodeInfo &&
          !c.nmtStateMachine.startupBit 2 then
        c.processNmtEvent .allMandatoryCnsOperational
      else c
  | _ => c

/-! ### Asynchronous actions -/

/-- The loop of `find_next_node_to_identify`. -/
def identifyLoop (nodeInfo : NodeTable) (start : UInt8) :
    ℕ → UInt8 → Bool → Option (Option NodeId)
  | 0, _, _ => none
  | fuel + 1, current, wrappedAround =>
      let current := if current = 0 ∨ 239 < current then 1 else current
      if current = start ∧ wrappedAround then some none
      else
        let wrappedAround := wrappedAround || decide (current = start)
        match nodeInfo.get? ⟨current⟩ with
        | some { state := .unknown, .. } | some { state := .missing, .. } => some (some ⟨current⟩)
        | _ => identifyLoop nodeInfo start fuel (current + 1) wrappedAround

/-- `find_next_node_to_identify`; `none` where the loop does not end. -/
def findNextNodeToIdentify (c : MnContext σ) : Option (Option NodeId) :=
  let start := c.lastIdentPollNodeId.id + 1
  identifyLoop c.nodeInfo start 512 start false

/-- `find_next_async_only_to_poll`. -/
def findNextAsyncOnlyToPoll (c : MnContext σ) : Option NodeId :=
  let len := c.asyncOnlyNodes.length
  let startIdx := match c.asyncOnlyNodes.findIdx? (fun id => decide (id = c.lastStatusPollNodeId)) with
    | some i => (i + 1) % len
    | none => 0
  (c.asyncOnlyNodes.drop startIdx ++ c.asyncOnlyNodes.take startIdx).find? (fun nodeId =>
    match c.nodeInfo.get? nodeId with
    | some info => decide (info.state ≠ .missing)
    | none => false)

/-- The ASnd frame of an SDO request in `determine_next_async_action`.  The sequence header and
the command are serialized into a vector of length `0`, which fails, so that nothing is written. -/
def sdoRequestFrame (c : MnContext σ) (request : ClientFrame) : PowerlinkFrame :=
  let buf : List UInt8 := []
  let buf := match request.2.1.serialize buf with
    | .ok (buf, _) => buf
    | .error _ => buf
  let buf := match request.2.2.serialize buf with
    | .ok (buf, _) => buf
    | .error _ => buf
  .aSnd (.new c.core.macAddress ((c.getCnMacAddress request.1).getD cDllMulticastAsnd) request.1
    cAdrMnDefNodeId .sdo buf)

/-- What `determine_next_async_action` returns: the service, its target and the ER flag. -/
abbrev AsyncAction := RequestedServiceId × NodeId × Bool

/-- The steps 9 and 10 of `determine_next_async_action`: the requests of controlled nodes. -/
def grantRequest (c : MnContext σ) : AsyncAction × MnContext σ :=
  match popAsyncRequest c.asyncRequestQueue with
  | some (request, queue) =>
      ((if request.priority = 7 then .nmtRequestInvite else .unspecifiedInvite, request.nodeId,
        false), { c with asyncRequestQueue := queue })
  | none => ((.noService, ⟨0⟩, false), c)

/-- The steps 7 to 10: status polls and NMT info broadcasts come before the requests. -/
def determineIdleAction (c : MnContext σ) : AsyncAction × MnContext σ :=
  match c.findNextAsyncOnlyToPoll with
  | some nodeId => ((.statusRequest, nodeId, false), { c with lastStatusPollNodeId := nodeId })
  | none =>
      if c.mnAsyncSendQueue.isEmpty then
        match c.publishConfig.get? c.currentMultiplexCycle with
        | some serviceId =>
            ((.unspecifiedInvite, cAdrMnDefNodeId, false),
              { c with mnAsyncSendQueue := c.mnAsyncSendQueue ++ [c.buildNmtInfoFrame serviceId] })
        | none => c.grantRequest
      else c.grantRequest

/-- The steps 6 to 10: identification comes first. -/
def determineBackgroundAction (c : MnContext σ) : Option (AsyncAction × MnContext σ) :=
  match c.findNextNodeToIdentify with
  | none => none
  | some (some nodeId) =>
      some ((.identRequest, nodeId, false), { c with lastIdentPollNodeId := nodeId })
  | some none => some c.determineIdleAction

/-- `determine_next_async_action`. -/
def determineNextAsyncAction (c : MnContext σ) : Option (AsyncAction × MnContext σ) :=
  match c.pendingErRequests.getLast? with
  | some nodeId =>
      some ((.statusRequest, nodeId, true),
        { c with pendingErRequests := c.pendingErRequests.dropLast })
  | none =>
      match c.pendingStatusRequests.getLast? with
      | some nodeId =>
          some ((.statusRequest, nodeId, false),
            { c with pendingStatusRequests := c.pendingStatusRequests.dropLast })
      | none =>
          if !c.pendingNmtCommands.isEmpty then
            some ((.unspecifiedInvite, cAdrMnDefNodeId, false), c)
          else if !c.mnAsyncSendQueue.isEmpty then
            some ((.unspecifiedInvite, cAdrMnDefNodeId, false), c)
          else
            let r := c.sdoClientManager.getPendingRequest c.currentCycleStartTimeUs c.core.od
            let c := { c with sdoClientManager := r.2 }
            match r.1 with
            | some request =>
                some ((.unspecifiedInvite, cAdrMnDefNodeId, false),
                  { c with mnAsyncSendQueue := c.mnAsyncSendQueue ++ [c.sdoRequestFrame request] })
            | none => c.determineBackgroundAction

end MnContext

end Powerlink
