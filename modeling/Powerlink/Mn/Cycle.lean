import Powerlink.Mn.Errors

/-! # The POWERLINK cycle

The model of `node/mn/cycle.rs`.  `startCycle` sends the SoC, `advanceCyclePhase` polls the next
isochronous node or, when none is left, ends the isochronous phase with a SoA or with the NMT info
frame that replaces it, and `tick` runs the follow-up actions that need no timer.

A function that can reach the loop of `findNextNodeToIdentify` returns `none` where it does not
end. -/

namespace Powerlink

namespace MnContext

variable {σ : Type}

/-! ### The phases of a cycle -/

/-- The timeout for the PRes of a node, in microseconds. -/
def presTimeoutUs (c : MnContext σ) (nodeId : NodeId) : ℕ :=
  ((c.core.od.readU32 0x1F92 nodeId.id).getD 25000).toNat / 1000

/-- The timeout for the ASnd of a node, in microseconds. -/
def asndTimeoutUs (c : MnContext σ) : ℕ := ((c.core.od.readU32 0x1F8A 2).getD 100000).toNat / 1000

/-- The isochronous branch of `advance_cycle_phase`: the PReq for one node. -/
def pollNode (c : MnContext σ) (nodeId : NodeId) (currentTimeUs : ℕ) : NodeAction × MnContext σ :=
  let c := { c with currentPolledCn := some nodeId, currentPhase := .isochronousPReq }
  let c := c.scheduleTimeout (currentTimeUs + c.presTimeoutUs nodeId) .presTimeout
  let c := c.record (.built nodeId (c.canPoll nodeId))
  let r := c.buildPreqFrame nodeId (decide (0 < c.assignedCycle nodeId))
  (send r.1, (r.2.count 3).record (.advanced r.1))

/-- The phase after a SoA: a node other than the managing node itself is awaited. -/
def enterAsyncPhase (c : MnContext σ) (action : AsyncAction) (currentTimeUs : ℕ) : MnContext σ :=
  if action.2.1 ≠ cAdrMnDefNodeId ∧ action.1 ≠ .noService then
    scheduleTimeout { c with currentPhase := .asynchronousSoA }
      (currentTimeUs + c.asndTimeoutUs) .asndTimeout
  else if action.2.1 = cAdrMnDefNodeId then { c with currentPhase := .awaitingMnAsyncSend }
  else { c with currentPhase := .idle }

/-- The telegram counters for a SoA. -/
def countSoa (c : MnContext σ) (service : RequestedServiceId) : MnContext σ :=
  if service = .statusRequest then (c.count 5).count 8 else c.count 5

/-- The end of `advance_cycle_phase`: the SoA for an asynchronous action. -/
def sendSoa (c : MnContext σ) (action : AsyncAction) (currentTimeUs : ℕ) :
    NodeAction × MnContext σ :=
  let c := (c.enterAsyncPhase action currentTimeUs).countSoa action.1
  let frame := c.buildSoaFrame action.1 action.2.1 action.2.2
  (send frame, c.record (.advanced frame))

/-- The asynchronous branch of `advance_cycle_phase`. -/
def endIsochronousPhase (c : MnContext σ) (currentTimeUs : ℕ) : Option (NodeAction × MnContext σ) :=
  let c := { c with currentPolledCn := none, currentPhase := .isochronousDone }
  match c.publishConfig.get? (c.currentMultiplexCycle + 1) with
  | some serviceId =>
      -- the NMT info frame replaces the SoA and ends the cycle
      let c := count { c with currentPhase := .idle } 5
      let frame := c.buildNmtInfoFrame serviceId
      some (send frame, c.record (.advanced frame))
  | none => do
      let (action, c) ← c.determineNextAsyncAction
      some (c.sendSoa action currentTimeUs)

/-- `advance_cycle_phase`. -/
def advanceCyclePhase (c : MnContext σ) (currentTimeUs : ℕ) : Option (NodeAction × MnContext σ) :=
  if .nmtPreOperational2 ≤ c.nmtState then
    match c.getNextIsochronousNodeToPoll c.currentMultiplexCycle with
    | (some nodeId, c) => some (c.pollNode nodeId currentTimeUs)
    | (none, c) => c.endIsochronousPhase currentTimeUs
  else c.endIsochronousPhase currentTimeUs

variable [ObjectDictionaryStorage σ]

omit [ObjectDictionaryStorage σ] in
/-- The first step of `start_cycle`: the cycle time, the multiplexed cycle and the cursor. -/
def beginCycle (c : MnContext σ) (currentTimeUs : ℕ) : MnContext σ :=
  { c with
    currentCycleStartTimeUs := currentTimeUs
    currentMultiplexCycle :=
      if 0 < c.multiplexCycleLen then (c.currentMultiplexCycle + 1) % c.multiplexCycleLen
      else c.currentMultiplexCycle
    nextIsochNodeIdx := 0 }

/-- `start_cycle`. -/
def startCycle (c : MnContext σ) (currentTimeUs : ℕ) : NodeAction × MnContext σ :=
  let c := c.beginCycle currentTimeUs
  let socFrame := c.buildSocFrame c.currentMultiplexCycle c.multiplexCycleLen
  let c := c.handleDllEvent .socTrig socFrame
  (send socFrame, count { c with currentPhase := .soCSent } 1)

/-! ### Follow-up actions -/

omit [ObjectDictionaryStorage σ] in
/-- The slot that the managing node has given to itself: NMT commands come first, then SDO
requests, then the queued frames. -/
def sendOwnAsync (c : MnContext σ) (currentTimeUs : ℕ) : NodeAction × MnContext σ :=
  let c := { c with currentPhase := .idle }
  match c.pendingNmtCommands.getLast? with
  | some (commandReq, targetNodeId, commandData) =>
      let c := count { c with pendingNmtCommands := c.pendingNmtCommands.dropLast } 5
      let c := c.record (.built targetNodeId (c.canCommand targetNodeId))
      (send (c.buildNmtCommandFrame commandReq targetNodeId commandData), c)
  | none =>
      let r := c.sdoClientManager.getPendingRequest currentTimeUs c.core.od
      let c := { c with sdoClientManager := r.2 }
      let request := r.1.bind (fun request =>
        (c.buildSdoAsndRequest request.1 request.2.1 request.2.2).toOption)
      match request with
      | some frame => (send frame, c.count 7)
      | none =>
          match c.mnAsyncSendQueue.getLast? with
          | some frame =>
              (send frame, count { c with mnAsyncSendQueue := c.mnAsyncSendQueue.dropLast } 5)
          | none => (.noAction, c)

omit [ObjectDictionaryStorage σ] in
/-- The one-time actions of `tick`: the frame to send at once, if any, and the new context. -/
def initialOperationalActions (c : MnContext σ) : Option NodeAction × MnContext σ :=
  if c.nmtState = .nmtOperational ∧ c.initialOperationalActionsDone = false then
    let c := { c with initialOperationalActionsDone := true }
    if c.nmtStateMachine.startupBit 1 then
      let c := c.count 5
      (some (send (c.buildNmtCommandFrame (.state .startNode) cAdrBroadcastNodeId .none)), c)
    else match c.mandatoryNodes.head? with
      | some nodeId =>
          (none, { c with
            pendingNmtCommands := c.pendingNmtCommands ++ [(.state .startNode, nodeId, .none)] })
      | none => (none, c)
  else if c.nmtState < .nmtOperational then
    (none, { c with initialOperationalActionsDone := false })
  else (none, c)

omit [ObjectDictionaryStorage σ] in
/-- `tick`. -/
def tick (c : MnContext σ) (currentTimeUs : ℕ) : Option (NodeAction × MnContext σ) :=
  match c.initialOperationalActions with
  | (some action, c) => some (action, c)
  | (none, c) =>
      match c.currentPhase with
      | .awaitingMnAsyncSend => some (c.sendOwnAsync currentTimeUs)
      | .soCSent => c.advanceCyclePhase currentTimeUs
      | _ =>
          if c.nmtState = .nmtNotActive ∧ c.nextTickUs = none then
            some (.noAction, { c with
              nextTickUs := some (currentTimeUs + c.nmtStateMachine.waitNotActiveTimeout.toNat) })
          else some (.noAction, c)

end MnContext

end Powerlink
