import Powerlink.Cn.Payload
import Powerlink.Sdo.ClientManager

/-! # Received frames

The model of `node/cn/events.rs`: what a received frame does to a controlled node, and how the node
answers.  `processFrame` is cut into the sections of the source: an ASnd is sorted out first, then
the SoC deadline, the counters and the flags of a SoA, the NMT event, the event of the data link
layer with its errors, the process data, the EN flag and the response.

`handleDllError` is shared by the errors of a received frame and those of a SoC timeout
(`node/cn/tick.rs`). -/

namespace Powerlink

namespace CnContext

variable {σ : Type} [ObjectDictionaryStorage σ]

/-! ### Errors of the data link layer -/

omit [ObjectDictionaryStorage σ] in
/-- The error register `0x1001`. -/
def errorRegister (c : CnContext σ) : UInt8 := (c.core.od.readU8 0x1001 0).getD 0

omit [ObjectDictionaryStorage σ] in
/-- Writes the error register `0x1001`. -/
def writeErrorRegister (c : CnContext σ) (value : UInt8) : CnContext σ :=
  { c with
    core := { c.core with od := (c.core.od.writeInternal 0x1001 0 (.unsigned8 value) false).2 } }

omit [ObjectDictionaryStorage σ] in
/-- The count of a change of the static error bit field. -/
def countStaticChange (c : CnContext σ) : CnContext σ :=
  if c.errorRegister ≠ c.errorRegister ||| 1 then c.countError 5 else c

/-- The additional information of an error entry. -/
def additionalInformation : DllError → UInt64
  | .lossOfPres nodeId | .latePres nodeId | .lossOfStatusRes nodeId => nodeId.id.toUInt64
  | _ => 0

/-- The entry for the emergency queue. -/
def errorEntry (error : DllError) (currentTimeUs : ℕ) : ErrorEntry where
  entryType := ⟨false, true, .eventOccurred, 0x002⟩
  errorCode := error.toErrorCode
  timestamp := ⟨UInt32.ofNat (currentTimeUs / 1000000),
    UInt32.ofNat (currentTimeUs % 1000000 * 1000)⟩
  additionalInformation := additionalInformation error

/-- The capacity of the emergency queue. -/
def emergencyCapacity : ℕ := 10

omit [ObjectDictionaryStorage σ] in
/-- An entry is queued and written to the history, or dropped where the queue is full. -/
def queueEmergency (c : CnContext σ) (entry : ErrorEntry) : CnContext σ :=
  if c.emergencyQueue.length < emergencyCapacity then
    countError { c with
      emergencyQueue := c.emergencyQueue ++ [entry]
      core := { c.core with od := writeErrorToHistory c.core.od entry } } 2
  else c.countError 3

omit [ObjectDictionaryStorage σ] in
/-- The signalling of an error: the error register and the emergency queue. -/
def signalError (c : CnContext σ) (error : DllError) (currentTimeUs : ℕ) : CnContext σ :=
  let c := { c with errorStatusChanged := true }
  let register := c.errorRegister ||| 1
  (c.countStaticChange.writeErrorRegister register).queueEmergency
    (errorEntry error currentTimeUs)

/-- The reset of the communication after an error. -/
def resetAfterError (c : CnContext σ) : CnContext σ :=
  { c.processNmtEvent .error with socTimeoutCheckActive := false }

/-- One error that the state machine reports; `true` where it ends the call. -/
def handleDllError (c : CnContext σ) (error : DllError) (currentTimeUs : ℕ) :
    Bool × CnContext σ :=
  let c := c.countError 1
  let r := c.dllErrorManager.handleError error
  let c := { c with dllErrorManager := r.2.2 }
  let c := if r.2.1 then c.signalError error currentTimeUs else c
  if r.1 ≠ .none then (true, c.resetAfterError) else (false, c)

/-- The loop over the reported errors. -/
def handleDllErrors : CnContext σ → List DllError → ℕ → Bool × CnContext σ
  | c, [], _ => (false, c)
  | c, error :: errors, currentTimeUs =>
      match c.handleDllError error currentTimeUs with
      | (true, c) => (true, c)
      | (false, c) => handleDllErrors c errors currentTimeUs

/-! ### ASnd -/

/-- An SDO request for this node. -/
def receiveSdo (c : CnContext σ) (frame : ASndFrame) (currentTimeUs : ℕ) :
    NodeAction × CnContext σ :=
  let c := c.count 6
  let r := c.core.sdoServer.handleRequest frame.payload
    (.asnd frame.source frame.ethHeader.sourceMac) c.core.od currentTimeUs
  let c := { c with core := { c.core with sdoServer := r.2.1, od := r.2.2 } }
  match r.1 with
  | .error _ => (.noAction, c)
  | .ok responseData =>
      match asndBuildResponse true responseData c.core.macAddress c.nodeId with
      | .ok action => (action, c.count 7)
      | .error _ => (.noAction, c)

/-- The event of an NMT state command. -/
def commandEvent : NmtStateCommand → NmtEvent
  | .startNode => .startNode
  | .stopNode => .stopNode
  | .enterPreOperational2 => .enterPreOperational2
  | .enableReadyToOperate => .enableReadyToOperate
  | .resetNode => .resetNode
  | .resetCommunication => .resetCommunication
  | .resetConfiguration => .resetConfiguration
  | .swReset => .swReset

omit [ObjectDictionaryStorage σ] in
/-- `NmtNetHostNameSet`: the new name is written and the node asks for an IdentRequest. -/
def setHostName (c : CnContext σ) (payload : List UInt8) : CnContext σ :=
  if payload.length < 34 then c
  else
    let name := ((payload.drop 2).take 32).takeWhile (fun b => decide (b ≠ 0))
    match ObjectValue.fromUtf8 name with
    | none => c
    | some hostName =>
        queueNmtServiceRequest { c with
          core := { c.core with
            od := (c.core.od.writeInternal 0x1F9A 0 (.visibleString hostName) false).2 } }
          .identRequest c.nodeId

omit [ObjectDictionaryStorage σ] in
/-- An NMT command for this node: the event of a state command, and the effect of a managing
command.  `NmtFlushArpEntry` has none. -/
def receiveNmtCommand (c : CnContext σ) (payload : List UInt8) : Option NmtEvent × CnContext σ :=
  match payload.head? with
  | none => (none, c)
  | some commandId =>
      match NmtStateCommand.tryFrom commandId with
      | .ok command => (some (commandEvent command), c)
      | .error _ =>
          match NmtManagingCommand.tryFrom commandId with
          | .ok .nmtNetHostNameSet => (none, c.setHostName payload)
          | _ => (none, c)

/-! ### The SoC -/

omit [ObjectDictionaryStorage σ] in
/-- The cycle time `0x1006` and the tolerance `0x1C14`, in microseconds. -/
def socTiming (c : CnContext σ) : Option (ℕ × ℕ) :=
  match c.core.od.readU32 0x1006 0, c.core.od.readU32 0x1C14 0 with
  | some cycleTimeUs, some toleranceNs => some (cycleTimeUs.toNat, toleranceNs.toNat / 1000)
  | _, _ => none

omit [ObjectDictionaryStorage σ] in
/-- The end of a cycle for the error counters: the last error that is cleared clears the generic
error bit. -/
def completeCycle (c : CnContext σ) : CnContext σ :=
  let r := c.dllErrorManager.onCycleComplete
  let c := { c with dllErrorManager := r.2 }
  if r.1 then
    countError { c.writeErrorRegister (c.errorRegister &&& ~~~1) with errorStatusChanged := true } 5
  else c

omit [ObjectDictionaryStorage σ] in
/-- The deadline for the next SoC: only an earlier one replaces a deadline that is set. -/
def scheduleSocCheck (c : CnContext σ) (currentTimeUs : ℕ) : CnContext σ :=
  match c.socTiming with
  | none => { c with socTimeoutCheckActive := false }
  | some (cycleTimeUs, toleranceUs) =>
      if 0 < cycleTimeUs then
        let deadline := currentTimeUs + cycleTimeUs + toleranceUs
        match c.nextTickUs with
        | some currentDeadline =>
            if deadline < currentDeadline then { c with nextTickUs := some deadline } else c
        | none => { c with nextTickUs := some deadline }
      else { c with socTimeoutCheckActive := false }

omit [ObjectDictionaryStorage σ] in
/-- The effect of a SoC. -/
def receiveSoc (c : CnContext σ) (currentTimeUs : ℕ) : CnContext σ :=
  let c := c.record (.socReceived currentTimeUs c.nextTickUs)
  let c := { c with lastSocReceptionTimeUs := currentTimeUs, socTimeoutCheckActive := true }
  ((c.count 1).completeCycle).scheduleSocCheck currentTimeUs

/-! ### Counters and flags -/

omit [ObjectDictionaryStorage σ] in
/-- The receive counters of the other frames, and the heartbeat of a PRes. -/
def countReceived (c : CnContext σ) (frame : PowerlinkFrame) (currentTimeUs : ℕ) : CnContext σ :=
  match frame with
  | .pReq _ => c.count 2
  | .pRes pres =>
      let c := c.count 2
      { c with
        heartbeatConsumers :=
          c.heartbeatConsumers.modify pres.source (fun p => (p.1, currentTimeUs)) }
  | .soA soa =>
      let c := c.count 4
      if soa.reqServiceId = .statusRequest then c.count 8 else c
  | _ => c

omit [ObjectDictionaryStorage σ] in
/-- The ER flag of a SoA for this node. -/
def receiveFlags (c : CnContext σ) (frame : PowerlinkFrame) : CnContext σ :=
  match frame with
  | .soA soa =>
      if soa.targetNodeId = c.nodeId then
        let c := if soa.flags.er then
            countError { c with enFlag := false, emergencyQueue := [] } 6
          else c
        { c with ecFlag := soa.flags.er }
      else c
  | _ => c

omit [ObjectDictionaryStorage σ] in
/-- The NMT event of a frame, with the effect of a managing command. -/
def receiveNmtEvent (c : CnContext σ) (frame : PowerlinkFrame) : Option NmtEvent × CnContext σ :=
  match frame with
  | .soc _ => (some .socReceived, c)
  | .soA _ => (some .socSoAReceived, c)
  | .aSnd frame =>
      if frame.destination = c.nodeId ∧ frame.serviceId = .nmtCommand then
        c.receiveNmtCommand frame.payload
      else (none, c)
  | _ => (none, c)

/-- `PowerlinkFrame::dll_cn_event`. -/
def dllCnEvent : PowerlinkFrame → DllCsEvent
  | .soc _ => .soc
  | .pReq _ => .preq
  | .pRes _ => .pres
  | .soA _ => .soa
  | .aSnd _ => .asnd

/-! ### Process data and the response -/

/-- The consumption of the process data of a frame. -/
def receivePdo (c : CnContext σ) (frame : PowerlinkFrame) : Option (CnContext σ) :=
  match frame with
  | .pReq preq =>
      if preq.destination = c.nodeId then
        c.consumePdo preq.source preq.payload preq.pdoVersion preq.flags.rd
      else some c
  | .pRes pres => c.consumePdo pres.source pres.payload pres.pdoVersion pres.flags.rd
  | _ => some c

omit [ObjectDictionaryStorage σ] in
/-- The toggle of the EN flag after a change of the error status. -/
def toggleExceptionFlag (c : CnContext σ) : CnContext σ :=
  if c.errorStatusChanged then
    countError { c with enFlag := !c.enFlag, errorStatusChanged := false } 7
  else c

omit [ObjectDictionaryStorage σ] in
/-- The response to a SoA that invites this node. -/
def answerSoa (c : CnContext σ) (soa : SoAFrame) : Option PowerlinkFrame × CnContext σ :=
  match soa.reqServiceId with
  | .identRequest =>
      let c := c.count 5
      (some (c.buildIdentResponse soa), c)
  | .statusRequest =>
      let r := (c.count 5).buildStatusResponse soa
      (some r.1, r.2)
  | .nmtRequestInvite =>
      match c.pendingNmtRequests.getLast? with
      | none => (none, c)
      | some (command, target) =>
          let c := count { c with pendingNmtRequests := c.pendingNmtRequests.dropLast } 5
          (some (c.buildNmtRequest command.asU8 target soa), c)
  | .unspecifiedInvite =>
      match c.sdoClient.popPendingRequest with
      | (none, client) => (none, { c with sdoClient := client })
      | (some request, client) =>
          let c := count { c with sdoClient := client } 7
          (some (c.asndTo soa .sdo request.2), c)
  | .noService => (none, c)

/-- The NMT states in which a SoA is answered. -/
def answersSoa : NmtState → Bool
  | .nmtPreOperational1 | .nmtPreOperational2 | .nmtReadyToOperate | .nmtOperational
  | .nmtCsStopped => true
  | _ => false

/-- The NMT states in which a PReq is answered. -/
def answersPreq : NmtState → Bool
  | .nmtPreOperational2 | .nmtReadyToOperate | .nmtOperational => true
  | _ => false

omit [ObjectDictionaryStorage σ] in
/-- The response frame. -/
def answer (c : CnContext σ) (frame : PowerlinkFrame) :
    Option (Option PowerlinkFrame × CnContext σ) :=
  if .nmtNotActive ≤ c.nmtState then
    match frame with
    | .soA soa =>
        if soa.targetNodeId = c.nodeId ∧ answersSoa c.nmtState then some (c.answerSoa soa)
        else some (none, c)
    | .pReq preq =>
        if preq.destination = c.nodeId ∧ answersPreq c.nmtState then do
          let (response, c) ← (c.count 3).buildPresResponse
          some (some response, c)
        else some (none, c)
    | _ => some (none, c)
  else some (none, c)

/-! ### One frame -/

omit [ObjectDictionaryStorage σ] in
/-- The section of `process_frame` for a SoC. -/
def receiveCycleStart (c : CnContext σ) (frame : PowerlinkFrame) (currentTimeUs : ℕ) :
    CnContext σ :=
  match frame with
  | .soc _ => c.receiveSoc currentTimeUs
  | _ => c

/-- The NMT event of a frame, if there is one, is processed. -/
def raise (c : CnContext σ) : Option NmtEvent → CnContext σ
  | some event => c.processNmtEvent event
  | none => c

/-- `process_frame` after the sorting of the ASnd frames, up to the NMT event. -/
def receiveFrame (c : CnContext σ) (frame : PowerlinkFrame) (currentTimeUs : ℕ) : CnContext σ :=
  let c := c.receiveCycleStart frame currentTimeUs
  let c := (c.countReceived frame currentTimeUs).receiveFlags frame
  let r := c.receiveNmtEvent frame
  r.2.raise r.1

/-- The end of `process_frame`: the process data, the EN flag and the response. -/
def respondFrame (c : CnContext σ) (frame : PowerlinkFrame) : Option (NodeAction × CnContext σ) := do
  let c ← c.receivePdo frame
  let (response, c) ← c.toggleExceptionFlag.answer frame
  some (match response with
    | some frame => respond frame
    | none => .noAction, c)

/-- `process_frame` after the sorting of the ASnd frames. -/
def processAccepted (c : CnContext σ) (frame : PowerlinkFrame) (currentTimeUs : ℕ) :
    Option (NodeAction × CnContext σ) :=
  let c := c.receiveFrame frame currentTimeUs
  let r := c.dllStateMachine.processEvent (dllCnEvent frame) c.nmtState
  match handleDllErrors { c with dllStateMachine := r.2 } r.1 currentTimeUs with
  | (true, c) => some (.noAction, c)
  | (false, c) => c.respondFrame frame

/-- `process_frame`. -/
def processFrame (c : CnContext σ) (frame : PowerlinkFrame) (currentTimeUs : ℕ) :
    Option (NodeAction × CnContext σ) :=
  match frame with
  | .aSnd asnd =>
      if asnd.destination = c.nodeId ∧ asnd.serviceId = .sdo then
        some (c.receiveSdo asnd currentTimeUs)
      else if asnd.destination = c.nodeId then (c.count 4).processAccepted frame currentTimeUs
      else some (.noAction, c)
  | _ => c.processAccepted frame currentTimeUs

end CnContext

end Powerlink
