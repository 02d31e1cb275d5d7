import Powerlink.Mn.Cycle

/-! # Received frames

The model of `node/mn/events.rs`: the effect of a PRes or of an ASnd that is not an SDO frame for
the managing node on the tracked nodes, on the boot-up and on the cycle.

`acceptPres` ignores the action of `advanceCyclePhase` after the awaited PRes, as `process_frame`
does.  `none` stands for a panic or for a loop that does not end. -/

namespace Powerlink

/-- The tracked state for a reported NMT state. -/
def CnState.ofReported (reported : NmtState) (current : CnState) : CnState :=
  match reported with
  | .nmtPreOperational1 => .identified
  | .nmtPreOperational2 | .nmtReadyToOperate => .preOperational
  | .nmtOperational => .operational
  | .nmtCsStopped => .stopped
  | _ => current

namespace MnContext

variable {σ : Type} [ObjectDictionaryStorage σ]

/-- `update_cn_state`. -/
def updateCnState (c : MnContext σ) (nodeId : NodeId) (reportedState : NmtState) : MnContext σ :=
  match c.nodeInfo.get? nodeId with
  | none => c
  | some info =>
      let newState := CnState.ofReported reportedState info.state
      if info.state = newState then c
      else
        let c := c.track nodeId newState
        let c := if newState < .preOperational then
            { c with
              nodeInfo := c.nodeInfo.modify nodeId
                (fun info => { info with communicationOk := false }) }
          else c
        c.checkBootupState

/-! ### PRes -/

omit [ObjectDictionaryStorage σ] in
/-- The payload of a PRes is within the limit configured for its source. -/
def withinLimit (c : MnContext σ) (pres : PResFrame) : Bool :=
  decide (pres.payload.length ≤ ((c.core.od.readU16 0x1F8D pres.source.id).getD 0).toNat)

omit [ObjectDictionaryStorage σ] in
/-- The RS flag of a PRes: the node asks for an asynchronous slot. -/
def queueRequest (c : MnContext σ) (pres : PResFrame) : MnContext σ :=
  if 0 < pres.flags.rs.value then
    { c with asyncRequestQueue := c.asyncRequestQueue ++ [⟨pres.source, pres.flags.pr.toByte⟩] }
  else c

omit [ObjectDictionaryStorage σ] in
/-- The EN flag of a PRes: a new exception asks for a StatusRequest. -/
def checkExceptionFlag (c : MnContext σ) (pres : PResFrame) (info : CnInfo) : MnContext σ :=
  { c with
    nodeInfo := c.nodeInfo.modify pres.source (fun info => { info with enFlag := pres.flags.en })
    pendingStatusRequests :=
      if pres.flags.en ≠ info.eaFlag ∧ pres.source ∉ c.pendingStatusRequests then
        c.pendingStatusRequests ++ [pres.source]
      else c.pendingStatusRequests }

/-- `CHECK_COMMUNICATION`: in `NmtReadyToOperate` a PRes within its limit verifies the node. -/
def checkCommunication (c : MnContext σ) (pres : PResFrame) (info : CnInfo) : MnContext σ :=
  if c.nmtState = .nmtReadyToOperate ∧ info.communicationOk = false ∧ c.withinLimit pres then
    checkBootupState { c with
      nodeInfo := c.nodeInfo.modify pres.source
        (fun info => { info with communicationOk := true }) }
  else c

/-- `handle_pres_frame`. -/
def handlePresFrame (c : MnContext σ) (pres : PResFrame) : MnContext σ :=
  let c := c.record (.presReceived pres.source (c.withinLimit pres)
    (c.nodeInfo.state pres.source) c.nmtState)
  let c := c.queueRequest pres
  match c.nodeInfo.get? pres.source with
  | none => c
  | some info => (c.checkExceptionFlag pres info).checkCommunication pres info

/-- A PRes updates what is known of its source. -/
def trackPres (c : MnContext σ) (pres : PResFrame) (currentTimeUs : ℕ) : MnContext σ :=
  match c.nodeInfo.get? pres.source with
  | none => c
  | some _ =>
      updateCnState { c with
        nodeInfo := c.nodeInfo.modify pres.source (fun info =>
          { info with
            nmtState := pres.nmtState
            lastPresTimeUs := currentTimeUs
            dllErrors := 0 }) } pres.source pres.nmtState

/-- The awaited PRes: its payload is consumed and the phase advances. -/
def acceptPres (c : MnContext σ) (pres : PResFrame) (currentTimeUs : ℕ) : Option (MnContext σ) := do
  let r ← consumePdoPayload (c.core, c.dllErrorManager) pres.source pres.payload pres.pdoVersion
    pres.flags.rd
  let c := record { c with pendingTimeoutEvent := none, core := r.1, dllErrorManager := r.2 }
    (.answered pres.source)
  let (_action, c) ← (c.handlePresFrame pres).advanceCyclePhase currentTimeUs
  some c

/-- The PRes branch of `process_frame`. -/
def processPres (c : MnContext σ) (pres : PResFrame) (currentTimeUs : ℕ) : Option (MnContext σ) :=
  let c := (c.count 2).trackPres pres currentTimeUs
  if c.currentPhase = .isochronousPReq ∧ c.currentPolledCn = some pres.source then
    c.acceptPres pres currentTimeUs
  else some (c.handlePresFrame pres)

/-! ### ASnd -/

/-- The IdentResponse branch of `handle_asnd_frame`. -/
def handleIdentResponse (c : MnContext σ) (frame : ASndFrame) (currentTimeUs : ℕ) : MnContext σ :=
  match c.nodeInfo.get? frame.source with
  | none => c
  | some info =>
      if info.state = .unknown ∨ info.state = .missing then
        match IdentResponsePayload.deserialize frame.payload with
        | .error _ => c
        | .ok payload =>
            match c.validateBootStep1Checks frame.source payload currentTimeUs with
            | (false, c) => c
            | (true, c) =>
                let c := { c.record (.validated frame.source) with
                  arpCache := c.arpCache.insert (ipFromNodeId frame.source)
                    frame.ethHeader.sourceMac }
                let c := c.track frame.source .identified
                checkBootupState { c with
                  nodeInfo := c.nodeInfo.modify frame.source (fun info =>
                    { info with
                      identity := some
                        { deviceType := payload.deviceType
                          vendorId := payload.vendorId
                          productCode := payload.productCode
                          revisionNo := payload.revisionNumber
                          serialNo := payload.serialNumber } }) }
      else c

/-- The StatusResponse branch of `handle_asnd_frame`. -/
def handleStatusResponse (c : MnContext σ) (frame : ASndFrame) : MnContext σ :=
  match c.nodeInfo.get? frame.source with
  | none => c
  | some _ =>
      let c := { c with
        nodeInfo := c.nodeInfo.modify frame.source
          (fun info => { info with eaFlag := info.enFlag }) }
      match StatusResponsePayload.deserialize frame.payload with
      | .error _ => c
      | .ok payload => c.updateCnState frame.source payload.nmtState

/-- `handle_asnd_frame`. -/
def handleAsndFrame (c : MnContext σ) (frame : ASndFrame) (currentTimeUs : ℕ) : MnContext σ :=
  match frame.serviceId with
  | .identResponse => c.handleIdentResponse frame currentTimeUs
  | .statusResponse => c.handleStatusResponse frame
  | _ => c

/-- The ASnd branch of `process_frame`. -/
def processAsnd (c : MnContext σ) (frame : ASndFrame) (currentTimeUs : ℕ) : MnContext σ :=
  let c := c.count 4
  if c.currentPhase = .asynchronousSoA then
    { handleAsndFrame { c with pendingTimeoutEvent := none } frame currentTimeUs with
      currentPhase := .idle }
  else c.handleAsndFrame frame currentTimeUs

/-- `PowerlinkFrame::dll_mn_event`. -/
def dllMnEvent : PowerlinkFrame → DllMsEvent
  | .pRes _ => .pres
  | _ => .asnd

/-- `process_frame`. -/
def processFrame (c : MnContext σ) (frame : PowerlinkFrame) (currentTimeUs : ℕ) :
    Option (MnContext σ) :=
  let c := match frame.nmtEvent with
    | some event => if c.nmtState ≠ NmtState.nmtNotActive then c.processNmtEvent event else c
    | none => c
  let c := c.handleDllEvent (dllMnEvent frame) frame
  match frame with
  | .pRes pres => c.processPres pres currentTimeUs
  | .aSnd frame => some (c.processAsnd frame currentTimeUs)
  | _ => some c

end MnContext

end Powerlink
