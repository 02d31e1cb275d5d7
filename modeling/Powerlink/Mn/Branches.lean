import Powerlink.Mn.Node

/-! # The branches of a call

A call of `run_cycle` takes one way through `process_frame`, `handle_tick`, `advance_cycle_phase`
and `determine_next_async_action`.  Each of these functions is cut here into the choice of a branch
and its execution: `receivePoint`, `tickPoint`, `advancePoint` and `asyncChoice` name the branch
together with the context in which it is taken, and `run` or `apply` executes it.  The equations
`receiveEthernet_eq`, `handleTick_eq`, `advanceCyclePhase_eq` and `determineNextAsyncAction_eq` say
that this is what the functions do, so that a property of whole runs can refer to a branch, and its
proof has one case for each. -/

namespace Powerlink

namespace MnContext

variable {σ : Type}

/-! ### The next asynchronous action -/

/-- The ten steps of `determine_next_async_action`; the steps 3 and 4 are one. -/
inductive AsyncChoice where
  | exception (nodeId : NodeId)
  | status (nodeId : NodeId)
  | own
  | request (frame : ClientFrame)
  | identify (nodeId : NodeId)
  | poll (nodeId : NodeId)
  | publish (serviceId : ServiceId)
  | grant (request : AsyncRequest) (rest : List AsyncRequest)
  | nothing

/-- The context after the SDO clients were asked for a request. -/
def afterSdo (c : MnContext σ) : MnContext σ :=
  { c with sdoClientManager :=
      (c.sdoClientManager.getPendingRequest c.currentCycleStartTimeUs c.core.od).2 }

/-- The steps 9 and 10. -/
def grantChoice (c : MnContext σ) : AsyncChoice :=
  match popAsyncRequest c.asyncRequestQueue with
  | some (request, rest) => .grant request rest
  | none => .nothing

/-- The steps 7 to 10. -/
def idleChoice (c : MnContext σ) : AsyncChoice :=
  match c.findNextAsyncOnlyToPoll with
  | some nodeId => .poll nodeId
  | none =>
      if c.mnAsyncSendQueue.isEmpty then
        match c.publishConfig.get? c.currentMultiplexCycle with
        | some serviceId => .publish serviceId
        | none => c.grantChoice
      else c.grantChoice

/-- The steps 6 to 10. -/
def backgroundChoice (c : MnContext σ) : Option AsyncChoice :=
  match c.findNextNodeToIdentify with
  | none => none
  | some (some nodeId) => some (.identify nodeId)
  | some none => some c.idleChoice

/-- The step that is taken; `none` where the loop of the identification does not end. -/
def asyncChoice (c : MnContext σ) : Option AsyncChoice :=
  match c.pendingErRequests.getLast? with
  | some nodeId => some (.exception nodeId)
  | none =>
      match c.pendingStatusRequests.getLast? with
      | some nodeId => some (.status nodeId)
      | none =>
          if !c.pendingNmtCommands.isEmpty then some .own
          else if !c.mnAsyncSendQueue.isEmpty then some .own
          else match (c.sdoClientManager.getPendingRequest c.currentCycleStartTimeUs c.core.od).1 with
            | some frame => some (.request frame)
            | none => c.backgroundChoice

/-- What a step returns and changes. -/
def AsyncChoice.apply (c : MnContext σ) : AsyncChoice → AsyncAction × MnContext σ
  | exception nodeId =>
      ((.statusRequest, nodeId, true),
        { c with pendingErRequests := c.pendingErRequests.dropLast })
  | status nodeId =>
      ((.statusRequest, nodeId, false),
        { c with pendingStatusRequests := c.pendingStatusRequests.dropLast })
  | own => ((.unspecifiedInvite, cAdrMnDefNodeId, false), c)
  | request frame =>
      ((.unspecifiedInvite, cAdrMnDefNodeId, false),
        { c.afterSdo with
          mnAsyncSendQueue := c.mnAsyncSendQueue ++ [c.sdoRequestFrame frame] })
  | identify nodeId =>
      ((.identRequest, nodeId, false), { c.afterSdo with lastIdentPollNodeId := nodeId })
  | poll nodeId =>
      ((.statusRequest, nodeId, false), { c.afterSdo with lastStatusPollNodeId := nodeId })
  | publish serviceId =>
      ((.unspecifiedInvite, cAdrMnDefNodeId, false),
        { c.afterSdo with
          mnAsyncSendQueue := c.mnAsyncSendQueue ++ [c.buildNmtInfoFrame serviceId] })
  | grant r rest =>
      ((if r.priority = 7 then .nmtRequestInvite else .unspecifiedInvite, r.nodeId, false),
        { c.afterSdo with asyncRequestQueue := rest })
  | nothing => ((.noService, ⟨0⟩, false), c.afterSdo)

theorem grantRequest_eq (c : MnContext σ) : c.afterSdo.grantRequest = c.grantChoice.apply c := by
  unfold grantRequest grantChoice
  change (match popAsyncRequest c.asyncRequestQueue with
    | some (request, queue) => _
    | none => _) = _
  cases popAsyncRequest c.asyncRequestQueue with
  | none => rfl
  | some r => rfl

theorem determineIdleAction_eq (c : MnContext σ) :
    c.afterSdo.determineIdleAction = c.idleChoice.apply c := by
  unfold determineIdleAction idleChoice
  change (match c.findNextAsyncOnlyToPoll with
    | some nodeId => _
    | none => if c.mnAsyncSendQueue.isEmpty then
        match c.publishConfig.get? c.currentMultiplexCycle with
        | some serviceId => _
        | none => c.afterSdo.grantRequest
      else c.afterSdo.grantRequest) = _
  cases c.findNextAsyncOnlyToPoll with
  | some nodeId => rfl
  | none =>
      dsimp only
      by_cases hempty : c.mnAsyncSendQueue.isEmpty
      · rw [if_pos hempty, if_pos hempty]
        cases c.publishConfig.get? c.currentMultiplexCycle with
        | some serviceId => rfl
        | none => exact c.grantRequest_eq
      · rw [if_neg hempty, if_neg hempty]
        exact c.grantRequest_eq

theorem determineBackgroundAction_eq (c : MnContext σ) :
    c.afterSdo.determineBackgroundAction = c.backgroundChoice.map (AsyncChoice.apply c) := by
  unfold determineBackgroundAction backgroundChoice
  change (match c.findNextNodeToIdentify with
    | none => none
    | some (some nodeId) => some _
    | some none => some c.afterSdo.determineIdleAction) = _
  cases c.findNextNodeToIdentify with
  | none => rfl
  | some found =>
      cases found with
      | some nodeId => rfl
      | none => exact congrArg some c.determineIdleAction_eq

/-- `determine_next_async_action` takes the step that `asyncChoice` names. -/
theorem determineNextAsyncAction_eq (c : MnContext σ) :
    c.determineNextAsyncAction = c.asyncChoice.map (AsyncChoice.apply c) := by
  unfold determineNextAsyncAction asyncChoice
  cases c.pendingErRequests.getLast? with
  | some nodeId => rfl
  | none =>
      cases c.pendingStatusRequests.getLast? with
      | some nodeId => rfl
      | none =>
          dsimp only
          split_ifs
          · rfl
          · rfl
          · cases (c.sdoClientManager.getPendingRequest c.currentCycleStartTimeUs c.core.od).1 with
            | some frame => rfl
            | none => exact c.determineBackgroundAction_eq

/-- What a step has found. -/
def AsyncChoice.Found (c : MnContext σ) : AsyncChoice → Prop
  | exception nodeId => c.pendingErRequests.getLast? = some nodeId
  | status nodeId => c.pendingStatusRequests.getLast? = some nodeId
  | own => c.pendingNmtCommands ≠ [] ∨ c.mnAsyncSendQueue ≠ []
  | request frame =>
      c.pendingNmtCommands = [] ∧ c.mnAsyncSendQueue = [] ∧
        (c.sdoClientManager.getPendingRequest c.currentCycleStartTimeUs c.core.od).1 = some frame
  | identify nodeId => c.findNextNodeToIdentify = some (some nodeId)
  | poll nodeId => c.findNextAsyncOnlyToPoll = some nodeId
  | publish serviceId =>
      c.pendingNmtCommands = [] ∧ c.mnAsyncSendQueue = [] ∧
        c.publishConfig.get? c.currentMultiplexCycle = some serviceId
  | grant r rest => popAsyncRequest c.asyncRequestQueue = some (r, rest)
  | nothing => True

theorem found_grantChoice (c : MnContext σ) : c.grantChoice.Found c := by
  unfold grantChoice
  split
  · assumption
  · trivial

theorem found_idleChoice (c : MnContext σ) (hcommands : c.pendingNmtCommands = []) :
    c.idleChoice.Found c := by
  unfold idleChoice
  split
  · assumption
  · split_ifs with hempty
    · split
      · rename_i serviceId hpublish
        exact ⟨hcommands, List.isEmpty_iff.mp hempty, hpublish⟩
      · exact c.found_grantChoice
    · exact c.found_grantChoice

theorem found_asyncChoice {c : MnContext σ} {choice : AsyncChoice}
    (h : c.asyncChoice = some choice) : choice.Found c := by
  unfold asyncChoice at h
  split at h
  · obtain rfl := Option.some.inj h
    assumption
  · split at h
    · obtain rfl := Option.some.inj h
      assumption
    · split_ifs at h with hcommands hframes
      · obtain rfl := Option.some.inj h
        exact .inl (by simpa using hcommands)
      · obtain rfl := Option.some.inj h
        exact .inr (by simpa using hframes)
      · have hcommands' : c.pendingNmtCommands = [] := by simpa using hcommands
        have hframes' : c.mnAsyncSendQueue = [] := by simpa using hframes
        split at h
        · rename_i frame hsdo
          obtain rfl := Option.some.inj h
          exact ⟨hcommands', hframes', hsdo⟩
        · unfold backgroundChoice at h
          split at h
          · cases h
          · obtain rfl := Option.some.inj h
            assumption
          · obtain rfl := Option.some.inj h
            exact c.found_idleChoice hcommands'

/-! ### Advancing the phase -/

/-- The branches of `advance_cycle_phase`: a PReq, an NMT info frame in place of the SoA, or a
SoA. -/
inductive AdvancePoint (σ : Type) where
  | poll (nodeId : NodeId) (c : MnContext σ)
  | publish (serviceId : ServiceId) (c : MnContext σ)
  | schedule (c : MnContext σ)

/-- The branches of the end of the isochronous phase. -/
def endPoint (c : MnContext σ) : AdvancePoint σ :=
  let c := { c with currentPolledCn := none, currentPhase := .isochronousDone }
  match c.publishConfig.get? (c.currentMultiplexCycle + 1) with
  | some serviceId => .publish serviceId c
  | none => .schedule c

/-- The branch that is taken. -/
def advancePoint (c : MnContext σ) : AdvancePoint σ :=
  if .nmtPreOperational2 ≤ c.nmtState then
    match c.getNextIsochronousNodeToPoll c.currentMultiplexCycle with
    | (some nodeId, c) => .poll nodeId c
    | (none, c) => c.endPoint
  else c.endPoint

/-- The NMT info frame replaces the SoA and ends the cycle. -/
def publishInfo (c : MnContext σ) (serviceId : ServiceId) : NodeAction × MnContext σ :=
  let c := count { c with currentPhase := .idle } 5
  let frame := c.buildNmtInfoFrame serviceId
  (send frame, c.record (.advanced frame))

/-- Takes a branch. -/
def AdvancePoint.run (t : ℕ) : AdvancePoint σ → Option (NodeAction × MnContext σ)
  | poll nodeId c => some (c.pollNode nodeId t)
  | publish serviceId c => some (c.publishInfo serviceId)
  | schedule c =>
      c.asyncChoice.map (fun choice => (choice.apply c).2.sendSoa (choice.apply c).1 t)

theorem endIsochronousPhase_eq (c : MnContext σ) (t : ℕ) :
    c.endIsochronousPhase t = c.endPoint.run t := by
  dsimp only [endIsochronousPhase, endPoint]
  cases c.publishConfig.get? (c.currentMultiplexCycle + 1) with
  | some serviceId => rfl
  | none =>
      dsimp only [AdvancePoint.run]
      rw [determineNextAsyncAction_eq]
      cases asyncChoice { c with currentPolledCn := none, currentPhase := .isochronousDone } with
      | none => rfl
      | some choice => rfl

/-- `advance_cycle_phase` takes the branch that `advancePoint` names. -/
theorem advanceCyclePhase_eq (c : MnContext σ) (t : ℕ) :
    c.advanceCyclePhase t = c.advancePoint.run t := by
  unfold advanceCyclePhase advancePoint
  split_ifs
  · rcases c.getNextIsochronousNodeToPoll c.currentMultiplexCycle with ⟨_ | nodeId, d⟩
    · exact d.endIsochronousPhase_eq t
    · rfl
  · exact c.endIsochronousPhase_eq t

/-! ### The tick -/

/-- The branches of `handle_tick`.  An answer is an SDO frame or the broadcast of `tick`, which are
returned at once. -/
inductive TickPoint (σ : Type) where
  | start (c : MnContext σ)
  | answer (action : NodeAction) (c : MnContext σ)
  | activate (c : MnContext σ)
  | deliver (event : DllMsEvent) (c : MnContext σ)
  | advance (c : MnContext σ)
  | own (c : MnContext σ)
  | rest (c : MnContext σ)

/-- The branches of `tick`. -/
def cyclePoint (c : MnContext σ) (t : ℕ) : TickPoint σ :=
  match c.initialOperationalActions with
  | (some action, c) => .answer action c
  | (none, c) =>
      match c.currentPhase with
      | .awaitingMnAsyncSend => .own c
      | .soCSent => .advance c
      | _ =>
          if c.nmtState = .nmtNotActive ∧ c.nextTickUs = none then
            .rest { c with
              nextTickUs := some (t + c.nmtStateMachine.waitNotActiveTimeout.toNat) }
          else .rest c

/-- The branches of step 4 of `handle_tick`. -/
def progressPoint (c : MnContext σ) (nmtState : NmtState) (deadlinePassed isBootstrapping : Bool)
    (t : ℕ) : TickPoint σ :=
  if nmtState = .nmtPreOperational1 ∧ c.currentPhase = .soCSent then .advance c
  else if !deadlinePassed && !isBootstrapping && decide (c.currentPhase = .idle) then .rest c
  else c.cyclePoint t

/-- The deadline has passed. -/
def deadlinePassed (c : MnContext σ) (t : ℕ) : Bool :=
  match c.nextTickUs with
  | some deadline => decide (deadline ≤ t)
  | none => false

/-- The branches of the steps 3 and 4 of `handle_tick`. -/
def deadlinePoint (c : MnContext σ) (t : ℕ) : TickPoint σ :=
  let isBootstrapping := decide (c.nmtState = .nmtNotActive) && c.nextTickUs.isNone
  if c.deadlinePassed t then
    if c.nmtState = .nmtNotActive then .activate { c with nextTickUs := none }
    else match c.pendingTimeoutEvent with
      | some event => .deliver event { c with nextTickUs := none }
      | none =>
          progressPoint { c with nextTickUs := none } c.nmtState true isBootstrapping t
  else c.progressPoint c.nmtState false isBootstrapping t

/-- The branch of `handle_tick` that is taken. -/
def tickPoint (c : MnContext σ) (t : ℕ) : TickPoint σ :=
  if c.cycleDue t then .start c
  else match c.tickSdoClient t with
    | (some action, c) => .answer action c
    | (none, c) =>
        match c.tickSdoServer t with
        | (some action, c) => .answer action c
        | (none, c) => c.deadlinePoint t

/-- The way through the steps 3 and 4 of `handle_tick` to a branch: the next tick may be cleared, and
the one-time actions of `tick` may be taken. -/
inductive DeadlineWay (c : MnContext σ) : TickPoint σ → Prop
  | activate (next : Option ℕ) : DeadlineWay c (.activate { c with nextTickUs := next })
  | deliver (next : Option ℕ) {event : DllMsEvent} (h : c.pendingTimeoutEvent = some event) :
      DeadlineWay c (.deliver event { c with nextTickUs := next })
  | advance (next : Option ℕ) (hphase : c.currentPhase = .soCSent) :
      DeadlineWay c (.advance { c with nextTickUs := next })
  | rest (next : Option ℕ) : DeadlineWay c (.rest { c with nextTickUs := next })
  | broadcast (next : Option ℕ) {action : NodeAction} {d : MnContext σ}
      (hactions : initialOperationalActions { c with nextTickUs := next } = (some action, d)) :
      DeadlineWay c (.answer action d)
  | own (next : Option ℕ) {d : MnContext σ}
      (hactions : initialOperationalActions { c with nextTickUs := next } = (none, d))
      (hphase : d.currentPhase = .awaitingMnAsyncSend) : DeadlineWay c (.own d)
  | proceed (next : Option ℕ) {d : MnContext σ}
      (hactions : initialOperationalActions { c with nextTickUs := next } = (none, d))
      (hphase : d.currentPhase = .soCSent) : DeadlineWay c (.advance d)
  | pause (next later : Option ℕ) {d : MnContext σ}
      (hactions : initialOperationalActions { c with nextTickUs := next } = (none, d)) :
      DeadlineWay c (.rest { d with nextTickUs := later })

/-- The way of a tick to its branch. -/
inductive TickWay (c : MnContext σ) (t : ℕ) : TickPoint σ → Prop
  | start (hdue : c.cycleDue t = true) : TickWay c t (.start c)
  | client {d : MnContext σ} {action : NodeAction}
      (hclient : c.tickSdoClient t = (some action, d)) : TickWay c t (.answer action d)
  | server {d e : MnContext σ} {action : NodeAction} (hclient : c.tickSdoClient t = (none, d))
      (hserver : d.tickSdoServer t = (some action, e)) : TickWay c t (.answer action e)
  | deadline {d e : MnContext σ} {p : TickPoint σ} (hclient : c.tickSdoClient t = (none, d))
      (hserver : d.tickSdoServer t = (none, e)) (h : DeadlineWay e p) : TickWay c t p

theorem cyclePoint_way (c : MnContext σ) (next : Option ℕ) (t : ℕ) :
    DeadlineWay c (cyclePoint { c with nextTickUs := next } t) := by
  unfold cyclePoint
  rcases hactions : initialOperationalActions { c with nextTickUs := next } with ⟨_ | action, d⟩
  · dsimp only
    split
    · rename_i hphase
      exact .own next hactions hphase
    · rename_i hphase
      exact .proceed next hactions hphase
    · split_ifs
      · exact .pause next _ hactions
      · exact .pause next d.nextTickUs hactions
  · exact .broadcast next hactions

theorem progressPoint_way (c : MnContext σ) (next : Option ℕ) (nmtState : NmtState)
    (passed bootstrapping : Bool) (t : ℕ) :
    DeadlineWay c (progressPoint { c with nextTickUs := next } nmtState passed bootstrapping t) := by
  unfold progressPoint
  split_ifs with hpreop
  · exact .advance next hpreop.2
  · exact .rest next
  · exact c.cyclePoint_way next t

theorem deadlinePoint_way (c : MnContext σ) (t : ℕ) : DeadlineWay c (c.deadlinePoint t) := by
  dsimp only [deadlinePoint]
  split_ifs
  · exact .activate none
  · split
    · rename_i event hpending
      exact .deliver none hpending
    · exact c.progressPoint_way none _ _ _ t
  · exact c.progressPoint_way c.nextTickUs _ _ _ t

theorem tickPoint_way (c : MnContext σ) (t : ℕ) : TickWay c t (c.tickPoint t) := by
  unfold tickPoint
  split_ifs with hdue
  · exact .start hdue
  · split
    · rename_i action d hclient
      exact .client hclient
    · rename_i d hclient
      split
      · rename_i action e hserver
        exact .server hclient hserver
      · rename_i e hserver
        exact .deadline hclient hserver (e.deadlinePoint_way t)

variable [ObjectDictionaryStorage σ]

/-- Takes a branch. -/
def TickPoint.run (t : ℕ) : TickPoint σ → Option (NodeAction × MnContext σ)
  | start c => some (c.startCycle t)
  | answer action c => some (action, c)
  | activate c => some (.noAction, c.processNmtEvent .timeout)
  | deliver event c => c.deliverTimeout event t
  | advance c => c.advanceCyclePhase t
  | own c => some (c.sendOwnAsync t)
  | rest c => some (.noAction, c)

theorem tick_eq (c : MnContext σ) (t : ℕ) : c.tick t = (c.cyclePoint t).run t := by
  unfold tick cyclePoint
  rcases c.initialOperationalActions with ⟨_ | action, d⟩
  · dsimp only
    cases d.currentPhase with
    | awaitingMnAsyncSend => rfl
    | soCSent => rfl
    | _ =>
        dsimp only
        split_ifs
        · rfl
        · rfl
  · rfl

theorem progressPhase_eq (c : MnContext σ) (nmtState : NmtState) (passed bootstrapping : Bool)
    (t : ℕ) : c.progressPhase nmtState passed bootstrapping t =
      (c.progressPoint nmtState passed bootstrapping t).run t := by
  unfold progressPhase progressPoint
  split_ifs
  · rfl
  · rfl
  · exact c.tick_eq t

theorem tickDeadline_eq (c : MnContext σ) (t : ℕ) :
    c.tickDeadline t = (c.deadlinePoint t).run t := by
  dsimp only [tickDeadline, deadlinePoint]
  change (if c.deadlinePassed t then
      if c.nmtState = .nmtNotActive then _
      else match c.pendingTimeoutEvent with
        | some event => _
        | none => _
    else _) = _
  split_ifs
  · rfl
  · cases c.pendingTimeoutEvent with
    | some event => rfl
    | none => exact progressPhase_eq _ _ _ _ t
  · exact progressPhase_eq _ _ _ _ t

/-- `handle_tick` takes the branch that `tickPoint` names. -/
theorem handleTick_eq (c : MnContext σ) (t : ℕ) : c.handleTick t = (c.tickPoint t).run t := by
  unfold handleTick tickPoint
  split_ifs
  · rfl
  · rcases c.tickSdoClient t with ⟨_ | action, d⟩
    · dsimp only
      rcases d.tickSdoServer t with ⟨_ | action, e⟩
      · exact e.tickDeadline_eq t
      · rfl
    · rfl

/-! ### Received frames -/

/-- The branches of a received frame: a panic, a frame that only changes the context, an SDO request
that is answered at once, and the awaited PRes, which advances the phase. -/
inductive ReceivePoint (σ : Type) where
  | panic
  | pass (c : MnContext σ)
  | reply (action : NodeAction) (c : MnContext σ)
  | answered (c : MnContext σ)

/-- The branches of a PRes. -/
def presPoint (c : MnContext σ) (pres : PResFrame) (t : ℕ) : ReceivePoint σ :=
  let c := ((c.handleDllEvent .pres (.pRes pres)).count 2).trackPres pres t
  if c.currentPhase = .isochronousPReq ∧ c.currentPolledCn = some pres.source then
    match consumePdoPayload (c.core, c.dllErrorManager) pres.source pres.payload pres.pdoVersion
        pres.flags.rd with
    | none => .panic
    | some r =>
        .answered (handlePresFrame (record
          { c with pendingTimeoutEvent := none, core := r.1, dllErrorManager := r.2 }
          (.answered pres.source)) pres)
  else .pass (c.handlePresFrame pres)

/-- The branches of an ASnd. -/
def asndPoint (c : MnContext σ) (frame : ASndFrame) (t : ℕ) : ReceivePoint σ :=
  if frame.serviceId = .sdo ∧ frame.destination = c.nmtStateMachine.nodeId then
    match c.processSdoResponse frame with
    | none => .panic
    | some c => .pass c
  else if frame.serviceId = .sdo ∧ frame.destination = cAdrMnDefNodeId then
    let r := (c.count 6).handleSdoServerRequest frame.payload
      (.asnd frame.source frame.ethHeader.sourceMac) t
    .reply r.1 r.2
  else .pass ((c.handleDllEvent .asnd (.aSnd frame)).processAsnd frame t)

/-- The branches of a POWERLINK frame. -/
def framePoint (c : MnContext σ) (frame : PowerlinkFrame) (t : ℕ) : ReceivePoint σ :=
  match frame with
  | .pRes pres => c.presPoint pres t
  | .aSnd frame => c.asndPoint frame t
  | _ => .pass c

/-- The branch of a received frame that is taken. -/
def receivePoint (c : MnContext σ) (input : CycleInput) : ReceivePoint σ :=
  match input.ethernetFrame with
  | none => .pass c
  | some buffer =>
      if isPowerlinkBuffer buffer then
        if c.nmtState = .nmtGsResetCommunication then .pass (c.processNmtEvent .error)
        else match deserializeFrame buffer with
          | .ok frame => c.framePoint frame input.currentTimeUs
          | .error _ => .pass c
      else .pass c

/-- Only SDO requests are answered at once. -/
theorem exists_request_of_reply {c d : MnContext σ} {input : CycleInput} {action : NodeAction}
    (h : c.receivePoint input = .reply action d) :
    ∃ payload clientInfo t,
      (c.count 6).handleSdoServerRequest payload clientInfo t = (action, d) := by
  unfold receivePoint at h
  split at h
  · cases h
  · split_ifs at h
    split at h
    · rename_i frame _
      unfold framePoint at h
      split at h
      · dsimp only [presPoint] at h
        split_ifs at h
        split at h
        · cases h
        · cases h
      · dsimp only [asndPoint] at h
        split_ifs at h
        · split at h
          · cases h
          · cases h
        · obtain ⟨rfl, rfl⟩ := ReceivePoint.reply.inj h
          exact ⟨_, _, _, rfl⟩
      · cases h
    · cases h

omit [ObjectDictionaryStorage σ] in
/-- Takes a branch. -/
def ReceivePoint.run (t : ℕ) : ReceivePoint σ → Option (NodeAction × MnContext σ)
  | panic => none
  | pass c => some (.noAction, c)
  | reply action c => some (action, c)
  | answered c => (c.advanceCyclePhase t).map (fun r => (.noAction, r.2))

theorem processPres_eq (c : MnContext σ) (pres : PResFrame) (t : ℕ) :
    ((c.handleDllEvent .pres (.pRes pres)).processPres pres t).map (fun c => (.noAction, c)) =
      (c.presPoint pres t).run t := by
  dsimp only [processPres, presPoint]
  generalize ((c.handleDllEvent .pres (.pRes pres)).count 2).trackPres pres t = d
  split_ifs
  · unfold acceptPres
    cases consumePdoPayload (d.core, d.dllErrorManager) pres.source pres.payload pres.pdoVersion
        pres.flags.rd with
    | none => rfl
    | some r =>
        dsimp only [ReceivePoint.run, Option.bind_some, bind]
        generalize handlePresFrame (record { d with
          pendingTimeoutEvent := none
          core := r.1
          dllErrorManager := r.2 } (.answered pres.source)) pres = e
        cases e.advanceCyclePhase t with
        | none => rfl
        | some r => rfl
  · rfl

theorem processAsndFrame_eq (c : MnContext σ) (frame : ASndFrame) (t : ℕ) :
    c.processAsndFrame frame t = (c.asndPoint frame t).run t := by
  unfold processAsndFrame asndPoint
  split_ifs
  · cases c.processSdoResponse frame with
    | none => rfl
    | some d => rfl
  · rfl
  · rfl

/-- `process_ethernet_frame` takes the branch that `receivePoint` names. -/
theorem receiveEthernet_eq (c : MnContext σ) (input : CycleInput) :
    c.receiveEthernet input = (c.receivePoint input).run input.currentTimeUs := by
  unfold receiveEthernet processEthernetFrame receivePoint
  cases input.ethernetFrame with
  | none => rfl
  | some buffer =>
      dsimp only
      split_ifs
      · rfl
      · cases deserializeFrame buffer with
        | error e => rfl
        | ok frame =>
            cases frame with
            | pRes pres => exact c.processPres_eq pres _
            | aSnd frame => exact c.processAsndFrame_eq frame _
            | _ => rfl
      · rfl

/-! ### The whole call -/

/-- A call ends with the answer to a received frame, with the answer to a datagram or with its
tick. -/
inductive CallPath (c : MnContext σ) (input : CycleInput) (action : NodeAction) (d : MnContext σ) :
    Prop
  | frame (hpoint : c.receivePoint input = .reply action d) (haction : action ≠ .noAction)
  | datagram {r : MnContext σ}
      (hethernet : (c.receivePoint input).run input.currentTimeUs = some (.noAction, r))
      (hudp : r.receiveUdp input = (action, d)) (haction : action ≠ .noAction)
  | tick {r e : MnContext σ}
      (hethernet : (c.receivePoint input).run input.currentTimeUs = some (.noAction, r))
      (hudp : r.receiveUdp input = (.noAction, e))
      (htick : (e.tickPoint input.currentTimeUs).run input.currentTimeUs = some (action, d))

omit [ObjectDictionaryStorage σ] in
/-- Only an SDO request is answered at once. -/
theorem ReceivePoint.run_ne_noAction {p : ReceivePoint σ} {t : ℕ} {action : NodeAction}
    {d : MnContext σ} (h : p.run t = some (action, d)) (haction : action ≠ .noAction) :
    p = .reply action d := by
  cases p with
  | panic => cases h
  | pass c =>
      obtain ⟨rfl, -⟩ := Prod.mk.inj (Option.some.inj h)
      exact absurd rfl haction
  | reply a c =>
      obtain ⟨rfl, rfl⟩ := Prod.mk.inj (Option.some.inj h)
      rfl
  | answered c =>
      obtain ⟨r, -, heq⟩ := Option.map_eq_some_iff.mp h
      obtain ⟨rfl, -⟩ := Prod.mk.inj heq
      exact absurd rfl haction

/-- Every call takes one of the paths. -/
theorem runCycle_path {c d : MnContext σ} {input : CycleInput} {action : NodeAction}
    (h : c.runCycle input = some (action, d)) : CallPath c input action d := by
  obtain ⟨⟨a, r⟩, hethernet, h⟩ := Option.bind_eq_some_iff.mp h
  rw [receiveEthernet_eq] at hethernet
  dsimp only at h
  split_ifs at h with heth hudp
  · obtain ⟨rfl, rfl⟩ := Prod.mk.inj (Option.some.inj h)
    exact .frame (ReceivePoint.run_ne_noAction hethernet heth) heth
  · obtain rfl : a = .noAction := not_not.mp heth
    have hanswer : r.receiveUdp input = (action, d) := Option.some.inj h
    rw [hanswer] at hudp
    exact .datagram hethernet hanswer hudp
  · obtain rfl : a = .noAction := not_not.mp heth
    rw [handleTick_eq] at h
    exact .tick hethernet (Prod.ext (not_not.mp hudp) rfl) h

/-- The context in which the tick of a call starts, if the call comes to its tick. -/
def tickContext (c : MnContext σ) (input : CycleInput) : Option (MnContext σ) :=
  match (c.receivePoint input).run input.currentTimeUs with
  | some (.noAction, d) =>
      match d.receiveUdp input with
      | (.noAction, e) => some e
      | _ => none
  | _ => none

theorem tickContext_eq {c d e : MnContext σ} {input : CycleInput}
    (hethernet : (c.receivePoint input).run input.currentTimeUs = some (.noAction, d))
    (hudp : d.receiveUdp input = (.noAction, e)) : c.tickContext input = some e := by
  unfold tickContext
  rw [hethernet]
  dsimp only
  rw [hudp]

/-- The context in which a call uses the asynchronous slot of the managing node itself. -/
def ownSlot (c : MnContext σ) (input : CycleInput) : Option (MnContext σ) :=
  (c.tickContext input).bind (fun d =>
    match d.tickPoint input.currentTimeUs with
    | .own e => some e
    | _ => none)

theorem tickPoint_of_ownSlot {c d e : MnContext σ} {input : CycleInput}
    (hcontext : c.tickContext input = some d) (h : c.ownSlot input = some e) :
    d.tickPoint input.currentTimeUs = .own e := by
  rw [ownSlot, hcontext, Option.bind_some] at h
  split at h
  · rename_i hpoint
    rw [hpoint, Option.some.inj h]
  · cases h

/-- A call that is answered before its tick does not use the own slot. -/
theorem ownSlot_of_action {c d : MnContext σ} {input : CycleInput} {action : NodeAction}
    (h : (c.receivePoint input).run input.currentTimeUs = some (action, d))
    (haction : action ≠ .noAction) : c.ownSlot input = none := by
  rw [ownSlot, tickContext, h]
  cases action with
  | noAction => exact absurd rfl haction
  | _ => rfl

theorem ownSlot_of_datagram {c d e : MnContext σ} {input : CycleInput} {action : NodeAction}
    (hethernet : (c.receivePoint input).run input.currentTimeUs = some (.noAction, d))
    (hudp : d.receiveUdp input = (action, e)) (haction : action ≠ .noAction) :
    c.ownSlot input = none := by
  rw [ownSlot, tickContext, hethernet]
  dsimp only
  rw [hudp]
  cases action with
  | noAction => exact absurd rfl haction
  | _ => rfl

/-! ### The choices of a call -/

omit [ObjectDictionaryStorage σ] in
/-- The next asynchronous action that `advance_cycle_phase` determines. -/
def advanceChoices (c : MnContext σ) : List AsyncChoice :=
  match c.advancePoint with
  | .schedule e => e.asyncChoice.toList
  | _ => []

omit [ObjectDictionaryStorage σ] in
/-- The choices of a received frame. -/
def ReceivePoint.choices : ReceivePoint σ → List AsyncChoice
  | answered c => c.advanceChoices
  | _ => []

/-- The context in which a delivered timeout advances the phase. -/
def timeoutContext (c : MnContext σ) (event : DllMsEvent) (t : ℕ) : MnContext σ :=
  handleDllEvent (record { c with pendingTimeoutEvent := none } (.timedOut event t)) event
    timeoutFrame

/-- The choices of a tick. -/
def TickPoint.choices (t : ℕ) : TickPoint σ → List AsyncChoice
  | deliver event c => (c.timeoutContext event t).advanceChoices
  | advance c => c.advanceChoices
  | _ => []

/-- The asynchronous actions that a call determines, for the received frame and in its tick. -/
def choices (c : MnContext σ) (input : CycleInput) : List AsyncChoice :=
  (c.receivePoint input).choices ++
    match c.tickContext input with
    | some d => (d.tickPoint input.currentTimeUs).choices input.currentTimeUs
    | none => []

end MnContext

end Powerlink
