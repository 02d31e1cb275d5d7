import Powerlink.Mn.Queues

/-! # What a managing node knows of its network

The knowledge of a managing node is what it tracks of its nodes, its own NMT state, the commands that
wait for the own slot and the MAC addresses of its nodes.  `Step` lists the elementary steps in which
a call changes it, each with the part of the received frame that it rests on.

`runCycle_knowledge` says that a call is a sequence of such steps, at whose end the own slot may take
the last command. -/

namespace Powerlink

/-- What a managing node knows. -/
structure Knowledge where
  nodes : NodeTable
  mandatory : List NodeId
  machine : MnNmtStateMachine
  commands : List (MnNmtCommandRequest × NodeId × NmtCommandData)
  cache : SortedMap IpAddress MacAddress

namespace Knowledge

/-- The conditions on the mandatory nodes for the first two transitions of the boot-up. -/
structure Gate (k : Knowledge) (new : NmtState) : Prop where
  identified : k.machine.currentState = .nmtPreOperational1 → new = .nmtPreOperational2 →
    checkAllMandatoryIdentified k.mandatory k.nodes = true
  preop : k.machine.currentState = .nmtPreOperational2 → new = .nmtReadyToOperate →
    checkAllMandatoryPreop k.mandatory k.nodes = true

/-- One step; `heard` is the received frame. -/
inductive Step (heard : Option PowerlinkFrame) (k : Knowledge) : Knowledge → Prop
  /-- Something of a node is noted that is neither its state nor its identity. -/
  | note {nodes : NodeTable} {nodeId : NodeId} {info info' : CnInfo}
      (h : k.nodes.Replaces nodes nodeId info info') (hstate : info'.state = info.state)
      (hidentity : info'.identity = info.identity) : Step heard k { k with nodes := nodes }
  /-- A node reports another state. -/
  | report {nodes : NodeTable} {nodeId : NodeId} {info info' : CnInfo} {frame : PowerlinkFrame}
      (reported : NmtState) (h : k.nodes.Replaces nodes nodeId info info')
      (hheard : heard = some frame) (hreport : frame.report = some (nodeId, reported))
      (hne : info.state ≠ CnState.ofReported reported info.state)
      (hstate : info'.state = CnState.ofReported reported info.state)
      (hidentity : info'.identity = info.identity) : Step heard k { k with nodes := nodes }
  /-- A node is declared missing. -/
  | lose {nodes : NodeTable} {nodeId : NodeId} {info info' : CnInfo}
      (h : k.nodes.Replaces nodes nodeId info info') (hstate : info'.state = .missing)
      (hidentity : info'.identity = info.identity) : Step heard k { k with nodes := nodes }
  /-- A node that was declared missing is reset. -/
  | reset (nodeId : NodeId) :
      Step heard k { k with commands := k.commands ++ [(.state .resetNode, nodeId, .none)] }
  /-- An IdentResponse passes the checks: the identity that it shows is recorded, and the address of
  its sender is cached. -/
  | identify {nodes : NodeTable} {asnd : ASndFrame} {payload : IdentResponsePayload}
      {info info' : CnInfo} (h : k.nodes.Replaces nodes asnd.source info info')
      (hheard : heard = some (.aSnd asnd)) (hservice : asnd.serviceId = .identResponse)
      (hpayload : IdentResponsePayload.deserialize asnd.payload = .ok payload)
      (hstate : info'.state = .identified) (hidentity : info'.identity = some payload.identity) :
      Step heard k { k with
        nodes := nodes
        cache := k.cache.insert (ipFromNodeId asnd.source) asnd.ethHeader.sourceMac }
  /-- The NMT state machine takes an event of the boot-up. -/
  | move {event : NmtEvent} (hevent : MnNmtStateMachine.isInternal event = true)
      (hgate : k.Gate (k.machine.nextState event)) :
      Step heard k { k with
        machine := { k.machine with currentState := k.machine.nextState event } }
  /-- The node starts to drive the bus. -/
  | activate : Step heard k { k with
        machine := { k.machine with currentState := k.machine.nextState .timeout } }
  /-- The identified nodes get their commands. -/
  | ready : Step heard k { k with commands := k.commands ++ MnContext.enableReadyCommands k.nodes }
  /-- The first mandatory node is started. -/
  | start (nodeId : NodeId) (hop : k.machine.currentState = .nmtOperational) :
      Step heard k { k with commands := k.commands ++ [(.state .startNode, nodeId, .none)] }

/-- Any number of steps. -/
abbrev Steps (heard : Option PowerlinkFrame) : Knowledge → Knowledge → Prop :=
  Relation.ReflTransGen (Step heard)

/-- The invariant rule for a sequence of steps. -/
theorem Steps.induct {heard : Option PowerlinkFrame} {k k' : Knowledge} (P : Knowledge → Prop)
    (h : Steps heard k k') (hstep : ∀ a b, Step heard a b → P a → P b) (hk : P k) : P k' := by
  induction h with
  | refl => exact hk
  | tail _ hlast ih => exact hstep _ _ hlast ih

theorem Steps.of_eq {heard : Option PowerlinkFrame} {k k' : Knowledge} (h : k' = k) :
    Steps heard k k' :=
  h ▸ .refl

end Knowledge

namespace MnContext

variable {σ : Type} {heard : Option PowerlinkFrame}

/-- What the node knows. -/
def knowledge (c : MnContext σ) : Knowledge where
  nodes := c.nodeInfo
  mandatory := c.mandatoryNodes
  machine := c.nmtStateMachine
  commands := c.pendingNmtCommands
  cache := c.arpCache

open Knowledge (Step Steps)

/-! ### The tracked nodes and the NMT state -/

theorem steps_lose (c : MnContext σ) (nodeId : NodeId) :
    Steps heard c.knowledge (c.track nodeId .missing).knowledge := by
  cases hget : c.nodeInfo.get? nodeId with
  | none =>
      unfold track
      rw [hget]
  | some info =>
      by_cases hmissing : info.state = .missing
      · unfold track
        rw [hget]
        dsimp only
        rw [if_pos hmissing]
      · rw [track_of_ne hget hmissing]
        exact .single (.lose (NodeTable.replaces_modify hget
          (fun info => { info with state := .missing })) rfl rfl)

variable [ObjectDictionaryStorage σ]

theorem knowledge_processNmtEvent (c : MnContext σ) {event : NmtEvent}
    (h : MnNmtStateMachine.isReset event = false) :
    (c.processNmtEvent event).knowledge = { c.knowledge with
      machine := { c.nmtStateMachine with
        currentState := c.nmtStateMachine.nextState event } } := by
  have hmachine := c.nmtStateMachine.processEvent_machine c.core.od h
  dsimp only [processNmtEvent]
  split_ifs
  · simp only [knowledge, hmachine]
  · simp only [knowledge, record, hmachine]

theorem steps_processNmtEvent (c : MnContext σ) {event : NmtEvent}
    (hevent : MnNmtStateMachine.isInternal event = true)
    (hgate : c.knowledge.Gate (c.nmtStateMachine.nextState event)) :
    Steps heard c.knowledge (c.processNmtEvent event).knowledge := by
  have hreset : MnNmtStateMachine.isReset event = false := by
    revert hevent
    cases event <;> decide
  rw [c.knowledge_processNmtEvent hreset]
  exact .single (.move hevent hgate)

theorem steps_checkBootupState (c : MnContext σ) :
    Steps heard c.knowledge c.checkBootupState.knowledge := by
  unfold checkBootupState
  split
  · rename_i hnmt
    have hnmt' : c.nmtStateMachine.currentState = .nmtPreOperational1 := hnmt
    split_ifs with hcheck
    · have hgate : c.knowledge.Gate (c.nmtStateMachine.nextState .allCnsIdentified) :=
        ⟨fun _ _ => hcheck, fun hpreop => absurd (hnmt'.symm.trans hpreop) (by decide)⟩
      exact (c.steps_processNmtEvent rfl hgate).tail .ready
    · exact .refl
  · rename_i hnmt
    have hnmt' : c.nmtStateMachine.currentState = .nmtPreOperational2 := hnmt
    split_ifs with hcheck
    · refine c.steps_processNmtEvent rfl ?_
      exact ⟨fun hpreop => absurd (hnmt'.symm.trans hpreop) (by decide),
        fun _ _ => (Bool.and_eq_true_iff.mp hcheck).1⟩
    · exact .refl
  · rename_i hnmt
    have hnmt' : c.nmtStateMachine.currentState = .nmtReadyToOperate := hnmt
    split_ifs
    · refine c.steps_processNmtEvent rfl ?_
      exact ⟨fun hpreop => absurd (hnmt'.symm.trans hpreop) (by decide),
        fun hpreop => absurd (hnmt'.symm.trans hpreop) (by decide)⟩
    · exact .refl
  · exact .refl

/-- A node reports its state in the received frame. -/
theorem steps_updateCnState (c : MnContext σ) {nodeId : NodeId} {reported : NmtState}
    {frame : PowerlinkFrame} (hheard : heard = some frame)
    (hreport : frame.report = some (nodeId, reported)) :
    Steps heard c.knowledge (c.updateCnState nodeId reported).knowledge := by
  dsimp only [updateCnState]
  split
  · exact .refl
  · rename_i info hget
    split
    · exact .refl
    · rename_i hne
      refine .trans (.single ?_) (steps_checkBootupState _)
      rw [track_of_ne hget hne]
      have hreplaces := NodeTable.replaces_modify hget
        (fun i => { i with state := CnState.ofReported reported info.state })
      split_ifs
      · have hcleared := hreplaces.trans (NodeTable.replaces_modify hreplaces.new
          (fun i => { i with communicationOk := false }))
        have hstep : Step heard c.knowledge _ := .report reported hcleared hheard hreport hne rfl rfl
        exact hstep
      · have hstep : Step heard c.knowledge _ := .report reported hreplaces hheard hreport hne rfl rfl
        exact hstep

/-! ### Received frames -/

theorem steps_trackPres (c : MnContext σ) {pres : PResFrame} (t : ℕ)
    (hheard : heard = some (.pRes pres)) :
    Steps heard c.knowledge (c.trackPres pres t).knowledge := by
  unfold trackPres
  split
  · exact .refl
  · rename_i info hget
    refine .trans (.single ?_) (steps_updateCnState _ hheard rfl)
    exact Step.note (NodeTable.replaces_modify hget (fun info =>
      { info with nmtState := pres.nmtState, lastPresTimeUs := t, dllErrors := 0 })) rfl rfl

theorem steps_handlePresFrame (c : MnContext σ) (pres : PResFrame) :
    Steps heard c.knowledge (c.handlePresFrame pres).knowledge := by
  dsimp only [handlePresFrame]
  generalize hd : record c _ = d
  have hrequest : (d.queueRequest pres).knowledge = c.knowledge := by
    rw [← hd]
    unfold queueRequest
    split_ifs
    · rfl
    · rfl
  generalize d.queueRequest pres = e at hrequest
  rw [← hrequest]
  split
  · exact .refl
  · rename_i info hget
    have hflag := NodeTable.replaces_modify hget (fun info => { info with enFlag := pres.flags.en })
    have hnote : Step heard e.knowledge (e.checkExceptionFlag pres info).knowledge :=
      .note hflag rfl rfl
    refine .trans (.single hnote) ?_
    unfold checkCommunication
    split_ifs
    · refine .trans (.single ?_) (steps_checkBootupState _)
      exact Step.note (NodeTable.replaces_modify hflag.new
        (fun info => { info with communicationOk := true })) rfl rfl
    · exact .refl

omit [ObjectDictionaryStorage σ] in
theorem steps_startDownload (c : MnContext σ) {nodeId : NodeId} {info : CnInfo} (t : ℕ)
    (hget : c.nodeInfo.get? nodeId = some info) :
    Steps heard c.knowledge (c.startDownload nodeId t).knowledge := by
  unfold startDownload
  split
  · exact .refl
  · split
    · exact .refl
    · split
      · exact .refl
      · exact .single (Step.note (NodeTable.replaces_modify hget
          (fun info => { info with sdoState := .inProgress })) rfl rfl)

omit [ObjectDictionaryStorage σ] in
theorem steps_validateBootStep1Checks {c d : MnContext σ} {nodeId : NodeId} {info : CnInfo}
    {payload : IdentResponsePayload} {t : ℕ} {passed : Bool}
    (hget : c.nodeInfo.get? nodeId = some info)
    (h : c.validateBootStep1Checks nodeId payload t = (passed, d)) :
    Steps heard c.knowledge d.knowledge := by
  unfold validateBootStep1Checks at h
  split_ifs at h
  · rw [← (Prod.mk.inj h).2]
  · rw [← (Prod.mk.inj h).2]
  · rw [← (Prod.mk.inj h).2]
    exact c.steps_startDownload t hget
  · rw [← (Prod.mk.inj h).2]

theorem steps_handleIdentResponse (c : MnContext σ) {frame : ASndFrame} (t : ℕ)
    (hheard : heard = some (.aSnd frame)) (hservice : frame.serviceId = .identResponse) :
    Steps heard c.knowledge (c.handleIdentResponse frame t).knowledge := by
  unfold handleIdentResponse
  split
  · exact .refl
  · rename_i info hget
    split_ifs with hwas
    · split
      · exact .refl
      · rename_i payload hpayload
        split
        · rename_i d hvalidate
          exact steps_validateBootStep1Checks hget hvalidate
        · rename_i d hvalidate
          obtain rfl := validateBootStep1Checks_passed hvalidate
          refine .trans (.single ?_) (steps_checkBootupState _)
          have hne : info.state ≠ .identified := by
            intro hstate
            rw [hstate] at hwas
            exact absurd hwas (by decide)
          generalize hcached : ({ d.record (.validated frame.source) with
            arpCache := d.arpCache.insert (ipFromNodeId frame.source) frame.ethHeader.sourceMac } :
            MnContext σ) = e
          have hget' : e.nodeInfo.get? frame.source = some info := by
            rw [← hcached]
            exact hget
          rw [track_of_ne hget' hne]
          have htracked := NodeTable.replaces_modify hget
            (fun info => { info with state := .identified })
          have hnoted := htracked.trans (NodeTable.replaces_modify htracked.new (fun info =>
            { info with
              identity := some
                { deviceType := payload.deviceType
                  vendorId := payload.vendorId
                  productCode := payload.productCode
                  revisionNo := payload.revisionNumber
                  serialNo := payload.serialNumber } }))
          have hstep : Step heard d.knowledge _ :=
            .identify hnoted hheard hservice hpayload rfl rfl
          subst hcached
          exact hstep
    · exact .refl

theorem steps_handleStatusResponse (c : MnContext σ) {frame : ASndFrame}
    (hheard : heard = some (.aSnd frame)) (hservice : frame.serviceId = .statusResponse) :
    Steps heard c.knowledge (c.handleStatusResponse frame).knowledge := by
  dsimp only [handleStatusResponse]
  split
  · exact .refl
  · rename_i info hget
    generalize hnoted : ({ c with
      nodeInfo := c.nodeInfo.modify frame.source
        (fun info => { info with eaFlag := info.enFlag }) } : MnContext σ) = d
    have hnote : Step heard c.knowledge d.knowledge := by
      rw [← hnoted]
      exact .note (NodeTable.replaces_modify hget
        (fun info => { info with eaFlag := info.enFlag })) rfl rfl
    split
    · exact .single hnote
    · rename_i payload hpayload
      refine .trans (.single hnote) (d.steps_updateCnState hheard ?_)
      show (if frame.serviceId = .statusResponse then _ else none) = _
      rw [if_pos hservice, hpayload]

theorem steps_handleAsndFrame (c : MnContext σ) {frame : ASndFrame} (t : ℕ)
    (hheard : heard = some (.aSnd frame)) :
    Steps heard c.knowledge (c.handleAsndFrame frame t).knowledge := by
  unfold handleAsndFrame
  split
  · rename_i hservice
    exact c.steps_handleIdentResponse t hheard hservice
  · rename_i hservice
    exact c.steps_handleStatusResponse hheard hservice
  · exact .refl

theorem steps_processAsnd (c : MnContext σ) {frame : ASndFrame} (t : ℕ)
    (hheard : heard = some (.aSnd frame)) :
    Steps heard c.knowledge (c.processAsnd frame t).knowledge := by
  dsimp only [processAsnd]
  split_ifs
  · exact steps_handleAsndFrame { c.count 4 with pendingTimeoutEvent := none } t hheard
  · exact steps_handleAsndFrame (c.count 4) t hheard

omit [ObjectDictionaryStorage σ] in
theorem knowledge_processSdoResponse {c d : MnContext σ} {frame : ASndFrame}
    (h : c.processSdoResponse frame = some d) : d.knowledge = c.knowledge := by
  cases processSdoResponse_way h with
  | dropped => rfl
  | handled => rfl

theorem knowledge_handleSdoServerRequest {c d : MnContext σ} {payload : List UInt8}
    {client : SdoClientInfo} {t : ℕ} {action : NodeAction}
    (h : c.handleSdoServerRequest payload client t = (action, d)) : d.knowledge = c.knowledge := by
  cases handleSdoServerRequest_way h with
  | unanswered => rfl
  | answered => rfl

theorem steps_handleDllEvent (c : MnContext σ) (event : DllMsEvent) (frame : PowerlinkFrame) :
    Steps heard c.knowledge (c.handleDllEvent event frame).knowledge := by
  have hrun : ∀ d, DllTouches c d → Steps heard c.knowledge d.knowledge := by
    intro d h
    induction h with
    | refl => exact .refl
    | tail _ hstep ih =>
        refine ih.trans ?_
        cases hstep with
        | machine => exact .refl
        | counters => exact .refl
        | lose nodeId => exact (steps_lose _ nodeId).tail (.reset nodeId)
  exact hrun _ (c.touches_handleDllEvent event frame)

theorem steps_presPoint {c d : MnContext σ} {pres : PResFrame} {t : ℕ}
    (hheard : heard = some (.pRes pres)) (h : (c.presPoint pres t).context = some d) :
    Steps heard c.knowledge d.knowledge := by
  dsimp only [presPoint] at h
  have htracked : Steps heard c.knowledge
      (((c.handleDllEvent .pres (.pRes pres)).count 2).trackPres pres t).knowledge :=
    (c.steps_handleDllEvent .pres (.pRes pres)).trans
      (((c.handleDllEvent .pres (.pRes pres)).count 2).steps_trackPres t hheard)
  generalize ((c.handleDllEvent .pres (.pRes pres)).count 2).trackPres pres t = e at htracked h
  split_ifs at h
  · split at h
    · cases h
    · rename_i r _
      obtain rfl := Option.some.inj h
      have hanswered : Steps heard _ _ := steps_handlePresFrame (record { e with
        pendingTimeoutEvent := none
        core := r.1
        dllErrorManager := r.2 } (.answered pres.source)) pres
      exact htracked.trans hanswered
  · obtain rfl := Option.some.inj h
    exact htracked.trans (steps_handlePresFrame _ pres)

theorem steps_asndPoint {c d : MnContext σ} {frame : ASndFrame} {t : ℕ}
    (hheard : heard = some (.aSnd frame)) (h : (c.asndPoint frame t).context = some d) :
    Steps heard c.knowledge d.knowledge := by
  unfold asndPoint at h
  split_ifs at h
  · split at h
    · cases h
    · rename_i e hresponse
      obtain rfl := Option.some.inj h
      exact Steps.of_eq (knowledge_processSdoResponse hresponse)
  · obtain rfl := Option.some.inj h
    exact Steps.of_eq (knowledge_handleSdoServerRequest (c := c.count 6) rfl)
  · obtain rfl := Option.some.inj h
    exact (c.steps_handleDllEvent .asnd (.aSnd frame)).trans (steps_processAsnd _ t hheard)

/-- A received frame. -/
theorem steps_receivePoint {c d : MnContext σ} {input : CycleInput}
    (h : (c.receivePoint input).context = some d) :
    Steps input.frame c.knowledge d.knowledge := by
  unfold receivePoint at h
  split at h
  · obtain rfl := Option.some.inj h
    exact .refl
  · rename_i buffer hbuffer
    split_ifs at h with hpowerlink hreset
    · obtain rfl := Option.some.inj h
      have hstate : c.nmtStateMachine.currentState = .nmtGsResetCommunication := hreset
      have hnext : c.nmtStateMachine.nextState .error = c.nmtStateMachine.currentState := by
        unfold MnNmtStateMachine.nextState
        rw [hstate]
      refine .of_eq ((c.knowledge_processNmtEvent rfl).trans ?_)
      rw [hnext]
      rfl
    · split at h
      · rename_i frame hframe
        have hinput : input.frame = some frame := by
          unfold CycleInput.frame
          rw [hbuffer]
          dsimp only
          rw [if_pos hpowerlink, hframe]
          rfl
        cases frame with
        | pRes pres => exact steps_presPoint hinput h
        | aSnd asnd => exact steps_asndPoint hinput h
        | _ =>
            obtain rfl := Option.some.inj h
            exact .refl
      · obtain rfl := Option.some.inj h
        exact .refl
    · obtain rfl := Option.some.inj h
      exact .refl

/-! ### The tick -/

section tick

omit [ObjectDictionaryStorage σ]

theorem knowledge_receiveUdp [ObjectDictionaryStorage σ] {c d : MnContext σ} {input : CycleInput}
    {action : NodeAction} (h : c.receiveUdp input = (action, d)) : d.knowledge = c.knowledge := by
  cases receiveUdp_way h with
  | _ => rfl

theorem knowledge_tickSdoClient {c d : MnContext σ} {t : ℕ} {action : Option NodeAction}
    (h : c.tickSdoClient t = (action, d)) : d.knowledge = c.knowledge := by
  cases tickSdoClient_way h with
  | _ => rfl

theorem knowledge_tickSdoServer {c d : MnContext σ} {t : ℕ} {action : Option NodeAction}
    (h : c.tickSdoServer t = (action, d)) : d.knowledge = c.knowledge := by
  cases tickSdoServer_way h with
  | _ => rfl

theorem knowledge_pollNode (c : MnContext σ) (nodeId : NodeId) (t : ℕ) :
    (c.pollNode nodeId t).2.knowledge = c.knowledge := by
  dsimp only [pollNode]
  generalize hs : scheduleTimeout _ _ _ = s
  have hsame : s.knowledge = c.knowledge := by
    rw [← hs]
    rfl
  obtain ⟨⟨core, hcore⟩, -⟩ := buildPreqFrame_spec (s.record (.built nodeId (s.canPoll nodeId)))
    nodeId (decide (0 < assignedCycle (s.record (.built nodeId (s.canPoll nodeId))) nodeId))
  rw [hcore]
  exact hsame

theorem knowledge_sendSoa (c : MnContext σ) (action : AsyncAction) (t : ℕ) :
    (c.sendSoa action t).2.knowledge = c.knowledge := by
  dsimp only [sendSoa]
  have hphase : (c.enterAsyncPhase action t).knowledge = c.knowledge := by
    unfold enterAsyncPhase
    split_ifs
    · rfl
    · rfl
    · rfl
  have hcount : ((c.enterAsyncPhase action t).countSoa action.1).knowledge =
      (c.enterAsyncPhase action t).knowledge := by
    unfold countSoa
    split_ifs
    · rfl
    · rfl
  exact hcount.trans hphase

theorem knowledge_apply (c : MnContext σ) (choice : AsyncChoice) :
    (choice.apply c).2.knowledge = c.knowledge := by
  cases choice with
  | _ => rfl

theorem knowledge_advancePoint (c : MnContext σ) : c.advancePoint.context.knowledge = c.knowledge := by
  have hend : ∀ d : MnContext σ, d.endPoint.context.knowledge = d.knowledge := by
    intro d
    dsimp only [endPoint]
    split
    · rfl
    · rfl
  unfold advancePoint
  split_ifs
  · have hnext : (c.getNextIsochronousNodeToPoll c.currentMultiplexCycle).2.knowledge =
        c.knowledge := rfl
    split
    · rename_i nodeId d heq
      rw [heq] at hnext
      exact hnext
    · rename_i d heq
      rw [heq] at hnext
      exact (hend d).trans hnext
  · exact hend c

theorem knowledge_advanceCyclePhase {c d : MnContext σ} {t : ℕ} {action : NodeAction}
    (h : c.advanceCyclePhase t = some (action, d)) : d.knowledge = c.knowledge := by
  have hpoint := c.knowledge_advancePoint
  rw [advanceCyclePhase_eq] at h
  cases hbranch : c.advancePoint with
  | poll nodeId e =>
      rw [hbranch] at h hpoint
      have hpoll := e.knowledge_pollNode nodeId t
      rw [Option.some.inj h] at hpoll
      exact hpoll.trans hpoint
  | publish serviceId e =>
      rw [hbranch] at h hpoint
      obtain ⟨-, rfl⟩ := Prod.mk.inj (Option.some.inj h)
      exact hpoint
  | schedule e =>
      rw [hbranch] at h hpoint
      obtain ⟨choice, -, heq⟩ := Option.map_eq_some_iff.mp h
      have hsoa := (choice.apply e).2.knowledge_sendSoa (choice.apply e).1 t
      rw [heq, e.knowledge_apply choice] at hsoa
      exact hsoa.trans hpoint

theorem steps_initialOperationalActions {c d : MnContext σ} {action : Option NodeAction}
    (h : c.initialOperationalActions = (action, d)) : Steps heard c.knowledge d.knowledge := by
  cases initialOperationalActions_way h with
  | command hdue => exact .single (.start _ hdue.1)
  | broadcast | nobody | reset | settled => exact .refl

theorem DeadlineWay.steps {c : MnContext σ} {p : TickPoint σ} (h : DeadlineWay c p) :
    Steps heard c.knowledge p.context.knowledge := by
  cases h with
  | broadcast next hactions =>
      exact steps_initialOperationalActions (c := { c with nextTickUs := next }) hactions
  | own next hactions =>
      exact steps_initialOperationalActions (c := { c with nextTickUs := next }) hactions
  | proceed next hactions =>
      exact steps_initialOperationalActions (c := { c with nextTickUs := next }) hactions
  | pause next later hactions =>
      have hsteps : Steps heard _ _ :=
        steps_initialOperationalActions (c := { c with nextTickUs := next }) hactions
      exact hsteps
  | _ => exact .refl

theorem TickWay.steps {c : MnContext σ} {p : TickPoint σ} {t : ℕ} (h : TickWay c t p) :
    Steps heard c.knowledge p.context.knowledge := by
  cases h with
  | start => exact .refl
  | client hclient => exact Steps.of_eq (knowledge_tickSdoClient hclient)
  | server hclient hserver =>
      exact Steps.of_eq ((knowledge_tickSdoServer hserver).trans (knowledge_tickSdoClient hclient))
  | deadline hclient hserver hway =>
      refine .trans (Steps.of_eq ?_) hway.steps
      exact (knowledge_tickSdoServer hserver).trans (knowledge_tickSdoClient hclient)

end tick

theorem knowledge_startCycle (c : MnContext σ) (t : ℕ) :
    (c.startCycle t).2.knowledge = c.knowledge := by
  obtain ⟨m, e, h⟩ := (c.beginCycle t).handleDllEvent_of_ne
    (show DllMsEvent.socTrig ≠ .presTimeout by decide)
    ((c.beginCycle t).buildSocFrame (c.beginCycle t).currentMultiplexCycle
      (c.beginCycle t).multiplexCycleLen)
  dsimp only [startCycle]
  rw [h]
  rfl

/-- The branches of a tick, the own slot aside. -/
theorem steps_runTick {p : TickPoint σ} {d : MnContext σ} {t : ℕ} {action : NodeAction}
    (h : p.run t = some (action, d)) (hown : ∀ e, p ≠ .own e) :
    Steps heard p.context.knowledge d.knowledge := by
  cases p with
  | start e =>
      have hstart := e.knowledge_startCycle t
      rw [Option.some.inj h] at hstart
      exact Steps.of_eq hstart
  | answer a e =>
      obtain ⟨-, rfl⟩ := Prod.mk.inj (Option.some.inj h)
      exact .refl
  | activate e =>
      obtain ⟨-, rfl⟩ := Prod.mk.inj (Option.some.inj h)
      refine .single ?_
      rw [e.knowledge_processNmtEvent rfl]
      exact .activate
  | deliver event e =>
      have hevent : Steps heard e.knowledge (e.timeoutContext event t).knowledge :=
        steps_handleDllEvent (record { e with pendingTimeoutEvent := none } (.timedOut event t))
          event timeoutFrame
      exact hevent.trans (Steps.of_eq (knowledge_advanceCyclePhase h))
  | advance e => exact Steps.of_eq (knowledge_advanceCyclePhase h)
  | own e => exact absurd rfl (hown e)
  | rest e =>
      obtain ⟨-, rfl⟩ := Prod.mk.inj (Option.some.inj h)
      exact .refl

/-- A received frame, and the advance of the phase behind it. -/
theorem ReceivePoint.steps {c d : MnContext σ} {input : CycleInput} {action : NodeAction}
    (h : (c.receivePoint input).run input.currentTimeUs = some (action, d)) :
    Steps input.frame c.knowledge d.knowledge := by
  obtain ⟨e, hcontext, -⟩ := ReceivePoint.path h
  refine (steps_receivePoint hcontext).trans (Steps.of_eq ?_)
  cases hpoint : c.receivePoint input with
  | panic =>
      rw [hpoint] at hcontext
      cases hcontext
  | pass f =>
      rw [hpoint] at h hcontext
      obtain ⟨-, rfl⟩ := Prod.mk.inj (Option.some.inj h)
      rw [Option.some.inj hcontext]
  | reply a f =>
      rw [hpoint] at h hcontext
      obtain ⟨-, rfl⟩ := Prod.mk.inj (Option.some.inj h)
      rw [Option.some.inj hcontext]
  | answered f =>
      rw [hpoint] at h hcontext
      obtain ⟨r, hadvance, heq⟩ := Option.map_eq_some_iff.mp h
      obtain ⟨-, rfl⟩ := Prod.mk.inj heq
      rw [← Option.some.inj hcontext]
      exact knowledge_advanceCyclePhase hadvance

/-- What a call does with the knowledge of a node: the own slot, if it is used, comes last. -/
inductive KnowledgeWay (c : MnContext σ) (input : CycleInput) (d : MnContext σ) : Prop
  | steps (hslot : c.ownSlot input = none) (h : Steps input.frame c.knowledge d.knowledge)
  | own {o : MnContext σ} (hslot : c.ownSlot input = some o)
      (h : Steps input.frame c.knowledge o.knowledge)
      (hsent : d.knowledge = { o.knowledge with commands := o.knowledge.commands.dropLast })

omit [ObjectDictionaryStorage σ] in
/-- The own slot takes the last command. -/
theorem knowledge_sendOwnAsync {c d : MnContext σ} {t : ℕ} {action : NodeAction}
    (h : c.sendOwnAsync t = (action, d)) :
    d.knowledge = { c.knowledge with commands := c.knowledge.commands.dropLast } := by
  have hnone : c.pendingNmtCommands = [] → d.knowledge = c.knowledge →
      d.knowledge = { c.knowledge with commands := c.knowledge.commands.dropLast } := by
    intro hcommands hsame
    have hdrop : c.knowledge.commands.dropLast = c.knowledge.commands := by
      change c.pendingNmtCommands.dropLast = c.pendingNmtCommands
      rw [hcommands]
      rfl
    rw [hdrop]
    exact hsame
  cases sendOwnAsync_way h with
  | command => rfl
  | request hcommands => exact hnone hcommands rfl
  | frame hcommands => exact hnone hcommands rfl
  | unused hcommands => exact hnone hcommands rfl

/-- A call is a sequence of steps. -/
theorem runCycle_knowledge {c d : MnContext σ} {input : CycleInput} {action : NodeAction}
    (h : c.runCycle input = some (action, d)) : KnowledgeWay c input d := by
  cases runCycle_path h with
  | frame hpoint haction =>
      have hrun : (c.receivePoint input).run input.currentTimeUs = some (action, d) := by
        rw [hpoint]
        rfl
      exact .steps (ownSlot_of_action hrun haction) (ReceivePoint.steps hrun)
  | datagram hethernet hudp haction =>
      refine .steps (ownSlot_of_datagram hethernet hudp haction) ?_
      exact (ReceivePoint.steps hethernet).trans (Steps.of_eq (knowledge_receiveUdp hudp))
  | @tick r s hethernet hudp htick =>
      have hcontext := tickContext_eq hethernet hudp
      have hto : Steps input.frame c.knowledge
          (s.tickPoint input.currentTimeUs).context.knowledge :=
        ((ReceivePoint.steps hethernet).trans (Steps.of_eq (knowledge_receiveUdp hudp))).trans
          (s.tickPoint_way input.currentTimeUs).steps
      cases hslot : c.ownSlot input with
      | none =>
          refine .steps hslot (hto.trans (steps_runTick htick ?_))
          intro o ho
          rw [ownSlot, hcontext, Option.bind_some, ho] at hslot
          cases hslot
      | some o =>
          have hpoint := tickPoint_of_ownSlot hcontext hslot
          rw [hpoint] at htick hto
          exact .own hslot hto (knowledge_sendOwnAsync (Option.some.inj htick))

end MnContext

end Powerlink
