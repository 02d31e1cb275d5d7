import Powerlink.Mn.Api
import Powerlink.Mn.Identification
import Powerlink.Mn.Knowledge

/-! # What the knowledge of a managing node rests on

A managing node tracks a state for each of its nodes.  `ShownBy` says which received frame shows a
state: a PRes or a StatusResponse that reports it, or an IdentResponse.

`Backed` says what the knowledge of a managing node rests on.  A node that is neither unknown nor
missing is tracked in a state that one of its frames has shown, and the boot-up goes on only after
every mandatory node has shown a state for it.  A recorded identity and a cached MAC address are those
of an IdentResponse.
A waiting command has a reason: the application asks for it, or the node itself has one.
`backed_throughout`: this holds in every run of calls. -/

namespace Powerlink

/-- The reported NMT states that lead to a tracked state. -/
def CnState.reportedAs : CnState → List NmtState
  | identified => [.nmtPreOperational1]
  | preOperational => [.nmtPreOperational2, .nmtReadyToOperate]
  | operational => [.nmtOperational]
  | stopped => [.nmtCsStopped]
  | unknown | missing => []

/-- A report that changes the tracked state is one of the state. -/
theorem CnState.mem_reportedAs {reported : NmtState} {old : CnState}
    (h : old ≠ ofReported reported old) : reported ∈ (ofReported reported old).reportedAs := by
  cases reported with
  | nmtPreOperational1 => exact List.mem_singleton_self _
  | nmtPreOperational2 => exact List.mem_cons_self
  | nmtReadyToOperate => exact List.mem_cons_of_mem _ (List.mem_singleton_self _)
  | nmtOperational => exact List.mem_singleton_self _
  | nmtCsStopped => exact List.mem_singleton_self _
  | _ => exact absurd rfl h

/-- The frame shows that the node is in the tracked state. -/
inductive CnState.ShownBy (nodeId : NodeId) (frame : PowerlinkFrame) : CnState → Prop
  | report {reported : NmtState} {state : CnState} (hreport : frame.report = some (nodeId, reported))
      (hstate : reported ∈ state.reportedAs) : ShownBy nodeId frame state
  | identify {asnd : ASndFrame} {payload : IdentResponsePayload} (hframe : frame = .aSnd asnd)
      (hservice : asnd.serviceId = .identResponse) (hsource : asnd.source = nodeId)
      (hpayload : IdentResponsePayload.deserialize asnd.payload = .ok payload) :
      ShownBy nodeId frame .identified

/-- A frame that was heard shows that the node is in the tracked state. -/
def CnState.Seen (heard : PowerlinkFrame → Prop) (nodeId : NodeId) (state : CnState) : Prop :=
  ∃ frame, heard frame ∧ state.ShownBy nodeId frame

/-- The states of a node that is identified and not stopped. -/
def CnState.booted : List CnState := [identified, preOperational, operational]

/-- The states of a node that is ready to be polled. -/
def CnState.polled : List CnState := [preOperational, operational]

namespace MnNmtStateMachine

/-- The events of the boot-up lead on by one state. -/
theorem isInternal_cases (m : MnNmtStateMachine) {event : NmtEvent}
    (h : isInternal event = true) : m.nextState event = m.currentState ∨
      (m.currentState = .nmtPreOperational1 ∧ m.nextState event = .nmtPreOperational2) ∨
      (m.currentState = .nmtPreOperational2 ∧ m.nextState event = .nmtReadyToOperate) ∨
      (m.currentState = .nmtReadyToOperate ∧ m.nextState event = .nmtOperational) := by
  unfold nextState
  cases event with
  | allCnsIdentified =>
      cases m.currentState with
      | nmtPreOperational1 => exact .inr (.inl ⟨rfl, rfl⟩)
      | _ => exact .inl rfl
  | configurationCompleteCnsReady =>
      cases m.currentState with
      | nmtPreOperational2 => exact .inr (.inr (.inl ⟨rfl, rfl⟩))
      | _ => exact .inl rfl
  | allMandatoryCnsOperational =>
      cases m.currentState with
      | nmtReadyToOperate => exact .inr (.inr (.inr ⟨rfl, rfl⟩))
      | _ => exact .inl rfl
  | _ => cases h

/-- A timeout leads out of `NmtNotActive` only. -/
theorem timeout_cases (m : MnNmtStateMachine) : m.nextState .timeout = m.currentState ∨
    m.currentState = .nmtNotActive ∧ (m.nextState .timeout = .nmtBasicEthernet ∨
      m.nextState .timeout = .nmtPreOperational1) := by
  unfold nextState
  cases m.currentState with
  | nmtNotActive =>
      right
      refine ⟨rfl, ?_⟩
      dsimp only
      split_ifs
      · exact .inl rfl
      · exact .inr rfl
  | _ => exact .inl rfl

end MnNmtStateMachine

namespace Knowledge

variable {heard : PowerlinkFrame → Prop} {asked : NmtCommandEntry → Prop}

/-- Why a command waits. -/
inductive Reason (heard : PowerlinkFrame → Prop) (asked : NmtCommandEntry → Prop)
    (machine : MnNmtStateMachine) (entry : NmtCommandEntry) : Prop
  /-- The application has queued it. -/
  | asked (h : asked entry) : Reason heard asked machine entry
  /-- An operational managing node starts the node. -/
  | start (hcommand : entry.1 = .state .startNode)
      (hop : machine.currentState = .nmtOperational) : Reason heard asked machine entry
  /-- The node has identified itself. -/
  | ready (hcommand : entry.1 = .state .enableReadyToOperate)
      (hseen : CnState.identified.Seen heard entry.2.1) : Reason heard asked machine entry
  /-- The node was lost. -/
  | reset (hcommand : entry.1 = .state .resetNode) : Reason heard asked machine entry

/-- The states of a managing node that has identified its nodes. -/
def bootStates : List NmtState := [.nmtPreOperational2, .nmtReadyToOperate, .nmtOperational]

/-- The states of a managing node whose nodes are ready. -/
def readyStates : List NmtState := [.nmtReadyToOperate, .nmtOperational]

/-- An IdentResponse was heard. -/
structure Introduced (heard : PowerlinkFrame → Prop) (asnd : ASndFrame)
    (payload : IdentResponsePayload) : Prop where
  heard : heard (.aSnd asnd)
  service : asnd.serviceId = .identResponse
  payload : IdentResponsePayload.deserialize asnd.payload = .ok payload

theorem Introduced.mono {heard' : PowerlinkFrame → Prop} {asnd : ASndFrame}
    {payload : IdentResponsePayload} (hheard : ∀ frame, heard frame → heard' frame)
    (h : Introduced heard asnd payload) : Introduced heard' asnd payload :=
  ⟨hheard _ h.heard, h.service, h.payload⟩

/-- The knowledge rests on the frames that were heard and on what the application has asked for. -/
structure Backed (heard : PowerlinkFrame → Prop) (asked : NmtCommandEntry → Prop) (k : Knowledge) :
    Prop where
  nodes : ∀ nodeId info, k.nodes.get? nodeId = some info →
    IsAbsent info.state ∨ info.state.Seen heard nodeId
  booted : k.machine.currentState ∈ bootStates → ∀ nodeId ∈ k.mandatory,
    ∃ state ∈ CnState.booted, state.Seen heard nodeId
  polled : k.machine.currentState ∈ readyStates → ∀ nodeId ∈ k.mandatory,
    ∃ state ∈ CnState.polled, state.Seen heard nodeId
  identities : ∀ nodeId info identity, k.nodes.get? nodeId = some info →
    info.identity = some identity → ∃ asnd payload, Introduced heard asnd payload ∧
      asnd.source = nodeId ∧ payload.identity = identity
  cache : ∀ ip mac, k.cache.get? ip = some mac → ∃ asnd payload, Introduced heard asnd payload ∧
    ip = ipFromNodeId asnd.source ∧ mac = asnd.ethHeader.sourceMac
  commands : ∀ entry ∈ k.commands, Reason heard asked k.machine entry

namespace Backed

variable {k k' : Knowledge}

/-- More frames, and more requests of the application. -/
theorem mono {heard' : PowerlinkFrame → Prop} {asked' : NmtCommandEntry → Prop}
    (hheard : ∀ frame, heard frame → heard' frame) (hasked : ∀ entry, asked entry → asked' entry)
    (h : k.Backed heard asked) : k.Backed heard' asked' where
  nodes nodeId info hget := (h.nodes nodeId info hget).imp_right
    fun hseen => hseen.imp fun frame hframe => ⟨hheard frame hframe.1, hframe.2⟩
  booted hstate nodeId hmem := (h.booted hstate nodeId hmem).imp fun _ hs =>
    ⟨hs.1, hs.2.imp fun frame hframe => ⟨hheard frame hframe.1, hframe.2⟩⟩
  polled hstate nodeId hmem := (h.polled hstate nodeId hmem).imp fun _ hs =>
    ⟨hs.1, hs.2.imp fun frame hframe => ⟨hheard frame hframe.1, hframe.2⟩⟩
  identities nodeId info identity hget hidentity := (h.identities nodeId info identity hget
    hidentity).imp fun _ hs => hs.imp fun _ hi => ⟨hi.1.mono hheard, hi.2⟩
  cache ip mac hget := (h.cache ip mac hget).imp fun _ hs => hs.imp fun _ hi =>
    ⟨hi.1.mono hheard, hi.2⟩
  commands := by
    intro entry hmem
    cases h.commands entry hmem with
    | asked h => exact .asked (hasked entry h)
    | start hcommand hop => exact .start hcommand hop
    | ready hcommand hseen =>
        exact .ready hcommand (hseen.imp fun frame hframe => ⟨hheard frame hframe.1, hframe.2⟩)
    | reset hcommand => exact .reset hcommand

/-- One entry of the table is replaced. -/
theorem replace {nodes : NodeTable} {nodeId : NodeId} {info info' : CnInfo}
    (hk : k.Backed heard asked) (h : k.nodes.Replaces nodes nodeId info info')
    (hself : IsAbsent info'.state ∨ info'.state.Seen heard nodeId)
    (hidentity : ∀ identity, info'.identity = some identity → ∃ asnd payload,
      Introduced heard asnd payload ∧ asnd.source = nodeId ∧ payload.identity = identity) :
    Backed heard asked { k with nodes := nodes } where
  nodes := by
    intro m i hget
    by_cases hm : m = nodeId
    · subst hm
      obtain rfl := Option.some.inj (h.new.symm.trans hget)
      exact hself
    · exact hk.nodes m i ((h.other m hm).symm.trans hget)
  identities := by
    intro m i identity hget hi
    by_cases hm : m = nodeId
    · subst hm
      obtain rfl := Option.some.inj (h.new.symm.trans hget)
      exact hidentity identity hi
    · exact hk.identities m i identity ((h.other m hm).symm.trans hget) hi
  booted := hk.booted
  polled := hk.polled
  cache := hk.cache
  commands := hk.commands

/-- A command is queued. -/
theorem queue {queued : List NmtCommandEntry} (hk : k.Backed heard asked)
    (h : ∀ entry ∈ queued, Reason heard asked k.machine entry) :
    Backed heard asked { k with commands := k.commands ++ queued } where
  nodes := hk.nodes
  identities := hk.identities
  booted := hk.booted
  polled := hk.polled
  cache := hk.cache
  commands := fun entry hmem => (List.mem_append.mp hmem).elim (hk.commands entry) (h entry)

/-- A tracked state that is not absent was seen. -/
theorem seen_of_state (hk : k.Backed heard asked) {nodeId : NodeId}
    (h : ¬IsAbsent (k.nodes.state nodeId)) : (k.nodes.state nodeId).Seen heard nodeId := by
  cases hget : k.nodes.get? nodeId with
  | none =>
      unfold NodeTable.state at h
      rw [hget] at h
      exact absurd (.inl rfl) h
  | some info =>
      rw [NodeTable.state_of_get? hget] at h ⊢
      exact (hk.nodes nodeId info hget).resolve_left h

/-- Where every mandatory node is tracked in one of the states, it has shown one of them. -/
theorem seen_of_all (hk : k.Backed heard asked) {low : CnState} {states : List CnState}
    (hstates : ∀ state : CnState, low ≤ state → state ≤ .operational →
      state ∈ states ∧ ¬IsAbsent state)
    (h : (k.mandatory.all fun nodeId => decide (low ≤ k.nodes.state nodeId) &&
      decide (k.nodes.state nodeId ≤ .operational)) = true) :
    ∀ nodeId ∈ k.mandatory, ∃ state ∈ states, state.Seen heard nodeId := by
  intro nodeId hmem
  have hnode := List.all_eq_true.mp h nodeId hmem
  rw [Bool.and_eq_true] at hnode
  obtain ⟨hstate, hpresent⟩ := hstates _ (of_decide_eq_true hnode.1) (of_decide_eq_true hnode.2)
  exact ⟨_, hstate, hk.seen_of_state hpresent⟩

/-- A state of the machine for which nothing more is required. -/
theorem with_machine {machine : MnNmtStateMachine} (hk : k.Backed heard asked)
    (hbooted : machine.currentState ∈ bootStates → ∀ nodeId ∈ k.mandatory,
      ∃ state ∈ CnState.booted, state.Seen heard nodeId)
    (hpolled : machine.currentState ∈ readyStates → ∀ nodeId ∈ k.mandatory,
      ∃ state ∈ CnState.polled, state.Seen heard nodeId)
    (hstays : k.machine.currentState = .nmtOperational → machine.currentState = .nmtOperational) :
    Backed heard asked { k with machine := machine } where
  nodes := hk.nodes
  identities := hk.identities
  booted := hbooted
  polled := hpolled
  cache := hk.cache
  commands := by
    intro entry hmem
    cases hk.commands entry hmem with
    | asked h => exact .asked h
    | start hcommand hop => exact .start hcommand (hstays hop)
    | ready hcommand hseen => exact .ready hcommand hseen
    | reset hcommand => exact .reset hcommand

/-- An event of the boot-up. -/
theorem move {event : NmtEvent} (hk : k.Backed heard asked)
    (hevent : MnNmtStateMachine.isInternal event = true)
    (hgate : k.Gate (k.machine.nextState event)) : Backed heard asked { k with
      machine := { k.machine with currentState := k.machine.nextState event } } := by
  have hidentified := hgate.identified
  have hpreop := hgate.preop
  have hbooted := hk.booted
  have hpolled := hk.polled
  obtain hsame | ⟨hold, hnew⟩ | ⟨hold, hnew⟩ | ⟨hold, hnew⟩ :=
    MnNmtStateMachine.isInternal_cases k.machine hevent
  · rw [hsame]
    exact hk
  · have hready : NmtState.nmtPreOperational2 ∉ readyStates := by decide
    rw [hnew]
    refine hk.with_machine (fun _ => ?_) (fun hstate => absurd hstate hready) ?_
    · refine hk.seen_of_all ?_ (hidentified hold hnew)
      intro state
      cases state <;> decide
    · exact fun hop => absurd (hold.symm.trans hop) (by decide)
  · rw [hold] at hbooted
    rw [hnew]
    refine hk.with_machine (fun _ => hbooted (by decide)) (fun _ => ?_) ?_
    · refine hk.seen_of_all ?_ (hpreop hold hnew)
      intro state
      cases state <;> decide
    · exact fun hop => absurd (hold.symm.trans hop) (by decide)
  · rw [hold] at hbooted hpolled
    rw [hnew]
    exact hk.with_machine (fun _ => hbooted (by decide)) (fun _ => hpolled (by decide))
      (fun _ => rfl)

/-- The node starts to drive the bus. -/
theorem activate (hk : k.Backed heard asked) : Backed heard asked { k with
    machine := { k.machine with currentState := k.machine.nextState .timeout } } := by
  obtain hsame | ⟨hold, hnew⟩ := MnNmtStateMachine.timeout_cases k.machine
  · rw [hsame]
    exact hk
  · have hboot : k.machine.nextState .timeout ∉ bootStates := by
      obtain hnew | hnew := hnew
      · rw [hnew]
        decide
      · rw [hnew]
        decide
    refine hk.with_machine (fun hstate => absurd hstate hboot) (fun hstate => ?_) ?_
    · exact absurd (List.mem_cons_of_mem _ hstate) hboot
    · exact fun hop => absurd (hold.symm.trans hop) (by decide)

/-- The commands for the identified nodes have a reason. -/
theorem reason_of_ready (hk : k.Backed heard asked) {entry : NmtCommandEntry}
    (h : entry ∈ MnContext.enableReadyCommands k.nodes) : Reason heard asked k.machine entry := by
  obtain ⟨p, hp, rfl⟩ := List.mem_map.mp h
  obtain ⟨hmem, hstate⟩ := List.mem_filter.mp hp
  have hidentified : p.2.state = .identified := of_decide_eq_true hstate
  have hget : k.nodes.get? p.1 = some p.2 := (SortedMap.mem_entries_iff _ _ _).mp hmem
  obtain habsent | hseen := hk.nodes p.1 p.2 hget
  · rw [hidentified] at habsent
    exact absurd habsent (by decide)
  · rw [hidentified] at hseen
    exact .ready rfl hseen

/-- A step that rests on a frame that was heard. -/
theorem step {received : Option PowerlinkFrame}
    (hreceived : ∀ frame, received = some frame → heard frame) (hstep : Step received k k')
    (hk : k.Backed heard asked) : k'.Backed heard asked := by
  have hsame : ∀ {nodes nodeId info info'}, k.nodes.Replaces nodes nodeId info info' →
      info'.identity = info.identity → ∀ identity, info'.identity = some identity →
        ∃ asnd payload, Introduced heard asnd payload ∧ asnd.source = nodeId ∧
          payload.identity = identity := by
    intro nodes nodeId info info' h hidentity identity hi
    exact hk.identities nodeId info identity h.old (hidentity.symm.trans hi)
  cases hstep with
  | note h hstate hidentity =>
      exact hk.replace h (hstate ▸ hk.nodes _ _ h.old) (hsame h hidentity)
  | report reported h hheard hreport hne hstate hidentity =>
      refine hk.replace h (.inr ⟨_, hreceived _ hheard, ?_⟩) (hsame h hidentity)
      rw [hstate]
      exact .report hreport (CnState.mem_reportedAs hne)
  | lose h hstate hidentity => exact hk.replace h (.inl (.inr hstate)) (hsame h hidentity)
  | reset nodeId => exact hk.queue (List.forall_mem_singleton.mpr (.reset rfl))
  | @identify nodes asnd payload info info' h hheard hservice hpayload hstate hidentity =>
      have hintroduced : Introduced heard asnd payload := ⟨hreceived _ hheard, hservice, hpayload⟩
      have hseen : CnState.identified.Seen heard asnd.source :=
        ⟨_, hreceived _ hheard, .identify rfl hservice rfl hpayload⟩
      have hnodes := hk.replace h (.inr (hstate ▸ hseen)) fun identity hi =>
        ⟨asnd, payload, hintroduced, rfl, Option.some.inj (hidentity.symm.trans hi)⟩
      refine ⟨hnodes.nodes, hk.booted, hk.polled, hnodes.identities, ?_, hk.commands⟩
      intro ip mac hget
      change (k.cache.insert _ _).get? ip = some mac at hget
      rw [SortedMap.get?_insert] at hget
      split_ifs at hget with hip
      · exact ⟨asnd, payload, hintroduced, hip, (Option.some.inj hget).symm⟩
      · exact hk.cache ip mac hget
  | move hevent hgate => exact hk.move hevent hgate
  | activate => exact hk.activate
  | ready => exact hk.queue fun entry hmem => hk.reason_of_ready hmem
  | start nodeId hop => exact hk.queue (List.forall_mem_singleton.mpr (.start rfl hop))

end Backed

/-- An operational node stays so. -/
theorem Steps.operational {received : Option PowerlinkFrame} {k k' : Knowledge}
    (h : Steps received k k') (hop : k.machine.currentState = .nmtOperational) :
    k'.machine.currentState = .nmtOperational := by
  refine h.induct (fun k => k.machine.currentState = .nmtOperational) ?_ hop
  intro a b hstep ha
  cases hstep with
  | move hevent =>
      obtain hsame | ⟨hold, -⟩ | ⟨hold, -⟩ | ⟨-, hnew⟩ := a.machine.isInternal_cases hevent
      · exact hsame.trans ha
      · cases hold.symm.trans ha
      · cases hold.symm.trans ha
      · exact hnew
  | activate =>
      obtain hsame | ⟨hold, -⟩ := a.machine.timeout_cases
      · exact hsame.trans ha
      · cases hold.symm.trans ha
  | _ => exact ha

end Knowledge

/-! ### Runs -/

/-- The frame that a call receives. -/
def ApiReturned.frame {σ : Type} (x : ApiReturned σ) : Option PowerlinkFrame :=
  match x.call with
  | .runCycle input => input.frame
  | _ => none

/-- The command that a method of the application queues. -/
def MnCall.entry : MnCall → Option NmtCommandEntry
  | queueNmtStateCommand command target => some (.state command, target, .none)
  | setHostname target hostname => some (.managing .nmtNetHostNameSet, target, .hostName hostname)
  | flushArpEntry target =>
      some (.managing .nmtFlushArpEntry, cAdrBroadcastNodeId, .flushArp target)
  | _ => none

namespace ApiRun

variable {σ : Type}

/-- The frame was received in a call. -/
def Heard (r : ApiRun σ) (frame : PowerlinkFrame) : Prop :=
  ∃ x ∈ r.returned, x.frame = some frame

/-- The application has queued the command. -/
def Asked (r : ApiRun σ) (entry : NmtCommandEntry) : Prop :=
  ∃ x ∈ r.returned, x.call.entry = some entry

/-- The knowledge of the node rests on what was received and asked for. -/
def Backed (r : ApiRun σ) : Prop := r.context.knowledge.Backed r.Heard r.Asked

/-- A call later. -/
def returns (r : ApiRun σ) (call : MnCall) (action : NodeAction) (d : MnContext σ) : ApiRun σ :=
  ⟨d, ⟨r.context, call, action, d⟩ :: r.returned⟩

theorem Heard.returns {r : ApiRun σ} {frame : PowerlinkFrame} (h : r.Heard frame) (call : MnCall)
    (action : NodeAction) (d : MnContext σ) : (r.returns call action d).Heard frame :=
  h.imp fun _ hx => ⟨List.mem_cons_of_mem _ hx.1, hx.2⟩

theorem Asked.returns {r : ApiRun σ} {entry : NmtCommandEntry} (h : r.Asked entry) (call : MnCall)
    (action : NodeAction) (d : MnContext σ) : (r.returns call action d).Asked entry :=
  h.imp fun _ hx => ⟨List.mem_cons_of_mem _ hx.1, hx.2⟩

variable [ObjectDictionaryStorage σ]

/-- A call of `run_cycle`, and its own slot: the knowledge stays backed, and an operational node stays
so. -/
theorem Backed.runCycle {r : ApiRun σ} (h : r.Backed) {input : CycleInput} {action : NodeAction}
    {d : MnContext σ} (hrun : r.context.runCycle input = some (action, d)) :
    (r.returns (.runCycle input) action d).Backed ∧
      (r.context.nmtState = .nmtOperational → d.nmtState = .nmtOperational) ∧
      ∀ o, r.context.ownSlot input = some o →
        o.knowledge.Backed (r.returns (.runCycle input) action d).Heard
            (r.returns (.runCycle input) action d).Asked ∧
          (o.nmtState = .nmtOperational → d.nmtState = .nmtOperational) := by
  have hbefore : r.context.knowledge.Backed (r.returns (.runCycle input) action d).Heard
      (r.returns (.runCycle input) action d).Asked :=
    h.mono (fun _ hheard => hheard.returns _ _ _) (fun _ hasked => hasked.returns _ _ _)
  have hnow : ∀ frame, input.frame = some frame →
      (r.returns (.runCycle input) action d).Heard frame :=
    fun _ hframe => ⟨_, List.mem_cons_self, hframe⟩
  have hsteps : ∀ {k}, Knowledge.Steps input.frame r.context.knowledge k →
      k.Backed (r.returns (.runCycle input) action d).Heard
        (r.returns (.runCycle input) action d).Asked :=
    fun hk => hk.induct _ (fun _ _ => .step hnow) hbefore
  cases MnContext.runCycle_knowledge hrun with
  | steps hslot hk =>
      refine ⟨hsteps hk, hk.operational, ?_⟩
      intro o ho
      cases hslot.symm.trans ho
  | @own o hslot hk hsent =>
      have ho := hsteps hk
      have hstate : d.nmtState = o.nmtState :=
        congrArg (fun k => k.machine.currentState) hsent
      refine ⟨?_, fun hop => hstate.trans (hk.operational hop), ?_⟩
      · have hd : d.knowledge.Backed (r.returns (.runCycle input) action d).Heard
            (r.returns (.runCycle input) action d).Asked := by
          rw [hsent]
          exact ⟨ho.nodes, ho.booted, ho.polled, ho.identities, ho.cache,
            fun entry hmem => ho.commands entry (List.mem_of_mem_dropLast hmem)⟩
        exact hd
      · intro o' ho'
        obtain rfl := Option.some.inj (hslot.symm.trans ho')
        exact ⟨ho, hstate.trans⟩

omit [ObjectDictionaryStorage σ] in
/-- A method of the application queues what it is asked for. -/
theorem Backed.method {r : ApiRun σ} (h : r.Backed) {call : MnCall} {action : NodeAction}
    {d : MnContext σ} {queued : List NmtCommandEntry}
    (hknowledge : d.knowledge = { r.context.knowledge with
      commands := r.context.knowledge.commands ++ queued })
    (hqueued : ∀ entry ∈ queued, call.entry = some entry) : (r.returns call action d).Backed := by
  have hbefore : r.context.knowledge.Backed (r.returns call action d).Heard
      (r.returns call action d).Asked :=
    h.mono (fun _ hheard => hheard.returns _ _ _) (fun _ hasked => hasked.returns _ _ _)
  have hd : d.knowledge.Backed (r.returns call action d).Heard (r.returns call action d).Asked := by
    rw [hknowledge]
    exact hbefore.queue fun entry hmem => .asked ⟨_, List.mem_cons_self, hqueued entry hmem⟩
  exact hd

theorem backed_new {od : ObjectDictionary σ} {mac : MacAddress} {cfg : Option ConfigurationInterface}
    {c : MnContext σ} (h : ManagingNode.new od mac cfg = .ok c) : Backed ⟨c, []⟩ := by
  obtain ⟨od', machine, cycleTimeUs, lists, publish, hstate, hfresh, rfl⟩ := ManagingNode.new_eq h
  have hboot : machine.currentState ∉ Knowledge.bootStates := by
    rw [hstate]
    decide
  refine ⟨?_, fun h => absurd h hboot, fun h => absurd (List.mem_cons_of_mem _ h) hboot, ?_, ?_,
    List.forall_mem_nil _⟩
  · intro nodeId info hget
    rw [hfresh nodeId info hget]
    exact .inl (.inl rfl)
  · intro nodeId info identity hget hidentity
    rw [hfresh nodeId info hget] at hidentity
    cases hidentity
  · intro ip mac hget
    cases hget

/-- Every call keeps the knowledge backed. -/
theorem Backed.call {r : ApiRun σ} (h : r.Backed) {call : MnCall} {action : NodeAction}
    {d : MnContext σ} (hcall : r.context.call call = some (action, d)) :
    (r.returns call action d).Backed := by
  have hkept : ∀ {call : MnCall} {d : MnContext σ}, d.knowledge = r.context.knowledge →
      (r.returns call action d).Backed := by
    intro call d hd
    refine h.method (hd.trans ?_) (List.forall_mem_nil _)
    rw [List.append_nil]
  cases call with
  | runCycle input => exact (h.runCycle hcall).1
  | queueNmtStateCommand command target =>
      obtain ⟨-, rfl⟩ := Prod.mk.inj (Option.some.inj hcall)
      exact h.method rfl (List.forall_mem_singleton.mpr rfl)
  | setHostname target hostname =>
      obtain ⟨-, rfl⟩ := Prod.mk.inj (Option.some.inj hcall)
      unfold MnContext.setHostname
      split_ifs
      · exact hkept rfl
      · exact hkept rfl
      · exact h.method rfl (List.forall_mem_singleton.mpr rfl)
  | flushArpEntry target =>
      obtain ⟨-, rfl⟩ := Prod.mk.inj (Option.some.inj hcall)
      exact h.method rfl (List.forall_mem_singleton.mpr rfl)
  | readObject | writeObject =>
      obtain ⟨-, rfl⟩ := Prod.mk.inj (Option.some.inj hcall)
      exact hkept rfl

/-- The knowledge of a managing node is backed in every run. -/
theorem backed_throughout : Throughout (fun r : ApiRun σ => r.Backed) :=
  throughout_of_new (fun _ _ _ _ hc => backed_new hc) (fun _ _ _ _ hr hcall => hr.call hcall)

end ApiRun

end Powerlink
