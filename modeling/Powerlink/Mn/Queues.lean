import Powerlink.Mn.Boot
import Powerlink.Mn.Branches

/-! # What a received frame puts into the queues

A managing node keeps five queues for its asynchronous phase.  A received frame only adds to them:
`Fed c d requests` says that `requests` are appended to the requests of controlled nodes, that a node
is not queued twice for a StatusRequest and that NMT commands other than StartNode may be queued at
the end.  Each function on the way of a frame has a lemma of this form, and so have the events of
the data link layer.

`receivePoint_fed` puts them together: a request is queued exactly for a PRes with the RS flag.
`runCycle_queues` gives the rest of the call, step by step, up to the own slot. -/

namespace Powerlink

namespace MnContext

variable {σ : Type}

/-- What is added to the queues. -/
structure Fed (c d : MnContext σ) (requests : List AsyncRequest) : Prop where
  requests : d.asyncRequestQueue = c.asyncRequestQueue ++ requests
  er : d.pendingErRequests = c.pendingErRequests
  status : c.pendingStatusRequests.Nodup → d.pendingStatusRequests.Nodup
  commands : ∃ queued, d.pendingNmtCommands = c.pendingNmtCommands ++ queued ∧
    ∀ command ∈ queued, command.1 ≠ .state .startNode
  frames : d.mnAsyncSendQueue = c.mnAsyncSendQueue
  done : d.initialOperationalActionsDone = c.initialOperationalActionsDone
  mandatory : d.mandatoryNodes = c.mandatoryNodes
  machine : c.nmtStateMachine.Moves d.nmtStateMachine

/-- The queues of the asynchronous phase, the flag of the one-time actions, the mandatory nodes and
the NMT state machine. -/
structure QueueView where
  requests : List AsyncRequest
  er : List NodeId
  status : List NodeId
  commands : List (MnNmtCommandRequest × NodeId × NmtCommandData)
  frames : List PowerlinkFrame
  done : Bool
  mandatory : List NodeId
  machine : MnNmtStateMachine

/-- The queues of a context. -/
def queues (c : MnContext σ) : QueueView where
  requests := c.asyncRequestQueue
  er := c.pendingErRequests
  status := c.pendingStatusRequests
  commands := c.pendingNmtCommands
  frames := c.mnAsyncSendQueue
  done := c.initialOperationalActionsDone
  mandatory := c.mandatoryNodes
  machine := c.nmtStateMachine

/-- The queues stay as they are. -/
def SameQueues (c d : MnContext σ) : Prop := d.queues = c.queues

namespace SameQueues

variable {c d e : MnContext σ}

theorem refl (c : MnContext σ) : SameQueues c c := rfl

theorem trans (h : SameQueues c d) (h' : SameQueues d e) : SameQueues c e := Eq.trans h' h

theorem requests (h : SameQueues c d) : d.asyncRequestQueue = c.asyncRequestQueue :=
  congrArg QueueView.requests h

theorem status (h : SameQueues c d) : d.pendingStatusRequests = c.pendingStatusRequests :=
  congrArg QueueView.status h

theorem commands (h : SameQueues c d) : d.pendingNmtCommands = c.pendingNmtCommands :=
  congrArg QueueView.commands h

theorem frames (h : SameQueues c d) : d.mnAsyncSendQueue = c.mnAsyncSendQueue :=
  congrArg QueueView.frames h

theorem done (h : SameQueues c d) :
    d.initialOperationalActionsDone = c.initialOperationalActionsDone :=
  congrArg QueueView.done h

theorem mandatory (h : SameQueues c d) : d.mandatoryNodes = c.mandatoryNodes :=
  congrArg QueueView.mandatory h

theorem machine (h : SameQueues c d) : d.nmtStateMachine = c.nmtStateMachine :=
  congrArg QueueView.machine h

end SameQueues

theorem SameQueues.fed {c d : MnContext σ} (h : SameQueues c d) : Fed c d [] where
  requests := by rw [h.requests, List.append_nil]
  er := congrArg QueueView.er h
  status := fun hnodup => h.status ▸ hnodup
  commands := ⟨[], by rw [h.commands, List.append_nil], nofun⟩
  frames := h.frames
  done := h.done
  mandatory := h.mandatory
  machine := h.machine ▸ .refl

theorem Fed.refl (c : MnContext σ) : Fed c c [] := (SameQueues.refl c).fed

theorem Fed.trans {c d e : MnContext σ} {requests requests' : List AsyncRequest}
    (h : Fed c d requests) (h' : Fed d e requests') : Fed c e (requests ++ requests') where
  requests := by rw [h'.requests, h.requests, List.append_assoc]
  er := h'.er.trans h.er
  status := fun hnodup => h'.status (h.status hnodup)
  commands := by
    obtain ⟨queued, hqueued, hstart⟩ := h.commands
    obtain ⟨queued', hqueued', hstart'⟩ := h'.commands
    refine ⟨queued ++ queued', by rw [hqueued', hqueued, List.append_assoc], ?_⟩
    intro command hmem
    obtain hmem | hmem := List.mem_append.mp hmem
    · exact hstart command hmem
    · exact hstart' command hmem
  frames := h'.frames.trans h.frames
  done := h'.done.trans h.done
  mandatory := h'.mandatory.trans h.mandatory
  machine := Relation.ReflTransGen.trans h.machine h'.machine

theorem Fed.then_same {c d e : MnContext σ} {requests : List AsyncRequest} (h : Fed c d requests)
    (h' : SameQueues d e) : Fed c e requests := by
  have htrans := h.trans h'.fed
  rwa [List.append_nil] at htrans

theorem SameQueues.then_fed {c d e : MnContext σ} {requests : List AsyncRequest}
    (h : SameQueues c d) (h' : Fed d e requests) : Fed c e requests := h.fed.trans h'

/-- Commands at the end of the queue. -/
theorem fed_queue (c : MnContext σ) {queued : List (MnNmtCommandRequest × NodeId × NmtCommandData)}
    (h : ∀ command ∈ queued, command.1 ≠ .state .startNode) :
    Fed c { c with pendingNmtCommands := c.pendingNmtCommands ++ queued } [] where
  requests := (List.append_nil _).symm
  er := rfl
  status := id
  commands := ⟨queued, rfl, h⟩
  frames := rfl
  done := rfl
  mandatory := rfl
  machine := .refl

/-! ### The tracked nodes and the NMT state -/

theorem same_track (c : MnContext σ) (nodeId : NodeId) (new : CnState) :
    SameQueues c (c.track nodeId new) := by
  unfold track
  split
  · exact SameQueues.refl c
  · split_ifs
    · exact SameQueues.refl c
    · exact rfl

variable [ObjectDictionaryStorage σ]

/-- An event of the NMT state machine changes nothing else. -/
theorem processNmtEvent_queues (c : MnContext σ) (event : NmtEvent) :
    (c.processNmtEvent event).queues =
      { c.queues with machine := (c.nmtStateMachine.processEvent event c.core.od).1 } := by
  dsimp only [processNmtEvent]
  split_ifs
  · exact rfl
  · exact rfl

theorem fed_processNmtEvent (c : MnContext σ) {event : NmtEvent}
    (h : MnNmtStateMachine.isInternal event = true) : Fed c (c.processNmtEvent event) [] := by
  have hqueues := c.processNmtEvent_queues event
  have hstatus : (c.processNmtEvent event).pendingStatusRequests = c.pendingStatusRequests :=
    congrArg QueueView.status hqueues
  have hmachine : (c.processNmtEvent event).nmtStateMachine =
      (c.nmtStateMachine.processEvent event c.core.od).1 := congrArg QueueView.machine hqueues
  exact {
    requests := (congrArg QueueView.requests hqueues).trans (List.append_nil _).symm
    er := congrArg QueueView.er hqueues
    status := fun hnodup => hstatus ▸ hnodup
    commands := ⟨[], (congrArg QueueView.commands hqueues).trans (List.append_nil _).symm, nofun⟩
    frames := congrArg QueueView.frames hqueues
    done := congrArg QueueView.done hqueues
    mandatory := congrArg QueueView.mandatory hqueues
    machine := hmachine ▸ c.nmtStateMachine.moves_processEvent c.core.od h }

/-- `NmtGsResetCommunication` is not left by an error. -/
theorem same_processNmtEvent_error (c : MnContext σ)
    (h : c.nmtState = .nmtGsResetCommunication) : SameQueues c (c.processNmtEvent .error) := by
  have hstate : c.nmtStateMachine.currentState = .nmtGsResetCommunication := h
  have hnext : c.nmtStateMachine.nextState .error = c.nmtStateMachine.currentState := by
    unfold MnNmtStateMachine.nextState
    rw [hstate]
  have hmachine : (c.nmtStateMachine.processEvent .error c.core.od).1 = c.nmtStateMachine := by
    rw [MnNmtStateMachine.processEvent_machine _ _ rfl, hnext]
  rw [SameQueues, processNmtEvent_queues, hmachine]
  rfl

omit [ObjectDictionaryStorage σ] in
theorem enableReadyCommands_ne {nodes : NodeTable}
    {command : MnNmtCommandRequest × NodeId × NmtCommandData}
    (h : command ∈ enableReadyCommands nodes) : command.1 ≠ .state .startNode := by
  obtain ⟨p, -, rfl⟩ := List.mem_map.mp h
  nofun

/-- The updates of a received frame put commands into the queues and nothing else. -/
theorem Touch.fed {c d : MnContext σ} (h : Touch c d) : Fed c d [] := by
  cases h with
  | track nodeId _ => exact (c.same_track nodeId _).fed
  | note nodeId _ _ => exact SameQueues.fed rfl
  | nmt h => exact c.fed_processNmtEvent h
  | ready => exact fed_queue _ (fun command => enableReadyCommands_ne)
  | validated nodeId cache => exact SameQueues.fed rfl
  | download nodeId dcf t => exact SameQueues.fed rfl

theorem Touches.fed {c d : MnContext σ} (h : Touches c d) : Fed c d [] := by
  induction h with
  | refl => exact Fed.refl c
  | tail _ hstep ih => exact ih.trans hstep.fed

/-! ### PRes -/

/-- The request of a PRes: one for the source if the RS flag is set. -/
def presRequests (pres : PResFrame) : List AsyncRequest :=
  if 0 < pres.flags.rs.value then [⟨pres.source, pres.flags.pr.toByte⟩] else []

omit [ObjectDictionaryStorage σ] in
theorem fed_queueRequest (c : MnContext σ) (pres : PResFrame) :
    Fed c (c.queueRequest pres) (presRequests pres) := by
  unfold queueRequest presRequests
  split_ifs
  · exact ⟨rfl, rfl, id, ⟨[], (List.append_nil _).symm, nofun⟩, rfl, rfl, rfl, .refl⟩
  · exact Fed.refl c

omit [ObjectDictionaryStorage σ] in
theorem fed_checkExceptionFlag (c : MnContext σ) (pres : PResFrame) (info : CnInfo) :
    Fed c (c.checkExceptionFlag pres info) [] where
  requests := (List.append_nil _).symm
  er := rfl
  status := by
    intro hnodup
    dsimp only [checkExceptionFlag]
    split_ifs with hnew
    · rw [List.nodup_append]
      refine ⟨hnodup, List.nodup_singleton _, ?_⟩
      intro nodeId hmem nodeId' hmem' heq
      rw [List.mem_singleton.mp hmem'] at heq
      exact hnew.2 (heq ▸ hmem)
    · exact hnodup
  commands := ⟨[], (List.append_nil _).symm, nofun⟩
  frames := rfl
  done := rfl
  mandatory := rfl
  machine := .refl

theorem fed_handlePresFrame (c : MnContext σ) (pres : PResFrame) :
    Fed c (c.handlePresFrame pres) (presRequests pres) := by
  dsimp only [handlePresFrame]
  generalize hd : record c _ = d
  have hsame : SameQueues c d := by
    rw [← hd]
    exact rfl
  have hrequest : Fed c (d.queueRequest pres) (presRequests pres) :=
    hsame.then_fed (d.fed_queueRequest pres)
  split
  · exact hrequest
  · rename_i info _
    have htrans := (hrequest.trans (fed_checkExceptionFlag _ pres info)).trans
      (touches_checkCommunication _ pres info).fed
    rwa [List.append_nil, List.append_nil] at htrans

/-! ### ASnd -/

theorem fed_handleStatusResponse (c : MnContext σ) (frame : ASndFrame) :
    Fed c (c.handleStatusResponse frame) [] := by
  dsimp only [handleStatusResponse]
  split
  · exact Fed.refl c
  · split
    · exact SameQueues.fed rfl
    · refine SameQueues.then_fed ?_ (touches_updateCnState _ _ _).fed
      exact rfl

theorem fed_handleAsndFrame (c : MnContext σ) (frame : ASndFrame) (t : ℕ) :
    Fed c (c.handleAsndFrame frame t) [] := by
  unfold handleAsndFrame
  split
  · exact (c.touches_handleIdentResponse frame t).fed
  · exact c.fed_handleStatusResponse frame
  · exact Fed.refl c

theorem fed_processAsnd (c : MnContext σ) (frame : ASndFrame) (t : ℕ) :
    Fed c (c.processAsnd frame t) [] := by
  dsimp only [processAsnd]
  split_ifs
  · refine Fed.then_same (SameQueues.then_fed ?_ (fed_handleAsndFrame _ frame t))
      rfl
    exact rfl
  · refine SameQueues.then_fed ?_ (fed_handleAsndFrame _ frame t)
    exact rfl

omit [ObjectDictionaryStorage σ] in
theorem same_processSdoResponse {c d : MnContext σ} {frame : ASndFrame}
    (h : c.processSdoResponse frame = some d) : SameQueues c d := by
  cases processSdoResponse_way h with
  | dropped => exact rfl
  | handled => exact rfl

theorem same_handleSdoServerRequest {c d : MnContext σ} {payload : List UInt8}
    {client : SdoClientInfo} {t : ℕ} {action : NodeAction}
    (h : c.handleSdoServerRequest payload client t = (action, d)) : SameQueues c d := by
  cases handleSdoServerRequest_way h with
  | unanswered => exact rfl
  | answered => exact rfl

/-! ### Events of the data link layer -/

theorem DllTouch.fed {c d : MnContext σ} (h : DllTouch c d) : Fed c d [] := by
  cases h with
  | machine m => exact SameQueues.fed rfl
  | counters counters => exact SameQueues.fed rfl
  | lose nodeId =>
      refine (c.same_track nodeId .missing).then_fed (fed_queue _ ?_)
      intro command hmem
      rw [List.mem_singleton.mp hmem]
      nofun

theorem fed_handleDllEvent (c : MnContext σ) (event : DllMsEvent) (frame : PowerlinkFrame) :
    Fed c (c.handleDllEvent event frame) [] := by
  have hrun : ∀ d, DllTouches c d → Fed c d [] := by
    intro d h
    induction h with
    | refl => exact Fed.refl c
    | tail _ hstep ih => exact ih.trans hstep.fed
  exact hrun _ (c.touches_handleDllEvent event frame)

/-! ### Received frames -/

omit [ObjectDictionaryStorage σ] in
/-- The requests that a call receives. -/
def receivedRequests (c : MnContext σ) (input : CycleInput) : List AsyncRequest :=
  if c.nmtState = .nmtGsResetCommunication then []
  else match input.frame with
    | some (.pRes pres) => presRequests pres
    | _ => []

omit [ObjectDictionaryStorage σ] in
/-- The context in which a received frame leaves the node. -/
def ReceivePoint.context : ReceivePoint σ → Option (MnContext σ)
  | panic => none
  | pass c => some c
  | reply _ c => some c
  | answered c => some c

theorem presPoint_fed {c d : MnContext σ} {pres : PResFrame} {t : ℕ}
    (h : (c.presPoint pres t).context = some d) : Fed c d (presRequests pres) := by
  dsimp only [presPoint] at h
  have hdll := c.fed_handleDllEvent .pres (.pRes pres)
  have hcount : SameQueues (c.handleDllEvent .pres (.pRes pres))
      ((c.handleDllEvent .pres (.pRes pres)).count 2) := rfl
  have htracked := (hdll.then_same hcount).trans (touches_trackPres _ pres t).fed
  split_ifs at h
  · split at h
    · cases h
    · obtain rfl := Option.some.inj h
      refine htracked.trans (SameQueues.then_fed ?_ (fed_handlePresFrame _ pres))
      exact rfl
  · obtain rfl := Option.some.inj h
    exact htracked.trans (fed_handlePresFrame _ pres)

theorem asndPoint_fed {c d : MnContext σ} {frame : ASndFrame} {t : ℕ}
    (h : (c.asndPoint frame t).context = some d) : Fed c d [] := by
  unfold asndPoint at h
  split_ifs at h
  · split at h
    · cases h
    · rename_i e hresponse
      obtain rfl := Option.some.inj h
      exact (same_processSdoResponse hresponse).fed
  · obtain rfl := Option.some.inj h
    refine SameQueues.fed (SameQueues.trans ?_ (same_handleSdoServerRequest rfl))
    exact rfl
  · obtain rfl := Option.some.inj h
    exact (c.fed_handleDllEvent .asnd (.aSnd frame)).trans (fed_processAsnd _ frame t)

/-- A received frame queues a request for a PRes with the RS flag, and for nothing else. -/
theorem receivePoint_fed {c d : MnContext σ} {input : CycleInput}
    (h : (c.receivePoint input).context = some d) : Fed c d (c.receivedRequests input) := by
  unfold receivePoint at h
  unfold receivedRequests CycleInput.frame
  cases hbuffer : input.ethernetFrame with
  | none =>
      rw [hbuffer] at h
      obtain rfl := Option.some.inj h
      simp only [ite_self]
      exact Fed.refl c
  | some buffer =>
      rw [hbuffer] at h
      dsimp only at h ⊢
      by_cases hpowerlink : isPowerlinkBuffer buffer
      · rw [if_pos hpowerlink] at h ⊢
        by_cases hreset : c.nmtState = .nmtGsResetCommunication
        · rw [if_pos hreset] at h ⊢
          obtain rfl := Option.some.inj h
          exact (c.same_processNmtEvent_error hreset).fed
        · rw [if_neg hreset] at h ⊢
          cases hframe : deserializeFrame buffer with
          | error e =>
              rw [hframe] at h
              obtain rfl := Option.some.inj h
              exact Fed.refl c
          | ok frame =>
              rw [hframe] at h
              cases frame with
              | pRes pres => exact presPoint_fed h
              | aSnd frame => exact asndPoint_fed h
              | _ =>
                  obtain rfl := Option.some.inj h
                  exact Fed.refl c
      · rw [if_neg hpowerlink] at h ⊢
        obtain rfl := Option.some.inj h
        simp only [ite_self]
        exact Fed.refl c

/-! ### The tick -/

section tick

omit [ObjectDictionaryStorage σ]

theorem same_tickSdoClient {c d : MnContext σ} {t : ℕ} {action : Option NodeAction}
    (h : c.tickSdoClient t = (action, d)) : SameQueues c d := by
  cases tickSdoClient_way h with
  | silent => exact rfl
  | send => exact rfl

theorem same_tickSdoServer {c d : MnContext σ} {t : ℕ} {action : Option NodeAction}
    (h : c.tickSdoServer t = (action, d)) : SameQueues c d := by
  cases tickSdoServer_way h with
  | idle => exact SameQueues.refl c
  | silent => exact rfl
  | unsent => exact rfl
  | send => exact rfl

theorem same_pollNode (c : MnContext σ) (nodeId : NodeId) (t : ℕ) :
    SameQueues c (c.pollNode nodeId t).2 := by
  dsimp only [pollNode]
  generalize hs : scheduleTimeout _ _ _ = s
  have hsame : SameQueues c s := by
    rw [← hs]
    exact rfl
  obtain ⟨⟨core, hcore⟩, -⟩ := buildPreqFrame_spec (s.record (.built nodeId (s.canPoll nodeId)))
    nodeId (decide (0 < assignedCycle (s.record (.built nodeId (s.canPoll nodeId))) nodeId))
  rw [hcore]
  exact hsame.trans rfl

theorem same_sendSoa (c : MnContext σ) (action : AsyncAction) (t : ℕ) :
    SameQueues c (c.sendSoa action t).2 := by
  dsimp only [sendSoa]
  have hphase : SameQueues c (c.enterAsyncPhase action t) := by
    unfold enterAsyncPhase
    split_ifs
    · exact rfl
    · exact rfl
    · exact rfl
  have hcount : SameQueues (c.enterAsyncPhase action t)
      ((c.enterAsyncPhase action t).countSoa action.1) := by
    unfold countSoa
    split_ifs
    · exact rfl
    · exact rfl
  exact (hphase.trans hcount).trans rfl

/-- The context of a branch of `advance_cycle_phase`. -/
def AdvancePoint.context : AdvancePoint σ → MnContext σ
  | poll _ c => c
  | publish _ c => c
  | schedule c => c

theorem same_endPoint (c : MnContext σ) : SameQueues c c.endPoint.context := by
  dsimp only [endPoint]
  split
  · exact rfl
  · exact rfl

theorem same_advancePoint (c : MnContext σ) : SameQueues c c.advancePoint.context := by
  unfold advancePoint
  split_ifs
  · have hnext : SameQueues c (c.getNextIsochronousNodeToPoll c.currentMultiplexCycle).2 :=
      rfl
    split
    · rename_i nodeId d heq
      rw [heq] at hnext
      exact hnext
    · rename_i d heq
      rw [heq] at hnext
      exact hnext.trans d.same_endPoint
  · exact c.same_endPoint

/-- The context of a branch of `handle_tick`. -/
def TickPoint.context : TickPoint σ → MnContext σ
  | start c => c
  | answer _ c => c
  | activate c => c
  | deliver _ c => c
  | advance c => c
  | own c => c
  | rest c => c

/-- Up to its branch a tick leaves the queues alone, except for the one-time actions. -/
inductive Arrival (c : MnContext σ) : TickPoint σ → Prop
  | same {p : TickPoint σ} (h : SameQueues c p.context) : Arrival c p
  | actions {d e : MnContext σ} {p : TickPoint σ} (h : SameQueues c d)
      (hactions : d.initialOperationalActions = (none, e)) (h' : SameQueues e p.context) :
      Arrival c p
  | broadcast {d e : MnContext σ} {action : NodeAction} (h : SameQueues c d)
      (hactions : d.initialOperationalActions = (some action, e)) : Arrival c (.answer action e)

theorem Arrival.after {c d : MnContext σ} {p : TickPoint σ} (h : SameQueues c d)
    (harrival : Arrival d p) : Arrival c p := by
  cases harrival with
  | same h' => exact .same (h.trans h')
  | actions h' hactions h'' => exact .actions (h.trans h') hactions h''
  | broadcast h' hactions => exact .broadcast (h.trans h') hactions

theorem DeadlineWay.arrival {c : MnContext σ} {p : TickPoint σ} (h : DeadlineWay c p) :
    Arrival c p := by
  have hnext : ∀ next, SameQueues c { c with nextTickUs := next } := fun _ => rfl
  cases h with
  | broadcast next hactions => exact .broadcast (hnext next) hactions
  | own next hactions => exact .actions (hnext next) hactions rfl
  | proceed next hactions => exact .actions (hnext next) hactions rfl
  | pause next later hactions => exact .actions (hnext next) hactions rfl
  | _ => exact .same rfl

theorem TickWay.arrival {c : MnContext σ} {p : TickPoint σ} {t : ℕ} (h : TickWay c t p) :
    Arrival c p := by
  cases h with
  | start => exact .same rfl
  | client hclient => exact .same (same_tickSdoClient hclient)
  | server hclient hserver =>
      exact .same ((same_tickSdoClient hclient).trans (same_tickSdoServer hserver))
  | deadline hclient hserver hway =>
      exact hway.arrival.after
        ((same_tickSdoClient hclient).trans (same_tickSdoServer hserver))

theorem tickPoint_arrival (c : MnContext σ) (t : ℕ) : Arrival c (c.tickPoint t) :=
  (c.tickPoint_way t).arrival

end tick

theorem same_startCycle (c : MnContext σ) (t : ℕ) : SameQueues c (c.startCycle t).2 := by
  obtain ⟨m, e, h⟩ := (c.beginCycle t).handleDllEvent_of_ne
    (show DllMsEvent.socTrig ≠ .presTimeout by decide)
    ((c.beginCycle t).buildSocFrame (c.beginCycle t).currentMultiplexCycle
      (c.beginCycle t).multiplexCycleLen)
  dsimp only [startCycle]
  rw [h]
  exact rfl

theorem same_receiveUdp {c d : MnContext σ} {input : CycleInput} {action : NodeAction}
    (h : c.receiveUdp input = (action, d)) : SameQueues c d := by
  cases receiveUdp_way h with
  | dropped => exact SameQueues.refl c
  | unanswered => exact rfl
  | answered => exact rfl

/-! ### The way of the queues through a call -/

/-- What a call does with the queues, apart from the own slot; the asynchronous actions that it
determines are among `choices`. -/
inductive QueueStep (choices : List AsyncChoice) : MnContext σ → MnContext σ → Prop
  | same {c d : MnContext σ} (h : SameQueues c d) : QueueStep choices c d
  | fed {c d : MnContext σ} (h : Fed c d []) : QueueStep choices c d
  | choose {c : MnContext σ} {choice : AsyncChoice} (h : choice.Found c)
      (hmem : choice ∈ choices) : QueueStep choices c (choice.apply c).2
  | actions {c d : MnContext σ} {action : Option NodeAction}
      (h : c.initialOperationalActions = (action, d)) : QueueStep choices c d
  | activate (c : MnContext σ) : QueueStep choices c (c.processNmtEvent .timeout)

/-- Any number of such steps. -/
abbrev QueuePath (choices : List AsyncChoice) : MnContext σ → MnContext σ → Prop :=
  Relation.ReflTransGen (QueueStep choices)

theorem SameQueues.path {c d : MnContext σ} (choices : List AsyncChoice) (h : SameQueues c d) :
    QueuePath choices c d :=
  .single (.same h)

theorem QueuePath.mono {choices choices' : List AsyncChoice} {c d : MnContext σ}
    (h : QueuePath choices c d) (hsub : ∀ choice ∈ choices, choice ∈ choices') :
    QueuePath choices' c d := by
  refine Relation.ReflTransGen.mono ?_ _ _ h
  intro a b hstep
  cases hstep with
  | same h => exact .same h
  | fed h => exact .fed h
  | choose h hmem => exact .choose h (hsub _ hmem)
  | actions h => exact .actions h
  | activate => exact .activate a

theorem Arrival.path {c : MnContext σ} {p : TickPoint σ} (choices : List AsyncChoice)
    (h : Arrival c p) : QueuePath choices c p.context := by
  cases h with
  | same h => exact h.path choices
  | actions h hactions h' => exact ((h.path choices).tail (.actions hactions)).tail (.same h')
  | broadcast h hactions => exact (h.path choices).tail (.actions hactions)

theorem path_advanceCyclePhase {c d : MnContext σ} {t : ℕ} {action : NodeAction}
    (h : c.advanceCyclePhase t = some (action, d)) : QueuePath c.advanceChoices c d := by
  have hpoint := c.same_advancePoint
  rw [advanceCyclePhase_eq] at h
  cases hbranch : c.advancePoint with
  | poll nodeId e =>
      rw [hbranch] at h hpoint
      have hpoll := e.same_pollNode nodeId t
      rw [Option.some.inj h] at hpoll
      exact (hpoint.path _).tail (.same hpoll)
  | publish serviceId e =>
      rw [hbranch] at h hpoint
      obtain ⟨-, rfl⟩ := Prod.mk.inj (Option.some.inj h)
      exact (hpoint.path _).tail (.same rfl)
  | schedule e =>
      have hchoices : c.advanceChoices = e.asyncChoice.toList := by
        unfold advanceChoices
        rw [hbranch]
      rw [hbranch] at h hpoint
      obtain ⟨choice, hchoice, heq⟩ := Option.map_eq_some_iff.mp h
      have hsoa := (choice.apply e).2.same_sendSoa (choice.apply e).1 t
      rw [heq] at hsoa
      have hmem : choice ∈ c.advanceChoices := by
        rw [hchoices, hchoice]
        exact List.mem_singleton_self choice
      exact ((hpoint.path _).tail (.choose (found_asyncChoice hchoice) hmem)).tail (.same hsoa)

theorem path_deliverTimeout {c d : MnContext σ} {event : DllMsEvent} {t : ℕ}
    {action : NodeAction} (h : c.deliverTimeout event t = some (action, d)) :
    QueuePath (c.timeoutContext event t).advanceChoices c d := by
  have hevent := fed_handleDllEvent (record { c with pendingTimeoutEvent := none }
    (.timedOut event t)) event timeoutFrame
  have hsame : SameQueues c (record { c with pendingTimeoutEvent := none } (.timedOut event t)) :=
    rfl
  exact (Relation.ReflTransGen.single (.fed (hsame.then_fed hevent))).trans
    (path_advanceCyclePhase h)

/-- The branches of a tick, the own slot aside. -/
theorem path_tickPoint {p : TickPoint σ} {d : MnContext σ} {t : ℕ} {action : NodeAction}
    (h : p.run t = some (action, d)) (hown : ∀ e, p ≠ .own e) :
    QueuePath (p.choices t) p.context d := by
  cases p with
  | start e =>
      have hstart := e.same_startCycle t
      rw [Option.some.inj h] at hstart
      exact hstart.path _
  | answer a e =>
      obtain ⟨-, rfl⟩ := Prod.mk.inj (Option.some.inj h)
      exact .refl
  | activate e =>
      obtain ⟨-, rfl⟩ := Prod.mk.inj (Option.some.inj h)
      exact .single (.activate e)
  | deliver event e => exact path_deliverTimeout h
  | advance e => exact path_advanceCyclePhase h
  | own e => exact absurd rfl (hown e)
  | rest e =>
      obtain ⟨-, rfl⟩ := Prod.mk.inj (Option.some.inj h)
      exact .refl

/-- A received frame ends where its branch is, or advances the phase from there. -/
theorem ReceivePoint.path {p : ReceivePoint σ} {t : ℕ} {action : NodeAction} {d : MnContext σ}
    (h : p.run t = some (action, d)) : ∃ e, p.context = some e ∧ QueuePath p.choices e d := by
  cases p with
  | panic => cases h
  | pass e =>
      obtain ⟨-, rfl⟩ := Prod.mk.inj (Option.some.inj h)
      exact ⟨e, rfl, .refl⟩
  | reply a e =>
      obtain ⟨-, rfl⟩ := Prod.mk.inj (Option.some.inj h)
      exact ⟨e, rfl, .refl⟩
  | answered e =>
      obtain ⟨r, hadvance, heq⟩ := Option.map_eq_some_iff.mp h
      obtain ⟨-, rfl⟩ := Prod.mk.inj heq
      exact ⟨e, rfl, path_advanceCyclePhase hadvance⟩

/-- The queues from the frame of a call to its end: the own slot, if it is used, comes last. -/
inductive QueueWay (c e : MnContext σ) (input : CycleInput) (action : NodeAction)
    (d : MnContext σ) : Prop
  | path (hslot : c.ownSlot input = none) (hpath : QueuePath (c.choices input) e d)
  | own {o : MnContext σ} (hslot : c.ownSlot input = some o)
      (hpath : QueuePath (c.choices input) e o)
      (hown : o.sendOwnAsync input.currentTimeUs = (action, d))

/-- A call first queues what it has received. -/
theorem runCycle_queues {c d : MnContext σ} {input : CycleInput} {action : NodeAction}
    (h : c.runCycle input = some (action, d)) :
    ∃ e, Fed c e (c.receivedRequests input) ∧ QueueWay c e input action d := by
  have hreceive : ∀ choice ∈ (c.receivePoint input).choices, choice ∈ c.choices input :=
    fun choice hmem => List.mem_append_left _ hmem
  obtain hpath := runCycle_path h
  cases hpath with
  | frame hpoint haction =>
      have hcontext : (c.receivePoint input).context = some d := by rw [hpoint]; rfl
      refine ⟨d, receivePoint_fed hcontext, .path ?_ .refl⟩
      have hrun : (c.receivePoint input).run input.currentTimeUs = some (action, d) := by
        rw [hpoint]
        rfl
      exact ownSlot_of_action hrun haction
  | datagram hethernet hudp haction =>
      obtain ⟨e, hcontext, hpath⟩ := ReceivePoint.path hethernet
      refine ⟨e, receivePoint_fed hcontext, .path ?_
        ((hpath.mono hreceive).tail (.same (same_receiveUdp hudp)))⟩
      exact ownSlot_of_datagram hethernet hudp haction
  | @tick r s hethernet hudp htick =>
      obtain ⟨e, hcontext, hpath⟩ := ReceivePoint.path hethernet
      have hcontextTick := tickContext_eq hethernet hudp
      have harrival := (s.tickPoint_arrival input.currentTimeUs).path (c.choices input)
      have hto := ((hpath.mono hreceive).tail (.same (same_receiveUdp hudp))).trans harrival
      have htickChoices : ∀ choice ∈ (s.tickPoint input.currentTimeUs).choices input.currentTimeUs,
          choice ∈ c.choices input := by
        intro choice hmem
        unfold choices
        rw [hcontextTick]
        exact List.mem_append_right _ hmem
      refine ⟨e, receivePoint_fed hcontext, ?_⟩
      cases hslot : c.ownSlot input with
      | none =>
          refine .path hslot (hto.trans ((path_tickPoint htick ?_).mono htickChoices))
          intro o ho
          rw [ownSlot, hcontextTick, Option.bind_some, ho] at hslot
          cases hslot
      | some o =>
          have hpoint := tickPoint_of_ownSlot hcontextTick hslot
          rw [hpoint] at htick hto
          exact .own hslot hto (Option.some.inj htick)

/-! ### The queued frames -/

omit [ObjectDictionaryStorage σ] in
theorem frames_initialOperationalActions {c d : MnContext σ} {action : Option NodeAction}
    (h : c.initialOperationalActions = (action, d)) : d.mnAsyncSendQueue = c.mnAsyncSendQueue := by
  cases initialOperationalActions_way h with
  | _ => rfl

/-- A property of the queued frames is kept if the frames that are added have it. -/
theorem QueueStep.queued {choices : List AsyncChoice} {c d : MnContext σ}
    {P : PowerlinkFrame → Prop} (h : QueueStep choices c d)
    (hrequest : ∀ (e : MnContext σ) request, .request request ∈ choices →
      P (e.sdoRequestFrame request))
    (hpublish : ∀ (e : MnContext σ) serviceId, .publish serviceId ∈ choices →
      P (e.buildNmtInfoFrame serviceId))
    (hc : ∀ frame ∈ c.mnAsyncSendQueue, P frame) : ∀ frame ∈ d.mnAsyncSendQueue, P frame := by
  have hadded : ∀ {added}, P added → ∀ frame ∈ c.mnAsyncSendQueue ++ [added], P frame := by
    intro added hP frame hmem
    obtain hmem | hmem := List.mem_append.mp hmem
    · exact hc frame hmem
    · exact List.mem_singleton.mp hmem ▸ hP
  cases h with
  | same h =>
      rw [h.frames]
      exact hc
  | fed h =>
      rw [h.frames]
      exact hc
  | @choose choice h hmem =>
      cases choice with
      | request request => exact hadded (hrequest c request hmem)
      | publish serviceId => exact hadded (hpublish c serviceId hmem)
      | _ => exact hc
  | actions h =>
      rw [frames_initialOperationalActions h]
      exact hc
  | activate =>
      have hframes : (c.processNmtEvent .timeout).mnAsyncSendQueue = c.mnAsyncSendQueue :=
        congrArg QueueView.frames (c.processNmtEvent_queues .timeout)
      rw [hframes]
      exact hc

theorem QueuePath.queued {choices : List AsyncChoice} {c d : MnContext σ}
    {P : PowerlinkFrame → Prop} (h : QueuePath choices c d)
    (hrequest : ∀ (e : MnContext σ) request, .request request ∈ choices →
      P (e.sdoRequestFrame request))
    (hpublish : ∀ (e : MnContext σ) serviceId, .publish serviceId ∈ choices →
      P (e.buildNmtInfoFrame serviceId))
    (hc : ∀ frame ∈ c.mnAsyncSendQueue, P frame) : ∀ frame ∈ d.mnAsyncSendQueue, P frame := by
  induction h with
  | refl => exact hc
  | tail _ hstep ih => exact hstep.queued hrequest hpublish ih

omit [ObjectDictionaryStorage σ] in
/-- The own slot only takes frames. -/
theorem sublist_sendOwnAsync {c d : MnContext σ} {t : ℕ} {action : NodeAction}
    (h : c.sendOwnAsync t = (action, d)) : d.mnAsyncSendQueue.Sublist c.mnAsyncSendQueue := by
  cases sendOwnAsync_way h with
  | command => exact List.Sublist.refl _
  | request => exact List.Sublist.refl _
  | frame => exact List.dropLast_sublist _
  | unused => exact List.Sublist.refl _

/-- A property of the queued frames, at the end of a call and in its own slot. -/
theorem queued_runCycle {c d : MnContext σ} {input : CycleInput} {action : NodeAction}
    {P : PowerlinkFrame → Prop} (h : c.runCycle input = some (action, d))
    (hrequest : ∀ (e : MnContext σ) request, .request request ∈ c.choices input →
      P (e.sdoRequestFrame request))
    (hpublish : ∀ (e : MnContext σ) serviceId, .publish serviceId ∈ c.choices input →
      P (e.buildNmtInfoFrame serviceId))
    (hc : ∀ frame ∈ c.mnAsyncSendQueue, P frame) :
    (∀ frame ∈ d.mnAsyncSendQueue, P frame) ∧
      ∀ e, c.ownSlot input = some e → ∀ frame ∈ e.mnAsyncSendQueue, P frame := by
  obtain ⟨f, hfed, hway⟩ := runCycle_queues h
  rw [← hfed.frames] at hc
  cases hway with
  | path hslot hpath =>
      refine ⟨QueuePath.queued hpath hrequest hpublish hc, ?_⟩
      intro e he
      rw [hslot] at he
      cases he
  | own hslot hpath hown =>
      have ho := QueuePath.queued hpath hrequest hpublish hc
      refine ⟨fun frame hmem => ho frame ((sublist_sendOwnAsync hown).subset hmem), ?_⟩
      intro e he
      rw [hslot] at he
      exact Option.some.inj he ▸ ho

end MnContext

end Powerlink
