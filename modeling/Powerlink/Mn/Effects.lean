import Powerlink.Mn.Touches
import Powerlink.Mn.Ways

/-! # What leaves the cycle alone

`CycleView` collects what the cycle of a managing node consists of: the phase and the timer, the
polling cursor, the start of the cycle, the fixed configuration and the entries of the history
about them.  Most functions of the node do not touch any of this.  `Quiet c d` says that for two
contexts, and for each such function there is a lemma that its result is quiet, so that the
invariants of the cycle only have to look at `advanceCyclePhase`, `startCycle`, the delivery of a
timeout and the answers that end a wait.

`BootView` collects the tracked nodes and the NMT state in the same way, and `Still c d` says that
neither of the two views changes. -/

namespace Powerlink

/-- The entries of the history about the cycle. -/
def MnEvent.isCycle : MnEvent → Bool
  | .scheduled .. | .timedOut .. | .built .. | .advanced .. | .answered .. => true
  | _ => false

/-- The NMT state is not `NmtNotActive`. -/
def NmtState.isActive : NmtState → Bool
  | .nmtNotActive => false
  | _ => true

/-- What a managing node knows of its nodes and of its own NMT state. -/
structure BootView where
  machine : MnNmtStateMachine
  nodes : NodeTable
  mandatoryNodes : List NodeId
  log : List MnEvent

/-- The cycle of a managing node. -/
structure CycleView where
  active : Bool
  phase : CyclePhase
  pending : Option DllMsEvent
  nextTick : Option ℕ
  polled : Option NodeId
  cursor : ℕ
  multiplexCycle : UInt8
  cycleStart : ℕ
  log : List MnEvent
  cycleTimeUs : ℕ
  multiplexCycleLen : UInt8
  multiplexAssign : SortedMap NodeId UInt8
  publishConfig : SortedMap UInt8 ServiceId
  isochronousNodes : List NodeId
  mandatoryNodes : List NodeId

namespace MnContext

variable {σ : Type}

/-- The cycle of a context; `active` is false in `NmtNotActive`. -/
def view (c : MnContext σ) : CycleView where
  active := c.nmtState.isActive
  phase := c.currentPhase
  pending := c.pendingTimeoutEvent
  nextTick := c.nextTickUs
  polled := c.currentPolledCn
  cursor := c.nextIsochNodeIdx
  multiplexCycle := c.currentMultiplexCycle
  cycleStart := c.currentCycleStartTimeUs
  log := c.history.filter MnEvent.isCycle
  cycleTimeUs := c.cycleTimeUs
  multiplexCycleLen := c.multiplexCycleLen
  multiplexAssign := c.multiplexAssign
  publishConfig := c.publishConfig
  isochronousNodes := c.isochronousNodes
  mandatoryNodes := c.mandatoryNodes

/-- The boot-up of a context. -/
def bootView (c : MnContext σ) : BootView where
  machine := c.nmtStateMachine
  nodes := c.nodeInfo
  mandatoryNodes := c.mandatoryNodes
  log := c.history.filter (fun e => !e.isCycle)

/-- The queue of the node holds ASnd frames. -/
def QueueOk (c : MnContext σ) : Prop := ∀ f ∈ c.mnAsyncSendQueue, f.messageType = .aSnd

/-- Nothing of the cycle changes. -/
structure Quiet (c d : MnContext σ) : Prop where
  view : d.view = c.view
  queue : c.QueueOk → d.QueueOk

theorem Quiet.refl (c : MnContext σ) : Quiet c c := ⟨rfl, id⟩

theorem Quiet.trans {c d e : MnContext σ} (h : Quiet c d) (h' : Quiet d e) : Quiet c e :=
  ⟨h'.view.trans h.view, fun hc => h'.queue (h.queue hc)⟩

/-- Nothing of the cycle and of the boot-up changes. -/
structure Still (c d : MnContext σ) : Prop extends Quiet c d where
  boot : d.bootView = c.bootView

theorem Still.refl (c : MnContext σ) : Still c c := ⟨Quiet.refl c, rfl⟩

theorem Still.trans {c d e : MnContext σ} (h : Still c d) (h' : Still d e) : Still c e :=
  ⟨h.toQuiet.trans h'.toQuiet, h'.boot.trans h.boot⟩

/-! ### The tracked nodes and the NMT state -/

theorem still_count (c : MnContext σ) (subIndex : UInt8) : Still c (c.count subIndex) :=
  ⟨⟨rfl, id⟩, rfl⟩

theorem still_countSoa (c : MnContext σ) (service : RequestedServiceId) :
    Still c (c.countSoa service) := by
  unfold countSoa
  split_ifs
  · exact (c.still_count 5).trans (still_count _ 8)
  · exact c.still_count 5

theorem quiet_record (c : MnContext σ) (event : MnEvent) (h : event.isCycle = false) :
    Quiet c (c.record event) := by
  refine ⟨?_, id⟩
  have hlog : (event :: c.history).filter MnEvent.isCycle = c.history.filter MnEvent.isCycle :=
    List.filter_cons_of_neg (by rw [h]; exact Bool.false_ne_true)
  simp only [view, record, hlog]
  rfl

theorem quiet_track (c : MnContext σ) (nodeId : NodeId) (new : CnState) :
    Quiet c (c.track nodeId new) := by
  unfold track
  split
  · exact Quiet.refl c
  · split_ifs
    · exact Quiet.refl c
    · exact ⟨rfl, id⟩

variable [ObjectDictionaryStorage σ]

omit [ObjectDictionaryStorage σ] in
/-- Only a timeout leaves `NmtNotActive`, and only a reset enters it. -/
theorem isActive_nextState (m : MnNmtStateMachine) {event : NmtEvent} (h : event ≠ .timeout) :
    (m.nextState event).isActive = m.currentState.isActive := by
  unfold MnNmtStateMachine.nextState
  split <;> simp_all [NmtState.isActive]

/-- The events of the boot-up and of an error keep the node active. -/
theorem quiet_processNmtEvent (c : MnContext σ) {event : NmtEvent}
    (hreset : MnNmtStateMachine.isReset event = false) (htimeout : event ≠ .timeout) :
    Quiet c (c.processNmtEvent event) := by
  have hactive : (c.nmtStateMachine.processEvent event c.core.od).1.currentState.isActive =
      c.nmtStateMachine.currentState.isActive := by
    rw [MnNmtStateMachine.processEvent_machine _ _ hreset]
    exact isActive_nextState _ htimeout
  have hquiet : Quiet c { c with
      nmtStateMachine := (c.nmtStateMachine.processEvent event c.core.od).1
      core := { c.core with od := (c.nmtStateMachine.processEvent event c.core.od).2 } } := by
    refine ⟨?_, id⟩
    simp only [view, nmtState, hactive]
  dsimp only [processNmtEvent]
  split_ifs
  · exact hquiet
  · exact hquiet.trans (quiet_record _ _ rfl)

/-- The updates of a received frame leave the cycle alone. -/
theorem Touch.quiet {c d : MnContext σ} (h : Touch c d) : Quiet c d := by
  cases h with
  | track nodeId _ => exact c.quiet_track nodeId _
  | note nodeId _ _ => exact ⟨rfl, id⟩
  | @nmt event h =>
      have hreset : MnNmtStateMachine.isReset event = false := by
        cases event <;> first | rfl | cases h
      have htimeout : event ≠ .timeout := by
        rintro rfl
        cases h
      exact c.quiet_processNmtEvent hreset htimeout
  | ready => exact ⟨rfl, id⟩
  | validated nodeId cache => exact (c.quiet_record (.validated nodeId) rfl).trans ⟨rfl, id⟩
  | download nodeId dcf t => exact ⟨rfl, id⟩

theorem Touches.quiet {c d : MnContext σ} (h : Touches c d) : Quiet c d := by
  induction h with
  | refl => exact Quiet.refl c
  | tail _ hstep ih => exact ih.trans hstep.quiet

/-! ### Received frames -/

omit [ObjectDictionaryStorage σ] in
theorem quiet_queueRequest (c : MnContext σ) (pres : PResFrame) :
    Quiet c (c.queueRequest pres) := by
  unfold queueRequest
  split_ifs
  · exact ⟨rfl, id⟩
  · exact Quiet.refl c

theorem quiet_handlePresFrame (c : MnContext σ) (pres : PResFrame) :
    Quiet c (c.handlePresFrame pres) := by
  dsimp only [handlePresFrame]
  have hrecord := c.quiet_record (.presReceived pres.source (c.withinLimit pres)
    (c.nodeInfo.state pres.source) c.nmtState) rfl
  refine (hrecord.trans (quiet_queueRequest _ pres)).trans ?_
  split
  · exact Quiet.refl _
  · refine Quiet.trans ?_ (touches_checkCommunication _ _ _).quiet
    exact ⟨rfl, id⟩

theorem quiet_handleStatusResponse (c : MnContext σ) (frame : ASndFrame) :
    Quiet c (c.handleStatusResponse frame) := by
  dsimp only [handleStatusResponse]
  split
  · exact Quiet.refl c
  · split
    · exact ⟨rfl, id⟩
    · refine Quiet.trans ?_ (touches_updateCnState _ _ _).quiet
      exact ⟨rfl, id⟩

theorem quiet_handleAsndFrame (c : MnContext σ) (frame : ASndFrame) (t : ℕ) :
    Quiet c (c.handleAsndFrame frame t) := by
  unfold handleAsndFrame
  split
  · exact (c.touches_handleIdentResponse frame t).quiet
  · exact c.quiet_handleStatusResponse frame
  · exact Quiet.refl c

/-! ### Events of the data link layer -/

theorem DllTouches.quiet {c d : MnContext σ} (h : DllTouches c d) : Quiet c d := by
  induction h with
  | refl => exact Quiet.refl c
  | @tail d e _ hstep ih =>
      refine ih.trans ?_
      cases hstep with
      | machine m => exact ⟨rfl, id⟩
      | counters counters => exact ⟨rfl, id⟩
      | lose nodeId => exact (d.quiet_track nodeId .missing).trans ⟨rfl, id⟩

theorem quiet_handleDllEvent (c : MnContext σ) (event : DllMsEvent) (frame : PowerlinkFrame) :
    Quiet c (c.handleDllEvent event frame) :=
  (c.touches_handleDllEvent event frame).quiet

/-! ### The asynchronous phase -/

section scheduler

omit [ObjectDictionaryStorage σ]

theorem still_enqueue (c : MnContext σ) {frame : PowerlinkFrame} (h : frame.messageType = .aSnd) :
    Still c { c with mnAsyncSendQueue := c.mnAsyncSendQueue ++ [frame] } := by
  refine ⟨⟨rfl, ?_⟩, rfl⟩
  intro hqueue f hf
  obtain hf | hf := List.mem_append.mp hf
  · exact hqueue f hf
  · rw [List.mem_singleton.mp hf, h]

theorem still_grantRequest (c : MnContext σ) : Still c c.grantRequest.2 := by
  unfold grantRequest
  split
  · exact ⟨⟨rfl, id⟩, rfl⟩
  · exact Still.refl c

theorem still_determineIdleAction (c : MnContext σ) : Still c c.determineIdleAction.2 := by
  unfold determineIdleAction
  split
  · exact ⟨⟨rfl, id⟩, rfl⟩
  · split_ifs
    · split
      · exact c.still_enqueue rfl
      · exact c.still_grantRequest
    · exact c.still_grantRequest

theorem still_determineBackgroundAction {c d : MnContext σ} {action : AsyncAction}
    (h : c.determineBackgroundAction = some (action, d)) : Still c d := by
  unfold determineBackgroundAction at h
  split at h
  · cases h
  · obtain ⟨-, rfl⟩ := Prod.mk.inj (Option.some.inj h)
    exact ⟨⟨rfl, id⟩, rfl⟩
  · have hidle := c.still_determineIdleAction
    rwa [Option.some.inj h] at hidle

theorem still_determineNextAsyncAction {c d : MnContext σ} {action : AsyncAction}
    (h : c.determineNextAsyncAction = some (action, d)) : Still c d := by
  have hmanager : Still c { c with
      sdoClientManager :=
        (c.sdoClientManager.getPendingRequest c.currentCycleStartTimeUs c.core.od).2 } :=
    ⟨⟨rfl, id⟩, rfl⟩
  dsimp only [determineNextAsyncAction] at h
  split at h
  · obtain ⟨-, rfl⟩ := Prod.mk.inj (Option.some.inj h)
    exact ⟨⟨rfl, id⟩, rfl⟩
  · split at h
    · obtain ⟨-, rfl⟩ := Prod.mk.inj (Option.some.inj h)
      exact ⟨⟨rfl, id⟩, rfl⟩
    · split_ifs at h
      · obtain ⟨-, rfl⟩ := Prod.mk.inj (Option.some.inj h)
        exact Still.refl c
      · obtain ⟨-, rfl⟩ := Prod.mk.inj (Option.some.inj h)
        exact Still.refl c
      · split at h
        · obtain ⟨-, rfl⟩ := Prod.mk.inj (Option.some.inj h)
          exact hmanager.trans (still_enqueue _ rfl)
        · exact hmanager.trans (still_determineBackgroundAction h)

/-! ### SDO transfers and one-time actions -/

/-- The timeouts of the SDO clients send ASnd frames only. -/
theorem still_tickSdoClient {c d : MnContext σ} {t : ℕ} {action : Option NodeAction}
    (h : c.tickSdoClient t = (action, d)) : Still c d ∧ ∀ a, action = some a → a.IsAsync := by
  cases tickSdoClient_way h with
  | silent => exact ⟨⟨⟨rfl, id⟩, rfl⟩, nofun⟩
  | send hrequest hbuild =>
      refine ⟨⟨⟨rfl, id⟩, rfl⟩, ?_⟩
      intro a ha
      rw [← Option.some.inj ha]
      exact isAsync_send (buildSdoAsndRequest_type hbuild)

theorem isAsync_asndBuildResponse {isCn : Bool} {data : SdoResponseData} {mac : MacAddress}
    {nodeId : NodeId} {action : NodeAction}
    (h : asndBuildResponse isCn data mac nodeId = .ok action) : action.IsAsync := by
  unfold asndBuildResponse at h
  split at h
  · cases hp : serializeSdoAsndPayload data.seqHeader data.command with
    | error e =>
        rw [hp] at h
        cases h
    | ok payload =>
        rw [hp] at h
        change serializeFrameAction isCn (.aSnd _) = .ok action at h
        exact isAsync_of_serializeFrameAction h rfl
  · cases h

theorem isAsync_udpBuildResponse {data : SdoResponseData} {action : NodeAction}
    (h : udpBuildResponse data = .ok action) : action.IsAsync := by
  unfold udpBuildResponse at h
  split at h
  · cases hp : serializeSdoUdpPayload data.seqHeader data.command 1500 with
    | error e =>
        rw [hp] at h
        cases h
    | ok payload =>
        rw [hp] at h
        obtain rfl := Except.ok.inj h
        exact .inl rfl
  · cases h

theorem isAsync_buildResponse {c : MnContext σ} {data : SdoResponseData} {action : NodeAction}
    (h : c.buildResponse data = .ok action) : action.IsAsync := by
  unfold buildResponse at h
  split at h
  · exact isAsync_asndBuildResponse h
  · exact isAsync_udpBuildResponse h

theorem still_tickSdoServer {c d : MnContext σ} {t : ℕ} {action : Option NodeAction}
    (h : c.tickSdoServer t = (action, d)) : Still c d ∧ ∀ a, action = some a → a.IsAsync := by
  cases tickSdoServer_way h with
  | idle => exact ⟨Still.refl c, nofun⟩
  | silent => exact ⟨⟨⟨rfl, id⟩, rfl⟩, nofun⟩
  | unsent => exact ⟨⟨⟨rfl, id⟩, rfl⟩, nofun⟩
  | send hresponse hbuild =>
      exact ⟨⟨⟨rfl, id⟩, rfl⟩, fun a ha => Option.some.inj ha ▸ isAsync_buildResponse hbuild⟩

theorem still_initialOperationalActions {c d : MnContext σ} {action : Option NodeAction}
    (h : c.initialOperationalActions = (action, d)) :
    Still c d ∧ ∀ a, action = some a → a.IsAsync := by
  cases initialOperationalActions_way h with
  | broadcast => exact ⟨⟨⟨rfl, id⟩, rfl⟩, fun a ha => Option.some.inj ha ▸ isAsync_send rfl⟩
  | command => exact ⟨⟨⟨rfl, id⟩, rfl⟩, nofun⟩
  | nobody => exact ⟨⟨⟨rfl, id⟩, rfl⟩, nofun⟩
  | reset => exact ⟨⟨⟨rfl, id⟩, rfl⟩, nofun⟩
  | settled => exact ⟨Still.refl c, nofun⟩

theorem still_processSdoResponse {c d : MnContext σ} {frame : ASndFrame}
    (h : c.processSdoResponse frame = some d) : Still c d := by
  cases processSdoResponse_way h with
  | dropped => exact c.still_count 6
  | handled => exact (c.still_count 6).trans ⟨⟨rfl, id⟩, rfl⟩

end scheduler

theorem still_afterRequest (c : MnContext σ) (payload : List UInt8) (client : SdoClientInfo)
    (t : ℕ) : Still c (c.afterRequest payload client t) :=
  ⟨⟨rfl, id⟩, rfl⟩

theorem still_handleSdoServerRequest {c d : MnContext σ} {payload : List UInt8}
    {client : SdoClientInfo} {t : ℕ} {action : NodeAction}
    (h : c.handleSdoServerRequest payload client t = (action, d)) :
    Still c d ∧ action.IsAsync := by
  have hafter := c.still_afterRequest payload client t
  cases handleSdoServerRequest_way h with
  | unanswered => exact ⟨hafter, .inl rfl⟩
  | answered hresponse hbuild =>
      exact ⟨hafter.trans (still_count _ 7), isAsync_asndBuildResponse hbuild⟩

theorem still_receiveUdp {c d : MnContext σ} {input : CycleInput} {action : NodeAction}
    (h : c.receiveUdp input = (action, d)) : Still c d ∧ action.IsAsync := by
  have hafter : ∀ payload client,
      Still c ((c.count 6).afterRequest payload client input.currentTimeUs) :=
    fun payload client => (c.still_count 6).trans (still_afterRequest _ payload client _)
  cases receiveUdp_way h with
  | dropped => exact ⟨Still.refl c, .inl rfl⟩
  | unanswered payload client => exact ⟨hafter payload client, .inl rfl⟩
  | answered payload client => exact ⟨(hafter payload client).trans (still_count _ 7), .inl rfl⟩

end MnContext

end Powerlink
