import Powerlink.Mn.Effects
import Powerlink.Mn.Polling

/-! # What one call does to the cycle

`Advanced` lists the outcomes of `advance_cycle_phase`: a PReq for the first eligible node that is
left, a SoA that invites a node and waits for it, or a frame that closes the isochronous phase
without a wait.  `Received` and `Ticked` do the same for the two halves of `run_cycle`, and
`runCycle_spec` puts them together.  Everything about the cycle is proved from these lists. -/

namespace Powerlink

/-- `next_tick_us` after `schedule_timeout`. -/
def earlierDeadline (existing : Option ℕ) (deadlineUs : ℕ) : Option ℕ :=
  match existing with
  | some existing => if deadlineUs < existing then some deadlineUs else some existing
  | none => some deadlineUs

/-- The isochronous nodes behind the cursor. -/
def CycleView.remaining (v : CycleView) : List NodeId := v.isochronousNodes.drop v.cursor

/-- What decides in which multiplexed cycle a node is polled. -/
def CycleView.schedule (v : CycleView) : UInt8 × SortedMap NodeId UInt8 × UInt8 :=
  (v.multiplexCycle, v.multiplexAssign, v.multiplexCycleLen)

namespace MnContext

variable {σ : Type}

/-- The node is polled in the current cycle. -/
def Eligible (d : MnContext σ) (nodeId : NodeId) : Prop :=
  d.isEligible d.currentMultiplexCycle nodeId = true

instance (d : MnContext σ) (nodeId : NodeId) : Decidable (d.Eligible nodeId) :=
  inferInstanceAs (Decidable (_ = _))

/-- No isochronous node is left to poll: none is behind the cursor, or none is polled at all
before `NmtPreOperational2`. -/
def NoneLeft (d : MnContext σ) (nodes : List NodeId) : Prop :=
  NmtState.nmtPreOperational2 ≤ d.nmtState → ∀ m ∈ nodes, ¬ d.Eligible m

/-! ### Advancing the phase -/

theorem view_record_cycle (c : MnContext σ) {event : MnEvent} (h : event.isCycle = true) :
    (c.record event).view = { c.view with log := event :: c.view.log } := by
  have hlog : (event :: c.history).filter MnEvent.isCycle =
      event :: c.history.filter MnEvent.isCycle := List.filter_cons_of_pos h
  simp only [view, record, hlog]
  rfl

theorem bootView_record_cycle (c : MnContext σ) {event : MnEvent} (h : event.isCycle = true) :
    (c.record event).bootView = c.bootView := by
  have hlog : (event :: c.history).filter (fun e => !e.isCycle) =
      c.history.filter (fun e => !e.isCycle) :=
    List.filter_cons_of_neg (by rw [h]; exact Bool.false_ne_true)
  simp only [bootView, record, hlog]

/-- The outcomes of `advance_cycle_phase` from a cycle, with the action and the new context. -/
inductive Advanced (v : CycleView) (d : MnContext σ) : NodeAction → Prop
  /-- A PReq is built for the first eligible node, or the dummy SoC in its place. -/
  | poll {nodeId : NodeId} {skipped rest : List NodeId} (idx deadline : ℕ) {complete : Bool}
      {frame : PowerlinkFrame}
      (hnmt : NmtState.nmtPreOperational2 ≤ d.nmtState)
      (hremaining : v.remaining = skipped ++ nodeId :: rest)
      (hskipped : ∀ m ∈ skipped, ¬ d.Eligible m)
      (hnode : d.Eligible nodeId)
      (hrest : v.isochronousNodes.drop idx = rest)
      (hcomplete : complete = true → ∃ preq, frame = .pReq preq ∧ preq.destination = nodeId ∧
        preq.payload.length ≤ 1490)
      (hview : d.view = { v with
        phase := .isochronousPReq
        pending := some .presTimeout
        nextTick := earlierDeadline v.nextTick deadline
        polled := some nodeId
        cursor := idx
        log := .advanced frame :: .built nodeId complete ::
          .scheduled .presTimeout deadline v.nextTick :: v.log }) :
      Advanced v d (send frame)
  /-- A SoA invites a node, whose ASnd is awaited. -/
  | invite (idx deadline : ℕ) {soa : SoAFrame}
      (hnone : d.NoneLeft v.remaining)
      (hsent : (send (.soA soa)).frameType = some MessageType.soA.toByte)
      (hview : d.view = { v with
        phase := .asynchronousSoA
        pending := some .asndTimeout
        nextTick := earlierDeadline v.nextTick deadline
        polled := none
        cursor := idx
        log := .advanced (.soA soa) :: .scheduled .asndTimeout deadline v.nextTick :: v.log }) :
      Advanced v d (send (.soA soa))
  /-- A SoA for nobody or for the managing node itself, or an NMT info frame. -/
  | close (idx : ℕ) (phase : CyclePhase) {frame : PowerlinkFrame}
      (hnone : d.NoneLeft v.remaining)
      (hphase : phase = .idle ∨ phase = .awaitingMnAsyncSend)
      (hframe : frame.messageType = .soA ∨ frame.messageType = .aSnd)
      (hsent : (send frame).frameType = some frame.messageType.toByte)
      (hview : d.view = { v with
        phase := phase
        polled := none
        cursor := idx
        log := .advanced frame :: v.log }) :
      Advanced v d (send frame)

/-- The PReq for a node starts the wait for its PRes. -/
theorem pollNode_spec {c d : MnContext σ} {nodeId : NodeId} {t : ℕ} {action : NodeAction}
    (h : c.pollNode nodeId t = (action, d)) :
    d.bootView = c.bootView ∧ (c.QueueOk → d.QueueOk) ∧
      ∃ deadline complete frame, action = send frame ∧
        (complete = true → ∃ preq, frame = .pReq preq ∧ preq.destination = nodeId ∧
          preq.payload.length ≤ 1490) ∧
        d.view = { c.view with
          phase := .isochronousPReq
          pending := some .presTimeout
          nextTick := earlierDeadline c.view.nextTick deadline
          polled := some nodeId
          log := .advanced frame :: .built nodeId complete ::
            .scheduled .presTimeout deadline c.view.nextTick :: c.view.log } := by
  dsimp only [pollNode] at h
  generalize hs : scheduleTimeout _ _ _ = s at h
  obtain ⟨⟨core, hcore⟩, hframe⟩ := buildPreqFrame_spec (s.record (.built nodeId (s.canPoll nodeId)))
    nodeId (decide (0 < assignedCycle (s.record (.built nodeId (s.canPoll nodeId))) nodeId))
  have hcan : canPoll (s.record (.built nodeId (s.canPoll nodeId))) nodeId = s.canPoll nodeId := rfl
  rw [hcan] at hframe
  obtain ⟨rfl, rfl⟩ := Prod.mk.inj h
  rw [hcore]
  subst hs
  refine ⟨rfl, id, _, _, _, rfl, ?_, rfl⟩
  intro hcomplete
  rwa [if_pos hcomplete] at hframe

/-- A SoA starts the wait for a node, or none. -/
theorem enterAsyncPhase_spec (c : MnContext σ) (async : AsyncAction) (t : ℕ) :
    (c.enterAsyncPhase async t).bootView = c.bootView ∧
      (c.QueueOk → (c.enterAsyncPhase async t).QueueOk) ∧
      ((∃ deadline, (c.enterAsyncPhase async t).view = { c.view with
          phase := .asynchronousSoA
          pending := some .asndTimeout
          nextTick := earlierDeadline c.view.nextTick deadline
          log := .scheduled .asndTimeout deadline c.view.nextTick :: c.view.log }) ∨
        ∃ phase, (phase = .idle ∨ phase = .awaitingMnAsyncSend) ∧
          (c.enterAsyncPhase async t).view = { c.view with phase := phase }) := by
  unfold enterAsyncPhase
  split_ifs
  · exact ⟨rfl, id, .inl ⟨_, rfl⟩⟩
  · exact ⟨rfl, id, .inr ⟨_, .inr rfl, rfl⟩⟩
  · exact ⟨rfl, id, .inr ⟨_, .inl rfl, rfl⟩⟩

/-- Eligibility depends on the tracked nodes and on the schedule. -/
theorem eligible_congr {c d : MnContext σ} (hboot : d.bootView = c.bootView)
    (hschedule : d.view.schedule = c.view.schedule) (nodeId : NodeId) :
    d.Eligible nodeId ↔ c.Eligible nodeId := by
  have hnodes : d.nodeInfo = c.nodeInfo := congrArg BootView.nodes hboot
  have hcycle : d.currentMultiplexCycle = c.currentMultiplexCycle := congrArg Prod.fst hschedule
  have hassign : d.multiplexAssign = c.multiplexAssign := congrArg (fun s => s.2.1) hschedule
  have hlen : d.multiplexCycleLen = c.multiplexCycleLen := congrArg (fun s => s.2.2) hschedule
  unfold Eligible isEligible shouldPollThisCycle assignedCycle
  rw [hnodes, hcycle, hassign, hlen]

/-- The asynchronous branch closes the isochronous phase. -/
theorem endIsochronousPhase_spec {c d : MnContext σ} {t : ℕ} {action : NodeAction}
    (h : c.endIsochronousPhase t = some (action, d)) :
    d.bootView = c.bootView ∧ (c.QueueOk → d.QueueOk) ∧
      ((∃ deadline soa, action = send (.soA soa) ∧
          (send (.soA soa)).frameType = some MessageType.soA.toByte ∧
          d.view = { c.view with
            phase := .asynchronousSoA
            pending := some .asndTimeout
            nextTick := earlierDeadline c.view.nextTick deadline
            polled := none
            log := .advanced (.soA soa) :: .scheduled .asndTimeout deadline c.view.nextTick ::
              c.view.log }) ∨
        ∃ phase frame, (phase = .idle ∨ phase = .awaitingMnAsyncSend) ∧ action = send frame ∧
          (frame.messageType = .soA ∨ frame.messageType = .aSnd) ∧
          (send frame).frameType = some frame.messageType.toByte ∧
          d.view = { c.view with
            phase := phase
            polled := none
            log := .advanced frame :: c.view.log }) := by
  dsimp only [endIsochronousPhase] at h
  split at h
  · obtain ⟨rfl, rfl⟩ := Prod.mk.inj (Option.some.inj h)
    refine ⟨rfl, id, .inr ⟨.idle, _, .inl rfl, rfl, .inr rfl, ?_, rfl⟩⟩
    exact (send_buildNmtInfoFrame _ _).1
  · obtain ⟨⟨async, e⟩, hasync, h⟩ := Option.bind_eq_some_iff.mp h
    have hstill := still_determineNextAsyncAction hasync
    obtain ⟨hboot, hqueue, hphase⟩ := e.enterAsyncPhase_spec async t
    have hcount := still_countSoa (e.enterAsyncPhase async t) async.1
    obtain ⟨rfl, rfl⟩ := Prod.mk.inj (Option.some.inj h)
    refine ⟨?_, ?_, ?_⟩
    · rw [bootView_record_cycle _ rfl, hcount.boot, hboot, hstill.boot]
      rfl
    · exact fun hc => hcount.queue (hqueue (hstill.queue hc))
    · obtain ⟨deadline, hview⟩ | ⟨phase, hidle, hview⟩ := hphase
      · refine .inl ⟨deadline, _, rfl, (send_buildSoaFrame _ _ _ _).1, ?_⟩
        rw [view_record_cycle _ rfl, hcount.view, hview, hstill.view]
        rfl
      · refine .inr ⟨phase, _, hidle, rfl, .inl rfl, (send_buildSoaFrame _ _ _ _).1, ?_⟩
        rw [view_record_cycle _ rfl, hcount.view, hview, hstill.view]
        rfl

/-- The end of the phase is an outcome when no node is left to poll. -/
theorem advanced_of_endIsochronousPhase {c d : MnContext σ} {t idx : ℕ} {action : NodeAction}
    (h : endIsochronousPhase { c with nextIsochNodeIdx := idx } t = some (action, d))
    (hnone : c.NoneLeft c.remainingNodes) :
    Advanced c.view d action ∧ d.bootView = c.bootView ∧ (c.QueueOk → d.QueueOk) := by
  obtain ⟨hboot, hqueue, hcases⟩ := endIsochronousPhase_spec h
  have hnmt : d.nmtState = c.nmtState := congrArg (fun b => b.machine.currentState) hboot
  have hleft : (∀ m, d.Eligible m ↔ c.Eligible m) → d.NoneLeft c.remainingNodes := by
    intro heligible hle m hm
    rw [heligible]
    exact hnone (hnmt ▸ hle) m hm
  obtain ⟨deadline, soa, rfl, hsent, hview⟩ | ⟨phase, frame, hidle, rfl, htype, hsent, hview⟩ :=
    hcases
  · refine ⟨.invite idx deadline (hleft ?_) hsent hview, hboot, hqueue⟩
    exact eligible_congr hboot ((congrArg CycleView.schedule hview).trans rfl)
  · refine ⟨.close idx phase (hleft ?_) hidle htype hsent hview, hboot, hqueue⟩
    exact eligible_congr hboot ((congrArg CycleView.schedule hview).trans rfl)

/-- `advance_cycle_phase` ends in one of the outcomes. -/
theorem advanceCyclePhase_spec {c d : MnContext σ} {t : ℕ} {action : NodeAction}
    (h : c.advanceCyclePhase t = some (action, d)) :
    Advanced c.view d action ∧ d.bootView = c.bootView ∧ (c.QueueOk → d.QueueOk) := by
  unfold advanceCyclePhase at h
  split_ifs at h with hnmt
  · obtain ⟨skipped, nodeId, rest, idx, hrem, hskip, hnode, hnext, hrest⟩ |
        ⟨idx, hnone, hnext, -⟩ := c.getNextIsochronousNodeToPoll_cases c.currentMultiplexCycle
    · rw [hnext] at h
      obtain ⟨hboot, hqueue, deadline, complete, frame, rfl, hcomplete, hview⟩ :=
        pollNode_spec (Option.some.inj h)
      have heligible : ∀ m, d.Eligible m ↔ c.Eligible m :=
        eligible_congr hboot ((congrArg CycleView.schedule hview).trans rfl)
      have hnmt' : d.nmtState = c.nmtState := congrArg (fun b => b.machine.currentState) hboot
      have hpolled : d.Eligible nodeId := (heligible nodeId).mpr hnode
      refine ⟨.poll idx deadline (hnmt' ▸ hnmt) hrem ?_ hpolled hrest hcomplete hview,
        hboot, hqueue⟩
      intro m hm
      rw [heligible, Eligible, hskip m hm]
      exact Bool.false_ne_true
    · rw [hnext] at h
      refine advanced_of_endIsochronousPhase h (fun _ m hm => ?_)
      rw [Eligible, hnone m hm]
      exact Bool.false_ne_true
  · exact advanced_of_endIsochronousPhase h (fun hle => absurd hle hnmt)

/-! ### The tick -/

/-- A deadline that has passed without a pending timeout is forgotten. -/
inductive Expired (t : ℕ) (v : CycleView) : CycleView → Prop
  | refl : Expired t v v
  | drop {deadline : ℕ} (hactive : v.active = true) (hpending : v.pending = none)
      (hnext : v.nextTick = some deadline) (hle : deadline ≤ t) :
      Expired t v { v with nextTick := none }

/-- The outcomes of the actions that need no timer. -/
inductive Progressed (v : CycleView) (d : MnContext σ) : NodeAction → Prop
  | still {action : NodeAction} (hview : d.view = v) (hasync : action.IsAsync) :
      Progressed v d action
  /-- `NmtNotActive` waits for other managing nodes. -/
  | wait (deadline : ℕ) (hactive : v.active = false) (hnext : v.nextTick = none)
      (hview : d.view = { v with nextTick := some deadline }) : Progressed v d .noAction
  | advance {action : NodeAction} (hphase : v.phase = .soCSent) (h : Advanced v d action) :
      Progressed v d action
  /-- The managing node uses its own slot. -/
  | own {action : NodeAction} (hphase : v.phase = .awaitingMnAsyncSend) (hasync : action.IsAsync)
      (hview : d.view = { v with phase := .idle }) : Progressed v d action
  | command {action : NodeAction} (nodeId : NodeId) (complete : Bool)
      (hphase : v.phase = .awaitingMnAsyncSend) (hasync : complete = true → action.IsAsync)
      (hview : d.view = { v with phase := .idle, log := .built nodeId complete :: v.log }) :
      Progressed v d action

/-- The outcomes of a tick that starts no cycle, with the action and the new context. -/
inductive Ticked (t : ℕ) (v : CycleView) (d : MnContext σ) : NodeAction → Prop
  /-- The SDO clients and the SDO server send first. -/
  | sdo {action : NodeAction} (hview : d.view = v) (hasync : action.IsAsync) : Ticked t v d action
  /-- The wait in `NmtNotActive` ends. -/
  | activate {deadline : ℕ} (hactive : v.active = false) (hnext : v.nextTick = some deadline)
      (hle : deadline ≤ t) (hview : d.view = { v with active := true, nextTick := none }) :
      Ticked t v d .noAction
  /-- The pending timeout is delivered. -/
  | timeout {action : NodeAction} {deadline : ℕ} {event : DllMsEvent} (hactive : v.active = true)
      (hnext : v.nextTick = some deadline) (hle : deadline ≤ t) (hpending : v.pending = some event)
      (h : Advanced { v with
        pending := none
        nextTick := none
        log := .timedOut event t :: v.log } d action) : Ticked t v d action
  | progress {action : NodeAction} {w : CycleView} (hexpired : Expired t v w)
      (h : Progressed w d action) : Ticked t v d action

/-- What a tick does to the boot-up. -/
inductive BootTicked [ObjectDictionaryStorage σ] (c d : MnContext σ) : Prop
  | same (h : d.bootView = c.bootView)
  | activate (e : MnContext σ) (he : e.bootView = c.bootView) (hnmt : e.nmtState = .nmtNotActive)
      (h : d.bootView = (e.processNmtEvent .timeout).bootView)
  | timeout (e : MnContext σ) (event : DllMsEvent) (he : e.bootView = c.bootView)
      (h : d.bootView = (e.handleDllEvent event timeoutFrame).bootView)

theorem BootTicked.congr [ObjectDictionaryStorage σ] {b c d : MnContext σ} (h : BootTicked c d)
    (hboot : c.bootView = b.bootView) : BootTicked b d := by
  cases h with
  | same h => exact .same (h.trans hboot)
  | activate e he hnmt h => exact .activate e (he.trans hboot) hnmt h
  | timeout e event he h => exact .timeout e event (he.trans hboot) h

/-- The slot of the managing node ends the cycle. -/
theorem sendOwnAsync_spec {c d : MnContext σ} {t : ℕ} {action : NodeAction}
    (h : c.sendOwnAsync t = (action, d)) (hphase : c.currentPhase = .awaitingMnAsyncSend)
    (hqueue : c.QueueOk) :
    Progressed c.view d action ∧ d.bootView = c.bootView ∧ d.QueueOk := by
  cases sendOwnAsync_way h with
  | @command command nodeId data hlast =>
      refine ⟨.command nodeId _ hphase ?_ rfl, rfl, hqueue⟩
      intro hcomplete
      apply isAsync_send
      have hspec := (c.slotCommand nodeId).buildNmtCommandFrame_spec command nodeId data
      exact (if_pos hcomplete).mp hspec
  | request _ _ hbuild =>
      have htype := buildSdoAsndRequest_type hbuild
      exact ⟨.own hphase (isAsync_send htype) rfl, rfl, hqueue⟩
  | @frame frame _ hlast =>
      have hframe : frame.messageType = .aSnd := hqueue frame (List.mem_of_getLast? hlast)
      refine ⟨.own hphase (isAsync_send hframe) rfl, rfl, ?_⟩
      exact fun f hf => hqueue f (List.mem_of_mem_dropLast hf)
  | unused => exact ⟨.own hphase (.inl rfl) rfl, rfl, hqueue⟩

theorem tick_spec {c d : MnContext σ} {t : ℕ} {action : NodeAction}
    (h : c.tick t = some (action, d)) (hqueue : c.QueueOk) :
    Progressed c.view d action ∧ d.bootView = c.bootView ∧ d.QueueOk := by
  unfold tick at h
  split at h
  · rename_i a e hinit
    obtain ⟨hstill, hasync⟩ := still_initialOperationalActions hinit
    obtain ⟨rfl, rfl⟩ := Prod.mk.inj (Option.some.inj h)
    exact ⟨.still hstill.view (hasync _ rfl), hstill.boot, hstill.queue hqueue⟩
  · rename_i e hinit
    obtain ⟨hstill, -⟩ := still_initialOperationalActions hinit
    rw [← hstill.view, ← hstill.boot]
    have hqueue' := hstill.queue hqueue
    split at h
    · rename_i hphase
      exact sendOwnAsync_spec (Option.some.inj h) hphase hqueue'
    · rename_i hphase
      obtain ⟨hadvanced, hboot, hq⟩ := advanceCyclePhase_spec h
      exact ⟨.advance hphase hadvanced, hboot, hq hqueue'⟩
    · split_ifs at h with hwait
      · obtain ⟨rfl, rfl⟩ := Prod.mk.inj (Option.some.inj h)
        refine ⟨.wait _ ?_ hwait.2 rfl, rfl, hqueue'⟩
        show e.nmtState.isActive = false
        rw [hwait.1]
        rfl
      · obtain ⟨rfl, rfl⟩ := Prod.mk.inj (Option.some.inj h)
        exact ⟨.still rfl (.inl rfl), rfl, hqueue'⟩

theorem progressPhase_spec {c d : MnContext σ} {nmt : NmtState} {passed bootstrapping : Bool}
    {t : ℕ} {action : NodeAction}
    (h : c.progressPhase nmt passed bootstrapping t = some (action, d)) (hqueue : c.QueueOk) :
    Progressed c.view d action ∧ d.bootView = c.bootView ∧ d.QueueOk := by
  unfold progressPhase at h
  split_ifs at h with hpreop hidle
  · obtain ⟨hadvanced, hboot, hq⟩ := advanceCyclePhase_spec h
    exact ⟨.advance hpreop.2 hadvanced, hboot, hq hqueue⟩
  · obtain ⟨rfl, rfl⟩ := Prod.mk.inj (Option.some.inj h)
    exact ⟨.still rfl (.inl rfl), rfl, hqueue⟩
  · exact tick_spec h hqueue

variable [ObjectDictionaryStorage σ]

theorem queueOk_processNmtEvent (c : MnContext σ) (event : NmtEvent) (hqueue : c.QueueOk) :
    (c.processNmtEvent event).QueueOk := by
  dsimp only [processNmtEvent]
  split_ifs
  · exact hqueue
  · exact hqueue

/-- The end of the wait in `NmtNotActive`. -/
theorem view_processNmtEvent_timeout (c : MnContext σ) (hnmt : c.nmtState = .nmtNotActive) :
    (c.processNmtEvent .timeout).view = { c.view with active := true } := by
  have hmachine := c.nmtStateMachine.processEvent_machine c.core.od
    (show MnNmtStateMachine.isReset .timeout = false from rfl)
  have hactive : (c.nmtStateMachine.nextState .timeout).isActive = true := by
    unfold MnNmtStateMachine.nextState
    rw [show c.nmtStateMachine.currentState = .nmtNotActive from hnmt]
    dsimp only
    split_ifs
    · rfl
    · rfl
  dsimp only [processNmtEvent]
  split_ifs with hsame
  · rw [hmachine] at hsame
    rw [show c.nmtStateMachine.nextState .timeout = .nmtNotActive from hsame.trans hnmt] at hactive
    cases hactive
  · rw [(quiet_record _ _ rfl).view]
    simp only [view, nmtState, hmachine, hactive]

omit [ObjectDictionaryStorage σ] in
theorem deadline_of_passed {c : MnContext σ} {t : ℕ}
    (h : (match c.nextTickUs with
      | some deadline => decide (deadline ≤ t)
      | none => false) = true) : ∃ deadline, c.nextTickUs = some deadline ∧ deadline ≤ t := by
  split at h
  · rename_i deadline hnext
    exact ⟨deadline, hnext, of_decide_eq_true h⟩
  · cases h

omit [ObjectDictionaryStorage σ] in
theorem isActive_of_ne {nmt : NmtState} (h : nmt ≠ .nmtNotActive) : nmt.isActive = true := by
  cases nmt <;> first | rfl | exact absurd rfl h

omit [ObjectDictionaryStorage σ] in
theorem isActive_of_preop {nmt : NmtState} (h : NmtState.nmtPreOperational1 ≤ nmt) :
    nmt.isActive = true := by
  apply isActive_of_ne
  intro hnmt
  rw [hnmt] at h
  exact absurd h (by decide)

/-- The delivery of a pending timeout. -/
theorem deliverTimeout_spec {c d : MnContext σ} {event : DllMsEvent} {t : ℕ} {action : NodeAction}
    (h : c.deliverTimeout event t = some (action, d)) (hqueue : c.QueueOk) :
    Advanced { c.view with pending := none, log := .timedOut event t :: c.view.log } d action ∧
      BootTicked c d ∧ d.QueueOk := by
  dsimp only [deliverTimeout] at h
  generalize hr : record _ _ = r at h
  have hview : r.view = { c.view with
      pending := none
      log := .timedOut event t :: c.view.log } := by
    rw [← hr]
    rfl
  have hboot : r.bootView = c.bootView := by
    rw [← hr]
    rfl
  have hrqueue : r.QueueOk := by
    rw [← hr]
    exact hqueue
  have hquiet := r.quiet_handleDllEvent event timeoutFrame
  obtain ⟨hadvanced, hadvboot, hq⟩ := advanceCyclePhase_spec h
  rw [hquiet.view, hview] at hadvanced
  exact ⟨hadvanced, .timeout r event hboot hadvboot, hq (hquiet.queue hrqueue)⟩

theorem tickDeadline_spec {c d : MnContext σ} {t : ℕ} {action : NodeAction}
    (h : c.tickDeadline t = some (action, d)) (hqueue : c.QueueOk) :
    Ticked t c.view d action ∧ BootTicked c d ∧ d.QueueOk := by
  dsimp only [tickDeadline] at h
  split_ifs at h with hpassed hnmt
  · obtain ⟨deadline, hnext, hle⟩ := deadline_of_passed hpassed
    obtain ⟨rfl, rfl⟩ := Prod.mk.inj (Option.some.inj h)
    have hactive : c.view.active = false := congrArg NmtState.isActive hnmt
    have hprocess := view_processNmtEvent_timeout { c with nextTickUs := none } hnmt
    refine ⟨.activate hactive hnext hle hprocess,
      .activate { c with nextTickUs := none } rfl hnmt rfl, ?_⟩
    exact queueOk_processNmtEvent { c with nextTickUs := none } .timeout hqueue
  · obtain ⟨deadline, hnext, hle⟩ := deadline_of_passed hpassed
    have hactive : c.view.active = true := isActive_of_ne hnmt
    split at h
    · rename_i event hpending
      obtain ⟨hadvanced, hboot, hq⟩ := deliverTimeout_spec h hqueue
      exact ⟨.timeout hactive hnext hle hpending hadvanced, hboot.congr rfl, hq⟩
    · rename_i hpending
      obtain ⟨hprogressed, hboot, hq⟩ := progressPhase_spec h hqueue
      exact ⟨.progress (.drop hactive hpending hnext hle) hprogressed, .same hboot, hq⟩
  · obtain ⟨hprogressed, hboot, hq⟩ := progressPhase_spec h hqueue
    exact ⟨.progress .refl hprogressed, .same hboot, hq⟩

/-- `start_cycle` sends a SoC and moves to the next cycle. -/
theorem startCycle_spec (c : MnContext σ) (t : ℕ) :
    (c.startCycle t).2.bootView = c.bootView ∧ (c.QueueOk → (c.startCycle t).2.QueueOk) ∧
      ∃ cycle soc, (c.startCycle t).1 = send (.soc soc) ∧ (c.startCycle t).2.view = { c.view with
        phase := .soCSent
        cycleStart := t
        multiplexCycle := cycle
        cursor := 0 } := by
  obtain ⟨m, e, h⟩ := (c.beginCycle t).handleDllEvent_of_ne
    (show DllMsEvent.socTrig ≠ .presTimeout by decide)
    ((c.beginCycle t).buildSocFrame (c.beginCycle t).currentMultiplexCycle
      (c.beginCycle t).multiplexCycleLen)
  dsimp only [startCycle]
  rw [h]
  exact ⟨rfl, id, _, _, rfl, rfl⟩

/-- A cycle starts in the idle phase, when the cycle time has elapsed. -/
structure Starts (t : ℕ) (c d : MnContext σ) (action : NodeAction) : Prop where
  due : c.cycleDue t = true
  start : c.startCycle t = (action, d)

theorem Starts.active {t : ℕ} {c d : MnContext σ} {action : NodeAction}
    (h : Starts t c d action) : c.view.active = true := by
  have hdue := h.due
  simp only [cycleDue, Bool.and_eq_true, decide_eq_true_eq] at hdue
  exact isActive_of_preop hdue.1.2

theorem Starts.phase {t : ℕ} {c d : MnContext σ} {action : NodeAction}
    (h : Starts t c d action) : c.view.phase = .idle := by
  have hdue := h.due
  simp only [cycleDue, Bool.and_eq_true, decide_eq_true_eq] at hdue
  exact hdue.2

theorem Starts.elapsed {t : ℕ} {c d : MnContext σ} {action : NodeAction}
    (h : Starts t c d action) : c.view.cycleTimeUs ≤ t - c.view.cycleStart := by
  have hdue := h.due
  simp only [cycleDue, Bool.and_eq_true, decide_eq_true_eq] at hdue
  exact hdue.1.1

theorem Starts.view {t : ℕ} {c d : MnContext σ} {action : NodeAction} (h : Starts t c d action) :
    ∃ cycle, d.view = { c.view with
      phase := .soCSent
      cycleStart := t
      multiplexCycle := cycle
      cursor := 0 } := by
  obtain ⟨-, -, cycle, soc, -, hview⟩ := c.startCycle_spec t
  rw [h.start] at hview
  exact ⟨cycle, hview⟩

/-- `handle_tick` starts a cycle or ends in one of the outcomes. -/
theorem handleTick_spec {c d : MnContext σ} {t : ℕ} {action : NodeAction}
    (h : c.handleTick t = some (action, d)) (hqueue : c.QueueOk) :
    (Starts t c d action ∨ Ticked t c.view d action) ∧ BootTicked c d ∧ d.QueueOk := by
  unfold handleTick at h
  split_ifs at h with hdue
  · obtain ⟨hboot, hq, -⟩ := c.startCycle_spec t
    have hstart := Option.some.inj h
    rw [hstart] at hboot hq
    exact ⟨.inl ⟨hdue, hstart⟩, .same hboot, hq hqueue⟩
  · split at h
    · rename_i a e hclient
      obtain ⟨hstill, hasync⟩ := still_tickSdoClient hclient
      obtain ⟨rfl, rfl⟩ := Prod.mk.inj (Option.some.inj h)
      exact ⟨.inr (.sdo hstill.view (hasync _ rfl)), .same hstill.boot, hstill.queue hqueue⟩
    · rename_i e hclient
      obtain ⟨hclientStill, -⟩ := still_tickSdoClient hclient
      split at h
      · rename_i a f hserver
        obtain ⟨hserverStill, hasync⟩ := still_tickSdoServer hserver
        have hstill := hclientStill.trans hserverStill
        obtain ⟨rfl, rfl⟩ := Prod.mk.inj (Option.some.inj h)
        exact ⟨.inr (.sdo hstill.view (hasync _ rfl)), .same hstill.boot, hstill.queue hqueue⟩
      · rename_i f hserver
        obtain ⟨hserverStill, -⟩ := still_tickSdoServer hserver
        have hstill := hclientStill.trans hserverStill
        obtain ⟨hticked, hboot, hq⟩ := tickDeadline_spec h (hstill.queue hqueue)
        rw [hstill.view] at hticked
        exact ⟨.inr hticked, hboot.congr hstill.boot, hq⟩

/-! ### Received frames -/

omit [ObjectDictionaryStorage σ] in
/-- The outcomes of a received frame for the cycle. -/
inductive Received (v : CycleView) (d : MnContext σ) : Prop
  | quiet (hview : d.view = v)
  /-- The awaited PRes advances the phase; the action is lost. -/
  | answered {nodeId : NodeId} {action : NodeAction} (hphase : v.phase = .isochronousPReq)
      (h : Advanced { v with pending := none, log := .answered nodeId :: v.log } d action)
  /-- The awaited ASnd ends the cycle. -/
  | asnd (hphase : v.phase = .asynchronousSoA)
      (hview : d.view = { v with pending := none, phase := .idle })

theorem acceptPres_spec {c d : MnContext σ} {pres : PResFrame} {t : ℕ}
    (h : c.acceptPres pres t = some d) (hphase : c.currentPhase = .isochronousPReq)
    (hqueue : c.QueueOk) : Received c.view d ∧ d.QueueOk := by
  obtain ⟨r, -, h⟩ := Option.bind_eq_some_iff.mp h
  obtain ⟨⟨action, e⟩, hadvance, h⟩ := Option.bind_eq_some_iff.mp h
  obtain rfl := Option.some.inj h
  obtain ⟨hadvanced, -, hq⟩ := advanceCyclePhase_spec hadvance
  have hquiet := quiet_handlePresFrame (record { c with
    pendingTimeoutEvent := none
    core := r.1
    dllErrorManager := r.2 } (.answered pres.source)) pres
  rw [hquiet.view] at hadvanced
  exact ⟨.answered hphase hadvanced, hq (hquiet.queue hqueue)⟩

theorem processPres_spec {c d : MnContext σ} {pres : PResFrame} {t : ℕ}
    (h : c.processPres pres t = some d) (hqueue : c.QueueOk) : Received c.view d ∧ d.QueueOk := by
  have htracked := (c.still_count 2).toQuiet.trans (touches_trackPres (c.count 2) pres t).quiet
  rw [← htracked.view]
  dsimp only [processPres] at h
  split_ifs at h with hawaited
  · exact acceptPres_spec h hawaited.1 (htracked.queue hqueue)
  · obtain rfl := Option.some.inj h
    have hquiet := quiet_handlePresFrame ((c.count 2).trackPres pres t) pres
    exact ⟨.quiet hquiet.view, hquiet.queue (htracked.queue hqueue)⟩

theorem processAsnd_spec (c : MnContext σ) (frame : ASndFrame) (t : ℕ) (hqueue : c.QueueOk) :
    Received c.view (c.processAsnd frame t) ∧ (c.processAsnd frame t).QueueOk := by
  dsimp only [processAsnd]
  split_ifs with hphase
  · have hquiet := quiet_handleAsndFrame { c.count 4 with pendingTimeoutEvent := none } frame t
    refine ⟨.asnd hphase ?_, hquiet.queue hqueue⟩
    have hview := congrArg (fun v : CycleView => { v with phase := .idle }) hquiet.view
    exact hview
  · have hquiet := (c.still_count 4).toQuiet.trans (quiet_handleAsndFrame (c.count 4) frame t)
    exact ⟨.quiet hquiet.view, hquiet.queue hqueue⟩

/-- `process_frame` for the frames that reach it. -/
theorem processFrame_spec {c d : MnContext σ} {frame : PowerlinkFrame} {t : ℕ}
    (hnmt : frame.nmtEvent = none) (h : c.processFrame frame t = some d) (hqueue : c.QueueOk) :
    Received c.view d ∧ d.QueueOk := by
  dsimp only [processFrame] at h
  rw [hnmt] at h
  dsimp only at h
  have hquiet := c.quiet_handleDllEvent (dllMnEvent frame) frame
  rw [← hquiet.view]
  split at h
  · exact processPres_spec h (hquiet.queue hqueue)
  · obtain rfl := Option.some.inj h
    exact processAsnd_spec _ _ t (hquiet.queue hqueue)
  · obtain rfl := Option.some.inj h
    exact ⟨.quiet rfl, hquiet.queue hqueue⟩

theorem processAsndFrame_spec {c d : MnContext σ} {frame : ASndFrame} {t : ℕ}
    {action : NodeAction} (h : c.processAsndFrame frame t = some (action, d))
    (hqueue : c.QueueOk) : Received c.view d ∧ action.IsAsync ∧ d.QueueOk := by
  unfold processAsndFrame at h
  split_ifs at h
  · obtain ⟨e, hresponse, heq⟩ := Option.map_eq_some_iff.mp h
    obtain ⟨rfl, rfl⟩ := Prod.mk.inj heq
    have hstill := still_processSdoResponse hresponse
    exact ⟨.quiet hstill.view, .inl rfl, hstill.queue hqueue⟩
  · obtain ⟨hstill, hasync⟩ := still_handleSdoServerRequest (Option.some.inj h)
    have hstill := (c.still_count 6).trans hstill
    exact ⟨.quiet hstill.view, hasync, hstill.queue hqueue⟩
  · obtain ⟨e, hframe, heq⟩ := Option.map_eq_some_iff.mp h
    obtain ⟨rfl, rfl⟩ := Prod.mk.inj heq
    obtain ⟨hreceived, hq⟩ := processFrame_spec rfl hframe hqueue
    exact ⟨hreceived, .inl rfl, hq⟩

theorem processPowerlinkFrame_spec {c d : MnContext σ} {frame : PowerlinkFrame} {t : ℕ}
    {action : NodeAction} (h : c.processPowerlinkFrame frame t = some (action, d))
    (hqueue : c.QueueOk) : Received c.view d ∧ action.IsAsync ∧ d.QueueOk := by
  unfold processPowerlinkFrame at h
  split at h
  · obtain ⟨e, hframe, heq⟩ := Option.map_eq_some_iff.mp h
    obtain ⟨rfl, rfl⟩ := Prod.mk.inj heq
    obtain ⟨hreceived, hq⟩ := processFrame_spec rfl hframe hqueue
    exact ⟨hreceived, .inl rfl, hq⟩
  · exact processAsndFrame_spec h hqueue
  · obtain ⟨rfl, rfl⟩ := Prod.mk.inj (Option.some.inj h)
    exact ⟨.quiet rfl, .inl rfl, hqueue⟩

theorem receiveEthernet_spec {c d : MnContext σ} {input : CycleInput} {action : NodeAction}
    (h : c.receiveEthernet input = some (action, d)) (hqueue : c.QueueOk) :
    Received c.view d ∧ action.IsAsync ∧ d.QueueOk := by
  unfold receiveEthernet processEthernetFrame at h
  split at h
  · obtain ⟨rfl, rfl⟩ := Prod.mk.inj (Option.some.inj h)
    exact ⟨.quiet rfl, .inl rfl, hqueue⟩
  · split_ifs at h
    · obtain ⟨rfl, rfl⟩ := Prod.mk.inj (Option.some.inj h)
      have hreset : MnNmtStateMachine.isReset .error = false := rfl
      have hquiet := c.quiet_processNmtEvent hreset (by decide)
      exact ⟨.quiet hquiet.view, .inl rfl, hquiet.queue hqueue⟩
    · split at h
      · exact processPowerlinkFrame_spec h hqueue
      · obtain ⟨rfl, rfl⟩ := Prod.mk.inj (Option.some.inj h)
        exact ⟨.quiet rfl, .inl rfl, hqueue⟩
    · obtain ⟨rfl, rfl⟩ := Prod.mk.inj (Option.some.inj h)
      exact ⟨.quiet rfl, .inl rfl, hqueue⟩

/-- A call reaches its tick in `e`: the received frame has led to `r` and asks for no answer, and
neither does the datagram. -/
structure Reaches (c : MnContext σ) (input : CycleInput) (r e : MnContext σ) : Prop where
  ethernet : c.receiveEthernet input = some (.noAction, r)
  udp : r.receiveUdp input = (.noAction, e)

theorem Reaches.still {c r e : MnContext σ} {input : CycleInput} (h : Reaches c input r e) :
    r.Still e :=
  (still_receiveUdp h.udp).1

/-- One call of the application: a received frame, and then a tick unless an answer to an SDO
request is returned at once. -/
theorem runCycle_spec {c d : MnContext σ} {input : CycleInput} {action : NodeAction}
    (h : c.runCycle input = some (action, d)) (hqueue : c.QueueOk) :
    d.QueueOk ∧ ∃ r : MnContext σ, Received c.view r ∧
      (d.view = r.view ∧ action.IsAsync ∨ ∃ e, Reaches c input r e ∧
        (Starts input.currentTimeUs e d action ∨ Ticked input.currentTimeUs e.view d action)) := by
  obtain ⟨⟨a, r⟩, hethernet, h⟩ := Option.bind_eq_some_iff.mp h
  obtain ⟨hreceived, hasync, hq⟩ := receiveEthernet_spec hethernet hqueue
  dsimp only at h
  split_ifs at h with heth hudp
  · obtain ⟨rfl, rfl⟩ := Prod.mk.inj (Option.some.inj h)
    exact ⟨hq, r, hreceived, .inl ⟨rfl, hasync⟩⟩
  · obtain ⟨hstill, hudp⟩ := still_receiveUdp (Prod.mk.eta (p := r.receiveUdp input)).symm
    obtain ⟨rfl, rfl⟩ := Prod.mk.inj (Option.some.inj h)
    exact ⟨hstill.queue hq, r, hreceived, .inl ⟨hstill.view, hudp⟩⟩
  · obtain rfl : a = .noAction := not_not.mp heth
    have hreaches : Reaches c input r (r.receiveUdp input).2 :=
      ⟨hethernet, Prod.ext (not_not.mp hudp) rfl⟩
    obtain ⟨htick, -, hq'⟩ := handleTick_spec h (hreaches.still.queue hq)
    exact ⟨hq', r, hreceived, .inr ⟨_, hreaches, htick⟩⟩

end MnContext

end Powerlink
