import Powerlink.Nmt.States

/-! # The data link layer of the managing node

The cycle state machine DLL_MS (`frame/ms_state_machine.rs`) and the error counters of a managing
node (`frame/error`).  `processEvent` returns the list of errors it reports, empty where the
source returns `None`.

Two facts decide what an error can do to the node: the machine only reports a lost PRes, a lost
ASnd or an unexpected event (`processEvent_errors`), and of these only a lost PRes, which needs
a `PresTimeout`, reaches a threshold (`handleError_action`).  A managing node therefore never
asks for its own communication reset. -/

namespace Powerlink

/-- `DllMsState`. -/
inductive DllMsState where
  | nonCyclic
  | waitSocTrig
  | waitPres
  | waitAsnd
  | waitSoa
deriving DecidableEq, Repr

/-- `DllMsEvent`. -/
inductive DllMsEvent where
  | pres
  | presTimeout
  | asnd
  | asndTimeout
  | socTrig
  | soaTrig
deriving DecidableEq, Repr

/-- `NmtAction`. -/
inductive NmtAction where
  | none
  | resetCommunication
  | resetNode (nodeId : NodeId)
deriving DecidableEq, Repr

/-- `DllError`. -/
inductive DllError where
  | lossOfLink
  | badPhysicalMode
  | macBuffer
  | crc
  | collision
  | invalidFormat
  | lossOfSoc
  | lossOfSoa
  | lossOfPreq
  | lossOfPres (nodeId : NodeId)
  | lossOfStatusRes (nodeId : NodeId)
  | cycleTimeExceeded
  | latePres (nodeId : NodeId)
  | soCJitter
  | msWaitSoc
  | multipleMn
  | addressConflict
  | mevAsndTimeout
  | unexpectedEventInState (state event : UInt8)
  | pdoMapVersion (nodeId : NodeId)
  | pdoPayloadShort (nodeId : NodeId)
  | heartbeatTimeout (nodeId : NodeId)
deriving DecidableEq, Repr

/-! ### The cycle state machine -/

/-- `DllMsStateMachine`. -/
structure DllMsStateMachine where
  state : DllMsState
deriving DecidableEq, Repr

namespace DllMsStateMachine

/-- `DllMsStateMachine::new`. -/
def new : DllMsStateMachine := ⟨.nonCyclic⟩

/-- The error of an event that a state does not expect. -/
def unexpected (state : DllMsState) (event : DllMsEvent) : DllError :=
  .unexpectedEventInState (UInt8.ofNat state.ctorIdx) (UInt8.ofNat event.ctorIdx)

/-- The reduced cycle, in `NmtPreOperational1`. -/
def reducedCycle (state : DllMsState) (event : DllMsEvent)
    (responseExpected asyncIn : Bool) : List DllError × DllMsState :=
  match state, event with
  | .waitSoa, .soaTrig => ([], if asyncIn && responseExpected then .waitAsnd else .waitSoa)
  | .waitAsnd, .asndTimeout =>
      if asyncIn && responseExpected then ([.mevAsndTimeout, .mevAsndTimeout], .waitAsnd)
      else ([.mevAsndTimeout], .waitSoa)
  | .waitAsnd, .soaTrig =>
      if asyncIn && responseExpected then ([.mevAsndTimeout], .waitAsnd) else ([], .waitSoa)
  | current, event => ([unexpected current event], current)

/-- The state after a SoC trigger or an ended poll. -/
def afterPoll (isochr asyncIn : Bool) : DllMsState :=
  if isochr then .waitPres else if asyncIn then .waitAsnd else .waitSocTrig

/-- The isochronous cycle, from `NmtPreOperational2` on. -/
def isochronousCycle (state : DllMsState) (event : DllMsEvent) (asyncIn isochr : Bool)
    (destNodeId : NodeId) : List DllError × DllMsState :=
  match state, event with
  | .waitSocTrig, .socTrig => ([], afterPoll isochr asyncIn)
  | .waitPres, .pres => ([], afterPoll isochr asyncIn)
  | .waitPres, .presTimeout => ([.lossOfPres destNodeId], afterPoll isochr asyncIn)
  | .waitAsnd, .socTrig => ([], afterPoll isochr asyncIn)
  | .waitAsnd, .asnd => ([], .waitAsnd)
  | .nonCyclic, .socTrig => ([], .waitSocTrig)
  | current, event => ([unexpected current event], current)

/-- `DllMsStateMachine::process_event`.  `asyncOut` and `isochrOut` select the frames to send in
the diagrams of the specification; every branch of the source that differs in them alone leads
to the same state. -/
def processEvent (machine : DllMsStateMachine) (event : DllMsEvent) (nmtState : NmtState)
    (responseExpected asyncIn _asyncOut isochr _isochrOut : Bool) (destNodeId : NodeId) :
    List DllError × DllMsStateMachine :=
  match nmtState with
  | .nmtPreOperational1 =>
      let r := reducedCycle machine.state event responseExpected asyncIn
      (r.1, ⟨r.2⟩)
  | .nmtOperational | .nmtReadyToOperate | .nmtPreOperational2 =>
      let r := isochronousCycle machine.state event asyncIn isochr destNodeId
      (r.1, ⟨r.2⟩)
  | _ => ([], ⟨.nonCyclic⟩)

/-- The errors the machine can report. -/
inductive Reported (event : DllMsEvent) (destNodeId : NodeId) : DllError → Prop
  | lossOfPres : event = .presTimeout → Reported event destNodeId (.lossOfPres destNodeId)
  | mevAsndTimeout : Reported event destNodeId .mevAsndTimeout
  | unexpected (state : DllMsState) : Reported event destNodeId (unexpected state event)

theorem reducedCycle_errors {state : DllMsState} {event : DllMsEvent}
    {responseExpected asyncIn : Bool} {destNodeId : NodeId} {e : DllError}
    (h : e ∈ (reducedCycle state event responseExpected asyncIn).1) :
    Reported event destNodeId e := by
  unfold reducedCycle at h
  split at h
  · cases h
  · split at h
    · simp only [List.mem_cons, List.not_mem_nil, or_false, or_self] at h
      exact h ▸ .mevAsndTimeout
    · exact List.mem_singleton.mp h ▸ .mevAsndTimeout
  · split at h
    · exact List.mem_singleton.mp h ▸ .mevAsndTimeout
    · cases h
  · exact List.mem_singleton.mp h ▸ .unexpected _

theorem isochronousCycle_errors {state : DllMsState} {event : DllMsEvent}
    {asyncIn isochr : Bool} {destNodeId : NodeId} {e : DllError}
    (h : e ∈ (isochronousCycle state event asyncIn isochr destNodeId).1) :
    Reported event destNodeId e := by
  unfold isochronousCycle at h
  split at h
  · cases h
  · cases h
  · exact List.mem_singleton.mp h ▸ .lossOfPres rfl
  · cases h
  · cases h
  · cases h
  · exact List.mem_singleton.mp h ▸ .unexpected _

/-- Only a lost PRes, a lost ASnd and unexpected events are reported. -/
theorem processEvent_errors {machine : DllMsStateMachine} {event : DllMsEvent}
    {nmtState : NmtState} {responseExpected asyncIn asyncOut isochr isochrOut : Bool}
    {destNodeId : NodeId} {e : DllError}
    (h : e ∈ (machine.processEvent event nmtState responseExpected asyncIn asyncOut isochr
      isochrOut destNodeId).1) : Reported event destNodeId e := by
  unfold processEvent at h
  split at h
  · exact reducedCycle_errors h
  · exact isochronousCycle_errors h
  · exact isochronousCycle_errors h
  · exact isochronousCycle_errors h
  · cases h

theorem notMem_reducedCycle (state : DllMsState) (event : DllMsEvent)
    (responseExpected asyncIn : Bool) (nodeId : NodeId) :
    .lossOfPres nodeId ∉ (reducedCycle state event responseExpected asyncIn).1 := by
  unfold reducedCycle
  split
  · exact List.not_mem_nil
  · split_ifs
    · simp
    · simp
  · split_ifs
    · simp
    · exact List.not_mem_nil
  · simp [unexpected]

theorem isochronousCycle_loss {state : DllMsState} {event : DllMsEvent} {asyncIn isochr : Bool}
    {destNodeId nodeId : NodeId}
    (h : .lossOfPres nodeId ∈ (isochronousCycle state event asyncIn isochr destNodeId).1) :
    event = .presTimeout ∧
      (isochronousCycle state event asyncIn isochr destNodeId).1 = [.lossOfPres nodeId] := by
  unfold isochronousCycle at h ⊢
  cases state <;> cases event <;> simp_all [unexpected]

/-- A lost PRes is the only error of its event. -/
theorem processEvent_loss {machine : DllMsStateMachine} {event : DllMsEvent}
    {nmtState : NmtState} {responseExpected asyncIn asyncOut isochr isochrOut : Bool}
    {destNodeId nodeId : NodeId}
    (h : .lossOfPres nodeId ∈ (machine.processEvent event nmtState responseExpected asyncIn asyncOut
      isochr isochrOut destNodeId).1) :
    event = .presTimeout ∧ (machine.processEvent event nmtState responseExpected asyncIn asyncOut
      isochr isochrOut destNodeId).1 = [.lossOfPres nodeId] := by
  unfold processEvent at h ⊢
  cases nmtState with
  | nmtPreOperational1 => exact absurd h (notMem_reducedCycle _ _ _ _ _)
  | nmtPreOperational2 => exact isochronousCycle_loss h
  | nmtReadyToOperate => exact isochronousCycle_loss h
  | nmtOperational => exact isochronousCycle_loss h
  | _ => cases h

end DllMsStateMachine

/-! ### Error counters -/

/-- `ThresholdCounter`; the counters saturate at the width of `u32`. -/
structure ThresholdCounter where
  cumulativeCnt : ℕ := 0
  thresholdCnt : ℕ := 0
  threshold : ℕ := 0
deriving DecidableEq, Repr

namespace ThresholdCounter

/-- `ThresholdCounter::new`. -/
def new (threshold : ℕ) : ThresholdCounter := { threshold := threshold }

/-- `ThresholdCounter::increment`. -/
def increment (c : ThresholdCounter) : ThresholdCounter :=
  { c with thresholdCnt := min (c.thresholdCnt + 8) 0xFFFFFFFF }

/-- `ThresholdCounter::check_and_reset`. -/
def checkAndReset (c : ThresholdCounter) : Bool × ThresholdCounter :=
  if 0 < c.threshold ∧ c.threshold ≤ c.thresholdCnt then
    (true, { c with thresholdCnt := 0, cumulativeCnt := min (c.cumulativeCnt + 1) 0xFFFFFFFF })
  else (false, c)

end ThresholdCounter

/-- `MnErrorCounters`, with the values of `MnErrorCounters::default`. -/
structure MnErrorCounters where
  crcErrors : ThresholdCounter := {}
  collision : ThresholdCounter := {}
  cycleTimeExceeded : ThresholdCounter := {}
  lossOfLinkCumulative : ℕ := 0
  cnLatePres : SortedMap NodeId ThresholdCounter := .empty
  cnLossOfPres : SortedMap NodeId ThresholdCounter := .empty
  cnLossOfStatusResponse : SortedMap NodeId ThresholdCounter := .empty
deriving DecidableEq

namespace MnErrorCounters

/-- The counter of a node is created with threshold 15, incremented and checked. -/
def countFor (counters : SortedMap NodeId ThresholdCounter) (nodeId : NodeId) :
    Bool × SortedMap NodeId ThresholdCounter :=
  let counter := ((counters.get? nodeId).getD (.new 15)).increment.checkAndReset
  (counter.1, counters.insert nodeId counter.2)

/-- The action for an error whose threshold is reached. -/
def thresholdAction (reached : Bool) (nodeId : Option NodeId) : NmtAction :=
  match reached, nodeId with
  | false, _ => .none
  | true, some id => .resetNode id
  | true, none => .resetCommunication

/-- `MnErrorCounters::handle_error`: the NMT action, whether the status has changed, and the new
counters. -/
def handleError (c : MnErrorCounters) (error : DllError) : NmtAction × Bool × MnErrorCounters :=
  match error with
  | .crc =>
      let r := c.crcErrors.increment.checkAndReset
      (thresholdAction r.1 none, r.1, { c with crcErrors := r.2 })
  | .collision =>
      let r := c.collision.increment.checkAndReset
      (thresholdAction r.1 none, r.1, { c with collision := r.2 })
  | .cycleTimeExceeded =>
      let r := c.cycleTimeExceeded.increment.checkAndReset
      (thresholdAction r.1 none, r.1, { c with cycleTimeExceeded := r.2 })
  | .lossOfPres nodeId =>
      let r := countFor c.cnLossOfPres nodeId
      (thresholdAction r.1 (some nodeId), r.1, { c with cnLossOfPres := r.2 })
  | .latePres nodeId =>
      let r := countFor c.cnLatePres nodeId
      (thresholdAction r.1 (some nodeId), r.1, { c with cnLatePres := r.2 })
  | .lossOfStatusRes nodeId =>
      let r := countFor c.cnLossOfStatusResponse nodeId
      (thresholdAction r.1 (some nodeId), r.1, { c with cnLossOfStatusResponse := r.2 })
  | .pdoMapVersion _ | .pdoPayloadShort _ => (.none, true, c)
  | _ => (.none, false, c)

/-- A reported error resets at most the node whose PRes was lost. -/
theorem handleError_action (c : MnErrorCounters) {event : DllMsEvent} {destNodeId : NodeId}
    {e : DllError} (h : DllMsStateMachine.Reported event destNodeId e) :
    (c.handleError e).1 = .none ∨
      event = .presTimeout ∧ (c.handleError e).1 = .resetNode destNodeId := by
  cases h with
  | lossOfPres hevent =>
      simp only [handleError, thresholdAction]
      split
      · exact .inl rfl
      · rename_i hid
        exact .inr ⟨hevent, by rw [Option.some.inj hid]⟩
      · rename_i hid
        cases hid
  | mevAsndTimeout => exact .inl rfl
  | unexpected state => exact .inl rfl

end MnErrorCounters

end Powerlink
