import Powerlink.Mn.Scheduler

/-! # Events of the data link layer

`handle_dll_event` of `node/mn/events.rs`: an event goes to the cycle state machine, and the
errors it reports are counted.  A threshold that is reached marks the node as missing and queues
a reset of it. -/

namespace Powerlink

namespace MnContext

variable {σ : Type} [ObjectDictionaryStorage σ]

/-- The effect of an NMT action that the error counters ask for. -/
def applyNmtAction (c : MnContext σ) : NmtAction → MnContext σ
  | .none => c
  | .resetNode nodeId =>
      let c := c.track nodeId .missing
      { c with
        pendingNmtCommands := c.pendingNmtCommands ++ [(.state .resetNode, nodeId, .none)] }
  | .resetCommunication => { c.processNmtEvent .error with currentPhase := .idle }

/-- One error that the state machine reports. -/
def handleDllError (c : MnContext σ) (reportingNodeId : NodeId) (error : DllError) : MnContext σ :=
  let errorWithNode := match error with
    | .lossOfPres _ => .lossOfPres reportingNodeId
    | error => error
  let r := c.dllErrorManager.handleError errorWithNode
  applyNmtAction { c with dllErrorManager := r.2.2 } r.1

/-- The node that an event is about. -/
def reportingNode (c : MnContext σ) : PowerlinkFrame → NodeId
  | .pRes frame => frame.source
  | .aSnd frame => frame.source
  | _ => c.currentPolledCn.getD ⟨0⟩

/-- `handle_dll_event`. -/
def handleDllEvent (c : MnContext σ) (event : DllMsEvent) (frameContext : PowerlinkFrame) :
    MnContext σ :=
  let reportingNodeId := c.reportingNode frameContext
  let isochr := c.hasMoreIsochronousNodes c.currentMultiplexCycle ||
    decide (c.currentPhase = .isochronousPReq)
  let r := c.dllStateMachine.processEvent event c.nmtState
    (decide (event = .pres) || decide (event = .asnd)) (!c.asyncRequestQueue.isEmpty)
    (!c.mnAsyncSendQueue.isEmpty) isochr false reportingNodeId
  r.1.foldl (fun c error => c.handleDllError reportingNodeId error)
    { c with dllStateMachine := r.2 }

/-! ### What an event changes -/

/-- An error that the state machine reports is counted, and at most resets the node that it is
about. -/
theorem handleDllError_cases (c : MnContext σ) {reportingNodeId : NodeId} {event : DllMsEvent}
    {e : DllError} (h : DllMsStateMachine.Reported event reportingNodeId e) :
    ∃ counters, c.handleDllError reportingNodeId e = { c with dllErrorManager := counters } ∨
      event = .presTimeout ∧ c.handleDllError reportingNodeId e =
        applyNmtAction { c with dllErrorManager := counters } (.resetNode reportingNodeId) := by
  have hdef : c.handleDllError reportingNodeId e =
      applyNmtAction { c with dllErrorManager := (c.dllErrorManager.handleError e).2.2 }
        (c.dllErrorManager.handleError e).1 := by
    cases h <;> rfl
  refine ⟨(c.dllErrorManager.handleError e).2.2, ?_⟩
  obtain haction | ⟨hevent, haction⟩ := c.dllErrorManager.handleError_action h
  · rw [hdef, haction]
    exact .inl rfl
  · rw [hdef, haction]
    exact .inr ⟨hevent, rfl⟩

/-- The errors of an event that is not a lost PRes only count. -/
theorem foldl_handleDllError {event : DllMsEvent} (hevent : event ≠ .presTimeout)
    (reportingNodeId : NodeId) :
    ∀ (errors : List DllError) (c : MnContext σ),
      (∀ e ∈ errors, DllMsStateMachine.Reported event reportingNodeId e) →
      ∃ e, errors.foldl (fun c error => c.handleDllError reportingNodeId error) c =
        { c with dllErrorManager := e }
  | [], c, _ => ⟨c.dllErrorManager, rfl⟩
  | error :: errors, c, h => by
      obtain ⟨e, he | ⟨habs, -⟩⟩ := c.handleDllError_cases (h error List.mem_cons_self)
      case inr => exact absurd habs hevent
      obtain ⟨e', he'⟩ := foldl_handleDllError hevent reportingNodeId errors
        { c with dllErrorManager := e } (fun e he => h e (List.mem_cons_of_mem _ he))
      exact ⟨e', by rw [List.foldl_cons, he, he']⟩

/-- A received frame and a SoC trigger only move the cycle state machine and the counters. -/
theorem handleDllEvent_of_ne {event : DllMsEvent} (hevent : event ≠ .presTimeout)
    (c : MnContext σ) (frameContext : PowerlinkFrame) :
    ∃ m e, c.handleDllEvent event frameContext =
      { c with dllStateMachine := m, dllErrorManager := e } := by
  unfold handleDllEvent
  obtain ⟨e, he⟩ := foldl_handleDllError hevent (c.reportingNode frameContext) _
    { c with dllStateMachine := _ } (fun e he => DllMsStateMachine.processEvent_errors he)
  exact ⟨_, e, he⟩

end MnContext

end Powerlink
