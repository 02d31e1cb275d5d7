import Mathlib.Logic.Relation
import Powerlink.Nmt.States
import Powerlink.Od.Lifecycle

/-! # The NMT state machine of a managing node

The model of `nmt/mn_state_machine.rs` and of the shared reset sequence of
`nmt/state_machine.rs`.  An event returns the new machine and the dictionary, which mirrors the
current state in `0x1F8C` and gets its power-on values back in a reset.

`nextState` is the transition table of the events that are not resets, and `processEvent_machine`
says that such an event follows it and changes nothing else of the machine. -/

namespace Powerlink

/-- `MnNmtStateMachine`. -/
structure MnNmtStateMachine where
  currentState : NmtState
  nodeId : NodeId
  featureFlags : UInt32
  waitNotActiveTimeout : UInt32
  startupFlags : UInt32
deriving DecidableEq, Repr

namespace MnNmtStateMachine

variable {σ : Type}

/-- A mandatory `UNSIGNED32` object. -/
def readMandatory (od : ObjectDictionary σ) (index : UInt16) (subIndex : UInt8) :
    Except PowerlinkError UInt32 :=
  match od.read index subIndex with
  | none => .error .objectNotFound
  | some (.unsigned32 v) => .ok v
  | some _ => .error .typeMismatch

/-- `MnNmtStateMachine::from_od`. -/
def fromOd (od : ObjectDictionary σ) : Except PowerlinkError MnNmtStateMachine := do
  let featureFlags ← readMandatory od 0x1F82 0
  let waitNotActiveTimeout ← readMandatory od 0x1F89 1
  let startupFlags ← readMandatory od 0x1F80 0
  .ok { currentState := .nmtGsInitialising
        nodeId := ⟨240⟩
        featureFlags := featureFlags
        waitNotActiveTimeout := waitNotActiveTimeout
        startupFlags := startupFlags }

/-- A bit of `NMT_StartUp_U32`. -/
def startupBit (m : MnNmtStateMachine) (bit : UInt32) : Bool :=
  decide (m.startupFlags &&& (1 <<< bit) ≠ 0)

/-- `update_od_state`. -/
def updateOdState (m : MnNmtStateMachine) (od : ObjectDictionary σ) : ObjectDictionary σ :=
  (od.writeInternal 0x1F8C 0 (.unsigned8 m.currentState.toByte) false).2

/-- `set_state` followed by `update_od_state`. -/
def enter (r : MnNmtStateMachine × ObjectDictionary σ) (state : NmtState) :
    MnNmtStateMachine × ObjectDictionary σ :=
  let m := { r.1 with currentState := state }
  (m, m.updateOdState r.2)

variable [ObjectDictionaryStorage σ]

/-- The sub-state `NMT_GS_RESET_APPLICATION`. -/
def resetApplication (r : MnNmtStateMachine × ObjectDictionary σ) :
    MnNmtStateMachine × ObjectDictionary σ :=
  let r := enter r .nmtGsResetApplication
  (r.1, (r.2.restorePowerOnValues 0x2000 0x5FFF).restorePowerOnValues 0x6000 0x9FFF)

/-- The sub-state `NMT_GS_RESET_COMMUNICATION`. -/
def resetCommunication (r : MnNmtStateMachine × ObjectDictionary σ) :
    MnNmtStateMachine × ObjectDictionary σ :=
  let r := enter r .nmtGsResetCommunication
  (r.1, r.2.restorePowerOnValues 0x1000 0x1FFF)

/-- `reset`: the cascade of sub-states from the one that the event names down to
`NmtNotActive`. -/
def reset (m : MnNmtStateMachine) (event : NmtEvent) (od : ObjectDictionary σ) :
    MnNmtStateMachine × ObjectDictionary σ :=
  let fromConfiguration (r : MnNmtStateMachine × ObjectDictionary σ) :=
    enter (enter r .nmtGsResetConfiguration) .nmtNotActive
  match event with
  | .reset | .swReset =>
      fromConfiguration (resetCommunication (resetApplication (enter (m, od) .nmtGsInitialising)))
  | .resetNode => fromConfiguration (resetCommunication (resetApplication (m, od)))
  | .resetCommunication => fromConfiguration (resetCommunication (m, od))
  | .resetConfiguration => fromConfiguration (m, od)
  | _ => (m, od)

/-- `run_internal_initialisation`. -/
def runInternalInitialisation (m : MnNmtStateMachine) (od : ObjectDictionary σ) :
    MnNmtStateMachine × ObjectDictionary σ :=
  if m.currentState ≠ .nmtGsInitialising then (m, od) else m.reset .swReset od

omit [ObjectDictionaryStorage σ] in
/-- The transition table of `process_event`. -/
def nextState (m : MnNmtStateMachine) (event : NmtEvent) : NmtState :=
  match m.currentState, event with
  | .nmtNotActive, .timeout =>
      if m.startupBit 13 then .nmtBasicEthernet else .nmtPreOperational1
  | .nmtPreOperational1, .allCnsIdentified => .nmtPreOperational2
  | .nmtPreOperational2, .configurationCompleteCnsReady => .nmtReadyToOperate
  | .nmtReadyToOperate, .allMandatoryCnsOperational => .nmtOperational
  | .nmtOperational, .error => .nmtPreOperational1
  | .nmtBasicEthernet, .powerlinkFrameReceived => .nmtPreOperational1
  | current, _ => current

/-- The events that `process_event` hands to `reset`. -/
def isReset : NmtEvent → Bool
  | .reset | .swReset | .resetNode | .resetCommunication | .resetConfiguration => true
  | _ => false

/-- `process_event`. -/
def processEvent (m : MnNmtStateMachine) (event : NmtEvent) (od : ObjectDictionary σ) :
    MnNmtStateMachine × ObjectDictionary σ :=
  if isReset event then
    let r := m.reset event od
    if m.currentState ≠ r.1.currentState then (r.1, r.1.updateOdState r.2) else r
  else if m.currentState ≠ m.nextState event then enter (m, od) (m.nextState event)
  else (m, od)

/-! ### What an event changes -/

/-- An event that is not a reset follows the table. -/
theorem processEvent_machine (m : MnNmtStateMachine) {event : NmtEvent} (od : ObjectDictionary σ)
    (h : isReset event = false) :
    (m.processEvent event od).1 = { m with currentState := m.nextState event } := by
  unfold processEvent
  rw [h]
  by_cases hs : m.currentState = m.nextState event
  · simp only [Bool.false_eq_true, if_false, ne_eq, hs, not_true_eq_false]
    rw [← hs]
  · simp only [Bool.false_eq_true, if_false, ne_eq, hs, not_false_eq_true, if_true]
    rfl

/-- The node starts up in `NmtNotActive`. -/
theorem runInternalInitialisation_machine {m : MnNmtStateMachine} (od : ObjectDictionary σ)
    (h : m.currentState = .nmtGsInitialising) :
    (m.runInternalInitialisation od).1 = { m with currentState := .nmtNotActive } := by
  unfold runInternalInitialisation
  rw [if_neg (not_not.mpr h)]
  rfl

/-! ### The events that a managing node raises itself -/

/-- The events of the boot-up. -/
def isInternal : NmtEvent → Bool
  | .allCnsIdentified | .configurationCompleteCnsReady | .allMandatoryCnsOperational => true
  | _ => false

omit [ObjectDictionaryStorage σ] in
/-- The machine follows the table for any number of such events. -/
def Moves : MnNmtStateMachine → MnNmtStateMachine → Prop :=
  Relation.ReflTransGen (fun m m' =>
    ∃ event, isInternal event = true ∧ m' = { m with currentState := m.nextState event })

theorem moves_processEvent (m : MnNmtStateMachine) {event : NmtEvent} (od : ObjectDictionary σ)
    (h : isInternal event = true) : m.Moves (m.processEvent event od).1 := by
  refine .single ⟨event, h, m.processEvent_machine od ?_⟩
  cases event with
  | allCnsIdentified => rfl
  | configurationCompleteCnsReady => rfl
  | allMandatoryCnsOperational => rfl
  | _ => cases h

end MnNmtStateMachine

end Powerlink
