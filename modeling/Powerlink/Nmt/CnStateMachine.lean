import Powerlink.Nmt.StateMachine
import Powerlink.Frame.Frames

/-! # The NMT state machine of a controlled node

The trait `NmtStateMachine` of `nmt/state_machine.rs` with its provided methods, and the machine of
a controlled node (`nmt/cn_state_machine.rs`).  A managing node implements the same trait:
`MnNmtStateMachine.reset_eq` says that its reset sequence is the provided one.

The list of unexpected events that `process_event` returns has no reader and is left out. -/

namespace Powerlink

/-- The required methods of the trait `NmtStateMachine` that the provided ones call. -/
class NmtStateMachine (μ : Type) where
  currentState : μ → NmtState
  setState : μ → NmtState → μ

namespace NmtStateMachine

variable {σ μ : Type} [NmtStateMachine μ]

/-- `update_od_state`. -/
def updateOdState (m : μ) (od : ObjectDictionary σ) : ObjectDictionary σ :=
  (od.writeInternal 0x1F8C 0 (.unsigned8 (currentState m).toByte) false).2

/-- `set_state` followed by `update_od_state`. -/
def enter (r : μ × ObjectDictionary σ) (state : NmtState) : μ × ObjectDictionary σ :=
  let m := setState r.1 state
  (m, updateOdState m r.2)

variable [ObjectDictionaryStorage σ]

/-- The sub-state `NMT_GS_RESET_APPLICATION`. -/
def resetApplication (r : μ × ObjectDictionary σ) : μ × ObjectDictionary σ :=
  let r := enter r .nmtGsResetApplication
  (r.1, (r.2.restorePowerOnValues 0x2000 0x5FFF).restorePowerOnValues 0x6000 0x9FFF)

/-- The sub-state `NMT_GS_RESET_COMMUNICATION`. -/
def resetCommunication (r : μ × ObjectDictionary σ) : μ × ObjectDictionary σ :=
  let r := enter r .nmtGsResetCommunication
  (r.1, r.2.restorePowerOnValues 0x1000 0x1FFF)

/-- The last two sub-states of a reset. -/
def resetConfiguration (r : μ × ObjectDictionary σ) : μ × ObjectDictionary σ :=
  enter (enter r .nmtGsResetConfiguration) .nmtNotActive

/-- `reset`: the cascade of sub-states from the one that the event names down to
`NmtNotActive`. -/
def reset (m : μ) (event : NmtEvent) (od : ObjectDictionary σ) : μ × ObjectDictionary σ :=
  match event with
  | .reset | .swReset =>
      resetConfiguration (resetCommunication (resetApplication (enter (m, od) .nmtGsInitialising)))
  | .resetNode => resetConfiguration (resetCommunication (resetApplication (m, od)))
  | .resetCommunication => resetConfiguration (resetCommunication (m, od))
  | .resetConfiguration => resetConfiguration (m, od)
  | _ => (m, od)

/-- `run_internal_initialisation`. -/
def runInternalInitialisation (m : μ) (od : ObjectDictionary σ) : μ × ObjectDictionary σ :=
  if currentState m ≠ .nmtGsInitialising then (m, od) else reset m .swReset od

end NmtStateMachine

instance : NmtStateMachine MnNmtStateMachine where
  currentState m := m.currentState
  setState m state := { m with currentState := state }

/-- The reset sequence of a managing node is the provided one. -/
theorem MnNmtStateMachine.reset_eq {σ : Type} [ObjectDictionaryStorage σ] (m : MnNmtStateMachine)
    (event : NmtEvent) (od : ObjectDictionary σ) :
    m.reset event od = NmtStateMachine.reset m event od := by
  cases event <;> rfl

/-- `CnNmtStateMachine`. -/
structure CnNmtStateMachine where
  currentState : NmtState
  nodeId : NodeId
  featureFlags : UInt32
  basicEthernetTimeout : UInt32
deriving DecidableEq, Repr

instance : NmtStateMachine CnNmtStateMachine where
  currentState m := m.currentState
  setState m state := { m with currentState := state }

namespace CnNmtStateMachine

variable {σ : Type}

/-- `CnNmtStateMachine::from_od`. -/
def fromOd (od : ObjectDictionary σ) : Except PowerlinkError CnNmtStateMachine := do
  let nodeId ← match od.read 0x1F93 1 with
    | none => .error .objectNotFound
    | some (.unsigned8 v) => NodeId.tryFrom v
    | some _ => .error .typeMismatch
  let featureFlags ← MnNmtStateMachine.readMandatory od 0x1F82 0
  let basicEthernetTimeout ← MnNmtStateMachine.readMandatory od 0x1F99 0
  .ok { currentState := .nmtGsInitialising
        nodeId := nodeId
        featureFlags := featureFlags
        basicEthernetTimeout := basicEthernetTimeout }

/-- The transition table of `process_event`. -/
def nextState (current : NmtState) (event : NmtEvent) : NmtState :=
  match current, event with
  | .nmtNotActive, .socReceived | .nmtNotActive, .socSoAReceived => .nmtPreOperational1
  | .nmtNotActive, .timeout => .nmtBasicEthernet
  | .nmtPreOperational1, .socReceived => .nmtPreOperational2
  | .nmtPreOperational2, .enableReadyToOperate => .nmtPreOperational2
  | .nmtPreOperational2, .cnConfigurationComplete => .nmtReadyToOperate
  | .nmtReadyToOperate, .startNode => .nmtOperational
  | .nmtPreOperational2, .stopNode | .nmtReadyToOperate, .stopNode
  | .nmtOperational, .stopNode => .nmtCsStopped
  | .nmtOperational, .enterPreOperational2 => .nmtPreOperational2
  | .nmtCsStopped, .enterPreOperational2 => .nmtPreOperational2
  | .nmtPreOperational2, .error | .nmtReadyToOperate, .error | .nmtOperational, .error
  | .nmtCsStopped, .error => .nmtPreOperational1
  | .nmtBasicEthernet, .powerlinkFrameReceived => .nmtPreOperational1
  | current, _ => current

variable [ObjectDictionaryStorage σ]

/-- `process_event`. -/
def processEvent (m : CnNmtStateMachine) (event : NmtEvent) (od : ObjectDictionary σ) :
    CnNmtStateMachine × ObjectDictionary σ :=
  if MnNmtStateMachine.isReset event then
    let r := NmtStateMachine.reset m event od
    if m.currentState ≠ r.1.currentState then (r.1, NmtStateMachine.updateOdState r.1 r.2) else r
  else if m.currentState ≠ nextState m.currentState event then
    NmtStateMachine.enter (m, od) (nextState m.currentState event)
  else (m, od)

/-! ### What an event changes -/

/-- An event that is not a reset follows the table. -/
theorem processEvent_machine (m : CnNmtStateMachine) {event : NmtEvent} (od : ObjectDictionary σ)
    (h : MnNmtStateMachine.isReset event = false) :
    (m.processEvent event od).1 = { m with currentState := nextState m.currentState event } := by
  unfold processEvent
  rw [h]
  by_cases hs : m.currentState = nextState m.currentState event
  · simp only [Bool.false_eq_true, if_false, ne_eq, ← hs, not_true_eq_false]
  · simp only [Bool.false_eq_true, if_false, ne_eq, hs, not_false_eq_true, if_true]
    rfl

/-- An event that is not a reset only writes the current state. -/
theorem read_processEvent (m : CnNmtStateMachine) {event : NmtEvent} (od : ObjectDictionary σ)
    (h : MnNmtStateMachine.isReset event = false) {index : UInt16} (hindex : index ≠ 0x1F8C)
    (subIndex : UInt8) : (m.processEvent event od).2.read index subIndex = od.read index subIndex := by
  unfold processEvent
  rw [h]
  simp only [Bool.false_eq_true, if_false]
  split_ifs
  · exact od.read_writeInternal hindex _ _ _ _
  · rfl

/-- No event changes the parameters of the machine. -/
theorem processEvent_parameters (m : CnNmtStateMachine) (event : NmtEvent)
    (od : ObjectDictionary σ) :
    ∃ state, (m.processEvent event od).1 = { m with currentState := state } := by
  by_cases hreset : MnNmtStateMachine.isReset event = true
  · refine ⟨.nmtNotActive, ?_⟩
    unfold processEvent
    rw [if_pos hreset]
    have hr : (NmtStateMachine.reset m event od).1 = { m with currentState := .nmtNotActive } := by
      cases event with
      | reset => rfl
      | swReset => rfl
      | resetNode => rfl
      | resetCommunication => rfl
      | resetConfiguration => rfl
      | _ => cases hreset
    dsimp only
    split_ifs
    · exact hr
    · exact hr
  · exact ⟨_, m.processEvent_machine od (Bool.eq_false_iff.mpr hreset)⟩

end CnNmtStateMachine

end Powerlink
