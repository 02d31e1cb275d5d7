import Powerlink.Cn.ErrorLevels
import Powerlink.Node.PdoPanics

/-! # The generic error bit

Bit 0 of the error register `0x1001`.  An error that reaches its threshold sets it, and the SoC that
clears the last error clears it.  `ErrorView` is the bit together with the error counters, and
`move_errorView` what a step of the node does to it.

SDO requests, process data and the resets of the NMT can write the register too; `KeepsErrorBit` is
for the steps that do not. -/

namespace Powerlink

/-! ### The register in the dictionary -/

namespace ObjectDictionary

variable {σ : Type}

theorem readObject_modify (od : ObjectDictionary σ) {index index' : UInt16} (h : index' ≠ index)
    (f : ObjectEntry → ObjectEntry) :
    ObjectDictionary.readObject { od with entries := od.entries.modify index f } index' =
      od.readObject index' := by
  unfold readObject
  dsimp only
  rw [SortedMap.get?_modify, if_neg h]

theorem readObject_writeInternal (od : ObjectDictionary σ) {index index' : UInt16}
    (h : index' ≠ index) (subIndex : UInt8) (value : ObjectValue) (checkAccess : Bool) :
    (od.writeInternal index subIndex value checkAccess).2.readObject index' =
      od.readObject index' := by
  unfold writeInternal
  split
  · rfl
  · split_ifs
    · rfl
    · split
      · rfl
      · exact od.readObject_modify h _

end ObjectDictionary

/-- The error counters and the error bit of a node. -/
structure ErrorView where
  counters : CnErrorCounters
  bit : Option Bool

/-- The bit is set, where it exists. -/
def ErrorView.set (v : ErrorView) : ErrorView := { v with bit := v.bit.map fun _ => true }

/-- The view after the errors of a step. -/
def ErrorView.handled (v : ErrorView) (errors : List DllError) : ErrorView where
  counters := v.counters.handled errors
  bit := v.bit.map fun bit => v.counters.anySignalled errors || bit

theorem ErrorView.handled_nil (v : ErrorView) : v.handled [] = v := by
  obtain ⟨counters, bit⟩ := v
  cases bit with
  | none => rfl
  | some bit => rfl

/-- The view after one error. -/
def ErrorView.counted (v : ErrorView) (error : DllError) : ErrorView where
  counters := (v.counters.handleError error).2.2
  bit := v.bit.map fun bit => (v.counters.handleError error).2.1 || bit

theorem ErrorView.handled_cons (v : ErrorView) (error : DllError) (errors : List DllError) :
    v.handled (error :: errors) =
      if (v.counters.handleError error).2.1 then v.counted error
      else (v.counted error).handled errors := by
  obtain ⟨counters, bit⟩ := v
  unfold handled counted
  dsimp only
  rw [CnErrorCounters.handled, CnErrorCounters.anySignalled]
  cases (counters.handleError error).2.1 with
  | true => rfl
  | false =>
      cases bit with
      | none => rfl
      | some bit => rfl

/-- A signalled error ends the step. -/
theorem ErrorView.handled_append (v : ErrorView) (errors errors' : List DllError) :
    v.handled (errors ++ errors') =
      if v.counters.anySignalled errors then v.handled errors
      else handled ⟨v.counters.counted errors, v.bit⟩ errors' := by
  unfold handled
  rw [CnErrorCounters.handled_append, CnErrorCounters.anySignalled_append]
  cases v.counters.anySignalled errors with
  | true => rfl
  | false => rfl

/-- The view after a received frame. -/
def ErrorView.received (v : ErrorView) : PowerlinkFrame → ErrorView
  | .soc _ =>
      { counters := v.counters.onCycleComplete.2
        bit := v.bit.map fun bit => bit && !v.counters.onCycleComplete.1 }
  | _ => v

/-- Bit 0 of a register. -/
def Object.bit0 : Object → Option Bool
  | .variable (.unsigned8 register) => some (decide (register &&& 1 = 1))
  | _ => none

/-- The bit of a register that is written; another object refuses the value, or stays without the
bit. -/
theorem Object.bit0_writeObject (index : UInt16) (value : UInt8) (object : Object) :
    (ObjectDictionary.writeObject index 0 (.unsigned8 value) object).toOption.elim object.bit0
        Object.bit0 =
      object.bit0.map fun _ => decide (value &&& 1 = 1) := by
  rcases object with v | values | values
  · cases v with
    | unsigned8 register => rfl
    | _ => rfl
  · dsimp only [ObjectDictionary.writeObject]
    cases ObjectDictionary.writeElement values index 0 (.unsigned8 value) with
    | error e => rfl
    | ok written => rfl
  · dsimp only [ObjectDictionary.writeObject]
    cases ObjectDictionary.writeElement values index 0 (.unsigned8 value) with
    | error e => rfl
    | ok written => rfl

namespace CnContext

variable {σ : Type}

/-- Bit 0 of the error register, where it exists. -/
def errorBit (c : CnContext σ) : Option Bool := (c.core.od.readObject 0x1001).bind Object.bit0

/-- The view of a context. -/
def errorView (c : CnContext σ) : ErrorView := ⟨c.dllErrorManager, c.errorBit⟩

theorem errorBit_congr {c d : CnContext σ}
    (h : d.core.od.readObject 0x1001 = c.core.od.readObject 0x1001) : d.errorBit = c.errorBit := by
  unfold errorBit
  rw [h]

theorem errorView_countIn (c : CnContext σ) {index : UInt16} (h : index = 0x1101 ∨ index = 0x1102)
    (subIndex : UInt8) : (c.countIn index subIndex).errorView = c.errorView := by
  refine congrArg (ErrorView.mk c.dllErrorManager) (errorBit_congr ?_)
  refine c.core.od.readObject_modify ?_ _
  rintro rfl
  revert h
  decide

theorem errorView_count (c : CnContext σ) (subIndex : UInt8) :
    (c.count subIndex).errorView = c.errorView := c.errorView_countIn (.inl rfl) subIndex

theorem errorView_countError (c : CnContext σ) (subIndex : UInt8) :
    (c.countError subIndex).errorView = c.errorView := c.errorView_countIn (.inr rfl) subIndex

/-- The bit is that of the register as the node reads it. -/
theorem errorBit_eq {c : CnContext σ} {bit : Bool} (h : c.errorBit = some bit) :
    bit = decide (c.errorRegister &&& 1 = 1) := by
  obtain ⟨object, hobject, hbit⟩ := Option.bind_eq_some_iff.mp h
  obtain ⟨entry, hentry, rfl⟩ := Option.map_eq_some_iff.mp hobject
  have hread : c.core.od.read 0x1001 0 = entry.object.read 0 := by
    unfold ObjectDictionary.read
    rw [hentry]
    rfl
  unfold errorRegister ObjectDictionary.readU8
  rw [hread]
  generalize entry.object = object at hbit
  rcases object with v | values | values
  · cases v with
    | unsigned8 register => exact (Option.some.inj hbit).symm
    | _ => cases hbit
  · cases hbit
  · cases hbit

theorem errorBit_writeErrorRegister (c : CnContext σ) (value : UInt8) :
    (c.writeErrorRegister value).errorBit =
      c.errorBit.map fun _ => decide (value &&& 1 = 1) := by
  unfold errorBit writeErrorRegister ObjectDictionary.writeInternal
  dsimp only
  cases hentry : c.core.od.entries.get? 0x1001 with
  | none =>
      have hnone : c.core.od.readObject 0x1001 = none := by
        rw [ObjectDictionary.readObject, hentry]
        rfl
      dsimp only
      rw [hnone]
      rfl
  | some entry =>
      have hsome : c.core.od.readObject 0x1001 = some entry.object := by
        rw [ObjectDictionary.readObject, hentry]
        rfl
      have hwritten := Object.bit0_writeObject 0x1001 value entry.object
      rw [hsome, Option.bind_some, ← hwritten]
      dsimp only
      rw [Bool.false_and, if_neg Bool.false_ne_true]
      cases ObjectDictionary.writeObject 0x1001 0 (.unsigned8 value) entry.object with
      | error e =>
          dsimp only
          rw [hsome]
          rfl
      | ok object =>
          unfold ObjectDictionary.readObject
          dsimp only
          rw [SortedMap.get?_modify, if_pos rfl, hentry]
          rfl

/-! ### Setting and clearing -/

theorem or_one_and_one (register : UInt8) : (register ||| 1) &&& 1 = 1 := by
  have habsorb : ∀ a b : Bool, ((a || b) && b) = b := by decide
  apply UInt8.eq_of_toBitVec_eq
  ext i h
  simp only [UInt8.toBitVec_and, UInt8.toBitVec_or, UInt8.toBitVec_ofNat, BitVec.getElem_and,
    BitVec.getElem_or]
  exact habsorb _ _

theorem and_not_one_and_one (register : UInt8) : (register &&& ~~~1) &&& 1 = 0 := by
  rw [UInt8.and_assoc, show ~~~(1 : UInt8) &&& 1 = 0 from rfl, UInt8.and_zero]

/-- The bit is set. -/
theorem errorView_set (c : CnContext σ) (register : UInt8) :
    (c.writeErrorRegister (register ||| 1)).errorView = c.errorView.set := by
  refine congrArg (ErrorView.mk c.dllErrorManager) ?_
  rw [errorBit_writeErrorRegister, or_one_and_one]
  rfl

/-- A SoC lowers the counts, and the end of the last error clears the bit. -/
theorem errorView_completeCycle (c : CnContext σ) :
    c.completeCycle.errorView =
      ⟨c.dllErrorManager.onCycleComplete.2,
        c.errorBit.map fun bit => bit && !c.dllErrorManager.onCycleComplete.1⟩ := by
  unfold completeCycle
  dsimp only
  cases c.dllErrorManager.onCycleComplete.1 with
  | false =>
      refine congrArg (ErrorView.mk c.dllErrorManager.onCycleComplete.2) ?_
      simp only [Bool.not_false, Bool.and_true, Option.map_id']
      rfl
  | true =>
      rw [if_pos rfl, errorView_countError]
      refine congrArg (ErrorView.mk c.dllErrorManager.onCycleComplete.2) ?_
      simp only [Bool.not_true, Bool.and_false]
      have hwritten := errorBit_writeErrorRegister
        { c with dllErrorManager := c.dllErrorManager.onCycleComplete.2 }
        (errorRegister { c with dllErrorManager := c.dllErrorManager.onCycleComplete.2 } &&& ~~~1)
      rw [and_not_one_and_one] at hwritten
      exact hwritten

/-! ### Up to the NMT event -/

theorem errorView_receiveCycleStart (c : CnContext σ) (frame : PowerlinkFrame) (timeUs : ℕ) :
    (c.receiveCycleStart frame timeUs).errorView = c.errorView.received frame := by
  have hschedule : ∀ e : CnContext σ, (e.scheduleSocCheck timeUs).errorView = e.errorView := by
    intro e
    unfold scheduleSocCheck
    split
    · rfl
    · dsimp only
      split_ifs
      · split
        · split_ifs
          · rfl
          · rfl
        · rfl
      · rfl
  cases frame with
  | soc soc =>
      dsimp only [receiveCycleStart, receiveSoc]
      rw [hschedule, errorView_completeCycle]
      have hcount := errorView_count { c.record (.socReceived timeUs c.nextTickUs) with
        lastSocReceptionTimeUs := timeUs, socTimeoutCheckActive := true } 1
      have hbit := congrArg ErrorView.bit hcount
      dsimp only [errorView] at hbit
      rw [hbit]
      rfl
  | _ => rfl

theorem errorView_countReceived (c : CnContext σ) (frame : PowerlinkFrame) (timeUs : ℕ) :
    (c.countReceived frame timeUs).errorView = c.errorView := by
  cases frame with
  | soA soa =>
      dsimp only [countReceived]
      split_ifs
      · rw [errorView_count, errorView_count]
      · rw [errorView_count]
  | pReq preq => exact c.errorView_count 2
  | pRes pres => exact c.errorView_count 2
  | _ => rfl

theorem errorView_receiveFlags (c : CnContext σ) (frame : PowerlinkFrame) :
    (c.receiveFlags frame).errorView = c.errorView := by
  cases frame with
  | soA soa =>
      dsimp only [receiveFlags]
      split_ifs
      · exact errorView_countError { c with enFlag := false, emergencyQueue := [] } 6
      · rfl
      · rfl
  | _ => rfl

theorem errorView_receiveNmtEvent (c : CnContext σ) (frame : PowerlinkFrame) :
    (c.receiveNmtEvent frame).2.errorView = c.errorView := by
  have hname : ∀ payload, (c.setHostName payload).errorView = c.errorView := by
    intro payload
    dsimp only [setHostName]
    split_ifs
    · rfl
    · split
      · rfl
      · refine congrArg (ErrorView.mk c.dllErrorManager) (errorBit_congr ?_)
        exact c.core.od.readObject_writeInternal (by decide) _ _ _
  cases frame with
  | aSnd asnd =>
      dsimp only [receiveNmtEvent]
      split_ifs
      · unfold receiveNmtCommand
        split
        · rfl
        · split
          · rfl
          · split
            · exact hname _
            · rfl
      · rfl
  | _ => rfl

/-! ### Errors -/

/-- The errors of a tick: heartbeat timeouts and those of a SoC timeout. -/
def tickErrors (c : CnContext σ) (timeUs : ℕ) : List DllError :=
  if (c.tickSdoServer timeUs).1.isNone then
    (c.overdueNodes timeUs).map .heartbeatTimeout ++ c.socTimeoutErrors timeUs
  else []

section errors

variable [ObjectDictionaryStorage σ]

/-- An event that is not a reset only writes the current state. -/
theorem errorView_processNmtEvent (c : CnContext σ) {event : NmtEvent}
    (h : MnNmtStateMachine.isReset event = false) :
    (c.processNmtEvent event).errorView = c.errorView := by
  refine congrArg (ErrorView.mk c.dllErrorManager) (errorBit_congr ?_)
  dsimp only [processNmtEvent, CnNmtStateMachine.processEvent]
  rw [h, if_neg Bool.false_ne_true]
  split_ifs
  · exact c.core.od.readObject_writeInternal (by decide) _ _ _
  · rfl

omit [ObjectDictionaryStorage σ] in
theorem errorView_queueEmergency (c : CnContext σ) (entry : ErrorEntry) :
    (c.queueEmergency entry).errorView = c.errorView := by
  unfold queueEmergency
  split_ifs
  · rw [errorView_countError]
    refine congrArg (ErrorView.mk c.dllErrorManager) (errorBit_congr ?_)
    exact c.core.od.readObject_modify (by decide) _
  · exact c.errorView_countError 3

omit [ObjectDictionaryStorage σ] in
/-- A signalled error sets the bit. -/
theorem errorView_signalError (c : CnContext σ) (error : DllError) (timeUs : ℕ) :
    (c.signalError error timeUs).errorView = c.errorView.set := by
  have hchange : ∀ e : CnContext σ, e.countStaticChange.errorView = e.errorView := by
    intro e
    unfold countStaticChange
    split_ifs
    · exact e.errorView_countError 5
    · rfl
  unfold signalError
  dsimp only
  rw [errorView_queueEmergency, errorView_set, hchange]
  rfl

theorem errorView_resetAfterError (c : CnContext σ) :
    c.resetAfterError.errorView = c.errorView := c.errorView_processNmtEvent rfl

/-- One error of the cycle. -/
theorem errorView_handleDllError {c d : CnContext σ} {error : DllError} {timeUs : ℕ} {stop : Bool}
    (hcycle : error.isCycleError = true) (h : c.handleDllError error timeUs = (stop, d)) :
    stop = (c.dllErrorManager.handleError error).2.1 ∧
      d.errorView = c.errorView.counted error := by
  have hsignalled := c.dllErrorManager.handleError_signalled hcycle
  have hcounted : ∀ manager : CnErrorCounters,
      errorView { c.countError 1 with dllErrorManager := manager } = ⟨manager, c.errorBit⟩ :=
    fun manager => congrArg (ErrorView.mk manager)
      (congrArg ErrorView.bit (c.errorView_countError 1))
  have hmanager : (c.countError 1).dllErrorManager = c.dllErrorManager := rfl
  dsimp only [handleDllError] at h
  rw [hmanager] at h
  unfold ErrorView.counted
  dsimp only [errorView]
  split_ifs at h with haction hflag hflag
  · obtain ⟨rfl, rfl⟩ := Prod.mk.inj h
    refine ⟨hflag.symm, ?_⟩
    have hview := errorView_resetAfterError (signalError { c.countError 1 with
      dllErrorManager := (c.dllErrorManager.handleError error).2.2 } error timeUs)
    rw [errorView_signalError, hcounted] at hview
    rw [hflag]
    exact hview
  · rw [hsignalled, decide_eq_true haction] at hflag
    exact absurd rfl hflag
  · rw [hsignalled, decide_eq_false haction] at hflag
    cases hflag
  · obtain ⟨rfl, rfl⟩ := Prod.mk.inj h
    rw [Bool.eq_false_iff.mpr hflag]
    refine ⟨rfl, ?_⟩
    have hview := hcounted (c.dllErrorManager.handleError error).2.2
    simp only [Bool.false_or, Option.map_id']
    exact hview

/-- The first error that is signalled ends the step. -/
theorem errorView_handleDllErrors {timeUs : ℕ} {stop : Bool} : ∀ {errors : List DllError}
    {c d : CnContext σ}, (∀ e ∈ errors, e.isCycleError = true) →
    c.handleDllErrors errors timeUs = (stop, d) → d.errorView = c.errorView.handled errors
  | [], c, d, _, h => by
      obtain ⟨-, rfl⟩ := Prod.mk.inj h
      exact c.errorView.handled_nil.symm
  | error :: errors, c, d, hcycle, h => by
      rw [List.forall_mem_cons] at hcycle
      have hcounters : c.errorView.counters = c.dllErrorManager := rfl
      rw [handleDllErrors] at h
      rw [ErrorView.handled_cons, hcounters]
      split at h
      · rename_i e he
        obtain ⟨-, rfl⟩ := Prod.mk.inj h
        obtain ⟨hstop, hview⟩ := errorView_handleDllError hcycle.1 he
        rw [if_pos hstop.symm, hview]
      · rename_i e he
        obtain ⟨hstop, hview⟩ := errorView_handleDllError hcycle.1 he
        rw [if_neg (Bool.eq_false_iff.mp hstop.symm), ← hview]
        exact errorView_handleDllErrors hcycle.2 h

omit [ObjectDictionaryStorage σ] in
/-- A register that has the bit need not be written. -/
theorem errorView_of_register_set {c : CnContext σ} (h : c.errorRegister = c.errorRegister ||| 1) :
    c.errorView = c.errorView.set := by
  refine congrArg (ErrorView.mk c.dllErrorManager) ?_
  change c.errorBit = c.errorBit.map fun _ => true
  cases hbit : c.errorBit with
  | none => rfl
  | some bit =>
      rw [errorBit_eq hbit, h, or_one_and_one]
      rfl

/-- A heartbeat timeout. -/
theorem errorView_handleHeartbeatTimeout {c d : CnContext σ} {nodeId : NodeId} {timeUs : ℕ}
    {stop : Bool} (h : c.handleHeartbeatTimeout nodeId timeUs = (stop, d)) :
    d.errorView = c.errorView.counted (.heartbeatTimeout nodeId) := by
  have hsignalled : (c.dllErrorManager.handleError (.heartbeatTimeout nodeId)).2.1 =
      decide ((c.dllErrorManager.handleError (.heartbeatTimeout nodeId)).1 ≠ .none) := by
    have haction : ∀ reached : Bool,
        reached = decide (CnErrorCounters.thresholdAction reached ≠ .none) := by decide
    exact haction _
  have hmanager : (c.record (.heartbeatTimedOut nodeId timeUs)).dllErrorManager =
      c.dllErrorManager := rfl
  dsimp only [handleHeartbeatTimeout] at h
  rw [hmanager] at h
  unfold ErrorView.counted
  dsimp only [errorView]
  generalize c.dllErrorManager.handleError (.heartbeatTimeout nodeId) = r at h hsignalled ⊢
  have hset : ⟨r.2.2, c.errorBit.map fun _ => true⟩ = (errorView { c with
      dllErrorManager := r.2.2
      errorStatusChanged := true
      history := .heartbeatTimedOut nodeId timeUs :: c.history }).set := rfl
  split_ifs at h with haction hflag hregister hflag hregister
  · obtain ⟨-, rfl⟩ := Prod.mk.inj h
    rw [hflag]
    refine (errorView_resetAfterError _).trans ?_
    rw [errorView_set, errorView_countError]
    exact hset.symm
  · obtain ⟨-, rfl⟩ := Prod.mk.inj h
    rw [hflag]
    refine (errorView_resetAfterError _).trans ?_
    exact (errorView_of_register_set (not_not.mp hregister)).trans hset.symm
  · rw [hsignalled, decide_eq_true haction] at hflag
    exact absurd rfl hflag
  · rw [hsignalled, decide_eq_false haction] at hflag
    cases hflag
  · rw [hsignalled, decide_eq_false haction] at hflag
    cases hflag
  · obtain ⟨-, rfl⟩ := Prod.mk.inj h
    rw [Bool.eq_false_iff.mpr hflag]
    simp only [Bool.false_or, Option.map_id']
    rfl

/-- The heartbeat timeouts of a tick. -/
theorem errorView_handleHeartbeatTimeouts {timeUs : ℕ} {stop : Bool} : ∀ {nodeIds : List NodeId}
    {c d : CnContext σ}, c.handleHeartbeatTimeouts nodeIds timeUs = (stop, d) →
    d.errorView = c.errorView.handled (nodeIds.map .heartbeatTimeout)
  | [], c, d, h => by
      obtain ⟨-, rfl⟩ := Prod.mk.inj h
      exact c.errorView.handled_nil.symm
  | nodeId :: nodeIds, c, d, h => by
      have hcounters : c.errorView.counters = c.dllErrorManager := rfl
      rw [handleHeartbeatTimeouts] at h
      rw [List.map_cons, ErrorView.handled_cons, hcounters]
      split at h
      · rename_i e he
        obtain ⟨-, rfl⟩ := Prod.mk.inj h
        rw [if_pos (handleHeartbeatTimeout_spec he).1.symm, errorView_handleHeartbeatTimeout he]
      · rename_i e he
        rw [if_neg (Bool.eq_false_iff.mp (handleHeartbeatTimeout_spec he).1.symm),
          ← errorView_handleHeartbeatTimeout he]
        exact errorView_handleHeartbeatTimeouts h

theorem errorView_tickHeartbeats {c d : CnContext σ} {timeUs : ℕ} {stop : Bool}
    (h : c.tickHeartbeats timeUs = some (stop, d)) :
    d.errorView = c.errorView.handled ((c.overdueNodes timeUs).map .heartbeatTimeout) := by
  unfold tickHeartbeats at h
  unfold overdueNodes
  split_ifs at h ⊢ with hstate
  · split at h
    · cases h
    · rename_i nodeIds consumers hvisit
      rw [hvisit]
      have hview := errorView_handleHeartbeatTimeouts (Option.some.inj h)
      exact hview
  · obtain ⟨-, rfl⟩ := Prod.mk.inj (Option.some.inj h)
    exact c.errorView.handled_nil.symm

/-- The SoC timeout of a tick. -/
theorem errorView_tickDeadline {c d : CnContext σ} {timeUs : ℕ}
    (h : c.tickDeadline c.nmtState timeUs = some d) :
    d.errorView = c.errorView.handled (c.socTimeoutErrors timeUs) := by
  have hsame : ∀ {e : CnContext σ}, some e = some d → e.errorView = c.errorView →
      d.errorView = c.errorView.handled [] := by
    intro e hd he
    rw [← Option.some.inj hd, he, ErrorView.handled_nil]
  dsimp only [tickDeadline] at h
  unfold socTimeoutErrors
  rcases hnext : c.nextTickUs with _ | deadline
  · rw [hnext] at h
    dsimp only at h
    split_ifs at h
    · exact hsame h rfl
    · exact hsame h rfl
  · rw [hnext] at h
    dsimp only at h ⊢
    split_ifs at h with hearly hstate htimeout hactive
    · rw [if_neg fun hall => absurd hall.1 (not_le.mpr hearly)]
      exact hsame h rfl
    · rw [if_neg fun hall => hall.2.1 hstate]
      exact hsame h (errorView_processNmtEvent { c with nextTickUs := none } rfl)
    · rw [if_neg fun hall => hall.2.1 hstate]
      exact hsame h rfl
    · rw [if_pos ⟨not_lt.mp hearly, hstate, hactive⟩]
      dsimp only [deliverSocTimeout] at h
      have hcycle : ∀ error ∈ (c.dllStateMachine.processEvent .socTimeout c.nmtState).1,
          error.isCycleError = true :=
        fun error hmem => DllCsStateMachine.isCycleError_of_mem hmem
      split at h
      · rename_i e herrors
        have he := errorView_handleDllErrors hcycle herrors
        rw [← Option.some.inj h]
        exact he
      · rename_i e herrors
        have he := errorView_handleDllErrors hcycle herrors
        split_ifs at h
        · obtain ⟨_, _, rfl⟩ := rescheduleSocCheck_frame h
          exact he
        · rw [← Option.some.inj h]
          exact he
    · rw [if_neg fun hall => hactive hall.2.2]
      exact hsame h rfl

omit [ObjectDictionaryStorage σ] in
/-- The timeouts of the SDO server. -/
theorem errorView_tickSdoServer (c : CnContext σ) (timeUs : ℕ) :
    (c.tickSdoServer timeUs).2.errorView = c.errorView := by
  have hserver : ∀ server,
      (count { c with core := { c.core with sdoServer := server } } 7).errorView = c.errorView :=
    fun server => errorView_count { c with core := { c.core with sdoServer := server } } 7
  dsimp only [tickSdoServer]
  generalize c.core.sdoServer.tick timeUs c.core.od = r
  obtain ⟨result, server⟩ := r
  split
  · dsimp only
    split
    · exact hserver _
    · exact hserver _
  · rfl

/-- A tick counts the heartbeat timeouts first. -/
theorem errorView_processTick {c d : CnContext σ} {timeUs : ℕ} {action : NodeAction}
    (h : c.processTick timeUs = some (action, d)) :
    d.errorView = c.errorView.handled (c.tickErrors timeUs) := by
  have hview := c.errorView_tickSdoServer timeUs
  unfold processTick at h
  unfold tickErrors
  rcases hserver : c.tickSdoServer timeUs with ⟨_ | sent, e⟩
  · rw [hserver] at h hview
    obtain ⟨⟨core, rfl⟩, -⟩ := tickSdoServer_moved hserver
    dsimp only [Option.isNone] at h hview ⊢
    rw [if_pos rfl, ErrorView.handled_append, ← hview]
    split at h
    · cases h
    · rename_i f hbeats
      obtain ⟨-, rfl⟩ := Prod.mk.inj (Option.some.inj h)
      obtain ⟨hstop, -, -⟩ := tickHeartbeats_spec hbeats
      have hsignalled : c.dllErrorManager.anySignalled
          ((c.overdueNodes timeUs).map .heartbeatTimeout) = true := hstop.symm
      have hbeaten := errorView_tickHeartbeats hbeats
      exact hbeaten.trans (Eq.symm (if_pos hsignalled))
    · rename_i f hbeats
      obtain ⟨g, hg, h⟩ := Option.map_eq_some_iff.mp h
      obtain ⟨-, rfl⟩ := Prod.mk.inj h
      obtain ⟨hstop, -, hcounted⟩ := tickHeartbeats_spec hbeats
      have hquiet : c.dllErrorManager.anySignalled
          ((c.overdueNodes timeUs).map .heartbeatTimeout) = false := hstop.symm
      obtain ⟨history, consumers, rfl⟩ := hcounted rfl
      have hdeadline := errorView_tickDeadline hg
      exact hdeadline.trans (Eq.symm (if_neg (Bool.eq_false_iff.mp hquiet)))
  · rw [hserver] at h hview
    obtain ⟨-, rfl⟩ := Prod.mk.inj (Option.some.inj h)
    dsimp only [Option.isNone]
    rw [if_neg Bool.false_ne_true, ErrorView.handled_nil]
    exact hview

/-! ### Received frames -/

omit [ObjectDictionaryStorage σ] in
theorem errorView_toggleExceptionFlag (c : CnContext σ) :
    c.toggleExceptionFlag.errorView = c.errorView := by
  unfold toggleExceptionFlag
  split_ifs
  · exact errorView_countError { c with enFlag := !c.enFlag, errorStatusChanged := false } 7
  · rfl

omit [ObjectDictionaryStorage σ] in
theorem errorView_answerSoa (c : CnContext σ) (soa : SoAFrame) :
    (c.answerSoa soa).2.errorView = c.errorView := by
  unfold answerSoa
  split
  · exact c.errorView_count 5
  · dsimp only [buildStatusResponse]
    split_ifs
    · exact c.errorView_count 5
    · refine (errorView_countError { c.count 5 with emergencyQueue := _ } 2).trans ?_
      exact c.errorView_count 5
  · split
    · rfl
    · exact errorView_count { c with pendingNmtRequests := _ } 5
  · split
    · rfl
    · exact errorView_count { c with sdoClient := _ } 7
  · rfl

omit [ObjectDictionaryStorage σ] in
/-- The TPDO is built from the dictionary. -/
theorem buildTpdoPayload_od {core core' : CoreNodeContext σ}
    {result : Except PowerlinkError (List UInt8 × PDOVersion)}
    (h : buildTpdoPayload core = some (result, core')) : core'.od = core.od := by
  unfold buildTpdoPayload at h
  dsimp only at h
  rcases applyTpdoMapping_cases (tpdoEntries core.od ((core.od.readU8 0x1A00 0).getD 0)) core
    (List.replicate (min (presPayloadLimit core.od) 1490) 0) with
    ⟨-, -, payload, core'', hmapping, -, hod⟩ | ⟨-, -, e, core'', hmapping, hod⟩ | ⟨-, -, hmapping⟩
  · rw [hmapping] at h
    rw [← (Prod.mk.inj (Option.some.inj h)).2, hod]
  · rw [hmapping] at h
    rw [← (Prod.mk.inj (Option.some.inj h)).2, hod]
  · rw [hmapping] at h
    cases h

omit [ObjectDictionaryStorage σ] in
theorem errorView_answer {c d : CnContext σ} {frame : PowerlinkFrame}
    {response : Option PowerlinkFrame} (h : c.answer frame = some (response, d)) :
    d.errorView = c.errorView := by
  unfold answer at h
  split_ifs at h
  · cases frame with
    | soA soa =>
        dsimp only at h
        split_ifs at h
        · rw [← c.errorView_answerSoa soa, Option.some.inj h]
        · rw [← (Prod.mk.inj (Option.some.inj h)).2]
    | pReq preq =>
        dsimp only at h
        split_ifs at h
        · obtain ⟨⟨frame', e⟩, he, h⟩ := Option.bind_eq_some_iff.mp h
          obtain ⟨-, rfl⟩ := Prod.mk.inj (Option.some.inj h)
          obtain ⟨⟨tpdo, core⟩, hbuild, he⟩ := Option.bind_eq_some_iff.mp he
          obtain ⟨-, rfl⟩ := Prod.mk.inj (Option.some.inj he)
          have hod : core.od = (c.count 3).core.od := buildTpdoPayload_od hbuild
          rw [← c.errorView_count 3]
          refine congrArg (ErrorView.mk c.dllErrorManager) (errorBit_congr ?_)
          rw [← hod]
        · rw [← (Prod.mk.inj (Option.some.inj h)).2]
    | _ => rw [← (Prod.mk.inj (Option.some.inj h)).2]
  · rw [← (Prod.mk.inj (Option.some.inj h)).2]

/-- The state in which the process data of an accepted frame is consumed. -/
def beforePdo (c : CnContext σ) (frame : PowerlinkFrame) (timeUs : ℕ) : Option (CnContext σ) :=
  let d := c.receiveFrame frame timeUs
  let r := d.dllStateMachine.processEvent (dllCnEvent frame) d.nmtState
  match handleDllErrors { d with dllStateMachine := r.2 } r.1 timeUs with
  | (true, _) => none
  | (false, d) => some d

/-- The NMT event of a frame and its process data leave the bit as it is. -/
structure AcceptedKeepsBit (c : CnContext σ) (frame : PowerlinkFrame) (timeUs : ℕ) : Prop where
  event : (c.receiveFrame frame timeUs).errorBit =
    (c.receiveCycleStart frame timeUs).errorBit
  processData : ∀ d e, c.beforePdo frame timeUs = some d → d.receivePdo frame = some e →
    e.errorBit = d.errorBit

theorem errorView_respondFrame {c d : CnContext σ} {frame : PowerlinkFrame} {action : NodeAction}
    (h : c.respondFrame frame = some (action, d))
    (hkeeps : ∀ e, c.receivePdo frame = some e → e.errorBit = c.errorBit) :
    d.errorView = c.errorView := by
  obtain ⟨e, hpdo, h⟩ := Option.bind_eq_some_iff.mp h
  obtain ⟨⟨response, f⟩, hanswer, h⟩ := Option.bind_eq_some_iff.mp h
  obtain ⟨-, rfl⟩ := Prod.mk.inj (Option.some.inj h)
  have hmanager : e.dllErrorManager = c.dllErrorManager :=
    congrArg Supervision.errors (supervision_receivePdo hpdo)
  rw [errorView_answer hanswer, errorView_toggleExceptionFlag]
  unfold errorView
  rw [hmanager, hkeeps e hpdo]

/-- An accepted frame: a SoC lowers the counts, and then the errors are counted. -/
theorem errorView_processAccepted {c d : CnContext σ} {frame : PowerlinkFrame} {timeUs : ℕ}
    {action : NodeAction} (h : c.processAccepted frame timeUs = some (action, d))
    (hkeeps : c.AcceptedKeepsBit frame timeUs) :
    d.errorView = (c.errorView.received frame).handled (c.frameErrors frame timeUs) := by
  obtain ⟨hevent, hpdo⟩ := hkeeps
  have hreceived : (c.receiveFrame frame timeUs).errorView = c.errorView.received frame := by
    have hraise : ∀ (e : CnContext σ) (event : Option NmtEvent),
        (e.raise event).dllErrorManager = e.dllErrorManager := by
      intro e event
      cases event with
      | none => rfl
      | some event => rfl
    have hcounters : (c.receiveFrame frame timeUs).dllErrorManager =
        (c.receiveCycleStart frame timeUs).dllErrorManager := by
      have hview : ((((c.receiveCycleStart frame timeUs).countReceived frame timeUs).receiveFlags
          frame).receiveNmtEvent frame).2.errorView =
          (c.receiveCycleStart frame timeUs).errorView := by
        rw [errorView_receiveNmtEvent, errorView_receiveFlags, errorView_countReceived]
      exact (hraise _ _).trans (congrArg ErrorView.counters hview)
    rw [← errorView_receiveCycleStart c frame timeUs]
    unfold errorView
    rw [hevent, hcounters]
  unfold processAccepted at h
  unfold beforePdo at hpdo
  unfold frameErrors
  dsimp only at h hpdo ⊢
  rw [← hreceived]
  generalize c.receiveFrame frame timeUs = e at h hpdo
  have hcycle : ∀ error ∈ (e.dllStateMachine.processEvent (dllCnEvent frame) e.nmtState).1,
      error.isCycleError = true :=
    fun error hmem => DllCsStateMachine.isCycleError_of_mem hmem
  generalize e.dllStateMachine.processEvent (dllCnEvent frame) e.nmtState = r at h hcycle hpdo ⊢
  split at h
  · rename_i f hstop
    obtain ⟨-, rfl⟩ := Prod.mk.inj (Option.some.inj h)
    have hview := errorView_handleDllErrors hcycle hstop
    exact hview
  · rename_i f hgo
    rw [hgo] at hpdo
    have hview := errorView_handleDllErrors hcycle hgo
    exact (errorView_respondFrame h fun g hg => hpdo f g rfl hg).trans hview

/-- The EN flag is toggled for a clearing. -/
theorem enFlag_processAccepted {c d : CnContext σ} {frame : PowerlinkFrame} {timeUs : ℕ}
    {action : NodeAction} (h : c.processAccepted frame timeUs = some (action, d))
    (hclears : c.clearsErrors frame = true) (hquiet : c.frameErrors frame timeUs = []) :
    d.enFlag = !c.enFlag := by
  cases frame with
  | soc soc =>
      have hsoc : c.resetsException (.soc soc) = false := rfl
      obtain ⟨machine, -, hreceived⟩ := c.signals_receiveFrame hsoc timeUs
      unfold processAccepted at h
      unfold frameErrors at hquiet
      dsimp only at h hquiet
      generalize c.receiveFrame (.soc soc) timeUs = e at h hquiet hreceived
      generalize e.dllStateMachine.processEvent (dllCnEvent (.soc soc)) e.nmtState = r at h hquiet
      rw [hquiet] at h
      dsimp only [handleDllErrors] at h
      rw [respondFrame_soc] at h
      obtain ⟨-, rfl⟩ := Prod.mk.inj (Option.some.inj h)
      have htoggled := signals_toggleExceptionFlag { e with dllStateMachine := r.2 }
      have hview : signals { e with dllStateMachine := r.2 } = { c.signals with
          machine := machine
          errorStatusChanged := c.errorStatusChanged || c.clearsErrors (.soc soc) } := hreceived
      rw [hview, hclears, Bool.or_true, SignalView.toggled_eq] at htoggled
      refine (congrArg SignalView.enFlag htoggled).trans ?_
      exact Bool.xor_true c.enFlag
  | _ => cases hclears

/-- The errors of a received frame. -/
def receivedErrors (c : CnContext σ) (frame : PowerlinkFrame) (timeUs : ℕ) : List DllError :=
  match frame with
  | .aSnd asnd =>
      if asnd.destination = c.nodeId ∧ asnd.serviceId ≠ .sdo then
        (c.count 4).frameErrors frame timeUs
      else []
  | _ => c.frameErrors frame timeUs

/-- A received frame writes the bit only through its errors. -/
def FrameKeepsBit (c : CnContext σ) (frame : PowerlinkFrame) (timeUs : ℕ) : Prop :=
  match frame with
  | .aSnd asnd =>
      asnd.destination = c.nodeId →
        if asnd.serviceId = .sdo then (c.receiveSdo asnd timeUs).2.errorBit = c.errorBit
        else (c.count 4).AcceptedKeepsBit frame timeUs
  | _ => c.AcceptedKeepsBit frame timeUs

theorem errorView_processFrame {c d : CnContext σ} {frame : PowerlinkFrame} {timeUs : ℕ}
    {action : NodeAction} (h : c.processFrame frame timeUs = some (action, d))
    (hkeeps : c.FrameKeepsBit frame timeUs) :
    d.errorView = (c.errorView.received frame).handled (c.receivedErrors frame timeUs) := by
  cases frame with
  | aSnd asnd =>
      dsimp only [processFrame] at h
      dsimp only [FrameKeepsBit] at hkeeps
      dsimp only [receivedErrors, ErrorView.received]
      by_cases hdest : asnd.destination = c.nodeId
      · have hkept := hkeeps hdest
        by_cases hsdo : asnd.serviceId = .sdo
        · rw [if_pos ⟨hdest, hsdo⟩] at h
          rw [if_pos hsdo] at hkept
          rw [if_neg fun hboth => hboth.2 hsdo, ErrorView.handled_nil]
          have hmanager : (c.receiveSdo asnd timeUs).2.dllErrorManager = c.dllErrorManager := by
            obtain ⟨core, hcore⟩ := c.receiveSdo_core asnd timeUs
            rw [hcore]
          rw [Option.some.inj h] at hkept hmanager
          unfold errorView
          rw [hkept, hmanager]
        · rw [if_neg fun hboth => hsdo hboth.2, if_pos hdest] at h
          rw [if_neg hsdo] at hkept
          rw [if_pos ⟨hdest, hsdo⟩, ← c.errorView_count 4]
          exact errorView_processAccepted h hkept
      · rw [if_neg fun hboth => hdest hboth.1, if_neg hdest] at h
        rw [if_neg fun hboth => hdest hboth.1, ErrorView.handled_nil]
        obtain ⟨-, rfl⟩ := Prod.mk.inj (Option.some.inj h)
        rfl
  | soc | pReq | pRes | soA => exact errorView_processAccepted h hkeeps

theorem enFlag_processFrame {c d : CnContext σ} {frame : PowerlinkFrame} {timeUs : ℕ}
    {action : NodeAction} (h : c.processFrame frame timeUs = some (action, d))
    (hclears : c.clearsErrors frame = true) (hquiet : c.receivedErrors frame timeUs = []) :
    d.enFlag = !c.enFlag := by
  cases frame with
  | soc soc => exact enFlag_processAccepted h hclears hquiet
  | _ => cases hclears

/-- A frame finds the register as it was. -/
theorem errorView_prepare (c : CnContext σ) (buffer : List UInt8) :
    (c.prepare buffer).errorView = c.errorView := by
  unfold prepare
  dsimp only
  split_ifs
  · rw [errorView_count, errorView_processNmtEvent c rfl]
  · exact c.errorView_processNmtEvent rfl
  · exact c.errorView_count 6
  · rfl

/-! ### One step -/

/-- The errors of a step that are for the counters. -/
def moveErrors (c : CnContext σ) : CnMove → List DllError
  | .receive input =>
      match input.ethernetFrame, input.frame with
      | some buffer, some frame => (c.prepare buffer).receivedErrors frame input.currentTimeUs
      | _, _ => []
  | .tick timeUs => c.tickErrors timeUs
  | _ => []

/-- A SoC of the step clears the last error. -/
def endsErrors (c : CnContext σ) : CnMove → Bool
  | .receive input => input.frame.elim false c.clearsErrors
  | _ => false

/-- An SDO request of the step, its NMT event and its process data leave the error bit as it is. -/
def KeepsErrorBit (c : CnContext σ) : CnMove → Prop
  | .receive input =>
      match input.ethernetFrame, input.frame with
      | some buffer, some frame => (c.prepare buffer).FrameKeepsBit frame input.currentTimeUs
      | _, _ => True
  | .datagram input => (c.receiveUdp input).2.errorBit = c.errorBit
  | _ => True

end errors

end CnContext

/-- The view after the SoC of a step. -/
def ErrorView.cycled (v : ErrorView) : CnMove → ErrorView
  | .receive input => input.frame.elim v v.received
  | _ => v

namespace CnContext

variable {σ : Type} [ObjectDictionaryStorage σ]

/-- What a step does to the bit and to the counters. -/
theorem move_errorView {c d : CnContext σ} {m : CnMove} {action : NodeAction}
    (h : c.move m = some (action, d)) (hkeeps : c.KeepsErrorBit m) :
    d.errorView = (c.errorView.cycled m).handled (c.moveErrors m) := by
  cases m with
  | receive input =>
      dsimp only [KeepsErrorBit] at hkeeps
      dsimp only [ErrorView.cycled, moveErrors]
      obtain ⟨buffer, frame, hbuffer, hframe, hprocess⟩ | ⟨hframe, -, hrest⟩ :=
        receiveEthernet_cases h
      · rw [hbuffer, hframe] at hkeeps ⊢
        have hview := errorView_processFrame hprocess hkeeps
        rw [errorView_prepare] at hview
        exact hview
      · have hview : d.errorView = c.errorView := by
          obtain ⟨-, rfl⟩ | ⟨buffer, -, rfl | rfl⟩ := hrest
          · rfl
          · exact c.errorView_prepare buffer
          · exact c.errorView_prepare buffer
        rw [hframe]
        cases input.ethernetFrame with
        | none => rw [hview, Option.elim_none, ErrorView.handled_nil]
        | some buffer => rw [hview, Option.elim_none, ErrorView.handled_nil]
  | datagram input =>
      have hreceived : c.receiveUdp input = (action, d) := Option.some.inj h
      have hbit : d.errorBit = c.errorBit := by
        rw [← show (c.receiveUdp input).2 = d by rw [hreceived]]
        exact hkeeps
      have hmanager : (c.receiveUdp input).2.dllErrorManager = c.dllErrorManager := by
        obtain ⟨core, hcore⟩ := c.receiveUdp_core input
        rw [hcore]
      rw [hreceived] at hmanager
      refine Eq.trans ?_ c.errorView.handled_nil.symm
      unfold errorView
      rw [hbit, hmanager]
  | tick timeUs => exact errorView_processTick h
  | queueSdoRequest payload | queueNmtRequest command target =>
      obtain ⟨-, rfl⟩ := Prod.mk.inj (Option.some.inj h)
      exact c.errorView.handled_nil.symm
  | configurationComplete =>
      obtain ⟨-, rfl⟩ := Prod.mk.inj (Option.some.inj h)
      exact (c.errorView_processNmtEvent rfl).trans c.errorView.handled_nil.symm

/-- A step that clears the last error and has no new one toggles the EN flag. -/
theorem move_enFlag {c d : CnContext σ} {m : CnMove} {action : NodeAction}
    (h : c.move m = some (action, d)) (hclears : c.endsErrors m = true)
    (hquiet : c.moveErrors m = []) : d.enFlag = !c.enFlag := by
  cases m with
  | receive input =>
      dsimp only [endsErrors] at hclears
      dsimp only [moveErrors] at hquiet
      obtain ⟨buffer, frame, hbuffer, hframe, hprocess⟩ | ⟨hframe, -, -⟩ :=
        receiveEthernet_cases h
      · rw [hframe] at hclears
        rw [hbuffer, hframe] at hquiet
        obtain ⟨machine, -, hsignals, -⟩ := c.signals_prepare buffer
        have hmanager : (c.prepare buffer).dllErrorManager = c.dllErrorManager :=
          congrArg ErrorView.counters (c.errorView_prepare buffer)
        have hsame : (c.prepare buffer).clearsErrors frame = c.clearsErrors frame := by
          cases frame with
          | soc soc =>
              dsimp only [clearsErrors]
              rw [hmanager]
          | _ => rfl
        rw [enFlag_processFrame hprocess (hsame.trans hclears) hquiet]
        exact congrArg (fun v => !v.enFlag) hsignals
      · rw [hframe] at hclears
        cases hclears
  | _ => cases hclears

end CnContext

end Powerlink
