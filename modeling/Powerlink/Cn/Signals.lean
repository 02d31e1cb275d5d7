import Powerlink.Cn.Events
import Powerlink.Frame.RoundTrip

/-! # The NMT state machine and the error signals

`SignalView` is what a controlled node tells of its errors: the EN flag, the pending change of the
error status and the emergency queue, together with the NMT state machine, which an error resets.
This module says for each section of `process_frame` what it does to the view.

An error that is counted to its threshold queues an entry and ends the call before the EN flag is
toggled (`signals_handleDllErrors`); the toggle follows with the next frame
(`signals_toggleExceptionFlag`). -/

namespace Powerlink

namespace CnNmtStateMachine

/-- The machine after an event; a reset ends in `NmtNotActive`. -/
def next (m : CnNmtStateMachine) (event : NmtEvent) : CnNmtStateMachine :=
  { m with
    currentState :=
      if MnNmtStateMachine.isReset event then .nmtNotActive else nextState m.currentState event }

/-- The machine does not depend on the dictionary. -/
theorem processEvent_next {σ : Type} [ObjectDictionaryStorage σ] (m : CnNmtStateMachine)
    (event : NmtEvent) (od : ObjectDictionary σ) : (m.processEvent event od).1 = m.next event := by
  unfold next
  by_cases hreset : MnNmtStateMachine.isReset event = true
  · rw [if_pos hreset]
    have hmachine : (NmtStateMachine.reset m event od).1 =
        { m with currentState := .nmtNotActive } := by
      cases event with
      | reset | swReset | resetNode | resetCommunication | resetConfiguration => rfl
      | _ => cases hreset
    unfold processEvent
    rw [if_pos hreset]
    dsimp only
    split_ifs
    · exact hmachine
    · exact hmachine
  · rw [if_neg hreset]
    exact m.processEvent_machine od (Bool.eq_false_iff.mpr hreset)

end CnNmtStateMachine

/-- What a controlled node tells of its errors, and its NMT state machine. -/
structure SignalView where
  machine : CnNmtStateMachine
  enFlag : Bool
  errorStatusChanged : Bool
  emergencyQueue : List ErrorEntry

namespace SignalView

/-- The event is handed to the machine. -/
def raised (v : SignalView) (event : NmtEvent) : SignalView :=
  { v with machine := v.machine.next event }

/-- An error reaches its threshold: its entry is queued where there is room, and the communication
is reset. -/
def failed (v : SignalView) (error : DllError) (timeUs : ℕ) : SignalView where
  machine := v.machine.next .error
  enFlag := v.enFlag
  errorStatusChanged := true
  emergencyQueue :=
    if v.emergencyQueue.length < CnContext.emergencyCapacity then
      v.emergencyQueue ++ [CnContext.errorEntry error timeUs]
    else v.emergencyQueue

/-- The ER flag clears the notice. -/
def cleared (v : SignalView) : SignalView := { v with enFlag := false, emergencyQueue := [] }

/-- A pending change toggles the EN flag. -/
def toggled (v : SignalView) : SignalView :=
  if v.errorStatusChanged then { v with enFlag := !v.enFlag, errorStatusChanged := false } else v

/-- Entries are taken from the queue. -/
def drained (v : SignalView) (n : ℕ) : SignalView :=
  { v with emergencyQueue := v.emergencyQueue.drop n }

end SignalView

/-- The errors of the cycle state machine. -/
def DllError.isCycleError : DllError → Bool
  | lossOfSoc | lossOfSoa | lossOfPreq | unexpectedEventInState .. => true
  | _ => false

theorem DllCsStateMachine.isCycleError_of_mem {machine : DllCsStateMachine} {event : DllCsEvent}
    {nmtState : NmtState} {error : DllError}
    (h : error ∈ (machine.processEvent event nmtState).1) : error.isCycleError = true := by
  have hcyclic : ∀ state, ∀ e ∈ (cyclic state event).1, e.isCycleError = true := by
    intro state
    cases state <;> cases event <;> decide
  unfold processEvent at h
  split at h
  · exact hcyclic _ error h
  · exact hcyclic _ error h
  · exact hcyclic _ error h
  · exact hcyclic _ error h
  · cases h

/-- An error of the cycle is signalled exactly where it resets the communication. -/
theorem CnErrorCounters.handleError_signalled (c : CnErrorCounters) {error : DllError}
    (h : error.isCycleError = true) :
    (c.handleError error).2.1 = decide ((c.handleError error).1 ≠ .none) := by
  have haction : ∀ reached : Bool, reached = decide (thresholdAction reached ≠ .none) := by decide
  cases error with
  | lossOfSoc | lossOfSoa | lossOfPreq => exact haction _
  | unexpectedEventInState => rfl
  | _ => cases h

namespace CnContext

variable {σ : Type}

/-- The view of a context. -/
def signals (c : CnContext σ) : SignalView where
  machine := c.nmtStateMachine
  enFlag := c.enFlag
  errorStatusChanged := c.errorStatusChanged
  emergencyQueue := c.emergencyQueue

/-! ### Up to the NMT event -/

/-- A SoC clears the last active error. -/
def clearsErrors (c : CnContext σ) : PowerlinkFrame → Bool
  | .soc _ => c.dllErrorManager.onCycleComplete.1
  | _ => false

/-- A SoA resets the notice of this node. -/
def resetsException (c : CnContext σ) : PowerlinkFrame → Bool
  | .soA soa => decide (soa.targetNodeId = c.nodeId) && soa.flags.er
  | _ => false

theorem signals_scheduleSocCheck (c : CnContext σ) (timeUs : ℕ) :
    (c.scheduleSocCheck timeUs).signals = c.signals := by
  unfold scheduleSocCheck
  split
  · rfl
  · dsimp only
    split_ifs
    · split
      · split_ifs
        · rfl
        · rfl
      · rfl
    · rfl

theorem signals_receiveCycleStart (c : CnContext σ) (frame : PowerlinkFrame) (timeUs : ℕ) :
    (c.receiveCycleStart frame timeUs).signals =
      { c.signals with errorStatusChanged := c.errorStatusChanged || c.clearsErrors frame } := by
  cases frame with
  | soc soc =>
      dsimp only [receiveCycleStart, receiveSoc, clearsErrors]
      rw [signals_scheduleSocCheck]
      dsimp only [completeCycle]
      have hmanager : (count { c.record (.socReceived timeUs c.nextTickUs) with
          lastSocReceptionTimeUs := timeUs, socTimeoutCheckActive := true } 1).dllErrorManager =
          c.dllErrorManager := rfl
      rw [hmanager]
      cases c.dllErrorManager.onCycleComplete.1 with
      | true =>
          rw [Bool.or_true]
          rfl
      | false =>
          rw [Bool.or_false]
          rfl
  | _ =>
      dsimp only [receiveCycleStart, clearsErrors]
      rw [Bool.or_false]
      rfl

theorem signals_countReceived (c : CnContext σ) (frame : PowerlinkFrame) (timeUs : ℕ) :
    (c.countReceived frame timeUs).signals = c.signals := by
  cases frame with
  | soA soa =>
      dsimp only [countReceived]
      split_ifs
      · rfl
      · rfl
  | _ => rfl

theorem signals_receiveFlags (c : CnContext σ) (frame : PowerlinkFrame) :
    (c.receiveFlags frame).signals =
      if c.resetsException frame then c.signals.cleared else c.signals := by
  cases frame with
  | soA soa =>
      dsimp only [receiveFlags, resetsException]
      simp only [Bool.and_eq_true, decide_eq_true_iff]
      split_ifs with htarget her hboth hboth hboth
      · rfl
      · exact absurd ⟨htarget, her⟩ hboth
      · exact absurd hboth.2 her
      · rfl
      · exact absurd hboth.1 htarget
      · rfl
  | _ => rfl

theorem signals_receiveNmtEvent (c : CnContext σ) (frame : PowerlinkFrame) :
    (c.receiveNmtEvent frame).2.signals = c.signals := by
  have hname : ∀ payload, (c.setHostName payload).signals = c.signals := by
    intro payload
    dsimp only [setHostName]
    split_ifs
    · rfl
    · split
      · rfl
      · rfl
  cases frame with
  | aSnd asnd =>
      dsimp only [receiveNmtEvent]
      split_ifs
      · unfold receiveNmtCommand
        split
        · rfl
        · split
          · rfl
          · split
            · exact hname _
            · rfl
      · rfl
  | _ => rfl

variable [ObjectDictionaryStorage σ]

theorem signals_processNmtEvent (c : CnContext σ) (event : NmtEvent) :
    (c.processNmtEvent event).signals = c.signals.raised event := by
  unfold processNmtEvent signals SignalView.raised
  dsimp only
  rw [c.nmtStateMachine.processEvent_next]

/-- The NMT event of the frame, if there is one. -/
theorem signals_raise (c : CnContext σ) (event : Option NmtEvent) :
    (c.raise event).signals = event.elim c.signals c.signals.raised := by
  cases event with
  | none => rfl
  | some event => exact c.signals_processNmtEvent event

/-! ### Errors of the cycle -/

omit [ObjectDictionaryStorage σ] in
theorem signals_countStaticChange (c : CnContext σ) : c.countStaticChange.signals = c.signals := by
  unfold countStaticChange
  split_ifs
  · rfl
  · rfl

omit [ObjectDictionaryStorage σ] in
theorem signals_queueEmergency (c : CnContext σ) (entry : ErrorEntry) :
    (c.queueEmergency entry).signals =
      { c.signals with
        emergencyQueue :=
          if c.signals.emergencyQueue.length < emergencyCapacity then
            c.signals.emergencyQueue ++ [entry]
          else c.signals.emergencyQueue } := by
  unfold queueEmergency
  split_ifs with hroom hroom' hroom'
  · rfl
  · exact absurd hroom hroom'
  · exact absurd hroom' hroom
  · rfl

omit [ObjectDictionaryStorage σ] in
theorem signals_signalError (c : CnContext σ) (error : DllError) (timeUs : ℕ) :
    (c.signalError error timeUs).signals =
      { c.signals.failed error timeUs with machine := c.nmtStateMachine } := by
  have hregister : ∀ (d : CnContext σ) value, (d.writeErrorRegister value).signals = d.signals :=
    fun _ _ => rfl
  unfold signalError
  dsimp only
  rw [signals_queueEmergency, hregister, signals_countStaticChange]
  rfl

theorem signals_resetAfterError (c : CnContext σ) :
    c.resetAfterError.signals = c.signals.raised .error :=
  c.signals_processNmtEvent .error

/-- An error of the cycle either is counted only, or it is signalled and ends the call. -/
theorem signals_handleDllError {c d : CnContext σ} {error : DllError} {timeUs : ℕ} {stop : Bool}
    (hcycle : error.isCycleError = true) (h : c.handleDllError error timeUs = (stop, d)) :
    d.signals = if stop then c.signals.failed error timeUs else c.signals := by
  have hsignalled := c.dllErrorManager.handleError_signalled hcycle
  dsimp only [handleDllError] at h
  have hmanager : (c.countError 1).dllErrorManager = c.dllErrorManager := rfl
  rw [hmanager] at h
  split_ifs at h with haction hflag hflag
  · obtain ⟨rfl, rfl⟩ := Prod.mk.inj h
    rw [signals_resetAfterError, signals_signalError]
    rfl
  · rw [hsignalled, decide_eq_true haction] at hflag
    exact absurd rfl hflag
  · rw [hsignalled, decide_eq_false haction] at hflag
    cases hflag
  · obtain ⟨rfl, rfl⟩ := Prod.mk.inj h
    rfl

/-- The first error that is signalled ends the call. -/
theorem signals_handleDllErrors {timeUs : ℕ} {stop : Bool} : ∀ {errors : List DllError}
    {c d : CnContext σ}, (∀ e ∈ errors, e.isCycleError = true) →
    c.handleDllErrors errors timeUs = (stop, d) →
    (stop = false ∧ d.signals = c.signals) ∨
      (stop = true ∧ ∃ error ∈ errors, d.signals = c.signals.failed error timeUs)
  | [], c, d, _, h => by
      obtain ⟨rfl, rfl⟩ := Prod.mk.inj h
      exact .inl ⟨rfl, rfl⟩
  | error :: errors, c, d, hcycle, h => by
      rw [List.forall_mem_cons] at hcycle
      rw [handleDllErrors] at h
      split at h
      · rename_i e he
        obtain ⟨rfl, rfl⟩ := Prod.mk.inj h
        exact .inr ⟨rfl, error, List.mem_cons_self, signals_handleDllError hcycle.1 he⟩
      · rename_i e he
        have hsame : e.signals = c.signals := signals_handleDllError hcycle.1 he
        rcases signals_handleDllErrors hcycle.2 h with ⟨hstop, hd⟩ | ⟨hstop, error', hmem, hd⟩
        · exact .inl ⟨hstop, hd.trans hsame⟩
        · rw [hsame] at hd
          exact .inr ⟨hstop, error', List.mem_cons_of_mem _ hmem, hd⟩

/-! ### Process data, the EN flag and the response -/

theorem signals_receivePdo {c d : CnContext σ} {frame : PowerlinkFrame}
    (h : c.receivePdo frame = some d) : d.signals = c.signals := by
  have hconsume : ∀ {source payload version ready},
      c.consumePdo source payload version ready = some d → d.signals = c.signals := by
    intro source payload version ready hd
    obtain ⟨r, -, hr⟩ := Option.bind_eq_some_iff.mp hd
    rw [← Option.some.inj hr]
    rfl
  cases frame with
  | pReq preq =>
      dsimp only [receivePdo] at h
      split_ifs at h
      · exact hconsume h
      · rw [Option.some.inj h]
  | pRes pres => exact hconsume h
  | _ => rw [Option.some.inj h]

omit [ObjectDictionaryStorage σ] in
theorem signals_toggleExceptionFlag (c : CnContext σ) :
    c.toggleExceptionFlag.signals = c.signals.toggled := by
  unfold toggleExceptionFlag SignalView.toggled
  split_ifs with hchanged hchanged' hchanged'
  · rfl
  · exact absurd hchanged hchanged'
  · exact absurd hchanged' hchanged
  · rfl

/-- The entries that a StatusResponse has room for. -/
def statusRoom (c : CnContext σ) : ℕ :=
  (((c.core.od.readU16 0x1F98 8).getD 300).toNat - 4 - (14 + 20)) / 20

/-- The response to a frame, and the view behind it: a PRes shows the EN flag, and a StatusResponse
takes the entries that it has room for. -/
inductive Answer (c : CnContext σ) (frame : PowerlinkFrame) :
    Option PowerlinkFrame → SignalView → Prop
  | silent : Answer c frame none c.signals
  | pres (preq : PReqFrame) (hframe : frame = .pReq preq) (mac : MacAddress) (nmtState : NmtState)
      (flags : PResFlags) (version : PDOVersion) (payload : List UInt8)
      (hflag : flags.en = c.enFlag) (hrs : flags.rs.value.toNat < 8) :
      Answer c frame (some (.pRes (.new mac c.nodeId nmtState flags version payload))) c.signals
  | status (soa : SoAFrame) (hframe : frame = .soA soa) (htarget : soa.targetNodeId = c.nodeId)
      (hservice : soa.reqServiceId = .statusRequest) :
      Answer c frame (some ((c.count 5).buildStatusResponse soa).1)
        (c.signals.drained (c.count 5).statusRoom)
  | other (soa : SoAFrame) (hframe : frame = .soA soa) (response : ASndFrame)
      (hservice : response.serviceId ≠ .statusResponse) :
      Answer c frame (some (.aSnd response)) c.signals

omit [ObjectDictionaryStorage σ] in
theorem signals_buildStatusResponse (c : CnContext σ) (soa : SoAFrame) :
    (c.buildStatusResponse soa).2.signals = c.signals.drained c.statusRoom := by
  dsimp only [buildStatusResponse]
  split_ifs
  · rfl
  · rfl

omit [ObjectDictionaryStorage σ] in
theorem answerSoa_spec (c : CnContext σ) {soa : SoAFrame} (htarget : soa.targetNodeId = c.nodeId) :
    Answer c (.soA soa) (c.answerSoa soa).1 (c.answerSoa soa).2.signals := by
  unfold answerSoa
  split
  · exact .other soa rfl _ (fun h => nomatch h)
  · rename_i hservice
    have hview : ((c.count 5).buildStatusResponse soa).2.signals =
        c.signals.drained (c.count 5).statusRoom := (c.count 5).signals_buildStatusResponse soa
    dsimp only
    rw [hview]
    exact .status soa rfl htarget hservice
  · split
    · exact .silent
    · exact .other soa rfl _ (fun h => nomatch h)
  · split
    · exact .silent
    · exact .other soa rfl _ (fun h => nomatch h)
  · exact .silent

omit [ObjectDictionaryStorage σ] in
theorem answer_spec {c d : CnContext σ} {frame : PowerlinkFrame} {response : Option PowerlinkFrame}
    (h : c.answer frame = some (response, d)) : Answer c frame response d.signals := by
  have hsilent : ∀ {r : Option PowerlinkFrame × CnContext σ}, some (none, c) = some r →
      Answer c frame r.1 r.2.signals := by
    rintro r hr
    obtain rfl := Option.some.inj hr
    exact .silent
  unfold answer at h
  split_ifs at h
  · cases frame with
    | soA soa =>
        dsimp only at h
        split_ifs at h with htarget
        · obtain ⟨hresponse, hd⟩ := Prod.mk.inj (Option.some.inj h)
          rw [← hresponse, ← hd]
          exact c.answerSoa_spec htarget.1
        · exact hsilent h
    | pReq preq =>
        dsimp only at h
        split_ifs at h
        · obtain ⟨⟨frame', e⟩, he, h⟩ := Option.bind_eq_some_iff.mp h
          obtain ⟨rfl, rfl⟩ := Prod.mk.inj (Option.some.inj h)
          obtain ⟨⟨tpdo, core⟩, -, he⟩ := Option.bind_eq_some_iff.mp he
          obtain ⟨rfl, rfl⟩ := Prod.mk.inj (Option.some.inj he)
          exact .pres preq rfl _ _ _ _ _ rfl (RSFlag.new_lt _)
        · exact hsilent h
    | _ => exact hsilent h
  · exact hsilent h

omit [ObjectDictionaryStorage σ] in
/-- No response touches the NMT state machine. -/
theorem Answer.machine {c : CnContext σ} {frame : PowerlinkFrame}
    {response : Option PowerlinkFrame} {v : SignalView} (h : Answer c frame response v) : v.machine = c.nmtStateMachine := by
  cases h <;> rfl

end CnContext

end Powerlink
