import Powerlink.Cn.HeartbeatAlarms
import Powerlink.Cn.Moves
import Powerlink.Node.StateCommands

/-! # What changes the NMT state of a controlled node

Every event that reaches the NMT state machine of a controlled node has a cause in the call: the
received frame, an error, a timeout, or the application itself.  `call_machine` gives the events of
a call with their causes, for every call.

A node enters `NmtOperational` only by an NMT command StartNode that is addressed to it, and
`NmtCsStopped` only by StopNode (`receives_of_entered`).  It leaves `NmtOperational` only by an error
or by another command that is addressed to it (`receives_of_left`).  The node id never changes. -/

namespace Powerlink

/-- The NMT event that a node takes from a frame. -/
inductive PowerlinkFrame.Hands (nodeId : NodeId) : PowerlinkFrame → NmtEvent → Prop
  | soc (soc : SocFrame) : Hands nodeId (.soc soc) .socReceived
  | soa (soa : SoAFrame) : Hands nodeId (.soA soa) .socSoAReceived
  | command (asnd : ASndFrame) (command : NmtStateCommand) (hdest : asnd.destination = nodeId)
      (hservice : asnd.serviceId = .nmtCommand)
      (hpayload : asnd.payload.head? = some command.toByte) :
      Hands nodeId (.aSnd asnd) (CnContext.commandEvent command)

/-- Why an event reaches the NMT state machine in a call; `changed` says that a change of the error
status is pending behind the call. -/
inductive CnCall.Causes (nodeId : NodeId) (changed : Bool) : CnCall → NmtEvent → Prop
  /-- The received frame has the event. -/
  | frame {input : CycleInput} {frame : PowerlinkFrame} {event : NmtEvent}
      (hinput : input.frame = some frame) (hhands : frame.Hands nodeId event) :
      Causes nodeId changed (.runCycle input) event
  /-- POWERLINK octets are received. -/
  | woken {input : CycleInput} (hpowerlink : input.powerlink ≠ none) :
      Causes nodeId changed (.runCycle input) .powerlinkFrameReceived
  /-- An error has reached its threshold, and is still to be shown. -/
  | error {input : CycleInput} (hchanged : changed = true) :
      Causes nodeId changed (.runCycle input) .error
  | timeout {input : CycleInput} : Causes nodeId changed (.runCycle input) .timeout
  | application : Causes nodeId changed .configurationComplete .cnConfigurationComplete

theorem CnCall.Causes.mono {nodeId : NodeId} {changed changed' : Bool} {call : CnCall}
    {event : NmtEvent} (hchanged : changed = true → changed' = true)
    (h : call.Causes nodeId changed event) : call.Causes nodeId changed' event := by
  cases h with
  | frame hinput hhands => exact .frame hinput hhands
  | woken hpowerlink => exact .woken hpowerlink
  | error herror => exact .error (hchanged herror)
  | timeout => exact .timeout
  | application => exact .application

theorem NmtStateCommand.toByte_of_tryFrom {octet : UInt8} {command : NmtStateCommand}
    (h : tryFrom octet = .ok command) : command.toByte = octet := by
  unfold tryFrom at h
  split_ifs at h with h₁ h₂ h₃ h₄ h₅ h₆ h₇ h₈
  · rw [h₁, ← Except.ok.inj h]
    rfl
  · rw [h₂, ← Except.ok.inj h]
    rfl
  · rw [h₃, ← Except.ok.inj h]
    rfl
  · rw [h₄, ← Except.ok.inj h]
    rfl
  · rw [h₅, ← Except.ok.inj h]
    rfl
  · rw [h₆, ← Except.ok.inj h]
    rfl
  · rw [h₇, ← Except.ok.inj h]
    rfl
  · rw [h₈, ← Except.ok.inj h]
    rfl

namespace CnNmtStateMachine

/-- The events that reach the machine, each with a cause. -/
abbrev MovedBy (causes : NmtEvent → Prop) (m m' : CnNmtStateMachine) : Prop :=
  Runs.LedBy next causes m m'

variable {causes : NmtEvent → Prop} {m m' : CnNmtStateMachine}

theorem nodeId_of_movedBy (h : MovedBy causes m m') : m'.nodeId = m.nodeId :=
  h.const nodeId (fun _ _ _ => rfl)

/-- The state that only the command leads to. -/
def entered : NmtStateCommand → Option NmtState
  | .startNode => some .nmtOperational
  | .stopNode => some .nmtCsStopped
  | _ => none

/-- Only the command leads to the state. -/
theorem next_entered {event : NmtEvent} {command : NmtStateCommand} {state : NmtState}
    (hcommand : entered command = some state) (h : (m.next event).currentState = state) :
    m.currentState = state ∨ event = CnContext.commandEvent command := by
  unfold next at h
  dsimp only at h
  cases command with
  | startNode =>
      obtain rfl := Option.some.inj hcommand
      split_ifs at h with hreset
      cases hstate : m.currentState <;> rw [hstate] at h <;> cases event <;>
        first | exact .inl rfl | exact .inr rfl | exact absurd h (by decide)
  | stopNode =>
      obtain rfl := Option.some.inj hcommand
      split_ifs at h with hreset
      cases hstate : m.currentState <;> rw [hstate] at h <;> cases event <;>
        first | exact .inl rfl | exact .inr rfl | exact absurd h (by decide)
  | _ => cases hcommand

/-- The events that lead out of `NmtOperational`. -/
def endsOperation : NmtEvent → Bool
  | .stopNode | .enterPreOperational2 | .error => true
  | event => MnNmtStateMachine.isReset event

theorem next_of_operational {event : NmtEvent} (hevent : endsOperation event = false)
    (h : m.currentState = .nmtOperational) : (m.next event).currentState = .nmtOperational := by
  unfold next
  dsimp only
  rw [h]
  cases event with
  | stopNode | enterPreOperational2 | error | reset | swReset | resetNode | resetCommunication
  | resetConfiguration => cases hevent
  | _ => rfl

end CnNmtStateMachine

namespace CnContext

variable {σ : Type} [ObjectDictionaryStorage σ]

open CnNmtStateMachine (MovedBy nodeId_of_movedBy)

/-! ### Received frames -/

omit [ObjectDictionaryStorage σ] in
/-- The event that is taken from a frame. -/
theorem hands_receiveNmtEvent (c : CnContext σ) {frame : PowerlinkFrame} {event : NmtEvent}
    (h : (c.receiveNmtEvent frame).1 = some event) : frame.Hands c.nodeId event := by
  cases frame with
  | soc soc =>
      obtain rfl := Option.some.inj h
      exact .soc soc
  | soA soa =>
      obtain rfl := Option.some.inj h
      exact .soa soa
  | aSnd asnd =>
      dsimp only [receiveNmtEvent] at h
      split_ifs at h with haddressed
      unfold receiveNmtCommand at h
      split at h
      · cases h
      · rename_i commandId hhead
        split at h
        · rename_i command hcommand
          obtain rfl := Option.some.inj h
          refine .command asnd command haddressed.1 haddressed.2 ?_
          rw [hhead, NmtStateCommand.toByte_of_tryFrom hcommand]
        · split at h
          · cases h
          · cases h
  | _ => cases h

omit [ObjectDictionaryStorage σ] in
theorem nodeId_receiveFlags (c : CnContext σ) (frame : PowerlinkFrame) (timeUs : ℕ) :
    (((c.receiveCycleStart frame timeUs).countReceived frame timeUs).receiveFlags frame).nodeId =
      c.nodeId := by
  have hcount : ((c.receiveCycleStart frame timeUs).countReceived frame timeUs).signals.machine =
      c.nmtStateMachine := by
    rw [signals_countReceived, signals_receiveCycleStart]
    rfl
  have hmachine : (((c.receiveCycleStart frame timeUs).countReceived frame
      timeUs).receiveFlags frame).signals.machine = c.nmtStateMachine := by
    rw [signals_receiveFlags]
    split_ifs
    · exact hcount
    · exact hcount
  exact congrArg CnNmtStateMachine.nodeId hmachine

/-- The events of a frame. -/
theorem hands_nmtEvents (c : CnContext σ) {frame : PowerlinkFrame} {timeUs : ℕ} {event : NmtEvent}
    (h : event ∈ c.nmtEvents frame timeUs) : frame.Hands c.nodeId event ∨ event = .error := by
  have haccepted : ∀ d : CnContext σ, d.nodeId = c.nodeId →
      event ∈ d.acceptedEvents frame timeUs → frame.Hands c.nodeId event ∨ event = .error := by
    intro d hnode hmem
    unfold acceptedEvents at hmem
    dsimp only at hmem
    obtain hmem | hmem := List.mem_append.mp hmem
    · left
      rw [← hnode, ← d.nodeId_receiveFlags frame timeUs]
      exact hands_receiveNmtEvent _ (Option.mem_toList.mp hmem)
    · right
      split_ifs at hmem
      · exact List.mem_singleton.mp hmem
      · cases hmem
  cases frame with
  | aSnd asnd =>
      dsimp only [nmtEvents] at h
      split_ifs at h
      · cases h
      · exact haccepted (c.count 4) rfl h
      · cases h
  | _ => exact haccepted c rfl h

/-- An error that resets the communication is still to be shown. -/
theorem changed_of_error {c d : CnContext σ} {frame : PowerlinkFrame} {timeUs : ℕ}
    {action : NodeAction} (h : c.processFrame frame timeUs = some (action, d))
    (herror : .error ∈ c.nmtEvents frame timeUs) : d.errorStatusChanged = true := by
  have haccepted : ∀ e : CnContext σ, e.processAccepted frame timeUs = some (action, d) →
      .error ∈ e.acceptedEvents frame timeUs → d.errorStatusChanged = true := by
    intro e he hmem
    have hfirst : ∀ event, event ∈ ((((e.receiveCycleStart frame timeUs).countReceived frame
        timeUs).receiveFlags frame).receiveNmtEvent frame).1.toList → event ≠ .error := by
      intro event hevent
      cases hands_receiveNmtEvent _ (Option.mem_toList.mp hevent) with
      | soc | soa => decide
      | command asnd command => cases command <;> decide
    unfold acceptedEvents at hmem
    dsimp only at hmem
    obtain hmem | hmem := List.mem_append.mp hmem
    · exact absurd rfl (hfirst _ hmem)
    · unfold processAccepted at he
      dsimp only at he
      have hcycle : ∀ error ∈ ((e.receiveFrame frame timeUs).dllStateMachine.processEvent
          (dllCnEvent frame) (e.receiveFrame frame timeUs).nmtState).1,
          error.isCycleError = true :=
        fun error herr => DllCsStateMachine.isCycleError_of_mem herr
      split at he
      · rename_i f hstop
        obtain ⟨-, rfl⟩ := Prod.mk.inj (Option.some.inj he)
        obtain ⟨hfalse, -⟩ | ⟨-, error, -, hsignals⟩ := signals_handleDllErrors hcycle hstop
        · cases hfalse
        · exact congrArg SignalView.errorStatusChanged hsignals
      · rename_i f hgo
        rw [hgo, if_neg Bool.false_ne_true] at hmem
        cases hmem
  cases frame with
  | aSnd asnd =>
      dsimp only [nmtEvents] at herror
      dsimp only [processFrame] at h
      split_ifs at h herror
      · cases herror
      · exact haccepted _ h herror
      · cases herror
  | _ => exact haccepted c h herror

theorem movedBy_prepare (c : CnContext σ) (changed : Bool) {input : CycleInput} {buffer : List UInt8}
    (h : input.powerlink = some buffer) :
    MovedBy (CnCall.Causes c.nodeId changed (.runCycle input)) c.nmtStateMachine
      (c.prepare buffer).nmtStateMachine := by
  have hcount : ∀ d : CnContext σ,
      (if d.isSdoForNode buffer then d.count 6 else d).nmtStateMachine = d.nmtStateMachine := by
    intro d
    split_ifs
    · rfl
    · rfl
  unfold prepare
  dsimp only
  rw [hcount]
  split_ifs
  · have hmachine := congrArg SignalView.machine (c.signals_processNmtEvent .powerlinkFrameReceived)
    change (c.processNmtEvent .powerlinkFrameReceived).nmtStateMachine = _ at hmachine
    rw [hmachine]
    exact .one _ (.woken (by rw [h]; exact Option.some_ne_none _)) _
  · exact .refl _ _ _

/-- The events of a received buffer. -/
theorem movedBy_receiveEthernet {c d : CnContext σ} {input : CycleInput} {action : NodeAction}
    (h : c.receiveEthernet input = some (action, d)) :
    MovedBy (CnCall.Causes c.nodeId d.errorStatusChanged (.runCycle input)) c.nmtStateMachine
      d.nmtStateMachine := by
  obtain ⟨buffer, frame, hbuffer, hframe, hprocess⟩ | ⟨-, -, hrest⟩ := receiveEthernet_cases h
  · have hpowerlink : input.powerlink = some buffer := by
      unfold CycleInput.frame at hframe
      rw [hbuffer] at hframe
      dsimp only at hframe
      split_ifs at hframe with hether
      rw [CycleInput.powerlink, hbuffer]
      exact if_pos hether
    have hprepared := c.movedBy_prepare d.errorStatusChanged hpowerlink
    refine hprepared.trans ⟨_, ?_, machine_processFrame hprocess⟩
    intro event hmem
    obtain hhands | rfl := hands_nmtEvents _ hmem
    · have hnode : (c.prepare buffer).nodeId = c.nodeId := nodeId_of_movedBy hprepared
      rw [hnode] at hhands
      exact .frame hframe hhands
    · exact .error (changed_of_error hprocess hmem)
  · obtain ⟨-, rfl⟩ | ⟨buffer, hpowerlink, rfl | rfl⟩ := hrest
    · exact .refl _ _ _
    · exact c.movedBy_prepare _ hpowerlink
    · exact c.movedBy_prepare _ hpowerlink

/-! ### The tick -/

/-- The events of a part of a tick, which forgets no change that is pending. -/
structure Ticks (nodeId : NodeId) (input : CycleInput) (c d : CnContext σ) : Prop where
  moved : MovedBy (CnCall.Causes nodeId d.errorStatusChanged (.runCycle input)) c.nmtStateMachine
    d.nmtStateMachine
  pending : c.errorStatusChanged = true → d.errorStatusChanged = true

variable {nodeId : NodeId} {input : CycleInput}

omit [ObjectDictionaryStorage σ] in
theorem ticks_of_signals {c d : CnContext σ} (h : d.signals = c.signals) :
    Ticks nodeId input c d := by
  have hmachine : d.nmtStateMachine = c.nmtStateMachine := congrArg SignalView.machine h
  have hchanged : d.errorStatusChanged = c.errorStatusChanged :=
    congrArg SignalView.errorStatusChanged h
  refine ⟨?_, fun hc => hchanged.trans hc⟩
  rw [hmachine]
  exact .refl _ _ _

omit [ObjectDictionaryStorage σ] in
/-- An error that reaches its threshold. -/
theorem ticks_of_error {c d : CnContext σ} (hmachine : d.nmtStateMachine = c.nmtStateMachine.next .error)
    (hchanged : d.errorStatusChanged = true) : Ticks nodeId input c d := by
  refine ⟨?_, fun _ => hchanged⟩
  rw [hmachine]
  exact .one _ (.error hchanged) _

theorem ticks_tickDeadline {c d : CnContext σ} {timeUs : ℕ} {nmtState : NmtState}
    (h : c.tickDeadline nmtState timeUs = some d) : Ticks nodeId input c d := by
  have hsame : ∀ {e : CnContext σ}, some e = some d → e.signals = c.signals →
      Ticks nodeId input c d := by
    intro e hd he
    exact ticks_of_signals (Option.some.inj hd ▸ he)
  dsimp only [tickDeadline] at h
  split at h
  · split_ifs at h
    · exact hsame h rfl
    · exact hsame h rfl
  · rename_i deadline hnext
    split_ifs at h with hearly hstate htimeout hactive
    · exact hsame h rfl
    · have hd : d.signals = c.signals.raised .timeout := by
        rw [← Option.some.inj h]
        exact signals_processNmtEvent { c with nextTickUs := none } .timeout
      have hmachine : d.nmtStateMachine = c.nmtStateMachine.next .timeout :=
        congrArg SignalView.machine hd
      have hchanged : d.errorStatusChanged = c.errorStatusChanged :=
        congrArg SignalView.errorStatusChanged hd
      refine ⟨?_, fun hc => hchanged.trans hc⟩
      rw [hmachine]
      exact .one _ .timeout _
    · exact hsame h rfl
    · dsimp only [deliverSocTimeout] at h
      have hcycle : ∀ error ∈ (c.dllStateMachine.processEvent .socTimeout nmtState).1,
          error.isCycleError = true :=
        fun error hmem => DllCsStateMachine.isCycleError_of_mem hmem
      split at h
      · rename_i e herrors
        obtain ⟨hfalse, -⟩ | ⟨-, error, -, hsignals⟩ := signals_handleDllErrors hcycle herrors
        · cases hfalse
        · rw [← Option.some.inj h]
          exact ticks_of_error (congrArg SignalView.machine hsignals)
            (congrArg SignalView.errorStatusChanged hsignals)
      · rename_i e herrors
        obtain ⟨-, hsignals⟩ | ⟨htrue, -⟩ := signals_handleDllErrors hcycle herrors
        · split_ifs at h
          · exact hsame rfl ((signals_rescheduleSocCheck h).trans hsignals)
          · exact hsame h hsignals
        · cases htrue
    · exact hsame h rfl

/-- The events of a tick. -/
theorem ticks_processTick {c d : CnContext σ} {timeUs : ℕ} {action : NodeAction}
    (h : c.processTick timeUs = some (action, d)) : Ticks nodeId input c d := by
  unfold processTick at h
  rcases hserver : c.tickSdoServer timeUs with ⟨_ | sent, e⟩
  · obtain ⟨⟨core, rfl⟩, -⟩ := tickSdoServer_moved hserver
    rw [hserver] at h
    dsimp only at h
    split at h
    · cases h
    · rename_i f hbeats
      obtain ⟨rfl, rfl⟩ := Prod.mk.inj (Option.some.inj h)
      obtain ⟨-, hsignals, -⟩ := tickHeartbeats_spec hbeats
      exact ticks_of_error (congrArg SignalView.machine (hsignals rfl))
        (congrArg SignalView.errorStatusChanged (hsignals rfl))
    · rename_i f hbeats
      obtain ⟨g, hg, h⟩ := Option.map_eq_some_iff.mp h
      obtain ⟨rfl, rfl⟩ := Prod.mk.inj h
      obtain ⟨-, -, hcounted⟩ := tickHeartbeats_spec hbeats
      obtain ⟨history, consumers, rfl⟩ := hcounted rfl
      obtain ⟨hmoved, hpending⟩ : Ticks nodeId input _ g := ticks_tickDeadline hg
      exact ⟨hmoved, hpending⟩
  · obtain ⟨⟨core, rfl⟩, -⟩ := tickSdoServer_moved hserver
    rw [hserver] at h
    obtain ⟨-, rfl⟩ := Prod.mk.inj (Option.some.inj h)
    exact ticks_of_signals rfl

/-! ### One call -/

/-- Every event of a call has a cause. -/
theorem call_machine {c d : CnContext σ} {call : CnCall} {action : NodeAction}
    (h : c.call call = some (action, d)) :
    MovedBy (call.Causes c.nodeId d.errorStatusChanged) c.nmtStateMachine d.nmtStateMachine := by
  cases call with
  | runCycle input =>
      obtain ⟨⟨a, r⟩, hethernet, h⟩ := Option.bind_eq_some_iff.mp h
      have hframe := movedBy_receiveEthernet hethernet
      have hudp := (r.receiveUdp_moved input).1
      have hdatagram : Ticks c.nodeId input r (r.receiveUdp input).2 := ticks_of_signals hudp
      have hthen : ∀ {e : CnContext σ}, Ticks c.nodeId input r e →
          MovedBy (CnCall.Causes c.nodeId e.errorStatusChanged (.runCycle input))
            c.nmtStateMachine e.nmtStateMachine :=
        fun he => (hframe.mono fun _ => .mono he.pending).trans he.moved
      dsimp only at h
      split_ifs at h
      · obtain ⟨-, rfl⟩ := Prod.mk.inj (Option.some.inj h)
        exact hframe
      · obtain ⟨-, rfl⟩ := Prod.mk.inj (Option.some.inj h)
        exact hthen hdatagram
      · have htick : Ticks c.nodeId input _ d := ticks_processTick h
        refine hthen ⟨?_, fun hr => htick.pending (hdatagram.pending hr)⟩
        have hmachine : (r.receiveUdp input).2.nmtStateMachine = r.nmtStateMachine :=
          congrArg SignalView.machine hudp
        rw [← hmachine]
        exact htick.moved
  | configurationComplete =>
      obtain ⟨-, rfl⟩ := Prod.mk.inj (Option.some.inj h)
      have hmachine : (c.processNmtEvent .cnConfigurationComplete).nmtStateMachine =
          c.nmtStateMachine.next .cnConfigurationComplete :=
        congrArg SignalView.machine (c.signals_processNmtEvent .cnConfigurationComplete)
      rw [hmachine]
      exact .one _ .application _
  | _ =>
      obtain ⟨-, rfl⟩ := Prod.mk.inj (Option.some.inj h)
      exact .refl _ _ _

/-- The node id stays the same. -/
theorem nodeId_call {c d : CnContext σ} {call : CnCall} {action : NodeAction}
    (h : c.call call = some (action, d)) : d.nodeId = c.nodeId :=
  nodeId_of_movedBy (call_machine h)

end CnContext

/-! ### When a node operates -/

/-- A new node is in `NmtNotActive`. -/
theorem ControlledNode.new_nmtState {σ : Type} [ObjectDictionaryStorage σ] {od : ObjectDictionary σ}
    {mac : MacAddress} {c : CnContext σ} (h : ControlledNode.new od mac = .ok c) :
    c.nmtState = .nmtNotActive := by
  dsimp only [ControlledNode.new] at h
  obtain ⟨-, -, h⟩ := bind_eq_ok_iff.mp h
  obtain ⟨-, -, h⟩ := bind_eq_ok_iff.mp h
  obtain ⟨machine, hmachine, h⟩ := bind_eq_ok_iff.mp h
  rw [← Except.ok.inj h]
  unfold NmtStateMachine.runInternalInitialisation
  have hcurrent : NmtStateMachine.currentState machine = .nmtGsInitialising :=
    CnNmtStateMachine.fromOd_currentState hmachine
  rw [if_neg (not_not.mpr hcurrent)]
  rfl

/-- The call receives an NMT state command for the node. -/
def CnReturned.Receives {σ : Type} (x : CnReturned σ) (command : NmtStateCommand) : Prop :=
  ∃ input asnd, x.call = .runCycle input ∧ input.frame = some (.aSnd asnd) ∧
    asnd.destination = x.before.nodeId ∧ asnd.serviceId = .nmtCommand ∧
    asnd.payload.head? = some command.toByte

namespace CnContext

variable {σ : Type} [ObjectDictionaryStorage σ] {c d : CnContext σ} {call : CnCall}
  {action : NodeAction}

omit [ObjectDictionaryStorage σ] in
theorem receives_of_causes {changed : Bool} {command : NmtStateCommand}
    (h : call.Causes c.nodeId changed (commandEvent command)) :
    (CnReturned.mk c call action d).Receives command := by
  generalize hevent : commandEvent command = event at h
  cases h with
  | @frame input frame event hinput hhands =>
      cases hhands with
      | command asnd command' hdest hservice hpayload =>
          have hsame : command' = command := by
            revert hevent
            cases command <;> cases command' <;> decide
          rw [hsame] at hpayload
          exact ⟨input, asnd, rfl, hinput, hdest, hservice, hpayload⟩
      | soc | soa => cases command <;> cases hevent
  | woken | error | timeout | application => cases command <;> cases hevent

/-- A call in which a node enters the state receives the command for it. -/
theorem receives_of_entered {command : NmtStateCommand} {state : NmtState}
    (hcommand : CnNmtStateMachine.entered command = some state)
    (h : c.call call = some (action, d)) (hbefore : c.nmtState ≠ state)
    (hafter : d.nmtState = state) : (CnReturned.mk c call action d).Receives command := by
  have hcause : d.nmtStateMachine.currentState = state →
      call.Causes c.nodeId d.errorStatusChanged (commandEvent command) := by
    refine (call_machine h).induct (fun m => m.currentState = state →
      call.Causes c.nodeId d.errorStatusChanged (commandEvent command))
      (fun hc => absurd hc hbefore) ?_
    intro m event hevent hm hnext
    obtain hstate | rfl := CnNmtStateMachine.next_entered hcommand hnext
    · exact hm hstate
    · exact hevent
  exact receives_of_causes (hcause hafter)

/-- A call in which a node stops operating receives a command that says so, or an error of it is
still to be shown. -/
theorem receives_of_left (h : c.call call = some (action, d))
    (hbefore : c.nmtState = .nmtOperational) (hafter : d.nmtState ≠ .nmtOperational) :
    d.errorStatusChanged = true ∨ ∃ command,
      CnNmtStateMachine.endsOperation (commandEvent command) = true ∧
        (CnReturned.mk c call action d).Receives command := by
  have hcause : d.nmtStateMachine.currentState = .nmtOperational ∨ ∃ event,
      CnNmtStateMachine.endsOperation event = true ∧
        call.Causes c.nodeId d.errorStatusChanged event := by
    refine (call_machine h).induct (fun m => m.currentState = .nmtOperational ∨ ∃ event,
      CnNmtStateMachine.endsOperation event = true ∧
        call.Causes c.nodeId d.errorStatusChanged event) (.inl hbefore) ?_
    intro m event hevent hm
    obtain hop | hcause := hm
    · cases hends : CnNmtStateMachine.endsOperation event with
      | true => exact .inr ⟨event, hends, hevent⟩
      | false => exact .inl (CnNmtStateMachine.next_of_operational hends hop)
    · exact .inr hcause
  obtain hop | ⟨event, hends, hevent⟩ := hcause
  · exact absurd hop hafter
  · cases hevent with
    | error hchanged => exact .inl hchanged
    | @frame input frame event hinput hhands =>
        right
        cases hhands with
        | command asnd command hdest hservice hpayload =>
            exact ⟨command, hends, input, asnd, rfl, hinput, hdest, hservice, hpayload⟩
        | soc | soa => cases hends
    | woken | timeout | application => cases hends

end CnContext

namespace CnRun

variable {σ : Type} [ObjectDictionaryStorage σ]

/-- A call has received the command, and since then the node was in the state before and after every
call. -/
def SinceCommand (r : CnRun σ) (command : NmtStateCommand) (state : NmtState) : Prop :=
  ∃ later x earlier, r.returned = later ++ x :: earlier ∧ x.Receives command ∧
    ∀ y ∈ later, y.before.nmtState = state ∧ y.after.nmtState = state

/-- The state was entered by its command. -/
theorem sinceCommand_throughout : Throughout (fun r : CnRun σ => ∀ command state,
    CnNmtStateMachine.entered command = some state → r.context.nmtState = state →
      r.SinceCommand command state) := by
  apply throughout_of_new
  · intro od mac c hc command state hcommand hstate
    have hnew : c.nmtState = state := hstate
    rw [ControlledNode.new_nmtState hc] at hnew
    subst hnew
    cases command <;> exact absurd hcommand (by decide)
  · intro r call action d hr hcall command state hcommand hstate
    by_cases hbefore : r.context.nmtState = state
    · obtain ⟨later, x, earlier, hreturned, hstart, hlater⟩ := hr command state hcommand hbefore
      refine ⟨_ :: later, x, earlier, congrArg (List.cons _) hreturned, hstart, ?_⟩
      exact List.forall_mem_cons.mpr ⟨⟨hbefore, hstate⟩, hlater⟩
    · exact ⟨[], _, r.returned, rfl, CnContext.receives_of_entered hcommand hcall hbefore hstate,
        List.forall_mem_nil _⟩

/-- A node is operational or stopped since a command for it said so, and it ceases to be operational
by a command for it or by an error that it still has to show. -/
structure OperatesByCommand (r : CnRun σ) : Prop where
  entered : ∀ command state, CnNmtStateMachine.entered command = some state →
    r.context.nmtState = state → r.SinceCommand command state
  left : ∀ x ∈ r.returned, x.before.nmtState = .nmtOperational →
    x.after.nmtState ≠ .nmtOperational → x.after.errorStatusChanged = true ∨
      ∃ command, CnNmtStateMachine.endsOperation (CnContext.commandEvent command) = true ∧
        x.Receives command

/-- The operation of a node has its causes in every run. -/
theorem operates_by_command : Throughout (fun r : CnRun σ => r.OperatesByCommand) := by
  have hleft : Throughout (fun r : CnRun σ => ∀ x ∈ r.returned,
      x.before.nmtState = .nmtOperational → x.after.nmtState ≠ .nmtOperational →
        x.after.errorStatusChanged = true ∨
          ∃ command, CnNmtStateMachine.endsOperation (CnContext.commandEvent command) = true ∧
            x.Receives command) := by
    apply throughout_of_new
    · intro od mac c _
      exact List.forall_mem_nil _
    · intro r call action d hr hcall
      refine List.forall_mem_cons.mpr ⟨?_, hr⟩
      intro hbefore hafter
      exact CnContext.receives_of_left hcall hbefore hafter
  exact (sinceCommand_throughout.and hleft).mono fun r hr => ⟨hr.1, hr.2⟩

end CnRun

end Powerlink
