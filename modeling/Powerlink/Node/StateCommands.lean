import Powerlink.Frame.RoundTrip
import Powerlink.Cn.Signals
import Powerlink.Cn.Node
import Powerlink.Mn.Config

/-! # NMT state commands from node to node

A managing node builds the frame of a state command, and a controlled node decodes it and hands the
event of the command to its NMT state machine.  `nmtEvents` are the events that the machine is
handed for a frame; `machine_processFrame` says that they are all that happens to it.

`state_command_received_iff`: the machine gets exactly the event of the command if and only if the
frame is addressed to the node itself, its MAC address is known, and the frame is not the loss of a
SoA that resets the communication as well.  A broadcast is dropped by every node. -/

namespace Powerlink

/-! ### The events of a frame -/

namespace CnContext

variable {σ : Type} [ObjectDictionaryStorage σ]

/-- The NMT events of `process_frame` after the sorting of the ASnd frames: the one of the frame,
and `Error` where an error of the data link layer ends the call. -/
def acceptedEvents (c : CnContext σ) (frame : PowerlinkFrame) (currentTimeUs : ℕ) :
    List NmtEvent :=
  let d := c.receiveCycleStart frame currentTimeUs
  let d := (d.countReceived frame currentTimeUs).receiveFlags frame
  let event := (d.receiveNmtEvent frame).1
  let d := c.receiveFrame frame currentTimeUs
  let r := d.dllStateMachine.processEvent (dllCnEvent frame) d.nmtState
  event.toList ++
    if (handleDllErrors { d with dllStateMachine := r.2 } r.1 currentTimeUs).1 then [.error] else []

/-- The NMT events of `process_frame`. -/
def nmtEvents (c : CnContext σ) (frame : PowerlinkFrame) (currentTimeUs : ℕ) : List NmtEvent :=
  match frame with
  | .aSnd asnd =>
      if asnd.destination = c.nodeId ∧ asnd.serviceId = .sdo then []
      else if asnd.destination = c.nodeId then (c.count 4).acceptedEvents frame currentTimeUs
      else []
  | _ => c.acceptedEvents frame currentTimeUs

theorem machine_receiveFrame (c : CnContext σ) (frame : PowerlinkFrame) (t : ℕ) :
    (c.receiveFrame frame t).nmtStateMachine =
      ((((c.receiveCycleStart frame t).countReceived frame t).receiveFlags frame).receiveNmtEvent
        frame).1.toList.foldl CnNmtStateMachine.next c.nmtStateMachine := by
  have hcount : ((c.receiveCycleStart frame t).countReceived frame t).signals.machine =
      c.nmtStateMachine := by
    rw [signals_countReceived, signals_receiveCycleStart]
    rfl
  have hflags : (((c.receiveCycleStart frame t).countReceived frame t).receiveFlags
      frame).signals.machine = c.nmtStateMachine := by
    rw [signals_receiveFlags]
    split_ifs
    · exact hcount
    · exact hcount
  unfold receiveFrame
  dsimp only
  generalize ((c.receiveCycleStart frame t).countReceived frame t).receiveFlags frame = d at hflags ⊢
  have hevent := congrArg SignalView.machine ((d.receiveNmtEvent frame).2.signals_raise
    (d.receiveNmtEvent frame).1)
  rw [signals_receiveNmtEvent] at hevent
  rw [← hflags]
  refine hevent.trans ?_
  cases (d.receiveNmtEvent frame).1 with
  | none => rfl
  | some event => rfl

theorem machine_respondFrame {c d : CnContext σ} {frame : PowerlinkFrame} {action : NodeAction}
    (h : c.respondFrame frame = some (action, d)) : d.nmtStateMachine = c.nmtStateMachine := by
  obtain ⟨e, he, h⟩ := Option.bind_eq_some_iff.mp h
  obtain ⟨⟨response, f⟩, hf, h⟩ := Option.bind_eq_some_iff.mp h
  obtain ⟨-, rfl⟩ := Prod.mk.inj (Option.some.inj h)
  have hanswer : f.nmtStateMachine = e.toggleExceptionFlag.nmtStateMachine :=
    (answer_spec hf).machine
  have htoggle : e.toggleExceptionFlag.signals.machine = e.signals.machine := by
    rw [signals_toggleExceptionFlag]
    unfold SignalView.toggled
    split_ifs
    · rfl
    · rfl
  have hpdo := congrArg SignalView.machine (signals_receivePdo he)
  exact (hanswer.trans htoggle).trans hpdo

theorem machine_processAccepted {c d : CnContext σ} {frame : PowerlinkFrame} {t : ℕ}
    {action : NodeAction} (h : c.processAccepted frame t = some (action, d)) :
    d.nmtStateMachine =
      (c.acceptedEvents frame t).foldl CnNmtStateMachine.next c.nmtStateMachine := by
  unfold acceptedEvents
  dsimp only
  rw [List.foldl_append, ← machine_receiveFrame]
  unfold processAccepted at h
  dsimp only at h
  generalize c.receiveFrame frame t = e at h ⊢
  have herrors : ∀ error ∈ (e.dllStateMachine.processEvent (dllCnEvent frame) e.nmtState).1,
      error.isCycleError = true :=
    fun error hmem => DllCsStateMachine.isCycleError_of_mem hmem
  generalize e.dllStateMachine.processEvent (dllCnEvent frame) e.nmtState = r at h herrors ⊢
  split at h
  · rename_i f hstop
    obtain ⟨-, rfl⟩ := Prod.mk.inj (Option.some.inj h)
    rw [hstop]
    obtain ⟨hfalse, -⟩ | ⟨-, error, -, hsignals⟩ := signals_handleDllErrors herrors hstop
    · cases hfalse
    · exact congrArg SignalView.machine hsignals
  · rename_i f hgo
    rw [hgo]
    obtain ⟨-, hsignals⟩ | ⟨htrue, -⟩ := signals_handleDllErrors herrors hgo
    · exact (machine_respondFrame h).trans (congrArg SignalView.machine hsignals)
    · cases htrue

/-- The events are all that happens to the NMT state machine. -/
theorem machine_processFrame {c d : CnContext σ} {frame : PowerlinkFrame} {t : ℕ}
    {action : NodeAction} (h : c.processFrame frame t = some (action, d)) :
    d.nmtStateMachine = (c.nmtEvents frame t).foldl CnNmtStateMachine.next c.nmtStateMachine := by
  cases frame with
  | aSnd asnd =>
      dsimp only [processFrame, nmtEvents] at h ⊢
      split_ifs at h ⊢
      · obtain ⟨-, rfl⟩ := Prod.mk.inj (Option.some.inj h)
        dsimp only [receiveSdo]
        split
        · rfl
        · split
          · rfl
          · rfl
      · exact machine_processAccepted h
      · obtain ⟨-, rfl⟩ := Prod.mk.inj (Option.some.inj h)
        rfl
  | _ => exact machine_processAccepted h

/-! ### State commands -/

/-- The errors that an ASnd frame is for the data link layer in the given NMT state reset the
communication. -/
def resetsOnAsnd (c : CnContext σ) (nmtState : NmtState) : Bool :=
  (c.dllStateMachine.processEvent .asnd nmtState).1.any
    (fun error => decide ((c.dllErrorManager.handleError error).1 ≠ .none))

/-- An ASnd frame is at most one error. -/
theorem processEvent_asnd (machine : DllCsStateMachine) (nmtState : NmtState) :
    (machine.processEvent .asnd nmtState).1 = [] ∨
      ∃ error, (machine.processEvent .asnd nmtState).1 = [error] := by
  obtain ⟨state⟩ := machine
  cases nmtState <;> cases state <;> first | exact .inl rfl | exact .inr ⟨_, rfl⟩

theorem handleDllErrors_asnd (c : CnContext σ) (machine : DllCsStateMachine) (nmtState : NmtState)
    (t : ℕ) :
    (handleDllErrors { c with dllStateMachine := machine }
      (c.dllStateMachine.processEvent .asnd nmtState).1 t).1 = c.resetsOnAsnd nmtState := by
  unfold resetsOnAsnd
  obtain hnil | ⟨error, hone⟩ := processEvent_asnd c.dllStateMachine nmtState
  · rw [hnil]
    rfl
  · rw [hone, List.any_cons, List.any_nil, Bool.or_false, handleDllErrors]
    have hfirst : (handleDllError { c with dllStateMachine := machine } error t).1 =
        decide ((c.dllErrorManager.handleError error).1 ≠ .none) := by
      dsimp only [handleDllError]
      have hmanager : (countError { c with dllStateMachine := machine } 1).dllErrorManager =
          c.dllErrorManager := rfl
      rw [hmanager]
      by_cases hnone : (c.dllErrorManager.handleError error).1 = .none
      · rw [if_neg (not_not.mpr hnone), decide_eq_false (not_not.mpr hnone)]
      · rw [if_pos hnone, decide_eq_true hnone]
    rw [← hfirst]
    rcases handleDllError { c with dllStateMachine := machine } error t with ⟨stop, d⟩
    cases stop <;> rfl

/-- The events of an NMT state command that is addressed to the node. -/
theorem nmtEvents_stateCommand (c : CnContext σ) (command : NmtStateCommand) {frame : ASndFrame}
    (hdest : frame.destination = c.nodeId) (hservice : frame.serviceId = .nmtCommand)
    (hpayload : frame.payload.head? = some command.toByte) (t : ℕ) :
    c.nmtEvents (.aSnd frame) t = commandEvent command ::
      if c.resetsOnAsnd (c.nmtStateMachine.next (commandEvent command)).currentState then [.error]
      else [] := by
  have hcommand : NmtStateCommand.tryFrom command.toByte = .ok command := by
    cases command <;> rfl
  have hsdo : ¬ (frame.destination = c.nodeId ∧ frame.serviceId = .sdo) := by
    rw [hservice]
    exact fun h => nomatch h.2
  have hevent : ∀ d : CnContext σ, d.nodeId = c.nodeId →
      d.receiveNmtEvent (.aSnd frame) = (some (commandEvent command), d) := by
    intro d hd
    dsimp only [receiveNmtEvent]
    rw [if_pos ⟨hdest.trans hd.symm, hservice⟩]
    unfold receiveNmtCommand
    rw [hpayload]
    dsimp only
    rw [hcommand]
  have hframe : (c.count 4).receiveFrame (.aSnd frame) t =
      (c.count 4).processNmtEvent (commandEvent command) := by
    unfold receiveFrame
    dsimp only [receiveCycleStart, countReceived, receiveFlags]
    rw [hevent (c.count 4) rfl]
    rfl
  have hstate : ((c.count 4).processNmtEvent (commandEvent command)).nmtState =
      (c.nmtStateMachine.next (commandEvent command)).currentState :=
    congrArg (fun v => v.machine.currentState)
      ((c.count 4).signals_processNmtEvent (commandEvent command))
  dsimp only [nmtEvents, acceptedEvents]
  rw [if_neg hsdo, if_pos hdest, hframe, hstate]
  dsimp only [receiveCycleStart, countReceived, receiveFlags]
  rw [hevent (c.count 4) rfl]
  exact congrArg (fun stop : Bool => commandEvent command :: if stop then [NmtEvent.error] else [])
    (handleDllErrors_asnd ((c.count 4).processNmtEvent (commandEvent command)) _ _ t)

/-- The other frames of a state command hand over something else. -/
theorem nmtEvents_foreign (c : CnContext σ) {frame : ASndFrame} (h : frame.destination ≠ c.nodeId)
    (t : ℕ) : c.nmtEvents (.aSnd frame) t = [] := by
  dsimp only [nmtEvents]
  rw [if_neg (fun h' => h h'.1), if_neg h]

/-- No ASnd frame makes the node panic. -/
theorem processFrame_asnd (c : CnContext σ) (frame : ASndFrame) (t : ℕ) :
    ∃ p, c.processFrame (.aSnd frame) t = some p := by
  dsimp only [processFrame]
  split_ifs
  · exact ⟨_, rfl⟩
  · unfold processAccepted
    dsimp only
    split
    · exact ⟨_, rfl⟩
    · rename_i d _
      have hanswer : d.toggleExceptionFlag.answer (.aSnd frame) =
          some (none, d.toggleExceptionFlag) := by
        unfold answer
        split_ifs
        · rfl
        · rfl
      unfold respondFrame
      dsimp only [receivePdo, bind, Option.bind]
      rw [hanswer]
      exact ⟨_, rfl⟩
  · exact ⟨_, rfl⟩

theorem head?_nmtEvents_soc (c : CnContext σ) (frame : SocFrame) (t : ℕ) :
    (c.nmtEvents (.soc frame) t).head? = some .socReceived := rfl

end CnContext

/-- The managing node sends the frame that it builds for the command, and the NMT state machine of
the controlled node that receives it gets the event of the command and nothing else. -/
def CommandReceived {σ τ : Type} [ObjectDictionaryStorage σ] (mn : MnContext τ) (c : CnContext σ)
    (command : NmtStateCommand) (target : NodeId) (currentTimeUs : ℕ) : Prop :=
  ∃ bytes frame action d,
    serializeFrameAction false (mn.buildNmtCommandFrame (.state command) target .none) =
      .ok (.sendFrame bytes) ∧
    deserializeFrame bytes = .ok frame ∧
    c.processFrame frame currentTimeUs = some (action, d) ∧
    c.nmtEvents frame currentTimeUs = [CnContext.commandEvent command] ∧
    d.nmtStateMachine = c.nmtStateMachine.next (CnContext.commandEvent command)

section

variable {σ τ : Type} [ObjectDictionaryStorage σ]

/-- The frame of a state command as its receiver sees it. -/
theorem wire_stateCommand {mn : MnContext τ} (command : NmtStateCommand) {target : NodeId}
    (h : mn.canCommand target = true) :
    ∃ bytes frame, serializeFrameAction false
        (mn.buildNmtCommandFrame (.state command) target .none) = .ok (.sendFrame bytes) ∧
      deserializeFrame bytes = .ok (.aSnd frame) ∧ frame.destination = target ∧
      frame.serviceId = .nmtCommand ∧ frame.payload.head? = some command.toByte := by
  obtain ⟨destMac, hmac⟩ : ∃ destMac,
      (if target = cAdrBroadcastNodeId then some cDllMulticastAsnd
        else mn.getCnMacAddress target) = some destMac := by
    unfold MnContext.canCommand at h
    split_ifs with hid
    · exact ⟨_, rfl⟩
    · rw [decide_eq_false hid, Bool.false_or] at h
      exact Option.isSome_iff_exists.mp h
  have hframe : mn.buildNmtCommandFrame (.state command) target .none =
      .aSnd (.new mn.core.macAddress destMac target cAdrMnDefNodeId .nmtCommand
        [command.toByte, 0]) := by
    unfold MnContext.buildNmtCommandFrame
    dsimp only
    rw [hmac]
    rfl
  rw [hframe]
  generalize hasnd : ASndFrame.new mn.core.macAddress destMac target cAdrMnDefNodeId .nmtCommand
    [command.toByte, 0] = asnd
  have hexact : (PowerlinkFrame.aSnd asnd).Exact := by
    rw [← hasnd]
    exact ⟨rfl, trivial⟩
  have hlen : (PowerlinkFrame.aSnd asnd).bytes.length ≤ 1504 := by
    have hsix : (PowerlinkFrame.aSnd asnd).bytes.length = 6 := by
      rw [← hasnd]
      rfl
    omega
  have hsent : serializeFrameAction false (.aSnd asnd) = _ := serializeFrameAction_eq rfl hlen
  have hdecoded := deserializeFrame_padPayload hexact
  refine ⟨_, _, hsent, hdecoded, ?_⟩
  -- the reserved octet is taken for padding, the command itself is not
  have hcommand : (receivedPayload [command.toByte, 0]).head? = some command.toByte := by
    cases command <;> decide
  rw [← hasnd]
  exact ⟨rfl, rfl, hcommand⟩

/-- Without the MAC address of its target a command becomes a SoC. -/
theorem wire_dummySoc {mn : MnContext τ} {command : NmtStateCommand} {target : NodeId}
    (h : mn.canCommand target = false) {bytes : List UInt8} {frame : PowerlinkFrame}
    (hbytes : serializeFrameAction false (mn.buildNmtCommandFrame (.state command) target .none) =
      .ok (.sendFrame bytes)) (hframe : deserializeFrame bytes = .ok frame) :
    ∃ soc, frame = .soc soc := by
  have hspec := mn.buildNmtCommandFrame_spec (.state command) target .none
  rw [h] at hspec
  rw [show mn.buildNmtCommandFrame (.state command) target .none = mn.dummySoc from hspec] at hbytes
  have hsent : serializeFrameAction false mn.dummySoc = .ok (.sendFrame
      (mn.dummySoc.ethernetHeader.bytes ++ padPayload mn.dummySoc.bytes)) :=
    serializeFrameAction_eq rfl (Nat.le_of_ble_eq_true rfl)
  obtain rfl := NodeAction.sendFrame.inj (Except.ok.inj (hsent.symm.trans hbytes))
  have hexact : mn.dummySoc.Exact := ⟨rfl, trivial⟩
  rw [deserializeFrame_padPayload hexact] at hframe
  exact ⟨_, (Except.ok.inj hframe).symm⟩

/-- The NMT state machine gets exactly the event of the command if and only if the frame is
addressed to the node itself, its MAC address is known, and the frame does not reset the
communication as well. -/
theorem state_command_received_iff (mn : MnContext τ) (c : CnContext σ) (command : NmtStateCommand)
    (target : NodeId) (currentTimeUs : ℕ) :
    CommandReceived mn c command target currentTimeUs ↔
      target = c.nodeId ∧ mn.canCommand target = true ∧
        c.resetsOnAsnd (c.nmtStateMachine.next (CnContext.commandEvent command)).currentState =
          false := by
  constructor
  · rintro ⟨bytes, frame, action, d, hbytes, hframe, -, hevents, -⟩
    cases hcan : mn.canCommand target with
    | false =>
        obtain ⟨soc, rfl⟩ := wire_dummySoc hcan hbytes hframe
        have hhead := c.head?_nmtEvents_soc soc currentTimeUs
        rw [hevents] at hhead
        cases command <;> cases hhead
    | true =>
        obtain ⟨bytes', asnd, hbytes', hasnd, hdest, hservice, hpayload⟩ :=
          wire_stateCommand command hcan
        obtain rfl := NodeAction.sendFrame.inj (Except.ok.inj (hbytes'.symm.trans hbytes))
        obtain rfl := Except.ok.inj (hasnd.symm.trans hframe)
        by_cases hid : target = c.nodeId
        · rw [c.nmtEvents_stateCommand command (hdest.trans hid) hservice hpayload] at hevents
          refine ⟨hid, rfl, ?_⟩
          by_contra hreset
          rw [Bool.not_eq_false] at hreset
          rw [hreset] at hevents
          cases hevents
        · rw [c.nmtEvents_foreign (fun h => hid (hdest.symm.trans h))] at hevents
          cases hevents
  · rintro ⟨hid, hcan, hreset⟩
    obtain ⟨bytes, asnd, hbytes, hasnd, hdest, hservice, hpayload⟩ :=
      wire_stateCommand command hcan
    have hevents := c.nmtEvents_stateCommand command (hdest.trans hid) hservice hpayload
      currentTimeUs
    rw [hreset, if_neg Bool.false_ne_true] at hevents
    obtain ⟨⟨action, d⟩, hprocess⟩ := c.processFrame_asnd asnd currentTimeUs
    have hmachine := CnContext.machine_processFrame hprocess
    rw [hevents] at hmachine
    exact ⟨bytes, .aSnd asnd, action, d, hbytes, hasnd, hprocess, hevents, hmachine⟩

end

/-- A managing node that knows the MAC address of node 1. -/
def commandingNode : MnContext Empty :=
  { MnContext.initial (.new none) ⟨0, 0, 0, 0, 0, 0xF0⟩ none
      ⟨.nmtOperational, cAdrMnDefNodeId, 0, 0, 0⟩ 1000 {} .empty with
    arpCache := SortedMap.empty.insert (ipFromNodeId ⟨1⟩) ⟨0, 0, 0, 0, 0, 1⟩ }

/-- Node 1, ready to operate. -/
def commandedNode : CnContext Empty :=
  .initial (.new none) ⟨0, 0, 0, 0, 0, 1⟩ ⟨.nmtReadyToOperate, ⟨1⟩, 0, 0⟩ .empty

/-- Node 1 is started by the command that is addressed to it. -/
theorem start_node_received : CommandReceived commandingNode commandedNode .startNode ⟨1⟩ 0 :=
  (state_command_received_iff commandingNode commandedNode .startNode ⟨1⟩ 0).mpr
    ⟨rfl, by decide, by decide⟩

/-- It is not started by the broadcast: the frame is on the wire and decoded, and no event
follows. -/
theorem broadcast_start_is_dropped :
    (∃ bytes frame, serializeFrameAction false (commandingNode.buildNmtCommandFrame
        (.state .startNode) cAdrBroadcastNodeId .none) = .ok (.sendFrame bytes) ∧
      deserializeFrame bytes = .ok frame ∧ commandedNode.nmtEvents frame 0 = []) ∧
      ¬ CommandReceived commandingNode commandedNode .startNode cAdrBroadcastNodeId 0 := by
  obtain ⟨bytes, asnd, hbytes, hasnd, hdest, -, -⟩ :=
    wire_stateCommand .startNode (show commandingNode.canCommand cAdrBroadcastNodeId = true from rfl)
  have hforeign : commandedNode.nmtEvents (.aSnd asnd) 0 = [] :=
    commandedNode.nmtEvents_foreign (by rw [hdest]; decide) 0
  refine ⟨⟨bytes, .aSnd asnd, hbytes, hasnd, hforeign⟩, ?_⟩
  rintro ⟨bytes', frame, action, d, hbytes', hframe, -, hevents, -⟩
  obtain rfl := NodeAction.sendFrame.inj (Except.ok.inj (hbytes.symm.trans hbytes'))
  obtain rfl := Except.ok.inj (hasnd.symm.trans hframe)
  rw [hforeign] at hevents
  cases hevents

end Powerlink
