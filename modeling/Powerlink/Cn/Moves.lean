import Powerlink.Mn.Boot
import Powerlink.Cn.Notices
import Powerlink.Cn.Runs
import Powerlink.Cn.Supervision

/-! # The steps of a controlled node

A call of the application is a sequence of steps (`call_eq_moves`): a received frame, a received
datagram, a tick, or one of the other methods.  A step that sends something is the last one of its
call.

`move_moved` gives for every step what it does to the flag that the node shows next and to its
emergency queue, and what it tells: the flag itself, or the entries that a report has room for.
A new error toggles the flag only if no change is pending; `reports` are the steps with such an error,
or with the end of the last one, and `resets` those with the ER flag. -/

namespace Powerlink

/-- Some of the errors is signalled, where every one is counted. -/
def CnErrorCounters.anySignalled : CnErrorCounters → List DllError → Bool
  | _, [] => false
  | c, error :: errors => (c.handleError error).2.1 || anySignalled (c.handleError error).2.2 errors

/-- The steps of the calls. -/
inductive CnMove where
  | receive (input : CycleInput)
  | datagram (input : CycleInput)
  | tick (timeUs : ℕ)
  | queueSdoRequest (payload : List UInt8)
  | queueNmtRequest (command : NmtStateCommand) (target : NodeId)
  | configurationComplete

/-- The received octets with the EtherType of POWERLINK. -/
def CycleInput.powerlink (input : CycleInput) : Option (List UInt8) :=
  input.ethernetFrame.filter MnContext.isPowerlinkBuffer

/-- The steps of a call. -/
def CnCall.moves : CnCall → List CnMove
  | runCycle input => [.receive input, .datagram input, .tick input.currentTimeUs]
  | queueSdoRequest payload => [.queueSdoRequest payload]
  | queueNmtRequest command target => [.queueNmtRequest command target]
  | configurationComplete => [.configurationComplete]

namespace CnContext

variable {σ : Type} [ObjectDictionaryStorage σ]

/-- One step. -/
def move (c : CnContext σ) : CnMove → Option (NodeAction × CnContext σ)
  | .receive input => c.receiveEthernet input
  | .datagram input => some (c.receiveUdp input)
  | .tick timeUs => c.processTick timeUs
  | .queueSdoRequest payload => c.call (.queueSdoRequest payload)
  | .queueNmtRequest command target => c.call (.queueNmtRequest command target)
  | .configurationComplete => c.call .configurationComplete

/-- The steps up to the first one that sends something. -/
def moves : CnContext σ → List CnMove → Option (NodeAction × CnContext σ)
  | c, [] => some (.noAction, c)
  | c, m :: ms => do
      let (action, c) ← c.move m
      if action ≠ .noAction then some (action, c) else c.moves ms

theorem moves_cons {c d : CnContext σ} {m : CnMove} {action : NodeAction}
    (h : c.move m = some (action, d)) (ms : List CnMove) :
    c.moves (m :: ms) = if action ≠ .noAction then some (action, d) else d.moves ms := by
  rw [moves, h]
  rfl

theorem moves_singleton (c : CnContext σ) (m : CnMove) : c.moves [m] = c.move m := by
  cases h : c.move m with
  | none =>
      rw [moves, h]
      rfl
  | some p =>
      obtain ⟨action, d⟩ := p
      rw [moves_cons h, moves]
      split_ifs with hsent
      · rfl
      · rw [not_not.mp hsent]

/-- A call is the sequence of its steps. -/
theorem call_eq_moves (c : CnContext σ) (call : CnCall) : c.call call = c.moves call.moves := by
  cases call with
  | runCycle input =>
      change c.runCycle input = c.moves (.receive input :: [.datagram input, .tick _])
      unfold runCycle
      cases h : c.receiveEthernet input with
      | none =>
          rw [moves]
          dsimp only [move]
          rw [h]
          rfl
      | some p =>
          obtain ⟨action, d⟩ := p
          have hmove : c.move (.receive input) = some (action, d) := h
          have hudp : d.move (.datagram input) =
              some ((d.receiveUdp input).1, (d.receiveUdp input).2) := rfl
          rw [moves_cons hmove, moves_cons hudp, moves_singleton]
          rfl
  | queueSdoRequest payload => exact (c.moves_singleton (.queueSdoRequest payload)).symm
  | queueNmtRequest command target =>
      exact (c.moves_singleton (.queueNmtRequest command target)).symm
  | configurationComplete => exact (c.moves_singleton .configurationComplete).symm

/-! ### Errors of a step -/

/-- The state in which a received frame finds the node. -/
def prepare (c : CnContext σ) (buffer : List UInt8) : CnContext σ :=
  let c := if c.nmtState = .nmtBasicEthernet then c.processNmtEvent .powerlinkFrameReceived else c
  if c.isSdoForNode buffer then c.count 6 else c

/-- The errors that an accepted frame is for the data link layer. -/
def frameErrors (c : CnContext σ) (frame : PowerlinkFrame) (timeUs : ℕ) : List DllError :=
  let d := c.receiveFrame frame timeUs
  (d.dllStateMachine.processEvent (dllCnEvent frame) d.nmtState).1

/-- An accepted frame changes the error status. -/
def acceptedReports (c : CnContext σ) (frame : PowerlinkFrame) (timeUs : ℕ) : Bool :=
  c.clearsErrors frame ||
    (c.receiveFrame frame timeUs).dllErrorManager.anySignalled (c.frameErrors frame timeUs)

/-- A frame changes the error status. -/
def frameReports (c : CnContext σ) (frame : PowerlinkFrame) (timeUs : ℕ) : Bool :=
  match frame with
  | .aSnd asnd =>
      decide (asnd.destination = c.nodeId) && decide (asnd.serviceId ≠ .sdo) &&
        (c.count 4).acceptedReports frame timeUs
  | _ => c.acceptedReports frame timeUs

/-- The nodes whose heartbeat is overdue. -/
def overdueNodes (c : CnContext σ) (timeUs : ℕ) : List NodeId :=
  if .nmtPreOperational2 ≤ c.nmtState then
    match (c.heartbeatConsumers.visit (visitHeartbeat timeUs) []).1 with
    | .ok nodeIds => nodeIds
    | .error _ => []
  else []

/-- The errors of a SoC timeout. -/
def socTimeoutErrors (c : CnContext σ) (timeUs : ℕ) : List DllError :=
  match c.nextTickUs with
  | none => []
  | some deadline =>
      if deadline ≤ timeUs ∧ c.nmtState ≠ .nmtNotActive ∧ c.socTimeoutCheckActive then
        (c.dllStateMachine.processEvent .socTimeout c.nmtState).1
      else []

/-- A tick changes the error status. -/
def tickReports (c : CnContext σ) (timeUs : ℕ) : Bool :=
  (c.tickSdoServer timeUs).1.isNone &&
    c.dllErrorManager.anySignalled
      ((c.overdueNodes timeUs).map .heartbeatTimeout ++ c.socTimeoutErrors timeUs)

/-- A step changes the error status: an error is signalled, or the last one ends. -/
def reports (c : CnContext σ) : CnMove → Bool
  | .receive input =>
      match input.ethernetFrame, input.frame with
      | some buffer, some frame => (c.prepare buffer).frameReports frame input.currentTimeUs
      | _, _ => false
  | .tick timeUs => c.tickReports timeUs
  | _ => false

/-- A step resets the notice of this node. -/
def resets (c : CnContext σ) : CnMove → Bool
  | .receive input => input.frame.elim false c.resetsException
  | _ => false

/-- A frame asks this node for a StatusResponse. -/
def asksStatus (c : CnContext σ) : PowerlinkFrame → Bool
  | .soA soa => decide (soa.targetNodeId = c.nodeId) && decide (soa.reqServiceId = .statusRequest)
  | _ => false

/-- A step asks this node for a StatusResponse. -/
def asks (c : CnContext σ) : CnMove → Bool
  | .receive input => input.frame.elim false c.asksStatus
  | _ => false

end CnContext

/-! ### What a step can do -/

namespace SignalView

/-- The EN flag that the node shows next. -/
def shown (v : SignalView) : Bool := v.enFlag ^^ v.errorStatusChanged

/-- The queue holds events, and not more of them than it has room for. -/
structure Sound (v : SignalView) : Prop where
  events : ∀ e ∈ v.emergencyQueue, e.IsEvent
  capacity : v.emergencyQueue.length ≤ CnContext.emergencyCapacity

/-- What a step does and tells, where `room` is the room of a StatusResponse. -/
inductive Change (v : SignalView) (room : ℕ) (reports asks : Bool) (w : SignalView) :
    List (Notices.Message ErrorEntry) → Prop
  | rest (hshown : w.shown = v.shown) (hqueue : w.emergencyQueue = v.emergencyQueue) :
      Change v room reports asks w []
  | flag (hshown : w.shown = v.shown) (hqueue : w.emergencyQueue = v.emergencyQueue) :
      Change v room reports asks w [.flag v.shown]
  | report (hasks : asks = true) (hshown : w.shown = v.shown)
      (hqueue : w.emergencyQueue = v.emergencyQueue.drop room) :
      Change v room reports asks w [.report (v.emergencyQueue.take room)]
  | raise (entries : List ErrorEntry) (hreports : reports = true) (hshown : w.shown = !v.shown)
      (hqueue : w.emergencyQueue = v.emergencyQueue ++ entries) (hsound : v.Sound → w.Sound) :
      Change v room reports asks w []

/-- A step of a node. -/
structure Moved (v : SignalView) (room : ℕ) (reports asks : Bool) (w : SignalView)
    (told : List (Notices.Message ErrorEntry)) : Prop where
  node : w.machine.nodeId = v.machine.nodeId
  change : Change v room reports asks w told

variable {v w : SignalView} {room : ℕ} {reports asks : Bool}
  {told : List (Notices.Message ErrorEntry)}

theorem Moved.sound (h : Moved v room reports asks w told) (hsound : v.Sound) : w.Sound := by
  obtain ⟨-, change⟩ := h
  cases change with
  | rest _ hqueue | flag _ hqueue => exact ⟨hqueue ▸ hsound.events, hqueue ▸ hsound.capacity⟩
  | report _ _ hqueue =>
      constructor
      · intro e he
        exact hsound.events e (List.mem_of_mem_drop (hqueue ▸ he))
      · rw [hqueue, List.length_drop]
        exact (Nat.sub_le _ _).trans hsound.capacity
  | raise _ _ _ _ hw => exact hw hsound

/-- What was pending is shown. -/
theorem toggled_eq (v : SignalView) :
    v.toggled = { v with enFlag := v.shown, errorStatusChanged := false } := by
  obtain ⟨machine, enFlag, changed, queue⟩ := v
  cases changed with
  | false =>
      unfold shown
      rw [Bool.xor_false]
      rfl
  | true =>
      unfold shown
      rw [Bool.xor_true]
      rfl

/-- The NMT state machine does not matter. -/
theorem Moved.of_machine {machine : CnNmtStateMachine} (hnode : machine.nodeId = v.machine.nodeId)
    (h : Moved { v with machine := machine } room reports asks w told) :
    Moved v room reports asks w told := by
  obtain ⟨node, change⟩ := h
  refine ⟨node.trans hnode, ?_⟩
  cases change with
  | rest hshown hqueue => exact .rest hshown hqueue
  | flag hshown hqueue => exact .flag hshown hqueue
  | report hasks hshown hqueue => exact .report hasks hshown hqueue
  | raise entries hreports hshown hqueue hw =>
      exact .raise entries hreports hshown hqueue (fun hs => hw ⟨hs.events, hs.capacity⟩)

/-- Nothing happens to the notices. -/
theorem moved_of_eq (machine : CnNmtStateMachine) (hnode : machine.nodeId = v.machine.nodeId) :
    Moved v room reports asks { v with machine := machine } [] :=
  ⟨hnode, .rest rfl rfl⟩

/-- An error that is signalled while no change is pending toggles the flag. -/
theorem moved_failed (hpending : v.errorStatusChanged = false) (hreports : reports = true)
    (machine : CnNmtStateMachine) (hnode : machine.nodeId = v.machine.nodeId) (changed : Bool)
    (error : DllError) (timeUs : ℕ) :
    Moved v room reports asks
      (failed { v with machine := machine, errorStatusChanged := changed } error timeUs) [] := by
  have hshown : ∀ queue, shown ⟨machine.next .error, v.enFlag, true, queue⟩ = !v.shown := by
    intro queue
    unfold shown
    rw [hpending, Bool.xor_true, Bool.xor_false]
  refine ⟨hnode, ?_⟩
  unfold failed
  dsimp only
  split_ifs with hroom
  · refine .raise [CnContext.errorEntry error timeUs] hreports (hshown _) rfl ?_
    intro hsound
    constructor
    · intro e he
      obtain he | he := List.mem_append.mp he
      · exact hsound.events e he
      · rw [List.mem_singleton.mp he]
        rfl
    · change (v.emergencyQueue ++ [_]).length ≤ _
      rw [List.length_append, List.length_singleton]
      exact hroom
  · refine .raise [] hreports (hshown _) (List.append_nil _).symm ?_
    exact fun hsound => ⟨hsound.events, hsound.capacity⟩

end SignalView

namespace CnContext

variable {σ : Type} [ObjectDictionaryStorage σ]

/-! ### The room of a StatusResponse -/

omit [ObjectDictionaryStorage σ] in
/-- The room is read from one object. -/
theorem statusRoom_congr {c d : CnContext σ}
    (h : d.core.od.read 0x1F98 8 = c.core.od.read 0x1F98 8) : d.statusRoom = c.statusRoom := by
  unfold statusRoom ObjectDictionary.readU16
  rw [h]

omit [ObjectDictionaryStorage σ] in
theorem statusRoom_countIn (c : CnContext σ) {index : UInt16} (h : index = 0x1101 ∨ index = 0x1102)
    (subIndex : UInt8) : (c.countIn index subIndex).statusRoom = c.statusRoom := by
  apply statusRoom_congr
  refine c.core.od.read_incrementCounter ?_ _ _
  rintro rfl
  revert h
  decide

theorem statusRoom_processNmtEvent (c : CnContext σ) {event : NmtEvent}
    (h : MnNmtStateMachine.isReset event = false) :
    (c.processNmtEvent event).statusRoom = c.statusRoom := by
  apply statusRoom_congr
  exact c.nmtStateMachine.read_processEvent c.core.od h (by decide) 8

/-! ### Errors of the data link layer -/

theorem dllErrorManager_handleDllError {c d : CnContext σ} {error : DllError} {timeUs : ℕ}
    {stop : Bool} (hcycle : error.isCycleError = true)
    (h : c.handleDllError error timeUs = (stop, d)) :
    stop = (c.dllErrorManager.handleError error).2.1 ∧
      (stop = false → d.dllErrorManager = (c.dllErrorManager.handleError error).2.2 ∧
        d.statusRoom = c.statusRoom) := by
  rw [c.dllErrorManager.handleError_signalled hcycle]
  have hsignalled := c.dllErrorManager.handleError_signalled hcycle
  have hmanager : (c.countError 1).dllErrorManager = c.dllErrorManager := rfl
  dsimp only [handleDllError] at h
  rw [hmanager] at h
  split_ifs at h with haction hflag hflag
  · rw [← (Prod.mk.inj h).1, decide_eq_true haction]
    exact ⟨rfl, nofun⟩
  · rw [← (Prod.mk.inj h).1, decide_eq_true haction]
    exact ⟨rfl, nofun⟩
  · rw [hsignalled, decide_eq_false haction] at hflag
    cases hflag
  · obtain ⟨rfl, rfl⟩ := Prod.mk.inj h
    rw [decide_eq_false haction]
    exact ⟨rfl, fun _ => ⟨rfl, c.statusRoom_countIn (.inr rfl) 1⟩⟩

/-- The first error that is signalled ends the call. -/
theorem handleDllErrors_stop {timeUs : ℕ} {stop : Bool} : ∀ {errors : List DllError}
    {c d : CnContext σ}, (∀ e ∈ errors, e.isCycleError = true) →
    c.handleDllErrors errors timeUs = (stop, d) →
    stop = c.dllErrorManager.anySignalled errors ∧
      (stop = false → d.statusRoom = c.statusRoom)
  | [], c, d, _, h => by
      obtain ⟨rfl, rfl⟩ := Prod.mk.inj h
      exact ⟨rfl, fun _ => rfl⟩
  | error :: errors, c, d, hcycle, h => by
      rw [List.forall_mem_cons] at hcycle
      rw [handleDllErrors] at h
      rw [CnErrorCounters.anySignalled]
      split at h
      · rename_i e he
        obtain ⟨rfl, rfl⟩ := Prod.mk.inj h
        rw [← (dllErrorManager_handleDllError hcycle.1 he).1]
        exact ⟨rfl, fun hgo => Bool.noConfusion hgo⟩
      · rename_i e he
        obtain ⟨hfirst, hnext⟩ := dllErrorManager_handleDllError hcycle.1 he
        obtain ⟨hmanager, hroom⟩ := hnext rfl
        obtain ⟨hstop, hrest⟩ := handleDllErrors_stop hcycle.2 h
        rw [← hfirst, Bool.false_or, ← hmanager]
        exact ⟨hstop, fun hgo => (hrest hgo).trans hroom⟩

/-! ### Received frames -/

/-- Up to the NMT event, only the end of the last error is noticed. -/
theorem signals_receiveFrame (c : CnContext σ) {frame : PowerlinkFrame}
    (hreset : c.resetsException frame = false) (timeUs : ℕ) :
    ∃ machine : CnNmtStateMachine, machine.nodeId = c.nodeId ∧
      (c.receiveFrame frame timeUs).signals = { c.signals with
        machine := machine
        errorStatusChanged := c.errorStatusChanged || c.clearsErrors frame } := by
  have hcount : ((c.receiveCycleStart frame timeUs).countReceived frame timeUs).signals =
      { c.signals with errorStatusChanged := c.errorStatusChanged || c.clearsErrors frame } := by
    rw [signals_countReceived, signals_receiveCycleStart]
  unfold receiveFrame
  dsimp only
  generalize (c.receiveCycleStart frame timeUs).countReceived frame timeUs = d at hcount ⊢
  have hnode : d.nodeId = c.nodeId := congrArg (fun v => v.machine.nodeId) hcount
  have hflags : (d.receiveFlags frame).signals = d.signals := by
    have hsame : d.resetsException frame = false := by
      cases frame with
      | soA soa =>
          dsimp only [resetsException] at hreset ⊢
          rwa [hnode]
      | _ => rfl
    rw [signals_receiveFlags, hsame]
    rfl
  rw [signals_raise, signals_receiveNmtEvent, hflags, hcount]
  cases ((d.receiveFlags frame).receiveNmtEvent frame).1 with
  | none => exact ⟨c.nmtStateMachine, rfl, rfl⟩
  | some event => exact ⟨c.nmtStateMachine.next event, rfl, rfl⟩

omit [ObjectDictionaryStorage σ] in
/-- A SoC is not answered. -/
theorem answer_soc (c : CnContext σ) (frame : SocFrame) : c.answer (.soc frame) = some (none, c) := by
  unfold answer
  split_ifs
  · rfl
  · rfl

/-- The room when a SoA is answered. -/
theorem statusRoom_receiveFrame_soa (c : CnContext σ) (soa : SoAFrame) (timeUs : ℕ) :
    (c.receiveFrame (.soA soa) timeUs).statusRoom = c.statusRoom := by
  have hcount : (c.countReceived (.soA soa) timeUs).statusRoom = c.statusRoom := by
    dsimp only [countReceived]
    split_ifs
    · exact (statusRoom_countIn _ (.inl rfl) 8).trans (c.statusRoom_countIn (.inl rfl) 4)
    · exact c.statusRoom_countIn (.inl rfl) 4
  have hflags : ∀ d : CnContext σ, (d.receiveFlags (.soA soa)).statusRoom = d.statusRoom := by
    intro d
    dsimp only [receiveFlags]
    split_ifs
    · exact statusRoom_countIn { d with enFlag := false, emergencyQueue := [] } (.inr rfl) 6
    · rfl
    · rfl
  have hraised := statusRoom_processNmtEvent ((c.countReceived (.soA soa) timeUs).receiveFlags
    (.soA soa)) (show MnNmtStateMachine.isReset .socSoAReceived = false from rfl)
  exact hraised.trans ((hflags _).trans hcount)

omit [ObjectDictionaryStorage σ] in
theorem statusRoom_toggleExceptionFlag (c : CnContext σ) :
    c.toggleExceptionFlag.statusRoom = c.statusRoom := by
  unfold toggleExceptionFlag
  split_ifs
  · exact statusRoom_countIn { c with enFlag := !c.enFlag, errorStatusChanged := false } (.inr rfl) 7
  · rfl

omit [ObjectDictionaryStorage σ] in
theorem asksStatus_congr {c d : CnContext σ} (h : d.nodeId = c.nodeId) (frame : PowerlinkFrame) :
    d.asksStatus frame = c.asksStatus frame := by
  cases frame with
  | soA soa =>
      dsimp only [asksStatus]
      rw [h]
  | _ => rfl

omit [ObjectDictionaryStorage σ] in
theorem resetsException_congr {c d : CnContext σ} (h : d.nodeId = c.nodeId)
    (frame : PowerlinkFrame) : d.resetsException frame = c.resetsException frame := by
  cases frame with
  | soA soa =>
      dsimp only [resetsException]
      rw [h]
  | _ => rfl

omit [ObjectDictionaryStorage σ] in
/-- The answer of a node without a pending change, where `v` is the view before the frame. -/
theorem answer_moved {c d : CnContext σ} {frame : PowerlinkFrame}
    {response : Option PowerlinkFrame} (h : c.answer frame = some (response, d))
    (hpending : c.errorStatusChanged = false) (hsound : c.signals.Sound) {v : SignalView} {room : ℕ}
    (hshown : c.enFlag = v.shown) (hqueue : c.emergencyQueue = v.emergencyQueue)
    (hnode : c.nodeId = v.machine.nodeId) (hroom : ∀ soa, frame = .soA soa → c.statusRoom = room)
    (reports : Bool) :
    v.Moved room reports (c.asksStatus frame) d.signals
      ((response.elim NodeAction.noAction respond).notices v.machine.nodeId) := by
  have hview : c.signals.shown = v.shown := by
    change (c.enFlag ^^ c.errorStatusChanged) = _
    rw [hpending, Bool.xor_false, hshown]
  have hsame : ∀ told, v.Change room reports (c.asksStatus frame) c.signals told →
      v.Moved room reports (c.asksStatus frame) c.signals told := fun told hchange => ⟨hnode, hchange⟩
  have hanswer := answer_spec h
  generalize d.signals = w at hanswer ⊢
  cases hanswer with
  | silent => exact hsame [] (.rest hview hqueue)
  | pres _ _ mac nmtState flags version payload hflag hrs =>
      have hen : flags.en = v.shown := hflag.trans hshown
      rw [← hnode]
      obtain hnone | htold := notices_respond_pRes mac c.nodeId nmtState hrs version payload
      · rw [Option.elim_some, hnone]
        exact hsame _ (.rest hview hqueue)
      · rw [Option.elim_some, htold, hen]
        exact hsame _ (.flag hview hqueue)
  | status soa hframe htarget hservice =>
      have htold := notices_respond_status (c.count 5) soa hsound.events hsound.capacity
      have hnode' : (c.count 5).nodeId = v.machine.nodeId := hnode
      have hqueue' : (c.count 5).emergencyQueue = v.emergencyQueue := hqueue
      have hroom' : (c.count 5).statusRoom = room :=
        (c.statusRoom_countIn (.inl rfl) 5).trans (hroom soa hframe)
      rw [Option.elim_some, ← hnode', htold, hqueue', hroom']
      refine ⟨hnode, .report ?_ hview ?_⟩
      · rw [hframe]
        change (decide (_ = _) && decide (_ = _)) = true
        rw [decide_eq_true htarget, decide_eq_true hservice]
        rfl
      · change c.emergencyQueue.drop room = _
        rw [hqueue]
  | other _ _ asnd hservice =>
      have htold : (respond (.aSnd asnd)).notices v.machine.nodeId = [] := by
        unfold respond
        split
        · rename_i action haction
          exact notices_asnd haction hservice _
        · rfl
      rw [Option.elim_some, htold]
      exact hsame _ (.rest hview hqueue)

/-- The end of `process_frame`, where the view is that of the beginning up to the machine. -/
theorem respondFrame_moved {c d : CnContext σ} {frame : PowerlinkFrame} {action : NodeAction}
    {v : SignalView} {room : ℕ} {machine : CnNmtStateMachine}
    (h : c.respondFrame frame = some (action, d)) (hview : c.signals = { v with machine := machine })
    (hsound : v.Sound) (hnode : machine.nodeId = v.machine.nodeId)
    (hroom : ∀ soa, frame = .soA soa → c.statusRoom = room) (reports : Bool) :
    v.Moved room reports (c.asksStatus frame) d.signals (action.notices v.machine.nodeId) := by
  obtain ⟨e, hpdo, h⟩ := Option.bind_eq_some_iff.mp h
  obtain ⟨⟨response, f⟩, hanswer, h⟩ := Option.bind_eq_some_iff.mp h
  obtain ⟨rfl, rfl⟩ := Prod.mk.inj (Option.some.inj h)
  have he : e.signals = { v with machine := machine } := (signals_receivePdo hpdo).trans hview
  have hroom' : ∀ soa, frame = .soA soa → e.toggleExceptionFlag.statusRoom = room := by
    rintro soa rfl
    obtain rfl := Option.some.inj hpdo
    exact (statusRoom_toggleExceptionFlag _).trans (hroom soa rfl)
  have htoggled : e.toggleExceptionFlag.signals =
      { v with machine := machine, enFlag := v.shown, errorStatusChanged := false } := by
    rw [signals_toggleExceptionFlag, he, SignalView.toggled_eq]
    rfl
  have hsound' : e.toggleExceptionFlag.signals.Sound := by
    rw [htoggled]
    exact ⟨hsound.events, hsound.capacity⟩
  have hnode' : e.toggleExceptionFlag.nodeId = machine.nodeId :=
    congrArg (fun v => v.machine.nodeId) htoggled
  have hasks : e.toggleExceptionFlag.asksStatus frame = c.asksStatus frame :=
    asksStatus_congr (hnode'.trans (congrArg (fun v => v.machine.nodeId) hview).symm) frame
  have hmoved := answer_moved hanswer (congrArg SignalView.errorStatusChanged htoggled) hsound'
    (congrArg SignalView.enFlag htoggled) (congrArg SignalView.emergencyQueue htoggled)
    (hnode'.trans hnode) hroom' reports
  rw [hasks] at hmoved
  cases response with
  | none => exact hmoved
  | some frame => exact hmoved

/-- A SoC only shows the flag that is pending. -/
theorem respondFrame_soc (c : CnContext σ) (frame : SocFrame) :
    c.respondFrame (.soc frame) = some (.noAction, c.toggleExceptionFlag) := by
  unfold respondFrame
  dsimp only [receivePdo, bind, Option.bind]
  rw [answer_soc]

/-- `process_frame` after the sorting of the ASnd frames. -/
theorem processAccepted_moved {c d : CnContext σ} {frame : PowerlinkFrame} {timeUs : ℕ}
    {action : NodeAction} (h : c.processAccepted frame timeUs = some (action, d))
    (hsound : c.signals.Sound) (hreset : c.resetsException frame = false)
    (hpending : c.acceptedReports frame timeUs = true → c.errorStatusChanged = false) :
    c.signals.Moved c.statusRoom (c.acceptedReports frame timeUs) (c.asksStatus frame) d.signals
      (action.notices c.nodeId) := by
  obtain ⟨machine, hnode, hreceived⟩ := c.signals_receiveFrame hreset timeUs
  have hroom : ∀ soa, frame = .soA soa →
      (c.receiveFrame frame timeUs).statusRoom = c.statusRoom := by
    rintro soa rfl
    exact c.statusRoom_receiveFrame_soa soa timeUs
  unfold processAccepted at h
  unfold acceptedReports frameErrors at hpending ⊢
  dsimp only at h hpending ⊢
  generalize c.receiveFrame frame timeUs = e at h hreceived hroom hpending ⊢
  have hcycle : ∀ error ∈ (e.dllStateMachine.processEvent (dllCnEvent frame) e.nmtState).1,
      error.isCycleError = true :=
    fun error hmem => DllCsStateMachine.isCycleError_of_mem hmem
  generalize e.dllStateMachine.processEvent (dllCnEvent frame) e.nmtState = r at h hcycle hpending ⊢
  split at h
  · rename_i f hstop
    obtain ⟨rfl, rfl⟩ := Prod.mk.inj (Option.some.inj h)
    have hsignalled : true = e.dllErrorManager.anySignalled r.1 := (handleDllErrors_stop hcycle hstop).1
    rw [← hsignalled, Bool.or_true] at hpending ⊢
    obtain ⟨hfalse, -⟩ | ⟨-, error, -, hsignals⟩ := signals_handleDllErrors hcycle hstop
    · cases hfalse
    · have hfailed : f.signals = SignalView.failed { c.signals with
          machine := machine
          errorStatusChanged := c.errorStatusChanged || c.clearsErrors frame } error timeUs := by
        rw [← hreceived]
        exact hsignals
      rw [hfailed]
      exact SignalView.moved_failed (hpending rfl) rfl machine hnode _ error timeUs
  · rename_i f hgo
    obtain ⟨hnone, hkept⟩ := handleDllErrors_stop hcycle hgo
    have hquiet : false = e.dllErrorManager.anySignalled r.1 := hnone
    rw [← hquiet, Bool.or_false] at hpending ⊢
    obtain ⟨-, hsignals⟩ | ⟨htrue, -⟩ := signals_handleDllErrors hcycle hgo
    · have hf : f.signals = { c.signals with
          machine := machine
          errorStatusChanged := c.errorStatusChanged || c.clearsErrors frame } :=
        hsignals.trans hreceived
      have hasks : f.asksStatus frame = c.asksStatus frame :=
        asksStatus_congr ((congrArg (fun v => v.machine.nodeId) hf).trans hnode) frame
      cases hclears : c.clearsErrors frame with
      | false =>
          rw [hclears, Bool.or_false] at hf
          rw [← hasks]
          refine respondFrame_moved h hf hsound hnode ?_ false
          exact fun soa hframe => (hkept rfl).trans (hroom soa hframe)
      | true =>
          -- only a SoC clears errors, and its answer is silence
          cases frame with
          | soc soc =>
              rw [respondFrame_soc] at h
              obtain ⟨rfl, rfl⟩ := Prod.mk.inj (Option.some.inj h)
              have hold : c.errorStatusChanged = false := hpending hclears
              rw [signals_toggleExceptionFlag, SignalView.toggled_eq, hf, hclears, Bool.or_true]
              refine ⟨hnode, .raise [] rfl ?_ (List.append_nil _).symm ?_⟩
              · change ((c.enFlag ^^ true) ^^ false) = !(c.enFlag ^^ c.errorStatusChanged)
                rw [hold, Bool.xor_true, Bool.xor_false, Bool.xor_false]
              · exact fun hs => ⟨hs.events, hs.capacity⟩
          | _ => cases hclears
    · cases htrue

/-- An SDO request is answered with SDO frames only. -/
theorem receiveSdo_moved (c : CnContext σ) (frame : ASndFrame) (timeUs : ℕ) :
    (c.receiveSdo frame timeUs).2.signals = c.signals ∧
      (c.receiveSdo frame timeUs).1.notices c.nodeId = [] := by
  dsimp only [receiveSdo]
  generalize (c.count 6).core.sdoServer.handleRequest frame.payload
    (.asnd frame.source frame.ethHeader.sourceMac) (c.count 6).core.od timeUs = r
  obtain ⟨result, server, od⟩ := r
  cases result with
  | error e => exact ⟨rfl, rfl⟩
  | ok response =>
      dsimp only
      split
      · rename_i action haction
        exact ⟨rfl, notices_asndBuildResponse haction _⟩
      · exact ⟨rfl, rfl⟩

theorem processFrame_moved {c d : CnContext σ} {frame : PowerlinkFrame} {timeUs : ℕ}
    {action : NodeAction} (h : c.processFrame frame timeUs = some (action, d))
    (hsound : c.signals.Sound) (hreset : c.resetsException frame = false)
    (hpending : c.frameReports frame timeUs = true → c.errorStatusChanged = false) :
    c.signals.Moved c.statusRoom (c.frameReports frame timeUs) (c.asksStatus frame) d.signals
      (action.notices c.nodeId) := by
  cases frame with
  | aSnd asnd =>
      dsimp only [processFrame] at h
      dsimp only [frameReports] at hpending ⊢
      split_ifs at h with hsdo hdest
      · obtain ⟨hsignals, htold⟩ := c.receiveSdo_moved asnd timeUs
        rw [Option.some.inj h] at hsignals htold
        rw [hsignals, htold]
        exact SignalView.moved_of_eq _ rfl
      · have hservice : asnd.serviceId ≠ .sdo := fun heq => hsdo ⟨hdest, heq⟩
        rw [decide_eq_true hdest, decide_eq_true hservice, Bool.true_and, Bool.true_and]
          at hpending ⊢
        have hmoved := processAccepted_moved h hsound rfl hpending
        have hroom : (c.count 4).statusRoom = c.statusRoom := c.statusRoom_countIn (.inl rfl) 4
        rw [hroom] at hmoved
        exact hmoved
      · obtain ⟨rfl, rfl⟩ := Prod.mk.inj (Option.some.inj h)
        exact SignalView.moved_of_eq _ rfl
  | soc | pReq | pRes | soA => exact processAccepted_moved h hsound hreset hpending

/-- A received frame finds the node with the same notices. -/
theorem signals_prepare (c : CnContext σ) (buffer : List UInt8) :
    ∃ machine : CnNmtStateMachine, machine.nodeId = c.nodeId ∧
      (c.prepare buffer).signals = { c.signals with machine := machine } ∧
      (c.prepare buffer).statusRoom = c.statusRoom := by
  have hwoken : ∃ machine : CnNmtStateMachine, machine.nodeId = c.nodeId ∧
      (if c.nmtState = .nmtBasicEthernet then c.processNmtEvent .powerlinkFrameReceived
        else c).signals = { c.signals with machine := machine } ∧
      (if c.nmtState = .nmtBasicEthernet then c.processNmtEvent .powerlinkFrameReceived
        else c).statusRoom = c.statusRoom := by
    split_ifs
    · exact ⟨c.nmtStateMachine.next .powerlinkFrameReceived, rfl, c.signals_processNmtEvent _,
        c.statusRoom_processNmtEvent rfl⟩
    · exact ⟨c.nmtStateMachine, rfl, rfl, rfl⟩
  obtain ⟨machine, hnode, hsignals, hroom⟩ := hwoken
  unfold prepare
  dsimp only
  refine ⟨machine, hnode, ?_⟩
  generalize (if c.nmtState = .nmtBasicEthernet then c.processNmtEvent .powerlinkFrameReceived
    else c) = e at hsignals hroom ⊢
  split_ifs
  · exact ⟨hsignals, (e.statusRoom_countIn (.inl rfl) 6).trans hroom⟩
  · exact ⟨hsignals, hroom⟩

/-- A received buffer is a frame that the node processes, or it is counted at most. -/
theorem receiveEthernet_cases {c d : CnContext σ} {input : CycleInput} {action : NodeAction}
    (h : c.receiveEthernet input = some (action, d)) :
    (∃ buffer frame, input.ethernetFrame = some buffer ∧ input.frame = some frame ∧
      (c.prepare buffer).processFrame frame input.currentTimeUs = some (action, d)) ∨
      input.frame = none ∧ action = .noAction ∧
        (input.powerlink = none ∧ d = c ∨
          ∃ buffer, input.powerlink = some buffer ∧
            (d = c.prepare buffer ∨ d = (c.prepare buffer).handleInvalidFormat)) := by
  unfold receiveEthernet at h
  unfold CycleInput.powerlink
  cases hbuffer : input.ethernetFrame with
  | none =>
      rw [hbuffer] at h
      obtain ⟨rfl, rfl⟩ := Prod.mk.inj (Option.some.inj h)
      refine .inr ⟨?_, rfl, .inl ⟨rfl, rfl⟩⟩
      rw [CycleInput.frame, hbuffer]
  | some buffer =>
      rw [hbuffer] at h
      dsimp only at h
      by_cases hpowerlink : MnContext.isPowerlinkBuffer buffer = true
      · rw [if_pos hpowerlink] at h
        have hinput : input.frame = (deserializeFrame buffer).toOption := by
          rw [CycleInput.frame, hbuffer]
          exact if_pos hpowerlink
        have hfilter : (some buffer).filter MnContext.isPowerlinkBuffer = some buffer :=
          if_pos hpowerlink
        rw [hinput, hfilter]
        unfold processEthernetFrame at h
        cases hframe : deserializeFrame buffer with
        | ok frame =>
            rw [hframe] at h
            exact .inl ⟨buffer, frame, rfl, rfl, h⟩
        | error e =>
            rw [hframe] at h
            refine .inr ⟨rfl, ?_⟩
            cases e with
            | invalidEthernetFrame =>
                obtain ⟨rfl, rfl⟩ := Prod.mk.inj (Option.some.inj h)
                exact ⟨rfl, .inr ⟨buffer, rfl, .inl rfl⟩⟩
            | _ =>
                obtain ⟨rfl, rfl⟩ := Prod.mk.inj (Option.some.inj h)
                exact ⟨rfl, .inr ⟨buffer, rfl, .inr rfl⟩⟩
      · rw [if_neg hpowerlink] at h
        obtain ⟨rfl, rfl⟩ := Prod.mk.inj (Option.some.inj h)
        refine .inr ⟨?_, rfl, .inl ⟨if_neg hpowerlink, rfl⟩⟩
        rw [CycleInput.frame, hbuffer]
        exact if_neg hpowerlink

theorem receive_moved {c d : CnContext σ} {input : CycleInput} {action : NodeAction}
    (h : c.move (.receive input) = some (action, d)) (hsound : c.signals.Sound)
    (hreset : c.resets (.receive input) = false)
    (hpending : c.reports (.receive input) = true → c.errorStatusChanged = false) :
    c.signals.Moved c.statusRoom (c.reports (.receive input)) (c.asks (.receive input)) d.signals
      (action.notices c.nodeId) := by
  obtain ⟨buffer, frame, hbuffer, hframe, hprocess⟩ | ⟨-, rfl, hrest⟩ := receiveEthernet_cases h
  · obtain ⟨machine, hnode, hsignals, hroom⟩ := c.signals_prepare buffer
    have hnode' : (c.prepare buffer).nodeId = c.nodeId :=
      (congrArg (fun v => v.machine.nodeId) hsignals).trans hnode
    have hreports : c.reports (.receive input) =
        (c.prepare buffer).frameReports frame input.currentTimeUs := by
      dsimp only [reports]
      rw [hbuffer, hframe]
    have hasks : c.asks (.receive input) = (c.prepare buffer).asksStatus frame := by
      dsimp only [asks]
      rw [hframe]
      exact (asksStatus_congr hnode' frame).symm
    have hreset' : (c.prepare buffer).resetsException frame = false := by
      dsimp only [resets] at hreset
      rw [hframe] at hreset
      rw [← hreset]
      exact resetsException_congr hnode' frame
    rw [hreports] at hpending ⊢
    rw [hasks]
    generalize c.prepare buffer = e at hprocess hsignals hroom hnode' hpending hreset' ⊢
    have hsound' : e.signals.Sound := by
      rw [hsignals]
      exact ⟨hsound.events, hsound.capacity⟩
    have hchanged : e.errorStatusChanged = c.errorStatusChanged :=
      congrArg SignalView.errorStatusChanged hsignals
    have hmoved := processFrame_moved hprocess hsound' hreset'
      (fun hr => hchanged.trans (hpending hr))
    rw [hroom, hnode', hsignals] at hmoved
    exact hmoved.of_machine hnode
  · -- a counted buffer changes the NMT state at most
    have hprepared : ∀ {e : CnContext σ} (buffer : List UInt8),
        e.signals = (c.prepare buffer).signals →
          c.signals.Moved c.statusRoom (c.reports (.receive input)) (c.asks (.receive input))
            e.signals [] := by
      intro e buffer he
      obtain ⟨machine, hnode, hsignals, -⟩ := c.signals_prepare buffer
      rw [he, hsignals]
      exact SignalView.moved_of_eq machine hnode
    obtain ⟨-, rfl⟩ | ⟨buffer, -, rfl | rfl⟩ := hrest
    · exact SignalView.moved_of_eq _ rfl
    · exact hprepared buffer rfl
    · exact hprepared buffer rfl

/-! ### The tick -/

omit [ObjectDictionaryStorage σ] in
/-- The timeouts of the SDO server. -/
theorem tickSdoServer_moved {c d : CnContext σ} {timeUs : ℕ} {action : Option NodeAction}
    (h : c.tickSdoServer timeUs = (action, d)) :
    (∃ core, d = { c with core := core }) ∧ ∀ a, action = some a → a.notices c.nodeId = [] := by
  dsimp only [tickSdoServer] at h
  generalize c.core.sdoServer.tick timeUs c.core.od = r at h
  obtain ⟨result, server⟩ := r
  split at h
  · dsimp only at h
    split at h
    · rename_i a hbuilt
      obtain ⟨rfl, rfl⟩ := Prod.mk.inj h
      refine ⟨⟨_, rfl⟩, ?_⟩
      intro b hb
      obtain rfl := Option.some.inj hb
      split at hbuilt
      · exact notices_asndBuildResponse hbuilt _
      · exact notices_udpBuildResponse hbuilt _
    · obtain ⟨rfl, rfl⟩ := Prod.mk.inj h
      exact ⟨⟨_, rfl⟩, nofun⟩
  · obtain ⟨rfl, rfl⟩ := Prod.mk.inj h
    exact ⟨⟨_, rfl⟩, nofun⟩

end CnContext

namespace CnErrorCounters

/-- The counters after a list of errors. -/
def counted (c : CnErrorCounters) (errors : List DllError) : CnErrorCounters :=
  errors.foldl (fun c error => (c.handleError error).2.2) c

theorem anySignalled_append (errors errors' : List DllError) : ∀ c : CnErrorCounters,
    c.anySignalled (errors ++ errors') =
      (c.anySignalled errors || (c.counted errors).anySignalled errors') := by
  induction errors with
  | nil => exact fun c => rfl
  | cons error errors ih =>
      intro c
      rw [List.cons_append, anySignalled, anySignalled, ih, Bool.or_assoc]
      rfl

end CnErrorCounters

namespace CnContext

variable {σ : Type} [ObjectDictionaryStorage σ]

/-- A heartbeat timeout that is signalled ends the tick. -/
theorem handleHeartbeatTimeout_spec {c d : CnContext σ} {nodeId : NodeId} {timeUs : ℕ} {stop : Bool}
    (h : c.handleHeartbeatTimeout nodeId timeUs = (stop, d)) :
    stop = (c.dllErrorManager.handleError (.heartbeatTimeout nodeId)).2.1 ∧
      (stop = true → d.signals = { c.signals with
        machine := c.nmtStateMachine.next .error
        errorStatusChanged := true }) ∧
      (stop = false → ∃ history, d = { c with
        dllErrorManager := (c.dllErrorManager.handleError (.heartbeatTimeout nodeId)).2.2
        history := history }) := by
  have hsignalled : (c.dllErrorManager.handleError (.heartbeatTimeout nodeId)).2.1 =
      decide ((c.dllErrorManager.handleError (.heartbeatTimeout nodeId)).1 ≠ .none) := by
    have haction : ∀ reached : Bool,
        reached = decide (CnErrorCounters.thresholdAction reached ≠ .none) := by decide
    exact haction _
  have hmanager : (c.record (.heartbeatTimedOut nodeId timeUs)).dllErrorManager =
      c.dllErrorManager := rfl
  dsimp only [handleHeartbeatTimeout] at h
  rw [hmanager] at h
  generalize c.dllErrorManager.handleError (.heartbeatTimeout nodeId) = r at h hsignalled ⊢
  split_ifs at h with haction hflag hregister hflag hregister
  · obtain ⟨rfl, rfl⟩ := Prod.mk.inj h
    rw [signals_resetAfterError]
    exact ⟨hflag.symm, fun _ => rfl, nofun⟩
  · obtain ⟨rfl, rfl⟩ := Prod.mk.inj h
    rw [signals_resetAfterError]
    exact ⟨hflag.symm, fun _ => rfl, nofun⟩
  · rw [hsignalled, decide_eq_true haction] at hflag
    exact absurd rfl hflag
  · rw [hsignalled, decide_eq_false haction] at hflag
    cases hflag
  · rw [hsignalled, decide_eq_false haction] at hflag
    cases hflag
  · obtain ⟨rfl, rfl⟩ := Prod.mk.inj h
    exact ⟨(Bool.eq_false_iff.mpr hflag).symm, nofun, fun _ => ⟨_, rfl⟩⟩

theorem handleHeartbeatTimeouts_spec {timeUs : ℕ} {stop : Bool} : ∀ {nodeIds : List NodeId}
    {c d : CnContext σ}, c.handleHeartbeatTimeouts nodeIds timeUs = (stop, d) →
    stop = c.dllErrorManager.anySignalled (nodeIds.map .heartbeatTimeout) ∧
      (stop = true → d.signals = { c.signals with
        machine := c.nmtStateMachine.next .error
        errorStatusChanged := true }) ∧
      (stop = false → ∃ history, d = { c with
        dllErrorManager := c.dllErrorManager.counted (nodeIds.map .heartbeatTimeout)
        history := history })
  | [], c, d, h => by
      obtain ⟨rfl, rfl⟩ := Prod.mk.inj h
      exact ⟨rfl, nofun, fun _ => ⟨_, rfl⟩⟩
  | nodeId :: nodeIds, c, d, h => by
      rw [handleHeartbeatTimeouts] at h
      rw [List.map_cons, CnErrorCounters.anySignalled]
      split at h
      · rename_i e he
        obtain ⟨rfl, rfl⟩ := Prod.mk.inj h
        obtain ⟨hfirst, hsignals, -⟩ := handleHeartbeatTimeout_spec he
        rw [← hfirst]
        exact ⟨rfl, hsignals, nofun⟩
      · rename_i e he
        obtain ⟨hfirst, -, hcounted⟩ := handleHeartbeatTimeout_spec he
        obtain ⟨history, rfl⟩ := hcounted rfl
        obtain ⟨hstop, hsignals, hrest⟩ := handleHeartbeatTimeouts_spec h
        rw [← hfirst, Bool.false_or]
        refine ⟨hstop, hsignals, ?_⟩
        intro hgo
        obtain ⟨history', rfl⟩ := hrest hgo
        exact ⟨history', rfl⟩

/-- The heartbeat check finds the nodes that are overdue. -/
theorem tickHeartbeats_spec {c d : CnContext σ} {timeUs : ℕ} {stop : Bool}
    (h : c.tickHeartbeats timeUs = some (stop, d)) :
    stop = c.dllErrorManager.anySignalled ((c.overdueNodes timeUs).map .heartbeatTimeout) ∧
      (stop = true → d.signals = { c.signals with
        machine := c.nmtStateMachine.next .error
        errorStatusChanged := true }) ∧
      (stop = false → ∃ history consumers, d = { c with
        dllErrorManager := c.dllErrorManager.counted
          ((c.overdueNodes timeUs).map .heartbeatTimeout)
        heartbeatConsumers := consumers
        history := history }) := by
  unfold tickHeartbeats at h
  unfold overdueNodes
  split_ifs at h ⊢ with hstate
  · split at h
    · cases h
    · rename_i nodeIds consumers hvisit
      rw [hvisit]
      obtain ⟨hstop, hsignals, hrest⟩ := handleHeartbeatTimeouts_spec (Option.some.inj h)
      refine ⟨hstop, hsignals, ?_⟩
      intro hgo
      obtain ⟨history, rfl⟩ := hrest hgo
      exact ⟨history, consumers, rfl⟩
  · obtain ⟨rfl, rfl⟩ := Prod.mk.inj (Option.some.inj h)
    exact ⟨rfl, nofun, fun _ => ⟨_, _, rfl⟩⟩

omit [ObjectDictionaryStorage σ] in
theorem signals_rescheduleSocCheck {c d : CnContext σ} {timeUs : ℕ}
    (h : c.rescheduleSocCheck timeUs = some d) : d.signals = c.signals := by
  obtain ⟨_, _, rfl⟩ := rescheduleSocCheck_frame h
  rfl

/-- The deadline of a tick, with the errors of a SoC timeout. -/
theorem tickDeadline_moved {c d : CnContext σ} {timeUs : ℕ}
    (h : c.tickDeadline c.nmtState timeUs = some d) {reports : Bool}
    (hreports : reports = c.dllErrorManager.anySignalled (c.socTimeoutErrors timeUs))
    (hpending : reports = true → c.errorStatusChanged = false) (room : ℕ) (asks : Bool) :
    c.signals.Moved room reports asks d.signals [] := by
  have hsame : ∀ {e : CnContext σ}, some e = some d → e.signals = c.signals →
      c.signals.Moved room reports asks d.signals [] := by
    intro e hd he
    rw [← Option.some.inj hd, he]
    exact SignalView.moved_of_eq _ rfl
  dsimp only [tickDeadline] at h
  unfold socTimeoutErrors at hreports
  split at h
  · split_ifs at h
    · exact hsame h rfl
    · exact hsame h rfl
  · rename_i deadline hnext
    rw [hnext] at hreports
    dsimp only at hreports
    split_ifs at h with hearly hstate htimeout hactive
    · exact hsame h rfl
    · have hd : d.signals = c.signals.raised .timeout := by
        rw [← Option.some.inj h]
        exact signals_processNmtEvent { c with nextTickUs := none } .timeout
      rw [hd]
      exact SignalView.moved_of_eq _ rfl
    · exact hsame h rfl
    · rw [if_pos ⟨not_lt.mp hearly, hstate, hactive⟩] at hreports
      dsimp only [deliverSocTimeout] at h
      have hcycle : ∀ error ∈ (c.dllStateMachine.processEvent .socTimeout c.nmtState).1,
          error.isCycleError = true :=
        fun error hmem => DllCsStateMachine.isCycleError_of_mem hmem
      split at h
      · rename_i e herrors
        have hstop := (handleDllErrors_stop hcycle herrors).1
        have hsignalled : reports = true := hreports.trans hstop.symm
        obtain ⟨hfalse, -⟩ | ⟨-, error, -, hsignals⟩ := signals_handleDllErrors hcycle herrors
        · cases hfalse
        · rw [← Option.some.inj h, hsignals]
          exact SignalView.moved_failed (hpending hsignalled) hsignalled c.nmtStateMachine rfl
            c.errorStatusChanged error timeUs
      · rename_i e herrors
        obtain ⟨-, hsignals⟩ | ⟨htrue, -⟩ := signals_handleDllErrors hcycle herrors
        · split_ifs at h
          · exact hsame rfl ((signals_rescheduleSocCheck h).trans hsignals)
          · exact hsame h hsignals
        · cases htrue
    · exact hsame h rfl

theorem tick_moved {c d : CnContext σ} {timeUs : ℕ} {action : NodeAction}
    (h : c.move (.tick timeUs) = some (action, d))
    (hpending : c.reports (.tick timeUs) = true → c.errorStatusChanged = false) :
    c.signals.Moved c.statusRoom (c.reports (.tick timeUs)) (c.asks (.tick timeUs)) d.signals
      (action.notices c.nodeId) := by
  change c.tickReports timeUs = true → _ at hpending
  change c.signals.Moved _ (c.tickReports timeUs) _ _ _
  change c.processTick timeUs = some (action, d) at h
  unfold processTick at h
  unfold tickReports at hpending ⊢
  rcases hserver : c.tickSdoServer timeUs with ⟨_ | sent, e⟩
  · obtain ⟨⟨core, rfl⟩, -⟩ := tickSdoServer_moved hserver
    rw [hserver] at h hpending
    dsimp only [Option.isNone] at h hpending ⊢
    rw [Bool.true_and, CnErrorCounters.anySignalled_append] at hpending ⊢
    split at h
    · cases h
    · rename_i f hbeats
      obtain ⟨rfl, rfl⟩ := Prod.mk.inj (Option.some.inj h)
      obtain ⟨hstop, hsignals, -⟩ := tickHeartbeats_spec hbeats
      have hsignalled : c.dllErrorManager.anySignalled
          ((c.overdueNodes timeUs).map .heartbeatTimeout) = true := hstop.symm
      rw [hsignalled, Bool.true_or] at hpending ⊢
      rw [hsignals rfl]
      refine ⟨rfl, .raise [] rfl ?_ (List.append_nil _).symm ?_⟩
      · change (c.enFlag ^^ true) = !(c.enFlag ^^ c.errorStatusChanged)
        rw [hpending rfl, Bool.xor_true, Bool.xor_false]
      · exact fun hs => ⟨hs.events, hs.capacity⟩
    · rename_i f hbeats
      obtain ⟨g, hg, h⟩ := Option.map_eq_some_iff.mp h
      obtain ⟨rfl, rfl⟩ := Prod.mk.inj h
      obtain ⟨hstop, -, hcounted⟩ := tickHeartbeats_spec hbeats
      have hquiet : c.dllErrorManager.anySignalled
          ((c.overdueNodes timeUs).map .heartbeatTimeout) = false := hstop.symm
      obtain ⟨history, consumers, rfl⟩ := hcounted rfl
      rw [hquiet, Bool.false_or] at hpending ⊢
      exact tickDeadline_moved hg rfl hpending _ _
  · obtain ⟨⟨core, rfl⟩, htold⟩ := tickSdoServer_moved hserver
    rw [hserver] at h
    obtain ⟨rfl, rfl⟩ := Prod.mk.inj (Option.some.inj h)
    rw [htold _ rfl]
    exact SignalView.moved_of_eq _ rfl

/-! ### One step -/

theorem processUdpDatagram_notices (c : CnContext σ) (buffer : List UInt8) (ip : IpAddress)
    (port : UInt16) (timeUs : ℕ) :
    (c.processUdpDatagram buffer ip port timeUs).1.notices c.nodeId = [] := by
  unfold processUdpDatagram
  split
  · rfl
  · dsimp only
    split
    · rfl
    · split
      · rename_i action haction
        exact notices_udpBuildResponse haction _
      · rfl

theorem receiveUdp_moved (c : CnContext σ) (input : CycleInput) :
    (c.receiveUdp input).2.signals = c.signals ∧
      (c.receiveUdp input).1.notices c.nodeId = [] := by
  constructor
  · obtain ⟨core, hcore⟩ := c.receiveUdp_core input
    rw [hcore]
    rfl
  · unfold receiveUdp
    split
    · rfl
    · rename_i buffer ip port _
      have htold := c.processUdpDatagram_notices buffer ip port input.currentTimeUs
      split
      · rfl
      · rename_i hdatagram
        rw [hdatagram] at htold
        exact htold

/-- What a step does to the notices of a node, where an error status only changes while no change is
pending and the ER flag is not used. -/
theorem move_moved {c d : CnContext σ} {m : CnMove} {action : NodeAction}
    (h : c.move m = some (action, d)) (hsound : c.signals.Sound) (hreset : c.resets m = false)
    (hpending : c.reports m = true → c.errorStatusChanged = false) :
    c.signals.Moved c.statusRoom (c.reports m) (c.asks m) d.signals (action.notices c.nodeId) := by
  cases m with
  | receive input => exact receive_moved h hsound hreset hpending
  | datagram input =>
      obtain ⟨hsignals, htold⟩ := c.receiveUdp_moved input
      have hreceived : c.receiveUdp input = (action, d) := Option.some.inj h
      rw [hreceived] at hsignals htold
      rw [hsignals, htold]
      exact SignalView.moved_of_eq _ rfl
  | tick timeUs => exact tick_moved h hpending
  | queueSdoRequest payload | queueNmtRequest command target =>
      obtain ⟨rfl, rfl⟩ := Prod.mk.inj (Option.some.inj h)
      exact SignalView.moved_of_eq _ rfl
  | configurationComplete =>
      obtain ⟨rfl, rfl⟩ := Prod.mk.inj (Option.some.inj h)
      rw [signals_processNmtEvent]
      exact SignalView.moved_of_eq _ rfl

end CnContext

end Powerlink
