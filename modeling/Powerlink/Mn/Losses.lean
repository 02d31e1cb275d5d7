import Powerlink.Mn.Commands
import Powerlink.Mn.Publishing

/-! # Lost PRes frames

A PRes that does not arrive in time is a loss if the data link layer waits for it.  A loss adds 8 to
the counter of the node; at 15 the node is set to `Missing`, a ResetNode is queued for it and the
counter is cleared.  The counters should lose 1 with every cycle, but `on_cycle_complete` of the
managing node has no caller: only the second loss clears the counter of the first.

`Suffers lost c d` says what a part of a call does to the counters, to the queued resets and to the
missing nodes when it loses the PRes of `lost`.  `losses_tolerated_iff` gives the account of any
stretch of a run: isolated losses reset no node exactly if none of them is the second one since the
counter of the node was clear, and of any two losses exactly one resets the node. -/

namespace Powerlink

namespace MnContext

variable {σ : Type}

/-- The command that resets a node. -/
def resetCommand (nodeId : NodeId) : NmtCommandEntry := (.state .resetNode, nodeId, .none)

/-- The counters of the lost PRes frames. -/
def lossCounters (c : MnContext σ) : SortedMap NodeId ThresholdCounter :=
  c.dllErrorManager.cnLossOfPres

/-- The resets that are queued for a node. -/
def resets (c : MnContext σ) (nodeId : NodeId) : ℕ :=
  c.pendingNmtCommands.count (resetCommand nodeId)

/-- The next loss of a node reaches the threshold. -/
def atThreshold (c : MnContext σ) (nodeId : NodeId) : Bool :=
  (MnErrorCounters.countFor c.lossCounters nodeId).1

/-- What happens when the PRes of `lost` is lost, or none. -/
structure Suffers (lost : Option NodeId) (c d : MnContext σ) : Prop where
  counters : d.lossCounters = match lost with
    | none => c.lossCounters
    | some nodeId => (MnErrorCounters.countFor c.lossCounters nodeId).2
  resets : ∀ nodeId, d.resets nodeId =
    c.resets nodeId + if lost = some nodeId ∧ c.atThreshold nodeId then 1 else 0
  missing : ∀ nodeId, d.nodeInfo.state nodeId = .missing →
    c.nodeInfo.state nodeId = .missing ∨ lost = some nodeId ∧ c.atThreshold nodeId

/-- No PRes is lost. -/
abbrev Spares (c d : MnContext σ) : Prop := Suffers none c d

/-- What the losses of a node are about. -/
def lossView (c : MnContext σ) :
    SortedMap NodeId ThresholdCounter × List NmtCommandEntry × NodeTable :=
  (c.lossCounters, c.pendingNmtCommands, c.nodeInfo)

section

variable {c d e : MnContext σ} {lost : Option NodeId}

theorem spares_of_view (h : d.lossView = c.lossView) : Spares c d where
  counters := congrArg Prod.fst h
  resets := by
    intro nodeId
    have hcommands : d.pendingNmtCommands = c.pendingNmtCommands := congrArg (fun v => v.2.1) h
    rw [MnContext.resets, hcommands, if_neg (fun hlost => nomatch hlost.1)]
    rfl
  missing := by
    intro nodeId hmissing
    have hnodes : d.nodeInfo = c.nodeInfo := congrArg (fun v => v.2.2) h
    exact .inl (hnodes ▸ hmissing)

theorem Spares.refl (c : MnContext σ) : Spares c c := spares_of_view rfl

theorem Spares.resets_eq (h : Spares c d) (nodeId : NodeId) : d.resets nodeId = c.resets nodeId := by
  rw [h.resets, if_neg (fun hlost => nomatch hlost.1), Nat.add_zero]

theorem Spares.missing_of (h : Spares c d) {nodeId : NodeId}
    (hmissing : d.nodeInfo.state nodeId = .missing) : c.nodeInfo.state nodeId = .missing := by
  obtain hmissing | ⟨hlost, -⟩ := h.missing nodeId hmissing
  · exact hmissing
  · cases hlost

theorem Spares.atThreshold (h : Spares c d) (nodeId : NodeId) :
    d.atThreshold nodeId = c.atThreshold nodeId := by
  have hcounters : d.lossCounters = c.lossCounters := h.counters
  rw [MnContext.atThreshold, hcounters]
  rfl

theorem Suffers.then_spares (h : Suffers lost c d) (h' : Spares d e) : Suffers lost c e where
  counters := h'.counters.trans h.counters
  resets := fun nodeId => (h'.resets_eq nodeId).trans (h.resets nodeId)
  missing := fun nodeId hmissing => h.missing nodeId (h'.missing_of hmissing)

theorem Spares.then_suffers (h : Spares c d) (h' : Suffers lost d e) : Suffers lost c e where
  counters := by
    have hcounters : d.lossCounters = c.lossCounters := h.counters
    rw [h'.counters, hcounters]
  resets := by
    intro nodeId
    rw [h'.resets, h.resets_eq, h.atThreshold]
  missing := by
    intro nodeId hmissing
    obtain hmissing | hlost := h'.missing nodeId hmissing
    · exact .inl (h.missing_of hmissing)
    · exact .inr (h.atThreshold nodeId ▸ hlost)

theorem Spares.trans (h : Spares c d) (h' : Spares d e) : Spares c e := Suffers.then_spares h h'

/-- Commands other than resets are queued. -/
theorem spares_queue (c : MnContext σ) {queued : List NmtCommandEntry}
    (h : ∀ command ∈ queued, command.1 ≠ .state .resetNode) :
    Spares c { c with pendingNmtCommands := c.pendingNmtCommands ++ queued } where
  counters := rfl
  resets := by
    intro nodeId
    have hnone : queued.count (resetCommand nodeId) = 0 :=
      List.count_eq_zero.mpr (fun hmem => h _ hmem rfl)
    rw [MnContext.resets, List.count_append, hnone, if_neg (fun hlost => nomatch hlost.1)]
    rfl
  missing := fun _ => .inl

/-- Something of a node changes that does not make it missing. -/
theorem spares_modify (c : MnContext σ) (nodeId : NodeId) {f : CnInfo → CnInfo}
    (h : ∀ info, (f info).state = .missing → info.state = .missing) :
    Spares c { c with nodeInfo := c.nodeInfo.modify nodeId f } where
  counters := rfl
  resets := (spares_of_view rfl : Spares c c).resets
  missing := by
    intro m hmissing
    left
    unfold NodeTable.state at hmissing ⊢
    dsimp only at hmissing
    rw [SortedMap.get?_modify] at hmissing
    split_ifs at hmissing
    · cases hget : c.nodeInfo.get? m with
      | none =>
          rw [hget] at hmissing
          cases hmissing
      | some info =>
          rw [hget] at hmissing
          exact h info hmissing
    · exact hmissing

theorem spares_track (c : MnContext σ) (nodeId : NodeId) {new : CnState} (h : new ≠ .missing) :
    Spares c (c.track nodeId new) := by
  unfold track
  split
  · exact Spares.refl c
  · split_ifs
    · exact Spares.refl c
    · exact (c.spares_modify nodeId (fun info hnew => absurd hnew h)).trans (spares_of_view rfl)

end

variable [ObjectDictionaryStorage σ]

/-! ### The tracked nodes and the NMT state -/

theorem spares_processNmtEvent (c : MnContext σ) (event : NmtEvent) :
    Spares c (c.processNmtEvent event) := by
  dsimp only [processNmtEvent]
  split_ifs
  · exact spares_of_view rfl
  · exact spares_of_view rfl

/-- No node is lost by the updates of a received frame. -/
theorem Touch.spares {c d : MnContext σ} (h : Touch c d) : Spares c d := by
  cases h with
  | track nodeId h => exact c.spares_track nodeId h
  | note nodeId hstate _ => exact c.spares_modify nodeId (fun info hnew => hstate info ▸ hnew)
  | nmt _ => exact c.spares_processNmtEvent _
  | ready =>
      refine c.spares_queue ?_
      intro command hmem
      obtain ⟨p, -, rfl⟩ := List.mem_map.mp hmem
      nofun
  | validated nodeId cache => exact spares_of_view rfl
  | download nodeId dcf t => exact spares_of_view rfl

theorem Touches.spares {c d : MnContext σ} (h : Touches c d) : Spares c d := by
  induction h with
  | refl => exact Spares.refl c
  | tail _ hstep ih => exact ih.trans hstep.spares

/-! ### Received frames -/

theorem spares_handlePresFrame (c : MnContext σ) (pres : PResFrame) :
    Spares c (c.handlePresFrame pres) := by
  dsimp only [handlePresFrame]
  generalize hd : record c _ = d
  have hrecord : Spares c d := by
    rw [← hd]
    exact spares_of_view rfl
  have hrequest : Spares c (d.queueRequest pres) := by
    refine hrecord.trans ?_
    unfold queueRequest
    split_ifs
    · exact spares_of_view rfl
    · exact Spares.refl d
  split
  · exact hrequest
  · refine hrequest.trans ?_
    generalize d.queueRequest pres = e
    rename_i info _
    have hflag : Spares e (e.checkExceptionFlag pres info) := by
      refine Spares.trans (e.spares_modify pres.source
        (f := fun info => { info with enFlag := pres.flags.en }) (fun _ => id)) ?_
      exact spares_of_view rfl
    exact hflag.trans (touches_checkCommunication _ pres info).spares

theorem spares_handleStatusResponse (c : MnContext σ) (frame : ASndFrame) :
    Spares c (c.handleStatusResponse frame) := by
  dsimp only [handleStatusResponse]
  split
  · exact Spares.refl c
  · have hflag : Spares c { c with
        nodeInfo := c.nodeInfo.modify frame.source
          (fun info => { info with eaFlag := info.enFlag }) } :=
      c.spares_modify frame.source (fun _ => id)
    split
    · exact hflag
    · exact hflag.trans (touches_updateCnState _ _ _).spares

theorem spares_handleAsndFrame (c : MnContext σ) (frame : ASndFrame) (t : ℕ) :
    Spares c (c.handleAsndFrame frame t) := by
  unfold handleAsndFrame
  split
  · exact (c.touches_handleIdentResponse frame t).spares
  · exact c.spares_handleStatusResponse frame
  · exact Spares.refl c

theorem spares_processAsnd (c : MnContext σ) (frame : ASndFrame) (t : ℕ) :
    Spares c (c.processAsnd frame t) := by
  dsimp only [processAsnd]
  split_ifs
  · refine Spares.trans (Spares.trans ?_ (spares_handleAsndFrame _ frame t)) (spares_of_view rfl)
    exact spares_of_view rfl
  · refine Spares.trans ?_ (spares_handleAsndFrame _ frame t)
    exact spares_of_view rfl

omit [ObjectDictionaryStorage σ] in
theorem spares_processSdoResponse {c d : MnContext σ} {frame : ASndFrame}
    (h : c.processSdoResponse frame = some d) : Spares c d := by
  cases processSdoResponse_way h with
  | dropped => exact spares_of_view rfl
  | handled => exact spares_of_view rfl

theorem spares_handleSdoServerRequest {c d : MnContext σ} {payload : List UInt8}
    {client : SdoClientInfo} {t : ℕ} {action : NodeAction}
    (h : c.handleSdoServerRequest payload client t = (action, d)) : Spares c d := by
  cases handleSdoServerRequest_way h with
  | unanswered => exact spares_of_view rfl
  | answered => exact spares_of_view rfl

/-! ### Events of the data link layer -/

/-- The errors that an event reports. -/
def dllErrors (c : MnContext σ) (event : DllMsEvent) (frameContext : PowerlinkFrame) :
    List DllError :=
  (c.dllStateMachine.processEvent event c.nmtState
    (decide (event = .pres) || decide (event = .asnd)) (!c.asyncRequestQueue.isEmpty)
    (!c.mnAsyncSendQueue.isEmpty)
    (c.hasMoreIsochronousNodes c.currentMultiplexCycle ||
      decide (c.currentPhase = .isochronousPReq)) false (c.reportingNode frameContext)).1

/-- The node for which an event reports a lost PRes. -/
def lostNode (c : MnContext σ) (event : DllMsEvent) (frameContext : PowerlinkFrame) :
    Option NodeId :=
  if .lossOfPres (c.reportingNode frameContext) ∈ c.dllErrors event frameContext then
    some (c.reportingNode frameContext)
  else none

/-- An error other than a lost PRes changes nothing. -/
theorem handleDllError_of_ne (c : MnContext σ) {event : DllMsEvent} {nodeId : NodeId}
    {error : DllError} (h : DllMsStateMachine.Reported event nodeId error)
    (hne : error ≠ .lossOfPres nodeId) : c.handleDllError nodeId error = c := by
  cases h with
  | lossOfPres hevent => exact absurd rfl hne
  | mevAsndTimeout => rfl
  | unexpected state => rfl

theorem foldl_handleDllError_of_notMem {event : DllMsEvent} {nodeId : NodeId} (c : MnContext σ) :
    ∀ {errors : List DllError}, (∀ e ∈ errors, DllMsStateMachine.Reported event nodeId e) →
      .lossOfPres nodeId ∉ errors →
      errors.foldl (fun c error => c.handleDllError nodeId error) c = c
  | [], _, _ => rfl
  | error :: errors, h, hnot => by
      have hne : error ≠ .lossOfPres nodeId := fun heq => hnot (heq ▸ List.mem_cons_self)
      rw [List.foldl_cons, c.handleDllError_of_ne (h error List.mem_cons_self) hne]
      exact foldl_handleDllError_of_notMem c (fun e he => h e (List.mem_cons_of_mem _ he))
        (fun hmem => hnot (List.mem_cons_of_mem _ hmem))

/-- A loss counts, and resets the node when the threshold is reached. -/
theorem suffers_handleDllError (c : MnContext σ) (nodeId : NodeId) :
    Suffers (some nodeId) c (c.handleDllError nodeId (.lossOfPres nodeId)) := by
  have heq : c.handleDllError nodeId (.lossOfPres nodeId) =
      applyNmtAction { c with
        dllErrorManager := { c.dllErrorManager with
          cnLossOfPres := (MnErrorCounters.countFor c.lossCounters nodeId).2 } }
        (MnErrorCounters.thresholdAction (c.atThreshold nodeId) (some nodeId)) := rfl
  rw [heq]
  generalize hd : ({ c with dllErrorManager := _ } : MnContext σ) = d
  have hcounters : d.lossCounters = (MnErrorCounters.countFor c.lossCounters nodeId).2 := by
    rw [← hd]
    rfl
  have hcommands : d.pendingNmtCommands = c.pendingNmtCommands := by rw [← hd]
  have hnodes : d.nodeInfo = c.nodeInfo := by rw [← hd]
  cases hreached : c.atThreshold nodeId with
  | false =>
      refine ⟨hcounters, ?_, ?_⟩
      · intro m
        have hnot : ¬(some nodeId = some m ∧ c.atThreshold m = true) := by
          rintro ⟨hm, hthreshold⟩
          obtain rfl := Option.some.inj hm
          rw [hreached] at hthreshold
          cases hthreshold
        rw [if_neg hnot]
        exact congrArg (List.count (resetCommand m)) hcommands
      · intro m hmissing
        exact .inl (hnodes ▸ hmissing)
  | true =>
      have hsame := d.same_track nodeId .missing
      refine ⟨?_, ?_, ?_⟩
      · refine Eq.trans ?_ hcounters
        change (d.track nodeId .missing).lossCounters = d.lossCounters
        unfold track
        split
        · rfl
        · split_ifs
          · rfl
          · rfl
      · intro m
        change ((d.track nodeId .missing).pendingNmtCommands ++ [resetCommand nodeId]).count
          (resetCommand m) = _
        rw [hsame.commands, hcommands, List.count_append]
        by_cases hm : nodeId = m
        · subst hm
          rw [if_pos ⟨rfl, hreached⟩, List.count_singleton_self]
          rfl
        · have hne : resetCommand nodeId ≠ resetCommand m :=
            fun heq => hm (congrArg (fun command => command.2.1) heq)
          rw [if_neg (fun h => hm (Option.some.inj h.1)), List.count_singleton,
            if_neg (fun h => hne (beq_iff_eq.mp h))]
          rfl
      · intro m hmissing
        change (d.track nodeId .missing).nodeInfo.state m = .missing at hmissing
        by_cases hm : nodeId = m
        · subst hm
          exact .inr ⟨rfl, hreached⟩
        · left
          unfold track at hmissing
          split at hmissing
          · exact hnodes ▸ hmissing
          · rename_i info hget
            split_ifs at hmissing
            · exact hnodes ▸ hmissing
            · have hreplaces := NodeTable.replaces_modify hget
                (fun info => { info with state := .missing })
              rw [← hnodes, ← hreplaces.state_ne (fun h => hm h.symm)]
              exact hmissing

theorem suffers_handleDllEvent (c : MnContext σ) (event : DllMsEvent)
    (frameContext : PowerlinkFrame) :
    Suffers (c.lostNode event frameContext) c (c.handleDllEvent event frameContext) := by
  dsimp only [handleDllEvent]
  generalize hd : ({ c with dllStateMachine := _ } : MnContext σ) = d
  have hsame : Spares c d := by
    rw [← hd]
    exact spares_of_view rfl
  refine hsame.then_suffers ?_
  change Suffers _ d ((c.dllErrors event frameContext).foldl
    (fun d error => d.handleDllError (c.reportingNode frameContext) error) d)
  unfold lostNode
  split_ifs with hloss
  · have honly : c.dllErrors event frameContext = [.lossOfPres (c.reportingNode frameContext)] :=
      (DllMsStateMachine.processEvent_loss hloss).2
    rw [honly]
    exact d.suffers_handleDllError _
  · have hreported : ∀ e ∈ c.dllErrors event frameContext,
        DllMsStateMachine.Reported event (c.reportingNode frameContext) e :=
      fun e he => DllMsStateMachine.processEvent_errors he
    rw [d.foldl_handleDllError_of_notMem hreported hloss]
    exact Spares.refl d

omit [ObjectDictionaryStorage σ] in
theorem lostNode_of_ne {event : DllMsEvent} (h : event ≠ .presTimeout) (c : MnContext σ)
    (frameContext : PowerlinkFrame) : c.lostNode event frameContext = none :=
  if_neg (fun hloss => h (DllMsStateMachine.processEvent_loss hloss).1)

theorem spares_handleDllEvent {event : DllMsEvent} (h : event ≠ .presTimeout) (c : MnContext σ)
    (frameContext : PowerlinkFrame) : Spares c (c.handleDllEvent event frameContext) := by
  have hevent := c.suffers_handleDllEvent event frameContext
  rwa [lostNode_of_ne h] at hevent

/-! ### Received data -/

/-- The errors of a received payload are not counted. -/
theorem consumePdoPayload_counters {s s' : PdoState σ} {source : NodeId} {payload : List UInt8}
    {version : PDOVersion} {isReady : Bool}
    (h : consumePdoPayload s source payload version isReady = some s') : s'.2 = s.2 := by
  obtain ⟨_, _, _, rfl⟩ := received_consumePdoPayload h
  rfl

theorem spares_presPoint {c d : MnContext σ} {pres : PResFrame} {t : ℕ}
    (h : (c.presPoint pres t).context = some d) : Spares c d := by
  dsimp only [presPoint] at h
  have hcount : Spares (c.handleDllEvent .pres (.pRes pres))
      ((c.handleDllEvent .pres (.pRes pres)).count 2) := spares_of_view rfl
  have htracked : Spares c (((c.handleDllEvent .pres (.pRes pres)).count 2).trackPres pres t) :=
    ((c.spares_handleDllEvent (by decide) _).trans hcount).trans (touches_trackPres _ pres t).spares
  refine htracked.trans ?_
  generalize ((c.handleDllEvent .pres (.pRes pres)).count 2).trackPres pres t = e at h
  split_ifs at h
  · split at h
    · cases h
    · rename_i r hconsume
      obtain rfl := Option.some.inj h
      refine Spares.trans ?_ (spares_handlePresFrame _ pres)
      have hcounters : r.2 = e.dllErrorManager := consumePdoPayload_counters hconsume
      apply spares_of_view
      dsimp only [lossView, record, lossCounters]
      rw [hcounters]
  · obtain rfl := Option.some.inj h
    exact e.spares_handlePresFrame pres

theorem spares_asndPoint {c d : MnContext σ} {frame : ASndFrame} {t : ℕ}
    (h : (c.asndPoint frame t).context = some d) : Spares c d := by
  unfold asndPoint at h
  split_ifs at h
  · split at h
    · cases h
    · rename_i e hresponse
      obtain rfl := Option.some.inj h
      exact spares_processSdoResponse hresponse
  · obtain rfl := Option.some.inj h
    refine Spares.trans ?_ (spares_handleSdoServerRequest rfl)
    exact spares_of_view rfl
  · obtain rfl := Option.some.inj h
    exact (c.spares_handleDllEvent (by decide) _).trans (spares_processAsnd _ frame t)

/-- No PRes is lost by a received frame. -/
theorem spares_receivePoint {c d : MnContext σ} {input : CycleInput}
    (h : (c.receivePoint input).context = some d) : Spares c d := by
  unfold receivePoint at h
  split at h
  · obtain rfl := Option.some.inj h
    exact Spares.refl c
  · split_ifs at h
    · obtain rfl := Option.some.inj h
      exact c.spares_processNmtEvent .error
    · split at h
      · rename_i frame _
        cases frame with
        | pRes pres => exact spares_presPoint h
        | aSnd frame => exact spares_asndPoint h
        | _ =>
            obtain rfl := Option.some.inj h
            exact Spares.refl c
      · obtain rfl := Option.some.inj h
        exact Spares.refl c
    · obtain rfl := Option.some.inj h
      exact Spares.refl c

theorem spares_receiveUdp {c d : MnContext σ} {input : CycleInput} {action : NodeAction}
    (h : c.receiveUdp input = (action, d)) : Spares c d := by
  cases receiveUdp_way h with
  | dropped => exact Spares.refl c
  | unanswered => exact spares_of_view rfl
  | answered => exact spares_of_view rfl

/-! ### The tick -/

section tick

omit [ObjectDictionaryStorage σ]

theorem spares_tickSdoClient {c d : MnContext σ} {t : ℕ} {action : Option NodeAction}
    (h : c.tickSdoClient t = (action, d)) : Spares c d := by
  cases tickSdoClient_way h with
  | silent => exact spares_of_view rfl
  | send => exact spares_of_view rfl

theorem spares_tickSdoServer {c d : MnContext σ} {t : ℕ} {action : Option NodeAction}
    (h : c.tickSdoServer t = (action, d)) : Spares c d := by
  cases tickSdoServer_way h with
  | idle => exact Spares.refl c
  | silent => exact spares_of_view rfl
  | unsent => exact spares_of_view rfl
  | send => exact spares_of_view rfl

theorem spares_initialOperationalActions {c d : MnContext σ} {action : Option NodeAction}
    (h : c.initialOperationalActions = (action, d)) : Spares c d := by
  cases initialOperationalActions_way h with
  | broadcast => exact spares_of_view rfl
  | command =>
      have hdone : Spares c c.actionsDone := spares_of_view rfl
      refine hdone.trans (spares_queue _ ?_)
      intro command hmem
      rw [List.mem_singleton.mp hmem]
      nofun
  | nobody => exact spares_of_view rfl
  | reset => exact spares_of_view rfl
  | settled => exact Spares.refl c

theorem spares_pollNode (c : MnContext σ) (nodeId : NodeId) (t : ℕ) :
    Spares c (c.pollNode nodeId t).2 := by
  dsimp only [pollNode]
  generalize hs : scheduleTimeout _ _ _ = s
  have hscheduled : Spares c s := by
    rw [← hs]
    exact spares_of_view rfl
  obtain ⟨⟨core, hcore⟩, -⟩ := buildPreqFrame_spec (s.record (.built nodeId (s.canPoll nodeId)))
    nodeId (decide (0 < assignedCycle (s.record (.built nodeId (s.canPoll nodeId))) nodeId))
  rw [hcore]
  exact hscheduled.trans (spares_of_view rfl)

theorem spares_sendSoa (c : MnContext σ) (action : AsyncAction) (t : ℕ) :
    Spares c (c.sendSoa action t).2 := by
  dsimp only [sendSoa]
  have hphase : Spares c (c.enterAsyncPhase action t) := by
    unfold enterAsyncPhase
    split_ifs
    · exact spares_of_view rfl
    · exact spares_of_view rfl
    · exact spares_of_view rfl
  have hcount : Spares (c.enterAsyncPhase action t)
      ((c.enterAsyncPhase action t).countSoa action.1) := by
    unfold countSoa
    split_ifs
    · exact spares_of_view rfl
    · exact spares_of_view rfl
  exact (hphase.trans hcount).trans (spares_of_view rfl)

theorem spares_choice (c : MnContext σ) (choice : AsyncChoice) :
    Spares c (choice.apply c).2 := by
  cases choice with
  | _ => exact spares_of_view rfl

theorem spares_endPoint (c : MnContext σ) : Spares c c.endPoint.context := by
  dsimp only [endPoint]
  split
  · exact spares_of_view rfl
  · exact spares_of_view rfl

theorem spares_advancePoint (c : MnContext σ) : Spares c c.advancePoint.context := by
  unfold advancePoint
  split_ifs
  · have hnext : Spares c (c.getNextIsochronousNodeToPoll c.currentMultiplexCycle).2 :=
      spares_of_view rfl
    split
    · rename_i nodeId d heq
      rw [heq] at hnext
      exact hnext
    · rename_i d heq
      rw [heq] at hnext
      exact hnext.trans d.spares_endPoint
  · exact c.spares_endPoint

theorem spares_advanceCyclePhase {c d : MnContext σ} {t : ℕ} {action : NodeAction}
    (h : c.advanceCyclePhase t = some (action, d)) : Spares c d := by
  have hpoint := c.spares_advancePoint
  rw [advanceCyclePhase_eq] at h
  cases hbranch : c.advancePoint with
  | poll nodeId e =>
      rw [hbranch] at h hpoint
      have hpoll := e.spares_pollNode nodeId t
      rw [Option.some.inj h] at hpoll
      exact hpoint.trans hpoll
  | publish serviceId e =>
      rw [hbranch] at h hpoint
      obtain ⟨-, rfl⟩ := Prod.mk.inj (Option.some.inj h)
      exact hpoint.trans (spares_of_view rfl)
  | schedule e =>
      rw [hbranch] at h hpoint
      obtain ⟨choice, -, heq⟩ := Option.map_eq_some_iff.mp h
      have hsoa := (choice.apply e).2.spares_sendSoa (choice.apply e).1 t
      rw [heq] at hsoa
      exact (hpoint.trans (e.spares_choice choice)).trans hsoa

theorem DeadlineWay.spares {c : MnContext σ} {p : TickPoint σ} (h : DeadlineWay c p) :
    Spares c p.context := by
  have hnext : ∀ next, Spares c { c with nextTickUs := next } := fun _ => spares_of_view rfl
  cases h with
  | broadcast next h => exact (hnext next).trans (spares_initialOperationalActions h)
  | own next h => exact (hnext next).trans (spares_initialOperationalActions h)
  | proceed next h => exact (hnext next).trans (spares_initialOperationalActions h)
  | pause next later h =>
      exact ((hnext next).trans (spares_initialOperationalActions h)).trans (spares_of_view rfl)
  | _ => exact hnext _

theorem TickWay.spares {c : MnContext σ} {p : TickPoint σ} {t : ℕ} (h : TickWay c t p) :
    Spares c p.context := by
  cases h with
  | start => exact Spares.refl c
  | client hclient => exact spares_tickSdoClient hclient
  | server hclient hserver =>
      exact (spares_tickSdoClient hclient).trans (spares_tickSdoServer hserver)
  | deadline hclient hserver hway =>
      exact ((spares_tickSdoClient hclient).trans (spares_tickSdoServer hserver)).trans hway.spares

/-- Up to its branch a tick loses no PRes. -/
theorem spares_tickPoint (c : MnContext σ) (t : ℕ) : Spares c (c.tickPoint t).context :=
  (c.tickPoint_way t).spares

/-- The own slot takes a command, and nothing else changes. -/
theorem sendOwnAsync_losses {c d : MnContext σ} {t : ℕ} {action : NodeAction}
    (h : c.sendOwnAsync t = (action, d)) :
    d.lossCounters = c.lossCounters ∧ d.nodeInfo = c.nodeInfo := by
  cases sendOwnAsync_way h with
  | _ => exact ⟨rfl, rfl⟩

end tick

theorem spares_startCycle (c : MnContext σ) (t : ℕ) : Spares c (c.startCycle t).2 := by
  have hbegin : Spares c (c.beginCycle t) := spares_of_view rfl
  dsimp only [startCycle]
  exact (hbegin.trans (spares_handleDllEvent (by decide) _ _)).trans (spares_of_view rfl)

/-! ### The whole call -/

/-- The timeout that a call delivers, with the context in which it is delivered. -/
def delivery (c : MnContext σ) (input : CycleInput) : Option (DllMsEvent × MnContext σ) :=
  (c.tickContext input).bind (fun d =>
    match d.tickPoint input.currentTimeUs with
    | .deliver event e => some (event, e)
    | _ => none)

/-- The node whose `PresTimeout` a call delivers. -/
def overdueNode (c : MnContext σ) (input : CycleInput) : Option NodeId :=
  (c.delivery input).bind (fun p =>
    if p.1 = .presTimeout then some (p.2.reportingNode timeoutFrame) else none)

/-- The node for which a call reports a lost PRes. -/
def lostInCall (c : MnContext σ) (input : CycleInput) : Option NodeId :=
  (c.delivery input).bind (fun p => p.2.lostNode p.1 timeoutFrame)

theorem tickContext_of_action {c d : MnContext σ} {input : CycleInput} {action : NodeAction}
    (h : (c.receivePoint input).run input.currentTimeUs = some (action, d))
    (haction : action ≠ .noAction) : c.tickContext input = none := by
  rw [tickContext, h]
  cases action with
  | noAction => exact absurd rfl haction
  | _ => rfl

theorem tickContext_of_datagram {c d e : MnContext σ} {input : CycleInput} {action : NodeAction}
    (hethernet : (c.receivePoint input).run input.currentTimeUs = some (.noAction, d))
    (hudp : d.receiveUdp input = (action, e)) (haction : action ≠ .noAction) :
    c.tickContext input = none := by
  rw [tickContext, hethernet]
  dsimp only
  rw [hudp]
  cases action with
  | noAction => exact absurd rfl haction
  | _ => rfl

section point

variable {c e o : MnContext σ} {input : CycleInput} (hcontext : c.tickContext input = some e)

include hcontext

theorem ownSlot_of_tickPoint (h : e.tickPoint input.currentTimeUs = .own o) :
    c.ownSlot input = some o := by
  rw [ownSlot, hcontext, Option.bind_some, h]

theorem ownSlot_eq_none (h : ∀ o, e.tickPoint input.currentTimeUs ≠ .own o) :
    c.ownSlot input = none := by
  cases hslot : c.ownSlot input with
  | none => rfl
  | some o => exact absurd (tickPoint_of_ownSlot hcontext hslot) (h o)

theorem lostInCall_of_tickPoint {event : DllMsEvent}
    (h : e.tickPoint input.currentTimeUs = .deliver event o) :
    c.lostInCall input = o.lostNode event timeoutFrame := by
  rw [lostInCall, delivery, hcontext, Option.bind_some, h, Option.bind_some]

theorem lostInCall_eq_none (h : ∀ event o, e.tickPoint input.currentTimeUs ≠ .deliver event o) :
    c.lostInCall input = none := by
  rw [lostInCall, delivery, hcontext, Option.bind_some]
  cases hpoint : e.tickPoint input.currentTimeUs with
  | deliver event o => exact absurd hpoint (h event o)
  | _ => rfl

end point

theorem spares_of_receive {c d : MnContext σ} {input : CycleInput} {action : NodeAction}
    (h : (c.receivePoint input).run input.currentTimeUs = some (action, d)) : Spares c d := by
  cases hpoint : c.receivePoint input with
  | panic =>
      rw [hpoint] at h
      cases h
  | pass e =>
      rw [hpoint] at h
      obtain ⟨-, rfl⟩ := Prod.mk.inj (Option.some.inj h)
      exact spares_receivePoint (by rw [hpoint]; rfl)
  | reply a e =>
      rw [hpoint] at h
      obtain ⟨-, rfl⟩ := Prod.mk.inj (Option.some.inj h)
      exact spares_receivePoint (by rw [hpoint]; rfl)
  | answered e =>
      rw [hpoint] at h
      obtain ⟨r, hadvance, heq⟩ := Option.map_eq_some_iff.mp h
      obtain ⟨-, rfl⟩ := Prod.mk.inj heq
      have hreceived : Spares c e := spares_receivePoint (by rw [hpoint]; rfl)
      exact hreceived.trans (spares_advanceCyclePhase hadvance)

theorem suffers_deliverTimeout {c d : MnContext σ} {event : DllMsEvent} {t : ℕ}
    {action : NodeAction} (h : c.deliverTimeout event t = some (action, d)) :
    Suffers (c.lostNode event timeoutFrame) c d := by
  have hrecord : Spares c (record { c with pendingTimeoutEvent := none } (.timedOut event t)) :=
    spares_of_view rfl
  have hevent := suffers_handleDllEvent
    (record { c with pendingTimeoutEvent := none } (.timedOut event t)) event timeoutFrame
  exact (hrecord.then_suffers hevent).then_spares (spares_advanceCyclePhase h)

/-- What a call does to the counters, the missing nodes and, up to the own slot, to the queued
resets. -/
theorem runCycle_suffers {c d : MnContext σ} {input : CycleInput} {action : NodeAction}
    (h : c.runCycle input = some (action, d)) :
    ∃ w, Suffers (c.lostInCall input) c w ∧
      (ApiReturned.mk c (.runCycle input) action d).waiting = w.pendingNmtCommands ∧
      d.lossCounters = w.lossCounters ∧ d.nodeInfo = w.nodeInfo := by
  have hwaiting : ∀ x, c.ownSlot input = x →
      (ApiReturned.mk c (.runCycle input) action d).waiting =
        (x.getD d).pendingNmtCommands := by
    intro x hx
    unfold ApiReturned.waiting ApiReturned.ownSlot
    dsimp only
    rw [hx]
    cases x with
    | none => rfl
    | some e => rfl
  cases runCycle_path h with
  | frame hpoint haction =>
      have hrun : (c.receivePoint input).run input.currentTimeUs = some (action, d) := by
        rw [hpoint]
        rfl
      refine ⟨d, ?_, hwaiting none (ownSlot_of_action hrun haction), rfl, rfl⟩
      rw [lostInCall, delivery, tickContext_of_action hrun haction]
      exact spares_of_receive hrun
  | datagram hethernet hudp haction =>
      refine ⟨d, ?_, hwaiting none (ownSlot_of_datagram hethernet hudp haction), rfl, rfl⟩
      rw [lostInCall, delivery, tickContext_of_datagram hethernet hudp haction]
      exact (spares_of_receive hethernet).trans (spares_receiveUdp hudp)
  | @tick r e hethernet hudp htick =>
      have hcontext := tickContext_eq hethernet hudp
      have harrival := ((spares_of_receive hethernet).trans (spares_receiveUdp hudp)).trans
        (e.spares_tickPoint input.currentTimeUs)
      cases hpoint : e.tickPoint input.currentTimeUs with
      | start o =>
          rw [hpoint] at htick harrival
          have hslot := ownSlot_eq_none hcontext (by simp [hpoint])
          rw [lostInCall_eq_none hcontext (by simp [hpoint])]
          have hstart := o.spares_startCycle input.currentTimeUs
          rw [Option.some.inj htick] at hstart
          exact ⟨d, harrival.trans hstart, hwaiting none hslot, rfl, rfl⟩
      | answer a o =>
          rw [hpoint] at htick harrival
          have hslot := ownSlot_eq_none hcontext (by simp [hpoint])
          rw [lostInCall_eq_none hcontext (by simp [hpoint])]
          obtain ⟨-, rfl⟩ := Prod.mk.inj (Option.some.inj htick)
          exact ⟨o, harrival, hwaiting none hslot, rfl, rfl⟩
      | activate o =>
          rw [hpoint] at htick harrival
          have hslot := ownSlot_eq_none hcontext (by simp [hpoint])
          rw [lostInCall_eq_none hcontext (by simp [hpoint])]
          obtain ⟨-, rfl⟩ := Prod.mk.inj (Option.some.inj htick)
          exact ⟨_, harrival.trans (o.spares_processNmtEvent .timeout), hwaiting none hslot, rfl,
            rfl⟩
      | deliver event o =>
          rw [hpoint] at htick harrival
          have hslot := ownSlot_eq_none hcontext (by simp [hpoint])
          rw [lostInCall_of_tickPoint hcontext hpoint]
          exact ⟨d, harrival.then_suffers (suffers_deliverTimeout htick), hwaiting none hslot, rfl,
            rfl⟩
      | advance o =>
          rw [hpoint] at htick harrival
          have hslot := ownSlot_eq_none hcontext (by simp [hpoint])
          rw [lostInCall_eq_none hcontext (by simp [hpoint])]
          exact ⟨d, harrival.trans (spares_advanceCyclePhase htick), hwaiting none hslot, rfl, rfl⟩
      | own o =>
          rw [hpoint] at htick harrival
          have hslot := ownSlot_of_tickPoint hcontext hpoint
          rw [lostInCall_eq_none hcontext (by simp [hpoint])]
          obtain ⟨hcounters, hnodes⟩ := sendOwnAsync_losses (Option.some.inj htick)
          exact ⟨o, harrival, hwaiting (some o) hslot, hcounters, hnodes⟩
      | rest o =>
          rw [hpoint] at htick harrival
          have hslot := ownSlot_eq_none hcontext (by simp [hpoint])
          rw [lostInCall_eq_none hcontext (by simp [hpoint])]
          obtain ⟨-, rfl⟩ := Prod.mk.inj (Option.some.inj htick)
          exact ⟨o, harrival, hwaiting none hslot, rfl, rfl⟩

/-! ### The counter of a node -/

/-- The counter of a node, as `loss_pres_counter_for` finds it. -/
def lossCounter (c : MnContext σ) (nodeId : NodeId) : ThresholdCounter :=
  (c.lossCounters.get? nodeId).getD (.new 15)

/-- The counter of a node after so many losses: only every second one clears it. -/
def Counts (c : MnContext σ) (nodeId : NodeId) (losses : ℕ) : Prop :=
  (c.lossCounter nodeId).threshold = 15 ∧ (c.lossCounter nodeId).thresholdCnt = 8 * (losses % 2)

omit [ObjectDictionaryStorage σ] in
/-- The second loss reaches the threshold. -/
theorem Counts.atThreshold {c : MnContext σ} {nodeId : NodeId} {losses : ℕ}
    (h : c.Counts nodeId losses) : c.atThreshold nodeId = decide (losses % 2 = 1) := by
  obtain ⟨hthreshold, hcount⟩ := h
  change (c.lossCounter nodeId).increment.checkAndReset.1 = _
  unfold ThresholdCounter.checkAndReset ThresholdCounter.increment
  dsimp only
  rw [hthreshold, hcount]
  obtain hparity | hparity := Nat.mod_two_eq_zero_or_one losses
  · rw [hparity]
    rfl
  · rw [hparity]
    rfl

omit [ObjectDictionaryStorage σ] in
theorem Suffers.counts {c d : MnContext σ} {lost : Option NodeId} {nodeId : NodeId} {losses : ℕ}
    (h : Suffers lost c d) (hc : c.Counts nodeId losses) :
    d.Counts nodeId (losses + if lost = some nodeId then 1 else 0) := by
  have hcounters := h.counters
  cases lost with
  | none =>
      have heq : d.lossCounter nodeId = c.lossCounter nodeId := by
        rw [lossCounter, hcounters]
        rfl
      rw [if_neg (nomatch ·), Nat.add_zero, Counts, heq]
      exact hc
  | some m =>
      have hget : d.lossCounter nodeId =
          if nodeId = m then (c.lossCounter m).increment.checkAndReset.2
          else c.lossCounter nodeId := by
        rw [lossCounter, hcounters]
        change ((c.lossCounters.insert m (c.lossCounter m).increment.checkAndReset.2).get?
          nodeId).getD _ = _
        rw [SortedMap.get?_insert]
        split_ifs
        · rfl
        · rfl
      by_cases hm : nodeId = m
      · subst hm
        rw [if_pos rfl] at hget
        rw [if_pos rfl, Counts, hget]
        obtain ⟨hthreshold, hcount⟩ := hc
        unfold ThresholdCounter.checkAndReset ThresholdCounter.increment
        dsimp only
        rw [hthreshold, hcount]
        obtain hparity | hparity := Nat.mod_two_eq_zero_or_one losses
        · have hnext : (losses + 1) % 2 = 1 := by omega
          rw [hparity, hnext]
          exact ⟨rfl, rfl⟩
        · have hnext : (losses + 1) % 2 = 0 := by omega
          rw [hparity, hnext]
          exact ⟨rfl, rfl⟩
      · rw [if_neg hm] at hget
        rw [if_neg (fun heq => hm (Option.some.inj heq).symm), Nat.add_zero, Counts, hget]
        exact hc

end MnContext

/-! ### Losses of a run -/

namespace ApiReturned

variable {σ : Type} [ObjectDictionaryStorage σ]

/-- The call delivers a `PresTimeout` for the node. -/
def timesOut (x : ApiReturned σ) (nodeId : NodeId) : Bool :=
  match x.call with
  | .runCycle input => decide (x.before.overdueNode input = some nodeId)
  | _ => false

/-- The call reports a lost PRes of the node. -/
def loses (x : ApiReturned σ) (nodeId : NodeId) : Bool :=
  match x.call with
  | .runCycle input => decide (x.before.lostInCall input = some nodeId)
  | _ => false

/-- The commands to reset a node that the managing node itself queues in a call. -/
def resetsQueued (x : ApiReturned σ) (nodeId : NodeId) : ℕ :=
  match x.call with
  | .runCycle _ => x.queued.count (MnContext.resetCommand nodeId)
  | _ => 0

omit [ObjectDictionaryStorage σ] in
/-- The call sets the node to `Missing`. -/
def setsMissing (x : ApiReturned σ) (nodeId : NodeId) : Bool :=
  decide (x.before.nodeInfo.state nodeId ≠ .missing ∧ x.after.nodeInfo.state nodeId = .missing)

end ApiReturned

section

variable {σ : Type} [ObjectDictionaryStorage σ] (nodeId : NodeId)

/-- The lost PRes frames of a node. -/
def lossCount (calls : List (ApiReturned σ)) : ℕ := calls.countP (fun x => x.loses nodeId)

/-- The resets that are queued for a node. -/
def resetCount (calls : List (ApiReturned σ)) : ℕ :=
  (calls.map (fun x => x.resetsQueued nodeId)).sum

/-- The cycles that were started since the last `PresTimeout` of a node; the newest call comes
first. -/
def cyclesSince : List (ApiReturned σ) → Option ℕ
  | [] => none
  | x :: calls =>
      if x.timesOut nodeId then some 0
      else (cyclesSince calls).map (fun n => if x.startsCycle then n + 1 else n)

/-- Between two `PresTimeout` events of a node at least eight complete cycles pass: the ninth SoC
ends the eighth of them. -/
def Isolated : List (ApiReturned σ) → Prop
  | [] => True
  | x :: calls =>
      (x.timesOut nodeId = true → (cyclesSince nodeId calls).all (fun n => decide (9 ≤ n)) = true) ∧
        Isolated calls

instance decidableIsolated : ∀ calls : List (ApiReturned σ), Decidable (Isolated nodeId calls)
  | [] => inferInstanceAs (Decidable True)
  | _ :: calls =>
      have := decidableIsolated calls
      inferInstanceAs (Decidable (_ ∧ _))

/-- The node is not set to `Missing`, and no reset is queued for it. -/
def Tolerated (calls : List (ApiReturned σ)) : Prop :=
  ∀ x ∈ calls, x.setsMissing nodeId = false ∧ x.resetsQueued nodeId = 0

instance (calls : List (ApiReturned σ)) : Decidable (Tolerated nodeId calls) :=
  inferInstanceAs (Decidable (∀ x ∈ calls, _))

/-- A call resets the node exactly with its second, fourth, ... loss. -/
def Accounted : List (ApiReturned σ) → Prop
  | [] => True
  | x :: calls =>
      x.resetsQueued nodeId = (if x.loses nodeId then lossCount nodeId calls % 2 else 0) ∧
        (x.setsMissing nodeId = true → x.loses nodeId = true ∧ lossCount nodeId calls % 2 = 1) ∧
        Accounted calls

end

section

variable {σ : Type} [ObjectDictionaryStorage σ] {nodeId : NodeId}

theorem lossCount_cons (x : ApiReturned σ) (calls : List (ApiReturned σ)) :
    lossCount nodeId (x :: calls) =
      lossCount nodeId calls + if x.loses nodeId then 1 else 0 := by
  unfold lossCount
  rw [List.countP_cons]

/-- The resets of a stretch of a run. -/
theorem Accounted.resetCount {earlier : List (ApiReturned σ)} :
    ∀ {later : List (ApiReturned σ)}, Accounted nodeId (later ++ earlier) →
      resetCount nodeId later =
        (lossCount nodeId earlier % 2 + lossCount nodeId later) / 2 ∧
      lossCount nodeId (later ++ earlier) = lossCount nodeId later + lossCount nodeId earlier
  | [], _ => by
      have hnone : lossCount nodeId ([] : List (ApiReturned σ)) = 0 := rfl
      refine ⟨?_, (Nat.zero_add _).symm⟩
      rw [hnone, Nat.add_zero, Nat.div_eq_of_lt (Nat.mod_lt _ Nat.two_pos)]
      rfl
  | x :: later, h => by
      rw [List.cons_append] at h
      obtain ⟨hresets, -, hrest⟩ := h
      obtain ⟨ih, hsum⟩ := Accounted.resetCount hrest
      have hcons : Powerlink.resetCount nodeId (x :: later) =
          x.resetsQueued nodeId + Powerlink.resetCount nodeId later := by
        unfold Powerlink.resetCount
        rw [List.map_cons, List.sum_cons]
      rw [List.cons_append, lossCount_cons, lossCount_cons, hcons, hresets, ih, hsum]
      split_ifs
      · omega
      · omega

/-- A stretch is tolerated exactly if no loss of it is a second one. -/
theorem Accounted.tolerated_iff {later earlier : List (ApiReturned σ)}
    (h : Accounted nodeId (later ++ earlier)) :
    Tolerated nodeId later ↔ lossCount nodeId earlier % 2 + lossCount nodeId later ≤ 1 := by
  constructor
  · intro htolerated
    have hzero : Powerlink.resetCount nodeId later = 0 := by
      unfold Powerlink.resetCount
      rw [List.sum_eq_zero_iff]
      intro n hn
      obtain ⟨x, hx, rfl⟩ := List.mem_map.mp hn
      exact (htolerated x hx).2
    have hresets := h.resetCount.1
    omega
  · intro hfew
    induction later with
    | nil => exact fun x hx => (nomatch hx)
    | cons x later ih =>
        rw [List.cons_append] at h
        obtain ⟨hresets, hmissing, hrest⟩ := h
        obtain ⟨-, hsum⟩ := hrest.resetCount
        rw [lossCount_cons] at hfew
        have hfirst : x.loses nodeId = true → lossCount nodeId (later ++ earlier) % 2 = 0 := by
          intro hloses
          rw [hloses, if_pos rfl] at hfew
          omega
        refine List.forall_mem_cons.mpr ⟨⟨?_, ?_⟩, ih hrest (by omega)⟩
        · rw [Bool.eq_false_iff]
          intro hsets
          obtain ⟨hloses, hodd⟩ := hmissing hsets
          have heven := hfirst hloses
          omega
        · rw [hresets]
          split_ifs with hloses
          · exact hfirst hloses
          · rfl

end

namespace MnContext

variable {σ : Type} [ObjectDictionaryStorage σ] {c d : MnContext σ} {nodeId : NodeId} {losses : ℕ}

omit [ObjectDictionaryStorage σ] in
theorem Counts.of_eq (h : d.lossCounters = c.lossCounters) (hc : c.Counts nodeId losses) :
    d.Counts nodeId losses := by
  rw [Counts, lossCounter, h]
  exact hc

/-- The account of a call: what it counts, queues and sets. -/
structure Accounts (x : ApiReturned σ) (nodeId : NodeId) (losses : ℕ) : Prop where
  counts : x.after.Counts nodeId (losses + if x.loses nodeId then 1 else 0)
  resets : x.resetsQueued nodeId = if x.loses nodeId then losses % 2 else 0
  missing : x.setsMissing nodeId = true → x.loses nodeId = true ∧ losses % 2 = 1

theorem accounts_runCycle {input : CycleInput} {action : NodeAction}
    (h : c.runCycle input = some (action, d)) (hc : c.Counts nodeId losses) :
    Accounts ⟨c, .runCycle input, action, d⟩ nodeId losses := by
  obtain ⟨w, hsuffers, hwaiting, hcounters, hnodes⟩ := runCycle_suffers h
  have hloses : (ApiReturned.mk c (.runCycle input) action d).loses nodeId =
      decide (c.lostInCall input = some nodeId) := rfl
  have hthreshold := hc.atThreshold
  refine ⟨?_, ?_, ?_⟩
  · have hcounts := (hsuffers.counts hc).of_eq hcounters
    simpa only [hloses, decide_eq_true_eq] using hcounts
  · have hqueues : (ApiReturned.mk c (.runCycle input) action d).Queues := call_queues h
    have hcount : w.resets nodeId = c.resets nodeId +
        (ApiReturned.mk c (.runCycle input) action d).resetsQueued nodeId := by
      rw [resets, ← hwaiting, hqueues.waiting, List.count_append]
      rfl
    rw [hsuffers.resets, hthreshold] at hcount
    rw [← Nat.add_left_cancel hcount, hloses]
    by_cases hlost : c.lostInCall input = some nodeId
    · simp only [hlost, true_and, decide_eq_true_eq, decide_true, if_true]
      split_ifs with hodd
      · exact hodd.symm
      · exact (Nat.mod_two_ne_one.mp hodd).symm
    · simp only [hlost, false_and, decide_false, if_false, Bool.false_eq_true]
  · intro hsets
    obtain ⟨hbefore, hafter⟩ := of_decide_eq_true hsets
    dsimp only at hbefore hafter
    rw [hnodes] at hafter
    obtain hmissing | ⟨hlost, hreached⟩ := hsuffers.missing nodeId hafter
    · exact absurd hmissing hbefore
    · rw [hthreshold] at hreached
      exact ⟨decide_eq_true hlost, of_decide_eq_true hreached⟩

/-- The methods other than `run_cycle` have nothing to account for. -/
theorem accounts_of_method {call : MnCall} {action : NodeAction}
    (hloses : (ApiReturned.mk c call action d).loses nodeId = false)
    (hresets : (ApiReturned.mk c call action d).resetsQueued nodeId = 0)
    (hcounters : d.lossCounters = c.lossCounters) (hnodes : d.nodeInfo = c.nodeInfo)
    (hc : c.Counts nodeId losses) : Accounts ⟨c, call, action, d⟩ nodeId losses := by
  refine ⟨?_, ?_, ?_⟩
  · rw [hloses]
    exact hc.of_eq hcounters
  · rw [hloses, hresets]
    rfl
  · intro hsets
    obtain ⟨hbefore, hafter⟩ := of_decide_eq_true hsets
    exact absurd (hnodes ▸ hafter) hbefore

theorem accounts_call {call : MnCall} {action : NodeAction} (h : c.call call = some (action, d))
    (hc : c.Counts nodeId losses) : Accounts ⟨c, call, action, d⟩ nodeId losses := by
  cases call with
  | runCycle input => exact accounts_runCycle h hc
  | setHostname target hostname =>
      obtain ⟨-, rfl⟩ := Prod.mk.inj (Option.some.inj h)
      refine accounts_of_method rfl rfl ?_ ?_ hc
      all_goals
        unfold setHostname
        split_ifs
        · rfl
        · rfl
        · rfl
  | _ =>
      obtain ⟨-, rfl⟩ := Prod.mk.inj (Option.some.inj h)
      exact accounts_of_method rfl rfl rfl rfl hc

end MnContext

namespace ApiRun

variable {σ : Type} [ObjectDictionaryStorage σ]

theorem losses_accounted :
    Throughout (fun r : ApiRun σ => ∀ nodeId,
      r.context.Counts nodeId (lossCount nodeId r.returned) ∧ Accounted nodeId r.returned) := by
  apply throughout_of_call
  · intro od mac cfg machine cycleTimeUs lists publish hstate nodeId
    exact ⟨⟨rfl, rfl⟩, trivial⟩
  · intro r call action d hr hcall nodeId
    obtain ⟨hcounts, haccounted⟩ := hr nodeId
    have haccounts := MnContext.accounts_call hcall hcounts
    refine ⟨?_, haccounts.resets, haccounts.missing, haccounted⟩
    rw [lossCount_cons]
    exact haccounts.counts

/-- In every stretch of every run, losses that are isolated are tolerated exactly if the stretch
brings no second loss since the counter of the node was last clear, and two losses reset the node
exactly once. -/
theorem losses_tolerated_iff :
    Throughout (fun r : ApiRun σ => ∀ nodeId later earlier, r.returned = later ++ earlier →
      ((Isolated nodeId later → Tolerated nodeId later) ↔
        (Isolated nodeId later →
          lossCount nodeId earlier % 2 + lossCount nodeId later ≤ 1)) ∧
      (lossCount nodeId later = 2 → resetCount nodeId later = 1)) := by
  refine losses_accounted.mono ?_
  intro r hr nodeId later earlier hsplit
  obtain ⟨-, haccounted⟩ := hr nodeId
  rw [hsplit] at haccounted
  refine ⟨imp_congr_right (fun _ => haccounted.tolerated_iff), ?_⟩
  intro htwo
  have hresets := haccounted.resetCount.1
  omega

/-- One mandatory node is identified and becomes ready, and the managing node operational. -/
def oneNodeOperational : List CycleInput :=
  [.idle 0, .idle 10, .idle 1000, .idle 1001, .identResponse 1 1010, .idle 2000, .idle 2001,
    .statusResponse 1 .nmtPreOperational2 2010, .pres 1 .nmtReadyToOperate 2020]

/-- A cycle in which the node answers. -/
def answeredCycle (k : ℕ) : List CycleInput :=
  [.idle (1000 * k), .idle (1000 * k + 1), .pres 1 .nmtOperational (1000 * k + 5)]

/-- A cycle in which the PRes of the node is lost. -/
def lostCycle (k : ℕ) : List CycleInput :=
  [.idle (1000 * k), .idle (1000 * k + 1), .idle (1000 * k + 100)]

/-- A node that is lost in the fourth and in the thirteenth cycle is reset. -/
theorem isolated_losses_reset :
    ¬Throughout (fun r : ApiRun Empty => ∀ nodeId later earlier, r.returned = later ++ earlier →
      (∀ x ∈ later, x.before.nmtState = .nmtOperational) →
      (Isolated nodeId later → Tolerated nodeId later) ∧
      (lossCount nodeId later = 2 → resetCount nodeId later = 1)) := by
  intro h
  have hstretch := h.mono (fun r hr => show
      (∀ x ∈ r.returned.take 33, x.before.nmtState = .nmtOperational) →
      Isolated ⟨1⟩ (r.returned.take 33) → Tolerated ⟨1⟩ (r.returned.take 33) from
    fun hop => (hr ⟨1⟩ (r.returned.take 33) (r.returned.drop 33)
      (List.take_append_drop 33 r.returned).symm hop).1)
    (mnDictionary 0 [9]) ⟨0, 0, 0, 0, 0, 240⟩ none
    ((oneNodeOperational ++ answeredCycle 3 ++ lostCycle 4 ++
      (List.range 8).flatMap (fun k => answeredCycle (k + 5)) ++ lostCycle 13).map .runCycle)
  revert hstretch
  apply Runs.not_always_reached
  decide +kernel

end ApiRun

end Powerlink
