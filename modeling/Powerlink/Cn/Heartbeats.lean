import Powerlink.Cn.Moves

/-! # Heartbeat alarms

A controlled node keeps one time for each node that it watches: zero as long as the node is unmarked,
then the time of its last PRes, of the first tick in a watched state, or of its last alarm.  The mark
stays when the controlled node leaves `NmtPreOperational2` and the states behind it, and a PRes
outside of them sets it too, so that the first tick after the return finds it overdue.

`BeatView` is what the alarms depend on, and `runCycle_beats` what a call does to it.
`no_false_heartbeat_alarm` says that an alarm of a node is real in every run without a stale check: a
tick shortly after the entry into the watched states that finds a mark from before. -/

namespace Powerlink

/-- The alarms of a node in a history, newest first. -/
def heartbeatAlarms (history : List CnEvent) (nodeId : NodeId) : List ℕ :=
  history.filterMap fun
    | .heartbeatTimedOut id timeUs => if id = nodeId then some timeUs else none
    | _ => none

theorem heartbeatAlarms_cons (history : List CnEvent) (id nodeId : NodeId) (timeUs : ℕ) :
    heartbeatAlarms (.heartbeatTimedOut id timeUs :: history) nodeId =
      if id = nodeId then timeUs :: heartbeatAlarms history nodeId
      else heartbeatAlarms history nodeId := by
  unfold heartbeatAlarms
  rw [List.filterMap_cons]
  by_cases h : id = nodeId
  · simp only [if_pos h]
  · simp only [if_neg h]

/-- What the heartbeat alarms depend on. -/
structure BeatView where
  consumers : SortedMap NodeId (ℕ × ℕ)
  alarms : NodeId → List ℕ

/-- A PRes is a heartbeat of its source. -/
def BeatView.heard (v : BeatView) (frame : Option PowerlinkFrame) (timeUs : ℕ) : BeatView :=
  match frame with
  | some (.pRes pres) =>
      { v with consumers := v.consumers.modify pres.source (fun p => (p.1, timeUs)) }
  | _ => v

/-- The node has a mark that is older than its timeout. -/
def isOverdue (timeUs : ℕ) (consumer : ℕ × ℕ) : Bool :=
  decide (consumer.2 ≠ 0 ∧ 0 < consumer.1 ∧ consumer.1 < timeUs - consumer.2)

/-- A check marks a node that is unmarked or overdue. -/
def checkConsumer (timeUs : ℕ) (consumer : ℕ × ℕ) : ℕ × ℕ :=
  if consumer.2 = 0 ∨ isOverdue timeUs consumer = true then (consumer.1, timeUs) else consumer

/-- What a check does to the view: an alarm is about a node that is overdue. -/
structure BeatView.Checked (v : BeatView) (timeUs : ℕ) (w : BeatView) : Prop where
  consumers : w.consumers = v.consumers.mapValues (fun _ => checkConsumer timeUs)
  alarms : ∀ nodeId, w.alarms nodeId = v.alarms nodeId ∨
    (∃ consumer, v.consumers.get? nodeId = some consumer ∧ isOverdue timeUs consumer = true) ∧
      w.alarms nodeId = timeUs :: v.alarms nodeId

namespace CnContext

variable {σ : Type}

/-- The view of a context. -/
def beats (c : CnContext σ) : BeatView where
  consumers := c.heartbeatConsumers
  alarms := heartbeatAlarms c.history

theorem beats_congr {c d : CnContext σ} (h : d.supervision = c.supervision) :
    d.beats = c.beats := by
  have hview : ∀ e : CnContext σ,
      e.beats = ⟨e.supervision.consumers, heartbeatAlarms e.supervision.history⟩ := fun _ => rfl
  rw [hview, hview, h]

/-- The node is in a state in which it watches the heartbeats. -/
def watches (c : CnContext σ) : Bool := decide (.nmtPreOperational2 ≤ c.nmtState)

/-! ### Received frames -/

theorem beats_receiveCycleStart (c : CnContext σ) (frame : PowerlinkFrame) (timeUs : ℕ) :
    (c.receiveCycleStart frame timeUs).beats = c.beats := by
  have hcycle : ∀ e : CnContext σ, e.completeCycle.beats = e.beats := by
    intro e
    dsimp only [completeCycle]
    split_ifs
    · rfl
    · rfl
  have hschedule : ∀ e : CnContext σ, (e.scheduleSocCheck timeUs).beats = e.beats := by
    intro e
    unfold scheduleSocCheck
    split
    · rfl
    · dsimp only
      split_ifs
      · split
        · split_ifs
          · rfl
          · rfl
        · rfl
      · rfl
  cases frame with
  | soc soc =>
      dsimp only [receiveCycleStart, receiveSoc]
      rw [hschedule, hcycle]
      rfl
  | _ => rfl

theorem beats_countReceived (c : CnContext σ) (frame : PowerlinkFrame) (timeUs : ℕ) :
    (c.countReceived frame timeUs).beats = c.beats.heard (some frame) timeUs := by
  cases frame with
  | soA soa =>
      dsimp only [countReceived]
      split_ifs
      · rfl
      · rfl
  | _ => rfl

variable [ObjectDictionaryStorage σ]

theorem beats_handleDllErrors {timeUs : ℕ} {stop : Bool} : ∀ {errors : List DllError}
    {c d : CnContext σ}, c.handleDllErrors errors timeUs = (stop, d) → d.beats = c.beats
  | [], c, d, h => by rw [← (Prod.mk.inj h).2]
  | error :: errors, c, d, h => by
      have hsignal : ∀ e : CnContext σ, (e.signalError error timeUs).beats = e.beats :=
        fun e => beats_congr (e.supervision_signalError error timeUs)
      have hreset : ∀ e : CnContext σ, e.resetAfterError.beats = e.beats := fun _ => rfl
      have hone : ∀ {stop e}, c.handleDllError error timeUs = (stop, e) → e.beats = c.beats := by
        intro stop e he
        dsimp only [handleDllError] at he
        split_ifs at he
        · rw [← (Prod.mk.inj he).2, hreset, hsignal]
          rfl
        · rw [← (Prod.mk.inj he).2, hreset]
          rfl
        · rw [← (Prod.mk.inj he).2, hsignal]
          rfl
        · rw [← (Prod.mk.inj he).2]
          rfl
      rw [handleDllErrors] at h
      split at h
      · rename_i e he
        rw [← (Prod.mk.inj h).2]
        exact hone he
      · rename_i e he
        exact (beats_handleDllErrors h).trans (hone he)

theorem beats_processAccepted {c d : CnContext σ} {frame : PowerlinkFrame} {timeUs : ℕ}
    {action : NodeAction} (h : c.processAccepted frame timeUs = some (action, d)) :
    d.beats = c.beats.heard (some frame) timeUs := by
  have hraise : ∀ (e : CnContext σ) (event : Option NmtEvent), (e.raise event).beats = e.beats := by
    intro e event
    cases event with
    | none => rfl
    | some event => rfl
  have hreceived : (c.receiveFrame frame timeUs).beats = c.beats.heard (some frame) timeUs := by
    dsimp only [receiveFrame]
    rw [hraise, beats_congr (supervision_receiveNmtEvent _ frame),
      beats_congr (supervision_receiveFlags _ frame), beats_countReceived,
      beats_receiveCycleStart]
  rw [← hreceived]
  dsimp only [processAccepted] at h
  generalize c.receiveFrame frame timeUs = e at h
  split at h
  · rename_i f herrors
    have hf := beats_handleDllErrors herrors
    rw [← (Prod.mk.inj (Option.some.inj h)).2]
    exact hf
  · rename_i f herrors
    have hf := beats_handleDllErrors herrors
    exact (beats_congr (supervision_respondFrame h)).trans hf

theorem beats_receiveSdo (c : CnContext σ) (frame : ASndFrame) (timeUs : ℕ) :
    (c.receiveSdo frame timeUs).2.beats = c.beats := by
  obtain ⟨core, hcore⟩ := c.receiveSdo_core frame timeUs
  rw [hcore]
  rfl

theorem beats_processFrame {c d : CnContext σ} {frame : PowerlinkFrame} {timeUs : ℕ}
    {action : NodeAction} (h : c.processFrame frame timeUs = some (action, d)) :
    d.beats = c.beats.heard (some frame) timeUs := by
  cases frame with
  | aSnd asnd =>
      dsimp only [processFrame] at h
      split_ifs at h
      · exact (congrArg beats (congrArg Prod.snd (Option.some.inj h))).symm.trans
          (c.beats_receiveSdo asnd timeUs)
      · exact beats_processAccepted (c := c.count 4) h
      · rw [← (Prod.mk.inj (Option.some.inj h)).2]
        rfl
  | _ => exact beats_processAccepted h

theorem beats_prepare (c : CnContext σ) (buffer : List UInt8) :
    (c.prepare buffer).beats = c.beats := by
  unfold prepare
  dsimp only
  split_ifs
  · rfl
  · rfl
  · rfl
  · rfl

/-- A received buffer marks the source of a PRes. -/
theorem beats_receiveEthernet {c d : CnContext σ} {input : CycleInput} {action : NodeAction}
    (h : c.receiveEthernet input = some (action, d)) :
    d.beats = c.beats.heard input.frame input.currentTimeUs := by
  obtain ⟨buffer, frame, -, hframe, hprocess⟩ | ⟨hframe, -, hrest⟩ := receiveEthernet_cases h
  · rw [beats_processFrame hprocess, beats_prepare, hframe]
  · rw [hframe]
    obtain ⟨-, rfl⟩ | ⟨buffer, -, rfl | rfl⟩ := hrest
    · rfl
    · exact c.beats_prepare buffer
    · exact c.beats_prepare buffer

theorem beats_receiveUdp (c : CnContext σ) (input : CycleInput) :
    (c.receiveUdp input).2.beats = c.beats := by
  obtain ⟨core, hcore⟩ := c.receiveUdp_core input
  rw [hcore]
  rfl

/-! ### The tick -/

omit [ObjectDictionaryStorage σ] in
theorem beats_tickSdoServer (c : CnContext σ) (timeUs : ℕ) :
    (c.tickSdoServer timeUs).2.beats = c.beats := by
  obtain ⟨core, hcore⟩ := c.tickSdoServer_core timeUs
  rw [hcore]
  rfl

/-- A heartbeat timeout is an alarm. -/
theorem beats_handleHeartbeatTimeout {c d : CnContext σ} {nodeId : NodeId} {timeUs : ℕ}
    {stop : Bool} (h : c.handleHeartbeatTimeout nodeId timeUs = (stop, d)) :
    d.beats = (c.record (.heartbeatTimedOut nodeId timeUs)).beats := by
  dsimp only [handleHeartbeatTimeout] at h
  split_ifs at h
  · rw [← (Prod.mk.inj h).2]
    rfl
  · rw [← (Prod.mk.inj h).2]
    rfl
  · rw [← (Prod.mk.inj h).2]
    rfl
  · rw [← (Prod.mk.inj h).2]
    rfl
  · rw [← (Prod.mk.inj h).2]
    rfl
  · rw [← (Prod.mk.inj h).2]
    rfl

/-- Each node of the loop has at most one alarm. -/
theorem beats_handleHeartbeatTimeouts {timeUs : ℕ} {stop : Bool} : ∀ {nodeIds : List NodeId}
    {c d : CnContext σ}, nodeIds.Nodup →
    c.handleHeartbeatTimeouts nodeIds timeUs = (stop, d) →
    d.beats.consumers = c.beats.consumers ∧ ∀ nodeId,
      d.beats.alarms nodeId = c.beats.alarms nodeId ∨
        nodeId ∈ nodeIds ∧ d.beats.alarms nodeId = timeUs :: c.beats.alarms nodeId
  | [], c, d, _, h => by
      rw [← (Prod.mk.inj h).2]
      exact ⟨rfl, fun _ => .inl rfl⟩
  | id :: nodeIds, c, d, hnodup, h => by
      obtain ⟨hid, hnodup⟩ := List.nodup_cons.mp hnodup
      have hfirst : ∀ {stop e}, c.handleHeartbeatTimeout id timeUs = (stop, e) →
          e.beats.consumers = c.beats.consumers ∧ ∀ nodeId, e.beats.alarms nodeId =
            if id = nodeId then timeUs :: c.beats.alarms nodeId else c.beats.alarms nodeId := by
        intro stop e he
        rw [beats_handleHeartbeatTimeout he]
        exact ⟨rfl, fun nodeId => heartbeatAlarms_cons c.history id nodeId timeUs⟩
      rw [handleHeartbeatTimeouts] at h
      split at h
      · rename_i e he
        obtain ⟨hconsumers, halarms⟩ := hfirst he
        rw [← (Prod.mk.inj h).2]
        refine ⟨hconsumers, fun nodeId => ?_⟩
        rw [halarms nodeId]
        split_ifs with heq
        · exact .inr ⟨heq ▸ List.mem_cons_self, rfl⟩
        · exact .inl rfl
      · rename_i e he
        obtain ⟨hconsumers, halarms⟩ := hfirst he
        obtain ⟨hrest, hlater⟩ := beats_handleHeartbeatTimeouts hnodup h
        refine ⟨hrest.trans hconsumers, fun nodeId => ?_⟩
        have hone := halarms nodeId
        split_ifs at hone with heq
        · subst heq
          obtain hsame | ⟨hmem, -⟩ := hlater id
          · exact .inr ⟨List.mem_cons_self, hsame.trans hone⟩
          · exact absurd hmem hid
        · obtain hsame | ⟨hmem, hsame⟩ := hlater nodeId
          · exact .inl (hsame.trans hone)
          · rw [hone] at hsame
            exact .inr ⟨List.mem_cons_of_mem _ hmem, hsame⟩

omit [ObjectDictionaryStorage σ] in
theorem visitHeartbeat_spec {timeUs : ℕ} {nodeId : NodeId} {consumer consumer' : ℕ × ℕ}
    {nodeIds nodeIds' : List NodeId}
    (h : visitHeartbeat timeUs nodeId consumer nodeIds = (.ok nodeIds', consumer')) :
    nodeIds' = (if isOverdue timeUs consumer then nodeIds ++ [nodeId] else nodeIds) ∧
      consumer' = checkConsumer timeUs consumer := by
  unfold visitHeartbeat at h
  unfold checkConsumer isOverdue
  split_ifs at h with hzero htimeout hback hlate
  · obtain ⟨hids, hconsumer⟩ := Prod.mk.inj h
    rw [← Except.ok.inj hids, ← hconsumer]
    simp [hzero]
  · cases (Prod.mk.inj h).1
  · obtain ⟨hids, hconsumer⟩ := Prod.mk.inj h
    rw [← Except.ok.inj hids, ← hconsumer]
    simp [hzero, htimeout, hlate]
  · obtain ⟨hids, hconsumer⟩ := Prod.mk.inj h
    rw [← Except.ok.inj hids, ← hconsumer]
    simp [hzero, hlate]
  · obtain ⟨hids, hconsumer⟩ := Prod.mk.inj h
    rw [← Except.ok.inj hids, ← hconsumer]
    simp [hzero, htimeout]

/-- The heartbeat check, in a watched state. -/
theorem tickHeartbeats_beats {c d : CnContext σ} {timeUs : ℕ} {stop : Bool}
    (h : c.tickHeartbeats timeUs = some (stop, d)) :
    d.beats = c.beats ∨ c.watches = true ∧ c.beats.Checked timeUs d.beats := by
  unfold tickHeartbeats at h
  split_ifs at h with hstate
  · refine .inr ⟨decide_eq_true hstate, ?_⟩
    split at h
    · cases h
    · rename_i nodeIds consumers hvisit
      obtain ⟨hids, hconsumers⟩ := SortedMap.visit_select
        (q := fun _ => isOverdue timeUs) (g := fun _ => checkConsumer timeUs)
        (fun _ _ _ _ _ => visitHeartbeat_spec) hvisit
      have hnodup : nodeIds.Nodup := hids ▸ SortedMap.nodup_selected _ _
      obtain ⟨hkept, halarms⟩ := beats_handleHeartbeatTimeouts hnodup (Option.some.inj h)
      refine ⟨hkept.trans hconsumers, fun nodeId => (halarms nodeId).imp_right ?_⟩
      rintro ⟨hmem, halarm⟩
      rw [hids] at hmem
      exact ⟨(SortedMap.mem_selected_iff _ _ _).mp hmem, halarm⟩
  · rw [← (Prod.mk.inj (Option.some.inj h)).2]
    exact .inl rfl

theorem beats_tickDeadline {c d : CnContext σ} {nmtState : NmtState} {timeUs : ℕ}
    (h : c.tickDeadline nmtState timeUs = some d) : d.beats = c.beats := by
  have hsame : ∀ {e : CnContext σ}, some e = some d → e.beats = c.beats → d.beats = c.beats := by
    intro e he hbeats
    rw [← Option.some.inj he, hbeats]
  dsimp only [tickDeadline] at h
  split at h
  · split_ifs at h
    · exact hsame h rfl
    · exact hsame h rfl
  · split_ifs at h
    · exact hsame h rfl
    · exact hsame h rfl
    · exact hsame h rfl
    · dsimp only [deliverSocTimeout] at h
      split at h
      · rename_i e herrors
        have he := beats_handleDllErrors herrors
        exact hsame h he
      · rename_i e herrors
        have he := beats_handleDllErrors herrors
        split_ifs at h
        · obtain ⟨_, _, rfl⟩ := rescheduleSocCheck_frame h
          exact he
        · exact hsame h he
    · exact hsame h rfl

/-- A tick checks the heartbeats in a watched state, or leaves the view as it is. -/
theorem processTick_beats {c d : CnContext σ} {timeUs : ℕ} {action : NodeAction}
    (h : c.processTick timeUs = some (action, d)) :
    d.beats = c.beats ∨ c.watches = true ∧ c.beats.Checked timeUs d.beats := by
  have hserver := c.beats_tickSdoServer timeUs
  have hstate : (c.tickSdoServer timeUs).2.nmtState = c.nmtState := by
    dsimp only [tickSdoServer]
    split
    · split
      · rfl
      · rfl
    · rfl
  unfold processTick at h
  generalize c.tickSdoServer timeUs = q at h hserver hstate
  obtain ⟨_ | sent, e⟩ := q
  · dsimp only at h hserver hstate
    have hwatches : e.watches = c.watches := by
      unfold watches
      rw [hstate]
    rw [← hserver, ← hwatches]
    split at h
    · cases h
    · rename_i f hbeats
      rw [← (Prod.mk.inj (Option.some.inj h)).2]
      exact tickHeartbeats_beats hbeats
    · rename_i f hbeats
      obtain ⟨g, hg, h⟩ := Option.map_eq_some_iff.mp h
      rw [← (Prod.mk.inj h).2, beats_tickDeadline hg]
      exact tickHeartbeats_beats hbeats
  · rw [← (Prod.mk.inj (Option.some.inj h)).2]
    exact .inl hserver

/-- The context that the tick of a call finds, where the call comes to it. -/
def tickContext (c : CnContext σ) (input : CycleInput) : Option (CnContext σ) :=
  match c.receiveEthernet input with
  | some (.noAction, d) =>
      match d.receiveUdp input with
      | (.noAction, e) => some e
      | _ => none
  | _ => none

/-- A call of `run_cycle` marks the source of a PRes, and then it may check the heartbeats. -/
theorem runCycle_beats {c d : CnContext σ} {input : CycleInput} {action : NodeAction}
    (h : c.runCycle input = some (action, d)) :
    d.beats = c.beats.heard input.frame input.currentTimeUs ∨
      (∃ e, c.tickContext input = some e ∧ e.watches = true) ∧
        (c.beats.heard input.frame input.currentTimeUs).Checked input.currentTimeUs d.beats := by
  obtain ⟨⟨action₁, c₁⟩, heth, h⟩ := Option.bind_eq_some_iff.mp h
  have hreceived := beats_receiveEthernet heth
  have hudp := c₁.beats_receiveUdp input
  rw [← hreceived]
  dsimp only at h
  by_cases hsent : action₁ = .noAction
  · rw [if_neg (not_not.mpr hsent)] at h
    cases hdatagram : c₁.receiveUdp input with
    | mk action₂ c₂ =>
        rw [hdatagram] at h hudp
        dsimp only at h hudp
        by_cases hanswered : action₂ = .noAction
        · rw [if_neg (not_not.mpr hanswered)] at h
          rw [← hudp]
          refine (processTick_beats h).imp_right fun hchecked => ⟨⟨c₂, ?_, hchecked.1⟩, hchecked.2⟩
          rw [tickContext, heth, hsent]
          dsimp only
          rw [hdatagram, hanswered]
        · rw [if_pos hanswered] at h
          rw [← (Prod.mk.inj (Option.some.inj h)).2]
          exact .inl hudp
  · rw [if_pos hsent] at h
    rw [← (Prod.mk.inj (Option.some.inj h)).2]
    exact .inl rfl

end CnContext

end Powerlink
