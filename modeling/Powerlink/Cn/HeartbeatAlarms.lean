import Powerlink.Cn.Heartbeats
import Powerlink.Cn.SocTimeouts

/-! # Real and false heartbeat alarms

A run of a controlled node with the alarms of one watched node.  `call_beats` says what a call does
to the mark of the node: a PRes and a check set it to the time of the call, and only a check of a
mark that is older than the timeout is an alarm.

An alarm is false where the mark is from before the entry into the watched states.
`no_false_heartbeat_alarm` excludes exactly the checks that meet such a mark (`StaleCheck`). -/

namespace Powerlink

variable {σ : Type}

namespace CnContext

/-- The time at which a watched node was last marked. -/
def mark (c : CnContext σ) (nodeId : NodeId) : ℕ :=
  ((c.heartbeatConsumers.get? nodeId).map Prod.snd).getD 0

/-- The timeout of a watched node. -/
def heartbeatTimeout (c : CnContext σ) (nodeId : NodeId) : Option ℕ :=
  (c.heartbeatConsumers.get? nodeId).map Prod.fst

theorem get?_heartbeatConsumers {c : CnContext σ} {nodeId : NodeId} {timeoutUs : ℕ}
    (h : c.heartbeatTimeout nodeId = some timeoutUs) :
    c.heartbeatConsumers.get? nodeId = some (timeoutUs, c.mark nodeId) := by
  unfold mark
  obtain ⟨consumer, hconsumer, rfl⟩ := Option.map_eq_some_iff.mp h
  rw [hconsumer]
  rfl

end CnContext

namespace CnReturned

/-- The call hands a PRes of the node to `process_frame`. -/
def Hears (x : CnReturned σ) (nodeId : NodeId) : Prop :=
  ∃ input pres, x.call = .runCycle input ∧ input.frame = some (.pRes pres) ∧
    pres.source = nodeId

/-- The call reports a heartbeat timeout of the node. -/
def Alarms (x : CnReturned σ) (nodeId : NodeId) : Prop :=
  (heartbeatAlarms x.before.history nodeId).length <
    (heartbeatAlarms x.after.history nodeId).length

variable [ObjectDictionaryStorage σ]

/-- The call comes to `process_tick`, which finds the node in a watched state. -/
def Checks (x : CnReturned σ) : Prop :=
  ∃ input c, x.call = .runCycle input ∧ x.before.tickContext input = some c ∧ c.watches = true

end CnReturned

/-! ### One call -/

/-- A check sets the mark of a node to its time, or it leaves the mark and gives no alarm. -/
theorem BeatView.Checked.mark {v w : BeatView} {timeUs timeoutUs markUs : ℕ} {nodeId : NodeId}
    (h : v.Checked timeUs w) (hget : v.consumers.get? nodeId = some (timeoutUs, markUs)) :
    (w.consumers.get? nodeId = some (timeoutUs, markUs) ∧ w.alarms nodeId = v.alarms nodeId) ∨
      w.consumers.get? nodeId = some (timeoutUs, timeUs) ∧
        (w.alarms nodeId = v.alarms nodeId ∨ markUs ≠ 0 ∧ markUs + timeoutUs < timeUs ∧
          w.alarms nodeId = timeUs :: v.alarms nodeId) := by
  have hconsumer : w.consumers.get? nodeId = some (checkConsumer timeUs (timeoutUs, markUs)) := by
    rw [h.consumers, SortedMap.get?_mapValues, hget]
    rfl
  rw [hconsumer, checkConsumer]
  by_cases hset : markUs = 0 ∨ isOverdue timeUs (timeoutUs, markUs) = true
  · rw [if_pos hset]
    refine .inr ⟨rfl, (h.alarms nodeId).imp_right ?_⟩
    rintro ⟨⟨consumer, hconsumer', hoverdue⟩, hnew⟩
    obtain rfl := Option.some.inj (hget.symm.trans hconsumer')
    obtain ⟨hmarked, -, hlate⟩ := of_decide_eq_true hoverdue
    dsimp only at hlate
    exact ⟨hmarked, by omega, hnew⟩
  · rw [if_neg hset]
    refine .inl ⟨rfl, ?_⟩
    obtain hquiet | ⟨⟨consumer, hconsumer', hoverdue⟩, -⟩ := h.alarms nodeId
    · exact hquiet
    · obtain rfl := Option.some.inj (hget.symm.trans hconsumer')
      exact absurd (.inr hoverdue) hset

namespace CnContext

/-- The consumer of a node that is heard. -/
theorem get?_heard_of_hears (v : BeatView) {input : CycleInput} {nodeId : NodeId}
    {x : CnReturned σ} (hx : x.call = .runCycle input) (hhears : x.Hears nodeId) :
    (v.heard input.frame input.currentTimeUs).consumers.get? nodeId =
      (v.consumers.get? nodeId).map fun p => (p.1, input.currentTimeUs) := by
  obtain ⟨input', pres, hx', hframe, hsource⟩ := hhears
  obtain rfl := CnCall.runCycle.inj (hx.symm.trans hx')
  rw [hframe, BeatView.heard]
  exact (v.consumers.get?_modify pres.source nodeId _).trans (if_pos hsource.symm)

/-- The consumer of a node that is not heard. -/
theorem get?_heard_of_not_hears (v : BeatView) {input : CycleInput} {nodeId : NodeId}
    {x : CnReturned σ} (hx : x.call = .runCycle input) (hhears : ¬x.Hears nodeId) :
    (v.heard input.frame input.currentTimeUs).consumers.get? nodeId =
      v.consumers.get? nodeId := by
  unfold BeatView.heard
  split
  · rename_i pres hframe
    refine (v.consumers.get?_modify pres.source nodeId _).trans (if_neg ?_)
    intro hsource
    exact hhears ⟨input, pres, hx, hframe, hsource.symm⟩
  · rfl

variable [ObjectDictionaryStorage σ]

/-- No call changes the timeouts. -/
theorem heartbeatTimeout_call {c d : CnContext σ} {call : CnCall} {action : NodeAction}
    (h : c.call call = some (action, d)) (nodeId : NodeId) :
    d.heartbeatTimeout nodeId = c.heartbeatTimeout nodeId := by
  have hheard : ∀ (v : BeatView) frame timeUs,
      ((v.heard frame timeUs).consumers.get? nodeId).map Prod.fst =
        (v.consumers.get? nodeId).map Prod.fst := by
    intro v frame timeUs
    unfold BeatView.heard
    split
    · dsimp only
      rw [SortedMap.get?_modify]
      split_ifs
      · rw [Option.map_map]
        rfl
      · rfl
    · rfl
  cases call with
  | runCycle input =>
      have htimeout := hheard c.beats input.frame input.currentTimeUs
      obtain hsame | ⟨-, hchecked⟩ := runCycle_beats h
      · rw [← hsame] at htimeout
        exact htimeout
      · refine Eq.trans ?_ htimeout
        change (d.beats.consumers.get? nodeId).map Prod.fst = _
        rw [hchecked.consumers, SortedMap.get?_mapValues, Option.map_map]
        refine congrArg (Option.map · _) (funext fun consumer => ?_)
        dsimp only [Function.comp, checkConsumer]
        split_ifs
        · rfl
        · rfl
  | queueSdoRequest payload | queueNmtRequest command target | configurationComplete =>
      rw [← (Prod.mk.inj (Option.some.inj h)).2]
      rfl

omit [ObjectDictionaryStorage σ] in
/-- A received buffer leaves the mark of a node or sets it to its time. -/
theorem get?_heard (c : CnContext σ) {input : CycleInput} {nodeId : NodeId} {timeoutUs : ℕ}
    {x : CnReturned σ} (hx : x.call = .runCycle input)
    (htimeout : c.heartbeatTimeout nodeId = some timeoutUs) :
    ∃ markUs, (c.beats.heard input.frame input.currentTimeUs).consumers.get? nodeId =
        some (timeoutUs, markUs) ∧
      (x.Hears nodeId ∧ markUs = input.currentTimeUs ∨
        ¬x.Hears nodeId ∧ markUs = c.mark nodeId) := by
  have hget := get?_heartbeatConsumers htimeout
  by_cases hhears : x.Hears nodeId
  · refine ⟨_, ?_, .inl ⟨hhears, rfl⟩⟩
    rw [get?_heard_of_hears c.beats hx hhears]
    exact congrArg (Option.map _) hget
  · refine ⟨_, ?_, .inr ⟨hhears, rfl⟩⟩
    rw [get?_heard_of_not_hears c.beats hx hhears]
    exact hget

/-- A call leaves the mark of a node or sets it to its time; an alarm is about an old mark. -/
theorem call_beats {c d : CnContext σ} {call : CnCall} {action : NodeAction} {nodeId : NodeId}
    {timeoutUs : ℕ} (h : c.call call = some (action, d))
    (htimeout : c.heartbeatTimeout nodeId = some timeoutUs) :
    (¬CnReturned.Hears ⟨c, call, action, d⟩ nodeId ∧ d.mark nodeId = c.mark nodeId ∧
        heartbeatAlarms d.history nodeId = heartbeatAlarms c.history nodeId) ∨
      ∃ timeUs, call.timeUs = some timeUs ∧ d.mark nodeId = timeUs ∧
        (heartbeatAlarms d.history nodeId = heartbeatAlarms c.history nodeId ∨
          CnReturned.Checks ⟨c, call, action, d⟩ ∧
            ¬CnReturned.Hears ⟨c, call, action, d⟩ nodeId ∧ c.mark nodeId ≠ 0 ∧
            c.mark nodeId + timeoutUs < timeUs ∧
            heartbeatAlarms d.history nodeId = timeUs :: heartbeatAlarms c.history nodeId) := by
  cases call with
  | runCycle input =>
      have halarms : (c.beats.heard input.frame input.currentTimeUs).alarms = c.beats.alarms := by
        unfold BeatView.heard
        split
        · rfl
        · rfl
      have hview : ∀ {markUs}, d.beats.consumers.get? nodeId = some (timeoutUs, markUs) →
          d.mark nodeId = markUs := by
        intro markUs hconsumer
        change d.heartbeatConsumers.get? nodeId = some (timeoutUs, markUs) at hconsumer
        unfold mark
        rw [hconsumer]
        rfl
      obtain ⟨markUs, hmark, hheard⟩ :=
        c.get?_heard (x := ⟨c, .runCycle input, action, d⟩) rfl htimeout
      have houtcome : (d.mark nodeId = markUs ∧
          heartbeatAlarms d.history nodeId = heartbeatAlarms c.history nodeId) ∨
          CnReturned.Checks ⟨c, .runCycle input, action, d⟩ ∧ d.mark nodeId = input.currentTimeUs ∧
            (heartbeatAlarms d.history nodeId = heartbeatAlarms c.history nodeId ∨
              markUs ≠ 0 ∧ markUs + timeoutUs < input.currentTimeUs ∧
                heartbeatAlarms d.history nodeId =
                  input.currentTimeUs :: heartbeatAlarms c.history nodeId) := by
        obtain hsame | ⟨⟨e, hcontext, hwatches⟩, hchecked⟩ := runCycle_beats h
        · exact .inl ⟨hview (hsame ▸ hmark),
            congrFun ((congrArg BeatView.alarms hsame).trans halarms) nodeId⟩
        · have hcheck := hchecked.mark hmark
          rw [halarms] at hcheck
          exact hcheck.imp (fun h => ⟨hview h.1, h.2⟩)
            (fun h => ⟨⟨input, e, rfl, hcontext, hwatches⟩, hview h.1, h.2⟩)
      obtain ⟨-, rfl⟩ | ⟨hhears, rfl⟩ := hheard
      · refine .inr ⟨input.currentTimeUs, rfl, ?_⟩
        obtain hsame | ⟨-, hset, hsame | ⟨-, hlate, -⟩⟩ := houtcome
        · exact ⟨hsame.1, .inl hsame.2⟩
        · exact ⟨hset, .inl hsame⟩
        · omega
      · obtain hsame | ⟨hchecks, hset, hsame | ⟨hmarked, hlate, hnew⟩⟩ := houtcome
        · exact .inl ⟨hhears, hsame⟩
        · exact .inr ⟨input.currentTimeUs, rfl, hset, .inl hsame⟩
        · exact .inr ⟨input.currentTimeUs, rfl, hset,
            .inr ⟨hchecks, hhears, hmarked, hlate, hnew⟩⟩
  | queueSdoRequest payload | queueNmtRequest command target | configurationComplete =>
      rw [← (Prod.mk.inj (Option.some.inj h)).2]
      refine .inl ⟨?_, rfl, rfl⟩
      rintro ⟨_, _, hx, -⟩
      cases hx

/-- Only a call of `run_cycle` enters the watched states. -/
theorem timeUs_of_watches {c d : CnContext σ} {call : CnCall} {action : NodeAction}
    (h : c.call call = some (action, d)) (hbefore : c.watches = false)
    (hafter : d.watches = true) : ∃ timeUs, call.timeUs = some timeUs := by
  cases call with
  | runCycle input => exact ⟨input.currentTimeUs, rfl⟩
  | queueSdoRequest payload | queueNmtRequest command target =>
      obtain ⟨-, rfl⟩ := Prod.mk.inj (Option.some.inj h)
      exact absurd (hbefore.symm.trans hafter) Bool.false_ne_true
  | configurationComplete =>
      obtain ⟨-, rfl⟩ := Prod.mk.inj (Option.some.inj h)
      have hstate : (c.processNmtEvent .cnConfigurationComplete).nmtState =
          CnNmtStateMachine.nextState c.nmtState .cnConfigurationComplete := by
        unfold nmtState processNmtEvent
        dsimp only
        rw [c.nmtStateMachine.processEvent_machine c.core.od rfl]
      have hstay : ∀ state : NmtState, decide (.nmtPreOperational2 ≤ state) = false →
          decide (.nmtPreOperational2 ≤
            CnNmtStateMachine.nextState state .cnConfigurationComplete) = false := by
        intro state
        cases state <;> decide
      unfold watches at hbefore hafter
      rw [hstate, hstay _ hbefore] at hafter
      cases hafter

end CnContext

/-! ### A new node -/

theorem CnNmtStateMachine.fromOd_currentState {od : ObjectDictionary σ}
    {machine : CnNmtStateMachine} (h : CnNmtStateMachine.fromOd od = .ok machine) :
    machine.currentState = .nmtGsInitialising := by
  unfold CnNmtStateMachine.fromOd at h
  cases hread : od.read 0x1F93 1 with
  | none =>
      rw [hread] at h
      cases h
  | some value =>
      rw [hread] at h
      cases value with
      | unsigned8 v =>
          obtain ⟨_, -, h⟩ := bind_eq_ok_iff.mp h
          obtain ⟨_, -, h⟩ := bind_eq_ok_iff.mp h
          obtain ⟨_, -, h⟩ := bind_eq_ok_iff.mp h
          rw [← Except.ok.inj h]
      | _ => cases h

theorem CnContext.mark_parseHeartbeatConsumers (od : ObjectDictionary σ) {nodeId : NodeId}
    {consumer : ℕ × ℕ}
    (h : (CnContext.parseHeartbeatConsumers od).get? nodeId = some consumer) : consumer.2 = 0 := by
  unfold parseHeartbeatConsumers at h
  split at h
  · rename_i entries _
    revert h
    refine List.foldlRecOn entries _ (motive := fun consumers : SortedMap NodeId (ℕ × ℕ) =>
      consumers.get? nodeId = some consumer → consumer.2 = 0) ?_ ?_
    · rw [SortedMap.get?_empty]
      intro hnone
      cases hnone
    intro consumers hconsumers entry _ h
    split at h
    · dsimp only at h
      split_ifs at h
      · split at h
        · rw [SortedMap.get?_insert] at h
          split_ifs at h
          · rw [← Option.some.inj h]
          · exact hconsumers h
        · exact hconsumers h
      · exact hconsumers h
    · exact hconsumers h
  · cases h

/-- A new node watches nothing, and no node is marked. -/
theorem ControlledNode.new_unmarked [ObjectDictionaryStorage σ] {od : ObjectDictionary σ}
    {mac : MacAddress} {c : CnContext σ} (h : ControlledNode.new od mac = .ok c) (nodeId : NodeId) :
    c.watches = false ∧ c.mark nodeId = 0 ∧ c.history = [] := by
  dsimp only [ControlledNode.new] at h
  obtain ⟨-, -, h⟩ := bind_eq_ok_iff.mp h
  obtain ⟨-, -, h⟩ := bind_eq_ok_iff.mp h
  obtain ⟨machine, hmachine, h⟩ := bind_eq_ok_iff.mp h
  have hstate : NmtStateMachine.currentState machine = .nmtGsInitialising :=
    CnNmtStateMachine.fromOd_currentState hmachine
  have hreset : (NmtStateMachine.runInternalInitialisation machine od.init.2).1.currentState =
      .nmtNotActive := by
    unfold NmtStateMachine.runInternalInitialisation
    rw [if_neg (not_not.mpr hstate)]
    rfl
  generalize NmtStateMachine.runInternalInitialisation machine od.init.2 = r at h hreset
  have hmarks : ∀ consumer, (CnContext.parseHeartbeatConsumers od.init.2).get? nodeId =
      some consumer → consumer.2 = 0 :=
    fun consumer => CnContext.mark_parseHeartbeatConsumers _
  generalize CnContext.parseHeartbeatConsumers od.init.2 = consumers at h hmarks
  obtain rfl := Except.ok.inj h
  refine ⟨?_, ?_, rfl⟩
  · change decide (.nmtPreOperational2 ≤ r.1.currentState) = false
    rw [hreset]
    rfl
  · change ((consumers.get? nodeId).map Prod.snd).getD 0 = 0
    cases hconsumer : consumers.get? nodeId with
    | none => rfl
    | some consumer => exact hmarks consumer hconsumer

/-! ### Runs -/

namespace CnRun

/-- The times of the calls are positive and do not decrease. -/
def Punctual (r : CnRun σ) : Prop :=
  r.InOrder ∧ ∀ x ∈ r.returned, ∀ timeUs, x.call.timeUs = some timeUs → 0 < timeUs

/-- The node has been in watched states since a call at the given time, where the calls are those up
to now, newest first. -/
def WatchedSince (calls : List (CnReturned σ)) (sinceUs : ℕ) : Prop :=
  ∃ later x earlier, calls = later ++ x :: earlier ∧ x.call.timeUs = some sinceUs ∧
    ∀ y ∈ later ++ [x], y.after.watches = true

/-- Every alarm of the node comes after more than a timeout in watched states and without a PRes of
the node, and any two alarms are more than a timeout apart. -/
structure AlarmsAreReal (r : CnRun σ) (nodeId : NodeId) (timeoutUs : ℕ) : Prop where
  silent : ∀ x earlier, x :: earlier <:+ r.returned → x.Alarms nodeId →
    ∃ timeUs, x.call.timeUs = some timeUs ∧
      (∃ sinceUs, WatchedSince earlier sinceUs ∧ sinceUs + timeoutUs < timeUs) ∧
      ∀ y ∈ x :: earlier, y.Hears nodeId → ∀ heardUs, y.call.timeUs = some heardUs →
        heardUs + timeoutUs < timeUs
  apart : (heartbeatAlarms r.context.history nodeId).Pairwise
    (fun later earlier => earlier + timeoutUs < later)

/-- The call `x` has entered the watched states, in which every later call started. -/
structure EnteredWith (calls later : List (CnReturned σ)) (x : CnReturned σ)
    (earlier : List (CnReturned σ)) (enteredUs : ℕ) : Prop where
  split : calls = later ++ x :: earlier
  outside : x.before.watches = false
  inside : ∀ y ∈ later, y.before.watches = true
  time : x.call.timeUs = some enteredUs

theorem EnteredWith.self {x : CnReturned σ} {earlier : List (CnReturned σ)} {enteredUs : ℕ}
    (h : x.before.watches = false) (htime : x.call.timeUs = some enteredUs) :
    EnteredWith (x :: earlier) [] x earlier enteredUs :=
  ⟨rfl, h, List.forall_mem_nil _, htime⟩

theorem EnteredWith.cons {calls later earlier : List (CnReturned σ)} {x y : CnReturned σ}
    {enteredUs : ℕ} (h : EnteredWith calls later x earlier enteredUs)
    (hy : y.before.watches = true) :
    EnteredWith (y :: calls) (y :: later) x earlier enteredUs :=
  ⟨congrArg (List.cons y) h.split, h.outside, List.forall_mem_cons.mpr ⟨hy, h.inside⟩, h.time⟩

variable [ObjectDictionaryStorage σ]

/-- The call checks a stale mark: the node has entered the watched states not more than a timeout
ago, the mark that it found there is older than the timeout, and the watched node has not been heard
since. -/
def StaleCheck (nodeId : NodeId) (timeoutUs : ℕ) (x : CnReturned σ)
    (earlier : List (CnReturned σ)) : Prop :=
  ∃ later y before enteredUs timeUs, EnteredWith (x :: earlier) later y before enteredUs ∧
    x.Checks ∧ (∀ z ∈ later ++ [y], ¬z.Hears nodeId) ∧ x.call.timeUs = some timeUs ∧
    timeUs ≤ enteredUs + timeoutUs ∧ y.before.mark nodeId ≠ 0 ∧
    y.before.mark nodeId + timeoutUs < timeUs

/-- No call of the run checks a stale mark of the node. -/
def NoStaleCheck (r : CnRun σ) (nodeId : NodeId) (timeoutUs : ℕ) : Prop :=
  ∀ x earlier, x :: earlier <:+ r.returned → ¬StaleCheck nodeId timeoutUs x earlier

omit [ObjectDictionaryStorage σ] in
/-- The mark of the node is the latest of its times, and in a watched state it is from behind the
entry or from before it. -/
structure Marked (r : CnRun σ) (nodeId : NodeId) (timeoutUs : ℕ) : Prop where
  time : r.context.mark nodeId = 0 ∨
    ∃ x ∈ r.returned, x.call.timeUs = some (r.context.mark nodeId)
  heard : ∀ x ∈ r.returned, x.Hears nodeId → ∀ timeUs, x.call.timeUs = some timeUs →
    timeUs ≤ r.context.mark nodeId
  alarms : ∀ timeUs ∈ heartbeatAlarms r.context.history nodeId, timeUs ≤ r.context.mark nodeId
  entry : r.context.watches = true → ∃ later y before enteredUs,
    EnteredWith r.returned later y before enteredUs ∧
      (∀ z ∈ later ++ [y], z.after.watches = true) ∧
      (enteredUs ≤ r.context.mark nodeId ∨
        r.context.mark nodeId = y.before.mark nodeId ∧ ∀ z ∈ later ++ [y], ¬z.Hears nodeId)
  real : r.AlarmsAreReal nodeId timeoutUs

omit [ObjectDictionaryStorage σ] in
theorem Punctual.of_cons {c d : CnContext σ} {x : CnReturned σ} {returned : List (CnReturned σ)}
    (h : Punctual ⟨d, x :: returned⟩) :
    Punctual ⟨c, returned⟩ ∧ ∀ timeUs, x.call.timeUs = some timeUs → ∀ y ∈ returned,
      ∀ earlierUs, y.call.timeUs = some earlierUs → earlierUs ≤ timeUs := by
  obtain ⟨horder, hpositive⟩ := h
  unfold InOrder at horder
  obtain ⟨hfirst, hrest⟩ := List.pairwise_cons.mp (List.pairwise_filterMap.mp horder)
  refine ⟨⟨List.pairwise_filterMap.mpr hrest, fun y hy => hpositive y (List.mem_cons_of_mem _ hy)⟩,
    ?_⟩
  intro timeUs hx y hy earlierUs hearlier
  exact hfirst y hy timeUs hx earlierUs hearlier

section step

variable {r : CnRun σ} {call : CnCall} {action : NodeAction} {d : CnContext σ} {nodeId : NodeId}
  {timeoutUs : ℕ}

/-- An alarm is real, unless it is about a stale mark. -/
theorem Marked.watchedSince (h : r.Marked nodeId timeoutUs) {timeUs : ℕ}
    (htime : call.timeUs = some timeUs)
    (hfresh : ¬StaleCheck nodeId timeoutUs ⟨r.context, call, action, d⟩ r.returned)
    (hchecks : CnReturned.Checks ⟨r.context, call, action, d⟩)
    (hhears : ¬CnReturned.Hears ⟨r.context, call, action, d⟩ nodeId)
    (hmarked : r.context.mark nodeId ≠ 0) (hlate : r.context.mark nodeId + timeoutUs < timeUs) :
    ∃ sinceUs, WatchedSince r.returned sinceUs ∧ sinceUs + timeoutUs < timeUs := by
  cases hbefore : r.context.watches with
  | false =>
      refine absurd ⟨[], _, _, timeUs, timeUs, .self hbefore htime, hchecks, ?_, htime,
        Nat.le_add_right _ _, hmarked, hlate⟩ hfresh
      intro z hz
      rwa [List.mem_singleton.mp hz]
  | true =>
      obtain ⟨later, y, before, enteredUs, hentered, hstay, hmark⟩ := h.entry hbefore
      have hsince : WatchedSince r.returned enteredUs :=
        ⟨later, y, before, hentered.split, hentered.time, hstay⟩
      obtain hnew | ⟨hold, hsilent⟩ := hmark
      · exact ⟨enteredUs, hsince, by omega⟩
      · by_cases hlong : enteredUs + timeoutUs < timeUs
        · exact ⟨enteredUs, hsince, hlong⟩
        · -- the mark is from before the entry, and the check comes too early
          rw [hold] at hmarked hlate
          exact absurd ⟨_, y, before, enteredUs, timeUs, hentered.cons hbefore, hchecks,
            List.forall_mem_cons.mpr ⟨hhears, hsilent⟩, htime, Nat.not_lt.mp hlong, hmarked, hlate⟩
            hfresh

omit [ObjectDictionaryStorage σ] in
/-- Alarms that a call leaves as they are stay real. -/
theorem AlarmsAreReal.of_quiet (h : r.AlarmsAreReal nodeId timeoutUs)
    (hquiet : heartbeatAlarms d.history nodeId = heartbeatAlarms r.context.history nodeId) :
    AlarmsAreReal ⟨d, ⟨r.context, call, action, d⟩ :: r.returned⟩ nodeId timeoutUs := by
  refine ⟨fun x earlier hsuffix halarm => ?_, by rw [hquiet]; exact h.apart⟩
  rcases List.suffix_cons_iff.mp hsuffix with heq | hsuffix
  · obtain ⟨rfl, -⟩ := List.cons.inj heq
    unfold CnReturned.Alarms at halarm
    rw [hquiet] at halarm
    exact absurd halarm (lt_irrefl _)
  · exact h.silent x earlier hsuffix halarm

/-- The step lemma: a call that checks no stale mark keeps the invariant. -/
theorem Marked.step (h : r.Marked nodeId timeoutUs)
    (htimeout : r.context.heartbeatTimeout nodeId = some timeoutUs)
    (hcall : r.context.call call = some (action, d))
    (hpunctual : Punctual ⟨d, ⟨r.context, call, action, d⟩ :: r.returned⟩)
    (hfresh : ¬StaleCheck nodeId timeoutUs ⟨r.context, call, action, d⟩ r.returned) :
    Marked ⟨d, ⟨r.context, call, action, d⟩ :: r.returned⟩ nodeId timeoutUs := by
  have hbeats := CnContext.call_beats hcall htimeout
  obtain ⟨-, horder⟩ := hpunctual.of_cons (c := r.context)
  have hsingle : ∀ {P : CnReturned σ → Prop}, P ⟨r.context, call, action, d⟩ →
      ∀ z ∈ [] ++ [(⟨r.context, call, action, d⟩ : CnReturned σ)], P z := by
    intro P hP z hz
    rwa [List.mem_singleton.mp hz]
  obtain ⟨hhears, hmark, hquiet⟩ | ⟨timeUs, htime, hmark, halarm⟩ := hbeats
  · -- the mark stays
    refine ⟨?_, ?_, ?_, fun hafter => ?_, h.real.of_quiet hquiet⟩
    · dsimp only
      rw [hmark]
      exact h.time.imp_right fun ⟨x, hx, hat⟩ => ⟨x, List.mem_cons_of_mem _ hx, hat⟩
    · dsimp only
      rw [hmark]
      refine List.forall_mem_cons.mpr ⟨fun hx => absurd hx hhears, h.heard⟩
    · dsimp only
      rw [hmark, hquiet]
      exact h.alarms
    · dsimp only
      rw [hmark]
      cases hbefore : r.context.watches with
      | false =>
          obtain ⟨timeUs, htime⟩ := CnContext.timeUs_of_watches hcall hbefore hafter
          exact ⟨[], _, r.returned, timeUs, .self hbefore htime, hsingle hafter,
            .inr ⟨rfl, hsingle hhears⟩⟩
      | true =>
          obtain ⟨later, y, before, enteredUs, hentered, hstay, hold⟩ := h.entry hbefore
          exact ⟨_, y, before, enteredUs, hentered.cons hbefore,
            List.forall_mem_cons.mpr ⟨hafter, hstay⟩,
            hold.imp_right fun ⟨hold, hsilent⟩ =>
              ⟨hold, List.forall_mem_cons.mpr ⟨hhears, hsilent⟩⟩⟩
  · -- the mark is the time of the call
    have hbound : r.context.mark nodeId ≤ timeUs := by
      obtain hzero | ⟨x, hx, hat⟩ := h.time
      · rw [hzero]
        exact Nat.zero_le _
      · exact horder timeUs htime x hx _ hat
    refine ⟨?_, ?_, ?_, fun hafter => ?_, ?_⟩
    · dsimp only
      rw [hmark]
      exact .inr ⟨_, List.mem_cons_self, htime⟩
    · dsimp only
      rw [hmark]
      refine List.forall_mem_cons.mpr ⟨fun _ heardUs hheard => ?_, fun x hx hhears heardUs hheard =>
        (h.heard x hx hhears heardUs hheard).trans hbound⟩
      exact (Option.some.inj (hheard.symm.trans htime)).le
    · dsimp only
      rw [hmark]
      obtain hquiet | ⟨-, -, -, -, hnew⟩ := halarm
      · rw [hquiet]
        exact fun s hs => (h.alarms s hs).trans hbound
      · rw [hnew]
        exact List.forall_mem_cons.mpr ⟨le_rfl, fun s hs => (h.alarms s hs).trans hbound⟩
    · dsimp only
      rw [hmark]
      cases hbefore : r.context.watches with
      | false =>
          exact ⟨[], _, r.returned, timeUs, .self hbefore htime, hsingle hafter, .inl le_rfl⟩
      | true =>
          obtain ⟨later, y, before, enteredUs, hentered, hstay, -⟩ := h.entry hbefore
          have hy : y ∈ r.returned := by
            rw [hentered.split]
            exact List.mem_append_right _ List.mem_cons_self
          exact ⟨_, y, before, enteredUs, hentered.cons hbefore,
            List.forall_mem_cons.mpr ⟨hafter, hstay⟩,
            .inl (horder timeUs htime y hy enteredUs hentered.time)⟩
    · obtain hquiet | ⟨hchecks, hhears, hmarked, hlate, hnew⟩ := halarm
      · exact h.real.of_quiet hquiet
      · have hsince := h.watchedSince htime hfresh hchecks hhears hmarked hlate
        refine ⟨fun x earlier hsuffix hx => ?_, ?_⟩
        · rcases List.suffix_cons_iff.mp hsuffix with heq | hsuffix
          · obtain ⟨rfl, rfl⟩ := List.cons.inj heq
            refine ⟨timeUs, htime, hsince, List.forall_mem_cons.mpr ⟨fun hx => absurd hx hhears, ?_⟩⟩
            intro y hy hyhears heardUs hheard
            have hle := h.heard y hy hyhears heardUs hheard
            omega
          · exact h.real.silent x earlier hsuffix hx
        · dsimp only
          rw [hnew]
          refine List.pairwise_cons.mpr ⟨fun s hs => ?_, h.real.apart⟩
          have hle := h.alarms s hs
          omega

end step

/-- No heartbeat alarm is false in a run without a stale check. -/
theorem no_false_heartbeat_alarm :
    Throughout (fun r : CnRun σ => ∀ nodeId timeoutUs, 0 < timeoutUs →
      r.context.heartbeatTimeout nodeId = some timeoutUs → r.Punctual →
      r.NoStaleCheck nodeId timeoutUs → r.AlarmsAreReal nodeId timeoutUs) := by
  have hmarked : Throughout (fun r : CnRun σ => ∀ nodeId timeoutUs, 0 < timeoutUs →
      r.context.heartbeatTimeout nodeId = some timeoutUs → r.Punctual →
      r.NoStaleCheck nodeId timeoutUs → r.Marked nodeId timeoutUs) := by
    apply throughout_of_new
    · intro od mac c hc nodeId timeoutUs _ _ _ _
      obtain ⟨hwatches, hmark, hhistory⟩ := ControlledNode.new_unmarked hc nodeId
      refine ⟨.inl hmark, List.forall_mem_nil _, ?_, fun h => ?_, ⟨fun x earlier h => ?_, ?_⟩⟩
      · dsimp only
        rw [hhistory]
        exact List.forall_mem_nil _
      · rw [hwatches] at h
        cases h
      · exact absurd (List.suffix_nil.mp h) (List.cons_ne_nil x earlier)
      · dsimp only
        rw [hhistory]
        exact List.Pairwise.nil
    · intro r call action d hr hcall nodeId timeoutUs hpos htimeout hpunctual hfresh
      have hbefore : r.context.heartbeatTimeout nodeId = some timeoutUs :=
        (CnContext.heartbeatTimeout_call hcall nodeId).symm.trans htimeout
      have hpast := hr nodeId timeoutUs hpos hbefore hpunctual.of_cons.1
        fun x earlier hsuffix => hfresh x earlier (hsuffix.trans (List.suffix_cons _ _))
      exact hpast.step hbefore hcall hpunctual (hfresh _ _ (List.suffix_refl _))
  exact hmarked.mono fun r hr nodeId timeoutUs hpos htimeout hpunctual hfresh =>
    (hr nodeId timeoutUs hpos htimeout hpunctual hfresh).real

omit [ObjectDictionaryStorage σ] in
/-- A real alarm of the last call comes after a call that ended in a watched state. -/
theorem watched_of_alarmsAreReal {r : CnRun σ}
    (h : ∀ nodeId timeoutUs, 0 < timeoutUs →
      r.context.heartbeatTimeout nodeId = some timeoutUs → r.Punctual →
      r.AlarmsAreReal nodeId timeoutUs)
    (htimeout : r.context.heartbeatTimeout ⟨2⟩ = some 1000) (horder : r.InOrder)
    (hpositive : ∀ timeUs ∈ r.returned.filterMap (fun x => x.call.timeUs), 0 < timeUs) :
    ∀ x ∈ r.returned.take 1, x.Alarms ⟨2⟩ → ∃ y ∈ r.returned.drop 1, y.after.watches = true := by
  have hreal := h ⟨2⟩ 1000 (by decide) htimeout
    ⟨horder, fun x hx timeUs ht => hpositive timeUs (List.mem_filterMap.mpr ⟨x, hx, ht⟩)⟩
  intro x hx halarm
  cases hreturned : r.returned with
  | nil =>
      rw [hreturned] at hx
      cases hx
  | cons z earlier =>
      rw [hreturned, List.take_succ_cons, List.take_zero, List.mem_singleton] at hx
      obtain ⟨timeUs, -, ⟨sinceUs, ⟨later, y, before, hsplit, -, hstay⟩, -⟩, -⟩ :=
        hreal.silent z earlier (hreturned ▸ List.suffix_refl _) (hx ▸ halarm)
      refine ⟨y, ?_, hstay y (List.mem_append_right _ (List.mem_singleton.mpr rfl))⟩
      rw [List.drop_succ_cons, List.drop_zero, hsplit]
      exact List.mem_append_right _ List.mem_cons_self

/-- The PRes of node 2. -/
def presOfNode2 : PowerlinkFrame :=
  .pRes (.new ⟨0, 0, 0, 0, 0, 2⟩ ⟨2⟩ .nmtOperational ⟨false, false, false, .prioGenericRequest, ⟨0⟩⟩
    ⟨0⟩ [])

/-- Node 2 is heard at 1000 us, long before the second SoC brings the node into a watched state at
5000 us; the tick of the same call reports a timeout of node 2. -/
theorem heartbeat_alarm_at_entry :
    ¬ Throughout (fun r : CnRun Empty => ∀ nodeId timeoutUs, 0 < timeoutUs →
      r.context.heartbeatTimeout nodeId = some timeoutUs → r.Punctual →
      r.AlarmsAreReal nodeId timeoutUs) := by
  intro h
  have hwatched := h.mono (fun r hr => show r.context.heartbeatTimeout ⟨2⟩ = some 1000 →
      r.InOrder → (∀ timeUs ∈ r.returned.filterMap (fun x => x.call.timeUs), 0 < timeUs) →
      ∀ x ∈ r.returned.take 1, x.Alarms ⟨2⟩ → ∃ y ∈ r.returned.drop 1, y.after.watches = true from
    watched_of_alarmsAreReal hr)
    (cnDictionary 1 1000 [0x00020001]) ⟨0, 0, 0, 0, 0, 1⟩
    [.frame presOfNode2 1000, .soc 4000, .soc 5000]
  revert hwatched
  unfold InOrder CnReturned.Alarms
  apply Runs.not_always_reached
  decide +kernel

end CnRun

end Powerlink
