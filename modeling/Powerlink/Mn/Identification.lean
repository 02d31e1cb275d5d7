import Powerlink.Mn.BootOrder

/-! # No node joins without identification

An IdentResponse is checked before its sender is tracked as identified.  A PRes or a StatusResponse
is not: `update_cn_state` takes the reported state over, also for a node that is unknown or lost.
`identification_required` says that this is the only way around the checks: where no such node
reports a state, every node that joins in a call has sent an IdentResponse in it that passes the
checks, and every node that is not absent was identified since it was last lost. -/

namespace Powerlink

/-- The tracked state of a node that has not been identified, or has been lost. -/
def IsAbsent (state : CnState) : Prop := state = .unknown ∨ state = .missing

instance (state : CnState) : Decidable (IsAbsent state) := inferInstanceAs (Decidable (_ ∨ _))

/-- An IdentResponse of the node has passed the checks since the node was last lost. -/
def identifiedSince (nodeId : NodeId) : List MnEvent → Bool
  | [] => false
  | .validated source :: log => decide (source = nodeId) || identifiedSince nodeId log
  | .tracked source _ .missing :: log =>
      !decide (source = nodeId) && identifiedSince nodeId log
  | _ :: log => identifiedSince nodeId log

theorem identifiedSince_tracked {nodeId source : NodeId} {info : CnInfo} {new : CnState}
    (log : List MnEvent) (h : source ≠ nodeId ∨ new ≠ .missing) :
    identifiedSince nodeId (.tracked source info new :: log) = identifiedSince nodeId log := by
  cases new with
  | missing =>
      obtain hne | hne := h
      · show (!decide (source = nodeId) && identifiedSince nodeId log) = _
        rw [decide_eq_false hne]
        rfl
      · exact absurd rfl hne
  | _ => rfl

theorem identifiedSince_filter (nodeId : NodeId) : ∀ history : List MnEvent,
    identifiedSince nodeId (history.filter (fun e => !e.isCycle)) = identifiedSince nodeId history
  | [] => rfl
  | event :: history => by
      have ih := identifiedSince_filter nodeId history
      cases event with
      | validated source => exact congrArg (decide (source = nodeId) || ·) ih
      | tracked source info new =>
          cases new with
          | missing => exact congrArg (!decide (source = nodeId) && ·) ih
          | _ => exact ih
      | _ => exact ih

/-! ### Steps -/

/-- Every node that is not absent was identified. -/
def BootView.AllIdentified (v : BootView) : Prop :=
  ∀ nodeId, ¬ IsAbsent (v.nodes.state nodeId) → identifiedSince nodeId v.log = true

/-- No absent node reports another state. -/
def AbsentSilent (reports : NodeId → CnState → NmtState → Prop) : Prop :=
  ∀ nodeId state reported, reports nodeId state reported → IsAbsent state →
    CnState.ofReported reported state = state

section steps

variable {reports : NodeId → CnState → NmtState → Prop} {identified : NodeId → Prop}
  {v w : BootView}

/-- A reported state is never `Missing`. -/
theorem ofReported_ne_missing {reported : NmtState} {current : CnState}
    (h : current ≠ CnState.ofReported reported current) :
    CnState.ofReported reported current ≠ .missing := by
  unfold CnState.ofReported at h ⊢
  split at h
  · exact CnState.noConfusion
  · exact CnState.noConfusion
  · exact CnState.noConfusion
  · exact CnState.noConfusion
  · exact CnState.noConfusion
  · exact absurd rfl h

/-- The tracked state of one node is changed, and the log grows. -/
theorem BootView.AllIdentified.replace {nodes : NodeTable} {nodeId : NodeId} {info info' : CnInfo}
    {log : List MnEvent} (hv : v.AllIdentified) (h : v.nodes.Replaces nodes nodeId info info')
    (hlog : ∀ m, m ≠ nodeId → identifiedSince m v.log = true → identifiedSince m log = true)
    (hself : ¬ IsAbsent info'.state → identifiedSince nodeId log = true) :
    BootView.AllIdentified { v with nodes := nodes, log := log } := by
  intro m hstate
  by_cases hm : m = nodeId
  · subst hm
    apply hself
    rwa [← NodeTable.state_of_get? h.new]
  · apply hlog m hm
    apply hv
    rwa [← h.state_ne hm]

/-- A step keeps the nodes identified. -/
theorem BootView.AllIdentified.step (hsilent : AbsentSilent reports)
    (hstep : BootStep reports identified v w) (hv : v.AllIdentified) : w.AllIdentified := by
  cases hstep with
  | @keep nodes nodeId info info' h hstate hok =>
      refine hv.replace h (fun _ _ => id) ?_
      rw [hstate, ← NodeTable.state_of_get? h.old]
      exact hv nodeId
  | @report nodes nodeId info info' reported h hreports hne hstate hok =>
      have hmissing : info'.state ≠ .missing := by
        rw [hstate]
        exact ofReported_ne_missing hne
      refine hv.replace h ?_ ?_
      · intro m hm hsince
        rw [identifiedSince_tracked _ (.inl hm.symm)]
        exact hsince
      · intro _
        rw [identifiedSince_tracked _ (.inr hmissing)]
        apply hv
        rw [NodeTable.state_of_get? h.old]
        exact fun habsent => hne (hsilent _ _ _ hreports habsent).symm
  | lose h hstate hok =>
      refine hv.replace h ?_ ?_
      · intro m hm hsince
        rw [identifiedSince_tracked _ (.inl hm.symm)]
        exact hsince
      · exact fun hpresent => absurd (.inr hstate) hpresent
  | @identify nodes nodeId info info' h hidentified hwas hstate hok =>
      have hlog : ∀ m, identifiedSince m
          (.tracked nodeId info .identified :: .validated nodeId :: v.log) =
          (decide (nodeId = m) || identifiedSince m v.log) := fun _ => rfl
      refine hv.replace h ?_ ?_
      · intro m hm hsince
        rw [hlog, hsince, Bool.or_true]
      · intro _
        rw [hlog, decide_eq_true rfl, Bool.true_or]
  | answer nodeId withinLimit => exact hv
  | @verify nodes nodeId info info' log h hlog hstate hok =>
      refine hv.replace h (fun _ _ => id) ?_
      rw [hstate, ← NodeTable.state_of_get? h.old]
      exact hv nodeId
  | move new hgate => exact hv

/-- The node is absent, or it has been identified. -/
theorem BootStep.absent_or (hsilent : AbsentSilent reports) {nodeId : NodeId} {Q : Prop}
    (hidentified : identified nodeId → Q) (hstep : BootStep reports identified v w)
    (h : IsAbsent (v.nodes.state nodeId) ∨ Q) : IsAbsent (w.nodes.state nodeId) ∨ Q := by
  obtain habsent | hq := h
  case inr => exact .inr hq
  -- only a report or an identification of the node itself can end its absence
  have hother : ∀ {nodes : NodeTable} {m : NodeId} {info info' : CnInfo},
      v.nodes.Replaces nodes m info info' → (m = nodeId → IsAbsent info'.state ∨ Q) →
      IsAbsent (nodes.state nodeId) ∨ Q := by
    intro nodes m info info' hreplaces hself
    by_cases hm : nodeId = m
    · subst hm
      rw [NodeTable.state_of_get? hreplaces.new]
      exact hself rfl
    · rw [hreplaces.state_ne hm]
      exact .inl habsent
  cases hstep with
  | keep hreplaces hstate hok =>
      refine hother hreplaces ?_
      rintro rfl
      rw [hstate, ← NodeTable.state_of_get? hreplaces.old]
      exact .inl habsent
  | report reported hreplaces hreports hne hstate hok =>
      refine hother hreplaces ?_
      rintro rfl
      rw [NodeTable.state_of_get? hreplaces.old] at habsent
      exact absurd (hsilent _ _ _ hreports habsent).symm hne
  | lose hreplaces hstate hok => exact hother hreplaces (fun _ => .inl (.inr hstate))
  | identify hreplaces hident hwas hstate hok =>
      refine hother hreplaces ?_
      rintro rfl
      exact .inr (hidentified hident)
  | answer m withinLimit => exact .inl habsent
  | verify hreplaces hlog hstate hok =>
      refine hother hreplaces ?_
      rintro rfl
      rw [hstate, ← NodeTable.state_of_get? hreplaces.old]
      exact .inl habsent
  | move new hgate => exact .inl habsent

end steps

/-! ### Runs -/

/-- No node that is unknown or lost reports another state in the call. -/
def Returned.AbsentSilent {σ : Type} (x : Returned σ) : Prop :=
  Powerlink.AbsentSilent (x.before.Reports x.input)

/-- A node that joins in the call has sent an IdentResponse in it that passes the checks. -/
def Returned.JoinsIdentified {σ : Type} (x : Returned σ) : Prop :=
  ∀ nodeId, IsAbsent (x.before.nodeInfo.state nodeId) →
    HasJoined (x.after.nodeInfo.state nodeId) → x.before.Validates x.input nodeId

theorem HasJoined.not_isAbsent {state : CnState} (h : HasJoined state) : ¬ IsAbsent state := by
  revert h
  cases state <;> decide

namespace MnRun

variable {σ : Type} [ObjectDictionaryStorage σ]

theorem joinsIdentified_of_runCycle {c d : MnContext σ} {input : CycleInput} {action : NodeAction}
    (hrun : c.runCycle input = some (action, d)) (hqueue : c.QueueOk)
    (hsilent : Returned.AbsentSilent ⟨c, input, action, d⟩) :
    Returned.JoinsIdentified ⟨c, input, action, d⟩ := by
  intro nodeId habsent hjoined
  obtain ⟨v, hreceived, hticked⟩ := MnContext.runCycle_boot hrun hqueue
  have hv : IsAbsent (v.nodes.state nodeId) ∨ c.Validates input nodeId :=
    hreceived.induct (fun _ _ hstep => BootStep.absent_or hsilent id hstep) (.inl habsent)
  have hd : IsAbsent (d.nodeInfo.state nodeId) ∨ c.Validates input nodeId :=
    hticked.induct (fun _ _ hstep => BootStep.absent_or (fun _ _ _ h => h.elim) False.elim hstep) hv
  exact hd.resolve_left hjoined.not_isAbsent

theorem allIdentified_of_runCycle {c d : MnContext σ} {input : CycleInput} {action : NodeAction}
    (hrun : c.runCycle input = some (action, d)) (hqueue : c.QueueOk)
    (hsilent : Returned.AbsentSilent ⟨c, input, action, d⟩) (h : c.bootView.AllIdentified) :
    d.bootView.AllIdentified := by
  obtain ⟨v, hreceived, hticked⟩ := MnContext.runCycle_boot hrun hqueue
  have hv := hreceived.induct (fun _ _ => BootView.AllIdentified.step hsilent) h
  exact hticked.induct (fun _ _ => BootView.AllIdentified.step (fun _ _ _ h => h.elim)) hv

/-- In every run in which no node that is unknown or lost reports another state, every node that
joins in a call has sent an IdentResponse in it that passes the checks, and every node that is not
absent was identified since it was last lost. -/
theorem identification_required :
    Throughout (fun r : MnRun σ => (∀ x ∈ r.returned, x.AbsentSilent) →
      (∀ x ∈ r.returned, x.JoinsIdentified) ∧
        ∀ nodeId, ¬ IsAbsent (r.context.nodeInfo.state nodeId) →
          identifiedSince nodeId r.context.history = true) := by
  have hinv : Throughout (fun r : MnRun σ => (∀ x ∈ r.returned, x.AbsentSilent) →
      (∀ x ∈ r.returned, x.JoinsIdentified) ∧ r.context.bootView.AllIdentified) := by
    apply throughout_of_cycleInv
    · intro od mac cfg machine cycleTimeUs lists publish hfresh _
      refine ⟨fun _ hx => (nomatch hx), ?_⟩
      intro nodeId hpresent
      refine absurd (.inl ?_) hpresent
      show lists.nodeInfo.state nodeId = .unknown
      unfold NodeTable.state
      split
      · rename_i info hget
        rw [hfresh nodeId info hget]
      · rfl
    · intro r input action d hcycle hr hrun hsilent
      obtain ⟨hhead, htail⟩ := List.forall_mem_cons.mp hsilent
      obtain ⟨hjoins, hall⟩ := hr htail
      refine ⟨List.forall_mem_cons.mpr ⟨?_, hjoins⟩, ?_⟩
      · exact joinsIdentified_of_runCycle hrun hcycle.queue hhead
      · exact allIdentified_of_runCycle hrun hcycle.queue hhead hall
  refine hinv.mono ?_
  intro r hr hsilent
  obtain ⟨hjoins, hall⟩ := hr hsilent
  refine ⟨hjoins, ?_⟩
  intro nodeId hpresent
  rw [← identifiedSince_filter]
  exact hall nodeId hpresent

/-- A StatusResponse makes a node preoperational that has never sent an IdentResponse. -/
theorem status_response_joins :
    ¬ Throughout (fun r : MnRun Empty => (∀ x ∈ r.returned, x.JoinsIdentified) ∧
      ∀ nodeId, ¬ IsAbsent (r.context.nodeInfo.state nodeId) →
        identifiedSince nodeId r.context.history = true) := by
  intro h
  have hnot : ¬ Throughout (fun r : MnRun Empty =>
      ¬ IsAbsent (r.context.nodeInfo.state ⟨1⟩) →
        identifiedSince ⟨1⟩ r.context.history = true) := by
    apply not_throughout (mnDictionary 0 [1]) ⟨0, 0, 0, 0, 0, 240⟩ none
      [.idle 0, .idle 10, .statusResponse 1 .nmtPreOperational2 20]
    decide +kernel
  exact hnot (h.mono (fun r hr => hr.2 ⟨1⟩))

end MnRun

end Powerlink
