import Powerlink.Mn.Runs

/-! # Waits and deadlines

A managing node waits in two phases, for a PRes and for an ASnd.  `NoStall` is the invariant of
the cycle that keeps it alive: in a wait the timeout is pending, and the next tick is not later
than the deadline of the wait (`cycle_never_stalls`).

The next tick may well be earlier than the deadline: an answer clears the pending timeout and
leaves the tick, and the next wait keeps the earlier of the two.  A timeout is then delivered too
early.  `timeouts_not_early` says that this is the only way: it is enough that no wait is scheduled
over an earlier tick. -/

namespace Powerlink

/-- The newest scheduled timeout and its deadline. -/
def lastScheduled : List MnEvent → Option (DllMsEvent × ℕ)
  | [] => none
  | .scheduled event deadlineUs _ :: _ => some (event, deadlineUs)
  | _ :: log => lastScheduled log

/-- A timeout is the newest scheduled one, and its deadline has passed. -/
def deadlineMet (log : List MnEvent) (event : DllMsEvent) (timeUs : ℕ) : Bool :=
  match lastScheduled log with
  | some (scheduled, deadlineUs) => decide (scheduled = event) && decide (deadlineUs ≤ timeUs)
  | none => false

/-- Every delivered timeout has met its deadline. -/
def onTime : List MnEvent → Bool
  | [] => true
  | .timedOut event timeUs :: log => deadlineMet log event timeUs && onTime log
  | _ :: log => onTime log

/-- A timeout is not scheduled over an earlier tick. -/
def MnEvent.isFresh : MnEvent → Bool
  | .scheduled _ deadlineUs (some previous) => decide (deadlineUs ≤ previous)
  | _ => true

theorem lastScheduled_filter : ∀ history : List MnEvent,
    lastScheduled (history.filter MnEvent.isCycle) = lastScheduled history
  | [] => rfl
  | event :: history => by
      have ih := lastScheduled_filter history
      cases event <;> first | rfl | exact ih

theorem onTime_filter : ∀ history : List MnEvent,
    onTime (history.filter MnEvent.isCycle) = onTime history
  | [] => rfl
  | event :: history => by
      have ih := onTime_filter history
      cases event with
      | timedOut event timeUs =>
          show (deadlineMet (history.filter MnEvent.isCycle) event timeUs &&
            onTime (history.filter MnEvent.isCycle)) = _
          rw [ih, deadlineMet, lastScheduled_filter]
          rfl
      | _ => exact ih

/-- The next tick after scheduling is not later than the deadline. -/
theorem earlierDeadline_le (existing : Option ℕ) (deadline : ℕ) :
    ∃ t, earlierDeadline existing deadline = some t ∧ t ≤ deadline := by
  unfold earlierDeadline
  split
  · split_ifs with hlt
    · exact ⟨deadline, rfl, le_rfl⟩
    · exact ⟨_, rfl, Nat.not_lt.mp hlt⟩
  · exact ⟨deadline, rfl, le_rfl⟩

/-! ### The cycle does not stall -/

/-- The cycle waits for an event. -/
def CycleView.Waits (v : CycleView) (event : DllMsEvent) : Prop :=
  v.pending = some event ∧ ∃ t deadline, v.nextTick = some t ∧
    lastScheduled v.log = some (event, deadline) ∧ t ≤ deadline

/-- The invariant of the cycle. -/
structure CycleView.NoStall (v : CycleView) : Prop where
  done : v.phase ≠ .isochronousDone
  polling : v.phase = .isochronousPReq → v.Waits .presTimeout
  inviting : v.phase = .asynchronousSoA → v.Waits .asndTimeout
  resting : v.phase ≠ .isochronousPReq → v.phase ≠ .asynchronousSoA → v.pending = none
  inactive : v.active = false → v.phase = .idle

namespace MnContext

variable {σ : Type} {t : ℕ} {v w : CycleView} {d : MnContext σ} {action : NodeAction}

/-- Advancing the phase starts a wait properly, or none. -/
theorem Advanced.noStall (h : Advanced v d action) (hactive : v.active = true)
    (hpending : v.pending = none) : d.view.NoStall := by
  cases h with
  | poll idx deadline hnmt hrem hskip hnode hrest hcomplete hview =>
      obtain ⟨t, ht, hle⟩ := earlierDeadline_le v.nextTick deadline
      rw [hview]
      exact {
        done := CyclePhase.noConfusion
        polling := fun _ => ⟨rfl, t, deadline, ht, rfl, hle⟩
        inviting := CyclePhase.noConfusion
        resting := fun hphase => absurd rfl hphase
        inactive := fun hinactive => absurd (hinactive.symm.trans hactive) Bool.false_ne_true }
  | invite idx deadline hnone hsent hview =>
      obtain ⟨t, ht, hle⟩ := earlierDeadline_le v.nextTick deadline
      rw [hview]
      exact {
        done := CyclePhase.noConfusion
        polling := CyclePhase.noConfusion
        inviting := fun _ => ⟨rfl, t, deadline, ht, rfl, hle⟩
        resting := fun _ hphase => absurd rfl hphase
        inactive := fun hinactive => absurd (hinactive.symm.trans hactive) Bool.false_ne_true }
  | close idx phase hnone hphase hframe hsent hview =>
      rw [hview]
      exact {
        done := by obtain rfl | rfl := hphase <;> exact CyclePhase.noConfusion
        polling := by obtain rfl | rfl := hphase <;> exact CyclePhase.noConfusion
        inviting := by obtain rfl | rfl := hphase <;> exact CyclePhase.noConfusion
        resting := fun _ _ => hpending
        inactive := fun hinactive => absurd (hinactive.symm.trans hactive) Bool.false_ne_true }

theorem noStall_of_resting (hphase : v.phase = .idle ∨ v.phase = .soCSent)
    (hpending : v.pending = none) (hinactive : v.active = false → v.phase = .idle) :
    v.NoStall where
  done := by
    intro h
    obtain hphase | hphase := hphase <;> cases h.symm.trans hphase
  polling := by
    intro h
    obtain hphase | hphase := hphase <;> cases h.symm.trans hphase
  inviting := by
    intro h
    obtain hphase | hphase := hphase <;> cases h.symm.trans hphase
  resting := fun _ _ => hpending
  inactive := hinactive

/-- The phase is none in which the cycle waits. -/
theorem pending_of_phase (h : v.NoStall) {phase : CyclePhase}
    (hphase : v.phase = phase) (hpoll : phase ≠ .isochronousPReq)
    (hinvite : phase ≠ .asynchronousSoA) : v.pending = none :=
  h.resting (hphase ▸ hpoll) (hphase ▸ hinvite)

/-- A phase other than idle is one of an active node. -/
theorem active_of_phase (h : v.NoStall) {phase : CyclePhase}
    (hphase : v.phase = phase) (hidle : phase ≠ .idle) : v.active = true := by
  cases hactive : v.active with
  | true => rfl
  | false => exact absurd (hphase.symm.trans (h.inactive hactive)) hidle

/-- Without a pending timeout the cycle does not wait, so the tick may go. -/
theorem Expired.noStall (hexpired : Expired t v w) (h : v.NoStall) : w.NoStall := by
  cases hexpired with
  | refl => exact h
  | drop hactive hpending hnext hle =>
      exact {
        done := h.done
        polling := by
          intro hphase
          obtain ⟨hsome, -⟩ := h.polling hphase
          cases hpending.symm.trans hsome
        inviting := by
          intro hphase
          obtain ⟨hsome, -⟩ := h.inviting hphase
          cases hpending.symm.trans hsome
        resting := h.resting
        inactive := h.inactive }

theorem Progressed.noStall (hprogressed : Progressed v d action) (h : v.NoStall) :
    d.view.NoStall := by
  cases hprogressed with
  | still hview hasync =>
      rw [hview]
      exact h
  | wait deadline hactive hnext hview =>
      have hphase := h.inactive hactive
      have hpending := pending_of_phase h hphase CyclePhase.noConfusion CyclePhase.noConfusion
      rw [hview]
      exact noStall_of_resting (.inl hphase) hpending h.inactive
  | advance hphase hadvanced =>
      exact hadvanced.noStall (active_of_phase h hphase CyclePhase.noConfusion)
        (pending_of_phase h hphase CyclePhase.noConfusion CyclePhase.noConfusion)
  | own hphase hasync hview =>
      have hpending := pending_of_phase h hphase CyclePhase.noConfusion CyclePhase.noConfusion
      rw [hview]
      exact noStall_of_resting (.inl rfl) hpending (fun _ => rfl)
  | command nodeId complete hphase hasync hview =>
      have hpending := pending_of_phase h hphase CyclePhase.noConfusion CyclePhase.noConfusion
      rw [hview]
      exact noStall_of_resting (.inl rfl) hpending (fun _ => rfl)

theorem Ticked.noStall (hticked : Ticked t v d action) (h : v.NoStall) : d.view.NoStall := by
  cases hticked with
  | sdo hview hasync =>
      rw [hview]
      exact h
  | activate hactive hnext hle hview =>
      have hphase := h.inactive hactive
      have hpending := pending_of_phase h hphase CyclePhase.noConfusion CyclePhase.noConfusion
      rw [hview]
      exact noStall_of_resting (.inl hphase) hpending
        (fun hinactive => absurd hinactive.symm Bool.false_ne_true)
  | timeout hactive hnext hle hpending hadvanced => exact hadvanced.noStall hactive rfl
  | progress hexpired hprogressed => exact hprogressed.noStall (hexpired.noStall h)

theorem Received.noStall (hreceived : Received v d) (h : v.NoStall) : d.view.NoStall := by
  cases hreceived with
  | quiet hview =>
      rw [hview]
      exact h
  | answered hphase hadvanced =>
      have hactive := active_of_phase h hphase CyclePhase.noConfusion
      exact hadvanced.noStall hactive rfl
  | asnd hphase hview =>
      rw [hview]
      exact noStall_of_resting (.inl rfl) rfl (fun _ => rfl)

variable [ObjectDictionaryStorage σ]

theorem Starts.noStall {t : ℕ} {c d : MnContext σ} {action : NodeAction}
    (hstarts : Starts t c d action) (h : c.view.NoStall) : d.view.NoStall := by
  have hpending := pending_of_phase h hstarts.phase CyclePhase.noConfusion CyclePhase.noConfusion
  obtain ⟨cycle, hview⟩ := hstarts.view
  rw [hview]
  refine noStall_of_resting (.inr rfl) hpending ?_
  exact fun hinactive => absurd (hinactive.symm.trans hstarts.active) Bool.false_ne_true

/-- What is proved of the cycle of every reached context. -/
structure CycleInv (c : MnContext σ) : Prop where
  noStall : c.view.NoStall
  queue : c.QueueOk

omit [ObjectDictionaryStorage σ] in
theorem cycleInv_initial (od : ObjectDictionary σ) (mac : MacAddress)
    (cfg : Option ConfigurationInterface) (machine : MnNmtStateMachine) (cycleTimeUs : ℕ)
    (lists : NodeLists) (publish : SortedMap UInt8 ServiceId) :
    CycleInv (initial od mac cfg machine cycleTimeUs lists publish) where
  noStall := noStall_of_resting (.inl rfl) rfl (fun _ => rfl)
  queue := fun _ hf => nomatch hf

theorem CycleInv.runCycle {c d : MnContext σ} {input : CycleInput} {action : NodeAction}
    (hinv : CycleInv c) (h : c.runCycle input = some (action, d)) : CycleInv d := by
  obtain ⟨hqueue, r, hreceived, hrest⟩ := runCycle_spec h hinv.queue
  have hr := hreceived.noStall hinv.noStall
  refine ⟨?_, hqueue⟩
  obtain ⟨hview, -⟩ | ⟨e, hreaches, htick⟩ := hrest
  · rw [hview]
    exact hr
  · rw [← hreaches.still.view] at hr
    obtain hstarts | hticked := htick
    · exact hstarts.noStall hr
    · exact hticked.noStall hr

end MnContext

namespace MnRun

variable {σ : Type} [ObjectDictionaryStorage σ]

/-- The invariant of the cycle holds throughout every run. -/
theorem throughout_cycleInv : Throughout (fun r : MnRun σ => r.context.CycleInv) := by
  apply throughout_of_runCycle
  · intro od mac cfg c hc
    obtain ⟨od', machine, cycleTimeUs, lists, publish, -, -, rfl⟩ := ManagingNode.new_eq hc
    exact MnContext.cycleInv_initial _ _ _ _ _ _ _
  · intro r input action d hinv hrun
    exact hinv.runCycle hrun

/-- The invariant rule with the invariant of the cycle at hand. -/
theorem throughout_of_cycleInv {P : MnRun σ → Prop}
    (hinitial : ∀ (od : ObjectDictionary σ) mac cfg machine cycleTimeUs lists publish,
      NodeLists.Fresh lists → P ⟨.initial od mac cfg machine cycleTimeUs lists publish, []⟩)
    (hstep : ∀ (r : MnRun σ) (input : CycleInput) (action : NodeAction) (d : MnContext σ),
      r.context.CycleInv → P r → r.context.runCycle input = some (action, d) →
      P ⟨d, ⟨r.context, input, action, d⟩ :: r.returned⟩) : Throughout P := by
  have h : Throughout (fun r : MnRun σ => r.context.CycleInv ∧ P r) := by
    apply throughout_of_runCycle
    · intro od mac cfg c hc
      obtain ⟨od', machine, cycleTimeUs, lists, publish, -, hfresh, rfl⟩ := ManagingNode.new_eq hc
      exact ⟨MnContext.cycleInv_initial _ _ _ _ _ _ _, hinitial _ _ _ _ _ _ _ hfresh⟩
    · rintro r input action d ⟨hinv, hr⟩ hrun
      exact ⟨hinv.runCycle hrun, hstep r input action d hinv hr hrun⟩
  exact h.mono (fun r hr => hr.2)

/-- The cycle of a managing node never stalls: it is never left between the two phases, and in a
wait the timeout is pending and due no later than the deadline of the wait. -/
theorem cycle_never_stalls :
    Throughout (fun r : MnRun σ =>
      r.context.currentPhase ≠ .isochronousDone ∧
      (r.context.currentPhase = .isochronousPReq ∨ r.context.currentPhase = .asynchronousSoA →
        ∃ event t deadlineUs, r.context.pendingTimeoutEvent = some event ∧
          r.context.nextTickUs = some t ∧
          lastScheduled r.context.history = some (event, deadlineUs) ∧ t ≤ deadlineUs)) := by
  refine throughout_cycleInv.mono ?_
  intro r hinv
  have hwaits : ∀ event, r.context.view.Waits event → ∃ event t deadlineUs,
      r.context.pendingTimeoutEvent = some event ∧ r.context.nextTickUs = some t ∧
      lastScheduled r.context.history = some (event, deadlineUs) ∧ t ≤ deadlineUs := by
    rintro event ⟨hpending, t, deadline, hnext, hlast, hle⟩
    rw [← lastScheduled_filter]
    exact ⟨event, t, deadline, hpending, hnext, hlast, hle⟩
  refine ⟨hinv.noStall.done, ?_⟩
  rintro (hphase | hphase)
  · exact hwaits _ (hinv.noStall.polling hphase)
  · exact hwaits _ (hinv.noStall.inviting hphase)

end MnRun

/-! ### Timeouts are not early -/

/-- Every timeout was scheduled over no earlier tick. -/
def AllFresh (log : List MnEvent) : Prop := ∀ e ∈ log, e.isFresh = true

instance (log : List MnEvent) : Decidable (AllFresh log) :=
  inferInstanceAs (Decidable (∀ e ∈ log, _))

/-- The timeouts so far were on time, and the pending one will be. -/
structure CycleView.Punctual (v : CycleView) : Prop where
  past : onTime v.log = true
  pending : ∀ event, v.pending = some event → ∃ deadline,
    lastScheduled v.log = some (event, deadline) ∧ ∀ t, v.nextTick = some t → deadline ≤ t

/-- A fresh deadline becomes the next tick. -/
theorem le_earlierDeadline {event : DllMsEvent} {existing : Option ℕ} {deadline t : ℕ}
    (hfresh : (MnEvent.scheduled event deadline existing).isFresh = true)
    (h : earlierDeadline existing deadline = some t) : deadline ≤ t := by
  cases existing with
  | none => exact (Option.some.inj h).le
  | some previous =>
      have hle : deadline ≤ previous := of_decide_eq_true hfresh
      simp only [earlierDeadline] at h
      split_ifs at h
      · exact (Option.some.inj h).le
      · exact Option.some.inj h ▸ hle

theorem CycleView.Punctual.of_pending_none {v : CycleView} (hon : onTime v.log = true)
    (hpending : v.pending = none) : v.Punctual where
  past := hon
  pending := fun _ hsome => nomatch hpending.symm.trans hsome

namespace MnContext

variable {σ : Type} {t : ℕ} {v w : CycleView} {d : MnContext σ} {action : NodeAction}

/-- The log grows, so that what is fresh at the end was fresh all along. -/
theorem Advanced.punctual (h : Advanced v d action) (hpending : v.pending = none)
    (hfresh : AllFresh d.view.log) (hon : AllFresh v.log → onTime v.log = true) :
    d.view.Punctual := by
  cases h with
  | poll idx deadline hnmt hrem hskip hnode hrest hcomplete hview =>
      rw [hview] at hfresh ⊢
      obtain ⟨-, -, hscheduled, hlog⟩ :
          _ ∧ _ ∧ (MnEvent.scheduled .presTimeout deadline v.nextTick).isFresh = true ∧
            AllFresh v.log := by
        simpa only [AllFresh, List.forall_mem_cons] using hfresh
      exact {
        past := hon hlog
        pending := by
          intro event hevent
          obtain rfl := Option.some.inj hevent
          exact ⟨deadline, rfl, fun t ht => le_earlierDeadline hscheduled ht⟩ }
  | invite idx deadline hnone hsent hview =>
      rw [hview] at hfresh ⊢
      obtain ⟨-, hscheduled, hlog⟩ :
          _ ∧ (MnEvent.scheduled .asndTimeout deadline v.nextTick).isFresh = true ∧
            AllFresh v.log := by
        simpa only [AllFresh, List.forall_mem_cons] using hfresh
      exact {
        past := hon hlog
        pending := by
          intro event hevent
          obtain rfl := Option.some.inj hevent
          exact ⟨deadline, rfl, fun t ht => le_earlierDeadline hscheduled ht⟩ }
  | close idx phase hnone hphase hframe hsent hview =>
      rw [hview] at hfresh ⊢
      have hlog : AllFresh v.log := (List.forall_mem_cons.mp hfresh).2
      exact .of_pending_none (hon hlog) hpending

theorem Progressed.punctual (hprogressed : Progressed v d action) (h : v.NoStall)
    (hfresh : AllFresh d.view.log) (hv : AllFresh v.log → v.Punctual) : d.view.Punctual := by
  cases hprogressed with
  | still hview hasync =>
      rw [hview] at hfresh ⊢
      exact hv hfresh
  | wait deadline hactive hnext hview =>
      have hpending := pending_of_phase h (h.inactive hactive) CyclePhase.noConfusion
        CyclePhase.noConfusion
      rw [hview] at hfresh ⊢
      exact .of_pending_none (hv hfresh).past hpending
  | advance hphase hadvanced =>
      have hpending := pending_of_phase h hphase CyclePhase.noConfusion CyclePhase.noConfusion
      exact hadvanced.punctual hpending hfresh (fun hlog => (hv hlog).past)
  | own hphase hasync hview =>
      have hpending := pending_of_phase h hphase CyclePhase.noConfusion CyclePhase.noConfusion
      rw [hview] at hfresh ⊢
      exact .of_pending_none (hv hfresh).past hpending
  | command nodeId complete hphase hasync hview =>
      have hpending := pending_of_phase h hphase CyclePhase.noConfusion CyclePhase.noConfusion
      rw [hview] at hfresh ⊢
      have hlog : AllFresh v.log := (List.forall_mem_cons.mp hfresh).2
      exact .of_pending_none (hv hlog).past hpending

theorem Ticked.punctual (hticked : Ticked t v d action) (h : v.NoStall)
    (hfresh : AllFresh d.view.log) (hv : AllFresh v.log → v.Punctual) : d.view.Punctual := by
  cases hticked with
  | sdo hview hasync =>
      rw [hview] at hfresh ⊢
      exact hv hfresh
  | activate hactive hnext hle hview =>
      have hpending := pending_of_phase h (h.inactive hactive) CyclePhase.noConfusion
        CyclePhase.noConfusion
      rw [hview] at hfresh ⊢
      exact .of_pending_none (hv hfresh).past hpending
  | @timeout _ tick event hactive hnext hle hpending hadvanced =>
      -- the deadline that has passed is not earlier than the one of the wait
      refine hadvanced.punctual rfl hfresh ?_
      intro hlog
      have hpunctual := hv (List.forall_mem_cons.mp hlog).2
      obtain ⟨deadline, hlast, hdeadline⟩ := hpunctual.pending _ hpending
      have hmet : deadlineMet v.log event t = true := by
        rw [deadlineMet, hlast]
        simp only [decide_true, Bool.true_and, decide_eq_true_eq]
        exact (hdeadline _ hnext).trans hle
      show (deadlineMet v.log event t && onTime v.log) = true
      rw [hmet, hpunctual.past]
      rfl
  | progress hexpired hprogressed =>
      refine hprogressed.punctual (hexpired.noStall h) hfresh ?_
      intro hlog
      cases hexpired with
      | refl => exact hv hlog
      | drop hactive hpending hnext hle => exact .of_pending_none (hv hlog).past hpending

theorem Starts.punctual [ObjectDictionaryStorage σ] {t : ℕ} {c d : MnContext σ}
    {action : NodeAction} (hstarts : Starts t c d action) (hfresh : AllFresh d.view.log)
    (hv : AllFresh c.view.log → c.view.Punctual) : d.view.Punctual := by
  obtain ⟨cycle, hview⟩ := hstarts.view
  rw [hview] at hfresh ⊢
  exact ⟨(hv hfresh).past, (hv hfresh).pending⟩

theorem Received.punctual (hreceived : Received v d)
    (hfresh : AllFresh d.view.log) (hv : AllFresh v.log → v.Punctual) : d.view.Punctual := by
  cases hreceived with
  | quiet hview =>
      rw [hview] at hfresh ⊢
      exact hv hfresh
  | answered hphase hadvanced =>
      refine hadvanced.punctual rfl hfresh ?_
      exact fun hlog => (hv (List.forall_mem_cons.mp hlog).2).past
  | asnd hphase hview =>
      rw [hview] at hfresh ⊢
      exact .of_pending_none (hv hfresh).past rfl

end MnContext

namespace MnRun

variable {σ : Type} [ObjectDictionaryStorage σ]

/-- A timeout is delivered only after the deadline of its wait, in every run in which no wait is
scheduled over an earlier tick. -/
theorem timeouts_not_early :
    Throughout (fun r : MnRun σ =>
      (∀ e ∈ r.context.history, e.isFresh = true) → onTime r.context.history = true) := by
  have hinv : Throughout (fun r : MnRun σ =>
      AllFresh r.context.view.log → r.context.view.Punctual) := by
    apply throughout_of_cycleInv
    · intro od mac cfg machine cycleTimeUs lists publish _ _
      exact .of_pending_none rfl rfl
    · intro r input action d hcycle hpunctual hrun hfresh
      obtain ⟨-, s, hreceived, hrest⟩ := MnContext.runCycle_spec hrun hcycle.queue
      have hs := fun hlog => hreceived.punctual hlog hpunctual
      obtain ⟨hview, -⟩ | ⟨e, hreaches, htick⟩ := hrest
      · dsimp only at hfresh ⊢
        rw [hview] at hfresh ⊢
        exact hs hfresh
      · rw [← hreaches.still.view] at hs
        have hstall := hreceived.noStall hcycle.noStall
        rw [← hreaches.still.view] at hstall
        obtain hstarts | hticked := htick
        · exact hstarts.punctual hfresh hs
        · exact hticked.punctual hstall hfresh hs
  refine hinv.mono ?_
  intro r hpunctual hfresh
  have hlog : AllFresh r.context.view.log := fun e he => hfresh e (List.mem_of_mem_filter he)
  rw [← onTime_filter]
  exact (hpunctual hlog).past

/-- The first of two polled nodes answers, and the wait for the second one ends with the deadline
of the first. -/
theorem second_node_times_out_early :
    ¬ Throughout (fun r : MnRun Empty => onTime r.context.history = true) := by
  apply not_throughout (mnDictionary 0x100 [9, 9]) ⟨0, 0, 0, 0, 0, 240⟩ none
    (twoNodesPreop ++ [.idle 4000, .idle 4001, .pres 1 .nmtPreOperational2 4003, .idle 4026])
  decide +kernel

end MnRun

end Powerlink
