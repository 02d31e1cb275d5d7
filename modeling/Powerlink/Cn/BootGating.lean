import Powerlink.Cn.Signals
import Powerlink.Lib.Runs

/-! # The gates of the boot-up

A controlled node waits in `NmtPreOperational2` for the managing node, which sends
`EnableReadyToOperate`, and for its application, which reports the end of the configuration.  It
waits in `NmtReadyToOperate` for `StartNode`.  `BootGated` says of a list of events that no gate
was passed early.

`process_event` leaves no trace of `EnableReadyToOperate`, so the report of the application alone
opens the first gate.  `bootGated_iff` shows that this is the only leak: the gates hold in the runs
in which every report that meets `NmtPreOperational2` comes after the enabling event. -/

namespace Powerlink

open Runs

namespace CnNmtStateMachine

variable {σ : Type} [ObjectDictionaryStorage σ]

/-- The machine and its dictionary after an event. -/
def process (s : CnNmtStateMachine × ObjectDictionary σ) (event : NmtEvent) :
    CnNmtStateMachine × ObjectDictionary σ :=
  s.1.processEvent event s.2

/-- The state after a list of events. -/
def stateAfter (s : CnNmtStateMachine × ObjectDictionary σ) (events : List NmtEvent) : NmtState :=
  (run process s events).1.currentState

/-- The events since the machine last came to `NmtPreOperational2`. -/
def SincePreOp2 (s : CnNmtStateMachine × ObjectDictionary σ) (entry rest : List NmtEvent) : Prop :=
  LastEntry process (fun s => s.1.currentState = .nmtPreOperational2) s entry rest

/-- An error, a stop or a reset. -/
def interrupts (event : NmtEvent) : Bool :=
  decide (event = .error) || decide (event = .stopNode) || MnNmtStateMachine.isReset event

/-- Both gates of `NmtReadyToOperate` were opened since the last `NmtPreOperational2`. -/
def ReadyGate (s : CnNmtStateMachine × ObjectDictionary σ) (events : List NmtEvent) : Prop :=
  ∃ entry rest, events = entry ++ rest ∧ SincePreOp2 s entry rest ∧
    .enableReadyToOperate ∈ rest ∧ .cnConfigurationComplete ∈ rest ∧
      ∀ event ∈ rest, interrupts event = false

/-- Both gates were opened and led to `NmtReadyToOperate`, where a `StartNode` followed. -/
def OperationalGate (s : CnNmtStateMachine × ObjectDictionary σ) (events : List NmtEvent) : Prop :=
  ∃ entry gates wait tail, events = entry ++ (gates ++ wait ++ .startNode :: tail) ∧
    SincePreOp2 s entry (gates ++ wait ++ .startNode :: tail) ∧
      .enableReadyToOperate ∈ gates ∧ .cnConfigurationComplete ∈ gates ∧
        stateAfter s (entry ++ gates) = .nmtReadyToOperate ∧
          stateAfter s (entry ++ (gates ++ wait)) = .nmtReadyToOperate ∧
            ∀ event ∈ gates ++ wait ++ .startNode :: tail, interrupts event = false

/-- Whenever the state becomes `NmtReadyToOperate` or `NmtOperational`, the gates were opened. -/
def BootGated (s : CnNmtStateMachine × ObjectDictionary σ) (events : List NmtEvent) : Prop :=
  ∀ before event, before ++ [event] <+: events →
    (stateAfter s before ≠ .nmtReadyToOperate →
      stateAfter s (before ++ [event]) = .nmtReadyToOperate → ReadyGate s (before ++ [event])) ∧
    (stateAfter s before ≠ .nmtOperational →
      stateAfter s (before ++ [event]) = .nmtOperational → OperationalGate s (before ++ [event]))

/-- Each report of the application that meets `NmtPreOperational2` comes after an enabling event
that arrived there. -/
def ReportsEnabled (s : CnNmtStateMachine × ObjectDictionary σ) (events : List NmtEvent) : Prop :=
  ∀ before, before ++ [.cnConfigurationComplete] <+: events →
    stateAfter s before = .nmtPreOperational2 →
      ∃ entry rest, before = entry ++ rest ∧ SincePreOp2 s entry rest ∧
        .enableReadyToOperate ∈ rest

/-! ### The transition table -/

/-- The state after an event. -/
def follow (state : NmtState) (event : NmtEvent) : NmtState :=
  if MnNmtStateMachine.isReset event then .nmtNotActive else nextState state event

theorem stateAfter_concat (s : CnNmtStateMachine × ObjectDictionary σ) (events : List NmtEvent)
    (event : NmtEvent) :
    stateAfter s (events ++ [event]) = follow (stateAfter s events) event := by
  unfold stateAfter
  rw [run_append]
  exact congrArg currentState (processEvent_next _ event _)

theorem follow_ready {state : NmtState} {event : NmtEvent}
    (hout : state ≠ .nmtReadyToOperate) (hin : follow state event = .nmtReadyToOperate) :
    state = .nmtPreOperational2 ∧ event = .cnConfigurationComplete := by
  cases state <;> cases event <;> first | exact absurd rfl hout | exact ⟨rfl, rfl⟩ | cases hin

theorem follow_operational {state : NmtState} {event : NmtEvent}
    (hout : state ≠ .nmtOperational) (hin : follow state event = .nmtOperational) :
    state = .nmtReadyToOperate ∧ event = .startNode := by
  cases state <;> cases event <;> first | exact absurd rfl hout | exact ⟨rfl, rfl⟩ | cases hin

theorem interrupts_of_preOp2 {event : NmtEvent}
    (h : follow .nmtPreOperational2 event = .nmtPreOperational2) : interrupts event = false := by
  cases event <;> first | rfl | cases h

theorem interrupts_of_ready {event : NmtEvent}
    (h : follow .nmtReadyToOperate event = .nmtReadyToOperate) : interrupts event = false := by
  cases event <;> first | rfl | cases h

/-! ### What the states remember -/

/-- In `NmtPreOperational2` nothing has interrupted the node since it came there. -/
theorem waiting_preOp2 {s : CnNmtStateMachine × ObjectDictionary σ}
    (hstart : s.1.currentState = .nmtNotActive) (events : List NmtEvent)
    (h : stateAfter s events = .nmtPreOperational2) :
    ∃ entry rest, events = entry ++ rest ∧ SincePreOp2 s entry rest ∧
      ∀ event ∈ rest, interrupts event = false := by
  induction events using List.reverseRecOn with
  | nil =>
      have hfirst : s.1.currentState = .nmtPreOperational2 := h
      rw [hstart] at hfirst
      cases hfirst
  | append_singleton events event ih =>
      by_cases hbefore : stateAfter s events = .nmtPreOperational2
      · obtain ⟨entry, rest, rfl, hsince, hrest⟩ := ih hbefore
        rw [stateAfter_concat, hbefore] at h
        refine ⟨entry, rest ++ [event], List.append_assoc _ _ _, hsince.concat fun _ => hbefore, ?_⟩
        intro e he
        rcases List.mem_append.mp he with he | he
        · exact hrest e he
        · rw [List.mem_singleton.mp he]
          exact interrupts_of_preOp2 h
      · exact ⟨events ++ [event], [], (List.append_nil _).symm, lastEntry_nil _ _ hbefore h,
          fun _ he => absurd he List.not_mem_nil⟩

/-- In `NmtReadyToOperate` the report has come and nothing has interrupted the node; the enabling
event came first if all reports are enabled. -/
theorem waiting_ready {s : CnNmtStateMachine × ObjectDictionary σ}
    (hstart : s.1.currentState = .nmtNotActive) (events : List NmtEvent)
    (henabled : ReportsEnabled s events) (h : stateAfter s events = .nmtReadyToOperate) :
    ∃ entry gates wait, events = entry ++ (gates ++ wait) ∧
      SincePreOp2 s entry (gates ++ wait) ∧ .enableReadyToOperate ∈ gates ∧
        .cnConfigurationComplete ∈ gates ∧
          stateAfter s (entry ++ gates) = .nmtReadyToOperate ∧
            ∀ event ∈ gates ++ wait, interrupts event = false := by
  induction events using List.reverseRecOn with
  | nil =>
      have hfirst : s.1.currentState = .nmtReadyToOperate := h
      rw [hstart] at hfirst
      cases hfirst
  | append_singleton events event ih =>
      have hearlier : ReportsEnabled s events := fun before hpre =>
        henabled before (hpre.trans (List.prefix_append _ _))
      by_cases hbefore : stateAfter s events = .nmtReadyToOperate
      · -- the node goes on waiting
        obtain ⟨entry, gates, wait, rfl, hsince, he, hc, hready, hrest⟩ := ih hearlier hbefore
        rw [stateAfter_concat, hbefore] at h
        have hstay : stateAfter s (entry ++ (gates ++ wait ++ [event])) = .nmtReadyToOperate := by
          rw [← List.append_assoc, stateAfter_concat, hbefore, h]
        refine ⟨entry, gates, wait ++ [event], ?_, ?_, he, hc, hready, ?_⟩
        · simp only [List.append_assoc]
        · rw [← List.append_assoc]
          refine hsince.concat fun hin => ?_
          exact absurd (hstay.symm.trans hin) (by decide)
        · intro e hmem
          rw [← List.append_assoc] at hmem
          rcases List.mem_append.mp hmem with hmem | hmem
          · exact hrest e hmem
          · rw [List.mem_singleton.mp hmem]
            exact interrupts_of_ready h
      · -- the report of the application opens the gate
        rw [stateAfter_concat] at h
        obtain ⟨hpreOp2, rfl⟩ := follow_ready hbefore h
        rw [hpreOp2] at h
        obtain ⟨entry, rest, rfl, hsince, henable⟩ :=
          henabled events List.prefix_rfl hpreOp2
        have hready : stateAfter s (entry ++ (rest ++ [.cnConfigurationComplete])) =
            .nmtReadyToOperate := by
          rw [← List.append_assoc, stateAfter_concat, hpreOp2, h]
        refine ⟨entry, rest ++ [.cnConfigurationComplete], [], ?_, ?_, ?_, ?_, hready, ?_⟩
        · rw [List.append_nil, List.append_assoc]
        · rw [List.append_nil]
          exact hsince.concat fun _ => hpreOp2
        · exact List.mem_append_left _ henable
        · exact List.mem_append_right _ (List.mem_singleton.mpr rfl)
        · rw [List.append_nil]
          obtain ⟨entry', rest', heq, hsince', hclean⟩ := waiting_preOp2 hstart _ hpreOp2
          obtain ⟨rfl, rfl⟩ := hsince.unique hsince' heq
          intro e hmem
          rcases List.mem_append.mp hmem with hmem | hmem
          · exact hclean e hmem
          · rw [List.mem_singleton.mp hmem]
            rfl

/-- The gates of the boot-up hold in exactly the runs in which the application reports the end of
its configuration to a node that was enabled. -/
theorem bootGated_iff (s : CnNmtStateMachine × ObjectDictionary σ)
    (hstart : s.1.currentState = .nmtNotActive) (events : List NmtEvent) :
    BootGated s events ↔ ReportsEnabled s events := by
  constructor
  · intro hgated before hpre hpreOp2
    have hready : stateAfter s (before ++ [.cnConfigurationComplete]) = .nmtReadyToOperate := by
      rw [stateAfter_concat, hpreOp2]
      rfl
    obtain ⟨entry, rest, heq, hsince, henable, -, -⟩ :=
      (hgated before _ hpre).1 (by rw [hpreOp2]; decide) hready
    -- the last of these events is the report, so the enabling one was among the others
    rcases List.eq_nil_or_concat' rest with rfl | ⟨rest', e, rfl⟩
    · cases henable
    · rw [← List.append_assoc] at heq
      obtain ⟨rfl, he⟩ := List.append_inj' heq rfl
      refine ⟨entry, rest', rfl, hsince.of_concat, ?_⟩
      rcases List.mem_append.mp henable with hmem | hmem
      · exact hmem
      · rw [← he] at hmem
        cases List.mem_singleton.mp hmem
  · intro henabled before event hpre
    have hbefore : ReportsEnabled s (before ++ [event]) := fun b hb =>
      henabled b (hb.trans hpre)
    constructor
    · intro _ hin
      obtain ⟨entry, gates, wait, heq, hsince, he, hc, -, hclean⟩ :=
        waiting_ready hstart _ hbefore hin
      exact ⟨entry, gates ++ wait, heq, hsince, List.mem_append_left _ he,
        List.mem_append_left _ hc, hclean⟩
    · intro hout hin
      rw [stateAfter_concat] at hin
      obtain ⟨hready, rfl⟩ := follow_operational hout hin
      have hearlier : ReportsEnabled s before := fun b hb =>
        hbefore b (hb.trans (List.prefix_append _ _))
      obtain ⟨entry, gates, wait, rfl, hsince, he, hc, hgates, hclean⟩ :=
        waiting_ready hstart before hearlier hready
      have hoperational : stateAfter s (entry ++ (gates ++ wait ++ [.startNode])) =
          .nmtOperational := by
        rw [← List.append_assoc, stateAfter_concat, hin]
      refine ⟨entry, gates, wait, [], List.append_assoc _ _ _, ?_, he, hc, hgates, hready, ?_⟩
      · refine hsince.concat fun hin' => ?_
        exact absurd (hoperational.symm.trans hin') (by decide)
      · intro e hmem
        rcases List.mem_append.mp hmem with hmem | hmem
        · exact hclean e hmem
        · rw [List.mem_singleton.mp hmem]
          rfl

/-- A node that is about to boot. -/
def booting : CnNmtStateMachine × ObjectDictionary Empty :=
  (⟨.nmtNotActive, ⟨42⟩, 0, 5000000⟩, .new none)

/-- The events of an undisturbed boot-up. -/
def bootUp : List NmtEvent :=
  [.socSoAReceived, .socReceived, .enableReadyToOperate, .cnConfigurationComplete, .startNode]

/-- An undisturbed boot-up passes both gates in order. -/
theorem boot_up_is_gated : BootGated booting bootUp := by
  refine (bootGated_iff booting rfl bootUp).mpr ?_
  rintro before ⟨tail, htail⟩ _
  -- the report is the fourth event
  have hat : bootUp[before.length]? = some .cnConfigurationComplete := by
    rw [← htail]
    simp
  have hlength : before.length = 3 := by
    have hlt : before.length < 5 := (List.getElem?_eq_some_iff.mp hat).1
    interval_cases before.length <;> first | rfl | cases hat
  have hbefore : before = bootUp.take 3 := by
    rw [← htail, ← hlength]
    simp
  subst hbefore
  refine ⟨[.socSoAReceived, .socReceived], [.enableReadyToOperate], rfl, ?_, by decide⟩
  have hentry : SincePreOp2 booting [.socSoAReceived, .socReceived] [] :=
    lastEntry_nil [NmtEvent.socSoAReceived] NmtEvent.socReceived (by decide) (by decide)
  exact hentry.concat fun _ => rfl

/-- The report of the application alone takes a node to `NmtReadyToOperate`. -/
theorem report_passes_first_gate :
    ¬∀ (s : CnNmtStateMachine × ObjectDictionary Empty), s.1.currentState = .nmtNotActive →
      ∀ events, BootGated s events := by
  intro h
  have hgated := h booting rfl [.socSoAReceived, .socReceived, .cnConfigurationComplete]
    [.socSoAReceived, .socReceived] .cnConfigurationComplete List.prefix_rfl
  obtain ⟨entry, rest, heq, -, henable, -⟩ := hgated.1 (by decide) (by decide)
  have hmem := List.mem_append_right entry henable
  rw [← heq] at hmem
  revert hmem
  decide

end CnNmtStateMachine

end Powerlink
