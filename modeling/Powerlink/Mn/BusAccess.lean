import Powerlink.Mn.CycleStarts
import Powerlink.Mn.Origins

/-! # The states in which a managing node drives the bus

A managing node sends SoC, PReq and SoA in the states from `NmtPreOperational1` to
`NmtOperational`.  `handle_tick` recognises these states by their codes, and the code of
`NmtBasicEthernet` lies between those of `NmtPreOperational1` and `NmtPreOperational2`, so that a
node that was started up to `NmtBasicEthernet` starts a cycle as well.

`bus_driven_in_cyclic_states` says that this is the only way: it is enough that no call in
`NmtBasicEthernet` finds a cycle due. -/

namespace Powerlink

/-- The cyclic states of a managing node. -/
def NmtState.isCyclic : NmtState → Bool
  | nmtPreOperational1 | nmtPreOperational2 | nmtReadyToOperate | nmtOperational => true
  | _ => false

/-- The states of a managing node that takes no part in the cycle. -/
def NmtState.isApart : NmtState → Bool
  | nmtNotActive | nmtBasicEthernet => true
  | _ => false

theorem NmtState.isApart_iff {s : NmtState} :
    s.isApart = true ↔ s = nmtNotActive ∨ s = nmtBasicEthernet := by
  cases s <;> decide

theorem NmtState.isCyclic_iff {s : NmtState} :
    s.isCyclic = true ↔ s = nmtPreOperational1 ∨ s = nmtPreOperational2 ∨
      s = nmtReadyToOperate ∨ s = nmtOperational := by
  cases s <;> decide

namespace MnNmtStateMachine

/-- The cyclic states are left for each other only. -/
theorem isCyclic_nextState {m : MnNmtStateMachine} (h : m.currentState.isCyclic = true)
    (event : NmtEvent) : (m.nextState event).isCyclic = true := by
  unfold nextState
  obtain hstate | hstate | hstate | hstate := NmtState.isCyclic_iff.mp h
  all_goals
    rw [hstate]
    cases event <;> rfl

/-- The other states are not left by an internal event. -/
theorem nextState_of_isApart {m : MnNmtStateMachine} (h : m.currentState.isApart = true)
    {event : NmtEvent} (hevent : isInternal event = true) :
    m.nextState event = m.currentState := by
  unfold nextState
  obtain hstate | hstate := NmtState.isApart_iff.mp h
  · rw [hstate]
    cases event with
    | timeout => cases hevent
    | _ => rfl
  · rw [hstate]
    cases event with
    | powerlinkFrameReceived => cases hevent
    | _ => rfl

theorem nextState_timeout {m : MnNmtStateMachine} (h : m.currentState.isApart = true) :
    (m.nextState .timeout).isApart = true ∨ (m.nextState .timeout).isCyclic = true := by
  unfold nextState
  obtain hstate | hstate := NmtState.isApart_iff.mp h
  · rw [hstate]
    dsimp only
    cases m.startupBit 13 with
    | true => exact .inl rfl
    | false => exact .inr rfl
  · rw [hstate]
    exact .inl rfl

theorem Moves.isCyclic {m m' : MnNmtStateMachine} (h : m.Moves m')
    (hcyclic : m.currentState.isCyclic = true) : m'.currentState.isCyclic = true := by
  induction h with
  | refl => exact hcyclic
  | tail _ hstep ih =>
      obtain ⟨event, -, rfl⟩ := hstep
      exact isCyclic_nextState ih event

theorem Moves.state_of_isApart {m m' : MnNmtStateMachine} (h : m.Moves m')
    (hapart : m.currentState.isApart = true) : m'.currentState = m.currentState := by
  induction h with
  | refl => rfl
  | tail _ hstep ih =>
      obtain ⟨event, hevent, rfl⟩ := hstep
      exact (nextState_of_isApart (ih ▸ hapart) hevent).trans ih

end MnNmtStateMachine

namespace MnContext

variable {σ : Type}

/-! ### The NMT state along a call -/

theorem nmtState_timeout [ObjectDictionaryStorage σ] (c : MnContext σ) :
    (c.processNmtEvent .timeout).nmtState = c.nmtStateMachine.nextState .timeout := by
  have hmachine : (c.processNmtEvent .timeout).nmtStateMachine =
      (c.nmtStateMachine.processEvent .timeout c.core.od).1 :=
    congrArg QueueView.machine (c.processNmtEvent_queues .timeout)
  rw [nmtState, hmachine, MnNmtStateMachine.processEvent_machine _ _ rfl]

theorem machine_initialOperationalActions {c d : MnContext σ} {action : Option NodeAction}
    (h : c.initialOperationalActions = (action, d)) : d.nmtStateMachine = c.nmtStateMachine := by
  obtain ⟨hstill, -⟩ := still_initialOperationalActions h
  exact congrArg BootView.machine hstill.boot

/-- The states that a managing node can be in. -/
def Known (c : MnContext σ) : Prop := c.nmtState.isApart = true ∨ c.nmtState.isCyclic = true

/-- The node stays in such a state, and in the cyclic ones once it is there. -/
structure Stays (c d : MnContext σ) : Prop where
  known : c.Known → d.Known
  cyclic : c.nmtState.isCyclic = true → d.nmtState.isCyclic = true

theorem Stays.trans {c d e : MnContext σ} (h : Stays c d) (h' : Stays d e) : Stays c e :=
  ⟨fun hc => h'.known (h.known hc), fun hc => h'.cyclic (h.cyclic hc)⟩

theorem stays_of_machine {c d : MnContext σ} (h : d.nmtStateMachine = c.nmtStateMachine) :
    Stays c d := by
  have hstate : d.nmtState = c.nmtState := congrArg MnNmtStateMachine.currentState h
  exact ⟨fun hc => by rwa [Known, hstate], fun hc => by rwa [hstate]⟩

theorem Fed.stays {c d : MnContext σ} {requests : List AsyncRequest} (h : Fed c d requests) :
    Stays c d where
  known := by
    intro hc
    obtain hapart | hcyclic := hc
    · have hstate : d.nmtState = c.nmtState := h.machine.state_of_isApart hapart
      exact .inl (hstate ▸ hapart)
    · exact .inr (h.machine.isCyclic hcyclic)
  cyclic := h.machine.isCyclic

variable [ObjectDictionaryStorage σ]

theorem stays_timeout (c : MnContext σ) : Stays c (c.processNmtEvent .timeout) where
  known := by
    intro hc
    unfold Known
    rw [nmtState_timeout]
    obtain hapart | hcyclic := hc
    · exact MnNmtStateMachine.nextState_timeout hapart
    · exact .inr (MnNmtStateMachine.isCyclic_nextState hcyclic .timeout)
  cyclic := by
    intro hcyclic
    rw [nmtState_timeout]
    exact MnNmtStateMachine.isCyclic_nextState hcyclic .timeout

theorem QueueStep.stays {choices : List AsyncChoice} {c d : MnContext σ} (h : QueueStep choices c d) : Stays c d := by
  cases h with
  | same h => exact stays_of_machine h.machine
  | fed h => exact h.stays
  | @choose choice h _ =>
      cases choice with
      | _ => exact stays_of_machine rfl
  | actions h => exact stays_of_machine (machine_initialOperationalActions h)
  | activate => exact c.stays_timeout

theorem QueuePath.stays {choices : List AsyncChoice} {c d : MnContext σ} (h : QueuePath choices c d) : Stays c d := by
  induction h with
  | refl => exact ⟨id, id⟩
  | tail _ hstep ih => exact ih.trans hstep.stays

omit [ObjectDictionaryStorage σ] in
theorem machine_sendOwnAsync {c d : MnContext σ} {t : ℕ} {action : NodeAction}
    (h : c.sendOwnAsync t = (action, d)) : d.nmtStateMachine = c.nmtStateMachine := by
  cases sendOwnAsync_way h with
  | _ => rfl

theorem stays_runCycle {c d : MnContext σ} {input : CycleInput} {action : NodeAction}
    (h : c.runCycle input = some (action, d)) : Stays c d := by
  obtain ⟨e, hfed, hway⟩ := runCycle_queues h
  cases hway with
  | path _ hpath => exact hfed.stays.trans (QueuePath.stays hpath)
  | own _ hpath hown =>
      exact (hfed.stays.trans (QueuePath.stays hpath)).trans
        (stays_of_machine (machine_sendOwnAsync hown))

/-! ### What a call sends -/

/-- The action is a SoC, a PReq or a SoA. -/
def DrivesBus (action : NodeAction) : Prop :=
  action.frameType = some MessageType.soC.toByte ∨ action.frameType = some MessageType.pReq.toByte ∨
    action.frameType = some MessageType.soA.toByte

instance (action : NodeAction) : Decidable (DrivesBus action) :=
  inferInstanceAs (Decidable (_ ∨ _))

omit [ObjectDictionaryStorage σ] in
theorem not_drivesBus_of_isAsync {action : NodeAction} (h : action.IsAsync) :
    ¬ DrivesBus action := by
  unfold DrivesBus
  obtain h | h := h
  · rw [h]
    decide
  · rw [h]
    decide

omit [ObjectDictionaryStorage σ] in
theorem isTransfer_frameType {action : NodeAction} (h : IsTransfer action) :
    action.frameType ≠ some MessageType.pReq.toByte := by
  obtain h | ⟨frame, hframe, rfl⟩ := h
  · rw [h]
    nofun
  · obtain htype | htype := frameType_send frame
    · rw [htype]
      nofun
    · rw [htype]
      cases frame with
      | aSnd f => nofun
      | soc f => nofun
      | _ => cases hframe

/-- A PReq is sent in `NmtPreOperational2` at the earliest. -/
theorem preop2_of_preq {c d : MnContext σ} {input : CycleInput} {action : NodeAction}
    (h : c.runCycle input = some (action, d)) (hqueue : c.QueueOk)
    (hpreq : action.frameType = some MessageType.pReq.toByte) :
    NmtState.nmtPreOperational2 ≤ d.nmtState := by
  cases runCycle_origin h with
  | transfer htransfer => exact absurd hpreq (isTransfer_frameType htransfer)
  | @start e hcontext hdue hstart =>
      obtain ⟨-, -, cycle, soc, haction, -⟩ := e.startCycle_spec input.currentTimeUs
      rw [hstart] at haction
      have htype := send_soc soc
      rw [← haction, hpreq] at htype
      cases htype
  | advance _ _ hadvance =>
      obtain ⟨hadvanced, -, -⟩ := advanceCyclePhase_spec hadvance
      cases hadvanced with
      | poll idx deadline hnmt => exact hnmt
      | invite idx deadline hnone hsent =>
          rw [hsent] at hpreq
          cases hpreq
      | close idx phase hnone hphase hframe hsent =>
          rw [hsent] at hpreq
          obtain hframe | hframe := hframe
          · rw [hframe] at hpreq
            cases hpreq
          · rw [hframe] at hpreq
            cases hpreq
  | @queued e frame hslot hframe haction =>
      obtain ⟨-, hown⟩ := queued_runCycle h (fun _ _ _ => rfl) (fun _ _ _ => rfl) hqueue
      have hasync := isAsync_send (hown e hslot frame hframe)
      rw [← haction] at hasync
      exact absurd (.inr (.inl hpreq)) (not_drivesBus_of_isAsync hasync)

/-- A received frame raises internal events only. -/
theorem machine_receivePoint {c d : MnContext σ} {input : CycleInput} {action : NodeAction}
    (h : (c.receivePoint input).run input.currentTimeUs = some (action, d)) :
    c.nmtStateMachine.Moves d.nmtStateMachine := by
  cases hpoint : c.receivePoint input with
  | panic =>
      rw [hpoint] at h
      cases h
  | pass e =>
      rw [hpoint] at h
      rw [← (Prod.mk.inj (Option.some.inj h)).2]
      exact (receivePoint_fed (by rw [hpoint]; rfl)).machine
  | reply a e =>
      rw [hpoint] at h
      rw [← (Prod.mk.inj (Option.some.inj h)).2]
      exact (receivePoint_fed (by rw [hpoint]; rfl)).machine
  | answered e =>
      rw [hpoint] at h
      obtain ⟨p, hadvance, heq⟩ := Option.map_eq_some_iff.mp h
      obtain ⟨-, hboot, -⟩ := advanceCyclePhase_spec hadvance
      have hmachine : p.2.nmtStateMachine = e.nmtStateMachine := congrArg BootView.machine hboot
      rw [← (Prod.mk.inj heq).2, hmachine]
      exact (receivePoint_fed (by rw [hpoint]; rfl)).machine

/-- A received frame does not bring a node into the cycle. -/
theorem nmtState_of_tickContext {c e : MnContext σ} {input : CycleInput}
    (h : c.tickContext input = some e) (hapart : c.nmtState.isApart = true) :
    e.nmtState = c.nmtState := by
  unfold tickContext at h
  split at h
  · rename_i r hethernet
    split at h
    · rename_i f hudp
      rw [← Option.some.inj h]
      have hmachine : f.nmtStateMachine = r.nmtStateMachine := (same_receiveUdp hudp).machine
      have hreceived : r.nmtStateMachine.currentState = c.nmtStateMachine.currentState :=
        (machine_receivePoint hethernet).state_of_isApart hapart
      unfold nmtState
      rw [hmachine, hreceived]
    · cases h
  · cases h

/-- A node apart from the cycle is idle, and it stays so unless a cycle is due in
`NmtBasicEthernet`. -/
theorem apart_runCycle {c d : MnContext σ} {input : CycleInput} {action : NodeAction}
    (h : c.runCycle input = some (action, d)) (hinv : c.CycleInv)
    (hapart : c.nmtState.isApart = true) (hidle : c.currentPhase = .idle)
    (hdue : c.nmtState = .nmtBasicEthernet → c.cycleDue input.currentTimeUs = false) :
    d.currentPhase = .idle ∧ ¬ DrivesBus action := by
  have hstarts : c.startsCycle input = false := by
    unfold startsCycle
    cases hcontext : c.tickContext input with
    | none => rfl
    | some e =>
        have he := view_of_tickContext hinv hidle hcontext
        have hstate := nmtState_of_tickContext hcontext hapart
        have htime : e.cycleTimeUs = c.cycleTimeUs := congrArg CycleView.cycleTimeUs he
        have hstart : e.currentCycleStartTimeUs = c.currentCycleStartTimeUs :=
          congrArg CycleView.cycleStart he
        have hphase : e.currentPhase = c.currentPhase := congrArg CycleView.phase he
        have hsame : e.cycleDue input.currentTimeUs = c.cycleDue input.currentTimeUs := by
          unfold cycleDue
          rw [htime, hstart, hstate, hphase]
        rw [Option.any_some, hsame]
        -- a cycle is due only in a state from `NmtPreOperational1` on
        obtain hnmt | hnmt := NmtState.isApart_iff.mp hapart
        · unfold cycleDue
          rw [hnmt, decide_eq_false (show ¬ NmtState.nmtPreOperational1 ≤ .nmtNotActive by decide),
            Bool.and_false, Bool.false_and]
        · exact hdue hnmt
  obtain ⟨hd, hasync⟩ := idle_runCycle h hinv hidle hstarts
  exact ⟨hd, not_drivesBus_of_isAsync hasync⟩

end MnContext

/-! ### Runs -/

namespace Returned

variable {σ : Type}

/-- The call does not find a cycle due in `NmtBasicEthernet`. -/
def KeepsOffBus (x : Returned σ) : Prop :=
  x.before.nmtState = .nmtBasicEthernet → x.before.cycleDue x.input.currentTimeUs = false

/-- A SoC, PReq or SoA is returned in a cyclic state, and a PReq not in `NmtPreOperational1`. -/
structure Cyclic (x : Returned σ) : Prop where
  state : MnContext.DrivesBus x.action → x.after.nmtState.isCyclic = true
  preq : x.action.frameType = some MessageType.pReq.toByte →
    x.after.nmtState ≠ .nmtPreOperational1

end Returned

namespace MnRun

variable {σ : Type} [ObjectDictionaryStorage σ]

/-- What is proved of the NMT state of a run. -/
structure BusInv (r : MnRun σ) : Prop where
  cycle : r.context.CycleInv
  known : r.context.Known
  idle : r.context.nmtState.isApart = true → r.context.currentPhase = .idle
  cyclic : ∀ x ∈ r.returned, x.Cyclic

theorem BusInv.runCycle {r : MnRun σ} {input : CycleInput} {action : NodeAction}
    {d : MnContext σ} (h : r.BusInv) (hrun : r.context.runCycle input = some (action, d))
    (hkeeps : Returned.KeepsOffBus ⟨r.context, input, action, d⟩) :
    BusInv ⟨d, ⟨r.context, input, action, d⟩ :: r.returned⟩ := by
  have hstays := MnContext.stays_runCycle hrun
  have hpreq : action.frameType = some MessageType.pReq.toByte →
      d.nmtState ≠ .nmtPreOperational1 := by
    intro haction heq
    have hle := MnContext.preop2_of_preq hrun h.cycle.queue haction
    rw [heq] at hle
    revert hle
    decide
  refine ⟨h.cycle.runCycle hrun, hstays.known h.known, ?_, ?_⟩
  · intro hd
    obtain hapart | hcyclic := h.known
    · exact (MnContext.apart_runCycle hrun h.cycle hapart (h.idle hapart) hkeeps).1
    · have hd' : d.nmtState.isCyclic = true := hstays.cyclic hcyclic
      obtain hstate | hstate := NmtState.isApart_iff.mp hd
      · rw [hstate] at hd'
        cases hd'
      · rw [hstate] at hd'
        cases hd'
  · refine List.forall_mem_cons.mpr ⟨⟨?_, hpreq⟩, h.cyclic⟩
    intro hdrives
    obtain hapart | hcyclic := h.known
    · obtain ⟨-, hnot⟩ := MnContext.apart_runCycle hrun h.cycle hapart (h.idle hapart) hkeeps
      exact absurd hdrives hnot
    · exact hstays.cyclic hcyclic

/-- In a run without a call that finds a cycle due in `NmtBasicEthernet` the node drives the bus in
its cyclic states only. -/
theorem bus_driven_in_cyclic_states :
    Throughout (fun r : MnRun σ =>
      (∀ x ∈ r.returned, x.KeepsOffBus) → ∀ x ∈ r.returned, x.Cyclic) := by
  have hinv : Throughout (fun r : MnRun σ => (∀ x ∈ r.returned, x.KeepsOffBus) → r.BusInv) := by
    apply throughout_of_runCycle
    · intro od mac cfg c hc _
      obtain ⟨od', machine, cycleTimeUs, lists, publish, hstate, -, rfl⟩ :=
        ManagingNode.new_eq hc
      have hapart : machine.currentState.isApart = true := NmtState.isApart_iff.mpr (.inl hstate)
      exact ⟨MnContext.cycleInv_initial _ _ _ _ _ _ _, .inl hapart, fun _ => rfl,
        fun _ hx => nomatch hx⟩
    · intro r input action d hr hrun hkeeps
      obtain ⟨hnew, hold⟩ := List.forall_mem_cons.mp hkeeps
      exact (hr hold).runCycle hrun hnew
  exact hinv.mono (fun r hr hkeeps => (hr hkeeps).cyclic)

/-- A node that starts up to `NmtBasicEthernet` sends a SoC there. -/
theorem basic_ethernet_sends_soc :
    ¬ Throughout (fun r : MnRun Empty => ∀ x ∈ r.returned, x.Cyclic) := by
  intro h
  have hstate := h.mono (fun r hr x hx => (hr x hx).state)
  revert hstate
  apply not_throughout (mnDictionary 0x2000 [9]) ⟨0, 0, 0, 0, 0, 240⟩ none
    [.idle 0, .idle 10, .idle 1000]
  decide +kernel

end MnRun

end Powerlink
