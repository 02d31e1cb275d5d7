import Powerlink.Mn.Api
import Powerlink.Cn.Runs
import Powerlink.Sdo.Steps

/-! # Sleeping until the next action

A host may sleep until `next_action_time`: at an earlier time a call of `run_cycle` without
received data should have nothing to do.  `sleeps_soundly` says when this is so, for the nodes of
both kinds and in every state of every run.

`ManagingNode::next_action_time` computes the minimum over the deadlines that `handle_tick` looks
at, but it knows no cycle start in `NmtPreOperational1`, where `handle_tick` starts the reduced
cycle.  `ControlledNode::next_action_time` knows the SoC deadline only: neither the timeouts of the
SDO server nor the heartbeats. -/

namespace Powerlink

/-- The next action is at no time, or after the given one. -/
def SleepsPast (nextActionTime : Option ℕ) (timeUs : ℕ) : Prop :=
  ∀ deadline ∈ nextActionTime, timeUs < deadline

/-- Nothing of a list is due before its minimum. -/
theorem forall_lt_of_sleepsPast_min {l : List ℕ} {timeUs : ℕ} (h : SleepsPast l.min? timeUs) :
    ∀ deadline ∈ l, timeUs < deadline := by
  intro deadline hmem
  cases hmin : l.min? with
  | none =>
      rw [List.min?_eq_none_iff] at hmin
      subst hmin
      cases hmem
  | some least =>
      have hleast : least ≤ deadline := (List.min?_eq_some_iff.mp hmin).2 deadline hmem
      have hlt : timeUs < least := h least hmin
      omega

/-! ### Timeouts of the SDO layer -/

section sdo

variable {σ η : Type}

/-- A server connection before its deadline has nothing to send. -/
theorem SdoSequenceHandler.tick_of_sleepsPast {h : SdoSequenceHandler} {timeUs : ℕ}
    (hsleep : SleepsPast h.state.deadline timeUs) (od : ObjectDictionary σ) :
    h.tick timeUs od = (.ok none, h) := by
  cases hs : h.state with
  | closed | opening | established => simp only [tick, hs]
  | segmentedUpload t | segmentedDownload t =>
      cases hd : t.deadlineUs with
      | none => simp only [tick, hs, hd]
      | some deadline =>
          have hlt : timeUs < deadline := hsleep deadline (by rw [hs]; exact hd)
          simp only [tick, hs, hd, if_pos hlt]

/-- The server before its next action has nothing to send. -/
theorem SdoServer.tick_of_sleepsPast {server : SdoServer η} {timeUs : ℕ}
    (hsleep : SleepsPast server.nextActionTime timeUs) (od : ObjectDictionary σ) :
    (server.tick timeUs od).1 = .ok none := by
  have hdue : ∀ p ∈ server.connections.entries, SleepsPast p.2.state.deadline timeUs :=
    fun p hp deadline hd => forall_lt_of_sleepsPast_min hsleep deadline
      (List.mem_filterMap.mpr ⟨p, hp, hd⟩)
  have hstep : ∀ p ∈ server.connections.entries,
      ∀ acc : Option SdoResponseData × List SdoClientInfo, acc.1 = none →
        ∃ acc' h', tickConnection timeUs od p.1 p.2 acc = (.ok acc', h') ∧ acc'.1 = none := by
    rintro ⟨clientInfo, h⟩ hp ⟨response, prune⟩ rfl
    simp only [tickConnection, SdoSequenceHandler.tick_of_sleepsPast (hdue _ hp) od]
    exact ⟨_, _, rfl, rfl⟩
  obtain ⟨⟨response, prune⟩, connections, hvisit, hnone⟩ :=
    SortedMap.visit_keeps (s := (none, [])) hstep rfl
  simp only [tick, hvisit, Except.ok.injEq]
  exact hnone

/-- A client connection before its deadline has nothing to send. -/
theorem SdoClientConnection.tick_of_sleepsPast {c : SdoClientConnection} {timeUs : ℕ}
    (hsleep : SleepsPast c.deadlineUs timeUs) (od : ObjectDictionary σ) :
    c.tick timeUs od = (none, c) := by
  cases hd : c.deadlineUs with
  | none => simp only [tick, hd]
  | some deadline => simp only [tick, hd, if_pos (hsleep deadline hd)]

/-- The clients before their next action have nothing to send. -/
theorem SdoClientManager.tick_of_sleepsPast {m : SdoClientManager} {timeUs : ℕ}
    (hsleep : SleepsPast m.nextActionTime timeUs) (od : ObjectDictionary σ) :
    (m.tick timeUs od).1 = none := by
  have hdue : ∀ p ∈ m.connections.entries, SleepsPast p.2.deadlineUs timeUs :=
    fun p hp deadline hd => forall_lt_of_sleepsPast_min hsleep deadline
      (List.mem_filterMap.mpr ⟨p, hp, hd⟩)
  have hstep : ∀ p ∈ m.connections.entries,
      ∀ acc : Option ClientFrame × List NodeId, acc.1 = none →
        ∃ acc' c', sweepConnection (fun c => c.tick timeUs od) p.1 p.2 acc = (.ok acc', c') ∧
          acc'.1 = none := by
    rintro ⟨id, c⟩ hp ⟨frame, prune⟩ rfl
    simp only [sweepConnection, SdoClientConnection.tick_of_sleepsPast (hdue _ hp) od]
    exact ⟨_, _, rfl, rfl⟩
  obtain ⟨⟨frame, prune⟩, connections, hvisit, hnone⟩ :=
    SortedMap.visit_keeps (s := (none, [])) hstep rfl
  simp only [tick, sweep, hvisit]
  exact hnone

end sdo

/-! ### The managing node -/

namespace MnContext

variable {σ : Type} [ObjectDictionaryStorage σ] {c : MnContext σ} {timeUs : ℕ}

/-- A call without received data does nothing at this time. -/
def IdleAt (c : MnContext σ) (timeUs : ℕ) : Prop :=
  ∃ d, c.runCycle ⟨none, none, timeUs⟩ = some (.noAction, d) ∧ d.nmtState = c.nmtState

/-- The condition for sound wake-up times: no cycle is due, no phase is pending that needs no timer,
and no start of all nodes is owed in the middle of a cycle. -/
structure CanSleep (c : MnContext σ) (timeUs : ℕ) : Prop where
  cycle : c.cycleDue timeUs = false
  soc : c.currentPhase ≠ .soCSent
  slot : c.currentPhase ≠ .awaitingMnAsyncSend
  startNode : c.currentPhase ≠ .idle → c.nmtState = .nmtOperational →
    c.initialOperationalActionsDone = false → c.nmtStateMachine.startupBit 1 = false

omit [ObjectDictionaryStorage σ] in
/-- What the next action of a managing node covers. -/
theorem sleepsPast_parts (hsleep : SleepsPast c.nextActionTime timeUs)
    (hsoc : c.currentPhase ≠ .soCSent) (hslot : c.currentPhase ≠ .awaitingMnAsyncSend) :
    ¬(c.nmtState = .nmtNotActive ∧ c.nextTickUs = none) ∧
      SleepsPast c.core.sdoServer.nextActionTime timeUs ∧
      SleepsPast c.sdoClientManager.nextActionTime timeUs ∧ SleepsPast c.nextTickUs timeUs := by
  unfold nextActionTime at hsleep
  rw [if_neg (by simp [hsoc, hslot])] at hsleep
  by_cases hboot : c.nmtState = .nmtNotActive ∧ c.nextTickUs = none
  · rw [if_pos hboot] at hsleep
    exact absurd (hsleep 0 rfl) (Nat.not_lt_zero _)
  · rw [if_neg hboot] at hsleep
    have hall := forall_lt_of_sleepsPast_min hsleep
    refine ⟨hboot, ?_, ?_, ?_⟩ <;> intro deadline hd <;>
      exact hall deadline
        (List.mem_filterMap.mpr ⟨some deadline, by simp [Option.mem_def.mp hd], rfl⟩)

omit [ObjectDictionaryStorage σ] in
theorem tickSdoClient_of_sleepsPast (hsleep : SleepsPast c.sdoClientManager.nextActionTime timeUs) :
    c.tickSdoClient timeUs =
      (none, { c with sdoClientManager := (c.sdoClientManager.tick timeUs c.core.od).2 }) := by
  simp only [tickSdoClient, SdoClientManager.tick_of_sleepsPast hsleep]

omit [ObjectDictionaryStorage σ] in
theorem tickSdoServer_of_sleepsPast (hsleep : SleepsPast c.core.sdoServer.nextActionTime timeUs) :
    c.tickSdoServer timeUs = (none, c) := by
  unfold tickSdoServer
  cases hd : c.core.sdoServer.nextActionTime with
  | none => rfl
  | some deadline => exact if_pos (hsleep deadline hd)

omit [ObjectDictionaryStorage σ] in
/-- The follow-up actions where no phase is pending that needs no timer. -/
theorem tick_noAction (hsoc : c.currentPhase ≠ .soCSent)
    (hslot : c.currentPhase ≠ .awaitingMnAsyncSend)
    (hboot : ¬(c.nmtState = .nmtNotActive ∧ c.nextTickUs = none))
    (hstart : c.nmtState = .nmtOperational → c.initialOperationalActionsDone = false →
      c.nmtStateMachine.startupBit 1 = false) :
    ∃ d, c.tick timeUs = some (.noAction, d) ∧ d.nmtState = c.nmtState := by
  obtain ⟨d, hd, hphase, hnmt, hnext⟩ : ∃ d, c.initialOperationalActions = (none, d) ∧
      d.currentPhase = c.currentPhase ∧ d.nmtState = c.nmtState ∧
      d.nextTickUs = c.nextTickUs := by
    unfold initialOperationalActions
    split_ifs with hop
    · simp only [hstart hop.1 hop.2, Bool.false_eq_true, if_false]
      cases c.mandatoryNodes.head? with
      | none => exact ⟨_, rfl, rfl, rfl, rfl⟩
      | some nodeId => exact ⟨_, rfl, rfl, rfl, rfl⟩
    · exact ⟨_, rfl, rfl, rfl, rfl⟩
    · exact ⟨_, rfl, rfl, rfl, rfl⟩
  refine ⟨d, ?_, hnmt⟩
  unfold tick
  rw [hd]
  simp only
  split
  · rename_i hp
    exact absurd (hphase.symm.trans hp) hslot
  · rename_i hp
    exact absurd (hphase.symm.trans hp) hsoc
  · rw [hnmt, hnext, if_neg hboot]

/-- The end of a tick before its deadline. -/
theorem tickDeadline_noAction (h : c.CanSleep timeUs) (htick : SleepsPast c.nextTickUs timeUs)
    (hboot : ¬(c.nmtState = .nmtNotActive ∧ c.nextTickUs = none)) :
    ∃ d, c.tickDeadline timeUs = some (.noAction, d) ∧ d.nmtState = c.nmtState := by
  have hend : c.tickDeadline timeUs = c.progressPhase c.nmtState false false timeUs := by
    unfold tickDeadline
    cases hd : c.nextTickUs with
    | none =>
        have hstate : c.nmtState ≠ .nmtNotActive := fun hstate => hboot ⟨hstate, hd⟩
        simp [hstate]
    | some deadline =>
        have hlt : ¬deadline ≤ timeUs := Nat.not_le.mpr (htick deadline hd)
        simp [hlt]
  rw [hend, progressPhase, if_neg (fun hp => h.soc hp.2)]
  by_cases hidle : c.currentPhase = .idle
  · exact ⟨c, by simp [hidle], rfl⟩
  · have hquiet : ∃ d, c.tick timeUs = some (.noAction, d) ∧ d.nmtState = c.nmtState :=
      tick_noAction h.soc h.slot hboot (h.startNode hidle)
    simpa [hidle] using hquiet

/-- Before its next action, a managing node that can sleep does nothing. -/
theorem idleAt_of_canSleep (hsleep : SleepsPast c.nextActionTime timeUs)
    (h : c.CanSleep timeUs) : c.IdleAt timeUs := by
  obtain ⟨hboot, hserver, hclient, htick⟩ := sleepsPast_parts hsleep h.soc h.slot
  have hcall : c.runCycle ⟨none, none, timeUs⟩ = c.handleTick timeUs := rfl
  -- the sweep over the clients may prune closed ones, and nothing that follows looks at them
  have hserver' : ∀ m, tickSdoServer { c with sdoClientManager := m } timeUs =
      (none, { c with sdoClientManager := m }) := fun m => tickSdoServer_of_sleepsPast hserver
  unfold IdleAt
  rw [hcall, handleTick, h.cycle, if_neg Bool.false_ne_true, tickSdoClient_of_sleepsPast hclient]
  simp only [hserver']
  have hend := tickDeadline_noAction
    (c := { c with sdoClientManager := (c.sdoClientManager.tick timeUs c.core.od).2 })
    ⟨h.cycle, h.soc, h.slot, h.startNode⟩ htick hboot
  exact hend

end MnContext

/-! ### The controlled node -/

namespace CnContext

variable {σ : Type} [ObjectDictionaryStorage σ] {c : CnContext σ} {timeUs : ℕ}

/-- A call without received data does nothing at this time. -/
def IdleAt (c : CnContext σ) (timeUs : ℕ) : Prop :=
  ∃ d, c.runCycle ⟨none, none, timeUs⟩ = some (.noAction, d) ∧ d.nmtState = c.nmtState

/-- No consumed heartbeat is overdue. -/
def HeartbeatsInTime (c : CnContext σ) (timeUs : ℕ) : Prop :=
  .nmtPreOperational2 ≤ c.nmtState → ∀ p ∈ c.heartbeatConsumers.entries,
    p.2.2 = 0 ∨ p.2.1 = 0 ∨ p.2.2 ≤ timeUs ∧ timeUs - p.2.2 ≤ p.2.1

/-- The condition for sound wake-up times: no transfer of the SDO server has timed out, and no
consumed heartbeat is overdue. -/
structure CanSleep (c : CnContext σ) (timeUs : ℕ) : Prop where
  server : SleepsPast c.core.sdoServer.nextActionTime timeUs
  heartbeats : c.HeartbeatsInTime timeUs

omit [ObjectDictionaryStorage σ] in
theorem tickSdoServer_of_sleepsPast (hsleep : SleepsPast c.core.sdoServer.nextActionTime timeUs) :
    c.tickSdoServer timeUs = (none, { c with core := { c.core with
      sdoServer := (c.core.sdoServer.tick timeUs c.core.od).2 } }) := by
  simp only [tickSdoServer, SdoServer.tick_of_sleepsPast hsleep]

/-- The heartbeat check where no heartbeat is overdue. -/
theorem tickHeartbeats_of_inTime (h : c.HeartbeatsInTime timeUs) :
    ∃ consumers, c.tickHeartbeats timeUs =
      some (false, { c with heartbeatConsumers := consumers }) := by
  unfold tickHeartbeats
  split_ifs with hstate
  · have hstep : ∀ p ∈ c.heartbeatConsumers.entries, ∀ timedOutNodes : List NodeId,
        timedOutNodes = [] → ∃ acc consumer,
          visitHeartbeat timeUs p.1 p.2 timedOutNodes = (.ok acc, consumer) ∧ acc = [] := by
      rintro ⟨nodeId, consumer⟩ hp _ rfl
      have hdue := h hstate _ hp
      unfold visitHeartbeat
      split_ifs with hfirst hpos hearly hlate
      · exact ⟨_, _, rfl, rfl⟩
      · omega
      · omega
      · exact ⟨_, _, rfl, rfl⟩
      · exact ⟨_, _, rfl, rfl⟩
    obtain ⟨_, consumers, hvisit, rfl⟩ := SortedMap.visit_keeps hstep rfl
    rw [hvisit]
    exact ⟨consumers, rfl⟩
  · exact ⟨_, rfl⟩

/-- The end of a tick before its deadline. -/
theorem tickDeadline_of_sleepsPast (nmtState : NmtState) (hsleep : SleepsPast c.nextTickUs timeUs) :
    ∃ d, c.tickDeadline nmtState timeUs = some d ∧ d.nmtState = c.nmtState := by
  unfold tickDeadline
  cases hd : c.nextTickUs with
  | none =>
      simp only
      split_ifs
      · exact ⟨_, rfl, rfl⟩
      · exact ⟨_, rfl, rfl⟩
  | some deadline =>
      simp only [if_pos (hsleep deadline hd)]
      exact ⟨_, rfl, rfl⟩

/-- Before its next action, a controlled node that can sleep does nothing. -/
theorem idleAt_of_canSleep (hsleep : SleepsPast c.nextActionTime timeUs)
    (h : c.CanSleep timeUs) : c.IdleAt timeUs := by
  have hcall : c.runCycle ⟨none, none, timeUs⟩ = c.processTick timeUs := rfl
  obtain ⟨consumers, hheartbeats⟩ := tickHeartbeats_of_inTime
    (c := { c with core := { c.core with
      sdoServer := (c.core.sdoServer.tick timeUs c.core.od).2 } }) h.heartbeats
  obtain ⟨d, hd, hstate⟩ := tickDeadline_of_sleepsPast
    (c := { c with
      core := { c.core with sdoServer := (c.core.sdoServer.tick timeUs c.core.od).2 }
      heartbeatConsumers := consumers }) c.nmtState hsleep
  refine ⟨d, ?_, hstate⟩
  rw [hcall, processTick, tickSdoServer_of_sleepsPast h.server]
  simp only [hheartbeats]
  exact congrArg (Option.map (fun d => (NodeAction.noAction, d))) hd

end CnContext

/-! ### Every state of every run -/

variable {σ : Type} [ObjectDictionaryStorage σ]

/-- Wake-up times are sound in every state of every run, at every time at which a managing node has
no cycle to start and no pending phase, and a controlled node has no timeout of the SDO server and
no overdue heartbeat. -/
theorem sleeps_soundly :
    ApiRun.Throughout (fun r : ApiRun σ => ∀ timeUs, r.context.CanSleep timeUs →
      SleepsPast r.context.nextActionTime timeUs → r.context.IdleAt timeUs) ∧
    CnRun.Throughout (fun r : CnRun σ => ∀ timeUs, r.context.CanSleep timeUs →
      SleepsPast r.context.nextActionTime timeUs → r.context.IdleAt timeUs) := by
  constructor
  · refine ApiRun.throughout_of_call ?_ ?_
    · intro od mac cfg machine cycleTimeUs lists publish _ timeUs hcan hsleep
      exact MnContext.idleAt_of_canSleep hsleep hcan
    · intro r call action d _ _ timeUs hcan hsleep
      exact MnContext.idleAt_of_canSleep hsleep hcan
  · refine CnRun.throughout_of_call ?_ ?_
    · intro od mac machine consumers timeUs hcan hsleep
      exact CnContext.idleAt_of_canSleep hsleep hcan
    · intro r call action d _ _ timeUs hcan hsleep
      exact CnContext.idleAt_of_canSleep hsleep hcan

/-- A managing node in `NmtPreOperational1` and a controlled node with heartbeats to consume have
no next action; at 1000 us the former starts a cycle, and at 4000 us two overdue heartbeats take the
latter back to `NmtPreOperational1`. -/
theorem sleeps_through_deadlines :
    ¬ApiRun.Throughout (fun r : ApiRun Empty => ∀ timeUs,
      SleepsPast r.context.nextActionTime timeUs → r.context.IdleAt timeUs) ∧
    ¬CnRun.Throughout (fun r : CnRun Empty => ∀ timeUs,
      SleepsPast r.context.nextActionTime timeUs → r.context.IdleAt timeUs) := by
  constructor
  · intro h
    have hidle := h.mono (fun r hr => show r.context.nextActionTime = none →
        (r.context.runCycle ⟨none, none, 1000⟩).map Prod.fst = some .noAction from by
      intro hnone
      obtain ⟨d, hd, -⟩ := hr 1000 (by rw [hnone]; rintro _ ⟨⟩)
      rw [hd]
      rfl)
      (mnDictionary 0 [9]) ⟨0, 0, 0, 0, 0, 240⟩ none
      [.runCycle (.idle 0), .runCycle (.idle 10)]
    revert hidle
    apply Runs.not_always_reached
    decide +kernel
  · intro h
    have hidle := h.mono (fun r hr => show r.context.nextActionTime = none →
        (r.context.runCycle ⟨none, none, 4000⟩).map (fun p => p.2.nmtState) =
          some r.context.nmtState from by
      intro hnone
      obtain ⟨d, hd, hstate⟩ := hr 4000 (by rw [hnone]; rintro _ ⟨⟩)
      rw [hd, ← hstate]
      rfl)
      (cnDictionary 1 0 [0x00050001, 0x00060001]) ⟨0, 0, 0, 0, 0, 1⟩ [.soc 1000, .soc 2000]
    revert hidle
    apply Runs.not_always_reached
    decide +kernel

end Powerlink
