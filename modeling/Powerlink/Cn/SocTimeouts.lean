import Powerlink.Cn.Runs
import Powerlink.Cn.Supervision

/-! # The loss of SoC

A controlled node arms one deadline, `next_tick_us`, for the SoC that is due next.  A SoC renews it
only where the new deadline is the earlier one, so that a deadline of the last cycle, or the one of
`NmtNotActive`, stays and expires in the middle of the new cycle.

`SocView` is what the deadline depends on, and `SocMove` what a call can do to it.
`no_false_loss_of_soc` says that a SoC is only reported as lost when a cycle and the tolerance have
passed since the last one, in every run in which no SoC arrives while an earlier deadline than its
own is set. -/

namespace Powerlink

/-- The entry is about the SoC. -/
def CnEvent.isSoc : CnEvent → Bool
  | socReceived .. | socTimedOut .. => true
  | heartbeatTimedOut .. => false

/-- What the report of a lost SoC depends on. -/
structure SocView where
  lastUs : ℕ
  active : Bool
  nextUs : Option ℕ
  timeoutUs : ℕ
  events : List CnEvent

namespace SocView

/-- The deadline after a SoC. -/
def renewed (v : SocView) (deadlineUs : ℕ) : ℕ :=
  match v.nextUs with
  | some currentUs => min deadlineUs currentUs
  | none => deadlineUs

/-- Every SoC found no deadline or one that is not earlier than its own. -/
def Renewed (v : SocView) (cycleUs toleranceUs : ℕ) : Prop :=
  ∀ timeUs previousUs, .socReceived timeUs (some previousUs) ∈ v.events →
    timeUs + cycleUs + toleranceUs ≤ previousUs

/-- An active check waits for a cycle and the tolerance, and so has every report. -/
structure Sound (v : SocView) (cycleUs toleranceUs : ℕ) : Prop where
  armed : v.active = true → v.nextUs = none → v.timeoutUs = 0
  due : v.active = true → ∀ deadlineUs, v.nextUs = some deadlineUs →
    v.lastUs + cycleUs + toleranceUs ≤ deadlineUs
  reports : ∀ timeUs lastUs, .socTimedOut timeUs lastUs ∈ v.events →
    lastUs + cycleUs + toleranceUs ≤ timeUs

end SocView

/-- What a call at `timeUs` can do, where the dictionary holds the cycle time and the tolerance. -/
inductive SocMove (cycleUs toleranceUs timeUs : ℕ) : SocView → SocView → Prop
  /-- A SoC is received. -/
  | receive (v : SocView) : SocMove cycleUs toleranceUs timeUs v
      { v with
        lastUs := timeUs
        active := true
        nextUs := some (v.renewed (timeUs + cycleUs + toleranceUs))
        events := .socReceived timeUs v.nextUs :: v.events }
  /-- An error resets the communication. -/
  | stop (v : SocView) : SocMove cycleUs toleranceUs timeUs v { v with active := false }
  /-- The timeout of `NmtNotActive` starts. -/
  | start (v : SocView) (hnext : v.nextUs = none) (htimeout : 0 < v.timeoutUs) :
      SocMove cycleUs toleranceUs timeUs v { v with nextUs := some (timeUs + v.timeoutUs) }
  /-- The timeout of `NmtNotActive` expires. -/
  | leave (v : SocView) : SocMove cycleUs toleranceUs timeUs v
      { v with nextUs := none, active := false }
  /-- A deadline expires that nothing waits for. -/
  | drop (v : SocView) (h : v.active = true → v.timeoutUs = 0) :
      SocMove cycleUs toleranceUs timeUs v { v with nextUs := none }
  /-- The SoC is reported as lost, and the communication is reset. -/
  | reset (v : SocView) {deadlineUs : ℕ} (hnext : v.nextUs = some deadlineUs)
      (hdeadline : deadlineUs ≤ timeUs) (hactive : v.active = true) :
      SocMove cycleUs toleranceUs timeUs v
        { v with
          nextUs := none
          active := false
          events := .socTimedOut timeUs v.lastUs :: v.events }
  /-- The SoC is reported as lost, and the next one is awaited. -/
  | lost (v : SocView) (cycles : ℕ) {deadlineUs : ℕ} (hnext : v.nextUs = some deadlineUs)
      (hdeadline : deadlineUs ≤ timeUs) (hactive : v.active = true) :
      SocMove cycleUs toleranceUs timeUs v
        { v with
          nextUs := some (v.lastUs + (cycles + 1) * cycleUs + toleranceUs)
          events := .socTimedOut timeUs v.lastUs :: v.events }

/-- Any number of moves. -/
def SocPath (cycleUs toleranceUs timeUs : ℕ) : SocView → SocView → Prop :=
  Relation.ReflTransGen (SocMove cycleUs toleranceUs timeUs)

section invariant

variable {cycleUs toleranceUs timeUs : ℕ} {v w : SocView}

/-- The entries of the history stay. -/
theorem SocMove.suffix (h : SocMove cycleUs toleranceUs timeUs v w) : v.events <:+ w.events := by
  cases h with
  | receive => exact List.suffix_cons _ _
  | reset => exact List.suffix_cons _ _
  | lost => exact List.suffix_cons _ _
  | _ => exact List.suffix_refl _

/-- The entries before a report were sound, and the report is. -/
theorem SocView.Sound.report (hv : v.Sound cycleUs toleranceUs) {deadlineUs : ℕ}
    (hnext : v.nextUs = some deadlineUs) (hdeadline : deadlineUs ≤ timeUs)
    (hactive : v.active = true) :
    ∀ t last, .socTimedOut t last ∈ CnEvent.socTimedOut timeUs v.lastUs :: v.events →
      last + cycleUs + toleranceUs ≤ t := by
  intro t last hmem
  obtain heq | hmem := List.mem_cons.mp hmem
  · obtain ⟨rfl, rfl⟩ := CnEvent.socTimedOut.inj heq
    exact (hv.due hactive deadlineUs hnext).trans hdeadline
  · exact hv.reports t last hmem

/-- The step lemma: a move keeps the invariant where the SoC it receives may renew the deadline. -/
theorem SocMove.sound (h : SocMove cycleUs toleranceUs timeUs v w)
    (hv : v.Sound cycleUs toleranceUs) (hw : w.Renewed cycleUs toleranceUs) :
    w.Sound cycleUs toleranceUs := by
  cases h with
  | receive =>
      refine ⟨fun _ h => (nomatch h), fun _ d hd => ?_, fun t last hmem => ?_⟩
      · -- the deadline that was set is not earlier, so that the new one is its own
        have hself : timeUs + cycleUs + toleranceUs ≤
            v.renewed (timeUs + cycleUs + toleranceUs) := by
          unfold SocView.renewed
          split
          · rename_i currentUs hcurrent
            have hle : timeUs + cycleUs + toleranceUs ≤ currentUs :=
              hw timeUs currentUs (hcurrent ▸ List.mem_cons_self)
            exact le_min le_rfl hle
          · exact le_rfl
        rwa [← Option.some.inj hd]
      · obtain heq | hmem := List.mem_cons.mp hmem
        · cases heq
        · exact hv.reports t last hmem
  | stop => exact ⟨fun h => (nomatch h), fun h => (nomatch h), hv.reports⟩
  | start hnext htimeout =>
      refine ⟨fun _ h => (nomatch h), fun hactive => ?_, hv.reports⟩
      have hzero := hv.armed hactive hnext
      omega
  | leave => exact ⟨fun h => (nomatch h), fun h => (nomatch h), hv.reports⟩
  | drop h => exact ⟨fun hactive _ => h hactive, fun _ d hd => (nomatch hd), hv.reports⟩
  | reset hnext hdeadline hactive =>
      exact ⟨fun h => (nomatch h), fun h => (nomatch h), hv.report hnext hdeadline hactive⟩
  | lost cycles hnext hdeadline hactive =>
      refine ⟨fun _ h => (nomatch h), fun _ d hd => ?_, hv.report hnext hdeadline hactive⟩
      have hcycle : cycleUs ≤ (cycles + 1) * cycleUs := Nat.le_mul_of_pos_left _ (Nat.succ_pos _)
      have heq := Option.some.inj hd
      dsimp only at heq ⊢
      omega

/-- A call keeps the invariant. -/
theorem SocPath.sound (h : SocPath cycleUs toleranceUs timeUs v w)
    (hv : v.Renewed cycleUs toleranceUs → v.Sound cycleUs toleranceUs) :
    w.Renewed cycleUs toleranceUs → w.Sound cycleUs toleranceUs := by
  induction h with
  | refl => exact hv
  | tail _ hmove ih =>
      intro hw
      exact hmove.sound (ih (fun t d hmem => hw t d (hmove.suffix.subset hmem))) hw

end invariant

/-! ### What a call does to the view -/

namespace CnContext

variable {σ : Type}

/-- The view of a context. -/
def socView (c : CnContext σ) : SocView where
  lastUs := c.lastSocReceptionTimeUs
  active := c.socTimeoutCheckActive
  nextUs := c.nextTickUs
  timeoutUs := c.nmtStateMachine.basicEthernetTimeout.toNat
  events := c.history.filter CnEvent.isSoc

theorem socView_congr {c d : CnContext σ} (h : d.supervision = c.supervision) :
    d.socView = c.socView := by
  have hview : ∀ e : CnContext σ, e.socView =
      ⟨e.supervision.lastSocUs, e.supervision.checksSoc, e.supervision.nextTickUs,
        e.supervision.machine.basicEthernetTimeout.toNat,
        e.supervision.history.filter CnEvent.isSoc⟩ := fun _ => rfl
  rw [hview, hview, h]

/-- The timing is read from two objects. -/
theorem socTiming_congr {c d : CnContext σ}
    (h : ∀ index : UInt16, index = 0x1006 ∨ index = 0x1C14 →
      d.core.od.read index 0 = c.core.od.read index 0) : d.socTiming = c.socTiming := by
  unfold socTiming ObjectDictionary.readU32
  rw [h 0x1006 (.inl rfl), h 0x1C14 (.inr rfl)]

theorem socTiming_countIn (c : CnContext σ) {index : UInt16} (h : index = 0x1101 ∨ index = 0x1102)
    (subIndex : UInt8) : (c.countIn index subIndex).socTiming = c.socTiming := by
  apply socTiming_congr
  rintro i hi
  refine c.core.od.read_incrementCounter ?_ _ _
  rintro rfl
  revert h
  obtain rfl | rfl := hi
  · decide
  · decide

theorem socTiming_writeErrorRegister (c : CnContext σ) (value : UInt8) :
    (c.writeErrorRegister value).socTiming = c.socTiming := by
  apply socTiming_congr
  rintro i hi
  refine c.core.od.read_writeInternal ?_ _ _ _ _
  rintro rfl
  revert hi
  decide

theorem socTiming_completeCycle (c : CnContext σ) : c.completeCycle.socTiming = c.socTiming := by
  dsimp only [completeCycle]
  split_ifs
  · exact (socTiming_countIn _ (.inr rfl) 5).trans (socTiming_writeErrorRegister _ _)
  · rfl

theorem socView_completeCycle (c : CnContext σ) : c.completeCycle.socView = c.socView := by
  dsimp only [completeCycle]
  split_ifs
  · rfl
  · rfl

/-- Only an earlier deadline replaces the one that is set. -/
theorem socView_scheduleSocCheck {c : CnContext σ} {cycleUs toleranceUs : ℕ} (hcycle : 0 < cycleUs)
    (htiming : c.socTiming = some (cycleUs, toleranceUs)) (timeUs : ℕ) :
    (c.scheduleSocCheck timeUs).socView = { c.socView with
      nextUs := some (c.socView.renewed (timeUs + cycleUs + toleranceUs)) } := by
  unfold scheduleSocCheck SocView.renewed
  rw [htiming]
  dsimp only
  rw [if_pos hcycle]
  cases hnext : c.nextTickUs with
  | none =>
      dsimp only [socView]
      rw [hnext]
  | some currentUs =>
      dsimp only [socView]
      rw [hnext]
      dsimp only
      split_ifs with hlt
      · rw [min_eq_left hlt.le]
      · rw [min_eq_right (not_lt.mp hlt), ← hnext]

/-- A SoC with a readable timing renews the deadline. -/
theorem socView_receiveSoc {c : CnContext σ} {cycleUs toleranceUs : ℕ} (hcycle : 0 < cycleUs)
    (htiming : c.socTiming = some (cycleUs, toleranceUs)) (timeUs : ℕ) :
    SocMove cycleUs toleranceUs timeUs c.socView (c.receiveSoc timeUs).socView := by
  dsimp only [receiveSoc]
  generalize hd : completeCycle _ = d
  have hview : d.socView = { c.socView with
      lastUs := timeUs
      active := true
      events := .socReceived timeUs c.nextTickUs :: c.socView.events } := by
    rw [← hd, socView_completeCycle]
    rfl
  have hdt : d.socTiming = some (cycleUs, toleranceUs) := by
    rw [← hd, socTiming_completeCycle]
    exact (socTiming_countIn _ (.inl rfl) 1).trans htiming
  rw [socView_scheduleSocCheck hcycle hdt, hview]
  exact SocMove.receive c.socView

/-! ### Received frames -/

variable [ObjectDictionaryStorage σ]

theorem socView_processNmtEvent (c : CnContext σ) (event : NmtEvent) :
    (c.processNmtEvent event).socView = c.socView := by
  obtain ⟨state, hstate⟩ := c.nmtStateMachine.processEvent_parameters event c.core.od
  unfold processNmtEvent socView
  dsimp only
  rw [hstate]

theorem socTiming_processNmtEvent (c : CnContext σ) {event : NmtEvent}
    (h : MnNmtStateMachine.isReset event = false) :
    (c.processNmtEvent event).socTiming = c.socTiming := by
  apply socTiming_congr
  rintro i hi
  refine c.nmtStateMachine.read_processEvent c.core.od h ?_ 0
  rintro rfl
  revert hi
  decide

theorem socView_resetAfterError (c : CnContext σ) :
    c.resetAfterError.socView = { c.socView with active := false } := by
  have hview := c.socView_processNmtEvent .error
  unfold resetAfterError
  rw [← hview]
  rfl

/-- An error that ends the call stops the check. -/
theorem socView_handleDllError {c d : CnContext σ} {error : DllError} {timeUs : ℕ} {stop : Bool}
    (h : c.handleDllError error timeUs = (stop, d)) :
    d.socView = if stop then { c.socView with active := false } else c.socView := by
  dsimp only [handleDllError] at h
  split_ifs at h
  · obtain ⟨rfl, rfl⟩ := Prod.mk.inj h
    rw [if_pos rfl, socView_resetAfterError, socView_congr (supervision_signalError _ error timeUs)]
    rfl
  · obtain ⟨rfl, rfl⟩ := Prod.mk.inj h
    rw [if_pos rfl, socView_resetAfterError]
    rfl
  · obtain ⟨rfl, rfl⟩ := Prod.mk.inj h
    rw [socView_congr (supervision_signalError _ error timeUs)]
    rfl
  · obtain ⟨rfl, rfl⟩ := Prod.mk.inj h
    rfl

theorem socView_handleDllErrors {timeUs : ℕ} {stop : Bool} : ∀ {errors : List DllError}
    {c d : CnContext σ}, c.handleDllErrors errors timeUs = (stop, d) →
    d.socView = if stop then { c.socView with active := false } else c.socView
  | [], c, d, h => by
      obtain ⟨rfl, rfl⟩ := Prod.mk.inj h
      rfl
  | error :: errors, c, d, h => by
      rw [handleDllErrors] at h
      split at h
      · rename_i e he
        obtain ⟨rfl, rfl⟩ := Prod.mk.inj h
        exact socView_handleDllError he
      · rename_i e he
        have hview : e.socView = c.socView := socView_handleDllError he
        rw [socView_handleDllErrors h, hview]

omit [ObjectDictionaryStorage σ] in
theorem socView_countReceived (c : CnContext σ) (frame : PowerlinkFrame) (timeUs : ℕ) :
    (c.countReceived frame timeUs).socView = c.socView := by
  cases frame with
  | soA soa =>
      dsimp only [countReceived]
      split_ifs
      · rfl
      · rfl
  | _ => rfl

section paths

variable {c d : CnContext σ} {cycleUs toleranceUs timeUs : ℕ} {action : NodeAction}

/-- An equation of views is a path. -/
theorem SocPath.of_eq {v w : SocView} (h : w = v) : SocPath cycleUs toleranceUs timeUs v w :=
  h ▸ .refl

/-- Up to the NMT event, only a SoC touches the view. -/
theorem receiveFrame_path (hcycle : 0 < cycleUs)
    (htiming : c.socTiming = some (cycleUs, toleranceUs)) (frame : PowerlinkFrame) (timeUs : ℕ) :
    SocPath cycleUs toleranceUs timeUs c.socView (c.receiveFrame frame timeUs).socView := by
  have hsoc : SocPath cycleUs toleranceUs timeUs c.socView
      (c.receiveCycleStart frame timeUs).socView := by
    cases frame with
    | soc soc => exact .single (socView_receiveSoc hcycle htiming timeUs)
    | _ => exact .refl
  have hraise : ∀ (e : CnContext σ) (event : Option NmtEvent),
      (e.raise event).socView = e.socView := by
    intro e event
    cases event with
    | none => rfl
    | some event => exact e.socView_processNmtEvent event
  refine hsoc.trans (SocPath.of_eq ?_)
  dsimp only [receiveFrame]
  rw [hraise, socView_congr (supervision_receiveNmtEvent _ frame),
    socView_congr (supervision_receiveFlags _ frame), socView_countReceived]

/-- After the NMT event, only an error touches the view. -/
theorem processAccepted_path (hcycle : 0 < cycleUs)
    (htiming : c.socTiming = some (cycleUs, toleranceUs)) {frame : PowerlinkFrame}
    (h : c.processAccepted frame timeUs = some (action, d)) :
    SocPath cycleUs toleranceUs timeUs c.socView d.socView := by
  have hreceived := receiveFrame_path hcycle htiming frame timeUs
  dsimp only [processAccepted] at h
  generalize c.receiveFrame frame timeUs = e at h hreceived
  split at h
  · rename_i e' herrors
    obtain ⟨-, rfl⟩ := Prod.mk.inj (Option.some.inj h)
    refine hreceived.tail ?_
    rw [socView_handleDllErrors herrors]
    exact .stop e.socView
  · rename_i e' herrors
    refine hreceived.trans (SocPath.of_eq ?_)
    rw [socView_congr (supervision_respondFrame h), socView_handleDllErrors herrors]
    rfl

theorem socView_receiveSdo (c : CnContext σ) (frame : ASndFrame) (timeUs : ℕ) :
    (c.receiveSdo frame timeUs).2.socView = c.socView := by
  obtain ⟨core, hcore⟩ := c.receiveSdo_core frame timeUs
  rw [hcore]
  rfl

theorem processFrame_path (hcycle : 0 < cycleUs)
    (htiming : c.socTiming = some (cycleUs, toleranceUs)) {frame : PowerlinkFrame}
    (h : c.processFrame frame timeUs = some (action, d)) :
    SocPath cycleUs toleranceUs timeUs c.socView d.socView := by
  cases frame with
  | aSnd asnd =>
      dsimp only [processFrame] at h
      split_ifs at h
      · apply SocPath.of_eq
        rw [← c.socView_receiveSdo asnd timeUs, Option.some.inj h]
      · exact processAccepted_path (c := c.count 4) hcycle
          ((c.socTiming_countIn (.inl rfl) 4).trans htiming) h
      · exact SocPath.of_eq (by rw [(Prod.mk.inj (Option.some.inj h)).2])
  | _ => exact processAccepted_path hcycle htiming h

theorem socView_handleInvalidFormat (c : CnContext σ) :
    c.handleInvalidFormat.socView = c.socView := rfl

theorem processEthernetFrame_path (hcycle : 0 < cycleUs)
    (htiming : c.socTiming = some (cycleUs, toleranceUs)) {buffer : List UInt8}
    (h : c.processEthernetFrame buffer timeUs = some (action, d)) :
    SocPath cycleUs toleranceUs timeUs c.socView d.socView := by
  dsimp only [processEthernetFrame] at h
  generalize hwoken : (if c.nmtState = .nmtBasicEthernet then
    c.processNmtEvent .powerlinkFrameReceived else c) = woken at h
  have hwview : woken.socView = c.socView ∧ woken.socTiming = c.socTiming := by
    rw [← hwoken]
    split_ifs
    · exact ⟨c.socView_processNmtEvent _, c.socTiming_processNmtEvent rfl⟩
    · exact ⟨rfl, rfl⟩
  generalize hcounted : (if woken.isSdoForNode buffer then woken.count 6 else woken) = counted at h
  have hcview : counted.socView = c.socView ∧ counted.socTiming = c.socTiming := by
    rw [← hcounted]
    split_ifs
    · exact ⟨hwview.1, (woken.socTiming_countIn (.inl rfl) 6).trans hwview.2⟩
    · exact hwview
  rw [← hcview.1]
  split at h
  · exact processFrame_path hcycle (hcview.2.trans htiming) h
  · rw [(Prod.mk.inj (Option.some.inj h)).2]
    exact .refl
  · rw [← (Prod.mk.inj (Option.some.inj h)).2]
    exact SocPath.of_eq counted.socView_handleInvalidFormat

theorem receiveEthernet_path (hcycle : 0 < cycleUs)
    (htiming : c.socTiming = some (cycleUs, toleranceUs)) {input : CycleInput}
    (h : c.receiveEthernet input = some (action, d)) :
    SocPath cycleUs toleranceUs input.currentTimeUs c.socView d.socView := by
  unfold receiveEthernet at h
  split at h
  · rw [(Prod.mk.inj (Option.some.inj h)).2]
    exact .refl
  · split_ifs at h
    · exact processEthernetFrame_path hcycle htiming h
    · rw [(Prod.mk.inj (Option.some.inj h)).2]
      exact .refl

theorem socView_receiveUdp (c : CnContext σ) (input : CycleInput) :
    (c.receiveUdp input).2.socView = c.socView := by
  obtain ⟨core, hcore⟩ := c.receiveUdp_core input
  rw [hcore]
  rfl

/-! ### The tick -/

omit [ObjectDictionaryStorage σ] in
theorem socView_tickSdoServer (c : CnContext σ) (timeUs : ℕ) :
    (c.tickSdoServer timeUs).2.socView = c.socView := by
  obtain ⟨core, hcore⟩ := c.tickSdoServer_core timeUs
  rw [hcore]
  rfl

/-- A heartbeat timeout that ends the tick stops the check. -/
theorem socView_handleHeartbeatTimeout {nodeId : NodeId} {stop : Bool}
    (h : c.handleHeartbeatTimeout nodeId timeUs = (stop, d)) :
    d.socView = if stop then { c.socView with active := false } else c.socView := by
  dsimp only [handleHeartbeatTimeout] at h
  split_ifs at h
  · obtain ⟨rfl, rfl⟩ := Prod.mk.inj h
    rw [if_pos rfl, socView_resetAfterError]
    rfl
  · obtain ⟨rfl, rfl⟩ := Prod.mk.inj h
    rw [if_pos rfl, socView_resetAfterError]
    rfl
  · obtain ⟨rfl, rfl⟩ := Prod.mk.inj h
    rw [if_pos rfl, socView_resetAfterError]
    rfl
  · obtain ⟨rfl, rfl⟩ := Prod.mk.inj h
    rfl
  · obtain ⟨rfl, rfl⟩ := Prod.mk.inj h
    rfl
  · obtain ⟨rfl, rfl⟩ := Prod.mk.inj h
    rfl

theorem socView_handleHeartbeatTimeouts {stop : Bool} : ∀ {nodeIds : List NodeId}
    {c d : CnContext σ}, c.handleHeartbeatTimeouts nodeIds timeUs = (stop, d) →
    d.socView = if stop then { c.socView with active := false } else c.socView
  | [], c, d, h => by
      obtain ⟨rfl, rfl⟩ := Prod.mk.inj h
      rfl
  | nodeId :: nodeIds, c, d, h => by
      rw [handleHeartbeatTimeouts] at h
      split at h
      · rename_i e he
        obtain ⟨rfl, rfl⟩ := Prod.mk.inj h
        exact socView_handleHeartbeatTimeout he
      · rename_i e he
        have hview : e.socView = c.socView := socView_handleHeartbeatTimeout he
        rw [socView_handleHeartbeatTimeouts h, hview]

theorem socView_tickHeartbeats {stop : Bool} (h : c.tickHeartbeats timeUs = some (stop, d)) :
    d.socView = if stop then { c.socView with active := false } else c.socView := by
  unfold tickHeartbeats at h
  split_ifs at h
  · split at h
    · cases h
    · have hview := socView_handleHeartbeatTimeouts (Option.some.inj h)
      exact hview
  · obtain ⟨rfl, rfl⟩ := Prod.mk.inj (Option.some.inj h)
    rfl

omit [ObjectDictionaryStorage σ] in
theorem socTiming_rescheduleSocCheck (h : c.rescheduleSocCheck timeUs = some d) :
    d.socTiming = c.socTiming := by
  obtain ⟨_, _, rfl⟩ := rescheduleSocCheck_frame h
  rfl

omit [ObjectDictionaryStorage σ] in
/-- The next check is at least one cycle and the tolerance after the last SoC. -/
theorem socView_rescheduleSocCheck (htiming : d.socTiming = some (cycleUs, toleranceUs))
    (hcycle : 0 < cycleUs) (h : c.rescheduleSocCheck timeUs = some d) :
    ∃ cycles, d.socView = { c.socView with
      nextUs := some (c.lastSocReceptionTimeUs + (cycles + 1) * cycleUs + toleranceUs) } := by
  have hc : c.socTiming = some (cycleUs, toleranceUs) :=
    (socTiming_rescheduleSocCheck h).symm.trans htiming
  unfold rescheduleSocCheck at h
  rw [hc] at h
  dsimp only at h
  rw [if_pos hcycle] at h
  split_ifs at h
  exact ⟨_, by rw [← Option.some.inj h]; rfl⟩

/-- A SoC timeout is delivered at an expired deadline of an active check. -/
theorem deliverSocTimeout_path (hcycle : 0 < cycleUs)
    (htiming : d.socTiming = some (cycleUs, toleranceUs)) {nmtState : NmtState} {deadlineUs : ℕ}
    (hnext : c.nextTickUs = some deadlineUs) (hdeadline : deadlineUs ≤ timeUs)
    (hactive : c.socTimeoutCheckActive = true)
    (h : deliverSocTimeout { c with nextTickUs := none } nmtState timeUs = some d) :
    SocPath cycleUs toleranceUs timeUs c.socView d.socView := by
  dsimp only [deliverSocTimeout] at h
  split at h
  · rename_i e herrors
    obtain rfl := Option.some.inj h
    apply Relation.ReflTransGen.single
    rw [socView_handleDllErrors herrors]
    exact .reset c.socView hnext hdeadline hactive
  · rename_i e herrors
    have hview := socView_handleDllErrors herrors
    have hstill : e.socTimeoutCheckActive = true := (congrArg SocView.active hview).trans hactive
    rw [if_pos hstill] at h
    obtain ⟨cycles, hd⟩ := socView_rescheduleSocCheck htiming hcycle h
    have hlast : e.lastSocReceptionTimeUs = c.lastSocReceptionTimeUs :=
      congrArg SocView.lastUs hview
    apply Relation.ReflTransGen.single
    rw [hd, hlast, hview]
    exact .lost c.socView cycles hnext hdeadline hactive

theorem tickDeadline_path (hcycle : 0 < cycleUs)
    (htiming : d.socTiming = some (cycleUs, toleranceUs)) {nmtState : NmtState}
    (h : c.tickDeadline nmtState timeUs = some d) :
    SocPath cycleUs toleranceUs timeUs c.socView d.socView := by
  dsimp only [tickDeadline] at h
  split at h
  · rename_i hnext
    split_ifs at h with hstart
    · rw [← Option.some.inj h]
      exact .single (.start c.socView hnext hstart.2)
    · rw [Option.some.inj h]
      exact .refl
  · rename_i deadlineUs hnext
    split_ifs at h with hearly hstate htimeout hactive
    · rw [Option.some.inj h]
      exact .refl
    · apply Relation.ReflTransGen.single
      have hview := socView_processNmtEvent { c with nextTickUs := none } .timeout
      have hd : d.socView = { c.socView with nextUs := none, active := false } := by
        rw [← Option.some.inj h]
        exact congrArg (fun v : SocView => { v with active := false }) hview
      rw [hd]
      exact .leave c.socView
    · rw [← Option.some.inj h]
      exact .single (.drop c.socView (fun _ => Nat.eq_zero_of_not_pos htimeout))
    · exact deliverSocTimeout_path hcycle htiming hnext (not_lt.mp hearly) hactive h
    · rw [← Option.some.inj h]
      exact .single (.drop c.socView (fun habs => absurd habs hactive))

theorem processTick_path (hcycle : 0 < cycleUs)
    (htiming : d.socTiming = some (cycleUs, toleranceUs))
    (h : c.processTick timeUs = some (action, d)) :
    SocPath cycleUs toleranceUs timeUs c.socView d.socView := by
  have hserver := c.socView_tickSdoServer timeUs
  unfold processTick at h
  generalize c.tickSdoServer timeUs = q at h hserver
  obtain ⟨_ | sent, e⟩ := q
  · dsimp only at h hserver
    rw [← hserver]
    split at h
    · cases h
    · rename_i e' hbeats
      obtain ⟨-, rfl⟩ := Prod.mk.inj (Option.some.inj h)
      rw [socView_tickHeartbeats hbeats]
      exact .single (.stop e.socView)
    · rename_i e' hbeats
      obtain ⟨d', hd', h⟩ := Option.map_eq_some_iff.mp h
      obtain ⟨-, rfl⟩ := Prod.mk.inj h
      have hview : e'.socView = e.socView := socView_tickHeartbeats hbeats
      rw [← hview]
      exact tickDeadline_path hcycle htiming hd'
  · obtain ⟨-, rfl⟩ := Prod.mk.inj (Option.some.inj h)
    exact SocPath.of_eq hserver

/-- A call of `run_cycle`, where the dictionary holds the same timing before and after it. -/
theorem runCycle_path (hcycle : 0 < cycleUs)
    (hbefore : c.socTiming = some (cycleUs, toleranceUs))
    (hafter : d.socTiming = some (cycleUs, toleranceUs)) {input : CycleInput}
    (h : c.runCycle input = some (action, d)) :
    SocPath cycleUs toleranceUs input.currentTimeUs c.socView d.socView := by
  obtain ⟨⟨action₁, c₁⟩, heth, h⟩ := Option.bind_eq_some_iff.mp h
  have hpath := receiveEthernet_path hcycle hbefore heth
  have hudp := c₁.socView_receiveUdp input
  dsimp only at h
  split_ifs at h
  · rwa [← (Prod.mk.inj (Option.some.inj h)).2]
  · rw [← (Prod.mk.inj (Option.some.inj h)).2, hudp]
    exact hpath
  · have htick := processTick_path hcycle hafter h
    rw [hudp] at htick
    exact hpath.trans htick

end paths

end CnContext

/-! ### Runs -/

namespace CnRun

variable {σ : Type}

/-- The dictionary holds the cycle time and the tolerance, in microseconds, in every state of the
run. -/
def Timed (r : CnRun σ) (cycleUs toleranceUs : ℕ) : Prop :=
  r.context.socTiming = some (cycleUs, toleranceUs) ∧
    ∀ x ∈ r.returned, x.before.socTiming = some (cycleUs, toleranceUs)

/-- The times of the calls do not decrease. -/
def InOrder (r : CnRun σ) : Prop :=
  (r.returned.filterMap (fun x => x.call.timeUs)).Pairwise (fun later earlier => earlier ≤ later)

/-- No SoC arrives while an earlier deadline than its own is set. -/
def SocsRenew (r : CnRun σ) (cycleUs toleranceUs : ℕ) : Prop :=
  ∀ timeUs previousUs, .socReceived timeUs (some previousUs) ∈ r.context.history →
    timeUs + cycleUs + toleranceUs ≤ previousUs

/-- A `SocTimeout` is only delivered when a cycle and the tolerance have passed since the last
SoC. -/
def LossesAreReal (r : CnRun σ) (cycleUs toleranceUs : ℕ) : Prop :=
  ∀ timeUs lastUs, .socTimedOut timeUs lastUs ∈ r.context.history →
    lastUs + cycleUs + toleranceUs ≤ timeUs

variable [ObjectDictionaryStorage σ]

/-- No SoC is reported as lost that is not: as long as each SoC finds no earlier deadline than its
own, a timeout needs a cycle and the tolerance without a SoC. -/
theorem no_false_loss_of_soc :
    Throughout (fun r : CnRun σ => ∀ cycleUs toleranceUs, 0 < cycleUs →
      r.Timed cycleUs toleranceUs → r.SocsRenew cycleUs toleranceUs →
      r.LossesAreReal cycleUs toleranceUs) := by
  have hsound : Throughout (fun r : CnRun σ => ∀ cycleUs toleranceUs, 0 < cycleUs →
      r.Timed cycleUs toleranceUs → r.context.socView.Renewed cycleUs toleranceUs →
      r.context.socView.Sound cycleUs toleranceUs) := by
    apply throughout_of_call
    · intro od mac machine consumers cycleUs toleranceUs _ _ _
      exact ⟨fun h => (nomatch h), fun h => (nomatch h), fun t last h => (nomatch h)⟩
    · intro r call action d hr hcall cycleUs toleranceUs hcycle htimed
      have hbefore : r.context.socTiming = some (cycleUs, toleranceUs) :=
        htimed.2 _ List.mem_cons_self
      have hpast := hr cycleUs toleranceUs hcycle
        ⟨hbefore, fun x hx => htimed.2 x (List.mem_cons_of_mem _ hx)⟩
      cases call with
      | runCycle input =>
          exact (CnContext.runCycle_path hcycle hbefore htimed.1 hcall).sound hpast
      | queueSdoRequest payload =>
          obtain ⟨-, rfl⟩ := Prod.mk.inj (Option.some.inj hcall)
          exact hpast
      | queueNmtRequest command target =>
          obtain ⟨-, rfl⟩ := Prod.mk.inj (Option.some.inj hcall)
          exact hpast
      | configurationComplete =>
          obtain ⟨-, rfl⟩ := Prod.mk.inj (Option.some.inj hcall)
          rwa [CnContext.socView_processNmtEvent]
  refine hsound.mono ?_
  intro r hr cycleUs toleranceUs hcycle htimed hrenew timeUs lastUs hmem
  have hrenewed : r.context.socView.Renewed cycleUs toleranceUs :=
    fun t d ht => hrenew t d (List.mem_filter.mp ht).1
  exact (hr cycleUs toleranceUs hcycle htimed hrenewed).reports timeUs lastUs
    (List.mem_filter.mpr ⟨hmem, rfl⟩)

/-- A SoC comes every 900 us in a cycle of 1000 us; the second one leaves the deadline of the first
one, at which a SoC is reported as lost. -/
theorem soc_reported_lost :
    ¬ Throughout (fun r : CnRun Empty => ∀ cycleUs toleranceUs, 0 < cycleUs →
      r.Timed cycleUs toleranceUs → r.InOrder → r.LossesAreReal cycleUs toleranceUs) := by
  intro h
  have hevents := h.mono (fun r hr => show r.Timed 1000 0 → r.InOrder →
      .socTimedOut 2000 1900 ∉ r.context.history from
    fun htimed horder hmem => absurd (hr 1000 0 (by decide) htimed horder 2000 1900 hmem) (by decide))
    (cnDictionary 1 1000 []) ⟨0, 0, 0, 0, 0, 1⟩ [.soc 1000, .soc 1900, .idle 2000]
  revert hevents
  unfold Timed InOrder
  apply Runs.not_always_reached
  decide +kernel

end CnRun

end Powerlink
