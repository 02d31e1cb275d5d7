import Powerlink.Frame.DllCs
import Powerlink.Lib.Buckets

/-! # Error counters as leaky buckets

Every counted error has a class: seven of a controlled node, and for a managing node three general
ones and three of each controlled node.  The counter of a class is a `ThresholdCounter`, and the two
kinds of counters are compared with the buckets of `Lib/Buckets`.

The counters of a controlled node and those that a managing node keeps for the single nodes are made by
`ThresholdCounter::new(15)` and behave like buckets.  The general counters of a managing node are made
by `Default`, with the threshold zero, and never report (`counters_are_buckets_iff`). -/

namespace Powerlink

open Buckets Runs

/-- Eight for an error, and the limit of fifteen. -/
def thresholdRule : Rule := ⟨8, 15⟩

/-! ### One counter -/

namespace ThresholdCounter

/-- A counter with a threshold is a bucket. -/
theorem count_of_threshold {c : ThresholdCounter} (h : c.threshold = 15) :
    c.increment.checkAndReset.1 = decide (thresholdRule.Overflows c.thresholdCnt) ∧
    c.increment.checkAndReset.2.thresholdCnt = thresholdRule.filled c.thresholdCnt ∧
    c.increment.checkAndReset.2.threshold = 15 := by
  have hthreshold : c.increment.threshold = 15 := h
  have hcount : c.increment.thresholdCnt = min (c.thresholdCnt + 8) 0xFFFFFFFF := rfl
  unfold checkAndReset
  by_cases hfull : thresholdRule.Overflows c.thresholdCnt
  · have hle : 15 ≤ c.thresholdCnt + 8 := hfull
    rw [if_pos (by omega), decide_eq_true hfull]
    exact ⟨rfl, (if_pos hfull).symm, h⟩
  · have hlt : ¬15 ≤ c.thresholdCnt + 8 := hfull
    rw [if_neg (by omega), decide_eq_false hfull]
    refine ⟨rfl, ?_, h⟩
    rw [Rule.filled, if_neg hfull, hcount]
    show min (c.thresholdCnt + 8) 0xFFFFFFFF = c.thresholdCnt + 8
    omega

/-- Without a threshold nothing is reported, and the counter is not emptied. -/
theorem count_of_no_threshold {c : ThresholdCounter} (h : c.threshold = 0) :
    c.increment.checkAndReset.1 = false ∧
    (c.increment.checkAndReset.2.thresholdCnt = thresholdRule.filled c.thresholdCnt ↔
      ¬thresholdRule.Overflows c.thresholdCnt) ∧
    c.increment.checkAndReset.2.threshold = 0 := by
  have hthreshold : c.increment.threshold = 0 := h
  have hcheck : c.increment.checkAndReset = (false, c.increment) := if_neg (by omega)
  have hcount : c.increment.thresholdCnt = min (c.thresholdCnt + 8) 0xFFFFFFFF := rfl
  rw [hcheck]
  refine ⟨rfl, ?_, h⟩
  rw [hcount]
  by_cases hfull : thresholdRule.Overflows c.thresholdCnt
  · rw [Rule.filled, if_pos hfull]
    refine iff_of_false ?_ (not_not.mpr hfull)
    omega
  · have hlt : ¬15 ≤ c.thresholdCnt + 8 := hfull
    rw [Rule.filled, if_neg hfull]
    refine iff_of_true ?_ hfull
    show min (c.thresholdCnt + 8) 0xFFFFFFFF = c.thresholdCnt + 8
    omega

end ThresholdCounter

/-! ### The counters of a controlled node -/

/-- The classes of the errors that a controlled node counts. -/
inductive CnErrorClass where
  | collision
  | lossOfSoc
  | lossOfSoa
  | lossOfPreq
  | socJitter
  | crc
  | heartbeatTimeout
deriving DecidableEq, Repr

/-- The class in which a controlled node counts an error. -/
def DllError.cnClass : DllError → Option CnErrorClass
  | collision => some .collision
  | lossOfSoc => some .lossOfSoc
  | lossOfSoa => some .lossOfSoa
  | lossOfPreq => some .lossOfPreq
  | soCJitter => some .socJitter
  | crc => some .crc
  | heartbeatTimeout _ => some .heartbeatTimeout
  | _ => none

namespace CnErrorCounters

/-- The counter of a class. -/
def counter (c : CnErrorCounters) : CnErrorClass → ThresholdCounter
  | .collision => c.collision
  | .lossOfSoc => c.lossOfSoc
  | .lossOfSoa => c.lossOfSoa
  | .lossOfPreq => c.lossOfPreq
  | .socJitter => c.socJitter
  | .crc => c.crcErrors
  | .heartbeatTimeout => c.heartbeatTimeout

/-- The counters with a new one for a class. -/
def setCounter (c : CnErrorCounters) (k : CnErrorClass) (t : ThresholdCounter) : CnErrorCounters :=
  match k with
  | .collision => { c with collision := t }
  | .lossOfSoc => { c with lossOfSoc := t }
  | .lossOfSoa => { c with lossOfSoa := t }
  | .lossOfPreq => { c with lossOfPreq := t }
  | .socJitter => { c with socJitter := t }
  | .crc => { c with crcErrors := t }
  | .heartbeatTimeout => { c with heartbeatTimeout := t }

theorem counter_setCounter (c : CnErrorCounters) (k k' : CnErrorClass) (t : ThresholdCounter) :
    (c.setCounter k t).counter k' = if k' = k then t else c.counter k' := by
  cases k <;> cases k' <;> rfl

/-- A counted error goes to the counter of its class. -/
theorem handleError_of_class (c : CnErrorCounters) {e : DllError} {k : CnErrorClass}
    (h : e.cnClass = some k) :
    c.handleError e = (thresholdAction (c.counter k).increment.checkAndReset.1,
      (c.counter k).increment.checkAndReset.1,
      c.setCounter k (c.counter k).increment.checkAndReset.2) := by
  cases e with
  | collision | lossOfSoc | lossOfSoa | lossOfPreq | soCJitter | crc | heartbeatTimeout =>
      obtain rfl := Option.some.inj h
      rfl
  | _ => cases h

/-- The other errors leave the counters of the classes. -/
theorem handleError_uncounted (c : CnErrorCounters) {e : DllError} (h : e.cnClass = none)
    (k : CnErrorClass) : (c.handleError e).2.2.counter k = c.counter k := by
  cases e with
  | collision | lossOfSoc | lossOfSoa | lossOfPreq | soCJitter | crc | heartbeatTimeout => cases h
  | lossOfLink => cases k <;> rfl
  | _ => rfl

theorem counter_onCycleComplete (c : CnErrorCounters) (k : CnErrorClass) :
    c.onCycleComplete.2.counter k = (c.counter k).decrement := by
  cases k <;> rfl

/-- The counters of a controlled node; they answer with an action and a change of the status. -/
def counters : Counter CnErrorClass DllError CnErrorCounters (NmtAction × Bool) where
  error c e := (((c.handleError e).1, (c.handleError e).2.1), (c.handleError e).2.2)
  cycle c := c.onCycleComplete.2
  level c k := (c.counter k).thresholdCnt
  report _ := (.resetCommunication, true)
  quiet := (.none, false)

/-- Every counter has the threshold of `CnErrorCounters::new`. -/
def HasThresholds (c : CnErrorCounters) : Prop := ∀ k, (c.counter k).threshold = 15

theorem hasThresholds_next {c : CnErrorCounters} (h : c.HasThresholds) (call : Call DllError) :
    (counters.next c call).HasThresholds := by
  intro k
  cases call with
  | cycle =>
      have hk := c.counter_onCycleComplete k
      have hthreshold : (c.onCycleComplete.2.counter k).threshold = (c.counter k).threshold := by
        rw [hk]
        rfl
      exact hthreshold.trans (h k)
  | error e =>
      show ((c.handleError e).2.2.counter k).threshold = 15
      cases hclass : e.cnClass with
      | none => rw [c.handleError_uncounted hclass, h k]
      | some k' =>
          rw [c.handleError_of_class hclass, counter_setCounter]
          split_ifs
          · exact (ThresholdCounter.count_of_threshold (h k')).2.2
          · exact h k

theorem same_step {c : CnErrorCounters} (h : c.HasThresholds) {l : CnErrorClass → ℕ}
    (hsame : counters.Same (c, l)) (call : Call DllError) :
    counters.Same (counters.step thresholdRule DllError.cnClass (c, l) call) := by
  intro k
  have hk : (c.counter k).thresholdCnt = l k := hsame k
  cases call with
  | cycle =>
      show (c.onCycleComplete.2.counter k).thresholdCnt = l k - 1
      rw [counter_onCycleComplete, ← hk]
      rfl
  | error e =>
      show ((c.handleError e).2.2.counter k).thresholdCnt =
        levels thresholdRule DllError.cnClass l (.error e) k
      cases hclass : e.cnClass with
      | none => rw [c.handleError_uncounted hclass, levels_uncounted hclass, hk]
      | some k' =>
          rw [c.handleError_of_class hclass, counter_setCounter]
          by_cases hkk : k = k'
          · subst hkk
            rw [if_pos rfl, levels_self hclass, ← hk]
            exact (ThresholdCounter.count_of_threshold (h k)).2.1
          · rw [if_neg hkk, levels_other hclass hkk, hk]

theorem answers_step {c : CnErrorCounters} (h : c.HasThresholds) {l : CnErrorClass → ℕ}
    (hsame : counters.Same (c, l)) (call : Call DllError) :
    counters.Answers thresholdRule DllError.cnClass (c, l) call := by
  rintro e k - hclass
  have hk : (c.counter k).thresholdCnt = l k := hsame k
  have hreached := (ThresholdCounter.count_of_threshold (h k)).1
  show ((c.handleError e).1, (c.handleError e).2.1) = _
  rw [c.handleError_of_class hclass, hreached, hk]
  split_ifs with hfull
  · simp only [hfull, decide_true]
    rfl
  · simp only [hfull, decide_false]
    rfl

theorem behaves (calls : List (Call DllError)) :
    counters.Behaves thresholdRule DllError.cnClass {} calls := by
  have hnew : HasThresholds {} := by
    intro k
    cases k <;> rfl
  have hempty : ∀ k, counters.level {} k = 0 := by
    intro k
    cases k <;> rfl
  rw [counters.behaves_iff (C := fun _ _ => True) (fun c call h => hasThresholds_next h call)
    (fun c l call h hsame => iff_true_intro (same_step h hsame call))
    (fun c l call h hsame _ => answers_step h hsame call) hnew hempty]
  exact (always_of_step (P := fun _ => True) (fun _ _ _ => trivial) calls trivial).allSteps
    fun _ _ h => h

end CnErrorCounters

/-! ### The counters of a managing node -/

/-- The classes of the errors that a managing node counts. -/
inductive MnErrorClass where
  | crc
  | collision
  | cycleTimeExceeded
  | lossOfPres (nodeId : NodeId)
  | latePres (nodeId : NodeId)
  | lossOfStatusRes (nodeId : NodeId)
deriving DecidableEq, Repr

/-- The class in which a managing node counts an error. -/
def DllError.mnClass : DllError → Option MnErrorClass
  | crc => some .crc
  | collision => some .collision
  | cycleTimeExceeded => some .cycleTimeExceeded
  | lossOfPres nodeId => some (.lossOfPres nodeId)
  | latePres nodeId => some (.latePres nodeId)
  | lossOfStatusRes nodeId => some (.lossOfStatusRes nodeId)
  | _ => none

/-- The controlled node whose errors a class counts. -/
def MnErrorClass.nodeId : MnErrorClass → Option NodeId
  | lossOfPres nodeId | latePres nodeId | lossOfStatusRes nodeId => some nodeId
  | _ => none

namespace MnErrorCounters

/-- `MnErrorCounters::on_cycle_complete`; it returns `false`. -/
def onCycleComplete (c : MnErrorCounters) : Bool × MnErrorCounters :=
  (false, { c with
    crcErrors := c.crcErrors.decrement
    collision := c.collision.decrement
    cycleTimeExceeded := c.cycleTimeExceeded.decrement
    cnLossOfPres := c.cnLossOfPres.mapValues fun _ t => t.decrement
    cnLatePres := c.cnLatePres.mapValues fun _ t => t.decrement
    cnLossOfStatusResponse := c.cnLossOfStatusResponse.mapValues fun _ t => t.decrement })

/-- The counter of a node, or the one that its first error creates. -/
def counterFor (counters : SortedMap NodeId ThresholdCounter) (nodeId : NodeId) :
    ThresholdCounter :=
  (counters.get? nodeId).getD (.new 15)

/-- The counter of a class. -/
def counter (c : MnErrorCounters) : MnErrorClass → ThresholdCounter
  | .crc => c.crcErrors
  | .collision => c.collision
  | .cycleTimeExceeded => c.cycleTimeExceeded
  | .lossOfPres nodeId => counterFor c.cnLossOfPres nodeId
  | .latePres nodeId => counterFor c.cnLatePres nodeId
  | .lossOfStatusRes nodeId => counterFor c.cnLossOfStatusResponse nodeId

/-- The counters with a new one for a class. -/
def setCounter (c : MnErrorCounters) (k : MnErrorClass) (t : ThresholdCounter) : MnErrorCounters :=
  match k with
  | .crc => { c with crcErrors := t }
  | .collision => { c with collision := t }
  | .cycleTimeExceeded => { c with cycleTimeExceeded := t }
  | .lossOfPres nodeId => { c with cnLossOfPres := c.cnLossOfPres.insert nodeId t }
  | .latePres nodeId => { c with cnLatePres := c.cnLatePres.insert nodeId t }
  | .lossOfStatusRes nodeId =>
      { c with cnLossOfStatusResponse := c.cnLossOfStatusResponse.insert nodeId t }

theorem counterFor_insert (counters : SortedMap NodeId ThresholdCounter) (n n' : NodeId)
    (t : ThresholdCounter) :
    counterFor (counters.insert n t) n' = if n' = n then t else counterFor counters n' := by
  unfold counterFor
  rw [SortedMap.get?_insert]
  split_ifs
  · rfl
  · rfl

theorem counter_setCounter (c : MnErrorCounters) (k k' : MnErrorClass) (t : ThresholdCounter) :
    (c.setCounter k t).counter k' = if k' = k then t else c.counter k' := by
  cases k <;> cases k' <;> simp [setCounter, counter, counterFor_insert]

/-- A counted error goes to the counter of its class. -/
theorem handleError_of_class (c : MnErrorCounters) {e : DllError} {k : MnErrorClass}
    (h : e.mnClass = some k) :
    c.handleError e = (thresholdAction (c.counter k).increment.checkAndReset.1 k.nodeId,
      (c.counter k).increment.checkAndReset.1,
      c.setCounter k (c.counter k).increment.checkAndReset.2) := by
  cases e with
  | crc | collision | cycleTimeExceeded | lossOfPres | latePres | lossOfStatusRes =>
      obtain rfl := Option.some.inj h
      rfl
  | _ => cases h

/-- The other errors change nothing. -/
theorem handleError_uncounted (c : MnErrorCounters) {e : DllError} (h : e.mnClass = none) :
    (c.handleError e).2.2 = c := by
  cases e with
  | crc | collision | cycleTimeExceeded | lossOfPres | latePres | lossOfStatusRes => cases h
  | _ => rfl

/-- A counter that does not exist yet is as good as an empty one. -/
theorem counterFor_mapValues (counters : SortedMap NodeId ThresholdCounter) (nodeId : NodeId) :
    counterFor (counters.mapValues fun _ t => t.decrement) nodeId =
      (counterFor counters nodeId).decrement := by
  unfold counterFor
  rw [SortedMap.get?_mapValues]
  cases counters.get? nodeId with
  | none => rfl
  | some t => rfl

theorem counter_onCycleComplete (c : MnErrorCounters) (k : MnErrorClass) :
    c.onCycleComplete.2.counter k = (c.counter k).decrement := by
  cases k with
  | crc | collision | cycleTimeExceeded => rfl
  | lossOfPres nodeId => exact counterFor_mapValues c.cnLossOfPres nodeId
  | latePres nodeId => exact counterFor_mapValues c.cnLatePres nodeId
  | lossOfStatusRes nodeId => exact counterFor_mapValues c.cnLossOfStatusResponse nodeId

/-- The counters of a managing node; they answer with an action and a change of the status. -/
def counters : Counter MnErrorClass DllError MnErrorCounters (NmtAction × Bool) where
  error c e := (((c.handleError e).1, (c.handleError e).2.1), (c.handleError e).2.2)
  cycle c := c.onCycleComplete.2
  level c k := (c.counter k).thresholdCnt
  report k :=
    match k.nodeId with
    | some nodeId => (.resetNode nodeId, true)
    | none => (.resetCommunication, true)
  quiet := (.none, false)

/-- The thresholds of `Default` for the general counters, and of `new(15)` for those of a node. -/
def HasThresholds (c : MnErrorCounters) : Prop :=
  ∀ k, (c.counter k).threshold = if k.nodeId.isSome then 15 else 0

theorem hasThresholds_next {c : MnErrorCounters} (h : c.HasThresholds) (call : Call DllError) :
    (counters.next c call).HasThresholds := by
  intro k
  cases call with
  | cycle =>
      have hk := c.counter_onCycleComplete k
      have hthreshold : (c.onCycleComplete.2.counter k).threshold = (c.counter k).threshold := by
        rw [hk]
        rfl
      exact hthreshold.trans (h k)
  | error e =>
      show ((c.handleError e).2.2.counter k).threshold = _
      cases hclass : e.mnClass with
      | none => rw [c.handleError_uncounted hclass, h k]
      | some k' =>
          rw [c.handleError_of_class hclass, counter_setCounter]
          by_cases hkk : k = k'
          · subst hkk
            rw [if_pos rfl]
            have hk := h k
            by_cases hnode : k.nodeId.isSome = true
            · rw [if_pos hnode] at hk ⊢
              exact (ThresholdCounter.count_of_threshold hk).2.2
            · rw [if_neg hnode] at hk ⊢
              exact (ThresholdCounter.count_of_no_threshold hk).2.2
          · rw [if_neg hkk, h k]

/-- A call does not make the bucket of a general class overflow. -/
def GeneralBelow (l : MnErrorClass → ℕ) (call : Call DllError) : Prop :=
  ∀ e k, call = .error e → e.mnClass = some k → k.nodeId = none →
    ¬thresholdRule.Overflows (l k)

theorem same_step_iff {c : MnErrorCounters} (h : c.HasThresholds) {l : MnErrorClass → ℕ}
    (hsame : counters.Same (c, l)) (call : Call DllError) :
    counters.Same (counters.step thresholdRule DllError.mnClass (c, l) call) ↔
      GeneralBelow l call := by
  cases call with
  | cycle =>
      refine iff_of_true (fun k => ?_) nofun
      have hk : (c.counter k).thresholdCnt = l k := hsame k
      show (c.onCycleComplete.2.counter k).thresholdCnt = l k - 1
      rw [counter_onCycleComplete, ← hk]
      rfl
  | error e =>
      have hlevel : ∀ k, (c.counter k).thresholdCnt = l k := hsame
      have hstep : counters.Same (counters.step thresholdRule DllError.mnClass (c, l) (.error e)) ↔
          ∀ k, ((c.handleError e).2.2.counter k).thresholdCnt =
            levels thresholdRule DllError.mnClass l (.error e) k := Iff.rfl
      rw [hstep]
      cases hclass : e.mnClass with
      | none =>
          refine iff_of_true (fun k => ?_) fun e' k he' hk => ?_
          · rw [c.handleError_uncounted hclass, levels_uncounted hclass, hlevel k]
          · obtain rfl := Call.error.inj he'
            rw [hclass] at hk
            cases hk
      | some k' =>
          rw [c.handleError_of_class hclass]
          -- only the counter of the class of the error can differ from its bucket
          have hself : (∀ k, ((c.setCounter k' (c.counter k').increment.checkAndReset.2).counter
              k).thresholdCnt = levels thresholdRule DllError.mnClass l (.error e) k) ↔
              (c.counter k').increment.checkAndReset.2.thresholdCnt =
                thresholdRule.filled (c.counter k').thresholdCnt := by
            constructor
            · intro hall
              have hk := hall k'
              rw [counter_setCounter, if_pos rfl, levels_self hclass, ← hlevel k'] at hk
              exact hk
            · intro hk k
              rw [counter_setCounter]
              by_cases hkk : k = k'
              · rw [hkk, if_pos rfl, levels_self hclass, hk, hlevel k']
              · rw [if_neg hkk, levels_other hclass hkk, hlevel k]
          rw [hself]
          have hk' := h k'
          cases hnode : k'.nodeId with
          | some nodeId =>
              rw [hnode] at hk'
              refine iff_of_true (ThresholdCounter.count_of_threshold hk').2.1 ?_
              intro e' k he' hk hnone
              obtain rfl := Call.error.inj he'
              obtain rfl := Option.some.inj (hclass.symm.trans hk)
              rw [hnode] at hnone
              cases hnone
          | none =>
              rw [hnode] at hk'
              rw [(ThresholdCounter.count_of_no_threshold hk').2.1, hlevel k']
              constructor
              · intro hbelow e' k he' hk _
                obtain rfl := Call.error.inj he'
                obtain rfl := Option.some.inj (hclass.symm.trans hk)
                exact hbelow
              · intro hbelow
                exact hbelow e k' rfl hclass hnode

theorem answers_step {c : MnErrorCounters} (h : c.HasThresholds) {l : MnErrorClass → ℕ}
    (hsame : counters.Same (c, l)) {call : Call DllError} (hbelow : GeneralBelow l call) :
    counters.Answers thresholdRule DllError.mnClass (c, l) call := by
  intro e k hcall hclass
  have hlevel : (c.counter k).thresholdCnt = l k := hsame k
  have hk := h k
  show ((c.handleError e).1, (c.handleError e).2.1) = _
  rw [c.handleError_of_class hclass]
  cases hnode : k.nodeId with
  | some nodeId =>
      rw [hnode] at hk
      rw [(ThresholdCounter.count_of_threshold hk).1, hlevel]
      have hreport : counters.report k = (.resetNode nodeId, true) := by
        show (match k.nodeId with
          | some nodeId => (NmtAction.resetNode nodeId, true)
          | none => (.resetCommunication, true)) = _
        rw [hnode]
      split_ifs with hfull
      · rw [hreport, decide_eq_true hfull]
        rfl
      · rw [decide_eq_false hfull]
        rfl
  | none =>
      rw [hnode] at hk
      rw [(ThresholdCounter.count_of_no_threshold hk).1,
        if_neg (hbelow e k hcall hclass hnode)]
      rfl

theorem behaves_iff (calls : List (Call DllError)) :
    counters.Behaves thresholdRule DllError.mnClass {} calls ↔
      AllSteps (levels thresholdRule DllError.mnClass) GeneralBelow (fun _ => 0) calls := by
  have hnew : HasThresholds {} := by
    intro k
    cases k <;> rfl
  have hempty : ∀ k, counters.level {} k = 0 := by
    intro k
    cases k <;> rfl
  exact counters.behaves_iff (fun c call h => hasThresholds_next h call)
    (fun c l call h hsame => same_step_iff h hsame call)
    (fun c l call h hsame hbelow => answers_step h hsame hbelow) hnew hempty calls

end MnErrorCounters

/-! ### Both kinds of nodes -/

/-- The counters of a controlled node are leaky buckets, and those of a managing node are as long as
no general bucket overflows. -/
theorem counters_are_buckets_iff (cnCalls mnCalls : List (Call DllError)) :
    CnErrorCounters.counters.Behaves thresholdRule DllError.cnClass {} cnCalls ∧
      MnErrorCounters.counters.Behaves thresholdRule DllError.mnClass {} mnCalls ↔
    AllSteps (levels thresholdRule DllError.mnClass) MnErrorCounters.GeneralBelow (fun _ => 0)
      mnCalls := by
  rw [MnErrorCounters.behaves_iff]
  exact and_iff_right (CnErrorCounters.behaves cnCalls)

/-- The second CRC error of a managing node fills its bucket, and nothing is reported. -/
theorem crc_errors_are_not_reported :
    ¬∀ cnCalls mnCalls : List (Call DllError),
      CnErrorCounters.counters.Behaves thresholdRule DllError.cnClass {} cnCalls ∧
        MnErrorCounters.counters.Behaves thresholdRule DllError.mnClass {} mnCalls := by
  intro h
  have hanswers := (h [] [.error .crc, .error .crc]).2.answers
  have hsecond := hanswers.2.1 .crc .crc rfl rfl
  revert hsecond
  decide

end Powerlink
