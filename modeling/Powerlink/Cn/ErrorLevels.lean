import Powerlink.Cn.Moves
import Powerlink.Frame.ErrorCounters

/-! # The level of the error counters

The highest count is the level of the error counters of a controlled node.  A SoC lowers it by one,
and the last error is cleared where it comes down from one to zero.  The counter of an error that
reaches its threshold starts again at zero, so that the level behind it is that of the other
counters (`level_handled`). -/

namespace Powerlink

instance : Fintype CnErrorClass where
  elems := {.collision, .lossOfSoc, .lossOfSoa, .lossOfPreq, .socJitter, .crc, .heartbeatTimeout}
  complete k := by cases k <;> decide

namespace CnErrorCounters

/-- The highest count. -/
def level (c : CnErrorCounters) : ℕ := Finset.univ.sup fun k => (c.counter k).thresholdCnt

theorem level_pos_iff (c : CnErrorCounters) :
    0 < c.level ↔ ∃ k, 0 < (c.counter k).thresholdCnt := by
  unfold level
  rw [Finset.lt_sup_iff]
  simp only [Finset.mem_univ, true_and]

theorem isAnyActive_eq (c : CnErrorCounters) : c.isAnyActive = decide (0 < c.level) := by
  rw [Bool.eq_iff_iff, decide_eq_true_iff, level_pos_iff]
  unfold isAnyActive ThresholdCounter.isActive
  simp only [Bool.or_eq_true, decide_eq_true_iff]
  constructor
  · rintro ((((((h | h) | h) | h) | h) | h) | h)
    · exact ⟨.lossOfSoc, h⟩
    · exact ⟨.lossOfSoa, h⟩
    · exact ⟨.lossOfPreq, h⟩
    · exact ⟨.crc, h⟩
    · exact ⟨.collision, h⟩
    · exact ⟨.socJitter, h⟩
    · exact ⟨.heartbeatTimeout, h⟩
  · rintro ⟨k, h⟩
    have hcount : 0 < (c.counter k).thresholdCnt := h
    cases k with
    | collision => exact .inl (.inl (.inr hcount))
    | lossOfSoc => exact .inl (.inl (.inl (.inl (.inl (.inl hcount)))))
    | lossOfSoa => exact .inl (.inl (.inl (.inl (.inl (.inr hcount)))))
    | lossOfPreq => exact .inl (.inl (.inl (.inl (.inr hcount))))
    | socJitter => exact .inl (.inr hcount)
    | crc => exact .inl (.inl (.inl (.inr hcount)))
    | heartbeatTimeout => exact .inr hcount

/-- A cycle lowers every count. -/
theorem level_onCycleComplete (c : CnErrorCounters) : c.onCycleComplete.2.level = c.level - 1 := by
  unfold level
  have hmono : Monotone fun n : ℕ => n - 1 := fun a b h => Nat.sub_le_sub_right h 1
  rw [Finset.apply_sup_eq_sup_comp_of_linearOrder (fun n : ℕ => n - 1) hmono rfl]
  apply Finset.sup_congr rfl
  intro k _
  rw [counter_onCycleComplete]
  rfl

/-- The last error is cleared where the level comes down from one. -/
theorem onCycleComplete_clears (c : CnErrorCounters) :
    c.onCycleComplete.1 = decide (c.level = 1) := by
  have hclears : c.onCycleComplete.1 = (c.isAnyActive && !c.onCycleComplete.2.isAnyActive) := rfl
  rw [hclears, isAnyActive_eq, isAnyActive_eq, level_onCycleComplete, ← decide_not,
    ← Bool.decide_and]
  apply decide_eq_decide.mpr
  omega

/-- The counters have the thresholds of `CnErrorCounters::new` and are below them. -/
def InRange (c : CnErrorCounters) : Prop :=
  ∀ k, (c.counter k).threshold = 15 ∧ (c.counter k).thresholdCnt < 15

theorem inRange_new : InRange {} := by
  intro k
  cases k <;> decide

theorem InRange.level_lt {c : CnErrorCounters} (h : c.InRange) : c.level < 15 := by
  unfold level
  rw [Finset.sup_lt_iff (by decide)]
  exact fun k _ => (h k).2

theorem InRange.onCycleComplete {c : CnErrorCounters} (h : c.InRange) :
    c.onCycleComplete.2.InRange := by
  intro k
  rw [counter_onCycleComplete]
  exact ⟨(h k).1, (Nat.sub_le _ 1).trans_lt (h k).2⟩

/-- What an error of a class leaves of its counter. -/
theorem InRange.count {c : CnErrorCounters} (h : c.InRange) (k : CnErrorClass) :
    (c.counter k).increment.checkAndReset.2.threshold = 15 ∧
      (c.counter k).increment.checkAndReset.2.thresholdCnt < 15 ∧
      ((c.counter k).increment.checkAndReset.1 = true →
        (c.counter k).increment.checkAndReset.2.thresholdCnt = 0) := by
  obtain ⟨hreached, hfilled, hthreshold⟩ := ThresholdCounter.count_of_threshold (h k).1
  rw [hreached, hfilled, decide_eq_true_iff]
  unfold Buckets.Rule.filled
  refine ⟨hthreshold, ?_, fun hfull => if_pos hfull⟩
  split_ifs with hfull
  · decide
  · exact not_le.mp hfull

theorem InRange.handleError {c : CnErrorCounters} (h : c.InRange) (error : DllError) :
    (c.handleError error).2.2.InRange := by
  cases hclass : error.cnClass with
  | none =>
      intro k
      rw [c.handleError_uncounted hclass]
      exact h k
  | some k' =>
      intro k
      rw [c.handleError_of_class hclass, counter_setCounter]
      split_ifs
      · exact ⟨(h.count k').1, (h.count k').2.1⟩
      · exact h k

/-! ### The errors of a step -/

/-- The counters after the errors of a step; an error that is signalled ends it. -/
def handled : CnErrorCounters → List DllError → CnErrorCounters
  | c, [] => c
  | c, error :: errors =>
      if (c.handleError error).2.1 then (c.handleError error).2.2
      else handled (c.handleError error).2.2 errors

theorem InRange.handled {c : CnErrorCounters} (h : c.InRange) (errors : List DllError) :
    (c.handled errors).InRange := by
  induction errors generalizing c with
  | nil => exact h
  | cons error errors ih =>
      rw [CnErrorCounters.handled]
      split_ifs
      · exact h.handleError error
      · exact ih (h.handleError error)

/-- Where an error is signalled, another class of errors has a count. -/
def OthersActive : CnErrorCounters → List DllError → Prop
  | _, [] => False
  | c, error :: errors =>
      if (c.handleError error).2.1 then
        ∃ k, error.cnClass ≠ some k ∧ 0 < (c.counter k).thresholdCnt
      else OthersActive (c.handleError error).2.2 errors

/-- The counter of an error that is signalled starts again at zero. -/
theorem level_handleError_of_signalled {c : CnErrorCounters} (h : c.InRange) {error : DllError}
    (hsignalled : (c.handleError error).2.1 = true) :
    0 < (c.handleError error).2.2.level ↔
      ∃ k, error.cnClass ≠ some k ∧ 0 < (c.counter k).thresholdCnt := by
  rw [level_pos_iff]
  apply exists_congr
  intro k
  cases hclass : error.cnClass with
  | none =>
      rw [c.handleError_uncounted hclass]
      exact (and_iff_right nofun).symm
  | some k' =>
      rw [c.handleError_of_class hclass] at hsignalled ⊢
      rw [counter_setCounter]
      by_cases hk : k = k'
      · rw [if_pos hk, (h.count k').2.2 hsignalled, hk]
        exact iff_of_false (lt_irrefl 0) (fun hother => hother.1 rfl)
      · rw [if_neg hk]
        exact (and_iff_right fun heq => hk (Option.some.inj heq).symm).symm

/-- The level behind a signalled error is that of the other counters. -/
theorem level_handled {c : CnErrorCounters} (h : c.InRange) {errors : List DllError}
    (hsignalled : c.anySignalled errors = true) :
    0 < (c.handled errors).level ↔ c.OthersActive errors := by
  induction errors generalizing c with
  | nil => cases hsignalled
  | cons error errors ih =>
      rw [anySignalled] at hsignalled
      rw [handled, OthersActive]
      by_cases hfirst : (c.handleError error).2.1 = true
      · rw [if_pos hfirst, if_pos hfirst]
        exact level_handleError_of_signalled h hfirst
      · rw [if_neg hfirst, if_neg hfirst]
        rw [Bool.eq_false_iff.mpr hfirst, Bool.false_or] at hsignalled
        exact ih (h.handleError error) hsignalled

/-- A signalled error ends the step. -/
theorem handled_append (errors errors' : List DllError) (c : CnErrorCounters) :
    c.handled (errors ++ errors') =
      if c.anySignalled errors then c.handled errors
      else (c.counted errors).handled errors' := by
  induction errors generalizing c with
  | nil => rfl
  | cons error errors ih =>
      rw [List.cons_append, handled, handled, anySignalled, ih]
      cases (c.handleError error).2.1 with
      | true => rfl
      | false => rfl

end CnErrorCounters

end Powerlink
