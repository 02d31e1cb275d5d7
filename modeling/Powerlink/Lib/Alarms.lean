import Mathlib.Tactic

/-! # An alarm bit over a level

A component has a level, which every cycle lowers by one, and a bit, which an alarm sets and which
the cycle that brings the level down to zero clears.  `Meter` reads the steps of such a component;
the steps of a run are listed with the newest first.

`Path.bit_eq` gives the bit after any steps from the alarms and the clearings in them.
`Path.cleared_iff` says when the bit is cleared after an alarm: in a quiet time of enough cycles,
exactly where the alarm has left a level above zero. -/

namespace Alarms

/-- The level and the bit of a component. -/
structure Reading where
  level : ℕ
  bit : Bool

/-- The readings around a step, and what happens in the step. -/
structure Meter (α : Type*) where
  before : α → Reading
  after : α → Reading
  cycle : α → Bool
  quiet : α → Bool
  alarm : α → Bool
  clears : α → Bool

namespace Meter

variable {α : Type*} {m : Meter α}

/-- The laws of a step; only a step that is not quiet may raise the level. -/
structure Lawful (m : Meter α) (x : α) : Prop where
  clears : m.clears x = (m.cycle x && decide ((m.before x).level = 1))
  bit : (m.after x).bit = (m.alarm x || ((m.before x).bit && !m.clears x))
  level : m.quiet x = true → (m.after x).level = (m.before x).level - (m.cycle x).toNat
  calm : m.quiet x = true → m.alarm x = false

/-- The steps lead from one reading to the other. -/
def Path (m : Meter α) (r : Reading) : List α → Reading → Prop
  | [], s => r = s
  | x :: xs, s => m.Path r xs (m.before x) ∧ m.after x = s

theorem path_append {r : Reading} {ys : List α} : ∀ {xs : List α} {s : Reading},
    m.Path r (xs ++ ys) s ↔ ∃ t, m.Path r ys t ∧ m.Path t xs s
  | [], s => by
      constructor
      · exact fun h => ⟨s, h, rfl⟩
      · rintro ⟨t, h, rfl⟩
        exact h
  | x :: xs, s => by
      rw [List.cons_append, Path, path_append]
      constructor
      · rintro ⟨⟨t, hys, hxs⟩, hafter⟩
        exact ⟨t, hys, hxs, hafter⟩
      · rintro ⟨t, hys, hxs, hafter⟩
        exact ⟨⟨t, hys, hxs⟩, hafter⟩

/-! ### The bit -/

/-- The bit that the alarms and the clearings leave. -/
def raised (m : Meter α) (bit : Bool) : List α → Bool
  | [] => bit
  | x :: xs => m.alarm x || (m.raised bit xs && !m.clears x)

theorem Path.bit_eq {r s : Reading} {steps : List α} (hpath : m.Path r steps s)
    (hlawful : ∀ x ∈ steps, m.Lawful x) : s.bit = m.raised r.bit steps := by
  induction steps generalizing s with
  | nil =>
      rw [← show r = s from hpath]
      rfl
  | cons x xs ih =>
      obtain ⟨hrest, hafter⟩ := hpath
      rw [List.forall_mem_cons] at hlawful
      rw [← hafter, hlawful.1.bit, ih hrest hlawful.2, raised]

/-! ### A quiet time -/

/-- The level comes down to zero. -/
def RunsDown (m : Meter α) (level : ℕ) (steps : List α) : Prop :=
  0 < level ∧ level ≤ steps.countP m.cycle

instance (m : Meter α) (level : ℕ) (steps : List α) : Decidable (m.RunsDown level steps) :=
  inferInstanceAs (Decidable (_ ∧ _))

/-- A cycle brings the level down to zero if it was one before. -/
theorem runsDown_cons_of_cycle {level : ℕ} {x : α} {xs : List α} (hx : m.cycle x = true) :
    m.RunsDown level (x :: xs) ↔ m.RunsDown level xs ∨ level - xs.countP m.cycle = 1 := by
  unfold RunsDown
  rw [List.countP_cons_of_pos hx]
  omega

theorem runsDown_cons_of_not_cycle {level : ℕ} {x : α} {xs : List α} (hx : m.cycle x = false) :
    m.RunsDown level (x :: xs) ↔ m.RunsDown level xs := by
  unfold RunsDown
  rw [List.countP_cons_of_neg (Bool.eq_false_iff.mp hx)]

/-- What has come down to zero does not do so once more. -/
theorem RunsDown.level_sub {level : ℕ} {steps : List α} (h : m.RunsDown level steps) :
    level - steps.countP m.cycle = 0 := Nat.sub_eq_zero_of_le h.2

/-- In a quiet time every cycle lowers the level, and the bit is cleared once, when the level comes
down to zero. -/
theorem Path.of_quiet {r s : Reading} {steps : List α} (hpath : m.Path r steps s)
    (hlawful : ∀ x ∈ steps, m.Lawful x) (hquiet : ∀ x ∈ steps, m.quiet x = true) :
    s.level = r.level - steps.countP m.cycle ∧
      s.bit = (r.bit && !decide (m.RunsDown r.level steps)) ∧
      (steps.filter m.clears).length = if m.RunsDown r.level steps then 1 else 0 := by
  induction steps generalizing s with
  | nil =>
      have hnot : ¬m.RunsDown r.level [] := fun h => absurd (h.1.trans_le h.2) (lt_irrefl 0)
      rw [← show r = s from hpath, if_neg hnot, decide_eq_false hnot]
      exact ⟨rfl, (Bool.and_true _).symm, rfl⟩
  | cons x xs ih =>
      obtain ⟨hrest, rfl⟩ := hpath
      rw [List.forall_mem_cons] at hlawful hquiet
      obtain ⟨hlevel, hbit, hcount⟩ := ih hrest hlawful.2 hquiet.2
      have hclears := hlawful.1.clears
      rw [hlevel] at hclears
      rw [hlawful.1.bit, hlawful.1.calm hquiet.1, hlawful.1.level hquiet.1, hlevel, hbit,
        Bool.false_or]
      cases hcycle : m.cycle x with
      | false =>
          rw [hcycle, Bool.false_and] at hclears
          have hneg : ¬m.cycle x = true := Bool.eq_false_iff.mp hcycle
          have hkept : ¬m.clears x = true := Bool.eq_false_iff.mp hclears
          rw [List.countP_cons_of_neg hneg, List.filter_cons_of_neg hkept, hcount, hclears]
          refine ⟨rfl, ?_, if_congr (runsDown_cons_of_not_cycle hcycle).symm rfl rfl⟩
          rw [Bool.not_false, Bool.and_true,
            decide_eq_decide.mpr (runsDown_cons_of_not_cycle hcycle)]
      | true =>
          rw [hcycle, Bool.true_and] at hclears
          refine ⟨?_, ?_, ?_⟩
          · rw [List.countP_cons_of_pos hcycle]
            exact Nat.sub_sub _ _ _
          · simp only [runsDown_cons_of_cycle hcycle, hclears, Bool.decide_or, Bool.not_or,
              Bool.and_assoc]
          · by_cases hone : r.level - xs.countP m.cycle = 1
            · rw [decide_eq_true hone] at hclears
              have hnot : ¬m.RunsDown r.level xs := by
                intro hdown
                rw [hdown.level_sub] at hone
                cases hone
              rw [List.filter_cons_of_pos hclears, List.length_cons, hcount, if_neg hnot,
                if_pos ((runsDown_cons_of_cycle hcycle).mpr (.inr hone))]
            · rw [decide_eq_false hone] at hclears
              have hsame : m.RunsDown r.level (x :: xs) ↔ m.RunsDown r.level xs :=
                (runsDown_cons_of_cycle hcycle).trans (or_iff_left hone)
              rw [List.filter_cons_of_neg (Bool.eq_false_iff.mp hclears), hcount]
              exact if_congr hsame.symm rfl rfl

/-- In a quiet time that is long enough the bit is cleared, and once, exactly if the level is above
zero at its beginning. -/
theorem Path.cleared_iff {r s : Reading} {steps : List α} (hpath : m.Path r steps s)
    (hlawful : ∀ x ∈ steps, m.Lawful x) (hquiet : ∀ x ∈ steps, m.quiet x = true)
    (hbit : r.bit = true) (hlong : r.level ≤ steps.countP m.cycle) :
    (s.bit = false ∧ ∃ y, steps.filter m.clears = [y]) ↔ 0 < r.level := by
  obtain ⟨-, hafter, hcount⟩ := hpath.of_quiet hlawful hquiet
  rw [← List.length_eq_one_iff, hafter, hbit, hcount, Bool.true_and]
  by_cases hpos : 0 < r.level
  · have hdown : m.RunsDown r.level steps := ⟨hpos, hlong⟩
    rw [if_pos hdown, decide_eq_true hdown]
    exact iff_of_true ⟨rfl, rfl⟩ hpos
  · have hnot : ¬m.RunsDown r.level steps := fun h => hpos h.1
    rw [if_neg hnot, decide_eq_false hnot]
    exact iff_of_false (fun h => nomatch h.1) hpos

end Meter

end Alarms
