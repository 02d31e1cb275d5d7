import Mathlib.Data.List.Rotate
import Mathlib.Data.List.TakeWhile
import Mathlib.Tactic

/-! # Round robin

A round robin goes over a circle of items again and again and stops at every candidate, that is,
at every item that satisfies `p`.  The circle is a list that is read from the front; `turn` finds
the first candidate and returns the circle as it is seen from behind it.

As long as the candidates stay the same, as many turns as there are candidates stop at each of them
once, in the order of the circle (`turns_filter`). -/

namespace RoundRobin

variable {α : Type} (p : α → Bool)

/-- One turn: the first candidate, and the circle from behind it. -/
def turn (circle : List α) : Option (α × List α) :=
  match circle.dropWhile (fun x => !p x) with
  | [] => none
  | y :: rest => some (y, rest ++ (circle.takeWhile (fun x => !p x) ++ [y]))

/-- The candidates of `n` turns. -/
def turns : ℕ → List α → Option (List α)
  | 0, _ => some []
  | n + 1, circle =>
      match turn p circle with
      | none => none
      | some (y, circle) => (turns n circle).map (y :: ·)

variable {p}

/-- Where a turn stops. -/
theorem turn_eq_some {circle next : List α} {y : α} (h : turn p circle = some (y, next)) :
    ∃ skipped rest, circle = skipped ++ y :: rest ∧ (∀ x ∈ skipped, p x = false) ∧ p y = true ∧
      next = rest ++ (skipped ++ [y]) := by
  unfold turn at h
  split at h
  · cases h
  · rename_i z rest hdrop
    obtain ⟨rfl, rfl⟩ := Prod.mk.inj (Option.some.inj h)
    refine ⟨circle.takeWhile (fun x => !p x), rest, ?_, ?_, ?_, rfl⟩
    · rw [← hdrop, List.takeWhile_append_dropWhile]
    · intro x hx
      simpa using List.mem_takeWhile_imp hx
    · have hhead : (circle.dropWhile (fun x => !p x)).head? = some z := by rw [hdrop]; rfl
      have := List.head?_dropWhile_not (fun x => !p x) circle
      rw [hhead] at this
      simpa using this

/-- A turn stops unless there is no candidate. -/
theorem turn_eq_none_iff {circle : List α} : turn p circle = none ↔ ∀ x ∈ circle, p x = false := by
  unfold turn
  split
  · rename_i hdrop
    simpa using List.dropWhile_eq_nil_iff.mp hdrop
  · rename_i y rest hdrop
    constructor
    · intro h
      cases h
    · intro h
      have hnil : circle.dropWhile (fun x => !p x) = [] :=
        List.dropWhile_eq_nil_iff.mpr (by simpa using h)
      rw [hnil] at hdrop
      cases hdrop

/-- A turn stops at the first candidate. -/
theorem turn_fst (circle : List α) : (turn p circle).map Prod.fst = circle.find? p := by
  cases h : turn p circle with
  | none =>
      symm
      rw [Option.map_none, List.find?_eq_none]
      intro x hx
      rw [turn_eq_none_iff.mp h x hx]
      exact Bool.false_ne_true
  | some r =>
      obtain ⟨skipped, rest, rfl, hskipped, hy, -⟩ := turn_eq_some h
      have hnone : skipped.find? p = none := by
        rw [List.find?_eq_none]
        intro x hx
        rw [hskipped x hx]
        exact Bool.false_ne_true
      rw [List.find?_append, hnone, List.find?_cons_of_pos hy]
      rfl

/-- A turn moves the first candidate behind the others. -/
theorem filter_turn {circle next : List α} {y : α} (h : turn p circle = some (y, next)) :
    ∃ others, circle.filter p = y :: others ∧ next.filter p = others ++ [y] := by
  obtain ⟨skipped, rest, rfl, hskipped, hy, rfl⟩ := turn_eq_some h
  have hnil : skipped.filter p = [] := by
    rw [List.filter_eq_nil_iff]
    intro x hx
    rw [hskipped x hx]
    exact Bool.false_ne_true
  refine ⟨rest.filter p, ?_, ?_⟩
  · rw [List.filter_append, hnil, List.filter_cons_of_pos hy, List.nil_append]
  · rw [List.filter_append, List.filter_append, hnil, List.filter_cons_of_pos hy, List.nil_append,
      List.filter_nil]

/-- The turns meet the candidates in the order of the circle. -/
theorem turns_of_filter : ∀ (xs ys : List α) {circle : List α}, circle.filter p = xs ++ ys →
    turns p xs.length circle = some xs
  | [], _, _, _ => rfl
  | x :: xs, ys, circle, hfilter => by
      have hx : x ∈ circle.filter p := by
        rw [hfilter]
        exact List.mem_cons_self
      cases hturn : turn p circle with
      | none =>
          have hfalse := turn_eq_none_iff.mp hturn x (List.mem_of_mem_filter hx)
          rw [List.of_mem_filter hx] at hfalse
          cases hfalse
      | some r =>
          obtain ⟨y, next⟩ := r
          obtain ⟨others, hcons, hnext⟩ := filter_turn hturn
          rw [hfilter, List.cons_append] at hcons
          obtain ⟨rfl, rfl⟩ := List.cons.inj hcons
          -- what is left of the candidates now ends with the one just met
          have hrest : turns p xs.length next = some xs := by
            apply turns_of_filter xs (ys ++ [x])
            rw [hnext, List.append_assoc]
          simp only [List.length_cons, turns, hturn, hrest, Option.map_some]

/-- As many turns as there are candidates meet each of them once. -/
theorem turns_filter (circle : List α) :
    turns p (circle.filter p).length circle = some (circle.filter p) :=
  turns_of_filter (circle.filter p) [] (List.append_nil _).symm

/-- On a rotated list a turn rotates further, past the candidate. -/
theorem turn_rotate {xs next : List α} {n : ℕ} {y : α}
    (h : turn p (xs.rotate n) = some (y, next)) :
    ∃ k, xs[(n + k) % xs.length]? = some y ∧ next = xs.rotate (n + k + 1) := by
  obtain ⟨skipped, rest, hsplit, -, -, rfl⟩ := turn_eq_some h
  have hlen : skipped.length < xs.length := by
    have := congrArg List.length hsplit
    rw [List.length_rotate, List.length_append, List.length_cons] at this
    omega
  refine ⟨skipped.length, ?_, ?_⟩
  · have hget : (xs.rotate n)[skipped.length]? = some y := by
      rw [hsplit, List.getElem?_append_right le_rfl, Nat.sub_self]
      rfl
    rw [List.getElem?_rotate hlen] at hget
    rw [← hget, Nat.add_comm]
  · have hrotate : (xs.rotate n).rotate (skipped ++ [y]).length = rest ++ (skipped ++ [y]) := by
      rw [hsplit, ← List.singleton_append, ← List.append_assoc, List.rotate_append_length_eq]
    rw [← hrotate, List.rotate_rotate, List.length_append, List.length_singleton, Nat.add_assoc]

end RoundRobin
