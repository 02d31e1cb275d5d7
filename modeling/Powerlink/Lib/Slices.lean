import Mathlib.Algebra.Order.Floor.Div
import Mathlib.Tactic

/-! # Slices, pieces, and machines that stop

`slice` is a read that panics outside of the buffer, and `copyInto` a write: `none` is the panic.
`piece n l k` is the `k`-th of the pieces of length `n` that make up a list (`flatten_pieces`).

A machine is called again and again; each call returns an output and says whether it was the last
one.  `UntilLast` relates a state to the outputs of the calls up to the last one, `untilLast_of_states`
reads them off the states of the machine, and `UntilLast.unique` states that there is one way only.
-/

namespace Slices

variable {α : Type*}

/-! ### Checked reads -/

/-- The part of a list from one position up to another; outside of the list there is none. -/
def slice (l : List α) (start stop : ℕ) : Option (List α) :=
  if start ≤ stop ∧ stop ≤ l.length then some ((l.drop start).take (stop - start)) else none

theorem slice_eq_some {l : List α} {start stop : ℕ} (h : start ≤ stop) (h' : stop ≤ l.length) :
    slice l start stop = some ((l.drop start).take (stop - start)) := if_pos ⟨h, h'⟩

/-- The slice between a front and a rest. -/
theorem slice_middle (front middle rest : List α) :
    slice (front ++ (middle ++ rest)) front.length (front.length + middle.length) =
      some middle := by
  rw [slice_eq_some (Nat.le_add_right _ _) (by simp only [List.length_append]; omega),
    List.drop_left, Nat.add_sub_cancel_left, List.take_left]

/-- A slice from the start of the list. -/
theorem slice_zero {l : List α} {stop : ℕ} (h : stop ≤ l.length) :
    slice l 0 stop = some (l.take stop) := by
  rw [slice_eq_some (Nat.zero_le _) h, List.drop_zero, Nat.sub_zero]

theorem slice_eq_none_iff (l : List α) (start stop : ℕ) :
    slice l start stop = none ↔ stop < start ∨ l.length < stop := by
  unfold slice
  split_ifs with h
  · simp only [false_iff]
    omega
  · simp only [true_iff]
    omega

/-- Copies data over a part of a list, which must have the length of the data. -/
def copyInto (l : List α) (start stop : ℕ) (data : List α) : Option (List α) := do
  let part ← slice l start stop
  if data.length = part.length then some (l.take start ++ data ++ l.drop stop) else none

theorem copyInto_eq_some {l data : List α} {start stop : ℕ} (h : start ≤ stop)
    (h' : stop ≤ l.length) (hdata : data.length = stop - start) :
    copyInto l start stop data = some (l.take start ++ data ++ l.drop stop) := by
  have hpart : ((l.drop start).take (stop - start)).length = stop - start := by
    rw [List.length_take, List.length_drop]
    omega
  unfold copyInto
  rw [slice_eq_some h h']
  exact if_pos (hdata.trans hpart.symm)

/-- A number below a bound; from the bound on there is none. -/
def checkedBelow (bound a : ℕ) : Option ℕ := if a < bound then some a else none

theorem checkedBelow_eq_some {bound a : ℕ} (h : a < bound) : checkedBelow bound a = some a :=
  if_pos h

/-- The difference of two numbers; below zero there is none. -/
def checkedSub (a b : ℕ) : Option ℕ := if b ≤ a then some (a - b) else none

theorem checkedSub_eq_some {a b : ℕ} (h : b ≤ a) : checkedSub a b = some (a - b) := if_pos h

/-! ### Known first elements -/

theorem exists_two {l : List α} (h : 2 ≤ l.length) : ∃ a b rest, l = a :: b :: rest := by
  rcases l with _ | ⟨a, _ | ⟨b, rest⟩⟩
  · simp at h
  · simp at h
  · exact ⟨a, b, rest, rfl⟩

theorem exists_four {l : List α} (h : 4 ≤ l.length) :
    ∃ a b c d rest, l = a :: b :: c :: d :: rest := by
  obtain ⟨a, b, l, rfl⟩ := exists_two (Nat.le_of_add_right_le (k := 2) h)
  obtain ⟨c, d, l, rfl⟩ := exists_two (Nat.le_of_add_le_add_right (b := 2) h)
  exact ⟨a, b, c, d, l, rfl⟩

theorem exists_six {l : List α} (h : 6 ≤ l.length) :
    ∃ a b c d e f rest, l = a :: b :: c :: d :: e :: f :: rest := by
  obtain ⟨a, b, c, d, l, rfl⟩ := exists_four (Nat.le_of_add_right_le (k := 2) h)
  obtain ⟨e, f, l, rfl⟩ := exists_two (Nat.le_of_add_le_add_right (b := 4) h)
  exact ⟨a, b, c, d, e, f, l, rfl⟩

theorem exists_seven {l : List α} (h : 7 ≤ l.length) :
    ∃ a b c d e f g rest, l = a :: b :: c :: d :: e :: f :: g :: rest := by
  obtain ⟨a, b, c, d, e, f, l, rfl⟩ := exists_six (Nat.le_of_add_right_le (k := 1) h)
  obtain ⟨g, l, rfl⟩ := List.exists_cons_of_length_pos (Nat.le_of_add_le_add_right (b := 6) h)
  exact ⟨a, b, c, d, e, f, g, l, rfl⟩

theorem exists_eight {l : List α} (h : 8 ≤ l.length) :
    ∃ a b c d e f g i rest, l = a :: b :: c :: d :: e :: f :: g :: i :: rest := by
  obtain ⟨a, b, c, d, l, rfl⟩ := exists_four (Nat.le_of_add_right_le (k := 4) h)
  obtain ⟨e, f, g, i, l, rfl⟩ := exists_four (Nat.le_of_add_le_add_right (b := 4) h)
  exact ⟨a, b, c, d, e, f, g, i, l, rfl⟩

/-! ### Pieces -/

/-- The piece number `k` of a list that is cut into pieces of length `n`. -/
def piece (n : ℕ) (l : List α) (k : ℕ) : List α := (l.drop (n * k)).take n

theorem length_piece (n : ℕ) (l : List α) (k : ℕ) :
    (piece n l k).length = min n (l.length - n * k) := by
  rw [piece, List.length_take, List.length_drop]

/-- The first pieces make up the start of the list. -/
theorem flatten_map_piece (n : ℕ) (l : List α) (m : ℕ) :
    ((List.range m).map (piece n l)).flatten = l.take (n * m) := by
  induction m with
  | zero => rfl
  | succ m ih =>
      rw [List.range_succ, List.map_append, List.flatten_append, ih, Nat.mul_succ, List.take_add]
      simp [piece]

/-- All pieces make up the list. -/
theorem flatten_pieces {n : ℕ} (hn : 0 < n) (l : List α) :
    ((List.range (l.length ⌈/⌉ n)).map (piece n l)).flatten = l := by
  rw [flatten_map_piece]
  exact List.take_of_length_le (le_smul_ceilDiv hn)

/-- The list reaches into a piece exactly if it is not beyond the last one. -/
theorem lt_ceilDiv_iff {n : ℕ} (hn : 0 < n) (length k : ℕ) : k < length ⌈/⌉ n ↔ n * k < length := by
  rw [← not_le, ceilDiv_le_iff_le_mul hn, not_le]

/-- The last piece is the one in which the list ends. -/
theorem succ_eq_ceilDiv_iff {n : ℕ} (hn : 0 < n) {length k : ℕ} (hk : n * k < length) :
    k + 1 = length ⌈/⌉ n ↔ length ≤ n * (k + 1) := by
  have hlt := (lt_ceilDiv_iff hn length k).mpr hk
  have hle : length ⌈/⌉ n ≤ k + 1 ↔ length ≤ n * (k + 1) := ceilDiv_le_iff_le_mul hn
  rw [← hle]
  omega

/-- A row of pieces whose ends have marks of their own. -/
theorem map_range_ends {β : Type*} (first middle last : β) (n : ℕ) :
    ((List.range (n + 2)).map fun k =>
      if k + 1 = n + 2 then last else if k = 0 then first else middle) =
        first :: (List.replicate n middle ++ [last]) := by
  rw [List.range_succ_eq_map, List.map_cons, List.range_succ, List.map_append, List.map_append]
  rw [if_neg (by omega), if_pos rfl]
  congr 1
  have hmiddle : ((List.range n).map Nat.succ).map (fun k =>
      if k + 1 = n + 2 then last else if k = 0 then first else middle) =
        List.replicate n middle := by
    rw [List.map_map, List.eq_replicate_iff]
    refine ⟨by rw [List.length_map, List.length_range], ?_⟩
    intro b hb
    obtain ⟨k, hk, rfl⟩ := List.mem_map.mp hb
    rw [List.mem_range] at hk
    simp only [Function.comp_apply]
    rw [if_neg (by omega), if_neg (by omega)]
  rw [hmiddle]
  simp

/-! ### Machines -/

section machines

variable {σ : Type*} {step : σ → Option (α × Bool × σ)}

/-- The calls from a state up to the first one that is marked as the last. -/
inductive UntilLast (step : σ → Option (α × Bool × σ)) : σ → List α → σ → Prop
  | last {s s' : σ} {a : α} (h : step s = some (a, true, s')) : UntilLast step s [a] s'
  | more {s s' s'' : σ} {a : α} {as : List α} (h : step s = some (a, false, s'))
      (rest : UntilLast step s' as s'') : UntilLast step s (a :: as) s''

/-- There is one way to the last call. -/
theorem UntilLast.unique {s s₁ s₂ : σ} {as bs : List α} (ha : UntilLast step s as s₁)
    (hb : UntilLast step s bs s₂) : as = bs ∧ s₁ = s₂ := by
  induction ha generalizing bs with
  | last h =>
      cases hb with
      | last h' =>
          rw [h] at h'
          simp only [Option.some.injEq, Prod.mk.injEq, true_and] at h'
          exact ⟨by rw [h'.1], h'.2⟩
      | more h' rest =>
          rw [h] at h'
          simp at h'
  | more h rest ih =>
      cases hb with
      | last h' =>
          rw [h] at h'
          simp at h'
      | more h' rest' =>
          rw [h] at h'
          simp only [Option.some.injEq, Prod.mk.injEq, true_and] at h'
          obtain ⟨rfl, rfl⟩ := h'
          obtain ⟨rfl, rfl⟩ := ih rest'
          exact ⟨rfl, rfl⟩

/-- The outputs of a machine whose states and outputs are known. -/
theorem untilLast_of_states (states : ℕ → σ) (outputs : ℕ → α) {n : ℕ} (hn : 0 < n)
    (h : ∀ k < n, step (states k) = some (outputs k, decide (k + 1 = n), states (k + 1))) :
    UntilLast step (states 0) ((List.range n).map outputs) (states n) := by
  induction n generalizing states outputs with
  | zero => omega
  | succ n ih =>
      rw [List.range_succ_eq_map, List.map_cons, List.map_map]
      have hfirst := h 0 (by omega)
      cases n with
      | zero => exact .last hfirst
      | succ n =>
          rw [decide_eq_false (by omega)] at hfirst
          refine .more hfirst (ih (fun k => states (k + 1)) (outputs ∘ Nat.succ) (by omega) ?_)
          intro k hk
          rw [h (k + 1) (by omega)]
          simp

end machines

end Slices
