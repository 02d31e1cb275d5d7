import Mathlib.Data.List.Count
import Mathlib.Data.List.Nodup
import Mathlib.Data.Nat.ModEq
import Mathlib.Tactic

/-! # Counting modulo a length

`visits len start n` lists the values of a counter that starts at `start` and counts `n - 1` steps
modulo `len`.  A full turn meets every residue once (`count_visits`). -/

namespace Rotation

/-- The values of a counter modulo `len`. -/
def visits (len : ℕ) : ℕ → ℕ → List ℕ
  | _, 0 => []
  | start, n + 1 => start :: visits len ((start + 1) % len) n

/-- The counter after `i` steps. -/
theorem visits_eq_map {len : ℕ} : ∀ (n : ℕ) {start : ℕ}, start < len →
    visits len start n = (List.range n).map (fun i => (start + i) % len)
  | 0, _, _ => rfl
  | n + 1, start, h => by
      have hnext : (start + 1) % len < len := Nat.mod_lt _ (by omega)
      have hhead : (start + 0) % len = start := Nat.mod_eq_of_lt h
      rw [visits, visits_eq_map n hnext, List.range_succ_eq_map, List.map_cons, List.map_map, hhead]
      congr 1
      apply List.map_congr_left
      intro i _
      simp only [Function.comp_apply, Nat.mod_add_mod]
      congr 1
      omega

/-- A turn does not meet a residue twice. -/
theorem nodup_visits {len start : ℕ} (h : start < len) : (visits len start len).Nodup := by
  rw [visits_eq_map len h]
  apply List.Nodup.map_on _ List.nodup_range
  intro i hi j hj hij
  have hmod : i ≡ j [MOD len] := Nat.ModEq.add_left_cancel' start hij
  exact hmod.eq_of_lt_of_lt (List.mem_range.mp hi) (List.mem_range.mp hj)

/-- A turn meets every residue. -/
theorem mem_visits {len start v : ℕ} (h : start < len) (hv : v < len) :
    v ∈ visits len start len := by
  rw [visits_eq_map len h, List.mem_map]
  refine ⟨(v + (len - start)) % len, List.mem_range.mpr (Nat.mod_lt _ (by omega)), ?_⟩
  rw [Nat.add_mod_mod]
  have hsum : start + (v + (len - start)) = v + len := by omega
  rw [hsum, Nat.add_mod_right, Nat.mod_eq_of_lt hv]

/-- A turn meets every residue exactly once. -/
theorem count_visits {len start v : ℕ} (h : start < len) (hv : v < len) :
    (visits len start len).count v = 1 :=
  List.count_eq_one_of_mem (nodup_visits h) (mem_visits h hv)

end Rotation
