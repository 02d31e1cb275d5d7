import Mathlib.Tactic

/-! # Ordered maps as sorted association lists

`SortedMap κ ν` is a finite map that keeps its entries in increasing key order.  Keys are
compared through an injective `rank` into the natural numbers (`Ranked`), which covers
machine words, pairs of words and packed records with their lexicographic order.  The order
is a field of the structure, so every map has exactly one entry per key and one
representation per content.

* `get?`, `insert`, `erase` and `modify` are the point operations; each one has a lemma that
  says what `get?` returns afterwards.
* `visit` walks over the entries in key order, rewriting every value in place and threading a
  state, and stops at the first error; the entries behind the error keep their old values.
  `visit_ok`, `visit_error`, `visit_keeps` and `visit_invariant` are its induction rules. -/

/-- Keys ordered by an injective rank. -/
class Ranked (κ : Type) where
  rank : κ → ℕ
  rank_injective : Function.Injective rank

open Ranked (rank rank_injective)

/-- A finite map whose entries are sorted by key. -/
structure SortedMap (κ ν : Type) [Ranked κ] where
  entries : List (κ × ν)
  sorted : (entries.map Prod.fst).Pairwise (fun a b => rank a < rank b)
deriving DecidableEq

namespace SortedMap

variable {κ ν α ε : Type} [Ranked κ] [DecidableEq κ]

/-- The map without entries. -/
def empty : SortedMap κ ν := ⟨[], List.Pairwise.nil⟩

/-- The value stored under a key. -/
def get? (m : SortedMap κ ν) (k : κ) : Option ν := m.entries.lookup k

@[simp] theorem get?_empty (k : κ) : (empty : SortedMap κ ν).get? k = none := rfl

/-! ### Lookup in an association list -/

omit [Ranked κ] in
theorem lookup_cons (a k : κ) (v : ν) (l : List (κ × ν)) :
    ((k, v) :: l).lookup a = if a = k then some v else l.lookup a := by
  by_cases h : a = k
  · simp [h]
  · have hb : (a == k) = false := by simpa using h
    simp [List.lookup_cons, hb, h]

omit [Ranked κ] in
theorem mem_of_lookup {a : κ} {v : ν} {l : List (κ × ν)} (h : l.lookup a = some v) :
    (a, v) ∈ l := by
  induction l with
  | nil => simp at h
  | cons p l ih =>
      obtain ⟨k, w⟩ := p
      rw [lookup_cons] at h
      split_ifs at h with ha
      · obtain rfl := Option.some.inj h
        exact ha ▸ List.mem_cons_self
      · exact List.mem_cons_of_mem _ (ih h)

theorem lookup_of_mem {a : κ} {v : ν} {l : List (κ × ν)}
    (hs : (l.map Prod.fst).Pairwise (fun a b => rank a < rank b)) (h : (a, v) ∈ l) :
    l.lookup a = some v := by
  induction l with
  | nil => cases h
  | cons p l ih =>
      obtain ⟨k, w⟩ := p
      simp only [List.map_cons, List.pairwise_cons] at hs
      rw [lookup_cons]
      rcases List.mem_cons.mp h with h | h
      · obtain ⟨rfl, rfl⟩ := Prod.mk.inj h
        rw [if_pos rfl]
      · have hlt := hs.1 a (List.mem_map_of_mem h)
        have hne : a ≠ k := fun he => by rw [he] at hlt; exact lt_irrefl _ hlt
        rw [if_neg hne, ih hs.2 h]

theorem mem_entries_iff (m : SortedMap κ ν) (a : κ) (v : ν) :
    (a, v) ∈ m.entries ↔ m.get? a = some v :=
  ⟨lookup_of_mem m.sorted, mem_of_lookup⟩

/-! ### Insertion -/

/-- Insertion into a sorted association list; an existing entry is replaced. -/
def insertEntry (k : κ) (v : ν) : List (κ × ν) → List (κ × ν)
  | [] => [(k, v)]
  | (k', v') :: l =>
      if rank k < rank k' then (k, v) :: (k', v') :: l
      else if k = k' then (k, v) :: l
      else (k', v') :: insertEntry k v l

theorem mem_keys_insertEntry {k a : κ} {v : ν} {l : List (κ × ν)}
    (h : a ∈ (insertEntry k v l).map Prod.fst) : a = k ∨ a ∈ l.map Prod.fst := by
  induction l with
  | nil => simpa [insertEntry] using h
  | cons p l ih =>
      obtain ⟨k', v'⟩ := p
      simp only [insertEntry] at h
      split_ifs at h with h1 h2
      · simpa using h
      · subst h2
        simp only [List.map_cons, List.mem_cons] at h ⊢
        exact Or.inr h
      · simp only [List.map_cons, List.mem_cons] at h ⊢
        rcases h with h | h
        · exact Or.inr (Or.inl h)
        · rcases ih h with h | h
          · exact Or.inl h
          · exact Or.inr (Or.inr h)

theorem insertEntry_sorted (k : κ) (v : ν) (l : List (κ × ν))
    (h : (l.map Prod.fst).Pairwise (fun a b => rank a < rank b)) :
    ((insertEntry k v l).map Prod.fst).Pairwise (fun a b => rank a < rank b) := by
  induction l with
  | nil => simp [insertEntry]
  | cons p l ih =>
      obtain ⟨k', v'⟩ := p
      simp only [List.map_cons, List.pairwise_cons] at h
      simp only [insertEntry]
      split_ifs with h1 h2
      · simp only [List.map_cons, List.pairwise_cons]
        refine ⟨?_, h⟩
        intro b hb
        rcases List.mem_cons.mp hb with rfl | hb
        · exact h1
        · exact h1.trans (h.1 b hb)
      · subst h2
        simpa only [List.map_cons, List.pairwise_cons] using h
      · simp only [List.map_cons, List.pairwise_cons]
        refine ⟨?_, ih h.2⟩
        intro b hb
        rcases mem_keys_insertEntry hb with rfl | hb
        · have hne : rank k' ≠ rank b := fun he => h2 (rank_injective he).symm
          omega
        · exact h.1 b hb

theorem lookup_insertEntry (k a : κ) (v : ν) (l : List (κ × ν)) :
    (insertEntry k v l).lookup a = if a = k then some v else l.lookup a := by
  induction l with
  | nil => simp only [insertEntry, lookup_cons, List.lookup_nil]
  | cons p l ih =>
      obtain ⟨k', v'⟩ := p
      simp only [insertEntry]
      by_cases h1 : rank k < rank k'
      · rw [if_pos h1, lookup_cons]
      · rw [if_neg h1]
        by_cases h2 : k = k'
        · subst h2
          rw [if_pos rfl, lookup_cons, lookup_cons]
          split_ifs <;> rfl
        · rw [if_neg h2, lookup_cons, lookup_cons, ih]
          split_ifs with h3 h4
          · exact absurd (h4.symm.trans h3) h2
          · rfl
          · rfl
          · rfl

/-- Stores a value, replacing the one already there. -/
def insert (m : SortedMap κ ν) (k : κ) (v : ν) : SortedMap κ ν :=
  ⟨insertEntry k v m.entries, insertEntry_sorted k v m.entries m.sorted⟩

theorem get?_insert (m : SortedMap κ ν) (k a : κ) (v : ν) :
    (m.insert k v).get? a = if a = k then some v else m.get? a :=
  lookup_insertEntry k a v m.entries

@[simp] theorem get?_insert_self (m : SortedMap κ ν) (k : κ) (v : ν) :
    (m.insert k v).get? k = some v := by
  rw [get?_insert, if_pos rfl]

theorem get?_insert_ne (m : SortedMap κ ν) {k a : κ} (v : ν) (h : a ≠ k) :
    (m.insert k v).get? a = m.get? a := by
  rw [get?_insert, if_neg h]

theorem isSome_get?_insert (m : SortedMap κ ν) (k a : κ) (v : ν) :
    ((m.insert k v).get? a).isSome ↔ (m.get? a).isSome ∨ a = k := by
  rw [get?_insert]
  by_cases h : a = k
  · rw [if_pos h]
    exact ⟨fun _ => .inr h, fun _ => rfl⟩
  · rw [if_neg h]
    exact ⟨.inl, fun h' => h'.resolve_right h⟩

/-- A property of every entry is kept by an insertion that has it. -/
theorem forall_insert {m : SortedMap κ ν} {P : κ → ν → Prop} (hP : ∀ a v, m.get? a = some v → P a v)
    {k : κ} {v : ν} (hv : P k v) {a : κ} {w : ν} (hw : (m.insert k v).get? a = some w) : P a w := by
  rw [get?_insert] at hw
  split_ifs at hw with ha
  · obtain rfl := Option.some.inj hw
    exact ha ▸ hv
  · exact hP a w hw

/-! ### Removal -/

omit [Ranked κ] in
theorem lookup_filter_ne (k a : κ) (l : List (κ × ν)) :
    (l.filter (fun p => decide (p.1 ≠ k))).lookup a = if a = k then none else l.lookup a := by
  induction l with
  | nil => simp
  | cons p l ih =>
      obtain ⟨k', v'⟩ := p
      by_cases h : k' = k
      · subst h
        rw [List.filter_cons_of_neg (by simp), ih, lookup_cons]
        split_ifs <;> rfl
      · rw [List.filter_cons_of_pos (by simpa using h), lookup_cons, lookup_cons, ih]
        split_ifs with h1 h2
        · exact absurd (h1.symm.trans h2) h
        · rfl
        · rfl
        · rfl

/-- Removes a key. -/
def erase (m : SortedMap κ ν) (k : κ) : SortedMap κ ν :=
  ⟨m.entries.filter (fun p => decide (p.1 ≠ k)),
    m.sorted.sublist (List.filter_sublist.map Prod.fst)⟩

theorem get?_erase (m : SortedMap κ ν) (k a : κ) :
    (m.erase k).get? a = if a = k then none else m.get? a :=
  lookup_filter_ne k a m.entries

/-- Removes every key of a list. -/
def eraseAll (m : SortedMap κ ν) (ks : List κ) : SortedMap κ ν := ks.foldl erase m

theorem get?_eraseAll (ks : List κ) : ∀ (m : SortedMap κ ν) (a : κ),
    (m.eraseAll ks).get? a = if a ∈ ks then none else m.get? a := by
  induction ks with
  | nil => intro m a; simp [eraseAll]
  | cons k ks ih =>
      intro m a
      have h := ih (m.erase k) a
      simp only [eraseAll, List.foldl_cons] at h ⊢
      rw [h, get?_erase]
      by_cases h1 : a = k <;> by_cases h2 : a ∈ ks <;> simp [h1, h2]

/-- What is left after a removal was there before. -/
theorem get?_of_eraseAll {m : SortedMap κ ν} {ks : List κ} {a : κ} {v : ν}
    (h : (m.eraseAll ks).get? a = some v) : m.get? a = some v := by
  rw [get?_eraseAll] at h
  split_ifs at h
  exact h

theorem get?_of_erase {m : SortedMap κ ν} {k a : κ} {v : ν} (h : (m.erase k).get? a = some v) :
    m.get? a = some v := by
  rw [get?_erase] at h
  split_ifs at h
  exact h

/-! ### In-place update -/

/-- Rewrites the value of one key; a missing key stays missing. -/
def modify (m : SortedMap κ ν) (k : κ) (f : ν → ν) : SortedMap κ ν :=
  ⟨m.entries.map (fun p => if p.1 = k then (p.1, f p.2) else p), by
    have e : (m.entries.map (fun p => if p.1 = k then (p.1, f p.2) else p)).map Prod.fst =
        m.entries.map Prod.fst := by
      rw [List.map_map]
      apply List.map_congr_left
      intro p _
      simp only [Function.comp_apply]
      split_ifs <;> rfl
    rw [e]
    exact m.sorted⟩

theorem get?_modify (m : SortedMap κ ν) (k a : κ) (f : ν → ν) :
    (m.modify k f).get? a = if a = k then (m.get? a).map f else m.get? a := by
  unfold get? modify
  simp only
  induction m.entries with
  | nil => simp
  | cons p l ih =>
      obtain ⟨k', v'⟩ := p
      rw [List.map_cons]
      by_cases h : k' = k
      · subst h
        rw [if_pos rfl, lookup_cons, lookup_cons, ih]
        split_ifs <;> rfl
      · rw [if_neg h, lookup_cons, lookup_cons, ih]
        split_ifs with h1 h2
        · exact absurd (h1.symm.trans h2) h
        · rfl
        · rfl
        · rfl

/-- Rewrites every value. -/
def mapValues (m : SortedMap κ ν) (f : κ → ν → ν) : SortedMap κ ν :=
  ⟨m.entries.map (fun p => (p.1, f p.1 p.2)), by
    rw [List.map_map]
    exact m.sorted⟩

theorem get?_mapValues (m : SortedMap κ ν) (f : κ → ν → ν) (a : κ) :
    (m.mapValues f).get? a = (m.get? a).map (f a) := by
  unfold get? mapValues
  dsimp only
  induction m.entries with
  | nil => rfl
  | cons p l ih =>
      obtain ⟨k, v⟩ := p
      rw [List.map_cons, lookup_cons, lookup_cons, ih]
      split_ifs with h
      · rw [h]
        rfl
      · rfl

/-! ### Walking over the entries -/

/-- One walk over an association list: `f` rewrites each value and threads a state. -/
def visitList (f : κ → ν → α → Except ε α × ν) : List (κ × ν) → α → Except ε α × List (κ × ν)
  | [], s => (.ok s, [])
  | (k, v) :: l, s =>
      match f k v s with
      | (.error e, v') => (.error e, (k, v') :: l)
      | (.ok s', v') => ((visitList f l s').1, (k, v') :: (visitList f l s').2)

omit [Ranked κ] [DecidableEq κ] in
theorem visitList_keys (f : κ → ν → α → Except ε α × ν) : ∀ (l : List (κ × ν)) (s : α),
    (visitList f l s).2.map Prod.fst = l.map Prod.fst
  | [], _ => rfl
  | (k, v) :: l, s => by
      simp only [visitList]
      split
      · rfl
      · simp only [List.map_cons, visitList_keys f l]

/-- Walks over the entries in key order. -/
def visit (m : SortedMap κ ν) (f : κ → ν → α → Except ε α × ν) (s : α) :
    Except ε α × SortedMap κ ν :=
  ((visitList f m.entries s).1,
    ⟨(visitList f m.entries s).2, by rw [visitList_keys]; exact m.sorted⟩)

omit [Ranked κ] [DecidableEq κ] in
theorem visitList_forall {f : κ → ν → α → Except ε α × ν} {P : κ → ν → Prop}
    (hstep : ∀ k v s, P k v → P k (f k v s).2) :
    ∀ (l : List (κ × ν)) (s : α), (∀ p ∈ l, P p.1 p.2) → ∀ p ∈ (visitList f l s).2, P p.1 p.2
  | [], _, _ => by simp [visitList]
  | (k, v) :: l, s, hP => by
      obtain ⟨hv, hl⟩ := List.forall_mem_cons.mp hP
      have hv' : P k (f k v s).2 := hstep k v s hv
      rcases hf : f k v s with ⟨e | s₁, v'⟩
      · rw [hf] at hv'
        simp only [visitList, hf]
        exact List.forall_mem_cons.mpr ⟨hv', hl⟩
      · rw [hf] at hv'
        simp only [visitList, hf]
        exact List.forall_mem_cons.mpr ⟨hv', visitList_forall hstep l s₁ hl⟩

/-- Rule for every walk: what each step keeps of its entry holds of every entry at the end. -/
theorem visit_forall {m : SortedMap κ ν} {f : κ → ν → α → Except ε α × ν} {P : κ → ν → Prop}
    {s : α} (hstep : ∀ k v s, P k v → P k (f k v s).2) (hP : ∀ a v, m.get? a = some v → P a v)
    {a : κ} {v : ν} (hv : (m.visit f s).2.get? a = some v) : P a v :=
  visitList_forall hstep m.entries s
    (fun p hp => hP p.1 p.2 ((m.mem_entries_iff p.1 p.2).mp hp)) (a, v) (mem_of_lookup hv)

omit [Ranked κ] [DecidableEq κ] in
/-- Rule for a walk that succeeds: what a step establishes of its entry and of the state
(`R`), and later steps keep, holds of every entry at the end. -/
theorem visitList_ok {f : κ → ν → α → Except ε α × ν} {R : α → κ → ν → Prop}
    (hnew : ∀ k v s s' v', f k v s = (.ok s', v') → R s' k v')
    (hkeep : ∀ k v s s' v' k₀ v₀, f k v s = (.ok s', v') → R s k₀ v₀ → R s' k₀ v₀) :
    ∀ (l : List (κ × ν)) (s s' : α), (visitList f l s).1 = .ok s' →
      (∀ p ∈ (visitList f l s).2, R s' p.1 p.2) ∧ ∀ k₀ v₀, R s k₀ v₀ → R s' k₀ v₀
  | [], s, s', h => by
      simp only [visitList, Except.ok.injEq] at h
      subst h
      exact ⟨fun p hp => by simp [visitList] at hp, fun _ _ hR => hR⟩
  | (k, v) :: l, s, s', h => by
      rcases hf : f k v s with ⟨e | s₁, v'⟩
      · simp only [visitList, hf] at h
        cases h
      · simp only [visitList, hf] at h ⊢
        obtain ⟨hl, hk⟩ := visitList_ok hnew hkeep l s₁ s' h
        refine ⟨?_, fun k₀ v₀ hR => hk k₀ v₀ (hkeep k v s s₁ v' k₀ v₀ hf hR)⟩
        intro p hp
        rcases List.mem_cons.mp hp with rfl | hp
        · exact hk k v' (hnew k v s s₁ v' hf)
        · exact hl p hp

theorem visit_ok {m : SortedMap κ ν} {f : κ → ν → α → Except ε α × ν} {R : α → κ → ν → Prop}
    {s s' : α} (hnew : ∀ k v s s' v', f k v s = (.ok s', v') → R s' k v')
    (hkeep : ∀ k v s s' v' k₀ v₀, f k v s = (.ok s', v') → R s k₀ v₀ → R s' k₀ v₀)
    (h : (m.visit f s).1 = .ok s') {a : κ} {v : ν} (hv : (m.visit f s).2.get? a = some v) :
    R s' a v :=
  (visitList_ok hnew hkeep m.entries s s' h).1 (a, v) (mem_of_lookup hv)

omit [Ranked κ] [DecidableEq κ] in
/-- Rule for a walk that fails: `J` holds of every state from which the walk can still fail,
and there a step keeps `P` of its entry. -/
theorem visitList_error {f : κ → ν → α → Except ε α × ν} {P : ν → Prop} {J : α → Prop}
    (hback : ∀ k v s s' v', f k v s = (.ok s', v') → J s' → J s ∧ (P v → P v'))
    (hfail : ∀ k v s e v', f k v s = (.error e, v') → J s ∧ (P v → P v')) :
    ∀ (l : List (κ × ν)) (s : α) (e : ε), (visitList f l s).1 = .error e →
      (∀ p ∈ l, P p.2) → J s ∧ ∀ p ∈ (visitList f l s).2, P p.2
  | [], s, e, h, _ => by
      simp only [visitList] at h
      cases h
  | (k, v) :: l, s, e, h, hP => by
      have hv : P v := hP (k, v) List.mem_cons_self
      have hl : ∀ p ∈ l, P p.2 := fun p hp => hP p (List.mem_cons_of_mem _ hp)
      rcases hf : f k v s with ⟨e' | s₁, v'⟩
      · simp only [visitList, hf] at h ⊢
        obtain ⟨hJ, hv'⟩ := hfail k v s e' v' hf
        exact ⟨hJ, List.forall_mem_cons.mpr ⟨hv' hv, hl⟩⟩
      · simp only [visitList, hf] at h ⊢
        obtain ⟨hJ₁, hl'⟩ := visitList_error hback hfail l s₁ e h hl
        obtain ⟨hJ, hv'⟩ := hback k v s s₁ v' hf hJ₁
        exact ⟨hJ, List.forall_mem_cons.mpr ⟨hv' hv, hl'⟩⟩

theorem visit_error {m : SortedMap κ ν} {f : κ → ν → α → Except ε α × ν} {P : ν → Prop}
    {J : α → Prop} {s : α} {e : ε}
    (hback : ∀ k v s s' v', f k v s = (.ok s', v') → J s' → J s ∧ (P v → P v'))
    (hfail : ∀ k v s e v', f k v s = (.error e, v') → J s ∧ (P v → P v'))
    (h : (m.visit f s).1 = .error e) (hP : ∀ a v, m.get? a = some v → P v) {a : κ} {v : ν}
    (hv : (m.visit f s).2.get? a = some v) : P v :=
  (visitList_error hback hfail m.entries s e h
    (fun p hp => hP p.1 p.2 ((m.mem_entries_iff p.1 p.2).mp hp))).2 (a, v) (mem_of_lookup hv)

omit [Ranked κ] [DecidableEq κ] in
/-- Rule for a walk that cannot fail: where every step succeeds and keeps `J` of the state, the
walk succeeds and its state has `J`. -/
theorem visitList_keeps {f : κ → ν → α → Except ε α × ν} {J : α → Prop} :
    ∀ (l : List (κ × ν)) (s : α),
      (∀ p ∈ l, ∀ s, J s → ∃ s' v', f p.1 p.2 s = (.ok s', v') ∧ J s') → J s →
      ∃ s', (visitList f l s).1 = .ok s' ∧ J s'
  | [], s, _, hJ => ⟨s, rfl, hJ⟩
  | (k, v) :: l, s, hstep, hJ => by
      obtain ⟨hk, hl⟩ := List.forall_mem_cons.mp hstep
      obtain ⟨s₁, v', hf, hJ₁⟩ := hk s hJ
      simp only [visitList, hf]
      exact visitList_keeps l s₁ hl hJ₁

omit [DecidableEq κ] in
theorem visit_keeps {m : SortedMap κ ν} {f : κ → ν → α → Except ε α × ν} {J : α → Prop} {s : α}
    (hstep : ∀ p ∈ m.entries, ∀ s, J s → ∃ s' v', f p.1 p.2 s = (.ok s', v') ∧ J s') (hJ : J s) :
    ∃ s' m', m.visit f s = (.ok s', m') ∧ J s' := by
  obtain ⟨s', hs', hJ'⟩ := visitList_keeps m.entries s hstep hJ
  exact ⟨s', _, Prod.ext hs' rfl, hJ'⟩

omit [Ranked κ] [DecidableEq κ] in
/-- Rule for the state of a walk that may fail: what every successful step keeps of it. -/
theorem visitList_invariant {f : κ → ν → α → Except ε α × ν} {J : α → Prop} :
    ∀ (l : List (κ × ν)) (s s' : α),
      (∀ p ∈ l, ∀ s s' v', J s → f p.1 p.2 s = (.ok s', v') → J s') → J s →
      (visitList f l s).1 = .ok s' → J s'
  | [], s, s', _, hJ, h => by
      simp only [visitList, Except.ok.injEq] at h
      exact h ▸ hJ
  | (k, v) :: l, s, s', hstep, hJ, h => by
      obtain ⟨hk, hl⟩ := List.forall_mem_cons.mp hstep
      rcases hf : f k v s with ⟨e | s₁, v'⟩
      · simp only [visitList, hf] at h
        cases h
      · simp only [visitList, hf] at h
        exact visitList_invariant l s₁ s' hl (hk s s₁ v' hJ hf) h

omit [DecidableEq κ] in
theorem visit_invariant {m : SortedMap κ ν} {f : κ → ν → α → Except ε α × ν} {J : α → Prop}
    {s s' : α} (hstep : ∀ p ∈ m.entries, ∀ s s' v', J s → f p.1 p.2 s = (.ok s', v') → J s')
    (hJ : J s) (h : (m.visit f s).1 = .ok s') : J s' :=
  visitList_invariant m.entries s s' hstep hJ h

omit [Ranked κ] [DecidableEq κ] in
/-- Rule for a walk that selects keys: what a step selects and writes depends on its entry only. -/
theorem visitList_select {f : κ → ν → List κ → Except ε (List κ) × ν} {q : κ → ν → Bool}
    {g : κ → ν → ν} (hstep : ∀ k v s s' v', f k v s = (.ok s', v') →
      s' = (if q k v then s ++ [k] else s) ∧ v' = g k v) :
    ∀ (l : List (κ × ν)) (s s' : List κ), (visitList f l s).1 = .ok s' →
      s' = s ++ (l.filter (fun p => q p.1 p.2)).map Prod.fst ∧
        (visitList f l s).2 = l.map (fun p => (p.1, g p.1 p.2))
  | [], s, s', h => by
      rw [visitList] at h
      rw [← Except.ok.inj h]
      exact ⟨(List.append_nil s).symm, rfl⟩
  | (k, v) :: l, s, s', h => by
      rcases hf : f k v s with ⟨e | s₁, v'⟩
      · simp only [visitList, hf] at h
        cases h
      · simp only [visitList, hf] at h ⊢
        obtain ⟨hs, hv⟩ := hstep k v s s₁ v' hf
        obtain ⟨hl, hvalues⟩ := visitList_select hstep l s₁ s' h
        refine ⟨?_, by rw [hvalues, hv]; rfl⟩
        rw [hl, hs, List.filter_cons]
        split_ifs
        · rw [List.map_cons, List.append_assoc, List.singleton_append]
        · rfl

omit [DecidableEq κ] in
theorem visit_select {m m' : SortedMap κ ν} {f : κ → ν → List κ → Except ε (List κ) × ν}
    {q : κ → ν → Bool} {g : κ → ν → ν} {keys : List κ}
    (hstep : ∀ k v s s' v', f k v s = (.ok s', v') →
      s' = (if q k v then s ++ [k] else s) ∧ v' = g k v)
    (h : m.visit f [] = (.ok keys, m')) :
    keys = (m.entries.filter (fun p => q p.1 p.2)).map Prod.fst ∧ m' = m.mapValues g := by
  obtain ⟨hkeys, hm'⟩ := Prod.mk.inj h
  obtain ⟨hselected, hvalues⟩ := visitList_select hstep m.entries [] keys hkeys
  refine ⟨hselected, ?_⟩
  rw [← hm']
  unfold mapValues
  congr

omit [DecidableEq κ] in
/-- A key is selected once. -/
theorem nodup_selected (m : SortedMap κ ν) (q : κ × ν → Bool) :
    ((m.entries.filter q).map Prod.fst).Nodup := by
  have hkeys : (m.entries.map Prod.fst).Nodup := by
    refine m.sorted.imp ?_
    rintro a b hlt rfl
    exact lt_irrefl _ hlt
  exact hkeys.sublist (List.filter_sublist.map Prod.fst)

theorem mem_selected_iff (m : SortedMap κ ν) (q : κ × ν → Bool) (k : κ) :
    k ∈ (m.entries.filter q).map Prod.fst ↔ ∃ v, m.get? k = some v ∧ q (k, v) = true := by
  rw [List.mem_map]
  constructor
  · rintro ⟨⟨k, v⟩, hmem, rfl⟩
    obtain ⟨hentry, hq⟩ := List.mem_filter.mp hmem
    exact ⟨v, (m.mem_entries_iff k v).mp hentry, hq⟩
  · rintro ⟨v, hentry, hq⟩
    exact ⟨(k, v), List.mem_filter.mpr ⟨(m.mem_entries_iff k v).mpr hentry, hq⟩, rfl⟩

end SortedMap
