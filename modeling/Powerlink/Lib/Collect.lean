import Mathlib.Data.List.Basic

/-! # Collecting results

Rules for `List.mapM`, `Option.mapM` and `List.foldlM` in `Except`: what a loop returns that collects
the results of its elements, or updates a state with each of them, and stops at the first error.

`ComesTo` says that a loop that can end at each of its elements comes to one of some kind.
`read_foldlM` is about a loop that overwrites: a place of the state holds what the last element put
there that hits it. -/

namespace Collect

variable {ε α β γ : Type}

@[simp] theorem ok_bind (a : α) (f : α → Except ε β) : (Except.ok a >>= f) = f a := rfl

/-! ### Lists -/

/-- A loop whose elements all succeed. -/
theorem mapM_ok {f : α → Except ε β} {g : α → β} (h : ∀ a, f a = .ok (g a)) :
    ∀ l : List α, l.mapM f = .ok (l.map g)
  | [] => rfl
  | a :: l => by
      rw [List.mapM_cons, h a, mapM_ok h l]
      rfl

/-- The same over a list that was written before. -/
theorem mapM_map_ok {b : α → β} {r : β → Except ε γ} {s : α → γ} (h : ∀ a, r (b a) = .ok (s a))
    (l : List α) : (l.map b).mapM r = .ok (l.map s) := by
  rw [List.mapM_map]
  exact mapM_ok h l

/-- A loop whose elements all succeed, with what is known of each result. -/
theorem exists_mapM {b : α → Except ε β} {P : α → β → Prop} (h : ∀ a, ∃ m, b a = .ok m ∧ P a m) :
    ∀ l : List α, ∃ ms, l.mapM b = .ok ms ∧ List.Forall₂ P l ms
  | [] => ⟨[], rfl, .nil⟩
  | a :: l => by
      obtain ⟨m, hm, hp⟩ := h a
      obtain ⟨ms, hms, hps⟩ := exists_mapM h l
      refine ⟨m :: ms, ?_, .cons hp hps⟩
      rw [List.mapM_cons, hm, hms]
      rfl

/-- A loop over results that each come from an element of another list. -/
theorem mapM_of_forall₂ {r : β → Except ε γ} {s : α → γ} {l : List α} {ms : List β}
    (h : List.Forall₂ (fun a m => r m = .ok (s a)) l ms) : ms.mapM r = .ok (l.map s) := by
  induction h with
  | nil => rfl
  | cons hm _ ih =>
      rw [List.mapM_cons, hm, ih]
      rfl

theorem mapM_congr {f g : α → Except ε β} : ∀ {l : List α}, (∀ a ∈ l, f a = g a) →
    l.mapM f = l.mapM g
  | [], _ => rfl
  | a :: l, h => by
      rw [List.mapM_cons, List.mapM_cons, h a List.mem_cons_self,
        mapM_congr (fun a ha => h a (List.mem_cons_of_mem _ ha))]

/-- What a loop returns comes from its elements. -/
theorem exists_of_mapM {f : α → Except ε β} : ∀ {l : List α} {r : List β}, l.mapM f = .ok r →
    ∀ b ∈ r, ∃ a ∈ l, f a = .ok b
  | [], r, h, b, hb => by
      cases h
      cases hb
  | a :: l, r, h, b, hb => by
      rw [List.mapM_cons] at h
      cases hfa : f a with
      | error e =>
          rw [hfa] at h
          cases h
      | ok b' =>
          cases hl : l.mapM f with
          | error e =>
              rw [hfa, hl] at h
              cases h
          | ok r' =>
              rw [hfa, hl] at h
              cases h
              rcases List.mem_cons.mp hb with rfl | hb
              · exact ⟨a, List.mem_cons_self, hfa⟩
              · obtain ⟨a', ha', hfa'⟩ := exists_of_mapM hl b hb
                exact ⟨a', List.mem_cons_of_mem _ ha', hfa'⟩

/-- A map that changes nothing. -/
theorem map_eq_self_iff {s : α → α} {l : List α} : l.map s = l ↔ ∀ a ∈ l, s a = a := by
  conv_lhs => rw [← List.map_id l, List.map_map]
  rw [List.map_inj_left]
  rfl

/-- A map that leaves exactly some of the results of another map as they are. -/
theorem map_map_eq_self_iff {r : β → α} {s : α → α} {P : α → Prop}
    (h : ∀ b, s (r b) = r b ↔ P (r b)) (l : List β) :
    (l.map r).map s = l.map r ↔ ∀ a ∈ l.map r, P a := by
  rw [map_eq_self_iff, List.forall_mem_map, List.forall_mem_map]
  exact forall₂_congr (fun b _ => h b)

/-- A map that leaves the results of a loop as they are. -/
theorem map_eq_self_of_mapM {r : β → Except ε α} {s : α → α} (h : ∀ b a, r b = .ok a → s a = a)
    {l : List β} {l' : List α} (hl : l.mapM r = .ok l') : l'.map s = l' := by
  rw [map_eq_self_iff]
  intro a ha
  obtain ⟨b, -, hb⟩ := exists_of_mapM hl a ha
  exact h b a hb

/-! ### Options -/

theorem option_mapM_map_ok {b : α → β} {r : β → Except ε γ} {s : α → γ}
    (h : ∀ a, r (b a) = .ok (s a)) (o : Option α) : (o.map b).mapM r = .ok (o.map s) := by
  cases o with
  | none => rfl
  | some a =>
      rw [Option.map_some, Option.mapM_some, h a]
      rfl

theorem exists_of_option_mapM {f : α → Except ε β} {o : Option α} {r : Option β}
    (h : o.mapM f = .ok r) : ∀ b ∈ r, ∃ a ∈ o, f a = .ok b := by
  intro b hb
  cases o with
  | none =>
      cases h
      cases hb
  | some a =>
      rw [Option.mapM_some] at h
      cases hfa : f a with
      | error e =>
          rw [hfa] at h
          cases h
      | ok b' =>
          rw [hfa] at h
          cases h
          cases hb
          exact ⟨a, rfl, hfa⟩

theorem option_map_eq_self_iff {s : α → α} {o : Option α} :
    o.map s = o ↔ ∀ a ∈ o, s a = a := by
  cases o <;> simp

/-! ### Loops with a state -/

section state

variable {σ ρ : Type} {f : σ → α → Except ε σ}

/-- A step that succeeds is followed by the rest of the loop. -/
theorem foldlM_cons_ok {a : α} {l : List α} {s s' : σ} (h : (a :: l).foldlM f s = .ok s') :
    ∃ t, f s a = .ok t ∧ l.foldlM f t = .ok s' := by
  rw [List.foldlM_cons] at h
  cases hfa : f s a with
  | error e =>
      rw [hfa] at h
      cases h
  | ok t =>
      rw [hfa] at h
      exact ⟨t, rfl, h⟩

/-- Each element of a loop that succeeds has what a step needs. -/
theorem forall_of_foldlM {P : α → Prop} (hf : ∀ s a s', f s a = .ok s' → P a) :
    ∀ {l : List α} {s s' : σ}, l.foldlM f s = .ok s' → ∀ a ∈ l, P a
  | [], _, _, _, _, ha => absurd ha List.not_mem_nil
  | b :: l, s, s', h, a, ha => by
      obtain ⟨t, hb, hl⟩ := foldlM_cons_ok h
      rcases List.mem_cons.mp ha with rfl | ha
      · exact hf s a t hb
      · exact forall_of_foldlM hf hl a ha

/-- A place of the state holds what the last element put there that hits it, or what it held at the
start. -/
theorem read_foldlM (I : σ → Prop) (read : σ → ρ) (hits : α → Bool) (value : α → ρ)
    (hf : ∀ s a s', I s → f s a = .ok s' →
      I s' ∧ read s' = if hits a = true then value a else read s) :
    ∀ {l : List α} {s s' : σ}, I s → l.foldlM f s = .ok s' →
      I s' ∧ read s' = match l.reverse.find? hits with
        | some a => value a
        | none => read s
  | [], s, s', hs, h => by
      cases h
      exact ⟨hs, rfl⟩
  | a :: l, s, s', hs, h => by
      obtain ⟨t, ha, hl⟩ := foldlM_cons_ok h
      obtain ⟨ht, hread⟩ := hf s a t hs ha
      obtain ⟨hs', hread'⟩ := read_foldlM I read hits value hf ht hl
      refine ⟨hs', ?_⟩
      rw [hread', List.reverse_cons, List.find?_append, hread]
      cases l.reverse.find? hits with
      | some b => rfl
      | none => cases hhits : hits a <;> simp [hhits]

/-- A loop of loops. -/
theorem foldlM_flatMap {g : α → List β} {f : σ → β → Except ε σ} (l : List α) (s : σ) :
    (l.flatMap g).foldlM f s = l.foldlM (fun s a => (g a).foldlM f s) s := by
  induction l generalizing s with
  | nil => rfl
  | cons a l ih =>
      rw [List.flatMap_cons, List.foldlM_append, List.foldlM_cons]
      simp only [ih]

end state

/-- The last element that meets a condition, where only one does. -/
theorem find?_reverse_of_unique {hits : α → Bool} {l : List α} {a : α} (ha : a ∈ l)
    (hhits : hits a = true) (hunique : ∀ b ∈ l, hits b = true → b = a) :
    l.reverse.find? hits = some a := by
  cases hfind : l.reverse.find? hits with
  | none => exact absurd hhits (List.find?_eq_none.mp hfind a (List.mem_reverse.mpr ha))
  | some b =>
      have hb := List.mem_reverse.mp (List.mem_of_find?_eq_some hfind)
      rw [hunique b hb (List.find?_some hfind)]

/-! ### Loops that end early -/

/-- A loop that goes on behind the elements of `P` comes to an element of `Q`. -/
def ComesTo (P Q : α → Prop) (l : List α) : Prop :=
  ∃ before a after, l = before ++ a :: after ∧ (∀ x ∈ before, P x) ∧ Q a

variable {P Q : α → Prop}

theorem not_comesTo_nil : ¬ComesTo P Q [] := by
  rintro ⟨before, a, after, h, -⟩
  exact List.append_ne_nil_of_right_ne_nil before (List.cons_ne_nil a after) h.symm

/-- The first element is of `Q`, or it is of `P` and the loop goes on. -/
theorem comesTo_cons (a : α) (l : List α) : ComesTo P Q (a :: l) ↔ Q a ∨ P a ∧ ComesTo P Q l := by
  constructor
  · rintro ⟨before, b, after, h, hbefore, hb⟩
    cases before with
    | nil =>
        obtain ⟨rfl, -⟩ := List.cons.inj h
        exact .inl hb
    | cons x before =>
        obtain ⟨rfl, rfl⟩ := List.cons.inj h
        exact .inr ⟨hbefore a List.mem_cons_self, before, b, after, rfl,
          fun y hy => hbefore y (List.mem_cons_of_mem a hy), hb⟩
  · rintro (ha | ⟨ha, before, b, after, rfl, hbefore, hb⟩)
    · exact ⟨[], a, l, rfl, fun x hx => absurd hx List.not_mem_nil, ha⟩
    · exact ⟨a :: before, b, after, rfl, List.forall_mem_cons.mpr ⟨ha, hbefore⟩, hb⟩

end Collect
