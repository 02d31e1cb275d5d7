import Mathlib.Tactic

/-! # Runs of a deterministic machine

A machine is a step function `step : S → E → S` that consumes one event at a time.  `run`
folds it over a list of events.  `Always P` says that `P` holds in every state of a run, the
first and the last included, and `AllSteps C` that every step of it, taken with the state
before it, meets `C`.

`always_of_allSteps` is the invariant rule for runs whose steps meet a side condition, and
`always_iff_allSteps` its exact form: when a step keeps `P` exactly if it meets `C`, the runs
that stay inside `P` are the runs all of whose steps meet `C`.

`between_iff_allSteps` does the same for a preorder between any two states of a run.

`LastEntry` splits the events of a run at the last step into a set of states.

`LedBy` says that events of a kind lead from one state to another one; `LedBy.induct` is its rule.

`partialStep` turns a step that can fail into such a machine; `always_reached` is its invariant
rule and `always_isSome_iff` says which runs do not fail. -/

namespace Runs

variable {S E : Type} (step : S → E → S)

/-- The state after a list of events. -/
def run (s : S) (es : List E) : S := es.foldl step s

/-- Every step of the run meets `C`. -/
def AllSteps (C : S → E → Prop) : S → List E → Prop
  | _, [] => True
  | s, e :: es => C s e ∧ AllSteps C (step s e) es

/-- `P` holds in every state of the run. -/
def Always (P : S → Prop) : S → List E → Prop
  | s, [] => P s
  | s, e :: es => P s ∧ Always P (step s e) es

instance decidableAllSteps (C : S → E → Prop) [∀ s e, Decidable (C s e)] :
    ∀ (s : S) (es : List E), Decidable (AllSteps step C s es)
  | _, [] => inferInstanceAs (Decidable True)
  | s, e :: es =>
      have := decidableAllSteps C (step s e) es
      inferInstanceAs (Decidable (C s e ∧ AllSteps step C (step s e) es))

instance decidableAlways (P : S → Prop) [∀ s, Decidable (P s)] :
    ∀ (s : S) (es : List E), Decidable (Always step P s es)
  | s, [] => inferInstanceAs (Decidable (P s))
  | s, e :: es =>
      have := decidableAlways P (step s e) es
      inferInstanceAs (Decidable (P s ∧ Always step P (step s e) es))

variable {step}

theorem Always.head {P : S → Prop} {s : S} {es : List E} (h : Always step P s es) : P s := by
  cases es with
  | nil => exact h
  | cons e es => exact h.1

theorem Always.last {P : S → Prop} : ∀ {es : List E} {s : S}, Always step P s es →
    P (run step s es)
  | [], _, h => h
  | e :: es, s, h => by
      have hlast : P (run step (step s e) es) := Always.last h.2
      exact hlast

theorem Always.mono {P Q : S → Prop} (hPQ : ∀ s, P s → Q s) :
    ∀ {es : List E} {s : S}, Always step P s es → Always step Q s es
  | [], _, h => hPQ _ h
  | _ :: _, _, h => ⟨hPQ _ h.1, Always.mono hPQ h.2⟩

theorem Always.and {P Q : S → Prop} : ∀ {es : List E} {s : S}, Always step P s es →
    Always step Q s es → Always step (fun s => P s ∧ Q s) s es
  | [], _, hP, hQ => ⟨hP, hQ⟩
  | _ :: _, _, hP, hQ => ⟨⟨hP.1, hQ.1⟩, Always.and hP.2 hQ.2⟩

/-- A property of single steps that follows from the state before them. -/
theorem Always.allSteps {P : S → Prop} {C : S → E → Prop} (hPC : ∀ s e, P s → C s e) :
    ∀ {es : List E} {s : S}, Always step P s es → AllSteps step C s es
  | [], _, _ => trivial
  | e :: _, s, h => ⟨hPC s e h.1, Always.allSteps hPC h.2⟩

/-- The invariant rule: what holds at the start and is kept by every step that meets `C` holds
throughout a run of such steps. -/
theorem always_of_allSteps {P : S → Prop} {C : S → E → Prop}
    (hstep : ∀ s e, P s → C s e → P (step s e)) :
    ∀ {es : List E} {s : S}, P s → AllSteps step C s es → Always step P s es
  | [], _, hs, _ => hs
  | e :: _, s, hs, hC => ⟨hs, always_of_allSteps hstep (hstep s e hs hC.1) hC.2⟩

/-- The invariant rule without a side condition. -/
theorem always_of_step {P : S → Prop} (hstep : ∀ s e, P s → P (step s e)) :
    ∀ (es : List E) {s : S}, P s → Always step P s es
  | [], _, hs => hs
  | e :: es, s, hs => ⟨hs, always_of_step hstep es (hstep s e hs)⟩

/-- The exact form of the invariant rule. -/
theorem always_iff_allSteps {P : S → Prop} {C : S → E → Prop}
    (hstep : ∀ s e, P s → (P (step s e) ↔ C s e)) {es : List E} {s : S} (hs : P s) :
    Always step P s es ↔ AllSteps step C s es := by
  constructor
  · intro h
    induction es generalizing s with
    | nil => trivial
    | cons e es ih =>
        have he : P (step s e) := h.2.head
        exact ⟨(hstep s e hs).mp he, ih he h.2⟩
  · exact always_of_allSteps (fun s e hP hC => (hstep s e hP).mpr hC) hs

/-- The exact form with an invariant `I` of all runs. -/
theorem always_iff_allSteps_of_invariant {I P : S → Prop} {C : S → E → Prop}
    (hI : ∀ s e, I s → I (step s e)) (hstep : ∀ s e, I s → P s → (P (step s e) ↔ C s e))
    {es : List E} {s : S} (hIs : I s) (hs : P s) :
    Always step P s es ↔ AllSteps step C s es := by
  induction es generalizing s with
  | nil => exact iff_of_true hs trivial
  | cons e es ih =>
      constructor
      · intro h
        have he : P (step s e) := h.2.head
        exact ⟨(hstep s e hIs hs).mp he, (ih (hI s e hIs) he).mp h.2⟩
      · intro h
        have he : P (step s e) := (hstep s e hIs hs).mpr h.1
        exact ⟨hs, (ih (hI s e hIs) he).mpr h.2⟩

/-- A property of single steps that follows from an invariant and the side condition. -/
theorem AllSteps.imp {P : S → Prop} {C D : S → E → Prop}
    (hCD : ∀ s e, P s → C s e → D s e) :
    ∀ {es : List E} {s : S}, Always step P s es → AllSteps step C s es → AllSteps step D s es
  | [], _, _, _ => trivial
  | e :: _, s, hP, hC => ⟨hCD s e hP.1 hC.1, AllSteps.imp hCD hP.2 hC.2⟩

theorem allSteps_iff {C D : S → E → Prop} (h : ∀ s e, C s e ↔ D s e) :
    ∀ (es : List E) (s : S), AllSteps step C s es ↔ AllSteps step D s es
  | [], _ => Iff.rfl
  | e :: es, s => and_congr (h s e) (allSteps_iff h es (step s e))

/-! ### Relations between the states of a run -/

section between

variable (step) (R : S → S → Prop)

/-- `R` holds between any two states of the run, the earlier one first. -/
def Between (s : S) (es : List E) : Prop :=
  ∀ before between, before ++ between <+: es →
    R (run step s before) (run step s (before ++ between))

variable {step R}

/-- A preorder that every step of a run keeps relates its first state to the last one. -/
theorem related_of_allSteps (hrefl : ∀ s, R s s) (htrans : ∀ {a b c}, R a b → R b c → R a c) :
    ∀ {es : List E} {s : S}, AllSteps step (fun s e => R s (step s e)) s es → R s (run step s es)
  | [], s, _ => hrefl s
  | _ :: _, _, h => htrans h.1 (related_of_allSteps hrefl htrans h.2)

theorem AllSteps.of_prefix {C : S → E → Prop} :
    ∀ {es es' : List E} {s : S}, AllSteps step C s es → es' <+: es → AllSteps step C s es'
  | _, [], _, _, _ => trivial
  | [], e' :: es', _, _, hpre => absurd (List.prefix_nil.mp hpre) (List.cons_ne_nil _ _)
  | e :: es, e' :: es', s, h, hpre => by
      obtain ⟨rfl, htail⟩ := List.cons_prefix_cons.mp hpre
      exact ⟨h.1, AllSteps.of_prefix h.2 htail⟩

/-- A preorder holds between any two states of a run exactly if every step keeps it. -/
theorem between_iff_allSteps (hrefl : ∀ s, R s s) (htrans : ∀ {a b c}, R a b → R b c → R a c)
    {es : List E} {s : S} :
    Between step R s es ↔ AllSteps step (fun s e => R s (step s e)) s es := by
  constructor
  · intro h
    induction es generalizing s with
    | nil => trivial
    | cons e es ih =>
        refine ⟨h [] [e] (List.cons_prefix_cons.mpr ⟨rfl, List.nil_prefix⟩), ih ?_⟩
        intro before between hpre
        exact h (e :: before) between (List.cons_prefix_cons.mpr ⟨rfl, hpre⟩)
  · intro h before
    induction before generalizing s es with
    | nil =>
        intro between hpre
        exact related_of_allSteps hrefl htrans (h.of_prefix hpre)
    | cons e before ih =>
        intro between hpre
        obtain ⟨rest, rfl⟩ := hpre
        exact ih h.2 between (List.prefix_append _ _)

end between

/-! ### Entering a set of states -/

section entries

theorem run_append (s : S) (es es' : List E) :
    run step s (es ++ es') = run step (run step s es) es' := List.foldl_append

variable (step) (Q : S → Prop)

/-- The run of `entry` ends with a step into `Q`, and no event of `rest` enters `Q` again: `rest`
is what happened since. -/
def LastEntry (s : S) (entry rest : List E) : Prop :=
  (∃ before e, entry = before ++ [e] ∧ ¬Q (run step s before) ∧ Q (run step s entry)) ∧
    ∀ a e, a ++ [e] <+: rest → Q (run step s (entry ++ (a ++ [e]))) → Q (run step s (entry ++ a))

variable {step Q}

theorem lastEntry_nil {s : S} (before : List E) (e : E) (hout : ¬Q (run step s before))
    (hin : Q (run step s (before ++ [e]))) : LastEntry step Q s (before ++ [e]) [] := by
  refine ⟨⟨before, e, rfl, hout, hin⟩, ?_⟩
  intro a x hpre
  exact absurd (List.prefix_nil.mp hpre) (by simp)

theorem LastEntry.concat {s : S} {entry rest : List E} {e : E} (h : LastEntry step Q s entry rest)
    (he : Q (run step s (entry ++ (rest ++ [e]))) → Q (run step s (entry ++ rest))) :
    LastEntry step Q s entry (rest ++ [e]) := by
  refine ⟨h.1, ?_⟩
  intro a x hpre
  rcases List.prefix_concat_iff.mp hpre with heq | hpre
  · obtain ⟨rfl, hx⟩ := List.append_inj' heq rfl
    obtain rfl : x = e := List.singleton_inj.mp hx
    exact he
  · exact h.2 a x hpre

/-- The events since an entry, without the last one. -/
theorem LastEntry.of_concat {s : S} {entry rest : List E} {e : E}
    (h : LastEntry step Q s entry (rest ++ [e])) : LastEntry step Q s entry rest :=
  ⟨h.1, fun a x hpre => h.2 a x (hpre.trans (List.prefix_append _ _))⟩

/-- An entry is not followed by a later one. -/
theorem LastEntry.not_longer {s : S} {entry rest entry' rest' : List E}
    (h : LastEntry step Q s entry rest) (h' : LastEntry step Q s entry' rest')
    (heq : entry ++ rest = entry' ++ rest') : ¬entry.length < entry'.length := by
  intro hlt
  obtain ⟨before, e, rfl, hout, hin⟩ := h'.1
  have hpre : entry <+: before := by
    refine List.prefix_of_prefix_length_le ⟨rest, heq⟩
      ⟨[e] ++ rest', (List.append_assoc _ _ _).symm⟩ ?_
    rw [List.length_append, List.length_singleton] at hlt
    omega
  obtain ⟨a, rfl⟩ := hpre
  have hrest : a ++ [e] <+: rest := by
    refine ⟨rest', ?_⟩
    rw [List.append_assoc, List.append_assoc] at heq
    rw [List.append_assoc]
    exact (List.append_cancel_left heq).symm
  rw [List.append_assoc] at hin
  exact hout (h.2 a e hrest hin)

/-- There is one last entry. -/
theorem LastEntry.unique {s : S} {entry rest entry' rest' : List E}
    (h : LastEntry step Q s entry rest) (h' : LastEntry step Q s entry' rest')
    (heq : entry ++ rest = entry' ++ rest') : entry = entry' ∧ rest = rest' := by
  have hlength : entry.length = entry'.length := by
    have h₁ := h.not_longer h' heq
    have h₂ := h'.not_longer h heq.symm
    omega
  exact List.append_inj heq hlength

end entries

/-! ### Runs with allowed events -/

section ledBy

variable {step : S → E → S} {allowed : E → Prop} {s s' s'' : S}

/-- Some events, all of them allowed, lead from one state to the other. -/
def LedBy (step : S → E → S) (allowed : E → Prop) (s s' : S) : Prop :=
  ∃ es : List E, (∀ e ∈ es, allowed e) ∧ s' = run step s es

theorem LedBy.refl (step : S → E → S) (allowed : E → Prop) (s : S) : LedBy step allowed s s :=
  ⟨[], List.forall_mem_nil _, rfl⟩

theorem LedBy.one {e : E} (step : S → E → S) (h : allowed e) (s : S) :
    LedBy step allowed s (step s e) :=
  ⟨[e], List.forall_mem_singleton.mpr h, rfl⟩

theorem LedBy.trans (h : LedBy step allowed s s') (h' : LedBy step allowed s' s'') :
    LedBy step allowed s s'' := by
  obtain ⟨es, hes, rfl⟩ := h
  obtain ⟨es', hes', rfl⟩ := h'
  refine ⟨es ++ es', ?_, (run_append s es es').symm⟩
  intro e hmem
  exact (List.mem_append.mp hmem).elim (hes e) (hes' e)

theorem LedBy.mono {allowed' : E → Prop} (hallowed : ∀ e, allowed e → allowed' e)
    (h : LedBy step allowed s s') : LedBy step allowed' s s' := by
  obtain ⟨es, hes, rfl⟩ := h
  exact ⟨es, fun e hmem => hallowed e (hes e hmem), rfl⟩

/-- The invariant rule for allowed events. -/
theorem LedBy.induct (P : S → Prop) (h : LedBy step allowed s s') (hs : P s)
    (hstep : ∀ a e, allowed e → P a → P (step a e)) : P s' := by
  obtain ⟨es, hes, rfl⟩ := h
  induction es generalizing s with
  | nil => exact hs
  | cons e es ih =>
      rw [List.forall_mem_cons] at hes
      exact ih (hstep s e hes.1 hs) hes.2

/-- What no allowed event changes is the same. -/
theorem LedBy.const {V : Type*} (view : S → V) (h : LedBy step allowed s s')
    (hstep : ∀ a e, allowed e → view (step a e) = view a) : view s' = view s :=
  h.induct (fun a => view a = view s) rfl (fun a e he ha => (hstep a e he).trans ha)

end ledBy

/-! ### Machines that can fail -/

section partialStep

variable {f : S → E → Option S} {P : S → Prop}

/-- A machine whose step can fail, as a machine that stays in `none` then. -/
def partialStep (f : S → E → Option S) : Option S → E → Option S
  | none, _ => none
  | some s, e => f s e

/-- A property of the states that are reached before a failure. -/
def Reached (P : S → Prop) : Option S → Prop
  | none => True
  | some s => P s

theorem Reached.mono {Q : S → Prop} (h : ∀ s, P s → Q s) :
    ∀ s : Option S, Reached P s → Reached Q s
  | none, _ => trivial
  | some s, hs => h s hs

theorem Reached.and {Q : S → Prop} :
    ∀ s : Option S, Reached P s ∧ Reached Q s → Reached (fun s => P s ∧ Q s) s
  | none, _ => trivial
  | some _, hs => hs

theorem run_partialStep_none (es : List E) : run (partialStep f) none es = none := by
  induction es with
  | nil => rfl
  | cons e es ih => exact ih

/-- A run that does not fail, from its first step. -/
theorem run_partialStep_cons {s s' : S} {e : E} {es : List E}
    (h : run (partialStep f) (some s) (e :: es) = some s') :
    ∃ s₁, f s e = some s₁ ∧ run (partialStep f) (some s₁) es = some s' := by
  change run (partialStep f) (f s e) es = some s' at h
  cases hf : f s e with
  | none =>
      rw [hf, run_partialStep_none] at h
      cases h
  | some s₁ =>
      rw [hf] at h
      exact ⟨s₁, rfl, h⟩

/-- The invariant rule for a machine that can fail. -/
theorem always_reached (hstep : ∀ s e s', P s → f s e = some s' → P s') {s₀ : Option S}
    (hs₀ : Reached P s₀) (es : List E) : Always (partialStep f) (Reached P) s₀ es := by
  refine always_of_step ?_ es hs₀
  intro s e hs
  cases s with
  | none => trivial
  | some s =>
      change Reached P (f s e)
      cases hf : f s e with
      | none => trivial
      | some s' => exact hstep s e s' hs hf

/-- A run does not fail exactly if no step of it does. -/
theorem always_isSome_iff {C : S → E → Prop} (hC : ∀ s e, (f s e).isSome = true ↔ C s e) (s₀ : S)
    (es : List E) : Always (partialStep f) (fun s => s.isSome = true) (some s₀) es ↔
      AllSteps (partialStep f) (fun s e => Reached (fun s => C s e) s) (some s₀) es := by
  refine always_iff_allSteps ?_ rfl
  intro s e hs
  obtain ⟨s, rfl⟩ := Option.isSome_iff_exists.mp hs
  exact hC s e

/-- One run is enough against a property. -/
theorem not_always_reached [DecidablePred P] {s₀ : Option S} {es : List E}
    (h : (run (partialStep f) s₀ es).any (fun s => !decide (P s)) = true) :
    ¬ Always (partialStep f) (Reached P) s₀ es := by
  intro halways
  have hlast := halways.last
  cases hrun : run (partialStep f) s₀ es with
  | none =>
      rw [hrun] at h
      cases h
  | some s =>
      rw [hrun] at h hlast
      have hs : P s := hlast
      simp only [Option.any_some, hs, decide_true, Bool.not_true, Bool.false_eq_true] at h

end partialStep

end Runs
