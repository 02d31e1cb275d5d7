import Powerlink.Lib.Runs

/-! # Leaky buckets

A family of buckets, one for each class of errors.  An error fills the bucket of its class by a
fixed amount, a completed cycle takes one from every bucket, and a bucket that reaches its limit is
emptied and reported.  `levels` is this behaviour; the bucket of a class is only touched by the
errors of that class and by the cycles.

`Behaves` says that an implementation behaves like the buckets throughout a run: it holds the same
levels and gives the same answers.  `behaves_iff` is the rule for it: where one step keeps the levels
exactly if it meets a condition on the buckets, the runs that behave are those all of whose steps meet
that condition. -/

namespace Buckets

open Runs

variable {κ ε S R : Type} [DecidableEq κ]

/-- What happens to the buckets. -/
inductive Call (ε : Type) where
  | error (e : ε)
  | cycle
deriving DecidableEq, Repr

/-- How much an error adds, and where a bucket is full. -/
structure Rule where
  gain : ℕ
  limit : ℕ

/-- One more error reaches the limit. -/
def Rule.Overflows (rule : Rule) (level : ℕ) : Prop := rule.limit ≤ level + rule.gain

instance (rule : Rule) (level : ℕ) : Decidable (rule.Overflows level) :=
  inferInstanceAs (Decidable (rule.limit ≤ level + rule.gain))

/-- The level of a bucket after one more error. -/
def Rule.filled (rule : Rule) (level : ℕ) : ℕ :=
  if rule.Overflows level then 0 else level + rule.gain

variable (rule : Rule) (classOf : ε → Option κ)

/-- The levels after a call. -/
def levels (l : κ → ℕ) : Call ε → κ → ℕ
  | .error e, k => if classOf e = some k then rule.filled (l k) else l k
  | .cycle, k => l k - 1

variable {rule classOf}

theorem levels_self {e : ε} {k : κ} (h : classOf e = some k) (l : κ → ℕ) :
    levels rule classOf l (.error e) k = rule.filled (l k) := if_pos h

theorem levels_other {e : ε} {k k' : κ} (h : classOf e = some k) (hne : k' ≠ k) (l : κ → ℕ) :
    levels rule classOf l (.error e) k' = l k' := by
  apply if_neg
  intro h'
  exact hne (Option.some.inj (h'.symm.trans h))

theorem levels_uncounted {e : ε} (h : classOf e = none) (l : κ → ℕ) (k : κ) :
    levels rule classOf l (.error e) k = l k := by
  apply if_neg
  rw [h]
  exact nofun

/-- Something that counts errors: its calls, the levels it holds, and what it answers. -/
structure Counter (κ ε S R : Type) where
  error : S → ε → R × S
  cycle : S → S
  level : S → κ → ℕ
  report : κ → R
  quiet : R

namespace Counter

variable (c : Counter κ ε S R)

/-- The state after a call. -/
def next (s : S) : Call ε → S
  | .error e => (c.error s e).2
  | .cycle => c.cycle s

variable (rule classOf)

/-- A counter beside the buckets. -/
def step (p : S × (κ → ℕ)) (call : Call ε) : S × (κ → ℕ) :=
  (c.next p.1 call, levels rule classOf p.2 call)

/-- The counter holds the levels of the buckets. -/
def Same (p : S × (κ → ℕ)) : Prop := ∀ k, c.level p.1 k = p.2 k

/-- The counter reports a counted error exactly if the bucket of its class overflows. -/
def Answers (p : S × (κ → ℕ)) (call : Call ε) : Prop :=
  ∀ e k, call = .error e → classOf e = some k →
    (c.error p.1 e).1 = if rule.Overflows (p.2 k) then c.report k else c.quiet

/-- The counter behaves like the buckets throughout a run that starts with empty buckets. -/
structure Behaves (s : S) (calls : List (Call ε)) : Prop where
  levels : Always (c.step rule classOf) c.Same (s, fun _ => 0) calls
  answers : AllSteps (c.step rule classOf) (c.Answers rule classOf) (s, fun _ => 0) calls

variable {rule classOf}

/-- A condition on the buckets does not depend on the counter beside them. -/
theorem allSteps_step_iff {C : (κ → ℕ) → Call ε → Prop} (calls : List (Call ε)) (s : S)
    (l : κ → ℕ) :
    AllSteps (c.step rule classOf) (fun p => C p.2) (s, l) calls ↔
      AllSteps (Buckets.levels rule classOf) C l calls := by
  induction calls generalizing s l with
  | nil => exact Iff.rfl
  | cons call calls ih => exact and_congr Iff.rfl (ih _ _)

/-- The rule for counters that behave like buckets, with an invariant of the counter. -/
theorem behaves_iff {I : S → Prop} {C : (κ → ℕ) → Call ε → Prop}
    (hI : ∀ s call, I s → I (c.next s call))
    (hstep : ∀ s l call, I s → c.Same (s, l) →
      (c.Same (c.step rule classOf (s, l) call) ↔ C l call))
    (hanswer : ∀ s l call, I s → c.Same (s, l) → C l call → c.Answers rule classOf (s, l) call)
    {s : S} (hs : I s) (hempty : ∀ k, c.level s k = 0) (calls : List (Call ε)) :
    c.Behaves rule classOf s calls ↔
      AllSteps (Buckets.levels rule classOf) C (fun _ => 0) calls := by
  have hlevels : Always (c.step rule classOf) c.Same (s, fun _ => 0) calls ↔
      AllSteps (c.step rule classOf) (fun p => C p.2) (s, fun _ => 0) calls :=
    always_iff_allSteps_of_invariant (I := fun p => I p.1) (fun p call h => hI p.1 call h)
      (fun p call h hsame => hstep p.1 p.2 call h hsame) hs hempty
  rw [← c.allSteps_step_iff calls s]
  constructor
  · intro h
    exact hlevels.mp h.levels
  · intro h
    have hboth : Always (c.step rule classOf) (fun p => I p.1 ∧ c.Same p) (s, fun _ => 0) calls :=
      always_of_allSteps
        (fun p call hp hC => ⟨hI p.1 call hp.1, (hstep p.1 p.2 call hp.1 hp.2).mpr hC⟩)
        ⟨hs, hempty⟩ h
    constructor
    · exact hboth.mono fun p hp => hp.2
    · exact AllSteps.imp (fun p call hp hC => hanswer p.1 p.2 call hp.1 hp.2 hC) hboth h

end Counter

end Buckets
