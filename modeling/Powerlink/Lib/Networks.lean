import Powerlink.Lib.Runs

/-! # Parties on a shared medium

A party is a machine that can fail, together with what it has heard and said so far.  A network is
a family of parties: one of them takes one event after the other, in any order, and an event can let
it hear only a message that some party has said before.  Messages can be lost, delayed, repeated and
reordered, but they are not made up.

* `Reachable.invariant`: an invariant of a party holds in the network.
* `Reachable.run`: the state of a party is the state of a run of its own, so that whatever holds
  throughout the runs of a party holds in every network (`Reachable.of_always`).
* `Reachable.said`: every message that a party has heard was said by some party. -/

namespace Networks

/-- A machine that hears and says messages. -/
structure Party (M : Type) where
  State : Type
  Event : Type
  start : State → Prop
  step : State → Event → Option State
  /-- The message that is heard with an event. -/
  hears : Event → Option M
  heard : State → M → Prop
  said : State → M → Prop
  heard_start : ∀ {s m}, start s → ¬heard s m
  heard_step : ∀ {s e s' m}, step s e = some s' → heard s' m → heard s m ∨ hears e = some m
  said_step : ∀ {s e s' m}, step s e = some s' → said s m → said s' m

variable {ι M : Type} [DecidableEq ι] {party : ι → Party M}

/-- The states of all parties. -/
abbrev Configuration (party : ι → Party M) : Type := ∀ i, (party i).State

/-- Some party has said the message. -/
def Said (c : Configuration party) (m : M) : Prop := ∃ i, (party i).said (c i) m

/-- The configurations of a network. -/
inductive Reachable : Configuration party → Prop
  | start {c : Configuration party} (h : ∀ i, (party i).start (c i)) : Reachable c
  | step {c : Configuration party} (hc : Reachable c) (i : ι) (e : (party i).Event)
      {s : (party i).State} (hstep : (party i).step (c i) e = some s)
      (hhears : ∀ m, (party i).hears e = some m → Said c m) : Reachable (Function.update c i s)

/-- The property holds in every configuration of the network. -/
def Throughout (P : Configuration party → Prop) : Prop := ∀ c, Reachable c → P c

/-- What is said stays said. -/
theorem Said.update {c : Configuration party} {m : M} (h : Said c m) {i : ι}
    {e : (party i).Event} {s : (party i).State} (hstep : (party i).step (c i) e = some s) :
    Said (Function.update c i s) m := by
  obtain ⟨j, hj⟩ := h
  refine ⟨j, ?_⟩
  by_cases hji : j = i
  · subst hji
    rw [Function.update_self]
    exact (party j).said_step hstep hj
  · rw [Function.update_of_ne hji]
    exact hj

namespace Reachable

variable {c : Configuration party}

/-- The invariant rule for one party. -/
theorem invariant (hc : Reachable c) (i : ι) {P : (party i).State → Prop}
    (hstart : ∀ s, (party i).start s → P s)
    (hstep : ∀ s e s', P s → (party i).step s e = some s' → P s') : P (c i) := by
  induction hc with
  | start h => exact hstart _ (h i)
  | @step c hc j e s hs hhears ih =>
      by_cases hij : i = j
      · subst hij
        rw [Function.update_self]
        exact hstep _ e s ih hs
      · rw [Function.update_of_ne hij]
        exact ih

/-- The state of a party is reached in a run of its own. -/
theorem run (hc : Reachable c) (i : ι) : ∃ s es, (party i).start s ∧
    Runs.run (Runs.partialStep (party i).step) (some s) es = some (c i) := by
  refine hc.invariant i (P := fun t => ∃ s es, (party i).start s ∧
    Runs.run (Runs.partialStep (party i).step) (some s) es = some t) ?_ ?_
  · intro s hs
    exact ⟨s, [], hs, rfl⟩
  · rintro s e s' ⟨s₀, es, hs₀, hrun⟩ hstep
    refine ⟨s₀, es ++ [e], hs₀, ?_⟩
    rw [Runs.run_append, hrun]
    exact hstep

/-- What holds throughout the runs of a party holds in the network. -/
theorem of_always (hc : Reachable c) (i : ι) {P : (party i).State → Prop}
    (h : ∀ s es, (party i).start s →
      Runs.Always (Runs.partialStep (party i).step) (Runs.Reached P) (some s) es) : P (c i) := by
  obtain ⟨s, es, hs, hrun⟩ := hc.run i
  have hlast := (h s es hs).last
  rw [hrun] at hlast
  exact hlast

/-- Every message that is heard was said. -/
theorem said (hc : Reachable c) {i : ι} {m : M} (h : (party i).heard (c i) m) : Said c m := by
  induction hc with
  | start hstart => exact absurd h ((party i).heard_start (hstart i))
  | @step c hc j e s hs hhears ih =>
      by_cases hij : i = j
      · subst hij
        rw [Function.update_self] at h
        obtain hbefore | hnow := (party i).heard_step hs h
        · exact (ih hbefore).update hs
        · exact (hhears m hnow).update hs
      · rw [Function.update_of_ne hij] at h
        exact (ih h).update hs

end Reachable

end Networks
