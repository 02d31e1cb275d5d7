import Powerlink.Cn.ErrorBit
import Powerlink.Lib.Alarms

/-! # The error bit over a run

The steps of a run are the steps of its calls.  The level of the error counters and the error bit
are an alarm of `Lib/Alarms`: an error that reaches its threshold sets the bit, and the SoC that
brings the level down to zero clears it and toggles the EN flag.

The bit should follow the errors (`Follows`), and it does not: the counter of an error that reaches
its threshold starts again at zero, so that the bit stays set unless another counter is above zero,
and errors below their thresholds end with a clearing although no bit is set.
`error_bit_follows_iff` says in which runs it does. -/

namespace Powerlink

variable {σ : Type} [ObjectDictionaryStorage σ]

/-! ### The steps of a run -/

/-- A step with the contexts around it. -/
structure CnStep (σ : Type) where
  before : CnContext σ
  move : CnMove
  after : CnContext σ

namespace CnStep

/-- The step has been made. -/
def Made (x : CnStep σ) : Prop := ∃ action, x.before.move x.move = some (action, x.after)

/-- A SoC is received. -/
def isSoc (x : CnStep σ) : Bool :=
  match x.move with
  | .receive input => input.frame.elim false fun frame => decide (CnContext.dllCnEvent frame = .soc)
  | _ => false

/-- The errors of the step. -/
def errors (x : CnStep σ) : List DllError := x.before.moveErrors x.move

/-- The counters in which the errors are counted. -/
def counters (x : CnStep σ) : CnErrorCounters := (x.before.errorView.cycled x.move).counters

/-- An error reaches its threshold. -/
def signals (x : CnStep σ) : Bool := x.counters.anySignalled x.errors

/-- A SoC clears the last error. -/
def clears (x : CnStep σ) : Bool := x.before.endsErrors x.move

/-- The steps lead from one context to the other; the newest comes first. -/
def Chain (c : CnContext σ) : List (CnStep σ) → CnContext σ → Prop
  | [], d => c = d
  | x :: steps, d => Chain c steps x.before ∧ x.Made ∧ x.after = d

theorem Chain.append {c d : CnContext σ} {earlier : List (CnStep σ)} (h : Chain c earlier d) :
    ∀ {later : List (CnStep σ)} {e : CnContext σ}, Chain d later e → Chain c (later ++ earlier) e
  | [], e, hlater => by
      obtain rfl : d = e := hlater
      exact h
  | x :: later, e, hlater => ⟨h.append hlater.1, hlater.2⟩

end CnStep

/-- The steps up to the first one that sends something, newest first. -/
def CnContext.steps : CnContext σ → List CnMove → List (CnStep σ)
  | _, [] => []
  | c, m :: ms =>
      match c.move m with
      | none => []
      | some (action, d) => (if action ≠ .noAction then [] else d.steps ms) ++ [⟨c, m, d⟩]

theorem CnContext.chain_steps {action : NodeAction} : ∀ {ms : List CnMove} {c d : CnContext σ},
    c.moves ms = some (action, d) → CnStep.Chain c (c.steps ms) d
  | [], c, d, h => (Prod.mk.inj (Option.some.inj h)).2
  | m :: ms, c, d, h => by
      rw [steps]
      cases hmove : c.move m with
      | none =>
          rw [moves, hmove] at h
          cases h
      | some p =>
          obtain ⟨sent, e⟩ := p
          rw [moves_cons hmove] at h
          have hfirst : CnStep.Chain c [⟨c, m, e⟩] e := ⟨rfl, ⟨sent, hmove⟩, rfl⟩
          dsimp only
          split_ifs at h ⊢ with hsent
          · obtain ⟨-, rfl⟩ := Prod.mk.inj (Option.some.inj h)
            exact hfirst
          · exact hfirst.append (chain_steps h)

namespace CnRun

/-- The context before the first call. -/
def first (r : CnRun σ) : CnContext σ := r.returned.getLast?.elim r.context CnReturned.before

/-- The steps of the calls that have returned, newest first. -/
def steps (r : CnRun σ) : List (CnStep σ) :=
  r.returned.flatMap fun x => x.before.steps x.call.moves

/-- The steps of a run lead from its first context to its last one. -/
theorem chain_throughout : Throughout (fun r : CnRun σ =>
    CnStep.Chain r.first r.steps r.context ∧ r.first.dllErrorManager.InRange) := by
  apply throughout_of_call
  · intro od mac machine consumers
    exact ⟨rfl, CnErrorCounters.inRange_new⟩
  · intro r call action d hr hcall
    have hfirst : first ⟨d, ⟨r.context, call, action, d⟩ :: r.returned⟩ = r.first := by
      unfold first
      dsimp only
      rw [List.getLast?_cons]
      cases r.returned.getLast? with
      | none => rfl
      | some x => rfl
    rw [hfirst]
    refine ⟨?_, hr.2⟩
    rw [CnContext.call_eq_moves] at hcall
    exact hr.1.append (CnContext.chain_steps hcall)

end CnRun

/-! ### The alarm -/

/-- The level of the counters and the error bit. -/
def CnContext.reading (c : CnContext σ) : Alarms.Reading :=
  ⟨c.dllErrorManager.level, c.errorBit.getD false⟩

/-- The alarm of a controlled node. -/
def errorMeter : Alarms.Meter (CnStep σ) where
  before x := x.before.reading
  after x := x.after.reading
  cycle := CnStep.isSoc
  quiet x := x.errors.isEmpty
  alarm := CnStep.signals
  clears := CnStep.clears

namespace CnStep

/-- What a step is for the alarm. -/
structure Sound (x : CnStep σ) : Prop where
  made : x.Made
  keeps : x.before.KeepsErrorBit x.move
  exists_before : x.before.errorBit ≠ none
  inRange : x.before.dllErrorManager.InRange

omit [ObjectDictionaryStorage σ] in
/-- A SoC lowers the counts before the errors are counted. -/
theorem counters_eq (x : CnStep σ) :
    x.counters = bif x.isSoc then x.before.dllErrorManager.onCycleComplete.2
      else x.before.dllErrorManager := by
  unfold counters isSoc ErrorView.cycled
  cases x.move with
  | receive input =>
      dsimp only
      cases input.frame with
      | none => rfl
      | some frame =>
          cases frame with
          | _ => rfl
  | _ => rfl

theorem Sound.inRange_counters {x : CnStep σ} (h : x.Sound) : x.counters.InRange := by
  rw [counters_eq]
  cases x.isSoc with
  | true => exact h.inRange.onCycleComplete
  | false => exact h.inRange

omit [ObjectDictionaryStorage σ] in
theorem clears_eq (x : CnStep σ) :
    x.clears = (x.isSoc && decide (x.before.dllErrorManager.level = 1)) := by
  rw [← CnErrorCounters.onCycleComplete_clears]
  unfold clears isSoc CnContext.endsErrors
  cases x.move with
  | receive input =>
      dsimp only
      cases input.frame with
      | none => rfl
      | some frame =>
          cases frame with
          | soc soc => exact (Bool.true_and _).symm
          | _ => rfl
  | _ => rfl

omit [ObjectDictionaryStorage σ] in
/-- The bit before the errors. -/
theorem bit_cycled (x : CnStep σ) :
    (x.before.errorView.cycled x.move).bit =
      x.before.errorBit.map (fun bit => bit && !x.clears) := by
  have hsame : x.before.errorBit.map (fun bit => bit && !false) = x.before.errorBit := by
    simp only [Bool.not_false, Bool.and_true, Option.map_id']
  unfold clears ErrorView.cycled CnContext.endsErrors
  cases x.move with
  | receive input =>
      dsimp only
      cases input.frame with
      | none => exact hsame.symm
      | some frame =>
          cases frame with
          | soc soc => rfl
          | _ => exact hsame.symm
  | _ => exact hsame.symm

theorem Sound.view {x : CnStep σ} (h : x.Sound) :
    x.after.dllErrorManager = x.counters.handled x.errors ∧
      x.after.errorBit =
        x.before.errorBit.map (fun bit => x.signals || (bit && !x.clears)) := by
  obtain ⟨action, hmove⟩ := h.made
  have hview := CnContext.move_errorView hmove h.keeps
  refine ⟨congrArg ErrorView.counters hview, ?_⟩
  refine (congrArg ErrorView.bit hview).trans ?_
  unfold ErrorView.handled
  dsimp only
  rw [bit_cycled, Option.map_map]
  rfl

theorem Sound.lawful {x : CnStep σ} (h : x.Sound) : errorMeter.Lawful x := by
  obtain ⟨hcounters, hbit⟩ := h.view
  constructor
  · exact x.clears_eq
  · change x.after.errorBit.getD false = (x.signals || (x.before.errorBit.getD false && !x.clears))
    rw [hbit]
    obtain ⟨bit, hsome⟩ := Option.ne_none_iff_exists'.mp h.exists_before
    rw [hsome]
    rfl
  · intro hquiet
    have hnone : x.errors = [] := List.isEmpty_iff.mp hquiet
    change x.after.dllErrorManager.level = x.before.dllErrorManager.level - x.isSoc.toNat
    rw [hcounters, hnone, counters_eq]
    cases x.isSoc with
    | true => exact x.before.dllErrorManager.level_onCycleComplete
    | false => rfl
  · intro hquiet
    have hnone : x.errors = [] := List.isEmpty_iff.mp hquiet
    change x.counters.anySignalled x.errors = false
    rw [hnone]
    rfl

/-- The steps of a chain are sound where they keep the bit. -/
theorem Chain.sound {c : CnContext σ} (hbit : c.errorBit ≠ none)
    (hrange : c.dllErrorManager.InRange) :
    ∀ {steps : List (CnStep σ)} {d : CnContext σ}, Chain c steps d →
      (∀ x ∈ steps, x.before.KeepsErrorBit x.move) →
      (∀ x ∈ steps, x.Sound) ∧ d.errorBit ≠ none ∧ d.dllErrorManager.InRange ∧
        errorMeter.Path c.reading steps d.reading
  | [], d, h, _ => by
      obtain rfl : c = d := h
      exact ⟨List.forall_mem_nil _, hbit, hrange, rfl⟩
  | x :: steps, d, ⟨hchain, hmade, hafter⟩, hkeeps => by
      rw [List.forall_mem_cons] at hkeeps
      obtain ⟨hsound, hexists, hinRange, hpath⟩ := hchain.sound hbit hrange hkeeps.2
      have hx : x.Sound := ⟨hmade, hkeeps.1, hexists, hinRange⟩
      obtain ⟨hcounters, hview⟩ := hx.view
      subst hafter
      refine ⟨List.forall_mem_cons.mpr ⟨hx, hsound⟩, ?_, ?_, hpath, rfl⟩
      · rw [hview, ne_eq, Option.map_eq_none_iff]
        exact hexists
      · rw [hcounters]
        exact hx.inRange_counters.handled x.errors

end CnStep

/-! ### Runs -/

namespace CnRun

/-- The register exists, and only the error handling writes its bit. -/
structure Undisturbed (r : CnRun σ) : Prop where
  register : r.first.errorBit ≠ none
  kept : ∀ x ∈ r.steps, x.before.KeepsErrorBit x.move

/-- The steps `later` follow a step `x` with an error that reaches its threshold; the last of them
is `z`.  They have no error and at least 15 SoC frames. -/
structure Calm (r : CnRun σ) (x : CnStep σ) (later : List (CnStep σ)) (z : CnStep σ) : Prop where
  split : ∃ newer earlier, r.steps = newer ++ (later ++ x :: earlier)
  signals : x.signals = true
  quiet : ∀ y ∈ later, y.errors = []
  cycles : 15 ≤ later.countP CnStep.isSoc
  last : later.head? = some z

/-- The bit follows the errors: after 15 SoC frames without an error it is clear, and one of them
has toggled the EN flag for the clearing; a clearing finds the bit set. -/
structure Follows (r : CnRun σ) : Prop where
  cleared : ∀ x later z, r.Calm x later z → z.after.errorBit = some false ∧
    ∃ y, later.filter CnStep.clears = [y] ∧ y.after.enFlag = !y.before.enFlag
  caused : ∀ x ∈ r.steps, x.clears = true → x.before.errorBit = some true

/-- Another class of errors has a count where an error reaches its threshold before such a calm, and
every clearing is behind an error that has reached its threshold since the last one. -/
structure Meets (r : CnRun σ) : Prop where
  others : ∀ x later z, r.Calm x later z → x.counters.OthersActive x.errors
  raised : ∀ newer x earlier, r.steps = newer ++ x :: earlier → x.clears = true →
    errorMeter.raised (r.first.errorBit.getD false) earlier = true

omit [ObjectDictionaryStorage σ] in
theorem getD_eq_true_iff {bit : Option Bool} : bit.getD false = true ↔ bit = some true := by
  cases bit with
  | none => exact iff_of_false Bool.false_ne_true nofun
  | some bit => exact Option.some_inj.symm

omit [ObjectDictionaryStorage σ] in
theorem getD_eq_false_iff {bit : Option Bool} (h : bit ≠ none) :
    bit.getD false = false ↔ bit = some false := by
  cases bit with
  | none => exact absurd rfl h
  | some bit => exact Option.some_inj.symm

section undisturbed

variable {r : CnRun σ} (hchain : CnStep.Chain r.first r.steps r.context)
  (hrange : r.first.dllErrorManager.InRange) (h : r.Undisturbed)

include hchain hrange h

/-- A calm ends with the bit cleared, and once, exactly if the counters are above zero at its
beginning. -/
theorem Undisturbed.cleared_iff {x z : CnStep σ} {later : List (CnStep σ)}
    (hcalm : r.Calm x later z) :
    (z.after.errorBit = some false ∧ ∃ y, later.filter CnStep.clears = [y]) ↔
      x.counters.OthersActive x.errors := by
  obtain ⟨hsound, -, -, hpath⟩ := hchain.sound h.register hrange h.kept
  obtain ⟨newer, earlier, hsplit⟩ := hcalm.split
  have hmem : ∀ y ∈ later, y ∈ r.steps := by
    intro y hy
    rw [hsplit]
    exact List.mem_append_right _ (List.mem_append_left _ hy)
  have hx : x.Sound := by
    apply hsound
    rw [hsplit]
    exact List.mem_append_right _ (List.mem_append_right _ List.mem_cons_self)
  rw [hsplit, Alarms.Meter.path_append] at hpath
  obtain ⟨s, hpath, -⟩ := hpath
  obtain ⟨t, ⟨-, ht⟩, hlater⟩ := Alarms.Meter.path_append.mp hpath
  obtain rfl : x.after.reading = t := ht
  -- the calm ends with the reading after its last step
  have hlast : z.after.reading = s := by
    cases later with
    | nil => cases hcalm.last
    | cons y rest =>
        obtain rfl := Option.some.inj hcalm.last
        exact hlater.2
  obtain ⟨hcounters, hbit⟩ := hx.view
  have hset : x.after.reading.bit = true := by
    change x.after.errorBit.getD false = true
    obtain ⟨bit, hsome⟩ := Option.ne_none_iff_exists'.mp hx.exists_before
    rw [hbit, hsome, hcalm.signals]
    rfl
  have hlevel : x.after.reading.level = (x.counters.handled x.errors).level := by
    rw [← hcounters]
    rfl
  have hlong : x.after.reading.level ≤ later.countP errorMeter.cycle := by
    rw [hlevel]
    exact (hx.inRange_counters.handled x.errors).level_lt.le.trans hcalm.cycles
  have hcleared := hlater.cleared_iff (fun y hy => (hsound y (hmem y hy)).lawful)
    (fun y hy => List.isEmpty_iff.mpr (hcalm.quiet y hy)) hset hlong
  rw [hlevel, CnErrorCounters.level_handled hx.inRange_counters hcalm.signals] at hcleared
  have hz : z ∈ later := List.mem_of_head? hcalm.last
  have hexists : z.after.errorBit ≠ none := by
    have hzsound := hsound z (hmem z hz)
    rw [hzsound.view.2, ne_eq, Option.map_eq_none_iff]
    exact hzsound.exists_before
  rw [← hcleared, ← hlast, ← getD_eq_false_iff hexists]
  rfl

/-- The bit before a step is the one that the steps before it have left. -/
theorem Undisturbed.raised_eq {x : CnStep σ} {newer earlier : List (CnStep σ)}
    (hsplit : r.steps = newer ++ x :: earlier) :
    x.before.errorBit = some true ↔
      errorMeter.raised (r.first.errorBit.getD false) earlier = true := by
  obtain ⟨hsound, -, -, hpath⟩ := hchain.sound h.register hrange h.kept
  rw [hsplit, Alarms.Meter.path_append] at hpath
  obtain ⟨t, ⟨hearlier, -⟩, -⟩ := hpath
  have hbit := hearlier.bit_eq fun y hy => (hsound y (by
    rw [hsplit]
    exact List.mem_append_right _ (List.mem_cons_of_mem _ hy))).lawful
  rw [← getD_eq_true_iff]
  exact Eq.congr_left hbit

/-- The bit follows the errors exactly in the runs that meet the condition. -/
theorem Undisturbed.follows_iff : r.Follows ↔ r.Meets := by
  constructor
  · intro hfollows
    constructor
    · intro x later z hcalm
      obtain ⟨hclear, y, hone, -⟩ := hfollows.cleared x later z hcalm
      exact (h.cleared_iff hchain hrange hcalm).mp ⟨hclear, y, hone⟩
    · intro newer x earlier hsplit hclears
      rw [← h.raised_eq hchain hrange hsplit]
      apply hfollows.caused x _ hclears
      rw [hsplit]
      exact List.mem_append_right _ List.mem_cons_self
  · intro hmeets
    constructor
    · intro x later z hcalm
      obtain ⟨hclear, y, hone⟩ :=
        (h.cleared_iff hchain hrange hcalm).mpr (hmeets.others x later z hcalm)
      obtain ⟨hy, hclears⟩ := List.mem_filter.mp (hone ▸ List.mem_singleton.mpr rfl)
      obtain ⟨newer, earlier, hsplit⟩ := hcalm.split
      obtain ⟨hsound, -⟩ := hchain.sound h.register hrange h.kept
      obtain ⟨action, hmove⟩ := (hsound y (by
        rw [hsplit]
        exact List.mem_append_right _ (List.mem_append_left _ hy))).made
      exact ⟨hclear, y, hone, CnContext.move_enFlag hmove hclears (hcalm.quiet y hy)⟩
    · intro x hx hclears
      obtain ⟨newer, earlier, hsplit⟩ := List.append_of_mem hx
      rw [h.raised_eq hchain hrange hsplit]
      exact hmeets.raised newer x earlier hsplit hclears

end undisturbed

/-- In every run the bit follows the errors exactly under the condition. -/
theorem error_bit_follows_iff :
    Throughout (fun r : CnRun σ => r.Undisturbed → (r.Follows ↔ r.Meets)) :=
  chain_throughout.mono fun _ hr hundisturbed => hundisturbed.follows_iff hr.1 hr.2

/-- Node 1 with an error register. -/
def registerDictionary : ObjectDictionary Empty :=
  (cnDictionary 1 10000 []).insert 0x1001
    ⟨.variable (.unsigned8 0), "ERR_ErrorRegister_U8", some .readOnly, none⟩

/-- A complete cycle in which only node 2 is polled. -/
def cycleOfNode2 (timeUs : ℕ) : List CnCall :=
  [.soc timeUs,
    .frame (.pReq (.new ⟨0, 0, 0, 0, 0, 240⟩ ⟨0, 0, 0, 0, 0, 2⟩ ⟨2⟩ ⟨false, false, false⟩ ⟨0⟩ []))
      timeUs,
    .frame (.soA (.new ⟨0, 0, 0, 0, 0, 240⟩ .nmtPreOperational2 {} .noService ⟨0⟩ ⟨0⟩)) timeUs]

/-- The second SoC brings the node into `NmtPreOperational2`, and the third one is a loss of the SoA,
which does not reach its threshold.  Eight cycles later the count is zero again, and the EN flag is
toggled for the clearing of a bit that was never set. -/
theorem clearing_without_bit :
    ¬ Throughout (fun r : CnRun Empty => r.first.errorBit ≠ none → r.Follows) := by
  intro h
  have hcaused := h.mono (fun r hr => show r.first.errorBit ≠ none →
      ∀ x ∈ r.steps, x.clears = true → x.before.errorBit = some true from
    fun hexists => (hr hexists).caused) registerDictionary ⟨0, 0, 0, 0, 0, 1⟩
    ([.soc 1, .soc 2] ++ (List.range 9).flatMap fun i => cycleOfNode2 (3 + i))
  revert hcaused
  apply Runs.not_always_reached
  decide +kernel

end CnRun

end Powerlink
