import Powerlink.Lib.Rotation
import Powerlink.Mn.Config
import Powerlink.Mn.Cycle

/-! # Isochronous polling

What `get_next_isochronous_node_to_poll` returns from any context: the first eligible node behind
the cursor (`getNextIsochronousNodeToPoll_cases`).  A node is eligible when its multiplexed cycle
is due and its tracked state is at least `PreOperational` and not `Stopped`; in the order of
`CnState` this admits `Missing`, and `polls_only_preop_or_operational_iff` says from which contexts
a missing node is polled.

`multiplexed_schedule` follows the polling over a full turn of the multiplexed cycle. -/

namespace Powerlink

namespace MnContext

variable {σ : Type}

/-! ### The next node -/

/-- The isochronous nodes behind the cursor. -/
def remainingNodes (c : MnContext σ) : List NodeId := c.isochronousNodes.drop c.nextIsochNodeIdx

/-- The scan stops behind the first eligible node. -/
theorem scanIsochronous_cases (c : MnContext σ) (k : UInt8) : ∀ (nodes : List NodeId) (idx : ℕ),
    (∃ skipped nodeId rest, nodes = skipped ++ nodeId :: rest ∧
      (∀ m ∈ skipped, c.isEligible k m = false) ∧ c.isEligible k nodeId = true ∧
      c.scanIsochronous k nodes idx = (some nodeId, idx + skipped.length + 1)) ∨
    (∀ m ∈ nodes, c.isEligible k m = false) ∧
      c.scanIsochronous k nodes idx = (none, idx + nodes.length)
  | [], idx => .inr ⟨by simp, rfl⟩
  | m :: nodes, idx => by
      cases hm : c.isEligible k m with
      | true =>
          refine .inl ⟨[], m, nodes, rfl, by simp, hm, ?_⟩
          simp only [scanIsochronous, hm, if_true, List.length_nil, Nat.add_zero]
      | false =>
          have hscan : c.scanIsochronous k (m :: nodes) idx =
              c.scanIsochronous k nodes (idx + 1) := by
            simp only [scanIsochronous, hm, Bool.false_eq_true, if_false]
          rw [hscan]
          obtain ⟨skipped, nodeId, rest, rfl, hskip, hnode, h⟩ | ⟨hnone, h⟩ :=
            scanIsochronous_cases c k nodes (idx + 1)
          · refine .inl ⟨m :: skipped, nodeId, rest, rfl, ?_, hnode, ?_⟩
            · simpa [hm] using hskip
            · rw [h, List.length_cons]
              congr 1
              omega
          · refine .inr ⟨by simpa [hm] using hnone, ?_⟩
            rw [h, List.length_cons]
            congr 1
            omega

/-- The next node to poll is the first eligible one behind the cursor, and the cursor moves behind
it; where there is none, the cursor moves behind the last node. -/
theorem getNextIsochronousNodeToPoll_cases (c : MnContext σ) (k : UInt8) :
    (∃ skipped nodeId rest idx, c.remainingNodes = skipped ++ nodeId :: rest ∧
      (∀ m ∈ skipped, c.isEligible k m = false) ∧ c.isEligible k nodeId = true ∧
      c.getNextIsochronousNodeToPoll k = (some nodeId, { c with nextIsochNodeIdx := idx }) ∧
      c.isochronousNodes.drop idx = rest) ∨
    ∃ idx, (∀ m ∈ c.remainingNodes, c.isEligible k m = false) ∧
      c.getNextIsochronousNodeToPoll k = (none, { c with nextIsochNodeIdx := idx }) ∧
      c.isochronousNodes.drop idx = [] := by
  obtain ⟨skipped, nodeId, rest, hrem, hskip, hnode, h⟩ | ⟨hnone, h⟩ :=
    c.scanIsochronous_cases k c.remainingNodes c.nextIsochNodeIdx
  · refine .inl ⟨skipped, nodeId, rest, c.nextIsochNodeIdx + skipped.length + 1, hrem, hskip, hnode,
      ?_, ?_⟩
    · unfold remainingNodes at h
      simp only [getNextIsochronousNodeToPoll, h]
    · rw [Nat.add_assoc, ← List.drop_drop]
      show c.remainingNodes.drop (skipped.length + 1) = rest
      rw [hrem, ← List.drop_drop, List.drop_left, List.drop_one, List.tail_cons]
  · refine .inr ⟨c.nextIsochNodeIdx + c.remainingNodes.length, hnone, ?_, ?_⟩
    · unfold remainingNodes at h ⊢
      simp only [getNextIsochronousNodeToPoll, h]
    · rw [← List.drop_drop]
      exact List.drop_length

theorem getNextIsochronousNodeToPoll_fst (c : MnContext σ) (k : UInt8) :
    (c.getNextIsochronousNodeToPoll k).1 = c.remainingNodes.find? (c.isEligible k) := by
  obtain ⟨skipped, nodeId, rest, idx, hrem, hskip, hnode, h, -⟩ | ⟨idx, hnone, h, -⟩ :=
    c.getNextIsochronousNodeToPoll_cases k
  · have hnot : skipped.find? (c.isEligible k) = none := by simpa using hskip
    rw [h, hrem, List.find?_append, hnot, Option.none_or, List.find?_cons_of_pos hnode]
  · rw [h]
    symm
    simpa using hnone

/-- The two scans agree. -/
theorem hasMoreIsochronousNodes_eq (c : MnContext σ) (k : UInt8) :
    c.hasMoreIsochronousNodes k = (c.getNextIsochronousNodeToPoll k).1.isSome := by
  rw [getNextIsochronousNodeToPoll_fst, Bool.eq_iff_iff, List.find?_isSome,
    hasMoreIsochronousNodes, List.any_eq_true]
  rfl

/-! ### The states of polled nodes -/

/-- The tracked states in which a node takes part in the isochronous phase. -/
def TakesPart (state : CnState) : Prop := state = .preOperational ∨ state = .operational

instance (state : CnState) : Decidable (TakesPart state) :=
  inferInstanceAs (Decidable (_ ∨ _))

theorem isPollable_iff (state : CnState) :
    isPollable state = true ↔ TakesPart state ∨ state = .missing := by
  cases state <;> decide

theorem isEligible_iff (c : MnContext σ) (k : UInt8) (nodeId : NodeId) :
    c.isEligible k nodeId = true ↔ c.shouldPollThisCycle k nodeId = true ∧
      (TakesPart (c.nodeInfo.state nodeId) ∨ c.nodeInfo.state nodeId = .missing) := by
  rw [isEligible, Bool.and_eq_true, isPollable_iff]

/-- Only nodes that take part are polled exactly when, behind the cursor, every missing node that
is due stands behind a due node that takes part. -/
theorem polls_only_preop_or_operational_iff (c : MnContext σ) (k : UInt8) :
    (∀ nodeId, (c.getNextIsochronousNodeToPoll k).1 = some nodeId →
      TakesPart (c.nodeInfo.state nodeId)) ↔
    ∀ front nodeId back, c.remainingNodes = front ++ nodeId :: back →
      c.shouldPollThisCycle k nodeId = true → c.nodeInfo.state nodeId = .missing →
      ∃ m ∈ front, c.shouldPollThisCycle k m = true ∧ TakesPart (c.nodeInfo.state m) := by
  rw [getNextIsochronousNodeToPoll_fst]
  constructor
  · intro h front nodeId back hrem hdue hmissing
    rw [hrem, List.find?_append] at h
    cases hfront : front.find? (c.isEligible k) with
    | some m =>
        have hm : TakesPart (c.nodeInfo.state m) := h m (by rw [hfront, Option.some_or])
        have heligible := List.find?_some hfront
        exact ⟨m, List.mem_of_find?_eq_some hfront, ((c.isEligible_iff k m).mp heligible).1, hm⟩
    | none =>
        have heligible : c.isEligible k nodeId = true :=
          (c.isEligible_iff k nodeId).mpr ⟨hdue, .inr hmissing⟩
        have hn : TakesPart (c.nodeInfo.state nodeId) :=
          h nodeId (by rw [hfront, Option.none_or, List.find?_cons_of_pos heligible])
        rw [hmissing] at hn
        exact absurd hn (by decide)
  · intro h nodeId hfind
    obtain ⟨heligible, front, back, hrem, hfront⟩ := List.find?_eq_some_iff_append.mp hfind
    obtain ⟨hdue, htakes | hmissing⟩ := (c.isEligible_iff k nodeId).mp heligible
    · exact htakes
    · obtain ⟨m, hm, hdue', htakes⟩ := h front nodeId back hrem hdue hmissing
      have hnot := hfront m hm
      rw [(c.isEligible_iff k m).mpr ⟨hdue', .inl htakes⟩] at hnot
      cases hnot

/-- A managing node with one isochronous node, which it has declared missing. -/
def missingNode : MnContext Empty :=
  ((startedNode 0 [9]).get (by decide +kernel)).track ⟨1⟩ .missing

/-- A node that was declared missing is polled. -/
theorem missing_node_is_polled :
    ¬ ∀ (c : MnContext Empty) (k : UInt8) (nodeId : NodeId),
      (c.getNextIsochronousNodeToPoll k).1 = some nodeId → TakesPart (c.nodeInfo.state nodeId) := by
  intro h
  have hpoll : (missingNode.getNextIsochronousNodeToPoll 0).1 = some ⟨1⟩ := by decide +kernel
  exact absurd (h missingNode 0 ⟨1⟩ hpoll) (by decide +kernel)

/-! ### A turn of the multiplexed cycle -/

/-- The multiplexed cycle that `start_cycle` enters. -/
def nextMultiplexCycle (len k : UInt8) : UInt8 := (k + 1) % len

/-- The multiplexed cycles that follow. -/
def cyclesFrom (len : UInt8) : UInt8 → ℕ → List UInt8
  | _, 0 => []
  | k, n + 1 => nextMultiplexCycle len k :: cyclesFrom len (nextMultiplexCycle len k) n

theorem nextMultiplexCycle_lt {len : UInt8} (hlen : 0 < len) (k : UInt8) :
    (nextMultiplexCycle len k).toNat < len.toNat := by
  rw [nextMultiplexCycle, UInt8.toNat_mod]
  exact Nat.mod_lt _ hlen

/-- The counter does not overflow once it is below the length. -/
theorem toNat_nextMultiplexCycle {len k : UInt8} (hk : k.toNat < len.toNat) :
    (nextMultiplexCycle len k).toNat = (k.toNat + 1) % len.toNat := by
  have hlen := len.toNat_lt
  have hsum : (k + 1).toNat = k.toNat + 1 := by
    rw [UInt8.toNat_add, UInt8.toNat_one]
    exact Nat.mod_eq_of_lt (by omega)
  rw [nextMultiplexCycle, UInt8.toNat_mod, hsum]

theorem length_cyclesFrom (len : UInt8) : ∀ (n : ℕ) (k : UInt8),
    (cyclesFrom len k n).length = n
  | 0, _ => rfl
  | n + 1, k => by rw [cyclesFrom, List.length_cons, length_cyclesFrom len n]

theorem pred_lt_of_le {k len : UInt8} (hpos : 0 < k) (hle : k ≤ len) : k - 1 < len := by
  rw [UInt8.lt_iff_toNat_lt] at hpos ⊢
  rw [UInt8.le_iff_toNat_le] at hle
  have hone : (1 : UInt8) ≤ k := by
    rw [UInt8.le_iff_toNat_le]
    exact hpos
  rw [UInt8.toNat_sub_of_le _ _ hone]
  simp only [UInt8.toNat_zero, UInt8.toNat_one] at hpos ⊢
  omega

theorem map_toNat_cyclesFrom {len : UInt8} (hlen : 0 < len) : ∀ (n : ℕ) (k : UInt8),
    (cyclesFrom len k n).map UInt8.toNat =
      Rotation.visits len.toNat (nextMultiplexCycle len k).toNat n
  | 0, _ => rfl
  | n + 1, k => by
      rw [cyclesFrom, List.map_cons, map_toNat_cyclesFrom hlen n, Rotation.visits,
        toNat_nextMultiplexCycle (nextMultiplexCycle_lt hlen k)]

/-- A full turn enters every multiplexed cycle once. -/
theorem count_cyclesFrom {len v : UInt8} (hlen : 0 < len) (hv : v < len) (k : UInt8) :
    (cyclesFrom len k len.toNat).count v = 1 := by
  have hinj : Function.Injective UInt8.toNat := fun _ _ => UInt8.toNat_inj.mp
  rw [← List.count_map_of_injective _ _ hinj, map_toNat_cyclesFrom hlen]
  exact Rotation.count_visits (nextMultiplexCycle_lt hlen k) hv

/-- What is in one of the cycles only is counted as often as that cycle comes. -/
theorem count_flatMap_cycles {f : UInt8 → List NodeId} {nodeId : NodeId} {v : UInt8} {m : ℕ}
    (hf : ∀ k, (f k).count nodeId = if k = v then m else 0) : ∀ ks : List UInt8,
    (ks.flatMap f).count nodeId = ks.count v * m
  | [] => (Nat.zero_mul m).symm
  | k :: ks => by
      rw [List.flatMap_cons, List.count_append, count_flatMap_cycles hf ks, hf, List.count_cons]
      by_cases hk : k = v
      · simp only [hk, if_true, beq_self_eq_true, Nat.add_mul, Nat.one_mul]
        omega
      · simp only [hk, if_false, beq_iff_eq, Nat.zero_add, Nat.add_zero]

/-- How often a pollable node is polled in a cycle. -/
theorem count_filter_isEligible (c : MnContext σ) (k : UInt8) {nodeId : NodeId}
    (hstate : isPollable (c.nodeInfo.state nodeId) = true) :
    (c.isochronousNodes.filter (c.isEligible k)).count nodeId =
      if c.shouldPollThisCycle k nodeId then c.isochronousNodes.count nodeId else 0 := by
  have heligible : c.isEligible k nodeId = c.shouldPollThisCycle k nodeId := by
    rw [isEligible, hstate, Bool.and_true]
  split_ifs with hdue
  · exact List.count_filter (heligible.trans hdue)
  · apply List.count_eq_zero_of_not_mem
    intro hmem
    exact hdue (heligible.symm.trans (List.mem_filter.mp hmem).2)

/-- A node with an assignment is due in one cycle. -/
theorem shouldPollThisCycle_iff (c : MnContext σ) {nodeId : NodeId}
    (hlen : 0 < c.multiplexCycleLen) (hpos : 0 < c.assignedCycle nodeId) (k : UInt8) :
    c.shouldPollThisCycle k nodeId = true ↔ k = c.assignedCycle nodeId - 1 := by
  have hne : c.assignedCycle nodeId ≠ 0 := by
    intro h
    rw [h] at hpos
    exact absurd hpos (by decide)
  simp only [shouldPollThisCycle, hne, hlen, decide_false, decide_true, Bool.false_or,
    Bool.true_and, decide_eq_true_eq]
  constructor
  · intro h
    rw [h, UInt8.add_sub_cancel]
  · intro h
    rw [h, UInt8.sub_add_cancel]

theorem assignedCycle_le (c : MnContext σ)
    (hassign : ∀ p ∈ c.multiplexAssign.entries, p.2 ≤ c.multiplexCycleLen) (nodeId : NodeId) :
    c.assignedCycle nodeId ≤ c.multiplexCycleLen := by
  unfold assignedCycle
  cases h : c.multiplexAssign.get? nodeId with
  | none => exact UInt8.zero_le
  | some k => exact hassign (nodeId, k) ((SortedMap.mem_entries_iff _ _ _).mpr h)

/-! ### The multiplexed schedule -/

/-- What decides the polling order: the configuration and the tracked nodes. -/
structure SameSchedule (c d : MnContext σ) : Prop where
  isochronousNodes : d.isochronousNodes = c.isochronousNodes
  multiplexAssign : d.multiplexAssign = c.multiplexAssign
  multiplexCycleLen : d.multiplexCycleLen = c.multiplexCycleLen
  nodeInfo : d.nodeInfo = c.nodeInfo

theorem SameSchedule.trans {c d e : MnContext σ} (h : SameSchedule c d) (h' : SameSchedule d e) :
    SameSchedule c e where
  isochronousNodes := h'.isochronousNodes.trans h.isochronousNodes
  multiplexAssign := h'.multiplexAssign.trans h.multiplexAssign
  multiplexCycleLen := h'.multiplexCycleLen.trans h.multiplexCycleLen
  nodeInfo := h'.nodeInfo.trans h.nodeInfo

theorem SameSchedule.isEligible {c d : MnContext σ} (h : SameSchedule c d) (k : UInt8) :
    d.isEligible k = c.isEligible k := by
  funext nodeId
  unfold MnContext.isEligible shouldPollThisCycle assignedCycle
  rw [h.multiplexAssign, h.multiplexCycleLen, h.nodeInfo]

/-- `get_next_isochronous_node_to_poll` called until it returns `None`: the nodes returned.  The
first argument bounds the number of calls, and `none` says that it does not suffice. -/
def pollUntilNone (k : UInt8) : ℕ → MnContext σ → Option (List NodeId × MnContext σ)
  | 0, _ => none
  | fuel + 1, c =>
      match c.getNextIsochronousNodeToPoll k with
      | (none, c) => some ([], c)
      | (some nodeId, c) => (pollUntilNone k fuel c).map (fun r => (nodeId :: r.1, r.2))

/-- The calls return the eligible nodes behind the cursor, in their order. -/
theorem pollUntilNone_eq (k : UInt8) : ∀ (fuel : ℕ) (c : MnContext σ),
    c.remainingNodes.length < fuel →
    ∃ idx, c.pollUntilNone k fuel =
      some (c.remainingNodes.filter (c.isEligible k), { c with nextIsochNodeIdx := idx })
  | 0, c, hfuel => absurd hfuel (Nat.not_lt_zero _)
  | fuel + 1, c, hfuel => by
      obtain ⟨skipped, nodeId, rest, idx, hrem, hskip, hnode, h, hrest⟩ | ⟨idx, hnone, h, -⟩ :=
        c.getNextIsochronousNodeToPoll_cases k
      · have hskipped : skipped.filter (c.isEligible k) = [] :=
          List.filter_eq_nil_iff.mpr (fun m hm => by simp [hskip m hm])
        obtain ⟨idx', ih⟩ := pollUntilNone_eq k fuel { c with nextIsochNodeIdx := idx } (by
          show (c.isochronousNodes.drop idx).length < fuel
          rw [hrem, List.length_append, List.length_cons] at hfuel
          rw [hrest]
          omega)
        refine ⟨idx', ?_⟩
        rw [pollUntilNone, h]
        show (pollUntilNone k fuel { c with nextIsochNodeIdx := idx }).map _ = _
        rw [ih, hrem, List.filter_append, hskipped, List.filter_cons_of_pos hnode]
        show some (nodeId :: (c.isochronousNodes.drop idx).filter (c.isEligible k), _) = _
        rw [hrest]
        rfl
      · refine ⟨idx, ?_⟩
        have hfilter : c.remainingNodes.filter (c.isEligible k) = [] :=
          List.filter_eq_nil_iff.mpr (fun m hm => by simp [hnone m hm])
        rw [pollUntilNone, h, hfilter]

section schedule

variable [ObjectDictionaryStorage σ]

/-- `start_cycle` keeps the schedule and moves the cursor to the front. -/
theorem startCycle_schedule (c : MnContext σ) (t : ℕ) (hlen : 0 < c.multiplexCycleLen) :
    SameSchedule c (c.startCycle t).2 ∧ (c.startCycle t).2.nextIsochNodeIdx = 0 ∧
      (c.startCycle t).2.currentMultiplexCycle =
        nextMultiplexCycle c.multiplexCycleLen c.currentMultiplexCycle := by
  obtain ⟨m, e, h⟩ := (c.beginCycle t).handleDllEvent_of_ne
    (show DllMsEvent.socTrig ≠ .presTimeout by decide)
    ((c.beginCycle t).buildSocFrame (c.beginCycle t).currentMultiplexCycle
      (c.beginCycle t).multiplexCycleLen)
  unfold startCycle
  simp only [h]
  refine ⟨⟨rfl, rfl, rfl, rfl⟩, rfl, ?_⟩
  show (if 0 < c.multiplexCycleLen then _ else _) = _
  rw [if_pos hlen]
  rfl

/-- A call of `start_cycle` and the polling after it: the multiplexed cycle and the nodes
polled. -/
def pollCycle (c : MnContext σ) (t : ℕ) : Option ((UInt8 × List NodeId) × MnContext σ) :=
  let c := (c.startCycle t).2
  (c.pollUntilNone c.currentMultiplexCycle (c.isochronousNodes.length + 1)).map
    (fun r => ((c.currentMultiplexCycle, r.1), r.2))

/-- Consecutive cycles, started at the given times. -/
def pollCycles : MnContext σ → List ℕ → Option (List (UInt8 × List NodeId))
  | _, [] => some []
  | c, t :: times => do
      let (polls, c) ← c.pollCycle t
      let rest ← pollCycles c times
      some (polls :: rest)

theorem pollCycle_eq (c : MnContext σ) (t : ℕ) (hlen : 0 < c.multiplexCycleLen) :
    ∃ d, SameSchedule c d ∧
      d.currentMultiplexCycle = nextMultiplexCycle c.multiplexCycleLen c.currentMultiplexCycle ∧
      c.pollCycle t = some ((d.currentMultiplexCycle,
        c.isochronousNodes.filter (c.isEligible d.currentMultiplexCycle)), d) := by
  obtain ⟨hsame, hidx, hcycle⟩ := c.startCycle_schedule t hlen
  unfold pollCycle
  generalize (c.startCycle t).2 = s at hsame hidx hcycle ⊢
  have hrem : s.remainingNodes = c.isochronousNodes := by
    rw [remainingNodes, hidx, List.drop_zero, hsame.isochronousNodes]
  obtain ⟨idx, hpoll⟩ := s.pollUntilNone_eq s.currentMultiplexCycle (s.isochronousNodes.length + 1)
    (by rw [hrem, hsame.isochronousNodes]; omega)
  refine ⟨{ s with nextIsochNodeIdx := idx }, hsame.trans ⟨rfl, rfl, rfl, rfl⟩, hcycle, ?_⟩
  simp only [hpoll, hrem, hsame.isEligible, Option.map_some]

theorem pollCycles_eq : ∀ (times : List ℕ) (c : MnContext σ), 0 < c.multiplexCycleLen →
    c.pollCycles times =
      some ((cyclesFrom c.multiplexCycleLen c.currentMultiplexCycle times.length).map
        (fun k => (k, c.isochronousNodes.filter (c.isEligible k))))
  | [], _, _ => rfl
  | t :: times, c, hlen => by
      obtain ⟨d, hsame, hcycle, hpoll⟩ := c.pollCycle_eq t hlen
      have ih := pollCycles_eq times d (hsame.multiplexCycleLen ▸ hlen)
      rw [pollCycles, hpoll]
      simp only [Option.bind_eq_bind, Option.bind_some, ih, hcycle, hsame.multiplexCycleLen,
        hsame.isochronousNodes, hsame.isEligible]
      rfl

/-- Over a full turn of the multiplexed cycle every cycle polls its eligible nodes in list order,
a continuous node as often as it is listed in every cycle, and a node with an assignment as often
as it is listed, all in its cycle.  The two scans agree before every call. -/
theorem multiplexed_schedule (c : MnContext σ) (times : List ℕ)
    (hlen : 0 < c.multiplexCycleLen)
    (hassign : ∀ p ∈ c.multiplexAssign.entries, p.2 ≤ c.multiplexCycleLen)
    (htimes : times.length = c.multiplexCycleLen.toNat) :
    (∃ polls, c.pollCycles times = some polls ∧ polls.length = times.length ∧
      (∀ p ∈ polls, p.2 = c.isochronousNodes.filter (c.isEligible p.1)) ∧
      (∀ nodeId, isPollable (c.nodeInfo.state nodeId) = true → c.assignedCycle nodeId = 0 →
        ∀ p ∈ polls, p.2.count nodeId = c.isochronousNodes.count nodeId) ∧
      ∀ nodeId, isPollable (c.nodeInfo.state nodeId) = true → 0 < c.assignedCycle nodeId →
        (polls.flatMap Prod.snd).count nodeId = c.isochronousNodes.count nodeId ∧
        ∀ p ∈ polls, nodeId ∈ p.2 → p.1 + 1 = c.assignedCycle nodeId) ∧
    ∀ (d : MnContext σ) (k : UInt8),
      d.hasMoreIsochronousNodes k = true ↔ (d.getNextIsochronousNodeToPoll k).1.isSome := by
  refine ⟨⟨_, c.pollCycles_eq times hlen, ?_, ?_, ?_, ?_⟩, ?_⟩
  · rw [List.length_map, length_cyclesFrom]
  · intro p hp
    obtain ⟨k, -, rfl⟩ := List.mem_map.mp hp
    rfl
  · intro nodeId hstate hzero p hp
    obtain ⟨k, -, rfl⟩ := List.mem_map.mp hp
    rw [c.count_filter_isEligible k hstate, shouldPollThisCycle, hzero]
    rfl
  · intro nodeId hstate hpos
    have hdue := c.shouldPollThisCycle_iff hlen hpos
    constructor
    · have hcount : ∀ k, (c.isochronousNodes.filter (c.isEligible k)).count nodeId =
          if k = c.assignedCycle nodeId - 1 then c.isochronousNodes.count nodeId else 0 := by
        intro k
        rw [c.count_filter_isEligible k hstate]
        exact if_congr (hdue k) rfl rfl
      have hlt : c.assignedCycle nodeId - 1 < c.multiplexCycleLen :=
        pred_lt_of_le hpos (c.assignedCycle_le hassign nodeId)
      rw [List.flatMap_map, htimes, count_flatMap_cycles hcount, count_cyclesFrom hlen hlt,
        Nat.one_mul]
    · intro p hp hmem
      obtain ⟨k, -, rfl⟩ := List.mem_map.mp hp
      have heligible := (List.mem_filter.mp hmem).2
      rw [(hdue k).mp ((c.isEligible_iff k nodeId).mp heligible).1, UInt8.sub_add_cancel]
  · intro d k
    rw [hasMoreIsochronousNodes_eq]

end schedule

/-- Two operational nodes, the second one in the third multiplexed cycle. -/
def scheduledNode : MnContext Empty :=
  let c := (startedNode 0 [9, 9]).get (by decide +kernel)
  { (c.track ⟨1⟩ .operational).track ⟨2⟩ .operational with
    multiplexAssign := c.multiplexAssign.insert ⟨2⟩ 3 }

theorem multiplexed_schedule_of_two :
    (∃ polls, scheduledNode.pollCycles (List.range 8) = some polls ∧ polls.length = 8 ∧
      (∀ p ∈ polls,
        p.2 = scheduledNode.isochronousNodes.filter (scheduledNode.isEligible p.1)) ∧
      (∀ nodeId, isPollable (scheduledNode.nodeInfo.state nodeId) = true →
        scheduledNode.assignedCycle nodeId = 0 →
        ∀ p ∈ polls, p.2.count nodeId = scheduledNode.isochronousNodes.count nodeId) ∧
      ∀ nodeId, isPollable (scheduledNode.nodeInfo.state nodeId) = true →
        0 < scheduledNode.assignedCycle nodeId →
        (polls.flatMap Prod.snd).count nodeId = scheduledNode.isochronousNodes.count nodeId ∧
        ∀ p ∈ polls, nodeId ∈ p.2 → p.1 + 1 = scheduledNode.assignedCycle nodeId) ∧
    ∀ (d : MnContext Empty) (k : UInt8),
      d.hasMoreIsochronousNodes k = true ↔ (d.getNextIsochronousNodeToPoll k).1.isSome :=
  multiplexed_schedule scheduledNode (List.range 8) (by decide +kernel) (by decide +kernel)
    (by decide +kernel)

/-- A node that is listed twice is polled twice in a cycle. -/
theorem listed_twice_is_polled_twice :
    ¬ ∀ (c : MnContext Empty) (times : List ℕ), 0 < c.multiplexCycleLen →
      (∀ p ∈ c.multiplexAssign.entries, p.2 ≤ c.multiplexCycleLen) →
      times.length = c.multiplexCycleLen.toNat →
      ∃ polls, c.pollCycles times = some polls ∧
        ∀ nodeId ∈ c.isochronousNodes, isPollable (c.nodeInfo.state nodeId) = true →
          c.assignedCycle nodeId = 0 → ∀ p ∈ polls, p.2.count nodeId = 1 := by
  intro h
  let c : MnContext Empty := { scheduledNode with isochronousNodes := [⟨1⟩, ⟨1⟩] }
  have hpolls : c.pollCycles (List.range 8) =
      some ((cyclesFrom 8 0 8).map (fun k => (k, [⟨1⟩, ⟨1⟩]))) := by
    decide +kernel
  obtain ⟨polls, hsome, hcount⟩ := h c (List.range 8) (by decide +kernel) (by decide +kernel)
    (by decide +kernel)
  obtain rfl := Option.some.inj (hpolls.symm.trans hsome)
  have htwice := hcount ⟨1⟩ (by decide +kernel) (by decide +kernel) (by decide +kernel)
    (1, [⟨1⟩, ⟨1⟩]) (by decide +kernel)
  exact absurd htwice (by decide +kernel)

end MnContext

end Powerlink
