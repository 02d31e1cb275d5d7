import Powerlink.Lib.RoundRobin
import Powerlink.Mn.Scheduler

/-! # The round robin of the identification

`find_next_node_to_identify` goes over the ids 1 to 239, from the one behind the node that was
polled last.  Its loop ends when it meets its first id a second time.  That id is not wrapped:
behind node 239 it is 240, which the loop never meets.

Where the loop ends it is a turn of the round robin over the unidentified nodes
(`finds_iff`), and it ends unless node 239 was polled last and every node is identified
(`identification_in_turn_iff`). -/

namespace Powerlink

/-- The node is configured and not identified: `Unknown` or `Missing`. -/
def NodeTable.isUnidentified (nodes : NodeTable) (nodeId : NodeId) : Bool :=
  match nodes.get? nodeId with
  | some info => decide (info.state = .unknown ∨ info.state = .missing)
  | none => false

/-- Consecutive ids. -/
def idsFrom (first n : ℕ) : List NodeId := (List.range' first n).map (fun v => ⟨UInt8.ofNat v⟩)

/-- The ids of controlled nodes from 1 to 239. -/
def cnIds : List NodeId := idsFrom 1 239

/-- The ids in cyclic order behind `last`, which itself comes last. -/
def cnIdsAfter (last : NodeId) : List NodeId := cnIds.rotate last.id.toNat

/-- `find_next_node_to_identify` ends with a result when node `last` was polled last. -/
def Finds (nodes : NodeTable) (last : NodeId) (result : Option NodeId) : Prop :=
  ∃ rounds, MnContext.identifyLoop nodes (last.id + 1) rounds (last.id + 1) false = some result

/-- The nodes found by calls one after the other. -/
def FindsInTurn (nodes : NodeTable) : NodeId → List NodeId → Prop
  | _, [] => True
  | last, nodeId :: rest => Finds nodes last (some nodeId) ∧ FindsInTurn nodes nodeId rest

/-- What earlier calls leave in `last_ident_poll_node_id`, whatever the nodes were then. -/
inductive LeftByCalls : NodeId → Prop
  | initial : LeftByCalls ⟨0⟩
  | call {nodes : NodeTable} {last nodeId : NodeId} (h : LeftByCalls last)
      (hfinds : Finds nodes last (some nodeId)) : LeftByCalls nodeId

/-- The identification is a round robin from `last` on: a call ends, it finds nothing when every
node is identified and else the first unidentified node in cyclic order, and as many calls as there
are unidentified nodes find them all. -/
structure IdentifiesInTurn (nodes : NodeTable) (last : NodeId) : Prop where
  ends : ∃ result, Finds nodes last result
  none_iff : Finds nodes last none ↔ ∀ nodeId ∈ cnIds, nodes.isUnidentified nodeId = false
  first_iff : ∀ nodeId, Finds nodes last (some nodeId) ↔
    (cnIdsAfter last).find? nodes.isUnidentified = some nodeId
  all : ∃ found, FindsInTurn nodes last found ∧ found.Perm (cnIds.filter nodes.isUnidentified)

namespace MnContext

/-! ### Rounds of the loop -/

variable {nodes : NodeTable} {start : UInt8} {wrapped : Bool}

/-- The wrap at the beginning of a round. -/
def wrapId (current : UInt8) : UInt8 := if current = 0 ∨ 239 < current then 1 else current

theorem wrapId_of_le {current : UInt8} (h : current ≠ 0) (h' : current ≤ 239) :
    wrapId current = current := by
  apply if_neg
  rintro (h0 | hlt)
  · exact h h0
  · exact absurd h' (UInt8.not_le.mpr hlt)

theorem wrapId_le (current : UInt8) : wrapId current ≠ 0 ∧ wrapId current ≤ 239 := by
  unfold wrapId
  split_ifs with h
  · decide
  · obtain ⟨h0, hlt⟩ := not_or.mp h
    exact ⟨h0, UInt8.not_lt.mp hlt⟩

/-- One round of the loop. -/
theorem identifyLoop_succ (nodes : NodeTable) (start current : UInt8) (rounds : ℕ)
    (wrapped : Bool) :
    identifyLoop nodes start (rounds + 1) current wrapped =
      if wrapId current = start ∧ wrapped then some none
      else if nodes.isUnidentified ⟨wrapId current⟩ then some (some ⟨wrapId current⟩)
      else identifyLoop nodes start rounds (wrapId current + 1)
        (wrapped || decide (wrapId current = start)) := by
  rw [identifyLoop]
  unfold wrapId NodeTable.isUnidentified
  dsimp only
  generalize (if current = 0 ∨ 239 < current then 1 else current) = id
  by_cases hend : id = start ∧ wrapped = true
  · rw [if_pos hend, if_pos hend]
  · rw [if_neg hend, if_neg hend]
    cases nodes.get? ⟨id⟩ with
    | none => rfl
    | some info =>
        obtain ⟨state, _, _, _, _, _, _, _, _⟩ := info
        cases state <;> rfl

/-- Behind 239 the loop goes on with 1. -/
theorem identifyLoop_wrap (nodes : NodeTable) (start : UInt8) (rounds : ℕ) (wrapped : Bool) :
    identifyLoop nodes start rounds 240 wrapped = identifyLoop nodes start rounds 1 wrapped := by
  cases rounds with
  | zero => rfl
  | succ rounds => rfl

/-- A result does not depend on the number of rounds that are left. -/
theorem identifyLoop_mono {current : UInt8} {result : Option NodeId} {rounds more : ℕ}
    (hle : rounds ≤ more) (h : identifyLoop nodes start rounds current wrapped = some result) :
    identifyLoop nodes start more current wrapped = some result := by
  induction rounds generalizing more current wrapped with
  | zero => cases h
  | succ rounds ih =>
      obtain ⟨more, rfl⟩ : ∃ m, more = m + 1 := ⟨more - 1, by omega⟩
      rw [identifyLoop_succ] at h ⊢
      split_ifs at h ⊢
      · exact h
      · exact h
      · exact ih (by omega) h

theorem toNat_ofNat_id {v : ℕ} (h : v ≤ 240) : (UInt8.ofNat v).toNat = v := by
  apply UInt8.toNat_ofNat_of_lt'
  show v < 256
  omega

theorem wrapId_ofNat {v : ℕ} (h1 : 1 ≤ v) (h239 : v ≤ 239) :
    wrapId (UInt8.ofNat v) = UInt8.ofNat v := by
  have hnat : (UInt8.ofNat v).toNat = v := toNat_ofNat_id (by omega)
  apply wrapId_of_le
  · intro h0
    have hzero : (UInt8.ofNat v).toNat = 0 := congrArg UInt8.toNat h0
    omega
  · rw [UInt8.le_iff_toNat_le, hnat]
    exact h239

theorem ofNat_succ (v : ℕ) : UInt8.ofNat v + 1 = UInt8.ofNat (v + 1) := by
  rw [UInt8.ofNat_add]
  rfl

theorem idsFrom_succ (first n : ℕ) :
    idsFrom first (n + 1) = ⟨UInt8.ofNat first⟩ :: idsFrom (first + 1) n := by
  unfold idsFrom
  rw [List.range'_succ, List.map_cons]

/-- The rounds over consecutive ids, none of which is the first one. -/
theorem identifyLoop_ids (n : ℕ) : ∀ {first rounds : ℕ}, 1 ≤ first → first + n ≤ 240 →
    (∀ v, first ≤ v → v < first + n → UInt8.ofNat v ≠ start) →
    identifyLoop nodes start (n + rounds) (UInt8.ofNat first) wrapped =
      match (idsFrom first n).find? nodes.isUnidentified with
      | some nodeId => some (some nodeId)
      | none => identifyLoop nodes start rounds (UInt8.ofNat (first + n)) wrapped := by
  induction n with
  | zero =>
      intro first rounds _ _ _
      rw [Nat.zero_add]
      rfl
  | succ n ih =>
      intro first rounds h1 h240 hne
      have hstart : UInt8.ofNat first ≠ start := hne first le_rfl (by omega)
      have hrest := @ih (first + 1) rounds (by omega) (by omega)
        (fun v hv hlt => hne v (by omega) (by omega))
      rw [show n + 1 + rounds = n + rounds + 1 by omega, identifyLoop_succ,
        wrapId_ofNat h1 (by omega), if_neg (fun h => hstart h.1), decide_eq_false hstart,
        Bool.or_false, ofNat_succ, hrest, idsFrom_succ, List.find?_cons,
        show first + (n + 1) = first + 1 + n by omega]
      split_ifs with hfound
      · rw [hfound]
      · rw [Bool.not_eq_true] at hfound
        rw [hfound]

/-- The cyclic order behind `last`, cut where it wraps. -/
theorem cnIdsAfter_eq {last : NodeId} (h : last.id.toNat ≤ 239) :
    cnIdsAfter last = idsFrom (last.id.toNat + 1) (239 - last.id.toNat) ++
      idsFrom 1 last.id.toNat := by
  unfold cnIdsAfter cnIds idsFrom
  rw [List.rotate_eq_drop_append_take (by simpa using h), ← List.map_drop, ← List.map_take,
    List.drop_range', List.take_range'_of_length_ge h, Nat.mul_one, Nat.add_comm 1]

/-- The loop ends behind a node other than 239: it meets its first id again. -/
theorem identifyLoop_of_lt {last : NodeId} (h : last.id.toNat < 239) :
    identifyLoop nodes (last.id + 1) 512 (last.id + 1) false =
      some ((cnIdsAfter last).find? nodes.isUnidentified) := by
  obtain ⟨l, hl, hlast⟩ : ∃ l, l < 239 ∧ last.id = UInt8.ofNat l :=
    ⟨last.id.toNat, h, UInt8.ofNat_toNat.symm⟩
  have hnat : last.id.toNat = l := by rw [hlast, toNat_ofNat_id (by omega)]
  have hne : ∀ v, v ≤ 240 → v ≠ l + 1 → UInt8.ofNat v ≠ UInt8.ofNat (l + 1) := by
    intro v hv hvl heq
    have := congrArg UInt8.toNat heq
    rw [toNat_ofNat_id hv, toNat_ofNat_id (by omega)] at this
    exact hvl this
  -- up to 239, then from 1 to the node polled last, and then the first id again
  have hup := @identifyLoop_ids nodes (UInt8.ofNat (l + 1)) true (238 - l) (l + 2) (273 + l)
    (by omega) (by omega) (fun v hv hlt => hne v (by omega) (by omega))
  have hdown := @identifyLoop_ids nodes (UInt8.ofNat (l + 1)) true l 1 273
    (by omega) (by omega) (fun v hv hlt => hne v (by omega) (by omega))
  have hend : identifyLoop nodes (UInt8.ofNat (l + 1)) 273 (UInt8.ofNat (1 + l)) true =
      some none := by
    rw [identifyLoop_succ, Nat.add_comm 1 l, wrapId_ofNat (by omega) (by omega)]
    exact if_pos ⟨rfl, rfl⟩
  rw [show 238 - l + (273 + l) = 511 by omega, show l + 2 + (238 - l) = 240 by omega,
    show UInt8.ofNat 240 = 240 from rfl, identifyLoop_wrap, show (1 : UInt8) = UInt8.ofNat 1 from rfl,
    Nat.add_comm 273 l, hdown, hend] at hup
  rw [cnIdsAfter_eq (by omega), hnat, hlast, ofNat_succ, identifyLoop_succ,
    wrapId_ofNat (by omega) (by omega), if_neg (fun h => Bool.false_ne_true h.2), ofNat_succ,
    decide_eq_true rfl, Bool.or_true, hup, show 239 - l = 238 - l + 1 by omega, idsFrom_succ,
    List.cons_append, List.find?_cons, List.find?_append]
  cases nodes.isUnidentified ⟨UInt8.ofNat (l + 1)⟩ with
  | true => rfl
  | false =>
      cases (idsFrom (l + 2) (238 - l)).find? nodes.isUnidentified with
      | some nodeId => rfl
      | none =>
          cases (idsFrom 1 l).find? nodes.isUnidentified with
          | some nodeId => rfl
          | none => rfl

theorem mem_cnIds {id : UInt8} : ⟨id⟩ ∈ cnIds ↔ id ≠ 0 ∧ id ≤ 239 := by
  unfold cnIds idsFrom
  rw [List.mem_map]
  constructor
  · rintro ⟨v, hv, heq⟩
    rw [List.mem_range'_1] at hv
    obtain rfl := NodeId.mk.inj heq
    have hwrap := wrapId_le (UInt8.ofNat v)
    rwa [wrapId_ofNat (by omega) (by omega)] at hwrap
  · rintro ⟨h0, h239⟩
    refine ⟨id.toNat, ?_, by rw [UInt8.ofNat_toNat]⟩
    rw [UInt8.le_iff_toNat_le] at h239
    have hpos : id.toNat ≠ 0 := fun h => h0 (UInt8.toNat_inj.mp h)
    rw [List.mem_range'_1]
    exact ⟨by omega, Nat.lt_succ_of_le h239⟩

/-- The loop finds an unidentified node from 1 to 239. -/
theorem identifyLoop_found {nodeId : NodeId} : ∀ {rounds : ℕ} {current : UInt8} {wrapped : Bool},
    identifyLoop nodes start rounds current wrapped = some (some nodeId) →
    nodeId ∈ cnIds ∧ nodes.isUnidentified nodeId = true
  | 0, _, _, h => nomatch h
  | rounds + 1, current, wrapped, h => by
      rw [identifyLoop_succ] at h
      split_ifs at h with _ hfound
      · cases h
      · rw [← Option.some.inj (Option.some.inj h)]
        exact ⟨mem_cnIds.mpr (wrapId_le current), hfound⟩
      · exact identifyLoop_found h

/-- A first id outside of 1 to 239 is not met again. -/
theorem identifyLoop_ne_none (h : ∀ current, wrapId current ≠ start) : ∀ (rounds : ℕ)
    (current : UInt8) (wrapped : Bool),
    identifyLoop nodes start rounds current wrapped ≠ some none
  | 0, _, _ => nofun
  | rounds + 1, current, wrapped => by
      rw [identifyLoop_succ, if_neg (fun hend => h current hend.1)]
      split_ifs
      · nofun
      · exact identifyLoop_ne_none h rounds _ _

theorem wrapId_ne {start : UInt8} (h : start = 0 ∨ 239 < start) (current : UInt8) :
    wrapId current ≠ start := by
  obtain ⟨h0, h239⟩ := wrapId_le current
  rintro rfl
  obtain h | h := h
  · exact h0 h
  · exact absurd h239 (UInt8.not_le.mpr h)

/-- With every node identified the loop behind node 239 goes on for ever. -/
theorem identifyLoop_diverges (h : ∀ nodeId ∈ cnIds, nodes.isUnidentified nodeId = false)
    (rounds : ℕ) : identifyLoop nodes 240 rounds 240 false = none := by
  cases hloop : identifyLoop nodes 240 rounds 240 false with
  | none => rfl
  | some result =>
      cases result with
      | none => exact absurd hloop (identifyLoop_ne_none (wrapId_ne (.inr (by decide))) _ _ _)
      | some nodeId =>
          obtain ⟨hmem, hnode⟩ := identifyLoop_found hloop
          cases (h nodeId hmem).symm.trans hnode

/-- Behind node 239 the loop ends only at an unidentified node. -/
theorem identifyLoop_of_last (nodes : NodeTable) :
    identifyLoop nodes 240 512 240 false = (cnIds.find? nodes.isUnidentified).map some := by
  have hne : ∀ v, 1 ≤ v → v < 1 + 239 → UInt8.ofNat v ≠ 240 := by
    intro v _ hlt heq
    have hnat : (UInt8.ofNat v).toNat = 240 := congrArg UInt8.toNat heq
    rw [toNat_ofNat_id (by omega)] at hnat
    omega
  have hids := @identifyLoop_ids nodes 240 false 239 1 273 le_rfl le_rfl hne
  cases hfind : cnIds.find? nodes.isUnidentified with
  | some nodeId =>
      rw [show idsFrom 1 239 = cnIds from rfl, hfind] at hids
      rw [identifyLoop_wrap]
      exact hids
  | none =>
      apply identifyLoop_diverges
      intro nodeId hmem
      simpa using List.find?_eq_none.mp hfind nodeId hmem

/-- `find_next_node_to_identify` ends behind a node other than 239, or if some node is not
identified. -/
theorem identifyLoop_eq {last : NodeId} (hle : last.id.toNat ≤ 239)
    (hend : last ≠ ⟨239⟩ ∨ ∃ nodeId ∈ cnIds, nodes.isUnidentified nodeId = true) :
    identifyLoop nodes (last.id + 1) 512 (last.id + 1) false =
      some ((cnIdsAfter last).find? nodes.isUnidentified) := by
  by_cases hlast : last = ⟨239⟩
  · obtain ⟨nodeId, hmem, hnode⟩ := hend.resolve_left (fun h => h hlast)
    subst hlast
    have hids : cnIdsAfter ⟨239⟩ = cnIds := List.rotate_length cnIds
    rw [hids]
    refine (identifyLoop_of_last nodes).trans ?_
    cases hfind : cnIds.find? nodes.isUnidentified with
    | some found => rfl
    | none => exact absurd hnode (List.find?_eq_none.mp hfind nodeId hmem)
  · apply identifyLoop_of_lt
    have hne : last.id.toNat ≠ 239 := by
      intro h
      exact hlast (congrArg NodeId.mk (UInt8.toNat_inj.mp h))
    omega

/-- A call that finds nothing: the round robin has ended behind a node below 239. -/
theorem findNextNodeToIdentify_eq_none_iff {σ : Type} (c : MnContext σ) :
    c.findNextNodeToIdentify = some none ↔ c.lastIdentPollNodeId.id < 239 ∧
      ∀ nodeId ∈ cnIds, c.nodeInfo.isUnidentified nodeId = false := by
  by_cases hlt : c.lastIdentPollNodeId.id < 239
  · have hloop : c.findNextNodeToIdentify = _ :=
      identifyLoop_of_lt (UInt8.lt_iff_toNat_lt.mp hlt)
    rw [hloop, Option.some.injEq, List.find?_eq_none]
    constructor
    · intro hnone
      refine ⟨hlt, fun nodeId hmem => ?_⟩
      simpa using hnone nodeId (List.mem_rotate.mpr hmem)
    · rintro ⟨-, hnone⟩ nodeId hmem
      rw [hnone nodeId (List.mem_rotate.mp hmem)]
      exact Bool.false_ne_true
  · have hstart : c.lastIdentPollNodeId.id + 1 = 0 ∨ 239 < c.lastIdentPollNodeId.id + 1 := by
      have hid := c.lastIdentPollNodeId.id.toNat_lt
      rw [UInt8.lt_iff_toNat_lt] at hlt ⊢
      rw [← UInt8.toNat_inj, UInt8.toNat_add]
      change ¬ c.lastIdentPollNodeId.id.toNat < 239 at hlt
      change (c.lastIdentPollNodeId.id.toNat + 1) % 256 = 0 ∨
        239 < (c.lastIdentPollNodeId.id.toNat + 1) % 256
      omega
    constructor
    · intro hloop
      exact absurd hloop (identifyLoop_ne_none (wrapId_ne hstart) _ _ _)
    · intro h
      exact absurd h.1 hlt

end MnContext

/-! ### Calls one after the other -/

variable {nodes : NodeTable} {last : NodeId}

theorem Finds.unique {result result' : Option NodeId} (h : Finds nodes last result)
    (h' : Finds nodes last result') : result = result' := by
  obtain ⟨rounds, h⟩ := h
  obtain ⟨rounds', h'⟩ := h'
  have hmax := MnContext.identifyLoop_mono (le_max_left rounds rounds') h
  have hmax' := MnContext.identifyLoop_mono (le_max_right rounds rounds') h'
  exact Option.some.inj (hmax.symm.trans hmax')

/-- Earlier calls leave `0` or the id of a controlled node. -/
theorem LeftByCalls.le (h : LeftByCalls last) : last.id.toNat ≤ 239 := by
  cases h with
  | initial => exact Nat.zero_le _
  | call _ hfinds =>
      obtain ⟨rounds, hloop⟩ := hfinds
      have hmem := (MnContext.identifyLoop_found hloop).1
      exact UInt8.le_iff_toNat_le.mp (MnContext.mem_cnIds.mp hmem).2

/-- A call that ends finds the first unidentified node in cyclic order. -/
theorem finds_iff (hle : last.id.toNat ≤ 239)
    (hend : last ≠ ⟨239⟩ ∨ ∃ nodeId ∈ cnIds, nodes.isUnidentified nodeId = true)
    (result : Option NodeId) :
    Finds nodes last result ↔ (cnIdsAfter last).find? nodes.isUnidentified = result := by
  have hfinds : Finds nodes last ((cnIdsAfter last).find? nodes.isUnidentified) :=
    ⟨512, MnContext.identifyLoop_eq hle hend⟩
  constructor
  · exact hfinds.unique
  · rintro rfl
    exact hfinds

/-- A turn of the round robin goes on behind the node that it found. -/
theorem turn_cnIdsAfter {nodeId : NodeId} {next : List NodeId} {p : NodeId → Bool}
    (h : RoundRobin.turn p (cnIdsAfter last) = some (nodeId, next)) : next = cnIdsAfter nodeId := by
  unfold cnIdsAfter at h
  obtain ⟨k, hget, hnext⟩ := RoundRobin.turn_rotate h
  have hlen : cnIds.length = 239 := by rw [cnIds, idsFrom, List.length_map, List.length_range']
  have hid : nodeId.id.toNat = (last.id.toNat + k) % 239 + 1 := by
    have hlt : (last.id.toNat + k) % 239 < 239 := Nat.mod_lt _ (by omega)
    rw [hlen] at hget
    unfold cnIds idsFrom at hget
    generalize (last.id.toNat + k) % 239 = i at hget hlt ⊢
    rw [List.getElem?_map, List.getElem?_range' hlt, Option.map_some] at hget
    rw [← Option.some.inj hget, MnContext.toNat_ofNat_id (by omega)]
    omega
  unfold cnIdsAfter
  rw [hnext, hid, ← List.rotate_mod, ← List.rotate_mod cnIds (_ % 239 + 1), hlen]
  congr 1
  omega

/-- The calls follow the turns of the round robin. -/
theorem findsInTurn_of_turns : ∀ {n : ℕ} {last : NodeId} {found : List NodeId},
    last.id.toNat ≤ 239 →
    RoundRobin.turns nodes.isUnidentified n (cnIdsAfter last) = some found →
    FindsInTurn nodes last found
  | 0, _, _, _, h => by
      obtain rfl := Option.some.inj h
      trivial
  | n + 1, last, found, hle, h => by
      unfold RoundRobin.turns at h
      split at h
      · cases h
      · rename_i nodeId next hturn
        obtain ⟨rest, hrest, rfl⟩ := Option.map_eq_some_iff.mp h
        have hfirst := RoundRobin.turn_fst (p := nodes.isUnidentified) (cnIdsAfter last)
        rw [hturn] at hfirst
        have hmem : nodeId ∈ cnIds :=
          List.mem_rotate.mp (List.mem_of_find?_eq_some hfirst.symm)
        have hnode : nodes.isUnidentified nodeId = true := List.find?_some hfirst.symm
        have hnext : nodeId.id.toNat ≤ 239 :=
          UInt8.le_iff_toNat_le.mp (MnContext.mem_cnIds.mp hmem).2
        refine ⟨(finds_iff hle (.inr ⟨nodeId, hmem, hnode⟩) _).mpr hfirst.symm, ?_⟩
        rw [turn_cnIdsAfter hturn] at hrest
        exact findsInTurn_of_turns hnext hrest

/-- The identification goes in turn, except behind node 239 when every node is identified. -/
theorem identification_in_turn_iff (h : LeftByCalls last) :
    IdentifiesInTurn nodes last ↔
      last ≠ ⟨239⟩ ∨ ∃ nodeId ∈ cnIds, nodes.isUnidentified nodeId = true := by
  constructor
  · rintro ⟨⟨result, rounds, hloop⟩, -, -, -⟩
    by_contra hcon
    obtain ⟨hlast, hnone⟩ := not_or.mp hcon
    rw [not_not.mp hlast] at hloop
    have hidentified : ∀ nodeId ∈ cnIds, nodes.isUnidentified nodeId = false := by
      intro nodeId hmem
      rw [← Bool.not_eq_true]
      exact fun hnode => hnone ⟨nodeId, hmem, hnode⟩
    cases hloop.symm.trans (MnContext.identifyLoop_diverges hidentified rounds)
  · intro hend
    have hfinds := finds_iff h.le hend
    refine ⟨⟨_, (hfinds _).mpr rfl⟩, ?_, fun nodeId => hfinds _, ?_⟩
    · rw [hfinds, List.find?_eq_none]
      constructor
      · intro hnone nodeId hmem
        simpa using hnone nodeId (List.mem_rotate.mpr hmem)
      · intro hnone nodeId hmem
        rw [hnone nodeId (List.mem_rotate.mp hmem)]
        exact Bool.false_ne_true
    · refine ⟨(cnIdsAfter last).filter nodes.isUnidentified, ?_, ?_⟩
      · exact findsInTurn_of_turns h.le (RoundRobin.turns_filter _)
      · exact (List.rotate_perm cnIds _).filter _

/-- A table with one node. -/
def oneNode (nodeId : NodeId) (state : CnState) : NodeTable :=
  SortedMap.empty.insert nodeId { state := state }

theorem leftByCalls_239 : LeftByCalls ⟨239⟩ := by
  have hfinds : Finds (oneNode ⟨239⟩ .unknown) ⟨0⟩ (some ⟨239⟩) := ⟨512, by decide +kernel⟩
  exact .call .initial hfinds

/-- Node 239 is polled and then identified: the next call does not end. -/
theorem identification_not_in_turn :
    ¬ ∀ (nodes : NodeTable) (last : NodeId), LeftByCalls last → IdentifiesInTurn nodes last := by
  intro h
  obtain ⟨result, rounds, hloop⟩ := (h (oneNode ⟨239⟩ .identified) ⟨239⟩ leftByCalls_239).ends
  have hidentified : ∀ nodeId ∈ cnIds,
      (oneNode ⟨239⟩ .identified).isUnidentified nodeId = false := by decide +kernel
  cases hloop.symm.trans (MnContext.identifyLoop_diverges hidentified rounds)

/-- Node 239 was polled and node 1 is missing: the round robin goes on with node 1. -/
theorem identification_in_turn_239 :
    LeftByCalls ⟨239⟩ ∧ (⟨239⟩ ≠ (⟨239⟩ : NodeId) ∨
      ∃ nodeId ∈ cnIds, (oneNode ⟨1⟩ .missing).isUnidentified nodeId = true) ∧
      IdentifiesInTurn (oneNode ⟨1⟩ .missing) ⟨239⟩ := by
  have hnode : ∃ nodeId ∈ cnIds, (oneNode ⟨1⟩ .missing).isUnidentified nodeId = true :=
    ⟨⟨1⟩, MnContext.mem_cnIds.mpr (by decide), by decide⟩
  exact ⟨leftByCalls_239, .inr hnode,
    (identification_in_turn_iff leftByCalls_239).mpr (.inr hnode)⟩

end Powerlink
