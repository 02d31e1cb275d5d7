import Powerlink.Lib.Slices
import Powerlink.Mn.Config

/-! # The node lists of a managing node

`parse_mn_node_lists` sorts the nodes of the assignment `0x1F81` into its lists.  Up to 255 elements
the lists are a partition of the assigned nodes (`isPartition_ofAssigned`); from 256 elements on the
sub-index of an element overflows.  `ObjectDictionary::get_configured_cns` collects the isochronous
nodes a second time, without the check of the node id. -/

namespace Powerlink

open Slices

variable {σ : Type}

/-- `ObjectDictionary::get_configured_cns`. -/
def ObjectDictionary.getConfiguredCns (od : ObjectDictionary σ) : List NodeId :=
  match od.readObject 0x1F81 with
  | some (.array values) =>
      values.zipIdx.filterMap fun p =>
        match p.1 with
        | .unsigned32 assignment =>
            if assignmentBit assignment 0 && !assignmentBit assignment 8 then
              some ⟨UInt8.ofNat (p.2 + 1)⟩
            else none
        | _ => none
  | _ => []

/-- The effect of the element at a position; `none` is an overflow of `i as u8 + 1`. -/
def NodeLists.addChecked (od : ObjectDictionary σ) (lists : NodeLists) (p : ObjectValue × ℕ) :
    Option NodeLists := do
  let subIndex ← checkedBelow 256 ((UInt8.ofNat p.2).toNat + 1)
  some (lists.add od (UInt8.ofNat subIndex) p.1)

/-- `parse_mn_node_lists` with its arithmetic checked. -/
def parseMnNodeListsChecked (od : ObjectDictionary σ) :
    Option (Except PowerlinkError NodeLists) :=
  match od.readObject 0x1F81 with
  | some (.array entries) => do
      let lists ← entries.zipIdx.foldlM (NodeLists.addChecked od) {}
      some (.ok lists)
  | _ => some (.error (.validationError "Missing 0x1F81 NMT_NodeAssignment_AU32"))

/-! ### The assigned nodes -/

/-- The node of an element with its assignment, where bit 0 is set and the node id is valid. -/
def assignedNode (p : ObjectValue × ℕ) : Option (NodeId × UInt32) :=
  match p.1 with
  | .unsigned32 assignment =>
      if assignmentBit assignment 0 then
        match NodeId.tryFrom (UInt8.ofNat (p.2 + 1)) with
        | .ok nodeId => some (nodeId, assignment)
        | .error _ => none
      else none
  | _ => none

/-- The assigned nodes of an array. -/
def assignedNodes (entries : List ObjectValue) : List (NodeId × UInt32) :=
  entries.zipIdx.filterMap assignedNode

theorem NodeId.tryFrom_eq_ok {value : UInt8} {nodeId : NodeId}
    (h : NodeId.tryFrom value = .ok nodeId) : nodeId = ⟨value⟩ ∧ 1 ≤ value.toNat := by
  unfold tryFrom at h
  split_ifs at h with hvalue
  refine ⟨(Except.ok.inj h).symm, ?_⟩
  rcases hvalue with ⟨hone, -⟩ | rfl | rfl | rfl
  · exact UInt8.le_iff_toNat_le.mp hone
  all_goals decide

theorem assignedNode_eq_some {p : ObjectValue × ℕ} {nodeId : NodeId} {assignment : UInt32} :
    assignedNode p = some (nodeId, assignment) ↔
      p.1 = .unsigned32 assignment ∧ assignmentBit assignment 0 = true ∧
        NodeId.tryFrom (UInt8.ofNat (p.2 + 1)) = .ok nodeId := by
  obtain ⟨value, i⟩ := p
  constructor
  · intro h
    unfold assignedNode at h
    cases value with
    | unsigned32 v =>
        cases hbit : assignmentBit v 0 with
        | false =>
            simp only [hbit] at h
            cases h
        | true =>
            cases hid : NodeId.tryFrom (UInt8.ofNat (i + 1)) with
            | error e =>
                simp only [hbit, hid] at h
                cases h
            | ok n =>
                simp only [hbit, hid] at h
                cases h
                exact ⟨rfl, hbit, rfl⟩
    | _ => cases h
  · rintro ⟨hvalue, hbit, hid⟩
    unfold assignedNode
    simp only at hvalue hid
    simp only [hvalue, hbit, hid, if_true]

theorem mem_assignedNodes {entries : List ObjectValue} {nodeId : NodeId} {assignment : UInt32} :
    (nodeId, assignment) ∈ assignedNodes entries ↔
      ∃ i, entries[i]? = some (.unsigned32 assignment) ∧ assignmentBit assignment 0 = true ∧
        NodeId.tryFrom (UInt8.ofNat (i + 1)) = .ok nodeId := by
  unfold assignedNodes
  rw [List.mem_filterMap]
  constructor
  · rintro ⟨p, hp, h⟩
    obtain ⟨hvalue, hbit, hid⟩ := assignedNode_eq_some.mp h
    refine ⟨p.2, ?_, hbit, hid⟩
    rw [List.mem_zipIdx_iff_getElem?.mp hp, hvalue]
  · rintro ⟨i, hi, hbit, hid⟩
    exact ⟨(.unsigned32 assignment, i), List.mem_zipIdx_iff_getElem?.mpr hi,
      assignedNode_eq_some.mpr ⟨rfl, hbit, hid⟩⟩

/-- The positions of the elements of a list differ. -/
theorem nodup_filterMap_zipIdx {α β : Type} {f : α × ℕ → Option β} {l : List α}
    (hf : ∀ p q b, p ∈ l.zipIdx → q ∈ l.zipIdx → f p = some b → f q = some b → p.2 = q.2) :
    (l.zipIdx.filterMap f).Nodup := by
  have hsorted : l.zipIdx.Pairwise fun p q => p.2 < q.2 := by
    rw [← List.pairwise_map (f := Prod.snd) (R := (· < ·)), List.zipIdx_map_snd]
    exact List.pairwise_lt_range'
  unfold List.Nodup
  rw [List.pairwise_filterMap]
  apply List.Pairwise.imp_of_mem _ hsorted
  intro p q hp hq hlt b hb b' hb' heq
  rw [← heq] at hb'
  have := hf p q b hp hq hb hb'
  omega

theorem nodup_assignedNodes {entries : List ObjectValue} (h : entries.length ≤ 255) :
    ((assignedNodes entries).map Prod.fst).Nodup := by
  unfold assignedNodes
  rw [List.map_filterMap]
  apply nodup_filterMap_zipIdx
  intro p q nodeId hp hq hpn hqn
  obtain ⟨⟨n, assignment⟩, hpa, hn⟩ := Option.map_eq_some_iff.mp hpn
  obtain ⟨⟨n', assignment'⟩, hqa, hn'⟩ := Option.map_eq_some_iff.mp hqn
  obtain ⟨-, -, hpid⟩ := assignedNode_eq_some.mp hpa
  obtain ⟨-, -, hqid⟩ := assignedNode_eq_some.mp hqa
  have hid : UInt8.ofNat (p.2 + 1) = UInt8.ofNat (q.2 + 1) := by
    have hp' := (NodeId.tryFrom_eq_ok hpid).1
    have hq' := (NodeId.tryFrom_eq_ok hqid).1
    have hnn : n = n' := hn.trans hn'.symm
    rw [hp', hq'] at hnn
    exact congrArg NodeId.id hnn
  have hplt := List.snd_lt_of_mem_zipIdx hp
  have hqlt := List.snd_lt_of_mem_zipIdx hq
  have hnat := congrArg UInt8.toNat hid
  rw [UInt8.toNat_ofNat_of_lt' (by simp only [UInt8.size]; omega),
    UInt8.toNat_ofNat_of_lt' (by simp only [UInt8.size]; omega)] at hnat
  omega

/-! ### The lists of the assigned nodes -/

/-- The lists with one assigned node more. -/
def NodeLists.place (od : ObjectDictionary σ) (lists : NodeLists) (node : NodeId × UInt32) :
    NodeLists :=
  let lists := { lists with
    nodeInfo := lists.nodeInfo.insert node.1 {}
    mandatoryNodes := if assignmentBit node.2 3
      then lists.mandatoryNodes ++ [node.1] else lists.mandatoryNodes }
  if !assignmentBit node.2 8 then
    { lists with
      isochronousNodes := lists.isochronousNodes ++ [node.1]
      multiplexAssign :=
        lists.multiplexAssign.insert node.1 ((od.readU8 0x1F9B node.1.id).getD 0) }
  else { lists with asyncOnlyNodes := lists.asyncOnlyNodes ++ [node.1] }

/-- The lists of assigned nodes. -/
def NodeLists.ofAssigned (od : ObjectDictionary σ) (nodes : List (NodeId × UInt32)) : NodeLists :=
  nodes.foldl (place od) {}

/-- The ids of the nodes whose assignment satisfies a test. -/
def nodesWith (test : UInt32 → Bool) (nodes : List (NodeId × UInt32)) : List NodeId :=
  (nodes.filter fun node => test node.2).map Prod.fst

theorem mem_nodesWith {test : UInt32 → Bool} {nodes : List (NodeId × UInt32)} {nodeId : NodeId} :
    nodeId ∈ nodesWith test nodes ↔
      ∃ assignment, (nodeId, assignment) ∈ nodes ∧ test assignment = true := by
  unfold nodesWith
  constructor
  · intro h
    obtain ⟨⟨n, assignment⟩, hmem, rfl⟩ := List.mem_map.mp h
    exact ⟨assignment, List.mem_filter.mp hmem⟩
  · rintro ⟨assignment, hmem, htest⟩
    exact List.mem_map.mpr ⟨(nodeId, assignment), List.mem_filter.mpr ⟨hmem, htest⟩, rfl⟩

theorem nodesWith_append (test : UInt32 → Bool) (nodes nodes' : List (NodeId × UInt32)) :
    nodesWith test (nodes ++ nodes') = nodesWith test nodes ++ nodesWith test nodes' := by
  unfold nodesWith
  rw [List.filter_append, List.map_append]

/-- What the lists are after the nodes that were placed. -/
structure NodeLists.Holds (lists : NodeLists) (nodes : List (NodeId × UInt32)) : Prop where
  mandatoryNodes : lists.mandatoryNodes = nodesWith (assignmentBit · 3) nodes
  isochronousNodes : lists.isochronousNodes = nodesWith (fun a => !assignmentBit a 8) nodes
  asyncOnlyNodes : lists.asyncOnlyNodes = nodesWith (assignmentBit · 8) nodes
  nodeInfo : ∀ n, (lists.nodeInfo.get? n).isSome ↔ n ∈ nodesWith (fun _ => true) nodes
  multiplexAssign : ∀ n, (lists.multiplexAssign.get? n).isSome ↔
    n ∈ nodesWith (fun a => !assignmentBit a 8) nodes

theorem NodeLists.Holds.empty : Holds {} [] where
  mandatoryNodes := rfl
  isochronousNodes := rfl
  asyncOnlyNodes := rfl
  nodeInfo n := by simp [nodesWith]
  multiplexAssign n := by simp [nodesWith]

theorem nodesWith_singleton (test : UInt32 → Bool) (node : NodeId × UInt32) :
    nodesWith test [node] = if test node.2 then [node.1] else [] := by
  unfold nodesWith
  cases h : test node.2 <;> simp [h]

theorem NodeLists.Holds.place {lists : NodeLists} {nodes : List (NodeId × UInt32)}
    (h : lists.Holds nodes) (od : ObjectDictionary σ) (node : NodeId × UInt32) :
    (lists.place od node).Holds (nodes ++ [node]) := by
  have hmandatory : (lists.place od node).mandatoryNodes =
      nodesWith (assignmentBit · 3) (nodes ++ [node]) := by
    rw [nodesWith_append, nodesWith_singleton, ← h.mandatoryNodes]
    unfold NodeLists.place
    cases assignmentBit node.2 8 <;> cases assignmentBit node.2 3 <;> simp
  have hinfo (n : NodeId) : ((lists.place od node).nodeInfo.get? n).isSome ↔
      n ∈ nodesWith (fun _ => true) (nodes ++ [node]) := by
    have hinsert : (lists.place od node).nodeInfo = lists.nodeInfo.insert node.1 {} := by
      unfold NodeLists.place
      cases assignmentBit node.2 8 <;> rfl
    rw [hinsert, SortedMap.isSome_get?_insert, h.nodeInfo, nodesWith_append, nodesWith_singleton]
    simp
  cases hbit : assignmentBit node.2 8 with
  | false =>
      refine ⟨hmandatory, ?_, ?_, hinfo, ?_⟩
      · rw [nodesWith_append, nodesWith_singleton, ← h.isochronousNodes]
        simp [NodeLists.place, hbit]
      · rw [nodesWith_append, nodesWith_singleton, ← h.asyncOnlyNodes]
        simp [NodeLists.place, hbit]
      · intro n
        have hinsert : (lists.place od node).multiplexAssign =
            lists.multiplexAssign.insert node.1 ((od.readU8 0x1F9B node.1.id).getD 0) := by
          simp [NodeLists.place, hbit]
        rw [hinsert, SortedMap.isSome_get?_insert, h.multiplexAssign, nodesWith_append,
          nodesWith_singleton]
        simp [hbit]
  | true =>
      refine ⟨hmandatory, ?_, ?_, hinfo, ?_⟩
      · rw [nodesWith_append, nodesWith_singleton, ← h.isochronousNodes]
        simp [NodeLists.place, hbit]
      · rw [nodesWith_append, nodesWith_singleton, ← h.asyncOnlyNodes]
        simp [NodeLists.place, hbit]
      · intro n
        have hsame : (lists.place od node).multiplexAssign = lists.multiplexAssign := by
          simp [NodeLists.place, hbit]
        rw [hsame, h.multiplexAssign, nodesWith_append, nodesWith_singleton]
        simp [hbit]

theorem NodeLists.Holds.foldl {od : ObjectDictionary σ} (rest : List (NodeId × UInt32)) :
    ∀ {lists : NodeLists} {nodes : List (NodeId × UInt32)}, lists.Holds nodes →
      (rest.foldl (NodeLists.place od) lists).Holds (nodes ++ rest) := by
  induction rest with
  | nil =>
      intro lists nodes h
      rwa [List.append_nil]
  | cons node rest ih =>
      intro lists nodes h
      have := ih (h.place od node)
      rwa [List.append_assoc] at this

theorem NodeLists.holds_ofAssigned (od : ObjectDictionary σ) (nodes : List (NodeId × UInt32)) :
    (NodeLists.ofAssigned od nodes).Holds nodes := Holds.empty.foldl nodes

/-! ### The checked loop -/

theorem NodeLists.add_eq (lists : NodeLists) (od : ObjectDictionary σ) (p : ObjectValue × ℕ) :
    lists.add od (UInt8.ofNat (p.2 + 1)) p.1 = (assignedNode p).elim lists (lists.place od) := by
  obtain ⟨value, i⟩ := p
  unfold add assignedNode
  cases value with
  | unsigned32 assignment =>
      cases hbit : assignmentBit assignment 0 with
      | false => simp [hbit]
      | true =>
          cases NodeId.tryFrom (UInt8.ofNat (i + 1)) with
          | error e => simp [hbit]
          | ok nodeId => simp [hbit, place]
  | _ => rfl

theorem NodeLists.addChecked_of_lt {od : ObjectDictionary σ} {lists : NodeLists}
    {p : ObjectValue × ℕ} (h : p.2 < 255) :
    addChecked od lists p = some ((assignedNode p).elim lists (lists.place od)) := by
  have hindex : (UInt8.ofNat p.2).toNat = p.2 :=
    UInt8.toNat_ofNat_of_lt' (by simp only [UInt8.size]; omega)
  unfold addChecked
  rw [hindex, checkedBelow_eq_some (by omega : p.2 + 1 < 256), ← add_eq]
  rfl

theorem NodeLists.addChecked_last (od : ObjectDictionary σ) (lists : NodeLists)
    (value : ObjectValue) : addChecked od lists (value, 255) = none := rfl

/-- The loop over the elements from a position on, as far as position 254. -/
theorem NodeLists.foldlM_addChecked (od : ObjectDictionary σ) (entries : List ObjectValue) :
    ∀ (k : ℕ) (lists : NodeLists), k ≤ 255 →
      (entries.zipIdx k).foldlM (addChecked od) lists =
        if k + entries.length ≤ 255 then
          some (((entries.zipIdx k).filterMap assignedNode).foldl (place od) lists)
        else none := by
  induction entries with
  | nil =>
      intro k lists hk
      rw [if_pos (by simpa using hk)]
      rfl
  | cons value entries ih =>
      intro k lists hk
      rw [List.zipIdx_cons, List.foldlM_cons, List.length_cons]
      rcases Nat.lt_or_eq_of_le hk with hlt | rfl
      · rw [addChecked_of_lt (p := (value, k)) hlt]
        have hsum : k + 1 + entries.length = k + (entries.length + 1) := by omega
        have hrest := ih (k + 1) ((assignedNode (value, k)).elim lists (lists.place od)) hlt
        rw [hsum] at hrest
        refine hrest.trans ?_
        cases h : assignedNode (value, k) with
        | none =>
            rw [List.filterMap_cons_none h]
            rfl
        | some node =>
            rw [List.filterMap_cons_some h]
            rfl
      · rw [addChecked_last, if_neg (by omega)]
        rfl

/-! ### The partition -/

/-- Node `n` is assigned: its element has bit 0 set, and its id is valid. -/
def Assigned (entries : List ObjectValue) (n : NodeId) : Prop :=
  NodeId.tryFrom n.id = .ok n ∧
    ∃ assignment, entries[n.id.toNat - 1]? = some (.unsigned32 assignment) ∧
      assignmentBit assignment 0 = true

/-- The lists are a partition of the assigned nodes. -/
structure NodeLists.IsPartition (lists : NodeLists) (entries : List ObjectValue) : Prop where
  nodup_mandatory : lists.mandatoryNodes.Nodup
  nodup_isochronous : lists.isochronousNodes.Nodup
  nodup_asyncOnly : lists.asyncOnlyNodes.Nodup
  disjoint : lists.isochronousNodes.Disjoint lists.asyncOnlyNodes
  nodeInfo_iff : ∀ n, (lists.nodeInfo.get? n).isSome ↔
    n ∈ lists.isochronousNodes ∨ n ∈ lists.asyncOnlyNodes
  mandatory_subset : ∀ n ∈ lists.mandatoryNodes, (lists.nodeInfo.get? n).isSome
  multiplexAssign_iff : ∀ n, (lists.multiplexAssign.get? n).isSome ↔ n ∈ lists.isochronousNodes
  present_iff : ∀ n, (lists.nodeInfo.get? n).isSome ↔ Assigned entries n

theorem mem_assigned_iff {entries : List ObjectValue} (h : entries.length ≤ 255) (n : NodeId) :
    n ∈ nodesWith (fun _ => true) (assignedNodes entries) ↔ Assigned entries n := by
  rw [mem_nodesWith]
  constructor
  · rintro ⟨assignment, hmem, -⟩
    obtain ⟨i, hi, hbit, hid⟩ := mem_assignedNodes.mp hmem
    obtain ⟨rfl, -⟩ := NodeId.tryFrom_eq_ok hid
    have hlt : i < entries.length := (List.getElem?_eq_some_iff.mp hi).1
    refine ⟨hid, assignment, ?_, hbit⟩
    have hindex : (UInt8.ofNat (i + 1)).toNat = i + 1 :=
      UInt8.toNat_ofNat_of_lt' (by simp only [UInt8.size]; omega)
    rw [hindex]
    exact hi
  · rintro ⟨hid, assignment, hi, hbit⟩
    have hpos := (NodeId.tryFrom_eq_ok hid).2
    refine ⟨assignment, mem_assignedNodes.mpr ⟨n.id.toNat - 1, hi, hbit, ?_⟩, rfl⟩
    rw [Nat.sub_add_cancel hpos, UInt8.ofNat_toNat]
    exact hid

theorem nodup_nodesWith {nodes : List (NodeId × UInt32)} (h : (nodes.map Prod.fst).Nodup)
    (test : UInt32 → Bool) : (nodesWith test nodes).Nodup :=
  h.sublist (List.filter_sublist.map Prod.fst)

/-- A node that occurs once has one assignment. -/
theorem eq_of_nodup_fst {nodes : List (NodeId × UInt32)} (h : (nodes.map Prod.fst).Nodup)
    {n : NodeId} {a b : UInt32} (ha : (n, a) ∈ nodes) (hb : (n, b) ∈ nodes) : a = b :=
  congrArg Prod.snd (List.inj_on_of_nodup_map h ha hb rfl)

theorem isPartition_ofAssigned (od : ObjectDictionary σ) {entries : List ObjectValue}
    (h : entries.length ≤ 255) :
    (NodeLists.ofAssigned od (assignedNodes entries)).IsPartition entries := by
  have hholds := NodeLists.holds_ofAssigned od (assignedNodes entries)
  have hnodup := nodup_assignedNodes h
  refine ⟨?_, ?_, ?_, ?_, ?_, ?_, ?_, ?_⟩
  · rw [hholds.mandatoryNodes]
    exact nodup_nodesWith hnodup _
  · rw [hholds.isochronousNodes]
    exact nodup_nodesWith hnodup _
  · rw [hholds.asyncOnlyNodes]
    exact nodup_nodesWith hnodup _
  · rw [hholds.isochronousNodes, hholds.asyncOnlyNodes]
    intro n hiso hasync
    obtain ⟨a, ha, hclear⟩ := mem_nodesWith.mp hiso
    obtain ⟨b, hb, hset⟩ := mem_nodesWith.mp hasync
    rw [eq_of_nodup_fst hnodup ha hb, hset] at hclear
    cases hclear
  · intro n
    rw [hholds.nodeInfo, hholds.isochronousNodes, hholds.asyncOnlyNodes, mem_nodesWith,
      mem_nodesWith, mem_nodesWith]
    constructor
    · rintro ⟨a, ha, -⟩
      cases hbit : assignmentBit a 8 with
      | false => exact .inl ⟨a, ha, by rw [hbit]; rfl⟩
      | true => exact .inr ⟨a, ha, hbit⟩
    · rintro (⟨a, ha, -⟩ | ⟨a, ha, -⟩)
      · exact ⟨a, ha, rfl⟩
      · exact ⟨a, ha, rfl⟩
  · intro n hn
    rw [hholds.mandatoryNodes] at hn
    obtain ⟨a, ha, -⟩ := mem_nodesWith.mp hn
    exact (hholds.nodeInfo n).mpr (mem_nodesWith.mpr ⟨a, ha, rfl⟩)
  · intro n
    rw [hholds.multiplexAssign, hholds.isochronousNodes]
  · intro n
    rw [hholds.nodeInfo]
    exact mem_assigned_iff h n

/-! ### The two isochronous lists -/

/-- Every isochronous assignment stands at the position of a valid node id. -/
def ValidPositions (entries : List ObjectValue) : Prop :=
  ∀ (i : ℕ) (assignment : UInt32), entries[i]? = some (.unsigned32 assignment) →
    assignmentBit assignment 0 = true → assignmentBit assignment 8 = false →
      NodeId.tryFrom (UInt8.ofNat (i + 1)) = .ok ⟨UInt8.ofNat (i + 1)⟩

theorem ObjectDictionary.mem_getConfiguredCns {od : ObjectDictionary σ}
    {entries : List ObjectValue} (hod : od.readObject 0x1F81 = some (.array entries)) {i : ℕ}
    {assignment : UInt32} (hi : entries[i]? = some (.unsigned32 assignment))
    (hexists : assignmentBit assignment 0 = true) (hiso : assignmentBit assignment 8 = false) :
    (⟨UInt8.ofNat (i + 1)⟩ : NodeId) ∈ od.getConfiguredCns := by
  unfold getConfiguredCns
  rw [hod]
  apply List.mem_filterMap.mpr
  refine ⟨(.unsigned32 assignment, i), List.mem_zipIdx_iff_getElem?.mpr hi, ?_⟩
  simp [hexists, hiso]

theorem ObjectDictionary.getConfiguredCns_eq {od : ObjectDictionary σ}
    {entries : List ObjectValue} (hod : od.readObject 0x1F81 = some (.array entries))
    (h : ValidPositions entries) :
    od.getConfiguredCns = nodesWith (fun a => !assignmentBit a 8) (assignedNodes entries) := by
  unfold getConfiguredCns nodesWith assignedNodes
  rw [hod, List.filter_filterMap, List.map_filterMap]
  apply List.filterMap_congr
  rintro ⟨value, i⟩ hp
  have hi : entries[i]? = some value := List.mem_zipIdx_iff_getElem?.mp hp
  cases value with
  | unsigned32 assignment =>
      cases hexists : assignmentBit assignment 0 with
      | false => simp [assignedNode, hexists]
      | true =>
          cases hiso : assignmentBit assignment 8 with
          | false =>
              have hnode := (assignedNode_eq_some (p := (.unsigned32 assignment, i))).mpr
                ⟨rfl, hexists, h i assignment hi hexists hiso⟩
              simp [hnode, hexists, hiso]
          | true =>
              cases hnode : assignedNode (.unsigned32 assignment, i) with
              | none => simp [hiso]
              | some node =>
                  obtain ⟨hvalue, -, -⟩ := assignedNode_eq_some.mp hnode
                  cases hvalue
                  simp [hiso]
  | _ => rfl

theorem parseMnNodeListsChecked_eq {od : ObjectDictionary σ} {entries : List ObjectValue}
    (hod : od.readObject 0x1F81 = some (.array entries)) :
    parseMnNodeListsChecked od =
      if entries.length ≤ 255 then
        some (.ok (NodeLists.ofAssigned od (assignedNodes entries)))
      else none := by
  unfold parseMnNodeListsChecked
  rw [hod]
  have hloop := NodeLists.foldlM_addChecked od entries 0 {} (Nat.zero_le _)
  rw [Nat.zero_add] at hloop
  simp only [hloop]
  by_cases h : entries.length ≤ 255
  · rw [if_pos h, if_pos h]
    rfl
  · rw [if_neg h, if_neg h]
    rfl

/-- Where no sub-index overflows, the checked loop is the loop of `parse_mn_node_lists`. -/
theorem parseMnNodeLists_of_checked {od : ObjectDictionary σ}
    {result : Except PowerlinkError NodeLists} (h : parseMnNodeListsChecked od = some result) :
    parseMnNodeLists od = result := by
  have hloop : ∀ (l : List (ObjectValue × ℕ)) (lists lists' : NodeLists),
      l.foldlM (NodeLists.addChecked od) lists = some lists' →
        l.foldl (fun lists p => lists.add od (UInt8.ofNat p.2 + 1) p.1) lists = lists' := by
    intro l
    induction l with
    | nil =>
        intro lists lists' hl
        exact Option.some.inj hl
    | cons p l ih =>
        intro lists lists' hl
        rw [List.foldlM_cons] at hl
        obtain ⟨next, hnext, hrest⟩ := Option.bind_eq_some_iff.mp hl
        rw [List.foldl_cons]
        have hadd : lists.add od (UInt8.ofNat p.2 + 1) p.1 = next := by
          obtain ⟨subIndex, hindex, hadd⟩ := Option.bind_eq_some_iff.mp hnext
          unfold checkedBelow at hindex
          split_ifs at hindex
          rw [← Option.some.inj hindex, UInt8.ofNat_add, UInt8.ofNat_toNat] at hadd
          exact Option.some.inj hadd
        rw [hadd]
        exact ih next lists' hrest
  unfold parseMnNodeListsChecked at h
  unfold parseMnNodeLists
  rcases hod : od.readObject 0x1F81 with _ | value | entries | values
  · rw [hod] at h
    exact Option.some.inj h
  · rw [hod] at h
    exact Option.some.inj h
  · rw [hod] at h
    obtain ⟨lists, hlists, hresult⟩ := Option.bind_eq_some_iff.mp h
    have hfold := hloop _ _ _ hlists
    rw [← Option.some.inj hresult, ← hfold]
  · rw [hod] at h
    exact Option.some.inj h

/-- The node lists of an array are parsed without an overflow, are a partition of the assigned
nodes, and have the isochronous nodes of `get_configured_cns`. -/
def ObjectDictionary.NodeListsAgree (od : ObjectDictionary σ) (entries : List ObjectValue) :
    Prop :=
  ∃ lists, parseMnNodeListsChecked od = some (.ok lists) ∧ lists.IsPartition entries ∧
    od.getConfiguredCns = lists.isochronousNodes

theorem ObjectDictionary.NodeListsAgree.conditions {od : ObjectDictionary σ}
    {entries : List ObjectValue} (h : od.NodeListsAgree entries)
    (hod : od.readObject 0x1F81 = some (.array entries)) :
    entries.length ≤ 255 ∧ ValidPositions entries := by
  obtain ⟨lists, hlists, hpartition, hcns⟩ := h
  rw [parseMnNodeListsChecked_eq hod] at hlists
  by_cases hlength : entries.length ≤ 255
  · refine ⟨hlength, ?_⟩
    intro i assignment hi hexists hiso
    have hmem := mem_getConfiguredCns hod hi hexists hiso
    rw [hcns] at hmem
    have hpresent := (hpartition.nodeInfo_iff _).mpr (.inl hmem)
    exact ((hpartition.present_iff _).mp hpresent).1
  · rw [if_neg hlength] at hlists
    cases hlists

/-- The node lists are a partition with the nodes of `get_configured_cns` exactly where there are at
most 255 elements and every isochronous assignment has a valid node id. -/
theorem ObjectDictionary.nodeListsAgree_iff (od : ObjectDictionary σ) (entries : List ObjectValue)
    (hod : od.readObject 0x1F81 = some (.array entries)) :
    od.NodeListsAgree entries ↔ entries.length ≤ 255 ∧ ValidPositions entries := by
  constructor
  · intro h
    exact h.conditions hod
  · rintro ⟨hlength, hpositions⟩
    refine ⟨NodeLists.ofAssigned od (assignedNodes entries), ?_,
      isPartition_ofAssigned od hlength, ?_⟩
    · rw [parseMnNodeListsChecked_eq hod, if_pos hlength]
    · rw [getConfiguredCns_eq hod hpositions,
        (NodeLists.holds_ofAssigned od (assignedNodes entries)).isochronousNodes]

/-- A dictionary with the assignment of one isochronous node, after `n` empty elements. -/
def loneNodeOd (n : ℕ) : ObjectDictionary Unit where
  entries := SortedMap.empty.insert 0x1F81
    { object := .array (List.replicate n (.unsigned32 0) ++ [.unsigned32 1])
      name := "NMT_NodeAssignment_AU32"
      access := some .readWriteStore
      defaultValue := none }
  storage := none

theorem ObjectDictionary.nodeListsAgree_two :
    (loneNodeOd 1).NodeListsAgree [.unsigned32 0, .unsigned32 1] := by
  apply (nodeListsAgree_iff (loneNodeOd 1) [.unsigned32 0, .unsigned32 1] rfl).mpr
  refine ⟨by decide, ?_⟩
  intro i assignment hi hexists hiso
  rcases i with _ | _ | i
  · rfl
  · rfl
  · cases hi

/-- `get_configured_cns` lists node 241, which no node may have; element 256 overflows. -/
theorem ObjectDictionary.nodeLists_differ :
    ¬ (loneNodeOd 240).NodeListsAgree (List.replicate 240 (.unsigned32 0) ++ [.unsigned32 1]) ∧
      ¬ (loneNodeOd 255).NodeListsAgree
        (List.replicate 255 (.unsigned32 0) ++ [.unsigned32 1]) := by
  constructor
  · intro h
    obtain ⟨-, hpositions⟩ := h.conditions rfl
    have hid := hpositions 240 1 (by decide +kernel) (by decide) (by decide)
    exact absurd hid (by decide)
  · intro h
    obtain ⟨hlength, -⟩ := h.conditions rfl
    rw [List.length_append, List.length_replicate] at hlength
    exact absurd hlength (by decide)

end Powerlink
