import Powerlink.Od.Typing

/-! # Stored parameters

`store_parameters` collects the values of the storable objects of a group and hands the map to the
backend, `init` lays the map that the backend returns over the firmware entries.  The two are
inverse for one store command: `get?_storableParams` says what the map holds, `init_stored` what the
overlay makes of it.

A backend that returns the map of the last successful save keeps one map, and each store command
collects its own group only.  `stored_parameters_iff` is what follows for a sequence of writes and
store commands: an object comes back exactly if the last store command covers it, or if its firmware
value is the stored one anyway. -/

namespace Powerlink

/-! ### The stored values of an object -/

/-- The value that an object stores under a sub-index; the number of elements is not stored. -/
def Object.stored : Object → UInt8 → Option ObjectValue
  | .variable value, subIndex => if subIndex = 0 then some value else none
  | .array values, subIndex | .record values, subIndex =>
      if subIndex = 0 then none else values[subIndex.toNat - 1]?

/-- The number of stored elements. -/
def Object.size : Object → ℕ
  | .variable _ => 1
  | .array values | .record values => values.length

/-- The type of the value under a sub-index. -/
def ObjectTypes.at : ObjectTypes → UInt8 → Option ℕ
  | .variable value, subIndex => if subIndex = 0 then some value else none
  | .array values, subIndex | .record values, subIndex =>
      if subIndex = 0 then none else values[subIndex.toNat - 1]?

theorem Object.types_at (object : Object) (subIndex : UInt8) :
    object.types.at subIndex = (object.stored subIndex).map ObjectValue.discriminant := by
  rcases object with value | values | values
  · simp only [Object.types, ObjectTypes.at, Object.stored]
    split_ifs <;> rfl
  · simp only [Object.types, ObjectTypes.at, Object.stored]
    split_ifs
    · rfl
    · exact List.getElem?_map
  · simp only [Object.types, ObjectTypes.at, Object.stored]
    split_ifs
    · rfl
    · exact List.getElem?_map

/-- Elements are addressed by the sub-indices from one on. -/
theorem getElem?_of_stored {values values' : List ObjectValue} (hlen : values'.length = values.length)
    (hsize : values.length ≤ 254)
    (h : ∀ subIndex : UInt8, subIndex ≠ 0 →
      values'[subIndex.toNat - 1]? = values[subIndex.toNat - 1]?) : values' = values := by
  refine List.ext_getElem? (fun i => ?_)
  by_cases hi : i < values.length
  · have hsub : (UInt8.ofNat (i + 1)).toNat = i + 1 := by
      rw [UInt8.toNat_ofNat']
      omega
    have hne : UInt8.ofNat (i + 1) ≠ 0 := by
      intro h0
      rw [h0] at hsub
      cases hsub
    have hvalue := h (UInt8.ofNat (i + 1)) hne
    rwa [hsub, Nat.add_sub_cancel] at hvalue
  · rw [List.getElem?_eq_none (by omega), List.getElem?_eq_none (by omega)]

/-- The types of an object give its number of elements. -/
theorem Object.size_of_types {object object' : Object} (h : object'.types = object.types) :
    object'.size = object.size := by
  rcases object with value | values | values <;> rcases object' with value' | values' | values' <;>
    simp only [Object.types, ObjectTypes.array.injEq, ObjectTypes.record.injEq, reduceCtorEq] at h
  · rfl
  · have hlength := congrArg List.length h
    rwa [List.length_map, List.length_map] at hlength
  · have hlength := congrArg List.length h
    rwa [List.length_map, List.length_map] at hlength

/-- An object is given by its types and its stored values. -/
theorem Object.eq_of_stored {object object' : Object} (htypes : object'.types = object.types)
    (hsize : object.size ≤ 254) (h : ∀ subIndex, object'.stored subIndex = object.stored subIndex) :
    object' = object := by
  have hlen := Object.size_of_types htypes
  rcases object with value | values | values <;> rcases object' with value' | values' | values' <;>
    simp only [Object.types, reduceCtorEq] at htypes
  · exact congrArg Object.variable (Option.some.inj (h 0))
  · refine congrArg Object.array (getElem?_of_stored hlen hsize (fun subIndex hne => ?_))
    have hvalue := h subIndex
    simp only [Object.stored, if_neg hne] at hvalue
    exact hvalue
  · refine congrArg Object.record (getElem?_of_stored hlen hsize (fun subIndex hne => ?_))
    have hvalue := h subIndex
    simp only [Object.stored, if_neg hne] at hvalue
    exact hvalue

namespace ObjectDictionary

/-! ### The collected parameters -/

/-- The elements of an array or record, from position `k` on. -/
theorem get?_storeElements (index : UInt16) (subIndex : UInt8) : ∀ (values : List ObjectValue) (k : ℕ)
    (params : StoredParams), k + values.length ≤ 254 →
    ((values.zipIdx k).foldl (fun ps p => ps.insert (index, UInt8.ofNat (p.2 + 1)) p.1) params).get?
        (index, subIndex) =
      (if k < subIndex.toNat then values[subIndex.toNat - 1 - k]? else none).or
        (params.get? (index, subIndex)) := by
  intro values
  induction values with
  | nil => intro k params _; simp
  | cons value values ih =>
      intro k params hlen
      rw [List.length_cons] at hlen
      rw [List.zipIdx_cons, List.foldl_cons, ih (k + 1) _ (by omega), SortedMap.get?_insert]
      have hk : (UInt8.ofNat (k + 1)).toNat = k + 1 := by
        rw [UInt8.toNat_ofNat']
        omega
      have hkey : (index, subIndex) = (index, UInt8.ofNat (k + 1)) ↔ subIndex.toNat = k + 1 := by
        rw [Prod.mk.injEq, ← UInt8.toNat_inj, hk]
        simp
      by_cases hsub : subIndex.toNat = k + 1
      · rw [if_pos (hkey.mpr hsub), if_neg (by omega), if_pos (by omega), hsub]
        simp
      · rw [if_neg (fun h => hsub (hkey.mp h))]
        by_cases hlt : k < subIndex.toNat
        · rw [if_pos (by omega), if_pos hlt]
          obtain ⟨j, hj⟩ : ∃ j, subIndex.toNat - 1 - k = j + 1 := ⟨subIndex.toNat - 2 - k, by omega⟩
          rw [hj, List.getElem?_cons_succ, show subIndex.toNat - 1 - (k + 1) = j by omega]
        · rw [if_neg (by omega), if_neg hlt]

theorem get?_storeEntry {object : Object} (hsize : object.size ≤ 254) (params : StoredParams)
    (index : UInt16) (subIndex : UInt8) :
    (storeEntry params index object).get? (index, subIndex) =
      (object.stored subIndex).or (params.get? (index, subIndex)) := by
  have helements : ∀ {values : List ObjectValue}, values.length ≤ 254 →
      (values.zipIdx.foldl (fun ps p => ps.insert (index, UInt8.ofNat (p.2 + 1)) p.1) params).get?
          (index, subIndex) =
        (if subIndex = 0 then none else values[subIndex.toNat - 1]?).or
          (params.get? (index, subIndex)) := by
    intro values hlen
    rw [get?_storeElements index subIndex values 0 params (by omega)]
    by_cases h0 : subIndex = 0
    · subst h0
      rfl
    · have hpos : 0 < subIndex.toNat := by
        rw [Nat.pos_iff_ne_zero]
        intro h
        exact h0 (UInt8.toNat_inj.mp h)
      rw [if_pos hpos, if_neg h0, Nat.sub_zero]
  rcases object with value | values | values
  · simp only [storeEntry, SortedMap.get?_insert, Object.stored, Prod.mk.injEq, true_and]
    split_ifs <;> rfl
  · exact helements hsize
  · exact helements hsize

theorem get?_storeEntry_ne {index index' : UInt16} (hne : index' ≠ index) (object : Object)
    (subIndex : UInt8) (params : StoredParams) :
    (storeEntry params index object).get? (index', subIndex) = params.get? (index', subIndex) := by
  have hkey : ∀ s : UInt8, (index', subIndex) ≠ (index, s) := by
    intro s h
    exact hne (Prod.mk.inj h).1
  have helements : ∀ (values : List ObjectValue) (k : ℕ) (params : StoredParams),
      ((values.zipIdx k).foldl (fun ps p => ps.insert (index, UInt8.ofNat (p.2 + 1)) p.1) params).get?
          (index', subIndex) = params.get? (index', subIndex) := by
    intro values
    induction values with
    | nil => exact fun _ _ => rfl
    | cons value values ih =>
        intro k params
        rw [List.zipIdx_cons, List.foldl_cons, ih, SortedMap.get?_insert_ne _ _ (hkey _)]
  rcases object with value | values | values
  · exact SortedMap.get?_insert_ne _ _ (hkey 0)
  · exact helements values 0 params
  · exact helements values 0 params

variable {σ : Type}

/-- One round of the loop of `store_parameters`. -/
def storeRound (listToSave : UInt8) (params : StoredParams) (p : UInt16 × ObjectEntry) :
    StoredParams :=
  if shouldSave listToSave p.1 && isStorable p.2.access then storeEntry params p.1 p.2.object
  else params

theorem get?_storeRound_ne {index : UInt16} {p : UInt16 × ObjectEntry} (hne : p.1 ≠ index)
    (listToSave subIndex : UInt8) (params : StoredParams) :
    (storeRound listToSave params p).get? (index, subIndex) = params.get? (index, subIndex) := by
  unfold storeRound
  split_ifs
  · exact get?_storeEntry_ne hne.symm _ _ _
  · rfl

theorem get?_storeRounds_ne {index : UInt16} (listToSave subIndex : UInt8) :
    ∀ (l : List (UInt16 × ObjectEntry)) (params : StoredParams), (∀ p ∈ l, p.1 ≠ index) →
      (l.foldl (storeRound listToSave) params).get? (index, subIndex) =
        params.get? (index, subIndex) := by
  intro l
  induction l with
  | nil => exact fun _ _ => rfl
  | cons p l ih =>
      intro params h
      obtain ⟨hp, hl⟩ := List.forall_mem_cons.mp h
      rw [List.foldl_cons, ih _ hl, get?_storeRound_ne hp]

theorem get?_storeRounds {index : UInt16} {entry : ObjectEntry} (hsize : entry.object.size ≤ 254)
    (listToSave subIndex : UInt8) :
    ∀ (l : List (UInt16 × ObjectEntry)) (params : StoredParams),
      (l.map Prod.fst).Pairwise (fun a b => Ranked.rank a < Ranked.rank b) → (index, entry) ∈ l →
      params.get? (index, subIndex) = none →
      (l.foldl (storeRound listToSave) params).get? (index, subIndex) =
        if shouldSave listToSave index && isStorable entry.access then entry.object.stored subIndex
        else none := by
  intro l
  induction l with
  | nil =>
      intro _ _ hmem
      cases hmem
  | cons p l ih =>
      intro params hsorted hmem hnone
      rw [List.map_cons, List.pairwise_cons] at hsorted
      rw [List.foldl_cons]
      obtain rfl | hmem := List.mem_cons.mp hmem
      · -- the keys behind the entry are greater
        have hrest : ∀ q ∈ l, q.1 ≠ index := by
          intro q hq heq
          have hlt := hsorted.1 q.1 (List.mem_map_of_mem hq)
          rw [heq] at hlt
          exact lt_irrefl _ hlt
        rw [get?_storeRounds_ne _ _ _ _ hrest, storeRound]
        split_ifs
        · rw [get?_storeEntry hsize, hnone, Option.or_none]
        · exact hnone
      · have hne : p.1 ≠ index := by
          intro heq
          have hlt := hsorted.1 index (List.mem_map_of_mem (f := Prod.fst) hmem)
          rw [heq] at hlt
          exact lt_irrefl _ hlt
        refine ih _ hsorted.2 hmem ?_
        rw [get?_storeRound_ne hne, hnone]

/-- The value that the collected parameters hold for a sub-index of an object. -/
theorem get?_storableParams {od : ObjectDictionary σ} {index : UInt16} {entry : ObjectEntry}
    (hentry : od.entries.get? index = some entry) (hsize : entry.object.size ≤ 254)
    (listToSave subIndex : UInt8) :
    (od.storableParams listToSave).get? (index, subIndex) =
      if shouldSave listToSave index && isStorable entry.access then entry.object.stored subIndex
      else none :=
  get?_storeRounds hsize listToSave subIndex od.entries.entries .empty od.entries.sorted
    (SortedMap.mem_of_lookup hentry) rfl

/-! ### The overlay -/

/-- A write of the right type changes the addressed value only. -/
theorem stored_writeObject (index : UInt16) {object : Object} {subIndex : UInt8}
    {value : ObjectValue} (h : object.types.at subIndex = some value.discriminant) :
    ∃ object', writeObject index subIndex value object = .ok object' ∧
      object'.types = object.types ∧
      ∀ subIndex', object'.stored subIndex' =
        if subIndex' = subIndex then some value else object.stored subIndex' := by
  have helements : ∀ {values : List ObjectValue},
      (if subIndex = 0 then none else (values.map ObjectValue.discriminant)[subIndex.toNat - 1]?) =
        some value.discriminant →
      subIndex ≠ 0 ∧ writeElement values index subIndex value =
        .ok (values.set (subIndex.toNat - 1) value) ∧
      ∀ subIndex', (if subIndex' = 0 then none
          else (values.set (subIndex.toNat - 1) value)[subIndex'.toNat - 1]?) =
        if subIndex' = subIndex then some value
        else if subIndex' = 0 then none else values[subIndex'.toNat - 1]? := by
    intro values hvalues
    by_cases h0 : subIndex = 0
    · rw [if_pos h0] at hvalues
      cases hvalues
    · rw [if_neg h0, List.getElem?_map] at hvalues
      obtain ⟨old, hold, htype⟩ := Option.map_eq_some_iff.mp hvalues
      refine ⟨h0, ?_, ?_⟩
      · unfold writeElement
        rw [if_neg h0, hold]
        simp only [ne_eq, htype, not_true_eq_false, if_false]
      · intro subIndex'
        obtain ⟨hlt, -⟩ := List.getElem?_eq_some_iff.mp hold
        by_cases heq : subIndex' = subIndex
        · rw [if_pos heq, heq, if_neg h0, List.getElem?_set_self hlt]
        · rw [if_neg heq]
          by_cases h0' : subIndex' = 0
          · rw [if_pos h0', if_pos h0']
          · have hne : subIndex.toNat - 1 ≠ subIndex'.toNat - 1 := by
              have hpos : subIndex.toNat ≠ 0 := fun h => h0 (UInt8.toNat_inj.mp h)
              have hpos' : subIndex'.toNat ≠ 0 := fun h => h0' (UInt8.toNat_inj.mp h)
              have hdiff : subIndex'.toNat ≠ subIndex.toNat := fun h => heq (UInt8.toNat_inj.mp h)
              omega
            rw [if_neg h0', if_neg h0', List.getElem?_set_ne hne]
  rcases object with old | values | values
  · simp only [Object.types, ObjectTypes.at] at h
    split_ifs at h with h0
    have htype := Option.some.inj h
    refine ⟨.variable value, ?_, congrArg ObjectTypes.variable htype.symm, ?_⟩
    · simp only [writeObject, if_pos h0, htype, ne_eq, not_true_eq_false, if_false]
    · intro subIndex'
      simp only [Object.stored, h0]
      split_ifs <;> rfl
  · obtain ⟨-, hwrite, hstored⟩ := helements h
    have hobject : writeObject index subIndex value (.array values) =
        .ok (.array (values.set (subIndex.toNat - 1) value)) := by
      simp only [writeObject, hwrite]
      rfl
    exact ⟨_, hobject, writeObject_types hobject, hstored⟩
  · obtain ⟨-, hwrite, hstored⟩ := helements h
    have hobject : writeObject index subIndex value (.record values) =
        .ok (.record (values.set (subIndex.toNat - 1) value)) := by
      simp only [writeObject, hwrite]
      rfl
    exact ⟨_, hobject, writeObject_types hobject, hstored⟩

/-- One stored parameter in the loop of `init`. -/
def overlayRound (od : ObjectDictionary σ) (p : (UInt16 × UInt8) × ObjectValue) :
    ObjectDictionary σ :=
  (od.writeInternal p.1.1 p.1.2 p.2 false).2

theorem get?_overlayRound_ne (od : ObjectDictionary σ) {p : (UInt16 × UInt8) × ObjectValue}
    {index : UInt16} (hne : index ≠ p.1.1) :
    (od.overlayRound p).entries.get? index = od.entries.get? index := by
  unfold overlayRound writeInternal
  split
  · rfl
  · split_ifs
    · rfl
    · split
      · rfl
      · exact (SortedMap.get?_modify _ _ _ _).trans (if_neg hne)

/-- The object after the overlay: where a parameter is stored it has that value. -/
theorem get?_overlay {index : UInt16} :
    ∀ (l : List ((UInt16 × UInt8) × ObjectValue)) (od : ObjectDictionary σ) {entry : ObjectEntry},
      (l.map Prod.fst).Nodup → od.entries.get? index = some entry →
      (∀ p ∈ l, p.1.1 = index → entry.object.types.at p.1.2 = some p.2.discriminant) →
      ∃ object, (l.foldl overlayRound od).entries.get? index = some { entry with object := object } ∧
        object.types = entry.object.types ∧
        ∀ subIndex, (∀ value, ((index, subIndex), value) ∈ l →
            object.stored subIndex = some value) ∧
          ((index, subIndex) ∉ l.map Prod.fst →
            object.stored subIndex = entry.object.stored subIndex) := by
  intro l
  induction l with
  | nil =>
      intro od entry _ hentry _
      refine ⟨_, hentry, rfl, fun subIndex => ⟨?_, fun _ => rfl⟩⟩
      intro value hmem
      cases hmem
  | cons p l ih =>
      intro od entry hnodup hentry htyped
      obtain ⟨⟨index', subIndex'⟩, value⟩ := p
      rw [List.map_cons, List.nodup_cons] at hnodup
      obtain ⟨hp, hl⟩ := List.forall_mem_cons.mp htyped
      rw [List.foldl_cons]
      by_cases hindex : index' = index
      · subst hindex
        obtain ⟨object, hwrite, htypes, hstored⟩ := stored_writeObject index' (hp rfl)
        have hget : (od.overlayRound ((index', subIndex'), value)).entries.get? index' =
            some { entry with object := object } := by
          unfold overlayRound writeInternal
          rw [hentry]
          simp only [Bool.false_and, Bool.false_eq_true, if_false, hwrite]
          rw [SortedMap.get?_modify, if_pos rfl, hentry]
          rfl
        obtain ⟨object', hget', htypes', hstored'⟩ := ih _ hnodup.2 hget
          (fun q hq hindex => by rw [htypes]; exact hl q hq hindex)
        refine ⟨object', hget', htypes'.trans htypes, fun subIndex => ⟨?_, ?_⟩⟩
        · intro v hmem
          obtain heq | hmem := List.mem_cons.mp hmem
          · -- no later parameter has the same key
            obtain ⟨hkey, rfl⟩ := Prod.mk.inj heq
            obtain ⟨-, rfl⟩ := Prod.mk.inj hkey
            rw [(hstored' subIndex).2 hnodup.1, hstored, if_pos rfl]
          · exact (hstored' subIndex).1 v hmem
        · intro hkey
          rw [List.map_cons, List.mem_cons, not_or] at hkey
          have hsub : subIndex ≠ subIndex' := fun h => hkey.1 (by rw [h])
          rw [(hstored' subIndex).2 hkey.2, hstored, if_neg hsub]
      · have hne : index ≠ index' := fun h => hindex h.symm
        obtain ⟨object, hget, htypes, hstored⟩ := ih _ hnodup.2
          ((od.get?_overlayRound_ne (p := ((index', subIndex'), value)) hne).trans hentry) hl
        refine ⟨object, hget, htypes, fun subIndex => ⟨?_, ?_⟩⟩
        · intro v hmem
          obtain heq | hmem := List.mem_cons.mp hmem
          · exact absurd (Prod.mk.inj (Prod.mk.inj heq).1).1 hne
          · exact (hstored subIndex).1 v hmem
        · intro hkey
          exact (hstored subIndex).2 (fun h => hkey (List.mem_cons_of_mem _ h))

/-! ### Start-up -/

theorem get?_insertIfMissing {od : ObjectDictionary σ} {index index' : UInt16}
    {entry' : ObjectEntry} (h : od.entries.get? index' = some entry') (entry : ObjectEntry) :
    (od.insertIfMissing index entry).entries.get? index' = some entry' := by
  unfold insertIfMissing
  split_ifs with hsome
  · exact h
  · have hne : index' ≠ index := by
      rintro rfl
      rw [h] at hsome
      exact hsome rfl
    exact (SortedMap.get?_insert_ne _ _ hne).trans h

/-- The protocol objects are added to the firmware entries. -/
theorem populateProtocolObjects_spec (od : ObjectDictionary σ) :
    od.populateProtocolObjects.storage = od.storage ∧
      ∀ index entry, od.entries.get? index = some entry →
        od.populateProtocolObjects.entries.get? index = some entry := by
  have hfold : ∀ (objects : List (UInt16 × ObjectEntry)) (od : ObjectDictionary σ),
      (objects.foldl (fun od p => od.insertIfMissing p.1 p.2) od).storage = od.storage ∧
        ∀ index entry, od.entries.get? index = some entry →
          (objects.foldl (fun od p => od.insertIfMissing p.1 p.2) od).entries.get? index =
            some entry := by
    intro objects
    induction objects with
    | nil => exact fun _ => ⟨rfl, fun _ _ h => h⟩
    | cons p objects ih =>
        intro od
        obtain ⟨hstorage, hentries⟩ := ih (od.insertIfMissing p.1 p.2)
        refine ⟨hstorage.trans ?_, fun index entry h => hentries index entry ?_⟩
        · unfold insertIfMissing
          split_ifs <;> rfl
        · exact get?_insertIfMissing h p.2
  exact hfold protocolObjects od

variable [ObjectDictionaryStorage σ]

/-- The branch of `init` that loads the stored parameters. -/
theorem init_eq (od : ObjectDictionary σ) {d : ObjectDictionary σ} {s s' : σ} {params : StoredParams}
    (hd : od.populateProtocolObjects = d) (hs : d.storage = some s)
    (hflag : ObjectDictionaryStorage.restoreDefaultsRequested s = false)
    (hload : ObjectDictionaryStorage.load s = (.ok params, s')) :
    od.init = (.ok (), params.entries.foldl overlayRound { d with storage := some s' }) := by
  unfold init
  rw [hd]
  simp only [hs, hflag, Bool.false_eq_true, if_false, hload]
  rfl

/-- What `init` makes of a map of stored parameters that agrees with the types of an object. -/
theorem init_stored (od : ObjectDictionary σ) {s s' : σ} {params : StoredParams} {index : UInt16}
    {entry : ObjectEntry} (hs : od.storage = some s)
    (hflag : ObjectDictionaryStorage.restoreDefaultsRequested s = false)
    (hload : ObjectDictionaryStorage.load s = (.ok params, s'))
    (hentry : od.entries.get? index = some entry)
    (htyped : ∀ subIndex value, params.get? (index, subIndex) = some value →
      entry.object.types.at subIndex = some value.discriminant) :
    od.init.1 = .ok () ∧ ∃ object, od.init.2.readObject index = some object ∧
      object.types = entry.object.types ∧
      ∀ subIndex, object.stored subIndex =
        (params.get? (index, subIndex)).or (entry.object.stored subIndex) := by
  obtain ⟨hstorage, hentries⟩ := od.populateProtocolObjects_spec
  have hinit := od.init_eq rfl (hstorage.trans hs) hflag hload
  generalize od.populateProtocolObjects = d at hentries hinit
  have hnodup : (params.entries.map Prod.fst).Nodup := by
    refine params.sorted.imp ?_
    intro a b hlt heq
    rw [heq] at hlt
    exact lt_irrefl _ hlt
  obtain ⟨object, hget, htypes, hstored⟩ := get?_overlay params.entries
    { d with storage := some s' } hnodup (hentries index entry hentry) (by
      rintro ⟨⟨index', subIndex⟩, value⟩ hmem rfl
      exact htyped subIndex value ((params.mem_entries_iff _ _).mp hmem))
  rw [hinit]
  refine ⟨rfl, object, ?_, htypes, ?_⟩
  · unfold readObject
    rw [hget]
    rfl
  · intro subIndex
    cases hparam : params.get? (index, subIndex) with
    | some value => exact (hstored subIndex).1 value ((params.mem_entries_iff _ _).mpr hparam)
    | none =>
        refine (hstored subIndex).2 ?_
        intro hkey
        obtain ⟨p, hp, hpkey⟩ := List.mem_map.mp hkey
        have hsome := (params.mem_entries_iff p.1 p.2).mp hp
        rw [hpkey, hparam] at hsome
        cases hsome

end ObjectDictionary

/-! ### Store commands -/

/-- A backend that returns the map of the last successful save, and whose flag is left alone by a
save. -/
structure KeepsLastSave {σ : Type} [ObjectDictionaryStorage σ] (content : σ → StoredParams) :
    Prop where
  load : ∀ s : σ, (ObjectDictionaryStorage.load s).1 = .ok (content s)
  save : ∀ (s : σ) params, content (ObjectDictionaryStorage.save s params).2 =
    match (ObjectDictionaryStorage.save s params).1 with
    | .ok () => params
    | .error _ => content s
  flag : ∀ (s : σ) params,
    ObjectDictionaryStorage.restoreDefaultsRequested (ObjectDictionaryStorage.save s params).2 =
      ObjectDictionaryStorage.restoreDefaultsRequested s

/-- The groups of parameters that can be stored. -/
inductive ParamGroup where
  | all
  | communication
  | application
deriving DecidableEq, Repr

/-- The sub-index of a group in `0x1010`. -/
def ParamGroup.subIndex : ParamGroup → UInt8
  | all => 1
  | communication => 2
  | application => 3

/-- The group contains the object. -/
def ParamGroup.Covers (group : ParamGroup) (index : UInt16) : Prop :=
  ObjectDictionary.shouldSave group.subIndex index = true

instance (group : ParamGroup) (index : UInt16) : Decidable (group.Covers index) :=
  inferInstanceAs (Decidable (_ = true))

/-- The write is a store or restore command. -/
def IsCommand (index : UInt16) (subIndex : UInt8) (value : ObjectValue) : Prop :=
  (index = 0x1010 ∧ value = .visibleString "save" ∨
    index = 0x1011 ∧ value = .visibleString "load") ∧ subIndex > 0

instance (index : UInt16) (subIndex : UInt8) (value : ObjectValue) :
    Decidable (IsCommand index subIndex value) :=
  inferInstanceAs (Decidable ((_ ∧ _ ∨ _ ∧ _) ∧ _))

/-- A write that is no command, or a store command. -/
inductive StoreCall where
  | write (index : UInt16) (subIndex : UInt8) (value : ObjectValue)
      (hplain : ¬ IsCommand index subIndex value)
  | store (group : ParamGroup)

/-- A dictionary, and the entries that it had at each successful store command, the last one
first. -/
structure StoreRun (σ : Type) where
  od : ObjectDictionary σ
  stores : List (ParamGroup × SortedMap UInt16 ObjectEntry)

namespace StoreRun

variable {σ : Type} [ObjectDictionaryStorage σ]

/-- One call. -/
def step (r : StoreRun σ) : StoreCall → StoreRun σ
  | .write index subIndex value _ => { r with od := (r.od.write index subIndex value).2 }
  | .store group =>
      let (result, od) := r.od.write 0x1010 group.subIndex (.visibleString "save")
      ⟨od, match result with
        | .ok () => (group, r.od.entries) :: r.stores
        | .error _ => r.stores⟩

omit [ObjectDictionaryStorage σ] in
/-- The object at the last store command that covers it. -/
def lastStored (r : StoreRun σ) (index : UInt16) : Option Object :=
  (r.stores.find? (fun p => decide (p.1.Covers index))).bind
    (fun p => (p.2.get? index).map ObjectEntry.object)

omit [ObjectDictionaryStorage σ] in
/-- The last store command covers the object. -/
def LastCovers (r : StoreRun σ) (index : UInt16) : Prop :=
  ∃ p, r.stores.head? = some p ∧ p.1.Covers index

/-- A fresh dictionary with the firmware entries over the backend of the run, initialised. -/
def reboot (r : StoreRun σ) (firmware : SortedMap UInt16 ObjectEntry) :
    Except PowerlinkError Unit × ObjectDictionary σ :=
  ObjectDictionary.init ⟨firmware, r.od.storage⟩

end StoreRun

/-- The entries are those of the firmware with other values of the same types. -/
def Rewritten (firmware entries : SortedMap UInt16 ObjectEntry) : Prop :=
  ∀ index entry, firmware.get? index = some entry →
    ∃ object, entries.get? index = some { entry with object := object } ∧
      object.types = entry.object.types

theorem Rewritten.refl (firmware : SortedMap UInt16 ObjectEntry) : Rewritten firmware firmware :=
  fun _ entry h => ⟨entry.object, h, rfl⟩

theorem Rewritten.writeInternal {σ : Type} {firmware : SortedMap UInt16 ObjectEntry}
    {od : ObjectDictionary σ} (h : Rewritten firmware od.entries) (index : UInt16) (subIndex : UInt8)
    (value : ObjectValue) (checkAccess : Bool) :
    Rewritten firmware (od.writeInternal index subIndex value checkAccess).2.entries := by
  unfold ObjectDictionary.writeInternal
  split
  · exact h
  · rename_i current hcurrent
    split_ifs
    · exact h
    · split
      · exact h
      · rename_i object hobject
        intro index' entry hentry
        obtain ⟨object', hget, htypes⟩ := h index' entry hentry
        dsimp only
        rw [SortedMap.get?_modify]
        split_ifs with heq
        · subst heq
          rw [hcurrent] at hget
          obtain rfl := Option.some.inj hget
          rw [hcurrent]
          exact ⟨object, rfl, (ObjectDictionary.writeObject_types hobject).trans htypes⟩
        · exact ⟨object', hget, htypes⟩

namespace StoreRun

variable {σ : Type} [ObjectDictionaryStorage σ] {content : σ → StoredParams}
  {firmware : SortedMap UInt16 ObjectEntry} {r : StoreRun σ}

/-- The invariant of a run over a backend: only values of the firmware entries change, and the
backend holds the map of the last store command. -/
structure Inv (content : σ → StoredParams) (firmware : SortedMap UInt16 ObjectEntry)
    (r : StoreRun σ) : Prop where
  entries : Rewritten firmware r.od.entries
  snapshots : ∀ p ∈ r.stores, Rewritten firmware p.2
  storage : ∃ s, r.od.storage = some s ∧
    ObjectDictionaryStorage.restoreDefaultsRequested s = false ∧
    ∀ p, r.stores.head? = some p →
      content s = (⟨p.2, none⟩ : ObjectDictionary σ).storableParams p.1.subIndex

/-- A write that is no command changes a value of its type, or nothing. -/
theorem inv_write (h : Inv content firmware r) {index : UInt16} {subIndex : UInt8}
    {value : ObjectValue} (hplain : ¬ IsCommand index subIndex value) :
    Inv content firmware (r.step (.write index subIndex value hplain)) := by
  have hinternal : Inv content firmware
      { r with od := (r.od.writeInternal index subIndex value true).2 } := by
    refine ⟨h.entries.writeInternal index subIndex value true, h.snapshots, ?_⟩
    have hstorage : (r.od.writeInternal index subIndex value true).2.storage = r.od.storage := by
      unfold ObjectDictionary.writeInternal
      split
      · rfl
      · split_ifs
        · rfl
        · split <;> rfl
    dsimp only
    rw [hstorage]
    exact h.storage
  unfold step ObjectDictionary.write
  dsimp only
  split_ifs with hstore hsave hrestore hload hpdo
  · exact absurd ⟨.inl ⟨hstore, hsave.1⟩, hsave.2⟩ hplain
  · exact h
  · exact absurd ⟨.inr ⟨hrestore, hload.1⟩, hload.2⟩ hplain
  · exact h
  · split
    · split
      · exact h
      · exact hinternal
    · exact h
  · exact hinternal

/-- A store command replaces the map of the backend, if it succeeds. -/
theorem inv_store (hcontent : KeepsLastSave content) (h : Inv content firmware r)
    (group : ParamGroup) : Inv content firmware (r.step (.store group)) := by
  obtain ⟨s, hs, hflag, hlast⟩ := h.storage
  have hwrite : r.od.write 0x1010 group.subIndex (.visibleString "save") =
      ((ObjectDictionaryStorage.save s (r.od.storableParams group.subIndex)).1,
        ⟨r.od.entries,
          some (ObjectDictionaryStorage.save s (r.od.storableParams group.subIndex)).2⟩) := by
    have hpos : group.subIndex > 0 := by cases group <;> decide
    have hne : group.subIndex ≠ 0 := by cases group <;> decide
    unfold ObjectDictionary.write ObjectDictionary.storeParameters
    rw [if_pos rfl, if_pos ⟨rfl, hpos⟩, if_neg hne, hs]
  have hsave := hcontent.save s (r.od.storableParams group.subIndex)
  have hflag' := (hcontent.flag s (r.od.storableParams group.subIndex)).trans hflag
  unfold step
  dsimp only
  rw [hwrite]
  generalize ObjectDictionaryStorage.save s (r.od.storableParams group.subIndex) = w at hsave hflag'
  obtain ⟨result, s'⟩ := w
  dsimp only at hsave hflag' ⊢
  cases result with
  | error e => exact ⟨h.entries, h.snapshots, s', rfl, hflag', fun p hp => hsave.trans (hlast p hp)⟩
  | ok =>
      refine ⟨h.entries, ?_, s', rfl, hflag', ?_⟩
      · exact List.forall_mem_cons.mpr ⟨h.entries, h.snapshots⟩
      · intro p hp
        obtain rfl := Option.some.inj hp
        exact hsave

theorem inv_run (hcontent : KeepsLastSave content) {s : σ}
    (hflag : ObjectDictionaryStorage.restoreDefaultsRequested s = false)
    (firmware : SortedMap UInt16 ObjectEntry) (calls : List StoreCall) :
    Inv content firmware (Runs.run step ⟨⟨firmware, some s⟩, []⟩ calls) := by
  have hstart : Inv content firmware ⟨⟨firmware, some s⟩, []⟩ := by
    refine ⟨.refl firmware, ?_, s, rfl, hflag, ?_⟩
    · intro p hp
      cases hp
    · intro p hp
      cases hp
  refine (Runs.always_of_step ?_ calls hstart).last
  intro r call h
  cases call with
  | write index subIndex value hplain => exact inv_write h hplain
  | store group => exact inv_store hcontent h group

/-- What the start-up after a run gives, for the object of the last store command. -/
theorem reboot_spec (hcontent : KeepsLastSave content) (h : Inv content firmware r)
    {p : ParamGroup × SortedMap UInt16 ObjectEntry} (hp : r.stores.head? = some p) {index : UInt16}
    {entry : ObjectEntry} (hentry : firmware.get? index = some entry)
    (hsize : entry.object.size ≤ 254) (hstorable : ObjectDictionary.isStorable entry.access = true) :
    (r.reboot firmware).1 = .ok () ∧
      (r.reboot firmware).2.readObject index =
        if p.1.Covers index then (p.2.get? index).map ObjectEntry.object
        else some entry.object := by
  obtain ⟨s, hs, hflag, hlast⟩ := h.storage
  obtain ⟨snapshot, hsnapshot, htypes⟩ := h.snapshots p (List.mem_of_mem_head? hp) index entry hentry
  have hsnapshotSize : snapshot.size ≤ 254 := by rwa [Object.size_of_types htypes]
  have hload : ObjectDictionaryStorage.load s = (.ok (content s), (ObjectDictionaryStorage.load s).2) :=
    Prod.ext (hcontent.load s) rfl
  have hparams : ∀ subIndex, (content s).get? (index, subIndex) =
      if p.1.Covers index then snapshot.stored subIndex else none := by
    intro subIndex
    rw [hlast p hp, ObjectDictionary.get?_storableParams hsnapshot hsnapshotSize]
    simp only [hstorable, Bool.and_true]
    rfl
  have htyped : ∀ subIndex value, (content s).get? (index, subIndex) = some value →
      entry.object.types.at subIndex = some value.discriminant := by
    intro subIndex value hvalue
    rw [hparams] at hvalue
    split_ifs at hvalue
    rw [← htypes, Object.types_at, hvalue]
    rfl
  obtain ⟨hok, object, hread, hobject, hstored⟩ :=
    ObjectDictionary.init_stored ⟨firmware, r.od.storage⟩ hs hflag hload hentry htyped
  refine ⟨hok, hread.trans ?_⟩
  rw [hsnapshot, Option.map_some]
  split_ifs with hcovers
  · refine congrArg some (Object.eq_of_stored (hobject.trans htypes.symm) hsnapshotSize ?_)
    intro subIndex
    rw [hstored, hparams, if_pos hcovers]
    cases hvalue : snapshot.stored subIndex with
    | some value => rfl
    | none =>
        -- the two objects have values under the same sub-indices
        have htype := entry.object.types_at subIndex
        rw [← htypes, snapshot.types_at, hvalue, Option.map_none] at htype
        exact Option.map_eq_none_iff.mp htype.symm
  · refine congrArg some (Object.eq_of_stored hobject hsize ?_)
    intro subIndex
    rw [hstored, hparams, if_neg hcovers, Option.none_or]

/-- A storable object that was stored comes back with the value that it had at the last store
command that covers it, exactly if that command is the last one of all, or its value is the one of
the firmware. -/
theorem stored_parameters_iff (hcontent : KeepsLastSave content) {s : σ}
    (hflag : ObjectDictionaryStorage.restoreDefaultsRequested s = false)
    (firmware : SortedMap UInt16 ObjectEntry)
    (hsize : ∀ index entry, firmware.get? index = some entry → entry.object.size ≤ 254)
    (calls : List StoreCall) {index : UInt16} {entry : ObjectEntry} {object : Object}
    (hentry : firmware.get? index = some entry)
    (hstorable : ObjectDictionary.isStorable entry.access = true)
    (hlast : (Runs.run step ⟨⟨firmware, some s⟩, []⟩ calls).lastStored index = some object) :
    let r := Runs.run step ⟨⟨firmware, some s⟩, []⟩ calls
    (r.reboot firmware).1 = .ok () ∧
      ((r.reboot firmware).2.readObject index = some object ↔
        r.LastCovers index ∨ entry.object = object) := by
  have hinv := inv_run hcontent hflag firmware calls
  intro r
  have hhead : ∃ p, r.stores.head? = some p := by
    obtain ⟨p, hp, -⟩ := Option.bind_eq_some_iff.mp hlast
    cases hstores : r.stores with
    | nil =>
        rw [show (Runs.run step ⟨⟨firmware, some s⟩, []⟩ calls).stores = [] from hstores] at hp
        cases hp
    | cons q rest => exact ⟨q, rfl⟩
  obtain ⟨p, hp⟩ := hhead
  obtain ⟨hok, hread⟩ := reboot_spec hcontent hinv hp hentry (hsize index entry hentry) hstorable
  refine ⟨hok, ?_⟩
  rw [hread]
  have hcovers : r.LastCovers index ↔ p.1.Covers index := by
    constructor
    · rintro ⟨q, hq, h⟩
      rw [hp] at hq
      rwa [Option.some.inj hq]
    · exact fun h => ⟨p, hp, h⟩
  rw [hcovers]
  split_ifs with h
  · -- the last store command is the last one that covers the object
    have hfirst : r.lastStored index = (p.2.get? index).map ObjectEntry.object := by
      unfold lastStored
      obtain ⟨rest, hstores⟩ := List.head?_eq_some_iff.mp hp
      rw [hstores, List.find?_cons_of_pos (by simpa using h)]
      rfl
    exact iff_of_true (hfirst.symm.trans hlast) (.inl h)
  · rw [Option.some.injEq]
    exact ⟨fun heq => .inr heq, fun heq => heq.resolve_left h⟩

end StoreRun

/-! ### A backend in memory -/

/-- A backend that keeps its map in memory and never fails. -/
structure MemoryStorage where
  savedData : StoredParams
  restoreRequested : Bool
deriving DecidableEq

instance : ObjectDictionaryStorage MemoryStorage where
  load s := (.ok s.savedData, s)
  save s params := (.ok (), { s with savedData := params })
  clear s := (.ok (), { s with savedData := .empty })
  restoreDefaultsRequested s := s.restoreRequested
  requestRestoreDefaults s := (.ok (), { s with restoreRequested := true })
  clearRestoreDefaultsFlag s := (.ok (), { s with restoreRequested := false })

theorem keepsLastSave_memoryStorage : KeepsLastSave MemoryStorage.savedData where
  load _ := rfl
  save _ _ := rfl
  flag _ _ := rfl

/-- A storable object of the communication area and one of the application area. -/
def storableFirmware : SortedMap UInt16 ObjectEntry :=
  (SortedMap.empty.insert 0x1300 ⟨.variable (.unsigned32 15000), "SDO_SequLayerTimeout_U32",
    some .readWriteStore, none⟩).insert 0x6000 ⟨.array [.unsigned8 0, .unsigned8 0], "Outputs",
      some .readWriteStore, none⟩

/-- The communication object is written and stored, then the application parameters are stored. -/
def partialStores : List StoreCall :=
  [.write 0x1300 0 (.unsigned32 500) (by decide), .store .communication, .store .application]

/-- The state after these calls. -/
def partialRun (calls : List StoreCall) : StoreRun MemoryStorage :=
  Runs.run StoreRun.step ⟨⟨storableFirmware, some ⟨.empty, false⟩⟩, []⟩ calls

/-- What is stored once comes back. -/
theorem stored_once_comes_back :
    ((partialRun (partialStores.take 2)).reboot storableFirmware).2.readObject 0x1300 =
      some (.variable (.unsigned32 500)) := by
  have hentry : storableFirmware.get? 0x1300 = some ⟨.variable (.unsigned32 15000),
      "SDO_SequLayerTimeout_U32", some .readWriteStore, none⟩ := by decide
  refine (StoreRun.stored_parameters_iff keepsLastSave_memoryStorage (s := ⟨.empty, false⟩) rfl
    storableFirmware ?_ (partialStores.take 2) hentry rfl (by decide)).2.mpr
    (.inl ⟨(.communication, _), rfl, by decide⟩)
  have hsizes : ∀ p ∈ storableFirmware.entries, p.2.object.size ≤ 254 := by decide
  intro index entry hentry
  exact hsizes (index, entry) (SortedMap.mem_of_lookup hentry)

/-- The second store command drops what the first one stored. -/
theorem partial_store_drops_parameters :
    (partialRun partialStores).lastStored 0x1300 = some (.variable (.unsigned32 500)) ∧
      ((partialRun partialStores).reboot storableFirmware).2.readObject 0x1300 =
        some (.variable (.unsigned32 15000)) := by
  decide

end Powerlink
