import Powerlink.Xdc.Converter
import Powerlink.Xdc.Kept

/-! # The storage map and the dictionary

`toCoreOd` and `xdcToStorageMap` walk a file independently.  In a file without repeated indices the
map holds exactly the values of the file (`get?_xdcToStorageMap_iff`), and the dictionary has the
entry of each object.  The dictionary lets an array or record end where its count says, and derives
the count from the number of elements: the two agree exactly if all sub-indices lie inside and the
value at sub-index `0` is that count (`storage_agrees_iff`). -/

namespace PowerlinkXdc.Converter

open Powerlink (ObjectValue StoredParams)

variable {σ : Type} {p : TextParsers} {f : Types.XdcFile}

/-! ### Distinct indices -/

/-- No index occurs twice, and no sub-index twice in an object. -/
structure Distinct (f : Types.XdcFile) : Prop where
  indices : (f.objectDictionary.objects.map (fun o => o.index)).Nodup
  subIndices : ∀ o ∈ f.objectDictionary.objects, (o.subObjects.map (fun s => s.subIndex)).Nodup

theorem Distinct.lastObject_eq (h : Distinct f) {o : Types.Object}
    (ho : o ∈ f.objectDictionary.objects) : lastObject f o.index = some o := by
  refine Collect.find?_reverse_of_unique ho (decide_eq_true rfl) ?_
  intro o' ho' hindex
  exact List.inj_on_of_nodup_map h.indices ho' ho (of_decide_eq_true hindex)

theorem Distinct.lastSubObject_eq (h : Distinct f) {o : Types.Object}
    (ho : o ∈ f.objectDictionary.objects) {s : Types.SubObject} (hs : s ∈ o.subObjects) :
    lastSubObject o s.subIndex = some s := by
  refine Collect.find?_reverse_of_unique hs (decide_eq_true rfl) ?_
  intro s' hs' hindex
  exact List.inj_on_of_nodup_map (h.subIndices o ho) hs' hs (of_decide_eq_true hindex)

/-! ### What the map holds -/

/-- The sub-indices of an object that `xdc_to_storage_map` visits. -/
def storedAttributes (o : Types.Object) : List (UInt8 × Types.Attributes) :=
  if o.objectType = "7" then [(0, o.toAttributes)]
  else o.subObjects.map (fun s => (s.subIndex, s.toAttributes))

/-- The file gives a value for an index and sub-index. -/
def Gives (p : TextParsers) (o : Types.Object) (subIndex : UInt8) (value : ObjectValue) : Prop :=
  ∃ a, (subIndex, a) ∈ storedAttributes o ∧ valueOf p a = .ok (some value)

/-- A value goes into the map, if there is one. -/
theorem storeValue_eq_ok {map map' : StoredParams} {index : UInt16} {subIndex : UInt8}
    {a : Types.Attributes} (h : storeValue p map index subIndex a = .ok map') :
    ∃ value, valueOf p a = .ok value ∧
      map' = (value.map (fun v => map.insert (index, subIndex) v)).getD map := by
  unfold storeValue at h
  unfold valueOf
  cases hdata : a.data with
  | none =>
      rw [hdata] at h
      cases h
      exact ⟨none, rfl, rfl⟩
  | some data =>
      cases htype : a.dataType with
      | none =>
          rw [hdata, htype] at h
          cases h
          exact ⟨none, rfl, rfl⟩
      | some dataTypeId =>
          rw [hdata, htype] at h
          obtain ⟨value, hvalue, h⟩ := Powerlink.bind_eq_ok_iff.mp h
          refine ⟨value, hvalue, ?_⟩
          cases value with
          | none =>
              cases h
              rfl
          | some v =>
              cases h
              rfl

/-- The loops of `xdc_to_storage_map` as one loop. -/
theorem xdcToStorageMap_eq (p : TextParsers) (f : Types.XdcFile) :
    xdcToStorageMap p f =
      (f.objectDictionary.objects.flatMap
        (fun o => (storedAttributes o).map (fun c => (o.index, c)))).foldlM
          (fun map c => storeValue p map c.1 c.2.1 c.2.2) .empty := by
  rw [xdcToStorageMap, Collect.foldlM_flatMap]
  congr 1
  funext map o
  rw [storeObject, storedAttributes]
  split_ifs
  · rw [List.map_singleton, List.foldlM_cons]
    simp only [List.foldlM_nil, bind_pure]
  · rw [List.map_map, List.foldlM_map]
    rfl

/-- No sub-index of an object is visited twice. -/
theorem storedAttributes_unique (h : Distinct f) {o : Types.Object}
    (ho : o ∈ f.objectDictionary.objects) {c c' : UInt8 × Types.Attributes}
    (hc : c ∈ storedAttributes o) (hc' : c' ∈ storedAttributes o) (heq : c.1 = c'.1) : c = c' := by
  unfold storedAttributes at hc hc'
  split_ifs at hc hc'
  · rw [List.mem_singleton.mp hc, List.mem_singleton.mp hc']
  · obtain ⟨s, hs, rfl⟩ := List.mem_map.mp hc
    obtain ⟨s', hs', rfl⟩ := List.mem_map.mp hc'
    rw [List.inj_on_of_nodup_map (h.subIndices o ho) hs hs' heq]

/-- The value of some attributes, if they have one. -/
theorem join_toOption_eq_some_iff {x : Except XdcError (Option ObjectValue)} {value : ObjectValue} :
    x.toOption.join = some value ↔ x = .ok (some value) := by
  cases x with
  | error e => exact iff_of_false nofun nofun
  | ok v => exact ⟨fun h => congrArg Except.ok h, fun h => Except.ok.inj h⟩

/-- In a file without repeated indices the map holds the values that the file gives. -/
theorem get?_xdcToStorageMap_iff (hdistinct : Distinct f) {map : StoredParams}
    (h : xdcToStorageMap p f = .ok map) (index : UInt16) (subIndex : UInt8)
    (value : ObjectValue) :
    map.get? (index, subIndex) = some value ↔
      ∃ o ∈ f.objectDictionary.objects, o.index = index ∧ Gives p o subIndex value := by
  rw [xdcToStorageMap_eq] at h
  have hread := (Collect.read_foldlM (fun _ => True) (fun map => map.get? (index, subIndex))
    (fun c => decide ((c.1, c.2.1) = (index, subIndex)) &&
      (valueOf p c.2.2).toOption.join.isSome)
    (fun c => (valueOf p c.2.2).toOption.join) ?_ trivial h).2
  · rw [hread]
    constructor
    · intro hvalue
      split at hvalue
      · rename_i c hfind
        have hmem := List.mem_reverse.mp (List.mem_of_find?_eq_some hfind)
        have hhits := List.find?_some hfind
        obtain ⟨o, ho, hc⟩ := List.mem_flatMap.mp hmem
        obtain ⟨c', hc', rfl⟩ := List.mem_map.mp hc
        rw [Bool.and_eq_true, decide_eq_true_eq] at hhits
        obtain ⟨hindex, hsub⟩ := Prod.mk.inj hhits.1
        refine ⟨o, ho, hindex, c'.2, ?_, join_toOption_eq_some_iff.mp hvalue⟩
        rw [← hsub]
        exact hc'
      · cases hvalue
    · rintro ⟨o, ho, rfl, a, ha, hvalue⟩
      have hjoin := join_toOption_eq_some_iff.mpr hvalue
      rw [Collect.find?_reverse_of_unique (a := (o.index, subIndex, a)) ?_ ?_ ?_]
      · exact hjoin
      · exact List.mem_flatMap.mpr ⟨o, ho, List.mem_map.mpr ⟨_, ha, rfl⟩⟩
      · rw [Bool.and_eq_true, decide_eq_true_eq, hjoin]
        exact ⟨rfl, rfl⟩
      · intro c hc hhits
        obtain ⟨o', ho', hc⟩ := List.mem_flatMap.mp hc
        obtain ⟨c', hc', rfl⟩ := List.mem_map.mp hc
        rw [Bool.and_eq_true, decide_eq_true_eq] at hhits
        obtain ⟨hindex, hsub⟩ := Prod.mk.inj hhits.1
        obtain rfl := List.inj_on_of_nodup_map hdistinct.indices ho' ho hindex
        have hsame : c' = (subIndex, a) := storedAttributes_unique hdistinct ho hc' ha hsub
        rw [hsame]
  · intro map c map' _ hstep
    obtain ⟨stored, hstored, rfl⟩ := storeValue_eq_ok hstep
    refine ⟨trivial, ?_⟩
    rw [hstored]
    cases stored with
    | none => simp [Except.toOption]
    | some v =>
        dsimp only [Option.map_some, Option.getD_some]
        rw [SortedMap.get?_insert]
        by_cases hkey : (c.1, c.2.1) = (index, subIndex)
        · rw [if_pos hkey.symm, if_pos (by simp [hkey, Except.toOption])]
          rfl
        · rw [if_neg (fun h => hkey h.symm), if_neg (by simp [hkey])]

/-! ### What the dictionary holds -/

/-- The dictionary holds each object of the file. -/
theorem exists_read (hdistinct : Distinct f) {od : Powerlink.ObjectDictionary σ}
    (h : toCoreOd p f = .ok od) {o : Types.Object} (ho : o ∈ f.objectDictionary.objects) :
    ∃ object, mapObject p o = .ok object ∧
      ∀ subIndex, od.read o.index subIndex = object.read subIndex := by
  obtain ⟨entry, hentry, hobject, -⟩ := exists_entry h (hdistinct.lastObject_eq ho)
  refine ⟨entry.object, hobject, ?_⟩
  intro subIndex
  rw [Powerlink.ObjectDictionary.read, hentry, Option.bind_some]

/-- The values of an array and of a record are read alike. -/
theorem read_of_elements {object : Powerlink.Object} {values : List ObjectValue}
    (h : object = .array values ∨ object = .record values) (subIndex : UInt8) :
    object.read subIndex =
      if subIndex = 0 then some (.unsigned8 (UInt8.ofNat (min values.length 254)))
      else values[subIndex.toNat - 1]? := by
  rcases h with rfl | rfl
  · rfl
  · rfl

/-! ### Agreement -/

/-- No sub-index is larger than the number of elements, and the value at sub-index `0`, if there is
one, is that number. -/
structure Aligned (p : TextParsers) (o : Types.Object) : Prop where
  inside : ∀ s ∈ o.subObjects, s.subIndex.toNat ≤ elementCount o
  count : ∀ s ∈ o.subObjects, s.subIndex = 0 → ∀ value,
    valueOf p s.toAttributes = .ok (some value) →
      value = .unsigned8 (UInt8.ofNat (min (elementCount o) 254))

/-- An element inside of an array or record is read at its sub-index. -/
theorem getElem?_of_mem (hdistinct : Distinct f) {o : Types.Object}
    (ho : o ∈ f.objectDictionary.objects) {missing : String} {values : List ObjectValue}
    (h : mapElements p missing o = .ok values) {s : Types.SubObject} (hs : s ∈ o.subObjects)
    (hsub : s.subIndex ≠ 0) (hinside : s.subIndex.toNat ≤ elementCount o) {value : ObjectValue}
    (hvalue : valueOf p s.toAttributes = .ok (some value)) :
    values[s.subIndex.toNat - 1]? = some value := by
  rw [getElem?_mapElements h hsub hinside, hdistinct.lastSubObject_eq ho hs]
  exact join_toOption_eq_some_iff.mpr hvalue

/-- An array or record is read as the file gives it exactly if it is aligned. -/
theorem reads_given_iff (hdistinct : Distinct f) {o : Types.Object}
    (ho : o ∈ f.objectDictionary.objects) (htype : o.objectType ≠ "7") {missing : String}
    {values : List ObjectValue} (h : mapElements p missing o = .ok values)
    {object : Powerlink.Object} (hobject : object = .array values ∨ object = .record values) :
    (∀ subIndex value, Gives p o subIndex value → object.read subIndex = some value) ↔
      Aligned p o := by
  have hlength := length_mapElements h
  have hgives : ∀ s ∈ o.subObjects, ∀ value, valueOf p s.toAttributes = .ok (some value) →
      Gives p o s.subIndex value := by
    intro s hs value hvalue
    refine ⟨s.toAttributes, ?_, hvalue⟩
    rw [storedAttributes, if_neg htype]
    exact List.mem_map.mpr ⟨s, hs, rfl⟩
  constructor
  · intro hreads
    constructor
    · intro s hs
      by_cases hsub : s.subIndex = 0
      · rw [hsub]
        exact Nat.zero_le _
      · obtain ⟨value, hvalue⟩ := exists_value_of_mapElements h s hs hsub
        have hread := hreads _ _ (hgives s hs value hvalue)
        rw [read_of_elements hobject, if_neg hsub] at hread
        obtain ⟨hlt, -⟩ := List.getElem?_eq_some_iff.mp hread
        omega
    · intro s hs hsub value hvalue
      have hread := hreads _ _ (hgives s hs value hvalue)
      rw [read_of_elements hobject, if_pos hsub, hlength] at hread
      exact (Option.some.inj hread).symm
  · rintro haligned subIndex value ⟨a, ha, hvalue⟩
    rw [storedAttributes, if_neg htype] at ha
    obtain ⟨s, hs, heq⟩ := List.mem_map.mp ha
    obtain ⟨rfl, rfl⟩ := Prod.mk.inj heq
    rw [read_of_elements hobject]
    by_cases hsub : s.subIndex = 0
    · rw [if_pos hsub, hlength, haligned.count s hs hsub value hvalue]
    · rw [if_neg hsub]
      exact getElem?_of_mem hdistinct ho h hs hsub (haligned.inside s hs) hvalue

/-- The dictionary reads what the storage map holds exactly if every array and record is
aligned. -/
theorem storage_agrees_iff (hdistinct : Distinct f) {od : Powerlink.ObjectDictionary σ}
    (hod : toCoreOd p f = .ok od) {map : StoredParams} (hmap : xdcToStorageMap p f = .ok map) :
    (∀ index subIndex value, map.get? (index, subIndex) = some value →
        od.read index subIndex = some value) ↔
      ∀ o ∈ f.objectDictionary.objects, o.objectType ≠ "7" → Aligned p o := by
  simp only [get?_xdcToStorageMap_iff hdistinct hmap]
  constructor
  · intro hagrees o ho htype
    obtain ⟨object, hobject, hread⟩ := exists_read hdistinct hod ho
    rcases mapObject_cases hobject with ⟨hvar, -⟩ | ⟨-, missing, values, hvalues, helements⟩
    · exact absurd hvar htype
    · refine (reads_given_iff hdistinct ho htype hvalues helements).mp ?_
      intro subIndex value hgives
      rw [← hread]
      exact hagrees _ _ _ ⟨o, ho, rfl, hgives⟩
  · rintro haligned _ subIndex value ⟨o, ho, rfl, hgives⟩
    obtain ⟨object, hobject, hread⟩ := exists_read hdistinct hod ho
    rw [hread]
    rcases mapObject_cases hobject with
      ⟨hvar, v, hv, rfl⟩ | ⟨htype, missing, values, hvalues, helements⟩
    · obtain ⟨a, ha, hvalue⟩ := hgives
      rw [storedAttributes, if_pos hvar] at ha
      obtain ⟨rfl, rfl⟩ := Prod.mk.inj (List.mem_singleton.mp ha)
      obtain rfl := Option.some.inj (Except.ok.inj (hv.symm.trans hvalue))
      rfl
    · exact (reads_given_iff hdistinct ho htype hvalues helements).mpr (haligned o ho htype) _ _
        hgives

/-- Parsers for files without reals and octets. -/
def integersOnly : TextParsers := ⟨fun _ => none, fun _ => none, fun _ => .error .oddLength⟩

/-- A file with one array of two words, and a text for its count. -/
def arrayFile (count : String) : Types.XdcFile :=
  { handBuiltFile with
    objectDictionary := ⟨[
      { handBuiltAttributes "MyArray" "8" none none with
        index := 0x2000
        subObjects := [
          { handBuiltAttributes "Count" "7" (some "0005") (some count) with subIndex := 0 },
          { handBuiltAttributes "Val1" "7" (some "0006") (some "0x1122") with subIndex := 1 },
          { handBuiltAttributes "Val2" "7" (some "0006") (some "0xAABB") with subIndex := 2 }] }]⟩ }

/-- The dictionary of the array. -/
def arrayDictionary : Powerlink.ObjectDictionary Empty :=
  (Powerlink.ObjectDictionary.new none).insert 0x2000
    { object := .array [.unsigned16 0x1122, .unsigned16 0xAABB]
      name := "MyArray"
      access := some .constant
      defaultValue := none }

/-- The stored values of the array. -/
def arrayMap : StoredParams :=
  ((SortedMap.empty.insert (0x2000, 0) (.unsigned8 2)).insert (0x2000, 1)
    (.unsigned16 0x1122)).insert (0x2000, 2) (.unsigned16 0xAABB)

theorem storage_agrees_count_two :
    (∀ index subIndex value, arrayMap.get? (index, subIndex) = some value →
        arrayDictionary.read index subIndex = some value) ↔
      ∀ o ∈ (arrayFile "2").objectDictionary.objects, o.objectType ≠ "7" →
        Aligned integersOnly o :=
  storage_agrees_iff ⟨by decide +kernel, by decide +kernel⟩ (by decide +kernel)
    (by decide +kernel)

/-- A count of three in hexadecimal digits is stored, but the dictionary does not read it. -/
theorem hexadecimal_count_is_not_read :
    ¬∀ (p : TextParsers) (f : Types.XdcFile) (od : Powerlink.ObjectDictionary Empty)
      (map : StoredParams), Distinct f → toCoreOd p f = .ok od → xdcToStorageMap p f = .ok map →
        ∀ index subIndex value, map.get? (index, subIndex) = some value →
          od.read index subIndex = some value := by
  intro h
  have hmap : xdcToStorageMap integersOnly (arrayFile "0x03") =
      .ok (arrayMap.insert (0x2000, 0) (.unsigned8 3)) := by
    decide +kernel
  have hread := h integersOnly (arrayFile "0x03") arrayDictionary _
    ⟨by decide +kernel, by decide +kernel⟩ (by decide +kernel) hmap 0x2000 0 (.unsigned8 3)
    (by decide +kernel)
  exact absurd hread (by decide +kernel)

end PowerlinkXdc.Converter
