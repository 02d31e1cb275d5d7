import Powerlink.Od.Persistence
import Powerlink.Xdc.StorageMap

/-! # Access rights and persistence at run time

A file declares access rights for each variable and each sub-object.  The dictionary keeps one
access type for each object, the one of the object itself: `rights_enforced_iff` says for which
files every declared right is enforced by `write`.  No declared right becomes one of the access
types whose values are stored, so that a store command saves nothing of a converted dictionary
(`persistent_saved_iff`). -/

namespace PowerlinkXdc.Converter

open Powerlink (ObjectValue ObjectEntry ObjectDictionaryStorage)
open Powerlink.ObjectDictionary (isPdoMappingIndex0 isReadOnly isStorable writeElement
  writeObject)

variable {σ : Type} {p : TextParsers} {f : Types.XdcFile}

/-! ### Types of values -/

/-- The data type of a value. -/
def dataTypeOf : ObjectValue → DataTypeName
  | .boolean _ => .boolean
  | .integer8 _ => .integer8
  | .integer16 _ => .integer16
  | .integer32 _ => .integer32
  | .integer64 _ => .integer64
  | .unsigned8 _ => .unsigned8
  | .unsigned16 _ => .unsigned16
  | .unsigned32 _ => .unsigned32
  | .unsigned64 _ => .unsigned64
  | .real32 _ => .real32
  | .real64 _ => .real64
  | .visibleString _ => .visibleString
  | .octetString _ => .octetString
  | .unicodeString _ => .unicodeString
  | .domain _ => .domain
  | .timeOfDay _ => .timeOfDay
  | .timeDifference _ => .timeDiff
  | .netTime _ => .netTime
  | .macAddress _ => .macAddress
  | .ipAddress _ => .ipAddress

/-- The data types of the variants of a value, in their order. -/
def variants : List DataTypeName :=
  [.boolean, .integer8, .integer16, .integer32, .integer64, .unsigned8, .unsigned16, .unsigned32,
    .unsigned64, .real32, .real64, .visibleString, .octetString, .unicodeString, .domain,
    .timeOfDay, .timeDiff, .netTime, .macAddress, .ipAddress]

theorem getElem?_discriminant (v : ObjectValue) :
    variants[v.discriminant]? = some (dataTypeOf v) := by
  cases v <;> rfl

/-- The type check of a write compares data types. -/
theorem discriminant_eq_iff (v v' : ObjectValue) :
    v.discriminant = v'.discriminant ↔ dataTypeOf v = dataTypeOf v' := by
  have hv := getElem?_discriminant v
  have hv' := getElem?_discriminant v'
  constructor
  · intro h
    rw [h, hv'] at hv
    exact (Option.some.inj hv).symm
  · intro h
    have hlt := (List.getElem?_eq_some_iff.mp hv).1
    have hnodup : variants.Nodup := by decide
    exact (List.getElem?_inj hlt hnodup).mp (by rw [hv, hv', h])

theorem dataTypeOf_eq_unsigned8 {v : ObjectValue} (h : dataTypeOf v = .unsigned8) :
    ∃ n, v = .unsigned8 n := by
  cases v with
  | unsigned8 n => exact ⟨n, rfl⟩
  | _ => cases h

/-- The data type that the file gives for a value. -/
def typeOf (a : Types.Attributes) : Option DataTypeName := a.dataType.bind getStandardTypeFromHex

/-- A text is converted to a value of its type. -/
theorem dataTypeOf_mapTextToValue {valueStr : String} {typeName : DataTypeName}
    {value : ObjectValue} (h : mapTextToValue p valueStr typeName = .ok (some value)) :
    dataTypeOf value = typeName := by
  cases typeName with
  | boolean =>
      rw [mapTextToValue] at h
      split at h <;> cases h <;> rfl
  | visibleString =>
      cases h
      rfl
  | macAddress =>
      obtain ⟨bytes, -, h⟩ := Powerlink.bind_eq_ok_iff.mp h
      split at h <;> cases h
      rfl
  | ipAddress =>
      obtain ⟨bytes, -, h⟩ := Powerlink.bind_eq_ok_iff.mp h
      split at h <;> cases h
      rfl
  | integer24 | integer40 | integer48 | integer56 | unicodeString | timeOfDay | timeDiff
  | unsigned24 | unsigned40 | unsigned48 | unsigned56 | netTime => cases h
  | _ =>
      obtain ⟨n, -, h⟩ := Powerlink.bind_eq_ok_iff.mp h
      cases h
      rfl

theorem typeOf_eq_of_valueOf {a : Types.Attributes} {value : ObjectValue}
    (h : valueOf p a = .ok (some value)) : typeOf a = some (dataTypeOf value) := by
  unfold valueOf mapDataToValue at h
  unfold typeOf
  split at h
  · cases h
  · split at h
    · cases h
    · rename_i htype
      split at h
      · cases h
      · rename_i hname
        rw [htype, Option.bind_some, hname, dataTypeOf_mapTextToValue h]

/-! ### Writes -/

variable {od : Powerlink.ObjectDictionary σ}

/-- A write succeeds if the object may be written and takes the value, and a PDO mapping admits its
new count. -/
theorem write_eq_ok_iff [ObjectDictionaryStorage σ] {index : UInt16} {entry : ObjectEntry}
    (hstore : index ≠ 0x1010) (hrestore : index ≠ 0x1011)
    (hentry : od.entries.get? index = some entry) (subIndex : UInt8) (value : ObjectValue) :
    (od.write index subIndex value).1 = .ok () ↔
      (isPdoMappingIndex0 index subIndex = true →
        ∃ n, value = .unsigned8 n ∧ od.validatePdoMapping index n = .ok ()) ∧
      isReadOnly entry.access = false ∧
        ∃ object, writeObject index subIndex value entry.object = .ok object := by
  constructor
  · intro h
    obtain ⟨hpdo, hwrite⟩ := Powerlink.ObjectDictionary.write_ok hstore hrestore h
    rw [hwrite] at h
    obtain ⟨entry', object, hentry', haccess, hobject, -⟩ :=
      Powerlink.ObjectDictionary.writeInternal_ok h
    obtain rfl := Option.some.inj (hentry.symm.trans hentry')
    exact ⟨hpdo, haccess, object, hobject⟩
  · rintro ⟨hpdo, haccess, object, hobject⟩
    have hinternal : (od.writeInternal index subIndex value true).1 = .ok () := by
      unfold Powerlink.ObjectDictionary.writeInternal
      rw [hentry]
      simp only [haccess, Bool.and_false, Bool.false_eq_true, if_false, hobject]
    unfold Powerlink.ObjectDictionary.write
    rw [if_neg hstore, if_neg hrestore]
    by_cases hmapping : isPdoMappingIndex0 index subIndex = true
    · obtain ⟨n, rfl, hvalid⟩ := hpdo hmapping
      rw [if_pos hmapping]
      dsimp only
      rw [hvalid]
      exact hinternal
    · rw [if_neg hmapping]
      exact hinternal

/-- A write is refused without an effect, or succeeds. -/
theorem write_refused_iff [ObjectDictionaryStorage σ] {index : UInt16} (hstore : index ≠ 0x1010)
    (hrestore : index ≠ 0x1011) (subIndex : UInt8) (value : ObjectValue) :
    (∃ e, od.write index subIndex value = (.error e, od)) ↔
      (od.write index subIndex value).1 ≠ .ok () := by
  cases hresult : (od.write index subIndex value).1 with
  | error e =>
      have hod := Powerlink.ObjectDictionary.write_error_eq hstore hrestore hresult
      exact iff_of_true ⟨e, Prod.ext hresult hod⟩ nofun
  | ok u =>
      refine iff_of_false ?_ (not_not.mpr rfl)
      rintro ⟨e, he⟩
      rw [he] at hresult
      cases hresult

/-- Apart from the counts of PDO mappings an object takes the values of the types that it stores. -/
theorem writeObject_iff {index : UInt16} {subIndex : UInt8}
    (hpdo : isPdoMappingIndex0 index subIndex = false) (object : Powerlink.Object)
    (value : ObjectValue) :
    (∃ object', writeObject index subIndex value object = .ok object') ↔
      (object.stored subIndex).map dataTypeOf = some (dataTypeOf value) := by
  have htypes : (object.stored subIndex).map dataTypeOf = some (dataTypeOf value) ↔
      object.types.at subIndex = some value.discriminant := by
    rw [Powerlink.Object.types_at, Option.map_eq_some_iff, Option.map_eq_some_iff]
    simp only [discriminant_eq_iff]
  rw [htypes]
  constructor
  · rintro ⟨object', h⟩
    have helement : ∀ (make : List ObjectValue → Powerlink.Object) (values : List ObjectValue),
        (writeElement values index subIndex value).map make = .ok object' →
          (if subIndex = 0 then none
            else (values.map ObjectValue.discriminant)[subIndex.toNat - 1]?) =
              some value.discriminant := by
      intro make values hmap
      cases hvalues : writeElement values index subIndex value with
      | error e =>
          rw [hvalues] at hmap
          cases hmap
      | ok values' =>
          rcases Powerlink.ObjectDictionary.writeElement_ok hvalues with
            ⟨-, hmapping, -⟩ | ⟨hsub, current, hcurrent, htype, -⟩
          · rw [hpdo] at hmapping
            cases hmapping
          · rw [if_neg hsub, List.getElem?_map, hcurrent, Option.map_some, htype]
    rcases object with v | values | values
    · unfold writeObject at h
      dsimp only at h
      split_ifs at h with hsub htype
      rw [Powerlink.Object.types, Powerlink.ObjectTypes.at, if_pos hsub, not_not.mp htype]
    · exact helement _ _ h
    · exact helement _ _ h
  · intro h
    obtain ⟨object', hobject, -⟩ := Powerlink.ObjectDictionary.stored_writeObject index h
    exact ⟨object', hobject⟩

/-! ### Counts of PDO mappings -/

theorem eq_zero_of_isPdoMappingIndex0 {index : UInt16} {subIndex : UInt8}
    (h : isPdoMappingIndex0 index subIndex = true) : subIndex = 0 := by
  unfold isPdoMappingIndex0 at h
  rw [Bool.and_eq_true] at h
  exact of_decide_eq_true h.1

/-- The number of mapped objects is written to an array or record, or to a variable of its type. -/
theorem writeCount_iff {index : UInt16} {subIndex : UInt8}
    (hpdo : isPdoMappingIndex0 index subIndex = true) (object : Powerlink.Object) (n : UInt8) :
    (∃ object', writeObject index subIndex (.unsigned8 n) object = .ok object') ↔
      ∀ v, object = .variable v → dataTypeOf v = .unsigned8 := by
  obtain rfl := eq_zero_of_isPdoMappingIndex0 hpdo
  rcases object with v | values | values
  · unfold writeObject
    dsimp only
    rw [if_pos rfl]
    have htype := discriminant_eq_iff v (.unsigned8 n)
    by_cases h : v.discriminant = (ObjectValue.unsigned8 n).discriminant
    · rw [if_neg (not_not.mpr h)]
      refine iff_of_true ⟨_, rfl⟩ ?_
      rintro v' hv
      obtain rfl := Powerlink.Object.variable.inj hv
      exact htype.mp h
    · rw [if_pos h]
      refine iff_of_false ?_ ?_
      · rintro ⟨object', h'⟩
        cases h'
      · intro hall
        exact h (htype.mpr (hall v rfl))
  · refine iff_of_true ⟨.array values, ?_⟩ (fun _ hv => by cases hv)
    simp only [writeObject, writeElement, if_true, hpdo]
    rfl
  · refine iff_of_true ⟨.record values, ?_⟩ (fun _ hv => by cases hv)
    simp only [writeObject, writeElement, if_true, hpdo]
    rfl

/-- Objects other than arrays admit no count but zero. -/
theorem exists_array_of_valid {index : UInt16} {subIndex : UInt8}
    (hpdo : isPdoMappingIndex0 index subIndex = true)
    (hvalid : od.validatePdoMapping index 1 = .ok ()) :
    ∃ values, od.readObject index = some (.array values) := by
  unfold isPdoMappingIndex0 at hpdo
  unfold Powerlink.ObjectDictionary.validatePdoMapping at hvalid
  rw [Bool.and_eq_true, Bool.or_eq_true] at hpdo
  rw [if_neg (by decide)] at hvalid
  dsimp only at hvalid
  rw [if_neg] at hvalid
  · split at hvalid
    · rename_i values harray
      exact ⟨values, harray⟩
    · cases hvalid
  · rcases hpdo.2 with h | h
    · simp [h]
    · simp [h]

/-! ### Declared rights -/

/-- The elements whose rights a file declares: a variable, or the sub-objects behind the count. -/
def elements (o : Types.Object) : List (UInt8 × Types.Attributes) :=
  if o.objectType = "7" then [(0, o.toAttributes)]
  else (o.subObjects.filter (fun s => s.subIndex ≠ 0)).map (fun s => (s.subIndex, s.toAttributes))

/-- Rights that forbid a write. -/
def Restricted (access : Option Types.ParameterAccess) : Prop :=
  access = some .readOnly ∨ access = some .constant ∨ access = some .noAccess

/-- The rights that are kept for an object forbid a write if the declared ones do. -/
theorem isReadOnly_iff (access : Option Types.ParameterAccess) :
    isReadOnly (access.map mapAccessType) = true ↔ Restricted access := by
  rcases access with _ | access
  · simp [isReadOnly, Restricted]
  · cases access <;> simp [isReadOnly, Restricted, mapAccessType]

/-- The declared rights of an element hold at run time. -/
structure Enforced [ObjectDictionaryStorage σ] (od : Powerlink.ObjectDictionary σ)
    (index : UInt16) (subIndex : UInt8) (a : Types.Attributes) : Prop where
  refused : Restricted a.accessType →
    ∀ value, ∃ e, od.write index subIndex value = (.error e, od)
  accepted : a.accessType = some .readWrite →
    ∀ value, typeOf a = some (dataTypeOf value) → (od.write index subIndex value).1 = .ok ()

/-- The type of what an object holds at a sub-index at run time. -/
def typeAt (w : Types.Object) (subIndex : UInt8) : Option DataTypeName :=
  if w.objectType = "7" then if subIndex = 0 then typeOf w.toAttributes else none
  else if subIndex = 0 ∨ elementCount w < subIndex.toNat then none
  else match lastSubObject w subIndex with
    | some s => typeOf s.toAttributes
    | none => some .unsigned8

theorem stored_mapObject {w : Types.Object} {object : Powerlink.Object}
    (h : mapObject p w = .ok object) (subIndex : UInt8) :
    (object.stored subIndex).map dataTypeOf = typeAt w subIndex := by
  unfold typeAt
  rcases mapObject_cases h with ⟨htype, value, hvalue, rfl⟩ | ⟨htype, missing, values, hvalues, hobj⟩
  · rw [if_pos htype, typeOf_eq_of_valueOf hvalue, Powerlink.Object.stored]
    split_ifs
    · rfl
    · rfl
  · have hstored : object.stored subIndex =
        if subIndex = 0 then none else values[subIndex.toNat - 1]? := by
      rcases hobj with rfl | rfl
      · rfl
      · rfl
    rw [if_neg htype, hstored]
    by_cases hsub : subIndex = 0
    · rw [if_pos hsub, if_pos (.inl hsub)]
      rfl
    · rw [if_neg hsub]
      by_cases hbeyond : elementCount w < subIndex.toNat
      · rw [if_pos (.inr hbeyond), List.getElem?_eq_none]
        · rfl
        · rw [length_mapElements hvalues]
          omega
      · rw [if_neg (not_or.mpr ⟨hsub, hbeyond⟩),
          getElem?_mapElements hvalues hsub (Nat.not_lt.mp hbeyond)]
        cases hlast : lastSubObject w subIndex with
        | none => rfl
        | some s =>
            unfold lastSubObject at hlast
            have hindex := List.find?_some hlast
            rw [decide_eq_true_eq] at hindex
            obtain ⟨value, hvalue⟩ := exists_value_of_mapElements hvalues s
              (List.mem_reverse.mp (List.mem_of_find?_eq_some hlast)) (hindex.symm ▸ hsub)
            dsimp only
            rw [join_toOption_eq_some_iff.mpr hvalue, typeOf_eq_of_valueOf hvalue]
            rfl

/-- The rights of an element, in a file whose last object at its index is `w`, are those of `w`. -/
structure RightsKept (od : Powerlink.ObjectDictionary σ) (w : Types.Object) (index : UInt16)
    (subIndex : UInt8) (a : Types.Attributes) : Prop where
  restricted : Restricted a.accessType → Restricted w.accessType ∨
    if isPdoMappingIndex0 index subIndex = true then
      w.objectType = "7" ∧ typeOf w.toAttributes ≠ some .unsigned8
    else typeAt w subIndex = none
  readWrite : a.accessType = some .readWrite → ¬Restricted w.accessType ∧
    if isPdoMappingIndex0 index subIndex = true then
      typeOf a = some .unsigned8 ∧ ∀ n, od.validatePdoMapping index n = .ok ()
    else typeAt w subIndex = typeOf a

section element

variable [ObjectDictionaryStorage σ] {index : UInt16} {entry : ObjectEntry} {w : Types.Object}

/-- Every write to an element is refused exactly if the object is restricted or takes no value
there. -/
theorem all_refused_iff (hstore : index ≠ 0x1010) (hrestore : index ≠ 0x1011)
    (hentry : od.entries.get? index = some entry) (hobject : mapObject p w = .ok entry.object)
    (haccess : entry.access = w.accessType.map mapAccessType) (subIndex : UInt8) :
    (∀ value, (od.write index subIndex value).1 ≠ .ok ()) ↔
      (Restricted w.accessType ∨
        if isPdoMappingIndex0 index subIndex = true then
          w.objectType = "7" ∧ typeOf w.toAttributes ≠ some .unsigned8
        else typeAt w subIndex = none) := by
  have hreadOnly : isReadOnly entry.access = true ↔ Restricted w.accessType := by
    rw [haccess]
    exact isReadOnly_iff _
  simp only [ne_eq, write_eq_ok_iff hstore hrestore hentry]
  by_cases hrestricted : Restricted w.accessType
  · refine iff_of_true ?_ (.inl hrestricted)
    rintro value ⟨-, haccess', -⟩
    rw [hreadOnly.mpr hrestricted] at haccess'
    cases haccess'
  · have hwritable : isReadOnly entry.access = false :=
      Bool.eq_false_iff.mpr (fun h => hrestricted (hreadOnly.mp h))
    rw [or_iff_right hrestricted]
    by_cases hpdo : isPdoMappingIndex0 index subIndex = true
    · rw [if_pos hpdo]
      constructor
      · intro hall
        have hcount := mt (writeCount_iff hpdo entry.object 0).mpr
          (fun hobj => hall (.unsigned8 0) ⟨fun _ => ⟨0, rfl, rfl⟩, hwritable, hobj⟩)
        rcases mapObject_cases hobject with ⟨htype, v, hv, heq⟩ | ⟨-, missing, values, -, heq⟩
        · refine ⟨htype, fun hu8 => hcount ?_⟩
          intro v' hv'
          obtain rfl := Powerlink.Object.variable.inj (heq.symm.trans hv')
          exact Option.some.inj ((typeOf_eq_of_valueOf hv).symm.trans hu8)
        · refine absurd ?_ hcount
          intro v hv
          rcases heq with heq | heq
          · cases heq.symm.trans hv
          · cases heq.symm.trans hv
      · rintro ⟨htype, hne⟩ value ⟨hcount, -, hobj⟩
        obtain ⟨n, rfl, -⟩ := hcount hpdo
        rcases mapObject_cases hobject with ⟨-, v, hv, heq⟩ | ⟨htype', -⟩
        · refine hne ((typeOf_eq_of_valueOf hv).trans ?_)
          rw [(writeCount_iff hpdo _ _).mp hobj v heq]
        · exact htype' htype
    · rw [if_neg hpdo]
      simp only [writeObject_iff (Bool.eq_false_iff.mpr hpdo), stored_mapObject hobject]
      constructor
      · intro hall
        cases hat : typeAt w subIndex with
        | none => rfl
        | some t =>
            obtain ⟨v, -, hv⟩ := Option.map_eq_some_iff.mp ((stored_mapObject hobject _).trans hat)
            refine absurd ⟨fun h => absurd h hpdo, hwritable, ?_⟩ (hall v)
            rw [hat, hv]
      · rintro hnone value ⟨-, -, hat⟩
        rw [hnone] at hat
        cases hat

/-- Every write of a value of a type is accepted exactly if the object is not restricted and takes
the values of that type. -/
theorem all_accepted_iff (hstore : index ≠ 0x1010) (hrestore : index ≠ 0x1011)
    (hentry : od.entries.get? index = some entry) (hobject : mapObject p w = .ok entry.object)
    (haccess : entry.access = w.accessType.map mapAccessType) (subIndex : UInt8)
    {a : Types.Attributes} {v : ObjectValue} (hv : typeOf a = some (dataTypeOf v)) :
    (∀ value, typeOf a = some (dataTypeOf value) → (od.write index subIndex value).1 = .ok ()) ↔
      (¬Restricted w.accessType ∧
        if isPdoMappingIndex0 index subIndex = true then
          typeOf a = some .unsigned8 ∧ ∀ n, od.validatePdoMapping index n = .ok ()
        else typeAt w subIndex = typeOf a) := by
  have hreadOnly : isReadOnly entry.access = false ↔ ¬Restricted w.accessType := by
    rw [haccess, ← isReadOnly_iff, Bool.not_eq_true]
  simp only [write_eq_ok_iff hstore hrestore hentry, hreadOnly]
  by_cases hpdo : isPdoMappingIndex0 index subIndex = true
  · rw [if_pos hpdo]
    constructor
    · intro hall
      obtain ⟨hcount, hwritable, -⟩ := hall v hv
      obtain ⟨n, rfl, -⟩ := hcount hpdo
      refine ⟨hwritable, hv, ?_⟩
      intro n
      obtain ⟨n', heq, hvalid⟩ := (hall (.unsigned8 n) hv).1 hpdo
      rw [ObjectValue.unsigned8.inj heq]
      exact hvalid
    · rintro ⟨hwritable, hu8, hvalid⟩ value hvalue
      obtain ⟨n, rfl⟩ := dataTypeOf_eq_unsigned8 (Option.some.inj (hvalue.symm.trans hu8))
      refine ⟨fun _ => ⟨n, rfl, hvalid n⟩, hwritable, (writeCount_iff hpdo _ _).mpr ?_⟩
      obtain ⟨values, harray⟩ := exists_array_of_valid hpdo (hvalid 1)
      rw [Powerlink.ObjectDictionary.readObject, hentry, Option.map_some] at harray
      rw [Option.some.inj harray]
      exact nofun
  · rw [if_neg hpdo]
    simp only [writeObject_iff (Bool.eq_false_iff.mpr hpdo), stored_mapObject hobject]
    constructor
    · intro hall
      obtain ⟨-, hwritable, hat⟩ := hall v hv
      exact ⟨hwritable, hat.trans hv.symm⟩
    · rintro ⟨hwritable, hat⟩ value hvalue
      exact ⟨fun h => absurd h hpdo, hwritable, hat.trans hvalue⟩

end element

/-- The elements of a file that is converted have values. -/
theorem exists_value_of_mem_elements (h : toCoreOd p f = .ok od) {o : Types.Object}
    (ho : o ∈ f.objectDictionary.objects) {c : UInt8 × Types.Attributes} (hc : c ∈ elements o) :
    ∃ value, valueOf p c.2 = .ok (some value) := by
  obtain ⟨entry, hentry⟩ := exists_mapEntry h ho
  unfold elements at hc
  rcases mapObject_cases (mapEntry_eq_ok hentry).1 with
    ⟨htype, value, hvalue, -⟩ | ⟨htype, missing, values, hvalues, -⟩
  · rw [if_pos htype] at hc
    rw [List.mem_singleton.mp hc]
    exact ⟨value, hvalue⟩
  · rw [if_neg htype] at hc
    obtain ⟨s, hs, rfl⟩ := List.mem_map.mp hc
    obtain ⟨hmem, hsub⟩ := List.mem_filter.mp hs
    exact exists_value_of_mapElements hvalues s hmem (of_decide_eq_true hsub)

/-- All declared rights are enforced exactly if the object that the dictionary keeps for an index has
the rights of its elements. -/
theorem rights_enforced_iff [ObjectDictionaryStorage σ] (h : toCoreOd p f = .ok od) :
    (∀ o ∈ f.objectDictionary.objects, o.index ≠ 0x1010 → o.index ≠ 0x1011 →
        ∀ c ∈ elements o, Enforced od o.index c.1 c.2) ↔
      ∀ o ∈ f.objectDictionary.objects, o.index ≠ 0x1010 → o.index ≠ 0x1011 →
        ∀ c ∈ elements o, ∀ w, lastObject f o.index = some w →
          RightsKept od w o.index c.1 c.2 := by
  refine forall₂_congr fun o ho => forall₂_congr fun hstore hrestore => forall₂_congr fun c hc => ?_
  obtain ⟨w, hw⟩ := exists_lastObject ho
  obtain ⟨entry, hentry, hobject, haccess⟩ := exists_entry h hw
  obtain ⟨v, hv⟩ := exists_value_of_mem_elements h ho hc
  have hrefused := all_refused_iff hstore hrestore hentry hobject haccess c.1
  have haccepted :=
    all_accepted_iff hstore hrestore hentry hobject haccess c.1 (typeOf_eq_of_valueOf hv)
  constructor
  · rintro ⟨hrefuses, haccepts⟩ w' hw'
    obtain rfl := Option.some.inj (hw.symm.trans hw')
    refine ⟨fun hr => hrefused.mp ?_, fun hrw => haccepted.mp (haccepts hrw)⟩
    intro value
    exact (write_refused_iff hstore hrestore _ _).mp (hrefuses hr value)
  · intro hkept
    obtain ⟨hrestricted, hreadWrite⟩ := hkept w hw
    refine ⟨fun hr value => ?_, fun hrw => haccepted.mpr (hreadWrite hrw)⟩
    exact (write_refused_iff hstore hrestore _ _).mpr (hrefused.mpr (hrestricted hr) value)

/-- The constants of the array are constants at run time. -/
theorem rights_enforced_constant_array :
    (∀ o ∈ (arrayFile "2").objectDictionary.objects, o.index ≠ 0x1010 → o.index ≠ 0x1011 →
        ∀ c ∈ elements o, Enforced arrayDictionary o.index c.1 c.2) ↔
      ∀ o ∈ (arrayFile "2").objectDictionary.objects, o.index ≠ 0x1010 → o.index ≠ 0x1011 →
        ∀ c ∈ elements o, ∀ w, lastObject (arrayFile "2") o.index = some w →
          RightsKept arrayDictionary w o.index c.1 c.2 :=
  rights_enforced_iff (p := integersOnly) (by decide +kernel)

/-- A word that is read-only. -/
def readOnlyWord : Types.Attributes :=
  { handBuiltAttributes "Serial" "7" (some "0006") (some "7") with accessType := some .readOnly }

/-- A record whose only sub-object is read-only. -/
def recordObject : Types.Object :=
  { handBuiltAttributes "MyRecord" "9" none none with
    accessType := none
    index := 0x2100
    subObjects := [{ readOnlyWord with subIndex := 1 }] }

/-- The record at run time. -/
def recordDictionary : Powerlink.ObjectDictionary Empty :=
  (Powerlink.ObjectDictionary.new none).insert 0x2100
    { object := .record [.unsigned16 7]
      name := "MyRecord"
      access := none
      defaultValue := none }

/-- The right of the sub-object is dropped, and the write succeeds. -/
theorem read_only_element_is_written :
    ¬∀ (p : TextParsers) (f : Types.XdcFile) (od : Powerlink.ObjectDictionary Empty),
      toCoreOd p f = .ok od → ∀ o ∈ f.objectDictionary.objects, o.index ≠ 0x1010 →
        o.index ≠ 0x1011 → ∀ c ∈ elements o, Enforced od o.index c.1 c.2 := by
  intro h
  have henforced : Enforced recordDictionary 0x2100 1 readOnlyWord :=
    h integersOnly { handBuiltFile with objectDictionary := ⟨[recordObject]⟩ } recordDictionary
      (by decide +kernel) recordObject (List.mem_singleton.mpr rfl) (by decide) (by decide)
      (1, readOnlyWord) (List.mem_singleton.mpr rfl)
  obtain ⟨e, he⟩ := henforced.refused (.inl rfl) (.unsigned16 8)
  have hwritten : (recordDictionary.write 0x2100 1 (.unsigned16 8)).1 = .ok () := by
    decide +kernel
  rw [he] at hwritten
  cases hwritten

/-! ### Persistence -/

/-- Rights that allow a write. -/
def Writable (access : Option Types.ParameterAccess) : Prop :=
  access = some .writeOnly ∨ access = some .readWrite ∨ access = some .readWriteInput ∨
    access = some .readWriteOutput

/-- The parameters hold the values of the persistent variables of a file that can be written, and of
no variable that is not persistent. -/
structure SavesPersistent (f : Types.XdcFile) (od : Powerlink.ObjectDictionary σ)
    (params : Powerlink.StoredParams) : Prop where
  saved : ∀ o ∈ f.objectDictionary.objects, o.objectType = "7" → o.persistent = true →
    Writable o.accessType →
      ∃ value, od.read o.index 0 = some value ∧ params.get? (o.index, 0) = some value
  others : ∀ o ∈ f.objectDictionary.objects, o.objectType = "7" → o.persistent = false →
    params.get? (o.index, 0) = none

theorem isStorable_mapAccessType (access : Option Types.ParameterAccess) :
    isStorable (access.map mapAccessType) = false := by
  rcases access with _ | access
  · rfl
  · cases access <;> rfl

/-- A store command finds nothing to save in the entries of a file. -/
theorem storableParams_toCoreOd (h : toCoreOd p f = .ok od) (storage : Option σ)
    (listToSave : UInt8) :
    (⟨od.entries, storage⟩ : Powerlink.ObjectDictionary σ).storableParams listToSave = .empty := by
  have hentries : ∀ q ∈ od.entries.entries, isStorable q.2.access = false := by
    intro q hq
    have hget := (SortedMap.mem_entries_iff od.entries q.1 q.2).mp hq
    rw [get?_toCoreOd h] at hget
    obtain ⟨w, hw, hentry⟩ := Option.bind_eq_some_iff.mp hget
    obtain ⟨entry, hmap⟩ := exists_mapEntry h (mem_of_lastObject hw).1
    rw [hmap] at hentry
    obtain rfl := Option.some.inj hentry
    rw [(mapEntry_eq_ok hmap).2]
    exact isStorable_mapAccessType _
  unfold Powerlink.ObjectDictionary.storableParams
  dsimp only
  generalize od.entries.entries = entries at hentries
  induction entries with
  | nil => rfl
  | cons q entries ih =>
      obtain ⟨hq, hrest⟩ := List.forall_mem_cons.mp hentries
      rw [List.foldl_cons, hq, Bool.and_false, if_neg Bool.false_ne_true]
      exact ih hrest

/-- A store command saves the persistent variables of a file exactly if there are none that can be
written. -/
theorem persistent_saved_iff [ObjectDictionaryStorage σ] (h : toCoreOd p f = .ok od) (s : σ) :
    let stored : Powerlink.ObjectDictionary σ := ⟨od.entries, some s⟩
    let saved := ObjectDictionaryStorage.save s (stored.storableParams 1)
    stored.storeParameters 1 = (saved.1, ⟨od.entries, some saved.2⟩) ∧
      (SavesPersistent f od (stored.storableParams 1) ↔
        ∀ o ∈ f.objectDictionary.objects, o.objectType = "7" → o.persistent = true →
          ¬Writable o.accessType) := by
  refine ⟨rfl, ?_⟩
  rw [storableParams_toCoreOd h]
  constructor
  · intro hsaves o ho htype hpersistent hwritable
    obtain ⟨value, -, hvalue⟩ := hsaves.saved o ho htype hpersistent hwritable
    cases hvalue
  · intro hnone
    refine ⟨?_, fun _ _ _ _ => rfl⟩
    intro o ho htype hpersistent hwritable
    exact absurd hwritable (hnone o ho htype hpersistent)

/-- A file with one persistent variable that can be read and written. -/
def persistentFile : Types.XdcFile :=
  { handBuiltFile with
    objectDictionary := ⟨[
      { handBuiltAttributes "Setpoint" "7" (some "0006") (some "7") with
        accessType := some .readWrite
        persistent := true
        index := 0x2200
        subObjects := [] }]⟩ }

/-- The variable at run time. -/
def persistentDictionary : Powerlink.ObjectDictionary Powerlink.MemoryStorage :=
  (Powerlink.ObjectDictionary.new none).insert 0x2200
    { object := .variable (.unsigned16 7)
      name := "Setpoint"
      access := some .readWrite
      defaultValue := some (.unsigned16 7) }

theorem persistent_saved_setpoint :
    let stored : Powerlink.ObjectDictionary Powerlink.MemoryStorage :=
      ⟨persistentDictionary.entries, some ⟨.empty, false⟩⟩
    let saved := ObjectDictionaryStorage.save (⟨.empty, false⟩ : Powerlink.MemoryStorage)
      (stored.storableParams 1)
    stored.storeParameters 1 = (saved.1, ⟨persistentDictionary.entries, some saved.2⟩) ∧
      (SavesPersistent persistentFile persistentDictionary (stored.storableParams 1) ↔
        ∀ o ∈ persistentFile.objectDictionary.objects, o.objectType = "7" →
          o.persistent = true → ¬Writable o.accessType) := by
  have hconverted : toCoreOd integersOnly persistentFile = .ok persistentDictionary := by
    decide +kernel
  exact persistent_saved_iff hconverted ⟨.empty, false⟩

/-- The persistent variable is not saved. -/
theorem persistent_variable_is_not_saved :
    ¬∀ (p : TextParsers) (f : Types.XdcFile)
      (od : Powerlink.ObjectDictionary Powerlink.MemoryStorage) (s : Powerlink.MemoryStorage),
      toCoreOd p f = .ok od → SavesPersistent f od
        ((⟨od.entries, some s⟩ : Powerlink.ObjectDictionary Powerlink.MemoryStorage).storableParams
          1) := by
  intro h
  have hsaves := h integersOnly persistentFile persistentDictionary ⟨.empty, false⟩
    (by decide +kernel)
  obtain ⟨value, -, hvalue⟩ :=
    hsaves.saved _ (List.mem_singleton.mpr rfl) rfl rfl (.inr (.inl rfl))
  cases hvalue

end PowerlinkXdc.Converter
