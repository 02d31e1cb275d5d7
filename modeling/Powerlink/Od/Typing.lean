import Powerlink.Od.Lifecycle
import Powerlink.Od.ErrorHistory
import Powerlink.Lib.Runs

/-! # The types of the dictionary

Every value of the dictionary has a variant.  `typesAt` collects the variants of one object, and
`KeepsTypes` says that a dictionary still has the objects of an earlier one with the same variants;
the error history `0x1003` may have got new entries in front.

* Writes, the overlay of the stored parameters, the counters and the error history keep the types.
* `restore_power_on_values` does not check them: it lays a stored value over any value, and a default
  over any variable.  `keepsTypes_restorePowerOnValues_iff` is the exact condition.

`typed_for_life_iff` puts the calls together: the types are kept throughout a run exactly if every
restored value has the type of the one that it replaces. -/

namespace Powerlink

/-- The kind of an object and the variants of its values. -/
inductive ObjectTypes where
  | variable (value : ℕ)
  | array (values : List ℕ)
  | record (values : List ℕ)
deriving DecidableEq, Repr

/-- The types of an object. -/
def Object.types : Object → ObjectTypes
  | .variable value => .variable value.discriminant
  | .array values => .array (values.map ObjectValue.discriminant)
  | .record values => .record (values.map ObjectValue.discriminant)

namespace ObjectDictionary

variable {σ : Type} {od : ObjectDictionary σ}

/-- The types of the object at an index. -/
def typesAt (od : ObjectDictionary σ) (index : UInt16) : Option ObjectTypes :=
  (od.readObject index).map Object.types

theorem typesAt_of_get? {index : UInt16} {entry : ObjectEntry}
    (h : od.entries.get? index = some entry) : od.typesAt index = some entry.object.types := by
  unfold typesAt readObject
  rw [h]
  rfl

/-- A rewritten entry keeps the types if its object does. -/
theorem typesAt_modify {index : UInt16} {f : ObjectEntry → ObjectEntry}
    (hf : ∀ entry, od.entries.get? index = some entry → (f entry).object.types = entry.object.types)
    (index' : UInt16) :
    typesAt { od with entries := od.entries.modify index f } index' = od.typesAt index' := by
  unfold typesAt readObject
  dsimp only
  rw [SortedMap.get?_modify]
  split_ifs with h
  · subst h
    cases hget : od.entries.get? index' with
    | none => rfl
    | some entry => exact congrArg some (hf entry hget)
  · rfl

/-- An element may be replaced by one of its type. -/
theorem map_discriminant_set {values : List ObjectValue} {i : ℕ} {old new : ObjectValue}
    (hold : values[i]? = some old) (htype : new.discriminant = old.discriminant) :
    (values.set i new).map ObjectValue.discriminant = values.map ObjectValue.discriminant := by
  refine List.ext_getElem? (fun j => ?_)
  rw [List.getElem?_map, List.getElem?_map, List.getElem?_set]
  obtain ⟨hi, -⟩ := List.getElem?_eq_some_iff.mp hold
  split_ifs with hij
  · rw [← hij, hold, Option.map_some, Option.map_some, htype]
  · rfl

/-! ### Writes -/

theorem writeElement_types {values values' : List ObjectValue} {index : UInt16} {subIndex : UInt8}
    {value : ObjectValue} (h : writeElement values index subIndex value = .ok values') :
    values'.map ObjectValue.discriminant = values.map ObjectValue.discriminant := by
  unfold writeElement at h
  split_ifs at h
  · split at h
    · obtain rfl := Except.ok.inj h
      rfl
    · cases h
  · split at h
    · rename_i v hv
      split_ifs at h with htype
      obtain rfl := Except.ok.inj h
      exact map_discriminant_set hv (not_not.mp htype).symm
    · cases h

theorem writeObject_types {object object' : Object} {index : UInt16} {subIndex : UInt8}
    {value : ObjectValue} (h : writeObject index subIndex value object = .ok object') :
    object'.types = object.types := by
  have helements : ∀ {values : List ObjectValue} {build : List ObjectValue → Object},
      (writeElement values index subIndex value).map build = .ok object' →
      ∃ values', object' = build values' ∧
        values'.map ObjectValue.discriminant = values.map ObjectValue.discriminant := by
    intro values build hbuild
    cases hwrite : writeElement values index subIndex value with
    | error e =>
        rw [hwrite] at hbuild
        cases hbuild
    | ok values' =>
        rw [hwrite] at hbuild
        exact ⟨values', (Except.ok.inj hbuild).symm, writeElement_types hwrite⟩
  rcases object with v | values | values
  · simp only [writeObject] at h
    split_ifs at h with hsub htype
    obtain rfl := Except.ok.inj h
    exact congrArg ObjectTypes.variable (not_not.mp htype).symm
  · obtain ⟨values', rfl, htypes⟩ := helements h
    exact congrArg ObjectTypes.array htypes
  · obtain ⟨values', rfl, htypes⟩ := helements h
    exact congrArg ObjectTypes.record htypes

/-- A write that is checked against the current type keeps the types. -/
theorem typesAt_writeInternal (od : ObjectDictionary σ) (index : UInt16) (subIndex : UInt8)
    (value : ObjectValue) (checkAccess : Bool) (index' : UInt16) :
    (od.writeInternal index subIndex value checkAccess).2.typesAt index' = od.typesAt index' := by
  unfold writeInternal
  split
  · rfl
  · rename_i entry hentry
    split_ifs
    · rfl
    · split
      · rfl
      · rename_i object hobject
        refine typesAt_modify ?_ index'
        intro entry' hentry'
        rw [hentry] at hentry'
        obtain rfl := Option.some.inj hentry'
        exact writeObject_types hobject

theorem typesAt_write [ObjectDictionaryStorage σ] (od : ObjectDictionary σ) (index : UInt16)
    (subIndex : UInt8) (value : ObjectValue) (index' : UInt16) :
    (od.write index subIndex value).2.typesAt index' = od.typesAt index' := by
  unfold write
  split_ifs
  · unfold storeParameters
    split_ifs
    · rfl
    · split <;> rfl
  · rfl
  · unfold restoreDefaults
    split_ifs
    · rfl
    · split <;> rfl
  · rfl
  · split
    · split
      · rfl
      · exact od.typesAt_writeInternal index subIndex _ true index'
    · rfl
  · exact od.typesAt_writeInternal index subIndex value true index'

/-! ### Counters and the error history -/

theorem incrementObject_types (subIndex : UInt8) (object : Object) :
    (incrementObject subIndex object).types = object.types := by
  unfold incrementObject
  split
  · split_ifs <;> rfl
  · rename_i values
    split_ifs
    · rfl
    · split
      · rename_i v hv
        exact congrArg ObjectTypes.record (map_discriminant_set hv rfl)
      · rfl
  · rfl

theorem typesAt_incrementCounter (od : ObjectDictionary σ) (index : UInt16) (subIndex : UInt8)
    (index' : UInt16) : (od.incrementCounter index subIndex).typesAt index' = od.typesAt index' :=
  typesAt_modify (fun entry _ => incrementObject_types subIndex entry.object) index'

/-- A new entry in the error history comes first, the last one may be dropped. -/
theorem pushHistory_types (values : List ObjectValue) (data : List UInt8) :
    (pushHistory values (.domain data)).map ObjectValue.discriminant <+:
      (ObjectValue.domain []).discriminant :: values.map ObjectValue.discriminant := by
  unfold pushHistory
  split_ifs
  · rw [List.map_dropLast]
    exact List.dropLast_prefix _
  · exact List.prefix_refl _

/-! ### Later dictionaries -/

/-- The types of the error history after some entries were written to it. -/
def HistoryTypes : ObjectTypes → ObjectTypes → Prop
  | .array values, .array values' =>
      ∃ n, values' <+: List.replicate n (ObjectValue.domain []).discriminant ++ values
  | types, types' => types' = types

theorem HistoryTypes.refl (types : ObjectTypes) : HistoryTypes types types := by
  cases types with
  | array values => exact ⟨0, List.prefix_refl _⟩
  | _ => rfl

theorem HistoryTypes.trans {a b c : ObjectTypes} (hab : HistoryTypes a b) (hbc : HistoryTypes b c) :
    HistoryTypes a c := by
  rcases a with a | a | a
  · obtain rfl : b = .variable a := hab
    exact hbc
  · rcases b with b | b | b
    · cases hab
    · rcases c with c | c | c
      · cases hbc
      · obtain ⟨n, hb⟩ := hab
        obtain ⟨m, hc⟩ := hbc
        refine ⟨m + n, hc.trans ?_⟩
        rw [List.replicate_add, List.append_assoc]
        exact (List.prefix_append_right_inj _).mpr hb
      · cases hbc
    · cases hab
  · obtain rfl : b = .record a := hab
    exact hbc

/-- The objects of the earlier dictionary are there with their types.  A value that was read from a
sub-index has kept its variant; only the error history has got new elements. -/
structure KeepsTypes (od od' : ObjectDictionary σ) : Prop where
  objects : ∀ index types, index ≠ 0x1003 → od.typesAt index = some types →
    od'.typesAt index = some types
  history : ∀ types, od.typesAt 0x1003 = some types →
    ∃ types', od'.typesAt 0x1003 = some types' ∧ HistoryTypes types types'

theorem keepsTypes_of_typesAt {od od' : ObjectDictionary σ}
    (h : ∀ index types, od.typesAt index = some types → od'.typesAt index = some types) :
    KeepsTypes od od' where
  objects index types _ htypes := h index types htypes
  history types htypes := ⟨types, h _ types htypes, .refl types⟩

theorem KeepsTypes.refl (od : ObjectDictionary σ) : KeepsTypes od od :=
  keepsTypes_of_typesAt (fun _ _ h => h)

theorem KeepsTypes.trans {a b c : ObjectDictionary σ} (hab : KeepsTypes a b)
    (hbc : KeepsTypes b c) : KeepsTypes a c where
  objects index types hindex h := hbc.objects index types hindex (hab.objects index types hindex h)
  history types h := by
    obtain ⟨types', h', hhistory⟩ := hab.history types h
    obtain ⟨types'', h'', hhistory'⟩ := hbc.history types' h'
    exact ⟨types'', h'', hhistory.trans hhistory'⟩

theorem keepsTypes_writeErrorToHistory (od : ObjectDictionary σ) (entry : ErrorEntry) :
    KeepsTypes od (writeErrorToHistory od entry) where
  objects index types hindex h := by
    unfold typesAt readObject writeErrorToHistory at *
    dsimp only
    rwa [SortedMap.get?_modify, if_neg hindex]
  history types h := by
    unfold typesAt readObject writeErrorToHistory at *
    dsimp only
    rw [SortedMap.get?_modify, if_pos rfl]
    cases hget : od.entries.get? 0x1003 with
    | none =>
        rw [hget] at h
        cases h
    | some e =>
        rw [hget] at h
        obtain rfl := Option.some.inj h
        refine ⟨_, rfl, ?_⟩
        dsimp only [Option.map_some]
        split
        · rename_i values hvalues
          rw [hvalues]
          exact ⟨1, pushHistory_types values entry.serialize⟩
        · exact .refl _

/-! ### Initialisation -/

theorem typesAt_insertIfMissing {index index' : UInt16} {types : ObjectTypes} (entry : ObjectEntry)
    (h : od.typesAt index' = some types) :
    (od.insertIfMissing index entry).typesAt index' = some types := by
  unfold insertIfMissing
  split_ifs with hsome
  · exact h
  · have hne : index' ≠ index := by
      rintro rfl
      unfold typesAt readObject at h
      rw [Option.not_isSome_iff_eq_none.mp hsome] at h
      cases h
    unfold typesAt readObject insert at *
    rwa [SortedMap.get?_insert_ne _ _ hne]

theorem typesAt_populateProtocolObjects {index : UInt16} {types : ObjectTypes}
    (h : od.typesAt index = some types) : od.populateProtocolObjects.typesAt index = some types := by
  have hfold : ∀ (objects : List (UInt16 × ObjectEntry)) (od : ObjectDictionary σ),
      od.typesAt index = some types →
      (objects.foldl (fun od p => od.insertIfMissing p.1 p.2) od).typesAt index = some types := by
    intro objects
    induction objects with
    | nil => exact fun _ h => h
    | cons p objects ih => exact fun od h => ih _ (typesAt_insertIfMissing p.2 h)
  exact hfold protocolObjects od h

/-- The overlay of stored parameters keeps the types. -/
theorem typesAt_overlay (params : List ((UInt16 × UInt8) × ObjectValue)) (index : UInt16) :
    ∀ od : ObjectDictionary σ,
      (params.foldl (fun od p => (od.writeInternal p.1.1 p.1.2 p.2 false).2) od).typesAt index =
        od.typesAt index := by
  induction params with
  | nil => exact fun _ => rfl
  | cons p params ih =>
      intro od
      rw [List.foldl_cons, ih, typesAt_writeInternal]

theorem typesAt_init [ObjectDictionaryStorage σ] {index : UInt16} {types : ObjectTypes}
    (h : od.typesAt index = some types) : od.init.2.typesAt index = some types := by
  have hpopulated := typesAt_populateProtocolObjects h
  unfold init
  generalize od.populateProtocolObjects = d at hpopulated ⊢
  dsimp only
  split
  · exact hpopulated
  · split_ifs
    · split
      · exact hpopulated
      · exact hpopulated
    · split
      · exact hpopulated
      · rw [typesAt_overlay]
        exact hpopulated

/-! ### Power-on values -/

/-- Every value that is restored over the entry has the type of the one it replaces. -/
def PowerOnTyped (stored : Option StoredParams) (index : UInt16) (entry : ObjectEntry) : Prop :=
  let storedAt (subIndex : UInt8) := stored.bind (fun params => params.get? (index, subIndex))
  match entry.object with
  | .variable value =>
      (∀ v, storedAt 0 = some v → v.discriminant = value.discriminant) ∧
        (storedAt 0 = none →
          ∀ v, entry.defaultValue = some v → v.discriminant = value.discriminant)
  | .array values | .record values =>
      ∀ i value v, values[i]? = some value → storedAt (UInt8.ofNat (i + 1)) = some v →
        v.discriminant = value.discriminant

theorem powerOnVariable_types_iff (stored : Option StoredParams) (default : Option ObjectValue)
    (index : UInt16) (value : ObjectValue) :
    (powerOnVariable stored default index value).discriminant = value.discriminant ↔
      (∀ v, stored.bind (fun params => params.get? (index, 0)) = some v →
        v.discriminant = value.discriminant) ∧
      (stored.bind (fun params => params.get? (index, 0)) = none →
        ∀ v, default = some v → v.discriminant = value.discriminant) := by
  unfold powerOnVariable
  cases stored.bind (fun params => params.get? (index, 0)) with
  | some v => simp
  | none => cases default <;> simp

theorem powerOnElement_types_iff (stored : Option StoredParams) (default : Option ObjectValue)
    (index : UInt16) (subIndex : UInt8) (value : ObjectValue) :
    (powerOnElement stored default index subIndex value).discriminant = value.discriminant ↔
      ∀ v, stored.bind (fun params => params.get? (index, subIndex)) = some v →
        v.discriminant = value.discriminant := by
  unfold powerOnElement
  cases stored.bind (fun params => params.get? (index, subIndex)) with
  | some v => simp
  | none =>
      cases default with
      | none => simp
      | some d =>
          dsimp only
          split_ifs with h
          · simp [h]
          · simp

theorem powerOnElements_types_iff (stored : Option StoredParams) (default : Option ObjectValue)
    (index : UInt16) (values : List ObjectValue) :
    (values.zipIdx.map (fun p => powerOnElement stored default index (UInt8.ofNat (p.2 + 1)) p.1)).map
        ObjectValue.discriminant = values.map ObjectValue.discriminant ↔
      ∀ i value v, values[i]? = some value →
        stored.bind (fun params => params.get? (index, UInt8.ofNat (i + 1))) = some v →
        v.discriminant = value.discriminant := by
  constructor
  · intro h i value v hvalue hstored
    have hi := congrArg (fun l => l[i]?) h
    simp only [List.getElem?_map, List.getElem?_zipIdx, hvalue, Option.map_some, Nat.zero_add,
      Option.some.injEq] at hi
    exact (powerOnElement_types_iff _ _ _ _ _).mp hi v hstored
  · intro h
    refine List.ext_getElem? (fun i => ?_)
    simp only [List.getElem?_map, List.getElem?_zipIdx, Nat.zero_add]
    cases hvalue : values[i]? with
    | none => rfl
    | some value =>
        refine congrArg some ?_
        exact (powerOnElement_types_iff _ _ _ _ _).mpr (fun v hstored => h i value v hvalue hstored)

/-- A restored entry keeps its types exactly if the restored values have them. -/
theorem powerOnEntry_types_iff (stored : Option StoredParams) (index : UInt16)
    (entry : ObjectEntry) :
    (powerOnEntry stored index entry).object.types = entry.object.types ↔
      PowerOnTyped stored index entry := by
  unfold powerOnEntry PowerOnTyped
  rcases entry.object with value | values | values
  · simp only [Object.types, ObjectTypes.variable.injEq]
    exact powerOnVariable_types_iff _ _ _ _
  · simp only [Object.types, ObjectTypes.array.injEq]
    exact powerOnElements_types_iff _ _ _ _
  · simp only [Object.types, ObjectTypes.record.injEq]
    exact powerOnElements_types_iff _ _ _ _

variable [ObjectDictionaryStorage σ]

theorem get?_restorePowerOnValues (od : ObjectDictionary σ) (startIndex endIndex index : UInt16) :
    (od.restorePowerOnValues startIndex endIndex).entries.get? index =
      (od.entries.get? index).map (fun entry =>
        if index < startIndex ∨ endIndex < index ∨ index = 0x1003 then entry
        else powerOnEntry od.loadStored.1 index entry) :=
  SortedMap.get?_mapValues _ _ index

/-- What is outside of the range, and the error history, stays as it is. -/
theorem get?_restorePowerOnValues_outside (od : ObjectDictionary σ)
    {startIndex endIndex index : UInt16}
    (h : index < startIndex ∨ endIndex < index ∨ index = 0x1003) :
    (od.restorePowerOnValues startIndex endIndex).entries.get? index = od.entries.get? index := by
  rw [get?_restorePowerOnValues]
  simp only [if_pos h]
  exact Option.map_id'

theorem get?_restorePowerOnValues_inside (od : ObjectDictionary σ)
    {startIndex endIndex index : UInt16} (hstart : startIndex ≤ index) (hend : index ≤ endIndex)
    (hhistory : index ≠ 0x1003) :
    (od.restorePowerOnValues startIndex endIndex).entries.get? index =
      (od.entries.get? index).map (powerOnEntry od.loadStored.1 index) := by
  have h : ¬(index < startIndex ∨ endIndex < index ∨ index = 0x1003) := by
    simp only [not_or, UInt16.not_lt]
    exact ⟨hstart, hend, hhistory⟩
  rw [get?_restorePowerOnValues]
  simp only [if_neg h]

/-- The values that `restore_power_on_values` applies have the types of the ones they replace. -/
def RestoresTypes (od : ObjectDictionary σ) (startIndex endIndex : UInt16) : Prop :=
  ∀ index entry, startIndex ≤ index → index ≤ endIndex → index ≠ 0x1003 →
    od.entries.get? index = some entry → PowerOnTyped od.loadStored.1 index entry

theorem keepsTypes_restorePowerOnValues_iff (od : ObjectDictionary σ)
    (startIndex endIndex : UInt16) :
    KeepsTypes od (od.restorePowerOnValues startIndex endIndex) ↔
      od.RestoresTypes startIndex endIndex := by
  constructor
  · intro h index entry hstart hend hhistory hget
    have htypes := h.objects index _ hhistory (typesAt_of_get? hget)
    have hget' := od.get?_restorePowerOnValues_inside hstart hend hhistory
    rw [hget, Option.map_some] at hget'
    rw [typesAt_of_get? hget', Option.some.injEq] at htypes
    exact (powerOnEntry_types_iff _ _ _).mp htypes
  · intro h
    refine keepsTypes_of_typesAt (fun index types htypes => ?_)
    cases hget : od.entries.get? index with
    | none =>
        unfold typesAt readObject at htypes
        rw [hget] at htypes
        cases htypes
    | some entry =>
        rw [typesAt_of_get? hget] at htypes
        by_cases hin : index < startIndex ∨ endIndex < index ∨ index = 0x1003
        · rw [← htypes]
          exact typesAt_of_get? ((od.get?_restorePowerOnValues_outside hin).trans hget)
        · simp only [not_or, UInt16.not_lt] at hin
          obtain ⟨hstart, hend, hhistory⟩ := hin
          have hget' := od.get?_restorePowerOnValues_inside hstart hend hhistory
          rw [hget, Option.map_some] at hget'
          rw [typesAt_of_get? hget', ← htypes, Option.some.injEq]
          exact (powerOnEntry_types_iff _ _ _).mpr (h index entry hstart hend hhistory hget)

/-! ### Runs -/

/-- The calls that change a dictionary. -/
inductive OdCall where
  | write (index : UInt16) (subIndex : UInt8) (value : ObjectValue)
  | writeInternal (index : UInt16) (subIndex : UInt8) (value : ObjectValue) (checkAccess : Bool)
  | init
  | incrementCounter (index : UInt16) (subIndex : UInt8)
  | restorePowerOnValues (startIndex endIndex : UInt16)
  | writeErrorToHistory (entry : ErrorEntry)

/-- The dictionary after a call. -/
def call (od : ObjectDictionary σ) : OdCall → ObjectDictionary σ
  | .write index subIndex value => (od.write index subIndex value).2
  | .writeInternal index subIndex value checkAccess =>
      (od.writeInternal index subIndex value checkAccess).2
  | .init => od.init.2
  | .incrementCounter index subIndex => od.incrementCounter index subIndex
  | .restorePowerOnValues startIndex endIndex => od.restorePowerOnValues startIndex endIndex
  | .writeErrorToHistory entry => Powerlink.writeErrorToHistory od entry

/-- The call restores values of the right types, if it restores any. -/
def CallRestoresTypes (od : ObjectDictionary σ) : OdCall → Prop
  | .restorePowerOnValues startIndex endIndex => od.RestoresTypes startIndex endIndex
  | _ => True

theorem keepsTypes_call_iff (od : ObjectDictionary σ) (c : OdCall) :
    KeepsTypes od (od.call c) ↔ od.CallRestoresTypes c := by
  cases c with
  | write index subIndex value =>
      refine iff_of_true (keepsTypes_of_typesAt (fun index' types h => ?_)) trivial
      exact (od.typesAt_write index subIndex value index').trans h
  | writeInternal index subIndex value checkAccess =>
      refine iff_of_true (keepsTypes_of_typesAt (fun index' types h => ?_)) trivial
      exact (od.typesAt_writeInternal index subIndex value checkAccess index').trans h
  | init => exact iff_of_true (keepsTypes_of_typesAt (fun _ _ h => typesAt_init h)) trivial
  | incrementCounter index subIndex =>
      refine iff_of_true (keepsTypes_of_typesAt (fun index' types h => ?_)) trivial
      exact (od.typesAt_incrementCounter index subIndex index').trans h
  | restorePowerOnValues startIndex endIndex =>
      exact od.keepsTypes_restorePowerOnValues_iff startIndex endIndex
  | writeErrorToHistory entry => exact iff_of_true (od.keepsTypes_writeErrorToHistory entry) trivial

/-- From any state of a run to any later one, every object keeps the types that it had, exactly if
every value that the run restores has the type of the one that it replaces. -/
theorem typed_for_life_iff (od : ObjectDictionary σ) (calls : List OdCall) :
    Runs.Between call KeepsTypes od calls ↔
      Runs.AllSteps call (fun od c => od.CallRestoresTypes c) od calls := by
  rw [Runs.between_iff_allSteps KeepsTypes.refl KeepsTypes.trans]
  exact Runs.allSteps_iff keepsTypes_call_iff calls od

/-- A variable of type `UNSIGNED16` whose default is of type `UNSIGNED8`. -/
def mistypedDefault : ObjectDictionary Empty :=
  (new none).insert 0x2000 ⟨.variable (.unsigned16 1), "Setting", some .readWrite,
    some (.unsigned8 0)⟩

/-- A reset of the manufacturer area gives the variable the type of its default. -/
theorem restored_default_changes_type :
    ¬ Runs.Between call KeepsTypes mistypedDefault [.restorePowerOnValues 0x2000 0x5FFF] := by
  intro h
  have htypes := (h [] [.restorePowerOnValues 0x2000 0x5FFF] (List.prefix_refl _)).objects 0x2000
    (.variable (ObjectValue.unsigned16 1).discriminant) (by decide) (by decide)
  revert htypes
  decide

end ObjectDictionary

end Powerlink
