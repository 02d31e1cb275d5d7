import Powerlink.Xdc.StorageMap

/-! # The sizes of converted arrays

`map_object` makes the vector of an array or record as long as the count at sub-index `0` says, or
else as its largest sub-index, before it looks at an element.  A sub-index has 8 bits and the count
that the dictionary shows ends at 254; `sizesFit_iff` says for which files the vectors keep to
that. -/

namespace PowerlinkXdc.Converter

open Powerlink (ObjectValue ObjectEntry)

variable {σ : Type} {p : TextParsers} {f : Types.XdcFile}

/-! ### Objects that can be converted -/

/-- An array or a record. -/
def IsVector (obj : Types.Object) : Prop := obj.objectType = "8" ∨ obj.objectType = "9"

instance (obj : Types.Object) : Decidable (IsVector obj) := inferInstanceAs (Decidable (_ ∨ _))

/-- The values that the conversion of an object needs can be read. -/
def Convertible (p : TextParsers) (obj : Types.Object) : Prop :=
  (obj.objectType = "7" ∧ ∃ value, valueOf p obj.toAttributes = .ok (some value)) ∨
    (IsVector obj ∧ (∃ value, valueOf p obj.toAttributes = .ok value) ∧
      ∀ s ∈ obj.subObjects, s.subIndex ≠ 0 → ∃ value, valueOf p s.toAttributes = .ok (some value))

theorem exists_mapElements {missing : String} {obj : Types.Object}
    (h : ∀ s ∈ obj.subObjects, s.subIndex ≠ 0 →
      ∃ value, valueOf p s.toAttributes = .ok (some value)) :
    ∃ values, mapElements p missing obj = .ok values := by
  unfold mapElements
  generalize List.replicate (elementCount obj) (ObjectValue.unsigned8 0) = values
  generalize obj.subObjects = subObjects at h
  induction subObjects generalizing values with
  | nil => exact ⟨values, rfl⟩
  | cons s subObjects ih =>
      rw [List.forall_mem_cons] at h
      have hplace : ∃ values', placeElement p missing values s = .ok values' := by
        unfold placeElement
        by_cases hzero : s.subIndex = 0
        · rw [if_pos hzero]
          exact ⟨values, rfl⟩
        · obtain ⟨value, hvalue⟩ := h.1 hzero
          rw [if_neg hzero, requiredValue_eq_ok_iff.mpr hvalue]
          exact ⟨_, rfl⟩
      obtain ⟨values', hplace⟩ := hplace
      rw [List.foldlM_cons, hplace]
      exact ih values' h.2

theorem mapObject_vector {obj : Types.Object} (h : IsVector obj) :
    ∃ missing build, (build = Powerlink.Object.array ∨ build = Powerlink.Object.record) ∧
      mapObject p obj = (mapElements p missing obj).map build := by
  rcases h with htype | htype
  · refine ⟨"Array sub-object missing data", _, .inl rfl, ?_⟩
    unfold mapObject
    rw [htype]
    rfl
  · refine ⟨"Record sub-object missing data", _, .inr rfl, ?_⟩
    unfold mapObject
    rw [htype]
    rfl

theorem exists_mapEntry_iff {obj : Types.Object} :
    (∃ entry, mapEntry p obj = .ok entry) ↔ Convertible p obj := by
  constructor
  · rintro ⟨entry, hentry⟩
    obtain ⟨object, hobject, hrest⟩ := Powerlink.bind_eq_ok_iff.mp hentry
    obtain ⟨default, hdefault, -⟩ := Powerlink.bind_eq_ok_iff.mp hrest
    rcases mapObject_cases hobject with ⟨htype, value, hvalue, -⟩ |
      ⟨htype, missing, values, hvalues, -⟩
    · exact .inl ⟨htype, value, hvalue⟩
    · refine .inr ⟨?_, ⟨default, hdefault⟩, exists_value_of_mapElements hvalues⟩
      by_contra hvector
      rw [IsVector, not_or] at hvector
      have hunknown : mapObject p obj = .error (.validationError "Unknown objectType") := by
        unfold mapObject
        split
        · contradiction
        · exact absurd ‹_› hvector.1
        · exact absurd ‹_› hvector.2
        · rfl
      rw [hunknown] at hobject
      cases hobject
  · rintro (⟨htype, value, hvalue⟩ | ⟨hvector, ⟨value, hvalue⟩, helements⟩)
    · have hobject : mapObject p obj = .ok (.variable value) := by
        unfold mapObject
        rw [htype]
        exact Powerlink.bind_eq_ok_iff.mpr ⟨value, requiredValue_eq_ok_iff.mpr hvalue, rfl⟩
      unfold mapEntry
      rw [hobject, hvalue]
      exact ⟨_, rfl⟩
    · obtain ⟨missing, build, -, hbuild⟩ := mapObject_vector (p := p) hvector
      have hread : ∃ values, mapElements p missing obj = .ok values :=
        exists_mapElements helements
      obtain ⟨values, hvalues⟩ := hread
      unfold mapEntry
      rw [hbuild, hvalues, hvalue]
      exact ⟨_, rfl⟩

/-- A file is converted exactly if each of its objects can be. -/
theorem exists_toCoreOd_iff :
    (∃ od : Powerlink.ObjectDictionary σ, toCoreOd p f = .ok od) ↔
      ∀ obj ∈ f.objectDictionary.objects, Convertible p obj := by
  constructor
  · rintro ⟨od, hod⟩ obj hobj
    exact exists_mapEntry_iff.mp (exists_mapEntry hod hobj)
  · unfold toCoreOd
    generalize Powerlink.ObjectDictionary.new (none : Option σ) = od
    generalize f.objectDictionary.objects = objects
    intro h
    induction objects generalizing od with
    | nil => exact ⟨od, rfl⟩
    | cons obj objects ih =>
        rw [List.forall_mem_cons] at h
        obtain ⟨entry, hentry⟩ := exists_mapEntry_iff.mpr h.1
        have hinsert : insertObject p od obj = .ok (od.insert obj.index entry) := by
          unfold insertObject
          rw [hentry]
          rfl
        rw [List.foldlM_cons, hinsert]
        exact ih _ h.2

/-! ### The sizes -/

/-- The sizes to which `to_core_od` resizes vectors: the one of each array and record, up to the first
object that cannot be converted. -/
def requestedSizes (p : TextParsers) : List Types.Object → List ℕ
  | [] => []
  | obj :: objects =>
      (if IsVector obj then [elementCount obj] else []) ++
        match mapEntry p obj with
        | .ok _ => requestedSizes p objects
        | .error _ => []

theorem mem_requestedSizes {objects : List Types.Object} {size : ℕ} :
    size ∈ requestedSizes p objects ↔
      ∃ before obj after, objects = before ++ obj :: after ∧ (∀ o ∈ before, Convertible p o) ∧
        IsVector obj ∧ size = elementCount obj := by
  induction objects with
  | nil =>
      constructor
      · intro h
        cases h
      · rintro ⟨before, obj, after, h, -⟩
        exact absurd h.symm (by simp)
  | cons first objects ih =>
      unfold requestedSizes
      rw [List.mem_append]
      constructor
      · rintro (hfirst | hrest)
        · by_cases hvector : IsVector first
          · rw [if_pos hvector] at hfirst
            exact ⟨[], first, objects, rfl, by simp, hvector, List.mem_singleton.mp hfirst⟩
          · rw [if_neg hvector] at hfirst
            cases hfirst
        · cases hentry : mapEntry p first with
          | error e =>
              rw [hentry] at hrest
              cases hrest
          | ok entry =>
              rw [hentry] at hrest
              obtain ⟨before, obj, after, rfl, hbefore, hvector, hsize⟩ := ih.mp hrest
              have hfirst := exists_mapEntry_iff.mp ⟨entry, hentry⟩
              exact ⟨first :: before, obj, after, rfl,
                List.forall_mem_cons.mpr ⟨hfirst, hbefore⟩, hvector, hsize⟩
      · rintro ⟨before, obj, after, hobjects, hbefore, hvector, hsize⟩
        cases before with
        | nil =>
            obtain ⟨rfl, rfl⟩ := List.cons.inj hobjects
            left
            rw [if_pos hvector, hsize]
            exact List.mem_cons_self
        | cons b before =>
            obtain ⟨rfl, hrest⟩ := List.cons.inj hobjects
            rw [List.forall_mem_cons] at hbefore
            obtain ⟨entry, hentry⟩ := exists_mapEntry_iff.mpr hbefore.1
            right
            rw [hentry]
            exact ih.mpr ⟨before, obj, after, hrest, hbefore.2, hvector, hsize⟩

/-- The number that a count text denotes, in the notations that a file has for numbers, of any
size. -/
def denotedCount (text : String) : Option ℕ :=
  match (trim text).toList with
  | '0' :: 'x' :: d :: digits | '0' :: 'X' :: d :: digits => Numerals.readDigits 16 0 (d :: digits)
  | '+' :: d :: digits => Numerals.readDigits 10 0 (d :: digits)
  | d :: digits => Numerals.readDigits 10 0 (d :: digits)
  | [] => none

/-- The count that an object announces at sub-index `0`. -/
def announcedCount (obj : Types.Object) : Option ℕ :=
  ((obj.subObjects.find? (fun s => s.subIndex = 0)).bind (fun s => s.data)).bind denotedCount

/-- Converted arrays fit the sub-index space: they have at most 254 elements, which can all be read,
and a larger count is an error and the size of no vector. -/
structure SizesFit (σ : Type) (p : TextParsers) (f : Types.XdcFile) : Prop where
  fits : ∀ (od : Powerlink.ObjectDictionary σ), toCoreOd p f = .ok od → ∀ index values,
    od.readObject index = some (.array values) ∨ od.readObject index = some (.record values) →
      values.length ≤ 254 ∧
      (∃ count, od.read index 0 = some (.unsigned8 count) ∧ count.toNat = values.length) ∧
      ∀ k < values.length, ∃ subIndex, subIndex ≠ 0 ∧ od.read index subIndex = values[k]?
  reported : ∀ obj ∈ f.objectDictionary.objects, IsVector obj → ∀ n, announcedCount obj = some n →
    254 < n → ∀ od : Powerlink.ObjectDictionary σ, toCoreOd p f ≠ .ok od
  sized : ∀ size ∈ requestedSizes p f.objectDictionary.objects, size ≤ 254

/-- No count is too large: not of an object that is reached, and, if the file is converted, not in
the text of any object. -/
structure CountsFit (p : TextParsers) (f : Types.XdcFile) : Prop where
  reached : ∀ before obj after, f.objectDictionary.objects = before ++ obj :: after →
    (∀ o ∈ before, Convertible p o) → IsVector obj → elementCount obj ≤ 254
  announced : (∀ o ∈ f.objectDictionary.objects, Convertible p o) →
    ∀ obj ∈ f.objectDictionary.objects, IsVector obj → ∀ n, announcedCount obj = some n → n ≤ 254

/-- The vector of an array or record of the dictionary is the one of a converted object. -/
theorem length_of_toCoreOd {od : Powerlink.ObjectDictionary σ} (h : toCoreOd p f = .ok od)
    {index : UInt16} {values : List ObjectValue}
    (hobject : od.readObject index = some (.array values) ∨
      od.readObject index = some (.record values)) :
    ∃ w ∈ f.objectDictionary.objects, IsVector w ∧ values.length = elementCount w := by
  have hread : ∃ entry, od.entries.get? index = some entry ∧
      (entry.object = .array values ∨ entry.object = .record values) := by
    rcases hobject with hobject | hobject
    · obtain ⟨entry, hentry, heq⟩ := Option.map_eq_some_iff.mp hobject
      exact ⟨entry, hentry, .inl heq⟩
    · obtain ⟨entry, hentry, heq⟩ := Option.map_eq_some_iff.mp hobject
      exact ⟨entry, hentry, .inr heq⟩
  obtain ⟨entry, hentry, hvalues⟩ := hread
  rw [get?_toCoreOd h] at hentry
  obtain ⟨w, hw, hmap⟩ := Option.bind_eq_some_iff.mp hentry
  have hmem := (mem_of_lastObject hw).1
  have hentry := Powerlink.eq_ok_of_toOption hmap
  refine ⟨w, hmem, ?_⟩
  rcases mapObject_cases (mapEntry_eq_ok hentry).1 with ⟨-, value, -, hvariable⟩ |
    ⟨hnot, missing, elements, helements, hbuild⟩
  · rw [hvariable] at hvalues
    rcases hvalues with hvalues | hvalues <;> cases hvalues
  · have hvector : IsVector w := by
      rcases exists_mapEntry_iff.mp ⟨entry, hentry⟩ with ⟨htype, -⟩ | ⟨hvector, -⟩
      · exact absurd htype hnot
      · exact hvector
    have heq : values = elements := by
      rcases hbuild with hbuild | hbuild <;> rw [hbuild] at hvalues <;>
        rcases hvalues with hvalues | hvalues <;> cases hvalues <;> rfl
    rw [heq]
    exact ⟨hvector, length_mapElements helements⟩

/-- Up to 254 elements the dictionary shows all of them. -/
theorem read_of_length_le {od : Powerlink.ObjectDictionary σ} {index : UInt16}
    {values : List ObjectValue}
    (hobject : od.readObject index = some (.array values) ∨
      od.readObject index = some (.record values)) (h : values.length ≤ 254) :
    (∃ count, od.read index 0 = some (.unsigned8 count) ∧ count.toNat = values.length) ∧
      ∀ k < values.length, ∃ subIndex, subIndex ≠ 0 ∧ od.read index subIndex = values[k]? := by
  have hread : ∀ subIndex, od.read index subIndex =
      if subIndex = 0 then some (.unsigned8 (UInt8.ofNat (min values.length 254)))
      else values[subIndex.toNat - 1]? := by
    intro subIndex
    unfold Powerlink.ObjectDictionary.read
    rcases hobject with hobject | hobject
    · obtain ⟨entry, hentry, heq⟩ := Option.map_eq_some_iff.mp hobject
      rw [hentry]
      change entry.object.read subIndex = _
      rw [heq]
      rfl
    · obtain ⟨entry, hentry, heq⟩ := Option.map_eq_some_iff.mp hobject
      rw [hentry]
      change entry.object.read subIndex = _
      rw [heq]
      rfl
  constructor
  · refine ⟨UInt8.ofNat (min values.length 254), ?_, ?_⟩
    · rw [hread, if_pos rfl]
    · rw [UInt8.toNat_ofNat_of_lt' (by simp only [UInt8.size]; omega)]
      omega
  · intro k hk
    have hindex : (UInt8.ofNat (k + 1)).toNat = k + 1 :=
      UInt8.toNat_ofNat_of_lt' (by simp only [UInt8.size]; omega)
    have hne : UInt8.ofNat (k + 1) ≠ 0 := by
      intro hzero
      rw [hzero] at hindex
      have : (0 : UInt8).toNat = 0 := rfl
      omega
    refine ⟨UInt8.ofNat (k + 1), hne, ?_⟩
    rw [hread, if_neg hne, hindex, Nat.add_sub_cancel]

/-- Converted arrays fit the sub-index space exactly if no count is too large: nothing else keeps a
vector small. -/
theorem sizesFit_iff : SizesFit σ p f ↔ CountsFit p f := by
  constructor
  · intro h
    refine ⟨?_, ?_⟩
    · intro before obj after hobjects hbefore hvector
      exact h.sized _ (mem_requestedSizes.mpr
        ⟨before, obj, after, hobjects, hbefore, hvector, rfl⟩)
    · intro hconvertible obj hobj hvector n hn
      obtain ⟨od, hod⟩ := (exists_toCoreOd_iff (σ := σ)).mpr hconvertible
      by_contra hlarge
      exact h.reported obj hobj hvector n hn (by omega) od hod
  · intro h
    refine ⟨?_, ?_, ?_⟩
    · intro od hod index values hobject
      obtain ⟨w, hw, hvector, hlength⟩ := length_of_toCoreOd hod hobject
      obtain ⟨before, after, hobjects⟩ := List.append_of_mem hw
      have hconvertible := exists_toCoreOd_iff.mp ⟨od, hod⟩
      have hle := h.reached before w after hobjects
        (fun o ho => hconvertible o (hobjects ▸ List.mem_append_left _ ho)) hvector
      rw [← hlength] at hle
      exact ⟨hle, read_of_length_le hobject hle⟩
    · intro obj hobj hvector n hn hlarge od hod
      have hle := h.announced (exists_toCoreOd_iff.mp ⟨od, hod⟩) obj hobj hvector n hn
      omega
    · intro size hsize
      obtain ⟨before, obj, after, hobjects, hbefore, hvector, rfl⟩ := mem_requestedSizes.mp hsize
      exact h.reached before obj after hobjects hbefore hvector

/-- A count of 300 sizes the vector, and the file is converted. -/
theorem large_count_is_converted : ¬∀ (p : TextParsers) (f : Types.XdcFile), SizesFit Empty p f := by
  intro h
  have hsize := (h integersOnly (arrayFile "300")).sized 300 (by decide +kernel)
  omega

end PowerlinkXdc.Converter
