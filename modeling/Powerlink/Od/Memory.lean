import Powerlink.Od.Dictionary

/-! # The dictionary as a typed memory

A memory gives back what was last written to a location and leaves every other location alone; a
typed one refuses a value of another type.  `TypedWrite` says this of one call of
`ObjectDictionary::write`, with the pairs of index and sub-index as locations.

The entry count of a PDO mapping is the exception.  It is read off the length of the array, so a
count that passes `validate_pdo_mapping` is acknowledged and not kept: `CountForgotten`.
`typedWrite_iff` shows that nothing else goes wrong. -/

namespace Powerlink

namespace ObjectDictionary

variable {σ : Type}

/-- Every location reads as before. -/
def SameReads (od od' : ObjectDictionary σ) : Prop :=
  ∀ index subIndex, od'.read index subIndex = od.read index subIndex

/-- What a typed memory promises about one write. -/
structure TypedWrite [ObjectDictionaryStorage σ] (od : ObjectDictionary σ) (index : UInt16)
    (subIndex : UInt8) (value : ObjectValue) : Prop where
  stored : (od.write index subIndex value).1 = .ok () →
    (od.write index subIndex value).2.read index subIndex = some value
  others : (od.write index subIndex value).1 = .ok () → ∀ index' subIndex',
    (index', subIndex') ≠ (index, subIndex) →
      (od.write index subIndex value).2.read index' subIndex' = od.read index' subIndex'
  refused : ∀ e, (od.write index subIndex value).1 = .error e →
    SameReads od (od.write index subIndex value).2
  guarded : (od.write index subIndex value).1 = .ok () →
    ∃ entry current, od.entries.get? index = some entry ∧ isReadOnly entry.access = false ∧
      od.read index subIndex = some current ∧ current.discriminant = value.discriminant

/-- The elements of an object, when its sub-index `0` counts them. -/
def elements : Object → Option (List ObjectValue)
  | .variable _ => none
  | .array values | .record values => some values

/-- The write changes the entry count of a PDO mapping that may be written, and the mapping
admits the new count. -/
def CountForgotten (od : ObjectDictionary σ) (index : UInt16) (subIndex : UInt8)
    (value : ObjectValue) : Prop :=
  isPdoMappingIndex0 index subIndex = true ∧ ∃ entry values n,
    od.entries.get? index = some entry ∧ isReadOnly entry.access = false ∧
      elements entry.object = some values ∧ value = .unsigned8 n ∧
        od.validatePdoMapping index n = .ok () ∧ n ≠ UInt8.ofNat (min values.length 254)

/-! ### A write to one object -/

/-- Sub-index `0` of an object with elements is their number. -/
theorem read_of_elements {object : Object} {values : List ObjectValue}
    (h : elements object = some values) :
    object.read 0 = some (.unsigned8 (UInt8.ofNat (min values.length 254))) := by
  rcases object with v | vs | vs
  · cases h
  · obtain rfl := Option.some.inj h
    rfl
  · obtain rfl := Option.some.inj h
    rfl

/-- What a write that succeeds does to the elements of an object. -/
theorem writeElement_ok {values values' : List ObjectValue} {index : UInt16} {subIndex : UInt8}
    {value : ObjectValue} (h : writeElement values index subIndex value = .ok values') :
    (subIndex = 0 ∧ isPdoMappingIndex0 index subIndex = true ∧ (∃ n, value = .unsigned8 n) ∧
      values' = values) ∨
    (subIndex ≠ 0 ∧ ∃ current, values[subIndex.toNat - 1]? = some current ∧
      current.discriminant = value.discriminant ∧
        values' = values.set (subIndex.toNat - 1) value) := by
  unfold writeElement at h
  split_ifs at h with h0 hpdo
  · left
    split at h
    · exact ⟨h0, hpdo, ⟨_, rfl⟩, (Except.ok.inj h).symm⟩
    · cases h
  · right
    split at h
    · rename_i current hcurrent
      split_ifs at h with hd
      exact ⟨h0, current, hcurrent, not_not.mp hd, (Except.ok.inj h).symm⟩
    · cases h

/-- Sub-indices other than `0` address distinct elements. -/
theorem position_ne {a b : UInt8} (ha : a ≠ 0) (hb : b ≠ 0) (h : a ≠ b) :
    a.toNat - 1 ≠ b.toNat - 1 := by
  intro he
  have ha' : a.toNat ≠ 0 := fun hz => ha (UInt8.toNat_inj.mp hz)
  have hb' : b.toNat ≠ 0 := fun hz => hb (UInt8.toNat_inj.mp hz)
  have heq : a.toNat = b.toNat := by omega
  exact h (UInt8.toNat_inj.mp heq)

/-- What a write that succeeds does to an object: a location of the same type takes the value, or
it was the count of a PDO mapping and nothing happens. -/
theorem writeObject_ok {object object' : Object} {index : UInt16} {subIndex : UInt8}
    {value : ObjectValue} (h : writeObject index subIndex value object = .ok object') :
    (∃ current, object.read subIndex = some current ∧
      current.discriminant = value.discriminant) ∧
    (∀ s, s ≠ subIndex → object'.read s = object.read s) ∧
    (object'.read subIndex = some value ∨
      isPdoMappingIndex0 index subIndex = true ∧ subIndex = 0 ∧ object' = object ∧
        (elements object).isSome ∧ ∃ n, value = .unsigned8 n) := by
  -- arrays and records differ in the constructor only
  have hcollection : ∀ (make : List ObjectValue → Object)
      (_ : ∀ values s, (make values).read s =
        if s = 0 then some (.unsigned8 (UInt8.ofNat (min values.length 254)))
        else values[s.toNat - 1]?)
      (_ : ∀ values, elements (make values) = some values)
      (values : List ObjectValue),
      (writeElement values index subIndex value).map make = .ok object' →
      (∃ current, (make values).read subIndex = some current ∧
        current.discriminant = value.discriminant) ∧
      (∀ s, s ≠ subIndex → object'.read s = (make values).read s) ∧
      (object'.read subIndex = some value ∨
        isPdoMappingIndex0 index subIndex = true ∧ subIndex = 0 ∧ object' = make values ∧
          (elements (make values)).isSome ∧ ∃ n, value = .unsigned8 n) := by
    intro make hread helements values hw
    cases hv : writeElement values index subIndex value with
    | error e => rw [hv] at hw; cases hw
    | ok values' =>
        rw [hv] at hw
        have hobject : object' = make values' := (Except.ok.inj hw).symm
        rcases writeElement_ok hv with ⟨h0, hpdo, ⟨n, hn⟩, hsame⟩ | ⟨h0, current, hc, hd, hset⟩
        · subst hsame
          refine ⟨⟨.unsigned8 (UInt8.ofNat (min values'.length 254)), ?_, ?_⟩, ?_, .inr ?_⟩
          · rw [hread, if_pos h0]
          · rw [hn]; rfl
          · intro s _
            rw [hobject]
          · exact ⟨hpdo, h0, hobject, by rw [helements]; rfl, n, hn⟩
        · refine ⟨⟨current, by rw [hread, if_neg h0]; exact hc, hd⟩, ?_, .inl ?_⟩
          · intro s hs
            rw [hobject, hread, hread, hset, List.length_set]
            by_cases hs0 : s = 0
            · rw [if_pos hs0, if_pos hs0]
            · rw [if_neg hs0, if_neg hs0, List.getElem?_set_ne]
              exact position_ne h0 hs0 (Ne.symm hs)
          · rw [hobject, hread, if_neg h0, hset, List.getElem?_set_self]
            exact (List.getElem?_eq_some_iff.mp hc).1
  rcases object with v | values | values
  · unfold writeObject at h
    dsimp only at h
    split_ifs at h with h0 hd
    obtain rfl : Object.variable value = object' := Except.ok.inj h
    refine ⟨⟨v, ?_, not_not.mp hd⟩, ?_, .inl ?_⟩
    · rw [Object.read, if_pos h0]
    · intro s hs
      have hs0 : s ≠ 0 := fun hz => hs (hz.trans h0.symm)
      rw [Object.read, Object.read, if_neg hs0, if_neg hs0]
    · rw [Object.read, if_pos h0]
  · exact hcollection .array (fun _ _ => rfl) (fun _ => rfl) values h
  · exact hcollection .record (fun _ _ => rfl) (fun _ => rfl) values h

/-! ### A write to the dictionary -/

/-- What a write that passes the access and type checks does. -/
theorem writeInternal_ok {od : ObjectDictionary σ} {index : UInt16} {subIndex : UInt8}
    {value : ObjectValue} (h : (od.writeInternal index subIndex value true).1 = .ok ()) :
    ∃ entry object, od.entries.get? index = some entry ∧ isReadOnly entry.access = false ∧
      writeObject index subIndex value entry.object = .ok object ∧
        (od.writeInternal index subIndex value true).2.entries =
          od.entries.modify index (fun e => { e with object := object }) := by
  unfold writeInternal at h ⊢
  split at h
  · cases h
  · rename_i entry hentry
    split_ifs at h ⊢ with hro
    split at h
    · cases h
    · rename_i object hobject
      refine ⟨entry, object, hentry, ?_, hobject, rfl⟩
      rw [Bool.true_and, Bool.not_eq_true] at hro
      exact hro

/-- Only the addressed entry reads differently after its object was replaced. -/
theorem read_of_modify {od od' : ObjectDictionary σ} {index : UInt16} {entry : ObjectEntry}
    {object : Object} (hentry : od.entries.get? index = some entry)
    (hmodify : od'.entries = od.entries.modify index (fun e => { e with object := object }))
    (index' : UInt16) (subIndex' : UInt8) :
    od'.read index' subIndex' =
      if index' = index then object.read subIndex' else od.read index' subIndex' := by
  unfold read
  rw [hmodify, SortedMap.get?_modify]
  split_ifs with h
  · subst h
    rw [hentry]
    rfl
  · rfl

variable [ObjectDictionaryStorage σ]

/-- A write that is no store or restore command passes the validation of the mapping, if it
addresses one, and is then a write with access checks. -/
theorem write_ok {od : ObjectDictionary σ} {index : UInt16} {subIndex : UInt8}
    {value : ObjectValue} (hstore : index ≠ 0x1010) (hrestore : index ≠ 0x1011)
    (h : (od.write index subIndex value).1 = .ok ()) :
    (isPdoMappingIndex0 index subIndex = true →
      ∃ n, value = .unsigned8 n ∧ od.validatePdoMapping index n = .ok ()) ∧
    od.write index subIndex value = od.writeInternal index subIndex value true := by
  unfold write at h ⊢
  rw [if_neg hstore, if_neg hrestore] at h ⊢
  by_cases hpdo : isPdoMappingIndex0 index subIndex = true
  · rw [if_pos hpdo] at h ⊢
    split at h
    · rename_i n
      split at h
      · cases h
      · rename_i hvalid
        exact ⟨fun _ => ⟨n, rfl, hvalid⟩, rfl⟩
    · cases h
  · rw [if_neg hpdo]
    exact ⟨fun hp => absurd hp hpdo, rfl⟩

/-- The count of a mapping is acknowledged and the dictionary keeps its entries. -/
theorem write_of_countForgotten {od : ObjectDictionary σ} {index : UInt16} {subIndex : UInt8}
    {value : ObjectValue} (hstore : index ≠ 0x1010) (hrestore : index ≠ 0x1011)
    (h : CountForgotten od index subIndex value) :
    (od.write index subIndex value).1 = .ok () ∧
      (od.write index subIndex value).2.read index subIndex ≠ some value := by
  obtain ⟨hpdo, entry, values, n, hentry, hro, helements, rfl, hvalid, hn⟩ := h
  have h0 : subIndex = 0 := by
    unfold isPdoMappingIndex0 at hpdo
    rw [Bool.and_eq_true, decide_eq_true_iff] at hpdo
    exact hpdo.1
  -- the object is put back as it was
  have helement : ∀ vs, writeElement vs index subIndex (.unsigned8 n) = .ok vs := by
    intro vs
    unfold writeElement
    rw [if_pos h0, if_pos hpdo]
  have hobject : writeObject index subIndex (.unsigned8 n) entry.object = .ok entry.object := by
    rcases hobj : entry.object with v | vs | vs
    · rw [hobj] at helements
      cases helements
    · rw [writeObject, helement]
      rfl
    · rw [writeObject, helement]
      rfl
  have hwrite : od.write index subIndex (.unsigned8 n) =
      (.ok (), { od with
        entries := od.entries.modify index (fun e => { e with object := entry.object }) }) := by
    unfold write
    rw [if_neg hstore, if_neg hrestore, if_pos hpdo]
    dsimp only
    rw [hvalid]
    dsimp only
    unfold writeInternal
    rw [hentry]
    dsimp only
    rw [hro, Bool.and_false, if_neg Bool.false_ne_true, hobject]
  rw [hwrite]
  refine ⟨rfl, ?_⟩
  rw [read_of_modify hentry rfl, if_pos rfl]
  rw [h0, read_of_elements helements]
  intro heq
  exact hn (ObjectValue.unsigned8.inj (Option.some.inj heq)).symm

/-- A write treats the dictionary as a typed memory unless it sets the entry count of a PDO
mapping to a new value that the mapping admits. -/
theorem typedWrite_iff (od : ObjectDictionary σ) (index : UInt16) (subIndex : UInt8)
    (value : ObjectValue) (hstore : index ≠ 0x1010) (hrestore : index ≠ 0x1011) :
    TypedWrite od index subIndex value ↔ ¬CountForgotten od index subIndex value := by
  constructor
  · intro htyped hforgotten
    obtain ⟨hok, hread⟩ := write_of_countForgotten hstore hrestore hforgotten
    exact hread (htyped.stored hok)
  · intro hkept
    have hspec : (od.write index subIndex value).1 = .ok () → ∃ entry object,
        od.entries.get? index = some entry ∧ isReadOnly entry.access = false ∧
          writeObject index subIndex value entry.object = .ok object ∧
            (od.write index subIndex value).2.entries =
              od.entries.modify index (fun e => { e with object := object }) := by
      intro hok
      have hwrite := (write_ok hstore hrestore hok).2
      rw [hwrite] at hok ⊢
      exact writeInternal_ok hok
    refine ⟨?_, ?_, ?_, ?_⟩
    · intro hok
      obtain ⟨entry, object, hentry, hro, hobject, hmodify⟩ := hspec hok
      rw [read_of_modify hentry hmodify, if_pos rfl]
      rcases (writeObject_ok hobject).2.2 with hread | ⟨hpdo, h0, hsame, helements, n, hn⟩
      · exact hread
      · -- the count was acknowledged, so it has to be the one that is read
        obtain ⟨values, hvalues⟩ := Option.isSome_iff_exists.mp helements
        obtain ⟨m, hm, hvalid⟩ := (write_ok hstore hrestore hok).1 hpdo
        have hcount : m = UInt8.ofNat (min values.length 254) := by
          by_contra hne
          exact hkept ⟨hpdo, entry, values, m, hentry, hro, hvalues, hm, hvalid, hne⟩
        rw [hsame, hm, hcount, h0]
        exact read_of_elements hvalues
    · intro hok index' subIndex' hne
      obtain ⟨entry, object, hentry, -, hobject, hmodify⟩ := hspec hok
      rw [read_of_modify hentry hmodify]
      split_ifs with hi
      · subst hi
        have hs : subIndex' ≠ subIndex := fun he => hne (by rw [he])
        rw [(writeObject_ok hobject).2.1 subIndex' hs, read, hentry, Option.bind_some]
      · rfl
    · intro e herr index' subIndex'
      unfold read
      rw [write_error_entries herr]
    · intro hok
      obtain ⟨entry, object, hentry, hro, hobject, -⟩ := hspec hok
      obtain ⟨current, hcurrent, hd⟩ := (writeObject_ok hobject).1
      exact ⟨entry, current, hentry, hro, by rw [read, hentry]; exact hcurrent, hd⟩

/-- A mapping of one entry, which an application switches off by writing `0`. -/
def mappedOnce : ObjectDictionary Empty :=
  (new none).insert 0x1A00
    ⟨.array [.unsigned64 0], "PDO_TxMappParam_00h_AU64", some .readWrite, none⟩

/-- An element of a mapping is an ordinary location. -/
theorem mapping_element_is_stored : TypedWrite mappedOnce 0x1A00 1 (.unsigned64 7) := by
  refine (typedWrite_iff mappedOnce 0x1A00 1 (.unsigned64 7) (by decide) (by decide)).mpr ?_
  rintro ⟨hpdo, -⟩
  exact absurd hpdo (by decide)

/-- Switching the mapping off is acknowledged, and its count is read as before. -/
theorem deactivation_is_forgotten :
    ¬∀ (od : ObjectDictionary Empty) (index : UInt16) (subIndex : UInt8) (value : ObjectValue),
      index ≠ 0x1010 → index ≠ 0x1011 → TypedWrite od index subIndex value := by
  intro h
  have hstored := (h mappedOnce 0x1A00 0 (.unsigned8 0) (by decide) (by decide)).stored
  have hread := hstored (by decide)
  revert hread
  decide

end ObjectDictionary

end Powerlink
