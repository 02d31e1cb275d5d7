import Powerlink.Lib.Collect
import Powerlink.Lib.Numerals
import Powerlink.Od.Memory
import Powerlink.Xdc.Resolver

/-! # From a device description to the object dictionary

The model of `converter.rs`: the values of a file are read from their texts, the objects are placed
in the dictionary of the core crate (`toCoreOd`), and the values alone in a map for the storage
backend (`xdcToStorageMap`).

The parsers of the standard library for reals and of the crate `hex` are parameters.  The metadata
that the model of the dictionary leaves out (category, value range, PDO mapping) is left out. -/

namespace PowerlinkXdc.Converter

open Powerlink (ObjectValue AccessType ObjectEntry StoredParams)

/-- The parsers that the conversion calls for reals and for octets. -/
structure TextParsers where
  parseF32 : String → Option UInt32
  parseF64 : String → Option UInt64
  hexDecode : String → Except FromHexError (List UInt8)

/-! ### Data types -/

/-- `DataTypeName`. -/
inductive DataTypeName where
  | boolean
  | integer8
  | integer16
  | integer32
  | unsigned8
  | unsigned16
  | unsigned32
  | real32
  | visibleString
  | integer24
  | real64
  | integer40
  | integer48
  | integer56
  | integer64
  | octetString
  | unicodeString
  | timeOfDay
  | timeDiff
  | domain
  | unsigned24
  | unsigned40
  | unsigned48
  | unsigned56
  | unsigned64
  | macAddress
  | ipAddress
  | netTime
deriving DecidableEq, Repr

/-- `get_standard_type_from_hex`. -/
def getStandardTypeFromHex (typeId : String) : Option DataTypeName :=
  match strip0x typeId with
  | "0001" => some .boolean
  | "0002" => some .integer8
  | "0003" => some .integer16
  | "0004" => some .integer32
  | "0005" => some .unsigned8
  | "0006" => some .unsigned16
  | "0007" => some .unsigned32
  | "0008" => some .real32
  | "0009" => some .visibleString
  | "0010" => some .integer24
  | "0011" => some .real64
  | "0012" => some .integer40
  | "0013" => some .integer48
  | "0014" => some .integer56
  | "0015" => some .integer64
  | "000A" => some .octetString
  | "000B" => some .unicodeString
  | "000C" => some .timeOfDay
  | "000D" => some .timeDiff
  | "000F" => some .domain
  | "0016" => some .unsigned24
  | "0018" => some .unsigned40
  | "0019" => some .unsigned48
  | "001A" => some .unsigned56
  | "001B" => some .unsigned64
  | "0401" => some .macAddress
  | "0402" => some .ipAddress
  | "0403" => some .netTime
  | _ => none

/-! ### Texts -/

/-- `char::is_whitespace`. -/
def isWhitespace (c : Char) : Bool :=
  decide (0x9 ≤ c.toNat ∧ c.toNat ≤ 0xD ∨ 0x2000 ≤ c.toNat ∧ c.toNat ≤ 0x200A) ||
    [0x20, 0x85, 0xA0, 0x1680, 0x2028, 0x2029, 0x202F, 0x205F, 0x3000].contains c.toNat

/-- `str::trim`. -/
def trim (s : String) : String :=
  String.ofList ((s.toList.dropWhile isWhitespace).reverse.dropWhile isWhitespace).reverse

/-- `from_str_radix` of the unsigned types. -/
def fromStrRadixUnsigned (bits radix : ℕ) (s : String) : Option ℕ := Numerals.parse radix (2 ^ bits) s

/-- `from_str_radix` of the signed types. -/
def fromStrRadixSigned (bits radix : ℕ) (s : String) : Option ℤ :=
  match s.toList with
  | '-' :: c :: cs =>
      ((Numerals.readDigits radix 0 (c :: cs)).filter (· ≤ 2 ^ (bits - 1))).map (fun n => -(n : ℤ))
  | _ => (Numerals.parse radix (2 ^ (bits - 1)) s).map Int.ofNat

/-- The macro `parse_num!`: `0x` and `0X` announce hexadecimal digits. -/
def parseNum {α : Type} (fromStrRadix : ℕ → String → Option α) (valueStr : String) :
    Except XdcError α :=
  orInvalid "defaultValue or actualValue (numeric)" (match (trim valueStr).toList with
    | '0' :: 'x' :: digits | '0' :: 'X' :: digits => fromStrRadix 16 (String.ofList digits)
    | digits => fromStrRadix 10 (String.ofList digits))

variable (p : TextParsers)

/-- `parse_hex_string`. -/
def parseHexString (s : String) : Except XdcError (List UInt8) :=
  let digits := strip0x s
  match p.hexDecode (if digits.utf8ByteSize % 2 ≠ 0 then "0" ++ digits else digits) with
  | .ok bytes => .ok bytes
  | .error e => .error (.hexParsing e)

/-! ### Values -/

/-- The part of `map_data_to_value` after the type is known. -/
def mapTextToValue (valueStr : String) : DataTypeName → Except XdcError (Option ObjectValue)
  | .boolean =>
      match trim valueStr with
      | "true" | "1" => .ok (some (.boolean 1))
      | "false" | "0" => .ok (some (.boolean 0))
      | _ => .error (.invalidAttributeFormat "boolean value")
  | .integer8 => do
      let n ← parseNum (fromStrRadixSigned 8) valueStr
      .ok (some (.integer8 (Int8.ofInt n)))
  | .integer16 => do
      let n ← parseNum (fromStrRadixSigned 16) valueStr
      .ok (some (.integer16 (Int16.ofInt n)))
  | .integer32 => do
      let n ← parseNum (fromStrRadixSigned 32) valueStr
      .ok (some (.integer32 (Int32.ofInt n)))
  | .unsigned8 => do
      let n ← parseNum (fromStrRadixUnsigned 8) valueStr
      .ok (some (.unsigned8 (UInt8.ofNat n)))
  | .unsigned16 => do
      let n ← parseNum (fromStrRadixUnsigned 16) valueStr
      .ok (some (.unsigned16 (UInt16.ofNat n)))
  | .unsigned32 => do
      let n ← parseNum (fromStrRadixUnsigned 32) valueStr
      .ok (some (.unsigned32 (UInt32.ofNat n)))
  | .real32 => do
      let bits ← orInvalid "real32" (p.parseF32 valueStr)
      .ok (some (.real32 bits))
  | .visibleString => .ok (some (.visibleString valueStr))
  | .octetString => do
      let bytes ← parseHexString p valueStr
      .ok (some (.octetString bytes))
  | .domain => do
      let bytes ← parseHexString p valueStr
      .ok (some (.domain bytes))
  | .real64 => do
      let bits ← orInvalid "real64" (p.parseF64 valueStr)
      .ok (some (.real64 bits))
  | .integer64 => do
      let n ← parseNum (fromStrRadixSigned 64) valueStr
      .ok (some (.integer64 (Int64.ofInt n)))
  | .unsigned64 => do
      let n ← parseNum (fromStrRadixUnsigned 64) valueStr
      .ok (some (.unsigned64 (UInt64.ofNat n)))
  | .macAddress => do
      match ← parseHexString p valueStr with
      | [b₀, b₁, b₂, b₃, b₄, b₅] => .ok (some (.macAddress ⟨b₀, b₁, b₂, b₃, b₄, b₅⟩))
      | _ => .error (.validationError "Invalid MAC address length")
  | .ipAddress => do
      match ← parseHexString p valueStr with
      | [b₀, b₁, b₂, b₃] => .ok (some (.ipAddress ⟨b₀, b₁, b₂, b₃⟩))
      | _ => .error (.validationError "Invalid IP address length")
  | _ => .ok none

/-- `map_data_to_value`. -/
def mapDataToValue (valueStr : String) (dataTypeId : Option String) :
    Except XdcError (Option ObjectValue) :=
  match dataTypeId with
  | none => .ok none
  | some id =>
      match getStandardTypeFromHex id with
      | none => .ok none
      | some typeName => mapTextToValue p valueStr typeName

/-- The value of an object or sub-object, if it has data of a known type. -/
def valueOf (a : Types.Attributes) : Except XdcError (Option ObjectValue) :=
  match a.data with
  | none => .ok none
  | some d => mapDataToValue p d a.dataType

/-- A value that an object must have. -/
def requiredValue (missing : String) (a : Types.Attributes) : Except XdcError ObjectValue := do
  match ← valueOf p a with
  | some value => .ok value
  | none => .error (.validationError missing)

/-! ### Objects -/

/-- `count_from_idx0`: the decimal text at sub-index `0`. -/
def countFromIdx0 (obj : Types.Object) : Option ℕ :=
  ((obj.subObjects.find? (fun s => s.subIndex = 0)).bind (fun s => s.data)).bind
    (Numerals.parse 10 (2 ^ 64))

/-- The number of elements of an array or record: the count, or else the largest sub-index. -/
def elementCount (obj : Types.Object) : ℕ :=
  match countFromIdx0 obj with
  | some c => c
  | none => ((obj.subObjects.map (fun s => s.subIndex.toNat)).max?).getD 0

/-- A sub-object in the loop of `map_object`. -/
def placeElement (missing : String) (subValues : List ObjectValue) (subObj : Types.SubObject) :
    Except XdcError (List ObjectValue) :=
  if subObj.subIndex = 0 then .ok subValues
  else do
    let value ← requiredValue p missing subObj.toAttributes
    let idx := subObj.subIndex.toNat - 1
    .ok (if idx < subValues.length then subValues.set idx value else subValues)

/-- The elements of an array or record. -/
def mapElements (missing : String) (obj : Types.Object) : Except XdcError (List ObjectValue) :=
  obj.subObjects.foldlM (placeElement p missing)
    (List.replicate (elementCount obj) (.unsigned8 0))

/-- `map_object`. -/
def mapObject (obj : Types.Object) : Except XdcError Powerlink.Object :=
  match obj.objectType with
  | "7" => do
      let value ← requiredValue p "VAR object (7) missing data or dataType" obj.toAttributes
      .ok (.variable value)
  | "8" => do
      let subValues ← mapElements p "Array sub-object missing data" obj
      .ok (.array subValues)
  | "9" => do
      let subValues ← mapElements p "Record sub-object missing data" obj
      .ok (.record subValues)
  | _ => .error (.validationError "Unknown objectType")

/-- `map_access_type`. -/
def mapAccessType : Types.ParameterAccess → AccessType
  | .constant => .constant
  | .readOnly => .readOnly
  | .writeOnly => .writeOnly
  | .readWrite => .readWrite
  | .readWriteInput => .readWrite
  | .readWriteOutput => .readWrite
  | .noAccess => .readOnly

/-- The entry of an object. -/
def mapEntry (obj : Types.Object) : Except XdcError ObjectEntry := do
  let coreObject ← mapObject p obj
  let defaultValue ← valueOf p obj.toAttributes
  .ok
    { object := coreObject
      name := obj.name
      access := obj.accessType.map mapAccessType
      defaultValue := defaultValue }

/-! ### Files -/

/-- An object in the loop of `to_core_od`. -/
def insertObject {σ : Type} (coreOd : Powerlink.ObjectDictionary σ) (obj : Types.Object) :
    Except XdcError (Powerlink.ObjectDictionary σ) := do
  let coreEntry ← mapEntry p obj
  .ok (coreOd.insert obj.index coreEntry)

/-- `to_core_od`. -/
def toCoreOd {σ : Type} (xdcFile : Types.XdcFile) :
    Except XdcError (Powerlink.ObjectDictionary σ) :=
  xdcFile.objectDictionary.objects.foldlM (insertObject p) (.new none)

/-- A value in the loops of `xdc_to_storage_map`. -/
def storeValue (map : StoredParams) (index : UInt16) (subIndex : UInt8) (a : Types.Attributes) :
    Except XdcError StoredParams :=
  match a.data, a.dataType with
  | some data, some dataTypeId => do
      match ← mapDataToValue p data (some dataTypeId) with
      | some value => .ok (map.insert (index, subIndex) value)
      | none => .ok map
  | _, _ => .ok map

/-- An object in the loop of `xdc_to_storage_map`. -/
def storeObject (map : StoredParams) (obj : Types.Object) : Except XdcError StoredParams :=
  if obj.objectType = "7" then storeValue p map obj.index 0 obj.toAttributes
  else obj.subObjects.foldlM
    (fun map subObj => storeValue p map obj.index subObj.subIndex subObj.toAttributes) map

/-- `xdc_to_storage_map`. -/
def xdcToStorageMap (xdcFile : Types.XdcFile) : Except XdcError StoredParams :=
  xdcFile.objectDictionary.objects.foldlM (storeObject p) .empty

/-! ### What the conversion reads -/

variable {p}

theorem requiredValue_eq_ok_iff {missing : String} {a : Types.Attributes} {value : ObjectValue} :
    requiredValue p missing a = .ok value ↔ valueOf p a = .ok (some value) := by
  unfold requiredValue
  cases valueOf p a with
  | error e => simp [bind, Except.bind]
  | ok v => cases v <;> simp [bind, Except.bind]

/-- An object that is converted is a variable with a value, or has elements. -/
theorem mapObject_cases {obj : Types.Object} {object : Powerlink.Object}
    (h : mapObject p obj = .ok object) :
    (obj.objectType = "7" ∧
      ∃ value, valueOf p obj.toAttributes = .ok (some value) ∧ object = .variable value) ∨
    (obj.objectType ≠ "7" ∧ ∃ missing values, mapElements p missing obj = .ok values ∧
      (object = .array values ∨ object = .record values)) := by
  unfold mapObject at h
  split at h
  · rename_i htype
    obtain ⟨value, hvalue, hobject⟩ := Powerlink.bind_eq_ok_iff.mp h
    cases hobject
    exact .inl ⟨htype, value, requiredValue_eq_ok_iff.mp hvalue, rfl⟩
  · rename_i htype
    obtain ⟨values, hvalues, hobject⟩ := Powerlink.bind_eq_ok_iff.mp h
    cases hobject
    exact .inr ⟨by rw [htype]; decide, _, values, hvalues, .inl rfl⟩
  · rename_i htype
    obtain ⟨values, hvalues, hobject⟩ := Powerlink.bind_eq_ok_iff.mp h
    cases hobject
    exact .inr ⟨by rw [htype]; decide, _, values, hvalues, .inr rfl⟩
  · cases h

theorem mapEntry_eq_ok {obj : Types.Object} {entry : ObjectEntry} (h : mapEntry p obj = .ok entry) :
    mapObject p obj = .ok entry.object ∧ entry.access = obj.accessType.map mapAccessType := by
  obtain ⟨object, hobject, h⟩ := Powerlink.bind_eq_ok_iff.mp h
  obtain ⟨default, -, h⟩ := Powerlink.bind_eq_ok_iff.mp h
  cases h
  exact ⟨hobject, rfl⟩

/-! ### Elements -/

/-- The last sub-object with a sub-index. -/
def lastSubObject (obj : Types.Object) (subIndex : UInt8) : Option Types.SubObject :=
  obj.subObjects.reverse.find? (fun s => s.subIndex = subIndex)

/-- A sub-object is placed at its sub-index, if that is not beyond the end. -/
theorem placeElement_spec {missing : String} {values values' : List ObjectValue}
    {s : Types.SubObject} (h : placeElement p missing values s = .ok values') {subIndex : UInt8}
    (hsub : subIndex ≠ 0) (hinside : subIndex.toNat ≤ values.length) :
    values'.length = values.length ∧ values'[subIndex.toNat - 1]? =
      if s.subIndex = subIndex then (valueOf p s.toAttributes).toOption.join
      else values[subIndex.toNat - 1]? := by
  have hpos : subIndex.toNat ≠ 0 := fun hzero => hsub (UInt8.toNat_inj.mp hzero)
  unfold placeElement at h
  by_cases hzero : s.subIndex = 0
  · rw [if_pos hzero] at h
    cases h
    rw [if_neg (fun heq => hsub (heq.symm.trans hzero))]
    exact ⟨rfl, rfl⟩
  · rw [if_neg hzero] at h
    obtain ⟨value, hvalue, h⟩ := Powerlink.bind_eq_ok_iff.mp h
    cases h
    rw [requiredValue_eq_ok_iff.mp hvalue]
    by_cases heq : s.subIndex = subIndex
    · rw [if_pos heq, heq, if_pos (by omega), List.length_set,
        List.getElem?_set_self (by omega)]
      exact ⟨rfl, rfl⟩
    · have hne := Powerlink.ObjectDictionary.position_ne hzero hsub heq
      rw [if_neg heq]
      split_ifs
      · rw [List.length_set, List.getElem?_set_ne hne]
        exact ⟨rfl, rfl⟩
      · exact ⟨rfl, rfl⟩

theorem length_placeElement {missing : String} {values values' : List ObjectValue}
    {s : Types.SubObject} (h : placeElement p missing values s = .ok values') :
    values'.length = values.length := by
  unfold placeElement at h
  split_ifs at h
  · cases h
    rfl
  · obtain ⟨value, -, h⟩ := Powerlink.bind_eq_ok_iff.mp h
    cases h
    split_ifs
    · exact List.length_set
    · rfl

/-- There are as many elements as announced. -/
theorem length_mapElements {missing : String} {obj : Types.Object} {values : List ObjectValue}
    (h : mapElements p missing obj = .ok values) : values.length = elementCount obj := by
  refine (Collect.read_foldlM (fun values => values.length = elementCount obj) (fun _ => ())
    (fun _ => true) (fun _ => ()) ?_ List.length_replicate h).1
  intro values s values' hlength hs
  exact ⟨(length_placeElement hs).trans hlength, rfl⟩

/-- The sub-objects of an array or record that is converted have values. -/
theorem exists_value_of_mapElements {missing : String} {obj : Types.Object}
    {values : List ObjectValue} (h : mapElements p missing obj = .ok values) :
    ∀ s ∈ obj.subObjects, s.subIndex ≠ 0 →
      ∃ value, valueOf p s.toAttributes = .ok (some value) := by
  refine Collect.forall_of_foldlM ?_ h
  intro values s values' hs hsub
  unfold placeElement at hs
  rw [if_neg hsub] at hs
  obtain ⟨value, hvalue, -⟩ := Powerlink.bind_eq_ok_iff.mp hs
  exact ⟨value, requiredValue_eq_ok_iff.mp hvalue⟩

/-- The element at a sub-index is the last sub-object with that sub-index, or the octet `0` if there
is none. -/
theorem getElem?_mapElements {missing : String} {obj : Types.Object} {values : List ObjectValue}
    (h : mapElements p missing obj = .ok values) {subIndex : UInt8} (hsub : subIndex ≠ 0)
    (hinside : subIndex.toNat ≤ elementCount obj) :
    values[subIndex.toNat - 1]? = match lastSubObject obj subIndex with
      | some s => (valueOf p s.toAttributes).toOption.join
      | none => some (.unsigned8 0) := by
  have hpos : subIndex.toNat ≠ 0 := fun hzero => hsub (UInt8.toNat_inj.mp hzero)
  have hread := (Collect.read_foldlM (fun values => values.length = elementCount obj)
    (fun values => values[subIndex.toNat - 1]?) (fun s => s.subIndex = subIndex)
    (fun s => (valueOf p s.toAttributes).toOption.join) ?_ List.length_replicate h).2
  · rw [hread, List.getElem?_replicate, if_pos (by omega), lastSubObject]
    cases obj.subObjects.reverse.find? (fun s => s.subIndex = subIndex) with
    | none => rfl
    | some s => rfl
  · intro values s values' hlength hs
    obtain ⟨hlength', helement⟩ := placeElement_spec hs hsub (hlength.symm ▸ hinside)
    refine ⟨hlength'.trans hlength, ?_⟩
    rw [helement]
    simp only [decide_eq_true_eq]

/-! ### The dictionary -/

variable {σ : Type} {od : Powerlink.ObjectDictionary σ} {f : Types.XdcFile}

/-- The last object with an index. -/
def lastObject (f : Types.XdcFile) (index : UInt16) : Option Types.Object :=
  f.objectDictionary.objects.reverse.find? (fun o => o.index = index)

theorem mem_of_lastObject {index : UInt16} {w : Types.Object} (h : lastObject f index = some w) :
    w ∈ f.objectDictionary.objects ∧ w.index = index := by
  unfold lastObject at h
  have hindex := List.find?_some h
  exact ⟨List.mem_reverse.mp (List.mem_of_find?_eq_some h), of_decide_eq_true hindex⟩

theorem exists_lastObject {o : Types.Object} (ho : o ∈ f.objectDictionary.objects) :
    ∃ w, lastObject f o.index = some w := by
  rw [← Option.isSome_iff_exists, lastObject, List.find?_isSome]
  exact ⟨o, List.mem_reverse.mpr ho, decide_eq_true rfl⟩

/-- Every object of a file that is converted has an entry. -/
theorem exists_mapEntry (h : toCoreOd p f = .ok od) {o : Types.Object}
    (ho : o ∈ f.objectDictionary.objects) : ∃ entry, mapEntry p o = .ok entry := by
  refine Collect.forall_of_foldlM (P := fun o => ∃ entry, mapEntry p o = .ok entry) ?_ h o ho
  intro od o od' hstep
  obtain ⟨entry, hentry, -⟩ := Powerlink.bind_eq_ok_iff.mp hstep
  exact ⟨entry, hentry⟩

/-- The entry at an index is the one of the last object with that index. -/
theorem get?_toCoreOd (h : toCoreOd p f = .ok od) (index : UInt16) :
    od.entries.get? index =
      (lastObject f index).bind (fun w => (mapEntry p w).toOption) := by
  have hread := (Collect.read_foldlM (fun _ => True) (fun od => od.entries.get? index)
    (fun o => o.index = index) (fun o => (mapEntry p o).toOption) ?_ trivial h).2
  · rw [hread, lastObject]
    cases List.find? (fun o => decide (o.index = index)) f.objectDictionary.objects.reverse with
    | none => rfl
    | some w => rfl
  · intro od o od' _ hstep
    obtain ⟨entry, hentry, hinsert⟩ := Powerlink.bind_eq_ok_iff.mp hstep
    cases hinsert
    refine ⟨trivial, ?_⟩
    rw [hentry]
    dsimp only [Powerlink.ObjectDictionary.insert]
    rw [SortedMap.get?_insert]
    by_cases heq : o.index = index
    · rw [if_pos heq.symm, if_pos (decide_eq_true heq)]
      rfl
    · rw [if_neg (fun h => heq h.symm), if_neg (by simpa using heq)]

/-- The entry of the last object with an index. -/
theorem exists_entry (h : toCoreOd p f = .ok od) {index : UInt16} {w : Types.Object}
    (hw : lastObject f index = some w) :
    ∃ entry, od.entries.get? index = some entry ∧ mapObject p w = .ok entry.object ∧
      entry.access = w.accessType.map mapAccessType := by
  obtain ⟨entry, hentry⟩ := exists_mapEntry h (mem_of_lastObject hw).1
  refine ⟨entry, ?_, mapEntry_eq_ok hentry⟩
  rw [get?_toCoreOd h, hw, Option.bind_some, hentry]
  rfl

end PowerlinkXdc.Converter
