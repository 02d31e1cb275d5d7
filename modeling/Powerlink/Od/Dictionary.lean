import Powerlink.Od.Value

/-! # The object dictionary

The model of `od/entry.rs`, `od/mod.rs`, `od/commands.rs` and `od/pdo_validator.rs`: an
ordered map from indices to entries together with an optional storage backend.

* `ObjectDictionaryStorage σ` is the storage trait of `hal.rs`; a method that takes
  `&mut self` returns the new backend.
* `read` and `write` address a value by index and sub-index.  Sub-index `0` of an array or
  record is the number of its elements and is not stored.
* `write` gives the objects `0x1010` and `0x1011` their command semantics, validates a PDO
  mapping before its entry count is written, and hands everything else to `writeInternal`,
  which checks access rights and types.

A failed write returns the dictionary it was given (`write_error_entries`). -/

namespace Powerlink

/-- `Object`. -/
inductive Object where
  | variable (value : ObjectValue)
  | array (values : List ObjectValue)
  | record (values : List ObjectValue)
deriving DecidableEq, Repr

/-- `AccessType`. -/
inductive AccessType where
  | readOnly
  | writeOnly
  | writeOnlyStore
  | readWrite
  | readWriteStore
  | constant
  | conditional
deriving DecidableEq, Repr

/-- `ObjectEntry`, with the metadata that the modelled operations read. -/
structure ObjectEntry where
  object : Object
  name : String
  access : Option AccessType
  defaultValue : Option ObjectValue
deriving DecidableEq, Repr

/-- The parameters handed to a storage backend, by index and sub-index. -/
abbrev StoredParams := SortedMap (UInt16 × UInt8) ObjectValue

/-- The trait `ObjectDictionaryStorage`. -/
class ObjectDictionaryStorage (σ : Type) where
  load : σ → Except PowerlinkError StoredParams × σ
  save : σ → StoredParams → Except PowerlinkError Unit × σ
  clear : σ → Except PowerlinkError Unit × σ
  restoreDefaultsRequested : σ → Bool
  requestRestoreDefaults : σ → Except PowerlinkError Unit × σ
  clearRestoreDefaultsFlag : σ → Except PowerlinkError Unit × σ

/-- A node without storage: there is no backend to call. -/
instance : ObjectDictionaryStorage Empty where
  load s := s.elim
  save s := s.elim
  clear s := s.elim
  restoreDefaultsRequested s := s.elim
  requestRestoreDefaults s := s.elim
  clearRestoreDefaultsFlag s := s.elim

/-- `ObjectDictionary`. -/
structure ObjectDictionary (σ : Type) where
  entries : SortedMap UInt16 ObjectEntry
  storage : Option σ
deriving DecidableEq

/-- The value at a sub-index of an object. -/
def Object.read : Object → UInt8 → Option ObjectValue
  | .variable value, subIndex => if subIndex = 0 then some value else none
  | .array values, subIndex | .record values, subIndex =>
      if subIndex = 0 then some (.unsigned8 (UInt8.ofNat (min values.length 254)))
      else values[subIndex.toNat - 1]?

namespace ObjectDictionary

variable {σ : Type}

/-- `ObjectDictionary::new`. -/
def new (storage : Option σ) : ObjectDictionary σ := ⟨.empty, storage⟩

/-- `ObjectDictionary::insert`. -/
def insert (od : ObjectDictionary σ) (index : UInt16) (entry : ObjectEntry) :
    ObjectDictionary σ :=
  { od with entries := od.entries.insert index entry }

/-! ### Reading -/

/-- `ObjectDictionary::read`. -/
def read (od : ObjectDictionary σ) (index : UInt16) (subIndex : UInt8) : Option ObjectValue :=
  (od.entries.get? index).bind (fun entry => entry.object.read subIndex)

/-- `ObjectDictionary::read_object`. -/
def readObject (od : ObjectDictionary σ) (index : UInt16) : Option Object :=
  (od.entries.get? index).map ObjectEntry.object

/-- `ObjectDictionary::read_u8`. -/
def readU8 (od : ObjectDictionary σ) (index : UInt16) (subIndex : UInt8) : Option UInt8 :=
  match od.read index subIndex with
  | some (.unsigned8 v) => some v
  | _ => none

/-- `ObjectDictionary::read_u16`. -/
def readU16 (od : ObjectDictionary σ) (index : UInt16) (subIndex : UInt8) : Option UInt16 :=
  match od.read index subIndex with
  | some (.unsigned16 v) => some v
  | _ => none

/-- `ObjectDictionary::read_u32`. -/
def readU32 (od : ObjectDictionary σ) (index : UInt16) (subIndex : UInt8) : Option UInt32 :=
  match od.read index subIndex with
  | some (.unsigned32 v) => some v
  | _ => none

/-- `ObjectDictionary::find_by_name`: the first entry of that name, at sub-index `0`. -/
def findByName (od : ObjectDictionary σ) (name : String) : Option (UInt16 × UInt8) :=
  (od.entries.entries.find? (fun p => decide (p.2.name = name))).map (fun p => (p.1, 0))

/-! ### Store and restore commands -/

/-- The sub-index of `0x1010` selects the group of objects to save. -/
def shouldSave (listToSave : UInt8) (index : UInt16) : Bool :=
  if listToSave = 1 then true
  else if listToSave = 2 then decide (0x1000 ≤ index ∧ index ≤ 0x1FFF)
  else if listToSave = 3 then decide (0x6000 ≤ index ∧ index ≤ 0x9FFF)
  else false

/-- The access types whose values are stored. -/
def isStorable : Option AccessType → Bool
  | some .readWriteStore | some .writeOnlyStore => true
  | _ => false

/-- The values one entry contributes to the stored parameters. -/
def storeEntry (params : StoredParams) (index : UInt16) : Object → StoredParams
  | .variable value => params.insert (index, 0) value
  | .array values | .record values =>
      values.zipIdx.foldl (fun ps p => ps.insert (index, UInt8.ofNat (p.2 + 1)) p.1) params

/-- The parameters collected by `commands::store_parameters`. -/
def storableParams (od : ObjectDictionary σ) (listToSave : UInt8) : StoredParams :=
  od.entries.entries.foldl (fun ps p =>
    if shouldSave listToSave p.1 && isStorable p.2.access then storeEntry ps p.1 p.2.object
    else ps) .empty

/-- `commands::store_parameters`. -/
def storeParameters [ObjectDictionaryStorage σ] (od : ObjectDictionary σ) (listToSave : UInt8) :
    Except PowerlinkError Unit × ObjectDictionary σ :=
  if listToSave = 0 then (.error (.storageError "Cannot save to sub-index 0"), od)
  else match od.storage with
    | some s =>
        let (result, s') := ObjectDictionaryStorage.save s (od.storableParams listToSave)
        (result, { od with storage := some s' })
    | none => (.error (.storageError "No storage backend configured"), od)

/-- `commands::restore_defaults`. -/
def restoreDefaults [ObjectDictionaryStorage σ] (od : ObjectDictionary σ) (listToRestore : UInt8) :
    Except PowerlinkError Unit × ObjectDictionary σ :=
  if listToRestore = 0 then (.error (.storageError "Cannot restore from sub-index 0"), od)
  else match od.storage with
    | some s =>
        let (result, s') := ObjectDictionaryStorage.requestRestoreDefaults s
        (result, { od with storage := some s' })
    | none => (.error (.storageError "No storage backend configured"), od)

/-! ### PDO mapping validation -/

/-- The loop of `validate_pdo_mapping`: the largest end position, in bits, of the first
`n` mapping entries from position `i` on. -/
def maxBitsRequired (entries : List ObjectValue) : ℕ → ℕ → ℕ → Except PowerlinkError ℕ
  | _, 0, acc => .ok acc
  | i, n + 1, acc =>
      match entries[i]? with
      | some (.unsigned64 raw) =>
          let entry := PdoMappingEntry.fromU64 raw
          maxBitsRequired entries (i + 1) n
            (max acc (entry.offsetBits.toNat + entry.lengthBits.toNat))
      | _ => .error (.validationError "Incomplete PDO mapping configuration: Missing entries")

/-- `pdo_validator::validate_pdo_mapping`. -/
def validatePdoMapping (od : ObjectDictionary σ) (index : UInt16) (newNumEntries : UInt8) :
    Except PowerlinkError Unit :=
  if newNumEntries = 0 then .ok ()
  else
    let isTpdo := decide (0x1A00 ≤ index ∧ index ≤ 0x1AFF)
    let isRpdo := decide (0x1600 ≤ index ∧ index ≤ 0x16FF)
    if !isTpdo && !isRpdo then .ok ()
    else
      let payloadLimitBytes := if isTpdo then ((od.readU16 0x1F98 1).getD 1490).toNat
        else ((od.readU16 0x1F98 2).getD 1490).toNat
      match od.readObject index with
      | some (.array entries) => do
          let maxBits ← maxBitsRequired entries 0 newNumEntries.toNat 0
          if (maxBits + 7) / 8 > payloadLimitBytes then .error .pdoMapOverrun else .ok ()
      | _ => .error .objectNotFound

/-! ### Writing -/

/-- Sub-index `0` of a PDO mapping object. -/
def isPdoMappingIndex0 (index : UInt16) (subIndex : UInt8) : Bool :=
  decide (subIndex = 0) &&
    (decide (0x1600 ≤ index ∧ index ≤ 0x16FF) || decide (0x1A00 ≤ index ∧ index ≤ 0x1AFF))

/-- The element write shared by arrays and records. -/
def writeElement (values : List ObjectValue) (index : UInt16) (subIndex : UInt8)
    (value : ObjectValue) : Except PowerlinkError (List ObjectValue) :=
  if subIndex = 0 then
    if isPdoMappingIndex0 index subIndex then
      -- the count is derived from the length, the write only triggers the validation
      match value with
      | .unsigned8 _ => .ok values
      | _ => .error .typeMismatch
    else .error (.storageError "Cannot write to sub-index 0 of standard Array/Record")
  else match values[subIndex.toNat - 1]? with
    | some v =>
        if v.discriminant ≠ value.discriminant then .error .typeMismatch
        else .ok (values.set (subIndex.toNat - 1) value)
    | none => .error .subObjectNotFound

/-- The effect of a write on the object of an entry. -/
def writeObject (index : UInt16) (subIndex : UInt8) (value : ObjectValue) :
    Object → Except PowerlinkError Object
  | .variable v =>
      if subIndex = 0 then
        if v.discriminant ≠ value.discriminant then .error .typeMismatch
        else .ok (.variable value)
      else .error .subObjectNotFound
  | .array values => (writeElement values index subIndex value).map .array
  | .record values => (writeElement values index subIndex value).map .record

/-- The access types that forbid a write. -/
def isReadOnly : Option AccessType → Bool
  | some .readOnly | some .constant => true
  | _ => false

/-- `ObjectDictionary::write_internal`. -/
def writeInternal (od : ObjectDictionary σ) (index : UInt16) (subIndex : UInt8)
    (value : ObjectValue) (checkAccess : Bool) :
    Except PowerlinkError Unit × ObjectDictionary σ :=
  match od.entries.get? index with
  | none => (.error .objectNotFound, od)
  | some entry =>
      if checkAccess && isReadOnly entry.access then
        (.error (.storageError "Object is read-only"), od)
      else match writeObject index subIndex value entry.object with
        | .error e => (.error e, od)
        | .ok object =>
            (.ok (), { od with
              entries := od.entries.modify index (fun e => { e with object := object }) })

/-- `ObjectDictionary::write`. -/
def write [ObjectDictionaryStorage σ] (od : ObjectDictionary σ) (index : UInt16)
    (subIndex : UInt8) (value : ObjectValue) : Except PowerlinkError Unit × ObjectDictionary σ :=
  if index = 0x1010 then
    if value = .visibleString "save" ∧ subIndex > 0 then od.storeParameters subIndex
    else (.error (.storageError "Invalid signature or sub-index for Store Parameters"), od)
  else if index = 0x1011 then
    if value = .visibleString "load" ∧ subIndex > 0 then od.restoreDefaults subIndex
    else (.error (.storageError "Invalid signature or sub-index for Restore Defaults"), od)
  else if isPdoMappingIndex0 index subIndex then
    match value with
    | .unsigned8 newNumEntries =>
        match od.validatePdoMapping index newNumEntries with
        | .error e => (.error e, od)
        | .ok () => od.writeInternal index subIndex value true
    | _ => (.error .typeMismatch, od)
  else od.writeInternal index subIndex value true

/-! ### What a write leaves alone -/

theorem writeInternal_error {od : ObjectDictionary σ} {index : UInt16} {subIndex : UInt8}
    {value : ObjectValue} {checkAccess : Bool} {e : PowerlinkError}
    (h : (od.writeInternal index subIndex value checkAccess).1 = .error e) :
    (od.writeInternal index subIndex value checkAccess).2 = od := by
  unfold writeInternal at h ⊢
  split at h
  · rfl
  · split_ifs at h ⊢ with hro
    · rfl
    · split at h
      · rfl
      · cases h

/-- The other objects keep their values. -/
theorem read_writeInternal (od : ObjectDictionary σ) {index index' : UInt16} (h : index' ≠ index)
    (subIndex subIndex' : UInt8) (value : ObjectValue) (checkAccess : Bool) :
    (od.writeInternal index subIndex value checkAccess).2.read index' subIndex' =
      od.read index' subIndex' := by
  unfold writeInternal
  split
  · rfl
  · split_ifs
    · rfl
    · split
      · rfl
      · unfold read
        dsimp only
        rw [SortedMap.get?_modify, if_neg h]

/-- A failed write that is no store or restore command has no effect. -/
theorem write_error_eq [ObjectDictionaryStorage σ] {od : ObjectDictionary σ}
    {index : UInt16} {subIndex : UInt8} {value : ObjectValue} {e : PowerlinkError}
    (hstore : index ≠ 0x1010) (hrestore : index ≠ 0x1011)
    (h : (od.write index subIndex value).1 = .error e) :
    (od.write index subIndex value).2 = od := by
  unfold write at h ⊢
  rw [if_neg hstore, if_neg hrestore] at h ⊢
  split_ifs at h ⊢ with hpdo
  · split at h
    · split at h
      · rfl
      · exact writeInternal_error h
    · rfl
  · exact writeInternal_error h

/-- A failed write does not touch the entries (the backend may have seen a failed save). -/
theorem write_error_entries [ObjectDictionaryStorage σ] {od : ObjectDictionary σ}
    {index : UInt16} {subIndex : UInt8} {value : ObjectValue} {e : PowerlinkError}
    (h : (od.write index subIndex value).1 = .error e) :
    (od.write index subIndex value).2.entries = od.entries := by
  unfold write at h ⊢
  split_ifs at h ⊢ with h1 h2 h3 h4 h5
  · unfold storeParameters
    split_ifs
    · rfl
    · split <;> rfl
  · rfl
  · unfold restoreDefaults
    split_ifs
    · rfl
    · split <;> rfl
  · rfl
  · split at h
    · split at h
      · rfl
      · rw [writeInternal_error h]
    · rfl
  · rw [writeInternal_error h]

end ObjectDictionary

end Powerlink
