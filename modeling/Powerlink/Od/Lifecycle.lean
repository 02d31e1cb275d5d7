import Powerlink.Od.Dictionary

/-! # Initialisation and upkeep of the dictionary

What a node does to its own dictionary outside of SDO writes (`od/storage.rs`,
`od/predefined.rs`, `od/mod.rs`): the objects of the protocol are inserted where they are
missing and the stored parameters are laid over the firmware defaults when the node is created,
power-on values are restored by a reset, and the diagnostic counters are incremented. -/

namespace Powerlink

namespace ObjectDictionary

variable {σ : Type}

/-- The object that `increment_counter` leaves behind. -/
def incrementObject (subIndex : UInt8) : Object → Object
  | .variable (.unsigned32 v) =>
      if subIndex = 0 then .variable (.unsigned32 (v + 1)) else .variable (.unsigned32 v)
  | .record values =>
      if subIndex = 0 then .record values
      else match values[subIndex.toNat - 1]? with
        | some (.unsigned32 v) => .record (values.set (subIndex.toNat - 1) (.unsigned32 (v + 1)))
        | _ => .record values
  | object => object

/-- `ObjectDictionary::increment_counter`. -/
def incrementCounter (od : ObjectDictionary σ) (index : UInt16) (subIndex : UInt8) :
    ObjectDictionary σ :=
  { od with
    entries := od.entries.modify index
      (fun entry => { entry with object := incrementObject subIndex entry.object }) }

/-- The other objects keep their values. -/
theorem read_incrementCounter (od : ObjectDictionary σ) {index index' : UInt16} (h : index' ≠ index)
    (subIndex subIndex' : UInt8) :
    (od.incrementCounter index subIndex).read index' subIndex' = od.read index' subIndex' := by
  unfold read incrementCounter
  dsimp only
  rw [SortedMap.get?_modify, if_neg h]

/-! ### Power-on values -/

/-- The power-on value of one element: the stored value, else the default of the same type. -/
def powerOnElement (stored : Option StoredParams) (defaultValue : Option ObjectValue)
    (index : UInt16) (subIndex : UInt8) (value : ObjectValue) : ObjectValue :=
  match stored.bind (fun params => params.get? (index, subIndex)) with
  | some storedValue => storedValue
  | none =>
      match defaultValue with
      | some default => if value.discriminant = default.discriminant then default else value
      | none => value

/-- The power-on value of a variable: the stored value, else the default. -/
def powerOnVariable (stored : Option StoredParams) (defaultValue : Option ObjectValue)
    (index : UInt16) (value : ObjectValue) : ObjectValue :=
  match stored.bind (fun params => params.get? (index, 0)) with
  | some storedValue => storedValue
  | none => defaultValue.getD value

/-- The power-on value of one entry. -/
def powerOnEntry (stored : Option StoredParams) (index : UInt16) (entry : ObjectEntry) :
    ObjectEntry :=
  let elements (values : List ObjectValue) :=
    values.zipIdx.map (fun p =>
      powerOnElement stored entry.defaultValue index (UInt8.ofNat (p.2 + 1)) p.1)
  match entry.object with
  | .variable value =>
      { entry with object := .variable (powerOnVariable stored entry.defaultValue index value) }
  | .array values => { entry with object := .array (elements values) }
  | .record values => { entry with object := .record (elements values) }

variable [ObjectDictionaryStorage σ]

/-- The parameters that a storage backend returns, if any, and the backend after the call. -/
def loadStored (od : ObjectDictionary σ) : Option StoredParams × Option σ :=
  match od.storage with
  | none => (none, none)
  | some s =>
      match ObjectDictionaryStorage.load s with
      | (.ok params, s') => (some params, some s')
      | (.error _, s') => (none, some s')

/-- `ObjectDictionary::restore_power_on_values`; the error history `0x1003` is left alone. -/
def restorePowerOnValues (od : ObjectDictionary σ) (startIndex endIndex : UInt16) :
    ObjectDictionary σ :=
  { entries := od.entries.mapValues (fun index entry =>
      if index < startIndex ∨ endIndex < index ∨ index = 0x1003 then entry
      else powerOnEntry od.loadStored.1 index entry)
    storage := od.loadStored.2 }

/-! ### Creation -/

omit [ObjectDictionaryStorage σ] in
/-- The macro `insert_if_missing!`. -/
def insertIfMissing (od : ObjectDictionary σ) (index : UInt16) (entry : ObjectEntry) :
    ObjectDictionary σ :=
  if (od.entries.get? index).isSome then od else od.insert index entry

/-- The entries of `populate_protocol_objects`. -/
def protocolObjects : List (UInt16 × ObjectEntry) :=
  let ones : List ObjectValue := [.unsigned32 1, .unsigned32 1, .unsigned32 1]
  let zeros : ObjectValue := .octetString (List.replicate 32 0)
  [(0x1010, ⟨.record ones, "NMT_StoreParam_REC", none, none⟩),
    (0x1011, ⟨.record ones, "NMT_RestoreDefParam_REC", none, none⟩),
    (0x1300, ⟨.variable (.unsigned32 15000), "SDO_SequLayerTimeout_U32", some .readWriteStore,
      some (.unsigned32 15000)⟩),
    (0x1302, ⟨.variable (.unsigned32 2), "SDO_SequLayerNoAck_U32", some .readWriteStore,
      some (.unsigned32 2)⟩),
    (0x0420, ⟨.record [.unsigned8 2, .unsigned8 0, .unsigned8 0], "PDO_CommParamRecord_TYPE",
      some .constant, none⟩),
    (0x1400, ⟨.record [.unsigned8 0, .unsigned8 0], "PDO_RxCommParam_00h_REC", none, none⟩),
    (0x1600, ⟨.array [], "PDO_RxMappParam_00h_AU64", none, none⟩),
    (0x1800, ⟨.record [.unsigned8 1, .unsigned8 0], "PDO_TxCommParam_00h_REC", none, none⟩),
    (0x1A00, ⟨.array [], "PDO_TxMappParam_00h_AU64", none, none⟩),
    (0x1C80, ⟨.variable zeros, "PDO_ErrMapVers_OSTR", some .readWrite, some zeros⟩),
    (0x1C81, ⟨.variable zeros, "PDO_ErrShort_RX_OSTR", some .readWrite, some zeros⟩),
    (0x1F8C, ⟨.variable (.unsigned8 0), "NMT_CurrNMTState_U8", some .readOnly,
      some (.unsigned8 0)⟩)]

omit [ObjectDictionaryStorage σ] in
/-- `predefined::populate_protocol_objects`. -/
def populateProtocolObjects (od : ObjectDictionary σ) : ObjectDictionary σ :=
  protocolObjects.foldl (fun od p => od.insertIfMissing p.1 p.2) od

/-- `storage::init`. -/
def init (od : ObjectDictionary σ) : Except PowerlinkError Unit × ObjectDictionary σ :=
  let od := od.populateProtocolObjects
  match od.storage with
  | none => (.ok (), od)
  | some s =>
      if ObjectDictionaryStorage.restoreDefaultsRequested s then
        match ObjectDictionaryStorage.clear s with
        | (.error e, s') => (.error e, { od with storage := some s' })
        | (.ok (), s') =>
            let (result, s'') := ObjectDictionaryStorage.clearRestoreDefaultsFlag s'
            (result, { od with storage := some s'' })
      else
        match ObjectDictionaryStorage.load s with
        | (.error e, s') => (.error e, { od with storage := some s' })
        | (.ok params, s') =>
            -- a stored parameter without an object is skipped
            (.ok (), params.entries.foldl
              (fun od p => (od.writeInternal p.1.1 p.1.2 p.2 false).2)
              { od with storage := some s' })

omit [ObjectDictionaryStorage σ] in
/-- `predefined::validate_mandatory_objects` for a managing node. -/
def validateMandatoryObjects (od : ObjectDictionary σ) : Except PowerlinkError Unit :=
  if [0x1000, 0x1018, 0x1F82].any (fun index => (od.entries.get? index).isNone) then
    .error (.validationError "Missing common mandatory object")
  else if [0x1006, 0x1F81, 0x1F89].any (fun index => (od.entries.get? index).isNone) then
    .error (.validationError "Missing MN-specific mandatory object")
  else .ok ()

omit [ObjectDictionaryStorage σ] in
/-- `predefined::validate_mandatory_objects` for a controlled node. -/
def validateCnMandatoryObjects (od : ObjectDictionary σ) : Except PowerlinkError Unit :=
  if [0x1000, 0x1018, 0x1F82].any (fun index => (od.entries.get? index).isNone) then
    .error (.validationError "Missing common mandatory object")
  else if [0x1F93, 0x1F99].any (fun index => (od.entries.get? index).isNone) then
    .error (.validationError "Missing CN-specific mandatory object")
  else .ok ()

end ObjectDictionary

end Powerlink
