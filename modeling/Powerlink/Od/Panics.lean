import Powerlink.Lib.Slices
import Powerlink.Od.Dictionary

/-! # The dictionary does not panic

The slices and the arithmetic of a read, of `ObjectValue::deserialize` and of a write are checked
here; `none` is the panic.  A sub-index is decremented only if it is not zero, the octets of a value
are sliced only if there are enough of them, and the end of a mapping entry fits 32 bits. -/

namespace Powerlink

open LittleEndian Slices

/-! ### Reads -/

/-- `values[sub_index as usize - 1]` of an array or record. -/
def elementChecked (values : List ObjectValue) (subIndex : UInt8) : Option (Option ObjectValue) := do
  let i ← checkedSub subIndex.toNat 1
  some values[i]?

theorem elementChecked_eq (values : List ObjectValue) {subIndex : UInt8} (h : subIndex ≠ 0) :
    elementChecked values subIndex = some values[subIndex.toNat - 1]? := by
  have hpos : 1 ≤ subIndex.toNat := by
    by_contra hzero
    exact h (UInt8.toNat_inj.mp (Nat.lt_one_iff.mp (Nat.not_le.mp hzero)))
  unfold elementChecked
  rw [checkedSub_eq_some hpos]
  rfl

/-- The value at a sub-index of an object, with its arithmetic checked. -/
def Object.readChecked : Object → UInt8 → Option (Option ObjectValue)
  | .variable value, subIndex => some (if subIndex = 0 then some value else none)
  | .array values, subIndex | .record values, subIndex =>
      if subIndex = 0 then some (some (.unsigned8 (UInt8.ofNat (min values.length 254))))
      else elementChecked values subIndex

theorem Object.readChecked_eq (object : Object) (subIndex : UInt8) :
    object.readChecked subIndex = some (object.read subIndex) := by
  rcases object with value | values | values
  · rfl
  · unfold readChecked read
    dsimp only
    split_ifs with h
    · rfl
    · exact elementChecked_eq values h
  · unfold readChecked read
    dsimp only
    split_ifs with h
    · rfl
    · exact elementChecked_eq values h

/-! ### Values -/

namespace ObjectValue

/-- The macro `deserialize_fixed!` with its slice checked. -/
def deserializeFixedChecked (data : List UInt8) (size : ℕ) (build : List UInt8 → ObjectValue) :
    Option (Except PowerlinkError ObjectValue) :=
  if data.length < size then some (.error .bufferTooShort)
  else do
    let bytes ← slice data 0 size
    some (.ok (build bytes))

/-- `ObjectValue::deserialize` with its slices checked. -/
def deserializeChecked (data : List UInt8) (typeTemplate : ObjectValue) :
    Option (Except PowerlinkError ObjectValue) :=
  match typeTemplate with
  | boolean _ => deserializeFixedChecked data 1 (fun bs => boolean (UInt8.ofNat (ofLeBytes bs)))
  | integer8 _ =>
      deserializeFixedChecked data 1 (fun bs => integer8 (UInt8.ofNat (ofLeBytes bs)).toInt8)
  | integer16 _ => deserializeFixedChecked data 2 (fun bs => integer16 (u16OfBytes bs).toInt16)
  | integer32 _ => deserializeFixedChecked data 4 (fun bs => integer32 (u32OfBytes bs).toInt32)
  | integer64 _ => deserializeFixedChecked data 8 (fun bs => integer64 (u64OfBytes bs).toInt64)
  | unsigned8 _ =>
      deserializeFixedChecked data 1 (fun bs => unsigned8 (UInt8.ofNat (ofLeBytes bs)))
  | unsigned16 _ => deserializeFixedChecked data 2 (fun bs => unsigned16 (u16OfBytes bs))
  | unsigned32 _ => deserializeFixedChecked data 4 (fun bs => unsigned32 (u32OfBytes bs))
  | unsigned64 _ => deserializeFixedChecked data 8 (fun bs => unsigned64 (u64OfBytes bs))
  | real32 _ => deserializeFixedChecked data 4 (fun bs => real32 (u32OfBytes bs))
  | real64 _ => deserializeFixedChecked data 8 (fun bs => real64 (u64OfBytes bs))
  | visibleString _ =>
      some (match fromUtf8 data with
        | some s => .ok (visibleString s)
        | none => .error .typeMismatch)
  | octetString _ => some (.ok (octetString data))
  | domain _ => some (.ok (domain data))
  | timeOfDay _ =>
      if data.length < 6 then some (.error .bufferTooShort)
      else do
        let ms ← slice data 0 4
        let days ← slice data 4 6
        some (.ok (timeOfDay ⟨u32OfBytes ms, u16OfBytes days⟩))
  | timeDifference _ =>
      if data.length < 6 then some (.error .bufferTooShort)
      else do
        let ms ← slice data 0 4
        let days ← slice data 4 6
        some (.ok (timeDifference ⟨u32OfBytes ms, u16OfBytes days⟩))
  | netTime _ =>
      if data.length < 8 then some (.error .bufferTooShort)
      else do
        let seconds ← slice data 0 4
        let nanoseconds ← slice data 4 8
        some (.ok (netTime ⟨u32OfBytes seconds, u32OfBytes nanoseconds⟩))
  | macAddress _ =>
      if data.length < 6 then some (.error .bufferTooShort)
      else do
        match ← slice data 0 6 with
        | [b₀, b₁, b₂, b₃, b₄, b₅] => some (.ok (macAddress ⟨b₀, b₁, b₂, b₃, b₄, b₅⟩))
        | _ => some (.error .sliceConversion)
  | ipAddress _ =>
      if data.length < 4 then some (.error .bufferTooShort)
      else do
        match ← slice data 0 4 with
        | [b₀, b₁, b₂, b₃] => some (.ok (ipAddress ⟨b₀, b₁, b₂, b₃⟩))
        | _ => some (.error .sliceConversion)
  | unicodeString _ =>
      some (if data.length % 2 ≠ 0 then .error .typeMismatch
        else .ok (unicodeString (u16Chunks data)))

theorem deserializeFixedChecked_eq (data : List UInt8) (size : ℕ)
    (build : List UInt8 → ObjectValue) :
    deserializeFixedChecked data size build = some (deserializeFixed data size build) := by
  unfold deserializeFixedChecked deserializeFixed
  split_ifs with h
  · rfl
  · rw [slice_zero (Nat.not_lt.mp h)]
    rfl

/-- The slice behind the first four octets. -/
theorem slice_four {data : List UInt8} {n : ℕ} (h : 4 + n ≤ data.length) :
    slice data 4 (4 + n) = some ((data.drop 4).take n) := by
  rw [slice_eq_some (Nat.le_add_right 4 n) h, Nat.add_sub_cancel_left]

/-- A value is read inside of the data. -/
theorem deserializeChecked_eq (data : List UInt8) (typeTemplate : ObjectValue) :
    deserializeChecked data typeTemplate = some (deserialize data typeTemplate) := by
  cases typeTemplate with
  | timeOfDay v =>
      unfold deserializeChecked deserialize
      dsimp only
      split_ifs with h
      · rfl
      · rw [slice_zero (by omega), slice_four (n := 2) (by omega)]
        rfl
  | timeDifference v =>
      unfold deserializeChecked deserialize
      dsimp only
      split_ifs with h
      · rfl
      · rw [slice_zero (by omega), slice_four (n := 2) (by omega)]
        rfl
  | netTime v =>
      unfold deserializeChecked deserialize
      dsimp only
      split_ifs with h
      · rfl
      · rw [slice_zero (by omega), slice_four (n := 4) (by omega)]
        rfl
  | macAddress v =>
      unfold deserializeChecked deserialize
      dsimp only
      split_ifs with h
      · split
        · simp only [List.length_cons] at h
          omega
        · rfl
      · obtain ⟨b₀, b₁, b₂, b₃, b₄, b₅, rest, rfl⟩ := exists_six (Nat.not_lt.mp h)
        rw [slice_zero (Nat.not_lt.mp h)]
        rfl
  | ipAddress v =>
      unfold deserializeChecked deserialize
      dsimp only
      split_ifs with h
      · split
        · simp only [List.length_cons] at h
          omega
        · rfl
      · obtain ⟨b₀, b₁, b₂, b₃, rest, rfl⟩ := exists_four (Nat.not_lt.mp h)
        rw [slice_zero (Nat.not_lt.mp h)]
        rfl
  | visibleString v => rfl
  | octetString v => rfl
  | domain v => rfl
  | unicodeString v => rfl
  | _ => exact deserializeFixedChecked_eq data _ _

end ObjectValue

namespace ObjectDictionary

variable {σ : Type}

/-- `ObjectDictionary::read` with its arithmetic checked. -/
def readChecked (od : ObjectDictionary σ) (index : UInt16) (subIndex : UInt8) :
    Option (Option ObjectValue) :=
  match od.entries.get? index with
  | none => some none
  | some entry => entry.object.readChecked subIndex

theorem readChecked_eq (od : ObjectDictionary σ) (index : UInt16) (subIndex : UInt8) :
    od.readChecked index subIndex = some (od.read index subIndex) := by
  unfold readChecked read
  cases od.entries.get? index with
  | none => rfl
  | some entry => exact entry.object.readChecked_eq subIndex

/-- `ObjectDictionary::read_u8` with its arithmetic checked. -/
def readU8Checked (od : ObjectDictionary σ) (index : UInt16) (subIndex : UInt8) :
    Option (Option UInt8) := do
  match ← od.readChecked index subIndex with
  | some (.unsigned8 v) => some (some v)
  | _ => some none

/-- `ObjectDictionary::read_u16` with its arithmetic checked. -/
def readU16Checked (od : ObjectDictionary σ) (index : UInt16) (subIndex : UInt8) :
    Option (Option UInt16) := do
  match ← od.readChecked index subIndex with
  | some (.unsigned16 v) => some (some v)
  | _ => some none

theorem readU8Checked_eq (od : ObjectDictionary σ) (index : UInt16) (subIndex : UInt8) :
    od.readU8Checked index subIndex = some (od.readU8 index subIndex) := by
  unfold readU8Checked readU8
  rw [readChecked_eq]
  cases od.read index subIndex with
  | none => rfl
  | some v => cases v <;> rfl

theorem readU16Checked_eq (od : ObjectDictionary σ) (index : UInt16) (subIndex : UInt8) :
    od.readU16Checked index subIndex = some (od.readU16 index subIndex) := by
  unfold readU16Checked readU16
  rw [readChecked_eq]
  cases od.read index subIndex with
  | none => rfl
  | some v => cases v <;> rfl

/-! ### Writes -/

/-- The loop of `validate_pdo_mapping` with its arithmetic checked. -/
def maxBitsRequiredChecked (entries : List ObjectValue) :
    ℕ → ℕ → ℕ → Option (Except PowerlinkError ℕ)
  | _, 0, acc => some (.ok acc)
  | i, n + 1, acc =>
      match entries[i]? with
      | some (.unsigned64 raw) => do
          let entry := PdoMappingEntry.fromU64 raw
          let endPosBits ← checkedBelow (2 ^ 32) (entry.offsetBits.toNat + entry.lengthBits.toNat)
          maxBitsRequiredChecked entries (i + 1) n (max acc endPosBits)
      | _ => some (.error (.validationError "Incomplete PDO mapping configuration: Missing entries"))

/-- The end of a mapping entry. -/
theorem endPosBits_le (entry : PdoMappingEntry) :
    entry.offsetBits.toNat + entry.lengthBits.toNat ≤ 131070 := by
  have hoffset : entry.offsetBits.toNat < 2 ^ 16 := entry.offsetBits.toNat_lt
  have hlength : entry.lengthBits.toNat < 2 ^ 16 := entry.lengthBits.toNat_lt
  omega

theorem maxBitsRequiredChecked_eq (entries : List ObjectValue) (i n acc : ℕ) :
    maxBitsRequiredChecked entries i n acc = some (maxBitsRequired entries i n acc) := by
  induction n generalizing i acc with
  | zero => rfl
  | succ n ih =>
      unfold maxBitsRequiredChecked maxBitsRequired
      rcases entries[i]? with _ | value
      · rfl
      · cases value with
        | unsigned64 raw =>
            have hend := endPosBits_le (.fromU64 raw)
            dsimp only
            rw [checkedBelow_eq_some (by omega)]
            exact ih _ _
        | _ => rfl

/-- The largest end of the mapping entries. -/
theorem maxBitsRequired_le {entries : List ObjectValue} {i n acc maxBits : ℕ}
    (h : maxBitsRequired entries i n acc = .ok maxBits) (hacc : acc ≤ 131070) :
    maxBits ≤ 131070 := by
  induction n generalizing i acc with
  | zero =>
      obtain rfl := Except.ok.inj h
      exact hacc
  | succ n ih =>
      rw [maxBitsRequired] at h
      split at h
      · rename_i raw _
        exact ih h (max_le hacc (endPosBits_le (.fromU64 raw)))
      · cases h

/-- `pdo_validator::validate_pdo_mapping` with its arithmetic checked. -/
def validatePdoMappingChecked (od : ObjectDictionary σ) (index : UInt16) (newNumEntries : UInt8) :
    Option (Except PowerlinkError Unit) :=
  if newNumEntries = 0 then some (.ok ())
  else
    let isTpdo := decide (0x1A00 ≤ index ∧ index ≤ 0x1AFF)
    let isRpdo := decide (0x1600 ≤ index ∧ index ≤ 0x16FF)
    if !isTpdo && !isRpdo then some (.ok ())
    else do
      let limit ← od.readU16Checked 0x1F98 (if isTpdo then 1 else 2)
      let payloadLimitBytes := (limit.getD 1490).toNat
      match od.readObject index with
      | some (.array entries) => do
          match ← maxBitsRequiredChecked entries 0 newNumEntries.toNat 0 with
          | .error e => some (.error e)
          | .ok maxBits => do
              let roundedBits ← checkedBelow (2 ^ 32) (maxBits + 7)
              some (if roundedBits / 8 > payloadLimitBytes then .error .pdoMapOverrun else .ok ())
      | _ => some (.error .objectNotFound)

theorem validatePdoMappingChecked_eq (od : ObjectDictionary σ) (index : UInt16)
    (newNumEntries : UInt8) :
    od.validatePdoMappingChecked index newNumEntries =
      some (od.validatePdoMapping index newNumEntries) := by
  have hbytes : (if decide (0x1A00 ≤ index ∧ index ≤ 0x1AFF) = true
      then ((od.readU16 0x1F98 1).getD 1490).toNat else ((od.readU16 0x1F98 2).getD 1490).toNat) =
        ((od.readU16 0x1F98 (if decide (0x1A00 ≤ index ∧ index ≤ 0x1AFF) = true then 1 else 2)).getD
          1490).toNat := by
    split_ifs
    · rfl
    · rfl
  unfold validatePdoMappingChecked validatePdoMapping
  dsimp only
  rw [readU16Checked_eq, hbytes]
  generalize od.readU16 0x1F98 (if decide (0x1A00 ≤ index ∧ index ≤ 0x1AFF) = true then 1 else 2) =
    limit
  split_ifs
  · rfl
  · rfl
  · cases hobject : od.readObject index with
    | none => rfl
    | some object =>
        cases object with
        | array entries =>
            dsimp only
            rw [maxBitsRequiredChecked_eq]
            cases hmax : maxBitsRequired entries 0 newNumEntries.toNat 0 with
            | error e => rfl
            | ok maxBits =>
                have hle := maxBitsRequired_le hmax (Nat.zero_le _)
                dsimp only [bind, Option.bind, Except.bind]
                rw [checkedBelow_eq_some (by omega)]
        | _ => rfl

/-- The element write shared by arrays and records, with its arithmetic checked. -/
def writeElementChecked (values : List ObjectValue) (index : UInt16) (subIndex : UInt8)
    (value : ObjectValue) : Option (Except PowerlinkError (List ObjectValue)) :=
  if subIndex = 0 then some (writeElement values index subIndex value)
  else do
    let _ ← elementChecked values subIndex
    some (writeElement values index subIndex value)

theorem writeElementChecked_eq (values : List ObjectValue) (index : UInt16) (subIndex : UInt8)
    (value : ObjectValue) :
    writeElementChecked values index subIndex value =
      some (writeElement values index subIndex value) := by
  unfold writeElementChecked
  split_ifs with h
  · rfl
  · rw [elementChecked_eq values h]
    rfl

/-- The effect of a write on the object of an entry, with its arithmetic checked. -/
def writeObjectChecked (index : UInt16) (subIndex : UInt8) (value : ObjectValue) :
    Object → Option (Except PowerlinkError Object)
  | .variable v => some (writeObject index subIndex value (.variable v))
  | .array values => do
      let values ← writeElementChecked values index subIndex value
      some (values.map .array)
  | .record values => do
      let values ← writeElementChecked values index subIndex value
      some (values.map .record)

theorem writeObjectChecked_eq (index : UInt16) (subIndex : UInt8) (value : ObjectValue)
    (object : Object) :
    writeObjectChecked index subIndex value object =
      some (writeObject index subIndex value object) := by
  rcases object with v | values | values
  · rfl
  · rw [writeObjectChecked, writeElementChecked_eq]
    rfl
  · rw [writeObjectChecked, writeElementChecked_eq]
    rfl

/-- `ObjectDictionary::write_internal` with its arithmetic checked. -/
def writeInternalChecked (od : ObjectDictionary σ) (index : UInt16) (subIndex : UInt8)
    (value : ObjectValue) (checkAccess : Bool) :
    Option (Except PowerlinkError Unit × ObjectDictionary σ) :=
  match od.entries.get? index with
  | none => some (.error .objectNotFound, od)
  | some entry =>
      if checkAccess && isReadOnly entry.access then
        some (.error (.storageError "Object is read-only"), od)
      else do
        match ← writeObjectChecked index subIndex value entry.object with
        | .error e => some (.error e, od)
        | .ok object =>
            some (.ok (), { od with
              entries := od.entries.modify index (fun e => { e with object := object }) })

theorem writeInternalChecked_eq (od : ObjectDictionary σ) (index : UInt16) (subIndex : UInt8)
    (value : ObjectValue) (checkAccess : Bool) :
    od.writeInternalChecked index subIndex value checkAccess =
      some (od.writeInternal index subIndex value checkAccess) := by
  unfold writeInternalChecked writeInternal
  cases od.entries.get? index with
  | none => rfl
  | some entry =>
      dsimp only
      split_ifs
      · rfl
      · rw [writeObjectChecked_eq]
        cases writeObject index subIndex value entry.object with
        | error e => rfl
        | ok object => rfl

/-- `ObjectDictionary::write` with its arithmetic checked. -/
def writeChecked [ObjectDictionaryStorage σ] (od : ObjectDictionary σ) (index : UInt16)
    (subIndex : UInt8) (value : ObjectValue) :
    Option (Except PowerlinkError Unit × ObjectDictionary σ) :=
  if index = 0x1010 ∨ index = 0x1011 then some (od.write index subIndex value)
  else if isPdoMappingIndex0 index subIndex then
    match value with
    | .unsigned8 newNumEntries => do
        match ← od.validatePdoMappingChecked index newNumEntries with
        | .error e => some (.error e, od)
        | .ok () => od.writeInternalChecked index subIndex value true
    | _ => some (.error .typeMismatch, od)
  else od.writeInternalChecked index subIndex value true

/-- A write does not panic. -/
theorem writeChecked_eq [ObjectDictionaryStorage σ] (od : ObjectDictionary σ) (index : UInt16)
    (subIndex : UInt8) (value : ObjectValue) :
    od.writeChecked index subIndex value = some (od.write index subIndex value) := by
  unfold writeChecked
  by_cases hcommand : index = 0x1010 ∨ index = 0x1011
  · rw [if_pos hcommand]
  · rw [if_neg hcommand]
    obtain ⟨hstore, hrestore⟩ := not_or.mp hcommand
    unfold write
    rw [if_neg hstore, if_neg hrestore]
    split_ifs
    · cases value with
      | unsigned8 newNumEntries =>
          dsimp only
          rw [validatePdoMappingChecked_eq]
          cases od.validatePdoMapping index newNumEntries with
          | error e => rfl
          | ok _ => exact od.writeInternalChecked_eq index subIndex _ true
      | _ => rfl
    · exact od.writeInternalChecked_eq index subIndex value true

end ObjectDictionary

end Powerlink
