import Powerlink.Lib.Slices
import Powerlink.Od.Value

/-! # The encoding of object values

Every value is read back from its serialization (`deserialize_serialize_of_discriminant`).  In the
other direction a type with a fixed number of octets, `encodedSize`, accepts every byte string that
is long enough and keeps what stands in its first octets (`deserialize_of_encodedSize`), while the
strings, which have no such number, keep everything (`serialize_of_deserialize`). -/

namespace Powerlink

open LittleEndian Slices

namespace ObjectValue

/-! ### Values of fixed size -/

/-- The types whose values all have the same number of octets. -/
def fixedSize : ObjectValue → Bool
  | visibleString _ | octetString _ | unicodeString _ | domain _ => false
  | _ => true

/-- Only the type of a template counts. -/
theorem deserialize_congr {template template' : ObjectValue}
    (h : template.discriminant = template'.discriminant) (data : List UInt8) :
    deserialize data template = deserialize data template' := by
  cases template <;> cases template' <;> first | rfl | cases h

theorem deserializeFixed_self {data : List UInt8} {size : ℕ} (h : data.length = size)
    (build : List UInt8 → ObjectValue) : deserializeFixed data size build = .ok (build data) := by
  unfold deserializeFixed
  rw [if_neg (by omega), List.take_of_length_le (by omega)]

theorem ofNat_ofLeBytes_singleton (v : UInt8) : UInt8.ofNat (ofLeBytes [v]) = v := by
  simp [ofLeBytes]

/-- A value of fixed size is read back. -/
theorem deserialize_serialize {v template : ObjectValue} (hfixed : v.fixedSize = true)
    (htype : template.discriminant = v.discriminant) :
    deserialize v.serialize template = .ok v := by
  rw [deserialize_congr htype]
  have hoctet (x : UInt8) : ([x] : List UInt8).length = 1 := rfl
  have htake₂ (x : UInt16) : (u16Bytes x).take 2 = u16Bytes x :=
    List.take_of_length_le (length_u16Bytes x).le
  have htake₄ (x : UInt32) : (u32Bytes x).take 4 = u32Bytes x :=
    List.take_of_length_le (length_u32Bytes x).le
  cases v with
  | boolean v =>
      rw [serialize, deserialize, deserializeFixed_self (hoctet v), ofNat_ofLeBytes_singleton]
  | unsigned8 v =>
      rw [serialize, deserialize, deserializeFixed_self (hoctet v), ofNat_ofLeBytes_singleton]
  | integer8 v =>
      rw [serialize, deserialize, deserializeFixed_self (hoctet _), ofNat_ofLeBytes_singleton,
        Int8.toInt8_toUInt8]
  | integer16 v =>
      rw [serialize, deserialize, deserializeFixed_self (length_u16Bytes _), u16OfBytes_u16Bytes,
        Int16.toInt16_toUInt16]
  | integer32 v =>
      rw [serialize, deserialize, deserializeFixed_self (length_u32Bytes _), u32OfBytes_u32Bytes,
        Int32.toInt32_toUInt32]
  | integer64 v =>
      rw [serialize, deserialize, deserializeFixed_self (length_u64Bytes _), u64OfBytes_u64Bytes,
        Int64.toInt64_toUInt64]
  | unsigned16 v =>
      rw [serialize, deserialize, deserializeFixed_self (length_u16Bytes _), u16OfBytes_u16Bytes]
  | unsigned32 v =>
      rw [serialize, deserialize, deserializeFixed_self (length_u32Bytes _), u32OfBytes_u32Bytes]
  | unsigned64 v =>
      rw [serialize, deserialize, deserializeFixed_self (length_u64Bytes _), u64OfBytes_u64Bytes]
  | real32 bits =>
      rw [serialize, deserialize, deserializeFixed_self (length_u32Bytes _), u32OfBytes_u32Bytes]
  | real64 bits =>
      rw [serialize, deserialize, deserializeFixed_self (length_u64Bytes _), u64OfBytes_u64Bytes]
  | timeOfDay v => simp [serialize, deserialize, htake₂]
  | timeDifference v => simp [serialize, deserialize, htake₂]
  | netTime v => simp [serialize, deserialize, htake₄]
  | macAddress v => rfl
  | ipAddress v => rfl
  | visibleString v => cases hfixed
  | octetString v => cases hfixed
  | unicodeString v => cases hfixed
  | domain v => cases hfixed

/-- The number of octets of a value, for the types that fix it. -/
def encodedSize : ObjectValue → Option ℕ
  | boolean _ | integer8 _ | unsigned8 _ => some 1
  | integer16 _ | unsigned16 _ => some 2
  | integer32 _ | unsigned32 _ | real32 _ | ipAddress _ => some 4
  | timeOfDay _ | timeDifference _ | macAddress _ => some 6
  | integer64 _ | unsigned64 _ | real64 _ | netTime _ => some 8
  | visibleString _ | octetString _ | unicodeString _ | domain _ => none

theorem deserializeFixed_of_short {data : List UInt8} {size : ℕ} (h : data.length < size)
    (build : List UInt8 → ObjectValue) :
    deserializeFixed data size build = .error .bufferTooShort := if_pos h

theorem deserializeFixed_of_le {data : List UInt8} {size : ℕ} (h : size ≤ data.length)
    (build : List UInt8 → ObjectValue) :
    deserializeFixed data size build = .ok (build (data.take size)) := if_neg (Nat.not_lt.mpr h)

theorem singleton_ofNat_ofLeBytes {bs : List UInt8} (h : bs.length = 1) :
    [UInt8.ofNat (ofLeBytes bs)] = bs := by
  obtain ⟨b, rfl⟩ := List.length_eq_one_iff.mp h
  rw [ofNat_ofLeBytes_singleton]

/-- Six octets are a word of four and a word of two. -/
theorem bytes_of_parts {data : List UInt8} (h : 6 ≤ data.length) :
    u32Bytes (u32OfBytes (data.take 4)) ++ u16Bytes (u16OfBytes ((data.drop 4).take 2)) =
      data.take 6 := by
  rw [u32Bytes_u32OfBytes (by rw [List.length_take]; omega),
    u16Bytes_u16OfBytes (by rw [List.length_take, List.length_drop]; omega), ← List.take_add]

/-- A byte string that is too short is refused. -/
theorem deserialize_of_short {template : ObjectValue} {n : ℕ} {data : List UInt8}
    (hsize : template.encodedSize = some n) (h : data.length < n) :
    deserialize data template = .error .bufferTooShort := by
  cases template with
  | visibleString v => cases hsize
  | octetString v => cases hsize
  | unicodeString v => cases hsize
  | domain v => cases hsize
  | timeOfDay v =>
      obtain rfl := Option.some.inj hsize
      exact if_pos h
  | timeDifference v =>
      obtain rfl := Option.some.inj hsize
      exact if_pos h
  | netTime v =>
      obtain rfl := Option.some.inj hsize
      exact if_pos h
  | macAddress v =>
      obtain rfl := Option.some.inj hsize
      rw [deserialize]
      intro b₀ b₁ b₂ b₃ b₄ b₅ rest hdata
      simp only [hdata, List.length_cons] at h
      omega
  | ipAddress v =>
      obtain rfl := Option.some.inj hsize
      rw [deserialize]
      intro b₀ b₁ b₂ b₃ rest hdata
      simp only [hdata, List.length_cons] at h
      omega
  | _ =>
      obtain rfl := Option.some.inj hsize
      rw [deserialize]
      exact deserializeFixed_of_short h _

/-- The octets that a type of fixed size reads are the encoding of what it makes of them. -/
theorem deserialize_of_encodedSize {template : ObjectValue} {n : ℕ} {data : List UInt8}
    (hsize : template.encodedSize = some n) (h : n ≤ data.length) :
    ∃ v, deserialize data template = .ok v ∧ v.discriminant = template.discriminant ∧
      v.serialize = data.take n := by
  have htake : (data.take n).length = n := List.length_take_of_le h
  cases template with
  | visibleString v => cases hsize
  | octetString v => cases hsize
  | unicodeString v => cases hsize
  | domain v => cases hsize
  | boolean v =>
      obtain rfl := Option.some.inj hsize
      rw [deserialize, deserializeFixed_of_le h]
      exact ⟨_, rfl, rfl, singleton_ofNat_ofLeBytes htake⟩
  | unsigned8 v =>
      obtain rfl := Option.some.inj hsize
      rw [deserialize, deserializeFixed_of_le h]
      exact ⟨_, rfl, rfl, singleton_ofNat_ofLeBytes htake⟩
  | integer8 v =>
      obtain rfl := Option.some.inj hsize
      rw [deserialize, deserializeFixed_of_le h]
      refine ⟨_, rfl, rfl, ?_⟩
      rw [serialize, UInt8.toUInt8_toInt8, singleton_ofNat_ofLeBytes htake]
  | integer16 v =>
      obtain rfl := Option.some.inj hsize
      rw [deserialize, deserializeFixed_of_le h]
      refine ⟨_, rfl, rfl, ?_⟩
      rw [serialize, UInt16.toUInt16_toInt16, u16Bytes_u16OfBytes htake]
  | integer32 v =>
      obtain rfl := Option.some.inj hsize
      rw [deserialize, deserializeFixed_of_le h]
      refine ⟨_, rfl, rfl, ?_⟩
      rw [serialize, UInt32.toUInt32_toInt32, u32Bytes_u32OfBytes htake]
  | integer64 v =>
      obtain rfl := Option.some.inj hsize
      rw [deserialize, deserializeFixed_of_le h]
      refine ⟨_, rfl, rfl, ?_⟩
      rw [serialize, UInt64.toUInt64_toInt64, u64Bytes_u64OfBytes htake]
  | unsigned16 v =>
      obtain rfl := Option.some.inj hsize
      rw [deserialize, deserializeFixed_of_le h]
      exact ⟨_, rfl, rfl, u16Bytes_u16OfBytes htake⟩
  | unsigned32 v =>
      obtain rfl := Option.some.inj hsize
      rw [deserialize, deserializeFixed_of_le h]
      exact ⟨_, rfl, rfl, u32Bytes_u32OfBytes htake⟩
  | unsigned64 v =>
      obtain rfl := Option.some.inj hsize
      rw [deserialize, deserializeFixed_of_le h]
      exact ⟨_, rfl, rfl, u64Bytes_u64OfBytes htake⟩
  | real32 bits =>
      obtain rfl := Option.some.inj hsize
      rw [deserialize, deserializeFixed_of_le h]
      exact ⟨_, rfl, rfl, u32Bytes_u32OfBytes htake⟩
  | real64 bits =>
      obtain rfl := Option.some.inj hsize
      rw [deserialize, deserializeFixed_of_le h]
      exact ⟨_, rfl, rfl, u64Bytes_u64OfBytes htake⟩
  | timeOfDay v =>
      obtain rfl := Option.some.inj hsize
      exact ⟨_, if_neg (Nat.not_lt.mpr h), rfl, bytes_of_parts h⟩
  | timeDifference v =>
      obtain rfl := Option.some.inj hsize
      exact ⟨_, if_neg (Nat.not_lt.mpr h), rfl, bytes_of_parts h⟩
  | netTime v =>
      obtain rfl := Option.some.inj hsize
      refine ⟨_, if_neg (Nat.not_lt.mpr h), rfl, ?_⟩
      rw [serialize, u32Bytes_u32OfBytes (by rw [List.length_take]; omega),
        u32Bytes_u32OfBytes (by rw [List.length_take, List.length_drop]; omega),
        ← List.take_add]
  | macAddress v =>
      obtain rfl := Option.some.inj hsize
      obtain ⟨b₀, b₁, b₂, b₃, b₄, b₅, rest, rfl⟩ := exists_six h
      exact ⟨_, rfl, rfl, rfl⟩
  | ipAddress v =>
      obtain rfl := Option.some.inj hsize
      obtain ⟨b₀, b₁, b₂, b₃, rest, rfl⟩ := exists_four h
      exact ⟨_, rfl, rfl, rfl⟩

/-! ### The strings -/

/-- A string is read from the octets it has. -/
theorem fromUtf8_toByteArray (s : String) : fromUtf8 s.toByteArray.data.toList = some s := by
  unfold fromUtf8 String.fromUTF8?
  rw [dif_pos (show ByteArray.IsValidUTF8 ⟨s.toByteArray.data.toList.toArray⟩ by
    simpa using s.isValidUTF8)]
  simp [String.fromUTF8]

/-- A string that was read has the octets it was read from. -/
theorem toByteArray_of_fromUtf8 {data : List UInt8} {s : String} (h : fromUtf8 data = some s) :
    s.toByteArray.data.toList = data := by
  unfold fromUtf8 String.fromUTF8? at h
  split_ifs at h with hvalid
  rw [← Option.some.inj h]
  rfl

theorem u16Chunks_flatMap (words : List UInt16) : u16Chunks (words.flatMap u16Bytes) = words := by
  induction words with
  | nil => rfl
  | cons w words ih =>
      obtain ⟨a, b, hab⟩ : ∃ a b, u16Bytes w = [a, b] := ⟨_, _, rfl⟩
      rw [List.flatMap_cons, hab, List.cons_append, List.cons_append, List.nil_append, u16Chunks,
        ← hab, u16OfBytes_u16Bytes, ih]

theorem flatMap_u16Chunks (data : List UInt8) (h : data.length % 2 = 0) :
    (u16Chunks data).flatMap u16Bytes = data := by
  fun_induction u16Chunks data with
  | case1 a b rest ih =>
      simp only [List.length_cons] at h
      rw [List.flatMap_cons, u16Bytes_u16OfBytes rfl, ih (by omega)]
      rfl
  | case2 data hshort =>
      rcases data with _ | ⟨a, _ | ⟨b, rest⟩⟩
      · rfl
      · cases h
      · exact absurd rfl (hshort a b rest)

/-! ### Both directions -/

/-- A value is read back from its encoding. -/
theorem deserialize_serialize_of_discriminant {v template : ObjectValue}
    (h : v.discriminant = template.discriminant) : deserialize v.serialize template = .ok v := by
  cases hfixed : v.fixedSize with
  | true => exact deserialize_serialize hfixed h.symm
  | false =>
      rw [deserialize_congr h.symm]
      cases v with
      | visibleString s => rw [serialize, deserialize, fromUtf8_toByteArray]
      | octetString v => rfl
      | domain v => rfl
      | unicodeString words =>
          have heven : (words.flatMap u16Bytes).length % 2 = 0 := by
            simp [List.length_flatMap]
          rw [serialize, deserialize, if_neg (not_not.mpr heven), u16Chunks_flatMap]
      | _ => cases hfixed

/-- The octets after the last one that a type of fixed size reads are dropped. -/
theorem deserialize_take {template : ObjectValue} {n : ℕ} {data : List UInt8}
    (hsize : template.encodedSize = some n) (h : n ≤ data.length) :
    deserialize data template = deserialize (data.take n) template := by
  obtain ⟨v, hv, htype, hoctets⟩ := deserialize_of_encodedSize hsize h
  rw [hv, ← hoctets, deserialize_serialize_of_discriminant htype]

/-- A type without a fixed size keeps every octet it accepts. -/
theorem serialize_of_deserialize {template v : ObjectValue} {data : List UInt8}
    (hsize : template.encodedSize = none) (h : deserialize data template = .ok v) :
    v.discriminant = template.discriminant ∧ v.serialize = data := by
  cases template with
  | visibleString s =>
      rw [deserialize] at h
      split at h
      · rename_i s' hs
        rw [← Except.ok.inj h]
        exact ⟨rfl, toByteArray_of_fromUtf8 hs⟩
      · cases h
  | octetString s =>
      rw [← Except.ok.inj h]
      exact ⟨rfl, rfl⟩
  | domain s =>
      rw [← Except.ok.inj h]
      exact ⟨rfl, rfl⟩
  | unicodeString s =>
      rw [deserialize] at h
      split_ifs at h with heven
      rw [← Except.ok.inj h]
      exact ⟨rfl, flatMap_u16Chunks data (not_not.mp heven)⟩
  | _ => cases hsize

/-- A value has the type that it was read as. -/
theorem discriminant_of_deserialize {template v : ObjectValue} {data : List UInt8}
    (h : deserialize data template = .ok v) : v.discriminant = template.discriminant := by
  cases hsize : template.encodedSize with
  | none => exact (serialize_of_deserialize hsize h).1
  | some n =>
      rcases Nat.lt_or_ge data.length n with hshort | hlong
      · rw [deserialize_of_short hsize hshort] at h
        cases h
      · obtain ⟨w, hw, htype, -⟩ := deserialize_of_encodedSize hsize hlong
        rw [hw] at h
        rw [← Except.ok.inj h, htype]

/-- Octets are too few for a type of fixed size only. -/
theorem deserialize_bufferTooShort_iff (template : ObjectValue) (data : List UInt8) :
    deserialize data template = .error .bufferTooShort ↔
      ∃ n, template.encodedSize = some n ∧ data.length < n := by
  constructor
  · intro h
    cases hsize : template.encodedSize with
    | none =>
        exfalso
        cases template with
        | visibleString s =>
            rw [deserialize] at h
            split at h <;> cases h
        | octetString s => cases h
        | domain s => cases h
        | unicodeString s =>
            rw [deserialize] at h
            split_ifs at h
            cases h
        | _ => cases hsize
    | some n =>
        refine ⟨n, rfl, ?_⟩
        by_contra hlong
        obtain ⟨v, hv, -⟩ := deserialize_of_encodedSize hsize (Nat.not_lt.mp hlong)
        rw [hv] at h
        cases h
  · rintro ⟨n, hsize, hshort⟩
    exact deserialize_of_short hsize hshort

/-- Octets determine the value, and are determined by it, unless they are too many. -/
theorem serialize_of_deserialize_iff (template : ObjectValue) (data : List UInt8) :
    (∀ v, deserialize data template = .ok v →
      v.discriminant = template.discriminant ∧ v.serialize = data) ↔
      ∀ n, template.encodedSize = some n → data.length ≤ n := by
  constructor
  · intro h n hsize
    by_contra hlong
    obtain ⟨v, hv, -, hoctets⟩ := deserialize_of_encodedSize hsize (by omega : n ≤ data.length)
    have hlength := congrArg List.length ((h v hv).2.symm.trans hoctets)
    rw [List.length_take] at hlength
    omega
  · intro h v hv
    refine ⟨discriminant_of_deserialize hv, ?_⟩
    cases hsize : template.encodedSize with
    | none => exact (serialize_of_deserialize hsize hv).2
    | some n =>
        rcases Nat.lt_or_ge data.length n with hshort | hlong
        · rw [deserialize_of_short hsize hshort] at hv
          cases hv
        · obtain ⟨w, hw, -, hoctets⟩ := deserialize_of_encodedSize hsize hlong
          rw [hw] at hv
          rw [← Except.ok.inj hv, hoctets, List.take_of_length_le (h n hsize)]

end ObjectValue

end Powerlink
