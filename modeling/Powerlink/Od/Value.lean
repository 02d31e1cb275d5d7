import Powerlink.Types

/-! # Object values

`ObjectValue` (`od/value.rs`) with its little-endian serialization.  Reals are kept as their
bit patterns.  `deserialize` reads a byte string against a template value that fixes the type;
for the fixed-size types it only checks that enough bytes are there and ignores the rest. -/

namespace Powerlink

open LittleEndian

/-- `ObjectValue`: any value an object dictionary entry can hold. -/
inductive ObjectValue where
  | boolean (v : UInt8)
  | integer8 (v : Int8)
  | integer16 (v : Int16)
  | integer32 (v : Int32)
  | integer64 (v : Int64)
  | unsigned8 (v : UInt8)
  | unsigned16 (v : UInt16)
  | unsigned32 (v : UInt32)
  | unsigned64 (v : UInt64)
  | real32 (bits : UInt32)
  | real64 (bits : UInt64)
  | visibleString (v : String)
  | octetString (v : List UInt8)
  | unicodeString (v : List UInt16)
  | domain (v : List UInt8)
  | timeOfDay (v : TimeOfDay)
  | timeDifference (v : TimeDifference)
  | netTime (v : NetTime)
  | macAddress (v : MacAddress)
  | ipAddress (v : IpAddress)
deriving DecidableEq, Repr

namespace ObjectValue

/-- `core::mem::discriminant`: the variant of a value. -/
def discriminant (v : ObjectValue) : ℕ := v.ctorIdx

/-- `ObjectValue::serialize`. -/
def serialize : ObjectValue → List UInt8
  | boolean v => [v]
  | integer8 v => [v.toUInt8]
  | integer16 v => u16Bytes v.toUInt16
  | integer32 v => u32Bytes v.toUInt32
  | integer64 v => u64Bytes v.toUInt64
  | unsigned8 v => [v]
  | unsigned16 v => u16Bytes v
  | unsigned32 v => u32Bytes v
  | unsigned64 v => u64Bytes v
  | real32 bits => u32Bytes bits
  | real64 bits => u64Bytes bits
  | visibleString v => v.toByteArray.data.toList
  | octetString v => v
  | domain v => v
  | timeOfDay v => u32Bytes v.ms ++ u16Bytes v.days
  | timeDifference v => u32Bytes v.ms ++ u16Bytes v.days
  | netTime v => u32Bytes v.seconds ++ u32Bytes v.nanoseconds
  | macAddress v => v.bytes
  | ipAddress v => v.bytes
  | unicodeString v => v.flatMap u16Bytes

/-- `String::from_utf8`. -/
def fromUtf8 (data : List UInt8) : Option String := String.fromUTF8? ⟨data.toArray⟩

/-- `chunks_exact(2)` read as little-endian words. -/
def u16Chunks : List UInt8 → List UInt16
  | a :: b :: rest => u16OfBytes [a, b] :: u16Chunks rest
  | _ => []

/-- The macro `deserialize_fixed!`: at least `size` bytes, of which the first `size` count. -/
def deserializeFixed (data : List UInt8) (size : ℕ) (build : List UInt8 → ObjectValue) :
    Except PowerlinkError ObjectValue :=
  if data.length < size then .error .bufferTooShort else .ok (build (data.take size))

/-- `ObjectValue::deserialize`. -/
def deserialize (data : List UInt8) (typeTemplate : ObjectValue) :
    Except PowerlinkError ObjectValue :=
  match typeTemplate with
  | boolean _ => deserializeFixed data 1 (fun bs => boolean (UInt8.ofNat (ofLeBytes bs)))
  | integer8 _ =>
      deserializeFixed data 1 (fun bs => integer8 (UInt8.ofNat (ofLeBytes bs)).toInt8)
  | integer16 _ => deserializeFixed data 2 (fun bs => integer16 (u16OfBytes bs).toInt16)
  | integer32 _ => deserializeFixed data 4 (fun bs => integer32 (u32OfBytes bs).toInt32)
  | integer64 _ => deserializeFixed data 8 (fun bs => integer64 (u64OfBytes bs).toInt64)
  | unsigned8 _ => deserializeFixed data 1 (fun bs => unsigned8 (UInt8.ofNat (ofLeBytes bs)))
  | unsigned16 _ => deserializeFixed data 2 (fun bs => unsigned16 (u16OfBytes bs))
  | unsigned32 _ => deserializeFixed data 4 (fun bs => unsigned32 (u32OfBytes bs))
  | unsigned64 _ => deserializeFixed data 8 (fun bs => unsigned64 (u64OfBytes bs))
  | real32 _ => deserializeFixed data 4 (fun bs => real32 (u32OfBytes bs))
  | real64 _ => deserializeFixed data 8 (fun bs => real64 (u64OfBytes bs))
  | visibleString _ =>
      match fromUtf8 data with
      | some s => .ok (visibleString s)
      | none => .error .typeMismatch
  | octetString _ => .ok (octetString data)
  | domain _ => .ok (domain data)
  | timeOfDay _ =>
      if data.length < 6 then .error .bufferTooShort
      else .ok (timeOfDay ⟨u32OfBytes (data.take 4), u16OfBytes ((data.drop 4).take 2)⟩)
  | timeDifference _ =>
      if data.length < 6 then .error .bufferTooShort
      else .ok (timeDifference ⟨u32OfBytes (data.take 4), u16OfBytes ((data.drop 4).take 2)⟩)
  | netTime _ =>
      if data.length < 8 then .error .bufferTooShort
      else .ok (netTime ⟨u32OfBytes (data.take 4), u32OfBytes ((data.drop 4).take 4)⟩)
  | macAddress _ =>
      match data with
      | b₀ :: b₁ :: b₂ :: b₃ :: b₄ :: b₅ :: _ => .ok (macAddress ⟨b₀, b₁, b₂, b₃, b₄, b₅⟩)
      | _ => .error .bufferTooShort
  | ipAddress _ =>
      match data with
      | b₀ :: b₁ :: b₂ :: b₃ :: _ => .ok (ipAddress ⟨b₀, b₁, b₂, b₃⟩)
      | _ => .error .bufferTooShort
  | unicodeString _ =>
      if data.length % 2 ≠ 0 then .error .typeMismatch
      else .ok (unicodeString (u16Chunks data))

end ObjectValue

end Powerlink
