import Powerlink.Lib.SortedMap
import Powerlink.Lib.LittleEndian

/-! # Basic types of the stack

The error type of the stack (`hal.rs`), the node and address types (`types.rs`,
`frame/basic.rs`), the compound time types (`common.rs`) and the PDO mapping entry
(`pdo/mapping.rs`).  Fixed-width integers are Lean's own machine words; sizes and times,
which the code keeps in `usize` and `u64`, are natural numbers. -/

namespace Powerlink

/-- `PowerlinkError`. -/
inductive PowerlinkError where
  | bufferTooShort
  | ioError
  | invalidEthernetFrame
  | invalidPlFrame
  | invalidMessageType (value : UInt8)
  | invalidNmtState (value : UInt8)
  | invalidServiceId (value : UInt8)
  | invalidRequestedServiceId (value : UInt8)
  | invalidNodeId (value : UInt8)
  | invalidPayloadSize (value : UInt16)
  | invalidEnumValue
  | sliceConversion
  | frameTooLarge
  | notReady
  | objectNotFound
  | subObjectNotFound
  | typeMismatch
  | storageError (message : String)
  | validationError (message : String)
  | sdoSequenceError (message : String)
  | sdoAborted (code : UInt32)
  | sdoInvalidCommandPayload
  | pdoMapOverrun
  | internalError (message : String)
deriving DecidableEq, Repr

/-- A sequence of two fallible steps succeeds when both do. -/
theorem bind_eq_ok_iff {ε α β : Type} {x : Except ε α} {f : α → Except ε β} {b : β} :
    (x >>= f) = .ok b ↔ ∃ a, x = .ok a ∧ f a = .ok b := by
  cases x with
  | error e =>
      constructor
      · intro h
        cases h
      · rintro ⟨a, ha, -⟩
        cases ha
  | ok a =>
      constructor
      · exact fun h => ⟨a, rfl, h⟩
      · rintro ⟨a', ha, h⟩
        rwa [← Except.ok.inj ha] at h

theorem eq_ok_of_toOption {ε α : Type} {x : Except ε α} {a : α} (h : x.toOption = some a) :
    x = .ok a := by
  cases x with
  | error e => cases h
  | ok b => exact congrArg Except.ok (Option.some.inj h)

/-- `NodeId`, a newtype of `u8`. -/
structure NodeId where
  id : UInt8
deriving DecidableEq, Repr

instance : Ranked NodeId where
  rank n := n.id.toNat
  rank_injective := by
    rintro ⟨a⟩ ⟨b⟩ h
    exact congrArg NodeId.mk (UInt8.toNat_inj.mp h)

instance : Ranked UInt16 where
  rank := UInt16.toNat
  rank_injective := fun _ _ => UInt16.toNat_inj.mp

/-- Index and sub-index, in the order of the pair. -/
instance : Ranked (UInt16 × UInt8) where
  rank k := k.1.toNat * 256 + k.2.toNat
  rank_injective := by
    rintro ⟨i, s⟩ ⟨j, t⟩ h
    have hs := s.toNat_lt
    have ht := t.toNat_lt
    simp only at h
    have h1 : i.toNat = j.toNat := by omega
    have h2 : s.toNat = t.toNat := by omega
    rw [UInt16.toNat_inj.mp h1, UInt8.toNat_inj.mp h2]

/-- `MacAddress`, six octets. -/
structure MacAddress where
  (b₀ b₁ b₂ b₃ b₄ b₅ : UInt8)
deriving DecidableEq, Repr

/-- The octets of a MAC address. -/
def MacAddress.bytes (m : MacAddress) : List UInt8 := [m.b₀, m.b₁, m.b₂, m.b₃, m.b₄, m.b₅]

/-- `IpAddress`, four octets. -/
structure IpAddress where
  (b₀ b₁ b₂ b₃ : UInt8)
deriving DecidableEq, Repr

/-- The octets of an IP address. -/
def IpAddress.bytes (a : IpAddress) : List UInt8 := [a.b₀, a.b₁, a.b₂, a.b₃]

/-- `NetTime`. -/
structure NetTime where
  seconds : UInt32
  nanoseconds : UInt32
deriving DecidableEq, Repr

/-- `TimeOfDay`. -/
structure TimeOfDay where
  ms : UInt32
  days : UInt16
deriving DecidableEq, Repr

/-- `TimeDifference`. -/
structure TimeDifference where
  ms : UInt32
  days : UInt16
deriving DecidableEq, Repr

/-- `PdoMappingEntry`: one entry of a PDO mapping, parsed from a 64-bit value. -/
structure PdoMappingEntry where
  index : UInt16
  subIndex : UInt8
  offsetBits : UInt16
  lengthBits : UInt16
deriving DecidableEq, Repr

/-- `PdoMappingEntry::from_u64`. -/
def PdoMappingEntry.fromU64 (value : UInt64) : PdoMappingEntry where
  index := (value &&& 0xFFFF).toUInt16
  subIndex := ((value >>> 16) &&& 0xFF).toUInt8
  offsetBits := ((value >>> 32) &&& 0xFFFF).toUInt16
  lengthBits := ((value >>> 48) &&& 0xFFFF).toUInt16

end Powerlink
