import Powerlink.Types

/-! # The SDO sequence layer header

The four-octet header of `sdo/sequence.rs`: a receive half (`rsnr`, `rcon`) and a send half
(`ssnr`, `scon`), each a six-bit sequence number above a two-bit connection state, followed by
two reserved octets.  Two-bit states always decode, so a header decodes exactly when four
octets are there (`deserialize_total`). -/

namespace Powerlink

/-- `ReceiveConnState`, the field `rcon`. -/
inductive ReceiveConnState where
  | noConnection
  | initialization
  | connectionValid
  | errorResponse
deriving DecidableEq, Repr

/-- `SendConnState`, the field `scon`. -/
inductive SendConnState where
  | noConnection
  | initialization
  | connectionValid
  | connectionValidAckRequest
deriving DecidableEq, Repr

/-- `ReceiveConnState as u8`. -/
def ReceiveConnState.toByte : ReceiveConnState → UInt8
  | noConnection => 0
  | initialization => 1
  | connectionValid => 2
  | errorResponse => 3

/-- `ReceiveConnState::try_from`. -/
def ReceiveConnState.tryFrom (value : UInt8) : Except PowerlinkError ReceiveConnState :=
  if value = 0 then .ok noConnection
  else if value = 1 then .ok initialization
  else if value = 2 then .ok connectionValid
  else if value = 3 then .ok errorResponse
  else .error .invalidEnumValue

/-- `SendConnState as u8`. -/
def SendConnState.toByte : SendConnState → UInt8
  | noConnection => 0
  | initialization => 1
  | connectionValid => 2
  | connectionValidAckRequest => 3

/-- `SendConnState::try_from`. -/
def SendConnState.tryFrom (value : UInt8) : Except PowerlinkError SendConnState :=
  if value = 0 then .ok noConnection
  else if value = 1 then .ok initialization
  else if value = 2 then .ok connectionValid
  else if value = 3 then .ok connectionValidAckRequest
  else .error .invalidEnumValue

/-- `SequenceLayerHeader`. -/
structure SequenceLayerHeader where
  receiveSequenceNumber : UInt8
  receiveCon : ReceiveConnState
  sendSequenceNumber : UInt8
  sendCon : SendConnState
deriving DecidableEq, Repr

namespace SequenceLayerHeader

/-- `SequenceLayerHeader::default`. -/
def default : SequenceLayerHeader where
  receiveSequenceNumber := 0
  receiveCon := .noConnection
  sendSequenceNumber := 0
  sendCon := .noConnection

/-- The four octets written by `SequenceLayerHeader::serialize`. -/
def bytes (h : SequenceLayerHeader) : List UInt8 :=
  [(h.receiveSequenceNumber <<< 2) ||| h.receiveCon.toByte,
    (h.sendSequenceNumber <<< 2) ||| h.sendCon.toByte, 0, 0]

/-- `SequenceLayerHeader::serialize`: the updated buffer and the number of octets written. -/
def serialize (h : SequenceLayerHeader) (buffer : List UInt8) :
    Except PowerlinkError (List UInt8 × ℕ) :=
  if buffer.length < 4 then .error .bufferTooShort else .ok (h.bytes ++ buffer.drop 4, 4)

/-- `SequenceLayerHeader::deserialize`. -/
def deserialize (buffer : List UInt8) : Except PowerlinkError SequenceLayerHeader :=
  match buffer with
  | octet₀ :: octet₁ :: _ :: _ :: _ => do
      let receiveCon ← ReceiveConnState.tryFrom (octet₀ &&& 3)
      let sendCon ← SendConnState.tryFrom (octet₁ &&& 3)
      .ok { receiveCon := receiveCon
            receiveSequenceNumber := (octet₀ >>> 2) &&& 0x3F
            sendCon := sendCon
            sendSequenceNumber := (octet₁ >>> 2) &&& 0x3F }
  | _ => .error .bufferTooShort

/-! ### Decoding -/

/-- The two low bits of an octet are one of four values. -/
theorem low_bits (b : UInt8) : b &&& 3 = 0 ∨ b &&& 3 = 1 ∨ b &&& 3 = 2 ∨ b &&& 3 = 3 := by
  have h : (b &&& 3).toNat = b.toNat % 4 := by
    rw [UInt8.toNat_and]
    exact Nat.and_two_pow_sub_one_eq_mod b.toNat 2
  have h4 : b.toNat % 4 < 4 := Nat.mod_lt _ (by omega)
  simp only [← UInt8.toNat_inj, h, UInt8.reduceToNat]
  omega

theorem receiveCon_tryFrom_total (b : UInt8) :
    ∃ c, ReceiveConnState.tryFrom (b &&& 3) = .ok c := by
  rcases low_bits b with h | h | h | h <;> rw [h] <;> exact ⟨_, rfl⟩

theorem sendCon_tryFrom_total (b : UInt8) :
    ∃ c, SendConnState.tryFrom (b &&& 3) = .ok c := by
  rcases low_bits b with h | h | h | h <;> rw [h] <;> exact ⟨_, rfl⟩

/-- Every buffer of at least four octets decodes. -/
theorem deserialize_total {buffer : List UInt8} (h : 4 ≤ buffer.length) :
    ∃ hdr, deserialize buffer = .ok hdr := by
  match buffer, h with
  | b₀ :: b₁ :: b₂ :: b₃ :: rest, _ =>
      obtain ⟨c, hc⟩ := receiveCon_tryFrom_total b₀
      obtain ⟨d, hd⟩ := sendCon_tryFrom_total b₁
      exact ⟨_, by simp only [deserialize, hc, hd]; rfl⟩

/-- Packing a six-bit number above a two-bit state loses neither. -/
theorem unpack_octet {n k : UInt8} (hn : n < 64) (hk : k < 4) :
    ((n <<< 2 ||| k) >>> 2) &&& 0x3F = n ∧ (n <<< 2 ||| k) &&& 3 = k := by
  have key : ∀ (n : Fin 64) (k : Fin 4),
      ((UInt8.ofNat n <<< 2 ||| UInt8.ofNat k) >>> 2) &&& 0x3F = UInt8.ofNat n ∧
        (UInt8.ofNat n <<< 2 ||| UInt8.ofNat k) &&& 3 = UInt8.ofNat k := by
    decide +kernel
  have h := key ⟨n.toNat, hn⟩ ⟨k.toNat, hk⟩
  simpa only [UInt8.ofNat_toNat] using h

theorem receiveCon_tryFrom_toByte (c : ReceiveConnState) :
    ReceiveConnState.tryFrom c.toByte = .ok c := by
  cases c <;> rfl

theorem sendCon_tryFrom_toByte (c : SendConnState) : SendConnState.tryFrom c.toByte = .ok c := by
  cases c <;> rfl

/-- A header whose sequence numbers fit in six bits decodes to itself, whatever follows it. -/
theorem deserialize_bytes {h : SequenceLayerHeader} (hr : h.receiveSequenceNumber < 64)
    (hs : h.sendSequenceNumber < 64) (rest : List UInt8) :
    deserialize (h.bytes ++ rest) = .ok h := by
  obtain ⟨r₁, r₂⟩ := unpack_octet hr (k := h.receiveCon.toByte) (by cases h.receiveCon <;> decide)
  obtain ⟨s₁, s₂⟩ := unpack_octet hs (k := h.sendCon.toByte) (by cases h.sendCon <;> decide)
  simp only [bytes, List.cons_append, List.nil_append, deserialize, r₁, r₂, s₁, s₂,
    receiveCon_tryFrom_toByte, sendCon_tryFrom_toByte]
  rfl

end SequenceLayerHeader

end Powerlink
