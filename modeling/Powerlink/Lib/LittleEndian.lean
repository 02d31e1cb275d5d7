import Mathlib.Tactic

/-! # Little-endian byte strings

`leBytes w n` are the `w` low bytes of `n`, least significant first, and `ofLeBytes` reads
such a string back; they are inverse to each other up to the width (`ofLeBytes_leBytes`).
The fixed-width words are read and written through them. -/

namespace LittleEndian

/-- The `w` low bytes of a number, least significant first. -/
def leBytes : ℕ → ℕ → List UInt8
  | 0, _ => []
  | w + 1, n => UInt8.ofNat n :: leBytes w (n / 256)

/-- The number denoted by a little-endian byte string. -/
def ofLeBytes : List UInt8 → ℕ
  | [] => 0
  | b :: bs => b.toNat + 256 * ofLeBytes bs

@[simp] theorem length_leBytes : ∀ (w n : ℕ), (leBytes w n).length = w
  | 0, _ => rfl
  | w + 1, n => by rw [leBytes, List.length_cons, length_leBytes w]

theorem ofLeBytes_leBytes : ∀ (w n : ℕ), ofLeBytes (leBytes w n) = n % 256 ^ w
  | 0, n => by simp [leBytes, ofLeBytes, Nat.mod_one]
  | w + 1, n => by
      have hb : (UInt8.ofNat n).toNat = n % 256 := UInt8.toNat_ofNat'
      rw [leBytes, ofLeBytes, ofLeBytes_leBytes w, hb, pow_succ', Nat.mod_mul]

theorem ofLeBytes_leBytes_of_lt {w n : ℕ} (h : n < 256 ^ w) : ofLeBytes (leBytes w n) = n := by
  rw [ofLeBytes_leBytes, Nat.mod_eq_of_lt h]

theorem ofLeBytes_lt (bs : List UInt8) : ofLeBytes bs < 256 ^ bs.length := by
  induction bs with
  | nil => exact Nat.one_pos
  | cons b bs ih =>
      have hb := b.toNat_lt
      rw [ofLeBytes, List.length_cons, pow_succ']
      omega

/-- Every byte string is the encoding of its number in as many bytes. -/
theorem leBytes_ofLeBytes (bs : List UInt8) : leBytes bs.length (ofLeBytes bs) = bs := by
  induction bs with
  | nil => rfl
  | cons b bs ih =>
      have hb := b.toNat_lt
      have hdigit : UInt8.ofNat (b.toNat + 256 * ofLeBytes bs) = b := by
        apply UInt8.toNat_inj.mp
        rw [UInt8.toNat_ofNat']
        omega
      have hrest : (b.toNat + 256 * ofLeBytes bs) / 256 = ofLeBytes bs := by omega
      rw [List.length_cons, ofLeBytes, leBytes, hdigit, hrest, ih]

/-! ### Words -/

/-- The two bytes of a 16-bit word. -/
def u16Bytes (x : UInt16) : List UInt8 := leBytes 2 x.toNat

/-- The 16-bit word denoted by a byte string. -/
def u16OfBytes (bs : List UInt8) : UInt16 := UInt16.ofNat (ofLeBytes bs)

/-- The four bytes of a 32-bit word. -/
def u32Bytes (x : UInt32) : List UInt8 := leBytes 4 x.toNat

/-- The 32-bit word denoted by a byte string. -/
def u32OfBytes (bs : List UInt8) : UInt32 := UInt32.ofNat (ofLeBytes bs)

/-- The eight bytes of a 64-bit word. -/
def u64Bytes (x : UInt64) : List UInt8 := leBytes 8 x.toNat

/-- The 64-bit word denoted by a byte string. -/
def u64OfBytes (bs : List UInt8) : UInt64 := UInt64.ofNat (ofLeBytes bs)

@[simp] theorem length_u16Bytes (x : UInt16) : (u16Bytes x).length = 2 := length_leBytes 2 _

@[simp] theorem length_u32Bytes (x : UInt32) : (u32Bytes x).length = 4 := length_leBytes 4 _

@[simp] theorem length_u64Bytes (x : UInt64) : (u64Bytes x).length = 8 := length_leBytes 8 _

@[simp] theorem u16OfBytes_u16Bytes (x : UInt16) : u16OfBytes (u16Bytes x) = x := by
  unfold u16OfBytes u16Bytes
  rw [ofLeBytes_leBytes_of_lt (by simpa using x.toNat_lt), UInt16.ofNat_toNat]

@[simp] theorem u32OfBytes_u32Bytes (x : UInt32) : u32OfBytes (u32Bytes x) = x := by
  unfold u32OfBytes u32Bytes
  rw [ofLeBytes_leBytes_of_lt (by simpa using x.toNat_lt), UInt32.ofNat_toNat]

@[simp] theorem u64OfBytes_u64Bytes (x : UInt64) : u64OfBytes (u64Bytes x) = x := by
  unfold u64OfBytes u64Bytes
  rw [ofLeBytes_leBytes_of_lt (by simpa using x.toNat_lt), UInt64.ofNat_toNat]

theorem u16Bytes_u16OfBytes {bs : List UInt8} (h : bs.length = 2) :
    u16Bytes (u16OfBytes bs) = bs := by
  have hlt := ofLeBytes_lt bs
  unfold u16Bytes u16OfBytes
  rw [UInt16.toNat_ofNat_of_lt' (by rw [h] at hlt; exact hlt), ← h, leBytes_ofLeBytes]

theorem u32Bytes_u32OfBytes {bs : List UInt8} (h : bs.length = 4) :
    u32Bytes (u32OfBytes bs) = bs := by
  have hlt := ofLeBytes_lt bs
  unfold u32Bytes u32OfBytes
  rw [UInt32.toNat_ofNat_of_lt' (by rw [h] at hlt; exact hlt), ← h, leBytes_ofLeBytes]

theorem u64Bytes_u64OfBytes {bs : List UInt8} (h : bs.length = 8) :
    u64Bytes (u64OfBytes bs) = bs := by
  have hlt := ofLeBytes_lt bs
  unfold u64Bytes u64OfBytes
  rw [UInt64.toNat_ofNat_of_lt' (by rw [h] at hlt; exact hlt), ← h, leBytes_ofLeBytes]

/-- The last digit of a number and the rest of it are determined by the number. -/
theorem digits_inj {B a b c d : ℕ} (hb : b < B) (hd : d < B) (h : a * B + b = c * B + d) :
    a = c ∧ b = d := by
  have hbd : b = d := by
    have := congrArg (· % B) h
    simpa only [Nat.mul_add_mod_self_right, Nat.mod_eq_of_lt hb, Nat.mod_eq_of_lt hd] using this
  subst hbd
  exact ⟨Nat.eq_of_mul_eq_mul_right (by omega) (Nat.add_right_cancel h), rfl⟩

end LittleEndian
