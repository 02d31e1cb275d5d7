import Powerlink.Xdc.StorageMap

/-! # Texts of integers

The eight integer types that `map_data_to_value` reads.  `IntegerType.denoted` is the integer that a
text denotes: decimal digits behind an optional sign, or `0x` and the hexadecimal digits of a bit
pattern.  The macro `parse_num!` hands what stands behind `0x` to `from_str_radix`, which takes a sign
there and, for the signed types, no bit pattern of a negative number; `readExactly_iff` says for which
texts this makes no difference. -/

namespace PowerlinkXdc.Converter

open Powerlink (ObjectValue)

/-- The integer types that have values. -/
inductive IntegerType where
  | i8
  | i16
  | i32
  | i64
  | u8
  | u16
  | u32
  | u64
deriving DecidableEq, Repr

namespace IntegerType

/-- The name of the type. -/
def typeName : IntegerType → DataTypeName
  | i8 => .integer8
  | i16 => .integer16
  | i32 => .integer32
  | i64 => .integer64
  | u8 => .unsigned8
  | u16 => .unsigned16
  | u32 => .unsigned32
  | u64 => .unsigned64

/-- The width of the type. -/
def bits : IntegerType → ℕ
  | i8 | u8 => 8
  | i16 | u16 => 16
  | i32 | u32 => 32
  | i64 | u64 => 64

/-- The type has negative values. -/
def signed : IntegerType → Bool
  | i8 | i16 | i32 | i64 => true
  | u8 | u16 | u32 | u64 => false

/-- The value of an integer of the type. -/
def toValue : IntegerType → ℤ → ObjectValue
  | i8, n => .integer8 (Int8.ofInt n)
  | i16, n => .integer16 (Int16.ofInt n)
  | i32, n => .integer32 (Int32.ofInt n)
  | i64, n => .integer64 (Int64.ofInt n)
  | u8, n => .unsigned8 (UInt8.ofNat n.toNat)
  | u16, n => .unsigned16 (UInt16.ofNat n.toNat)
  | u32, n => .unsigned32 (UInt32.ofNat n.toNat)
  | u64, n => .unsigned64 (UInt64.ofNat n.toNat)

/-- Half of the bit patterns of the type. -/
def half (t : IntegerType) : ℕ := 2 ^ (t.bits - 1)

theorem two_pow_bits (t : IntegerType) : 2 ^ t.bits = 2 * t.half := by
  cases t <;> rfl

theorem half_pos (t : IntegerType) : 0 < t.half := by
  unfold half
  positivity

/-- The smallest integer of the type. -/
def lower (t : IntegerType) : ℤ := if t.signed then -(t.half : ℤ) else 0

/-- The integer behind the largest one of the type. -/
def upper (t : IntegerType) : ℤ := if t.signed then t.half else 2 * t.half

/-- An integer of the type. -/
def InRange (t : IntegerType) (n : ℤ) : Prop := t.lower ≤ n ∧ n < t.upper

instance (t : IntegerType) (n : ℤ) : Decidable (t.InRange n) := inferInstanceAs (Decidable (_ ∧ _))

/-! ### What a text denotes -/

/-- The digits behind `0x` or `0X`. -/
def hexDigits : List Char → Option (List Char)
  | '0' :: 'x' :: digits | '0' :: 'X' :: digits => some digits
  | _ => none

/-- The integer with a bit pattern, in two's complement. -/
def ofPattern (t : IntegerType) (m : ℕ) : ℤ :=
  if t.signed ∧ t.half ≤ m then (m : ℤ) - 2 * t.half else m

/-- The integer of the type that a text denotes. -/
def denoted (t : IntegerType) (cs : List Char) : Option ℤ :=
  match hexDigits cs with
  | some digits =>
      ((Numerals.unsigned 16 digits).filter (· < 2 ^ t.bits)).map t.ofPattern
  | none => (Numerals.signed 10 cs).filter (fun n => t.InRange n)

/-! ### What the code reads -/

/-- `from_str_radix` of the type. -/
def fromStrRadix (t : IntegerType) (radix : ℕ) (s : String) : Option ℤ :=
  if t.signed then fromStrRadixSigned t.bits radix s
  else (fromStrRadixUnsigned t.bits radix s).map Int.ofNat

/-- `parse_num!` looks for the prefix and calls the parser of the type. -/
theorem parseNum_eq {α : Type} (g : ℕ → String → Option α) (text : String) :
    parseNum g text = orInvalid "defaultValue or actualValue (numeric)"
      (match hexDigits (trim text).toList with
        | some digits => g 16 (String.ofList digits)
        | none => g 10 (String.ofList (trim text).toList)) := by
  unfold parseNum hexDigits
  apply congrArg
  generalize (trim text).toList = cs
  split
  · rfl
  · rfl
  · simp_all

theorem orInvalid_map {α β : Type} (name : String) (f : α → β) (o : Option α) :
    orInvalid name (o.map f) = (orInvalid name o).map f := by
  cases o <;> rfl

theorem parseNum_map {α β : Type} (g : ℕ → String → Option α) (f : α → β) (text : String) :
    parseNum (fun radix s => (g radix s).map f) text = (parseNum g text).map f := by
  rw [parseNum_eq, parseNum_eq]
  cases hexDigits (trim text).toList with
  | none => exact orInvalid_map _ f _
  | some digits => exact orInvalid_map _ f _

/-- All eight types are read by `parse_num!`. -/
theorem mapTextToValue_eq (p : TextParsers) (t : IntegerType) (text : String) :
    mapTextToValue p text t.typeName =
      (parseNum t.fromStrRadix text).map (fun n => some (t.toValue n)) := by
  have hbind : ∀ {α : Type} (x : Except XdcError α) (f : α → ObjectValue),
      (do let n ← x; Except.ok (some (f n))) = x.map (fun n => some (f n)) := by
    intro α x f
    cases x <;> rfl
  have hunsigned : ∀ (bits : ℕ) (f : ℤ → ObjectValue),
      (parseNum (fun radix s => (fromStrRadixUnsigned bits radix s).map Int.ofNat) text).map
          (fun n => some (f n)) =
        (parseNum (fromStrRadixUnsigned bits) text).map (fun n => some (f (Int.ofNat n))) := by
    intro bits f
    rw [parseNum_map]
    cases parseNum (fromStrRadixUnsigned bits) text <;> rfl
  cases t with
  | i8 => exact hbind _ _
  | i16 => exact hbind _ _
  | i32 => exact hbind _ _
  | i64 => exact hbind _ _
  | u8 => exact (hbind _ _).trans (hunsigned 8 (toValue u8)).symm
  | u16 => exact (hbind _ _).trans (hunsigned 16 (toValue u16)).symm
  | u32 => exact (hbind _ _).trans (hunsigned 32 (toValue u32)).symm
  | u64 => exact (hbind _ _).trans (hunsigned 64 (toValue u64)).symm

/-- The integer that the code reads. -/
def read (t : IntegerType) (cs : List Char) : Option ℤ :=
  match hexDigits cs with
  | some digits => t.fromStrRadix 16 (String.ofList digits)
  | none => t.fromStrRadix 10 (String.ofList cs)

/-- Where no minus sign comes first, both kinds of types read a numeral below a bound. -/
theorem parse_eq_signed (radix bound : ℕ) {cs : List Char} (h : cs.head? ≠ some '-') :
    (Numerals.parse radix bound (String.ofList cs)).map Int.ofNat =
      (Numerals.signed radix cs).filter (fun n : ℤ => n < bound) := by
  have hdigits : ∀ digits, ((Numerals.unsigned radix digits).filter (· < bound)).map Int.ofNat =
      ((Numerals.unsigned radix digits).map Int.ofNat).filter (fun n : ℤ => n < bound) := by
    intro digits
    cases Numerals.unsigned radix digits with
    | none => rfl
    | some m => by_cases hm : m < bound <;> simp [Option.filter, hm]
  rw [Numerals.parse_ofList]
  rcases cs with _ | ⟨c, cs⟩
  · rfl
  · by_cases hplus : c = '+'
    · subst hplus
      exact hdigits cs
    · have hminus : c ≠ '-' := fun heq => h (by rw [heq]; rfl)
      rw [Numerals.signed_of_ne hminus hplus, ← hdigits (c :: cs)]
      simp [hplus]

theorem signed_nonneg {radix : ℕ} {cs : List Char} (h : cs.head? ≠ some '-') {n : ℤ}
    (hn : Numerals.signed radix cs = some n) : 0 ≤ n := by
  have hcast : ∀ digits, (Numerals.unsigned radix digits).map Int.ofNat = some n → 0 ≤ n := by
    intro digits hdigits
    obtain ⟨m, -, rfl⟩ := Option.map_eq_some_iff.mp hdigits
    exact Int.natCast_nonneg m
  rcases cs with _ | ⟨c, cs⟩
  · cases hn
  · by_cases hplus : c = '+'
    · subst hplus
      exact hcast cs hn
    · have hminus : c ≠ '-' := fun heq => h (by rw [heq]; rfl)
      rw [Numerals.signed_of_ne hminus hplus] at hn
      exact hcast (c :: cs) hn

/-- Without a minus sign a type reads the integers in its range. -/
theorem fromStrRadix_of_ne_minus (t : IntegerType) (radix : ℕ) {cs : List Char}
    (h : cs.head? ≠ some '-') :
    t.fromStrRadix radix (String.ofList cs) =
      (Numerals.signed radix cs).filter (fun n => t.InRange n) := by
  have hbound : ∀ bound : ℕ, t.upper = bound →
      (Numerals.parse radix bound (String.ofList cs)).map Int.ofNat =
        (Numerals.signed radix cs).filter (fun n => t.InRange n) := by
    intro bound hupper
    rw [parse_eq_signed radix bound h]
    cases hn : Numerals.signed radix cs with
    | none => rfl
    | some n =>
        have hnonneg := signed_nonneg h hn
        have hlower : t.lower ≤ 0 := by
          unfold lower
          split_ifs
          · omega
          · exact le_rfl
        have hiff : t.InRange n ↔ n < bound := by
          unfold InRange
          omega
        simp only [Option.filter, hiff]
  cases hsigned : t.signed with
  | true =>
      have hread : t.fromStrRadix radix (String.ofList cs) =
          (Numerals.parse radix t.half (String.ofList cs)).map Int.ofNat := by
        unfold fromStrRadix fromStrRadixSigned
        rw [if_pos hsigned, String.toList_ofList]
        split
        · exact absurd rfl h
        · rfl
      rw [hread]
      exact hbound t.half (if_pos hsigned)
  | false =>
      have hread : t.fromStrRadix radix (String.ofList cs) =
          (Numerals.parse radix (2 * t.half) (String.ofList cs)).map Int.ofNat := by
        unfold fromStrRadix fromStrRadixUnsigned
        rw [hsigned, two_pow_bits]
        rfl
      have hupper : t.upper = ((2 * t.half : ℕ) : ℤ) := by
        unfold upper
        rw [hsigned]
        simp
      rw [hread]
      exact hbound (2 * t.half) hupper

/-- Behind a minus sign only the signed types read digits. -/
theorem fromStrRadix_minus (t : IntegerType) (radix : ℕ) (cs : List Char) :
    t.fromStrRadix radix (String.ofList ('-' :: cs)) =
      if t.signed then
        ((Numerals.unsigned radix cs).filter (· ≤ t.half)).map (fun m : ℕ => -(m : ℤ))
      else none := by
  unfold fromStrRadix
  cases hsigned : t.signed with
  | true =>
      unfold fromStrRadixSigned
      rw [if_pos rfl, if_pos rfl, String.toList_ofList]
      cases cs with
      | nil =>
          exact congrArg (Option.map Int.ofNat) (Numerals.parse_minus radix (2 ^ (t.bits - 1)) [])
      | cons c cs =>
          change ((Numerals.unsigned radix (c :: cs)).filter (· ≤ t.half) >>= fun m =>
            some (m : ℤ)).map (fun n => -n) = _
          cases (Numerals.unsigned radix (c :: cs)).filter (· ≤ t.half) <;> rfl
  | false => exact congrArg (Option.map Int.ofNat) (Numerals.parse_minus radix (2 ^ t.bits) cs)

/-! ### Texts that are read otherwise -/

theorem inRange_natCast (t : IntegerType) (m : ℕ) : t.InRange m ↔ (m : ℤ) < t.upper := by
  have hlower : t.lower ≤ 0 := by
    unfold lower
    split_ifs
    · omega
    · exact le_rfl
  unfold InRange
  omega

theorem inRange_neg_of_signed {t : IntegerType} (h : t.signed = true) (m : ℕ) :
    t.InRange (-m) ↔ m ≤ t.half := by
  have hlower : t.lower = -(t.half : ℤ) := if_pos h
  have hupper : t.upper = t.half := if_pos h
  have hpos := t.half_pos
  unfold InRange
  omega

theorem inRange_neg_of_unsigned {t : IntegerType} (h : t.signed = false) (m : ℕ) :
    t.InRange (-m) ↔ m = 0 := by
  have hlower : t.lower = 0 := by
    unfold lower
    rw [h]
    rfl
  have hupper : t.upper = 2 * t.half := by
    unfold upper
    rw [h]
    rfl
  have hpos := t.half_pos
  unfold InRange
  omega

/-- Behind `0x`, a sign is read and the bit pattern of a negative number is not; of `-0` in decimal
digits, an unsigned type does not read the sign. -/
def Misread (t : IntegerType) (cs : List Char) : Prop :=
  match hexDigits cs with
  | some digits =>
      (t.signed = true ∧ ∃ m, Numerals.unsigned 16 digits = some m ∧ t.half ≤ m ∧
        m < 2 * t.half) ∨
      (∃ rest m, digits = '+' :: rest ∧ Numerals.unsigned 16 rest = some m ∧
        (m : ℤ) < t.upper) ∨
      (t.signed = true ∧ ∃ rest m, digits = '-' :: rest ∧ Numerals.unsigned 16 rest = some m ∧
        m ≤ t.half)
  | none => t.signed = false ∧ ∃ rest, cs = '-' :: rest ∧ Numerals.unsigned 10 rest = some 0

/-- A text is read as what it denotes, or it is misread, and then it is an error in the one and an
integer in the other. -/
def Compared (t : IntegerType) (cs : List Char) : Prop :=
  (¬t.Misread cs ∧ t.read cs = t.denoted cs) ∨
    (t.Misread cs ∧ (t.read cs).isSome ≠ (t.denoted cs).isSome)

theorem compared_decimal (t : IntegerType) {cs : List Char} (h : hexDigits cs = none) :
    t.Compared cs := by
  have hread : t.read cs = t.fromStrRadix 10 (String.ofList cs) := by
    unfold read
    rw [h]
  have hdenoted : t.denoted cs = (Numerals.signed 10 cs).filter (fun n => t.InRange n) := by
    unfold denoted
    rw [h]
  have hmisread : t.Misread cs ↔
      t.signed = false ∧ ∃ rest, cs = '-' :: rest ∧ Numerals.unsigned 10 rest = some 0 := by
    unfold Misread
    rw [h]
  unfold Compared
  rw [hread, hdenoted, hmisread]
  by_cases hminus : cs.head? = some '-'
  · obtain ⟨rest, rfl⟩ : ∃ rest, cs = '-' :: rest := by
      cases cs with
      | nil => cases hminus
      | cons c rest => exact ⟨rest, by rw [Option.some.inj hminus]⟩
    have hsigned : Numerals.signed 10 ('-' :: rest) =
        (Numerals.unsigned 10 rest).map (fun m : ℕ => -(m : ℤ)) := rfl
    rw [fromStrRadix_minus, hsigned]
    cases htype : t.signed with
    | true =>
        left
        refine ⟨fun hfalse => absurd hfalse.1 (by decide), ?_⟩
        rw [if_pos rfl]
        cases Numerals.unsigned 10 rest with
        | none => rfl
        | some m =>
            have hiff := inRange_neg_of_signed htype m
            by_cases hm : m ≤ t.half <;> simp [Option.filter, hiff, hm]
    | false =>
        rw [if_neg (by decide)]
        cases hdigits : Numerals.unsigned 10 rest with
        | none =>
            left
            refine ⟨?_, rfl⟩
            rintro ⟨-, rest', heq, hzero⟩
            rw [← (List.cons.inj heq).2, hdigits] at hzero
            cases hzero
        | some m =>
            have hiff := inRange_neg_of_unsigned htype m
            by_cases hm : m = 0
            · right
              have hzero : t.InRange (-(m : ℤ)) := hiff.mpr hm
              refine ⟨⟨rfl, rest, rfl, by rw [hdigits, hm]⟩, ?_⟩
              simp [Option.filter, hzero]
            · left
              refine ⟨?_, by simp [Option.filter, hiff, hm]⟩
              rintro ⟨-, rest', heq, hzero⟩
              rw [← (List.cons.inj heq).2, hdigits] at hzero
              exact hm (Option.some.inj hzero)
  · left
    refine ⟨?_, fromStrRadix_of_ne_minus t 10 hminus⟩
    rintro ⟨-, rest, rfl, -⟩
    exact hminus rfl

section hexadecimal

variable {cs digits rest : List Char}

theorem read_of_hexDigits (t : IntegerType) (h : hexDigits cs = some digits) :
    t.read cs = t.fromStrRadix 16 (String.ofList digits) := by
  unfold read
  rw [h]

theorem denoted_of_hexDigits (t : IntegerType) (h : hexDigits cs = some digits) :
    t.denoted cs = ((Numerals.unsigned 16 digits).filter (· < 2 * t.half)).map t.ofPattern := by
  unfold denoted
  rw [h, two_pow_bits]

theorem misread_minus (t : IntegerType) (h : hexDigits cs = some ('-' :: rest)) :
    t.Misread cs ↔
      t.signed = true ∧ ∃ m, Numerals.unsigned 16 rest = some m ∧ m ≤ t.half := by
  unfold Misread
  rw [h]
  constructor
  · rintro (⟨-, m, hm, -⟩ | ⟨rest', m, heq, -⟩ | ⟨htype, rest', m, heq, hm⟩)
    · rw [Numerals.unsigned_minus] at hm
      cases hm
    · exact absurd (List.cons.inj heq).1 (by decide)
    · obtain ⟨-, rfl⟩ := List.cons.inj heq
      exact ⟨htype, m, hm⟩
  · rintro ⟨htype, m, hm⟩
    exact .inr (.inr ⟨htype, rest, m, rfl, hm⟩)

theorem misread_plus (t : IntegerType) (h : hexDigits cs = some ('+' :: rest)) :
    t.Misread cs ↔ ∃ m, Numerals.unsigned 16 rest = some m ∧ (m : ℤ) < t.upper := by
  unfold Misread
  rw [h]
  constructor
  · rintro (⟨-, m, hm, -⟩ | ⟨rest', m, heq, hm⟩ | ⟨-, rest', m, heq, -⟩)
    · rw [Numerals.unsigned_plus] at hm
      cases hm
    · obtain ⟨-, rfl⟩ := List.cons.inj heq
      exact ⟨m, hm⟩
    · exact absurd (List.cons.inj heq).1 (by decide)
  · rintro ⟨m, hm⟩
    exact .inr (.inl ⟨rest, m, rfl, hm⟩)

/-- Where no sign stands behind the prefix, only a bit pattern can be misread. -/
theorem misread_unsigned (t : IntegerType) (h : hexDigits cs = some digits)
    (hminus : digits.head? ≠ some '-') (hplus : digits.head? ≠ some '+') :
    t.Misread cs ↔ t.signed = true ∧ ∃ m, Numerals.unsigned 16 digits = some m ∧ t.half ≤ m ∧
      m < 2 * t.half := by
  unfold Misread
  rw [h]
  constructor
  · rintro (hpattern | ⟨rest, m, rfl, -⟩ | ⟨-, rest, m, rfl, -⟩)
    · exact hpattern
    · exact absurd rfl hplus
    · exact absurd rfl hminus
  · exact .inl

theorem compared_minus (t : IntegerType) (h : hexDigits cs = some ('-' :: rest)) :
    t.Compared cs := by
  unfold Compared
  rw [t.read_of_hexDigits h, t.denoted_of_hexDigits h, t.misread_minus h, fromStrRadix_minus,
    Numerals.unsigned_minus]
  cases htype : t.signed with
  | false =>
      left
      exact ⟨fun hfalse => absurd hfalse.1 (by decide), rfl⟩
  | true =>
      rw [if_pos rfl]
      cases Numerals.unsigned 16 rest with
      | none =>
          left
          refine ⟨?_, rfl⟩
          rintro ⟨-, m, hm, -⟩
          cases hm
      | some m =>
          by_cases hle : m ≤ t.half
          · right
            exact ⟨⟨rfl, m, rfl, hle⟩, by simp [Option.filter, hle]⟩
          · left
            refine ⟨?_, by simp [Option.filter, hle]⟩
            rintro ⟨-, m', hm, hle'⟩
            rw [← Option.some.inj hm] at hle'
            exact hle hle'

theorem compared_plus (t : IntegerType) (h : hexDigits cs = some ('+' :: rest)) :
    t.Compared cs := by
  have hhead : ('+' :: rest).head? ≠ some '-' := by simp
  have hsigned : Numerals.signed 16 ('+' :: rest) =
      (Numerals.unsigned 16 rest).map Int.ofNat := rfl
  unfold Compared
  rw [t.read_of_hexDigits h, t.denoted_of_hexDigits h, t.misread_plus h,
    fromStrRadix_of_ne_minus t 16 hhead, hsigned, Numerals.unsigned_plus]
  cases Numerals.unsigned 16 rest with
  | none =>
      left
      refine ⟨?_, rfl⟩
      rintro ⟨m, hm, -⟩
      cases hm
  | some m =>
      have hiff := t.inRange_natCast m
      by_cases hlt : (m : ℤ) < t.upper
      · right
        exact ⟨⟨m, rfl, hlt⟩, by simp [Option.filter, hiff, hlt]⟩
      · left
        refine ⟨?_, by simp [Option.filter, hiff, hlt]⟩
        rintro ⟨m', hm, hlt'⟩
        rw [← Option.some.inj hm] at hlt'
        exact hlt hlt'

/-- Digits without a sign are read as their number, which a bit pattern denotes only below half of
the patterns. -/
theorem compared_unsigned (t : IntegerType) (h : hexDigits cs = some digits)
    (hminus : digits.head? ≠ some '-') (hplus : digits.head? ≠ some '+') : t.Compared cs := by
  have hsigned : Numerals.signed 16 digits = (Numerals.unsigned 16 digits).map Int.ofNat := by
    cases digits with
    | nil => rfl
    | cons c rest => exact Numerals.signed_of_ne (by simpa using hminus) (by simpa using hplus)
  unfold Compared
  rw [t.read_of_hexDigits h, t.denoted_of_hexDigits h, t.misread_unsigned h hminus hplus,
    fromStrRadix_of_ne_minus t 16 hminus, hsigned]
  cases Numerals.unsigned 16 digits with
  | none =>
      left
      refine ⟨?_, rfl⟩
      rintro ⟨-, m, hm, -⟩
      cases hm
  | some m =>
      have hiff := t.inRange_natCast m
      by_cases hpattern : t.signed = true ∧ t.half ≤ m
      · have hupper : t.upper = t.half := if_pos hpattern.1
        have hhalf := hpattern.2
        have hout : ¬t.InRange (m : ℤ) := by
          rw [hiff, hupper]
          omega
        by_cases hlt : m < 2 * t.half
        · right
          refine ⟨⟨hpattern.1, m, rfl, hpattern.2, hlt⟩, ?_⟩
          simp [Option.filter, hout, hlt]
        · left
          refine ⟨?_, by simp [Option.filter, hout, hlt]⟩
          rintro ⟨-, m', hm, -, hlt'⟩
          rw [← Option.some.inj hm] at hlt'
          exact hlt hlt'
      · left
        have hsame : t.ofPattern m = m := if_neg hpattern
        have hbound : t.InRange (m : ℤ) ↔ m < 2 * t.half := by
          rw [hiff]
          unfold upper
          split_ifs with htype
          · have hlt : m < t.half := by
              by_contra hge
              exact hpattern ⟨htype, by omega⟩
            omega
          · omega
        refine ⟨?_, ?_⟩
        · rintro ⟨htype, m', hm, hge, -⟩
          rw [← Option.some.inj hm] at hge
          exact hpattern ⟨htype, hge⟩
        · by_cases hlt : m < 2 * t.half <;> simp [Option.filter, hbound, hlt, hsame]

theorem compared_hexadecimal (t : IntegerType) (h : hexDigits cs = some digits) :
    t.Compared cs := by
  rcases digits with _ | ⟨c, rest⟩
  · exact t.compared_unsigned h (by simp) (by simp)
  · by_cases hminus : c = '-'
    · subst hminus
      exact t.compared_minus h
    · by_cases hplus : c = '+'
      · subst hplus
        exact t.compared_plus h
      · exact t.compared_unsigned h (by simpa using hminus) (by simpa using hplus)

end hexadecimal

theorem compared (t : IntegerType) (cs : List Char) : t.Compared cs := by
  cases h : hexDigits cs with
  | none => exact compared_decimal t h
  | some digits => exact compared_hexadecimal t h

/-! ### Both notations -/

/-- Different integers of a type are different values. -/
theorem toValue_injective {t : IntegerType} {n m : ℤ} (hn : t.InRange n) (hm : t.InRange m)
    (h : t.toValue n = t.toValue m) : n = m := by
  obtain ⟨hn, hn'⟩ := hn
  obtain ⟨hm, hm'⟩ := hm
  cases t with
  | i8 =>
      have hint := congrArg Int8.toInt (ObjectValue.integer8.inj h)
      rwa [Int8.toInt_ofInt_of_le hn hn', Int8.toInt_ofInt_of_le hm hm'] at hint
  | i16 =>
      have hint := congrArg Int16.toInt (ObjectValue.integer16.inj h)
      rwa [Int16.toInt_ofInt_of_le hn hn', Int16.toInt_ofInt_of_le hm hm'] at hint
  | i32 =>
      have hint := congrArg Int32.toInt (ObjectValue.integer32.inj h)
      rwa [Int32.toInt_ofInt_of_le hn hn', Int32.toInt_ofInt_of_le hm hm'] at hint
  | i64 =>
      have hint := congrArg Int64.toInt (ObjectValue.integer64.inj h)
      rwa [Int64.toInt_ofInt_of_le hn hn', Int64.toInt_ofInt_of_le hm hm'] at hint
  | u8 =>
      have hnat := congrArg UInt8.toNat (ObjectValue.unsigned8.inj h)
      change 0 ≤ n at hn
      change n < 256 at hn'
      change 0 ≤ m at hm
      change m < 256 at hm'
      rw [UInt8.toNat_ofNat_of_lt' (by simp only [UInt8.size]; omega),
        UInt8.toNat_ofNat_of_lt' (by simp only [UInt8.size]; omega)] at hnat
      omega
  | u16 =>
      have hnat := congrArg UInt16.toNat (ObjectValue.unsigned16.inj h)
      change 0 ≤ n at hn
      change n < 65536 at hn'
      change 0 ≤ m at hm
      change m < 65536 at hm'
      rw [UInt16.toNat_ofNat_of_lt' (by simp only [UInt16.size]; omega),
        UInt16.toNat_ofNat_of_lt' (by simp only [UInt16.size]; omega)] at hnat
      omega
  | u32 =>
      have hnat := congrArg UInt32.toNat (ObjectValue.unsigned32.inj h)
      change 0 ≤ n at hn
      change n < 4294967296 at hn'
      change 0 ≤ m at hm
      change m < 4294967296 at hm'
      rw [UInt32.toNat_ofNat_of_lt' (by simp only [UInt32.size]; omega),
        UInt32.toNat_ofNat_of_lt' (by simp only [UInt32.size]; omega)] at hnat
      omega
  | u64 =>
      have hnat := congrArg UInt64.toNat (ObjectValue.unsigned64.inj h)
      change 0 ≤ n at hn
      change n < 18446744073709551616 at hn'
      change 0 ≤ m at hm
      change m < 18446744073709551616 at hm'
      rw [UInt64.toNat_ofNat_of_lt' (by simp only [UInt64.size]; omega),
        UInt64.toNat_ofNat_of_lt' (by simp only [UInt64.size]; omega)] at hnat
      omega

/-- The prefix has a letter that is no decimal digit. -/
theorem hexDigits_eq_none {cs : List Char} (h : ∀ c ∈ cs, c ≠ 'x' ∧ c ≠ 'X') :
    hexDigits cs = none := by
  unfold hexDigits
  split
  · exact absurd rfl (h 'x' (by simp)).1
  · exact absurd rfl (h 'X' (by simp)).2
  · rfl

theorem mem_format_decimal {n : ℕ} {c : Char} (h : c ∈ (Numerals.format 10 1 n).toList) :
    c ≠ 'x' ∧ c ≠ 'X' ∧ c ≠ '-' ∧ c ≠ '+' := by
  rw [Numerals.format, String.toList_ofList] at h
  obtain ⟨d, hd, rfl⟩ := List.mem_map.mp h
  have key : ∀ d : Fin 10, Numerals.digitChar d ≠ 'x' ∧ Numerals.digitChar d ≠ 'X' ∧
      Numerals.digitChar d ≠ '-' ∧ Numerals.digitChar d ≠ '+' := by decide
  exact key ⟨d, Numerals.paddedDigits_lt (by decide) 1 n d hd⟩

/-- Every integer of a type has a text in decimal digits. -/
theorem exists_decimal {t : IntegerType} {n : ℤ} (h : t.InRange n) :
    ∃ cs, hexDigits cs = none ∧ t.denoted cs = some n := by
  have hdenoted : ∀ cs, (∀ c ∈ cs, c ≠ 'x' ∧ c ≠ 'X') → Numerals.signed 10 cs = some n →
      ∃ cs, hexDigits cs = none ∧ t.denoted cs = some n := by
    intro cs hcs hsigned
    refine ⟨cs, hexDigits_eq_none hcs, ?_⟩
    unfold denoted
    rw [hexDigits_eq_none hcs, hsigned]
    simp [Option.filter, h]
  have hdigits : ∀ m, Numerals.unsigned 10 (Numerals.format 10 1 m).toList = some m :=
    fun m => Numerals.unsigned_format (by decide) (by decide) (by decide) m
  by_cases hneg : n < 0
  · apply hdenoted ('-' :: (Numerals.format 10 1 n.natAbs).toList)
    · intro c hc
      rcases List.mem_cons.mp hc with rfl | hc
      · decide
      · exact ⟨(mem_format_decimal hc).1, (mem_format_decimal hc).2.1⟩
    · have hsigned : Numerals.signed 10 ('-' :: (Numerals.format 10 1 n.natAbs).toList) =
          (Numerals.unsigned 10 (Numerals.format 10 1 n.natAbs).toList).map
            (fun m : ℕ => -(m : ℤ)) := rfl
      rw [hsigned, hdigits, Option.map_some, Option.some_inj]
      omega
  · apply hdenoted (Numerals.format 10 1 n.natAbs).toList
    · intro c hc
      exact ⟨(mem_format_decimal hc).1, (mem_format_decimal hc).2.1⟩
    · have hread := hdigits n.natAbs
      cases hcs : (Numerals.format 10 1 n.natAbs).toList with
      | nil =>
          rw [hcs] at hread
          cases hread
      | cons c cs =>
          have hc := mem_format_decimal (n := n.natAbs) (c := c) (by simp [hcs])
          rw [hcs] at hread
          rw [Numerals.signed_of_ne hc.2.2.1 hc.2.2.2, hread, Option.map_some, Option.some_inj]
          change (n.natAbs : ℤ) = n
          omega

/-- Every integer of a type has a text in hexadecimal digits, the ones of its bit pattern. -/
theorem exists_hexadecimal {t : IntegerType} {n : ℤ} (h : t.InRange n) :
    ∃ digits, t.denoted ('0' :: 'x' :: digits) = some n := by
  have hpattern : ∃ m : ℕ, m < 2 * t.half ∧ t.ofPattern m = n := by
    obtain ⟨hlow, hhigh⟩ := h
    unfold lower at hlow
    unfold upper at hhigh
    unfold ofPattern
    cases htype : t.signed with
    | true =>
        rw [htype, if_pos rfl] at hlow hhigh
        by_cases hneg : n < 0
        · refine ⟨(n + 2 * t.half).toNat, by omega, ?_⟩
          rw [if_pos ⟨rfl, by omega⟩]
          omega
        · refine ⟨n.toNat, by omega, ?_⟩
          rw [if_neg (by omega)]
          omega
    | false =>
        rw [htype, if_neg (by decide)] at hlow hhigh
        refine ⟨n.toNat, by omega, ?_⟩
        rw [if_neg (fun hfalse => absurd hfalse.1 (by decide))]
        omega
  obtain ⟨m, hm, rfl⟩ := hpattern
  refine ⟨(Numerals.format 16 1 m).toList, ?_⟩
  have hdenoted : t.denoted ('0' :: 'x' :: (Numerals.format 16 1 m).toList) =
      ((Numerals.unsigned 16 (Numerals.format 16 1 m).toList).filter (· < 2 ^ t.bits)).map
        t.ofPattern := rfl
  rw [hdenoted, Numerals.unsigned_format (by decide) (by decide) (by decide), two_pow_bits]
  simp [Option.filter, hm]

end IntegerType

/-- The text is read as the value that it denotes for a data type, and is an error if it denotes
none. -/
def ReadExactly (p : TextParsers) (t : IntegerType) (text typeId : String) : Prop :=
  (∀ value, mapDataToValue p text (some typeId) = .ok (some value) ↔
    ∃ n, t.denoted (trim text).toList = some n ∧ value = t.toValue n) ∧
  (t.denoted (trim text).toList = none →
    ∃ e, mapDataToValue p text (some typeId) = .error e)

/-- An integer text is read exactly if it has no sign behind `0x`, no bit pattern of a negative
number, and, for an unsigned type, is not `-0`. -/
theorem readExactly_iff (p : TextParsers) (t : IntegerType) (text typeId : String)
    (htype : getStandardTypeFromHex typeId = some t.typeName) :
    ReadExactly p t text typeId ↔ ¬t.Misread (trim text).toList := by
  have hmap : mapDataToValue p text (some typeId) =
      (orInvalid "defaultValue or actualValue (numeric)" (t.read (trim text).toList)).map
        (fun n => some (t.toValue n)) := by
    have hparse := IntegerType.parseNum_eq t.fromStrRadix text
    unfold mapDataToValue
    simp only [htype]
    rw [IntegerType.mapTextToValue_eq, hparse]
    rfl
  unfold ReadExactly
  rw [hmap]
  constructor
  · rintro ⟨hvalue, herror⟩ hmisread
    rcases t.compared (trim text).toList with ⟨hnot, -⟩ | ⟨-, hdiffer⟩
    · exact hnot hmisread
    · cases hread : t.read (trim text).toList with
      | none =>
          cases hdenoted : t.denoted (trim text).toList with
          | none =>
              rw [hread, hdenoted] at hdiffer
              exact hdiffer rfl
          | some n =>
              have hok := (hvalue (t.toValue n)).mpr ⟨n, hdenoted, rfl⟩
              rw [hread] at hok
              cases hok
      | some n =>
          cases hdenoted : t.denoted (trim text).toList with
          | none =>
              obtain ⟨e, he⟩ := herror hdenoted
              rw [hread] at he
              cases he
          | some m =>
              rw [hread, hdenoted] at hdiffer
              exact hdiffer rfl
  · intro hnot
    have hread : t.read (trim text).toList = t.denoted (trim text).toList := by
      rcases t.compared (trim text).toList with ⟨-, hread⟩ | ⟨hmisread, -⟩
      · exact hread
      · exact absurd hmisread hnot
    rw [hread]
    cases t.denoted (trim text).toList with
    | none =>
        refine ⟨?_, fun _ => ⟨_, rfl⟩⟩
        intro value
        constructor
        · intro h
          cases h
        · rintro ⟨n, hn, -⟩
          cases hn
    | some n =>
        refine ⟨?_, fun h => absurd h (by simp)⟩
        intro value
        constructor
        · intro h
          exact ⟨n, rfl, (Option.some.inj (Except.ok.inj h)).symm⟩
        · rintro ⟨m, hm, rfl⟩
          rw [Option.some.inj hm]
          rfl

theorem readExactly_minus_five : ReadExactly integersOnly .i8 " -5 " "0002" := by
  apply (readExactly_iff integersOnly .i8 " -5 " "0002" (by decide +kernel)).mpr
  have htext : (trim " -5 ").toList = ['-', '5'] := by decide +kernel
  rw [htext]
  rintro ⟨hunsigned, -⟩
  cases hunsigned

/-- The bit pattern of `-1` is an error, and a sign behind the prefix is read. -/
theorem hexadecimal_texts_are_misread :
    ¬ReadExactly integersOnly .i8 "0xFF" "0002" ∧ ¬ReadExactly integersOnly .i8 "0x-5" "0002" := by
  constructor
  · intro h
    have hok := (h.1 (.integer8 (-1))).mpr ⟨-1, by decide +kernel, rfl⟩
    exact absurd hok (by decide +kernel)
  · intro h
    obtain ⟨e, he⟩ := h.2 (by decide +kernel)
    have hok : mapDataToValue integersOnly "0x-5" (some "0002") =
        .ok (some (.integer8 (-5))) := by decide +kernel
    rw [hok] at he
    cases he

end PowerlinkXdc.Converter
