import Mathlib.Data.Nat.Digits.Lemmas

/-! # Numerals

Numbers as text, in a radix of at most 36: `format` writes a number with upper-case digits, padded
with zeros to a width, and `parse` reads one with an optional plus sign, digits of either case
and a bound that the value must stay below.

`parse_format` is the round trip: what was written in at least one digit is read back, if it is
below the bound.  `unsigned` and `signed` are what the digits of a text denote, without a bound and
with an optional sign. -/

namespace Numerals

/-! ### Digits -/

/-- The upper-case character of a digit. -/
def digitChar (d : ℕ) : Char := Char.ofNat (if d < 10 then 48 + d else 55 + d)

/-- The value of a character in a radix, digits above nine in either case. -/
def digitValue (radix : ℕ) (c : Char) : Option ℕ :=
  let value := if '0' ≤ c ∧ c ≤ '9' then some (c.toNat - 48)
    else if 'A' ≤ c ∧ c ≤ 'Z' then some (c.toNat - 55)
    else if 'a' ≤ c ∧ c ≤ 'z' then some (c.toNat - 87)
    else none
  value.filter (· < radix)

theorem digitValue_digitChar {radix d : ℕ} (hradix : radix ≤ 36) (hd : d < radix) :
    digitValue radix (digitChar d) = some d := by
  have key : ∀ d : Fin 36, (if '0' ≤ digitChar d ∧ digitChar d ≤ '9' then
        some ((digitChar d).toNat - 48)
      else if 'A' ≤ digitChar d ∧ digitChar d ≤ 'Z' then some ((digitChar d).toNat - 55)
      else if 'a' ≤ digitChar d ∧ digitChar d ≤ 'z' then some ((digitChar d).toNat - 87)
      else none) = some d.val := by
    decide
  have hvalue := key ⟨d, hd.trans_le hradix⟩
  dsimp only at hvalue
  simp only [digitValue, hvalue, Option.filter_some, hd, decide_true, if_true]

theorem digitChar_ne_plus {d : ℕ} (hd : d < 36) : digitChar d ≠ '+' := by
  have key : ∀ d : Fin 36, digitChar d ≠ '+' := by decide
  exact key ⟨d, hd⟩

/-! ### Reading -/

/-- Reads digits after a number already read. -/
def readDigits (radix : ℕ) : ℕ → List Char → Option ℕ
  | acc, [] => some acc
  | acc, c :: cs =>
      match digitValue radix c with
      | some d => readDigits radix (acc * radix + d) cs
      | none => none

/-- Reads a numeral below a bound. -/
def parse (radix bound : ℕ) (s : String) : Option ℕ :=
  let digits := match s.toList with
    | [] => none
    | ['+'] => none
    | '+' :: cs => readDigits radix 0 cs
    | cs => readDigits radix 0 cs
  digits.filter (· < bound)

theorem readDigits_map {radix : ℕ} (hradix : radix ≤ 36) :
    ∀ (ds : List ℕ) (acc : ℕ), (∀ d ∈ ds, d < radix) →
      readDigits radix acc (ds.map digitChar) = some (ds.foldl (fun n d => n * radix + d) acc)
  | [], acc, _ => rfl
  | d :: ds, acc, hds => by
      have hd := digitValue_digitChar hradix (hds d List.mem_cons_self)
      have hrest : ∀ d ∈ ds, d < radix := fun d hd => hds d (List.mem_cons_of_mem _ hd)
      simp only [List.map_cons, readDigits, hd, List.foldl_cons]
      exact readDigits_map hradix ds (acc * radix + d) hrest

/-! ### Writing -/

/-- The digits of a number, padded with zeros, the most significant first. -/
def paddedDigits (radix width n : ℕ) : List ℕ := (Nat.digits radix n).reverse.leftpad width 0

/-- Writes a number in at least `width` digits. -/
def format (radix width n : ℕ) : String :=
  String.ofList ((paddedDigits radix width n).map digitChar)

theorem foldl_reverse_eq_ofDigits (radix : ℕ) (ds : List ℕ) :
    ds.reverse.foldl (fun n d => n * radix + d) 0 = Nat.ofDigits radix ds := by
  rw [List.foldl_reverse, Nat.ofDigits_eq_foldr]
  congr 1
  funext d n
  simp only [Nat.cast_id]
  ring

theorem foldl_paddedDigits (radix width n : ℕ) :
    (paddedDigits radix width n).foldl (fun n d => n * radix + d) 0 = n := by
  have hpad : paddedDigits radix width n =
      (Nat.digits radix n ++
        List.replicate (width - (Nat.digits radix n).length) 0).reverse := by
    simp only [paddedDigits, List.leftpad, List.reverse_append, List.reverse_replicate,
      List.length_reverse]
  rw [hpad, foldl_reverse_eq_ofDigits, Nat.ofDigits_append_replicate_zero, Nat.ofDigits_digits]

theorem paddedDigits_lt {radix : ℕ} (hradix : 2 ≤ radix) (width n : ℕ) :
    ∀ d ∈ paddedDigits radix width n, d < radix := by
  intro d hd
  simp only [paddedDigits, List.leftpad, List.mem_append, List.mem_replicate,
    List.mem_reverse] at hd
  rcases hd with ⟨-, rfl⟩ | hd
  · omega
  · exact Nat.digits_lt_base hradix hd

theorem paddedDigits_ne_nil (radix n : ℕ) {width : ℕ} (hwidth : 0 < width) :
    paddedDigits radix width n ≠ [] := by
  intro hnil
  have hlen := congrArg List.length hnil
  simp only [paddedDigits, List.length_leftpad, List.length_nil] at hlen
  omega

/-- A number that is written in at least one digit is read back. -/
theorem parse_format {radix width n bound : ℕ} (hradix : 2 ≤ radix) (hradix' : radix ≤ 36)
    (hwidth : 0 < width) (hn : n < bound) :
    parse radix bound (format radix width n) = some n := by
  have hlt := paddedDigits_lt hradix width n
  have hread := readDigits_map hradix' (paddedDigits radix width n) 0 hlt
  rw [foldl_paddedDigits] at hread
  rw [parse, format, String.toList_ofList]
  cases hds : paddedDigits radix width n with
  | nil => exact absurd hds (paddedDigits_ne_nil radix n hwidth)
  | cons d ds =>
      have hplus : digitChar d ≠ '+' :=
        digitChar_ne_plus ((hlt d (by rw [hds]; exact List.mem_cons_self)).trans_le hradix')
      rw [hds] at hread
      simp only [List.map_cons] at hread ⊢
      split
      · rename_i hnil
        cases hnil
      · rename_i hcons
        exact absurd (List.cons.inj hcons).1 hplus
      · rename_i hcons
        exact absurd (List.cons.inj hcons).1 hplus
      · rw [hread]
        simp [hn]

/-! ### Signs -/

/-- The number that digits denote, at least one of them. -/
def unsigned (radix : ℕ) : List Char → Option ℕ
  | [] => none
  | c :: cs => readDigits radix 0 (c :: cs)

/-- The number that digits denote behind an optional sign. -/
def signed (radix : ℕ) : List Char → Option ℤ
  | '-' :: cs => (unsigned radix cs).map (fun m : ℕ => -(m : ℤ))
  | '+' :: cs => (unsigned radix cs).map Int.ofNat
  | cs => (unsigned radix cs).map Int.ofNat

theorem digitValue_minus (radix : ℕ) : digitValue radix '-' = none := by
  have hnone : digitValue radix '-' = (none : Option ℕ).filter (· < radix) := rfl
  rw [hnone, Option.filter_none]

theorem digitValue_plus (radix : ℕ) : digitValue radix '+' = none := by
  have hnone : digitValue radix '+' = (none : Option ℕ).filter (· < radix) := rfl
  rw [hnone, Option.filter_none]

theorem unsigned_minus (radix : ℕ) (cs : List Char) : unsigned radix ('-' :: cs) = none := by
  simp only [unsigned, readDigits, digitValue_minus]

theorem unsigned_plus (radix : ℕ) (cs : List Char) : unsigned radix ('+' :: cs) = none := by
  simp only [unsigned, readDigits, digitValue_plus]

/-- A numeral below a bound is what its digits denote, behind an optional plus sign. -/
theorem parse_ofList (radix bound : ℕ) (cs : List Char) :
    parse radix bound (String.ofList cs) =
      (match cs with
        | '+' :: cs => unsigned radix cs
        | cs => unsigned radix cs).filter (· < bound) := by
  unfold parse
  rw [String.toList_ofList]
  rcases cs with _ | ⟨c, cs⟩
  · rfl
  · by_cases hplus : c = '+'
    · subst hplus
      cases cs <;> rfl
    · cases cs <;> simp [hplus, unsigned]

theorem parse_minus (radix bound : ℕ) (cs : List Char) :
    parse radix bound (String.ofList ('-' :: cs)) = none := by
  rw [parse_ofList]
  change (unsigned radix ('-' :: cs)).filter (· < bound) = none
  rw [unsigned_minus, Option.filter_none]

/-- Without a sign the digits alone count. -/
theorem signed_of_ne {radix : ℕ} {c : Char} {cs : List Char} (hminus : c ≠ '-') (hplus : c ≠ '+') :
    signed radix (c :: cs) = (unsigned radix (c :: cs)).map Int.ofNat := by
  unfold signed
  split
  · exact absurd (List.cons.inj ‹_›).1 hminus
  · exact absurd (List.cons.inj ‹_›).1 hplus
  · rfl

/-- What was written is denoted. -/
theorem unsigned_format {radix width : ℕ} (hradix : 2 ≤ radix) (hradix' : radix ≤ 36)
    (hwidth : 0 < width) (n : ℕ) : unsigned radix (format radix width n).toList = some n := by
  have hread := readDigits_map hradix' (paddedDigits radix width n) 0
    (paddedDigits_lt hradix width n)
  rw [foldl_paddedDigits] at hread
  rw [format, String.toList_ofList]
  cases hds : paddedDigits radix width n with
  | nil => exact absurd hds (paddedDigits_ne_nil radix n hwidth)
  | cons d ds =>
      rw [hds] at hread
      exact hread

end Numerals
