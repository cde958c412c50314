import Mathlib
import SheetWire.Number.Digits
import SheetWire.Proofs.Text.Plain

/-!
# Reading decimals back

A whole number in decimal holds neither blanks nor commas, so it can stand in a slot, and it is read
back as the same number if it fits the width that it is read with.
-/

namespace SheetWire.Number

open Text

/-- The characters of a natural number in decimal are digits. -/
theorem is_digit_of_mem_digits {n : Nat} {c : Char} (h : c ∈ digits n) : isDigit c = true := by
  have hdigit := Nat.isDigit_of_mem_toDigits (by decide) (by decide) h
  simpa [isDigit, Char.isDigit, Char.le_def] using hdigit

/-- A natural number in decimal is a run of digits. -/
theorem all_is_digit_digits (n : Nat) : (digits n).all isDigit = true :=
  List.all_eq_true.mpr fun _ hc => is_digit_of_mem_digits hc

/-- A natural number in decimal is not empty. -/
theorem digits_ne_nil (n : Nat) : digits n ≠ [] :=
  Nat.toDigits_ne_nil

/-- The number that a natural number in decimal stands for. -/
theorem value_digits (n : Nat) : Nat.ofDigitChars 10 (digits n) 0 = n :=
  Nat.ofDigitChars_ten_toDigits

/-- The characters of a whole number in decimal are digits and the minus sign. -/
theorem mem_decimal {v : Int} {c : Char} (h : c ∈ decimal v) : c = '-' ∨ isDigit c = true := by
  unfold decimal at h
  split at h
  · rcases List.mem_cons.mp h with rfl | h
    · exact .inl rfl
    · exact .inr (is_digit_of_mem_digits h)
  · exact .inr (is_digit_of_mem_digits h)

/-- The code points of digits. -/
theorem toNat_of_is_digit {c : Char} (h : isDigit c = true) : 48 ≤ c.toNat ∧ c.toNat ≤ 57 := by
  unfold isDigit at h
  simp only [Bool.and_eq_true, decide_eq_true_eq, Char.le_def, UInt32.le_iff_toNat_le] at h
  exact h

/-- A digit is no blank. -/
theorem not_blank_of_digit {c : Char} (h : isDigit c = true) : isBlank c = false := by
  have hrange := toNat_of_is_digit h
  unfold isBlank blankRanges
  simp only [Ranges.covers]
  grind

/-- Trimming leaves a whole number in decimal as it is. -/
theorem trim_decimal (v : Int) : trim (decimal v) = decimal v := by
  refine trim_of_forall fun c hc => ?_
  rcases mem_decimal hc with rfl | hdigit
  · decide
  · exact not_blank_of_digit hdigit

/-- A whole number in decimal has no comma. -/
theorem comma_notMem_decimal (v : Int) : ',' ∉ decimal v := by
  intro hc
  rcases mem_decimal hc with h | h
  · exact absurd h (by decide)
  · exact absurd h (by decide)

/-- A natural number in decimal is written as the whole number. -/
theorem decimal_natCast (n : Nat) : decimal (n : Int) = digits n := by
  unfold decimal
  rw [if_neg (by omega), Int.natAbs_natCast]

/-- A run of digits is read as the number it stands for. -/
theorem read_int_of_digits {text : List Char} (hne : text ≠ []) (hall : text.all isDigit = true) :
    readInt? text = some (Nat.ofDigitChars 10 text 0 : Int) := by
  have hdigits : readDigits? text = some (Nat.ofDigitChars 10 text 0) := if_pos ⟨hne, hall⟩
  -- A digit is no sign, so the text is read as digits from its start.
  unfold readInt?
  split
  · exact absurd (List.all_eq_true.mp hall '-' List.mem_cons_self) (by decide)
  · exact absurd (List.all_eq_true.mp hall '+' List.mem_cons_self) (by decide)
  · rw [hdigits]
    rfl

/-- Writing a whole number and reading it back. -/
theorem read_int_decimal (v : Int) : readInt? (decimal v) = some v := by
  unfold decimal
  split
  · rename_i hneg
    unfold readInt?
    simp only [read_digits_digits]
    show some (-(v.natAbs : Int)) = some v
    rw [Option.some.injEq]
    omega
  · rename_i hpos
    rw [read_int_of_digits (digits_ne_nil _) (all_is_digit_digits _), value_digits,
      Option.some.injEq]
    omega

/-- Writing a number of 32 bits and reading it back. -/
theorem read_int32_decimal (v : Int32) : readInt32? (decimal v.toInt) = some v := by
  unfold readInt32?
  rw [read_int_decimal, Option.bind_some, if_pos ⟨v.minValue_le_toInt, v.toInt_le⟩,
    Int32.ofInt_toInt]

/-- Writing a number of 64 bits and reading it back. -/
theorem read_int64_decimal (v : Int64) : readInt64? (decimal v.toInt) = some v := by
  unfold readInt64?
  rw [read_int_decimal, Option.bind_some, if_pos ⟨v.minValue_le_toInt, v.toInt_le⟩,
    Int64.ofInt_toInt]

/-- A run of digits is read as a number of 64 bits if the number it stands for fits. -/
theorem read_int64_of_digits {text : List Char} {v : Int64} (hne : text ≠ [])
    (hall : text.all isDigit = true) :
    readInt64? text = some v ↔
      Nat.ofDigitChars 10 text 0 < 2 ^ 63 ∧ Int64.ofInt (Nat.ofDigitChars 10 text 0) = v := by
  unfold readInt64?
  rw [Int64.toInt_minValue, Int64.toInt_maxValue, read_int_of_digits hne hall, Option.bind_some]
  split
  · rename_i hfits
    rw [Option.some.injEq]
    exact ⟨fun h => ⟨by omega, h⟩, fun h => h.2⟩
  · rename_i hfits
    simp only [reduceCtorEq, false_iff, not_and]
    omega

/-- A natural number is read as a number of 64 bits if it fits. -/
theorem read_int64_digits {n : Nat} (h : n < 2 ^ 63) :
    readInt64? (digits n) = some (Int64.ofInt n) := by
  rw [read_int64_of_digits (digits_ne_nil n) (all_is_digit_digits n), value_digits]
  exact ⟨h, rfl⟩

/-- A natural number is not read as a number of 64 bits if it does not fit. -/
theorem read_int64_digits_of_le {n : Nat} (h : 2 ^ 63 ≤ n) : readInt64? (digits n) = none := by
  rw [Option.eq_none_iff_forall_ne_some]
  intro v hv
  rw [read_int64_of_digits (digits_ne_nil n) (all_is_digit_digits n), value_digits] at hv
  omega

/-- A run of digits without the zeros in front. A run of zeros is the digit `0`. -/
def withoutLeadingZeros (text : List Char) : List Char :=
  match text.dropWhile fun c => c == '0' with
  | [] => ['0']
  | c :: rest => c :: rest

/-- A digit is the digit of its number. -/
theorem digit_char_of_is_digit {c : Char} (h : isDigit c = true) :
    (c.toNat - '0'.toNat).digitChar = c ∧ c.toNat - '0'.toNat < 10 := by
  obtain ⟨hlow, hhigh⟩ := toNat_of_is_digit h
  have hzero : '0'.toNat = 48 := rfl
  have hlt : c.toNat - '0'.toNat < 10 := by omega
  refine ⟨Char.toNat_inj.mp ?_, hlt⟩
  rw [Nat.toNat_digitChar_of_lt_ten hlt]
  omega

/-- A run of digits that does not start with a zero is the decimal of its number. -/
theorem digits_of_digit_chars {c : Char} {rest : List Char} (hall : (c :: rest).all isDigit = true)
    (hc : c ≠ '0') :
    digits (Nat.ofDigitChars 10 (c :: rest) 0) = c :: rest ∧
      0 < Nat.ofDigitChars 10 (c :: rest) 0 := by
  -- The last digit is the remainder, and the digits before it are the quotient.
  induction rest using List.reverseRecOn with
  | nil =>
      obtain ⟨hchar, hlt⟩ := digit_char_of_is_digit (List.all_eq_true.mp hall c List.mem_cons_self)
      rw [Nat.ofDigitChars_cons, Nat.ofDigitChars_nil, Nat.mul_zero, Nat.zero_add]
      refine ⟨?_, Nat.pos_of_ne_zero fun hzero => hc ?_⟩
      · rw [digits, Nat.toDigits_of_lt_base hlt, hchar]
      · rw [← hchar, hzero]
        rfl
  | append_singleton init last ih =>
      rw [← List.cons_append, List.all_append, Bool.and_eq_true] at hall
      obtain ⟨hdigits, hpos⟩ := ih hall.1
      obtain ⟨hchar, hlt⟩ :=
        digit_char_of_is_digit (List.all_eq_true.mp hall.2 last List.mem_cons_self)
      rw [← List.cons_append, Nat.ofDigitChars_append, Nat.ofDigitChars_cons, Nat.ofDigitChars_nil]
      refine ⟨?_, by omega⟩
      rw [digits, ← Nat.toDigits_append_toDigits (by decide) hpos hlt, Nat.toDigits_of_lt_base hlt,
        hchar, ← digits, hdigits]

/-- Reading a run of digits and writing its number takes the zeros in front away. -/
theorem digits_without_leading_zeros {text : List Char} (hall : text.all isDigit = true) :
    digits (Nat.ofDigitChars 10 text 0) = withoutLeadingZeros text := by
  induction text with
  | nil => rfl
  | cons c rest ih =>
      by_cases hc : c = '0'
      · subst hc
        rw [Nat.ofDigitChars_cons, withoutLeadingZeros, List.dropWhile_cons_of_pos rfl]
        rw [List.all_cons, Bool.and_eq_true] at hall
        exact ih hall.2
      · rw [withoutLeadingZeros, List.dropWhile_cons_of_neg (by simpa using hc)]
        exact (digits_of_digit_chars hall hc).1

end SheetWire.Number
