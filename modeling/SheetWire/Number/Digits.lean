import SheetWire.Text.Word

/-!
# Whole numbers as text

Whole numbers are written in decimal without leading zeros, with a minus sign where they are
negative. They are read from an optional sign and at least one digit; leading zeros are allowed
when reading. A reader for a fixed width refuses what does not fit.
-/

namespace SheetWire.Number

open Text

/-- The decimal digits of a natural number. -/
def digits (n : Nat) : List Char :=
  Nat.toDigits 10 n

/-- A whole number in decimal. -/
def decimal (v : Int) : List Char :=
  if v < 0 then '-' :: digits v.natAbs else digits v.natAbs

/-- A whole number in decimal as a string. -/
def decimalString (v : Int) : String :=
  String.ofList (decimal v)

/-- The number that a non-empty run of digits stands for. -/
def readDigits? (text : List Char) : Option Nat :=
  if text ≠ [] ∧ text.all isDigit then some (Nat.ofDigitChars 10 text 0) else none

/-- The number that an optional sign and a run of digits stand for. -/
def readInt? : List Char → Option Int
  | '-' :: rest => (readDigits? rest).map fun n => -(n : Int)
  | '+' :: rest => (readDigits? rest).map fun n => (n : Int)
  | text => (readDigits? text).map fun n => (n : Int)

/-- A number of 32 bits with sign. -/
def readInt32? (text : List Char) : Option Int32 :=
  (readInt? text).bind fun v =>
    if Int32.minValue.toInt ≤ v ∧ v ≤ Int32.maxValue.toInt then some (Int32.ofInt v) else none

/-- A number of 64 bits with sign. -/
def readInt64? (text : List Char) : Option Int64 :=
  (readInt? text).bind fun v =>
    if Int64.minValue.toInt ≤ v ∧ v ≤ Int64.maxValue.toInt then some (Int64.ofInt v) else none

/-- Writing a natural number and reading it back. -/
theorem read_digits_digits (n : Nat) : readDigits? (digits n) = some n := by
  have hall : (digits n).all isDigit := by
    rw [List.all_eq_true]
    intro c hc
    have h := Nat.isDigit_of_mem_toDigits (by decide) (by decide) hc
    simpa [isDigit, Char.isDigit, Char.le_def] using h
  rw [readDigits?, if_pos ⟨Nat.toDigits_ne_nil, hall⟩, digits,
    Nat.ofDigitChars_toDigits (by decide) (by decide)]

end SheetWire.Number
