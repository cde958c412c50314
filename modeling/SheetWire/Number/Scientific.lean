import SheetWire.Number.Binary
import SheetWire.Number.Digits

/-!
# Reading floating point numbers

A floating point number is written as an optional sign, digits with an optional point, and an
optional decimal exponent, or as one of the words for infinity and for no number at all. The value
of the text is an exact decimal; `BinaryFormat.ofDecimal` rounds it once, straight to the format.
-/

namespace SheetWire.Number

open Text

/-- The exact decimal `coefficient * 10 ^ exponent` with its sign. -/
structure Decimal where
  negative : Bool
  coefficient : Nat
  exponent : Int
  deriving DecidableEq, Repr

/-- The number of a format nearest to a decimal. A decimal with more than `k` digits before its
point exceeds `2 ^ (3 * k)`, so far outside the range of the format the powers need not be
computed. -/
def BinaryFormat.ofDecimal (fmt : BinaryFormat) (d : Decimal) : Binary :=
  let size : Int := (digits d.coefficient).length + d.exponent
  if d.coefficient = 0 then .finite d.negative 0 fmt.minExponent
  else if fmt.maxExponent + fmt.precision < 3 * (size - 1) then .infinite d.negative
  else if 3 * size < fmt.minExponent - 1 then .finite d.negative 0 fmt.minExponent
  else if 0 ≤ d.exponent then
    fmt.round d.negative (d.coefficient * Nat.pow 10 d.exponent.toNat) 1
  else fmt.round d.negative d.coefficient (Nat.pow 10 (-d.exponent).toNat)

/-- The exponent at the end of a number: nothing, or `e` and a whole number. -/
def readExponent? : List Char → Option Int
  | [] => some 0
  | c :: rest => if c = 'e' ∨ c = 'E' then readInt? rest else none

/-- The digits after the point of a number, if it has one, and what follows them. -/
def splitFraction : List Char → List Char × List Char
  | '.' :: rest => rest.span isDigit
  | rest => ([], rest)

/-- An unsigned decimal: digits before and after an optional point, at least one in all, and an
optional exponent. -/
def readUnsigned? (negative : Bool) (text : List Char) : Option Decimal := do
  let (whole, rest) := text.span isDigit
  let (fraction, rest) := splitFraction rest
  let exponent ← readExponent? rest
  let coefficient ← readDigits? (whole ++ fraction)
  pure ⟨negative, coefficient, exponent - fraction.length⟩

/-- A text in lower-case letters, for words that are read in any case. -/
def lowerLetters (text : List Char) : List Char :=
  text.map fun c => if isUpperLetter c then Char.ofNat (c.toNat + 32) else c

/-- An unsigned floating point number: a decimal, or a word for infinity or for no number. -/
def BinaryFormat.readUnsigned? (fmt : BinaryFormat) (negative : Bool) (text : List Char) :
    Option Binary :=
  let word := lowerLetters text
  if word = "inf".toList ∨ word = "infinity".toList then some (.infinite negative)
  else if word = "nan".toList then some .nan
  else (Number.readUnsigned? negative text).map fmt.ofDecimal

/-- A floating point number of a format. -/
def BinaryFormat.read? (fmt : BinaryFormat) : List Char → Option Binary
  | '-' :: rest => fmt.readUnsigned? true rest
  | '+' :: rest => fmt.readUnsigned? false rest
  | text => fmt.readUnsigned? false text

end SheetWire.Number
