import SheetWire.Json.Basic
import SheetWire.Number.Scientific

/-!
# Numbers in JSON text

A number without fraction and exponent is a whole number if it fits 64 bits, with or without sign;
every other number is a double. A double is computed from at most the leading digits that fit 64
bits by one multiplication or division with a power of ten, so it may differ from the nearest double
in its last bit. A number beyond the greatest double is read as an infinity.
-/

namespace SheetWire.Json

open Text Number

/-- The digits taken into a significand of 64 bits, as long as it fits: the significand and the
digits that are left. -/
def absorb (significand : Nat) : List Char → Nat × List Char
  | [] => (significand, [])
  | d :: rest =>
      let next := significand * 10 + (d.toNat - '0'.toNat)
      if next < UInt64.size then absorb next rest else (significand, d :: rest)

/-- The double nearest to a power of ten. -/
def powerOfTen (n : Nat) : Binary :=
  Number.double.round false (Nat.pow 10 n) 1

/-- The double `f * 10 ^ exponent`, rounded at each step. A large negative exponent is reached in
steps of 308, and after `steps` of them nothing is left of any significand. -/
def scaleDouble : Nat → Binary → Int → Binary
  | 0, f, _ => f
  | steps + 1, f, exponent =>
      if exponent.natAbs ≤ 308 then
        if 0 ≤ exponent then Number.double.mul f (powerOfTen exponent.natAbs)
        else Number.double.div f (powerOfTen exponent.natAbs)
      else if f.sameNumber (.finite false 0 0) then f
      else if 0 ≤ exponent then .infinite false
      else scaleDouble steps (Number.double.div f (powerOfTen 308)) (exponent + 308)

/-- The double with the given sign, leading digits and decimal exponent. -/
def doubleOfParts (negative : Bool) (significand : Nat) (exponent : Int) : Json τ :=
  let f := scaleDouble 4 (Number.double.ofNat significand) exponent
  .double (if negative then f.negate else f)

/-- The digits of an exponent and its sign, and the text after it. -/
def exponentDigits? (text : List Char) : Option (Bool × Nat × List Char) :=
  let (negative, text) := match text with
    | '+' :: rest => (false, rest)
    | '-' :: rest => (true, rest)
    | text => (false, text)
  let (run, rest) := text.span isDigit
  (readDigits? run).map fun n => (negative, n, rest)

/-- The greatest decimal exponent that is computed with. Beyond it a number is zero or too large. -/
def exponentLimit : Nat :=
  2147483647

/-- The double that ends in the exponent at the start of the text, if there is one. -/
def withExponent (negative : Bool) (significand : Nat) (exponent : Int) :
    List Char → Option (Json τ × List Char)
  | [] => some (doubleOfParts negative significand exponent, [])
  | c :: text =>
      if c = 'e' ∨ c = 'E' then do
        let (downward, n, rest) ← exponentDigits? text
        if exponentLimit < n then
          if significand ≠ 0 ∧ ¬downward then pure (.double (.infinite negative), rest)
          else pure (.double (.finite negative 0 Number.double.minExponent), rest)
        else
          pure (doubleOfParts negative significand
            (if downward then exponent - n else exponent + n), rest)
      else some (doubleOfParts negative significand exponent, c :: text)

/-- The number that starts with the given digits before its point. -/
def withWhole (negative : Bool) (whole : List Char) (text : List Char) :
    Option (Json τ × List Char) :=
  let (significand, left) := absorb 0 whole
  match text with
  | '.' :: rest =>
      let (fraction, rest) := rest.span isDigit
      let (longer, unused) := absorb significand fraction
      if fraction = [] then none
      else withExponent negative longer
        (left.length - (fraction.length - unused.length : Nat)) rest
  | text =>
      if left = [] ∧ text.head? ≠ some 'e' ∧ text.head? ≠ some 'E' then
        if negative then
          if significand = 0 then some (.double (.finite true 0 Number.double.minExponent), text)
          else if Int64.minValue.toInt ≤ -(significand : Int) then
            some (.integer (-(significand : Int)), text)
          else some (.double (Number.double.ofNat significand).negate, text)
        else some (.integer significand, text)
      else withExponent negative significand left.length text

/-- The unsigned number at the start of a text and the text after it. A leading zero stands
alone. -/
def unsignedNumeral? (negative : Bool) (text : List Char) : Option (Json τ × List Char) :=
  let (whole, rest) := text.span isDigit
  if whole = [] ∨ (whole.head? = some '0' ∧ 1 < whole.length) then none
  else withWhole negative whole rest

/-- The number at the start of a text and the text after it. -/
def numeral? : List Char → Option (Json τ × List Char)
  | '-' :: rest => unsignedNumeral? true rest
  | text => unsignedNumeral? false text

end SheetWire.Json
