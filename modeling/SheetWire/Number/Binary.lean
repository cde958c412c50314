/-!
# Binary floating point numbers

Numbers of a fixed binary precision, as exact values: a sign, a whole significand and the exponent
of its last bit. `BinaryFormat.round` takes a quotient of natural numbers to the nearest number of
the format, a tie to the even significand, and everything else is computed exactly before that one
rounding.
-/

namespace SheetWire.Number

/-- A binary format: the bits of a full significand, and the least and greatest exponent of its
last bit. -/
structure BinaryFormat where
  precision : Nat
  minExponent : Int
  maxExponent : Int

/-- The format of 32 bits. -/
def single : BinaryFormat :=
  ⟨24, -149, 104⟩

/-- The format of 64 bits. -/
def double : BinaryFormat :=
  ⟨53, -1074, 971⟩

/-- A binary floating point number. `finite negative m e` is `m * 2 ^ e` with its sign. -/
inductive Binary where
  | nan
  | infinite (negative : Bool)
  | finite (negative : Bool) (significand : Nat) (exponent : Int)
  deriving DecidableEq, Repr, Inhabited

/-- The number with the opposite sign. -/
def Binary.negate : Binary → Binary
  | .nan => .nan
  | .infinite negative => .infinite !negative
  | .finite negative m e => .finite (!negative) m e

/-- Whether a number is neither an infinity nor a `nan`. -/
def Binary.isFinite : Binary → Bool
  | .finite _ _ _ => true
  | _ => false

/-- Equality of numbers: zeros of both signs are equal and nothing equals a `nan`. The two numbers
are of one format, where a non-zero value has one form. -/
def Binary.sameNumber : Binary → Binary → Bool
  | .infinite a, .infinite b => a == b
  | .finite a m e, .finite b n k => (m == 0 && n == 0) || (a == b && m == n && e == k)
  | _, _ => false

/-- The numerator and denominator of `num / den * 2 ^ k`. -/
def shiftQuotient (num den : Nat) (k : Int) : Nat × Nat :=
  if 0 ≤ k then (num <<< k.toNat, den) else (num, den <<< (-k).toNat)

/-- The whole part of the binary logarithm of a positive quotient. -/
def log2Quotient (num den : Nat) : Int :=
  let guess : Int := (num.log2 : Int) - (den.log2 : Int)
  let (n, d) := shiftQuotient num den (-guess)
  if d ≤ n then guess else guess - 1

/-- The nearest whole number to a quotient, a tie going to the even one. -/
def roundHalfEven (num den : Nat) : Nat :=
  let q := num / den
  let r := num % den
  if den < 2 * r ∨ (den = 2 * r ∧ q % 2 = 1) then q + 1 else q

/-- The number of a format that is nearest to a quotient, a tie going to the even significand.
Beyond the greatest number lies an infinity. -/
def BinaryFormat.round (fmt : BinaryFormat) (negative : Bool) (num den : Nat) : Binary :=
  if num = 0 then .finite negative 0 fmt.minExponent
  else
    let exponent := max (log2Quotient num den - (fmt.precision - 1 : Nat)) fmt.minExponent
    let (n, d) := shiftQuotient num den (-exponent)
    let m := roundHalfEven n d
    let (m, exponent) :=
      if m = 1 <<< fmt.precision then (m / 2, exponent + 1) else (m, exponent)
    if fmt.maxExponent < exponent then .infinite negative else .finite negative m exponent

/-- The number of a format nearest to a natural number. -/
def BinaryFormat.ofNat (fmt : BinaryFormat) (n : Nat) : Binary :=
  fmt.round false n 1

/-- The rounded product of two finite numbers; anything else gives `nan`. -/
def BinaryFormat.mul (fmt : BinaryFormat) : Binary → Binary → Binary
  | .finite a m e, .finite b n k =>
      let (num, den) := shiftQuotient (m * n) 1 (e + k)
      fmt.round (a != b) num den
  | _, _ => .nan

/-- The rounded quotient of a finite number by a finite number other than zero; anything else gives
`nan`. -/
def BinaryFormat.div (fmt : BinaryFormat) : Binary → Binary → Binary
  | .finite a m e, .finite b n k =>
      if n = 0 then .nan
      else
        let (num, den) := shiftQuotient m n (e - k)
        fmt.round (a != b) num den
  | _, _ => .nan

end SheetWire.Number
