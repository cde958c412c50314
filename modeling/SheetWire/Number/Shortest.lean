import SheetWire.Number.Binary

/-!
# The shortest decimal that reads back

A positive number `m * 2 ^ e` of a format owns the interval of reals that round to it. Of the
decimals in that interval the shortest one is chosen, among the shortest the nearest to the number,
and a tie as the caller asks. The two neighbours of the number on the grid of multiples of `10 ^ j`
are tested for falling `j`; if any point of a grid lies in the interval, so does one of the two.
-/

namespace SheetWire.Number

/-- Which of two equally near decimals is taken. -/
inductive Tie where
  | toEven
  | up

/-- The scaled interval of a number on a grid: the number lies at `value / unit` grid steps, and
the reals that round to it reach from `low / unit` to `high / unit`. -/
structure GridInterval where
  low : Nat
  value : Nat
  high : Nat
  unit : Nat

/-- The interval of `m * 2 ^ e` measured in steps of `10 ^ j`. Below a power of two the next number
is only half as far away. -/
def BinaryFormat.interval (fmt : BinaryFormat) (m : Nat) (e j : Int) : GridInterval :=
  let scale := Nat.pow 10 (-j).toNat <<< (e - 2).toNat
  let below := if m = 1 <<< (fmt.precision - 1) ∧ fmt.minExponent < e then 1 else 2
  ⟨(4 * m - below) * scale, 4 * m * scale, (4 * m + 2) * scale,
    Nat.pow 10 j.toNat <<< (2 - e).toNat⟩

/-- The grid point next to the number that lies in its interval, if there is one. The ends of the
interval belong to it when the significand is even. -/
def GridInterval.hit? (tie : Tie) (closed : Bool) (i : GridInterval) : Option Nat :=
  let c := i.value / i.unit
  let down := c * i.unit
  let up := (c + 1) * i.unit
  let inLow := if closed then i.low ≤ down else i.low < down
  let inHigh := if closed then up ≤ i.high else up < i.high
  if inLow && inHigh then
    let fall := i.value - down
    let rise := up - i.value
    if fall < rise then some c
    else if rise < fall then some (c + 1)
    else match tie with
      | .up => some (c + 1)
      | .toEven => some (if c % 2 = 0 then c else c + 1)
  else if inLow then some c
  else if inHigh then some (c + 1)
  else none

/-- The first hit on the grids `10 ^ j`, `10 ^ (j - 1)`, …: its digits and its grid. -/
def BinaryFormat.searchShortest (fmt : BinaryFormat) (tie : Tie) (m : Nat) (e : Int) :
    Nat → Int → Nat × Int
  | 0, j => (0, j)
  | fuel + 1, j =>
      match (fmt.interval m e j).hit? tie (m % 2 = 0) with
      | some c => (c, j)
      | none => searchShortest fmt tie m e fuel (j - 1)

/-- The shortest decimal of a positive number: its digits as one whole number, and the exponent of
the last digit. The search starts above the first digit, since `2 ^ b` has about `0.30103 * b`
digits, and ends within the digits that any number of the format needs. -/
def BinaryFormat.shortest (fmt : BinaryFormat) (tie : Tie) (m : Nat) (e : Int) : Nat × Int :=
  let bits : Int := m.log2 + e + 1
  fmt.searchShortest tie m e (fmt.precision + 4) (bits * 30103 / 100000 + 2)

end SheetWire.Number
