import SheetWire.Number.Digits
import SheetWire.Number.Shortest

/-!
# Writing floating point numbers

A `FloatLayout` holds the decisions of one way to write floating point numbers: for which sizes the
point stands among the digits, how an exponent is marked, whether whole numbers keep a `.0`, and
the words for what is no finite number. The digits themselves are always the shortest that read
back.
-/

namespace SheetWire.Number

/-- One way to write floating point numbers. Between the exponents `least` and `greatest` of the
leading digit the number is written out; with no bounds every number is. -/
structure FloatLayout where
  bounds : Option (Int × Int)
  wholeMark : String
  exponentPlus : String
  tie : Tie
  nan : String
  infinite : String
  negativeInfinite : String

/-- The digits of a number around its point: `text` are its significant digits and `last` is the
exponent of the last of them. -/
def FloatLayout.positional (layout : FloatLayout) (text : List Char) (last : Int) : List Char :=
  if 0 ≤ last then text ++ List.replicate last.toNat '0' ++ layout.wholeMark.toList
  else
    let places := (-last).toNat
    if places < text.length then
      text.take (text.length - places) ++ '.' :: text.drop (text.length - places)
    else '0' :: '.' :: (List.replicate (places - text.length) '0' ++ text)

/-- The digits of a number with its point after the first one, and the exponent of that digit. -/
def FloatLayout.exponential (layout : FloatLayout) (text : List Char) (lead : Int) : List Char :=
  let mantissa := match text with
    | [] => []
    | [d] => [d]
    | d :: rest => d :: '.' :: rest
  let mark := if lead < 0 then [] else layout.exponentPlus.toList
  mantissa ++ 'e' :: (mark ++ decimal lead)

/-- The text of a positive number or zero. -/
def FloatLayout.magnitude (layout : FloatLayout) (fmt : BinaryFormat) (m : Nat) (e : Int) :
    List Char :=
  if m = 0 then '0' :: layout.wholeMark.toList
  else
    let (coefficient, last) := fmt.shortest layout.tie m e
    let text := digits coefficient
    let lead := last + text.length - 1
    match layout.bounds with
    | none => layout.positional text last
    | some (least, greatest) =>
        if least ≤ lead ∧ lead ≤ greatest then layout.positional text last
        else layout.exponential text lead

/-- The text of a number. -/
def FloatLayout.write (layout : FloatLayout) (fmt : BinaryFormat) : Binary → String
  | .nan => layout.nan
  | .infinite negative => if negative then layout.negativeInfinite else layout.infinite
  | .finite negative m e =>
      let text := layout.magnitude fmt m e
      String.ofList (if negative then '-' :: text else text)

/-- The display of a value: written out from `1e-4` up to below `1e16`. -/
def displayLayout : FloatLayout :=
  ⟨some (-4, 15), ".0", "", .up, "NaN", "inf", "-inf"⟩

/-- The text of a number in a cell: always written out, whole numbers without a point. -/
def cellLayout : FloatLayout :=
  ⟨none, "", "", .up, "NaN", "inf", "-inf"⟩

/-- A number of 32 bits in JSON, which has no word for anything that is not finite. -/
def jsonSingleLayout : FloatLayout :=
  ⟨some (-6, 12), ".0", "+", .toEven, "null", "null", "null"⟩

/-- A number of 64 bits in JSON. -/
def jsonDoubleLayout : FloatLayout :=
  ⟨some (-5, 15), ".0", "+", .toEven, "null", "null", "null"⟩

end SheetWire.Number
