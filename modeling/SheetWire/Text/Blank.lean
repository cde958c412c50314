import SheetWire.Text.Ranges

/-!
# White space

The blanks that are trimmed from both ends of a slot before a number is read from it.
-/

namespace SheetWire.Text

/-- The characters that count as white space. -/
def blankRanges : Ranges :=
  [(0x9, 0xD), (0x20, 0x20), (0x85, 0x85), (0xA0, 0xA0), (0x1680, 0x1680), (0x2000, 0x200A),
    (0x2028, 0x2029), (0x202F, 0x202F), (0x205F, 0x205F), (0x3000, 0x3000)]

/-- Whether a character is white space. -/
def isBlank (c : Char) : Bool :=
  blankRanges.covers c.toNat

/-- A text without its trailing characters that satisfy `p`. -/
def dropRightWhile (p : Char → Bool) (text : List Char) : List Char :=
  (text.reverse.dropWhile p).reverse

/-- A text without the blanks at its ends. -/
def trim (text : List Char) : List Char :=
  dropRightWhile isBlank (text.dropWhile isBlank)

end SheetWire.Text
