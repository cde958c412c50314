import SheetWire.Number.Digits
import SheetWire.Text.Parts
import SheetWire.Text.Sentinel

/-!
# Writing a row slot by slot

A `Writer` holds the slots written so far; the row is their texts with commas between them. A slot
is written as it is, so a comma that stands in it becomes a separator of the row. `Writer.string`
escapes its text first, which leaves only commas that the author did not mark.
-/

namespace SheetWire

open Text Number

/-- The slots written so far, in order. -/
structure Writer where
  slots : List (List Char) := []
  deriving DecidableEq, Repr

namespace Writer

/-- The row written so far. -/
def row (w : Writer) : List Char :=
  [','].intercalate w.slots

/-- The number of slots written so far. -/
def size (w : Writer) : Nat :=
  w.slots.length

/-- One more slot, as it is. -/
def raw (w : Writer) (text : List Char) : Writer :=
  ⟨w.slots ++ [text]⟩

/-- One more slot with an escaped text. -/
def string (w : Writer) (text : String) : Writer :=
  w.raw (escape text.toList)

/-- One more slot with the number of elements of a collection. -/
def count (w : Writer) (n : Nat) : Writer :=
  w.raw (digits n)

/-- One more slot with a whole number. -/
def int (w : Writer) (value : Int64) : Writer :=
  w.raw (decimal value.toInt)

/-- One more slot with a truth value. -/
def bool (w : Writer) (value : Bool) : Writer :=
  w.raw (if value then "true" else "false").toList

end Writer

end SheetWire
