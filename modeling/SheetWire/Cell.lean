import SheetWire.Number.Layout

/-!
# Cells

What a spreadsheet hands over for one cell, and the text that the cell contributes to its row.
-/

namespace SheetWire

open Number

/-- A date with its time of day. -/
structure DateTime where
  year : Int
  month : Nat
  day : Nat
  hour : Nat
  minute : Nat
  second : Nat
  deriving DecidableEq, Repr

namespace DateTime

/-- A number in decimal with zeros in front of it up to a width. -/
def padded (width n : Nat) : List Char :=
  List.replicate (width - (digits n).length) '0' ++ digits n

/-- A year: at least four digits, with a sign where it is negative or has more of them. -/
def yearText (year : Int) : List Char :=
  if year < 0 then '-' :: padded 4 year.natAbs
  else if 9999 < year then '+' :: padded 4 year.natAbs
  else padded 4 year.natAbs

/-- The date and the time of day, as `2024-01-31 08:30:00`. -/
def text (date : DateTime) : List Char :=
  yearText date.year ++ '-' :: padded 2 date.month ++ '-' :: padded 2 date.day ++
    ' ' :: padded 2 date.hour ++ ':' :: padded 2 date.minute ++ ':' :: padded 2 date.second

/-- A date is written with some characters. -/
theorem text_ne_nil (date : DateTime) : date.text ≠ [] := by
  unfold text
  simp

end DateTime

/-- How a date is written in a cell. -/
class DateFormat where
  text : DateTime → List Char
  text_ne_nil : ∀ date, text date ≠ []

/-- Dates are written as `2024-01-31 08:30:00`. -/
instance : DateFormat where
  text := DateTime.text
  text_ne_nil := DateTime.text_ne_nil

/-- The value of one cell. -/
inductive Cell where
  | empty
  | text (value : String)
  | integer (value : Int64)
  | float (value : Binary)
  | bool (value : Bool)
  | date (value : DateTime)
  deriving DecidableEq, Repr

namespace Cell

/-- Whether the cell holds nothing. An empty text is nothing too. -/
def isEmpty : Cell → Bool
  | .empty => true
  | .text value => value == ""
  | _ => false

/-- The text that the cell contributes, before anything in it is escaped. -/
def toText [DateFormat] : Cell → String
  | .empty => ""
  | .text value => value
  | .integer value => decimalString value.toInt
  | .float value => cellLayout.write Number.double value
  | .bool value => if value then "true" else "false"
  | .date value => String.ofList (DateFormat.text value)

end Cell

end SheetWire
