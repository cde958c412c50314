import SheetWire.Json.Printer
import SheetWire.Json.Reader
import SheetWire.Table

/-!
# Workbooks

A workbook is a JSON text with the raw tables of a conversion:
an object with the member `tables`, an array of sheets, each of them an object with the members
`name`, `header_names`, `header_defs` and, if it has any, `rows`. Both kinds of object may also be
written as the array of their members in that order. Other members do not count, and nothing is
asked of their values but that they are JSON.

The whole text is read before the first cell is looked at, so a text that is no workbook is reported
before a cell that is no scalar.
-/

namespace SheetWire.Workbook

open Json (CodePoints)
open Number

/-- A sheet as it was read, its cells still JSON values. -/
structure Sheet where
  name : String
  headerNames : List String
  headerDefinitions : List String
  rows : List (List (Json String))

/-- The levels of arrays and objects that a text may have around its innermost value. -/
def depthLimit : Nat :=
  127

/-- The levels of arrays and objects around a cell. -/
def depthOfCells : Nat :=
  5

/-- The text that a JSON string holds. -/
def text? : Json CodePoints → Option String
  | .string codes => Json.wellFormed? codes
  | _ => none

/-- The items of an array, each read by `read`. -/
def items? {α : Type} (read : Json CodePoints → Option α) : Json CodePoints → Option (List α)
  | .array items => items.mapM read
  | _ => none

/-- The JSON value of a cell, if it is not nested too deeply and no number in it is beyond the
greatest double. -/
def cell? (value : Json CodePoints) : Option (Json String) :=
  if value.depth + depthOfCells ≤ depthLimit ∧ value.isFinite then value.texts? Json.wellFormed?
  else none

/-- The members of an object with their names as texts. -/
def named? (members : List (CodePoints × Json CodePoints)) :
    Option (List (String × Json CodePoints)) :=
  members.mapM fun (name, value) => (Json.wellFormed? name).map fun name => (name, value)

/-- The member of a name: nothing is found if there is none, and it is an error to have two. -/
def member? (name : String) (members : List (String × Json CodePoints)) :
    Option (Option (Json CodePoints)) :=
  match members.filter fun member => member.1 == name with
  | [] => some none
  | [member] => some (some member.2)
  | _ => none

/-- The member of a name, which must be there, read by `read`. -/
def required? {α : Type} (name : String) (read : Json CodePoints → Option α)
    (members : List (String × Json CodePoints)) : Option α := do
  let found ← member? name members
  let value ← found
  read value

/-- The rows of a sheet as they are written. -/
def rows? : Json CodePoints → Option (List (List (Json String))) :=
  items? (items? cell?)

/-- A sheet with the given parts. A sheet without rows has none. -/
def sheetOfParts? (name names definitions : Json CodePoints) (rows : Option (Json CodePoints)) :
    Option Sheet := do
  let name ← text? name
  let names ← items? text? names
  let definitions ← items? text? definitions
  let rows ← match rows with
    | some rows => rows? rows
    | none => some []
  pure ⟨name, names, definitions, rows⟩

/-- A sheet. -/
def sheet? : Json CodePoints → Option Sheet
  | .object members => do
      let members ← named? members
      let name ← required? "name" some members
      let names ← required? "header_names" some members
      let definitions ← required? "header_defs" some members
      let rows ← member? "rows" members
      sheetOfParts? name names definitions rows
  | .array [name, names, definitions] => sheetOfParts? name names definitions none
  | .array [name, names, definitions, rows] => sheetOfParts? name names definitions (some rows)
  | _ => none

/-- The sheets of a workbook. -/
def sheets? : Json CodePoints → Option (List Sheet)
  | .object members => do
      let members ← named? members
      required? "tables" (items? sheet?) members
  | .array [tables] => items? sheet? tables
  | _ => none

/-- The cell that a JSON value stands for. Whole numbers that do not fit 64 bits with sign are
floating point numbers. -/
def cell (table : String) (value : Json String) : Except Error Cell :=
  match value with
  | .null => pure .empty
  | .bool value => pure (.bool value)
  | .integer value =>
      if Int64.minValue.toInt ≤ value ∧ value ≤ Int64.maxValue.toInt then
        pure (.integer (Int64.ofInt value))
      else pure (.float (double.round (value < 0) value.natAbs 1))
  | .single value => pure (.float value)
  | .double value => pure (.float value)
  | .string value => pure (.text value)
  | .array _ => throw (.malformedCell ⟨table, ""⟩ value.sorted.compact .notScalar)
  | .object _ => throw (.malformedCell ⟨table, ""⟩ value.sorted.compact .notScalar)

/-- The raw table of a sheet. -/
def rawTable (sheet : Sheet) : Except Error RawTable := do
  let rows ← sheet.rows.mapM fun row => row.mapM (cell sheet.name)
  pure ⟨sheet.name, sheet.headerNames, sheet.headerDefinitions, rows⟩

/-- The raw tables of a workbook. -/
def read (text : String) : Except Error (List RawTable) :=
  match (Json.read? text.toList).bind sheets? with
  | some sheets => sheets.mapM rawTable
  | none => throw .json

end SheetWire.Workbook
