import SheetWire.Row.Encoding
import SheetWire.Workspace.Resolution

/-!
# Converting tables

A raw table is a name, two header rows and data rows. Converting a list of them builds every scheme,
orders the tables by name, resolves the references across all of them and encodes the rows. The
first error ends the conversion; either all tables are converted or none.
-/

namespace SheetWire

open Text

/-- A table as a spreadsheet hands it over. -/
structure RawTable where
  name : String
  headerNames : List String
  headerDefinitions : List String
  rows : List (List Cell)
  deriving DecidableEq, Repr

/-- A converted table. -/
structure Table where
  scheme : Scheme
  rows : List Row

namespace Table

/-- The name of the table. -/
def name (table : Table) : String :=
  table.scheme.table

/-- The data file of the table: one wire row on each line. -/
def pack (table : Table) : List Char :=
  ['\n'].intercalate (table.rows.map Row.wire)

/-- The table as JSON. -/
def json (table : Table) : Json String :=
  .object [("scheme", table.scheme.json),
    ("rows", .array (table.rows.map fun row => .string (String.ofList row.wire)))]

end Table

/-- Tables converted together, in the order of their names. The schemes of the workspace have the
positions of their tables as numbers. -/
structure Conversion where
  workspace : Workspace
  tables : List Table

namespace RawTable

/-- The start of a table's name by which tables are left out, unless the caller says otherwise. -/
def defaultSkip : String :=
  "_"

/-- Whether a table is left out: its name starts with a mark that is not empty. -/
def isSkipped (skip : String) (table : RawTable) : Bool :=
  skip != "" && skip.toList.isPrefixOf table.name.toList

/-- The scheme of a table. -/
def scheme (table : RawTable) (inflector : Inflector := English.inflector) : Except Error Scheme :=
  Scheme.build table.name table.headerNames table.headerDefinitions inflector

/-- The schemes of tables, each with the rows of its table. -/
def withSchemes (inflector : Inflector) :
    List RawTable → Except Error (List (Scheme × List (List Cell)))
  | [] => pure []
  | table :: rest => do
      let scheme ← table.scheme inflector
      let others ← withSchemes inflector rest
      pure ((scheme, table.rows) :: others)

end RawTable

namespace Conversion

variable [DateFormat]

/-- The order of converted tables: by name, as texts are ordered by their code points. -/
def inOrder (a b : Scheme × List (List Cell)) : Bool :=
  !decide (b.1.table < a.1.table)

/-- The tables of schemes in a workspace, from a number on. -/
def encodeTables (workspace : Workspace) :
    Nat → List (Scheme × List (List Cell)) → Except Error (List Table)
  | _, [] => pure []
  | number, (scheme, rows) :: rest => do
      let first ← workspace.encodeRows number rows
      let others ← encodeTables workspace (number + 1) rest
      pure (⟨scheme, first⟩ :: others)

/-- Converts the tables whose names do not start with `skip`. -/
def ofTables (skip : String) (tables : List RawTable)
    (inflector : Inflector := English.inflector) : Except Error Conversion := do
  let parsed ← RawTable.withSchemes inflector (tables.filter fun table => !table.isSkipped skip)
  let parsed := parsed.mergeSort inOrder
  let workspace := Workspace.resolved (parsed.map Prod.fst)
  let tables ← encodeTables workspace 0 parsed
  pure ⟨workspace, tables⟩

end Conversion

end SheetWire
