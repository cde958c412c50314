import SheetWire.Definition.Parser
import SheetWire.Json.Printer

/-!
# Schemes

A scheme is the list of typed columns of one table. It is built from two header rows, one with the
names of the columns and one with their definitions.
-/

namespace SheetWire

/-- The typed columns of a table, in order. -/
structure Scheme where
  table : String
  columns : List Field

namespace Scheme

/-- A header row up to its last cell that is not empty. -/
def trimHeader (cells : List String) : List String :=
  (cells.reverse.dropWhile (· = "")).reverse

/-- The columns with the given names and definitions. -/
def buildColumns (inflector : Inflector) (table : String) :
    List (String × String) → Except Error (List Field)
  | [] => pure []
  | (name, definition) :: rest => do
      let label : Label := ⟨table, name⟩
      let column ← (Field.ofDefinition inflector label definition).mapError (Error.tag label)
      let columns ← buildColumns inflector table rest
      pure (column :: columns)

/-- The scheme of a table with the given header rows. Without their empty ends both rows have the
same length, and no two columns have one name. The names are English unless the caller says
otherwise. -/
def build (table : String) (names definitions : List String)
    (inflector : Inflector := English.inflector) : Except Error Scheme := do
  let names := trimHeader names
  let definitions := trimHeader definitions
  if names.length = definitions.length then
    let columns ← buildColumns inflector table (names.zip definitions)
    checkColumns table (columns.map Field.name)
    pure ⟨table, columns⟩
  else throw (.headerMismatch table names.length definitions.length)

/-- Every field of the scheme at any depth, column by column, outer before inner. -/
def walk (scheme : Scheme) : List Field :=
  Field.walkAll scheme.columns

/-- The names of the structs that the scheme declares. -/
def structNames (scheme : Scheme) : List String :=
  scheme.walk.filterMap fun field =>
    match field with
    | .struct _ typeName _ => some typeName
    | _ => none

/-- The names of the enums that the scheme declares. -/
def enumNames (scheme : Scheme) : List String :=
  scheme.walk.filterMap fun field =>
    match field with
    | .enum _ typeName _ => some typeName
    | _ => none

/-- The references that the scheme holds, each with the place it stands in. -/
def references (scheme : Scheme) : List (Label × TypeKey) :=
  scheme.walk.filterMap fun field =>
    match field with
    | .reference label target => some (label, target)
    | _ => none

/-- The scheme as JSON. -/
def json (scheme : Scheme) : Json String :=
  .object [("table", .string scheme.table), ("fields", .array (Field.jsonAll scheme.columns))]

/-- The scheme as JSON text over several lines. -/
def jsonText (scheme : Scheme) : String :=
  scheme.json.pretty

end Scheme

end SheetWire
