import SheetWire.Command.Arguments
import SheetWire.Command.Files
import SheetWire.Row.Decoding
import SheetWire.Workbook

/-!
# Running commands

A command reads a workbook and converts all its tables before it writes or prints anything. Files
that were written before an error stay.
-/

namespace SheetWire

open Text Number

/-- How a command ends. -/
inductive Outcome where
  | usage
  | failed (error : Error)
  | done (output : String)

/-- The exit status of an outcome. -/
def Outcome.status : Outcome → Nat
  | .done _ => 0
  | .failed _ => 1
  | .usage => 2

namespace Command

variable {m : Type → Type} [Monad m] [Files m]

/-- The text of a file. -/
def readText (path : String) : ExceptT Error m String := do
  match ← (Files.read path : m (Option String)) with
  | some text => pure text
  | none => throw .io

/-- Creates a directory and those around it. -/
def createDirectories (path : String) : ExceptT Error m Unit := do
  let succeeded ← (Files.createDirectories path : m Bool)
  if succeeded then pure () else throw .io

/-- Writes a file. -/
def writeText (path text : String) : ExceptT Error m Unit := do
  let succeeded ← (Files.write path text : m Bool)
  if succeeded then pure () else throw .io

/-- The tables of a workbook file, converted. -/
def convertFile (source : String) : ExceptT Error m Conversion := do
  let text ← readText source
  let tables ← (Workbook.read text : Except Error (List RawTable))
  (Conversion.ofTables RawTable.defaultSkip tables : Except Error Conversion)

/-- The path of a name inside a directory. A name that starts at the root stays as it is. -/
def inside (directory name : String) : String :=
  if name.toList.head? = some '/' then name else directory ++ "/" ++ name

/-- Writes the scheme and the data file of every table. -/
def writeTables (out data : String) : List Table → ExceptT Error m Unit
  | [] => pure ()
  | table :: rest => do
      writeText (inside out (table.name ++ ".json")) table.scheme.jsonText
      writeText (inside data (table.name ++ ".txt")) (String.ofList table.pack)
      writeTables out data rest

/-- The position of the first table of a name. -/
def tableNumber? (name : String) (tables : List Table) : Option Nat :=
  tables.findIdx? fun table => table.name == name

/-- Runs a command and gives what it prints. -/
def run : Command → ExceptT Error m String
  | .convert source out data => do
      let conversion ← convertFile source
      createDirectories out
      createDirectories data
      writeTables out data conversion.tables
      pure ("Converted " ++ decimalString conversion.tables.length ++ " tables from " ++ source ++
        "\n")
  | .scheme source => do
      let conversion ← convertFile source
      let schemes := conversion.tables.map fun table => table.scheme.json
      pure ((Json.array schemes).pretty ++ "\n")
  | .decode source table data => do
      let conversion ← convertFile source
      match tableNumber? table conversion.tables with
      | none => throw (.decode (.noTable table))
      | some number =>
          let packed ← readText data
          let text ← (conversion.workspace.decodeToJson number
            (dropRightWhile (· == '\n') packed.toList) : Except Error String)
          pure (text ++ "\n")

/-- Runs what a list of arguments asks for. -/
def execute (arguments : List String) : m Outcome := do
  match ofArguments? arguments with
  | none => pure .usage
  | some command =>
      match ← (run command : ExceptT Error m String).run with
      | .ok output => pure (.done output)
      | .error error => pure (.failed error)

end Command

end SheetWire
