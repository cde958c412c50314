import SheetWire.Row.Encoding
import SheetWire.Value

/-!
# From wire rows to values

A row is read field by field, each taking as many slots as its value has. Nothing may be left over
after the last column. A reference is read as its target; a struct may come back to itself that way,
so the recursion takes a bound, which a run that ends does not reach: on a way down it passes a node
at most once for each number of slots that are left. A list and a dictionary ask for the memory of
all their elements as soon as they know how many there are.
-/

namespace SheetWire

open Text

/-- How many values memory can be asked for at once. An entry of a dictionary takes the place of two
values, and there is a place for one entry at least. -/
class Memory where
  room : Nat
  two_le_room : 2 ≤ room

/-- At most `2 ^ 63 - 1` bytes can be asked for, and a value takes 32 of them. -/
instance : Memory where
  room := 9223372036854775807 / 32
  two_le_room := by decide

variable [Memory]

namespace Reading

/-- A read for every element of a list, in order. -/
def each {ε α β : Type} (read : α → Reading ε β) : List α → Reading ε (List β)
  | [] => pure []
  | x :: rest => do
      let first ← read x
      let others ← each read rest
      pure (first :: others)

/-- A read from a slot whose error is an error of the row. -/
def slot {α : Type} (read : Reading SlotError α) : Reading Error α :=
  adapt Error.ofSlot read

/-- The number of elements that a slot announces, each in the place of `size` values. There is no
answer if memory has no room for all of them. -/
def announced (size : Nat) : Reading Error Nat := do
  let count ← slot count
  if size * count ≤ Memory.room then pure count else throw (.endless (.memory count))

/-- The value of a primitive. -/
def primitiveValue : Primitive → Reading Error Value
  | .int => Value.int <$> slot int
  | .long => Value.long <$> slot long
  | .string => Value.string <$> slot string
  | .float => Value.float <$> slot float
  | .bool => Value.bool <$> slot bool

end Reading

namespace Workspace

/-- The value of a node. -/
def decodeWithin (workspace : Workspace) : Nat → Node → Reading Error Value
  | 0, node => throw (.endless (.stack node.label))
  | bound + 1, node =>
      match workspace.shape node with
      | .primitive kind => Reading.primitiveValue kind
      | .list element => do
          let count ← Reading.announced 1
          let items ← Reading.times (decodeWithin workspace bound element) count
          pure (.list items)
      | .dictionary key value => do
          let count ← Reading.announced 2
          let entries ← Reading.times
            (do
              let key ← decodeWithin workspace bound key
              let value ← decodeWithin workspace bound value
              pure (key, value)) count
          pure (.map entries)
      | .struct _ _ subfields => do
          let fields ← Reading.each
            (fun subfield => do
              let value ← decodeWithin workspace bound subfield
              pure (subfield.field.name, value)) subfields
          pure (.struct fields)
      | .enum _ => Value.enum <$> Reading.slot Reading.long
      | .unbound target => throw (.unresolved node.label target)

/-- Reads the value of a node. -/
def decodeNode (workspace : Workspace) (node : Node) : Reading Error Value := do
  let reader ← get
  workspace.decodeWithin (workspace.recursionBound node reader.slots.length) node

/-- The values of a whole row of a table under some columns. -/
def decodeColumns (workspace : Workspace) (table : String) (columns : List Node) :
    Reading Error (List Value) := do
  let values ← Reading.each
    (fun column => Reading.adapt (Error.tag column.label) (workspace.decodeNode column)) columns
  let reader ← get
  if reader.isExhausted then pure values
  else throw (.decode (.trailing table reader.index))

/-- The name of the table of the scheme with the given number. -/
def tableName (workspace : Workspace) (number : Nat) : String :=
  match workspace.scheme? number with
  | some scheme => scheme.table
  | none => ""

/-- The values of a row of the scheme with the given number. -/
def decodeRow (workspace : Workspace) (number : Nat) (row : List Char) :
    Except Error (List Value) :=
  (workspace.decodeColumns (workspace.tableName number) (workspace.columns number)).result
    (Reader.ofRow row)

/-- The rows of a packed table: its lines, each without carriage returns at its end. An empty text
has no rows. -/
def packedRows (packed : List Char) : List (List Char) :=
  if packed = [] then [] else (packed.splitOn '\n').map (dropRightWhile (· == '\r'))

/-- The values of rows one by one. -/
def decodeRows (workspace : Workspace) (number : Nat) :
    List (List Char) → Except Error (List (List Value))
  | [] => pure []
  | row :: rest => do
      let first ← workspace.decodeRow number row
      let others ← decodeRows workspace number rest
      pure (first :: others)

/-- The values of a packed table. -/
def decodeTable (workspace : Workspace) (number : Nat) (packed : List Char) :
    Except Error (List (List Value)) :=
  workspace.decodeRows number (packedRows packed)

/-- A packed table with its values as JSON text over several lines. -/
def decodeToJson (workspace : Workspace) (number : Nat) (packed : List Char) :
    Except Error String := do
  let rows ← workspace.decodeTable number packed
  pure (Json.pretty (.object [("table", .string (workspace.tableName number)),
    ("rows", .array (rows.map fun values => .array (Value.jsonItems values)))]))

end Workspace

end SheetWire
