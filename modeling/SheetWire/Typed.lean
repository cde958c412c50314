import SheetWire.Row.Decoding

/-!
# Reading rows as typed values

A program that knows its types reads a row without a scheme: every type reads itself from the slots.
`WireType` names these types and `WireType.Carrier` is what a value of each of them is. A map keeps
its entries in the order of their keys, and of two entries with one key the later one.
-/

namespace SheetWire

open Text Number

/-- The types that read themselves from a row. -/
inductive WireType where
  | int
  | long
  | float
  | double
  | bool
  | string
  | list (element : WireType)
  | map (key value : WireType)
  deriving DecidableEq, Repr

namespace WireType

/-- The values of a type. -/
@[reducible] def Carrier : WireType → Type
  | .int => Int32
  | .long => Int64
  | .float => Binary
  | .double => Binary
  | .bool => Bool
  | .string => String
  | .list element => List element.Carrier
  | .map key value => List (key.Carrier × value.Carrier)

/-- Whether the values of a type are ordered, as the keys of a map must be. -/
def isOrdered : WireType → Bool
  | .float => false
  | .double => false
  | .list element => element.isOrdered
  | .map key value => key.isOrdered && value.isOrdered
  | _ => true

/-- The order of two lists whose elements `compare` orders: by the first difference, and a list
before any that is longer. -/
def compareLists {α : Type} (compare : α → α → Ordering) : List α → List α → Ordering
  | [], [] => .eq
  | [], _ :: _ => .lt
  | _ :: _, [] => .gt
  | a :: as, b :: bs => (compare a b).then (compareLists compare as bs)

/-- The order of two values. Texts are ordered by code points, and false comes before true. Floating
point numbers have no order. -/
def order : (type : WireType) → type.Carrier → type.Carrier → Ordering
  | .int => fun a b => compare a b
  | .long => fun a b => compare a b
  | .float => fun _ _ => .eq
  | .double => fun _ _ => .eq
  | .bool => fun a b => compare a b
  | .string => fun a b => compare a b
  | .list element => compareLists element.order
  | .map key value =>
      compareLists fun a b => (key.order a.1 b.1).then (value.order a.2 b.2)

/-- The entries of a map with one more at its place. It takes the place of an entry with the same
key. -/
def insertEntry {α β : Type} (compare : α → α → Ordering) (key : α) (value : β) :
    List (α × β) → List (α × β)
  | [] => [(key, value)]
  | (other, held) :: rest =>
      match compare key other with
      | .lt => (key, value) :: (other, held) :: rest
      | .eq => (other, value) :: rest
      | .gt => (other, held) :: insertEntry compare key value rest

/-- The map that entries build one after another. -/
def mapOfEntries {α β : Type} (compare : α → α → Ordering) (entries : List (α × β)) :
    List (α × β) :=
  entries.foldl (fun map entry => insertEntry compare entry.1 entry.2 map) []

/-- Reads a value of a type. -/
def read : (type : WireType) → Reading Error type.Carrier
  | .int => Reading.slot Reading.int
  | .long => Reading.slot Reading.long
  | .float => Reading.slot Reading.float
  | .double => Reading.slot Reading.double
  | .bool => Reading.slot Reading.bool
  | .string => Reading.slot Reading.string
  | .list element => do
      let count ← Reading.slot Reading.count
      Reading.times element.read count
  | .map key value => do
      let count ← Reading.slot Reading.count
      let entries ← Reading.times
        (do
          let key ← key.read
          let value ← value.read
          pure (key, value)) count
      pure (mapOfEntries key.order entries)

/-- Texts with a separator between them. -/
def joined (texts : List String) : String :=
  ", ".intercalate texts

/-- The display of a value. -/
def display : (type : WireType) → type.Carrier → String
  | .int => fun value => decimalString value.toInt
  | .long => fun value => decimalString value.toInt
  | .float => fun value => displayLayout.write single value
  | .double => fun value => displayLayout.write Number.double value
  | .bool => fun value => if value then "true" else "false"
  | .string => fun value => Text.display value
  | .list element => fun items => "[" ++ joined (items.map element.display) ++ "]"
  | .map key value => fun entries =>
      "\x7b" ++
        joined (entries.map fun entry => key.display entry.1 ++ ": " ++ value.display entry.2) ++
        "\x7d"

/-- The values of a type in rows, each read from the start of its row. What follows it in the row
does not count. -/
def readRows (type : WireType) : List (List Char) → Except Error (List type.Carrier)
  | [] => pure []
  | row :: rest => do
      let first ← type.read.result (Reader.ofRow row)
      let others ← readRows type rest
      pure (first :: others)

/-- The values of a type in the rows of a packed table. -/
def readTable (type : WireType) (packed : List Char) : Except Error (List type.Carrier) :=
  type.readRows (Workspace.packedRows packed)

end WireType

end SheetWire
