import SheetWire.Json.Basic
import SheetWire.Number.Layout
import SheetWire.Text.Quoted

/-!
# Decoded values

The values that a wire row holds. Structs keep the names of their subfields, so that a row can be
shown without its scheme. `Value.display` is the short form for people, `Value.json` the form handed
on; since the keys of a map need not be texts, a map becomes an array of pairs there.
-/

namespace SheetWire

open Text Number

/-- A value read from a wire row. -/
inductive Value where
  | int (value : Int32)
  | long (value : Int64)
  | float (value : Binary)
  | bool (value : Bool)
  | string (value : String)
  | list (items : List Value)
  | map (entries : List (Value × Value))
  | struct (fields : List (String × Value))
  | enum (value : Int64)

namespace Value

/-- The value as a number of 32 bits; wider numbers keep their low bits and anything else is
zero. -/
def asInt : Value → Int32
  | .int v => v
  | .long v => v.toInt32
  | .enum v => v.toInt32
  | _ => 0

/-- The value as a number of 64 bits; anything else is zero. -/
def asLong : Value → Int64
  | .int v => v.toInt64
  | .long v => v
  | .enum v => v
  | _ => 0

/-- The value as a text; anything else is empty. -/
def asString : Value → String
  | .string v => v
  | _ => ""

/-- The items of a list; anything else has none. -/
def asList : Value → List Value
  | .list items => items
  | _ => []

/-- The number of items of a list, entries of a map, or subfields of a struct. -/
def size : Value → Nat
  | .list items => items.length
  | .map entries => entries.length
  | .struct fields => fields.length
  | _ => 0

/-- Whether the value holds no items, entries or subfields. -/
def isEmpty (v : Value) : Bool :=
  v.size == 0

/-- The first subfield of a struct with a name. -/
def get? (name : String) : Value → Option Value
  | .struct fields => fields.lookup name
  | _ => none

mutual

/-- Equality of values, floating point numbers compared as numbers: nothing that holds a `nan` is
equal to itself. -/
def same : Value → Value → Bool
  | .int a, .int b => a == b
  | .long a, .long b => a == b
  | .float a, .float b => a.sameNumber b
  | .bool a, .bool b => a == b
  | .string a, .string b => a == b
  | .list a, .list b => sameItems a b
  | .map a, .map b => sameEntries a b
  | .struct a, .struct b => sameFields a b
  | .enum a, .enum b => a == b
  | _, _ => false

/-- Equality of items one by one. -/
def sameItems : List Value → List Value → Bool
  | [], [] => true
  | a :: as, b :: bs => same a b && sameItems as bs
  | _, _ => false

/-- Equality of entries one by one. -/
def sameEntries : List (Value × Value) → List (Value × Value) → Bool
  | [], [] => true
  | (k, a) :: as, (l, b) :: bs => same k l && same a b && sameEntries as bs
  | _, _ => false

/-- Equality of subfields one by one, names included. -/
def sameFields : List (String × Value) → List (String × Value) → Bool
  | [], [] => true
  | (k, a) :: as, (l, b) :: bs => k == l && same a b && sameFields as bs
  | _, _ => false

end

mutual

/-- The short form of a value: numbers of 64 bits end in `L` and enum numbers start with `#`. -/
def display : Value → String
  | .int v => decimalString v.toInt
  | .long v => decimalString v.toInt ++ "L"
  | .float v => displayLayout.write Number.single v
  | .bool v => if v then "true" else "false"
  | .string v => Text.display v
  | .list items => "[" ++ displayItems items ++ "]"
  | .map entries => "\x7b" ++ displayEntries entries ++ "\x7d"
  | .struct fields => "\x7b" ++ displayFields fields ++ "\x7d"
  | .enum v => "#" ++ decimalString v.toInt

/-- Items separated by commas. -/
def displayItems : List Value → String
  | [] => ""
  | [item] => display item
  | item :: rest => display item ++ ", " ++ displayItems rest

/-- Entries separated by commas. -/
def displayEntries : List (Value × Value) → String
  | [] => ""
  | [(key, value)] => display key ++ ": " ++ display value
  | (key, value) :: rest => display key ++ ": " ++ display value ++ ", " ++ displayEntries rest

/-- Subfields separated by commas, their names as they are. -/
def displayFields : List (String × Value) → String
  | [] => ""
  | [(name, value)] => name ++ ": " ++ display value
  | (name, value) :: rest => name ++ ": " ++ display value ++ ", " ++ displayFields rest

end

mutual

/-- The value as JSON. -/
def json : Value → Json String
  | .int v => .integer v.toInt
  | .long v => .integer v.toInt
  | .float v => .single v
  | .bool v => .bool v
  | .string v => .string v
  | .list items => .array (jsonItems items)
  | .map entries => .array (jsonEntries entries)
  | .struct fields => .object (jsonFields fields)
  | .enum v => .integer v.toInt

/-- The items of a list as JSON. -/
def jsonItems : List Value → List (Json String)
  | [] => []
  | item :: rest => json item :: jsonItems rest

/-- The entries of a map as pairs. -/
def jsonEntries : List (Value × Value) → List (Json String)
  | [] => []
  | (key, value) :: rest => .array [json key, json value] :: jsonEntries rest

/-- The subfields of a struct as members. -/
def jsonFields : List (String × Value) → List (String × Json String)
  | [] => []
  | (name, value) :: rest => (name, json value) :: jsonFields rest

end

end Value

end SheetWire
