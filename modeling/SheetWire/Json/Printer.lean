import SheetWire.Json.Basic
import SheetWire.Number.Layout
import SheetWire.Text.Quoted

/-!
# Writing JSON

`Json.compact` writes a value without any blanks. `Json.pretty` gives every item and member a line
of its own, indented by two blanks for each level; an empty array or object stays on one line.
-/

namespace SheetWire.Json

open Text Number

/-- The text of a value that holds no other values. -/
def scalar : Json String → String
  | .null => "null"
  | .bool value => if value then "true" else "false"
  | .integer value => decimalString value
  | .single value => jsonSingleLayout.write Number.single value
  | .double value => jsonDoubleLayout.write Number.double value
  | .string value => quote value
  | .array _ => "[]"
  | .object _ => "\x7b\x7d"

mutual

/-- A value without blanks. -/
def compact : Json String → String
  | .array items => "[" ++ compactItems items ++ "]"
  | .object members => "\x7b" ++ compactMembers members ++ "\x7d"
  | value => scalar value

/-- The items of an array, separated by commas. -/
def compactItems : List (Json String) → String
  | [] => ""
  | [item] => compact item
  | item :: rest => compact item ++ "," ++ compactItems rest

/-- The members of an object, separated by commas. -/
def compactMembers : List (String × Json String) → String
  | [] => ""
  | [(name, value)] => quote name ++ ":" ++ compact value
  | (name, value) :: rest => quote name ++ ":" ++ compact value ++ "," ++ compactMembers rest

end

/-- The start of a new line at a level. -/
def newLine (level : Nat) : String :=
  String.ofList ('\n' :: List.replicate (2 * level) ' ')

mutual

/-- A value at a level, over several lines. -/
def prettyAt (level : Nat) : Json String → String
  | .array (item :: rest) =>
      "[" ++ newLine (level + 1) ++ prettyAt (level + 1) item ++ prettyItems (level + 1) rest ++
        newLine level ++ "]"
  | .object ((name, value) :: rest) =>
      "\x7b" ++ newLine (level + 1) ++ quote name ++ ": " ++ prettyAt (level + 1) value ++
        prettyMembers (level + 1) rest ++ newLine level ++ "\x7d"
  | value => scalar value

/-- The items of an array after the first. -/
def prettyItems (level : Nat) : List (Json String) → String
  | [] => ""
  | item :: rest => "," ++ newLine level ++ prettyAt level item ++ prettyItems level rest

/-- The members of an object after the first. -/
def prettyMembers (level : Nat) : List (String × Json String) → String
  | [] => ""
  | (name, value) :: rest =>
      "," ++ newLine level ++ quote name ++ ": " ++ prettyAt level value ++
        prettyMembers level rest

end

/-- A value over several lines. -/
def pretty (value : Json String) : String :=
  prettyAt 0 value

end SheetWire.Json
