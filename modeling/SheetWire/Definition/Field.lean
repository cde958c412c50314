import SheetWire.Json.Basic

/-!
# Fields

A field is a column of a table with its type, a subfield of a struct, or a part of a collection. A
type is a primitive, a list, a dictionary, a struct, an enum, or a reference to a struct or enum
that some table declares. Structs and enums have no name of their own in a definition; the name they
get here is the one that references use. Fields are plain trees: what a reference points to is not
part of the field that holds it.
-/

namespace SheetWire

/-- The types that take one slot and have no parts. -/
inductive Primitive where
  | int
  | long
  | string
  | float
  | bool
  deriving DecidableEq, Repr

namespace Primitive

/-- All primitives. -/
def all : List Primitive :=
  [.int, .long, .string, .float, .bool]

/-- The word for a primitive in a definition. -/
def keyword : Primitive → String
  | .int => "int"
  | .long => "long"
  | .string => "string"
  | .float => "float"
  | .bool => "bool"

/-- The primitive that a word stands for. -/
def ofKeyword? (word : String) : Option Primitive :=
  all.find? fun kind => kind.keyword == word

end Primitive

/-- Where a field stands: the table it belongs to and its own name. -/
structure Label where
  table : String
  name : String
  deriving DecidableEq, Repr

/-- A member of an enum and its number. -/
structure Member where
  name : String
  value : Int64
  deriving DecidableEq, Repr

/-- How a reference names its target: the declaring table and the name of the type there. -/
structure TypeKey where
  table : String
  typeName : String
  deriving DecidableEq, Repr

/-- A field with its type. -/
inductive Field where
  | primitive (label : Label) (kind : Primitive)
  | list (label : Label) (element : Field)
  | dictionary (label : Label) (key value : Field)
  | struct (label : Label) (typeName : String) (fields : List Field)
  | enum (label : Label) (typeName : String) (members : List Member)
  | reference (label : Label) (target : TypeKey)

namespace Field

/-- Where the field stands. -/
def label : Field → Label
  | .primitive label _ => label
  | .list label _ => label
  | .dictionary label _ _ => label
  | .struct label _ _ => label
  | .enum label _ _ => label
  | .reference label _ => label

/-- The table that the field belongs to. -/
def table (field : Field) : String :=
  field.label.table

/-- The name of the field. -/
def name (field : Field) : String :=
  field.label.name

/-- The field under another name. Its parts and types keep theirs. -/
def rename (name : String) : Field → Field
  | .primitive label kind => .primitive { label with name := name } kind
  | .list label element => .list { label with name := name } element
  | .dictionary label key value => .dictionary { label with name := name } key value
  | .struct label typeName fields => .struct { label with name := name } typeName fields
  | .enum label typeName members => .enum { label with name := name } typeName members
  | .reference label target => .reference { label with name := name } target

/-- The fields directly inside the field: the element of a list, the key and the value of a
dictionary, the subfields of a struct. What a reference points to is not inside it. -/
def children : Field → List Field
  | .list _ element => [element]
  | .dictionary _ key value => [key, value]
  | .struct _ _ fields => fields
  | _ => []

/-- The name of the struct or enum that the field declares. -/
def typeName? : Field → Option String
  | .struct _ typeName _ => some typeName
  | .enum _ typeName _ => some typeName
  | _ => none

mutual

/-- The field and every field inside it at any depth, outer before inner. -/
def walk : Field → List Field
  | .list label element => .list label element :: walk element
  | .dictionary label key value => .dictionary label key value :: (walk key ++ walk value)
  | .struct label typeName fields => .struct label typeName fields :: walkAll fields
  | field => [field]

/-- The fields of a list and every field inside them. -/
def walkAll : List Field → List Field
  | [] => []
  | field :: rest => walk field ++ walkAll rest

end

/-- The number that a member of an enum stands for. -/
def memberValue? (members : List Member) (name : String) : Option Int64 :=
  (members.find? fun member => member.name == name).map Member.value

/-- A member of an enum as JSON. -/
def memberJson (member : Member) : Json String :=
  .object [("name", .string member.name), ("value", .integer member.value.toInt)]

/-- The JSON of a field with the given type. -/
def jsonWithKind (label : Label) (kind : String) (detail : Json String) : Json String :=
  .object [("table", .string label.table), ("name", .string label.name),
    ("kind", .object [(kind, detail)])]

mutual

/-- The field as JSON. -/
def json : Field → Json String
  | .primitive label kind => jsonWithKind label "primitive" (.string kind.keyword)
  | .list label element => jsonWithKind label "list" (json element)
  | .dictionary label key value =>
      jsonWithKind label "dictionary" (.object [("key", json key), ("value", json value)])
  | .struct label typeName fields =>
      jsonWithKind label "struct"
        (.object [("type_name", .string typeName), ("fields", .array (jsonAll fields))])
  | .enum label typeName members =>
      jsonWithKind label "enum"
        (.object [("type_name", .string typeName), ("values", .array (members.map memberJson))])
  | .reference label target =>
      jsonWithKind label "reference"
        (.object [("target_table", .string target.table),
          ("target_type", .string target.typeName)])

/-- The fields of a list as JSON. -/
def jsonAll : List Field → List (Json String)
  | [] => []
  | field :: rest => json field :: jsonAll rest

end

end Field

end SheetWire
