import SheetWire.Number.Binary

/-!
# JSON values

A JSON value over a type of texts. What is written has `String` for its texts. What has just been
read has lists of code points, which may hold half of a surrogate pair; `Json.texts?` turns such a
value into one over `String` if every text in it is well formed. Objects keep their members in
order, repeated names included.
-/

namespace SheetWire

open Number

/-- A JSON value whose texts and member names are of type `τ`. Floating point numbers remember the
format they are of. -/
inductive Json (τ : Type) where
  | null
  | bool (value : Bool)
  | integer (value : Int)
  | single (value : Binary)
  | double (value : Binary)
  | string (value : τ)
  | array (items : List (Json τ))
  | object (members : List (τ × Json τ))

namespace Json

variable {τ σ : Type}

mutual

/-- How many arrays and objects lie around the innermost value. -/
def depth : Json τ → Nat
  | .array items => depthItems items + 1
  | .object members => depthMembers members + 1
  | _ => 0

/-- The greatest depth of the items of an array. -/
def depthItems : List (Json τ) → Nat
  | [] => 0
  | item :: rest => max (depth item) (depthItems rest)

/-- The greatest depth of the members of an object. -/
def depthMembers : List (τ × Json τ) → Nat
  | [] => 0
  | (_, value) :: rest => max (depth value) (depthMembers rest)

end

mutual

/-- Whether every floating point number in the value is finite. -/
def isFinite : Json τ → Bool
  | .single value => value.isFinite
  | .double value => value.isFinite
  | .array items => itemsAreFinite items
  | .object members => membersAreFinite members
  | _ => true

/-- Whether every floating point number in the items of an array is finite. -/
def itemsAreFinite : List (Json τ) → Bool
  | [] => true
  | item :: rest => isFinite item && itemsAreFinite rest

/-- Whether every floating point number in the members of an object is finite. -/
def membersAreFinite : List (τ × Json τ) → Bool
  | [] => true
  | (_, value) :: rest => isFinite value && membersAreFinite rest

end

mutual

/-- The value with every text changed, if all of them can be. -/
def texts? (change : τ → Option σ) : Json τ → Option (Json σ)
  | .null => some .null
  | .bool value => some (.bool value)
  | .integer value => some (.integer value)
  | .single value => some (.single value)
  | .double value => some (.double value)
  | .string value => (change value).map .string
  | .array items => (textsItems? change items).map .array
  | .object members => (textsMembers? change members).map .object

/-- The items of an array with every text changed. -/
def textsItems? (change : τ → Option σ) : List (Json τ) → Option (List (Json σ))
  | [] => some []
  | item :: rest => do
      let item ← texts? change item
      let rest ← textsItems? change rest
      pure (item :: rest)

/-- The members of an object with every text changed. -/
def textsMembers? (change : τ → Option σ) : List (τ × Json τ) → Option (List (σ × Json σ))
  | [] => some []
  | (name, value) :: rest => do
      let name ← change name
      let value ← texts? change value
      let rest ← textsMembers? change rest
      pure ((name, value) :: rest)

end

/-- The members with one more, kept in the order of their names. A later member replaces an earlier
one of the same name. -/
def insertMember (name : String) (value : Json String) :
    List (String × Json String) → List (String × Json String)
  | [] => [(name, value)]
  | (other, held) :: rest =>
      if name < other then (name, value) :: (other, held) :: rest
      else if name = other then (name, value) :: rest
      else (other, held) :: insertMember name value rest

mutual

/-- The value with the members of every object in the order of their names, the last member of each
name only. -/
def sorted : Json String → Json String
  | .array items => .array (sortedItems items)
  | .object members => .object (sortedMembers members [])
  | value => value

/-- The items of an array, each of them sorted. -/
def sortedItems : List (Json String) → List (Json String)
  | [] => []
  | item :: rest => sorted item :: sortedItems rest

/-- The members of an object, each of them sorted, added to those collected so far. -/
def sortedMembers :
    List (String × Json String) → List (String × Json String) → List (String × Json String)
  | [], collected => collected
  | (name, value) :: rest, collected =>
      sortedMembers rest (insertMember name (sorted value) collected)

end

end Json

end SheetWire
