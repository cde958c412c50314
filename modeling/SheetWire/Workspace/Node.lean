import SheetWire.Scheme

/-!
# Places in a set of schemes

Every field of a set of schemes has a place: the number of its scheme and the way down to it through
columns, elements, keys, values and subfields. A node is a field together with its place. Two
structs are the same declaration exactly when their places are equal, however alike they look.
-/

namespace SheetWire

/-- The place of a field: the number of its scheme, and the positions on the way down to it, the
innermost first. The last position is that of the column. -/
structure Place where
  scheme : Nat
  path : List Nat
  deriving DecidableEq, Repr

/-- The place of the field at a position directly inside the one at this place. -/
def Place.child (place : Place) (position : Nat) : Place :=
  ⟨place.scheme, position :: place.path⟩

/-- A field and its place. -/
structure Node where
  place : Place
  field : Field

namespace Node

/-- Where the field of the node stands. -/
def label (node : Node) : Label :=
  node.field.label

/-- Fields that stand side by side inside a place, from a position on. -/
def siblings (place : Place) : Nat → List Field → List Node
  | _, [] => []
  | position, field :: rest => ⟨place.child position, field⟩ :: siblings place (position + 1) rest

/-- The nodes directly inside the node. -/
def children (node : Node) : List Node :=
  siblings node.place 0 node.field.children

end Node

namespace Field

mutual

/-- The node of the field at a place and every node inside it, outer before inner. -/
def nodes (place : Place) : Field → List Node
  | .list label element =>
      ⟨place, .list label element⟩ :: nodes (place.child 0) element
  | .dictionary label key value =>
      ⟨place, .dictionary label key value⟩ ::
        (nodes (place.child 0) key ++ nodes (place.child 1) value)
  | .struct label typeName fields =>
      ⟨place, .struct label typeName fields⟩ :: nodesAll place 0 fields
  | field => [⟨place, field⟩]

/-- The nodes of fields that stand side by side inside a place, from a position on. -/
def nodesAll (place : Place) : Nat → List Field → List Node
  | _, [] => []
  | position, field :: rest =>
      nodes (place.child position) field ++ nodesAll place (position + 1) rest

end

/-- The field at the end of a way down through the columns of a scheme. -/
def follow? (columns : List Field) : List Nat → Option Field
  | [] => none
  | [position] => columns[position]?
  | position :: path => (follow? columns path).bind fun field => field.children[position]?

end Field

namespace Scheme

/-- The columns of the scheme under its number. -/
def columnNodes (number : Nat) (scheme : Scheme) : List Node :=
  Node.siblings ⟨number, []⟩ 0 scheme.columns

/-- Every node of the scheme under its number, column by column, outer before inner. -/
def nodes (number : Nat) (scheme : Scheme) : List Node :=
  Field.nodesAll ⟨number, []⟩ 0 scheme.columns

end Scheme

end SheetWire
