import SheetWire.Workspace.Node

/-!
# Sets of schemes and what their references point to

A workspace holds schemes under their numbers and, beside them, the handles that references are
bound to. A handle names the place of a declaration and does not keep it: when a scheme is dropped,
the references bound to its types stay bound and have no target any more. A binding is never
changed.
-/

namespace SheetWire

/-- What a handle points to. -/
inductive TypeKind where
  | struct
  | enum
  deriving DecidableEq, Repr

/-- A handle on a struct or enum that some scheme declares. -/
structure TypeHandle where
  kind : TypeKind
  place : Place
  deriving DecidableEq, Repr

/-- The schemes by number, without those dropped, and the handles that references are bound to, by
the places of the references. -/
structure Workspace where
  schemes : List (Option Scheme)
  bindings : List (Place × TypeHandle)

namespace Workspace

/-- No schemes. -/
def empty : Workspace :=
  ⟨[], []⟩

/-- The schemes of a list under their positions, nothing bound. -/
def ofSchemes (schemes : List Scheme) : Workspace :=
  ⟨schemes.map some, []⟩

/-- One more scheme, under the number of schemes that have been added before it. -/
def add (workspace : Workspace) (scheme : Scheme) : Workspace :=
  { workspace with schemes := workspace.schemes ++ [some scheme] }

/-- The workspace without the scheme of a number. -/
def drop (workspace : Workspace) (number : Nat) : Workspace :=
  { workspace with schemes := workspace.schemes.set number none }

/-- The scheme of a number, unless it was dropped. -/
def scheme? (workspace : Workspace) (number : Nat) : Option Scheme :=
  workspace.schemes[number]?.join

/-- The columns of the scheme of a number. -/
def columns (workspace : Workspace) (number : Nat) : List Node :=
  match workspace.scheme? number with
  | some scheme => scheme.columnNodes number
  | none => []

/-- Every node of the scheme of a number. -/
def nodesOf (workspace : Workspace) (number : Nat) : List Node :=
  match workspace.scheme? number with
  | some scheme => scheme.nodes number
  | none => []

/-- Every node of every scheme. -/
def nodes (workspace : Workspace) : List Node :=
  (List.range workspace.schemes.length).flatMap workspace.nodesOf

/-- The node at a place, as long as its scheme is there. -/
def node? (workspace : Workspace) (place : Place) : Option Node := do
  let scheme ← workspace.scheme? place.scheme
  let field ← Field.follow? scheme.columns place.path
  pure ⟨place, field⟩

/-- The handle that the reference at a place is bound to. -/
def binding? (workspace : Workspace) (place : Place) : Option TypeHandle :=
  workspace.bindings.lookup place

/-- The reference at a place bound to a handle, unless it is bound already. -/
def bind (workspace : Workspace) (place : Place) (handle : TypeHandle) : Workspace :=
  if (workspace.binding? place).isSome then workspace
  else { workspace with bindings := workspace.bindings ++ [(place, handle)] }

/-- The declaration that the reference at a place points to. -/
def target? (workspace : Workspace) (place : Place) : Option Node := do
  let handle ← workspace.binding? place
  workspace.node? handle.place

/-- The places of all structs. -/
def structPlaces (workspace : Workspace) : List Place :=
  workspace.nodes.filterMap fun node =>
    match node.field with
    | .struct _ _ _ => some node.place
    | _ => none

end Workspace

/-- What a value of a node is made of, a reference seen as its target. -/
inductive Shape where
  | primitive (kind : Primitive)
  | list (element : Node)
  | dictionary (key value : Node)
  | struct (place : Place) (typeName : String) (subfields : List Node)
  | enum (members : List Member)
  | unbound (target : TypeKey)

/-- The shape of a node, a reference not being followed. -/
def Node.shape (node : Node) : Shape :=
  match node.field with
  | .primitive _ kind => .primitive kind
  | .list _ element => .list ⟨node.place.child 0, element⟩
  | .dictionary _ key value => .dictionary ⟨node.place.child 0, key⟩ ⟨node.place.child 1, value⟩
  | .struct _ typeName fields => .struct node.place typeName (Node.siblings node.place 0 fields)
  | .enum _ _ members => .enum members
  | .reference _ target => .unbound target

/-- The shape of a node, a reference being followed to its target if it has one. -/
def Workspace.shape (workspace : Workspace) (node : Node) : Shape :=
  match node.field with
  | .reference _ target =>
      match workspace.target? node.place with
      | some declaration => declaration.shape
      | none => .unbound target
  | _ => node.shape

end SheetWire
