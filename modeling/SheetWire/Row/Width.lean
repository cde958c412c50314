import SheetWire.Workspace.Basic

/-!
# How many values a field takes

Inside a list, a dictionary or a struct, a value of a field takes a fixed number of comma-separated
values: the sum over its subfields for a struct, and one for anything else. A struct that is reached
again through a reference while its own width is being summed has none. The structs that may still
be entered are passed down; each of them is entered at most once on a way down, so the recursion
ends.
-/

namespace SheetWire.Workspace

mutual

/-- The width of a node, when only the structs at the places `closed` may be entered. -/
def widthFrom (workspace : Workspace) (closed : List Place) (node : Node) : Except Error Nat :=
  match workspace.shape node with
  | .struct place typeName subfields =>
      if _ : place ∈ closed then totalWidth workspace (closed.erase place) subfields
      else throw (.recursiveStruct node.label typeName)
  | .unbound target => throw (.unresolved node.label target)
  | _ => pure 1
termination_by (closed.length, 0)
decreasing_by
  have := List.length_pos_of_mem (by assumption)
  apply Prod.Lex.left
  rw [List.length_erase_of_mem (by assumption)]
  omega

/-- The sum of the widths of nodes. -/
def totalWidth (workspace : Workspace) (closed : List Place) : List Node → Except Error Nat
  | [] => pure 0
  | node :: rest => do
      let first ← widthFrom workspace closed node
      let others ← totalWidth workspace closed rest
      pure (first + others)
termination_by nodes => (closed.length, nodes.length + 1)

end

/-- The number of comma-separated values that a value of a node takes inside a collection or a
struct. -/
def width (workspace : Workspace) (node : Node) : Except Error Nat :=
  workspace.widthFrom workspace.structPlaces node

end SheetWire.Workspace
