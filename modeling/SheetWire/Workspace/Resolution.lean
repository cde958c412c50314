import SheetWire.Workspace.Basic

/-!
# Binding references

An index holds a handle for every struct and enum of a list of schemes, by table and type name. Of
two types under one key the later one wins, and within a scheme the enums come after the structs.
Resolving binds every reference whose key is in the index; the index is complete before the first
reference is looked up, so the order of the schemes does not hide a type.
-/

namespace SheetWire

/-- Handles by table and type name, each key once. -/
structure Index where
  entries : List (TypeKey × TypeHandle) := []
  deriving DecidableEq, Repr

/-- The outcome of resolving: how many references have an entry, and those that have none. -/
structure Resolution where
  bound : Nat
  unbound : List (Label × TypeKey)
  deriving DecidableEq, Repr

/-- The entries with one more; it takes the place of an entry under the same key. -/
def Index.insertEntry (key : TypeKey) (handle : TypeHandle) :
    List (TypeKey × TypeHandle) → List (TypeKey × TypeHandle)
  | [] => [(key, handle)]
  | (other, held) :: rest =>
      if other = key then (key, handle) :: rest
      else (other, held) :: insertEntry key handle rest

namespace Scheme

/-- The structs that the scheme declares under its number, with their keys. -/
def structEntries (number : Nat) (scheme : Scheme) : List (TypeKey × TypeHandle) :=
  (scheme.nodes number).filterMap fun node =>
    match node.field with
    | .struct _ typeName _ => some (⟨scheme.table, typeName⟩, ⟨.struct, node.place⟩)
    | _ => none

/-- The enums that the scheme declares under its number, with their keys. -/
def enumEntries (number : Nat) (scheme : Scheme) : List (TypeKey × TypeHandle) :=
  (scheme.nodes number).filterMap fun node =>
    match node.field with
    | .enum _ typeName _ => some (⟨scheme.table, typeName⟩, ⟨.enum, node.place⟩)
    | _ => none

end Scheme

namespace Workspace

/-- The types that the scheme of a number declares, structs before enums. -/
def declarations (workspace : Workspace) (number : Nat) : List (TypeKey × TypeHandle) :=
  match workspace.scheme? number with
  | some scheme => scheme.structEntries number ++ scheme.enumEntries number
  | none => []

/-- The places of the references of the scheme of a number, with their labels and keys. -/
def referencesOf (workspace : Workspace) (number : Nat) : List (Place × Label × TypeKey) :=
  (workspace.nodesOf number).filterMap fun node =>
    match node.field with
    | .reference label target => some (node.place, label, target)
    | _ => none

end Workspace

namespace Index

/-- The handle under a key. -/
def get? (index : Index) (key : TypeKey) : Option TypeHandle :=
  index.entries.lookup key

/-- The number of keys. -/
def size (index : Index) : Nat :=
  index.entries.length

/-- Whether there are no keys. -/
def isEmpty (index : Index) : Bool :=
  index.entries.isEmpty

/-- The index with one more handle, which replaces the one under the same key. -/
def insert (index : Index) (key : TypeKey) (handle : TypeHandle) : Index :=
  ⟨insertEntry key handle index.entries⟩

/-- The index of the types of the schemes with the given numbers. -/
def build (workspace : Workspace) (numbers : List Nat) : Index :=
  (numbers.flatMap workspace.declarations).foldl
    (fun index entry => index.insert entry.1 entry.2) ⟨[]⟩

/-- Binds the references of a list and reports them. -/
def resolveAll (index : Index) :
    Workspace → List (Place × Label × TypeKey) → Workspace × Resolution
  | workspace, [] => (workspace, ⟨0, []⟩)
  | workspace, (place, label, key) :: rest =>
      match index.get? key with
      | some handle =>
          let (workspace, resolution) := resolveAll index (workspace.bind place handle) rest
          (workspace, ⟨resolution.bound + 1, resolution.unbound⟩)
      | none =>
          let (workspace, resolution) := resolveAll index workspace rest
          (workspace, ⟨resolution.bound, (label, key) :: resolution.unbound⟩)

/-- Binds the references of the schemes with the given numbers. -/
def resolve (index : Index) (workspace : Workspace) (numbers : List Nat) :
    Workspace × Resolution :=
  index.resolveAll workspace (numbers.flatMap workspace.referencesOf)

end Index

/-- The schemes with the given numbers resolved against each other: the index of their types, the
workspace with their references bound, and the report. -/
def Workspace.resolve (workspace : Workspace) (numbers : List Nat) :
    Index × Workspace × Resolution :=
  let index := Index.build workspace numbers
  (index, index.resolve workspace numbers)

/-- Some schemes, resolved against each other. -/
def Workspace.resolved (schemes : List Scheme) : Workspace :=
  ((Workspace.ofSchemes schemes).resolve (List.range schemes.length)).2.1

end SheetWire
