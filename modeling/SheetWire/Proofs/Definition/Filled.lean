import SheetWire.Proofs.Definition.Acceptance
import SheetWire.Proofs.Workspace.Nodes

/-!
# Structs that have a subfield

The grammar asks for at least one subfield in a struct, so every struct of a field that was read
from a definition has one, at any depth. This holds of every scheme that is built
(`filled_of_build`) and of every workspace of such schemes (`filled_of_built`).
-/

namespace SheetWire

namespace Field

mutual

/-- Whether every struct of the field has a subfield, at any depth. -/
def Filled : Field → Prop
  | .list _ element => Filled element
  | .dictionary _ key value => Filled key ∧ Filled value
  | .struct _ _ fields => fields ≠ [] ∧ FilledAll fields
  | _ => True

/-- Whether every struct of some fields has a subfield, at any depth. -/
def FilledAll : List Field → Prop
  | [] => True
  | field :: rest => Filled field ∧ FilledAll rest

end

/-- Another name leaves the structs of a field as they are. -/
theorem filled_rename {field : Field} (name : String) (h : field.Filled) :
    (field.rename name).Filled := by
  cases field <;> exact h

mutual

/-- The fields inside a field whose structs have subfields are such fields. -/
theorem filled_of_mem_nodes {place : Place} {field : Field} {node : Node}
    (hfield : field.Filled) (h : node ∈ nodes place field) : node.field.Filled := by
  match field with
  | .list label element =>
      rw [nodes, List.mem_cons] at h
      rcases h with rfl | h
      · exact hfield
      · exact filled_of_mem_nodes (show element.Filled from hfield) h
  | .dictionary label key value =>
      rw [nodes, List.mem_cons, List.mem_append] at h
      rcases h with rfl | h | h
      · exact hfield
      · exact filled_of_mem_nodes hfield.1 h
      · exact filled_of_mem_nodes hfield.2 h
  | .struct label typeName fields =>
      rw [nodes, List.mem_cons] at h
      rcases h with rfl | h
      · exact hfield
      · exact filled_of_mem_nodes_all hfield.2 h
  | .primitive _ _ | .enum _ _ _ | .reference _ _ =>
      obtain rfl := List.mem_singleton.mp h
      exact hfield

/-- The fields inside some fields whose structs have subfields are such fields. -/
theorem filled_of_mem_nodes_all {place : Place} {first : Nat} {fields : List Field} {node : Node}
    (hfields : FilledAll fields) (h : node ∈ nodesAll place first fields) :
    node.field.Filled := by
  match fields with
  | [] => exact absurd h List.not_mem_nil
  | field :: rest =>
      rw [nodesAll, List.mem_append] at h
      rcases h with h | h
      · exact filled_of_mem_nodes hfields.1 h
      · exact filled_of_mem_nodes_all hfields.2 h

end

mutual

/-- The structs of the field of a type have subfields. -/
theorem filled_of_type (inflector : Inflector) (label : Label) :
    (derivation : TypeDerivation) → (derivation.field inflector label).Filled
  | .list element => filled_of_type inflector _ element
  | .dictionary key value => ⟨filled_of_type inflector _ key, filled_of_type inflector _ value⟩
  | .struct subfields => filled_of_subfields inflector label.table subfields
  | .primitive _ | .enum _ | .reference _ _ => True.intro

/-- There are subfields, and the structs of their fields have subfields. -/
theorem filled_of_subfields (inflector : Inflector) (table : String) :
    (subfields : SubfieldDerivation) →
      subfields.fields inflector table ≠ [] ∧ FilledAll (subfields.fields inflector table)
  | .last type name =>
      ⟨List.cons_ne_nil _ _, filled_rename name.text (filled_of_type inflector _ type), True.intro⟩
  | .more type name rest =>
      ⟨List.cons_ne_nil _ _, filled_rename name.text (filled_of_type inflector _ type),
        (filled_of_subfields inflector table rest).2⟩

end

/-- The structs of a field that a definition stands for have subfields. -/
theorem filled_of_definition {inflector : Inflector} {label : Label} {definition : String}
    {field : Field} (h : ofDefinition inflector label definition = .ok field) : field.Filled := by
  obtain ⟨derivation, -, rfl⟩ := derived_of_accepted h
  exact filled_of_type inflector label derivation

end Field

namespace Scheme

/-- The structs of columns that were built have subfields. -/
theorem filled_of_build_columns {inflector : Inflector} {table : String}
    {headers : List (String × String)} {columns : List Field}
    (h : buildColumns inflector table headers = .ok columns) : Field.FilledAll columns := by
  induction headers generalizing columns with
  | nil =>
      cases h
      exact True.intro
  | cons header rest ih =>
      obtain ⟨name, definition⟩ := header
      rw [buildColumns] at h
      obtain ⟨column, hfirst, h⟩ := bind_eq_ok.mp h
      obtain ⟨others, hrest, h⟩ := bind_eq_ok.mp h
      cases h
      exact ⟨Field.filled_of_definition (map_error_eq_ok.mp hfirst), ih hrest⟩

/-- The structs of a scheme that was built have subfields. -/
theorem filled_of_build {table : String} {names definitions : List String} {inflector : Inflector}
    {scheme : Scheme} (h : build table names definitions inflector = .ok scheme) :
    Field.FilledAll scheme.columns := by
  rw [build] at h
  split at h
  · obtain ⟨columns, hcolumns, h⟩ := bind_eq_ok.mp h
    obtain ⟨_, -, h⟩ := bind_eq_ok.mp h
    cases h
    exact filled_of_build_columns hcolumns
  · exact nomatch h

end Scheme

namespace Workspace

/-- Whether every scheme of the workspace was built from header rows. -/
def Built (workspace : Workspace) : Prop :=
  ∀ number scheme, workspace.scheme? number = some scheme →
    ∃ inflector names definitions,
      Scheme.build scheme.table names definitions inflector = .ok scheme

/-- Where every scheme was built, every struct has a subfield. -/
theorem filled_of_built {workspace : Workspace} (h : workspace.Built) : workspace.Filled := by
  intro node hnode label typeName hfield
  obtain ⟨number, scheme, hscheme, hmem⟩ := mem_nodes.mp hnode
  obtain ⟨inflector, names, definitions, hbuild⟩ := h number scheme hscheme
  have hfilled := Field.filled_of_mem_nodes_all (Scheme.filled_of_build hbuild) hmem
  rw [hfield] at hfilled
  exact hfilled.1 rfl

/-- Binding a reference leaves the schemes as they are. -/
theorem schemes_bind (workspace : Workspace) (place : Place) (handle : TypeHandle) :
    (workspace.bind place handle).schemes = workspace.schemes := by
  unfold bind
  split <;> rfl

/-- Binding references leaves the schemes as they are. -/
theorem schemes_resolve_all (index : Index) (workspace : Workspace)
    (references : List (Place × Label × TypeKey)) :
    (index.resolveAll workspace references).1.schemes = workspace.schemes := by
  induction references generalizing workspace with
  | nil => rfl
  | cons reference rest ih =>
      obtain ⟨place, label, key⟩ := reference
      unfold Index.resolveAll
      cases index.get? key with
      | none => exact ih workspace
      | some handle =>
          show (index.resolveAll (workspace.bind place handle) rest).1.schemes = _
          rw [ih, schemes_bind]

/-- Schemes that were built make up a workspace of built schemes when they are resolved. -/
theorem built_resolved {schemes : List Scheme}
    (h : ∀ scheme ∈ schemes, ∃ inflector names definitions,
      Scheme.build scheme.table names definitions inflector = .ok scheme) :
    (resolved schemes).Built := by
  intro number scheme hscheme
  have hschemes : (resolved schemes).schemes = schemes.map some := schemes_resolve_all _ _ _
  unfold scheme? at hscheme
  rw [hschemes, List.getElem?_map, Option.join_eq_some_iff, Option.map_eq_some_iff] at hscheme
  obtain ⟨found, hfound, hsame⟩ := hscheme
  cases hsame
  exact h scheme (List.mem_of_getElem? hfound)

end Workspace

end SheetWire
