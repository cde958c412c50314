import Mathlib.Data.List.Basic
import SheetWire.Proofs.Definition.Filled
import SheetWire.Proofs.Workspace.Index

/-!
# What resolving binds

Resolving changes nothing but bindings. A reference that it is given is bound to what the index
holds under the key, unless it was bound before, and every other binding is as it was
(`binding_resolve_of_reference`, `binding_resolve_of_not_reference`). Where nothing was bound
before, a reference of some schemes that are resolved against each other is bound if and only if one
of them declares its key, and its target is the declaration that the key leads to
(`resolve_binds_declared`).
-/

namespace SheetWire

namespace Node

/-- The label and the key of a reference. -/
def reference? (node : Node) : Option (Label × TypeKey) :=
  match node.field with
  | .reference label key => some (label, key)
  | _ => none

/-- The references among the nodes. -/
theorem reference_eq_some {node : Node} {label : Label} {key : TypeKey} :
    node.reference? = some (label, key) ↔ node.field = .reference label key := by
  obtain ⟨place, field⟩ := node
  cases field <;> simp [reference?]

end Node

namespace Workspace

variable {workspace : Workspace}

/-- The references of a scheme are among its nodes. -/
theorem references_of_eq (workspace : Workspace) (number : Nat) :
    workspace.referencesOf number = (workspace.nodesOf number).filterMap fun node =>
      node.reference?.map fun reference => (node.place, reference) := by
  refine congrFun (congrArg List.filterMap ?_) _
  funext node
  obtain ⟨place, field⟩ := node
  cases field <;> rfl

/-- The references of some schemes are among their nodes. -/
theorem references_of_numbers (workspace : Workspace) (numbers : List Nat) :
    numbers.flatMap workspace.referencesOf = (numbers.flatMap workspace.nodesOf).filterMap
      fun node => node.reference?.map fun reference => (node.place, reference) := by
  rw [List.filterMap_flatMap]
  exact congrFun (congrArg List.flatMap (funext workspace.references_of_eq)) _

/-- The nodes of some schemes are nodes of the workspace. -/
theorem mem_nodes_of_numbers {numbers : List Nat} {node : Node}
    (h : node ∈ numbers.flatMap workspace.nodesOf) : node ∈ workspace.nodes := by
  obtain ⟨number, -, hnode⟩ := List.mem_flatMap.mp h
  rw [nodesOf] at hnode
  split at hnode
  · rename_i scheme hscheme
    exact mem_nodes.mpr ⟨number, scheme, hscheme, hnode⟩
  · exact absurd hnode List.not_mem_nil

/-- The references of a scheme in the order of the walk. -/
theorem references_of_scheme {number : Nat} {scheme : Scheme}
    (h : workspace.scheme? number = some scheme) :
    (workspace.referencesOf number).map Prod.snd = scheme.references := by
  rw [references_of_eq, nodes_of_scheme h, List.map_filterMap, Scheme.references,
    ← scheme.map_field_nodes number, List.filterMap_map]
  refine congrFun (congrArg List.filterMap ?_) _
  funext node
  obtain ⟨place, field⟩ := node
  cases field <;> rfl

/-- The references of some schemes in the order of the schemes and of the walk in each. -/
theorem references_of_schemes (workspace : Workspace) (numbers : List Nat) :
    (numbers.flatMap workspace.referencesOf).map Prod.snd =
      (numbers.filterMap workspace.scheme?).flatMap Scheme.references := by
  induction numbers with
  | nil => rfl
  | cons number rest ih =>
      rw [List.flatMap_cons, List.map_append, ih, List.filterMap_cons]
      cases hscheme : workspace.scheme? number with
      | none =>
          have hnone : workspace.referencesOf number = [] := by
            rw [referencesOf, nodesOf, hscheme]
            rfl
          rw [hnone]
          rfl
      | some scheme =>
          rw [references_of_scheme hscheme]
          rfl

/-- What stands at a place depends on the schemes only. -/
theorem node_at_congr {other : Workspace} (h : workspace.schemes = other.schemes) (place : Place) :
    workspace.node? place = other.node? place := by
  unfold node? scheme?
  rw [h]

/-- What a reference is bound to after one binding. -/
theorem binding_bind (workspace : Workspace) (place other : Place) (handle : TypeHandle) :
    (workspace.bind place handle).binding? other =
      (workspace.binding? other).or (if other = place then some handle else none) := by
  rw [bind]
  split
  · rename_i hbound
    obtain ⟨held, hheld⟩ := Option.isSome_iff_exists.mp hbound
    by_cases h : other = place
    · rw [h, hheld]
      rfl
    · rw [if_neg h, Option.or_none]
  · rw [binding?, binding?, List.lookup_append, List.lookup_cons]
    by_cases h : other = place
    · rw [if_pos h, h, beq_self_eq_true]
    · rw [if_neg h, beq_false_of_ne h]
      rfl

end Workspace

namespace Index

open Workspace

variable {index : Index} {workspace : Workspace}

/-- Every reference is counted as bound or listed as not bound. -/
theorem length_resolve_all (index : Index) (workspace : Workspace)
    (references : List (Place × Label × TypeKey)) :
    (index.resolveAll workspace references).2.bound +
      (index.resolveAll workspace references).2.unbound.length = references.length := by
  induction references generalizing workspace with
  | nil => rfl
  | cons reference rest ih =>
      obtain ⟨place, label, key⟩ := reference
      rw [resolveAll, List.length_cons]
      cases index.get? key with
      | none => exact congrArg (· + 1) (ih workspace)
      | some handle =>
          rw [← ih (workspace.bind place handle)]
          exact Nat.add_right_comm _ _ _

/-- The report on references that are nodes: those with an entry are counted, the others listed. -/
theorem report_resolve_all {found : Node → Bool} {nodes : List Node} (index : Index)
    (workspace : Workspace)
    (h : ∀ node ∈ nodes, ∀ reference, node.reference? = some reference →
      found node = (index.get? reference.2).isSome) :
    (index.resolveAll workspace (nodes.filterMap fun node =>
        node.reference?.map fun reference => (node.place, reference))).2 =
      ⟨nodes.countP fun node => node.reference?.isSome && found node,
        nodes.filterMap fun node => if found node then none else node.reference?⟩ := by
  induction nodes generalizing workspace with
  | nil => rfl
  | cons node rest ih =>
      rw [List.forall_mem_cons] at h
      obtain ⟨hnode, hrest⟩ := h
      rw [List.countP_cons, List.filterMap_cons, List.filterMap_cons]
      cases hreference : node.reference? with
      | none => simpa using ih workspace hrest
      | some reference =>
          obtain ⟨label, key⟩ := reference
          have hfound := hnode _ hreference
          simp only [Option.map_some, resolveAll]
          cases hget : index.get? key with
          | none =>
              rw [hget] at hfound
              simp [ih _ hrest, hfound]
          | some handle =>
              rw [hget] at hfound
              simp [ih _ hrest, hfound]

/-- The report on the references of some schemes. -/
theorem report_resolve {found : Node → Bool} {numbers : List Nat} (index : Index)
    (workspace : Workspace)
    (h : ∀ node ∈ numbers.flatMap workspace.nodesOf, ∀ reference,
      node.reference? = some reference → found node = (index.get? reference.2).isSome) :
    (index.resolve workspace numbers).2 =
      ⟨(numbers.flatMap workspace.nodesOf).countP fun node =>
          node.reference?.isSome && found node,
        (numbers.flatMap workspace.nodesOf).filterMap fun node =>
          if found node then none else node.reference?⟩ := by
  rw [resolve, references_of_numbers, report_resolve_all index workspace h]

/-- What a reference is bound to after the references of a list have been bound. -/
theorem binding_resolve_all (index : Index) (workspace : Workspace)
    (references : List (Place × Label × TypeKey)) (place : Place) :
    (index.resolveAll workspace references).1.binding? place =
      (workspace.binding? place).or (references.findSome? fun reference =>
        if place = reference.1 then index.get? reference.2.2 else none) := by
  induction references generalizing workspace with
  | nil => simp [resolveAll]
  | cons reference rest ih =>
      obtain ⟨first, label, key⟩ := reference
      rw [List.findSome?_cons, resolveAll]
      cases hget : index.get? key with
      | none => simp [ih]
      | some handle =>
          simp only [ih, binding_bind, Option.or_assoc]
          by_cases h : place = first <;> simp [h]

/-- What is found first where everything that is found is the same. -/
theorem find_some_eq {α β : Type} {f : α → Option β} {list : List α} {result : Option β}
    (hall : ∀ x ∈ list, f x = result ∨ f x = none) (hsome : ∃ x ∈ list, f x = result) :
    list.findSome? f = result := by
  cases result with
  | none =>
      rw [List.findSome?_eq_none_iff]
      exact fun x hx => (hall x hx).elim id id
  | some y =>
      cases hfind : list.findSome? f with
      | none =>
          obtain ⟨x, hx, hfx⟩ := hsome
          rw [List.findSome?_eq_none_iff.mp hfind x hx] at hfx
          exact hfx
      | some z =>
          obtain ⟨x, hx, hfx⟩ := List.exists_of_findSome?_eq_some hfind
          rcases hall x hx with h | h
          · rw [← hfx, h]
          · rw [h] at hfx
            exact nomatch hfx

/-- A reference of the schemes that are resolved is bound to what the index holds under its key,
unless it was bound before. -/
theorem binding_resolve_of_reference {numbers : List Nat} {node : Node} {label : Label}
    {key : TypeKey} (hnode : node ∈ numbers.flatMap workspace.nodesOf)
    (hfield : node.field = .reference label key) :
    (index.resolve workspace numbers).1.binding? node.place =
      (workspace.binding? node.place).or (index.get? key) := by
  rw [resolve, binding_resolve_all, references_of_numbers]
  congr 1
  refine find_some_eq ?_ ?_
  · -- Whatever else stands at the place is the same node, so it has the same key.
    rintro ⟨place, other⟩ hother
    obtain ⟨found, hfound, hmade⟩ := List.mem_filterMap.mp hother
    obtain ⟨reference, hreference, hsame⟩ := Option.map_eq_some_iff.mp hmade
    cases hsame
    by_cases hplace : node.place = found.place
    · have hsame : node = found := by
        have hat := node_at_iff.mpr (mem_nodes_of_numbers hnode)
        rw [hplace, node_at_iff.mpr (mem_nodes_of_numbers hfound)] at hat
        exact (Option.some.inj hat).symm
      subst hsame
      rw [Node.reference_eq_some.mpr hfield] at hreference
      cases hreference
      exact .inl (if_pos rfl)
    · exact .inr (if_neg hplace)
  · refine ⟨(node.place, label, key), ?_, if_pos rfl⟩
    refine List.mem_filterMap.mpr ⟨node, hnode, ?_⟩
    rw [Node.reference_eq_some.mpr hfield]
    rfl

/-- What is no reference of the schemes that are resolved keeps its binding. -/
theorem binding_resolve_of_not_reference {numbers : List Nat} {place : Place}
    (h : ∀ node ∈ numbers.flatMap workspace.nodesOf, node.place = place → node.reference? = none) :
    (index.resolve workspace numbers).1.binding? place = workspace.binding? place := by
  have hnone : ((numbers.flatMap workspace.referencesOf).findSome? fun reference =>
      if place = reference.1 then index.get? reference.2.2 else none) = none := by
    rw [List.findSome?_eq_none_iff, references_of_numbers]
    intro reference hreference
    obtain ⟨node, hnode, hmade⟩ := List.mem_filterMap.mp hreference
    obtain ⟨made, hmade, rfl⟩ := Option.map_eq_some_iff.mp hmade
    refine if_neg fun hplace => ?_
    rw [h node hnode hplace.symm] at hmade
    exact nomatch hmade
  rw [resolve, binding_resolve_all, hnone, Option.or_none]

/-- A binding after resolving is an old one, or that of a reference that was resolved. -/
theorem binding_resolve_cases {numbers : List Nat} {place : Place} {handle : TypeHandle}
    (h : (index.resolve workspace numbers).1.binding? place = some handle) :
    workspace.binding? place = some handle ∨
      ∃ node ∈ numbers.flatMap workspace.nodesOf, node.place = place ∧
        ∃ label key, node.field = .reference label key ∧ index.get? key = some handle := by
  by_cases hplace : ∃ node ∈ numbers.flatMap workspace.nodesOf,
      node.place = place ∧ node.reference?.isSome
  · obtain ⟨node, hnode, rfl, hreference⟩ := hplace
    obtain ⟨⟨label, key⟩, hreference⟩ := Option.isSome_iff_exists.mp hreference
    have hfield := Node.reference_eq_some.mp hreference
    rw [binding_resolve_of_reference hnode hfield, Option.or_eq_some_iff] at h
    exact h.imp id fun h => ⟨node, hnode, rfl, label, key, hfield, h.2⟩
  · rw [binding_resolve_of_not_reference] at h
    · exact .inl h
    · intro node hnode hsame
      by_contra hreference
      exact hplace ⟨node, hnode, hsame, Option.isSome_iff_ne_none.mpr hreference⟩

/-- A binding stays as it is. -/
theorem binding_resolve_of_bound {numbers : List Nat} {place : Place} {handle : TypeHandle}
    (h : workspace.binding? place = some handle) :
    (index.resolve workspace numbers).1.binding? place = some handle := by
  rw [resolve, binding_resolve_all, h]
  rfl

end Index

namespace Workspace

variable {workspace : Workspace} {numbers : List Nat}

/-- The declaration that a key leads to is a node of the workspace. -/
theorem Declared.mem_nodes {key : TypeKey} {node : Node}
    (h : workspace.Declared numbers key node) : node ∈ workspace.nodes := by
  obtain ⟨number, hnumber, hnode⟩ := h
  refine mem_nodes_of_numbers (List.mem_flatMap.mpr ⟨number, hnumber.mem, hnode.type_name.1⟩)

/-- What a reference is bound to after its scheme has been resolved where it was not bound. -/
theorem binding_of_unbound {index : Index} {node : Node} {label : Label} {key : TypeKey}
    (hbindings : workspace.bindings = []) (hnode : node ∈ numbers.flatMap workspace.nodesOf)
    (hfield : node.field = .reference label key) :
    (index.resolve workspace numbers).1.binding? node.place = index.get? key := by
  rw [Index.binding_resolve_of_reference hnode hfield, binding?, hbindings]
  rfl

/-- Some schemes with nothing bound, resolved against each other: a reference in them is bound if
and only if one of them declares its key, and its target is the declaration that the key leads to.
The report counts the references that are bound and lists the others in the order of the walk. -/
theorem resolve_binds_declared (schemes : List Scheme) (numbers : List Nat) :
    let fresh := ofSchemes schemes
    let nodes := numbers.flatMap fresh.nodesOf
    let resolved := (fresh.resolve numbers).2.1
    let report := (fresh.resolve numbers).2.2
    (∀ node ∈ nodes, ∀ label key, node.field = .reference label key →
      ((resolved.binding? node.place).isSome ↔ ∃ number ∈ numbers, fresh.Declares key number) ∧
      ∀ target, resolved.target? node.place = some target ↔ fresh.Declared numbers key target) ∧
    report.bound = (nodes.countP fun node =>
      node.reference?.isSome && (resolved.binding? node.place).isSome) ∧
    report.unbound = nodes.filterMap fun node =>
      if (resolved.binding? node.place).isSome then none else node.reference? := by
  intro fresh nodes resolved report
  have hbinding : ∀ node ∈ nodes, ∀ label key, node.field = .reference label key →
      resolved.binding? node.place = (Index.build fresh numbers).get? key :=
    fun node hnode label key hfield => binding_of_unbound rfl hnode hfield
  have hplaces : ∀ place, resolved.node? place = fresh.node? place :=
    node_at_congr (schemes_resolve_all _ _ _)
  have hfound : ∀ node ∈ nodes, ∀ reference, node.reference? = some reference →
      (resolved.binding? node.place).isSome =
        ((Index.build fresh numbers).get? reference.2).isSome := by
    intro node hnode reference hreference
    rw [hbinding node hnode _ _ (Node.reference_eq_some.mp hreference)]
  have hreport := Index.report_resolve (Index.build fresh numbers) fresh hfound
  refine ⟨fun node hnode label key hfield => ⟨?_, fun target => ?_⟩,
    congrArg Resolution.bound hreport, congrArg Resolution.unbound hreport⟩
  · rw [hbinding node hnode label key hfield, Option.isSome_iff_exists, ← exists_declared]
    simp only [Index.get_build]
    constructor
    · rintro ⟨-, target, htarget, -⟩
      exact ⟨target, htarget⟩
    · rintro ⟨target, htarget⟩
      exact ⟨_, target, htarget, rfl⟩
  · simp only [target?, hbinding node hnode label key hfield, Option.bind_eq_bind,
      Option.bind_eq_some_iff, Index.get_build, hplaces]
    constructor
    · rintro ⟨-, ⟨declared, hdeclared, rfl⟩, htarget⟩
      rw [Node.place_handle, node_at_iff.mpr hdeclared.mem_nodes] at htarget
      exact Option.some.inj htarget ▸ hdeclared
    · intro hdeclared
      exact ⟨_, ⟨target, hdeclared, rfl⟩,
        by rw [Node.place_handle, node_at_iff.mpr hdeclared.mem_nodes]⟩

-- The reference stands before the scheme it points to, and the enum wins over the later struct.
example :
    let heroes : Scheme := ⟨"Heroes", [.reference ⟨"Heroes", "kind"⟩ ⟨"Kinds", "Kind"⟩]⟩
    let kinds : Scheme :=
      ⟨"Kinds", [.enum ⟨"Kinds", "kind"⟩ "Kind" [], .struct ⟨"Kinds", "other"⟩ "Kind" []]⟩
    (resolved [heroes, kinds]).binding? ⟨0, [0]⟩ = some ⟨.enum, ⟨1, [0]⟩⟩ := by
  rfl

end Workspace

end SheetWire
