import Mathlib.Data.List.Nodup
import SheetWire.Proofs.Workspace.Nodes

/-!
# Every node has its own place

The place of a field starts where the place of the field around it ends, and fields side by side go
on at different positions. So the nodes of a workspace are listed with different places
(`nodup_places`), and the places of its structs are listed once each (`nodup_struct_places`).
-/

namespace SheetWire

namespace Field

mutual

/-- A node of a field stands at its place or below it. -/
theorem suffix_of_mem_nodes (place : Place) (field : Field) {node : Node}
    (h : node ∈ nodes place field) : place.path <:+ node.place.path := by
  match field with
  | .list label element =>
      rw [nodes, List.mem_cons] at h
      rcases h with rfl | h
      · exact List.suffix_refl _
      · exact (List.suffix_cons 0 _).trans (suffix_of_mem_nodes (place.child 0) element h)
  | .dictionary label key value =>
      rw [nodes, List.mem_cons, List.mem_append] at h
      rcases h with rfl | h | h
      · exact List.suffix_refl _
      · exact (List.suffix_cons 0 _).trans (suffix_of_mem_nodes (place.child 0) key h)
      · exact (List.suffix_cons 1 _).trans (suffix_of_mem_nodes (place.child 1) value h)
  | .struct label typeName fields =>
      rw [nodes, List.mem_cons] at h
      rcases h with rfl | h
      · exact List.suffix_refl _
      · obtain ⟨position, -, hsuffix⟩ := suffix_of_mem_nodes_all place 0 fields h
        exact (List.suffix_cons position _).trans hsuffix
  | .primitive label kind =>
      obtain rfl := List.mem_singleton.mp h
      exact List.suffix_refl _
  | .enum label typeName members =>
      obtain rfl := List.mem_singleton.mp h
      exact List.suffix_refl _
  | .reference label target =>
      obtain rfl := List.mem_singleton.mp h
      exact List.suffix_refl _

/-- A node of fields side by side stands at one of their positions or below it. -/
theorem suffix_of_mem_nodes_all (place : Place) (first : Nat) (fields : List Field) {node : Node}
    (h : node ∈ nodesAll place first fields) :
    ∃ position, first ≤ position ∧ position :: place.path <:+ node.place.path := by
  match fields with
  | [] => exact absurd h List.not_mem_nil
  | field :: rest =>
      rw [nodesAll, List.mem_append] at h
      rcases h with h | h
      · exact ⟨first, Nat.le_refl first, suffix_of_mem_nodes (place.child first) field h⟩
      · obtain ⟨position, hposition, hsuffix⟩ := suffix_of_mem_nodes_all place (first + 1) rest h
        exact ⟨position, by omega, hsuffix⟩

end

/-- Two positions do not lead to one place. -/
theorem position_unique {position other : Nat} {path below : List Nat}
    (h : position :: path <:+ below) (hother : other :: path <:+ below) : position = other := by
  have hsame := List.suffix_of_suffix_length_le h hother (Nat.le_refl _)
  exact (List.cons.inj (hsame.eq_of_length rfl)).1

/-- A node below a position does not stand at the place itself. -/
theorem place_ne_of_suffix {place below : Place} {position : Nat}
    (h : position :: place.path <:+ below.path) : below ≠ place := by
  rintro rfl
  have hlength := h.length_le
  rw [List.length_cons] at hlength
  omega

/-- Nodes that come at a position stand elsewhere than nodes that come later. -/
theorem disjoint_places (place : Place) (first : Nat) (field : Field) (rest : List Field) :
    List.Disjoint ((nodes (place.child first) field).map Node.place)
      ((nodesAll place (first + 1) rest).map Node.place) := by
  intro below hfield hrest
  obtain ⟨node, hnode, rfl⟩ := List.mem_map.mp hfield
  obtain ⟨other, hother, hsame⟩ := List.mem_map.mp hrest
  obtain ⟨position, hposition, hsuffix⟩ := suffix_of_mem_nodes_all place (first + 1) rest hother
  rw [hsame] at hsuffix
  have hfirst := position_unique (suffix_of_mem_nodes (place.child first) field hnode) hsuffix
  omega

mutual

/-- The nodes of a field have different places. -/
theorem nodup_places (place : Place) (field : Field) :
    ((nodes place field).map Node.place).Nodup := by
  match field with
  | .list label element =>
      rw [nodes, List.map_cons, List.nodup_cons]
      refine ⟨fun hmem => ?_, nodup_places (place.child 0) element⟩
      obtain ⟨node, hnode, hplace⟩ := List.mem_map.mp hmem
      exact place_ne_of_suffix (suffix_of_mem_nodes (place.child 0) element hnode) hplace
  | .dictionary label key value =>
      have hvalue : nodesAll place 1 [value] = nodes (place.child 1) value := List.append_nil _
      have hdisjoint := disjoint_places place 0 key [value]
      rw [hvalue] at hdisjoint
      rw [nodes, List.map_cons, List.nodup_cons, List.map_append, List.nodup_append']
      refine ⟨fun hmem => ?_, nodup_places (place.child 0) key, nodup_places (place.child 1) value,
        hdisjoint⟩
      rw [← List.map_append] at hmem
      obtain ⟨node, hnode, hplace⟩ := List.mem_map.mp hmem
      rcases List.mem_append.mp hnode with hnode | hnode
      · exact place_ne_of_suffix (suffix_of_mem_nodes (place.child 0) key hnode) hplace
      · exact place_ne_of_suffix (suffix_of_mem_nodes (place.child 1) value hnode) hplace
  | .struct label typeName fields =>
      rw [nodes, List.map_cons, List.nodup_cons]
      refine ⟨fun hmem => ?_, nodup_places_all place 0 fields⟩
      obtain ⟨node, hnode, hplace⟩ := List.mem_map.mp hmem
      obtain ⟨position, -, hsuffix⟩ := suffix_of_mem_nodes_all place 0 fields hnode
      exact place_ne_of_suffix hsuffix hplace
  | .primitive label kind => exact List.nodup_singleton _
  | .enum label typeName members => exact List.nodup_singleton _
  | .reference label target => exact List.nodup_singleton _

/-- The nodes of fields side by side have different places. -/
theorem nodup_places_all (place : Place) (first : Nat) (fields : List Field) :
    ((nodesAll place first fields).map Node.place).Nodup := by
  match fields with
  | [] => exact List.nodup_nil
  | field :: rest =>
      rw [nodesAll, List.map_append, List.nodup_append']
      exact ⟨nodup_places (place.child first) field, nodup_places_all place (first + 1) rest,
        disjoint_places place first field rest⟩

end

end Field

/-- What is picked from a list is part of another form of the list if only this form is picked. -/
theorem filter_map_sublist {α β : Type} {pick : α → Option β} {form : α → β}
    (h : ∀ x y, pick x = some y → form x = y) (list : List α) :
    (list.filterMap pick).Sublist (list.map form) := by
  induction list with
  | nil => exact .slnil
  | cons x list ih =>
      cases hx : pick x with
      | none =>
          rw [List.filterMap_cons_none hx]
          exact ih.cons _
      | some y =>
          rw [List.filterMap_cons_some hx, List.map_cons, h x y hx]
          exact ih.cons_cons y

namespace Workspace

/-- The nodes of a scheme have different places, with its number in all of them. -/
theorem nodup_places_of (workspace : Workspace) (number : Nat) :
    ((workspace.nodesOf number).map Node.place).Nodup ∧
      ∀ node ∈ workspace.nodesOf number, node.place.scheme = number := by
  rw [nodesOf]
  cases workspace.scheme? number with
  | none => exact ⟨List.nodup_nil, fun node hnode => absurd hnode List.not_mem_nil⟩
  | some scheme =>
      exact ⟨Field.nodup_places_all _ _ _, fun node hnode => (Scheme.follow_nodes hnode).1⟩

/-- The nodes of a workspace have different places. -/
theorem nodup_places (workspace : Workspace) : (workspace.nodes.map Node.place).Nodup := by
  rw [nodes, List.map_flatMap, List.nodup_flatMap]
  refine ⟨fun number _ => (workspace.nodup_places_of number).1, ?_⟩
  refine List.nodup_range.imp fun hne place hfirst hsecond => hne ?_
  obtain ⟨node, hnode, rfl⟩ := List.mem_map.mp hfirst
  obtain ⟨other, hother, hsame⟩ := List.mem_map.mp hsecond
  rw [← (workspace.nodup_places_of _).2 node hnode, ← (workspace.nodup_places_of _).2 other hother,
    hsame]

/-- The places of structs are listed once each. -/
theorem nodup_struct_places (workspace : Workspace) : workspace.structPlaces.Nodup := by
  refine workspace.nodup_places.sublist (filter_map_sublist (fun node place h => ?_) _)
  obtain ⟨other, field⟩ := node
  cases field with
  | struct => exact Option.some.inj h
  | primitive | list | dictionary | enum | reference => cases h

end Workspace

end SheetWire
