import SheetWire.Proofs.Row.Likeness
import SheetWire.Proofs.Workspace.Places

/-!
# Schemes under other numbers

A workspace can hold the schemes of another under other numbers, with references that point to the
same declarations there. Nothing that is said about cells depends on the numbers: nodes have the
same shapes with other places in them (`Renumbers.shape`), the same widths or errors
(`Renumbers.width`), and rows are encoded alike (`Renumbers.encode_rows`).
-/

namespace SheetWire

/-- The place with another number for its scheme. -/
def Place.under (renumber : Nat → Nat) (place : Place) : Place :=
  ⟨renumber place.scheme, place.path⟩

/-- The node at the place with another number for its scheme. -/
def Node.under (renumber : Nat → Nat) (node : Node) : Node :=
  ⟨node.place.under renumber, node.field⟩

/-- The shape with other numbers for the schemes in it. -/
def Shape.under (renumber : Nat → Nat) : Shape → Shape
  | .list element => .list (element.under renumber)
  | .dictionary key value => .dictionary (key.under renumber) (value.under renumber)
  | .struct place typeName subfields =>
      .struct (place.under renumber) typeName (subfields.map (Node.under renumber))
  | .primitive kind => .primitive kind
  | .enum members => .enum members
  | .unbound target => .unbound target

variable {renumber : Nat → Nat}

/-- Fields side by side under another number. -/
theorem Node.siblings_under (place : Place) (first : Nat) (fields : List Field) :
    siblings (place.under renumber) first fields =
      (siblings place first fields).map (Node.under renumber) := by
  induction fields generalizing first with
  | nil => rfl
  | cons field rest ih =>
      rw [siblings, siblings, List.map_cons, ih]
      rfl

/-- The shape of a node under another number. -/
theorem Node.shape_under (node : Node) :
    (node.under renumber).shape = node.shape.under renumber := by
  obtain ⟨place, field⟩ := node
  cases field with
  | struct label typeName fields =>
      show Shape.struct _ _ (siblings (place.under renumber) 0 fields) = _
      rw [siblings_under]
      rfl
  | primitive | list | dictionary | enum | reference => rfl

/-- A shape under another number is like the shape, where its parts are related. -/
theorem Shape.alike_under {related : Node → Node → Prop} {shape : Shape}
    (h : ∀ part ∈ shape.parts, related (part.under renumber) part) :
    Shape.Alike related (shape.under renumber) shape := by
  cases shape with
  | primitive kind => exact .primitive kind
  | list element => exact .list (h _ (List.mem_singleton_self _))
  | dictionary key value =>
      exact .dictionary (h _ List.mem_cons_self)
        (h _ (List.mem_cons_of_mem _ (List.mem_singleton_self _)))
  | struct place typeName subfields =>
      refine .struct typeName ?_
      rw [List.forall₂_map_left_iff, List.forall₂_same]
      exact h
  | enum members => exact .enum members
  | unbound target => exact .unbound target

namespace Field

mutual

/-- The nodes of a field under another number. -/
theorem nodes_under (place : Place) :
    (field : Field) →
      nodes (place.under renumber) field = (nodes place field).map (Node.under renumber)
  | .list label element => by
      rw [nodes, nodes, List.map_cons, ← nodes_under (place.child 0) element]
      rfl
  | .dictionary label key value => by
      rw [nodes, nodes, List.map_cons, List.map_append, ← nodes_under (place.child 0) key,
        ← nodes_under (place.child 1) value]
      rfl
  | .struct label typeName fields => by
      rw [nodes, nodes, List.map_cons, ← nodes_under_all place 0 fields]
      rfl
  | .primitive _ _ | .enum _ _ _ | .reference _ _ => rfl

/-- The nodes of fields side by side under another number. -/
theorem nodes_under_all (place : Place) (first : Nat) :
    (fields : List Field) →
      nodesAll (place.under renumber) first fields =
        (nodesAll place first fields).map (Node.under renumber)
  | [] => rfl
  | field :: rest => by
      rw [nodesAll, nodesAll, List.map_append, ← nodes_under (place.child first) field,
        ← nodes_under_all place (first + 1) rest]
      rfl

end

end Field

namespace Workspace

/-- What is no reference is not followed. -/
theorem shape_of_not_reference {workspace : Workspace} {node : Node}
    (h : ∀ label key, node.field ≠ .reference label key) : workspace.shape node = node.shape := by
  rw [shape]
  split
  · rename_i label key hfield
    exact absurd hfield (h label key)
  · rfl

/-- The nodes of schemes are nodes where the schemes are under other numbers. -/
theorem mem_nodes_under {part whole : Workspace} {node : Node}
    (h : ∀ position scheme, part.scheme? position = some scheme →
      whole.scheme? (renumber position) = some scheme)
    (hnode : node ∈ part.nodes) : node.under renumber ∈ whole.nodes := by
  obtain ⟨position, scheme, hscheme, hmem⟩ := mem_nodes.mp hnode
  refine mem_nodes.mpr ⟨renumber position, scheme, h position scheme hscheme, ?_⟩
  show node.under renumber ∈ Field.nodesAll (Place.under renumber ⟨position, []⟩) 0 scheme.columns
  rw [Field.nodes_under_all]
  exact List.mem_map_of_mem hmem

/-- Whether a workspace holds the schemes of another under other numbers, with references that point
to the same declarations. -/
structure Renumbers (part whole : Workspace) (renumber : Nat → Nat) : Prop where
  scheme : ∀ position scheme, part.scheme? position = some scheme →
    whole.scheme? (renumber position) = some scheme
  injective : ∀ position other, (part.scheme? position).isSome → (part.scheme? other).isSome →
    renumber position = renumber other → position = other
  target : ∀ place label key, ⟨place, .reference label key⟩ ∈ part.nodes →
    whole.target? (place.under renumber) = (part.target? place).map (Node.under renumber)

namespace Renumbers

variable {part whole : Workspace} {node : Node}

/-- The columns of a scheme under its other number. -/
theorem columns_under (h : part.Renumbers whole renumber) {position : Nat} {scheme : Scheme}
    (hscheme : part.scheme? position = some scheme) :
    whole.columns (renumber position) = (part.columns position).map (Node.under renumber) := by
  rw [columns, columns, hscheme, h.scheme position scheme hscheme]
  exact Node.siblings_under ⟨position, []⟩ 0 scheme.columns

/-- Nodes that stand at one place under the other numbers stand at one place. -/
theorem place_injective (h : part.Renumbers whole renumber) {other : Node}
    (hnode : node ∈ part.nodes) (hother : other ∈ part.nodes)
    (hplace : node.place.under renumber = other.place.under renumber) :
    node.place = other.place := by
  have hscheme : ∀ {node}, node ∈ part.nodes → (part.scheme? node.place.scheme).isSome := by
    intro node hnode
    obtain ⟨position, scheme, hscheme, hmem⟩ := Workspace.mem_nodes.mp hnode
    rw [(Scheme.follow_nodes hmem).1, hscheme]
    rfl
  obtain ⟨hnumber, hpath⟩ := Place.mk.inj hplace
  have hsame := h.injective _ _ (hscheme hnode) (hscheme hother) hnumber
  obtain ⟨⟨position, path⟩, field⟩ := node
  obtain ⟨⟨otherPosition, otherPath⟩, otherField⟩ := other
  simp only at hsame hpath ⊢
  rw [hsame, hpath]

/-- The shape of a node under the other numbers, references being followed. -/
theorem shape (h : part.Renumbers whole renumber) (hnode : node ∈ part.nodes) :
    whole.shape (node.under renumber) = (part.shape node).under renumber := by
  by_cases hreference : ∃ label key, node.field = .reference label key
  · obtain ⟨place, field⟩ := node
    obtain ⟨label, key, rfl⟩ := hreference
    have htarget := h.target place label key hnode
    cases hpart : part.target? place with
    | none =>
        rw [hpart, Option.map_none] at htarget
        simp only [Workspace.shape, Node.under, htarget, hpart]
        rfl
    | some declaration =>
        rw [hpart, Option.map_some] at htarget
        simp only [Workspace.shape, Node.under, htarget, hpart]
        exact declaration.shape_under
  · have hplain : ∀ label key, node.field ≠ .reference label key :=
      fun label key hfield => hreference ⟨label, key, hfield⟩
    have hunder : whole.shape (node.under renumber) = (node.under renumber).shape :=
      shape_of_not_reference hplain
    rw [hunder, shape_of_not_reference hplain, Node.shape_under]

/-- Nodes under the other numbers are like the nodes. -/
theorem likeness (h : part.Renumbers whole renumber) :
    Likeness whole part fun node twin => twin ∈ part.nodes ∧ node = twin.under renumber where
  label := by
    rintro _ twin ⟨-, rfl⟩
    rfl
  shape := by
    rintro _ twin ⟨htwin, rfl⟩
    rw [h.shape htwin]
    exact Shape.alike_under fun inner hinner => ⟨mem_nodes_of_part htwin hinner, rfl⟩

/-- A struct may be entered under its other number if its place may be. -/
theorem struct_place_iff (h : part.Renumbers whole renumber) {place : Place}
    (hplace : place ∈ part.structPlaces) : place.under renumber ∈ whole.structPlaces := by
  obtain ⟨node, hnode, hpicked⟩ := List.mem_filterMap.mp hplace
  obtain ⟨found, field⟩ := node
  cases field with
  | struct label typeName fields =>
      cases hpicked
      exact mem_struct_places (mem_nodes_under h.scheme hnode) rfl
  | primitive | list | dictionary | enum | reference => exact nomatch hpicked

/-- Different structs have different places under the other numbers. -/
theorem struct_place_injective (h : part.Renumbers whole renumber) {place other : Place}
    (hplace : place ∈ part.structPlaces) (hother : other ∈ part.structPlaces) :
    place.under renumber = other.under renumber ↔ place = other := by
  have hnode : ∀ {place}, place ∈ part.structPlaces → ∃ node ∈ part.nodes, node.place = place := by
    intro place hplace
    obtain ⟨node, hnode, hpicked⟩ := List.mem_filterMap.mp hplace
    refine ⟨node, hnode, ?_⟩
    split at hpicked
    · exact Option.some.inj hpicked
    · exact nomatch hpicked
  refine ⟨fun hsame => ?_, congrArg _⟩
  obtain ⟨first, hfirst, rfl⟩ := hnode hplace
  obtain ⟨second, hsecond, rfl⟩ := hnode hother
  exact h.place_injective hfirst hsecond hsame

/-- The width of a node under the other numbers, when the structs that may be entered have the same
places but for the numbers. -/
theorem width_from (h : part.Renumbers whole renumber) {closed others : List Place}
    (hclosed : closed.Nodup) (hothers : others.Nodup)
    (hsame : ∀ place ∈ part.structPlaces, place.under renumber ∈ others ↔ place ∈ closed)
    (hnode : node ∈ part.nodes) :
    whole.widthFrom others (node.under renumber) = part.widthFrom closed node := by
  induction hlength : closed.length using Nat.strong_induction_on
    generalizing closed others node with
  | _ length ih =>
      have hunder := h.shape hnode
      cases hshape : part.shape node with
      | struct place typeName subfields =>
          rw [hshape] at hunder
          have hplace := mem_struct_places hnode hshape
          rw [width_from_struct hunder, width_from_struct hshape]
          by_cases hopen : place ∈ closed
          · rw [if_pos hopen, if_pos ((hsame place hplace).mpr hopen)]
            have hshorter : (closed.erase place).length < length := by
              rw [List.length_erase_of_mem hopen, ← hlength]
              exact Nat.sub_lt (List.length_pos_of_mem hopen) Nat.one_pos
            -- Each place is in the list once, so erasing it leaves the others as they are.
            have hrest : ∀ other ∈ part.structPlaces,
                other.under renumber ∈ others.erase (place.under renumber) ↔
                  other ∈ closed.erase place := by
              intro other hother
              rw [hothers.mem_erase_iff, hclosed.mem_erase_iff, hsame other hother, ne_eq,
                h.struct_place_injective hother hplace]
            have hsubfields := mem_nodes_of_subfield hnode hshape
            clear hunder hshape
            induction subfields with
            | nil => rw [List.map_nil, totalWidth, totalWidth]
            | cons first rest ihrest =>
                obtain ⟨hfirst, hothersMem⟩ := List.forall_mem_cons.mp hsubfields
                rw [List.map_cons, totalWidth, totalWidth, ihrest hothersMem,
                  ih _ hshorter (hclosed.erase place) (hothers.erase _) hrest hfirst rfl]
          · rw [if_neg hopen, if_neg fun hmem => hopen ((hsame place hplace).mp hmem)]
            rfl
      | unbound target =>
          rw [hshape] at hunder
          rw [width_from_unbound hunder, width_from_unbound hshape]
          rfl
      | primitive | list | dictionary | enum =>
          rw [hshape] at hunder
          rw [width_from_single (hunder ▸ True.intro), width_from_single (hshape ▸ True.intro)]

/-- Nodes have the same widths under the other numbers. -/
theorem width (h : part.Renumbers whole renumber) (hnode : node ∈ part.nodes) :
    whole.width (node.under renumber) = part.width node :=
  h.width_from part.nodup_struct_places whole.nodup_struct_places
    (fun _ hplace => iff_of_true (h.struct_place_iff hplace) hplace) hnode

/-- A row that can be encoded is encoded alike under the other number. -/
theorem encode_row [DateFormat] (h : part.Renumbers whole renumber) {position : Nat}
    {scheme : Scheme} (hscheme : part.scheme? position = some scheme) {cells : List Cell}
    (hends : ¬ Endless (whole.encodeRow (renumber position) cells)) :
    part.encodeRow position cells = whole.encodeRow (renumber position) cells := by
  refine h.likeness.encode_row ?_ ?_ hends
  · rintro _ twin ⟨htwin, rfl⟩
    exact h.width htwin
  · rw [h.columns_under hscheme, List.forall₂_map_left_iff, List.forall₂_same]
    exact fun column hcolumn => ⟨columns_subset_nodes part position hcolumn, rfl⟩

/-- Rows that are encoded one by one are encoded alike under the other number. -/
theorem encode_each [DateFormat] (h : part.Renumbers whole renumber) {position : Nat}
    {scheme : Scheme} (hscheme : part.scheme? position = some scheme) {rows : List (List Cell)}
    {encoded : List Row}
    (hrows : whole.encodeEach (renumber position) rows = .ok encoded) :
    part.encodeEach position rows = .ok encoded := by
  induction rows generalizing encoded with
  | nil => exact hrows
  | cons cells rest ih =>
      obtain ⟨first, hfirst, hrows⟩ := bind_eq_ok.mp hrows
      obtain ⟨others, hothers, hrows⟩ := bind_eq_ok.mp hrows
      have hends : ¬ Endless (whole.encodeRow (renumber position) cells) := by
        rw [hfirst]
        exact not_endless_ok first
      refine bind_eq_ok.mpr ⟨first, (h.encode_row hscheme hends).trans hfirst, ?_⟩
      exact bind_eq_ok.mpr ⟨others, ih hothers, hrows⟩

/-- The rows of a table are encoded alike under the other number. -/
theorem encode_rows [DateFormat] (h : part.Renumbers whole renumber) {position : Nat}
    {scheme : Scheme} (hscheme : part.scheme? position = some scheme) {rows : List (List Cell)}
    {encoded : List Row}
    (hrows : whole.encodeRows (renumber position) rows = .ok encoded) :
    part.encodeRows position rows = .ok encoded :=
  h.encode_each hscheme hrows

end Renumbers

end Workspace

end SheetWire
