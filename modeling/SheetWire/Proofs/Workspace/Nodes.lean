import SheetWire.Workspace.Resolution

/-!
# Which nodes a workspace holds

A node of a workspace and the place it stands at determine each other (`node_at_iff`), and the parts
of a node are nodes of the workspace again, also where a reference leads to another scheme
(`mem_nodes_of_part`). So everything that encoding and decoding come to lies among finitely many
nodes, and two nodes whose struct is the same declaration have the same subfields.
-/

namespace SheetWire

namespace Node

/-- Fields side by side become nodes at consecutive positions. -/
theorem mem_siblings {place : Place} {first : Nat} {fields : List Field} {node : Node} :
    node ∈ siblings place first fields ↔
      ∃ position, fields[position]? = some node.field ∧
        node.place = place.child (first + position) := by
  induction fields generalizing first with
  | nil => simp [siblings]
  | cons field rest ih =>
      rw [siblings, List.mem_cons, ih]
      constructor
      · intro h
        rcases h with rfl | ⟨position, hfield, hplace⟩
        · exact ⟨0, rfl, rfl⟩
        · exact ⟨position + 1, hfield, by rw [hplace, Nat.add_assoc, Nat.add_comm 1]⟩
      · intro h
        obtain ⟨position, hfield, hplace⟩ := h
        cases position with
        | zero =>
            left
            cases node
            simp_all
        | succ position =>
            exact .inr ⟨position, hfield, by rw [hplace, Nat.add_assoc, Nat.add_comm 1]⟩

end Node

namespace Field

/-- A field is the first of its own nodes. -/
theorem self_mem_nodes (place : Place) (field : Field) : ⟨place, field⟩ ∈ nodes place field := by
  cases field <;> simp [nodes]

/-- Fields side by side are among the nodes of all of them. -/
theorem siblings_subset_nodes (place : Place) (first : Nat) (fields : List Field) :
    Node.siblings place first fields ⊆ nodesAll place first fields := by
  induction fields generalizing first with
  | nil => exact List.Subset.refl _
  | cons field rest ih =>
      intro node hnode
      rw [nodesAll, List.mem_append]
      rcases List.mem_cons.mp hnode with rfl | hrest
      · exact .inl (self_mem_nodes _ _)
      · exact .inr (ih _ hrest)

mutual

/-- What stands directly inside a node of a field is a node of the field. -/
theorem children_subset_nodes (place : Place) (field : Field) {node : Node}
    (h : node ∈ nodes place field) : node.children ⊆ nodes place field := by
  match field with
  | .list label element =>
      rw [nodes, List.mem_cons] at h
      rcases h with rfl | h
      · intro child hchild
        obtain rfl := List.mem_singleton.mp hchild
        exact List.mem_cons_of_mem _ (self_mem_nodes _ _)
      · exact List.Subset.trans (children_subset_nodes _ element h) (List.subset_cons_self _ _)
  | .dictionary label key value =>
      rw [nodes, List.mem_cons, List.mem_append] at h
      refine List.Subset.trans ?_ (List.subset_cons_self _ _)
      rcases h with rfl | h | h
      · intro child hchild
        rcases List.mem_cons.mp hchild with rfl | hchild
        · exact List.mem_append_left _ (self_mem_nodes _ _)
        · obtain rfl := List.mem_singleton.mp hchild
          exact List.mem_append_right _ (self_mem_nodes _ _)
      · exact List.Subset.trans (children_subset_nodes _ key h) (List.subset_append_left _ _)
      · exact List.Subset.trans (children_subset_nodes _ value h) (List.subset_append_right _ _)
  | .struct label typeName fields =>
      rw [nodes, List.mem_cons] at h
      refine List.Subset.trans ?_ (List.subset_cons_self _ _)
      rcases h with rfl | h
      · exact siblings_subset_nodes _ _ fields
      · exact children_subset_nodes_all _ _ fields h
  | .primitive label kind =>
      obtain rfl := List.mem_singleton.mp h
      exact List.nil_subset _
  | .enum label typeName members =>
      obtain rfl := List.mem_singleton.mp h
      exact List.nil_subset _
  | .reference label target =>
      obtain rfl := List.mem_singleton.mp h
      exact List.nil_subset _

/-- What stands directly inside a node of some fields is a node of these fields. -/
theorem children_subset_nodes_all (place : Place) (first : Nat) (fields : List Field) {node : Node}
    (h : node ∈ nodesAll place first fields) : node.children ⊆ nodesAll place first fields := by
  match fields with
  | [] => exact absurd h List.not_mem_nil
  | field :: rest =>
      rw [nodesAll, List.mem_append] at h
      rcases h with h | h
      · exact List.Subset.trans (children_subset_nodes _ field h) (List.subset_append_left _ _)
      · exact List.Subset.trans (children_subset_nodes_all _ _ rest h)
          (List.subset_append_right _ _)

end

/-- The way down to a field directly inside another. -/
theorem follow_child {columns : List Field} {place : Place} {field child : Field} {position : Nat}
    (hpath : place.path ≠ []) (hfield : follow? columns place.path = some field)
    (hchild : field.children[position]? = some child) :
    follow? columns (place.child position).path = some child := by
  obtain ⟨scheme, path⟩ := place
  cases path with
  | nil => exact absurd rfl hpath
  | cons last path => simpa [Place.child, follow?, hfield] using hchild

mutual

/-- The way down to a node of a field leads to the node. -/
theorem follow_nodes (columns : List Field) (place : Place) (field : Field) {node : Node}
    (hpath : place.path ≠ []) (hfield : follow? columns place.path = some field)
    (h : node ∈ nodes place field) :
    node.place.scheme = place.scheme ∧ follow? columns node.place.path = some node.field := by
  match field with
  | .list label element =>
      rw [nodes, List.mem_cons] at h
      rcases h with rfl | h
      · exact ⟨rfl, hfield⟩
      · exact follow_nodes columns (place.child 0) element (List.cons_ne_nil _ _)
          (follow_child hpath hfield rfl) h
  | .dictionary label key value =>
      rw [nodes, List.mem_cons, List.mem_append] at h
      rcases h with rfl | h | h
      · exact ⟨rfl, hfield⟩
      · exact follow_nodes columns (place.child 0) key (List.cons_ne_nil _ _)
          (follow_child hpath hfield rfl) h
      · exact follow_nodes columns (place.child 1) value (List.cons_ne_nil _ _)
          (follow_child hpath hfield rfl) h
  | .struct label typeName fields =>
      rw [nodes, List.mem_cons] at h
      rcases h with rfl | h
      · exact ⟨rfl, hfield⟩
      · refine follow_nodes_all columns place 0 fields (fun position child hchild => ?_) h
        rw [Nat.zero_add]
        exact follow_child hpath hfield hchild
  | .primitive label kind =>
      obtain rfl := List.mem_singleton.mp h
      exact ⟨rfl, hfield⟩
  | .enum label typeName members =>
      obtain rfl := List.mem_singleton.mp h
      exact ⟨rfl, hfield⟩
  | .reference label target =>
      obtain rfl := List.mem_singleton.mp h
      exact ⟨rfl, hfield⟩

/-- The ways down to the nodes of fields that stand side by side lead to these nodes. -/
theorem follow_nodes_all (columns : List Field) (place : Place) (first : Nat)
    (fields : List Field) {node : Node}
    (hfields : ∀ position child, fields[position]? = some child →
      follow? columns (place.child (first + position)).path = some child)
    (h : node ∈ nodesAll place first fields) :
    node.place.scheme = place.scheme ∧ follow? columns node.place.path = some node.field := by
  match fields with
  | [] => exact absurd h List.not_mem_nil
  | field :: rest =>
      rw [nodesAll, List.mem_append] at h
      rcases h with h | h
      · exact follow_nodes columns (place.child first) field (List.cons_ne_nil _ _)
          (hfields 0 field rfl) h
      · refine follow_nodes_all columns place (first + 1) rest (fun position child hchild => ?_) h
        rw [Nat.add_assoc, Nat.add_comm 1]
        exact hfields (position + 1) child hchild

end

/-- What a way down leads to is a node. -/
theorem mem_nodes_of_follow {columns : List Field} {number : Nat} {path : List Nat} {field : Field}
    (h : follow? columns path = some field) :
    ⟨⟨number, path⟩, field⟩ ∈ nodesAll ⟨number, []⟩ 0 columns := by
  induction path generalizing field with
  | nil => exact absurd h (by simp [follow?])
  | cons position path ih =>
      cases path with
      | nil =>
          refine siblings_subset_nodes _ _ _ (Node.mem_siblings.mpr ⟨position, h, ?_⟩)
          rw [Nat.zero_add]
          rfl
      | cons next path =>
          simp only [follow?, Option.bind_eq_some_iff] at h
          obtain ⟨outer, houter, hchild⟩ := h
          refine children_subset_nodes_all _ _ _ (ih houter) ?_
          refine Node.mem_siblings.mpr ⟨position, hchild, ?_⟩
          rw [Nat.zero_add]
          rfl

end Field

/-- The way down to a node of a scheme leads to the node. -/
theorem Scheme.follow_nodes {scheme : Scheme} {number : Nat} {node : Node}
    (h : node ∈ scheme.nodes number) :
    node.place.scheme = number ∧ Field.follow? scheme.columns node.place.path = some node.field :=
  Field.follow_nodes_all scheme.columns ⟨number, []⟩ 0 scheme.columns
    (fun position child hchild => by rw [Nat.zero_add]; exact hchild) h

/-- The nodes that a value of the shape is made of, in order. -/
def Shape.parts : Shape → List Node
  | .list element => [element]
  | .dictionary key value => [key, value]
  | .struct _ _ subfields => subfields
  | _ => []

/-- Without following references, the parts of a node are what stands directly inside it. -/
theorem Node.shape_parts (node : Node) : node.shape.parts = node.children := by
  obtain ⟨place, field⟩ := node
  cases field <;> rfl

namespace Workspace

variable {workspace : Workspace}

/-- The nodes that a value of a node is made of, in order, a reference being followed. -/
def parts (workspace : Workspace) (node : Node) : List Node :=
  (workspace.shape node).parts

/-- The nodes of a workspace scheme by scheme. -/
theorem mem_nodes {node : Node} :
    node ∈ workspace.nodes ↔
      ∃ number scheme, workspace.scheme? number = some scheme ∧ node ∈ scheme.nodes number := by
  simp only [nodes, List.mem_flatMap, List.mem_range, nodesOf]
  constructor
  · intro h
    obtain ⟨number, -, hnode⟩ := h
    cases hscheme : workspace.scheme? number with
    | none => simp [hscheme] at hnode
    | some scheme => exact ⟨number, scheme, hscheme, by simpa [hscheme] using hnode⟩
  · intro h
    obtain ⟨number, scheme, hscheme, hnode⟩ := h
    refine ⟨number, ?_, by simpa [hscheme] using hnode⟩
    rcases Nat.lt_or_ge number workspace.schemes.length with hlt | hge
    · exact hlt
    · rw [scheme?, List.getElem?_eq_none hge] at hscheme
      exact absurd hscheme (by simp)

/-- What stands at a place is a node, and stands there. -/
theorem mem_nodes_of_node_at {place : Place} {node : Node}
    (h : workspace.node? place = some node) : node ∈ workspace.nodes ∧ node.place = place := by
  simp only [node?, Option.bind_eq_bind, Option.bind_eq_some_iff, Option.pure_def,
    Option.some.injEq] at h
  obtain ⟨scheme, hscheme, field, hfollow, rfl⟩ := h
  exact ⟨mem_nodes.mpr ⟨_, scheme, hscheme, Field.mem_nodes_of_follow hfollow⟩, rfl⟩

/-- Every node stands at its place, and what stands at a place is a node. -/
theorem node_at_iff {node : Node} :
    workspace.node? node.place = some node ↔ node ∈ workspace.nodes := by
  constructor
  · exact fun h => (mem_nodes_of_node_at h).1
  · intro h
    obtain ⟨number, scheme, hscheme, hnode⟩ := mem_nodes.mp h
    obtain ⟨hnumber, hfollow⟩ := Scheme.follow_nodes hnode
    simp [node?, hnumber, hscheme, hfollow]

/-- The columns of a scheme are nodes. -/
theorem columns_subset_nodes (workspace : Workspace) (number : Nat) :
    workspace.columns number ⊆ workspace.nodes := by
  intro node hnode
  rw [columns] at hnode
  split at hnode
  · rename_i scheme hscheme
    exact mem_nodes.mpr ⟨number, scheme, hscheme, Field.siblings_subset_nodes _ _ _ hnode⟩
  · exact absurd hnode List.not_mem_nil

/-- The nodes inside a node of the workspace are nodes of the workspace. -/
theorem children_subset_nodes {node : Node} (h : node ∈ workspace.nodes) :
    node.children ⊆ workspace.nodes := by
  obtain ⟨number, scheme, hscheme, hnode⟩ := mem_nodes.mp h
  intro child hchild
  exact mem_nodes.mpr ⟨number, scheme, hscheme, Field.children_subset_nodes_all _ _ _ hnode hchild⟩

/-- The parts of a node stand directly inside it or directly inside a node of the workspace. -/
theorem part_cases {node part : Node} (h : part ∈ workspace.parts node) :
    part ∈ node.children ∨ part ∈ workspace.nodes := by
  rw [parts, shape] at h
  split at h
  · split at h
    · rename_i declaration htarget
      simp only [target?, Option.bind_eq_bind, Option.bind_eq_some_iff] at htarget
      obtain ⟨handle, -, hnode⟩ := htarget
      rw [Node.shape_parts] at h
      exact .inr (children_subset_nodes (mem_nodes_of_node_at hnode).1 h)
    · exact absurd h List.not_mem_nil
  · rw [Node.shape_parts] at h
    exact .inl h

/-- The parts of a node of the workspace are nodes of the workspace. -/
theorem mem_nodes_of_part {node part : Node} (hnode : node ∈ workspace.nodes)
    (h : part ∈ workspace.parts node) : part ∈ workspace.nodes := by
  rcases part_cases h with h | h
  · exact children_subset_nodes hnode h
  · exact h

/-- The subfields of a node of the workspace are nodes of the workspace. -/
theorem mem_nodes_of_subfield {node : Node} {place : Place} {typeName : String}
    {subfields : List Node} (hnode : node ∈ workspace.nodes)
    (h : workspace.shape node = .struct place typeName subfields) :
    ∀ subfield ∈ subfields, subfield ∈ workspace.nodes := by
  intro subfield hsubfield
  refine mem_nodes_of_part hnode ?_
  rw [parts, h]
  exact hsubfield

/-- A struct is read off the declaration at its place. -/
theorem declaration_of_struct {node : Node} {place : Place} {typeName : String}
    {subfields : List Node} (hnode : node ∈ workspace.nodes)
    (h : workspace.shape node = .struct place typeName subfields) :
    ∃ label fields, workspace.node? place = some ⟨place, .struct label typeName fields⟩ ∧
      subfields = Node.siblings place 0 fields := by
  have hdeclared : ∀ declaration ∈ workspace.nodes,
      declaration.shape = .struct place typeName subfields →
      ∃ label fields, workspace.node? place = some ⟨place, .struct label typeName fields⟩ ∧
        subfields = Node.siblings place 0 fields := by
    rintro ⟨found, field⟩ hmem hshape
    cases field with
    | struct label name fields =>
        obtain ⟨rfl, rfl, rfl⟩ := Shape.struct.inj hshape
        exact ⟨label, fields, node_at_iff.mpr hmem, rfl⟩
    | primitive | list | dictionary | enum | reference => exact nomatch hshape
  rw [shape] at h
  split at h
  · split at h
    · rename_i declaration htarget
      simp only [target?, Option.bind_eq_bind, Option.bind_eq_some_iff] at htarget
      obtain ⟨handle, -, hfound⟩ := htarget
      exact hdeclared declaration (mem_nodes_of_node_at hfound).1 h
    · exact nomatch h
  · exact hdeclared node hnode h

/-- Nodes whose struct is declared at one place have the same subfields. -/
theorem subfields_unique {node other : Node} {place : Place} {typeName otherName : String}
    {subfields others : List Node} (hnode : node ∈ workspace.nodes)
    (hother : other ∈ workspace.nodes)
    (h : workspace.shape node = .struct place typeName subfields)
    (hshape : workspace.shape other = .struct place otherName others) : others = subfields := by
  obtain ⟨label, fields, hplace, rfl⟩ := declaration_of_struct hnode h
  obtain ⟨otherLabel, otherFields, hsame, rfl⟩ := declaration_of_struct hother hshape
  rw [hplace] at hsame
  injection hsame with hsame
  injection hsame with _ hfield
  injection hfield with _ _ hfields
  rw [hfields]

/-- The place of every struct is counted among the places of structs. -/
theorem mem_struct_places {node : Node} {place : Place} {typeName : String}
    {subfields : List Node} (hnode : node ∈ workspace.nodes)
    (h : workspace.shape node = .struct place typeName subfields) :
    place ∈ workspace.structPlaces := by
  obtain ⟨label, fields, hplace, -⟩ := declaration_of_struct hnode h
  exact List.mem_filterMap.mpr ⟨_, (mem_nodes_of_node_at hplace).1, rfl⟩

/-- Whether every struct that a scheme declares has a subfield. -/
def Filled (workspace : Workspace) : Prop :=
  ∀ node ∈ workspace.nodes, ∀ label typeName, node.field ≠ .struct label typeName []

/-- A struct has a subfield where every declared one has. -/
theorem Filled.subfields_ne_nil (hfilled : workspace.Filled) {node : Node} {place : Place}
    {typeName : String} {subfields : List Node} (hnode : node ∈ workspace.nodes)
    (h : workspace.shape node = .struct place typeName subfields) : subfields ≠ [] := by
  obtain ⟨label, fields, hplace, rfl⟩ := declaration_of_struct hnode h
  cases fields with
  | nil => exact absurd rfl (hfilled _ (mem_nodes_of_node_at hplace).1 label typeName)
  | cons first rest => exact List.cons_ne_nil _ _

end Workspace

end SheetWire
