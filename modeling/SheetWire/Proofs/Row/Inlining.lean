import SheetWire.Proofs.Row.DecodingEnds
import SheetWire.Proofs.Row.EncodingEnds
import SheetWire.Proofs.Row.Likeness

/-!
# Schemes without references

A reference can be replaced by a copy of its target, and the references in the copy in turn, as long
as no struct comes back to itself that way. `Inlined` says what the copy of a node is, and
`exists_inlined` that there is one where all references are bound and no struct is come back to.
The copy is like the node, so nothing tells a scheme and its copy apart: widths, encoded rows and
decoded rows are the same, errors included (`inlining_is_transparent`).
-/

namespace SheetWire.Workspace

open Relation Text

variable {workspace : Workspace}

/-! ### The copy of a node -/

mutual
/-- The copy of a node in which every reference has been replaced by the copy of its target. The
copy keeps the label of the reference and the name of the type. -/
inductive Inlined (workspace : Workspace) : Node → Field → Prop where
  | primitive (place label kind) :
      Inlined workspace ⟨place, .primitive label kind⟩ (.primitive label kind)
  | list (place label element copy) :
      Inlined workspace ⟨place.child 0, element⟩ copy →
      Inlined workspace ⟨place, .list label element⟩ (.list label copy)
  | dictionary (place label key value keyCopy valueCopy) :
      Inlined workspace ⟨place.child 0, key⟩ keyCopy →
      Inlined workspace ⟨place.child 1, value⟩ valueCopy →
      Inlined workspace ⟨place, .dictionary label key value⟩ (.dictionary label keyCopy valueCopy)
  | struct (place label typeName fields copies) :
      InlinedAll workspace (Node.siblings place 0 fields) copies →
      Inlined workspace ⟨place, .struct label typeName fields⟩ (.struct label typeName copies)
  | enum (place label typeName members) :
      Inlined workspace ⟨place, .enum label typeName members⟩ (.enum label typeName members)
  | toStruct (place label target declared other typeName fields copies) :
      workspace.target? place = some ⟨declared, .struct other typeName fields⟩ →
      InlinedAll workspace (Node.siblings declared 0 fields) copies →
      Inlined workspace ⟨place, .reference label target⟩ (.struct label typeName copies)
  | toEnum (place label target declared other typeName members) :
      workspace.target? place = some ⟨declared, .enum other typeName members⟩ →
      Inlined workspace ⟨place, .reference label target⟩ (.enum label typeName members)

/-- The copies of nodes one by one. -/
inductive InlinedAll (workspace : Workspace) : List Node → List Field → Prop where
  | nil : InlinedAll workspace [] []
  | cons (node rest copy copies) :
      Inlined workspace node copy → InlinedAll workspace rest copies →
      InlinedAll workspace (node :: rest) (copy :: copies)
end

mutual

/-- A node has one copy. -/
theorem inlined_unique {node : Node} {copy other : Field} (h : workspace.Inlined node copy)
    (hother : workspace.Inlined node other) : other = copy := by
  cases h with
  | primitive => cases hother; rfl
  | enum => cases hother; rfl
  | list place label element copy helement =>
      cases hother with
      | list _ _ _ second hsecond => rw [inlined_unique helement hsecond]
  | dictionary place label key value keyCopy valueCopy hkey hvalue =>
      cases hother with
      | dictionary _ _ _ _ secondKey secondValue hsecondKey hsecondValue =>
          rw [inlined_unique hkey hsecondKey, inlined_unique hvalue hsecondValue]
  | struct place label typeName fields copies hfields =>
      cases hother with
      | struct _ _ _ _ others hothers => rw [inlined_all_unique hfields hothers]
  | toStruct place label target declared declaredLabel typeName fields copies htarget hfields =>
      cases hother with
      | toStruct _ _ _ _ _ _ _ others hsecond hothers =>
          cases htarget.symm.trans hsecond
          rw [inlined_all_unique hfields hothers]
      | toEnum _ _ _ _ _ _ _ hsecond => exact nomatch htarget.symm.trans hsecond
  | toEnum place label target declared declaredLabel typeName members htarget =>
      cases hother with
      | toStruct _ _ _ _ _ _ _ _ hsecond => exact nomatch htarget.symm.trans hsecond
      | toEnum _ _ _ _ _ _ _ hsecond =>
          cases htarget.symm.trans hsecond
          rfl

/-- Nodes have one list of copies. -/
theorem inlined_all_unique {nodes : List Node} {copies others : List Field}
    (h : workspace.InlinedAll nodes copies) (hothers : workspace.InlinedAll nodes others) :
    others = copies := by
  cases h with
  | nil => cases hothers; rfl
  | cons node rest copy copies hnode hrest =>
      cases hothers with
      | cons _ _ second seconds hsecond hseconds =>
          rw [inlined_unique hnode hsecond, inlined_all_unique hrest hseconds]

end

mutual

/-- A copy has no reference in it. -/
theorem not_reference_of_inlined {node : Node} {copy : Field} (h : workspace.Inlined node copy) :
    ∀ inner ∈ copy.walk, ∀ label target, inner ≠ .reference label target := by
  cases h with
  | primitive | enum | toEnum => simp [Field.walk]
  | list place label element copy helement =>
      rw [Field.walk, List.forall_mem_cons]
      exact ⟨fun _ _ h => (nomatch h), not_reference_of_inlined helement⟩
  | dictionary place label key value keyCopy valueCopy hkey hvalue =>
      rw [Field.walk, List.forall_mem_cons, List.forall_mem_append]
      exact ⟨fun _ _ h => (nomatch h), not_reference_of_inlined hkey,
        not_reference_of_inlined hvalue⟩
  | struct place label typeName fields copies hfields =>
      rw [Field.walk, List.forall_mem_cons]
      exact ⟨fun _ _ h => (nomatch h), not_reference_of_inlined_all hfields⟩
  | toStruct place label target declared other typeName fields copies htarget hfields =>
      rw [Field.walk, List.forall_mem_cons]
      exact ⟨fun _ _ h => (nomatch h), not_reference_of_inlined_all hfields⟩

/-- Copies have no references in them. -/
theorem not_reference_of_inlined_all {nodes : List Node} {copies : List Field}
    (h : workspace.InlinedAll nodes copies) :
    ∀ inner ∈ Field.walkAll copies, ∀ label target, inner ≠ .reference label target := by
  cases h with
  | nil => exact fun inner hinner => absurd hinner List.not_mem_nil
  | cons node rest copy copies hnode hrest =>
      rw [Field.walkAll, List.forall_mem_append]
      exact ⟨not_reference_of_inlined hnode, not_reference_of_inlined_all hrest⟩

end

/-- The copies of the columns of a scheme make up a scheme without references. -/
theorem references_of_inlined {table : String} {nodes : List Node} {copies : List Field}
    (h : workspace.InlinedAll nodes copies) : (Scheme.mk table copies).references = [] := by
  unfold Scheme.references Scheme.walk
  rw [List.filterMap_eq_nil_iff]
  intro inner hinner
  have hnone := not_reference_of_inlined_all h inner hinner
  cases inner with
  | reference label target => exact absurd rfl (hnone label target)
  | primitive | list | dictionary | struct | enum => rfl

/-- The copies of nodes stand side by side as the nodes do. -/
theorem forall_two_inlined {nodes : List Node} {copies : List Field}
    (h : workspace.InlinedAll nodes copies) (place : Place) (first : Nat) :
    List.Forall₂ (fun node twin => workspace.Inlined node twin.field) nodes
      (Node.siblings place first copies) := by
  induction copies generalizing nodes first with
  | nil =>
      cases h
      exact .nil
  | cons copy copies ih =>
      cases h with
      | cons node rest _ _ hnode hrest => exact .cons hnode (ih hrest (first + 1))

/-- A node is like its copy, whatever workspace the copy stands in. -/
theorem likeness_inlined (workspace other : Workspace) :
    Likeness workspace other fun node twin => workspace.Inlined node twin.field where
  label := by
    rintro node ⟨place, copy⟩ h
    cases h <;> rfl
  shape := by
    rintro node ⟨otherPlace, copy⟩ h
    cases h with
    | primitive place label kind => exact .primitive kind
    | enum place label typeName members => exact .enum members
    | list place label element copy helement => exact .list helement
    | dictionary place label key value keyCopy valueCopy hkey hvalue =>
        exact .dictionary hkey hvalue
    | struct place label typeName fields copies hfields =>
        exact .struct typeName (forall_two_inlined hfields otherPlace 0)
    | toStruct place label target declared declaredLabel typeName fields copies htarget hfields =>
        have hshape : workspace.shape ⟨place, .reference label target⟩ =
            .struct declared typeName (Node.siblings declared 0 fields) := by
          simp only [shape, htarget, Node.shape]
        rw [hshape]
        exact .struct typeName (forall_two_inlined hfields otherPlace 0)
    | toEnum place label target declared declaredLabel typeName members htarget =>
        have hshape : workspace.shape ⟨place, .reference label target⟩ = .enum members := by
          simp only [shape, htarget, Node.shape]
        rw [hshape]
        exact .enum members

/-! ### Nodes that have a copy -/

/-- Whether a node is a part of another. -/
def HasPart (workspace : Workspace) (node part : Node) : Prop :=
  part ∈ workspace.parts node

/-- Whether every reference that a node leads to has a target, and no struct that it leads to leads
back to itself. -/
structure Inlinable (workspace : Workspace) (node : Node) : Prop where
  bound : ∀ inner, ReflTransGen workspace.HasPart node inner → ∀ label key,
    inner.field = .reference label key → ∃ target typeName,
      workspace.target? inner.place = some target ∧ target.field.typeName? = some typeName
  unrolls : ∀ outer, ReflTransGen workspace.HasPart node outer →
    ∀ place typeName subfields, workspace.shape outer = .struct place typeName subfields →
    ∀ inner, TransGen workspace.HasPart outer inner →
    ∀ otherName others, workspace.shape inner ≠ .struct place otherName others

/-- The parts of a node that can be inlined can be inlined. -/
theorem Inlinable.part {node part : Node} (h : workspace.Inlinable node)
    (hpart : workspace.HasPart node part) : workspace.Inlinable part where
  bound := fun inner hinner => h.bound inner (.head hpart hinner)
  unrolls := fun outer houter => h.unrolls outer (.head hpart houter)

/-- A reference that can be inlined points to a struct or an enum. -/
theorem Inlinable.target {place : Place} {label : Label} {key : TypeKey}
    (h : workspace.Inlinable ⟨place, .reference label key⟩) :
    (∃ declared other typeName fields,
      workspace.target? place = some ⟨declared, .struct other typeName fields⟩) ∨
    ∃ declared other typeName members,
      workspace.target? place = some ⟨declared, .enum other typeName members⟩ := by
  obtain ⟨⟨declared, field⟩, typeName, htarget, hname⟩ := h.bound _ .refl label key rfl
  cases field with
  | struct other name fields => exact .inl ⟨declared, other, name, fields, htarget⟩
  | enum other name members => exact .inr ⟨declared, other, name, members, htarget⟩
  | primitive | list | dictionary | reference => exact nomatch hname

/-- A part of anything but a struct stands one level below it. -/
theorem Inlinable.struct_or_below {node part : Node} (h : workspace.Inlinable node)
    (hpart : workspace.HasPart node part) :
    (∃ place typeName subfields, workspace.shape node = .struct place typeName subfields) ∨
      part.place.path.length = node.place.path.length + 1 := by
  obtain ⟨place, field⟩ := node
  cases field with
  | primitive label kind => exact absurd hpart List.not_mem_nil
  | enum label typeName members => exact absurd hpart List.not_mem_nil
  | struct label typeName fields => exact .inl ⟨_, _, _, rfl⟩
  | list label element =>
      obtain rfl := List.mem_singleton.mp hpart
      exact .inr rfl
  | dictionary label key value =>
      rcases List.mem_cons.mp hpart with rfl | hvalue
      · exact .inr rfl
      · obtain rfl := List.mem_singleton.mp hvalue
        exact .inr rfl
  | reference label key =>
      rcases h.target with ⟨declared, other, typeName, fields, htarget⟩ |
        ⟨declared, other, typeName, members, htarget⟩
      · exact .inl ⟨declared, typeName, Node.siblings declared 0 fields,
          by simp only [shape, htarget, Node.shape]⟩
      · have hshape : workspace.shape ⟨place, .reference label key⟩ = .enum members := by
          simp only [shape, htarget, Node.shape]
        rw [HasPart, parts, hshape] at hpart
        exact absurd hpart List.not_mem_nil

/-- A way along parts passes a struct or goes down. -/
theorem Inlinable.passes_struct_or_below {node inner : Node} (h : workspace.Inlinable node)
    (hinner : TransGen workspace.HasPart node inner) :
    (∃ outer, ReflTransGen workspace.HasPart node outer ∧
      TransGen workspace.HasPart outer inner ∧
      ∃ place typeName subfields, workspace.shape outer = .struct place typeName subfields) ∨
      node.place.path.length < inner.place.path.length := by
  induction hinner using TransGen.head_induction_on with
  | single hpart =>
      rcases h.struct_or_below hpart with hstruct | hlength
      · exact .inl ⟨_, .refl, .single hpart, hstruct⟩
      · exact .inr (by omega)
  | head hpart hrest ih =>
      rcases h.struct_or_below hpart with hstruct | hlength
      · exact .inl ⟨_, .refl, .head hpart hrest, hstruct⟩
      · rcases ih (h.part hpart) with ⟨outer, houter, hbelow, hstruct⟩ | hlonger
        · exact .inl ⟨outer, .head hpart houter, hbelow, hstruct⟩
        · exact .inr (by omega)

/-- A node that can be inlined does not lead to anything that leads back to itself. -/
theorem Inlinable.not_returns {node : Node} (h : workspace.Inlinable node) :
    ¬ Returns workspace.HasPart node := by
  intro hreturns
  obtain ⟨loop, hloop, hback⟩ := hreturns
  have hinlinable : workspace.Inlinable loop := by
    clear hback
    induction hloop with
    | refl => exact h
    | tail _ hpart ih => exact ih.part hpart
  -- A loop goes down nowhere, so it passes a struct, to which it comes back.
  rcases hinlinable.passes_struct_or_below hback with ⟨outer, houter, hbelow, hstruct⟩ | hlength
  · obtain ⟨place, typeName, subfields, hshape⟩ := hstruct
    exact h.unrolls outer (hloop.trans houter) place typeName subfields hshape outer
      (hbelow.trans_left houter) typeName subfields hshape
  · exact absurd hlength (Nat.lt_irrefl _)

/-- The induction over the parts of a node that can be inlined. -/
theorem Inlinable.induction {motive : Node → Prop}
    (step : ∀ node ∈ workspace.nodes, workspace.Inlinable node →
      (∀ part, workspace.HasPart node part → motive part) → motive node)
    {node : Node} (hnode : node ∈ workspace.nodes) (h : workspace.Inlinable node) :
    motive node := by
  have hpoints : ∀ inner, ReflTransGen workspace.HasPart node inner → inner ∈ workspace.nodes := by
    intro inner hinner
    induction hinner with
    | refl => exact hnode
    | tail _ hpart ih => exact mem_nodes_of_part ih hpart
  have hacc := acc_of_not_returns hpoints h.not_returns
  clear hpoints
  induction hacc with
  | intro node _ ih =>
      exact step node hnode h fun part hpart =>
        ih part hpart (mem_nodes_of_part hnode hpart) (h.part hpart)

/-- Nodes that have copies have copies one by one. -/
theorem exists_inlined_all {nodes : List Node}
    (h : ∀ node ∈ nodes, ∃ copy, workspace.Inlined node copy) :
    ∃ copies, workspace.InlinedAll nodes copies := by
  induction nodes with
  | nil => exact ⟨[], .nil⟩
  | cons node rest ih =>
      obtain ⟨hfirst, hrest⟩ := List.forall_mem_cons.mp h
      obtain ⟨copy, hcopy⟩ := hfirst
      obtain ⟨copies, hcopies⟩ := ih hrest
      exact ⟨copy :: copies, .cons _ _ _ _ hcopy hcopies⟩

/-- A node that can be inlined has a copy. -/
theorem exists_inlined {node : Node} (hnode : node ∈ workspace.nodes)
    (h : workspace.Inlinable node) : ∃ copy, workspace.Inlined node copy := by
  refine Inlinable.induction (motive := fun node => ∃ copy, workspace.Inlined node copy)
    (fun node _ h ih => ?_) hnode h
  obtain ⟨place, field⟩ := node
  cases field with
  | primitive label kind => exact ⟨_, .primitive place label kind⟩
  | enum label typeName members => exact ⟨_, .enum place label typeName members⟩
  | list label element =>
      obtain ⟨copy, hcopy⟩ := ih _ (List.mem_singleton_self _)
      exact ⟨_, .list place label element copy hcopy⟩
  | dictionary label key value =>
      obtain ⟨keyCopy, hkey⟩ := ih _ List.mem_cons_self
      obtain ⟨valueCopy, hvalue⟩ := ih _ (List.mem_cons_of_mem _ (List.mem_singleton_self _))
      exact ⟨_, .dictionary place label key value keyCopy valueCopy hkey hvalue⟩
  | struct label typeName fields =>
      obtain ⟨copies, hcopies⟩ := exists_inlined_all ih
      exact ⟨_, .struct place label typeName fields copies hcopies⟩
  | reference label key =>
      rcases h.target with ⟨declared, other, typeName, fields, htarget⟩ |
        ⟨declared, other, typeName, members, htarget⟩
      · have hparts : workspace.parts ⟨place, .reference label key⟩ =
            Node.siblings declared 0 fields := by
          simp only [parts, shape, htarget, Node.shape, Shape.parts]
        simp only [HasPart, hparts] at ih
        obtain ⟨copies, hcopies⟩ := exists_inlined_all ih
        exact ⟨_, .toStruct place label key declared other typeName fields copies htarget hcopies⟩
      · exact ⟨_, .toEnum place label key declared other typeName members htarget⟩

/-! ### Runs over a node and over its copy -/

/-- Encoding a node that can be inlined ends on every text. -/
theorem Inlinable.encoding_ends {node : Node} (hnode : node ∈ workspace.nodes)
    (h : workspace.Inlinable node) (text : List Char) : workspace.encoding.Ends (node, text) := by
  refine Inlinable.induction (motive := fun node => ∀ text, workspace.encoding.Ends (node, text))
    (fun node hnode _ ih text => ?_) hnode h text
  refine encoding_ends_of_inner hnode fun inner hcall => ?_
  obtain ⟨slots, list, hportions, hmem⟩ := hcall
  exact ih inner.1 (mem_portions hportions hmem).1 inner.2

/-- Decoding a node that can be inlined ends on every text. -/
theorem Inlinable.decoding_ends [Memory] {node : Node} (hnode : node ∈ workspace.nodes)
    (h : workspace.Inlinable node) (reader : Reader) : workspace.decoding.Ends (node, reader) := by
  refine Inlinable.induction
    (motive := fun node => ∀ reader, workspace.decoding.Ends (node, reader))
    (fun node hnode _ ih reader => ?_) hnode h reader
  exact BoundedRecursion.ends_of_inner (covers_decoding hnode reader) fun inner hcall =>
    ih inner.1 (part_of_comes_to hcall).1 inner.2

/-- A node that can be inlined has a target if it is a reference. -/
theorem Inlinable.shape_ne_unbound {node : Node} (h : workspace.Inlinable node)
    (target : TypeKey) : workspace.shape node ≠ .unbound target := by
  obtain ⟨place, field⟩ := node
  cases field with
  | primitive | list | dictionary | struct | enum => exact fun hshape => nomatch hshape
  | reference label key =>
      rcases h.target with ⟨declared, other, typeName, fields, htarget⟩ |
        ⟨declared, other, typeName, members, htarget⟩ <;>
      simp only [shape, htarget, Node.shape, ne_eq, reduceCtorEq, not_false_eq_true]

/-- Nodes that have the same widths one by one have them side by side. -/
theorem exists_widths_of_forall_two {other : Workspace} {nodes twins : List Node}
    (h : List.Forall₂ (fun node twin => ∃ width, workspace.width node = .ok width ∧
      other.width twin = .ok width) nodes twins) :
    ∃ widths, workspace.widths nodes = .ok widths ∧ other.widths twins = .ok widths := by
  induction h with
  | nil => exact ⟨[], rfl, rfl⟩
  | cons hfirst _ ih =>
      obtain ⟨first, hnode, htwin⟩ := hfirst
      obtain ⟨others, hnodes, htwins⟩ := ih
      refine ⟨first :: others, ?_, ?_⟩
      · exact widths_eq_ok.mpr (.cons hnode (widths_eq_ok.mp hnodes))
      · exact widths_eq_ok.mpr (.cons htwin (widths_eq_ok.mp htwins))

/-- A node that can be inlined has a width, and its copy has the same. -/
theorem Inlinable.exists_width {other : Workspace} {node twin : Node}
    (hnode : node ∈ workspace.nodes) (htwin : twin ∈ other.nodes) (h : workspace.Inlinable node)
    (hcopy : workspace.Inlined node twin.field) :
    ∃ width, workspace.width node = .ok width ∧ other.width twin = .ok width := by
  refine Inlinable.induction (motive := fun node => ∀ twin ∈ other.nodes,
    workspace.Inlined node twin.field →
      ∃ width, workspace.width node = .ok width ∧ other.width twin = .ok width)
    (fun node hnode h ih twin htwin hcopy => ?_) hnode h twin htwin hcopy
  have halike := (likeness_inlined workspace other).shape hcopy
  generalize hshape : workspace.shape node = shape at halike
  generalize htwinShape : other.shape twin = twinShape at halike
  cases halike with
  | struct typeName hsubfields =>
      have hboth := forall_two_of_mem hsubfields fun subfield hsubfield copy hcopied =>
        ih subfield (by rw [HasPart, parts, hshape]; exact hsubfield) copy
          (mem_nodes_of_subfield htwin htwinShape copy hcopied)
      obtain ⟨widths, hwidths, hcopied⟩ := exists_widths_of_forall_two hboth
      exact ⟨widths.sum, width_of_widths hnode hshape hwidths,
        width_of_widths htwin htwinShape hcopied⟩
  | unbound target => exact absurd hshape (h.shape_ne_unbound target)
  | primitive kind =>
      exact ⟨1, width_from_single (hshape ▸ True.intro),
        width_from_single (htwinShape ▸ True.intro)⟩
  | list helement =>
      exact ⟨1, width_from_single (hshape ▸ True.intro),
        width_from_single (htwinShape ▸ True.intro)⟩
  | dictionary hkey hvalue =>
      exact ⟨1, width_from_single (hshape ▸ True.intro),
        width_from_single (htwinShape ▸ True.intro)⟩
  | enum members =>
      exact ⟨1, width_from_single (hshape ▸ True.intro),
        width_from_single (htwinShape ▸ True.intro)⟩

/-- A node that can be inlined and its copy, where both stand in their workspaces. -/
def Copied (workspace other : Workspace) (node twin : Node) : Prop :=
  workspace.Inlined node twin.field ∧
    node ∈ workspace.nodes ∧ workspace.Inlinable node ∧ twin ∈ other.nodes

/-- A node that can be inlined is like its copy. -/
theorem likeness_copied (workspace other : Workspace) :
    Likeness workspace other (workspace.Copied other) := by
  refine (likeness_inlined workspace other).among fun hknown part hpart twinPart htwin => ?_
  obtain ⟨hnode, hinlinable, htwinNode⟩ := hknown
  exact ⟨mem_nodes_of_part hnode hpart, hinlinable.part hpart, mem_nodes_of_part htwinNode htwin⟩

/-- A node and its copy have one width. -/
theorem width_of_copied {other : Workspace} {node twin : Node}
    (h : workspace.Copied other node twin) : workspace.width node = other.width twin := by
  obtain ⟨hcopy, hnode, hinlinable, htwin⟩ := h
  obtain ⟨width, hwidth, hsame⟩ := hinlinable.exists_width hnode htwin hcopy
  exact hwidth.trans hsame.symm

/-- Encoding a row ends where all columns can be inlined. -/
theorem not_endless_encode_cells [DateFormat] {columns : List Node}
    (hcolumns : columns ⊆ workspace.nodes)
    (h : ∀ column ∈ columns, workspace.Inlinable column) (cells : List Cell) :
    ¬ Endless (workspace.encodeCells columns cells) := by
  induction columns generalizing cells with
  | nil => exact not_endless_ok []
  | cons column columns ih =>
      obtain ⟨hcolumn, hcolumns⟩ := List.cons_subset.mp hcolumns
      obtain ⟨hfirst, hrest⟩ := List.forall_mem_cons.mp h
      rw [encodeCells, endless_bind, endless_map_tag]
      rintro (hcell | ⟨text, -, hothers⟩)
      · rw [encodeCell, endless_bind] at hcell
        rcases hcell with htext | ⟨slots, -, hpure⟩
        · obtain ⟨bound, hends⟩ :=
            hfirst.encoding_ends hcolumn (escape (cells.headD .empty).toText.toList)
          rw [encode_text_of_ends hcolumn hends] at htext
          exact hends htext
        · exact not_endless_ok _ hpure
      · rcases endless_bind.mp hothers with hothers | ⟨texts, -, hpure⟩
        · exact ih hcolumns hrest cells.tail hothers
        · exact not_endless_ok _ hpure

/-- Decoding a column that can be inlined ends on every text. -/
theorem Inlinable.not_endless_decode_node [Memory] {node : Node} (hnode : node ∈ workspace.nodes)
    (h : workspace.Inlinable node) (reader : Reader) :
    ¬ Reading.Endless (workspace.decodeNode node reader) := by
  obtain ⟨bound, hends⟩ := h.decoding_ends hnode reader
  rw [decode_node_of_ends hnode hends]
  exact hends

/-- Decoding a row ends on every text where decoding its columns does. -/
theorem not_endless_decode_row_of_columns [Memory] {number : Nat}
    (h : ∀ column ∈ workspace.columns number, ∀ reader,
      ¬ Reading.Endless (workspace.decodeNode column reader)) (row : List Char) :
    ¬ Endless (workspace.decodeRow number row) := by
  rintro ⟨label, hrow⟩
  obtain ⟨before, column, after, values, reader, last, hcolumns, -, hcolumn⟩ :=
    decode_row_eq_endless.mp hrow
  refine h column ?_ reader ⟨label, last, hcolumn⟩
  rw [hcolumns]
  exact List.mem_append_right _ List.mem_cons_self

/-- References are transparent. The columns of a scheme whose references all have targets and whose
structs do not come back to themselves have one list of copies without references. Under the scheme
of these copies, whatever workspace it stands in, all columns have the same widths, every row of
cells has the same wire text or error, and every text is decoded to the same values or error; and
none of these is for a bound that was too small. -/
theorem inlining_is_transparent [Memory] [DateFormat] {number : Nat} {scheme : Scheme}
    (hscheme : workspace.scheme? number = some scheme)
    (h : ∀ column ∈ workspace.columns number, workspace.Inlinable column) :
    ∃ inlined, workspace.InlinedAll (workspace.columns number) inlined ∧
      (∀ copies, workspace.InlinedAll (workspace.columns number) copies → copies = inlined) ∧
      (Scheme.mk scheme.table inlined).references = [] ∧
      ∀ (other : Workspace) (position : Nat),
        other.scheme? position = some ⟨scheme.table, inlined⟩ →
        List.Forall₂ (fun column copy => ∃ width, workspace.width column = .ok width ∧
          other.width copy = .ok width) (workspace.columns number) (other.columns position) ∧
        (∀ cells, ¬ Endless (workspace.encodeRow number cells) ∧
          other.encodeRow position cells = workspace.encodeRow number cells) ∧
        ∀ row, ¬ Endless (workspace.decodeRow number row) ∧
          other.decodeRow position row = workspace.decodeRow number row := by
  have hnodes := columns_subset_nodes workspace number
  obtain ⟨inlined, hinlined⟩ := exists_inlined_all fun column hcolumn =>
    exists_inlined (hnodes hcolumn) (h column hcolumn)
  refine ⟨inlined, hinlined, fun copies hcopies => inlined_all_unique hinlined hcopies,
    references_of_inlined hinlined, fun other position hother => ?_⟩
  have hcolumns : other.columns position = Node.siblings ⟨position, []⟩ 0 inlined := by
    rw [columns, hother]
    rfl
  have hcopied : List.Forall₂ (workspace.Copied other) (workspace.columns number)
      (other.columns position) := by
    have hpairs := forall_two_inlined hinlined ⟨position, []⟩ 0
    rw [← hcolumns] at hpairs
    exact forall_two_of_mem hpairs fun column hcolumn copy hcopy hpair =>
      ⟨hpair, hnodes hcolumn, h column hcolumn, columns_subset_nodes other position hcopy⟩
  have hends : ∀ column ∈ workspace.columns number, ∀ reader,
      ¬ Reading.Endless (workspace.decodeNode column reader) :=
    fun column hcolumn => (h column hcolumn).not_endless_decode_node (hnodes hcolumn)
  have htable : other.tableName position = workspace.tableName number := by
    rw [tableName, tableName, hother, hscheme]
  refine ⟨hcopied.imp fun column copy hpair => ?_, fun cells => ?_, fun row => ⟨?_, ?_⟩⟩
  · exact hpair.2.2.1.exists_width hpair.2.1 hpair.2.2.2 hpair.1
  · have hrow : ¬ Endless (workspace.encodeRow number cells) := by
      rw [encodeRow, endless_bind]
      rintro (hcells | ⟨texts, -, hpure⟩)
      · exact not_endless_encode_cells hnodes h cells hcells
      · exact not_endless_ok _ hpure
    exact ⟨hrow, (likeness_copied workspace other).encode_row width_of_copied hcopied hrow⟩
  · exact not_endless_decode_row_of_columns hends row
  · exact (likeness_copied workspace other).decode_row htable hcopied hends row

/-- What a node of some nodes leads to is one of them if their parts are. -/
theorem mem_of_has_part {nodes : List Node} {node inner : Node} (hnode : node ∈ nodes)
    (hclosed : ∀ outer ∈ nodes, workspace.parts outer ⊆ nodes)
    (hinner : ReflTransGen workspace.HasPart node inner) : inner ∈ nodes := by
  induction hinner with
  | refl => exact hnode
  | tail _ hpart ih => exact hclosed _ ih hpart

/-- The rank of an item. -/
def itemRank : Field :=
  .enum ⟨"Items", "rank"⟩ "Rank" [⟨"Low", 0⟩, ⟨"High", 1⟩]

/-- The price of an item. -/
def itemPrice : Field :=
  .primitive ⟨"Items", "price"⟩ .int

/-- A table of items with a rank and a price. -/
def itemTable : Scheme :=
  ⟨"Items", [.struct ⟨"Items", "item"⟩ "Item" [itemRank, itemPrice]]⟩

/-- A table of quests with the items that are given for them. -/
def questTable : Scheme :=
  ⟨"Quests", [.primitive ⟨"Quests", "name"⟩ .string,
    .list ⟨"Quests", "rewards"⟩ (.reference ⟨"Quests", ""⟩ ⟨"Items", "Item"⟩)]⟩

/-- The table of quests with a copy of the item in it. -/
def inlinedQuestTable : Scheme :=
  ⟨"Quests", [.primitive ⟨"Quests", "name"⟩ .string,
    .list ⟨"Quests", "rewards"⟩ (.struct ⟨"Quests", ""⟩ "Item" [itemRank, itemPrice])]⟩

/-- The rewards of a quest lead to the item, and the item to its rank and its price. -/
theorem quest_columns_inlinable :
    ∀ column ∈ (resolved [itemTable, questTable]).columns 1,
      (resolved [itemTable, questTable]).Inlinable column := by
  let name : Node := ⟨⟨1, [0]⟩, .primitive ⟨"Quests", "name"⟩ .string⟩
  let reward : Node := ⟨⟨1, [0, 1]⟩, .reference ⟨"Quests", ""⟩ ⟨"Items", "Item"⟩⟩
  let rewards : Node := ⟨⟨1, [1]⟩, .list ⟨"Quests", "rewards"⟩ reward.field⟩
  let rank : Node := ⟨⟨0, [0, 0]⟩, itemRank⟩
  let price : Node := ⟨⟨0, [1, 0]⟩, itemPrice⟩
  have hreward : (resolved [itemTable, questTable]).parts reward = [rank, price] := rfl
  have hinside : ∀ outer ∈ [rank, price],
      (resolved [itemTable, questTable]).parts outer ⊆ [rank, price] := by
    simp only [List.forall_mem_cons]
    exact ⟨List.nil_subset _, List.nil_subset _, fun _ h => absurd h List.not_mem_nil⟩
  have hclosed : ∀ outer ∈ [name, rewards, reward, rank, price],
      (resolved [itemTable, questTable]).parts outer ⊆ [name, rewards, reward, rank, price] := by
    simp only [List.forall_mem_cons]
    refine ⟨List.nil_subset _, fun part hpart => ?_, fun part hpart => ?_, List.nil_subset _,
      List.nil_subset _, fun _ h => absurd h List.not_mem_nil⟩
    · obtain rfl : part = reward := List.mem_singleton.mp hpart
      simp
    · rw [hreward] at hpart
      exact List.mem_cons_of_mem _ (List.mem_cons_of_mem _ (List.mem_cons_of_mem _ hpart))
  intro column hcolumn
  have hmem : column ∈ [name, rewards, reward, rank, price] :=
    List.mem_append_left [reward, rank, price] hcolumn
  refine ⟨fun inner hinner label key hfield => ?_,
    fun outer houter place typeName subfields hshape inner hinner otherName others hother => ?_⟩
  · have hreached := mem_of_has_part hmem hclosed hinner
    simp only [List.mem_cons, List.not_mem_nil, or_false] at hreached
    rcases hreached with rfl | rfl | rfl | rfl | rfl
    · exact nomatch hfield
    · exact nomatch hfield
    · exact ⟨⟨⟨0, [0]⟩, .struct ⟨"Items", "item"⟩ "Item" [itemRank, itemPrice]⟩, "Item", rfl, rfl⟩
    · exact nomatch hfield
    · exact nomatch hfield
  · have hreached := mem_of_has_part hmem hclosed houter
    simp only [List.mem_cons, List.not_mem_nil, or_false] at hreached
    rcases hreached with rfl | rfl | rfl | rfl | rfl
    · exact nomatch hshape
    · exact nomatch hshape
    · -- Below the item there is no struct.
      obtain ⟨next, hnext, hinner⟩ := TransGen.head'_iff.mp hinner
      rw [HasPart, hreward] at hnext
      have hbelow := mem_of_has_part hnext hinside hinner
      simp only [List.mem_cons, List.not_mem_nil, or_false] at hbelow
      rcases hbelow with rfl | rfl
      · exact nomatch hother
      · exact nomatch hother
    · exact nomatch hshape
    · exact nomatch hshape

/-- The table of quests and the one with a copy of the item in it encode and decode alike. -/
theorem quests_encode_and_decode_alike :
    (∀ cells, (ofSchemes [inlinedQuestTable]).encodeRow 0 cells =
      (resolved [itemTable, questTable]).encodeRow 1 cells) ∧
    ∀ row, (ofSchemes [inlinedQuestTable]).decodeRow 0 row =
      (resolved [itemTable, questTable]).decodeRow 1 row := by
  have hscheme : (resolved [itemTable, questTable]).scheme? 1 = some questTable := rfl
  obtain ⟨inlined, -, hunique, -, halike⟩ := inlining_is_transparent hscheme quest_columns_inlinable
  have hcopies : inlinedQuestTable.columns = inlined := by
    refine hunique _ (.cons _ _ _ _ (.primitive ..) (.cons _ _ _ _ (.list _ _ _ _ ?_) .nil))
    refine .toStruct _ _ _ ⟨0, [0]⟩ ⟨"Items", "item"⟩ _ _ _ rfl ?_
    exact .cons _ _ _ _ (.enum ..) (.cons _ _ _ _ (.primitive ..) .nil)
  subst hcopies
  obtain ⟨-, hencode, hdecode⟩ := halike (ofSchemes [inlinedQuestTable]) 0 rfl
  exact ⟨fun cells => (hencode cells).2, fun row => (hdecode row).2⟩

end SheetWire.Workspace
