import SheetWire.Proofs.Row.Columns

/-!
# Nodes that are alike

Nodes of two workspaces are alike if they have the same label and their values are made of the same
things, part by part; only the places of structs do not count. A `Likeness` is a relation between
nodes that promises this, and what it promises of one step holds of whole runs: nodes that are alike
are decoded alike (`Likeness.decode_within`) and, where their widths agree, encoded alike
(`Likeness.encode_within`). The same follows for the rows of columns that are alike one by one.
-/

namespace SheetWire

open Text

/-- Shapes that are the same but for the places of structs, with parts that are related. -/
inductive Shape.Alike (related : Node → Node → Prop) : Shape → Shape → Prop where
  | primitive (kind : Primitive) : Alike related (.primitive kind) (.primitive kind)
  | list {element twin : Node} :
      related element twin → Alike related (.list element) (.list twin)
  | dictionary {key value keyTwin valueTwin : Node} :
      related key keyTwin → related value valueTwin →
      Alike related (.dictionary key value) (.dictionary keyTwin valueTwin)
  | struct {place other : Place} (typeName : String) {subfields twins : List Node} :
      List.Forall₂ related subfields twins →
      Alike related (.struct place typeName subfields) (.struct other typeName twins)
  | enum (members : List Member) : Alike related (.enum members) (.enum members)
  | unbound (target : TypeKey) : Alike related (.unbound target) (.unbound target)

/-- Elements that are paired off may be known by what they are members of. -/
theorem forall_two_of_mem {α β : Type} {related known : α → β → Prop} {list : List α}
    {twins : List β} (h : List.Forall₂ related list twins)
    (hknown : ∀ x ∈ list, ∀ y ∈ twins, related x y → known x y) :
    List.Forall₂ known list twins := by
  rw [List.forall₂_iff_zip]
  refine ⟨h.length_eq, fun hpair => ?_⟩
  obtain ⟨hx, hy⟩ := List.of_mem_zip hpair
  exact hknown _ hx _ hy (List.forall₂_zip h hpair)

/-- Shapes that are alike stay so when more is known of their parts. -/
theorem Shape.Alike.imp {related known : Node → Node → Prop} {shape other : Shape}
    (h : Shape.Alike related shape other)
    (hparts : ∀ part ∈ shape.parts, ∀ twin ∈ other.parts, related part twin → known part twin) :
    Shape.Alike known shape other := by
  cases h with
  | primitive kind => exact .primitive kind
  | list helement =>
      exact .list (hparts _ (List.mem_singleton_self _) _ (List.mem_singleton_self _) helement)
  | dictionary hkey hvalue =>
      refine .dictionary (hparts _ List.mem_cons_self _ List.mem_cons_self hkey) ?_
      exact hparts _ (List.mem_cons_of_mem _ (List.mem_singleton_self _)) _
        (List.mem_cons_of_mem _ (List.mem_singleton_self _)) hvalue
  | struct typeName hsubfields =>
      exact .struct typeName (forall_two_of_mem hsubfields hparts)
  | enum members => exact .enum members
  | unbound target => exact .unbound target

namespace Reading

variable {ε α β γ : Type}

/-- Reads for elements that are read alike one by one. -/
theorem each_of_forall_two {read : α → Reading ε γ} {other : β → Reading ε γ} {list : List α}
    {twins : List β} (h : List.Forall₂ (fun x y => read x = other y) list twins) :
    each read list = each other twins := by
  induction h with
  | nil => rfl
  | cons hfirst _ ih => rw [each, each, hfirst, ih]

end Reading

/-- Elements that are paired off stay so when the same things are added to them. -/
theorem forall_two_zip {α β γ : Type} {related : α → β → Prop} {list : List α} {twins : List β}
    (h : List.Forall₂ related list twins) (extra : List γ) :
    List.Forall₂ (fun x y => related x.1 y.1 ∧ x.2 = y.2) (list.zip extra) (twins.zip extra) := by
  induction h generalizing extra with
  | nil => exact .nil
  | cons hfirst _ ih =>
      cases extra with
      | nil => exact .nil
      | cons first rest => exact .cons ⟨hfirst, rfl⟩ (ih rest)

namespace Workspace

/-- A relation between the nodes of two workspaces: nodes in it have the same label, and shapes that
are alike with parts in it. -/
structure Likeness (workspace other : Workspace) (related : Node → Node → Prop) : Prop where
  label : ∀ {node twin}, related node twin → node.label = twin.label
  shape : ∀ {node twin}, related node twin →
    Shape.Alike related (workspace.shape node) (other.shape twin)

variable {workspace other : Workspace} {related : Node → Node → Prop} {node twin : Node}

/-- Nodes whose widths agree one by one have the same widths side by side. -/
theorem widths_of_forall_two {nodes twins : List Node}
    (h : List.Forall₂ (fun node twin => workspace.width node = other.width twin) nodes twins) :
    workspace.widths nodes = other.widths twins := by
  induction h with
  | nil => rfl
  | cons hfirst _ ih => rw [widths, widths, hfirst, ih]

/-- Two runs in a row agree where they go on alike from every value of the first. -/
theorem bind_congr_of_ok {ε α β : Type} {first : Except ε α} {next other : α → Except ε β}
    (h : ∀ value, first = .ok value → next value = other value) :
    first >>= next = first >>= other := by
  cases first with
  | error e => rfl
  | ok value => exact h value rfl

/-- Tagging the errors of a run does not say more or less about its bound. -/
theorem endless_map_tag {α : Type} {result : Except Error α} {label : Label} :
    Endless (result.mapError (Error.tag label)) ↔ Endless result := by
  cases result with
  | ok value => exact iff_of_false (not_endless_ok value) (not_endless_ok value)
  | error e =>
      constructor
      · intro h
        obtain ⟨place, h⟩ := h
        exact ⟨place, congrArg Except.error (tag_eq_endless.mp (Except.error.inj h))⟩
      · intro h
        obtain ⟨place, h⟩ := h
        exact ⟨place, congrArg Except.error (tag_eq_endless.mpr (Except.error.inj h))⟩

namespace Likeness

/-- A likeness holds among the nodes of which more is known, where it is known of their parts
too. -/
theorem among (h : Likeness workspace other related) {known : Node → Node → Prop}
    (hparts : ∀ {node twin}, known node twin → ∀ part ∈ workspace.parts node,
      ∀ twinPart ∈ other.parts twin, known part twinPart) :
    Likeness workspace other fun node twin => related node twin ∧ known node twin where
  label := fun hboth => h.label hboth.1
  shape := fun hboth => (h.shape hboth.1).imp fun part hpart twinPart htwin hrelated =>
    ⟨hrelated, hparts hboth.2 part hpart twinPart htwin⟩

/-- Nodes that are alike are decoded alike. -/
theorem decode_within [Memory] (h : Likeness workspace other related) (hrelated : related node twin)
    (bound : Nat) : workspace.decodeWithin bound node = other.decodeWithin bound twin := by
  induction bound generalizing node twin with
  | zero => rw [decodeWithin, decodeWithin, h.label hrelated]
  | succ bound ih =>
      have hshape := h.shape hrelated
      rw [decodeWithin, decodeWithin, h.label hrelated]
      generalize workspace.shape node = shape at hshape
      generalize other.shape twin = twinShape at hshape
      cases hshape with
      | primitive kind => rfl
      | list helement => simp only [ih helement]
      | dictionary hkey hvalue => simp only [ih hkey, ih hvalue]
      | struct typeName hsubfields =>
          simp only
          congr 1
          refine Reading.each_of_forall_two (hsubfields.imp fun subfield copy hsubfield => ?_)
          have hname : subfield.field.name = copy.field.name :=
            congrArg Label.name (h.label hsubfield)
          rw [ih hsubfield, hname]
      | enum members => rfl
      | unbound target => rfl

/-- Nodes that are alike are encoded alike where widths agree. -/
theorem encode_within (h : Likeness workspace other related)
    (hwidth : ∀ {node twin}, related node twin → workspace.width node = other.width twin)
    (hrelated : related node twin) (bound : Nat) (text : List Char) :
    workspace.encodeWithin bound node text = other.encodeWithin bound twin text := by
  induction bound generalizing node twin text with
  | zero => rw [encodeWithin, encodeWithin, h.label hrelated]
  | succ bound ih =>
      have hshape := h.shape hrelated
      rw [encodeWithin, encodeWithin, h.label hrelated]
      generalize workspace.shape node = shape at hshape
      generalize other.shape twin = twinShape at hshape
      cases hshape with
      | primitive kind => rfl
      | list helement => simp only [ih helement, hwidth helement]
      | dictionary hkey hvalue => simp only [ih hkey, ih hvalue, hwidth hkey, hwidth hvalue]
      | @struct place twinPlace typeName subfields twins hsubfields =>
          have hwidths : workspace.widths subfields = other.widths twins :=
            widths_of_forall_two (hsubfields.imp fun _ _ hsubfield => hwidth hsubfield)
          simp only [hwidths]
          congr 1
          funext widths
          split
          · rfl
          · refine concat_slots_of_forall_two ?_
            refine (forall_two_zip hsubfields _).imp fun portion portionTwin hportion => ?_
            obtain ⟨hpart, hgroup⟩ := hportion
            simp only [ih hpart, hgroup]
      | enum members => rfl
      | unbound target => rfl

/-- A node that can be decoded from a reader is decoded like a node that it is like. -/
theorem decode_node [Memory] (h : Likeness workspace other related) (hrelated : related node twin)
    (htwin : twin ∈ other.nodes) {reader : Reader}
    (hends : ¬ Reading.Endless (workspace.decodeNode node reader)) :
    other.decodeNode twin reader = workspace.decodeNode node reader := by
  have hnode : workspace.decodeNode node reader =
      other.decodeWithin (workspace.recursionBound node reader.slots.length) twin reader := by
    rw [← h.decode_within hrelated]
    rfl
  rw [hnode] at hends ⊢
  exact decode_node_of_ends htwin hends

/-- A node that a text can be encoded for is encoded like a node that it is like. -/
theorem encode_text (h : Likeness workspace other related)
    (hwidth : ∀ {node twin}, related node twin → workspace.width node = other.width twin)
    (hrelated : related node twin) (htwin : twin ∈ other.nodes) {text : String}
    (hends : ¬ Endless (workspace.encodeText node text)) :
    other.encodeText twin text = workspace.encodeText node text := by
  have hnode : workspace.encodeText node text = other.encodeWithin
      (workspace.recursionBound node (escape text.toList).length) twin (escape text.toList) := by
    unfold encodeText
    exact h.encode_within hwidth hrelated _ _
  rw [hnode] at hends ⊢
  exact encode_text_of_ends htwin hends

/-- A cell that can be encoded is encoded alike under a column that is alike. -/
theorem encode_cell [DateFormat] (h : Likeness workspace other related)
    (hwidth : ∀ {node twin}, related node twin → workspace.width node = other.width twin)
    (hrelated : related node twin) (htwin : twin ∈ other.nodes) {cell : Cell}
    (hends : ¬ Endless (workspace.encodeCell node cell)) :
    other.encodeCell twin cell = workspace.encodeCell node cell := by
  rw [encodeCell, endless_bind, not_or] at hends
  rw [encodeCell, encodeCell, h.encode_text hwidth hrelated htwin hends.1]

/-- Cells that can be encoded are encoded alike under columns that are alike one by one. -/
theorem encode_cells [DateFormat] (h : Likeness workspace other related)
    (hwidth : ∀ {node twin}, related node twin → workspace.width node = other.width twin)
    {columns twins : List Node} (hcolumns : List.Forall₂ related columns twins)
    (htwins : twins ⊆ other.nodes) {cells : List Cell}
    (hends : ¬ Endless (workspace.encodeCells columns cells)) :
    other.encodeCells twins cells = workspace.encodeCells columns cells := by
  induction hcolumns generalizing cells with
  | nil => rfl
  | @cons column twin columns twins hcolumn _ ih =>
      rw [encodeCells, endless_bind, not_or, endless_map_tag] at hends
      obtain ⟨hfirst, hrest⟩ := hends
      obtain ⟨htwin, htwins⟩ := List.cons_subset.mp htwins
      rw [encodeCells, encodeCells, h.encode_cell hwidth hcolumn htwin hfirst, ← h.label hcolumn]
      refine bind_congr_of_ok fun first hcell => ?_
      have hothers : ¬ Endless (workspace.encodeCells columns cells.tail) :=
        fun hothers => hrest ⟨first, hcell, endless_bind.mpr (.inl hothers)⟩
      rw [ih htwins hothers]

/-- A row of cells that can be encoded is encoded alike under schemes whose columns are alike. -/
theorem encode_row [DateFormat] (h : Likeness workspace other related)
    (hwidth : ∀ {node twin}, related node twin → workspace.width node = other.width twin)
    {number position : Nat}
    (hcolumns : List.Forall₂ related (workspace.columns number) (other.columns position))
    {cells : List Cell} (hends : ¬ Endless (workspace.encodeRow number cells)) :
    other.encodeRow position cells = workspace.encodeRow number cells := by
  rw [encodeRow, endless_bind, not_or] at hends
  rw [encodeRow, encodeRow,
    h.encode_cells hwidth hcolumns (columns_subset_nodes other position) hends.1]

/-- Columns that can be decoded from every reader are decoded like columns that they are like. -/
theorem decode_each [Memory] (h : Likeness workspace other related) {columns twins : List Node}
    (hcolumns : List.Forall₂ related columns twins) (htwins : twins ⊆ other.nodes)
    (hends : ∀ column ∈ columns, ∀ reader,
      ¬ Reading.Endless (workspace.decodeNode column reader)) :
    Reading.each other.decodeColumn twins = Reading.each workspace.decodeColumn columns := by
  induction hcolumns with
  | nil => rfl
  | @cons column twin columns twins hcolumn _ ih =>
      obtain ⟨htwin, htwins⟩ := List.cons_subset.mp htwins
      obtain ⟨hfirst, hrest⟩ := List.forall_mem_cons.mp hends
      have hnode : other.decodeNode twin = workspace.decodeNode column :=
        funext fun reader => h.decode_node hcolumn htwin (hfirst reader)
      have hdecode : other.decodeColumn twin = workspace.decodeColumn column := by
        rw [decodeColumn, decodeColumn, hnode, h.label hcolumn]
      rw [Reading.each, Reading.each, hdecode, ih htwins hrest]

/-- A row is decoded alike under schemes of one table whose columns are alike, where the columns can
be decoded from every reader. -/
theorem decode_row [Memory] (h : Likeness workspace other related) {number position : Nat}
    (htable : other.tableName position = workspace.tableName number)
    (hcolumns : List.Forall₂ related (workspace.columns number) (other.columns position))
    (hends : ∀ column ∈ workspace.columns number, ∀ reader,
      ¬ Reading.Endless (workspace.decodeNode column reader)) (row : List Char) :
    other.decodeRow position row = workspace.decodeRow number row := by
  have heach := h.decode_each hcolumns (columns_subset_nodes other position) hends
  unfold decodeRow decodeColumns
  rw [htable]
  show (Reading.each other.decodeColumn _ >>= _ : Reading Error (List Value)).result _ =
    (Reading.each workspace.decodeColumn _ >>= _ : Reading Error (List Value)).result _
  rw [heach]

end Likeness

end Workspace

end SheetWire
