import SheetWire.Proofs.Row.Alignment

/-!
# Columns that read their own cells

A row that is encoded and decoded again without an error may still have given the slots of one cell
to the column of another. Only a comma that a primitive passes on can do that: without one every
column reads its own cell (`columns_read_own_cells_iff`), and `columns_read_shifted_cells` is a
table where one is not noticed.
-/

namespace SheetWire

open Text

/-- Of two lists that are related one by one, an element of the first has one of the second. -/
theorem getElem?_of_forall_two {α β : Type} {related : α → β → Prop} {list : List α}
    {others : List β} (h : List.Forall₂ related list others) {position : Nat} {x : α}
    (hx : list[position]? = some x) : ∃ y, others[position]? = some y ∧ related x y := by
  induction h generalizing position with
  | nil => exact nomatch hx
  | cons hfirst hrest ih =>
      cases position with
      | zero =>
          cases hx
          exact ⟨_, rfl, hfirst⟩
      | succ position => exact ih hx

namespace Workspace

variable {workspace : Workspace}

section Alone

variable [Memory]

/-- Whether a column is decoded from a cell alone, with nothing of the cell left over. -/
def ReadsAlone (workspace : Workspace) (column : Node) (cell : List Char) (value : Value) : Prop :=
  ∃ after, workspace.decodeNode column (Reader.ofRow cell) = .ok value after ∧
    after.isExhausted = true

omit [Memory] in
/-- The bound that is taken allows a step at least. -/
theorem recursion_bound_pos (workspace : Workspace) (node : Node) (length : Nat) :
    0 < workspace.recursionBound node length :=
  Nat.mul_pos (Nat.succ_pos _) (Nat.succ_pos _)

omit [Memory] in
/-- A primitive passes its text on as it is. -/
theorem encoded_primitive {bound : Nat} {column : Node} {kind : Primitive} {text : List Char}
    {piece : Slots} (hshape : workspace.shape column = .primitive kind)
    (h : workspace.encodeWithin bound column text = .ok piece) : piece = [text] := by
  cases bound with
  | zero => exact nomatch h
  | succ bound =>
      rw [encodeWithin, hshape] at h
      cases h
      rfl

/-- A primitive takes one slot, so it does not use up a cell with a comma. -/
theorem comma_notMem_of_reads_alone {column : Node} {kind : Primitive} {cell : List Char}
    {value : Value} (hshape : workspace.shape column = .primitive kind)
    (h : workspace.ReadsAlone column cell value) : ',' ∉ cell := by
  obtain ⟨after, hread, hexhausted⟩ := h
  have hprimitive : workspace.decodeNode column (Reader.ofRow cell) =
      Reading.primitiveValue kind (Reader.ofRow cell) := by
    obtain ⟨bound, hbound⟩ := Nat.exists_eq_succ_of_ne_zero (Nat.pos_iff_ne_zero.mp
      (workspace.recursion_bound_pos column (Reader.ofRow cell).slots.length))
    show workspace.decodeWithin _ column _ = _
    rw [hbound, decodeWithin, hshape]
  rw [hprimitive, Reading.primitive_value_eq] at hread
  obtain ⟨text, hslots, -⟩ := Reading.read_slot_eq_ok hread
  rw [List.isEmpty_iff.mp hexhausted] at hslots
  have hone : (cell.splitOn ',').length = 1 := by
    show (Reader.ofRow cell).slots.length = 1
    rw [hslots]
    rfl
  exact length_splitOn_eq_one.mp hone

/-- Columns that are decoded from their own slots, one after another, read them alone. -/
theorem reads_alone_of_each {texts : List (Node × String)} {pieces : List Slots}
    (hnodes : ∀ cell ∈ texts, cell.1 ∈ workspace.nodes) (h : workspace.Writes texts pieces)
    (hplain : workspace.Plain texts) {rest : Slots} {index : Nat} {values : List Value}
    {after : Reader}
    (hread : Reading.each workspace.decodeColumn (texts.map Prod.fst)
      ⟨pieces.flatten ++ rest, index⟩ = .ok values after) :
    List.Forall₂ (fun (cell : Node × List Char) value => workspace.ReadsAlone cell.1 cell.2 value)
      ((texts.map Prod.fst).zip (pieces.map [','].intercalate)) values := by
  unfold Writes at h
  induction h generalizing index values with
  | nil =>
      cases hread
      exact .nil
  | @cons cell piece texts pieces hfirst hrest ih =>
      obtain ⟨outcome, hanswers, -⟩ := answers_decode_node (hnodes cell List.mem_cons_self) hfirst
      rw [List.flatten_cons, List.append_assoc, List.map_cons] at hread
      obtain ⟨first, others, between, hcolumn, hothers, rfl⟩ := Reading.each_cons_eq_ok.mp hread
      rw [decode_column_eq_ok] at hcolumn
      cases outcome with
      | error stop =>
          obtain ⟨offset, last, herror⟩ := hanswers (pieces.flatten ++ rest) index
          rw [herror] at hcolumn
          exact nomatch hcolumn
      | ok value =>
          have htakes : Reading.Takes (workspace.decodeNode cell.1) piece value := hanswers
          obtain ⟨rfl, rfl⟩ := htakes.unique hcolumn
          refine .cons ⟨⟨[], Reading.span piece⟩, ?_, rfl⟩ (ih ?_ ?_ hothers)
          · have hown : Reader.ofRow ([','].intercalate piece) = ⟨piece ++ [], 0⟩ := by
              unfold Reader.ofRow
              rw [splitOn_intercalate_piece hfirst (hplain cell.1 cell.2 List.mem_cons_self),
                List.append_nil]
            rw [hown, htakes [] 0, Nat.zero_add]
          · exact fun other hother => hnodes other (List.mem_cons_of_mem cell hother)
          · exact fun column text hmem => hplain column text (List.mem_cons_of_mem cell hmem)

/-- Every column of a row that is encoded and decoded again reads its own cell, and all of it,
exactly if no primitive column is given a comma that is not marked. -/
theorem columns_read_own_cells_iff [DateFormat] {number : Nat} {cells : List Cell} {row : Row}
    {values : List Value} (h : workspace.encodeRow number cells = .ok row)
    (hdecode : workspace.decodeRow number row.wire = .ok values) :
    (∀ (position : Nat) (column : Node) (cell : List Char),
      (workspace.columns number)[position]? = some column → row.cells[position]? = some cell →
      ∃ value, values[position]? = some value ∧ workspace.ReadsAlone column cell value) ↔
    workspace.Plain (cellTexts (workspace.columns number) cells) := by
  constructor
  · intro halone column text hmem kind hshape
    obtain ⟨pieces, hwrites, hcells⟩ := encode_row_eq_ok h
    obtain ⟨position, hposition⟩ := List.mem_iff_getElem?.mp hmem
    obtain ⟨piece, hpiece, hencoded⟩ := getElem?_of_forall_two hwrites hposition
    obtain rfl := encoded_primitive hshape hencoded
    have hcolumn : (workspace.columns number)[position]? = some column := by
      rw [← columns_of_cell_texts (workspace.columns number) cells, List.getElem?_map, hposition]
      rfl
    have hcell : row.cells[position]? = some (escape text.toList) := by
      rw [hcells, List.getElem?_map, hpiece, Option.map_some, List.intercalate_singleton]
    obtain ⟨value, -, hreads⟩ := halone position column _ hcolumn hcell
    -- The comma would cut the cell in two, and the primitive reads the first slot only.
    rw [← comma_mem_escape]
    exact comma_notMem_of_reads_alone hshape hreads
  · intro hplain position column cell hcolumn hcell
    have hcolumns : workspace.columns number ≠ [] :=
      List.ne_nil_of_mem (List.mem_of_getElem? hcolumn)
    obtain ⟨pieces, hwrites, hcells, hreader⟩ := plain_row_slots hcolumns h hplain
    obtain ⟨after, hread, -⟩ := decode_row_eq_ok.mp hdecode
    rw [hreader, ← columns_of_cell_texts (workspace.columns number) cells] at hread
    have hall := reads_alone_of_each mem_nodes_of_cell_texts hwrites hplain hread
    rw [columns_of_cell_texts, ← hcells] at hall
    have hpair : ((workspace.columns number).zip row.cells)[position]? = some (column, cell) :=
      List.getElem?_zip_eq_some.mpr ⟨hcolumn, hcell⟩
    exact getElem?_of_forall_two hall hpair

end Alone

/-- Both columns of the item read their own cells. -/
theorem marked_item_columns_read_own_cells :
    (resolved [pricedItems]).encodeRow 0 markedItem = .ok markedRow ∧
    (resolved [pricedItems]).decodeRow 0 markedRow.wire =
      .ok [.string "a,b", .map [(.int 1, .int 5)]] ∧
    ∀ (position : Nat) (column : Node) (cell : List Char),
      ((resolved [pricedItems]).columns 0)[position]? = some column →
      markedRow.cells[position]? = some cell →
      ∃ value, ([.string "a,b", .map [(.int 1, .int 5)]] : List Value)[position]? = some value ∧
        (resolved [pricedItems]).ReadsAlone column cell value :=
  ⟨encode_marked_item, decode_marked_row,
    (columns_read_own_cells_iff encode_marked_item decode_marked_row).mpr plain_marked_item⟩

/-- Columns do not always read their own cells: the commas in a name move what stands behind the
name into the prices, and the row is decoded without an error. -/
theorem columns_read_shifted_cells :
    ¬ ∀ schemes : List Scheme, (∀ scheme ∈ schemes, ∃ names definitions,
        Scheme.build scheme.table names definitions = .ok scheme) →
      ∀ number cells row values, (resolved schemes).encodeRow number cells = .ok row →
        (resolved schemes).decodeRow number row.wire = .ok values →
        ∀ (position : Nat) (column : Node) (cell : List Char),
          ((resolved schemes).columns number)[position]? = some column →
          row.cells[position]? = some cell →
          ∃ value, values[position]? = some value ∧
            (resolved schemes).ReadsAlone column cell value := by
  intro halone
  have hbuilt : ∀ scheme ∈ [pricedItems], ∃ names definitions,
      Scheme.build scheme.table names definitions = .ok scheme := by
    intro scheme hscheme
    obtain rfl := List.mem_singleton.mp hscheme
    refine ⟨["name", "prices"], ["string", "Map<int,int>"], ?_⟩
    cbv
  have hencode : (resolved [pricedItems]).encodeRow 0 [.text "x,1,2", .empty] =
      .ok ⟨["x,1,2".toList, "0".toList]⟩ := by cbv
  have hdecode : (resolved [pricedItems]).decodeRow 0
      (Row.wire ⟨["x,1,2".toList, "0".toList]⟩) =
      .ok [.string "x", .map [(.int 2, .int 0)]] := by cbv
  obtain ⟨column, hcolumn⟩ : ∃ column, ((resolved [pricedItems]).columns 0)[0]? = some column :=
    ⟨_, rfl⟩
  obtain ⟨value, -, hreads⟩ := halone [pricedItems] hbuilt 0 _ _ _ hencode hdecode 0 column _
    hcolumn rfl
  have hshape : (resolved [pricedItems]).shape column = .primitive .string := by
    cases hcolumn
    rfl
  exact absurd (comma_notMem_of_reads_alone hshape hreads) (by decide)

end Workspace

end SheetWire
