import SheetWire.Proofs.Definition.Filled
import SheetWire.Proofs.Row.Answers
import SheetWire.Proofs.Row.Columns

/-!
# Decoding encoded rows

Between the columns of a row stand the same commas as inside them, so a row is read back column by
column only if it is cut into the slots that its cells were written in. This is so for whatever
encoding gives, but for a comma that a primitive passes on as it is. Without such a comma, decoding
a row is reading its cells directly (`decode_encoded_row`).
-/

namespace SheetWire

open Text

/-- The texts of the cells under some columns. A missing cell counts as empty. -/
def cellTexts [DateFormat] : List Node → List Cell → List (Node × String)
  | [], _ => []
  | column :: columns, cells =>
      (column, (cells.headD .empty).toText) :: cellTexts columns cells.tail

/-- The texts under some columns as encoding takes them. -/
def escapedTexts (texts : List (Node × String)) : List (Node × List Char) :=
  texts.map fun (column, text) => (column, escape text.toList)

/-- Every column has a text. -/
theorem columns_of_cell_texts [DateFormat] (columns : List Node) (cells : List Cell) :
    (cellTexts columns cells).map Prod.fst = columns := by
  induction columns generalizing cells with
  | nil => rfl
  | cons column columns ih => rw [cellTexts, List.map_cons, ih]

/-- Some columns have some texts. -/
theorem cell_texts_ne_nil [DateFormat] {columns : List Node} {cells : List Cell}
    (h : columns ≠ []) :
    cellTexts columns cells ≠ [] := by
  intro hnil
  have hmap := columns_of_cell_texts columns cells
  rw [hnil] at hmap
  exact h hmap.symm

namespace Workspace

variable {workspace : Workspace}

/-- Whether no text under a primitive column holds a comma that is not marked. -/
def Plain (workspace : Workspace) (texts : List (Node × String)) : Prop :=
  ∀ column text, (column, text) ∈ texts → ∀ kind, workspace.shape column = .primitive kind →
    ¬ UnmarkedComma text.toList

/-- Whether texts are written in some slots each. -/
def Writes (workspace : Workspace) (texts : List (Node × String)) (pieces : List Slots) : Prop :=
  List.Forall₂ (fun cell piece => workspace.encodeText cell.1 cell.2 = .ok piece) texts pieces

/-- The cells of a row are the texts under its columns, each written in slots of its own. -/
theorem encode_cells_eq_ok [DateFormat] {columns : List Node} {cells : List Cell}
    {wires : List (List Char)} (h : workspace.encodeCells columns cells = .ok wires) :
    ∃ pieces, workspace.Writes (cellTexts columns cells) pieces ∧
      wires = pieces.map [','].intercalate := by
  induction columns generalizing cells wires with
  | nil =>
      cases h
      exact ⟨[], .nil, rfl⟩
  | cons column columns ih =>
      rw [encodeCells] at h
      obtain ⟨first, hfirst, h⟩ := bind_eq_ok.mp h
      obtain ⟨others, hothers, h⟩ := bind_eq_ok.mp h
      cases h
      obtain ⟨pieces, hpieces, rfl⟩ := ih hothers
      have hcell := map_error_eq_ok.mp hfirst
      unfold encodeCell at hcell
      obtain ⟨piece, hpiece, hcell⟩ := bind_eq_ok.mp hcell
      cases hcell
      exact ⟨piece :: pieces, .cons hpiece hpieces, rfl⟩

/-- The cells of a row of a scheme. -/
theorem encode_row_eq_ok [DateFormat] {number : Nat} {cells : List Cell} {row : Row}
    (h : workspace.encodeRow number cells = .ok row) :
    ∃ pieces, workspace.Writes (cellTexts (workspace.columns number) cells) pieces ∧
      row.cells = pieces.map [','].intercalate := by
  unfold encodeRow at h
  obtain ⟨wires, hwires, h⟩ := bind_eq_ok.mp h
  cases h
  exact encode_cells_eq_ok hwires

/-- Columns whose texts are written make up the cells of a row. -/
theorem encode_cells_of_writes [DateFormat] {columns : List Node} {cells : List Cell}
    {pieces : List Slots} (h : workspace.Writes (cellTexts columns cells) pieces) :
    workspace.encodeCells columns cells = .ok (pieces.map [','].intercalate) := by
  induction columns generalizing cells pieces with
  | nil =>
      cases h
      rfl
  | cons column columns ih =>
      rw [cellTexts] at h
      cases h with
      | cons hfirst hrest =>
          have hcell : workspace.encodeCell column (cells.headD .empty) =
              .ok ([','].intercalate _) :=
            bind_eq_ok.mpr ⟨_, hfirst, rfl⟩
          rw [encodeCells, hcell, ih hrest]
          rfl

/-- What is written under a column that passes no comma on is cut into the slots that it was written
in. -/
theorem splitOn_intercalate_piece {column : Node} {text : String} {piece : Slots}
    (h : workspace.encodeText column text = .ok piece)
    (hplain : ∀ kind, workspace.shape column = .primitive kind → ¬ UnmarkedComma text.toList) :
    ([','].intercalate piece).splitOn ',' = piece := by
  refine List.splitOn_intercalate ',' (fun slot hslot => ?_) (encode_within_ne_nil h)
  refine comma_notMem_slots h (fun kind hshape => ?_) hslot
  rw [comma_mem_escape]
  exact hplain kind hshape

/-- Cells without passed on commas are cut into the slots that they were written in. -/
theorem splitOn_wire {texts : List (Node × String)} {pieces : List Slots}
    (h : workspace.Writes texts pieces) (hplain : workspace.Plain texts) (hne : texts ≠ []) :
    ([','].intercalate (pieces.map [','].intercalate)).splitOn ',' = pieces.flatten := by
  have hpieces : pieces.map [','].intercalate ≠ [] := by
    cases h with
    | nil => exact absurd rfl hne
    | cons hfirst hrest => exact List.cons_ne_nil _ _
  rw [splitOn_intercalate_flatMap hpieces]
  clear hne hpieces
  unfold Writes at h
  induction h with
  | nil => rfl
  | @cons cell piece texts pieces hfirst hrest ih =>
      have hown := splitOn_intercalate_piece hfirst (hplain cell.1 cell.2 List.mem_cons_self)
      have hothers := ih fun column text hmem =>
        hplain column text (List.mem_cons_of_mem cell hmem)
      rw [List.map_cons, List.flatMap_cons, hown, hothers, List.flatten_cons]

/-- A row without passed on commas is read from the slots that its cells were written in. -/
theorem plain_row_slots [DateFormat] {number : Nat} {cells : List Cell} {row : Row}
    (hcolumns : workspace.columns number ≠ []) (h : workspace.encodeRow number cells = .ok row)
    (hplain : workspace.Plain (cellTexts (workspace.columns number) cells)) :
    ∃ pieces, workspace.Writes (cellTexts (workspace.columns number) cells) pieces ∧
      row.cells = pieces.map [','].intercalate ∧
      Reader.ofRow row.wire = ⟨pieces.flatten ++ [], 0⟩ := by
  obtain ⟨pieces, hwrites, hcells⟩ := encode_row_eq_ok h
  refine ⟨pieces, hwrites, hcells, ?_⟩
  unfold Reader.ofRow Row.wire
  rw [hcells, splitOn_wire hwrites hplain (cell_texts_ne_nil hcolumns), List.append_nil]

/-- Decoding a column from the slots that its text was written in has the outcome of reading the
text directly, if the slots can be counted. -/
theorem answers_decode_node [Memory] {column : Node} {text : String} {piece : Slots}
    (hcolumn : column ∈ workspace.nodes) (h : workspace.encodeText column text = .ok piece) :
    ∃ outcome, Reading.Answers (workspace.decodeNode column) piece outcome ∧
      (piece.length ≤ 2 ^ 63 →
        OutcomeOf piece.length (workspace.Reads column (escape text.toList)) Value.Held
          outcome) := by
  obtain ⟨outcome, hanswers, hreads⟩ := answers_encode_within h
  refine ⟨outcome, ?_, hreads⟩
  have hsame : ∀ rest index, workspace.decodeNode column ⟨piece ++ rest, index⟩ =
      workspace.decodeWithin _ column ⟨piece ++ rest, index⟩ := fun rest index =>
    decode_node_of_ends hcolumn (hanswers.not_endless rest index)
  cases outcome with
  | ok value =>
      intro rest index
      rw [hsame]
      exact hanswers rest index
  | error stop =>
      intro rest index
      rw [hsame]
      exact hanswers rest index

/-- Whether decoding some columns, one after another, has an outcome on some slots: they are all
taken for the values, or the error is about the first column that stops, and what stops there is
the reading of its text unless it is memory. -/
def RowAnswers [Memory] (workspace : Workspace) (texts : List (Node × String)) (used : Slots) :
    Except Stop (List Value) → Prop
  | .ok values =>
      Reading.Takes (Reading.each workspace.decodeColumn (texts.map Prod.fst)) used values
  | .error stop => ∃ column text, (column, text) ∈ escapedTexts texts ∧
      (∀ misfit, stop = .misfit misfit → workspace.Reads column text (.error misfit)) ∧
      ∀ rest index, ∃ offset after,
        Reading.each workspace.decodeColumn (texts.map Prod.fst) ⟨used ++ rest, index⟩ =
          .error ((stop.error offset).tag column.label) after

/-- The first column stops. -/
theorem RowAnswers.stop [Memory] {column : Node} {text : String}
    (texts : List (Node × String)) {piece : Slots} (others : Slots) {stop : Stop} {length : Nat}
    (h : Reading.Answers (workspace.decodeNode column) piece (.error stop))
    (hreads : OutcomeOf length (workspace.Reads column (escape text.toList)) Value.Held
      (.error stop)) :
    workspace.RowAnswers ((column, text) :: texts) (piece ++ others) (.error stop) := by
  refine ⟨column, escape text.toList, List.mem_cons_self, ?_, fun rest index => ?_⟩
  · rintro misfit rfl
    exact hreads
  · obtain ⟨offset, after, hread⟩ := h (others ++ rest) index
    refine ⟨offset, after, ?_⟩
    rw [List.append_assoc, List.map_cons, Reading.each]
    exact Reading.bind_eq_error.mpr (.inl (decode_column_eq_error hread))

/-- Behind a column that gives a value, the others have their outcome. -/
theorem RowAnswers.cons [Memory] {column : Node} (text : String) {texts : List (Node × String)}
    {piece others : Slots} {value : Value} {outcome : Except Stop (List Value)}
    (hfirst : Reading.Takes (workspace.decodeNode column) piece value)
    (h : workspace.RowAnswers texts others outcome) :
    workspace.RowAnswers ((column, text) :: texts) (piece ++ others)
      (outcome.map fun values => value :: values) := by
  have hcolumn : Reading.Takes (workspace.decodeColumn column) piece value :=
    Reading.Takes.adapt _ hfirst
  cases outcome with
  | ok values => exact Reading.Takes.each_cons hcolumn h
  | error stop =>
      obtain ⟨other, bad, hmem, hstop, herror⟩ := h
      refine ⟨other, bad, List.mem_cons_of_mem _ hmem, hstop, fun rest index => ?_⟩
      obtain ⟨offset, after, hread⟩ := herror rest (index + Reading.span piece)
      refine ⟨offset, after, ?_⟩
      rw [List.append_assoc, List.map_cons, Reading.each]
      refine Reading.bind_eq_error.mpr (.inr ⟨value, _, hcolumn _ index, ?_⟩)
      exact Reading.bind_eq_error.mpr (.inl hread)

/-- Decoding columns from what was written under them has the outcome of reading their texts
directly, if the slots can be counted. -/
theorem row_answers [Memory] {texts : List (Node × String)} {pieces : List Slots}
    (hnodes : ∀ cell ∈ texts, cell.1 ∈ workspace.nodes) (h : workspace.Writes texts pieces)
    (hfits : pieces.flatten.length ≤ 2 ^ 63) :
    ∃ outcome, workspace.RowAnswers texts pieces.flatten outcome ∧
      OutcomeOf pieces.flatten.length (workspace.ReadsAll (escapedTexts texts))
        (fun values => ∀ value ∈ values, value.Held) outcome := by
  unfold Writes at h
  induction h with
  | nil =>
      refine ⟨.ok [], Reading.Takes.pure [], .nil, fun value hvalue => ?_⟩
      exact absurd hvalue List.not_mem_nil
  | @cons cell piece texts pieces hfirst hrest ih =>
      obtain ⟨column, text⟩ := cell
      rw [List.flatten_cons, List.length_append] at *
      obtain ⟨outcome, hanswers, hreads⟩ :=
        answers_decode_node (hnodes _ List.mem_cons_self) hfirst
      have hdirect := hreads (by omega)
      cases outcome with
      | error stop =>
          exact ⟨.error stop, RowAnswers.stop texts _ hanswers hdirect,
            outcome_of_stop (hdirect.of_le (Nat.le_add_right _ _))⟩
      | ok value =>
          obtain ⟨others, hothers, hall⟩ :=
            ih (fun other hother => hnodes other (List.mem_cons_of_mem _ hother)) (by omega)
          exact ⟨_, RowAnswers.cons text hanswers hothers,
            outcome_of_cons hdirect (hall.of_le (Nat.le_add_left _ _))⟩

/-- The columns that have texts are nodes of the workspace. -/
theorem mem_nodes_of_cell_texts [DateFormat] {number : Nat} {cells : List Cell} :
    ∀ cell ∈ cellTexts (workspace.columns number) cells, cell.1 ∈ workspace.nodes := by
  intro cell hcell
  refine columns_subset_nodes workspace number ?_
  rw [← columns_of_cell_texts (workspace.columns number) cells]
  exact List.mem_map_of_mem hcell

/-- Decoding an encoded row is reading its escaped cells directly: it gives the values that this
reading gives if memory holds them. Otherwise the error is about a text in a cell that is no number
where this reading needs one; or memory has no room for the values, which can only be so if the row
has as many characters as memory has room for values. The cells of primitive columns hold marked
commas only, and the row has less than `2 ^ 63` characters. -/
theorem decode_encoded_row [Memory] [DateFormat] {number : Nat} {cells : List Cell} {row : Row}
    (hcolumns : workspace.columns number ≠ []) (h : workspace.encodeRow number cells = .ok row)
    (hplain : workspace.Plain (cellTexts (workspace.columns number) cells))
    (hlength : row.wire.length < 2 ^ 63) :
    (∀ values, workspace.decodeRow number row.wire = .ok values ↔
      workspace.ReadsAll (escapedTexts (cellTexts (workspace.columns number) cells))
        (.ok values) ∧ ∀ value ∈ values, value.Held) ∧
    ∀ e, workspace.decodeRow number row.wire = .error e →
      (Memory.room ≤ row.wire.length ∧ ∃ count, e = .endless (.memory count)) ∨
      ∃ column text misfit offset,
        workspace.ReadsAll (escapedTexts (cellTexts (workspace.columns number) cells))
          (.error misfit) ∧
        (column, text) ∈ escapedTexts (cellTexts (workspace.columns number) cells) ∧
        workspace.Reads column text (.error misfit) ∧ misfit.NoNumber ∧
        e = .inColumn column.label (misfit.error offset) := by
  obtain ⟨pieces, hwrites, -, hreader⟩ := plain_row_slots hcolumns h hplain
  -- A row has at most one slot more than characters.
  have hslots : pieces.flatten.length ≤ row.wire.length + 1 := by
    have hle : (Reader.ofRow row.wire).slots.length ≤ row.wire.length + 1 :=
      length_splitOn_le row.wire
    simpa only [hreader, List.append_nil] using hle
  obtain ⟨outcome, hanswers, hdirect⟩ :=
    row_answers mem_nodes_of_cell_texts hwrites (hslots.trans (Nat.succ_le_of_lt hlength))
  cases outcome with
  | ok values =>
      have htakes : Reading.Takes _ pieces.flatten values := hanswers
      rw [columns_of_cell_texts] at htakes
      have hdecode : workspace.decodeRow number row.wire = .ok values := by
        rw [decode_row_eq_ok, hreader, htakes [] 0]
        exact ⟨_, rfl, rfl⟩
      rw [hdecode]
      refine ⟨fun others => ⟨fun hothers => ?_, fun ⟨hothers, _⟩ => ?_⟩, fun e he => nomatch he⟩
      · rw [← Except.ok.inj hothers]
        exact hdirect
      · rw [Except.ok.inj (reads_all_deterministic hdirect.1 hothers)]
  | error stop =>
      obtain ⟨column, text, hmem, hstop, herror⟩ := hanswers
      obtain ⟨offset, after, hread⟩ := herror [] 0
      rw [← hreader, columns_of_cell_texts] at hread
      rw [decode_row_eq_error hread]
      cases stop with
      | misfit misfit =>
          have hcolumn := hstop misfit rfl
          refine ⟨fun values => ⟨nofun, fun ⟨hvalues, _⟩ => ?_⟩, fun e he => .inr ?_⟩
          · exact nomatch reads_all_deterministic hdirect hvalues
          · cases he
            exact ⟨column, text, misfit, offset, hdirect, hmem, hcolumn,
              no_number_of_reads hcolumn rfl, rfl⟩
      | short count =>
          obtain ⟨hlarge, hnone⟩ := hdirect
          refine ⟨fun values => ⟨nofun, fun ⟨hvalues, hheld⟩ => ?_⟩, fun e he => .inl ?_⟩
          · exact absurd hheld (hnone values hvalues)
          · cases he
            exact ⟨Nat.le_of_lt_succ (Nat.lt_of_lt_of_le hlarge hslots), count, rfl⟩

/-- A table of items with a name and the prices of quantities. -/
def pricedItems : Scheme :=
  ⟨"Items", [.primitive ⟨"Items", "name"⟩ .string,
    .dictionary ⟨"Items", "prices"⟩ (.primitive ⟨"Items", ""⟩ .int)
      (.primitive ⟨"Items", ""⟩ .int)]⟩

/-- The cells of an item whose name has a marked comma. -/
def markedItem : List Cell :=
  [.text "a\\,b", .text "1,5"]

/-- The row of this item. -/
def markedRow : Row :=
  ⟨["a:l/~b".toList, "1,1,5".toList]⟩

/-- The item is encoded. -/
theorem encode_marked_item : (resolved [pricedItems]).encodeRow 0 markedItem = .ok markedRow := by
  cbv

/-- The row of the item is decoded. -/
theorem decode_marked_row : (resolved [pricedItems]).decodeRow 0 markedRow.wire =
    .ok [.string "a,b", .map [(.int 1, .int 5)]] := by
  cbv

/-- The only comma in a primitive column of the item is marked. -/
theorem plain_marked_item : (resolved [pricedItems]).Plain
    (cellTexts ((resolved [pricedItems]).columns 0) markedItem) := by
  intro column text hmem kind hshape
  rcases List.mem_cons.mp hmem with hname | hmem
  · cases hname
    rw [← comma_mem_escape]
    decide
  · cases List.mem_singleton.mp hmem
    exact nomatch hshape

/-- The marked comma belongs to the name that is read directly from the cells of the item. -/
theorem decode_encoded_marked_item :
    (resolved [pricedItems]).columns 0 ≠ [] ∧
    (resolved [pricedItems]).encodeRow 0 markedItem = .ok markedRow ∧
    (resolved [pricedItems]).Plain (cellTexts ((resolved [pricedItems]).columns 0) markedItem) ∧
    markedRow.wire.length < 2 ^ 63 ∧
    (resolved [pricedItems]).ReadsAll
      (escapedTexts (cellTexts ((resolved [pricedItems]).columns 0) markedItem))
      (.ok [.string "a,b", .map [(.int 1, .int 5)]]) := by
  have hcolumns : (resolved [pricedItems]).columns 0 ≠ [] := List.cons_ne_nil _ _
  have hlength : markedRow.wire.length < 2 ^ 63 := by decide
  obtain ⟨hvalues, -⟩ := decode_encoded_row hcolumns encode_marked_item plain_marked_item hlength
  exact ⟨hcolumns, encode_marked_item, plain_marked_item, hlength,
    ((hvalues _).mp decode_marked_row).1⟩

end Workspace

end SheetWire
