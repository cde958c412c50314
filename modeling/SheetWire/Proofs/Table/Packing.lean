import SheetWire.Proofs.Row.Lines
import SheetWire.Proofs.Row.OwnCells
import SheetWire.Proofs.Table.Order
import SheetWire.Proofs.Workspace.Restriction

/-!
# Packed tables and their rows

A packed table is its rows with newlines between them, and it is unpacked line by line, without the
carriage returns at the end of a line. No converted row is empty or holds a newline, so the lines
are the rows again, unless a row ends with a carriage return (`packed_rows_pack`). Carriage returns
in front of the newlines make no difference to any text (`packed_rows_with_returns`).
`packed_tables_split` puts this together for all tables of a conversion.
-/

namespace SheetWire

namespace Text

/-- A text with a carriage return in front of every newline. -/
def withReturns (text : List Char) : List Char :=
  text.flatMap fun c => if c = '\n' then ['\r', '\n'] else [c]

/-- What is dropped from the end of a text does not depend on a character in front of it, unless
nothing is left. -/
theorem drop_right_while_cons (p : Char → Bool) (c : Char) (text : List Char) :
    dropRightWhile p (c :: text) =
      if dropRightWhile p text = [] ∧ p c then [] else c :: dropRightWhile p text := by
  unfold dropRightWhile
  rw [List.reverse_cons, List.dropWhile_append]
  cases hrest : text.reverse.dropWhile p with
  | nil =>
      cases hc : p c with
      | true => simp [hc]
      | false => simp [hc]
  | cons last before => simp

/-- A text that does not end with a character is kept up to its end. -/
theorem drop_right_while_of_getLast {c : Char} {text : List Char}
    (h : text.getLast? ≠ some c) : dropRightWhile (· == c) text = text := by
  refine List.rdropWhile_eq_self_iff.mpr fun hne hlast => h ?_
  rw [List.getLast?_eq_some_getLast hne, beq_iff_eq.mp hlast]

end Text

namespace Workspace

open Text

/-- Carriage returns in front of the newlines are dropped again. -/
theorem lines_with_returns (text : List Char) :
    ((withReturns text).splitOn '\n').map (dropRightWhile (· == '\r')) =
      (text.splitOn '\n').map (dropRightWhile (· == '\r')) := by
  induction text with
  | nil => rfl
  | cons c rest ih =>
      have hcons : withReturns (c :: rest) =
          (if c = '\n' then ['\r', '\n'] else [c]) ++ withReturns rest := List.flatMap_cons
      rw [hcons]
      split
      · rename_i hc
        subst hc
        show (('\r' :: '\n' :: withReturns rest).splitOn '\n').map _ = _
        rw [splitOn_cons_of_ne (by decide), splitOn_cons_self, splitOn_cons_self,
          List.modifyHead_cons, List.map_cons, List.map_cons]
        exact congrArg ([] :: ·) ih
      · rename_i hc
        -- The character goes in front of the first line of the rest, on both sides.
        have hsplit : ∀ text : List Char, ∃ line lines, text.splitOn '\n' = line :: lines :=
          fun text => List.exists_cons_of_ne_nil (List.splitOn_ne_nil '\n' text)
        obtain ⟨line, lines, hlines⟩ := hsplit rest
        obtain ⟨twin, twins, htwins⟩ := hsplit (withReturns rest)
        rw [hlines, htwins, List.map_cons, List.map_cons, List.cons.injEq] at ih
        rw [List.singleton_append, splitOn_cons_of_ne hc, splitOn_cons_of_ne hc, hlines, htwins,
          List.modifyHead_cons, List.modifyHead_cons, List.map_cons, List.map_cons,
          drop_right_while_cons, drop_right_while_cons, ih.1, ih.2]

/-- Carriage returns in front of the newlines make no difference to the rows of a packed table. -/
theorem packed_rows_with_returns (packed : List Char) :
    packedRows (withReturns packed) = packedRows packed := by
  unfold packedRows
  rw [lines_with_returns]
  cases packed with
  | nil => rfl
  | cons c rest =>
      have hne : withReturns (c :: rest) ≠ [] := by
        rw [withReturns, List.flatMap_cons]
        refine List.append_ne_nil_of_left_ne_nil ?_ _
        split <;> exact List.cons_ne_nil _ _
      rw [if_neg hne, if_neg (List.cons_ne_nil c rest)]

/-- Lines that are not empty, hold no newline and do not end with a carriage return are the rows of
the packed table that they are glued to. -/
theorem packed_rows_intercalate {lines : List (List Char)}
    (hlines : ∀ line ∈ lines, line ≠ [] ∧ '\n' ∉ line)
    (hreturns : ∀ line ∈ lines, line.getLast? ≠ some '\r') :
    packedRows (['\n'].intercalate lines) = lines := by
  unfold packedRows
  split
  · rename_i hnil
    rcases intercalate_eq_nil.mp hnil with hnone | hblank
    · exact hnone.symm
    · rw [hblank] at hlines
      exact absurd rfl (hlines [] List.mem_cons_self).1
  · rename_i hne
    have hlinesNe : lines ≠ [] := fun hnil => hne (by rw [hnil]; rfl)
    rw [List.splitOn_intercalate '\n' (fun line hline => (hlines line hline).2) hlinesNe]
    refine (List.map_congr_left fun line hline => ?_).trans (List.map_id lines)
    exact drop_right_while_of_getLast (hreturns line hline)

variable {workspace : Workspace} {number : Nat}

section Decoding

variable [Memory]

/-- Whether decoding a packed table is decoding its rows one by one: it gives the values of all of
them, or the error of the first that fails. -/
def DecodesRows (workspace : Workspace) (number : Nat) (packed : List Char) (rows : List Row) :
    Prop :=
  (∀ values, workspace.decodeTable number packed = .ok values ↔
    List.Forall₂ (fun row found => workspace.decodeRow number row.wire = .ok found) rows values) ∧
  ∀ e, workspace.decodeTable number packed = .error e ↔
    ∃ before row after, rows = before ++ row :: after ∧
      (∀ earlier ∈ before, ∃ found, workspace.decodeRow number earlier.wire = .ok found) ∧
      workspace.decodeRow number row.wire = .error e

/-- The values of rows are the values of each of them. -/
theorem decode_rows_eq_ok {rows : List Row} {values : List (List Value)} :
    workspace.decodeRows number (rows.map Row.wire) = .ok values ↔
      List.Forall₂ (fun row found => workspace.decodeRow number row.wire = .ok found)
        rows values := by
  induction rows generalizing values with
  | nil =>
      rw [List.forall₂_nil_left_iff, List.map_nil, decodeRows]
      exact ⟨fun h => (Except.ok.inj h).symm, fun h => by rw [h]; rfl⟩
  | cons row rest ih =>
      rw [List.map_cons, decodeRows, List.forall₂_cons_left_iff, bind_cons_eq_ok]
      simp only [ih]

/-- The error of rows is that of the first row that fails. -/
theorem decode_rows_eq_error {rows : List Row} {e : Error} :
    workspace.decodeRows number (rows.map Row.wire) = .error e ↔
      ∃ before row after, rows = before ++ row :: after ∧
        (∀ earlier ∈ before, ∃ found, workspace.decodeRow number earlier.wire = .ok found) ∧
        workspace.decodeRow number row.wire = .error e := by
  induction rows with
  | nil =>
      refine iff_of_false (fun h => nomatch h) ?_
      intro h
      obtain ⟨before, row, after, hrows, -⟩ := h
      simp at hrows
  | cons first rest ih =>
      rw [List.map_cons, decodeRows, bind_eq_error]
      constructor
      · intro h
        rcases h with hfirst | ⟨found, hfound, h⟩
        · exact ⟨[], first, rest, rfl, fun _ h => absurd h List.not_mem_nil, hfirst⟩
        · rcases bind_eq_error.mp h with hrest | ⟨others, -, h⟩
          · obtain ⟨before, row, after, rfl, hbefore, hrow⟩ := ih.mp hrest
            exact ⟨first :: before, row, after, rfl,
              List.forall_mem_cons.mpr ⟨⟨found, hfound⟩, hbefore⟩, hrow⟩
          · exact nomatch h
      · intro h
        obtain ⟨before, row, after, hrows, hbefore, hrow⟩ := h
        cases before with
        | nil =>
            obtain ⟨rfl, rfl⟩ := List.cons.inj hrows
            exact .inl hrow
        | cons earlier before =>
            obtain ⟨rfl, rfl⟩ := List.cons.inj hrows
            obtain ⟨⟨found, hfound⟩, hothers⟩ := List.forall_mem_cons.mp hbefore
            exact .inr ⟨found, hfound,
              bind_eq_error.mpr (.inl (ih.mpr ⟨before, row, after, rfl, hothers, hrow⟩))⟩

/-- A packed table is decoded row by row if its rows are those of some list. -/
theorem decodes_rows_of_packed {packed : List Char} {rows : List Row}
    (h : packedRows packed = rows.map Row.wire) : workspace.DecodesRows number packed rows := by
  refine ⟨fun values => ?_, fun e => ?_⟩
  · rw [decodeTable, h]
    exact decode_rows_eq_ok
  · rw [decodeTable, h]
    exact decode_rows_eq_error

end Decoding

section Encoding

variable [DateFormat]

/-- Rows are encoded one by one. -/
theorem encode_each_eq_ok {rows : List (List Cell)} {encoded : List Row} :
    workspace.encodeEach number rows = .ok encoded ↔
      List.Forall₂ (fun cells row => workspace.encodeRow number cells = .ok row) rows encoded := by
  induction rows generalizing encoded with
  | nil =>
      rw [List.forall₂_nil_left_iff, encodeEach]
      exact ⟨fun h => (Except.ok.inj h).symm, fun h => by rw [h]; rfl⟩
  | cons cells rest ih =>
      rw [encodeEach, List.forall₂_cons_left_iff, bind_cons_eq_ok]
      simp only [ih]

/-- The rows that are encoded are those whose first cell is there and has a text. -/
theorem encode_rows_eq_ok {rows : List (List Cell)} {encoded : List Row} :
    workspace.encodeRows number rows = .ok encoded ↔
      List.Forall₂ (fun cells row => workspace.encodeRow number cells = .ok row)
        (rows.filter fun cells => (cells.headD .empty).toText ≠ "") encoded := by
  have hfilter : rows.filter holdsData =
      rows.filter fun cells => (cells.headD .empty).toText ≠ "" :=
    List.filter_congr fun cells _ => by
      rw [Bool.eq_iff_iff, holds_data_iff, decide_eq_true_eq]
  rw [encodeRows, hfilter, encode_each_eq_ok]

/-- No encoded row is empty or holds a newline. -/
theorem lines_of_encode_rows {rows : List (List Cell)} {encoded : List Row}
    (hcolumns : workspace.columns number ≠ [])
    (h : workspace.encodeRows number rows = .ok encoded) :
    ∀ row ∈ encoded, row.wire ≠ [] ∧ '\n' ∉ row.wire := by
  intro row hrow
  obtain ⟨cells, hcells, hencoded⟩ := exists_left_of_mem (encode_each_eq_ok.mp h) hrow
  exact ⟨wire_ne_nil hcolumns hencoded (List.mem_filter.mp hcells).2,
    newline_notMem_wire hencoded⟩

end Encoding

end Workspace

namespace Table

open Text

/-- A packed table is empty exactly if it has no rows. -/
theorem pack_eq_nil {table : Table} (h : ∀ row ∈ table.rows, row.wire ≠ [] ∧ '\n' ∉ row.wire) :
    table.pack = [] ↔ table.rows = [] := by
  rw [pack, intercalate_eq_nil, List.map_eq_nil_iff]
  refine or_iff_left fun hblank => ?_
  obtain ⟨row, hrow, hwire⟩ := List.mem_map.mp (hblank ▸ List.mem_singleton_self [])
  exact (h row hrow).1 hwire

/-- The rows of a packed table are its rows. -/
theorem packed_rows_pack {table : Table} (h : ∀ row ∈ table.rows, row.wire ≠ [] ∧ '\n' ∉ row.wire)
    (hreturns : ∀ row ∈ table.rows, row.wire.getLast? ≠ some '\r') :
    Workspace.packedRows table.pack = table.rows.map Row.wire := by
  refine Workspace.packed_rows_intercalate ?_ ?_
  · intro line hline
    obtain ⟨row, hrow, rfl⟩ := List.mem_map.mp hline
    exact h row hrow
  · intro line hline
    obtain ⟨row, hrow, rfl⟩ := List.mem_map.mp hline
    exact hreturns row hrow

end Table

namespace Conversion

open Text

variable {inflector : Inflector} {skip : String} {tables : List RawTable} {conversion : Conversion}

/-- The scheme of a converted table has the position of the table as its number. -/
theorem scheme_of_converted [DateFormat] (h : ofTables skip tables inflector = .ok conversion)
    {number : Nat} {table : Table} (htable : conversion.tables[number]? = some table) :
    conversion.workspace.scheme? number = some table.scheme := by
  obtain ⟨parsed, -, hworkspace, hconverted⟩ := of_tables_eq_ok.mp h
  rw [hworkspace, Workspace.scheme_resolved, ← schemes_of_encode_tables hconverted,
    List.getElem?_map, htable]
  rfl

/-- Every converted table with a column holds the encodings of the rows of its raw table whose first
cell is there and has a text, in their order. None of them is empty or holds a newline, so that the
packed table is empty exactly if there are none. If none ends with a carriage return, decoding the
packed table is decoding its rows one by one, with newlines as well as with carriage returns and
newlines. -/
theorem packed_tables_split [Memory] [DateFormat]
    (h : ofTables skip tables inflector = .ok conversion) :
    ∃ order : List RawTable, order.Perm (tables.filter fun table => !table.isSkipped skip) ∧
      order.length = conversion.tables.length ∧
      ∀ number raw table, order[number]? = some raw → conversion.tables[number]? = some table →
        table.scheme.columns ≠ [] →
        raw.scheme inflector = .ok table.scheme ∧
        conversion.workspace.scheme? number = some table.scheme ∧
        List.Forall₂ (fun cells row => conversion.workspace.encodeRow number cells = .ok row)
          (raw.rows.filter fun cells => (cells.headD .empty).toText ≠ "") table.rows ∧
        (∀ row ∈ table.rows, row.wire ≠ [] ∧ '\n' ∉ row.wire) ∧
        (table.pack = [] ↔ table.rows = []) ∧
        ((∀ row ∈ table.rows, row.wire.getLast? ≠ some '\r') →
          conversion.workspace.DecodesRows number table.pack table.rows ∧
          conversion.workspace.DecodesRows number (withReturns table.pack) table.rows) := by
  obtain ⟨order, hperm, hconverted⟩ := tables_of_of_tables h
  refine ⟨order, hperm, ?_, fun number raw table hraw htable hcolumns => ?_⟩
  · rw [← hconverted.length_eq, List.length_zipIdx]
  · have hpaired : order.zipIdx[number]? = some (raw, number) := by
      rw [List.getElem?_zipIdx, hraw, Nat.zero_add]
      rfl
    obtain ⟨found, hfound, -, hscheme, hrows⟩ := getElem?_of_forall_two hconverted hpaired
    obtain rfl := Option.some.inj (hfound.symm.trans htable)
    have hnumber := scheme_of_converted h htable
    have hfields : conversion.workspace.columns number ≠ [] := by
      rw [Workspace.columns, hnumber]
      show Node.siblings _ 0 found.scheme.columns ≠ []
      cases hfields : found.scheme.columns with
      | nil => exact absurd hfields hcolumns
      | cons field rest => exact List.cons_ne_nil _ _
    have hlines := Workspace.lines_of_encode_rows hfields hrows
    refine ⟨hscheme, hnumber, Workspace.encode_rows_eq_ok.mp hrows, hlines,
      Table.pack_eq_nil hlines, fun hreturns => ?_⟩
    have hpacked := Table.packed_rows_pack hlines hreturns
    exact ⟨Workspace.decodes_rows_of_packed hpacked, Workspace.decodes_rows_of_packed
      ((Workspace.packed_rows_with_returns _).trans hpacked)⟩

/-- A table of notes. The second row is not converted, and the first holds a newline. -/
def dailySheet : RawTable :=
  ⟨"Notes", ["day", "note"], ["int", "string"],
    [[.integer 1, .text "rain\nwind"], [.empty, .text "lost"], [.integer 2]]⟩

/-- The notes come back from the packed table with newlines and with carriage returns. -/
theorem daily_sheet_split :
    ∃ conversion table, ofTables "_" [dailySheet] = .ok conversion ∧
      conversion.tables = [table] ∧ table.pack = "1,rain;l/~wind\n2,".toList ∧
      conversion.workspace.DecodesRows 0 table.pack table.rows ∧
      conversion.workspace.DecodesRows 0 (withReturns table.pack) table.rows := by
  have hresult : (ofTables "_" [dailySheet]).map (fun conversion =>
      conversion.tables.map fun table => (table.scheme.columns.isEmpty, table.rows.map Row.wire)) =
        .ok [(false, ["1,rain;l/~wind".toList, "2,".toList])] := by
    cbv
  cases hconversion : ofTables "_" [dailySheet] with
  | error e =>
      rw [hconversion] at hresult
      cases hresult
  | ok conversion =>
      rw [hconversion] at hresult
      obtain ⟨table, htables, htable⟩ := List.map_eq_singleton_iff.mp (Except.ok.inj hresult)
      obtain ⟨hcolumns, hrows⟩ := Prod.mk.inj htable
      have hne : table.scheme.columns ≠ [] := by
        rwa [← List.isEmpty_eq_false_iff]
      obtain ⟨order, -, hlength, hsplit⟩ := packed_tables_split hconversion
      rw [htables, List.length_singleton] at hlength
      obtain ⟨raw, rfl⟩ := List.length_eq_one_iff.mp hlength
      obtain ⟨-, -, -, -, -, hdecodes⟩ := hsplit 0 raw table rfl (by rw [htables]; rfl) hne
      refine ⟨conversion, table, rfl, htables, ?_, hdecodes fun row hrow => ?_⟩
      · rw [Table.pack, hrows]
        rfl
      · have hwire := List.mem_map_of_mem (f := Row.wire) hrow
        rw [hrows] at hwire
        rcases List.mem_cons.mp hwire with hwire | hwire
        · rw [hwire]
          decide
        · rw [List.mem_singleton.mp hwire]
          decide

end Conversion

end SheetWire
