import SheetWire.Proofs.Row.Likeness
import SheetWire.Proofs.Text.Bytes
import SheetWire.Table

/-!
# The order of converted tables

A conversion builds the schemes in the order in which the tables come in and then sorts them by
name. Tables that are not left out and have different names have only one order by name, so from
there on nothing depends on how they came in: a conversion of the same tables in another order gives
the same tables with the same targets, and where every scheme can be built also the same error
(`conversion_independent_of_order`).
-/

namespace SheetWire

open Text

/-- Elements that are paired off over the elements of a third list. -/
theorem forall_two_comp {α β γ : Type} {first : α → β → Prop} {second : β → γ → Prop}
    {list : List α} {middle : List β} {twins : List γ} (h : List.Forall₂ first list middle)
    (hmiddle : List.Forall₂ second middle twins) :
    List.Forall₂ (fun x z => ∃ y, first x y ∧ second y z) list twins := by
  induction h generalizing twins with
  | nil =>
      cases hmiddle
      exact .nil
  | cons hfirst _ ih =>
      cases hmiddle with
      | cons hsecond hrest => exact .cons ⟨_, hfirst, hsecond⟩ (ih hrest)

/-- Elements that are paired off have the same numbers. -/
theorem forall_two_zip_idx {α β : Type} {related : α → β → Prop} {list : List α} {twins : List β}
    (h : List.Forall₂ related list twins) (first : Nat) :
    List.Forall₂ (fun x y => related x.1 y.1 ∧ x.2 = y.2) (list.zipIdx first)
      (twins.zipIdx first) := by
  rw [List.zipIdx_eq_zip_range', List.zipIdx_eq_zip_range', h.length_eq]
  exact forall_two_zip h _

namespace RawTable

variable {inflector : Inflector}

/-- The scheme and the rows that a table has, if its scheme can be built. -/
def Gives (inflector : Inflector) (table : RawTable) (entry : Scheme × List (List Cell)) : Prop :=
  table.scheme inflector = .ok entry.1 ∧ entry.2 = table.rows

/-- A scheme has the name of its table. -/
theorem table_of_scheme {table : RawTable} {scheme : Scheme}
    (h : table.scheme inflector = .ok scheme) : scheme.table = table.name := by
  unfold RawTable.scheme Scheme.build at h
  simp only at h
  split at h
  · obtain ⟨columns, -, h⟩ := bind_eq_ok.mp h
    obtain ⟨-, -, h⟩ := bind_eq_ok.mp h
    cases h
    rfl
  · exact nomatch h

/-- The schemes of tables are built if each of them is. -/
theorem with_schemes_eq_ok {tables : List RawTable} {parsed : List (Scheme × List (List Cell))} :
    withSchemes inflector tables = .ok parsed ↔ List.Forall₂ (Gives inflector) tables parsed := by
  induction tables generalizing parsed with
  | nil =>
      rw [withSchemes, List.forall₂_nil_left_iff]
      exact ⟨fun h => by cases h; rfl, fun h => by rw [h]; rfl⟩
  | cons table rest ih =>
      rw [withSchemes, List.forall₂_cons_left_iff]
      constructor
      · intro h
        obtain ⟨scheme, hscheme, h⟩ := bind_eq_ok.mp h
        obtain ⟨others, hothers, h⟩ := bind_eq_ok.mp h
        cases h
        exact ⟨_, _, ⟨hscheme, rfl⟩, ih.mp hothers, rfl⟩
      · rintro ⟨⟨scheme, rows⟩, others, ⟨hscheme, hrows⟩, hothers, rfl⟩
        refine bind_eq_ok.mpr ⟨scheme, hscheme, bind_eq_ok.mpr ⟨others, ih.mpr hothers, ?_⟩⟩
        rw [← hrows]
        rfl

/-- The schemes of tables are built in any order if they are in one. -/
theorem with_schemes_perm {tables other : List RawTable}
    {parsed : List (Scheme × List (List Cell))} (hperm : tables.Perm other)
    (h : withSchemes inflector tables = .ok parsed) :
    ∃ others, withSchemes inflector other = .ok others ∧ others.Perm parsed := by
  obtain ⟨others, hothers, hsame⟩ := List.perm_comp_forall₂ hperm.symm (with_schemes_eq_ok.mp h)
  exact ⟨others, with_schemes_eq_ok.mpr hothers, hsame⟩

/-- The names of tables are those of their schemes. -/
theorem names_of_gives {tables : List RawTable} {parsed : List (Scheme × List (List Cell))}
    (h : List.Forall₂ (Gives inflector) tables parsed) :
    tables.map RawTable.name = parsed.map fun entry => entry.1.table := by
  induction h with
  | nil => rfl
  | cons hfirst _ ih => rw [List.map_cons, List.map_cons, ih, table_of_scheme hfirst.1]

/-- Where every scheme of some tables can be built, they are built. -/
theorem exists_with_schemes {tables : List RawTable}
    (h : ∀ table ∈ tables, ∃ scheme, table.scheme inflector = .ok scheme) :
    ∃ parsed, withSchemes inflector tables = .ok parsed := by
  induction tables with
  | nil => exact ⟨[], rfl⟩
  | cons table rest ih =>
      obtain ⟨⟨scheme, hscheme⟩, hrest⟩ := List.forall_mem_cons.mp h
      obtain ⟨others, hothers⟩ := ih hrest
      exact ⟨(scheme, table.rows) :: others,
        with_schemes_eq_ok.mpr (.cons ⟨hscheme, rfl⟩ (with_schemes_eq_ok.mp hothers))⟩

end RawTable

namespace Conversion

variable {inflector : Inflector} {skip : String} {tables other : List RawTable}
  {parsed others : List (Scheme × List (List Cell))} {conversion : Conversion}

/-- Being in order is having names that are in order. -/
theorem in_order_iff {a b : Scheme × List (List Cell)} :
    inOrder a b = true ↔ a.1.table ≤ b.1.table := by
  rw [inOrder, Bool.not_eq_true', decide_eq_false_iff_not, not_lt]

/-- What is in order after something in order is in order. -/
theorem in_order_trans (a b c : Scheme × List (List Cell)) (hab : inOrder a b = true)
    (hbc : inOrder b c = true) : inOrder a c = true := by
  rw [in_order_iff] at hab hbc ⊢
  exact le_trans hab hbc

/-- Two schemes are in order one way or the other. -/
theorem in_order_total (a b : Scheme × List (List Cell)) :
    (inOrder a b || inOrder b a) = true := by
  rw [Bool.or_eq_true, in_order_iff, in_order_iff]
  exact le_total _ _

/-- Sorted schemes are in the order of their names. -/
theorem pairwise_sorted (parsed : List (Scheme × List (List Cell))) :
    (parsed.mergeSort inOrder).Pairwise fun a b => a.1.table ≤ b.1.table :=
  (List.pairwise_mergeSort in_order_trans in_order_total parsed).imp in_order_iff.mp

/-- Schemes of tables with different names have one order. -/
theorem sorted_of_perm (hperm : parsed.Perm others)
    (hdistinct : (parsed.map fun entry => entry.1.table).Nodup) :
    parsed.mergeSort inOrder = others.mergeSort inOrder := by
  have hsame := (List.mergeSort_perm parsed inOrder).trans
    (hperm.trans (List.mergeSort_perm others inOrder).symm)
  refine hsame.eq_of_pairwise (fun a b ha hb hab hba => ?_) (pairwise_sorted parsed)
    (pairwise_sorted others)
  have ha := List.mem_mergeSort.mp ha
  have hb := hperm.mem_iff.mpr (List.mem_mergeSort.mp hb)
  exact List.inj_on_of_nodup_map hdistinct ha hb (le_antisymm hab hba)

section Tables

variable [DateFormat]

/-- The tables of schemes are those schemes, each with its rows encoded under its number. -/
theorem encode_tables_eq_ok {workspace : Workspace} {first : Nat} {converted : List Table} :
    encodeTables workspace first parsed = .ok converted ↔
      List.Forall₂ (fun entry table => table.scheme = entry.1.1 ∧
        workspace.encodeRows entry.2 entry.1.2 = .ok table.rows)
        (parsed.zipIdx first) converted := by
  induction parsed generalizing first converted with
  | nil =>
      rw [encodeTables, List.zipIdx_nil, List.forall₂_nil_left_iff]
      exact ⟨fun h => by cases h; rfl, fun h => by rw [h]; rfl⟩
  | cons entry rest ih =>
      obtain ⟨scheme, rows⟩ := entry
      rw [encodeTables, List.zipIdx_cons, List.forall₂_cons_left_iff]
      constructor
      · intro h
        obtain ⟨encoded, hencoded, h⟩ := bind_eq_ok.mp h
        obtain ⟨tables, htables, h⟩ := bind_eq_ok.mp h
        cases h
        exact ⟨_, _, ⟨rfl, hencoded⟩, ih.mp htables, rfl⟩
      · rintro ⟨⟨held, encoded⟩, tables, ⟨hscheme, hencoded⟩, htables, rfl⟩
        refine bind_eq_ok.mpr ⟨encoded, hencoded, bind_eq_ok.mpr ⟨tables, ih.mpr htables, ?_⟩⟩
        rw [show held = scheme from hscheme]
        rfl

/-- A conversion gives tables if every scheme is built and every row is encoded. -/
theorem of_tables_eq_ok :
    ofTables skip tables inflector = .ok conversion ↔
      ∃ parsed, RawTable.withSchemes inflector (tables.filter fun table => !table.isSkipped skip) =
          .ok parsed ∧
        conversion.workspace = Workspace.resolved ((parsed.mergeSort inOrder).map Prod.fst) ∧
        encodeTables conversion.workspace 0 (parsed.mergeSort inOrder) = .ok conversion.tables := by
  unfold ofTables
  constructor
  · intro h
    obtain ⟨parsed, hparsed, h⟩ := bind_eq_ok.mp h
    obtain ⟨converted, hconverted, h⟩ := bind_eq_ok.mp h
    cases h
    exact ⟨parsed, hparsed, rfl, hconverted⟩
  · rintro ⟨parsed, hparsed, hworkspace, hconverted⟩
    refine bind_eq_ok.mpr ⟨parsed, hparsed, bind_eq_ok.mpr ⟨conversion.tables, ?_, ?_⟩⟩
    · rw [← hworkspace]
      exact hconverted
    · rw [← hworkspace]
      rfl

/-- The tables of schemes keep the order of the schemes. -/
theorem schemes_of_encode_tables {workspace : Workspace} {first : Nat} {converted : List Table}
    (h : encodeTables workspace first parsed = .ok converted) :
    converted.map Table.scheme = parsed.map Prod.fst := by
  induction parsed generalizing first converted with
  | nil =>
      cases h
      rfl
  | cons entry rest ih =>
      obtain ⟨encoded, -, h⟩ := bind_eq_ok.mp h
      obtain ⟨tables, htables, h⟩ := bind_eq_ok.mp h
      cases h
      rw [List.map_cons, List.map_cons, ih htables]

/-- Tables whose schemes are built in two orders, with different names, are converted alike. -/
theorem of_tables_of_perm (hperm : tables.Perm other)
    (hdistinct : ((tables.filter fun table => !table.isSkipped skip).map RawTable.name).Nodup)
    (hparsed : RawTable.withSchemes inflector (tables.filter fun table => !table.isSkipped skip) =
      .ok parsed) :
    ofTables skip other inflector = ofTables skip tables inflector := by
  obtain ⟨others, hothers, hsame⟩ := RawTable.with_schemes_perm (hperm.filter _) hparsed
  have hnames := RawTable.names_of_gives (RawTable.with_schemes_eq_ok.mp hparsed)
  unfold ofTables
  rw [hparsed, hothers]
  show (encodeTables _ 0 (others.mergeSort inOrder) >>= _) =
    (encodeTables _ 0 (parsed.mergeSort inOrder) >>= _)
  rw [sorted_of_perm hsame.symm (hnames ▸ hdistinct)]

/-- The names of converted tables are in the order of their bytes. -/
theorem names_of_of_tables
    (hdistinct : ((tables.filter fun table => !table.isSkipped skip).map RawTable.name).Nodup)
    (h : ofTables skip tables inflector = .ok conversion) :
    conversion.tables.Pairwise fun a b => bytes a.name < bytes b.name := by
  obtain ⟨parsed, hparsed, -, hconverted⟩ := of_tables_eq_ok.mp h
  have hnames := RawTable.names_of_gives (RawTable.with_schemes_eq_ok.mp hparsed)
  have hsorted : (parsed.mergeSort inOrder).Pairwise fun a b => a.1.table < b.1.table := by
    have hdifferent : ((parsed.mergeSort inOrder).map fun entry => entry.1.table).Nodup :=
      ((List.mergeSort_perm parsed inOrder).map _).nodup_iff.mpr (hnames ▸ hdistinct)
    exact (pairwise_sorted parsed).imp₂ (fun _ _ => lt_of_le_of_ne)
      (List.pairwise_map.mp hdifferent)
  have hschemes : (conversion.tables.map Table.scheme).Pairwise fun a b => a.table < b.table := by
    rw [schemes_of_encode_tables hconverted, List.pairwise_map]
    exact hsorted
  exact (List.pairwise_map.mp hschemes).imp bytes_lt_iff.mpr

/-- The converted tables are those that are not left out, each once, with its scheme and with its
rows encoded. -/
theorem tables_of_of_tables (h : ofTables skip tables inflector = .ok conversion) :
    ∃ order : List RawTable, order.Perm (tables.filter fun table => !table.isSkipped skip) ∧
      List.Forall₂ (fun (raw, number) table => raw.name = table.name ∧
        raw.scheme inflector = .ok table.scheme ∧
        conversion.workspace.encodeRows number raw.rows = .ok table.rows)
        order.zipIdx conversion.tables := by
  obtain ⟨parsed, hparsed, -, hconverted⟩ := of_tables_eq_ok.mp h
  obtain ⟨order, horder, hgives⟩ := List.perm_comp_forall₂ (List.mergeSort_perm parsed inOrder)
    (RawTable.with_schemes_eq_ok.mp hparsed).flip
  refine ⟨order, hgives, ?_⟩
  have hnumbered := forall_two_zip_idx horder.flip 0
  refine (forall_two_comp hnumbered (encode_tables_eq_ok.mp hconverted)).imp ?_
  rintro ⟨raw, number⟩ table ⟨⟨entry, position⟩, ⟨⟨hscheme, hrows⟩, rfl⟩, hsame, hencoded⟩
  dsimp only at hscheme hrows hsame hencoded ⊢
  rw [← hsame] at hscheme
  refine ⟨(RawTable.table_of_scheme hscheme).symm, hscheme, ?_⟩
  rw [← hrows]
  exact hencoded

/-- The order in which tables come in does not matter, as long as those that are not left out have
different names. A conversion of them in another order succeeds if and only if it does in this one,
and gives the same tables with the same targets; where every scheme can be built it also gives the
same error. The converted tables are those that are not left out, each once, in the order of the
bytes of their names. How words are inflected and dates are written does not matter. -/
theorem conversion_independent_of_order (hperm : tables.Perm other)
    (hdistinct : ((tables.filter fun table => !table.isSkipped skip).map RawTable.name).Nodup) :
    (∀ conversion, ofTables skip other inflector = .ok conversion ↔
      ofTables skip tables inflector = .ok conversion) ∧
    ((∀ table ∈ tables, table.isSkipped skip = false →
        ∃ scheme, table.scheme inflector = .ok scheme) →
      ofTables skip other inflector = ofTables skip tables inflector) ∧
    ∀ conversion, ofTables skip tables inflector = .ok conversion →
      (conversion.tables.Pairwise fun a b => bytes a.name < bytes b.name) ∧
      ∃ order : List RawTable, order.Perm (tables.filter fun table => !table.isSkipped skip) ∧
        List.Forall₂ (fun (raw, number) table => raw.name = table.name ∧
          raw.scheme inflector = .ok table.scheme ∧
          conversion.workspace.encodeRows number raw.rows = .ok table.rows)
          order.zipIdx conversion.tables := by
  have hotherDistinct :
      ((other.filter fun table => !table.isSkipped skip).map RawTable.name).Nodup :=
    ((hperm.filter _).map _).nodup_iff.mp hdistinct
  refine ⟨fun conversion => ⟨fun h => ?_, fun h => ?_⟩, fun hbuilt => ?_, fun conversion h =>
    ⟨names_of_of_tables hdistinct h, tables_of_of_tables h⟩⟩
  · obtain ⟨parsed, hparsed, -⟩ := of_tables_eq_ok.mp h
    rw [of_tables_of_perm hperm.symm hotherDistinct hparsed]
    exact h
  · obtain ⟨parsed, hparsed, -⟩ := of_tables_eq_ok.mp h
    rw [of_tables_of_perm hperm hdistinct hparsed]
    exact h
  · have hall : ∀ table ∈ tables.filter fun table => !table.isSkipped skip,
        ∃ scheme, table.scheme inflector = .ok scheme := by
      intro table htable
      obtain ⟨hmem, hkept⟩ := List.mem_filter.mp htable
      exact hbuilt table hmem (by simpa using hkept)
    obtain ⟨parsed, hparsed⟩ := RawTable.exists_with_schemes hall
    exact of_tables_of_perm hperm hdistinct hparsed

end Tables

/-- A table of items. -/
def itemSheet : RawTable :=
  ⟨"Items", ["item"], ["Struct<int,price>"], [[.text "7"]]⟩

/-- A table of quests that refers to items. -/
def questSheet : RawTable :=
  ⟨"Quests", ["reward"], ["@Items,Item"], [[.text "9"]]⟩

/-- A table that is left out. -/
def noteSheet : RawTable :=
  ⟨"_notes", ["note"], ["?"], []⟩

/-- Tables that refer to each other come in in two orders, with one that is left out although its
header cannot be read, and are converted alike. -/
theorem sheets_converted_in_both_orders :
    ∃ conversion, ofTables "_" [questSheet, noteSheet, itemSheet] = .ok conversion ∧
      ofTables "_" [itemSheet, questSheet, noteSheet] = .ok conversion ∧
      conversion.tables.map (fun table => (table.name, table.rows.map Row.wire)) =
        [("Items", ["7".toList]), ("Quests", ["9".toList])] := by
  have hperm : [questSheet, noteSheet, itemSheet].Perm [itemSheet, questSheet, noteSheet] :=
    (List.perm_append_comm : ([questSheet, noteSheet] ++ [itemSheet]).Perm _)
  have hdistinct : (([questSheet, noteSheet, itemSheet].filter fun table =>
      !table.isSkipped "_").map RawTable.name).Nodup := by
    decide
  have hresult : (ofTables "_" [questSheet, noteSheet, itemSheet]).map (fun conversion =>
      conversion.tables.map fun table => (table.name, table.rows.map Row.wire)) =
        .ok [("Items", ["7".toList]), ("Quests", ["9".toList])] := by
    cbv
  obtain ⟨hsame, -⟩ := conversion_independent_of_order hperm hdistinct
  cases hconversion : ofTables "_" [questSheet, noteSheet, itemSheet] with
  | error e =>
      rw [hconversion] at hresult
      cases hresult
  | ok conversion =>
      rw [hconversion] at hresult
      exact ⟨conversion, rfl, (hsame conversion).mpr hconversion, Except.ok.inj hresult⟩

end Conversion

end SheetWire
