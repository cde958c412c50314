import SheetWire.Proofs.Table.Order
import SheetWire.Proofs.Workspace.Restriction

/-!
# Converting some of the tables

A table is converted with no regard to tables that it does not refer to, directly or through others:
of tables that are converted, those of some names can be converted on their own if they refer to no
other names among them, and the result is the same (`conversion_is_local`). Sorting keeps tables of
one name in the order in which they come in, so leaving tables out before sorting is leaving them
out after it (`filter_merge_sort`); after that only the numbers of the schemes change.
-/

namespace SheetWire

/-! ### Sorting and leaving out -/

/-- Sorting what is left in of a list is leaving it in of the sorted list. -/
theorem filter_merge_sort {α : Type} {le : α → α → Bool} {keep : α → Bool}
    (htrans : ∀ a b c, le a b = true → le b c = true → le a c = true)
    (htotal : ∀ a b, (le a b || le b a) = true) (list : List α) :
    (list.mergeSort le).filter keep = (list.filter keep).mergeSort le := by
  have hsplit : ∀ (a : α) (list : List α),
      (a :: list).mergeSort le = (list.mergeSort le).filter (fun b => !le a b) ++
        a :: (list.mergeSort le).filter (le a) ∧
      list.mergeSort le = (list.mergeSort le).filter (fun b => !le a b) ++
        (list.mergeSort le).filter (le a) := by
    intro a list
    obtain ⟨front, back, hcons, hlist, hfront⟩ := List.mergeSort_cons htrans htotal a list
    have hsorted := List.pairwise_mergeSort htrans htotal (a :: list)
    rw [hcons] at hsorted
    have hback : ∀ b ∈ back, le a b = true :=
      (List.pairwise_cons.mp (List.pairwise_append.mp hsorted).2.1).1
    have hearlier : (list.mergeSort le).filter (fun b => !le a b) = front := by
      rw [hlist, List.filter_append, List.filter_eq_self.mpr hfront,
        List.filter_eq_nil_iff.mpr fun b hb => by simp [hback b hb], List.append_nil]
    have hlater : (list.mergeSort le).filter (le a) = back := by
      rw [hlist, List.filter_append, List.filter_eq_self.mpr hback,
        List.filter_eq_nil_iff.mpr fun b hb => by simpa using hfront b hb, List.nil_append]
    rw [hearlier, hlater]
    exact ⟨hcons, hlist⟩
  induction list with
  | nil => simp
  | cons a list ih =>
      rw [(hsplit a list).1]
      by_cases ha : keep a = true
      · rw [List.filter_cons_of_pos ha, (hsplit a (list.filter keep)).1, ← ih, List.filter_append,
          List.filter_cons_of_pos ha, List.filter_comm, List.filter_comm keep]
      · rw [List.filter_cons_of_neg ha, ← ih, List.filter_append, List.filter_cons_of_neg ha,
          ← List.filter_append, ← (hsplit a list).2]

/-- Elements that are paired off stay so when the same pairs are left in. -/
theorem forall_two_filter {α β : Type} {related : α → β → Prop} {list : List α} {twins : List β}
    (keep : α → Bool) (keepTwin : β → Bool) (h : List.Forall₂ related list twins)
    (hkeep : ∀ x y, related x y → keep x = keepTwin y) :
    List.Forall₂ related (list.filter keep) (twins.filter keepTwin) := by
  induction h with
  | nil => exact .nil
  | @cons x y list twins hfirst _ ih =>
      rw [List.filter_cons, List.filter_cons, ← hkeep x y hfirst]
      split
      · exact .cons hfirst ih
      · exact ih

/-- What is paired off on the right has a partner on the left. -/
theorem exists_of_forall_two {α β : Type} {related : α → β → Prop} {list : List α} {twins : List β}
    {y : β} (h : List.Forall₂ related list twins) (hy : y ∈ twins) : ∃ x ∈ list, related x y := by
  induction h with
  | nil => exact absurd hy List.not_mem_nil
  | cons hfirst _ ih =>
      rcases List.mem_cons.mp hy with rfl | hy
      · exact ⟨_, List.mem_cons_self, hfirst⟩
      · obtain ⟨x, hx, hrelated⟩ := ih hy
        exact ⟨x, List.mem_cons_of_mem _ hx, hrelated⟩

namespace Conversion

open Workspace

variable {inflector : Inflector} {skip : String} {tables : List RawTable}
  {conversion : Conversion} {sorted : List (Scheme × List (List Cell))} {keep : Scheme → Bool}

/-- The tables of the schemes that are left in are encoded as among all schemes, if references never
lead from them to a scheme that is left out. -/
theorem encode_tables_restrict [DateFormat] {converted : List Table}
    (hclosed : ∀ scheme ∈ sorted.map Prod.fst, keep scheme = true →
      ∀ reference ∈ scheme.references, ∀ other ∈ sorted.map Prod.fst,
        other.table = reference.2.table → keep other = true)
    (h : encodeTables (resolved (sorted.map Prod.fst)) 0 sorted = .ok converted) :
    encodeTables (resolved ((sorted.map Prod.fst).filter keep)) 0
      (sorted.filter fun entry => keep entry.1) =
        .ok (converted.filter fun table => keep table.scheme) := by
  have hrenumbers := renumbers_restrict hclosed
  let chosen := sorted.zipIdx.filter fun entry => keep entry.1.1
  have hsorted : (sorted.filter fun entry => keep entry.1) = chosen.map Prod.fst := by
    conv_lhs => rw [← List.zipIdx_map_fst 0 sorted, List.filter_map]
    rfl
  have hpicked : picked keep (sorted.map Prod.fst) = chosen.map (Prod.map Prod.fst id) := by
    rw [picked, List.zipIdx_map, List.filter_map]
    rfl
  -- Every table that is left in is paired off with its scheme and its number among all.
  have hchosen := forall_two_filter (fun entry => keep entry.1.1) (fun table => keep table.scheme)
    (encode_tables_eq_ok.mp h) fun entry table hpair => by rw [hpair.1]
  rw [encode_tables_eq_ok, hsorted, List.zipIdx_map, List.forall₂_map_left_iff]
  rw [show (sorted.zipIdx.filter fun entry => keep entry.1.1) = chosen.zipIdx.map Prod.fst from
    (List.zipIdx_map_fst 0 chosen).symm, List.forall₂_map_left_iff] at hchosen
  refine forall_two_of_mem hchosen ?_
  rintro ⟨⟨⟨scheme, rows⟩, number⟩, position⟩ hentry table - ⟨hscheme, hrows⟩
  have hposition : (picked keep (sorted.map Prod.fst))[position]? = some (scheme, number) := by
    rw [hpicked, List.getElem?_map, List.mem_zipIdx_iff_getElem?.mp hentry]
    rfl
  have hheld : (resolved ((sorted.map Prod.fst).filter keep)).scheme? position = some scheme := by
    rw [scheme_resolved, ← map_fst_picked, List.getElem?_map, hposition]
    rfl
  rw [← (picked_eq_some hposition).1] at hrows
  exact ⟨hscheme, hrenumbers.encode_rows hheld hrows⟩

/-- Whether a table that is not left out and has a name in a set never refers to another one with a
name outside it. -/
def ClosedUnderReferences (inflector : Inflector) (skip : String) (tables : List RawTable)
    (kept : String → Bool) : Prop :=
  ∀ table ∈ tables, table.isSkipped skip = false → kept table.name = true →
    ∀ scheme, table.scheme inflector = .ok scheme → ∀ label key, (label, key) ∈ scheme.references →
      (∃ other ∈ tables, other.isSkipped skip = false ∧ other.name = key.table) →
      kept key.table = true

/-- Tables of some names that refer to no others are converted on their own as they are among all,
and their references point to the same declarations. -/
theorem of_tables_restrict [DateFormat] {kept : String → Bool}
    (hclosed : ClosedUnderReferences inflector skip tables kept)
    (h : ofTables skip tables inflector = .ok conversion) :
    ∃ part, ofTables skip (tables.filter fun table => kept table.name) inflector = .ok part ∧
      part.tables = conversion.tables.filter (fun table => kept table.name) ∧
      ∃ renumber, part.workspace.Renumbers conversion.workspace renumber := by
  obtain ⟨parsed, hparsed, hworkspace, hconverted⟩ := of_tables_eq_ok.mp h
  have hgives := RawTable.with_schemes_eq_ok.mp hparsed
  have hschemes : ∀ scheme ∈ (parsed.mergeSort inOrder).map Prod.fst,
      ∃ table ∈ tables, table.isSkipped skip = false ∧ table.scheme inflector = .ok scheme := by
    intro scheme hscheme
    obtain ⟨entry, hentry, rfl⟩ := List.mem_map.mp hscheme
    obtain ⟨table, htable, hgive⟩ := exists_of_forall_two hgives (List.mem_mergeSort.mp hentry)
    obtain ⟨hmem, hkept⟩ := List.mem_filter.mp htable
    exact ⟨table, hmem, by simpa using hkept, hgive.1⟩
  have hclosedSchemes : ∀ scheme ∈ (parsed.mergeSort inOrder).map Prod.fst,
      kept scheme.table = true → ∀ reference ∈ scheme.references,
      ∀ other ∈ (parsed.mergeSort inOrder).map Prod.fst,
        other.table = reference.2.table → kept other.table = true := by
    rintro scheme hscheme hkept ⟨label, key⟩ hreference other hother htable
    obtain ⟨table, hmem, hskipped, hbuilt⟩ := hschemes scheme hscheme
    obtain ⟨target, htarget, htargetSkipped, htargetBuilt⟩ := hschemes other hother
    rw [RawTable.table_of_scheme hbuilt] at hkept
    rw [RawTable.table_of_scheme htargetBuilt] at htable
    rw [RawTable.table_of_scheme htargetBuilt, htable]
    exact hclosed table hmem hskipped hkept scheme hbuilt label key hreference
      ⟨target, htarget, htargetSkipped, htable⟩
  have hsorted : ((parsed.filter fun entry => kept entry.1.table).mergeSort inOrder) =
      (parsed.mergeSort inOrder).filter fun entry => kept entry.1.table :=
    (filter_merge_sort in_order_trans in_order_total parsed).symm
  have hpart : ((parsed.mergeSort inOrder).filter fun entry => kept entry.1.table).map Prod.fst =
      ((parsed.mergeSort inOrder).map Prod.fst).filter fun scheme => kept scheme.table := by
    rw [List.filter_map]
    rfl
  refine ⟨⟨resolved (((parsed.mergeSort inOrder).map Prod.fst).filter fun scheme =>
      kept scheme.table), conversion.tables.filter fun table => kept table.name⟩,
    of_tables_eq_ok.mpr ⟨parsed.filter fun entry => kept entry.1.table, ?_, ?_, ?_⟩, rfl,
    _, hworkspace ▸ renumbers_restrict hclosedSchemes⟩
  · rw [RawTable.with_schemes_eq_ok, List.filter_filter]
    have hsame := forall_two_filter (fun table => kept table.name)
      (fun entry => kept entry.1.table) hgives fun table entry hgive => by
        rw [RawTable.table_of_scheme hgive.1]
    rw [List.filter_filter] at hsame
    simpa only [Bool.and_comm] using hsame
  · rw [hsorted, hpart]
  · rw [hsorted]
    rw [hworkspace] at hconverted
    exact encode_tables_restrict hclosedSchemes hconverted

/-- A conversion is local to the tables referred to. If it succeeds, it succeeds also for the tables
of some names only, where those among them that are not left out refer to no other table that is
there; the result is the tables of these names as they were, in the same order, with references that
point to the same declarations under other numbers. Tables whose names start with the mark for
tables that are left out count for nothing, whatever is in them. How words are inflected and dates
are written does not matter. -/
theorem conversion_is_local [DateFormat] (inflector : Inflector) (skip : String)
    (tables : List RawTable) :
    (∀ kept : String → Bool, ClosedUnderReferences inflector skip tables kept →
      ∀ conversion, ofTables skip tables inflector = .ok conversion →
      ∃ part, ofTables skip (tables.filter fun table => kept table.name) inflector = .ok part ∧
        part.tables = conversion.tables.filter (fun table => kept table.name) ∧
        ∃ renumber, part.workspace.Renumbers conversion.workspace renumber) ∧
    (skip ≠ "" → ∀ other : List RawTable,
      (other.filter fun table => ¬ skip.toList <+: table.name.toList) =
        (tables.filter fun table => ¬ skip.toList <+: table.name.toList) →
      ofTables skip other inflector = ofTables skip tables inflector) := by
  refine ⟨fun kept hclosed conversion h => of_tables_restrict hclosed h,
    fun hskip other hsame => ?_⟩
  have hnotSkipped : ∀ list : List RawTable, (list.filter fun table => !table.isSkipped skip) =
      list.filter fun table => ¬ skip.toList <+: table.name.toList := by
    intro list
    refine List.filter_congr fun table _ => ?_
    have hmark : table.isSkipped skip = true ↔ skip.toList <+: table.name.toList := by
      rw [RawTable.isSkipped, bne_iff_ne.mpr hskip, Bool.true_and, List.isPrefixOf_iff_prefix]
    rw [Bool.eq_iff_iff, Bool.not_eq_true', decide_eq_true_eq, ← hmark, Bool.not_eq_true]
  unfold ofTables
  rw [hnotSkipped, hnotSkipped, hsame]

/-- A table of heroes that refers to items and that no table refers to. -/
def heroSheet : RawTable :=
  ⟨"Heroes", ["weapon"], ["@Items,Item"], [[.text "3"]]⟩

/-- The tables but for the heroes refer to no heroes. -/
theorem closed_without_heroes :
    ClosedUnderReferences English.inflector "_" [heroSheet, questSheet, noteSheet, itemSheet]
      fun name => name != "Heroes" := by
  intro table htable hskipped hkept scheme hscheme label key hreference _
  simp only [List.mem_cons, List.not_mem_nil, or_false] at htable
  rcases htable with rfl | rfl | rfl | rfl
  · exact absurd hkept (by decide)
  · have hbuilt : questSheet.scheme =
        .ok ⟨"Quests", [.reference ⟨"Quests", "reward"⟩ ⟨"Items", "Item"⟩]⟩ := by cbv
    cases hbuilt.symm.trans hscheme
    cases List.mem_singleton.mp hreference
    decide
  · exact absurd hskipped (by decide)
  · have hbuilt : itemSheet.scheme = .ok ⟨"Items",
        [.struct ⟨"Items", "item"⟩ "Item" [.primitive ⟨"Items", "price"⟩ .int]]⟩ := by cbv
    cases hbuilt.symm.trans hscheme
    exact absurd hreference List.not_mem_nil

/-- The quests and the items are converted without the heroes as they are with them, and the notes
count for nothing. -/
theorem sheets_converted_without_heroes :
    ∃ conversion part, ofTables "_" [heroSheet, questSheet, noteSheet, itemSheet] = .ok conversion ∧
      ofTables "_" [questSheet, itemSheet] = .ok part ∧
      part.tables = conversion.tables.filter fun table => table.name != "Heroes" := by
  have hresult : (ofTables "_" [heroSheet, questSheet, noteSheet, itemSheet]).isOk = true := by
    cbv
  cases hwhole : ofTables "_" [heroSheet, questSheet, noteSheet, itemSheet] with
  | error e =>
      rw [hwhole] at hresult
      cases hresult
  | ok conversion =>
      obtain ⟨part, hpart, htables, -⟩ :=
        (conversion_is_local English.inflector "_" [heroSheet, questSheet, noteSheet, itemSheet]).1
          _ closed_without_heroes conversion hwhole
      refine ⟨conversion, part, rfl, ?_, htables⟩
      have hkept : ([heroSheet, questSheet, noteSheet, itemSheet].filter fun table =>
          table.name != "Heroes") = [questSheet, noteSheet, itemSheet] := by decide
      rw [hkept] at hpart
      rw [← hpart]
      exact (conversion_is_local English.inflector "_" [questSheet, noteSheet, itemSheet]).2
        (by decide) _ (by decide)

end Conversion

end SheetWire
