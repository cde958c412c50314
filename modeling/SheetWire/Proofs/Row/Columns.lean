import SheetWire.Proofs.Row.Openings

/-!
# Decoding the columns of a row

A row is decoded column by column, each error being tagged with its column, and nothing may be left
after the last one. What holds of decoding a node under a bound that is large enough is carried over
to the columns here.
-/

namespace SheetWire.Workspace

open Text

variable [Memory] {workspace : Workspace}

/-- The value of a column. -/
def decodeColumn (workspace : Workspace) (column : Node) : Reading Error Value :=
  Reading.adapt (Error.tag column.label) (workspace.decodeNode column)

omit [Memory] in
/-- Tagging does not make or hide a run that does not finish. -/
theorem tag_eq_endless {label : Label} {shortage : Shortage} {e : Error} :
    e.tag label = .endless shortage ↔ e = .endless shortage := by
  unfold Error.tag
  constructor
  · intro h
    split at h
    · exact h
    · exact nomatch h
  · rintro rfl
    rfl

/-- A column is decoded as its node is, but for the tag of an error. -/
theorem decode_column_eq_ok {column : Node} {reader after : Reader} {value : Value} :
    workspace.decodeColumn column reader = .ok value after ↔
      workspace.decodeNode column reader = .ok value after := by
  unfold decodeColumn Reading.adapt
  cases workspace.decodeNode column reader <;> simp

/-- An error of a column is the tagged error of its node. -/
theorem decode_column_eq_error {column : Node} {reader after : Reader} {e : Error}
    (h : workspace.decodeNode column reader = .error e after) :
    workspace.decodeColumn column reader = .error (e.tag column.label) after := by
  unfold decodeColumn Reading.adapt
  rw [h]

/-- A column does not finish exactly if its node does not, and for want of the same. -/
theorem decode_column_eq_endless {column : Node} {reader last : Reader} {shortage : Shortage} :
    workspace.decodeColumn column reader = .error (.endless shortage) last ↔
      workspace.decodeNode column reader = .error (.endless shortage) last := by
  unfold decodeColumn Reading.adapt
  cases workspace.decodeNode column reader <;> simp [tag_eq_endless]

/-- What a node takes under some bound it takes as a column. -/
theorem takes_decode_column {column : Node} {bound : Nat} {used : Slots} {value : Value}
    (hcolumn : column ∈ workspace.nodes)
    (h : Reading.Takes (workspace.decodeWithin bound column) used value) :
    Reading.Takes (workspace.decodeColumn column) used value := by
  intro rest index
  have hends : ¬ Reading.Endless (workspace.decodeWithin bound column ⟨used ++ rest, index⟩) := by
    rw [h rest index]
    exact Reading.not_endless_ok _ _
  rw [decode_column_eq_ok, decode_node_of_ends hcolumn hends, h rest index]

/-- The values of a row are those of its columns, with nothing left over. -/
theorem decode_columns_eq_ok {table : String} {columns : List Node} {reader after : Reader}
    {values : List Value} :
    workspace.decodeColumns table columns reader = .ok values after ↔
      Reading.each workspace.decodeColumn columns reader = .ok values after ∧ after.slots = [] := by
  unfold decodeColumns
  constructor
  · intro h
    obtain ⟨read, between, heach, h⟩ := Reading.bind_eq_ok.mp h
    obtain ⟨last, _, hlast, h⟩ := Reading.bind_eq_ok.mp h
    cases hlast
    split at h
    · rename_i hexhausted
      cases h
      exact ⟨heach, List.isEmpty_iff.mp hexhausted⟩
    · exact nomatch h
  · intro h
    obtain ⟨heach, hslots⟩ := h
    refine Reading.bind_eq_ok.mpr ⟨values, after, heach, ?_⟩
    refine Reading.bind_eq_ok.mpr ⟨after, after, rfl, ?_⟩
    rw [if_pos (show after.isExhausted = true from List.isEmpty_iff.mpr hslots)]
    rfl

/-- A row is decoded exactly if its columns are, with nothing left over. -/
theorem decode_row_eq_ok {number : Nat} {row : List Char} {values : List Value} :
    workspace.decodeRow number row = .ok values ↔
      ∃ after, Reading.each workspace.decodeColumn (workspace.columns number) (Reader.ofRow row) =
        .ok values after ∧ after.slots = [] := by
  unfold decodeRow
  rw [Reading.result_eq_ok]
  simp only [decode_columns_eq_ok]

/-- An error of a column is the error of the row. -/
theorem decode_row_eq_error {number : Nat} {row : List Char} {after : Reader} {e : Error}
    (h : Reading.each workspace.decodeColumn (workspace.columns number) (Reader.ofRow row) =
      .error e after) : workspace.decodeRow number row = .error e := by
  unfold decodeRow
  rw [Reading.result_eq_error]
  exact ⟨after, Reading.bind_eq_error.mpr (.inl h)⟩

/-- A row does not finish exactly if a column does not that it comes to, and for want of the
same. -/
theorem decode_row_eq_endless {number : Nat} {row : List Char} {shortage : Shortage} :
    workspace.decodeRow number row = .error (.endless shortage) ↔
      ∃ before column after values reader last,
        workspace.columns number = before ++ column :: after ∧
        Reading.each workspace.decodeColumn before (Reader.ofRow row) = .ok values reader ∧
        workspace.decodeNode column reader = .error (.endless shortage) last := by
  constructor
  · intro h
    unfold decodeRow at h
    obtain ⟨last, h⟩ := Reading.result_eq_error.mp h
    rcases Reading.bind_eq_error.mp h with h | ⟨values, between, -, h⟩
    · obtain ⟨before, column, after, values, reader, hcolumns, hbefore, hcolumn⟩ :=
        Reading.each_eq_error.mp h
      exact ⟨before, column, after, values, reader, last, hcolumns, hbefore,
        decode_column_eq_endless.mp hcolumn⟩
    · rcases Reading.bind_eq_error.mp h with h | ⟨reader, _, -, h⟩
      · exact nomatch h
      · split at h <;> exact nomatch h
  · intro h
    obtain ⟨before, column, after, values, reader, last, hcolumns, hbefore, hcolumn⟩ := h
    exact decode_row_eq_error (Reading.each_eq_error.mpr ⟨before, column, after, values, reader,
      hcolumns, hbefore, decode_column_eq_endless.mpr hcolumn⟩)

end SheetWire.Workspace
