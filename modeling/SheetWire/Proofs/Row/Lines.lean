import SheetWire.Proofs.Row.Alignment

/-!
# Rows as lines

The rows of a table are stored one on each line, so that they can be told apart only if no row holds
a newline and none is empty. A slot holds characters of the escaped cell and of numbers
(`mem_of_mem_slots`), and a cell that is not empty is written as some text for every kind of field
(`slots_ne_blank`). Together they give `wire_ne_nil` and `newline_notMem_wire`.
-/

namespace SheetWire

open Text Number

/-! ### Cells that hold something -/

namespace Cell

/-- Digits around a point are not empty. -/
theorem positional_ne_nil {layout : FloatLayout} {text : List Char} {last : Int}
    (h : text ≠ []) : layout.positional text last ≠ [] := by
  unfold FloatLayout.positional
  split
  · rw [List.append_assoc]
    exact List.append_ne_nil_of_left_ne_nil h _
  · simp only
    split
    · exact List.append_ne_nil_of_right_ne_nil _ (List.cons_ne_nil _ _)
    · exact List.cons_ne_nil _ _

/-- A number of a cell has a text. -/
theorem float_text_ne_empty (value : Binary) : cellLayout.write double value ≠ "" := by
  cases value with
  | nan => decide
  | infinite negative => cases negative <;> decide
  | finite negative m e =>
      have hmagnitude : cellLayout.magnitude double m e ≠ [] := by
        unfold FloatLayout.magnitude
        split
        · exact List.cons_ne_nil _ _
        · exact positional_ne_nil (digits_ne_nil _)
      show String.ofList _ ≠ ""
      rw [Ne, String.ofList_eq_empty_iff]
      cases negative with
      | true => exact List.cons_ne_nil _ _
      | false => exact hmagnitude

/-- A cell is empty if it has no text. -/
theorem is_empty_iff [DateFormat] {cell : Cell} : cell.isEmpty = true ↔ cell.toText = "" := by
  cases cell with
  | empty => exact iff_of_true rfl rfl
  | text value => exact beq_iff_eq
  | integer value =>
      refine iff_of_false Bool.false_ne_true ?_
      rw [toText, decimalString, String.ofList_eq_empty_iff, decimal]
      split
      · exact List.cons_ne_nil _ _
      · exact digits_ne_nil _
  | float value => exact iff_of_false Bool.false_ne_true (float_text_ne_empty value)
  | bool value =>
      refine iff_of_false Bool.false_ne_true ?_
      rw [toText]
      cases value <;> decide
  | date value =>
      refine iff_of_false Bool.false_ne_true ?_
      rw [toText, String.ofList_eq_empty_iff]
      exact DateFormat.text_ne_nil value

end Cell

namespace Workspace

variable {workspace : Workspace}

/-- A row is converted if its first cell is there and has a text. -/
theorem holds_data_iff [DateFormat] {cells : List Cell} :
    holdsData cells = true ↔ (cells.headD .empty).toText ≠ "" := by
  cases cells with
  | nil => exact iff_of_false Bool.false_ne_true (absurd rfl)
  | cons first rest =>
      rw [holdsData, Bool.not_eq_true', ← Bool.not_eq_true, Cell.is_empty_iff]
      rfl

/-! ### Slots -/

/-- The characters of slots are those of the text, or they belong to numbers. -/
theorem mem_of_mem_slots {bound : Nat} {node : Node} {text slot : List Char} {slots : Slots}
    {c : Char} (h : workspace.encodeWithin bound node text = .ok slots) (hslot : slot ∈ slots)
    (hc : c ∈ slot) (hcomma : c ≠ ',') : c ∈ text ∨ c = '-' ∨ isDigit c = true := by
  induction bound generalizing node text slots with
  | zero => exact nomatch h
  | succ bound ih =>
      obtain ⟨own, list, pieces, hportions, hpieces, rfl⟩ := encode_within_eq_ok h
      rcases List.mem_append.mp hslot with hown | hinner
      · cases portioned_of_ok hportions with
        | primitive =>
            rw [List.mem_singleton.mp hown] at hc
            exact .inl hc
        | noMember =>
            rw [List.mem_singleton.mp hown] at hc
            exact absurd hc List.not_mem_nil
        | member =>
            rw [List.mem_singleton.mp hown] at hc
            exact .inr (mem_decimal hc)
        | emptyList | list | emptyDictionary | dictionary =>
            rw [List.mem_singleton.mp hown] at hc
            exact .inr (.inr (is_digit_of_mem_digits hc))
        | struct => exact absurd hown List.not_mem_nil
      · obtain ⟨piece, hpiece, hslot⟩ := List.mem_flatten.mp hinner
        obtain ⟨⟨part, inner⟩, hportion, hpart⟩ := exists_left_of_mem hpieces hpiece
        refine (ih hpart hslot).imp_left fun hmem => ?_
        -- A portion is made of parts of the text and of commas between them.
        obtain ⟨-, group, width, rfl, hinside, -, -⟩ := mem_portions hportions hportion
        rcases mem_intercalate hmem with hc | ⟨other, hother, hc⟩
        · exact absurd hc hcomma
        · exact mem_of_mem_splitOn (hinside.subset hother) hc

/-- Pieces of slots that each have one make up a single slot only if there is one of them. -/
theorem flatten_eq_singleton {pieces : List Slots} {slot : List Char}
    (hpieces : ∀ piece ∈ pieces, piece ≠ []) (h : pieces.flatten = [slot]) :
    pieces = [[slot]] := by
  match pieces with
  | [] => exact nomatch h
  | [piece] => simpa using h
  | first :: second :: rest =>
      have hlength := congrArg List.length h
      have hfirst := List.length_pos_of_ne_nil (hpieces first List.mem_cons_self)
      have hsecond :=
        List.length_pos_of_ne_nil (hpieces second (List.mem_cons_of_mem _ List.mem_cons_self))
      simp only [List.flatten_cons, List.length_append, List.length_singleton] at hlength
      omega

/-- A text that is not empty is not written as a single empty slot, whatever the field is. -/
theorem slots_ne_blank {bound : Nat} {node : Node} {text : List Char} {slots : Slots}
    (h : workspace.encodeWithin bound node text = .ok slots) (htext : text ≠ []) :
    slots ≠ [[]] := by
  induction bound generalizing node slots with
  | zero => exact nomatch h
  | succ bound ih =>
      obtain ⟨own, list, pieces, hportions, hpieces, rfl⟩ := encode_within_eq_ok h
      intro hblank
      cases portioned_of_ok hportions with
      | primitive => exact htext (List.cons.inj hblank).1
      | noMember _ _ hnil | emptyList _ _ hnil | emptyDictionary _ _ _ hnil => exact htext hnil
      | member members number =>
          have hdecimal := (List.cons.inj hblank).1
          unfold decimal at hdecimal
          split at hdecimal
          · exact nomatch hdecimal
          · exact digits_ne_nil _ hdecimal
      | list | dictionary => exact digits_ne_nil _ (List.cons.inj hblank).1
      | struct place typeName subfields widths hshape hwidths hlength =>
          -- A single slot is that of a single subfield, which takes the whole text.
          have hsingle : pieces = [[[]]] := flatten_eq_singleton (fun piece hpiece => by
            obtain ⟨portion, -, hportion⟩ := exists_left_of_mem hpieces hpiece
            exact encode_within_ne_nil hportion) hblank
          subst hsingle
          have hcount := hpieces.length_eq
          rw [List.length_map, List.length_zip, length_deal,
            ← (widths_eq_ok.mp hwidths).length_eq, Nat.min_self, List.length_singleton] at hcount
          obtain ⟨subfield, rfl⟩ := List.length_eq_one_iff.mp hcount
          obtain ⟨width, _, -, hnil, rfl⟩ :=
            List.forall₂_cons_left_iff.mp (widths_eq_ok.mp hwidths)
          obtain rfl := List.forall₂_nil_left_iff.mp hnil
          rw [List.sum_singleton] at hlength
          simp only [deal, List.take_of_length_le hlength, List.zip_cons_cons, List.zip_nil_left,
            List.map_cons, List.map_nil, List.intercalate_splitOn, List.forall₂_cons,
            List.forall₂_nil_left_iff, and_true] at hpieces
          exact ih hpieces rfl

/-! ### Rows -/

/-- What is written for a text that is not empty is not empty. -/
theorem intercalate_ne_nil_of_encoded {node : Node} {text : String} {piece : Slots}
    (h : workspace.encodeText node text = .ok piece) (htext : text ≠ "") :
    [','].intercalate piece ≠ [] := by
  have hescaped : escape text.toList ≠ [] :=
    escape_ne_nil fun hnil => htext (String.toList_eq_nil_iff.mp hnil)
  intro hglue
  rcases intercalate_eq_nil.mp hglue with hnil | hblank
  · exact encode_within_ne_nil h hnil
  · exact slots_ne_blank h hescaped hblank

/-- A row that is converted is not empty. -/
theorem wire_ne_nil [DateFormat] {number : Nat} {cells : List Cell} {row : Row}
    (hcolumns : workspace.columns number ≠ []) (h : workspace.encodeRow number cells = .ok row)
    (hcells : holdsData cells = true) : row.wire ≠ [] := by
  obtain ⟨pieces, hwrites, hrow⟩ := encode_row_eq_ok h
  rw [Row.wire, hrow]
  cases hfields : workspace.columns number with
  | nil => exact absurd hfields hcolumns
  | cons column columns =>
      rw [hfields, cellTexts] at hwrites
      cases hwrites with
      | cons hfirst hrest =>
          have hpiece := intercalate_ne_nil_of_encoded hfirst (holds_data_iff.mp hcells)
          intro hglue
          rcases intercalate_eq_nil.mp hglue with hnil | hblank
          · exact absurd hnil (List.cons_ne_nil _ _)
          · exact hpiece (List.cons.inj hblank).1

/-- A row that is converted holds no newline. -/
theorem newline_notMem_wire [DateFormat] {number : Nat} {cells : List Cell} {row : Row}
    (h : workspace.encodeRow number cells = .ok row) : '\n' ∉ row.wire := by
  obtain ⟨pieces, hwrites, hrow⟩ := encode_row_eq_ok h
  rw [Row.wire, hrow]
  intro hnewline
  rcases mem_intercalate hnewline with hcomma | ⟨wire, hwire, hmem⟩
  · exact absurd hcomma (by decide)
  · obtain ⟨piece, hpiece, rfl⟩ := List.mem_map.mp hwire
    obtain ⟨cell, -, hencoded⟩ := exists_left_of_mem hwrites hpiece
    rcases mem_intercalate hmem with hcomma | ⟨slot, hslot, hmem⟩
    · exact absurd hcomma (by decide)
    · rcases mem_of_mem_slots hencoded hslot hmem (by decide) with htext | hsign | hdigit
      · exact newline_notMem_escape _ htext
      · exact absurd hsign (by decide)
      · exact absurd hdigit (by decide)

end Workspace

end SheetWire
