/-!
# Parts of a text

A text is cut at a separator by `List.splitOn`, and parts are glued together again by
`List.intercalate`. What these two do to a text with one part more in front is told here, and a list
is grouped into runs of a fixed length.
-/

namespace SheetWire.Text

/-- Consecutive runs of `length` elements; the last run may be shorter. Every run has at least one
element. -/
def runs {α : Type} (length : Nat) : List α → List (List α)
  | [] => []
  | x :: rest => (x :: rest.take (length - 1)) :: runs length (rest.drop (length - 1))
termination_by list => list.length
decreasing_by
  simp only [List.length_drop, List.length_cons]
  omega

/-- A separator ends the first part. -/
theorem splitOn_cons_self (sep : Char) (rest : List Char) :
    (sep :: rest).splitOn sep = [] :: rest.splitOn sep :=
  List.splitOn_append_cons_self [] rest

/-- Any other character extends the first part. -/
theorem splitOn_cons_of_ne {sep c : Char} (h : c ≠ sep) (rest : List Char) :
    (c :: rest).splitOn sep = (rest.splitOn sep).modifyHead (c :: ·) := by
  rw [List.splitOn_cons_eq_if_modifyHead, if_neg (mt beq_iff_eq.mp h)]

/-- A text that holds the separator has a first part, with the separator behind it. -/
theorem exists_first_part {sep : Char} {text : List Char} (h : sep ∈ text) :
    ∃ part rest, text = part ++ sep :: rest ∧ sep ∉ part ∧
      text.splitOn sep = part :: rest.splitOn sep := by
  obtain ⟨part, rest, rfl, hpart⟩ := List.eq_append_cons_of_mem h
  exact ⟨part, rest, rfl, hpart, List.splitOn_append_cons_self_of_not_mem hpart rest⟩

/-- Gluing after a first part. -/
theorem intercalate_cons_of_ne_nil (sep : Char) (part : List Char) {parts : List (List Char)}
    (h : parts ≠ []) :
    [sep].intercalate (part :: parts) = part ++ sep :: [sep].intercalate parts := by
  rw [List.intercalate_cons_of_ne_nil h, List.append_assoc, List.singleton_append]

end SheetWire.Text
