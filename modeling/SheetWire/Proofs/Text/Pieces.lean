import SheetWire.Proofs.Text.Groups
import SheetWire.Proofs.Text.Marking

/-!
# Pieces between unmarked commas

Whether a comma separates two values of a cell depends on the character directly in front of it: a
backslash there marks the comma as part of a value. Cutting a text at the other commas and escaping
the pieces gives the parts of the text that was escaped as a whole (`cut_escape`), so the number of
values can be told before escaping and after it.
-/

namespace SheetWire.Text

/-- The pieces of a text between its unmarked commas. The character directly in front of the text,
if there is one, is given as `before`. -/
def piecesAfter (before : Option Char) : List Char → List (List Char)
  | [] => [[]]
  | c :: rest =>
      if c = ',' ∧ before ≠ some '\\' then [] :: piecesAfter (some c) rest
      else (piecesAfter (some c) rest).modifyHead (c :: ·)

/-- The pieces of a text between the commas that are not directly preceded by a backslash. -/
def pieces (text : List Char) : List (List Char) :=
  piecesAfter none text

/-- How many commas of a text are not directly preceded by a backslash. -/
def unmarkedCommas (text : List Char) : Nat :=
  ((none :: text.map some).zip text).countP fun (before, c) => c = ',' ∧ before ≠ some '\\'

section Pieces

variable {before : Option Char} {c : Char} {rest : List Char}

/-- An unmarked comma ends the first piece. -/
theorem pieces_after_comma (h : before ≠ some '\\') :
    piecesAfter before (',' :: rest) = [] :: piecesAfter (some ',') rest := by
  rw [piecesAfter, if_pos ⟨rfl, h⟩]

/-- Any other character stands in front of the first piece. -/
theorem pieces_after_cons (h : c = ',' → before = some '\\') :
    piecesAfter before (c :: rest) = (piecesAfter (some c) rest).modifyHead (c :: ·) := by
  rw [piecesAfter, if_neg]
  intro hcomma
  exact hcomma.2 (h hcomma.1)

/-- A character other than a comma stands in front of the first piece. -/
theorem pieces_after_of_ne (h : c ≠ ',') :
    piecesAfter before (c :: rest) = (piecesAfter (some c) rest).modifyHead (c :: ·) :=
  pieces_after_cons fun hc => absurd hc h

/-- There is always a first piece, and it starts as the text does. -/
theorem exists_first_piece (before : Option Char) (text : List Char) :
    ∃ first others, piecesAfter before text = first :: others ∧ first <+: text := by
  induction text generalizing before with
  | nil => exact ⟨[], [], rfl, List.prefix_refl []⟩
  | cons c rest ih =>
      rw [piecesAfter]
      split
      · exact ⟨[], _, rfl, List.nil_prefix⟩
      · obtain ⟨first, others, hpieces, hfirst⟩ := ih (some c)
        rw [hpieces]
        exact ⟨c :: first, others, rfl, (List.prefix_cons_inj c).mpr hfirst⟩

/-- The pieces with commas between them are the text. -/
theorem intercalate_pieces_after (before : Option Char) (text : List Char) :
    [','].intercalate (piecesAfter before text) = text := by
  induction text generalizing before with
  | nil => rfl
  | cons c rest ih =>
      obtain ⟨first, others, hpieces, -⟩ := exists_first_piece (some c) rest
      have hrest := ih (some c)
      rw [piecesAfter]
      split
      · rename_i hcomma
        obtain ⟨rfl, -⟩ := hcomma
        rw [intercalate_cons_of_ne_nil ',' [] (hpieces ▸ List.cons_ne_nil first others), hrest,
          List.nil_append]
      · rw [hpieces] at hrest ⊢
        rw [← hrest]
        cases others <;> rfl

/-- There is one piece more than unmarked commas. -/
theorem length_pieces_after (before : Option Char) (text : List Char) :
    (piecesAfter before text).length =
      ((before :: text.map some).zip text).countP
        (fun (before, c) => c = ',' ∧ before ≠ some '\\') + 1 := by
  induction text generalizing before with
  | nil => rfl
  | cons c rest ih =>
      rw [piecesAfter, List.map_cons, List.zip_cons_cons, List.countP_cons]
      split
      · rename_i hcomma
        rw [List.length_cons, ih (some c), if_pos (by simpa using hcomma)]
      · rename_i hcomma
        rw [List.length_modifyHead, ih (some c), if_neg (by simpa using hcomma)]

/-- The parts of an escaped text are the escaped pieces, unless the text starts with a comma that is
marked by what stands in front of it. -/
theorem splitOn_escape_after (before : Option Char) {text : List Char}
    (h : before = some '\\' → ∀ tail, text ≠ ',' :: tail) :
    (escape text).splitOn ',' = (piecesAfter before text).map escape := by
  induction text using escape.induct generalizing before with
  | case1 => rfl
  | case2 rest ih =>
      obtain ⟨first, others, hpieces, -⟩ := exists_first_piece (some '\n') rest
      have hfree : ',' ∉ newlineSentinel := by decide
      have hbefore : some '\n' ≠ some '\\' := by decide
      rw [escape, splitOn_append_of_notMem hfree, ih (some '\n') fun h => absurd h hbefore,
        pieces_after_of_ne (by decide), hpieces]
      rfl
  | case3 rest ih =>
      obtain ⟨first, others, hpieces, -⟩ := exists_first_piece (some ',') rest
      have hfree : ',' ∉ commaSentinel := by decide
      have hbefore : some ',' ≠ some '\\' := by decide
      rw [escape, splitOn_append_of_notMem hfree, ih (some ',') fun h => absurd h hbefore,
        pieces_after_of_ne (by decide), pieces_after_cons (fun _ => rfl), hpieces]
      rfl
  | case4 c rest hnewline hmarked ih =>
      have hrest := ih (some c) fun hc tail => hmarked tail (Option.some.inj hc)
      rw [escape]
      · by_cases hc : c = ','
        · subst hc
          have hbefore : before ≠ some '\\' := fun hbefore => h hbefore rest rfl
          rw [splitOn_cons_self, hrest, pieces_after_comma hbefore, List.map_cons]
          rfl
        · obtain ⟨first, others, hpieces, hfirst⟩ := exists_first_piece (some c) rest
          have hescape : escape (c :: first) = c :: escape first := by
            rw [escape]
            · exact hnewline
            · intro tail hbackslash htail
              obtain ⟨back, rfl⟩ := hfirst
              exact hmarked (tail ++ back) hbackslash (by rw [htail]; rfl)
          rw [splitOn_cons_of_ne hc, hrest, pieces_after_of_ne hc, hpieces]
          simp [hescape]
      · exact hnewline
      · exact hmarked

end Pieces

/-- The parts of an escaped text are the escaped pieces between the unmarked commas of the text, so
there is one more of them than unmarked commas. Texts that are joined by commas and then escaped are
escaped one by one and then joined exactly if none but the last ends with a backslash. -/
theorem cut_escape (text : List Char) (texts : List (List Char)) :
    [','].intercalate (pieces text) = text ∧ (escape text).splitOn ',' = (pieces text).map escape ∧
      ((escape text).splitOn ',').length = unmarkedCommas text + 1 ∧
      (escape ([','].intercalate texts) = [','].intercalate (texts.map escape) ↔
        ∀ front ∈ texts.dropLast, front.getLast? ≠ some '\\') := by
  have hcut : (escape text).splitOn ',' = (pieces text).map escape :=
    splitOn_escape_after none nofun
  refine ⟨intercalate_pieces_after none text, hcut, ?_, escape_intercalate_iff⟩
  rw [hcut, List.length_map]
  exact length_pieces_after none text

example :
    pieces "a\\,b,,c\\\n,d\\\\,e\\".toList =
      ["a\\,b".toList, [], "c\\\n".toList, "d\\\\,e\\".toList] := by
  decide

end SheetWire.Text
