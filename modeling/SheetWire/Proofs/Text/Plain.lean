import Mathlib.Data.List.DropRight
import SheetWire.Text.Blank
import SheetWire.Text.Sentinel

/-!
# What trimming and escaping leave in a text

Trimming and escaping leave a text as it is where it does not hold the characters that they look
for. A comma is left by escaping exactly where the author did not mark it (`comma_mem_escape`).
-/

namespace SheetWire.Text

/-- Nothing is dropped from the front of a text without characters to drop. -/
theorem drop_while_of_forall {p : Char → Bool} {text : List Char} (h : ∀ c ∈ text, p c = false) :
    text.dropWhile p = text := by
  refine List.dropWhile_eq_self_iff.mpr fun hlength => ?_
  rw [h _ (List.getElem_mem hlength)]
  exact Bool.false_ne_true

/-- Nothing is dropped from the end of a text without characters to drop. -/
theorem drop_right_while_of_forall {p : Char → Bool} {text : List Char}
    (h : ∀ c ∈ text, p c = false) : dropRightWhile p text = text := by
  refine List.rdropWhile_eq_self_iff.mpr fun hne => ?_
  rw [h _ (List.getLast_mem hne)]
  exact Bool.false_ne_true

/-- Trimming leaves a text without blanks as it is. -/
theorem trim_of_forall {text : List Char} (h : ∀ c ∈ text, isBlank c = false) :
    trim text = text := by
  unfold trim
  rw [drop_while_of_forall h, drop_right_while_of_forall h]

/-- A text without newlines and backslashes is written as it is. -/
theorem escape_of_notMem {text : List Char} (hnewline : '\n' ∉ text) (hbackslash : '\\' ∉ text) :
    escape text = text := by
  induction text using escape.induct with
  | case1 => rfl
  | case2 rest ih => exact absurd List.mem_cons_self hnewline
  | case3 rest ih => exact absurd List.mem_cons_self hbackslash
  | case4 c rest hc hmarked ih =>
      rw [escape, ih]
      · exact fun h => hnewline (List.mem_cons_of_mem c h)
      · exact fun h => hbackslash (List.mem_cons_of_mem c h)
      · exact hc
      · exact hmarked

/-- No newline is left by escaping. -/
theorem newline_notMem_escape (text : List Char) : '\n' ∉ escape text := by
  induction text using escape.induct with
  | case1 => exact List.not_mem_nil
  | case2 rest ih => simpa [escape, newlineSentinel] using ih
  | case3 rest ih => simpa [escape, commaSentinel] using ih
  | case4 c rest hnewline hmarked ih =>
      rw [escape, List.mem_cons, not_or]
      · exact ⟨fun hc => hnewline hc.symm, ih⟩
      · exact hnewline
      · exact hmarked

/-- Escaping leaves no text empty that was not. -/
theorem escape_ne_nil {text : List Char} (h : text ≠ []) : escape text ≠ [] := by
  cases text using escape.fun_cases with
  | case1 => exact absurd rfl h
  | case2 rest => simp [escape, newlineSentinel]
  | case3 rest => simp [escape, commaSentinel]
  | case4 c rest hnewline hmarked =>
      rw [escape]
      · exact List.cons_ne_nil _ _
      · exact hnewline
      · exact hmarked

/-- Whether a text holds a comma that is not directly preceded by a backslash. -/
def UnmarkedComma (text : List Char) : Prop :=
  ∃ front back, text = front ++ ',' :: back ∧ front.getLast? ≠ some '\\'

/-- A comma at the start of a text is not marked. -/
theorem unmarked_comma_cons_comma (rest : List Char) : UnmarkedComma (',' :: rest) :=
  ⟨[], rest, rfl, by simp⟩

/-- After a character that neither marks what follows nor is a comma, a text holds the unmarked
commas of its rest. -/
theorem unmarked_comma_cons {c : Char} {rest : List Char} (hcomma : c ≠ ',')
    (hmarked : ∀ tail, c = '\\' → rest ≠ ',' :: tail) :
    UnmarkedComma (c :: rest) ↔ UnmarkedComma rest := by
  constructor
  · intro h
    obtain ⟨front, back, htext, hlast⟩ := h
    cases front with
    | nil => exact absurd (List.cons.inj htext).1 hcomma
    | cons first front =>
        obtain ⟨rfl, hrest⟩ := List.cons.inj htext
        refine ⟨front, back, hrest, ?_⟩
        cases front with
        | nil => simp
        | cons second front => simpa [List.getLast?_cons_cons] using hlast
  · intro h
    obtain ⟨front, back, rfl, hlast⟩ := h
    refine ⟨c :: front, back, rfl, ?_⟩
    cases front with
    | nil => simpa using fun hc => hmarked back hc rfl
    | cons second front => simpa [List.getLast?_cons_cons] using hlast

/-- A marked comma counts for nothing. -/
theorem unmarked_comma_marked (rest : List Char) :
    UnmarkedComma ('\\' :: ',' :: rest) ↔ UnmarkedComma rest := by
  constructor
  · intro h
    obtain ⟨front, back, htext, hlast⟩ := h
    match front with
    | [] => exact absurd (List.cons.inj htext).1 (by decide)
    | [first] =>
        obtain ⟨rfl, -⟩ := List.cons.inj htext
        exact absurd rfl hlast
    | first :: second :: front =>
        obtain ⟨-, htail⟩ := List.cons.inj htext
        obtain ⟨rfl, hrest⟩ := List.cons.inj htail
        refine ⟨front, back, hrest, ?_⟩
        cases front with
        | nil => simp
        | cons third front => simpa [List.getLast?_cons_cons] using hlast
  · intro h
    obtain ⟨front, back, rfl, hlast⟩ := h
    refine ⟨'\\' :: ',' :: front, back, rfl, ?_⟩
    cases front with
    | nil => simp
    | cons third front => simpa [List.getLast?_cons_cons] using hlast

/-- Escaping leaves the commas that are not marked, and no others. -/
theorem comma_mem_escape {text : List Char} : ',' ∈ escape text ↔ UnmarkedComma text := by
  induction text using escape.induct with
  | case1 =>
      refine iff_of_false List.not_mem_nil ?_
      intro h
      obtain ⟨front, back, htext, -⟩ := h
      simp at htext
  | case2 rest ih =>
      rw [unmarked_comma_cons (by decide) (fun tail h => absurd h (by decide)), ← ih]
      simp [escape, newlineSentinel]
  | case3 rest ih =>
      rw [unmarked_comma_marked, ← ih]
      simp [escape, commaSentinel]
  | case4 c rest hnewline hmarked ih =>
      rw [escape]
      · by_cases hc : c = ','
        · subst hc
          exact iff_of_true List.mem_cons_self (unmarked_comma_cons_comma rest)
        · rw [unmarked_comma_cons hc hmarked, ← ih, List.mem_cons, or_iff_right (Ne.symm hc)]
      · exact hnewline
      · exact hmarked

end SheetWire.Text
