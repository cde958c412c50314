import Mathlib
import SheetWire.Proofs.Text.Plain
import SheetWire.Text.Parts

/-!
# Marked texts

An author marks every comma of a text with a backslash. Escaping then writes the text character by
character (`escape_mark`), so that no comma is left in it and reading it back gives the text, unless
it held a sentinel from the start (`unescape_escape_mark`). A comma between two texts stays where it
is, unless the text before it ends with a backslash (`escape_intercalate_iff`).
-/

namespace SheetWire.Text

/-- A text with every comma marked with a backslash. -/
def mark (text : List Char) : List Char :=
  text.flatMap fun c => if c = ',' then ['\\', ','] else [c]

/-- What is stored for a character of a text: a sentinel for a newline and for a comma. -/
def stored (c : Char) : List Char :=
  if c = '\n' then newlineSentinel else if c = ',' then commaSentinel else [c]

/-- A comma in front is marked. -/
theorem mark_cons_comma (rest : List Char) : mark (',' :: rest) = '\\' :: ',' :: mark rest :=
  List.flatMap_cons

/-- Any other character in front stays as it is. -/
theorem mark_cons_of_ne {c : Char} (h : c ≠ ',') (rest : List Char) :
    mark (c :: rest) = c :: mark rest := by
  rw [mark, List.flatMap_cons, if_neg h]
  rfl

/-- A marked text does not start with a comma. -/
theorem mark_ne_cons_comma (text rest : List Char) : mark text ≠ ',' :: rest := by
  cases text with
  | nil => exact nofun
  | cons c others =>
      by_cases hc : c = ','
      · subst hc
        rw [mark_cons_comma]
        exact fun h => absurd (List.cons.inj h).1 (by decide)
      · rw [mark_cons_of_ne hc]
        exact fun h => hc (List.cons.inj h).1

/-- A marked text ends with a backslash only if the text does. -/
theorem getLast_mark {text : List Char} (h : text.getLast? ≠ some '\\') :
    (mark text).getLast? ≠ some '\\' := by
  cases text using List.reverseRecOn with
  | nil => exact h
  | append_singleton before last =>
      rw [List.getLast?_concat] at h
      rw [mark, List.flatMap_append, List.flatMap_singleton]
      split
      · rw [List.getLast?_append]
        exact fun hlast => absurd (Option.some.inj hlast) (by decide)
      · rwa [List.getLast?_concat]

/-- Escaping a marked text stores it character by character. -/
theorem escape_mark (text : List Char) : escape (mark text) = text.flatMap stored := by
  induction text with
  | nil => rfl
  | cons c rest ih =>
      rw [List.flatMap_cons, ← ih]
      by_cases hcomma : c = ','
      · subst hcomma
        rw [mark_cons_comma, escape]
        rfl
      · rw [mark_cons_of_ne hcomma]
        by_cases hnewline : c = '\n'
        · subst hnewline
          rw [escape]
          rfl
        · rw [escape, stored, if_neg hnewline, if_neg hcomma, List.singleton_append]
          · exact hnewline
          · intro tail _ hmarked
            exact mark_ne_cons_comma rest tail hmarked

/-- No comma is left in a marked text. -/
theorem comma_notMem_escape_mark (text : List Char) : ',' ∉ escape (mark text) := by
  rw [escape_mark, List.mem_flatMap]
  intro hcomma
  obtain ⟨c, -, hc⟩ := hcomma
  unfold stored at hc
  split at hc
  · exact absurd hc (by decide)
  · split at hc
    · exact absurd hc (by decide)
    · rename_i hcomma
      exact hcomma (List.mem_singleton.mp hc).symm

/-- A stored text that goes on with a character that no sentinel starts with is that of a text which
does. -/
theorem stored_eq_cons {text rest : List Char} {c : Char} (hcomma : c ≠ ':') (hnewline : c ≠ ';')
    (h : text.flatMap stored = c :: rest) :
    ∃ others, text = c :: others ∧ others.flatMap stored = rest := by
  cases text with
  | nil => exact nomatch h
  | cons first others =>
      rw [List.flatMap_cons, stored] at h
      split at h
      · exact absurd (List.cons.inj h).1.symm hnewline
      · split at h
        · exact absurd (List.cons.inj h).1.symm hcomma
        · obtain ⟨rfl, rfl⟩ := List.cons.inj h
          exact ⟨others, rfl, rfl⟩

/-- A character that no sentinel starts at is read back as it is. -/
theorem unescape_cons {c : Char} {rest : List Char}
    (hnewline : ∀ tail, c :: rest ≠ newlineSentinel ++ tail)
    (hcomma : ∀ tail, c :: rest ≠ commaSentinel ++ tail) :
    unescape (c :: rest) = c :: unescape rest := by
  rw [unescape]
  · intro tail hfirst hrest
    exact hnewline tail (by rw [hfirst, hrest]; rfl)
  · intro tail hfirst hrest
    exact hcomma tail (by rw [hfirst, hrest]; rfl)

/-- A stored text is read back if the text holds no sentinel. -/
theorem unescape_stored {text : List Char} (hnewline : ¬ newlineSentinel <:+: text)
    (hcomma : ¬ commaSentinel <:+: text) : unescape (text.flatMap stored) = text := by
  induction text with
  | nil => rfl
  | cons c rest ih =>
      have hrest := ih (fun h => hnewline (h.trans (List.suffix_cons c rest).isInfix))
        (fun h => hcomma (h.trans (List.suffix_cons c rest).isInfix))
      rw [List.flatMap_cons, stored]
      split
      · rename_i hc
        subst hc
        exact congrArg ('\n' :: ·) hrest
      · split
        · rename_i hc
          subst hc
          exact congrArg (',' :: ·) hrest
        · -- A sentinel that starts here is one of the text, since none starts inside another.
          have hinside : ∀ first, rest.flatMap stored = 'l' :: '/' :: '~' :: first →
              ∃ tail, rest = 'l' :: '/' :: '~' :: tail := by
            intro first hfirst
            obtain ⟨second, rfl, hsecond⟩ := stored_eq_cons (by decide) (by decide) hfirst
            obtain ⟨third, rfl, hthird⟩ := stored_eq_cons (by decide) (by decide) hsecond
            obtain ⟨tail, rfl, -⟩ := stored_eq_cons (by decide) (by decide) hthird
            exact ⟨tail, rfl⟩
          rw [List.singleton_append, unescape_cons, hrest]
          · intro tail htail
            obtain ⟨rfl, hstored⟩ := List.cons.inj htail
            obtain ⟨others, rfl⟩ := hinside tail hstored
            exact hnewline (List.prefix_append newlineSentinel others).isInfix
          · intro tail htail
            obtain ⟨rfl, hstored⟩ := List.cons.inj htail
            obtain ⟨others, rfl⟩ := hinside tail hstored
            exact hcomma (List.prefix_append commaSentinel others).isInfix

/-- A marked text is read back if the text holds no sentinel. -/
theorem unescape_escape_mark {text : List Char} (hnewline : ¬ newlineSentinel <:+: text)
    (hcomma : ¬ commaSentinel <:+: text) : unescape (escape (mark text)) = text := by
  rw [escape_mark, unescape_stored hnewline hcomma]

/-- What does not end with a character does not end with it behind another one. -/
theorem getLast_ne_of_cons {c last : Char} {rest : List Char}
    (h : (c :: rest).getLast? ≠ some last) : rest.getLast? ≠ some last := by
  cases rest with
  | nil => exact nofun
  | cons => rwa [List.getLast?_cons_cons] at h

/-- Two texts are escaped one after the other unless a backslash and a comma meet between them. -/
theorem escape_append {front back : List Char}
    (h : front.getLast? = some '\\' → ∀ tail, back ≠ ',' :: tail) :
    escape (front ++ back) = escape front ++ escape back := by
  -- Where the rest of the front ends with a backslash, the front does.
  have hrest : ∀ {c : Char} {rest : List Char},
      ((c :: rest).getLast? = some '\\' → ∀ tail, back ≠ ',' :: tail) →
        rest.getLast? = some '\\' → ∀ tail, back ≠ ',' :: tail := by
    intro c rest h hlast
    by_contra hcomma
    exact getLast_ne_of_cons (fun hlast => hcomma (h hlast)) hlast
  induction front using escape.induct with
  | case1 => rfl
  | case2 rest ih =>
      rw [List.cons_append, escape, escape, ih (hrest h), List.append_assoc]
  | case3 rest ih =>
      rw [List.cons_append, List.cons_append, escape, escape, ih (hrest (hrest h)),
        List.append_assoc]
  | case4 c rest hnewline hmarked ih =>
      have hafter : ∀ tail, c = '\\' → rest ++ back ≠ ',' :: tail := by
        intro tail hc hsame
        subst hc
        cases rest with
        | nil => exact h rfl tail hsame
        | cons first others =>
            obtain ⟨rfl, -⟩ := List.cons.inj hsame
            exact hmarked others rfl rfl
      rw [List.cons_append, escape, escape, ih (hrest h), List.cons_append]
      all_goals assumption

/-- A comma at the start of a text is left. -/
theorem escape_cons_comma (rest : List Char) : escape (',' :: rest) = ',' :: escape rest := by
  rw [escape]
  · exact fun hcomma => absurd hcomma (by decide)
  · exact fun tail hcomma => absurd hcomma (by decide)

/-- A comma after a text is left, with what follows it escaped by itself, exactly if the text does
not end with a backslash. -/
theorem escape_append_comma_iff {front back rest : List Char} :
    escape (front ++ ',' :: back) = escape front ++ ',' :: rest ↔
      front.getLast? ≠ some '\\' ∧ escape back = rest := by
  constructor
  · intro hsame
    have hlast : front.getLast? ≠ some '\\' := by
      intro hlast
      obtain ⟨before, rfl⟩ := List.getLast?_eq_some_iff.mp hlast
      have hcut : ∀ tail : List Char, escape (before ++ '\\' :: tail) =
          escape before ++ escape ('\\' :: tail) := fun tail =>
        escape_append fun _ others hcomma => absurd (List.cons.inj hcomma).1 (by decide)
      rw [List.append_assoc, List.singleton_append, hcut, hcut, List.append_assoc,
        List.append_cancel_left_eq] at hsame
      -- The comma is in a sentinel on the one side and behind a backslash on the other.
      exact absurd (List.cons.inj hsame).1 (by decide)
    rw [escape_append fun h => absurd h hlast, escape_cons_comma, List.append_cancel_left_eq,
      List.cons.injEq] at hsame
    exact ⟨hlast, hsame.2⟩
  · rintro ⟨hlast, rfl⟩
    rw [escape_append fun h => absurd h hlast, escape_cons_comma]

/-- Texts are escaped one by one, with the commas between them left, exactly if none but the last
ends with a backslash. -/
theorem escape_intercalate_iff {texts : List (List Char)} :
    escape ([','].intercalate texts) = [','].intercalate (texts.map escape) ↔
      ∀ text ∈ texts.dropLast, text.getLast? ≠ some '\\' := by
  induction texts with
  | nil => exact iff_of_true rfl nofun
  | cons text rest ih =>
      by_cases hrest : rest = []
      · subst hrest
        rw [List.map_singleton, List.intercalate_singleton, List.intercalate_singleton]
        exact iff_of_true rfl nofun
      · have hmap : rest.map escape ≠ [] := fun hnil => hrest (List.map_eq_nil_iff.mp hnil)
        rw [intercalate_cons_of_ne_nil ',' text hrest, List.map_cons,
          intercalate_cons_of_ne_nil ',' _ hmap, escape_append_comma_iff, ih,
          List.dropLast_cons_of_ne_nil hrest, List.forall_mem_cons]

end SheetWire.Text
