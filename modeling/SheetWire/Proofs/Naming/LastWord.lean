import SheetWire.Naming.Inflection
import SheetWire.Proofs.Text.Lowering

/-!
# What inflection leaves of a name

Inflection touches the last camel-case word of a name and nothing else (`LastWord`). Whether a word
comes back as it was from an inflector that does not change words depends on the word alone: it is
lowered before it is inflected, and it has its capital put back only if it has no other. Words are
told apart by ASCII letters, but capitals are not, so a word can have several, and then it loses
them all; and what has a lower-case form without being a capital, such as a letter in title case,
loses its form in any case (`inflection_leaves_name`).
-/

namespace SheetWire

open Text

namespace Naming

/-- A name that ends in a camel-case word, with what stands before the last such word, and the word:
a capital and everything behind it, where no further ASCII capital stands behind it, or a whole name
of ASCII small letters. -/
inductive LastWord : List Char → List Char → List Char → Prop where
  | capital (before : List Char) (first : Char) (rest : List Char) :
      isUpperLetter first = true → (∀ c ∈ rest, isUpperLetter c = false) →
      LastWord (before ++ first :: rest) before (first :: rest)
  | small (word : List Char) :
      word ≠ [] → (∀ c ∈ word, isLowerLetter c = true) → LastWord word [] word

/-- The last word ends the name. -/
theorem LastWord.append_eq {name before word : List Char} (h : LastWord name before word) :
    before ++ word = name := by
  cases h <;> rfl

/-- A name with an ASCII capital has a last one. -/
theorem exists_last_capital {name : List Char} (h : name.any isUpperLetter = true) :
    ∃ before first rest, name = before ++ first :: rest ∧ isUpperLetter first = true ∧
      ∀ c ∈ rest, isUpperLetter c = false := by
  induction name with
  | nil => cases h
  | cons c name ih =>
      by_cases hname : name.any isUpperLetter = true
      · obtain ⟨before, first, rest, rfl, hspec⟩ := ih hname
        exact ⟨c :: before, first, rest, rfl, hspec⟩
      · rw [List.any_cons, Bool.eq_false_iff.mpr hname, Bool.or_false] at h
        refine ⟨[], c, name, rfl, h, fun d hd => ?_⟩
        rw [Bool.eq_false_iff]
        exact fun hupper => hname (List.any_eq_true.mpr ⟨d, hd, hupper⟩)

/-- The last word is found where the name ends in one. -/
theorem last_word_of_last_word {name before word : List Char} (h : LastWord name before word) :
    lastWord? name = some (before, word) := by
  cases h with
  | capital before first rest hfirst hrest =>
      have hany : (before ++ first :: rest).any isUpperLetter = true :=
        List.any_eq_true.mpr ⟨first, by simp, hfirst⟩
      have hbehind : ((before ++ first :: rest).reverse.takeWhile fun c => !isUpperLetter c) =
          rest.reverse := by
        rw [List.reverse_append, List.reverse_cons, List.append_assoc,
          List.takeWhile_append_of_pos (by simpa using hrest)]
        simp [hfirst]
      have hlength : (before ++ first :: rest).length - (rest.reverse.length + 1) =
          before.length := by
        simp
      rw [lastWord?, if_pos hany, hbehind]
      simp only [hlength, List.take_left, List.drop_left]
  | small word hne hsmall =>
      have hany : ¬ name.any isUpperLetter = true := by
        rw [List.any_eq_true]
        intro hupper
        obtain ⟨c, hc, hupper⟩ := hupper
        have hcode := is_lower_letter_iff.mp (hsmall c hc)
        have hcode' := is_upper_letter_iff.mp hupper
        omega
      rw [lastWord?, if_neg hany, if_pos ⟨hne, List.all_eq_true.mpr hsmall⟩]

/-- A last word is found exactly where the name ends in it. -/
theorem last_word_eq_some_iff {name before word : List Char} :
    lastWord? name = some (before, word) ↔ LastWord name before word := by
  refine ⟨fun h => ?_, last_word_of_last_word⟩
  by_cases hany : name.any isUpperLetter = true
  · obtain ⟨front, first, rest, rfl, hfirst, hrest⟩ := exists_last_capital hany
    have hword := LastWord.capital front first rest hfirst hrest
    rw [last_word_of_last_word hword] at h
    cases h
    exact hword
  · rw [lastWord?, if_neg hany] at h
    split at h
    · rename_i hsmall
      cases h
      exact .small name hsmall.1 (List.all_eq_true.mp hsmall.2)
    · cases h

/-- A word that is left alone is lowered, and gets its capital back if it has one only. -/
theorem inflect_word_of_kept {inflect : String → String}
    (h : ∀ text, inflect text = text ∨ inflect text = "") (word : List Char) :
    inflectWord inflect word =
      if isTitle word = true then title (toLower word) else toLower word := by
  have hkept : (if (inflect (String.ofList (toLower word))).toList = [] then toLower word
      else (inflect (String.ofList (toLower word))).toList) = toLower word := by
    rcases h (String.ofList (toLower word)) with h | h
    · rw [h, String.toList_ofList, ite_self]
    · rw [h]
      rfl
  rw [inflectWord]
  simp only [hkept]

/-- A word that starts with a capital is lowered to one that starts with another character, from
which the capital can be told. -/
theorem exists_lowered_first {first : Char} (h : isUpperLetter first = true) (rest : List Char) :
    ∃ d, toLower (first :: rest) = d :: lowerAfter [first] rest ∧ upperChar d = [first] ∧
      d ≠ first := by
  obtain ⟨d, hlower, hback, hne⟩ := (small_letter_of_capital h).2
  have hcode := is_upper_letter_iff.mp h
  refine ⟨d, ?_, hback, hne⟩
  rw [toLower, lowerAfter, if_neg (by omega), hlower, List.singleton_append]

/-- A word of small letters is one in lower case. -/
theorem inflect_word_small {inflect : String → String}
    (h : ∀ text, inflect text = text ∨ inflect text = "") {word : List Char}
    (hsmall : ∀ c ∈ word, isLowerLetter c = true) : inflectWord inflect word = word := by
  have hlower : toLower word = word :=
    lower_after_of_lowered [] fun c hc => (small_letter (hsmall c hc)).2
  have htitle : isTitle word = false := by
    cases word with
    | nil => rfl
    | cons first rest =>
        rw [isTitle, (small_letter (hsmall first List.mem_cons_self)).1, Bool.false_and]
  rw [inflect_word_of_kept h, htitle, if_neg Bool.false_ne_true, hlower]

/-- A capital with another one behind it does not come back. -/
theorem inflect_word_ne {inflect : String → String}
    (h : ∀ text, inflect text = text ∨ inflect text = "") {first c : Char} {rest : List Char}
    (hfirst : isUpperLetter first = true) (hc : c ∈ rest) (hupper : isUpper c = true) :
    inflectWord inflect (first :: rest) ≠ first :: rest := by
  obtain ⟨d, hlower, -, hne⟩ := exists_lowered_first hfirst rest
  have htitle : ¬ isTitle (first :: rest) = true := by
    rw [isTitle, Bool.and_eq_true, List.all_eq_true]
    intro htitle
    have hplain := htitle.2 c hc
    rw [hupper] at hplain
    cases hplain
  rw [inflect_word_of_kept h, if_neg htitle, hlower]
  exact fun heq => hne (List.cons.inj heq).1

/-- A capital with no other behind it comes back, and what follows it is lowered. -/
theorem inflect_word_title {inflect : String → String}
    (h : ∀ text, inflect text = text ∨ inflect text = "") {first : Char} {rest : List Char}
    (hfirst : isUpperLetter first = true) (hrest : ∀ c ∈ rest, isUpper c = false) :
    inflectWord inflect (first :: rest) = first :: rest.flatMap lowerChar := by
  obtain ⟨d, hlower, hback, -⟩ := exists_lowered_first hfirst rest
  have htitle : isTitle (first :: rest) = true := by
    rw [isTitle, (small_letter_of_capital hfirst).1, Bool.true_and, List.all_eq_true]
    intro c hc
    rw [hrest c hc]
    rfl
  have hagain : toLower (rest.flatMap lowerChar) = rest.flatMap lowerChar :=
    lower_after_of_lowered [] fun _ => lowered_of_mem hrest
  rw [inflect_word_of_kept h, if_pos htitle, hlower, lower_after_of_no_capital [first] hrest, title,
    hback, hagain, List.singleton_append]

/-- A word of an inflector that leaves words alone comes back as it was exactly if all characters
behind its first are in lower case. -/
theorem inflect_word_eq_self_iff {inflect : String → String}
    (h : ∀ text, inflect text = text ∨ inflect text = "") {name before word : List Char}
    (hword : LastWord name before word) :
    inflectWord inflect word = word ↔
      ∀ c ∈ word.tail, isUpper c = false ∧ lowerChar c = [c] := by
  cases hword with
  | capital before first rest hfirst hrest =>
      rw [List.tail_cons]
      by_cases hplain : ∀ c ∈ rest, isUpper c = false
      · rw [inflect_word_title h hfirst hplain, List.cons_inj_right,
          flat_map_lower_eq_self_iff hplain]
        exact forall₂_congr fun c hc => (and_iff_right (hplain c hc)).symm
      · push Not at hplain
        obtain ⟨c, hc, hupper⟩ := hplain
        rw [Bool.ne_false_iff] at hupper
        refine iff_of_false (inflect_word_ne h hfirst hc hupper) fun hall => ?_
        rw [(hall c hc).1] at hupper
        cases hupper
  | small word hne hsmall =>
      exact iff_of_true (inflect_word_small h hsmall) fun c hc =>
        small_letter (hsmall c (List.mem_of_mem_tail hc))

/-- What an inflection makes of a name. -/
structure InflectsLastWord (inflect : String → String) (name result : String) : Prop where
  /-- A name that does not end in a word stays. -/
  wordless : (∀ before word, ¬ LastWord name.toList before word) → result = name
  /-- What stands before the last word stays. -/
  in_front : ∀ before word, LastWord name.toList before word → before <+: result.toList
  /-- If words are left alone, the name is left alone exactly where the characters of its last word
  behind the first one are in lower case. -/
  kept : (∀ word, inflect word = word ∨ inflect word = "") →
    (result = name ↔ ∀ before word, LastWord name.toList before word →
      ∀ c ∈ word.tail, isUpper c = false ∧ lowerChar c = [c])

/-- Inflecting a name changes its last word only. -/
theorem inflects_last_word (inflect : String → String) (name : String) :
    InflectsLastWord inflect name (inflectName inflect name) := by
  rw [inflectName]
  cases hsplit : lastWord? name.toList with
  | none =>
      have hnone : ∀ before word, ¬ LastWord name.toList before word := fun before word hword => by
        rw [last_word_of_last_word hword] at hsplit
        cases hsplit
      exact ⟨fun _ => rfl, fun before word hword => absurd hword (hnone before word),
        fun _ => iff_of_true rfl fun before word hword => absurd hword (hnone before word)⟩
  | some split =>
      obtain ⟨before, word⟩ := split
      have hword := last_word_eq_some_iff.mp hsplit
      have hunique : ∀ front last, LastWord name.toList front last → front = before ∧ last = word :=
        fun front last hother => by
          rw [last_word_of_last_word hother] at hsplit
          cases hsplit
          exact ⟨rfl, rfl⟩
      refine ⟨fun hnone => absurd hword (hnone before word), ?_, fun h => ?_⟩
      · intro front last hother
        rw [(hunique front last hother).1, String.toList_ofList]
        exact List.prefix_append before _
      · have hself : String.ofList (before ++ inflectWord inflect word) = name ↔
            inflectWord inflect word = word := by
          rw [← String.toList_inj, String.toList_ofList, ← hword.append_eq,
            List.append_cancel_left_eq]
        rw [hself, inflect_word_eq_self_iff h hword]
        constructor
        · intro hall front last hother
          rwa [(hunique front last hother).2]
        · exact fun hall => hall before word hword

/-- Whatever the inflector, the plural and the singular of a name differ from it in its last
camel-case word only, and not at all if it does not end in one. An inflector that leaves words alone
leaves the name alone exactly if the characters of that word behind the first one are no capitals
and are in lower case. -/
theorem inflection_leaves_name (inflector : Inflector) (name : String) :
    InflectsLastWord inflector.plural name (pluralize inflector name) ∧
      InflectsLastWord inflector.singular name (singularize inflector name) :=
  ⟨inflects_last_word inflector.plural name, inflects_last_word inflector.singular name⟩

/-- Letters beyond ASCII stay where they are in lower case, with and without an empty answer. -/
theorem cana_senor_left_alone :
    let inflector : Inflector := ⟨id, fun _ => ""⟩
    LastWord "cañaSeñor".toList "caña".toList "Señor".toList ∧
      (∀ word, inflector.plural word = word ∨ inflector.plural word = "") ∧
      (∀ word, inflector.singular word = word ∨ inflector.singular word = "") ∧
      pluralize inflector "cañaSeñor" = "cañaSeñor" ∧
      singularize inflector "cañaSeñor" = "cañaSeñor" := by
  intro inflector
  have hword : LastWord "cañaSeñor".toList "caña".toList "Señor".toList :=
    last_word_eq_some_iff.mp (by decide)
  have hlower : ∀ before word, LastWord "cañaSeñor".toList before word →
      ∀ c ∈ word.tail, isUpper c = false ∧ lowerChar c = [c] := by
    intro before word hother
    have hsplit := (last_word_of_last_word hword).symm.trans (last_word_of_last_word hother)
    cases hsplit
    simp only [String.reduceToList, List.tail_cons, List.mem_cons, List.not_mem_nil, or_false,
      forall_eq_or_imp, forall_eq]
    cbv
  obtain ⟨hplural, hsingular⟩ := inflection_leaves_name inflector "cañaSeñor"
  exact ⟨hword, fun _ => .inl rfl, fun _ => .inr rfl,
    (hplural.kept fun _ => .inl rfl).mpr hlower, (hsingular.kept fun _ => .inr rfl).mpr hlower⟩

/-- A second capital in a word, which is no ASCII letter, costs the word its first one, although the
inflector leaves all words alone. -/
theorem second_capital_loses_first :
    ¬ ∀ (inflector : Inflector) (name : String),
      (∀ word, inflector.plural word = word ∨ inflector.plural word = "") →
      (∀ word, inflector.singular word = word ∨ inflector.singular word = "") →
      pluralize inflector name = name ∧ singularize inflector name = name := by
  intro h
  have hname := (h ⟨id, id⟩ "NiÑo" (fun _ => .inl rfl) fun _ => .inl rfl).1
  have hlost : pluralize ⟨id, id⟩ "NiÑo" = "niño" := by decide +kernel
  rw [hlost] at hname
  exact absurd hname (by decide)

end Naming

end SheetWire
