import SheetWire.Proofs.Text.Marking

/-!
# What reading back recovers

Escaping and reading back are replacements made one after another over the whole text
(`escape_eq_replace`, `unescape_eq_replace`). None of them makes or destroys an occurrence of what
another one looks for, so each pair of them can be told in one pass. Reading an escaped text back
takes the author's backslash from every marked comma, and nothing else happens to the text exactly
if it holds no sentinel (`unescape_recovers_unmarked`).
-/

namespace SheetWire.Text

/-- A text with every occurrence of a pattern replaced, from left to right and without overlaps. The
pattern is not empty. -/
def replace (pattern new : List Char) : List Char → List Char
  | [] => []
  | c :: rest =>
      if pattern <+: c :: rest then new ++ replace pattern new (rest.drop (pattern.length - 1))
      else c :: replace pattern new rest
termination_by text => text.length
decreasing_by
  · simp only [List.length_drop, List.length_cons]
    omega
  · simp only [List.length_cons]
    omega

/-- A comma with the backslash of the author in front of it. -/
def markedComma : List Char :=
  ['\\', ',']

/-- A text with every marked comma replaced by a comma. -/
def unmark (text : List Char) : List Char :=
  replace markedComma [','] text

section Replacing

variable {pattern new front letters : List Char}

/-- Nothing is replaced in an empty text. -/
@[simp]
theorem replace_nil (pattern new : List Char) : replace pattern new [] = [] := by
  rw [replace]

/-- The pattern at the start of a text is replaced. -/
theorem replace_append (hpattern : pattern ≠ []) (new rest : List Char) :
    replace pattern new (pattern ++ rest) = new ++ replace pattern new rest := by
  obtain ⟨c, others, rfl⟩ := List.exists_cons_of_ne_nil hpattern
  have hleads : c :: others <+: c :: (others ++ rest) := List.prefix_append (c :: others) rest
  rw [List.cons_append, replace, if_pos hleads]
  simp

/-- A character at which the pattern does not start is left. -/
theorem replace_cons {c : Char} {rest : List Char} (h : ¬ pattern <+: c :: rest)
    (new : List Char) : replace pattern new (c :: rest) = c :: replace pattern new rest := by
  rw [replace, if_neg h]

/-- Letters that the pattern does not start with are left. -/
theorem replace_append_of_head (hpattern : pattern ≠ []) (h : ∀ c ∈ front, pattern.head? ≠ some c)
    (new rest : List Char) :
    replace pattern new (front ++ rest) = front ++ replace pattern new rest := by
  induction front with
  | nil => rfl
  | cons c front ih =>
      rw [List.forall_mem_cons] at h
      have hleads : ¬ pattern <+: c :: (front ++ rest) := by
        obtain ⟨first, more, rfl⟩ := List.exists_cons_of_ne_nil hpattern
        exact fun hleads => h.1 (congrArg some (List.cons_prefix_cons.mp hleads).1)
      rw [List.cons_append, replace_cons hleads, ih h.2, List.cons_append]

/-- Letters that neither the pattern nor what it is replaced by starts with stand at the start of a
text after the replacement exactly if they stand there before. -/
theorem prefix_replace_iff (hpattern : pattern ≠ []) (hnew : new ≠ [])
    (h : ∀ c ∈ letters, pattern.head? ≠ some c ∧ new.head? ≠ some c) (text : List Char) :
    letters <+: replace pattern new text ↔ letters <+: text := by
  induction letters generalizing text with
  | nil => simp
  | cons letter letters ih =>
      rw [List.forall_mem_cons] at h
      obtain ⟨⟨hfirst, hstart⟩, hrest⟩ := h
      cases text with
      | nil => rw [replace_nil]
      | cons c rest =>
          by_cases hc : pattern <+: c :: rest
          · -- Neither the pattern nor what replaces it starts with the first letter.
            obtain ⟨tail, htail⟩ := hc
            obtain ⟨first, more, rfl⟩ := List.exists_cons_of_ne_nil hpattern
            obtain ⟨start, others, rfl⟩ := List.exists_cons_of_ne_nil hnew
            rw [← htail, replace_append hpattern]
            simp only [List.cons_append, List.cons_prefix_cons]
            exact iff_of_false (fun hleads => hstart (congrArg some hleads.1.symm))
              (fun hleads => hfirst (congrArg some hleads.1.symm))
          · rw [replace_cons hc, List.cons_prefix_cons, List.cons_prefix_cons, ih hrest]

/-- Letters are not found across a part of the text that has none of them. -/
theorem infix_append_iff (hletters : letters ≠ []) (hfront : ∀ c ∈ front, c ∉ letters)
    (rest : List Char) : letters <:+: front ++ rest ↔ letters <:+: rest := by
  obtain ⟨letter, others, rfl⟩ := List.exists_cons_of_ne_nil hletters
  induction front with
  | nil => rfl
  | cons c front ih =>
      rw [List.forall_mem_cons] at hfront
      rw [List.cons_append, List.infix_cons_iff, ih hfront.2]
      refine or_iff_right fun hleads => hfront.1 ?_
      rw [(List.cons_prefix_cons.mp hleads).1]
      exact List.mem_cons_self

/-- Letters that neither the pattern nor what it is replaced by holds are found in a text after the
replacement exactly if they are found before. -/
theorem infix_replace_iff (hpattern : pattern ≠ []) (hnew : new ≠ []) (hletters : letters ≠ [])
    (h : ∀ c ∈ pattern ++ new, c ∉ letters) (text : List Char) :
    letters <:+: replace pattern new text ↔ letters <:+: text := by
  rw [List.forall_mem_append] at h
  have hheads : ∀ c ∈ letters, pattern.head? ≠ some c ∧ new.head? ≠ some c := by
    intro c hc
    exact ⟨fun hhead => h.1 c (List.mem_of_head? hhead) hc,
      fun hhead => h.2 c (List.mem_of_head? hhead) hc⟩
  induction text using replace.induct pattern with
  | case1 => rw [replace_nil]
  | case2 c rest hc ih =>
      obtain ⟨tail, htail⟩ := hc
      have hrest : rest.drop (pattern.length - 1) = tail := by
        obtain ⟨first, more, rfl⟩ := List.exists_cons_of_ne_nil hpattern
        obtain ⟨-, rfl⟩ := List.cons.inj htail
        exact List.drop_left
      rw [hrest] at ih
      rw [← htail, replace_append hpattern, infix_append_iff hletters h.2,
        infix_append_iff hletters h.1]
      exact ih
  | case3 c rest hc ih =>
      have hleads := prefix_replace_iff hpattern hnew hheads (c :: rest)
      rw [replace_cons hc] at hleads ⊢
      rw [List.infix_cons_iff, List.infix_cons_iff, hleads]
      exact or_congr_right ih

end Replacing

/-- A pattern does not start at a character if it is not the first one or the others do not follow
it. -/
theorem not_prefix_cons {first c : Char} {more rest : List Char}
    (h : ∀ tail, c = first → rest = more ++ tail → False) : ¬ first :: more <+: c :: rest := by
  intro hleads
  obtain ⟨hc, tail, htail⟩ := List.cons_prefix_cons.mp hleads
  exact h tail hc.symm htail.symm

/-! ### Escaping and reading back as replacements -/

/-- Escaping replaces the newlines and then the marked commas. -/
theorem escape_eq_replace (text : List Char) :
    escape text = replace markedComma commaSentinel (replace ['\n'] newlineSentinel text) := by
  induction text using escape.induct with
  | case1 => simp [escape]
  | case2 rest ih =>
      have hnewline : replace ['\n'] newlineSentinel ('\n' :: rest) =
          newlineSentinel ++ replace ['\n'] newlineSentinel rest :=
        replace_append (List.cons_ne_nil _ _) _ rest
      have hsentinel : ∀ c ∈ newlineSentinel, markedComma.head? ≠ some c := by
        simp [newlineSentinel, markedComma]
      rw [escape, ih, hnewline, replace_append_of_head (by simp [markedComma]) hsentinel]
  | case3 rest ih =>
      have hcomma : ∀ c ∈ markedComma, ['\n'].head? ≠ some c := by simp [markedComma]
      have hmarked : replace ['\n'] newlineSentinel ('\\' :: ',' :: rest) =
          markedComma ++ replace ['\n'] newlineSentinel rest :=
        replace_append_of_head (List.cons_ne_nil _ _) hcomma _ rest
      rw [escape, ih, hmarked, replace_append (by simp [markedComma])]
  | case4 c rest hnewline hmarked ih =>
      have hfirst : ¬ ['\n'] <+: c :: rest := fun h => hnewline (List.cons_prefix_cons.mp h).1.symm
      -- No comma comes to stand behind a backslash by replacing newlines.
      have hcomma : ¬ markedComma <+: c :: replace ['\n'] newlineSentinel rest := by
        intro hleads
        obtain ⟨rfl, hrest⟩ := List.cons_prefix_cons.mp hleads
        rw [prefix_replace_iff (by simp) (by simp [newlineSentinel])
          (by simp [newlineSentinel])] at hrest
        obtain ⟨tail, rfl⟩ := hrest
        exact hmarked tail rfl rfl
      rw [escape, ih, replace_cons hfirst, replace_cons hcomma]
      · exact hnewline
      · exact hmarked

/-- Reading back replaces the sentinels of newlines and then those of commas. -/
theorem unescape_eq_replace (text : List Char) :
    unescape text = replace commaSentinel [','] (replace newlineSentinel ['\n'] text) := by
  induction text using unescape.induct with
  | case1 => simp [unescape]
  | case2 rest ih =>
      have hsentinel : replace newlineSentinel ['\n'] (';' :: 'l' :: '/' :: '~' :: rest) =
          ['\n'] ++ replace newlineSentinel ['\n'] rest :=
        replace_append (List.cons_ne_nil _ _) _ rest
      have hnewline : ∀ c ∈ ['\n'], commaSentinel.head? ≠ some c := by simp [commaSentinel]
      rw [unescape, ih, hsentinel, replace_append_of_head (by simp [commaSentinel]) hnewline]
      rfl
  | case3 rest ih =>
      have hcomma : ∀ c ∈ commaSentinel, newlineSentinel.head? ≠ some c := by
        simp [commaSentinel, newlineSentinel]
      have hsentinel : replace newlineSentinel ['\n'] (':' :: 'l' :: '/' :: '~' :: rest) =
          commaSentinel ++ replace newlineSentinel ['\n'] rest :=
        replace_append_of_head (by simp [newlineSentinel]) hcomma _ rest
      rw [unescape, ih, hsentinel, replace_append (by simp [commaSentinel])]
      rfl
  | case4 c rest hnewline hcomma ih =>
      have hfirst : ¬ newlineSentinel <+: c :: rest := not_prefix_cons hnewline
      -- What stands behind a colon is not made a sentinel by replacing others.
      have hsecond : ¬ commaSentinel <+: c :: replace newlineSentinel ['\n'] rest := by
        intro hleads
        obtain ⟨rfl, hrest⟩ := List.cons_prefix_cons.mp hleads
        rw [prefix_replace_iff (by simp [newlineSentinel]) (by simp)
          (by simp [newlineSentinel])] at hrest
        obtain ⟨tail, rfl⟩ := hrest
        exact hcomma tail rfl rfl
      rw [unescape, ih, replace_cons hfirst, replace_cons hsecond]
      · exact hnewline
      · exact hcomma

/-! ### Escaped texts -/

/-- A text is left as it is by escaping if there is nothing to escape in it. -/
theorem escape_of_not_infix {text : List Char} (hnewline : '\n' ∉ text)
    (hmarked : ¬ markedComma <:+: text) : escape text = text := by
  induction text using escape.induct with
  | case1 => rfl
  | case2 rest ih => exact absurd List.mem_cons_self hnewline
  | case3 rest ih => exact absurd (List.prefix_append markedComma rest).isInfix hmarked
  | case4 c rest hc hcomma ih =>
      rw [escape, ih]
      · exact fun h => hnewline (List.mem_cons_of_mem c h)
      · exact fun h => hmarked (h.trans (List.suffix_cons c rest).isInfix)
      · exact hc
      · exact hcomma

/-- Letters that escaping does not touch stand at the start of an escaped text exactly if they stand
there before. -/
theorem prefix_escape_iff {letters : List Char}
    (h : ∀ c ∈ letters, c ≠ '\n' ∧ c ≠ '\\' ∧ c ≠ ';' ∧ c ≠ ':') (text : List Char) :
    letters <+: escape text ↔ letters <+: text := by
  rw [escape_eq_replace, prefix_replace_iff (by simp [markedComma]) (by simp [commaSentinel]),
    prefix_replace_iff (by simp) (by simp [newlineSentinel])]
  · intro c hc
    simpa [newlineSentinel, eq_comm] using ⟨(h c hc).1, (h c hc).2.2.1⟩
  · intro c hc
    simpa [markedComma, commaSentinel, eq_comm] using ⟨(h c hc).2.1, (h c hc).2.2.2⟩

/-- No marked comma is left by escaping. -/
theorem not_infix_escape (text : List Char) : ¬ markedComma <:+: escape text := by
  induction text using escape.induct with
  | case1 => simp [escape, markedComma]
  | case2 rest ih =>
      rwa [escape, infix_append_iff (by simp [markedComma])
        (by simp [newlineSentinel, markedComma])]
  | case3 rest ih =>
      rwa [escape, infix_append_iff (by simp [markedComma]) (by simp [commaSentinel, markedComma])]
  | case4 c rest hnewline hmarked ih =>
      rw [escape, List.infix_cons_iff, not_or]
      · refine ⟨fun hleads => ?_, ih⟩
        obtain ⟨rfl, hrest⟩ := List.cons_prefix_cons.mp hleads
        rw [prefix_escape_iff (by simp)] at hrest
        obtain ⟨tail, rfl⟩ := hrest
        exact hmarked tail rfl rfl
      · exact hnewline
      · exact hmarked

/-! ### Reading back -/

/-- Reading back leaves a text as it is exactly if it holds no sentinel. -/
theorem unescape_eq_self_iff (text : List Char) :
    unescape text = text ↔ ¬ newlineSentinel <:+: text ∧ ¬ commaSentinel <:+: text := by
  induction text using unescape.induct with
  | case1 => simp [unescape, newlineSentinel, commaSentinel]
  | case2 rest ih =>
      refine iff_of_false (fun h => ?_) fun h =>
        h.1 (List.prefix_append newlineSentinel rest).isInfix
      rw [unescape] at h
      exact absurd (List.cons.inj h).1 (by decide)
  | case3 rest ih =>
      refine iff_of_false (fun h => ?_) fun h => h.2 (List.prefix_append commaSentinel rest).isInfix
      rw [unescape] at h
      exact absurd (List.cons.inj h).1 (by decide)
  | case4 c rest hnewline hcomma ih =>
      have hfirst : ¬ newlineSentinel <+: c :: rest := not_prefix_cons hnewline
      have hsecond : ¬ commaSentinel <+: c :: rest := not_prefix_cons hcomma
      rw [unescape, List.cons.injEq, and_iff_right rfl, ih, List.infix_cons_iff,
        List.infix_cons_iff, or_iff_right hfirst, or_iff_right hsecond]
      · exact hnewline
      · exact hcomma

/-- How a character is read back depends only on whether the letters of a sentinel follow it. -/
theorem unescape_cons_congr (c : Char) {rest others : List Char}
    (h : unescape rest = unescape others)
    (hletters : ['l', '/', '~'] <+: rest ↔ ['l', '/', '~'] <+: others) :
    unescape (c :: rest) = unescape (c :: others) := by
  -- Where no sentinel starts at the character, it stays in front of what follows.
  have hkept : ∀ {text : List Char}, (['l', '/', '~'] <+: text → c ≠ ';' ∧ c ≠ ':') →
      unescape (c :: text) = c :: unescape text := by
    intro text htext
    refine unescape_cons (fun tail hsentinel => ?_) fun tail hsentinel => ?_
    · obtain ⟨hc, rfl⟩ := List.cons.inj hsentinel
      exact (htext (List.prefix_append _ tail)).1 hc
    · obtain ⟨hc, rfl⟩ := List.cons.inj hsentinel
      exact (htext (List.prefix_append _ tail)).2 hc
  by_cases hsentinel : ['l', '/', '~'] <+: rest ∧ (c = ';' ∨ c = ':')
  · obtain ⟨hrest, hc⟩ := hsentinel
    obtain ⟨back, rfl⟩ := hletters.mp hrest
    obtain ⟨tail, rfl⟩ := hrest
    have htail : unescape tail = unescape back := by simpa [unescape] using h
    rcases hc with rfl | rfl
    · simp [unescape, htail]
    · simp [unescape, htail]
  · have hrest : ['l', '/', '~'] <+: rest → c ≠ ';' ∧ c ≠ ':' :=
      fun hleads => not_or.mp fun hc => hsentinel ⟨hleads, hc⟩
    rw [hkept hrest, hkept fun hleads => hrest (hletters.mpr hleads), h]

/-- A marked comma in front is replaced. -/
theorem unmark_marked (rest : List Char) : unmark ('\\' :: ',' :: rest) = ',' :: unmark rest :=
  replace_append (List.cons_ne_nil _ _) _ rest

/-- Reading back cannot tell an escaped text from one whose marked commas are replaced. -/
theorem unescape_escape (text : List Char) : unescape (escape text) = unescape (unmark text) := by
  induction text using escape.induct with
  | case1 => simp [escape, unmark]
  | case2 rest ih =>
      have hfirst : ¬ markedComma <+: '\n' :: rest := by simp [markedComma]
      rw [escape, unmark, replace_cons hfirst, ← unmark]
      simpa [unescape, newlineSentinel] using ih
  | case3 rest ih =>
      rw [escape, unmark_marked]
      simpa [unescape, commaSentinel] using ih
  | case4 c rest hnewline hmarked ih =>
      have hfirst : ¬ markedComma <+: c :: rest := not_prefix_cons hmarked
      rw [unmark, replace_cons hfirst, ← unmark, escape]
      · refine unescape_cons_congr c ih ?_
        rw [prefix_escape_iff (by simp), unmark, prefix_replace_iff (by simp [markedComma])
          (by simp) (by simp [markedComma])]
      · exact hnewline
      · exact hmarked

/-- Reading an escaped text back does no more than replace the marked commas exactly if the text
holds no sentinel. -/
theorem unescape_escape_eq_unmark_iff (text : List Char) :
    unescape (escape text) = unmark text ↔
      ¬ newlineSentinel <:+: text ∧ ¬ commaSentinel <:+: text := by
  have hnewline : newlineSentinel <:+: unmark text ↔ newlineSentinel <:+: text :=
    infix_replace_iff (by simp [markedComma]) (by simp) (by simp [newlineSentinel])
      (by simp [markedComma, newlineSentinel]) text
  have hcomma : commaSentinel <:+: unmark text ↔ commaSentinel <:+: text :=
    infix_replace_iff (by simp [markedComma]) (by simp) (by simp [commaSentinel])
      (by simp [markedComma, commaSentinel]) text
  rw [unescape_escape, unescape_eq_self_iff, hnewline, hcomma]

/-- Escaping leaves nothing to escape, so doing it again does nothing. Reading back then takes the
backslashes from the marked commas, and does nothing else exactly if the text holds no sentinel. -/
theorem unescape_recovers_unmarked (text : List Char) :
    '\n' ∉ escape text ∧ ¬ markedComma <:+: escape text ∧ escape (escape text) = escape text ∧
      unescape (escape text) = unescape (unmark text) ∧
      (unescape (escape text) = unmark text ↔
        ¬ newlineSentinel <:+: text ∧ ¬ commaSentinel <:+: text) := by
  have hnewline := newline_notMem_escape text
  have hmarked := not_infix_escape text
  exact ⟨hnewline, hmarked, escape_of_not_infix hnewline hmarked, unescape_escape text,
    unescape_escape_eq_unmark_iff text⟩

end SheetWire.Text
