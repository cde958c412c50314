import SheetWire.Proofs.Definition.Scanning

/-!
# Definitions as rows of tokens

Scanning cuts a text into tokens without a gap (`Partition`), or it stops at the first part that is
no token (`Stray`). Which of the two happens can be told from the text alone: it is scanned exactly
if it is made up of token texts with no word in front of a word character (`scan_partitions`). What
a scan has found is told by a relation (`Scans`) that grows token by token, and every scan ends at
the end of the text or where it stops (`exists_scans`).
-/

namespace SheetWire

open Text

/-- The bytes of a text are counted character by character. -/
theorem Reader.byte_size_eq (text : List Char) :
    byteSize text = (String.ofList text).utf8ByteSize := by
  rw [String.utf8ByteSize_ofList]
  induction text with
  | nil => rfl
  | cons c rest ih =>
      show c.utf8Size + byteSize rest = _
      rw [ih, String.utf8Len_cons, Nat.add_comm]

/-- The texts that are cut off a definition: words, words with a `<` behind them, and marks. -/
inductive IsLexeme : List Char → Prop where
  | word {text : List Char} : text ≠ [] → text.all isWord = true → IsLexeme text
  | opener {word : List Char} :
      word ≠ [] → word.all isWord = true → IsLexeme (word ++ ['<'])
  | mark {c : Char} : Token.isMark c = true → IsLexeme [c]

namespace Token

/-- A word with a `<` behind it is cut off together with it. -/
theorem lexeme_opener {word : List Char} (hne : word ≠ []) (hword : word.all isWord = true)
    (rest : List Char) : lexeme? (word ++ '<' :: rest) = some (word ++ ['<'], rest) := by
  obtain ⟨c, others, rfl⟩ := List.exists_cons_of_ne_nil hne
  rw [List.all_cons, Bool.and_eq_true, List.all_eq_true] at hword
  have hopen : ∀ d ∈ ('<' :: rest).head?, isWord d = false := by
    rintro d ⟨⟩
    decide
  obtain ⟨htake, hdrop⟩ := span_word hword.2 hopen
  rw [List.cons_append, lexeme?, if_pos hword.1, hdrop, htake]
  rfl

/-- A mark is cut off alone. -/
theorem lexeme_mark {c : Char} (hc : isMark c = true) (rest : List Char) :
    lexeme? (c :: rest) = some ([c], rest) := by
  rw [lexeme?, (not_word_of_mark hc).1, if_neg Bool.false_ne_true, if_pos hc]

/-- What is cut off is a mark, a word with a `<` behind it, or a word that ends there. -/
theorem lexeme_cases {text lexeme rest : List Char} (h : lexeme? text = some (lexeme, rest)) :
    (∃ c, isMark c = true ∧ lexeme = [c]) ∨
      (∃ word, word ≠ [] ∧ word.all isWord = true ∧ lexeme = word ++ ['<']) ∨
      (lexeme ≠ [] ∧ lexeme.all isWord = true ∧ EndsWord rest) := by
  cases text with
  | nil => cases h
  | cons c tail =>
      rw [lexeme?] at h
      split at h
      · rename_i hc
        have hall : (c :: tail.takeWhile isWord).all isWord = true := by
          rw [List.all_cons, hc, List.all_takeWhile]
          rfl
        split at h
        · cases h
          exact .inr (.inl ⟨c :: tail.takeWhile isWord, List.cons_ne_nil _ _, hall, rfl⟩)
        · rename_i hopen
          cases h
          refine .inr (.inr ⟨List.cons_ne_nil _ _, hall, ?_⟩)
          intro d hd
          have hstop := List.head?_dropWhile_not isWord tail
          rw [hd] at hstop
          refine ⟨hstop, ?_⟩
          rintro rfl
          exact hopen _ (List.cons_head?_tail hd).symm
      · split at h
        · rename_i hmark
          cases h
          exact .inl ⟨c, hmark, rfl⟩
        · cases h

/-- A word that is cut off does not go on behind it. -/
theorem ends_word_of_cut {text lexeme rest : List Char} (h : lexeme? text = some (lexeme, rest))
    (hword : lexeme.all isWord = true) : EndsWord rest := by
  rcases lexeme_cases h with ⟨c, hc, rfl⟩ | ⟨word, hne, -, rfl⟩ | ⟨hne, -, hends⟩
  · rw [List.all_cons, (not_word_of_mark hc).1] at hword
    exact nomatch hword
  · rw [List.all_append, Bool.and_eq_true] at hword
    exact absurd hword.2 (by decide)
  · exact hends

/-- The same is cut off where less of the text stands behind it. -/
theorem lexeme_before {text lexeme front back : List Char}
    (h : lexeme? text = some (lexeme, front ++ back)) :
    lexeme? (lexeme ++ front) = some (lexeme, front) := by
  rcases lexeme_cases h with ⟨c, hc, rfl⟩ | ⟨word, hne, hword, rfl⟩ | ⟨hne, hword, hends⟩
  · exact lexeme_mark hc front
  · rw [List.append_assoc]
    exact lexeme_opener hne hword front
  · refine lexeme_word hne hword fun c hc => hends c ?_
    rw [List.head?_append, hc]
    rfl

end Token

/-- Whether a lexeme stands at the start of a text. -/
def BeginsLexeme (text : List Char) : Prop :=
  ∃ lexeme, IsLexeme lexeme ∧ lexeme <+: text

/-- A lexeme stands at the start of a text if the first character starts one. -/
theorem begins_lexeme_cons {c : Char} {rest : List Char} :
    BeginsLexeme (c :: rest) ↔ Token.startsLexeme c = true := by
  rw [Token.startsLexeme, Bool.or_eq_true]
  constructor
  · rintro ⟨lexeme, hlexeme, hleads⟩
    cases hlexeme with
    | word hne hword =>
        obtain ⟨d, others, rfl⟩ := List.exists_cons_of_ne_nil hne
        rw [List.all_cons, Bool.and_eq_true] at hword
        exact .inl ((List.cons_prefix_cons.mp hleads).1 ▸ hword.1)
    | opener hne hword =>
        obtain ⟨d, others, rfl⟩ := List.exists_cons_of_ne_nil hne
        rw [List.all_cons, Bool.and_eq_true] at hword
        exact .inl ((List.cons_prefix_cons.mp hleads).1 ▸ hword.1)
    | mark hmark => exact .inr ((List.cons_prefix_cons.mp hleads).1 ▸ hmark)
  · have hleads : [c] <+: c :: rest := List.prefix_append [c] rest
    rintro (hword | hmark)
    · exact ⟨[c], .word (List.cons_ne_nil c []) (by simp [hword]), hleads⟩
    · exact ⟨[c], .mark hmark, hleads⟩

/-- No lexeme stands at the start of an empty text. -/
theorem not_begins_lexeme_nil : ¬ BeginsLexeme [] := by
  rintro ⟨lexeme, hlexeme, hleads⟩
  rw [List.prefix_nil] at hleads
  cases hlexeme with
  | word hne _ => exact hne hleads
  | opener _ _ => simp at hleads
  | mark _ => simp at hleads

/-- Nothing is cut off a text at whose start no lexeme stands. -/
theorem Token.lexeme_eq_none {text : List Char} : lexeme? text = none ↔ ¬ BeginsLexeme text := by
  cases text with
  | nil => exact iff_of_true rfl not_begins_lexeme_nil
  | cons c rest =>
      rw [begins_lexeme_cons, startsLexeme, Bool.or_eq_true, not_or, lexeme?]
      split
      · rename_i hc
        exact iff_of_false (by split <;> exact Option.some_ne_none _) fun h => h.1 hc
      · rename_i hc
        split
        · rename_i hmark
          exact iff_of_false (Option.some_ne_none _) fun h => h.2 hmark
        · rename_i hmark
          exact iff_of_true rfl ⟨hc, hmark⟩

/-- Whether no lexeme stands at any of the first places of a text. -/
def FreeOfLexemes (count : Nat) (text : List Char) : Prop :=
  ∀ place < count, ¬ BeginsLexeme (text.drop place)

/-- The longest run at the start of a text in which no lexeme begins. -/
structure LongestStray (run text : List Char) : Prop where
  front : run <+: text
  free : FreeOfLexemes run.length text
  longest : ∀ count ≤ text.length, FreeOfLexemes count text → count ≤ run.length

/-- Characters that start no lexeme in front of one that does are the longest run in which none
begins. -/
theorem longest_stray {run rest : List Char} (hrun : ∀ c ∈ run, Token.startsLexeme c = false)
    (hrest : ∀ c ∈ rest.head?, Token.startsLexeme c = true) : LongestStray run (run ++ rest) := by
  refine ⟨List.prefix_append run rest, fun place hplace => ?_, fun count hcount hfree => ?_⟩
  · obtain ⟨c, tail, htail⟩ :=
      List.exists_cons_of_ne_nil (List.drop_eq_nil_iff.not.mpr hplace.not_ge)
    have hc : c ∈ run := List.mem_of_mem_drop (htail ▸ List.mem_cons_self)
    rw [List.drop_append_of_le_length hplace.le, htail, List.cons_append, begins_lexeme_cons,
      hrun c hc]
    exact Bool.false_ne_true
  · by_contra hlonger
    have hbegins := hfree run.length (by omega)
    rw [List.drop_left] at hbegins
    cases rest with
    | nil =>
        rw [List.append_nil] at hcount
        exact hlonger hcount
    | cons c rest => exact hbegins (begins_lexeme_cons.mpr (hrest c rfl))

/-! ### What the scanner has found -/

/-- The texts of tokens one after another. -/
def Token.join (tokens : List Token) : String :=
  String.join (tokens.map text)

/-- Whether a scan that starts at a column of a text has found some tokens when a rest is left. -/
inductive Scans : Nat → List Char → List Token → List Char → Prop where
  | start (column : Nat) (text : List Char) : Scans column text [] text
  | step {column : Nat} {text lexeme after rest : List Char} {kind : TokenKind}
      {found : List Token} :
      Token.lexeme? text = some (lexeme, after) → TokenKind.ofLexeme? lexeme = some kind →
      Scans (column + Reader.byteSize lexeme) after found rest →
      Scans column text (⟨kind, String.ofList lexeme, column⟩ :: found) rest

/-- Whether a text is a word with a `<` behind it that opens no type. -/
def UnknownOpener (text : String) : Prop :=
  ∃ word : String, word ≠ "" ∧ word.toList.all isWord = true ∧ text = word ++ "<" ∧
    text ∉ ["List<", "Map<", "Struct<", "Enum<"]

/-- Whether a second text may follow a first one: a word is not followed by a word character. -/
def Apart (first second : String) : Prop :=
  first.toList.all isWord = true → ∀ c ∈ second.toList.head?, isWord c = false

namespace Scans

variable {column : Nat} {text rest : List Char} {found : List Token}

/-- The tokens that were found and what is left make up the text. -/
theorem join_append (h : Scans column text found rest) :
    (Token.join found).toList ++ rest = text := by
  induction h with
  | start column text => rfl
  | step hlexeme _ _ ih =>
      rw [← Token.lexeme_append hlexeme, ← ih]
      simp [Token.join]

/-- The text of a token that was found is one that its kind admits. -/
theorem admits (h : Scans column text found rest) :
    ∀ token ∈ found, token.kind.Admits token.text := by
  induction h with
  | start column text => exact fun token htoken => absurd htoken List.not_mem_nil
  | step _ hkind _ ih =>
      refine List.forall_mem_cons.mpr ⟨TokenKind.of_lexeme_eq_some.mp ?_, ih⟩
      rwa [String.toList_ofList]

/-- The column of a token that was found counts the bytes of the tokens before it. -/
theorem column_eq (h : Scans column text found rest) :
    ∀ before token after, found = before ++ token :: after →
      token.column = column + (Token.join before).utf8ByteSize := by
  induction h with
  | start column text => exact fun before token after hfound => absurd hfound (by simp)
  | @step column text lexeme _ _ kind found hlexeme hkind hscans ih =>
      intro before token after hfound
      cases before with
      | nil =>
          obtain ⟨rfl, -⟩ := List.cons.inj hfound
          rfl
      | cons first before =>
          obtain ⟨rfl, htail⟩ := List.cons.inj hfound
          rw [ih before token after htail, Reader.byte_size_eq]
          simp [Token.join, Nat.add_assoc]

/-- No word was found directly in front of a word character. -/
theorem apart (h : Scans column text found rest) :
    found.IsChain fun token next => Apart token.text next.text := by
  induction h with
  | start column text => exact .nil
  | @step column text lexeme after rest kind found hlexeme hkind hscans ih =>
      cases hscans with
      | start _ _ => exact .singleton _
      | @step _ _ lexeme' after' _ kind' found' hlexeme' _ _ =>
          refine .cons_cons (fun hword c hc => ?_) ih
          rw [String.toList_ofList] at hword hc
          refine (Token.ends_word_of_cut hlexeme hword c ?_).1
          rw [← Token.lexeme_append hlexeme', List.head?_append, hc]
          rfl

/-- What was found is found again in the text without what is left, and nothing else. -/
theorem alone (h : Scans column text found rest) {front back : List Char}
    (hrest : rest = front ++ back) :
    Scans column ((Token.join found).toList ++ front) found front := by
  induction h with
  | start column text => exact .start column front
  | @step column text lexeme after rest kind found hlexeme hkind hscans ih =>
      have hafter := hscans.join_append
      rw [hrest, ← List.append_assoc] at hafter
      rw [← hafter] at hlexeme
      have hstep := Scans.step (Token.lexeme_before hlexeme) hkind (ih hrest)
      simpa [Token.join] using hstep

end Scans

/-- Whether a scan stops at the start of a text with a stray part of it. -/
def StopsAt (text stray : List Char) : Prop :=
  (∃ rest, Token.lexeme? text = some (stray, rest) ∧ TokenKind.ofLexeme? stray = none) ∨
    Token.lexeme? text = none ∧ text ≠ [] ∧ stray = text.takeWhile fun c => !Token.startsLexeme c

namespace Token

variable {text stray : List Char}

/-- A stray part of the text is reported where it starts. -/
theorem scan_stray (h : StopsAt text stray) (column : Nat) :
    scanFrom column text = .error (.lex (String.ofList stray) column) := by
  rw [scanFrom]
  split
  · rename_i other after hother
    rcases h with ⟨rest, hlexeme, hkind⟩ | ⟨hnone, -, -⟩
    · cases hlexeme.symm.trans hother
      rw [hkind]
      rfl
    · exact nomatch hnone.symm.trans hother
  · rename_i hnone
    rcases h with ⟨rest, hlexeme, hkind⟩ | ⟨-, hne, rfl⟩
    · exact nomatch hlexeme.symm.trans hnone
    · rw [if_neg hne]
      rfl

end Token

/-- A scan goes on with what is left. -/
theorem Scans.scan_eq {column : Nat} {text rest : List Char} {found : List Token}
    (h : Scans column text found rest) :
    Token.scanFrom column text =
      (Token.scanFrom (column + (Token.join found).utf8ByteSize) rest).map (found ++ ·) := by
  induction h with
  | start column text =>
      show _ = (Token.scanFrom column text).map id
      cases Token.scanFrom column text <;> rfl
  | @step column text lexeme after rest kind found hlexeme hkind hscans ih =>
      have hsize : column + Reader.byteSize lexeme + (Token.join found).utf8ByteSize =
          column + (Token.join (⟨kind, String.ofList lexeme, column⟩ :: found)).utf8ByteSize := by
        simp [Token.join, Reader.byte_size_eq, Nat.add_assoc]
      rw [Token.scan_step hlexeme hkind, ih, hsize]
      cases Token.scanFrom _ rest <;> rfl

/-- A scan finds tokens until nothing is left or it stops at a stray part of the text. -/
theorem exists_scans (column : Nat) (text : List Char) :
    ∃ found rest, Scans column text found rest ∧ (rest = [] ∨ ∃ stray, StopsAt rest stray) := by
  induction hlength : text.length using Nat.strong_induction_on generalizing text column with
  | _ length ih =>
      cases hlexeme : Token.lexeme? text with
      | none =>
          refine ⟨[], text, .start column text, ?_⟩
          by_cases hne : text = []
          · exact .inl hne
          · exact .inr ⟨_, .inr ⟨hlexeme, hne, rfl⟩⟩
      | some cut =>
          obtain ⟨lexeme, after⟩ := cut
          cases hkind : TokenKind.ofLexeme? lexeme with
          | none =>
              exact ⟨[], text, .start column text, .inr ⟨lexeme, .inl ⟨after, hlexeme, hkind⟩⟩⟩
          | some kind =>
              have hshorter := Token.length_after_lexeme hlexeme
              obtain ⟨found, rest, hscans, hrest⟩ := ih _ (by omega) (column + _) after rfl
              exact ⟨_, rest, .step hlexeme hkind hscans, hrest⟩

/-- The tokens of a text that is scanned: they make up the text, the end of the definition is the
last of them and no other, each has a text that its kind admits and the column at which it starts,
and no word stands directly in front of a word character. -/
structure Partition (text : String) (tokens : List Token) : Prop where
  texts : Token.join tokens = text
  ending : ∃ before, tokens = before ++ [⟨.endOfDefinition, "", text.utf8ByteSize + 1⟩] ∧
    ∀ token ∈ before, token.kind.Admits token.text
  columns : ∀ before token after, tokens = before ++ token :: after →
    token.column = (Token.join before).utf8ByteSize + 1
  apart : tokens.IsChain fun token next => Apart token.text next.text

/-- A stray part of a text that is not scanned: what stands before it is scanned alone and gives the
tokens that were found before the error, and it is an unknown opener or the longest run in which no
lexeme begins. -/
structure Stray (text stray : String) (column : Nat) : Prop where
  nonempty : stray ≠ ""
  place : ∃ before after found, text = before ++ stray ++ after ∧
    column = before.utf8ByteSize + 1 ∧
    Scans 1 text.toList found (stray ++ after).toList ∧
    Token.scan before = .ok (found ++ [⟨.endOfDefinition, "", column⟩]) ∧
    (UnknownOpener stray ∨ LongestStray stray.toList (stray ++ after).toList)

/-- The texts of tokens, none of them a word in front of a word character. -/
structure Separated (texts : List String) : Prop where
  admitted : ∀ text ∈ texts, ∃ kind : TokenKind, kind.Admits text
  apart : texts.IsChain Apart

namespace TokenKind

variable {kind : TokenKind} {text : String}

/-- A text that a kind admits is a word or the single text of the kind. -/
theorem Admits.word_or_fixed (h : kind.Admits text) :
    text ≠ "" ∧ text.toList.all isWord = true ∨ kind.fixedText? = some text := by
  cases kind with
  | primitiveKeyword =>
      obtain ⟨primitive, rfl⟩ := h
      exact .inl ⟨by cases primitive <;> decide, by cases primitive <;> decide⟩
  | identifier => exact .inl ⟨h.nonempty, h.word⟩
  | number => exact .inl ⟨h.1, all_is_word_of_digits h.2⟩
  | _ => exact .inr h

/-- Every word is admitted by a kind. -/
theorem exists_admits_of_word (hne : text ≠ "") (hword : text.toList.all isWord = true) :
    ∃ kind : TokenKind, kind.Admits text := by
  by_cases hkeyword : ∃ primitive : Primitive, primitive.keyword = text
  · exact ⟨.primitiveKeyword, hkeyword⟩
  · by_cases hdigits : text.toList.all isDigit = true
    · exact ⟨.number, hne, hdigits⟩
    · exact ⟨.identifier, hne, hword, not_exists.mp hkeyword, Bool.eq_false_of_not_eq_true hdigits⟩

/-- A text that a kind admits starts a lexeme. -/
theorem Admits.starts (h : kind.Admits text) :
    ∃ c rest, text.toList = c :: rest ∧ Token.startsLexeme c = true := by
  rcases h.word_or_fixed with ⟨hne, hword⟩ | hfixed
  · rw [Ne, ← String.toList_eq_nil_iff] at hne
    obtain ⟨c, rest, htext⟩ := List.exists_cons_of_ne_nil hne
    rw [htext, List.all_cons, Bool.and_eq_true] at hword
    exact ⟨c, rest, htext, by rw [Token.startsLexeme, hword.1, Bool.true_or]⟩
  · cases kind <;> cases hfixed <;> exact ⟨_, _, rfl, by decide⟩

/-- A text that a kind admits is cut off where it does not go on. -/
theorem Admits.lexeme {rest : List Char} (h : kind.Admits text)
    (hrest : text.toList.all isWord = true → EndsWord rest) :
    Token.lexeme? (text.toList ++ rest) = some (text.toList, rest) := by
  rcases h.word_or_fixed with ⟨hne, hword⟩ | hfixed
  · exact Token.lexeme_word (String.toList_eq_nil_iff.not.mpr hne) hword (hrest hword)
  · exact Token.lexeme_sign hfixed rest

/-- A lexeme that is no token is an unknown opener. -/
theorem unknown_opener {stray rest text : List Char}
    (hlexeme : Token.lexeme? text = some (stray, rest)) (hkind : ofLexeme? stray = none) :
    UnknownOpener (String.ofList stray) := by
  have hnone : ∀ kind : TokenKind, ¬ kind.Admits (String.ofList stray) := by
    intro kind hadmits
    rw [← of_lexeme_eq_some, String.toList_ofList, hkind] at hadmits
    exact nomatch hadmits
  rcases Token.lexeme_cases hlexeme with ⟨c, hc, rfl⟩ | ⟨word, hne, hword, rfl⟩ | ⟨hne, hword, -⟩
  · unfold Token.isMark at hc
    simp only [Bool.or_eq_true, beq_iff_eq] at hc
    rcases hc with (rfl | rfl) | rfl
    · exact absurd rfl (hnone .closingBracket)
    · exact absurd rfl (hnone .comma)
    · exact absurd rfl (hnone .referenceMark)
  · refine ⟨String.ofList word, by simpa using hne, by simpa using hword, by simp, ?_⟩
    intro hopener
    simp only [List.mem_cons, List.not_mem_nil, or_false] at hopener
    rcases hopener with h | h | h | h
    · exact hnone .beginList (congrArg some h.symm)
    · exact hnone .beginDictionary (congrArg some h.symm)
    · exact hnone .beginStruct (congrArg some h.symm)
    · exact hnone .beginEnum (congrArg some h.symm)
  · have hword' : (String.ofList stray).toList.all isWord = true := by
      rwa [String.toList_ofList]
    obtain ⟨kind, hadmits⟩ := exists_admits_of_word (by simpa using hne) hword'
    exact absurd hadmits (hnone kind)

end TokenKind

/-- Texts of tokens, none of them a word in front of a word character, are found one by one. -/
theorem exists_scans_of_separated {texts : List String} (h : Separated texts) (column : Nat) :
    ∃ found, Scans column (String.join texts).toList found [] := by
  induction texts generalizing column with
  | nil => exact ⟨[], .start column []⟩
  | cons text texts ih =>
      obtain ⟨hadmitted, hapart⟩ := h
      rw [List.forall_mem_cons] at hadmitted
      obtain ⟨⟨kind, hkind⟩, hothers⟩ := hadmitted
      obtain ⟨found, hfound⟩ := ih ⟨hothers, hapart.tail⟩ (column + Reader.byteSize text.toList)
      have hends : text.toList.all isWord = true → EndsWord (String.join texts).toList := by
        intro hword c hc
        cases texts with
        | nil => exact nomatch hc
        | cons next texts =>
            -- The next text starts a lexeme, which a `<` does not.
            obtain ⟨other, hother⟩ := hothers next List.mem_cons_self
            obtain ⟨d, rest, hnext, hstarts⟩ := hother.starts
            rw [String.toList_join, List.flatMap_cons, hnext] at hc
            cases hc
            refine ⟨(List.isChain_cons_cons.mp hapart).1 hword c (by rw [hnext]; rfl), ?_⟩
            rintro rfl
            exact absurd hstarts (by decide)
      have hstep := Scans.step (hkind.lexeme hends) (TokenKind.of_lexeme_eq_some.mpr hkind) hfound
      refine ⟨⟨kind, String.ofList text.toList, column⟩ :: found, ?_⟩
      rw [String.toList_join] at hstep ⊢
      exact hstep

section Outcome

variable {text : String} {found : List Token}

/-- The tokens that a scan found up to the end are a partition of the text. -/
theorem Scans.partition (h : Scans 1 text.toList found []) :
    Partition text (found ++ [⟨.endOfDefinition, "", text.utf8ByteSize + 1⟩]) := by
  have hjoin : Token.join found = text := by
    rw [← String.toList_inj, ← h.join_append, List.append_nil]
  refine ⟨?_, ⟨found, rfl, h.admits⟩, fun before token after htokens => ?_, ?_⟩
  · rw [← hjoin]
    simp [Token.join]
  · cases after using List.reverseRecOn with
    | nil =>
        obtain ⟨rfl, hlast⟩ := List.append_inj' htokens rfl
        rw [← (List.cons.inj hlast).1, hjoin]
    | append_singleton after last =>
        rw [← List.cons_append, ← List.append_assoc] at htokens
        rw [h.column_eq before token after (List.append_inj' htokens rfl).1, Nat.add_comm]
  · refine List.isChain_append.mpr ⟨h.apart, .singleton _, ?_⟩
    rintro token - _ ⟨⟩ - c hc
    exact nomatch hc

/-- A text whose tokens a scan found up to the end is scanned. -/
theorem Scans.scan_eq_ok (h : Scans 1 text.toList found []) :
    Token.scan text = .ok (found ++ [⟨.endOfDefinition, "", text.utf8ByteSize + 1⟩]) := by
  have hjoin : Token.join found = text := by
    rw [← String.toList_inj, ← h.join_append, List.append_nil]
  rw [Token.scan, h.scan_eq, Token.scan_nil, hjoin, Nat.add_comm]
  rfl

/-- What a scan stops at is the start of what is left, and it is an unknown opener or the longest
run in which no lexeme begins. -/
theorem StopsAt.stray_cases {rest stray : List Char} (h : StopsAt rest stray) :
    stray ≠ [] ∧ stray <+: rest ∧
      (UnknownOpener (String.ofList stray) ∨ LongestStray stray rest) := by
  rcases h with ⟨after, hlexeme, hkind⟩ | ⟨hnone, hne, rfl⟩
  · exact ⟨Token.lexeme_ne_nil hlexeme, ⟨after, Token.lexeme_append hlexeme⟩,
      .inl (TokenKind.unknown_opener hlexeme hkind)⟩
  · obtain ⟨c, tail, rfl⟩ := List.exists_cons_of_ne_nil hne
    rw [Token.lexeme_eq_none, begins_lexeme_cons, Bool.not_eq_true] at hnone
    have hlongest : LongestStray ((c :: tail).takeWhile fun c => !Token.startsLexeme c)
        ((c :: tail).takeWhile (fun c => !Token.startsLexeme c) ++
          (c :: tail).dropWhile fun c => !Token.startsLexeme c) := by
      refine longest_stray (fun d hd => ?_) fun d hd => ?_
      · simpa using List.mem_takeWhile_imp hd
      · have hstop := List.head?_dropWhile_not (fun c => !Token.startsLexeme c) (c :: tail)
        rw [hd] at hstop
        simpa using hstop
    rw [List.takeWhile_append_dropWhile] at hlongest
    exact ⟨by simp [hnone], List.takeWhile_prefix _, .inr hlongest⟩

/-- Where a scan stops, the text has a stray part. -/
theorem Scans.stray {rest stray : List Char} (h : Scans 1 text.toList found rest)
    (hstops : StopsAt rest stray) :
    Stray text (String.ofList stray) ((Token.join found).utf8ByteSize + 1) := by
  obtain ⟨hne, ⟨after, rfl⟩, hcases⟩ := hstops.stray_cases
  have hbefore : Scans 1 (Token.join found).toList found [] := by
    have halone := h.alone (List.nil_append _).symm
    rwa [List.append_nil] at halone
  have htext : text = Token.join found ++ String.ofList stray ++ String.ofList after := by
    rw [← String.toList_inj, ← h.join_append]
    simp
  refine ⟨by simpa using hne, _, _, found, htext, rfl, ?_, hbefore.scan_eq_ok, ?_⟩
  · simpa using h
  · simpa using hcases

end Outcome

/-- A text is scanned or there is a stray part in it, and not both. The tokens of a text that is
scanned are a partition of it, and the texts that are scanned are those made up of token texts with
no word in front of a word character. -/
theorem scan_partitions (text : String) :
    (∀ tokens, Token.scan text = .ok tokens → Partition text tokens) ∧
    (∀ error, Token.scan text = .error error →
      ∃ stray column, error = .lex stray column ∧ Stray text stray column) ∧
    Xor (∃ tokens, Token.scan text = .ok tokens)
      (∃ stray column, Token.scan text = .error (.lex stray column)) ∧
    ((∃ tokens, Token.scan text = .ok tokens) ↔
      ∃ texts, Separated texts ∧ String.join texts = text) := by
  obtain ⟨found, rest, hscans, rfl | ⟨stray, hstops⟩⟩ := exists_scans 1 text.toList
  · have hscan := hscans.scan_eq_ok
    have hpartition := hscans.partition
    have hseparated : Separated (found.map Token.text) := by
      refine ⟨List.forall_mem_map.mpr fun token htoken => ?_, ?_⟩
      · exact ⟨token.kind, hscans.admits token htoken⟩
      rw [List.isChain_map]
      exact hscans.apart
    have hjoin : String.join (found.map Token.text) = text := by
      rw [← String.toList_inj, ← hscans.join_append, List.append_nil]
      rfl
    rw [hscan]
    refine ⟨?_, nofun, .inl ⟨⟨_, rfl⟩, nofun⟩, iff_of_true ⟨_, rfl⟩ ⟨_, hseparated, hjoin⟩⟩
    rintro tokens ⟨⟩
    exact hpartition
  · have hstray := hscans.stray hstops
    have hscan : Token.scan text =
        .error (.lex (String.ofList stray) ((Token.join found).utf8ByteSize + 1)) := by
      rw [Token.scan, hscans.scan_eq, Token.scan_stray hstops, Nat.add_comm]
      rfl
    rw [hscan]
    refine ⟨nofun, ?_, .inr ⟨⟨_, _, rfl⟩, nofun⟩, iff_of_false nofun ?_⟩
    · rintro error ⟨⟩
      exact ⟨_, _, rfl, hstray⟩
    · rintro ⟨texts, hseparated, rfl⟩
      obtain ⟨others, hothers⟩ := exists_scans_of_separated hseparated 1
      exact nomatch hscan.symm.trans hothers.scan_eq_ok

example : Token.scan "größe,Set<" = .error (.lex "Set<" 9) := by
  cbv

end SheetWire
