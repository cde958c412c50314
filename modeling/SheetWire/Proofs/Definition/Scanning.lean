import SheetWire.Definition.Scan
import SheetWire.Proofs.Definition.Grammar
import SheetWire.Proofs.Outcome

/-!
# What the scanner cuts a definition into

A lexeme is a token without its column. The scanner succeeds exactly on the texts that can be cut
into lexemes (`scan_sound`, `scan_complete`), in one way only (`Cuts.unique`), and the text of a
derivation is cut into the lexemes of the derivation (`TypeDerivation.cuts`).
-/

namespace SheetWire

open Text Number

/-- A keyword stands for its primitive. -/
theorem Primitive.of_keyword_eq_some {word : String} {kind : Primitive} :
    ofKeyword? word = some kind ↔ kind.keyword = word := by
  constructor
  · intro h
    simpa using List.find?_some h
  · rintro rfl
    cases kind <;> rfl

/-- A text that is no keyword stands for no primitive. -/
theorem Primitive.of_keyword_eq_none {word : String} :
    ofKeyword? word = none ↔ ∀ kind : Primitive, kind.keyword ≠ word := by
  rw [Option.eq_none_iff_forall_ne_some]
  exact forall_congr' fun kind => not_congr of_keyword_eq_some

/-- A run of digits is a word. -/
theorem Text.all_is_word_of_digits {text : List Char} (h : text.all isDigit = true) :
    text.all isWord = true := by
  rw [List.all_eq_true] at h ⊢
  intro c hc
  have hrange := toNat_of_is_digit (h c hc)
  rw [isWord, if_pos (by omega), h c hc]
  simp

namespace TokenKind

/-- Whether a text can be that of a token of the kind. -/
def Admits (text : String) : TokenKind → Prop
  | .primitiveKeyword => ∃ kind : Primitive, kind.keyword = text
  | .identifier => IsIdentifier text
  | .number => text ≠ "" ∧ text.toList.all isDigit = true
  | kind => kind.fixedText? = some text

/-- A kind with a single text admits that text only. -/
theorem admits_iff_of_fixed {kind : TokenKind} {text other : String}
    (h : kind.fixedText? = some text) : kind.Admits other ↔ text = other := by
  rw [← Option.some_inj, ← h]
  cases kind <;> first | exact Iff.rfl | exact nomatch h

/-- The single texts of kinds are no words. -/
theorem not_word_of_fixed {kind : TokenKind} {text : String} (h : kind.fixedText? = some text) :
    text.toList.all isWord = false := by
  cases kind <;> cases h <;> decide

/-- The kind with a given single text. -/
theorem find_fixed_eq_some {kind : TokenKind} {text : String} :
    (fixed.find? fun kind => kind.fixedText? == some text) = some kind ↔
      kind.fixedText? = some text := by
  constructor
  · intro h
    simpa using List.find?_some h
  · intro h
    cases kind <;> cases h <;> rfl

/-- A word is not the single text of a kind. -/
theorem find_fixed_of_word {text : String} (h : text.toList.all isWord = true) :
    (fixed.find? fun kind => kind.fixedText? == some text) = none := by
  rw [Option.eq_none_iff_forall_ne_some]
  intro kind hkind
  rw [find_fixed_eq_some] at hkind
  rw [not_word_of_fixed hkind] at h
  exact Bool.false_ne_true h

/-- The kind of a text admits it. -/
theorem admits_of_lexeme {text : String} {kind : TokenKind}
    (h : ofLexeme? text.toList = some kind) : kind.Admits text := by
  unfold ofLexeme? at h
  simp only [String.ofList_toList] at h
  split at h
  · rename_i hkeyword
    obtain ⟨primitive, hprimitive⟩ := Option.isSome_iff_exists.mp hkeyword
    cases h
    exact ⟨primitive, Primitive.of_keyword_eq_some.mp hprimitive⟩
  · rename_i hkeyword
    split at h
    · rename_i found hfound
      cases h
      exact (admits_iff_of_fixed (find_fixed_eq_some.mp hfound)).mpr rfl
    · split at h
      · cases h
      · rename_i hne
        rw [String.toList_eq_nil_iff] at hne
        split at h
        · rename_i hdigits
          cases h
          exact ⟨hne, hdigits⟩
        · rename_i hdigits
          split at h
          · rename_i hword
            cases h
            rw [Option.not_isSome_iff_eq_none, Primitive.of_keyword_eq_none] at hkeyword
            exact ⟨hne, hword, hkeyword, Bool.eq_false_of_not_eq_true hdigits⟩
          · cases h

/-- A text that a kind admits is of the kind. -/
theorem of_lexeme_of_admits {text : String} {kind : TokenKind} (h : kind.Admits text) :
    ofLexeme? text.toList = some kind := by
  unfold ofLexeme?
  simp only [String.ofList_toList]
  -- Kinds with a single text are settled by evaluation, the others by what their texts are not.
  cases kind with
  | primitiveKeyword =>
      obtain ⟨primitive, hprimitive⟩ := h
      rw [Primitive.of_keyword_eq_some.mpr hprimitive]
      rfl
  | identifier =>
      have hproper : IsIdentifier text := h
      rw [Primitive.of_keyword_eq_none.mpr hproper.notKeyword, find_fixed_of_word hproper.word]
      simp [hproper.nonempty, hproper.notDigits, hproper.word]
  | number =>
      obtain ⟨hne, hdigits⟩ := h
      have hkeyword : Primitive.ofKeyword? text = none := by
        rw [Primitive.of_keyword_eq_none]
        rintro kind rfl
        cases kind <;> exact absurd hdigits (by decide)
      rw [hkeyword, find_fixed_of_word (all_is_word_of_digits hdigits)]
      simp [hne, hdigits]
  | beginList | beginDictionary | beginStruct | beginEnum | closingBracket | comma
  | referenceMark =>
      cases h
      rfl
  | endOfDefinition => cases h

/-- The kind of a text is the one that admits it. -/
theorem of_lexeme_eq_some {text : String} {kind : TokenKind} :
    ofLexeme? text.toList = some kind ↔ kind.Admits text :=
  ⟨admits_of_lexeme, of_lexeme_of_admits⟩

end TokenKind

/-- A token without its column. -/
structure Lexeme where
  kind : TokenKind
  text : String

/-- The lexeme of a token. -/
def Token.lexeme (token : Token) : Lexeme :=
  ⟨token.kind, token.text⟩

/-- The lexeme of a kind with a single text. -/
def Lexeme.sign (kind : TokenKind) : Lexeme :=
  ⟨kind, kind.fixedText?.getD ""⟩

/-- The lexeme at the end of every definition. -/
def Lexeme.ending : Lexeme :=
  ⟨.endOfDefinition, ""⟩

/-- A text cut into lexemes, each as long as can be. -/
inductive Cuts : List Char → List Lexeme → Prop where
  | done : Cuts [] []
  | step {text lexeme rest : List Char} {kind : TokenKind} {others : List Lexeme} :
      Token.lexeme? text = some (lexeme, rest) → TokenKind.ofLexeme? lexeme = some kind →
      Cuts rest others → Cuts text (⟨kind, String.ofList lexeme⟩ :: others)

/-- A text is cut in one way. -/
theorem Cuts.unique {text : List Char} {lexemes others : List Lexeme} (h : Cuts text lexemes)
    (hother : Cuts text others) : lexemes = others := by
  induction h generalizing others with
  | done =>
      cases hother with
      | done => rfl
      | step hlexeme _ _ => exact nomatch hlexeme
  | step hlexeme hkind _ ih =>
      cases hother with
      | done => exact nomatch hlexeme
      | step hlexeme' hkind' hrest' =>
          cases hlexeme.symm.trans hlexeme'
          cases hkind.symm.trans hkind'
          rw [ih hrest']

/-- The texts of the lexemes make up the whole text. -/
theorem Cuts.flatten {text : List Char} {lexemes : List Lexeme} (h : Cuts text lexemes) :
    (lexemes.flatMap fun lexeme => lexeme.text.toList) = text := by
  induction h with
  | done => rfl
  | step hlexeme _ _ ih =>
      rw [List.flatMap_cons, ih, String.toList_ofList]
      exact Token.lexeme_append hlexeme

/-- The text of a lexeme is one that its kind admits. -/
theorem Cuts.admits {text : List Char} {lexemes : List Lexeme} (h : Cuts text lexemes) :
    ∀ lexeme ∈ lexemes, lexeme.kind.Admits lexeme.text := by
  induction h with
  | done => exact fun lexeme h => absurd h List.not_mem_nil
  | step _ hkind _ ih =>
      refine List.forall_mem_cons.mpr ⟨TokenKind.of_lexeme_eq_some.mp ?_, ih⟩
      rw [String.toList_ofList]
      exact hkind

namespace Token

/-- A lexeme that is a token comes before the tokens behind it. -/
theorem scan_step {text piece rest : List Char} {kind : TokenKind}
    (hpiece : lexeme? text = some (piece, rest))
    (hkind : TokenKind.ofLexeme? piece = some kind) (column : Nat) :
    scanFrom column text = (scanFrom (column + Reader.byteSize piece) rest).map
      (⟨kind, String.ofList piece, column⟩ :: ·) := by
  rw [scanFrom]
  split
  · rename_i other after hother
    cases hpiece.symm.trans hother
    rw [hkind]
    rfl
  · rename_i hnone
    cases hpiece.symm.trans hnone

/-- Nothing is left but the end of the definition. -/
theorem scan_nil (column : Nat) : scanFrom column [] = .ok [⟨.endOfDefinition, "", column⟩] := by
  rw [scanFrom]
  rfl

/-- The tokens of a text are its lexemes and the end of the definition. -/
theorem scan_sound {column : Nat} {text : List Char} {tokens : List Token}
    (h : scanFrom column text = .ok tokens) :
    ∃ lexemes, Cuts text lexemes ∧ tokens.map lexeme = lexemes ++ [.ending] := by
  induction hlength : text.length using Nat.strong_induction_on generalizing text column tokens with
  | _ length ih =>
      rw [scanFrom] at h
      split at h
      · rename_i piece rest hpiece
        split at h
        · rename_i kind hkind
          obtain ⟨others, hothers, h⟩ := bind_eq_ok.mp h
          cases h
          have hshorter := length_after_lexeme hpiece
          obtain ⟨lexemes, hcuts, hmap⟩ := ih _ (by omega) hothers rfl
          exact ⟨_, .step hpiece hkind hcuts, by rw [List.map_cons, hmap]; rfl⟩
        · cases h
      · split at h
        · rename_i hnil
          cases h
          exact ⟨[], hnil ▸ .done, rfl⟩
        · cases h

/-- A text that can be cut into lexemes is scanned. -/
theorem scan_complete {text : List Char} {lexemes : List Lexeme} (h : Cuts text lexemes)
    (column : Nat) :
    ∃ tokens, scanFrom column text = .ok tokens ∧
      tokens.map lexeme = lexemes ++ [.ending] := by
  induction h generalizing column with
  | done => exact ⟨[⟨.endOfDefinition, "", column⟩], scan_nil column, rfl⟩
  | @step text piece rest kind others hpiece hkind hrest ih =>
      obtain ⟨tokens, htokens, hmap⟩ := ih (column + Reader.byteSize piece)
      refine ⟨⟨kind, String.ofList piece, column⟩ :: tokens, ?_, by rw [List.map_cons, hmap]; rfl⟩
      rw [scan_step hpiece hkind, htokens]
      rfl

end Token

/-! ### Cutting the text of a derivation -/

/-- Whether a word can end before a text: it is empty or starts with a mark. -/
def Stops (rest : List Char) : Prop :=
  ∀ c ∈ rest.head?, Token.isMark c = true

/-- A mark is no word character and does not open a type. -/
theorem Token.not_word_of_mark {c : Char} (h : Token.isMark c = true) :
    isWord c = false ∧ c ≠ '<' := by
  unfold isMark at h
  simp only [Bool.or_eq_true, beq_iff_eq] at h
  rcases h with (rfl | rfl) | rfl <;> decide

/-- Whether a word in front of a text does not go on in it. -/
def EndsWord (rest : List Char) : Prop :=
  ∀ c ∈ rest.head?, isWord c = false ∧ c ≠ '<'

/-- A word that can end before a text does not go on in it. -/
theorem Stops.ends_word {rest : List Char} (h : Stops rest) : EndsWord rest :=
  fun c hc => Token.not_word_of_mark (h c hc)

namespace Token

/-- The characters of a word in front of a text that starts with none. -/
theorem span_word {word rest : List Char} (hword : ∀ c ∈ word, isWord c = true)
    (hrest : ∀ c ∈ rest.head?, isWord c = false) :
    (word ++ rest).takeWhile isWord = word ∧ (word ++ rest).dropWhile isWord = rest := by
  rw [List.takeWhile_append_of_pos hword, List.dropWhile_append_of_pos hword]
  cases rest with
  | nil => simp
  | cons c rest =>
      have hc : ¬ isWord c = true := by simp [hrest c rfl]
      rw [List.takeWhile_cons_of_neg hc, List.dropWhile_cons_of_neg hc, List.append_nil]
      exact ⟨rfl, rfl⟩

/-- A word is cut off where it does not go on. -/
theorem lexeme_word {word rest : List Char} (hne : word ≠ []) (hword : word.all isWord = true)
    (hrest : EndsWord rest) : lexeme? (word ++ rest) = some (word, rest) := by
  obtain ⟨c, others, rfl⟩ := List.exists_cons_of_ne_nil hne
  rw [List.all_cons, Bool.and_eq_true, List.all_eq_true] at hword
  obtain ⟨htake, hdrop⟩ := span_word hword.2 fun d hd => (hrest d hd).1
  rw [List.cons_append, lexeme?, if_pos hword.1, hdrop, htake]
  split
  · rename_i after
    exact absurd rfl (hrest '<' rfl).2
  · rfl

end Token

/-- The lexeme of a kind with a single text is cut off before any text. -/
theorem Token.lexeme_sign {kind : TokenKind} {text : String} (h : kind.fixedText? = some text)
    (rest : List Char) : lexeme? (text.toList ++ rest) = some (text.toList, rest) := by
  cases kind <;> cases h <;> rfl

/-- The single text of a kind in front of a text that is cut. -/
theorem Cuts.sign {rest : List Char} {others : List Lexeme} (h : Cuts rest others)
    (kind : TokenKind) {text : String} (hkind : kind.fixedText? = some text) :
    Cuts (text.toList ++ rest) (.sign kind :: others) := by
  have hstep := Cuts.step (Token.lexeme_sign hkind rest)
    (TokenKind.of_lexeme_eq_some.mpr ((TokenKind.admits_iff_of_fixed hkind).mpr rfl)) h
  rwa [String.ofList_toList, show ⟨kind, text⟩ = Lexeme.sign kind by rw [Lexeme.sign, hkind]; rfl]
    at hstep

/-- A word in front of a text that is cut, where the word can end. -/
theorem Cuts.word {kind : TokenKind} {text : String} {rest : List Char} {others : List Lexeme}
    (hne : text ≠ "") (hword : text.toList.all isWord = true) (hkind : kind.Admits text)
    (hrest : Stops rest) (h : Cuts rest others) :
    Cuts (text.toList ++ rest) (⟨kind, text⟩ :: others) := by
  rw [Ne, ← String.toList_eq_nil_iff] at hne
  have hstep := Cuts.step (Token.lexeme_word hne hword hrest.ends_word)
    (TokenKind.of_lexeme_eq_some.mpr hkind) h
  rwa [String.ofList_toList] at hstep

/-- A name in front of a text that is cut. -/
theorem Identifier.cuts (name : Identifier) {rest : List Char} {others : List Lexeme}
    (hrest : Stops rest) (h : Cuts rest others) :
    Cuts (name.text.toList ++ rest) (⟨.identifier, name.text⟩ :: others) :=
  h.word name.proper.nonempty name.proper.word name.proper hrest

/-- A number in front of a text that is cut. -/
theorem Numeral.cuts (number : Numeral) {rest : List Char} {others : List Lexeme}
    (hrest : Stops rest) (h : Cuts rest others) :
    Cuts (number.text.toList ++ rest) (⟨.number, number.text⟩ :: others) :=
  h.word number.proper.nonempty (all_is_word_of_digits number.proper.digits)
    ⟨number.proper.nonempty, number.proper.digits⟩ hrest

/-- A keyword in front of a text that is cut. -/
theorem Primitive.cuts (kind : Primitive) {rest : List Char} {others : List Lexeme}
    (hrest : Stops rest) (h : Cuts rest others) :
    Cuts (kind.keyword.toList ++ rest) (⟨.primitiveKeyword, kind.keyword⟩ :: others) :=
  h.word (by cases kind <;> decide) (by cases kind <;> decide) ⟨kind, rfl⟩ hrest

/-- The lexemes of members, with the closing bracket. -/
def MemberDerivation.lexemes : MemberDerivation → List Lexeme
  | .last name number =>
      [⟨.identifier, name.text⟩, .sign .comma, ⟨.number, number.text⟩, .sign .closingBracket]
  | .more name number rest =>
      ⟨.identifier, name.text⟩ :: .sign .comma :: ⟨.number, number.text⟩ :: .sign .comma ::
        rest.lexemes

mutual

/-- The lexemes of a type. -/
def TypeDerivation.lexemes : TypeDerivation → List Lexeme
  | .primitive kind => [⟨.primitiveKeyword, kind.keyword⟩]
  | .list element => .sign .beginList :: (element.lexemes ++ [.sign .closingBracket])
  | .dictionary key value =>
      .sign .beginDictionary ::
        (key.lexemes ++ .sign .comma :: (value.lexemes ++ [.sign .closingBracket]))
  | .struct subfields => .sign .beginStruct :: subfields.lexemes
  | .enum members => .sign .beginEnum :: members.lexemes
  | .reference table typeName =>
      [.sign .referenceMark, ⟨.identifier, table.text⟩, .sign .comma, ⟨.identifier, typeName.text⟩]

/-- The lexemes of subfields, with the closing bracket. -/
def SubfieldDerivation.lexemes : SubfieldDerivation → List Lexeme
  | .last type name =>
      type.lexemes ++ [.sign .comma, ⟨.identifier, name.text⟩, .sign .closingBracket]
  | .more type name rest =>
      type.lexemes ++ .sign .comma :: ⟨.identifier, name.text⟩ :: .sign .comma :: rest.lexemes

end

/-- A word can end before a comma. -/
theorem stops_comma (rest : List Char) : Stops (",".toList ++ rest) := by
  intro c hc
  cases hc
  rfl

/-- A word can end before a closing bracket. -/
theorem stops_closing (rest : List Char) : Stops (">".toList ++ rest) := by
  intro c hc
  cases hc
  rfl

/-- The text of members and the bracket behind it are cut into the lexemes. -/
theorem MemberDerivation.cuts {rest : List Char} {others : List Lexeme} (h : Cuts rest others) :
    (members : MemberDerivation) →
      Cuts (members.text.toList ++ (">".toList ++ rest)) (members.lexemes ++ others)
  | .last name number => by
      have hnumber := number.cuts (stops_closing rest) (h.sign .closingBracket rfl)
      have hname := name.cuts (stops_comma _) (hnumber.sign .comma rfl)
      simpa only [MemberDerivation.text, String.toList_append, MemberDerivation.lexemes,
        List.append_assoc, List.cons_append, List.nil_append] using hname
  | .more name number members => by
      have hnumber := number.cuts (stops_comma _) ((members.cuts h).sign .comma rfl)
      have hname := name.cuts (stops_comma _) (hnumber.sign .comma rfl)
      simpa only [MemberDerivation.text, String.toList_append, MemberDerivation.lexemes,
        List.append_assoc, List.cons_append, List.nil_append] using hname

mutual

/-- The text of a type is cut into the lexemes, where a word can end behind it. -/
theorem TypeDerivation.cuts {rest : List Char} {others : List Lexeme} (hrest : Stops rest)
    (h : Cuts rest others) :
    (derivation : TypeDerivation) →
      Cuts (derivation.text.toList ++ rest) (derivation.lexemes ++ others)
  | .primitive kind => kind.cuts hrest h
  | .list element => by
      have helement := TypeDerivation.cuts (stops_closing rest) (h.sign .closingBracket rfl) element
      have hlist := helement.sign .beginList rfl
      simpa only [TypeDerivation.text, String.toList_append, TypeDerivation.lexemes,
        List.append_assoc, List.cons_append, List.nil_append] using hlist
  | .dictionary key value => by
      have hvalue := TypeDerivation.cuts (stops_closing rest) (h.sign .closingBracket rfl) value
      have hkey := TypeDerivation.cuts (stops_comma _) (hvalue.sign .comma rfl) key
      have hdictionary := hkey.sign .beginDictionary rfl
      simpa only [TypeDerivation.text, String.toList_append, TypeDerivation.lexemes,
        List.append_assoc, List.cons_append, List.nil_append] using hdictionary
  | .struct subfields => by
      have hstruct := (SubfieldDerivation.cuts h subfields).sign .beginStruct rfl
      simpa only [TypeDerivation.text, String.toList_append, TypeDerivation.lexemes,
        List.append_assoc, List.cons_append] using hstruct
  | .enum members => by
      have henum := (members.cuts h).sign .beginEnum rfl
      simpa only [TypeDerivation.text, String.toList_append, TypeDerivation.lexemes,
        List.append_assoc, List.cons_append] using henum
  | .reference table typeName => by
      have htable := table.cuts (stops_comma _) ((typeName.cuts hrest h).sign .comma rfl)
      have hreference := htable.sign .referenceMark rfl
      simpa only [TypeDerivation.text, String.toList_append, TypeDerivation.lexemes,
        List.append_assoc, List.cons_append, List.nil_append] using hreference

/-- The text of subfields and the bracket behind it are cut into the lexemes. -/
theorem SubfieldDerivation.cuts {rest : List Char} {others : List Lexeme} (h : Cuts rest others) :
    (subfields : SubfieldDerivation) →
      Cuts (subfields.text.toList ++ (">".toList ++ rest)) (subfields.lexemes ++ others)
  | .last type name => by
      have hname := name.cuts (stops_closing rest) (h.sign .closingBracket rfl)
      have htype := TypeDerivation.cuts (stops_comma _) (hname.sign .comma rfl) type
      simpa only [SubfieldDerivation.text, String.toList_append, SubfieldDerivation.lexemes,
        List.append_assoc, List.cons_append, List.nil_append] using htype
  | .more type name subfields => by
      have hsubfields := SubfieldDerivation.cuts h subfields
      have hname := name.cuts (stops_comma _) (hsubfields.sign .comma rfl)
      have htype := TypeDerivation.cuts (stops_comma _) (hname.sign .comma rfl) type
      simpa only [SubfieldDerivation.text, String.toList_append, SubfieldDerivation.lexemes,
        List.append_assoc, List.cons_append] using htype

end

end SheetWire
