import SheetWire.Proofs.Definition.Parsing

/-!
# The languages of the grammar

The lexemes of derivations make up languages, and these satisfy the equations of the grammar
(`types_eq`, `subfield_lists_eq`, `member_lists_eq`). Lexemes are viable for a language if they can
be continued to one of its words. What may follow a first lexeme is a language again, the quotient,
and on the equations it is computed alternative by alternative.
-/

namespace SheetWire

variable {language rest : Language Lexeme} {allowed : Lexeme → Prop} {lexeme : Lexeme}
  {word : List Lexeme}

/-! ### What may come next -/

/-- Whether some lexemes can be continued to a word of the language. -/
def Viable (language : Language Lexeme) (used : List Lexeme) : Prop :=
  ∃ word ∈ language, used <+: word

/-- Lexemes can be continued behind others if they can in what may follow these. -/
theorem viable_append {used more : List Lexeme} :
    Viable language (used ++ more) ↔ Viable (language.leftQuotient used) more := by
  constructor
  · rintro ⟨_, hword, tail, rfl⟩
    refine ⟨more ++ tail, ?_, List.prefix_append more tail⟩
    rwa [Language.mem_leftQuotient, ← List.append_assoc]
  · rintro ⟨word, hword, hleads⟩
    exact ⟨used ++ word, hword, (List.prefix_append_right_inj used).mpr hleads⟩

/-- No lexeme at all can be continued where the language has a word. -/
theorem viable_nil : Viable language [] ↔ ∃ word, word ∈ language :=
  ⟨fun ⟨word, hword, _⟩ => ⟨word, hword⟩, fun ⟨word, hword⟩ => ⟨word, hword, List.nil_prefix⟩⟩

/-- Two languages in a row have a word if both have one. -/
@[simp]
theorem viable_mul : Viable (language * rest) [] ↔ Viable language [] ∧ Viable rest [] := by
  simp only [viable_nil]
  constructor
  · rintro ⟨_, first, hfirst, second, hsecond, -⟩
    exact ⟨⟨first, hfirst⟩, second, hsecond⟩
  · rintro ⟨⟨first, hfirst⟩, second, hsecond⟩
    exact ⟨first ++ second, Language.append_mem_mul hfirst hsecond⟩

/-- Of two languages, one has a word if they have one together. -/
@[simp]
theorem viable_add : Viable (language + rest) [] ↔ Viable language [] ∨ Viable rest [] := by
  simp only [viable_nil, Language.mem_add, exists_or]

/-- Nothing can be continued in the language without words. -/
@[simp]
theorem not_viable_zero (used : List Lexeme) : ¬ Viable 0 used :=
  fun ⟨word, hword, _⟩ => Language.notMem_zero word hword

/-- What may follow in one language or the other. -/
@[simp]
theorem left_quotient_add (used : List Lexeme) :
    (language + rest).leftQuotient used =
      language.leftQuotient used + rest.leftQuotient used :=
  rfl

/-! ### Single lexemes -/

/-- The language of the allowed lexemes. -/
def oneOf (allowed : Lexeme → Prop) : Language Lexeme :=
  {word | ∃ lexeme, allowed lexeme ∧ word = [lexeme]}

/-- A word that starts with an allowed lexeme. -/
theorem mem_one_of_mul :
    word ∈ oneOf allowed * rest ↔
      ∃ lexeme others, allowed lexeme ∧ others ∈ rest ∧ word = lexeme :: others := by
  constructor
  · rintro ⟨_, ⟨lexeme, hallowed, rfl⟩, others, hothers, rfl⟩
    exact ⟨lexeme, others, hallowed, hothers, rfl⟩
  · rintro ⟨lexeme, others, hallowed, hothers, rfl⟩
    exact ⟨[lexeme], ⟨lexeme, hallowed, rfl⟩, others, hothers, rfl⟩

/-- What may follow an allowed lexeme. -/
theorem left_quotient_one_of (h : allowed lexeme) :
    (oneOf allowed * rest).leftQuotient [lexeme] = rest := by
  ext word
  rw [Language.mem_leftQuotient, mem_one_of_mul, List.singleton_append]
  constructor
  · rintro ⟨_, _, -, hothers, ⟨⟩⟩
    exact hothers
  · exact fun hword => ⟨lexeme, word, h, hword, rfl⟩

/-- Nothing follows another lexeme. -/
theorem left_quotient_one_of_not (h : ¬ allowed lexeme) :
    (oneOf allowed * rest).leftQuotient [lexeme] = 0 := by
  ext word
  rw [Language.mem_leftQuotient, mem_one_of_mul, List.singleton_append]
  constructor
  · rintro ⟨_, _, hallowed, -, ⟨⟩⟩
    exact absurd hallowed h
  · exact fun hword => absurd hword (Language.notMem_zero word)

/-- The language of the lexemes of a kind. -/
def ofKind (kind : TokenKind) : Language Lexeme :=
  oneOf fun lexeme => lexeme.kind = kind ∧ lexeme.Proper

/-- The language of the numbers that fit 64 bits with sign. -/
def numerals : Language Lexeme :=
  oneOf fun lexeme => lexeme.kind = .number ∧ IsNumeral lexeme.text

/-- What may follow a lexeme where one of some kind must stand. -/
theorem left_quotient_of_kind (h : lexeme.Proper) (kind : TokenKind) :
    (ofKind kind * rest).leftQuotient [lexeme] = if lexeme.kind = kind then rest else 0 := by
  split
  · rename_i hkind
    exact left_quotient_one_of ⟨hkind, h⟩
  · rename_i hkind
    exact left_quotient_one_of_not fun hallowed => hkind hallowed.1

/-- Every kind has a lexeme. -/
@[simp]
theorem viable_of_kind (kind : TokenKind) : Viable (ofKind kind) [] := by
  have hproper : ∃ text, (Lexeme.mk kind text).Proper := by
    cases kind with
    | primitiveKeyword => exact ⟨"int", .inl ⟨.int, rfl⟩⟩
    | identifier =>
        have hkeyword : ∀ kind : Primitive, kind.keyword ≠ "a" := by
          intro kind
          cases kind <;> decide
        exact ⟨"a", .inl ⟨by decide, by decide, hkeyword, by decide⟩⟩
    | number => exact ⟨"0", .inl ⟨by decide, by decide⟩⟩
    | endOfDefinition => exact ⟨"", .inr rfl⟩
    | _ => exact ⟨_, .inl rfl⟩
  obtain ⟨text, hproper⟩ := hproper
  exact viable_nil.mpr ⟨[⟨kind, text⟩], ⟨kind, text⟩, ⟨rfl, hproper⟩, rfl⟩

/-- There is a number. -/
@[simp]
theorem viable_numerals : Viable numerals [] :=
  viable_nil.mpr ⟨[⟨.number, "0"⟩], ⟨.number, "0"⟩, ⟨rfl, by decide, by decide, by decide⟩, rfl⟩

/-! ### The equations of the grammar -/

/-- The lexemes of types. -/
def types : Language Lexeme :=
  Set.range TypeDerivation.lexemes

/-- The lexemes of subfields, up to the closing bracket. -/
def subfieldLists : Language Lexeme :=
  Set.range SubfieldDerivation.lexemes

/-- The lexemes of members, up to the closing bracket. -/
def memberLists : Language Lexeme :=
  Set.range MemberDerivation.lexemes

/-- The lexeme of a kind with a single text. -/
theorem mem_of_kind_sign {kind : TokenKind} (h : kind.fixedText?.isSome = true) :
    word ∈ ofKind kind ↔ word = [.sign kind] := by
  obtain ⟨text, htext⟩ := Option.isSome_iff_exists.mp h
  constructor
  · rintro ⟨⟨_, other⟩, ⟨rfl, hproper⟩, rfl⟩
    exact congrArg (fun lexeme => [lexeme]) (hproper.eq_sign htext)
  · rintro rfl
    have hadmits : kind.Admits (Lexeme.sign kind).text := by
      rw [Lexeme.sign, htext]
      exact (TokenKind.admits_iff_of_fixed htext).mpr rfl
    exact ⟨.sign kind, ⟨rfl, .inl hadmits⟩, rfl⟩

/-- A name. -/
theorem mem_of_kind_identifier :
    word ∈ ofKind .identifier ↔ ∃ name : Identifier, word = [⟨.identifier, name.text⟩] := by
  constructor
  · rintro ⟨⟨_, text⟩, ⟨rfl, hname | hending⟩, rfl⟩
    · exact ⟨⟨text, hname⟩, rfl⟩
    · exact nomatch hending
  · rintro ⟨name, rfl⟩
    exact ⟨⟨.identifier, name.text⟩, ⟨rfl, .inl name.proper⟩, rfl⟩

/-- A number. -/
theorem mem_numerals :
    word ∈ numerals ↔ ∃ number : Numeral, word = [⟨.number, number.text⟩] := by
  constructor
  · rintro ⟨⟨_, text⟩, ⟨rfl, hnumber⟩, rfl⟩
    exact ⟨⟨text, hnumber⟩, rfl⟩
  · rintro ⟨number, rfl⟩
    exact ⟨⟨.number, number.text⟩, ⟨rfl, number.proper⟩, rfl⟩

/-- A keyword. -/
theorem mem_of_kind_keyword :
    word ∈ ofKind .primitiveKeyword ↔
      ∃ kind : Primitive, word = [⟨.primitiveKeyword, kind.keyword⟩] := by
  constructor
  · rintro ⟨⟨_, text⟩, ⟨rfl, ⟨kind, rfl⟩ | hending⟩, rfl⟩
    · exact ⟨kind, rfl⟩
    · exact nomatch hending
  · rintro ⟨kind, rfl⟩
    exact ⟨⟨.primitiveKeyword, kind.keyword⟩, ⟨rfl, .inl ⟨kind, rfl⟩⟩, rfl⟩

/-- Members are a name and a number with a comma between them, and then the bracket or more. -/
theorem member_lists_eq :
    memberLists =
      ofKind .identifier * (ofKind .comma * (numerals *
        (ofKind .closingBracket + ofKind .comma * memberLists))) := by
  ext word
  simp (disch := decide) only [Language.mem_mul, Language.mem_add, mem_of_kind_identifier,
    mem_numerals, mem_of_kind_sign]
  constructor
  · rintro ⟨derivation, rfl⟩
    cases derivation with
    | last name number =>
        exact ⟨_, ⟨name, rfl⟩, _, ⟨_, rfl, _, ⟨_, ⟨number, rfl⟩, _, .inl rfl, rfl⟩, rfl⟩, rfl⟩
    | more name number rest =>
        exact ⟨_, ⟨name, rfl⟩, _, ⟨_, rfl, _, ⟨_, ⟨number, rfl⟩, _,
          .inr ⟨_, rfl, _, ⟨rest, rfl⟩, rfl⟩, rfl⟩, rfl⟩, rfl⟩
  · rintro ⟨_, ⟨name, rfl⟩, _, ⟨_, rfl, _, ⟨_, ⟨number, rfl⟩, _, h, rfl⟩, rfl⟩, rfl⟩
    rcases h with rfl | ⟨_, rfl, _, ⟨rest, rfl⟩, rfl⟩
    · exact ⟨.last name number, rfl⟩
    · exact ⟨.more name number rest, rfl⟩

/-- Subfields are a type and a name with a comma between them, and then the bracket or more. -/
theorem subfield_lists_eq :
    subfieldLists =
      types * (ofKind .comma * (ofKind .identifier *
        (ofKind .closingBracket + ofKind .comma * subfieldLists))) := by
  ext word
  simp (disch := decide) only [Language.mem_mul, Language.mem_add, mem_of_kind_identifier,
    mem_of_kind_sign]
  constructor
  · rintro ⟨derivation, rfl⟩
    cases derivation with
    | last type name =>
        exact ⟨_, ⟨type, rfl⟩, _, ⟨_, rfl, _, ⟨_, ⟨name, rfl⟩, _, .inl rfl, rfl⟩, rfl⟩, by
          simp [SubfieldDerivation.lexemes]⟩
    | more type name rest =>
        exact ⟨_, ⟨type, rfl⟩, _, ⟨_, rfl, _, ⟨_, ⟨name, rfl⟩, _,
          .inr ⟨_, rfl, _, ⟨rest, rfl⟩, rfl⟩, rfl⟩, rfl⟩, by simp [SubfieldDerivation.lexemes]⟩
  · rintro ⟨_, ⟨type, rfl⟩, _, ⟨_, rfl, _, ⟨_, ⟨name, rfl⟩, _, h, rfl⟩, rfl⟩, rfl⟩
    rcases h with rfl | ⟨_, rfl, _, ⟨rest, rfl⟩, rfl⟩
    · exact ⟨.last type name, by simp [SubfieldDerivation.lexemes]⟩
    · exact ⟨.more type name rest, by simp [SubfieldDerivation.lexemes]⟩

/-- The alternatives of a type. -/
theorem types_eq :
    types =
      ofKind .primitiveKeyword
      + ofKind .beginList * (types * ofKind .closingBracket)
      + ofKind .beginDictionary *
        (types * (ofKind .comma * (types * ofKind .closingBracket)))
      + ofKind .beginStruct * subfieldLists
      + ofKind .beginEnum * memberLists
      + ofKind .referenceMark * (ofKind .identifier * (ofKind .comma * ofKind .identifier)) := by
  ext word
  simp (disch := decide) only [Language.mem_mul, Language.mem_add, mem_of_kind_identifier,
    mem_of_kind_keyword, mem_of_kind_sign]
  constructor
  · rintro ⟨derivation, rfl⟩
    cases derivation with
    | primitive kind => exact .inl (.inl (.inl (.inl (.inl ⟨kind, rfl⟩))))
    | list element =>
        exact .inl (.inl (.inl (.inl (.inr ⟨_, rfl, _, ⟨_, ⟨element, rfl⟩, _, rfl, rfl⟩, rfl⟩))))
    | dictionary key value =>
        exact .inl (.inl (.inl (.inr ⟨_, rfl, _, ⟨_, ⟨key, rfl⟩, _,
          ⟨_, rfl, _, ⟨_, ⟨value, rfl⟩, _, rfl, rfl⟩, rfl⟩, rfl⟩, rfl⟩)))
    | struct subfields => exact .inl (.inl (.inr ⟨_, rfl, _, ⟨subfields, rfl⟩, rfl⟩))
    | enum members => exact .inl (.inr ⟨_, rfl, _, ⟨members, rfl⟩, rfl⟩)
    | reference table typeName =>
        exact .inr ⟨_, rfl, _, ⟨_, ⟨table, rfl⟩, _, ⟨_, rfl, _, ⟨typeName, rfl⟩, rfl⟩, rfl⟩, rfl⟩
  · rintro (((((⟨kind, rfl⟩ | ⟨_, rfl, _, ⟨_, ⟨element, rfl⟩, _, rfl, rfl⟩, rfl⟩) |
      ⟨_, rfl, _, ⟨_, ⟨key, rfl⟩, _, ⟨_, rfl, _, ⟨_, ⟨value, rfl⟩, _, rfl, rfl⟩, rfl⟩, rfl⟩, rfl⟩) |
      ⟨_, rfl, _, ⟨subfields, rfl⟩, rfl⟩) | ⟨_, rfl, _, ⟨members, rfl⟩, rfl⟩) |
      ⟨_, rfl, _, ⟨_, ⟨table, rfl⟩, _, ⟨_, rfl, _, ⟨typeName, rfl⟩, rfl⟩, rfl⟩, rfl⟩)
    · exact ⟨.primitive kind, rfl⟩
    · exact ⟨.list element, rfl⟩
    · exact ⟨.dictionary key value, rfl⟩
    · exact ⟨.struct subfields, rfl⟩
    · exact ⟨.enum members, rfl⟩
    · exact ⟨.reference table typeName, rfl⟩

/-- There is a type. -/
@[simp]
theorem viable_types : Viable types [] :=
  viable_nil.mpr ⟨_, .primitive .int, rfl⟩

/-- There are subfields. -/
@[simp]
theorem viable_subfield_lists : Viable subfieldLists [] := by
  rw [subfield_lists_eq]
  simp

/-- There are members. -/
@[simp]
theorem viable_member_lists : Viable memberLists [] := by
  rw [member_lists_eq]
  simp

/-- What follows the first lexeme of a type, which its kind decides. -/
def behind (rest : Language Lexeme) : TokenKind → Language Lexeme
  | .primitiveKeyword => rest
  | .beginList => types * (ofKind .closingBracket * rest)
  | .beginDictionary => types * (ofKind .comma * (types * (ofKind .closingBracket * rest)))
  | .beginStruct => subfieldLists * rest
  | .beginEnum => memberLists * rest
  | .referenceMark => ofKind .identifier * (ofKind .comma * (ofKind .identifier * rest))
  | _ => 0

/-- The alternatives of a type differ in their first lexemes. -/
theorem left_quotient_types (h : lexeme.Proper) :
    (types * rest).leftQuotient [lexeme] = behind rest lexeme.kind := by
  conv_lhs => rw [types_eq]
  simp only [add_mul, mul_assoc, left_quotient_add, left_quotient_of_kind h]
  cases lexeme.kind <;> simp [behind]

end SheetWire
