import SheetWire.Proofs.Definition.Scanning

/-!
# What the parser takes

`Consumes parse spec` says what a parse that succeeds has taken and what it gives for it, and
`Parses parse used value` says that a parse succeeds where the lexemes `used` come next, whatever
stands behind them. Both are carried through a parser by one rule for each of its steps. The parser
of types consumes the lexemes of derivations only (`type_sound`), and it parses the lexemes of every
derivation whose names and numbers differ (`type_complete`) as long as its bound is not below their
number.
-/

namespace SheetWire

open Text Number Naming

/-- Whether a lexeme has a text that its kind admits, or is the end of the definition. -/
def Lexeme.Proper (lexeme : Lexeme) : Prop :=
  lexeme.kind.Admits lexeme.text ∨ lexeme = .ending

/-- A kind with a single text has a single lexeme. -/
theorem Lexeme.Proper.eq_sign {kind : TokenKind} {text fixed : String}
    (h : (Lexeme.mk kind text).Proper) (hkind : kind.fixedText? = some fixed) :
    Lexeme.mk kind text = .sign kind := by
  rcases h with h | h
  · obtain rfl : fixed = text := (TokenKind.admits_iff_of_fixed hkind).mp h
    rw [Lexeme.sign, hkind]
    rfl
  · cases h
    cases hkind

/-- The tokens of a text that is cut into lexemes have proper lexemes. -/
theorem Cuts.proper_of_map {text : List Char} {lexemes : List Lexeme} {tokens : List Token}
    (h : Cuts text lexemes) (hmap : tokens.map Token.lexeme = lexemes ++ [.ending]) :
    ∀ token ∈ tokens, token.lexeme.Proper := by
  intro token htoken
  have hmem := List.mem_map_of_mem (f := Token.lexeme) htoken
  rw [hmap, List.mem_append, List.mem_singleton] at hmem
  exact hmem.imp (h.admits _) id

/-! ### Names that must differ -/

/-- No element is found a second time if they all differ from each other and from those seen. -/
theorem first_repeated_eq_none {α : Type} [DecidableEq α] {seen list : List α} :
    firstRepeated? seen list = none ↔ list.Nodup ∧ ∀ x ∈ list, x ∉ seen := by
  induction list generalizing seen with
  | nil => simp [firstRepeated?]
  | cons x rest ih =>
      rw [firstRepeated?]
      split
      · rename_i hx
        simp [hx]
      · rename_i hx
        rw [ih, List.nodup_cons, List.forall_mem_cons]
        simp only [List.mem_cons, not_or]
        constructor
        · rintro ⟨hrest, hseen⟩
          exact ⟨⟨fun hmem => (hseen x hmem).1 rfl, hrest⟩, hx, fun y hy => (hseen y hy).2⟩
        · rintro ⟨⟨hnotMem, hrest⟩, -, hseen⟩
          exact ⟨hrest, fun y hy => ⟨fun h => hnotMem (h ▸ hy), hseen y hy⟩⟩

/-- No member is found a second time if no name and no number is. -/
theorem first_repeated_member_eq_none {table typeName : String} {names : List String}
    {numbers : List Int64} {members : List Member} :
    firstRepeatedMember? table typeName names numbers members = none ↔
      firstRepeated? names (members.map Member.name) = none ∧
        firstRepeated? numbers (members.map Member.value) = none := by
  induction members generalizing names numbers with
  | nil => simp [firstRepeatedMember?, firstRepeated?]
  | cons member rest ih =>
      simp only [firstRepeatedMember?, List.map_cons, firstRepeated?]
      split
      · simp
      · split
        · simp
        · exact ih

/-- Nothing is rejected where there is no duplicate. -/
theorem reject_duplicate_eq_ok {which : Option Duplicate} :
    rejectDuplicate which = .ok () ↔ which = none := by
  cases which <;> simp [rejectDuplicate, pure, Except.pure, throw, throwThe, MonadExceptOf.throw]

/-- The subfields of a struct pass if their names differ. -/
theorem check_subfields_eq_ok {table typeName : String} {names : List String} :
    checkSubfields table typeName names = .ok () ↔ names.Nodup := by
  rw [checkSubfields, reject_duplicate_eq_ok, Option.map_eq_none_iff, first_repeated_eq_none]
  simp

/-- The members of an enum pass if their names differ and their numbers differ. -/
theorem check_members_eq_ok {table typeName : String} {members : List Member} :
    checkMembers table typeName members = .ok () ↔
      (members.map Member.name).Nodup ∧ (members.map Member.value).Nodup := by
  rw [checkMembers, reject_duplicate_eq_ok, first_repeated_member_eq_none, first_repeated_eq_none,
    first_repeated_eq_none]
  simp

namespace Parsing

variable {α β : Type}

/-- What asking for a kind of token does with the next one. -/
theorem expect_cons (kind : TokenKind) (token : Token) (rest : List Token) (position : Nat) :
    expect kind ⟨token :: rest, position⟩ =
      if token.kind = kind then .ok (token, ⟨rest, position + 1⟩)
      else .error (.parse (.expected kind token) position) := by
  change (if token.kind = kind then _ else _ : Parsing Token) _ = _
  split <;> rfl

/-- What looking for a kind of token does with the next one. -/
theorem accept_cons (kind : TokenKind) (token : Token) (rest : List Token) (position : Nat) :
    accept kind ⟨token :: rest, position⟩ =
      if token.kind = kind then .ok (true, ⟨rest, position + 1⟩)
      else .ok (false, ⟨token :: rest, position⟩) := by
  change (if token.kind = kind then _ else _ : Parsing Bool) _ = _
  split <;> rfl

/-! ### What a parse has taken -/

/-- A parse whose values go with the lexemes that it took. -/
def Consumes (parse : Parsing α) (spec : List Lexeme → α → Prop) : Prop :=
  ∀ cursor value after, (∀ token ∈ cursor.tokens, token.lexeme.Proper) →
    parse cursor = .ok (value, after) →
      ∃ taken, cursor.tokens = taken ++ after.tokens ∧ spec (taken.map Token.lexeme) value

/-- A value without a token. -/
theorem Consumes.pure {value : α} {spec : List Lexeme → α → Prop} (h : spec [] value) :
    Consumes (Pure.pure value) spec := by
  intro cursor result after hproper hrun
  cases hrun
  exact ⟨[], rfl, h⟩

/-- A failure takes nothing. -/
theorem Consumes.fail {spec : List Lexeme → α → Prop} (problem : SyntaxProblem) (position : Nat) :
    Consumes (Parsing.fail problem position) spec := by
  intro cursor result after hproper hrun
  exact nomatch hrun

/-- One parse after another. -/
theorem Consumes.bind {parse : Parsing α} {next : α → Parsing β} {first : List Lexeme → α → Prop}
    {spec : List Lexeme → β → Prop} (h : Consumes parse first)
    (hnext : ∀ used value, first used value →
      Consumes (next value) fun more result => spec (used ++ more) result) :
    Consumes (parse >>= next) spec := by
  intro cursor result after hproper hrun
  change (parse cursor >>= fun step => next step.1 step.2) = _ at hrun
  obtain ⟨step, hparse, hrun⟩ := bind_eq_ok.mp hrun
  obtain ⟨taken, htokens, hfirst⟩ := h cursor step.1 step.2 hproper hparse
  have hproper' : ∀ token ∈ step.2.tokens, token.lexeme.Proper := by
    intro token hmem
    exact hproper token (htokens ▸ List.mem_append_right taken hmem)
  obtain ⟨more, hmore, hspec⟩ := hnext _ _ hfirst step.2 result after hproper' hrun
  refine ⟨taken ++ more, by rw [htokens, hmore, List.append_assoc], ?_⟩
  rw [List.map_append]
  exact hspec

/-- A parse with a weaker description. -/
theorem Consumes.imp {parse : Parsing α} {first spec : List Lexeme → α → Prop}
    (h : Consumes parse first) (hspec : ∀ used value, first used value → spec used value) :
    Consumes parse spec := by
  intro cursor value after hproper hrun
  obtain ⟨taken, htokens, hfirst⟩ := h cursor value after hproper hrun
  exact ⟨taken, htokens, hspec _ _ hfirst⟩

/-- A parse that leaves every token where it is. -/
def Looks (parse : Parsing α) : Prop :=
  ∀ cursor value after, parse cursor = .ok (value, after) → after = cursor

/-- A parse after one that takes nothing. -/
theorem Looks.consumes {parse : Parsing α} {next : α → Parsing β}
    {spec : List Lexeme → β → Prop} (h : Looks parse)
    (hnext : ∀ value, Consumes (next value) spec) : Consumes (parse >>= next) spec := by
  have hlook : Consumes parse fun used _ => used = [] := by
    intro cursor value after hproper hrun
    exact ⟨[], by rw [h cursor value after hrun, List.nil_append], rfl⟩
  refine hlook.bind ?_
  rintro used value rfl
  exact hnext value

/-- The lexeme of a token that has the kind asked for. -/
theorem consumes_expect (kind : TokenKind) :
    Consumes (expect kind) fun used token =>
      used = [⟨kind, token.text⟩] ∧ (Lexeme.mk kind token.text).Proper := by
  intro cursor value after hproper hrun
  obtain ⟨tokens, position⟩ := cursor
  cases tokens with
  | nil => exact nomatch hrun
  | cons token rest =>
      rw [expect_cons] at hrun
      split at hrun
      · rename_i hkind
        cases hrun
        subst hkind
        exact ⟨[value], rfl, rfl, hproper value List.mem_cons_self⟩
      · exact nomatch hrun

/-- A kind with a single text takes its own lexeme. -/
theorem consumes_sign {kind : TokenKind} {text : String} (h : kind.fixedText? = some text) :
    Consumes (expect kind) fun used _ => used = [.sign kind] := by
  refine (consumes_expect kind).imp ?_
  rintro used token ⟨rfl, hproper⟩
  rw [hproper.eq_sign h]

/-- A name. -/
theorem consumes_identifier :
    Consumes (expect .identifier) fun used token =>
      ∃ name : Identifier, name.text = token.text ∧ used = [⟨.identifier, name.text⟩] := by
  refine (consumes_expect .identifier).imp ?_
  rintro used token ⟨rfl, hproper⟩
  rcases hproper with hname | hending
  · exact ⟨⟨token.text, hname⟩, rfl, rfl⟩
  · exact nomatch hending

/-- A bracket or comma that is taken where it comes next. -/
theorem consumes_accept {kind : TokenKind} {text : String} (h : kind.fixedText? = some text) :
    Consumes (accept kind) fun used found => used = if found then [.sign kind] else [] := by
  intro cursor value after hproper hrun
  obtain ⟨tokens, position⟩ := cursor
  cases tokens with
  | nil =>
      cases hrun
      exact ⟨[], rfl, rfl⟩
  | cons token rest =>
      rw [accept_cons] at hrun
      split at hrun
      · rename_i hkind
        cases hrun
        subst hkind
        have hsign := (hproper token List.mem_cons_self).eq_sign h
        exact ⟨[token], rfl, congrArg (fun lexeme => [lexeme]) hsign⟩
      · cases hrun
        exact ⟨[], rfl, rfl⟩

/-- The next token is only looked at. -/
theorem looks_peek : Looks peek := by
  intro cursor value after hrun
  obtain ⟨tokens, position⟩ := cursor
  cases tokens with
  | nil => exact nomatch hrun
  | cons token rest =>
      cases hrun
      rfl

/-- Reading the state takes nothing. -/
theorem looks_get : Looks (get : Parsing Cursor) := by
  intro cursor value after hrun
  cases hrun
  rfl

/-- The position of the last token takes nothing. -/
theorem looks_last_position : Looks lastPosition := by
  intro cursor value after hrun
  cases hrun
  rfl

/-- A check takes nothing, and it passed where the parse goes on. -/
theorem consumes_check {check : Except Error α} :
    Consumes (liftM check : Parsing α) fun used value => used = [] ∧ check = .ok value := by
  intro cursor value after hproper hrun
  change (check >>= fun value => Except.ok (value, cursor)) = _ at hrun
  obtain ⟨result, hcheck, hrun⟩ := bind_eq_ok.mp hrun
  cases hrun
  exact ⟨[], rfl, rfl, hcheck⟩

/-! ### The lexemes that are taken are those of derivations -/

/-- The lexemes of a name and a number. -/
theorem member_sound :
    Consumes member fun used result => ∃ (name : Identifier) (number : Numeral),
      used = [⟨.identifier, name.text⟩, .sign .comma, ⟨.number, number.text⟩] ∧
        result = ⟨name.text, number.value⟩ := by
  refine consumes_identifier.bind ?_
  rintro _ token ⟨name, hname, rfl⟩
  refine (consumes_sign rfl).bind ?_
  rintro _ _ rfl
  refine (consumes_expect .number).bind ?_
  rintro _ number ⟨rfl, hnumber⟩
  split
  · rename_i value hvalue
    obtain ⟨hne, hdigits⟩ := hnumber.resolve_right (fun h => nomatch h)
    rw [read_int64_of_digits (by rwa [Ne, String.toList_eq_nil_iff]) hdigits] at hvalue
    obtain ⟨hfits, rfl⟩ := hvalue
    exact Consumes.pure ⟨name, ⟨number.text, hne, hdigits, hfits⟩, rfl, by rw [hname]; rfl⟩
  · exact looks_last_position.consumes fun position => Consumes.fail _ position

/-- The lexemes of members. -/
theorem members_sound (bound : Nat) :
    Consumes (members bound) fun used list => ∃ derivation : MemberDerivation,
      derivation.lexemes = used ∧ derivation.members = list := by
  induction bound with
  | zero => exact looks_get.consumes fun cursor => Consumes.fail _ cursor.position
  | succ bound ih =>
      rw [members]
      refine member_sound.bind ?_
      rintro _ first ⟨name, number, rfl, rfl⟩
      refine (consumes_accept rfl).bind ?_
      rintro _ found rfl
      cases found with
      | true => exact Consumes.pure ⟨.last name number, rfl, rfl⟩
      | false =>
          refine (consumes_sign rfl).bind ?_
          rintro _ _ rfl
          refine ih.bind ?_
          rintro _ rest ⟨derivation, rfl, rfl⟩
          exact Consumes.pure
            ⟨.more name number derivation, by simp [MemberDerivation.lexemes], rfl⟩

variable {inflector : Inflector}

/-- Whether lexemes are those of a type that stands for a field under a label. -/
def Denotes (inflector : Inflector) (label : Label) (used : List Lexeme) (field : Field) : Prop :=
  ∃ derivation : TypeDerivation,
    derivation.lexemes = used ∧ derivation.Distinct ∧ derivation.field inflector label = field

/-- Whether lexemes are those of subfields, up to the bracket, that stand for fields. -/
def DenotesAll (inflector : Inflector) (table : String) (used : List Lexeme)
    (fields : List Field) : Prop :=
  ∃ derivation : SubfieldDerivation,
    derivation.lexemes = used ∧ derivation.Distinct ∧ derivation.fields inflector table = fields

/-- The lexeme of a primitive. -/
theorem primitive_sound (label : Label) :
    Consumes (primitive label) (Denotes inflector label) := by
  refine (consumes_expect .primitiveKeyword).bind ?_
  rintro _ token ⟨rfl, -⟩
  split
  · rename_i kind hkind
    rw [Primitive.of_keyword_eq_some] at hkind
    exact Consumes.pure ⟨.primitive kind, by rw [← hkind]; rfl, True.intro, rfl⟩
  · exact looks_last_position.consumes fun position => Consumes.fail _ position

/-- The lexemes of a reference. -/
theorem reference_sound (label : Label) :
    Consumes (reference label) (Denotes inflector label) := by
  refine (consumes_sign rfl).bind ?_
  rintro _ _ rfl
  refine consumes_identifier.bind ?_
  rintro _ _ ⟨table, htable, rfl⟩
  refine (consumes_sign rfl).bind ?_
  rintro _ _ rfl
  refine consumes_identifier.bind ?_
  rintro _ _ ⟨typeName, htypeName, rfl⟩
  rw [← htable, ← htypeName]
  exact Consumes.pure ⟨.reference table typeName, rfl, True.intro, rfl⟩

/-- The lexemes of an enum whose names and numbers differ. -/
theorem enum_sound (bound : Nat) (label : Label) :
    Consumes (enum bound label) (Denotes inflector label) := by
  refine (consumes_sign rfl).bind ?_
  rintro _ _ rfl
  refine (members_sound bound).bind ?_
  rintro _ _ ⟨members, rfl, rfl⟩
  refine consumes_check.bind ?_
  rintro _ _ ⟨rfl, hcheck⟩
  exact Consumes.pure ⟨.enum members, by simp [TypeDerivation.lexemes],
    check_members_eq_ok.mp hcheck, rfl⟩

mutual

/-- The lexemes of a type whose names and numbers differ. -/
theorem type_sound (bound : Nat) (label : Label) :
    Consumes (type inflector bound label) (Denotes inflector label) := by
  match bound with
  | 0 => exact looks_get.consumes fun cursor => Consumes.fail _ cursor.position
  | bound + 1 =>
      rw [type]
      refine looks_peek.consumes fun next => ?_
      split
      · exact primitive_sound label
      · refine (consumes_sign rfl).bind ?_
        rintro _ _ rfl
        refine (type_sound bound _).bind ?_
        rintro _ _ ⟨element, rfl, hdistinct, rfl⟩
        refine (consumes_sign rfl).bind ?_
        rintro _ _ rfl
        exact Consumes.pure ⟨.list element, by simp [TypeDerivation.lexemes], hdistinct, rfl⟩
      · refine (consumes_sign rfl).bind ?_
        rintro _ _ rfl
        refine (type_sound bound _).bind ?_
        rintro _ _ ⟨key, rfl, hkey, rfl⟩
        refine (consumes_sign rfl).bind ?_
        rintro _ _ rfl
        refine (type_sound bound _).bind ?_
        rintro _ _ ⟨value, rfl, hvalue, rfl⟩
        refine (consumes_sign rfl).bind ?_
        rintro _ _ rfl
        exact Consumes.pure
          ⟨.dictionary key value, by simp [TypeDerivation.lexemes], ⟨hkey, hvalue⟩, rfl⟩
      · refine (consumes_sign rfl).bind ?_
        rintro _ _ rfl
        refine (subfields_sound bound _).bind ?_
        rintro _ _ ⟨subfields, rfl, hdistinct, rfl⟩
        refine consumes_check.bind ?_
        rintro _ _ ⟨rfl, hcheck⟩
        rw [subfields.names_fields] at hcheck
        exact Consumes.pure ⟨.struct subfields, by simp [TypeDerivation.lexemes],
          ⟨check_subfields_eq_ok.mp hcheck, hdistinct⟩, rfl⟩
      · exact enum_sound bound label
      · exact reference_sound label
      · exact looks_get.consumes fun cursor => Consumes.fail _ cursor.position

/-- The lexemes of subfields whose types' names and numbers differ. -/
theorem subfields_sound (bound : Nat) (table : String) :
    Consumes (subfields inflector bound table) (DenotesAll inflector table) := by
  match bound with
  | 0 => exact looks_get.consumes fun cursor => Consumes.fail _ cursor.position
  | bound + 1 =>
      rw [subfields]
      refine (type_sound bound _).bind ?_
      rintro _ _ ⟨type, rfl, htype, rfl⟩
      refine (consumes_sign rfl).bind ?_
      rintro _ _ rfl
      refine consumes_identifier.bind ?_
      rintro _ token ⟨name, hname, rfl⟩
      refine (consumes_accept rfl).bind ?_
      rintro _ found rfl
      rw [← hname]
      cases found with
      | true =>
          exact Consumes.pure ⟨.last type name, by simp [SubfieldDerivation.lexemes], htype, rfl⟩
      | false =>
          refine (consumes_sign rfl).bind ?_
          rintro _ _ rfl
          refine (subfields_sound bound table).bind ?_
          rintro _ _ ⟨rest, rfl, hrest, rfl⟩
          exact Consumes.pure ⟨.more type name rest, by simp [SubfieldDerivation.lexemes],
            ⟨htype, hrest⟩, rfl⟩

end

/-! ### The lexemes of derivations are taken -/

/-- A parse that succeeds where some lexemes come next, whatever stands behind them. -/
def Parses (parse : Parsing α) (used : List Lexeme) (value : α) : Prop :=
  ∀ tokens rest position, tokens.map Token.lexeme = used →
    parse ⟨tokens ++ rest, position⟩ = .ok (value, ⟨rest, position + tokens.length⟩)

/-- A value without a token. -/
theorem Parses.pure (value : α) : Parses (Pure.pure value) [] value := by
  intro tokens rest position htokens
  obtain rfl := List.map_eq_nil_iff.mp htokens
  rfl

/-- One parse after another. -/
theorem Parses.bind {parse : Parsing α} {next : α → Parsing β} {used more : List Lexeme} {value : α}
    {result : β} (h : Parses parse used value) (hnext : Parses (next value) more result) :
    Parses (parse >>= next) (used ++ more) result := by
  intro tokens rest position htokens
  obtain ⟨first, second, rfl, hfirst, hsecond⟩ := List.map_eq_append_iff.mp htokens
  change (parse _ >>= fun step => next step.1 step.2) = _
  rw [List.append_assoc, h first _ position hfirst, List.length_append, ← Nat.add_assoc]
  exact hnext second rest _ hsecond

/-- One parse after which no further token is taken. -/
theorem Parses.last {parse : Parsing α} {next : α → Parsing β} {used : List Lexeme} {value : α}
    {result : β} (h : Parses parse used value) (hnext : Parses (next value) [] result) :
    Parses (parse >>= next) used result := by
  have hbind := h.bind hnext
  rwa [List.append_nil] at hbind

/-- One token and the parse of what stands behind it. -/
theorem Parses.step {parse : Parsing α} {next : α → Parsing β} {lexeme : Lexeme}
    {more : List Lexeme} {result : β}
    (h : ∀ token : Token, token.lexeme = lexeme → ∃ value,
      (∀ rest position, parse ⟨token :: rest, position⟩ = .ok (value, ⟨rest, position + 1⟩)) ∧
        Parses (next value) more result) :
    Parses (parse >>= next) (lexeme :: more) result := by
  intro tokens rest position htokens
  obtain ⟨token, others, rfl, htoken, hothers⟩ := List.map_eq_cons_iff.mp htokens
  obtain ⟨value, hparse, hnext⟩ := h token htoken
  change (parse _ >>= fun step => next step.1 step.2) = _
  rw [List.cons_append, hparse, List.length_cons, Nat.add_comm others.length 1, ← Nat.add_assoc]
  exact hnext others rest _ hothers

/-- A token of the kind asked for. -/
theorem Parses.expect {kind : TokenKind} {text : String} {next : Token → Parsing β}
    {more : List Lexeme} {result : β}
    (hnext : ∀ token, token.text = text → Parses (next token) more result) :
    Parses (Parsing.expect kind >>= next) (⟨kind, text⟩ :: more) result := by
  refine Parses.step fun token htoken => ⟨token, ?_, hnext token (congrArg Lexeme.text htoken)⟩
  intro rest position
  have hkind : token.kind = kind := congrArg Lexeme.kind htoken
  rw [expect_cons, if_pos hkind]

/-- A token that is taken because it is of the kind asked for. -/
theorem Parses.accept_found {kind : TokenKind} {text : String} {next : Bool → Parsing β}
    {more : List Lexeme} {result : β} (hnext : Parses (next true) more result) :
    Parses (accept kind >>= next) (⟨kind, text⟩ :: more) result := by
  refine Parses.step fun token htoken => ⟨true, ?_, hnext⟩
  intro rest position
  have hkind : token.kind = kind := congrArg Lexeme.kind htoken
  rw [accept_cons, if_pos hkind]

/-- A token that is left because it is of another kind. -/
theorem Parses.accept_other {kind : TokenKind} {lexeme : Lexeme} {next : Bool → Parsing β}
    {more : List Lexeme} {result : β} (hkind : lexeme.kind ≠ kind)
    (hnext : Parses (next false) (lexeme :: more) result) :
    Parses (accept kind >>= next) (lexeme :: more) result := by
  intro tokens rest position htokens
  obtain ⟨token, others, rfl, rfl, hothers⟩ := List.map_eq_cons_iff.mp htokens
  have haccept : accept kind ⟨token :: (others ++ rest), position⟩ =
      .ok (false, ⟨token :: (others ++ rest), position⟩) := by
    rw [accept_cons, if_neg (show token.kind ≠ kind from hkind)]
  change (accept kind _ >>= fun step => next step.1 step.2) = _
  rw [List.cons_append, haccept]
  exact hnext (token :: others) rest position htokens

/-- A token that is looked at. -/
theorem Parses.peek {lexeme : Lexeme} {next : Token → Parsing β} {more : List Lexeme} {result : β}
    (hnext : ∀ token, token.kind = lexeme.kind → Parses (next token) (lexeme :: more) result) :
    Parses (Parsing.peek >>= next) (lexeme :: more) result := by
  intro tokens rest position htokens
  obtain ⟨token, others, rfl, rfl, hothers⟩ := List.map_eq_cons_iff.mp htokens
  exact hnext token rfl (token :: others) rest position htokens

/-- A check that passes. -/
theorem Parses.check {check : Except Error α} {next : α → Parsing β} {value : α}
    {used : List Lexeme} {result : β} (hcheck : check = .ok value)
    (hnext : Parses (next value) used result) :
    Parses ((liftM check : Parsing α) >>= next) used result := by
  subst hcheck
  exact hnext

/-- A name and a number are parsed from their lexemes. -/
theorem member_complete (name : Identifier) (number : Numeral) :
    Parses member [⟨.identifier, name.text⟩, .sign .comma, ⟨.number, number.text⟩]
      ⟨name.text, number.value⟩ := by
  have hne : number.text.toList ≠ [] := by
    rw [Ne, String.toList_eq_nil_iff]
    exact number.proper.nonempty
  have hread := (read_int64_of_digits hne number.proper.digits).mpr ⟨number.proper.fits, rfl⟩
  refine Parses.expect fun first hfirst => ?_
  refine Parses.expect fun _ _ => Parses.expect fun second hsecond => ?_
  rw [hfirst, hsecond, hread]
  exact Parses.pure _

/-- Members are parsed from their lexemes. -/
theorem members_complete :
    (derivation : MemberDerivation) → {bound : Nat} → derivation.lexemes.length ≤ bound →
      Parses (members bound) derivation.lexemes derivation.members
  | .last name number, 0, hbound | .more name number rest, 0, hbound => nomatch hbound
  | .last name number, bound + 1, hbound => by
      rw [members]
      exact (member_complete name number).bind (Parses.accept_found (Parses.pure _))
  | .more name number rest, bound + 1, hbound => by
      have hrest : rest.lexemes.length ≤ bound := by
        simp only [MemberDerivation.lexemes, List.length_cons] at hbound
        omega
      rw [members]
      refine (member_complete name number).bind (Parses.accept_other (by decide) ?_)
      exact Parses.expect fun _ _ => (members_complete rest hrest).last (Parses.pure _)

/-- A primitive is parsed from its lexeme. -/
theorem primitive_complete (label : Label) (kind : Primitive) :
    Parses (primitive label) [⟨.primitiveKeyword, kind.keyword⟩] (.primitive label kind) := by
  refine Parses.expect fun token htoken => ?_
  rw [htoken, Primitive.of_keyword_eq_some.mpr rfl]
  exact Parses.pure _

/-- A reference is parsed from its lexemes. -/
theorem reference_complete (label : Label) (table typeName : Identifier) :
    Parses (reference label) (TypeDerivation.reference table typeName).lexemes
      (.reference label ⟨table.text, typeName.text⟩) := by
  refine Parses.expect fun _ _ => Parses.expect fun first hfirst => ?_
  refine Parses.expect fun _ _ => Parses.expect fun second hsecond => ?_
  rw [hfirst, hsecond]
  exact Parses.pure _

/-- An enum whose names and numbers differ is parsed from its lexemes. -/
theorem enum_complete (label : Label) {members : MemberDerivation} {bound : Nat}
    (hdistinct : (TypeDerivation.enum members).Distinct) (hbound : members.lexemes.length ≤ bound) :
    Parses (enum bound label) (TypeDerivation.enum members).lexemes
      (.enum label (enumName label.name) members.members) := by
  refine Parses.expect fun _ _ => ?_
  exact (members_complete members hbound).last
    (Parses.check (check_members_eq_ok.mpr hdistinct) (Parses.pure _))

mutual

/-- A type whose names and numbers differ is parsed from its lexemes. -/
theorem type_complete (label : Label) :
    (derivation : TypeDerivation) → {bound : Nat} → derivation.Distinct →
      derivation.lexemes.length ≤ bound →
        Parses (type inflector bound label) derivation.lexemes (derivation.field inflector label)
  | derivation, 0, _, hbound => by cases derivation <;> exact nomatch hbound
  | .primitive kind, bound + 1, _, hbound => by
      rw [type]
      refine Parses.peek fun next hnext => ?_
      rw [hnext]
      exact primitive_complete label kind
  | .reference table typeName, bound + 1, _, hbound => by
      rw [type]
      refine Parses.peek fun next hnext => ?_
      rw [hnext]
      exact reference_complete label table typeName
  | .enum members, bound + 1, hdistinct, hbound => by
      rw [type]
      refine Parses.peek fun next hnext => ?_
      rw [hnext]
      exact enum_complete label hdistinct (Nat.le_of_succ_le_succ hbound)
  | .list element, bound + 1, hdistinct, hbound => by
      have helement : element.lexemes.length ≤ bound := by
        simp only [TypeDerivation.lexemes, List.length_cons, List.length_append] at hbound
        omega
      rw [type]
      refine Parses.peek fun next hnext => ?_
      rw [hnext]
      refine Parses.expect fun _ _ => ?_
      exact (type_complete _ element hdistinct helement).bind
        (Parses.expect fun _ _ => Parses.pure _)
  | .dictionary key value, bound + 1, ⟨hkey, hvalue⟩, hbound => by
      have hbounds : key.lexemes.length ≤ bound ∧ value.lexemes.length ≤ bound := by
        simp only [TypeDerivation.lexemes, List.length_cons, List.length_append] at hbound
        omega
      rw [type]
      refine Parses.peek fun next hnext => ?_
      rw [hnext]
      refine Parses.expect fun _ _ => ?_
      refine (type_complete _ key hkey hbounds.1).bind (Parses.expect fun _ _ => ?_)
      exact (type_complete _ value hvalue hbounds.2).bind
        (Parses.expect fun _ _ => Parses.pure _)
  | .struct subfields, bound + 1, ⟨hnames, hdistinct⟩, hbound => by
      rw [type]
      refine Parses.peek fun next hnext => ?_
      rw [hnext]
      refine Parses.expect fun _ _ => ?_
      rw [← subfields.names_fields inflector label.table] at hnames
      have hlength : subfields.lexemes.length ≤ bound := Nat.le_of_succ_le_succ hbound
      exact (subfields_complete label.table subfields hdistinct hlength).last
        (Parses.check (check_subfields_eq_ok.mpr hnames) (Parses.pure _))

/-- Subfields whose types' names and numbers differ are parsed from their lexemes. -/
theorem subfields_complete (table : String) :
    (derivation : SubfieldDerivation) → {bound : Nat} → derivation.Distinct →
      derivation.lexemes.length ≤ bound →
        Parses (subfields inflector bound table) derivation.lexemes
          (derivation.fields inflector table)
  | .last type name, 0, _, hbound | .more type name rest, 0, _, hbound => by
      simp [SubfieldDerivation.lexemes] at hbound
  | .last type name, bound + 1, htype, hbound => by
      have hlength : type.lexemes.length ≤ bound := by
        simp only [SubfieldDerivation.lexemes, List.length_cons, List.length_append] at hbound
        omega
      rw [subfields]
      refine (type_complete _ type htype hlength).bind (Parses.expect fun _ _ => ?_)
      refine Parses.expect fun token htoken => ?_
      rw [htoken]
      exact Parses.accept_found (Parses.pure _)
  | .more type name rest, bound + 1, ⟨htype, hrest⟩, hbound => by
      have hlengths : type.lexemes.length ≤ bound ∧ rest.lexemes.length ≤ bound := by
        simp only [SubfieldDerivation.lexemes, List.length_cons, List.length_append] at hbound
        omega
      rw [subfields]
      refine (type_complete _ type htype hlengths.1).bind (Parses.expect fun _ _ => ?_)
      refine Parses.expect fun token htoken => ?_
      rw [htoken]
      refine Parses.accept_other (by decide) (Parses.expect fun _ _ => ?_)
      exact (subfields_complete table rest hrest hlengths.2).last (Parses.pure _)

end

end Parsing

end SheetWire
