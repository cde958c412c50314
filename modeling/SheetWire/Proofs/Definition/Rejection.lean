import SheetWire.Proofs.Definition.Viability

/-!
# Where a definition goes wrong

The parser never takes a token back, and it fails at the first token that no derivation has there
(`rejected_at_first_misfit`). It keeps to a language from its cursor on (`Tracks`): what it takes
leaves the language of what may follow, and it fails where that language has no word with the next
token. This is carried through the parser by one rule for each of its steps, and through types by
recursion on the bound, which is so large that it is never used up.
-/

namespace SheetWire

open Text Number Naming

variable {language : Language Lexeme} {cursor : Cursor} {token : Token} {tokens : List Token}
  {position : Nat}

/-- Whether a position is that of the first token behind a cursor that no word of the language has
there. -/
def Cursor.FailsAt (cursor : Cursor) (language : Language Lexeme) (position : Nat) : Prop :=
  ∃ taken next rest, cursor.tokens = taken ++ next :: rest ∧
    position = cursor.position + taken.length ∧ Viable language (taken.map Token.lexeme) ∧
    ¬ Viable language ((taken ++ [next]).map Token.lexeme)

/-- The next token is the first if nothing can follow it. -/
theorem Cursor.fails_at_next (hviable : Viable language [])
    (hnext : language.leftQuotient [token.lexeme] = 0) :
    FailsAt ⟨token :: tokens, position⟩ language position := by
  refine ⟨[], token, tokens, rfl, rfl, hviable, ?_⟩
  show ¬ Viable language ([token.lexeme] ++ [])
  rw [viable_append, hnext]
  exact not_viable_zero []

/-- What is the first such token behind some tokens is also the first from their start. -/
theorem Cursor.FailsAt.behind {after : Cursor} {taken : List Token}
    (h : after.FailsAt (language.leftQuotient (taken.map Token.lexeme)) position)
    (htokens : cursor.tokens = taken ++ after.tokens)
    (hposition : after.position = cursor.position + taken.length) :
    cursor.FailsAt language position := by
  obtain ⟨more, next, rest, hmore, rfl, hviable, hnext⟩ := h
  refine ⟨taken ++ more, next, rest, by rw [htokens, hmore, List.append_assoc], ?_, ?_, ?_⟩
  · rw [hposition, List.length_append, Nat.add_assoc]
  · rw [List.map_append]
    exact viable_append.mpr hviable
  · rw [List.append_assoc, List.map_append]
    exact viable_append.not.mpr hnext

/-- Whether tokens are those of a definition from somewhere on. -/
structure Ended (tokens : List Token) : Prop where
  proper : ∀ token ∈ tokens, token.lexeme.Proper
  ending : ∃ before last, tokens = before ++ [last] ∧ last.kind = .endOfDefinition

/-- There is a token. -/
theorem Ended.exists_cons (h : Ended tokens) : ∃ token rest, tokens = token :: rest := by
  obtain ⟨before, last, rfl, -⟩ := h.ending
  exact List.exists_cons_of_ne_nil (by simp)

/-- There are more tokens behind one that is not the last. -/
theorem Ended.tail (h : Ended (token :: tokens)) (hkind : token.kind ≠ .endOfDefinition) :
    Ended tokens := by
  refine ⟨fun other hother => h.proper other (List.mem_cons_of_mem token hother), ?_⟩
  obtain ⟨before, last, htokens, hlast⟩ := h.ending
  cases before with
  | nil =>
      cases htokens
      exact absurd hlast hkind
  | cons first before =>
      cases htokens
      exact ⟨before, last, rfl, hlast⟩

/-- A number fits 64 bits with sign if it is read as such. -/
theorem Lexeme.Proper.is_numeral_iff {lexeme : Lexeme} (h : lexeme.Proper)
    (hkind : lexeme.kind = .number) :
    IsNumeral lexeme.text ↔ readInt64? lexeme.text.toList ≠ none := by
  obtain ⟨kind, text⟩ := lexeme
  obtain rfl : kind = .number := hkind
  obtain ⟨hne, hdigits⟩ := h.resolve_right fun hending => nomatch hending
  have hread {value : Int64} := read_int64_of_digits (v := value)
    (by rwa [Ne, String.toList_eq_nil_iff]) hdigits
  rw [Option.ne_none_iff_exists']
  constructor
  · intro hnumeral
    exact ⟨_, hread.mpr ⟨hnumeral.fits, rfl⟩⟩
  · rintro ⟨value, hvalue⟩
    exact ⟨hne, hdigits, (hread.mp hvalue).1⟩

namespace Parsing

variable {α β : Type} {parse : Parsing α} {goal : Language Lexeme → Cursor → α → Prop}

/-- Whether a parse from a cursor keeps to a language. Where it succeeds, the goal holds of what may
follow, of the cursor behind the tokens it took and of the value. Where it finds a syntax error,
this is at the first token that no word of the language has there. -/
structure Tracks (language : Language Lexeme) (cursor : Cursor) (parse : Parsing α)
    (goal : Language Lexeme → Cursor → α → Prop) : Prop where
  success : ∀ {value after}, parse cursor = .ok (value, after) →
    ∃ taken, cursor.tokens = taken ++ after.tokens ∧
      after.position = cursor.position + taken.length ∧
      goal (language.leftQuotient (taken.map Token.lexeme)) after value
  failure : ∀ {problem position}, parse cursor = .error (.parse problem position) →
    cursor.FailsAt language position

/-- A value without a token. -/
theorem Tracks.pure {value : α} (h : goal language cursor value) :
    Tracks language cursor (Pure.pure value) goal where
  success hrun := by
    cases hrun
    exact ⟨[], rfl, rfl, h⟩
  failure hrun := nomatch hrun

/-- One parse after another. -/
theorem Tracks.bind {next : α → Parsing β} {result : Language Lexeme → Cursor → β → Prop}
    (h : Tracks language cursor parse goal)
    (hnext : ∀ rest after value, goal rest after value →
      Tracks rest after (next value) result) :
    Tracks language cursor (parse >>= next) result where
  success hrun := by
    change (parse cursor >>= fun step => next step.1 step.2) = _ at hrun
    obtain ⟨⟨value, between⟩, hparse, hrun⟩ := bind_eq_ok.mp hrun
    obtain ⟨taken, htokens, hposition, hgoal⟩ := h.success hparse
    obtain ⟨more, hmore, hthen, hresult⟩ := (hnext _ _ _ hgoal).success hrun
    refine ⟨taken ++ more, by rw [htokens, hmore, List.append_assoc], ?_, ?_⟩
    · rw [hthen, hposition, List.length_append, Nat.add_assoc]
    · rw [List.map_append, Language.leftQuotient_append]
      exact hresult
  failure hrun := by
    change (parse cursor >>= fun step => next step.1 step.2) = _ at hrun
    rcases bind_eq_error.mp hrun with hparse | ⟨⟨value, between⟩, hparse, hrun⟩
    · exact h.failure hparse
    · obtain ⟨taken, htokens, hposition, hgoal⟩ := h.success hparse
      exact ((hnext _ _ _ hgoal).failure hrun).behind htokens hposition

/-- A parse with a weaker goal. -/
theorem Tracks.imp {weaker : Language Lexeme → Cursor → α → Prop}
    (h : Tracks language cursor parse goal)
    (hgoal : ∀ rest after value, goal rest after value → weaker rest after value) :
    Tracks language cursor parse weaker where
  success hrun := by
    obtain ⟨taken, htokens, hposition, hreached⟩ := h.success hrun
    exact ⟨taken, htokens, hposition, hgoal _ _ _ hreached⟩
  failure := h.failure

/-- A parse that does what another does from the cursor. -/
theorem Tracks.of_eq {other : Parsing α} (heq : parse cursor = other cursor)
    (h : Tracks language cursor other goal) : Tracks language cursor parse goal where
  success hrun := h.success (heq ▸ hrun)
  failure hrun := h.failure (heq ▸ hrun)

/-- A failure at the next token, which nothing can follow. -/
theorem Tracks.fail (problem : SyntaxProblem) (hviable : Viable language [])
    (hnext : language.leftQuotient [token.lexeme] = 0) :
    Tracks language ⟨token :: tokens, position⟩ (Parsing.fail problem position) goal where
  success hrun := nomatch hrun
  failure hrun := by
    cases hrun
    exact Cursor.fails_at_next hviable hnext

/-- A check for duplicates takes nothing, and what it finds is no syntax error. -/
theorem tracks_reject (which : Option Duplicate) :
    Tracks language cursor (liftM (rejectDuplicate which) : Parsing Unit)
      fun rest after _ => rest = language ∧ after = cursor := by
  cases which with
  | none => exact Tracks.pure ⟨rfl, rfl⟩
  | some which => exact ⟨fun hrun => (nomatch hrun), fun hrun => (nomatch hrun)⟩

/-- A parse that takes the next token. -/
theorem Tracks.take {value : α}
    (h : parse ⟨token :: tokens, position⟩ = .ok (value, ⟨tokens, position + 1⟩))
    (hgoal : goal (language.leftQuotient [token.lexeme]) ⟨tokens, position + 1⟩ value) :
    Tracks language ⟨token :: tokens, position⟩ parse goal where
  success hrun := by
    cases h.symm.trans hrun
    exact ⟨[token], rfl, rfl, hgoal⟩
  failure hrun := nomatch h.symm.trans hrun

/-- A parse behind a token of the kind asked for. -/
theorem expect_bind {kind : TokenKind} (h : token.kind = kind) (next : Token → Parsing α) :
    (expect kind >>= next) ⟨token :: tokens, position⟩ = next token ⟨tokens, position + 1⟩ := by
  change (expect kind _ >>= fun step => next step.1 step.2) = _
  rw [expect_cons, if_pos h]
  rfl

/-- A token of the kind asked for, where nothing can follow one of another kind. -/
theorem tracks_expect {kind : TokenKind}
    (hother : token.kind ≠ kind →
      Viable language [] ∧ language.leftQuotient [token.lexeme] = 0) :
    Tracks language ⟨token :: tokens, position⟩ (expect kind) fun rest after found =>
      rest = language.leftQuotient [token.lexeme] ∧ after = ⟨tokens, position + 1⟩ ∧
        token = found ∧ token.kind = kind := by
  have hexpect := expect_cons kind token tokens position
  by_cases hkind : token.kind = kind
  · rw [if_pos hkind] at hexpect
    exact Tracks.take hexpect ⟨rfl, rfl, rfl, hkind⟩
  · rw [if_neg hkind] at hexpect
    obtain ⟨hviable, hnext⟩ := hother hkind
    exact Tracks.of_eq hexpect (Tracks.fail (.expected kind token) hviable hnext)

/-- A token that is taken if it is of a kind, and left where it is if not. -/
theorem tracks_accept {kind : TokenKind} :
    Tracks language ⟨token :: tokens, position⟩ (accept kind) fun rest after found =>
      if token.kind = kind then
        rest = language.leftQuotient [token.lexeme] ∧ after = ⟨tokens, position + 1⟩ ∧ found = true
      else rest = language ∧ after = ⟨token :: tokens, position⟩ ∧ found = false := by
  have haccept := accept_cons kind token tokens position
  by_cases hkind : token.kind = kind
  · rw [if_pos hkind] at haccept
    simp only [if_pos hkind]
    exact Tracks.take haccept ⟨rfl, rfl, rfl⟩
  · rw [if_neg hkind] at haccept
    simp only [if_neg hkind]
    exact Tracks.of_eq haccept (Tracks.pure ⟨rfl, rfl, rfl⟩)

/-- Whether tokens to the end are left behind a cursor once at least one was taken. -/
structure Leaves (cursor after : Cursor) : Prop where
  ended : Ended after.tokens
  shorter : after.tokens.length < cursor.tokens.length

/-- What is left once more tokens were taken. -/
theorem Leaves.trans {between after : Cursor} (h : Leaves cursor between)
    (hmore : Leaves between after) : Leaves cursor after :=
  ⟨hmore.ended, hmore.shorter.trans h.shorter⟩

/-- What is left behind the next token. -/
theorem leaves_next (h : Ended tokens) :
    Leaves ⟨token :: tokens, position⟩ ⟨tokens, position + 1⟩ :=
  ⟨h, Nat.lt_succ_self _⟩

/-- Whether a parse from a cursor keeps to a language, and takes at least one token and leaves
another language and tokens to the end where it succeeds. -/
def Passes (language rest : Language Lexeme) (cursor : Cursor) (parse : Parsing α) : Prop :=
  Tracks language cursor parse fun left after _ => left = rest ∧ Leaves cursor after

section Passing

variable {first rest : Language Lexeme}

/-- A parse behind one that leaves its language. -/
theorem Passes.bind {next : α → Parsing β} {result : Language Lexeme → Cursor → β → Prop}
    (h : Passes first rest cursor parse)
    (hnext : ∀ after value, Leaves cursor after → Tracks rest after (next value) result) :
    Tracks first cursor (parse >>= next) result := by
  refine Tracks.bind h ?_
  rintro _ after value ⟨rfl, hleaves⟩
  exact hnext after value hleaves

/-- A parse behind the tokens that others have taken. -/
theorem Passes.behind {between : Cursor} (h : Passes first rest between parse)
    (hleaves : Leaves cursor between) :
    Tracks first between parse fun left after _ => left = rest ∧ Leaves cursor after := by
  refine Tracks.imp h ?_
  rintro left after _ ⟨hleft, hmore⟩
  exact ⟨hleft, hleaves.trans hmore⟩

/-- A token of a kind where one must stand. -/
theorem passes_expect {kind : TokenKind} (hkind : kind ≠ .endOfDefinition)
    (hcursor : Ended cursor.tokens) (hviable : Viable language []) :
    Passes (ofKind kind * language) language cursor (expect kind) := by
  obtain ⟨tokens, position⟩ := cursor
  obtain ⟨token, tokens, rfl⟩ := hcursor.exists_cons
  have hquotient : (ofKind kind * language).leftQuotient [token.lexeme] =
      if token.kind = kind then language else 0 :=
    left_quotient_of_kind (hcursor.proper token List.mem_cons_self) kind
  have hother : token.kind ≠ kind → Viable (ofKind kind * language) [] ∧
      (ofKind kind * language).leftQuotient [token.lexeme] = 0 := fun hne =>
    ⟨viable_mul.mpr ⟨viable_of_kind kind, hviable⟩, hquotient.trans (if_neg hne)⟩
  refine (tracks_expect hother).imp ?_
  rintro left after found ⟨rfl, rfl, rfl, hfound⟩
  exact ⟨hquotient.trans (if_pos hfound), leaves_next (hcursor.tail (hfound ▸ hkind))⟩

/-- A number that fits 64 bits with sign. Where it does not, the error is at the number. -/
theorem passes_numeral (f : Int64 → α) (hcursor : Ended cursor.tokens)
    (hviable : Viable language []) :
    Passes (numerals * language) language cursor
      (do
        let number ← expect .number
        match readInt64? number.text.toList with
        | some value => pure (f value)
        | none => fail (.enumNumber number.text) (← lastPosition)) := by
  obtain ⟨tokens, position⟩ := cursor
  obtain ⟨token, tokens, rfl⟩ := hcursor.exists_cons
  have hproper := hcursor.proper token List.mem_cons_self
  have hviable : Viable (numerals * language) [] := viable_mul.mpr ⟨viable_numerals, hviable⟩
  have hother : token.kind ≠ .number →
      Viable (numerals * language) [] ∧ (numerals * language).leftQuotient [token.lexeme] = 0 :=
    fun hne => ⟨hviable, left_quotient_one_of_not fun hnumeral => hne hnumeral.1⟩
  by_cases hlarge : token.kind = .number ∧ readInt64? token.text.toList = none
  · -- The token has been taken when the error is made, so the position is the one before.
    obtain ⟨hkind, hread⟩ := hlarge
    have hnext : (numerals * language).leftQuotient [token.lexeme] = 0 :=
      left_quotient_one_of_not fun hnumeral =>
        absurd hread ((hproper.is_numeral_iff hkind).mp hnumeral.2)
    refine Tracks.of_eq ?_ (Tracks.fail (.enumNumber token.text) hviable hnext)
    rw [expect_bind hkind, hread]
    rfl
  · refine (tracks_expect hother).bind ?_
    rintro _ _ _ ⟨rfl, rfl, rfl, hkind⟩
    have hread : readInt64? token.text.toList ≠ none := fun hread => hlarge ⟨hkind, hread⟩
    have hquotient : (numerals * language).leftQuotient [token.lexeme] = language :=
      left_quotient_one_of ⟨hkind, (hproper.is_numeral_iff hkind).mpr hread⟩
    obtain ⟨value, hvalue⟩ := Option.ne_none_iff_exists'.mp hread
    rw [hvalue]
    exact Tracks.pure ⟨hquotient, leaves_next (hcursor.tail (by rw [hkind]; decide))⟩

/-- The end of a list with the bracket, or more of it behind a comma. -/
theorem passes_more {one : β} {more : Parsing α} {f : α → β} {others : Language Lexeme}
    (hcursor : Ended cursor.tokens) (hviable : Viable language [])
    (hmore : ∀ after, Leaves cursor after → Passes others language after more) :
    Passes (ofKind .closingBracket * language + ofKind .comma * others) language cursor
      (do
        if ← accept .closingBracket then pure one
        else
          let _ ← expect .comma
          let rest ← more
          pure (f rest)) := by
  obtain ⟨tokens, position⟩ := cursor
  obtain ⟨token, tokens, rfl⟩ := hcursor.exists_cons
  have hproper := hcursor.proper token List.mem_cons_self
  have hquotient {kind : TokenKind} (hkind : token.kind = kind) :
      (ofKind .closingBracket * language + ofKind .comma * others).leftQuotient [token.lexeme] =
        (if kind = .closingBracket then language else 0) +
          if kind = .comma then others else 0 := by
    rw [left_quotient_add, left_quotient_of_kind hproper, left_quotient_of_kind hproper, ← hkind]
    rfl
  refine tracks_accept.bind ?_
  intro left after found hfound
  by_cases hclosing : token.kind = .closingBracket
  · rw [if_pos hclosing] at hfound
    obtain ⟨rfl, rfl, rfl⟩ := hfound
    have hended : Ended tokens := hcursor.tail (by rw [hclosing]; decide)
    exact Tracks.pure ⟨by simpa using hquotient hclosing, leaves_next hended⟩
  · rw [if_neg hclosing] at hfound
    obtain ⟨rfl, rfl, rfl⟩ := hfound
    refine (tracks_expect fun hcomma => ⟨by simp [hviable], ?_⟩).bind ?_
    · simpa [hclosing, hcomma] using hquotient rfl
    · rintro _ _ _ ⟨rfl, rfl, rfl, hcomma⟩
      have hothers : (ofKind .closingBracket * language + ofKind .comma * others).leftQuotient
          [token.lexeme] = others := by simpa using hquotient hcomma
      have hleaves : Leaves ⟨token :: tokens, position⟩ ⟨tokens, position + 1⟩ :=
        leaves_next (hcursor.tail (by rw [hcomma]; decide))
      rw [hothers]
      refine (hmore _ hleaves).bind ?_
      intro after list hlist
      exact Tracks.pure ⟨rfl, hleaves.trans hlist⟩

end Passing

/-! ### The parsers of the grammar -/

/-- A name and a number. -/
theorem passes_member (hcursor : Ended cursor.tokens) (hviable : Viable language []) :
    Passes (ofKind .identifier * (ofKind .comma * (numerals * language))) language cursor
      member := by
  refine (passes_expect (by decide) hcursor (by simp [hviable])).bind fun _ name hname => ?_
  refine (passes_expect (by decide) hname.ended (by simp [hviable])).bind fun _ _ hcomma => ?_
  exact (passes_numeral _ hcomma.ended hviable).behind (hname.trans hcomma)

/-- The members of an enum. -/
theorem passes_members {bound : Nat} (hcursor : Ended cursor.tokens)
    (hviable : Viable language []) (hbound : cursor.tokens.length < bound) :
    Passes (memberLists * language) language cursor (members bound) := by
  induction bound generalizing cursor with
  | zero => exact absurd hbound (Nat.not_lt_zero _)
  | succ bound ih =>
      rw [member_lists_eq, members]
      simp only [mul_assoc, add_mul]
      refine (passes_member hcursor (by simp [hviable])).bind fun _ first hfirst => ?_
      refine (passes_more hfirst.ended hviable fun after hafter => ?_).behind hfirst
      have hshorter := (hfirst.trans hafter).shorter
      exact ih hafter.ended (by omega)

variable {inflector : Inflector}

/-- A parse behind a look at the next token. -/
theorem peek_bind (next : Token → Parsing α) :
    (peek >>= next) ⟨token :: tokens, position⟩ = next token ⟨token :: tokens, position⟩ :=
  rfl

/-- The first token of a type decides what follows. -/
theorem tracks_opening {kind : TokenKind} {next : Token → Parsing β}
    {result : Language Lexeme → Cursor → β → Prop} (hcursor : Ended (token :: tokens))
    (hkind : token.kind = kind) (hnotEnd : kind ≠ .endOfDefinition)
    (hnext : Leaves ⟨token :: tokens, position⟩ ⟨tokens, position + 1⟩ →
      Tracks (behind language kind) ⟨tokens, position + 1⟩ (next token) result) :
    Tracks (types * language) ⟨token :: tokens, position⟩ (expect kind >>= next) result := by
  refine (tracks_expect fun hne => absurd hkind hne).bind ?_
  rintro _ _ _ ⟨rfl, rfl, rfl, -⟩
  have hquotient : (types * language).leftQuotient [token.lexeme] = behind language token.kind :=
    left_quotient_types (hcursor.proper token List.mem_cons_self)
  rw [hquotient, hkind]
  exact hnext (leaves_next (hcursor.tail (hkind ▸ hnotEnd)))

/-- A primitive. -/
theorem passes_primitive (label : Label) (hcursor : Ended (token :: tokens))
    (hkind : token.kind = .primitiveKeyword) :
    Passes (types * language) language ⟨token :: tokens, position⟩ (primitive label) := by
  have hproper := hcursor.proper token List.mem_cons_self
  rw [Token.lexeme, hkind] at hproper
  obtain ⟨kind, hkeyword⟩ := hproper.resolve_right fun hending => nomatch hending
  refine tracks_opening hcursor hkind (by decide) fun hleaves => ?_
  rw [Primitive.of_keyword_eq_some.mpr hkeyword]
  exact Tracks.pure ⟨rfl, hleaves⟩

/-- A reference. -/
theorem passes_reference (label : Label) (hcursor : Ended (token :: tokens))
    (hkind : token.kind = .referenceMark) (hviable : Viable language []) :
    Passes (types * language) language ⟨token :: tokens, position⟩ (reference label) := by
  refine tracks_opening hcursor hkind (by decide) fun hmark => ?_
  refine (passes_expect (by decide) hmark.ended (by simp [hviable])).bind fun _ table htable => ?_
  refine (passes_expect (by decide) htable.ended (by simp [hviable])).bind fun _ _ hcomma => ?_
  refine (passes_expect (by decide) hcomma.ended hviable).bind fun _ typeName htypeName => ?_
  exact Tracks.pure ⟨rfl, hmark.trans (htable.trans (hcomma.trans htypeName))⟩

/-- An enum. -/
theorem passes_enum {bound : Nat} (label : Label) (hcursor : Ended (token :: tokens))
    (hkind : token.kind = .beginEnum) (hviable : Viable language [])
    (hbound : tokens.length < bound) :
    Passes (types * language) language ⟨token :: tokens, position⟩ (enum bound label) := by
  refine tracks_opening hcursor hkind (by decide) fun hopening => ?_
  refine (passes_members hopening.ended hviable hbound).bind fun _ list hlist => ?_
  refine (tracks_reject _).bind ?_
  rintro _ _ _ ⟨rfl, rfl⟩
  exact Tracks.pure ⟨rfl, hopening.trans hlist⟩

mutual

/-- A type. Each type and each list of subfields takes one from the bound, and each type takes at
least one token. -/
theorem passes_type {language : Language Lexeme} {cursor : Cursor} (bound : Nat) (label : Label)
    (hcursor : Ended cursor.tokens) (hviable : Viable language [])
    (hbound : 2 * cursor.tokens.length < bound) :
    Passes (types * language) language cursor (type inflector bound label) := by
  match bound with
  | 0 => exact absurd hbound (Nat.not_lt_zero _)
  | bound + 1 =>
      obtain ⟨tokens, position⟩ := cursor
      obtain ⟨token, tokens, rfl⟩ := hcursor.exists_cons
      have hbound : 2 * tokens.length + 1 < bound := by
        rw [List.length_cons] at hbound
        omega
      have hinner : 2 * tokens.length < bound := by omega
      rw [type]
      refine Tracks.of_eq (peek_bind _) ?_
      split
      · rename_i hkind
        exact passes_primitive label hcursor hkind
      · rename_i hkind
        refine tracks_opening hcursor hkind (by decide) fun hopening => ?_
        refine (passes_type bound _ hopening.ended (by simp [hviable]) hinner).bind
          fun _ element helement => ?_
        refine (passes_expect (by decide) helement.ended hviable).bind fun _ _ hclosing => ?_
        exact Tracks.pure ⟨rfl, hopening.trans (helement.trans hclosing)⟩
      · rename_i hkind
        refine tracks_opening hcursor hkind (by decide) fun hopening => ?_
        refine (passes_type bound _ hopening.ended (by simp [hviable]) hinner).bind
          fun _ key hkey => ?_
        refine (passes_expect (by decide) hkey.ended (by simp [hviable])).bind
          fun afterComma _ hcomma => ?_
        have hless : afterComma.tokens.length < tokens.length := (hkey.trans hcomma).shorter
        refine (passes_type bound _ hcomma.ended (by simp [hviable]) (by omega)).bind
          fun _ value hvalue => ?_
        refine (passes_expect (by decide) hvalue.ended hviable).bind fun _ _ hclosing => ?_
        exact Tracks.pure
          ⟨rfl, hopening.trans (hkey.trans (hcomma.trans (hvalue.trans hclosing)))⟩
      · rename_i hkind
        refine tracks_opening hcursor hkind (by decide) fun hopening => ?_
        refine (passes_subfields bound _ hopening.ended hviable hbound).bind
          fun _ fields hfields => ?_
        refine (tracks_reject _).bind ?_
        rintro _ _ _ ⟨rfl, rfl⟩
        exact Tracks.pure ⟨rfl, hopening.trans hfields⟩
      · rename_i hkind
        exact passes_enum label hcursor hkind hviable (by omega)
      · rename_i hkind
        exact passes_reference label hcursor hkind hviable
      · have hproper := hcursor.proper token List.mem_cons_self
        have hnothing : (types * language).leftQuotient [token.lexeme] = 0 := by
          rw [left_quotient_types hproper, Token.lexeme, behind]
          all_goals assumption
        refine Tracks.of_eq ?_ (Tracks.fail (.unexpected token) (by simp [hviable]) hnothing)
        rfl

/-- Subfields, up to the closing bracket. -/
theorem passes_subfields {language : Language Lexeme} {cursor : Cursor} (bound : Nat)
    (table : String) (hcursor : Ended cursor.tokens) (hviable : Viable language [])
    (hbound : 2 * cursor.tokens.length + 1 < bound) :
    Passes (subfieldLists * language) language cursor (subfields inflector bound table) := by
  match bound with
  | 0 => exact absurd hbound (Nat.not_lt_zero _)
  | bound + 1 =>
      rw [subfield_lists_eq, subfields]
      simp only [mul_assoc, add_mul]
      refine (passes_type bound _ hcursor (by simp [hviable]) (by omega)).bind
        fun _ unnamed htype => ?_
      refine (passes_expect (by decide) htype.ended (by simp [hviable])).bind
        fun _ _ hcomma => ?_
      refine (passes_expect (by decide) hcomma.ended (by simp [hviable])).bind
        fun _ name hname => ?_
      have hfirst := htype.trans (hcomma.trans hname)
      refine (passes_more hname.ended hviable fun after hafter => ?_).behind hfirst
      have hshorter := (hfirst.trans hafter).shorter
      exact passes_subfields bound table hafter.ended hviable (by omega)

end

/-- A definition, behind which nothing is left to parse. -/
theorem tracks_definition {bound : Nat} (label : Label) (hcursor : Ended cursor.tokens)
    (hbound : 2 * cursor.tokens.length < bound) :
    Tracks (types * ofKind .endOfDefinition) cursor (definition inflector bound label)
      fun _ _ _ => True := by
  refine (passes_type bound label hcursor (by simp) hbound).bind ?_
  rintro ⟨tokens, position⟩ field ⟨hended, -⟩
  obtain ⟨token, tokens, rfl⟩ := hended.exists_cons
  have hquotient : (ofKind .endOfDefinition * 1).leftQuotient [token.lexeme] =
      if token.kind = .endOfDefinition then 1 else 0 :=
    left_quotient_of_kind (hended.proper token List.mem_cons_self) .endOfDefinition
  rw [mul_one] at hquotient
  refine (tracks_expect fun hkind => ⟨by simp, ?_⟩).bind fun _ _ _ _ => Tracks.pure True.intro
  rw [hquotient, if_neg hkind]

end Parsing

namespace Field

/-- The tokens of a text end with the end of the definition. -/
theorem ended_of_scan {definition : String} (h : Token.scan definition = .ok tokens) :
    Ended tokens := by
  obtain ⟨lexemes, hcuts, hmap⟩ := Token.scan_sound h
  refine ⟨hcuts.proper_of_map hmap, ?_⟩
  obtain ⟨before, ends, rfl, -, hends⟩ := List.map_eq_append_iff.mp hmap
  obtain ⟨last, rfl, hlast⟩ := List.map_eq_singleton_iff.mp hends
  exact ⟨before, last, rfl, congrArg Lexeme.kind hlast⟩

/-- Lexemes that can be continued to those of a type and the end. -/
theorem viable_definition {used : List Lexeme} :
    Viable (types * ofKind .endOfDefinition) used ↔
      ∃ derivation : TypeDerivation, used <+: derivation.lexemes ++ [.ending] := by
  constructor
  · rintro ⟨_, ⟨_, ⟨derivation, rfl⟩, _, ⟨⟨_, text⟩, ⟨rfl, hproper⟩, rfl⟩, rfl⟩, hleads⟩
    rw [hproper.resolve_left fun hadmits => nomatch hadmits] at hleads
    exact ⟨derivation, hleads⟩
  · rintro ⟨derivation, hleads⟩
    exact ⟨_, Language.append_mem_mul ⟨derivation, rfl⟩ ⟨.ending, ⟨rfl, .inr rfl⟩, rfl⟩, hleads⟩

/-- A syntax error is at a token of the list. The tokens before it can be continued to a derived
definition, and the tokens up to it cannot. -/
theorem rejected_at_first_misfit {inflector : Inflector} {label : Label} {definition : String}
    {problem : SyntaxProblem} (hscan : Token.scan definition = .ok tokens)
    (h : ofTokens inflector label tokens = .error (.parse problem position)) :
    position < tokens.length ∧
      (∃ derivation : TypeDerivation,
        (tokens.take position).map Token.lexeme <+: derivation.lexemes ++ [.ending]) ∧
      ∀ derivation : TypeDerivation,
        ¬ (tokens.take (position + 1)).map Token.lexeme <+: derivation.lexemes ++ [.ending] := by
  have htracks : Parsing.Tracks (types * ofKind .endOfDefinition) ⟨tokens, 0⟩
      (Parsing.definition inflector (2 * tokens.length + 1) label) fun _ _ _ => True :=
    Parsing.tracks_definition label (ended_of_scan hscan) (Nat.lt_succ_self _)
  obtain ⟨taken, next, rest, htokens, hposition, hviable, hnext⟩ :=
    htracks.failure (run_eq_error.mp h)
  obtain rfl : tokens = taken ++ next :: rest := htokens
  obtain rfl : position = taken.length := hposition.trans (Nat.zero_add _)
  have hupTo : (taken ++ next :: rest).take (taken.length + 1) = taken ++ [next] :=
    List.take_length_add_append 1
  rw [List.take_left, hupTo]
  refine ⟨by simp, viable_definition.mp hviable, ?_⟩
  intro derivation hleads
  exact hnext (viable_definition.mpr ⟨derivation, hleads⟩)

/-- A comma instead of the closing bracket of a list. -/
theorem open_list_rejected :
    (Token.scan "List<int," = .ok [⟨.beginList, "List<", 1⟩, ⟨.primitiveKeyword, "int", 6⟩,
        ⟨.comma, ",", 9⟩, ⟨.endOfDefinition, "", 10⟩] ∧
      ofTokens English.inflector ⟨"Heroes", "scores"⟩ [⟨.beginList, "List<", 1⟩,
        ⟨.primitiveKeyword, "int", 6⟩, ⟨.comma, ",", 9⟩, ⟨.endOfDefinition, "", 10⟩] =
        .error (.parse (.expected .closingBracket ⟨.comma, ",", 9⟩) 2)) ∧
      (∃ derivation : TypeDerivation,
        [.sign .beginList, ⟨.primitiveKeyword, "int"⟩] <+: derivation.lexemes ++ [.ending]) ∧
      ∀ derivation : TypeDerivation,
        ¬ [.sign .beginList, ⟨.primitiveKeyword, "int"⟩, .sign .comma] <+:
          derivation.lexemes ++ [.ending] := by
  have hscan : Token.scan "List<int," = .ok [⟨.beginList, "List<", 1⟩,
      ⟨.primitiveKeyword, "int", 6⟩, ⟨.comma, ",", 9⟩, ⟨.endOfDefinition, "", 10⟩] := by cbv
  have herror : ofTokens English.inflector ⟨"Heroes", "scores"⟩ [⟨.beginList, "List<", 1⟩,
      ⟨.primitiveKeyword, "int", 6⟩, ⟨.comma, ",", 9⟩, ⟨.endOfDefinition, "", 10⟩] =
      .error (.parse (.expected .closingBracket ⟨.comma, ",", 9⟩) 2) := rfl
  obtain ⟨-, hviable, hrejected⟩ := rejected_at_first_misfit hscan herror
  exact ⟨⟨hscan, herror⟩, hviable, hrejected⟩

-- A number that does not fit is the misfit itself, although the parser has taken it already.
example :
    ofTokens English.inflector ⟨"Heroes", "color"⟩ [⟨.beginEnum, "Enum<", 1⟩,
      ⟨.identifier, "red", 6⟩, ⟨.comma, ",", 9⟩, ⟨.number, "9223372036854775808", 10⟩,
      ⟨.closingBracket, ">", 29⟩, ⟨.endOfDefinition, "", 30⟩] =
      .error (.parse (.enumNumber "9223372036854775808") 3) :=
  rfl

end Field

end SheetWire
