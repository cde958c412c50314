import SheetWire.Proofs.Definition.Parsing

/-!
# The definitions that are accepted

A definition is accepted exactly if the grammar derives it (`accepts_exactly_derived`). It has one
derivation then, because the lexemes of a derivation tell it apart from every other one. The field
that the definition stands for is the field of the derivation, and writing the field gives the
definition back without the zeros in front of the numbers of enum members.
-/

namespace SheetWire

open Text Number Naming

/-! ### The lexemes of a derivation determine it -/

/-- Members and what stands behind them can be told from the lexemes. -/
theorem MemberDerivation.unique :
    (members others : MemberDerivation) → {rest tail : List Lexeme} →
      members.lexemes ++ rest = others.lexemes ++ tail → members = others ∧ rest = tail
  | .last name number, .last name' number', rest, tail, h => by
      simp only [lexemes, List.cons_append, List.nil_append, List.cons.injEq, Lexeme.mk.injEq,
        true_and] at h
      exact ⟨by rw [Identifier.ext h.1, Numeral.ext h.2.1], h.2.2⟩
  | .more name number members, .more name' number' others, rest, tail, h => by
      simp only [lexemes, List.cons_append, List.cons.injEq, Lexeme.mk.injEq, true_and] at h
      obtain ⟨rfl, hrest⟩ := MemberDerivation.unique members others h.2.2
      exact ⟨by rw [Identifier.ext h.1, Numeral.ext h.2.1], hrest⟩
  | .last _ _, .more _ _ _, _, _, h | .more _ _ _, .last _ _, _, _, h => by
      simp [lexemes, Lexeme.sign] at h

mutual

/-- A type and what stands behind it can be told from the lexemes. -/
theorem TypeDerivation.unique :
    (derivation other : TypeDerivation) → {rest tail : List Lexeme} →
      derivation.lexemes ++ rest = other.lexemes ++ tail → derivation = other ∧ rest = tail
  | .primitive kind, other, rest, tail, h => by
      cases other with
      | primitive kind' =>
          obtain ⟨hlexeme, hrest⟩ := List.cons.inj h
          have hkind := Primitive.of_keyword_eq_some.mpr (congrArg Lexeme.text hlexeme)
          rw [Primitive.of_keyword_eq_some.mpr rfl] at hkind
          exact ⟨by rw [Option.some.inj hkind], hrest⟩
      | _ => exact nomatch congrArg Lexeme.kind (List.cons.inj h).1
  | .list element, other, rest, tail, h => by
      cases other with
      | list element' =>
          simp only [TypeDerivation.lexemes, List.cons_append, List.append_assoc, List.nil_append,
            List.cons.injEq, true_and] at h
          obtain ⟨rfl, hclosing⟩ := TypeDerivation.unique element element' h
          exact ⟨rfl, (List.cons.inj hclosing).2⟩
      | _ => exact nomatch congrArg Lexeme.kind (List.cons.inj h).1
  | .dictionary key value, other, rest, tail, h => by
      cases other with
      | dictionary key' value' =>
          simp only [TypeDerivation.lexemes, List.cons_append, List.append_assoc, List.nil_append,
            List.cons.injEq, true_and] at h
          obtain ⟨rfl, hcomma⟩ := TypeDerivation.unique key key' h
          obtain ⟨rfl, hclosing⟩ := TypeDerivation.unique value value' (List.cons.inj hcomma).2
          exact ⟨rfl, (List.cons.inj hclosing).2⟩
      | _ => exact nomatch congrArg Lexeme.kind (List.cons.inj h).1
  | .struct subfields, other, rest, tail, h => by
      cases other with
      | struct subfields' =>
          obtain ⟨rfl, hrest⟩ := SubfieldDerivation.unique subfields subfields' (List.cons.inj h).2
          exact ⟨rfl, hrest⟩
      | _ => exact nomatch congrArg Lexeme.kind (List.cons.inj h).1
  | .enum members, other, rest, tail, h => by
      cases other with
      | enum members' =>
          obtain ⟨rfl, hrest⟩ := MemberDerivation.unique members members' (List.cons.inj h).2
          exact ⟨rfl, hrest⟩
      | _ => exact nomatch congrArg Lexeme.kind (List.cons.inj h).1
  | .reference table typeName, other, rest, tail, h => by
      cases other with
      | reference table' typeName' =>
          simp only [TypeDerivation.lexemes, List.cons_append, List.nil_append, List.cons.injEq,
            Lexeme.mk.injEq, true_and] at h
          exact ⟨by rw [Identifier.ext h.1, Identifier.ext h.2.1], h.2.2⟩
      | _ => exact nomatch congrArg Lexeme.kind (List.cons.inj h).1

/-- Subfields and what stands behind them can be told from the lexemes. -/
theorem SubfieldDerivation.unique :
    (subfields others : SubfieldDerivation) → {rest tail : List Lexeme} →
      subfields.lexemes ++ rest = others.lexemes ++ tail → subfields = others ∧ rest = tail
  | .last type name, .last type' name', rest, tail, h => by
      simp only [SubfieldDerivation.lexemes, List.append_assoc, List.cons_append,
        List.nil_append] at h
      obtain ⟨rfl, hname⟩ := TypeDerivation.unique type type' h
      simp only [List.cons.injEq, Lexeme.mk.injEq, true_and] at hname
      exact ⟨by rw [Identifier.ext hname.1], hname.2⟩
  | .more type name subfields, .more type' name' others, rest, tail, h => by
      simp only [SubfieldDerivation.lexemes, List.append_assoc, List.cons_append] at h
      obtain ⟨rfl, hname⟩ := TypeDerivation.unique type type' h
      simp only [List.cons.injEq, Lexeme.mk.injEq, true_and] at hname
      obtain ⟨rfl, hrest⟩ := SubfieldDerivation.unique subfields others hname.2
      exact ⟨by rw [Identifier.ext hname.1], hrest⟩
  | .last type _, .more type' _ _, _, _, h | .more type _ _, .last type' _, _, _, h => by
      -- Behind the name stands a closing bracket in the one and a comma in the other.
      simp only [SubfieldDerivation.lexemes, List.append_assoc, List.cons_append] at h
      obtain ⟨-, hname⟩ := TypeDerivation.unique type type' h
      simp [Lexeme.sign] at hname

end

namespace TypeDerivation

/-- The text of a type is cut into its lexemes. -/
theorem cuts_text (derivation : TypeDerivation) :
    Cuts derivation.text.toList derivation.lexemes := by
  have hstops : Stops [] := fun c hc => absurd hc (by simp)
  have hcuts := cuts hstops Cuts.done derivation
  rwa [List.append_nil, List.append_nil] at hcuts

/-- A text has one derivation. -/
theorem text_injective {derivation other : TypeDerivation} (h : derivation.text = other.text) :
    derivation = other := by
  have hlexemes := (h ▸ derivation.cuts_text).unique other.cuts_text
  exact (unique derivation other (congrArg (· ++ []) hlexemes)).1

end TypeDerivation

namespace Parsing

variable {inflector : Inflector} {label : Label} {bound : Nat}

/-- The lexemes of a definition are those of a type and the end. -/
theorem definition_sound :
    Consumes (definition inflector bound label) fun used field =>
      ∃ before, used = before ++ [.ending] ∧ Denotes inflector label before field := by
  refine (type_sound bound label).bind ?_
  intro before field hbefore
  refine (consumes_expect .endOfDefinition).bind ?_
  rintro _ token ⟨rfl, hproper⟩
  rw [hproper.resolve_left fun h => nomatch h]
  exact Consumes.pure ⟨before, rfl, hbefore⟩

/-- The lexemes of a type and the end are a definition. -/
theorem definition_complete {derivation : TypeDerivation} (hdistinct : derivation.Distinct)
    (hbound : derivation.lexemes.length ≤ bound) :
    Parses (definition inflector bound label) (derivation.lexemes ++ [.ending])
      (derivation.field inflector label) :=
  (type_complete label derivation hdistinct hbound).bind
    (Parses.expect fun _ _ => Parses.pure _)

end Parsing

namespace Field

variable {inflector : Inflector} {label : Label} {definition : String} {field : Field}

/-- The end of the definition is the last lexeme. -/
theorem eq_of_append_ending {before lexemes rest : List Lexeme}
    (h : before ++ [.ending] ++ rest = lexemes ++ [.ending]) (hlexemes : .ending ∉ lexemes) :
    before = lexemes := by
  cases rest using List.reverseRecOn with
  | nil => simpa using h
  | append_singleton rest last =>
      rw [← List.append_assoc, List.append_assoc before] at h
      have hinit := List.append_inj_left' h rfl
      rw [← hinit] at hlexemes
      simp at hlexemes

/-- An accepted definition is derived, and the field is the one of its derivation. -/
theorem derived_of_accepted (h : ofDefinition inflector label definition = .ok field) :
    ∃ derivation : TypeDerivation,
      derivation.Derives definition ∧ derivation.field inflector label = field := by
  obtain ⟨tokens, hscan, hparse⟩ := bind_eq_ok.mp h
  obtain ⟨after, hrun⟩ := run_eq_ok.mp hparse
  obtain ⟨lexemes, hcuts, hmap⟩ := Token.scan_sound hscan
  obtain ⟨taken, htokens, before, hbefore, derivation, rfl, hdistinct, hfield⟩ :=
    Parsing.definition_sound _ _ _ (hcuts.proper_of_map hmap) hrun
  -- The tokens that were taken are all of them, so the text is that of the derivation.
  have hall : derivation.lexemes ++ [.ending] ++ after.tokens.map Token.lexeme =
      lexemes ++ [.ending] := by
    rw [← hbefore, ← hmap, ← List.map_append, ← htokens]
  have hlexemes : derivation.lexemes = lexemes :=
    eq_of_append_ending hall fun hmem => nomatch hcuts.admits _ hmem
  have htext : derivation.text.toList = definition.toList := by
    rw [← derivation.cuts_text.flatten, hlexemes, hcuts.flatten]
  exact ⟨derivation, ⟨String.toList_injective htext, hdistinct⟩, hfield⟩

/-- A derived definition is accepted, and the field is the one of the derivation. -/
theorem accepted_of_derived {derivation : TypeDerivation} (h : derivation.Derives definition) :
    ofDefinition inflector label definition = .ok (derivation.field inflector label) := by
  obtain ⟨rfl, hdistinct⟩ := h
  obtain ⟨tokens, hscan, hmap⟩ := Token.scan_complete derivation.cuts_text 1
  have hlength : derivation.lexemes.length ≤ 2 * tokens.length + 1 := by
    have hlengths := congrArg List.length hmap
    simp only [List.length_map, List.length_append, List.length_singleton] at hlengths
    omega
  have hrun : Parsing.definition inflector _ label ⟨tokens ++ [], 0⟩ = _ :=
    Parsing.definition_complete hdistinct hlength tokens [] 0 hmap
  rw [List.append_nil] at hrun
  exact bind_eq_ok.mpr ⟨tokens, hscan, run_eq_ok.mpr ⟨_, hrun⟩⟩

/-- A definition is accepted exactly if it is derived, which it is in one way. The field is the one
that the derivation denotes, and it is written as the definition without leading zeros. -/
theorem accepts_exactly_derived (inflector : Inflector) (label : Label) (definition : String) :
    (∀ field, ofDefinition inflector label definition = .ok field ↔
      ∃ derivation : TypeDerivation, derivation.Derives definition ∧
        derivation.field inflector label = field ∧
        field.written = derivation.withoutLeadingZeros.text) ∧
      {derivation : TypeDerivation | derivation.Derives definition}.Subsingleton := by
  refine ⟨fun field => ⟨fun h => ?_, ?_⟩, ?_⟩
  · obtain ⟨derivation, hderives, rfl⟩ := derived_of_accepted h
    exact ⟨derivation, hderives, rfl, derivation.written_field inflector label⟩
  · rintro ⟨derivation, hderives, rfl, -⟩
    exact accepted_of_derived hderives
  · intro derivation hderives other hother
    exact TypeDerivation.text_injective (hderives.text.trans hother.text.symm)

example :
    (ofDefinition English.inflector ⟨"Heroes", "skin"⟩
      "Struct<Enum<red,007>,color,@Items,Item,item>").map written =
        .ok "Struct<Enum<red,7>,color,@Items,Item,item>" := by
  cbv

/-- A field that was read from a definition is read again from what it is written as. -/
theorem read_written (h : ofDefinition inflector label definition = .ok field) :
    ofDefinition inflector label field.written = .ok field := by
  obtain ⟨derivation, hderives, rfl⟩ := derived_of_accepted h
  rw [derivation.written_field, ← derivation.field_without_leading_zeros]
  exact accepted_of_derived ⟨rfl, derivation.distinct_without_leading_zeros hderives.distinct⟩

end Field

end SheetWire
