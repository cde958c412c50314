import Mathlib
import SheetWire.Definition.Parser
import SheetWire.Proofs.Number.Decimal

/-!
# The grammar of type definitions

    type   := primitive | List<type> | Map<type,type> | Struct<type,name{,type,name}>
            | Enum<name,number{,name,number}> | @name,name

Derivations are trees with one constructor for every alternative, and the words in them carry the
proof that they are names and numbers. A derivation has a text and stands for a field under a label:
the element of a list has the singular of the list's name, the parts of dictionaries and the types
of subfields have no name, and structs and enums take their type names from the names they stand
under. Fields are written back as definitions, and what is lost on the way are the zeros in front of
the numbers of enum members (`written_field`).
-/

namespace SheetWire

open Text Number Naming

/-- Whether a text is a name: a word that is neither the keyword of a primitive nor all digits. -/
structure IsIdentifier (text : String) : Prop where
  nonempty : text ≠ ""
  word : text.toList.all isWord = true
  notKeyword : ∀ kind : Primitive, kind.keyword ≠ text
  notDigits : text.toList.all isDigit = false

/-- Whether a text is a number: a run of digits whose value fits 64 bits with sign. -/
structure IsNumeral (text : String) : Prop where
  nonempty : text ≠ ""
  digits : text.toList.all isDigit = true
  fits : Nat.ofDigitChars 10 text.toList 0 < 2 ^ 63

/-- A name in a definition. -/
@[ext]
structure Identifier where
  text : String
  proper : IsIdentifier text

/-- A number in a definition. -/
@[ext]
structure Numeral where
  text : String
  proper : IsNumeral text

namespace Numeral

/-- What a number stands for. -/
def value (numeral : Numeral) : Int64 :=
  Int64.ofInt (Nat.ofDigitChars 10 numeral.text.toList 0)

/-- The value of a number as a whole number. -/
theorem toInt_value (numeral : Numeral) :
    numeral.value.toInt = Nat.ofDigitChars 10 numeral.text.toList 0 := by
  have hfits := numeral.proper.fits
  exact Int64.toInt_ofInt_of_le (by omega) (by omega)

/-- The zeros in front do not count, and what is left is a number. -/
theorem proper_without_leading_zeros (numeral : Numeral) :
    IsNumeral (String.ofList (withoutLeadingZeros numeral.text.toList)) := by
  rw [← digits_without_leading_zeros numeral.proper.digits]
  refine ⟨?_, ?_, ?_⟩
  · rw [Ne, String.ofList_eq_empty_iff]
    exact digits_ne_nil _
  · rw [String.toList_ofList]
    exact all_is_digit_digits _
  · rw [String.toList_ofList, value_digits]
    exact numeral.proper.fits

/-- A number without the zeros in front. -/
def withoutLeadingZeros (numeral : Numeral) : Numeral :=
  ⟨String.ofList (Number.withoutLeadingZeros numeral.text.toList),
    numeral.proper_without_leading_zeros⟩

/-- The zeros in front do not change the value. -/
theorem value_without_leading_zeros (numeral : Numeral) :
    numeral.withoutLeadingZeros.value = numeral.value := by
  unfold withoutLeadingZeros value
  rw [String.toList_ofList, ← digits_without_leading_zeros numeral.proper.digits, value_digits]

/-- Writing the value of a number takes the zeros in front away. -/
theorem decimal_value (numeral : Numeral) :
    decimalString numeral.value.toInt = numeral.withoutLeadingZeros.text := by
  rw [decimalString, toInt_value, decimal_natCast,
    digits_without_leading_zeros numeral.proper.digits]
  rfl

end Numeral

/-- The members of an enum, at least one. -/
inductive MemberDerivation where
  | last (name : Identifier) (number : Numeral)
  | more (name : Identifier) (number : Numeral) (rest : MemberDerivation)

mutual

/-- A type. -/
inductive TypeDerivation where
  | primitive (kind : Primitive)
  | list (element : TypeDerivation)
  | dictionary (key value : TypeDerivation)
  | struct (subfields : SubfieldDerivation)
  | enum (members : MemberDerivation)
  | reference (table typeName : Identifier)

/-- The subfields of a struct, at least one. -/
inductive SubfieldDerivation where
  | last (type : TypeDerivation) (name : Identifier)
  | more (type : TypeDerivation) (name : Identifier) (rest : SubfieldDerivation)

end

/-! ### The text of a derivation -/

/-- The text of members. -/
def MemberDerivation.text : MemberDerivation → String
  | .last name number => name.text ++ "," ++ number.text
  | .more name number rest => name.text ++ "," ++ number.text ++ "," ++ rest.text

mutual

/-- The text of a type. -/
def TypeDerivation.text : TypeDerivation → String
  | .primitive kind => kind.keyword
  | .list element => "List<" ++ element.text ++ ">"
  | .dictionary key value => "Map<" ++ key.text ++ "," ++ value.text ++ ">"
  | .struct subfields => "Struct<" ++ subfields.text ++ ">"
  | .enum members => "Enum<" ++ members.text ++ ">"
  | .reference table typeName => "@" ++ table.text ++ "," ++ typeName.text

/-- The text of subfields. -/
def SubfieldDerivation.text : SubfieldDerivation → String
  | .last type name => type.text ++ "," ++ name.text
  | .more type name rest => type.text ++ "," ++ name.text ++ "," ++ rest.text

end

/-! ### Names and numbers that must differ -/

/-- The members that the derivation stands for. -/
def MemberDerivation.members : MemberDerivation → List Member
  | .last name number => [⟨name.text, number.value⟩]
  | .more name number rest => ⟨name.text, number.value⟩ :: rest.members

/-- The names of subfields. -/
def SubfieldDerivation.names : SubfieldDerivation → List String
  | .last _ name => [name.text]
  | .more _ name rest => name.text :: rest.names

mutual

/-- Whether the names differ within each struct, and names and numbers within each enum. -/
def TypeDerivation.Distinct : TypeDerivation → Prop
  | .list element => element.Distinct
  | .dictionary key value => key.Distinct ∧ value.Distinct
  | .struct subfields => subfields.names.Nodup ∧ subfields.Distinct
  | .enum members =>
      (members.members.map Member.name).Nodup ∧ (members.members.map Member.value).Nodup
  | _ => True

/-- Whether the names differ within each struct of some subfields' types, and so on. -/
def SubfieldDerivation.Distinct : SubfieldDerivation → Prop
  | .last type _ => type.Distinct
  | .more type _ rest => type.Distinct ∧ rest.Distinct

end

/-- Whether a derivation derives a definition. -/
structure TypeDerivation.Derives (derivation : TypeDerivation) (definition : String) : Prop where
  text : derivation.text = definition
  distinct : derivation.Distinct

/-! ### The field of a derivation -/

mutual

/-- The field that a type stands for under a label. -/
def TypeDerivation.field (inflector : Inflector) (label : Label) : TypeDerivation → Field
  | .primitive kind => .primitive label kind
  | .list element =>
      .list label (element.field inflector ⟨label.table, singularize inflector label.name⟩)
  | .dictionary key value =>
      .dictionary label (key.field inflector ⟨label.table, ""⟩)
        (value.field inflector ⟨label.table, ""⟩)
  | .struct subfields =>
      .struct label (structName label.name) (subfields.fields inflector label.table)
  | .enum members => .enum label (enumName label.name) members.members
  | .reference table typeName => .reference label ⟨table.text, typeName.text⟩

/-- The fields that subfields stand for in a table. -/
def SubfieldDerivation.fields (inflector : Inflector) (table : String) :
    SubfieldDerivation → List Field
  | .last type name => [(type.field inflector ⟨table, ""⟩).rename name.text]
  | .more type name rest =>
      (type.field inflector ⟨table, ""⟩).rename name.text :: rest.fields inflector table

end

/-- The name of a renamed field. -/
@[simp]
theorem Field.name_rename (name : String) (field : Field) : (field.rename name).name = name := by
  cases field <;> rfl

/-- The fields of subfields have the names of the subfields. -/
theorem SubfieldDerivation.names_fields (inflector : Inflector) (table : String) :
    (subfields : SubfieldDerivation) →
      (subfields.fields inflector table).map Field.name = subfields.names
  | .last type name => by simp [fields, names]
  | .more type name rest => by simp [fields, names, names_fields inflector table rest]

/-! ### Writing fields as definitions -/

/-- A member of an enum and its number as they stand in a definition. -/
def Member.written (member : Member) : String :=
  member.name ++ "," ++ decimalString member.value.toInt

mutual

/-- The type of a field as a definition. -/
def Field.written : Field → String
  | .primitive _ kind => kind.keyword
  | .list _ element => "List<" ++ element.written ++ ">"
  | .dictionary _ key value => "Map<" ++ key.written ++ "," ++ value.written ++ ">"
  | .struct _ _ fields => "Struct<" ++ ",".intercalate (Field.writtenAll fields) ++ ">"
  | .enum _ _ members => "Enum<" ++ ",".intercalate (members.map Member.written) ++ ">"
  | .reference _ target => "@" ++ target.table ++ "," ++ target.typeName

/-- Subfields as they stand in a definition, the type of each before its name. -/
def Field.writtenAll : List Field → List String
  | [] => []
  | field :: rest => (field.written ++ "," ++ field.name) :: Field.writtenAll rest

end

/-- Members without the zeros in front of their numbers. -/
def MemberDerivation.withoutLeadingZeros : MemberDerivation → MemberDerivation
  | .last name number => .last name number.withoutLeadingZeros
  | .more name number rest => .more name number.withoutLeadingZeros rest.withoutLeadingZeros

mutual

/-- A type without the zeros in front of the numbers of enum members. -/
def TypeDerivation.withoutLeadingZeros : TypeDerivation → TypeDerivation
  | .primitive kind => .primitive kind
  | .list element => .list element.withoutLeadingZeros
  | .dictionary key value => .dictionary key.withoutLeadingZeros value.withoutLeadingZeros
  | .struct subfields => .struct subfields.withoutLeadingZeros
  | .enum members => .enum members.withoutLeadingZeros
  | .reference table typeName => .reference table typeName

/-- Subfields without the zeros in front of the numbers of enum members. -/
def SubfieldDerivation.withoutLeadingZeros : SubfieldDerivation → SubfieldDerivation
  | .last type name => .last type.withoutLeadingZeros name
  | .more type name rest => .more type.withoutLeadingZeros name rest.withoutLeadingZeros

end

/-- The zeros in front do not change the members. -/
theorem MemberDerivation.members_without_leading_zeros :
    (members : MemberDerivation) → members.withoutLeadingZeros.members = members.members
  | .last name number => by
      rw [withoutLeadingZeros, MemberDerivation.members, number.value_without_leading_zeros]
      rfl
  | .more name number rest => by
      rw [withoutLeadingZeros, MemberDerivation.members, number.value_without_leading_zeros,
        members_without_leading_zeros rest]
      rfl

/-- Subfields keep their names without the zeros. -/
theorem SubfieldDerivation.names_without_leading_zeros :
    (subfields : SubfieldDerivation) → subfields.withoutLeadingZeros.names = subfields.names
  | .last _ _ => rfl
  | .more _ name rest => congrArg (name.text :: ·) (names_without_leading_zeros rest)

mutual

/-- A type keeps its field without the zeros. -/
theorem TypeDerivation.field_without_leading_zeros (inflector : Inflector) (label : Label) :
    (derivation : TypeDerivation) →
      derivation.withoutLeadingZeros.field inflector label = derivation.field inflector label
  | .primitive kind => rfl
  | .list element => by
      rw [TypeDerivation.withoutLeadingZeros, TypeDerivation.field,
        TypeDerivation.field_without_leading_zeros inflector _ element]
      rfl
  | .dictionary key value => by
      rw [TypeDerivation.withoutLeadingZeros, TypeDerivation.field,
        TypeDerivation.field_without_leading_zeros inflector _ key,
        TypeDerivation.field_without_leading_zeros inflector _ value]
      rfl
  | .struct subfields => by
      rw [TypeDerivation.withoutLeadingZeros, TypeDerivation.field,
        SubfieldDerivation.fields_without_leading_zeros inflector label.table subfields]
      rfl
  | .enum members => by
      rw [TypeDerivation.withoutLeadingZeros, TypeDerivation.field,
        members.members_without_leading_zeros]
      rfl
  | .reference table typeName => rfl

/-- Subfields keep their fields without the zeros. -/
theorem SubfieldDerivation.fields_without_leading_zeros (inflector : Inflector) (table : String) :
    (subfields : SubfieldDerivation) →
      subfields.withoutLeadingZeros.fields inflector table = subfields.fields inflector table
  | .last type name => by
      rw [SubfieldDerivation.withoutLeadingZeros, SubfieldDerivation.fields,
        TypeDerivation.field_without_leading_zeros inflector _ type]
      rfl
  | .more type name rest => by
      rw [SubfieldDerivation.withoutLeadingZeros, SubfieldDerivation.fields,
        TypeDerivation.field_without_leading_zeros inflector _ type,
        SubfieldDerivation.fields_without_leading_zeros inflector table rest]
      rfl

end

mutual

/-- Names and numbers still differ without the zeros. -/
theorem TypeDerivation.distinct_without_leading_zeros :
    (derivation : TypeDerivation) → derivation.Distinct → derivation.withoutLeadingZeros.Distinct
  | .primitive _, h => h
  | .list element, h => TypeDerivation.distinct_without_leading_zeros element h
  | .dictionary key value, h =>
      ⟨TypeDerivation.distinct_without_leading_zeros key h.1,
        TypeDerivation.distinct_without_leading_zeros value h.2⟩
  | .struct subfields, h =>
      ⟨subfields.names_without_leading_zeros ▸ h.1,
        SubfieldDerivation.distinct_without_leading_zeros subfields h.2⟩
  | .enum members, h => by
      rw [TypeDerivation.withoutLeadingZeros, TypeDerivation.Distinct,
        members.members_without_leading_zeros]
      exact h
  | .reference _ _, h => h

/-- Names and numbers in the types of subfields still differ without the zeros. -/
theorem SubfieldDerivation.distinct_without_leading_zeros :
    (subfields : SubfieldDerivation) → subfields.Distinct → subfields.withoutLeadingZeros.Distinct
  | .last type _, h => TypeDerivation.distinct_without_leading_zeros type h
  | .more type _ rest, h =>
      ⟨TypeDerivation.distinct_without_leading_zeros type h.1,
        SubfieldDerivation.distinct_without_leading_zeros rest h.2⟩

end

/-- The name of a field is not part of its type. -/
@[simp]
theorem Field.written_rename (name : String) (field : Field) :
    (field.rename name).written = field.written := by
  cases field <;> simp only [rename, written]

/-- Members are written without the zeros in front of their numbers. -/
theorem MemberDerivation.written_members :
    (members : MemberDerivation) →
      ",".intercalate (members.members.map Member.written) = members.withoutLeadingZeros.text
  | .last name number => by
      simp [MemberDerivation.members, withoutLeadingZeros, text, Member.written,
        number.decimal_value]
  | .more name number rest => by
      have hne : rest.members.map Member.written ≠ [] := by cases rest <;> simp [members]
      rw [MemberDerivation.members, List.map_cons, String.intercalate_cons_of_ne_nil hne,
        written_members rest, Member.written, number.decimal_value, withoutLeadingZeros, text]

mutual

/-- The field of a type is written as the type without the zeros in front of the numbers. -/
theorem TypeDerivation.written_field (inflector : Inflector) (label : Label) :
    (derivation : TypeDerivation) →
      (derivation.field inflector label).written = derivation.withoutLeadingZeros.text
  | .primitive kind => rfl
  | .list element => by
      rw [TypeDerivation.field, Field.written, TypeDerivation.written_field inflector _ element]
      rfl
  | .dictionary key value => by
      rw [TypeDerivation.field, Field.written, TypeDerivation.written_field inflector _ key,
        TypeDerivation.written_field inflector _ value]
      rfl
  | .struct subfields => by
      rw [TypeDerivation.field, Field.written,
        SubfieldDerivation.written_fields inflector label.table subfields]
      rfl
  | .enum members => by
      rw [TypeDerivation.field, Field.written, members.written_members]
      rfl
  | .reference table typeName => rfl

/-- The fields of subfields are written as the subfields without the zeros in front of numbers. -/
theorem SubfieldDerivation.written_fields (inflector : Inflector) (table : String) :
    (subfields : SubfieldDerivation) →
      ",".intercalate (Field.writtenAll (subfields.fields inflector table)) =
        subfields.withoutLeadingZeros.text
  | .last type name => by
      rw [SubfieldDerivation.fields, Field.writtenAll, Field.writtenAll,
        String.intercalate_singleton, Field.written_rename, Field.name_rename,
        TypeDerivation.written_field inflector _ type]
      rfl
  | .more type name rest => by
      have hne : Field.writtenAll (rest.fields inflector table) ≠ [] := by
        cases rest <;> simp [SubfieldDerivation.fields, Field.writtenAll]
      rw [SubfieldDerivation.fields, Field.writtenAll, String.intercalate_cons_of_ne_nil hne,
        Field.written_rename, Field.name_rename, TypeDerivation.written_field inflector _ type,
        SubfieldDerivation.written_fields inflector table rest]
      rfl

end

end SheetWire
