import SheetWire.Proofs.Scheme.WellFormed

/-!
# Names by position

A type has no name in a definition, so structs and enums are named for where they stand. The way to
a place inside a type goes through list elements, keys and values of dictionaries, and subfields of
structs. As long as it goes through list elements only, a place is named for the column, in the
singular once for each of the lists; everything inside a dictionary or a struct has no name to be
named for, except that a subfield has its own (`names_by_position`). References across tables rely
on this: they select types by exactly these names.
-/

namespace SheetWire

open Naming

/-- A step from a type to a type directly inside it. -/
inductive TypeStep where
  | element
  | key
  | value
  | subfield (name : Identifier)

/-- Whether a step goes to the element of a list. -/
def TypeStep.isElement : TypeStep → Bool
  | .element => true
  | _ => false

mutual

/-- The types inside a type at the end of a way, each with the way to it, outer before inner. -/
def TypeDerivation.parts (way : List TypeStep) :
    TypeDerivation → List (List TypeStep × TypeDerivation)
  | .list element => (way, .list element) :: element.parts (way ++ [.element])
  | .dictionary key value =>
      (way, .dictionary key value) ::
        (key.parts (way ++ [.key]) ++ value.parts (way ++ [.value]))
  | .struct subfields => (way, .struct subfields) :: subfields.parts way
  | type => [(way, type)]

/-- The types of subfields and what is inside them, each with the way to it. -/
def SubfieldDerivation.parts (way : List TypeStep) :
    SubfieldDerivation → List (List TypeStep × TypeDerivation)
  | .last type name => type.parts (way ++ [.subfield name])
  | .more type name rest => type.parts (way ++ [.subfield name]) ++ rest.parts way

end

section Positions

variable (inflector : Inflector) (column : String)

/-- The name of a column in the singular once for each step of a way through lists, and no name at
the end of any other way. -/
def columnName (way : List TypeStep) : String :=
  if way.all TypeStep.isElement then (singularize inflector)^[way.length] column else ""

/-- The type name of a struct or an enum at the end of a way: the bare marker inside a dictionary or
a struct, and a name made from that of the column elsewhere. -/
def typeNameAt (marker : String) (way : List TypeStep) : String :=
  if way.all TypeStep.isElement then
    typeName marker ((singularize inflector)^[way.length] column)
  else marker

/-- The name of the field at the end of a way. -/
def fieldNameAt (way : List TypeStep) : String :=
  match way.getLast? with
  | some (.subfield name) => name.text
  | _ => columnName inflector column way

/-- How a field stands for a type in a definition of a column: it has the type, and the way to the
type gives its name and, for a struct or an enum, its type name. -/
structure Field.StandsFor (label : Label) (field : Field)
    (place : List TypeStep × TypeDerivation) : Prop where
  table : field.table = label.table
  type : field.written = place.2.withoutLeadingZeros.text
  name : field.name = fieldNameAt inflector label.name place.1
  structName : ∀ inner typeName fields, field = .struct inner typeName fields →
    typeName = typeNameAt inflector label.name "S" place.1
  enumName : ∀ inner typeName members, field = .enum inner typeName members →
    typeName = typeNameAt inflector label.name "E" place.1

variable {inflector column}

/-- The element of a list has the singular of the list's name, if the list has one. -/
theorem column_name_element (way : List TypeStep) :
    columnName inflector column (way ++ [.element]) =
      singularize inflector (columnName inflector column way) := by
  unfold columnName
  rw [List.all_append, List.length_append, List.length_singleton, Function.iterate_succ_apply']
  cases way.all TypeStep.isElement <;> rfl

/-- Behind any other step there is no name of the column. -/
theorem column_name_of_not_element (way : List TypeStep) {step : TypeStep}
    (h : step.isElement = false) : columnName inflector column (way ++ [step]) = "" := by
  unfold columnName
  rw [List.all_append, List.all_cons, h, Bool.false_and, Bool.and_false,
    if_neg Bool.false_ne_true]

/-- The type name at the end of a way is made from the name of the column there. -/
theorem type_name_column_name (marker : String) (way : List TypeStep) :
    typeName marker (columnName inflector column way) =
      typeNameAt inflector column marker way := by
  unfold columnName typeNameAt
  split
  · rfl
  · exact String.append_empty

/-- A subfield has its own name. -/
theorem field_name_subfield (way : List TypeStep) (name : Identifier) :
    fieldNameAt inflector column (way ++ [.subfield name]) = name.text := by
  rw [fieldNameAt, List.getLast?_concat]

/-- At the end of any other step a field has the name of the column. -/
theorem field_name_of_not_subfield (way : List TypeStep) {step : TypeStep}
    (h : ∀ name, step ≠ .subfield name) :
    fieldNameAt inflector column (way ++ [step]) =
      columnName inflector column (way ++ [step]) := by
  rw [fieldNameAt, List.getLast?_concat]
  cases step with
  | subfield name => exact absurd rfl (h name)
  | element | key | value => rfl

variable {label : Label}

/-- The field of a type at the end of a way stands for the type there. -/
theorem TypeDerivation.stands_for (way : List TypeStep) (derivation : TypeDerivation) :
    ((derivation.field inflector ⟨label.table, columnName inflector label.name way⟩).rename
      (fieldNameAt inflector label.name way)).StandsFor inflector label (way, derivation) where
  table := by cases derivation <;> rfl
  type := by rw [Field.written_rename, derivation.written_field]
  name := Field.name_rename _ _
  structName := by
    intro inner typeName fields h
    cases derivation <;> cases h
    exact type_name_column_name "S" way
  enumName := by
    intro inner typeName members h
    cases derivation <;> cases h
    exact type_name_column_name "E" way

/-- The field of a type keeps the name it is made under. -/
theorem TypeDerivation.rename_field (inflector : Inflector) (label : Label)
    (derivation : TypeDerivation) :
    (derivation.field inflector label).rename label.name = derivation.field inflector label := by
  cases derivation <;> rfl

/-- A part that is no subfield keeps its name too. -/
theorem TypeDerivation.rename_part (way : List TypeStep) (step : TypeStep)
    (h : ∀ name, step ≠ .subfield name) (derivation : TypeDerivation) :
    (derivation.field inflector
        ⟨label.table, columnName inflector label.name (way ++ [step])⟩).rename
      (fieldNameAt inflector label.name (way ++ [step])) =
    derivation.field inflector
      ⟨label.table, columnName inflector label.name (way ++ [step])⟩ := by
  rw [field_name_of_not_subfield way h]
  exact derivation.rename_field inflector _

mutual

/-- The field of a type and the fields inside it stand for the type and the types inside it. -/
theorem TypeDerivation.walk_stands_for (way : List TypeStep) : (derivation : TypeDerivation) →
    List.Forall₂ (Field.StandsFor inflector label)
      ((derivation.field inflector ⟨label.table, columnName inflector label.name way⟩).rename
        (fieldNameAt inflector label.name way)).walk (derivation.parts way)
  | .list element => by
      have helement := TypeDerivation.walk_stands_for (way ++ [.element]) element
      rw [element.rename_part way .element nofun, column_name_element] at helement
      exact .cons (TypeDerivation.stands_for way (.list element)) helement
  | .dictionary key value => by
      have hkey := TypeDerivation.walk_stands_for (way ++ [.key]) key
      have hvalue := TypeDerivation.walk_stands_for (way ++ [.value]) value
      rw [key.rename_part way .key nofun, column_name_of_not_element way rfl] at hkey
      rw [value.rename_part way .value nofun, column_name_of_not_element way rfl] at hvalue
      exact .cons (TypeDerivation.stands_for way (.dictionary key value))
        (List.rel_append hkey hvalue)
  | .struct subfields =>
      .cons (TypeDerivation.stands_for way (.struct subfields))
        (SubfieldDerivation.walk_stands_for way subfields)
  | .primitive kind => .cons (TypeDerivation.stands_for way (.primitive kind)) .nil
  | .enum members => .cons (TypeDerivation.stands_for way (.enum members)) .nil
  | .reference table name => .cons (TypeDerivation.stands_for way (.reference table name)) .nil

/-- The fields of subfields and what is inside them stand for the types there. -/
theorem SubfieldDerivation.walk_stands_for (way : List TypeStep) :
    (subfields : SubfieldDerivation) →
      List.Forall₂ (Field.StandsFor inflector label)
        (Field.walkAll (subfields.fields inflector label.table)) (subfields.parts way)
  | .last type name => by
      have htype := TypeDerivation.walk_stands_for (way ++ [.subfield name]) type
      rw [field_name_subfield, column_name_of_not_element way rfl] at htype
      rw [SubfieldDerivation.fields, Field.walkAll, Field.walkAll, List.append_nil]
      exact htype
  | .more type name rest => by
      have htype := TypeDerivation.walk_stands_for (way ++ [.subfield name]) type
      rw [field_name_subfield, column_name_of_not_element way rfl] at htype
      rw [SubfieldDerivation.fields, Field.walkAll]
      exact List.rel_append htype (SubfieldDerivation.walk_stands_for way rest)

end

end Positions

/-- The names in an accepted definition are determined by position. The fields inside the field that
it stands for are, in order, those of the types inside its derivation, each with the name and the
type name that the way to it gives. -/
theorem Field.names_by_position {inflector : Inflector} {label : Label} {definition : String}
    {field : Field} (h : ofDefinition inflector label definition = .ok field) :
    ∃ derivation : TypeDerivation, derivation.Derives definition ∧
      List.Forall₂ (StandsFor inflector label) field.walk (derivation.parts []) := by
  obtain ⟨derivation, hderives, rfl⟩ := derived_of_accepted h
  rw [← derivation.rename_field inflector label]
  exact ⟨derivation, hderives, derivation.walk_stands_for []⟩

/-- The struct in the list is named for the column, and the enum in the dictionary is not. -/
theorem Field.rewards_named_by_position :
    let inflector : Inflector := ⟨(· ++ "s"), fun word => String.ofList word.toList.dropLast⟩
    let label : Label := ⟨"Quests", "rewards"⟩
    let definition := "List<Struct<Map<int,List<Enum<low,0>>>,odds>>"
    ∃ field, ofDefinition inflector label definition = .ok field ∧
      field.walk.map Field.name = ["rewards", "reward", "odds", "", "", ""] ∧
      field.walk.filterMap Field.typeName? = ["Reward", "E"] ∧
      ∃ derivation : TypeDerivation, derivation.Derives definition ∧
        List.Forall₂ (StandsFor inflector label) field.walk (derivation.parts []) := by
  have hscan : Token.scan "List<Struct<Map<int,List<Enum<low,0>>>,odds>>" =
      .ok [⟨.beginList, "List<", 1⟩, ⟨.beginStruct, "Struct<", 6⟩, ⟨.beginDictionary, "Map<", 13⟩,
        ⟨.primitiveKeyword, "int", 17⟩, ⟨.comma, ",", 20⟩, ⟨.beginList, "List<", 21⟩,
        ⟨.beginEnum, "Enum<", 26⟩, ⟨.identifier, "low", 31⟩, ⟨.comma, ",", 34⟩,
        ⟨.number, "0", 35⟩, ⟨.closingBracket, ">", 36⟩, ⟨.closingBracket, ">", 37⟩,
        ⟨.closingBracket, ">", 38⟩, ⟨.comma, ",", 39⟩, ⟨.identifier, "odds", 40⟩,
        ⟨.closingBracket, ">", 44⟩, ⟨.closingBracket, ">", 45⟩, ⟨.endOfDefinition, "", 46⟩] := by
    cbv
  have haccepted : ofDefinition
      ⟨(· ++ "s"), fun word => String.ofList word.toList.dropLast⟩ ⟨"Quests", "rewards"⟩
      "List<Struct<Map<int,List<Enum<low,0>>>,odds>>" =
      .ok (.list ⟨"Quests", "rewards"⟩ (.struct ⟨"Quests", "reward"⟩ "Reward"
        [.dictionary ⟨"Quests", "odds"⟩ (.primitive ⟨"Quests", ""⟩ .int)
          (.list ⟨"Quests", ""⟩ (.enum ⟨"Quests", ""⟩ "E" [⟨"low", 0⟩]))])) := by
    rw [ofDefinition, hscan]
    rfl
  exact ⟨_, haccepted, rfl, rfl, names_by_position haccepted⟩

end SheetWire
