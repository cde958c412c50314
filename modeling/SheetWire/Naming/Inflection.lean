import SheetWire.Text.Case

/-!
# Names derived from names

Anonymous types and the elements of lists take their names from the column they stand in. Only the
last camel-case word of a name is inflected: `heroSkills` has the singular `heroSkill`. A word keeps
its capital, and a name that does not end in a camel-case word, such as `hp2`, stays as it is.
-/

namespace SheetWire

open Text

/-- How words are put into the plural and the singular. Words are passed in lower case. -/
structure Inflector where
  plural : String → String
  singular : String → String

namespace Naming

/-- A name split before its last camel-case word: from the last capital letter on, or the whole of
a name of small letters. -/
def lastWord? (name : List Char) : Option (List Char × List Char) :=
  if name.any isUpperLetter then
    let tail := (name.reverse.takeWhile fun c => !isUpperLetter c).length + 1
    some (name.take (name.length - tail), name.drop (name.length - tail))
  else if name ≠ [] ∧ name.all isLowerLetter then some ([], name)
  else none

/-- Whether a word is a capital followed by no further capital. -/
def isTitle : List Char → Bool
  | [] => false
  | c :: rest => isUpper c && rest.all fun c => !isUpper c

/-- A word with its first character in upper case and the others in lower case. -/
def title : List Char → List Char
  | [] => []
  | c :: rest => upperChar c ++ toLower rest

/-- A word inflected in lower case, with its capital put back. Where the inflection is empty the
word itself is kept. -/
def inflectWord (inflect : String → String) (word : List Char) : List Char :=
  let lower := toLower word
  let inflected := (inflect (String.ofList lower)).toList
  let inflected := if inflected = [] then lower else inflected
  if isTitle word then title inflected else inflected

/-- A name with its last camel-case word inflected. -/
def inflectName (inflect : String → String) (name : String) : String :=
  match lastWord? name.toList with
  | none => name
  | some (before, word) => String.ofList (before ++ inflectWord inflect word)

/-- A name in the plural. -/
def pluralize (inflector : Inflector) (name : String) : String :=
  inflectName inflector.plural name

/-- A name in the singular. -/
def singularize (inflector : Inflector) (name : String) : String :=
  inflectName inflector.singular name

/-- A name with its first character in upper case. -/
def upperCamel (name : String) : String :=
  match name.toList with
  | [] => ""
  | c :: rest => String.ofList (upperChar c ++ rest)

/-- The type name of an anonymous type in a field: the name of the field with a capital, or with
`marker` in front where it has one already, so that the two names always differ. -/
def typeName (marker name : String) : String :=
  let camel := upperCamel name
  if camel = name then marker ++ name else camel

/-- The type name of an anonymous struct. -/
def structName (name : String) : String :=
  typeName "S" name

/-- The type name of an anonymous enum. -/
def enumName (name : String) : String :=
  typeName "E" name

end Naming

end SheetWire
