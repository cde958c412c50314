import SheetWire.Definition.Scan
import SheetWire.Definition.Uniqueness
import SheetWire.Naming.English

/-!
# From tokens to fields

A definition is a primitive, `List<type>`, `Map<type,type>`, `Struct<type,name,…>`,
`Enum<name,number,…>` or `@table,type`. The parser looks one token ahead. Names are given on the way
down: the element of a list has the singular of the list's name, the parts of a dictionary and the
types of subfields have no name, and a struct or enum takes its type name from the name it stands
under. The bound of the recursion falls with every type and every subfield, and each of them takes a
token, so twice the number of tokens is enough.
-/

namespace SheetWire

open Text Number Naming

/-- The tokens that are still to be read and the position of the first of them. -/
structure Cursor where
  tokens : List Token
  position : Nat
  deriving DecidableEq, Repr

/-- Parsing takes tokens from a cursor. -/
abbrev Parsing := StateT Cursor (Except Error)

namespace Parsing

/-- Fails with a problem at a position. -/
def fail {α : Type} (problem : SyntaxProblem) (position : Nat) : Parsing α :=
  throw (.parse problem position)

/-- The next token, which stays. -/
def peek : Parsing Token := do
  let cursor ← get
  match cursor.tokens with
  | [] => fail .missing cursor.position
  | token :: _ => pure token

/-- Takes the next token, which must be of a kind. -/
def expect (kind : TokenKind) : Parsing Token := do
  let cursor ← get
  match cursor.tokens with
  | [] => fail .missing cursor.position
  | token :: rest =>
      if token.kind = kind then
        set (⟨rest, cursor.position + 1⟩ : Cursor)
        pure token
      else fail (.expected kind token) cursor.position

/-- Takes the next token if it is of a kind, and says whether it was. -/
def accept (kind : TokenKind) : Parsing Bool := do
  let cursor ← get
  match cursor.tokens with
  | [] => pure false
  | token :: rest =>
      if token.kind = kind then
        set (⟨rest, cursor.position + 1⟩ : Cursor)
        pure true
      else pure false

/-- The position of the token taken last. -/
def lastPosition : Parsing Nat := do
  let cursor ← get
  pure (cursor.position - 1)

/-- A primitive. -/
def primitive (label : Label) : Parsing Field := do
  let token ← expect .primitiveKeyword
  match Primitive.ofKeyword? token.text with
  | some kind => pure (.primitive label kind)
  | none => fail (.unknownPrimitive token.text) (← lastPosition)

/-- A reference. -/
def reference (label : Label) : Parsing Field := do
  let _ ← expect .referenceMark
  let table ← expect .identifier
  let _ ← expect .comma
  let typeName ← expect .identifier
  pure (.reference label ⟨table.text, typeName.text⟩)

/-- A member of an enum and its number. -/
def member : Parsing Member := do
  let name ← expect .identifier
  let _ ← expect .comma
  let number ← expect .number
  match readInt64? number.text.toList with
  | some value => pure ⟨name.text, value⟩
  | none => fail (.enumNumber number.text) (← lastPosition)

/-- The members of an enum, at least one, up to the closing bracket. -/
def members : Nat → Parsing (List Member)
  | 0 => do fail .missing (← get).position
  | bound + 1 => do
      let first ← member
      if ← accept .closingBracket then pure [first]
      else
        let _ ← expect .comma
        let rest ← members bound
        pure (first :: rest)

/-- An enum. -/
def enum (bound : Nat) (label : Label) : Parsing Field := do
  let _ ← expect .beginEnum
  let list ← members bound
  let typeName := enumName label.name
  checkMembers label.table typeName list
  pure (.enum label typeName list)

mutual

/-- A type under a label. -/
def type (inflector : Inflector) : Nat → Label → Parsing Field
  | 0, _ => do fail .missing (← get).position
  | bound + 1, label => do
      let next ← peek
      match next.kind with
      | .primitiveKeyword => primitive label
      | .beginList => do
          let _ ← expect .beginList
          let element ← type inflector bound ⟨label.table, singularize inflector label.name⟩
          let _ ← expect .closingBracket
          pure (.list label element)
      | .beginDictionary => do
          let _ ← expect .beginDictionary
          let key ← type inflector bound ⟨label.table, ""⟩
          let _ ← expect .comma
          let value ← type inflector bound ⟨label.table, ""⟩
          let _ ← expect .closingBracket
          pure (.dictionary label key value)
      | .beginStruct => do
          let _ ← expect .beginStruct
          let fields ← subfields inflector bound label.table
          let typeName := structName label.name
          checkSubfields label.table typeName (fields.map Field.name)
          pure (.struct label typeName fields)
      | .beginEnum => enum bound label
      | .referenceMark => reference label
      | _ => do fail (.unexpected next) (← get).position

/-- The subfields of a struct, at least one, up to the closing bracket. -/
def subfields (inflector : Inflector) : Nat → String → Parsing (List Field)
  | 0, _ => do fail .missing (← get).position
  | bound + 1, table => do
      let unnamed ← type inflector bound ⟨table, ""⟩
      let _ ← expect .comma
      let name ← expect .identifier
      let first := unnamed.rename name.text
      if ← accept .closingBracket then pure [first]
      else
        let _ ← expect .comma
        let rest ← subfields inflector bound table
        pure (first :: rest)

end

/-- A type and the end of the definition after it. -/
def definition (inflector : Inflector) (bound : Nat) (label : Label) : Parsing Field := do
  let field ← type inflector bound label
  let _ ← expect .endOfDefinition
  pure field

end Parsing

namespace Field

/-- The field that a list of tokens defines. -/
def ofTokens (inflector : Inflector) (label : Label) (tokens : List Token) : Except Error Field :=
  (Parsing.definition inflector (2 * tokens.length + 1) label).run' ⟨tokens, 0⟩

/-- The field that a definition stands for. -/
def ofDefinition (inflector : Inflector) (label : Label) (definition : String) :
    Except Error Field := do
  let tokens ← Token.scan definition
  ofTokens inflector label tokens

end Field

end SheetWire
