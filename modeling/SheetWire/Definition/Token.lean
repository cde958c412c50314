import SheetWire.Definition.Field
import SheetWire.Text.Quoted
import SheetWire.Text.Word

/-!
# Tokens

A type definition is made of words, openers such as `List<`, the two marks `,` and `@`, and closing
brackets. A word that is directly followed by `<` forms one lexeme with it, and only four such
lexemes are tokens. Blanks are no part of a definition.
-/

namespace SheetWire

open Text

/-- The kinds of token. -/
inductive TokenKind where
  | primitiveKeyword
  | beginList
  | beginDictionary
  | beginStruct
  | beginEnum
  | closingBracket
  | comma
  | referenceMark
  | identifier
  | number
  | endOfDefinition
  deriving DecidableEq, Repr

namespace TokenKind

/-- The only text that a token of the kind can have, for the kinds with a single text. -/
def fixedText? : TokenKind → Option String
  | .beginList => some "List<"
  | .beginDictionary => some "Map<"
  | .beginStruct => some "Struct<"
  | .beginEnum => some "Enum<"
  | .closingBracket => some ">"
  | .comma => some ","
  | .referenceMark => some "@"
  | _ => none

/-- The kind as a message names it: in quotes where it has a single text. -/
def describe : TokenKind → String
  | .primitiveKeyword => "primitive type"
  | .identifier => "identifier"
  | .number => "number"
  | .endOfDefinition => "end of definition"
  | kind => quote (kind.fixedText?.getD "")

/-- The kinds with a single text. -/
def fixed : List TokenKind :=
  [.beginList, .beginDictionary, .beginStruct, .beginEnum, .closingBracket, .comma, .referenceMark]

/-- The kind of a lexeme, if it is a token. -/
def ofLexeme? (lexeme : List Char) : Option TokenKind :=
  let text := String.ofList lexeme
  if (Primitive.ofKeyword? text).isSome then some .primitiveKeyword
  else match fixed.find? fun kind => kind.fixedText? == some text with
    | some kind => some kind
    | none =>
        if lexeme = [] then none
        else if lexeme.all isDigit then some .number
        else if lexeme.all isWord then some .identifier
        else none

end TokenKind

/-- A token: its kind, its text, and the column in bytes at which it starts. Columns start at 1. -/
structure Token where
  kind : TokenKind
  text : String
  column : Nat
  deriving DecidableEq, Repr

namespace Token

/-- The token as a message names it. -/
def describe (token : Token) : String :=
  if token.kind = .endOfDefinition then token.kind.describe else quote token.text

/-- Whether a character is a token of its own. -/
def isMark (c : Char) : Bool :=
  c == '>' || c == ',' || c == '@'

/-- Whether a lexeme starts with a character. -/
def startsLexeme (c : Char) : Bool :=
  isWord c || isMark c

/-- The lexeme at the start of a text and the text after it, if one starts there: a mark, or a word
as long as it goes together with a `<` that follows it. -/
def lexeme? : List Char → Option (List Char × List Char)
  | [] => none
  | c :: rest =>
      if isWord c then
        match rest.dropWhile isWord with
        | '<' :: after => some (c :: (rest.takeWhile isWord ++ ['<']), after)
        | after => some (c :: rest.takeWhile isWord, after)
      else if isMark c then some ([c], rest)
      else none

/-- A lexeme and the text after it make up the whole text. -/
theorem lexeme_append {text lexeme rest : List Char} (h : lexeme? text = some (lexeme, rest)) :
    lexeme ++ rest = text := by
  cases text with
  | nil => simp [lexeme?] at h
  | cons c tail =>
      have happend := List.takeWhile_append_dropWhile (p := isWord) (l := tail)
      rw [lexeme?] at h
      split at h
      · split at h
        · next after hafter =>
            simp only [Option.some.injEq, Prod.mk.injEq] at h
            obtain ⟨rfl, rfl⟩ := h
            rw [hafter] at happend
            simpa using happend
        · simp only [Option.some.injEq, Prod.mk.injEq] at h
          obtain ⟨rfl, rfl⟩ := h
          simp
      · split at h
        · simp only [Option.some.injEq, Prod.mk.injEq] at h
          obtain ⟨rfl, rfl⟩ := h
          rfl
        · simp at h

/-- A lexeme is not empty. -/
theorem lexeme_ne_nil {text lexeme rest : List Char} (h : lexeme? text = some (lexeme, rest)) :
    lexeme ≠ [] := by
  cases text with
  | nil => simp [lexeme?] at h
  | cons c tail =>
      rw [lexeme?] at h
      split at h
      · split at h <;> · simp only [Option.some.injEq, Prod.mk.injEq] at h; simp [← h.1]
      · split at h
        · simp only [Option.some.injEq, Prod.mk.injEq] at h
          simp [← h.1]
        · simp at h

/-- The text after a lexeme is shorter than the whole text. -/
theorem length_after_lexeme {text lexeme rest : List Char}
    (h : lexeme? text = some (lexeme, rest)) : rest.length < text.length := by
  have hpositive := List.length_pos_iff.2 (lexeme_ne_nil h)
  rw [← lexeme_append h, List.length_append]
  omega

end Token

end SheetWire
