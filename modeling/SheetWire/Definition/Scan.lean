import SheetWire.Error

/-!
# From text to tokens

`Token.scan` cuts a definition into tokens from left to right, always at the longest lexeme, and
ends the list with a token for the end of the definition. A lexeme that is no token, or characters
that start none, are an error at the column where they begin.
-/

namespace SheetWire.Token

/-- The tokens of a text that starts at a column. -/
def scanFrom (column : Nat) (text : List Char) : Except Error (List Token) :=
  match _ : lexeme? text with
  | some (lexeme, rest) =>
      match TokenKind.ofLexeme? lexeme with
      | some kind => do
          let tokens ← scanFrom (column + Reader.byteSize lexeme) rest
          pure (⟨kind, String.ofList lexeme, column⟩ :: tokens)
      | none => throw (.lex (String.ofList lexeme) column)
  | none =>
      if text = [] then pure [⟨.endOfDefinition, "", column⟩]
      else throw (.lex (String.ofList (text.takeWhile fun c => !startsLexeme c)) column)
termination_by text.length
decreasing_by exact length_after_lexeme (by assumption)

/-- The tokens of a definition. -/
def scan (definition : String) : Except Error (List Token) :=
  scanFrom 1 definition.toList

end SheetWire.Token
