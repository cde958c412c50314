/-!
# Sentinels

Inside a cell a comma separates values and a newline would end the row, so a newline and a comma
that the author marked with a backslash are each written as a sentinel of four characters that
holds neither. Reading turns both sentinels back, the comma without its backslash.
-/

namespace SheetWire.Text

/-- Stands for a newline inside a cell. -/
def newlineSentinel : List Char :=
  [';', 'l', '/', '~']

/-- Stands for a comma that the author marked with a backslash. -/
def commaSentinel : List Char :=
  [':', 'l', '/', '~']

/-- A text with every newline and every marked comma written as its sentinel. -/
def escape : List Char → List Char
  | [] => []
  | '\n' :: rest => newlineSentinel ++ escape rest
  | '\\' :: ',' :: rest => commaSentinel ++ escape rest
  | c :: rest => c :: escape rest

/-- A text with both sentinels turned back into a newline and a comma. -/
def unescape : List Char → List Char
  | [] => []
  | ';' :: 'l' :: '/' :: '~' :: rest => '\n' :: unescape rest
  | ':' :: 'l' :: '/' :: '~' :: rest => ',' :: unescape rest
  | c :: rest => c :: unescape rest

/-- Escaping on strings. -/
def escapeString (text : String) : String :=
  String.ofList (escape text.toList)

/-- Reading sentinels back on strings. -/
def unescapeString (text : String) : String :=
  String.ofList (unescape text.toList)

end SheetWire.Text
