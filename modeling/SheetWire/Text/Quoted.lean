import SheetWire.Text.Hidden

/-!
# Quoted text

Two ways to write a text between double quotes. `quote` escapes only what a JSON string must escape
and leaves everything else as it is. `display` also writes every character that does not show by its
code point, for messages and for the display of values.
-/

namespace SheetWire.Text

/-- The hexadecimal digits of a code point, in lower case. -/
def hexDigits (code : Nat) : List Char :=
  Nat.toDigits 16 code

/-- One character inside a JSON string. -/
def plainChar (c : Char) : List Char :=
  match c with
  | '"' => ['\\', '"']
  | '\\' => ['\\', '\\']
  | '\n' => ['\\', 'n']
  | '\r' => ['\\', 'r']
  | '\t' => ['\\', 't']
  | c =>
      if c.toNat = 8 then ['\\', 'b']
      else if c.toNat = 12 then ['\\', 'f']
      else if c.toNat < 16 then ['\\', 'u', '0', '0', '0'] ++ hexDigits c.toNat
      else if c.toNat < 32 then ['\\', 'u', '0', '0'] ++ hexDigits c.toNat
      else [c]

/-- One character inside a text that is shown in full. -/
def visibleChar (c : Char) : List Char :=
  match c with
  | '"' => ['\\', '"']
  | '\\' => ['\\', '\\']
  | '\n' => ['\\', 'n']
  | '\r' => ['\\', 'r']
  | '\t' => ['\\', 't']
  | c =>
      if c.toNat = 0 then ['\\', '0']
      else if isHidden c then ['\\', 'u', '\x7b'] ++ hexDigits c.toNat ++ ['\x7d']
      else [c]

/-- A text between quotes, each of its characters written by `write`. -/
def quotedBy (write : Char → List Char) (text : String) : String :=
  String.ofList ('"' :: (text.toList.flatMap write ++ ['"']))

/-- A text as a JSON string. -/
def quote (text : String) : String :=
  quotedBy plainChar text

/-- A text between quotes with everything that does not show written out. -/
def display (text : String) : String :=
  quotedBy visibleChar text

end SheetWire.Text
