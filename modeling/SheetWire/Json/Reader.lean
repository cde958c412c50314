import SheetWire.Json.Numeral

/-!
# Reading JSON

`Json.read?` reads a whole text as one value. The texts in the value are lists of code points: an
escape may name half of a surrogate pair, which only `wellFormed?` refuses. The reader takes the
length of the text as the bound of its recursion, which is enough, since every value and every
member takes at least one character.
-/

namespace SheetWire.Json

open Text

/-- A text as it was read: its code points, halves of surrogate pairs among them. -/
abbrev CodePoints := List Nat

/-- Whether a code point is the first half of a surrogate pair. -/
def isLeadingHalf (code : Nat) : Bool :=
  0xD800 ≤ code && code < 0xDC00

/-- Whether a code point is the second half of a surrogate pair. -/
def isTrailingHalf (code : Nat) : Bool :=
  0xDC00 ≤ code && code < 0xE000

/-- The characters of a text with its surrogate pairs put together, if no half stands alone. -/
def wellFormedChars? : CodePoints → Option (List Char)
  | [] => some []
  | [code] => if isLeadingHalf code || isTrailingHalf code then none else some [Char.ofNat code]
  | first :: second :: rest =>
      if isLeadingHalf first then
        if isTrailingHalf second then
          (wellFormedChars? rest).map
            (Char.ofNat (0x10000 + (first - 0xD800) * 0x400 + (second - 0xDC00)) :: ·)
        else none
      else if isTrailingHalf first then none
      else (wellFormedChars? (second :: rest)).map (Char.ofNat first :: ·)

/-- A text that was read, as a string. -/
def wellFormed? (codes : CodePoints) : Option String :=
  (wellFormedChars? codes).map String.ofList

/-- Whether a character is a blank between the parts of a JSON text. -/
def isGap (c : Char) : Bool :=
  c == ' ' || c == '\n' || c == '\t' || c == '\r'

/-- A text from its first character that is not a blank. -/
def skipGap (text : List Char) : List Char :=
  text.dropWhile isGap

/-- The value of a hexadecimal digit. -/
def hexValue? (c : Char) : Option Nat :=
  if isDigit c then some (c.toNat - '0'.toNat)
  else if 'a' ≤ c ∧ c ≤ 'f' then some (c.toNat - 'a'.toNat + 10)
  else if 'A' ≤ c ∧ c ≤ 'F' then some (c.toNat - 'A'.toNat + 10)
  else none

/-- The code of four hexadecimal digits. -/
def hexCode? (a b c d : Char) : Option Nat := do
  let a ← hexValue? a
  let b ← hexValue? b
  let c ← hexValue? c
  let d ← hexValue? d
  pure (a * 0x1000 + b * 0x100 + c * 0x10 + d)

/-- The code of a character after a backslash. -/
def escapedCode? (c : Char) : Option Nat :=
  match c with
  | '"' => some 0x22
  | '\\' => some 0x5C
  | '/' => some 0x2F
  | 'b' => some 0x8
  | 'f' => some 0xC
  | 'n' => some 0xA
  | 'r' => some 0xD
  | 't' => some 0x9
  | _ => none

/-- The text up to the closing quote, and what follows the quote. -/
def readText? : List Char → Option (CodePoints × List Char)
  | [] => none
  | '"' :: rest => some ([], rest)
  | '\\' :: 'u' :: a :: b :: c :: d :: rest => do
      let code ← hexCode? a b c d
      let (codes, rest) ← readText? rest
      pure (code :: codes, rest)
  | '\\' :: c :: rest => do
      let code ← escapedCode? c
      let (codes, rest) ← readText? rest
      pure (code :: codes, rest)
  | c :: rest =>
      if c.toNat < 0x20 then none
      else do
        let (codes, rest) ← readText? rest
        pure (c.toNat :: codes, rest)

mutual

/-- The value at the start of a text and the text after it. -/
def readValue? : Nat → List Char → Option (Json CodePoints × List Char)
  | 0, _ => none
  | bound + 1, text =>
      match skipGap text with
      | 'n' :: 'u' :: 'l' :: 'l' :: rest => some (.null, rest)
      | 't' :: 'r' :: 'u' :: 'e' :: rest => some (.bool true, rest)
      | 'f' :: 'a' :: 'l' :: 's' :: 'e' :: rest => some (.bool false, rest)
      | '"' :: rest => (readText? rest).map fun (codes, rest) => (.string codes, rest)
      | '[' :: rest =>
          match skipGap rest with
          | ']' :: rest => some (.array [], rest)
          | rest => (readItems? bound rest).map fun (items, rest) => (.array items, rest)
      | '\x7b' :: rest =>
          match skipGap rest with
          | '\x7d' :: rest => some (.object [], rest)
          | rest => (readMembers? bound rest).map fun (members, rest) => (.object members, rest)
      | text => numeral? text

/-- The items of an array up to its closing bracket, at least one. -/
def readItems? : Nat → List Char → Option (List (Json CodePoints) × List Char)
  | 0, _ => none
  | bound + 1, text => do
      let (item, rest) ← readValue? bound text
      match skipGap rest with
      | ']' :: rest => pure ([item], rest)
      | ',' :: rest =>
          let (items, rest) ← readItems? bound rest
          pure (item :: items, rest)
      | _ => none

/-- The members of an object up to its closing brace, at least one. -/
def readMembers? : Nat → List Char → Option (List (CodePoints × Json CodePoints) × List Char)
  | 0, _ => none
  | bound + 1, text =>
      match skipGap text with
      | '"' :: rest => do
          let (name, rest) ← readText? rest
          match skipGap rest with
          | ':' :: rest =>
              let (value, rest) ← readValue? bound rest
              match skipGap rest with
              | '\x7d' :: rest => pure ([(name, value)], rest)
              | ',' :: rest =>
                  let (members, rest) ← readMembers? bound rest
                  pure ((name, value) :: members, rest)
              | _ => none
          | _ => none
      | _ => none

end

/-- The value that a whole text stands for. -/
def read? (text : List Char) : Option (Json CodePoints) := do
  let (value, rest) ← readValue? (2 * text.length + 2) text
  if skipGap rest = [] then pure value else none

end SheetWire.Json
