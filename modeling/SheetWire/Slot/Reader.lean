import SheetWire.Number.Scientific
import SheetWire.Text.Blank
import SheetWire.Text.Parts
import SheetWire.Text.Sentinel

/-!
# Reading a row slot by slot

A wire row is a list of slots separated by commas. A `Reader` holds the slots that have not been
read and the byte offset at which the next one starts, so after the last slot the offset lies one
past the end of the text. Every read takes one slot, whether its text turns out to be good or not;
only a read past the last slot takes nothing.

The slots that are left and the offset say the same thing twice. `Reader.StandsIn` is how they
belong together, `Reader.StandsIn.is_exhausted_iff` and `Reading.raw_of_stands` are the two
operations told by the row and the offset alone.
-/

namespace SheetWire

open Text Number

/-- The kinds of number that a slot is read as. -/
inductive NumberKind where
  | int
  | long
  | float
  | double
  | count
  deriving DecidableEq, Repr

/-- The word for a kind of number in a message. -/
def NumberKind.word : NumberKind → String
  | .int => "int"
  | .long => "long"
  | .float => "float"
  | .double => "double"
  | .count => "count"

/-- What can go wrong when a slot is read. Offsets count bytes from the start of the row. -/
inductive SlotError where
  | underrun (index : Nat)
  | invalidNumber (kind : NumberKind) (text : String) (index : Nat)
  | negativeCount (count : Int) (index : Nat)
  deriving DecidableEq, Repr

/-- The wording of an error. -/
def SlotError.message : SlotError → String
  | .underrun index => "Read past the end of the buffer at index " ++ decimalString index
  | .invalidNumber kind text index =>
      "Invalid " ++ kind.word ++ " \"" ++ text ++ "\" at index " ++ decimalString index
  | .negativeCount count index =>
      "Negative count " ++ decimalString count ++ " at index " ++ decimalString index

/-- The slots of a row that are still to be read, and the offset of the first of them. -/
structure Reader where
  slots : List (List Char)
  index : Nat
  deriving DecidableEq, Repr

namespace Reader

/-- The bytes that a text takes. -/
def byteSize (text : List Char) : Nat :=
  text.foldr (fun c size => c.utf8Size + size) 0

/-- The bytes of two texts one after the other. -/
theorem byte_size_append (front back : List Char) :
    byteSize (front ++ back) = byteSize front + byteSize back := by
  induction front with
  | nil => exact (Nat.zero_add _).symm
  | cons c front ih =>
      show c.utf8Size + byteSize (front ++ back) = c.utf8Size + byteSize front + byteSize back
      rw [ih, Nat.add_assoc]

/-- A reader at the start of a row. -/
def ofRow (row : List Char) : Reader :=
  ⟨row.splitOn ',', 0⟩

/-- Whether every slot has been read. -/
def isExhausted (r : Reader) : Bool :=
  r.slots.isEmpty

/-- A reader of a row at a byte offset. Inside the row its slots are those of the text from the
offset on, and behind the end of the row it has none. -/
inductive StandsIn (row : List Char) : Reader → Prop where
  | inside (front rest : List Char) :
      front ++ rest = row → StandsIn row ⟨rest.splitOn ',', byteSize front⟩
  | behind (index : Nat) : byteSize row < index → StandsIn row ⟨[], index⟩

/-- A reader starts in front of the whole row. -/
theorem stands_in_of_row (row : List Char) : StandsIn row (ofRow row) :=
  .inside [] row rfl

/-- Every slot has been read where the offset lies behind the end of the row. -/
theorem StandsIn.is_exhausted_iff {row : List Char} {r : Reader} (h : StandsIn row r) :
    r.isExhausted = true ↔ byteSize row < r.index := by
  rw [isExhausted, List.isEmpty_iff]
  cases h with
  | inside front rest hrow =>
      refine iff_of_false (List.splitOn_ne_nil ',' rest) (Nat.not_lt.mpr ?_)
      rw [← hrow, byte_size_append]
      exact Nat.le_add_right _ _
  | behind index hbehind => exact iff_of_true rfl hbehind

end Reader

/-- Reading from a row: the reader moves on also where the read fails. -/
abbrev Reading (ε : Type) := EStateM ε Reader

namespace Reading

/-- The next slot as it is written. -/
def raw : Reading SlotError (List Char) := fun r =>
  match r.slots with
  | [] => .error (.underrun r.index) r
  | slot :: rest => .ok slot ⟨rest, r.index + Reader.byteSize slot + 1⟩

/-- Behind the end of the row a read is past it. Inside, it gives the text from the offset on up to
the next comma or the end, and goes on one byte behind it. -/
theorem raw_of_stands {row : List Char} {r : Reader} (h : r.StandsIn row) :
    (Reader.byteSize row < r.index ∧ raw r = .error (.underrun r.index) r) ∨
      ∃ front slot back after, front ++ slot ++ back = row ∧ Reader.byteSize front = r.index ∧
        ',' ∉ slot ∧ (back = [] ∨ back.head? = some ',') ∧ raw r = .ok slot after ∧
        after.index = r.index + Reader.byteSize slot + 1 ∧ after.StandsIn row := by
  cases h with
  | behind index hbehind => exact .inl ⟨hbehind, rfl⟩
  | inside front rest hrow =>
      right
      by_cases hcomma : ',' ∈ rest
      · obtain ⟨slot, tail, rfl, hslot, hparts⟩ := exists_first_part hcomma
        have hwhole : front ++ slot ++ ',' :: tail = row := by rw [← hrow, List.append_assoc]
        have hafter : Reader.byteSize (front ++ slot ++ [',']) =
            Reader.byteSize front + Reader.byteSize slot + 1 := by
          rw [Reader.byte_size_append, Reader.byte_size_append]
          rfl
        rw [hparts]
        exact ⟨front, slot, ',' :: tail, _, hwhole, rfl, hslot, .inr rfl, rfl, rfl,
          hafter ▸ .inside (front ++ slot ++ [',']) tail (by rw [← hwhole]; simp)⟩
      · have hlast : Reader.byteSize row < Reader.byteSize front + Reader.byteSize rest + 1 := by
          rw [← hrow, Reader.byte_size_append]
          exact Nat.lt_succ_self _
        rw [List.splitOn_eq_singleton hcomma]
        exact ⟨front, rest, [], _, by rw [List.append_nil, hrow], rfl, hcomma, .inl rfl, rfl, rfl,
          .behind _ hlast⟩

/-- A slot that `parse` reads as a number once the blanks around it are gone. -/
def number {α : Type} (kind : NumberKind) (parse : List Char → Option α) :
    Reading SlotError α := do
  let start ← get
  let slot ← raw
  match parse (trim slot) with
  | some value => pure value
  | none => throw (.invalidNumber kind (String.ofList slot) start.index)

/-- A whole number of 32 bits. -/
def int : Reading SlotError Int32 :=
  number .int readInt32?

/-- A whole number of 64 bits. -/
def long : Reading SlotError Int64 :=
  number .long readInt64?

/-- A floating point number of 32 bits. -/
def float : Reading SlotError Binary :=
  number .float single.read?

/-- A floating point number of 64 bits. -/
def double : Reading SlotError Binary :=
  number .double Number.double.read?

/-- The word `true` in any case is true, any other slot is false. -/
def bool : Reading SlotError Bool := do
  let slot ← raw
  pure (lowerLetters slot == "true".toList)

/-- A text, its sentinels read back. -/
def string : Reading SlotError String := do
  let slot ← raw
  pure (String.ofList (unescape slot))

/-- The number of elements of a collection, which no row gives as a negative number. -/
def count : Reading SlotError Nat := do
  let start ← get
  let value ← number .count readInt64?
  if value.toInt < 0 then throw (.negativeCount value.toInt start.index)
  else pure value.toInt.toNat

/-- The same read a number of times. -/
def times {ε α : Type} (read : Reading ε α) : Nat → Reading ε (List α)
  | 0 => pure []
  | n + 1 => do
      let value ← read
      let rest ← times read n
      pure (value :: rest)

/-- A read whose errors are seen as errors of another kind. -/
def adapt {ε ε' α : Type} (f : ε → ε') (read : Reading ε α) : Reading ε' α := fun r =>
  match read r with
  | .ok value r => .ok value r
  | .error e r => .error (f e) r

/-- Runs a read from a reader and gives its result alone. -/
def result {ε α : Type} (read : Reading ε α) (r : Reader) : Except ε α :=
  match read r with
  | .ok value _ => .ok value
  | .error e _ => .error e

end Reading

end SheetWire
