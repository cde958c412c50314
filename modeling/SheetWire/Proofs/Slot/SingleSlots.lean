import SheetWire.Proofs.Number.Decimal
import SheetWire.Proofs.Slot.Readings

/-!
# Reads of one slot

Every read from a row but that of a struct takes one slot first. Such a read is told by what it
makes of the text of the slot (`readSlot`): a value, or an error that may say where the slot stands.
A text that should be a number and is none is a `Misfit`. A slot that announces a number of elements
(`CountForm`) is read if memory has room for them.
-/

namespace SheetWire

open Text Number

/-- A text where a number of some kind should be. -/
structure Misfit where
  kind : NumberKind
  text : List Char
  deriving DecidableEq, Repr

/-- The error about a misfit in the slot at an offset. -/
def Misfit.error (misfit : Misfit) (index : Nat) : Error :=
  .decode (.slot (.invalidNumber misfit.kind (String.ofList misfit.text) index))

/-- What `parse` makes of a text without the blanks around it. -/
def readNumber {α : Type} (kind : NumberKind) (parse : List Char → Option α) (text : List Char) :
    Except Misfit α :=
  match parse (trim text) with
  | some value => .ok value
  | none => .error ⟨kind, text⟩

/-- The value that a text has as a primitive. -/
def Primitive.read (text : List Char) : Primitive → Except Misfit Value
  | .int => (readNumber .int readInt32? text).map Value.int
  | .long => (readNumber .long readInt64? text).map Value.long
  | .string => .ok (.string (String.ofList (unescape text)))
  | .float => (readNumber .float single.read? text).map Value.float
  | .bool => .ok (.bool (lowerLetters text == "true".toList))

/-- How a slot announces a number of elements: as a whole number that is not negative. -/
def CountForm (slot : List Char) (count : Nat) : Prop :=
  ∃ number, readInt64? (trim slot) = some number ∧ number.toInt = count

namespace Reading

variable {α β : Type}

/-- The read of one slot that makes of its text what `parse` says. -/
def readSlot (parse : List Char → Except (Nat → Error) α) : Reading Error α := fun reader =>
  match reader.slots with
  | [] => .error (.ofSlot (.underrun reader.index)) reader
  | text :: rest =>
      match parse text with
      | .ok value => .ok value ⟨rest, reader.index + Reader.byteSize text + 1⟩
      | .error e => .error (e reader.index) ⟨rest, reader.index + Reader.byteSize text + 1⟩

/-- What the number of elements of a collection is read from. -/
def parseCount (text : List Char) : Except (Nat → Error) Nat :=
  match readNumber .count readInt64? text with
  | .ok value =>
      if value.toInt < 0 then .error fun index => .ofSlot (.negativeCount value.toInt index)
      else .ok value.toInt.toNat
  | .error misfit => .error misfit.error

/-- A slot reads as a number of elements exactly if it announces it. -/
theorem parse_count_eq_ok {slot : List Char} {count : Nat} :
    parseCount slot = .ok count ↔ CountForm slot count := by
  unfold parseCount readNumber CountForm
  cases readInt64? (trim slot) with
  | none => simp
  | some number =>
      simp only [Option.some.injEq, exists_eq_left']
      by_cases hneg : number.toInt < 0
      · rw [if_pos hneg]
        exact iff_of_false (fun h => nomatch h) (by omega)
      · rw [if_neg hneg, Except.ok.injEq]
        omega

/-- A slot that announces no number of elements gives an error about the slot. -/
theorem problem_of_parse_count {slot : List Char} {e : Nat → Error}
    (h : parseCount slot = .error e) (index : Nat) : ∃ problem, e index = .ofSlot problem := by
  unfold parseCount at h
  split at h
  · split at h
    · cases h
      exact ⟨_, rfl⟩
    · exact nomatch h
  · cases h
    exact ⟨_, rfl⟩

/-- What is read as a number of elements that memory has room for. -/
def parseAnnounced [Memory] (size : Nat) (text : List Char) : Except (Nat → Error) Nat :=
  match parseCount text with
  | .ok count =>
      if size * count ≤ Memory.room then .ok count else .error fun _ => .endless (.memory count)
  | .error e => .error e

/-- A number of elements is read exactly if it is announced and memory has room for them. -/
theorem parse_announced_eq_ok [Memory] {size count : Nat} {slot : List Char} :
    parseAnnounced size slot = .ok count ↔ CountForm slot count ∧ size * count ≤ Memory.room := by
  unfold parseAnnounced
  rw [← parse_count_eq_ok]
  cases parseCount slot with
  | error e => simp
  | ok announced =>
      by_cases hroom : size * announced ≤ Memory.room
      · simp only [if_pos hroom, Except.ok.injEq]
        exact ⟨fun h => ⟨h, h ▸ hroom⟩, And.left⟩
      · simp only [if_neg hroom, Except.ok.injEq, reduceCtorEq, false_iff, not_and]
        rintro rfl
        exact hroom

/-- A number of elements is refused if none is announced, or if memory has no room for them. -/
theorem parse_announced_eq_error [Memory] {size : Nat} {slot : List Char} {e : Nat → Error} :
    parseAnnounced size slot = .error e ↔ parseCount slot = .error e ∨
      ∃ count, CountForm slot count ∧ Memory.room < size * count ∧
        e = fun _ => .endless (.memory count) := by
  unfold parseAnnounced
  simp only [← parse_count_eq_ok]
  cases parseCount slot with
  | error other => simp
  | ok announced =>
      simp only [Except.ok.injEq, reduceCtorEq, false_or, exists_eq_left']
      by_cases hroom : size * announced ≤ Memory.room
      · rw [if_pos hroom]
        exact iff_of_false (fun h => nomatch h) fun h => absurd hroom (Nat.not_le_of_lt h.1)
      · rw [if_neg hroom, Except.error.injEq]
        exact ⟨fun h => ⟨Nat.lt_of_not_le hroom, h.symm⟩, fun h => h.2.symm⟩

/-- A read of one slot in another form. -/
theorem map_read_slot (f : α → β) (parse : List Char → Except (Nat → Error) α) :
    f <$> readSlot parse = readSlot fun text => (parse text).map f := by
  funext reader
  obtain ⟨slots, index⟩ := reader
  show EStateM.map f (readSlot parse) _ = _
  unfold EStateM.map readSlot
  cases slots with
  | nil => rfl
  | cons text rest =>
      simp only
      cases parse text <;> rfl

/-- Reading a number from a row that has a slot left. -/
theorem number_cons (kind : NumberKind) (parse : List Char → Option α) (text : List Char)
    (rest : Slots) (index : Nat) :
    number kind parse ⟨text :: rest, index⟩ =
      match parse (trim text) with
      | some value => .ok value ⟨rest, index + Reader.byteSize text + 1⟩
      | none => .error (.invalidNumber kind (String.ofList text) index)
          ⟨rest, index + Reader.byteSize text + 1⟩ := by
  show (match parse (trim text) with
    | some value => Pure.pure value
    | none => throw (.invalidNumber kind (String.ofList text) index) : Reading SlotError α)
      ⟨rest, index + Reader.byteSize text + 1⟩ = _
  cases parse (trim text) <;> rfl

/-- Reading a number is a read of one slot. -/
theorem slot_number (kind : NumberKind) (parse : List Char → Option α) :
    slot (number kind parse) =
      readSlot fun text => (readNumber kind parse text).mapError Misfit.error := by
  funext reader
  obtain ⟨slots, index⟩ := reader
  cases slots with
  | nil => rfl
  | cons text rest =>
      unfold slot adapt readSlot readNumber
      rw [number_cons]
      simp only
      cases parse (trim text) <;> rfl

/-- Reading a number of elements from a row that has a slot left. -/
theorem count_cons (text : List Char) (rest : Slots) (index : Nat) :
    count ⟨text :: rest, index⟩ =
      match readInt64? (trim text) with
      | some value =>
          if value.toInt < 0 then
            .error (.negativeCount value.toInt index) ⟨rest, index + Reader.byteSize text + 1⟩
          else .ok value.toInt.toNat ⟨rest, index + Reader.byteSize text + 1⟩
      | none => .error (.invalidNumber .count (String.ofList text) index)
          ⟨rest, index + Reader.byteSize text + 1⟩ := by
  show EStateM.bind (number .count readInt64?) (fun value =>
      if value.toInt < 0 then throw (.negativeCount value.toInt index)
      else Pure.pure value.toInt.toNat) ⟨text :: rest, index⟩ = _
  unfold EStateM.bind
  rw [number_cons]
  cases readInt64? (trim text) with
  | none => rfl
  | some value =>
      simp only
      split <;> rfl

/-- Reading a number of elements is a read of one slot. -/
theorem slot_count : slot count = readSlot parseCount := by
  funext reader
  obtain ⟨slots, index⟩ := reader
  cases slots with
  | nil => rfl
  | cons text rest =>
      unfold slot adapt readSlot parseCount readNumber
      rw [count_cons]
      simp only
      cases readInt64? (trim text) with
      | none => rfl
      | some value =>
          by_cases hnegative : value.toInt < 0
          · simp only [if_pos hnegative]
          · simp only [if_neg hnegative]

/-- Reading a number of elements that memory has room for is a read of one slot. -/
theorem announced_eq [Memory] (size : Nat) : announced size = readSlot (parseAnnounced size) := by
  funext reader
  obtain ⟨slots, index⟩ := reader
  unfold announced
  rw [slot_count]
  show EStateM.bind (readSlot parseCount) _ _ = _
  unfold EStateM.bind readSlot parseAnnounced
  cases slots with
  | nil => rfl
  | cons text rest =>
      simp only
      cases parseCount text with
      | error e => rfl
      | ok count =>
          by_cases hroom : size * count ≤ Memory.room
          · simp only [if_pos hroom]
            rfl
          · simp only [if_neg hroom]
            rfl

/-- Reading a primitive is a read of one slot. -/
theorem primitive_value_eq (kind : Primitive) :
    primitiveValue kind = readSlot fun text => (kind.read text).mapError Misfit.error := by
  cases kind with
  | int =>
      show Value.int <$> slot (number .int readInt32?) = _
      rw [slot_number, map_read_slot]
      congr 1
      funext text
      unfold Primitive.read
      cases readNumber .int readInt32? text <;> rfl
  | long =>
      show Value.long <$> slot (number .long readInt64?) = _
      rw [slot_number, map_read_slot]
      congr 1
      funext text
      unfold Primitive.read
      cases readNumber .long readInt64? text <;> rfl
  | float =>
      show Value.float <$> slot (number .float single.read?) = _
      rw [slot_number, map_read_slot]
      congr 1
      funext text
      unfold Primitive.read
      cases readNumber .float single.read? text <;> rfl
  | string =>
      funext reader
      obtain ⟨slots, index⟩ := reader
      cases slots <;> rfl
  | bool =>
      funext reader
      obtain ⟨slots, index⟩ := reader
      cases slots <;> rfl

/-- A read of one slot takes it where its text is good. -/
theorem Takes.read_slot {parse : List Char → Except (Nat → Error) α} {text : List Char} {value : α}
    (h : parse text = .ok value) : Takes (readSlot parse) [text] value := by
  intro rest index
  unfold readSlot
  simp only [List.cons_append, List.nil_append, h]
  rfl

/-- A read of one slot that succeeds has taken a slot with a good text. -/
theorem read_slot_eq_ok {parse : List Char → Except (Nat → Error) α} {reader after : Reader}
    {value : α} (h : readSlot parse reader = .ok value after) :
    ∃ text, reader.slots = text :: after.slots ∧ parse text = .ok value := by
  obtain ⟨slots, index⟩ := reader
  unfold readSlot at h
  cases slots with
  | nil => exact nomatch h
  | cons text rest =>
      simp only at h
      cases hparse : parse text with
      | error e =>
          rw [hparse] at h
          exact nomatch h
      | ok result =>
          rw [hparse] at h
          cases h
          exact ⟨text, rfl, hparse⟩

/-- A read of one slot is decided by the slot. -/
theorem Local.read_slot (parse : List Char → Except (Nat → Error) α) : Local (readSlot parse) := by
  intro reader value after h
  obtain ⟨text, hslots, hparse⟩ := read_slot_eq_ok h
  exact ⟨[text], hslots, Takes.read_slot hparse⟩

/-- A read of one slot gives an error where its text is bad. -/
theorem read_slot_eq_error {parse : List Char → Except (Nat → Error) α} {text : List Char}
    {e : Nat → Error} (h : parse text = .error e) (rest : Slots) (index : Nat) :
    readSlot parse ⟨text :: rest, index⟩ =
      .error (e index) ⟨rest, index + Reader.byteSize text + 1⟩ := by
  unfold readSlot
  simp only [h]

/-- A read of one slot that fails has found no slot, or one whose text is bad. -/
theorem read_slot_error {parse : List Char → Except (Nat → Error) α} {reader after : Reader}
    {e : Error} (h : readSlot parse reader = .error e after) :
    (reader.slots = [] ∧ e = .ofSlot (.underrun reader.index)) ∨
      ∃ text rest refusal, reader.slots = text :: rest ∧ parse text = .error refusal ∧
        e = refusal reader.index := by
  obtain ⟨slots, index⟩ := reader
  unfold readSlot at h
  cases slots with
  | nil =>
      cases h
      exact .inl ⟨rfl, rfl⟩
  | cons text rest =>
      simp only at h
      cases hparse : parse text with
      | ok value =>
          rw [hparse] at h
          exact nomatch h
      | error refusal =>
          rw [hparse] at h
          cases h
          exact .inr ⟨text, rest, refusal, rfl, hparse, rfl⟩

/-- The number of elements that a natural number in decimal stands for. -/
theorem parse_count_digits {n : Nat} (h : n < 2 ^ 63) : parseCount (digits n) = .ok n := by
  have htrim : trim (digits n) = digits n := by rw [← decimal_natCast, trim_decimal]
  have hvalue : (Int64.ofInt (n : Int)).toInt = n :=
    Int64.toInt_ofInt_of_le (by omega) (by omega)
  unfold parseCount readNumber
  rw [htrim, read_int64_digits h]
  simp only [hvalue, Int.toNat_natCast]
  rw [if_neg (by omega)]

/-- A natural number in decimal that does not fit is no number of elements. -/
theorem parse_count_digits_of_le {n : Nat} (h : 2 ^ 63 ≤ n) :
    parseCount (digits n) = .error (Misfit.error ⟨.count, digits n⟩) := by
  have htrim : trim (digits n) = digits n := by rw [← decimal_natCast, trim_decimal]
  unfold parseCount readNumber
  rw [htrim, read_int64_digits_of_le h]

end Reading

end SheetWire
