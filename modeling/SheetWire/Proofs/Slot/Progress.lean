import SheetWire.Proofs.Slot.Writing

/-!
# How far reads have come

Every read takes one slot, also where it fails because of what stands in the slot (`leaves_read`).
So the number of reads alone tells where a reader stands, whatever their kinds were and however many
of them failed (`after_reads`). `reads_take_slots` says what this is in bytes of the row, and that a
read sees nothing of the row but the slot at which it starts.
-/

namespace SheetWire

open Text Number

namespace Reading

variable {ε α : Type}

/-- A value or an error together with the reader after it. -/
def leaving (after : Reader) : Except ε α → EStateM.Result ε Reader α
  | .ok value => .ok value after
  | .error e => .error e after

/-- The reader after a read, whether the read succeeded or failed. -/
def leaves (read : Reading ε α) (reader : Reader) : Reader :=
  match read reader with
  | .ok _ after => after
  | .error _ after => after

/-- The reader that goes with a value or an error. -/
theorem leaves_of_leaving {read : Reading ε α} {reader after : Reader} {outcome : Except ε α}
    (h : read reader = leaving after outcome) : read.leaves reader = after := by
  unfold leaves
  rw [h]
  cases outcome <;> rfl

/-- The value or error that goes with a reader. -/
theorem result_of_leaving {read : Reading ε α} {reader after : Reader} {outcome : Except ε α}
    (h : read reader = leaving after outcome) : read.result reader = outcome := by
  unfold result
  rw [h]
  cases outcome <;> rfl

end Reading

namespace Reader

/-- The reader behind the next slot, or where it was if there is none. -/
def next (reader : Reader) : Reader :=
  match reader.slots with
  | [] => reader
  | slot :: rest => ⟨rest, reader.index + byteSize slot + 1⟩

/-- The reader after reads of some kinds, each from where the one before it left off, whether that
one succeeded or failed. -/
def afterReads (reader : Reader) (kinds : List SlotKind) : Reader :=
  kinds.foldl (fun reader kind => kind.read.leaves reader) reader

end Reader

namespace SlotKind

/-- What a slot at an offset is as a number of some kind. -/
def parseNumber {α : Type} (kind : NumberKind) (parse : List Char → Option α) (slot : List Char)
    (index : Nat) : Except SlotError α :=
  match parse (trim slot) with
  | some value => .ok value
  | none => .error (.invalidNumber kind (String.ofList slot) index)

/-- What a read of the kind makes of a slot at an offset. -/
def parse : (kind : SlotKind) → List Char → Nat → Except SlotError kind.Value
  | .raw, slot, _ => .ok slot
  | .int, slot, index => parseNumber .int readInt32? slot index
  | .long, slot, index => parseNumber .long readInt64? slot index
  | .float, slot, index => parseNumber .float single.read? slot index
  | .double, slot, index => parseNumber .double Number.double.read? slot index
  | .bool, slot, _ => .ok (lowerLetters slot == "true".toList)
  | .string, slot, _ => .ok (String.ofList (unescape slot))
  | .count, slot, index =>
      match parseNumber .count readInt64? slot index with
      | .ok value =>
          if value.toInt < 0 then .error (.negativeCount value.toInt index)
          else .ok value.toInt.toNat
      | .error e => .error e

/-- A number is read from the next slot. -/
theorem number_eq_leaving {α : Type} (kind : NumberKind) (parse : List Char → Option α)
    (slot : List Char) (rest : Slots) (index : Nat) :
    Reading.number kind parse ⟨slot :: rest, index⟩ =
      Reading.leaving ⟨rest, index + Reader.byteSize slot + 1⟩
        (parseNumber kind parse slot index) := by
  rw [Reading.number_cons, parseNumber]
  cases parse (trim slot) <;> rfl

/-- A read from a row that has a slot left makes of the slot what its kind says, and goes on to the
slot behind it. -/
theorem read_cons (kind : SlotKind) (slot : List Char) (rest : Slots) (index : Nat) :
    kind.read ⟨slot :: rest, index⟩ =
      Reading.leaving ⟨rest, index + Reader.byteSize slot + 1⟩ (kind.parse slot index) := by
  cases kind with
  | raw => rfl
  | int => exact number_eq_leaving .int readInt32? slot rest index
  | long => exact number_eq_leaving .long readInt64? slot rest index
  | float => exact number_eq_leaving .float single.read? slot rest index
  | double => exact number_eq_leaving .double Number.double.read? slot rest index
  | bool => rfl
  | string => rfl
  | count =>
      show Reading.count _ = _
      rw [Reading.count_cons, parse, parseNumber]
      cases readInt64? (trim slot) with
      | none => rfl
      | some value =>
          by_cases hnegative : value.toInt < 0
          · simp only [if_pos hnegative]
            rfl
          · simp only [if_neg hnegative]
            rfl

/-- What stands in a slot is never taken for the end of the row. -/
theorem parse_ne_underrun (kind : SlotKind) (slot : List Char) (index other : Nat) :
    kind.parse slot index ≠ .error (.underrun other) := by
  have hnumber : ∀ {α : Type} (word : NumberKind) (parse : List Char → Option α),
      parseNumber word parse slot index ≠ .error (.underrun other) := by
    intro α word parse
    unfold parseNumber
    cases parse (trim slot) <;> nofun
  cases kind with
  | raw | bool | string => nofun
  | int => exact hnumber .int readInt32?
  | long => exact hnumber .long readInt64?
  | float => exact hnumber .float single.read?
  | double => exact hnumber .double Number.double.read?
  | count =>
      intro h
      rw [parse] at h
      split at h
      · split at h <;> cases h
      · rename_i e hfailed
        obtain rfl := Except.error.inj h
        exact hnumber .count readInt64? hfailed

/-- Every read goes on by one slot, whether it succeeds or fails. -/
theorem leaves_read (kind : SlotKind) (reader : Reader) :
    kind.read.leaves reader = reader.next := by
  obtain ⟨slots, index⟩ := reader
  cases slots with
  | nil =>
      unfold Reading.leaves
      rw [kind.read_nil]
      rfl
  | cons slot rest => exact Reading.leaves_of_leaving (kind.read_cons slot rest index)

/-- What a read gives from a row that has a slot left. -/
theorem result_read_cons (kind : SlotKind) (slot : List Char) (rest : Slots) (index : Nat) :
    kind.read.result ⟨slot :: rest, index⟩ = kind.parse slot index :=
  Reading.result_of_leaving (kind.read_cons slot rest index)

/-- A read that finds a slot is not past the end. -/
theorem no_underrun (kind : SlotKind) (slot : List Char) (rest : Slots) (index : Nat) :
    ¬ ∃ other after, kind.read ⟨slot :: rest, index⟩ = .error (.underrun other) after := by
  intro h
  obtain ⟨other, after, hunderrun⟩ := h
  have hresult := kind.result_read_cons slot rest index
  unfold Reading.result at hresult
  rw [hunderrun] at hresult
  exact kind.parse_ne_underrun slot index other hresult.symm

end SlotKind

/-- Reads take as many slots as there are reads, as long as slots are left. -/
theorem Reader.after_reads (kinds : List SlotKind) (reader : Reader) :
    reader.afterReads kinds =
      ⟨reader.slots.drop kinds.length,
        reader.index + Reading.span (reader.slots.take kinds.length)⟩ := by
  induction kinds generalizing reader with
  | nil => rfl
  | cons kind kinds ih =>
      rw [afterReads, List.foldl_cons, kind.leaves_read, ← afterReads, ih]
      obtain ⟨slots, index⟩ := reader
      cases slots with
      | nil => simp [next]
      | cons slot rest =>
          rw [List.length_cons, List.take_succ_cons, List.drop_succ_cons]
          exact congrArg (Reader.mk (rest.drop kinds.length))
            (Nat.add_assoc index (byteSize slot + 1) (Reading.span (rest.take kinds.length)))

/-- A reader of a row still stands in it behind the next slot. -/
theorem Reader.StandsIn.next {row : List Char} {reader : Reader} (h : reader.StandsIn row) :
    reader.next.StandsIn row := by
  rw [← SlotKind.raw.leaves_read, Reading.leaves]
  rcases Reading.raw_of_stands h with ⟨-, hraw⟩ | ⟨_, _, _, after, -, -, -, -, hraw, -, hafter⟩
  · rw [show SlotKind.raw.read reader = _ from hraw]
    exact h
  · rw [show SlotKind.raw.read reader = _ from hraw]
    exact hafter

/-- A reader of a row still stands in it after reads of any kinds. -/
theorem Reader.StandsIn.after_reads {row : List Char} {reader : Reader} (h : reader.StandsIn row)
    (kinds : List SlotKind) : (reader.afterReads kinds).StandsIn row := by
  induction kinds generalizing reader with
  | nil => exact h
  | cons kind kinds ih =>
      rw [afterReads, List.foldl_cons, kind.leaves_read, ← afterReads]
      exact ih h.next

/-- Where the slot with a number stands in a row: so many commas stand in front of it, one of them
directly, and the slot ends at the next comma or with the row. -/
structure SlotStands (row : List Char) (number : Nat) (front slot back : List Char) : Prop where
  whole : front ++ slot ++ back = row
  commas : front.count ',' = number
  start : front = [] ∨ front.getLast? = some ','
  comma_free : ',' ∉ slot
  stop : back = [] ∨ back.head? = some ','

/-- Slots with a comma behind each of them take the bytes that reads of them pass. -/
theorem Reading.span_eq_byte_size (slots : Slots) :
    Reader.byteSize (slots.flatMap (· ++ [','])) = span slots := by
  induction slots with
  | nil => rfl
  | cons slot slots ih =>
      rw [List.flatMap_cons, Reader.byte_size_append, Reader.byte_size_append, ih]
      rfl

/-- Slots with a comma behind each of them hold as many commas as there are slots. -/
theorem count_commas {slots : Slots} (h : ∀ slot ∈ slots, ',' ∉ slot) :
    (slots.flatMap (· ++ [','])).count ',' = slots.length := by
  induction slots with
  | nil => rfl
  | cons slot slots ih =>
      rw [List.forall_mem_cons] at h
      rw [List.flatMap_cons, List.count_append, List.count_append, ih h.2,
        List.count_eq_zero.mpr h.1, List.length_cons]
      exact Nat.add_comm _ _

/-- Every slot stands where the slots in front of it end. -/
theorem exists_slot_stands (row : List Char) {number : Nat} {slot : List Char} {rest : Slots}
    (h : (row.splitOn ',').drop number = slot :: rest) :
    ∃ front back, SlotStands row number front slot back ∧
      Reader.byteSize front = Reading.span ((row.splitOn ',').take number) := by
  generalize hbefore : (row.splitOn ',').take number = before
  have hcut : row.splitOn ',' = before ++ slot :: rest := by
    rw [← hbefore, ← h, List.take_append_drop]
  have hfree : ∀ part ∈ before ++ slot :: rest, ',' ∉ part := fun part hpart =>
    notMem_of_mem_splitOn (hcut ▸ hpart)
  have hlength : before.length = number := by
    have hrest := congrArg List.length h
    rw [List.length_drop, List.length_cons] at hrest
    rw [← hbefore, List.length_take]
    omega
  refine ⟨before.flatMap (· ++ [',']), rest.flatMap (',' :: ·), ⟨?_, ?_, ?_, ?_, ?_⟩,
    Reading.span_eq_byte_size before⟩
  · rw [← intercalate_around, ← hcut, List.intercalate_splitOn]
  · rw [count_commas fun part hpart => hfree part (List.mem_append_left _ hpart), hlength]
  · rcases List.eq_nil_or_concat before with rfl | ⟨front, last, rfl⟩
    · exact .inl rfl
    · right
      simp
  · exact hfree slot (List.mem_append_right before List.mem_cons_self)
  · cases rest with
    | nil => exact .inl rfl
    | cons next rest => exact .inr rfl

/-- After reads of some kinds a reader stands behind as many slots of the row. -/
theorem Reader.after_reads_of_row (row : List Char) (kinds : List SlotKind) :
    (Reader.ofRow row).afterReads kinds =
      ⟨(row.splitOn ',').drop kinds.length, Reading.span ((row.splitOn ',').take kinds.length)⟩ :=
  (Reader.after_reads kinds (Reader.ofRow row)).trans (congrArg (Reader.mk _) (Nat.zero_add _))

/-- All slots of a row have been read after as many reads. -/
theorem Reader.is_exhausted_after_reads (row : List Char) (kinds : List SlotKind) :
    ((Reader.ofRow row).afterReads kinds).isExhausted = true ↔
      row.count ',' + 1 ≤ kinds.length := by
  rw [after_reads_of_row, isExhausted, List.isEmpty_iff, List.drop_eq_nil_iff, length_splitOn]

/-- As long as fewer reads were made than there are slots, the reader stands at one of them. -/
theorem Reader.after_reads_inside {row : List Char} {kinds : List SlotKind}
    (h : kinds.length < row.count ',' + 1) :
    ∃ front slot back rest, SlotStands row kinds.length front slot back ∧
      (Reader.ofRow row).afterReads kinds = ⟨slot :: rest, byteSize front⟩ := by
  rw [← length_splitOn] at h
  obtain ⟨slot, rest, hdrop⟩ : ∃ slot rest, (row.splitOn ',').drop kinds.length = slot :: rest :=
    List.exists_cons_of_ne_nil fun hnil => absurd (List.drop_eq_nil_iff.mp hnil) (by omega)
  obtain ⟨front, back, hstands, hfront⟩ := exists_slot_stands row hdrop
  exact ⟨front, slot, back, rest, hstands, by rw [after_reads_of_row, hdrop, hfront]⟩

/-- After as many reads as there are slots, or more, the reader stands one byte past the end. -/
theorem Reader.after_reads_behind {row : List Char} {kinds : List SlotKind}
    (h : row.count ',' + 1 ≤ kinds.length) :
    (Reader.ofRow row).afterReads kinds = ⟨[], byteSize row + 1⟩ := by
  rw [← length_splitOn] at h
  rw [after_reads_of_row, List.drop_eq_nil_of_le h, List.take_of_length_le h,
    Reading.span_eq_byte_size_intercalate (List.splitOn_ne_nil ',' row), List.intercalate_splitOn]

/-- After `k` reads of any kinds a reader stands at slot `k` of the row. If there is one, the next
read sees nothing but its text and its offset. Behind the last slot the reader stands one byte past
the end of the row, and every further read is past the end and leaves it there. -/
theorem reads_take_slots (row : List Char) (kinds : List SlotKind) :
    let reader := (Reader.ofRow row).afterReads kinds
    let slots := row.count ',' + 1
    (reader.isExhausted = true ↔ slots ≤ kinds.length) ∧
    (Reader.byteSize row < reader.index ↔ slots ≤ kinds.length) ∧
    (∀ kind : SlotKind, (∃ index after, kind.read reader = .error (.underrun index) after) ↔
      slots ≤ kinds.length) ∧
    (slots ≤ kinds.length → reader.index = Reader.byteSize row + 1 ∧
      ∀ kind : SlotKind, kind.read reader = .error (.underrun reader.index) reader) ∧
    (kinds.length < slots → ∃ front slot back,
      SlotStands row kinds.length front slot back ∧ reader.index = Reader.byteSize front ∧
      ∀ kind : SlotKind, kind.read.result reader = kind.parse slot reader.index) := by
  intro reader slots
  have hexhausted : reader.isExhausted = true ↔ slots ≤ kinds.length :=
    Reader.is_exhausted_after_reads row kinds
  have hstands : reader.StandsIn row := (Reader.stands_in_of_row row).after_reads kinds
  refine ⟨hexhausted, hstands.is_exhausted_iff.symm.trans hexhausted, ?_⟩
  rcases Nat.lt_or_ge kinds.length slots with hleft | hnone
  · have hmore : ¬ slots ≤ kinds.length := Nat.not_le.mpr hleft
    obtain ⟨front, slot, back, rest, hslot, hreader⟩ := Reader.after_reads_inside hleft
    rw [show reader = _ from hreader]
    exact ⟨fun kind => iff_of_false (kind.no_underrun slot rest _) hmore,
      fun hnone => absurd hnone hmore,
      fun _ => ⟨front, slot, back, hslot, rfl, fun kind => kind.result_read_cons slot rest _⟩⟩
  · rw [show reader = _ from Reader.after_reads_behind hnone]
    exact ⟨fun kind => iff_of_true ⟨_, _, kind.read_nil _⟩ hnone,
      fun _ => ⟨rfl, fun kind => kind.read_nil _⟩,
      fun hleft => absurd hleft (Nat.not_lt.mpr hnone)⟩

/-- A number that is none, a negative count, a letter of two bytes and an empty last slot. -/
theorem failed_reads_take_slots :
    let row := "x1,-2,é,".toList
    let before : List SlotKind := [.int, .count]
    let all : List SlotKind := [.int, .count, .string, .bool, .raw]
    SlotKind.int.parse "x1".toList 0 = .error (.invalidNumber .int "x1" 0) ∧
      SlotKind.count.parse "-2".toList 3 = .error (.negativeCount (-2) 3) ∧
      before.length < row.count ',' + 1 ∧ row.count ',' + 1 ≤ all.length ∧
      (∃ front slot back, SlotStands row 2 front slot back ∧
        ((Reader.ofRow row).afterReads before).index = Reader.byteSize front) ∧
      ((Reader.ofRow row).afterReads all).index = 10 := by
  obtain ⟨-, -, -, -, hleft⟩ := reads_take_slots "x1,-2,é,".toList [.int, .count]
  obtain ⟨-, -, -, hpast, -⟩ :=
    reads_take_slots "x1,-2,é,".toList [.int, .count, .string, .bool, .raw]
  obtain ⟨front, slot, back, hstands, hindex, -⟩ := hleft (by decide)
  exact ⟨rfl, rfl, by decide, by decide, ⟨front, slot, back, hstands, hindex⟩,
    (hpast (by decide)).1⟩

end SheetWire
