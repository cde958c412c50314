import SheetWire.Proofs.Slot.SingleSlots
import SheetWire.Proofs.Text.Groups
import SheetWire.Proofs.Text.Replacing

/-!
# What is written is read back

A row grows slot by slot, and whether a comma goes in front of a slot is decided by the number of
slots before it, not by their texts (`Writer.extend`). What was written is read back by the matching
reads in the same order, as long as no entry breaks out of its slot; then the reader stands one byte
past the end of the row, and there is nothing left to read (`written_entries_read_back`).
-/

namespace SheetWire

open Text Number

/-- The kinds of read from a slot. -/
inductive SlotKind where
  | raw
  | int
  | long
  | float
  | double
  | bool
  | string
  | count
  deriving DecidableEq, Repr

namespace SlotKind

/-- What a read of the kind gives. -/
def Value : SlotKind → Type
  | .raw => List Char
  | .int => Int32
  | .long => Int64
  | .float => Binary
  | .double => Binary
  | .bool => Bool
  | .string => String
  | .count => Nat

/-- The read of the kind. -/
def read : (kind : SlotKind) → Reading SlotError kind.Value
  | .raw => Reading.raw
  | .int => Reading.int
  | .long => Reading.long
  | .float => Reading.float
  | .double => Reading.double
  | .bool => Reading.bool
  | .string => Reading.string
  | .count => Reading.count

/-- The read of the kind, which gives the kind with the value. -/
def readTagged (kind : SlotKind) : Reading SlotError (Sigma Value) :=
  Sigma.mk kind <$> kind.read

/-- No read finds a slot where none is left, and the reader stays where it is. -/
theorem read_nil (kind : SlotKind) (index : Nat) :
    kind.read ⟨[], index⟩ = .error (.underrun index) ⟨[], index⟩ := by
  cases kind <;> rfl

end SlotKind

/-- What is written into a slot. -/
inductive SlotEntry where
  | raw (text : List Char)
  | string (text : String)
  | count (n : Nat)
  | int (value : Int64)
  | bool (value : Bool)
  deriving DecidableEq, Repr

namespace SlotEntry

/-- Writes the entry into the next slot. -/
def write (w : Writer) : SlotEntry → Writer
  | .raw text => w.raw text
  | .string text => w.string text
  | .count n => w.count n
  | .int value => w.int value
  | .bool value => w.bool value

/-- The text of the slot that the entry is written into. -/
def slot : SlotEntry → List Char
  | .raw text => text
  | .string text => escape text.toList
  | .count n => digits n
  | .int value => decimal value.toInt
  | .bool value => (if value then "true" else "false").toList

/-- The kind of the read that matches the entry. -/
def kind : SlotEntry → SlotKind
  | .raw _ => .raw
  | .string _ => .string
  | .count _ => .count
  | .int _ => .long
  | .bool _ => .bool

/-- What the matching read gives: the value that was written, but the marked commas of a text lose
their backslashes. -/
def back : SlotEntry → Sigma SlotKind.Value
  | .raw text => ⟨.raw, text⟩
  | .string text => ⟨.string, String.ofList (unmark text.toList)⟩
  | .count n => ⟨.count, n⟩
  | .int value => ⟨.long, value⟩
  | .bool value => ⟨.bool, value⟩

/-- Whether the entry stays in its slot and can be read back: texts have no comma that would
separate slots and no sentinel of their own, and counts fit 64 bits with sign. -/
def Contained : SlotEntry → Prop
  | .raw text => ',' ∉ text
  | .string text => ¬ UnmarkedComma text.toList ∧
      ¬ newlineSentinel <:+: text.toList ∧ ¬ commaSentinel <:+: text.toList
  | .count n => n < 2 ^ 63
  | .int _ => True
  | .bool _ => True

/-- Writing an entry is writing the text of its slot. -/
theorem write_eq_raw (w : Writer) (entry : SlotEntry) : entry.write w = w.raw entry.slot := by
  cases entry <;> rfl

/-- A contained entry has no comma in its slot. -/
theorem comma_notMem_slot {entry : SlotEntry} (h : entry.Contained) : ',' ∉ entry.slot := by
  cases entry with
  | raw text => exact h
  | string text => exact comma_mem_escape.not.mpr h.1
  | count n =>
      rw [slot, ← decimal_natCast]
      exact comma_notMem_decimal n
  | int value => exact comma_notMem_decimal value.toInt
  | bool value => cases value <;> decide

end SlotEntry

/-! ### The row that is written -/

/-- A row and the number of its slots when one more slot is appended: a comma separates it from the
slots before it, of which even the only one may be empty. -/
def Writer.extend (written : List Char × Nat) (text : List Char) : List Char × Nat :=
  (written.1 ++ (if 0 < written.2 then [','] else []) ++ text, written.2 + 1)

/-- Writing a slot appends it to the row. -/
theorem Writer.extend_eq (w : Writer) (text : List Char) :
    extend (w.row, w.size) text = ((w.raw text).row, (w.raw text).size) := by
  have hsize : w.size + 1 = (w.raw text).size := by simp [size, raw]
  refine Prod.ext ?_ hsize
  show w.row ++ (if 0 < w.size then [','] else []) ++ text = (w.raw text).row
  by_cases hnil : w.slots = []
  · have hfirst : ¬ 0 < w.size := by simp [size, hnil]
    rw [if_neg hfirst, row, row, raw, hnil]
    exact List.intercalate_singleton.symm
  · have hlater : 0 < w.size := List.length_pos_iff.mpr hnil
    rw [if_pos hlater, List.append_assoc, row, row, raw,
      intercalate_append hnil (List.cons_ne_nil text []), List.intercalate_singleton]
    rfl

/-- Entries that are written one after another append their slots to the row. -/
theorem foldl_extend (entries : List SlotEntry) (w : Writer) :
    (entries.map SlotEntry.slot).foldl Writer.extend (w.row, w.size) =
      ((entries.foldl SlotEntry.write w).row, (entries.foldl SlotEntry.write w).size) := by
  induction entries generalizing w with
  | nil => rfl
  | cons entry entries ih =>
      rw [List.map_cons, List.foldl_cons, List.foldl_cons, Writer.extend_eq,
        ← entry.write_eq_raw, ih]

/-- Entries that are written one after another stand in slots of their own. -/
theorem slots_written (entries : List SlotEntry) (w : Writer) :
    (entries.foldl SlotEntry.write w).slots = w.slots ++ entries.map SlotEntry.slot := by
  induction entries generalizing w with
  | nil => simp
  | cons entry entries ih =>
      rw [List.foldl_cons, ih, entry.write_eq_raw]
      simp [Writer.raw]

/-! ### Reading it back -/

namespace Reading

/-- Past all slots of a row is one byte past its end: there is no comma after the last slot. -/
theorem span_eq_byte_size_intercalate {slots : Slots} (h : slots ≠ []) :
    span slots = Reader.byteSize ([','].intercalate slots) + 1 := by
  induction slots with
  | nil => exact absurd rfl h
  | cons slot slots ih =>
      by_cases hnil : slots = []
      · subst hnil
        rw [List.intercalate_singleton]
        rfl
      · have hcomma : Reader.byteSize (',' :: [','].intercalate slots) =
            1 + Reader.byteSize ([','].intercalate slots) := rfl
        rw [intercalate_cons_of_ne_nil ',' slot hnil, Reader.byte_size_append, hcomma]
        show Reader.byteSize slot + 1 + span slots = _
        rw [ih hnil]
        omega

/-- Only no slots take no bytes. -/
theorem span_pos_iff {slots : Slots} : 0 < span slots ↔ slots ≠ [] := by
  cases slots with
  | nil => exact ⟨fun h => absurd h (Nat.lt_irrefl 0), fun h => absurd rfl h⟩
  | cons slot slots =>
      have hspan : span (slot :: slots) = Reader.byteSize slot + 1 + span slots := rfl
      exact ⟨fun _ => List.cons_ne_nil slot slots, fun _ => by omega⟩

/-- A read takes what it takes when its errors are seen as others. -/
theorem Takes.of_adapt {ε ε' α : Type} {f : ε → ε'} {read : Reading ε α} {used : Slots}
    {value : α} (h : Takes (Reading.adapt f read) used value) : Takes read used value := by
  intro rest index
  have hrun := h rest index
  unfold Reading.adapt at hrun
  cases hread : read ⟨used ++ rest, index⟩ with
  | ok result after =>
      rw [hread] at hrun
      cases hrun
      rfl
  | error e after =>
      rw [hread] at hrun
      exact nomatch hrun

/-- The slot of a contained entry is read back by the matching read. -/
theorem Takes.entry {entry : SlotEntry} (h : entry.Contained) :
    Takes entry.kind.readTagged [entry.slot] entry.back := by
  cases entry with
  | raw text => exact Takes.map (Sigma.mk SlotKind.raw) fun _ _ => rfl
  | string text =>
      have hread : Takes string [escape text.toList] (String.ofList (unmark text.toList)) := by
        rw [← (unescape_escape_eq_unmark_iff text.toList).mpr h.2]
        exact fun _ _ => rfl
      exact hread.map (Sigma.mk SlotKind.string)
  | count n =>
      have hslot : Takes (slot count) [digits n] n :=
        slot_count ▸ Takes.read_slot (parse_count_digits h)
      exact (Takes.of_adapt hslot).map (Sigma.mk SlotKind.count)
  | int value =>
      have hvalue : readNumber .long readInt64? (decimal value.toInt) = .ok value := by
        rw [readNumber, trim_decimal, read_int64_decimal]
      have hslot : Takes (slot long) [decimal value.toInt] value :=
        slot_number .long readInt64? ▸ Takes.read_slot (by rw [hvalue]; rfl)
      exact (Takes.of_adapt hslot).map (Sigma.mk SlotKind.long)
  | bool value =>
      have hread : Takes bool [(if value then "true" else "false").toList] value := by
        cases value <;> exact fun _ _ => rfl
      exact hread.map (Sigma.mk SlotKind.bool)

/-- The slots of contained entries are read back one after another by the matching reads. -/
theorem Takes.entries {entries : List SlotEntry} (h : ∀ entry ∈ entries, entry.Contained) :
    Takes (each SlotKind.readTagged (entries.map SlotEntry.kind)) (entries.map SlotEntry.slot)
      (entries.map SlotEntry.back) := by
  induction entries with
  | nil => exact Takes.pure []
  | cons entry entries ih =>
      have hrest := ih fun other hother => h other (List.mem_cons_of_mem entry hother)
      exact (Takes.entry (h entry List.mem_cons_self)).each_cons hrest

end Reading

/-- Writing at least one entry gives the slots of the entries with commas between them. The matching
reads then give the entries back, the row is exhausted after the last of them and not before, and no
read of any kind finds anything more. -/
theorem written_entries_read_back (entries : List SlotEntry) (hne : entries ≠ [])
    (h : ∀ entry ∈ entries, entry.Contained) :
    let writer := entries.foldl SlotEntry.write {}
    let row := writer.row
    row = [','].intercalate (entries.map SlotEntry.slot) ∧ writer.size = entries.length ∧
      (row, writer.size) = (entries.map SlotEntry.slot).foldl Writer.extend ([], 0) ∧
      ∀ before after, entries = before ++ after →
        ∃ reader,
          Reading.each SlotKind.readTagged (before.map SlotEntry.kind) (Reader.ofRow row) =
            .ok (before.map SlotEntry.back) reader ∧
          (reader.isExhausted = true ↔ after = []) ∧
          (Reader.byteSize row < reader.index ↔ after = []) ∧
          (after = [] → ∀ kind : SlotKind,
            kind.read reader = .error (.underrun (Reader.byteSize row + 1)) reader) := by
  intro writer row
  have hslots : writer.slots = entries.map SlotEntry.slot := slots_written entries {}
  have hrow : row = [','].intercalate (entries.map SlotEntry.slot) :=
    congrArg [','].intercalate hslots
  have hsize : writer.size = entries.length := by rw [Writer.size, hslots, List.length_map]
  refine ⟨hrow, hsize, (foldl_extend entries {}).symm, fun before after hentries => ?_⟩
  have hnonempty : entries.map SlotEntry.slot ≠ [] := List.map_eq_nil_iff.not.mpr hne
  have hcut : row.splitOn ',' = before.map SlotEntry.slot ++ after.map SlotEntry.slot := by
    rw [hrow, List.splitOn_intercalate ',' ?_ hnonempty, hentries, List.map_append]
    intro slot hslot
    obtain ⟨entry, hentry, rfl⟩ := List.mem_map.mp hslot
    exact SlotEntry.comma_notMem_slot (h entry hentry)
  have hend : Reading.span (before.map SlotEntry.slot) + Reading.span (after.map SlotEntry.slot) =
      Reader.byteSize row + 1 := by
    rw [← Reading.span_append, ← List.map_append, ← hentries,
      Reading.span_eq_byte_size_intercalate hnonempty, hrow]
  have hbefore : ∀ entry ∈ before, entry.Contained := fun entry hentry =>
    h entry (hentries ▸ List.mem_append_left after hentry)
  have hread := Reading.Takes.entries hbefore (after.map SlotEntry.slot) 0
  rw [← hcut, Nat.zero_add] at hread
  refine ⟨_, hread, ?_, ?_, ?_⟩
  · exact List.isEmpty_iff.trans List.map_eq_nil_iff
  · have hleft : 0 < Reading.span (after.map SlotEntry.slot) ↔ after ≠ [] :=
      Reading.span_pos_iff.trans List.map_eq_nil_iff.not
    show Reader.byteSize row < Reading.span (before.map SlotEntry.slot) ↔ after = []
    constructor
    · intro hpast
      by_contra hafter
      have := hleft.mpr hafter
      omega
    · rintro rfl
      have hnothing : Reading.span (([] : List SlotEntry).map SlotEntry.slot) = 0 := rfl
      omega
  · rintro rfl kind
    have hindex : Reading.span (before.map SlotEntry.slot) = Reader.byteSize row + 1 := hend
    rw [hindex]
    exact kind.read_nil (Reader.byteSize row + 1)

/-- Empty slots first, in the middle and last, and a text that ends in a backslash. -/
theorem mixed_entries_read_back :
    let entries : List SlotEntry :=
      [.raw [], .string "a\\,b\nc\\", .count 3, .raw [], .int (-7), .bool true, .raw []]
    let row := (entries.foldl SlotEntry.write {}).row
    (entries ≠ [] ∧ ∀ entry ∈ entries, entry.Contained) ∧
      row = ",a:l/~b;l/~c\\,3,,-7,true,".toList ∧
      ∃ reader,
        Reading.each SlotKind.readTagged [.raw, .string, .count, .raw, .long, .bool, .raw]
          (Reader.ofRow row) =
            .ok [⟨.raw, []⟩, ⟨.string, "a,b\nc\\"⟩, ⟨.count, (3 : Nat)⟩, ⟨.raw, []⟩,
              ⟨.long, (-7 : Int64)⟩, ⟨.bool, true⟩, ⟨.raw, []⟩] reader ∧
        reader.isExhausted = true := by
  intro entries row
  have hcontained : ∀ entry ∈ entries, entry.Contained := by
    have htext : ¬ UnmarkedComma "a\\,b\nc\\".toList ∧
        ¬ newlineSentinel <:+: "a\\,b\nc\\".toList ∧
        ¬ commaSentinel <:+: "a\\,b\nc\\".toList := by
      rw [← comma_mem_escape]
      decide
    simpa [entries, SlotEntry.Contained] using htext
  have hback : entries.map SlotEntry.back =
      [⟨.raw, []⟩, ⟨.string, "a,b\nc\\"⟩, ⟨.count, (3 : Nat)⟩, ⟨.raw, []⟩,
        ⟨.long, (-7 : Int64)⟩, ⟨.bool, true⟩, ⟨.raw, []⟩] := by
    simp [entries, SlotEntry.back, unmark, replace, markedComma]
  obtain ⟨hrow, -, -, hread⟩ :=
    written_entries_read_back entries (List.cons_ne_nil _ _) hcontained
  obtain ⟨reader, hreader, hexhausted, -, -⟩ := hread entries [] (List.append_nil entries).symm
  rw [hback] at hreader
  exact ⟨⟨List.cons_ne_nil _ _, hcontained⟩, hrow.trans (by decide), reader, hreader,
    hexhausted.mpr rfl⟩

end SheetWire
