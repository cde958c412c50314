import SheetWire.Proofs.Row.DirectReading

/-!
# Decoding what a node has written

The slots that a node writes for a text and the slots that it takes go together. A row of slots is
read with an outcome (`Reading.Answers`) if they are all taken for a value, or if decoding stops at
one of them. On the slots that encoding a text gives, decoding has the outcome of reading the text
directly (`answers_encode_within`), unless there are more slots than a count can say. It stops for
want of memory only if memory has no room for so many values and does not hold what is read.
-/

namespace SheetWire

open Text Number

/-- Why decoding stops at a slot: it is not the number that should be there, or there is no memory
for as many elements as it announces. -/
inductive Stop where
  | misfit (misfit : Misfit)
  | short (count : Nat)

/-- The error that decoding stops with at a slot that stands at an offset. -/
def Stop.error : Stop → Nat → Error
  | .misfit inner => inner.error
  | .short count => fun _ => .endless (.memory count)

/-- Whether an outcome on so many slots is that of a direct reading: the value that it gives, if
memory holds it, or the misfit where it stops. It stops for want of memory only on more slots than
memory has room for, and only if memory does not hold the value that the reading gives. -/
def OutcomeOf [Memory] {α : Type} (length : Nat) (reads : Except Misfit α → Prop)
    (held : α → Prop) : Except Stop α → Prop
  | .ok value => reads (.ok value) ∧ held value
  | .error (.misfit misfit) => reads (.error misfit)
  | .error (.short _) => Memory.room < length ∧ ∀ value, reads (.ok value) → ¬ held value

/-- More slots do not change the outcome. -/
theorem OutcomeOf.of_le [Memory] {α : Type} {length outer : Nat} {reads : Except Misfit α → Prop}
    {held : α → Prop} {outcome : Except Stop α} (h : OutcomeOf length reads held outcome)
    (hle : length ≤ outer) : OutcomeOf outer reads held outcome := by
  match outcome with
  | .ok value => exact h
  | .error (.misfit misfit) => exact h
  | .error (.short count) => exact ⟨Nat.lt_of_lt_of_le h.1 hle, h.2⟩

namespace Reading

variable {α β : Type}

/-- Whether a read has an outcome on some slots, whatever follows them and wherever they stand: it
takes them and gives the value, or it stops at one of them. -/
def Answers (read : Reading Error α) (used : Slots) : Except Stop α → Prop
  | .ok value => Takes read used value
  | .error stop => ∀ rest index, ∃ offset after,
      read ⟨used ++ rest, index⟩ = .error (stop.error offset) after

/-- The bound was large enough for a read that has an outcome. -/
theorem Answers.not_endless {read : Reading Error α} {used : Slots} {outcome : Except Stop α}
    (h : Answers read used outcome) (rest : Slots) (index : Nat) :
    ¬ Endless (read ⟨used ++ rest, index⟩) := by
  cases outcome with
  | ok value =>
      have htakes : Takes read used value := h
      rw [htakes rest index]
      exact not_endless_ok _ _
  | error stop =>
      obtain ⟨offset, after, hread⟩ := h rest index
      rw [hread]
      intro hendless
      obtain ⟨label, last, hlabel⟩ := hendless
      cases stop <;> exact nomatch hlabel

/-- A read of one slot has the outcome that its text has. -/
theorem answers_read_slot {parse : List Char → Except (Nat → Error) α} {text : List Char}
    {outcome : Except Stop α} (h : parse text = outcome.mapError Stop.error) :
    Answers (readSlot parse) [text] outcome := by
  cases outcome with
  | ok value => exact Takes.read_slot h
  | error stop =>
      intro rest index
      exact ⟨index, _, read_slot_eq_error h rest index⟩

/-- After a value, two reads in a row have the outcome of the second one. -/
theorem Takes.answers_bind {read : Reading Error α} {next : α → Reading Error β}
    {first second : Slots} {middle : α} {outcome : Except Stop β}
    (hfirst : Takes read first middle) (hsecond : Answers (next middle) second outcome) :
    Answers (read >>= next) (first ++ second) outcome := by
  cases outcome with
  | ok value => exact hfirst.bind hsecond
  | error stop =>
      intro rest index
      obtain ⟨offset, after, hread⟩ := hsecond rest (index + span first)
      refine ⟨offset, after, bind_eq_error.mpr (.inr ⟨middle, ⟨second ++ rest, _⟩, ?_, hread⟩)⟩
      rw [List.append_assoc]
      exact hfirst (second ++ rest) index

/-- Where the first of two reads in a row stops, both end. -/
theorem Answers.stop_bind {read : Reading Error α} (next : α → Reading Error β)
    {first : Slots} (second : Slots) {stop : Stop} (h : Answers read first (.error stop)) :
    Answers (read >>= next) (first ++ second) (.error stop) := by
  intro rest index
  obtain ⟨offset, after, hread⟩ := h (second ++ rest) index
  refine ⟨offset, after, bind_eq_error.mpr (.inl ?_)⟩
  rw [List.append_assoc]
  exact hread

/-- A read stops where it does in every form of what is read. -/
theorem Answers.stop_map {read : Reading Error α} {used : Slots} {stop : Stop} (f : α → β)
    (h : Answers read used (.error stop)) : Answers (f <$> read) used (.error stop) := by
  rw [map_eq_pure_bind, ← List.append_nil used]
  exact h.stop_bind _ []

/-- Another form of what is read has the outcome in this form. -/
theorem Answers.map {read : Reading Error α} {used : Slots} {outcome : Except Stop α}
    (f : α → β) (h : Answers read used outcome) : Answers (f <$> read) used (outcome.map f) := by
  cases outcome with
  | ok value => exact Takes.map f h
  | error stop => exact h.stop_map f

/-- Reads for the elements of a list go on after a value. -/
theorem Takes.answers_each {read : α → Reading Error β} {x : α} {list : List α}
    {first others : Slots} {value : β} {outcome : Except Stop (List β)}
    (hfirst : Takes (read x) first value) (hothers : Answers (each read list) others outcome) :
    Answers (each read (x :: list)) (first ++ others)
      (outcome.map fun values => value :: values) := by
  rw [each]
  refine hfirst.answers_bind ?_
  rw [← map_eq_pure_bind]
  exact hothers.map _

/-- Reads for the elements of a list end where one of them stops. -/
theorem Answers.stop_each {read : α → Reading Error β} {x : α} (list : List α) {first : Slots}
    (others : Slots) {stop : Stop} (h : Answers (read x) first (.error stop)) :
    Answers (each read (x :: list)) (first ++ others) (.error stop) := by
  rw [each]
  exact h.stop_bind _ others

/-- A number of elements is read back, or decoding stops there: memory has no room for them, or
there are too many to be counted. -/
theorem answers_announced [Memory] (f : Nat → β) (size n : Nat) :
    (size * n ≤ Memory.room ∧ Takes (f <$> announced size) [digits n] (f n)) ∨
    (Memory.room < size * n ∧ Answers (f <$> announced size) [digits n] (.error (.short n))) ∨
    2 ^ 63 ≤ n ∧ ∃ stop, Answers (f <$> announced size) [digits n] (.error stop) := by
  rw [announced_eq]
  by_cases hn : n < 2 ^ 63
  · have hform : CountForm (digits n) n := parse_count_eq_ok.mp (parse_count_digits hn)
    by_cases hroom : size * n ≤ Memory.room
    · have hparse := parse_announced_eq_ok.mpr ⟨hform, hroom⟩
      exact .inl ⟨hroom, (Takes.read_slot hparse).map f⟩
    · have hlarge : Memory.room < size * n := Nat.lt_of_not_le hroom
      refine .inr (.inl ⟨hlarge, Answers.stop_map f (answers_read_slot ?_)⟩)
      exact parse_announced_eq_error.mpr (.inr ⟨n, hform, hlarge, rfl⟩)
  · have hle : 2 ^ 63 ≤ n := Nat.le_of_not_lt hn
    refine .inr (.inr ⟨hle, .misfit ⟨.count, digits n⟩,
      Answers.stop_map f (answers_read_slot ?_)⟩)
    exact parse_announced_eq_error.mpr (.inl (parse_count_digits_of_le hle))

end Reading

/-- What encoding each element of a list gives, if all of it gives slots. -/
theorem concat_slots_eq_ok {α : Type} {encode : α → Except Error Slots} {list : List α}
    {slots : Slots} (h : concatSlots encode list = .ok slots) :
    ∃ pieces, List.Forall₂ (fun x piece => encode x = .ok piece) list pieces ∧
      slots = pieces.flatten := by
  induction list generalizing slots with
  | nil =>
      cases h
      exact ⟨[], .nil, rfl⟩
  | cons x list ih =>
      rw [concatSlots] at h
      obtain ⟨first, hfirst, h⟩ := bind_eq_ok.mp h
      obtain ⟨others, hothers, h⟩ := bind_eq_ok.mp h
      cases h
      obtain ⟨pieces, hpieces, rfl⟩ := ih hothers
      exact ⟨first :: pieces, .cons hfirst hpieces, rfl⟩

/-- Of two lists that are related one by one, an element of the second has one of the first. -/
theorem exists_left_of_mem {α β : Type} {related : α → β → Prop} {list : List α} {others : List β}
    (h : List.Forall₂ related list others) {y : β} (hy : y ∈ others) : ∃ x ∈ list, related x y := by
  induction h with
  | nil => exact absurd hy List.not_mem_nil
  | cons hfirst hrest ih =>
      rcases List.mem_cons.mp hy with rfl | hy
      · exact ⟨_, List.mem_cons_self, hfirst⟩
      · obtain ⟨x, hx, hrelated⟩ := ih hy
        exact ⟨x, List.mem_cons_of_mem _ hx, hrelated⟩

namespace Workspace

variable {workspace : Workspace}

/-- Every subfield of a struct is handed one text. -/
theorem map_fst_dealt {subfields : List Node} {widths : List Nat} {parts : List (List Char)}
    (hwidths : workspace.widths subfields = .ok widths) :
    ((subfields.zip (deal widths parts)).map fun (subfield, group) =>
      (subfield, [','].intercalate group)).map Prod.fst = subfields := by
  rw [List.map_map]
  show (subfields.zip (deal widths parts)).map Prod.fst = subfields
  refine List.map_fst_zip ?_
  rw [length_deal, (widths_eq_ok.mp hwidths).length_eq]

section OutcomeOf

variable [Memory] {node : Node} {text : List Char} {list : List (Node × List Char)} {length : Nat}

/-- After a value, texts have the outcome of the others. -/
theorem outcome_of_cons {first : Nat} {value : Value} {outcome : Except Stop (List Value)}
    (hvalue : OutcomeOf first (workspace.Reads node text) Value.Held (.ok value))
    (h : OutcomeOf length (workspace.ReadsAll list) (fun values => ∀ value ∈ values, value.Held)
      outcome) :
    OutcomeOf length (workspace.ReadsAll ((node, text) :: list))
      (fun values => ∀ value ∈ values, value.Held)
      (outcome.map fun values => value :: values) := by
  obtain ⟨hread, hheld⟩ := hvalue
  match outcome with
  | .ok values =>
      obtain ⟨hall, hvalues⟩ := h
      exact ⟨.cons node text value list _ hread hall, List.forall_mem_cons.mpr ⟨hheld, hvalues⟩⟩
  | .error (.misfit misfit) => exact .cons node text value list _ hread h
  | .error (.short count) =>
      obtain ⟨hlarge, hnone⟩ := h
      refine ⟨hlarge, fun values hall hvalues => ?_⟩
      obtain ⟨_, others, -, hothers, rfl⟩ := reads_all_cons_eq_ok.mp hall
      exact hnone others hothers (List.forall_mem_cons.mp hvalues).2

/-- Texts have the outcome of the first one if it stops. -/
theorem outcome_of_stop {stop : Stop}
    (h : OutcomeOf length (workspace.Reads node text) Value.Held (.error stop)) :
    OutcomeOf length (workspace.ReadsAll ((node, text) :: list))
      (fun values => ∀ value ∈ values, value.Held) (.error stop) := by
  cases stop with
  | misfit misfit => exact .stop node text misfit list h
  | short count =>
      obtain ⟨hlarge, hnone⟩ := h
      refine ⟨hlarge, fun values hall hvalues => ?_⟩
      obtain ⟨value, others, hread, -, rfl⟩ := reads_all_cons_eq_ok.mp hall
      exact hnone value hread (List.forall_mem_cons.mp hvalues).1

end OutcomeOf

/-- Whether what a node reads from a text is put together from what is read from its portions, and
memory holds it exactly if it holds their values and `room` is true. -/
structure PutTogether [Memory] (workspace : Workspace) (node : Node) (text : List Char)
    (list : List (Node × List Char)) (room : Prop) (assemble : List Value → Value) : Prop where
  reads_iff : ∀ outcome, workspace.Reads node text outcome ↔
    ∃ inner, workspace.ReadsAll list inner ∧ outcome = inner.map assemble
  held_iff : ∀ values, values.length = list.length →
    ((assemble values).Held ↔ room ∧ ∀ value ∈ values, value.Held)

section PutTogether

variable [Memory] {node : Node} {text : List Char} {list : List (Node × List Char)} {room : Prop}
  {assemble : List Value → Value}

/-- A node reads a value only if its portions do, and memory holds it as it holds theirs. -/
theorem PutTogether.reads_eq_ok (h : workspace.PutTogether node text list room assemble)
    {value : Value} (hread : workspace.Reads node text (.ok value)) :
    ∃ values, workspace.ReadsAll list (.ok values) ∧
      (value.Held ↔ room ∧ ∀ value ∈ values, value.Held) := by
  obtain ⟨inner, hinner, hvalue⟩ := (h.reads_iff _).mp hread
  obtain ⟨values, rfl, rfl⟩ := map_eq_ok.mp hvalue.symm
  exact ⟨values, hinner, h.held_iff values (length_of_reads_all hinner)⟩

/-- Where the portions of a node have the outcome of their texts, the node has that of its text. -/
theorem PutTogether.outcome (h : workspace.PutTogether node text list True assemble)
    {outcome : Except Stop (List Value)} {length : Nat}
    (houtcome : OutcomeOf length (workspace.ReadsAll list)
      (fun values => ∀ value ∈ values, value.Held) outcome) :
    OutcomeOf length (workspace.Reads node text) Value.Held (outcome.map assemble) := by
  cases outcome with
  | ok values =>
      obtain ⟨hall, hheld⟩ := houtcome
      have hroom := (h.held_iff values (length_of_reads_all hall)).mpr ⟨True.intro, hheld⟩
      exact ⟨(h.reads_iff _).mpr ⟨_, hall, rfl⟩, hroom⟩
  | error stop =>
      cases stop with
      | misfit misfit => exact (h.reads_iff _).mpr ⟨_, houtcome, rfl⟩
      | short count =>
          obtain ⟨hlarge, hnone⟩ := houtcome
          refine ⟨hlarge, fun value hread hheld => ?_⟩
          obtain ⟨values, hall, hiff⟩ := h.reads_eq_ok hread
          exact hnone values hall (hiff.mp hheld).2

/-- The value of a node without portions is put together from nothing. -/
theorem PutTogether.of_no_portions {value : Value}
    (hreads : ∀ outcome, workspace.Reads node text outcome ↔ outcome = .ok value)
    (hheld : value.Held) : workspace.PutTogether node text [] True fun _ => value where
  reads_iff outcome := by
    simp only [hreads, reads_all_nil, exists_eq_left]
    exact Iff.rfl
  held_iff values hlength := by
    rw [List.eq_nil_of_length_eq_zero hlength]
    simp [hheld]

end PutTogether

/-- Whether a node with the slots that it has written itself and the portions that it has handed on
is read back so far: its opening tells where the portions went and how they are put together, or it
stops, as reading the text does if the slots can be counted. -/
def Opens [Memory] (workspace : Workspace) (node : Node) (text : List Char) (own : Slots)
    (list : List (Node × List Char)) : Prop :=
  (∃ assemble, Reading.Takes (workspace.opening node) own (list.map Prod.fst, assemble) ∧
    workspace.PutTogether node text list True assemble) ∨
  ∃ stop, Reading.Answers (workspace.opening node) own (.error stop) ∧
    (own.length + list.length ≤ 2 ^ 63 →
      OutcomeOf (own.length + list.length) (workspace.Reads node text) Value.Held (.error stop))

section Opens

variable [Memory] {node : Node} {text : List Char} {own : Slots} {list : List (Node × List Char)}

/-- A primitive is read back from the slot with its text. -/
theorem opens_primitive {kind : Primitive} (hshape : workspace.shape node = .primitive kind) :
    workspace.Opens node text [text] [] := by
  unfold Opens opening
  simp only [hshape, Reading.primitive_value_eq]
  cases hread : kind.read text with
  | ok value =>
      refine .inl ⟨fun _ => value, Reading.Takes.map _ (Reading.Takes.read_slot ?_), ?_⟩
      · rw [hread]
        rfl
      · refine .of_no_portions (fun outcome => ?_) (held_of_read hread)
        rw [reads_primitive hshape, hread]
  | error misfit =>
      refine .inr ⟨.misfit misfit, Reading.Answers.stop_map _ (Reading.answers_read_slot ?_),
        fun _ => (reads_primitive hshape).mpr hread.symm⟩
      rw [hread]
      rfl

/-- An empty slot is no number of a member. -/
theorem opens_no_member {members : List Member} (hshape : workspace.shape node = .enum members)
    (htext : text = []) : workspace.Opens node text [[]] [] := by
  unfold Opens opening
  simp only [hshape, Reading.long, Reading.slot_number]
  exact .inr ⟨.misfit ⟨.long, []⟩, Reading.Answers.stop_map _ (Reading.answers_read_slot rfl),
    fun _ => (reads_enum hshape).mpr (.inl ⟨htext, rfl⟩)⟩

/-- A member of an enum is read back from the slot with its number. -/
theorem opens_member {members : List Member} {number : Int64}
    (hshape : workspace.shape node = .enum members) (htext : text ≠ [])
    (hnumber : Field.memberValue? members (String.ofList text) = some number) :
    workspace.Opens node text [decimal number.toInt] [] := by
  unfold Opens opening
  simp only [hshape, Reading.long, Reading.slot_number]
  refine .inl ⟨fun _ => .enum number, Reading.Takes.map _ (Reading.Takes.read_slot ?_), ?_⟩
  · unfold readNumber
    rw [trim_decimal, read_int64_decimal]
    rfl
  · refine .of_no_portions (fun outcome => ?_) (.enum number)
    simp only [reads_enum hshape, htext, hnumber, Option.some.injEq, false_and, false_or, ne_eq,
      not_false_eq_true, true_and, exists_eq_left']

/-- A collection is read back from the slot with the number of its elements. -/
theorem opens_of_count {nodes : Nat → List Node} {assemble : List Value → Value}
    {size count : Nat} (hsize : 0 < size)
    (hopening : workspace.opening node =
      (fun n => (nodes n, assemble)) <$> Reading.announced size)
    (hnodes : list.map Prod.fst = nodes count) (hcount : list.length = size * count)
    (hparts : workspace.PutTogether node text list (size * count ≤ Memory.room) assemble) :
    workspace.Opens node text [digits count] list := by
  unfold Opens
  rw [hopening, hnodes]
  rcases Reading.answers_announced (fun n => (nodes n, assemble)) size count with
    ⟨hroom, htakes⟩ | ⟨hlarge, hanswers⟩ | ⟨hmany, stop, hanswers⟩
  · rw [← eq_true hroom]
    exact .inl ⟨assemble, htakes, hparts⟩
  · refine .inr ⟨.short count, hanswers, fun _ => ⟨?_, fun value hread hheld => ?_⟩⟩
    · rw [hcount]
      omega
    · obtain ⟨values, -, hiff⟩ := hparts.reads_eq_ok hread
      exact absurd (hiff.mp hheld).1 (Nat.not_le_of_lt hlarge)
  · refine .inr ⟨stop, hanswers, fun hfits => absurd hfits ?_⟩
    have hle : count ≤ size * count := Nat.le_mul_of_pos_left count hsize
    rw [List.length_singleton]
    omega

/-- A list is read back as the elements that are read from its portions. -/
theorem opens_list {element : Node} {count : Nat} (hshape : workspace.shape node = .list element)
    (hnodes : list.map Prod.fst = List.replicate count element)
    (hreads : ∀ outcome, workspace.Reads node text outcome ↔
      ∃ inner, workspace.ReadsAll list inner ∧ outcome = inner.map .list) :
    workspace.Opens node text [digits count] list := by
  have hcount : list.length = 1 * count := by
    have hlength := congrArg List.length hnodes
    rwa [List.length_map, List.length_replicate, ← Nat.one_mul count] at hlength
  refine opens_of_count Nat.one_pos (opening_of_list hshape) hnodes hcount
    ⟨hreads, fun values hlength => ?_⟩
  rw [held_list_iff, hlength, hcount]

/-- A dictionary is read back as the keys and values that are read from its portions. -/
theorem opens_dictionary {key value : Node} {count : Nat}
    (hshape : workspace.shape node = .dictionary key value)
    (hnodes : list.map Prod.fst = (List.replicate count [key, value]).flatten)
    (hreads : ∀ outcome, workspace.Reads node text outcome ↔
      ∃ inner, workspace.ReadsAll list inner ∧
        outcome = inner.map fun values => .map (pairs values)) :
    workspace.Opens node text [digits count] list := by
  have hcount : list.length = 2 * count := by
    have hlength := congrArg List.length hnodes
    rwa [List.length_map, List.length_flatten, List.map_replicate, List.sum_replicate_nat,
      Nat.mul_comm] at hlength
  exact opens_of_count Nat.two_pos (opening_of_dictionary hshape) hnodes hcount
    ⟨hreads, fun values hlength => held_map_iff (hlength.trans hcount)⟩

/-- A struct is read back as the subfields that are read from its portions. -/
theorem opens_struct {place : Place} {typeName : String} {subfields : List Node}
    (hshape : workspace.shape node = .struct place typeName subfields)
    (hnodes : list.map Prod.fst = subfields)
    (hreads : ∀ outcome, workspace.Reads node text outcome ↔
      ∃ inner, workspace.ReadsAll list inner ∧ outcome = inner.map fun values =>
        .struct ((subfields.map fun subfield => subfield.field.name).zip values)) :
    workspace.Opens node text [] list := by
  refine .inl ⟨_, ?_, hreads, fun values hlength => ?_⟩
  · rw [opening_of_struct hshape, hnodes]
    exact Reading.Takes.pure _
  · rw [true_and, held_struct_iff]
    rw [hlength, ← hnodes, List.length_map, List.length_map]

/-- Whatever a node does with a text, it is read back so far. -/
theorem opens_of_portions (h : workspace.portions node text = .ok (own, list)) :
    workspace.Opens node text own list := by
  cases portioned_of_ok h with
  | primitive kind hshape => exact opens_primitive hshape
  | noMember members hshape htext => exact opens_no_member hshape htext
  | member members number hshape htext hnumber => exact opens_member hshape htext hnumber
  | emptyList element hshape htext =>
      refine opens_list hshape rfl fun outcome => ?_
      simp only [reads_list hshape, htext, reads_all_nil, true_and, ne_eq, not_true_eq_false,
        false_and, or_false, exists_eq_left]
      exact Iff.rfl
  | list element width hshape htext hwidth =>
      refine opens_list hshape ?_ fun outcome => ?_
      · rw [List.map_map]
        exact List.map_const'
      · simp only [reads_list hshape, htext, hwidth, ne_eq, not_false_eq_true, false_and, true_and,
          false_or, Except.ok.injEq, exists_and_left, exists_eq_left']
  | emptyDictionary key value hshape htext =>
      refine opens_dictionary hshape rfl fun outcome => ?_
      simp only [reads_dictionary hshape, htext, reads_all_nil, true_and, ne_eq, not_true_eq_false,
        false_and, or_false, exists_eq_left]
      exact Iff.rfl
  | dictionary key value keyWidth valueWidth hshape htext hkey hvalue =>
      refine opens_dictionary hshape ?_ fun outcome => ?_
      · rw [List.map_flatMap, List.flatMap_def]
        show (List.map (fun _ => [key, value]) _).flatten = _
        rw [List.map_const']
      · simp only [reads_dictionary hshape, htext, hkey, hvalue, ne_eq, not_false_eq_true,
          false_and, true_and, false_or, Except.ok.injEq, exists_and_left, exists_eq_left']
  | struct place typeName subfields widths hshape hwidths hlength =>
      refine opens_struct hshape (map_fst_dealt hwidths) fun outcome => ?_
      simp only [reads_struct hshape, hwidths, hlength, true_and, Except.ok.injEq,
        exists_and_left, exists_eq_left']

end Opens

/-- What is written for a node consists of its own slots and of what is written for the portions. -/
theorem encode_within_eq_ok {bound : Nat} {node : Node} {text : List Char} {slots : Slots}
    (h : workspace.encodeWithin (bound + 1) node text = .ok slots) :
    ∃ own list pieces, workspace.portions node text = .ok (own, list) ∧
      List.Forall₂ (fun portion piece =>
        workspace.encodeWithin bound portion.1 portion.2 = .ok piece) list pieces ∧
      slots = own ++ pieces.flatten := by
  rw [encode_within_succ] at h
  obtain ⟨⟨own, list⟩, hportions, h⟩ := bind_eq_ok.mp h
  obtain ⟨inner, hinner, h⟩ := bind_eq_ok.mp h
  cases h
  obtain ⟨pieces, hpieces, rfl⟩ := concat_slots_eq_ok hinner
  exact ⟨own, list, pieces, hportions, hpieces, rfl⟩

/-- A node writes no slot of its own and hands a portion on, or it writes a single slot: the text of
a primitive, or one without a comma. -/
theorem own_of_portions {node : Node} {text : List Char} {own : Slots}
    {list : List (Node × List Char)} (h : workspace.portions node text = .ok (own, list)) :
    (own = [] ∧ list ≠ []) ∨ ∃ slot, own = [slot] ∧
      ((∃ kind, workspace.shape node = .primitive kind ∧ slot = text) ∨ ',' ∉ slot) := by
  have hdigits : ∀ n, ',' ∉ digits n := by
    intro n
    rw [← decimal_natCast]
    exact comma_notMem_decimal n
  cases portioned_of_ok h with
  | primitive kind hshape => exact .inr ⟨text, rfl, .inl ⟨kind, hshape, rfl⟩⟩
  | noMember => exact .inr ⟨[], rfl, .inr List.not_mem_nil⟩
  | member members number => exact .inr ⟨_, rfl, .inr (comma_notMem_decimal number.toInt)⟩
  | emptyList | list | emptyDictionary | dictionary => exact .inr ⟨_, rfl, .inr (hdigits _)⟩
  | struct place typeName subfields widths hshape hwidths hlength =>
      -- A text has a part at least, so there is a subfield that takes it.
      have hne := List.splitOn_ne_nil ',' text
      have hsubfields : subfields ≠ [] := by
        intro hnil
        subst hnil
        cases hwidths
        exact absurd hlength (by simp)
      refine .inl ⟨rfl, ?_⟩
      rw [← List.length_pos_iff_ne_nil, List.length_map, List.length_zip, length_deal,
        ← (widths_eq_ok.mp hwidths).length_eq, Nat.min_self]
      exact List.length_pos_of_ne_nil hsubfields

/-- Whatever is written takes a slot at least. -/
theorem encode_within_ne_nil {bound : Nat} {node : Node} {text : List Char} {slots : Slots}
    (h : workspace.encodeWithin bound node text = .ok slots) : slots ≠ [] := by
  induction bound generalizing node text slots with
  | zero => exact nomatch h
  | succ bound ih =>
      obtain ⟨own, list, pieces, hportions, hpieces, rfl⟩ := encode_within_eq_ok h
      rcases own_of_portions hportions with ⟨-, hlist⟩ | ⟨slot, rfl, -⟩
      · refine List.append_ne_nil_of_right_ne_nil own ?_
        cases hpieces with
        | nil => exact absurd rfl hlist
        | cons hfirst hrest =>
            rw [List.flatten_cons]
            exact List.append_ne_nil_of_left_ne_nil (ih hfirst) _
      · exact List.cons_ne_nil _ _

/-- As many slots are written for portions as there are portions, at least. -/
theorem length_le_of_encoded {bound : Nat} {list : List (Node × List Char)} {pieces : List Slots}
    (h : List.Forall₂ (fun portion piece =>
      workspace.encodeWithin bound portion.1 portion.2 = .ok piece) list pieces) :
    list.length ≤ pieces.flatten.length := by
  induction h with
  | nil => exact Nat.le_refl 0
  | cons hfirst hrest ih =>
      have hpos := List.length_pos_of_ne_nil (encode_within_ne_nil hfirst)
      rw [List.flatten_cons, List.length_append, List.length_cons]
      omega

/-- If reads for nodes have the outcomes of their texts one by one, they have that of all texts. -/
theorem answers_all [Memory] {read : Node → Reading Error Value} {list : List (Node × List Char)}
    {pieces : List Slots}
    (h : List.Forall₂ (fun portion piece => ∃ outcome,
      Reading.Answers (read portion.1) piece outcome ∧
        (piece.length ≤ 2 ^ 63 →
          OutcomeOf piece.length (workspace.Reads portion.1 portion.2) Value.Held outcome))
      list pieces) :
    ∃ outcome, Reading.Answers (Reading.each read (list.map Prod.fst)) pieces.flatten outcome ∧
      (pieces.flatten.length ≤ 2 ^ 63 →
        OutcomeOf pieces.flatten.length (workspace.ReadsAll list)
          (fun values => ∀ value ∈ values, value.Held) outcome) := by
  induction h with
  | nil =>
      refine ⟨.ok [], Reading.Takes.pure [], fun _ => ⟨.nil, fun value hvalue => ?_⟩⟩
      exact absurd hvalue List.not_mem_nil
  | @cons portion piece list pieces hfirst hrest ih =>
      obtain ⟨node, text⟩ := portion
      obtain ⟨first, hanswers, hreads⟩ := hfirst
      obtain ⟨rest, hothers, hall⟩ := ih
      rw [List.flatten_cons, List.length_append]
      cases first with
      | ok value =>
          refine ⟨_, Reading.Takes.answers_each hanswers hothers, fun hfits => ?_⟩
          exact outcome_of_cons (hreads (by omega)) ((hall (by omega)).of_le (Nat.le_add_left _ _))
      | error stop =>
          refine ⟨.error stop, hanswers.stop_each _ _, fun hfits => ?_⟩
          exact outcome_of_stop ((hreads (by omega)).of_le (Nat.le_add_right _ _))

/-- Decoding the slots that were written for a text has the outcome of reading the text directly,
unless there are too many of them to be counted. -/
theorem answers_encode_within [Memory] {bound : Nat} {node : Node} {text : List Char}
    {slots : Slots} (h : workspace.encodeWithin bound node text = .ok slots) :
    ∃ outcome, Reading.Answers (workspace.decodeWithin bound node) slots outcome ∧
      (slots.length ≤ 2 ^ 63 →
        OutcomeOf slots.length (workspace.Reads node text) Value.Held outcome) := by
  induction bound generalizing node text slots with
  | zero => exact nomatch h
  | succ bound ih =>
      obtain ⟨own, list, pieces, hportions, hpieces, rfl⟩ := encode_within_eq_ok h
      have hlength := length_le_of_encoded hpieces
      rw [decode_within_succ, List.length_append]
      rcases opens_of_portions hportions with ⟨assemble, htakes, hparts⟩ | ⟨stop, hstop, hreads⟩
      · obtain ⟨outcome, hanswers, hinner⟩ := answers_all (hpieces.imp fun _ _ hpiece => ih hpiece)
        refine ⟨outcome.map assemble, htakes.answers_bind (hanswers.map assemble), fun hfits => ?_⟩
        exact hparts.outcome ((hinner (by omega)).of_le (Nat.le_add_left _ _))
      · refine ⟨.error stop, hstop.stop_bind _ _, fun hfits => ?_⟩
        exact (hreads (by omega)).of_le (Nat.add_le_add_left hlength _)

/-- A primitive is handed no comma. -/
theorem comma_notMem_portion {node part : Node} {text inner : List Char} {own : Slots}
    {list : List (Node × List Char)} (h : workspace.portions node text = .ok (own, list))
    (hmem : (part, inner) ∈ list) {kind : Primitive}
    (hshape : workspace.shape part = .primitive kind) : ',' ∉ inner := by
  obtain ⟨-, group, width, rfl, hinside, hwidth, hlength⟩ := mem_portions h hmem
  have hone : workspace.width part = .ok 1 :=
    width_from_single (by rw [hshape]; exact True.intro)
  cases hone.symm.trans hwidth
  match group with
  | [] => exact List.not_mem_nil
  | [piece] =>
      rw [List.intercalate_singleton]
      exact notMem_of_mem_splitOn (hinside.subset (List.mem_singleton_self piece))
  | first :: second :: rest => simp at hlength

/-- No slot holds a comma, unless a primitive is given a text that does. -/
theorem comma_notMem_slots {bound : Nat} {node : Node} {text : List Char} {slots : Slots}
    (h : workspace.encodeWithin bound node text = .ok slots)
    (hplain : ∀ kind, workspace.shape node = .primitive kind → ',' ∉ text) {slot : List Char}
    (hslot : slot ∈ slots) : ',' ∉ slot := by
  induction bound generalizing node text slots with
  | zero => exact nomatch h
  | succ bound ih =>
      obtain ⟨own, list, pieces, hportions, hpieces, rfl⟩ := encode_within_eq_ok h
      rcases List.mem_append.mp hslot with hown | hinner
      · rcases own_of_portions hportions with ⟨rfl, -⟩ | ⟨own, rfl, hcomma⟩
        · exact absurd hown List.not_mem_nil
        · obtain rfl := List.mem_singleton.mp hown
          rcases hcomma with ⟨kind, hshape, rfl⟩ | hcomma
          · exact hplain kind hshape
          · exact hcomma
      · obtain ⟨piece, hpiece, hslot⟩ := List.mem_flatten.mp hinner
        obtain ⟨⟨part, inner⟩, hportion, hpart⟩ := exists_left_of_mem hpieces hpiece
        exact ih hpart (fun kind => comma_notMem_portion hportions hportion) hslot

end Workspace

end SheetWire
