import SheetWire.Proofs.Row.DecodingEnds
import SheetWire.Proofs.Row.EncodingEnds

/-!
# The grammar of wire rows

Which slots stand for which value of a node, said without a decoder: `WireForm` is the grammar of
the rows. `decode_node_eq_ok` says that the decoder accepts exactly its forms of values that memory
holds, and `wire_form_unique` that at most one form starts at a slot. Where every struct that a node
leads to has a width, the recursion of decoding ends (`decoding_ends_of_measured`), and only a
number of elements that memory has no room for is in the way of an answer. That number may be
anything: it is read before any of the elements is. `decodes_exactly_wire_forms` puts this together
for the slots of a row.
-/

namespace SheetWire

open Relation Text Number

/-- The reader of a row that stands at a slot. Behind the last slot it has nothing left. -/
def Reader.atSlot (row : List Char) (position : Nat) : Reader :=
  ⟨(row.splitOn ',').drop position, Reading.span ((row.splitOn ',').take position)⟩

/-- Taking some of the slots that are left goes on to the slot behind them. -/
theorem Reader.at_slot_add {row : List Char} {position : Nat} {used : Slots} {after : Reader}
    (hslots : (Reader.atSlot row position).slots = used ++ after.slots)
    (hindex : after.index = (Reader.atSlot row position).index + Reading.span used) :
    after = Reader.atSlot row (position + used.length) := by
  obtain ⟨slots, index⟩ := after
  have hdrop : (row.splitOn ',').drop position = used ++ slots := hslots
  have htake : (row.splitOn ',').take (position + used.length) =
      (row.splitOn ',').take position ++ used := by
    rw [List.take_add, hdrop, List.take_left]
  have hrest : (row.splitOn ',').drop (position + used.length) = slots := by
    rw [← List.drop_drop, hdrop, List.drop_left]
  unfold Reader.atSlot
  rw [htake, hrest, Reading.span_append]
  exact congrArg (Reader.mk slots) hindex

/-- How a slot stands for a value of a primitive. Blanks around a number do not count, and any slot
is a truth value and a text. -/
inductive PrimitiveForm : Primitive → List Char → Value → Prop where
  | int (slot number) : readInt32? (trim slot) = some number →
      PrimitiveForm .int slot (.int number)
  | long (slot number) : readInt64? (trim slot) = some number →
      PrimitiveForm .long slot (.long number)
  | float (slot number) : single.read? (trim slot) = some number →
      PrimitiveForm .float slot (.float number)
  | bool (slot) : PrimitiveForm .bool slot (.bool (lowerLetters slot == "true".toList))
  | string (slot) : PrimitiveForm .string slot (.string (String.ofList (unescape slot)))

/-- A text reads as a number once the blanks around it are gone. -/
theorem read_number_eq_ok {α : Type} {kind : NumberKind} {parse : List Char → Option α}
    {text : List Char} {number : α} :
    readNumber kind parse text = .ok number ↔ parse (trim text) = some number := by
  unfold readNumber
  cases parse (trim text) <;> simp

/-- A text reads as a form of a number that it reads as. -/
theorem read_number_map_eq_ok {α β : Type} {kind : NumberKind} {parse : List Char → Option α}
    {text : List Char} {f : α → β} {value : β} :
    (readNumber kind parse text).map f = .ok value ↔
      ∃ number, parse (trim text) = some number ∧ f number = value := by
  unfold readNumber
  cases parse (trim text) <;> simp [Except.map]

/-- A slot reads as a primitive exactly if it is a form of its value. -/
theorem read_eq_ok_iff {kind : Primitive} {slot : List Char} {value : Value} :
    kind.read slot = .ok value ↔ PrimitiveForm kind slot value := by
  constructor
  · intro h
    cases kind with
    | int =>
        obtain ⟨number, hnumber, rfl⟩ := read_number_map_eq_ok.mp h
        exact .int slot number hnumber
    | long =>
        obtain ⟨number, hnumber, rfl⟩ := read_number_map_eq_ok.mp h
        exact .long slot number hnumber
    | float =>
        obtain ⟨number, hnumber, rfl⟩ := read_number_map_eq_ok.mp h
        exact .float slot number hnumber
    | bool =>
        cases h
        exact .bool slot
    | string =>
        cases h
        exact .string slot
  · intro h
    cases h with
    | int _ number hnumber => exact read_number_map_eq_ok.mpr ⟨number, hnumber, rfl⟩
    | long _ number hnumber => exact read_number_map_eq_ok.mpr ⟨number, hnumber, rfl⟩
    | float _ number hnumber => exact read_number_map_eq_ok.mpr ⟨number, hnumber, rfl⟩
    | bool => rfl
    | string => rfl

/-- A slot announces one number of elements. -/
theorem CountForm.unique {slot : List Char} {count other : Nat} (h : CountForm slot count)
    (hother : CountForm slot other) : count = other := by
  obtain ⟨number, hnumber, hcount⟩ := h
  obtain ⟨same, hsame, hequal⟩ := hother
  obtain rfl := Option.some.inj (hnumber.symm.trans hsame)
  omega

namespace Workspace

variable {workspace : Workspace}

mutual
/-- The slots that are a wire form of a value of a node: one slot for a primitive or an enum, the
number of elements and then their forms for a list or a dictionary, and the forms of the subfields
for a struct. A reference has the forms of its target. -/
inductive WireForm (workspace : Workspace) : Node → Slots → Value → Prop where
  | primitive (node kind slot value) :
      workspace.shape node = .primitive kind → PrimitiveForm kind slot value →
      WireForm workspace node [slot] value
  | enum (node members slot number) :
      workspace.shape node = .enum members → readInt64? (trim slot) = some number →
      WireForm workspace node [slot] (.enum number)
  | list (node element slot count slots values) :
      workspace.shape node = .list element → CountForm slot count →
      WireForms workspace (List.replicate count element) slots values →
      WireForm workspace node (slot :: slots) (.list values)
  | dictionary (node key value slot count slots values) :
      workspace.shape node = .dictionary key value → CountForm slot count →
      WireForms workspace (List.replicate count [key, value]).flatten slots values →
      WireForm workspace node (slot :: slots) (.map (pairs values))
  | struct (node place typeName subfields slots values) :
      workspace.shape node = .struct place typeName subfields →
      WireForms workspace subfields slots values →
      WireForm workspace node slots
        (.struct ((subfields.map fun subfield => subfield.field.name).zip values))

/-- The slots that are wire forms of values of some nodes, one after another. -/
inductive WireForms (workspace : Workspace) : List Node → Slots → List Value → Prop where
  | nil : WireForms workspace [] [] []
  | cons (node rest first others value values) :
      WireForm workspace node first value → WireForms workspace rest others values →
      WireForms workspace (node :: rest) (first ++ others) (value :: values)
end

/-- The forms that a node has by its shape. -/
theorem WireForm.of_shape {node : Node} {used : Slots} {value : Value}
    (h : workspace.WireForm node used value) :
    match workspace.shape node with
    | .primitive kind => ∃ slot, used = [slot] ∧ PrimitiveForm kind slot value
    | .enum _ => ∃ slot number, used = [slot] ∧ readInt64? (trim slot) = some number ∧
        value = .enum number
    | .list element => ∃ slot count slots values, used = slot :: slots ∧ CountForm slot count ∧
        workspace.WireForms (List.replicate count element) slots values ∧ value = .list values
    | .dictionary key inner => ∃ slot count slots values, used = slot :: slots ∧
        CountForm slot count ∧
        workspace.WireForms (List.replicate count [key, inner]).flatten slots values ∧
        value = .map (pairs values)
    | .struct _ _ subfields => ∃ values, workspace.WireForms subfields used values ∧
        value = .struct ((subfields.map fun subfield => subfield.field.name).zip values)
    | .unbound _ => False := by
  cases h with
  | primitive _ _ slot _ hshape hform =>
      rw [hshape]
      exact ⟨slot, rfl, hform⟩
  | enum _ _ slot number hshape hnumber =>
      rw [hshape]
      exact ⟨slot, number, rfl, hnumber, rfl⟩
  | list _ _ slot count slots values hshape hcount hforms =>
      rw [hshape]
      exact ⟨slot, count, slots, values, rfl, hcount, hforms, rfl⟩
  | dictionary _ _ _ slot count slots values hshape hcount hforms =>
      rw [hshape]
      exact ⟨slot, count, slots, values, rfl, hcount, hforms, rfl⟩
  | struct _ _ _ _ _ values hshape hforms =>
      rw [hshape]
      exact ⟨values, hforms, rfl⟩

mutual
/-- Of two wire forms that the same slots start with, neither is longer, and they have one value. -/
theorem wire_form_unique {node : Node} {used other rest more : Slots} {value same : Value}
    (h : workspace.WireForm node used value) (hother : workspace.WireForm node other same)
    (happend : used ++ rest = other ++ more) : used = other ∧ value = same := by
  -- The recursion is on the first form; the second one is opened by the shape of the node.
  have hshaped := hother.of_shape
  match h with
  | .primitive _ kind slot _ hshape hform =>
      rw [hshape] at hshaped
      obtain ⟨_, rfl, hsame⟩ := hshaped
      obtain ⟨rfl, -⟩ := List.cons.inj happend
      have hread := (read_eq_ok_iff.mpr hform).symm.trans (read_eq_ok_iff.mpr hsame)
      exact ⟨rfl, Except.ok.inj hread⟩
  | .enum _ members slot number hshape hnumber =>
      rw [hshape] at hshaped
      obtain ⟨_, second, rfl, hsecond, rfl⟩ := hshaped
      obtain ⟨rfl, -⟩ := List.cons.inj happend
      obtain rfl := Option.some.inj (hnumber.symm.trans hsecond)
      exact ⟨rfl, rfl⟩
  | .list _ element slot count slots values hshape hcount hforms =>
      rw [hshape] at hshaped
      obtain ⟨_, second, others, _, rfl, hsecond, hothers, rfl⟩ := hshaped
      obtain ⟨rfl, hbehind⟩ := List.cons.inj happend
      obtain rfl := hcount.unique hsecond
      obtain ⟨rfl, rfl⟩ := wire_forms_unique hforms hothers hbehind
      exact ⟨rfl, rfl⟩
  | .dictionary _ key inner slot count slots values hshape hcount hforms =>
      rw [hshape] at hshaped
      obtain ⟨_, second, others, _, rfl, hsecond, hothers, rfl⟩ := hshaped
      obtain ⟨rfl, hbehind⟩ := List.cons.inj happend
      obtain rfl := hcount.unique hsecond
      obtain ⟨rfl, rfl⟩ := wire_forms_unique hforms hothers hbehind
      exact ⟨rfl, rfl⟩
  | .struct _ place typeName subfields _ values hshape hforms =>
      rw [hshape] at hshaped
      obtain ⟨_, hothers, rfl⟩ := hshaped
      obtain ⟨rfl, rfl⟩ := wire_forms_unique hforms hothers happend
      exact ⟨rfl, rfl⟩

/-- The same of wire forms of some nodes, one after another. -/
theorem wire_forms_unique {nodes : List Node} {used other rest more : Slots}
    {values others : List Value} (h : workspace.WireForms nodes used values)
    (hother : workspace.WireForms nodes other others) (happend : used ++ rest = other ++ more) :
    used = other ∧ values = others := by
  match h with
  | .nil =>
      cases hother
      exact ⟨rfl, rfl⟩
  | .cons node nodes first slots value values hform hforms =>
      cases hother with
      | cons _ _ second later same others hsame hlater =>
          rw [List.append_assoc, List.append_assoc] at happend
          obtain ⟨rfl, rfl⟩ := wire_form_unique hform hsame happend
          obtain ⟨rfl, rfl⟩ := wire_forms_unique hforms hlater (List.append_cancel_left happend)
          exact ⟨rfl, rfl⟩
end

/-- There is a value for every node. -/
theorem WireForms.length_eq {nodes : List Node} {slots : Slots} {values : List Value}
    (h : workspace.WireForms nodes slots values) : values.length = nodes.length := by
  match h with
  | .nil => rfl
  | .cons _ _ _ _ _ _ _ hforms => rw [List.length_cons, List.length_cons, hforms.length_eq]

section Decoding

variable [Memory]

/-- What a node opens with begins the form of its value, and the forms of the parts that follow
complete it. -/
theorem wire_form_of_opening {node : Node} {reader after : Reader} {nodes : List Node}
    {assemble : List Value → Value}
    (h : workspace.opening node reader = .ok (nodes, assemble) after) :
    ∃ head, reader.slots = head ++ after.slots ∧
      ∀ slots values, workspace.WireForms nodes slots values →
        workspace.WireForm node (head ++ slots) (assemble values) := by
  unfold opening at h
  cases hshape : workspace.shape node with
  | primitive kind =>
      rw [hshape] at h
      obtain ⟨value, hread, hopened⟩ := Reading.map_eq_ok.mp h
      cases hopened
      rw [Reading.primitive_value_eq] at hread
      obtain ⟨slot, hslots, hparse⟩ := Reading.read_slot_eq_ok hread
      refine ⟨[slot], hslots, fun slots values hnone => ?_⟩
      cases hnone
      exact .primitive node kind slot value hshape (read_eq_ok_iff.mp (map_error_eq_ok.mp hparse))
  | list element =>
      rw [hshape] at h
      obtain ⟨count, hread, hopened⟩ := Reading.map_eq_ok.mp h
      cases hopened
      rw [Reading.announced_eq] at hread
      obtain ⟨slot, hslots, hparse⟩ := Reading.read_slot_eq_ok hread
      obtain ⟨hcount, -⟩ := Reading.parse_announced_eq_ok.mp hparse
      refine ⟨[slot], hslots, fun slots values hforms => ?_⟩
      exact .list node element slot count slots values hshape hcount hforms
  | dictionary key value =>
      rw [hshape] at h
      obtain ⟨count, hread, hopened⟩ := Reading.map_eq_ok.mp h
      cases hopened
      rw [Reading.announced_eq] at hread
      obtain ⟨slot, hslots, hparse⟩ := Reading.read_slot_eq_ok hread
      obtain ⟨hcount, -⟩ := Reading.parse_announced_eq_ok.mp hparse
      refine ⟨[slot], hslots, fun slots values hforms => ?_⟩
      exact .dictionary node key value slot count slots values hshape hcount hforms
  | struct place typeName subfields =>
      rw [hshape] at h
      cases h
      exact ⟨[], rfl, fun slots values hforms =>
        .struct node place typeName nodes slots values hshape hforms⟩
  | enum members =>
      rw [hshape] at h
      obtain ⟨number, hread, hopened⟩ := Reading.map_eq_ok.mp h
      cases hopened
      unfold Reading.long at hread
      rw [Reading.slot_number] at hread
      obtain ⟨slot, hslots, hparse⟩ := Reading.read_slot_eq_ok hread
      refine ⟨[slot], hslots, fun slots values hnone => ?_⟩
      cases hnone
      exact .enum node members slot number hshape
        (read_number_eq_ok.mp (map_error_eq_ok.mp hparse))
  | unbound target =>
      rw [hshape] at h
      exact nomatch h

omit [Memory] in
/-- Values that nodes have been read as are in the slots that were taken. -/
theorem wire_forms_of_each {read : Node → Reading Error Value}
    (hread : ∀ node reader value after, read node reader = .ok value after →
      ∃ used, reader.slots = used ++ after.slots ∧ workspace.WireForm node used value)
    {nodes : List Node} {reader after : Reader} {values : List Value}
    (h : Reading.each read nodes reader = .ok values after) :
    ∃ used, reader.slots = used ++ after.slots ∧ workspace.WireForms nodes used values := by
  induction nodes generalizing reader values with
  | nil =>
      cases h
      exact ⟨[], rfl, .nil⟩
  | cons node rest ih =>
      obtain ⟨value, others, between, hfirst, hothers, rfl⟩ := Reading.each_cons_eq_ok.mp h
      obtain ⟨first, hslots, hform⟩ := hread node reader value between hfirst
      obtain ⟨more, hrest, hforms⟩ := ih hothers
      refine ⟨first ++ more, ?_, .cons node rest first more value others hform hforms⟩
      rw [hslots, hrest, List.append_assoc]

/-- What is decoded is in its wire form. -/
theorem wire_form_of_decode {bound : Nat} {node : Node} {reader after : Reader} {value : Value}
    (h : workspace.decodeWithin bound node reader = .ok value after) :
    ∃ used, reader.slots = used ++ after.slots ∧ workspace.WireForm node used value := by
  induction bound generalizing node reader value after with
  | zero => exact nomatch h
  | succ bound ih =>
      rw [decode_within_succ] at h
      obtain ⟨⟨nodes, assemble⟩, between, hopening, h⟩ := Reading.bind_eq_ok.mp h
      obtain ⟨values, heach, rfl⟩ := Reading.map_eq_ok.mp h
      obtain ⟨head, hslots, hform⟩ := wire_form_of_opening hopening
      obtain ⟨used, hrest, hforms⟩ := wire_forms_of_each (fun _ _ _ _ => ih) heach
      refine ⟨head ++ used, ?_, hform used values hforms⟩
      rw [hslots, hrest, List.append_assoc]

/-- A slot that announces a number of elements is read as this number if memory has room for
them. -/
theorem accepts_announced {slot : List Char} {count : Nat} (size : Nat) (h : CountForm slot count) :
    Reading.Accepts (size * count ≤ Memory.room) (Reading.announced size) [slot] count := by
  rw [Reading.announced_eq]
  refine ⟨fun hroom => ?_, fun hroom rest index => ?_⟩
  · exact Reading.Takes.read_slot (Reading.parse_announced_eq_ok.mpr ⟨h, hroom⟩)
  · have hrefused := Reading.parse_announced_eq_error.mpr
      (.inr ⟨count, h, Nat.lt_of_not_le hroom, rfl⟩)
    exact ⟨count, _, Reading.read_slot_eq_error hrefused rest index⟩

/-- A node that opens with some slots is decoded from these and the slots of its parts. -/
theorem accepts_of_opening {bound : Nat} {node : Node} {nodes : List Node} {head slots : Slots}
    {assemble : List Value → Value} {values : List Value} {held also : Prop}
    (hopening : Reading.Accepts held (workspace.opening node) head (nodes, assemble))
    (hparts : Reading.Accepts also (Reading.each (workspace.decodeWithin bound) nodes) slots
      values) :
    Reading.Accepts (held ∧ also) (workspace.decodeWithin (bound + 1) node) (head ++ slots)
      (assemble values) := by
  rw [decode_within_succ]
  exact hopening.bind (hparts.map assemble)

/-- A node that opens with a slot and has no parts is decoded from the slot. -/
theorem takes_of_opening {node : Node} {slot : List Char} {value : Value}
    (h : Reading.Takes (workspace.opening node) [slot] ([], fun _ => value)) :
    Reading.Takes (workspace.decodeWithin 1 node) [slot] value := by
  rw [decode_within_succ]
  exact Reading.Takes.bind h ((Reading.Takes.pure []).map fun _ => value)

mutual
/-- A wire form is decoded under some bound if memory holds its value, whatever stands behind it. -/
theorem accepts_of_wire_form {node : Node} {used : Slots} {value : Value}
    (h : workspace.WireForm node used value) :
    ∃ bound, Reading.Accepts value.Held (workspace.decodeWithin bound node) used value := by
  match h with
  | .primitive _ kind slot _ hshape hform =>
      have hopening : Reading.Takes (workspace.opening node) [slot] ([], fun _ => value) := by
        unfold opening
        simp only [hshape, Reading.primitive_value_eq]
        refine Reading.Takes.map (fun value => ([], fun _ => value)) (Reading.Takes.read_slot ?_)
        exact map_error_eq_ok.mpr (read_eq_ok_iff.mpr hform)
      have hheld : value.Held := held_of_read (read_eq_ok_iff.mpr hform)
      exact ⟨1, (takes_of_opening hopening).accepts.of_iff (iff_true_intro hheld)⟩
  | .enum _ members slot number hshape hnumber =>
      have hopening : Reading.Takes (workspace.opening node) [slot]
          ([], fun _ => .enum number) := by
        unfold opening
        simp only [hshape, Reading.long, Reading.slot_number]
        refine Reading.Takes.map (fun number => ([], fun _ => Value.enum number))
          (Reading.Takes.read_slot ?_)
        exact map_error_eq_ok.mpr (read_number_eq_ok.mpr hnumber)
      exact ⟨1, (takes_of_opening hopening).accepts.of_iff (iff_true_intro (.enum number))⟩
  | .list _ element slot count slots values hshape hcount hforms =>
      obtain ⟨bound, hparts⟩ := accepts_of_wire_forms hforms
      have hopening := (accepts_announced 1 hcount).map
        fun n => (List.replicate n element, Value.list)
      rw [← opening_of_list hshape] at hopening
      refine ⟨bound + 1, (accepts_of_opening hopening hparts).of_iff ?_⟩
      rw [held_list_iff, hforms.length_eq, List.length_replicate, Nat.one_mul]
  | .dictionary _ key inner slot count slots values hshape hcount hforms =>
      obtain ⟨bound, hparts⟩ := accepts_of_wire_forms hforms
      have hopening := (accepts_announced 2 hcount).map
        fun n => ((List.replicate n [key, inner]).flatten, fun values => Value.map (pairs values))
      rw [← opening_of_dictionary hshape] at hopening
      refine ⟨bound + 1, (accepts_of_opening hopening hparts).of_iff (held_map_iff ?_)⟩
      rw [hforms.length_eq, List.length_flatten, List.map_replicate, List.sum_replicate_nat,
        Nat.mul_comm]
      rfl
  | .struct _ place typeName subfields _ values hshape hforms =>
      obtain ⟨bound, hparts⟩ := accepts_of_wire_forms hforms
      have hopening : Reading.Takes (workspace.opening node) [] (subfields, fun values =>
          .struct ((subfields.map fun subfield => subfield.field.name).zip values)) := by
        rw [opening_of_struct hshape]
        exact Reading.Takes.pure _
      refine ⟨bound + 1, (accepts_of_opening hopening.accepts hparts).of_iff ?_⟩
      rw [true_and, held_struct_iff]
      rw [hforms.length_eq, List.length_map]

/-- Wire forms one after another are decoded under one bound if memory holds their values. -/
theorem accepts_of_wire_forms {nodes : List Node} {used : Slots} {values : List Value}
    (h : workspace.WireForms nodes used values) :
    ∃ bound, Reading.Accepts (∀ value ∈ values, value.Held)
      (Reading.each (workspace.decodeWithin bound) nodes) used values := by
  match h with
  | .nil => exact ⟨0, (Reading.Takes.pure []).accepts.of_iff (by simp)⟩
  | .cons node rest first others value values hform hforms =>
      obtain ⟨bound, hfirst⟩ := accepts_of_wire_form hform
      obtain ⟨enough, hothers⟩ := accepts_of_wire_forms hforms
      refine ⟨max bound enough, Reading.Accepts.of_iff (Reading.Accepts.each_cons
        (hfirst.congr fun _ => decode_within_of_le (Nat.le_max_left bound enough))
        (hothers.congr fun _ => each_decode_within_of_le (Nat.le_max_right bound enough))) ?_⟩
      exact List.forall_mem_cons
end

/-- A node is decoded from its wire forms if memory holds their values. -/
theorem accepts_decode_node {node : Node} (hnode : node ∈ workspace.nodes) {used : Slots}
    {value : Value} (h : workspace.WireForm node used value) :
    Reading.Accepts value.Held (workspace.decodeNode node) used value := by
  obtain ⟨bound, haccepts⟩ := accepts_of_wire_form h
  exact haccepts.congr fun reader => decode_node_of_ends hnode

/-- A node is decoded exactly from the wire forms of values that memory holds. -/
theorem decode_node_eq_ok {node : Node} {reader after : Reader} {value : Value}
    (hnode : node ∈ workspace.nodes) :
    workspace.decodeNode node reader = .ok value after ↔
      value.Held ∧ ∃ used, reader.slots = used ++ after.slots ∧
        after.index = reader.index + Reading.span used ∧ workspace.WireForm node used value := by
  obtain ⟨slots, index⟩ := reader
  constructor
  · intro h
    have hdecode : workspace.decodeWithin (workspace.recursionBound node slots.length) node
        ⟨slots, index⟩ = .ok value after := h
    obtain ⟨used, rfl, hform⟩ := wire_form_of_decode hdecode
    obtain ⟨taken, htaken, hindex⟩ := (local_decode_within _ node).advances hdecode
    obtain rfl := List.append_cancel_right htaken
    refine ⟨Classical.byContradiction fun hheld => ?_, used, rfl, hindex, hform⟩
    obtain ⟨count, last, hshort⟩ := (accepts_decode_node hnode hform).short hheld after.slots index
    exact nomatch h.symm.trans hshort
  · intro h
    obtain ⟨hheld, used, rfl, hindex, hform⟩ := h
    rw [(accepts_decode_node hnode hform).takes hheld after.slots index, ← hindex]

/-- Columns are decoded exactly from the wire forms, one after another, of values that memory
holds. -/
theorem decode_columns_wire_forms {columns : List Node} (hcolumns : columns ⊆ workspace.nodes)
    {reader : Reader} {values : List Value} :
    (∃ after, Reading.each workspace.decodeColumn columns reader = .ok values after ∧
      after.slots = []) ↔
      (∀ value ∈ values, value.Held) ∧ workspace.WireForms columns reader.slots values := by
  induction columns generalizing reader values with
  | nil =>
      constructor
      · intro h
        obtain ⟨after, ⟨⟩, hslots⟩ := h
        rw [hslots]
        exact ⟨fun value hvalue => absurd hvalue List.not_mem_nil, .nil⟩
      · intro h
        obtain ⟨-, h⟩ := h
        generalize hslots : reader.slots = slots at h
        cases h
        exact ⟨reader, rfl, hslots⟩
  | cons column rest ih =>
      have hrest := (List.cons_subset.mp hcolumns).2
      have hcolumn := (List.cons_subset.mp hcolumns).1
      constructor
      · intro h
        obtain ⟨after, heach, hslots⟩ := h
        obtain ⟨value, others, between, hfirst, hothers, rfl⟩ := Reading.each_cons_eq_ok.mp heach
        obtain ⟨hheld, used, hused, -, hform⟩ :=
          (decode_node_eq_ok hcolumn).mp (decode_column_eq_ok.mp hfirst)
        obtain ⟨hall, hforms⟩ := (ih hrest).mp ⟨after, hothers, hslots⟩
        rw [hused]
        exact ⟨List.forall_mem_cons.mpr ⟨hheld, hall⟩,
          .cons column rest used _ value others hform hforms⟩
      · intro h
        obtain ⟨hheld, h⟩ := h
        generalize hslots : reader.slots = slots at h
        cases h with
        | cons _ _ first others value values hform hforms =>
            obtain ⟨hvalue, hall⟩ := List.forall_mem_cons.mp hheld
            let between : Reader := ⟨others, reader.index + Reading.span first⟩
            have hfirst : workspace.decodeColumn column reader = .ok value between :=
              decode_column_eq_ok.mpr
                ((decode_node_eq_ok hcolumn).mpr ⟨hvalue, first, hslots, rfl, hform⟩)
            have hbetween : workspace.WireForms rest between.slots values := hforms
            obtain ⟨after, hothers, hempty⟩ := (ih hrest).mpr ⟨hall, hbetween⟩
            exact ⟨after,
              Reading.each_cons_eq_ok.mpr ⟨value, values, between, hfirst, hothers, rfl⟩, hempty⟩

/-- Whether every reference that a node leads to has a target. -/
def Targeted (workspace : Workspace) (node : Node) : Prop :=
  ∀ inner, ReflTransGen (fun outer part => part ∈ workspace.parts outer) node inner →
    ∀ target, workspace.shape inner ≠ .unbound target

/-- Whether every struct that a node leads to, through elements, keys, values, subfields and the
targets of references, has a width. -/
def Measured (workspace : Workspace) (node : Node) : Prop :=
  ∀ inner, ReflTransGen (fun outer part => part ∈ workspace.parts outer) node inner →
    ∀ place typeName subfields, workspace.shape inner = .struct place typeName subfields →
      ∃ width, workspace.width inner = .ok width

omit [Memory] in
/-- What a measured node leads to is measured. -/
theorem Measured.part {node part : Node} (h : workspace.Measured node)
    (hpart : part ∈ workspace.parts node) : workspace.Measured part :=
  fun inner hinner => h inner (.head hpart hinner)

/-- Whether decoding measured nodes ends at all readers with fewer slots than told. -/
def EndsBelow (workspace : Workspace) (length : Nat) : Prop :=
  ∀ node ∈ workspace.nodes, workspace.Measured node →
    ∀ reader : Reader, reader.slots.length < length → workspace.decoding.Ends (node, reader)

/-- Where decoding ends with fewer slots, it ends for a node that takes a slot itself, and for one
whose parts end with as many slots. -/
theorem decoding_ends_of_parts {length : Nat} (hbelow : workspace.EndsBelow length) {node : Node}
    (hnode : node ∈ workspace.nodes) (hmeasured : workspace.Measured node)
    (hparts : (workspace.shape node).Single ∨ ∀ part ∈ workspace.parts node,
      ∀ reader : Reader, reader.slots.length = length → workspace.decoding.Ends (part, reader))
    {reader : Reader} (hlength : reader.slots.length = length) :
    workspace.decoding.Ends (node, reader) := by
  refine BoundedRecursion.ends_of_inner (covers_decoding hnode reader) fun inner hcall => ?_
  obtain ⟨part, between⟩ := inner
  obtain ⟨hpart, hle, hlt⟩ := part_of_comes_to hcall
  rcases Nat.lt_or_ge between.slots.length length with hless | hge
  · exact hbelow part (mem_nodes_of_part hnode hpart) (hmeasured.part hpart) between hless
  · rcases hparts with hsingle | hparts
    · have := hlt hsingle
      omega
    · exact hparts part hpart between (by omega)

/-- Where decoding ends with fewer slots, it ends for a node that has a width: without a slot taken
it only goes down into structs, whose widths are finite sums. -/
theorem decoding_ends_of_width {length : Nat} (hbelow : workspace.EndsBelow length) {node : Node}
    {width : Nat} (hwidth : workspace.width node = .ok width) (hnode : node ∈ workspace.nodes)
    (hmeasured : workspace.Measured node) {reader : Reader}
    (hlength : reader.slots.length = length) : workspace.decoding.Ends (node, reader) := by
  refine width_induction (motive := fun node => node ∈ workspace.nodes →
    workspace.Measured node → ∀ reader : Reader, reader.slots.length = length →
      workspace.decoding.Ends (node, reader)) ?_ ?_ hwidth hnode hmeasured reader hlength
  · exact fun node hsingle hnode hmeasured reader =>
      decoding_ends_of_parts hbelow hnode hmeasured (.inl hsingle)
  · intro node place typeName subfields hshape ih hnode hmeasured reader
    refine decoding_ends_of_parts hbelow hnode hmeasured (.inr fun part hpart => ?_)
    have hsubfield : part ∈ subfields := by
      rw [parts, hshape] at hpart
      exact hpart
    exact ih part hsubfield (mem_nodes_of_part hnode hpart) (hmeasured.part hpart)

/-- Decoding a measured node ends at every reader. -/
theorem decoding_ends_of_measured {node : Node} (hnode : node ∈ workspace.nodes)
    (h : workspace.Measured node) (reader : Reader) : workspace.decoding.Ends (node, reader) := by
  induction hlength : reader.slots.length using Nat.strong_induction_on
    generalizing node reader with
  | _ length ih =>
      have hbelow : workspace.EndsBelow length :=
        fun node hnode hmeasured reader hless => ih _ hless hnode hmeasured reader rfl
      rcases shape_cases workspace node with ⟨place, typeName, subfields, hshape⟩ | hsingle | hnone
      · obtain ⟨width, hwidth⟩ := h node .refl place typeName subfields hshape
        exact decoding_ends_of_width hbelow hwidth hnode h hlength
      · exact decoding_ends_of_parts hbelow hnode h (.inl hsingle) hlength
      · obtain ⟨target, hshape⟩ := hnone
        refine decoding_ends_of_parts hbelow hnode h (.inr fun part hpart => ?_) hlength
        rw [parts, hshape] at hpart
        exact absurd hpart List.not_mem_nil

/-- The bound that is taken is large enough for a measured node. -/
theorem not_endless_decode_of_measured {node : Node} (hnode : node ∈ workspace.nodes)
    (hmeasured : workspace.Measured node) (reader : Reader) :
    ¬ Reading.Endless (workspace.decodeNode node reader) := by
  obtain ⟨bound, hends⟩ := decoding_ends_of_measured hnode hmeasured reader
  rw [decode_node_of_ends hnode hends]
  exact hends

/-- Decoding a measured node finishes unless it comes to a number of elements that memory has no
room for. -/
theorem finishes_decode_node_iff {node : Node} (hnode : node ∈ workspace.nodes)
    (hmeasured : workspace.Measured node) {reader : Reader} :
    Reading.Finishes (workspace.decodeNode node reader) ↔
      ∀ call, ReflTransGen workspace.ComesTo (node, reader) call → ¬ workspace.Exceeds call := by
  rw [Reading.finishes_iff, and_iff_right (not_endless_decode_of_measured hnode hmeasured reader),
    short_decode_node_iff hnode, not_exists]
  simp only [not_and]

/-- Decoding a row of measured columns finishes unless it comes to a number of elements that memory
has no room for. -/
theorem finishes_decode_row_iff {number : Nat}
    (hmeasured : ∀ column ∈ workspace.columns number, workspace.Measured column)
    {row : List Char} :
    Finishes (workspace.decodeRow number row) ↔
      ∀ call, workspace.RowComesTo number row call → ¬ workspace.Exceeds call := by
  have hends : ¬ Endless (workspace.decodeRow number row) := by
    rintro ⟨label, hrow⟩
    obtain ⟨before, column, after, values, reader, last, hcolumns, -, hcolumn⟩ :=
      decode_row_eq_endless.mp hrow
    have hcolumnMeasured := hmeasured column (by rw [hcolumns]; simp)
    exact not_endless_decode_of_measured (mem_nodes_of_column hcolumns) hcolumnMeasured reader
      ⟨label, last, hcolumn⟩
  rw [finishes_iff, and_iff_right hends, short_decode_row_iff, not_exists]
  simp only [not_and]

/-- Whether some slots of a row from a position on are a wire form of a value of a node. -/
def FormAt (workspace : Workspace) (node : Node) (row : List Char) (position count : Nat)
    (value : Value) : Prop :=
  position + count ≤ (row.splitOn ',').length ∧
    workspace.WireForm node (((row.splitOn ',').drop position).take count) value

/-- Decoding a measured node at a slot of a row gives a value or an error that a caller is given,
exactly if it does not come to a number of elements that memory has no room for. It gives a value
and goes on to a later slot exactly if the slots between are a wire form of the value and memory
holds the value, and there is at most one form. A row is decoded exactly if its slots are wire forms
of its columns, one after another, and memory holds the values; if its columns are measured, only a
number of elements that there is no room for keeps it from an answer. References without a target
need not be excluded: they have no wire forms, and decoding them is an error. -/
theorem decodes_exactly_wire_forms {node : Node} (hnode : node ∈ workspace.nodes)
    (hmeasured : workspace.Measured node) (row : List Char) {position : Nat}
    (hposition : position ≤ (row.splitOn ',').length) :
    (Reading.Finishes (workspace.decodeNode node (Reader.atSlot row position)) ↔
      ∀ call, ReflTransGen workspace.ComesTo (node, Reader.atSlot row position) call →
        ¬ workspace.Exceeds call) ∧
    (∀ value after, workspace.decodeNode node (Reader.atSlot row position) = .ok value after ↔
      value.Held ∧ ∃ count, workspace.FormAt node row position count value ∧
        after = Reader.atSlot row (position + count)) ∧
    (∀ count other value same, workspace.FormAt node row position count value →
      workspace.FormAt node row position other same → count = other ∧ value = same) ∧
    (∀ number values, workspace.decodeRow number row = .ok values ↔
      (∀ value ∈ values, value.Held) ∧
        workspace.WireForms (workspace.columns number) (row.splitOn ',') values) ∧
    ∀ number, (∀ column ∈ workspace.columns number, workspace.Measured column) →
      (Finishes (workspace.decodeRow number row) ↔
        ∀ call, workspace.RowComesTo number row call → ¬ workspace.Exceeds call) := by
  have htaken : ∀ {count : Nat}, position + count ≤ (row.splitOn ',').length →
      (((row.splitOn ',').drop position).take count).length = count := by
    intro count hcount
    rw [List.length_take, List.length_drop]
    omega
  refine ⟨finishes_decode_node_iff hnode hmeasured, fun value after => ⟨fun h => ?_, fun h => ?_⟩,
    ?_, fun number values => ?_, fun number hcolumns => finishes_decode_row_iff hcolumns⟩
  · obtain ⟨hheld, used, hslots, hindex, hform⟩ := (decode_node_eq_ok hnode).mp h
    have hdrop : (row.splitOn ',').drop position = used ++ after.slots := hslots
    refine ⟨hheld, used.length, ⟨?_, ?_⟩, Reader.at_slot_add hslots hindex⟩
    · have hlength := congrArg List.length hdrop
      rw [List.length_drop, List.length_append] at hlength
      omega
    · rwa [hdrop, List.take_left]
  · obtain ⟨hheld, count, ⟨hcount, hform⟩, rfl⟩ := h
    refine (decode_node_eq_ok hnode).mpr ⟨hheld, _, ?_, ?_, hform⟩
    · show (row.splitOn ',').drop position = _ ++ (row.splitOn ',').drop (position + count)
      rw [← List.drop_drop, List.take_append_drop]
    · show Reading.span ((row.splitOn ',').take (position + count)) = _
      rw [List.take_add, Reading.span_append]
      rfl
  · intro count other value same hfirst hsecond
    have happend := (List.take_append_drop count ((row.splitOn ',').drop position)).trans
      (List.take_append_drop other ((row.splitOn ',').drop position)).symm
    obtain ⟨hused, hvalue⟩ := wire_form_unique hfirst.2 hsecond.2 happend
    have hlength := congrArg List.length hused
    rw [htaken hfirst.1, htaken hsecond.1] at hlength
    exact ⟨hlength, hvalue⟩
  · rw [decode_row_eq_ok]
    exact decode_columns_wire_forms (columns_subset_nodes workspace number)

end Decoding

/-- A node of a tree with a number and children. -/
def treeNode : Node :=
  ⟨⟨0, [0]⟩, .struct ⟨"Nodes", "node"⟩ "Node"
    [(treeNumber [0, 0]).field, (treeChildren [1, 0]).field]⟩

/-- A node of a tree that has one child. -/
def treeValue : Value :=
  .struct [("number", .int 7),
    ("children", .list [.struct [("number", .int 2), ("children", .list [])]])]

/-- The node of a tree leads to itself, but only through the list of its children, which takes a
single value. -/
theorem measured_tree_node : (resolved [numberedTree]).Measured treeNode := by
  -- Whatever the node leads to is itself, a reference to it, or takes a single value.
  have hreached : ∀ inner,
      ReflTransGen (fun outer part => part ∈ (resolved [numberedTree]).parts outer) treeNode inner →
      inner ∈ [treeNode, treeNumber [0, 0], treeChildren [1, 0], treeReference [0, 1, 0]] := by
    intro inner hinner
    induction hinner with
    | refl => exact List.mem_cons_self
    | @tail middle part _ hstep ih =>
        simp only [List.mem_cons, List.not_mem_nil, or_false] at ih
        rcases ih with rfl | rfl | rfl | rfl
        · exact List.mem_cons_of_mem _ (List.mem_append_left _ hstep)
        · exact absurd hstep List.not_mem_nil
        · have hreference : part = treeReference [0, 1, 0] := List.mem_singleton.mp hstep
          simp [hreference]
        · exact List.mem_cons_of_mem _ (List.mem_append_left _ hstep)
  intro inner hinner place typeName subfields hshape
  have hmem := hreached inner hinner
  simp only [List.mem_cons, List.not_mem_nil, or_false] at hmem
  rcases hmem with rfl | rfl | rfl | rfl
  · exact ⟨2, by cbv⟩
  · exact ⟨1, by cbv⟩
  · exact ⟨1, by cbv⟩
  · exact ⟨2, by cbv⟩

/-- The four slots of a row are the only form of a node that starts with them, and the node is
decoded from them. -/
theorem tree_node_decodes_from_form :
    treeNode ∈ (resolved [numberedTree]).nodes ∧
    (resolved [numberedTree]).Measured treeNode ∧ 0 ≤ ("7,1,2,0".toList.splitOn ',').length ∧
    (resolved [numberedTree]).decodeNode treeNode (Reader.atSlot "7,1,2,0".toList 0) =
      .ok treeValue (Reader.atSlot "7,1,2,0".toList 4) ∧
    ∀ count value, (resolved [numberedTree]).FormAt treeNode "7,1,2,0".toList 0 count value →
      count = 4 ∧ value = treeValue := by
  have hnode : treeNode ∈ (resolved [numberedTree]).nodes :=
    columns_subset_nodes _ 0 List.mem_cons_self
  obtain ⟨-, haccepts, hunique, -⟩ :=
    decodes_exactly_wire_forms hnode measured_tree_node "7,1,2,0".toList (Nat.zero_le _)
  have hnumber : ∀ (slot : List Char) number, readInt32? (trim slot) = some number →
      (resolved [numberedTree]).WireForm (treeNumber [0, 0]) [slot] (.int number) :=
    fun slot number hread => .primitive _ .int slot _ rfl (.int slot number hread)
  have hchild : (resolved [numberedTree]).WireForm (treeReference [0, 1, 0]) [['2'], ['0']]
      (.struct [("number", .int 2), ("children", .list [])]) := by
    have hchildren : (resolved [numberedTree]).WireForm (treeChildren [1, 0]) [['0']] (.list []) :=
      .list _ (treeReference [0, 1, 0]) ['0'] 0 [] [] rfl ⟨0, rfl, rfl⟩ .nil
    exact .struct _ ⟨0, [0]⟩ "Node" [treeNumber [0, 0], treeChildren [1, 0]] _ _ rfl
      (.cons _ _ _ _ _ _ (hnumber ['2'] 2 rfl) (.cons _ _ _ _ _ _ hchildren .nil))
  have hform : (resolved [numberedTree]).FormAt treeNode "7,1,2,0".toList 0 4 treeValue := by
    have hchildren : (resolved [numberedTree]).WireForm (treeChildren [1, 0])
        [['1'], ['2'], ['0']] (.list [.struct [("number", .int 2), ("children", .list [])]]) :=
      .list _ (treeReference [0, 1, 0]) ['1'] 1 _ _ rfl ⟨1, rfl, rfl⟩
        (.cons _ _ _ _ _ _ hchild .nil)
    exact ⟨by decide, .struct _ ⟨0, [0]⟩ "Node" [treeNumber [0, 0], treeChildren [1, 0]] _ _ rfl
      (.cons _ _ _ _ _ _ (hnumber ['7'] 7 rfl) (.cons _ _ _ _ _ _ hchildren .nil))⟩
  have hheld : treeValue.Held := by
    refine .struct _ (List.forall_mem_cons.mpr ⟨.int 7, List.forall_mem_singleton.mpr ?_⟩)
    refine .list _ (by decide) (List.forall_mem_singleton.mpr ?_)
    refine .struct _ (List.forall_mem_cons.mpr ⟨.int 2, List.forall_mem_singleton.mpr ?_⟩)
    exact .list [] (by decide) fun item hitem => absurd hitem List.not_mem_nil
  refine ⟨hnode, measured_tree_node, Nat.zero_le _, (haccepts _ _).mpr ⟨hheld, 4, hform, rfl⟩, ?_⟩
  exact fun count value hother => hunique count 4 value treeValue hother hform

/-- The scores of an item. -/
def itemScores : Node :=
  ⟨⟨0, [0]⟩, .list ⟨"Items", "scores_1"⟩ (.primitive ⟨"Items", "scores_1"⟩ .int)⟩

/-- A table of items with their scores. -/
def scoredItems : Scheme :=
  ⟨"Items", [itemScores.field]⟩

/-- A list of numbers that announces as many elements as can be announced asks for more memory than
there is. -/
theorem exceeds_announced_list (workspace : Workspace) (place : Place) :
    workspace.Exceeds (⟨place, itemScores.field⟩, Reader.ofRow "9223372036854775807".toList) := by
  have hslots : (Reader.ofRow "9223372036854775807".toList).slots =
      ["9223372036854775807".toList] := by cbv
  have hcount : CountForm "9223372036854775807".toList 9223372036854775807 :=
    ⟨Int64.maxValue, by cbv, by decide⟩
  have hlarge : Memory.room < 9223372036854775807 := by decide
  exact ⟨_, _, _, hslots, hcount, .inl ⟨⟨_, rfl⟩, hlarge⟩⟩

/-- Decoding does not finish at every slot of a row: a list can announce more elements than memory
has room for. -/
theorem announced_list_decoding_not_finished :
    ¬ ∀ schemes : List Scheme, (∀ scheme ∈ schemes, ∃ names definitions,
        Scheme.build scheme.table names definitions = .ok scheme) →
      ∀ node ∈ (resolved schemes).nodes, (resolved schemes).Targeted node →
        (resolved schemes).Measured node →
        ∀ row position, position ≤ (row.splitOn ',').length →
          Reading.Finishes ((resolved schemes).decodeNode node (Reader.atSlot row position)) := by
  intro hfinishes
  have hbuilt : ∀ scheme ∈ [scoredItems], ∃ names definitions,
      Scheme.build scheme.table names definitions = .ok scheme := by
    intro scheme hscheme
    obtain rfl := List.mem_singleton.mp hscheme
    refine ⟨["scores_1"], ["List<int>"], ?_⟩
    cbv
  have hnode : itemScores ∈ (resolved [scoredItems]).nodes :=
    columns_subset_nodes _ 0 List.mem_cons_self
  -- The list leads to itself and to its elements, and neither is a struct or a reference.
  have hsingle : ∀ inner,
      ReflTransGen (fun outer part => part ∈ (resolved [scoredItems]).parts outer) itemScores
        inner → ((resolved [scoredItems]).shape inner).Single := by
    intro inner hinner
    have hreached : inner = itemScores ∨
        inner = ⟨⟨0, [0, 0]⟩, .primitive ⟨"Items", "scores_1"⟩ .int⟩ := by
      induction hinner with
      | refl => exact .inl rfl
      | tail _ hstep ih =>
          rcases ih with rfl | rfl
          · exact .inr (List.mem_singleton.mp hstep)
          · exact absurd hstep List.not_mem_nil
    rcases hreached with rfl | rfl <;> exact True.intro
  have htargeted : (resolved [scoredItems]).Targeted itemScores := by
    intro inner hinner target hshape
    have := hsingle inner hinner
    rw [hshape] at this
    exact this
  have hmeasured : (resolved [scoredItems]).Measured itemScores := by
    intro inner hinner place typeName subfields hshape
    have := hsingle inner hinner
    rw [hshape] at this
    exact this.elim
  have hread := hfinishes [scoredItems] hbuilt itemScores hnode htargeted hmeasured
    "9223372036854775807".toList 0 (Nat.zero_le _)
  exact (finishes_decode_node_iff hnode hmeasured).mp hread _ .refl (exceeds_announced_list _ _)

end Workspace

end SheetWire
