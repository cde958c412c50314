import SheetWire.Proofs.Row.Portions
import SheetWire.Proofs.Slot.SingleSlots

/-!
# One step of decoding

Decoding a node takes at most one slot for the node itself, which tells how many parts follow, and
then decodes the parts one after another. `Workspace.opening` is the step that the node takes
itself, and `decode_within_succ` says that this and its parts are all. Slots are only taken from the
front, so the bound that `Workspace.decodeNode` takes is never the reason for an answer
(`decode_node_of_ends`). Memory is the reason exactly where decoding comes to a number of parts that
it has no room for (`short_decode_iff`); which values it holds is said by `Value.Held`.
-/

namespace SheetWire

open Relation Text Number

/-- Consecutive elements of a list two by two. -/
def pairs {α : Type} : List α → List (α × α)
  | first :: second :: rest => (first, second) :: pairs rest
  | _ => []

/-- An even number of elements are so many pairs. -/
theorem exists_pairs {α : Type} {count : Nat} {list : List α} (h : list.length = 2 * count) :
    ∃ entries : List (α × α), entries.length = count ∧
      list = entries.flatMap fun entry => [entry.1, entry.2] := by
  induction count generalizing list with
  | zero => exact ⟨[], rfl, List.eq_nil_of_length_eq_zero h⟩
  | succ count ih =>
      match list with
      | first :: second :: rest =>
          have hrest : rest.length = 2 * count := by
            simp only [List.length_cons] at h
            omega
          obtain ⟨entries, hlength, rfl⟩ := ih hrest
          exact ⟨(first, second) :: entries, by rw [List.length_cons, hlength], rfl⟩
      | [] | [_] =>
          simp only [List.length_cons, List.length_nil] at h
          omega

/-- Elements two by two are the pairs that they were made of. -/
theorem pairs_flatMap {α : Type} (entries : List (α × α)) :
    pairs (entries.flatMap fun entry => [entry.1, entry.2]) = entries := by
  induction entries with
  | nil => rfl
  | cons entry entries ih =>
      rw [List.flatMap_cons]
      exact congrArg (entry :: ·) ih

/-- Whether memory has room for every collection in a value. -/
inductive Value.Held [Memory] : Value → Prop where
  | int (value) : Held (.int value)
  | long (value) : Held (.long value)
  | float (value) : Held (.float value)
  | bool (value) : Held (.bool value)
  | string (value) : Held (.string value)
  | enum (value) : Held (.enum value)
  | list (items : List Value) :
      items.length ≤ Memory.room → (∀ item ∈ items, Held item) → Held (.list items)
  | map (entries : List (Value × Value)) :
      2 * entries.length ≤ Memory.room → (∀ entry ∈ entries, Held entry.1) →
      (∀ entry ∈ entries, Held entry.2) → Held (.map entries)
  | struct (fields : List (String × Value)) :
      (∀ field ∈ fields, Held field.2) → Held (.struct fields)

/-- A primitive is read as a value that any memory holds. -/
theorem held_of_read [Memory] {kind : Primitive} {text : List Char} {value : Value}
    (h : kind.read text = .ok value) : value.Held := by
  cases kind with
  | int | long | float =>
      obtain ⟨number, -, rfl⟩ := map_eq_ok.mp h
      constructor
  | string | bool =>
      cases h
      constructor

/-- Memory holds a list if it has room for the elements and holds each of them. -/
theorem held_list_iff [Memory] {items : List Value} :
    (Value.list items).Held ↔ items.length ≤ Memory.room ∧ ∀ item ∈ items, item.Held := by
  refine ⟨fun h => ?_, fun h => .list items h.1 h.2⟩
  cases h with
  | list _ hroom hitems => exact ⟨hroom, hitems⟩

/-- Memory holds a dictionary if it has room for the keys and the values and holds each of them. -/
theorem held_map_iff [Memory] {count : Nat} {values : List Value}
    (hlength : values.length = 2 * count) :
    (Value.map (pairs values)).Held ↔ 2 * count ≤ Memory.room ∧ ∀ value ∈ values, value.Held := by
  obtain ⟨entries, rfl, rfl⟩ := exists_pairs hlength
  rw [pairs_flatMap]
  constructor
  · intro h
    cases h with
    | map _ hroom hkeys hvalues =>
        refine ⟨hroom, fun value hvalue => ?_⟩
        obtain ⟨entry, hentry, hmem⟩ := List.mem_flatMap.mp hvalue
        rcases List.mem_cons.mp hmem with rfl | hmem
        · exact hkeys entry hentry
        · rw [List.mem_singleton.mp hmem]
          exact hvalues entry hentry
  · intro h
    obtain ⟨hroom, hall⟩ := h
    refine .map entries hroom (fun entry hentry => ?_) (fun entry hentry => ?_)
    · exact hall _ (List.mem_flatMap.mpr ⟨entry, hentry, List.mem_cons_self⟩)
    · exact hall _ (List.mem_flatMap.mpr ⟨entry, hentry, List.mem_cons_of_mem _ List.mem_cons_self⟩)

/-- Memory holds a struct if it holds what its fields hold. -/
theorem held_struct_iff [Memory] {names : List String} {values : List Value}
    (hlength : names.length = values.length) :
    (Value.struct (names.zip values)).Held ↔ ∀ value ∈ values, value.Held := by
  have hvalues : (names.zip values).map Prod.snd = values := List.map_snd_zip hlength.ge
  constructor
  · intro h value hvalue
    cases h with
    | struct _ hfields =>
        rw [← hvalues] at hvalue
        obtain ⟨field, hfield, rfl⟩ := List.mem_map.mp hvalue
        exact hfields field hfield
  · intro h
    refine .struct _ fun field hfield => h _ ?_
    rw [← hvalues]
    exact List.mem_map_of_mem hfield

namespace Reading

variable {α β : Type} {read : α → Reading Error β}

/-- Reading two things as often as told is reading them in turn and pairing them afterwards. -/
theorem times_pair_eq_each (x y : α) (count : Nat) :
    times (do
      let first ← read x
      let second ← read y
      Pure.pure (first, second)) count =
      pairs <$> each read (List.replicate count [x, y]).flatten := by
  induction count with
  | zero => rfl
  | succ count ih =>
      simp only [times, ih, List.replicate_succ, List.flatten_cons, List.cons_append,
        List.nil_append, each, map_eq_pure_bind, bind_assoc, pure_bind, pairs]

end Reading

namespace Workspace

variable [Memory] {workspace : Workspace}

/-- What a node takes from a row itself: it tells the parts whose values follow, and how these make
up the value of the node. -/
def opening (workspace : Workspace) (node : Node) :
    Reading Error (List Node × (List Value → Value)) :=
  match workspace.shape node with
  | .primitive kind => (fun value => ([], fun _ => value)) <$> Reading.primitiveValue kind
  | .list element =>
      (fun count => (List.replicate count element, Value.list)) <$> Reading.announced 1
  | .dictionary key value =>
      (fun count => ((List.replicate count [key, value]).flatten,
        fun values => .map (pairs values))) <$> Reading.announced 2
  | .struct _ _ subfields => pure (subfields, fun values =>
      .struct ((subfields.map fun subfield => subfield.field.name).zip values))
  | .enum _ => (fun number => ([], fun _ => .enum number)) <$> Reading.slot Reading.long
  | .unbound target => throw (.unresolved node.label target)

/-- Decoding a node is its opening and then decoding its parts. -/
theorem decode_within_succ (bound : Nat) (node : Node) :
    workspace.decodeWithin (bound + 1) node = (do
      let (parts, assemble) ← workspace.opening node
      assemble <$> Reading.each (workspace.decodeWithin bound) parts) := by
  rw [decodeWithin, opening]
  cases workspace.shape node with
  | primitive kind =>
      simp only [map_eq_pure_bind, bind_assoc, pure_bind, Reading.each, bind_pure]
  | list element =>
      simp only [map_eq_pure_bind, bind_assoc, pure_bind, Reading.times_eq_each]
  | dictionary key value =>
      simp only [map_eq_pure_bind, bind_assoc, pure_bind]
      congr 1
      funext count
      rw [Reading.times_pair_eq_each, map_eq_pure_bind, bind_assoc]
      simp only [pure_bind]
  | struct place typeName subfields =>
      simp only [pure_bind]
      rw [Reading.each_with, map_eq_pure_bind, bind_assoc, map_eq_pure_bind]
      simp only [pure_bind]
  | enum members =>
      simp only [map_eq_pure_bind, bind_assoc, pure_bind, Reading.each]
  | unbound target => rfl

/-- Unless a node is a struct or has no target, it opens with a slot. -/
theorem opening_of_single {node : Node} (h : (workspace.shape node).Single) :
    ∃ parse, workspace.opening node = Reading.readSlot parse := by
  unfold opening
  cases hshape : workspace.shape node with
  | primitive kind =>
      simp only [Reading.primitive_value_eq, Reading.map_read_slot]
      exact ⟨_, rfl⟩
  | list element =>
      simp only [Reading.announced_eq, Reading.map_read_slot]
      exact ⟨_, rfl⟩
  | dictionary key value =>
      simp only [Reading.announced_eq, Reading.map_read_slot]
      exact ⟨_, rfl⟩
  | enum members =>
      simp only [Reading.long, Reading.slot_number, Reading.map_read_slot]
      exact ⟨_, rfl⟩
  | struct place typeName subfields =>
      rw [hshape] at h
      exact h.elim
  | unbound target =>
      rw [hshape] at h
      exact h.elim

/-- A struct opens without a slot and has its subfields as parts. -/
theorem opening_of_struct {node : Node} {place : Place} {typeName : String} {subfields : List Node}
    (h : workspace.shape node = .struct place typeName subfields) :
    workspace.opening node = pure (subfields, fun values =>
      .struct ((subfields.map fun subfield => subfield.field.name).zip values)) := by
  unfold opening
  rw [h]

/-- A list opens with the number of its elements. -/
theorem opening_of_list {element : Node} (hshape : workspace.shape node = .list element) :
    workspace.opening node =
      (fun n => (List.replicate n element, Value.list)) <$> Reading.announced 1 := by
  unfold opening
  rw [hshape]

/-- A dictionary opens with the number of its entries. -/
theorem opening_of_dictionary {key value : Node}
    (hshape : workspace.shape node = .dictionary key value) :
    workspace.opening node =
      (fun n =>
        ((List.replicate n [key, value]).flatten, fun values => Value.map (pairs values))) <$>
        Reading.announced 2 := by
  unfold opening
  rw [hshape]

/-- A reference without a target does not open. -/
theorem opening_of_unbound {node : Node} {target : TypeKey}
    (h : workspace.shape node = .unbound target) :
    workspace.opening node = throw (.unresolved node.label target) := by
  unfold opening
  rw [h]

omit [Memory] in
/-- Every node is a struct, takes a single value, or has no target. -/
theorem shape_cases (workspace : Workspace) (node : Node) :
    (∃ place typeName subfields, workspace.shape node = .struct place typeName subfields) ∨
      (workspace.shape node).Single ∨ ∃ target, workspace.shape node = .unbound target := by
  cases workspace.shape node with
  | struct place typeName subfields => exact .inl ⟨place, typeName, subfields, rfl⟩
  | unbound target => exact .inr (.inr ⟨target, rfl⟩)
  | primitive | list | dictionary | enum => exact .inr (.inl True.intro)

/-- An opening is decided by its slots. -/
theorem local_opening (node : Node) : Reading.Local (workspace.opening node) := by
  rcases shape_cases workspace node with ⟨_, _, _, hshape⟩ | hsingle | ⟨_, hshape⟩
  · rw [opening_of_struct hshape]
    exact Reading.Local.pure _
  · obtain ⟨parse, hopening⟩ := opening_of_single hsingle
    rw [hopening]
    exact Reading.Local.read_slot parse
  · rw [opening_of_unbound hshape]
    exact Reading.Local.throw _

/-- Whether decoding a node at a reader asks for more memory than there is: the node is a list or a
dictionary, and the next slot announces too many elements. -/
def Exceeds (workspace : Workspace) (call : Node × Reader) : Prop :=
  ∃ slot rest count, call.2.slots = slot :: rest ∧ CountForm slot count ∧
    (((∃ element, workspace.shape call.1 = .list element) ∧ Memory.room < count) ∨
      (∃ key value, workspace.shape call.1 = .dictionary key value) ∧ Memory.room < 2 * count)

/-- An opening fails with an error about a slot or about a target that is missing, or asks for more
memory than there is. -/
theorem error_of_opening {node : Node} {reader after : Reader} {e : Error}
    (h : workspace.opening node reader = .error e after) :
    (∃ problem, e = .ofSlot problem) ∨ (∃ target, e = .unresolved node.label target) ∨
      ∃ count, e = .endless (.memory count) ∧ workspace.Exceeds (node, reader) := by
  have hmisfit : ∀ {α : Type} {parse : List Char → Except Misfit α},
      Reading.readSlot (fun text => (parse text).mapError Misfit.error) reader = .error e after →
        ∃ problem, e = .ofSlot problem := by
    intro α parse h
    rcases Reading.read_slot_error h with ⟨-, rfl⟩ | ⟨text, rest, refusal, -, hparse, rfl⟩
    · exact ⟨_, rfl⟩
    · obtain ⟨misfit, -, rfl⟩ := map_error_eq_error.mp hparse
      exact ⟨_, rfl⟩
  have hannounced : ∀ {size : Nat}, Reading.announced size reader = .error e after →
      (∃ problem, e = .ofSlot problem) ∨ ∃ slot rest count, reader.slots = slot :: rest ∧
        CountForm slot count ∧ Memory.room < size * count ∧ e = .endless (.memory count) := by
    intro size h
    rw [Reading.announced_eq] at h
    rcases Reading.read_slot_error h with ⟨-, rfl⟩ | ⟨text, rest, refusal, hslots, hparse, rfl⟩
    · exact .inl ⟨_, rfl⟩
    · rcases Reading.parse_announced_eq_error.mp hparse with hcount | ⟨count, hform, hlarge, rfl⟩
      · exact .inl (Reading.problem_of_parse_count hcount _)
      · exact .inr ⟨text, rest, count, hslots, hform, hlarge, rfl⟩
  unfold opening at h
  cases hshape : workspace.shape node with
  | primitive kind =>
      rw [hshape, Reading.map_eq_error, Reading.primitive_value_eq] at h
      exact .inl (hmisfit h)
  | list element =>
      rw [hshape, Reading.map_eq_error] at h
      rcases hannounced h with hslot | ⟨slot, rest, count, hslots, hform, hlarge, rfl⟩
      · exact .inl hslot
      · rw [Nat.one_mul] at hlarge
        exact .inr (.inr ⟨count, rfl, slot, rest, count, hslots, hform,
          .inl ⟨⟨element, hshape⟩, hlarge⟩⟩)
  | dictionary key value =>
      rw [hshape, Reading.map_eq_error] at h
      rcases hannounced h with hslot | ⟨slot, rest, count, hslots, hform, hlarge, rfl⟩
      · exact .inl hslot
      · exact .inr (.inr ⟨count, rfl, slot, rest, count, hslots, hform,
          .inr ⟨⟨key, value, hshape⟩, hlarge⟩⟩)
  | struct place typeName subfields =>
      rw [hshape] at h
      exact nomatch h
  | enum members =>
      rw [hshape, Reading.map_eq_error, Reading.long, Reading.slot_number] at h
      exact .inl (hmisfit h)
  | unbound target =>
      rw [hshape] at h
      cases h
      exact .inr (.inl ⟨target, rfl⟩)

/-- An opening has no bound that could be too small. -/
theorem not_endless_opening (node : Node) (reader : Reader) :
    ¬ Reading.Endless (workspace.opening node reader) := by
  intro h
  obtain ⟨label, after, h⟩ := h
  rcases error_of_opening h with ⟨problem, h⟩ | ⟨target, h⟩ | ⟨count, h, -⟩ <;> exact nomatch h

/-- An opening asks for more memory than there is exactly if the next slot announces too many
elements. -/
theorem short_opening_iff {node : Node} {reader : Reader} :
    Reading.Short (workspace.opening node reader) ↔ workspace.Exceeds (node, reader) := by
  constructor
  · intro h
    obtain ⟨count, after, h⟩ := h
    rcases error_of_opening h with ⟨problem, h⟩ | ⟨target, h⟩ | ⟨-, -, h⟩
    · exact nomatch h
    · exact nomatch h
    · exact h
  · intro h
    obtain ⟨slot, rest, count, hslots, hform, hlarge⟩ := h
    obtain ⟨slots, index⟩ := reader
    obtain rfl : slots = slot :: rest := hslots
    have hannounced : ∀ {size : Nat}, Memory.room < size * count →
        ∃ after, Reading.announced size ⟨slot :: rest, index⟩ =
          .error (.endless (.memory count)) after := by
      intro size hsize
      have hparse := Reading.parse_announced_eq_error.mpr (.inr ⟨count, hform, hsize, rfl⟩)
      rw [Reading.announced_eq]
      exact ⟨_, Reading.read_slot_eq_error hparse rest index⟩
    rcases hlarge with ⟨⟨element, hshape⟩, hlarge⟩ | ⟨⟨key, value, hshape⟩, hlarge⟩
    · obtain ⟨after, hread⟩ := hannounced (show Memory.room < 1 * count by omega)
      rw [opening_of_list hshape]
      exact ⟨count, after, Reading.map_eq_error.mpr hread⟩
    · obtain ⟨after, hread⟩ := hannounced hlarge
      rw [opening_of_dictionary hshape]
      exact ⟨count, after, Reading.map_eq_error.mpr hread⟩

/-- Whoever opens without being a struct has taken a slot. -/
theorem slots_of_opening {node : Node} {reader after : Reader}
    {opened : List Node × (List Value → Value)} (hsingle : (workspace.shape node).Single)
    (h : workspace.opening node reader = .ok opened after) :
    ∃ text, reader.slots = text :: after.slots := by
  obtain ⟨parse, hopening⟩ := opening_of_single hsingle
  rw [hopening] at h
  obtain ⟨text, hslots, -⟩ := Reading.read_slot_eq_ok h
  exact ⟨text, hslots⟩

/-- What a node opens into are parts of it, and before a part is decoded, the parts in front of it
have been. -/
theorem mem_opening {node part : Node} {reader after : Reader} {nodes before rest : List Node}
    {assemble : List Value → Value}
    (h : workspace.opening node reader = .ok (nodes, assemble) after)
    (hnodes : nodes = before ++ part :: rest) :
    ∃ front back, workspace.parts node = front ++ part :: back ∧ front ⊆ before := by
  have hmem : part ∈ nodes := by
    rw [hnodes]
    exact List.mem_append_right _ List.mem_cons_self
  unfold opening at h
  unfold parts
  cases hshape : workspace.shape node with
  | primitive kind =>
      rw [hshape] at h
      obtain ⟨value, -, hopened⟩ := Reading.map_eq_ok.mp h
      cases hopened
      exact absurd hmem List.not_mem_nil
  | list element =>
      rw [hshape] at h
      obtain ⟨count, -, hopened⟩ := Reading.map_eq_ok.mp h
      cases hopened
      obtain rfl := List.eq_of_mem_replicate hmem
      exact ⟨[], [], rfl, List.nil_subset _⟩
  | dictionary key value =>
      rw [hshape] at h
      obtain ⟨count, -, hopened⟩ := Reading.map_eq_ok.mp h
      cases hopened
      obtain ⟨entry, hentry, hpart⟩ := List.mem_flatten.mp hmem
      obtain rfl := List.eq_of_mem_replicate hentry
      by_cases hkey : part = key
      · subst hkey
        exact ⟨[], [value], rfl, List.nil_subset _⟩
      · obtain rfl := List.mem_singleton.mp ((List.mem_cons.mp hpart).resolve_left hkey)
        refine ⟨[key], [], rfl, fun earlier hearlier => ?_⟩
        obtain rfl := List.mem_singleton.mp hearlier
        cases count with
        | zero => exact absurd hentry List.not_mem_nil
        | succ count =>
            cases before with
            | nil => exact absurd (List.cons.inj hnodes).1.symm hkey
            | cons first others =>
                rw [← (List.cons.inj hnodes).1]
                exact List.mem_cons_self
  | struct place typeName subfields =>
      rw [hshape] at h
      cases h
      exact ⟨before, rest, hnodes, List.Subset.refl _⟩
  | enum members =>
      rw [hshape] at h
      obtain ⟨number, -, hopened⟩ := Reading.map_eq_ok.mp h
      cases hopened
      exact absurd hmem List.not_mem_nil
  | unbound target =>
      rw [hshape] at h
      exact nomatch h

/-- Decoding a node is decided by the slots that it takes. -/
theorem local_decode_within (bound : Nat) (node : Node) :
    Reading.Local (workspace.decodeWithin bound node) := by
  induction bound generalizing node with
  | zero => exact Reading.Local.throw _
  | succ bound ih =>
      rw [decode_within_succ]
      refine (local_opening node).bind fun opened => ?_
      exact (Reading.Local.each fun part _ => ih part).map opened.2

/-- Decoding a node runs out of its bound exactly where one of its parts does. -/
theorem endless_decode_within_succ {bound : Nat} {node : Node} {reader : Reader} :
    Reading.Endless (workspace.decodeWithin (bound + 1) node reader) ↔
      ∃ nodes assemble after, workspace.opening node reader = .ok (nodes, assemble) after ∧
        Reading.Endless (Reading.each (workspace.decodeWithin bound) nodes after) := by
  rw [decode_within_succ, Reading.endless_bind, or_iff_right (not_endless_opening node reader)]
  constructor
  · intro h
    obtain ⟨⟨nodes, assemble⟩, after, hopening, h⟩ := h
    exact ⟨nodes, assemble, after, hopening, Reading.endless_map.mp h⟩
  · intro h
    obtain ⟨nodes, assemble, after, hopening, h⟩ := h
    exact ⟨(nodes, assemble), after, hopening, Reading.endless_map.mpr h⟩

/-- Decoding one node at a reader comes to decoding another one at another: it is a part, and what
stands before it has been decoded under some bound. -/
def ComesTo (workspace : Workspace) (call inner : Node × Reader) : Prop :=
  ∃ nodes assemble after before rest bound values,
    workspace.opening call.1 call.2 = .ok (nodes, assemble) after ∧
    nodes = before ++ inner.1 :: rest ∧
    Reading.each (workspace.decodeWithin bound) before after = .ok values inner.2

/-- Decoding moves on by taking slots. -/
theorem advances_of_comes_to {call inner : Node × Reader}
    (h : ReflTransGen workspace.ComesTo call inner) : Reading.Advances call.2 inner.2 := by
  induction h with
  | refl => exact .refl _
  | tail _ hstep ih =>
      obtain ⟨nodes, assemble, after, before, rest, bound, values, hopening, -, hbefore⟩ := hstep
      refine ih.trans (((local_opening _).advances hopening).trans ?_)
      exact (Reading.Local.each fun part _ => local_decode_within bound part).advances hbefore

/-- Decoding comes to parts of a node, and no more slots are left there. If the node takes a single
value, a slot has been taken. -/
theorem part_of_comes_to {node part : Node} {reader between : Reader}
    (h : workspace.ComesTo (node, reader) (part, between)) :
    part ∈ workspace.parts node ∧ between.slots.length ≤ reader.slots.length ∧
      ((workspace.shape node).Single → between.slots.length < reader.slots.length) := by
  obtain ⟨nodes, assemble, after, before, rest, bound, values, hopening, hnodes, hbefore⟩ := id h
  obtain ⟨front, back, hparts, -⟩ := mem_opening hopening hnodes
  refine ⟨by rw [hparts]; simp, (advances_of_comes_to (.single h)).length_le, fun hsingle => ?_⟩
  have hlocal : Reading.Local (Reading.each (workspace.decodeWithin bound) before) :=
    Reading.Local.each fun part _ => local_decode_within bound part
  have hle := (hlocal.advances hbefore).length_le
  obtain ⟨slot, hslots⟩ := slots_of_opening hsingle hopening
  have hlength := congrArg List.length hslots
  simp only [List.length_cons] at hlength hle
  omega

/-- Decoding stays among the nodes of the workspace. -/
theorem mem_nodes_of_comes_to {call inner : Node × Reader} (hnode : call.1 ∈ workspace.nodes)
    (h : ReflTransGen workspace.ComesTo call inner) : inner.1 ∈ workspace.nodes := by
  induction h with
  | refl => exact hnode
  | tail _ hstep ih =>
      obtain ⟨nodes, assemble, after, before, rest, bound, values, hopening, hnodes, -⟩ := hstep
      obtain ⟨front, back, hparts, -⟩ := mem_opening hopening hnodes
      refine mem_nodes_of_part ih ?_
      rw [hparts]
      exact List.mem_append_right _ List.mem_cons_self

/-- The recursion that decodes. On a way down a node at a reader is told apart by the number of
slots that are left. -/
def decoding (workspace : Workspace) :
    BoundedRecursion (Node × Reader) (EStateM.Result Error Reader Value) (Node × Nat) where
  eval := fun bound call => workspace.decodeWithin bound call.1 call.2
  endless := Reading.Endless
  calls := workspace.ComesTo
  key := fun call => (call.1, call.2.slots.length)
  endless_zero := fun call => ⟨call.1.label, call.2, rfl⟩
  eval_congr := by
    intro bound other call h hends
    rw [decode_within_succ, decode_within_succ]
    show EStateM.bind (workspace.opening call.1) _ call.2 =
      EStateM.bind (workspace.opening call.1) _ call.2
    unfold EStateM.bind
    cases hopening : workspace.opening call.1 call.2 with
    | error e after => rfl
    | ok opened after =>
        obtain ⟨nodes, assemble⟩ := opened
        -- Both runs open alike, and differ only in the bound under which the parts are decoded.
        have hinner : ¬ Reading.Endless
            (Reading.each (workspace.decodeWithin bound) nodes after) := fun hinner =>
          hends (endless_decode_within_succ.mpr ⟨nodes, assemble, after, hopening, hinner⟩)
        have hsame : Reading.each (workspace.decodeWithin other) nodes after =
            Reading.each (workspace.decodeWithin bound) nodes after :=
          Reading.each_congr (fun before part rest values between hnodes hbefore =>
            h (part, between)
              ⟨nodes, assemble, after, before, rest, bound, values, hopening, hnodes, hbefore⟩)
            hinner
        show EStateM.map assemble (Reading.each (workspace.decodeWithin other) nodes) after =
          EStateM.map assemble (Reading.each (workspace.decodeWithin bound) nodes) after
        unfold EStateM.map
        rw [hsame]
  endless_inner := by
    intro bound call h
    obtain ⟨nodes, assemble, after, hopening, hinner⟩ := endless_decode_within_succ.mp h
    obtain ⟨before, part, rest, values, between, hnodes, hbefore, hendless⟩ :=
      Reading.exists_endless_of_each hinner
    exact ⟨(part, between), ⟨nodes, assemble, after, before, rest, bound, values, hopening, hnodes,
      hbefore⟩, hendless⟩
  eq_of_key := by
    intro call inner h hkey
    obtain ⟨hnode, hlength⟩ := Prod.mk.inj hkey
    exact Prod.ext hnode ((advances_of_comes_to h).eq_of_length hlength.symm).symm

/-- A larger bound does not change what is decoded. -/
theorem decode_within_of_le {bound other : Nat} {node : Node} {reader : Reader}
    (hle : bound ≤ other) (h : ¬ Reading.Endless (workspace.decodeWithin bound node reader)) :
    workspace.decodeWithin other node reader = workspace.decodeWithin bound node reader :=
  @BoundedRecursion.eval_of_le _ _ _ workspace.decoding bound other (node, reader) hle h

/-- The nodes with the lengths up to the number of slots cover a call. -/
theorem covers_decoding {node : Node} (hnode : node ∈ workspace.nodes) (reader : Reader) :
    workspace.decoding.Covers (workspace.recursionKeys reader.slots.length) (node, reader) := by
  classical
  intro inner h
  refine Finset.mem_product.mpr ⟨List.mem_toFinset.mpr (mem_nodes_of_comes_to hnode h), ?_⟩
  exact Finset.mem_range.mpr (Nat.lt_succ_of_le (advances_of_comes_to h).length_le)

/-- Decoding a node has the result that it has under any bound that is large enough. -/
theorem decode_node_of_ends {node : Node} {reader : Reader} {bound : Nat}
    (hnode : node ∈ workspace.nodes)
    (h : ¬ Reading.Endless (workspace.decodeWithin bound node reader)) :
    workspace.decodeNode node reader = workspace.decodeWithin bound node reader :=
  workspace.decoding.eval_of_card_le (covers_decoding hnode reader)
    (card_recursion_keys node reader.slots.length) h

/-- Two bounds that are both large enough decode the same. -/
theorem decode_within_eq {bound other : Nat} {node : Node} {reader : Reader}
    (h : ¬ Reading.Endless (workspace.decodeWithin bound node reader))
    (hother : ¬ Reading.Endless (workspace.decodeWithin other node reader)) :
    workspace.decodeWithin bound node reader = workspace.decodeWithin other node reader :=
  (decode_within_of_le (Nat.le_max_left bound other) h).symm.trans
    (decode_within_of_le (Nat.le_max_right bound other) hother)

/-- A larger bound does not change what nodes are decoded to one after another. -/
theorem each_decode_within_of_le {bound other : Nat} {nodes : List Node} {reader : Reader}
    (hle : bound ≤ other)
    (h : ¬ Reading.Endless (Reading.each (workspace.decodeWithin bound) nodes reader)) :
    Reading.each (workspace.decodeWithin other) nodes reader =
      Reading.each (workspace.decodeWithin bound) nodes reader :=
  Reading.each_congr (fun _ _ _ _ _ _ _ hpart => decode_within_of_le hle hpart) h

/-- Nodes that are decoded one after another are decoded so under a larger bound. -/
theorem each_decode_of_le {bound other : Nat} {nodes : List Node} {reader after : Reader}
    {values : List Value} (hle : bound ≤ other)
    (h : Reading.each (workspace.decodeWithin bound) nodes reader = .ok values after) :
    Reading.each (workspace.decodeWithin other) nodes reader = .ok values after := by
  rw [each_decode_within_of_le hle (by rw [h]; exact Reading.not_endless_ok values after), h]

/-- Where a node asks for more memory than there is, decoding has come to a number of elements that
there is no room for. -/
theorem exceeds_of_short {bound : Nat} {node : Node} {reader : Reader}
    (h : Reading.Short (workspace.decodeWithin bound node reader)) :
    ∃ call, ReflTransGen workspace.ComesTo (node, reader) call ∧ workspace.Exceeds call := by
  induction bound generalizing node reader with
  | zero =>
      obtain ⟨count, after, h⟩ := h
      exact nomatch h
  | succ bound ih =>
      obtain ⟨count, last, h⟩ := h
      rw [decode_within_succ] at h
      rcases Reading.bind_eq_error.mp h with h | ⟨⟨nodes, assemble⟩, after, hopening, h⟩
      · exact ⟨(node, reader), .refl, short_opening_iff.mp ⟨count, last, h⟩⟩
      · obtain ⟨before, part, rest, values, between, hnodes, hbefore, hpart⟩ :=
          Reading.each_eq_error.mp (Reading.map_eq_error.mp h)
        obtain ⟨call, hcall, hexceeds⟩ := ih ⟨count, last, hpart⟩
        exact ⟨call, .head ⟨nodes, assemble, after, before, rest, bound, values, hopening, hnodes,
          hbefore⟩ hcall, hexceeds⟩

/-- Where decoding comes to a number of elements that there is no room for, it asks for more memory
than there is, under any bound that is large enough. -/
theorem short_of_exceeds {start call : Node × Reader}
    (h : ReflTransGen workspace.ComesTo start call) (hexceeds : workspace.Exceeds call) :
    ∃ bound, Reading.Short (workspace.decodeWithin bound start.1 start.2) := by
  induction h using ReflTransGen.head_induction_on with
  | refl =>
      obtain ⟨count, after, hopening⟩ := short_opening_iff.mpr hexceeds
      refine ⟨1, count, after, ?_⟩
      rw [decode_within_succ]
      exact Reading.bind_eq_error.mpr (.inl hopening)
  | @head outer part hstep _ ih =>
      obtain ⟨nodes, assemble, after, before, rest, enough, values, hopening, hnodes, hbefore⟩ :=
        hstep
      obtain ⟨bound, hshort⟩ := ih
      have hfront := each_decode_of_le (Nat.le_max_right bound enough) hbefore
      have hpart := decode_within_of_le (Nat.le_max_left bound enough) hshort.not_endless
      obtain ⟨count, last, hfails⟩ := hshort
      refine ⟨max bound enough + 1, count, last, ?_⟩
      rw [decode_within_succ]
      refine Reading.bind_eq_error.mpr (.inr ⟨(nodes, assemble), after, hopening, ?_⟩)
      exact Reading.map_eq_error.mpr (Reading.each_eq_error.mpr
        ⟨before, part.1, rest, values, part.2, hnodes, hfront, hpart.trans hfails⟩)

/-- A node asks for more memory than there is exactly if decoding comes to a number of elements that
there is no room for. -/
theorem short_decode_iff {bound : Nat} {node : Node} {reader : Reader}
    (hends : ¬ Reading.Endless (workspace.decodeWithin bound node reader)) :
    Reading.Short (workspace.decodeWithin bound node reader) ↔
      ∃ call, ReflTransGen workspace.ComesTo (node, reader) call ∧ workspace.Exceeds call := by
  refine ⟨exceeds_of_short, fun h => ?_⟩
  obtain ⟨call, hcall, hexceeds⟩ := h
  obtain ⟨enough, hshort⟩ := short_of_exceeds hcall hexceeds
  rwa [decode_within_eq hends hshort.not_endless]

/-- The same of the bound that is taken, which is large enough where memory runs out. -/
theorem short_decode_node_iff {node : Node} {reader : Reader} (hnode : node ∈ workspace.nodes) :
    Reading.Short (workspace.decodeNode node reader) ↔
      ∃ call, ReflTransGen workspace.ComesTo (node, reader) call ∧ workspace.Exceeds call := by
  refine ⟨exceeds_of_short, fun h => ?_⟩
  obtain ⟨call, hcall, hexceeds⟩ := h
  obtain ⟨bound, hshort⟩ := short_of_exceeds hcall hexceeds
  rwa [decode_node_of_ends hnode hshort.not_endless]

end Workspace

end SheetWire
