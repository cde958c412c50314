import SheetWire.Proofs.Row.Alignment
import SheetWire.Proofs.Row.WireForms
import SheetWire.Proofs.Scheme.WellFormed
import SheetWire.Proofs.Text.Marking

/-!
# Values that survive the wire

A value of a flat type is written into a cell slot by slot: numbers in decimal, members of enums by
their names, texts with every comma marked (`Written`). Lists and dictionaries of such values are
written one after another (`CellWritten`). Encoding cuts the escaped cell into the same slots again,
however many texts with commas, newlines and backslashes stand in them (`Carries`), so a row of such
cells is encoded, and decoding it gives the values (`written_row_survives`), as far as memory holds
them.
-/

namespace SheetWire

open Text Number

/-- How a value of a primitive is written into a cell. A text holds no sentinel and does not end
with a backslash. -/
inductive Primitive.Written : Primitive → Value → List Char → Prop where
  | int (number : Int32) : Written .int (.int number) (decimal number.toInt)
  | long (number : Int64) : Written .long (.long number) (decimal number.toInt)
  | bool (value : Bool) : Written .bool (.bool value) (if value then "true" else "false").toList
  | string (text : String) :
      ¬ newlineSentinel <:+: text.toList → ¬ commaSentinel <:+: text.toList →
      text.toList.getLast? ≠ some '\\' → Written .string (.string text) (mark text.toList)

/-- Whether a slot of a cell stays one slot when the cell is escaped: no comma in it is left, and
the comma behind it is. -/
structure Secluded (slot : List Char) : Prop where
  comma : ',' ∉ escape slot
  last : slot.getLast? ≠ some '\\'

/-- A text without newlines, backslashes and commas is a slot of its own, and stored as it is. -/
theorem secluded_of_notMem {slot : List Char} (hnewline : '\n' ∉ slot) (hbackslash : '\\' ∉ slot)
    (hcomma : ',' ∉ slot) : Secluded slot ∧ escape slot = slot := by
  have hescape := escape_of_notMem hnewline hbackslash
  exact ⟨⟨by rwa [hescape], fun h => hbackslash (List.mem_of_getLast? h)⟩, hescape⟩

/-- A whole number in decimal is a slot of its own. -/
theorem secluded_decimal (v : Int) : Secluded (decimal v) ∧ escape (decimal v) = decimal v := by
  refine secluded_of_notMem ?_ ?_ (comma_notMem_decimal v)
  all_goals
    intro hc
    rcases mem_decimal hc with h | h
    · exact absurd h (by decide)
    · exact absurd h (by decide)

/-- A name is a slot of its own. -/
theorem secluded_identifier {name : String} (h : IsIdentifier name) :
    Secluded name.toList ∧ escape name.toList = name.toList := by
  have hword : ∀ c ∈ name.toList, isWord c = true := List.all_eq_true.mp h.word
  refine secluded_of_notMem ?_ ?_ ?_
  all_goals
    intro hc
    exact absurd (hword _ hc) (by decide)

/-- What is written for a primitive is a slot of its own, and stored as a form of the value. -/
theorem Primitive.Written.survives {kind : Primitive} {value : Value} {slot : List Char}
    (h : kind.Written value slot) : Secluded slot ∧ PrimitiveForm kind (escape slot) value := by
  cases h with
  | int number =>
      obtain ⟨hsecluded, hescape⟩ := secluded_decimal number.toInt
      rw [hescape]
      exact ⟨hsecluded, .int _ number (by rw [trim_decimal, read_int32_decimal])⟩
  | long number =>
      obtain ⟨hsecluded, hescape⟩ := secluded_decimal number.toInt
      rw [hescape]
      exact ⟨hsecluded, .long _ number (by rw [trim_decimal, read_int64_decimal])⟩
  | bool value =>
      cases value with
      | true => exact ⟨⟨by decide, by decide⟩, .bool "true".toList⟩
      | false => exact ⟨⟨by decide, by decide⟩, .bool "false".toList⟩
  | string text hnewline hcomma hlast =>
      refine ⟨⟨comma_notMem_escape_mark _, getLast_mark hlast⟩, ?_⟩
      have hform := PrimitiveForm.string (escape (mark text.toList))
      rwa [unescape_escape_mark hnewline hcomma, String.ofList_toList] at hform

namespace Workspace

variable {workspace : Workspace}

mutual

/-- How a value of a flat type is written into a cell, slot by slot: a primitive, a member of an
enum by its name, and a struct as its subfields in order. A reference is written as its target. -/
inductive Written (workspace : Workspace) : Node → Value → Slots → Prop where
  | primitive (node kind value slot) :
      workspace.shape node = .primitive kind → kind.Written value slot →
      Written workspace node value [slot]
  | enum (node members member) :
      workspace.shape node = .enum members → member ∈ members →
      Written workspace node (.enum member.value) [member.name.toList]
  | struct (node place typeName subfields values groups) :
      workspace.shape node = .struct place typeName subfields →
      WrittenAll workspace subfields values groups →
      Written workspace node
        (.struct ((subfields.map fun subfield => subfield.field.name).zip values)) groups.flatten

/-- How values of some nodes are written, each in a group of slots. -/
inductive WrittenAll (workspace : Workspace) : List Node → List Value → List Slots → Prop where
  | nil : WrittenAll workspace [] [] []
  | cons (node rest value values group groups) :
      Written workspace node value group → WrittenAll workspace rest values groups →
      WrittenAll workspace (node :: rest) (value :: values) (group :: groups)

end

/-- How the value of a column is written into a cell: a value of a flat type, or a list or
dictionary of such values one after another. A collection in memory has less than `2 ^ 63` elements,
and one that has any is not written as an empty text. -/
inductive CellWritten (workspace : Workspace) (node : Node) : Value → List Char → Prop where
  | flat (value slots) :
      workspace.Written node value slots →
      CellWritten workspace node value ([','].intercalate slots)
  | list (element items groups) :
      workspace.shape node = .list element →
      workspace.WrittenAll (List.replicate items.length element) items groups →
      items.length < 2 ^ 63 → (items ≠ [] → [','].intercalate groups.flatten ≠ []) →
      CellWritten workspace node (.list items) ([','].intercalate groups.flatten)
  | dictionary (key value entries groups) :
      workspace.shape node = .dictionary key value →
      workspace.WrittenAll (List.replicate entries.length [key, value]).flatten
        (entries.flatMap fun entry => [entry.1, entry.2]) groups →
      entries.length < 2 ^ 63 → (entries ≠ [] → [','].intercalate groups.flatten ≠ []) →
      CellWritten workspace node (.map entries) ([','].intercalate groups.flatten)

/-- Slots as they are handed to a node when their cell is escaped. -/
def escapedText (slots : Slots) : List Char :=
  [','].intercalate (slots.map escape)

/-- Whether slots carry a value of a node: they are as many as the node takes, none runs into the
next, and what they are encoded as is a wire form of the value. -/
structure Carries (workspace : Workspace) (node : Node) (value : Value) (slots : Slots) :
    Prop where
  width : workspace.width node = .ok slots.length
  secluded : ∀ slot ∈ slots, Secluded slot
  wires : ∃ bound wire, workspace.WireForm node wire value ∧
    ∀ enough, bound ≤ enough → workspace.encodeWithin enough node (escapedText slots) = .ok wire

/-- Whether groups of slots carry values of nodes, one by one. -/
structure CarriesAll (workspace : Workspace) (nodes : List Node) (values : List Value)
    (groups : List Slots) : Prop where
  widths : workspace.widths nodes = .ok (groups.map List.length)
  secluded : ∀ slot ∈ groups.flatten, Secluded slot
  wires : ∃ bound wire, workspace.WireForms nodes wire values ∧
    ∀ enough, bound ≤ enough →
      workspace.encodePortions enough (nodes.zip (groups.map escapedText)) = .ok wire

/-- An escaped cell is cut into its slots. -/
theorem splitOn_escaped_text {slots : Slots} (hne : slots ≠ [])
    (hsecluded : ∀ slot ∈ slots, Secluded slot) :
    (escapedText slots).splitOn ',' = slots.map escape := by
  refine List.splitOn_intercalate ',' (fun part hpart => ?_) fun hnil =>
    hne (List.map_eq_nil_iff.mp hnil)
  obtain ⟨slot, hslot, rfl⟩ := List.mem_map.mp hpart
  exact (hsecluded slot hslot).comma

/-- A node is encoded as its own slots and what the portions that it hands on are encoded as. -/
theorem encoded_of_portions {node : Node} {text : List Char} {own wire : Slots}
    {list : List (Node × List Char)} {bound : Nat}
    (hportions : workspace.portions node text = .ok (own, list))
    (hencoded : ∀ enough, bound ≤ enough → workspace.encodePortions enough list = .ok wire) :
    ∀ enough, bound + 1 ≤ enough → workspace.encodeWithin enough node text = .ok (own ++ wire) := by
  intro enough henough
  obtain ⟨enough, rfl⟩ : ∃ less, enough = less + 1 := ⟨enough - 1, by omega⟩
  rw [encode_within_succ, hportions]
  refine bind_eq_ok.mpr ⟨(own, list), rfl, ?_⟩
  exact bind_eq_ok.mpr ⟨wire, hencoded enough (by omega), rfl⟩

/-- A node that hands groups of slots on to nodes is encoded from what they are encoded as. -/
theorem CarriesAll.encoded {node : Node} {nodes : List Node} {values : List Value}
    {groups : List Slots} {text : List Char} {own : Slots}
    (h : workspace.CarriesAll nodes values groups)
    (hportions : workspace.portions node text = .ok (own, nodes.zip (groups.map escapedText))) :
    ∃ bound wire, workspace.WireForms nodes wire values ∧
      ∀ enough, bound ≤ enough → workspace.encodeWithin enough node text = .ok (own ++ wire) := by
  obtain ⟨bound, wire, hforms, hencoded⟩ := h.wires
  exact ⟨bound + 1, wire, hforms, encoded_of_portions hportions hencoded⟩

/-- Groups that are carried are dealt out to the subfields of a struct. -/
theorem CarriesAll.struct_portions {node : Node} {place : Place} {typeName : String}
    {subfields : List Node} {values : List Value} {groups : List Slots}
    (h : workspace.CarriesAll subfields values groups) (hne : groups.flatten ≠ [])
    (hshape : workspace.shape node = .struct place typeName subfields) :
    workspace.portions node (escapedText groups.flatten) =
      .ok ([], subfields.zip (groups.map escapedText)) := by
  have hcut : (escapedText groups.flatten).splitOn ',' =
      (groups.map (List.map escape)).flatten := by
    rw [splitOn_escaped_text hne h.secluded, List.map_flatten]
  have hlengths : groups.map List.length = (groups.map (List.map escape)).map List.length := by
    rw [List.map_map]
    exact List.map_congr_left fun group _ => (List.length_map escape).symm
  rw [portions_of_struct hshape h.widths]
  · rw [hcut, hlengths, deal_flatten, List.zip_map_right, List.zip_map_right, List.map_map]
    rfl
  · rw [hcut, hlengths, List.length_flatten]

/-- Groups of one size are the runs of the escaped text that they make up together. -/
theorem runs_escaped_text {groups : List Slots} {size : Nat} (hne : groups ≠ []) (hpos : 0 < size)
    (hsize : ∀ group ∈ groups, group.length = size)
    (hsecluded : ∀ slot ∈ groups.flatten, Secluded slot) :
    runs size ((escapedText groups.flatten).splitOn ',') = groups.map (List.map escape) := by
  have hlengths : ∀ group ∈ groups.map (List.map escape), group.length = size := by
    intro group hgroup
    obtain ⟨slots, hslots, rfl⟩ := List.mem_map.mp hgroup
    rw [List.length_map, hsize slots hslots]
  have hnonempty : groups.flatten ≠ [] := by
    obtain ⟨first, hfirst⟩ := List.exists_mem_of_ne_nil groups hne
    obtain ⟨slot, hslot⟩ := List.exists_mem_of_length_pos (hsize first hfirst ▸ hpos)
    exact List.ne_nil_of_mem (List.mem_flatten_of_mem hfirst hslot)
  rw [splitOn_escaped_text hnonempty hsecluded, List.map_flatten]
  refine runs_flatten (fun group hgroup => List.ne_nil_of_length_pos ?_) hlengths
  rw [hlengths group hgroup]
  exact hpos

/-- A node for every group of a list. -/
theorem zip_replicate {α β γ : Type} (x : α) (f : β → γ) (list : List β) :
    (List.replicate list.length x).zip (list.map f) = list.map fun y => (x, f y) := by
  induction list with
  | nil => rfl
  | cons y list ih =>
      rw [List.length_cons, List.replicate_succ, List.map_cons, List.zip_cons_cons, ih,
        List.map_cons]

/-- Groups that are carried are the runs of a list. -/
theorem CarriesAll.list_portions (hfilled : workspace.Filled) {node element : Node}
    {items : List Value} {groups : List Slots} (hnode : node ∈ workspace.nodes)
    (h : workspace.CarriesAll (List.replicate items.length element) items groups)
    (hshape : workspace.shape node = .list element)
    (htext : items ≠ [] → escapedText groups.flatten ≠ []) :
    workspace.portions node (escapedText groups.flatten) =
      .ok ([digits items.length],
        (List.replicate items.length element).zip (groups.map escapedText)) := by
  have hwidths := List.forall₂_map_right_iff.mp (widths_eq_ok.mp h.widths)
  have hlength : items.length = groups.length := by
    have hlengths := hwidths.length_eq
    rwa [List.length_replicate] at hlengths
  have hwidth : ∀ group ∈ groups, workspace.width element = .ok group.length := by
    intro group hgroup
    obtain ⟨other, hother, hwidth⟩ := exists_left_of_mem hwidths hgroup
    rwa [List.eq_of_mem_replicate hother] at hwidth
  rw [hlength, zip_replicate]
  by_cases hnil : groups = []
  · subst hnil
    exact portions_of_portioned (.emptyList element hshape rfl)
  · have hitems : items ≠ [] := fun hitems => by
      rw [hitems] at hlength
      exact hnil (List.eq_nil_of_length_eq_zero hlength.symm)
    obtain ⟨first, hfirst⟩ := List.exists_mem_of_ne_nil groups hnil
    have helement : element ∈ workspace.nodes :=
      mem_nodes_of_part hnode (by rw [parts, hshape]; exact List.mem_singleton_self element)
    have hruns := runs_escaped_text hnil (width_pos hfilled helement (hwidth first hfirst))
      (fun group hgroup => Except.ok.inj ((hwidth group hgroup).symm.trans (hwidth first hfirst)))
      h.secluded
    have hportions :=
      portions_of_portioned (.list element _ hshape (htext hitems) (hwidth first hfirst))
    rw [hruns, List.length_map, List.map_map] at hportions
    exact hportions

/-- Two nodes for every pair of a dictionary. -/
theorem zip_replicate_pairs {α β γ : Type} (x y : α) (f : β → γ) (entries : List (β × β)) :
    (List.replicate entries.length [x, y]).flatten.zip
        ((entries.flatMap fun entry => [entry.1, entry.2]).map f) =
      entries.flatMap fun entry => [(x, f entry.1), (y, f entry.2)] := by
  induction entries with
  | nil => rfl
  | cons entry entries ih =>
      rw [List.flatMap_cons, List.flatMap_cons, ← ih]
      rfl

/-- What holds of two nodes and every pair of a dictionary. -/
theorem forall_two_pairs {α β : Type} {related : α → β → Prop} {x y : α} {entries : List (β × β)}
    (h : List.Forall₂ related (List.replicate entries.length [x, y]).flatten
      (entries.flatMap fun entry => [entry.1, entry.2])) :
    ∀ entry ∈ entries, related x entry.1 ∧ related y entry.2 := by
  induction entries with
  | nil => exact fun entry hentry => absurd hentry List.not_mem_nil
  | cons entry entries ih =>
      have hcons : List.Forall₂ related (x :: y :: (List.replicate entries.length [x, y]).flatten)
          (entry.1 :: entry.2 :: entries.flatMap fun entry => [entry.1, entry.2]) := h
      obtain ⟨hfirst, hrest⟩ := List.forall₂_cons.mp hcons
      obtain ⟨hsecond, hothers⟩ := List.forall₂_cons.mp hrest
      exact List.forall_mem_cons.mpr ⟨⟨hfirst, hsecond⟩, ih hothers⟩

/-- The slots of keys and values are those of the entries. -/
theorem flatten_pairs (entries : List (Slots × Slots)) :
    (entries.flatMap fun entry => [entry.1, entry.2]).flatten =
      (entries.map fun entry => entry.1 ++ entry.2).flatten := by
  induction entries with
  | nil => rfl
  | cons entry entries ih =>
      rw [List.map_cons, List.flatten_cons, ← ih, List.append_assoc]
      rfl

/-- Groups that are carried are the entries of a dictionary. -/
theorem CarriesAll.dictionary_portions (hfilled : workspace.Filled) {node key value : Node}
    {entries : List (Value × Value)} {groups : List Slots} (hnode : node ∈ workspace.nodes)
    (h : workspace.CarriesAll (List.replicate entries.length [key, value]).flatten
      (entries.flatMap fun entry => [entry.1, entry.2]) groups)
    (hshape : workspace.shape node = .dictionary key value)
    (htext : entries ≠ [] → escapedText groups.flatten ≠ []) :
    workspace.portions node (escapedText groups.flatten) =
      .ok ([digits entries.length],
        (List.replicate entries.length [key, value]).flatten.zip (groups.map escapedText)) := by
  have hwidths := List.forall₂_map_right_iff.mp (widths_eq_ok.mp h.widths)
  have hsecluded := h.secluded
  have hlength : groups.length = 2 * entries.length := by
    have hlengths := hwidths.length_eq
    rw [List.length_flatten, List.map_replicate, List.sum_replicate_nat] at hlengths
    rw [← hlengths, Nat.mul_comm]
    rfl
  obtain ⟨written, hcount, rfl⟩ := exists_pairs hlength
  rw [← hcount] at hwidths ⊢
  have hwidth := forall_two_pairs hwidths
  rw [zip_replicate_pairs]
  by_cases hnil : written = []
  · subst hnil
    exact portions_of_portioned (.emptyDictionary key value hshape rfl)
  · have hentries : entries ≠ [] := fun hentries => by
      rw [hentries] at hcount
      exact hnil (List.eq_nil_of_length_eq_zero hcount)
    obtain ⟨first, hfirst⟩ := List.exists_mem_of_ne_nil written hnil
    obtain ⟨hkey, hvalue⟩ := hwidth first hfirst
    have hkeys : ∀ entry ∈ written, entry.1.length = first.1.length := fun entry hentry =>
      Except.ok.inj ((hwidth entry hentry).1.symm.trans hkey)
    have hvalues : ∀ entry ∈ written, entry.2.length = first.2.length := fun entry hentry =>
      Except.ok.inj ((hwidth entry hentry).2.symm.trans hvalue)
    have hpart : key ∈ workspace.parts node := by
      rw [parts, hshape]
      exact List.mem_cons_self
    have hpos := width_pos hfilled (mem_nodes_of_part hnode hpart) hkey
    -- Every entry is a run: its key and its value take as many slots as those of the first.
    rw [flatten_pairs] at hsecluded htext ⊢
    have hruns := runs_escaped_text (fun hmap => hnil (List.map_eq_nil_iff.mp hmap))
      (Nat.add_pos_left hpos first.2.length) (fun run hrun => by
        obtain ⟨entry, hentry, rfl⟩ := List.mem_map.mp hrun
        rw [List.length_append, hkeys entry hentry, hvalues entry hentry]) hsecluded
    have hportions :=
      portions_of_portioned (.dictionary key value _ _ hshape (htext hentries) hkey hvalue)
    rw [hruns, List.length_map, List.length_map, List.flatMap_map, List.flatMap_map] at hportions
    rw [hportions]
    refine congrArg (fun list => Except.ok (_, list)) ?_
    refine List.flatMap_congr fun entry hentry => ?_
    have hlength : (entry.1.map escape).length = first.1.length := by
      rw [List.length_map, hkeys entry hentry]
    rw [List.map_append, ← hlength, List.take_left, List.drop_left]
    rfl

/-- A node that takes a single value is encoded from a single slot that it stores whole. -/
theorem carries_single {node : Node} {value : Value} {slot stored : List Char}
    (hsingle : (workspace.shape node).Single) (hsecluded : Secluded slot)
    (hform : workspace.WireForm node [stored] value)
    (hportioned : workspace.Portioned node (escape slot) [stored] []) :
    workspace.Carries node value [slot] := by
  refine ⟨width_from_single hsingle, List.forall_mem_singleton.mpr hsecluded, 1, [stored],
    hform, ?_⟩
  rw [show escapedText [slot] = escape slot from List.intercalate_singleton]
  exact encoded_of_portions (portions_of_portioned hportioned) fun _ (_ : 0 ≤ _) => rfl

/-- A member of an enum is encoded from its name. -/
theorem carries_member (hbuilt : workspace.Built) {node : Node} {members : List Member}
    {member : Member} (hnode : node ∈ workspace.nodes)
    (hshape : workspace.shape node = .enum members) (hmember : member ∈ members) :
    workspace.Carries node (.enum member.value) [member.name.toList] := by
  have hmembers := hbuilt.well_formed_members hnode hshape
  have hproper := hmembers.identifiers member hmember
  obtain ⟨hsecluded, hescape⟩ := secluded_identifier hproper
  have hform : workspace.WireForm node [decimal member.value.toInt] (.enum member.value) :=
    .enum node members _ _ hshape (by rw [trim_decimal, read_int64_decimal])
  have hne : member.name.toList ≠ [] :=
    fun hnil => hproper.nonempty (String.toList_eq_nil_iff.mp hnil)
  have hfound : Field.memberValue? members (String.ofList member.name.toList) =
      some member.value := by
    rw [String.ofList_toList]
    exact (hmembers.found _ _).mpr hmember
  refine carries_single (by rw [hshape]; exact True.intro) hsecluded hform ?_
  rw [hescape]
  exact .member members member.value hshape hne hfound

mutual

/-- What is written for a value of a flat type carries the value. -/
theorem carries_of_written (hbuilt : workspace.Built) {node : Node} {value : Value} {slots : Slots}
    (hnode : node ∈ workspace.nodes) (h : workspace.Written node value slots) :
    workspace.Carries node value slots := by
  match h with
  | .primitive _ kind _ slot hshape hwritten =>
      obtain ⟨hsecluded, hform⟩ := hwritten.survives
      exact carries_single (by rw [hshape]; exact True.intro) hsecluded
        (.primitive node kind (escape slot) value hshape hform) (.primitive kind hshape)
  | .enum _ members member hshape hmember => exact carries_member hbuilt hnode hshape hmember
  | .struct _ place typeName subfields values groups hshape hwritten =>
      have hall := carries_all_of_written hbuilt (mem_nodes_of_subfield hnode hshape) hwritten
      have hwidth := width_of_widths hnode hshape hall.widths
      rw [← List.length_flatten] at hwidth
      have hne := List.ne_nil_of_length_pos (width_pos (filled_of_built hbuilt) hnode hwidth)
      obtain ⟨bound, wire, hforms, hencoded⟩ := hall.encoded (hall.struct_portions hne hshape)
      exact ⟨hwidth, hall.secluded, bound, wire,
        .struct node place typeName subfields wire values hshape hforms, hencoded⟩

/-- What is written for values of flat types carries the values one by one. -/
theorem carries_all_of_written (hbuilt : workspace.Built) {nodes : List Node} {values : List Value}
    {groups : List Slots} (hnodes : ∀ node ∈ nodes, node ∈ workspace.nodes)
    (h : workspace.WrittenAll nodes values groups) : workspace.CarriesAll nodes values groups := by
  match h with
  | .nil =>
      exact ⟨rfl, fun slot hslot => absurd hslot List.not_mem_nil, 0, [], .nil, fun _ _ => rfl⟩
  | .cons node rest value values group groups hwritten hothers =>
      rw [List.forall_mem_cons] at hnodes
      obtain ⟨hwidth, hsecluded, bound, wire, hform, hencoded⟩ :=
        carries_of_written hbuilt hnodes.1 hwritten
      obtain ⟨hwidths, hrest, enough, wires, hforms, hall⟩ :=
        carries_all_of_written hbuilt hnodes.2 hothers
      refine ⟨?_, ?_, max bound enough, wire ++ wires, .cons node rest wire wires value values hform
        hforms, fun more hmore => ?_⟩
      · exact widths_eq_ok.mpr (.cons hwidth (widths_eq_ok.mp hwidths))
      · rw [List.flatten_cons, List.forall_mem_append]
        exact ⟨hsecluded, hrest⟩
      · have hfirst := hencoded more (Nat.le_trans (Nat.le_max_left bound enough) hmore)
        have hthen := hall more (Nat.le_trans (Nat.le_max_right bound enough) hmore)
        exact bind_eq_ok.mpr ⟨wire, hfirst, bind_eq_ok.mpr ⟨wires, hthen, rfl⟩⟩

end

/-- An escaped cell is the text that its slots are handed as. -/
theorem escape_intercalate_secluded {slots : Slots} (h : ∀ slot ∈ slots, Secluded slot) :
    escape ([','].intercalate slots) = escapedText slots :=
  escape_intercalate_iff.mpr fun slot hslot => (h slot (List.mem_of_mem_dropLast hslot)).last

/-- A number of elements is announced by its digits. -/
theorem count_form_digits {n : Nat} (h : n < 2 ^ 63) : CountForm (digits n) n :=
  Reading.parse_count_eq_ok.mp (Reading.parse_count_digits h)

/-- A cell is encoded as a form of the value that is written in it. -/
theorem encoded_of_cell_written (hbuilt : workspace.Built) {node : Node} {value : Value}
    {text : List Char} (hnode : node ∈ workspace.nodes)
    (h : workspace.CellWritten node value text) :
    ∃ bound wire, workspace.WireForm node wire value ∧
      workspace.encodeWithin bound node (escape text) = .ok wire := by
  have hfilled := filled_of_built hbuilt
  cases h with
  | flat _ slots hwritten =>
      obtain ⟨-, hsecluded, bound, wire, hform, hencoded⟩ :=
        carries_of_written hbuilt hnode hwritten
      rw [escape_intercalate_secluded hsecluded]
      exact ⟨bound, wire, hform, hencoded bound (Nat.le_refl bound)⟩
  | list element items groups hshape hwritten hcount htext =>
      have helement : element ∈ workspace.nodes :=
        mem_nodes_of_part hnode (by rw [parts, hshape]; exact List.mem_singleton_self element)
      have hall := carries_all_of_written hbuilt
        (fun other hother => List.eq_of_mem_replicate hother ▸ helement) hwritten
      rw [escape_intercalate_secluded hall.secluded]
      obtain ⟨bound, wire, hforms, hencoded⟩ := hall.encoded
        (hall.list_portions hfilled hnode hshape fun hitems =>
          escape_intercalate_secluded hall.secluded ▸ escape_ne_nil (htext hitems))
      exact ⟨bound, digits items.length :: wire, .list node element _ items.length wire items hshape
        (count_form_digits hcount) hforms, hencoded bound (Nat.le_refl bound)⟩
  | dictionary key value entries groups hshape hwritten hcount htext =>
      have hnodes : ∀ other ∈ (List.replicate entries.length [key, value]).flatten,
          other ∈ workspace.nodes := by
        intro other hother
        obtain ⟨part, hpart, hmem⟩ := List.mem_flatten.mp hother
        rw [List.eq_of_mem_replicate hpart] at hmem
        exact mem_nodes_of_part hnode (by rw [parts, hshape]; exact hmem)
      have hall := carries_all_of_written hbuilt hnodes hwritten
      rw [escape_intercalate_secluded hall.secluded]
      obtain ⟨bound, wire, hforms, hencoded⟩ := hall.encoded
        (hall.dictionary_portions hfilled hnode hshape fun hentries =>
          escape_intercalate_secluded hall.secluded ▸ escape_ne_nil (htext hentries))
      have hform := WireForm.dictionary node key value _ entries.length wire _ hshape
        (count_form_digits hcount) hforms
      rw [pairs_flatMap] at hform
      exact ⟨bound, digits entries.length :: wire, hform, hencoded bound (Nat.le_refl bound)⟩

/-- No comma in the cell of a primitive is left when it is escaped. -/
theorem plain_of_cell_written {node : Node} {value : Value} {text : List Char} {kind : Primitive}
    (h : workspace.CellWritten node value text) (hkind : workspace.shape node = .primitive kind) :
    ¬ UnmarkedComma text := by
  rw [← comma_mem_escape]
  cases h with
  | list _ _ _ hshape | dictionary _ _ _ _ hshape =>
      rw [hkind] at hshape
      exact nomatch hshape
  | flat _ _ hwritten =>
      cases hwritten with
      | primitive _ _ _ slot _ hslot =>
          rw [List.intercalate_singleton]
          exact hslot.survives.1.comma
      | enum _ _ _ hshape | struct _ _ _ _ _ _ hshape =>
          rw [hkind] at hshape
          exact nomatch hshape

/-- The cells of a row of values, each with the text that it is written as. -/
def writtenCells (cells : List (Value × List Char)) : List Cell :=
  cells.map fun cell => .text (String.ofList cell.2)

/-- Whether every column has a cell that its value is written in. -/
def CellsWritten (workspace : Workspace) (columns : List Node) (cells : List (Value × List Char)) :
    Prop :=
  List.Forall₂ (fun column cell => workspace.CellWritten column cell.1 cell.2) columns cells

/-- The text of a column is encoded as a form of the value that is written in it. -/
theorem encode_text_of_cell_written (hbuilt : workspace.Built) {node : Node} {value : Value}
    {text : List Char} (hnode : node ∈ workspace.nodes)
    (h : workspace.CellWritten node value text) :
    ∃ wire, workspace.encodeText node (String.ofList text) = .ok wire ∧
      workspace.WireForm node wire value := by
  obtain ⟨bound, wire, hform, hencoded⟩ := encoded_of_cell_written hbuilt hnode h
  have hends : ¬ Endless (workspace.encodeWithin bound node
      (escape (String.ofList text).toList)) := by
    rw [String.toList_ofList, hencoded]
    exact not_endless_ok wire
  refine ⟨wire, ?_, hform⟩
  rw [encode_text_of_ends hnode hends, String.toList_ofList, hencoded]

/-- Written cells are encoded in slots that are forms of their values. -/
theorem CellsWritten.writes [DateFormat] (hbuilt : workspace.Built) {columns : List Node}
    {cells : List (Value × List Char)} (hnodes : columns ⊆ workspace.nodes)
    (h : workspace.CellsWritten columns cells) :
    ∃ pieces, workspace.Writes (cellTexts columns (writtenCells cells)) pieces ∧
      workspace.WireForms columns pieces.flatten (cells.map Prod.fst) := by
  unfold CellsWritten at h
  induction h with
  | nil => exact ⟨[], .nil, .nil⟩
  | @cons column cell columns cells hcell _ ih =>
      rw [List.cons_subset] at hnodes
      obtain ⟨piece, hpiece, hform⟩ := encode_text_of_cell_written hbuilt hnodes.1 hcell
      obtain ⟨pieces, hpieces, hforms⟩ := ih hnodes.2
      exact ⟨piece :: pieces, .cons hpiece hpieces,
        .cons column columns piece pieces.flatten cell.1 _ hform hforms⟩

/-- Primitive columns pass no comma on from written cells. -/
theorem CellsWritten.plain [DateFormat] {columns : List Node} {cells : List (Value × List Char)}
    (h : workspace.CellsWritten columns cells) :
    workspace.Plain (cellTexts columns (writtenCells cells)) := by
  unfold CellsWritten at h
  induction h with
  | nil => exact fun column text hmem => absurd hmem List.not_mem_nil
  | @cons column cell columns cells hcell _ ih =>
      intro other text hmem kind hshape
      rcases List.mem_cons.mp hmem with hfirst | hrest
      · cases hfirst
        show ¬ UnmarkedComma (String.ofList cell.2).toList
        rw [String.toList_ofList]
        exact plain_of_cell_written hcell hshape
      · exact ih other text hrest kind hshape

/-- A row of cells that values are written in is encoded, and decoding it gives these values exactly
if memory holds them: members of enums as their numbers, and the pairs of dictionaries in their
order, with keys that repeat. -/
theorem written_row_survives [Memory] [DateFormat] (hbuilt : workspace.Built) {number : Nat}
    {cells : List (Value × List Char)} (hcolumns : workspace.columns number ≠ [])
    (hwritten : workspace.CellsWritten (workspace.columns number) cells) :
    ∃ row, workspace.encodeRow number (writtenCells cells) = .ok row ∧
      (workspace.decodeRow number row.wire = .ok (cells.map Prod.fst) ↔
        ∀ cell ∈ cells, cell.1.Held) := by
  have hsubset := columns_subset_nodes workspace number
  obtain ⟨pieces, hwrites, hforms⟩ := hwritten.writes hbuilt hsubset
  have hcells := encode_cells_of_writes hwrites
  refine ⟨⟨pieces.map [','].intercalate⟩, bind_eq_ok.mpr ⟨_, hcells, rfl⟩, ?_⟩
  have htexts : cellTexts (workspace.columns number) (writtenCells cells) ≠ [] :=
    cell_texts_ne_nil hcolumns
  have hslots : (Reader.ofRow (Row.wire ⟨pieces.map [','].intercalate⟩)).slots = pieces.flatten :=
    splitOn_wire hwrites hwritten.plain htexts
  rw [decode_row_eq_ok, decode_columns_wire_forms hsubset, hslots, and_iff_left hforms,
    List.forall_mem_map]

/-- The grades of an offer. -/
def grades : List Member :=
  [⟨"low", 1⟩, ⟨"high", 2⟩]

/-- The name of an offer. -/
def offerName : Node :=
  ⟨⟨0, [0, 0]⟩, .primitive ⟨"Shop", "name"⟩ .string⟩

/-- The grade of an offer. -/
def offerGrade : Node :=
  ⟨⟨0, [1, 0]⟩, .enum ⟨"Shop", "grade"⟩ "E" grades⟩

/-- An offer in a bundle. -/
def bundleOffer : Node :=
  ⟨⟨0, [0, 1]⟩, .reference ⟨"Shop", "bundle_1"⟩ ⟨"Shop", "Offer"⟩⟩

/-- A table of offers with bundles of other offers and with prices. -/
def shop : Scheme :=
  ⟨"Shop", [
    .struct ⟨"Shop", "offer"⟩ "Offer" [offerName.field, offerGrade.field],
    .list ⟨"Shop", "bundle_1"⟩ bundleOffer.field,
    .dictionary ⟨"Shop", "prices"⟩ (.primitive ⟨"Shop", ""⟩ .string)
      (.primitive ⟨"Shop", ""⟩ .long)]⟩

/-- An offer is written as its name with marked commas and as the name of its grade. -/
theorem written_offer (node : Node) (name : String) (grade : Member)
    (hshape : (resolved [shop]).shape node = .struct ⟨0, [0]⟩ "Offer" [offerName, offerGrade])
    (hgrade : grade ∈ grades) (hnewline : ¬ newlineSentinel <:+: name.toList)
    (hcomma : ¬ commaSentinel <:+: name.toList) (hlast : name.toList.getLast? ≠ some '\\') :
    (resolved [shop]).Written node
      (.struct [("name", .string name), ("grade", .enum grade.value)])
      [mark name.toList, grade.name.toList] :=
  .struct node ⟨0, [0]⟩ "Offer" [offerName, offerGrade] [.string name, .enum grade.value]
    [[mark name.toList], [grade.name.toList]] hshape
    (.cons _ _ _ _ _ _ (.primitive _ .string _ _ rfl (.string name hnewline hcomma hlast))
      (.cons _ _ _ _ _ _ (.enum _ grades grade rfl hgrade) .nil))

/-- A row of an offer, a bundle of two and two prices under one key. -/
def shopRow : List (Value × List Char) :=
  [(.struct [("name", .string "a,b\n"), ("grade", .enum 2)], "a\\,b\n,high".toList),
    (.list [.struct [("name", .string "x\\y"), ("grade", .enum 1)],
      .struct [("name", .string ","), ("grade", .enum 2)]], "x\\y,low,\\,,high".toList),
    (.map [(.string "p", .long 3), (.string "p", .long (-4))], "p,3,p,-4".toList)]

/-- The cells of the row hold its values. -/
theorem cells_written_shop_row :
    (resolved [shop]).CellsWritten ((resolved [shop]).columns 0) shopRow := by
  have hlow : ⟨"low", 1⟩ ∈ grades := List.mem_cons_self
  have hhigh : ⟨"high", 2⟩ ∈ grades := List.mem_cons_of_mem _ List.mem_cons_self
  refine .cons ?_ (.cons ?_ (.cons ?_ .nil))
  · exact .flat _ _
      (written_offer _ "a,b\n" ⟨"high", 2⟩ rfl hhigh (by decide) (by decide) (by decide))
  · have hfirst := written_offer bundleOffer "x\\y" ⟨"low", 1⟩ rfl hlow (by decide) (by decide)
      (by decide)
    have hsecond := written_offer bundleOffer "," ⟨"high", 2⟩ rfl hhigh (by decide) (by decide)
      (by decide)
    have hboth := WrittenAll.cons _ _ _ _ _ _ hfirst (.cons _ _ _ _ _ _ hsecond .nil)
    exact .list bundleOffer [_, _] [_, _] rfl hboth (by decide) fun _ => by decide
  · have hprice : ∀ number, (resolved [shop]).Written
        ⟨⟨0, [1, 2]⟩, .primitive ⟨"Shop", ""⟩ .long⟩ (.long number) [decimal number.toInt] :=
      fun number => .primitive _ .long _ _ rfl (.long number)
    have hkey : (resolved [shop]).Written ⟨⟨0, [0, 2]⟩, .primitive ⟨"Shop", ""⟩ .string⟩
        (.string "p") [['p']] :=
      .primitive _ .string _ _ rfl (.string "p" (by decide) (by decide) (by decide))
    exact .dictionary ⟨⟨0, [0, 2]⟩, _⟩ ⟨⟨0, [1, 2]⟩, _⟩
      [(.string "p", .long 3), (.string "p", .long (-4))] _ rfl
      (.cons _ _ _ _ _ _ hkey (.cons _ _ _ _ _ _ (hprice 3)
        (.cons _ _ _ _ _ _ hkey (.cons _ _ _ _ _ _ (hprice (-4)) .nil)))) (by decide)
      fun _ => by decide

/-- Memory holds the values of the row. -/
theorem held_shop_row : ∀ cell ∈ shopRow, cell.1.Held := by
  have hoffer : ∀ name grade,
      (Value.struct [("name", .string name), ("grade", .enum grade)]).Held := fun name grade =>
    .struct _ (List.forall_mem_cons.mpr ⟨.string name, List.forall_mem_singleton.mpr (.enum grade)⟩)
  refine List.forall_mem_cons.mpr ⟨hoffer "a,b\n" 2, List.forall_mem_cons.mpr ⟨?_, ?_⟩⟩
  · refine .list _ (by decide) (List.forall_mem_cons.mpr ⟨hoffer "x\\y" 1, ?_⟩)
    exact List.forall_mem_singleton.mpr (hoffer "," 2)
  · refine List.forall_mem_singleton.mpr (.map _ (by decide) ?_ ?_)
    · exact List.forall_mem_cons.mpr ⟨.string "p", List.forall_mem_singleton.mpr (.string "p")⟩
    · exact List.forall_mem_cons.mpr ⟨.long 3, List.forall_mem_singleton.mpr (.long (-4))⟩

/-- The row is encoded, and decoding it gives the offers with their commas, newlines and backslashes
and the prices in their order. -/
theorem shop_row_survives :
    (resolved [shop]).Built ∧ (resolved [shop]).columns 0 ≠ [] ∧
      (resolved [shop]).CellsWritten ((resolved [shop]).columns 0) shopRow ∧
      ∃ row, (resolved [shop]).encodeRow 0 (writtenCells shopRow) = .ok row ∧
        (resolved [shop]).decodeRow 0 row.wire = .ok (shopRow.map Prod.fst) := by
  have hbuilt : (resolved [shop]).Built := by
    refine built_resolved fun scheme hscheme => ?_
    obtain rfl := List.mem_singleton.mp hscheme
    refine ⟨English.inflector, ["offer", "bundle_1", "prices"],
      ["Struct<string,name,Enum<low,1,high,2>,grade>", "List<@Shop,Offer>", "Map<string,long>"], ?_⟩
    cbv
  have hcolumns : (resolved [shop]).columns 0 ≠ [] := List.cons_ne_nil _ _
  obtain ⟨row, hencode, hdecode⟩ := written_row_survives hbuilt hcolumns cells_written_shop_row
  exact ⟨hbuilt, hcolumns, cells_written_shop_row, row, hencode, hdecode.mpr held_shop_row⟩

end Workspace

end SheetWire
