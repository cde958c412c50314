import SheetWire.Proofs.Row.Padding
import SheetWire.Proofs.Row.Unfolding

/-!
# Empty cells

An empty text is handed on by structs alone, to their subfields, and everything else writes a single
slot for it. `Unfolds` says which nodes that are: the leaves of the unfolding, from the first to the
last. A node unfolds to leaves exactly if it has a width, so the cell is encoded exactly then, and
with as many slots (`empty_text_iff_width`). A list or a dictionary is a leaf, whatever its parts
are.
-/

namespace SheetWire

open Relation Text Number

/-- The slot that is written for no text: the number of elements or entries where there are any to
count, and an empty one otherwise. -/
def Shape.blankSlot : Shape → List Char
  | .list _ => digits 0
  | .dictionary _ _ => digits 0
  | _ => []

/-- Everything is dealt nothing where there is nothing to deal out. -/
theorem zip_deal_nil {α β : Type} {list : List α} {lengths : List Nat}
    (h : list.length = lengths.length) :
    list.zip (deal lengths ([] : List β)) = list.map fun x => (x, []) := by
  induction lengths generalizing list with
  | nil =>
      obtain rfl := List.eq_nil_of_length_eq_zero h
      rfl
  | cons n lengths ih =>
      obtain ⟨x, rest, rfl⟩ := List.exists_cons_of_length_eq_add_one h
      rw [deal, List.take_nil, List.drop_nil, List.zip_cons_cons,
        ih (Nat.succ.inj h), List.map_cons]

namespace Workspace

variable {workspace : Workspace}

mutual

/-- A node unfolds to leaves, in order: what takes a single value is a leaf, and a struct, or a
reference to one, unfolds into its subfields. -/
inductive Unfolds (workspace : Workspace) : Node → List Node → Prop where
  | leaf {node : Node} (hsingle : (workspace.shape node).Single) : Unfolds workspace node [node]
  | struct {node : Node} {place : Place} {typeName : String} {subfields leaves : List Node}
      (hshape : workspace.shape node = .struct place typeName subfields)
      (hsubfields : UnfoldsAll workspace subfields leaves) : Unfolds workspace node leaves

/-- Nodes that stand side by side unfold to leaves one after another. -/
inductive UnfoldsAll (workspace : Workspace) : List Node → List Node → Prop where
  | nil : UnfoldsAll workspace [] []
  | cons {node : Node} {rest front back : List Node} (hnode : Unfolds workspace node front)
      (hrest : UnfoldsAll workspace rest back) : UnfoldsAll workspace (node :: rest) (front ++ back)

end

/-- The slots that are written for no text at some leaves. -/
def blankSlots (workspace : Workspace) (leaves : List Node) : Slots :=
  leaves.map fun leaf => (workspace.shape leaf).blankSlot

/-- Nodes that each unfold to leaves do so side by side. -/
theorem exists_unfolds_all {nodes : List Node}
    (h : ∀ node ∈ nodes, ∃ leaves, workspace.Unfolds node leaves) :
    ∃ leaves, workspace.UnfoldsAll nodes leaves := by
  induction nodes with
  | nil => exact ⟨[], .nil⟩
  | cons node rest ih =>
      obtain ⟨front, hfront⟩ := h node List.mem_cons_self
      obtain ⟨back, hback⟩ := ih fun other hother => h other (List.mem_cons_of_mem node hother)
      exact ⟨front ++ back, .cons hfront hback⟩

/-- What has a width unfolds to leaves. -/
theorem exists_unfolds {node : Node} {width : Nat} (h : workspace.width node = .ok width) :
    ∃ leaves, workspace.Unfolds node leaves := by
  refine width_induction (motive := fun node => ∃ leaves, workspace.Unfolds node leaves) ?_ ?_ h
  · exact fun node hsingle => ⟨[node], .leaf hsingle⟩
  · intro node place typeName subfields hshape ih
    obtain ⟨leaves, hleaves⟩ := exists_unfolds_all ih
    exact ⟨leaves, .struct hshape hleaves⟩

/-! ### No text -/

/-- What takes a single value writes its blank slot for no text. -/
theorem portions_of_leaf {node : Node} (h : (workspace.shape node).Single) :
    workspace.portions node [] = .ok ([(workspace.shape node).blankSlot], []) := by
  unfold portions
  cases hshape : workspace.shape node with
  | primitive | list | dictionary | enum => rfl
  | struct place typeName subfields =>
      rw [hshape] at h
      exact h.elim
  | unbound target =>
      rw [hshape] at h
      exact h.elim

/-- The portions of no text encode as no text for each of the nodes. -/
theorem encode_dealt_nil {bound : Nat} {nodes : List Node} {widths : List Nat}
    (hwidths : workspace.widths nodes = .ok widths) :
    workspace.encodePortions bound ((nodes.zip (deal widths (List.splitOn ',' []))).map
        fun (node, group) => (node, [','].intercalate group)) =
      concatSlots (fun node => workspace.encodeWithin bound node []) nodes := by
  have hall := widths_eq_ok.mp hwidths
  have halike : List.Forall₂ workspace.PadsAlike nodes widths :=
    hall.imp fun _ _ hwidth => pads_alike_of_width hwidth
  -- One empty value is dealt out like none at all.
  have hgroups : List.Forall₂ workspace.GroupsAlike
      (nodes.zip (deal widths ([] ++ List.replicate 1 []))) (nodes.zip (deal widths [])) :=
    groups_alike_of_deal halike fun part hpart => absurd hpart List.not_mem_nil
  refine (encode_portions_of_groups hgroups).trans ?_
  rw [encodePortions, zip_deal_nil hall.length_eq, List.map_map, concat_slots_map]
  rfl

mutual

/-- A node that unfolds to leaves takes as many values, and no text is encoded as their blank
slots. -/
theorem settles_of_unfolds (hfilled : workspace.Filled) {node : Node} {leaves : List Node}
    (hnode : node ∈ workspace.nodes) (h : workspace.Unfolds node leaves) :
    workspace.width node = .ok leaves.length ∧
      ∀ bound, Settles (workspace.encodeWithin bound node []) (.ok (workspace.blankSlots leaves)) :=
  match h with
  | .leaf hsingle => by
      refine ⟨width_from_single hsingle, fun bound => ?_⟩
      cases bound with
      | zero => exact .inl ⟨node.label, rfl⟩
      | succ bound => exact encode_settles (portions_of_leaf hsingle) .nil
  | .struct hshape hsubfields => by
      obtain ⟨widths, hwidths, hsum, hsettles⟩ := settles_of_unfolds_all hfilled
        (mem_nodes_of_subfield hnode hshape) hsubfields
      have hwidth := width_of_widths hnode hshape hwidths
      refine ⟨hsum ▸ hwidth, fun bound => ?_⟩
      cases bound with
      | zero => exact .inl ⟨node.label, rfl⟩
      | succ bound =>
          have hpos : (List.splitOn ',' []).length ≤ widths.sum := width_pos hfilled hnode hwidth
          rw [encode_within_succ, portions_of_struct hshape hwidths hpos]
          show Settles (workspace.encodePortions bound _ >>= _) _
          rw [encode_dealt_nil hwidths]
          exact (hsettles bound).bind_ok (.inr rfl)

/-- Nodes side by side that unfold to leaves take as many values together, and no text is encoded
as their blank slots. -/
theorem settles_of_unfolds_all (hfilled : workspace.Filled) {nodes leaves : List Node}
    (hnodes : ∀ node ∈ nodes, node ∈ workspace.nodes) (h : workspace.UnfoldsAll nodes leaves) :
    ∃ widths, workspace.widths nodes = .ok widths ∧ widths.sum = leaves.length ∧
      ∀ bound, Settles (concatSlots (fun node => workspace.encodeWithin bound node []) nodes)
        (.ok (workspace.blankSlots leaves)) :=
  match h with
  | .nil => ⟨[], rfl, rfl, fun _ => .inr rfl⟩
  | .cons hfirst hrest => by
      obtain ⟨hnode, hothers⟩ := List.forall_mem_cons.mp hnodes
      obtain ⟨hwidth, hsettles⟩ := settles_of_unfolds hfilled hnode hfirst
      obtain ⟨widths, hwidths, hsum, hrestSettles⟩ :=
        settles_of_unfolds_all hfilled hothers hrest
      refine ⟨_ :: widths, widths_eq_ok.mpr (.cons hwidth (widths_eq_ok.mp hwidths)), ?_,
        fun bound => ?_⟩
      · rw [List.sum_cons, hsum, List.length_append]
      · rw [blankSlots, List.map_append]
        exact (hsettles bound).bind_ok ((hrestSettles bound).bind_ok (.inr rfl))

end

/-- A call of the encoding ends if all that it makes do. -/
theorem encoding_ends_of_inner {node : Node} {text : List Char} (hnode : node ∈ workspace.nodes)
    (h : ∀ inner, workspace.Hands (node, text) inner → workspace.encoding.Ends inner) :
    workspace.encoding.Ends (node, text) :=
  BoundedRecursion.ends_of_inner (covers_encoding hnode text) h

/-- Encoding no text ends for a node that has a width: only structs hand it on, to their
subfields. -/
theorem encoding_ends_nil_of_width {node : Node} {width : Nat} (hnode : node ∈ workspace.nodes)
    (hwidth : workspace.width node = .ok width) : workspace.encoding.Ends (node, []) := by
  refine width_induction (motive := fun node =>
    node ∈ workspace.nodes → workspace.encoding.Ends (node, [])) ?_ ?_ hwidth hnode
  · intro node hsingle hnode
    refine encoding_ends_of_inner hnode fun inner hcall => ?_
    obtain ⟨slots, list, hportions, hmem⟩ := hcall
    obtain ⟨place, typeName, subfields, hshape⟩ :=
      struct_of_portions_nil hportions (List.ne_nil_of_mem hmem)
    rw [hshape] at hsingle
    exact hsingle.elim
  · intro node place typeName subfields hshape ih hnode
    refine encoding_ends_of_inner hnode fun inner hcall => ?_
    obtain ⟨slots, list, hportions, hmem⟩ := hcall
    obtain ⟨part, text⟩ := inner
    have hpart := (mem_portions hportions hmem).1
    obtain rfl := portion_of_nil hportions hmem
    refine ih part ?_ (mem_nodes_of_part hnode hpart)
    unfold parts at hpart
    rwa [hshape] at hpart

/-- Encoding no text ends. -/
theorem encoding_ends_nil {node : Node} (hnode : node ∈ workspace.nodes) :
    workspace.encoding.Ends (node, []) := by
  refine encoding_ends_of_inner hnode fun inner hcall => ?_
  obtain ⟨slots, list, hportions, hmem⟩ := hcall
  obtain ⟨part, text⟩ := inner
  obtain ⟨hpart, -, width, -, -, hwidth, -⟩ := mem_portions hportions hmem
  obtain rfl := portion_of_nil hportions hmem
  exact encoding_ends_nil_of_width (mem_nodes_of_part hnode hpart) hwidth

/-! ### Values behind empty ones -/

/-- A portion that encodes like no text, for a node that has a width. -/
structure BlankPortion (workspace : Workspace) (portion : Node × List Char) : Prop where
  mem_nodes : portion.1 ∈ workspace.nodes
  width : ∃ width, workspace.width portion.1 = .ok width
  encode : ∀ bound, workspace.encodeWithin bound portion.1 portion.2 =
    workspace.encodeWithin bound portion.1 []

/-- Such a portion is encoded as some slots. -/
theorem BlankPortion.settles (hfilled : workspace.Filled) {portion : Node × List Char}
    (h : workspace.BlankPortion portion) (bound : Nat) :
    ∃ slots, Settles (workspace.encodeWithin bound portion.1 portion.2) (.ok slots) := by
  obtain ⟨width, hwidth⟩ := h.width
  obtain ⟨leaves, hleaves⟩ := exists_unfolds hwidth
  rw [h.encode bound]
  exact ⟨_, (settles_of_unfolds hfilled h.mem_nodes hleaves).2 bound⟩

/-- Encoding such a portion ends. -/
theorem BlankPortion.ends {portion : Node × List Char} (h : workspace.BlankPortion portion) :
    workspace.encoding.Ends portion := by
  obtain ⟨bound, hbound⟩ := encoding_ends_nil h.mem_nodes
  refine ⟨bound, ?_⟩
  show ¬ Endless (workspace.encodeWithin bound portion.1 portion.2)
  rw [h.encode bound]
  exact hbound

/-- Empty values that are dealt out to nodes are such portions. -/
theorem blank_portion_of_mem {nodes : List Node} {widths : List Nat} {parts : List (List Char)}
    {portion : Node × List Char} (hnodes : ∀ node ∈ nodes, node ∈ workspace.nodes)
    (hwidths : workspace.widths nodes = .ok widths) (hparts : ∀ part ∈ parts, part = [])
    (h : portion ∈
      (nodes.zip (deal widths parts)).map fun (node, group) => (node, [','].intercalate group)) :
    workspace.BlankPortion portion := by
  obtain ⟨⟨node, group⟩, hpair, rfl⟩ := List.mem_map.mp h
  obtain ⟨hnode, width, hwidth, hinside, hlength⟩ := mem_zip_deal hwidths hpair
  have hgroup : group = [] ++ List.replicate group.length [] :=
    List.eq_replicate_of_mem fun part hpart => hparts part (hinside.subset hpart)
  refine ⟨hnodes node hnode, ⟨width, hwidth⟩, fun bound => ?_⟩
  have halike : workspace.GroupsAlike (node, [] ++ List.replicate group.length []) (node, []) :=
    (pads_alike_of_width hwidth).group (fun part hpart => absurd hpart List.not_mem_nil)
      (by rwa [List.length_nil, Nat.zero_add])
  rw [← hgroup] at halike
  exact halike bound

/-- A value, or some values, behind empty ones. -/
def afterBlanks (count : Nat) (value : List Char) : List Char :=
  List.replicate count ',' ++ value

/-- The parts of such a text. -/
theorem splitOn_after_blanks (count : Nat) (value : List Char) :
    (afterBlanks count value).splitOn ',' = List.replicate count [] ++ value.splitOn ',' := by
  induction count with
  | zero => rfl
  | succ count ih =>
      show (',' :: afterBlanks count value).splitOn ',' = _
      rw [splitOn_cons_self, ih]
      rfl

/-- Values behind empty ones, dealt out so that they fall to a width: what stands before gets empty
values, and what comes after gets none. -/
theorem deal_after_blanks {front after : List Nat} {width count : Nat} {value : List Char}
    (hcount : (value.splitOn ',').length + count ≤ width) :
    deal (front ++ width :: after) ((afterBlanks (front.sum + count) value).splitOn ',') =
      deal front (List.replicate front.sum []) ++
        (afterBlanks count value).splitOn ',' :: deal after [] := by
  have hcut : (afterBlanks (front.sum + count) value).splitOn ',' =
      List.replicate front.sum [] ++ (afterBlanks count value).splitOn ',' := by
    rw [splitOn_after_blanks, splitOn_after_blanks, List.replicate_add, List.append_assoc]
  have htake : ((afterBlanks count value).splitOn ',').length ≤ width := by
    rw [splitOn_after_blanks, List.length_append, List.length_replicate]
    omega
  rw [hcut, deal_append List.length_replicate, deal, List.take_of_length_le htake,
    List.drop_of_length_le htake]

/-- A text whose values stand where a part has its own is handed on to the part; the parts before it
get empty values and those after it no text. -/
theorem portions_after_blanks {node part : Node} {before after : List Node} {widths : List Nat}
    (hnode : node ∈ workspace.nodes) (hparts : workspace.parts node = before ++ part :: after)
    (hwidths : workspace.widths (workspace.parts node) = .ok widths) :
    ∃ front width, workspace.width part = .ok width ∧ front + width ≤ widths.sum ∧
      (before = [] → front = 0) ∧
      ∀ value count, value ≠ [] → (value.splitOn ',').length + count ≤ width →
        ∃ own ahead behind, workspace.portions node (afterBlanks (front + count) value) =
            .ok (own, ahead ++ (part, afterBlanks count value) :: behind) ∧
          (∀ portion ∈ ahead, workspace.BlankPortion portion) ∧
          ∀ portion ∈ behind, workspace.BlankPortion portion := by
  have hsplit := hwidths
  rw [hparts, widths_append] at hsplit
  obtain ⟨beforeWidths, rest, hbefore, hrest, rfl⟩ := hsplit
  obtain ⟨width, hwidth, hrest⟩ := bind_eq_ok.mp hrest
  obtain ⟨afterWidths, hafter, hrest⟩ := bind_eq_ok.mp hrest
  cases hrest
  have hlength : before.length = beforeWidths.length := (widths_eq_ok.mp hbefore).length_eq
  refine ⟨beforeWidths.sum, width, hwidth, ?_, ?_, fun value count hvalue hcount => ?_⟩
  · simp only [List.sum_append, List.sum_cons]
    omega
  · intro hnil
    rw [hnil] at hbefore
    cases hbefore
    rfl
  · have hfits : ((afterBlanks (beforeWidths.sum + count) value).splitOn ',').length ≤
        (beforeWidths ++ width :: afterWidths).sum := by
      rw [splitOn_after_blanks]
      simp only [List.length_append, List.length_replicate, List.sum_append, List.sum_cons]
      omega
    have htext : afterBlanks (beforeWidths.sum + count) value ≠ [] :=
      List.append_ne_nil_of_right_ne_nil _ hvalue
    obtain ⟨own, hportions⟩ := portions_of_length_le
      (by rw [hparts]; exact List.append_ne_nil_of_right_ne_nil _ (List.cons_ne_nil _ _))
      htext hwidths hfits
    rw [hparts, deal_after_blanks hcount, List.zip_append (by rw [length_deal, hlength]),
      List.zip_cons_cons, List.map_append, List.map_cons] at hportions
    simp only [List.intercalate_splitOn] at hportions
    have hpartsNodes : ∀ other ∈ before ++ part :: after, other ∈ workspace.nodes :=
      fun other hother => mem_nodes_of_part hnode (hparts ▸ hother)
    refine ⟨own, _, _, hportions, fun portion hmem => ?_, fun portion hmem => ?_⟩
    · exact blank_portion_of_mem
        (fun other hother => hpartsNodes other (List.mem_append_left _ hother)) hbefore
        (fun part hpart => List.eq_of_mem_replicate hpart) hmem
    · exact blank_portion_of_mem
        (fun other hother => hpartsNodes other
          (List.mem_append_right _ (List.mem_cons_of_mem _ hother))) hafter
        (fun part hpart => absurd hpart List.not_mem_nil) hmem

/-! ### The empty text -/

/-- Encoding the empty text comes to an end. -/
theorem encode_empty_text {node : Node} (hnode : node ∈ workspace.nodes) :
    ∃ bound, ¬ Endless (workspace.encodeWithin bound node []) ∧
      workspace.encodeText node "" = workspace.encodeWithin bound node [] := by
  obtain ⟨bound, hbound⟩ := encoding_ends_nil hnode
  exact ⟨bound, hbound, encode_text_of_ends hnode hbound⟩

/-- No slot that is written for no text holds a comma. -/
theorem comma_notMem_blank_slots {leaves : List Node} :
    ∀ slot ∈ workspace.blankSlots leaves, ',' ∉ slot := by
  intro slot hslot
  obtain ⟨leaf, -, rfl⟩ := List.mem_map.mp hslot
  cases workspace.shape leaf with
  | list | dictionary => exact show ',' ∉ digits 0 by decide
  | primitive | struct | enum | unbound => exact List.not_mem_nil

/-- The empty text is encoded as the blank slots of the leaves of a node that has a width. -/
theorem encode_empty_of_width (hfilled : workspace.Filled) {node : Node} {width : Nat}
    (hnode : node ∈ workspace.nodes) (hwidth : workspace.width node = .ok width) :
    ∃ leaves, workspace.Unfolds node leaves ∧ leaves.length = width ∧
      workspace.encodeText node "" = .ok (workspace.blankSlots leaves) := by
  obtain ⟨bound, hends, hencode⟩ := encode_empty_text hnode
  obtain ⟨leaves, hleaves⟩ := exists_unfolds hwidth
  obtain ⟨hlength, hsettles⟩ := settles_of_unfolds hfilled hnode hleaves
  refine ⟨leaves, hleaves, Except.ok.inj (hlength.symm.trans hwidth), ?_⟩
  rw [hencode]
  exact (hsettles bound).resolve_left hends

/-- The empty text is encoded for every node, and it gives slots exactly if the node has a width.
The node then unfolds to as many leaves, and there is one slot for each of them, in order. It fails
exactly if a way down through subfields stops at a reference without a target or at a struct that
it has entered already; what is behind a list or a dictionary does not matter. -/
theorem empty_text_iff_width (hbuilt : workspace.Built) {node : Node}
    (hnode : node ∈ workspace.nodes) :
    ¬ Endless (workspace.encodeText node "") ∧
    ((∃ slots, workspace.encodeText node "" = .ok slots) ↔
      ∃ width, workspace.width node = .ok width) ∧
    (∀ slots width, workspace.encodeText node "" = .ok slots → workspace.width node = .ok width →
      slots.length = width ∧ ([','].intercalate slots).splitOn ',' = slots ∧
      ∃ leaves, workspace.Unfolds node leaves ∧
        slots = leaves.map fun leaf => (workspace.shape leaf).blankSlot) ∧
    ((∃ e, workspace.encodeText node "" = .error e) ↔
      ∃ way failure, workspace.Stops [] node way (some failure)) := by
  have hfilled := filled_of_built hbuilt
  obtain ⟨bound, hends, hencode⟩ := encode_empty_text hnode
  have hwidth : ∀ slots, workspace.encodeText node "" = .ok slots →
      ∃ width, workspace.width node = .ok width := by
    intro slots hslots
    exact width_of_encoded hnode (hencode ▸ hslots)
  refine ⟨hencode ▸ hends, ⟨fun ⟨slots, hslots⟩ => hwidth slots hslots, fun ⟨width, h⟩ => ?_⟩,
    fun slots width hslots h => ?_, ⟨fun ⟨e, he⟩ => ?_, fun ⟨way, failure, hway⟩ => ?_⟩⟩
  · obtain ⟨leaves, -, -, hslots⟩ := encode_empty_of_width hfilled hnode h
    exact ⟨_, hslots⟩
  · obtain ⟨leaves, hleaves, hlength, hblank⟩ := encode_empty_of_width hfilled hnode h
    obtain rfl := Except.ok.inj (hslots.symm.trans hblank)
    have hslotsLength : (workspace.blankSlots leaves).length = width := by
      rw [blankSlots, List.length_map, hlength]
    have hnonempty : workspace.blankSlots leaves ≠ [] :=
      List.ne_nil_of_length_pos (hslotsLength ▸ width_pos hfilled hnode h)
    exact ⟨hslotsLength, List.splitOn_intercalate ',' comma_notMem_blank_slots hnonempty, leaves,
      hleaves, rfl⟩
  · cases h : workspace.width node with
    | ok width =>
        obtain ⟨leaves, -, -, hslots⟩ := encode_empty_of_width hfilled hnode h
        exact nomatch hslots.symm.trans he
    | error failure =>
        have hdescribes := width_describes hnode
        rw [h] at hdescribes
        obtain ⟨way, hway, -⟩ := hdescribes
        exact ⟨way, failure, hway⟩
  · cases h : workspace.encodeText node "" with
    | error e => exact ⟨e, rfl⟩
    | ok slots =>
        obtain ⟨width, hfound⟩ := hwidth slots h
        have hdescribes := width_describes hnode
        rw [hfound] at hdescribes
        exact absurd hway (hdescribes.1 way failure)

/-- A camp with a size and a list of heroes. -/
def camp : Node :=
  ⟨⟨0, [0]⟩, .struct ⟨"Camps", "camp"⟩ "Camp" [.primitive ⟨"Camps", "size"⟩ .int,
    .list ⟨"Camps", "heroes"⟩ (.reference ⟨"Camps", ""⟩ ⟨"Heroes", "Hero"⟩)]⟩

/-- The hero that leads a camp. -/
def leader : Node :=
  ⟨⟨0, [1]⟩, .reference ⟨"Camps", "leader"⟩ ⟨"Heroes", "Hero"⟩⟩

/-- A table of camps. -/
def camps : Scheme :=
  ⟨"Camps", [camp.field, leader.field]⟩

/-- Without a table of heroes an empty camp has a size and no heroes, and an empty leader fails. -/
theorem empty_camp_encoded :
    (resolved [camps]).Built ∧ camp ∈ (resolved [camps]).nodes ∧
    leader ∈ (resolved [camps]).nodes ∧
    (∃ leaves, (resolved [camps]).Unfolds camp leaves ∧
      [[], ['0']] = leaves.map fun leaf => ((resolved [camps]).shape leaf).blankSlot) ∧
    ∃ e, (resolved [camps]).encodeText leader "" = .error e := by
  have hbuilt : (resolved [camps]).Built := by
    refine built_resolved fun scheme hscheme => ?_
    obtain rfl := List.mem_singleton.mp hscheme
    refine ⟨English.inflector, ["camp", "leader"],
      ["Struct<int,size,List<@Heroes,Hero>,heroes>", "@Heroes,Hero"], ?_⟩
    cbv
  have hcamp : camp ∈ (resolved [camps]).nodes := columns_subset_nodes _ 0 List.mem_cons_self
  have hleader : leader ∈ (resolved [camps]).nodes :=
    columns_subset_nodes _ 0 (List.mem_cons_of_mem _ (List.mem_singleton_self _))
  refine ⟨hbuilt, hcamp, hleader, ?_, ?_⟩
  · have hslots : (resolved [camps]).encodeText camp "" = .ok [[], ['0']] := by cbv
    have hwidth : (resolved [camps]).width camp = .ok 2 := by cbv
    exact ((empty_text_iff_width hbuilt hcamp).2.2.1 _ 2 hslots hwidth).2.2
  · exact (empty_text_iff_width hbuilt hleader).2.2.2.mpr ⟨[], _, .unbound rfl⟩

end Workspace

end SheetWire
