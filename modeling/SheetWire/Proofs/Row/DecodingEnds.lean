import SheetWire.Proofs.Definition.Filled
import SheetWire.Proofs.Loops
import SheetWire.Proofs.Row.Columns
import SheetWire.Workspace.Resolution

/-!
# When decoding ends

Decoding a value takes at least one slot, so it comes back to a node with fewer slots left, unless
it has only gone along first subfields, for which nothing is read. So it runs out of stack exactly
where it comes to a node from which the way along first subfields returns, and out of memory exactly
where it comes to a number of elements that there is no room for. `decoding_ends_iff` says this of
the rows and tables of a scheme, and of the first way also when a scheme has a text for it.
-/

namespace SheetWire.Workspace

open Relation Text

section Endings

variable [Memory] {workspace : Workspace}

/-- A struct and its first subfield, which is decoded before any slot is taken. -/
def Leads (workspace : Workspace) (node first : Node) : Prop :=
  ∃ place typeName others, workspace.shape node = .struct place typeName (first :: others)

/-- A node and a part of it that decoding can come to: the parts before it have widths. -/
def ReadsInto (workspace : Workspace) (node part : Node) : Prop :=
  ∃ before after, workspace.parts node = before ++ part :: after ∧
    ∃ widths, workspace.widths before = .ok widths

/-- Whether decoding the node can come to something from which the way along first subfields
returns. -/
def RecursDecoding (workspace : Workspace) (node : Node) : Prop :=
  ∃ inner, ReflTransGen workspace.ReadsInto node inner ∧ Returns workspace.Leads inner

/-- Whether decoding a row of a scheme can come to a column for which decoding recurs. -/
def RecursDecodingRow (workspace : Workspace) (number : Nat) : Prop :=
  ∃ before column after, workspace.columns number = before ++ column :: after ∧
    (∃ widths, workspace.widths before = .ok widths) ∧ workspace.RecursDecoding column

omit [Memory] in
/-- The first subfield is a part that decoding can come to. -/
theorem Leads.reads_into {node first : Node} (h : workspace.Leads node first) :
    workspace.ReadsInto node first := by
  obtain ⟨place, typeName, others, hshape⟩ := h
  refine ⟨[], others, ?_, [], rfl⟩
  unfold parts
  rw [hshape]
  rfl

omit [Memory] in
/-- A part that decoding can come to is a node of the workspace. -/
theorem ReadsInto.mem_nodes {node part : Node} (hnode : node ∈ workspace.nodes)
    (h : workspace.ReadsInto node part) : part ∈ workspace.nodes := by
  obtain ⟨before, after, hparts, -⟩ := h
  refine mem_nodes_of_part hnode ?_
  rw [hparts]
  exact List.mem_append_right _ List.mem_cons_self

omit [Memory] in
/-- A column is a node of the workspace. -/
theorem mem_nodes_of_column {number : Nat} {before after : List Node} {column : Node}
    (h : workspace.columns number = before ++ column :: after) : column ∈ workspace.nodes := by
  refine columns_subset_nodes workspace number ?_
  rw [h]
  exact List.mem_append_right _ List.mem_cons_self

omit [Memory] in
/-- The way along first subfields stays among the nodes. -/
theorem mem_nodes_of_leads {node inner : Node} (hnode : node ∈ workspace.nodes)
    (h : ReflTransGen workspace.Leads node inner) : inner ∈ workspace.nodes := by
  induction h with
  | refl => exact hnode
  | tail _ hstep ih => exact hstep.reads_into.mem_nodes ih

omit [Memory] in
/-- Nodes that all have a width have widths side by side. -/
theorem exists_widths {nodes : List Node}
    (h : ∀ node ∈ nodes, ∃ width, workspace.width node = .ok width) :
    ∃ widths, workspace.widths nodes = .ok widths := by
  induction nodes with
  | nil => exact ⟨[], rfl⟩
  | cons node rest ih =>
      obtain ⟨first, hfirst⟩ := h node List.mem_cons_self
      obtain ⟨others, hothers⟩ := ih fun other hother => h other (List.mem_cons_of_mem node hother)
      exact ⟨first :: others, widths_eq_ok.mpr (.cons hfirst (widths_eq_ok.mp hothers))⟩

/-- What is decoded has a width. -/
theorem width_of_decode {bound : Nat} {node : Node} {reader after : Reader} {value : Value}
    (hnode : node ∈ workspace.nodes)
    (h : workspace.decodeWithin bound node reader = .ok value after) :
    ∃ width, workspace.width node = .ok width := by
  induction bound generalizing node reader value after with
  | zero => exact nomatch h
  | succ bound ih =>
      rw [decode_within_succ] at h
      obtain ⟨⟨nodes, assemble⟩, between, hopening, h⟩ := Reading.bind_eq_ok.mp h
      obtain ⟨values, heach, -⟩ := Reading.map_eq_ok.mp h
      rcases shape_cases workspace node with ⟨_, _, _, hshape⟩ | hsingle | ⟨_, hshape⟩
      · rw [opening_of_struct hshape] at hopening
        cases hopening
        have hwidths : ∀ subfield ∈ nodes, ∃ width, workspace.width subfield = .ok width := by
          intro subfield hsubfield
          obtain ⟨start, result, last, hdecode⟩ := Reading.exists_of_each heach hsubfield
          exact ih (mem_nodes_of_subfield hnode hshape subfield hsubfield) hdecode
        obtain ⟨widths, hall⟩ := exists_widths hwidths
        exact ⟨widths.sum, width_of_widths hnode hshape hall⟩
      · exact ⟨1, width_from_single hsingle⟩
      · rw [opening_of_unbound hshape] at hopening
        exact nomatch hopening

/-- Decoding a value takes at least one slot. -/
theorem length_lt_of_decode (hfilled : workspace.Filled) {bound : Nat} {node : Node}
    {reader after : Reader} {value : Value} (hnode : node ∈ workspace.nodes)
    (h : workspace.decodeWithin bound node reader = .ok value after) :
    after.slots.length < reader.slots.length := by
  induction bound generalizing node reader value after with
  | zero => exact nomatch h
  | succ bound ih =>
      rw [decode_within_succ] at h
      obtain ⟨⟨nodes, assemble⟩, between, hopening, h⟩ := Reading.bind_eq_ok.mp h
      obtain ⟨values, heach, -⟩ := Reading.map_eq_ok.mp h
      have hlocal : ∀ list : List Node,
          Reading.Local (Reading.each (workspace.decodeWithin bound) list) :=
        fun list => Reading.Local.each fun part _ => local_decode_within bound part
      rcases shape_cases workspace node with ⟨_, _, _, hshape⟩ | hsingle | ⟨_, hshape⟩
      · rw [opening_of_struct hshape] at hopening
        cases hopening
        cases nodes with
        | nil => exact absurd rfl (hfilled.subfields_ne_nil hnode hshape)
        | cons first others =>
            obtain ⟨value, rest, middle, hfirst, hothers, -⟩ := Reading.each_cons_eq_ok.mp heach
            have hlt := ih (mem_nodes_of_subfield hnode hshape first List.mem_cons_self) hfirst
            have hle := ((hlocal others).advances hothers).length_le
            omega
      · obtain ⟨text, hslots⟩ := slots_of_opening hsingle hopening
        have hle := ((hlocal nodes).advances heach).length_le
        rw [hslots, List.length_cons]
        omega
      · rw [opening_of_unbound hshape] at hopening
        exact nomatch hopening

/-- What decoding comes to is a part that it can come to. If no slot has been taken on the way, the
part is the first subfield. -/
theorem reads_into_of_comes_to (hfilled : workspace.Filled) {node part : Node}
    {reader between : Reader} (hnode : node ∈ workspace.nodes)
    (h : workspace.ComesTo (node, reader) (part, between)) :
    workspace.ReadsInto node part ∧
      (between.slots.length < reader.slots.length ∨ workspace.Leads node part) := by
  obtain ⟨-, -, htaken⟩ := part_of_comes_to h
  obtain ⟨nodes, assemble, after, before, rest, bound, values, hopening, hnodes, hbefore⟩ := h
  dsimp only at hopening hnodes hbefore
  obtain ⟨front, back, hparts, hfront⟩ := mem_opening hopening hnodes
  refine ⟨⟨front, back, hparts, exists_widths fun earlier hearlier => ?_⟩, ?_⟩
  · obtain ⟨start, result, last, hdecode⟩ := Reading.exists_of_each hbefore (hfront hearlier)
    refine width_of_decode (mem_nodes_of_part hnode ?_) hdecode
    rw [hparts]
    exact List.mem_append_left _ hearlier
  · rcases shape_cases workspace node with ⟨place, typeName, _, hshape⟩ | hsingle | ⟨_, hshape⟩
    · rw [opening_of_struct hshape] at hopening
      cases hopening
      -- The first subfield is decoded where the struct starts, and any other behind a value.
      cases before with
      | nil =>
          rw [hnodes] at hshape
          exact .inr ⟨place, typeName, rest, hshape⟩
      | cons first others =>
          left
          obtain ⟨value, _, middle, hfirst, hothers, -⟩ := Reading.each_cons_eq_ok.mp hbefore
          have hmem : first ∈ nodes := by
            rw [hnodes]
            exact List.mem_cons_self
          have hlt :=
            length_lt_of_decode hfilled (mem_nodes_of_subfield hnode hshape first hmem) hfirst
          have hrest : Reading.Local (Reading.each (workspace.decodeWithin bound) others) :=
            Reading.Local.each fun part _ => local_decode_within bound part
          have hle := (hrest.advances hothers).length_le
          omega
    · exact .inl (htaken hsingle)
    · rw [opening_of_unbound hshape] at hopening
      exact nomatch hopening

/-- Whatever decoding comes to, it can come to. -/
theorem reads_into_of_reaches (hfilled : workspace.Filled) {start call : Node × Reader}
    (hnode : start.1 ∈ workspace.nodes) (h : ReflTransGen workspace.ComesTo start call) :
    ReflTransGen workspace.ReadsInto start.1 call.1 := by
  induction h with
  | refl => exact .refl
  | tail hreaches hstep ih =>
      exact ih.tail (reads_into_of_comes_to hfilled (mem_nodes_of_comes_to hnode hreaches) hstep).1

/-- Decoding ends where it comes to nothing from which the way along first subfields returns. -/
theorem decoding_ends (hfilled : workspace.Filled) {node : Node} {reader : Reader}
    (hnode : node ∈ workspace.nodes)
    (h : ∀ call, ReflTransGen workspace.ComesTo (node, reader) call →
      ¬ Returns workspace.Leads call.1) : workspace.decoding.Ends (node, reader) := by
  induction hlength : reader.slots.length using Nat.strong_induction_on
    generalizing node reader with
  | _ length ih =>
      have hacc : Acc (flip workspace.Leads) node :=
        acc_of_not_returns (fun inner hinner => mem_nodes_of_leads hnode hinner) (h _ .refl)
      -- Parts with fewer slots left are settled by the induction on the slots, and the first
      -- subfield, for which as many are left, by the way along first subfields coming to an end.
      induction hacc with
      | intro node _ ihfirst =>
          refine BoundedRecursion.ends_of_inner (covers_decoding hnode reader) fun inner hcall => ?_
          obtain ⟨part, between⟩ := inner
          obtain ⟨hinto, hbetween⟩ := reads_into_of_comes_to hfilled hnode hcall
          have hpart := hinto.mem_nodes hnode
          have hinner : ∀ call, ReflTransGen workspace.ComesTo (part, between) call →
              ¬ Returns workspace.Leads call.1 := fun call hreaches => h call (.head hcall hreaches)
          have hadvances : Reading.Advances reader between := advances_of_comes_to (.single hcall)
          rcases Nat.lt_or_ge between.slots.length length with hlt | hge
          · exact ih between.slots.length hlt hpart hinner rfl
          · have hle := hadvances.length_le
            have hsame : between = reader := hadvances.eq_of_length (by omega)
            subst hsame
            exact ihfirst part (hbetween.resolve_left (Nat.lt_irrefl _)) hpart hinner

/-- Where the way along first subfields returns, every bound is too small. -/
theorem endless_decode_of_returns {node : Node} (bound : Nat) (reader : Reader)
    (h : Returns workspace.Leads node) :
    Reading.Endless (workspace.decodeWithin bound node reader) := by
  induction bound generalizing node with
  | zero => exact ⟨node.label, reader, rfl⟩
  | succ bound ih =>
      obtain ⟨first, ⟨place, typeName, others, hshape⟩, hreturns⟩ := h.exists_step
      refine endless_decode_within_succ.mpr
        ⟨_, _, reader, by rw [opening_of_struct hshape]; rfl, ?_⟩
      have hbefore : Reading.each (workspace.decodeWithin bound) [] reader = .ok [] reader := rfl
      exact Reading.endless_each_of_mid hbefore (ih hreturns)

/-- Where decoding comes to something for which every bound is too small, every bound is too
small. -/
theorem endless_of_comes_to {start call : Node × Reader}
    (h : ReflTransGen workspace.ComesTo start call)
    (hendless : ∀ bound, Reading.Endless (workspace.decodeWithin bound call.1 call.2))
    (bound : Nat) : Reading.Endless (workspace.decodeWithin bound start.1 start.2) := by
  induction h using ReflTransGen.head_induction_on generalizing bound with
  | refl => exact hendless bound
  | head hstep _ ih =>
      obtain ⟨nodes, assemble, after, before, rest, enough, values, hopening, rfl, hbefore⟩ :=
        hstep
      cases bound with
      | zero => exact ⟨_, _, rfl⟩
      | succ bound =>
          refine endless_decode_within_succ.mpr ⟨_, assemble, after, hopening, ?_⟩
          by_cases hfront : Reading.Endless
              (Reading.each (workspace.decodeWithin bound) before after)
          · exact Reading.endless_each_append hfront
          · have hsame := Reading.each_congr (fun _ _ _ _ _ _ _ hpart =>
              decode_within_of_le (Nat.le_max_left bound enough) hpart) hfront
            rw [each_decode_of_le (Nat.le_max_right bound enough) hbefore] at hsame
            exact Reading.endless_each_of_mid hsame.symm (ih bound)

/-- Decoding does not end exactly where it comes to something from which the way along first
subfields returns. -/
theorem endless_decode_node_iff (hfilled : workspace.Filled) {node : Node} {reader : Reader}
    (hnode : node ∈ workspace.nodes) :
    Reading.Endless (workspace.decodeNode node reader) ↔
      ∃ call, ReflTransGen workspace.ComesTo (node, reader) call ∧
        Returns workspace.Leads call.1 := by
  constructor
  · intro hendless
    by_contra hreturns
    obtain ⟨bound, hends⟩ := decoding_ends hfilled hnode fun call hcall hloop =>
      hreturns ⟨call, hcall, hloop⟩
    rw [decode_node_of_ends hnode hends] at hendless
    exact hends hendless
  · intro h
    obtain ⟨call, hcall, hreturns⟩ := h
    exact endless_of_comes_to hcall (fun bound => endless_decode_of_returns bound _ hreturns) _

/-- A larger bound takes the same slots. -/
theorem takes_of_le {bound other : Nat} {node : Node} {used : Slots} {value : Value}
    (hle : bound ≤ other) (h : Reading.Takes (workspace.decodeWithin bound node) used value) :
    Reading.Takes (workspace.decodeWithin other node) used value := by
  intro rest index
  have hends : ¬ Reading.Endless (workspace.decodeWithin bound node ⟨used ++ rest, index⟩) := by
    rw [h rest index]
    exact Reading.not_endless_ok _ _
  rw [decode_within_of_le hle hends, h rest index]

/-- Some slots with a zero in each. -/
def zeros (count : Nat) : Slots :=
  List.replicate count ['0']

/-- A zero opens what takes a single value, and nothing follows. -/
theorem takes_zero_opening {node : Node} (h : (workspace.shape node).Single) :
    ∃ assemble, Reading.Takes (workspace.opening node) (zeros 1) ([], assemble) := by
  have hcount : ∀ size, Reading.Takes (Reading.announced size) (zeros 1) 0 := by
    intro size
    rw [Reading.announced_eq]
    refine Reading.Takes.read_slot (Reading.parse_announced_eq_ok.mpr ⟨⟨0, rfl, rfl⟩, ?_⟩)
    exact Nat.zero_le Memory.room
  unfold opening
  cases hshape : workspace.shape node with
  | primitive kind =>
      have hvalue : ∃ value, Reading.Takes (Reading.primitiveValue kind) (zeros 1) value := by
        rw [Reading.primitive_value_eq]
        cases kind with
        | int | long | string | float | bool => exact ⟨_, Reading.Takes.read_slot (by rfl)⟩
      obtain ⟨value, hvalue⟩ := hvalue
      exact ⟨_, hvalue.map _⟩
  | list element => exact ⟨_, (hcount 1).map _⟩
  | dictionary key value => exact ⟨_, (hcount 2).map _⟩
  | enum members =>
      have hvalue : ∃ value, Reading.Takes (Reading.slot Reading.long) (zeros 1) value := by
        unfold Reading.long
        rw [Reading.slot_number]
        exact ⟨_, Reading.Takes.read_slot (by rfl)⟩
      obtain ⟨value, hvalue⟩ := hvalue
      exact ⟨_, hvalue.map _⟩
  | struct place typeName subfields =>
      rw [hshape] at h
      exact h.elim
  | unbound target =>
      rw [hshape] at h
      exact h.elim

/-- Every node that has parts can be opened so that each of them follows once. -/
theorem takes_one_opening {node : Node} (h : workspace.parts node ≠ []) :
    ∃ head assemble, Reading.Takes (workspace.opening node) head (workspace.parts node, assemble) ∧
      ∀ text ∈ head, text = ['1'] := by
  have hcount : ∀ size, size ≤ 2 → Reading.Takes (Reading.announced size) [['1']] 1 := by
    intro size hsize
    rw [Reading.announced_eq]
    refine Reading.Takes.read_slot (Reading.parse_announced_eq_ok.mpr ⟨⟨1, rfl, rfl⟩, ?_⟩)
    exact (Nat.mul_one size).trans_le (hsize.trans Memory.two_le_room)
  have hone : ∀ text ∈ [['1']], text = ['1'] := fun text htext => List.mem_singleton.mp htext
  unfold opening
  unfold parts at h ⊢
  cases hshape : workspace.shape node with
  | list element => exact ⟨[['1']], _, (hcount 1 (by decide)).map _, hone⟩
  | dictionary key value => exact ⟨[['1']], _, (hcount 2 (Nat.le_refl 2)).map _, hone⟩
  | struct place typeName subfields =>
      exact ⟨[], _, Reading.Takes.pure _, fun text htext => absurd htext List.not_mem_nil⟩
  | primitive kind =>
      rw [hshape] at h
      exact absurd rfl h
  | enum members =>
      rw [hshape] at h
      exact absurd rfl h
  | unbound target =>
      rw [hshape] at h
      exact absurd rfl h

omit [Memory] in
/-- Nodes that can be read from zeros, as many as their widths, can be read from them one after
another. -/
theorem takes_each_zeros {read : Node → Reading Error Value} {nodes : List Node}
    {widths : List Nat} (hwidths : workspace.widths nodes = .ok widths)
    (h : ∀ node ∈ nodes, ∀ width, workspace.width node = .ok width →
      ∃ value, Reading.Takes (read node) (zeros width) value) :
    ∃ values, Reading.Takes (Reading.each read nodes) (zeros widths.sum) values := by
  induction nodes generalizing widths with
  | nil =>
      cases hwidths
      exact ⟨[], Reading.Takes.pure []⟩
  | cons node rest ih =>
      obtain ⟨first, hfirst, hrest⟩ := bind_eq_ok.mp hwidths
      obtain ⟨others, hothers, hrest⟩ := bind_eq_ok.mp hrest
      cases hrest
      obtain ⟨value, hvalue⟩ := h node List.mem_cons_self first hfirst
      obtain ⟨values, hvalues⟩ :=
        ih hothers fun other hother => h other (List.mem_cons_of_mem node hother)
      refine ⟨value :: values, ?_⟩
      rw [List.sum_cons, zeros, List.replicate_add]
      exact Reading.Takes.each_cons hvalue hvalues

/-- Whether a node can be decoded under a bound from as many zeros as it is wide. -/
def TakesZeros (workspace : Workspace) (bound : Nat) (node : Node) : Prop :=
  ∀ width, workspace.width node = .ok width →
    ∃ value, Reading.Takes (workspace.decodeWithin bound node) (zeros width) value

/-- One bound is enough for all nodes of a list. -/
theorem exists_takes_zeros_all {nodes : List Node}
    (h : ∀ node ∈ nodes, ∃ bound, workspace.TakesZeros bound node) :
    ∃ bound, ∀ node ∈ nodes, workspace.TakesZeros bound node := by
  have hlarger : ∀ {bound other : Nat} {node : Node}, bound ≤ other →
      workspace.TakesZeros bound node → workspace.TakesZeros other node := by
    intro bound other node hle hnode width hwidth
    obtain ⟨value, hvalue⟩ := hnode width hwidth
    exact ⟨value, takes_of_le hle hvalue⟩
  induction nodes with
  | nil => exact ⟨0, fun node hnode => absurd hnode List.not_mem_nil⟩
  | cons node rest ih =>
      obtain ⟨first, hfirst⟩ := h node List.mem_cons_self
      obtain ⟨others, hothers⟩ := ih fun other hother => h other (List.mem_cons_of_mem node hother)
      refine ⟨max first others, fun other hother => ?_⟩
      rcases List.mem_cons.mp hother with rfl | hother
      · exact hlarger (Nat.le_max_left _ _) hfirst
      · exact hlarger (Nat.le_max_right _ _) (hothers other hother)

/-- A node that has a width can be decoded from that many zeros under some bound. -/
theorem exists_takes_zeros {node : Node} (hnode : node ∈ workspace.nodes) :
    ∃ bound, workspace.TakesZeros bound node := by
  by_cases hwide : ∃ width, workspace.width node = .ok width
  · obtain ⟨width, hwidth⟩ := hwide
    refine width_induction (motive := fun node => node ∈ workspace.nodes →
      ∃ bound, workspace.TakesZeros bound node) ?_ ?_ hwidth hnode
    · intro node hsingle _
      refine ⟨1, fun width hwidth => ?_⟩
      rw [Workspace.width, width_from_single hsingle] at hwidth
      cases hwidth
      obtain ⟨assemble, hopening⟩ := takes_zero_opening hsingle
      refine ⟨assemble [], ?_⟩
      rw [decode_within_succ]
      exact Reading.Takes.bind hopening (Reading.Takes.pure (assemble []))
    · intro node place typeName subfields hshape ih hnode
      obtain ⟨bound, hall⟩ := exists_takes_zeros_all fun subfield hsubfield =>
        ih subfield hsubfield (mem_nodes_of_subfield hnode hshape subfield hsubfield)
      refine ⟨bound + 1, fun width hwidth => ?_⟩
      obtain ⟨widths, hwidths, rfl⟩ := width_of_struct hshape hwidth
      obtain ⟨values, hvalues⟩ := takes_each_zeros hwidths hall
      refine ⟨.struct ((subfields.map fun subfield => subfield.field.name).zip values), ?_⟩
      rw [decode_within_succ, opening_of_struct hshape, pure_bind]
      exact hvalues.map _
  · exact ⟨0, fun width hwidth => absurd ⟨width, hwidth⟩ hwide⟩

/-- Decoding comes to a part that it can come to, where the node starts with some zeros and ones. -/
theorem comes_to_of_reads_into {node part : Node} (hnode : node ∈ workspace.nodes)
    (h : workspace.ReadsInto node part) :
    ∃ slots : Slots, (∀ text ∈ slots, text = ['0'] ∨ text = ['1']) ∧ ∀ rest index,
      ∃ offset, workspace.ComesTo (node, ⟨slots ++ rest, index⟩) (part, ⟨rest, offset⟩) := by
  obtain ⟨before, after, hparts, widths, hwidths⟩ := h
  obtain ⟨head, assemble, hopening, hhead⟩ := takes_one_opening
    (show workspace.parts node ≠ [] by rw [hparts]; simp)
  have hbefore : ∀ earlier ∈ before, earlier ∈ workspace.nodes := by
    intro earlier hearlier
    refine mem_nodes_of_part hnode ?_
    rw [hparts]
    exact List.mem_append_left _ hearlier
  obtain ⟨enough, hall⟩ := exists_takes_zeros_all fun earlier hearlier =>
    exists_takes_zeros (hbefore earlier hearlier)
  obtain ⟨values, hvalues⟩ := takes_each_zeros hwidths hall
  refine ⟨head ++ zeros widths.sum, fun text htext => ?_, fun rest index => ?_⟩
  · rcases List.mem_append.mp htext with htext | htext
    · exact .inr (hhead text htext)
    · exact .inl (List.eq_of_mem_replicate htext)
  · have hopened := hopening (zeros widths.sum ++ rest) index
    rw [← List.append_assoc] at hopened
    exact ⟨_, workspace.parts node, assemble, _, before, after, enough, values, hopened, hparts,
      hvalues rest _⟩

/-- Whatever decoding can come to, it comes to where the node starts with some zeros and ones. -/
theorem reaches_of_reads_into {node inner : Node} (hnode : node ∈ workspace.nodes)
    (h : ReflTransGen workspace.ReadsInto node inner) :
    ∃ slots : Slots, (∀ text ∈ slots, text = ['0'] ∨ text = ['1']) ∧ ∀ rest index,
      ∃ offset, ReflTransGen workspace.ComesTo (node, ⟨slots ++ rest, index⟩)
        (inner, ⟨rest, offset⟩) := by
  induction h using ReflTransGen.head_induction_on with
  | refl =>
      exact ⟨[], fun text htext => absurd htext List.not_mem_nil, fun _ index => ⟨index, .refl⟩⟩
  | head hpart _ ih =>
      obtain ⟨first, hfirst, hcomes⟩ := comes_to_of_reads_into hnode hpart
      obtain ⟨others, hothers, hreaches⟩ := ih (hpart.mem_nodes hnode)
      refine ⟨first ++ others, fun text htext => ?_, fun rest index => ?_⟩
      · exact (List.mem_append.mp htext).elim (hfirst text) (hothers text)
      · obtain ⟨middle, hstep⟩ := hcomes (others ++ rest) index
        obtain ⟨offset, hrest⟩ := hreaches rest middle
        rw [← List.append_assoc] at hstep
        exact ⟨offset, .head hstep hrest⟩

/-- Where decoding recurs in a row, there is a text of zeros, ones and commas on which it does not
end. -/
theorem endless_row_of_recurs {number : Nat} (h : workspace.RecursDecodingRow number) :
    ∃ row : List Char, row ≠ [] ∧ (∀ c ∈ row, c = ',' ∨ c = '0' ∨ c = '1') ∧
      Endless (workspace.decodeRow number row) := by
  obtain ⟨before, column, after, hcolumns, ⟨widths, hwidths⟩, inner, hinner, hreturns⟩ := h
  have hnodes : ∀ node ∈ before ++ column :: after, node ∈ workspace.nodes := by
    rw [← hcolumns]
    exact fun node hnode => columns_subset_nodes workspace number hnode
  have hcolumn : column ∈ workspace.nodes :=
    hnodes column (List.mem_append_right _ List.mem_cons_self)
  obtain ⟨slots, hslots, hreaches⟩ := reaches_of_reads_into hcolumn hinner
  obtain ⟨values, hvalues⟩ : ∃ values, Reading.Takes
      (Reading.each workspace.decodeColumn before) (zeros widths.sum) values := by
    refine takes_each_zeros hwidths fun earlier hearlier width hwidth => ?_
    have hearlierNode := hnodes earlier (List.mem_append_left _ hearlier)
    obtain ⟨bound, htakes⟩ := exists_takes_zeros hearlierNode
    obtain ⟨value, hvalue⟩ := htakes width hwidth
    exact ⟨value, takes_decode_column hearlierNode hvalue⟩
  -- The last slot only makes sure that there is one, so that cutting the row gives these slots.
  have htext : ∀ text ∈ zeros widths.sum ++ (slots ++ [['0']]), text = ['0'] ∨ text = ['1'] := by
    intro text htext
    rcases List.mem_append.mp htext with htext | htext
    · exact .inl (List.eq_of_mem_replicate htext)
    · rcases List.mem_append.mp htext with htext | htext
      · exact hslots text htext
      · exact .inl (List.mem_singleton.mp htext)
  have hcommas : ∀ text ∈ zeros widths.sum ++ (slots ++ [['0']]), ',' ∉ text := by
    intro text hmem
    rcases htext text hmem with rfl | rfl <;> decide
  have hne : zeros widths.sum ++ (slots ++ [['0']]) ≠ [] := by simp
  refine ⟨[','].intercalate (zeros widths.sum ++ (slots ++ [['0']])), fun hnil => ?_,
    fun c hc => ?_, ?_⟩
  · have hcut := congrArg (List.splitOn ',') hnil
    rw [List.splitOn_intercalate ',' hcommas hne] at hcut
    have hmem : ['0'] ∈ List.splitOn ',' [] := by
      rw [← hcut]
      simp
    exact absurd hmem (by decide)
  · rcases mem_intercalate hc with rfl | ⟨text, hmem, hc⟩
    · exact .inl rfl
    · rcases htext text hmem with rfl | rfl
      · exact .inr (.inl (List.mem_singleton.mp hc))
      · exact .inr (.inr (List.mem_singleton.mp hc))
  · obtain ⟨offset, hcall⟩ := hreaches [['0']] (0 + Reading.span (zeros widths.sum))
    obtain ⟨label, last, hendless⟩ := endless_of_comes_to hcall
      (fun bound => endless_decode_of_returns bound _ hreturns) _
    refine ⟨label, decode_row_eq_endless.mpr
      ⟨before, column, after, values, _, last, hcolumns, ?_, hendless⟩⟩
    unfold Reader.ofRow
    rw [List.splitOn_intercalate ',' hcommas hne]
    exact hvalues (slots ++ [['0']]) 0

/-- Decoding a row comes to decoding a node at a reader: in a column, where those before it have
been decoded. -/
def RowComesTo (workspace : Workspace) (number : Nat) (row : List Char) (call : Node × Reader) :
    Prop :=
  ∃ before column after values reader, workspace.columns number = before ++ column :: after ∧
    Reading.each workspace.decodeColumn before (Reader.ofRow row) = .ok values reader ∧
    ReflTransGen workspace.ComesTo (column, reader) call

/-- Decoding a row does not end exactly where it comes to something from which the way along first
subfields returns. -/
theorem endless_decode_row_iff (hfilled : workspace.Filled) {number : Nat} {row : List Char} :
    Endless (workspace.decodeRow number row) ↔
      ∃ call, workspace.RowComesTo number row call ∧ Returns workspace.Leads call.1 := by
  unfold Endless
  simp only [decode_row_eq_endless]
  constructor
  · intro h
    obtain ⟨label, before, column, after, values, reader, last, hcolumns, hbefore, hcolumn⟩ := h
    have hnode := mem_nodes_of_column hcolumns
    obtain ⟨call, hcall, hreturns⟩ :=
      (endless_decode_node_iff hfilled hnode).mp ⟨label, last, hcolumn⟩
    exact ⟨call, ⟨before, column, after, values, reader, hcolumns, hbefore, hcall⟩, hreturns⟩
  · intro h
    obtain ⟨call, ⟨before, column, after, values, reader, hcolumns, hbefore, hcall⟩, hreturns⟩ := h
    have hnode := mem_nodes_of_column hcolumns
    obtain ⟨label, last, hcolumn⟩ :=
      (endless_decode_node_iff hfilled hnode).mpr ⟨call, hcall, hreturns⟩
    exact ⟨label, before, column, after, values, reader, last, hcolumns, hbefore, hcolumn⟩

/-- Decoding a row asks for more memory than there is exactly where it comes to a number of elements
that there is no room for. -/
theorem short_decode_row_iff {number : Nat} {row : List Char} :
    Short (workspace.decodeRow number row) ↔
      ∃ call, workspace.RowComesTo number row call ∧ workspace.Exceeds call := by
  unfold Short
  simp only [decode_row_eq_endless]
  constructor
  · intro h
    obtain ⟨count, before, column, after, values, reader, last, hcolumns, hbefore, hcolumn⟩ := h
    have hnode := mem_nodes_of_column hcolumns
    obtain ⟨call, hcall, hexceeds⟩ := (short_decode_node_iff hnode).mp ⟨count, last, hcolumn⟩
    exact ⟨call, ⟨before, column, after, values, reader, hcolumns, hbefore, hcall⟩, hexceeds⟩
  · intro h
    obtain ⟨call, ⟨before, column, after, values, reader, hcolumns, hbefore, hcall⟩, hexceeds⟩ := h
    have hnode := mem_nodes_of_column hcolumns
    obtain ⟨count, last, hcolumn⟩ := (short_decode_node_iff hnode).mpr ⟨call, hcall, hexceeds⟩
    exact ⟨count, before, column, after, values, reader, last, hcolumns, hbefore, hcolumn⟩

/-- Decoding a row ends on every text where it does not recur. -/
theorem not_endless_decode_row (hfilled : workspace.Filled) {number : Nat}
    (h : ¬ workspace.RecursDecodingRow number) (row : List Char) :
    ¬ Endless (workspace.decodeRow number row) := by
  intro hendless
  obtain ⟨call, ⟨before, column, after, values, reader, hcolumns, hbefore, hcall⟩, hreturns⟩ :=
    (endless_decode_row_iff hfilled).mp hendless
  have hinner := reads_into_of_reaches hfilled (mem_nodes_of_column hcolumns) hcall
  refine h ⟨before, column, after, hcolumns, exists_widths fun earlier hearlier => ?_, call.1,
    hinner, hreturns⟩
  obtain ⟨start, value, next, hdecode⟩ := Reading.exists_of_each hbefore hearlier
  refine width_of_decode (columns_subset_nodes workspace number ?_) (decode_column_eq_ok.mp hdecode)
  rw [hcolumns]
  exact List.mem_append_left _ hearlier

/-- Decoding rows one by one does not finish exactly where a row does not that it comes to. -/
theorem finishes_decode_rows_iff {number : Nat} {rows : List (List Char)} :
    Finishes (workspace.decodeRows number rows) ↔
      ∀ before row after values, rows = before ++ row :: after →
        workspace.decodeRows number before = .ok values →
        Finishes (workspace.decodeRow number row) := by
  induction rows with
  | nil =>
      refine iff_of_true (fun _ h => nomatch h) fun before row after _ hnil => ?_
      exact absurd hnil.symm
        (List.append_ne_nil_of_right_ne_nil before (List.cons_ne_nil row after))
  | cons first rest ih =>
      rw [decodeRows, finishes_bind]
      constructor
      · intro h before row after values hrows hbefore
        cases before with
        | nil =>
            cases hrows
            exact h.1
        | cons other before =>
            obtain ⟨rfl, rfl⟩ := List.cons.inj hrows
            rw [decodeRows] at hbefore
            obtain ⟨value, hfirst, hbefore⟩ := bind_eq_ok.mp hbefore
            obtain ⟨others, hothers, -⟩ := bind_eq_ok.mp hbefore
            exact ih.mp (finishes_bind.mp (h.2 value hfirst)).1 before row after others rfl hothers
      · intro h
        refine ⟨h [] first rest [] rfl rfl, fun value hfirst => finishes_bind.mpr ⟨?_, ?_⟩⟩
        · refine ih.mpr fun before row after values hrows hbefore => ?_
          refine h (first :: before) row after (value :: values) (by rw [hrows]; rfl) ?_
          rw [decodeRows, hfirst, hbefore]
          rfl
        · exact fun others _ => finishes_ok (value :: others)

/-- Decoding a table ends where decoding each of its rows does. -/
theorem not_endless_decode_rows {number : Nat} {rows : List (List Char)}
    (h : ∀ row, ¬ Endless (workspace.decodeRow number row)) :
    ¬ Endless (workspace.decodeRows number rows) := by
  induction rows with
  | nil => exact not_endless_ok []
  | cons row rest ih =>
      unfold decodeRows
      rw [endless_bind]
      intro h
      rcases h with hrow | ⟨first, -, hrest⟩
      · exact h row hrow
      · rcases endless_bind.mp hrest with hrest | ⟨others, -, hrest⟩
        · exact ih hrest
        · exact not_endless_ok _ hrest

/-- Decoding a row gives a value or an error that a caller is given, exactly if it comes neither to
something from which the way along first subfields returns nor to a number of elements that memory
has no room for; decoding a table does so if all rows do that it comes to. There is a text on which
a row or a table runs into the first of the two exactly if decoding recurs in the columns of the
scheme. Under any bound with which a node ends, it gives the result that `decodeNode` gives. -/
theorem decoding_ends_iff (hbuilt : workspace.Built) (number : Nat) :
    (∀ row, Finishes (workspace.decodeRow number row) ↔
      ∀ call, workspace.RowComesTo number row call →
        ¬ Returns workspace.Leads call.1 ∧ ¬ workspace.Exceeds call) ∧
    (∀ packed, Finishes (workspace.decodeTable number packed) ↔
      ∀ before row after values, packedRows packed = before ++ row :: after →
        workspace.decodeRows number before = .ok values →
        Finishes (workspace.decodeRow number row)) ∧
    ((∀ row, ¬ Endless (workspace.decodeRow number row)) ↔
      ¬ workspace.RecursDecodingRow number) ∧
    ((∀ packed, ¬ Endless (workspace.decodeTable number packed)) ↔
      ¬ workspace.RecursDecodingRow number) ∧
    ∀ node ∈ workspace.nodes, ∀ reader bound,
      ¬ Reading.Endless (workspace.decodeWithin bound node reader) →
      workspace.decodeNode node reader = workspace.decodeWithin bound node reader := by
  have hfilled := filled_of_built hbuilt
  refine ⟨fun row => ?_, fun packed => finishes_decode_rows_iff,
    ⟨fun hends hrecurs => ?_, not_endless_decode_row hfilled⟩,
    ⟨fun hends hrecurs => ?_, fun hrecurs packed => ?_⟩,
    fun node hnode reader bound hbound => decode_node_of_ends hnode hbound⟩
  · rw [finishes_iff, endless_decode_row_iff hfilled, short_decode_row_iff]
    refine ⟨fun h call hcall => ?_, fun h => ⟨?_, ?_⟩⟩
    · exact ⟨fun hreturns => h.1 ⟨call, hcall, hreturns⟩,
        fun hexceeds => h.2 ⟨call, hcall, hexceeds⟩⟩
    · rintro ⟨call, hcall, hreturns⟩
      exact (h call hcall).1 hreturns
    · rintro ⟨call, hcall, hexceeds⟩
      exact (h call hcall).2 hexceeds
  · obtain ⟨row, -, -, hendless⟩ := endless_row_of_recurs hrecurs
    exact hends row hendless
  · obtain ⟨row, hne, hchars, hendless⟩ := endless_row_of_recurs hrecurs
    have hnewline : '\n' ∉ row := fun hc => by
      rcases hchars _ hc with h | h | h <;> exact absurd h (by decide)
    have hrow : dropRightWhile (· == '\r') row = row := drop_right_while_of_forall fun c hc => by
      rcases hchars c hc with rfl | rfl | rfl <;> rfl
    have hpacked : packedRows row = [row] := by
      unfold packedRows
      rw [if_neg hne, List.splitOn_eq_singleton hnewline, List.map_singleton, hrow]
    refine hends row ?_
    unfold decodeTable
    rw [hpacked, decodeRows]
    exact endless_bind.mpr (.inl hendless)
  · exact not_endless_decode_rows (not_endless_decode_row hfilled hrecurs)

end Endings

/-- The number of a node of a chain, at a place. -/
def chainNumber (path : List Nat) : Node :=
  ⟨⟨0, path⟩, .primitive ⟨"Nodes", "number"⟩ .int⟩

/-- The node after a node of a chain, at a place: a reference. -/
def chainNext (path : List Nat) : Node :=
  ⟨⟨0, path⟩, .reference ⟨"Nodes", "next"⟩ ⟨"Nodes", "Node"⟩⟩

/-- A table of nodes with a number and the next node. -/
def numberedChain : Scheme :=
  ⟨"Nodes", [.struct ⟨"Nodes", "node"⟩ "Node"
    [(chainNumber [0, 0]).field, (chainNext [1, 0]).field]]⟩

/-- A table of nodes that hold nothing but the next node. -/
def bareChain : Scheme :=
  ⟨"Nodes", [.struct ⟨"Nodes", "node"⟩ "Node" [(chainNext [0, 0]).field]]⟩

/-- The table of numbered nodes is built from its header rows. -/
theorem numbered_chain_built : (resolved [numberedChain]).Built := by
  refine built_resolved fun scheme hscheme => ?_
  obtain rfl := List.mem_singleton.mp hscheme
  refine ⟨English.inflector, ["node"], ["Struct<int,number,@Nodes,Node,next>"], ?_⟩
  cbv

/-- Decoding nodes that start with a number finishes on every text, although the chain itself has no
end: each node takes a slot, and a row has only finitely many. -/
theorem decoding_numbered_chain_finishes :
    (resolved [numberedChain]).Built ∧
      (∀ row, Finishes ((resolved [numberedChain]).decodeRow 0 row)) ∧
      ∀ packed, Finishes ((resolved [numberedChain]).decodeTable 0 packed) := by
  obtain ⟨hrows, htables, -⟩ := decoding_ends_iff numbered_chain_built 0
  have hnumber : ¬ Returns (resolved [numberedChain]).Leads (chainNumber [0, 0]) := by
    intro hreturns
    obtain ⟨next, ⟨_, _, _, hshape⟩, -⟩ := hreturns.exists_step
    exact nomatch hshape
  have hstruct : ∀ node place typeName,
      (resolved [numberedChain]).shape node =
        .struct place typeName [chainNumber [0, 0], chainNext [1, 0]] →
      ¬ Returns (resolved [numberedChain]).Leads node := by
    intro node place typeName hnode hreturns
    obtain ⟨next, ⟨_, _, _, hshape⟩, hreturns⟩ := hreturns.exists_step
    rw [hnode] at hshape
    cases hshape
    exact hnumber hreturns
  -- Whatever decoding comes to is the number or a struct of a number and the next node.
  have hreached : ∀ column ∈ (resolved [numberedChain]).columns 0, ∀ inner,
      ReflTransGen (resolved [numberedChain]).ReadsInto column inner →
      inner = chainNumber [0, 0] ∨ ∃ place typeName, (resolved [numberedChain]).shape inner =
        .struct place typeName [chainNumber [0, 0], chainNext [1, 0]] := by
    intro column hcolumn inner hinner
    obtain rfl := List.mem_singleton.mp hcolumn
    induction hinner with
    | refl => exact .inr ⟨_, _, rfl⟩
    | @tail middle part _ hstep ih =>
        obtain ⟨before, after, hparts, -⟩ := hstep
        have hpart : part ∈ (resolved [numberedChain]).parts middle := by
          rw [hparts]
          exact List.mem_append_right _ List.mem_cons_self
        rcases ih with rfl | ⟨place, typeName, hshape⟩
        · exact absurd hpart List.not_mem_nil
        · unfold parts at hpart
          rw [hshape] at hpart
          rcases List.mem_cons.mp hpart with rfl | hpart
          · exact .inl rfl
          · obtain rfl := List.mem_singleton.mp hpart
            exact .inr ⟨_, _, rfl⟩
  have hfinishes : ∀ row, Finishes ((resolved [numberedChain]).decodeRow 0 row) := by
    intro row
    refine (hrows row).mpr fun call hcall => ?_
    obtain ⟨before, column, after, values, reader, hcolumns, -, hcall⟩ := hcall
    have hmem : column ∈ (resolved [numberedChain]).columns 0 := by
      rw [hcolumns]
      exact List.mem_append_right _ List.mem_cons_self
    have hinner := reads_into_of_reaches (filled_of_built numbered_chain_built)
      (mem_nodes_of_column hcolumns) hcall
    rcases hreached column hmem call.1 hinner with hcall | ⟨place, typeName, hshape⟩
    · refine ⟨by rwa [hcall], ?_⟩
      rintro ⟨_, _, _, -, -, ⟨⟨_, hlist⟩, -⟩ | ⟨⟨_, _, hdictionary⟩, -⟩⟩
      · rw [hcall] at hlist
        exact nomatch hlist
      · rw [hcall] at hdictionary
        exact nomatch hdictionary
    · refine ⟨hstruct call.1 place typeName hshape, ?_⟩
      rintro ⟨_, _, _, -, -, ⟨⟨_, hlist⟩, -⟩ | ⟨⟨_, _, hdictionary⟩, -⟩⟩
      · exact nomatch hshape.symm.trans hlist
      · exact nomatch hshape.symm.trans hdictionary
  exact ⟨numbered_chain_built, hfinishes,
    fun packed => (htables packed).mpr fun _ row _ _ _ _ => hfinishes row⟩

/-- Decoding does not finish on every text: a node leads to the next one without taking a slot. -/
theorem decoding_bare_chain_endless :
    ¬ ∀ schemes : List Scheme, (∀ scheme ∈ schemes, ∃ names definitions,
        Scheme.build scheme.table names definitions = .ok scheme) →
      ∀ number row, Finishes ((resolved schemes).decodeRow number row) ∧
        Finishes ((resolved schemes).decodeTable number row) := by
  intro hfinishes
  have hbuilt : ∀ scheme ∈ [bareChain], ∃ names definitions,
      Scheme.build scheme.table names definitions = .ok scheme := by
    intro scheme hscheme
    obtain rfl := List.mem_singleton.mp hscheme
    refine ⟨["node"], ["Struct<@Nodes,Node,next>"], ?_⟩
    cbv
  obtain ⟨column, hcolumn⟩ : ∃ column, (resolved [bareChain]).columns 0 = [column] := ⟨_, rfl⟩
  have hreturns : Returns (resolved [bareChain]).Leads column := by
    cases hcolumn
    refine ⟨chainNext [0, 0], .single ⟨_, _, [], rfl⟩, .single ⟨_, _, [], rfl⟩⟩
  have hendless : Endless ((resolved [bareChain]).decodeRow 0 "x".toList) := by
    obtain ⟨label, last, hendless⟩ :=
      endless_decode_of_returns _ (Reader.ofRow "x".toList) hreturns
    exact ⟨label, decode_row_eq_endless.mpr ⟨[], column, [], [], _, last, hcolumn, rfl, hendless⟩⟩
  exact (finishes_iff.mp (hfinishes [bareChain] hbuilt 0 "x".toList).1).1 hendless

end SheetWire.Workspace
