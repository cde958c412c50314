import SheetWire.Proofs.Definition.Filled
import SheetWire.Proofs.Loops
import SheetWire.Proofs.Row.Blanks
import SheetWire.Proofs.Text.Plain
import SheetWire.Workspace.Resolution

/-!
# When encoding ends

A text that is handed on gets shorter, or it is handed on whole. A single value is handed on whole
to the first part of a node and to nothing else, so encoding it goes on for ever exactly if the way
along first parts returns. A node hands single values to all its parts and to what these hold
directly as structs. `encoding_ends_iff` puts this together: encoding ends on every text unless the
way along first parts returns from somewhere in there.
-/

namespace SheetWire.Workspace

open Relation Text

variable {workspace : Workspace}

/-- The first part of a node, as long as encoding comes to it: all parts have widths. -/
def Heads (workspace : Workspace) (node first : Node) : Prop :=
  (∃ widths, workspace.widths (workspace.parts node) = .ok widths) ∧
    (workspace.parts node).head? = some first

/-- A struct and a subfield of it. -/
def Nests (workspace : Workspace) (node subfield : Node) : Prop :=
  ∃ place typeName subfields,
    workspace.shape node = .struct place typeName subfields ∧ subfield ∈ subfields

/-- Whether encoding comes to a part of the node, and then to something in it directly as structs,
from which the way along first parts returns. -/
def RecursEncoding (workspace : Workspace) (node : Node) : Prop :=
  (∃ widths, workspace.widths (workspace.parts node) = .ok widths) ∧
    ∃ part ∈ workspace.parts node, ∃ inner,
      ReflTransGen workspace.Nests part inner ∧ Returns workspace.Heads inner

/-- The first part is a part. -/
theorem Heads.mem_parts {node first : Node} (h : workspace.Heads node first) :
    first ∈ workspace.parts node :=
  List.mem_of_mem_head? h.2

/-- A subfield is a part. -/
theorem Nests.mem_parts {node subfield : Node} (h : workspace.Nests node subfield) :
    subfield ∈ workspace.parts node := by
  obtain ⟨place, typeName, subfields, hshape, hmem⟩ := h
  unfold parts
  rw [hshape]
  exact hmem

/-- The way along first parts stays among the nodes. -/
theorem mem_nodes_of_heads {node inner : Node} (hnode : node ∈ workspace.nodes)
    (h : ReflTransGen workspace.Heads node inner) : inner ∈ workspace.nodes := by
  induction h with
  | refl => exact hnode
  | tail _ hstep ih => exact mem_nodes_of_part ih hstep.mem_parts

/-- Subfields and what they hold as structs stay among the nodes. -/
theorem mem_nodes_of_nests {node inner : Node} (hnode : node ∈ workspace.nodes)
    (h : ReflTransGen workspace.Nests node inner) : inner ∈ workspace.nodes := by
  induction h with
  | refl => exact hnode
  | tail _ hstep ih => exact mem_nodes_of_part ih hstep.mem_parts

/-- A single value is handed on whole to the first part, and no text to the others. -/
theorem portion_of_single (hfilled : workspace.Filled) {node part : Node} {text inner : List Char}
    {slots : Slots} {list : List (Node × List Char)} (hnode : node ∈ workspace.nodes)
    (htext : text ≠ []) (hcomma : ',' ∉ text)
    (h : workspace.portions node text = .ok (slots, list)) (hmem : (part, inner) ∈ list) :
    inner = [] ∨ inner = text ∧ workspace.Heads node part := by
  obtain ⟨widths, hwidths⟩ := widths_of_portions h (List.ne_nil_of_mem hmem)
  have hpart := (mem_portions h hmem).1
  cases hparts : workspace.parts node with
  | nil =>
      rw [hparts] at hpart
      exact absurd hpart List.not_mem_nil
  | cons first others =>
      obtain ⟨firstWidth, hfirst, hrest⟩ := bind_eq_ok.mp (hparts ▸ hwidths)
      obtain ⟨otherWidths, hothers, hrest⟩ := bind_eq_ok.mp hrest
      cases hrest
      -- The first part takes a value at least, so nothing is left for the others.
      have hfirstNode : first ∈ workspace.nodes :=
        mem_nodes_of_part hnode (hparts ▸ List.mem_cons_self)
      have hpos := width_pos hfilled hfirstNode hfirst
      have hlength : (text.splitOn ',').length ≤ (firstWidth :: otherWidths).sum := by
        rw [List.splitOn_eq_singleton hcomma, List.length_singleton, List.sum_cons]
        omega
      obtain ⟨own, hdealt⟩ := portions_of_length_le (by rw [hparts]; exact List.cons_ne_nil _ _)
        htext hwidths hlength
      rw [h] at hdealt
      cases hdealt
      rw [hparts, List.splitOn_eq_singleton hcomma, deal, List.zip_cons_cons, List.map_cons] at hmem
      rcases List.mem_cons.mp hmem with hhead | hother
      · right
        rw [List.take_of_length_le (show [text].length ≤ firstWidth from hpos)] at hhead
        obtain ⟨rfl, rfl⟩ := Prod.mk.inj hhead
        exact ⟨List.intercalate_singleton, ⟨_, hwidths⟩, by rw [hparts]; rfl⟩
      · left
        rw [List.drop_of_length_le (show [text].length ≤ firstWidth from hpos)] at hother
        obtain ⟨⟨_, group⟩, hpair, hportion⟩ := List.mem_map.mp hother
        obtain ⟨-, hgroup⟩ := List.of_mem_zip hpair
        obtain ⟨position, hposition⟩ := List.mem_iff_getElem?.mp hgroup
        have hnil : group = [] := List.eq_nil_of_infix_nil (deal_spec hposition).1
        subst hnil
        exact (Prod.mk.inj hportion).2.symm

/-- Encoding a single value ends if the way along first parts does not return. -/
theorem encoding_ends_single (hfilled : workspace.Filled) {node : Node} {text : List Char}
    (hnode : node ∈ workspace.nodes) (hcomma : ',' ∉ text)
    (h : ¬ Returns workspace.Heads node) : workspace.encoding.Ends (node, text) := by
  have hacc : Acc (flip workspace.Heads) node :=
    acc_of_not_returns (fun inner hinner => mem_nodes_of_heads hnode hinner) h
  clear h
  induction hacc with
  | intro node _ ih =>
      refine encoding_ends_of_inner hnode fun inner hcall => ?_
      obtain ⟨slots, list, hportions, hmem⟩ := hcall
      obtain ⟨part, inner⟩ := inner
      have hpart := mem_nodes_of_part hnode (mem_portions hportions hmem).1
      by_cases htext : text = []
      · subst htext
        obtain rfl := portion_of_nil hportions hmem
        exact encoding_ends_nil hpart
      · rcases portion_of_single hfilled hnode htext hcomma hportions hmem with
          hnil | ⟨hsame, hhead⟩
        · exact hnil ▸ encoding_ends_nil hpart
        · exact hsame ▸ ih part hhead hpart

/-- Encoding as many values as a node takes ends if the way along first parts does not return from
anything in it. -/
theorem encoding_ends_nested (hfilled : workspace.Filled) {node : Node} {text : List Char}
    {width : Nat} (hnode : node ∈ workspace.nodes) (hwidth : workspace.width node = .ok width)
    (hlength : (text.splitOn ',').length ≤ width)
    (h : ∀ inner, ReflTransGen workspace.Nests node inner → ¬ Returns workspace.Heads inner) :
    workspace.encoding.Ends (node, text) := by
  refine width_induction (motive := fun node => ∀ text width, node ∈ workspace.nodes →
    workspace.width node = .ok width → (text.splitOn ',').length ≤ width →
    (∀ inner, ReflTransGen workspace.Nests node inner → ¬ Returns workspace.Heads inner) →
    workspace.encoding.Ends (node, text)) ?_ ?_ hwidth text width hnode hwidth hlength h
  · intro node hsingle text width hnode hwidth hlength h
    -- Only a single value fits what takes one value.
    rw [Workspace.width, width_from_single hsingle] at hwidth
    cases hwidth
    have hpos := List.length_pos_iff.mpr (List.splitOn_ne_nil ',' text)
    have hcomma : ',' ∉ text := length_splitOn_eq_one.mp (by omega)
    exact encoding_ends_single hfilled hnode hcomma (h node .refl)
  · intro node place typeName subfields hshape ih text width hnode hwidth hlength h
    refine encoding_ends_of_inner hnode fun inner hcall => ?_
    obtain ⟨slots, list, hportions, hmem⟩ := hcall
    obtain ⟨part, inner⟩ := inner
    have hpart := (mem_portions hportions hmem).1
    obtain ⟨partWidth, hpartWidth, hpartLength⟩ :=
      length_splitOn_of_portion hfilled hnode hportions hmem
    have hsubfield : part ∈ subfields := by
      unfold parts at hpart
      rwa [hshape] at hpart
    have hnests : workspace.Nests node part := ⟨place, typeName, subfields, hshape, hsubfield⟩
    exact ih part hsubfield inner partWidth (mem_nodes_of_part hnode hpart) hpartWidth hpartLength
      fun below hbelow => h below (.head hnests hbelow)

/-- Encoding ends where it does not recur. -/
theorem encoding_ends (hfilled : workspace.Filled) {node : Node} (hnode : node ∈ workspace.nodes)
    (h : ¬ workspace.RecursEncoding node) (text : List Char) :
    workspace.encoding.Ends (node, text) := by
  refine encoding_ends_of_inner hnode fun inner hcall => ?_
  obtain ⟨slots, list, hportions, hmem⟩ := hcall
  obtain ⟨part, inner⟩ := inner
  have hpart := (mem_portions hportions hmem).1
  obtain ⟨width, hwidth, hlength⟩ := length_splitOn_of_portion hfilled hnode hportions hmem
  have hwidths := widths_of_portions hportions (List.ne_nil_of_mem hmem)
  exact encoding_ends_nested hfilled (mem_nodes_of_part hnode hpart) hwidth hlength
    fun below hbelow hreturns => h ⟨hwidths, part, hpart, below, hbelow, hreturns⟩

/-! ### What a part does with a value, the node does with a text -/

/-- Whether a property of a node with its text passes on from a portion to the node that hands it
out, where all that the node hands out besides encodes like no text. -/
def Rises (workspace : Workspace) (property : Node × List Char → Prop) : Prop :=
  ∀ node text own ahead portion behind, node ∈ workspace.nodes →
    workspace.portions node text = .ok (own, ahead ++ portion :: behind) →
    (∀ other ∈ ahead, workspace.BlankPortion other) →
    (∀ other ∈ behind, workspace.BlankPortion other) → property portion → property (node, text)

section Rises

variable {property : Node × List Char → Prop} {node inner : Node} {value : List Char}

/-- A property of a part with a value holds of the node with the value where the part has its
own. -/
theorem Rises.of_part (h : workspace.Rises property) {part : Node} {widths : List Nat}
    {before after : List Node} (hnode : node ∈ workspace.nodes) (hvalue : value ≠ [])
    (hcomma : ',' ∉ value) (hparts : workspace.parts node = before ++ part :: after)
    (hwidths : workspace.widths (workspace.parts node) = .ok widths) :
    ∃ front width, workspace.width part = .ok width ∧ front + width ≤ widths.sum ∧
      (before = [] → front = 0) ∧ ∀ count, count < width →
        property (part, afterBlanks count value) →
        property (node, afterBlanks (front + count) value) := by
  obtain ⟨front, width, hwidth, hsum, hfront, hportions⟩ :=
    portions_after_blanks hnode hparts hwidths
  refine ⟨front, width, hwidth, hsum, hfront, fun count hcount hpart => ?_⟩
  have hfits : (value.splitOn ',').length + count ≤ width := by
    rw [List.splitOn_eq_singleton hcomma, List.length_singleton]
    omega
  obtain ⟨own, ahead, behind, hportions, hahead, hbehind⟩ := hportions value count hvalue hfits
  exact h node _ own ahead _ behind hnode hportions hahead hbehind hpart

/-- A property of a node with a value holds of whatever leads to it along first parts. -/
theorem Rises.of_heads (h : workspace.Rises property) (hfilled : workspace.Filled)
    (hnode : node ∈ workspace.nodes) (hvalue : value ≠ []) (hcomma : ',' ∉ value)
    (hinner : ReflTransGen workspace.Heads node inner) (hproperty : property (inner, value)) :
    property (node, value) := by
  induction hinner using ReflTransGen.head_induction_on with
  | refl => exact hproperty
  | @head node first hhead _ ih =>
      have hfirst := mem_nodes_of_part hnode hhead.mem_parts
      obtain ⟨⟨widths, hwidths⟩, hhead⟩ := hhead
      obtain ⟨others, hparts⟩ := List.head?_eq_some_iff.mp hhead
      obtain ⟨front, width, hwidth, -, hfront, hstep⟩ :=
        h.of_part hnode hvalue hcomma (hparts.trans (List.nil_append _).symm) hwidths
      obtain rfl := hfront rfl
      exact hstep 0 (width_pos hfilled hfirst hwidth) (ih hfirst)

/-- A property of something in a node with a value holds of the node with the value somewhere among
the values that the node takes. -/
theorem Rises.of_nests (h : workspace.Rises property) (hfilled : workspace.Filled) {width : Nat}
    (hnode : node ∈ workspace.nodes) (hvalue : value ≠ []) (hcomma : ',' ∉ value)
    (hwidth : workspace.width node = .ok width) (hinner : ReflTransGen workspace.Nests node inner)
    (hproperty : property (inner, value)) :
    ∃ count < width, property (node, afterBlanks count value) := by
  induction hinner using ReflTransGen.head_induction_on generalizing width with
  | refl => exact ⟨0, width_pos hfilled hnode hwidth, hproperty⟩
  | @head node next hnests _ ih =>
      have hnext := mem_nodes_of_part hnode hnests.mem_parts
      obtain ⟨place, typeName, subfields, hshape, hmem⟩ := hnests
      obtain ⟨widths, hwidths, rfl⟩ := width_of_struct hshape hwidth
      obtain ⟨before, after, hsplit⟩ := List.append_of_mem hmem
      have hparts : workspace.parts node = subfields := by
        unfold parts
        rw [hshape]
        rfl
      obtain ⟨front, nextWidth, hnextWidth, hsum, -, hstep⟩ :=
        h.of_part hnode hvalue hcomma (hparts.trans hsplit) (hparts ▸ hwidths)
      obtain ⟨count, hcount, hrest⟩ := ih hnext hnextWidth
      exact ⟨front + count, by omega, hstep count hcount hrest⟩

/-- A property of something in a part of a node with a value holds of the node with the value behind
some empty ones. -/
theorem Rises.of_nested_part (h : workspace.Rises property) (hfilled : workspace.Filled)
    {part : Node} {widths : List Nat} (hnode : node ∈ workspace.nodes) (hvalue : value ≠ [])
    (hcomma : ',' ∉ value) (hwidths : workspace.widths (workspace.parts node) = .ok widths)
    (hpart : part ∈ workspace.parts node) (hinner : ReflTransGen workspace.Nests part inner)
    (hproperty : property (inner, value)) : ∃ count, property (node, afterBlanks count value) := by
  obtain ⟨before, after, hparts⟩ := List.append_of_mem hpart
  obtain ⟨front, width, hwidth, -, -, hstep⟩ := h.of_part hnode hvalue hcomma hparts hwidths
  obtain ⟨count, hcount, hrest⟩ :=
    h.of_nests hfilled (mem_nodes_of_part hnode hpart) hvalue hcomma hwidth hinner hproperty
  exact ⟨front + count, hstep count hcount hrest⟩

end Rises

/-- Escaping leaves a text as it is that has nothing to escape behind empty values. -/
theorem escape_after_blanks {count : Nat} {value : List Char} (hnewline : '\n' ∉ value)
    (hbackslash : '\\' ∉ value) : escape (afterBlanks count value) = afterBlanks count value := by
  have hchars : ∀ c ∈ afterBlanks count value, c = ',' ∨ c ∈ value := by
    intro c hc
    exact (List.mem_append.mp hc).imp_left List.eq_of_mem_replicate
  refine escape_of_notMem (fun hc => ?_) (fun hc => ?_)
  · exact (hchars _ hc).elim (by decide) hnewline
  · exact (hchars _ hc).elim (by decide) hbackslash

/-! ### Where encoding does not end -/

/-- Some empty values and one that is not. -/
def lastOnly (count : Nat) : List Char :=
  List.replicate count ',' ++ ['x']

/-- A bound that is too small for a portion is too small for the node if nothing fails before it. -/
theorem endless_of_portion (hfilled : workspace.Filled) {bound : Nat} {node : Node}
    {text : List Char} {own : Slots} {ahead behind : List (Node × List Char)}
    {portion : Node × List Char}
    (hportions : workspace.portions node text = .ok (own, ahead ++ portion :: behind))
    (hahead : ∀ other ∈ ahead, workspace.BlankPortion other)
    (h : Endless (workspace.encodeWithin bound portion.1 portion.2)) :
    Endless (workspace.encodeWithin (bound + 1) node text) := by
  obtain ⟨label, hlabel⟩ := h
  exact (encode_settles_error hportions
    (fun other hother => (hahead other hother).settles hfilled bound) (.inr hlabel)).endless

/-- Where every bound is too small for a portion, every bound is too small for the node. -/
theorem rises_endless (hfilled : workspace.Filled) :
    workspace.Rises fun call => ∀ bound, Endless (workspace.encodeWithin bound call.1 call.2) := by
  intro node text own ahead portion behind _ hportions hahead _ hportion bound
  cases bound with
  | zero => exact ⟨node.label, rfl⟩
  | succ bound => exact endless_of_portion hfilled hportions hahead (hportion bound)

/-- Where the way along first parts returns, every bound is too small for a single value. -/
theorem endless_of_returns (hfilled : workspace.Filled) {node : Node} (bound : Nat)
    (hnode : node ∈ workspace.nodes) (h : Returns workspace.Heads node) :
    Endless (workspace.encodeWithin bound node (lastOnly 0)) := by
  induction bound generalizing node with
  | zero => exact ⟨node.label, rfl⟩
  | succ bound ih =>
      obtain ⟨first, hhead, hreturns⟩ := h.exists_step
      have hfirst := mem_nodes_of_part hnode hhead.mem_parts
      obtain ⟨⟨widths, hwidths⟩, hhead⟩ := hhead
      obtain ⟨others, hparts⟩ := List.head?_eq_some_iff.mp hhead
      obtain ⟨front, width, hwidth, -, hfront, hportions⟩ :=
        portions_after_blanks hnode (hparts.trans (List.nil_append _).symm) hwidths
      obtain rfl := hfront rfl
      obtain ⟨own, ahead, behind, hportions, hahead, -⟩ :=
        hportions ['x'] 0 (List.cons_ne_nil _ _) (width_pos hfilled hfirst hwidth)
      exact endless_of_portion hfilled hportions hahead (ih hfirst hreturns)

/-- Where encoding recurs, every bound is too small for some text. -/
theorem endless_of_recurs (hfilled : workspace.Filled) {node : Node}
    (hnode : node ∈ workspace.nodes) (h : workspace.RecursEncoding node) :
    ∃ count, ∀ bound, Endless (workspace.encodeWithin bound node (lastOnly count)) := by
  obtain ⟨⟨widths, hwidths⟩, part, hpart, inner, hinner, hreturns⟩ := h
  have hinnerNode : inner ∈ workspace.nodes :=
    mem_nodes_of_nests (mem_nodes_of_part hnode hpart) hinner
  exact (rises_endless hfilled).of_nested_part hfilled hnode (List.cons_ne_nil _ _) (by decide)
    hwidths hpart hinner fun bound => endless_of_returns hfilled bound hinnerNode hreturns

/-- Escaping leaves such a text as it is. -/
theorem escape_last_only (count : Nat) : escape (lastOnly count) = lastOnly count :=
  escape_after_blanks (by decide) (by decide)

/-- Encoding ends on every text of a cell exactly if the encoding of the node does not recur. Under
any bound with which it ends, it gives the result that `encodeText` gives. -/
theorem encoding_ends_iff (hbuilt : workspace.Built) {node : Node}
    (hnode : node ∈ workspace.nodes) :
    ((∀ text : String, ∃ bound,
        ¬ Endless (workspace.encodeWithin bound node (escape text.toList))) ↔
      ¬ workspace.RecursEncoding node) ∧
    ∀ (text : String) bound, ¬ Endless (workspace.encodeWithin bound node (escape text.toList)) →
      workspace.encodeText node text = workspace.encodeWithin bound node (escape text.toList) := by
  have hfilled := filled_of_built hbuilt
  refine ⟨⟨fun hends hrecurs => ?_, fun hrecurs text => ?_⟩, fun text bound hbound => ?_⟩
  · obtain ⟨count, hendless⟩ := endless_of_recurs hfilled hnode hrecurs
    obtain ⟨bound, hbound⟩ := hends (String.ofList (lastOnly count))
    rw [String.toList_ofList, escape_last_only] at hbound
    exact hbound (hendless bound)
  · exact encoding_ends hfilled hnode hrecurs (escape text.toList)
  · exact encode_text_of_ends hnode hbound

/-- A reference to a node of a tree, at a place. -/
def treeReference (path : List Nat) : Node :=
  ⟨⟨0, path⟩, .reference ⟨"Nodes", ""⟩ ⟨"Nodes", "Node"⟩⟩

/-- The children of a node of a tree, at a place: a list of references. -/
def treeChildren (path : List Nat) : Node :=
  ⟨⟨0, path⟩, .list ⟨"Nodes", "children"⟩ (treeReference (0 :: path)).field⟩

/-- The number of a node of a tree, at a place. -/
def treeNumber (path : List Nat) : Node :=
  ⟨⟨0, path⟩, .primitive ⟨"Nodes", "number"⟩ .int⟩

/-- A table of nodes with a number and children. -/
def numberedTree : Scheme :=
  ⟨"Nodes", [.struct ⟨"Nodes", "node"⟩ "Node"
    [(treeNumber [0, 0]).field, (treeChildren [1, 0]).field]]⟩

/-- A table of nodes that hold nothing but their children. -/
def bareTree : Scheme :=
  ⟨"Nodes", [.struct ⟨"Nodes", "node"⟩ "Node" [(treeChildren [0, 0]).field]]⟩

/-- The table of numbered nodes is built from its header rows. -/
theorem numbered_tree_built : (resolved [numberedTree]).Built := by
  refine built_resolved fun scheme hscheme => ?_
  obtain rfl := List.mem_singleton.mp hscheme
  refine ⟨English.inflector, ["node"], ["Struct<int,number,List<@Nodes,Node>,children>"], ?_⟩
  cbv

/-- Encoding a node that starts with a number ends: the way along first parts comes to the number
and stops there. -/
theorem encoding_numbered_tree_ends :
    (resolved [numberedTree]).Built ∧ ∃ node ∈ (resolved [numberedTree]).nodes,
      ∀ text : String, ∃ bound,
        ¬ Endless ((resolved [numberedTree]).encodeWithin bound node (escape text.toList)) := by
  obtain ⟨column, hcolumn⟩ : ∃ column, (resolved [numberedTree]).columns 0 = [column] := ⟨_, rfl⟩
  have hmem : column ∈ (resolved [numberedTree]).columns 0 := hcolumn ▸ List.mem_singleton_self _
  have hnode := columns_subset_nodes _ 0 hmem
  refine ⟨numbered_tree_built, column, hnode,
    (encoding_ends_iff numbered_tree_built hnode).1.mpr ?_⟩
  cases hcolumn
  -- From the children the way along first parts comes to a node and to its number, and ends.
  have hnumber : ¬ Returns (resolved [numberedTree]).Heads (treeNumber [0, 0]) := by
    intro hreturns
    obtain ⟨next, hnext, -⟩ := hreturns.exists_step
    exact nomatch hnext.2
  have hreference : ¬ Returns (resolved [numberedTree]).Heads (treeReference [0, 1, 0]) := by
    intro hreturns
    obtain ⟨next, hnext, hreturns⟩ := hreturns.exists_step
    obtain rfl : treeNumber [0, 0] = next := Option.some.inj hnext.2
    exact hnumber hreturns
  have hchildren : ¬ Returns (resolved [numberedTree]).Heads (treeChildren [1, 0]) := by
    intro hreturns
    obtain ⟨next, hnext, hreturns⟩ := hreturns.exists_step
    obtain rfl : treeReference [0, 1, 0] = next := Option.some.inj hnext.2
    exact hreference hreturns
  intro hrecurs
  obtain ⟨-, part, hpart, inner, hinner, hreturns⟩ := hrecurs
  rcases List.mem_cons.mp hpart with rfl | hpart
  · rcases ReflTransGen.cases_head hinner with rfl | ⟨next, ⟨_, _, _, hshape, -⟩, -⟩
    · exact hnumber hreturns
    · exact nomatch hshape
  · obtain rfl := List.mem_singleton.mp hpart
    rcases ReflTransGen.cases_head hinner with rfl | ⟨next, ⟨_, _, _, hshape, -⟩, -⟩
    · exact hchildren hreturns
    · exact nomatch hshape

/-- Encoding does not end on every text: a single value goes round between a node and the list of
its children. -/
theorem encoding_bare_tree_endless :
    ¬ ∀ schemes : List Scheme, (∀ scheme ∈ schemes, ∃ names definitions,
        Scheme.build scheme.table names definitions = .ok scheme) →
      ∀ node ∈ (resolved schemes).nodes, ∀ text : String, ∃ bound,
        ¬ Endless ((resolved schemes).encodeWithin bound node (escape text.toList)) := by
  intro hends
  have hbuilt : ∀ scheme ∈ [bareTree], ∃ names definitions,
      Scheme.build scheme.table names definitions = .ok scheme := by
    intro scheme hscheme
    obtain rfl := List.mem_singleton.mp hscheme
    refine ⟨["node"], ["Struct<List<@Nodes,Node>,children>"], ?_⟩
    cbv
  obtain ⟨column, hcolumn⟩ : ∃ column, (resolved [bareTree]).columns 0 = [column] := ⟨_, rfl⟩
  have hmem : column ∈ (resolved [bareTree]).columns 0 := hcolumn ▸ List.mem_singleton_self _
  have hnode := columns_subset_nodes _ 0 hmem
  obtain ⟨bound, hbound⟩ := hends [bareTree] hbuilt column hnode "x"
  have hfilled := filled_of_built (built_resolved fun scheme hscheme =>
    ⟨English.inflector, hbuilt scheme hscheme⟩)
  refine hbound (endless_of_returns hfilled bound hnode ?_)
  cases hcolumn
  have hlist : (resolved [bareTree]).widths [treeChildren [0, 0]] = .ok [1] := by cbv
  have helement : (resolved [bareTree]).widths [treeReference [0, 0, 0]] = .ok [1] := by cbv
  refine ⟨treeChildren [0, 0], .single ⟨⟨[1], hlist⟩, rfl⟩, ?_⟩
  exact .head ⟨⟨[1], helement⟩, rfl⟩ (.single ⟨⟨[1], hlist⟩, rfl⟩)

end SheetWire.Workspace
