import SheetWire.Proofs.Row.Inlining
import SheetWire.Proofs.Row.Unfolding
import SheetWire.Proofs.Row.WireForms

/-!
# Where encoding fails

Encoding fails where a node refuses the text that it is handed: a reference has no target, a text
names no member, the parts of the node have no widths, or a struct gets more values than it takes.
`Refuses` lists these, and `refuses_of_encode` leads from an error of a run down to the node that
refused. A text that is handed on never has more values than the node takes, so only a whole column
can be given too many of them (`malformed_cell_iff`).
-/

namespace SheetWire

open Relation Text Number

/-- Encoding a list fails with the first element that fails. -/
theorem concat_slots_eq_error {α : Type} {encode : α → Except Error Slots} {list : List α}
    {e : Error} :
    concatSlots encode list = .error e ↔ ∃ front x back, list = front ++ x :: back ∧
      (∀ y ∈ front, ∃ slots, encode y = .ok slots) ∧ encode x = .error e := by
  induction list with
  | nil => exact iff_of_false (fun h => nomatch h) (by simp)
  | cons first rest ih =>
      rw [concatSlots, bind_eq_error]
      constructor
      · intro h
        rcases h with h | ⟨slots, hfirst, h⟩
        · exact ⟨[], first, rest, rfl, fun _ hmem => absurd hmem List.not_mem_nil, h⟩
        · rcases bind_eq_error.mp h with h | ⟨others, -, h⟩
          · obtain ⟨front, x, back, rfl, hfront, hx⟩ := ih.mp h
            exact ⟨first :: front, x, back, rfl, List.forall_mem_cons.mpr ⟨⟨slots, hfirst⟩, hfront⟩,
              hx⟩
          · cases h
      · intro h
        obtain ⟨front, x, back, hlist, hfront, hx⟩ := h
        cases front with
        | nil =>
            obtain ⟨rfl, rfl⟩ := List.cons.inj hlist
            exact .inl hx
        | cons head front =>
            obtain ⟨rfl, rfl⟩ := List.cons.inj hlist
            rw [List.forall_mem_cons] at hfront
            obtain ⟨⟨slots, hfirst⟩, hfront⟩ := hfront
            have hrest := ih.mpr ⟨front, x, back, rfl, hfront, hx⟩
            exact .inr ⟨slots, hfirst, bind_eq_error.mpr (.inl hrest)⟩

namespace Workspace

variable {workspace : Workspace}

/-! ### Widths that fail -/

/-- The widths of nodes side by side fail with the first node whose width fails. -/
theorem widths_cons_eq_error {node : Node} {rest : List Node} {e : Error} :
    workspace.widths (node :: rest) = .error e ↔ workspace.width node = .error e ∨
      (∃ width, workspace.width node = .ok width) ∧ workspace.widths rest = .error e := by
  rw [widths, bind_eq_error]
  refine or_congr_right ⟨fun h => ?_, fun h => ?_⟩
  · obtain ⟨width, hwidth, h⟩ := h
    rcases bind_eq_error.mp h with h | ⟨others, -, h⟩
    · exact ⟨⟨width, hwidth⟩, h⟩
    · cases h
  · obtain ⟨⟨width, hwidth⟩, h⟩ := h
    exact ⟨width, hwidth, bind_eq_error.mpr (.inl h)⟩

/-- The widths of nodes fail if the width of one of them does. -/
theorem exists_of_widths_eq_error {nodes : List Node} {e : Error}
    (h : workspace.widths nodes = .error e) : ∃ node ∈ nodes, workspace.width node = .error e := by
  induction nodes with
  | nil => exact nomatch h
  | cons node rest ih =>
      rcases widths_cons_eq_error.mp h with h | ⟨-, h⟩
      · exact ⟨node, List.mem_cons_self, h⟩
      · obtain ⟨other, hother, hwidth⟩ := ih h
        exact ⟨other, List.mem_cons_of_mem node hother, hwidth⟩

/-- A way down that fails ends at a reference without a target or at a struct. -/
theorem Stops.exists_failing {opened : List Place} {node : Node} {way : List Nat} {e : Error}
    (h : workspace.Stops opened node way (some e)) :
    ∃ inner, ReflTransGen workspace.Nests node inner ∧
      ((∃ target, workspace.shape inner = .unbound target ∧ e = .unresolved inner.label target) ∨
        ∃ place typeName subfields, workspace.shape inner = .struct place typeName subfields ∧
          e = .recursiveStruct inner.label typeName) := by
  generalize hmark : some e = mark at h
  induction h with
  | leaf => exact nomatch hmark
  | unbound hshape =>
      cases hmark
      exact ⟨_, .refl, .inl ⟨_, hshape, rfl⟩⟩
  | recursive hshape =>
      cases hmark
      exact ⟨_, .refl, .inr ⟨_, _, _, hshape, rfl⟩⟩
  | subfield hshape _ hsubfield _ ih =>
      obtain ⟨inner, hinner, hfailing⟩ := ih hmark
      exact ⟨inner, .head ⟨_, _, _, hshape, List.mem_of_getElem? hsubfield⟩ hinner, hfailing⟩

/-- A width fails at a node that is reached through subfields: a reference without a target, or a
struct that comes up again. -/
theorem width_eq_error {node : Node} {e : Error} (hnode : node ∈ workspace.nodes)
    (h : workspace.width node = .error e) :
    ∃ inner, ReflTransGen workspace.Nests node inner ∧
      ((∃ target, workspace.shape inner = .unbound target ∧ e = .unresolved inner.label target) ∨
        ∃ place typeName subfields, workspace.shape inner = .struct place typeName subfields ∧
          e = .recursiveStruct inner.label typeName) := by
  have hdescribes := width_describes hnode
  rw [h] at hdescribes
  obtain ⟨way, hway, -⟩ := hdescribes
  exact hway.exists_failing

/-! ### Refusals -/

/-- The ways in which a node refuses a text. A list and a dictionary do not ask for the widths of
their parts where there is no text. -/
inductive Refuses (workspace : Workspace) (node : Node) (text : List Char) : Error → Prop where
  | unbound (target) :
      workspace.shape node = .unbound target →
      Refuses workspace node text (.unresolved node.label target)
  | member (members) :
      workspace.shape node = .enum members → text ≠ [] →
      Field.memberValue? members (String.ofList text) = none →
      Refuses workspace node text (.unknownEnumKey node.label (String.ofList text))
  | width (e) :
      workspace.widths (workspace.parts node) = .error e →
      (text = [] → ∃ place typeName subfields,
        workspace.shape node = .struct place typeName subfields) →
      Refuses workspace node text e
  | values (place typeName subfields widths) :
      workspace.shape node = .struct place typeName subfields →
      workspace.widths subfields = .ok widths → widths.sum < (text.splitOn ',').length →
      Refuses workspace node text (.malformedCell node.label (String.ofList text)
        (.tooManyValues typeName widths.sum (text.splitOn ',').length))

/-- A node that does nothing with a text refuses it. -/
theorem refuses_of_portions {node : Node} {text : List Char} {e : Error}
    (h : workspace.portions node text = .error e) : workspace.Refuses node text e := by
  have hparts : ∀ shape, workspace.shape node = shape → workspace.parts node = shape.parts :=
    fun shape hshape => congrArg Shape.parts hshape
  unfold portions at h
  cases hshape : workspace.shape node with
  | primitive kind =>
      rw [hshape] at h
      exact nomatch h
  | list element =>
      simp only [hshape] at h
      split at h
      · exact nomatch h
      · rename_i htext
        rcases bind_eq_error.mp h with h | ⟨width, -, h⟩
        · refine .width e ?_ fun hnil => absurd hnil htext
          rw [hparts _ hshape]
          exact widths_cons_eq_error.mpr (.inl h)
        · exact nomatch h
  | dictionary key value =>
      simp only [hshape] at h
      split at h
      · exact nomatch h
      · rename_i htext
        refine .width e ?_ fun hnil => absurd hnil htext
        rw [hparts _ hshape]
        rcases bind_eq_error.mp h with h | ⟨keyWidth, hkey, h⟩
        · exact widths_cons_eq_error.mpr (.inl h)
        · rcases bind_eq_error.mp h with h | ⟨valueWidth, -, h⟩
          · exact widths_cons_eq_error.mpr
              (.inr ⟨⟨keyWidth, hkey⟩, widths_cons_eq_error.mpr (.inl h)⟩)
          · exact nomatch h
  | struct place typeName subfields =>
      simp only [hshape] at h
      rcases bind_eq_error.mp h with h | ⟨widths, hwidths, h⟩
      · refine .width e ?_ fun _ => ⟨place, typeName, subfields, hshape⟩
        rw [hparts _ hshape]
        exact h
      · split at h
        · rename_i hlength
          cases h
          exact .values place typeName subfields widths hshape hwidths hlength
        · exact nomatch h
  | enum members =>
      simp only [hshape] at h
      rcases bind_eq_error.mp h with h | ⟨own, -, h⟩
      · unfold encodeMember at h
        split at h
        · exact nomatch h
        · rename_i htext
          split at h
          · exact nomatch h
          · rename_i hnone
            cases h
            exact .member members hshape htext hnone
      · exact nomatch h
  | unbound target =>
      rw [hshape] at h
      cases h
      exact .unbound target hshape

/-- A node does nothing with a text that it refuses. -/
theorem portions_of_refuses {node : Node} {text : List Char} {e : Error}
    (h : workspace.Refuses node text e) : workspace.portions node text = .error e := by
  unfold portions
  cases h with
  | unbound target hshape =>
      rw [hshape]
      rfl
  | member members hshape htext hnone =>
      simp only [hshape, encodeMember, if_neg htext, hnone]
      rfl
  | width _ hwidths htext =>
      unfold parts at hwidths
      cases hshape : workspace.shape node with
      | primitive | enum | unbound =>
          rw [hshape] at hwidths
          cases hwidths
      | list element =>
          rw [hshape] at hwidths htext
          have hne : text ≠ [] := by
            intro hnil
            obtain ⟨_, _, _, hstruct⟩ := htext hnil
            cases hstruct
          simp only [if_neg hne]
          rcases widths_cons_eq_error.mp hwidths with h | ⟨-, h⟩
          · exact bind_eq_error.mpr (.inl h)
          · cases h
      | dictionary key value =>
          rw [hshape] at hwidths htext
          have hne : text ≠ [] := by
            intro hnil
            obtain ⟨_, _, _, hstruct⟩ := htext hnil
            cases hstruct
          simp only [if_neg hne]
          rcases widths_cons_eq_error.mp hwidths with h | ⟨⟨keyWidth, hkey⟩, h⟩
          · exact bind_eq_error.mpr (.inl h)
          · rcases widths_cons_eq_error.mp h with h | ⟨-, h⟩
            · exact bind_eq_error.mpr (.inr ⟨keyWidth, hkey, bind_eq_error.mpr (.inl h)⟩)
            · cases h
      | struct place typeName subfields =>
          rw [hshape] at hwidths
          exact bind_eq_error.mpr (.inl hwidths)
  | values place typeName subfields widths hshape hwidths hlength =>
      simp only [hshape, hwidths]
      show (if widths.sum < (text.splitOn ',').length then _ else _) = _
      rw [if_pos hlength]
      rfl

/-- A node has an error for a text exactly if it refuses the text. -/
theorem portions_eq_error {node : Node} {text : List Char} {e : Error} :
    workspace.portions node text = .error e ↔ workspace.Refuses node text e :=
  ⟨refuses_of_portions, portions_of_refuses⟩

/-- What a node refuses is an error of encoding it. -/
theorem encode_of_refuses {node : Node} {text : List Char} {e : Error} (bound : Nat)
    (h : workspace.Refuses node text e) :
    workspace.encodeWithin (bound + 1) node text = .error e := by
  rw [encode_within_succ, bind_eq_error]
  exact .inl (portions_eq_error.mpr h)

/-- Encoding fails where a node refuses what it is handed, if the bound is large enough. -/
theorem refuses_of_encode {bound : Nat} {node : Node} {text : List Char} {e : Error}
    (h : workspace.encodeWithin bound node text = .error e)
    (hends : ∀ label, e ≠ .endless (.stack label)) :
    ∃ call, ReflTransGen workspace.Hands (node, text) call ∧
      workspace.Refuses call.1 call.2 e := by
  induction bound generalizing node text with
  | zero =>
      cases h
      exact absurd rfl (hends node.label)
  | succ bound ih =>
      rw [encode_within_succ] at h
      rcases bind_eq_error.mp h with h | ⟨⟨own, list⟩, hportions, h⟩
      · exact ⟨(node, text), .refl, portions_eq_error.mp h⟩
      · rcases bind_eq_error.mp h with h | ⟨inner, -, h⟩
        · obtain ⟨front, portion, back, rfl, -, hportion⟩ := concat_slots_eq_error.mp h
          obtain ⟨call, hcall, hrefuses⟩ := ih hportion
          refine ⟨call, .head ⟨own, _, hportions, ?_⟩ hcall, hrefuses⟩
          exact List.mem_append_right _ List.mem_cons_self
        · exact nomatch h

/-! ### Texts that are handed on -/

/-- Whatever is handed on has a width and no more values than that. -/
theorem fits_of_hands (hfilled : workspace.Filled) {call inner : Node × List Char}
    (hnode : call.1 ∈ workspace.nodes) (h : TransGen workspace.Hands call inner) :
    ∃ width, workspace.width inner.1 = .ok width ∧ (inner.2.splitOn ',').length ≤ width := by
  obtain ⟨middle, hmiddle, own, list, hportions, hmem⟩ := TransGen.tail'_iff.mp h
  exact length_splitOn_of_portion hfilled (mem_nodes_of_hands hnode hmiddle) hportions hmem

/-- Whatever is handed on consists of consecutive values of the text, or it is empty. -/
theorem values_of_hands {call inner : Node × List Char}
    (h : ReflTransGen workspace.Hands call inner) :
    inner.2 = [] ∨ inner.2.splitOn ',' <:+: call.2.splitOn ',' := by
  induction h with
  | refl => exact .inr (List.infix_refl _)
  | @tail middle inner _ hstep ih =>
      obtain ⟨own, list, hportions, hmem⟩ := hstep
      obtain ⟨-, group, width, hgroup, hinside, -, -⟩ := mem_portions hportions hmem
      rcases ih with hnil | hmiddle
      · rw [hnil] at hportions
        exact .inl (portion_of_nil hportions hmem)
      · by_cases hempty : group = []
        · subst hempty
          exact .inl hgroup
        · right
          have hcommas : ∀ piece ∈ group, ',' ∉ piece := fun piece hpiece =>
            notMem_of_mem_splitOn (hinside.subset hpiece)
          rw [hgroup, List.splitOn_intercalate ',' hcommas hempty]
          exact hinside.trans hmiddle

/-- On a way down through portions the nodes are parts of parts. -/
theorem parts_of_hands {call inner : Node × List Char}
    (h : ReflTransGen workspace.Hands call inner) :
    ReflTransGen (fun outer part => part ∈ workspace.parts outer) call.1 inner.1 := by
  refine ReflTransGen.lift Prod.fst (fun outer part hstep => ?_) _ _ h
  obtain ⟨own, list, hportions, hmem⟩ := hstep
  exact (mem_portions hportions hmem).1

/-- What takes a single value is handed one of the values of the text, or no text. -/
theorem mem_values_of_hands (hfilled : workspace.Filled) {call : Node × List Char} {inner : Node}
    {slot : List Char} (hnode : call.1 ∈ workspace.nodes)
    (h : TransGen workspace.Hands call (inner, slot)) (hsingle : (workspace.shape inner).Single)
    (hslot : slot ≠ []) : slot ∈ call.2.splitOn ',' := by
  obtain ⟨width, hwidth, hlength⟩ := fits_of_hands hfilled hnode h
  obtain rfl := Except.ok.inj ((width_from_single hsingle).symm.trans hwidth)
  have hpos := List.length_pos_of_ne_nil (List.splitOn_ne_nil ',' slot)
  have hcomma : ',' ∉ slot := length_splitOn_eq_one.mp (Nat.le_antisymm hlength hpos)
  rcases values_of_hands h.to_reflTransGen with hnil | hvalues
  · exact absurd hnil hslot
  · rw [List.splitOn_eq_singleton hcomma] at hvalues
    exact hvalues.subset (List.mem_singleton_self slot)

/-- Only a struct refuses a text for the number of its values. -/
theorem refuses_malformed {node : Node} {text : List Char} {label : Label} {raw : String}
    {problem : CellProblem} (hnode : node ∈ workspace.nodes)
    (h : workspace.Refuses node text (.malformedCell label raw problem)) :
    ∃ place typeName subfields widths,
      workspace.shape node = .struct place typeName subfields ∧
      workspace.widths subfields = .ok widths ∧ widths.sum < (text.splitOn ',').length ∧
      label = node.label ∧ raw = String.ofList text ∧
      problem = .tooManyValues typeName widths.sum (text.splitOn ',').length := by
  generalize he : Error.malformedCell label raw problem = e at h
  cases h with
  | unbound | member => exact nomatch he
  | width _ hwidths =>
      subst he
      obtain ⟨part, hpart, herror⟩ := exists_of_widths_eq_error hwidths
      obtain ⟨inner, -, ⟨target, -, h⟩ | ⟨place, typeName, subfields, -, h⟩⟩ :=
        width_eq_error (mem_nodes_of_part hnode hpart) herror
      · exact nomatch h
      · exact nomatch h
  | values place typeName subfields widths hshape hwidths hlength =>
      cases he
      exact ⟨place, typeName, subfields, widths, hshape, hwidths, hlength, rfl, rfl, rfl⟩

/-- A text that is handed on is not refused for the number of its values. -/
theorem not_malformed_of_hands (hfilled : workspace.Filled) {call inner : Node × List Char}
    (hnode : call.1 ∈ workspace.nodes) (h : TransGen workspace.Hands call inner) {label : Label}
    {raw : String} {problem : CellProblem} :
    ¬ workspace.Refuses inner.1 inner.2 (.malformedCell label raw problem) := by
  intro hrefuses
  have hinner := mem_nodes_of_hands hnode h.to_reflTransGen
  obtain ⟨width, hwidth, hlength⟩ := fits_of_hands hfilled hnode h
  obtain ⟨place, typeName, subfields, widths, hshape, hwidths, hmore, -⟩ :=
    refuses_malformed hinner hrefuses
  obtain ⟨same, hsame, rfl⟩ := width_of_struct hshape hwidth
  obtain rfl := Except.ok.inj (hwidths.symm.trans hsame)
  omega

/-- A node that refuses a text has no other result for it. -/
theorem encode_text_of_refuses {node : Node} {text : String} {e : Error}
    (hnode : node ∈ workspace.nodes) (hends : ∀ label, e ≠ .endless (.stack label))
    (h : workspace.Refuses node (escape text.toList) e) :
    workspace.encodeText node text = .error e := by
  have hencode := encode_of_refuses 0 h
  have hone : ¬ Endless (workspace.encodeWithin 1 node (escape text.toList)) := by
    rw [hencode]
    intro hendless
    obtain ⟨label, hlabel⟩ := hendless
    exact hends label (Except.error.inj hlabel)
  rw [encode_text_of_ends hnode hone, hencode]

/-! ### Too many values -/

/-- Whatever a node leads to has a width if the references among it have targets and the structs
among it have widths. -/
theorem exists_width_of_targeted {node inner : Node} (htargeted : workspace.Targeted node)
    (hmeasured : workspace.Measured node)
    (h : ReflTransGen (fun outer part => part ∈ workspace.parts outer) node inner) :
    ∃ width, workspace.width inner = .ok width := by
  cases hshape : workspace.shape inner with
  | struct place typeName subfields => exact hmeasured inner h place typeName subfields hshape
  | unbound target => exact absurd hshape (htargeted inner h target)
  | primitive | list | dictionary | enum =>
      exact ⟨1, width_from_single (by rw [hshape]; exact True.intro)⟩

/-- A text that names no member is the name of none. -/
theorem name_ne_of_member_value {members : List Member} {name : String}
    (h : Field.memberValue? members name = none) : ∀ member ∈ members, member.name ≠ name := by
  rw [Field.memberValue?, Option.map_eq_none_iff, List.find?_eq_none] at h
  intro member hmember hname
  exact h member hmember (beq_iff_eq.mpr hname)

/-- Encoding a text fails for the number of its values exactly if the node itself is a struct, or a
reference to one, whose subfields have widths and take fewer values than the text has; the error
names the node and holds the whole text. Nothing that is handed on fails for that reason. Where
every reference has a target and every struct a width, only one other error is possible: a value
that is not empty and names no member of the enum that it is handed to. -/
theorem malformed_cell_iff (hbuilt : workspace.Built) {node : Node}
    (hnode : node ∈ workspace.nodes) (text : String) :
    (∀ label raw problem,
      workspace.encodeText node text = .error (.malformedCell label raw problem) ↔
        ∃ place typeName subfields widths,
          workspace.shape node = .struct place typeName subfields ∧
          workspace.widths subfields = .ok widths ∧
          widths.sum < ((escape text.toList).splitOn ',').length ∧
          label = node.label ∧ raw = escapeString text ∧
          problem = .tooManyValues typeName widths.sum ((escape text.toList).splitOn ',').length) ∧
    (∀ inner, TransGen workspace.Hands (node, escape text.toList) inner →
      ∀ bound label raw problem,
        workspace.encodeWithin bound inner.1 inner.2 ≠ .error (.malformedCell label raw problem)) ∧
    (workspace.Targeted node → workspace.Measured node →
      ∀ e, workspace.encodeText node text = .error e → (∀ label, e ≠ .endless (.stack label)) →
        (∃ label raw problem, e = .malformedCell label raw problem) ∨
        ∃ inner slot members,
          ReflTransGen workspace.Hands (node, escape text.toList) (inner, slot) ∧
          workspace.shape inner = .enum members ∧
          (slot ∈ (escape text.toList).splitOn ',' ∨ (inner, slot) = (node, escape text.toList)) ∧
          slot ≠ [] ∧ (∀ member ∈ members, member.name ≠ String.ofList slot) ∧
          e = .unknownEnumKey inner.label (String.ofList slot)) := by
  have hfilled := filled_of_built hbuilt
  refine ⟨fun label raw problem => ⟨fun h => ?_, fun h => ?_⟩,
    fun inner hinner bound label raw problem h => ?_, fun htargeted hmeasured e h hends => ?_⟩
  · obtain ⟨call, hcall, hrefuses⟩ := refuses_of_encode h (fun _ => nofun)
    rcases reflTransGen_iff_eq_or_transGen.mp hcall with rfl | hcall
    · exact refuses_malformed hnode hrefuses
    · exact absurd hrefuses (not_malformed_of_hands hfilled hnode hcall)
  · obtain ⟨place, typeName, subfields, widths, hshape, hwidths, hlength, rfl, rfl, rfl⟩ := h
    exact encode_text_of_refuses hnode (fun _ => nofun)
      (.values place typeName subfields widths hshape hwidths hlength)
  · obtain ⟨call, hcall, hrefuses⟩ := refuses_of_encode h (fun _ => nofun)
    exact not_malformed_of_hands hfilled hnode (hinner.trans_left hcall) hrefuses
  · obtain ⟨⟨inner, slot⟩, hcall, hrefuses⟩ := refuses_of_encode h hends
    have hreached := parts_of_hands hcall
    cases hrefuses with
    | unbound target hshape => exact absurd hshape (htargeted inner hreached target)
    | width _ hwidths =>
        obtain ⟨part, hpart, herror⟩ := exists_of_widths_eq_error hwidths
        obtain ⟨width, hwidth⟩ :=
          exists_width_of_targeted htargeted hmeasured (hreached.tail hpart)
        exact nomatch hwidth.symm.trans herror
    | values => exact .inl ⟨_, _, _, rfl⟩
    | member members hshape hslot hnone =>
        refine .inr ⟨inner, slot, members, hcall, hshape, ?_, hslot,
          name_ne_of_member_value hnone, rfl⟩
        rcases reflTransGen_iff_eq_or_transGen.mp hcall with hsame | hhanded
        · exact .inr hsame
        · have hsingle : (workspace.shape inner).Single := by
            rw [hshape]
            exact True.intro
          exact .inl (mem_values_of_hands hfilled hnode hhanded hsingle hslot)

/-- The number of a graded item. -/
def gradedId : Node :=
  ⟨⟨0, [0, 0]⟩, .primitive ⟨"Items", "id"⟩ .int⟩

/-- The grade of a graded item. -/
def gradedTier : Node :=
  ⟨⟨0, [1, 0]⟩, .enum ⟨"Items", "tier"⟩ "E" [⟨"Low", 0⟩, ⟨"High", 1⟩]⟩

/-- An item with a number and a grade. -/
def gradedItem : Node :=
  ⟨⟨0, [0]⟩, .struct ⟨"Items", "item"⟩ "Item" [gradedId.field, gradedTier.field]⟩

/-- A table of graded items. -/
def gradedItems : Scheme :=
  ⟨"Items", [gradedItem.field]⟩

/-- The table of graded items is built from its header rows. -/
theorem graded_items_built : (resolved [gradedItems]).Built := by
  refine built_resolved fun scheme hscheme => ?_
  obtain rfl := List.mem_singleton.mp hscheme
  refine ⟨English.inflector, ["item"], ["Struct<int,id,Enum<Low,0,High,1>,tier>"], ?_⟩
  cbv

/-- A graded item leads to its number and its grade. -/
theorem mem_of_graded_item {inner : Node}
    (h : ReflTransGen (fun outer part => part ∈ (resolved [gradedItems]).parts outer)
      gradedItem inner) : inner ∈ [gradedItem, gradedId, gradedTier] := by
  refine mem_of_has_part List.mem_cons_self ?_ h
  simp only [List.forall_mem_cons]
  refine ⟨fun part hpart => List.mem_cons_of_mem _ hpart, List.nil_subset _, List.nil_subset _,
    fun _ h => absurd h List.not_mem_nil⟩

/-- All that a graded item leads to has a target. -/
theorem targeted_graded_item : (resolved [gradedItems]).Targeted gradedItem := by
  intro inner hinner target
  have hmem := mem_of_graded_item hinner
  simp only [List.mem_cons, List.not_mem_nil, or_false] at hmem
  rcases hmem with rfl | rfl | rfl <;> exact nofun

/-- The column of graded items is one of the nodes. -/
theorem mem_graded_item : gradedItem ∈ (resolved [gradedItems]).nodes :=
  columns_subset_nodes _ 0 (List.mem_singleton_self _)

/-- The number and the grade of an item take a value each. -/
theorem widths_graded_item :
    (resolved [gradedItems]).widths [gradedId, gradedTier] = .ok [1, 1] :=
  widths_eq_ok.mpr
    (.cons (width_from_single True.intro) (.cons (width_from_single True.intro) .nil))

/-- All structs that a graded item leads to have widths. -/
theorem measured_graded_item : (resolved [gradedItems]).Measured gradedItem := by
  intro inner hinner place typeName subfields hshape
  have hmem := mem_of_graded_item hinner
  simp only [List.mem_cons, List.not_mem_nil, or_false] at hmem
  rcases hmem with rfl | rfl | rfl
  · exact ⟨2, width_of_widths mem_graded_item rfl widths_graded_item⟩
  · exact nomatch hshape
  · exact nomatch hshape

/-- A grade that there is not is refused. -/
theorem encode_graded_item : (resolved [gradedItems]).encodeText gradedItem "1,Mid" =
    .error (.unknownEnumKey ⟨"Items", "tier"⟩ "Mid") := by
  cbv

/-- Three values are too many for an item, and the grade of another one is refused. -/
theorem graded_item_refused :
    (resolved [gradedItems]).Built ∧ gradedItem ∈ (resolved [gradedItems]).nodes ∧
    (resolved [gradedItems]).Targeted gradedItem ∧ (resolved [gradedItems]).Measured gradedItem ∧
    (resolved [gradedItems]).encodeText gradedItem "1,Low,2" =
      .error (.malformedCell ⟨"Items", "item"⟩ "1,Low,2" (.tooManyValues "Item" 2 3)) ∧
    (resolved [gradedItems]).encodeText gradedItem "1,Mid" =
      .error (.unknownEnumKey ⟨"Items", "tier"⟩ "Mid") ∧
    ∃ inner slot members,
      ReflTransGen (resolved [gradedItems]).Hands (gradedItem, "1,Mid".toList) (inner, slot) ∧
      (resolved [gradedItems]).shape inner = .enum members ∧ slot ∈ "1,Mid".toList.splitOn ',' ∧
      ∀ member ∈ members, member.name ≠ String.ofList slot := by
  refine ⟨graded_items_built, mem_graded_item, targeted_graded_item, measured_graded_item, ?_,
    encode_graded_item, ?_⟩
  · refine ((malformed_cell_iff graded_items_built mem_graded_item "1,Low,2").1 _ _ _).mpr ?_
    exact ⟨_, "Item", _, _, rfl, widths_graded_item, by decide, rfl, rfl, rfl⟩
  · obtain ⟨label, raw, problem, h⟩ | ⟨inner, slot, members, hhands, hshape, hslot, -, hnames, -⟩ :=
      (malformed_cell_iff graded_items_built mem_graded_item "1,Mid").2.2 targeted_graded_item
        measured_graded_item _ encode_graded_item (fun _ => nofun)
    · exact nomatch h
    · rcases hslot with hslot | hsame
      · exact ⟨inner, slot, members, hhands, hshape, hslot, hnames⟩
      · obtain ⟨rfl, -⟩ := Prod.mk.inj hsame
        exact nomatch hshape

end Workspace

end SheetWire
