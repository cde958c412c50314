import SheetWire.Proofs.BoundedRecursion
import SheetWire.Proofs.Row.Widths
import SheetWire.Proofs.Text.Groups

/-!
# One step of encoding

Encoding a node writes some slots and hands portions of the text to the parts of the node.
`Workspace.portions` says which, without encoding anything, and `encode_within_succ` that encoding a
node is writing its own slots and encoding its portions in order. A portion is the whole text or a
shorter one, so the bound that `Workspace.encodeText` takes is never the reason for an answer
(`encode_text_of_ends`).
-/

namespace SheetWire

open Relation Text Number

section ConcatSlots

variable {α β : Type} {encode other : α → Except Error Slots} {list : List α}

/-- Encoding the images of elements. -/
theorem concat_slots_map (f : β → α) (xs : List β) :
    concatSlots encode (xs.map f) = concatSlots (fun x => encode (f x)) xs := by
  induction xs with
  | nil => rfl
  | cons x xs ih => rw [List.map_cons, concatSlots, concatSlots, ih]

/-- Encoding elements that are encoded alike one by one. -/
theorem concat_slots_of_forall_two {twin : β → Except Error Slots} {twins : List β}
    (h : List.Forall₂ (fun x y => encode x = twin y) list twins) :
    concatSlots encode list = concatSlots twin twins := by
  induction h with
  | nil => rfl
  | cons hfirst _ ih => rw [concatSlots, concatSlots, hfirst, ih]

/-- Encoding two things for each element. -/
theorem concat_slots_pairs (f g : β → α) (xs : List β) :
    concatSlots encode (xs.flatMap fun x => [f x, g x]) =
      concatSlots (fun x => do
        let first ← encode (f x)
        let second ← encode (g x)
        pure (first ++ second)) xs := by
  induction xs with
  | nil => rfl
  | cons x xs ih =>
      rw [List.flatMap_cons, List.cons_append, List.cons_append, List.nil_append]
      simp only [concatSlots, ih, bind_assoc, pure_bind, List.append_assoc]

/-- Encoding in the same way wherever the first way comes to an end. -/
theorem concat_slots_congr (h : ∀ x ∈ list, ¬ Endless (encode x) → other x = encode x)
    (hends : ¬ Endless (concatSlots encode list)) :
    concatSlots other list = concatSlots encode list := by
  induction list with
  | nil => rfl
  | cons x list ih =>
      rw [concatSlots, endless_bind, not_or] at hends
      rw [concatSlots, concatSlots, h x List.mem_cons_self hends.1]
      cases hfirst : encode x with
      | error e => rfl
      | ok first =>
          have hlist : ¬ Endless (concatSlots encode list) :=
            fun hlist => hends.2 ⟨first, hfirst, endless_bind.mpr (.inl hlist)⟩
          rw [ih (fun y hy => h y (List.mem_cons_of_mem x hy)) hlist]

/-- Encoding a list does not come to an end only where one of its elements does not. -/
theorem exists_endless_of_concat_slots (h : Endless (concatSlots encode list)) :
    ∃ x ∈ list, Endless (encode x) := by
  induction list with
  | nil => exact absurd h (not_endless_ok _)
  | cons x list ih =>
      rw [concatSlots] at h
      rcases endless_bind.mp h with h | ⟨first, -, h⟩
      · exact ⟨x, List.mem_cons_self, h⟩
      · rcases endless_bind.mp h with h | ⟨others, -, h⟩
        · obtain ⟨y, hy, hendless⟩ := ih h
          exact ⟨y, List.mem_cons_of_mem x hy, hendless⟩
        · exact absurd h (not_endless_ok _)

/-- Encoding a list whose elements give slots. -/
theorem concat_slots_settles {pieces : List Slots}
    (h : List.Forall₂ (fun x piece => Settles (encode x) (.ok piece)) list pieces) :
    Settles (concatSlots encode list) (.ok pieces.flatten) := by
  induction h with
  | nil => exact .inr rfl
  | cons hfirst _ ih => exact hfirst.bind_ok (ih.bind_ok (.inr rfl))

/-- Encoding a list with an element that fails, and nothing that fails before it. -/
theorem concat_slots_settles_error {x : α} {front back : List α} {e : Error}
    (hfront : ∀ y ∈ front, ∃ piece, Settles (encode y) (.ok piece))
    (h : Settles (encode x) (.error e)) :
    Settles (concatSlots encode (front ++ x :: back)) (.error e) := by
  induction front with
  | nil => exact h.bind_error
  | cons y front ih =>
      obtain ⟨piece, hpiece⟩ := hfront y List.mem_cons_self
      exact hpiece.bind_ok (ih fun z hz => hfront z (List.mem_cons_of_mem y hz)).bind_error

end ConcatSlots

namespace Workspace

variable {workspace : Workspace}

/-- What a node does with a text: the slots that it writes itself, and the texts that it hands to
its parts, in the order in which they are encoded. -/
def portions (workspace : Workspace) (node : Node) (text : List Char) :
    Except Error (Slots × List (Node × List Char)) :=
  match workspace.shape node with
  | .primitive _ => pure ([text], [])
  | .list element =>
      if text = [] then pure ([digits 0], [])
      else do
        let width ← workspace.width element
        let groups := runs width (text.splitOn ',')
        pure ([digits groups.length], groups.map fun group => (element, [','].intercalate group))
  | .dictionary key value =>
      if text = [] then pure ([digits 0], [])
      else do
        let keyWidth ← workspace.width key
        let valueWidth ← workspace.width value
        let entries := runs (keyWidth + valueWidth) (text.splitOn ',')
        pure ([digits entries.length], entries.flatMap fun entry =>
          [(key, [','].intercalate (entry.take keyWidth)),
            (value, [','].intercalate (entry.drop keyWidth))])
  | .struct _ typeName subfields => do
      let widths ← workspace.widths subfields
      let parts := text.splitOn ','
      if widths.sum < parts.length then
        throw (.malformedCell node.label (String.ofList text)
          (.tooManyValues typeName widths.sum parts.length))
      else
        pure ([], (subfields.zip (deal widths parts)).map fun (subfield, group) =>
          (subfield, [','].intercalate group))
  | .enum members => do
      let slots ← encodeMember node.label members text
      pure (slots, [])
  | .unbound target => throw (.unresolved node.label target)

/-- The slots of the texts that nodes are handed, one after another. -/
def encodePortions (workspace : Workspace) (bound : Nat) (list : List (Node × List Char)) :
    Except Error Slots :=
  concatSlots (fun portion => workspace.encodeWithin bound portion.1 portion.2) list

/-- Encoding a node is writing its own slots and encoding its portions. -/
theorem encode_within_succ (bound : Nat) (node : Node) (text : List Char) :
    workspace.encodeWithin (bound + 1) node text = (do
      let (slots, list) ← workspace.portions node text
      let inner ← workspace.encodePortions bound list
      pure (slots ++ inner)) := by
  rw [encodeWithin, portions]
  cases workspace.shape node with
  | primitive kind => rfl
  | list element =>
      simp only
      split
      · rfl
      · simp only [bind_assoc, pure_bind, encodePortions, concat_slots_map]
        rfl
  | dictionary key value =>
      simp only
      split
      · rfl
      · simp only [bind_assoc, pure_bind, encodePortions, concat_slots_pairs]
        rfl
  | struct place typeName subfields =>
      simp only [bind_assoc, capacity_eq_sum]
      congr 1
      funext widths
      split
      · rfl
      · simp only [pure_bind, encodePortions, concat_slots_map, List.nil_append, bind_pure]
  | enum members =>
      simp only [bind_assoc, pure_bind, encodePortions, concatSlots, List.append_nil, bind_pure]
  | unbound target => rfl

/-- Saying what a node does with a text has no bound that could be too small. -/
theorem not_endless_portions (node : Node) (text : List Char) :
    ¬ Endless (workspace.portions node text) := by
  unfold portions
  cases workspace.shape node with
  | primitive kind => exact not_endless_ok _
  | list element =>
      simp only
      split
      · exact not_endless_ok _
      · rw [endless_bind]
        intro h
        rcases h with h | ⟨width, -, h⟩
        · exact not_endless_width_from _ _ h
        · exact not_endless_ok _ h
  | dictionary key value =>
      simp only
      split
      · exact not_endless_ok _
      · rw [endless_bind]
        intro h
        rcases h with h | ⟨keyWidth, -, h⟩
        · exact not_endless_width_from _ _ h
        · rcases endless_bind.mp h with h | ⟨valueWidth, -, h⟩
          · exact not_endless_width_from _ _ h
          · exact not_endless_ok _ h
  | struct place typeName subfields =>
      rw [endless_bind]
      intro h
      rcases h with h | ⟨widths, -, h⟩
      · exact not_endless_widths subfields h
      · simp only at h
        split at h
        · obtain ⟨label, h⟩ := h
          exact nomatch h
        · exact not_endless_ok _ h
  | enum members =>
      rw [endless_bind]
      intro h
      rcases h with ⟨label, h⟩ | ⟨slots, -, h⟩
      · rw [encodeMember] at h
        split at h
        · exact nomatch h
        · split at h <;> exact nomatch h
      · exact not_endless_ok _ h
  | unbound target =>
      intro h
      obtain ⟨label, h⟩ := h
      exact nomatch h

/-- All that a node can do with a text: its own slots and the portions that it hands on. -/
inductive Portioned (workspace : Workspace) (node : Node) (text : List Char) :
    Slots → List (Node × List Char) → Prop where
  | primitive (kind) :
      workspace.shape node = .primitive kind → Portioned workspace node text [text] []
  | noMember (members) :
      workspace.shape node = .enum members → text = [] → Portioned workspace node text [[]] []
  | member (members number) :
      workspace.shape node = .enum members → text ≠ [] →
      Field.memberValue? members (String.ofList text) = some number →
      Portioned workspace node text [decimal number.toInt] []
  | emptyList (element) :
      workspace.shape node = .list element → text = [] →
      Portioned workspace node text [digits 0] []
  | list (element width) :
      workspace.shape node = .list element → text ≠ [] → workspace.width element = .ok width →
      Portioned workspace node text [digits (runs width (text.splitOn ',')).length]
        ((runs width (text.splitOn ',')).map fun group => (element, [','].intercalate group))
  | emptyDictionary (key value) :
      workspace.shape node = .dictionary key value → text = [] →
      Portioned workspace node text [digits 0] []
  | dictionary (key value keyWidth valueWidth) :
      workspace.shape node = .dictionary key value → text ≠ [] →
      workspace.width key = .ok keyWidth → workspace.width value = .ok valueWidth →
      Portioned workspace node text
        [digits (runs (keyWidth + valueWidth) (text.splitOn ',')).length]
        ((runs (keyWidth + valueWidth) (text.splitOn ',')).flatMap fun entry =>
          [(key, [','].intercalate (entry.take keyWidth)),
            (value, [','].intercalate (entry.drop keyWidth))])
  | struct (place typeName subfields widths) :
      workspace.shape node = .struct place typeName subfields →
      workspace.widths subfields = .ok widths → (text.splitOn ',').length ≤ widths.sum →
      Portioned workspace node text []
        ((subfields.zip (deal widths (text.splitOn ','))).map fun (subfield, group) =>
          (subfield, [','].intercalate group))

/-- What a node does with a text is one of these. -/
theorem portioned_of_ok {node : Node} {text : List Char} {slots : Slots}
    {list : List (Node × List Char)} (h : workspace.portions node text = .ok (slots, list)) :
    workspace.Portioned node text slots list := by
  unfold portions at h
  cases hshape : workspace.shape node with
  | primitive kind =>
      rw [hshape] at h
      cases h
      exact .primitive kind hshape
  | list element =>
      simp only [hshape] at h
      split at h
      · rename_i htext
        cases h
        exact .emptyList element hshape htext
      · rename_i htext
        obtain ⟨width, hwidth, h⟩ := bind_eq_ok.mp h
        cases h
        exact .list element width hshape htext hwidth
  | dictionary key value =>
      simp only [hshape] at h
      split at h
      · rename_i htext
        cases h
        exact .emptyDictionary key value hshape htext
      · rename_i htext
        obtain ⟨keyWidth, hkey, h⟩ := bind_eq_ok.mp h
        obtain ⟨valueWidth, hvalue, h⟩ := bind_eq_ok.mp h
        cases h
        exact .dictionary key value keyWidth valueWidth hshape htext hkey hvalue
  | struct place typeName subfields =>
      simp only [hshape] at h
      obtain ⟨widths, hwidths, h⟩ := bind_eq_ok.mp h
      split at h
      · exact nomatch h
      · rename_i hlength
        cases h
        exact .struct place typeName subfields widths hshape hwidths (Nat.not_lt.mp hlength)
  | enum members =>
      simp only [hshape] at h
      obtain ⟨own, hown, h⟩ := bind_eq_ok.mp h
      cases h
      unfold encodeMember at hown
      split at hown
      · rename_i htext
        cases hown
        exact .noMember members hshape htext
      · rename_i htext
        split at hown
        · rename_i number hnumber
          cases hown
          exact .member members number hshape htext hnumber
        · exact nomatch hown
  | unbound target =>
      rw [hshape] at h
      exact nomatch h

/-- Each of these is what a node does with a text. -/
theorem portions_of_portioned {node : Node} {text : List Char} {slots : Slots}
    {list : List (Node × List Char)} (h : workspace.Portioned node text slots list) :
    workspace.portions node text = .ok (slots, list) := by
  unfold portions
  cases h with
  | primitive kind hshape =>
      rw [hshape]
      rfl
  | noMember members hshape htext =>
      rw [hshape, htext]
      rfl
  | member members number hshape htext hnumber =>
      simp only [hshape, encodeMember, if_neg htext, hnumber]
      rfl
  | emptyList element hshape htext | emptyDictionary _ element hshape htext =>
      simp only [hshape, if_pos htext]
      rfl
  | list element width hshape htext hwidth =>
      simp only [hshape, if_neg htext, hwidth]
      rfl
  | dictionary key value keyWidth valueWidth hshape htext hkey hvalue =>
      simp only [hshape, if_neg htext, hkey, hvalue]
      rfl
  | struct place typeName subfields widths hshape hwidths hlength =>
      simp only [hshape, hwidths]
      show (if widths.sum < (text.splitOn ',').length then _ else _) = _
      rw [if_neg (Nat.not_lt.mpr hlength)]
      rfl

/-- Nodes with widths are dealt consecutive parts, no more of them than each takes. -/
theorem mem_zip_deal {nodes : List Node} {widths : List Nat} {parts group : List (List Char)}
    {node : Node} (hwidths : workspace.widths nodes = .ok widths)
    (h : (node, group) ∈ nodes.zip (deal widths parts)) :
    node ∈ nodes ∧ ∃ width, workspace.width node = .ok width ∧
      group <:+: parts ∧ group.length ≤ width := by
  obtain ⟨position, hposition⟩ := List.mem_iff_getElem?.mp h
  obtain ⟨hnode, hgroup⟩ := List.getElem?_zip_eq_some.mp hposition
  obtain ⟨hinside, width, hwidth, hlength⟩ := deal_spec hgroup
  have hpaired : (node, width) ∈ nodes.zip widths := List.mem_iff_getElem?.mpr
    ⟨position, List.getElem?_zip_eq_some.mpr ⟨hnode, hwidth⟩⟩
  exact ⟨List.mem_of_getElem? hnode, width, List.forall₂_zip (widths_eq_ok.mp hwidths) hpaired,
    hinside, hlength⟩

/-- A portion goes to a part of the node and consists of consecutive parts of the text, no more of
them than the part takes. -/
theorem mem_portions {node part : Node} {text inner : List Char} {slots : Slots}
    {list : List (Node × List Char)} (h : workspace.portions node text = .ok (slots, list))
    (hmem : (part, inner) ∈ list) :
    part ∈ workspace.parts node ∧ ∃ group width, inner = [','].intercalate group ∧
      group <:+: text.splitOn ',' ∧ workspace.width part = .ok width ∧
      group.length ≤ max 1 width := by
  unfold parts
  cases portioned_of_ok h with
  | primitive | noMember | member | emptyList | emptyDictionary =>
      exact absurd hmem List.not_mem_nil
  | list element width hshape htext hwidth =>
      obtain ⟨group, hgroup, hportion⟩ := List.mem_map.mp hmem
      cases hportion
      obtain ⟨hinside, -, hlength⟩ := runs_spec hgroup
      rw [hshape]
      exact ⟨List.mem_singleton_self _, group, width, rfl, hinside, hwidth, hlength⟩
  | dictionary key value keyWidth valueWidth hshape htext hkey hvalue =>
      obtain ⟨entry, hentry, hportion⟩ := List.mem_flatMap.mp hmem
      obtain ⟨hinside, -, hlength⟩ := runs_spec hentry
      rw [hshape]
      rcases List.mem_cons.mp hportion with hportion | hportion
      · cases hportion
        refine ⟨List.mem_cons_self, _, keyWidth, rfl, ?_, hkey, ?_⟩
        · exact (List.take_prefix _ entry).isInfix.trans hinside
        · have htake := List.length_take_le keyWidth entry
          omega
      · cases List.mem_singleton.mp hportion
        refine ⟨List.mem_cons_of_mem _ (List.mem_singleton_self _), _, valueWidth, rfl, ?_,
          hvalue, ?_⟩
        · exact (List.drop_suffix _ entry).isInfix.trans hinside
        · rw [List.length_drop]
          omega
  | struct place typeName subfields widths hshape hwidths hlength =>
      obtain ⟨⟨subfield, group⟩, hpair, hportion⟩ := List.mem_map.mp hmem
      cases hportion
      obtain ⟨hsubfield, width, hwidth, hinside, hlength⟩ := mem_zip_deal hwidths hpair
      rw [hshape]
      exact ⟨hsubfield, group, width, rfl, hinside, hwidth,
        Nat.le_trans hlength (Nat.le_max_right 1 width)⟩

/-- A portion is the whole text or a shorter one. -/
theorem text_of_portion {node part : Node} {text inner : List Char} {slots : Slots}
    {list : List (Node × List Char)} (h : workspace.portions node text = .ok (slots, list))
    (hmem : (part, inner) ∈ list) : inner = text ∨ inner.length < text.length := by
  obtain ⟨-, group, width, rfl, hinside, -, -⟩ := mem_portions h hmem
  have hglue : [','].intercalate group = [','].intercalate (text.splitOn ',') ∨
      ([','].intercalate group).length < ([','].intercalate (text.splitOn ',')).length :=
    intercalate_of_infix hinside
  rwa [List.intercalate_splitOn] at hglue

/-- A portion of no text is no text. -/
theorem portion_of_nil {node part : Node} {inner : List Char} {slots : Slots}
    {list : List (Node × List Char)} (h : workspace.portions node [] = .ok (slots, list))
    (hmem : (part, inner) ∈ list) : inner = [] := by
  rcases text_of_portion h hmem with hsame | hshorter
  · exact hsame
  · exact absurd hshorter (Nat.not_lt_zero _)

/-- A portion has no more parts than the node that it goes to takes. -/
theorem length_splitOn_of_portion (hfilled : workspace.Filled) {node part : Node}
    {text inner : List Char} {slots : Slots} {list : List (Node × List Char)}
    (hnode : node ∈ workspace.nodes) (h : workspace.portions node text = .ok (slots, list))
    (hmem : (part, inner) ∈ list) :
    ∃ width, workspace.width part = .ok width ∧ (inner.splitOn ',').length ≤ width := by
  obtain ⟨hpart, group, width, rfl, hinside, hwidth, hlength⟩ := mem_portions h hmem
  have hpos := width_pos hfilled (mem_nodes_of_part hnode hpart) hwidth
  refine ⟨width, hwidth, ?_⟩
  -- No parts are glued to a text that has one, which a node takes at least.
  by_cases hgroup : group = []
  · subst hgroup
    exact hpos
  · have hcommas : ∀ piece ∈ group, ',' ∉ piece := fun piece hpiece =>
      notMem_of_mem_splitOn (hinside.subset hpiece)
    rw [List.splitOn_intercalate ',' hcommas hgroup]
    omega

/-- The parts of a node that hands portions on have widths. -/
theorem widths_of_portions {node : Node} {text : List Char} {slots : Slots}
    {list : List (Node × List Char)} (h : workspace.portions node text = .ok (slots, list))
    (hlist : list ≠ []) : ∃ widths, workspace.widths (workspace.parts node) = .ok widths := by
  unfold parts
  cases portioned_of_ok h with
  | primitive | noMember | member | emptyList | emptyDictionary => exact absurd rfl hlist
  | list element width hshape htext hwidth =>
      rw [hshape]
      exact ⟨[width], widths_eq_ok.mpr (.cons hwidth .nil)⟩
  | dictionary key value keyWidth valueWidth hshape htext hkey hvalue =>
      rw [hshape]
      exact ⟨[keyWidth, valueWidth], widths_eq_ok.mpr (.cons hkey (.cons hvalue .nil))⟩
  | struct place typeName subfields widths hshape hwidths hlength =>
      rw [hshape]
      exact ⟨widths, hwidths⟩

/-- Only a struct hands no text on. -/
theorem struct_of_portions_nil {node : Node} {slots : Slots} {list : List (Node × List Char)}
    (h : workspace.portions node [] = .ok (slots, list)) (hlist : list ≠ []) :
    ∃ place typeName subfields, workspace.shape node = .struct place typeName subfields := by
  cases portioned_of_ok h with
  | primitive | noMember | member | emptyList | emptyDictionary => exact absurd rfl hlist
  | list _ _ _ htext => exact absurd rfl htext
  | dictionary _ _ _ _ _ htext => exact absurd rfl htext
  | struct place typeName subfields _ hshape => exact ⟨place, typeName, subfields, hshape⟩

/-- A struct deals a text out to its subfields if they take enough of its parts. -/
theorem portions_of_struct {node : Node} {place : Place} {typeName : String}
    {subfields : List Node} {text : List Char} {widths : List Nat}
    (hshape : workspace.shape node = .struct place typeName subfields)
    (hwidths : workspace.widths subfields = .ok widths)
    (hlength : (text.splitOn ',').length ≤ widths.sum) :
    workspace.portions node text = .ok ([],
      (subfields.zip (deal widths (text.splitOn ','))).map fun (part, group) =>
        (part, [','].intercalate group)) :=
  portions_of_portioned (.struct place typeName subfields widths hshape hwidths hlength)

/-- A text with no more parts than the parts of a node take together is dealt out to them once. -/
theorem portions_of_length_le {node : Node} {text : List Char} {widths : List Nat}
    (hparts : workspace.parts node ≠ []) (htext : text ≠ [])
    (hwidths : workspace.widths (workspace.parts node) = .ok widths)
    (hlength : (text.splitOn ',').length ≤ widths.sum) :
    ∃ slots, workspace.portions node text = .ok (slots,
      ((workspace.parts node).zip (deal widths (text.splitOn ','))).map fun (part, group) =>
        (part, [','].intercalate group)) := by
  unfold portions
  unfold parts at hparts hwidths ⊢
  cases hshape : workspace.shape node with
  | list element =>
      rw [hshape] at hwidths
      obtain ⟨width, hwidth, hrest⟩ := bind_eq_ok.mp hwidths
      cases hrest
      rw [List.sum_cons, List.sum_nil, Nat.add_zero] at hlength
      refine ⟨[digits 1], ?_⟩
      simp only [if_neg htext, hwidth]
      show Except.ok _ = _
      rw [runs_of_length_le (List.splitOn_ne_nil _ _) hlength]
      simp [Shape.parts, deal, List.take_of_length_le hlength]
  | dictionary key value =>
      rw [hshape] at hwidths
      obtain ⟨keyWidth, hkey, hrest⟩ := bind_eq_ok.mp hwidths
      obtain ⟨others, hothers, hrest⟩ := bind_eq_ok.mp hrest
      cases hrest
      obtain ⟨valueWidth, hvalue, hrest⟩ := bind_eq_ok.mp hothers
      cases hrest
      simp only [List.sum_cons, List.sum_nil, Nat.add_zero] at hlength
      refine ⟨[digits 1], ?_⟩
      simp only [if_neg htext, hkey, hvalue]
      show Except.ok _ = _
      rw [runs_of_length_le (List.splitOn_ne_nil _ _) hlength]
      have hdrop : ((text.splitOn ',').drop keyWidth).length ≤ valueWidth := by
        rw [List.length_drop]
        omega
      simp [Shape.parts, deal, List.take_of_length_le hdrop]
  | struct place typeName subfields =>
      rw [hshape] at hwidths
      have hportions := portions_of_struct hshape hwidths hlength
      unfold portions at hportions
      rw [hshape] at hportions
      exact ⟨[], hportions⟩
  | primitive kind =>
      rw [hshape] at hparts
      exact absurd rfl hparts
  | enum members =>
      rw [hshape] at hparts
      exact absurd rfl hparts
  | unbound target =>
      rw [hshape] at hparts
      exact absurd rfl hparts

/-- Encoding a list of portions in the same way wherever the first way comes to an end. -/
theorem encode_portions_congr {bound other : Nat} {list : List (Node × List Char)}
    (h : ∀ portion ∈ list, ¬ Endless (workspace.encodeWithin bound portion.1 portion.2) →
      workspace.encodeWithin other portion.1 portion.2 =
        workspace.encodeWithin bound portion.1 portion.2)
    (hends : ¬ Endless (workspace.encodePortions bound list)) :
    workspace.encodePortions other list = workspace.encodePortions bound list :=
  concat_slots_congr h hends

/-- Encoding a node with a text takes a bound that was too small exactly where a portion does. -/
theorem endless_encode_within_succ {bound : Nat} {node : Node} {text : List Char} :
    Endless (workspace.encodeWithin (bound + 1) node text) ↔
      ∃ slots list, workspace.portions node text = .ok (slots, list) ∧
        Endless (workspace.encodePortions bound list) := by
  rw [encode_within_succ, endless_bind, or_iff_right (not_endless_portions node text)]
  constructor
  · intro h
    obtain ⟨⟨slots, list⟩, hportions, h⟩ := h
    rcases endless_bind.mp h with h | ⟨inner, -, h⟩
    · exact ⟨slots, list, hportions, h⟩
    · exact absurd h (not_endless_ok _)
  · intro h
    obtain ⟨slots, list, hportions, h⟩ := h
    exact ⟨(slots, list), hportions, endless_bind.mpr (.inl h)⟩

/-- Encoding a node gives its own slots and those of its portions. -/
theorem encode_settles {bound : Nat} {node : Node} {text : List Char} {own : Slots}
    {list : List (Node × List Char)} {pieces : List Slots}
    (h : workspace.portions node text = .ok (own, list))
    (hlist : List.Forall₂ (fun portion piece =>
      Settles (workspace.encodeWithin bound portion.1 portion.2) (.ok piece)) list pieces) :
    Settles (workspace.encodeWithin (bound + 1) node text) (.ok (own ++ pieces.flatten)) := by
  rw [encode_within_succ, h]
  exact (concat_slots_settles hlist).bind_ok (.inr rfl)

/-- Encoding a node fails with the first of its portions that fails. -/
theorem encode_settles_error {bound : Nat} {node part : Node} {text inner : List Char} {own : Slots}
    {front back : List (Node × List Char)} {e : Error}
    (h : workspace.portions node text = .ok (own, front ++ (part, inner) :: back))
    (hfront : ∀ portion ∈ front, ∃ piece,
      Settles (workspace.encodeWithin bound portion.1 portion.2) (.ok piece))
    (hpart : Settles (workspace.encodeWithin bound part inner) (.error e)) :
    Settles (workspace.encodeWithin (bound + 1) node text) (.error e) := by
  rw [encode_within_succ, h]
  exact (concat_slots_settles_error hfront hpart).bind_error

/-- What has been encoded has a width. -/
theorem width_of_encoded {bound : Nat} {node : Node} {text : List Char} {slots : Slots}
    (hnode : node ∈ workspace.nodes) (h : workspace.encodeWithin bound node text = .ok slots) :
    ∃ width, workspace.width node = .ok width := by
  cases bound with
  | zero => exact nomatch h
  | succ bound =>
      rw [encode_within_succ] at h
      obtain ⟨⟨own, list⟩, hportions, -⟩ := bind_eq_ok.mp h
      cases portioned_of_ok hportions with
      | struct place typeName subfields widths hshape hwidths =>
          exact ⟨widths.sum, width_of_widths hnode hshape hwidths⟩
      | primitive _ hshape | noMember _ hshape | member _ _ hshape | emptyList _ hshape
      | list _ _ hshape | emptyDictionary _ _ hshape | dictionary _ _ _ _ hshape =>
          exact ⟨1, width_from_single (by rw [hshape]; exact True.intro)⟩

/-- One node with its text hands a portion to another. -/
def Hands (workspace : Workspace) (call inner : Node × List Char) : Prop :=
  ∃ slots list, workspace.portions call.1 call.2 = .ok (slots, list) ∧ inner ∈ list

/-- On a way down through portions a text gets shorter or stays as it is. -/
theorem text_of_hands {call inner : Node × List Char}
    (h : ReflTransGen workspace.Hands call inner) :
    inner.2 = call.2 ∨ inner.2.length < call.2.length := by
  induction h with
  | refl => exact .inl rfl
  | tail _ hstep ih =>
      obtain ⟨slots, list, hportions, hmem⟩ := hstep
      rcases text_of_portion hportions hmem with hsame | hshorter
      · rwa [hsame]
      · rcases ih with ih | ih
        · exact .inr (ih ▸ hshorter)
        · exact .inr (Nat.lt_trans hshorter ih)

/-- Where there is no text, none is handed on. -/
theorem text_nil_of_hands {call inner : Node × List Char}
    (h : ReflTransGen workspace.Hands call inner) (hnil : call.2 = []) : inner.2 = [] := by
  rcases text_of_hands h with hsame | hshorter
  · rw [hsame, hnil]
  · rw [hnil] at hshorter
    exact absurd hshorter (Nat.not_lt_zero _)

/-- A way down through portions stays among the nodes of the workspace. -/
theorem mem_nodes_of_hands {call inner : Node × List Char} (hnode : call.1 ∈ workspace.nodes)
    (h : ReflTransGen workspace.Hands call inner) : inner.1 ∈ workspace.nodes := by
  induction h with
  | refl => exact hnode
  | tail _ hstep ih =>
      obtain ⟨slots, list, hportions, hmem⟩ := hstep
      exact mem_nodes_of_part ih (mem_portions hportions hmem).1

/-- The recursion that encodes. On a way down a node with a text is told apart by the length of the
text. -/
def encoding (workspace : Workspace) :
    BoundedRecursion (Node × List Char) (Except Error Slots) (Node × Nat) where
  eval := fun bound call => workspace.encodeWithin bound call.1 call.2
  endless := Endless
  calls := workspace.Hands
  key := fun call => (call.1, call.2.length)
  endless_zero := fun call => ⟨call.1.label, rfl⟩
  eval_congr := by
    intro bound other call h hends
    rw [encode_within_succ, encode_within_succ]
    cases hportions : workspace.portions call.1 call.2 with
    | error e => rfl
    | ok portions =>
        obtain ⟨slots, list⟩ := portions
        have hinner : ¬ Endless (workspace.encodePortions bound list) := fun hinner =>
          hends (endless_encode_within_succ.mpr ⟨slots, list, hportions, hinner⟩)
        have hsame : workspace.encodePortions other list = workspace.encodePortions bound list :=
          encode_portions_congr (fun portion hmem => h portion ⟨slots, list, hportions, hmem⟩)
            hinner
        show (workspace.encodePortions other list >>= _) =
          (workspace.encodePortions bound list >>= _)
        rw [hsame]
  endless_inner := by
    intro bound call h
    obtain ⟨slots, list, hportions, hinner⟩ := endless_encode_within_succ.mp h
    obtain ⟨portion, hmem, hendless⟩ := exists_endless_of_concat_slots hinner
    exact ⟨portion, ⟨slots, list, hportions, hmem⟩, hendless⟩
  eq_of_key := by
    intro call inner h hkey
    obtain ⟨hnode, hlength⟩ := Prod.mk.inj hkey
    rcases text_of_hands h with htext | hshorter
    · exact Prod.ext hnode htext.symm
    · omega

open Classical in
/-- The nodes of a workspace, each with every length up to one. -/
noncomputable def recursionKeys (workspace : Workspace) (length : Nat) : Finset (Node × Nat) :=
  workspace.nodes.toFinset ×ˢ Finset.range (length + 1)

/-- The nodes with the lengths up to that of the text cover a call. -/
theorem covers_encoding {node : Node} (hnode : node ∈ workspace.nodes) (text : List Char) :
    workspace.encoding.Covers (workspace.recursionKeys text.length) (node, text) := by
  intro inner h
  have hlength : inner.2.length ≤ text.length := by
    rcases text_of_hands h with hsame | hshorter
    · exact Nat.le_of_eq (congrArg List.length hsame)
    · exact Nat.le_of_lt hshorter
  classical
  refine Finset.mem_product.mpr ⟨List.mem_toFinset.mpr (mem_nodes_of_hands hnode h), ?_⟩
  exact Finset.mem_range.mpr (Nat.lt_succ_of_le hlength)

/-- There are no more such keys than the bound that is taken. -/
theorem card_recursion_keys (node : Node) (length : Nat) :
    (workspace.recursionKeys length).card ≤ workspace.recursionBound node length := by
  classical
  unfold recursionKeys recursionBound
  rw [Finset.card_product, Finset.card_range]
  have hcard := workspace.nodes.toFinset_card_le
  refine Nat.mul_le_mul ?_ (by omega)
  refine Nat.le_trans hcard ?_
  omega

/-- Encoding the text of a cell has the result that it has under any bound that is large enough. -/
theorem encode_text_of_ends {node : Node} {text : String} {bound : Nat}
    (hnode : node ∈ workspace.nodes)
    (h : ¬ Endless (workspace.encodeWithin bound node (escape text.toList))) :
    workspace.encodeText node text = workspace.encodeWithin bound node (escape text.toList) :=
  workspace.encoding.eval_of_card_le (covers_encoding hnode _)
    (card_recursion_keys node _) h

end Workspace

end SheetWire
