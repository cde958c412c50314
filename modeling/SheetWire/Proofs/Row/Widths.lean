import Mathlib
import SheetWire.Proofs.Outcome
import SheetWire.Proofs.Workspace.Nodes
import SheetWire.Row.Encoding

/-!
# Widths of structs and of their subfields

A width is summed with the structs above it closed, but the width of a subfield is also asked for on
its own. `width_of_struct` and `width_of_widths` say that this makes no difference: a struct has a
width exactly when all its subfields have one, and then it is their sum. `width_induction` is the
induction over a type that has a width.
-/

namespace SheetWire

/-- Whether a value of the shape takes a single one of the comma-separated values. -/
def Shape.Single : Shape → Prop
  | .struct _ _ _ => False
  | .unbound _ => False
  | _ => True

/-- A shape that is neither a struct nor without a target takes a single value. -/
theorem Shape.single_of_ne {shape : Shape}
    (hstruct : ∀ place typeName subfields, shape = .struct place typeName subfields → False)
    (hunbound : ∀ target, shape = .unbound target → False) : shape.Single := by
  cases shape with
  | struct place typeName subfields => exact hstruct _ _ _ rfl
  | unbound target => exact hunbound _ rfl
  | primitive | list | dictionary | enum => exact True.intro

namespace Workspace

variable {workspace : Workspace}

/-- The width of a struct that may be entered is the sum over its subfields. -/
theorem width_from_struct {closed : List Place} {node : Node} {place : Place} {typeName : String}
    {subfields : List Node} (h : workspace.shape node = .struct place typeName subfields) :
    workspace.widthFrom closed node =
      if place ∈ closed then workspace.totalWidth (closed.erase place) subfields
      else .error (.recursiveStruct node.label typeName) := by
  rw [widthFrom, h]
  simp only
  split <;> rfl

/-- A reference without a target has no width. -/
theorem width_from_unbound {closed : List Place} {node : Node} {target : TypeKey}
    (h : workspace.shape node = .unbound target) :
    workspace.widthFrom closed node = .error (.unresolved node.label target) := by
  rw [widthFrom, h]
  rfl

/-- Anything else takes one value. -/
theorem width_from_single {closed : List Place} {node : Node}
    (h : (workspace.shape node).Single) : workspace.widthFrom closed node = .ok 1 := by
  rw [widthFrom]
  split
  · rename_i hshape
    rw [hshape] at h
    exact h.elim
  · rename_i hshape
    rw [hshape] at h
    exact h.elim
  · rfl

/-- The sum over nodes is the sum of their widths. -/
theorem total_width_eq_ok {closed : List Place} {nodes : List Node} {total : Nat} :
    workspace.totalWidth closed nodes = .ok total ↔
      ∃ widths : List Nat, List.Forall₂ (fun node width =>
        workspace.widthFrom closed node = .ok width) nodes widths ∧ widths.sum = total := by
  induction nodes generalizing total with
  | nil =>
      rw [totalWidth]
      constructor
      · intro h
        obtain ⟨⟩ := h
        exact ⟨[], .nil, rfl⟩
      · intro h
        obtain ⟨widths, hwidths, rfl⟩ := h
        cases hwidths
        rfl
  | cons node rest ih =>
      rw [totalWidth, bind_eq_ok]
      simp only [bind_eq_ok, ih]
      constructor
      · intro h
        obtain ⟨first, hfirst, others, ⟨widths, hwidths, rfl⟩, ⟨⟩⟩ := h
        exact ⟨first :: widths, .cons hfirst hwidths, List.sum_cons⟩
      · intro h
        obtain ⟨widths, hwidths, rfl⟩ := h
        cases hwidths with
        | cons hfirst hrest => exact ⟨_, hfirst, _, ⟨_, hrest, rfl⟩, by rw [List.sum_cons]; rfl⟩

/-- The widths of nodes that stand side by side are their widths one by one. -/
theorem widths_eq_ok {nodes : List Node} {widths : List Nat} :
    workspace.widths nodes = .ok widths ↔
      List.Forall₂ (fun node width => workspace.width node = .ok width) nodes widths := by
  induction nodes generalizing widths with
  | nil =>
      rw [List.forall₂_nil_left_iff, Workspace.widths]
      exact ⟨fun h => (Except.ok.inj h).symm, fun h => by rw [h]; rfl⟩
  | cons node rest ih =>
      rw [Workspace.widths, List.forall₂_cons_left_iff, bind_cons_eq_ok]
      simp only [ih]

/-- The widths of two lists of nodes one after the other. -/
theorem widths_append {front back : List Node} {widths : List Nat} :
    workspace.widths (front ++ back) = .ok widths ↔
      ∃ frontWidths backWidths, workspace.widths front = .ok frontWidths ∧
        workspace.widths back = .ok backWidths ∧ widths = frontWidths ++ backWidths := by
  simp only [widths_eq_ok]
  constructor
  · intro h
    have hfront := List.forall₂_take front.length h
    have hback := List.forall₂_drop front.length h
    rw [List.take_left] at hfront
    rw [List.drop_left] at hback
    exact ⟨_, _, hfront, hback, (List.take_append_drop front.length widths).symm⟩
  · intro h
    obtain ⟨frontWidths, backWidths, hfront, hback, rfl⟩ := h
    exact List.rel_append hfront hback

/-- The recursion that sums a width has no bound that could be too small. -/
theorem not_endless_width_from (closed : List Place) (node : Node) :
    ¬ Endless (workspace.widthFrom closed node) := by
  refine (widthFrom.mutual_induct workspace
    (fun closed node => ¬ Endless (workspace.widthFrom closed node))
    (fun closed nodes => ¬ Endless (workspace.totalWidth closed nodes))
    ?_ ?_ ?_ ?_ ?_ ?_).1 closed node
  · intro closed node place typeName subfields hshape hmem ih
    rwa [width_from_struct hshape, if_pos hmem]
  · intro closed node place typeName subfields hshape hmem
    rw [width_from_struct hshape, if_neg hmem]
    intro h
    obtain ⟨label, h⟩ := h
    exact nomatch h
  · intro closed node target hshape
    rw [width_from_unbound hshape]
    intro h
    obtain ⟨label, h⟩ := h
    exact nomatch h
  · intro closed node hstruct hunbound
    rw [width_from_single (Shape.single_of_ne hstruct hunbound)]
    exact not_endless_ok 1
  · intro closed
    rw [totalWidth]
    exact not_endless_ok 0
  · intro closed node rest ihnode ihrest
    rw [totalWidth, endless_bind]
    intro h
    rcases h with h | ⟨first, -, h⟩
    · exact ihnode h
    · rcases endless_bind.mp h with h | ⟨others, -, h⟩
      · exact ihrest h
      · exact not_endless_ok _ h

/-- Summing the widths of nodes has no bound that could be too small. -/
theorem not_endless_widths (nodes : List Node) : ¬ Endless (workspace.widths nodes) := by
  induction nodes with
  | nil => exact not_endless_ok []
  | cons node rest ih =>
      rw [widths, endless_bind]
      intro h
      rcases h with h | ⟨first, -, h⟩
      · exact not_endless_width_from _ _ h
      · rcases endless_bind.mp h with h | ⟨others, -, h⟩
        · exact ih h
        · exact not_endless_ok _ h

/-- The induction over a sum that succeeds. -/
theorem width_from_induction {motive : List Place → Node → Nat → Prop}
    (single : ∀ closed node, (workspace.shape node).Single → motive closed node 1)
    (struct : ∀ closed node place typeName subfields widths,
      workspace.shape node = .struct place typeName subfields → place ∈ closed →
      workspace.totalWidth (closed.erase place) subfields = .ok widths.sum →
      List.Forall₂ (fun subfield width => motive (closed.erase place) subfield width)
        subfields widths → motive closed node widths.sum)
    {closed : List Place} {node : Node} {width : Nat}
    (h : workspace.widthFrom closed node = .ok width) : motive closed node width := by
  refine (widthFrom.mutual_induct workspace
    (fun closed node => ∀ width, workspace.widthFrom closed node = .ok width →
      motive closed node width)
    (fun closed nodes => ∀ total, workspace.totalWidth closed nodes = .ok total →
      ∃ widths : List Nat, List.Forall₂ (motive closed) nodes widths ∧ widths.sum = total)
    ?_ ?_ ?_ ?_ ?_ ?_).1 closed node width h
  · intro closed node place typeName subfields hshape hmem ih width h
    rw [width_from_struct hshape, if_pos hmem] at h
    obtain ⟨widths, hwidths, rfl⟩ := ih width h
    exact struct closed node place typeName subfields widths hshape hmem h hwidths
  · intro closed node place typeName subfields hshape hmem width h
    rw [width_from_struct hshape, if_neg hmem] at h
    exact nomatch h
  · intro closed node target hshape width h
    rw [width_from_unbound hshape] at h
    exact nomatch h
  · intro closed node hstruct hunbound width h
    have hsingle := Shape.single_of_ne hstruct hunbound
    rw [width_from_single hsingle] at h
    cases h
    exact single closed node hsingle
  · intro closed total h
    rw [totalWidth] at h
    cases h
    exact ⟨[], .nil, rfl⟩
  · intro closed node rest ihnode ihrest total h
    rw [totalWidth, bind_eq_ok] at h
    obtain ⟨first, hfirst, h⟩ := h
    obtain ⟨others, hothers, h⟩ := bind_eq_ok.mp h
    cases h
    obtain ⟨widths, hwidths, rfl⟩ := ihrest others hothers
    exact ⟨first :: widths, .cons (ihnode first hfirst) hwidths, List.sum_cons⟩

/-- A width does not change when more structs may be entered. -/
theorem width_from_of_subperm {closed more : List Place} {node : Node} {width : Nat}
    (hmore : closed.Subperm more) (h : workspace.widthFrom closed node = .ok width) :
    workspace.widthFrom more node = .ok width := by
  refine width_from_induction (motive := fun closed node width =>
    ∀ more, closed.Subperm more → workspace.widthFrom more node = .ok width) ?_ ?_ h more hmore
  · intro closed node hsingle more _
    exact width_from_single hsingle
  · intro closed node place typeName subfields widths hshape hmem _ ih more hmore
    rw [width_from_struct hshape, if_pos (hmore.subset hmem), total_width_eq_ok]
    exact ⟨widths, ih.imp fun _ _ hsubfield => hsubfield _ (hmore.erase place), rfl⟩

/-- A sum of widths does not change when more structs may be entered. -/
theorem total_width_of_subperm {closed more : List Place} {nodes : List Node} {total : Nat}
    (hmore : closed.Subperm more) (h : workspace.totalWidth closed nodes = .ok total) :
    workspace.totalWidth more nodes = .ok total := by
  obtain ⟨widths, hwidths, rfl⟩ := total_width_eq_ok.mp h
  exact total_width_eq_ok.mpr
    ⟨widths, hwidths.imp fun _ _ hwidth => width_from_of_subperm hmore hwidth, rfl⟩

/-- Whether a struct at a place is summed with some structs open. -/
def SumsAt (workspace : Workspace) (closed : List Place) (place : Place) : Prop :=
  ∃ node ∈ workspace.nodes, ∃ typeName subfields total,
    workspace.shape node = .struct place typeName subfields ∧
    workspace.totalWidth closed subfields = .ok total

/-- Summing a width does without a place, or the struct at the place is summed without it. -/
theorem width_from_erase {closed : List Place} {node : Node} {width : Nat} (place : Place)
    (hnode : node ∈ workspace.nodes) (h : workspace.widthFrom closed node = .ok width) :
    workspace.widthFrom (closed.erase place) node = .ok width ∨
      workspace.SumsAt (closed.erase place) place := by
  refine width_from_induction (motive := fun closed node width => node ∈ workspace.nodes →
    workspace.widthFrom (closed.erase place) node = .ok width ∨
      workspace.SumsAt (closed.erase place) place) ?_ ?_ h hnode
  · intro closed node hsingle _
    exact .inl (width_from_single hsingle)
  · intro closed node other typeName subfields widths hshape hmem htotal ih hnode
    -- Either this struct is the one at the place, or it lies above that one or does without it.
    by_cases hplace : other = place
    · subst hplace
      exact .inr ⟨node, hnode, typeName, subfields, widths.sum, hshape, htotal⟩
    have hmem' : other ∈ closed.erase place := (List.mem_erase_of_ne hplace).mpr hmem
    rw [width_from_struct hshape, if_pos hmem', List.erase_comm, total_width_eq_ok]
    by_cases hsums : workspace.SumsAt ((closed.erase other).erase place) place
    · obtain ⟨inner, hinner, innerName, innerFields, total, hstruct, hsum⟩ := hsums
      have hperm : ((closed.erase other).erase place).Subperm (closed.erase place) :=
        (List.erase_sublist.subperm).erase place
      exact .inr ⟨inner, hinner, innerName, innerFields, total, hstruct,
        total_width_of_subperm hperm hsum⟩
    · left
      have hboth := (List.forall₂_and_left _ _).mpr ⟨mem_nodes_of_subfield hnode hshape, ih⟩
      refine ⟨widths, hboth.imp fun subfield width hsubfield => ?_, rfl⟩
      exact (hsubfield.2 hsubfield.1).resolve_right hsums

/-- The subfields of a struct that has a width have widths, and it takes what they take together. -/
theorem width_of_struct {node : Node} {place : Place} {typeName : String} {subfields : List Node}
    {width : Nat} (hshape : workspace.shape node = .struct place typeName subfields)
    (h : workspace.width node = .ok width) :
    ∃ widths, workspace.widths subfields = .ok widths ∧ widths.sum = width := by
  rw [Workspace.width, width_from_struct hshape] at h
  split at h
  · obtain ⟨widths, hwidths, rfl⟩ := total_width_eq_ok.mp h
    refine ⟨widths, widths_eq_ok.mpr (hwidths.imp fun _ _ hwidth => ?_), rfl⟩
    exact width_from_of_subperm List.erase_sublist.subperm hwidth
  · exact nomatch h

/-- A struct whose subfields have widths takes what they take together. -/
theorem width_of_widths {node : Node} {place : Place} {typeName : String} {subfields : List Node}
    {widths : List Nat} (hnode : node ∈ workspace.nodes)
    (hshape : workspace.shape node = .struct place typeName subfields)
    (h : workspace.widths subfields = .ok widths) : workspace.width node = .ok widths.sum := by
  have hwidths := widths_eq_ok.mp h
  rw [Workspace.width, width_from_struct hshape, if_pos (mem_struct_places hnode hshape),
    total_width_eq_ok]
  -- If a subfield needs the struct to be open, the struct was summed below itself, from the same
  -- subfields, and with itself closed.
  by_cases hsums : workspace.SumsAt (workspace.structPlaces.erase place) place
  · obtain ⟨other, hother, otherName, others, total, hstruct, hsum⟩ := hsums
    obtain rfl := subfields_unique hnode hother hshape hstruct
    obtain ⟨found, hfound, rfl⟩ := total_width_eq_ok.mp hsum
    have hsame : workspace.widths others = .ok found :=
      widths_eq_ok.mpr (hfound.imp fun _ _ hwidth =>
        width_from_of_subperm List.erase_sublist.subperm hwidth)
    rw [h] at hsame
    cases hsame
    exact ⟨widths, hfound, rfl⟩
  · have hboth := (List.forall₂_and_left _ _).mpr ⟨mem_nodes_of_subfield hnode hshape, hwidths⟩
    refine ⟨widths, hboth.imp fun subfield width hsubfield => ?_, rfl⟩
    exact (width_from_erase place hsubfield.1 hsubfield.2).resolve_right hsums

/-- Every width is at least one where no struct is empty. -/
theorem width_pos (hfilled : workspace.Filled) {node : Node} {width : Nat}
    (hnode : node ∈ workspace.nodes) (h : workspace.width node = .ok width) : 0 < width := by
  refine width_from_induction (motive := fun _ node width => node ∈ workspace.nodes → 0 < width)
    ?_ ?_ h hnode
  · intro _ node _ _
    exact Nat.one_pos
  · intro _ node place typeName subfields widths hshape _ _ ih hnode
    have hboth := (List.forall₂_and_left _ _).mpr ⟨mem_nodes_of_subfield hnode hshape, ih⟩
    cases hboth with
    | nil => exact absurd rfl (hfilled.subfields_ne_nil hnode hshape)
    | cons hfirst hrest =>
        rw [List.sum_cons]
        exact Nat.add_pos_left (hfirst.2 hfirst.1) _

/-- The induction over a node that has a width: it takes a single value, or all its subfields have
widths. -/
theorem width_induction {motive : Node → Prop}
    (single : ∀ node, (workspace.shape node).Single → motive node)
    (struct : ∀ node place typeName subfields,
      workspace.shape node = .struct place typeName subfields →
      (∀ subfield ∈ subfields, motive subfield) → motive node)
    {node : Node} {width : Nat} (h : workspace.width node = .ok width) : motive node := by
  refine width_from_induction (motive := fun _ node _ => motive node) ?_ ?_ h
  · exact fun _ => single
  · intro _ node place typeName subfields widths hshape _ _ ih
    refine struct node place typeName subfields hshape fun subfield hsubfield => ?_
    have hboth : List.Forall₂ (fun subfield (_ : Nat) => motive subfield ∧ True) subfields widths :=
      ih.imp fun _ _ hmotive => ⟨hmotive, True.intro⟩
    exact ((List.forall₂_and_left _ _).mp hboth).1 subfield hsubfield

end Workspace

end SheetWire
