import SheetWire.Proofs.Definition.Filled
import SheetWire.Proofs.Row.Widths
import SheetWire.Proofs.Workspace.Places

/-!
# The width counts the leaves of the unfolding

A node unfolds from the first subfield to the last, a struct into its subfields and a reference to a
struct into those of the struct. The way down ends at a leaf (anything that takes a single value),
at a reference without a target, or at a struct that the way has entered already (`Stops`).
`width_counts_leaves` says that the width is the number of ways to leaves if there are no others,
and that it is otherwise an error of the first way that ends elsewhere. The order of the walk is the
lexicographic order of the ways, each given by the positions of the subfields on it.
-/

namespace SheetWire

/-- A number counts ways if they all end at leaves and there are as many of them. -/
def Counts (stops : List Nat → Option Error → Prop) (count : Nat) : Prop :=
  (∀ way failure, ¬ stops way (some failure)) ∧
    ∃ leaves : List (List Nat), leaves.Nodup ∧ leaves.length = count ∧
      ∀ way, way ∈ leaves ↔ stops way none

/-- A failure is the first among ways if one of them ends with it and all that end with a failure
come later. -/
def FailsFirst (stops : List Nat → Option Error → Prop) (failure : Error) : Prop :=
  ∃ way, stops way (some failure) ∧
    ∀ other otherFailure, stops other (some otherFailure) → way = other ∨ way < other

/-- Ways are counted by one number only. -/
theorem Counts.unique {stops : List Nat → Option Error → Prop} {count other : Nat}
    (h : Counts stops count) (hother : Counts stops other) : count = other := by
  obtain ⟨-, leaves, hnodup, rfl, hleaves⟩ := h
  obtain ⟨-, others, hothers, rfl, hsame⟩ := hother
  have hperm : leaves.Perm others := (List.perm_ext_iff_of_nodup hnodup hothers).mpr fun way => by
    rw [hleaves, hsame]
  exact hperm.length_eq

/-- Where ways are counted, none of them ends with a failure. -/
theorem Counts.not_fails_first {stops : List Nat → Option Error → Prop} {count : Nat}
    {failure : Error} (h : Counts stops count) : ¬ FailsFirst stops failure := by
  intro hfirst
  obtain ⟨way, hway, -⟩ := hfirst
  exact h.1 way failure hway

/-- There is one first failure where each way ends in one manner. -/
theorem FailsFirst.unique {stops : List Nat → Option Error → Prop} {failure other : Error}
    (h : FailsFirst stops failure) (hother : FailsFirst stops other)
    (hstops : ∀ way mark otherMark, stops way mark → stops way otherMark → mark = otherMark) :
    failure = other := by
  obtain ⟨way, hway, hfirst⟩ := h
  obtain ⟨otherWay, hotherWay, hotherFirst⟩ := hother
  rcases hfirst otherWay other hotherWay with rfl | hlt
  · exact Option.some.inj (hstops way _ _ hway hotherWay)
  · rcases hotherFirst way failure hway with rfl | hgt
    · exact absurd hlt (List.lt_irrefl _)
    · exact absurd (List.lt_trans hlt hgt) (List.lt_irrefl _)

/-- A single way to a leaf counts as one. -/
theorem counts_one : Counts (fun way mark => way = [] ∧ mark = none) 1 := by
  refine ⟨fun way failure h => absurd h.2 nofun, [[]], List.nodup_singleton _, rfl, fun way => ?_⟩
  rw [List.mem_singleton]
  exact ⟨fun h => ⟨h, rfl⟩, fun h => h.1⟩

/-- No ways count as none. -/
theorem counts_zero {stops : List Nat → Option Error → Prop} (h : ∀ way mark, ¬ stops way mark) :
    Counts stops 0 := by
  refine ⟨fun way failure => h way _, [], List.nodup_nil, rfl, fun way => ?_⟩
  exact ⟨fun hway => absurd hway List.not_mem_nil, fun hway => absurd hway (h way _)⟩

/-- The failure of a single way is the first. -/
theorem fails_first_single (failure : Error) :
    FailsFirst (fun way mark => way = [] ∧ mark = some failure) failure := by
  refine ⟨[], ⟨rfl, rfl⟩, fun other otherFailure h => .inl h.1.symm⟩

namespace Workspace

/-- The way down from a node, given by the positions of the subfields on it, ends when the structs
at some places have been entered already: at a leaf, or with the failure of a reference without a
target or of a struct that comes up again. -/
inductive Stops (workspace : Workspace) :
    List Place → Node → List Nat → Option Error → Prop where
  | leaf {opened : List Place} {node : Node} (hsingle : (workspace.shape node).Single) :
      Stops workspace opened node [] none
  | unbound {opened : List Place} {node : Node} {target : TypeKey}
      (hshape : workspace.shape node = .unbound target) :
      Stops workspace opened node [] (some (.unresolved node.label target))
  | recursive {opened : List Place} {node : Node} {place : Place} {typeName : String}
      {subfields : List Node} (hshape : workspace.shape node = .struct place typeName subfields)
      (hopened : place ∈ opened) :
      Stops workspace opened node [] (some (.recursiveStruct node.label typeName))
  | subfield {opened : List Place} {node : Node} {place : Place} {typeName : String}
      {subfields : List Node} {position : Nat} {subfield : Node} {way : List Nat}
      {mark : Option Error} (hshape : workspace.shape node = .struct place typeName subfields)
      (hclosed : place ∉ opened) (hsubfield : subfields[position]? = some subfield)
      (hway : Stops workspace (place :: opened) subfield way mark) :
      Stops workspace opened node (position :: way) mark

variable {workspace : Workspace}

/-- The ways down through nodes that stand side by side, the first of them at a position. -/
def StopsBeside (workspace : Workspace) (opened : List Place) (first : Nat) (nodes : List Node)
    (way : List Nat) (mark : Option Error) : Prop :=
  ∃ position node below, nodes[position]? = some node ∧ way = (first + position) :: below ∧
    workspace.Stops opened node below mark

/-- A way down ends in one manner. -/
theorem Stops.unique {opened : List Place} {node : Node} {way : List Nat}
    {mark other : Option Error} (h : workspace.Stops opened node way mark)
    (hother : workspace.Stops opened node way other) : mark = other := by
  induction h generalizing other with
  | leaf hsingle =>
      cases hother with
      | leaf _ => rfl
      | unbound hshape | recursive hshape =>
          rw [hshape] at hsingle
          exact hsingle.elim
  | unbound hshape =>
      cases hother with
      | leaf hsingle =>
          rw [hshape] at hsingle
          exact hsingle.elim
      | unbound hother =>
          rw [hshape] at hother
          cases hother
          rfl
      | recursive hother =>
          rw [hshape] at hother
          exact nomatch hother
  | recursive hshape =>
      cases hother with
      | leaf hsingle =>
          rw [hshape] at hsingle
          exact hsingle.elim
      | unbound hother =>
          rw [hshape] at hother
          exact nomatch hother
      | recursive hother =>
          rw [hshape] at hother
          cases hother
          rfl
  | subfield hshape _ hsubfield _ ih =>
      cases hother with
      | subfield hother _ hfound hway =>
          rw [hshape] at hother
          cases hother
          rw [hsubfield] at hfound
          cases hfound
          exact ih hway

/-- From a leaf there is no way down. -/
theorem stops_of_single {opened : List Place} {node : Node} (h : (workspace.shape node).Single) :
    workspace.Stops opened node = fun way mark => way = [] ∧ mark = none := by
  funext way mark
  refine propext ⟨fun hstops => ?_, fun hstops => ?_⟩
  · cases hstops with
    | leaf _ => exact ⟨rfl, rfl⟩
    | unbound hshape | recursive hshape | subfield hshape =>
        rw [hshape] at h
        exact h.elim
  · obtain ⟨rfl, rfl⟩ := hstops
    exact .leaf h

/-- From a reference without a target there is no way down. -/
theorem stops_of_unbound {opened : List Place} {node : Node} {target : TypeKey}
    (h : workspace.shape node = .unbound target) :
    workspace.Stops opened node =
      fun way mark => way = [] ∧ mark = some (.unresolved node.label target) := by
  funext way mark
  refine propext ⟨fun hstops => ?_, fun hstops => ?_⟩
  · cases hstops with
    | leaf hsingle =>
        rw [h] at hsingle
        exact hsingle.elim
    | unbound hshape =>
        rw [h] at hshape
        cases hshape
        exact ⟨rfl, rfl⟩
    | recursive hshape | subfield hshape =>
        rw [h] at hshape
        exact nomatch hshape
  · obtain ⟨rfl, rfl⟩ := hstops
    exact .unbound h

/-- From a struct that was entered before there is no way down. -/
theorem stops_of_opened {opened : List Place} {node : Node} {place : Place} {typeName : String}
    {subfields : List Node} (h : workspace.shape node = .struct place typeName subfields)
    (hopened : place ∈ opened) :
    workspace.Stops opened node =
      fun way mark => way = [] ∧ mark = some (.recursiveStruct node.label typeName) := by
  funext way mark
  refine propext ⟨fun hstops => ?_, fun hstops => ?_⟩
  · cases hstops with
    | leaf hsingle =>
        rw [h] at hsingle
        exact hsingle.elim
    | unbound hshape =>
        rw [h] at hshape
        exact nomatch hshape
    | recursive hshape _ =>
        rw [h] at hshape
        cases hshape
        exact ⟨rfl, rfl⟩
    | subfield hshape hclosed =>
        rw [h] at hshape
        cases hshape
        exact absurd hopened hclosed
  · obtain ⟨rfl, rfl⟩ := hstops
    exact .recursive h hopened

/-- From a struct the ways go down through its subfields. -/
theorem stops_of_closed {opened : List Place} {node : Node} {place : Place} {typeName : String}
    {subfields : List Node} (h : workspace.shape node = .struct place typeName subfields)
    (hclosed : place ∉ opened) :
    workspace.Stops opened node = workspace.StopsBeside (place :: opened) 0 subfields := by
  funext way mark
  refine propext ⟨fun hstops => ?_, fun hstops => ?_⟩
  · cases hstops with
    | leaf hsingle =>
        rw [h] at hsingle
        exact hsingle.elim
    | unbound hshape =>
        rw [h] at hshape
        exact nomatch hshape
    | recursive hshape hopened =>
        rw [h] at hshape
        cases hshape
        exact absurd hopened hclosed
    | @subfield _ _ _ _ _ position subfield below _ hshape _ hsubfield hbelow =>
        rw [h] at hshape
        cases hshape
        exact ⟨position, subfield, below, hsubfield, by rw [Nat.zero_add], hbelow⟩
  · obtain ⟨position, subfield, below, hsubfield, rfl, hbelow⟩ := hstops
    rw [Nat.zero_add]
    exact .subfield h hclosed hsubfield hbelow

/-- The ways through nodes side by side go through the first of them or through the others. -/
theorem stops_beside_cons {opened : List Place} {first : Nat} {node : Node} {rest : List Node}
    {way : List Nat} {mark : Option Error} :
    workspace.StopsBeside opened first (node :: rest) way mark ↔
      (∃ below, way = first :: below ∧ workspace.Stops opened node below mark) ∨
        workspace.StopsBeside opened (first + 1) rest way mark := by
  constructor
  · intro h
    obtain ⟨position, found, below, hfound, rfl, hbelow⟩ := h
    cases position with
    | zero =>
        cases hfound
        exact .inl ⟨below, rfl, hbelow⟩
    | succ position =>
        exact .inr ⟨position, found, below, hfound, by rw [Nat.add_assoc, Nat.add_comm 1], hbelow⟩
  · intro h
    rcases h with ⟨below, rfl, hbelow⟩ | ⟨position, found, below, hfound, rfl, hbelow⟩
    · exact ⟨0, node, below, rfl, rfl, hbelow⟩
    · exact ⟨position + 1, found, below, hfound, by rw [Nat.add_assoc, Nat.add_comm 1], hbelow⟩

/-- The ways through later nodes start at later positions. -/
theorem StopsBeside.exists_later {opened : List Place} {first : Nat} {nodes : List Node}
    {way : List Nat} {mark : Option Error} (h : workspace.StopsBeside opened first nodes way mark) :
    ∃ position below, first ≤ position ∧ way = position :: below := by
  obtain ⟨position, node, below, -, rfl, -⟩ := h
  exact ⟨first + position, below, Nat.le_add_right _ _, rfl⟩

/-- The ways through the first node are not among those through the others. -/
theorem counts_beside_cons {opened : List Place} {first : Nat} {node : Node} {rest : List Node}
    {width total : Nat} (hnode : Counts (workspace.Stops opened node) width)
    (hrest : Counts (workspace.StopsBeside opened (first + 1) rest) total) :
    Counts (workspace.StopsBeside opened first (node :: rest)) (width + total) := by
  obtain ⟨hfree, leaves, hnodup, rfl, hleaves⟩ := hnode
  obtain ⟨hothersFree, others, hothersNodup, rfl, hothers⟩ := hrest
  refine ⟨fun way failure h => ?_, leaves.map (first :: ·) ++ others, ?_, ?_, fun way => ?_⟩
  · rcases stops_beside_cons.mp h with ⟨below, -, hbelow⟩ | hlater
    · exact hfree below failure hbelow
    · exact hothersFree way failure hlater
  · refine List.nodup_append'.mpr ⟨hnodup.map List.cons_injective, hothersNodup, ?_⟩
    intro way hway hother
    obtain ⟨below, -, rfl⟩ := List.mem_map.mp hway
    obtain ⟨position, _, hposition, hsame⟩ := ((hothers _).mp hother).exists_later
    have hfirst := (List.cons.inj hsame).1
    omega
  · rw [List.length_append, List.length_map]
  · rw [List.mem_append, List.mem_map, hothers, stops_beside_cons]
    refine or_congr_left ⟨fun h => ?_, fun h => ?_⟩
    · obtain ⟨below, hbelow, rfl⟩ := h
      exact ⟨below, rfl, (hleaves below).mp hbelow⟩
    · obtain ⟨below, rfl, hbelow⟩ := h
      exact ⟨below, (hleaves below).mpr hbelow, rfl⟩

/-- The first failure of the first node is the first of all. -/
theorem fails_first_head {opened : List Place} {first : Nat} {node : Node} {rest : List Node}
    {failure : Error} (h : FailsFirst (workspace.Stops opened node) failure) :
    FailsFirst (workspace.StopsBeside opened first (node :: rest)) failure := by
  obtain ⟨way, hway, hfirst⟩ := h
  refine ⟨first :: way, stops_beside_cons.mpr (.inl ⟨way, rfl, hway⟩), fun other found hother => ?_⟩
  rcases stops_beside_cons.mp hother with ⟨below, rfl, hbelow⟩ | hlater
  · rcases hfirst below found hbelow with rfl | hlt
    · exact .inl rfl
    · exact .inr (List.cons_lt_cons_iff.mpr (.inr ⟨rfl, hlt⟩))
  · obtain ⟨position, below, hposition, rfl⟩ := hlater.exists_later
    exact .inr (List.cons_lt_cons_iff.mpr (.inl hposition))

/-- The first failure of later nodes is the first of all where the first node has none. -/
theorem fails_first_tail {opened : List Place} {first width : Nat} {node : Node}
    {rest : List Node} {failure : Error} (hnode : Counts (workspace.Stops opened node) width)
    (h : FailsFirst (workspace.StopsBeside opened (first + 1) rest) failure) :
    FailsFirst (workspace.StopsBeside opened first (node :: rest)) failure := by
  obtain ⟨way, hway, hfirst⟩ := h
  refine ⟨way, stops_beside_cons.mpr (.inr hway), fun other found hother => ?_⟩
  rcases stops_beside_cons.mp hother with ⟨below, -, hbelow⟩ | hlater
  · exact absurd hbelow (hnode.1 below found)
  · exact hfirst other found hlater

/-- A result describes ways if it is their number or the first failure on them. -/
def Describes (stops : List Nat → Option Error → Prop) : Except Error Nat → Prop
  | .ok count => Counts stops count
  | .error failure => FailsFirst stops failure

/-- Whether the structs that may still be entered are those that have not been entered. -/
structure Separates (workspace : Workspace) (closed opened : List Place) : Prop where
  nodup : closed.Nodup
  mem_iff : ∀ place ∈ workspace.structPlaces, place ∈ closed ↔ place ∉ opened

/-- At first no struct has been entered and all may be. -/
theorem separates_start (workspace : Workspace) : workspace.Separates workspace.structPlaces [] :=
  ⟨nodup_struct_places workspace, fun _ hplace => iff_of_true hplace List.not_mem_nil⟩

/-- A struct that has been entered may not be entered again. -/
theorem Separates.enter {closed opened : List Place} (h : workspace.Separates closed opened)
    (place : Place) : workspace.Separates (closed.erase place) (place :: opened) := by
  refine ⟨h.nodup.erase place, fun other hother => ?_⟩
  rw [h.nodup.mem_erase_iff, List.mem_cons, not_or, h.mem_iff other hother]

/-- A width that is summed with some structs closed describes the ways with the others open. -/
theorem width_from_describes {closed opened : List Place} {node : Node}
    (hopened : workspace.Separates closed opened) (hnode : node ∈ workspace.nodes) :
    Describes (workspace.Stops opened node) (workspace.widthFrom closed node) := by
  refine (widthFrom.mutual_induct workspace
    (fun closed node => ∀ opened, workspace.Separates closed opened → node ∈ workspace.nodes →
      Describes (workspace.Stops opened node) (workspace.widthFrom closed node))
    (fun closed nodes => ∀ opened first, workspace.Separates closed opened →
      (∀ node ∈ nodes, node ∈ workspace.nodes) →
      Describes (workspace.StopsBeside opened first nodes) (workspace.totalWidth closed nodes))
    ?_ ?_ ?_ ?_ ?_ ?_).1 closed node opened hopened hnode
  · intro closed node place typeName subfields hshape hmem ih opened hopened hnode
    have hclosed := (hopened.mem_iff place (mem_struct_places hnode hshape)).mp hmem
    rw [width_from_struct hshape, if_pos hmem, stops_of_closed hshape hclosed]
    exact ih _ 0 (hopened.enter place) (mem_nodes_of_subfield hnode hshape)
  · intro closed node place typeName subfields hshape hmem opened hopened hnode
    have hentered : place ∈ opened := by
      by_contra hclosed
      exact hmem ((hopened.mem_iff place (mem_struct_places hnode hshape)).mpr hclosed)
    rw [width_from_struct hshape, if_neg hmem, stops_of_opened hshape hentered]
    exact fails_first_single _
  · intro closed node target hshape opened _ _
    rw [width_from_unbound hshape, stops_of_unbound hshape]
    exact fails_first_single _
  · intro closed node hstruct hunbound opened _ _
    have hsingle := Shape.single_of_ne hstruct hunbound
    rw [width_from_single hsingle, stops_of_single hsingle]
    exact counts_one
  · intro closed opened first _ _
    rw [totalWidth]
    refine counts_zero fun way mark h => ?_
    obtain ⟨position, node, below, hnode, -⟩ := h
    cases hnode
  · intro closed node rest ihnode ihrest opened first hopened hnodes
    have hfirst := ihnode opened hopened (hnodes node List.mem_cons_self)
    have hothers := ihrest opened (first + 1) hopened fun other hother =>
      hnodes other (List.mem_cons_of_mem _ hother)
    -- The sum fails with the first node, or with the others where the first node has a width.
    rw [totalWidth]
    cases hwidth : workspace.widthFrom closed node with
    | error failure =>
        rw [hwidth] at hfirst
        exact fails_first_head hfirst
    | ok width =>
        rw [hwidth] at hfirst
        cases htotal : workspace.totalWidth closed rest with
        | error failure =>
            rw [htotal] at hothers
            exact fails_first_tail hfirst hothers
        | ok total =>
            rw [htotal] at hothers
            exact counts_beside_cons hfirst hothers

/-- The width of a node describes the ways down from it. -/
theorem width_describes {node : Node} (hnode : node ∈ workspace.nodes) :
    Describes (workspace.Stops [] node) (workspace.width node) :=
  width_from_describes (separates_start workspace) hnode

/-- A node has a width exactly if all ways down from it end at leaves, and the width is then the
number of these ways and at least one. Otherwise the width is the failure of the first way that ends
elsewhere. A struct may come up in several subfields: it has a width if each of them has one. -/
theorem width_counts_leaves (hbuilt : workspace.Built) {node : Node}
    (hnode : node ∈ workspace.nodes) :
    (∀ count, workspace.width node = .ok count ↔ Counts (workspace.Stops [] node) count) ∧
      (∀ count, workspace.width node = .ok count → 0 < count) ∧
      (∀ failure, workspace.width node = .error failure ↔
        FailsFirst (workspace.Stops [] node) failure) ∧
      ∀ place typeName subfields widths, workspace.shape node = .struct place typeName subfields →
        workspace.widths subfields = .ok widths → workspace.width node = .ok widths.sum := by
  have hwidth := width_describes hnode
  refine ⟨fun count => ⟨fun h => ?_, fun h => ?_⟩,
    fun count => width_pos (filled_of_built hbuilt) hnode,
    fun failure => ⟨fun h => ?_, fun h => ?_⟩,
    fun place typeName subfields widths hshape => width_of_widths hnode hshape⟩
  · rwa [h] at hwidth
  · cases hfound : workspace.width node with
    | ok found =>
        rw [hfound] at hwidth
        rw [h.unique hwidth]
    | error failure =>
        rw [hfound] at hwidth
        exact absurd hwidth h.not_fails_first
  · rwa [h] at hwidth
  · cases hfound : workspace.width node with
    | ok found =>
        rw [hfound] at hwidth
        exact absurd h hwidth.not_fails_first
    | error other =>
        rw [hfound] at hwidth
        rw [h.unique hwidth fun _ _ _ hway => hway.unique]

/-- A table of items, of pairs of items and of nodes that lead to each other. -/
def pairsAndNodes : Scheme :=
  ⟨"Items", [
    .struct ⟨"Items", "item"⟩ "Item"
      [.primitive ⟨"Items", "id"⟩ .int, .primitive ⟨"Items", "count"⟩ .int],
    .struct ⟨"Items", "pair"⟩ "Pair"
      [.reference ⟨"Items", "first"⟩ ⟨"Items", "Item"⟩,
        .reference ⟨"Items", "second"⟩ ⟨"Items", "Item"⟩],
    .struct ⟨"Items", "node"⟩ "Node"
      [.primitive ⟨"Items", "id"⟩ .int, .reference ⟨"Items", "next"⟩ ⟨"Items", "Node"⟩]]⟩

/-- The same item twice in a pair makes four leaves, and a node fails where it leads back to
itself. -/
theorem pairs_and_nodes_widths :
    (resolved [pairsAndNodes]).Built ∧
      ∃ item pair node, (resolved [pairsAndNodes]).columns 0 = [item, pair, node] ∧
        Counts ((resolved [pairsAndNodes]).Stops [] pair) 4 ∧
        FailsFirst ((resolved [pairsAndNodes]).Stops [] node)
          (.recursiveStruct ⟨"Items", "next"⟩ "Node") := by
  have hbuilt : (resolved [pairsAndNodes]).Built := by
    refine built_resolved fun scheme hscheme => ?_
    obtain rfl := List.mem_singleton.mp hscheme
    refine ⟨English.inflector, ["item", "pair", "node"],
      ["Struct<int,id,int,count>", "Struct<@Items,Item,first,@Items,Item,second>",
        "Struct<int,id,@Items,Node,next>"], ?_⟩
    cbv
  refine ⟨hbuilt, _, _, _, rfl, ?_, ?_⟩
  · refine ((width_counts_leaves hbuilt (columns_subset_nodes _ 0 ?_)).1 4).mp ?_
    · exact List.mem_cons_of_mem _ List.mem_cons_self
    · cbv
  · refine ((width_counts_leaves hbuilt (columns_subset_nodes _ 0 ?_)).2.2.1 _).mp ?_
    · exact List.mem_cons_of_mem _ (List.mem_cons_of_mem _ List.mem_cons_self)
    · cbv

end Workspace

end SheetWire
