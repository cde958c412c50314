import Mathlib.Data.List.Basic
import Mathlib.Data.List.Induction
import SheetWire.Proofs.Workspace.Nodes

/-!
# What an index holds

An index is filled from a list of entries, and under each key it holds the handle of the last entry
with that key (`get_of_entries`). The entries of a scheme are its structs and then its enums, each
in the order of the walk, so a key leads to the last scheme of its table that declares the name, and
there to the last enum of the name or, where there is none, to the last struct (`get_build`).
-/

namespace SheetWire

/-! ### The last element with a property -/

section LastWith

variable {α β : Type} {p : α → Prop}

/-- An element of a list that has a property which no later element has. -/
def LastWith (p : α → Prop) (list : List α) (x : α) : Prop :=
  ∃ before after, list = before ++ x :: after ∧ p x ∧ ∀ y ∈ after, ¬ p y

/-- The last element has the property. -/
theorem LastWith.holds {list : List α} {x : α} (h : LastWith p list x) : p x := by
  obtain ⟨_, _, _, hx, _⟩ := h
  exact hx

/-- The last element is in the list. -/
theorem LastWith.mem {list : List α} {x : α} (h : LastWith p list x) : x ∈ list := by
  obtain ⟨before, after, rfl, _⟩ := h
  exact List.mem_append_right _ List.mem_cons_self

/-- No element is the last of none. -/
theorem not_last_with_nil {x : α} : ¬ LastWith p [] x :=
  fun h => List.not_mem_nil h.mem

/-- The last element is the first of the list only if no other has the property. -/
theorem last_with_cons {first x : α} {rest : List α} :
    LastWith p (first :: rest) x ↔
      LastWith p rest x ∨ (∀ y ∈ rest, ¬ p y) ∧ p first ∧ x = first := by
  constructor
  · rintro ⟨before, after, hlist, hx, hafter⟩
    cases before with
    | nil =>
        obtain ⟨rfl, rfl⟩ := List.cons.inj hlist
        exact .inr ⟨hafter, hx, rfl⟩
    | cons other before =>
        obtain ⟨rfl, hrest⟩ := List.cons.inj hlist
        exact .inl ⟨before, after, hrest, hx, hafter⟩
  · rintro (⟨before, after, rfl, hx, hafter⟩ | ⟨hrest, hfirst, rfl⟩)
    · exact ⟨first :: before, after, rfl, hx, hafter⟩
    · exact ⟨[], rest, rfl, hfirst, hrest⟩

/-- The last element of two lists is in the second if any element there has the property. -/
theorem last_with_append {list more : List α} {x : α} :
    LastWith p (list ++ more) x ↔
      LastWith p more x ∨ (∀ y ∈ more, ¬ p y) ∧ LastWith p list x := by
  induction list with
  | nil =>
      rw [List.nil_append]
      exact ⟨.inl, fun h => h.elim id fun ⟨_, h⟩ => absurd h not_last_with_nil⟩
  | cons first rest ih =>
      rw [List.cons_append, last_with_cons, last_with_cons, ih]
      simp only [List.mem_append]
      grind

/-- Where some element has the property, there is a last one. -/
theorem exists_last_with {list : List α} (h : ∃ x ∈ list, p x) : ∃ x, LastWith p list x := by
  induction list with
  | nil =>
      obtain ⟨x, hx, -⟩ := h
      exact absurd hx List.not_mem_nil
  | cons first rest ih =>
      by_cases hrest : ∃ y ∈ rest, p y
      · obtain ⟨x, hx⟩ := ih hrest
        exact ⟨x, last_with_cons.mpr (.inl hx)⟩
      · obtain ⟨x, hx, hpx⟩ := h
        have hnone : ∀ y ∈ rest, ¬ p y := fun y hy hpy => hrest ⟨y, hy, hpy⟩
        rcases List.mem_cons.mp hx with rfl | hx
        · exact ⟨x, last_with_cons.mpr (.inr ⟨hnone, hpx, rfl⟩)⟩
        · exact absurd hpx (hnone x hx)

/-- The last element of the lists of some elements is in the list of the last that has any. -/
theorem last_with_flatMap {p : β → Prop} {f : α → List β} {list : List α} {y : β} :
    LastWith p (list.flatMap f) y ↔
      ∃ x, LastWith (fun x => ∃ z ∈ f x, p z) list x ∧ LastWith p (f x) y := by
  induction list with
  | nil => simp [not_last_with_nil]
  | cons first rest ih =>
      rw [List.flatMap_cons, last_with_append, ih]
      simp only [last_with_cons]
      constructor
      · rintro (⟨x, hx, hy⟩ | ⟨hnone, hy⟩)
        · exact ⟨x, .inl hx, hy⟩
        · refine ⟨first, .inr ⟨?_, ⟨y, hy.mem, hy.holds⟩, rfl⟩, hy⟩
          rintro x hx ⟨z, hz, hpz⟩
          exact hnone z (List.mem_flatMap.mpr ⟨x, hx, hz⟩) hpz
      · rintro ⟨x, hx | ⟨hnone, -, rfl⟩, hy⟩
        · exact .inl ⟨x, hx, hy⟩
        · refine .inr ⟨?_, hy⟩
          intro z hz hpz
          obtain ⟨x, hx, hz⟩ := List.mem_flatMap.mp hz
          exact hnone x hx ⟨z, hz, hpz⟩

/-- The last element that is picked from a list. -/
theorem last_with_filterMap {p : β → Prop} {pick : α → Option β} {list : List α} {y : β} :
    LastWith p (list.filterMap pick) y ↔
      ∃ x, LastWith (fun x => ∃ z, pick x = some z ∧ p z) list x ∧ pick x = some y := by
  have hsingle : ∀ x, LastWith p (pick x).toList y ↔ pick x = some y ∧ p y := by
    intro x
    cases hpick : pick x with
    | none => simp [not_last_with_nil]
    | some z =>
        simp only [Option.toList_some, last_with_cons, not_last_with_nil, false_or,
          List.not_mem_nil, false_imp_iff, implies_true, true_and, Option.some.injEq]
        grind
  rw [List.filterMap_eq_flatMap_toList, last_with_flatMap]
  simp only [Option.mem_toList, hsingle]
  constructor
  · rintro ⟨x, hx, hy, -⟩
    exact ⟨x, hx, hy⟩
  · rintro ⟨x, hx, hy⟩
    obtain ⟨z, hz, hpz⟩ := hx.holds
    exact ⟨x, hx, hy, by rwa [Option.some.inj (hz.symm.trans hy)] at hpz⟩

/-- Properties that agree on a list have the same last element there. -/
theorem last_with_congr {q : α → Prop} {list : List α} (h : ∀ x ∈ list, p x ↔ q x) {x : α} :
    LastWith p list x ↔ LastWith q list x := by
  induction list with
  | nil => simp [not_last_with_nil]
  | cons first rest ih =>
      rw [List.forall_mem_cons] at h
      rw [last_with_cons, last_with_cons, ih h.2, h.1]
      have hrest : (∀ y ∈ rest, ¬ p y) ↔ ∀ y ∈ rest, ¬ q y :=
        forall₂_congr fun y hy => not_congr (h.2 y hy)
      rw [hrest]

end LastWith

namespace Index

/-- Looking up a key after an entry has been put in. -/
theorem lookup_insert_entry (key other : TypeKey) (handle : TypeHandle)
    (entries : List (TypeKey × TypeHandle)) :
    (insertEntry key handle entries).lookup other =
      if other = key then some handle else entries.lookup other := by
  induction entries with
  | nil =>
      rw [insertEntry, List.lookup_cons]
      by_cases h : other = key
      · rw [if_pos h, h, beq_self_eq_true]
      · rw [if_neg h, beq_false_of_ne h]
  | cons entry rest ih =>
      obtain ⟨first, held⟩ := entry
      rw [insertEntry]
      by_cases hfirst : first = key
      · subst hfirst
        rw [if_pos rfl, List.lookup_cons, List.lookup_cons]
        by_cases h : other = first
        · rw [if_pos h, h, beq_self_eq_true]
        · rw [if_neg h, beq_false_of_ne h]
      · rw [if_neg hfirst, List.lookup_cons, List.lookup_cons, ih]
        by_cases h : other = first
        · subst h
          simp only [beq_self_eq_true, if_neg hfirst]
        · rw [beq_false_of_ne h]

/-- Under each key an index holds the handle of the last entry with the key. -/
theorem get_of_entries {entries : List (TypeKey × TypeHandle)} {key : TypeKey}
    {handle : TypeHandle} :
    (entries.foldl (fun index entry => index.insert entry.1 entry.2) ⟨[]⟩ : Index).get? key =
        some handle ↔
      LastWith (fun entry => entry.1 = key) entries (key, handle) := by
  induction entries using List.reverseRecOn with
  | nil => exact iff_of_false (fun h => nomatch h) not_last_with_nil
  | append_singleton entries entry ih =>
      obtain ⟨first, held⟩ := entry
      rw [List.foldl_append, List.foldl_cons, List.foldl_nil, last_with_append, last_with_cons,
        ← ih]
      unfold get? insert
      rw [lookup_insert_entry]
      by_cases h : key = first
      · subst h
        simp [not_last_with_nil, eq_comm]
      · simp [not_last_with_nil, h, Ne.symm h]

end Index

/-! ### The nodes of a scheme in the order of the walk -/

namespace Field

mutual

/-- The nodes of a field are the fields of its walk with their places. -/
theorem map_field_nodes (place : Place) :
    (field : Field) → (nodes place field).map Node.field = walk field
  | .list label element => by rw [nodes, walk, List.map_cons, map_field_nodes _ element]
  | .dictionary label key value => by
      rw [nodes, walk, List.map_cons, List.map_append, map_field_nodes _ key,
        map_field_nodes _ value]
  | .struct label typeName fields => by
      rw [nodes, walk, List.map_cons, map_field_nodes_all place 0 fields]
  | .primitive _ _ | .enum _ _ _ | .reference _ _ => rfl

/-- The nodes of fields side by side are the fields of their walks with their places. -/
theorem map_field_nodes_all (place : Place) (first : Nat) :
    (fields : List Field) → (nodesAll place first fields).map Node.field = walkAll fields
  | [] => rfl
  | field :: rest => by
      rw [nodesAll, walkAll, List.map_append, map_field_nodes _ field,
        map_field_nodes_all place (first + 1) rest]

end

end Field

/-- The nodes of a scheme are the fields of its walk with their places. -/
theorem Scheme.map_field_nodes (number : Nat) (scheme : Scheme) :
    (scheme.nodes number).map Node.field = scheme.walk :=
  Field.map_field_nodes_all _ _ _

/-! ### The declaration that a name leads to -/

namespace Node

/-- Whether a node is a struct of a name. -/
def IsStruct (typeName : String) (node : Node) : Prop :=
  ∃ label fields, node.field = .struct label typeName fields

/-- Whether a node is an enum of a name. -/
def IsEnum (typeName : String) (node : Node) : Prop :=
  ∃ label members, node.field = .enum label typeName members

/-- The last enum of a name among some nodes or, where there is none, the last struct. -/
def DeclaredAmong (typeName : String) (nodes : List Node) (node : Node) : Prop :=
  LastWith (IsEnum typeName) nodes node ∨
    (∀ other ∈ nodes, ¬ other.IsEnum typeName) ∧ LastWith (IsStruct typeName) nodes node

/-- The handle on the struct or enum of a node. -/
def handle (node : Node) : TypeHandle :=
  match node.field with
  | .enum _ _ _ => ⟨.enum, node.place⟩
  | _ => ⟨.struct, node.place⟩

/-- The fields with a type name are the structs and the enums. -/
theorem type_name_eq_some {typeName : String} {node : Node} :
    node.field.typeName? = some typeName ↔ node.IsStruct typeName ∨ node.IsEnum typeName := by
  obtain ⟨place, field⟩ := node
  cases field <;> simp [Field.typeName?, IsStruct, IsEnum]

/-- A handle has the place of its node. -/
theorem place_handle (node : Node) : node.handle.place = node.place := by
  obtain ⟨place, field⟩ := node
  cases field <;> rfl

/-- The handle on a struct. -/
theorem IsStruct.handle_eq {typeName : String} {node : Node} (h : node.IsStruct typeName) :
    node.handle = ⟨.struct, node.place⟩ := by
  obtain ⟨label, fields, hfield⟩ := h
  rw [handle, hfield]

/-- The handle on an enum. -/
theorem IsEnum.handle_eq {typeName : String} {node : Node} (h : node.IsEnum typeName) :
    node.handle = ⟨.enum, node.place⟩ := by
  obtain ⟨label, members, hfield⟩ := h
  rw [handle, hfield]

/-- A declared node is among the nodes and has the name. -/
theorem DeclaredAmong.type_name {typeName : String} {nodes : List Node} {node : Node}
    (h : DeclaredAmong typeName nodes node) :
    node ∈ nodes ∧ node.field.typeName? = some typeName := by
  rw [type_name_eq_some]
  rcases h with h | ⟨-, h⟩
  · exact ⟨h.mem, .inr h.holds⟩
  · exact ⟨h.mem, .inl h.holds⟩

/-- A name is declared among some nodes if one of them has it. -/
theorem exists_declared_among {typeName : String} {nodes : List Node}
    (h : ∃ node ∈ nodes, node.field.typeName? = some typeName) :
    ∃ node, DeclaredAmong typeName nodes node := by
  simp only [type_name_eq_some] at h
  by_cases henum : ∃ node ∈ nodes, node.IsEnum typeName
  · obtain ⟨node, hnode⟩ := exists_last_with henum
    exact ⟨node, .inl hnode⟩
  · have hnone : ∀ other ∈ nodes, ¬ other.IsEnum typeName := fun other hmem hother =>
      henum ⟨other, hmem, hother⟩
    obtain ⟨node, hmem, hnode⟩ := h
    obtain ⟨last, hlast⟩ := exists_last_with ⟨node, hmem, hnode.resolve_right (hnone node hmem)⟩
    exact ⟨last, .inr ⟨hnone, hlast⟩⟩

end Node

namespace Scheme

variable {scheme : Scheme} {number : Nat} {key : TypeKey} {handle : TypeHandle}

/-- The last entry of one kind under a key belongs to the last node of the kind and name. -/
theorem last_entry {kind : TypeKind} {declares : Node → Prop} {nodes : List Node}
    {entry : Node → Option (TypeKey × TypeHandle)}
    (hentry : ∀ node made, entry node = some made ∧ made.1 = key ↔
      scheme.table = key.table ∧ declares node ∧ made = (key, ⟨kind, node.place⟩)) :
    LastWith (fun made => made.1 = key) (nodes.filterMap entry) (key, handle) ↔
      scheme.table = key.table ∧
        ∃ node, LastWith declares nodes node ∧ handle = ⟨kind, node.place⟩ := by
  have hpicked : ∀ node, (∃ made, entry node = some made ∧ made.1 = key) ↔
      scheme.table = key.table ∧ declares node := by
    intro node
    simp only [hentry, exists_and_left, exists_eq, and_true]
  simp only [last_with_filterMap, hpicked]
  constructor
  · rintro ⟨node, hlast, hmade⟩
    obtain ⟨htable, -, hsame⟩ := (hentry node _).mp ⟨hmade, rfl⟩
    simp only [htable, true_and] at hlast
    exact ⟨htable, node, hlast, (Prod.mk.inj hsame).2⟩
  · rintro ⟨htable, node, hlast, rfl⟩
    simp only [htable, true_and]
    exact ⟨node, hlast, ((hentry node _).mpr ⟨htable, hlast.holds, rfl⟩).1⟩

/-- The last struct under a key. -/
theorem last_struct_entry :
    LastWith (fun made => made.1 = key) (scheme.structEntries number) (key, handle) ↔
      scheme.table = key.table ∧ ∃ node, LastWith (Node.IsStruct key.typeName)
        (scheme.nodes number) node ∧ handle = ⟨.struct, node.place⟩ := by
  refine last_entry fun node made => ?_
  obtain ⟨place, field⟩ := node
  obtain ⟨table, typeName⟩ := key
  cases field <;> simp [Node.IsStruct]
  grind

/-- The last enum under a key. -/
theorem last_enum_entry :
    LastWith (fun made => made.1 = key) (scheme.enumEntries number) (key, handle) ↔
      scheme.table = key.table ∧ ∃ node, LastWith (Node.IsEnum key.typeName)
        (scheme.nodes number) node ∧ handle = ⟨.enum, node.place⟩ := by
  refine last_entry fun node made => ?_
  obtain ⟨place, field⟩ := node
  obtain ⟨table, typeName⟩ := key
  cases field <;> simp [Node.IsEnum]
  grind

/-- There is no enum under a key where no node is an enum of the name. -/
theorem no_enum_entry (htable : scheme.table = key.table) :
    (∀ made ∈ scheme.enumEntries number, ¬ made.1 = key) ↔
      ∀ node ∈ scheme.nodes number, ¬ node.IsEnum key.typeName := by
  constructor
  · intro h node hmem hnode
    obtain ⟨last, hlast⟩ := exists_last_with ⟨node, hmem, hnode⟩
    have hentry := last_enum_entry.mpr ⟨htable, last, hlast, rfl⟩
    exact h _ hentry.mem hentry.holds
  · intro h made hmem hmade
    obtain ⟨⟨other, handle⟩, hlast⟩ :=
      exists_last_with (p := fun made => made.1 = key) ⟨made, hmem, hmade⟩
    obtain rfl : other = key := hlast.holds
    obtain ⟨-, node, hnode, -⟩ := last_enum_entry.mp hlast
    exact h node hnode.mem hnode.holds

/-- The last entry of a scheme under a key belongs to the declaration of the name. -/
theorem last_declaration :
    LastWith (fun made => made.1 = key) (scheme.structEntries number ++ scheme.enumEntries number)
        (key, handle) ↔
      scheme.table = key.table ∧
        ∃ node, Node.DeclaredAmong key.typeName (scheme.nodes number) node ∧
          handle = node.handle := by
  rw [last_with_append, last_enum_entry, last_struct_entry]
  constructor
  · rintro (⟨htable, node, hlast, rfl⟩ | ⟨hnone, htable, node, hlast, rfl⟩)
    · exact ⟨htable, node, .inl hlast, hlast.holds.handle_eq.symm⟩
    · exact ⟨htable, node, .inr ⟨(no_enum_entry htable).mp hnone, hlast⟩,
        hlast.holds.handle_eq.symm⟩
  · rintro ⟨htable, node, hlast | ⟨hnone, hlast⟩, rfl⟩
    · exact .inl ⟨htable, node, hlast, hlast.holds.handle_eq⟩
    · exact .inr ⟨(no_enum_entry htable).mpr hnone, htable, node, hlast, hlast.holds.handle_eq⟩

end Scheme

namespace Workspace

variable {workspace : Workspace} {key : TypeKey}

/-- Whether the scheme of a number declares a struct or enum under a key, at any depth. -/
def Declares (workspace : Workspace) (key : TypeKey) (number : Nat) : Prop :=
  ∃ scheme, workspace.scheme? number = some scheme ∧ scheme.table = key.table ∧
    ∃ field ∈ scheme.walk, field.typeName? = some key.typeName

/-- The declaration that a key leads to: the one of its name in the last scheme of a list that
declares one under the key. -/
def Declared (workspace : Workspace) (numbers : List Nat) (key : TypeKey) (node : Node) : Prop :=
  ∃ number, LastWith (workspace.Declares key) numbers number ∧
    Node.DeclaredAmong key.typeName (workspace.nodesOf number) node

/-- The nodes of a scheme that is there. -/
theorem nodes_of_scheme {number : Nat} {scheme : Scheme}
    (h : workspace.scheme? number = some scheme) :
    workspace.nodesOf number = scheme.nodes number := by
  rw [nodesOf, h]

/-- The last entry of the scheme of a number under a key belongs to the declaration of the name. -/
theorem last_declaration {number : Nat} {handle : TypeHandle} :
    LastWith (fun made => made.1 = key) (workspace.declarations number) (key, handle) ↔
      (∃ scheme, workspace.scheme? number = some scheme ∧ scheme.table = key.table) ∧
        ∃ node, Node.DeclaredAmong key.typeName (workspace.nodesOf number) node ∧
          handle = node.handle := by
  rw [declarations]
  cases hscheme : workspace.scheme? number with
  | none => simp [not_last_with_nil]
  | some scheme => simp [Scheme.last_declaration, nodes_of_scheme hscheme]

/-- A scheme that declares a type under a key has a declaration of the name. -/
theorem Declares.exists_declared_among {number : Nat} (h : workspace.Declares key number) :
    ∃ node, Node.DeclaredAmong key.typeName (workspace.nodesOf number) node := by
  obtain ⟨scheme, hscheme, -, field, hwalk, hname⟩ := h
  rw [← scheme.map_field_nodes number, List.mem_map] at hwalk
  obtain ⟨node, hmem, rfl⟩ := hwalk
  rw [← nodes_of_scheme hscheme] at hmem
  exact Node.exists_declared_among ⟨node, hmem, hname⟩

/-- A scheme has an entry under a key if it declares a type under the key. -/
theorem exists_declaration {number : Nat} :
    (∃ made ∈ workspace.declarations number, made.1 = key) ↔ workspace.Declares key number := by
  constructor
  · intro h
    obtain ⟨⟨other, handle⟩, hlast⟩ := exists_last_with h
    obtain rfl : other = key := hlast.holds
    obtain ⟨⟨scheme, hscheme, htable⟩, node, hnode, -⟩ := last_declaration.mp hlast
    rw [nodes_of_scheme hscheme] at hnode
    obtain ⟨hmem, hname⟩ := hnode.type_name
    have hwalk := List.mem_map_of_mem (f := Node.field) hmem
    rw [scheme.map_field_nodes] at hwalk
    exact ⟨scheme, hscheme, htable, node.field, hwalk, hname⟩
  · intro h
    obtain ⟨node, hnode⟩ := h.exists_declared_among
    obtain ⟨scheme, hscheme, htable, -⟩ := h
    have hentry := last_declaration.mpr ⟨⟨scheme, hscheme, htable⟩, node, hnode, rfl⟩
    exact ⟨_, hentry.mem, hentry.holds⟩

/-- A key leads to a declaration if a scheme of the list declares a type under it. -/
theorem exists_declared {numbers : List Nat} :
    (∃ node, workspace.Declared numbers key node) ↔
      ∃ number ∈ numbers, workspace.Declares key number := by
  constructor
  · rintro ⟨node, number, hnumber, -⟩
    exact ⟨number, hnumber.mem, hnumber.holds⟩
  · intro h
    obtain ⟨number, hnumber⟩ := exists_last_with h
    obtain ⟨node, hnode⟩ := hnumber.holds.exists_declared_among
    exact ⟨node, number, hnumber, hnode⟩

end Workspace

/-- Under each key an index holds the handle on the declaration that the key leads to. -/
theorem Index.get_build {workspace : Workspace} {numbers : List Nat} {key : TypeKey}
    {handle : TypeHandle} :
    (build workspace numbers).get? key = some handle ↔
      ∃ node, workspace.Declared numbers key node ∧ handle = node.handle := by
  rw [build, get_of_entries, last_with_flatMap]
  simp only [Workspace.exists_declaration, Workspace.last_declaration]
  constructor
  · rintro ⟨number, hnumber, -, node, hnode, rfl⟩
    exact ⟨node, ⟨number, hnumber, hnode⟩, rfl⟩
  · rintro ⟨node, ⟨number, hnumber, hnode⟩, rfl⟩
    obtain ⟨scheme, hscheme, htable, -⟩ := hnumber.holds
    exact ⟨number, hnumber, ⟨scheme, hscheme, htable⟩, node, hnode, rfl⟩

end SheetWire
