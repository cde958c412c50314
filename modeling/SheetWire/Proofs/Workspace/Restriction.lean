import SheetWire.Proofs.Workspace.Renumbering
import SheetWire.Proofs.Workspace.Resolving

/-!
# Some of the schemes

Of some schemes that are resolved against each other, those of some tables are picked and resolved
on their own. A reference leads to the last declaration of its key, so it keeps its target as long
as no scheme of the table it names is left behind (`declared_restrict`). Then the schemes that were
picked hold under their new numbers what they held under the old ones (`renumbers_restrict`).
-/

namespace SheetWire

section LastWith

variable {α β : Type}

/-- Elements without the property can be left out of a list. -/
theorem last_with_filter {p : α → Prop} {q : α → Bool} {list : List α} {x : α}
    (h : ∀ y ∈ list, p y → q y = true) : LastWith p (list.filter q) x ↔ LastWith p list x := by
  induction list with
  | nil => rfl
  | cons first rest ih =>
      obtain ⟨hfirst, hrest⟩ := List.forall_mem_cons.mp h
      rw [last_with_cons]
      by_cases hq : q first = true
      · have hnone : (∀ y ∈ rest.filter q, ¬ p y) ↔ ∀ y ∈ rest, ¬ p y :=
          ⟨fun hall y hy hp => hall y (List.mem_filter.mpr ⟨hy, hrest y hy hp⟩) hp,
            fun hall y hy => hall y (List.mem_of_mem_filter hy)⟩
        rw [List.filter_cons_of_pos hq, last_with_cons, ih hrest, hnone]
      · rw [List.filter_cons_of_neg hq, ih hrest]
        exact ⟨.inl, fun hlast => hlast.elim id fun hsame => absurd (hfirst hsame.2.1) hq⟩

/-- The last of the images of some elements is the image of an element. -/
theorem last_with_map {p : β → Prop} {f : α → β} {list : List α} {y : β} :
    LastWith p (list.map f) y ↔ ∃ x, LastWith (fun x => p (f x)) list x ∧ f x = y := by
  rw [← List.filterMap_eq_map, last_with_filterMap]
  simp only [Function.comp_apply, Option.some.injEq, exists_eq_left']

end LastWith

/-- What is declared among nodes under another number. -/
theorem Node.declared_among_under {renumber : Nat → Nat} {typeName : String} {nodes : List Node}
    {node : Node} :
    DeclaredAmong typeName (nodes.map (Node.under renumber)) node ↔
      ∃ twin, DeclaredAmong typeName nodes twin ∧ twin.under renumber = node := by
  have hnone : (∀ other ∈ nodes.map (Node.under renumber), ¬ other.IsEnum typeName) ↔
      ∀ other ∈ nodes, ¬ other.IsEnum typeName := List.forall_mem_map
  unfold DeclaredAmong
  rw [hnone, last_with_map, last_with_map]
  constructor
  · rintro (⟨twin, htwin, rfl⟩ | ⟨hall, twin, htwin, rfl⟩)
    · exact ⟨twin, .inl htwin, rfl⟩
    · exact ⟨twin, .inr ⟨hall, htwin⟩, rfl⟩
  · rintro ⟨twin, htwin | ⟨hall, htwin⟩, rfl⟩
    · exact .inl ⟨twin, htwin, rfl⟩
    · exact .inr ⟨hall, twin, htwin, rfl⟩

namespace Workspace

/-! ### The numbers of the schemes that are picked -/

/-- The schemes of a list that are picked, with their positions in it. -/
def picked (keep : Scheme → Bool) (schemes : List Scheme) : List (Scheme × Nat) :=
  schemes.zipIdx.filter fun entry => keep entry.1

/-- The position in the whole list of the scheme at a position among those that are picked. -/
def oldNumber (keep : Scheme → Bool) (schemes : List Scheme) (position : Nat) : Nat :=
  ((picked keep schemes).map Prod.snd).getD position 0

variable {keep : Scheme → Bool} {schemes : List Scheme}

/-- The schemes that are picked. -/
theorem map_fst_picked (keep : Scheme → Bool) (schemes : List Scheme) :
    (picked keep schemes).map Prod.fst = schemes.filter keep := by
  conv_rhs => rw [← List.zipIdx_map_fst 0 schemes, List.filter_map]
  rfl

/-- What is picked at a position stands at its old number in the whole list. -/
theorem picked_eq_some {position number : Nat} {scheme : Scheme}
    (h : (picked keep schemes)[position]? = some (scheme, number)) :
    oldNumber keep schemes position = number ∧ schemes[number]? = some scheme := by
  constructor
  · rw [oldNumber, List.getD_eq_getElem?_getD, List.getElem?_map, h]
    rfl
  · have hmem := List.mem_of_mem_filter (List.mem_of_getElem? h)
    exact List.mem_zipIdx_iff_getElem?.mp hmem

/-- The scheme of an old number. -/
theorem scheme_of_old_number {position : Nat} {scheme : Scheme}
    (h : (schemes.filter keep)[position]? = some scheme) :
    schemes[oldNumber keep schemes position]? = some scheme := by
  rw [← map_fst_picked, List.getElem?_map, Option.map_eq_some_iff] at h
  obtain ⟨⟨found, number⟩, hpicked, rfl⟩ := h
  obtain ⟨hnumber, hscheme⟩ := picked_eq_some hpicked
  rw [hnumber, hscheme]

/-- Schemes at different positions have different old numbers. -/
theorem old_number_injective {position other : Nat}
    (hposition : position < (schemes.filter keep).length)
    (hother : other < (schemes.filter keep).length)
    (h : oldNumber keep schemes position = oldNumber keep schemes other) : position = other := by
  have hnodup : ((picked keep schemes).map Prod.snd).Nodup := by
    refine List.Nodup.sublist (List.filter_sublist.map Prod.snd) ?_
    rw [List.zipIdx_map_snd]
    exact List.nodup_range'
  have hlength : ((picked keep schemes).map Prod.snd).length = (schemes.filter keep).length := by
    rw [List.length_map, ← List.length_map Prod.fst, map_fst_picked]
  rw [oldNumber, oldNumber, List.getD_eq_getElem _ _ (hlength ▸ hposition),
    List.getD_eq_getElem _ _ (hlength ▸ hother)] at h
  exact hnodup.getElem_inj_iff.mp h

/-- The last number with a property that only schemes that are picked have is the old number of the
last position among them. -/
theorem last_with_old_number {p : Nat → Prop} {number : Nat}
    (h : ∀ number scheme, schemes[number]? = some scheme → p number → keep scheme = true) :
    LastWith p (List.range schemes.length) number ↔
      ∃ position, LastWith (fun position => p (oldNumber keep schemes position))
        (List.range (schemes.filter keep).length) position ∧
        oldNumber keep schemes position = number := by
  have hnumbers : List.range schemes.length = schemes.zipIdx.map Prod.snd := by
    rw [List.zipIdx_map_snd, List.range_eq_range']
  have hpositions : (picked keep schemes).map Prod.snd =
      (List.range (schemes.filter keep).length).map (oldNumber keep schemes) := by
    rw [← map_fst_picked, List.length_map]
    refine List.ext_getElem (by simp) fun position hfirst hsecond => ?_
    simp only [List.getElem_map, List.getElem_range]
    rw [oldNumber, List.getD_eq_getElem _ _ hfirst, List.getElem_map]
  rw [hnumbers, last_with_map, ← last_with_map (p := p) (f := oldNumber keep schemes), ← hpositions,
    last_with_map, picked]
  have hfilter : ∀ entry ∈ schemes.zipIdx, p entry.2 → keep entry.1 = true := by
    rintro ⟨scheme, number⟩ hentry
    exact h number scheme (List.mem_zipIdx_iff_getElem?.mp hentry)
  simp only [last_with_filter hfilter]

/-! ### What the schemes hold on their own -/

/-- The scheme of a number among schemes that are resolved. -/
theorem scheme_resolved (schemes : List Scheme) (number : Nat) :
    (resolved schemes).scheme? number = schemes[number]? := by
  have hschemes : (resolved schemes).schemes = schemes.map some := schemes_resolve_all _ _ _
  rw [scheme?, hschemes, List.getElem?_map]
  cases schemes[number]? <;> rfl

/-- The scheme of a number among schemes that are not resolved. -/
theorem scheme_of_schemes (schemes : List Scheme) (number : Nat) :
    (ofSchemes schemes).scheme? number = schemes[number]? := by
  rw [scheme?, ofSchemes, List.getElem?_map]
  cases schemes[number]? <;> rfl

/-- The target of a reference among schemes that are resolved is the declaration of its key. -/
theorem target_resolved {node target : Node} {label : Label} {key : TypeKey}
    (hnode : node ∈ (resolved schemes).nodes) (hfield : node.field = .reference label key) :
    (resolved schemes).target? node.place = some target ↔
      (ofSchemes schemes).Declared (List.range schemes.length) key target := by
  have hplaces : ∀ place, (resolved schemes).node? place = (ofSchemes schemes).node? place :=
    node_at_congr (schemes_resolve_all _ _ _)
  have hfresh : node ∈ (List.range schemes.length).flatMap (ofSchemes schemes).nodesOf := by
    rw [← node_at_iff, hplaces, node_at_iff, nodes, ofSchemes, List.length_map] at hnode
    exact hnode
  have hbinding : (resolved schemes).binding? node.place =
      (Index.build (ofSchemes schemes) (List.range schemes.length)).get? key :=
    binding_of_unbound rfl hfresh hfield
  simp only [target?, hbinding, Option.bind_eq_bind, Option.bind_eq_some_iff, Index.get_build,
    hplaces]
  constructor
  · rintro ⟨-, ⟨declared, hdeclared, rfl⟩, htarget⟩
    rw [Node.place_handle, node_at_iff.mpr hdeclared.mem_nodes] at htarget
    exact Option.some.inj htarget ▸ hdeclared
  · intro hdeclared
    exact ⟨_, ⟨target, hdeclared, rfl⟩,
      by rw [Node.place_handle, node_at_iff.mpr hdeclared.mem_nodes]⟩

/-- What a key leads to among schemes is what it leads to among those that are picked, if all
schemes of its table are. -/
theorem declared_restrict {key : TypeKey} {node : Node}
    (h : ∀ scheme ∈ schemes, scheme.table = key.table → keep scheme = true) :
    (ofSchemes schemes).Declared (List.range schemes.length) key node ↔
      ∃ twin, (ofSchemes (schemes.filter keep)).Declared
        (List.range (schemes.filter keep).length) key twin ∧
        twin.under (oldNumber keep schemes) = node := by
  have hpicked : ∀ number scheme, schemes[number]? = some scheme →
      (ofSchemes schemes).Declares key number → keep scheme = true := by
    intro number scheme hscheme hdeclares
    obtain ⟨found, hfound, htable, -⟩ := hdeclares
    rw [scheme_of_schemes, hscheme] at hfound
    cases hfound
    exact h scheme (List.mem_of_getElem? hscheme) htable
  -- Where there is a scheme, the whole list holds it under the old number.
  have hsame : ∀ position < (schemes.filter keep).length,
      (ofSchemes schemes).scheme? (oldNumber keep schemes position) =
        (ofSchemes (schemes.filter keep)).scheme? position := by
    intro position hposition
    rw [scheme_of_schemes, scheme_of_schemes, List.getElem?_eq_getElem hposition]
    exact scheme_of_old_number (List.getElem?_eq_getElem hposition)
  have hdeclares : ∀ position ∈ List.range (schemes.filter keep).length,
      (ofSchemes schemes).Declares key (oldNumber keep schemes position) ↔
        (ofSchemes (schemes.filter keep)).Declares key position := by
    intro position hposition
    unfold Declares
    rw [hsame position (List.mem_range.mp hposition)]
  have hnodes : ∀ position ∈ List.range (schemes.filter keep).length,
      (ofSchemes schemes).nodesOf (oldNumber keep schemes position) =
        ((ofSchemes (schemes.filter keep)).nodesOf position).map
          (Node.under (oldNumber keep schemes)) := by
    intro position hposition
    rw [nodesOf, nodesOf, hsame position (List.mem_range.mp hposition)]
    cases (ofSchemes (schemes.filter keep)).scheme? position with
    | none => rfl
    | some scheme => exact Field.nodes_under_all ⟨position, []⟩ 0 scheme.columns
  unfold Declared
  constructor
  · rintro ⟨number, hlast, hnode⟩
    obtain ⟨position, hposition, rfl⟩ := (last_with_old_number hpicked).mp hlast
    rw [hnodes position hposition.mem, Node.declared_among_under] at hnode
    obtain ⟨twin, htwin, hunder⟩ := hnode
    exact ⟨twin, ⟨position, (last_with_congr hdeclares).mp hposition, htwin⟩, hunder⟩
  · rintro ⟨twin, ⟨position, hposition, htwin⟩, hunder⟩
    refine ⟨oldNumber keep schemes position, (last_with_old_number hpicked).mpr
      ⟨position, (last_with_congr hdeclares).mpr hposition, rfl⟩, ?_⟩
    rw [hnodes position hposition.mem, Node.declared_among_under]
    exact ⟨twin, htwin, hunder⟩

/-- Schemes that are picked and resolved on their own hold under their new numbers what they hold
among all schemes, if a reference in one of them to a table of a scheme never leaves one behind. -/
theorem renumbers_restrict
    (h : ∀ scheme ∈ schemes, keep scheme = true → ∀ reference ∈ scheme.references,
      ∀ other ∈ schemes, other.table = reference.2.table → keep other = true) :
    (resolved (schemes.filter keep)).Renumbers (resolved schemes) (oldNumber keep schemes) := by
  have hscheme : ∀ position scheme, (resolved (schemes.filter keep)).scheme? position =
      some scheme → (resolved schemes).scheme? (oldNumber keep schemes position) = some scheme := by
    intro position scheme hposition
    rw [scheme_resolved] at hposition ⊢
    exact scheme_of_old_number hposition
  refine ⟨hscheme, fun position other hposition hother hsame => ?_, fun place label key hnode => ?_⟩
  · have hlt : ∀ position, ((resolved (schemes.filter keep)).scheme? position).isSome →
        position < (schemes.filter keep).length := by
      intro position hsome
      rw [scheme_resolved] at hsome
      obtain ⟨scheme, hfound⟩ := Option.isSome_iff_exists.mp hsome
      exact (List.getElem?_eq_some_iff.mp hfound).1
    exact old_number_injective (hlt position hposition) (hlt other hother) hsame
  · have hkept : ∀ scheme ∈ schemes, scheme.table = key.table → keep scheme = true := by
      obtain ⟨position, scheme, hposition, hmem⟩ := mem_nodes.mp hnode
      rw [scheme_resolved] at hposition
      obtain ⟨hheld, hkeep⟩ := List.mem_filter.mp (List.mem_of_getElem? hposition)
      have hreference : (label, key) ∈ scheme.references := by
        rw [Scheme.references, ← scheme.map_field_nodes position]
        exact List.mem_filterMap.mpr ⟨_, List.mem_map_of_mem hmem, rfl⟩
      exact h scheme hheld hkeep _ hreference
    refine Option.ext fun node => ?_
    rw [Option.map_eq_some_iff]
    have hwhole : (resolved schemes).target? (place.under (oldNumber keep schemes)) = some node ↔
        (ofSchemes schemes).Declared (List.range schemes.length) key node :=
      target_resolved (mem_nodes_under hscheme hnode) rfl
    refine hwhole.trans ((declared_restrict hkept).trans ?_)
    exact exists_congr fun twin => and_congr_left fun _ => (target_resolved hnode rfl).symm

end Workspace

end SheetWire
