import SheetWire.Proofs.Workspace.Index
import SheetWire.Typed

/-!
# Maps with ordered keys

The types that may be keys have a total order in which only equal values are equal
(`lawful_order`). A map that is built from entries one after another lists its keys in that order,
each once, and holds under each key the value of the last entry with the key (`map_of_entries`).
-/

namespace SheetWire.WireType

open Std

/-! ### The order of the keys -/

/-- The order of lists is the lexicographic one. -/
theorem compare_lists_eq {α : Type} (compare : α → α → Ordering) :
    compareLists compare = List.compareLex compare := by
  funext list other
  induction list generalizing other with
  | nil => cases other <;> rfl
  | cons a list ih =>
      cases other with
      | nil => rfl
      | cons b other => rw [compareLists, ih, List.compareLex_cons_cons]

/-- Pairs are ordered lawfully where both sides are. -/
theorem lawful_pairs {α β : Type} {first : α → α → Ordering} {second : β → β → Ordering}
    (hfirst : TransCmp first ∧ LawfulEqCmp first) (hsecond : TransCmp second ∧ LawfulEqCmp second) :
    TransCmp (fun a b : α × β => (first a.1 b.1).then (second a.2 b.2)) ∧
      LawfulEqCmp fun a b : α × β => (first a.1 b.1).then (second a.2 b.2) := by
  obtain ⟨_, _⟩ := hfirst
  obtain ⟨_, _⟩ := hsecond
  let _ : Ord α := ⟨first⟩
  let _ : Ord β := ⟨second⟩
  let _ : Ord (α × β) := lexOrd
  have : TransOrd α := inferInstanceAs (TransCmp first)
  have : LawfulEqOrd α := inferInstanceAs (LawfulEqCmp first)
  have : TransOrd β := inferInstanceAs (TransCmp second)
  have : LawfulEqOrd β := inferInstanceAs (LawfulEqCmp second)
  exact ⟨inferInstanceAs (TransOrd (α × β)), inferInstanceAs (LawfulEqOrd (α × β))⟩

/-- Lists are ordered lawfully where their elements are. -/
theorem lawful_lists {α : Type} {compare : α → α → Ordering}
    (h : TransCmp compare ∧ LawfulEqCmp compare) :
    TransCmp (compareLists compare) ∧ LawfulEqCmp (compareLists compare) := by
  obtain ⟨_, _⟩ := h
  rw [compare_lists_eq]
  exact ⟨inferInstance, inferInstance⟩

/-- The order of an ordered type is total, and only equal values are equal in it. -/
theorem lawful_order (type : WireType) (h : type.isOrdered = true) :
    TransCmp type.order ∧ LawfulEqCmp type.order := by
  induction type with
  | int => exact ⟨inferInstanceAs (TransOrd Int32), inferInstanceAs (LawfulEqOrd Int32)⟩
  | long => exact ⟨inferInstanceAs (TransOrd Int64), inferInstanceAs (LawfulEqOrd Int64)⟩
  | bool => exact ⟨inferInstanceAs (TransOrd Bool), inferInstanceAs (LawfulEqOrd Bool)⟩
  | string => exact ⟨inferInstanceAs (TransOrd String), inferInstanceAs (LawfulEqOrd String)⟩
  | float => exact nomatch h
  | double => exact nomatch h
  | list element ih => exact lawful_lists (ih h)
  | map key value ihkey ihvalue =>
      obtain ⟨hkey, hvalue⟩ := Bool.and_eq_true_iff.mp h
      exact lawful_lists (lawful_pairs (ihkey hkey) (ihvalue hvalue))

/-! ### The entries of a map -/

section Entries

variable {α β : Type} {compare : α → α → Ordering} {map : List (α × β)} {key : α} {value : β}

/-- Whether entries have their keys in order, each once. -/
def Ascending (compare : α → α → Ordering) (map : List (α × β)) : Prop :=
  map.Pairwise fun entry later => compare entry.1 later.1 = .lt

/-- A value is not equal to a later one. -/
theorem ne_of_compare [ReflCmp compare] {a b : α} (h : compare a b = .lt) : a ≠ b := by
  rintro rfl
  have hsame : compare a a = .eq := ReflCmp.compare_self
  rw [hsame] at h
  exact nomatch h

variable [TransCmp compare] [LawfulEqCmp compare]

/-- Under the key of an entry that is put in a map stands its value, and under the other keys what
stood there before. -/
theorem insert_entry (hmap : Ascending compare map) :
    Ascending compare (insertEntry compare key value map) ∧
      ∀ other held, (other, held) ∈ insertEntry compare key value map ↔
        other = key ∧ held = value ∨ other ≠ key ∧ (other, held) ∈ map := by
  induction map with
  | nil =>
      refine ⟨List.pairwise_singleton _ _, fun other held => ?_⟩
      rw [insertEntry, List.mem_singleton, Prod.mk.injEq]
      exact ⟨.inl, fun h => h.elim id fun h => absurd h.2 List.not_mem_nil⟩
  | cons first rest ih =>
      obtain ⟨head, kept⟩ := first
      obtain ⟨hhead, hrest⟩ := List.pairwise_cons.mp hmap
      have hne : ∀ other held, (other, held) ∈ rest → head ≠ other :=
        fun other held hmem => ne_of_compare (hhead _ hmem)
      rw [insertEntry]
      cases hcompare : compare key head with
      | lt =>
          have hbefore : ∀ entry ∈ (head, kept) :: rest, compare key entry.1 = .lt :=
            List.forall_mem_cons.mpr
              ⟨hcompare, fun entry hentry => TransCmp.lt_trans hcompare (hhead entry hentry)⟩
          refine ⟨List.pairwise_cons.mpr ⟨hbefore, hmap⟩, fun other held => ?_⟩
          simp only
          rw [List.mem_cons, Prod.mk.injEq]
          refine or_congr_right ⟨fun hmem => ⟨?_, hmem⟩, And.right⟩
          exact (ne_of_compare (hbefore _ hmem)).symm
      | eq =>
          obtain rfl := LawfulEqCmp.eq_of_compare hcompare
          refine ⟨List.pairwise_cons.mpr ⟨hhead, hrest⟩, fun other held => ?_⟩
          simp only
          rw [List.mem_cons, Prod.mk.injEq, List.mem_cons, Prod.mk.injEq]
          refine or_congr_right ⟨fun hmem => ⟨(hne other held hmem).symm, .inr hmem⟩, fun h => ?_⟩
          exact h.2.resolve_left fun hsame => h.1 hsame.1
      | gt =>
          obtain ⟨hascending, hmem⟩ := ih hrest
          have hlt : compare head key = .lt := OrientedCmp.lt_of_gt hcompare
          refine ⟨List.pairwise_cons.mpr ⟨fun entry hentry => ?_, hascending⟩, fun other held => ?_⟩
          · obtain ⟨other, held⟩ := entry
            rcases (hmem other held).mp hentry with ⟨rfl, -⟩ | ⟨-, hentry⟩
            · exact hlt
            · exact hhead _ hentry
          · simp only
            rw [List.mem_cons, hmem, List.mem_cons, Prod.mk.injEq]
            constructor
            · rintro (⟨rfl, rfl⟩ | hsame | ⟨hother, hmem⟩)
              · exact .inr ⟨ne_of_compare hlt, .inl ⟨rfl, rfl⟩⟩
              · exact .inl hsame
              · exact .inr ⟨hother, .inr hmem⟩
            · rintro (hsame | ⟨hother, hfirst | hmem⟩)
              · exact .inr (.inl hsame)
              · exact .inl hfirst
              · exact .inr (.inr ⟨hother, hmem⟩)

/-- A map that is built from entries has their keys in order, each once, and under each key the
value of the last entry with the key. -/
theorem map_of_entries (entries : List (α × β)) :
    Ascending compare (mapOfEntries compare entries) ∧
      ∀ key value, (key, value) ∈ mapOfEntries compare entries ↔
        LastWith (fun entry => entry.1 = key) entries (key, value) := by
  induction entries using List.reverseRecOn with
  | nil => exact ⟨.nil, fun key value => iff_of_false List.not_mem_nil not_last_with_nil⟩
  | append_singleton entries entry ih =>
      obtain ⟨first, held⟩ := entry
      obtain ⟨hascending, hmem⟩ := ih
      have hmap : mapOfEntries compare (entries ++ [(first, held)]) =
          insertEntry compare first held (mapOfEntries compare entries) := List.foldl_concat ..
      rw [hmap]
      refine ⟨(insert_entry hascending).1, fun key value => ?_⟩
      rw [(insert_entry hascending).2, hmem, last_with_append, last_with_cons]
      simp only [not_last_with_nil, false_or, List.not_mem_nil, false_imp_iff, implies_true,
        true_and, List.mem_singleton, forall_eq, Prod.mk.injEq]
      constructor
      · rintro (⟨rfl, rfl⟩ | ⟨hne, hlast⟩)
        · exact .inl ⟨rfl, rfl, rfl⟩
        · exact .inr ⟨fun h => hne h.symm, hlast⟩
      · rintro (⟨-, hsame⟩ | ⟨hne, hlast⟩)
        · exact .inl hsame
        · exact .inr ⟨fun h => hne h.symm, hlast⟩

end Entries

end SheetWire.WireType
