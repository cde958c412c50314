import Mathlib.Data.Fintype.Card
import Mathlib.Data.Set.Finite.Basic
import Mathlib.Logic.Relation

/-!
# Ways that come back

A way along a relation returns if it comes to a point that it can come to again. Among finitely many
points a way that does not return has an end (`acc_of_not_returns`), and one that returns goes on
for ever (`Returns.exists_step`).
-/

namespace SheetWire

open Relation

variable {α : Type} {step : α → α → Prop}

/-- Whether a way from a point comes to a point that it can come to again. -/
def Returns (step : α → α → Prop) (start : α) : Prop :=
  ∃ loop, ReflTransGen step start loop ∧ TransGen step loop loop

/-- A way that returns can be gone one step further and still returns. -/
theorem Returns.exists_step {start : α} (h : Returns step start) :
    ∃ next, step start next ∧ Returns step next := by
  obtain ⟨loop, hstart, hloop⟩ := h
  rcases ReflTransGen.cases_head hstart with rfl | ⟨next, hnext, hrest⟩
  · obtain ⟨next, hnext, hrest⟩ := TransGen.head'_iff.mp hloop
    exact ⟨next, hnext, start, hrest, hloop⟩
  · exact ⟨next, hnext, loop, hrest, hloop⟩

/-- Among finitely many points, a way that does not return has an end. -/
theorem acc_of_not_returns {start : α} {points : List α}
    (hpoints : ∀ point, ReflTransGen step start point → point ∈ points)
    (h : ¬ Returns step start) : Acc (flip step) start := by
  let Reached := { point // ReflTransGen step start point }
  let above : Reached → Reached → Prop := fun later earlier => TransGen step earlier.1 later.1
  -- On the points that the way comes to, being further on is a strict order, and they are finite.
  have : Finite Reached :=
    ((List.finite_toSet points).subset fun point hpoint => hpoints point hpoint).to_subtype
  have : IsTrans Reached above := ⟨fun _ _ _ hfirst hsecond => hsecond.trans hfirst⟩
  have : Std.Irrefl above := ⟨fun point hloop => h ⟨point.1, point.2, hloop⟩⟩
  have hacc : ∀ point : Reached, Acc (flip step) point.1 := by
    intro point
    induction point using (Finite.wellFounded_of_trans_of_irrefl above).induction with
    | _ point ih =>
        refine Acc.intro _ fun next hnext => ?_
        exact ih ⟨next, point.2.tail hnext⟩ (.single hnext)
  exact hacc ⟨start, .refl⟩

end SheetWire
