import Mathlib.Data.Finset.Card
import Mathlib.Logic.Relation

/-!
# Recursions that take a bound

A recursion over data that may come back to itself takes a bound and has a result of its own for a
bound that was too small. `BoundedRecursion` collects what such a recursion promises of one step.
From that alone a result stays the same once it is there (`eval_of_le`), and a call that ends under
any bound ends under the number of keys that the calls below it can have (`eval_of_card_le`).
-/

namespace SheetWire

open Relation

/-- A recursion with a bound. `calls` holds between a call and the calls it may make, and `key`
tells the calls apart that can lie on one way down. -/
structure BoundedRecursion (κ ρ ι : Type) where
  eval : Nat → κ → ρ
  endless : ρ → Prop
  calls : κ → κ → Prop
  key : κ → ι
  endless_zero : ∀ call, endless (eval 0 call)
  eval_congr : ∀ {bound other call},
    (∀ inner, calls call inner → ¬ endless (eval bound inner) →
      eval other inner = eval bound inner) →
    ¬ endless (eval (bound + 1) call) → eval (other + 1) call = eval (bound + 1) call
  endless_inner : ∀ {bound call}, endless (eval (bound + 1) call) →
    ∃ inner, calls call inner ∧ endless (eval bound inner)
  eq_of_key : ∀ {call inner}, ReflTransGen calls call inner → key call = key inner → call = inner

namespace BoundedRecursion

variable {κ ρ ι : Type} (recursion : BoundedRecursion κ ρ ι)

/-- Whether some bound is large enough for a call. -/
def Ends (call : κ) : Prop :=
  ∃ bound, ¬ recursion.endless (recursion.eval bound call)

variable {recursion}

/-- A larger bound does not change a result. -/
theorem eval_of_le {bound other : Nat} {call : κ} (hle : bound ≤ other)
    (h : ¬ recursion.endless (recursion.eval bound call)) :
    recursion.eval other call = recursion.eval bound call := by
  induction bound generalizing other call with
  | zero => exact absurd (recursion.endless_zero call) h
  | succ bound ih =>
      obtain ⟨other, rfl⟩ : ∃ smaller, other = smaller + 1 := ⟨other - 1, by omega⟩
      exact recursion.eval_congr (fun inner _ hinner => ih (by omega) hinner) h

/-- A bound that is too small stays so when it is lowered. -/
theorem endless_of_le {bound other : Nat} {call : κ} (hle : bound ≤ other)
    (h : recursion.endless (recursion.eval other call)) :
    recursion.endless (recursion.eval bound call) := by
  by_contra hbound
  rw [eval_of_le hle hbound] at h
  exact hbound h

/-- Whether a set holds the keys of a call and of all calls below it. -/
def Covers (recursion : BoundedRecursion κ ρ ι) (keys : Finset ι) (call : κ) : Prop :=
  ∀ inner, ReflTransGen recursion.calls call inner → recursion.key inner ∈ keys

/-- What covers a call covers the calls that it makes. -/
theorem Covers.inner {keys : Finset ι} {call inner : κ} (h : recursion.Covers keys call)
    (hcall : recursion.calls call inner) : recursion.Covers keys inner :=
  fun below hbelow => h below (.head hcall hbelow)

/-- A call for which a bound is just large enough makes a call for which the next smaller bound is
just large enough. -/
theorem exists_tight_inner {bound : Nat} {call : κ}
    (hends : ¬ recursion.endless (recursion.eval (bound + 2) call))
    (htight : recursion.endless (recursion.eval (bound + 1) call)) :
    ∃ inner, recursion.calls call inner ∧
      ¬ recursion.endless (recursion.eval (bound + 1) inner) ∧
      recursion.endless (recursion.eval bound inner) := by
  by_contra hnone
  -- Otherwise every inner call that ends would end under the smaller bound, and the call with them.
  have heq : recursion.eval (bound + 1) call = recursion.eval (bound + 2) call := by
    refine recursion.eval_congr (fun inner hcall hinner => ?_) hends
    have hbound : ¬ recursion.endless (recursion.eval bound inner) :=
      fun hbound => hnone ⟨inner, hcall, hinner, hbound⟩
    exact (eval_of_le (Nat.le_succ bound) hbound).symm
  exact hends (heq ▸ htight)

/-- If a bound is just large enough for a call, every smaller number is the tight bound of a call
below it, and these calls have different keys. -/
theorem bound_le_card {bound : Nat} {call : κ} (keys : Finset ι)
    (hends : ¬ recursion.endless (recursion.eval (bound + 1) call))
    (htight : recursion.endless (recursion.eval bound call))
    (hkeys : ∀ inner smaller, ReflTransGen recursion.calls call inner → smaller ≤ bound →
      ¬ recursion.endless (recursion.eval (smaller + 1) inner) →
      recursion.endless (recursion.eval smaller inner) → recursion.key inner ∈ keys) :
    bound + 1 ≤ keys.card := by
  classical
  induction bound generalizing call keys with
  | zero =>
      exact Finset.card_pos.mpr ⟨_, hkeys call 0 .refl le_rfl hends htight⟩
  | succ bound ih =>
      obtain ⟨inner, hcall, hinner, hsmaller⟩ := exists_tight_inner hends htight
      have hmem : recursion.key call ∈ keys := hkeys call (bound + 1) .refl le_rfl hends htight
      have hcard : bound + 1 ≤ (keys.erase (recursion.key call)).card := by
        -- A call further below with the same key would be the call itself, with two tight bounds.
        refine ih _ hinner hsmaller fun below smaller hbelow hle hbelowEnds hbelowTight => ?_
        refine Finset.mem_erase.mpr ⟨fun hkey => ?_, ?_⟩
        · obtain rfl := recursion.eq_of_key (.head hcall hbelow) hkey.symm
          exact hbelowEnds (endless_of_le (by omega) htight)
        · exact hkeys below smaller (.head hcall hbelow) (by omega) hbelowEnds hbelowTight
      rw [Finset.card_erase_of_mem hmem] at hcard
      have hpos : 0 < keys.card := Finset.card_pos.mpr ⟨_, hmem⟩
      omega

/-- A call that ends ends under the number of keys that cover it. -/
theorem not_endless_card {keys : Finset ι} {call : κ} (hkeys : recursion.Covers keys call)
    (h : recursion.Ends call) : ¬ recursion.endless (recursion.eval keys.card call) := by
  intro hcard
  obtain ⟨bound, hbound⟩ := h
  induction bound with
  | zero => exact hbound (recursion.endless_zero call)
  | succ bound ih =>
      by_cases htight : recursion.endless (recursion.eval bound call)
      · have hle := bound_le_card keys hbound htight fun inner _ hinner _ _ _ => hkeys inner hinner
        exact hbound (endless_of_le hle hcard)
      · exact ih htight

/-- Under a bound that is no smaller than the number of keys, a call has the result that it has
under any bound at all. -/
theorem eval_of_card_le {keys : Finset ι} {bound other : Nat} {call : κ}
    (hkeys : recursion.Covers keys call) (hcard : keys.card ≤ other)
    (h : ¬ recursion.endless (recursion.eval bound call)) :
    recursion.eval other call = recursion.eval bound call := by
  have hends := not_endless_card hkeys ⟨bound, h⟩
  rw [eval_of_le hcard hends]
  rcases Nat.le_total bound keys.card with hle | hle
  · exact eval_of_le hle h
  · exact (eval_of_le hle hends).symm

/-- A call ends if every call that it makes ends. -/
theorem ends_of_inner {keys : Finset ι} {call : κ} (hkeys : recursion.Covers keys call)
    (h : ∀ inner, recursion.calls call inner → recursion.Ends inner) : recursion.Ends call := by
  refine ⟨keys.card + 1, fun hendless => ?_⟩
  obtain ⟨inner, hcall, hinner⟩ := recursion.endless_inner hendless
  exact not_endless_card (hkeys.inner hcall) (h inner hcall) hinner

end BoundedRecursion

end SheetWire
