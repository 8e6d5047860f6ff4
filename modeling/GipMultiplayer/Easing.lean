import Mathlib.Algebra.Order.BigOperators.Ring.List
import Mathlib.Analysis.Convex.Basic

/-!
# Easing toward a target

A point that is eased goes a fraction of the way to its target.  It stays in any
convex set that has both, and its distance to a target that stands still is
multiplied by what is left of the way.

* `ease`, `easeAll` — one step, and several;
* `easeAll_sub` — what is left of the way;
* `ease_mem` — convex sets.
-/

namespace Easing

variable {K V : Type*} [Field K] [AddCommGroup V] [Module K V]

/-- Go a fraction of the way. -/
def ease (target position : V) (fraction : K) : V := position + fraction • (target - position)

/-- One fraction after the other. -/
def easeAll (target position : V) (fractions : List K) : V :=
  fractions.foldl (ease target) position

/-- What is left of the way. -/
def remaining (fractions : List K) : K := (fractions.map (1 - ·)).prod

variable {target position : V} {fraction : K} {fractions : List K}

/-- One step leaves its share of the way. -/
theorem ease_sub (target position : V) (fraction : K) :
    ease target position fraction - target = (1 - fraction) • (position - target) := by
  unfold ease
  module

/-- **What is left of the way** to a target that stands still. -/
theorem easeAll_sub (target position : V) (fractions : List K) :
    easeAll target position fractions - target = remaining fractions • (position - target) := by
  induction fractions generalizing position with
  | nil => exact (one_smul K _).symm
  | cons fraction fractions ih =>
      rw [easeAll, List.foldl_cons, ← easeAll, ih, ease_sub, smul_smul, remaining, remaining,
        List.map_cons, List.prod_cons, mul_comm]

/-- A whole way leaves nothing. -/
theorem remaining_eq_zero (h : (1 : K) ∈ fractions) : remaining fractions = 0 :=
  List.prod_eq_zero (List.mem_map.mpr ⟨1, h, sub_self 1⟩)

variable [LinearOrder K]

/-- **The point stays in a convex set.** -/
theorem ease_mem [IsStrictOrderedRing K] {C : Set V} (hC : Convex K C) (hposition : position ∈ C)
    (htarget : target ∈ C) (hnonneg : 0 ≤ fraction) (hle : fraction ≤ 1) :
    ease target position fraction ∈ C :=
  hC.add_smul_sub_mem hposition htarget ⟨hnonneg, hle⟩

end Easing
