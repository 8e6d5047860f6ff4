import Mathlib.Algebra.Order.BigOperators.Group.List
import Mathlib.Algebra.Order.Ring.Int

/-!
# The truncated mean of integers

A sum divided by the number of its terms, rounded toward zero.  Rounding toward
zero is not a lower bound of the quotient, yet the mean stays between the terms
and grows with each of them, because dividing by a positive number is monotone.

* `mean` — the mean;
* `exists_le_mean`, `exists_ge_mean` — it lies between two of the terms;
* `mean_perm`, `mean_mono` — order does not matter, and greater terms have no
  smaller mean.
-/

namespace TruncatedMean

/-- The sum over the number of terms, truncated. -/
def mean (l : List Int) : Int := l.sum.tdiv l.length

variable {l m : List Int}

theorem length_pos (hne : l ≠ []) : 0 < (l.length : Int) := by
  have hpos := List.length_pos_iff.mpr hne
  omega

/-- The mean of terms that are at most `hi`. -/
theorem mean_le (hne : l ≠ []) {hi : Int} (h : ∀ x ∈ l, x ≤ hi) : mean l ≤ hi := by
  have hpos := length_pos hne
  have hsum : l.sum ≤ hi * l.length := by
    have hle := List.sum_le_card_nsmul l hi h
    rwa [nsmul_eq_mul, mul_comm] at hle
  calc mean l ≤ (hi * l.length).tdiv l.length := Int.tdiv_le_tdiv hpos hsum
    _ = hi := Int.mul_tdiv_cancel hi hpos.ne'

/-- The mean of terms that are at least `lo`. -/
theorem le_mean (hne : l ≠ []) {lo : Int} (h : ∀ x ∈ l, lo ≤ x) : lo ≤ mean l := by
  have hpos := length_pos hne
  have hsum : lo * l.length ≤ l.sum := by
    have hle := List.card_nsmul_le_sum l lo h
    rwa [nsmul_eq_mul, mul_comm] at hle
  exact Int.le_tdiv_of_mul_le hpos hsum

/-- **Some term is at most the mean.** -/
theorem exists_le_mean (hne : l ≠ []) : ∃ x ∈ l, x ≤ mean l := by
  by_contra hall
  push Not at hall
  have hle : mean l + 1 ≤ mean l := le_mean hne fun x hx => hall x hx
  omega

/-- **Some term is at least the mean.** -/
theorem exists_ge_mean (hne : l ≠ []) : ∃ x ∈ l, mean l ≤ x := by
  by_contra hall
  push Not at hall
  have hle : mean l ≤ mean l - 1 := mean_le hne fun x hx => by
    have hlt := hall x hx
    omega
  omega

theorem mean_perm (h : l.Perm m) : mean l = mean m := by
  rw [mean, mean, h.sum_eq, h.length_eq]

/-- **The mean is monotone** in every term. -/
theorem mean_mono (h : List.Forall₂ (· ≤ ·) l m) : mean l ≤ mean m := by
  rcases Nat.eq_zero_or_pos l.length with hzero | hpos
  · obtain rfl := List.length_eq_zero_iff.mp hzero
    cases h
    exact le_rfl
  · rw [mean, mean, ← h.length_eq]
    apply Int.tdiv_le_tdiv
    · omega
    · exact h.sum_le_sum

end TruncatedMean
