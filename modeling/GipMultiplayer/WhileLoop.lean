import Mathlib.Data.List.Nodup
import Mathlib.Data.List.Perm.Subperm
import Mathlib.Data.Nat.Find

/-!
# Loops that search

A loop tests its state and, while the test says so, runs its body, which may
fail.  Its runs are counted in tests, so that a bound on the tests is a bound on
the loop.

* `run` — the state the loop ends in and the tests it has made, unless a body
  failed or more tests were needed than allowed;
* `run_of_path` — the run along states that are given in advance;
* `run_mono` — more tests allowed change nothing;
* `exists_first_free` — among distinct candidates one is free before the list of
  those taken is used up.
-/

namespace WhileLoop

variable {σ : Type*} (test : σ → Bool) (body : σ → Option σ)

/-- The loop with so many tests allowed. -/
def run : Nat → σ → Option (σ × Nat)
  | 0, _ => none
  | allowed + 1, s =>
      if test s then
        (body s).bind fun t => (run allowed t).map fun ended => (ended.1, ended.2 + 1)
      else some (s, 1)

variable {test body}

/-- **A run along a path**: where the test fails for the first time after `n`
rounds, the loop ends with `n + 1` tests. -/
theorem run_of_path (path : Nat → σ) {n : Nat}
    (hbody : ∀ k < n, body (path k) = some (path (k + 1)))
    (htest : ∀ k < n, test (path k) = true) (hend : test (path n) = false) :
    run test body (n + 1) (path 0) = some (path n, n + 1) := by
  induction n generalizing path with
  | zero =>
      unfold run
      rw [hend]
      rfl
  | succ n ih =>
      have htail := ih (fun k => path (k + 1))
        (fun k hk => hbody (k + 1) (by omega)) (fun k hk => htest (k + 1) (by omega)) hend
      unfold run
      rw [if_pos (htest 0 (by omega)), hbody 0 (by omega), Option.bind_some, htail]
      rfl

/-- **More tests allowed** do not change how a loop ends. -/
theorem run_mono {allowed more : Nat} (hle : allowed ≤ more) {s : σ} {ended : σ × Nat}
    (h : run test body allowed s = some ended) : run test body more s = some ended := by
  induction allowed generalizing more s ended with
  | zero => cases h
  | succ allowed ih =>
      obtain ⟨more, rfl⟩ : ∃ m, more = m + 1 := ⟨more - 1, by omega⟩
      unfold run at h ⊢
      split_ifs at h ⊢ with htest
      · obtain ⟨t, ht, hrest⟩ := Option.bind_eq_some_iff.mp h
        obtain ⟨last, hlast, hended⟩ := Option.map_eq_some_iff.mp hrest
        rw [ht, Option.bind_some, ih (by omega) hlast, ← hended]
        rfl
      · exact h

/-! ## Distinct candidates -/

section

variable {α : Type*} {candidate : Nat → α} {taken : List α}

/-- Distinct candidates that are all taken are no more than those taken. -/
theorem length_le_of_taken (hdistinct : Function.Injective candidate) {n : Nat}
    (h : ∀ k < n, candidate k ∈ taken) : n ≤ taken.length := by
  have hnodup : ((List.range n).map candidate).Nodup := List.nodup_range.map hdistinct
  have hsubset : (List.range n).map candidate ⊆ taken := by
    intro a ha
    obtain ⟨k, hk, rfl⟩ := List.mem_map.mp ha
    exact h k (List.mem_range.mp hk)
  have hlength := (hnodup.subperm hsubset).length_le
  rwa [List.length_map, List.length_range] at hlength

/-- **Among distinct candidates** the first free one comes before the list of
those taken is used up. -/
theorem exists_first_free [DecidableEq α] (hdistinct : Function.Injective candidate)
    (taken : List α) :
    ∃ n ≤ taken.length, candidate n ∉ taken ∧ ∀ k < n, candidate k ∈ taken := by
  have hfree : ∃ n, candidate n ∉ taken := by
    by_contra hall
    push Not at hall
    have hlength := length_le_of_taken hdistinct
      (fun k (_ : k < taken.length + 1) => hall k)
    omega
  have hbefore : ∀ k < Nat.find hfree, candidate k ∈ taken := by
    intro k hk
    by_contra hnot
    exact Nat.find_min hfree hk hnot
  exact ⟨Nat.find hfree, length_le_of_taken hdistinct hbefore, Nat.find_spec hfree, hbefore⟩

end

end WhileLoop
