import Mathlib.Data.List.Basic

/-!
# Bounded queues, first in first out

A queue of at most `capacity` elements under writes, reads and clears of any
sizes.  Queues differ in what they accept of a write that does not fit, so the
acceptance is a parameter: from the room that is left and the input to what is
stored.

* `step`, `run` — one operation, and any sequence of them, with their results;
* `allOrNone`, `longestPrefix` — two acceptances;
* `run_refines` — a machine that matches the queue in each operation matches it
  in every sequence, as long as a budget of elements is not exhausted.
-/

namespace Fifo

variable {α σ ι ο : Type*}

/-- An operation. -/
inductive Op (α : Type*)
  | write (input : List α)
  | read (count : ℕ)
  | clear

/-- What an operation returns. -/
inductive Out (α : Type*)
  | written (count : ℕ)
  | samples (output : List α)
  | cleared
  deriving DecidableEq

/-- A write that does not fit is refused. -/
def allOrNone (room : ℕ) (input : List α) : List α :=
  if input.length ≤ room then input else []

/-- A write is cut off where the queue is full. -/
def longestPrefix (room : ℕ) (input : List α) : List α := input.take room

/-- One operation on a queue. -/
def step (accept : ℕ → List α → List α) (capacity : ℕ) (queue : List α) : Op α → List α × Out α
  | .write input =>
      let stored := accept (capacity - queue.length) input
      (queue ++ stored, .written stored.length)
  | .read count => (queue.drop count, .samples (queue.take count))
  | .clear => ([], .cleared)

/-- A sequence of operations on any machine: its state and the results. -/
def run (step : σ → ι → σ × ο) : σ → List ι → σ × List ο
  | s, [] => (s, [])
  | s, op :: ops => ((run step (step s op).1 ops).1, (step s op).2 :: (run step (step s op).1 ops).2)

/-- The elements an operation offers. -/
def Op.offered : Op α → ℕ
  | .write input => input.length
  | .read _ | .clear => 0

/-- The elements a sequence of operations offers in total. -/
def offered : List (Op α) → ℕ
  | [] => 0
  | op :: ops => op.offered + offered ops

/-- One more operation at the end. -/
theorem run_concat (step : σ → ι → σ × ο) (s : σ) (ops : List ι) (op : ι) :
    run step s (ops ++ [op]) =
      ((step (run step s ops).1 op).1, (run step s ops).2 ++ [(step (run step s ops).1 op).2]) := by
  induction ops generalizing s with
  | nil => rfl
  | cons first ops ih =>
      rw [List.cons_append, run, ih]
      rfl

/-- **Refinement over runs.**  A machine whose state stands for a queue while
`budget` elements may still be offered, and that answers each operation as the
queue does, answers every sequence that stays within the budget as the queue
does. -/
theorem run_refines {accept : ℕ → List α → List α} {capacity : ℕ}
    {machine : σ → ι → σ × Out α} {translate : ι → Op α} (stands : ℕ → σ → List α → Prop)
    (hstep : ∀ budget s queue op, stands ((translate op).offered + budget) s queue →
      stands budget (machine s op).1 (step accept capacity queue (translate op)).1 ∧
        (machine s op).2 = (step accept capacity queue (translate op)).2)
    {ops : List ι} {budget : ℕ} {s : σ} {queue : List α}
    (h : stands (offered (ops.map translate) + budget) s queue) :
    stands budget (run machine s ops).1
        (run (step accept capacity) queue (ops.map translate)).1 ∧
      (run machine s ops).2 = (run (step accept capacity) queue (ops.map translate)).2 := by
  induction ops generalizing s queue with
  | nil =>
      have hnone : offered (([] : List ι).map translate) + budget = budget := Nat.zero_add budget
      rw [hnone] at h
      exact ⟨h, rfl⟩
  | cons op ops ih =>
      rw [List.map_cons, offered, Nat.add_assoc] at h
      obtain ⟨hnext, hout⟩ := hstep _ s queue op h
      obtain ⟨hlast, houts⟩ := ih hnext
      refine ⟨hlast, ?_⟩
      show (machine s op).2 :: _ = (step accept capacity queue (translate op)).2 :: _
      rw [hout, houts]

end Fifo
