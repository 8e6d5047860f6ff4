import Mathlib.Data.List.Basic

/-!
# Cutting a stream into blocks

A framer keeps what it has read of an unfinished block and emits a block as
soon as it is full.  It is fed one element at a time, so feeding it in pieces
is feeding it their concatenation.

* `feed_append` — feeding twice is feeding once;
* `feed_fill`, `feed_short` — feeding up to the end of a block, or not so far;
* `feed_flatten` — nothing is lost, repeated or reordered;
* `feed_getElem`, `feed_rest` — which elements are in which block.
-/

namespace Framing

variable {α : Type*}

/-- One more element: the blocks it completes, and what is buffered then. -/
def push (n : Nat) (buffer : List α) (x : α) : List (List α) × List α :=
  if buffer.length + 1 = n then ([buffer ++ [x]], []) else ([], buffer ++ [x])

/-- The elements in turn. -/
def feed (n : Nat) (buffer : List α) : List α → List (List α) × List α
  | [] => ([], buffer)
  | x :: xs =>
      ((push n buffer x).1 ++ (feed n (push n buffer x).2 xs).1, (feed n (push n buffer x).2 xs).2)

@[simp] theorem feed_nil (n : Nat) (buffer : List α) : feed n buffer [] = ([], buffer) := rfl

/-- **Feeding in pieces.**  Feeding twice is feeding the concatenation. -/
theorem feed_append (n : Nat) (buffer xs ys : List α) :
    feed n buffer (xs ++ ys) =
      ((feed n buffer xs).1 ++ (feed n (feed n buffer xs).2 ys).1,
        (feed n (feed n buffer xs).2 ys).2) := by
  induction xs generalizing buffer with
  | nil => rfl
  | cons x xs ih =>
      rw [List.cons_append, feed, feed, ih]
      simp only [List.append_assoc]

/-- Too few elements for a block are buffered. -/
theorem feed_short {n : Nat} {buffer xs : List α} (h : buffer.length + xs.length < n) :
    feed n buffer xs = ([], buffer ++ xs) := by
  induction xs generalizing buffer with
  | nil => rw [feed_nil, List.append_nil]
  | cons x xs ih =>
      rw [List.length_cons] at h
      have hpush : push n buffer x = ([], buffer ++ [x]) := if_neg (by omega)
      have hrest : (buffer ++ [x]).length + xs.length < n := by
        rw [List.length_append, List.length_singleton]
        omega
      rw [feed, hpush, ih hrest, List.append_assoc]
      rfl

/-- Just enough elements make a block. -/
theorem feed_fill {n : Nat} {buffer xs : List α} (hxs : xs ≠ [])
    (h : buffer.length + xs.length = n) : feed n buffer xs = ([buffer ++ xs], []) := by
  induction xs generalizing buffer with
  | nil => exact absurd rfl hxs
  | cons x xs ih =>
      rw [List.length_cons] at h
      cases xs with
      | nil =>
          have hpush : push n buffer x = ([buffer ++ [x]], []) := if_pos h
          rw [feed, hpush]
          rfl
      | cons y ys =>
          rw [List.length_cons] at h
          have hpush : push n buffer x = ([], buffer ++ [x]) := if_neg (by omega)
          have hrest : (buffer ++ [x]).length + (y :: ys).length = n := by
            rw [List.length_append, List.length_singleton, List.length_cons]
            omega
          rw [feed, hpush, ih (List.cons_ne_nil _ _) hrest, List.append_assoc]
          rfl

/-- **Nothing is lost, repeated or reordered.** -/
theorem feed_flatten (n : Nat) (buffer xs : List α) :
    (feed n buffer xs).1.flatten ++ (feed n buffer xs).2 = buffer ++ xs := by
  induction xs generalizing buffer with
  | nil => rw [feed_nil, List.append_nil, List.flatten_nil, List.nil_append]
  | cons x xs ih =>
      have hpush : (push n buffer x).1.flatten ++ (push n buffer x).2 = buffer ++ [x] := by
        unfold push
        split_ifs <;> simp
      rw [feed, List.flatten_append, List.append_assoc, ih, ← List.append_assoc, hpush,
        List.append_assoc]
      rfl

/-- What is buffered is short of a block. -/
theorem feed_rest_length {n : Nat} {buffer : List α} (h : buffer.length < n) (xs : List α) :
    (feed n buffer xs).2.length < n := by
  induction xs generalizing buffer with
  | nil => exact h
  | cons x xs ih =>
      refine ih ?_
      unfold push
      split_ifs with hfull
      · exact Nat.zero_lt_of_lt h
      · show (buffer ++ [x]).length < n
        rw [List.length_append, List.length_singleton]
        omega

/-- Every block is full. -/
theorem feed_block_length {n : Nat} (buffer xs : List α) :
    ∀ block ∈ (feed n buffer xs).1, block.length = n := by
  induction xs generalizing buffer with
  | nil => exact fun block hblock => absurd hblock List.not_mem_nil
  | cons x xs ih =>
      intro block hblock
      rcases List.mem_append.mp hblock with hnow | hlater
      · unfold push at hnow
        split_ifs at hnow with hfull
        · obtain rfl := List.mem_singleton.mp hnow
          rw [List.length_append, List.length_singleton, hfull]
        · exact absurd hnow List.not_mem_nil
      · exact ih _ block hlater

/-- Blocks of one length, cut off their concatenation. -/
theorem flatten_drop {n : Nat} {blocks : List (List α)} (h : ∀ block ∈ blocks, block.length = n)
    (rest : List α) : (blocks.flatten ++ rest).drop (n * blocks.length) = rest := by
  induction blocks with
  | nil => rfl
  | cons block blocks ih =>
      have hblock := h block List.mem_cons_self
      have hadd : n * (block :: blocks).length = block.length + n * blocks.length := by
        rw [List.length_cons, Nat.mul_succ, hblock, Nat.add_comm]
      rw [List.flatten_cons, List.append_assoc, hadd, ← List.drop_drop, List.drop_left]
      exact ih fun b hb => h b (List.mem_cons_of_mem _ hb)

theorem flatten_getElem {n : Nat} {blocks : List (List α)}
    (h : ∀ block ∈ blocks, block.length = n) (rest : List α) {i : Nat} {block : List α}
    (hi : blocks[i]? = some block) :
    ((blocks.flatten ++ rest).drop (n * i)).take n = block := by
  induction blocks generalizing i with
  | nil => simp at hi
  | cons first blocks ih =>
      have hfirst := h first List.mem_cons_self
      cases i with
      | zero =>
          obtain rfl : first = block := by simpa using hi
          rw [Nat.mul_zero, List.drop_zero, List.flatten_cons, List.append_assoc, ← hfirst,
            List.take_left]
      | succ i =>
          have hadd : n * (i + 1) = first.length + n * i := by
            rw [Nat.mul_succ, hfirst, Nat.add_comm]
          rw [List.flatten_cons, List.append_assoc, hadd, ← List.drop_drop, List.drop_left]
          exact ih (fun b hb => h b (List.mem_cons_of_mem _ hb)) (by simpa using hi)

/-- **The `i`-th block is the `i`-th stretch of the stream.** -/
theorem feed_getElem {n : Nat} {buffer xs : List α} {i : Nat} {block : List α}
    (hi : (feed n buffer xs).1[i]? = some block) :
    ((buffer ++ xs).drop (n * i)).take n = block := by
  rw [← feed_flatten n buffer xs]
  exact flatten_getElem (feed_block_length buffer xs) _ hi

/-- **The rest is what comes after the blocks.** -/
theorem feed_rest (n : Nat) (buffer xs : List α) :
    (feed n buffer xs).2 = (buffer ++ xs).drop (n * (feed n buffer xs).1.length) := by
  conv_rhs => rw [← feed_flatten n buffer xs]
  exact (flatten_drop (feed_block_length buffer xs) _).symm

end Framing
