import Mathlib.Data.List.Basic

/-!
# Circular memory

A block of memory that is filled and emptied from positions that only count
up.  A position lies in the slot that is its remainder by the size, and a
transfer that passes the end of the block is made in two copies.

* `copyTo` — one copy to an offset;
* `copyInto`, `copyOut` — a transfer in two copies;
* `Holds` — what lies in the slots from a position on;
* `Holds.copyInto`, `Holds.copyOut` — what a transfer leaves and returns.
-/

namespace Circular

variable {α : Type*}

/-- The memory after `source` was copied to an offset of it. -/
def copyTo (memory : List α) (offset : Nat) (source : List α) : List α :=
  memory.take offset ++ source ++ memory.drop (offset + source.length)

/-- `input` is written from the slot of `position` on; what passes the end goes
to the front. -/
def copyInto (memory : List α) (position : Nat) (input : List α) : List α :=
  let offset := position % memory.length
  let first := min input.length (memory.length - offset)
  copyTo (copyTo memory offset (input.take first)) 0 (input.drop first)

/-- `count` elements are read from the slot of `position` on; what passes the
end comes from the front. -/
def copyOut (memory : List α) (position count : Nat) : List α :=
  let offset := position % memory.length
  let first := min count (memory.length - offset)
  (memory.drop offset).take first ++ memory.take (count - first)

/-- The slots from `position` on hold `queue`. -/
def Holds (memory : List α) (position : Nat) (queue : List α) : Prop :=
  ∀ i, i < queue.length → memory[(position + i) % memory.length]? = queue[i]?

/-! ## Slots -/

/-- A slot before the end of the block. -/
theorem slot_before {size position i : Nat} (h : position % size + i < size) :
    (position + i) % size = position % size + i := by
  rw [← Nat.mod_add_mod, Nat.mod_eq_of_lt h]

/-- A slot past the end of the block. -/
theorem slot_after {size position i : Nat} (hi : i < size) (h : size ≤ position % size + i) :
    (position + i) % size = position % size + i - size := by
  have hlt : position % size < size := Nat.mod_lt _ (by omega)
  rw [← Nat.mod_add_mod, Nat.mod_eq_sub_mod h, Nat.mod_eq_of_lt (by omega)]

/-- Positions less than a block apart lie in different slots. -/
theorem slot_ne {size position i j : Nat} (hij : i < j) (hj : j < size) :
    (position + i) % size ≠ (position + j) % size := by
  have hlt : position % size < size := Nat.mod_lt _ (by omega)
  rcases Nat.lt_or_ge (position % size + i) size with hi | hi
  · rw [slot_before hi]
    rcases Nat.lt_or_ge (position % size + j) size with hj' | hj'
    · rw [slot_before hj']
      omega
    · rw [slot_after hj hj']
      omega
  · rw [slot_after (by omega) hi, slot_after hj (by omega)]
    omega

/-! ## Copies -/

theorem length_copyTo {memory source : List α} {offset : Nat}
    (h : offset + source.length ≤ memory.length) :
    (copyTo memory offset source).length = memory.length := by
  simp only [copyTo, List.length_append, List.length_take, List.length_drop]
  omega

/-- A copy changes the slots it covers and no other. -/
theorem getElem?_copyTo {memory source : List α} {offset : Nat}
    (h : offset + source.length ≤ memory.length) (j : Nat) :
    (copyTo memory offset source)[j]? =
      if offset ≤ j ∧ j < offset + source.length then source[j - offset]? else memory[j]? := by
  have hoffset : (memory.take offset).length = offset := by
    rw [List.length_take]
    omega
  unfold copyTo
  rcases Nat.lt_or_ge j offset with hbefore | hafter
  · rw [if_neg (by omega), List.append_assoc, List.getElem?_append_left (by omega),
      List.getElem?_take_of_lt hbefore]
  · rw [List.append_assoc, List.getElem?_append_right (by omega), hoffset]
    rcases Nat.lt_or_ge j (offset + source.length) with hin | hout
    · rw [if_pos ⟨hafter, hin⟩, List.getElem?_append_left (by omega)]
    · rw [if_neg (by omega), List.getElem?_append_right (by omega), List.getElem?_drop]
      congr 1
      omega

@[simp] theorem copyInto_nil (memory : List α) (position : Nat) :
    copyInto memory position [] = memory := by
  simp [copyInto, copyTo]

/-- The two copies of a transfer stay inside the block. -/
theorem length_copyInto {memory input : List α} (position : Nat)
    (h : input.length ≤ memory.length) :
    (copyInto memory position input).length = memory.length := by
  cases memory with
  | nil =>
      obtain rfl : input = [] := List.length_eq_zero_iff.mp (Nat.le_zero.mp h)
      rw [copyInto_nil]
  | cons first rest =>
      have hlt := Nat.mod_lt position (show 0 < (first :: rest).length by simp)
      unfold copyInto
      dsimp only
      rw [length_copyTo, length_copyTo]
      · rw [List.length_take]
        omega
      · rw [length_copyTo]
        · rw [List.length_drop]
          omega
        · rw [List.length_take]
          omega

/-- A transfer, slot by slot. -/
theorem getElem?_copyInto {memory input : List α} (position : Nat)
    (hpos : 0 < memory.length) (h : input.length ≤ memory.length) (j : Nat) :
    (copyInto memory position input)[j]? =
      if j + memory.length < position % memory.length + input.length then
        input[j + memory.length - position % memory.length]?
      else if position % memory.length ≤ j ∧ j < position % memory.length + input.length ∧
          j < memory.length then input[j - position % memory.length]?
      else memory[j]? := by
  have hlt := Nat.mod_lt position hpos
  unfold copyInto
  dsimp only
  generalize position % memory.length = offset at hlt ⊢
  have htake : (input.take (min input.length (memory.length - offset))).length =
      min input.length (memory.length - offset) := by
    rw [List.length_take]
    omega
  have hdrop : (input.drop (min input.length (memory.length - offset))).length =
      input.length - min input.length (memory.length - offset) := List.length_drop
  have hfirst : (copyTo memory offset (input.take (min input.length
      (memory.length - offset)))).length = memory.length := length_copyTo (by omega)
  rw [getElem?_copyTo (by omega), getElem?_copyTo (by omega), htake, hdrop]
  by_cases hwrapped : j + memory.length < offset + input.length
  · rw [if_pos hwrapped, if_pos (by omega), List.getElem?_drop]
    congr 1
    omega
  · rw [if_neg hwrapped, if_neg (by omega)]
    by_cases hin : offset ≤ j ∧ j < offset + input.length ∧ j < memory.length
    · rw [if_pos hin, if_pos (by omega), List.getElem?_take_of_lt (by omega)]
    · rw [if_neg hin, if_neg (by omega)]

/-- A slot that is written holds its element. -/
theorem copyInto_written {memory input : List α} (position : Nat)
    (h : input.length ≤ memory.length) {k : Nat} (hk : k < input.length) :
    (copyInto memory position input)[(position + k) % memory.length]? = input[k]? := by
  have hlt : position % memory.length < memory.length := Nat.mod_lt _ (by omega)
  rw [getElem?_copyInto position (by omega) h]
  rcases Nat.lt_or_ge (position % memory.length + k) memory.length with hbefore | hafter
  · rw [slot_before hbefore, if_neg (by omega), if_pos (by omega), Nat.add_sub_cancel_left]
  · rw [slot_after (by omega) hafter, if_pos (by omega)]
    congr 1
    omega

/-- A slot that is not written keeps its element. -/
theorem copyInto_kept {memory input : List α} {position j : Nat}
    (h : input.length ≤ memory.length)
    (hfree : ∀ k, k < input.length → (position + k) % memory.length ≠ j) :
    (copyInto memory position input)[j]? = memory[j]? := by
  rcases Nat.eq_zero_or_pos memory.length with hzero | hpos
  · obtain rfl : input = [] := List.length_eq_zero_iff.mp (by omega)
    rw [copyInto_nil]
  rw [getElem?_copyInto position hpos h, if_neg, if_neg]
  · rintro ⟨hfrom, hto, hin⟩
    refine hfree (j - position % memory.length) (by omega) ?_
    rw [slot_before (by omega)]
    omega
  · intro hwrapped
    have hlt := Nat.mod_lt position hpos
    refine hfree (j + memory.length - position % memory.length) (by omega) ?_
    rw [slot_after (by omega) (by omega)]
    omega

/-! ## Queues in the memory -/

theorem Holds.nil (memory : List α) (position : Nat) : Holds memory position [] :=
  fun i hi => absurd hi (Nat.not_lt_zero i)

/-- **A transfer into the free slots** appends to what is held. -/
theorem Holds.copyInto {memory queue input : List α} {position : Nat}
    (h : Holds memory position queue) (hroom : queue.length + input.length ≤ memory.length) :
    Holds (Circular.copyInto memory (position + queue.length) input) position
      (queue ++ input) := by
  intro i hi
  rw [List.length_append] at hi
  rw [length_copyInto _ (by omega)]
  rcases Nat.lt_or_ge i queue.length with hold | hnew
  · rw [List.getElem?_append_left hold, ← h i hold]
    refine copyInto_kept (by omega) fun k hk => ?_
    rw [Nat.add_assoc]
    exact (slot_ne (by omega) (by omega)).symm
  · obtain ⟨k, rfl⟩ := Nat.exists_eq_add_of_le hnew
    rw [List.getElem?_append_right hnew, Nat.add_sub_cancel_left, ← Nat.add_assoc]
    exact copyInto_written _ (by omega) (by omega)

/-- **A transfer out** returns the oldest elements. -/
theorem Holds.copyOut {memory queue : List α} {position count : Nat}
    (h : Holds memory position queue) (hcount : count ≤ queue.length)
    (hroom : queue.length ≤ memory.length) :
    Circular.copyOut memory position count = queue.take count := by
  rcases Nat.eq_zero_or_pos memory.length with hzero | hpos
  · obtain rfl : queue = [] := List.length_eq_zero_iff.mp (by omega)
    obtain rfl : memory = [] := List.length_eq_zero_iff.mp hzero
    simp [Circular.copyOut]
  have hlt := Nat.mod_lt position hpos
  refine List.ext_getElem? fun i => ?_
  unfold Circular.copyOut
  dsimp only
  have hfirst : ((memory.drop (position % memory.length)).take
      (min count (memory.length - position % memory.length))).length =
      min count (memory.length - position % memory.length) := by
    rw [List.length_take, List.length_drop]
    omega
  rcases Nat.lt_or_ge i count with hin | hout
  · rw [List.getElem?_take_of_lt hin, ← h i (by omega)]
    rcases Nat.lt_or_ge (position % memory.length + i) memory.length with hbefore | hafter
    · rw [List.getElem?_append_left (by omega), List.getElem?_take_of_lt (by omega),
        List.getElem?_drop, slot_before hbefore]
    · rw [List.getElem?_append_right (by omega), hfirst, List.getElem?_take_of_lt (by omega),
        slot_after (by omega) hafter]
      congr 1
      omega
  · rw [List.getElem?_eq_none (by simp; omega), List.getElem?_eq_none (by simp; omega)]

/-- What is left after the oldest elements were read. -/
theorem Holds.drop {memory queue : List α} {position : Nat} (h : Holds memory position queue)
    (count : Nat) : Holds memory (position + count) (queue.drop count) := by
  intro i hi
  rw [List.length_drop] at hi
  rw [List.getElem?_drop, Nat.add_assoc]
  exact h (count + i) (by omega)

end Circular
