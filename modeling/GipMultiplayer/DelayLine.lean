import GipMultiplayer.Circular
import Mathlib.Data.Vector.Basic

/-!
# Delay lines

A block of memory of which one slot after the other is read and overwritten.
The slot that is about to be overwritten holds the oldest element, so what is
read is what was put in one whole block earlier.

* `Line` — the memory and the slot that comes next;
* `Keeps` — what lies in the slots, the oldest element first;
* `Keeps.oldest`, `Keeps.push` — one element;
* `Keeps.through` — any number of them.
-/

namespace DelayLine

variable {α : Type*} {size : Nat}

/-- The memory and the slot that is read and overwritten next. -/
structure Line (α : Type*) (size : Nat) where
  memory : Vector α size
  slot : Fin size

/-- The slot after a slot; after the last one comes the first. -/
def next (slot : Fin size) : Fin size :=
  if h : slot.val + 1 = size then ⟨0, slot.pos⟩ else ⟨slot.val + 1, by omega⟩

/-- What is read next. -/
def Line.oldest (line : Line α size) : α := line.memory[line.slot]

/-- An element is put in. -/
def Line.push (line : Line α size) (x : α) : Line α size where
  memory := line.memory.set line.slot x
  slot := next line.slot

/-- Elements go through one at a time: the line after them, and what was read. -/
def Line.through (line : Line α size) : List α → Line α size × List α
  | [] => (line, [])
  | x :: xs => (((line.push x).through xs).1, line.oldest :: ((line.push x).through xs).2)

/-- The slots hold `queue`, the oldest element first. -/
structure Keeps (line : Line α size) (queue : List α) : Prop where
  full : queue.length = size
  holds : Circular.Holds line.memory.toList line.slot queue

variable {line : Line α size} {queue : List α} {x y : α}

/-- Slots are counted modulo the size. -/
theorem next_mod (slot : Fin size) : (next slot).val % size = (slot.val + 1) % size := by
  unfold next
  split_ifs with hlast
  · rw [hlast, Nat.zero_mod, Nat.mod_self]
  · rfl

/-- A line that is filled with one element. -/
theorem keeps_replicate (x : α) (slot : Fin size) :
    Keeps ⟨Vector.replicate size x, slot⟩ (List.replicate size x) where
  full := List.length_replicate
  holds := by
    intro i hi
    rw [List.length_replicate] at hi
    have hslot : (slot.val + i) % size < size := Nat.mod_lt _ slot.pos
    simp [hi, hslot]

namespace Keeps

/-- **What is read is the oldest element.** -/
theorem oldest (h : Keeps line (y :: queue)) : line.oldest = y := by
  have hhead := h.holds 0 (by simp)
  have hslot : (line.slot.val + 0) % line.memory.toList.length = line.slot.val := by
    rw [Vector.length_toList]
    exact Nat.mod_eq_of_lt line.slot.isLt
  rw [hslot] at hhead
  simpa [Line.oldest] using hhead

/-- **What is put in is the youngest element.** -/
theorem push (h : Keeps line (y :: queue)) (x : α) : Keeps (line.push x) (queue ++ [x]) := by
  have hfull := h.full
  rw [List.length_cons] at hfull
  constructor
  · rw [List.length_append, List.length_singleton, hfull]
  intro i hi
  rw [List.length_append, List.length_singleton, hfull] at hi
  have hslot : ((line.push x).slot.val + i) % size = (line.slot.val + (i + 1)) % size := by
    rw [← Nat.mod_add_mod, Line.push, next_mod, Nat.mod_add_mod, Nat.add_assoc, Nat.add_comm 1]
  have hself : (line.slot.val + 0) % size = line.slot.val := Nat.mod_eq_of_lt line.slot.isLt
  have hmemory : (line.push x).memory.toList = line.memory.toList.set line.slot x :=
    Vector.toList_set line.slot.isLt
  rw [Vector.length_toList, hslot, hmemory]
  rcases Nat.lt_or_ge (i + 1) size with hold | hnew
  · -- The other slots keep what they hold, one place further on.
    have hkept := h.holds (i + 1) (by rw [h.full]; exact hold)
    rw [Vector.length_toList, List.getElem?_cons_succ] at hkept
    have hother : (line.slot.val + 0) % size ≠ (line.slot.val + (i + 1)) % size :=
      Circular.slot_ne (Nat.succ_pos i) hold
    rw [hself] at hother
    rw [List.getElem?_set_ne hother, hkept, List.getElem?_append_left (by omega)]
  · -- The youngest element lies in the slot that was read.
    have hi' : i = queue.length := by omega
    have hround : (line.slot.val + (i + 1)) % size = line.slot.val := by
      rw [hi', hfull, Nat.add_mod_right]
      exact hself
    rw [hround, List.getElem?_set_self (by rw [Vector.length_toList]; exact line.slot.isLt), hi',
      List.getElem?_concat_length]

/-- **A line is a delay** by its size: what is read is what the slots held, and
then what was put in. -/
theorem through (h : Keeps line queue) (xs : List α) :
    (line.through xs).2 = (queue ++ xs).take xs.length ∧
      Keeps (line.through xs).1 ((queue ++ xs).drop xs.length) := by
  induction xs generalizing line queue with
  | nil =>
      refine ⟨rfl, ?_⟩
      rw [List.append_nil]
      exact h
  | cons x xs ih =>
      cases queue with
      | nil =>
          have hpos := line.slot.pos
          have hfull : 0 = size := h.full
          omega
      | cons y queue =>
          obtain ⟨hread, hkeeps⟩ := ih (h.push x)
          rw [List.append_assoc, List.singleton_append] at hread hkeeps
          constructor
          · rw [Line.through, h.oldest, hread, List.length_cons, List.cons_append,
              List.take_succ_cons]
          · exact hkeeps

end Keeps

end DelayLine
