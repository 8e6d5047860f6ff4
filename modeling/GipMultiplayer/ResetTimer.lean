import Mathlib.Algebra.BigOperators.Group.List.Basic
import Mathlib.Algebra.Order.Group.Defs

/-!
# Timers that interruptions reset

A timer adds up what time passes and fires when it is past a limit; firing
sets it back to zero, and so does an interruption.  Whether it fires during a
trace can be told from the trace: time that passes without interruption has to
add up to more than the limit.

* `step`, `Fires` — the timer;
* `Charged` — the condition on the trace;
* `fires_iff_charged` — the timer fires exactly under the condition.
-/

namespace ResetTimer

variable {K : Type*} [AddCommGroup K] [LinearOrder K]

/-- One tick: the timer after it, and whether it fired.  `none` is an
interruption. -/
def step (limit timer : K) : Option K → K × Bool
  | none => (0, false)
  | some time => if limit < timer + time then (0, true) else (timer + time, false)

/-- The timer fires at some tick. -/
def Fires (limit : K) : K → List (Option K) → Prop
  | _, [] => False
  | timer, tick :: ticks =>
      (step limit timer tick).2 = true ∨ Fires limit (step limit timer tick).1 ticks

/-- Time passes without interruption for longer than the limit; at the start of
the trace what the timer shows already counts. -/
def Charged (limit timer : K) (ticks : List (Option K)) : Prop :=
  ∃ (before : List (Option K)) (block : List K) (after : List (Option K)),
    ticks = before ++ block.map some ++ after ∧
      (limit < block.sum ∨ before = [] ∧ limit < timer + block.sum)

/-- A timer that has not fired. -/
structure Valid (limit timer : K) : Prop where
  nonneg : 0 ≤ timer
  le_limit : timer ≤ limit

variable {limit timer : K} {ticks : List (Option K)}

theorem Valid.zero (h : 0 ≤ limit) : Valid limit (0 : K) := ⟨le_rfl, h⟩

theorem step_of_lt {time : K} (h : limit < timer + time) :
    step limit timer (some time) = (0, true) := if_pos h

theorem step_of_le {time : K} (h : timer + time ≤ limit) :
    step limit timer (some time) = (timer + time, false) := if_neg h.not_gt

theorem not_charged_nil (h : Valid limit timer) : ¬ Charged limit timer [] := by
  rintro ⟨before, block, after, heq, hsum⟩
  obtain ⟨hbefore, -⟩ := List.append_eq_nil_iff.mp heq.symm
  obtain ⟨-, hblock⟩ := List.append_eq_nil_iff.mp hbefore
  obtain rfl := List.map_eq_nil_iff.mp hblock
  rw [List.sum_nil, add_zero] at hsum
  rcases hsum with hsum | ⟨-, hsum⟩
  · exact hsum.not_ge (h.nonneg.trans h.le_limit)
  · exact hsum.not_ge h.le_limit

/-- What is charged after a tick is charged. -/
theorem Charged.cons_of_lt {tick : Option K} {before after : List (Option K)} {block : List K}
    (hsum : limit < block.sum) :
    Charged limit timer (tick :: (before ++ block.map some ++ after)) :=
  ⟨tick :: before, block, after, rfl, .inl hsum⟩

variable [IsOrderedAddMonoid K]

/-- Where the time of a charged trace lies: behind its first tick, or from that
tick on. -/
theorem Charged.cases_cons (h : Valid limit timer) {tick : Option K}
    (hcharged : Charged limit timer (tick :: ticks)) :
    (∃ (before : List (Option K)) (block : List K) (after : List (Option K)),
        ticks = before ++ block.map some ++ after ∧ limit < block.sum) ∨
      ∃ (time : K) (block : List K) (after : List (Option K)),
        tick = some time ∧ ticks = block.map some ++ after ∧
          limit < timer + time + block.sum := by
  obtain ⟨before, block, after, heq, hsum⟩ := hcharged
  cases before with
  | nil =>
      cases block with
      | nil => exact absurd ⟨[], [], [], rfl, by simpa using hsum⟩ (not_charged_nil h)
      | cons time block =>
          cases heq
          refine .inr ⟨time, block, after, rfl, rfl, ?_⟩
          rw [List.sum_cons, ← add_assoc] at hsum
          rcases hsum with hsum | ⟨-, hsum⟩
          · -- What the timer shows only adds to a block that is long enough by itself.
            rw [add_assoc]
            exact hsum.trans_le (le_add_of_nonneg_left h.nonneg)
          · exact hsum
  | cons first before =>
      cases heq
      refine .inl ⟨before, block, after, rfl, ?_⟩
      simpa using hsum

/-- An interruption starts over. -/
theorem charged_interruption (h : Valid limit timer) :
    Charged limit timer (none :: ticks) ↔ Charged limit 0 ticks := by
  constructor
  · intro hcharged
    rcases hcharged.cases_cons h with ⟨before, block, after, heq, hsum⟩ | ⟨_, _, _, htick, -⟩
    · exact ⟨before, block, after, heq, .inl hsum⟩
    · cases htick
  · rintro ⟨before, block, after, rfl, hsum⟩
    apply Charged.cons_of_lt
    rcases hsum with hsum | ⟨-, hsum⟩
    · exact hsum
    · rwa [zero_add] at hsum

/-- A tick leaves a timer that has not fired. -/
theorem Valid.step (h : Valid limit timer) {tick : Option K} (htick : ∀ time ∈ tick, 0 ≤ time) :
    Valid limit (step limit timer tick).1 := by
  have hzero := Valid.zero (h.nonneg.trans h.le_limit)
  cases tick with
  | none => exact hzero
  | some time =>
      rcases lt_or_ge limit (timer + time) with hlate | hearly
      · rw [step_of_lt hlate]
        exact hzero
      · rw [step_of_le hearly]
        exact ⟨add_nonneg h.nonneg (htick time rfl), hearly⟩

/-- Time that does not make the timer fire is added to it. -/
theorem charged_time (h : Valid limit timer) {time : K} :
    Charged limit timer (some time :: ticks) ↔ Charged limit (timer + time) ticks ∨
      limit < timer + time := by
  constructor
  · intro hcharged
    rcases hcharged.cases_cons h with
      ⟨before, block, after, heq, hsum⟩ | ⟨_, block, after, htick, heq, hsum⟩
    · exact .inl ⟨before, block, after, heq, .inl hsum⟩
    · obtain rfl := Option.some.inj htick
      exact .inl ⟨[], block, after, heq, .inr ⟨rfl, hsum⟩⟩
  · rintro (⟨before, block, after, rfl, hsum⟩ | hnow)
    · rcases hsum with hsum | ⟨rfl, hsum⟩
      · exact Charged.cons_of_lt hsum
      · refine ⟨[], time :: block, after, rfl, .inr ⟨rfl, ?_⟩⟩
        rwa [List.sum_cons, ← add_assoc]
    · refine ⟨[], [time], ticks, rfl, .inr ⟨rfl, ?_⟩⟩
      rwa [List.sum_singleton]

/-- **A timer fires exactly when time adds up** without interruption. -/
theorem fires_iff_charged (h : Valid limit timer)
    (hticks : ∀ tick ∈ ticks, ∀ time ∈ tick, 0 ≤ time) :
    Fires limit timer ticks ↔ Charged limit timer ticks := by
  induction ticks generalizing timer with
  | nil => exact iff_of_false id (not_charged_nil h)
  | cons tick ticks ih =>
      have hrest := ih (h.step (hticks tick List.mem_cons_self))
        fun tick htick => hticks tick (List.mem_cons_of_mem _ htick)
      rw [Fires, hrest]
      cases tick with
      | none =>
          rw [charged_interruption h]
          simp [step]
      | some time =>
          rw [charged_time h]
          rcases lt_or_ge limit (timer + time) with hlate | hearly
          · rw [step_of_lt hlate]
            simp [hlate]
          · rw [step_of_le hearly]
            simp [hearly.not_gt]

end ResetTimer
