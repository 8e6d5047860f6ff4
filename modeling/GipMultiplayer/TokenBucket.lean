import Mathlib.Algebra.BigOperators.Group.List.Basic
import Mathlib.Algebra.Order.BigOperators.Group.List
import Mathlib.Algebra.Order.Field.Basic
import Mathlib.Data.Set.Defs
import Mathlib.Tactic.Linarith
import Mathlib.Tactic.Ring

/-!
# Token buckets

A bucket holds tokens up to a burst, gains them at a rate and loses what is
taken.  However the takings are spread, a window of time cannot hold more of
them than the burst and what the rate brings in during the window.

A single taking is bounded by what the bucket holds; the bound on a window
comes from what is carried from one taking to the next: what was taken since
the start of the window, together with what the bucket still holds.

The bound is reached.  What a bucket lacks to its burst has been taken since the
last time it was full, so a taking it does not cover would exceed the bound on
the window from then on.

* `taken` — what was taken in a closed window;
* `Bounded` — the bucket, its takings and the bounds;
* `Bounded.refill`, `Bounded.take` — what a refill and a taking keep;
* `Exact` — a window that accounts for all the bucket lacks;
* `covers_iff` — a taking is covered if and only if it exceeds no bound.
-/

namespace TokenBucket

variable {K : Type*} [Field K] [LinearOrder K]

/-- What was taken from `a` to `b`, both included; a taking is its time and its
amount. -/
def taken (log : List (K × K)) (a b : K) : K :=
  ((log.filter fun e => a ≤ e.1 ∧ e.1 ≤ b).map Prod.snd).sum

/-- **The bucket is within its bounds**: what it holds, what it carries from
any time on, and every window of its takings. -/
structure Bounded (burst rate now tokens : K) (log : List (K × K)) : Prop where
  nonneg : 0 ≤ tokens
  full : tokens ≤ burst
  past : ∀ e ∈ log, e.1 ≤ now
  carried : ∀ a, a ≤ now → taken log a now + tokens ≤ burst + rate * (now - a)
  window : ∀ a b, a ≤ b → taken log a b ≤ burst + rate * (b - a)

variable {burst rate now tokens : K} {log : List (K × K)}

@[simp] theorem taken_nil (a b : K) : taken ([] : List (K × K)) a b = 0 := rfl

/-- One more taking counts in the windows around it. -/
theorem taken_concat (log : List (K × K)) (time amount a b : K) :
    taken (log ++ [(time, amount)]) a b =
      taken log a b + if a ≤ time ∧ time ≤ b then amount else 0 := by
  unfold taken
  rw [List.filter_append, List.map_append, List.sum_append]
  congr 1
  by_cases h : a ≤ time ∧ time ≤ b
  · simp [h.1, h.2]
  · rw [if_neg h, List.filter_cons_of_neg (by simpa using h), List.filter_nil]
    rfl

/-- Nothing is taken after the last taking. -/
theorem taken_later (h : ∀ e ∈ log, e.1 ≤ now) {b : K} (hb : now ≤ b) (a : K) :
    taken log a b = taken log a now := by
  unfold taken
  congr 2
  refine List.filter_congr fun e he => ?_
  have hpast := h e he
  simp only [hpast, hpast.trans hb]

/-- No taking lies in a window that starts after the last one. -/
theorem taken_none (h : ∀ e ∈ log, e.1 ≤ now) {a : K} (ha : now < a) (b : K) :
    taken log a b = 0 := by
  unfold taken
  rw [List.filter_eq_nil_iff.mpr]
  · rfl
  · intro e he hin
    have hfrom : a ≤ e.1 := (of_decide_eq_true hin).1
    exact absurd (hfrom.trans (h e he)) (not_le.mpr ha)

namespace Bounded

variable [IsStrictOrderedRing K]

/-- A bucket from which nothing was taken. -/
theorem empty (hrate : 0 ≤ rate) (hnonneg : 0 ≤ tokens) (hfull : tokens ≤ burst) (now : K) :
    Bounded burst rate now tokens [] where
  nonneg := hnonneg
  full := hfull
  past e he := absurd he List.not_mem_nil
  carried a ha := by
    have hgain := mul_nonneg hrate (sub_nonneg.mpr ha)
    rw [taken_nil]
    linarith
  window a b hab := by
    have hgain := mul_nonneg hrate (sub_nonneg.mpr hab)
    rw [taken_nil]
    linarith

/-- **A refill** for the time since the last one. -/
theorem refill (h : Bounded burst rate now tokens log) (hrate : 0 ≤ rate) {later : K}
    (hlater : now ≤ later) :
    Bounded burst rate later (min burst (tokens + (later - now) * rate)) log where
  nonneg := by
    have hgain := mul_nonneg (sub_nonneg.mpr hlater) hrate
    have hnonneg := h.nonneg
    have hfull := h.full
    exact le_min (by linarith) (by linarith)
  full := min_le_left _ _
  past e he := (h.past e he).trans hlater
  carried a ha := by
    rcases le_or_gt a now with hbefore | hafter
    · -- what was carried so far, and what the rate brought since
      have hcarried := h.carried a hbefore
      have hmin := min_le_right burst (tokens + (later - now) * rate)
      have hsplit : rate * (later - a) = rate * (now - a) + (later - now) * rate := by ring
      rw [taken_later h.past hlater]
      linarith
    · have hgain := mul_nonneg hrate (sub_nonneg.mpr ha)
      have hmin := min_le_left burst (tokens + (later - now) * rate)
      rw [taken_none h.past hafter]
      linarith
  window := h.window

/-- **A taking** of what the bucket holds. -/
theorem take (h : Bounded burst rate now tokens log) (hrate : 0 ≤ rate) {amount : K}
    (hamount : 0 ≤ amount) (hholds : amount ≤ tokens) :
    Bounded burst rate now (tokens - amount) (log ++ [(now, amount)]) where
  nonneg := sub_nonneg.mpr hholds
  full := by
    have hfull := h.full
    linarith
  past := List.forall_mem_append.mpr ⟨h.past, List.forall_mem_singleton.mpr le_rfl⟩
  carried a ha := by
    have hcarried := h.carried a ha
    rw [taken_concat, if_pos ⟨ha, le_rfl⟩]
    linarith
  window a b hab := by
    rw [taken_concat]
    split_ifs with hin
    · -- up to now the window holds what is carried
      have hcarried := h.carried a hin.1
      have hgain := mul_nonneg hrate (sub_nonneg.mpr hin.2)
      have hsplit : rate * (b - a) = rate * (now - a) + rate * (b - now) := by ring
      rw [taken_later h.past hin.2]
      linarith
    · have hwindow := h.window a b hab
      linarith

end Bounded

/-! ## When the bound is reached -/

/-- **Nothing is lacking without a reason**: there is a time, one of `clocks`, since
when all that the bucket lacks has been taken. -/
def Exact (clocks : Set K) (burst rate now tokens : K) (log : List (K × K)) : Prop :=
  ∃ a ∈ clocks, a ≤ now ∧ burst + rate * (now - a) ≤ taken log a now + tokens

namespace Exact

variable [IsStrictOrderedRing K] {clocks : Set K}

/-- A full bucket lacks nothing. -/
theorem full (hnow : now ∈ clocks) (hfull : burst ≤ tokens) (hnone : 0 ≤ taken log now now) :
    Exact clocks burst rate now tokens log := by
  refine ⟨now, hnow, le_rfl, ?_⟩
  rw [sub_self, mul_zero]
  linarith

/-- **A refill** fills the bucket, or leaves the window it is accounted for. -/
theorem refill (h : Exact clocks burst rate now tokens log) (hpast : ∀ e ∈ log, e.1 ≤ now)
    (hfull : tokens ≤ burst) {later : K} (hclock : later ∈ clocks) (hlater : now ≤ later) :
    Exact clocks burst rate later (min burst (tokens + (later - now) * rate)) log := by
  rcases hlater.eq_or_lt with rfl | hafter
  · rw [sub_self, zero_mul, add_zero, min_eq_right hfull]
    exact h
  rcases le_total burst (tokens + (later - now) * rate) with hfilled | hlacks
  · rw [min_eq_left hfilled]
    exact full hclock le_rfl (taken_none hpast hafter later).ge
  · obtain ⟨a, ha, hbefore, hwindow⟩ := h
    refine ⟨a, ha, hbefore.trans hlater, ?_⟩
    have hsplit : rate * (later - a) = rate * (now - a) + (later - now) * rate := by ring
    rw [min_eq_right hlacks, taken_later hpast hlater]
    linarith

/-- **A taking** is in the window. -/
theorem take (h : Exact clocks burst rate now tokens log) (amount : K) :
    Exact clocks burst rate now (tokens - amount) (log ++ [(now, amount)]) := by
  obtain ⟨a, ha, hbefore, hwindow⟩ := h
  refine ⟨a, ha, hbefore, ?_⟩
  rw [taken_concat, if_pos ⟨hbefore, le_rfl⟩]
  linarith

end Exact

/-- **A taking is covered if and only if it exceeds no bound.** -/
theorem covers_iff [IsStrictOrderedRing K] {clocks : Set K}
    (hbounded : Bounded burst rate now tokens log)
    (hexact : Exact clocks burst rate now tokens log) (amount : K) :
    amount ≤ tokens ↔
      ∀ a ∈ clocks, a ≤ now → taken log a now + amount ≤ burst + rate * (now - a) := by
  constructor
  · intro hholds a _ ha
    have hcarried := hbounded.carried a ha
    linarith
  · intro hwindows
    obtain ⟨a, hclock, ha, hwindow⟩ := hexact
    have hbound := hwindows a hclock ha
    linarith

end TokenBucket
