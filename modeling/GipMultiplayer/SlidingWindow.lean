import Mathlib.Algebra.Order.Group.Unbundled.Basic
import Mathlib.Algebra.Order.Group.Defs
import Mathlib.Data.List.Basic

/-!
# A limiter over a sliding window

The limiter keeps the times of what it accepted, drops those older than its
window and refuses when it still has as many as its limit.  A time that is
exactly one window old is kept, so the window it bounds is closed at both ends.

* `request` — one request;
* `Limited` — what the limiter has accepted, and that no window holds more than
  the limit of it;
* `Limited.accept`, `Limited.refuse` — what one request keeps;
* `Recorded.of_refused` — what a refusal proves.
-/

namespace SlidingWindow

variable {K : Type*} [AddCommGroup K] [LinearOrder K]

/-- The times that are at most one window old. -/
def fresh (w now : K) (stamps : List K) : List K :=
  stamps.filter fun t => ¬ w < now - t

/-- One request: the times kept, and whether it is accepted. -/
def request (limit : Nat) (w now : K) (stamps : List K) : List K × Bool :=
  if limit ≤ (fresh w now stamps).length then (fresh w now stamps, false)
  else (fresh w now stamps ++ [now], true)

/-- The times of a closed window. -/
def inside (log : List K) (a b : K) : List K :=
  log.filter fun t => a ≤ t ∧ t ≤ b

/-- How many requests the limiter would still accept. -/
def allowance (limit : Nat) (w now : K) (stamps : List K) : Nat :=
  limit - (fresh w now stamps).length

/-- **No window holds more than the limit**, and everything accepted within the
last window is kept. -/
structure Limited (limit : Nat) (w now : K) (stamps log : List K) : Prop where
  past : ∀ t ∈ log, t ≤ now
  kept : (fresh w now log).Sublist stamps
  window : ∀ a, (inside log a (a + w)).length ≤ limit

/-- Everything kept was accepted. -/
structure Recorded (now : K) (stamps log : List K) : Prop where
  past : ∀ t ∈ log, t ≤ now
  accepted : stamps.Sublist log

variable {limit : Nat} {w now : K} {stamps log : List K}

theorem request_snd : (request limit w now stamps).2 = true ↔ (fresh w now stamps).length < limit := by
  unfold request
  by_cases hfull : limit ≤ (fresh w now stamps).length
  · rw [if_pos hfull]
    exact iff_of_false Bool.false_ne_true (not_lt.mpr hfull)
  · rw [if_neg hfull]
    exact iff_of_true rfl (not_le.mp hfull)

theorem request_fst : (request limit w now stamps).1 =
    fresh w now stamps ++ if (request limit w now stamps).2 = true then [now] else [] := by
  unfold request
  by_cases hfull : limit ≤ (fresh w now stamps).length
  · rw [if_pos hfull, if_neg Bool.false_ne_true]
    exact (List.append_nil _).symm
  · rw [if_neg hfull, if_pos rfl]

theorem fresh_append (left right : List K) :
    fresh w now (left ++ right) = fresh w now left ++ fresh w now right :=
  List.filter_append ..

theorem fresh_sublist (stamps : List K) : (fresh w now stamps).Sublist stamps :=
  List.filter_sublist

theorem fresh_mono {left right : List K} (h : left.Sublist right) :
    (fresh w now left).Sublist (fresh w now right) :=
  h.filter _

/-- Nothing has been accepted yet. -/
theorem Limited.empty (limit : Nat) (w now : K) (stamps : List K) :
    Limited limit w now stamps [] where
  past _ ht := absurd ht List.not_mem_nil
  kept := List.nil_sublist _
  window _ := Nat.zero_le _

omit [AddCommGroup K] in
/-- What was accepted lies in the past. -/
theorem Recorded.later (h : Recorded now stamps log) {later : K} (hlater : now ≤ later) :
    Recorded later stamps log :=
  ⟨fun t ht => (h.past t ht).trans hlater, h.accepted⟩

/-- **One request.** -/
theorem Recorded.request (h : Recorded now stamps log) :
    Recorded now (SlidingWindow.request limit w now stamps).1
      (log ++ if (SlidingWindow.request limit w now stamps).2 = true then [now] else []) := by
  rw [request_fst]
  have hfresh : (fresh w now stamps).Sublist log := (fresh_sublist stamps).trans h.accepted
  split_ifs
  · exact ⟨List.forall_mem_append.mpr ⟨h.past, List.forall_mem_singleton.mpr le_rfl⟩,
      hfresh.append_right [now]⟩
  · rw [List.append_nil, List.append_nil]
    exact ⟨h.past, hfresh⟩

variable [IsOrderedAddMonoid K]

/-- What is dropped stays dropped. -/
theorem fresh_fresh {later : K} (hlater : now ≤ later) (stamps : List K) :
    fresh w later (fresh w now stamps) = fresh w later stamps := by
  unfold fresh
  rw [List.filter_filter]
  refine List.filter_congr fun t _ => ?_
  have hkeeps : later - t ≤ w → now - t ≤ w := fun hw => (sub_le_sub_right hlater t).trans hw
  by_cases hw : later - t ≤ w
  · simp [hw, hkeeps hw]
  · simp [not_le.mp hw]

/-- A later limiter keeps less. -/
theorem fresh_later {later : K} (hlater : now ≤ later) (stamps : List K) :
    (fresh w later stamps).Sublist (fresh w now stamps) := by
  rw [← fresh_fresh hlater]
  exact fresh_sublist _

/-- Of what lies in the past, a limiter keeps the window that ends now. -/
theorem fresh_eq_inside (h : ∀ t ∈ log, t ≤ now) : fresh w now log = inside log (now - w) now := by
  refine List.filter_congr fun t ht => ?_
  have hiff : now - t ≤ w ↔ now - w ≤ t := sub_le_comm
  simp only [not_lt, hiff, h t ht, and_true]

/-- A window around now holds nothing older than a window. -/
theorem inside_sublist_fresh {a : K} (h : now ≤ a + w) :
    (inside log a (a + w)).Sublist (fresh w now log) := by
  refine List.monotone_filter_right log fun t ht => ?_
  have hfrom : a ≤ t := (of_decide_eq_true ht).1
  refine decide_eq_true (not_lt.mpr (sub_le_iff_le_add'.mpr (h.trans ?_)))
  exact add_le_add_left hfrom w

namespace Limited

/-- Time passes. -/
theorem later (h : Limited limit w now stamps log) {later : K} (hlater : now ≤ later) :
    Limited limit w later stamps log where
  past t ht := (h.past t ht).trans hlater
  kept := (fresh_later hlater log).trans h.kept
  window := h.window

/-- What was accepted within the last window is still fresh. -/
theorem kept_fresh (h : Limited limit w now stamps log) :
    (fresh w now log).Sublist (fresh w now stamps) := by
  have hfresh : (fresh w now (fresh w now log)).Sublist (fresh w now stamps) :=
    fresh_mono h.kept
  rwa [fresh_fresh le_rfl] at hfresh

/-- **A refusal** drops what is old. -/
theorem refuse (h : Limited limit w now stamps log) :
    Limited limit w now (fresh w now stamps) log where
  past := h.past
  kept := h.kept_fresh
  window := h.window

/-- **An acceptance**: no window around now is full yet. -/
theorem accept (h : Limited limit w now stamps log)
    (hroom : (fresh w now stamps).length < limit) :
    Limited limit w now (fresh w now stamps ++ [now]) (log ++ [now]) where
  past := List.forall_mem_append.mpr ⟨h.past, List.forall_mem_singleton.mpr le_rfl⟩
  kept := by
    rw [fresh_append]
    exact h.kept_fresh.append (fresh_sublist [now])
  window a := by
    unfold inside
    rw [List.filter_append, List.length_append]
    by_cases hin : a ≤ now ∧ now ≤ a + w
    · have hinside : (inside log a (a + w)).length ≤ (fresh w now log).length :=
        (inside_sublist_fresh hin.2).length_le
      have hkept := h.kept_fresh.length_le
      have hone : ([now].filter fun t => a ≤ t ∧ t ≤ a + w).length ≤ 1 :=
        List.length_filter_le ..
      unfold inside at hinside
      omega
    · rw [List.filter_cons_of_neg (by simpa using hin), List.filter_nil, List.length_nil,
        Nat.add_zero]
      exact h.window a

/-- **One request.** -/
theorem request (h : Limited limit w now stamps log) :
    Limited limit w now (SlidingWindow.request limit w now stamps).1
      (log ++ if (SlidingWindow.request limit w now stamps).2 = true then [now] else []) := by
  rw [request_fst]
  split_ifs with haccepted
  · exact h.accept (request_snd.mp haccepted)
  · rw [List.append_nil, List.append_nil]
    exact h.refuse

end Limited

/-- **A refusal** proves that the last window is full. -/
theorem Recorded.of_refused (h : Recorded now stamps log)
    (hrefused : (SlidingWindow.request limit w now stamps).2 = false) :
    limit ≤ (inside log (now - w) now).length := by
  have hfull : limit ≤ (fresh w now stamps).length := by
    by_contra hroom
    rw [request_snd.mpr (not_le.mp hroom)] at hrefused
    cases hrefused
  rw [← fresh_eq_inside h.past]
  exact hfull.trans (fresh_mono h.accepted).length_le

/-- A refusal changes no allowance. -/
theorem allowance_refused {later : K} (hlater : now ≤ later)
    (hrefused : (request limit w now stamps).2 = false) :
    allowance limit w later (request limit w now stamps).1 = allowance limit w later stamps := by
  rw [request_fst, hrefused, if_neg Bool.false_ne_true, List.append_nil, allowance,
    fresh_fresh hlater, allowance]

end SlidingWindow
