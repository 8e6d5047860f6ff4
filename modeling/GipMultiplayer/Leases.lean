import Mathlib.Algebra.Order.Field.Basic
import Mathlib.Data.List.Chain
import Mathlib.Tactic.Linarith

/-!
# Leases over a wire

A holder renews its lease whenever its timer has come to a period.  Renewals are
under way for a while and arrive in order.  The keeper counts the time since one
arrived.  Neither end watches the clock: each looks at it in ticks of its own,
and what it adds is the time since its last tick.  So the keeper counts too
much, by what of its tick had passed when the renewal arrived.

When all are on time, what the keeper counts stays below a sum of four terms,
and so does the age of what it was last told.

* `Timing`, `State.Prompt`, `State.OnTime` — how late each of them may be;
* `Renewed` — the holder and the wire, whatever the keeper does;
* `Renewed.heard_recent` — what the keeper was last told is recent;
* `Inv`, `Inv.age_le` — a keeper that ticks in time does not count far.
-/

namespace Lease

variable {K : Type*} [Field K] [LinearOrder K]

/-- The period of the holder's timer, and how late each may be: the ticks of the
holder, a renewal under way, the ticks of the keeper. -/
structure Timing (K : Type*) [Field K] [LinearOrder K] where
  period : K
  frame : K
  delay : K
  tick : K
  period_pos : 0 < period
  delay_nonneg : 0 ≤ delay

/-- Both ends and the wire.  `underway` has the times at which the renewals under
way were sent.  Written down for the law: when the last renewal was sent, and
when the last one that has arrived was. -/
structure State (K : Type*) where
  now : K
  ticked : K
  timer : K
  underway : List K
  looked : K
  age : K
  sent : K
  heard : K

/-- A renewal is sent. -/
def State.renew (s : State K) : State K :=
  { s with underway := s.underway ++ [s.now], sent := s.now }

/-- **The holder and the wire are on time.** -/
structure State.Prompt (timing : Timing K) (s : State K) : Prop where
  holder : s.now ≤ s.ticked + timing.frame
  wire : ∀ sent ∈ s.underway, s.now ≤ sent + timing.delay

/-- **Everyone is on time.** -/
structure State.OnTime (timing : Timing K) (s : State K) : Prop extends s.Prompt timing where
  keeper : s.now ≤ s.looked + timing.tick

/-- What holds of the holder and the wire while they are on time: the timer is
not behind, and renewals follow each other in time. -/
structure Renewed (timing : Timing K) (s : State K) : Prop where
  prompt : s.Prompt timing
  ticked_le : s.ticked ≤ s.now
  timer_nonneg : 0 ≤ s.timer
  timer_lt : s.timer < timing.period
  since : s.ticked ≤ s.sent + s.timer
  renewed : List.IsChain (fun first next => next ≤ first + (timing.period + timing.frame))
    (s.heard :: s.underway)
  last : (s.heard :: s.underway).getLast (List.cons_ne_nil _ _) = s.sent
  past : ∀ sent ∈ s.heard :: s.underway, sent ≤ s.now

/-- What holds with a keeper that is on time: it counts from the last renewal that
arrived. -/
structure Inv (timing : Timing K) (s : State K) : Prop extends Renewed timing s where
  keeper : s.now ≤ s.looked + timing.tick
  looked_le : s.looked ≤ s.now
  counted : s.age + s.heard ≤ s.looked + timing.tick

variable [IsStrictOrderedRing K] {timing : Timing K} {s : State K}

/-! ## The bounds -/

/-- The next renewal does not come later than a period and a frame. -/
theorem Renewed.now_le_sent (h : Renewed timing s) :
    s.now ≤ s.sent + (timing.period + timing.frame) := by
  have hholder := h.prompt.holder
  have hsince := h.since
  have htimer := h.timer_lt
  linarith

/-- **What the keeper was last told is recent.** -/
theorem Renewed.heard_recent (h : Renewed timing s) :
    s.now ≤ s.heard + (timing.period + timing.frame + timing.delay) := by
  have hsent := h.now_le_sent
  have hdelay := timing.delay_nonneg
  have hlast := h.last
  have hrenewed := h.renewed
  cases hwire : s.underway with
  | nil =>
      simp only [hwire, List.getLast_singleton] at hlast
      linarith
  | cons first rest =>
      rw [hwire, List.isChain_cons_cons] at hrenewed
      have hfirst := h.prompt.wire first (by rw [hwire]; exact List.mem_cons_self)
      linarith [hrenewed.1]

/-- **What the keeper counts**, with the time since it last looked. -/
theorem Inv.age_le (h : Inv timing s) :
    s.age + (s.now - s.looked) ≤ timing.period + timing.frame + timing.delay + timing.tick := by
  have hrecent := h.heard_recent
  have hcounted := h.counted
  linarith

/-! ## The holder and the wire -/

/-- One more renewal. -/
theorem Renewed.renew (h : Renewed timing s) : Renewed timing s.renew where
  prompt := by
    refine ⟨h.prompt.holder, fun sent hsent => ?_⟩
    rcases List.mem_append.mp hsent with hsent | hsent
    · exact h.prompt.wire sent hsent
    · rw [List.mem_singleton.mp hsent]
      exact le_add_of_nonneg_right timing.delay_nonneg
  ticked_le := h.ticked_le
  timer_nonneg := h.timer_nonneg
  timer_lt := h.timer_lt
  since := h.ticked_le.trans (le_add_of_nonneg_right h.timer_nonneg)
  renewed := by
    have hnext := h.now_le_sent
    rw [← h.last] at hnext
    show List.IsChain _ ((s.heard :: s.underway) ++ [s.now])
    rw [List.isChain_append]
    refine ⟨h.renewed, List.isChain_singleton _, fun last hlast next hhead => ?_⟩
    rw [List.getLast?_eq_some_getLast (List.cons_ne_nil _ _), Option.mem_some_iff] at hlast
    obtain rfl := Option.mem_some_iff.mp hhead
    exact hlast ▸ hnext
  last := by
    show ((s.heard :: s.underway) ++ [s.now]).getLast _ = s.now
    exact List.getLast_append_singleton _
  past := by
    show ∀ sent ∈ (s.heard :: s.underway) ++ [s.now], sent ≤ s.now
    intro sent hsent
    rcases List.mem_append.mp hsent with hsent | hsent
    · exact h.past sent hsent
    · exact (List.mem_singleton.mp hsent).le

/-- The holder has ticked. -/
theorem Renewed.tick (h : Renewed timing s) {timer : K} (hnonneg : 0 ≤ timer)
    (hlt : timer < timing.period) (hsince : s.now ≤ s.sent + timer) :
    Renewed timing { s with timer := timer, ticked := s.now } where
  prompt := by
    have hframe := h.prompt.holder
    have hticked := h.ticked_le
    exact ⟨by dsimp only; linarith, h.prompt.wire⟩
  ticked_le := le_rfl
  timer_nonneg := hnonneg
  timer_lt := hlt
  since := hsince
  renewed := h.renewed
  last := h.last
  past := h.past

/-- The holder's timer has come to the period. -/
theorem Renewed.fire (h : Renewed timing s) :
    Renewed timing { s.renew with timer := 0, ticked := s.now } :=
  h.renew.tick le_rfl timing.period_pos (by rw [add_zero]; exact le_rfl)

/-- The holder's timer has not come to the period. -/
theorem Renewed.wait (h : Renewed timing s)
    (hwaits : s.timer + (s.now - s.ticked) < timing.period) :
    Renewed timing { s with timer := s.timer + (s.now - s.ticked), ticked := s.now } := by
  have hticked := h.ticked_le
  have hsince := h.since
  have hnonneg := h.timer_nonneg
  exact h.tick (by linarith) hwaits (by linarith)

omit [IsStrictOrderedRing K] in
/-- A renewal arrives. -/
theorem Renewed.arrive (h : Renewed timing s) {sent : K} {rest : List K}
    (hwire : s.underway = sent :: rest) :
    Renewed timing { s with underway := rest, heard := sent } := by
  have hrenewed := h.renewed
  have hlast := h.last
  have hpast := h.past
  have hprompt := h.prompt.wire
  simp only [hwire] at hrenewed hlast hpast hprompt
  refine ⟨⟨h.prompt.holder, fun sent hsent => ?_⟩, h.ticked_le, h.timer_nonneg, h.timer_lt,
    h.since, hrenewed.tail, ?_, ?_⟩
  · exact hprompt sent (List.mem_cons_of_mem _ hsent)
  · rw [← hlast]
    exact (List.getLast_cons (List.cons_ne_nil _ _)).symm
  · exact fun sent hsent => hpast sent (List.mem_cons_of_mem _ hsent)

/-- Time passes, and the holder and the wire are still on time. -/
theorem Renewed.pass (h : Renewed timing s) {time : K} (htime : 0 ≤ time)
    (hprompt : State.Prompt timing { s with now := s.now + time }) :
    Renewed timing { s with now := s.now + time } where
  prompt := hprompt
  ticked_le := h.ticked_le.trans (le_add_of_nonneg_right htime)
  timer_nonneg := h.timer_nonneg
  timer_lt := h.timer_lt
  since := h.since
  renewed := h.renewed
  last := h.last
  past := fun sent hsent => (h.past sent hsent).trans (le_add_of_nonneg_right htime)

omit [IsStrictOrderedRing K] in
/-- The keeper is its own business. -/
theorem Renewed.setKeeper (h : Renewed timing s) (looked age : K) :
    Renewed timing { s with looked := looked, age := age } :=
  { h with prompt := ⟨h.prompt.holder, h.prompt.wire⟩ }

/-- The lease has been taken: the first renewal is under way. -/
theorem Renewed.start {now ticked timer looked age : K} (hticked : ticked ≤ now)
    (hnonneg : 0 ≤ timer) (hlt : timer < timing.period) (hframe : now ≤ ticked + timing.frame) :
    Renewed timing ⟨now, ticked, timer, [now], looked, age, now, now⟩ where
  prompt := by
    refine ⟨hframe, fun sent hsent => ?_⟩
    rw [List.mem_singleton.mp hsent]
    exact le_add_of_nonneg_right timing.delay_nonneg
  ticked_le := hticked
  timer_nonneg := hnonneg
  timer_lt := hlt
  since := hticked.trans (le_add_of_nonneg_right hnonneg)
  renewed := by
    have hperiod := timing.period_pos
    refine List.isChain_cons_cons.mpr ⟨?_, List.isChain_singleton _⟩
    dsimp only
    linarith
  last := rfl
  past := by
    intro sent hsent
    simp only [List.mem_cons, List.not_mem_nil, or_false, or_self] at hsent
    exact hsent.le

/-! ## The keeper -/

theorem Inv.renew (h : Inv timing s) : Inv timing s.renew :=
  { h.toRenewed.renew with keeper := h.keeper, looked_le := h.looked_le, counted := h.counted }

theorem Inv.fire (h : Inv timing s) : Inv timing { s.renew with timer := 0, ticked := s.now } :=
  { h.toRenewed.fire with keeper := h.keeper, looked_le := h.looked_le, counted := h.counted }

theorem Inv.wait (h : Inv timing s) (hwaits : s.timer + (s.now - s.ticked) < timing.period) :
    Inv timing { s with timer := s.timer + (s.now - s.ticked), ticked := s.now } :=
  { h.toRenewed.wait hwaits with
    keeper := h.keeper
    looked_le := h.looked_le
    counted := h.counted }

/-- A renewal is heard. -/
theorem Inv.arrive (h : Inv timing s) {sent : K} {rest : List K}
    (hwire : s.underway = sent :: rest) :
    Inv timing { s with underway := rest, heard := sent, age := 0 } := by
  have hsent := h.past sent (hwire ▸ List.mem_cons_of_mem _ List.mem_cons_self)
  have hkeeper := h.keeper
  exact
    { (h.toRenewed.arrive hwire).setKeeper s.looked 0 with
      keeper := hkeeper
      looked_le := h.looked_le
      counted := by
        dsimp only
        linarith }

/-- Something that counts for a renewal. -/
theorem Inv.touch (h : Inv timing s) : Inv timing { s with age := 0 } := by
  have hheard := h.past s.heard List.mem_cons_self
  have hkeeper := h.keeper
  exact
    { h.toRenewed.setKeeper s.looked 0 with
      keeper := hkeeper
      looked_le := h.looked_le
      counted := by
        dsimp only
        linarith }

/-- A tick of the keeper. -/
theorem Inv.look (h : Inv timing s) :
    Inv timing { s with age := s.age + (s.now - s.looked), looked := s.now } := by
  have hlooked := h.looked_le
  have hkeeper := h.keeper
  have hcounted := h.counted
  exact
    { h.toRenewed.setKeeper s.now (s.age + (s.now - s.looked)) with
      keeper := by
        dsimp only
        linarith
      looked_le := le_rfl
      counted := by
        dsimp only
        linarith }

/-- Time passes, and everyone is still on time. -/
theorem Inv.pass (h : Inv timing s) {time : K} (htime : 0 ≤ time)
    (hontime : State.OnTime timing { s with now := s.now + time }) :
    Inv timing { s with now := s.now + time } :=
  { h.toRenewed.pass htime hontime.toPrompt with
    keeper := hontime.keeper
    looked_le := h.looked_le.trans (le_add_of_nonneg_right htime)
    counted := h.counted }

/-- The lease has been taken from a keeper that is on time. -/
theorem Inv.start {now ticked timer looked : K} (hticked : ticked ≤ now) (hlooked : looked ≤ now)
    (hnonneg : 0 ≤ timer) (hlt : timer < timing.period) (hframe : now ≤ ticked + timing.frame)
    (htick : now ≤ looked + timing.tick) :
    Inv timing ⟨now, ticked, timer, [now], looked, 0, now, now⟩ :=
  { Renewed.start hticked hnonneg hlt hframe with
    keeper := htick
    looked_le := hlooked
    counted := by
      dsimp only
      rw [zero_add]
      exact htick }

end Lease
