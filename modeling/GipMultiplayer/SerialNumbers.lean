import Mathlib.Data.UInt

/-!
# Serial numbers on a 32-bit circle

Sequence numbers that wrap are compared by the distance between them: one is
newer than another when it is less than half the circle ahead.  Within a window
of half the circle that starts at some `base`, this is the order of the
distances from the base.

* `newer_iff` — inside the window newer means further from the base;
* `strictTotal` — there it is a strict total order;
* `offset_lt_of_newer` — a number of the window that is newer than a reference
  slightly past the window, and not far ahead of it, is really ahead of it.
-/

namespace Serial

/-- `a` is less than half the circle ahead of `b`. -/
def newer (a b : UInt32) : Bool :=
  let distance := a - b
  distance ≠ 0 ∧ distance < 0x80000000

/-- Half the circle. -/
def half : Nat := 2 ^ 31

/-- How far `a` is ahead of `base` on the circle. -/
def offset (base a : UInt32) : Nat := (a - base).toNat

theorem offset_lt (base a : UInt32) : offset base a < 2 ^ 32 := (a - base).toNat_lt

theorem offset_inj {base a b : UInt32} (h : offset base a = offset base b) : a = b := by
  have hsub : a - base = b - base := UInt32.toNat_inj.mp h
  grind

/-- The distance of two numbers, told from their offsets. -/
theorem toNat_sub (base a b : UInt32) :
    (a - b).toNat = (2 ^ 32 + offset base a - offset base b) % 2 ^ 32 := by
  have hsub : a - b = (a - base) - (b - base) := by grind
  have hb := offset_lt base b
  rw [hsub, UInt32.toNat_sub]
  unfold offset at *
  omega

theorem newer_iff_distance (base a b : UInt32) :
    newer a b = true ↔
      (2 ^ 32 + offset base a - offset base b) % 2 ^ 32 ≠ 0 ∧
      (2 ^ 32 + offset base a - offset base b) % 2 ^ 32 < half := by
  have hdistance := toNat_sub base a b
  simp only [newer, decide_eq_true_eq, half]
  rw [← hdistance, UInt32.lt_iff_toNat_lt, ne_eq, ne_eq, ← UInt32.toNat_inj]
  rfl

/-- **Window order.**  Inside the window newer means further from the base. -/
theorem newer_iff {base a b : UInt32} (ha : offset base a < half) (hb : offset base b < half) :
    newer a b = true ↔ offset base b < offset base a := by
  rw [newer_iff_distance base]
  unfold half at *
  omega

/-- `r` orders the elements that meet `p` strictly and totally. -/
structure StrictTotalOn {α : Type} (p : α → Prop) (r : α → α → Prop) : Prop where
  irrefl : ∀ a, p a → ¬ r a a
  trans : ∀ a b c, p a → p b → p c → r a b → r b c → r a c
  total : ∀ a b, p a → p b → r a b ∨ a = b ∨ r b a

/-- **Inside the window** newer is a strict total order. -/
theorem strictTotal (base : UInt32) :
    StrictTotalOn (fun a => offset base a < half) fun a b => newer a b = true where
  irrefl a ha := by
    rw [newer_iff ha ha]
    exact Nat.lt_irrefl _
  trans a b c ha hb hc := by
    rw [newer_iff ha hb, newer_iff hb hc, newer_iff ha hc]
    intro hab hbc
    exact hbc.trans hab
  total a b ha hb := by
    rw [newer_iff ha hb, newer_iff hb ha]
    rcases Nat.lt_trichotomy (offset base a) (offset base b) with hlt | heq | hgt
    · exact .inr (.inr hlt)
    · exact .inr (.inl (offset_inj heq))
    · exact .inl hgt

theorem StrictTotalOn.mono {α : Type} {p q : α → Prop} {r : α → α → Prop}
    (h : StrictTotalOn p r) (hqp : ∀ a, q a → p a) : StrictTotalOn q r where
  irrefl a ha := h.irrefl a (hqp a ha)
  trans a b c ha hb hc := h.trans a b c (hqp a ha) (hqp b hb) (hqp c hc)
  total a b ha hb := h.total a b (hqp a ha) (hqp b hb)

/-- A number of the window that looks newer than a reference at most `slack`
past the window, without being further than `jump` ahead of it, is ahead. -/
theorem offset_lt_of_newer {base a b : UInt32} {slack jump : Nat}
    (ha : offset base a < half) (hb : offset base b ≤ half + slack)
    (hnewer : newer a b = true) (hjump : (a - b).toNat ≤ jump)
    (hsmall : jump + slack < half) : offset base b < offset base a := by
  have hdistance := toNat_sub base a b
  rw [newer_iff_distance base] at hnewer
  unfold half at *
  omega

/-- Counting up moves one away from the base, short of the full circle. -/
theorem offset_succ {base a : UInt32} (h : offset base a + 1 < 2 ^ 32) :
    offset base (a + 1) = offset base a + 1 := by
  have hadd : a + 1 - base = (a - base) + 1 := by grind
  unfold offset at *
  rw [hadd, UInt32.toNat_add]
  exact Nat.mod_eq_of_lt h

end Serial
