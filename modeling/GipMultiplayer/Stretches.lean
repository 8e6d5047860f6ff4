import Mathlib.Data.List.DropRight
import Mathlib.Data.List.Infix

/-!
# Stretches of a trace

What a trace holds between its marks, told from what has come since the last
mark while the trace grows at its end.

* `since` — the events after the last mark;
* `AtMost` — no stretch without a mark holds more than `n` events of a kind;
* `Quiet` — after an opening event there is none of the kind before the next
  mark;
* `AtMost.concat`, `Quiet.concat` — what one more event has to satisfy.
-/

namespace Stretch

variable {α : Type*} (mark : α → Bool)

/-- The events after the last mark. -/
def since (trace : List α) : List α := trace.rtakeWhile fun a => !mark a

/-- No stretch without a mark holds more than `n` events of the kind `p`. -/
def AtMost (p : α → Bool) (n : Nat) (trace : List α) : Prop :=
  ∀ stretch, stretch <:+: trace → (∀ a ∈ stretch, mark a = false) → stretch.countP p ≤ n

/-- After an opening event no event of the kind `p` comes before a mark. -/
def Quiet (opens p : α → Bool) (trace : List α) : Prop :=
  ∀ a stretch, (a :: stretch) <:+: trace → opens a = true →
    (∀ b ∈ stretch, mark b = false) → ∀ b ∈ stretch, p b = false

variable {mark}

@[simp] theorem since_nil : since mark [] = [] := rfl

theorem since_concat_mark {trace : List α} {a : α} (h : mark a = true) :
    since mark (trace ++ [a]) = [] :=
  List.rtakeWhile_concat_neg _ _ _ (by simp [h])

theorem since_concat {trace : List α} {a : α} (h : mark a = false) :
    since mark (trace ++ [a]) = since mark trace ++ [a] :=
  List.rtakeWhile_concat_pos _ _ _ (by simp [h])

/-- A stretch at the end of the trace lies after its last mark. -/
theorem suffix_since {trace stretch : List α} (hsuffix : stretch <:+ trace)
    (hfree : ∀ a ∈ stretch, mark a = false) : stretch <:+ since mark trace := by
  induction trace using List.reverseRecOn generalizing stretch with
  | nil => exact hsuffix
  | append_singleton trace a ih =>
      rcases List.suffix_concat_iff.mp hsuffix with rfl | ⟨before, rfl, hbefore⟩
      · exact List.nil_suffix
      · rw [since_concat (hfree a (by simp))]
        have hbefore := ih hbefore fun b hb => hfree b (List.mem_append_left _ hb)
        exact List.suffix_append_self_iff.mpr hbefore

theorem since_free {trace : List α} {a : α} (h : a ∈ since mark trace) : mark a = false := by
  simpa using List.mem_rtakeWhile_imp h

/-- The stretch that is still open is bounded like the others. -/
theorem AtMost.since_le {p : α → Bool} {n : Nat} {trace : List α}
    (h : AtMost mark p n trace) : (since mark trace).countP p ≤ n :=
  h _ (List.rtakeWhile_suffix _ _).isInfix fun _ => since_free

/-- **One more event.**  Only the stretch that is still open can grow. -/
theorem AtMost.concat {p : α → Bool} {n : Nat} {trace : List α} {a : α}
    (h : AtMost mark p n trace) (hopen : (since mark (trace ++ [a])).countP p ≤ n) :
    AtMost mark p n (trace ++ [a]) := by
  intro stretch hinfix hfree
  rcases List.infix_concat_iff.mp hinfix with hsuffix | hinfix
  · exact ((suffix_since hsuffix hfree).sublist.countP_le).trans hopen
  · exact h stretch hinfix hfree

/-- An event of another kind never spoils the bound. -/
theorem AtMost.concat_other {p : α → Bool} {n : Nat} {trace : List α} {a : α}
    (h : AtMost mark p n trace) (hother : p a = false) : AtMost mark p n (trace ++ [a]) := by
  refine h.concat ?_
  cases hmark : mark a with
  | true =>
      rw [since_concat_mark hmark]
      exact Nat.zero_le n
  | false =>
      rw [since_concat hmark, List.countP_append, List.countP_singleton, hother]
      exact h.since_le

/-- **One more event.**  It may be of the kind only while the open stretch has
no opening event. -/
theorem Quiet.concat {opens p : α → Bool} {trace : List α} {a : α}
    (h : Quiet mark opens p trace)
    (hopen : p a = true → mark a = false → ∀ b ∈ since mark trace, opens b = false)
    (hmarks : ∀ b, opens b = true → mark b = false) :
    Quiet mark opens p (trace ++ [a]) := by
  intro b stretch hinfix hb hfree
  rcases List.infix_concat_iff.mp hinfix with hsuffix | hinfix
  · rcases List.suffix_concat_iff.mp hsuffix with hnil | ⟨before, heq, hbefore⟩
    · exact absurd hnil (List.cons_ne_nil _ _)
    · cases before with
      | nil =>
          obtain ⟨-, rfl⟩ := List.cons.inj heq
          simp
      | cons c before =>
          obtain ⟨rfl, rfl⟩ := List.cons.inj heq
          have hbefore' : ∀ d ∈ before, mark d = false := fun d hd =>
            hfree d (List.mem_append_left _ hd)
          have hsince : (b :: before) <:+ since mark trace :=
            suffix_since hbefore (List.forall_mem_cons.mpr ⟨hmarks b hb, hbefore'⟩)
          intro d hd
          rcases List.mem_append.mp hd with hd | hd
          · exact h b before hbefore.isInfix hb hbefore' d hd
          · obtain rfl := List.mem_singleton.mp hd
            rw [← Bool.not_eq_true]
            intro hkind
            have hmark : mark d = false := hfree d (by simp)
            have hnone := hopen hkind hmark b (hsince.subset List.mem_cons_self)
            rw [hb] at hnone
            cases hnone
  · exact h b stretch hinfix hb hfree

theorem AtMost.nil (p : α → Bool) (n : Nat) : AtMost mark p n [] := by
  intro stretch hinfix _
  rw [List.infix_nil.mp hinfix]
  exact Nat.zero_le n

theorem Quiet.nil (opens p : α → Bool) : Quiet mark opens p [] := by
  intro a stretch hinfix
  exact absurd (List.infix_nil.mp hinfix) (List.cons_ne_nil _ _)

end Stretch
