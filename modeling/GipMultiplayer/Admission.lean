import Mathlib.Data.List.Nodup
import Mathlib.Tactic.SplitIfs

/-!
# Admission by key

A list is read from the front, and an element that is wanted is admitted unless
its key is known.  The key of an admitted element is known from then on.

* `admitted` — the elements that are admitted;
* `admitted_sublist` — they keep their order;
* `admitted_nodup`, `admitted_fresh` — no key is admitted twice, and none that was
  known;
* `admitted_complete` — nothing that is wanted is missing but for its key.
-/

namespace Admission

variable {α κ : Type*} [DecidableEq κ] (key : α → κ) (wanted : α → Bool)

/-- The elements that are admitted, in order. -/
def admitted (known : List κ) : List α → List α
  | [] => []
  | a :: rest =>
      if wanted a = true ∧ key a ∉ known then a :: admitted (known ++ [key a]) rest
      else admitted known rest

variable {key wanted}

theorem admitted_sublist (known : List κ) (l : List α) :
    (admitted key wanted known l).Sublist l := by
  induction l generalizing known with
  | nil => exact List.Sublist.refl []
  | cons a rest ih =>
      unfold admitted
      split_ifs
      · exact (ih _).cons_cons a
      · exact (ih known).cons a

/-- What is admitted was wanted, under a key that was not known. -/
theorem admitted_fresh {known : List κ} {l : List α} {a : α}
    (h : a ∈ admitted key wanted known l) : wanted a = true ∧ key a ∉ known := by
  induction l generalizing known with
  | nil => cases h
  | cons b rest ih =>
      unfold admitted at h
      split_ifs at h with hb
      · rcases List.mem_cons.mp h with rfl | hrest
        · exact hb
        · obtain ⟨hwanted, hkey⟩ := ih hrest
          exact ⟨hwanted, fun hknown => hkey (List.mem_append_left _ hknown)⟩
      · exact ih h

/-- **No key is admitted twice.** -/
theorem admitted_nodup (known : List κ) (l : List α) :
    ((admitted key wanted known l).map key).Nodup := by
  induction l generalizing known with
  | nil => exact List.nodup_nil
  | cons a rest ih =>
      unfold admitted
      split_ifs
      · rw [List.map_cons, List.nodup_cons]
        refine ⟨?_, ih _⟩
        intro hmem
        obtain ⟨b, hb, hkey⟩ := List.mem_map.mp hmem
        apply (admitted_fresh hb).2
        rw [hkey]
        exact List.mem_append_right _ List.mem_cons_self
      · exact ih known

/-- **Nothing is missing**: the key of a wanted element is known, or admitted. -/
theorem admitted_complete {known : List κ} {l : List α} {a : α} (ha : a ∈ l)
    (hwanted : wanted a = true) :
    key a ∈ known ∨ ∃ b ∈ admitted key wanted known l, key b = key a := by
  induction l generalizing known with
  | nil => cases ha
  | cons b rest ih =>
      unfold admitted
      split_ifs with hb
      · rcases List.mem_cons.mp ha with rfl | hrest
        · exact .inr ⟨a, List.mem_cons_self, rfl⟩
        · rcases ih hrest with hknown | ⟨c, hc, hkey⟩
          · rcases List.mem_append.mp hknown with hold | hnew
            · exact .inl hold
            · exact .inr ⟨b, List.mem_cons_self, (List.mem_singleton.mp hnew).symm⟩
          · exact .inr ⟨c, List.mem_cons_of_mem _ hc, hkey⟩
      · rcases List.mem_cons.mp ha with rfl | hrest
        · refine .inl ?_
          by_contra hunknown
          exact hb ⟨hwanted, hunknown⟩
        · exact ih hrest

end Admission
