import Mathlib.Data.List.Nodup

/-!
# Lookup of the first match

A list is searched for the first entry that answers to a key.  The entries
answer to keys of their own, and one entry may answer to a key under which
another one wants to be found.

* `Finds` — the lookup finds every entry under each of its keys;
* `finds_iff` — it does exactly if no entry answers to a key of a later one.
-/

namespace FirstMatch

variable {α κ : Type*} (answers : α → κ → Bool) (wants : α → κ → Prop) {l : List α}

/-- The first match of each key under which an entry wants to be found is that
entry. -/
def Finds (l : List α) : Prop :=
  ∀ b ∈ l, ∀ key, wants b key → l.find? (answers · key) = some b

variable {answers wants}

/-- A lookup passes over another entry exactly if that does not answer. -/
theorem find?_cons_eq_some_iff {a b : α} (hne : a ≠ b) (key : κ) :
    (a :: l).find? (answers · key) = some b ↔
      answers a key = false ∧ l.find? (answers · key) = some b := by
  rw [List.find?_cons]
  cases answers a key with
  | true => simp [hne]
  | false => simp

/-- **When the first match is the right one.**  In a list without duplicates,
whose entries answer to their own keys, a lookup finds every entry under each of
its keys exactly if no entry answers to a key of a later one. -/
theorem finds_iff (hl : l.Nodup) (hself : ∀ b ∈ l, ∀ key, wants b key → answers b key = true) :
    Finds answers wants l ↔
      l.Pairwise fun a b => ∀ key, wants b key → answers a key = false := by
  induction l with
  | nil => exact ⟨fun _ => List.Pairwise.nil, fun _ _ hb => by cases hb⟩
  | cons a l ih =>
      obtain ⟨ha, hl⟩ := List.nodup_cons.mp hl
      have ih := ih hl fun b hb => hself b (List.mem_cons_of_mem _ hb)
      have hne : ∀ b ∈ l, a ≠ b := fun b hb heq => ha (heq ▸ hb)
      rw [List.pairwise_cons, ← ih]
      constructor
      · intro h
        have htail : ∀ b ∈ l, ∀ key, wants b key →
            answers a key = false ∧ l.find? (answers · key) = some b := fun b hb key hwants =>
          (find?_cons_eq_some_iff (hne b hb) key).mp (h b (List.mem_cons_of_mem _ hb) key hwants)
        exact ⟨fun b hb key hwants => (htail b hb key hwants).1,
          fun b hb key hwants => (htail b hb key hwants).2⟩
      · rintro ⟨hfirst, hrest⟩ b hb key hwants
        rcases List.mem_cons.mp hb with rfl | hb
        · exact List.find?_cons_of_pos (hself b List.mem_cons_self key hwants)
        · exact (find?_cons_eq_some_iff (hne b hb) key).mpr
            ⟨hfirst b hb key hwants, hrest b hb key hwants⟩

end FirstMatch
