import Mathlib.Data.List.Basic

/-!
# Stamped histories

An owner replaces a value from time to time and stamps each new value; remote
parties only carry the stamp.  The history of the values is a list that grows
at its end, and the `n`-th value (counting from one) carries `stamp n`.

* `Names` — the value a stamp stands for in a history;
* `Names.append` — histories only grow, so a stamp keeps its meaning;
* `Names.unique` — while the stamps have not repeated, a stamp stands for one
  value.
-/

namespace Ledger

variable {γ κ : Type*} (stamp : ℕ → γ)

/-- In the history `h` the stamp `g` stands for the value `x`. -/
def Names (h : List κ) (g : γ) (x : κ) : Prop :=
  ∃ i, h[i]? = some x ∧ stamp (i + 1) = g

/-- The stamps of the first `n` values are pairwise different. -/
def InjectiveUpTo (n : ℕ) : Prop :=
  ∀ i j, i < n → j < n → stamp (i + 1) = stamp (j + 1) → i = j

variable {stamp}

theorem Names.append {h : List κ} {g : γ} {x : κ} (hx : Names stamp h g x) (t : List κ) :
    Names stamp (h ++ t) g x := by
  obtain ⟨i, hi, hg⟩ := hx
  have hlt : i < h.length := (List.getElem?_eq_some_iff.mp hi).1
  exact ⟨i, by rw [List.getElem?_append_left hlt, hi], hg⟩

/-- The newest value is named by the newest stamp. -/
theorem Names.snoc (h : List κ) (x : κ) : Names stamp (h ++ [x]) (stamp (h.length + 1)) x :=
  ⟨h.length, by simp, rfl⟩

/-- **A stamp fences its value.** -/
theorem Names.unique {h : List κ} {g : γ} {x y : κ} (hstamp : InjectiveUpTo stamp h.length)
    (hx : Names stamp h g x) (hy : Names stamp h g y) : x = y := by
  obtain ⟨i, hi, hgi⟩ := hx
  obtain ⟨j, hj, hgj⟩ := hy
  have hij : i = j := hstamp i j (List.getElem?_eq_some_iff.mp hi).1
    (List.getElem?_eq_some_iff.mp hj).1 (hgi.trans hgj.symm)
  subst hij
  exact Option.some.inj (hi.symm.trans hj)

end Ledger
