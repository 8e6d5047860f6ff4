import Mathlib.Algebra.Ring.Nat
import Mathlib.Data.List.AList

/-!
# Tables by key

Association lists with distinct keys whose values are rewritten all at once,
filtered, or replaced one at a time, and the sum of a measure over them.

* `mapValues`, `filterValues` — every value rewritten; the values of a kind;
* `lookup_mapValues`, `lookup_filterValues` — what a key finds afterwards;
* `mapValues_insert`, `mapValues_filterValues` — rewriting commutes with both;
* `lookup_insert_cases` — one value set leaves the others;
* `total_insert` — one value replaced changes the sum by that value only.
-/

namespace Keyed

variable {κ β γ : Type*}

/-- The same keys, each value rewritten. -/
def mapValues (f : κ → β → γ) (table : AList fun _ : κ => β) : AList fun _ : κ => γ where
  entries := table.entries.map (.map id f)
  nodupKeys := table.nodupKeys.map₂ f

/-- The entries whose value passes a test. -/
def filterValues (p : β → Bool) (table : AList fun _ : κ => β) : AList fun _ : κ => β where
  entries := table.entries.filter fun item => p item.2
  nodupKeys := table.nodupKeys.sublist List.filter_sublist

/-- The sum of a measure over the values. -/
def total (measure : β → Nat) (table : AList fun _ : κ => β) : Nat :=
  (table.entries.map fun item => measure item.2).sum

@[simp] theorem keys_mapValues (f : κ → β → γ) (table : AList fun _ : κ => β) :
    (mapValues f table).keys = table.keys :=
  List.map₂_keys f table.entries

@[simp] theorem mapValues_empty (f : κ → β → γ) :
    mapValues f (∅ : AList fun _ : κ => β) = ∅ := rfl

theorem filterValues_keys_length (p : β → Bool) (table : AList fun _ : κ => β) :
    (filterValues p table).keys.length ≤ table.keys.length := by
  have hle := List.length_filter_le (fun item : Sigma fun _ : κ => β => p item.2) table.entries
  simpa [AList.keys, List.keys, filterValues] using hle

/-- Rewriting after a filter is a filter after rewriting. -/
theorem mapValues_filterValues {f : κ → β → γ} {p : β → Bool} {q : γ → Bool}
    (hpq : ∀ key value, q (f key value) = p value) (table : AList fun _ : κ => β) :
    mapValues f (filterValues p table) = filterValues q (mapValues f table) := by
  refine AList.ext ?_
  simp only [mapValues, filterValues, List.filter_map]
  congr 2
  funext item
  exact (hpq item.1 item.2).symm

variable [DecidableEq κ]

@[simp] theorem lookup_mapValues (f : κ → β → γ) (table : AList fun _ : κ => β) (key : κ) :
    (mapValues f table).lookup key = (table.lookup key).map (f key) :=
  List.dlookup_map₂ key

theorem lookup_filterValues (p : β → Bool) (table : AList fun _ : κ => β) (key : κ) :
    (filterValues p table).lookup key = (table.lookup key).filter p := by
  ext value
  rw [← Option.mem_def, AList.mem_lookup_iff, Option.filter_eq_some_iff]
  simp only [filterValues, List.mem_filter]
  rw [← AList.mem_lookup_iff, Option.mem_def]

/-- Rewriting after one value is set is setting the rewritten value. -/
theorem mapValues_insert (f : κ → β → γ) (table : AList fun _ : κ => β) (key : κ) (value : β) :
    mapValues f (table.insert key value) = (mapValues f table).insert key (f key value) := by
  refine AList.ext ?_
  simp only [mapValues, AList.entries_insert, List.map_cons, List.kerase, List.eraseP_map]
  rfl

theorem length_insert_of_mem {table : AList fun _ : κ => β} {key : κ} (h : key ∈ table)
    (value : β) : (table.insert key value).keys.length = table.keys.length := by
  have hmem : key ∈ table.keys := AList.mem_keys.mp h
  have hpos := List.length_pos_of_mem hmem
  rw [AList.keys_insert, List.length_cons, List.length_erase_of_mem hmem]
  omega

theorem length_insert_of_notMem {table : AList fun _ : κ => β} {key : κ} (h : key ∉ table)
    (value : β) : (table.insert key value).keys.length = table.keys.length + 1 := by
  have hmem : key ∉ table.keys := mt AList.mem_keys.mpr h
  rw [AList.keys_insert, List.length_cons, List.erase_of_not_mem hmem]

/-- **One value set**: its key finds it, the others find what they did. -/
theorem lookup_insert_cases {table : AList fun _ : κ => β} {key k : κ} {value v : β}
    (h : (table.insert key value).lookup k = some v) :
    (k = key ∧ v = value) ∨ (k ≠ key ∧ table.lookup k = some v) := by
  by_cases hkey : k = key
  · rw [hkey, AList.lookup_insert] at h
    exact .inl ⟨hkey, (Option.some.inj h).symm⟩
  · rw [AList.lookup_insert_ne hkey] at h
    exact .inr ⟨hkey, h⟩

/-- What holds of every value, and of the new one, holds after it is set. -/
theorem forall_insert {P : κ → β → Prop} {table : AList fun _ : κ => β} {key : κ} {value : β}
    (h : ∀ k v, table.lookup k = some v → P k v) (hvalue : P key value) (k : κ) (v : β)
    (hv : (table.insert key value).lookup k = some v) : P k v := by
  rcases lookup_insert_cases hv with ⟨rfl, rfl⟩ | ⟨-, hold⟩
  · exact hvalue
  · exact h k v hold

/-- The value of a key, and the sum over the others. -/
theorem total_of_lookup (measure : β → Nat) {table : AList fun _ : κ => β} {key : κ} {value : β}
    (h : table.lookup key = some value) :
    total measure table = measure value +
      ((table.entries.kerase key).map fun item => measure item.2).sum := by
  have hkey : key ∈ table.entries.keys :=
    AList.mem_keys.mp (AList.lookup_isSome.mp (by rw [h]; rfl))
  obtain ⟨value', before, after, -, hentries, herase⟩ := List.exists_of_kerase hkey
  have hmem : ⟨key, value'⟩ ∈ table.entries := by
    rw [hentries]
    exact List.mem_append_right _ List.mem_cons_self
  have hvalue : value' = value :=
    Option.some.inj ((AList.mem_lookup_iff.mpr hmem).symm.trans h)
  rw [total, herase, hentries, hvalue]
  simp only [List.map_append, List.map_cons, List.sum_append, List.sum_cons]
  omega

/-- **One value replaced.**  The sum loses the old value and gains the new. -/
theorem total_insert (measure : β → Nat) {table : AList fun _ : κ => β} {key : κ} {old : β}
    (h : table.lookup key = some old) (value : β) :
    total measure (table.insert key value) + measure old = total measure table + measure value := by
  have hbefore := total_of_lookup measure h
  have hafter : total measure (table.insert key value) = measure value +
      ((table.entries.kerase key).map fun item => measure item.2).sum := by
    rw [total, AList.entries_insert, List.map_cons, List.sum_cons]
  omega

/-- One value added. -/
theorem total_insert_new (measure : β → Nat) {table : AList fun _ : κ => β} {key : κ}
    (h : table.lookup key = none) (value : β) :
    total measure (table.insert key value) = total measure table + measure value := by
  rw [total, AList.entries_insert_of_notMem (AList.lookup_eq_none.mp h), List.map_cons,
    List.sum_cons, total, Nat.add_comm]

end Keyed
