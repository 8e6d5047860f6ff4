import Mathlib.Data.List.Nodup
import Mathlib.Logic.Function.Basic

/-!
# Tables of a relational database

A small model of what an SQL engine does with one table: a list of columns,
the rows in the order of their row ids, and the next row id.  A statement that
names a column the table lacks is refused before it runs (`Table.prepares`);
an insertion may be refused for any reason of the engine's own, and is refused
when it would repeat a value of a `UNIQUE` column.

* `Table.addColumn` — `ALTER TABLE … ADD COLUMN`, which fills the rows that
  exist with the default of the new column;
* `Table.insert`, `Table.update`, `Table.delete`, `Table.select`,
  `Table.selectJoin` — the statements;
* `Table.WellFormed` — row ids are fresh and distinct and unique columns are
  unique, kept by every statement.
-/

namespace Sql

/-- A value.  A time stamp is the number of its second; the texts an engine
keeps for time stamps compare in the same order. -/
inductive Value
  | null
  | integer (n : Int)
  | text (bytes : List UInt8)
  deriving DecidableEq, Repr

/-- What an insertion that does not name a column puts there. -/
inductive Default
  | value (v : Value)
  | currentTimestamp
  deriving DecidableEq, Repr

/-- The default at the time of an insertion. -/
def Default.eval (now : Int) : Default → Value
  | .value v => v
  | .currentTimestamp => .integer now

/-- A column of a table. -/
structure Column (κ : Type*) where
  name : κ
  unique : Bool := false
  default : Default := .value .null
  deriving DecidableEq

/-- The values of a row; those of columns the table lacks mean nothing. -/
abbrev Row (κ : Type*) := κ → Value

/-- A table with the integer primary key `key`. -/
structure Table (κ : Type*) where
  key : κ
  columns : List (Column κ)
  rows : List (Row κ) := []
  nextRowid : Int := 1

/-- Why an insertion or an update did not happen. -/
inductive Refusal
  | constraint
  | other
  deriving DecidableEq, Repr

variable {κ μ : Type*} [DecidableEq κ]

/-- Set the named columns of a row. -/
def Row.assign (row : Row κ) (values : List (κ × Value)) : Row κ :=
  values.foldl (fun row v => Function.update row v.1 v.2) row

/-- A column that is not assigned keeps its value. -/
theorem Row.assign_of_notMem {values : List (κ × Value)} {c : κ}
    (h : c ∉ values.map (·.1)) (row : Row κ) : row.assign values c = row c := by
  induction values generalizing row with
  | nil => rfl
  | cons v values ih =>
      simp only [List.map_cons, List.mem_cons, not_or] at h
      show Row.assign (Function.update row v.1 v.2) values c = row c
      rw [ih h.2, Function.update_of_ne h.1]

namespace Table

/-- The names of the columns. -/
def names (t : Table κ) : List κ := t.columns.map (·.name)

/-- A statement on `t` naming the columns `cs` prepares when it has them all. -/
def prepares (t : Table κ) (cs : List κ) : Bool := cs.all (· ∈ t.names)

/-- `ALTER TABLE t ADD COLUMN c … DEFAULT v`: an error without effect when the
column exists. -/
def addColumn (t : Table κ) (c : κ) (v : Value) : Table κ :=
  if c ∈ t.names then t
  else { t with
    columns := t.columns ++ [{ name := c, default := .value v }]
    rows := t.rows.map fun row => Function.update row c v }

/-- No two of the rows share a value, other than null, of a unique column. -/
def admits (t : Table κ) (rows : List (Row κ)) : Bool :=
  t.columns.all fun c =>
    !c.unique || decide (((rows.map (· c.name)).filter (· ≠ .null)).Nodup)

/-- The row an insertion of `values` adds. -/
def newRow (t : Table κ) (now : Int) (values : List (κ × Value)) : Row κ :=
  let defaults : Row κ := fun c =>
    match t.columns.find? (·.name = c) with
    | some column => column.default.eval now
    | none => .null
  Function.update (defaults.assign values) t.key (.integer t.nextRowid)

/-- `INSERT INTO t (…) VALUES (…)`: the id of the new row and the table with
it, unless the engine refuses. -/
def insert (t : Table κ) (now : Int) (values : List (κ × Value)) (refusal : Option Refusal) :
    Except Refusal (Int × Table κ) :=
  match refusal with
  | some reason => .error reason
  | none =>
      let rows := t.rows ++ [t.newRow now values]
      if t.admits rows then
        .ok (t.nextRowid, { t with rows := rows, nextRowid := t.nextRowid + 1 })
      else
        .error .constraint

/-- `UPDATE t SET … WHERE p`, without effect when it would break a `UNIQUE`
column. -/
def update (t : Table κ) (values : List (κ × Value)) (p : Row κ → Bool) : Table κ :=
  let rows := t.rows.map fun row => if p row then row.assign values else row
  if t.admits rows then { t with rows := rows } else t

/-- `DELETE FROM t WHERE p`. -/
def delete (t : Table κ) (p : Row κ → Bool) : Table κ :=
  { t with rows := t.rows.filter fun row => !p row }

/-- The first row of `SELECT … FROM t WHERE p`, in the order of row ids. -/
def select (t : Table κ) (p : Row κ → Bool) : Option (Row κ) := t.rows.find? p

/-- The first row of `SELECT … FROM t JOIN u … WHERE p`, with `t` in the outer
loop. -/
def selectJoin (t : Table κ) (u : Table μ) (p : Row κ → Row μ → Bool) :
    Option (Row κ × Row μ) :=
  t.rows.findSome? fun row => (u.rows.find? (p row)).map fun other => (row, other)

/-- The row ids are distinct and below the next one, and the unique columns
are unique. -/
structure WellFormed (t : Table κ) : Prop where
  key_lt : ∀ row ∈ t.rows, ∃ n : Int, row t.key = .integer n ∧ n < t.nextRowid
  key_nodup : (t.rows.map (· t.key)).Nodup
  unique : t.admits t.rows

/-! ## Prepared statements -/

/-- A statement prepares exactly when every column it names is there. -/
theorem prepares_iff {t : Table κ} {cs : List κ} :
    t.prepares cs = true ↔ ∀ c ∈ cs, c ∈ t.names := by
  simp [prepares]

/-! ## Altering a table -/

/-- `ADD COLUMN` adds the column, and no other. -/
theorem mem_names_addColumn {t : Table κ} {c a : κ} {v : Value} :
    a ∈ (t.addColumn c v).names ↔ a ∈ t.names ∨ a = c := by
  unfold addColumn
  split
  case isTrue h =>
      constructor
      · exact Or.inl
      · rintro (ha | rfl)
        · exact ha
        · exact h
  case isFalse h => simp [names]

/-- The column that `ADD COLUMN` adds is not unique. -/
theorem mem_columns_addColumn {t : Table κ} {c : κ} {v : Value} {column : Column κ}
    (h : column ∈ (t.addColumn c v).columns) :
    column ∈ t.columns ∨ column.name = c ∧ column.unique = false := by
  unfold addColumn at h
  split at h
  case isTrue => exact Or.inl h
  case isFalse =>
    rcases List.mem_append.mp h with hold | hnew
    · exact Or.inl hold
    · obtain rfl := List.mem_singleton.mp hnew
      exact Or.inr ⟨rfl, rfl⟩

@[simp] theorem key_addColumn (t : Table κ) (c : κ) (v : Value) :
    (t.addColumn c v).key = t.key := by
  unfold addColumn
  split <;> rfl

/-- `ADD COLUMN` writes the default into a column the table lacked. -/
theorem rows_addColumn (t : Table κ) (c : κ) (v : Value) :
    (t.addColumn c v).rows = if c ∈ t.names then t.rows
      else t.rows.map fun row => Function.update row c v := by
  unfold addColumn
  split <;> rfl

omit [DecidableEq κ] in
/-- Only the values of the unique columns decide whether rows are admitted. -/
theorem admits_map {t : Table κ} {rows : List (Row κ)} {g : Row κ → Row κ}
    (hg : ∀ c ∈ t.columns, c.unique = true → ∀ row ∈ rows, g row c.name = row c.name) :
    t.admits (rows.map g) = t.admits rows := by
  have hsame : ∀ c ∈ t.columns, c.unique = true →
      (rows.map g).map (· c.name) = rows.map (· c.name) := by
    intro c hc hu
    rw [List.map_map]
    exact List.map_congr_left fun row hrow => hg c hc hu row hrow
  unfold admits
  rw [Bool.eq_iff_iff, List.all_eq_true, List.all_eq_true]
  refine forall₂_congr fun c hc => ?_
  cases hu : c.unique with
  | false => rfl
  | true => rw [hsame c hc hu]

/-- `ADD COLUMN` keeps a table well formed. -/
theorem WellFormed.addColumn {t : Table κ} (h : t.WellFormed) (hkey : t.key ∈ t.names)
    (c : κ) (v : Value) : (t.addColumn c v).WellFormed := by
  unfold Table.addColumn
  split
  case isTrue => exact h
  case isFalse hnew =>
      have hne : t.key ≠ c := fun e => hnew (e ▸ hkey)
      have hsame : ∀ d : Column κ, d ∈ t.columns → ∀ row : Row κ,
          Function.update row c v d.name = row d.name := by
        intro d hd row
        have hdc : d.name ≠ c := fun e => hnew (e ▸ List.mem_map.mpr ⟨d, hd, rfl⟩)
        rw [Function.update_of_ne hdc]
      constructor
      · intro row hrow
        obtain ⟨old, hold, rfl⟩ := List.mem_map.mp hrow
        simpa [Function.update_of_ne hne] using h.key_lt old hold
      · simpa [List.map_map, Function.comp_def, Function.update_of_ne hne] using h.key_nodup
      · have hold : t.admits (t.rows.map fun row => Function.update row c v) = true := by
          rw [admits_map fun d hd _ row _ => hsame d hd row]
          exact h.unique
        simpa [admits] using hold

/-! ## Changing rows -/

/-- What an insertion that was not refused did. -/
theorem insert_ok {t t' : Table κ} {now id : Int} {values : List (κ × Value)}
    {refusal : Option Refusal} (h : t.insert now values refusal = .ok (id, t')) :
    t.admits (t.rows ++ [t.newRow now values]) = true ∧ id = t.nextRowid ∧
      t' = { t with rows := t.rows ++ [t.newRow now values], nextRowid := t.nextRowid + 1 } := by
  unfold insert at h
  cases refusal with
  | some reason => cases h
  | none =>
      dsimp only at h
      split at h
      case isTrue hadmits =>
          obtain ⟨rfl, rfl⟩ := Prod.mk.inj (Except.ok.inj h)
          exact ⟨hadmits, rfl, rfl⟩
      case isFalse => cases h

/-- An insertion happens when the engine has no other reason against it and the
row is admitted. -/
theorem insert_ok_iff {t : Table κ} {now : Int} {values : List (κ × Value)}
    {refusal : Option Refusal} :
    (∃ id t', t.insert now values refusal = .ok (id, t')) ↔
      refusal = none ∧ t.admits (t.rows ++ [t.newRow now values]) = true := by
  constructor
  · rintro ⟨id, t', h⟩
    refine ⟨?_, (insert_ok h).1⟩
    cases refusal with
    | none => rfl
    | some reason => cases h
  · rintro ⟨rfl, hadmits⟩
    exact ⟨_, _, if_pos hadmits⟩

/-- The new row carries the next row id. -/
@[simp] theorem newRow_key (t : Table κ) (now : Int) (values : List (κ × Value)) :
    t.newRow now values t.key = .integer t.nextRowid := by
  simp [newRow]

/-- An insertion keeps a table well formed. -/
theorem WellFormed.insert {t t' : Table κ} (h : t.WellFormed) {now id : Int}
    {values : List (κ × Value)} {refusal : Option Refusal}
    (hinsert : t.insert now values refusal = .ok (id, t')) : t'.WellFormed := by
  obtain ⟨hadmits, rfl, rfl⟩ := insert_ok hinsert
  constructor
  · intro row hrow
    rcases List.mem_append.mp hrow with hold | hnew
    · obtain ⟨n, hn, hlt⟩ := h.key_lt row hold
      exact ⟨n, hn, by show n < t.nextRowid + 1; omega⟩
    · obtain rfl := List.mem_singleton.mp hnew
      exact ⟨t.nextRowid, t.newRow_key now values, Int.lt_succ _⟩
  · show (List.map (· t.key) (t.rows ++ [t.newRow now values])).Nodup
    rw [List.map_append, List.nodup_append]
    refine ⟨h.key_nodup, List.nodup_singleton _, fun a ha b hb => ?_⟩
    obtain ⟨row, hrow, rfl⟩ := List.mem_map.mp ha
    obtain ⟨n, hn, hlt⟩ := h.key_lt row hrow
    simp only [List.map_cons, List.map_nil, newRow_key, List.mem_singleton] at hb
    rw [hb, hn]
    intro e
    have := Value.integer.inj e
    omega
  · exact hadmits

/-- An update of columns that are not unique happens. -/
theorem rows_update {t : Table κ} (h : t.WellFormed) {values : List (κ × Value)}
    {p : Row κ → Bool}
    (hsame : ∀ c ∈ t.columns, c.unique = true → ∀ row ∈ t.rows, p row = true →
      row.assign values c.name = row c.name) :
    (t.update values p).rows = t.rows.map fun row => if p row then row.assign values else row := by
  have hadmits : t.admits (t.rows.map fun row => if p row then row.assign values else row)
      = true := by
    rw [admits_map]
    · exact h.unique
    · intro c hc hu row hrow
      split
      case isTrue hp => exact hsame c hc hu row hrow hp
      case isFalse => rfl
  unfold update
  rw [if_pos hadmits]

/-- An update keeps the columns and the next row id. -/
theorem update_frame (t : Table κ) (values : List (κ × Value)) (p : Row κ → Bool) :
    (t.update values p).columns = t.columns ∧ (t.update values p).key = t.key ∧
      (t.update values p).nextRowid = t.nextRowid := by
  unfold update
  dsimp only
  split <;> exact ⟨rfl, rfl, rfl⟩

/-- An update that does not assign the key keeps a table well formed. -/
theorem WellFormed.update {t : Table κ} (h : t.WellFormed) {values : List (κ × Value)}
    (hkey : t.key ∉ values.map (·.1)) (p : Row κ → Bool) : (t.update values p).WellFormed := by
  unfold Table.update
  dsimp only
  split
  case isFalse => exact h
  case isTrue hadmits =>
      have hsame : ∀ row : Row κ, (if p row then row.assign values else row) t.key = row t.key := by
        intro row
        split
        · exact Row.assign_of_notMem hkey row
        · rfl
      constructor
      · intro row hrow
        obtain ⟨old, hold, rfl⟩ := List.mem_map.mp hrow
        rw [hsame old]
        exact h.key_lt old hold
      · simpa only [List.map_map, Function.comp_def, hsame] using h.key_nodup
      · exact hadmits

omit [DecidableEq κ] in
/-- A deletion leaves the rows it does not name. -/
theorem mem_rows_delete {t : Table κ} {p : Row κ → Bool} {row : Row κ} :
    row ∈ (t.delete p).rows ↔ row ∈ t.rows ∧ p row = false := by
  simp [delete]

omit [DecidableEq κ] in
/-- A deletion keeps a table well formed. -/
theorem WellFormed.delete {t : Table κ} (h : t.WellFormed) (p : Row κ → Bool) :
    (t.delete p).WellFormed := by
  constructor
  · exact fun row hrow => h.key_lt row (mem_rows_delete.mp hrow).1
  · exact h.key_nodup.sublist (List.filter_sublist.map _)
  · have hold : t.admits t.rows = true := h.unique
    simp only [admits, List.all_eq_true, Bool.or_eq_true, decide_eq_true_eq] at hold ⊢
    intro c hc
    refine (hold c hc).imp_right fun hnodup => hnodup.sublist ?_
    exact (List.filter_sublist.map _).filter _

omit [DecidableEq κ] in
/-- A row is admitted to a well formed table when no row has its values of the
unique columns. -/
theorem WellFormed.admits_concat_iff {t : Table κ} (h : t.WellFormed) {row : Row κ} :
    t.admits (t.rows ++ [row]) = true ↔ ∀ c ∈ t.columns, c.unique = true →
      row c.name ≠ .null → ∀ old ∈ t.rows, old c.name ≠ row c.name := by
  have hold : t.admits t.rows = true := h.unique
  simp only [admits, List.all_eq_true, Bool.or_eq_true, decide_eq_true_eq,
    Bool.not_eq_true'] at hold ⊢
  refine forall₂_congr fun c hc => ?_
  cases hunique : c.unique with
  | false => simp
  | true =>
      have hnodup := (hold c hc).resolve_left (by simp [hunique])
      rw [List.map_append, List.filter_append, List.map_singleton]
      by_cases hnull : row c.name = .null
      · simpa [hnull] using hnodup
      have hkept : [row c.name].filter (· ≠ .null) = [row c.name] := by simp [hnull]
      rw [hkept, or_iff_right (by simp)]
      constructor
      · intro hdistinct _ _ old hmem heq
        have hmem' : old c.name ∈ (t.rows.map (· c.name)).filter (· ≠ .null) :=
          List.mem_filter.mpr ⟨List.mem_map_of_mem hmem, by simp [heq, hnull]⟩
        exact (List.nodup_append.mp hdistinct).2.2 _ hmem' _ (List.mem_singleton_self _) heq
      · intro hdistinct
        refine List.nodup_append.mpr ⟨hnodup, List.nodup_singleton _, fun v hv w hw => ?_⟩
        obtain ⟨old, hmem, rfl⟩ := List.mem_map.mp (List.mem_filter.mp hv).1
        obtain rfl := List.mem_singleton.mp hw
        exact hdistinct rfl hnull old hmem

/-! ## Reading rows -/

omit [DecidableEq κ] in
/-- Rows with one row id are one row. -/
theorem WellFormed.eq_of_key {t : Table κ} (h : t.WellFormed) {row other : Row κ}
    (hrow : row ∈ t.rows) (hother : other ∈ t.rows) (hkey : row t.key = other t.key) :
    row = other :=
  List.inj_on_of_nodup_map h.key_nodup hrow hother hkey

omit [DecidableEq κ] in
/-- In a well formed table, rows that share a value other than null of a
unique column are one row. -/
theorem WellFormed.eq_of_unique {t : Table κ} (h : t.WellFormed) {c : Column κ}
    (hc : c ∈ t.columns) (hunique : c.unique = true) {row other : Row κ}
    (hrow : row ∈ t.rows) (hother : other ∈ t.rows) (hnull : row c.name ≠ .null)
    (hsame : row c.name = other c.name) : row = other := by
  have hold : t.admits t.rows = true := h.unique
  simp only [admits, List.all_eq_true, Bool.or_eq_true, decide_eq_true_eq,
    Bool.not_eq_true'] at hold
  have hnodup := (hold c hc).resolve_left (by simp [hunique])
  rw [List.filter_map] at hnodup
  refine List.inj_on_of_nodup_map hnodup (List.mem_filter.mpr ⟨hrow, ?_⟩)
    (List.mem_filter.mpr ⟨hother, ?_⟩) hsame
  · simpa using hnull
  · simpa [← hsame] using hnull

omit [DecidableEq κ] in
/-- What a query finds matches. -/
theorem select_some {t : Table κ} {p : Row κ → Bool} {row : Row κ}
    (h : t.select p = some row) : row ∈ t.rows ∧ p row = true :=
  ⟨List.mem_of_find?_eq_some h, List.find?_some (p := p) h⟩

omit [DecidableEq κ] in
/-- A join finds a row when and only when there are matching rows. -/
theorem selectJoin_isSome_iff {t : Table κ} {u : Table μ} {p : Row κ → Row μ → Bool} :
    (t.selectJoin u p).isSome = true ↔
      ∃ row ∈ t.rows, ∃ other ∈ u.rows, p row other = true := by
  simp [selectJoin, List.findSome?_isSome_iff]

omit [DecidableEq κ] in
/-- What a join finds matches. -/
theorem selectJoin_some {t : Table κ} {u : Table μ} {p : Row κ → Row μ → Bool}
    {row : Row κ} {other : Row μ} (h : t.selectJoin u p = some (row, other)) :
    row ∈ t.rows ∧ other ∈ u.rows ∧ p row other = true := by
  obtain ⟨found, hfound, heq⟩ := List.exists_of_findSome?_eq_some h
  obtain ⟨match_, hmatch, hpair⟩ := Option.map_eq_some_iff.mp heq
  obtain ⟨rfl, rfl⟩ := Prod.mk.inj hpair
  exact ⟨hfound, List.mem_of_find?_eq_some hmatch, List.find?_some hmatch⟩

end Table

end Sql
