import Mathlib.Data.List.Nodup
import ResumeIr.Foundation.Fallible

/-!
# Tables with a primary key

A table is a list of rows in which no two rows have the same key. The key is a
function of the row, as a primary-key column is, and the uniqueness is a field
of the table, so that no operation has to establish it again.

A table is read through `find?`. Each way of writing to it has one equation
that says what `find?` answers afterwards, and membership is the same as being
found (`mem_iff_find?`), so a proof about a table seldom looks at the order of
its rows. The newest row stands first.

Inserting a row into a table of a larger state, or failing if the key is taken,
is one statement (`insertRow`).
-/

namespace ResumeIr.Foundation

/-- Rows with pairwise different keys. -/
structure Table {ρ κ : Type} (key : ρ → κ) where
  rows : List ρ
  keyed : (rows.map key).Nodup

namespace Table

variable {ρ κ : Type} {key : ρ → κ} {t u : Table key} {row : ρ} {f : ρ → ρ}

@[ext] theorem ext (same : t.rows = u.rows) : t = u := by
  cases t
  cases u
  cases same
  rfl

instance [DecidableEq ρ] : DecidableEq (Table key) := fun t u =>
  decidable_of_iff (t.rows = u.rows) ⟨ext, fun same => congrArg rows same⟩

instance : Membership ρ (Table key) := ⟨fun t row => row ∈ t.rows⟩

theorem mem_rows : row ∈ t ↔ row ∈ t.rows := Iff.rfl

instance (p : ρ → Prop) [DecidablePred p] (t : Table key) : Decidable (∀ row ∈ t, p row) :=
  inferInstanceAs (Decidable (∀ row ∈ t.rows, p row))

instance (p : ρ → Prop) [DecidablePred p] (t : Table key) : Decidable (∃ row ∈ t, p row) :=
  inferInstanceAs (Decidable (∃ row ∈ t.rows, p row))

/-- The table without rows. -/
def empty : Table key := ⟨[], List.nodup_nil⟩

@[simp] theorem not_mem_empty (row : ρ) : row ∉ (empty : Table key) := List.not_mem_nil

/-- The rows that do not meet a condition. -/
def delete (t : Table key) (condition : ρ → Bool) : Table key where
  rows := t.rows.filter fun row => !condition row
  keyed := t.keyed.sublist (List.filter_sublist.map key)

theorem mem_delete {condition : ρ → Bool} :
    row ∈ t.delete condition ↔ row ∈ t ∧ condition row = false := by
  simp [mem_rows, delete]

/-- The newest row that meets a condition stays the newest when others are deleted. -/
theorem rows_find?_delete {condition p : ρ → Bool} (first : t.rows.find? p = some row)
    (spared : condition row = false) : (t.delete condition).rows.find? p = some row := by
  show (t.rows.filter _).find? p = _
  obtain ⟨met, before, after, split, earlier⟩ := List.find?_eq_some_iff_append.mp first
  rw [split, List.filter_append, List.filter_cons_of_pos (by simp [spared]),
    List.find?_append, List.find?_cons_of_pos met]
  have missing : (before.filter fun row => !condition row).find? p = none := by
    rw [List.find?_eq_none]
    intro other member
    simpa using earlier other (List.mem_filter.mp member).1
  rw [missing, Option.none_or]

/-- The table with every row rewritten by a function that keeps keys. -/
def mapRows (t : Table key) (f : ρ → ρ) (same : ∀ row, key (f row) = key row) : Table key where
  rows := t.rows.map f
  keyed := by
    have unchanged : (t.rows.map f).map key = t.rows.map key := by
      rw [List.map_map]
      exact List.map_congr_left fun row _ => same row
    rw [unchanged]
    exact t.keyed

/-- The table with the rows that meet a condition rewritten by a function that
keeps keys. -/
def updateWhere (t : Table key) (condition : ρ → Bool) (f : ρ → ρ)
    (same : ∀ row, key (f row) = key row) : Table key :=
  t.mapRows (fun row => if condition row then f row else row) fun row => by
    split
    · exact same row
    · rfl

theorem eq_of_key {first second : ρ} (left : first ∈ t) (right : second ∈ t)
    (same : key first = key second) : first = second :=
  List.inj_on_of_nodup_map t.keyed left right same

section Lookup

variable [DecidableEq κ]

/-- The row with a key. -/
def find? (t : Table key) (k : κ) : Option ρ :=
  t.rows.find? fun row => decide (key row = k)

/-- The table with one more row, unless its key is taken. -/
def insert? (t : Table key) (row : ρ) : Option (Table key) :=
  if fresh : key row ∉ t.rows.map key then
    some ⟨row :: t.rows, List.nodup_cons.mpr ⟨fresh, t.keyed⟩⟩
  else none

/-- The table with one more row, or the table itself if the key is taken. -/
def insertOrIgnore (t : Table key) (row : ρ) : Table key :=
  (t.insert? row).getD t

/-- The table with a row in the place of the one that has its key, or as a new
one. -/
def upsert (t : Table key) (row : ρ) : Table key :=
  (t.insert? row).getD (t.mapRows (fun old => if key old = key row then row else old) fun old => by
    split
    case isTrue same => exact same.symm
    case isFalse => rfl)

/-- The table with those of the rows whose keys are free. -/
def insertAll (t : Table key) (rows : List ρ) : Table key :=
  rows.foldl insertOrIgnore t

/-- The table with the row of a key rewritten by a function that keeps keys. -/
def update (t : Table key) (k : κ) (f : ρ → ρ) (same : ∀ row, key (f row) = key row) :
    Table key :=
  t.mapRows (fun row => if key row = k then f row else row) fun row => by
    split
    · exact same row
    · rfl

theorem find?_eq_some_iff {k : κ} : t.find? k = some row ↔ row ∈ t ∧ key row = k := by
  constructor
  · intro found
    exact ⟨List.mem_of_find?_eq_some found, by simpa using List.find?_some found⟩
  · rintro ⟨member, rfl⟩
    cases found : t.find? (key row) with
    | none =>
      have missing := List.find?_eq_none.mp found row member
      simp at missing
    | some other =>
      have same : key other = key row := by simpa using List.find?_some found
      rw [eq_of_key (List.mem_of_find?_eq_some found) member same]

theorem mem_iff_find? : row ∈ t ↔ t.find? (key row) = some row := by
  simp [find?_eq_some_iff]

theorem find?_eq_none_iff {k : κ} : t.find? k = none ↔ ∀ row ∈ t, key row ≠ k := by
  simp [find?, mem_rows]

theorem find?_key {k : κ} (found : t.find? k = some row) : key row = k :=
  (find?_eq_some_iff.mp found).2

@[simp] theorem find?_empty (k : κ) : (empty : Table key).find? k = none := rfl

theorem rows_insert? (done : t.insert? row = some u) : u.rows = row :: t.rows := by
  unfold insert? at done
  split at done
  · cases done
    rfl
  · cases done

theorem find?_insert? (done : t.insert? row = some u) (k : κ) :
    u.find? k = if key row = k then some row else t.find? k := by
  unfold insert? at done
  split at done
  · cases done
    by_cases same : key row = k
    · simp [find?, same]
    · simp [find?, same]
  · cases done

theorem find?_inserted (done : t.insert? row = some u) : u.find? (key row) = some row := by
  rw [find?_insert? done, if_pos rfl]

theorem find?_of_insert? (done : t.insert? row = some u) : t.find? (key row) = none := by
  unfold insert? at done
  split at done
  case isTrue fresh =>
    refine find?_eq_none_iff.mpr fun other member same => fresh ?_
    exact same ▸ List.mem_map_of_mem member
  case isFalse => cases done

theorem insert?_isSome (absent : t.find? (key row) = none) : ∃ u, t.insert? row = some u := by
  have fresh : key row ∉ t.rows.map key := by
    intro taken
    obtain ⟨other, member, same⟩ := List.mem_map.mp taken
    exact find?_eq_none_iff.mp absent other member same
  exact ⟨_, dif_pos fresh⟩

theorem mem_insert? {row other : ρ} (done : t.insert? row = some u) :
    other ∈ u ↔ other = row ∨ other ∈ t := by
  unfold insert? at done
  split at done
  · cases done
    simp [mem_rows]
  · cases done

theorem find?_insertOrIgnore (k : κ) :
    (t.insertOrIgnore row).find? k =
      (t.find? k).or (if key row = k then some row else none) := by
  unfold insertOrIgnore
  cases done : t.insert? row with
  | none =>
    -- the key is taken, so a lookup of it already answers
    rw [Option.getD_none]
    by_cases same : key row = k
    · cases found : t.find? k with
      | none =>
        obtain ⟨_, inserted⟩ := insert?_isSome (same ▸ found : t.find? (key row) = none)
        rw [done] at inserted
        cases inserted
      | some _ => rfl
    · rw [if_neg same, Option.or_none]
  | some u =>
    rw [Option.getD_some, find?_insert? done]
    by_cases same : key row = k
    · subst same
      rw [find?_of_insert? done, Option.none_or]
    · rw [if_neg same, if_neg same, Option.or_none]

theorem find?_insertAll_isSome (rows : List ρ) (k : κ) :
    ((t.insertAll rows).find? k).isSome =
      ((t.find? k).isSome || rows.any fun row => decide (key row = k)) := by
  unfold insertAll
  induction rows generalizing t with
  | nil => simp
  | cons row rest ih =>
    rw [List.foldl_cons, ih, find?_insertOrIgnore]
    by_cases same : key row = k
    · simp [same]
    · simp [same]

/-- A table whose rows are those of another, rewritten. -/
theorem find?_of_rows_eq_map (rows : u.rows = t.rows.map f) (same : ∀ row, key (f row) = key row)
    (k : κ) : u.find? k = (t.find? k).map f := by
  unfold find?
  rw [rows, List.find?_map]
  simp only [Function.comp_def, same]

theorem find?_mapRows {same : ∀ row, key (f row) = key row} (k : κ) :
    (t.mapRows f same).find? k = (t.find? k).map f :=
  find?_of_rows_eq_map rfl same k

theorem find?_upsert (k : κ) :
    (t.upsert row).find? k = if key row = k then some row else t.find? k := by
  unfold upsert
  cases done : t.insert? row with
  | some u => rw [Option.getD_some, find?_insert? done]
  | none =>
    rw [Option.getD_none, find?_mapRows]
    cases found : t.find? k with
    | none =>
      -- the key of the row is taken, so it is another one
      rw [if_neg, Option.map_none]
      rintro rfl
      obtain ⟨_, inserted⟩ := insert?_isSome found
      rw [done] at inserted
      cases inserted
    | some old =>
      rw [Option.map_some, find?_key found]
      by_cases same : key row = k
      · rw [if_pos same, if_pos same.symm]
      · rw [if_neg same, if_neg (Ne.symm same)]

/-- A table whose rows are those of another, with the row of one key rewritten. -/
theorem find?_of_rows_update {k : κ}
    (rows : u.rows = t.rows.map fun row => if key row = k then f row else row)
    (same : ∀ row, key (f row) = key row) (j : κ) :
    u.find? j = if j = k then (t.find? k).map f else t.find? j := by
  have kept : ∀ row, key (if key row = k then f row else row) = key row := by
    intro row
    split
    · exact same row
    · rfl
  rw [find?_of_rows_eq_map rows kept]
  cases found : t.find? j with
  | none =>
    split
    case isTrue target => rw [← target, found]; rfl
    case isFalse => rfl
  | some row =>
    have named := find?_key found
    split
    case isTrue target => rw [← target, found, Option.map_some, named, if_pos rfl]; rfl
    case isFalse other => rw [Option.map_some, named, if_neg other]

theorem find?_update {k : κ} {same : ∀ row, key (f row) = key row} (j : κ) :
    (t.update k f same).find? j = if j = k then (t.find? k).map f else t.find? j :=
  find?_of_rows_update rfl same j

theorem find?_update_self {k : κ} {same : ∀ row, key (f row) = key row} :
    (t.update k f same).find? k = (t.find? k).map f := by
  rw [find?_update, if_pos rfl]

theorem find?_delete {condition : ρ → Bool} (k : κ) :
    (t.delete condition).find? k = (t.find? k).filter fun row => !condition row := by
  cases found : t.find? k with
  | none =>
    refine find?_eq_none_iff.mpr fun row member => ?_
    exact find?_eq_none_iff.mp found row (mem_delete.mp member).1
  | some row =>
    obtain ⟨member, named⟩ := find?_eq_some_iff.mp found
    cases gone : condition row with
    | false =>
      simpa [Option.filter, gone] using
        find?_eq_some_iff.mpr ⟨mem_delete.mpr ⟨member, gone⟩, named⟩
    | true =>
      simp only [Option.filter, gone]
      refine find?_eq_none_iff.mpr fun other still same => ?_
      obtain ⟨there, kept⟩ := mem_delete.mp still
      rw [eq_of_key there member (same.trans named.symm)] at kept
      simp [kept] at gone

/-- Deleting the rows of some keys. -/
theorem find?_delete_contains {keys : List κ} (k : κ) :
    (t.delete fun row => keys.contains (key row)).find? k =
      if keys.contains k = true then none else t.find? k := by
  rw [find?_delete]
  cases found : t.find? k with
  | none => simp
  | some row =>
    rw [Option.filter_some, find?_key found]
    cases keys.contains k <;> rfl

/-! ## A table in a larger state -/

section Statements

open Fallible

variable {ε σ : Type} {part : σ → Table key} {put : σ → Table key → σ}

/-- Inserts a row, or fails if its key is taken. -/
def insertRow (part : σ → Table key) (put : σ → Table key → σ) (row : ρ) (error : ε) :
    EStateM ε σ Unit := do
  let s ← get
  let table ← demand ((part s).insert? row) error
  set (put s table)

theorem run_insertRow_eq_ok {e : ε} {s t : σ} {u : Unit} :
    (insertRow part put row e).run s = .ok u t ↔
      ∃ table, (part s).insert? row = some table ∧ put s table = t := by
  unfold insertRow
  rw [run_get_bind, run_demand_bind_eq_ok]
  constructor
  · rintro ⟨table, free, done⟩
    cases done
    exact ⟨table, free, rfl⟩
  · rintro ⟨table, free, rfl⟩
    exact ⟨table, free, rfl⟩

end Statements

end Lookup

end Table

end ResumeIr.Foundation
