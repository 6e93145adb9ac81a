import Mathlib.Data.List.Sort

/-!
# Tables with a primary key

A table is a list of rows no two of which have the same key.  Writing a row replaces the row with
its key, or is added when there is none.
-/

namespace ZeroShield.Foundation

variable {Key Row : Type}

/-- Rows with distinct keys. -/
structure Table (key : Row → Key) where
  /-- The rows, in the order in which their keys were first written. -/
  rows : List Row
  /-- No two rows have the same key. -/
  distinct : (rows.map key).Nodup

namespace Table

section Upsert

variable [DecidableEq Key] (key : Row → Key)

/-- Replace the row with the same key, or add the row at the end. -/
def upsertRow (row : Row) : List Row → List Row
  | [] => [row]
  | other :: rows => if key other = key row then row :: rows else other :: upsertRow row rows

theorem map_key_upsertRow (row : Row) (rows : List Row) :
    (upsertRow key row rows).map key =
      if key row ∈ rows.map key then rows.map key else rows.map key ++ [key row] := by
  induction rows with
  | nil => simp [upsertRow]
  | cons other rows ih =>
      by_cases same : key other = key row
      · simp [upsertRow, same]
      · have skipped : upsertRow key row (other :: rows) = other :: upsertRow key row rows :=
          if_neg same
        have member : key row ∈ (other :: rows).map key ↔ key row ∈ rows.map key := by
          simp [Ne.symm same]
        rw [skipped, List.map_cons, ih]
        by_cases present : key row ∈ rows.map key
        · rw [if_pos present, if_pos (member.mpr present), List.map_cons]
        · rw [if_neg present, if_neg (mt member.mp present), List.map_cons, List.cons_append]

theorem find?_upsertRow (row : Row) (rows : List Row) (wanted : Key) :
    (upsertRow key row rows).find? (fun other => key other = wanted) =
      if key row = wanted then some row else rows.find? fun other => key other = wanted := by
  induction rows with
  | nil => by_cases hit : key row = wanted <;> simp [upsertRow, hit]
  | cons other rows ih =>
      by_cases same : key other = key row
      · have replaced : upsertRow key row (other :: rows) = row :: rows := if_pos same
        rw [replaced]
        by_cases hit : key row = wanted <;> simp [same, hit]
      · have skipped : upsertRow key row (other :: rows) = other :: upsertRow key row rows :=
          if_neg same
        rw [skipped]
        by_cases hit : key row = wanted
        · have miss : key other ≠ wanted := fun equal => same (equal.trans hit.symm)
          simp [hit, miss, ih]
        · by_cases first : key other = wanted <;> simp [hit, first, ih]

end Upsert

variable {key : Row → Key}

/-- The table without rows. -/
def empty : Table key := ⟨[], by simp⟩

@[simp] theorem rows_empty : (empty : Table key).rows = [] := rfl

variable [DecidableEq Key]

/-- The row with a key. -/
def lookup (table : Table key) (wanted : Key) : Option Row :=
  table.rows.find? fun row => key row = wanted

/-- Write a row under its key. -/
def upsert (table : Table key) (row : Row) : Table key where
  rows := upsertRow key row table.rows
  distinct := by
    rw [map_key_upsertRow]
    split
    case isTrue => exact table.distinct
    case isFalse absent =>
      rw [List.nodup_append]
      refine ⟨table.distinct, by simp, ?_⟩
      rintro other member _ last rfl
      exact absent (List.mem_singleton.mp last ▸ member)

@[simp] theorem lookup_empty (wanted : Key) : (empty : Table key).lookup wanted = none := rfl

@[simp] theorem lookup_upsert (table : Table key) (row : Row) :
    (table.upsert row).lookup (key row) = some row := by
  simp [lookup, upsert, find?_upsertRow]

theorem lookup_upsert_of_eq {table : Table key} {row : Row} {wanted : Key}
    (same : key row = wanted) : (table.upsert row).lookup wanted = some row :=
  same ▸ lookup_upsert table row

theorem lookup_upsert_ne {table : Table key} {row : Row} {wanted : Key} (other : key row ≠ wanted) :
    (table.upsert row).lookup wanted = table.lookup wanted := by
  simp [lookup, upsert, find?_upsertRow, other]

/-- A row found under a key has that key. -/
theorem key_of_lookup {table : Table key} {wanted : Key} {row : Row}
    (stored : table.lookup wanted = some row) : key row = wanted := by
  simpa using List.find?_some stored

theorem mem_rows_of_lookup {table : Table key} {wanted : Key} {row : Row}
    (stored : table.lookup wanted = some row) : row ∈ table.rows :=
  List.mem_of_find?_eq_some stored

/-- Rows are exactly what can be looked up. -/
theorem mem_rows {table : Table key} {row : Row} :
    row ∈ table.rows ↔ table.lookup (key row) = some row := by
  refine ⟨fun member => ?_, mem_rows_of_lookup⟩
  obtain ⟨found, stored⟩ : ∃ found, table.lookup (key row) = some found := by
    refine Option.isSome_iff_exists.mp (List.find?_isSome.mpr ⟨row, member, by simp⟩)
  have same : key found = key row := key_of_lookup stored
  rw [stored, List.inj_on_of_nodup_map table.distinct (mem_rows_of_lookup stored) member same]

/-- A row found after an upsert is the new one, or was found before under another key. -/
theorem lookup_upsert_cases {table : Table key} {row found : Row} {wanted : Key}
    (stored : (table.upsert row).lookup wanted = some found) :
    (key row = wanted ∧ found = row) ∨ (key row ≠ wanted ∧ table.lookup wanted = some found) := by
  by_cases same : key row = wanted
  · subst same
    rw [lookup_upsert, Option.some.injEq] at stored
    exact Or.inl ⟨rfl, stored.symm⟩
  · rw [lookup_upsert_ne same] at stored
    exact Or.inr ⟨same, stored⟩

theorem mem_rows_upsert {table : Table key} {row found : Row}
    (member : found ∈ (table.upsert row).rows) :
    found = row ∨ (key row ≠ key found ∧ found ∈ table.rows) := by
  rcases lookup_upsert_cases (mem_rows.mp member) with ⟨-, rfl⟩ | ⟨other, stored⟩
  · exact Or.inl rfl
  · exact Or.inr ⟨other, mem_rows_of_lookup stored⟩

theorem mem_rows_upsert_self (table : Table key) (row : Row) : row ∈ (table.upsert row).rows :=
  mem_rows.mpr (lookup_upsert table row)

theorem mem_rows_upsert_of_ne {table : Table key} {row found : Row} (present : found ∈ table.rows)
    (other : key row ≠ key found) : found ∈ (table.upsert row).rows := by
  rw [mem_rows, lookup_upsert_ne other]
  exact mem_rows.mp present

/-! ## Updating and deleting rows -/

/-- Update the row with a key, if there is one, without changing its key. -/
def modify (table : Table key) (wanted : Key) (f : Row → Row)
    (kept : ∀ row, key (f row) = key row) :
    Table key where
  rows := table.rows.map fun row => if key row = wanted then f row else row
  distinct := by
    have same : (key ∘ fun row => if key row = wanted then f row else row) = key := by
      funext row
      rw [Function.comp_apply, apply_ite key, kept, ite_self]
    rw [List.map_map, same]
    exact table.distinct

/-- Delete the rows which do not satisfy a condition. -/
def restrict (table : Table key) (keep : Row → Bool) : Table key where
  rows := table.rows.filter keep
  distinct := table.distinct.sublist (List.filter_sublist.map key)

theorem lookup_modify {table : Table key} {wanted : Key} {f : Row → Row}
    (kept : ∀ row, key (f row) = key row) (other : Key) :
    (table.modify wanted f kept).lookup other =
      (table.lookup other).map fun row => if other = wanted then f row else row := by
  have same : ((fun row => decide (key row = other)) ∘
      fun row => if key row = wanted then f row else row) =
        fun row => decide (key row = other) := by
    funext row
    rw [Function.comp_apply, apply_ite key, kept, ite_self]
  simp only [lookup, modify, List.find?_map, same]
  cases found : table.rows.find? fun row => key row = other with
  | none => rfl
  | some row =>
      have hit : key row = other := key_of_lookup found
      rw [Option.map_some, Option.map_some, hit]

private theorem find?_filter {rows : List Row} (distinct : (rows.map key).Nodup)
    (keep : Row → Bool) (wanted : Key) :
    (rows.filter keep).find? (fun row => key row = wanted) =
      (rows.find? fun row => key row = wanted).filter keep := by
  induction rows with
  | nil => rfl
  | cons row rows ih =>
      obtain ⟨fresh, rest⟩ := List.nodup_cons.mp distinct
      by_cases hit : key row = wanted
      · have gone : (rows.filter keep).find? (fun row => key row = wanted) = none := by
          rw [List.find?_eq_none]
          intro other member
          have present : key other ∈ rows.map key :=
            List.mem_map_of_mem (List.mem_of_mem_filter member)
          simp only [decide_eq_true_eq]
          rintro rfl
          exact fresh (hit ▸ present)
        by_cases kept : keep row = true
        · simp [hit, kept, Option.filter]
        · simp [hit, kept, gone, Option.filter]
      · by_cases kept : keep row = true
        · simp [hit, kept, ih rest]
        · simp [hit, kept, ih rest]

theorem lookup_restrict {table : Table key} (keep : Row → Bool) (wanted : Key) :
    (table.restrict keep).lookup wanted = (table.lookup wanted).filter keep :=
  find?_filter table.distinct keep wanted

end Table

end ZeroShield.Foundation
