import ZeroShield.Foundation.Table

/-!
# Reading records

The fields of a record are read from a dictionary one by one, and all errors are reported together.
-/

namespace ZeroShield.Foundation

/-- A value, or all errors found while it was read. -/
def Reading (ε α : Type) : Type :=
  Except (List ε) α

namespace Reading

variable {ε α β : Type}

instance : Applicative (Reading ε) where
  pure value := Except.ok value
  seq first next :=
    match first, next () with
    | .ok f, .ok value => .ok (f value)
    | .ok _, .error errors => .error errors
    | .error errors, .ok _ => .error errors
    | .error errors, .error others => .error (errors ++ others)

/-- Report one error. -/
def reject (error : ε) : Reading ε α :=
  Except.error [error]

/-- Whether the reading returns a value. -/
def Reads (reading : Reading ε α) (value : α) : Prop :=
  reading = Except.ok value

@[simp] theorem reads_pure {value result : α} :
    Reads (pure value : Reading ε α) result ↔ value = result :=
  Except.ok.injEq value result ▸ Iff.rfl

@[simp] theorem not_reads_reject {error : ε} {result : α} :
    ¬ Reads (reject error : Reading ε α) result := nofun

/-- Two readings succeed together when each of them does. -/
theorem reads_seq {function : Reading ε (α → β)} {argument : Reading ε α} {result : β} :
    Reads (function <*> argument) result ↔
      ∃ f value, Reads function f ∧ Reads argument value ∧ f value = result := by
  cases function with
  | error errors => cases argument <;> exact ⟨nofun, fun ⟨_, _, reads, _⟩ => by cases reads⟩
  | ok f =>
      cases argument with
      | error errors => exact ⟨nofun, fun ⟨_, _, _, reads, _⟩ => by cases reads⟩
      | ok value =>
          constructor
          · rintro ⟨⟩
            exact ⟨f, value, rfl, rfl, rfl⟩
          · rintro ⟨_, _, ⟨⟩, ⟨⟩, rfl⟩
            rfl

theorem reads_map {f : α → β} {argument : Reading ε α} {result : β} :
    Reads (f <$> argument) result ↔ ∃ value, Reads argument value ∧ f value = result := by
  change Reads (pure f <*> argument) result ↔ _
  rw [reads_seq]
  simp

end Reading

/-! ## Dictionaries -/

/-- A dictionary: its keys, in the order in which they were first set, with their values. -/
abbrev Dict (Value : Type) : Type :=
  Table (Prod.fst : String × Value → String)

namespace Dict

variable {Value : Type}

/-- Set a key to a value. -/
def set (dict : Dict Value) (name : String) (value : Value) : Dict Value :=
  dict.upsert (name, value)

/-- Set each key of a list of entries; of two entries with one key the later one stays. -/
def update (dict : Dict Value) (entries : List (String × Value)) : Dict Value :=
  entries.foldl (fun dict entry => dict.set entry.1 entry.2) dict

/-- The value of a key. -/
def get (dict : Dict Value) (name : String) : Option Value :=
  (dict.lookup name).map (·.2)

theorem get_set (dict : Dict Value) (name wanted : String) (value : Value) :
    (dict.set name value).get wanted = if name = wanted then some value else dict.get wanted := by
  by_cases same : name = wanted
  · subst same
    simp [get, set]
  · simp [get, set, Table.lookup_upsert_ne, same]

/-- A new key is added at the end. -/
theorem upsertRow_of_new {entry : String × Value} {entries : List (String × Value)}
    (new : entry.1 ∉ entries.map Prod.fst) :
    Table.upsertRow Prod.fst entry entries = entries ++ [entry] := by
  induction entries with
  | nil => rfl
  | cons other entries ih =>
      obtain ⟨different, later⟩ := not_or.mp (mt List.mem_cons.mpr new)
      rw [Table.upsertRow, if_neg (Ne.symm different), ih later, List.cons_append]

/-- Entries with new keys are added in order. -/
theorem rows_update {dict : Dict Value} {entries : List (String × Value)}
    (distinct : ((dict.rows ++ entries).map Prod.fst).Nodup) :
    (dict.update entries).rows = dict.rows ++ entries := by
  induction entries generalizing dict with
  | nil => exact (List.append_nil _).symm
  | cons entry entries ih =>
      have new : entry.1 ∉ dict.rows.map Prod.fst := by
        rw [List.map_append, List.nodup_append] at distinct
        exact fun member => distinct.2.2 _ member _ List.mem_cons_self rfl
      have added : (dict.set entry.1 entry.2).rows = dict.rows ++ [entry] := upsertRow_of_new new
      have rest : (dict.rows ++ [entry]) ++ entries = dict.rows ++ entry :: entries := by simp
      have later := ih (by rw [added, rest]; exact distinct)
      rw [added, rest] at later
      exact later

end Dict

end ZeroShield.Foundation
