/-! # Tables

A table holds at most one value for each key. Rows are kept with the newest key first, and no key
stands in two of them, so the number of rows is the number of keys.
-/

namespace BearerAuth

/-- Values by key. -/
structure Table (κ α : Type) where
  rows : List (κ × α)
  distinct : (rows.map Prod.fst).Nodup

namespace Table

variable {κ α : Type}

/-- No rows. -/
def empty : Table κ α := ⟨[], List.nodup_nil⟩

instance : Inhabited (Table κ α) := ⟨empty⟩

/-- How many keys have a value. -/
def size (t : Table κ α) : Nat := t.rows.length

/-- The rows that satisfy the condition. -/
def filter (t : Table κ α) (p : κ → α → Bool) : Table κ α :=
  ⟨t.rows.filter fun row => p row.1 row.2, t.distinct.sublist (List.filter_sublist.map _)⟩

variable [DecidableEq κ]

/-- The value of a key. -/
def get? (t : Table κ α) (key : κ) : Option α := t.rows.lookup key

/-- The key has a value. -/
def contains (t : Table κ α) (key : κ) : Bool := (t.get? key).isSome

/-- Without the value of a key. -/
def erase (t : Table κ α) (key : κ) : Table κ α := t.filter fun k _ => k ≠ key

theorem not_mem_erase (t : Table κ α) (key : κ) : key ∉ (t.erase key).rows.map Prod.fst := by
  simp [erase, filter]

/-- Gives a key a value in place of the one it may have had. -/
def insert (t : Table κ α) (key : κ) (value : α) : Table κ α :=
  ⟨(key, value) :: (t.erase key).rows,
    List.nodup_cons.mpr ⟨t.not_mem_erase key, (t.erase key).distinct⟩⟩

end Table

end BearerAuth
