import CyberLegends.Lib.Table

/-! Sessions over a table: rows that a session has loaded stay in it as they were loaded, a locking
read does not refresh them, and a flush writes the attributes that the session has changed. -/

namespace CyberLegends.Lib

/-! ### The flush of an attribute -/

/-- The committed value of an attribute after a session that loaded the value `loaded` and assigned
`assigned` flushes: an attribute that has not changed is not written. -/
def flush {α : Type*} [DecidableEq α] (loaded assigned committed : α) : α :=
  if assigned = loaded then committed else assigned

section

variable {α : Type*} [DecidableEq α] {loaded assigned committed : α}

@[simp] theorem flush_same : flush loaded loaded committed = committed := if_pos rfl

theorem flush_changed (changed : assigned ≠ loaded) :
    flush loaded assigned committed = assigned := if_neg changed

/-- A flush over the value that was loaded writes the assigned value. -/
@[simp] theorem flush_fresh : flush loaded assigned loaded = assigned := by
  unfold flush
  split
  · exact Eq.symm ‹_›
  · rfl

/-- A flush leaves the committed value exactly if the session has not changed the attribute, or has
changed it to that value. -/
theorem flush_eq_committed :
    flush loaded assigned committed = committed ↔ assigned = loaded ∨ assigned = committed := by
  unfold flush
  split <;> simp [*]

theorem flush_cases (loaded assigned committed : α) :
    flush loaded assigned committed = committed ∧ assigned = loaded ∨
      flush loaded assigned committed = assigned := by
  unfold flush
  split
  · exact .inl ⟨rfl, ‹_›⟩
  · exact .inr rfl

end

/-! ### Rows that a session has loaded -/

namespace Table

variable {κ ρ : Type*} [DecidableEq κ]

/-- The row that a session sees when it gets it by its key: the one it has loaded, or else the
committed one. -/
def get (loaded committed : Table κ ρ) (k : κ) : Option ρ :=
  (loaded.lookup k).or (committed.lookup k)

/-- The row that a session sees when it locks it: the lock finds the committed row, but a row that
the session has loaded is not refreshed. -/
def getForUpdate (loaded committed : Table κ ρ) (k : κ) : Option ρ :=
  (committed.lookup k).map fun row => (loaded.lookup k).getD row

/-- The rows that a session has loaded once it has got one more. -/
def load (loaded committed : Table κ ρ) (k : κ) : Table κ ρ :=
  match get loaded committed k with
  | none => loaded
  | some row => loaded.insert k row

variable {loaded committed : Table κ ρ} {k : κ} {row : ρ}

theorem getForUpdate_cases (h : getForUpdate loaded committed k = some row) :
    ∃ current, committed.lookup k = some current ∧
      (loaded.lookup k = some row ∨ loaded.lookup k = none ∧ row = current) := by
  obtain ⟨current, found, rfl⟩ := Option.map_eq_some_iff.mp h
  refine ⟨current, found, ?_⟩
  cases held : loaded.lookup k with
  | none => exact .inr ⟨rfl, rfl⟩
  | some row => exact .inl rfl

/-- A session that has loaded nothing sees the committed row. -/
@[simp] theorem getForUpdate_empty : getForUpdate ∅ committed k = committed.lookup k := by
  unfold getForUpdate
  cases committed.lookup k <;> simp

end Table

end CyberLegends.Lib
