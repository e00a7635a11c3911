import CyberLegends.DataAnalysis.Processor
import CyberLegends.Lib.Table

/-! What is read of an upload: each row has the columns of the table, and its cells are parsed one by
one. -/

namespace CyberLegends.DataAnalysis

open CyberLegends.Core Lib

attribute [local instance] lawfulBEq_text

/-! ### Tables -/

/-- What holds of a table that is read from an upload. -/
structure WellFormed (table : Table) : Prop where
  nodup : table.columns.Nodup
  nonempty : table.rows ≠ []
  keys : ∀ row ∈ table.rows, row.map Prod.fst = table.columns

theorem rowOf_keys (columns record : List Text) : (rowOf columns record).map Prod.fst = columns := by
  unfold rowOf
  rw [List.map_fst_zip]
  rw [List.length_append, List.length_map, List.length_replicate]
  omega

section
variable {settings : Settings} {columns : List Text} {ending : Option Csv.Error}

theorem readRows_keys {records : List (List Text)} {index : ℕ} {rows : List Row}
    (read : readRows settings columns ending index records = .ok rows) :
    ∀ row ∈ rows, row.map Prod.fst = columns := by
  induction records generalizing index rows with
  | nil =>
    unfold readRows at read
    split at read
    · cases read
      exact fun row member => absurd member List.not_mem_nil
    · cases read
  | cons record records ih =>
    match record, read with
    | [], read => exact ih read
    | cell :: cells, read =>
      simp only [readRows] at read
      split at read
      · cases read
      · split at read
        · cases read
        next rest later =>
          cases read
          intro row member
          rcases List.mem_cons.mp member with rfl | there
          · exact rowOf_keys columns _
          · exact ih later row there

end

theorem readTable_wellFormed {lower : Text → Text} {settings : Settings} {content : ByteArray}
    {filename : Text} {table : Table} (read : readTable lower settings content filename = .ok table) :
    WellFormed table := by
  unfold readTable at read
  split at read
  · cases read
  · split at read
    · cases read
    · split at read
      · cases read
      · split at read
        · cases read
        · cases read
        next header records ending _ =>
          dsimp only at read
          split at read
          · cases read
          next accepted =>
            split at read
            · cases read
            · cases read
            next rows nonempty later =>
              cases read
              rw [not_or, not_not] at accepted
              exact {
                nodup := accepted.1
                nonempty := fun none => nonempty (none ▸ rfl)
                keys := readRows_keys later }

/-! ### Parsed rows -/

/-- A row with its numbers, where each of them can be read. -/
def parsedRow (row : Row) : NumericRow :=
  row.map fun cell => (cell.1, (cellOf cell.1 cell.2).getD .missing)

/-- Every cell of the row can be read. -/
def Readable (row : Row) : Prop := ∀ cell ∈ row, (cellOf cell.1 cell.2).isSome

theorem numericRow_eq_ok {row : Row} {rowNumber : ℕ} {parsed : NumericRow} :
    numericRow row rowNumber = .ok parsed ↔ Readable row ∧ parsed = parsedRow row := by
  unfold numericRow Readable parsedRow
  rw [mapM_eq_ok]
  induction row generalizing parsed with
  | nil => simp
  | cons cell row ih =>
    obtain ⟨column, value⟩ := cell
    rw [List.forall₂_cons_left_iff]
    simp only [ih]
    cases read : cellOf column value with
    | none => simp [read]
    | some found =>
      simp only [Except.ok.injEq, List.forall_mem_cons, read, Option.isSome_some, true_and,
        List.map_cons, Option.getD_some]
      constructor
      · rintro ⟨_, _, rfl, ⟨rest, rfl⟩, rfl⟩
        exact ⟨rest, rfl⟩
      · rintro ⟨rest, rfl⟩
        exact ⟨_, _, rfl, ⟨rest, rfl⟩, rfl⟩

theorem parseRows_eq_ok {rows : List Row} {parsed : List NumericRow} :
    parseRows rows = .ok parsed ↔ (∀ row ∈ rows, Readable row) ∧ parsed = rows.map parsedRow := by
  unfold parseRows
  rw [mapM_eq_ok]
  generalize 0 = start
  induction rows generalizing parsed start with
  | nil => simp
  | cons row rows ih =>
    rw [List.zipIdx_cons, List.forall₂_cons_left_iff]
    constructor
    · rintro ⟨_, _, first, rest, rfl⟩
      obtain ⟨readable, rfl⟩ := numericRow_eq_ok.mp first
      obtain ⟨others, rfl⟩ := (ih (start + 1)).mp rest
      exact ⟨List.forall_mem_cons.mpr ⟨readable, others⟩, rfl⟩
    · rintro ⟨all, rfl⟩
      obtain ⟨readable, others⟩ := List.forall_mem_cons.mp all
      exact ⟨_, _, numericRow_eq_ok.mpr ⟨readable, rfl⟩, (ih (start + 1)).mpr ⟨others, rfl⟩, rfl⟩

theorem lookup_parsedRow (row : Row) (column : Text) :
    (parsedRow row).lookup column
      = (row.lookup column).map fun value => (cellOf column value).getD .missing := by
  unfold parsedRow
  induction row with
  | nil => rfl
  | cons cell row ih =>
    obtain ⟨name, value⟩ := cell
    rw [List.map_cons, List.lookup_cons, List.lookup_cons]
    by_cases same : column = name
    · subst same
      simp
    · have other : (column == name) = false := beq_false_of_ne same
      simp only [other, ih]

/-! ### Columns -/

/-- The number in a cell of a numeric column. -/
def numberIn (value : Text) : Option Decimal :=
  if value = [] then none else readDecimal (value.filter (· ≠ ','))

/-- The numbers in a column of the table. -/
def columnNumbers (rows : List Row) (column : Text) : List Decimal :=
  rows.filterMap fun row => (row.lookup column).bind numberIn

theorem numbers_parsed (rows : List Row) {column : Text} (numeric : column ∈ numericColumns) :
    numbers (rows.map parsedRow) column = columnNumbers rows column := by
  unfold numbers columnNumbers
  rw [List.filterMap_map]
  refine List.filterMap_congr fun row _ => ?_
  simp only [Function.comp_apply, lookup_parsedRow]
  cases row.lookup column with
  | none => rfl
  | some value =>
    simp only [Option.map_some, cellOf, numeric, not_true_eq_false, if_false, Option.bind_some,
      numberIn]
    by_cases blank : value = []
    · simp [blank]
    · simp only [blank, if_false]
      cases readDecimal (value.filter (· ≠ ',')) with
      | none => rfl
      | some d => rfl

theorem any_parsedRow (row : Row) (name : Text) :
    ((parsedRow row).any fun cell => cell.1 = name) = decide (name ∈ row.map Prod.fst) := by
  unfold parsedRow
  rw [List.any_map, Bool.eq_iff_iff, List.any_eq_true]
  simp [eq_comm]

/-- The name of the segment that a row of the table is in. -/
def segmentName (column : Text) (row : Row) : Text :=
  match row.lookup column with
  | some (c :: chars) => c :: chars
  | _ => "unknown".toList

theorem not_numeric {column : Text} (segmenting : column ∈ segmentColumns) :
    column ∉ numericColumns := by
  revert column
  decide

theorem segmentOf_parsed {column : Text} (segmenting : column ∈ segmentColumns) (row : Row) :
    segmentOf column (parsedRow row) = segmentName column row := by
  unfold segmentOf segmentName
  rw [lookup_parsedRow]
  cases row.lookup column with
  | none => rfl
  | some value =>
    simp only [Option.map_some, cellOf, not_numeric segmenting, not_false_eq_true, if_true,
      Option.getD_some]
    cases value with
    | nil => rfl
    | cons c chars => rfl

/-- The column that tells the segments of a table apart. -/
def segmentColumnOf (table : Table) : Option Text :=
  segmentColumns.find? fun name => decide (name ∈ table.columns)

theorem segmentColumn_parsed {table : Table} (wellFormed : WellFormed table) :
    segmentColumn (table.rows.map parsedRow) = segmentColumnOf table := by
  obtain ⟨row, rows, split⟩ := List.exists_cons_of_ne_nil wellFormed.nonempty
  have keys := wellFormed.keys row (split ▸ List.mem_cons_self)
  unfold segmentColumn segmentColumnOf
  rw [split, List.map_cons]
  simp only [any_parsedRow, keys]

end CyberLegends.DataAnalysis
