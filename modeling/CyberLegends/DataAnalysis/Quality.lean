import CyberLegends.DataAnalysis.Exact
import CyberLegends.DataAnalysis.Tables

/-! The laws of the quality figures and of the segments, over all tables with exact columns and all
orders of their rows. -/

namespace CyberLegends.DataAnalysis

open CyberLegends.Core Lib Context

/-- The numeric cells of a table are finite, of at most six places, and in each column together below
`10 ^ 21`. -/
def ExactTable (table : Table) : Prop :=
  ∀ column ∈ numericColumns, Exact (columnNumbers table.rows column)

/-- A reported value, where an absent one counts as zero. -/
def amount : Option Text → ℚ
  | none => 0
  | some text => (reported text).getD 0

/-- The sums of a report with the columns that they are of. -/
def reportedSums : List (Text × (Metrics → Option Text)) :=
  [("impressions".toList, Metrics.impressions), ("clicks".toList, Metrics.clicks),
    ("spend".toList, Metrics.spend), ("conversions".toList, Metrics.conversions),
    ("revenue".toList, Metrics.revenue)]

/-! ### Reported sums -/

theorem reportedSums_numeric : ∀ figure ∈ reportedSums, figure.1 ∈ numericColumns := by
  simp only [reportedSums, List.forall_mem_cons]
  decide

section
variable {rows : List NumericRow} {found : Metrics} {column : Text}

theorem metrics_rows (computed : metrics rows = .ok found) : found.rows = rows.length := by
  simp only [metrics, bind_eq_ok, pure_eq_ok] at computed
  obtain ⟨_, -, _, -, _, -, _, -, _, -, _, -, _, -, _, -, _, -, _, -, _, -, _, -, _, -, _, -, _, -, _,
    -, _, -, rfl⟩ := computed
  rfl

theorem sum_answer {a : Option Decimal} {text : Option Text} (exact : Exact (numbers rows column))
    (added : sum rows column = .ok a) (shown : optionalDecimal a = .ok text) :
    text = columnText rows column := by
  have answer := optionalDecimal_sum exact
  rw [added, ok_bind, shown] at answer
  exact Except.ok.inj answer

theorem metrics_sums (computed : metrics rows = .ok found)
    (exact : ∀ column ∈ numericColumns, Exact (numbers rows column)) :
    ∀ figure ∈ reportedSums, figure.2 found = columnText rows figure.1 := by
  simp only [metrics, bind_eq_ok, pure_eq_ok] at computed
  obtain ⟨_, i, _, c, _, s, _, v, _, -, _, r, _, i', _, c', _, s', _, v', _, r', _, -, _, -, _, -, _, -,
    _, -, _, -, rfl⟩ := computed
  simp only [reportedSums, List.forall_mem_cons]
  refine ⟨?_, ?_, ?_, ?_, ?_, by simp⟩
  · exact sum_answer (exact _ (by decide)) i i'
  · exact sum_answer (exact _ (by decide)) c c'
  · exact sum_answer (exact _ (by decide)) s s'
  · exact sum_answer (exact _ (by decide)) v v'
  · exact sum_answer (exact _ (by decide)) r r'

theorem amount_columnText (exact : Exact (numbers rows column)) :
    amount (columnText rows column) = total (numbers rows column) := by
  unfold columnText
  split
  next blank =>
    rw [blank]
    rfl
  · simp only [amount, reported_sixPlaces exact.holds, Option.getD_some]

theorem columnText_reported (exact : Exact (numbers rows column)) :
    ∀ text, columnText rows column = some text → (reported text).isSome := by
  intro text shown
  unfold columnText at shown
  split at shown
  · cases shown
  · cases shown
    rw [reported_sixPlaces exact.holds]
    rfl

theorem columnText_eq_none_iff : columnText rows column = none ↔ numbers rows column = [] := by
  unfold columnText
  split
  next blank => simp [blank]
  next nonempty => simp [nonempty]

/-- The numbers of some of the rows are exact when those of all of them are. -/
theorem exact_filter (exact : Exact (numbers rows column)) (p : NumericRow → Bool) :
    Exact (numbers (rows.filter p) column) := exact.sublist (List.filter_sublist.filterMap _)

/-! ### Segments -/

theorem numbers_cons (row : NumericRow) (rows : List NumericRow) (column : Text) :
    numbers (row :: rows) column = numbers [row] column ++ numbers rows column := by
  unfold numbers
  rw [← List.filterMap_append]
  rfl

theorem total_numbers (rows : List NumericRow) (column : Text) :
    total (numbers rows column) = (rows.map fun row => total (numbers [row] column)).sum := by
  induction rows with
  | nil => rfl
  | cons row rows ih =>
    rw [numbers_cons, List.map_cons, List.sum_cons, ← ih]
    unfold total
    rw [List.map_append, List.sum_append]

theorem segmentKeys_nodup (column : Text) (rows : List NumericRow) :
    (segmentKeys column rows).Nodup :=
  (List.perm_insertionSort _ _).nodup_iff.mpr (List.nodup_dedup _)

theorem mem_segmentKeys {row : NumericRow} (column : Text) (member : row ∈ rows) :
    segmentOf column row ∈ segmentKeys column rows := by
  unfold segmentKeys
  rw [List.mem_insertionSort, List.mem_dedup]
  exact List.mem_map_of_mem member

/-- The segments are the groups of the rows, with the figures of each. -/
theorem segments_of {column : Text} {found : List Segment}
    (segmenting : segmentColumn rows = some column) (computed : segments rows = .ok found) :
    found.map Segment.segment = segmentKeys column rows ∧
      ∀ segment ∈ found, segment.segmentBy = column ∧
        metrics (rows.filter (segmentOf column · = segment.segment)) = .ok segment.metrics := by
  unfold segments at computed
  rw [segmenting] at computed
  have each := mapM_eq_ok.mp computed
  clear computed
  generalize segmentKeys column rows = keys at each ⊢
  induction each with
  | nil => simp
  | cons answered rest ih =>
    obtain ⟨figures, group, shown⟩ := bind_eq_ok.mp answered
    obtain rfl := pure_eq_ok.mp shown
    refine ⟨?_, ?_⟩
    · rw [List.map_cons, ih.1]
    · rw [List.forall_mem_cons]
      exact ⟨⟨rfl, group⟩, ih.2⟩

/-- The figures of the segments add up to those of all rows. -/
theorem sums_conserved {by_column : Text} {summary : Metrics} {found : List Segment}
    (exact : ∀ column ∈ numericColumns, Exact (numbers rows column))
    (segmenting : segmentColumn rows = some by_column) (overall : metrics rows = .ok summary)
    (computed : segments rows = .ok found) :
    ∀ figure ∈ reportedSums,
      (found.map fun segment => amount (figure.2 segment.metrics)).sum = amount (figure.2 summary) ∧
        (figure.2 summary = none ↔ ∀ segment ∈ found, figure.2 segment.metrics = none) := by
  intro figure reported
  have numeric := reportedSums_numeric figure reported
  obtain ⟨keys, groups⟩ := segments_of segmenting computed
  have group_exact : ∀ segment : Segment, ∀ column ∈ numericColumns,
      Exact (numbers (rows.filter (segmentOf by_column · = segment.segment)) column) :=
    fun segment column numeric => exact_filter (exact column numeric) _
  have shown : ∀ segment ∈ found, figure.2 segment.metrics
      = columnText (rows.filter (segmentOf by_column · = segment.segment)) figure.1 :=
    fun segment member => metrics_sums (groups segment member).2 (group_exact segment) figure reported
  rw [metrics_sums overall exact figure reported]
  refine ⟨?_, ?_⟩
  · rw [amount_columnText (exact _ numeric)]
    calc (found.map fun segment => amount (figure.2 segment.metrics)).sum
        = (found.map fun segment =>
            total (numbers (rows.filter (segmentOf by_column · = segment.segment)) figure.1)).sum := by
          refine congrArg List.sum (List.map_congr_left fun segment member => ?_)
          rw [shown segment member, amount_columnText (group_exact segment _ numeric)]
      _ = ((segmentKeys by_column rows).map fun key =>
            ((rows.filter (segmentOf by_column · = key)).map fun row =>
              total (numbers [row] figure.1)).sum).sum := by
          rw [← keys, List.map_map]
          refine congrArg List.sum (List.map_congr_left fun segment _ => ?_)
          exact total_numbers _ _
      _ = total (numbers rows figure.1) := by
          rw [total_numbers rows]
          exact sum_groups _ _ (segmentKeys_nodup _ _) fun row member => mem_segmentKeys _ member
  · rw [columnText_eq_none_iff]
    constructor
    · intro blank segment member
      rw [shown segment member, columnText_eq_none_iff]
      have part : (numbers (rows.filter (segmentOf by_column · = segment.segment)) figure.1).Sublist
          (numbers rows figure.1) := List.filter_sublist.filterMap _
      exact List.eq_nil_of_sublist_nil (blank ▸ part)
    · intro blank
      by_contra nonempty
      obtain ⟨d, number⟩ := List.exists_mem_of_ne_nil _ nonempty
      obtain ⟨row, member, value⟩ := List.mem_filterMap.mp number
      -- the row that has the number is in a segment, which has it too
      have key := mem_segmentKeys by_column member
      rw [← keys] at key
      obtain ⟨segment, there, same⟩ := List.mem_map.mp key
      have none := blank segment there
      rw [shown segment there, columnText_eq_none_iff] at none
      have grouped : row ∈ rows.filter (segmentOf by_column · = segment.segment) :=
        List.mem_filter.mpr ⟨member, decide_eq_true same.symm⟩
      exact absurd (List.mem_filterMap.mpr ⟨row, grouped, value⟩) (none ▸ List.not_mem_nil)

end

/-! ### The order of the rows -/

section
variable {rows rows' : List NumericRow}

theorem segmentKeys_perm (column : Text) (perm : rows'.Perm rows) :
    segmentKeys column rows' = segmentKeys column rows := by
  have sorted : ∀ names : List Text, (names.insertionSort (· ≤ ·)).Pairwise (· ≤ ·) :=
    List.pairwise_insertionSort (· ≤ ·)
  have same : (segmentKeys column rows').Perm (segmentKeys column rows) := by
    unfold segmentKeys
    refine (List.perm_insertionSort _ _).trans (.trans ?_ (List.perm_insertionSort _ _).symm)
    exact (perm.map _).dedup
  exact same.eq_of_pairwise (fun a b _ _ => le_antisymm) (sorted _) (sorted _)

theorem segments_perm (exact : ∀ column ∈ numericColumns, Exact (numbers rows column))
    (perm : rows'.Perm rows) (column : segmentColumn rows' = segmentColumn rows) :
    segments rows' = segments rows := by
  unfold segments
  rw [column]
  split
  · rfl
  next column _ =>
    rw [segmentKeys_perm column perm]
    have same : ∀ key, metrics (rows'.filter (segmentOf column · = key))
        = metrics (rows.filter (segmentOf column · = key)) := fun key =>
      metrics_perm (fun column numeric => exact_filter (exact column numeric) _) (perm.filter _)
    simp only [same]

end

/-! ### Quality -/

/-- A share is printed as a fraction of a million that is at most all of it. -/
theorem share_printed {part whole : ℕ} (positive : 0 < whole) (le : part ≤ whole) :
    ∃ units ≤ 10 ^ 6,
      (defaultContext.div (Decimal.ofNat part) (Decimal.ofNat whole) >>= decimalString)
        = .ok (str (.finite false units (-6))) := by
  have nonneg : (0 : ℚ) ≤ part / whole := by positivity
  have share : (part : ℚ) / whole ≤ 1 := by
    rw [div_le_one (by exact_mod_cast positive)]
    exact_mod_cast le
  have rounded : defaultContext.round (part / whole) ≤ 1 := by
    rcases nonneg.eq_or_lt with zero | some_part
    · rw [← zero, round_zero]
      norm_num
    · have log : Int.log 10 ((part : ℚ) / whole) < 1 := log_lt_of_lt some_part (by linarith)
      have place : defaultContext.place (part / whole) ≤ 0 := by
        simp only [place, eTiny, defaultContext]
        omega
      simpa using round_le_zpow nonneg place (by simpa using share)
  have small : defaultContext.round (part / whole) < 10 ^ (defaultContext.eMax + 1) := by
    have power : (10 : ℚ) ^ (0 : ℤ) < 10 ^ (defaultContext.eMax + 1) :=
      zpow_lt_zpow_right₀ (by norm_num) (by decide)
    rw [zpow_zero] at power
    exact rounded.trans_lt power
  obtain ⟨coefficient, exponent, answered, value⟩ := finish_ok nonneg small false 0
  have divided : defaultContext.div (Decimal.ofNat part) (Decimal.ofNat whole)
      = .ok (.finite false coefficient exponent) := by
    rw [← answered]
    simp [div, Decimal.ofNat, positive.ne']
  have few : halfUp (defaultContext.round (part / whole) / 10 ^ (-6 : ℤ)) < 10 ^ 6 + 1 := by
    rw [halfUp_lt_iff (div_nonneg round_nonneg (ten_zpow_pos _).le),
      div_lt_iff₀ (ten_zpow_pos _)]
    norm_num
    linarith
  refine ⟨_, Nat.le_of_lt_succ few, ?_⟩
  have log : Nat.log 10 (halfUp (defaultContext.round (part / whole) / 10 ^ (-6 : ℤ))) < 7 :=
    Nat.log_lt_of_lt_pow' (by decide) (few.trans (by decide))
  rw [divided, ok_bind, decimalString, quantize, value, if_pos]
  · rfl
  · have top : defaultContext.eMax = 999999 := rfl
    exact ⟨eTiny_le, by decide, few.trans (by decide), by omega⟩

theorem missingValues_le {table : Table} (wellFormed : WellFormed table) :
    missingValues table.rows ≤ table.rows.length * table.columns.length := by
  have keys := wellFormed.keys
  unfold missingValues
  generalize table.rows = rows at keys ⊢
  induction rows with
  | nil => simp
  | cons row rows ih =>
    have width := congrArg List.length (keys row List.mem_cons_self)
    rw [List.length_map] at width
    have blanks : row.countP (fun cell => decide (cell.2 = [])) ≤ row.length := List.countP_le_length
    have rest := ih fun row' member => keys row' (List.mem_cons_of_mem _ member)
    rw [List.map_cons, List.sum_cons, List.length_cons, Nat.succ_mul]
    omega

theorem missingValues_perm {rows rows' : List Row} (perm : rows'.Perm rows) :
    missingValues rows' = missingValues rows := (perm.map _).sum_eq

theorem distinctRows_perm {rows rows' : List Row} (perm : rows'.Perm rows) :
    (distinctRows rows').length = (distinctRows rows).length := ((perm.map _).dedup).length_eq

theorem distinctRows_le (rows : List Row) : (distinctRows rows).length ≤ rows.length := by
  unfold distinctRows
  exact (List.dedup_sublist _).length_le.trans (List.length_map _).le

theorem distinctRows_pos {rows : List Row} (nonempty : rows ≠ []) :
    0 < (distinctRows rows).length := by
  obtain ⟨row, member⟩ := List.exists_mem_of_ne_nil rows nonempty
  exact List.length_pos_of_mem (List.mem_dedup.mpr (List.mem_map_of_mem member))

theorem quality_ok {table : Table} {found : DataQualityReport} (wellFormed : WellFormed table)
    (computed : quality table = .ok found) :
    found.rowCount = table.rows.length ∧
      found.duplicateRowCount = (table.rows.length : ℤ) - (distinctRows table.rows).length ∧
      ∃ units ≤ 10 ^ 6, found.missingValueRate = str (.finite false units (-6)) := by
  obtain ⟨units, few, printed⟩ := share_printed
    (Nat.lt_of_lt_of_le Nat.one_pos (le_max_right (table.rows.length * table.columns.length) 1))
    ((missingValues_le wellFormed).trans (le_max_left _ 1))
  simp only [quality, bind_eq_ok, pure_eq_ok] at computed
  obtain ⟨missing, divided, text, shown, rfl⟩ := computed
  rw [divided, ok_bind, shown] at printed
  exact ⟨rfl, rfl, units, few, Except.ok.inj printed⟩

/-! ### Reports -/

/-- The figures of a report that the order of the rows is not to change. -/
structure Figures where
  rowCount : ℕ
  missingValueRate : Text
  duplicateRowCount : ℤ
  summaryMetrics : Metrics
  segmentPerformance : List Segment

def DataAnalysisReport.figures (report : DataAnalysisReport) : Figures where
  rowCount := report.dataQuality.rowCount
  missingValueRate := report.dataQuality.missingValueRate
  duplicateRowCount := report.dataQuality.duplicateRowCount
  summaryMetrics := report.summaryMetrics
  segmentPerformance := report.segmentPerformance

/-- The figures as they are computed from a table. -/
def figures (table : Table) : Except Failure Figures := do
  let parsed ← parseRows table.rows
  let metrics ← (metrics parsed).mapError .decimalSignal
  let segments ← (segments parsed).mapError .decimalSignal
  let quality ← (quality table).mapError .decimalSignal
  return {
    rowCount := quality.rowCount
    missingValueRate := quality.missingValueRate
    duplicateRowCount := quality.duplicateRowCount
    summaryMetrics := metrics
    segmentPerformance := segments }

theorem mapError_eq_ok {α : Type} {x : Except Signal α} {a : α} :
    x.mapError Failure.decimalSignal = .ok a ↔ x = .ok a := by
  cases x <;> simp [Except.mapError]

/-- What an accepted table is computed to. -/
theorem analyzeTable_ok {outside : Outside} {table : Table} {report : DataAnalysisReport}
    (accepted : analyzeTable outside table = .ok report) :
    (∀ row ∈ table.rows, Readable row) ∧
      metrics (table.rows.map parsedRow) = .ok report.summaryMetrics ∧
      segments (table.rows.map parsedRow) = .ok report.segmentPerformance ∧
      quality table = .ok report.dataQuality := by
  simp only [analyzeTable, bind_eq_ok, pure_eq_ok, mapError_eq_ok] at accepted
  obtain ⟨parsed, read, summary, overall, found, grouped, -, -, measured, counted, rfl⟩ := accepted
  obtain ⟨readable, rfl⟩ := parseRows_eq_ok.mp read
  exact ⟨readable, overall, grouped, counted⟩

theorem figures_eq_ok {table : Table} {found : Figures} :
    figures table = .ok found ↔ (∀ row ∈ table.rows, Readable row) ∧
      metrics (table.rows.map parsedRow) = .ok found.summaryMetrics ∧
      segments (table.rows.map parsedRow) = .ok found.segmentPerformance ∧
      ∃ measured, quality table = .ok measured ∧ found.rowCount = measured.rowCount ∧
        found.missingValueRate = measured.missingValueRate ∧
        found.duplicateRowCount = measured.duplicateRowCount := by
  simp only [figures, bind_eq_ok, pure_eq_ok, mapError_eq_ok]
  constructor
  · rintro ⟨parsed, read, summary, overall, segments, grouped, measured, counted, rfl⟩
    obtain ⟨readable, rfl⟩ := parseRows_eq_ok.mp read
    exact ⟨readable, overall, grouped, measured, counted, rfl, rfl, rfl⟩
  · rintro ⟨readable, overall, grouped, measured, counted, rows, missing, duplicates⟩
    refine ⟨_, parseRows_eq_ok.mpr ⟨readable, rfl⟩, _, overall, _, grouped, measured, counted, ?_⟩
    cases found
    simp only at rows missing duplicates
    rw [rows, missing, duplicates]

theorem exact_parsed {table : Table} (exact : ExactTable table) :
    ∀ column ∈ numericColumns, Exact (numbers (table.rows.map parsedRow) column) :=
  fun column numeric => numbers_parsed table.rows numeric ▸ exact column numeric

theorem quality_perm {table table' : Table} {found : DataQualityReport}
    (columns : table'.columns = table.columns) (perm : table'.rows.Perm table.rows)
    (computed : quality table = .ok found) :
    ∃ found', quality table' = .ok found' ∧ found.rowCount = found'.rowCount ∧
      found.missingValueRate = found'.missingValueRate ∧
      found.duplicateRowCount = found'.duplicateRowCount := by
  simp only [quality, bind_eq_ok, pure_eq_ok] at computed ⊢
  obtain ⟨missing, divided, text, shown, rfl⟩ := computed
  rw [missingValues_perm perm, perm.length_eq, columns, distinctRows_perm perm]
  exact ⟨_, ⟨missing, divided, text, shown, rfl⟩, rfl, rfl, rfl⟩

/-- Rows in another order have the same figures. -/
theorem figures_perm {table table' : Table} {found : Figures} (wellFormed : WellFormed table)
    (exact : ExactTable table) (columns : table'.columns = table.columns)
    (perm : table'.rows.Perm table.rows) (computed : figures table = .ok found) :
    figures table' = .ok found := by
  obtain ⟨readable, overall, grouped, measured, counted, rows, missing, duplicates⟩ :=
    figures_eq_ok.mp computed
  have wellFormed' : WellFormed table' := {
    nodup := columns ▸ wellFormed.nodup
    nonempty := fun none => wellFormed.nonempty (none ▸ perm).symm.eq_nil
    keys := fun row member => columns ▸ wellFormed.keys row (perm.subset member) }
  have parsed := perm.map parsedRow
  have segmenting : segmentColumn (table'.rows.map parsedRow)
      = segmentColumn (table.rows.map parsedRow) := by
    rw [segmentColumn_parsed wellFormed', segmentColumn_parsed wellFormed]
    unfold segmentColumnOf
    rw [columns]
  obtain ⟨measured', counted', rows', missing', duplicates'⟩ := quality_perm columns perm counted
  refine figures_eq_ok.mpr ⟨fun row member => readable row (perm.subset member), ?_, ?_, measured',
    counted', rows.trans rows', missing.trans missing', duplicates.trans duplicates'⟩
  · rw [metrics_perm (exact_parsed exact) parsed]
    exact overall
  · rw [segments_perm (exact_parsed exact) parsed segmenting]
    exact grouped

/-- The laws of the quality figures. -/
structure QualityLaws (table : Table) (found : DataQualityReport) : Prop where
  rows : found.rowCount = table.rows.length
  rate : ∃ x, reported found.missingValueRate = some x ∧ 0 ≤ x ∧ x ≤ 1
  duplicates : 0 ≤ found.duplicateRowCount ∧ found.duplicateRowCount < found.rowCount

/-- The laws of the segments that a column tells apart. -/
structure SegmentLaws (table : Table) (column : Text) (report : DataAnalysisReport) : Prop where
  by_column : ∀ segment ∈ report.segmentPerformance, segment.segmentBy = column
  /-- Each row is in one segment. -/
  one_segment : ∀ row ∈ table.rows,
    report.segmentPerformance.countP (fun segment => segment.segment = segmentName column row) = 1
  members : ∀ segment ∈ report.segmentPerformance, segment.metrics.rows
    = table.rows.countP fun row => segmentName column row = segment.segment
  row_counts : (report.segmentPerformance.map fun segment => segment.metrics.rows).sum
    = report.dataQuality.rowCount
  /-- What is reported stands for a number. -/
  numbers : ∀ figure ∈ reportedSums,
    ∀ found ∈ report.summaryMetrics :: report.segmentPerformance.map Segment.metrics,
      ∀ text, figure.2 found = some text → (reported text).isSome
  sums : ∀ figure ∈ reportedSums,
    (report.segmentPerformance.map fun segment => amount (figure.2 segment.metrics)).sum
      = amount (figure.2 report.summaryMetrics)
  absent : ∀ figure ∈ reportedSums, figure.2 report.summaryMetrics = none ↔
    ∀ segment ∈ report.segmentPerformance, figure.2 segment.metrics = none

theorem qualityLaws {table : Table} {found : DataQualityReport} (wellFormed : WellFormed table)
    (computed : quality table = .ok found) : QualityLaws table found := by
  obtain ⟨rows, duplicates, units, few, printed⟩ := quality_ok wellFormed computed
  have distinct := distinctRows_pos wellFormed.nonempty
  have most := distinctRows_le table.rows
  have value : (Decimal.finite false units (-6)).toRat = units / 10 ^ 6 := by
    simp only [Decimal.toRat]
    norm_num [div_eq_mul_inv]
  have log : Nat.log 10 units < 7 := Nat.log_lt_of_lt_pow' (by decide) (few.trans_lt (by decide))
  refine ⟨rows, ⟨units / 10 ^ 6, ?_, by positivity, ?_⟩, by omega, by omega⟩
  · unfold reported
    rw [printed, readDecimal_places _ (log.trans (by decide))]
    exact congrArg some value
  · rw [div_le_one (by norm_num)]
    exact_mod_cast few

theorem segmentLaws {table : Table} {column : Text} {report : DataAnalysisReport}
    (wellFormed : WellFormed table) (exact : ExactTable table)
    (segmenting : segmentColumnOf table = some column)
    (overall : metrics (table.rows.map parsedRow) = .ok report.summaryMetrics)
    (grouped : segments (table.rows.map parsedRow) = .ok report.segmentPerformance)
    (counted : report.dataQuality.rowCount = table.rows.length) :
    SegmentLaws table column report := by
  have parsed := segmentColumn_parsed wellFormed
  rw [segmenting] at parsed
  have known : column ∈ segmentColumns := List.mem_of_find?_eq_some segmenting
  obtain ⟨keys, groups⟩ := segments_of parsed grouped
  have conserved := sums_conserved (exact_parsed exact) parsed overall grouped
  have size : ∀ segment ∈ report.segmentPerformance, segment.metrics.rows
      = ((table.rows.map parsedRow).filter (segmentOf column · = segment.segment)).length :=
    fun segment member => metrics_rows (groups segment member).2
  exact {
    by_column := fun segment member => (groups segment member).1
    one_segment := by
      intro row member
      have key := mem_segmentKeys column (List.mem_map_of_mem (f := parsedRow) member)
      rw [segmentOf_parsed known, ← keys] at key
      have once := List.count_eq_one_of_mem (keys ▸ segmentKeys_nodup column _) key
      rw [List.count, List.countP_map] at once
      rw [← once]
      refine List.countP_congr fun segment _ => ?_
      simp
    members := by
      intro segment member
      rw [size segment member, ← List.countP_eq_length_filter, List.countP_map]
      refine List.countP_congr fun row _ => ?_
      simp [segmentOf_parsed known]
    row_counts := by
      have every : ∀ row ∈ table.rows.map parsedRow,
          segmentOf column row ∈ segmentKeys column (table.rows.map parsedRow) :=
        fun row member => mem_segmentKeys column member
      have lengths := length_groups (segmentOf column) (segmentKeys_nodup column _) every
      rw [← keys, List.map_map] at lengths
      rw [counted, ← List.length_map parsedRow, ← lengths]
      exact congrArg List.sum (List.map_congr_left size)
    numbers := by
      intro figure reported found member
      rcases List.mem_cons.mp member with rfl | member
      · rw [metrics_sums overall (exact_parsed exact) figure reported]
        exact columnText_reported (exact_parsed exact _ (reportedSums_numeric figure reported))
      · obtain ⟨segment, there, rfl⟩ := List.mem_map.mp member
        have group_exact : ∀ column' ∈ numericColumns, Exact (DataAnalysis.numbers
            ((table.rows.map parsedRow).filter (segmentOf column · = segment.segment)) column') :=
          fun column' numeric => exact_filter (exact_parsed exact column' numeric) _
        rw [metrics_sums (groups segment there).2 group_exact figure reported]
        exact columnText_reported (group_exact _ (reportedSums_numeric figure reported))
    sums := fun figure reported => (conserved figure reported).1
    absent := fun figure reported => (conserved figure reported).2 }

/-- The quality figures and the segments of every accepted upload with exact columns obey their laws, and
the same rows in another order have the same figures. -/
theorem accepted_table_laws {outside : Outside} {settings : Settings} {content : ByteArray}
    {filename : Text} {table : Table} {report : DataAnalysisReport}
    (read : readTable outside.lower settings content filename = .ok table)
    (accepted : analyzeCsv outside settings content filename = .ok report)
    (exact : ExactTable table) :
    QualityLaws table report.dataQuality ∧
      (∀ column, segmentColumnOf table = some column → SegmentLaws table column report) ∧
      ∀ table', table'.columns = table.columns → table'.rows.Perm table.rows →
        figures table' = .ok report.figures ∧
          ∀ content' filename' report',
            readTable outside.lower settings content' filename' = .ok table' →
            analyzeCsv outside settings content' filename' = .ok report' →
            report'.figures = report.figures := by
  have wellFormed := readTable_wellFormed read
  unfold analyzeCsv at accepted
  rw [read, ok_bind] at accepted
  obtain ⟨readable, overall, grouped, counted⟩ := analyzeTable_ok accepted
  have quality := qualityLaws wellFormed counted
  have computed : figures table = .ok report.figures :=
    figures_eq_ok.mpr ⟨readable, overall, grouped, _, counted, rfl, rfl, rfl⟩
  refine ⟨quality, fun column segmenting =>
    segmentLaws wellFormed exact segmenting overall grouped quality.rows, ?_⟩
  intro table' columns perm
  have same := figures_perm wellFormed exact columns perm computed
  refine ⟨same, fun content' filename' report' read' accepted' => ?_⟩
  unfold analyzeCsv at accepted'
  rw [read', ok_bind] at accepted'
  obtain ⟨readable', overall', grouped', counted'⟩ := analyzeTable_ok accepted'
  have computed' : figures table' = .ok report'.figures :=
    figures_eq_ok.mpr ⟨readable', overall', grouped', _, counted', rfl, rfl, rfl⟩
  exact Except.ok.inj (computed'.symm.trans same)

/-- An upload of two rows, one without its country. -/
def sampleUpload : ByteArray := "country,clicks\nvn,1.5\n,2\n".toByteArray

def sampleTable : Table where
  columns := ["country".toList, "clicks".toList]
  rows := [[("country".toList, "vn".toList), ("clicks".toList, "1.5".toList)],
    [("country".toList, []), ("clicks".toList, "2".toList)]]

/-- No anomalies and no explanation, and the lower case of the ASCII letters. -/
def sampleOutside : Outside where
  lower text := text.map Char.toLower
  anomalies _ := []
  explain _ _ _ := []

def sampleSettings : Settings where
  maxUploadBytes := 1024
  maxCsvRows := 10
  maxCsvColumns := 10

theorem sampleTable_exact : ExactTable sampleTable := by
  intro column numeric
  have values : columnNumbers sampleTable.rows column = [] ∨
      columnNumbers sampleTable.rows column = [.finite false 15 (-1), .finite false 2 0] := by
    revert column
    decide +kernel
  have first : (Decimal.finite false 15 (-1)).toRat = 3 / 2 := by
    norm_num [Decimal.toRat]
  have second : (Decimal.finite false 2 0).toRat = 2 := by
    norm_num [Decimal.toRat]
  rcases values with blank | values
  · rw [blank]
    exact ⟨by simp, by simp, by simp⟩
  · rw [values]
    refine ⟨by simp [Decimal.isFinite], ?_, ?_⟩
    · simp only [List.forall_mem_cons, first, second]
      exact ⟨⟨1500000, by norm_num⟩, ⟨2000000, by norm_num⟩, by simp⟩
    · simp only [List.map_cons, List.map_nil, List.sum_cons, List.sum_nil, first, second]
      norm_num [abs_of_pos]

theorem sampleUpload_laws :
    ∃ report, analyzeCsv sampleOutside sampleSettings sampleUpload "a.csv".toList = .ok report ∧
      QualityLaws sampleTable report.dataQuality ∧
      SegmentLaws sampleTable "country".toList report := by
  have accepts : (analyzeCsv sampleOutside sampleSettings sampleUpload
      "a.csv".toList).toOption.isSome := by decide +kernel
  cases analyzed : analyzeCsv sampleOutside sampleSettings sampleUpload "a.csv".toList with
  | error failure =>
    rw [analyzed] at accepts
    cases accepts
  | ok report =>
    have read : readTable sampleOutside.lower sampleSettings sampleUpload "a.csv".toList
        = .ok sampleTable := by decide +kernel
    have laws := accepted_table_laws read analyzed sampleTable_exact
    exact ⟨report, rfl, laws.1, laws.2.1 _ (by decide)⟩

end CyberLegends.DataAnalysis
