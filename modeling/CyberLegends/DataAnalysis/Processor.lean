import CyberLegends.DataAnalysis.Numbers
import CyberLegends.Lib.Csv
import Mathlib.Data.Char
import Mathlib.Data.List.Lex
import Mathlib.Data.List.Sort

/-! The analysis of an uploaded table: its cells are read as decimal numbers, and the report is computed
from them. -/

namespace CyberLegends.DataAnalysis

open CyberLegends.Core Lib Agents

attribute [local instance] lawfulBEq_text

/-! ### Columns -/

/-- A set in the source, here in the order in which it is sorted. -/
def numericColumns : List Text :=
  ["clicks", "conversions", "impressions", "retention", "revenue", "sessions", "spend"].map
    String.toList

def supportedColumns : List Text :=
  ["date", "platform", "country", "campaign"].map String.toList ++ numericColumns

/-- The columns that may tell the segments apart, the first that is present first. -/
def segmentColumns : List Text := ["platform", "country", "campaign"].map String.toList

/-! ### Reading the table -/

structure Settings where
  maxUploadBytes : ℕ
  maxCsvRows : ℕ
  maxCsvColumns : ℕ

/-- The most characters that the reader takes in a field. -/
def fieldSizeLimit : ℕ := 131072

/-- What an analysis raises. -/
inductive Failure
  | m7ValidationError (message : String)
  | csvError (error : Csv.Error)
  | decimalSignal (signal : Signal)
  deriving DecidableEq, Repr

/-- A row of the file, with its cells by their columns. -/
abbrev Row := List (Text × Text)

structure Table where
  columns : List Text
  rows : List Row
  deriving DecidableEq

/-- The text of an upload, without the mark at its front. -/
def decodeText (content : ByteArray) : Option Text :=
  match content.utf8Decode? with
  | none => none
  | some chars =>
    match chars.toList with
    | '\ufeff' :: rest => some rest
    | rest => some rest

/-- The cells of a record by their columns. Missing cells are blank; cells beyond the columns are left
out. -/
def rowOf (columns : List Text) (record : List Text) : Row :=
  columns.zip (record.map (strip isSpace) ++ List.replicate (columns.length - record.length) [])

/-- The rows after so many. Blank lines have no record of their own. -/
def readRows (settings : Settings) (columns : List Text) (ending : Option Csv.Error) :
    ℕ → List (List Text) → Except Failure (List Row)
  | _, [] =>
    match ending with
    | none => .ok []
    | some error => .error (.csvError error)
  | index, [] :: records => readRows settings columns ending index records
  | index, (cell :: cells) :: records =>
    if settings.maxCsvRows ≤ index then
      .error (.m7ValidationError "CSV row count exceeds the configured limit")
    else
      match readRows settings columns ending (index + 1) records with
      | .error failure => .error failure
      | .ok rows => .ok (rowOf columns (cell :: cells) :: rows)

/-- The first part of the analysis; `lower` is the lower case of a text. -/
def readTable (lower : Text → Text) (settings : Settings) (content : ByteArray) (filename : Text) :
    Except Failure Table :=
  if settings.maxUploadBytes < content.size then
    .error (.m7ValidationError "CSV exceeds the configured size limit")
  else if ¬ ".csv".toList <:+ lower filename then
    .error (.m7ValidationError "Only CSV files are supported")
  else
    match decodeText content with
    | none => .error (.m7ValidationError "CSV must be UTF-8 encoded")
    | some text =>
      match Csv.records (some fieldSizeLimit) {} (Csv.lines text) with
      | ([], some error) => .error (.csvError error)
      | ([], none) => .error (.m7ValidationError "CSV header is required")
      | (header :: records, ending) =>
        let columns := header.map fun column => lower (strip isSpace column)
        if ¬ columns.Nodup ∨ settings.maxCsvColumns < columns.length then
          .error (.m7ValidationError "CSV columns are duplicated or exceed the configured limit")
        else
          match readRows settings columns ending 0 records with
          | .error failure => .error failure
          | .ok [] => .error (.m7ValidationError "CSV must contain at least one data row")
          | .ok rows => .ok { columns, rows }

/-! ### Numbers -/

/-- The context that the arithmetic of the analysis has. -/
def defaultContext : Context where
  prec := 28
  eMin := -999999
  eMax := 999999
  prec_pos := by decide
  ordered := by decide

/-- A cell that has been read. -/
inductive Cell
  | text (value : Text)
  | number (value : Decimal)
  | missing
  deriving DecidableEq, Repr

abbrev NumericRow := List (Text × Cell)

/-- A cell of a column; none where a number cannot be read. -/
def cellOf (column value : Text) : Option Cell :=
  if column ∉ numericColumns then some (.text value)
  else if value = [] then some .missing
  else (readDecimal (value.filter (· ≠ ','))).map .number

/-- The columns are read in the order of the row, where the source goes through a set of them. -/
def numericRow (row : Row) (rowNumber : ℕ) : Except Failure NumericRow :=
  row.mapM fun (column, value) =>
    match cellOf column value with
    | some cell => .ok (column, cell)
    | none => .error (.m7ValidationError ("Column " ++ String.ofList column ++
        " contains a non-numeric value at row " ++ toString rowNumber))

/-- The numbers of a column. -/
def numbers (rows : List NumericRow) (column : Text) : List Decimal :=
  rows.filterMap fun row =>
    match row.lookup column with
    | some (.number value) => some value
    | _ => none

def sum (rows : List NumericRow) (column : Text) : Except Signal (Option Decimal) :=
  match numbers rows column with
  | [] => .ok none
  | values => (defaultContext.sum values).map some

def decimalString (value : Decimal) : Except Signal Text :=
  (defaultContext.quantize (-6) value).map str

def optionalDecimal : Option Decimal → Except Signal (Option Text)
  | none => .ok none
  | some value => (decimalString value).map some

def rate : Option Decimal → Option Decimal → Except Signal (Option Text)
  | some numerator, some denominator =>
    match denominator.le Decimal.zero with
    | .error signal => .error signal
    | .ok true => .ok none
    | .ok false => do
      let quotient ← defaultContext.div numerator denominator
      (decimalString quotient).map some
  | _, _ => .ok none

/-! ### Metrics -/

structure Metrics where
  rows : ℕ
  impressions : Option Text
  clicks : Option Text
  spend : Option Text
  conversions : Option Text
  revenue : Option Text
  ctr : Option Text
  cpc : Option Text
  cpa : Option Text
  conversionRate : Option Text
  roas : Option Text
  retentionAverage : Option Text
  deriving DecidableEq, Repr

/-- The first number if it counts as true, and the second otherwise. -/
def orElse (first second : Option Decimal) : Option Decimal :=
  if first.any Decimal.isTrue then first else second

def average (values : List Decimal) : Except Signal (Option Text) :=
  if values = [] then .ok none
  else do
    let total ← defaultContext.sum values
    let mean ← defaultContext.div total (Decimal.ofNat values.length)
    (decimalString mean).map some

def metrics (rows : List NumericRow) : Except Signal Metrics := do
  let impressions ← sum rows "impressions".toList
  let clicks ← sum rows "clicks".toList
  let spend ← sum rows "spend".toList
  let conversions ← sum rows "conversions".toList
  let sessions ← sum rows "sessions".toList
  let revenue ← sum rows "revenue".toList
  return {
    rows := rows.length
    impressions := ← optionalDecimal impressions
    clicks := ← optionalDecimal clicks
    spend := ← optionalDecimal spend
    conversions := ← optionalDecimal conversions
    revenue := ← optionalDecimal revenue
    ctr := ← rate clicks impressions
    cpc := ← rate spend clicks
    cpa := ← rate spend conversions
    conversionRate := ← rate conversions (orElse clicks sessions)
    roas := ← rate revenue spend
    retentionAverage := ← average (numbers rows "retention".toList) }

/-! ### Segments -/

structure Segment where
  segmentBy : Text
  segment : Text
  metrics : Metrics
  deriving DecidableEq, Repr

/-- `str` of a cell. -/
def Cell.str : Cell → Text
  | text value => value
  | number value => DataAnalysis.str value
  | missing => "None".toList

/-- Whether a cell counts as true. -/
def Cell.isTrue : Cell → Bool
  | text value => value ≠ []
  | number value => value.isTrue
  | missing => false

def segmentColumn (rows : List NumericRow) : Option Text :=
  match rows with
  | [] => none
  | first :: _ => segmentColumns.find? fun name => first.any (·.1 = name)

def segmentOf (column : Text) (row : NumericRow) : Text :=
  match row.lookup column with
  | some cell => if cell.isTrue then cell.str else "unknown".toList
  | none => "unknown".toList

/-- The names of the groups that the rows fall into, in their order. -/
def segmentKeys (column : Text) (rows : List NumericRow) : List Text :=
  (rows.map (segmentOf column)).dedup.insertionSort (· ≤ ·)

def segments (rows : List NumericRow) : Except Signal (List Segment) :=
  match segmentColumn rows with
  | none => .ok []
  | some column =>
    (segmentKeys column rows).mapM fun key => do
      let found ← metrics (rows.filter (segmentOf column · = key))
      return { segmentBy := column, segment := key, metrics := found }

/-! ### Trends -/

structure Trend where
  metric : Text
  first : Text
  last : Text
  deltaRate : Text
  deriving DecidableEq, Repr

/-- What a row is sorted by. -/
def dateOf (row : NumericRow) : Text :=
  match row.lookup "date".toList with
  | some cell => cell.str
  | none => []

/-- The trend of a column from its first number to its last. -/
def trendOf (ordered : List NumericRow) (column : Text) : Except Signal (Option Trend) :=
  match numbers ordered column with
  | first :: second :: rest =>
    match first.eq Decimal.zero with
    | .error signal => .error signal
    | .ok true => .ok none
    | .ok false => do
      let last := (second :: rest).getLast (List.cons_ne_nil _ _)
      let difference ← defaultContext.sub last first
      let base ← defaultContext.abs first
      let delta ← defaultContext.div difference base
      let deltaRate ← decimalString delta
      return some { metric := column, first := str first, last := str last, deltaRate }
  | _ => .ok none

def trends (rows : List NumericRow) : Except Signal (List Trend) :=
  match rows with
  | [] => .ok []
  | first :: _ =>
    if first.any (·.1 = "date".toList) then do
      let ordered := rows.insertionSort fun a b => dateOf a ≤ dateOf b
      let found ← numericColumns.mapM (trendOf ordered)
      return found.filterMap id
    else .ok []

/-! ### The report -/

structure DataQualityReport where
  rowCount : ℕ
  columnCount : ℕ
  columns : List Text
  missingValueRate : Text
  duplicateRowCount : ℤ
  unsupportedColumns : List Text
  preview : List Row
  deriving DecidableEq

structure Anomaly where
  row : ℕ
  column : Text
  value : Text
  deriving DecidableEq

structure DataAnalysisReport where
  dataQuality : DataQualityReport
  summaryMetrics : Metrics
  segmentPerformance : List Segment
  anomalies : List Anomaly
  trends : List Trend
  explanation : Text
  deriving DecidableEq

/-- A cell that a spreadsheet does not take for a formula. -/
def safeCell (value : Text) : Text :=
  match value with
  | [] => []
  | c :: _ => if c ∈ ['=', '+', '-', '@'] then '\x27' :: value else value.take 500

/-- How many cells are blank. -/
def missingValues (rows : List Row) : ℕ :=
  (rows.map fun row => row.countP fun cell => decide (cell.2 = [])).sum

/-- The order of two cells as pairs of texts. -/
def CellLe (a b : Text × Text) : Prop := a.1 < b.1 ∨ (a.1 = b.1 ∧ a.2 ≤ b.2)

instance : DecidableRel CellLe := fun _ _ => inferInstanceAs (Decidable (_ ∨ _))

/-- The rows that differ. -/
def distinctRows (rows : List Row) : List Row := (rows.map (·.insertionSort CellLe)).dedup

def quality (table : Table) : Except Signal DataQualityReport := do
  let missing ← defaultContext.div (Decimal.ofNat (missingValues table.rows))
    (Decimal.ofNat (max (table.rows.length * table.columns.length) 1))
  return {
    rowCount := table.rows.length
    columnCount := table.columns.length
    columns := table.columns
    missingValueRate := ← decimalString missing
    duplicateRowCount := (table.rows.length : ℤ) - (distinctRows table.rows).length
    unsupportedColumns :=
      (table.columns.filter (· ∉ supportedColumns)).insertionSort (· ≤ ·)
    preview := (table.rows.take 5).map fun row => row.map fun cell => (cell.1, safeCell cell.2) }

/-- What the analysis takes from elsewhere: the lower case of a text, the anomalies that the floating
point finds, and the explanation that the model gives. -/
structure Outside where
  lower : Text → Text
  anomalies : List NumericRow → List Anomaly
  explain : Metrics → List Anomaly → List Trend → Text

/-- The rows with their numbers. -/
def parseRows (rows : List Row) : Except Failure (List NumericRow) :=
  rows.zipIdx.mapM fun (row, index) => numericRow row (index + 2)

/-- The second part of the analysis. -/
def analyzeTable (outside : Outside) (table : Table) : Except Failure DataAnalysisReport := do
  let parsed ← parseRows table.rows
  let metrics ← (metrics parsed).mapError .decimalSignal
  let segments ← (segments parsed).mapError .decimalSignal
  let anomalies := outside.anomalies parsed
  let trends ← (trends parsed).mapError .decimalSignal
  let quality ← (quality table).mapError .decimalSignal
  return {
    dataQuality := quality
    summaryMetrics := metrics
    segmentPerformance := segments
    anomalies := anomalies.take 100
    trends
    explanation :=
      (outside.explain metrics (anomalies.take 10) (trends.take 10)).take 5000 }

def analyzeCsv (outside : Outside) (settings : Settings) (content : ByteArray) (filename : Text) :
    Except Failure DataAnalysisReport := do
  let table ← readTable outside.lower settings content filename
  analyzeTable outside table

end CyberLegends.DataAnalysis
