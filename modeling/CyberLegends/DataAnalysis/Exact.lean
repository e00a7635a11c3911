import CyberLegends.DataAnalysis.Processor
import CyberLegends.Lib.Groups
import CyberLegends.Lib.Table

/-! Columns of numbers with few places: their sums are exact, and their figures do not depend on the
order of the rows. -/

namespace CyberLegends.DataAnalysis

open CyberLegends.Core Lib Context

/-- Numbers that are finite, of at most six places, and together below `10 ^ 21`. -/
structure Exact (values : List Decimal) : Prop where
  finite : ∀ d ∈ values, d.isFinite
  places : ∀ d ∈ values, ∃ k : ℤ, d.toRat = k / 10 ^ 6
  small : (values.map fun d => |d.toRat|).sum < 10 ^ 21

/-- What the numbers add up to. -/
def total (values : List Decimal) : ℚ := (values.map Decimal.toRat).sum

/-- The text of a number with six places. -/
def sixPlaces (x : ℚ) : Text := str (.finite (decide (x < 0)) ⌊|x| * 10 ^ 6⌋₊ (-6))

/-- The number that a reported text stands for. -/
def reported (text : Text) : Option ℚ :=
  match readDecimal text with
  | some (.finite negative coefficient exponent) =>
    some (Decimal.finite negative coefficient exponent).toRat
  | _ => none

/-! ### Sums -/

section
variable {values values' : List Decimal} {x : ℚ} {d : Decimal}

theorem Exact.sublist (exact : Exact values) (sub : values'.Sublist values) : Exact values' where
  finite d member := exact.finite d (sub.subset member)
  places d member := exact.places d (sub.subset member)
  small := by
    have magnitudes : (values'.map fun d => |d.toRat|).Sublist (values.map fun d => |d.toRat|) :=
      sub.map _
    have nonneg : ∀ x ∈ values.map (fun d => |d.toRat|), 0 ≤ x := by
      intro x member
      obtain ⟨d, -, rfl⟩ := List.mem_map.mp member
      exact abs_nonneg _
    exact (magnitudes.sum_le_sum nonneg).trans_lt exact.small

theorem Exact.perm (exact : Exact values) (perm : values'.Perm values) : Exact values' where
  finite d member := exact.finite d (perm.subset member)
  places d member := exact.places d (perm.subset member)
  small := by
    rw [(perm.map fun d => |d.toRat|).sum_eq]
    exact exact.small

theorem sixth (x : ℚ) (k : ℤ) : x = k / 10 ^ 6 ↔ x = k * 10 ^ (-6 : ℤ) := by
  norm_num [div_eq_mul_inv]

theorem abs_total_le (values : List Decimal) :
    |total values| ≤ (values.map fun d => |d.toRat|).sum := by
  unfold total
  induction values with
  | nil => simp
  | cons d values ih =>
    simp only [List.map_cons, List.sum_cons]
    exact (abs_add_le _ _).trans (by linarith)

theorem total_places (places : ∀ d ∈ values, ∃ k : ℤ, d.toRat = k / 10 ^ 6) :
    ∃ k : ℤ, total values = k / 10 ^ 6 := by
  unfold total
  induction values with
  | nil => exact ⟨0, by simp⟩
  | cons d values ih =>
    obtain ⟨k, value⟩ := places d List.mem_cons_self
    obtain ⟨k', rest⟩ := ih fun d' member => places d' (List.mem_cons_of_mem _ member)
    refine ⟨k + k', ?_⟩
    rw [List.map_cons, List.sum_cons, value, rest]
    push_cast
    ring

theorem Exact.holds (exact : Exact values) : defaultContext.Holds (-6) (total values) where
  units := by
    obtain ⟨k, value⟩ := total_places exact.places
    exact ⟨k, (sixth _ k).mp value⟩
  small := by
    refine ((abs_total_le values).trans_lt exact.small).trans_le ?_
    simp only [defaultContext]
    norm_num

theorem eTiny_le : defaultContext.eTiny ≤ -6 := by decide

theorem prec_le : (defaultContext.prec : ℤ) + -6 ≤ defaultContext.eMax + 1 := by decide

theorem Exact.sum (exact : Exact values) :
    ∃ sum, defaultContext.sum values = .ok sum ∧ Plain sum (total values) := by
  refine sum_exact eTiny_le prec_le exact.finite ?_ ?_
  · intro d member
    obtain ⟨k, value⟩ := exact.places d member
    exact ⟨k, (sixth _ k).mp value⟩
  · refine exact.small.trans_le ?_
    simp only [defaultContext]
    norm_num

/-! ### Texts -/

theorem floor_sixths (n : ℕ) : ⌊(n : ℚ) * 10 ^ (-6 : ℤ) * 10 ^ 6⌋₊ = n := by
  have whole : (n : ℚ) * 10 ^ (-6 : ℤ) * 10 ^ 6 = n := by
    rw [mul_assoc, zpow_neg]
    norm_num
  rw [whole, Nat.floor_natCast]

theorem decimalString_plain (plain : Plain d x) (holds : defaultContext.Holds (-6) x) :
    decimalString d = .ok (sixPlaces x) := by
  obtain ⟨coefficient, quantized, value⟩ := quantize_exact plain holds eTiny_le prec_le
  have units : ⌊|x| * 10 ^ 6⌋₊ = coefficient := by
    rw [← value, floor_sixths]
  unfold decimalString sixPlaces
  rw [quantized, units]
  rfl

/-- A number with six places and the digits of the context is read back. -/
theorem readDecimal_places (negative : Bool) {units : ℕ} (log : Nat.log 10 units < 28) :
    readDecimal (str (.finite negative units (-6))) = some (.finite negative units (-6)) := by
  rw [readDecimal_str, readExactly, if_pos]
  unfold minETiny maxEMax
  omega

theorem reported_sixPlaces (holds : defaultContext.Holds (-6) x) :
    reported (sixPlaces x) = some x := by
  obtain ⟨k, value, digits⟩ := holds.natAbs_lt
  have magnitude : |x| = k.natAbs * 10 ^ (-6 : ℤ) := by
    rw [value, abs_mul, abs_of_pos (ten_zpow_pos _), ← Int.cast_abs, Int.abs_eq_natAbs,
      Int.cast_natCast]
  have units : ⌊|x| * 10 ^ 6⌋₊ = k.natAbs := by
    rw [magnitude, floor_sixths]
  have log : Nat.log 10 k.natAbs < 28 := Nat.log_lt_of_lt_pow' (by decide) digits
  unfold reported sixPlaces
  rw [units, readDecimal_places _ log]
  exact congrArg some (plain_finite magnitude.symm).value

end

/-! ### Figures -/

section
variable {rows rows' : List NumericRow} {column : Text}

theorem columnSum_exact (exact : Exact (numbers rows column)) (nonempty : numbers rows column ≠ []) :
    ∃ total', sum rows column = .ok (some total') ∧
      Plain total' (total (numbers rows column)) := by
  obtain ⟨total', added, plain⟩ := exact.sum
  refine ⟨total', ?_, plain⟩
  unfold DataAnalysis.sum
  split
  next blank => exact absurd blank nonempty
  · rw [added]
    rfl

theorem columnSum_nil (blank : numbers rows column = []) : sum rows column = .ok none := by
  unfold DataAnalysis.sum
  rw [blank]

/-- The reported sum of a column. -/
def columnText (rows : List NumericRow) (column : Text) : Option Text :=
  if numbers rows column = [] then none else some (sixPlaces (total (numbers rows column)))

theorem optionalDecimal_sum (exact : Exact (numbers rows column)) :
    (sum rows column >>= optionalDecimal) = .ok (columnText rows column) := by
  unfold columnText
  split
  next blank =>
    rw [columnSum_nil blank]
    rfl
  next nonempty =>
    obtain ⟨total', added, plain⟩ := columnSum_exact exact nonempty
    rw [added]
    simp only [bind, Except.bind, optionalDecimal, decimalString_plain plain exact.holds, Except.map]

end

/-! ### The order of the rows -/

/-- Two sums that are absent, or plain with the same value. -/
inductive Alike : Option Decimal → Option Decimal → Prop
  | none : Alike none none
  | some {d d' : Decimal} {x : ℚ} (plain : Plain d x) (plain' : Plain d' x) : Alike (some d) (some d')

section
variable {a a' b b' : Option Decimal} {x : ℚ} {d : Decimal}

theorem le_zero_plain (plain : Plain d x) : d.le Decimal.zero = .ok (decide (x ≤ 0)) := by
  obtain ⟨coefficient, exponent, rfl, -⟩ := plain.eq_finite
  have value := plain.value
  change Except.ok (decide (_ ≤ Decimal.zero.toRat)) = _
  rw [value, Decimal.toRat_zero]

theorem isTrue_plain (plain : Plain d x) : d.isTrue = decide (x ≠ 0) := by
  obtain ⟨coefficient, exponent, rfl, value⟩ := plain.eq_finite
  have power := (ten_zpow_pos exponent).ne'
  have blank : coefficient = 0 ↔ x = 0 := by
    rw [← abs_eq_zero, ← value]
    simp [power]
  simp only [Decimal.isTrue, ne_eq, blank]

theorem Alike.optionalDecimal (alike : Alike a a') :
    optionalDecimal a = optionalDecimal a' := by
  cases alike with
  | none => rfl
  | some plain plain' =>
    simp only [DataAnalysis.optionalDecimal, decimalString, quantize_plain plain plain']

theorem Alike.orElse (first : Alike a a') (second : Alike b b') :
    Alike (orElse a b) (orElse a' b') := by
  cases first with
  | none => exact second
  | some plain plain' =>
    simp only [DataAnalysis.orElse, Option.any_some, isTrue_plain plain, isTrue_plain plain']
    split
    · exact .some plain plain'
    · exact second

/-- The text of a quotient. -/
theorem decimalString_div (d d' : Decimal) :
    (defaultContext.div d d' >>= fun quotient => (decimalString quotient).map some)
      = (defaultContext.div d d' >>= defaultContext.quantize (-6)).map fun q => some (str q) := by
  cases defaultContext.div d d' with
  | error signal => rfl
  | ok quotient =>
    simp only [bind, Except.bind, decimalString]
    cases defaultContext.quantize (-6) quotient with
    | error signal => rfl
    | ok _ => rfl

theorem Alike.rate (numerator : Alike a a') (denominator : Alike b b') : rate a b = rate a' b' := by
  cases numerator with
  | none => rfl
  | some plain plain' =>
    cases denominator with
    | none => rfl
    | some base base' =>
      simp only [DataAnalysis.rate, le_zero_plain base, le_zero_plain base', decimalString_div,
        quantize_div plain plain' base base']

end

section
variable {rows rows' : List NumericRow} {column : Text}

theorem numbers_perm (perm : rows'.Perm rows) (column : Text) :
    (numbers rows' column).Perm (numbers rows column) := perm.filterMap _

theorem total_perm {values values' : List Decimal} (perm : values'.Perm values) :
    total values' = total values := (perm.map Decimal.toRat).sum_eq

theorem sum_alike (exact : Exact (numbers rows column)) (perm : rows'.Perm rows) :
    ∃ a a', sum rows column = .ok a ∧ sum rows' column = .ok a' ∧ Alike a a' := by
  have same := numbers_perm perm column
  by_cases blank : numbers rows column = []
  · have blank' : numbers rows' column = [] := (blank ▸ same).eq_nil
    exact ⟨none, none, columnSum_nil blank, columnSum_nil blank', .none⟩
  · have nonempty : numbers rows' column ≠ [] := fun none => blank (none ▸ same).symm.eq_nil
    obtain ⟨a, added, plain⟩ := columnSum_exact exact blank
    obtain ⟨a', added', plain'⟩ := columnSum_exact (exact.perm same) nonempty
    rw [total_perm same] at plain'
    exact ⟨some a, some a', added, added', .some plain plain'⟩

theorem plain_ofNat (n : ℕ) : Plain (Decimal.ofNat n) n where
  finite := rfl
  value := Decimal.toRat_ofNat n
  sign := by simp [Decimal.ofNat, Decimal.isNegative]

theorem average_perm {values values' : List Decimal} (exact : Exact values)
    (perm : values'.Perm values) : average values' = average values := by
  unfold average
  by_cases blank : values = []
  · subst blank
    rw [perm.eq_nil]
  · have nonempty : values' ≠ [] := fun none => blank (none ▸ perm).symm.eq_nil
    obtain ⟨a, added, plain⟩ := exact.sum
    obtain ⟨a', added', plain'⟩ := (exact.perm perm).sum
    rw [total_perm perm] at plain'
    rw [if_neg blank, if_neg nonempty, added, added', perm.length_eq]
    have count := plain_ofNat values.length
    change (defaultContext.div a' _ >>= fun mean => (decimalString mean).map some)
      = (defaultContext.div a _ >>= fun mean => (decimalString mean).map some)
    rw [decimalString_div, decimalString_div, quantize_div plain' plain count count]

/-- The figures of exact columns do not depend on the order of the rows. -/
theorem metrics_perm (exact : ∀ column ∈ numericColumns, Exact (numbers rows column))
    (perm : rows'.Perm rows) : metrics rows' = metrics rows := by
  obtain ⟨i, i', impressions, impressions', alike_i⟩ :=
    sum_alike (exact "impressions".toList (by decide)) perm
  obtain ⟨c, c', clicks, clicks', alike_c⟩ := sum_alike (exact "clicks".toList (by decide)) perm
  obtain ⟨s, s', spend, spend', alike_s⟩ := sum_alike (exact "spend".toList (by decide)) perm
  obtain ⟨v, v', conversions, conversions', alike_v⟩ :=
    sum_alike (exact "conversions".toList (by decide)) perm
  obtain ⟨n, n', sessions, sessions', alike_n⟩ :=
    sum_alike (exact "sessions".toList (by decide)) perm
  obtain ⟨r, r', revenue, revenue', alike_r⟩ :=
    sum_alike (exact "revenue".toList (by decide)) perm
  have retention := average_perm (exact "retention".toList (by decide))
    (numbers_perm perm "retention".toList)
  unfold metrics
  rw [impressions, impressions', clicks, clicks', spend, spend', conversions, conversions', sessions,
    sessions', revenue, revenue', retention, perm.length_eq]
  simp only [ok_bind, alike_i.optionalDecimal, alike_c.optionalDecimal, alike_s.optionalDecimal,
    alike_v.optionalDecimal, alike_r.optionalDecimal, alike_c.rate alike_i, alike_s.rate alike_c,
    alike_s.rate alike_v, alike_v.rate (alike_c.orElse alike_n), alike_r.rate alike_s]

end

end CyberLegends.DataAnalysis
