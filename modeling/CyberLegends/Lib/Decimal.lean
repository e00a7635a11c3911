import CyberLegends.Lib.Rounding
import Mathlib.Data.Nat.Log

/-! Decimal floating point: the operations round their exact result once, to the digits of a context,
and signal what they cannot answer. -/

namespace CyberLegends.Lib

inductive Decimal
  | finite (negative : Bool) (coefficient : ℕ) (exponent : ℤ)
  | infinity (negative : Bool)
  | nan (negative signaling : Bool) (payload : ℕ)
  deriving DecidableEq, Repr

/-- What a context traps. -/
inductive Signal
  | invalidOperation
  | divisionByZero
  | overflow
  deriving DecidableEq, Repr

namespace Decimal

/-- The value of a finite number. -/
def toRat : Decimal → ℚ
  | finite negative coefficient exponent =>
    if negative then -(coefficient * 10 ^ exponent) else coefficient * 10 ^ exponent
  | _ => 0

def isFinite : Decimal → Bool
  | finite _ _ _ => true
  | _ => false

def isNegative : Decimal → Bool
  | finite negative _ _ => negative
  | infinity negative => negative
  | nan negative _ _ => negative

/-- Whether a number counts as true. -/
def isTrue : Decimal → Bool
  | finite _ coefficient _ => coefficient ≠ 0
  | _ => true

def zero : Decimal := finite false 0 0

def ofNat (n : ℕ) : Decimal := finite false n 0

/-- The sign is turned, that of a number which is not a number excepted. -/
def negated : Decimal → Decimal
  | .finite negative coefficient exponent => .finite (!negative) coefficient exponent
  | .infinity negative => .infinity (!negative)
  | .nan negative signaling payload => .nan negative signaling payload

/-- An order that signals what it cannot compare. -/
def le : Decimal → Decimal → Except Signal Bool
  | .nan _ _ _, _ => .error .invalidOperation
  | _, .nan _ _ _ => .error .invalidOperation
  | .infinity negative, .infinity negative' => .ok (negative || !negative')
  | .infinity negative, .finite _ _ _ => .ok negative
  | .finite _ _ _, .infinity negative' => .ok !negative'
  | .finite negative coefficient exponent, .finite negative' coefficient' exponent' =>
    .ok (decide ((finite negative coefficient exponent).toRat
      ≤ (finite negative' coefficient' exponent').toRat))

/-- An equality that is false of what is not a number. -/
def eq : Decimal → Decimal → Except Signal Bool
  | .nan _ true _, _ => .error .invalidOperation
  | _, .nan _ true _ => .error .invalidOperation
  | .nan _ false _, _ => .ok false
  | _, .nan _ false _ => .ok false
  | .infinity negative, .infinity negative' => .ok (negative == negative')
  | .infinity _, .finite _ _ _ => .ok false
  | .finite _ _ _, .infinity _ => .ok false
  | .finite negative coefficient exponent, .finite negative' coefficient' exponent' =>
    .ok (decide ((finite negative coefficient exponent).toRat
      = (finite negative' coefficient' exponent').toRat))

@[simp] theorem toRat_zero : zero.toRat = 0 := by simp [zero, toRat]

@[simp] theorem toRat_ofNat (n : ℕ) : (ofNat n).toRat = n := by simp [ofNat, toRat]

theorem abs_toRat (negative : Bool) (coefficient : ℕ) (exponent : ℤ) :
    |(finite negative coefficient exponent).toRat| = coefficient * 10 ^ exponent := by
  have nonneg : (0 : ℚ) ≤ coefficient * 10 ^ exponent :=
    mul_nonneg (Nat.cast_nonneg _) (Context.ten_zpow_pos _).le
  cases negative with
  | false => simp [toRat, abs_of_nonneg nonneg]
  | true => simp [toRat, abs_of_nonneg nonneg]

end Decimal

namespace Context
variable (context : Context)

/-! ### Operations -/

/-- Zeros at the end of a coefficient are dropped, at most so many. -/
def trim : ℕ → ℕ → ℤ → ℕ × ℤ
  | 0, coefficient, exponent => (coefficient, exponent)
  | most + 1, coefficient, exponent =>
    if coefficient % 10 = 0 then trim most (coefficient / 10) (exponent + 1)
    else (coefficient, exponent)

/-- The result of an operation with the sign and the exact magnitude. An exact result keeps as close to
the ideal exponent as its digits let it. -/
def finish (negative : Bool) (x : ℚ) (ideal : ℤ) : Except Signal Decimal :=
  if x = 0 then .ok (.finite negative 0 (min (max ideal context.eTiny) context.eMax))
  else
    let place := context.place x
    let coefficient := halfEven (x / 10 ^ place)
    -- rounding up can reach one digit more than the context has
    let kept := if coefficient < 10 ^ context.prec then (coefficient, place)
      else (coefficient / 10, place + 1)
    if context.eTop < kept.2 then .error .overflow
    else if coefficient * 10 ^ place = x then
      let shown := trim (ideal - kept.2).toNat kept.1 kept.2
      .ok (.finite negative shown.1 shown.2)
    else .ok (.finite negative kept.1 kept.2)

/-- What an operation makes of a number that is not a number. -/
def quiet (negative : Bool) (payload : ℕ) : Decimal :=
  .nan negative false (payload % 10 ^ context.prec)

def add : Decimal → Decimal → Except Signal Decimal
  | .nan _ true _, _ => .error .invalidOperation
  | _, .nan _ true _ => .error .invalidOperation
  | .nan negative false payload, _ => .ok (context.quiet negative payload)
  | _, .nan negative false payload => .ok (context.quiet negative payload)
  | .infinity negative, .infinity negative' =>
    if negative = negative' then .ok (.infinity negative) else .error .invalidOperation
  | .infinity negative, .finite _ _ _ => .ok (.infinity negative)
  | .finite _ _ _, .infinity negative => .ok (.infinity negative)
  | .finite negative coefficient exponent, .finite negative' coefficient' exponent' =>
    let sum := (Decimal.finite negative coefficient exponent).toRat
      + (Decimal.finite negative' coefficient' exponent').toRat
    context.finish (if sum = 0 then negative && negative' else decide (sum < 0)) |sum|
      (min exponent exponent')

def sub (a b : Decimal) : Except Signal Decimal := context.add a b.negated

def abs : Decimal → Except Signal Decimal
  | .nan _ true _ => .error .invalidOperation
  | .nan negative false payload => .ok (context.quiet negative payload)
  | .infinity _ => .ok (.infinity false)
  | .finite _ coefficient exponent =>
    context.finish false (coefficient * 10 ^ exponent) exponent

def div : Decimal → Decimal → Except Signal Decimal
  | .nan _ true _, _ => .error .invalidOperation
  | _, .nan _ true _ => .error .invalidOperation
  | .nan negative false payload, _ => .ok (context.quiet negative payload)
  | _, .nan negative false payload => .ok (context.quiet negative payload)
  | .infinity _, .infinity _ => .error .invalidOperation
  | .infinity negative, .finite negative' _ _ => .ok (.infinity (negative != negative'))
  | .finite negative _ _, .infinity negative' =>
    .ok (.finite (negative != negative') 0 context.eTiny)
  | .finite negative coefficient exponent, .finite negative' coefficient' exponent' =>
    if coefficient' = 0 then
      .error (if coefficient = 0 then .invalidOperation else .divisionByZero)
    else
      context.finish (negative != negative')
        (coefficient * 10 ^ exponent / (coefficient' * 10 ^ exponent')) (exponent - exponent')

/-- Ties go away from zero. -/
def quantize (exponent : ℤ) : Decimal → Except Signal Decimal
  | .nan _ true _ => .error .invalidOperation
  | .nan negative false payload => .ok (context.quiet negative payload)
  | .infinity _ => .error .invalidOperation
  | .finite negative coefficient exponent' =>
    let units := halfUp (coefficient * 10 ^ exponent' / 10 ^ exponent)
    if context.eTiny ≤ exponent ∧ exponent ≤ context.eMax ∧ units < 10 ^ context.prec ∧
        exponent + Nat.log 10 units ≤ context.eMax then
      .ok (.finite negative units exponent)
    else .error .invalidOperation

/-- The numbers are added from the left, to zero. -/
def sum (values : List Decimal) : Except Signal Decimal :=
  values.foldlM context.add Decimal.zero

/-! ### The value of a result -/

section
variable {context} {x : ℚ} {ideal : ℤ} {negative : Bool}

theorem trim_value (most coefficient : ℕ) (exponent : ℤ) :
    ((trim most coefficient exponent).1 : ℚ) * 10 ^ (trim most coefficient exponent).2
      = coefficient * 10 ^ exponent := by
  induction most generalizing coefficient exponent with
  | zero => rfl
  | succ most ih =>
    unfold trim
    split
    next whole =>
      have tens : ((coefficient / 10 : ℕ) : ℚ) * 10 = coefficient := by
        exact_mod_cast Nat.div_mul_cancel (Nat.dvd_of_mod_eq_zero whole)
      rw [ih, zpow_add_one₀ (by norm_num), ← tens]
      ring
    · rfl

theorem halfEven_place_le (context : Context) (positive : 0 < x) :
    halfEven (x / 10 ^ context.place x) ≤ 10 ^ context.prec := by
  refine halfEven_le_of_le_natCast (div_nonneg positive.le (ten_zpow_pos _).le) ?_
  have below : x < 10 ^ (Int.log 10 x + 1) := by
    have := Int.lt_zpow_succ_log_self (b := 10) (by norm_num) x
    exact_mod_cast this
  rw [div_le_iff₀ (ten_zpow_pos _), Nat.cast_pow, Nat.cast_ofNat, ← zpow_natCast,
    ← zpow_add₀ (by norm_num)]
  refine below.le.trans (zpow_le_zpow_right₀ (by norm_num) ?_)
  have : Int.log 10 x - (context.prec - 1) ≤ context.place x := le_max_left _ _
  omega

/-- What an operation keeps of its coefficient and exponent has the value of the rounded magnitude. An
exponent that is too great belongs to a magnitude beyond the greatest. -/
theorem kept_value (context : Context) (positive : 0 < x) :
    ∃ kept : ℕ × ℤ,
      (if halfEven (x / 10 ^ context.place x) < 10 ^ context.prec then
        (halfEven (x / 10 ^ context.place x), context.place x)
      else (halfEven (x / 10 ^ context.place x) / 10, context.place x + 1)) = kept ∧
      (kept.1 : ℚ) * 10 ^ kept.2 = context.round x ∧ kept.1 < 10 ^ context.prec ∧
      (context.eTop < kept.2 → 10 ^ (context.eMax + 1) ≤ context.round x) := by
  have digits := context.prec_pos
  have ordered := context.ordered
  have most := context.halfEven_place_le positive
  refine ⟨_, rfl, ?_⟩
  split
  next fits =>
    refine ⟨rfl, fits, fun high => zpow_le_round ?_ ?_⟩
    · unfold eTiny
      omega
    · -- the place is that of the leading digit, as no place of a small number is so great
      have leading : context.eMax + 1 ≤ Int.log 10 x := by
        simp only [eTop, place, eTiny] at high
        omega
      exact (zpow_le_zpow_right₀ (by norm_num) leading).trans (zpow_log_le positive)
  next carried =>
    have full : halfEven (x / 10 ^ context.place x) = 10 ^ context.prec := by omega
    have tens : 10 ^ context.prec / 10 * 10 = 10 ^ context.prec :=
      Nat.div_mul_cancel (dvd_pow_self 10 digits.ne')
    have value : ((10 ^ context.prec / 10 : ℕ) : ℚ) * 10 ^ (context.place x + 1)
        = context.round x := by
      unfold round
      rw [full, zpow_add_one₀ (by norm_num)]
      nth_rewrite 2 [← tens]
      push_cast
      ring
    refine ⟨by rw [full]; exact value, ?_, fun high => ?_⟩
    · rw [full]
      have : 0 < 10 ^ context.prec := Nat.pow_pos (by decide)
      omega
    unfold round
    rw [full, Nat.cast_pow, Nat.cast_ofNat, ← zpow_natCast, ← zpow_add₀ (by norm_num)]
    refine zpow_le_zpow_right₀ (by norm_num) ?_
    simp only [eTop] at high
    omega

/-- An operation answers with the rounded magnitude, unless that is beyond the greatest. -/
theorem finish_cases (nonneg : 0 ≤ x) (negative : Bool) (ideal : ℤ) :
    (∃ coefficient exponent,
      context.finish negative x ideal = .ok (.finite negative coefficient exponent) ∧
        (coefficient : ℚ) * 10 ^ exponent = context.round x ∧
        context.round x < 10 ^ (context.eMax + 1)) ∨
      (context.finish negative x ideal = .error .overflow ∧
        10 ^ (context.eMax + 1) ≤ context.round x) := by
  rcases nonneg.eq_or_lt with rfl | positive
  · refine .inl ⟨0, min (max ideal context.eTiny) context.eMax, ?_, ?_, ?_⟩
    · simp [finish]
    · simp
    · rw [round_zero]
      exact ten_zpow_pos _
  obtain ⟨kept, kept_eq, value, digits, high⟩ := context.kept_value positive
  simp only [finish, if_neg positive.ne', kept_eq]
  split
  next exceeds => exact .inr ⟨rfl, high exceeds⟩
  next within =>
    have small : context.round x < 10 ^ (context.eMax + 1) := by
      have less : (kept.1 : ℚ) < 10 ^ context.prec := by exact_mod_cast digits
      rw [← value]
      refine (mul_lt_mul_of_pos_right less (ten_zpow_pos _)).trans_le ?_
      rw [← full_zpow]
      refine zpow_le_zpow_right₀ (by norm_num) ?_
      simp only [eTop] at within
      omega
    split
    · refine .inl ⟨_, _, rfl, ?_, small⟩
      rw [trim_value, value]
    · exact .inl ⟨_, _, rfl, value, small⟩

theorem finish_ok (nonneg : 0 ≤ x) (small : context.round x < 10 ^ (context.eMax + 1))
    (negative : Bool) (ideal : ℤ) :
    ∃ coefficient exponent,
      context.finish negative x ideal = .ok (.finite negative coefficient exponent) ∧
        (coefficient : ℚ) * 10 ^ exponent = context.round x := by
  rcases context.finish_cases nonneg negative ideal with
    ⟨coefficient, exponent, answered, value, -⟩ | ⟨-, great⟩
  · exact ⟨coefficient, exponent, answered, value⟩
  · exact absurd small (not_lt.mpr great)

/-- Quantizing tells numbers apart by their sign and value only. -/
theorem quantize_congr {coefficient coefficient' : ℕ} {exponent exponent' : ℤ}
    (value : (coefficient : ℚ) * 10 ^ exponent = coefficient' * 10 ^ exponent') (m : ℤ) :
    context.quantize m (.finite negative coefficient exponent)
      = context.quantize m (.finite negative coefficient' exponent') := by
  simp only [quantize, value]

/-- What is quantized of a result does not depend on the ideal exponent. -/
theorem quantize_finish (nonneg : 0 ≤ x) (ideal ideal' m : ℤ) :
    (context.finish negative x ideal >>= context.quantize m)
      = (context.finish negative x ideal' >>= context.quantize m) := by
  rcases context.finish_cases nonneg negative ideal with
    ⟨coefficient, exponent, answered, value, small⟩ | ⟨exceeds, great⟩
  · obtain ⟨coefficient', exponent', answered', value'⟩ := finish_ok nonneg small negative ideal'
    rw [answered, answered']
    exact quantize_congr (value.trans value'.symm) m
  · rcases context.finish_cases nonneg negative ideal' with ⟨-, -, -, -, small⟩ | ⟨exceeds', -⟩
    · exact absurd small (not_lt.mpr great)
    · rw [exceeds, exceeds']

end

/-! ### Results that are numbers or too great -/

/-- A computation answers with a finite number, unless its result is too great. -/
def Bounded (x : Except Signal Decimal) : Prop :=
  (∃ number, x = .ok number ∧ number.isFinite) ∨ x = .error .overflow

section
variable {context} {a b : Decimal}

theorem Bounded.bind {α : Type} {x : Except Signal Decimal} {f : Decimal → Except Signal α}
    (bounded : Bounded x) {signal : Signal}
    (next : ∀ number, f number = .error signal → signal = .overflow)
    (error : x >>= f = .error signal) : signal = .overflow := by
  rcases bounded with ⟨number, rfl, -⟩ | rfl
  · exact next number error
  · exact (Except.error.inj error).symm

theorem finish_bounded {x : ℚ} (nonneg : 0 ≤ x) (negative : Bool) (ideal : ℤ) :
    Bounded (context.finish negative x ideal) := by
  rcases context.finish_cases nonneg negative ideal with
    ⟨coefficient, exponent, answered, -, -⟩ | ⟨exceeds, -⟩
  · exact .inl ⟨_, answered, rfl⟩
  · exact .inr exceeds

theorem add_bounded (first : a.isFinite) (second : b.isFinite) : Bounded (context.add a b) := by
  match a, b, first, second with
  | .finite _ _ _, .finite _ _ _, _, _ => exact finish_bounded (abs_nonneg _) _ _

theorem foldlM_add_bounded {values : List Decimal} (start : a.isFinite)
    (finite : ∀ d ∈ values, d.isFinite) : Bounded (values.foldlM context.add a) := by
  induction values generalizing a with
  | nil => exact .inl ⟨a, rfl, start⟩
  | cons d values ih =>
    obtain ⟨here, later⟩ := List.forall_mem_cons.mp finite
    rw [List.foldlM_cons]
    rcases context.add_bounded start here with ⟨total, added, number⟩ | exceeds
    · rw [added]
      exact ih number later
    · rw [exceeds]
      exact .inr rfl

theorem sum_bounded {values : List Decimal} (finite : ∀ d ∈ values, d.isFinite) :
    Bounded (context.sum values) :=
  foldlM_add_bounded rfl finite

theorem div_bounded {negative : Bool} {coefficient : ℕ} {exponent : ℤ} (first : a.isFinite)
    (divisor : coefficient ≠ 0) :
    Bounded (context.div a (.finite negative coefficient exponent)) := by
  match a, first with
  | .finite _ _ _, _ =>
    rw [div, if_neg divisor]
    refine finish_bounded (div_nonneg ?_ ?_) _ _
    · exact mul_nonneg (Nat.cast_nonneg _) (ten_zpow_pos _).le
    · exact mul_nonneg (Nat.cast_nonneg _) (ten_zpow_pos _).le

end

/-! ### Exact results -/

/-- The number is finite and has the value, with the sign of the value. -/
structure Plain (number : Decimal) (x : ℚ) : Prop where
  finite : number.isFinite
  value : number.toRat = x
  sign : number.isNegative = decide (x < 0)

/-- Such a number is made of the sign and the magnitude of its value. -/
theorem Plain.eq_finite {number : Decimal} {x : ℚ} (plain : Plain number x) :
    ∃ coefficient exponent, number = .finite (decide (x < 0)) coefficient exponent ∧
      (coefficient : ℚ) * 10 ^ exponent = |x| := by
  match number, plain with
  | .finite negative coefficient exponent, plain =>
    have sign : negative = decide (x < 0) := plain.sign
    refine ⟨coefficient, exponent, by rw [sign], ?_⟩
    rw [← Decimal.abs_toRat negative, plain.value]

theorem plain_zero : Plain Decimal.zero 0 where
  finite := rfl
  value := Decimal.toRat_zero
  sign := by simp [Decimal.zero, Decimal.isNegative]

section
variable {context} {m : ℤ}

/-- What a context holds exactly: whole units of `10 ^ m`, no more of them than its digits count. -/
structure Holds (context : Context) (m : ℤ) (x : ℚ) : Prop where
  units : ∃ k : ℤ, x = k * 10 ^ m
  small : |x| < 10 ^ (context.prec + m : ℤ)

theorem Holds.natAbs_lt {x : ℚ} (holds : Holds context m x) :
    ∃ k : ℤ, x = k * 10 ^ m ∧ k.natAbs < 10 ^ context.prec := by
  obtain ⟨k, value⟩ := holds.units
  refine ⟨k, value, ?_⟩
  have small := holds.small
  rw [full_zpow, value, abs_mul, abs_of_pos (ten_zpow_pos m)] at small
  have less := lt_of_mul_lt_mul_right small (ten_zpow_pos m).le
  rw [← Int.cast_abs, Int.abs_eq_natAbs, Int.cast_natCast] at less
  exact_mod_cast less

theorem Holds.round_abs {x : ℚ} (holds : Holds context m x) (low : context.eTiny ≤ m) :
    context.round |x| = |x| := by
  obtain ⟨k, value, digits⟩ := holds.natAbs_lt
  refine round_eq_self (n := k.natAbs) ?_ low digits
  rw [value, abs_mul, abs_of_pos (ten_zpow_pos m), ← Int.cast_abs, Int.abs_eq_natAbs,
    Int.cast_natCast]

variable {x y : ℚ} {a b : Decimal}

theorem Holds.lt_greatest (holds : Holds context m x) (low : context.eTiny ≤ m)
    (high : context.prec + m ≤ context.eMax + 1) :
    context.round |x| < 10 ^ (context.eMax + 1) := by
  rw [holds.round_abs low]
  exact holds.small.trans_le (zpow_le_zpow_right₀ (by norm_num) high)

theorem plain_finite {coefficient : ℕ} {exponent : ℤ}
    (magnitude : (coefficient : ℚ) * 10 ^ exponent = |x|) :
    Plain (.finite (decide (x < 0)) coefficient exponent) x where
  finite := rfl
  sign := rfl
  value := by
    by_cases below : x < 0
    · simp [Decimal.toRat, below, magnitude, abs_of_neg]
    · simp [Decimal.toRat, below, magnitude, abs_of_nonneg (not_lt.mp below)]

/-- The sign of a sum is that of its value, as a zero gets a sign only from two negative numbers. -/
theorem sum_sign {negative negative' : Bool} {coefficient' : ℕ} {exponent' : ℤ}
    (sign : negative = decide (x < 0))
    (second : (Decimal.finite negative' coefficient' exponent').toRat = y) :
    (if x + y = 0 then negative && negative' else decide (x + y < 0)) = decide (x + y < 0) := by
  split
  next zero =>
    rw [zero, sign]
    by_cases below : x < 0
    · have positive : ¬ y ≤ 0 := by linarith
      have magnitude : (0 : ℚ) ≤ coefficient' * 10 ^ exponent' :=
        mul_nonneg (Nat.cast_nonneg _) (ten_zpow_pos _).le
      cases negative' with
      | false => simp
      | true =>
        refine absurd ?_ positive
        rw [← second]
        simpa [Decimal.toRat] using magnitude
    · simp [below]
  · rfl

theorem add_exact (first : Plain a x) (finite : b.isFinite) (second : b.toRat = y)
    (holds : Holds context m (x + y)) (low : context.eTiny ≤ m)
    (high : context.prec + m ≤ context.eMax + 1) :
    ∃ total, context.add a b = .ok total ∧ Plain total (x + y) := by
  match a, b, first.finite, finite with
  | .finite negative coefficient exponent, .finite negative' coefficient' exponent', _, _ =>
    obtain ⟨units, place, answered, magnitude⟩ := context.finish_ok (abs_nonneg (x + y))
      (holds.lt_greatest low high) (decide (x + y < 0)) (min exponent exponent')
    refine ⟨_, ?_, plain_finite (magnitude.trans (holds.round_abs low))⟩
    have sign := sum_sign (show negative = decide (x < 0) from first.sign) second
    rw [← answered, ← sign]
    simp only [add, first.value, second]

/-- A sum of whole units is exact as long as no partial sum outgrows the digits. -/
theorem foldlM_add_exact {values : List Decimal} (low : context.eTiny ≤ m)
    (high : context.prec + m ≤ context.eMax + 1)
    (finite : ∀ d ∈ values, d.isFinite) (units : ∀ d ∈ values, ∃ k : ℤ, d.toRat = k * 10 ^ m)
    (plain : Plain a x) (whole : ∃ k : ℤ, x = k * 10 ^ m)
    (small : |x| + (values.map fun d => |d.toRat|).sum < 10 ^ (context.prec + m : ℤ)) :
    ∃ total, values.foldlM context.add a = .ok total ∧
      Plain total (x + (values.map Decimal.toRat).sum) := by
  induction values generalizing a x with
  | nil => exact ⟨a, rfl, by simpa using plain⟩
  | cons d values ih =>
    obtain ⟨k, value⟩ := whole
    obtain ⟨k', value'⟩ := units d List.mem_cons_self
    rw [List.map_cons, List.sum_cons] at small
    have sum : ∃ k : ℤ, x + d.toRat = k * 10 ^ m := ⟨k + k', by rw [value, value']; push_cast; ring⟩
    have rest : 0 ≤ (values.map fun d => |d.toRat|).sum :=
      List.sum_nonneg (by simp)
    have triangle := abs_add_le x d.toRat
    have holds : Holds context m (x + d.toRat) := ⟨sum, by linarith⟩
    obtain ⟨total, added, plain'⟩ :=
      add_exact plain (finite d List.mem_cons_self) rfl holds low high
    obtain ⟨result, folded, answer⟩ := ih (fun d' member => finite d' (List.mem_cons_of_mem _ member))
      (fun d' member => units d' (List.mem_cons_of_mem _ member)) plain' sum (by linarith)
    refine ⟨result, ?_, ?_⟩
    · rw [List.foldlM_cons, added]
      exact folded
    · rw [List.map_cons, List.sum_cons, ← add_assoc]
      exact answer

theorem sum_exact {values : List Decimal} (low : context.eTiny ≤ m)
    (high : context.prec + m ≤ context.eMax + 1)
    (finite : ∀ d ∈ values, d.isFinite) (units : ∀ d ∈ values, ∃ k : ℤ, d.toRat = k * 10 ^ m)
    (small : (values.map fun d => |d.toRat|).sum < 10 ^ (context.prec + m : ℤ)) :
    ∃ total, context.sum values = .ok total ∧ Plain total (values.map Decimal.toRat).sum := by
  have start := foldlM_add_exact low high finite units plain_zero ⟨0, by simp⟩ (by simpa using small)
  rwa [zero_add] at start

theorem coefficient_eq_zero_iff {coefficient coefficient' : ℕ} {exponent exponent' : ℤ}
    (value : (coefficient : ℚ) * 10 ^ exponent = coefficient' * 10 ^ exponent') :
    coefficient = 0 ↔ coefficient' = 0 := by
  have power := (ten_zpow_pos exponent).ne'
  have power' := (ten_zpow_pos exponent').ne'
  constructor
  · rintro rfl
    simpa [power'] using value.symm
  · rintro rfl
    simpa [power] using value

theorem quantize_exact (plain : Plain a x) (holds : Holds context m x) (low : context.eTiny ≤ m)
    (high : context.prec + m ≤ context.eMax + 1) :
    ∃ coefficient, context.quantize m a = .ok (.finite (decide (x < 0)) coefficient m) ∧
      (coefficient : ℚ) * 10 ^ m = |x| := by
  obtain ⟨k, value, digits⟩ := holds.natAbs_lt
  have magnitude : (k.natAbs : ℚ) * 10 ^ m = |x| := by
    rw [value, abs_mul, abs_of_pos (ten_zpow_pos m), ← Int.cast_abs, Int.abs_eq_natAbs,
      Int.cast_natCast]
  obtain ⟨coefficient, exponent, rfl, magnitude'⟩ := plain.eq_finite
  refine ⟨k.natAbs, ?_, magnitude⟩
  have units : (coefficient : ℚ) * 10 ^ exponent / 10 ^ m = k.natAbs := by
    rw [magnitude', ← magnitude, mul_div_cancel_right₀ _ (ten_zpow_pos m).ne']
  have last : Nat.log 10 k.natAbs < context.prec :=
    Nat.log_lt_of_lt_pow' context.prec_pos.ne' digits
  have positive := context.prec_pos
  simp only [quantize, units, halfUp_natCast]
  rw [if_pos ⟨low, by omega, digits, by omega⟩]

/-- Operands with the same values have quotients that quantize to the same. -/
theorem quantize_div {a' b' : Decimal} (first : Plain a x) (first' : Plain a' x) (second : Plain b y)
    (second' : Plain b' y) (m : ℤ) :
    (context.div a b >>= context.quantize m) = (context.div a' b' >>= context.quantize m) := by
  obtain ⟨c, e, rfl, value⟩ := first.eq_finite
  obtain ⟨c', e', rfl, value'⟩ := first'.eq_finite
  obtain ⟨d, f, rfl, base⟩ := second.eq_finite
  obtain ⟨d', f', rfl, base'⟩ := second'.eq_finite
  have blank : c = 0 ↔ c' = 0 := coefficient_eq_zero_iff (value.trans value'.symm)
  have blank' : d = 0 ↔ d' = 0 := coefficient_eq_zero_iff (base.trans base'.symm)
  simp only [div, value, value', base, base', blank, blank']
  split
  · rfl
  · exact quantize_finish (div_nonneg (abs_nonneg x) (abs_nonneg y)) _ _ m

theorem quantize_plain {a' : Decimal} (first : Plain a x) (first' : Plain a' x) (m : ℤ) :
    context.quantize m a = context.quantize m a' := by
  obtain ⟨c, e, rfl, value⟩ := first.eq_finite
  obtain ⟨c', e', rfl, value'⟩ := first'.eq_finite
  exact quantize_congr (value.trans value'.symm) m

end

end Context
end CyberLegends.Lib
