import CyberLegends.Agents.Sanitization
import CyberLegends.Core.Integers
import CyberLegends.Lib.Decimal
import Mathlib.Tactic.IntervalCases

/-! Decimal numbers and the texts that stand for them. -/

namespace CyberLegends.DataAnalysis

open CyberLegends.Core Lib Agents

abbrev Text := List Char

/-- The comparison by which columns and values are looked for is the equality of texts. -/
theorem lawfulBEq_text : LawfulBEq Text := inferInstance

/-! ### Reading -/

/-- The largest exponent of a leading digit, whatever the context. -/
def maxEMax : ℤ := 999999999999999999

/-- The least exponent of a coefficient, whatever the context. -/
def minETiny : ℤ := -1999999999999999997

/-- A number is read exactly or not at all. -/
def readExactly (negative : Bool) (coefficient : ℕ) (exponent : ℤ) : Option Decimal :=
  if minETiny ≤ exponent ∧ exponent + Nat.log 10 coefficient ≤ maxEMax then
    some (.finite negative coefficient exponent)
  else none

/-- The digits of an exponent, with its sign. -/
def readInteger (negative : Bool) (digits : Text) : Option ℤ :=
  if digits ≠ [] ∧ digits.all Char.isDigit then
    let value : ℤ := Nat.ofDigitChars 10 digits 0
    some (if negative then -value else value)
  else none

/-- The exponent of a number, after the letter that announces it. -/
def readExponent : Text → Option ℤ
  | [] => some 0
  | _ :: '-' :: digits => readInteger true digits
  | _ :: '+' :: digits => readInteger false digits
  | _ :: digits => readInteger false digits

def readFinite (negative : Bool) (chars : Text) : Option Decimal :=
  let mantissa := chars.takeWhile (· ≠ 'e')
  let integer := mantissa.takeWhile (· ≠ '.')
  let fraction := (mantissa.dropWhile (· ≠ '.')).drop 1
  if integer ++ fraction ≠ [] ∧ (integer ++ fraction).all Char.isDigit then
    match readExponent (chars.dropWhile (· ≠ 'e')) with
    | none => none
    | some exponent =>
      readExactly negative (Nat.ofDigitChars 10 (integer ++ fraction) 0)
        (exponent - fraction.length)
  else none

/-- What follows the word for a number that is none. -/
def readPayload (negative signaling : Bool) (digits : Text) : Option Decimal :=
  if digits.all Char.isDigit then
    some (.nan negative signaling (Nat.ofDigitChars 10 digits 0))
  else none

/-- A number without its sign. -/
def readUnsigned (negative : Bool) : Text → Option Decimal
  | ['i', 'n', 'f'] => some (.infinity negative)
  | ['i', 'n', 'f', 'i', 'n', 'i', 't', 'y'] => some (.infinity negative)
  | 'n' :: 'a' :: 'n' :: digits => readPayload negative false digits
  | 's' :: 'n' :: 'a' :: 'n' :: digits => readPayload negative true digits
  | chars => readFinite negative chars

/-- A character of a number in ASCII. -/
def asciiOf (c : Char) : Option Char :=
  if c.toNat < 128 then some c
  else if isSpace c then some ' '
  else (decimalDigit c).map Nat.digitChar

def readSigned : Text → Option Decimal
  | '-' :: chars => readUnsigned true chars
  | '+' :: chars => readUnsigned false chars
  | chars => readUnsigned false chars

/-- `Decimal` of a text; none where the conversion is an invalid operation. -/
def readDecimal (text : Text) : Option Decimal :=
  match ((strip isSpace text).filter (· ≠ '_')).mapM asciiOf with
  | none => none
  | some chars => readSigned (chars.map Char.toLower)

/-! ### Printing -/

def signText (negative : Bool) : Text := if negative then ['-'] else []

/-- The digits with so many of them before the point. -/
def placed (digits : Text) (point : ℤ) : Text :=
  if point ≤ 0 then '0' :: '.' :: (List.replicate (-point).toNat '0' ++ digits)
  else if digits.length ≤ point.toNat then
    digits ++ List.replicate (point.toNat - digits.length) '0'
  else digits.take point.toNat ++ '.' :: digits.drop point.toNat

def scaleText (scale : ℤ) : Text :=
  if scale = 0 then []
  else 'E' :: (if scale < 0 then '-' else '+') :: Nat.toDigits 10 scale.natAbs

/-- `str` of a number. -/
def str : Decimal → Text
  | .infinity negative => signText negative ++ "Infinity".toList
  | .nan negative signaling payload =>
    signText negative ++ (if signaling then "sNaN" else "NaN").toList ++
      if payload = 0 then [] else Nat.toDigits 10 payload
  | .finite negative coefficient exponent =>
    let digits := Nat.toDigits 10 coefficient
    let left := exponent + digits.length
    -- numbers that are neither large nor very small are printed without an exponent
    let point := if exponent ≤ 0 ∧ -6 < left then left else 1
    signText negative ++ placed digits point ++ scaleText (left - point)

example : readDecimal "\u0661_2.50".toList = some (.finite false 1250 (-2)) := by decide +kernel

example : str (.finite true 5 (-6)) = "-0.000005".toList := by decide +kernel

/-! ### What is printed is read back -/

theorem digit_ne {c d : Char} (digit : c.isDigit) (other : d.isDigit = false) : c ≠ d := by
  rintro rfl
  rw [digit] at other
  cases other

/-- The fraction of a number with its point, when it has one. -/
def pointText (fraction : Text) : Text := if fraction = [] then [] else '.' :: fraction

theorem split_point {integer : Text} (fraction : Text) (digits : ∀ c ∈ integer, c.isDigit) :
    (integer ++ pointText fraction).takeWhile (· ≠ '.') = integer ∧
      ((integer ++ pointText fraction).dropWhile (· ≠ '.')).drop 1 = fraction := by
  have before : ∀ c ∈ integer, decide (c ≠ '.') = true := fun c member =>
    decide_eq_true (digit_ne (digits c member) (by decide))
  rw [List.takeWhile_append_of_pos before, List.dropWhile_append_of_pos before]
  unfold pointText
  split
  next whole => simp [whole]
  · simp

theorem readFinite_parts (negative : Bool) {integer fraction scale : Text} {exponent : ℤ}
    (some_integer : integer ≠ []) (digits : ∀ c ∈ integer ++ fraction, c.isDigit)
    (announced : ∀ c ∈ scale.head?, c = 'e') (read : readExponent scale = some exponent) :
    readFinite negative (integer ++ pointText fraction ++ scale)
      = readExactly negative (Nat.ofDigitChars 10 (integer ++ fraction) 0)
          (exponent - fraction.length) := by
  have no_letter : ∀ c ∈ integer ++ pointText fraction, decide (c ≠ 'e') = true := by
    intro c member
    refine decide_eq_true ?_
    rcases List.mem_append.mp member with front | back
    · exact digit_ne (digits c (List.mem_append_left _ front)) (by decide)
    · unfold pointText at back
      split at back
      · cases back
      · rcases List.mem_cons.mp back with rfl | later
        · decide
        · exact digit_ne (digits c (List.mem_append_right _ later)) (by decide)
  have letter : scale.takeWhile (· ≠ 'e') = [] ∧ scale.dropWhile (· ≠ 'e') = scale := by
    cases scale with
    | nil => exact ⟨rfl, rfl⟩
    | cons c rest =>
      rw [announced c rfl]
      exact ⟨rfl, rfl⟩
  obtain ⟨whole, part⟩ := split_point fraction
    fun c member => digits c (List.mem_append_left _ member)
  have all : (integer ++ fraction).all Char.isDigit = true := List.all_eq_true.mpr digits
  have nonempty : integer ++ fraction ≠ [] := by
    simp [some_integer]
  unfold readFinite
  rw [List.takeWhile_append_of_pos no_letter, List.dropWhile_append_of_pos no_letter, letter.1,
    letter.2, List.append_nil]
  simp only [whole, part, if_pos (And.intro nonempty all), read]

/-- The places of a number whose point stands among its digits or before them. -/
theorem placed_parts {digits : Text} {point : ℤ} (some_digit : digits ≠ [])
    (le : point ≤ digits.length) :
    ∃ integer fraction, placed digits point = integer ++ pointText fraction ∧
      integer ≠ [] ∧ (fraction.length : ℤ) = digits.length - point ∧
      (∀ c ∈ integer ++ fraction, c = '0' ∨ c ∈ digits) ∧
      Nat.ofDigitChars 10 (integer ++ fraction) 0 = Nat.ofDigitChars 10 digits 0 := by
  have length := List.length_pos_of_ne_nil some_digit
  unfold placed
  split
  next small =>
    have some_fraction : List.replicate (-point).toNat '0' ++ digits ≠ [] := by
      simp [some_digit]
    refine ⟨['0'], List.replicate (-point).toNat '0' ++ digits, ?_, by simp, ?_, ?_, ?_⟩
    · rw [pointText, if_neg some_fraction]
      rfl
    · rw [List.length_append, List.length_replicate]
      omega
    · intro c member
      simp only [List.mem_append, List.mem_replicate, List.mem_singleton] at member
      tauto
    · rw [List.singleton_append, Nat.ofDigitChars_cons, Nat.ofDigitChars_append,
        Nat.ofDigitChars_replicate_zero]
      simp
  next large =>
    split
    next whole =>
      have zeros : point.toNat - digits.length = 0 := by omega
      refine ⟨digits, [], ?_, some_digit, ?_, ?_, ?_⟩
      · rw [zeros]
        rfl
      · rw [List.length_nil]
        omega
      · intro c member
        exact .inr (by simpa using member)
      · rw [List.append_nil]
    next inside =>
      have some_fraction : digits.drop point.toNat ≠ [] := by
        intro none
        have dropped := congrArg List.length none
        rw [List.length_drop, List.length_nil] at dropped
        omega
      refine ⟨digits.take point.toNat, digits.drop point.toNat, ?_, ?_, ?_, ?_, ?_⟩
      · rw [pointText, if_neg some_fraction]
      · intro none
        have taken := congrArg List.length none
        rw [List.length_take, List.length_nil] at taken
        omega
      · rw [List.length_drop]
        omega
      · intro c member
        rw [List.take_append_drop] at member
        exact .inr member
      · rw [List.take_append_drop]

/-- The characters of printed numbers. -/
def isPrintedChar (c : Char) : Bool := c.isDigit ∨ c ∈ ".-+ENasInfity".toList

theorem printed_char {c : Char} (printed : isPrintedChar c) :
    isSpace c = false ∧ c ≠ '_' ∧ asciiOf c = some c := by
  simp only [isPrintedChar, decide_eq_true_eq] at printed
  rcases printed with digit | other
  · have range := Char.isDigit_iff_toNat.mp digit
    rw [← Char.ofNat_toNat c]
    generalize c.toNat = n at range
    have low : 48 ≤ n := range.1
    have high : n ≤ 57 := range.2
    interval_cases n <;> decide
  · have each : ∀ c ∈ ".-+ENasInfity".toList,
        decide (isSpace c = false ∧ c ≠ '_' ∧ asciiOf c = some c) = true :=
      List.all_eq_true.mp (by decide +kernel)
    exact of_decide_eq_true (each c other)

theorem toLower_digit {c : Char} (digit : c.isDigit) : c.toLower = c := by
  have range := Char.isDigit_iff_toNat.mp digit
  rw [← Char.ofNat_toNat c]
  generalize c.toNat = n at range
  have low : 48 ≤ n := range.1
  have high : n ≤ 57 := range.2
  interval_cases n <;> decide

theorem map_toLower_digits {text : Text} (digits : ∀ c ∈ text, c.isDigit) :
    text.map Char.toLower = text := by
  conv_rhs => rw [← List.map_id text]
  exact List.map_congr_left fun c member => toLower_digit (digits c member)

theorem mapM_self {text : Text} {f : Char → Option Char} (same : ∀ c ∈ text, f c = some c) :
    text.mapM f = some text := by
  induction text with
  | nil => rfl
  | cons c text ih =>
    rw [List.mapM_cons, same c List.mem_cons_self,
      ih fun c' member => same c' (List.mem_cons_of_mem _ member)]
    rfl

theorem readDecimal_printed {text : Text} (printed : ∀ c ∈ text, isPrintedChar c) :
    readDecimal text = readSigned (text.map Char.toLower) := by
  have stripped : strip isSpace text = text := strip_eq_self fun c member =>
    (printed_char (printed c member)).1
  have kept : text.filter (· ≠ '_') = text := List.filter_eq_self.mpr fun c member =>
    decide_eq_true (printed_char (printed c member)).2.1
  have ascii : text.mapM asciiOf = some text := mapM_self fun c member =>
    (printed_char (printed c member)).2.2
  simp only [readDecimal, stripped, kept, ascii]

theorem readUnsigned_digit (negative : Bool) {c : Char} {chars : Text} (digit : c.isDigit) :
    readUnsigned negative (c :: chars) = readFinite negative (c :: chars) := by
  have i := digit_ne digit (d := 'i') (by decide)
  have n := digit_ne digit (d := 'n') (by decide)
  have s := digit_ne digit (d := 's') (by decide)
  unfold readUnsigned
  split <;> simp_all

theorem readSigned_sign (negative : Bool) {c : Char} {chars : Text} (digit : c.isDigit) :
    readSigned (signText negative ++ c :: chars) = readFinite negative (c :: chars) := by
  have minus := digit_ne digit (d := '-') (by decide)
  have plus := digit_ne digit (d := '+') (by decide)
  cases negative with
  | true => exact readUnsigned_digit true digit
  | false =>
    rw [← readUnsigned_digit false digit]
    simp only [signText, Bool.false_eq_true, if_false, List.nil_append]
    unfold readSigned
    split <;> simp_all

theorem isDigit_of_mem_toDigits {n : ℕ} {c : Char} (member : c ∈ Nat.toDigits 10 n) : c.isDigit :=
  Nat.isDigit_of_mem_toDigits (by decide) (by decide) member

theorem map_toLower_scaleText (scale : ℤ) :
    (∀ c ∈ ((scaleText scale).map Char.toLower).head?, c = 'e') ∧
      readExponent ((scaleText scale).map Char.toLower) = some scale := by
  unfold scaleText
  split
  next zero => simp [zero, readExponent]
  · have digits : (Nat.toDigits 10 scale.natAbs).map Char.toLower = Nat.toDigits 10 scale.natAbs :=
      map_toLower_digits fun c member => isDigit_of_mem_toDigits member
    have some_digit : Nat.toDigits 10 scale.natAbs ≠ [] := Nat.toDigits_ne_nil
    have all : (Nat.toDigits 10 scale.natAbs).all Char.isDigit = true :=
      List.all_eq_true.mpr fun c member => isDigit_of_mem_toDigits member
    refine ⟨by simp, ?_⟩
    rw [List.map_cons, List.map_cons, digits]
    split
    next below =>
      change readInteger true (Nat.toDigits 10 scale.natAbs) = some scale
      simp only [readInteger, some_digit, all, ne_eq, not_false_eq_true, and_self, if_true,
        Nat.ofDigitChars_ten_toDigits, Option.some.injEq]
      omega
    next above =>
      change readInteger false (Nat.toDigits 10 scale.natAbs) = some scale
      simp only [readInteger, some_digit, all, ne_eq, not_false_eq_true, and_self, if_true,
        Nat.ofDigitChars_ten_toDigits, Option.some.injEq, Bool.false_eq_true, if_false]
      omega

theorem printed_scaleText (scale : ℤ) : ∀ c ∈ scaleText scale, isPrintedChar c := by
  intro c member
  unfold scaleText at member
  split at member
  · cases member
  · rcases List.mem_cons.mp member with rfl | member
    · decide
    · rcases List.mem_cons.mp member with rfl | digit
      · split <;> decide
      · exact decide_eq_true (.inl (isDigit_of_mem_toDigits digit))

theorem printed_signText (negative : Bool) : ∀ c ∈ signText negative, isPrintedChar c := by
  cases negative <;> simp [signText, isPrintedChar]

theorem map_toLower_signText (negative : Bool) :
    (signText negative).map Char.toLower = signText negative := by
  cases negative <;> decide

/-- A finite number is read back from what is printed of it, if its exponents are in range at all. -/
theorem readDecimal_str (negative : Bool) (coefficient : ℕ) (exponent : ℤ) :
    readDecimal (str (.finite negative coefficient exponent))
      = readExactly negative coefficient exponent := by
  have some_digit : Nat.toDigits 10 coefficient ≠ [] := Nat.toDigits_ne_nil
  have length := List.length_pos_of_ne_nil some_digit
  simp only [str]
  generalize shown : (if exponent ≤ 0 ∧ -6 < exponent + (Nat.toDigits 10 coefficient).length
    then exponent + (Nat.toDigits 10 coefficient).length else 1) = point
  have le : point ≤ (Nat.toDigits 10 coefficient).length := by
    split at shown <;> omega
  obtain ⟨integer, fraction, places, some_integer, count, chars, value⟩ := placed_parts some_digit le
  rw [places]
  generalize scale_eq : exponent + (Nat.toDigits 10 coefficient).length - point = scale
  have digits : ∀ c ∈ integer ++ fraction, c.isDigit := by
    intro c member
    rcases chars c member with rfl | printed
    · decide
    · exact isDigit_of_mem_toDigits printed
  have pointed : ∀ c ∈ integer ++ pointText fraction, isPrintedChar c ∧ c.toLower = c := by
    intro c member
    have digit_printed : c.isDigit → isPrintedChar c ∧ c.toLower = c := fun digit =>
      ⟨decide_eq_true (.inl digit), toLower_digit digit⟩
    rcases List.mem_append.mp member with front | back
    · exact digit_printed (digits c (List.mem_append_left _ front))
    · unfold pointText at back
      split at back
      · cases back
      · rcases List.mem_cons.mp back with rfl | later
        · decide
        · exact digit_printed (digits c (List.mem_append_right _ later))
  have printed : ∀ c ∈ signText negative ++ (integer ++ pointText fraction) ++ scaleText scale,
      isPrintedChar c := by
    intro c member
    rcases List.mem_append.mp member with front | back
    · rcases List.mem_append.mp front with sign | mantissa
      · exact printed_signText negative c sign
      · exact (pointed c mantissa).1
    · exact printed_scaleText scale c back
  have lower : (integer ++ pointText fraction).map Char.toLower = integer ++ pointText fraction := by
    conv_rhs => rw [← List.map_id (integer ++ pointText fraction)]
    exact List.map_congr_left fun c member => (pointed c member).2
  obtain ⟨announced, read⟩ := map_toLower_scaleText scale
  obtain ⟨c, rest, rfl⟩ : ∃ c rest, integer = c :: rest := List.exists_cons_of_ne_nil some_integer
  rw [readDecimal_printed printed, List.map_append, List.map_append, map_toLower_signText, lower,
    List.append_assoc, List.cons_append, List.cons_append, readSigned_sign negative
    (digits c (by simp)), ← List.cons_append, ← List.cons_append,
    readFinite_parts negative some_integer digits announced read, value,
    Nat.ofDigitChars_ten_toDigits]
  congr 1
  omega

end CyberLegends.DataAnalysis
