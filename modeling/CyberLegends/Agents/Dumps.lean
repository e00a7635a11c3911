import CyberLegends.Actions.Policy
import Mathlib.Data.List.DropRight

/-! JSON values as texts, as the standard library writes them: all but the printable characters of
ASCII are escaped, and the separators are chosen by the caller. -/

namespace CyberLegends.Agents

open Actions

/-! ### Texts -/

/-- What stands between two entries and between a key and its item. -/
structure Separators where
  item : List Char
  key : List Char

def Separators.compact : Separators := ⟨",".toList, ":".toList⟩

/-- The separators that are used when none are given. -/
def Separators.spaced : Separators := ⟨", ".toList, ": ".toList⟩

/-- The characters that a text keeps or only marks. -/
def isPrintable (c : Char) : Bool := ' ' ≤ c ∧ c ≤ '~'

def unicodeEscape (n : Nat) : List Char :=
  ['\\', 'u', Nat.digitChar (n / 4096 % 16), Nat.digitChar (n / 256 % 16),
    Nat.digitChar (n / 16 % 16), Nat.digitChar (n % 16)]

/-- A character inside a text; one beyond the basic plane becomes a pair of surrogates. -/
def escapeChar (c : Char) : List Char :=
  if c = '"' then ['\\', '"']
  else if c = '\\' then ['\\', '\\']
  else if isPrintable c then [c]
  else if c = '\n' then ['\\', 'n']
  else if c = '\r' then ['\\', 'r']
  else if c = '\t' then ['\\', 't']
  else if c = '\x0c' then ['\\', 'f']
  else if c = '\x08' then ['\\', 'b']
  else if c.toNat < 0x10000 then unicodeEscape c.toNat
  else
    let n := c.toNat - 0x10000
    unicodeEscape (0xd800 + n / 0x400) ++ unicodeEscape (0xdc00 + n % 0x400)

def dumpsString (chars : List Char) : List Char := '"' :: chars.flatMap escapeChar ++ ['"']

def dumpsInt (value : Int) : List Char :=
  if value < 0 then '-' :: Nat.toDigits 10 value.natAbs else Nat.toDigits 10 value.natAbs

/-- The exponent of a number in scientific notation, with at least two digits. -/
def dumpsExponent (exponent : Int) : List Char :=
  let digits := Nat.toDigits 10 exponent.natAbs
  (if exponent < 0 then '-' else '+') :: List.replicate (2 - digits.length) '0' ++ digits

/-- The significant digits of a number whose point stands after `point` of them: from the 17th
digit and before the fourth zero behind the point it is written in scientific notation. -/
def dumpsDigits (digits : List Char) (point : Int) : List Char :=
  if -4 < point ∧ point ≤ 16 then
    if point ≤ 0 then "0.".toList ++ List.replicate (-point).toNat '0' ++ digits
    else if point.toNat < digits.length then
      digits.take point.toNat ++ '.' :: digits.drop point.toNat
    else digits ++ List.replicate (point.toNat - digits.length) '0' ++ ".0".toList
  else
    digits.take 1 ++ (if 1 < digits.length then '.' :: digits.drop 1 else []) ++
      'e' :: dumpsExponent (point - 1)

/-- The shortest decimal of a floating point number. -/
def dumpsFloat (mantissa exponent : Int) : List Char :=
  let all := Nat.toDigits 10 mantissa.natAbs
  let digits := all.rdropWhile fun c => c = '0'
  if digits = [] then "0.0".toList
  else (if mantissa < 0 then ['-'] else []) ++ dumpsDigits digits (all.length + exponent)

mutual

def dumps (separators : Separators) : Json → List Char
  | .null => "null".toList
  | .bool true => "true".toList
  | .bool false => "false".toList
  | .int value => dumpsInt value
  | .float mantissa exponent => dumpsFloat mantissa exponent
  | .string value => dumpsString value.toList
  | .list items =>
    '[' :: List.intercalate separators.item (dumpsItems separators items) ++ [']']
  | .dict entries =>
    '\x7b' :: List.intercalate separators.item (dumpsEntries separators entries) ++ ['\x7d']

def dumpsItems (separators : Separators) : List Json → List (List Char)
  | [] => []
  | item :: items => dumps separators item :: dumpsItems separators items

def dumpsEntries (separators : Separators) : List (String × Json) → List (List Char)
  | [] => []
  | (key, item) :: entries =>
    (dumpsString key.toList ++ separators.key ++ dumps separators item) ::
      dumpsEntries separators entries

end

example : String.ofList (dumps .spaced
    (.dict [("score", .float 125 (-1)), ("issues", .list [.string "a \"b\"\n", .null])])) =
      "\x7b\"score\": 12.5, \"issues\": [\"a \\\"b\\\"\\n\", null]\x7d" := by
  decide +kernel

/-! ### Printable characters -/

/-- A text that is written without a character that has to be escaped as a number. -/
def Printable (chars : List Char) : Prop := ∀ c ∈ chars, isPrintable c = true

theorem Printable.append {chars chars' : List Char} (h : Printable chars) (h' : Printable chars') :
    Printable (chars ++ chars') := by
  intro c member
  exact (List.mem_append.mp member).elim (h c) (h' c)

theorem Printable.cons {c : Char} {chars : List Char} (first : isPrintable c = true)
    (h : Printable chars) : Printable (c :: chars) := by
  intro d member
  rcases List.mem_cons.mp member with rfl | member
  · exact first
  · exact h d member

theorem Printable.sublist {chars chars' : List Char} (h : Printable chars)
    (inside : chars'.Sublist chars) : Printable chars' := fun c member => h c (inside.subset member)

theorem printable_replicate {c : Char} (h : isPrintable c = true) (n : Nat) :
    Printable (List.replicate n c) := by
  intro d member
  rw [(List.mem_replicate.mp member).2]
  exact h

theorem printable_intercalate {separator : List Char} (h : Printable separator)
    {texts : List (List Char)} (each : ∀ text ∈ texts, Printable text) :
    Printable (List.intercalate separator texts) := by
  induction texts with
  | nil => intro c member; cases member
  | cons text texts ih =>
    cases texts with
    | nil =>
      rw [List.intercalate_singleton]
      exact each text (by simp)
    | cons text' texts =>
      rw [List.intercalate_cons_cons]
      refine ((each text (by simp)).append h).append (ih fun text member => ?_)
      exact each text (List.mem_cons_of_mem _ member)

theorem printable_unicodeEscape (n : Nat) : Printable (unicodeEscape n) := by
  have digit : ∀ d < 16, isPrintable (Nat.digitChar d) = true := by decide
  have each : ∀ m, isPrintable (Nat.digitChar (m % 16)) = true :=
    fun m => digit _ (Nat.mod_lt m (by decide))
  exact .cons rfl (.cons rfl (.cons (each _) (.cons (each _) (.cons (each _) (.cons (each _)
    (by intro c member; cases member))))))

theorem Printable.ite {p : Prop} [Decidable p] {chars chars' : List Char}
    (first : p → Printable chars) (second : Printable chars') :
    Printable (if p then chars else chars') := by
  by_cases holds : p
  · rw [if_pos holds]
    exact first holds
  · rw [if_neg holds]
    exact second

theorem printable_escapeChar (c : Char) : Printable (escapeChar c) := by
  have letters : ∀ d ∈ ['\\', '"', 'n', 'r', 't', 'f', 'b'], isPrintable d = true :=
    List.all_eq_true.mp (by decide +kernel)
  have single : ∀ d, isPrintable d = true → Printable [d] := fun d printable =>
    .cons printable (by intro c member; cases member)
  have pair : ∀ d ∈ ['\\', '"', 'n', 'r', 't', 'f', 'b'], Printable ['\\', d] := fun d letter =>
    .cons (letters '\\' List.mem_cons_self) (single d (letters d letter))
  unfold escapeChar
  refine .ite (fun _ => pair '"' (by simp)) (.ite (fun _ => pair '\\' (by simp)) ?_)
  refine .ite (fun printable => single c printable) (.ite (fun _ => pair 'n' (by simp)) ?_)
  refine .ite (fun _ => pair 'r' (by simp)) (.ite (fun _ => pair 't' (by simp)) ?_)
  refine .ite (fun _ => pair 'f' (by simp)) (.ite (fun _ => pair 'b' (by simp)) ?_)
  refine .ite (fun _ => printable_unicodeEscape _) ?_
  exact (printable_unicodeEscape _).append (printable_unicodeEscape _)

theorem printable_dumpsString (chars : List Char) : Printable (dumpsString chars) := by
  refine (Printable.cons rfl ?_).append (.cons rfl (by intro c member; cases member))
  intro c member
  obtain ⟨d, -, escaped⟩ := List.mem_flatMap.mp member
  exact printable_escapeChar d c escaped

theorem printable_toDigits (n : Nat) : Printable (Nat.toDigits 10 n) := by
  intro c member
  have digit := Nat.isDigit_of_mem_toDigits (by decide) (by decide) member
  simp only [Char.isDigit, Bool.and_eq_true, decide_eq_true_eq, UInt32.le_iff_toNat_le] at digit
  simp only [isPrintable, decide_eq_true_eq, Char.le_def, UInt32.le_iff_toNat_le]
  exact ⟨le_trans (by decide) digit.1, digit.2.trans (by decide)⟩

theorem printable_dumpsExponent (exponent : Int) : Printable (dumpsExponent exponent) := by
  refine (Printable.cons ?_ (printable_replicate rfl _)).append (printable_toDigits _)
  split <;> rfl

theorem printable_dumpsDigits {digits : List Char} (h : Printable digits) (point : Int) :
    Printable (dumpsDigits digits point) := by
  have zero : Printable "0.".toList ∧ Printable ".0".toList := by
    constructor <;> exact List.all_eq_true.mp (by decide +kernel)
  unfold dumpsDigits
  split
  · split
    · exact (zero.1.append (printable_replicate rfl _)).append h
    split
    · exact (h.sublist (List.take_sublist ..)).append (.cons rfl (h.sublist (List.drop_sublist ..)))
    · exact (h.append (printable_replicate rfl _)).append zero.2
  · refine ((h.sublist (List.take_sublist ..)).append ?_).append
      (.cons rfl (printable_dumpsExponent _))
    split
    · exact .cons rfl (h.sublist (List.drop_sublist ..))
    · intro c member
      cases member

theorem printable_dumpsInt (value : Int) : Printable (dumpsInt value) := by
  unfold dumpsInt
  split
  · exact .cons rfl (printable_toDigits _)
  · exact printable_toDigits _

theorem printable_dumpsFloat (mantissa exponent : Int) :
    Printable (dumpsFloat mantissa exponent) := by
  simp only [dumpsFloat]
  split
  · exact List.all_eq_true.mp (by decide +kernel)
  · refine Printable.append ?_ (printable_dumpsDigits ?_ _)
    · split
      · exact .cons rfl (by intro c member; cases member)
      · intro c member
        cases member
    · exact (printable_toDigits _).sublist (List.rdropWhile_prefix _ _).sublist

mutual

/-- Nothing but printable characters is written, as long as the separators are. -/
theorem printable_dumps {separators : Separators} (item : Printable separators.item)
    (key : Printable separators.key) : ∀ value, Printable (dumps separators value)
  | .null | .bool true | .bool false => by
    simp only [dumps]
    exact List.all_eq_true.mp (by decide +kernel)
  | .int value => printable_dumpsInt value
  | .float mantissa exponent => printable_dumpsFloat mantissa exponent
  | .string value => printable_dumpsString value.toList
  | .list items => by
    refine (Printable.cons rfl (printable_intercalate item ?_)).append
      (.cons rfl (by intro c member; cases member))
    exact printable_dumpsItems item key items
  | .dict entries => by
    refine (Printable.cons rfl (printable_intercalate item ?_)).append
      (.cons rfl (by intro c member; cases member))
    exact printable_dumpsEntries item key entries

theorem printable_dumpsItems {separators : Separators} (item : Printable separators.item)
    (key : Printable separators.key) :
    ∀ items, ∀ text ∈ dumpsItems separators items, Printable text
  | [] => by intro text member; cases member
  | value :: items => by
    intro text member
    rcases List.mem_cons.mp member with rfl | member
    · exact printable_dumps item key value
    · exact printable_dumpsItems item key items text member

theorem printable_dumpsEntries {separators : Separators} (item : Printable separators.item)
    (key : Printable separators.key) :
    ∀ entries, ∀ text ∈ dumpsEntries separators entries, Printable text
  | [] => by intro text member; cases member
  | (name, value) :: entries => by
    intro text member
    rcases List.mem_cons.mp member with rfl | member
    · exact ((printable_dumpsString _).append key).append (printable_dumps item key value)
    · exact printable_dumpsEntries item key entries text member

end

theorem printable_compact (value : Json) : Printable (dumps .compact value) := by
  refine printable_dumps ?_ ?_ value
  · exact List.all_eq_true.mp (by decide +kernel)
  · exact List.all_eq_true.mp (by decide +kernel)

/-! ### Lengths -/

/-- The characters that a text marks with a backslash. -/
def isMarked (c : Char) : Bool := c = '"' ∨ c = '\\'

/-- A printable text becomes longer by its quotes and backslashes, and by the quotes around it. -/
theorem length_dumpsString {chars : List Char} (h : Printable chars) :
    (dumpsString chars).length = chars.length + chars.countP isMarked + 2 := by
  have escaped : ∀ chars, Printable chars →
      (chars.flatMap escapeChar).length = chars.length + chars.countP isMarked := by
    intro chars h
    induction chars with
    | nil => rfl
    | cons c chars ih =>
      have rest := ih fun d member => h d (List.mem_cons_of_mem c member)
      have printable := h c List.mem_cons_self
      rw [List.flatMap_cons, List.length_append, rest, List.countP_cons, List.length_cons]
      by_cases quote : c = '"'
      · subst quote
        simp [escapeChar, isMarked]
        omega
      by_cases backslash : c = '\\'
      · subst backslash
        simp [escapeChar, isMarked]
        omega
      · simp [escapeChar, isMarked, quote, backslash, printable]
        omega
  unfold dumpsString
  rw [List.length_append, List.length_cons, escaped chars h, List.length_singleton]

theorem dumpsInt_ne_nil (value : Int) : dumpsInt value ≠ [] := by
  unfold dumpsInt
  split
  · exact List.cons_ne_nil _ _
  · exact Nat.toDigits_ne_nil

theorem dumpsFloat_ne_nil (mantissa exponent : Int) : dumpsFloat mantissa exponent ≠ [] := by
  simp only [dumpsFloat]
  split
  · decide +kernel
  · refine List.append_ne_nil_of_right_ne_nil _ ?_
    unfold dumpsDigits
    split
    · split
      · intro empty
        have length := congrArg List.length empty
        simp at length
      split
      · simp
      · intro empty
        have length := congrArg List.length empty
        simp at length
    · simp

/-- A text is at most half as long again with the spaces, with room for one character. -/
def Widens (spaced compact : List Char) : Prop := 2 * spaced.length + 1 ≤ 3 * compact.length

theorem Widens.same {chars : List Char} (nonempty : chars ≠ []) : Widens chars chars := by
  have positive := List.length_pos_iff.mpr nonempty
  unfold Widens
  omega

theorem intercalate_widens {spaced compact : List (List Char)}
    (each : List.Forall₂ Widens spaced compact) :
    2 * (List.intercalate Separators.spaced.item spaced).length ≤
      3 * (List.intercalate Separators.compact.item compact).length := by
  induction each with
  | nil => exact Nat.le_refl _
  | @cons text text' texts texts' first rest ih =>
    have first : 2 * text.length + 1 ≤ 3 * text'.length := first
    cases rest with
    | nil =>
      rw [List.intercalate_singleton, List.intercalate_singleton]
      omega
    | cons second rest =>
      have separators : Separators.spaced.item.length = 2 ∧ Separators.compact.item.length = 1 := by
        decide +kernel
      rw [List.intercalate_cons_cons, List.intercalate_cons_cons]
      simp only [List.length_append, separators]
      omega

mutual

theorem dumps_widens : ∀ value, Widens (dumps .spaced value) (dumps .compact value)
  | .null | .bool true | .bool false => .same (by simp only [dumps]; decide +kernel)
  | .int value => .same (dumpsInt_ne_nil value)
  | .float mantissa exponent => .same (dumpsFloat_ne_nil mantissa exponent)
  | .string value => .same (by simp [dumps, dumpsString])
  | .list items => by
    have inside := intercalate_widens (dumpsItems_widens items)
    simp only [Widens, dumps, List.length_append, List.length_cons, List.length_nil]
    omega
  | .dict entries => by
    have inside := intercalate_widens (dumpsEntries_widens entries)
    simp only [Widens, dumps, List.length_append, List.length_cons, List.length_nil]
    omega

theorem dumpsItems_widens :
    ∀ items, List.Forall₂ Widens (dumpsItems .spaced items) (dumpsItems .compact items)
  | [] => .nil
  | value :: items => .cons (dumps_widens value) (dumpsItems_widens items)

theorem dumpsEntries_widens :
    ∀ entries, List.Forall₂ Widens (dumpsEntries .spaced entries) (dumpsEntries .compact entries)
  | [] => .nil
  | (key, value) :: entries => by
    refine .cons ?_ (dumpsEntries_widens entries)
    have item : 2 * (dumps .spaced value).length + 1 ≤ 3 * (dumps .compact value).length :=
      dumps_widens value
    have separators : Separators.spaced.key.length = 2 ∧ Separators.compact.key.length = 1 := by
      decide +kernel
    have quotes : 2 ≤ (dumpsString key.toList).length := by
      simp [dumpsString]
    simp only [Widens, List.length_append, separators]
    omega

end

end CyberLegends.Agents
