import Mathlib.Data.List.TakeWhile

/-! Records of comma-separated values. A quoted field may hold separators and ends of lines, and a quote
as two of them. -/

namespace CyberLegends.Lib.Csv

/-! ### Lines -/

/-- The lines of a text with what ends them. -/
def lines : List Char → List (List Char)
  | [] => []
  | '\r' :: '\n' :: rest => ['\r', '\n'] :: lines rest
  | '\r' :: rest => ['\r'] :: lines rest
  | '\n' :: rest => ['\n'] :: lines rest
  | c :: rest =>
    match lines rest with
    | [] => [[c]]
    | line :: more => (c :: line) :: more

/-! ### The reader -/

inductive State
  | startRecord
  | startField
  | inField
  | inQuotedField
  | quoteInQuotedField
  | eatCrnl
  deriving DecidableEq, Repr

structure Reader where
  state : State := .startRecord
  /-- The field that is being read. -/
  field : List Char := []
  /-- The fields of the record so far. -/
  fields : List (List Char) := []
  deriving DecidableEq, Repr

inductive Error
  | fieldLimit
  | newLine
  deriving DecidableEq, Repr

namespace Reader

def saveField (reader : Reader) (state : State) : Reader :=
  { state, field := [], fields := reader.fields ++ [reader.field] }

/-- A field takes no more characters than the limit. -/
def addChar (limit : Option ℕ) (reader : Reader) (state : State) (c : Char) : Except Error Reader :=
  if limit.any (· ≤ reader.field.length) then .error .fieldLimit
  else .ok { reader with state, field := reader.field ++ [c] }

def isNewLine (c : Char) : Bool := c = '\n' ∨ c = '\r'

/-- A character where a field starts. -/
def startField (limit : Option ℕ) (reader : Reader) (c : Char) : Except Error Reader :=
  if isNewLine c then .ok (reader.saveField .eatCrnl)
  else if c = '\x22' then .ok { reader with state := .inQuotedField }
  else if c = ',' then .ok (reader.saveField .startField)
  else reader.addChar limit .inField c

/-- The next character of a line. -/
def processChar (limit : Option ℕ) (reader : Reader) (c : Char) : Except Error Reader :=
  match reader.state with
  | .startRecord =>
    if isNewLine c then .ok { reader with state := .eatCrnl } else reader.startField limit c
  | .startField => reader.startField limit c
  | .inField =>
    if isNewLine c then .ok (reader.saveField .eatCrnl)
    else if c = ',' then .ok (reader.saveField .startField)
    else reader.addChar limit .inField c
  | .inQuotedField =>
    if c = '\x22' then .ok { reader with state := .quoteInQuotedField }
    else reader.addChar limit .inQuotedField c
  | .quoteInQuotedField =>
    if c = '\x22' then reader.addChar limit .inQuotedField c
    else if c = ',' then .ok (reader.saveField .startField)
    else if isNewLine c then .ok (reader.saveField .eatCrnl)
    else reader.addChar limit .inField c
  | .eatCrnl => if isNewLine c then .ok reader else .error .newLine

/-- The end of a line. -/
def endLine (reader : Reader) : Reader :=
  match reader.state with
  | .startRecord => reader
  | .startField => reader.saveField .startRecord
  | .inField => reader.saveField .startRecord
  | .inQuotedField => reader
  | .quoteInQuotedField => reader.saveField .startRecord
  | .eatCrnl => { reader with state := .startRecord }

def processLine (limit : Option ℕ) (reader : Reader) (line : List Char) : Except Error Reader :=
  (line.foldlM (processChar limit) reader).map endLine

end Reader

open Reader in
/-- The records of the lines, up to the error that ends them. -/
def records (limit : Option ℕ) (reader : Reader) :
    List (List Char) → List (List (List Char)) × Option Error
  | [] =>
    if reader.field ≠ [] ∨ reader.state = .inQuotedField then
      ([(reader.saveField .startRecord).fields], none)
    else ([], none)
  | line :: rest =>
    match reader.processLine limit line with
    | .error error => ([], some error)
    | .ok reader' =>
      if reader'.state = .startRecord then
        let later := records limit {} rest
        (reader'.fields :: later.1, later.2)
      else records limit reader' rest

example : records (some 3) {} (lines "a,\x22b\x22\x22\n\x22\r\n\n,".toList)
    = ([["a".toList, "b\x22\n".toList], [], [[], []]], none) := by decide +kernel

/-! ### Lines end where they have ends of lines -/

/-- Ends of lines stand only at the end of the line. -/
def IsLine (line : List Char) : Prop :=
  ∃ body ending, line = body ++ ending ∧ (∀ c ∈ body, Reader.isNewLine c = false) ∧
    ∀ c ∈ ending, Reader.isNewLine c = true

theorem isLine_newLine {ending : List Char} (all : ∀ c ∈ ending, Reader.isNewLine c = true) :
    IsLine ending := ⟨[], ending, rfl, by simp, all⟩

theorem IsLine.cons {c : Char} {line : List Char} (shape : IsLine line)
    (other : Reader.isNewLine c = false) : IsLine (c :: line) := by
  obtain ⟨body, ending, rfl, plain, ends⟩ := shape
  exact ⟨c :: body, ending, rfl, List.forall_mem_cons.mpr ⟨other, plain⟩, ends⟩

/-! ### The limit of a field -/

namespace Reader
variable {reader next : Reader} {c : Char} {n : ℕ}

/-- No field is longer than the limit. -/
def Within (n : ℕ) (reader : Reader) : Prop :=
  reader.field.length ≤ n ∧ ∀ field ∈ reader.fields, field.length ≤ n

/-- There is no field where none has been begun. -/
def Settled (reader : Reader) : Prop :=
  reader.state = .startRecord ∨ reader.state = .startField ∨ reader.state = .eatCrnl →
    reader.field = []

/-- What a character does to the fields. -/
inductive Change (reader : Reader) (c : Char) : Reader → Prop
  | keep (state : State) : Change reader c { reader with state }
  | save (state : State) : Change reader c (reader.saveField state)
  | add (state : State) : Change reader c { reader with state, field := reader.field ++ [c] }

/-- A field that is too long stays so. -/
theorem Change.within {n : ℕ} (change : Change reader c next) (within : next.Within n) :
    reader.Within n := by
  obtain ⟨field, fields⟩ := within
  cases change with
  | keep state => exact ⟨field, fields⟩
  | save state =>
    simp only [saveField, List.mem_append, List.mem_singleton] at fields
    exact ⟨fields _ (.inr rfl), fun f member => fields f (.inl member)⟩
  | add state =>
    rw [List.length_append] at field
    exact ⟨by omega, fields⟩

/-- The reader can go on with the rest of the line. -/
def GoesOn (reader : Reader) (rest : List Char) : Prop :=
  (reader.state = .eatCrnl → ∀ c ∈ rest, isNewLine c = true) ∧ IsLine rest

theorem GoesOn.tail {rest : List Char} (goes_on : reader.GoesOn (c :: rest))
    (ends : next.state = .eatCrnl → isNewLine c) : next.GoesOn rest := by
  obtain ⟨-, body, ending, split, plain, all⟩ := goes_on
  cases body with
  | nil =>
    rw [List.nil_append] at split
    subst split
    have rest_ends : ∀ c' ∈ rest, isNewLine c' = true := fun c' member =>
      all c' (List.mem_cons_of_mem _ member)
    exact ⟨fun _ => rest_ends, isLine_newLine rest_ends⟩
  | cons c' body =>
    rw [List.cons_append, List.cons.injEq] at split
    obtain ⟨rfl, rfl⟩ := split
    have other := plain c List.mem_cons_self
    refine ⟨fun state => ?_, body, ending, rfl,
      fun c' member => plain c' (List.mem_cons_of_mem _ member), all⟩
    rw [ends state] at other
    cases other

theorem GoesOn.head {rest : List Char} (goes_on : reader.GoesOn (c :: rest)) :
    reader.state = .eatCrnl → isNewLine c := fun state =>
  goes_on.1 state c List.mem_cons_self

end Reader

end CyberLegends.Lib.Csv
