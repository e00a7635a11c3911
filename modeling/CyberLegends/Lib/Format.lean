import CyberLegends.Lib.Table
import Mathlib.Data.List.TakeWhile

/-! Texts with replacement fields, which a mapping of names to texts fills in: the fields of a template,
the attributes and items that a field goes through, and the specification it is shown with. Memory is
bounded where a specification asks for a width, and only there. -/

namespace CyberLegends.Lib.Format

/-! ### Scanning -/

section
variable {σ α : Type*} (step : σ → Char → Option (σ × Option α)) (finish : σ → Option (Option α))

/-- What a scan of the characters makes, and whether it breaks off. -/
def scan : σ → List Char → List α × Bool
  | s, [] =>
    match finish s with
    | none => ([], true)
    | some last => (last.toList, false)
  | s, c :: chars =>
    match step s c with
    | none => ([], true)
    | some (s', made) => (made.toList ++ (scan s' chars).1, (scan s' chars).2)

variable {step finish}

theorem scan_cons {s s' : σ} {c : Char} {chars : List Char} {made : Option α}
    (steps : step s c = some (s', made)) :
    scan step finish s (c :: chars)
      = (made.toList ++ (scan step finish s' chars).1, (scan step finish s' chars).2) := by
  simp only [scan, steps]

end

/-! ### Fields -/

structure Field where
  name : List Char
  conversion : Option Char := none
  spec : List Char := []
  deriving DecidableEq

/-- A text, and the field behind it. -/
structure Piece where
  literal : List Char
  field : Option Field := none
  deriving DecidableEq

/-- Where the reading of a template stands. -/
inductive Reading
  | literal (text : List Char)
  /-- Behind an opening brace. -/
  | opened (text : List Char)
  | closed (text : List Char)
  | inName (text name : List Char) (bracket : Bool)
  | atConversion (text name : List Char)
  | afterConversion (text name : List Char) (conversion : Char)
  | inSpec (text name : List Char) (conversion : Option Char) (depth : ℕ) (spec : List Char)

namespace Reading

/-- A character of a field name; within brackets every character belongs to it. -/
def nameStep (text name : List Char) (bracket : Bool) (c : Char) : Option (Reading × Option Piece) :=
  if bracket then some (.inName text (name ++ [c]) (c ≠ ']'), none)
  else if c = '\x7b' then none
  else if c = '\x7d' then some (.literal [], some ⟨text, some { name }⟩)
  else if c = ':' then some (.inSpec text name none 0 [], none)
  else if c = '!' then some (.atConversion text name, none)
  else some (.inName text (name ++ [c]) (c = '['), none)

/-- The conversion that a character names; the null character names none. -/
def conversionOf (c : Char) : Option Char := if c = '\x00' then none else some c

def step : Reading → Char → Option (Reading × Option Piece)
  | .literal text, c =>
    if c = '\x7b' then some (.opened text, none)
    else if c = '\x7d' then some (.closed text, none)
    else some (.literal (text ++ [c]), none)
  | .opened text, c =>
    if c = '\x7b' then some (.literal [], some ⟨text ++ [c], none⟩) else nameStep text [] false c
  | .closed text, c => if c = '\x7d' then some (.literal [], some ⟨text ++ [c], none⟩) else none
  | .inName text name bracket, c => nameStep text name bracket c
  | .atConversion text name, c => some (.afterConversion text name c, none)
  | .afterConversion text name conversion, c =>
    if c = '\x7d' then
      some (.literal [], some ⟨text, some { name, conversion := conversionOf conversion }⟩)
    else if c = ':' then some (.inSpec text name (conversionOf conversion) 0 [], none)
    else none
  | .inSpec text name conversion depth spec, c =>
    if c = '\x7b' then some (.inSpec text name conversion (depth + 1) (spec ++ [c]), none)
    else if c = '\x7d' then
      match depth with
      | 0 => some (.literal [], some ⟨text, some { name, conversion, spec }⟩)
      | depth + 1 => some (.inSpec text name conversion depth (spec ++ [c]), none)
    else some (.inSpec text name conversion depth (spec ++ [c]), none)

/-- A template ends in a text. -/
def finish : Reading → Option (Option Piece)
  | .literal [] => some none
  | .literal text => some (some ⟨text, none⟩)
  | _ => none

end Reading

/-- The pieces of a template as far as it is well formed, and whether it is not. -/
def pieces (template : List Char) : List Piece × Bool :=
  scan Reading.step Reading.finish (.literal []) template

def fields (template : List Char) : List Field := (pieces template).1.filterMap (·.field)

/-! ### Names -/

/-- The name that a field looks up. -/
def first (name : List Char) : List Char := name.takeWhile fun c => c ≠ '.' ∧ c ≠ '['

inductive Access
  | attribute (name : List Char)
  | item (key : List Char)
  deriving DecidableEq

inductive Accessing
  | next
  | attribute (name : List Char)
  | item (key : List Char)

namespace Accessing

def step : Accessing → Char → Option (Accessing × Option Access)
  | .next, c =>
    if c = '.' then some (.attribute [], none)
    else if c = '[' then some (.item [], none)
    else none
  | .attribute name, c =>
    if c = '.' ∨ c = '[' then
      if name = [] then none
      else some (if c = '.' then .attribute [] else .item [], some (.attribute name))
    else some (.attribute (name ++ [c]), none)
  | .item key, c =>
    if c = ']' then
      if key = [] then none else some (.next, some (.item key))
    else some (.item (key ++ [c]), none)

def finish : Accessing → Option (Option Access)
  | .next => some none
  | .attribute name => if name = [] then none else some (some (.attribute name))
  | .item _ => none

end Accessing

/-- What a field goes through from the value that it looks up. -/
def accesses (name : List Char) : List Access × Bool :=
  scan Accessing.step Accessing.finish .next (name.drop (first name).length)

/-! ### Specifications of texts -/

structure TextSpec where
  fill : Char := ' '
  align : Char := '<'
  width : Option ℕ := none
  precision : Option ℕ := none
  deriving DecidableEq

/-- The text, cut to the precision and filled up to the width. -/
def TextSpec.apply (spec : TextSpec) (text : List Char) : List Char :=
  let kept := match spec.precision with
    | none => text
    | some precision => text.take precision
  let pad := spec.width.getD 0 - kept.length
  let left := if spec.align = '>' then pad else if spec.align = '^' then pad / 2 else 0
  List.replicate left spec.fill ++ kept ++ List.replicate (pad - left) spec.fill

/-- The first character, if it is of a kind, and the rest. -/
def optional (p : Char → Bool) : List Char → Option Char × List Char
  | [] => (none, [])
  | c :: chars => if p c then (some c, chars) else (none, c :: chars)

/-- The fill and the alignment at the front, and the rest. -/
def alignment (spec : List Char) : Option Char × Option Char × List Char :=
  let isAlign (c : Char) : Bool := c ∈ ['<', '>', '=', '^']
  match spec with
  | fill :: align :: rest =>
    if isAlign align then (some fill, some align, rest)
    else if isAlign fill then (none, some fill, align :: rest)
    else (none, none, spec)
  | _ => (none, optional isAlign spec)

section
variable (digit : Char → Option ℕ)

/-- The largest number that a size can be. -/
def maxSize : ℕ := 9223372036854775807

def numberOf (digits : List Char) : ℕ :=
  digits.foldl (fun n c => 10 * n + (digit c).getD 0) 0

/-- The number at the front, if digits are there, and the rest; none where it is too large. -/
def number (chars : List Char) : Option (Option ℕ × List Char) :=
  let digits := chars.takeWhile fun c => (digit c).isSome
  let rest := chars.drop digits.length
  if digits = [] then some (none, rest)
  else if maxSize < numberOf digit digits then none
  else some (some (numberOf digit digits), rest)

/-- The number that the text is, if it is one; none where the digits at its front are too many. -/
def integerOf (text : List Char) : Option (Option ℕ) :=
  (number digit text).map fun (read, rest) => if rest = [] then read else none

/-- The precision at the front, behind its point. -/
def precision : List Char → Option (Option ℕ × List Char)
  | '.' :: chars => (number digit chars).bind fun read => if read.1.isSome then some read else none
  | chars => some (none, chars)

/-- The specification, if texts have it. -/
def textSpec (spec : List Char) : Option TextSpec := do
  let (fill, align, rest) := alignment spec
  let (sign, rest) := optional (· ∈ [' ', '+', '-']) rest
  let (coerced, rest) := optional (· = 'z') rest
  let (alternate, rest) := optional (· = '#') rest
  let (zero, rest) := optional (fun c => c = '0' ∧ fill = none) rest
  let (width, rest) ← number digit rest
  let (comma, rest) := optional (· = ',') rest
  let (underscore, rest) := optional (· = '_') rest
  let (precision, rest) ← precision digit rest
  if rest ≠ [] ∧ rest ≠ ['s'] then none
  -- none of these is for texts
  else if [sign, coerced, alternate, comma, underscore].any Option.isSome ∨ align = some '=' then none
  else some { fill := fill.getD (zero.getD ' '), align := align.getD '<', width, precision }

end

/-! ### Filling in -/

inductive Failure
  | keyError
  | valueError
  | memoryError
  | indexError
  | typeError
  | other (name : String)
  deriving DecidableEq

/-- A text, or another object that a text leads to. -/
inductive Value (Obj : Type)
  | text (chars : List Char)
  | other (object : Obj)

/-- How texts are shown, and what other objects do. -/
structure Objects (Obj : Type) where
  digit : Char → Option ℕ
  /-- Whether there is memory for a text of so many characters. -/
  allocates : ℕ → Bool
  reprText : List Char → List Char
  asciiText : List Char → List Char
  getattr : Value Obj → List Char → Except Failure (Value Obj)
  getitem : Obj → List Char ⊕ ℕ → Except Failure (Value Obj)
  str : Obj → Except Failure (List Char)
  repr : Obj → Except Failure (List Char)
  ascii : Obj → Except Failure (List Char)
  format : Obj → List Char → Except Failure (List Char)

namespace Objects
variable {Obj : Type} (objects : Objects Obj) (values : List Char → Option (List Char))

/-- Whether a name is one that a mapping can have: no position, and not too many digits. -/
def isNamed (first : List Char) : Bool := first ≠ [] ∧ integerOf objects.digit first = some none

def lookup (first : List Char) : Except Failure (Value Obj) :=
  if objects.isNamed first then
    match values first with
    | none => .error .keyError
    | some text => .ok (.text text)
  else .error .valueError

def item (object : Value Obj) (key : List Char) : Except Failure (Value Obj) :=
  match integerOf objects.digit key, object with
  | none, _ => .error .valueError
  | some (some index), .text text =>
    match text[index]? with
    | none => .error .indexError
    | some c => .ok (.text [c])
  | some none, .text _ => .error .typeError
  | some (some index), .other object => objects.getitem object (.inr index)
  | some none, .other object => objects.getitem object (.inl key)

def follow (object : Value Obj) : Access → Except Failure (Value Obj)
  | .attribute name => objects.getattr object name
  | .item key => objects.item object key

/-- The object of a field name. -/
def reach (name : List Char) : Except Failure (Value Obj) := do
  let object ← objects.lookup values (first name)
  let object ← (accesses name).1.foldlM objects.follow object
  if (accesses name).2 then .error .valueError else .ok object

def conversions : List Char := ['s', 'r', 'a']

def converted (object : Value Obj) (conversion : Char) : Except Failure (List Char) :=
  match object with
  | .text text =>
    .ok <| if conversion = 's' then text
      else if conversion = 'r' then objects.reprText text else objects.asciiText text
  | .other object =>
    if conversion = 's' then objects.str object
    else if conversion = 'r' then objects.repr object else objects.ascii object

def convert (object : Value Obj) : Option Char → Except Failure (Value Obj)
  | none => .ok object
  | some conversion =>
    if conversion ∈ conversions then (objects.converted object conversion).map .text
    else .error .valueError

/-- Whether there is memory for the width of the specification. Where there is none, no text is as
long as the width either, so the text would have to be filled up. -/
def hasRoom (spec : TextSpec) : Bool := spec.width.all objects.allocates

def shown (object : Value Obj) (spec : List Char) : Except Failure (List Char) :=
  match object with
  | .text text =>
    match textSpec objects.digit spec with
    | none => .error .valueError
    | some spec =>
      if objects.hasRoom spec then .ok (spec.apply text) else .error .memoryError
  | .other object => objects.format object spec

/-- The specification, with its own fields filled in. -/
def specText (expand : List Char → Except Failure (List Char)) (spec : List Char) :
    Except Failure (List Char) := if '\x7b' ∈ spec then expand spec else .ok spec

def fieldText (expand : List Char → Except Failure (List Char)) (field : Field) :
    Except Failure (List Char) := do
  let object ← objects.reach values field.name
  let object ← objects.convert object field.conversion
  let spec ← specText expand field.spec
  objects.shown object spec

def pieceText (expand : List Char → Except Failure (List Char)) (piece : Piece) :
    Except Failure (List Char) :=
  match piece.field with
  | none => .ok piece.literal
  | some field => (objects.fieldText values expand field).map (piece.literal ++ ·)

/-- The template filled in, at most so deep. -/
def build : ℕ → List Char → Except Failure (List Char)
  | 0, _ => .error .valueError
  | depth + 1, template => do
    let texts ← (pieces template).1.mapM (objects.pieceText values (build depth))
    if (pieces template).2 then .error .valueError else .ok texts.flatten

def formatMap (template : List Char) : Except Failure (List Char) := objects.build values 2 template

end Objects

/-! ### Names alone -/

/-- The fields of the template, and of their specifications so deep, go through no attribute and no
item. -/
def Direct : ℕ → List Char → Prop
  | 0, _ => True
  | depth + 1, template => ∀ field ∈ fields template,
    first field.name = field.name ∧ ('\x7b' ∈ field.spec → Direct depth field.spec)

/-- The failures of a name that is looked up and of a text that is shown. -/
def Failure.IsCommon (failure : Failure) : Prop :=
  failure = .keyError ∨ failure = .valueError ∨ failure = .memoryError

/-- The field shows every text. -/
structure Field.IsSimple {Obj : Type} (objects : Objects Obj) (field : Field) : Prop where
  named : objects.isNamed field.name = true
  conversion : ∀ c ∈ field.conversion, c ∈ Objects.conversions
  spec : (textSpec objects.digit field.spec).any objects.hasRoom = true

namespace Objects
variable {Obj : Type} {objects : Objects Obj} {values : List Char → Option (List Char)}

theorem lookup_eq_ok {first : List Char} {object : Value Obj} :
    objects.lookup values first = .ok object
      ↔ objects.isNamed first = true ∧ ∃ text, values first = some text ∧ .text text = object := by
  unfold lookup
  split
  · rename_i named
    split
    · rename_i unknown
      simp [unknown]
    · rename_i text known
      simp [named, known]
  · rename_i positional
    simp [positional]

theorem lookup_error {first : List Char} {failure : Failure}
    (failed : objects.lookup values first = .error failure) : failure.IsCommon := by
  unfold lookup at failed
  split at failed
  · split at failed
    · exact .inl (by simpa using failed.symm)
    · cases failed
  · exact .inr (.inl (by simpa using failed.symm))

theorem reach_direct {name : List Char} (direct : first name = name) :
    objects.reach values name = objects.lookup values name := by
  have through : accesses name = ([], false) := by simp [accesses, direct, scan, Accessing.finish]
  simp only [reach, direct, through, List.foldlM_nil]
  cases objects.lookup values name <;> rfl

theorem convert_text (objects : Objects Obj) (text : List Char) (conversion : Option Char) :
    (∃ shown, objects.convert (.text text) conversion = .ok (.text shown))
      ∧ (∀ c ∈ conversion, c ∈ conversions)
    ∨ objects.convert (.text text) conversion = .error .valueError
      ∧ ¬ ∀ c ∈ conversion, c ∈ conversions := by
  cases conversion with
  | none => exact .inl ⟨⟨text, rfl⟩, by simp⟩
  | some c =>
    by_cases known : c ∈ conversions
    · exact .inl ⟨⟨_, by simp only [convert, if_pos known, converted]; rfl⟩, by simpa using known⟩
    · exact .inr ⟨by simp only [convert, if_neg known], by simpa using known⟩

theorem shown_text {text spec : List Char} :
    objects.shown (.text text) spec
      = match textSpec objects.digit spec with
        | none => .error .valueError
        | some spec =>
          if objects.hasRoom spec then .ok (spec.apply text) else .error .memoryError := rfl

theorem shown_error {text spec : List Char} {failure : Failure}
    (failed : objects.shown (.text text) spec = .error failure) : failure.IsCommon := by
  unfold shown at failed
  simp only at failed
  split at failed
  · exact .inr (.inl (by simpa using failed.symm))
  · split at failed
    · cases failed
    · exact .inr (.inr (by simpa using failed.symm))

/-- A field that is a name alone fails as its name or its specification does. -/
theorem fieldText_error {expand : List Char → Except Failure (List Char)} {field : Field}
    {failure : Failure} (direct : first field.name = field.name)
    (inner : '\x7b' ∈ field.spec → ∀ failure, expand field.spec = .error failure → failure.IsCommon)
    (failed : objects.fieldText values expand field = .error failure) : failure.IsCommon := by
  simp only [fieldText, reach_direct direct, bind_eq_error] at failed
  obtain looked | ⟨object, looked, failed⟩ := failed
  · exact lookup_error looked
  obtain ⟨-, text, -, rfl⟩ := lookup_eq_ok.mp looked
  obtain ⟨⟨shown, converted⟩, -⟩ | ⟨unconverted, -⟩ :=
    convert_text objects text field.conversion
  · rw [converted] at failed
    obtain failed | ⟨object, same, failed⟩ := failed
    · cases failed
    obtain rfl : Value.text shown = object := by simpa using same
    obtain unspecified | ⟨spec, -, failed⟩ := failed
    · unfold specText at unspecified
      split at unspecified
      · rename_i nested
        exact inner nested failure unspecified
      · cases unspecified
    · exact shown_error failed
  · rw [unconverted] at failed
    obtain failed | ⟨object, same, -⟩ := failed
    · exact .inr (.inl (by simpa using failed.symm))
    · cases same

theorem mapM_error {α β ε : Type*} {f : α → Except ε β} {e : ε} {xs : List α}
    (failed : xs.mapM f = .error e) : ∃ x ∈ xs, f x = .error e := by
  induction xs with
  | nil => cases failed
  | cons x xs ih =>
    rw [List.mapM_cons, bind_eq_error] at failed
    obtain failed | ⟨y, -, failed⟩ := failed
    · exact ⟨x, List.mem_cons_self, failed⟩
    rw [bind_eq_error] at failed
    obtain failed | ⟨ys, -, done⟩ := failed
    · obtain ⟨x', member, failed⟩ := ih failed
      exact ⟨x', List.mem_cons_of_mem x member, failed⟩
    · cases done

theorem mem_fields {template : List Char} {piece : Piece} {field : Field}
    (member : piece ∈ (pieces template).1) (shows : piece.field = some field) :
    field ∈ fields template := List.mem_filterMap.mpr ⟨piece, member, shows⟩

/-- Names alone never fail with more than a name that is not there, a text that does not fit or a
width that there is no memory for. -/
theorem build_error {depth : ℕ} {template : List Char} {failure : Failure}
    (direct : Direct depth template) (failed : objects.build values depth template = .error failure) :
    failure.IsCommon := by
  induction depth generalizing template failure with
  | zero => exact .inr (.inl (by simpa [build] using failed.symm))
  | succ depth ih =>
    simp only [build, bind_eq_error] at failed
    obtain failed | ⟨texts, -, failed⟩ := failed
    · obtain ⟨piece, member, failed⟩ := mapM_error failed
      unfold pieceText at failed
      split at failed
      · cases failed
      · rename_i field shows
        rw [map_eq_error] at failed
        obtain ⟨named, nested⟩ := direct field (mem_fields member shows)
        exact fieldText_error named (fun brace failure => ih (nested brace)) failed
    · split at failed
      · exact .inr (.inl (by simpa using failed.symm))
      · cases failed

/-- Whether a name alone without nested fields is shown does not depend on its text. -/
theorem fieldText_ok_iff {expand : List Char → Except Failure (List Char)} {field : Field}
    (direct : first field.name = field.name) (flat : '\x7b' ∉ field.spec)
    (known : objects.isNamed field.name = true → (values field.name).isSome) :
    (∃ text, objects.fieldText values expand field = .ok text) ↔ field.IsSimple objects := by
  simp only [fieldText, reach_direct direct, bind_eq_ok, lookup_eq_ok, specText, if_neg flat]
  constructor
  · rintro ⟨shown, object, ⟨named, text, -, rfl⟩, object, converts, spec, same, shows⟩
    obtain rfl : field.spec = spec := by simpa using same
    obtain ⟨⟨shown', converted⟩, each⟩ | ⟨unconverted, -⟩ :=
      convert_text objects text field.conversion
    · obtain rfl : Value.text shown' = object := by simpa [converted] using converts
      refine ⟨named, each, ?_⟩
      rw [shown_text] at shows
      split at shows
      · cases shows
      · rename_i spec read
        split at shows
        · rename_i room
          rw [read]
          exact room
        · cases shows
    · rw [unconverted] at converts
      cases converts
  · intro simple
    obtain ⟨text, known⟩ := Option.isSome_iff_exists.mp (known simple.named)
    obtain ⟨⟨shown, converted⟩, -⟩ | ⟨-, none⟩ :=
      convert_text objects text field.conversion
    · obtain ⟨spec, read, room⟩ := (Option.any_eq_true ..).mp simple.spec
      have shows : objects.shown (.text shown) field.spec = .ok (spec.apply shown) := by
        rw [shown_text, read]
        exact if_pos room
      exact ⟨spec.apply shown, .text text, ⟨simple.named, text, known, rfl⟩, .text shown, converted,
        field.spec, rfl, shows⟩
    · exact absurd simple.conversion none

theorem mapM_of_ok {α β ε : Type*} {f : α → Except ε β} {g : α → β} {xs : List α}
    (each : ∀ x ∈ xs, f x = .ok (g x)) : xs.mapM f = .ok (xs.map g) := by
  induction xs with
  | nil => rfl
  | cons x xs ih =>
    rw [List.mapM_cons, each x List.mem_cons_self,
      ih fun x' member => each x' (List.mem_cons_of_mem x member)]
    rfl

theorem mapM_ok_iff {α β ε : Type*} {f : α → Except ε β} {xs : List α} :
    (∃ ys, xs.mapM f = .ok ys) ↔ ∀ x ∈ xs, ∃ y, f x = .ok y := by
  induction xs with
  | nil => exact ⟨fun _ => by simp, fun _ => ⟨[], rfl⟩⟩
  | cons x xs ih =>
    rw [List.forall_mem_cons, ← ih]
    simp only [List.mapM_cons, bind_eq_ok, pure_eq_ok]
    constructor
    · rintro ⟨-, y, first, ys, rest, -⟩
      exact ⟨⟨y, first⟩, ys, rest⟩
    · rintro ⟨⟨y, first⟩, ys, rest⟩
      exact ⟨y :: ys, y, first, ys, rest, rfl⟩

/-- Templates of names alone without nested fields are filled in or not, whatever the texts are. -/
theorem build_ok_iff {depth : ℕ} {template : List Char}
    (direct : ∀ field ∈ fields template, first field.name = field.name)
    (flat : ∀ field ∈ fields template, '\x7b' ∉ field.spec)
    (known : ∀ field ∈ fields template,
      objects.isNamed field.name = true → (values field.name).isSome) :
    (∃ text, objects.build values (depth + 1) template = .ok text)
      ↔ (pieces template).2 = false ∧ ∀ field ∈ fields template, field.IsSimple objects := by
  have each : (∃ texts, (pieces template).1.mapM (objects.pieceText values (objects.build values depth))
      = .ok texts) ↔ ∀ field ∈ fields template, field.IsSimple objects := by
    rw [mapM_ok_iff]
    constructor
    · intro shown field member
      obtain ⟨piece, listed, shows⟩ := List.mem_filterMap.mp member
      obtain ⟨text, built⟩ := shown piece listed
      simp only [pieceText, shows, map_eq_ok] at built
      obtain ⟨text, built, -⟩ := built
      exact (fieldText_ok_iff (direct field member) (flat field member) (known field member)).mp
        ⟨text, built⟩
    · intro simple piece member
      cases shows : piece.field with
      | none => exact ⟨piece.literal, by simp only [pieceText, shows]⟩
      | some field =>
        have listed := mem_fields member shows
        have shown : ∃ text, objects.fieldText values (objects.build values depth) field = .ok text :=
          (fieldText_ok_iff (direct field listed) (flat field listed) (known field listed)).mpr
            (simple field listed)
        obtain ⟨text, built⟩ := shown
        exact ⟨piece.literal ++ text, by simp only [pieceText, shows, built, Except.map]⟩
  rw [← each]
  simp only [build, bind_eq_ok]
  constructor
  · rintro ⟨text, texts, shown, whole⟩
    split at whole
    · cases whole
    · rename_i closed
      exact ⟨by simpa using closed, texts, shown⟩
  · rintro ⟨closed, texts, shown⟩
    exact ⟨texts.flatten, texts, shown, by simp [closed]⟩

end Objects

/-! ### Printing -/

/-- What a template is made of. -/
inductive Part
  | text (chars : List Char)
  | name (chars : List Char)

/-- A brace is written twice. -/
def escaped (text : List Char) : List Char :=
  text.flatMap fun c => if c = '\x7b' ∨ c = '\x7d' then [c, c] else [c]

def Part.printed : Part → List Char
  | .text chars => escaped chars
  | .name chars => '\x7b' :: chars ++ ['\x7d']

def Part.field : Part → Option Field
  | .text _ => none
  | .name chars => some { name := chars }

def Part.filled (value : List Char → List Char) : Part → List Char
  | .text chars => chars
  | .name chars => value chars

def printed (parts : List Part) : List Char := parts.flatMap Part.printed

/-- A name without the characters that end it or go through it. -/
def IsPlain (name : List Char) : Prop := ∀ c ∈ name, c ∉ ['\x7b', '\x7d', '[', '.', ':', '!']

instance instDecidableIsPlain (name : List Char) : Decidable (IsPlain name) :=
  List.decidableBAll (fun c => c ∉ ['\x7b', '\x7d', '[', '.', ':', '!']) name

def Part.IsPlain : Part → Prop
  | .text _ => True
  | .name chars => Format.IsPlain chars

instance instDecidablePartIsPlain : ∀ part : Part, Decidable part.IsPlain
  | .text _ => isTrue trivial
  | .name chars => instDecidableIsPlain chars

theorem IsPlain.first_eq {name : List Char} (plain : IsPlain name) : first name = name := by
  refine List.takeWhile_eq_self_iff.mpr fun c member => ?_
  have := plain c member
  simp_all

def Piece.filled (value : List Char → List Char) (piece : Piece) : List Char :=
  piece.literal ++ (piece.field.elim [] fun field => value field.name)

/-- What has been read: these fields, and this text once they are filled in. -/
structure Shows (value : List Char → List Char) (read : List Piece × Bool) (names : List Field)
    (text : List Char) : Prop where
  closed : read.2 = false
  named : read.1.filterMap (·.field) = names
  filled : read.1.flatMap (·.filled value) = text

section
variable (value : List Char → List Char) {text rest : List Char} {names : List Field}

theorem scan_literal {c : Char} (plain : ¬ (c = '\x7b' ∨ c = '\x7d')) {acc : List Char} :
    scan Reading.step Reading.finish (.literal acc) (c :: rest)
      = scan Reading.step Reading.finish (.literal (acc ++ [c])) rest := by
  obtain ⟨opening, closing⟩ := not_or.mp plain
  have steps : Reading.step (.literal acc) c = some (.literal (acc ++ [c]), none) := by
    simp [Reading.step, opening, closing]
  rw [scan_cons steps]
  simp

theorem scan_brace {c : Char} (brace : c = '\x7b' ∨ c = '\x7d') {acc : List Char} :
    scan Reading.step Reading.finish (.literal acc) (c :: c :: rest)
      = (⟨acc ++ [c], none⟩ :: (scan Reading.step Reading.finish (.literal []) rest).1,
        (scan Reading.step Reading.finish (.literal []) rest).2) := by
  obtain rfl | rfl := brace
  · have first : Reading.step (.literal acc) '\x7b' = some (.opened acc, none) := rfl
    have second : Reading.step (.opened acc) '\x7b'
        = some (.literal [], some ⟨acc ++ ['\x7b'], none⟩) := rfl
    rw [scan_cons first, scan_cons second]
    rfl
  · have first : Reading.step (.literal acc) '\x7d' = some (.closed acc, none) := rfl
    have second : Reading.step (.closed acc) '\x7d'
        = some (.literal [], some ⟨acc ++ ['\x7d'], none⟩) := rfl
    rw [scan_cons first, scan_cons second]
    rfl

theorem shows_escaped (chars : List Char)
    (behind : ∀ acc, Shows value (scan Reading.step Reading.finish (.literal acc) rest) names
      (acc ++ text)) (acc : List Char) :
    Shows value (scan Reading.step Reading.finish (.literal acc) (escaped chars ++ rest)) names
      (acc ++ (chars ++ text)) := by
  induction chars generalizing acc with
  | nil => exact behind acc
  | cons c chars ih =>
    by_cases brace : c = '\x7b' ∨ c = '\x7d'
    · have twice : escaped (c :: chars) ++ rest = c :: c :: (escaped chars ++ rest) := by
        simp [escaped, brace]
      have tail := ih []
      rw [twice, scan_brace brace]
      refine ⟨tail.closed, by simpa using tail.named, ?_⟩
      rw [List.flatMap_cons, tail.filled]
      simp [Piece.filled]
    · have once : escaped (c :: chars) ++ rest = c :: (escaped chars ++ rest) := by
        simp [escaped, brace]
      rw [once, scan_literal brace]
      simpa using ih (acc ++ [c])

/-- A plain name is read up to the brace that closes it. -/
theorem scan_name {name : List Char} (plain : IsPlain name) (acc read : List Char) :
    scan Reading.step Reading.finish (.inName acc read false) (name ++ '\x7d' :: rest)
      = (⟨acc, some { name := read ++ name }⟩
          :: (scan Reading.step Reading.finish (.literal []) rest).1,
        (scan Reading.step Reading.finish (.literal []) rest).2) := by
  induction name generalizing read with
  | nil =>
    rw [List.nil_append, List.append_nil]
    have closes : Reading.step (.inName acc read false) '\x7d'
        = some (.literal [], some ⟨acc, some { name := read }⟩) := rfl
    rw [scan_cons closes]
    rfl
  | cons c name ih =>
    have plain' : IsPlain name := fun c' member => plain c' (List.mem_cons_of_mem c member)
    have unmarked := plain c List.mem_cons_self
    simp only [List.mem_cons, List.not_mem_nil, or_false, not_or] at unmarked
    obtain ⟨opening, closing, bracket, -, colon, mark⟩ := unmarked
    have steps : Reading.step (.inName acc read false) c
        = some (.inName acc (read ++ [c]) false, none) := by
      simp [Reading.step, Reading.nameStep, opening, closing, bracket, colon, mark]
    rw [List.cons_append, scan_cons steps, ih plain' (read ++ [c])]
    simp

theorem scan_opened {name : List Char} (plain : IsPlain name) (acc : List Char) :
    scan Reading.step Reading.finish (.literal acc) ('\x7b' :: (name ++ '\x7d' :: rest))
      = (⟨acc, some { name }⟩ :: (scan Reading.step Reading.finish (.literal []) rest).1,
        (scan Reading.step Reading.finish (.literal []) rest).2) := by
  have same : scan Reading.step Reading.finish (.opened acc) (name ++ '\x7d' :: rest)
      = scan Reading.step Reading.finish (.inName acc [] false) (name ++ '\x7d' :: rest) := by
    cases name with
    | nil => rfl
    | cons c name =>
      have opening : c ≠ '\x7b' := fun same => plain c List.mem_cons_self (by simp [same])
      simp only [List.cons_append, scan, Reading.step, if_neg opening]
  have opens : Reading.step (.literal acc) '\x7b' = some (.opened acc, none) := rfl
  rw [scan_cons opens, same, scan_name plain]
  rfl

theorem shows_printed {parts : List Part} (plain : ∀ part ∈ parts, part.IsPlain) (acc : List Char) :
    Shows value (scan Reading.step Reading.finish (.literal acc) (printed parts))
      (parts.filterMap Part.field) (acc ++ parts.flatMap (Part.filled value)) := by
  induction parts generalizing acc with
  | nil =>
    cases acc with
    | nil => exact ⟨rfl, rfl, rfl⟩
    | cons c acc => exact ⟨rfl, rfl, by simp [printed, scan, Reading.finish, Piece.filled]⟩
  | cons part parts ih =>
    have plain' : ∀ part ∈ parts, part.IsPlain := fun part member =>
      plain part (List.mem_cons_of_mem _ member)
    cases part with
    | text chars =>
      have shows := shows_escaped value chars (ih plain') acc
      rwa [List.filterMap_cons_none rfl, List.flatMap_cons]
    | name chars =>
      have tail := ih plain' []
      have text : printed (.name chars :: parts)
          = '\x7b' :: (chars ++ '\x7d' :: printed parts) := by simp [printed, Part.printed]
      rw [text, scan_opened (plain _ List.mem_cons_self)]
      refine ⟨tail.closed, ?_, ?_⟩
      · simp [Part.field, tail.named]
      · rw [List.flatMap_cons, tail.filled]
        simp [Piece.filled, Part.filled]

end

/-- What is printed is well formed, and its fields are the names. -/
theorem fields_printed {parts : List Part} (plain : ∀ part ∈ parts, part.IsPlain) :
    (pieces (printed parts)).2 = false ∧ fields (printed parts) = parts.filterMap Part.field :=
  have shows := shows_printed id plain []
  ⟨shows.closed, shows.named⟩

namespace Objects
variable {Obj : Type} {objects : Objects Obj} {values : List Char → Option (List Char)}

/-- An empty specification shows a text as it is. -/
theorem shown_plain (text : List Char) : objects.shown (.text text) [] = .ok text := by
  have plain : textSpec objects.digit [] = some {} := rfl
  have room : objects.hasRoom {} = true := rfl
  simp [shown_text, plain, room, TextSpec.apply]

theorem fieldText_name (objects : Objects Obj) (expand : List Char → Except Failure (List Char))
    {name text : List Char} (direct : first name = name) (named : objects.isNamed name = true)
    (known : values name = some text) :
    objects.fieldText values expand { name } = .ok text := by
  have looked : objects.lookup values name = .ok (.text text) :=
    lookup_eq_ok.mpr ⟨named, text, known, rfl⟩
  have flat : specText expand [] = .ok [] := rfl
  simp only [fieldText, reach_direct direct, looked, convert, ok_bind, flat]
  exact shown_plain text

/-- A template that is printed from its parts is filled in part by part. -/
theorem build_printed {parts : List Part} {value : List Char → List Char} {depth : ℕ}
    (plain : ∀ part ∈ parts, part.IsPlain)
    (known : ∀ field ∈ parts.filterMap Part.field,
      objects.isNamed field.name = true ∧ values field.name = some (value field.name)) :
    objects.build values (depth + 1) (printed parts) = .ok (parts.flatMap (Part.filled value)) := by
  have shows := shows_printed value plain []
  have each : ∀ piece ∈ (pieces (printed parts)).1,
      objects.pieceText values (objects.build values depth) piece = .ok (piece.filled value) := by
    intro piece member
    cases shown : piece.field with
    | none => simp only [pieceText, shown, Piece.filled, Option.elim_none, List.append_nil]
    | some field =>
      have listed : field ∈ parts.filterMap Part.field :=
        shows.named ▸ List.mem_filterMap.mpr ⟨piece, member, shown⟩
      obtain ⟨named, text⟩ := known field listed
      obtain ⟨part, among, same⟩ := List.mem_filterMap.mp listed
      cases part with
      | text chars => cases same
      | name chars =>
        obtain rfl : { name := chars } = field := by simpa [Part.field] using same
        have filled := fieldText_name objects (objects.build values depth)
          (plain _ among).first_eq named text
        simp only [pieceText, shown, filled, Piece.filled, Option.elim_some]
        rfl
  have closed : (pieces (printed parts)).2 = false := shows.closed
  simp only [build, mapM_of_ok each, ok_bind, closed]
  rw [← List.flatMap_def]
  exact congrArg Except.ok shows.filled

end Objects
end CyberLegends.Lib.Format
