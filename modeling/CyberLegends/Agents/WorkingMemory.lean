import CyberLegends.Agents.Sanitization
import CyberLegends.Lib.Suffix
import Mathlib.Algebra.GroupWithZero.Nat

/-! The working memory of an agent: a list of notes that drops its oldest ones as soon as there are
too many of them, or too many characters in them. -/

namespace CyberLegends.Agents

open CyberLegends.Lib

/-- Why a text is not accepted for a field. -/
inductive StringError
  | tooShort (minLength : ℕ)
  | tooLong (maxLength : ℕ)
  deriving DecidableEq

structure FieldError where
  loc : String
  error : StringError
  deriving DecidableEq

/-- The errors of a field of type string with the given bounds. -/
def checkString (loc : String) (minLength maxLength : ℕ) (value : String) : List FieldError :=
  if value.length < minLength then [⟨loc, .tooShort minLength⟩]
  else if maxLength < value.length then [⟨loc, .tooLong maxLength⟩]
  else []

structure WorkingMemoryItem where
  kind : String
  summary : String
  kind_bounds : 1 ≤ kind.length ∧ kind.length ≤ 50
  summary_bounds : 1 ≤ summary.length ∧ summary.length ≤ 2000
  deriving DecidableEq

def WorkingMemoryItem.length (item : WorkingMemoryItem) : ℕ := item.kind.length + item.summary.length

/-- How `add` fails. -/
inductive AddFailure
  /-- `str` of an argument raises. -/
  | str
  | validation (errors : List FieldError)
  | popFromEmptyList
  deriving DecidableEq

theorem checkString_eq_nil {loc value : String} {minLength maxLength : ℕ} :
    checkString loc minLength maxLength value = [] ↔
      minLength ≤ value.length ∧ value.length ≤ maxLength := by
  unfold checkString
  split
  · simp only [List.cons_ne_nil, false_iff]
    omega
  · split
    · simp only [List.cons_ne_nil, false_iff]
      omega
    · simp only [true_iff]
      omega

/-- The validated item, or the errors of its fields. -/
def WorkingMemoryItem.validate (kind summary : String) : Except AddFailure WorkingMemoryItem :=
  if valid : checkString "kind" 1 50 kind = [] ∧ checkString "summary" 1 2000 summary = [] then
    .ok ⟨kind, summary, checkString_eq_nil.mp valid.1, checkString_eq_nil.mp valid.2⟩
  else .error (.validation (checkString "kind" 1 50 kind ++ checkString "summary" 1 2000 summary))

structure Bounds where
  maxItems : ℕ := 20
  maxCharacters : ℕ := 12000
  maxItems_bounds : 1 ≤ maxItems ∧ maxItems ≤ 50 := by decide
  maxCharacters_bounds : 100 ≤ maxCharacters ∧ maxCharacters ≤ 50000 := by decide

structure WorkingMemory extends Bounds where
  items : List WorkingMemoryItem := []

def totalCharacters (items : List WorkingMemoryItem) : ℕ :=
  (items.map WorkingMemoryItem.length).sum

section

variable (bounds : Bounds)

/-- The condition of the eviction loop. -/
def Bounds.Exceeded (items : List WorkingMemoryItem) : Prop :=
  items.length > bounds.maxItems ∨ totalCharacters items > bounds.maxCharacters

instance (items : List WorkingMemoryItem) : Decidable (bounds.Exceeded items) :=
  inferInstanceAs (Decidable (_ ∨ _))

/-- The eviction loop, with the items it leaves behind. -/
def Bounds.evict : List WorkingMemoryItem → Except AddFailure Unit × List WorkingMemoryItem
  | [] => if bounds.Exceeded [] then (.error .popFromEmptyList, []) else (.ok (), [])
  | item :: items =>
    if bounds.Exceeded (item :: items) then Bounds.evict items else (.ok (), item :: items)

end

/-- The arguments of `add`: what `str` of each gives, if it does not raise. -/
structure Note where
  kind : Option String
  summary : Option String

def Note.item (note : Note) : Except AddFailure WorkingMemoryItem :=
  match note.kind, note.summary with
  | some kind, some summary =>
    WorkingMemoryItem.validate (sanitizeText 50 kind) (sanitizeText 2000 summary)
  | _, _ => .error .str

def WorkingMemory.add (memory : WorkingMemory) (note : Note) :
    Except AddFailure Unit × WorkingMemory :=
  match note.item with
  | .error failure => (.error failure, memory)
  | .ok item =>
    let (outcome, items) := memory.evict (memory.items ++ [item])
    (outcome, { memory with items })

/-! ### Runs -/

/-- A memory, and the items that have been added to it without a failure. -/
structure Played where
  memory : WorkingMemory
  added : List WorkingMemoryItem := []

def Played.play (played : Played) (note : Note) : Played :=
  let (outcome, memory) := played.memory.add note
  { memory
    added :=
      match outcome, note.item with
      | .ok (), .ok item => played.added ++ [item]
      | _, _ => played.added }

/-- What a sequence of calls makes of an empty memory. -/
def replay (bounds : Bounds) (notes : List Note) : Played :=
  notes.foldl Played.play { memory := { bounds with } }

/-! ### The longest end of the items -/

section

variable {bounds : Bounds} {items : List WorkingMemoryItem} {item : WorkingMemoryItem}

def Bounds.Admissible (bounds : Bounds) (items : List WorkingMemoryItem) : Prop :=
  items.length ≤ bounds.maxItems ∧ totalCharacters items ≤ bounds.maxCharacters

theorem Bounds.not_exceeded : ¬bounds.Exceeded items ↔ bounds.Admissible items := by
  unfold Bounds.Exceeded Bounds.Admissible
  omega

theorem Bounds.admissible_nil : bounds.Admissible [] := ⟨Nat.zero_le _, Nat.zero_le _⟩

theorem Bounds.Admissible.before (whole : bounds.Admissible (items ++ [item])) :
    bounds.Admissible items := by
  simp only [Bounds.Admissible, totalCharacters, List.length_append, List.map_append,
    List.sum_append] at whole ⊢
  omega

/-- The eviction loop ends before the list is empty, and leaves the longest end of the list. -/
theorem Bounds.evict_spec (bounds : Bounds) (items : List WorkingMemoryItem) :
    (bounds.evict items).1 = .ok () ∧
      LongestSuffix bounds.Admissible items (bounds.evict items).2 := by
  induction items with
  | nil =>
    rw [Bounds.evict, if_neg (Bounds.not_exceeded.mpr Bounds.admissible_nil)]
    exact ⟨rfl, .self Bounds.admissible_nil⟩
  | cons item items ih =>
    rw [Bounds.evict]
    split
    · rename_i exceeded
      exact ⟨ih.1, ih.2.cons fun admissible => Bounds.not_exceeded.mpr admissible exceeded⟩
    · rename_i fits
      exact ⟨rfl, .self (Bounds.not_exceeded.mp fits)⟩

end

section

variable {memory : WorkingMemory} {note : Note} {item : WorkingMemoryItem}

/-- What `add` does: it fails with the failure of the item and keeps the memory, or leaves the longest
end of the items. -/
theorem WorkingMemory.add_spec (memory : WorkingMemory) (note : Note) :
    (∃ failure, note.item = .error failure ∧ failure ≠ .popFromEmptyList ∧
        memory.add note = (.error failure, memory)) ∨
      ∃ item items, note.item = .ok item ∧
        memory.add note = (.ok (), { memory with items }) ∧
        LongestSuffix memory.Admissible (memory.items ++ [item]) items := by
  unfold WorkingMemory.add
  cases called : note.item with
  | error failure =>
    refine .inl ⟨failure, rfl, ?_, rfl⟩
    rintro rfl
    unfold Note.item WorkingMemoryItem.validate at called
    split at called
    · split at called <;> cases called
    · cases called
  | ok item =>
    obtain ⟨done, best⟩ := memory.evict_spec (memory.items ++ [item])
    refine .inr ⟨item, _, rfl, ?_, best⟩
    dsimp only
    rw [done]

/-- The bounds stay, and the items are the longest end of those added. -/
structure Played.Kept (bounds : Bounds) (played : Played) : Prop where
  bounds_eq : played.memory.toBounds = bounds
  best : LongestSuffix bounds.Admissible played.added played.memory.items

theorem Played.Kept.play {bounds : Bounds} {played : Played} (kept : played.Kept bounds)
    (note : Note) : (played.play note).Kept bounds := by
  obtain ⟨rfl, best⟩ := kept
  unfold Played.play
  rcases played.memory.add_spec note with ⟨failure, -, -, added⟩ | ⟨item, items, called, added, next⟩
  · rw [added]
    exact ⟨rfl, best⟩
  · rw [added, called]
    exact ⟨rfl, best.push (fun _ => Bounds.Admissible.before) next⟩

theorem replay_kept (bounds : Bounds) (notes : List Note) : (replay bounds notes).Kept bounds := by
  unfold replay
  have start : Played.Kept bounds { memory := { bounds with } } :=
    ⟨rfl, .self Bounds.admissible_nil⟩
  generalize ({ memory := { bounds with } } : Played) = played at start
  induction notes generalizing played with
  | nil => exact start
  | cons note notes ih => exact ih _ (start.play note)

theorem replay_concat (bounds : Bounds) (notes : List Note) (note : Note) :
    replay bounds (notes ++ [note]) = (replay bounds notes).play note := by
  simp [replay]

/-- After any calls, one more call leaves the longest end of all items added that keeps to both
bounds, or fails for a reason of the item and leaves the memory as it was. -/
theorem add_laws (bounds : Bounds) (notes : List Note) (note : Note) :
    let before := replay bounds notes
    let after := replay bounds (notes ++ [note])
    match (before.memory.add note).1 with
    | .ok () => (∃ item, note.item = .ok item ∧ after.added = before.added ++ [item]) ∧
        LongestSuffix bounds.Admissible after.added after.memory.items
    | .error failure => failure ≠ .popFromEmptyList ∧ after = before := by
  have kept := (replay_kept bounds (notes ++ [note])).best
  rw [replay_concat] at kept ⊢
  unfold Played.play at kept ⊢
  rcases (replay bounds notes).memory.add_spec note with
    ⟨failure, -, other, added⟩ | ⟨item, items, called, added, -⟩
  · simp only [added]
    exact ⟨other, trivial⟩
  · simp only [added, called] at kept ⊢
    exact ⟨⟨item, rfl, rfl⟩, kept⟩

example : (replay { maxItems := 2, maxCharacters := 200 }
    [⟨some "policy", some "token=private-value first"⟩, ⟨some "", some "unnamed"⟩,
      ⟨some "action", some "second"⟩, ⟨some "result", some "third"⟩]).memory.items.map (·.kind) =
    ["action", "result"] := by decide +kernel

end

end CyberLegends.Agents
