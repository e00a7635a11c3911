import CyberLegends.Agents.Sanitization

/-! Substitutions: what one leaves of the matches of its pattern, and of those of another pattern that
has been substituted before. -/

namespace CyberLegends.Agents

open CyberLegends.Core Lib Actions

/-! ### Replaced matches -/

/-- A match is not empty, and what is left after it ends the text. -/
def Consumes (pattern : SecretPattern) : Prop :=
  ∀ ⦃chars replacement rest⦄, pattern chars = some (replacement, rest) →
    ∃ front, front ≠ [] ∧ chars = front ++ rest

/-- Every match of the pattern in the text is one that has been replaced. -/
def Replaced (pattern : SecretPattern) (text : List Char) : Prop :=
  ∀ ⦃suffix replacement rest⦄, suffix <:+ text → pattern suffix = some (replacement, rest) →
    suffix = replacement ++ rest

theorem substitute_skip (pattern : SecretPattern) (skip : Nat) (chars : List Char) :
    substitute pattern skip chars = substitute pattern 0 (chars.drop skip) := by
  induction chars generalizing skip with
  | nil =>
    rw [List.drop_nil]
    cases skip <;> rfl
  | cons c chars ih =>
    cases skip with
    | zero => rfl
    | succ skip =>
      rw [List.drop_succ_cons, ← ih skip]
      rfl

section

variable {pattern : SecretPattern}

theorem substitute_unmatched {c : Char} {chars : List Char} (unmatched : pattern (c :: chars) = none) :
    substitute pattern 0 (c :: chars) = c :: substitute pattern 0 chars := by
  simp only [substitute, unmatched]

theorem substitute_matched (consumes : Consumes pattern) {chars replacement rest : List Char}
    (found : pattern chars = some (replacement, rest)) :
    substitute pattern 0 chars = replacement ++ substitute pattern 0 rest := by
  obtain ⟨front, nonempty, rfl⟩ := consumes found
  cases front with
  | nil => exact absurd rfl nonempty
  | cons c front =>
    have after : (front ++ rest).drop ((front ++ rest).length - rest.length) = rest :=
      (List.suffix_iff_eq_drop.mp (List.suffix_append front rest)).symm
    rw [List.cons_append] at found ⊢
    simp only [substitute, found]
    rw [substitute_skip, after]

/-- The texts as `substitute` goes through them. -/
@[elab_as_elim]
theorem substitute_induct (consumes : Consumes pattern) {motive : List Char → Prop}
    (nil : motive [])
    (unmatched : ∀ c chars, pattern (c :: chars) = none → motive chars → motive (c :: chars))
    (matched : ∀ chars replacement rest, pattern chars = some (replacement, rest) → motive rest →
      motive chars)
    (chars : List Char) : motive chars := by
  induction total : chars.length using Nat.strong_induction_on generalizing chars with
  | _ length ih =>
    subst total
    cases chars with
    | nil => exact nil
    | cons c chars =>
      cases found : pattern (c :: chars) with
      | none => exact unmatched c chars found (ih _ (Nat.lt_succ_self _) chars rfl)
      | some replaced =>
        obtain ⟨replacement, rest⟩ := replaced
        obtain ⟨front, nonempty, split⟩ := consumes found
        have shorter : rest.length < (c :: chars).length := by
          rw [split, List.length_append]
          have := List.length_pos_of_ne_nil nonempty
          omega
        exact matched _ _ _ found (ih _ shorter rest rfl)

/-- A suffix of the new text begins between two matches, or inside a replacement. -/
theorem suffix_substitute (consumes : Consumes pattern) {suffix chars : List Char}
    (short : suffix <:+ substitute pattern 0 chars) :
    (∃ old, old <:+ chars ∧ suffix = substitute pattern 0 old) ∨
      ∃ old replacement rest n, old <:+ chars ∧ pattern old = some (replacement, rest) ∧
        n ≠ 0 ∧ n < replacement.length ∧
          suffix = replacement.drop n ++ substitute pattern 0 rest := by
  induction chars using substitute_induct consumes with
  | nil => exact Or.inl ⟨[], List.suffix_rfl, List.suffix_nil.mp short⟩
  | unmatched c chars none ih =>
    rw [substitute_unmatched none, List.suffix_cons_iff] at short
    rcases short with whole | later
    · exact Or.inl ⟨c :: chars, List.suffix_rfl, whole.trans (substitute_unmatched none).symm⟩
    · rcases ih later with ⟨old, ends, same⟩ | ⟨old, replacement, rest, n, ends, others⟩
      · exact Or.inl ⟨old, ends.trans (List.suffix_cons c chars), same⟩
      · exact Or.inr ⟨old, replacement, rest, n, ends.trans (List.suffix_cons c chars), others⟩
  | matched chars replacement rest found ih =>
    obtain ⟨front, -, split⟩ := consumes found
    have ending : rest <:+ chars := ⟨front, split.symm⟩
    have whole := substitute_matched consumes found
    obtain ⟨before, joined⟩ := short
    rw [whole, List.append_eq_append_iff] at joined
    rcases joined with ⟨tail, cut, same⟩ | ⟨between, -, same⟩
    · by_cases first : before = []
      · refine Or.inl ⟨chars, List.suffix_rfl, ?_⟩
        rw [same, whole, cut, first, List.nil_append]
      · by_cases last : tail = []
        · refine Or.inl ⟨rest, ending, ?_⟩
          rw [same, last, List.nil_append]
        · refine Or.inr ⟨chars, replacement, rest, before.length, List.suffix_rfl, found, ?_, ?_, ?_⟩
          · exact fun zero => first (List.length_eq_zero_iff.mp zero)
          · rw [cut, List.length_append]
            have := List.length_pos_of_ne_nil last
            omega
          · rw [same, cut, List.drop_left]
    · rcases ih ⟨between, same.symm⟩ with ⟨old, ends, same⟩ | ⟨old, replacement, rest, n, ends, others⟩
      · exact Or.inl ⟨old, ends.trans ending, same⟩
      · exact Or.inr ⟨old, replacement, rest, n, ends.trans ending, others⟩

/-- Nothing is left to do where every match has been replaced. -/
theorem substitute_replaced (consumes : Consumes pattern) {text : List Char}
    (replaced : Replaced pattern text) : substitute pattern 0 text = text := by
  induction text using substitute_induct consumes with
  | nil => rfl
  | unmatched c chars none ih =>
    rw [substitute_unmatched none, ih fun _ _ _ short =>
      replaced (short.trans (List.suffix_cons c chars))]
  | matched chars replacement rest found ih =>
    obtain ⟨front, -, split⟩ := consumes found
    have ending : rest <:+ chars := ⟨front, split.symm⟩
    rw [substitute_matched consumes found, ih fun _ _ _ short => replaced (short.trans ending)]
    exact (replaced List.suffix_rfl found).symm

end

/-! ### Separators -/

/-- What separates the parts of a match has no case. -/
def isSeparator (c : Char) : Bool := isSpace c ∨ c = '=' ∨ c = ':' ∨ c = '@'

theorem isSeparator_space {c : Char} (space : isSpace c = true) : isSeparator c = true :=
  decide_eq_true (Or.inl space)

theorem separator_not_upper {c : Char} (separates : isSeparator c = true) :
    ¬('A' ≤ c ∧ c ≤ 'Z') := by
  simp only [isSeparator, isSpace, isWhiteSpace, decide_eq_true_eq, Bool.decide_or,
    Bool.or_eq_true] at separates
  simp only [Char.le_def, UInt32.le_iff_toNat_le, ← Char.val_inj, ← UInt32.toNat_inj] at *
  simp at *
  omega

theorem foldCase_separator {c : Char} (separates : isSeparator c = true) : foldCase c = c := by
  have lowerCase : c.toLower = c := by
    unfold Char.toLower
    rw [dif_neg]
    exact separator_not_upper separates
  unfold foldCase
  split
  · rename_i letter
    rcases letter with rfl | rfl <;> exact absurd separates (by decide)
  · split
    · rename_i letter
      subst letter
      exact absurd separates (by decide)
    · split
      · rename_i letter
        subst letter
        exact absurd separates (by decide)
      · exact lowerCase

/-! ### How a match begins -/

/-- The folded characters with which a match begins. -/
abbrev Head := List (Char → Bool)

def letters (word : List Char) : Head := word.map fun w c => c = w

def begins : Head → List Char → Bool
  | [], _ => true
  | kind :: head, c :: chars => kind (foldCase c) && begins head chars
  | _ :: _, [] => false

/-- The folded text does not begin like this, and what follows it changes nothing. -/
def clash : Head → List Char → Bool
  | kind :: head, c :: text => !kind c || clash head text
  | _, _ => false

theorem begins_clash {head : Head} {front : List Char} (more : List Char)
    (clashes : clash head (front.map foldCase) = true) : begins head (front ++ more) = false := by
  induction head generalizing front with
  | nil => cases clashes
  | cons kind head ih =>
    cases front with
    | nil => cases clashes
    | cons c front =>
      rw [List.map_cons, clash, Bool.or_eq_true] at clashes
      rw [List.cons_append, begins, Bool.and_eq_false_iff]
      exact clashes.imp (fun differs => Bool.not_eq_true' _ |>.mp differs) ih

/-- The pattern begins with one of the heads, and its folded replacement is one of the texts. -/
structure Shape (pattern : SecretPattern) (heads : List Head) (texts : List (List Char)) : Prop where
  consumes : Consumes pattern
  head : ∀ {chars replacement rest}, pattern chars = some (replacement, rest) →
    ∃ head ∈ heads, begins head chars = true
  text : ∀ {chars replacement rest}, pattern chars = some (replacement, rest) →
    replacement.map foldCase ∈ texts
  first : ∀ {c chars replacement rest}, pattern (c :: chars) = some (replacement, rest) →
    ∃ d more, replacement = d :: more ∧ foldCase d = foldCase c
  plain : ∀ text ∈ texts, text.head?.any isSeparator = false

/-- A match neither begins inside one of the texts nor reaches one from before it. -/
def Apart (heads : List Head) (texts : List (List Char)) : Prop :=
  ∀ head ∈ heads, ∀ text ∈ texts,
    (∀ n < text.length, n ≠ 0 → clash head (text.drop n) = true) ∧
      ∀ n < head.length, n ≠ 0 → clash (head.drop n) text = true

section

variable {pattern : SecretPattern} {heads : List Head} {texts : List (List Char)}

theorem Shape.matched_plain (shape : Shape pattern heads texts) {chars replacement rest : List Char}
    (found : pattern chars = some (replacement, rest)) :
    ∀ c ∈ replacement.head?, isSeparator c = false := by
  intro c first
  by_contra separates
  rw [Bool.not_eq_false] at separates
  have plain := shape.plain _ (shape.text found)
  rw [List.head?_map, Option.mem_def.mp first, Option.map_some, Option.any_some,
    foldCase_separator separates, separates] at plain
  cases plain

theorem Shape.unmatched_separator (shape : Shape pattern heads texts) {c : Char} {chars : List Char}
    (separates : isSeparator c = true) : pattern (c :: chars) = none := by
  cases found : pattern (c :: chars) with
  | none => rfl
  | some replaced =>
    obtain ⟨d, more, begins', same⟩ := shape.first found
    rw [foldCase_separator separates] at same
    have member := shape.text found
    rw [begins', List.map_cons, same] at member
    have plain := shape.plain _ member
    rw [List.head?_cons, Option.any_some, separates] at plain
    cases plain

theorem substitute_cons_separator (shape : Shape pattern heads texts) {c : Char} (chars : List Char)
    (separates : isSeparator c = true) :
    substitute pattern 0 (c :: chars) = c :: substitute pattern 0 chars :=
  substitute_unmatched (shape.unmatched_separator separates)

/-- A separator at the front of the new text is the old one's. -/
theorem substitute_eq_cons_separator (shape : Shape pattern heads texts) {c : Char}
    {chars rest : List Char} (separates : isSeparator c = true)
    (same : substitute pattern 0 chars = c :: rest) :
    ∃ old, chars = c :: old ∧ rest = substitute pattern 0 old := by
  cases chars with
  | nil => cases same
  | cons first old =>
    cases found : pattern (first :: old) with
    | none =>
      rw [substitute_unmatched found, List.cons.injEq] at same
      exact ⟨old, by rw [same.1], same.2.symm⟩
    | some replaced =>
      obtain ⟨d, more, begins', -⟩ := shape.first found
      have plain := shape.matched_plain found d (by rw [begins']; rfl)
      rw [substitute_matched shape.consumes found, begins', List.cons_append,
        List.cons.injEq] at same
      rw [same.1, separates] at plain
      cases plain

/-- The first character keeps its letter. -/
theorem foldCase_substitute (shape : Shape pattern heads texts) {c d : Char} {chars rest : List Char}
    (same : substitute pattern 0 (c :: chars) = d :: rest) : foldCase d = foldCase c := by
  cases found : pattern (c :: chars) with
  | none =>
    rw [substitute_unmatched found, List.cons.injEq] at same
    rw [same.1]
  | some replaced =>
    obtain ⟨e, more, begins', equal⟩ := shape.first found
    rw [substitute_matched shape.consumes found, begins', List.cons_append, List.cons.injEq] at same
    rw [← same.1, equal]

/-- The white space at the front stays, and what follows it is gone through by itself. -/
theorem spaces_substitute (shape : Shape pattern heads texts) (chars : List Char) :
    (substitute pattern 0 chars).takeWhile isSpace = chars.takeWhile isSpace ∧
      (substitute pattern 0 chars).dropWhile isSpace =
        substitute pattern 0 (chars.dropWhile isSpace) := by
  induction chars with
  | nil => exact ⟨rfl, rfl⟩
  | cons c chars ih =>
    by_cases space : isSpace c = true
    · rw [substitute_cons_separator shape chars (isSeparator_space space),
        List.takeWhile_cons_of_pos space, List.takeWhile_cons_of_pos space,
        List.dropWhile_cons_of_pos space, List.dropWhile_cons_of_pos space, ih.1]
      exact ⟨rfl, ih.2⟩
    · rw [List.takeWhile_cons_of_neg space, List.dropWhile_cons_of_neg space]
      cases same : substitute pattern 0 (c :: chars) with
      | nil => exact ⟨rfl, rfl⟩
      | cons d rest =>
        have nonspace : ¬isSpace d = true := by
          intro first
          obtain ⟨old, split, -⟩ := substitute_eq_cons_separator shape (isSeparator_space first) same
          rw [List.cons.injEq] at split
          exact space (split.1 ▸ first)
        exact ⟨List.takeWhile_cons_of_neg nonspace, List.dropWhile_cons_of_neg nonspace⟩

/-- What the new text begins with, the old one does where no replacement can be meant. -/
theorem begins_substitute (shape : Shape pattern heads texts) {head : Head} {chars : List Char}
    (apart : ∀ text ∈ texts, ∀ n < head.length, (n = 0 → pattern chars ≠ none) →
      clash (head.drop n) text = true)
    (found : begins head (substitute pattern 0 chars) = true) :
    begins head chars = true ∧ ∀ n ≤ head.length,
      (substitute pattern 0 chars).drop n = substitute pattern 0 (chars.drop n) := by
  induction head generalizing chars with
  | nil =>
    refine ⟨rfl, fun n none => ?_⟩
    rw [Nat.le_zero.mp none]
    rfl
  | cons kind head ih =>
    cases chars with
    | nil => cases found
    | cons c chars =>
      cases here : pattern (c :: chars) with
      | some replaced =>
        have clashes : clash (kind :: head) (replaced.1.map foldCase) = true :=
          apart _ (shape.text here) 0 (Nat.succ_pos _) fun _ => here ▸ Option.some_ne_none _
        rw [substitute_matched shape.consumes here, begins_clash _ clashes] at found
        cases found
      | none =>
        rw [substitute_unmatched here, begins, Bool.and_eq_true] at found
        obtain ⟨first, others⟩ := found
        obtain ⟨begin', same⟩ := ih (fun text member n less _ =>
          apart text member (n + 1) (Nat.succ_lt_succ less) (absurd · (Nat.succ_ne_zero n))) others
        refine ⟨?_, fun n most => ?_⟩
        · rw [begins, first, begin', Bool.and_self]
        · cases n with
          | zero => rfl
          | succ n =>
            rw [substitute_unmatched here, List.drop_succ_cons, List.drop_succ_cons]
            exact same n (Nat.le_of_succ_le_succ most)

/-- Nothing is replaced within a text in which no match begins. -/
theorem substitute_apart {front : List Char} (shape : Shape pattern heads texts)
    (apart : ∀ head ∈ heads, ∀ n < front.length, clash head ((front.map foldCase).drop n) = true)
    (rest : List Char) :
    substitute pattern 0 (front ++ rest) = front ++ substitute pattern 0 rest := by
  induction front with
  | nil => rfl
  | cons c front ih =>
    have unmatched : pattern (c :: (front ++ rest)) = none := by
      cases found : pattern (c :: (front ++ rest)) with
      | none => rfl
      | some replaced =>
        obtain ⟨head, member, begin'⟩ := shape.head found
        have clashes := apart head member 0 (Nat.succ_pos _)
        rw [← List.cons_append, begins_clash rest clashes] at begin'
        cases begin'
    rw [List.cons_append, substitute_unmatched unmatched, ih fun head member n less =>
      apart head member (n + 1) (Nat.succ_lt_succ less)]
    rfl

end

/-! ### One pattern after another -/

section

variable {pattern other : SecretPattern} {heads others : List Head} {texts replaced : List (List Char)}

/-- No match begins inside a replacement. -/
theorem Shape.inside_none (otherShape : Shape other others replaced)
    (inside : ∀ head ∈ others, ∀ text ∈ texts, ∀ n < text.length, n ≠ 0 →
      clash head (text.drop n) = true)
    {replacement : List Char} (member : replacement.map foldCase ∈ texts) {n : Nat} (nonzero : n ≠ 0)
    (less : n < replacement.length) (more : List Char) :
    other (replacement.drop n ++ more) = none := by
  cases found : other (replacement.drop n ++ more) with
  | none => rfl
  | some match' =>
    obtain ⟨head, isHead, begun⟩ := otherShape.head found
    have clashes := inside head isHead _ member n (by rwa [List.length_map]) nonzero
    rw [← List.map_drop] at clashes
    rw [begins_clash _ clashes] at begun
    cases begun

/-- Where a match in the new text is one in the old text, the matches that have been replaced stay
so. -/
theorem Replaced.stays (shape : Shape pattern heads texts) (otherShape : Shape other others replaced)
    (inside : ∀ head ∈ others, ∀ text ∈ texts, ∀ n < text.length, n ≠ 0 →
      clash head (text.drop n) = true)
    (apart : ∀ head ∈ heads, ∀ text ∈ replaced, ∀ n < text.length, clash head (text.drop n) = true)
    (reflects : ∀ chars, (other (substitute pattern 0 chars)).isSome = true →
      (other chars).isSome = true)
    (again : ∀ chars replacement rest, other chars = some (replacement, rest) →
      other (replacement ++ substitute pattern 0 rest) =
        some (replacement, substitute pattern 0 rest))
    {text : List Char} (before : Replaced other text) : Replaced other (substitute pattern 0 text) := by
  intro suffix replacement rest short found
  rcases suffix_substitute shape.consumes short with
    ⟨old, ends, rfl⟩ | ⟨old, r, after, n, ends, matched, nonzero, less, rfl⟩
  · obtain ⟨⟨r, after⟩, matched⟩ := Option.isSome_iff_exists.mp
      (reflects old (Option.isSome_iff_exists.mpr ⟨_, found⟩))
    have same : substitute pattern 0 old = r ++ substitute pattern 0 after := by
      rw [before ends matched]
      exact substitute_apart shape (fun head member n less =>
        apart head member _ (otherShape.text matched) n (by rwa [List.length_map])) after
    rw [same, again old r after matched] at found
    obtain ⟨rfl, rfl⟩ := Prod.mk.inj (Option.some.inj found)
    exact same
  · rw [otherShape.inside_none inside (shape.text matched) nonzero less] at found
    cases found

/-- A pattern leaves no match but replaced ones. -/
theorem replaced_substitute (shape : Shape pattern heads texts)
    (inside : ∀ head ∈ heads, ∀ text ∈ texts, ∀ n < text.length, n ≠ 0 →
      clash head (text.drop n) = true)
    (reflects : ∀ chars, pattern chars = none → (pattern (substitute pattern 0 chars)).isSome = true →
      (pattern chars).isSome = true)
    (again : ∀ chars replacement rest, pattern chars = some (replacement, rest) →
      ∀ replacement' rest', pattern (replacement ++ substitute pattern 0 rest) =
        some (replacement', rest') →
          replacement ++ substitute pattern 0 rest = replacement' ++ rest')
    (text : List Char) : Replaced pattern (substitute pattern 0 text) := by
  intro suffix replacement rest short found
  rcases suffix_substitute shape.consumes short with
    ⟨old, ends, rfl⟩ | ⟨old, r, after, n, ends, matched, nonzero, less, rfl⟩
  · cases matched : pattern old with
    | none =>
      have some := reflects old matched (Option.isSome_iff_exists.mpr ⟨_, found⟩)
      rw [matched] at some
      cases some
    | some first =>
      rw [substitute_matched shape.consumes matched] at found ⊢
      exact again old _ _ matched _ _ found
  · rw [shape.inside_none inside (shape.text matched) nonzero less] at found
    cases found

end

end CyberLegends.Agents
