import CyberLegends.Actions.Policy
import CyberLegends.Core.Text

/-! The sanitizer: it cuts a text off at a length and redacts what looks like a secret, in every text
and key of a JSON value. -/

namespace CyberLegends.Agents

open CyberLegends.Core Lib Actions

/-! ### Secret patterns -/

/-- The letter, in lower case, of a pattern that ignores the case. -/
def foldCase (c : Char) : Char :=
  if c = '\u0130' ∨ c = '\u0131' then 'i'
  else if c = '\u017f' then 's'
  else if c = '\u212a' then 'k'
  else c.toLower

/-- White space of a pattern, which has four control characters more. -/
def isSpace (c : Char) : Bool := isWhiteSpace c ∨ ('\x1c' ≤ c ∧ c ≤ '\x1f')

/-- What follows the word, in whatever case. -/
def afterWord : List Char → List Char → Option (List Char)
  | [], chars => some chars
  | w :: word, c :: chars => if foldCase c = w then afterWord word chars else none
  | _ :: _, [] => none

/-- The replacement for what a pattern matches at the front of a text, and the rest of the text. -/
abbrev SecretPattern := List Char → Option (List Char × List Char)

/-- What stands in a connection string before the at sign. -/
def isCredentialChar (c : Char) : Bool := c ≠ '@' ∧ isSpace c = false

/-- The credentials in a connection string. -/
def credentialsPattern : SecretPattern := fun chars =>
  match afterWord "postgresql+asyncpg://".toList chars with
  | none => none
  | some rest =>
    match rest.takeWhile isCredentialChar, rest.dropWhile isCredentialChar with
    | _ :: _, '@' :: rest => some (chars.take 21 ++ "[REDACTED]@".toList, rest)
    | _, _ => none

/-- What follows `api_key`, with or without its separator. -/
def afterApiKey (chars : List Char) : Option (List Char) :=
  match afterWord "api".toList chars with
  | none => none
  | some rest =>
    match rest with
    | [] => none
    | c :: cs => if c = '_' ∨ c = '-' then afterWord "key".toList cs
      else afterWord "key".toList (c :: cs)

/-- What follows one of the words that announce a secret. -/
def afterKeyword (chars : List Char) : Option (List Char) :=
  (afterApiKey chars).or <| (afterWord "authorization".toList chars).or <|
    (afterWord "password".toList chars).or <| (afterWord "secret".toList chars).or <|
      afterWord "token".toList chars

/-- An assignment to a word that announces a secret. -/
def assignmentPattern : SecretPattern := fun chars =>
  match afterKeyword chars with
  | none => none
  | some rest =>
    match rest.dropWhile isSpace with
    | [] => none
    | c :: assigned =>
      if c = '=' ∨ c = ':' then
        match assigned.dropWhile isSpace with
        | [] => none
        | secret => some (chars.take (chars.length - rest.length) ++ "=[REDACTED]".toList,
          secret.dropWhile fun c => !isSpace c)
      else none

/-- A character of a bearer token. -/
def isTokenChar (c : Char) : Bool :=
  let c := foldCase c
  ('a' ≤ c ∧ c ≤ 'z') ∨ ('0' ≤ c ∧ c ≤ '9') ∨ c = '.' ∨ c = '_' ∨ c = '-'

def bearerPattern : SecretPattern := fun chars =>
  match afterWord "bearer".toList chars with
  | none => none
  | some rest =>
    match rest.takeWhile isSpace, rest.dropWhile isSpace with
    | _ :: _, c :: token =>
      if isTokenChar c then some ("Bearer [REDACTED]".toList, token.dropWhile isTokenChar)
      else none
    | _, _ => none

def secretPatterns : List SecretPattern := [credentialsPattern, assignmentPattern, bearerPattern]

/-- Replaces what the pattern matches, from the front on; `skip` characters belong to the match
before. -/
def substitute (pattern : SecretPattern) : Nat → List Char → List Char
  | _, [] => []
  | skip + 1, _ :: chars => substitute pattern skip chars
  | 0, c :: chars =>
    match pattern (c :: chars) with
    | some (replacement, rest) =>
      replacement ++ substitute pattern (chars.length - rest.length) chars
    | none => c :: substitute pattern 0 chars

/-! ### Texts and JSON -/

def sanitizeChars (maxCharacters : Nat) (chars : List Char) : List Char :=
  secretPatterns.foldl (fun safe pattern => substitute pattern 0 safe) (chars.take maxCharacters)

def sanitizeText (maxCharacters : Nat) (value : String) : String :=
  String.ofList (sanitizeChars maxCharacters value.toList)

def secretKeys : List String := ["authorization", "api_key", "password", "secret", "token"]

/-- A JSON object with one more entry; a key that is there keeps its place. -/
def setKey (entries : List (String × Json)) (key : String) (item : Json) : List (String × Json) :=
  if key ∈ entries.map Prod.fst then
    entries.map fun entry => if entry.1 = key then (key, item) else entry
  else entries ++ [(key, item)]

mutual

def sanitizeJson (maxStringCharacters : Nat) : Json → Json
  | .dict entries => .dict (sanitizeEntries maxStringCharacters [] entries)
  | .list items => .list (sanitizeItems maxStringCharacters items)
  | .string value => .string (sanitizeText maxStringCharacters value)
  | value => value

def sanitizeItems (maxStringCharacters : Nat) : List Json → List Json
  | [] => []
  | item :: items =>
    sanitizeJson maxStringCharacters item :: sanitizeItems maxStringCharacters items

def sanitizeEntries (maxStringCharacters : Nat) (safe : List (String × Json)) :
    List (String × Json) → List (String × Json)
  | [] => safe
  | (key, item) :: entries =>
    if String.ofList (lower key) ∈ secretKeys then sanitizeEntries maxStringCharacters safe entries
    else
      sanitizeEntries maxStringCharacters
        (setKey safe (sanitizeText 100 key) (sanitizeJson maxStringCharacters item)) entries

end

/-! ### Texts without a secret -/

/-- No pattern matches anywhere in the text. -/
def Unsecret (chars : List Char) : Prop :=
  ∀ pattern ∈ secretPatterns, ∀ suffix, suffix <:+ chars → pattern suffix = none

theorem substitute_none {pattern : SecretPattern} {chars : List Char}
    (unmatched : ∀ suffix, suffix <:+ chars → pattern suffix = none) :
    substitute pattern 0 chars = chars := by
  induction chars with
  | nil => rfl
  | cons c chars ih =>
    simp only [substitute, unmatched _ List.suffix_rfl]
    rw [ih fun suffix short => unmatched suffix (short.trans (List.suffix_cons c chars))]

/-- A text without a secret is only cut off. -/
theorem sanitizeChars_unsecret {maxCharacters : Nat} {chars : List Char}
    (clean : Unsecret (chars.take maxCharacters)) :
    sanitizeChars maxCharacters chars = chars.take maxCharacters := by
  have each : ∀ pattern ∈ secretPatterns,
      substitute pattern 0 (chars.take maxCharacters) = chars.take maxCharacters :=
    fun pattern member => substitute_none (clean pattern member)
  unfold sanitizeChars
  generalize secretPatterns = patterns at each
  induction patterns with
  | nil => rfl
  | cons pattern patterns ih =>
    rw [List.foldl_cons, each pattern List.mem_cons_self]
    exact ih fun pattern member => each pattern (List.mem_cons_of_mem _ member)

/-- A character with which no pattern begins has no secret, however often it is repeated. -/
theorem unsecret_replicate {c : Char}
    (plain : ∀ pattern ∈ secretPatterns, pattern [] = none ∧ ∀ rest, pattern (c :: rest) = none)
    (n : Nat) : Unsecret (List.replicate n c) := by
  intro pattern member suffix short
  obtain ⟨count, rfl⟩ : ∃ count, suffix = List.replicate count c :=
    ⟨_, List.eq_replicate_of_mem fun d there => List.eq_of_mem_replicate (short.subset there)⟩
  cases count with
  | zero => exact (plain pattern member).1
  | succ count => exact (plain pattern member).2 _

/-! ### The beginning of a text -/

/-- A match at the front of a text stays one when the text goes on. -/
def Extends (pattern : SecretPattern) : Prop :=
  ∀ chars more, (pattern chars).isSome = true → (pattern (chars ++ more)).isSome = true

theorem afterWord_append {word chars rest : List Char} (more : List Char)
    (found : afterWord word chars = some rest) : afterWord word (chars ++ more) = some (rest ++ more) := by
  induction word generalizing chars with
  | nil =>
    cases found
    rfl
  | cons w word ih =>
    cases chars with
    | nil => cases found
    | cons c chars =>
      simp only [afterWord, List.cons_append] at found ⊢
      split at found
      · rename_i same
        rw [if_pos same]
        exact ih found
      · cases found

section

variable {p : Char → Bool} {chars rest : List Char} {c : Char}

/-- The first character outside a run ends it, whatever follows. -/
theorem dropWhile_append_cons (more : List Char) (ended : chars.dropWhile p = c :: rest) :
    (chars ++ more).dropWhile p = c :: (rest ++ more) := by
  rw [List.dropWhile_append, ended, List.isEmpty_cons, if_neg Bool.false_ne_true,
    List.cons_append]

theorem takeWhile_append_cons (more : List Char) (ended : chars.dropWhile p = c :: rest) :
    (chars ++ more).takeWhile p = chars.takeWhile p := by
  rw [List.takeWhile_append, if_neg]
  intro whole
  have total := congrArg List.length (List.takeWhile_append_dropWhile (p := p) (l := chars))
  rw [List.length_append, whole, ended, List.length_cons] at total
  omega

end

theorem credentialsPattern_extends : Extends credentialsPattern := by
  intro chars more found
  unfold credentialsPattern at found ⊢
  cases word : afterWord "postgresql+asyncpg://".toList chars with
  | none =>
    rw [word] at found
    cases found
  | some rest =>
    rw [word] at found
    rw [afterWord_append more word]
    dsimp only at found ⊢
    split at found
    · rename_i first run rest' taken ended
      rw [takeWhile_append_cons more ended, dropWhile_append_cons more ended, taken]
      rfl
    · cases found

theorem afterApiKey_append {chars rest : List Char} (more : List Char)
    (found : afterApiKey chars = some rest) : afterApiKey (chars ++ more) = some (rest ++ more) := by
  unfold afterApiKey at found ⊢
  cases word : afterWord "api".toList chars with
  | none =>
    rw [word] at found
    cases found
  | some rest' =>
    rw [word] at found
    rw [afterWord_append more word]
    cases rest' with
    | nil => cases found
    | cons c cs =>
      dsimp only [List.cons_append] at found ⊢
      split at found
      · rename_i separator
        rw [if_pos separator]
        exact afterWord_append more found
      · rename_i separator
        rw [if_neg separator]
        exact afterWord_append more found

/-- The words differ in a letter that both have. -/
def conflict : List Char → List Char → Bool
  | a :: as, b :: bs => a ≠ b ∨ conflict as bs
  | _, _ => false

/-- A text that begins with a word does not begin with one in conflict with it. -/
theorem afterWord_conflict {word other chars rest : List Char} (conflicts : conflict word other = true)
    (more : List Char) (found : afterWord word chars = some rest) :
    afterWord other (chars ++ more) = none := by
  induction word generalizing other chars with
  | nil => cases conflicts
  | cons a as ih =>
    cases other with
    | nil => cases conflicts
    | cons b bs =>
      cases chars with
      | nil => cases found
      | cons c chars =>
        simp only [afterWord, List.cons_append] at found ⊢
        split at found
        · rename_i same
          by_cases equal : foldCase c = b
          · rw [if_pos equal]
            have further : conflict as bs = true :=
              (of_decide_eq_true conflicts).resolve_left fun differ => differ (same.symm.trans equal)
            exact ih further found
          · rw [if_neg equal]
        · cases found

theorem afterApiKey_conflict {word chars rest : List Char}
    (conflicts : conflict word "api".toList = true) (more : List Char)
    (found : afterWord word chars = some rest) : afterApiKey (chars ++ more) = none := by
  unfold afterApiKey
  rw [afterWord_conflict conflicts more found]

theorem afterKeyword_append {chars rest : List Char} (more : List Char)
    (found : afterKeyword chars = some rest) :
    afterKeyword (chars ++ more) = some (rest ++ more) := by
  unfold afterKeyword at found ⊢
  simp only [Option.or_eq_some_iff] at found
  rcases found with api | ⟨-, authorization | ⟨-, password | ⟨-, secret | ⟨-, token⟩⟩⟩⟩
  · rw [afterApiKey_append more api, Option.some_or]
  · rw [afterApiKey_conflict (by decide) more authorization, afterWord_append more authorization,
      Option.none_or, Option.some_or]
  · rw [afterApiKey_conflict (by decide) more password,
      afterWord_conflict (by decide) more password, afterWord_append more password]
    simp only [Option.none_or, Option.some_or]
  · rw [afterApiKey_conflict (by decide) more secret, afterWord_conflict (by decide) more secret,
      afterWord_conflict (by decide) more secret, afterWord_append more secret]
    simp only [Option.none_or, Option.some_or]
  · rw [afterApiKey_conflict (by decide) more token, afterWord_conflict (by decide) more token,
      afterWord_conflict (by decide) more token, afterWord_conflict (by decide) more token,
      afterWord_append more token]
    simp only [Option.none_or]

theorem assignmentPattern_extends : Extends assignmentPattern := by
  intro chars more found
  unfold assignmentPattern at found ⊢
  cases keyword : afterKeyword chars with
  | none =>
    rw [keyword] at found
    cases found
  | some rest =>
    rw [keyword] at found
    rw [afterKeyword_append more keyword]
    dsimp only at found ⊢
    split at found
    · cases found
    · rename_i c assigned ended
      rw [dropWhile_append_cons more ended]
      dsimp only
      split at found
      · rename_i assigns
        rw [if_pos assigns]
        split at found
        · cases found
        · rename_i secret nonempty
          cases spaces : assigned.dropWhile isSpace with
          | nil => exact absurd spaces nonempty
          | cons d secret =>
            rw [dropWhile_append_cons more spaces]
            rfl
      · cases found

theorem bearerPattern_extends : Extends bearerPattern := by
  intro chars more found
  unfold bearerPattern at found ⊢
  cases word : afterWord "bearer".toList chars with
  | none =>
    rw [word] at found
    cases found
  | some rest =>
    rw [word] at found
    rw [afterWord_append more word]
    dsimp only at found ⊢
    split at found
    · rename_i first run c token taken ended
      rw [takeWhile_append_cons more ended, dropWhile_append_cons more ended, taken]
      dsimp only
      split at found
      · rename_i isToken
        rw [if_pos isToken]
        rfl
      · cases found
    · cases found

/-- The beginning of a text without a secret has none. -/
theorem Unsecret.take {chars : List Char} (clean : Unsecret chars) (n : Nat) :
    Unsecret (chars.take n) := by
  intro pattern member suffix short
  have extend : Extends pattern := by
    simp only [secretPatterns, List.mem_cons, List.not_mem_nil, or_false] at member
    rcases member with rfl | rfl | rfl
    · exact credentialsPattern_extends
    · exact assignmentPattern_extends
    · exact bearerPattern_extends
  obtain ⟨front, split⟩ := short
  have longer : suffix ++ chars.drop n <:+ chars := by
    refine ⟨front, ?_⟩
    rw [← List.append_assoc, split, List.take_append_drop]
  by_contra matched
  have extended := extend suffix (chars.drop n) (Option.isSome_iff_ne_none.mpr matched)
  rw [clean pattern member _ longer] at extended
  cases extended

theorem sanitizeText_unsecret {maxCharacters : Nat} {value : String}
    (clean : Unsecret value.toList) :
    sanitizeText maxCharacters value = String.ofList (value.toList.take maxCharacters) := by
  unfold sanitizeText
  rw [sanitizeChars_unsecret (clean.take maxCharacters)]

/-! ### Texts that are left -/

theorem secretPattern_replacement {pattern : SecretPattern} (member : pattern ∈ secretPatterns)
    {chars replacement rest : List Char} (found : pattern chars = some (replacement, rest)) :
    replacement ≠ [] := by
  simp only [secretPatterns, List.mem_cons, List.not_mem_nil, or_false] at member
  rcases member with rfl | rfl | rfl
  · unfold credentialsPattern at found
    split at found
    · cases found
    · split at found
      · cases found
        exact List.append_ne_nil_of_right_ne_nil _ (by decide)
      · cases found
  · unfold assignmentPattern at found
    split at found
    · cases found
    · split at found
      · cases found
      · split at found
        · split at found
          · cases found
          · cases found
            exact List.append_ne_nil_of_right_ne_nil _ (by decide)
        · cases found
  · unfold bearerPattern at found
    split at found
    · cases found
    · split at found
      · split at found
        · cases found
          decide
        · cases found
      · cases found

theorem substitute_ne_nil {pattern : SecretPattern} (member : pattern ∈ secretPatterns)
    {chars : List Char} (nonempty : chars ≠ []) : substitute pattern 0 chars ≠ [] := by
  cases chars with
  | nil => exact absurd rfl nonempty
  | cons c chars =>
    unfold substitute
    split
    · rename_i replacement rest found
      exact List.append_ne_nil_of_left_ne_nil (secretPattern_replacement member found) _
    · exact List.cons_ne_nil _ _

/-- Something is left of a text that has a character, whatever is redacted in it. -/
theorem sanitizeText_ne_empty {maxCharacters : Nat} {value : String} (positive : 0 < maxCharacters)
    (nonempty : value ≠ "") : sanitizeText maxCharacters value ≠ "" := by
  intro empty
  have none_left : sanitizeChars maxCharacters value.toList = [] := by
    have := congrArg String.toList empty
    rwa [sanitizeText, String.toList_ofList] at this
  have some_taken : value.toList.take maxCharacters ≠ [] := by
    intro nothing
    rcases List.take_eq_nil_iff.mp nothing with zero | nil
    · exact positive.ne' zero
    · exact nonempty (String.toList_injective nil)
  have kept : ∀ patterns : List SecretPattern, patterns ⊆ secretPatterns → ∀ safe : List Char,
      safe ≠ [] → patterns.foldl (fun safe pattern => substitute pattern 0 safe) safe ≠ [] := by
    intro patterns
    induction patterns with
    | nil => exact fun _ safe some_left => some_left
    | cons pattern patterns ih =>
      intro members safe some_left
      obtain ⟨first, rest⟩ := List.cons_subset.mp members
      exact ih rest _ (substitute_ne_nil first some_left)
  exact kept secretPatterns (List.Subset.refl _) _ some_taken none_left

/-! ### Objects with plain keys -/

/-- The key stays as it is, and its entry with it. -/
def plainKey (key : String) : Bool :=
  String.ofList (lower key) ∉ secretKeys ∧ sanitizeText 100 key = key

theorem sanitizeEntries_plain {maxCharacters : Nat} {safe entries : List (String × Json)}
    (plain : ∀ entry ∈ entries, plainKey entry.1 = true)
    (distinct : ((safe ++ entries).map Prod.fst).Nodup) :
    sanitizeEntries maxCharacters safe entries =
      safe ++ entries.map fun entry => (entry.1, sanitizeJson maxCharacters entry.2) := by
  induction entries generalizing safe with
  | nil =>
    rw [List.map_nil, List.append_nil]
    rfl
  | cons entry entries ih =>
    obtain ⟨key, item⟩ := entry
    obtain ⟨first, rest⟩ := List.forall_mem_cons.mp plain
    obtain ⟨kept, same⟩ := of_decide_eq_true first
    have absent : key ∉ safe.map Prod.fst := by
      rw [List.map_append, List.nodup_append] at distinct
      exact fun there => distinct.2.2 key there key List.mem_cons_self rfl
    simp only [sanitizeEntries, if_neg kept, same, setKey, if_neg absent]
    rw [ih rest, List.append_assoc, List.map_cons, List.singleton_append]
    rw [List.map_append, List.map_append, List.append_assoc]
    rw [List.map_append] at distinct
    exact distinct

theorem sanitizeItems_eq (maxCharacters : Nat) (items : List Json) :
    sanitizeItems maxCharacters items = items.map (sanitizeJson maxCharacters) := by
  induction items with
  | nil => rfl
  | cons item items ih => rw [sanitizeItems, ih, List.map_cons]

end CyberLegends.Agents
