import CyberLegends.Agents.Substitution

/-! The three patterns of a secret: how their matches begin, what replaces them, and that a substitution
makes no new ones. -/

namespace CyberLegends.Agents

open CyberLegends.Core Lib Actions

/-! ### Words -/

theorem afterWord_cons {w c : Char} {word chars rest : List Char} :
    afterWord (w :: word) (c :: chars) = some rest ↔
      foldCase c = w ∧ afterWord word chars = some rest := by
  rw [afterWord]
  split
  · rename_i same
    exact (and_iff_right same).symm
  · rename_i differs
    constructor
    · intro found
      cases found
    · intro found
      exact absurd found.1 differs

theorem afterWord_eq_some {word chars rest : List Char} :
    afterWord word chars = some rest ↔
      begins (letters word) chars = true ∧ rest = chars.drop word.length := by
  induction word generalizing chars with
  | nil =>
    constructor
    · intro found
      exact ⟨rfl, (Option.some.inj found).symm⟩
    · intro found
      exact congrArg some found.2.symm
  | cons w word ih =>
    cases chars with
    | nil =>
      constructor
      · intro found
        cases found
      · intro found
        cases found.1
    | cons c chars =>
      have unfolded : begins (letters (w :: word)) (c :: chars) =
          (decide (foldCase c = w) && begins (letters word) chars) := rfl
      rw [unfolded, Bool.and_eq_true, decide_eq_true_eq, List.length_cons, List.drop_succ_cons,
        and_assoc, ← ih, afterWord_cons]

theorem afterWord_words (word other chars : List Char) :
    afterWord (word ++ other) chars = (afterWord word chars).bind (afterWord other) := by
  induction word generalizing chars with
  | nil => rfl
  | cons w word ih =>
    cases chars with
    | nil => rfl
    | cons c chars =>
      rw [List.cons_append, afterWord, afterWord]
      split
      · exact ih chars
      · rfl

theorem begins_letters {word chars : List Char} (found : begins (letters word) chars = true) :
    (chars.take word.length).map foldCase = word ∧ word.length ≤ chars.length := by
  induction word generalizing chars with
  | nil => exact ⟨rfl, Nat.zero_le _⟩
  | cons w word ih =>
    cases chars with
    | nil => cases found
    | cons c chars =>
      have unfolded : (decide (foldCase c = w) && begins (letters word) chars) = true := found
      rw [Bool.and_eq_true, decide_eq_true_eq] at unfolded
      obtain ⟨same, least⟩ := ih unfolded.2
      refine ⟨?_, Nat.succ_le_succ least⟩
      rw [List.length_cons, List.take_succ_cons, List.map_cons, unfolded.1, same]

/-- A text that folds to a word begins with it. -/
theorem begins_fold {word front : List Char} (same : front.map foldCase = word) (more : List Char) :
    begins (letters word) (front ++ more) = true := by
  subst same
  induction front with
  | nil => rfl
  | cons c front ih =>
    have unfolded : begins (letters ((c :: front).map foldCase)) (c :: front ++ more) =
        (decide (foldCase c = foldCase c) && begins (letters (front.map foldCase)) (front ++ more)) :=
      rfl
    rw [unfolded, ih, decide_eq_true rfl, Bool.and_self]

/-- The words that announce a secret. -/
def keywords : List (List Char) :=
  ["api_key", "api-key", "apikey", "authorization", "password", "secret", "token"].map String.toList

theorem keyword_ne_nil : ∀ word ∈ keywords, word ≠ [] := by decide

theorem foldCase_eq_separator {c d : Char} (letter : foldCase c = d) (mark : d = '_' ∨ d = '-') :
    c = d := by
  unfold foldCase at letter
  split at letter
  · subst letter
    exact absurd mark (by decide)
  · split at letter
    · subst letter
      exact absurd mark (by decide)
    · split at letter
      · subst letter
        exact absurd mark (by decide)
      · unfold Char.toLower at letter
        split at letter
        · rename_i upper
          have low := UInt32.le_iff_toNat_le.mp upper.1
          have high := UInt32.le_iff_toNat_le.mp upper.2
          rw [← Char.val_inj, ← UInt32.toNat_inj] at letter
          rcases mark with rfl | rfl <;> simp at low high letter <;> omega
        · exact letter

theorem afterApiKey_eq_some {chars rest : List Char} :
    afterApiKey chars = some rest ↔ ∃ word ∈ keywords.take 3, afterWord word chars = some rest := by
  have spelt : keywords.take 3 = ["api".toList ++ '_' :: "key".toList,
      "api".toList ++ '-' :: "key".toList, "api".toList ++ "key".toList] := by decide
  rw [spelt]
  simp only [List.mem_cons, List.not_mem_nil, or_false, exists_eq_or_imp, exists_eq_left,
    afterWord_words]
  unfold afterApiKey
  cases api : afterWord "api".toList chars with
  | none => simp
  | some after =>
    cases after with
    | nil => simp [afterWord]
    | cons c cs =>
      have key : afterWord "key".toList (c :: cs) = some rest ↔
          foldCase c = 'k' ∧ afterWord "ey".toList cs = some rest := afterWord_cons
      simp only [Option.bind_some, afterWord_cons, key]
      split
      · rename_i mark
        rcases mark with rfl | rfl
        · rw [show foldCase '_' = '_' by decide]
          simp
        · rw [show foldCase '-' = '-' by decide]
          simp
      · rename_i unmarked
        have under : foldCase c ≠ '_' := fun letter =>
          unmarked (Or.inl (foldCase_eq_separator letter (Or.inl rfl)))
        have dash : foldCase c ≠ '-' := fun letter =>
          unmarked (Or.inr (foldCase_eq_separator letter (Or.inr rfl)))
        simp only [under, dash, false_and, false_or, key]

/-- The keywords are pairwise in conflict, so that at most one of them is found. -/
theorem afterKeyword_eq_some {chars rest : List Char} :
    afterKeyword chars = some rest ↔ ∃ word ∈ keywords, afterWord word chars = some rest := by
  have spelt : keywords = keywords.take 3 ++ ["authorization".toList, "password".toList,
      "secret".toList, "token".toList] := by decide
  constructor
  · intro found
    simp only [afterKeyword, Option.or_eq_some_iff, afterApiKey_eq_some] at found
    rcases found with ⟨word, member, api⟩ | ⟨-, found | ⟨-, found | ⟨-, found | ⟨-, found⟩⟩⟩⟩
    · exact ⟨word, List.mem_of_mem_take member, api⟩
    · exact ⟨_, by decide, found⟩
    · exact ⟨_, by decide, found⟩
    · exact ⟨_, by decide, found⟩
    · exact ⟨_, by decide, found⟩
  · rintro ⟨word, member, found⟩
    have apart : ∀ {other : List Char}, conflict word other = true → afterWord other chars = none := by
      intro other conflicts
      have none := afterWord_conflict conflicts [] found
      rwa [List.append_nil] at none
    rw [spelt, List.mem_append] at member
    unfold afterKeyword
    rcases member with member | member
    · rw [afterApiKey_eq_some.mpr ⟨word, member, found⟩, Option.some_or]
    · have conflicts : ∀ other ∈ ["authorization".toList, "password".toList, "secret".toList,
          "token".toList], conflict other "api".toList = true := by decide
      have api : afterApiKey chars = none := by
        rw [afterApiKey, apart (conflicts word member)]
      simp only [List.mem_cons, List.not_mem_nil, or_false] at member
      rw [api, Option.none_or]
      rcases member with rfl | rfl | rfl | rfl
      · rw [found, Option.some_or]
      · rw [apart (by decide), found, Option.none_or, Option.some_or]
      · rw [apart (by decide), apart (by decide), found]
        simp only [Option.none_or, Option.some_or]
      · rw [apart (by decide), apart (by decide), apart (by decide), found]
        simp only [Option.none_or]

theorem begins_append (head more : Head) (chars : List Char) :
    begins (head ++ more) chars = (begins head chars && begins more (chars.drop head.length)) := by
  induction head generalizing chars with
  | nil => rfl
  | cons kind head ih =>
    cases chars with
    | nil => rfl
    | cons c chars =>
      rw [List.cons_append, begins, begins, ih, Bool.and_assoc]
      rfl

@[simp] theorem length_letters (word : List Char) : (letters word).length = word.length :=
  List.length_map _

/-! ### Assignments -/

/-- An equals sign or a colon, and a secret after it. -/
def Assigns (chars : List Char) : Prop :=
  ∃ c assigned, chars.dropWhile isSpace = c :: assigned ∧ (c = '=' ∨ c = ':') ∧
    assigned.dropWhile isSpace ≠ []

theorem Assigns.separated {chars : List Char} (assigns : Assigns chars) :
    begins [isSeparator] chars = true := by
  obtain ⟨c, assigned, after, mark, -⟩ := assigns
  cases chars with
  | nil => cases after
  | cons d chars =>
    have separates : isSeparator d = true := by
      by_cases space : isSpace d = true
      · exact isSeparator_space space
      · rw [List.dropWhile_cons_of_neg space, List.cons.injEq] at after
        rw [after.1]
        exact decide_eq_true (Or.inr (mark.imp_right Or.inl))
    rw [begins, foldCase_separator separates, separates]
    rfl

def assignmentHeads : List Head := keywords.map fun word => letters word ++ [isSeparator]

def assignmentTexts : List (List Char) := keywords.map fun word => word ++ "=[redacted]".toList

theorem assignmentPattern_isSome {word chars : List Char} (member : word ∈ keywords)
    (announced : begins (letters word) chars = true) (assigns : Assigns (chars.drop word.length)) :
    (assignmentPattern chars).isSome = true := by
  have found := afterKeyword_eq_some.mpr ⟨word, member, afterWord_eq_some.mpr ⟨announced, rfl⟩⟩
  obtain ⟨c, assigned, after, mark, nonempty⟩ := assigns
  obtain ⟨first, secret, given⟩ := List.exists_cons_of_ne_nil nonempty
  simp only [assignmentPattern, found, after, if_pos mark, given]
  rfl

theorem assignmentPattern_inv {chars replacement rest : List Char}
    (found : assignmentPattern chars = some (replacement, rest)) :
    ∃ word ∈ keywords, begins (letters word) chars = true ∧ Assigns (chars.drop word.length) ∧
      replacement = chars.take word.length ++ "=[REDACTED]".toList ∧
        rest <:+ chars.drop word.length ∧ ∀ c ∈ rest.head?, isSpace c = true := by
  unfold assignmentPattern at found
  split at found
  · cases found
  · rename_i after keyword
    obtain ⟨word, member, same⟩ := afterKeyword_eq_some.mp keyword
    obtain ⟨announced, rfl⟩ := afterWord_eq_some.mp same
    have least := (begins_letters announced).2
    split at found
    · cases found
    · rename_i c assigned spaces
      split at found
      · rename_i mark
        split at found
        · cases found
        · rename_i secret nonempty
          obtain ⟨rfl, rfl⟩ := Prod.mk.inj (Option.some.inj found)
          have length : chars.length - (chars.drop word.length).length = word.length := by
            rw [List.length_drop]
            omega
          refine ⟨word, member, announced, ⟨c, assigned, spaces, mark, nonempty⟩, by rw [length], ?_, ?_⟩
          · have ending : c :: assigned <:+ chars.drop word.length := spaces ▸ List.dropWhile_suffix _
            have secrets : assigned.dropWhile isSpace <:+ assigned := List.dropWhile_suffix _
            exact ((List.dropWhile_suffix _).trans secrets).trans
              ((List.suffix_cons c assigned).trans ending)
          · intro d first
            have stops := List.head?_dropWhile_not (fun c => !isSpace c) (assigned.dropWhile isSpace)
            rw [Option.mem_def.mp first] at stops
            simpa using stops
      · cases found

theorem assignment_shape : Shape assignmentPattern assignmentHeads assignmentTexts where
  consumes := by
    intro chars replacement rest found
    obtain ⟨word, member, announced, -, -, ⟨between, split⟩, -⟩ := assignmentPattern_inv found
    refine ⟨chars.take word.length ++ between, ?_, ?_⟩
    · refine List.append_ne_nil_of_left_ne_nil (fun empty => ?_) _
      have same := (begins_letters announced).1
      rw [empty] at same
      exact keyword_ne_nil word member same.symm
    · rw [List.append_assoc, split, List.take_append_drop]
  head := by
    intro chars replacement rest found
    obtain ⟨word, member, announced, assigns, -⟩ := assignmentPattern_inv found
    refine ⟨_, List.mem_map_of_mem member, ?_⟩
    rw [begins_append, announced, length_letters, assigns.separated]
    rfl
  text := by
    intro chars replacement rest found
    obtain ⟨word, member, announced, -, rfl, -⟩ := assignmentPattern_inv found
    rw [List.map_append, (begins_letters announced).1]
    exact List.mem_map.mpr ⟨word, member, by congr 1⟩
  first := by
    intro c chars replacement rest found
    obtain ⟨word, member, -, -, rfl, -⟩ := assignmentPattern_inv found
    cases word with
    | nil => exact absurd rfl (keyword_ne_nil [] member)
    | cons w word => exact ⟨c, _, rfl, rfl⟩
  plain := by decide

/-- A replaced assignment before white space is matched as a whole. -/
theorem assignmentPattern_again {word front more : List Char} (member : word ∈ keywords)
    (same : front.map foldCase = word) (ended : ∀ c ∈ more.head?, isSpace c = true) :
    assignmentPattern (front ++ "=[REDACTED]".toList ++ more) =
      some (front ++ "=[REDACTED]".toList, more) := by
  have length : word.length = front.length := by rw [← same, List.length_map]
  have found : afterKeyword (front ++ ("=[REDACTED]".toList ++ more)) =
      some ("=[REDACTED]".toList ++ more) := by
    refine afterKeyword_eq_some.mpr ⟨word, member, afterWord_eq_some.mpr ⟨begins_fold same _, ?_⟩⟩
    rw [length, List.drop_left]
  have mark : ("=[REDACTED]".toList ++ more).dropWhile isSpace =
      '=' :: ("[REDACTED]".toList ++ more) := rfl
  have secret : ("[REDACTED]".toList ++ more).dropWhile isSpace = '[' :: ("REDACTED]".toList ++ more) :=
    rfl
  have left : ('[' :: ("REDACTED]".toList ++ more)).dropWhile (fun c => !isSpace c) = more := by
    have within : ('[' :: ("REDACTED]".toList ++ more)).dropWhile (fun c => !isSpace c) =
        more.dropWhile (fun c => !isSpace c) := rfl
    rw [within]
    cases more with
    | nil => rfl
    | cons c more => rw [List.dropWhile_cons_of_neg (by rw [ended c rfl]; decide)]
  have taken : (front ++ ("=[REDACTED]".toList ++ more)).length -
      ("=[REDACTED]".toList ++ more).length = front.length := by
    rw [List.length_append]
    omega
  rw [List.append_assoc]
  simp only [assignmentPattern, found, mark, true_or, if_true, secret, left]
  rw [taken, List.take_left]

/-! ### Connection strings -/

/-- Characters of credentials up to an at sign. -/
def Closes : List Char → Prop
  | [] => False
  | c :: chars => c = '@' ∨ isCredentialChar c = true ∧ Closes chars

theorem closes_iff {chars : List Char} :
    Closes chars ↔ ∃ rest, chars.dropWhile isCredentialChar = '@' :: rest := by
  induction chars with
  | nil =>
    constructor
    · intro closes
      cases closes
    · rintro ⟨rest, none⟩
      cases none
  | cons c chars ih =>
    unfold Closes
    by_cases credential : isCredentialChar c = true
    · rw [List.dropWhile_cons_of_pos credential, ih, and_iff_right credential]
      refine or_iff_right ?_
      rintro rfl
      cases credential
    · rw [List.dropWhile_cons_of_neg credential]
      constructor
      · rintro (rfl | ⟨absent, -⟩)
        · exact ⟨chars, rfl⟩
        · exact absurd absent credential
      · rintro ⟨rest, same⟩
        exact Or.inl (List.cons.inj same).1

theorem closes_append {front more : List Char} (absent : '@' ∉ front) :
    Closes (front ++ more) ↔ (∀ c ∈ front, isCredentialChar c = true) ∧ Closes more := by
  induction front with
  | nil => simp
  | cons c front ih =>
    obtain ⟨differs, later⟩ := not_or.mp (mt List.mem_cons.mpr absent)
    rw [List.cons_append, Closes, or_iff_right (Ne.symm differs), ih later, List.forall_mem_cons,
      and_assoc]

/-- Without a character before it, the at sign comes first. -/
theorem Closes.at_sign {chars : List Char} (closes : Closes chars)
    (empty : chars.takeWhile isCredentialChar = []) : ∃ others, chars = '@' :: others := by
  cases chars with
  | nil => cases closes
  | cons c chars =>
    rcases closes with rfl | ⟨credential, -⟩
    · exact ⟨chars, rfl⟩
    · rw [List.takeWhile_cons_of_pos credential] at empty
      cases empty

/-- No credentials reach over white space. -/
theorem closes_space {chars : List Char} (spaced : ∀ c ∈ chars.head?, isSpace c = true) :
    ¬Closes chars := by
  cases chars with
  | nil => exact id
  | cons c chars =>
    have space := spaced c rfl
    rintro (rfl | ⟨credential, -⟩)
    · cases space
    · have nonspace := (of_decide_eq_true credential).2
      rw [space] at nonspace
      cases nonspace

section

variable {pattern : SecretPattern} {heads : List Head} {texts : List (List Char)}

theorem head_substitute (shape : Shape pattern heads texts) {chars : List Char}
    (spaced : ∀ c ∈ chars.head?, isSpace c = true) :
    ∀ c ∈ (substitute pattern 0 chars).head?, isSpace c = true := by
  cases chars with
  | nil => exact spaced
  | cons c chars =>
    rw [substitute_cons_separator shape chars (isSeparator_space (spaced c rfl))]
    exact spaced

theorem Assigns.of_substitute (shape : Shape pattern heads texts) {chars : List Char}
    (assigns : Assigns (substitute pattern 0 chars)) : Assigns chars := by
  obtain ⟨c, assigned, after, mark, nonempty⟩ := assigns
  have separates : isSeparator c = true := decide_eq_true (Or.inr (mark.imp_right Or.inl))
  rw [(spaces_substitute shape chars).2] at after
  obtain ⟨old, same, rfl⟩ := substitute_eq_cons_separator shape separates after
  refine ⟨c, old, same, mark, fun empty => nonempty ?_⟩
  rw [(spaces_substitute shape old).2, empty]
  rfl

theorem Closes.of_substitute
    (broken : ∀ chars replacement rest, pattern chars = some (replacement, rest) →
      Closes (replacement ++ substitute pattern 0 rest) → Closes chars)
    (shape : Shape pattern heads texts) {chars : List Char}
    (closes : Closes (substitute pattern 0 chars)) : Closes chars := by
  induction chars with
  | nil => exact closes
  | cons c chars ih =>
    cases found : pattern (c :: chars) with
    | none =>
      rw [substitute_unmatched found] at closes
      exact closes.imp_right (And.imp_right ih)
    | some replaced =>
      rw [substitute_matched shape.consumes found] at closes
      exact broken _ _ _ found closes

end

/-- The word with which a connection string begins. -/
def scheme : List Char := "postgresql+asyncpg://".toList

def credentialsHeads : List Head := [letters scheme]

def credentialsTexts : List (List Char) := [scheme ++ "[redacted]@".toList]

theorem credentialsPattern_isSome {chars : List Char} (begun : begins (letters scheme) chars = true)
    (nonempty : (chars.drop scheme.length).takeWhile isCredentialChar ≠ [])
    (closes : Closes (chars.drop scheme.length)) : (credentialsPattern chars).isSome = true := by
  have found : afterWord "postgresql+asyncpg://".toList chars = some (chars.drop scheme.length) :=
    afterWord_eq_some.mpr ⟨begun, rfl⟩
  obtain ⟨rest, after⟩ := closes_iff.mp closes
  obtain ⟨first, credentials, taken⟩ := List.exists_cons_of_ne_nil nonempty
  simp only [credentialsPattern, found, after, taken]
  rfl

theorem credentialsPattern_inv {chars replacement rest : List Char}
    (found : credentialsPattern chars = some (replacement, rest)) :
    begins (letters scheme) chars = true ∧
      (chars.drop scheme.length).takeWhile isCredentialChar ≠ [] ∧
        (chars.drop scheme.length).dropWhile isCredentialChar = '@' :: rest ∧
          replacement = chars.take scheme.length ++ "[REDACTED]@".toList := by
  unfold credentialsPattern at found
  split at found
  · cases found
  · rename_i after word
    obtain ⟨begun, rfl⟩ := afterWord_eq_some.mp word
    split at found
    · rename_i first credentials rest' taken dropped
      obtain ⟨rfl, rfl⟩ := Prod.mk.inj (Option.some.inj found)
      exact ⟨begun, taken ▸ List.cons_ne_nil _ _, dropped, rfl⟩
    · cases found

theorem credentials_shape : Shape credentialsPattern credentialsHeads credentialsTexts where
  consumes := by
    intro chars replacement rest found
    obtain ⟨begun, -, after, -⟩ := credentialsPattern_inv found
    have ending : rest <:+ chars.drop scheme.length :=
      ((List.suffix_cons '@' rest).trans (after ▸ List.dropWhile_suffix _))
    obtain ⟨between, split⟩ := ending
    refine ⟨chars.take scheme.length ++ between, ?_, ?_⟩
    · refine List.append_ne_nil_of_left_ne_nil (fun empty => ?_) _
      have same := (begins_letters begun).1
      rw [empty] at same
      exact absurd same (by decide)
    · rw [List.append_assoc, split, List.take_append_drop]
  head := fun found => ⟨_, List.mem_singleton_self _, (credentialsPattern_inv found).1⟩
  text := by
    intro chars replacement rest found
    obtain ⟨begun, -, -, rfl⟩ := credentialsPattern_inv found
    rw [List.map_append, (begins_letters begun).1]
    exact List.mem_singleton.mpr (by congr 1)
  first := by
    intro c chars replacement rest found
    obtain ⟨-, -, -, rfl⟩ := credentialsPattern_inv found
    exact ⟨c, _, rfl, rfl⟩
  plain := by decide

theorem credentialsPattern_again {front : List Char} (same : front.map foldCase = scheme)
    (more : List Char) :
    credentialsPattern (front ++ "[REDACTED]@".toList ++ more) =
      some (front ++ "[REDACTED]@".toList, more) := by
  have length : scheme.length = front.length := by rw [← same, List.length_map]
  have found : afterWord "postgresql+asyncpg://".toList (front ++ ("[REDACTED]@".toList ++ more)) =
      some ("[REDACTED]@".toList ++ more) := by
    refine afterWord_eq_some.mpr ⟨begins_fold same _, ?_⟩
    exact (List.drop_left' length.symm).symm
  have taken : ("[REDACTED]@".toList ++ more).takeWhile isCredentialChar = "[REDACTED]".toList := rfl
  have dropped : ("[REDACTED]@".toList ++ more).dropWhile isCredentialChar = '@' :: more := rfl
  have kept : (front ++ ("[REDACTED]@".toList ++ more)).take 21 = front := List.take_left' length.symm
  rw [List.append_assoc]
  simp only [credentialsPattern, found, taken, dropped]
  rw [kept]
  rfl

/-! ### Bearer tokens -/

def bearer : List Char := "bearer".toList

def bearerHeads : List Head := [letters bearer]

def bearerTexts : List (List Char) := [bearer ++ " [redacted]".toList]

/-- White space and a character of a token. -/
def Carries (chars : List Char) : Prop :=
  chars.takeWhile isSpace ≠ [] ∧ ∃ c ∈ (chars.dropWhile isSpace).head?, isTokenChar c = true

theorem bearerPattern_isSome {chars : List Char} (begun : begins (letters bearer) chars = true)
    (carries : Carries (chars.drop bearer.length)) : (bearerPattern chars).isSome = true := by
  have found : afterWord "bearer".toList chars = some (chars.drop bearer.length) :=
    afterWord_eq_some.mpr ⟨begun, rfl⟩
  obtain ⟨nonempty, c, first, isToken⟩ := carries
  obtain ⟨space, spaces, taken⟩ := List.exists_cons_of_ne_nil nonempty
  obtain ⟨token, after⟩ := List.head?_eq_some_iff.mp first
  simp only [bearerPattern, found, taken, after, isToken]
  rfl

theorem bearerPattern_inv {chars replacement rest : List Char}
    (found : bearerPattern chars = some (replacement, rest)) :
    begins (letters bearer) chars = true ∧ Carries (chars.drop bearer.length) ∧
      rest <:+ chars.drop bearer.length ∧ replacement = "Bearer [REDACTED]".toList := by
  unfold bearerPattern at found
  split at found
  · cases found
  · rename_i after word
    obtain ⟨begun, rfl⟩ := afterWord_eq_some.mp word
    split at found
    · rename_i first spaces c token taken dropped
      split at found
      · rename_i isToken
        obtain ⟨rfl, rfl⟩ := Prod.mk.inj (Option.some.inj found)
        have ending : c :: token <:+ chars.drop "bearer".toList.length :=
          dropped ▸ List.dropWhile_suffix _
        refine ⟨begun, ⟨taken ▸ List.cons_ne_nil _ _, c, ?_, isToken⟩, ?_, rfl⟩
        · exact congrArg List.head? dropped
        · exact (List.dropWhile_suffix _).trans ((List.suffix_cons c token).trans ending)
      · cases found
    · cases found

theorem bearer_shape : Shape bearerPattern bearerHeads bearerTexts where
  consumes := by
    intro chars replacement rest found
    obtain ⟨begun, -, ⟨between, split⟩, -⟩ := bearerPattern_inv found
    refine ⟨chars.take bearer.length ++ between, ?_, ?_⟩
    · refine List.append_ne_nil_of_left_ne_nil (fun empty => ?_) _
      have same := (begins_letters begun).1
      rw [empty] at same
      exact absurd same (by decide)
    · rw [List.append_assoc, split, List.take_append_drop]
  head := fun found => ⟨_, List.mem_singleton_self _, (bearerPattern_inv found).1⟩
  text := by
    intro chars replacement rest found
    obtain ⟨-, -, -, rfl⟩ := bearerPattern_inv found
    decide
  first := by
    intro c chars replacement rest found
    obtain ⟨begun, -, -, rfl⟩ := bearerPattern_inv found
    have letter : some (foldCase c) = some 'b' := congrArg List.head? (begins_letters begun).1
    refine ⟨'B', "earer [REDACTED]".toList, rfl, ?_⟩
    rw [Option.some.inj letter]
    decide
  plain := by decide

/-- What replaces a token is none. -/
theorem bearerPattern_redacted (more : List Char) :
    bearerPattern ("Bearer [REDACTED]".toList ++ more) = none := by
  rfl

/-! ### Matches of the old text -/

section

variable {pattern : SecretPattern} {heads : List Head} {texts : List (List Char)}

theorem Carries.of_substitute (shape : Shape pattern heads texts) {chars : List Char}
    (carries : Carries (substitute pattern 0 chars)) : Carries chars := by
  obtain ⟨nonempty, c, first, isToken⟩ := carries
  rw [(spaces_substitute shape chars).1] at nonempty
  rw [(spaces_substitute shape chars).2] at first
  refine ⟨nonempty, ?_⟩
  cases after : chars.dropWhile isSpace with
  | nil =>
    rw [after] at first
    cases first
  | cons d token =>
    rw [after] at first
    obtain ⟨rest, same⟩ := List.head?_eq_some_iff.mp first
    refine ⟨d, rfl, ?_⟩
    unfold isTokenChar at isToken ⊢
    rwa [← foldCase_substitute shape same]

theorem credentials_reflects (shape : Shape pattern heads texts) {chars : List Char}
    (apart : ∀ text ∈ texts, ∀ n < scheme.length, (n = 0 → pattern chars ≠ none) →
      clash ((letters scheme).drop n) text = true)
    (broken : ∀ chars replacement rest, pattern chars = some (replacement, rest) →
      Closes (replacement ++ substitute pattern 0 rest) → Closes chars)
    (found : (credentialsPattern (substitute pattern 0 chars)).isSome = true) :
    (credentialsPattern chars).isSome = true := by
  obtain ⟨⟨replacement, rest⟩, found⟩ := Option.isSome_iff_exists.mp found
  obtain ⟨begun, nonempty, after, -⟩ := credentialsPattern_inv found
  obtain ⟨begun, same⟩ := begins_substitute shape (by rwa [length_letters]) begun
  rw [length_letters] at same
  rw [same _ le_rfl] at nonempty after
  have closes := Closes.of_substitute broken shape (closes_iff.mpr ⟨rest, after⟩)
  refine credentialsPattern_isSome begun (fun empty => nonempty ?_) closes
  obtain ⟨others, sign⟩ := closes.at_sign empty
  rw [sign, substitute_cons_separator shape others (by decide)]
  rfl

theorem assignment_reflects (shape : Shape pattern heads texts) {chars : List Char}
    (apart : ∀ head ∈ assignmentHeads, ∀ text ∈ texts, ∀ n < head.length,
      (n = 0 → pattern chars ≠ none) → clash (head.drop n) text = true)
    (found : (assignmentPattern (substitute pattern 0 chars)).isSome = true) :
    (assignmentPattern chars).isSome = true := by
  obtain ⟨⟨replacement, rest⟩, found⟩ := Option.isSome_iff_exists.mp found
  obtain ⟨word, member, announced, assigns, -⟩ := assignmentPattern_inv found
  have head : begins (letters word ++ [isSeparator]) (substitute pattern 0 chars) = true := by
    rw [begins_append, announced, length_letters, assigns.separated]
    rfl
  obtain ⟨begun, same⟩ := begins_substitute shape (apart _ (List.mem_map_of_mem member)) head
  rw [begins_append, Bool.and_eq_true] at begun
  rw [same word.length (by simp)] at assigns
  exact assignmentPattern_isSome member begun.1 (assigns.of_substitute shape)

theorem bearer_reflects (shape : Shape pattern heads texts) {chars : List Char}
    (apart : ∀ text ∈ texts, ∀ n < bearer.length, (n = 0 → pattern chars ≠ none) →
      clash ((letters bearer).drop n) text = true)
    (found : (bearerPattern (substitute pattern 0 chars)).isSome = true) :
    (bearerPattern chars).isSome = true := by
  obtain ⟨⟨replacement, rest⟩, found⟩ := Option.isSome_iff_exists.mp found
  obtain ⟨begun, carries, -⟩ := bearerPattern_inv found
  obtain ⟨begun, same⟩ := begins_substitute shape (by rwa [length_letters]) begun
  rw [length_letters] at same
  rw [same _ le_rfl] at carries
  exact bearerPattern_isSome begun (carries.of_substitute shape)

end

end CyberLegends.Agents
