import CyberLegends.Agents.SecretPatterns

/-! What the sanitizer leaves: a text in which its patterns find nothing but what is redacted, and the same
everywhere in a JSON value. -/

namespace CyberLegends.Agents

open CyberLegends.Core Lib Actions

/-! ### Texts -/

theorem at_absent {texts : List (List Char)} {replacement : List Char}
    (member : replacement.map foldCase ∈ texts) (plain : ∀ text ∈ texts, '@' ∉ text) :
    '@' ∉ replacement := by
  intro sign
  have folded := List.mem_map_of_mem (f := foldCase) sign
  rw [foldCase_separator (by decide)] at folded
  exact plain _ member folded

theorem credentials_broken {chars replacement rest : List Char}
    (found : credentialsPattern chars = some (replacement, rest)) : Closes chars := by
  obtain ⟨begun, -, after, -⟩ := credentialsPattern_inv found
  have closes : Closes (chars.drop scheme.length) := closes_iff.mpr ⟨rest, after⟩
  have kept : ∀ c ∈ chars.take scheme.length, isCredentialChar c = true := by
    intro c member
    by_contra other
    have folded := List.mem_map_of_mem (f := foldCase) member
    have separates : isSeparator c = true := by
      unfold isSeparator isCredentialChar at *
      simp only [decide_eq_true_eq, not_and_or, not_not, Bool.not_eq_false] at other ⊢
      exact other.symm.imp_right fun sign => Or.inr (Or.inr sign)
    rw [(begins_letters begun).1, foldCase_separator separates] at folded
    have word : scheme.all isCredentialChar = true := by decide
    exact other (List.all_eq_true.mp word c folded)
  rw [← List.take_append_drop scheme.length chars, closes_append]
  · exact ⟨kept, closes⟩
  · exact fun sign => absurd (kept '@' sign) (by decide)

theorem assignment_broken {chars replacement rest : List Char}
    (found : assignmentPattern chars = some (replacement, rest)) :
    ¬Closes (replacement ++ substitute assignmentPattern 0 rest) := by
  obtain ⟨word, -, -, -, -, -, ended⟩ := assignmentPattern_inv found
  rw [closes_append (at_absent (assignment_shape.text found) (by decide))]
  rintro ⟨-, closes⟩
  exact closes_space (head_substitute assignment_shape ended) closes

theorem bearer_broken {chars replacement rest : List Char}
    (found : bearerPattern chars = some (replacement, rest)) :
    ¬Closes (replacement ++ substitute bearerPattern 0 rest) := by
  rw [closes_append (at_absent (bearer_shape.text found) (by decide))]
  rintro ⟨credentials, -⟩
  obtain ⟨-, -, -, rfl⟩ := bearerPattern_inv found
  exact absurd (credentials ' ' (by decide)) (by decide)

/-- A text in which every match has been replaced, and with no bearer token. -/
structure Redacted (safe : List Char) : Prop where
  credentials : Replaced credentialsPattern safe
  assignments : Replaced assignmentPattern safe
  tokens : ∀ suffix, suffix <:+ safe → bearerPattern suffix = none

theorem credentials_again {chars replacement rest : List Char}
    (found : credentialsPattern chars = some (replacement, rest)) (more : List Char) :
    credentialsPattern (replacement ++ more) = some (replacement, more) := by
  obtain ⟨begun, -, -, rfl⟩ := credentialsPattern_inv found
  exact credentialsPattern_again (begins_letters begun).1 more

theorem assignment_again {chars replacement rest : List Char}
    {pattern : SecretPattern} {heads : List Head} {texts : List (List Char)}
    (shape : Shape pattern heads texts)
    (found : assignmentPattern chars = some (replacement, rest)) :
    assignmentPattern (replacement ++ substitute pattern 0 rest) =
      some (replacement, substitute pattern 0 rest) := by
  obtain ⟨word, member, announced, -, rfl, -, ended⟩ := assignmentPattern_inv found
  exact assignmentPattern_again member (begins_letters announced).1 (head_substitute shape ended)

/-- What the first pattern leaves. -/
theorem credentials_first (text : List Char) :
    Replaced credentialsPattern (substitute credentialsPattern 0 text) := by
  refine replaced_substitute credentials_shape (by decide) ?_ ?_ text
  · intro chars unmatched found
    have apart : ∀ text ∈ credentialsTexts, ∀ n < scheme.length, n ≠ 0 →
        clash ((letters scheme).drop n) text = true := by decide
    exact credentials_reflects credentials_shape (fun text member n less matched =>
      apart text member n less fun zero => matched zero unmatched)
      (fun _ _ _ found _ => credentials_broken found) found
  · intro chars replacement rest found replacement' rest' again
    rw [credentials_again found] at again
    obtain ⟨rfl, rfl⟩ := Prod.mk.inj (Option.some.inj again)
    rfl

theorem credentials_second {text : List Char} (before : Replaced credentialsPattern text) :
    Replaced credentialsPattern (substitute assignmentPattern 0 text) := by
  refine before.stays assignment_shape credentials_shape (by decide) (by decide) ?_ ?_
  · intro chars found
    have apart : ∀ text ∈ assignmentTexts, ∀ n < scheme.length,
        clash ((letters scheme).drop n) text = true := by decide
    exact credentials_reflects assignment_shape (fun text member n less _ => apart text member n less)
      (fun _ _ _ found closes => absurd closes (assignment_broken found)) found
  · exact fun chars replacement rest found => credentials_again found _

theorem credentials_third {text : List Char} (before : Replaced credentialsPattern text) :
    Replaced credentialsPattern (substitute bearerPattern 0 text) := by
  refine before.stays bearer_shape credentials_shape (by decide) (by decide) ?_ ?_
  · intro chars found
    have apart : ∀ text ∈ bearerTexts, ∀ n < scheme.length,
        clash ((letters scheme).drop n) text = true := by decide
    exact credentials_reflects bearer_shape (fun text member n less _ => apart text member n less)
      (fun _ _ _ found closes => absurd closes (bearer_broken found)) found
  · exact fun chars replacement rest found => credentials_again found _

theorem assignments_second (text : List Char) :
    Replaced assignmentPattern (substitute assignmentPattern 0 text) := by
  refine replaced_substitute assignment_shape (by decide) ?_ ?_ text
  · intro chars unmatched found
    have apart : ∀ head ∈ assignmentHeads, ∀ text ∈ assignmentTexts, ∀ n < head.length, n ≠ 0 →
        clash (head.drop n) text = true := by decide
    exact assignment_reflects assignment_shape (fun head member text among n less matched =>
      apart head member text among n less fun zero => matched zero unmatched) found
  · intro chars replacement rest found replacement' rest' again
    rw [assignment_again assignment_shape found] at again
    obtain ⟨rfl, rfl⟩ := Prod.mk.inj (Option.some.inj again)
    rfl

theorem assignments_third {text : List Char} (before : Replaced assignmentPattern text) :
    Replaced assignmentPattern (substitute bearerPattern 0 text) := by
  refine before.stays bearer_shape assignment_shape (by decide) (by decide) ?_ ?_
  · intro chars found
    have apart : ∀ head ∈ assignmentHeads, ∀ text ∈ bearerTexts, ∀ n < head.length,
        clash (head.drop n) text = true := by decide
    exact assignment_reflects bearer_shape (fun head member text among n less _ =>
      apart head member text among n less) found
  · exact fun chars replacement rest found => assignment_again bearer_shape found

theorem tokens_third (text : List Char) :
    ∀ suffix, suffix <:+ substitute bearerPattern 0 text → bearerPattern suffix = none := by
  have replaced : Replaced bearerPattern (substitute bearerPattern 0 text) := by
    refine replaced_substitute bearer_shape (by decide) ?_ ?_ text
    · intro chars unmatched found
      have apart : ∀ text ∈ bearerTexts, ∀ n < bearer.length, n ≠ 0 →
          clash ((letters bearer).drop n) text = true := by decide
      exact bearer_reflects bearer_shape (fun text member n less matched =>
        apart text member n less fun zero => matched zero unmatched) found
    · intro chars replacement rest found replacement' rest' again
      obtain ⟨-, -, -, rfl⟩ := bearerPattern_inv found
      rw [bearerPattern_redacted] at again
      cases again
  intro suffix short
  cases found : bearerPattern suffix with
  | none => rfl
  | some first =>
    obtain ⟨replacement, rest⟩ := first
    have split := replaced short found
    obtain ⟨-, -, -, rfl⟩ := bearerPattern_inv found
    rw [split, bearerPattern_redacted] at found
    cases found

theorem sanitizeChars_redacted (maxCharacters : Nat) (chars : List Char) :
    Redacted (sanitizeChars maxCharacters chars) where
  credentials := credentials_third (credentials_second (credentials_first _))
  assignments := assignments_third (assignments_second _)
  tokens := tokens_third _

/-- A redacted text is only cut off. -/
theorem Redacted.sanitizeChars {safe : List Char} (redacted : Redacted safe) {maxCharacters : Nat}
    (most : safe.length ≤ maxCharacters) : sanitizeChars maxCharacters safe = safe := by
  have whole : Agents.sanitizeChars maxCharacters safe = substitute bearerPattern 0
      (substitute assignmentPattern 0 (substitute credentialsPattern 0 (safe.take maxCharacters))) := rfl
  rw [whole, List.take_of_length_le most, substitute_replaced credentials_shape.consumes
    redacted.credentials, substitute_replaced assignment_shape.consumes redacted.assignments,
    substitute_none redacted.tokens]

theorem sanitizeText_redacted (maxCharacters : Nat) (value : String) :
    Redacted (sanitizeText maxCharacters value).toList := by
  rw [sanitizeText, String.toList_ofList]
  exact sanitizeChars_redacted maxCharacters value.toList

/-- Whatever the text is and wherever it is cut off, the patterns find nothing more in what the sanitizer
returns: each connection string and each assignment that they still match is redacted, and the pattern of
the tokens matches nowhere. Sanitizing again changes nothing but for another cut. -/
theorem sanitizeText_redacts (maxCharacters : Nat) (value : String) :
    Redacted (sanitizeText maxCharacters value).toList ∧
      ∀ n, (sanitizeText maxCharacters value).toList.length ≤ n →
        sanitizeText n (sanitizeText maxCharacters value) = sanitizeText maxCharacters value := by
  have redacted := sanitizeText_redacted maxCharacters value
  refine ⟨redacted, fun n most => ?_⟩
  have same := redacted.sanitizeChars most
  rw [sanitizeText, same, String.ofList_toList]

/-- What the patterns do not match stays, also where it is a secret. -/
example : sanitizeText 500 "Authorization: Bearer s3cr3t" = "Authorization=[REDACTED] s3cr3t" := by
  decide +kernel

/-! ### JSON values -/

/-- The induction over a JSON value. -/
theorem Json.induct {motive : Json → Prop} (null : motive .null) (bool : ∀ value, motive (.bool value))
    (int : ∀ value, motive (.int value)) (float : ∀ mantissa exponent, motive (.float mantissa exponent))
    (string : ∀ value, motive (.string value))
    (list : ∀ items, (∀ item ∈ items, motive item) → motive (.list items))
    (dict : ∀ entries, (∀ entry ∈ entries, motive entry.2) → motive (.dict entries)) (value : Json) :
    motive value :=
  @Json.rec motive (fun items => ∀ item ∈ items, motive item)
    (fun entries => ∀ entry ∈ entries, motive entry.2) (fun entry => motive entry.2)
    null bool int float string list dict (fun _ none => absurd none List.not_mem_nil)
    (fun _ _ first others => List.forall_mem_cons.mpr ⟨first, others⟩)
    (fun _ none => absurd none List.not_mem_nil)
    (fun _ _ first others => List.forall_mem_cons.mpr ⟨first, others⟩) (fun _ _ second => second) value

/-- Distinct keys, redacted and none of which is one of the secret keys. -/
structure RedactedKeys (entries : List (String × Json)) : Prop where
  distinct : (entries.map Prod.fst).Nodup
  announced : ∀ entry ∈ entries, String.ofList (lower entry.1) ∉ secretKeys
  redacted : ∀ entry ∈ entries, Redacted entry.1.toList

/-- A value in whose texts the patterns find nothing more, and whose objects have no secret keys. -/
inductive RedactedJson : Json → Prop
  | null : RedactedJson .null
  | bool (value : Bool) : RedactedJson (.bool value)
  | int (value : Int) : RedactedJson (.int value)
  | float (mantissa exponent : Int) : RedactedJson (.float mantissa exponent)
  | string (value : String) (redacted : Redacted value.toList) : RedactedJson (.string value)
  | list (items : List Json) (each : ∀ item ∈ items, RedactedJson item) : RedactedJson (.list items)
  | dict (entries : List (String × Json)) (keys : RedactedKeys entries)
      (each : ∀ entry ∈ entries, RedactedJson entry.2) : RedactedJson (.dict entries)

/-- A bracket shows that something has been replaced. -/
theorem substitute_bracket {pattern : SecretPattern} (consumes : Consumes pattern)
    (marks : ∀ chars replacement rest, pattern chars = some (replacement, rest) → '[' ∈ replacement)
    (chars : List Char) :
    ('[' ∈ chars → '[' ∈ substitute pattern 0 chars) ∧
      (substitute pattern 0 chars = chars ∨ '[' ∈ substitute pattern 0 chars) := by
  induction chars using substitute_induct consumes with
  | nil => exact ⟨id, Or.inl rfl⟩
  | unmatched c chars none ih =>
    rw [substitute_unmatched none, List.mem_cons, List.mem_cons, List.cons.injEq]
    exact ⟨Or.imp_right ih.1, ih.2.imp (And.intro rfl) Or.inr⟩
  | matched chars replacement rest found ih =>
    have marked : '[' ∈ substitute pattern 0 chars := by
      rw [substitute_matched consumes found]
      exact List.mem_append_left _ (marks _ _ _ found)
    exact ⟨fun _ => marked, Or.inr marked⟩

theorem sanitizeChars_bracket (maxCharacters : Nat) (chars : List Char) :
    sanitizeChars maxCharacters chars = chars.take maxCharacters ∨
      '[' ∈ sanitizeChars maxCharacters chars := by
  have first := substitute_bracket credentials_shape.consumes (by
    intro chars replacement rest found
    rw [(credentialsPattern_inv found).2.2.2]
    exact List.mem_append_right _ (by decide)) (chars.take maxCharacters)
  have second := substitute_bracket assignment_shape.consumes (by
    intro chars replacement rest found
    obtain ⟨word, -, -, -, rfl, -⟩ := assignmentPattern_inv found
    exact List.mem_append_right _ (by decide))
    (substitute credentialsPattern 0 (chars.take maxCharacters))
  have third := substitute_bracket bearer_shape.consumes (by
    intro chars replacement rest found
    rw [(bearerPattern_inv found).2.2.2]
    decide) (substitute assignmentPattern 0
      (substitute credentialsPattern 0 (chars.take maxCharacters)))
  rcases first.2 with same | marked
  · rcases second.2 with same' | marked
    · exact third.2.imp_left fun same'' => same''.trans (same'.trans same)
    · exact Or.inr (third.1 marked)
  · exact Or.inr (third.1 (second.1 marked))

theorem length_lower (text : String) : text.toList.length ≤ (lower text).length := by
  unfold lower
  induction text.toList with
  | nil => exact le_rfl
  | cons c chars ih =>
    have one : 1 ≤ (lowerChar c).length := by
      unfold lowerChar
      split
      · exact le_rfl
      · split
        · decide
        · exact le_rfl
    rw [List.flatMap_cons, List.length_append, List.length_cons]
    omega

/-- A key that is none of the secret keys does not become one. -/
theorem sanitizeText_announced {key : String} (kept : String.ofList (lower key) ∉ secretKeys) :
    String.ofList (lower (sanitizeText 100 key)) ∉ secretKeys := by
  rcases sanitizeChars_bracket 100 key.toList with same | marked
  · by_cases short : key.toList.length ≤ 100
    · rw [List.take_of_length_le short] at same
      rwa [sanitizeText, same, String.ofList_toList]
    · intro secret
      have bounded : ∀ name ∈ secretKeys, name.toList.length < 100 := by decide
      have less := bounded _ secret
      have least := length_lower (sanitizeText 100 key)
      rw [String.toList_ofList] at less
      rw [sanitizeText, String.toList_ofList, same, List.length_take] at least
      rw [sanitizeText, same] at less
      omega
  · intro secret
    have plain : ∀ name ∈ secretKeys, '[' ∉ name.toList := by decide
    refine plain _ secret ?_
    rw [String.toList_ofList, lower, sanitizeText, String.toList_ofList]
    exact List.mem_flatMap.mpr ⟨'[', marked, by decide⟩

theorem mem_setKey {entries : List (String × Json)} {key : String} {item : Json}
    {entry : String × Json} (member : entry ∈ setKey entries key item) :
    entry = (key, item) ∨ entry ∈ entries := by
  unfold setKey at member
  split at member
  · obtain ⟨old, there, same⟩ := List.mem_map.mp member
    split at same
    · exact Or.inl same.symm
    · exact Or.inr (same ▸ there)
  · exact (List.mem_append.mp member).symm.imp_left List.mem_singleton.mp

theorem keys_setKey (entries : List (String × Json)) (key : String) (item : Json) :
    (setKey entries key item).map Prod.fst =
      if key ∈ entries.map Prod.fst then entries.map Prod.fst else entries.map Prod.fst ++ [key] := by
  unfold setKey
  split
  · rw [List.map_map]
    refine List.map_congr_left fun entry _ => ?_
    rw [Function.comp_apply]
    split
    · rename_i same
      exact same.symm
    · rfl
  · rw [List.map_append]
    rfl

theorem RedactedKeys.setKey {entries : List (String × Json)} (keys : RedactedKeys entries)
    {key : String} (announced : String.ofList (lower key) ∉ secretKeys)
    (redacted : Redacted key.toList) (item : Json) : RedactedKeys (setKey entries key item) where
  distinct := by
    rw [keys_setKey]
    split
    · exact keys.distinct
    · rename_i absent
      rw [List.nodup_append]
      refine ⟨keys.distinct, List.nodup_singleton key, ?_⟩
      rintro a there b new rfl
      exact absent (List.mem_singleton.mp new ▸ there)
  announced entry member := by
    rcases mem_setKey member with rfl | old
    · exact announced
    · exact keys.announced entry old
  redacted entry member := by
    rcases mem_setKey member with rfl | old
    · exact redacted
    · exact keys.redacted entry old

theorem sanitizeEntries_redacted {maxStringCharacters : Nat} {safe entries : List (String × Json)}
    (keys : RedactedKeys safe) (before : ∀ entry ∈ safe, RedactedJson entry.2)
    (each : ∀ entry ∈ entries, RedactedJson (sanitizeJson maxStringCharacters entry.2)) :
    RedactedJson (.dict (sanitizeEntries maxStringCharacters safe entries)) := by
  induction entries generalizing safe with
  | nil => exact .dict safe keys before
  | cons entry entries ih =>
    obtain ⟨key, item⟩ := entry
    obtain ⟨first, others⟩ := List.forall_mem_cons.mp each
    rw [sanitizeEntries]
    split
    · exact ih keys before others
    · rename_i kept
      refine ih (keys.setKey (sanitizeText_announced kept) (sanitizeText_redacted 100 key) _) ?_ others
      intro entry member
      rcases mem_setKey member with rfl | old
      · exact first
      · exact before entry old

/-- Whatever the value is, the patterns and the secret keys are exhausted in what the sanitizer returns:
each text and each key is redacted, the secret keys are gone with what stands under them, at every depth,
and two keys that become one leave one entry. -/
theorem sanitizeJson_redacts (maxStringCharacters : Nat) (value : Json) :
    RedactedJson (sanitizeJson maxStringCharacters value) := by
  induction value using Json.induct with
  | null => exact .null
  | bool value => exact .bool value
  | int value => exact .int value
  | float mantissa exponent => exact .float mantissa exponent
  | string value => exact .string _ (sanitizeText_redacted maxStringCharacters value)
  | list items each =>
    rw [sanitizeJson, sanitizeItems_eq]
    refine .list _ fun item member => ?_
    obtain ⟨old, there, rfl⟩ := List.mem_map.mp member
    exact each old there
  | dict entries each =>
    rw [sanitizeJson]
    refine sanitizeEntries_redacted ⟨List.nodup_nil, ?_, ?_⟩ ?_ each <;>
      exact fun _ none => absurd none List.not_mem_nil

end CyberLegends.Agents
