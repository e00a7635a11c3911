import Mathlib.Data.List.Basic

/-! The longest end of a list that has a property. -/

namespace CyberLegends.Lib

section

variable {α : Type*} {P : List α → Prop} {l s t : List α} {a : α}

/-- Of the ends of `l` that have the property, `s` is the longest. -/
structure LongestSuffix (P : List α → Prop) (l s : List α) : Prop where
  suffix : s <:+ l
  admissible : P s
  longest : ∀ t, t <:+ l → P t → t.length ≤ s.length

theorem LongestSuffix.self (whole : P l) : LongestSuffix P l l :=
  ⟨List.suffix_rfl, whole, fun _ suffix _ => suffix.length_le⟩

/-- An end with the property lies in the longest one. -/
theorem LongestSuffix.of_suffix (best : LongestSuffix P l s) (suffix : t <:+ l) (admissible : P t) :
    t <:+ s :=
  List.suffix_of_suffix_length_le suffix best.suffix (best.longest t suffix admissible)

theorem LongestSuffix.unique (first : LongestSuffix P l s) (second : LongestSuffix P l t) : s = t := by
  have short := second.of_suffix first.suffix first.admissible
  have long := first.longest t second.suffix second.admissible
  exact short.eq_of_length (Nat.le_antisymm short.length_le long)

/-- The first item is dropped when the whole list has not the property. -/
theorem LongestSuffix.cons (best : LongestSuffix P l s) (exceeds : ¬P (a :: l)) :
    LongestSuffix P (a :: l) s := by
  refine ⟨best.suffix.trans (List.suffix_cons a l), best.admissible, fun t suffix admissible => ?_⟩
  rcases List.suffix_cons_iff.mp suffix with rfl | suffix
  · exact absurd admissible exceeds
  · exact best.longest t suffix admissible

/-- What has been dropped never comes back: of a longer list, the longest end is that of the end
before. -/
theorem LongestSuffix.push (shrinks : ∀ t, P (t ++ [a]) → P t) (best : LongestSuffix P l s)
    (next : LongestSuffix P (s ++ [a]) t) : LongestSuffix P (l ++ [a]) t := by
  obtain ⟨dropped, rfl⟩ := best.suffix
  refine ⟨?_, next.admissible, fun u suffix admissible => ?_⟩
  · rw [List.append_assoc]
    exact next.suffix.trans (List.suffix_append dropped _)
  · rcases List.suffix_concat_iff.mp suffix with rfl | ⟨before, rfl, short⟩
    · exact Nat.zero_le _
    · apply next.longest _ _ admissible
      obtain ⟨start, rfl⟩ := best.of_suffix short (shrinks before admissible)
      rw [List.append_assoc]
      exact List.suffix_append start _

end

end CyberLegends.Lib
