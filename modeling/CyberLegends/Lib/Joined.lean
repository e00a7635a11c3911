import Mathlib.Data.List.Basic

/-! Lists joined with a separator: two parts can be read off again where the separator stands in one of
them only, and otherwise there is more than one way to split. -/

namespace CyberLegends.Lib

variable {α : Type*} {sep : α} {a b a' b' : List α}

/-- Two pairs of parts that are joined to the same list are the same, or one splits the list later
than the other. -/
theorem joined_eq_iff : a ++ sep :: b = a' ++ sep :: b' ↔
    (a = a' ∧ b = b') ∨ (∃ x, a = a' ++ sep :: x ∧ b' = x ++ sep :: b) ∨
      ∃ x, a' = a ++ sep :: x ∧ b = x ++ sep :: b' := by
  constructor
  · intro same
    rcases List.append_eq_append_iff.mp same with ⟨x, front, back⟩ | ⟨x, front, back⟩
    · cases x with
      | nil =>
        rw [List.append_nil] at front
        cases back
        exact .inl ⟨front.symm, rfl⟩
      | cons c x =>
        cases back
        exact .inr (.inr ⟨x, front, rfl⟩)
    · cases x with
      | nil =>
        rw [List.append_nil] at front
        cases back
        exact .inl ⟨front, rfl⟩
      | cons c x =>
        cases back
        exact .inr (.inl ⟨x, front, rfl⟩)
  · rintro (⟨rfl, rfl⟩ | ⟨x, rfl, rfl⟩ | ⟨x, rfl, rfl⟩)
    · rfl
    · rw [List.append_assoc, List.cons_append]
    · rw [List.append_assoc, List.cons_append]

/-- The part before the separator is known where it has none. -/
theorem joined_inj (first : sep ∉ a) (second : sep ∉ a') (same : a ++ sep :: b = a' ++ sep :: b') :
    a = a' ∧ b = b' := by
  rcases joined_eq_iff.mp same with equal | ⟨x, rfl, -⟩ | ⟨x, rfl, -⟩
  · exact equal
  · exact absurd (List.mem_append_right _ List.mem_cons_self) first
  · exact absurd (List.mem_append_right _ List.mem_cons_self) second

end CyberLegends.Lib
