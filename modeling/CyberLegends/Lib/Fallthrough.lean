import Mathlib.Data.List.Induction
import Mathlib.Data.List.Nodup

/-! Candidates that are tried in order: each one that falls through leaves its turn to the next. -/

namespace CyberLegends.Lib

section
variable {α : Type*} (falls : α → Prop) [DecidablePred falls]

/-- The candidates whose turn comes. -/
def reached : List α → List α
  | [] => []
  | a :: as => if falls a then a :: reached as else [a]

variable {falls} {a : α} {as before after : List α}

/-- All fall through, or there is a first that does not. -/
theorem falls_cases (falls : α → Prop) [DecidablePred falls] (as : List α) :
    (∀ a ∈ as, falls a) ∨
      ∃ before a after, as = before ++ a :: after ∧ (∀ b ∈ before, falls b) ∧ ¬ falls a := by
  induction as with
  | nil => exact .inl fun a none => absurd none List.not_mem_nil
  | cons a as ih =>
    by_cases here : falls a
    · rcases ih with all | ⟨before, a', after, rfl, through, stays⟩
      · exact .inl (List.forall_mem_cons.mpr ⟨here, all⟩)
      · exact .inr ⟨a :: before, a', after, rfl, List.forall_mem_cons.mpr ⟨here, through⟩, stays⟩
    · exact .inr ⟨[], a, as, rfl, fun b none => absurd none List.not_mem_nil, here⟩

theorem reached_append (through : ∀ b ∈ before, falls b) :
    reached falls (before ++ after) = before ++ reached falls after := by
  induction before with
  | nil => rfl
  | cons b before ih =>
    obtain ⟨here, later⟩ := List.forall_mem_cons.mp through
    rw [List.cons_append, reached, if_pos here, ih later, List.cons_append]

theorem reached_all (all : ∀ a ∈ as, falls a) : reached falls as = as := by
  have whole : reached falls (as ++ []) = as ++ reached falls [] := reached_append all
  simpa [reached] using whole

theorem reached_first (through : ∀ b ∈ before, falls b) (stays : ¬ falls a) :
    reached falls (before ++ a :: after) = before ++ [a] := by
  rw [reached_append through, reached, if_neg stays]

/-- No candidate has two turns exactly when none comes again after candidates that all fall through. -/
theorem reached_nodup_iff : (reached falls as).Nodup ↔
    ∀ before a after, as = before ++ a :: after → (∀ b ∈ before, falls b) → a ∉ before := by
  constructor
  · rintro distinct before a after rfl through again
    rw [reached_append through, reached] at distinct
    have turns : a ∉ before := by
      intro earlier
      have apart := (List.nodup_append.mp distinct).2.2 a earlier
      split at apart
      · exact apart a List.mem_cons_self rfl
      · exact apart a List.mem_cons_self rfl
    exact turns again
  · intro apart
    have prefixes : ∀ before after, as = before ++ after → (∀ b ∈ before, falls b) →
        before.Nodup := by
      intro before
      induction before using List.reverseRecOn with
      | nil => exact fun _ _ _ => List.nodup_nil
      | append_singleton before a ih =>
        intro after whole through
        rw [List.append_assoc, List.singleton_append] at whole
        have earlier : ∀ b ∈ before, falls b := fun b member =>
          through b (List.mem_append_left _ member)
        rw [List.nodup_append]
        refine ⟨ih _ whole earlier, List.nodup_singleton a, ?_⟩
        rintro b member _ last rfl
        rw [List.mem_singleton] at last
        exact apart before a after whole earlier (last ▸ member)
    rcases falls_cases falls as with all | ⟨before, a, after, rfl, through, stays⟩
    · rw [reached_all all]
      exact prefixes as [] (List.append_nil as).symm all
    · rw [reached_first through stays, List.nodup_append]
      refine ⟨prefixes before (a :: after) rfl through, List.nodup_singleton a, ?_⟩
      rintro b member _ last rfl
      rw [List.mem_singleton] at last
      exact apart before a after rfl through (last ▸ member)

end

section
variable {α : Type*} [DecidableEq α] {a : α} {as : List α} {n : ℕ}

theorem take_filter_ne (absent : a ∉ as.take n) :
    (as.filter fun b => !b == a).take n = as.take n := by
  induction as generalizing n with
  | nil => simp
  | cons b as ih =>
    cases n with
    | zero => simp
    | succ n =>
      rw [List.take_succ_cons, List.mem_cons, not_or] at absent
      obtain ⟨other, later⟩ := absent
      rw [List.filter_cons_of_pos (by simpa using Ne.symm other), List.take_succ_cons, ih later,
        List.take_succ_cons]

/-- Where the first ones are distinct, leaving out what comes again leaves them as they are. -/
theorem take_eraseDups (distinct : (as.take n).Nodup) : as.eraseDups.take n = as.take n := by
  induction n generalizing as with
  | zero => simp
  | succ n ih =>
    cases as with
    | nil => simp
    | cons a as =>
      rw [List.take_succ_cons, List.nodup_cons] at distinct
      obtain ⟨absent, later⟩ := distinct
      have same := take_filter_ne absent
      rw [List.eraseDups_cons, List.take_succ_cons, List.take_succ_cons, ih (same ▸ later), same]

end
end CyberLegends.Lib
