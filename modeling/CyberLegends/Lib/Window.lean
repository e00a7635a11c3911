import Mathlib.Algebra.Order.Group.Basic
import Mathlib.Data.List.Basic
import Mathlib.Data.List.Induction

/-! Logs of times in their order, and how many of them lie in a window that is open at its start and
closed at its end. -/

namespace CyberLegends.Lib

section

variable {α : Type*} [AddCommGroup α] [LinearOrder α]

/-- The times of a log in the window of length `w` that ends at `t`. -/
def within (w t : α) (log : List α) : List α := log.filter fun s => t - w < s ∧ s ≤ t

theorem within_append (w t : α) (log log' : List α) :
    within w t (log ++ log') = within w t log ++ within w t log' := List.filter_append ..

/-- For a window that ends at or after the last time of the log, only its start matters. -/
theorem within_of_le {w t : α} {log : List α} (before : ∀ s ∈ log, s ≤ t) :
    within w t log = log.filter (t - w < ·) := by
  refine List.filter_congr fun s member => ?_
  simp [before s member]

omit [AddCommGroup α] in
/-- What is dropped from the front of a log in order is what lies up to the cut. -/
theorem dropWhile_sorted {cut : α} {log : List α} (sorted : log.Pairwise (· ≤ ·)) :
    log.dropWhile (· ≤ cut) = log.filter (cut < ·) := by
  induction log with
  | nil => rfl
  | cons s log ih =>
    obtain ⟨first, rest⟩ := List.pairwise_cons.mp sorted
    by_cases early : s ≤ cut
    · rw [List.dropWhile_cons_of_pos (by simpa using early),
        List.filter_cons_of_neg (by simpa using early), ih rest]
    · have late : ∀ s' ∈ s :: log, cut < s' := by
        intro s' member
        rcases List.mem_cons.mp member with rfl | member
        · exact lt_of_not_ge early
        · exact lt_of_lt_of_le (lt_of_not_ge early) (first s' member)
      rw [List.dropWhile_cons_of_neg (by simpa using early), List.filter_eq_self.mpr]
      exact fun s' member => by simpa using late s' member

variable [IsOrderedAddMonoid α]

/-- If no more than `n` times lie in the window that ends at a time of the log, up to that time, then
no more than `n` lie in any window. -/
theorem length_within_le {w : α} {n : Nat} {log : List α} (sorted : log.Pairwise (· ≤ ·))
    (each : ∀ before s after, log = before ++ s :: after →
      (within w s (before ++ [s])).length ≤ n) (t : α) : (within w t log).length ≤ n := by
  induction log using List.reverseRecOn with
  | nil => exact Nat.zero_le n
  | append_singleton log u ih =>
    obtain ⟨ordered, -, below⟩ := List.pairwise_append.mp sorted
    have last : ∀ s ∈ log ++ [u], s ≤ u := by
      intro s member
      rcases List.mem_append.mp member with member | member
      · exact below s member u List.mem_cons_self
      · exact le_of_eq (List.mem_singleton.mp member)
    by_cases late : u ≤ t
    · -- the window that ends at the last time holds all that this one holds
      refine le_trans (List.Sublist.length_le ?_) (each log u [] rfl)
      rw [within_of_le last]
      refine List.monotone_filter_right _ fun s inside => ?_
      have starts := sub_le_sub_right late w
      simp only [decide_eq_true_eq] at inside ⊢
      exact lt_of_le_of_lt starts inside.1
    · have outside : within w t [u] = [] := by
        simp [within, late]
      rw [within_append, outside, List.append_nil]
      refine ih ordered fun before s after whole => each before s (after ++ [u]) ?_
      rw [whole, List.append_assoc, List.cons_append]

end

end CyberLegends.Lib
