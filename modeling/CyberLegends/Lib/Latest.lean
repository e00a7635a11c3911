import Mathlib.Data.List.Sort

/-! The latest elements of a list, in the order of their keys. Elements with one key stay in the order
in which the list has them. -/

namespace CyberLegends.Lib

variable {α κ : Type*} [LinearOrder κ] (key : α → κ)

/-- The list in the order of the keys. -/
def ordered (l : List α) : List α := l.insertionSort fun a b => key a ≤ key b

/-- The last `n` in the order of the keys, or all when there are fewer. -/
def latest (n : Nat) (l : List α) : List α := (ordered key l).drop (l.length - n)

theorem ordered_perm (l : List α) : (ordered key l).Perm l := List.perm_insertionSort _ l

@[simp] theorem length_ordered (l : List α) : (ordered key l).length = l.length :=
  (ordered_perm key l).length_eq

theorem ordered_sorted (l : List α) : (ordered key l).Pairwise fun a b => key a ≤ key b := by
  have : Std.Total fun a b : α => key a ≤ key b := ⟨fun a b => le_total (key a) (key b)⟩
  have : IsTrans α fun a b => key a ≤ key b := ⟨fun _ _ _ => le_trans⟩
  exact List.pairwise_insertionSort _ l

/-- What is left out does not decide where an element is inserted. -/
theorem filter_orderedInsert (p : α → Bool) (a : α) {l : List α}
    (sorted : l.Pairwise fun a b => key a ≤ key b) :
    (l.orderedInsert (fun a b => key a ≤ key b) a).filter p =
      if p a then (l.filter p).orderedInsert (fun a b => key a ≤ key b) a else l.filter p := by
  induction l with
  | nil => simp [List.filter_cons]
  | cons b l ih =>
    obtain ⟨first, others⟩ := List.pairwise_cons.mp sorted
    rw [List.orderedInsert_cons]
    split
    · rename_i before
      rw [List.filter_cons]
      split
      · -- whatever is kept of the rest comes after `b`, and so after `a`
        have later : ∀ c ∈ (b :: l).filter p, key a ≤ key c := by
          intro c kept
          rcases List.mem_cons.mp (List.mem_of_mem_filter kept) with rfl | rest
          · exact before
          · exact before.trans (first c rest)
        cases kept : (b :: l).filter p with
        | nil => rfl
        | cons c rest =>
          rw [List.orderedInsert_cons, if_pos (later c (kept ▸ List.mem_cons_self))]
      · rfl
    · rename_i after
      rw [List.filter_cons, ih others, List.filter_cons]
      by_cases keepsB : p b = true
      · by_cases keepsA : p a = true
        · simp only [keepsB, keepsA, if_true, List.orderedInsert_cons, if_neg after]
        · simp only [keepsB, keepsA, if_true, Bool.false_eq_true, if_false]
      · simp only [keepsB, Bool.false_eq_true, if_false]

/-- A part of a list is in the order that it has in the whole. -/
theorem filter_ordered (p : α → Bool) (l : List α) :
    (ordered key l).filter p = ordered key (l.filter p) := by
  induction l with
  | nil => rfl
  | cons a l ih =>
    have step : ordered key (a :: l) =
        (ordered key l).orderedInsert (fun a b => key a ≤ key b) a := rfl
    rw [step, filter_orderedInsert key p a (ordered_sorted key l), ih, List.filter_cons]
    split
    · rfl
    · rfl

/-! ### The latest -/

@[simp] theorem length_latest (n : Nat) (l : List α) : (latest key n l).length = min n l.length := by
  unfold latest
  rw [List.length_drop, length_ordered]
  omega

theorem latest_sublist (n : Nat) (l : List α) : (latest key n l).Sublist (ordered key l) :=
  List.drop_sublist _ _

theorem latest_sorted (n : Nat) (l : List α) :
    (latest key n l).Pairwise fun a b => key a ≤ key b :=
  (ordered_sorted key l).sublist (latest_sublist key n l)

/-- Nothing that is left out is later than what is shown. -/
theorem latest_split (n : Nat) (l : List α) :
    ∃ earlier, (earlier ++ latest key n l).Perm l ∧
      ∀ a ∈ earlier, ∀ b ∈ latest key n l, key a ≤ key b := by
  refine ⟨(ordered key l).take (l.length - n), ?_, ?_⟩
  · unfold latest
    rw [List.take_append_drop]
    exact ordered_perm key l
  · have sorted := ordered_sorted key l
    rw [← List.take_append_drop (l.length - n) (ordered key l), List.pairwise_append] at sorted
    exact sorted.2.2

end CyberLegends.Lib
