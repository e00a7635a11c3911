import Mathlib.Data.List.DropRight
import Mathlib.Data.List.TakeWhile

/-! A list without the elements of a kind at its two ends. -/

namespace CyberLegends.Lib

variable {α : Type*} {p : α → Bool} {l : List α}

def strip (p : α → Bool) (l : List α) : List α := (l.dropWhile p).rdropWhile p

/-- What a strip takes away at the two ends. -/
theorem strip_split (p : α → Bool) (l : List α) :
    ∃ front back, l = front ++ (strip p l ++ back) ∧ (∀ a ∈ front, p a = true) ∧
      (∀ a ∈ back, p a = true) ∧ l.dropWhile p = strip p l ++ back := by
  refine ⟨l.takeWhile p, (l.dropWhile p).rtakeWhile p, ?_, fun a => List.mem_takeWhile_imp,
    fun a => List.mem_rtakeWhile_imp, ?_⟩
  · unfold strip
    rw [List.rdropWhile_append_rtakeWhile, List.takeWhile_append_dropWhile]
  · exact List.rdropWhile_append_rtakeWhile.symm

/-- Elements of the kind before a list do not change what is left of it. -/
theorem strip_append_front {front : List α} (all : ∀ a ∈ front, p a = true) :
    strip p (front ++ l) = strip p l := by
  unfold strip
  rw [List.dropWhile_append_of_pos all]

theorem rdropWhile_append_back {back : List α} (all : ∀ a ∈ back, p a = true) :
    (l ++ back).rdropWhile p = l.rdropWhile p := by
  unfold List.rdropWhile
  rw [List.reverse_append, List.dropWhile_append_of_pos]
  intro a member
  exact all a (List.mem_reverse.mp member)

theorem strip_append_back {back : List α} (all : ∀ a ∈ back, p a = true) :
    strip p (l ++ back) = strip p l := by
  unfold strip
  by_cases rest : l.dropWhile p = []
  · have every : ∀ a ∈ l ++ back, p a = true := fun a member =>
      (List.mem_append.mp member).elim (List.dropWhile_eq_nil_iff.mp rest a) (all a)
    rw [List.dropWhile_eq_nil_iff.mpr every, rest]
  · have kept : (l ++ back).dropWhile p = l.dropWhile p ++ back := by
      rw [List.dropWhile_append, if_neg]
      rwa [List.isEmpty_iff]
    rw [kept, rdropWhile_append_back all]

theorem strip_length_le (p : α → Bool) (l : List α) : (strip p l).length ≤ l.length := by
  obtain ⟨front, back, split, -⟩ := strip_split p l
  have total := congrArg List.length split
  rw [List.length_append, List.length_append] at total
  omega

theorem strip_strip (p : α → Bool) (l : List α) : strip p (strip p l) = strip p l := by
  obtain ⟨front, back, split, fronts, backs, -⟩ := strip_split p l
  calc strip p (strip p l) = strip p (strip p l ++ back) := (strip_append_back backs).symm
    _ = strip p (front ++ (strip p l ++ back)) := (strip_append_front fronts).symm
    _ = strip p l := by rw [← split]

/-- A strip leaves a list without elements of the kind alone. -/
theorem strip_eq_self (other : ∀ a ∈ l, p a = false) : strip p l = l := by
  obtain ⟨front, back, split, fronts, backs, -⟩ := strip_split p l
  have no_front : front = [] := List.eq_nil_iff_forall_not_mem.mpr fun a there => by
    have kind := fronts a there
    rw [other a (split ▸ List.mem_append_left _ there)] at kind
    cases kind
  have no_back : back = [] := List.eq_nil_iff_forall_not_mem.mpr fun a there => by
    have kind := backs a there
    rw [other a (split ▸ List.mem_append_right _ (List.mem_append_right _ there))] at kind
    cases kind
  rw [no_front, no_back, List.nil_append, List.append_nil] at split
  exact split.symm

/-- A list that a strip leaves alone does not begin with an element of the kind. -/
theorem head_of_stripped {a : α} (stripped : strip p (a :: l) = a :: l) : p a = false := by
  by_contra kind
  rw [Bool.not_eq_false] at kind
  have shorter := strip_length_le p l
  have same : strip p ([a] ++ l) = strip p l :=
    strip_append_front fun b member => List.mem_singleton.mp member ▸ kind
  rw [← same, List.singleton_append, stripped] at shorter
  exact absurd shorter (Nat.not_succ_le_self _)

/-- Something is left of a list that begins with no element of the kind. -/
theorem strip_ne_nil {a : α} (other : p a = false) : strip p (a :: l) ≠ [] := by
  unfold strip
  rw [List.dropWhile_cons_of_neg (Bool.eq_false_iff.mp other)]
  intro nothing
  have all := List.rdropWhile_eq_nil_iff.mp nothing a List.mem_cons_self
  rw [other] at all
  cases all

/-- A list whose last element is not of the kind and that begins one which ends in the kind does so
before. -/
theorem prefix_before {word back : List α} (begins : word <+: l ++ back)
    (back_kind : ∀ a ∈ back, p a = true) (last : ∀ a ∈ word.getLast?, p a = false) :
    word <+: l := by
  by_cases short : word.length ≤ l.length
  · exact List.prefix_of_prefix_length_le begins (List.prefix_append l back) short
  · obtain ⟨rest, rfl⟩ := List.prefix_of_prefix_length_le (List.prefix_append l back) begins
      (Nat.le_of_not_le short)
    have begins := (List.prefix_append_right_inj l).mp begins
    cases rest using List.reverseRecOn with
    | nil => rw [List.append_nil] at short; exact absurd (Nat.le_refl _) short
    | append_singleton rest a =>
      have kind := back_kind a (begins.subset (List.mem_append_right _ (List.mem_singleton.mpr rfl)))
      have other := last a (by rw [← List.append_assoc]; exact List.getLast?_concat)
      rw [kind] at other
      cases other

end CyberLegends.Lib
