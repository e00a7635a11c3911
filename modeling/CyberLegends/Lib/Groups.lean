import Mathlib.Algebra.BigOperators.Group.List.Basic
import Mathlib.Algebra.GroupWithZero.Nat
import Mathlib.Algebra.Order.BigOperators.Group.List
import Mathlib.Data.List.Nodup

/-! The groups of a list by a key. -/

namespace CyberLegends.Lib

variable {α κ β : Type*} [DecidableEq κ] {keys : List κ} {l : List α}

/-- One of the keys is the given one. -/
theorem sum_of_key [AddCommMonoid β] {k : κ} (nodup : keys.Nodup) (member : k ∈ keys) (b : β) :
    (keys.map fun k' => if k = k' then b else 0).sum = b := by
  induction keys with
  | nil => cases member
  | cons k' keys ih =>
    rw [List.map_cons, List.sum_cons]
    obtain ⟨new, rest⟩ := List.nodup_cons.mp nodup
    by_cases same : k = k'
    · subst same
      have others : keys.map (fun k' => if k = k' then b else 0) = keys.map fun _ => 0 :=
        List.map_congr_left fun k' there => if_neg fun (same : k = k') => new (same ▸ there)
      rw [if_pos rfl, others]
      simp
    · rw [if_neg same, zero_add]
      exact ih rest ((List.mem_cons.mp member).resolve_left same)

/-- What the elements add up to is what their groups add up to. -/
theorem sum_groups [AddCommMonoid β] (key : α → κ) (f : α → β) (nodup : keys.Nodup)
    (all : ∀ a ∈ l, key a ∈ keys) :
    (keys.map fun k => ((l.filter (key · = k)).map f).sum).sum = (l.map f).sum := by
  induction l with
  | nil => simp
  | cons a l ih =>
    have group : (fun k => (((a :: l).filter (key · = k)).map f).sum)
        = fun k => (if key a = k then f a else 0) + ((l.filter (key · = k)).map f).sum := by
      funext k
      by_cases same : key a = k
      · simp [same]
      · simp [same]
    rw [group, List.sum_map_add, sum_of_key nodup (all a List.mem_cons_self),
      ih fun a' member => all a' (List.mem_cons_of_mem _ member), List.map_cons, List.sum_cons]

theorem length_groups (key : α → κ) (nodup : keys.Nodup) (all : ∀ a ∈ l, key a ∈ keys) :
    (keys.map fun k => (l.filter (key · = k)).length).sum = l.length := by
  have counted := sum_groups key (fun _ => 1) nodup all
  simpa using counted

end CyberLegends.Lib
