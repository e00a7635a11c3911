import Mathlib.Data.List.Induction
import Mathlib.Data.List.Nodup

/-! Elements that a loop puts into buckets by a key; the buckets stand in the order in which their keys
came first. -/

namespace CyberLegends.Lib.Buckets

variable {α κ : Type*} [DecidableEq κ]

/-- The element behind those with its key. -/
def add (buckets : List (κ × List α)) (k : κ) (a : α) : List (κ × List α) :=
  if k ∈ buckets.map Prod.fst then
    buckets.map fun bucket => if bucket.1 = k then (bucket.1, bucket.2 ++ [a]) else bucket
  else buckets ++ [(k, [a])]

/-- The loop; elements without a key are left out. -/
def collect (key : α → Option κ) (l : List α) : List (κ × List α) :=
  l.foldl (fun buckets a => (key a).elim buckets fun k => add buckets k a) []

variable {key : α → Option κ} {l as : List α} {a : α} {k k' : κ} {buckets : List (κ × List α)}

theorem add_keys : (add buckets k a).map Prod.fst
    = if k ∈ buckets.map Prod.fst then buckets.map Prod.fst else buckets.map Prod.fst ++ [k] := by
  unfold add
  split
  · rw [List.map_map]
    refine List.map_congr_left fun bucket _ => ?_
    by_cases same : bucket.1 = k <;> simp [same]
  · rw [List.map_append, List.map_singleton]

theorem mem_add : (k', as) ∈ add buckets k a
    ↔ k' ≠ k ∧ (k', as) ∈ buckets ∨
      k' = k ∧ ((∃ before, (k, before) ∈ buckets ∧ before ++ [a] = as) ∨
        k ∉ buckets.map Prod.fst ∧ as = [a]) := by
  unfold add
  split
  · rename_i there
    simp only [List.mem_map, Prod.exists, there, not_true_eq_false, false_and, or_false]
    constructor
    · rintro ⟨k₁, before, member, same⟩
      split at same
      · rename_i found
        obtain ⟨rfl, rfl⟩ := Prod.mk.inj same
        exact .inr ⟨found, before, found ▸ member, rfl⟩
      · rename_i other
        obtain ⟨rfl, rfl⟩ := Prod.mk.inj same
        exact .inl ⟨other, member⟩
    · rintro (⟨other, member⟩ | ⟨rfl, before, member, rfl⟩)
      · exact ⟨k', as, member, if_neg other⟩
      · exact ⟨k', before, member, if_pos rfl⟩
  · rename_i absent
    rw [List.mem_append, List.mem_singleton, Prod.mk.injEq]
    constructor
    · rintro (member | ⟨rfl, rfl⟩)
      · refine .inl ⟨?_, member⟩
        rintro rfl
        exact absent (List.mem_map_of_mem member)
      · exact .inr ⟨rfl, .inr ⟨absent, rfl⟩⟩
    · rintro (⟨-, member⟩ | ⟨rfl, ⟨before, member, -⟩ | ⟨-, rfl⟩⟩)
      · exact .inl member
      · exact absurd (List.mem_map_of_mem member) absent
      · exact .inr ⟨rfl, rfl⟩

theorem collect_concat : collect key (l ++ [a])
    = (key a).elim (collect key l) fun k => add (collect key l) k a := by
  rw [collect, List.foldl_append]
  rfl

/-- The bucket of a key has the elements with this key, in their order. -/
theorem mem_collect : (k, as) ∈ collect key l ↔ as = l.filter (key · = some k) ∧ as ≠ [] := by
  induction l using List.reverseRecOn generalizing k as with
  | nil => simp [collect]
  | append_singleton l a ih =>
    have keys : ∀ k, k ∈ (collect key l).map Prod.fst ↔ l.filter (key · = some k) ≠ [] := by
      intro k
      rw [List.mem_map]
      constructor
      · rintro ⟨⟨k', as⟩, member, rfl⟩
        obtain ⟨rfl, nonempty⟩ := ih.mp member
        exact nonempty
      · exact fun nonempty => ⟨(k, _), ih.mpr ⟨rfl, nonempty⟩, rfl⟩
    rw [collect_concat, List.filter_append]
    cases found : key a with
    | none => simpa [found] using ih
    | some k₁ =>
      rw [Option.elim_some, mem_add, ih]
      by_cases same : k = k₁
      · subst same
        have one : [a].filter (key · = some k) = [a] := List.filter_cons_of_pos (by simpa using found)
        rw [one]
        simp only [ne_eq, not_true_eq_false, false_and, false_or, true_and, keys, ih, not_not]
        constructor
        · rintro (⟨before, ⟨rfl, -⟩, rfl⟩ | ⟨empty, rfl⟩)
          · exact ⟨rfl, by simp⟩
          · exact ⟨by rw [empty, List.nil_append], by simp⟩
        · rintro ⟨rfl, -⟩
          by_cases empty : l.filter (key · = some k) = []
          · exact .inr ⟨empty, by rw [empty, List.nil_append]⟩
          · exact .inl ⟨_, ⟨rfl, empty⟩, rfl⟩
      · have other : ¬ some k₁ = some k := fun h => same (Option.some.inj h).symm
        simp [same, other, found]

theorem collect_nodup : ((collect key l).map Prod.fst).Nodup := by
  induction l using List.reverseRecOn with
  | nil => exact List.nodup_nil
  | append_singleton l a ih =>
    rw [collect_concat]
    cases key a with
    | none => exact ih
    | some k =>
      rw [Option.elim_some, add_keys]
      split
      · exact ih
      · rename_i absent
        exact List.nodup_append.mpr ⟨ih, List.nodup_singleton k, fun k₁ member k₂ single same =>
          absent (List.mem_singleton.mp single ▸ same ▸ member)⟩

end CyberLegends.Lib.Buckets
