import Mathlib.Data.List.AList
import Mathlib.Data.List.Perm.Subperm
import Mathlib.Data.List.Sort

/-! Tables of rows under a key: a bounded ordered selection of keys, an update of each selected row
that stops at the first refusal, and properties that hold of all rows. -/

namespace CyberLegends.Lib

/-! ### Computations that may be refused -/

section

universe u

variable {ε : Type*} {α β : Type u}

theorem bind_eq_ok {x : Except ε α} {f : α → Except ε β} {b : β} :
    x >>= f = .ok b ↔ ∃ a, x = .ok a ∧ f a = .ok b := by
  cases x with
  | error e => simp [bind, Except.bind]
  | ok a => simp [bind, Except.bind]

theorem ok_bind (a : α) (f : α → Except ε β) : (Except.ok a >>= f) = f a := rfl

theorem pure_eq_ok {a b : α} : (pure a : Except ε α) = .ok b ↔ a = b := by
  simp [pure, Except.pure]

theorem bind_eq_error {x : Except ε α} {f : α → Except ε β} {e : ε} :
    x >>= f = .error e ↔ x = .error e ∨ ∃ a, x = .ok a ∧ f a = .error e := by
  cases x with
  | error e => simp [bind, Except.bind]
  | ok a => simp [bind, Except.bind]

theorem map_eq_ok {x : Except ε α} {f : α → β} {b : β} :
    x.map f = .ok b ↔ ∃ a, x = .ok a ∧ f a = b := by
  cases x with
  | error e => simp [Except.map]
  | ok a => simp [Except.map]

theorem map_eq_error {x : Except ε α} {f : α → β} {e : ε} :
    x.map f = .error e ↔ x = .error e := by
  cases x with
  | error e => simp [Except.map]
  | ok a => simp [Except.map]

/-- Every element is answered, in order. -/
theorem mapM_eq_ok {f : α → Except ε β} {as : List α} {bs : List β} :
    as.mapM f = .ok bs ↔ List.Forall₂ (fun a b => f a = .ok b) as bs := by
  induction as generalizing bs with
  | nil =>
    rw [List.mapM_nil, pure_eq_ok, List.forall₂_nil_left_iff]
    exact eq_comm
  | cons a as ih =>
    rw [List.mapM_cons, bind_eq_ok, List.forall₂_cons_left_iff]
    constructor
    · rintro ⟨b, answered, rest⟩
      obtain ⟨bs', answered', together⟩ := bind_eq_ok.mp rest
      exact ⟨b, bs', answered, ih.mp answered', (pure_eq_ok.mp together).symm⟩
    · rintro ⟨b, bs', answered, rest, rfl⟩
      exact ⟨b, answered, bind_eq_ok.mpr ⟨bs', ih.mpr rest, rfl⟩⟩

theorem mem_mapM_some {f : α → Option β} {as : List α} {bs : List β} (h : as.mapM f = some bs)
    {b : β} (hb : b ∈ bs) : ∃ a ∈ as, f a = some b := by
  induction as generalizing bs with
  | nil =>
    rw [List.mapM_nil] at h
    cases h
    cases hb
  | cons a as ih =>
    rw [List.mapM_cons] at h
    simp only [Option.bind_eq_bind, Option.bind_eq_some_iff] at h
    obtain ⟨b₀, first, bs', rest, result⟩ := h
    cases result
    rcases List.mem_cons.mp hb with rfl | hb
    · exact ⟨a, List.mem_cons_self, first⟩
    · obtain ⟨a', member, found⟩ := ih rest hb
      exact ⟨a', List.mem_cons_of_mem _ member, found⟩

end

/-! ### Rows -/

/-- The rows of a table, each under its own key. -/
abbrev Table (κ ρ : Type*) := AList fun _ : κ => ρ

namespace Table

variable {κ ρ ε : Type*} [DecidableEq κ]

/-- Every row of the table has the property. -/
def All (P : κ → ρ → Prop) (t : Table κ ρ) : Prop := ∀ k r, t.lookup k = some r → P k r

theorem All.empty {P : κ → ρ → Prop} : All P (∅ : Table κ ρ) := by
  intro k r h
  simp at h

theorem All.insert {P : κ → ρ → Prop} {t : Table κ ρ} {k : κ} {r : ρ} (h : All P t)
    (hr : P k r) : All P (t.insert k r) := by
  intro k' r' hk
  by_cases same : k' = k
  · subst same
    rw [AList.lookup_insert] at hk
    cases hk
    exact hr
  · rw [AList.lookup_insert_ne same] at hk
    exact h k' r' hk

theorem lookup_insert_cases {t : Table κ ρ} {k k' : κ} {r r' : ρ}
    (h : (t.insert k r).lookup k' = some r') :
    k' = k ∧ r' = r ∨ k' ≠ k ∧ t.lookup k' = some r' := by
  by_cases same : k' = k
  · subst same
    rw [AList.lookup_insert] at h
    exact .inl ⟨rfl, (Option.some.inj h).symm⟩
  · rw [AList.lookup_insert_ne same] at h
    exact .inr ⟨same, h⟩

theorem lookup_erase_some {t : Table κ ρ} {k k' : κ} {r : ρ}
    (h : (t.erase k).lookup k' = some r) : k' ≠ k ∧ t.lookup k' = some r := by
  by_cases same : k' = k
  · subst same
    rw [AList.lookup_erase] at h
    cases h
  · rw [AList.lookup_erase_ne same] at h
    exact ⟨same, h⟩

/-- The rows that satisfy `p`. -/
def keep (p : κ → ρ → Bool) (t : Table κ ρ) : Table κ ρ :=
  ⟨t.entries.filter fun e => p e.1 e.2, t.nodupKeys.sublist List.filter_sublist⟩

theorem lookup_keep {p : κ → ρ → Bool} {t : Table κ ρ} {k : κ} {r : ρ} :
    (t.keep p).lookup k = some r ↔ t.lookup k = some r ∧ p k r = true := by
  have entry : (⟨k, r⟩ : Sigma fun _ => ρ) ∈ (t.keep p).entries ↔
      (⟨k, r⟩ : Sigma fun _ => ρ) ∈ t.entries ∧ p k r = true := List.mem_filter
  rw [← Option.mem_def, ← Option.mem_def, AList.mem_lookup_iff, AList.mem_lookup_iff, entry]

/-- An entry that is found is a row with the property. -/
theorem find_row {p : (Sigma fun _ : κ => ρ) → Bool} {t : Table κ ρ} {e : Sigma fun _ : κ => ρ}
    (found : t.entries.find? p = some e) : t.lookup e.1 = some e.2 ∧ p e = true :=
  ⟨AList.mem_lookup_iff.mpr (List.mem_of_find?_eq_some found), List.find?_some found⟩

/-! ### Selection -/

/-- The keys of the first `limit` rows that satisfy `p`, in the order `le`. -/
def select (p : κ → ρ → Bool) (le : κ × ρ → κ × ρ → Bool) (limit : Nat) (t : Table κ ρ) :
    List κ :=
  (((t.entries.filter fun e => p e.1 e.2).insertionSort
    fun a b => le (a.1, a.2) (b.1, b.2) = true).take limit).map Sigma.fst

omit [DecidableEq κ] in
theorem select_nodup (p : κ → ρ → Bool) (le : κ × ρ → κ × ρ → Bool) (limit : Nat)
    (t : Table κ ρ) : (t.select p le limit).Nodup := by
  have keys : ((t.entries.filter fun e => p e.1 e.2).map Sigma.fst).Nodup :=
    t.keys_nodup.sublist (List.filter_sublist.map Sigma.fst)
  have sorted := (List.perm_insertionSort
    (fun a b : Sigma fun _ : κ => ρ => le (a.1, a.2) (b.1, b.2) = true)
    (t.entries.filter fun e => p e.1 e.2)).map Sigma.fst
  exact (sorted.nodup_iff.mpr keys).sublist ((List.take_sublist ..).map Sigma.fst)

/-- A selected key has a row that satisfies the condition. -/
theorem mem_select {p : κ → ρ → Bool} {le : κ × ρ → κ × ρ → Bool} {limit : Nat}
    {t : Table κ ρ} {k : κ} (h : k ∈ t.select p le limit) :
    ∃ r, t.lookup k = some r ∧ p k r = true := by
  obtain ⟨⟨k', r⟩, taken, rfl⟩ := List.mem_map.mp h
  have kept := (List.mem_insertionSort _).mp (List.mem_of_mem_take taken)
  obtain ⟨entry, holds⟩ := List.mem_filter.mp kept
  exact ⟨r, AList.mem_lookup_iff.mpr entry, holds⟩

/-- The rows of a page: the first `limit` of those that satisfy `p`, in the order `le`, after the first
`offset` of them. -/
def page (p : κ → ρ → Bool) (le : κ × ρ → κ × ρ → Bool) (limit offset : Nat) (t : Table κ ρ) :
    List (κ × ρ) :=
  ((((t.entries.filter fun e => p e.1 e.2).map fun e => (e.1, e.2)).insertionSort
    fun a b => le a b = true).drop offset).take limit

/-- A row of a page is a row of the table that satisfies the condition. -/
theorem mem_page {p : κ → ρ → Bool} {le : κ × ρ → κ × ρ → Bool} {limit offset : Nat}
    {t : Table κ ρ} {row : κ × ρ} (h : row ∈ t.page p le limit offset) :
    t.lookup row.1 = some row.2 ∧ p row.1 row.2 = true := by
  have sorted := List.mem_of_mem_drop (List.mem_of_mem_take h)
  obtain ⟨entry, kept, rfl⟩ := List.mem_map.mp ((List.mem_insertionSort _).mp sorted)
  obtain ⟨there, holds⟩ := List.mem_filter.mp kept
  exact ⟨AList.mem_lookup_iff.mpr there, holds⟩

/-- A first page holds every row that satisfies the condition exactly when there are no more of them
than its limit. -/
theorem page_all_iff {p : κ → ρ → Bool} (le : κ × ρ → κ × ρ → Bool) {limit : Nat}
    {t : Table κ ρ} :
    (∀ k r, t.lookup k = some r → p k r = true → (k, r) ∈ t.page p le limit 0) ↔
      (t.entries.filter fun e => p e.1 e.2).length ≤ limit := by
  let rows := (t.entries.filter fun e => p e.1 e.2).map fun e => (e.1, e.2)
  have sorted : (rows.insertionSort fun a b => le a b = true).Perm rows :=
    List.perm_insertionSort ..
  have paged : t.page p le limit 0 = (rows.insertionSort fun a b => le a b = true).take limit := rfl
  have length : (t.entries.filter fun e => p e.1 e.2).length = rows.length := by simp [rows]
  have listed : ∀ row, row ∈ rows ↔ t.lookup row.1 = some row.2 ∧ p row.1 row.2 = true := by
    rintro ⟨k, r⟩
    constructor
    · intro member
      obtain ⟨entry, kept, same⟩ := List.mem_map.mp member
      cases same
      obtain ⟨there, holds⟩ := List.mem_filter.mp kept
      exact ⟨AList.mem_lookup_iff.mpr there, holds⟩
    · rintro ⟨row, holds⟩
      exact List.mem_map.mpr
        ⟨⟨k, r⟩, List.mem_filter.mpr ⟨AList.mem_lookup_iff.mp row, holds⟩, rfl⟩
  rw [paged, length]
  constructor
  · intro all
    have nodup : rows.Nodup := by
      have entries : (t.entries.filter fun e => p e.1 e.2).Nodup := t.nodupKeys.nodup.filter _
      refine entries.map fun e e' same => ?_
      cases e
      cases e'
      cases same
      rfl
    have inside : rows ⊆ (rows.insertionSort fun a b => le a b = true).take limit :=
      fun row member => all row.1 row.2 ((listed row).mp member).1 ((listed row).mp member).2
    have shorter := (List.Nodup.subperm nodup inside).length_le
    rw [List.length_take] at shorter
    omega
  · intro room k r row holds
    rw [List.take_of_length_le (by rw [sorted.length_eq]; exact room)]
    exact sorted.mem_iff.mpr ((listed (k, r)).mpr ⟨row, holds⟩)

/-- A row that satisfies the condition is selected when the limit leaves room for every such
row. -/
theorem select_all {p : κ → ρ → Bool} {le : κ × ρ → κ × ρ → Bool} {limit : Nat}
    {t : Table κ ρ} {k : κ} {r : ρ} (row : t.lookup k = some r) (holds : p k r = true)
    (room : t.entries.length ≤ limit) : k ∈ t.select p le limit := by
  have entry : ⟨k, r⟩ ∈ t.entries.filter fun e => p e.1 e.2 :=
    List.mem_filter.mpr ⟨AList.mem_lookup_iff.mp row, holds⟩
  have fits : ((t.entries.filter fun e => p e.1 e.2).insertionSort
      fun a b => le (a.1, a.2) (b.1, b.2) = true).length ≤ limit := by
    rw [List.length_insertionSort]
    exact (List.length_filter_le ..).trans room
  refine List.mem_map.mpr ⟨⟨k, r⟩, ?_, rfl⟩
  rw [List.take_of_length_le fits]
  exact (List.mem_insertionSort _).mpr entry

/-- The only row that satisfies the condition is what is selected. -/
theorem select_only {p : κ → ρ → Bool} {le : κ × ρ → κ × ρ → Bool} {limit : Nat} {t : Table κ ρ}
    {k : κ} {r : ρ} (row : t.lookup k = some r) (holds : p k r = true)
    (only : ∀ k' r', t.lookup k' = some r' → p k' r' = true → k' = k) (room : 0 < limit) :
    t.select p le limit = [k] := by
  have entries : (t.entries.filter fun e => p e.1 e.2) = [⟨k, r⟩] := by
    have nodup : (t.entries.filter fun e => p e.1 e.2).Nodup := t.nodupKeys.nodup.filter _
    refine List.perm_singleton.mp
      ((List.perm_ext_iff_of_nodup nodup (List.nodup_singleton _)).mpr ?_)
    rintro ⟨k', r'⟩
    constructor
    · intro listed
      obtain ⟨entry, holds'⟩ := List.mem_filter.mp listed
      have row' := AList.mem_lookup_iff.mpr entry
      obtain rfl := only k' r' row' holds'
      rw [row] at row'
      cases row'
      exact List.mem_singleton_self _
    · intro listed
      rw [List.mem_singleton.mp listed]
      exact List.mem_filter.mpr ⟨AList.mem_lookup_iff.mp row, holds⟩
  obtain ⟨n, rfl⟩ := Nat.exists_eq_add_of_lt room
  unfold select
  rw [entries]
  simp

/-! ### Updates of selected rows -/

/-- Rewrites the row of each key in turn; the first refusal undoes all of it. -/
def updateEach (f : κ → ρ → Except ε ρ) : List κ → Table κ ρ → Except ε (Table κ ρ)
  | [], t => .ok t
  | k :: ks, t =>
    match t.lookup k with
    | none => updateEach f ks t
    | some r =>
      match f k r with
      | .error e => .error e
      | .ok r' => updateEach f ks (t.insert k r')

variable {f : κ → ρ → Except ε ρ} {k : κ} {ks : List κ} {t t' : Table κ ρ}

theorem updateEach_cons (h : updateEach f (k :: ks) t = .ok t') :
    t.lookup k = none ∧ updateEach f ks t = .ok t' ∨
      ∃ r r', t.lookup k = some r ∧ f k r = .ok r' ∧ updateEach f ks (t.insert k r') = .ok t' := by
  rw [updateEach] at h
  cases row : t.lookup k with
  | none => simp only [row] at h; exact .inl ⟨rfl, h⟩
  | some r =>
    simp only [row] at h
    cases result : f k r with
    | error e => simp [result] at h
    | ok r' => simp only [result] at h; exact .inr ⟨r, r', rfl, result, h⟩

theorem updateEach_one {r r' : ρ} (row : t.lookup k = some r) (result : f k r = .ok r') :
    updateEach f [k] t = .ok (t.insert k r') := by
  simp only [updateEach, row, result]

/-- A row outside the updated keys is as it was. -/
theorem updateEach_other (h : updateEach f ks t = .ok t') (hk : k ∉ ks) :
    t'.lookup k = t.lookup k := by
  induction ks generalizing t with
  | nil => cases h; rfl
  | cons k₀ ks ih =>
    obtain ⟨ne, rest⟩ := not_or.mp (mt List.mem_cons.mpr hk)
    obtain ⟨-, h⟩ | ⟨r, r', -, -, h⟩ := updateEach_cons h
    · exact ih h rest
    · rw [ih h rest, AList.lookup_insert_ne ne]

/-- What an update does under one key: nothing, or it writes the update of the row it finds. -/
theorem updateEach_lookup (nodup : ks.Nodup) (h : updateEach f ks t = .ok t') (k : κ) :
    t'.lookup k = t.lookup k ∧ (k ∈ ks → t.lookup k = none) ∨
      k ∈ ks ∧ ∃ r r', t.lookup k = some r ∧ f k r = .ok r' ∧ t'.lookup k = some r' := by
  induction ks generalizing t with
  | nil => cases h; exact .inl ⟨rfl, by simp⟩
  | cons k₀ ks ih =>
    obtain ⟨fresh, nodup⟩ := List.nodup_cons.mp nodup
    by_cases same : k = k₀
    · subst same
      obtain ⟨absent, h⟩ | ⟨r, r', row, result, h⟩ := updateEach_cons h
      · exact .inl ⟨updateEach_other h fresh, fun _ => absent⟩
      · refine .inr ⟨List.mem_cons_self, r, r', row, result, ?_⟩
        rw [updateEach_other h fresh, AList.lookup_insert]
    · have tail : k ∈ k₀ :: ks ↔ k ∈ ks := by simp [same]
      rw [tail]
      obtain ⟨-, h⟩ | ⟨r, r', -, -, h⟩ := updateEach_cons h
      · exact ih nodup h
      · have := ih nodup h
        rwa [AList.lookup_insert_ne same] at this

/-- The row of an updated key is the update of the row it had. -/
theorem updateEach_mem (nodup : ks.Nodup) (h : updateEach f ks t = .ok t') (hk : k ∈ ks)
    {r : ρ} (row : t.lookup k = some r) : ∃ r', f k r = .ok r' ∧ t'.lookup k = some r' := by
  obtain ⟨-, absent⟩ | ⟨-, r₀, r', row₀, result, row'⟩ := updateEach_lookup nodup h k
  · rw [absent hk] at row; cases row
  · rw [row₀] at row; cases row
    exact ⟨r', result, row'⟩

/-- A refusal of the whole update is a refusal of the update of one listed row. -/
theorem updateEach_error {e : ε} (nodup : ks.Nodup) (h : updateEach f ks t = .error e) :
    ∃ k ∈ ks, ∃ r, t.lookup k = some r ∧ f k r = .error e := by
  induction ks generalizing t with
  | nil => cases h
  | cons k ks ih =>
    obtain ⟨fresh, nodup⟩ := List.nodup_cons.mp nodup
    rw [updateEach] at h
    cases row : t.lookup k with
    | none =>
      simp only [row] at h
      obtain ⟨k', hk, r, row', refused⟩ := ih nodup h
      exact ⟨k', List.mem_cons_of_mem _ hk, r, row', refused⟩
    | some r =>
      simp only [row] at h
      cases result : f k r with
      | error e' =>
        simp only [result] at h
        cases h
        exact ⟨k, List.mem_cons_self, r, row, result⟩
      | ok r' =>
        simp only [result] at h
        obtain ⟨k', hk, r₁, row₁, refused⟩ := ih nodup h
        refine ⟨k', List.mem_cons_of_mem _ hk, r₁, ?_, refused⟩
        rwa [AList.lookup_insert_ne (ne_of_mem_of_not_mem hk fresh)] at row₁

/-- Rewrites the row of each key in turn. -/
def rewriteEach (g : ρ → ρ) : List κ → Table κ ρ → Table κ ρ
  | [], t => t
  | k :: ks, t =>
    rewriteEach g ks <|
      match t.lookup k with
      | none => t
      | some r => t.insert k (g r)

/-- A rewritten table holds the rewritten row under each listed key, and any other row as it
was. -/
theorem rewriteEach_lookup {g : ρ → ρ} (nodup : ks.Nodup) (k : κ) :
    (rewriteEach g ks t).lookup k = if k ∈ ks then (t.lookup k).map g else t.lookup k := by
  induction ks generalizing t with
  | nil => rfl
  | cons k₀ ks ih =>
    obtain ⟨fresh, nodup⟩ := List.nodup_cons.mp nodup
    rw [rewriteEach, ih nodup]
    by_cases same : k = k₀
    · subst same
      rw [if_neg fresh, if_pos List.mem_cons_self]
      cases row : t.lookup k with
      | none => exact row
      | some r => exact AList.lookup_insert t
    · have before : (match t.lookup k₀ with
          | none => t
          | some r => t.insert k₀ (g r)).lookup k = t.lookup k := by
        cases t.lookup k₀ with
        | none => rfl
        | some r => exact AList.lookup_insert_ne same
      rw [before]
      have listed : k ∈ k₀ :: ks ↔ k ∈ ks := by simp [same]
      simp only [listed]

end Table

end CyberLegends.Lib
