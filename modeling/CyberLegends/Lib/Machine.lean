import Mathlib.Data.List.Induction

/-! Machines that take events one at a time: the state after a run, invariants of every state that
runs reach, and runs whose events all meet a condition in the state where they act. -/

namespace CyberLegends.Lib

/-- A machine with one initial state. An event that cannot act leaves the state as it is. -/
structure Machine (σ ε : Type*) where
  init : σ
  step : σ → ε → σ

namespace Machine

variable {σ ε : Type*} (M : Machine σ ε)

/-- The state after the events `es`, taken from `s`. -/
def run (s : σ) (es : List ε) : σ := es.foldl M.step s

@[simp] theorem run_nil (s : σ) : M.run s [] = s := rfl

@[simp] theorem run_cons (s : σ) (e : ε) (es : List ε) :
    M.run s (e :: es) = M.run (M.step s e) es := rfl

theorem run_append (s : σ) (es es' : List ε) :
    M.run s (es ++ es') = M.run (M.run s es) es' := by
  simp [run, List.foldl_append]

/-- Some run leads from the initial state to `s`. -/
def Reachable (s : σ) : Prop := ∃ es, M.run M.init es = s

/-- Each of the events `es`, taken from `s`, meets `ok` in the state where it acts. -/
def Meets (ok : σ → ε → Prop) : σ → List ε → Prop
  | _, [] => True
  | s, e :: es => ok s e ∧ Meets ok (M.step s e) es

/-- Each step of the run `es` from `s` relates the state before it to the state after it. -/
def Steps (R : σ → ε → σ → Prop) : σ → List ε → Prop
  | _, [] => True
  | s, e :: es => R s e (M.step s e) ∧ Steps R (M.step s e) es

/-- Every state that the run `es` visits from `s` has the property, `s` included. -/
def Always (P : σ → Prop) : σ → List ε → Prop
  | s, [] => P s
  | s, e :: es => P s ∧ Always P (M.step s e) es

instance decidableMeets {ok : σ → ε → Prop} [∀ s e, Decidable (ok s e)] :
    ∀ (s : σ) (es : List ε), Decidable (M.Meets ok s es)
  | _, [] => inferInstanceAs (Decidable True)
  | s, e :: es =>
    have : Decidable (M.Meets ok (M.step s e) es) := decidableMeets (M.step s e) es
    inferInstanceAs (Decidable (ok s e ∧ M.Meets ok (M.step s e) es))

variable {M}

theorem Meets.append {ok : σ → ε → Prop} {s : σ} {es es' : List ε} :
    M.Meets ok s (es ++ es') ↔ M.Meets ok s es ∧ M.Meets ok (M.run s es) es' := by
  induction es generalizing s with
  | nil => simp [Meets]
  | cons e es ih => simp [Meets, ih, and_assoc]

/-- A property that every event meeting `ok` keeps holds after every run whose events meet `ok`. -/
theorem run_holds {I : σ → Prop} {ok : σ → ε → Prop}
    (keep : ∀ s e, I s → ok s e → I (M.step s e)) {s : σ} {es : List ε} (hs : I s)
    (hok : M.Meets ok s es) : I (M.run s es) := by
  induction es generalizing s with
  | nil => exact hs
  | cons e es ih => exact ih (keep s e hs hok.1) hok.2

/-- A property of the initial state that every event keeps holds in every reachable state. -/
theorem Reachable.holds {I : σ → Prop} (start : I M.init) (keep : ∀ s e, I s → I (M.step s e))
    {s : σ} (h : M.Reachable s) : I s := by
  obtain ⟨es, rfl⟩ := h
  induction es using List.reverseRecOn with
  | nil => exact start
  | append_singleton es e ih => rw [run_append]; exact keep _ e ih

/-- Each step of a run relates its two states when every event that meets `ok` keeps the invariant
`I` and relates the states around it. -/
theorem steps_hold {I : σ → Prop} {R : σ → ε → σ → Prop} {ok : σ → ε → Prop}
    (keep : ∀ s e, I s → ok s e → I (M.step s e))
    (relate : ∀ s e, I s → ok s e → R s e (M.step s e)) {s : σ} {es : List ε} (hs : I s)
    (hok : M.Meets ok s es) : M.Steps R s es := by
  induction es generalizing s with
  | nil => trivial
  | cons e es ih => exact ⟨relate s e hs hok.1, ih (keep s e hs hok.1) hok.2⟩

/-- Each step of a run relates its two states when every event keeps the invariant `I` and relates
the states around it. -/
theorem steps_of_invariant {I : σ → Prop} {R : σ → ε → σ → Prop}
    (keep : ∀ s e, I s → I (M.step s e)) (relate : ∀ s e, I s → R s e (M.step s e)) {s : σ}
    {es : List ε} (hs : I s) : M.Steps R s es := by
  induction es generalizing s with
  | nil => trivial
  | cons e es ih => exact ⟨relate s e hs, ih (keep s e hs)⟩

/-- A property that follows from an invariant holds all along a run whose events keep it. -/
theorem always_hold {I P : σ → Prop} {ok : σ → ε → Prop}
    (keep : ∀ s e, I s → ok s e → I (M.step s e)) (gives : ∀ s, I s → P s) {s : σ} {es : List ε}
    (hs : I s) (hok : M.Meets ok s es) : M.Always P s es := by
  induction es generalizing s with
  | nil => exact gives s hs
  | cons e es ih => exact ⟨gives s hs, ih (keep s e hs hok.1) hok.2⟩

/-- A property that follows from an invariant that every event keeps holds all along a run. -/
theorem always_of_invariant {I P : σ → Prop} (keep : ∀ s e, I s → I (M.step s e))
    (gives : ∀ s, I s → P s) {s : σ} {es : List ε} (hs : I s) : M.Always P s es := by
  induction es generalizing s with
  | nil => exact gives s hs
  | cons e es ih => exact ⟨gives s hs, ih (keep s e hs)⟩

/-- What relates the states around a step tells of the event that it met `ok`. -/
theorem Steps.meets {R : σ → ε → σ → Prop} {ok : σ → ε → Prop}
    (tells : ∀ s e, R s e (M.step s e) → ok s e) {s : σ} {es : List ε} (steps : M.Steps R s es) :
    M.Meets ok s es := by
  induction es generalizing s with
  | nil => trivial
  | cons e es ih => exact ⟨tells s e steps.1, ih steps.2⟩

theorem Steps.append {R : σ → ε → σ → Prop} {s : σ} {es es' : List ε} :
    M.Steps R s (es ++ es') ↔ M.Steps R s es ∧ M.Steps R (M.run s es) es' := by
  induction es generalizing s with
  | nil => simp [Steps]
  | cons e es ih => simp [Steps, ih, and_assoc]

theorem Reachable.init : M.Reachable M.init := ⟨[], rfl⟩

theorem Reachable.step {s : σ} (h : M.Reachable s) (e : ε) : M.Reachable (M.step s e) := by
  obtain ⟨es, rfl⟩ := h
  exact ⟨es ++ [e], by rw [run_append]; rfl⟩

theorem Reachable.run {s : σ} (h : M.Reachable s) (es : List ε) : M.Reachable (M.run s es) := by
  obtain ⟨es', rfl⟩ := h
  exact ⟨es' ++ es, M.run_append ..⟩

theorem Always.first {P : σ → Prop} {s : σ} {es : List ε} (h : M.Always P s es) : P s := by
  cases es with
  | nil => exact h
  | cons e es => exact h.1

/-- A property holds all along a run exactly when it holds after each of the run's prefixes. -/
theorem always_iff_prefix {P : σ → Prop} {s : σ} {es : List ε} :
    M.Always P s es ↔ ∀ es', es' <+: es → P (M.run s es') := by
  induction es generalizing s with
  | nil => simp [Always]
  | cons e es ih =>
    rw [Always, ih]
    constructor
    · rintro ⟨hs, h⟩ es' hp
      cases es' with
      | nil => exact hs
      | cons e' es' =>
        obtain ⟨rfl, tail⟩ := List.cons_prefix_cons.mp hp
        exact h es' tail
    · intro h
      exact ⟨h [] List.nil_prefix, fun es' hp => h (e :: es') (by simpa using hp)⟩

/-- Where `I` is an invariant under which an event meets `ok` exactly when the property survives
it, the property holds all along a run exactly when every event of the run meets `ok`. -/
theorem always_iff_meets {I P : σ → Prop} {ok : σ → ε → Prop}
    (keep : ∀ s e, I s → I (M.step s e))
    (exact : ∀ s e, I s → P s → (P (M.step s e) ↔ ok s e))
    {s : σ} {es : List ε} (hI : I s) (hP : P s) : M.Always P s es ↔ M.Meets ok s es := by
  induction es generalizing s with
  | nil => simp [Always, Meets, hP]
  | cons e es ih =>
    constructor
    · rintro ⟨_, h⟩
      exact ⟨(exact s e hI hP).mp h.first, (ih (keep s e hI) h.first).mp h⟩
    · rintro ⟨hok, h⟩
      have hP' := (exact s e hI hP).mpr hok
      exact ⟨hP, (ih (keep s e hI) hP').mpr h⟩

/-- Any two states of the run `es` from `s` are related, the earlier one first. -/
def Between (M : Machine σ ε) (R : σ → σ → Prop) (s : σ) (es : List ε) : Prop :=
  ∀ before middle after, before ++ middle ++ after = es →
    R (M.run s before) (M.run s (before ++ middle))

/-- A reflexive and transitive relation around each step relates the ends of a run. -/
theorem Steps.relates {R : σ → σ → Prop} (refl : ∀ s, R s s)
    (trans : ∀ s s' s'', R s s' → R s' s'' → R s s'') {s : σ} {es : List ε}
    (steps : M.Steps (fun s _ s' => R s s') s es) : R s (M.run s es) := by
  induction es generalizing s with
  | nil => exact refl s
  | cons e es ih => exact trans _ _ _ steps.1 (ih steps.2)

/-- For a reflexive and transitive relation it is enough to relate the states around each step. -/
theorem between_iff_steps {R : σ → σ → Prop} (refl : ∀ s, R s s)
    (trans : ∀ s s' s'', R s s' → R s' s'' → R s s'') {s : σ} {es : List ε} :
    M.Between R s es ↔ M.Steps (fun s _ s' => R s s') s es := by
  constructor
  · intro between
    induction es generalizing s with
    | nil => trivial
    | cons e es ih =>
      refine ⟨between [] [e] es rfl, ih ?_⟩
      intro before middle after whole
      exact between (e :: before) middle after (by rw [← whole]; rfl)
  · rintro steps before middle after rfl
    rw [run_append]
    have later := (Steps.append.mp (Steps.append.mp steps).1).2
    exact later.relates refl trans

/-- Where a step from a state with the invariant `I` relates its states exactly if its event meets
`ok`, all steps of a run do exactly if all its events meet `ok`. -/
theorem steps_iff_meets_of_invariant {I : σ → Prop} {R : σ → ε → σ → Prop} {ok : σ → ε → Prop}
    (keep : ∀ s e, I s → I (M.step s e)) (exact : ∀ s e, I s → (R s e (M.step s e) ↔ ok s e))
    {s : σ} {es : List ε} (hs : I s) : M.Steps R s es ↔ M.Meets ok s es := by
  induction es generalizing s with
  | nil => exact Iff.rfl
  | cons e es ih => exact and_congr (exact s e hs) (ih (keep s e hs))

/-- When a step relates its states exactly if its event meets `ok`, all steps of a run do exactly
if all its events meet `ok`. -/
theorem steps_iff_meets {R : σ → ε → σ → Prop} {ok : σ → ε → Prop}
    (exact : ∀ s e, R s e (M.step s e) ↔ ok s e) {s : σ} {es : List ε} :
    M.Steps R s es ↔ M.Meets ok s es :=
  steps_iff_meets_of_invariant (I := fun _ => True) (fun _ _ _ => trivial)
    (fun s e _ => exact s e) trivial

/-- A property that holds after a run but not before it has come about by one of its events, and has
lasted since. -/
theorem arises {P : σ → Prop} {s : σ} {es : List ε} (fresh : ¬P s) (holds : P (M.run s es)) :
    ∃ before e after, es = before ++ e :: after ∧ ¬P (M.run s before) ∧
      M.Always P (M.run s (before ++ [e])) after := by
  induction es using List.reverseRecOn with
  | nil => exact absurd holds fresh
  | append_singleton es e ih =>
    by_cases earlier : P (M.run s es)
    · obtain ⟨before, e', after, rfl, absent, lasts⟩ := ih earlier
      refine ⟨before, e', after ++ [e], by simp, absent, always_iff_prefix.mpr ?_⟩
      intro es' inside
      rcases List.prefix_concat_iff.mp inside with rfl | inside
      · simpa [run_append] using holds
      · exact always_iff_prefix.mp lasts es' inside
    · exact ⟨es, e, [], rfl, earlier, holds⟩

/-! ### Amounts that a run adds up -/

/-- What the events of a run gain together. -/
def total (M : Machine σ ε) (gain : σ → ε → Nat) : σ → List ε → Nat
  | _, [] => 0
  | s, e :: es => gain s e + total M gain (M.step s e) es

/-- A measure of the state is what it was plus what the run has gained, after every prefix of the
run, exactly when each step adds what its event gains. -/
theorem counts_iff_steps {f : σ → Nat} {gain : σ → ε → Nat} {s : σ} {es : List ε} :
    (∀ es', es' <+: es → f (M.run s es') = f s + M.total gain s es') ↔
      M.Steps (fun s e s' => f s' = f s + gain s e) s es := by
  induction es generalizing s with
  | nil => simp [Steps, total]
  | cons e es ih =>
    rw [Steps, ← ih]
    constructor
    · intro counts
      have first : f (M.step s e) = f s + gain s e := by
        have counted := counts [e] (by simp)
        simpa [total] using counted
      refine ⟨first, fun es' inside => ?_⟩
      have counted := counts (e :: es') (by simpa using inside)
      rw [run_cons, total] at counted
      omega
    · rintro ⟨first, counts⟩ es' inside
      cases es' with
      | nil => rfl
      | cons e' es' =>
        obtain ⟨rfl, tail⟩ := List.cons_prefix_cons.mp inside
        have counted := counts es' tail
        rw [run_cons, total]
        omega

/-- What a run gains, with the potential of its last state, is at most what it pays and the
potential of its first, when that is so of every event, while it keeps the invariant `I`. -/
theorem total_add_le {I : σ → Prop} {f : σ → Nat} {gain cost : σ → ε → Nat}
    (keep : ∀ s e, I s → I (M.step s e))
    (pays : ∀ s e, I s → gain s e + f (M.step s e) ≤ cost s e + f s) {s : σ} (hs : I s)
    (es : List ε) : M.total gain s es + f (M.run s es) ≤ M.total cost s es + f s := by
  induction es generalizing s with
  | nil => simp [total]
  | cons e es ih =>
    have first := pays s e hs
    have rest := ih (keep s e hs)
    rw [total, total, run_cons]
    omega

/-- What a run gains is at most a potential of its first state that every event lowers by at least
what it gains, while it keeps the invariant `I`. -/
theorem total_le {I : σ → Prop} {f : σ → Nat} {gain : σ → ε → Nat}
    (keep : ∀ s e, I s → I (M.step s e))
    (lowers : ∀ s e, I s → gain s e + f (M.step s e) ≤ f s) {s : σ} (hs : I s) (es : List ε) :
    M.total gain s es ≤ f s := by
  induction es generalizing s with
  | nil => exact Nat.zero_le _
  | cons e es ih =>
    have first := lowers s e hs
    have rest := ih (keep s e hs)
    rw [total]
    omega

/-! ### What a run leaves -/

/-- What the events of a run leave, one after the other. -/
def collected {α : Type*} (M : Machine σ ε) (leaves : σ → ε → Option α) : σ → List ε → List α
  | _, [] => []
  | s, e :: es => (leaves s e).toList ++ collected M leaves (M.step s e) es

theorem collected_append {α : Type*} (leaves : σ → ε → Option α) (s : σ) (es es' : List ε) :
    M.collected leaves s (es ++ es') =
      M.collected leaves s es ++ M.collected leaves (M.run s es) es' := by
  induction es generalizing s with
  | nil => rfl
  | cons e es ih => simp only [List.cons_append, collected, run_cons, ih, List.append_assoc]

/-- A relation between what a run has left and its state, which every event keeps. -/
theorem collected_holds {α : Type*} {leaves : σ → ε → Option α} {I : List α → σ → Prop}
    (keep : ∀ left s e, I left s → I (left ++ (leaves s e).toList) (M.step s e)) {s : σ}
    (start : I [] s) (es : List ε) : I (M.collected leaves s es) (M.run s es) := by
  induction es using List.reverseRecOn with
  | nil => exact start
  | append_singleton es e ih =>
    rw [collected_append, run_append]
    simpa [collected] using keep _ _ e ih

/-! ### Stretches of a run -/

/-- From each event that meets `start` up to the next one that meets `stop`, the property holds. -/
def HoldsSince (M : Machine σ ε) (start stop : σ → ε → Prop) (P : σ → Prop) (s : σ)
    (es : List ε) : Prop :=
  ∀ before e middle after, before ++ e :: middle ++ after = es → start (M.run s before) e →
    M.Meets (fun s e => ¬ stop s e) (M.run s (before ++ [e])) middle →
      P (M.run s (before ++ e :: middle))

/-- From each event that meets `start` up to the next one that meets `stop`, every event meets
`ok`. -/
def MeetsSince (M : Machine σ ε) (start stop ok : σ → ε → Prop) (s : σ) (es : List ε) : Prop :=
  ∀ before e middle e' after, before ++ e :: middle ++ e' :: after = es →
    start (M.run s before) e →
      M.Meets (fun s e => ¬ stop s e) (M.run s (before ++ [e])) middle →
        ok (M.run s (before ++ e :: middle)) e'

/-- Where `start` establishes a property and an event other than `stop` keeps it exactly if it
meets `ok`, the property holds on a stretch exactly if all the events on it meet `ok`. -/
theorem holdsSince_iff {start stop ok : σ → ε → Prop} {P : σ → Prop}
    (begins : ∀ s e, start s e → P (M.step s e)) (ends : ∀ s e, stop s e → ok s e)
    (exact : ∀ s e, P s → ¬ stop s e → (P (M.step s e) ↔ ok s e)) {s : σ} {es : List ε} :
    M.HoldsSince start stop P s es ↔ M.MeetsSince start stop ok s es := by
  have snoc : ∀ before e middle e', M.run s (before ++ e :: (middle ++ [e'])) =
      M.step (M.run s (before ++ e :: middle)) e' := by
    intro before e middle e'
    simp [run_append]
  have reached : ∀ before e middle, M.run (M.run s (before ++ [e])) middle =
      M.run s (before ++ e :: middle) := by
    intro before e middle
    simp [run_append]
  constructor
  · intro holds before e middle e' after whole started unstopped
    by_cases stopped : stop (M.run s (before ++ e :: middle)) e'
    · exact ends _ e' stopped
    have here := holds before e middle (e' :: after) whole started unstopped
    refine (exact _ e' here stopped).mp ?_
    rw [← snoc]
    refine holds before e (middle ++ [e']) after (by simpa using whole) started ?_
    refine Meets.append.mpr ⟨unstopped, ?_, trivial⟩
    rw [reached]
    exact stopped
  · intro meets before e middle after whole started unstopped
    -- the stretch grows at its end, where the next event acts
    induction middle using List.reverseRecOn generalizing after with
    | nil =>
      have first := begins _ e started
      simpa [run_append] using first
    | append_singleton middle e' ih =>
      obtain ⟨earlier, last, -⟩ := Meets.append.mp unstopped
      rw [reached] at last
      have here := ih (e' :: after) (by simpa using whole) earlier
      rw [snoc]
      refine (exact _ e' here last).mpr ?_
      exact meets before e middle e' after (by simpa using whole) started earlier

end Machine

end CyberLegends.Lib
