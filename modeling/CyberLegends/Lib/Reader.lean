import Mathlib.Data.List.Induction

/-! Programs that read from a source until they end, and what a filter before the source changes for
them. -/

namespace CyberLegends.Lib

/-- A program that reads, each read giving a message or an error, and ends with a result. -/
inductive Reader (μ ε ρ : Type*)
  | done (result : ρ)
  | read (next : Except ε μ → Reader μ ε ρ)

namespace Reader

variable {μ ε ρ σ τ : Type*}

/-- What a program ends with, what it has read, and the source that it leaves. -/
structure Run (σ μ ε ρ : Type*) where
  result : ρ
  reads : List (Except ε μ)
  source : σ

/-- The run of a program over a source. -/
def run (next : σ → Except ε μ × σ) : Reader μ ε ρ → σ → Run σ μ ε ρ
  | done result, source => { result, reads := [], source }
  | read k, source =>
    let rest := run next (k (next source).1) (next source).2
    { rest with reads := (next source).1 :: rest.reads }

/-- However the reads go, the result has the property. -/
def Ends (P : ρ → Prop) : Reader μ ε ρ → Prop
  | done result => P result
  | read k => ∀ answer, Ends P (k answer)

/-- Once a read has failed with the error, the result has the property. -/
def EndsOn (error : ε) (P : ρ → Prop) : Reader μ ε ρ → Prop
  | done _ => True
  | read k => Ends P (k (.error error)) ∧ ∀ answer, EndsOn error P (k answer)

variable {next : σ → Except ε μ × σ} {program : Reader μ ε ρ} {P : ρ → Prop} {error : ε}

theorem Ends.result (ends : program.Ends P) (source : σ) : P (program.run next source).result := by
  induction program generalizing source with
  | done result => exact ends
  | read k ih => exact ih _ (ends _) _

theorem EndsOn.result (ends : program.EndsOn error P) (source : σ)
    (failed : .error error ∈ (program.run next source).reads) :
    P (program.run next source).result := by
  induction program generalizing source with
  | done result => cases failed
  | read k ih =>
    obtain here | later := List.mem_cons.mp failed
    · have there : P (run next (k (.error error)) (next source).2).result := ends.1.result _
      rw [here] at there
      exact there
    · exact ih _ (ends.2 _) _ later

variable (next program) in
/-- What an invariant of the source says of each read, it says of all. -/
theorem run_holds {I : σ → List (Except ε μ) → Prop}
    (keep : ∀ source before, I source before →
      I (next source).2 (before ++ [(next source).1])) {source : σ} {before : List (Except ε μ)}
    (start : I source before) :
    I (program.run next source).source (before ++ (program.run next source).reads) := by
  induction program generalizing source before with
  | done result => simpa [run] using start
  | read k ih =>
    have later := ih (next source).1 (keep source before start)
    simpa [run] using later

/-! ### Filters -/

variable (next program) in
/-- As long as a filter of the source passes what is read, it changes nothing; where it does not, the
program has read the same before. -/
theorem run_filter (filtered : τ → Except ε μ × τ) (passes : τ → Prop) [DecidablePred passes]
    {R : List (Except ε μ) → τ → σ → Prop}
    (pass : ∀ seen t s, R seen t s → passes t → (filtered t).1 = (next s).1 ∧
      R (seen ++ [(next s).1]) (filtered t).2 (next s).2)
    {seen : List (Except ε μ)} {t : τ} {s : σ} (related : R seen t s) :
    ((program.run filtered t).result = (program.run next s).result ∧
        R (seen ++ (program.run next s).reads) (program.run filtered t).source
          (program.run next s).source) ∨
      ∃ before t' s' after after', R (seen ++ before) t' s' ∧ ¬ passes t' ∧
        (program.run filtered t).reads = before ++ (filtered t').1 :: after ∧
        (program.run next s).reads = before ++ (next s').1 :: after' := by
  induction program generalizing seen t s with
  | done result => exact .inl ⟨rfl, by simpa [run] using related⟩
  | read k ih =>
    by_cases passed : passes t
    · obtain ⟨same, later⟩ := pass seen t s related passed
      simp only [run, same]
      obtain ⟨result, rest⟩ | ⟨before, t', s', after, after', there, stops, reads, plain⟩ :=
        ih (next s).1 later
      · exact .inl ⟨result, by simpa using rest⟩
      · refine .inr ⟨(next s).1 :: before, t', s', after, after', by simpa using there, stops, ?_, ?_⟩
        · rw [reads, List.cons_append]
        · rw [plain, List.cons_append]
    · exact .inr ⟨[], t, s, _, _, by simpa using related, passed, rfl, rfl⟩

end Reader
end CyberLegends.Lib
