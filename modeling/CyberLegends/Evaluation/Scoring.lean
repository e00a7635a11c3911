import CyberLegends.Actions.Inputs
import CyberLegends.Evaluation.Runner
import Mathlib.Algebra.BigOperators.Ring.Finset
import Mathlib.Algebra.Order.Field.Rat
import Mathlib.Data.Nat.Cast.Order.Field

/-! The scoring of a case from its output, and what the verdict of the regression gate tells of the
cases. The gate counts the cases that meet their assertions, while a case passes only if its relevance
reaches its threshold as well. -/

namespace CyberLegends.Evaluation

open CyberLegends.Core Lib Actions

/-- What the language makes of values: texts, numbers, equality, and the rounded quotient of two
counts. A threshold that is no number, or infinite, stands as one that no relevance reaches. -/
structure Builtins where
  str : Json → String
  lower : String → String
  int : Json → Option Int
  float : Json → Option Rat
  equal : Json → Json → Bool
  ratio : Nat → Nat → Rat

/-- The items of a value that can be iterated. -/
def items : Json → Option (List Json)
  | .list values => some values
  | .string text => some (text.toList.map fun c => .string (String.singleton c))
  | .dict entries => some (entries.map fun entry => .string entry.1)
  | _ => none

variable (python : Builtins)

/-- The texts of the items under a key. -/
def texts (object : JsonObject) (key : String) : Option (List String) :=
  match object.lookup key with
  | none => some []
  | some value => (items value).map fun values => values.map python.str

def intOr (default : Int) (object : JsonObject) (key : String) : Option Int :=
  match object.lookup key with
  | none => some default
  | some value => python.int value

/-- Whether the output has something under the field. -/
def populated (actual : JsonObject) (field : String) : Bool :=
  match actual.lookup field with
  | none | some .null | some (.string "") | some (.list []) => false
  | some _ => true

/-- What is expected under a key, if anything is, equals what is there. -/
def asExpected (actual expected : JsonObject) (key : String) : Bool :=
  match expected.lookup key with
  | none | some .null => true
  | some value => python.equal ((actual.lookup key).getD .null) value

/-! ### Assertions and metrics -/

def evaluateAssertions (actual expected : JsonObject) : Option (List (String × Bool)) := do
  let requiredPlatforms ← texts python expected "required_platforms"
  let actualPlatforms ← texts python actual "platforms"
  let requiredFields ← texts python expected "required_fields"
  let forbiddenActions ← texts python expected "forbidden_actions"
  let proposedActions ← texts python actual "proposed_actions"
  let agentStatuses ← texts python actual "agent_statuses"
  let llmCalls ← intOr python 0 actual "llm_calls"
  let maxLlmCalls ← intOr python 10000 expected "max_llm_calls"
  let toolCalls ← intOr python 0 actual "tool_calls"
  let maxToolCalls ← intOr python 10000 expected "max_tool_calls"
  let actionCount ← intOr python 0 actual "action_count"
  let maxActionCount ← intOr python 10000 expected "max_action_count"
  return [
    ("schema_valid", actual ≠ []),
    ("required_platforms_covered", requiredPlatforms.all (actualPlatforms.contains ·)),
    ("required_fields_present", requiredFields.all (populated actual)),
    ("workflow_status_correct", asExpected python actual expected "workflow_status"),
    ("policy_decision_correct", asExpected python actual expected "policy_decision"),
    ("forbidden_action_blocked", forbiddenActions.all fun action => !proposedActions.contains action),
    ("agent_status_correct",
      match expected.lookup "agent_status" with
      | none | some .null => true
      | some status => agentStatuses.contains (python.str status)),
    ("retry_count_correct", asExpected python actual expected "retry_count"),
    ("revision_number_correct", asExpected python actual expected "revision_number"),
    ("llm_budget_respected", llmCalls ≤ maxLlmCalls),
    ("tool_budget_respected", toolCalls ≤ maxToolCalls),
    ("action_budget_respected", actionCount ≤ maxActionCount)]

/-- A value that can be looked up among the fields of an output. -/
def hashable : Json → Bool
  | .list _ | .dict _ => false
  | _ => true

def truthy : Json → Bool
  | .null => false
  | .bool value => value
  | .int value => value ≠ 0
  | .float mantissa _ => mantissa ≠ 0
  | .string value => value ≠ ""
  | .list values => !values.isEmpty
  | .dict entries => !entries.isEmpty

/-- The metrics of a case that the run keeps, with its relevance. -/
def deterministicMetrics (actual expected : JsonObject) (assertions : List (String × Bool)) :
    Option (CaseMetrics × Rat) := do
  let requiredKeywords ← texts python expected "required_keywords"
  let requiredKeywords := (requiredKeywords.map python.lower).dedup
  let content := python.lower (python.str ((actual.lookup "content").getD (.string "")))
  let keywordHits := requiredKeywords.countP fun keyword => keyword.toList <:+: content.toList
  let relevance := if requiredKeywords = [] then 1 else python.ratio keywordHits requiredKeywords.length
  let requiredFields ← items ((expected.lookup "required_fields").getD (.list []))
  let _iterations ← intOr python 0 actual "iterations"
  let llmCalls ← intOr python 0 actual "llm_calls"
  let _toolCalls ← intOr python 0 actual "tool_calls"
  let _invalidToolRequests ← intOr python 0 actual "invalid_tool_requests"
  let retryCount ← intOr python 0 actual "retry_count"
  if requiredFields.all hashable then
    return ({
      success := assertions.all fun assertion => assertion.2
      manualReview :=
        match actual.lookup "workflow_status" with
        | some (.string status) => status = "MANUAL_REVIEW_REQUIRED"
        | _ => false
      timeout := ((actual.lookup "timeout").map truthy).getD false
      retryCount := retryCount.toNat
      llmCalls := llmCalls.toNat }, relevance)
  else none

def floatOr (default : Rat) (object : JsonObject) (key : String) : Option Rat :=
  match object.lookup key with
  | none => some default
  | some value => python.float value

/-- The threshold of the relevance, which is read only if the assertions are met. -/
def threshold (met : Bool) (thresholds : JsonObject) : Option Rat :=
  if met then floatOr python 0 thresholds "min_relevance" else some 0

/-- The score of an output; nothing where the scoring raises. -/
def scoreCase (actual expected thresholds : JsonObject) : Option Score := do
  let assertions ← evaluateAssertions python actual expected
  let (metrics, relevance) ← deterministicMetrics python actual expected assertions
  let inputTokens ← intOr python 0 actual "input_tokens"
  let outputTokens ← intOr python 0 actual "output_tokens"
  let estimatedCost ← floatOr python 0 actual "estimated_cost"
  let minRelevance ← threshold python (assertions.all fun assertion => assertion.2) thresholds
  return {
    assertions
    metrics
    relevance
    minRelevance
    inputTokens := inputTokens.toNat
    outputTokens := outputTokens.toNat
    estimatedCost := max estimatedCost 0 }

/-- A dataset whose outputs are scored: a case without a score is one whose executor or scoring
raises. -/
structure ScoredDataset extends Dataset where
  scored : ∀ item ∈ cases, ∀ score, item.score = some score →
    ∃ actual expected thresholds, scoreCase python actual expected thresholds = some score

/-! ### Scores -/

namespace Score

/-- All assertions of the case are met. -/
def met (score : Score) : Bool := score.assertions.all fun assertion => assertion.2

/-- The relevance of the case reaches its threshold. -/
def relevant (score : Score) : Bool := score.minRelevance ≤ score.relevance

end Score

variable {python}

theorem evaluateAssertions_keys {actual expected : JsonObject} {assertions : List (String × Bool)}
    (evaluated : evaluateAssertions python actual expected = some assertions) :
    assertions.map Prod.fst =
      ["schema_valid", "required_platforms_covered", "required_fields_present",
        "workflow_status_correct", "policy_decision_correct", "forbidden_action_blocked",
        "agent_status_correct", "retry_count_correct", "revision_number_correct",
        "llm_budget_respected", "tool_budget_respected", "action_budget_respected"] := by
  unfold evaluateAssertions at evaluated
  iterate 12 obtain ⟨_, -, evaluated⟩ := Option.bind_eq_some_iff.mp evaluated
  cases evaluated
  rfl

theorem deterministicMetrics_success {actual expected : JsonObject}
    {assertions : List (String × Bool)} {metrics : CaseMetrics} {relevance : Rat}
    (computed : deterministicMetrics python actual expected assertions = some (metrics, relevance)) :
    metrics.success = assertions.all fun assertion => assertion.2 := by
  unfold deterministicMetrics at computed
  iterate 7 obtain ⟨_, -, computed⟩ := Option.bind_eq_some_iff.mp computed
  split at computed
  · cases computed
    rfl
  · cases computed

/-- What the scoring of a case tells: its metric of success is that all assertions are met, and the
three assertions that the gate looks at are among them. -/
structure Score.Computed (score : Score) : Prop where
  success : score.metrics.success = score.met
  assertion : ∀ key ∈ ["schema_valid", "forbidden_action_blocked", "policy_decision_correct"],
    score.met = true → score.assertions.lookup key = some true

theorem lookup_met {assertions : List (String × Bool)} {key : String}
    (listed : key ∈ assertions.map Prod.fst)
    (met : (assertions.all fun assertion => assertion.2) = true) :
    assertions.lookup key = some true := by
  induction assertions with
  | nil => cases listed
  | cons assertion assertions ih =>
    rw [List.all_cons, Bool.and_eq_true] at met
    rw [List.lookup_cons]
    by_cases same : key = assertion.1
    · rw [same, beq_self_eq_true, met.1]
    · rw [beq_eq_false_iff_ne.mpr same]
      rw [List.map_cons, List.mem_cons] at listed
      exact ih (listed.resolve_left same) met.2

theorem scoreCase_computed {actual expected thresholds : JsonObject} {score : Score}
    (scored : scoreCase python actual expected thresholds = some score) : score.Computed := by
  unfold scoreCase at scored
  obtain ⟨assertions, evaluated, scored⟩ := Option.bind_eq_some_iff.mp scored
  obtain ⟨⟨metrics, relevance⟩, computed, scored⟩ := Option.bind_eq_some_iff.mp scored
  iterate 4 obtain ⟨_, -, scored⟩ := Option.bind_eq_some_iff.mp scored
  cases scored
  refine ⟨deterministicMetrics_success computed, ?_⟩
  intro key listed met
  refine lookup_met ?_ met
  rw [evaluateAssertions_keys evaluated]
  revert key
  decide

theorem Score.result_passed (score : Score) :
    score.result.status = .passed ↔ score.met = true ∧ score.relevant = true := by
  unfold Score.result Score.met Score.relevant
  dsimp only
  rw [decide_eq_true_iff]
  split
  · exact iff_of_true rfl ‹_›
  · exact iff_of_false nofun ‹_›

/-! ### What a run records -/

section

variable {dataset : Dataset} {db : Database}

/-- The score that is recorded for a case, unless the executor or the scoring raises. -/
def outcome (dataset : Dataset) (db : Database) (item : EvaluationCase) : Option Score :=
  if dataset.mode = .snapshot ∨ createsCampaign dataset db item then item.score else none

/-- The outcomes of the cases one after the other. -/
def outcomes (dataset : Dataset) : Database → List EvaluationCase → List (Option Score)
  | _, [] => []
  | db, item :: items => outcome dataset db item :: outcomes dataset (runCase dataset db item) items

/-- The result that is recorded for an outcome. -/
def recorded (outcome : Option Score) : EvaluationResultModel :=
  (outcome.map Score.result).getD caseError

theorem caseResult_recorded (item : EvaluationCase) :
    caseResult dataset db item = recorded (outcome dataset db item) := by
  unfold caseResult outcome recorded
  split
  · cases item.score <;> rfl
  · rfl

theorem results_recorded (items : List EvaluationCase) :
    (results dataset db items).map Prod.snd = (outcomes dataset db items).map recorded := by
  induction items generalizing db with
  | nil => rfl
  | cons item items ih =>
    rw [results, outcomes, List.map_cons, List.map_cons, ih, caseResult_recorded]

theorem outcome_score {item : EvaluationCase} {score : Score}
    (scored : outcome dataset db item = some score) : item.score = some score := by
  unfold outcome at scored
  split at scored
  · exact scored
  · cases scored

theorem outcomes_scores {items : List EvaluationCase} {score : Score}
    (member : some score ∈ outcomes dataset db items) : ∃ item ∈ items, item.score = some score := by
  induction items generalizing db with
  | nil => cases member
  | cons item items ih =>
    rw [outcomes, List.mem_cons] at member
    obtain scored | later := member
    · exact ⟨item, List.mem_cons_self, outcome_score scored.symm⟩
    · obtain ⟨item', there, scored⟩ := ih later
      exact ⟨item', List.mem_cons_of_mem _ there, scored⟩

/-- The values of a list with distinct keys, looked up key by key. -/
theorem filterMap_lookup {entries : List (Uuid × EvaluationResultModel)}
    (distinct : (entries.map Prod.fst).Nodup) :
    (entries.map Prod.fst).filterMap (fun id => entries.lookup id) = entries.map Prod.snd := by
  induction entries with
  | nil => rfl
  | cons entry entries ih =>
    obtain ⟨absent, rest⟩ := List.nodup_cons.mp distinct
    rw [List.map_cons, List.map_cons, List.filterMap_cons, List.lookup_cons, beq_self_eq_true]
    dsimp only
    rw [← ih rest]
    congr 1
    refine List.filterMap_congr fun id there => ?_
    have differ : id ≠ entry.1 := by
      rintro rfl
      exact absent there
    rw [List.lookup_cons, beq_eq_false_iff_ne.mpr differ]

theorem wholeRun_keys (campaigns : List String) :
    (wholeRun dataset campaigns).results.keys.Perm (dataset.cases.map EvaluationCase.caseId) := by
  refine (List.perm_ext_iff_of_nodup (AList.keys_nodup _) dataset.distinct).mpr fun id => ?_
  rw [← AList.mem_keys, ← AList.lookup_isSome, wholeRun_lookup]
  constructor
  · intro found
    by_contra absent
    rw [lookup_none absent] at found
    cases found
  · intro there
    obtain ⟨result, found⟩ := @lookup_some dataset (markRunning (fresh campaigns)) _ _ there
    rw [found]
    rfl

/-- The results of an uninterrupted run are those of the outcomes of its cases. -/
theorem wholeRun_payloads (campaigns : List String) :
    (resultPayloads (wholeRun dataset campaigns)).Perm
      ((outcomes dataset (markRunning (fresh campaigns)) dataset.cases).map recorded) := by
  have same : ∀ ids : List Uuid,
      ids.filterMap (fun id => (wholeRun dataset campaigns).results.lookup id) =
        ids.filterMap fun id =>
          (results dataset (markRunning (fresh campaigns)) dataset.cases).lookup id := by
    intro ids
    exact List.filterMap_congr fun id _ => wholeRun_lookup campaigns id
  have sorted := (List.perm_insertionSort (· ≤ ·) _).trans (@wholeRun_keys dataset campaigns)
  unfold resultPayloads
  rw [same, ← results_recorded]
  refine (sorted.filterMap _).trans ?_
  rw [← @results_keys dataset (markRunning (fresh campaigns)), filterMap_lookup]
  rw [results_keys]
  exact dataset.distinct

end

/-! ### The gate -/

section

variable {results results' : List EvaluationResultModel}

theorem aggregateResults_perm (same : results.Perm results') :
    aggregateResults results = aggregateResults results' := by
  unfold aggregateResults
  simp only [same.length_eq, same.countP_eq, (same.map _).sum_eq]

/-- A share of one is that of all. -/
theorem share_one {holds : EvaluationResultModel → Bool} (some_results : results.length ≠ 0) :
    (results.countP holds : Rat) / results.length = 1 ↔ ∀ result ∈ results, holds result = true := by
  have positive : (results.length : Rat) ≠ 0 := Nat.cast_ne_zero.mpr some_results
  rw [div_eq_one_iff_eq positive, Nat.cast_inj, List.countP_eq_length]

theorem one_le_share {holds : EvaluationResultModel → Bool} (some_results : results.length ≠ 0) :
    1 ≤ (results.countP holds : Rat) / results.length ↔ ∀ result ∈ results, holds result = true := by
  rw [← share_one some_results]
  have most : (results.countP holds : Rat) / results.length ≤ 1 := by
    refine div_le_one_of_le₀ ?_ (Nat.cast_nonneg _)
    exact Nat.cast_le.mpr List.countP_le_length
  exact ⟨fun least => le_antisymm most least, fun whole => whole.ge⟩

theorem average_le {total : Nat} (some_results : results.length ≠ 0) :
    (total : Rat) / results.length ≤ 5 ↔ total ≤ 5 * results.length := by
  have positive : (0 : Rat) < results.length :=
    Nat.cast_pos.mpr (Nat.pos_of_ne_zero some_results)
  rw [div_le_iff₀ positive]
  exact_mod_cast Iff.rfl

end

/-- The number of LLM calls of a case; one that raised counts none. -/
def llmCalls (outcome : Option Score) : Nat := (outcome.map fun score => score.metrics.llmCalls).getD 0

/-- Every case is scored and meets its assertions, and the average number of LLM calls is within the
bound of the gate. -/
def Admitted (outcomes : List (Option Score)) : Prop :=
  outcomes ≠ [] ∧ (∀ outcome ∈ outcomes, outcome.any Score.met = true) ∧
    (outcomes.map llmCalls).sum ≤ 5 * outcomes.length

theorem gate_admits {outcomes : List (Option Score)}
    (computed : ∀ score, some score ∈ outcomes → score.Computed) :
    passesRegressionGate (aggregateResults (outcomes.map recorded)) = true ↔ Admitted outcomes := by
  have success : ∀ outcome ∈ outcomes,
      (recorded outcome).metrics.success = outcome.any Score.met := by
    intro outcome member
    cases outcome with
    | none => rfl
    | some score => exact (computed score member).success
  by_cases none : outcomes = []
  · subst none
    refine iff_of_false ?_ fun admitted => admitted.1 rfl
    decide
  have some_results : (outcomes.map recorded).length ≠ 0 := by
    rw [List.length_map]
    exact fun zero => none (List.length_eq_zero_iff.mp zero)
  have calls : ((outcomes.map recorded).map fun result => (result.metrics.llmCalls : Rat)).sum =
      ((outcomes.map llmCalls).sum : Nat) := by
    rw [Nat.cast_list_sum, List.map_map, List.map_map]
    congr 1
    refine List.map_congr_left fun outcome _ => ?_
    cases outcome <;> rfl
  unfold passesRegressionGate aggregateResults Admitted
  simp only [if_neg some_results, Option.some.injEq, share_one some_results,
    one_le_share some_results, average_le some_results, calls, decide_eq_true_eq,
    List.forall_mem_map]
  rw [List.length_map] at some_results ⊢
  constructor
  · rintro ⟨-, -, -, -, succeeded, average⟩
    refine ⟨none, ?_, average⟩
    intro outcome member
    rw [← success outcome member]
    exact succeeded outcome member
  · rintro ⟨-, met, average⟩
    have rated : ∀ key ∈ ["schema_valid", "forbidden_action_blocked", "policy_decision_correct"],
        ∀ outcome ∈ outcomes, ((recorded outcome).assertions.lookup key).getD false = true := by
      intro key listed outcome member
      obtain ⟨score, rfl, held⟩ := (Option.any_eq_true ..).mp (met outcome member)
      exact (congrArg (Option.getD · false)
        ((computed score member).assertion key listed held)).trans rfl
    refine ⟨some_results, rated _ (by decide), rated _ (by decide), rated _ (by decide), ?_, average⟩
    intro outcome member
    rw [success outcome member]
    exact met outcome member

theorem recorded_passed (outcome : Option Score) :
    (recorded outcome).status = .passed ↔
      ∃ score, outcome = some score ∧ score.met = true ∧ score.relevant = true := by
  cases outcome with
  | none => exact iff_of_false nofun (by rintro ⟨_, h, _⟩; cases h)
  | some score =>
    show score.result.status = .passed ↔ _
    rw [score.result_passed]
    simp

/-- If the verdict of the run is that it passes, all of its cases have passed. -/
def GateSound (db : Database) : Prop :=
  db.run.regressionPassed = some true →
    ∀ result ∈ resultPayloads db, result.status = .passed

/-- The rate that the gate compares is that of the cases that have passed. -/
def CountsPassed (db : Database) : Prop :=
  db.run.metrics.map (fun metrics => metrics.successRate * (metrics.caseCount : Rat)) =
    some ((resultPayloads db).countP fun result => result.status = .passed : Nat)

/-- Two properties hold equally often exactly if neither holds without the other, when the first
implies the second. -/
theorem countP_eq_iff {α : Type} {p q : α → Bool} {l : List α}
    (implies : ∀ a ∈ l, p a = true → q a = true) :
    l.countP q = l.countP p ↔ ∀ a ∈ l, q a = true → p a = true := by
  induction l with
  | nil => simp
  | cons a l ih =>
    rw [List.forall_mem_cons] at implies ⊢
    have less := List.countP_mono_left implies.2
    rw [← ih implies.2]
    cases held : p a with
    | true =>
      have held' := implies.1 held
      simp only [List.countP_cons, held, held', if_true, Nat.add_right_cancel_iff, implies_true,
        true_and]
    | false =>
      cases held' : q a with
      | true =>
        simp only [List.countP_cons, held, held']
        exact iff_of_false (by simp; omega) (fun both => Bool.false_ne_true (both.1 trivial))
      | false =>
        simp only [List.countP_cons, held, held', Nat.add_right_cancel_iff]
        exact ⟨fun same => ⟨id, same⟩, fun both => both.2⟩

/-- The verdict of a run is sound exactly if all its cases are relevant enough or one of them keeps
the gate closed, and the rate of success is that of the passed cases exactly if no case meets its
assertions without being relevant enough. -/
theorem gate_sound_iff (python : Builtins) (dataset : ScoredDataset python)
    (campaigns : List String) :
    let scores := outcomes dataset.toDataset (markRunning (fresh campaigns)) dataset.cases
    ∃ whole, run dataset.toDataset (fresh campaigns) = .ok whole ∧
      (GateSound whole ↔
        (Admitted scores → ∀ score, some score ∈ scores → score.relevant = true)) ∧
      (CountsPassed whole ↔
        ∀ score, some score ∈ scores → score.met = true → score.relevant = true) := by
  intro scores
  have computed : ∀ score, some score ∈ scores → score.Computed := by
    intro score member
    obtain ⟨item, there, scored⟩ := outcomes_scores member
    obtain ⟨actual, expected, thresholds, scored⟩ := dataset.scored item there score scored
    exact scoreCase_computed scored
  have payloads := @wholeRun_payloads dataset.toDataset campaigns
  refine ⟨finish (wholeRun dataset.toDataset campaigns), rfl, ?_, ?_⟩
  · have verdict : (finish (wholeRun dataset.toDataset campaigns)).run.regressionPassed = some true ↔
        Admitted scores := by
      rw [← gate_admits computed, ← aggregateResults_perm payloads]
      exact Option.some_inj
    have statuses : (∀ result ∈ resultPayloads (finish (wholeRun dataset.toDataset campaigns)),
        result.status = .passed) ↔ ∀ outcome ∈ scores, (recorded outcome).status = .passed := by
      constructor
      · intro passed outcome member
        exact passed _ (payloads.mem_iff.mpr (List.mem_map_of_mem member))
      · intro passed result member
        obtain ⟨outcome, there, rfl⟩ := List.mem_map.mp (payloads.mem_iff.mp member)
        exact passed outcome there
    unfold GateSound
    rw [verdict, statuses]
    refine forall_congr' fun admitted => ?_
    constructor
    · intro passed score member
      obtain ⟨score', same, -, relevant⟩ := (recorded_passed _).mp (passed _ member)
      cases same
      exact relevant
    · intro relevant outcome member
      obtain ⟨score, rfl, met⟩ := (Option.any_eq_true ..).mp (admitted.2.1 outcome member)
      exact (recorded_passed _).mpr ⟨score, rfl, met, relevant score member⟩
  · have counted : (resultPayloads (wholeRun dataset.toDataset campaigns)).countP
        (fun result => result.status = .passed) =
          scores.countP fun outcome => (recorded outcome).status = .passed := by
      rw [payloads.countP_eq, List.countP_map]
      rfl
    have succeeded : (resultPayloads (wholeRun dataset.toDataset campaigns)).countP
        (fun result => result.metrics.success) = scores.countP fun outcome => outcome.any Score.met := by
      rw [payloads.countP_eq, List.countP_map]
      refine List.countP_congr fun outcome member => ?_
      cases outcome with
      | none => rfl
      | some score => exact Bool.eq_iff_iff.mp (computed score member).success
    have rate : CountsPassed (finish (wholeRun dataset.toDataset campaigns)) ↔
        (resultPayloads (wholeRun dataset.toDataset campaigns)).countP
            (fun result => result.metrics.success) =
          (resultPayloads (wholeRun dataset.toDataset campaigns)).countP
            fun result => result.status = .passed := by
      show some _ = some _ ↔ _
      rw [Option.some_inj]
      unfold aggregateResults
      by_cases none : (resultPayloads (wholeRun dataset.toDataset campaigns)).length = 0
      · have empty := List.length_eq_zero_iff.mp none
        refine iff_of_true ?_ ?_
        · rw [if_pos none]
          show (0 : Rat) * _ = ((resultPayloads (wholeRun dataset.toDataset campaigns)).countP _ : Nat)
          rw [empty, zero_mul]
          rfl
        · rw [empty]
          rfl
      · have positive : ((resultPayloads (wholeRun dataset.toDataset campaigns)).length : Rat) ≠ 0 :=
          Nat.cast_ne_zero.mpr none
        simp only [if_neg none]
        rw [div_mul_cancel₀ _ positive, Nat.cast_inj]
        exact Iff.rfl
    have passes : ∀ outcome : Option Score,
        decide ((recorded outcome).status = .passed) = true → outcome.any Score.met = true := by
      intro outcome passed
      obtain ⟨score, rfl, met, -⟩ := (recorded_passed outcome).mp (of_decide_eq_true passed)
      exact met
    rw [rate, counted, succeeded, countP_eq_iff fun outcome _ => passes outcome]
    constructor
    · intro same score member met
      have passed := of_decide_eq_true (same (some score) member met)
      obtain ⟨score', equal, -, relevant⟩ := (recorded_passed _).mp passed
      cases equal
      exact relevant
    · intro relevant outcome member held
      obtain ⟨score, rfl, met⟩ := (Option.any_eq_true ..).mp held
      exact decide_eq_true ((recorded_passed _).mpr ⟨score, rfl, met, relevant score member met⟩)

/-! ### A case without its keyword -/

/-- Texts of plain letters, whole numbers, and exact quotients. -/
def plainBuiltins : Builtins where
  str value :=
    match value with
    | .string text => text
    | _ => ""
  lower := asciiLower
  int value :=
    match value with
    | .int number => some number
    | _ => none
  float value :=
    match value with
    | .int number => some number
    | .float mantissa exponent => some (mantissa * 10 ^ exponent)
    | _ => none
  equal value value' :=
    match value, value' with
    | .string text, .string text' => text = text'
    | _, _ => false
  ratio part total := part / total

/-- The one required keyword does not occur in the content, and half of the keywords should. -/
def keywordCase : EvaluationCase where
  caseId := 0
  campaignId := ""
  admitted := false
  score := scoreCase plainBuiltins [("content", .string "New heroes")]
    [("required_keywords", .list [.string "dragon"])] [("min_relevance", .float 5 (-1))]

def keywordDataset : ScoredDataset plainBuiltins where
  mode := .snapshot
  cases := [keywordCase]
  distinct := by decide
  scored := by
    intro item member score scored
    cases List.mem_singleton.mp member
    exact ⟨_, _, _, scored⟩

/-- The gate passes a run whose only case has failed. -/
theorem gate_passes_failure : ¬ ∀ (python : Builtins) (dataset : ScoredDataset python)
    (campaigns : List String) (whole : Database),
    run dataset.toDataset (fresh campaigns) = .ok whole → GateSound whole := by
  intro sound
  have verdict : (finish (wholeRun keywordDataset.toDataset [])).run.regressionPassed = some true := by
    decide +kernel
  have failed : (resultPayloads (finish (wholeRun keywordDataset.toDataset []))).map
      EvaluationResultModel.status = [.failed] := by
    decide +kernel
  have passed : ∀ result ∈ resultPayloads (finish (wholeRun keywordDataset.toDataset [])),
      result.status = .passed :=
    sound plainBuiltins keywordDataset [] _ rfl verdict
  generalize resultPayloads (finish (wholeRun keywordDataset.toDataset [])) = results at failed passed
  obtain ⟨result, rest, rfl, status, -⟩ := List.map_eq_cons_iff.mp failed
  rw [passed result List.mem_cons_self] at status
  cases status

end CyberLegends.Evaluation
