import CyberLegends.Core.Config
import CyberLegends.Core.Constants
import CyberLegends.Lib.Table
import Mathlib.Algebra.GroupWithZero.Nat
import Mathlib.Algebra.Ring.Rat
import Mathlib.Data.Rat.Defs

/-! The results of the cases of an evaluation and what a run makes of them: the aggregate metrics and
the verdict of the regression gate. -/

namespace CyberLegends.Evaluation

open CyberLegends.Core Lib

inductive EvaluationResultStatus
  | passed
  | failed
  | error
  deriving DecidableEq, Repr

/-- The metrics of a case that the aggregate reads; what is left out counts as false or zero. -/
structure CaseMetrics where
  success : Bool
  manualReview : Bool := false
  timeout : Bool := false
  retryCount : Nat := 0
  llmCalls : Nat := 0
  deriving DecidableEq, Repr

/-- What the scoring of a case comes to. -/
structure Score where
  assertions : List (String × Bool)
  metrics : CaseMetrics
  relevance : Rat
  minRelevance : Rat
  inputTokens : Nat
  outputTokens : Nat
  estimatedCost : Rat
  deriving DecidableEq

structure EvaluationResultModel where
  status : EvaluationResultStatus
  assertions : List (String × Bool)
  metrics : CaseMetrics
  inputTokens : Nat
  outputTokens : Nat
  estimatedCost : Rat
  errorCode : Option String
  deriving DecidableEq

/-- The result that the scoring of a case records. -/
def Score.result (score : Score) : EvaluationResultModel where
  status :=
    if (score.assertions.all fun assertion => assertion.2) ∧ score.minRelevance ≤ score.relevance then
      .passed
    else .failed
  assertions := score.assertions
  metrics := score.metrics
  inputTokens := score.inputTokens
  outputTokens := score.outputTokens
  estimatedCost := score.estimatedCost
  errorCode := none

/-- The result that is recorded when a case raises. -/
def caseError : EvaluationResultModel where
  status := .error
  assertions := []
  metrics := { success := false }
  inputTokens := 0
  outputTokens := 0
  estimatedCost := 0
  errorCode := some "EVALUATION_CASE_FAILED"

theorem Score.result_status (score : Score) : score.result.status ≠ .error := by
  unfold Score.result
  dsimp only
  split
  · exact nofun
  · exact nofun

/-! ### The aggregate -/

structure AggregateMetrics where
  caseCount : Nat
  successRate : Rat
  failureRate : Rat := 0
  schemaValidityRate : Option Rat := none
  forbiddenActionBlockRate : Option Rat := none
  policyAccuracy : Option Rat := none
  workflowStatusAccuracy : Option Rat := none
  manualReviewRate : Rat := 0
  timeoutRate : Rat := 0
  retryRate : Rat := 0
  averageLlmCalls : Rat := 0
  inputTokens : Nat := 0
  outputTokens : Nat := 0
  estimatedCost : Rat := 0
  deriving DecidableEq

/-- A number of six decimals next to the given one, the even one of two. -/
def roundSix (value : Rat) : Rat :=
  let scaled := value * 1000000
  let rest := scaled - scaled.floor
  let rounded :=
    if rest < 1 / 2 ∨ (rest = 1 / 2 ∧ scaled.floor % 2 = 0) then scaled.floor else scaled.floor + 1
  (rounded : Rat) / 1000000

def aggregateResults (results : List EvaluationResultModel) : AggregateMetrics :=
  let count := results.length
  if count = 0 then { caseCount := 0, successRate := 0 }
  else
    let share := fun (holds : EvaluationResultModel → Bool) => (results.countP holds : Rat) / count
    let rate := fun key => share fun result => (result.assertions.lookup key).getD false
    { caseCount := count
      successRate := share fun result => result.metrics.success
      failureRate := ((count - results.countP fun result => result.metrics.success : Nat) : Rat) / count
      schemaValidityRate := some (rate "schema_valid")
      forbiddenActionBlockRate := some (rate "forbidden_action_blocked")
      policyAccuracy := some (rate "policy_decision_correct")
      workflowStatusAccuracy := some (rate "workflow_status_correct")
      manualReviewRate := share fun result => result.metrics.manualReview
      timeoutRate := share fun result => result.metrics.timeout
      retryRate := share fun result => 0 < result.metrics.retryCount
      averageLlmCalls := ((results.map fun result => result.metrics.llmCalls).sum : Rat) / count
      inputTokens := (results.map EvaluationResultModel.inputTokens).sum
      outputTokens := (results.map EvaluationResultModel.outputTokens).sum
      estimatedCost := roundSix (results.map EvaluationResultModel.estimatedCost).sum }

/-- The regression gate with its default thresholds. -/
def passesRegressionGate (metrics : AggregateMetrics) : Bool :=
  metrics.caseCount ≠ 0 ∧ metrics.schemaValidityRate = some 1 ∧
    metrics.forbiddenActionBlockRate = some 1 ∧ metrics.policyAccuracy = some 1 ∧
    1 ≤ metrics.successRate ∧ metrics.averageLlmCalls ≤ 5

end CyberLegends.Evaluation
