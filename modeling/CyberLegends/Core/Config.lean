import Mathlib.Order.Basic

/-! Settings, times and durations. -/

namespace CyberLegends.Core

/-- A point in time, in microseconds. -/
abbrev Timestamp := Nat

/-- A universally unique identifier. -/
abbrev Uuid := Nat

/-- The length of `n` seconds. -/
def seconds (n : Nat) : Timestamp := n * 1000000

/-- The values of the settings of the application. -/
structure SettingValues where
  jobLeaseSeconds : Nat := 60
  jobMaxAttempts : Nat := 5
  jobRetryBaseSeconds : Nat := 5
  jobRetryMaxSeconds : Nat := 300
  jobBatchSize : Nat := 10
  outboxLeaseSeconds : Nat := 60
  outboxMaxAttempts : Nat := 5
  outboxRetryBaseSeconds : Nat := 5
  outboxRetryMaxSeconds : Nat := 300
  maxContentRetries : Nat := 2
  maxLlmCallsPerWorkflow : Nat := 6
  actionApprovalTtlSeconds : Nat := 3600

/-- The ranges that the declarations of the settings enforce. -/
structure SettingValues.InRange (values : SettingValues) : Prop where
  jobLeaseSeconds : 5 ≤ values.jobLeaseSeconds ∧ values.jobLeaseSeconds ≤ 3600
  jobMaxAttempts : 1 ≤ values.jobMaxAttempts ∧ values.jobMaxAttempts ≤ 20
  jobRetryBaseSeconds : 1 ≤ values.jobRetryBaseSeconds ∧ values.jobRetryBaseSeconds ≤ 3600
  jobRetryMaxSeconds : 1 ≤ values.jobRetryMaxSeconds ∧ values.jobRetryMaxSeconds ≤ 86400
  jobBatchSize : 1 ≤ values.jobBatchSize ∧ values.jobBatchSize ≤ 100
  outboxLeaseSeconds : 5 ≤ values.outboxLeaseSeconds ∧ values.outboxLeaseSeconds ≤ 3600
  outboxMaxAttempts : 1 ≤ values.outboxMaxAttempts ∧ values.outboxMaxAttempts ≤ 20
  outboxRetryBaseSeconds : 1 ≤ values.outboxRetryBaseSeconds ∧
    values.outboxRetryBaseSeconds ≤ values.outboxRetryMaxSeconds
  outboxRetryMaxSeconds : values.outboxRetryMaxSeconds ≤ 86400
  maxContentRetries : values.maxContentRetries ≤ 5
  maxLlmCallsPerWorkflow : 1 ≤ values.maxLlmCallsPerWorkflow
  actionApprovalTtlSeconds : 60 ≤ values.actionApprovalTtlSeconds ∧
    values.actionApprovalTtlSeconds ≤ 86400

/-- The defaults pass their own checks. -/
theorem SettingValues.inRange_default : ({} : SettingValues).InRange := by
  constructor <;> decide

/-- The settings of the application. -/
structure Settings extends SettingValues where
  range : toSettingValues.InRange := by exact SettingValues.inRange_default

end CyberLegends.Core
