import CyberLegends.Jobs.Starvation
import CyberLegends.Jobs.Fencing
import CyberLegends.Outbox.ExactlyOnce
import CyberLegends.Workflow.Sessions
import CyberLegends.Actions.Authorization
import CyberLegends.Applied.Decisions
import CyberLegends.Applied.Finished
import CyberLegends.Workflow.Recovery
import CyberLegends.Workflow.Retries
import CyberLegends.Actions.Execution
import CyberLegends.Actions.Steps
import CyberLegends.Actions.Lockstep
import CyberLegends.Actions.Memory
import CyberLegends.Actions.Jobs
import CyberLegends.Jobs.Recall
import CyberLegends.Workflow.Escapes
import CyberLegends.Workflow.Artifacts
import CyberLegends.Workflow.Stuck
import CyberLegends.Auth.Model
import CyberLegends.Auth.SessionLaws
import CyberLegends.Auth.Adapter
import CyberLegends.Auth.AdapterSteps
import CyberLegends.Auth.Winners
import CyberLegends.Prompts.Lifecycle
import CyberLegends.Actions.Inputs
import CyberLegends.Agents.Contexts
import CyberLegends.Security.Listings
import CyberLegends.Media.Requests
import CyberLegends.Evaluation.Scoring
import CyberLegends.Workflow.Budget
import CyberLegends.Workflow.Termination
import CyberLegends.Agents.Dumps
import CyberLegends.Agents.ToolResults
import CyberLegends.Agents.AgentLoop
import CyberLegends.Agents.Budgets
import CyberLegends.Experiments.CaseResults
import CyberLegends.Lib.Window
import CyberLegends.Operations.RateLimit
import CyberLegends.Operations.Callers
import CyberLegends.Core.Integers
import CyberLegends.Integrations.Signatures
import CyberLegends.Prompts.Activations
import CyberLegends.Integrations.Webhooks
import CyberLegends.Integrations.Deliveries
import CyberLegends.Lib.Url
import CyberLegends.Frontend.Forward
import CyberLegends.Agents.ToolExecutor
import CyberLegends.Operations.Alerts
import CyberLegends.Operations.Reconciliation
import CyberLegends.Lib.Decimal
import CyberLegends.DataAnalysis.Numbers
import CyberLegends.DataAnalysis.Processor
import CyberLegends.DataAnalysis.Exact
import CyberLegends.DataAnalysis.Tables
import CyberLegends.DataAnalysis.Quality
import CyberLegends.Agents.WorkingMemory
import CyberLegends.Frontend.Streaming
import CyberLegends.BusinessImpact.Calculator
import CyberLegends.BusinessImpact.Service
import CyberLegends.BusinessImpact.Acceptance
import CyberLegends.LLM.Router
import CyberLegends.Lib.Format
import CyberLegends.Prompts.Renderer
import CyberLegends.Documents.Consistency
import CyberLegends.Documents.Processor
import CyberLegends.BusinessImpact.Records
import CyberLegends.BusinessImpact.Sessions
import CyberLegends.Lib.Reader
import CyberLegends.Observability.Middleware
import CyberLegends.Media.Storage
import CyberLegends.Agents.Redaction
import CyberLegends.Lib.Latest
import CyberLegends.Operations.Timelines
import CyberLegends.Workflow.Guards
import CyberLegends.Operations.AlertRuns
import CyberLegends.Workflow.Hints
import CyberLegends.Workflow.Verdicts
import CyberLegends.Media.Served
