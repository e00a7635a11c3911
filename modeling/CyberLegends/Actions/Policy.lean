import CyberLegends.Workflow.Model

/-! The policy on controlled actions: what an agent may propose, and in which states of the campaign
and of the workflow. -/

namespace CyberLegends.Actions

open CyberLegends.Core Workflow

/-- A JSON value; a floating point number is its shortest decimal, `mantissa * 10 ^ exponent`. -/
inductive Json
  | null
  | bool (value : Bool)
  | int (value : Int)
  | float (mantissa exponent : Int)
  | string (value : String)
  | list (items : List Json)
  | dict (entries : List (String × Json))

/-! ### Rules -/

def forbiddenActions : List String :=
  ["approve_campaign", "reject_campaign", "publish_campaign", "delete_campaign",
    "delete_workflow_history", "modify_actor_role", "modify_roles", "modify_permissions",
    "access_secrets", "execute_sql", "execute_shell", "call_arbitrary_url", "disable_audit",
    "change_policy_rules"]

def genericActions : List String :=
  ["update_anything", "modify_record", "execute_command", "run_query", "call_url",
    "patch_resource"]

def dangerousArgumentKeys : List String :=
  ["action", "action_name", "command", "sql", "query", "url", "authorization", "api_key",
    "password", "secret", "token"]

/-- A character in lower case. Beyond ASCII only the two letters matter whose lower case contains an
ASCII letter, the Kelvin sign and the dotted capital I. -/
def lowerChar (c : Char) : List Char :=
  if c = '\u212a' then ['k'] else if c = '\u0130' then ['i', '\u0307'] else [c.toLower]

def lower (text : String) : List Char := text.toList.flatMap lowerChar

/-- The letters and digits that a canonical name keeps. -/
def isCanonicalChar (c : Char) : Bool := ('a' ≤ c ∧ c ≤ 'z') ∨ ('0' ≤ c ∧ c ≤ '9')

/-- Turns each run of other characters into one underscore; `inRun` says whether the character
before belongs to such a run. -/
def joinRuns (inRun : Bool) : List Char → List Char
  | [] => []
  | c :: cs =>
    if isCanonicalChar c then c :: joinRuns false cs
    else if inRun then joinRuns true cs
    else '_' :: joinRuns true cs

def stripUnderscores (chars : List Char) : List Char :=
  let isUnderscore := fun c : Char => decide (c = '_')
  ((chars.dropWhile isUnderscore).reverse.dropWhile isUnderscore).reverse

-- The white space that the source strips first would end up in the underscores at the ends.
def canonicalActionName (value : String) : String :=
  String.ofList (stripUnderscores (joinRuns false (lower value)))

def isForbiddenAlias (value : String) : Bool :=
  let canonical := canonicalActionName value
  canonical ∈ forbiddenActions ∨ canonical ∈ genericActions

def isLink (value : String) : Bool :=
  "http://".toList.isPrefixOf (lower value) || "https://".toList.isPrefixOf (lower value)

mutual

/-- Whether a dangerous key or text stands anywhere inside the value. -/
def containsNestedDanger : Json → Bool
  | .dict entries => entriesDangerous entries
  | .list items => itemsDangerous items
  | .string value => isForbiddenAlias value || isLink value
  | _ => false

def itemsDangerous : List Json → Bool
  | [] => false
  | item :: items => containsNestedDanger item || itemsDangerous items

def entriesDangerous : List (String × Json) → Bool
  | [] => false
  | (key, item) :: entries =>
    canonicalActionName key ∈ dangerousArgumentKeys || containsNestedDanger item ||
      entriesDangerous entries

end

/-! ### Action definitions -/

/-- The lifetime of an approval, in the range that a policy result admits. -/
structure ApprovalTtl where
  seconds : Nat
  range : 60 ≤ seconds ∧ seconds ≤ 86400

/-- The scope fields of validated arguments; an input model need not have them. -/
structure ScopedArguments where
  campaignId : Option CampaignId := none
  workflowId : Option WorkflowId := none
  revisionNumber : Option Nat := none
  deriving DecidableEq, Repr

structure ActionDefinition where
  name : String
  /-- The validation of arguments by the input model; nothing when they are invalid. -/
  inputModel : Json → Option ScopedArguments
  defaultPolicy : PolicyDecision
  reversible : Bool
  allowedAgents : List AgentName
  requiredRole : Option UserRole := none
  allowedCampaignStatuses : List CampaignStatus := []
  allowedWorkflowStatuses : List CampaignStatus := []
  approvalTtl : Option ApprovalTtl := none

/-- The actions that are defined, no two under one name. -/
structure ActionRegistry where
  definitions : List ActionDefinition
  nodup : (definitions.map ActionDefinition.name).Nodup

def ActionRegistry.get (registry : ActionRegistry) (name : String) : Option ActionDefinition :=
  registry.definitions.find? fun definition => definition.name = name

/-! ### The engine -/

structure PolicyEvaluationContext where
  agentRunId : Uuid
  workflowId : WorkflowId
  campaignId : CampaignId
  agentName : AgentName
  actionName : String
  arguments : Json
  campaignStatus : CampaignStatus
  workflowStatus : CampaignStatus
  actorId : Option String := none
  actorRole : Option UserRole := none
  revisionNumber : Nat
  previousActionCount : Nat

structure PolicyEvaluationResult where
  decision : PolicyDecision
  reasonCode : String
  reason : String
  requiredRole : Option UserRole := none
  expiresIn : Option ApprovalTtl := none
  reversible : Bool

def deny (reasonCode reason : String) : PolicyEvaluationResult where
  decision := .forbidden
  reasonCode
  reason
  reversible := false

/-- Whether the validated arguments speak of the scope that the context names. -/
def ScopedArguments.inScope (arguments : ScopedArguments) (context : PolicyEvaluationContext) :
    Bool :=
  arguments.campaignId.getD context.campaignId = context.campaignId ∧
    arguments.workflowId.getD context.workflowId = context.workflowId ∧
    arguments.revisionNumber.getD context.revisionNumber = context.revisionNumber

/-- An empty list of statuses admits every status. -/
def statusAllowed (allowed : List CampaignStatus) (status : CampaignStatus) : Bool :=
  allowed = [] ∨ status ∈ allowed

/-- The decision of a registered definition on arguments that it has validated. -/
def ActionDefinition.decide (definition : ActionDefinition) (context : PolicyEvaluationContext) :
    PolicyEvaluationResult :=
  if !statusAllowed definition.allowedCampaignStatuses context.campaignStatus then
    deny "CAMPAIGN_STATE_NOT_ALLOWED" "Campaign state does not allow this action"
  else if !statusAllowed definition.allowedWorkflowStatuses context.workflowStatus then
    deny "WORKFLOW_STATE_NOT_ALLOWED" "Workflow state does not allow this action"
  else
    match definition.defaultPolicy with
    | .safe =>
      { decision := .safe
        reasonCode := "SAFE_INTERNAL_ACTION"
        reason := "Action is internal, bounded, reversible, and allowlisted"
        reversible := definition.reversible }
    | .approvalRequired =>
      { decision := .approvalRequired
        reasonCode := "HUMAN_APPROVAL_REQUIRED"
        reason := "Action requires an authorized human decision"
        requiredRole := definition.requiredRole
        expiresIn := definition.approvalTtl
        reversible := definition.reversible }
    | .forbidden => deny "DEFAULT_DENY" "Action has no executable policy"

def evaluate (context : PolicyEvaluationContext) :
    Option ActionDefinition → PolicyEvaluationResult
  | none =>
    if isForbiddenAlias context.actionName then
      deny "FORBIDDEN_ACTION" "Action is permanently forbidden"
    else deny "UNKNOWN_ACTION" "Action is not explicitly registered"
  | some definition =>
    if isForbiddenAlias context.actionName then
      deny "FORBIDDEN_ACTION" "Action is permanently forbidden"
    else if context.actionName ≠ definition.name then
      deny "UNKNOWN_ACTION" "Action is not explicitly registered"
    else if context.agentName ∉ definition.allowedAgents then
      deny "AGENT_NOT_ALLOWED" "Agent is not allowed to propose action"
    else if containsNestedDanger context.arguments then
      deny "DANGEROUS_ARGUMENTS" "Action arguments contain a forbidden operation"
    else
      match definition.inputModel context.arguments with
      | none => deny "INVALID_ARGUMENTS" "Action arguments are invalid"
      | some arguments =>
        if !arguments.inScope context then
          deny "ACTION_SCOPE_MISMATCH" "Action scope does not match the active Agent run"
        else definition.decide context

/-- An action outside the registry is never allowed. -/
theorem evaluate_unregistered (context : PolicyEvaluationContext) :
    (evaluate context none).decision = .forbidden := by
  cases permanent : isForbiddenAlias context.actionName <;> simp [evaluate, permanent, deny]

example : isForbiddenAlias " Execute--SQL! " = true := by decide +kernel

end CyberLegends.Actions
