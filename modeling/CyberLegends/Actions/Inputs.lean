import CyberLegends.Actions.Policy
import CyberLegends.Core.Text

/-! The input models of the controlled actions. The policy looks for dangerous arguments in the raw
JSON, and the handler gets what the input model makes of it, with the white space stripped. The two
agree unless a text hides a link behind white space. -/

namespace CyberLegends.Actions

open CyberLegends.Core Lib Workflow

/-! ### Input models -/

/-- What a text field is when it is left out. -/
inductive FieldDefault
  | required
  | text (value : String)
  | nullable
  deriving DecidableEq, Repr

structure TextField where
  name : String
  minLength : Nat := 1
  maxLength : Nat
  default : FieldDefault := .required
  deriving DecidableEq, Repr

/-- The conversions of the validation that are not of texts, from whatever they accept. -/
structure Coercions where
  toUuid : Json → Option WorkflowId
  toInt : Json → Option Int

abbrev JsonObject := List (String × Json)

def TextField.admits (field : TextField) (value : String) : Bool :=
  field.minLength ≤ value.length ∧ value.length ≤ field.maxLength

/-- The validated value of a text field. -/
def TextField.validate (field : TextField) (arguments : JsonObject) : Option (Option String) :=
  match arguments.lookup field.name, field.default with
  | none, .required => none
  | none, .text value => some (some value)
  | none, .nullable | some .null, .nullable => some none
  | some (.string value), _ =>
    if field.admits (stripWhitespace value) then some (some (stripWhitespace value)) else none
  | some _, _ => none

def campaignIdField : TextField :=
  { name := "campaign_id", minLength := 3, maxLength := 100 }

/-- An input model: the scope that every action has, and its text fields. -/
structure ScopedActionInput where
  fields : List TextField
  -- at least one of the fields is to be there
  requireChange : Bool := false

/-- What the handler receives. -/
structure ValidatedInput where
  campaignId : String
  workflowId : WorkflowId
  revisionNumber : Nat
  texts : List (String × Option String)
  deriving DecidableEq, Repr

def scopeNames : List String := ["campaign_id", "workflow_id", "revision_number"]

namespace ScopedActionInput

variable (model : ScopedActionInput) (coercions : Coercions)

/-- The fields, each under its name. -/
def validateTexts (arguments : JsonObject) : Option (List (String × Option String)) :=
  model.fields.mapM fun field => (field.validate arguments).map fun value => (field.name, value)

def names : List String := scopeNames ++ model.fields.map TextField.name

def validate : Json → Option ValidatedInput
  | .dict arguments => do
    -- no other argument is allowed
    guard (arguments.all fun argument => argument.1 ∈ model.names)
    let campaignId ← (← campaignIdField.validate arguments)
    let workflowId ← (arguments.lookup "workflow_id").bind coercions.toUuid
    let revisionNumber ← (arguments.lookup "revision_number").bind coercions.toInt
    guard (0 ≤ revisionNumber)
    let texts ← model.validateTexts arguments
    guard (model.requireChange = false ∨ texts.any fun text => text.2.isSome)
    return { campaignId, workflowId, revisionNumber := revisionNumber.toNat, texts }
  | _ => none

end ScopedActionInput

/-! ### The rule on what the handler receives -/

namespace ValidatedInput

variable (input : ValidatedInput)

def scope : ScopedArguments where
  campaignId := some input.campaignId
  workflowId := some input.workflowId
  revisionNumber := some input.revisionNumber

/-- The keys of the validated input. -/
def keys : List String := scopeNames ++ input.texts.map Prod.fst

/-- The texts that stand in the validated input. -/
def strings : List String := input.campaignId :: input.texts.filterMap Prod.snd

/-- The rule on the validated input, whose workflow id and revision number are no texts. -/
def containsNestedDanger : Bool :=
  input.keys.any (fun key => canonicalActionName key ∈ dangerousArgumentKeys) ||
    input.strings.any fun value => Actions.containsNestedDanger (.string value)

end ValidatedInput

/-! ### The actions of a campaign -/

/-- An action as it is registered, with the input model that validates for it. -/
structure CampaignAction where
  name : String
  inputModel : ScopedActionInput
  defaultPolicy : PolicyDecision
  reversible : Bool := true
  allowedAgents : List AgentName
  requiredRole : Option UserRole := none
  allowedCampaignStatuses : List CampaignStatus
  allowedWorkflowStatuses : List CampaignStatus
  approvalTtl : Option ApprovalTtl := none

def CampaignAction.definition (action : CampaignAction) (coercions : Coercions) :
    ActionDefinition where
  name := action.name
  inputModel arguments := (action.inputModel.validate coercions arguments).map ValidatedInput.scope
  defaultPolicy := action.defaultPolicy
  reversible := action.reversible
  allowedAgents := action.allowedAgents
  requiredRole := action.requiredRole
  allowedCampaignStatuses := action.allowedCampaignStatuses
  allowedWorkflowStatuses := action.allowedWorkflowStatuses
  approvalTtl := action.approvalTtl

def allAgents : List AgentName := [.briefAnalyst, .contentGenerator, .contentReviewer]

def activeStates : List CampaignStatus :=
  [.analyzing, .generating, .reviewing, .manualReviewRequired, .pendingApproval,
    .revisionRequired]

def internalRecommendationInput : ScopedActionInput where
  fields := [{ name := "recommendation", maxLength := 2000 }]

def campaignSummaryInput : ScopedActionInput where
  fields := [{ name := "focus", maxLength := 500, default := .text "current campaign" }]

def revisionDraftInput : ScopedActionInput where
  fields :=
    [{ name := "feedback", maxLength := 3000 }, { name := "draft_instructions", maxLength := 3000 }]

def updateCampaignMetadataInput : ScopedActionInput where
  fields :=
    [{ name := "tone", maxLength := 500, default := .nullable },
      { name := "target_audience", maxLength := 300, default := .nullable },
      { name := "promotion", maxLength := 1000, default := .nullable }]
  requireChange := true

def regenerationInput : ScopedActionInput where
  fields := [{ name := "reason", maxLength := 2000 }]

def manualReviewNoteInput : ScopedActionInput where
  fields := [{ name := "note", maxLength := 3000 }]

def markManualReviewInput : ScopedActionInput where
  fields := [{ name := "reason", maxLength := 2000 }]

/-- The registered actions; `ttl` is the configured lifetime of an approval. -/
def defaultActions (ttl : ApprovalTtl) : List CampaignAction :=
  [{ name := "create_internal_recommendation"
     inputModel := internalRecommendationInput
     defaultPolicy := .safe
     allowedAgents := allAgents
     allowedCampaignStatuses := activeStates
     allowedWorkflowStatuses := activeStates },
    { name := "generate_internal_campaign_summary"
      inputModel := campaignSummaryInput
      defaultPolicy := .safe
      allowedAgents := allAgents
      allowedCampaignStatuses := activeStates
      allowedWorkflowStatuses := activeStates },
    { name := "prepare_revision_draft"
      inputModel := revisionDraftInput
      defaultPolicy := .safe
      allowedAgents := [.contentGenerator]
      allowedCampaignStatuses := [.revisionRequired, .generating]
      allowedWorkflowStatuses := [.revisionRequired, .generating] },
    { name := "update_campaign_metadata"
      inputModel := updateCampaignMetadataInput
      defaultPolicy := .approvalRequired
      allowedAgents := allAgents
      requiredRole := some .manager
      allowedCampaignStatuses := [.received, .needsClarification, .revisionRequired]
      allowedWorkflowStatuses := [.received, .needsClarification, .revisionRequired]
      approvalTtl := some ttl },
    { name := "request_campaign_regeneration"
      inputModel := regenerationInput
      defaultPolicy := .approvalRequired
      allowedAgents := [.contentReviewer]
      requiredRole := some .manager
      allowedCampaignStatuses := [.reviewing]
      allowedWorkflowStatuses := [.reviewing]
      approvalTtl := some ttl },
    { name := "add_manual_review_note"
      inputModel := manualReviewNoteInput
      defaultPolicy := .approvalRequired
      allowedAgents := [.contentReviewer]
      requiredRole := some .reviewer
      allowedCampaignStatuses := [.reviewing, .manualReviewRequired]
      allowedWorkflowStatuses := [.reviewing, .manualReviewRequired]
      approvalTtl := some ttl },
    { name := "mark_for_manual_review"
      inputModel := markManualReviewInput
      defaultPolicy := .approvalRequired
      allowedAgents := [.contentReviewer]
      requiredRole := some .reviewer
      allowedCampaignStatuses := [.reviewing]
      allowedWorkflowStatuses := [.reviewing]
      approvalTtl := some ttl }]

/-! ### Stripping a text -/

/-- The text begins with white space and goes on with a link. -/
def hidesLink (value : String) : Bool :=
  (value.toList.head?.any isWhiteSpace) &&
    isLink (String.ofList (value.toList.dropWhile isWhiteSpace))

theorem lower_append (a b : List Char) :
    lower (String.ofList (a ++ b)) = lower (String.ofList a) ++ lower (String.ofList b) := by
  simp only [lower, String.toList_ofList, List.flatMap_append]

/-- White space lies outside the letters and digits of ASCII. -/
theorem whiteSpace_outside {c : Char} (white : isWhiteSpace c = true) :
    ¬('A' ≤ c ∧ c ≤ 'Z') ∧ ¬('a' ≤ c ∧ c ≤ 'z') ∧ ¬('0' ≤ c ∧ c ≤ '9') := by
  simp only [isWhiteSpace, decide_eq_true_eq, Bool.decide_or, Bool.or_eq_true] at white
  simp only [Char.le_def, UInt32.le_iff_toNat_le, ← Char.val_inj, ← UInt32.toNat_inj] at *
  simp at *
  omega

theorem whiteSpace_canonical {c : Char} (white : isWhiteSpace c = true) :
    isCanonicalChar c = false := by
  obtain ⟨-, letter, digit⟩ := whiteSpace_outside white
  exact decide_eq_false (not_or.mpr ⟨letter, digit⟩)

/-- White space has no lower case but itself. -/
theorem lowerChar_whiteSpace {c : Char} (white : isWhiteSpace c = true) : lowerChar c = [c] := by
  unfold lowerChar
  rw [if_neg, if_neg]
  · have upper := (whiteSpace_outside white).1
    unfold Char.toLower
    rw [dif_neg]
    exact upper
  · rintro rfl
    exact absurd white (by decide)
  · rintro rfl
    exact absurd white (by decide)

theorem lower_whiteSpace {chars : List Char} (white : ∀ c ∈ chars, isWhiteSpace c = true) :
    lower (String.ofList chars) = chars := by
  simp only [lower, String.toList_ofList]
  induction chars with
  | nil => rfl
  | cons c cs ih =>
    obtain ⟨first, rest⟩ := List.forall_mem_cons.mp white
    rw [List.flatMap_cons, lowerChar_whiteSpace first, ih rest]
    rfl

/-! ### The names in a text -/

def isUnderscore (c : Char) : Bool := c = '_'

theorem stripUnderscores_eq (chars : List Char) :
    stripUnderscores chars = strip isUnderscore chars := rfl

/-- A run that goes on from before only differs in underscores at the front. -/
theorem joinRuns_inRun (inRun : Bool) (chars : List Char) :
    (joinRuns inRun chars).dropWhile isUnderscore =
      (joinRuns true chars).dropWhile isUnderscore := by
  cases chars with
  | nil => rfl
  | cons c cs =>
    by_cases canonical : isCanonicalChar c = true
    · simp only [joinRuns, if_pos canonical]
    · cases inRun with
      | true => rfl
      | false =>
        simp only [joinRuns, if_neg canonical, Bool.false_eq_true, if_true, if_false]
        rw [List.dropWhile_cons_of_pos (by decide)]

theorem joinRuns_front {chars rest : List Char} (others : ∀ c ∈ chars, isCanonicalChar c = false)
    (inRun : Bool) :
    (joinRuns inRun (chars ++ rest)).dropWhile isUnderscore =
      (joinRuns inRun rest).dropWhile isUnderscore := by
  rw [joinRuns_inRun inRun rest, joinRuns_inRun inRun (chars ++ rest)]
  induction chars with
  | nil => rfl
  | cons c cs ih =>
    obtain ⟨first, others⟩ := List.forall_mem_cons.mp others
    rw [← ih others, List.cons_append]
    simp only [joinRuns, first, Bool.false_eq_true, if_true, if_false]

theorem joinRuns_others {chars : List Char} (others : ∀ c ∈ chars, isCanonicalChar c = false)
    (inRun : Bool) : ∀ c ∈ joinRuns inRun chars, isUnderscore c = true := by
  induction chars generalizing inRun with
  | nil => exact fun c member => absurd member List.not_mem_nil
  | cons c cs ih =>
    obtain ⟨first, others⟩ := List.forall_mem_cons.mp others
    simp only [joinRuns, first, Bool.false_eq_true, if_false]
    cases inRun with
    | true => exact ih others true
    | false => exact List.forall_mem_cons.mpr ⟨rfl, ih others true⟩

theorem joinRuns_back {rest : List Char} (others : ∀ c ∈ rest, isCanonicalChar c = false)
    (chars : List Char) (inRun : Bool) :
    ∃ back, joinRuns inRun (chars ++ rest) = joinRuns inRun chars ++ back ∧
      ∀ c ∈ back, isUnderscore c = true := by
  induction chars generalizing inRun with
  | nil => exact ⟨joinRuns inRun rest, rfl, joinRuns_others others inRun⟩
  | cons c cs ih =>
    rw [List.cons_append]
    simp only [joinRuns]
    split
    · obtain ⟨back, same, underscores⟩ := ih false
      exact ⟨back, by rw [same, List.cons_append], underscores⟩
    · split
      · exact ih true
      · obtain ⟨back, same, underscores⟩ := ih true
        exact ⟨back, by rw [same, List.cons_append], underscores⟩

/-- The canonical name of a text does not depend on the white space around it. -/
theorem canonicalActionName_strip (value : String) :
    canonicalActionName (stripWhitespace value) = canonicalActionName value := by
  obtain ⟨front, back, split, fronts, backs, -⟩ := strip_split isWhiteSpace value.toList
  have lowered : lower value = front ++ (lower (stripWhitespace value) ++ back) := by
    calc lower value = lower (String.ofList (front ++ (strip isWhiteSpace value.toList ++ back))) := by
          rw [← split, String.ofList_toList]
      _ = front ++ (lower (stripWhitespace value) ++ back) := by
          rw [lower_append, lower_append, lower_whiteSpace fronts, lower_whiteSpace backs]
          rfl
  obtain ⟨tail, joined, underscores⟩ := joinRuns_back
    (fun c member => whiteSpace_canonical (backs c member)) (lower (stripWhitespace value)) false
  have runs : strip isUnderscore (joinRuns false (lower value)) =
      strip isUnderscore (joinRuns false (lower (stripWhitespace value))) := by
    calc strip isUnderscore (joinRuns false (lower value))
        = strip isUnderscore (joinRuns false (lower (stripWhitespace value) ++ back)) := by
          unfold strip
          rw [lowered, joinRuns_front fun c member => whiteSpace_canonical (fronts c member)]
      _ = strip isUnderscore (joinRuns false (lower (stripWhitespace value))) := by
          rw [joined, strip_append_back underscores]
  unfold canonicalActionName
  rw [stripUnderscores_eq, stripUnderscores_eq, runs]

theorem isForbiddenAlias_strip (value : String) :
    isForbiddenAlias (stripWhitespace value) = isForbiddenAlias value := by
  unfold isForbiddenAlias
  rw [canonicalActionName_strip]

/-! ### The links in a text -/

/-- White space at the end of a text does not make a link of it, nor unmake it. -/
theorem isLink_append {chars back : List Char} (backs : ∀ c ∈ back, isWhiteSpace c = true) :
    isLink (String.ofList (chars ++ back)) = isLink (String.ofList chars) := by
  have one : ∀ word : String, (∀ c ∈ word.toList.getLast?, isWhiteSpace c = false) →
      word.toList.isPrefixOf (lower (String.ofList (chars ++ back))) =
        word.toList.isPrefixOf (lower (String.ofList chars)) := by
    intro word last
    rw [lower_append, lower_whiteSpace backs, Bool.eq_iff_iff, List.isPrefixOf_iff_prefix,
      List.isPrefixOf_iff_prefix]
    exact ⟨fun begins => prefix_before begins backs last, fun begins =>
      begins.trans (List.prefix_append _ _)⟩
  unfold isLink
  rw [one "http://" (by simp [isWhiteSpace]), one "https://" (by simp [isWhiteSpace])]

/-- A link does not begin with white space. -/
theorem isLink_whiteSpace {c : Char} {chars : List Char} (white : isWhiteSpace c = true) :
    isLink (String.ofList (c :: chars)) = false := by
  have first : lower (String.ofList (c :: chars)) = c :: lower (String.ofList chars) := by
    rw [← List.singleton_append, lower_append, lower_whiteSpace fun d member =>
      List.mem_singleton.mp member ▸ white]
    rfl
  have other : ('h' == c) = false := by
    rw [beq_eq_false_iff_ne]
    rintro rfl
    exact absurd white (by decide)
  have never : ∀ word, List.isPrefixOf ('h' :: word) (lower (String.ofList (c :: chars))) = false := by
    intro word
    rw [first, List.isPrefixOf_cons_cons, other, Bool.false_and]
  have http : "http://".toList = 'h' :: "ttp://".toList := by decide
  have https : "https://".toList = 'h' :: "ttps://".toList := by decide
  unfold isLink
  rw [http, https, never, never]
  rfl

/-- A text is a link once it is stripped when it is one, or hides one. -/
theorem isLink_strip (value : String) :
    isLink (stripWhitespace value) = (isLink value || hidesLink value) := by
  obtain ⟨front, back, -, -, backs, dropped⟩ := strip_split isWhiteSpace value.toList
  have stripped : isLink (stripWhitespace value) =
      isLink (String.ofList (value.toList.dropWhile isWhiteSpace)) := by
    rw [dropped, isLink_append backs]
    rfl
  rw [stripped]
  unfold hidesLink
  cases chars : value.toList with
  | nil =>
    have empty : value = String.ofList [] := by rw [← chars, String.ofList_toList]
    rw [empty]
    rfl
  | cons c cs =>
    have same : value = String.ofList (c :: cs) := by rw [← chars, String.ofList_toList]
    by_cases white : isWhiteSpace c = true
    · rw [same, isLink_whiteSpace white]
      simp only [List.head?_cons, Option.any_some, white, Bool.true_and, Bool.false_or]
    · rw [List.dropWhile_cons_of_neg white, same]
      simp only [List.head?_cons, Option.any_some, (Bool.not_eq_true _).mp white, Bool.false_and,
        Bool.or_false]

/-! ### What the policy has admitted -/

/-- A definition that the policy does not refuse has validated arguments without danger. -/
theorem evaluate_admits {context : PolicyEvaluationContext} {definition : ActionDefinition}
    (admitted : (evaluate context (some definition)).decision ≠ .forbidden) :
    containsNestedDanger context.arguments = false ∧
      ∃ scope, definition.inputModel context.arguments = some scope := by
  unfold evaluate at admitted
  dsimp only at admitted
  split at admitted
  · exact absurd rfl admitted
  · split at admitted
    · exact absurd rfl admitted
    · split at admitted
      · exact absurd rfl admitted
      · split at admitted
        · exact absurd rfl admitted
        · rename_i safe
          split at admitted
          · exact absurd rfl admitted
          · rename_i scope validated
            exact ⟨(Bool.not_eq_true _).mp safe, scope, validated⟩

/-- No entry of an object without danger is dangerous. -/
theorem entries_safe {arguments : JsonObject} {key : String} {value : String}
    (safe : entriesDangerous arguments = false)
    (found : arguments.lookup key = some (.string value)) :
    isForbiddenAlias value = false ∧ isLink value = false := by
  induction arguments with
  | nil => cases found
  | cons entry entries ih =>
    obtain ⟨name, item⟩ := entry
    simp only [entriesDangerous, Bool.or_eq_false_iff] at safe
    obtain ⟨⟨-, item_safe⟩, rest_safe⟩ := safe
    rw [List.lookup_cons] at found
    split at found
    · cases found
      simpa only [containsNestedDanger, Bool.or_eq_false_iff] using item_safe
    · exact ih rest_safe found

/-! ### What the handler receives -/

/-- The argument of the field hides a link. -/
def TextField.hidesLink (field : TextField) (arguments : JsonObject) : Bool :=
  match arguments.lookup field.name with
  | some (.string value) => Actions.hidesLink value
  | _ => false

/-- A text argument of the action hides a link. -/
def ScopedActionInput.hidesLink (model : ScopedActionInput) : Json → Bool
  | .dict arguments => (campaignIdField :: model.fields).any fun field => field.hidesLink arguments
  | _ => false

/-- The rule passes on the default of the field. -/
def TextField.defaultSafe (field : TextField) : Bool :=
  match field.default with
  | .text value => !containsNestedDanger (.string value)
  | .required | .nullable => true

/-- The rule passes on what the input model adds by itself: its names and its defaults. -/
def ScopedActionInput.safe (model : ScopedActionInput) : Bool :=
  model.names.all (fun name => canonicalActionName name ∉ dangerousArgumentKeys) &&
    model.fields.all TextField.defaultSafe

theorem text_danger (value : String) : containsNestedDanger (.string value) =
    (isForbiddenAlias value || isLink value) := by
  simp only [containsNestedDanger]

theorem field_danger {field : TextField} {arguments : JsonObject} {text : Option String}
    (safe : entriesDangerous arguments = false) (default : field.defaultSafe = true)
    (validated : field.validate arguments = some text) :
    (text.any fun value => containsNestedDanger (.string value)) = field.hidesLink arguments := by
  unfold TextField.validate at validated
  unfold TextField.hidesLink
  split at validated
  · cases validated
  · rename_i value absent isDefault
    cases validated
    rw [absent]
    unfold TextField.defaultSafe at default
    rw [isDefault] at default
    simpa using default
  · rename_i absent _
    cases validated
    rw [absent]
    rfl
  · rename_i found _
    cases validated
    rw [found]
    rfl
  · rename_i value found
    split at validated
    · cases validated
      obtain ⟨forbidden, link⟩ := entries_safe safe found
      rw [found, Option.any_some, text_danger, isForbiddenAlias_strip, isLink_strip, forbidden, link, Bool.false_or, Bool.false_or]
    · cases validated
  · cases validated

theorem texts_danger {fields : List TextField} {arguments : JsonObject}
    {texts : List (String × Option String)} (safe : entriesDangerous arguments = false)
    (defaults : fields.all TextField.defaultSafe = true)
    (validated : (fields.mapM fun field =>
      (field.validate arguments).map fun value => (field.name, value)) = some texts) :
    texts.map Prod.fst = fields.map TextField.name ∧
      ((texts.filterMap Prod.snd).any fun value => containsNestedDanger (.string value)) =
        fields.any fun field => field.hidesLink arguments := by
  induction fields generalizing texts with
  | nil =>
    cases validated
    exact ⟨rfl, rfl⟩
  | cons field fields ih =>
    rw [List.all_cons, Bool.and_eq_true] at defaults
    rw [List.mapM_cons] at validated
    obtain ⟨entry, named, validated⟩ := Option.bind_eq_some_iff.mp validated
    obtain ⟨rest, others, validated⟩ := Option.bind_eq_some_iff.mp validated
    obtain ⟨text, first, rfl⟩ := Option.map_eq_some_iff.mp named
    cases validated
    obtain ⟨names, danger⟩ := ih defaults.2 others
    have own := field_danger safe defaults.1 first
    refine ⟨by rw [List.map_cons, List.map_cons, names], ?_⟩
    rw [List.any_cons, ← danger, ← own]
    cases text with
    | none => rfl
    | some value => rw [List.filterMap_cons, List.any_cons, Option.any_some]

/-- The rule on what the handler receives, by what the raw arguments hide. -/
theorem validated_danger {model : ScopedActionInput} {coercions : Coercions} {arguments : Json}
    {input : ValidatedInput} (model_safe : model.safe = true)
    (safe : containsNestedDanger arguments = false)
    (validated : model.validate coercions arguments = some input) :
    input.containsNestedDanger = model.hidesLink arguments := by
  cases arguments with
  | dict arguments =>
    unfold ScopedActionInput.validate at validated
    obtain ⟨-, -, validated⟩ := Option.bind_eq_some_iff.mp validated
    obtain ⟨campaign, campaign_validated, validated⟩ := Option.bind_eq_some_iff.mp validated
    obtain ⟨campaignId, isText, validated⟩ := Option.bind_eq_some_iff.mp validated
    obtain ⟨workflowId, -, validated⟩ := Option.bind_eq_some_iff.mp validated
    obtain ⟨revisionNumber, -, validated⟩ := Option.bind_eq_some_iff.mp validated
    obtain ⟨-, -, validated⟩ := Option.bind_eq_some_iff.mp validated
    obtain ⟨texts, texts_validated, validated⟩ := Option.bind_eq_some_iff.mp validated
    obtain ⟨-, -, validated⟩ := Option.bind_eq_some_iff.mp validated
    cases validated
    subst isText
    obtain ⟨names, defaults⟩ := Bool.and_eq_true_iff.mp model_safe
    obtain ⟨keys, danger⟩ := texts_danger safe defaults texts_validated
    have own := field_danger safe rfl campaign_validated
    have plain : ((scopeNames ++ model.fields.map TextField.name).any fun key =>
        decide (canonicalActionName key ∈ dangerousArgumentKeys)) = false := by
      refine List.any_eq_false.mpr fun key member => ?_
      exact decide_eq_true_iff.not.mpr (of_decide_eq_true (List.all_eq_true.mp names key member))
    unfold ValidatedInput.containsNestedDanger ValidatedInput.keys ValidatedInput.strings
    have hides : model.hidesLink (.dict arguments) =
        (campaignIdField :: model.fields).any fun field => field.hidesLink arguments := rfl
    rw [hides, keys, List.any_cons, List.any_cons, danger, ← own, Option.any_some, plain]
    rw [Bool.false_or]
  | null | bool | int | float | string | list => cases validated

theorem defaultActions_safe (ttl : ApprovalTtl) :
    ∀ action ∈ defaultActions ttl, action.inputModel.safe = true := by
  unfold defaultActions
  simp only [List.forall_mem_cons, List.not_mem_nil, false_implies, implies_true, and_true]
  decide +kernel

/-- The handler of an action that the policy does not refuse gets an input on which the rule passes
if and only if no text argument hides a link. -/
theorem handler_input_safe_iff (ttl : ApprovalTtl) (coercions : Coercions)
    (context : PolicyEvaluationContext) (action : CampaignAction)
    (registered : action ∈ defaultActions ttl)
    (admitted : (evaluate context (some (action.definition coercions))).decision ≠ .forbidden) :
    ∃ input, action.inputModel.validate coercions context.arguments = some input ∧
      (input.containsNestedDanger = false ↔
        action.inputModel.hidesLink context.arguments = false) := by
  obtain ⟨safe, scope, validated⟩ := evaluate_admits admitted
  obtain ⟨input, validated, -⟩ := Option.map_eq_some_iff.mp validated
  refine ⟨input, validated, ?_⟩
  rw [validated_danger (defaultActions_safe ttl action registered) safe validated]

/-! ### Inputs -/

/-- Conversions that take a number for an id and for a revision. -/
def plainCoercions : Coercions where
  toUuid | .int id => some id.toNat | _ => none
  toInt | .int value => some value | _ => none

def ordinaryTtl : ApprovalTtl := ⟨3600, SettingValues.inRange_default.actionApprovalTtlSeconds⟩

def recommendation : CampaignAction where
  name := "create_internal_recommendation"
  inputModel := internalRecommendationInput
  defaultPolicy := .safe
  allowedAgents := allAgents
  allowedCampaignStatuses := activeStates
  allowedWorkflowStatuses := activeStates

/-- A recommendation on a campaign that is analyzed. -/
def recommendationContext (text : String) : PolicyEvaluationContext where
  agentRunId := 1
  workflowId := 2
  campaignId := "spring-launch"
  agentName := .briefAnalyst
  actionName := "create_internal_recommendation"
  arguments := .dict
    [("campaign_id", .string "spring-launch"), ("workflow_id", .int 2), ("revision_number", .int 0),
      ("recommendation", .string text)]
  campaignStatus := .analyzing
  workflowStatus := .analyzing
  revisionNumber := 0
  previousActionCount := 0

theorem plain_recommendation_safe :
    ∃ input, recommendation.inputModel.validate plainCoercions
        (recommendationContext " Shorten the headline ").arguments = some input ∧
      (input.containsNestedDanger = false ↔ recommendation.inputModel.hidesLink
        (recommendationContext " Shorten the headline ").arguments = false) :=
  handler_input_safe_iff ordinaryTtl plainCoercions _ recommendation List.mem_cons_self
    (by decide +kernel)

/-- A link behind a blank passes the policy and reaches the handler. -/
theorem hidden_link_reaches_handler :
    ¬∀ (ttl : ApprovalTtl) (coercions : Coercions) (context : PolicyEvaluationContext),
      ∀ action ∈ defaultActions ttl,
        (evaluate context (some (action.definition coercions))).decision ≠ .forbidden →
          ∀ input, action.inputModel.validate coercions context.arguments = some input →
            input.containsNestedDanger = false := by
  intro agree
  have safe := agree ordinaryTtl plainCoercions (recommendationContext " http://evil.example")
    recommendation List.mem_cons_self (by decide +kernel)
    { campaignId := "spring-launch", workflowId := 2, revisionNumber := 0
      texts := [("recommendation", some "http://evil.example")] } (by decide +kernel)
  exact absurd safe (by decide +kernel)

end CyberLegends.Actions
