import CyberLegends.Agents.Clipping

/-! The contexts of the agents that write and review the content of a campaign. What is persisted
passes through the sanitizer on its way into them. -/

namespace CyberLegends.Agents

open CyberLegends.Core Lib Actions

inductive Platform
  | facebook
  | tiktok
  | discord
  deriving DecidableEq

structure CampaignCreate where
  gameName : RequiredText 200
  genre : RequiredText 100
  targetAudience : RequiredText 300
  market : RequiredText 100
  platforms : BoundedList Platform 1 3
  campaignObjective : RequiredText 1000
  tone : RequiredText 500
  -- the day, counted from some first one
  launchDate : Int
  promotion : RequiredText 1000
  rawBrief : Option (RequiredText 20000)
  deriving DecidableEq

structure CampaignRecord where
  campaign : CampaignCreate
  analysis : Option BriefAnalysis
  generatedContent : Option GeneratedContent
  qualityReview : Option QualityReview
  deriving DecidableEq

structure WorkflowRun where
  campaignId : String
  workflowId : Nat
  revisionNumber : Nat
  status : CampaignStatus
  retryCount : Nat
  parentWorkflowId : Option Nat
  deriving DecidableEq

/-- The campaigns and the workflows, as their services read them. -/
structure Records where
  getCampaign : String → Option CampaignRecord
  getWorkflow : Nat → Option WorkflowRun

inductive ContextError
  | campaignNotFound
  | workflowNotFound
  | agentContext (message : String)
  | validation
  deriving DecidableEq

structure CampaignContext where
  campaignId : String
  workflowId : Nat
  revisionNumber : Nat
  currentWorkflowStatus : CampaignStatus
  retryCount : Nat
  parentWorkflowId : Option Nat
  deriving DecidableEq

structure ContentGenerationContext extends CampaignContext where
  gameName : String
  targetAudience : String
  market : String
  platforms : List Platform
  campaignObjective : String
  tone : String
  launchDate : Int
  promotion : String
  rawBrief : Option String
  briefAnalysis : BriefAnalysis
  priorGeneratedContent : Option GeneratedContent
  priorQualityReview : Option QualityReview
  deriving DecidableEq

structure ContentReviewContext extends CampaignContext where
  campaignObjective : String
  platforms : List Platform
  tone : String
  briefAnalysis : BriefAnalysis
  generatedContent : GeneratedContent
  priorQualityReview : Option QualityReview
  deriving DecidableEq

/-! ### The builder -/

def workflowFields (workflow : WorkflowRun) : CampaignContext where
  campaignId := workflow.campaignId
  workflowId := workflow.workflowId
  revisionNumber := workflow.revisionNumber
  currentWorkflowStatus := workflow.status
  retryCount := workflow.retryCount
  parentWorkflowId := workflow.parentWorkflowId

def loadPair (records : Records) (campaignId : String) (workflowId : Nat) :
    Except ContextError (CampaignRecord × WorkflowRun) :=
  match records.getCampaign campaignId, records.getWorkflow workflowId with
  | none, _ => .error .campaignNotFound
  | some _, none => .error .workflowNotFound
  | some campaign, some workflow =>
    if workflow.campaignId ≠ campaignId then
      .error (.agentContext "Workflow does not belong to campaign")
    else .ok (campaign, workflow)

def safeModel {α : Type} (schema : Schema α) (value : α) : Except ContextError α :=
  match schema.modelValidate (sanitizeJson maxStringCharacters (schema.modelDump value)) with
  | some safe => .ok safe
  | none => .error .validation

def safeOptionalModel {α : Type} (schema : Schema α) : Option α → Except ContextError (Option α)
  | some value => (safeModel schema value).map some
  | none => .ok none

def optionalText (limit : Nat) (value : Option (RequiredText 20000)) : Option String :=
  value.map fun value => sanitizeText limit value.value

def buildContentGenerationContext (records : Records) (campaignId : String) (workflowId : Nat) :
    Except ContextError ContentGenerationContext := do
  let (campaign, workflow) ← loadPair records campaignId workflowId
  match campaign.analysis with
  | none => .error (.agentContext "Content generation requires brief analysis")
  | some analysis => do
    let briefAnalysis ← safeModel BriefAnalysis.schema analysis
    let priorGeneratedContent ← safeOptionalModel GeneratedContent.schema campaign.generatedContent
    let priorQualityReview ← safeOptionalModel QualityReview.schema campaign.qualityReview
    return { workflowFields workflow with
      gameName := sanitizeText 200 campaign.campaign.gameName.value
      targetAudience := sanitizeText 300 campaign.campaign.targetAudience.value
      market := sanitizeText 100 campaign.campaign.market.value
      platforms := campaign.campaign.platforms.items
      campaignObjective := sanitizeText 1000 campaign.campaign.campaignObjective.value
      tone := sanitizeText 500 campaign.campaign.tone.value
      launchDate := campaign.campaign.launchDate
      promotion := sanitizeText 1000 campaign.campaign.promotion.value
      rawBrief := optionalText 20000 campaign.campaign.rawBrief
      briefAnalysis := briefAnalysis
      priorGeneratedContent := priorGeneratedContent
      priorQualityReview := priorQualityReview }

def buildContentReviewContext (records : Records) (campaignId : String) (workflowId : Nat) :
    Except ContextError ContentReviewContext := do
  let (campaign, workflow) ← loadPair records campaignId workflowId
  match campaign.analysis, campaign.generatedContent with
  | some analysis, some content => do
    let briefAnalysis ← safeModel BriefAnalysis.schema analysis
    let generatedContent ← safeModel GeneratedContent.schema content
    let priorQualityReview ← safeOptionalModel QualityReview.schema campaign.qualityReview
    return { workflowFields workflow with
      campaignObjective := sanitizeText 1000 campaign.campaign.campaignObjective.value
      platforms := campaign.campaign.platforms.items
      tone := sanitizeText 500 campaign.campaign.tone.value
      briefAnalysis := briefAnalysis
      generatedContent := generatedContent
      priorQualityReview := priorQualityReview }
  | _, _ => .error (.agentContext "Content review requires analysis and generated content")

/-! ### What the builder keeps -/

section

variable {records : Records} {campaignId : String} {workflowId : Nat} {campaign : CampaignRecord}
  {workflow : WorkflowRun} {analysis : BriefAnalysis}

theorem safeModel_survives {α : Type} {schema : Schema α} {clip : α → α} {value : α}
    (survives : Survives schema clip) (clean : ∀ text ∈ schema.texts value, Unsecret text.toList) :
    safeModel schema value = .ok (clip value) := by
  unfold safeModel
  rw [survives.validated value clean]

theorem safeOptionalModel_survives {α : Type} {schema : Schema α} {clip : α → α}
    {value : Option α} (survives : Survives schema clip)
    (clean : ∀ text ∈ schema.nullable.texts value, Unsecret text.toList) :
    safeOptionalModel schema value = .ok (value.map clip) := by
  cases value with
  | none => rfl
  | some value =>
    rw [Survives.texts_some] at clean
    show (safeModel schema value).map some = _
    rw [safeModel_survives survives clean]
    rfl

theorem safeReview (review : Option QualityReview) :
    ∃ safe, safeOptionalModel QualityReview.schema review = .ok safe := by
  cases review with
  | none => exact ⟨none, rfl⟩
  | some review =>
    obtain ⟨safe, validated⟩ := review.validated
    refine ⟨some safe, ?_⟩
    show (safeModel QualityReview.schema review).map some = _
    unfold safeModel
    rw [validated]
    rfl

theorem loadPair_ok (there : records.getCampaign campaignId = some campaign)
    (started : records.getWorkflow workflowId = some workflow)
    (pair : workflow.campaignId = campaignId) :
    loadPair records campaignId workflowId = .ok (campaign, workflow) := by
  unfold loadPair
  rw [there, started]
  exact if_neg (not_not.mpr pair)

/-- The review context of a campaign without secrets has its analysis and its content clipped. -/
theorem review_clipped {content : GeneratedContent}
    (loaded : loadPair records campaignId workflowId = .ok (campaign, workflow))
    (analysed : campaign.analysis = some analysis)
    (generated : campaign.generatedContent = some content)
    (clean : ∀ text ∈ BriefAnalysis.schema.texts analysis, Unsecret text.toList)
    (cleanContent : ∀ text ∈ GeneratedContent.schema.texts content, Unsecret text.toList) :
    ∃ context, buildContentReviewContext records campaignId workflowId = .ok context ∧
      context.briefAnalysis = analysis.clip ∧ context.generatedContent = content.clip := by
  obtain ⟨review, safe⟩ := safeReview campaign.qualityReview
  unfold buildContentReviewContext
  rw [loaded]
  simp only [bind, Except.bind, analysed, generated,
    safeModel_survives BriefAnalysis.survives clean,
    safeModel_survives GeneratedContent.survives cleanContent, safe]
  exact ⟨_, rfl, rfl, rfl⟩

theorem generation_clipped
    (loaded : loadPair records campaignId workflowId = .ok (campaign, workflow))
    (analysed : campaign.analysis = some analysis)
    (clean : ∀ text ∈ BriefAnalysis.schema.texts analysis, Unsecret text.toList)
    (cleanContent : ∀ text ∈ GeneratedContent.schema.nullable.texts campaign.generatedContent,
      Unsecret text.toList) :
    ∃ context, buildContentGenerationContext records campaignId workflowId = .ok context ∧
      context.briefAnalysis = analysis.clip ∧
      context.priorGeneratedContent = campaign.generatedContent.map GeneratedContent.clip := by
  obtain ⟨review, safe⟩ := safeReview campaign.qualityReview
  unfold buildContentGenerationContext
  rw [loaded]
  simp only [bind, Except.bind, analysed, safeModel_survives BriefAnalysis.survives clean,
    safeOptionalModel_survives GeneratedContent.survives cleanContent, safe]
  exact ⟨_, rfl, rfl, rfl⟩

end

/-! ### What the reviewer sees -/

/-- The texts of the analysis and of the content that are persisted for a campaign. -/
def CampaignRecord.texts (campaign : CampaignRecord) : List String :=
  BriefAnalysis.schema.nullable.texts campaign.analysis ++
    GeneratedContent.schema.nullable.texts campaign.generatedContent

/-- The analysis and the content in the contexts are the ones that are persisted. -/
structure ContextsKeep (records : Records) (campaignId : String) (workflowId : Nat)
    (campaign : CampaignRecord) : Prop where
  generation : ∃ context, buildContentGenerationContext records campaignId workflowId = .ok context ∧
    campaign.analysis = some context.briefAnalysis ∧
    campaign.generatedContent = context.priorGeneratedContent
  review : campaign.generatedContent.isSome = true →
    ∃ context, buildContentReviewContext records campaignId workflowId = .ok context ∧
      campaign.analysis = some context.briefAnalysis ∧
      campaign.generatedContent = some context.generatedContent

/-- The contexts keep an analysis and a content without secrets if and only if none of their texts
is beyond the limit of the sanitizer. -/
theorem contexts_keep_iff (records : Records) (campaignId : String) (workflowId : Nat)
    (campaign : CampaignRecord) (workflow : WorkflowRun)
    (there : records.getCampaign campaignId = some campaign)
    (started : records.getWorkflow workflowId = some workflow)
    (pair : workflow.campaignId = campaignId) (analysed : campaign.analysis.isSome = true)
    (clean : ∀ text ∈ campaign.texts, Unsecret text.toList) :
    ContextsKeep records campaignId workflowId campaign ↔
      ∀ text ∈ campaign.texts, text.length ≤ maxStringCharacters := by
  have loaded := loadPair_ok there started pair
  obtain ⟨analysis, found⟩ := Option.isSome_iff_exists.mp analysed
  have content_same := (GeneratedContent.survives.nullable fun _ => nofun).same
    campaign.generatedContent
  unfold CampaignRecord.texts at clean ⊢
  rw [found, Survives.texts_some] at clean ⊢
  rw [List.forall_mem_append] at clean ⊢
  rw [← BriefAnalysis.survives.same, ← content_same]
  obtain ⟨cleanAnalysis, cleanContent⟩ := clean
  obtain ⟨generation, built, generationAnalysis, generationContent⟩ :=
    generation_clipped loaded found cleanAnalysis cleanContent
  constructor
  · intro keep
    obtain ⟨context, built', sameAnalysis, sameContent⟩ := keep.generation
    rw [built] at built'
    cases built'
    rw [found, generationAnalysis] at sameAnalysis
    rw [generationContent] at sameContent
    exact ⟨(Option.some.inj sameAnalysis).symm, sameContent.symm⟩
  · rintro ⟨sameAnalysis, sameContent⟩
    refine ⟨⟨generation, built, ?_, ?_⟩, fun generated => ?_⟩
    · rw [found, generationAnalysis, sameAnalysis]
    · rw [generationContent, sameContent]
    · obtain ⟨content, present⟩ := Option.isSome_iff_exists.mp generated
      rw [present, Survives.texts_some] at cleanContent
      rw [present, Option.map_some, Option.some_inj] at sameContent
      obtain ⟨review, built, reviewAnalysis, reviewContent⟩ :=
        review_clipped loaded found present cleanAnalysis cleanContent
      refine ⟨review, built, ?_, ?_⟩
      · rw [found, reviewAnalysis, sameAnalysis]
      · rw [present, reviewContent, sameContent]

/-! ### A text beyond the limit -/

/-- A text of one letter only. -/
def longText (length : Nat) : String := String.ofList (List.replicate length 'x')

theorem strip_longText (length : Nat) : stripWhitespace (longText length) = longText length := by
  apply String.toList_injective
  rw [toList_stripWhitespace, longText, String.toList_ofList]
  refine strip_eq_self fun c there => ?_
  rw [List.eq_of_mem_replicate there]
  rfl

theorem length_longText (length : Nat) : (longText length).length = length := by
  rw [← String.length_toList, longText, String.toList_ofList, List.length_replicate]

theorem unsecret_longText (length : Nat) : Unsecret (longText length).toList := by
  rw [longText, String.toList_ofList]
  refine unsecret_replicate (fun pattern member => ?_) length
  simp only [secretPatterns, List.mem_cons, List.not_mem_nil, or_false] at member
  rcases member with rfl | rfl | rfl <;> exact ⟨rfl, fun _ => rfl⟩

/-- The text of a field that is to have a character. -/
def textOf (length limit : Nat) (least : 0 < length) (most : length ≤ limit) : RequiredText limit where
  value := longText length
  stripped := strip_longText length
  least _ empty := by
    have zero := length_longText length
    rw [empty] at zero
    exact least.ne zero
  most bound is := by
    cases is
    rwa [length_longText]

def x (limit : Nat) (most : 1 ≤ limit) : RequiredText limit := textOf 1 limit Nat.one_pos most

def plainAnalysis : BriefAnalysis :=
  { summary := x 3000 (by decide), campaignObjective := x 1000 (by decide),
    targetAudience := x 1000 (by decide), mainMessage := x 2000 (by decide), keyBenefits := [],
    contentRequirements := [], missingInformation := [], riskFlags := [] }

theorem noHashtags_least : 0 ≤ ([] : List ItemText).length := by decide
theorem noHashtags_most : ([] : List ItemText).length ≤ 20 := by decide

/-- A post on a Facebook page. -/
def facebookPost (content : RequiredText 5000) : GeneratedContent where
  facebook := some
    { headline := x 200 (by decide), content := content, cta := x 500 (by decide),
      hashtags := ⟨[], noHashtags_least, noHashtags_most⟩ }
  tiktok := none
  discord := none

/-- A campaign for Facebook only. -/
def facebookCampaign (content : RequiredText 5000) : CampaignRecord where
  campaign :=
    { gameName := x 200 (by decide), genre := x 100 (by decide), targetAudience := x 300 (by decide),
      market := x 100 (by decide), platforms := ⟨[.facebook], by decide, by decide⟩,
      campaignObjective := x 1000 (by decide), tone := x 500 (by decide), launchDate := 0,
      promotion := x 1000 (by decide), rawBrief := none }
  analysis := some plainAnalysis
  generatedContent := some (facebookPost content)
  qualityReview := none

def reviewingRun : WorkflowRun where
  campaignId := "campaign"
  workflowId := 0
  revisionNumber := 0
  status := .reviewing
  retryCount := 0
  parentWorkflowId := none

def facebookRecords (content : RequiredText 5000) : Records where
  getCampaign _ := some (facebookCampaign content)
  getWorkflow _ := some reviewingRun

theorem facebookCampaign_texts (content : RequiredText 5000) (text : String)
    (member : text ∈ (facebookCampaign content).texts) : text = longText 1 ∨ text = content.value := by
  have known : (facebookCampaign content).texts =
      [longText 1, longText 1, longText 1, longText 1, longText 1, content.value, longText 1] := rfl
  rw [known] at member
  simp only [List.mem_cons, List.not_mem_nil, or_false] at member
  tauto

theorem facebookCampaign_clean {length : Nat} (least : 0 < length) (most : length ≤ 5000) :
    ∀ text ∈ (facebookCampaign (textOf length 5000 least most)).texts, Unsecret text.toList := by
  intro text member
  rcases facebookCampaign_texts _ text member with rfl | rfl
  · exact unsecret_longText 1
  · exact unsecret_longText length

/-- Nothing is lost of a post of 2000 characters. -/
theorem contexts_keep_short : ContextsKeep
    (facebookRecords (textOf 2000 5000 (by decide) (by decide))) "campaign" 0
    (facebookCampaign (textOf 2000 5000 (by decide) (by decide))) := by
  refine (contexts_keep_iff _ _ _ _ reviewingRun rfl rfl rfl rfl (facebookCampaign_clean _ _)).mpr ?_
  intro text member
  rcases facebookCampaign_texts _ text member with rfl | rfl
  · rw [length_longText]
    decide
  · exact (length_longText 2000).le

/-- The reviewer does not see the end of a post of 2001 characters, which the schema admits and
which has no secret. -/
theorem reviewer_misses_the_end : ¬ ∀ (records : Records) (campaignId : String) (workflowId : Nat)
    (campaign : CampaignRecord) (workflow : WorkflowRun),
    records.getCampaign campaignId = some campaign →
    records.getWorkflow workflowId = some workflow → workflow.campaignId = campaignId →
    campaign.analysis.isSome = true → (∀ text ∈ campaign.texts, Unsecret text.toList) →
    ContextsKeep records campaignId workflowId campaign := by
  intro always
  have clean := @facebookCampaign_clean 2001 (by decide) (by decide)
  generalize post : textOf 2001 5000 (by decide) (by decide) = content at clean
  have keep := always (facebookRecords content) "campaign" 0 _ reviewingRun rfl rfl rfl rfl clean
  obtain ⟨cleanAnalysis, cleanContent⟩ := List.forall_mem_append.mp clean
  obtain ⟨context, built, -, clipped⟩ :=
    @review_clipped (facebookRecords content) "campaign" 0 (facebookCampaign content) reviewingRun
      plainAnalysis (facebookPost content) rfl rfl rfl cleanAnalysis cleanContent
  obtain ⟨context', built', -, sees⟩ := keep.review rfl
  rw [built] at built'
  cases built'
  have same : (facebookPost content).clip = facebookPost content :=
    clipped.symm.trans (Option.some.inj sees).symm
  have there : content.value ∈ GeneratedContent.schema.texts (facebookPost content) :=
    List.mem_cons_of_mem _ List.mem_cons_self
  have short := (GeneratedContent.survives.same _).mp same _ there
  rw [← post] at short
  exact absurd ((length_longText 2001).symm.trans_le short) (by decide)

end CyberLegends.Agents
