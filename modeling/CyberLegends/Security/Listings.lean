import CyberLegends.Security.ResourceAccess

/-! The endpoints that list campaigns, workflows, media assets and applied tasks. Each builds its own
filter from the role of the actor; what it lets through can also be read one by one. -/

namespace CyberLegends.Security

open CyberLegends.Core Lib Actions

/-! ### Pages -/

def boundedLimit (limit : Int) : Nat := (min (max limit 1) 100).toNat

def boundedOffset (offset : Int) : Nat := (max offset 0).toNat

/-- The newest first, and those of one time in some order of their keys. -/
def newestFirst {κ ρ : Type} (time : ρ → Timestamp) (ties : κ → κ → Bool) (a b : κ × ρ) : Bool :=
  time b.2 < time a.2 ∨ (time a.2 = time b.2 ∧ ties a.1 b.1)

/-- A filter that is left out lets everything through. -/
def passes {α : Type} [DecidableEq α] (filter : Option α) (value : α) : Bool :=
  filter.all fun wanted => value = wanted

variable (db : Database) (actor : AuthenticatedActor)

/-- The owner whose rows are listed, when it is not everybody's. -/
def listedOwner : Option String :=
  if actor.role ∈ [UserRole.manager, .admin] then none else some actor.actorId

/-- The owner whose rows are listed where a reviewer sees what is up for review. -/
def reviewedOwner : Option String :=
  if actor.role = .reviewer then none else listedOwner actor

/-- A filter by campaign is for a campaign that the actor may read. -/
def requireFilterAccess (campaignId : Option String) : Except AccessError Unit :=
  match campaignId with
  | none => .ok ()
  | some campaignId => (requireCampaignAccess db actor campaignId false).map fun _ => ()

/-! ### Campaigns and workflows -/

/-- The order of campaigns of one time is up to the database. -/
def CampaignRepository.list (ties : String → String → Bool) (limit offset : Nat)
    (status : Option CampaignStatus) (ownerId : Option String) (reviewableOnly : Bool) :
    List (String × CampaignModel) :=
  db.campaigns.page
    (fun _ campaign => !campaign.isEvaluation ∧ passes status campaign.status ∧
      passes ownerId campaign.createdBy ∧
      (reviewableOnly → campaign.status ∈ reviewableCampaignStatuses))
    (newestFirst CampaignModel.createdAt ties) limit offset

def listCampaigns (ties : String → String → Bool) (limit offset : Int)
    (status : Option CampaignStatus) : List (String × CampaignModel) :=
  CampaignRepository.list db ties (boundedLimit limit) (boundedOffset offset) status
    (reviewedOwner actor) (actor.role = .reviewer)

/-- The workflows are joined with their campaigns. -/
def WorkflowRepository.listAccessible (limit offset : Nat) (campaignId ownerId : Option String)
    (reviewableOnly : Bool) : List (Uuid × WorkflowRunModel) :=
  db.workflowRuns.page
    (fun _ workflow => (db.campaigns.lookup workflow.campaignId).any fun campaign =>
      !workflow.isEvaluation ∧ passes campaignId workflow.campaignId ∧
        passes ownerId campaign.createdBy ∧
        (reviewableOnly → campaign.status ∈ reviewableCampaignStatuses))
    (newestFirst WorkflowRunModel.startedAt (· ≤ ·)) limit offset

def listWorkflows (campaignId : Option String) (limit offset : Int) :
    Except AccessError (List (Uuid × WorkflowRunModel)) := do
  requireFilterAccess db actor campaignId
  return WorkflowRepository.listAccessible db (boundedLimit limit) (boundedOffset offset) campaignId
    (reviewedOwner actor) (actor.role = .reviewer)

/-! ### Applied tasks -/

def AppliedWorkflowRepository.list (limit offset : Nat) (ownerId : Option String)
    (workflowType : Option AppliedWorkflowType) (status : Option AppliedTaskStatus) :
    List (Uuid × AppliedWorkflowTaskModel) :=
  db.appliedTasks.page
    (fun _ task => passes ownerId task.createdBy ∧ passes workflowType task.workflowType ∧
      passes status task.status)
    (newestFirst AppliedWorkflowTaskModel.createdAt (· ≤ ·)) limit offset

def listAppliedTasks (limit offset : Int) (workflowType : Option AppliedWorkflowType)
    (status : Option AppliedTaskStatus) : List (Uuid × AppliedWorkflowTaskModel) :=
  AppliedWorkflowRepository.list db (boundedLimit limit) (boundedOffset offset) (listedOwner actor)
    workflowType status

def listDataAnalysisTasks (limit offset : Int) (statusFilter : Option AppliedTaskStatus) :
    List (Uuid × AppliedWorkflowTaskModel) :=
  listAppliedTasks db actor limit offset (some .dataAnalysis) statusFilter

def listDocumentProcessingTasks (limit offset : Int) (statusFilter : Option AppliedTaskStatus) :
    List (Uuid × AppliedWorkflowTaskModel) :=
  listAppliedTasks db actor limit offset (some .documentProcessing) statusFilter

/-! ### Media assets -/

def MediaRepository.listAssets (limit offset : Nat) (ownerId : Option String)
    (assetType : Option MediaAssetType) (status : Option MediaAssetStatus)
    (campaignId : Option String) : List (Uuid × MediaAssetModel) :=
  db.mediaAssets.page
    (fun _ asset => passes ownerId asset.createdBy ∧ passes assetType asset.assetType ∧
      passes status asset.status ∧ (campaignId.all fun wanted => asset.campaignId = some wanted))
    (newestFirst MediaAssetModel.createdAt (· ≤ ·)) limit offset

/-- A reviewer lists what is ready for review, whatever filter there is. -/
def reviewedStatus (statusFilter : Option MediaAssetStatus) : Option MediaAssetStatus :=
  if actor.role = .reviewer then some .readyForReview else statusFilter

def listMediaAssets (limit offset : Int) (statusFilter : Option MediaAssetStatus)
    (campaignId : Option String) : Except AccessError (List (Uuid × MediaAssetModel)) := do
  requireFilterAccess db actor campaignId
  return MediaRepository.listAssets db (boundedLimit limit) (boundedOffset offset)
    (reviewedOwner actor) none (reviewedStatus actor statusFilter) campaignId

def listStoryboards (limit offset : Int) (statusFilter : Option MediaAssetStatus) :
    List (Uuid × MediaAssetModel) :=
  MediaRepository.listAssets db (boundedLimit limit) (boundedOffset offset) (reviewedOwner actor)
    (some .videoStoryboard) (reviewedStatus actor statusFilter) none

/-! ### What is listed can be read -/

section

variable {db actor}

theorem passes_some {α : Type} [DecidableEq α] {wanted value : α}
    (through : passes (some wanted) value = true) : value = wanted :=
  of_decide_eq_true through

/-- A manager and an administrator have the override; the owner of another actor is the actor. -/
theorem owner_allowed {createdBy : String} (listed : passes (listedOwner actor) createdBy = true) :
    hasBusinessOverride actor = true ∨ createdBy = actor.actorId := by
  unfold listedOwner at listed
  split at listed
  · rename_i everybody
    refine .inl (decide_eq_true ?_)
    rcases List.mem_cons.mp everybody with manager | admin
    · rw [manager]
      decide
    · rw [List.mem_singleton.mp admin]
      decide
  · exact .inr (passes_some listed)

/-- The filters on a campaign that is listed, or whose workflow is, are the check of a read. -/
theorem listed_campaignAllowed {campaign : CampaignModel}
    (owner : passes (reviewedOwner actor) campaign.createdBy = true)
    (reviewable : decide (actor.role = .reviewer) = true →
      campaign.status ∈ reviewableCampaignStatuses) :
    campaignAllowed actor campaign false = true := by
  unfold campaignAllowed
  by_cases reviewer : actor.role = .reviewer
  · rw [if_pos ⟨rfl, reviewer⟩]
    exact decide_eq_true (reviewable (decide_eq_true reviewer))
  · rw [if_neg fun both => reviewer both.2]
    unfold reviewedOwner at owner
    rw [if_neg reviewer] at owner
    exact decide_eq_true (owner_allowed owner)

theorem listCampaigns_readable {ties : String → String → Bool} {limit offset : Int}
    {status : Option CampaignStatus} {row : String × CampaignModel}
    (listed : row ∈ listCampaigns db actor ties limit offset status) :
    requireCampaignAccess db actor row.1 false = .ok row.2 := by
  unfold listCampaigns CampaignRepository.list at listed
  obtain ⟨there, through⟩ := Table.mem_page listed
  obtain ⟨-, -, owner, reviewable⟩ := of_decide_eq_true through
  exact requireCampaignAccess_ok there (listed_campaignAllowed owner reviewable)

theorem listAccessible_readable {limit offset : Nat} {campaignId : Option String}
    {row : Uuid × WorkflowRunModel}
    (listed : row ∈ WorkflowRepository.listAccessible db limit offset campaignId
      (reviewedOwner actor) (actor.role = .reviewer)) :
    requireWorkflowAccess db actor row.1 false = .ok row.2 := by
  obtain ⟨there, through⟩ := Table.mem_page listed
  obtain ⟨campaign, joined, filters⟩ := (Option.any_eq_true ..).mp through
  obtain ⟨-, -, owner, reviewable⟩ := of_decide_eq_true filters
  have allowed := listed_campaignAllowed owner reviewable
  exact requireWorkflowAccess_ok there (requireCampaignAccess_ok joined allowed)

theorem list_tasks_readable {limit offset : Nat} {workflowType : Option AppliedWorkflowType}
    {status : Option AppliedTaskStatus} {row : Uuid × AppliedWorkflowTaskModel}
    (listed : row ∈ AppliedWorkflowRepository.list db limit offset (listedOwner actor) workflowType
      status) : requireTaskAccess db actor row.1 = .ok row.2 := by
  obtain ⟨there, through⟩ := Table.mem_page listed
  obtain ⟨owner, -⟩ := of_decide_eq_true through
  exact requireTaskAccess_ok there (owner_allowed owner)

theorem listAssets_readable {limit offset : Nat} {assetType : Option MediaAssetType}
    {statusFilter : Option MediaAssetStatus} {campaignId : Option String}
    {row : Uuid × MediaAssetModel}
    (listed : row ∈ MediaRepository.listAssets db limit offset (reviewedOwner actor) assetType
      (reviewedStatus actor statusFilter) campaignId) :
    requireMediaAccess db actor row.1 false = .ok row.2 := by
  obtain ⟨there, through⟩ := Table.mem_page listed
  obtain ⟨owner, -, status, -⟩ := of_decide_eq_true through
  apply requireMediaAccess_ok there
  by_cases reviewer : actor.role = .reviewer
  · unfold reviewedStatus at status
    rw [if_pos reviewer] at status
    exact .inr ⟨reviewer, passes_some status⟩
  · unfold reviewedOwner at owner
    rw [if_neg reviewer] at owner
    exact .inl (owner_allowed owner)

end

/-- The rows that a listing returns, if it is not refused, are read with success. -/
structure ListingsReadable (db : Database) (actor : AuthenticatedActor) (limit offset : Int) :
    Prop where
  campaigns (ties : String → String → Bool) (status : Option CampaignStatus) :
    ∀ row ∈ listCampaigns db actor ties limit offset status,
      requireCampaignAccess db actor row.1 false = .ok row.2
  workflows (campaignId : Option String) (rows : List (Uuid × WorkflowRunModel)) :
    listWorkflows db actor campaignId limit offset = .ok rows →
      ∀ row ∈ rows, requireWorkflowAccess db actor row.1 false = .ok row.2
  appliedTasks (workflowType : Option AppliedWorkflowType) (status : Option AppliedTaskStatus) :
    ∀ row ∈ listAppliedTasks db actor limit offset workflowType status,
      requireTaskAccess db actor row.1 = .ok row.2
  dataAnalysisTasks (statusFilter : Option AppliedTaskStatus) :
    ∀ row ∈ listDataAnalysisTasks db actor limit offset statusFilter,
      requireTaskAccess db actor row.1 = .ok row.2
  documentProcessingTasks (statusFilter : Option AppliedTaskStatus) :
    ∀ row ∈ listDocumentProcessingTasks db actor limit offset statusFilter,
      requireTaskAccess db actor row.1 = .ok row.2
  mediaAssets (statusFilter : Option MediaAssetStatus) (campaignId : Option String)
    (rows : List (Uuid × MediaAssetModel)) :
    listMediaAssets db actor limit offset statusFilter campaignId = .ok rows →
      ∀ row ∈ rows, requireMediaAccess db actor row.1 false = .ok row.2
  storyboards (statusFilter : Option MediaAssetStatus) :
    ∀ row ∈ listStoryboards db actor limit offset statusFilter,
      requireMediaAccess db actor row.1 false = .ok row.2

theorem listings_readable (db : Database) (actor : AuthenticatedActor) (limit offset : Int) :
    ListingsReadable db actor limit offset where
  campaigns _ _ _ listed := listCampaigns_readable listed
  workflows campaignId rows returned row listed := by
    obtain ⟨_, -, page⟩ := bind_eq_ok.mp returned
    cases page
    exact listAccessible_readable listed
  appliedTasks _ _ _ listed := list_tasks_readable listed
  dataAnalysisTasks _ _ listed := list_tasks_readable listed
  documentProcessingTasks _ _ listed := list_tasks_readable listed
  mediaAssets statusFilter campaignId rows returned row listed := by
    obtain ⟨_, -, page⟩ := bind_eq_ok.mp returned
    cases page
    exact listAssets_readable listed
  storyboards _ _ listed := listAssets_readable listed

end CyberLegends.Security
