import CyberLegends.Workflow.Closed

/-! What a version of a pending workflow names: as long as no job resumes a closed workflow, two
states in which a workflow is pending at one version of its campaign show the same material. -/

namespace CyberLegends.Workflow

open CyberLegends.Core Lib Jobs

/-! ### Material -/

/-- What the reader of a pending workflow decides on. -/
structure Material where
  brief : CampaignBrief
  tone : String
  targetAudience : String
  promotion : Option String
  briefAnalysis : Option String
  generatedContent : Option String
  qualityReview : Option QualityReview
  deriving DecidableEq, Repr

def CampaignModel.material (campaign : CampaignModel) : Material where
  brief := campaign.brief
  tone := campaign.tone
  targetAudience := campaign.targetAudience
  promotion := campaign.promotion
  briefAnalysis := campaign.briefAnalysis
  generatedContent := campaign.generatedContent
  qualityReview := campaign.qualityReview

/-- A workflow that is pending in both states, at the same version, shows the same material. -/
def SameMaterial (store store' : WorkflowStore) : Prop :=
  ∀ id pair pair', store.pair id = some pair → store'.pair id = some pair' →
    pair.workflow.status = .pendingApproval → pair'.workflow.status = .pendingApproval →
    pair'.campaign.version = pair.campaign.version →
      pair'.campaign.material = pair.campaign.material

/-- A pending workflow is closed later, or it is pending still, at a later version or with the same
material. -/
structure Progress (store store' : WorkflowStore) : Prop where
  closed : ClosedKept store store'
  ended : ∀ id row, store.workflows.lookup id = some row → row.completedAt ≠ none →
    closing row.status = true
  pending : ∀ id pair, store.pair id = some pair → pair.workflow.status = .pendingApproval →
    (∃ row', store'.workflows.lookup id = some row' ∧ row'.completedAt ≠ none ∧
      closing row'.status = true) ∨
    ∃ pair', store'.pair id = some pair' ∧ pair'.workflow.status = .pendingApproval ∧
      (pair.campaign.version < pair'.campaign.version ∨
        pair'.campaign.version = pair.campaign.version ∧
          pair'.campaign.material = pair.campaign.material)

theorem Progress.sameMaterial {store store' : WorkflowStore} (progress : Progress store store') :
    SameMaterial store store' := by
  intro id pair pair' held held' pending pending' version
  rcases progress.pending id pair held pending with ⟨row', found, -, ends⟩ | ⟨later, held'', -, facts⟩
  · rw [(WorkflowStore.pair_eq_some.mp held').1] at found
    cases found
    rw [pending'] at ends
    cases ends
  · rw [held'] at held''
    cases held''
    rcases facts with newer | ⟨-, same⟩
    · omega
    · exact same

theorem Progress.trans {store store' store'' : WorkflowStore} (first : Progress store store')
    (second : Progress store' store'') : Progress store store'' where
  closed := first.closed.trans second.closed
  ended := first.ended
  pending := by
    intro id pair held pending
    rcases first.pending id pair held pending with
      ⟨row', found, closed, ends⟩ | ⟨pair', held', pending', facts⟩
    · obtain ⟨row'', found', completed, status, -⟩ := second.closed id row' found closed
      exact .inl ⟨row'', found', by rw [completed]; exact closed, by rw [status]; exact ends⟩
    · rcases second.pending id pair' held' pending' with ended | ⟨pair'', held'', pending'', facts'⟩
      · exact .inl ended
      · refine .inr ⟨pair'', held'', pending'', ?_⟩
        rcases facts with newer | ⟨version, same⟩
        · rcases facts' with newer' | ⟨version', -⟩
          · exact .inl (Nat.lt_trans newer newer')
          · exact .inl (by omega)
        · rcases facts' with newer' | ⟨version', same'⟩
          · exact .inl (by omega)
          · exact .inr ⟨version'.trans version, same'.trans same⟩

/-! ### Steps -/

variable {settings : Settings}

theorem pending_open {store : WorkflowStore} (consistent : Consistent store) {id : WorkflowId}
    {row : WorkflowRunModel} (found : store.workflows.lookup id = some row)
    (pending : row.status = .pendingApproval) : row.completedAt = none := by
  by_contra closed
  have ends := consistent.closed id row found closed
  rw [pending] at ends
  cases ends

/-- The pair of a workflow after the write of the pair of another one. -/
theorem setPair_other {store : WorkflowStore} {id id' : WorkflowId} {pair pair' other : LockedPair}
    (held : store.pair id = some pair) (held' : store.pair id' = some other) (apart : id' ≠ id)
    (campaignId : pair'.workflow.campaignId = pair.workflow.campaignId) :
    (store.setPair id pair').pair id' = some other ∨
      other.workflow.campaignId = pair.workflow.campaignId ∧ other.campaign = pair.campaign ∧
        (store.setPair id pair').pair id' = some { other with campaign := pair'.campaign } := by
  obtain ⟨-, campaign⟩ := WorkflowStore.pair_eq_some.mp held
  obtain ⟨found', campaign'⟩ := WorkflowStore.pair_eq_some.mp held'
  have row : (store.setPair id pair').workflows.lookup id' = some other.workflow :=
    (AList.lookup_insert_ne apart).trans found'
  by_cases same : other.workflow.campaignId = pair.workflow.campaignId
  · rw [same, campaign] at campaign'
    refine .inr ⟨same, (Option.some.inj campaign').symm, ?_⟩
    refine WorkflowStore.pair_eq_some.mpr ⟨row, ?_⟩
    show (store.campaigns.insert pair'.workflow.campaignId pair'.campaign).lookup _ = _
    rw [campaignId, same]
    exact AList.lookup_insert _
  · refine .inl (WorkflowStore.pair_eq_some.mpr ⟨row, ?_⟩)
    refine (AList.lookup_insert_ne ?_).trans campaign'
    rw [campaignId]
    exact same

/-- A write that leaves workflows alone and changes a campaign only together with its version. -/
theorem Progress.frame {store store' : WorkflowStore} (consistent : Consistent store)
    (closed : ClosedKept store store')
    (kept : ∀ id pair, store.pair id = some pair → ∃ campaign,
      store'.pair id = some { pair with campaign } ∧
        (pair.campaign.version < campaign.version ∨ campaign = pair.campaign)) :
    Progress store store' where
  closed := closed
  ended := consistent.closed
  pending := by
    intro id pair held pending
    obtain ⟨campaign, held', newer | rfl⟩ := kept id pair held
    · exact .inr ⟨_, held', pending, .inl newer⟩
    · exact .inr ⟨pair, held', pending, .inr ⟨rfl, rfl⟩⟩

theorem Progress.refl {store : WorkflowStore} (consistent : Consistent store) :
    Progress store store :=
  .frame consistent (.refl store) fun _ pair held => ⟨pair.campaign, held, .inr rfl⟩

/-- The write of the pair of an open workflow that is pending no more closes it, and no other
workflow of its campaign is pending. -/
theorem Progress.of_open {store : WorkflowStore} (consistent : Consistent store) {id : WorkflowId}
    {pair pair' : LockedPair} (held : store.pair id = some pair)
    (isOpen : pair.workflow.completedAt = none)
    (campaignId : pair'.workflow.campaignId = pair.workflow.campaignId)
    (ends : pair.workflow.status = .pendingApproval →
      pair'.workflow.completedAt ≠ none ∧ closing pair'.workflow.status = true) :
    Progress store (store.setPair id pair') where
  closed := .of_open held isOpen
  ended := consistent.closed
  pending := by
    intro id' other held' pending
    by_cases here : id' = id
    · subst here
      rw [held] at held'
      cases held'
      exact .inl ⟨pair'.workflow, AList.lookup_insert _, ends pending⟩
    · rcases setPair_other held held' here campaignId with after | ⟨same, -⟩
      · exact .inr ⟨other, after, pending, .inr ⟨rfl, rfl⟩⟩
      · obtain ⟨found, -⟩ := WorkflowStore.pair_eq_some.mp held
        obtain ⟨found', -⟩ := WorkflowStore.pair_eq_some.mp held'
        exact absurd (consistent.oneOpen id' _ id _ found' found same.symm
          (pending_open consistent found' pending) isOpen) here

theorem Progress.paired {store : WorkflowStore} (consistent : Consistent store) {id : WorkflowId}
    {pair pair' : LockedPair} (held : store.pair id = some pair) (change : PairChange pair pair') :
    Progress store (store.setPair id pair') := by
  have closed := ClosedKept.paired consistent held change
  obtain ⟨found, -⟩ := WorkflowStore.pair_eq_some.mp held
  cases change with
  | quiet workflow campaign =>
    obtain ⟨llmCallCount, same⟩ := workflow
    have newer : pair.campaign.version < pair'.campaign.version ∨
        pair'.campaign = pair.campaign := by
      rcases campaign with same | ⟨newer, -⟩
      · exact .inr same
      · exact .inl newer
    refine ⟨closed, consistent.closed, ?_⟩
    intro id' other held' pending
    by_cases here : id' = id
    · subst here
      rw [held] at held'
      cases held'
      refine .inr ⟨pair', setPair_self, by rw [same]; exact pending, ?_⟩
      rcases newer with newer | same
      · exact .inl newer
      · exact .inr (by rw [same]; exact ⟨rfl, rfl⟩)
    · rcases setPair_other held held' here (by rw [same]) with after | ⟨-, sameCampaign, after⟩
      · exact .inr ⟨other, after, pending, .inr ⟨rfl, rfl⟩⟩
      · refine .inr ⟨_, after, pending, ?_⟩
        rw [sameCampaign]
        rcases newer with newer | same
        · exact .inl newer
        · exact .inr (by rw [same]; exact ⟨rfl, rfl⟩)
  | moved source edge agrees campaignId revision version completed =>
    have isOpen : pair.workflow.completedAt = none := by
      by_contra done
      have ends := consistent.closed id pair.workflow found done
      revert source ends
      cases pair.workflow.status <;> decide
    refine .of_open consistent held isOpen campaignId ?_
    intro pending
    rw [pending] at edge
    have ends : closing pair'.workflow.status = true := by
      revert edge
      cases pair'.workflow.status <;> decide
    rcases completed with same | ⟨-, open_⟩
    · rw [ends] at same
      exact ⟨Option.isSome_iff_ne_none.mp same, ends⟩
    · rw [ends] at open_
      cases open_

theorem progress_step {w : World (workflowHandlers settings)}
    {event : WorldEvent (workflowHandlers settings)} (consistent : Consistent w.resources)
    (ok : NoReopen w event) : Progress w.resources (w.step settings event).resources := by
  have closed := closedKept_step consistent ok
  have change := @step_store settings w event
  generalize (w.step settings event).resources = store at closed change ⊢
  cases change with
  | same => exact .refl consistent
  | agents => exact .frame consistent closed fun _ pair held => ⟨pair.campaign, held, .inr rfl⟩
  | paired held change => exact .paired consistent held change
  | saved found stage goesOn held saved => exact .paired consistent held (.of_save saved)
  | failed found stage goesOn held failed => exact .paired consistent held (.of_failure failed)
  | resumed found stage goesOn held source =>
    refine .of_open consistent held (ok goesOn _ found stage _ held source) rfl ?_
    intro pending
    rw [source] at pending
    cases pending
  | decided held fresh change =>
    have progress := Progress.paired consistent held change
    exact ⟨closed, consistent.closed, progress.pending⟩
  | campaignCreated fresh =>
    refine .frame consistent closed fun id pair held => ⟨pair.campaign, ?_, .inr rfl⟩
    obtain ⟨found, campaign⟩ := WorkflowStore.pair_eq_some.mp held
    refine WorkflowStore.pair_eq_some.mpr ⟨found, (AList.lookup_insert_ne ?_).trans campaign⟩
    intro same
    exact fresh (by rw [← same]; exact AList.lookup_isSome.mp (by rw [campaign]; rfl))
  | campaignUpdated row status version analysis content =>
    rename_i campaignId before after
    refine .frame consistent closed fun id pair held => ?_
    obtain ⟨found, campaign⟩ := WorkflowStore.pair_eq_some.mp held
    by_cases same : pair.workflow.campaignId = campaignId
    · rw [same, row] at campaign
      cases campaign
      refine ⟨after, WorkflowStore.pair_eq_some.mpr ⟨found, ?_⟩, .inl version⟩
      show (w.resources.campaigns.insert campaignId after).lookup pair.workflow.campaignId = _
      rw [same]
      exact AList.lookup_insert _
    · exact ⟨pair.campaign, WorkflowStore.pair_eq_some.mpr
        ⟨found, (AList.lookup_insert_ne same).trans campaign⟩, .inr rfl⟩
  | workflowCreated created =>
    obtain ⟨fresh, -, campaign, row, -, rfl, -⟩ := createWorkflow_some created
    refine .frame consistent closed fun id pair held => ⟨pair.campaign, ?_, .inr rfl⟩
    obtain ⟨found, campaign⟩ := WorkflowStore.pair_eq_some.mp held
    refine WorkflowStore.pair_eq_some.mpr ⟨(AList.lookup_insert_ne ?_).trans found, campaign⟩
    rintro rfl
    exact fresh (AList.lookup_isSome.mp (by rw [found]; rfl))

/-! ### Runs -/

/-- The two ends of a part of a run that resumes no closed workflow. -/
theorem progress_run {w : World (workflowHandlers settings)}
    {events : List (WorldEvent (workflowHandlers settings))} (consistent : Consistent w.resources)
    (ok : (workflowApplication settings).Meets NoReopen w events) :
    Progress w.resources ((workflowApplication settings).run w events).resources := by
  induction events generalizing w with
  | nil => exact .refl consistent
  | cons event events ih =>
    exact (progress_step consistent ok.1).trans (ih (consistent_step consistent ok.1) ok.2)

theorem consistent_run {w : World (workflowHandlers settings)}
    {events : List (WorldEvent (workflowHandlers settings))} (consistent : Consistent w.resources)
    (ok : (workflowApplication settings).Meets NoReopen w events) :
    Consistent ((workflowApplication settings).run w events).resources :=
  Machine.run_holds (I := fun w => Consistent w.resources)
    (fun _ _ consistent ok => consistent_step consistent ok) consistent ok

/-- In a run that resumes no closed workflow, all states in which a workflow is pending at one
version of its campaign show the same material, and a decision that expects a version decides on
what every earlier reader saw at that version. -/
theorem approval_names_content (settings : Settings)
    (events : List (WorldEvent (workflowHandlers settings)))
    (ok : (workflowApplication settings).Meets NoReopen (workflowApplication settings).init
      events) :
    (workflowApplication settings).Between (fun w w' => SameMaterial w.resources w'.resources)
        (workflowApplication settings).init events ∧
      ∀ before middle after asked actorId actorRole decided,
        before ++ middle ++ .request (.decide asked actorId actorRole) :: after = events →
        request ((workflowApplication settings).run (workflowApplication settings).init
            (before ++ middle)).now (.decide asked actorId actorRole)
          ((workflowApplication settings).run (workflowApplication settings).init
            (before ++ middle)).resources = some decided →
        ∀ seen, ((workflowApplication settings).run (workflowApplication settings).init
            before).resources.pair asked.workflowId = some seen →
          seen.workflow.status = .pendingApproval →
          seen.campaign.version = asked.expectedVersion →
          ∃ pair, ((workflowApplication settings).run (workflowApplication settings).init
              (before ++ middle)).resources.pair asked.workflowId = some pair ∧
            pair.campaign.material = seen.campaign.material := by
  have same : (workflowApplication settings).Between
      (fun w w' => SameMaterial w.resources w'.resources) (workflowApplication settings).init
      events := by
    rintro before middle after rfl
    obtain ⟨first, -⟩ := Machine.Meets.append.mp ok
    obtain ⟨first, second⟩ := Machine.Meets.append.mp first
    rw [Machine.run_append]
    exact (progress_run (consistent_run Consistent.empty first) second).sameMaterial
  refine ⟨same, ?_⟩
  intro before middle after asked actorId actorRole decided whole accepted seen held pending version
  simp only [request, WorkflowStore.decide] at accepted
  split at accepted
  · split at accepted
    · cases accepted
    · rename_i pair held'
      split at accepted
      · cases accepted
      · split at accepted
        · cases accepted
        · rename_i decision
          obtain ⟨-, pending', expected, -⟩ := LockedPair.decide_ok decision
          refine ⟨pair, held', ?_⟩
          exact same before middle _ whole asked.workflowId seen pair held held' pending pending'
            (expected.trans version.symm)
  · cases accepted

/-- A workflow is run, reviewed and approved. -/
def approvingRun : List (WorldEvent (workflowHandlers {})) :=
  reviewingRun ++ agentRun 0 (.review { status := .pass, qualityScore := 90 }) ++
    [.request (.decide { campaignId := "spring-launch", workflowId := 1, decision := .approve }
      "mia" .reviewer)]

theorem approving_run_names_content :
    (workflowApplication {}).Meets NoReopen (workflowApplication {}).init approvingRun ∧
      (workflowApplication {}).Between (fun w w' => SameMaterial w.resources w'.resources)
        (workflowApplication {}).init approvingRun := by
  have ok : (workflowApplication {}).Meets NoReopen (workflowApplication {}).init
      approvingRun := by decide +kernel
  exact ⟨ok, (approval_names_content {} approvingRun ok).1⟩

/-- The worker of workflow 1 dies when it is pending, a revision is requested, and workflow 2 is
created and run up to its review, while the job of workflow 1 waits. -/
def supersededRun : List (WorldEvent (workflowHandlers {})) :=
  reviewingRun ++ agentRun 0 (.review { status := .pass, qualityScore := 90 }) ++
    [.crash "worker",
      .request (.decide
        { campaignId := "spring-launch", workflowId := 1, decision := .requestRevision } "mia"
        .reviewer),
      .tick (seconds 60), .reclaim none [], .tick (seconds 5),
      .request (.createWorkflow "spring-launch" 2),
      .submit (.runWorkflow 2) 8 0 none none "workflow-2", .lease "worker" none [7] 0] ++
    proceeds 1 6 ++ agentRun 1 (.content "revised content") ++
    agentRun 1 (.review { status := .pass, qualityScore := 95 })

/-- The job of workflow 1 is leased again and generates content. -/
def lateGeneration : List (WorldEvent (workflowHandlers {})) :=
  [.lease "late worker" none [] 0] ++ proceeds 2 6 ++ agentRun 2 (.content "late content")

/-- The late job replaces the content that is pending, at the version that a reviewer expects. -/
theorem late_job_replaces_pending_content :
    ¬ (workflowApplication {}).Between (fun w w' => SameMaterial w.resources w'.resources)
      (workflowApplication {}).init (supersededRun ++ lateGeneration) := by
  intro between
  have same := between supersededRun lateGeneration [] (List.append_nil _)
  have before : (((workflowApplication {}).run (workflowApplication {}).init
      supersededRun).resources.pair 2).map (fun pair =>
        (pair.workflow.status, pair.campaign.version, pair.campaign.generatedContent)) =
      some (.pendingApproval, 2, some "revised content") := by
    decide +kernel
  have after : (((workflowApplication {}).run (workflowApplication {}).init
      (supersededRun ++ lateGeneration)).resources.pair 2).map (fun pair =>
        (pair.workflow.status, pair.campaign.version, pair.campaign.generatedContent)) =
      some (.pendingApproval, 2, some "late content") := by
    decide +kernel
  obtain ⟨pair, held, facts⟩ := Option.map_eq_some_iff.mp before
  obtain ⟨pair', held', facts'⟩ := Option.map_eq_some_iff.mp after
  simp only [Prod.mk.injEq] at facts facts'
  have shown := same 2 pair pair' held held' facts.1 facts'.1 (facts'.2.1.trans facts.2.1.symm)
  have contents : pair'.campaign.generatedContent = pair.campaign.generatedContent :=
    congrArg Material.generatedContent shown
  rw [facts.2.2, facts'.2.2] at contents
  exact absurd contents (by decide)

end CyberLegends.Workflow
