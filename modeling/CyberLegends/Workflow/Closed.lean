import Mathlib.Data.Finset.Max
import CyberLegends.Workflow.Changes

/-! Closed workflows, and the agreement of a campaign with its latest workflow. A run keeps both
exactly if no job resumes a workflow that a request for a revision has closed. -/

namespace CyberLegends.Workflow

open CyberLegends.Core Lib Jobs

/-! ### What is to hold -/

/-- The workflow is the one of its campaign with the highest revision. -/
def Latest (store : WorkflowStore) (id : WorkflowId) (row : WorkflowRunModel) : Prop :=
  store.workflows.lookup id = some row ∧
    ∀ id' row', store.workflows.lookup id' = some row' → row'.campaignId = row.campaignId →
      row'.revisionNumber ≤ row.revisionNumber

/-- At most one workflow of a campaign is not completed. -/
def OneOpen (store : WorkflowStore) : Prop :=
  ∀ id row id' row', store.workflows.lookup id = some row →
    store.workflows.lookup id' = some row' → row'.campaignId = row.campaignId →
    row.completedAt = none → row'.completedAt = none → id = id'

/-- A campaign has the status of its latest workflow. -/
def CampaignAgrees (store : WorkflowStore) : Prop :=
  ∀ id row campaign, Latest store id row → store.campaigns.lookup row.campaignId = some campaign →
    campaign.status = row.status

/-- A closed workflow stays closed and keeps its status, step, retries and score. -/
def ClosedKept (store store' : WorkflowStore) : Prop :=
  ∀ id row, store.workflows.lookup id = some row → row.completedAt ≠ none →
    ∃ row', store'.workflows.lookup id = some row' ∧ row'.completedAt = row.completedAt ∧
      row'.status = row.status ∧ row'.currentStep = row.currentStep ∧
      row'.retryCount = row.retryCount ∧ row'.qualityScore = row.qualityScore

variable {settings : Settings}

/-- The step that takes a workflow from REVISION_REQUIRED back to GENERATING finds it open. -/
def NoReopen (w : World (workflowHandlers settings)) :
    WorldEvent (workflowHandlers settings) → Prop
  | .process id answer =>
    Answer.isError answer = false → ∀ run ∈ w.runs.lookup id,
      stageOf run = some (.transition .revisionRequired) →
        ∀ pair ∈ w.resources.pair (workflowId run), pair.workflow.status = .revisionRequired →
          pair.workflow.completedAt = none
  | _ => True

instance decidableNoReopen (w : World (workflowHandlers settings))
    (event : WorldEvent (workflowHandlers settings)) : Decidable (NoReopen w event) :=
  match event with
  | .process .. => inferInstanceAs (Decidable (_ → _))
  | .tick _ | .submit .. | .lease .. | .reclaim .. | .interrupt _ | .fault .. | .heartbeat _
  | .heartbeatDies _ | .crash _ | .cancel _ | .retry _ | .call _ | .callDies _ | .request _ =>
    isTrue trivial

/-! ### The invariant -/

/-- The invariant of the store while no closed workflow is resumed. -/
structure Consistent (store : WorkflowStore) : Prop where
  placed : ∀ id row, store.workflows.lookup id = some row → row.campaignId ∈ store.campaigns
  closed : ∀ id row, store.workflows.lookup id = some row → row.completedAt ≠ none →
    closing row.status = true
  ended : ∀ id row, store.workflows.lookup id = some row → row.completedAt = none →
    WorkflowStore.isActiveStatus row.status = true
  newest : ∀ id row id' row', store.workflows.lookup id = some row →
    store.workflows.lookup id' = some row' → row'.campaignId = row.campaignId → id' ≠ id →
    row.completedAt = none → row'.revisionNumber < row.revisionNumber
  agrees : CampaignAgrees store

theorem Consistent.oneOpen {store : WorkflowStore} (consistent : Consistent store) :
    OneOpen store := by
  intro id row id' row' found found' same isOpen isOpen'
  by_contra other
  have below := consistent.newest id row id' row' found found' same (Ne.symm other) isOpen
  have above := consistent.newest id' row' id row found' found same.symm other isOpen'
  omega

/-- An open workflow is the latest of its campaign. -/
theorem Consistent.latest {store : WorkflowStore} (consistent : Consistent store)
    {id : WorkflowId} {row : WorkflowRunModel} (found : store.workflows.lookup id = some row)
    (isOpen : row.completedAt = none) : Latest store id row := by
  refine ⟨found, ?_⟩
  intro id' row' found' same
  by_cases here : id' = id
  · subst here
    rw [found] at found'
    cases found'
    exact Nat.le_refl _
  · exact Nat.le_of_lt (consistent.newest id row id' row' found found' same here isOpen)

theorem Consistent.empty : Consistent {} where
  placed := by intro id row found; cases found
  closed := by intro id row found; cases found
  ended := by intro id row found; cases found
  newest := by intro id row id' row' found; cases found
  agrees := by intro id row campaign latest; cases latest.1

/-- A change of the other tables, or of a campaign in anything but its status, keeps the
invariant. -/
theorem Consistent.frame {store store' : WorkflowStore} (consistent : Consistent store)
    (workflows : store'.workflows = store.workflows)
    (campaigns : ∀ id campaign, store'.campaigns.lookup id = some campaign →
      (∃ before, store.campaigns.lookup id = some before ∧ before.status = campaign.status) ∨
        id ∉ store.campaigns)
    (kept : ∀ id, id ∈ store.campaigns → id ∈ store'.campaigns) : Consistent store' where
  placed := by
    intro id row found
    rw [workflows] at found
    exact kept _ (consistent.placed id row found)
  closed := by rw [workflows]; exact consistent.closed
  ended := by rw [workflows]; exact consistent.ended
  newest := by rw [workflows]; exact consistent.newest
  agrees := by
    intro id row campaign latest held
    unfold Latest at latest
    rw [workflows] at latest
    rcases campaigns _ _ held with ⟨before, row', same⟩ | absent
    · rw [← same]
      exact consistent.agrees id row before latest row'
    · exact absurd (consistent.placed id row latest.1) absent

/-- The write of a pair keeps the invariant when it leaves both statuses alone, or gives both rows
of an open workflow one status. -/
theorem Consistent.setPair {store : WorkflowStore} (consistent : Consistent store)
    {id : WorkflowId} {pair pair' : LockedPair} (held : store.pair id = some pair)
    (campaignId : pair'.workflow.campaignId = pair.workflow.campaignId)
    (revision : pair'.workflow.revisionNumber = pair.workflow.revisionNumber)
    (opened : pair'.workflow.completedAt = none → pair.workflow.completedAt = none)
    (closed : pair'.workflow.completedAt ≠ none → closing pair'.workflow.status = true)
    (ended : pair'.workflow.completedAt = none →
      WorkflowStore.isActiveStatus pair'.workflow.status = true)
    (status : pair'.workflow.status = pair.workflow.status ∧
        pair'.campaign.status = pair.campaign.status ∨
      pair.workflow.completedAt = none ∧ pair'.campaign.status = pair'.workflow.status) :
    Consistent (store.setPair id pair') := by
  obtain ⟨row, campaign⟩ := WorkflowStore.pair_eq_some.mp held
  -- the row of a workflow after the write, next to the one before it
  have before : ∀ id' row', (store.setPair id pair').workflows.lookup id' = some row' →
      ∃ old, store.workflows.lookup id' = some old ∧ row'.campaignId = old.campaignId ∧
        row'.revisionNumber = old.revisionNumber ∧
        (row'.completedAt = none → old.completedAt = none) ∧
        (id' = id ∧ row' = pair'.workflow ∧ old = pair.workflow ∨ id' ≠ id ∧ row' = old) := by
    intro id' row' found
    rcases Table.lookup_insert_cases found with ⟨rfl, rfl⟩ | ⟨other, found⟩
    · exact ⟨pair.workflow, row, campaignId, revision, opened, .inl ⟨rfl, rfl, rfl⟩⟩
    · exact ⟨row', found, rfl, rfl, fun isOpen => isOpen, .inr ⟨other, rfl⟩⟩
  have after : ∀ id' old, store.workflows.lookup id' = some old →
      ∃ row', (store.setPair id pair').workflows.lookup id' = some row' ∧
        row'.campaignId = old.campaignId ∧ row'.revisionNumber = old.revisionNumber := by
    intro id' old found
    by_cases here : id' = id
    · subst here
      rw [row] at found
      cases found
      exact ⟨pair'.workflow, AList.lookup_insert _, campaignId, revision⟩
    · exact ⟨old, by rw [WorkflowStore.setPair]; exact (AList.lookup_insert_ne here).trans found,
        rfl, rfl⟩
  constructor
  · intro id' row' found
    obtain ⟨old, found, same, -⟩ := before id' row' found
    rw [same]
    exact AList.mem_insert _ |>.mpr (.inr (consistent.placed id' old found))
  · intro id' row' found completed
    obtain ⟨old, found, -, -, -, ⟨rfl, rfl, rfl⟩ | ⟨-, rfl⟩⟩ := before id' row' found
    · exact closed completed
    · exact consistent.closed id' row' found completed
  · intro id' row' found isOpen
    obtain ⟨old, found, -, -, -, ⟨rfl, rfl, rfl⟩ | ⟨-, rfl⟩⟩ := before id' row' found
    · exact ended isOpen
    · exact consistent.ended id' row' found isOpen
  · intro id₁ row₁ id₂ row₂ found₁ found₂ same other isOpen
    obtain ⟨old₁, found₁, campaign₁, revision₁, opened₁, -⟩ := before id₁ row₁ found₁
    obtain ⟨old₂, found₂, campaign₂, revision₂, -, -⟩ := before id₂ row₂ found₂
    rw [revision₁, revision₂]
    exact consistent.newest id₁ old₁ id₂ old₂ found₁ found₂
      (by rw [← campaign₁, ← campaign₂]; exact same) other (opened₁ isOpen)
  · intro id₁ row₁ campaign₁ latest campaignRow
    obtain ⟨old, found, sameCampaign, sameRevision, -, place⟩ := before id₁ row₁ latest.1
    -- the latest workflow after the write was the latest before it
    have latest' : Latest store id₁ old := by
      refine ⟨found, ?_⟩
      intro id₂ old₂ found₂ same
      obtain ⟨row₂, found₂', campaign₂, revision₂⟩ := after id₂ old₂ found₂
      rw [← revision₂, ← sameRevision]
      exact latest.2 id₂ row₂ found₂' (by rw [campaign₂, same, sameCampaign])
    rcases Table.lookup_insert_cases campaignRow with ⟨same, rfl⟩ | ⟨other, campaignRow⟩
    · rcases status with ⟨sameStatus, sameCampaignStatus⟩ | ⟨isOpen, agrees⟩
      · have agreed := consistent.agrees id₁ old pair.campaign latest'
          (by rw [← sameCampaign, same, campaignId]; exact campaign)
        rw [sameCampaignStatus, agreed]
        rcases place with ⟨rfl, rfl, rfl⟩ | ⟨-, rfl⟩
        · exact sameStatus.symm
        · rfl
      · rcases place with ⟨rfl, rfl, rfl⟩ | ⟨other, rfl⟩
        · exact agrees
        · -- an open workflow with another one that is at least as new
          have below := consistent.newest id pair.workflow id₁ row₁ row found
            (by rw [same, campaignId]) other isOpen
          have above := latest'.2 id pair.workflow row (by rw [same, campaignId])
          omega
    · rcases place with ⟨rfl, rfl, rfl⟩ | ⟨-, rfl⟩
      · exact absurd rfl other
      · exact consistent.agrees id₁ row₁ campaign₁ latest' campaignRow

/-- An operation on a pair that moves no closed workflow keeps the invariant. -/
theorem Consistent.paired {store : WorkflowStore} (consistent : Consistent store)
    {id : WorkflowId} {pair pair' : LockedPair} (held : store.pair id = some pair)
    (change : PairChange pair pair') : Consistent (store.setPair id pair') := by
  obtain ⟨row, -⟩ := WorkflowStore.pair_eq_some.mp held
  cases change with
  | quiet workflow campaign =>
    obtain ⟨llmCallCount, same⟩ := workflow
    have status : pair'.campaign.status = pair.campaign.status := by
      rcases campaign with same | ⟨-, same, -⟩
      · rw [same]
      · exact same
    refine consistent.setPair held (by rw [same]) (by rw [same]) (by rw [same]; exact fun isOpen => isOpen) ?_ ?_
      (.inl ⟨by rw [same], status⟩)
    · rw [same]
      exact consistent.closed id pair.workflow row
    · rw [same]
      exact consistent.ended id pair.workflow row
  | moved source edge agrees campaignId revision version completed =>
    have isOpen : pair.workflow.completedAt = none := by
      by_contra closed
      have ends := consistent.closed id pair.workflow row closed
      revert source ends
      cases pair.workflow.status <;> decide
    have notClosing : ∀ {status}, closing status = false →
        WorkflowStore.isActiveStatus status = true := by
      intro status
      cases status <;> decide
    refine consistent.setPair held campaignId revision (fun _ => isOpen) ?_ ?_
      (.inr ⟨isOpen, agrees⟩)
    · intro done
      rcases completed with same | ⟨same, -⟩
      · rw [← same]
        exact Option.isSome_iff_ne_none.mpr done
      · exact absurd (same.trans isOpen) done
    · intro stillOpen
      rcases completed with same | ⟨-, open_⟩
      · rw [stillOpen] at same
        exact notClosing same.symm
      · exact notClosing open_

/-! ### The creation of a workflow -/

/-- A campaign with a workflow has a latest one. -/
theorem exists_latest {store : WorkflowStore} {id : WorkflowId} {row : WorkflowRunModel}
    (found : store.workflows.lookup id = some row) :
    ∃ id' row', Latest store id' row' ∧ row'.campaignId = row.campaignId := by
  let entries := store.workflows.entries.toFinset.filter
    fun entry => entry.2.campaignId = row.campaignId
  have member : ∀ id' row', (⟨id', row'⟩ : Sigma fun _ => WorkflowRunModel) ∈ entries ↔
      store.workflows.lookup id' = some row' ∧ row'.campaignId = row.campaignId := by
    intro id' row'
    simp [entries, ← AList.mem_lookup_iff]
  obtain ⟨⟨id', row'⟩, inside, most⟩ := Finset.exists_max_image entries
    (fun entry => entry.2.revisionNumber) ⟨⟨id, row⟩, (member id row).mpr ⟨found, rfl⟩⟩
  obtain ⟨found', same⟩ := (member id' row').mp inside
  refine ⟨id', row', ⟨found', ?_⟩, same⟩
  intro id₂ row₂ found₂ same₂
  exact most ⟨id₂, row₂⟩ ((member id₂ row₂).mpr ⟨found₂, same₂.trans same⟩)

theorem getActiveForCampaign_false {store : WorkflowStore} {campaignId : CampaignId}
    (free : store.getActiveForCampaign campaignId = false) {id : WorkflowId}
    {row : WorkflowRunModel} (found : store.workflows.lookup id = some row)
    (same : row.campaignId = campaignId) (isOpen : row.completedAt = none) :
    WorkflowStore.isActiveStatus row.status = false := by
  unfold WorkflowStore.getActiveForCampaign at free
  rw [List.any_eq_false] at free
  have entry := free ⟨id, row⟩ (AList.mem_lookup_iff.mp found)
  simpa [same, isOpen] using entry

theorem le_latestRevision {store : WorkflowStore} {campaignId : CampaignId} {revision : Nat}
    (highest : store.latestRevisionParentForCampaign campaignId = some revision)
    {id : WorkflowId} {row : WorkflowRunModel} (found : store.workflows.lookup id = some row)
    (same : row.campaignId = campaignId) (status : row.status = .revisionRequired)
    (closed : row.completedAt ≠ none) : row.revisionNumber ≤ revision := by
  refine (List.max?_eq_some_iff.mp highest).2 _ ?_
  unfold WorkflowStore.closedRevisions
  refine List.mem_map.mpr ⟨⟨id, row⟩, List.mem_filter.mpr ⟨AList.mem_lookup_iff.mp found, ?_⟩, rfl⟩
  simp [same, status, closed]

/-- What a request that creates a workflow commits, and what it has checked before. -/
theorem createWorkflow_some {store store' : WorkflowStore} {campaignId : CampaignId}
    {workflowId : WorkflowId} (created : store.createWorkflow campaignId workflowId = some store') :
    workflowId ∉ store.workflows ∧ store.getActiveForCampaign campaignId = false ∧
      ∃ campaign row, store.campaigns.lookup campaignId = some campaign ∧
        store' = { store with workflows := store.workflows.insert workflowId row } ∧
        row.campaignId = campaignId ∧ row.status = campaign.status ∧ row.completedAt = none ∧
        (campaign.status = .received ∨ campaign.status = .revisionRequired ∧
          ∃ revision, store.latestRevisionParentForCampaign campaignId = some revision ∧
            row.revisionNumber = revision + 1) := by
  unfold WorkflowStore.createWorkflow at created
  have inserted : ∀ {row}, store.insertWorkflow workflowId row = some store' →
      workflowId ∉ store.workflows ∧
        store' = { store with workflows := store.workflows.insert workflowId row } := by
    intro row h
    unfold WorkflowStore.insertWorkflow at h
    split at h
    · cases h
    · rename_i fresh
      cases h
      exact ⟨fresh, rfl⟩
  split at created
  · cases created
  · rename_i campaign held
    split at created
    · cases created
    · rename_i creatable
      split at created
      · cases created
      · rename_i active
        have free : store.getActiveForCampaign campaignId = false := by simpa using active
        split at created
        · rename_i revising
          split at created
          · cases created
          · rename_i revision highest
            obtain ⟨fresh, rfl⟩ := inserted created
            exact ⟨fresh, free, campaign, _, held, rfl, rfl, revising.symm, rfl,
              .inr ⟨revising, revision, highest, rfl⟩⟩
        · rename_i notRevising
          obtain ⟨fresh, rfl⟩ := inserted created
          have received : campaign.status = .received := by
            by_contra other
            exact creatable ⟨other, notRevising⟩
          exact ⟨fresh, free, campaign, _, held, rfl, rfl, received.symm, rfl, .inl received⟩

/-- A new workflow is the latest of its campaign, and all others are closed. -/
theorem Consistent.created {store store' : WorkflowStore} (consistent : Consistent store)
    {campaignId : CampaignId} {workflowId : WorkflowId}
    (created : store.createWorkflow campaignId workflowId = some store') : Consistent store' := by
  obtain ⟨fresh, free, campaign, row, held, rfl, rfl, status, isOpen, rule⟩ :=
    createWorkflow_some created
  have older : ∀ id' row', store.workflows.lookup id' = some row' →
      row'.campaignId = row.campaignId → row'.completedAt ≠ none ∧
        row'.revisionNumber < row.revisionNumber := by
    intro id' row' found same
    have closed : ∀ {id row'}, store.workflows.lookup id = some row' →
        row'.campaignId = row.campaignId → row'.completedAt ≠ none := by
      intro id row' found same isOpen'
      have inactive := getActiveForCampaign_false free found same isOpen'
      rw [consistent.ended id row' found isOpen'] at inactive
      cases inactive
    refine ⟨closed found same, ?_⟩
    obtain ⟨last, lastRow, latest, sameCampaign⟩ := exists_latest found
    have sameCampaign' := sameCampaign.trans same
    have agreed := consistent.agrees last lastRow campaign latest
      (by rw [sameCampaign']; exact held)
    have lastClosed := closed latest.1 sameCampaign'
    rcases rule with received | ⟨revising, revision, highest, next⟩
    · -- a campaign that is RECEIVED has no closed workflow
      have ends := consistent.closed last lastRow latest.1 lastClosed
      rw [← agreed, received] at ends
      cases ends
    · have bound := le_latestRevision highest latest.1 sameCampaign' (by rw [← agreed, revising])
        lastClosed
      have below := latest.2 id' row' found sameCampaign.symm
      omega
  have place : ∀ id' row', (store.workflows.insert workflowId row).lookup id' = some row' →
      id' = workflowId ∧ row' = row ∨ id' ≠ workflowId ∧ store.workflows.lookup id' = some row' := by
    intro id' row' found
    rcases Table.lookup_insert_cases found with ⟨rfl, rfl⟩ | other
    · exact .inl ⟨rfl, rfl⟩
    · exact .inr other
  constructor
  · intro id' row' found
    rcases place id' row' found with ⟨-, rfl⟩ | ⟨-, found⟩
    · exact AList.lookup_isSome.mp (by rw [held]; rfl)
    · exact consistent.placed id' row' found
  · intro id' row' found closed
    rcases place id' row' found with ⟨-, rfl⟩ | ⟨-, found⟩
    · exact absurd isOpen closed
    · exact consistent.closed id' row' found closed
  · intro id' row' found isOpen'
    rcases place id' row' found with ⟨-, rfl⟩ | ⟨-, found⟩
    · rw [status]
      rcases rule with received | ⟨revising, -⟩
      · rw [received]
        rfl
      · rw [revising]
        rfl
    · exact consistent.ended id' row' found isOpen'
  · intro id₁ row₁ id₂ row₂ found₁ found₂ same other isOpen₁
    rcases place id₁ row₁ found₁ with ⟨rfl, rfl⟩ | ⟨-, old₁⟩
    · rcases place id₂ row₂ found₂ with ⟨rfl, -⟩ | ⟨-, old₂⟩
      · exact absurd rfl other
      · exact (older id₂ row₂ old₂ same).2
    · rcases place id₂ row₂ found₂ with ⟨-, rfl⟩ | ⟨-, old₂⟩
      · exact absurd isOpen₁ (older id₁ row₁ old₁ same.symm).1
      · exact consistent.newest id₁ row₁ id₂ row₂ old₁ old₂ same other isOpen₁
  · intro id₁ row₁ campaign₁ latest campaignRow
    rcases place id₁ row₁ latest.1 with ⟨-, rfl⟩ | ⟨other, found₁⟩
    · rw [held] at campaignRow
      cases campaignRow
      exact status.symm
    · by_cases same : row₁.campaignId = row.campaignId
      · have above := latest.2 workflowId row (AList.lookup_insert _) same.symm
        have below := (older id₁ row₁ found₁ same).2
        omega
      · refine consistent.agrees id₁ row₁ campaign₁ ⟨found₁, ?_⟩ campaignRow
        intro id₂ row₂ found₂ same₂
        refine latest.2 id₂ row₂ ?_ same₂
        have apart : id₂ ≠ workflowId := by
          rintro rfl
          exact fresh (AList.lookup_isSome.mp (by rw [found₂]; rfl))
        exact (AList.lookup_insert_ne apart).trans found₂

/-! ### Steps and runs -/

theorem consistent_step {w : World (workflowHandlers settings)}
    {event : WorldEvent (workflowHandlers settings)} (consistent : Consistent w.resources)
    (ok : NoReopen w event) : Consistent (w.step settings event).resources := by
  have change := @step_store settings w event
  generalize (w.step settings event).resources = store at change ⊢
  cases change with
  | same => exact consistent
  | agents =>
    exact consistent.frame rfl (fun id campaign held => .inl ⟨campaign, held, rfl⟩)
      (fun _ held => held)
  | paired held change => exact consistent.paired held change
  | saved found stage goesOn held saved => exact consistent.paired held (.of_save saved)
  | failed found stage goesOn held failed => exact consistent.paired held (.of_failure failed)
  | resumed found stage goesOn held source =>
    have isOpen := ok goesOn _ found stage _ held source
    exact consistent.setPair held rfl rfl (fun _ => isOpen) (fun closed => absurd isOpen closed)
      (fun _ => rfl) (.inr ⟨isOpen, rfl⟩)
  | decided held fresh change =>
    exact (consistent.paired held change).frame rfl
      (fun id campaign held => .inl ⟨campaign, held, rfl⟩) (fun _ held => held)
  | campaignCreated fresh status =>
    refine consistent.frame rfl ?_ (fun id held => AList.mem_insert _ |>.mpr (.inr held))
    intro id campaign held
    rcases Table.lookup_insert_cases held with ⟨rfl, -⟩ | ⟨-, held⟩
    · exact .inr fresh
    · exact .inl ⟨campaign, held, rfl⟩
  | campaignUpdated row status version analysis =>
    refine consistent.frame rfl ?_ (fun id held => AList.mem_insert _ |>.mpr (.inr held))
    intro id campaign held
    rcases Table.lookup_insert_cases held with ⟨rfl, rfl⟩ | ⟨-, held⟩
    · exact .inl ⟨_, row, status.symm⟩
    · exact .inl ⟨campaign, held, rfl⟩
  | workflowCreated created => exact consistent.created created

theorem ClosedKept.refl (store : WorkflowStore) : ClosedKept store store :=
  fun _ row found _ => ⟨row, found, rfl, rfl, rfl, rfl, rfl⟩

theorem ClosedKept.trans {store store' store'' : WorkflowStore} (first : ClosedKept store store')
    (second : ClosedKept store' store'') : ClosedKept store store'' := by
  intro id row found closed
  obtain ⟨row', found', completed, status, step, retries, score⟩ := first id row found closed
  obtain ⟨row'', found'', completed', status', step', retries', score'⟩ :=
    second id row' found' (by rw [completed]; exact closed)
  exact ⟨row'', found'', completed'.trans completed, status'.trans status, step'.trans step,
    retries'.trans retries, score'.trans score⟩

theorem ClosedKept.of_workflows {store store' : WorkflowStore}
    (same : store'.workflows = store.workflows) : ClosedKept store store' :=
  fun id row found _ => ⟨row, by rw [same]; exact found, rfl, rfl, rfl, rfl, rfl⟩

/-- The write of a pair whose workflow is open keeps the closed ones. -/
theorem ClosedKept.of_open {store : WorkflowStore} {id : WorkflowId} {pair pair' : LockedPair}
    (held : store.pair id = some pair) (isOpen : pair.workflow.completedAt = none) :
    ClosedKept store (store.setPair id pair') := by
  intro id' row found closed
  have apart : id' ≠ id := by
    rintro rfl
    rw [(WorkflowStore.pair_eq_some.mp held).1] at found
    cases found
    exact closed isOpen
  exact ⟨row, (AList.lookup_insert_ne apart).trans found, rfl, rfl, rfl, rfl, rfl⟩

theorem ClosedKept.paired {store : WorkflowStore} (consistent : Consistent store)
    {id : WorkflowId} {pair pair' : LockedPair} (held : store.pair id = some pair)
    (change : PairChange pair pair') : ClosedKept store (store.setPair id pair') := by
  obtain ⟨row, -⟩ := WorkflowStore.pair_eq_some.mp held
  cases change with
  | quiet workflow =>
    obtain ⟨llmCallCount, same⟩ := workflow
    intro id' row' found closed
    by_cases here : id' = id
    · subst here
      rw [row] at found
      cases found
      refine ⟨pair'.workflow, AList.lookup_insert _, ?_⟩
      rw [same]
      exact ⟨rfl, rfl, rfl, rfl, rfl⟩
    · exact ⟨row', (AList.lookup_insert_ne here).trans found, rfl, rfl, rfl, rfl, rfl⟩
  | moved source =>
    refine ClosedKept.of_open held ?_
    by_contra closed
    have ends := consistent.closed id pair.workflow row closed
    revert source ends
    cases pair.workflow.status <;> decide

theorem closedKept_step {w : World (workflowHandlers settings)}
    {event : WorldEvent (workflowHandlers settings)} (consistent : Consistent w.resources)
    (ok : NoReopen w event) : ClosedKept w.resources (w.step settings event).resources := by
  have change := @step_store settings w event
  generalize (w.step settings event).resources = store at change ⊢
  cases change with
  | same => exact .refl _
  | agents | campaignCreated | campaignUpdated => exact .of_workflows rfl
  | paired held change => exact .paired consistent held change
  | saved found stage goesOn held saved => exact .paired consistent held (.of_save saved)
  | failed found stage goesOn held failed => exact .paired consistent held (.of_failure failed)
  | resumed found stage goesOn held source =>
    exact .of_open held (ok goesOn _ found stage _ held source)
  | decided held fresh change => exact (ClosedKept.paired consistent held change)
  | workflowCreated created =>
    rename_i campaignId workflowId
    obtain ⟨fresh, -, campaign, row, -, rfl, -⟩ := createWorkflow_some created
    intro id' row' found closed
    have apart : id' ≠ workflowId := by
      rintro rfl
      exact fresh (AList.lookup_isSome.mp (by rw [found]; rfl))
    exact ⟨row', (AList.lookup_insert_ne apart).trans found, rfl, rfl, rfl, rfl, rfl⟩

/-- A step that keeps the closed workflows resumes none of them. -/
theorem noReopen_of_closedKept {w : World (workflowHandlers settings)}
    {event : WorldEvent (workflowHandlers settings)}
    (kept : ClosedKept w.resources (w.step settings event).resources) : NoReopen w event := by
  cases event with
  | process id answer =>
    intro goesOn run found stage pair held source
    have found : w.runs.lookup id = some run := found
    have phase := stageOf_eq.mp stage
    by_contra closed
    have performed : (w.step settings (.process id answer)).resources =
        w.resources.setPair (workflowId run) (pair.setStatus .generating .generateContent) := by
      have handled : Stage.handle settings w.now run.workerId run.job w.jobs (workflowId run) answer
          w.resources (.transition .revisionRequired) =
          (w.resources.setPair (workflowId run) (pair.setStatus .generating .generateContent),
            .continues .readWorkflow) := by
        have done : Stage.perform settings w.now run.workerId run.job w.jobs (workflowId run) answer
            w.resources (.transition .revisionRequired) =
            .ok (w.resources.setPair (workflowId run) (pair.setStatus .generating .generateContent),
              .continues .readWorkflow) := by
          simp only [Stage.perform, checkpointAfter]
          refine bind_eq_ok.mpr ⟨_, WorkflowStore.update_ok.mpr ⟨pair, _, held, ?_, rfl⟩, rfl⟩
          exact LockedPair.transitionCheckpoint_ok.mpr ⟨source, by decide, rfl⟩
        unfold Stage.handle
        cases answer with
        | error error => cases goesOn
        | proceed => simp only [done]
        | final => simp only [done]
      simp only [World.step, World.process, found, phase, World.setRun,
        advance_handling phase]
      exact congrArg Prod.fst handled
    rw [performed] at kept
    obtain ⟨row', found', -, status, -⟩ :=
      kept (workflowId run) pair.workflow (WorkflowStore.pair_eq_some.mp held).1 closed
    have written : (w.resources.setPair (workflowId run)
        (pair.setStatus .generating .generateContent)).workflows.lookup (workflowId run) =
          some (pair.setStatus .generating .generateContent).workflow := AList.lookup_insert _
    rw [written] at found'
    cases found'
    rw [source] at status
    cases status
  | _ => trivial

/-- In a run, closed workflows never change, at most one workflow of a campaign is open and a
campaign has the status of its latest workflow, exactly if no step resumes a closed workflow. -/
theorem closed_workflows_iff (settings : Settings)
    (events : List (WorldEvent (workflowHandlers settings))) :
    ((workflowApplication settings).Between (fun w w' => ClosedKept w.resources w'.resources)
        (workflowApplication settings).init events ∧
      (workflowApplication settings).Always
        (fun w => OneOpen w.resources ∧ CampaignAgrees w.resources)
        (workflowApplication settings).init events) ↔
      (workflowApplication settings).Meets NoReopen (workflowApplication settings).init events := by
  have keep : ∀ w event, Consistent w.resources → NoReopen w event →
      Consistent ((workflowApplication settings).step w event).resources := by
    intro w event consistent ok
    exact consistent_step consistent ok
  have between := @Machine.between_iff_steps _ _ (workflowApplication settings)
    (fun w w' => ClosedKept w.resources w'.resources) (fun w => .refl w.resources)
    (fun w w' w'' first second => first.trans second) (workflowApplication settings).init events
  rw [between]
  constructor
  · rintro ⟨steps, -⟩
    exact steps.meets fun w event kept => noReopen_of_closedKept kept
  · intro ok
    refine ⟨Machine.steps_hold keep ?_ Consistent.empty ok,
      Machine.always_hold keep ?_ Consistent.empty ok⟩
    · exact fun w event consistent ok => closedKept_step consistent ok
    · exact fun w consistent => ⟨consistent.oneOpen, consistent.agrees⟩

/-- Transactions of a run outside which nothing fails. -/
def proceeds (id : RunId) (count : Nat) : List (WorldEvent (workflowHandlers {})) :=
  List.replicate count (.process id .proceed)

/-- The run of an agent inside the run of a workflow, from the snapshot to the checkpoint. -/
def agentRun (id : RunId) (output : AgentOutput) : List (WorldEvent (workflowHandlers {})) :=
  proceeds id 6 ++ [.process id (.final output)] ++ proceeds id 2

/-- Workflow 1 of a new campaign is run by job 7 up to its review. -/
def reviewingRun : List (WorldEvent (workflowHandlers {})) :=
  [.request (.createCampaign "spring-launch"
      { brief := {}, tone := "", targetAudience := "", promotion := none }),
    .request (.createWorkflow "spring-launch" 1),
    .submit (.runWorkflow 1) 7 0 none none "workflow-1", .lease "worker" none [] 0] ++
    proceeds 0 9 ++ agentRun 0 (.analysis "analysis") ++ agentRun 0 (.content "content")

/-- The worker dies as soon as the workflow is pending, a reviewer requests a revision, and the job
is leased again. -/
def reopeningRun : List (WorldEvent (workflowHandlers {})) :=
  reviewingRun ++ agentRun 0 (.review { status := .pass, qualityScore := 90 }) ++
    [.crash "worker",
      .request (.decide
        { campaignId := "spring-launch", workflowId := 1, decision := .requestRevision } "mia"
        .reviewer),
      .tick (seconds 60), .reclaim none [], .tick (seconds 5), .lease "worker" none [] 0]

/-- The second attempt takes the closed workflow back to GENERATING. -/
theorem closed_workflow_reopened :
    ¬ (workflowApplication {}).Between (fun w w' => ClosedKept w.resources w'.resources)
      (workflowApplication {}).init (reopeningRun ++ proceeds 1 6) := by
  intro between
  have kept := between reopeningRun (proceeds 1 6) [] (List.append_nil _)
  have before : (((workflowApplication {}).run (workflowApplication {}).init
      reopeningRun).resources.workflows.lookup 1).map
        (fun row => (row.status, row.completedAt.isSome)) = some (.revisionRequired, true) := by
    decide +kernel
  have after : (((workflowApplication {}).run (workflowApplication {}).init
      (reopeningRun ++ proceeds 1 6)).resources.workflows.lookup 1).map
        (fun row => row.status) = some .generating := by
    decide +kernel
  obtain ⟨row, found, facts⟩ := Option.map_eq_some_iff.mp before
  obtain ⟨status, closed⟩ := Prod.mk.inj facts
  obtain ⟨row', found', -, same, -⟩ := kept 1 row found (Option.isSome_iff_ne_none.mp closed)
  rw [found', Option.map_some, same, status] at after
  cases after

end CyberLegends.Workflow
