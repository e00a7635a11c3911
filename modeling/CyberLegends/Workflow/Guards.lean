import CyberLegends.Workflow.Changes

/-! What the version of a campaign names: its fields are edited only together with it. A controlled
action therefore works on the fields for which it was reserved, and of the actions that were reserved
at one version at most one edits them. -/

namespace CyberLegends.Workflow

open CyberLegends.Core Lib Jobs

variable {settings : Settings}

/-! ### Fields and versions -/

/-- The fields of a campaign that requests and actions edit. -/
def CampaignModel.fields (campaign : CampaignModel) : WorkflowStore.CampaignCreate where
  brief := campaign.brief
  tone := campaign.tone
  targetAudience := campaign.targetAudience
  promotion := campaign.promotion

/-- The fields as an action leaves them. -/
def WorkflowStore.CampaignAction.edit (action : WorkflowStore.CampaignAction)
    (fields : WorkflowStore.CampaignCreate) : WorkflowStore.CampaignCreate :=
  match action with
  | .updateCampaignMetadata tone targetAudience promotion =>
    { fields with
      tone := tone.getD fields.tone
      targetAudience := targetAudience.getD fields.targetAudience
      promotion := promotion.or fields.promotion }
  | _ => fields

def WorkflowStore.CampaignAction.edits : WorkflowStore.CampaignAction → Bool
  | .updateCampaignMetadata .. => true
  | _ => false

/-- The fields are the same, or the version is later. -/
def Versioned (campaign campaign' : CampaignModel) : Prop :=
  campaign.version < campaign'.version ∨
    campaign'.version = campaign.version ∧ campaign'.fields = campaign.fields

theorem Versioned.of_same {campaign campaign' : CampaignModel}
    (version : campaign'.version = campaign.version) (fields : campaign'.fields = campaign.fields) :
    Versioned campaign campaign' :=
  .inr ⟨version, fields⟩

theorem Versioned.refl (campaign : CampaignModel) : Versioned campaign campaign := .of_same rfl rfl

theorem Versioned.trans {campaign campaign' campaign'' : CampaignModel}
    (first : Versioned campaign campaign') (second : Versioned campaign' campaign'') :
    Versioned campaign campaign'' := by
  rcases first with newer | ⟨version, fields⟩
  · rcases second with newer' | ⟨version', -⟩
    · exact .inl (Nat.lt_trans newer newer')
    · exact .inl (by omega)
  · rcases second with newer' | ⟨version', fields'⟩
    · exact .inl (by omega)
    · exact .inr ⟨version'.trans version, fields'.trans fields⟩

/-- No campaign is lost, and none is edited at the same version. -/
def Edited (store store' : WorkflowStore) : Prop :=
  ∀ id campaign, store.campaigns.lookup id = some campaign →
    ∃ campaign', store'.campaigns.lookup id = some campaign' ∧ Versioned campaign campaign'

theorem Edited.refl (store : WorkflowStore) : Edited store store :=
  fun _ campaign row => ⟨campaign, row, .refl campaign⟩

theorem Edited.trans {store store' store'' : WorkflowStore} (first : Edited store store')
    (second : Edited store' store'') : Edited store store'' := by
  intro id campaign row
  obtain ⟨campaign', row', versioned⟩ := first id campaign row
  obtain ⟨campaign'', row'', versioned'⟩ := second id campaign' row'
  exact ⟨campaign'', row'', versioned.trans versioned'⟩

theorem Edited.of_campaigns {store store' : WorkflowStore}
    (same : store'.campaigns = store.campaigns) : Edited store store' := by
  intro id campaign row
  exact ⟨campaign, same ▸ row, .refl campaign⟩

theorem Edited.insert {store store' : WorkflowStore} {campaignId : CampaignId}
    {campaign' : CampaignModel}
    (written : store'.campaigns = store.campaigns.insert campaignId campaign')
    (versioned : ∀ campaign, store.campaigns.lookup campaignId = some campaign →
      Versioned campaign campaign') : Edited store store' := by
  intro id campaign row
  rw [written]
  by_cases here : id = campaignId
  · subst here
    exact ⟨campaign', AList.lookup_insert _, versioned campaign row⟩
  · exact ⟨campaign, (AList.lookup_insert_ne here).trans row, .refl campaign⟩

theorem Edited.setPair {store : WorkflowStore} {id : WorkflowId} {pair pair' : LockedPair}
    (held : store.pair id = some pair)
    (campaignId : pair'.workflow.campaignId = pair.workflow.campaignId)
    (versioned : Versioned pair.campaign pair'.campaign) : Edited store (store.setPair id pair') := by
  refine .insert rfl fun campaign row => ?_
  rw [campaignId, (WorkflowStore.pair_eq_some.mp held).2] at row
  cases row
  exact versioned

/-! ### Operations -/

/-- What an action does to the fields and to the version. -/
theorem act_fields {pair pair' : LockedPair} {guard : ActionExecutionGuard}
    {action : WorkflowStore.CampaignAction} (acted : pair.act guard action.effect = .ok pair') :
    pair.campaign.version = guard.expectedCampaignVersion ∧
      pair'.workflow.campaignId = pair.workflow.campaignId ∧
        pair'.campaign.fields = action.edit pair.campaign.fields ∧
          pair'.campaign.version = pair.campaign.version + action.edits.toNat := by
  unfold LockedPair.act at acted
  split at acted
  · rename_i admitted
    have expected : pair.campaign.version = guard.expectedCampaignVersion :=
      (of_decide_eq_true admitted).2.1
    refine ⟨expected, ?_⟩
    cases action with
    | validateOnly =>
      cases acted
      exact ⟨rfl, rfl, rfl⟩
    | updateCampaignMetadata =>
      cases acted
      exact ⟨rfl, rfl, rfl⟩
    | requestCampaignRegeneration | markForManualReview =>
      simp only [WorkflowStore.CampaignAction.effect] at acted
      split at acted
      · cases acted
        exact ⟨rfl, rfl, rfl⟩
      · cases acted
  · cases acted

theorem versioned_act {pair pair' : LockedPair} {guard : ActionExecutionGuard}
    {action : WorkflowStore.CampaignAction} (acted : pair.act guard action.effect = .ok pair') :
    Versioned pair.campaign pair'.campaign := by
  obtain ⟨-, -, fields, version⟩ := act_fields acted
  cases action with
  | updateCampaignMetadata => exact .inl (by rw [version]; exact Nat.lt_succ_self _)
  | _ => exact .of_same version fields

theorem versioned_save {pair pair' : LockedPair} {output : AgentOutput}
    (saved : output.save settings pair = .ok pair') :
    pair'.workflow.campaignId = pair.workflow.campaignId ∧
      Versioned pair.campaign pair'.campaign := by
  cases output with
  | analysis =>
    obtain ⟨-, rfl⟩ := LockedPair.saveAnalysisCheckpoint_ok saved
    exact ⟨rfl, .of_same rfl rfl⟩
  | content =>
    obtain ⟨-, rfl⟩ := LockedPair.saveContentCheckpoint_ok saved
    exact ⟨rfl, .of_same rfl rfl⟩
  | review =>
    obtain ⟨-, retries, nextStatus, nextStep, rfl, -⟩ :=
      LockedPair.saveReviewDecisionCheckpoint_ok saved
    exact ⟨rfl, .of_same rfl rfl⟩

theorem versioned_decide {pair pair' : LockedPair} {asked : ApprovalRequest} {decided : Bool}
    {actorId : String} {actorRole : UserRole} {record : ApprovalRecordModel} {now : Timestamp}
    (decision : pair.decide asked decided actorId actorRole now = .ok (pair', record)) :
    pair'.workflow.campaignId = pair.workflow.campaignId ∧
      Versioned pair.campaign pair'.campaign := by
  obtain ⟨-, -, -, rfl⟩ := LockedPair.decide_ok decision
  refine ⟨rfl, ?_⟩
  unfold LockedPair.decidedVersion
  split
  · exact .inl (Nat.lt_succ_self _)
  · exact .of_same rfl rfl

/-! ### Steps -/

theorem act_some {store store' : WorkflowStore} {guard : ActionExecutionGuard}
    {action : WorkflowStore.CampaignAction} (accepted : store.act guard action = some store') :
    ∃ pair pair', store.pair guard.workflowId = some pair ∧
      pair.workflow.campaignId = guard.campaignId ∧
        pair.act guard action.effect = .ok pair' ∧
          store' = store.setPair guard.workflowId pair' := by
  unfold WorkflowStore.act at accepted
  split at accepted
  · split at accepted
    · cases accepted
    · rename_i pair held
      split at accepted
      · cases accepted
      · rename_i same
        obtain ⟨pair', acted, rfl⟩ := Option.map_eq_some_iff.mp accepted
        exact ⟨pair, pair', held, not_not.mp same, toOption_eq_some.mp acted, rfl⟩
  · cases accepted

theorem edited_request {now : Timestamp} {asked : Request} {store store' : WorkflowStore}
    (accepted : request now asked store = some store') : Edited store store' := by
  cases asked with
  | createCampaign campaignId payload =>
    simp only [request, WorkflowStore.createCampaign] at accepted
    split at accepted
    · cases accepted
    · rename_i fresh
      cases accepted
      refine .insert rfl fun campaign row => ?_
      exact absurd (AList.lookup_isSome.mp (by rw [row]; rfl)) fresh
  | updateCampaign campaignId payload =>
    simp only [request, WorkflowStore.updateCampaign] at accepted
    split at accepted
    · cases accepted
    · rename_i campaign row
      cases accepted
      refine .insert rfl fun before row' => ?_
      rw [row] at row'
      cases row'
      exact .inl (Nat.lt_succ_self _)
  | createWorkflow campaignId workflowId =>
    simp only [request] at accepted
    refine .of_campaigns ?_
    unfold WorkflowStore.createWorkflow WorkflowStore.insertWorkflow at accepted
    repeat' split at accepted
    all_goals cases accepted
    all_goals rfl
  | decide asked actorId actorRole =>
    simp only [request, WorkflowStore.decide] at accepted
    split at accepted
    · split at accepted
      · cases accepted
      · rename_i pair held
        split at accepted
        · cases accepted
        · split at accepted
          · cases accepted
          · rename_i decision
            cases accepted
            obtain ⟨campaignId, versioned⟩ := versioned_decide decision
            exact (Edited.setPair held campaignId versioned).trans (.of_campaigns rfl)
    · cases accepted
  | act guard action =>
    obtain ⟨pair, pair', held, -, acted, rfl⟩ := act_some accepted
    exact .setPair held (act_fields acted).2.1 (versioned_act acted)

theorem edited_stage {now : Timestamp} {workerId : String} {job : LeasedJob} {jobs : JobStore}
    {id : WorkflowId} {answer : Answer} {store store' : WorkflowStore} {stage : Stage}
    {outcome : Outcome Stage}
    (step : StageStep settings now workerId job jobs id answer store stage store' outcome) :
    Edited store store' := by
  cases step with
  | failed | checked | got | read | snapshot | built | answered | continued | remembered | other =>
    exact .refl store
  | transitioned goesOn rule held => exact .setPair held rfl (.of_same rfl rfl)
  | created | started | completed | recorded => exact .of_campaigns rfl
  | turned held counted =>
    have after := LockedPair.recordLlmCall_ok counted
    exact .setPair held (by rw [after]) (by rw [after]; exact .of_same rfl rfl)
  | saved goesOn held saved => exact .setPair held (versioned_save saved).1 (versioned_save saved).2
  | persisted goesOn =>
    unfold WorkflowStore.persistFailure
    split
    · exact .refl store
    · rename_i held
      split
      · exact .refl store
      · rename_i failed
        obtain ⟨-, rfl⟩ := LockedPair.persistFailure_eq.mp failed
        exact .setPair held rfl (.of_same rfl rfl)

/-- The submission of a job writes none of these tables. -/
theorem submit_writes {submission : Submission} {store : WorkflowStore} {payload : JobPayload}
    {write : JobId → WorkflowStore} (accepted : submit submission store = some (payload, write))
    (jobId : JobId) : write jobId = store := by
  unfold submit at accepted
  split at accepted
  · split at accepted
    · cases accepted
      rfl
    · cases accepted
  · split at accepted
    · cases accepted
    · cases accepted
      rfl

theorem edited_step (w : World (workflowHandlers settings))
    (event : WorldEvent (workflowHandlers settings)) :
    Edited w.resources (w.step settings event).resources := by
  have change := @step_resources _ settings w event
  generalize (w.step settings event).resources = store at change ⊢
  cases change with
  | same | ensured | reconciled | cancelled | prepared => exact .refl _
  | submitted jobId' accepted =>
    rename_i submission _ _ _ _ _ payload write
    have accepted' : submit submission w.resources = some (payload, write) := accepted
    rw [submit_writes accepted' jobId']
    exact .refl _
  | requested accepted =>
    rename_i asked _
    obtain ⟨store', stored, result⟩ : ∃ store', request w.now asked w.resources = some store' ∧
      (store', none) = (store, _) := Option.map_eq_some_iff.mp accepted
    cases result
    exact edited_request stored
  | handled found phase => exact edited_stage (handle_step ..)

/-! ### Runs -/

theorem edited_run (w : World (workflowHandlers settings))
    (events : List (WorldEvent (workflowHandlers settings))) :
    Edited w.resources ((workflowApplication settings).run w events).resources := by
  induction events generalizing w with
  | nil => exact .refl _
  | cons event events ih => exact (edited_step w event).trans (ih _)

/-- An accepted request is what the step commits. -/
theorem step_request {w : World (workflowHandlers settings)} {asked : Request} {store : WorkflowStore}
    (accepted : request w.now asked w.resources = some store) :
    (w.step settings (.request asked)).resources = store := by
  have requested : (workflowHandlers settings).request w.now asked w.resources =
      some (store, none) := by
    show (request w.now asked w.resources).map _ = _
    rw [accepted]
    rfl
  simp only [World.step, World.request, requested]
  rfl

/-- An action that is accepted finds its campaign at the version for which it was reserved. -/
theorem accepted_act {now : Timestamp} {guard : ActionExecutionGuard}
    {action : WorkflowStore.CampaignAction} {store store' : WorkflowStore}
    (accepted : request now (.act guard action) store = some store') :
    ∃ campaign campaign', store.campaigns.lookup guard.campaignId = some campaign ∧
      store'.campaigns.lookup guard.campaignId = some campaign' ∧
        campaign.version = guard.expectedCampaignVersion ∧
          campaign'.fields = action.edit campaign.fields ∧
            campaign'.version = campaign.version + action.edits.toNat := by
  obtain ⟨pair, pair', held, same, acted, rfl⟩ := act_some accepted
  obtain ⟨expected, campaignId, fields, version⟩ := act_fields acted
  have row := (WorkflowStore.pair_eq_some.mp held).2
  rw [same] at row campaignId
  refine ⟨pair.campaign, pair'.campaign, row, ?_, expected, fields, version⟩
  show (store.campaigns.insert pair'.workflow.campaignId pair'.campaign).lookup _ = _
  rw [campaignId]
  exact AList.lookup_insert _

/-- The version of a campaign is an optimistic lock, in every run of workers and requests. No version
falls, and the fields change only with it. An action that is accepted edits the very fields for which
it was reserved, whatever has happened in between; and once one has edited them, every other action
that was reserved at this version or before is refused. -/
theorem guarded_actions (settings : Settings)
    (events : List (WorldEvent (workflowHandlers settings))) :
    (workflowApplication settings).Between (fun w w' => Edited w.resources w'.resources)
        (workflowApplication settings).init events ∧
      ∀ before middle after guard action,
        before ++ middle ++ .request (.act guard action) :: after = events →
        let reserved := (workflowApplication settings).run (workflowApplication settings).init before
        let found := (workflowApplication settings).run reserved middle
        ∀ acted, request found.now (.act guard action) found.resources = some acted →
          (∀ seen, reserved.resources.campaigns.lookup guard.campaignId = some seen →
            seen.version = guard.expectedCampaignVersion →
              ∃ campaign campaign', found.resources.campaigns.lookup guard.campaignId = some campaign ∧
                campaign.fields = seen.fields ∧
                acted.campaigns.lookup guard.campaignId = some campaign' ∧
                campaign'.fields = action.edit seen.fields) ∧
          (action.edits = true → ∀ later guard' action' rest,
            later ++ .request (.act guard' action') :: rest = after →
            guard'.campaignId = guard.campaignId →
            guard'.expectedCampaignVersion ≤ guard.expectedCampaignVersion →
              let last := (workflowApplication settings).run found
                (.request (.act guard action) :: later)
              request last.now (.act guard' action') last.resources = none) := by
  refine ⟨?_, ?_⟩
  · intro before middle after whole
    rw [Machine.run_append]
    exact edited_run _ middle
  · intro before middle after guard action whole reserved found acted accepted
    obtain ⟨campaign, campaign', row, row', expected, fields, version⟩ := accepted_act accepted
    refine ⟨?_, ?_⟩
    · intro seen held same
      obtain ⟨now, row'', versioned⟩ := edited_run reserved middle _ seen held
      rw [row] at row''
      cases row''
      rcases versioned with newer | ⟨-, kept⟩
      · omega
      · exact ⟨campaign, campaign', row, kept, row', by rw [fields, kept]⟩
    · intro edits later guard' action' rest _ sameCampaign stale last
      cases refused : request last.now (.act guard' action') last.resources with
      | none => rfl
      | some store =>
        obtain ⟨current, -, currentRow, -, expected', -⟩ := accepted_act refused
        have evolved := edited_run ((workflowApplication settings).step found
          (.request (.act guard action))) later
        have committed : ((workflowApplication settings).step found
          (.request (.act guard action))).resources = acted := step_request accepted
        rw [committed] at evolved
        obtain ⟨latest, latestRow, versioned⟩ := evolved _ campaign' row'
        rw [sameCampaign] at currentRow
        have same : some current = some latest := currentRow.symm.trans latestRow
        cases same
        rw [edits] at version
        have least : campaign'.version ≤ current.version := by
          rcases versioned with newer | ⟨same, -⟩ <;> omega
        simp only [Bool.toNat_true] at version
        omega

/-- The guard of an action on a new campaign and its workflow. -/
def freshGuard : ActionExecutionGuard where
  campaignId := "spring-launch"
  workflowId := 1
  expectedCampaignStatus := .received
  expectedCampaignVersion := 1
  expectedWorkflowStatus := .received
  expectedRevisionNumber := 0

/-- Two managers have approved an edit of the same campaign. -/
def racingRun : List (WorldEvent (workflowHandlers {})) :=
  [.request (.createCampaign "spring-launch"
      { brief := {}, tone := "calm", targetAudience := "adults", promotion := none }),
    .request (.createWorkflow "spring-launch" 1),
    .request (.act freshGuard (.updateCampaignMetadata (some "bold") none none)),
    .request (.act freshGuard (.updateCampaignMetadata (some "warm") none none))]

/-- The second of them is refused. -/
theorem guarded_actions_race :
    let last := (workflowApplication {}).run (workflowApplication {}).init (racingRun.take 3)
    request last.now (.act freshGuard (.updateCampaignMetadata (some "warm") none none))
      last.resources = none := by
  have accepted : (request 0 (.act freshGuard (.updateCampaignMetadata (some "bold") none none))
      ((workflowApplication {}).run (workflowApplication {}).init
        (racingRun.take 2)).resources).isSome = true := by decide +kernel
  obtain ⟨acted, committed⟩ := Option.isSome_iff_exists.mp accepted
  exact ((guarded_actions {} racingRun).2 (racingRun.take 2) [] _ freshGuard
    (.updateCampaignMetadata (some "bold") none none) rfl acted committed).2 rfl [] freshGuard _ []
    rfl rfl (Nat.le_refl _)

end CyberLegends.Workflow
