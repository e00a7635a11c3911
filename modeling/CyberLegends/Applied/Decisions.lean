import CyberLegends.Applied.Changes

/-! Human decisions on media assets. A decided asset stays as it was decided exactly as long as none
of the writers that do not protect it acts on it. -/

namespace CyberLegends.Applied

open CyberLegends.Core Lib Jobs

variable {settings : Settings} {w : World jobHandlers}

/-- The statuses that a human review leaves. -/
def decided (status : MediaAssetStatus) : Bool := status = .approved ∨ status = .rejected

def Resources.decidedAsset (r : Resources) (assetId : Uuid) : Bool :=
  (r.assets.lookup assetId).any fun asset => decided asset.status

/-- Decided assets keep their status and get no new generation attempt. -/
structure DecisionsKept (r r' : Resources) : Prop where
  status : ∀ assetId asset, r.assets.lookup assetId = some asset → decided asset.status = true →
    ∃ asset', r'.assets.lookup assetId = some asset' ∧ asset'.status = asset.status
  attempts : ∀ assetId, r.decidedAsset assetId = true → ∀ attemptId attempt,
    r'.attempts.lookup attemptId = some attempt → attempt.mediaAssetId = assetId →
      ∃ before, r.attempts.lookup attemptId = some before ∧ before.mediaAssetId = assetId

/-! ### The condition -/

/-- What the check after a handler has read lists no started attempt. -/
def checkSpares : Read → Bool
  | .media active _ _ => active = []
  | _ => true

/-- The reconciler leaves the status of the asset that it has read, or sets it to what it is. -/
def reconcileSpares (cancelled : Bool) : Read → Bool
  | .media _ (some asset) _ =>
    asset.status = .approved ∨ asset.status = .rejected ∨ asset.status = .readyForReview ∨
      asset.status = if cancelled then .cancelled else .failed
  | _ => true

/-- The retry sets the status of the asset that it has read to what it is. -/
def retrySpares : Read → Bool
  | .media _ (some asset) _ => asset.status = .requested
  | _ => true

/-- The next transaction of a run does not overwrite a decision on the asset of its job. -/
def runSpares (r : Resources) (answer : Answer) (run : ProcessRun jobHandlers) (kind : MediaKind)
    (assetId : Uuid) : Bool :=
  match run.phase with
  | .handling (.media .start) =>
    match answer with
    | .proceed _ => !(r.assets.lookup assetId).any fun asset => startable r kind asset
    | _ => true
  | .ensuring (some read) => checkSpares read
  | .reconciling cancelled _ _ (some read) => reconcileSpares cancelled read
  | _ => true

def callSpares (call : ApiCall jobHandlers) : Bool :=
  match call.kind, call.read with
  | .cancel, some read => reconcileSpares true read
  | .retry, some read => retrySpares read
  | _, none => true

/-- The event does not overwrite a decision: no generation starts on a decided asset, no check after
its handler has read a started attempt of one, and no reconciler and no retry writes over one. -/
def SparesDecisions (w : World jobHandlers) (event : WorldEvent jobHandlers) : Prop :=
  match event with
  | .process id answer =>
    ∀ run, w.runs.lookup id = some run → ∀ kind assetId,
      assetOf run.job.payload = some (kind, assetId) → w.resources.decidedAsset assetId = true →
        runSpares w.resources answer run kind assetId = true
  | .call id =>
    ∀ call, w.calls.lookup id = some call → ∀ kind assetId,
      assetOf call.job.payload = some (kind, assetId) → w.resources.decidedAsset assetId = true →
        callSpares call = true
  | _ => True

/-! ### Transactions that spare decisions -/

namespace DecisionsKept

theorem refl (r : Resources) : DecisionsKept r r where
  status _ asset row _ := ⟨asset, row, rfl⟩
  attempts _ _ _ attempt row owner := ⟨attempt, row, owner⟩

theorem trans {r r' r'' : Resources} (first : DecisionsKept r r') (second : DecisionsKept r' r'') :
    DecisionsKept r r'' where
  status assetId asset row isDecided := by
    obtain ⟨asset', row', same⟩ := first.status assetId asset row isDecided
    obtain ⟨asset'', row'', same'⟩ :=
      second.status assetId asset' row' (by rw [same]; exact isDecided)
    exact ⟨asset'', row'', same'.trans same⟩
  attempts assetId isDecided attemptId attempt row owner := by
    obtain ⟨asset, found, held⟩ := (Option.any_eq_true ..).mp isDecided
    obtain ⟨asset', row', same⟩ := first.status assetId asset found held
    have still : r'.decidedAsset assetId = true := by
      unfold Resources.decidedAsset
      rw [row', Option.any_some, same]
      exact held
    obtain ⟨middle, rowMiddle, ownerMiddle⟩ :=
      second.attempts assetId still attemptId attempt row owner
    exact first.attempts assetId isDecided attemptId middle rowMiddle ownerMiddle

theorem of_assets {r r' : Resources} (assets : r'.assets = r.assets) (old : OldAttempts r r') :
    DecisionsKept r r' where
  status assetId asset row _ := ⟨asset, by rw [assets]; exact row, rfl⟩
  attempts assetId _ attemptId attempt row owner := by
    obtain ⟨before, row', same⟩ := old attemptId attempt row
    exact ⟨before, row', same.trans owner⟩

/-- The write of one asset that is not decided, or that keeps its status. -/
theorem of_insert {r r' : Resources} {assetId : Uuid} {asset : MediaAssetModel}
    (assets : r'.assets = r.assets.insert assetId asset)
    (kept : ∀ before, r.assets.lookup assetId = some before → decided before.status = true →
      asset.status = before.status)
    (old : OldAttempts r r') : DecisionsKept r r' where
  status other before row isDecided := by
    rw [assets]
    by_cases same : other = assetId
    · subst same
      exact ⟨asset, AList.lookup_insert .., kept before row isDecided⟩
    · exact ⟨before, (AList.lookup_insert_ne same).trans row, rfl⟩
  attempts other _ attemptId attempt row owner := by
    obtain ⟨before, row', same⟩ := old attemptId attempt row
    exact ⟨before, row', same.trans owner⟩

end DecisionsKept

/-! ### Transactions -/

section

variable {r : Resources}

theorem submit_kept {now : Timestamp} {submission : Submission} {payload : JobPayload}
    {write : JobId → Resources} (h : submit now submission r = some (payload, write))
    (jobId : JobId) : DecisionsKept r (write jobId) := by
  have added : ∀ {assetId taskRunId : Uuid},
      ¬ (taskRunId ∈ r.tasks ∨ assetId ∈ r.assets) → DecisionsKept r
        { r with
          tasks := r.tasks.insert taskRunId {}
          assets := r.assets.insert assetId { taskRunId := some taskRunId } } := by
    intro assetId taskRunId fresh
    refine .of_insert rfl ?_ (.refl r)
    intro before row
    exact absurd (AList.lookup_isSome.mp (by rw [row]; rfl)) (not_or.mp fresh).2
  unfold submit at h
  split at h
  · split at h <;> cases h
    exact .of_assets rfl (.refl r)
  · split at h <;> cases h
    exact .of_assets rfl (.refl r)
  · split at h <;> cases h
    exact added ‹_›
  · split at h <;> cases h
    exact added ‹_›
  · split at h
    · cases h
    · split at h <;> cases h
      exact .of_assets rfl (.refl r)
  · split at h
    · cases h
    · split at h <;> cases h
      exact .of_assets rfl (.refl r)
  · split at h <;> cases h
    exact .of_assets rfl (.refl r)
  · split at h <;> cases h
    exact .refl r

/-- A review decides an asset that is ready for it. -/
theorem review_ready {now : Timestamp} {assetId : Uuid} {decision : Resources.Decision}
    {actorId : String} {role : UserRole} {r' : Resources}
    (h : r.review now assetId decision actorId role = some r') :
    ∃ asset asset', r.assets.lookup assetId = some asset ∧ asset.status = .readyForReview ∧
      decided asset'.status = true ∧ asset'.taskRunId = asset.taskRunId ∧
      r'.assets = r.assets.insert assetId asset' ∧ r'.attempts = r.attempts ∧
      r'.tasks = r.tasks := by
  unfold Resources.review at h
  split at h
  · cases h
  split at h
  · cases h
  rename_i asset row
  split at h
  · cases h
  rename_i ready
  split at h
  · cases h
    exact ⟨asset,
      { asset with status := .approved, approvedBy := some actorId, approvedAt := some now }, row,
      not_not.mp ready, rfl, rfl, by simp, by simp, by simp⟩
  · rename_i comment
    split at h <;> cases h
    exact ⟨asset,
      { asset with
        status := .rejected, rejectedBy := some actorId, rejectedAt := some now
        rejectionReason := some comment }, row,
      not_not.mp ready, rfl, rfl, by simp, by simp, by simp⟩

theorem request_kept {now : Timestamp} {req : Request} {r' : Resources} {jobId : Option JobId}
    (h : request now req r = some (r', jobId)) : DecisionsKept r r' := by
  unfold request at h
  split at h
  · obtain ⟨reviewed, result, same⟩ := Option.map_eq_some_iff.mp h
    cases same
    obtain ⟨asset, asset', row, ready, -, -, assets, attempts, -⟩ := review_ready result
    refine .of_insert assets ?_ (.of_same attempts)
    intro before row' isDecided
    obtain rfl := Option.some.inj (row.symm.trans row')
    rw [ready] at isDecided
    cases isDecided
  · split at h <;> cases h
    exact .of_assets rfl (.refl r)
  · split at h <;> cases h
    exact .of_assets rfl (.refl r)
  · split at h <;> cases h
    exact .of_assets (by simp) (.of_same (by simp))
  · obtain ⟨experiment, -, same⟩ := Option.map_eq_some_iff.mp h
    cases same
    exact .of_assets rfl (.refl r)
  · split at h
    · cases h
    · obtain ⟨comparison, -, same⟩ := Option.map_eq_some_iff.mp h
      cases same
      exact .of_assets rfl (.refl r)

/-- The flush of an asset keeps a decision when it does not change the status that was read. -/
theorem flushAsset_kept {assetId : Uuid} {loaded assigned : MediaAssetModel}
    (spares : r.decidedAsset assetId = true → assigned.status = loaded.status) :
    DecisionsKept r (r.flushAsset assetId loaded assigned) := by
  obtain ⟨-, same⟩ | ⟨committed, row, written⟩ := flushAsset_cases r assetId loaded assigned
  · rw [same]
    exact .refl r
  · rw [written]
    refine .of_insert rfl ?_ (.refl r)
    intro before row' isDecided
    obtain rfl := Option.some.inj (row.symm.trans row')
    have unchanged := spares (by simp [Resources.decidedAsset, row, isDecided])
    simp [MediaAssetModel.flush, unchanged]

theorem flushTask_kept (r : Resources) (id : Uuid) (loaded assigned : AppliedWorkflowTaskModel) :
    DecisionsKept r (r.flushTask id loaded assigned) :=
  .of_assets (by simp) (.of_same (by simp))

theorem ReconcileChange.kept {now : Timestamp} {job : LeasedJob} {read : Read} {cancelled : Bool}
    {errorCode errorMessage : String} {r' : Resources}
    (change : ReconcileChange now job cancelled errorCode errorMessage r read r')
    (spares : ∀ kind assetId, assetOf job.payload = some (kind, assetId) →
      r.decidedAsset assetId = true → reconcileSpares cancelled read = true) :
    DecisionsKept r r' := by
  have closed : ∀ active, DecisionsKept r
      (r.closeMedia now cancelled errorCode errorMessage active) :=
    fun active => .of_assets (by simp [Resources.closeMedia]) (terminalize_old _ _ _ _ active r)
  cases change with
  | same => exact .refl r
  | task => exact flushTask_kept ..
  | attempts => exact closed _
  | @media kind assetId active asset task payload unguarded =>
    have ended : DecisionsKept r
        ((r.closeMedia now cancelled errorCode errorMessage active).flushAsset assetId asset
          (Resources.endAsset now cancelled errorCode errorMessage asset)) := by
      refine (closed active).trans (flushAsset_kept ?_)
      intro isDecided
      have spared := spares kind assetId payload (by
        simpa [Resources.decidedAsset, Resources.closeMedia] using isDecided)
      simp only [guarded, decide_eq_false_iff_not, not_or] at unguarded
      simpa [reconcileSpares, unguarded, Resources.endAsset, eq_comm] using spared
    exact ended.trans (.of_assets (by simp) (.of_same (by simp)))
  | experiment => exact .of_assets rfl (.refl r)
  | comparison => exact .of_assets rfl (.refl r)

theorem RetryChange.kept {job : LeasedJob} {read : Read} {r' : Resources}
    (change : RetryChange job r read r')
    (spares : ∀ kind assetId, assetOf job.payload = some (kind, assetId) →
      r.decidedAsset assetId = true → retrySpares read = true) :
    DecisionsKept r r' := by
  cases change with
  | same => exact .refl r
  | task => exact flushTask_kept ..
  | @media kind assetId active asset task payload =>
    have reset : DecisionsKept r (r.flushAsset assetId asset (Resources.resetAsset asset)) := by
      refine flushAsset_kept ?_
      intro isDecided
      have spared := spares kind assetId payload isDecided
      simpa [retrySpares, Resources.resetAsset, eq_comm] using spared
    exact reset.trans (.of_assets (by simp) (.of_same (by simp)))
  | experiment => exact .of_assets rfl (.refl r)
  | comparison => exact .of_assets rfl (.refl r)

theorem EnsureChange.kept {now : Timestamp} {job : LeasedJob} {read : Read} {r' : Resources}
    (change : EnsureChange now job r read r')
    (spares : ∀ kind assetId, assetOf job.payload = some (kind, assetId) →
      r.decidedAsset assetId = true → checkSpares read = true) :
    DecisionsKept r r' := by
  cases change with
  | same => exact .refl r
  | @orphaned kind assetId active asset task payload unfinished =>
    have assets := failOrphaned_assets r now assetId active
    have old := failOrphaned_old r now assetId active
    cases row : r.assets.lookup assetId with
    | none =>
      simp only [row] at assets
      exact .of_assets assets old
    | some before =>
      simp only [row] at assets
      refine .of_insert assets ?_ old
      intro before' row' isDecided
      obtain rfl := Option.some.inj (row.symm.trans row')
      -- a decided asset without started attempts is consistent
      have none : active = [] := by
        simpa [checkSpares] using spares kind assetId payload
          (by simp [Resources.decidedAsset, row, isDecided])
      obtain absent | ⟨row', found, unguarded⟩ := unfinished none
      · rw [row] at absent
        cases absent
      · obtain rfl := Option.some.inj (row.symm.trans found)
        revert isDecided unguarded
        cases before.status <;> simp [decided, guarded]

theorem HandlerChange.kept {now : Timestamp} {workerId : String} {job : LeasedJob}
    {answer : Answer} {jobs : JobStore} {handler : Handler} {r' : Resources}
    (change : HandlerChange now workerId job answer jobs r handler r')
    (spares : ∀ kind assetId output, assetOf job.payload = some (kind, assetId) →
      r.decidedAsset assetId = true → handler = .media .start → answer = .proceed output →
        (r.assets.lookup assetId).any (fun asset => startable r kind asset) = false) :
    DecisionsKept r r' := by
  cases change with
  | same => exact .refl r
  | taskStarted => exact flushTask_kept ..
  | taskCompleted => exact .of_assets (by simp) (.of_same (by simp))
  | @mediaStarted kind assetId attemptId output _ payload proceeds started =>
    obtain ⟨asset, asset', starts⟩ := startMedia_started started
    have undecided : r.decidedAsset assetId = false := by
      cases isDecided : r.decidedAsset assetId with
      | false => rfl
      | true =>
        have spared := spares kind assetId output payload isDecided rfl proceeds
        rw [starts.row, Option.any_some, starts.starts] at spared
        cases spared
    have free : decided asset.status = false := by
      simpa [Resources.decidedAsset, starts.row] using undecided
    refine ⟨?_, ?_⟩
    · intro other before row isDecided
      have ne : other ≠ assetId := by
        rintro rfl
        obtain rfl := Option.some.inj (starts.row.symm.trans row)
        rw [free] at isDecided
        cases isDecided
      exact ⟨before, by rw [starts.assets, AList.lookup_insert_ne ne, row], rfl⟩
    · intro other isDecided attempt row found owner
      rw [starts.attempts] at found
      obtain ⟨-, rfl⟩ | ⟨-, held⟩ := Table.lookup_insert_cases found
      · simp only at owner
        rw [← owner, undecided] at isDecided
        cases isDecided
      · exact ⟨row, held, owner⟩
  | @mediaFinalized kind assetId attemptId output _ payload finalized =>
    obtain ⟨asset, asset', attempt, final⟩ := finalizeMedia_finalized finalized
    obtain ⟨attempt', owner, -, attempts⟩ := final.attempts
    refine .of_insert final.assets ?_ ?_
    · intro before row isDecided
      obtain rfl := Option.some.inj (final.row.symm.trans row)
      rw [final.generating] at isDecided
      cases isDecided
    · intro other found held
      rw [attempts] at held
      obtain ⟨rfl, rfl⟩ | ⟨-, before⟩ := Table.lookup_insert_cases held
      · exact ⟨attempt, final.attemptRow, owner.symm⟩
      · exact ⟨found, before, rfl⟩
  | mediaFinished => exact .of_assets (by simp) (finishAttempt_old _ _ _ _ _ _ _)
  | experimentRan => exact .of_assets rfl (.refl r)
  | comparisonRan => exact .of_assets rfl (.refl r)
  | evaluationRan => exact .of_assets rfl (.refl r)

/-! ### Transactions that do not -/

/-- The asset had a decision in `r` and has another status in `r'`. -/
theorem not_kept {r' : Resources} {assetId : Uuid} (isDecided : r.decidedAsset assetId = true)
    (lost : ∃ asset, r'.assets.lookup assetId = some asset ∧ decided asset.status = false) :
    ¬ DecisionsKept r r' := by
  intro kept
  obtain ⟨asset, row, held⟩ := (Option.any_eq_true ..).mp isDecided
  obtain ⟨asset', row', same⟩ := kept.status assetId asset row held
  obtain ⟨found, found', undecided⟩ := lost
  obtain rfl := Option.some.inj (row'.symm.trans found')
  rw [same, held] at undecided
  cases undecided

theorem reconcile_overwrites {now : Timestamp} {job : LeasedJob} {read : Read} {cancelled : Bool}
    {errorCode errorMessage : String} {kind : MediaKind} {assetId : Uuid}
    (payload : assetOf job.payload = some (kind, assetId))
    (isDecided : r.decidedAsset assetId = true)
    (overwrites : reconcileSpares cancelled read = false) :
    ¬ DecisionsKept r (r.reconcile now job read cancelled errorCode errorMessage) := by
  obtain ⟨committed, row, -⟩ := (Option.any_eq_true ..).mp isDecided
  cases read with
  | nothing | task | experiment => cases overwrites
  | media active asset task =>
    cases asset with
    | none => cases overwrites
    | some asset =>
      simp only [reconcileSpares, decide_eq_false_iff_not, not_or] at overwrites
      obtain ⟨unapproved, unrejected, unready, changed⟩ := overwrites
      rw [reconcile_media payload]
      simp only [guarded, unapproved, unrejected, unready, or_self, decide_false,
        Bool.false_eq_true, if_false]
      refine not_kept isDecided ?_
      have row' : (r.closeMedia now cancelled errorCode errorMessage active).assets.lookup assetId =
          some committed := by
        rw [Resources.closeMedia_assets, row]
      have ends : (Resources.endAsset now cancelled errorCode errorMessage asset).status ≠
          asset.status := Ne.symm changed
      obtain ⟨ended, found, status⟩ := flushAsset_status row' ends
      refine ⟨ended, by rw [Resources.endMedia_assets, found], ?_⟩
      rw [status]
      cases cancelled <;> rfl

theorem prepareRetry_overwrites {job : LeasedJob} {read : Read} {kind : MediaKind}
    {assetId : Uuid} (payload : assetOf job.payload = some (kind, assetId))
    (isDecided : r.decidedAsset assetId = true) (overwrites : retrySpares read = false) :
    ¬ DecisionsKept r (r.prepareRetry job read) := by
  obtain ⟨committed, row, -⟩ := (Option.any_eq_true ..).mp isDecided
  cases read with
  | nothing | task | experiment => cases overwrites
  | media active asset task =>
    cases asset with
    | none => cases overwrites
    | some asset =>
      have changed : asset.status ≠ .requested := by simpa [retrySpares] using overwrites
      rw [prepareRetry_media payload]
      refine not_kept isDecided ?_
      have resets : (Resources.resetAsset asset).status ≠ asset.status := Ne.symm changed
      obtain ⟨reset, found, status⟩ := flushAsset_status row resets
      exact ⟨reset, by rw [Resources.resetMedia_assets, found], by rw [status]; rfl⟩

theorem ensure_overwrites {now : Timestamp} {job : LeasedJob} {read : Read} {kind : MediaKind}
    {assetId : Uuid} (payload : assetOf job.payload = some (kind, assetId))
    (isDecided : r.decidedAsset assetId = true) (overwrites : checkSpares read = false) :
    ¬ DecisionsKept r (r.ensureSuccessConsistency now job read).1 := by
  obtain ⟨committed, row, -⟩ := (Option.any_eq_true ..).mp isDecided
  cases read with
  | nothing | task | experiment => cases overwrites
  | media active asset task =>
    have some_active : active ≠ [] := by simpa [checkSpares] using overwrites
    rw [ensureSuccessConsistency_media payload, if_neg (fun none => some_active none.1)]
    refine not_kept isDecided
      ⟨Resources.endAsset now false Resources.orphanedCode Resources.incomplete committed, ?_, rfl⟩
    rw [failOrphaned_assets, row]
    exact AList.lookup_insert ..

theorem start_overwrites {now : Timestamp} {workerId : String} {job : LeasedJob}
    {jobs : JobStore} {output : String} {kind : MediaKind} {assetId : Uuid}
    (payload : assetOf job.payload = some (kind, assetId))
    (isDecided : r.decidedAsset assetId = true)
    (overwrites : (r.assets.lookup assetId).any (fun asset => startable r kind asset) = true) :
    ¬ DecisionsKept r (handle now workerId job (.proceed output) jobs r (.media .start)).1 := by
  obtain ⟨asset, row, starts⟩ := (Option.any_eq_true ..).mp overwrites
  obtain ⟨attemptId, r', started⟩ := @startMedia_starts now workerId job r kind assetId asset row
    starts
  have written : (handle now workerId job (.proceed output) jobs r (.media .start)).1 = r' := by
    rw [handle_media payload]
    simp only [handleMedia, started]
  rw [written]
  obtain ⟨before, asset', started⟩ := startMedia_started started
  refine not_kept isDecided ⟨asset', by rw [started.assets]; exact AList.lookup_insert .., ?_⟩
  rw [started.generating]
  rfl

end

/-! ### Runs -/

theorem step_kept {event : WorldEvent jobHandlers} (spares : SparesDecisions w event) :
    DecisionsKept w.resources (w.step settings event).resources := by
  have change := @step_change settings w event
  generalize (w.step settings event).resources = r' at change ⊢
  cases change with
  | same => exact .refl _
  | submitted jobId accepted => exact submit_kept accepted jobId
  | requested accepted => exact request_kept accepted
  | @handled id answer run handler found phase =>
    refine (handle_change handler).kept ?_
    rintro kind assetId output payload isDecided rfl rfl
    have spared := spares run found kind assetId payload isDecided
    simpa only [runSpares, phase, Bool.not_eq_true'] using spared
  | @ensured id answer run read found phase =>
    refine (ensureSuccessConsistency_change read).kept ?_
    intro kind assetId payload isDecided
    simpa only [runSpares, phase] using spares run found kind assetId payload isDecided
  | @reconciled id answer run cancelled errorCode errorMessage read found phase =>
    refine (reconcile_change read cancelled errorCode errorMessage).kept ?_
    intro kind assetId payload isDecided
    simpa only [runSpares, phase] using spares run found kind assetId payload isDecided
  | @cancelled id call read found kind loaded =>
    refine (reconcile_change read true "JOB_CANCELLED" "Background job was cancelled").kept ?_
    intro mediaKind assetId payload isDecided
    simpa only [callSpares, kind, loaded] using spares call found mediaKind assetId payload isDecided
  | @prepared id call read found kind loaded =>
    refine (prepareRetry_change read).kept ?_
    intro mediaKind assetId payload isDecided
    simpa only [callSpares, kind, loaded] using spares call found mediaKind assetId payload isDecided

/-- The resources after a transaction of a run that is not closing. -/
theorem process_resources {id : RunId} {run : ProcessRun jobHandlers} {answer : jobHandlers.Answer}
    (found : w.runs.lookup id = some run) (unclosed : ∀ raised, run.phase ≠ .closing raised) :
    (w.step settings (.process id answer)).resources =
      (run.advance settings w.now answer w.jobs w.resources).2.1 := by
  simp only [World.step, World.process, found]
  cases phase : run.phase with
  | closing raised => exact absurd phase (unclosed raised)
  | _ => rfl

theorem step_kept_iff (w : World jobHandlers) (event : WorldEvent jobHandlers) :
    DecisionsKept w.resources (w.step settings event).resources ↔ SparesDecisions w event := by
  refine ⟨fun kept => ?_, step_kept⟩
  cases event with
  | process id answer =>
    intro run found kind assetId payload isDecided
    by_contra overwrites
    have overwrites : runSpares w.resources answer run kind assetId = false := by
      simpa using overwrites
    unfold runSpares at overwrites
    split at overwrites
    · rename_i phase
      rw [process_resources found (by rw [phase]; nofun)] at kept
      simp only [ProcessRun.advance, phase] at kept
      match answer, overwrites, kept with
      | .proceed _, overwrites, kept =>
        exact start_overwrites payload isDecided (by simpa using overwrites) kept
    · rename_i read phase
      rw [process_resources found (by rw [phase]; nofun)] at kept
      simp only [ProcessRun.advance, phase] at kept
      exact ensure_overwrites payload isDecided overwrites kept
    · rename_i cancelled errorCode errorMessage read phase
      rw [process_resources found (by rw [phase]; nofun)] at kept
      simp only [ProcessRun.advance, phase] at kept
      exact reconcile_overwrites payload isDecided overwrites kept
    · cases overwrites
  | call id =>
    intro call found kind assetId payload isDecided
    by_contra overwrites
    have overwrites : callSpares call = false := by simpa using overwrites
    unfold callSpares at overwrites
    split at overwrites
    · rename_i read cancels loaded
      simp only [World.step, World.call, found, cancels, loaded] at kept
      exact reconcile_overwrites payload isDecided overwrites kept
    · rename_i read retries loaded
      simp only [World.step, World.call, found, retries, loaded] at kept
      exact prepareRetry_overwrites payload isDecided overwrites kept
    · cases overwrites
  | _ => trivial

/-- In a run, decided assets keep their status and get no new attempt, from any state on, exactly
when no event of the run overwrites a decision. -/
theorem decisions_final_iff (settings : Settings) (resources : Resources)
    (events : List (WorldEvent jobHandlers)) :
    let M : Machine (World jobHandlers) (WorldEvent jobHandlers) :=
      workerMachine settings resources
    M.Between (fun w w' => DecisionsKept w.resources w'.resources) M.init events ↔
      M.Meets SparesDecisions M.init events := by
  intro M
  rw [Machine.between_iff_steps (fun w => .refl w.resources) (fun _ _ _ => .trans)]
  exact Machine.steps_iff_meets step_kept_iff

/-- A worker finalizes an image and dies before it reports the job as complete. A reviewer rejects
the image, the job is reclaimed, and a second worker is about to start over. -/
def rejectedRun : List (WorldEvent jobHandlers) :=
  [.submit (.requestImage 7 8) 1 50 none none "image", .lease "first" none [] 0,
    .process 0 .last, .process 0 (.proceed ""), .process 0 (.proceed ""),
    .process 0 (.proceed "image://7"), .process 0 (.proceed ""), .process 0 (.proceed ""),
    .crash "first", .request (.review 7 (.reject "Blurred") "reviewer" .reviewer),
    .tick (seconds 600), .reclaim none [], .tick (seconds 600), .lease "second" none [] 0,
    .process 1 .last, .process 1 (.proceed "")]

/-- The start of the second generation takes the rejection back. -/
theorem rejected_run_not_final :
    ¬ application.Between (fun w w' => DecisionsKept w.resources w'.resources) application.init
        (rejectedRun ++ [.process 1 (.proceed "")]) := by
  intro final
  have kept := final rejectedRun [.process 1 (.proceed "")] [] rfl
  have rejected : (application.run application.init rejectedRun).resources.decidedAsset 7 = true := by
    decide +kernel
  have generating : ((application.run application.init
      (rejectedRun ++ [.process 1 (.proceed "")])).resources.assets.lookup 7).any
        (fun asset => !decided asset.status) = true := by
    decide +kernel
  obtain ⟨asset, row, undecided⟩ := (Option.any_eq_true ..).mp generating
  exact not_kept rejected ⟨asset, row, by simpa using undecided⟩ kept

end CyberLegends.Applied
