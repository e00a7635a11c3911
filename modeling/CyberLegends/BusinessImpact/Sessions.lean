import CyberLegends.BusinessImpact.Records
import CyberLegends.Lib.Session

/-! Feedback and reviews that come in several sessions at a time. A request reads its rows without a lock,
looks at the version that it has read, and writes the columns that it changes at its commit. -/

namespace CyberLegends.BusinessImpact

open CyberLegends.Core Lib Actions Security DataAnalysis

/-! ### Flushes -/

/-- A changed number is written, also when the column rounds it to what was loaded. -/
def flushMinutes (loaded : Numeric 12 2) (raw : Decimal) (assigned committed : Numeric 12 2) :
    Numeric 12 2 :=
  if raw.toRat = loaded.toDecimal.toRat then committed else assigned

def AITaskImpactModel.flush (loaded assigned committed : AITaskImpactModel) (editing : Decimal) :
    AITaskImpactModel :=
  { committed with
    outputAccepted :=
      Lib.flush loaded.outputAccepted assigned.outputAccepted committed.outputAccepted
    acceptedWithoutEditing := Lib.flush loaded.acceptedWithoutEditing
      assigned.acceptedWithoutEditing committed.acceptedWithoutEditing
    editingMinutes := flushMinutes loaded.editingMinutes editing assigned.editingMinutes
      committed.editingMinutes
    reworkCount := Lib.flush loaded.reworkCount assigned.reworkCount committed.reworkCount }

def UserFeedbackModel.flush (loaded assigned committed : UserFeedbackModel) (editing : Decimal) :
    UserFeedbackModel where
  taskType := Lib.flush loaded.taskType assigned.taskType committed.taskType
  promptVersionId :=
    Lib.flush loaded.promptVersionId assigned.promptVersionId committed.promptVersionId
  provider := Lib.flush loaded.provider assigned.provider committed.provider
  model := Lib.flush loaded.model assigned.model committed.model
  rating := Lib.flush loaded.rating assigned.rating committed.rating
  helpfulness := Lib.flush loaded.helpfulness assigned.helpfulness committed.helpfulness
  accuracy := Lib.flush loaded.accuracy assigned.accuracy committed.accuracy
  easeOfUse := Lib.flush loaded.easeOfUse assigned.easeOfUse committed.easeOfUse
  outputAccepted := Lib.flush loaded.outputAccepted assigned.outputAccepted committed.outputAccepted
  acceptedWithoutEditing := Lib.flush loaded.acceptedWithoutEditing
    assigned.acceptedWithoutEditing committed.acceptedWithoutEditing
  editingMinutes := flushMinutes loaded.editingMinutes editing assigned.editingMinutes
    committed.editingMinutes
  reworkCount := Lib.flush loaded.reworkCount assigned.reworkCount committed.reworkCount
  wouldUseAgain := Lib.flush loaded.wouldUseAgain assigned.wouldUseAgain committed.wouldUseAgain
  version := Lib.flush loaded.version assigned.version committed.version
  createdAt := committed.createdAt

/-! ### Requests -/

/-- A request between its reads and its commit; the impact is read after the feedback. -/
structure Pending where
  taskRunId : Uuid
  actorId : String
  task : AppliedWorkflowTaskModel
  data : UserFeedbackCreate
  existing : Option UserFeedbackModel
  impact : Option (Option AITaskImpactModel) := none

namespace Pending
variable (pending : Pending) (now : Timestamp) (store : Store)

def key : Uuid × String := (pending.taskRunId, pending.actorId)

/-- The row that the request asks for. -/
def row : Except ImpactError UserFeedbackModel := do
  let version ← Store.nextVersion now pending.data.expectedVersion pending.existing
  Store.feedbackModel pending.task pending.data version

def updateImpact (loaded : AITaskImpactModel) : Except ImpactError (Table Uuid AITaskImpactModel) := do
  let assigned ← Store.accept pending.data loaded
  match store.impacts.lookup pending.taskRunId with
  | none => .error .integrity
  | some committed =>
    let row := loaded.flush assigned committed pending.data.editingMinutes
    if row.checked then .ok (store.impacts.insert pending.taskRunId row) else .error .integrity

def writeImpact : Except ImpactError (Table Uuid AITaskImpactModel) :=
  match pending.impact.join, pending.data.outputAccepted with
  | some loaded, some _ => pending.updateImpact store loaded
  | _, _ => .ok store.impacts

/-- One row for each task and actor, and no row that breaks a constraint. -/
def writeFeedback (assigned : UserFeedbackModel) :
    Except ImpactError (Table (Uuid × String) UserFeedbackModel) :=
  match pending.existing, store.feedback.lookup pending.key with
  | none, some _ => .error (.m7Conflict "Feedback changed or already exists; refresh and retry")
  | none, none =>
    if assigned.checked then .ok (store.feedback.insert pending.key assigned)
    else .error .integrity
  | some _, none => .error .integrity
  | some loaded, some committed =>
    let row := loaded.flush assigned committed pending.data.editingMinutes
    if row.checked then .ok (store.feedback.insert pending.key row) else .error .integrity

def commit : Except ImpactError Store := do
  let assigned ← pending.row now
  let impacts ← pending.writeImpact store
  let feedback ← pending.writeFeedback store assigned
  return { store with impacts, feedback }

end Pending

/-- A review between its reads and its commit; it keeps its asset locked. -/
structure PendingReview where
  assetId : Uuid
  actorId : String
  decision : ReviewDecision
  asset : MediaAssetModel
  status : MediaAssetStatus
  impact : Option (Uuid × AITaskImpactModel)

namespace PendingReview
variable (pending : PendingReview) (store : Store)

def writeImpact : Except ImpactError (Table Uuid AITaskImpactModel) :=
  match pending.impact with
  | none => .ok store.impacts
  | some (taskRunId, loaded) =>
    match store.impacts.lookup taskRunId with
    | none => .error .integrity
    | some committed =>
      let row := loaded.flush (Store.reviewed pending.decision loaded) committed
        loaded.editingMinutes.toDecimal
      if row.checked then .ok (store.impacts.insert taskRunId row) else .error .integrity

def commit : Except ImpactError Store := do
  let impacts ← pending.writeImpact store
  let reviews ← store.createReview pending.assetId pending.actorId
  return { store with
    assets := store.assets.insert pending.assetId { pending.asset with status := pending.status }
    impacts, reviews }

end PendingReview

/-! ### Runs -/

abbrev SessionId := ℕ

structure World where
  store : Store := {}
  pending : Table SessionId Pending := ∅
  reviews : Table SessionId PendingReview := ∅

/-- Each request has a session of its own. The other calls and services act in between. -/
inductive SessionEvent
  | start (id : SessionId) (taskRunId : Uuid) (data : UserFeedbackCreate)
    (actor : AuthenticatedActor)
  | readImpact (id : SessionId)
  | commit (id : SessionId) (now : Timestamp)
  | startReview (id : SessionId) (assetId : Uuid) (data : MediaReviewRequest)
    (actor : AuthenticatedActor)
  | commitReview (id : SessionId)
  | abandon (id : SessionId)
  | recordImpact (now : Timestamp) (taskRunId : Uuid) (data : TaskImpactCreate)
    (actor : AuthenticatedActor)
  | others (tasks : Table Uuid AppliedWorkflowTaskModel) (baselines : List TaskBaselineModel)
    (assets : Table Uuid MediaAssetModel)

namespace World
variable (w : World)

/-- The read of the task and the feedback. -/
def begin (taskRunId : Uuid) (data : UserFeedbackCreate) (actor : AuthenticatedActor) :
    Except ImpactError Pending := do
  data.validate
  let task ← w.store.eligibleTask taskRunId actor true
  return {
    taskRunId, actorId := actor.actorId, task, data
    existing := w.store.feedback.lookup (taskRunId, actor.actorId) }

/-- The reads of a review. A row that another session has locked is not read. -/
def beginReview (assetId : Uuid) (data : MediaReviewRequest) (actor : AuthenticatedActor) :
    Except ImpactError PendingReview := do
  data.validate
  requireReviewer actor
  let asset ← w.store.reviewableAsset assetId
  let status ← Store.reviewStatus data
  return {
    assetId, actorId := actor.actorId, decision := data.decision, asset, status
    impact := asset.taskRunId.bind fun taskRunId =>
      (w.store.impacts.lookup taskRunId).map fun impact => (taskRunId, impact) }

def locked (assetId : Uuid) : Bool := w.reviews.entries.any fun entry => entry.2.assetId = assetId

def withStore (result : Except ImpactError Store) : World :=
  { w with store := result.toOption.getD w.store }

def step : SessionEvent → World
  | .start id taskRunId data actor =>
    match w.begin taskRunId data actor with
    | .error _ => w
    | .ok pending => { w with pending := w.pending.insert id pending }
  | .readImpact id =>
    match w.pending.lookup id with
    | none => w
    | some pending =>
      if pending.impact.isSome then w
      else
        let pending :=
          { pending with impact := some (w.store.impacts.lookup pending.taskRunId) }
        { w with pending := w.pending.insert id pending }
  | .commit id now =>
    match w.pending.lookup id with
    | none => w
    | some pending =>
      if pending.impact.isSome then
        { w with
          store := (pending.commit now w.store).toOption.getD w.store
          pending := w.pending.erase id }
      else w
  | .startReview id assetId data actor =>
    if w.locked assetId then w
    else
      match w.beginReview assetId data actor with
      | .error _ => w
      | .ok pending => { w with reviews := w.reviews.insert id pending }
  | .commitReview id =>
    match w.reviews.lookup id with
    | none => w
    | some pending =>
      { w with
        store := (pending.commit w.store).toOption.getD w.store
        reviews := w.reviews.erase id }
  | .abandon id => { w with pending := w.pending.erase id, reviews := w.reviews.erase id }
  | .recordImpact now taskRunId data actor =>
    w.withStore (w.store.recordImpact now taskRunId data actor)
  | .others tasks baselines assets => { w with store := { w.store with tasks, baselines, assets } }

end World

def feedbackSessions : Machine World SessionEvent where
  init := {}
  step := World.step

/-! ### Accepted requests -/

/-- The request of the session, if it is ready and its commit succeeds. -/
def World.accepted (w : World) (id : SessionId) (now : Timestamp) : Option (Pending × Store) :=
  match w.pending.lookup id with
  | none => none
  | some pending =>
    if pending.impact.isSome then
      match pending.commit now w.store with
      | .error _ => none
      | .ok store => some (pending, store)
    else none

/-- Whether the event writes feedback under the key. -/
def accepts (key : Uuid × String) (w : World) : SessionEvent → Bool
  | .commit id now =>
    match w.accepted id now with
    | none => false
    | some (pending, _) => pending.key = key
  | _ => false

def version (key : Uuid × String) (w : World) : ℕ :=
  ((w.store.feedback.lookup key).map (·.version.toNat)).getD 0

/-- Where the event writes feedback under the key, its request has read the version that is there. -/
def Current (key : Uuid × String) (w : World) (event : SessionEvent) : Prop :=
  ∀ id now pending store, event = .commit id now → w.accepted id now = some (pending, store) →
    pending.key = key →
    pending.existing.map (·.version) = (w.store.feedback.lookup key).map (·.version)

/-- Where the event writes feedback under the key, it writes the row that is asked for. -/
def Writes (key : Uuid × String) (w : World) (event : SessionEvent) (w' : World) : Prop :=
  ∀ id now pending store, event = .commit id now → w.accepted id now = some (pending, store) →
    pending.key = key →
    ∃ row, pending.row now = .ok row ∧ w'.store.feedback.lookup key = some row

section
variable {pending : Pending} {now : Timestamp} {store store' : Store}

/-- What a commit writes. -/
theorem Pending.commit_cases (commits : pending.commit now store = .ok store') :
    ∃ assigned, pending.row now = .ok assigned ∧
      pending.writeImpact store = .ok store'.impacts ∧
      (pending.existing = none ∧ store.feedback.lookup pending.key = none ∧
          assigned.checked = true ∧
          store'.feedback = store.feedback.insert pending.key assigned ∨
        ∃ loaded committed, pending.existing = some loaded ∧
          store.feedback.lookup pending.key = some committed ∧
          (loaded.flush assigned committed pending.data.editingMinutes).checked = true ∧
          store'.feedback = store.feedback.insert pending.key
            (loaded.flush assigned committed pending.data.editingMinutes)) := by
  simp only [Pending.commit, bind_eq_ok, pure_eq_ok] at commits
  obtain ⟨assigned, asked, impacts, wrote, feedback, written, rfl⟩ := commits
  refine ⟨assigned, asked, wrote, ?_⟩
  unfold Pending.writeFeedback at written
  split at written
  · cases written
  · rename_i fresh absent
    split at written
    · rename_i checked
      exact .inl ⟨fresh, absent, checked, (Except.ok.inj written).symm⟩
    · cases written
  · cases written
  · rename_i loaded committed existing there
    dsimp only at written
    split at written
    · rename_i checked
      exact .inr ⟨loaded, committed, existing, there, checked, (Except.ok.inj written).symm⟩
    · cases written

/-- A review writes at most one row of the impacts, and none of the feedback. -/
theorem PendingReview.commit_cases {pending : PendingReview}
    (commits : pending.commit store = .ok store') :
    store'.feedback = store.feedback ∧ (store'.impacts = store.impacts ∨
      ∃ taskRunId loaded committed, pending.impact = some (taskRunId, loaded) ∧
        store.impacts.lookup taskRunId = some committed ∧
        (loaded.flush (Store.reviewed pending.decision loaded) committed
          loaded.editingMinutes.toDecimal).checked = true ∧
        store'.impacts = store.impacts.insert taskRunId
          (loaded.flush (Store.reviewed pending.decision loaded) committed
            loaded.editingMinutes.toDecimal)) := by
  simp only [PendingReview.commit, bind_eq_ok, pure_eq_ok] at commits
  obtain ⟨impacts, wrote, reviews, -, rfl⟩ := commits
  refine ⟨rfl, ?_⟩
  unfold PendingReview.writeImpact at wrote
  split at wrote
  · exact .inl (Except.ok.inj wrote).symm
  · rename_i taskRunId loaded there
    split at wrote
    · cases wrote
    · rename_i committed found
      dsimp only at wrote
      split at wrote
      · rename_i checked
        exact .inr ⟨taskRunId, loaded, committed, there, found, checked,
          (Except.ok.inj wrote).symm⟩
      · cases wrote

/-- The first request asks for the first version. -/
theorem Pending.row_first {row : UserFeedbackModel} (asked : pending.row now = .ok row)
    (fresh : pending.existing = none) : row.version = 1 := by
  simp only [Pending.row, bind_eq_ok, fresh, Store.nextVersion] at asked
  obtain ⟨version, next, made⟩ := asked
  split at next
  · cases next
  · rw [(feedbackModel_version made).1, ← Except.ok.inj next]

/-- A later request asks for the version behind the one that it has read. -/
theorem Pending.row_next {row loaded : UserFeedbackModel} (asked : pending.row now = .ok row)
    (existing : pending.existing = some loaded) :
    row.version = loaded.version + 1 ∧ row.createdAt = loaded.createdAt := by
  simp only [Pending.row, bind_eq_ok, existing, Store.nextVersion] at asked
  obtain ⟨version, next, made⟩ := asked
  split at next
  · cases next
  · obtain ⟨number, time⟩ := feedbackModel_version made
    rw [number, time, ← Except.ok.inj next]
    exact ⟨rfl, rfl⟩

theorem flushMinutes_same {assigned : Numeric 12 2} {raw : Decimal} (loaded : Numeric 12 2)
    (keeps : Numeric.ofDecimal raw = some assigned) :
    flushMinutes loaded raw assigned loaded = assigned := by
  unfold flushMinutes
  split
  · rename_i same
    rw [ofDecimal_toDecimal same] at keeps
    exact Option.some.inj keeps
  · rfl

theorem Pending.row_minutes {row : UserFeedbackModel} (asked : pending.row now = .ok row) :
    Numeric.ofDecimal pending.data.editingMinutes = some row.editingMinutes := by
  simp only [Pending.row, bind_eq_ok] at asked
  obtain ⟨version, -, made⟩ := asked
  simp only [Store.feedbackModel, bind_eq_ok, pure_eq_ok, kept_eq_ok] at made
  obtain ⟨editing, minutes, rework, -, kept, -, rfl⟩ := made
  exact minutes

/-- A request that has read the row as it is writes the row that it asks for. -/
theorem Pending.flush_current {row loaded : UserFeedbackModel} (asked : pending.row now = .ok row)
    (existing : pending.existing = some loaded) :
    loaded.flush row loaded pending.data.editingMinutes = row := by
  have time := (Pending.row_next asked existing).2
  have minutes := flushMinutes_same loaded.editingMinutes (Pending.row_minutes asked)
  simp only [UserFeedbackModel.flush, flush_fresh, minutes, ← time]

theorem Pending.row_checked {row : UserFeedbackModel} (valid : pending.data.validate = .ok ())
    (asked : pending.row now = .ok row) : row.checked = true := by
  simp only [Pending.row, bind_eq_ok] at asked
  obtain ⟨version, -, made⟩ := asked
  exact feedbackModel_checked valid made

/-! ### What an event does to the feedback -/

variable {w : World} {id : SessionId} {event : SessionEvent} {key : Uuid × String}

theorem accepted_eq_some : w.accepted id now = some (pending, store) ↔
    w.pending.lookup id = some pending ∧ pending.impact.isSome = true ∧
      pending.commit now w.store = .ok store := by
  unfold World.accepted
  split
  · rename_i absent
    simp [absent]
  · rename_i found there
    rw [there, Option.some.injEq]
    split
    · rename_i ready
      split
      · rename_i error failed
        refine iff_of_false (by simp) ?_
        rintro ⟨rfl, -, commits⟩
        rw [failed] at commits
        cases commits
      · rename_i store' commits
        rw [Option.some.injEq, Prod.mk.injEq]
        constructor
        · rintro ⟨rfl, rfl⟩
          exact ⟨rfl, ready, commits⟩
        · rintro ⟨rfl, -, commits'⟩
          exact ⟨rfl, Except.ok.inj (commits.symm.trans commits')⟩
    · rename_i unready
      refine iff_of_false (by simp) ?_
      rintro ⟨rfl, ready, -⟩
      exact unready ready

/-- An accepted request leaves its session. -/
theorem step_accepted (accepted : w.accepted id now = some (pending, store)) :
    w.step (.commit id now) = { w with store, pending := w.pending.erase id } := by
  obtain ⟨there, ready, commits⟩ := accepted_eq_some.mp accepted
  simp only [World.step, there, ready, if_true, commits]
  rfl

/-- The store after any other commit is the one before it. -/
theorem step_refused (refused : w.accepted id now = none) :
    (w.step (.commit id now)).store = w.store := by
  simp only [World.step]
  split
  · rfl
  · rename_i pending there
    split
    · rename_i ready
      cases commits : pending.commit now w.store with
      | error error => rfl
      | ok store =>
        have := accepted_eq_some.mpr ⟨there, ready, commits⟩
        rw [refused] at this
        cases this
    · rfl

theorem step_feedback (w : World) (event : SessionEvent) :
    (∃ id now pending store, event = .commit id now ∧ w.accepted id now = some (pending, store)) ∨
      (w.step event).store.feedback = w.store.feedback ∧
        ∀ id now, event = .commit id now → w.accepted id now = none := by
  have other : ∀ {store : Store} {result : Except ImpactError Store},
      (∀ store', result = .ok store' → store'.feedback = store.feedback) →
      (result.toOption.getD store).feedback = store.feedback := by
    intro store result same
    cases result with
    | error error => rfl
    | ok store' => exact same store' rfl
  cases event with
  | commit id now =>
    cases accepted : w.accepted id now with
    | none =>
      refine .inr ⟨by rw [step_refused accepted], fun id' now' same => ?_⟩
      obtain ⟨rfl, rfl⟩ := SessionEvent.commit.inj same
      exact accepted
    | some found => exact .inl ⟨id, now, found.1, found.2, rfl, accepted⟩
  | start id taskRunId data actor =>
    refine .inr ⟨?_, fun _ _ same => by cases same⟩
    simp only [World.step]
    split <;> rfl
  | readImpact id =>
    refine .inr ⟨?_, fun _ _ same => by cases same⟩
    simp only [World.step]
    split
    · rfl
    · split <;> rfl
  | startReview id assetId data actor =>
    refine .inr ⟨?_, fun _ _ same => by cases same⟩
    simp only [World.step]
    split
    · rfl
    · split <;> rfl
  | commitReview id =>
    refine .inr ⟨?_, fun _ _ same => by cases same⟩
    simp only [World.step]
    split
    · rfl
    · exact other fun store' commits => (PendingReview.commit_cases commits).1
  | abandon id => exact .inr ⟨rfl, fun _ _ same => by cases same⟩
  | recordImpact now taskRunId data actor =>
    refine .inr ⟨other fun store' recorded => ?_, fun _ _ same => by cases same⟩
    obtain ⟨row, -, rfl⟩ := recordImpact_cases recorded
    rfl
  | others tasks baselines assets => exact .inr ⟨rfl, fun _ _ same => by cases same⟩

/-- Where the requests of a session come from. -/
theorem step_pending (there : (w.step event).pending.lookup id = some pending) :
    w.pending.lookup id = some pending ∨
      (∃ taskRunId data actor, w.begin taskRunId data actor = .ok pending ∧
        (w.step event).store = w.store) ∨
      ∃ before, w.pending.lookup id = some before ∧
        { before with impact := some (w.store.impacts.lookup before.taskRunId) } = pending := by
  cases event with
  | start id' taskRunId data actor =>
    simp only [World.step] at there ⊢
    split at there
    · exact .inl there
    · rename_i begun begins
      obtain ⟨-, rfl⟩ | ⟨-, before⟩ := Table.lookup_insert_cases there
      · exact .inr (.inl ⟨taskRunId, data, actor, begins, rfl⟩)
      · exact .inl before
  | readImpact id' =>
    simp only [World.step] at there
    split at there
    · exact .inl there
    · rename_i before found
      split at there
      · exact .inl there
      · obtain ⟨rfl, rfl⟩ | ⟨-, before⟩ := Table.lookup_insert_cases there
        · exact .inr (.inr ⟨before, found, rfl⟩)
        · exact .inl before
  | commit id' now =>
    simp only [World.step] at there
    split at there
    · exact .inl there
    · split at there
      · exact .inl (Table.lookup_erase_some there).2
      · exact .inl there
  | abandon id' => exact .inl (Table.lookup_erase_some there).2
  | startReview id' assetId data actor =>
    simp only [World.step] at there
    split at there
    · exact .inl there
    · split at there
      · exact .inl there
      · exact .inl there
  | commitReview id' =>
    simp only [World.step] at there
    split at there
    · exact .inl there
    · exact .inl there
  | recordImpact => exact .inl there
  | others => exact .inl there

/-! ### What every run keeps -/

/-- What a session has read is still there, if in an earlier version. -/
structure Pending.Valid (pending : Pending) (store : Store) : Prop where
  data : pending.data.validate = .ok ()
  existing : ∀ loaded, pending.existing = some loaded → 1 ≤ loaded.version ∧
    ∃ committed, store.feedback.lookup pending.key = some committed

structure World.Valid (w : World) : Prop where
  impacts : w.store.impacts.All fun _ row => row.checked = true
  feedback : w.store.feedback.All fun _ row => row.checked = true ∧ 1 ≤ row.version
  pending : ∀ id pending, w.pending.lookup id = some pending → pending.Valid w.store

theorem begin_valid {taskRunId : Uuid} {data : UserFeedbackCreate} {actor : AuthenticatedActor}
    (valid : w.Valid) (begins : w.begin taskRunId data actor = .ok pending) :
    pending.Valid w.store ∧ pending.existing = w.store.feedback.lookup pending.key := by
  simp only [World.begin, bind_eq_ok, pure_eq_ok] at begins
  obtain ⟨⟨⟩, checked, task, -, rfl⟩ := begins
  exact ⟨⟨checked, fun loaded found => ⟨(valid.feedback _ loaded found).2, loaded, found⟩⟩, rfl⟩

/-- Feedback is never taken away. -/
theorem step_lookup {row : UserFeedbackModel} (w : World) (event : SessionEvent)
    (there : w.store.feedback.lookup key = some row) :
    ∃ row', (w.step event).store.feedback.lookup key = some row' := by
  obtain ⟨id, now, pending, store, rfl, accepted⟩ | ⟨same, -⟩ := step_feedback w event
  · rw [step_accepted accepted]
    obtain ⟨-, -, commits⟩ := accepted_eq_some.mp accepted
    obtain ⟨assigned, -, -, written⟩ := Pending.commit_cases commits
    by_cases here : key = pending.key
    · subst here
      obtain ⟨-, absent, -, -⟩ | ⟨loaded, committed, -, was, -, wrote⟩ := written
      · rw [absent] at there
        cases there
      · obtain rfl := Option.some.inj (was.symm.trans there)
        exact ⟨loaded.flush assigned committed _, by rw [wrote, AList.lookup_insert]⟩
    · obtain ⟨-, -, -, wrote⟩ | ⟨_, _, -, -, -, wrote⟩ := written
      all_goals
        exact ⟨row, by rw [wrote, AList.lookup_insert_ne here, there]⟩
  · exact ⟨row, by rw [same, there]⟩

/-- What an event writes to the impacts. -/
theorem step_impacts (w : World) (event : SessionEvent) :
    (w.step event).store.impacts = w.store.impacts ∨
      ∃ taskRunId row, (w.step event).store.impacts = w.store.impacts.insert taskRunId row ∧
        row.checked = true := by
  cases event with
  | commit id now =>
    cases accepted : w.accepted id now with
    | none => exact .inl (by rw [step_refused accepted])
    | some found =>
      rw [step_accepted accepted]
      obtain ⟨-, -, commits⟩ := accepted_eq_some.mp accepted
      obtain ⟨assigned, -, wrote, -⟩ := Pending.commit_cases commits
      unfold Pending.writeImpact at wrote
      split at wrote
      · simp only [Pending.updateImpact, bind_eq_ok] at wrote
        obtain ⟨row, -, written⟩ := wrote
        split at written
        · cases written
        · split at written
          · rename_i checked
            exact .inr ⟨_, _, (Except.ok.inj written).symm, checked⟩
          · cases written
      · exact .inl (Except.ok.inj wrote).symm
  | commitReview id =>
    simp only [World.step]
    split
    · exact .inl rfl
    · rename_i pending there
      cases commits : pending.commit w.store with
      | error error => exact .inl rfl
      | ok store =>
        obtain ⟨-, same | ⟨taskRunId, loaded, committed, -, -, checked, wrote⟩⟩ :=
          PendingReview.commit_cases commits
        · exact .inl same
        · exact .inr ⟨taskRunId, _, wrote, checked⟩
  | recordImpact now taskRunId data actor =>
    simp only [World.step, World.withStore]
    cases recorded : w.store.recordImpact now taskRunId data actor with
    | error error => exact .inl rfl
    | ok store =>
      obtain ⟨row, checked, rfl⟩ := recordImpact_cases recorded
      exact .inr ⟨taskRunId, row, rfl, checked⟩
  | start id taskRunId data actor =>
    refine .inl ?_
    simp only [World.step]
    split <;> rfl
  | readImpact id =>
    refine .inl ?_
    simp only [World.step]
    split
    · rfl
    · split <;> rfl
  | startReview id assetId data actor =>
    refine .inl ?_
    simp only [World.step]
    split
    · rfl
    · split <;> rfl
  | abandon id => exact .inl rfl
  | others tasks baselines assets => exact .inl rfl

theorem Pending.Valid.step (valid : pending.Valid w.store) (event : SessionEvent) :
    pending.Valid (w.step event).store := by
  refine ⟨valid.data, fun loaded existing => ?_⟩
  obtain ⟨least, committed, there⟩ := valid.existing loaded existing
  obtain ⟨row, found⟩ := step_lookup w event there
  exact ⟨least, row, found⟩

theorem World.Valid.step (valid : w.Valid) (event : SessionEvent) : (w.step event).Valid where
  impacts := by
    obtain same | ⟨taskRunId, row, wrote, checked⟩ := step_impacts w event
    · rw [same]
      exact valid.impacts
    · rw [wrote]
      exact valid.impacts.insert checked
  feedback := by
    obtain ⟨id, now, pending, store, rfl, accepted⟩ | ⟨same, -⟩ := step_feedback w event
    · rw [step_accepted accepted]
      obtain ⟨there, -, commits⟩ := accepted_eq_some.mp accepted
      obtain ⟨assigned, asked, -, ⟨fresh, -, checked, wrote⟩ |
        ⟨loaded, committed, existing, -, checked, wrote⟩⟩ := Pending.commit_cases commits
      · rw [wrote]
        exact valid.feedback.insert ⟨checked, (Pending.row_first asked fresh).ge⟩
      · have next := (Pending.row_next asked existing).1
        obtain ⟨least, -⟩ := (valid.pending id pending there).existing loaded existing
        rw [wrote]
        refine valid.feedback.insert ⟨checked, ?_⟩
        show 1 ≤ Lib.flush loaded.version assigned.version committed.version
        rw [flush_changed (by omega)]
        omega
    · rw [same]
      exact valid.feedback
  pending := by
    intro id pending there
    obtain before | ⟨taskRunId, data, actor, begins, -⟩ | ⟨before, was, rfl⟩ := step_pending there
    · exact (valid.pending id pending before).step event
    · exact (begin_valid valid begins).1.step event
    · have earlier := (valid.pending id before was).step event
      exact ⟨earlier.data, earlier.existing⟩

theorem World.Valid.init : feedbackSessions.init.Valid where
  impacts := Table.All.empty
  feedback := Table.All.empty
  pending := by
    intro id pending there
    cases there

theorem reachable_valid (reachable : feedbackSessions.Reachable w) : w.Valid :=
  reachable.holds World.Valid.init fun _ event valid => valid.step event

/-! ### Versions -/

/-- What the version of the feedback under the key should gain. -/
def gain (key : Uuid × String) (w : World) (event : SessionEvent) : ℕ :=
  if accepts key w event then 1 else 0

theorem gain_accepted (accepted : w.accepted id now = some (pending, store)) :
    gain key w (.commit id now) = if pending.key = key then 1 else 0 := by
  simp [gain, accepts, accepted]

theorem gain_none (none : ∀ id now, event = .commit id now → w.accepted id now = none) :
    gain key w event = 0 := by
  cases event with
  | commit id now => simp [gain, accepts, none id now rfl]
  | _ => rfl

theorem current_none (none : ∀ id now, event = .commit id now → w.accepted id now = none) :
    Current key w event := by
  intro id now pending store same accepted
  rw [none id now same] at accepted
  cases accepted

theorem current_accepted (accepted : w.accepted id now = some (pending, store)) :
    Current key w (.commit id now) ↔ (pending.key = key →
      pending.existing.map (·.version) = (w.store.feedback.lookup key).map (·.version)) := by
  constructor
  · intro current
    exact current id now pending store rfl accepted
  · intro current id' now' pending' store' same accepted'
    obtain ⟨rfl, rfl⟩ := SessionEvent.commit.inj same
    obtain ⟨rfl, rfl⟩ := Prod.mk.inj (Option.some.inj (accepted.symm.trans accepted'))
    exact current

/-- The version counts a write exactly if its request has read the current version. -/
theorem version_step (valid : w.Valid) (key : Uuid × String) (event : SessionEvent) :
    version key (w.step event) = version key w + gain key w event ↔ Current key w event := by
  obtain ⟨id, now, pending, store, rfl, accepted⟩ | ⟨same, none⟩ := step_feedback w event
  · rw [current_accepted accepted, gain_accepted accepted, step_accepted accepted]
    obtain ⟨there, -, commits⟩ := accepted_eq_some.mp accepted
    obtain ⟨assigned, asked, -, written⟩ := Pending.commit_cases commits
    by_cases here : pending.key = key
    · subst here
      simp only [version, if_true, forall_const]
      obtain ⟨fresh, absent, -, wrote⟩ | ⟨loaded, committed, existing, was, -, wrote⟩ := written
      · have first := Pending.row_first asked fresh
        simp [wrote, fresh, absent, first]
      · have next := (Pending.row_next asked existing).1
        obtain ⟨least, -⟩ := (valid.pending id pending there).existing loaded existing
        have positive := (valid.feedback _ committed was).2
        have raised : (loaded.flush assigned committed pending.data.editingMinutes).version =
            loaded.version + 1 := by
          rw [← next]
          exact flush_changed (by omega)
        simp only [wrote, existing, was, AList.lookup_insert, Option.map_some, Option.getD_some,
          raised, Option.some.injEq]
        omega
    · have other : store.feedback.lookup key = w.store.feedback.lookup key := by
        obtain ⟨-, -, -, wrote⟩ | ⟨_, _, -, -, -, wrote⟩ := written
        all_goals
          rw [wrote, AList.lookup_insert_ne (Ne.symm here)]
      simp [version, here, other]
  · have kept : version key (w.step event) = version key w := by
      rw [version, version, same]
    exact iff_of_true (by rw [gain_none none, kept, Nat.add_zero]) (current_none none)

/-- A session that has read the current version of the row has read the row. -/
def Loaded (key : Uuid × String) (w : World) : Prop :=
  ∀ id pending loaded, w.pending.lookup id = some pending → pending.key = key →
    pending.existing = some loaded → ∃ committed, w.store.feedback.lookup key = some committed ∧
      loaded.version ≤ committed.version ∧ (loaded.version = committed.version → loaded = committed)

theorem Loaded.current (read : Loaded key w) (accepted : w.accepted id now = some (pending, store))
    (current : Current key w (.commit id now)) (here : pending.key = key) :
    pending.existing = w.store.feedback.lookup key := by
  have versions := (current_accepted accepted).mp current here
  obtain ⟨there, -, -⟩ := accepted_eq_some.mp accepted
  cases existing : pending.existing with
  | none => simpa [existing, eq_comm] using versions
  | some loaded =>
    obtain ⟨committed, was, -, same⟩ := read id pending loaded there here existing
    rw [was]
    simp only [existing, was, Option.map_some, Option.some.injEq] at versions
    rw [same versions]

/-- A write over the current version writes the row that is asked for. -/
theorem writes_step (read : Loaded key w) (current : Current key w event) :
    Writes key w event (w.step event) := by
  intro id now pending store same accepted here
  subst same
  have found := read.current accepted current here
  rw [step_accepted accepted]
  obtain ⟨-, -, commits⟩ := accepted_eq_some.mp accepted
  obtain ⟨assigned, asked, -, ⟨-, -, -, wrote⟩ | ⟨loaded, committed, existing, was, -, wrote⟩⟩ :=
    Pending.commit_cases commits
  · exact ⟨assigned, asked, by rw [wrote, here, AList.lookup_insert]⟩
  · rw [here, ← found, existing] at was
    obtain rfl := Option.some.inj was
    rw [Pending.flush_current asked existing] at wrote
    exact ⟨assigned, asked, by rw [wrote, here, AList.lookup_insert]⟩

theorem Loaded.step (valid : w.Valid) (read : Loaded key w) (current : Current key w event) :
    Loaded key (w.step event) := by
  -- what a session has read at an earlier step
  have earlier : ∀ id pending loaded, w.pending.lookup id = some pending → pending.key = key →
      pending.existing = some loaded → ∃ committed,
        (w.step event).store.feedback.lookup key = some committed ∧
        loaded.version ≤ committed.version ∧
        (loaded.version = committed.version → loaded = committed) := by
    intro id pending loaded there here existing
    obtain ⟨committed, was, le, same⟩ := read id pending loaded there here existing
    obtain ⟨id', now, pending', store, rfl, accepted⟩ | ⟨kept, -⟩ := step_feedback w event
    · by_cases key' : pending'.key = key
      · obtain ⟨row, asked, wrote⟩ := writes_step read current id' now pending' store rfl accepted key'
        have found := read.current accepted current key'
        rw [was] at found
        have next := (Pending.row_next asked found).1
        exact ⟨row, wrote, by omega, fun equal => by omega⟩
      · rw [step_accepted accepted]
        obtain ⟨-, -, commits⟩ := accepted_eq_some.mp accepted
        obtain ⟨assigned, -, -, ⟨-, -, -, wrote⟩ | ⟨_, _, -, -, -, wrote⟩⟩ :=
          Pending.commit_cases commits
        all_goals
          exact ⟨committed, by rw [wrote, AList.lookup_insert_ne (Ne.symm key'), was], le, same⟩
    · exact ⟨committed, by rw [kept, was], le, same⟩
  intro id pending loaded there here existing
  obtain before | ⟨taskRunId, data, actor, begins, kept⟩ | ⟨before, was, rfl⟩ := step_pending there
  · exact earlier id pending loaded before here existing
  · have found := (begin_valid valid begins).2
    rw [existing, here] at found
    exact ⟨loaded, by rw [kept, ← found], le_refl _, fun _ => rfl⟩
  · exact earlier id before loaded was here existing

theorem Loaded.init : Loaded key feedbackSessions.init := by
  intro id pending loaded there
  cases there

end

/-- Along a run, the version of the feedback of an actor on a task counts the requests that were
accepted exactly if each of them had read the version that was there. Then each leaves the row that
it asked for, and none is lost under another. -/
theorem feedback_versions (key : Uuid × String) (events : List SessionEvent) :
    ((∀ front, front <+: events →
        version key (feedbackSessions.run feedbackSessions.init front) =
          feedbackSessions.total (gain key) feedbackSessions.init front) ↔
      feedbackSessions.Meets (Current key) feedbackSessions.init events) ∧
    (feedbackSessions.Meets (Current key) feedbackSessions.init events →
      feedbackSessions.Steps (Writes key) feedbackSessions.init events) := by
  constructor
  · have counts : (∀ front, front <+: events →
        version key (feedbackSessions.run feedbackSessions.init front) =
          feedbackSessions.total (gain key) feedbackSessions.init front) ↔
        feedbackSessions.Steps (fun w event w' => version key w' = version key w + gain key w event)
          feedbackSessions.init events := by
      rw [← Machine.counts_iff_steps]
      have none : version key feedbackSessions.init = 0 := rfl
      simp only [none, Nat.zero_add]
    rw [counts]
    exact Machine.steps_iff_meets_of_invariant (I := World.Valid)
      (fun w event valid => valid.step event) (fun w event valid => version_step valid key event)
      .init
  · intro current
    refine Machine.steps_hold (I := fun w => w.Valid ∧ Loaded key w) ?_ ?_ ⟨.init, .init⟩ current
    · rintro w event ⟨valid, read⟩ here
      exact ⟨valid.step event, read.step valid here⟩
    · rintro w event ⟨-, read⟩ here
      exact writes_step read here

def sampleTask : AppliedWorkflowTaskModel where
  workflowType := .dataAnalysis
  status := .completed
  createdBy := "actor"
  promptVersionId := none
  provider := none
  model := none
  estimatedCost := ⟨0, by decide⟩
  durationMs := none

def sampleFeedback (rating : ℤ) (expectedVersion : Option ℤ) : UserFeedbackCreate where
  editingMinutes := Decimal.zero
  reworkCount := 0
  rating := rating
  helpfulness := 3
  accuracy := 3
  easeOfUse := 3
  wouldUseAgain := true
  expectedVersion := expectedVersion

def sampleActor : AuthenticatedActor := ⟨"actor", .manager⟩

/-- Two sessions that have read the same version, and are both accepted. -/
def overlapping : List SessionEvent :=
  [.others (AList.singleton 7 sampleTask) [] ∅,
    .start 0 7 (sampleFeedback 3 none) sampleActor, .readImpact 0, .commit 0 10,
    .start 1 7 (sampleFeedback 1 (some 1)) sampleActor,
    .start 2 7 (sampleFeedback 5 (some 1)) sampleActor,
    .readImpact 1, .readImpact 2, .commit 1 11, .commit 2 12]

example : version (7, "actor") (feedbackSessions.run feedbackSessions.init overlapping) = 2 ∧
    feedbackSessions.total (gain (7, "actor")) feedbackSessions.init overlapping = 3 := by
  decide +kernel

/-! ### Sessions that nothing overlaps -/

section
variable {w : World} {pending : Pending} {store : Store} {now : Timestamp}

theorem accept_checked {data : UserFeedbackCreate} {loaded row : AITaskImpactModel}
    (valid : data.toAcceptanceFields.validateAcceptance = .ok ()) (checked : loaded.checked = true)
    (accepts : Store.accept data loaded = .ok row) :
    row.checked = true ∧ loaded.flush row loaded data.editingMinutes = row := by
  simp only [Store.accept, bind_eq_ok, pure_eq_ok, kept_eq_ok] at accepts
  obtain ⟨editing, minutes, rework, count, rfl⟩ := accepts
  constructor
  · have first := firstPass_columns valid minutes count
    simp only [AITaskImpactModel.checked, decide_eq_true_eq] at checked ⊢
    exact ⟨checked.1, checked.2.1, checked.2.2.1, first⟩
  · simp only [AITaskImpactModel.flush, flush_fresh, flushMinutes_same _ minutes]

theorem reviewed_flush (decision : ReviewDecision) (loaded : AITaskImpactModel) :
    loaded.flush (Store.reviewed decision loaded) loaded loaded.editingMinutes.toDecimal =
      Store.reviewed decision loaded := by
  have kept : Numeric.ofDecimal loaded.editingMinutes.toDecimal = some loaded.editingMinutes :=
    ofDecimal_toDecimal rfl
  have minutes := flushMinutes_same loaded.editingMinutes kept
  simp only [AITaskImpactModel.flush, Store.reviewed, flush_fresh, minutes]

/-- A request that has read the impact as it is writes what the service writes. -/
theorem Pending.writeImpact_current (valid : pending.data.validate = .ok ())
    (impacts : store.impacts.All fun _ row => row.checked = true)
    (current : pending.impact = some (store.impacts.lookup pending.taskRunId)) :
    pending.writeImpact store = store.acceptImpact pending.taskRunId pending.data := by
  unfold Pending.writeImpact Store.acceptImpact
  rw [current, Option.join_some]
  cases there : store.impacts.lookup pending.taskRunId with
  | none => rfl
  | some loaded =>
    cases said : pending.data.outputAccepted with
    | none => rfl
    | some output =>
      simp only [Pending.updateImpact, there]
      cases accepts : Store.accept pending.data loaded with
      | error error => rfl
      | ok row =>
        obtain ⟨checked, same⟩ := accept_checked (validate_ok valid).1 (impacts _ loaded there) accepts
        simp only [ok_bind, same, checked, if_true, Except.map]

theorem Pending.writeFeedback_current {row : UserFeedbackModel}
    (valid : pending.data.validate = .ok ()) (asked : pending.row now = .ok row)
    (current : pending.existing = store.feedback.lookup pending.key) :
    pending.writeFeedback store row = .ok (store.feedback.insert pending.key row) := by
  have checked := Pending.row_checked valid asked
  unfold Pending.writeFeedback
  rw [← current]
  cases existing : pending.existing with
  | none => simp only [checked, if_true]
  | some loaded => simp only [Pending.flush_current asked existing, checked, if_true]

theorem toOption_eq {x y : Except ImpactError Store} (same : ∀ store, x = .ok store ↔ y = .ok store) :
    x.toOption = y.toOption := by
  cases x with
  | ok store => rw [(same store).mp rfl]
  | error error =>
    cases y with
    | ok store => cases (same store).mpr rfl
    | error error' => rfl

variable {taskRunId assetId : Uuid} {id : SessionId} {actor : AuthenticatedActor}

theorem Pending.commit_current {store' : Store} (valid : pending.data.validate = .ok ())
    (impacts : store.impacts.All fun _ row => row.checked = true)
    (eligible : store.eligibleTask pending.taskRunId actor true = .ok pending.task)
    (same : pending.actorId = actor.actorId)
    (existing : pending.existing = store.feedback.lookup pending.key)
    (impact : pending.impact = some (store.impacts.lookup pending.taskRunId)) :
    pending.commit now store = .ok store' ↔
      store.recordFeedback now pending.taskRunId pending.data actor = .ok store' := by
  have wrote := Pending.writeImpact_current valid impacts impact
  have key : pending.key = (pending.taskRunId, actor.actorId) := by rw [Pending.key, same]
  have found : store.feedback.lookup (pending.taskRunId, actor.actorId) = pending.existing := by
    rw [existing, key]
  simp only [Pending.commit, Store.recordFeedback, Pending.row, wrote, valid, eligible, found,
    ok_bind, bind_eq_ok, pure_eq_ok]
  constructor
  · rintro ⟨row, ⟨version, next, made⟩, impacts', accepts, feedback, written, rfl⟩
    have asked : pending.row now = .ok row := by
      simp only [Pending.row, bind_eq_ok]
      exact ⟨version, next, made⟩
    rw [Pending.writeFeedback_current valid asked existing] at written
    exact ⟨impacts', accepts, version, next, row, made, by rw [← Except.ok.inj written, key]⟩
  · rintro ⟨impacts', accepts, version, next, row, made, rfl⟩
    have asked : pending.row now = .ok row := by
      simp only [Pending.row, bind_eq_ok]
      exact ⟨version, next, made⟩
    exact ⟨row, ⟨version, next, made⟩, impacts', accepts, _,
      Pending.writeFeedback_current valid asked existing, by rw [key]⟩

theorem PendingReview.writeImpact_current {pending : PendingReview}
    (impacts : store.impacts.All fun _ row => row.checked = true)
    (current : pending.impact = pending.asset.taskRunId.bind fun taskRunId =>
      (store.impacts.lookup taskRunId).map fun impact => (taskRunId, impact)) :
    pending.writeImpact store = .ok (store.reviewImpact pending.asset pending.decision) := by
  unfold PendingReview.writeImpact Store.reviewImpact
  rw [current]
  cases task : pending.asset.taskRunId with
  | none => rfl
  | some taskRunId =>
    cases found : store.impacts.lookup taskRunId with
    | none => simp [found]
    | some loaded =>
      have kept := reviewed_checked pending.decision (impacts taskRunId loaded found)
      simp [found, reviewed_flush, kept]

/-- A session that nothing overlaps does what the service does. -/
theorem alone_feedback (valid : w.Valid) (free : w.pending.lookup id = none)
    (data : UserFeedbackCreate) :
    (feedbackSessions.run w [.start id taskRunId data actor, .readImpact id, .commit id now]).store =
      (w.store.recordFeedback now taskRunId data actor).toOption.getD w.store := by
  simp only [Machine.run_cons, Machine.run_nil, feedbackSessions, World.step]
  cases begins : w.begin taskRunId data actor with
  | error error =>
    have refused : (w.store.recordFeedback now taskRunId data actor).toOption = none := by
      cases recorded : w.store.recordFeedback now taskRunId data actor with
      | error error' => rfl
      | ok store =>
        simp only [Store.recordFeedback, bind_eq_ok] at recorded
        obtain ⟨⟨⟩, checked, task, eligible, -⟩ := recorded
        simp only [World.begin, checked, eligible, ok_bind] at begins
        cases begins
    simp only [free, refused]
    rfl
  | ok pending =>
    simp only [World.begin, bind_eq_ok, pure_eq_ok] at begins
    obtain ⟨⟨⟩, checked, task, eligible, rfl⟩ := begins
    simp only [AList.lookup_insert, Option.isSome_none, Option.isSome_some, if_true, if_false,
      Bool.false_eq_true]
    refine congrArg (·.getD w.store) (toOption_eq fun store => ?_)
    exact Pending.commit_current checked valid.impacts eligible rfl rfl rfl

/-- So does a review, where no other has locked the asset. -/
theorem alone_review (valid : w.Valid) (free : w.reviews.lookup id = none)
    (unlocked : w.locked assetId = false) (data : MediaReviewRequest) :
    (feedbackSessions.run w [.startReview id assetId data actor, .commitReview id]).store =
      (w.store.review assetId data actor).toOption.getD w.store := by
  simp only [Machine.run_cons, Machine.run_nil, feedbackSessions, World.step, unlocked,
    Bool.false_eq_true, if_false]
  cases begins : w.beginReview assetId data actor with
  | error error =>
    have refused : (w.store.review assetId data actor).toOption = none := by
      cases recorded : w.store.review assetId data actor with
      | error error' => rfl
      | ok store =>
        simp only [Store.review, bind_eq_ok] at recorded
        obtain ⟨⟨⟩, checked, ⟨⟩, role, asset, there, status, decided, -⟩ := recorded
        simp only [World.beginReview, checked, role, there, decided, ok_bind] at begins
        cases begins
    simp only [free, refused]
    rfl
  | ok pending =>
    simp only [World.beginReview, bind_eq_ok, pure_eq_ok] at begins
    obtain ⟨⟨⟩, checked, ⟨⟩, role, asset, there, status, decided, rfl⟩ := begins
    simp only [AList.lookup_insert]
    refine congrArg (fun result => Option.getD (Except.toOption result) w.store) ?_
    simp only [PendingReview.commit, Store.review, checked, role, there, decided, ok_bind]
    rw [PendingReview.writeImpact_current valid.impacts rfl, ok_bind]

end

/-- In every state that a run reaches, the rows meet the constraints of their tables, and a session
that nothing overlaps does what the service does: no constraint keeps it from it. -/
theorem sessions_refine {w : World} (reachable : feedbackSessions.Reachable w) :
    w.store.impacts.All (fun _ row => row.checked = true) ∧
    w.store.feedback.All (fun _ row => row.checked = true) ∧
    (∀ id now taskRunId data actor, w.pending.lookup id = none →
      (feedbackSessions.run w
          [.start id taskRunId data actor, .readImpact id, .commit id now]).store =
        (w.store.recordFeedback now taskRunId data actor).toOption.getD w.store) ∧
    (∀ id assetId data actor, w.reviews.lookup id = none → w.locked assetId = false →
      (feedbackSessions.run w [.startReview id assetId data actor, .commitReview id]).store =
        (w.store.review assetId data actor).toOption.getD w.store) := by
  have valid := reachable_valid reachable
  refine ⟨valid.impacts, fun key row there => (valid.feedback key row there).1, ?_, ?_⟩
  · intro id now taskRunId data actor free
    exact alone_feedback valid free data
  · intro id assetId data actor free unlocked
    exact alone_review valid free unlocked data

theorem sessions_refine_overlapping :
    (feedbackSessions.run (feedbackSessions.run feedbackSessions.init overlapping)
        [.start 3 7 (sampleFeedback 4 (some 2)) sampleActor, .readImpact 3, .commit 3 13]).store =
      ((feedbackSessions.run feedbackSessions.init overlapping).store.recordFeedback 13 7
        (sampleFeedback 4 (some 2)) sampleActor).toOption.getD
          (feedbackSessions.run feedbackSessions.init overlapping).store :=
  (sessions_refine ⟨overlapping, rfl⟩).2.2.1 3 13 7 _ _ (by decide +kernel)

end CyberLegends.BusinessImpact
