import CyberLegends.Integrations.Webhooks

/-! When deliveries are idempotent: one resource under a key at most, duplicates of their own
endpoint alone, and nothing left of a delivery that fails. -/

namespace CyberLegends.Integrations

open CyberLegends.Core Lib Jobs

/-! ### What deliveries are for -/

/-- What a delivery is answered to have made. The workflow and the job of a campaign come with it. -/
def Row.isResource : Row → Bool
  | campaign .. => true
  | task .. => true
  | _ => false

def resources (rows : List Row) : Nat := rows.countP Row.isResource

/-- The delivery whose rows a step commits. -/
def commits (w : World) : Event → Option Work
  | .advance sessionId _ _ none =>
    match w.sessions.lookup sessionId with
    | some (.working work) =>
      match work.stage, w.db.commit work.rows with
      | .commit _, some _ => some work
      | _, _ => none
    | _ => none
  | _ => none

/-- How many resources a step creates under the key. -/
def creates (idempotencyKey : String) (w : World) (event : Event) : Nat :=
  match commits w event with
  | none => 0
  | some work => if work.delivery.idempotencyKey = idempotencyKey then resources work.rows else 0

/-- A delivery that a step answers as a duplicate has an earlier receipt under its own key, of its
own endpoint, and is answered with the response of that receipt. -/
def OwnDuplicates (w : World) (_ : Event) (w' : World) : Prop :=
  ∀ sessionId work response, w.sessions.lookup sessionId = some (.working work) →
    w'.sessions.lookup sessionId = some (.answered work.delivery (.ok response)) →
    response.duplicate = true →
      ∃ receipt, w.db.receipts.lookup work.delivery.idempotencyKey = some receipt ∧
        receipt.endpoint = work.delivery.route.endpoint ∧
        response = { receipt.responseBody with duplicate := true }

/-- The session that an event is a step of. -/
def Event.sessionId : Event → Option Uuid
  | receive sessionId .. => some sessionId
  | advance sessionId .. => some sessionId
  | others .. => none

def Failed (w : World) (sessionId : Uuid) : Prop :=
  ∃ delivery error, w.sessions.lookup sessionId = some (.answered delivery (.error error))

/-- The laws of the deliveries of a run. -/
structure Idempotent (config : N8NConfig) (events : List Event) : Prop where
  atMostOne : ∀ key, (n8nMachine config).total (creates key) {} events ≤ 1
  /-- There is a receipt under a key once its resource has been created. -/
  receipts : ∀ key, key ∈ ((n8nMachine config).run {} events).db.receipts ↔
    (n8nMachine config).total (creates key) {} events = 1
  duplicates : (n8nMachine config).Steps OwnDuplicates {} events
  /-- No step of a delivery that fails in the end has changed a table. -/
  clean : ∀ before event after, before ++ event :: after = events →
    ∀ sessionId ∈ event.sessionId, Failed ((n8nMachine config).run {} events) sessionId →
      ((n8nMachine config).run {} (before ++ [event])).db = ((n8nMachine config).run {} before).db

/-- A campaign delivery that looks for a receipt finds one of its own endpoint, if any. -/
def OwnKey (w : World) : Event → Prop
  | .advance sessionId _ _ none =>
    ∀ work receipt, w.sessions.lookup sessionId = some (.working work) →
      work.stage = .getByIdempotency → work.delivery.route = .acceptCampaign →
      w.db.receipts.lookup work.delivery.idempotencyKey = some receipt →
        receipt.endpoint = "campaigns"
  | _ => True

/-! ### Commits -/

def Row.receiptKey : Row → Option String
  | receipt idempotencyKey _ => some idempotencyKey
  | _ => none

def receiptKeys (rows : List Row) : List String := rows.filterMap Row.receiptKey

@[simp] theorem resources_append (rows rows' : List Row) :
    resources (rows ++ rows') = resources rows + resources rows' := List.countP_append

@[simp] theorem resources_single (row : Row) : resources [row] = if row.isResource then 1 else 0 := by
  simp [resources, List.countP_singleton]

@[simp] theorem receiptKeys_append (rows rows' : List Row) :
    receiptKeys (rows ++ rows') = receiptKeys rows ++ receiptKeys rows' := List.filterMap_append

@[simp] theorem receiptKeys_single (row : Row) : receiptKeys [row] = row.receiptKey.toList := by
  cases row <;> rfl

@[simp] theorem resources_setJobId (rows : List Row) (jobId : JobId) :
    resources (rows.map (Row.setJobId jobId)) = resources rows := by
  rw [resources, resources, List.countP_map]
  refine List.countP_congr fun row _ => ?_
  cases row <;> rfl

@[simp] theorem receiptKeys_setJobId (rows : List Row) (jobId : JobId) :
    receiptKeys (rows.map (Row.setJobId jobId)) = receiptKeys rows := by
  rw [receiptKeys, receiptKeys, List.filterMap_map]
  refine List.filterMap_congr fun row _ => ?_
  cases row <;> rfl

/-- The row of a job, if one is added, is neither a resource nor a receipt. -/
theorem job_rows (jobId : JobId) (job : Option BackgroundJobModel) :
    resources (job.map (Row.job jobId)).toList = 0 ∧
      receiptKeys (job.map (Row.job jobId)).toList = [] := by
  cases job <;> exact ⟨rfl, rfl⟩

/-- An insert adds the key of a receipt, which had none, and no other. -/
theorem insert_receipts {db db' : Database} {row : Row} (result : db.insert row = some db') :
    (∀ key, key ∈ db'.receipts ↔ key ∈ db.receipts ∨ row.receiptKey = some key) ∧
      ∀ key, row.receiptKey = some key → key ∉ db.receipts := by
  cases row with
  | receipt idempotencyKey row =>
    simp only [Database.insert] at result
    split at result
    · cases result
    · rename_i unused
      cases result
      refine ⟨fun key => ?_, fun key same => ?_⟩
      · simp only [AList.mem_insert, Row.receiptKey, Option.some.injEq]
        rw [or_comm, eq_comm]
      · cases same
        exact (not_or.mp unused).1
  | campaign | workflow | task | job =>
    simp only [Database.insert] at result
    split at result
    · cases result
    · cases result
      simp [Row.receiptKey]

/-- A commit adds the keys of its receipts, which had none, and no others. -/
theorem commit_receipts {db db' : Database} {rows : List Row} (result : db.commit rows = some db') :
    (∀ key, key ∈ db'.receipts ↔ key ∈ db.receipts ∨ key ∈ receiptKeys rows) ∧
      ∀ key ∈ receiptKeys rows, key ∉ db.receipts := by
  induction rows generalizing db with
  | nil =>
    cases result
    simp [receiptKeys]
  | cons row rows ih =>
    obtain ⟨first, inserted, rest⟩ : ∃ first, db.insert row = some first ∧
        first.commit rows = some db' := by
      simpa [Database.commit, List.foldlM_cons, Option.bind_eq_some_iff] using result
    obtain ⟨adds, unused⟩ := insert_receipts inserted
    obtain ⟨addsRest, unusedRest⟩ := ih rest
    have keys : ∀ key, key ∈ receiptKeys (row :: rows) ↔
        row.receiptKey = some key ∨ key ∈ receiptKeys rows := by
      intro key
      simp [receiptKeys, List.mem_filterMap]
    refine ⟨fun key => ?_, fun key member => ?_⟩
    · rw [addsRest, adds, keys, or_assoc]
    · rcases (keys key).mp member with here | later
      · exact unused key here
      · exact fun old => unusedRest key later ((adds key).mpr (.inl old))

/-! ### What a delivery has added -/

/-- How many resources a delivery has added before the statement. -/
def Stage.resources : Stage → Nat
  | getByIdempotency => 0
  | getBySignature => 0
  | campaignExists _ => 0
  | createCampaign _ => 0
  | resolvePrompt .. => 0
  | createTask .. => 0
  | _ => 1

/-- The keys of the receipts that a delivery under the key has added before the statement. -/
def Stage.receipts (idempotencyKey : String) : Stage → List String
  | commit _ => [idempotencyKey]
  | _ => []

def Stage.response : Stage → Option N8NWebhookResponse
  | enqueue _ _ response => some response
  | createReceipt response => some response
  | commit response => some response
  | _ => none

/-- A delivery has added what its next statement takes for granted. -/
structure Work.Ordered (work : Work) : Prop where
  resources : resources work.rows = work.stage.resources
  receipts : receiptKeys work.rows = work.stage.receipts work.delivery.idempotencyKey
  fresh : ∀ response ∈ work.stage.response, response.duplicate = false

section

variable {config : N8NConfig} {db : Database} {uuid : Uuid} {now : Timestamp} {work work' : Work}

theorem begin_ordered {delivery : Delivery} {now : Int}
    (result : delivery.begin config now = .ok work) : work.Ordered := by
  simp only [Delivery.begin] at result
  split at result
  · cases result
  · split at result
    · cases result
    · split at result
      · cases result
      · cases result
        exact ⟨rfl, rfl, fun _ none => nomatch none⟩

theorem findReceipt_goOn (result : work.findReceipt db = .ok (.goOn work')) :
    work' = { work with stage := .getBySignature } := by
  unfold Work.findReceipt at result
  split at result
  · cases result
    rfl
  · split at result
    · cases result
    · split at result
      · cases result
      · cases result

/-- A delivery is answered as a duplicate with the receipt under its key, of which a file delivery
knows that it is of its endpoint. -/
theorem findReceipt_answer {response : N8NWebhookResponse}
    (result : work.findReceipt db = .ok (.answer response)) :
    ∃ receipt, db.receipts.lookup work.delivery.idempotencyKey = some receipt ∧
      (work.delivery.route = .acceptCampaign ∨ receipt.endpoint = work.delivery.route.endpoint) ∧
      response = { receipt.responseBody with duplicate := true } := by
  unfold Work.findReceipt at result
  split at result
  · cases result
  · rename_i receipt found
    refine ⟨receipt, found, ?_⟩
    split at result
    · rename_i route
      cases result
      exact ⟨.inl route, rfl⟩
    · rename_i endpoint route
      split at result
      · cases result
      · rename_i same
        cases result
        refine ⟨.inr ?_, rfl⟩
        rw [route]
        exact not_not.mp same

theorem findReceipt_commit {rows : List Row} {response : N8NWebhookResponse} :
    work.findReceipt db ≠ .ok (.commit rows response) := by
  intro result
  unfold Work.findReceipt at result
  split at result
  · cases result
  · split at result
    · cases result
    · split at result <;> cases result

theorem parse_stage {stage : Stage} (result : work.parse config = .ok stage) :
    stage.resources = 0 ∧ (∀ key, stage.receipts key = []) ∧ stage.response = none := by
  unfold Work.parse at result
  split at result
  · split at result
    · cases result
    · cases result
      exact ⟨rfl, fun _ => rfl, rfl⟩
  · split at result
    · cases result
    · split at result
      · cases result
        exact ⟨rfl, fun _ => rfl, rfl⟩
      · split at result
        · cases result
          exact ⟨rfl, fun _ => rfl, rfl⟩
        · cases result

theorem flush_goOn {row : Row} {stage : Stage} {progress : Progress}
    (result : work.flush db row stage = .ok progress) :
    progress = .goOn { work with stage, rows := work.rows ++ [row] } := by
  unfold Work.flush at result
  split at result
  · cases result
  · cases result
    rfl

theorem enqueue_goOn {payload : JobPayload} {key : String} {response : N8NWebhookResponse}
    {progress : Progress}
    (result : work.enqueue config db uuid now payload key response = .ok progress) :
    ∃ jobId job, progress = .goOn { work with
      stage := .createReceipt { response with jobId := some (toString jobId) }
      rows := work.rows.map (Row.setJobId jobId) ++ (Option.map (Row.job jobId) job).toList } := by
  unfold Work.enqueue at result
  split at result
  · cases result
  · split at result
    · cases result
    · rename_i jobId jobs enqueued
      cases result
      by_cases old : jobId ∈ db.jobs
      · exact ⟨jobId, none, by rw [if_pos old]; rfl⟩
      · exact ⟨jobId, jobs.lookup jobId, by rw [if_neg old]⟩

/-- An insert adds to the resources and receipts of a delivery what its row is. -/
theorem flush_ordered {row : Row} {stage : Stage}
    (result : work.flush db row stage = .ok (.goOn work'))
    (added : resources work.rows + (if row.isResource then 1 else 0) = stage.resources)
    (receipts : receiptKeys work.rows ++ row.receiptKey.toList =
      stage.receipts work.delivery.idempotencyKey)
    (fresh : ∀ response ∈ stage.response, response.duplicate = false) : work'.Ordered := by
  cases flush_goOn result
  exact ⟨by simpa using added, by simpa using receipts, fresh⟩

theorem afterWorkflow_stage (work : Work) (uuid : Uuid) (request : N8NCampaignRequest) :
    (work.afterWorkflow uuid request).resources = 1 ∧
      (∀ key, (work.afterWorkflow uuid request).receipts key = []) ∧
      ∀ response ∈ (work.afterWorkflow uuid request).response, response.duplicate = false := by
  unfold Work.afterWorkflow
  split <;> exact ⟨rfl, fun _ => rfl, fun _ same => by cases same; rfl⟩

/-- A statement keeps the order of a delivery that goes on. -/
theorem next_ordered (ordered : work.Ordered)
    (result : work.next config db uuid now = .ok (.goOn work')) : work'.Ordered := by
  obtain ⟨added, receipts, fresh⟩ := ordered
  unfold Work.next at result
  split at result
  all_goals
    rename_i stage
    rw [stage] at added receipts fresh
  case h_1 =>
    rw [findReceipt_goOn result]
    exact ⟨added, receipts, fun _ none => nomatch none⟩
  case h_2 =>
    split at result
    · cases result
    · split at result
      · cases result
      · rename_i parsed
        cases result
        obtain ⟨none, noReceipt, noResponse⟩ := parse_stage parsed
        refine ⟨added.trans none.symm, receipts.trans (noReceipt _).symm, ?_⟩
        intro response found
        rw [noResponse] at found
        cases found
  case h_3 =>
    split at result
    · cases result
    · cases result
      exact ⟨added, receipts, fun _ none => nomatch none⟩
  case h_4 =>
    refine flush_ordered result ?_ ?_ (fun _ none => nomatch none)
    · rw [added]; rfl
    · rw [receipts]; rfl
  case h_5 request =>
    obtain ⟨one, noReceipt, fresh⟩ := afterWorkflow_stage work uuid request
    refine flush_ordered result ?_ ?_ fresh
    · rw [added, one]; rfl
    · rw [receipts, noReceipt]; rfl
  case h_6 =>
    cases result
    exact ⟨added, receipts, fun _ none => nomatch none⟩
  case h_7 =>
    refine flush_ordered result ?_ ?_ (fun _ same => by cases same; rfl)
    · rw [added]; rfl
    · rw [receipts]; rfl
  case h_8 response =>
    obtain ⟨jobId, job, goes⟩ := enqueue_goOn result
    cases goes
    obtain ⟨none, noReceipt⟩ := job_rows jobId job
    refine ⟨?_, ?_, fun _ same => by cases same; exact fresh response rfl⟩
    · rw [resources_append, resources_setJobId, added, none]; rfl
    · rw [receiptKeys_append, receiptKeys_setJobId, receipts, noReceipt]; rfl
  case h_9 response =>
    refine flush_ordered result ?_ ?_ (fun _ same => by cases same; exact fresh response rfl)
    · rw [added]; rfl
    · rw [receipts]; rfl
  case h_10 => cases result

theorem next_answer {response : N8NWebhookResponse}
    (result : work.next config db uuid now = .ok (.answer response)) :
    work.stage = .getByIdempotency ∧ work.findReceipt db = .ok (.answer response) := by
  unfold Work.next at result
  split at result
  all_goals
    rename_i stage
  case h_1 => exact ⟨stage, result⟩
  case h_2 =>
    split at result
    · cases result
    · split at result <;> cases result
  case h_3 => split at result <;> cases result
  case h_6 | h_10 => cases result
  case h_8 =>
    obtain ⟨jobId, job, goes⟩ := enqueue_goOn result
    cases goes
  all_goals
    cases flush_goOn result

theorem next_commit {rows : List Row} {response : N8NWebhookResponse}
    (result : work.next config db uuid now = .ok (.commit rows response)) :
    work.stage = .commit response ∧ rows = work.rows := by
  unfold Work.next at result
  split at result
  all_goals
    rename_i stage
  case h_1 => exact absurd result findReceipt_commit
  case h_2 =>
    split at result
    · cases result
    · split at result <;> cases result
  case h_3 => split at result <;> cases result
  case h_6 => cases result
  case h_8 =>
    obtain ⟨jobId, job, goes⟩ := enqueue_goOn result
    cases goes
  case h_10 =>
    cases result
    exact ⟨stage, rfl⟩
  all_goals
    cases flush_goOn result

end

/-! ### Sessions -/

/-- How a statement leaves the tables and the session. -/
inductive Settles (db : Database) (work : Work) :
    Except N8NError Progress → Database → Session → Prop
  | failed (error : N8NError) :
    Settles db work (.error error) db (.answered work.delivery (.error error))
  | wentOn (work' : Work) : Settles db work (.ok (.goOn work')) db (.working work')
  | answered (response : N8NWebhookResponse) :
    Settles db work (.ok (.answer response)) db (.answered work.delivery (.ok response))
  | refused (rows : List Row) (response : N8NWebhookResponse) (refuses : db.commit rows = none) :
    Settles db work (.ok (.commit rows response)) db (.answered work.delivery (.error .integrity))
  | committed (rows : List Row) (response : N8NWebhookResponse) (db' : Database)
    (commits : db.commit rows = some db') :
    Settles db work (.ok (.commit rows response)) db' (.answered work.delivery (.ok response))

theorem proceed_settles (w : World) (sessionId : Uuid) (work : Work)
    (result : Except N8NError Progress) :
    ∃ db session, w.proceed sessionId work result = ⟨db, w.sessions.insert sessionId session⟩ ∧
      Settles w.db work result db session := by
  cases result with
  | error error => exact ⟨_, _, rfl, .failed error⟩
  | ok progress =>
    cases progress with
    | goOn work' => exact ⟨_, _, rfl, .wentOn work'⟩
    | answer response => exact ⟨_, _, rfl, .answered response⟩
    | commit rows response =>
      cases commits : w.db.commit rows with
      | none =>
        refine ⟨_, _, ?_, .refused rows response commits⟩
        simp only [World.proceed, commits]
        rfl
      | some db =>
        refine ⟨_, _, ?_, .committed rows response db commits⟩
        simp only [World.proceed, commits]
        rfl

/-- What a step does. -/
inductive StepCases (config : N8NConfig) (w : World) : Event → World → Prop
  | ignored {event : Event} (idle : ∀ sessionId uuid now fault,
      event = .advance sessionId uuid now fault →
        ∀ work, w.sessions.lookup sessionId ≠ some (.working work)) : StepCases config w event w
  | received {sessionId : Uuid} {delivery : Delivery} {now : Int} (new : sessionId ∉ w.sessions)
      (session : Session) (begins : ∀ work, session = .working work → work.Ordered) :
      StepCases config w (.receive sessionId delivery now) (w.setSession sessionId session)
  | advanced {sessionId uuid : Uuid} {now : Timestamp} {fault : Option N8NError} {work : Work}
      (working : w.sessions.lookup sessionId = some (.working work)) {db : Database}
      {session : Session}
      (settles : Settles w.db work (work.statement config w.db uuid now fault) db session) :
      StepCases config w (.advance sessionId uuid now fault)
        ⟨db, w.sessions.insert sessionId session⟩
  | others (campaigns : Table String CampaignModel) (workflows : Table Uuid WorkflowRunModel)
      (tasks : Table Uuid AppliedWorkflowTaskModel) (jobs : JobStore) :
      StepCases config w (.others campaigns workflows tasks jobs)
        { w with db := { w.db with campaigns, workflows, tasks, jobs } }

theorem step_cases (config : N8NConfig) (w : World) (event : Event) :
    StepCases config w event (w.step config event) := by
  cases event with
  | receive sessionId delivery now =>
    simp only [World.step, World.receive]
    split
    · exact .ignored (fun _ _ _ _ same => nomatch same)
    · rename_i new
      refine .received new _ fun work begun => ?_
      split at begun
      · cases begun
      · rename_i result
        cases begun
        exact begin_ordered result
  | advance sessionId uuid now fault =>
    simp only [World.step, World.advance]
    split
    · rename_i work working
      obtain ⟨db, session, result, settles⟩ := proceed_settles w sessionId work
        (work.statement config w.db uuid now fault)
      rw [result]
      exact .advanced working settles
    · rename_i idle
      refine .ignored fun _ _ _ _ same work => ?_
      cases same
      exact idle work
  | others campaigns workflows tasks jobs => exact .others ..

/-- Every delivery at work is in order. -/
def World.Ordered (w : World) : Prop :=
  ∀ sessionId work, w.sessions.lookup sessionId = some (.working work) → work.Ordered

theorem setSession_ordered {w : World} (ordered : w.Ordered) {db : Database} {sessionId : Uuid}
    {session : Session} (inOrder : ∀ work, session = .working work → work.Ordered) :
    World.Ordered ⟨db, w.sessions.insert sessionId session⟩ := by
  intro other work found
  obtain ⟨-, here⟩ | ⟨-, there⟩ := Table.lookup_insert_cases found
  · exact inOrder work here.symm
  · exact ordered other work there

theorem Settles.ordered {config : N8NConfig} {db db' : Database} {work work' : Work} {uuid : Uuid}
    {now : Timestamp} {fault : Option N8NError} {session : Session} (ordered : work.Ordered)
    (settles : Settles db work (work.statement config db uuid now fault) db' session)
    (goes : session = .working work') : work'.Ordered := by
  subst goes
  generalize result : work.statement config db uuid now fault = progress at settles
  cases settles with
  | wentOn =>
    cases fault with
    | some error => cases result
    | none => exact next_ordered ordered result

theorem step_ordered (config : N8NConfig) {w : World} (ordered : w.Ordered) (event : Event) :
    (w.step config event).Ordered := by
  have result := step_cases config w event
  generalize w.step config event = w' at result ⊢
  cases result with
  | ignored => exact ordered
  | received new session begins => exact setSession_ordered ordered begins
  | advanced working settles =>
    exact setSession_ordered ordered fun _ goes => settles.ordered (ordered _ _ working) goes
  | others => exact ordered

/-! ### Commits of a run -/

/-- A statement either leaves the tables as they are, or commits the rows of its delivery. -/
theorem advance_commits {config : N8NConfig} {w : World} {sessionId uuid : Uuid} {now : Timestamp}
    {fault : Option N8NError} {work : Work} {db : Database} {session : Session}
    (working : w.sessions.lookup sessionId = some (.working work))
    (settles : Settles w.db work (work.statement config w.db uuid now fault) db session) :
    db = w.db ∧ commits w (.advance sessionId uuid now fault) = none ∨
      ∃ response, commits w (.advance sessionId uuid now fault) = some work ∧
        w.db.commit work.rows = some db ∧ work.stage = .commit response ∧
        session = .answered work.delivery (.ok response) := by
  cases fault with
  | some error =>
    cases settles
    exact .inl ⟨rfl, rfl⟩
  | none =>
    by_cases last : ∃ response, work.stage = .commit response
    · obtain ⟨response, stage⟩ := last
      have next : work.statement config w.db uuid now none = .ok (.commit work.rows response) := by
        simp [Work.statement, Work.next, stage]
      rw [next] at settles
      cases settles with
      | refused _ _ refuses => exact .inl ⟨rfl, by simp [commits, working, stage, refuses]⟩
      | committed _ _ _ done =>
        exact .inr ⟨response, by simp [commits, working, stage, done], done, stage, rfl⟩
    · have idle : commits w (.advance sessionId uuid now none) = none := by
        simp only [commits, working]
        split
        · rename_i response _ stage _
          exact absurd ⟨response, stage⟩ last
        · rfl
      refine .inl ⟨?_, idle⟩
      generalize result : work.statement config w.db uuid now none = progress at settles
      cases settles with
      | committed _ response _ _ => exact absurd ⟨response, (next_commit result).1⟩ last
      | _ => rfl

/-- One for a key that has a receipt. -/
def hasReceipt (key : String) (w : World) : Nat := if key ∈ w.db.receipts then 1 else 0

/-- A step adds the receipt of a key exactly when it creates a resource under it. -/
theorem step_creates (config : N8NConfig) {w : World} (ordered : w.Ordered) (event : Event)
    (key : String) :
    hasReceipt key (w.step config event) = hasReceipt key w + creates key w event := by
  have result := step_cases config w event
  generalize w.step config event = w' at result ⊢
  cases result with
  | ignored idle =>
    have none : commits w event = none := by
      unfold commits
      split
      · split
        · rename_i working
          exact absurd working (idle _ _ _ _ rfl _)
        · rfl
      · rfl
    rw [creates, none]
    rfl
  | received | others => rfl
  | @advanced sessionId uuid now fault work working db session settles =>
    rcases advance_commits working settles with ⟨rfl, none⟩ | ⟨response, some, done, stage, -⟩
    · rw [creates, none]
      rfl
    · obtain ⟨added, receipts, -⟩ := ordered _ _ working
      rw [stage] at added receipts
      obtain ⟨adds, unused⟩ := commit_receipts done
      rw [receipts] at adds unused
      rw [creates, some]
      dsimp only
      unfold hasReceipt
      by_cases same : work.delivery.idempotencyKey = key
      · have new : key ∉ w.db.receipts := unused key (by simp [Stage.receipts, same])
        have old : key ∈ db.receipts := (adds key).mpr (.inr (by simp [Stage.receipts, same]))
        rw [if_pos old, if_neg new, if_pos same, added]
        rfl
      · have kept : key ∈ db.receipts ↔ key ∈ w.db.receipts := by
          rw [adds]
          simp [Stage.receipts, Ne.symm same]
        simp only [kept, if_neg same, Nat.add_zero]

/-- A run has created one resource under each key that has a receipt, and none under the others. -/
theorem run_creates (config : N8NConfig) (events : List Event) (key : String) :
    hasReceipt key ((n8nMachine config).run {} events) =
      (n8nMachine config).total (creates key) {} events := by
  have start : World.Ordered {} := fun _ _ found => by simp at found
  have steps : (n8nMachine config).Steps
      (fun w event w' => hasReceipt key w' = hasReceipt key w + creates key w event) {} events :=
    Machine.steps_of_invariant (I := World.Ordered)
      (fun _ event ordered => step_ordered config ordered event)
      (fun _ event ordered => step_creates config ordered event key) start
  have counts := Machine.counts_iff_steps.mpr steps events (List.prefix_refl _)
  simpa [hasReceipt] using counts

/-! ### Duplicates -/

/-- A step answers duplicates of their own endpoint exactly if a campaign delivery that looks for a
receipt finds one of its own endpoint. -/
theorem step_duplicates_iff (config : N8NConfig) (w : World) (event : Event) (ordered : w.Ordered) :
    OwnDuplicates w event (w.step config event) ↔ OwnKey w event := by
  constructor
  · intro duplicates
    cases event with
    | receive | others => trivial
    | advance sessionId uuid now fault =>
      cases fault with
      | some error => trivial
      | none =>
        intro work receipt working stage route found
        have answered : (w.step config (.advance sessionId uuid now none)).sessions.lookup sessionId =
            some (.answered work.delivery
              (.ok { receipt.responseBody with duplicate := true })) := by
          simp [World.step, World.advance, working, Work.statement, Work.next, stage,
            Work.findReceipt, found, route, World.proceed, World.close, World.setSession]
        obtain ⟨receipt', found', endpoint, -⟩ := duplicates _ _ _ working answered rfl
        rw [found] at found'
        cases found'
        rw [endpoint, route]
        rfl
  · intro own sessionId work response working answered duplicate
    have result := step_cases config w event
    generalize w.step config event = w' at result answered
    cases result with
    | ignored | others =>
      rw [working] at answered
      cases answered
    | received new =>
      obtain ⟨rfl, -⟩ | ⟨-, there⟩ := Table.lookup_insert_cases answered
      · exact absurd (AList.lookup_isSome.mp (by rw [working]; rfl)) new
      · rw [working] at there
        cases there
    | @advanced _ uuid now fault work' working' db session settles =>
      obtain ⟨rfl, here⟩ | ⟨-, there⟩ := Table.lookup_insert_cases answered
      · rw [working] at working'
        cases working'
        cases here
        generalize progress : work.statement config w.db uuid now fault = result at settles
        cases fault with
        | some error =>
          cases progress
          cases settles
        | none =>
          cases settles with
          | answered =>
            obtain ⟨stage, found⟩ := next_answer progress
            obtain ⟨receipt, row, route | endpoint, body⟩ := findReceipt_answer found
            · refine ⟨receipt, row, ?_, body⟩
              rw [own work receipt working stage route row, route]
              rfl
            · exact ⟨receipt, row, endpoint, body⟩
          | committed =>
            have stage := (next_commit progress).1
            have fresh := (ordered _ _ working).fresh response (by rw [stage]; rfl)
            rw [fresh] at duplicate
            cases duplicate
      · rw [working] at there
        cases there

/-! ### Failures -/

theorem step_answered (config : N8NConfig) {w : World} {sessionId : Uuid} {delivery : Delivery}
    {outcome : Except N8NError N8NWebhookResponse}
    (answered : w.sessions.lookup sessionId = some (.answered delivery outcome)) (event : Event) :
    (w.step config event).sessions.lookup sessionId = some (.answered delivery outcome) := by
  have result := step_cases config w event
  generalize w.step config event = w' at result ⊢
  cases result with
  | ignored | others => exact answered
  | received new =>
    refine (AList.lookup_insert_ne ?_).trans answered
    rintro rfl
    exact new (AList.lookup_isSome.mp (by rw [answered]; rfl))
  | advanced working =>
    refine (AList.lookup_insert_ne ?_).trans answered
    rintro rfl
    rw [answered] at working
    cases working

/-- A delivery that has been answered stays answered. -/
theorem run_answered (config : N8NConfig) {w : World} {sessionId : Uuid} {delivery : Delivery}
    {outcome : Except N8NError N8NWebhookResponse}
    (answered : w.sessions.lookup sessionId = some (.answered delivery outcome))
    (events : List Event) :
    ((n8nMachine config).run w events).sessions.lookup sessionId =
      some (.answered delivery outcome) := by
  induction events generalizing w with
  | nil => exact answered
  | cons event events ih => exact ih (step_answered config answered event)

/-- A step of a delivery that is refused in the end leaves the tables as they are. -/
theorem step_clean (config : N8NConfig) (w : World) (event : Event) (after : List Event)
    {sessionId : Uuid} (step : sessionId ∈ event.sessionId)
    (failed : Failed ((n8nMachine config).run (w.step config event) after) sessionId) :
    (w.step config event).db = w.db := by
  have result := step_cases config w event
  generalize w.step config event = w' at result failed ⊢
  cases result with
  | ignored | received => rfl
  | others => cases step
  | advanced working settles =>
    cases step
    rcases advance_commits working settles with ⟨same, -⟩ | ⟨response, -, -, -, rfl⟩
    · exact same
    · obtain ⟨delivery, error, refused⟩ := failed
      rw [run_answered config (AList.lookup_insert _) after] at refused
      cases refused

/-! ### The laws -/

/-- The deliveries of a run are idempotent exactly if no campaign delivery takes the receipt of
another endpoint for its own. -/
theorem idempotent_iff (config : N8NConfig) (events : List Event) :
    Idempotent config events ↔ (n8nMachine config).Meets OwnKey {} events := by
  have start : World.Ordered {} := fun _ _ found => by simp at found
  have steps : (n8nMachine config).Steps OwnDuplicates {} events ↔
      (n8nMachine config).Meets OwnKey {} events :=
    Machine.steps_iff_meets_of_invariant (I := World.Ordered)
      (fun _ event ordered => step_ordered config ordered event)
      (fun w event ordered => step_duplicates_iff config w event ordered) start
  constructor
  · exact fun laws => steps.mp laws.duplicates
  · intro own
    refine ⟨fun key => ?_, fun key => ?_, steps.mpr own, ?_⟩
    · rw [← run_creates]
      unfold hasReceipt
      split <;> omega
    · rw [← run_creates]
      unfold hasReceipt
      split <;> simp [*]
    · rintro before event after rfl sessionId step failed
      rw [Machine.run_append] at failed ⊢
      exact step_clean config _ event after step failed

def oneKeyConfig : N8NConfig where
  hashes := ⟨fun _ => [], fun _ _ => []⟩
  n8nWebhookSecret := "s"
  n8nTimestampToleranceSeconds := 300
  n8nMaxBodyBytes := 1024
  settings := {}
  campaignRequest := fun _ => some { campaignId := "c" }
  fileTaskRequest := fun _ => some { filename := "f", content := [] }

/-- A file task is accepted under a key, and then a campaign comes under the same key. -/
def oneKeyRun : List Event :=
  .receive 0 ⟨.acceptFileTask "data-analysis", [], "0", "", "k"⟩ 0 ::
    List.replicate 7 (.advance 0 0 0 none) ++
    [.receive 1 ⟨.acceptCampaign, [], "0", "", "k"⟩ 0]

/-- The campaign is answered as a duplicate of the file task. -/
theorem campaign_answered_with_task :
    ¬ ∀ (config : N8NConfig) (events : List Event), Idempotent config events := by
  intro law
  have steps := (law oneKeyConfig (oneKeyRun ++ [.advance 1 0 0 none])).duplicates
  obtain ⟨duplicates, -⟩ := (Machine.Steps.append.mp steps).2
  have working : ((n8nMachine oneKeyConfig).run {} oneKeyRun).sessions.lookup 1 =
      some (.working
        { delivery := ⟨.acceptCampaign, [], "0", "", "k"⟩, signatureHash := "" }) := by
    decide +kernel
  have answered : (((n8nMachine oneKeyConfig).step ((n8nMachine oneKeyConfig).run {} oneKeyRun)
      (.advance 1 0 0 none)).sessions.lookup 1) =
      some (.answered ⟨.acceptCampaign, [], "0", "", "k"⟩
        (.ok ⟨true, true, "applied_task", "0", some "0"⟩)) := by
    decide +kernel
  obtain ⟨receipt, found, endpoint, -⟩ := duplicates _ _ _ working answered rfl
  have stored : (((n8nMachine oneKeyConfig).run {} oneKeyRun).db.receipts.lookup "k").map
      N8NWebhookReceiptModel.endpoint = some "data-analysis" := by
    decide +kernel
  rw [found] at stored
  rw [Option.map_some, endpoint] at stored
  exact absurd (Option.some.inj stored) (by decide)

end CyberLegends.Integrations
