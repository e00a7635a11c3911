import CyberLegends.Media.Keys

/-! The requests that enqueue jobs, served one after the other in the order of their commits. A
request with a key of the client is to have a job, and an image an asset, of its own. -/

namespace CyberLegends.Media

open CyberLegends.Core Lib Jobs Agents

/-! ### Rows -/

/-- The columns of an asset that have to do with the key of its request, and the job of its task. -/
structure MediaAssetModel where
  createdBy : String
  idempotencyKey : Option String
  jobId : JobId
  deriving DecidableEq, Repr

structure Database where
  assets : Table UuidBits MediaAssetModel := ∅
  jobs : JobStore := ∅

/-- A request and the identifier that its job gets if it is a new one. Why else it may be refused,
before it comes to its job, is left open. -/
structure Request where
  job : JobRequest
  jobId : JobId
  now : Timestamp
  refused : Bool := false

inductive Response
  | asset (mediaAssetId : UuidBits)
  | job (jobId : JobId)
  | refused
  deriving DecidableEq, Repr

def JobRequest.payload : JobRequest → JobPayload
  | .requestImage _ _ mediaAssetId => .imageGeneration mediaAssetId
  | .requestStoryboard _ mediaAssetId => .videoStoryboard mediaAssetId
  | .acceptCampaign _ workflowId | .runWorkflow workflowId => .workflowRun workflowId
  | .dataAnalysis taskRunId => .dataAnalysis taskRunId
  | .documentProcessing taskRunId => .documentProcessing taskRunId
  | .runComparison comparisonId => .providerComparisonRun comparisonId
  | .runExperiment experimentId => .promptExperimentRun experimentId
  | .outboxEvent _ payload => payload

/-! ### Serving a request -/

variable (sha256 : Sha256) (settings : Settings)

/-- The job of the request, a new one or the one that has its key. A key that is too long for its
column is refused by the database. -/
def enqueueJob (jobs : JobStore) (request : Request) : Option (JobId × JobStore) :=
  let key := jobKey sha256 request.job
  if jobKeyLength < key.length then none
  else
    (jobs.enqueue settings request.jobId request.job.payload 50 none none key request.now).toOption

def getAssetByIdempotency (assets : Table UuidBits MediaAssetModel) (actorId key : String) :
    Option UuidBits :=
  (assets.entries.find? fun entry =>
    entry.2.createdBy = actorId ∧ entry.2.idempotencyKey = some key).map Sigma.fst

/-- The columns and the constraints of the table let the asset in. -/
def admitsAsset (assets : Table UuidBits MediaAssetModel) (mediaAssetId : UuidBits) (actorId : String)
    (key : Option String) : Bool :=
  mediaAssetId ∉ assets ∧ actorId.length ≤ 200 ∧ (key.all fun key => key.length ≤ 200) ∧
    key.all fun key => (getAssetByIdempotency assets actorId key).isNone

/-- The asset and its job are written in one transaction. -/
def createAsset (db : Database) (request : Request) (mediaAssetId : UuidBits) (actorId : String)
    (key : Option String) : Database × Response :=
  if admitsAsset db.assets mediaAssetId actorId key then
    match enqueueJob sha256 settings db.jobs request with
    | none => (db, .refused)
    | some (jobId, jobs) =>
      ({ assets := db.assets.insert mediaAssetId
          { createdBy := actorId, idempotencyKey := key, jobId := jobId },
         jobs := jobs }, .asset mediaAssetId)
  else (db, .refused)

/-- An image that was requested under the key before; an empty key is not looked up. A request that
loses a race for its key to another one comes to the same asset, over the constraint. -/
def existingAsset (assets : Table UuidBits MediaAssetModel) (actorId : String) (key : Option String) :
    Option UuidBits :=
  match key with
  | some key => if key = "" then none else getAssetByIdempotency assets actorId key
  | none => none

def serve (db : Database) (request : Request) : Database × Response :=
  if request.refused then (db, .refused)
  else
    match request.job with
    | .requestImage actorId idempotencyKey mediaAssetId =>
      match existingAsset db.assets actorId (idempotencyKey.map storedKey) with
      | some existing => (db, .asset existing)
      | none =>
        createAsset sha256 settings db request mediaAssetId actorId (idempotencyKey.map storedKey)
    | .requestStoryboard actorId mediaAssetId =>
      createAsset sha256 settings db request mediaAssetId actorId none
    | _ =>
      match enqueueJob sha256 settings db.jobs request with
      | none => (db, .refused)
      | some (jobId, jobs) => ({ db with jobs := jobs }, .job jobId)

/-- The database, and what was answered to the requests so far. -/
structure Served where
  db : Database := {}
  answers : List (JobRequest × Response) := []

def requestMachine : Machine Served Request where
  init := {}
  step served request :=
    let (db, response) := serve sha256 settings served.db request
    { db := db, answers := served.answers ++ [(request.job, response)] }

/-! ### What keys are for -/

/-- The asset whose generation is the job. -/
def mediaAssetOf : JobPayload → Option Uuid
  | .imageGeneration mediaAssetId | .videoStoryboard mediaAssetId => some mediaAssetId
  | _ => none

/-- Keys fit and name one request, every asset has a job of its own, and no two keys of an actor are
answered with one asset. -/
structure KeysName (requests : List Request) : Prop where
  fits : ∀ request ∈ requests, (jobKey sha256 request.job).length ≤ jobKeyLength
  shared : ∀ request ∈ requests, ∀ other ∈ requests, request.job.ClientChosen →
    jobKey sha256 request.job = jobKey sha256 other.job → SameClient request.job other.job
  named : ∀ id asset, ((requestMachine sha256 settings).run (requestMachine sha256 settings).init
      requests).db.assets.lookup id = some asset →
    ∃ job, ((requestMachine sha256 settings).run (requestMachine sha256 settings).init
      requests).db.jobs.lookup asset.jobId = some job ∧ mediaAssetOf job.payload = some (id : Nat)
  distinct : ∀ actorId key key' mediaAssetId mediaAssetId' asset,
    (JobRequest.requestImage actorId key mediaAssetId, Response.asset asset) ∈
        ((requestMachine sha256 settings).run (requestMachine sha256 settings).init
          requests).answers →
      (JobRequest.requestImage actorId key' mediaAssetId', Response.asset asset) ∈
          ((requestMachine sha256 settings).run (requestMachine sha256 settings).init
            requests).answers →
        key = key'

/-- There is room for every key, and no two requests are read alike. -/
structure KeysApart (requests : List Request) : Prop where
  roomy : ∀ request ∈ requests, request.job.Roomy
  apart : ∀ request ∈ requests, ∀ other ∈ requests, request.job.Apart other.job

/-! ### The parts of a request -/

section

variable {sha256 : Sha256} {settings : Settings}

theorem enqueueJob_spec {jobs jobs' : JobStore} {request : Request} {jobId : JobId}
    (enqueued : enqueueJob sha256 settings jobs request = some (jobId, jobs')) :
    ∃ job, jobs'.lookup jobId = some job ∧ job.idempotencyKey = jobKey sha256 request.job ∧
      (jobs' = jobs ∨ job.payload = request.job.payload ∧ jobs.lookup jobId = none ∧
        jobs' = jobs.insert jobId job) := by
  unfold enqueueJob at enqueued
  dsimp only at enqueued
  split at enqueued
  · cases enqueued
  · unfold JobStore.enqueue at enqueued
    dsimp only at enqueued
    split at enqueued
    · cases enqueued
    · rename_i free
      split at enqueued
      · rename_i duplicate found
        cases enqueued
        obtain ⟨entry, there, rfl⟩ := Option.map_eq_some_iff.mp found
        obtain ⟨row, key⟩ := Table.find_row there
        exact ⟨_, row, of_decide_eq_true key, .inl rfl⟩
      · cases enqueued
        have absent := AList.lookup_eq_none.mpr (not_or.mp free).2
        exact ⟨_, AList.lookup_insert _, rfl, .inr ⟨rfl, absent, rfl⟩⟩

theorem getAsset_some {assets : Table UuidBits MediaAssetModel} {actorId key : String}
    {id : UuidBits} (found : getAssetByIdempotency assets actorId key = some id) :
    ∃ asset, assets.lookup id = some asset ∧ asset.createdBy = actorId ∧
      asset.idempotencyKey = some key := by
  obtain ⟨entry, there, rfl⟩ := Option.map_eq_some_iff.mp found
  obtain ⟨row, holds⟩ := Table.find_row there
  exact ⟨_, row, of_decide_eq_true holds⟩

theorem getAsset_none {assets : Table UuidBits MediaAssetModel} {actorId key : String}
    {id : UuidBits} {asset : MediaAssetModel}
    (absent : getAssetByIdempotency assets actorId key = none) (row : assets.lookup id = some asset)
    (owner : asset.createdBy = actorId) : asset.idempotencyKey ≠ some key := by
  intro same
  have nobody := List.find?_eq_none.mp (Option.map_eq_none_iff.mp absent) _
    (AList.mem_lookup_iff.mp row)
  exact nobody (decide_eq_true ⟨owner, same⟩)

/-- The asset that a request is to create: its identifier, its owner and the key that is stored. -/
def JobRequest.asset : JobRequest → Option (UuidBits × String × Option String)
  | .requestImage actorId key mediaAssetId => some (mediaAssetId, actorId, key.map storedKey)
  | .requestStoryboard actorId mediaAssetId => some (mediaAssetId, actorId, none)
  | _ => none

/-- The asset is there, with its owner and its key. -/
def Owned (assets : Table UuidBits MediaAssetModel) (id : UuidBits) (actorId : String)
    (key : Option String) : Prop :=
  ∃ asset, assets.lookup id = some asset ∧ asset.createdBy = actorId ∧ asset.idempotencyKey = key

theorem Owned.insert {assets : Table UuidBits MediaAssetModel} {id id' : UuidBits} {actorId : String}
    {key : Option String} {asset : MediaAssetModel} (owned : Owned assets id actorId key)
    (absent : assets.lookup id' = none) : Owned (assets.insert id' asset) id actorId key := by
  obtain ⟨row, found, owner, stored⟩ := owned
  have other : id ≠ id' := by
    rintro rfl
    rw [absent] at found
    cases found
  exact ⟨row, by rwa [AList.lookup_insert_ne other], owner, stored⟩

/-- Where every job and every asset comes from. -/
structure Tidy (sha256 : Sha256) (requests : List Request) (served : Served) : Prop where
  jobs : ∀ jobId job, served.db.jobs.lookup jobId = some job → ∃ request ∈ requests,
    job.idempotencyKey = jobKey sha256 request.job ∧
      ∀ id actorId key, request.job.asset = some (id, actorId, key) →
        Owned served.db.assets id actorId key
  named : ∀ id asset, served.db.assets.lookup id = some asset →
    ∃ job, served.db.jobs.lookup asset.jobId = some job ∧ mediaAssetOf job.payload = some (id : Nat)
  answers : ∀ actorId key mediaAssetId asset,
    (JobRequest.requestImage actorId key mediaAssetId, Response.asset asset) ∈ served.answers →
      Owned served.db.assets asset actorId (key.map storedKey)

/-- The key of a request of its own is that of no request for another asset. -/
theorem ownKey_shared {kind : String} {id : UuidBits} {other : JobRequest}
    (kinds : kind = "image-generation" ∨ kind = "video-storyboard")
    (same : joined kind (uuidText id) = jobKey sha256 other) :
    (∃ actorId key, other = .requestImage actorId key id) ∨
      ∃ actorId, other = .requestStoryboard actorId id := by
  have plain : ':' ∉ kind.toList := by rcases kinds with rfl | rfl <;> decide
  have others : ∀ kind' rest, ':' ∉ kind'.toList → kind' ≠ "image-generation" →
      kind' ≠ "video-storyboard" → joined kind (uuidText id) ≠ joined kind' rest := by
    intro kind' rest plain' image storyboard same
    obtain ⟨rfl, -⟩ := joined_kind plain plain' same
    exact kinds.elim image storyboard
  cases other with
  | requestImage actorId key mediaAssetId =>
    have same : _ = imageKey actorId key mediaAssetId := same
    rcases imageKey_cases actorId key mediaAssetId with ⟨-, is⟩ | ⟨chosen, -, -, is⟩
    · rw [is] at same
      cases uuidText_inj (joined_kind plain (by decide) same).2
      exact .inl ⟨actorId, key, rfl⟩
    · rw [is] at same
      have rests := (joined_kind plain (by decide) same).2
      exact absurd rests.symm (joined_ne _ _ (colon_notMem_uuidText id))
  | requestStoryboard actorId mediaAssetId =>
    cases uuidText_inj (joined_kind plain (by decide) same).2
    exact .inr ⟨actorId, rfl⟩
  | acceptCampaign | dataAnalysis | documentProcessing | runComparison | runExperiment =>
    exact absurd same (others _ _ (by decide) (by decide) (by decide))
  | runWorkflow | outboxEvent => exact absurd same (joined_ne _ _ (colon_notMem_hexdigest _))

variable {requests : List Request} {request : Request} {served : Served}

/-- The key of a request for an asset that is not there yet, nor under its key, is not in use. -/
theorem key_fresh (tidy : Tidy sha256 requests served) (apart : KeysApart (requests ++ [request]))
    {id : UuidBits} {actorId : String} {key : Option String}
    (asset : request.job.asset = some (id, actorId, key)) (absent : id ∉ served.db.assets)
    (new : existingAsset served.db.assets actorId key = none) {jobId : JobId}
    {row : BackgroundJobModel} (found : served.db.jobs.lookup jobId = some row) :
    row.idempotencyKey ≠ jobKey sha256 request.job := by
  intro same
  obtain ⟨other, earlier, origin, kept⟩ := tidy.jobs jobId row found
  have pair := apart.apart request (List.mem_append_right _ List.mem_cons_self) other
    (List.mem_append_left _ earlier)
  have keys : jobKey sha256 request.job = jobKey sha256 other.job := same.symm.trans origin
  have own : ∀ kind, (kind = "image-generation" ∨ kind = "video-storyboard") →
      joined kind (uuidText id) ≠ jobKey sha256 other.job := by
    intro kind kinds same
    obtain ⟨other_actor, other_key, is⟩ : ∃ actorId key, other.job.asset = some (id, actorId, key) := by
      rcases ownKey_shared kinds same with ⟨actorId, key, is⟩ | ⟨actorId, is⟩
      · exact ⟨_, _, congrArg JobRequest.asset is⟩
      · exact ⟨_, _, congrArg JobRequest.asset is⟩
    obtain ⟨row, there, -⟩ := kept _ _ _ is
    exact absent (AList.lookup_isSome.mp (Option.isSome_of_eq_some there))
  generalize request.job = job at asset pair keys
  cases job with
  | requestImage actorId clientKey id' =>
    cases asset
    rcases imageKey_cases actorId clientKey id with ⟨-, is⟩ | ⟨chosen, rfl, nonempty, -⟩
    · exact own _ (.inl rfl) (is.symm.trans keys)
    · have client := (imageKey_shared_iff nonempty).mpr pair keys
      generalize other.job = other' at client kept
      cases client
      obtain ⟨row, there, owner, stored⟩ := kept _ _ _ rfl
      have lookup : existingAsset served.db.assets actorId (some (storedKey chosen)) =
          getAssetByIdempotency served.db.assets actorId (storedKey chosen) :=
        if_neg (storedKey_ne_empty nonempty)
      exact getAsset_none (lookup.symm.trans new) there owner stored
  | requestStoryboard actorId id' =>
    cases asset
    exact own _ (.inr rfl) keys
  | acceptCampaign | runWorkflow | dataAnalysis | documentProcessing | runComparison | runExperiment
  | outboxEvent => cases asset

/-! ### Runs -/

/-- What serving a request does to the database, and what it is answered. -/
inductive ServeChange (sha256 : Sha256) (settings : Settings) (db : Database) (request : Request) :
    Database → Response → Prop
  | refused : ServeChange sha256 settings db request db .refused
  | existing {actorId key mediaAssetId asset}
      (job : request.job = .requestImage actorId key mediaAssetId)
      (owned : Owned db.assets asset actorId (key.map storedKey)) :
      ServeChange sha256 settings db request db (.asset asset)
  | created {id actorId key jobId jobs} (asset : request.job.asset = some (id, actorId, key))
      (absent : id ∉ db.assets) (new : existingAsset db.assets actorId key = none)
      (enqueued : enqueueJob sha256 settings db.jobs request = some (jobId, jobs)) :
      ServeChange sha256 settings db request
        { assets := db.assets.insert id
            { createdBy := actorId, idempotencyKey := key, jobId := jobId },
          jobs := jobs } (.asset id)
  | enqueued {jobId jobs} (asset : request.job.asset = none)
      (enqueued : enqueueJob sha256 settings db.jobs request = some (jobId, jobs)) :
      ServeChange sha256 settings db request { db with jobs := jobs } (.job jobId)

theorem createAsset_change {db : Database} {id : UuidBits} {actorId : String} {key : Option String}
    (asset : request.job.asset = some (id, actorId, key))
    (new : existingAsset db.assets actorId key = none) :
    ServeChange sha256 settings db request
      (createAsset sha256 settings db request id actorId key).1
      (createAsset sha256 settings db request id actorId key).2 := by
  unfold createAsset
  split
  · rename_i admitted
    split
    · exact .refused
    · rename_i enqueued
      exact .created asset (of_decide_eq_true admitted).1 new enqueued
  · exact .refused

theorem existingAsset_owned {assets : Table UuidBits MediaAssetModel} {actorId : String}
    {key : Option String} {id : UuidBits} (found : existingAsset assets actorId key = some id) :
    Owned assets id actorId key := by
  unfold existingAsset at found
  split at found
  · split at found
    · cases found
    · exact getAsset_some found
  · cases found

theorem serve_change (db : Database) (request : Request) :
    ServeChange sha256 settings db request (serve sha256 settings db request).1
      (serve sha256 settings db request).2 := by
  unfold serve
  split
  · exact .refused
  · split
    · rename_i job
      split
      · rename_i found
        exact .existing job (existingAsset_owned found)
      · rename_i new
        exact createAsset_change (congrArg JobRequest.asset job) new
    · rename_i job
      exact createAsset_change (congrArg JobRequest.asset job) rfl
    · rename_i image storyboard
      split
      · exact .refused
      · rename_i enqueued
        refine .enqueued ?_ enqueued
        generalize request.job = job at image storyboard
        cases job with
        | requestImage => exact absurd rfl (image _ _ _)
        | requestStoryboard => exact absurd rfl (storyboard _ _)
        | acceptCampaign | runWorkflow | dataAnalysis | documentProcessing | runComparison
        | runExperiment | outboxEvent => rfl

/-- A job that is there stays when another one is inserted. -/
theorem job_stays {jobs jobs' : JobStore} {request : Request} {new jobId : JobId}
    {job : BackgroundJobModel} (enqueued : enqueueJob sha256 settings jobs request = some (new, jobs'))
    (found : jobs.lookup jobId = some job) : jobs'.lookup jobId = some job := by
  obtain ⟨row, -, -, rfl | ⟨-, absent, rfl⟩⟩ := enqueueJob_spec enqueued
  · exact found
  · have other : jobId ≠ new := by
      rintro rfl
      rw [absent] at found
      cases found
    rwa [AList.lookup_insert_ne other]

/-- A job of the store was there before, or has the key of the request. -/
theorem job_origin {jobs jobs' : JobStore} {request : Request} {new jobId : JobId}
    {job : BackgroundJobModel} (enqueued : enqueueJob sha256 settings jobs request = some (new, jobs'))
    (found : jobs'.lookup jobId = some job) :
    jobs.lookup jobId = some job ∨ job.idempotencyKey = jobKey sha256 request.job := by
  obtain ⟨row, -, key, rfl | ⟨-, absent, rfl⟩⟩ := enqueueJob_spec enqueued
  · exact .inl found
  · obtain ⟨-, rfl⟩ | ⟨-, before⟩ := Table.lookup_insert_cases found
    · exact .inr key
    · exact .inl before

theorem asset_payload {job : JobRequest} {id : UuidBits} {actorId : String} {key : Option String}
    (asset : job.asset = some (id, actorId, key)) : mediaAssetOf job.payload = some (id : Nat) := by
  cases job with
  | requestImage | requestStoryboard =>
    cases asset
    rfl
  | acceptCampaign | runWorkflow | dataAnalysis | documentProcessing | runComparison | runExperiment
  | outboxEvent => cases asset

/-- One answer more. -/
theorem answers_step {job : JobRequest} {response : Response}
    {answers : List (JobRequest × Response)} {P : String → Option ClientKey → UuidBits → Prop}
    (before : ∀ actorId key mediaAssetId asset,
      (JobRequest.requestImage actorId key mediaAssetId, Response.asset asset) ∈ answers →
        P actorId key asset)
    (last : ∀ actorId key mediaAssetId asset, job = .requestImage actorId key mediaAssetId →
      response = .asset asset → P actorId key asset) :
    ∀ actorId key mediaAssetId asset,
      (JobRequest.requestImage actorId key mediaAssetId, Response.asset asset) ∈
        answers ++ [(job, response)] → P actorId key asset := by
  intro actorId key mediaAssetId asset member
  rcases List.mem_append.mp member with earlier | now
  · exact before _ _ _ _ earlier
  · obtain ⟨is, answered⟩ := Prod.mk.inj (List.mem_singleton.mp now)
    exact last _ _ _ _ is.symm answered.symm

theorem tidy_step (tidy : Tidy sha256 requests served) (apart : KeysApart (requests ++ [request])) :
    Tidy sha256 (requests ++ [request]) ((requestMachine sha256 settings).step served request) := by
  have change := @serve_change sha256 settings served.db request
  show Tidy sha256 _ { db := (serve sha256 settings served.db request).1
                       answers := served.answers ++
                         [(request.job, (serve sha256 settings served.db request).2)] }
  generalize (serve sha256 settings served.db request).1 = db,
    (serve sha256 settings served.db request).2 = response at change
  have jobs_before : ∀ jobId job, served.db.jobs.lookup jobId = some job →
      ∃ earlier ∈ requests ++ [request], job.idempotencyKey = jobKey sha256 earlier.job ∧
        ∀ id actorId key, earlier.job.asset = some (id, actorId, key) →
          Owned served.db.assets id actorId key := by
    intro jobId job found
    obtain ⟨earlier, member, rest⟩ := tidy.jobs jobId job found
    exact ⟨earlier, List.mem_append_left _ member, rest⟩
  have last : request ∈ requests ++ [request] := List.mem_append_right _ List.mem_cons_self
  cases change with
  | refused => exact ⟨jobs_before, tidy.named, answers_step tidy.answers nofun⟩
  | existing job owned =>
    refine ⟨jobs_before, tidy.named, answers_step tidy.answers ?_⟩
    intro actorId key mediaAssetId asset is answered
    cases job.symm.trans is
    cases answered
    exact owned
  | created asset absent new enqueued =>
    rename_i id actorId key jobId jobs
    have free : served.db.assets.lookup id = none := AList.lookup_eq_none.mpr absent
    have there : Owned (served.db.assets.insert id
        { createdBy := actorId, idempotencyKey := key, jobId := jobId }) id actorId key :=
      ⟨_, AList.lookup_insert _, rfl, rfl⟩
    refine ⟨?_, ?_, answers_step ?_ ?_⟩
    · intro jobId' job found
      rcases job_origin enqueued found with before | key
      · obtain ⟨earlier, member, origin, kept⟩ := jobs_before jobId' job before
        exact ⟨earlier, member, origin, fun id actorId key is => (kept id actorId key is).insert free⟩
      · refine ⟨request, last, key, fun id' actorId' key' is => ?_⟩
        cases asset.symm.trans is
        exact there
    · intro id' row found
      obtain ⟨rfl, rfl⟩ | ⟨-, before⟩ := Table.lookup_insert_cases found
      · obtain ⟨job, found, key, same | ⟨payload, -, -⟩⟩ := enqueueJob_spec enqueued
        · rw [same] at found
          exact absurd key (key_fresh tidy apart asset absent new found)
        · exact ⟨job, found, payload ▸ asset_payload asset⟩
      · obtain ⟨job, found, is⟩ := tidy.named id' row before
        exact ⟨job, job_stays enqueued found, is⟩
    · exact fun actorId key mediaAssetId asset member =>
        (tidy.answers actorId key mediaAssetId asset member).insert free
    · intro actorId' key' mediaAssetId asset' is answered
      rw [is] at asset
      cases asset
      cases answered
      exact there
  | enqueued asset enqueued =>
    refine ⟨?_, ?_, answers_step tidy.answers nofun⟩
    · intro jobId' job found
      rcases job_origin enqueued found with before | key
      · exact jobs_before jobId' job before
      · refine ⟨request, last, key, fun id actorId key is => ?_⟩
        rw [asset] at is
        cases is
    · intro id row found
      obtain ⟨job, found, is⟩ := tidy.named id row found
      exact ⟨job, job_stays enqueued found, is⟩

/-- What is answered has been requested. -/
theorem answered_request {job : JobRequest} {response : Response}
    (answered : (job, response) ∈
      ((requestMachine sha256 settings).run (requestMachine sha256 settings).init requests).answers) :
    ∃ request ∈ requests, request.job = job := by
  induction requests using List.reverseRecOn with
  | nil => cases answered
  | append_singleton requests request ih =>
    rw [Machine.run_append] at answered
    rcases List.mem_append.mp answered with earlier | now
    · obtain ⟨earlier, member, is⟩ := ih earlier
      exact ⟨earlier, List.mem_append_left _ member, is⟩
    · exact ⟨request, List.mem_append_right _ List.mem_cons_self,
        (Prod.mk.inj (List.mem_singleton.mp now)).1.symm⟩

theorem KeysApart.front {later : List Request} (apart : KeysApart (requests ++ later)) :
    KeysApart requests where
  roomy request member := apart.roomy request (List.mem_append_left _ member)
  apart request member other member' :=
    apart.apart request (List.mem_append_left _ member) other (List.mem_append_left _ member')

theorem run_tidy (apart : KeysApart requests) : Tidy sha256 requests
    ((requestMachine sha256 settings).run (requestMachine sha256 settings).init requests) := by
  induction requests using List.reverseRecOn with
  | nil =>
    refine ⟨fun jobId job found => ?_, fun id asset found => ?_, fun _ _ _ _ member => ?_⟩
    · cases found
    · cases found
    · cases member
  | append_singleton requests request ih =>
    rw [Machine.run_append]
    exact tidy_step (ih apart.front) apart

end

/-- Keys name the requests of a run if and only if there is room for each of them and no two of them
are read alike. -/
theorem keysName_iff (sha256 : Sha256) (settings : Settings) (requests : List Request) :
    KeysName sha256 settings requests ↔ KeysApart requests := by
  constructor
  · intro name
    refine ⟨fun request member => ?_, fun request member other member' => ?_⟩
    · exact (jobKey_fits_iff request.job).mp (name.fits request member)
    · exact (shared_iff_apart request.job other.job).mp (name.shared request member other member')
  · intro apart
    have tidy := @run_tidy sha256 settings _ apart
    refine ⟨fun request member => ?_, fun request member other member' => ?_, tidy.named, ?_⟩
    · exact (jobKey_fits_iff request.job).mpr (apart.roomy request member)
    · exact (shared_iff_apart request.job other.job).mpr (apart.apart request member other member')
    · intro actorId key key' mediaAssetId mediaAssetId' asset first second
      obtain ⟨row, found, -, stored⟩ := tidy.answers _ _ _ _ first
      obtain ⟨row', found', -, stored'⟩ := tidy.answers _ _ _ _ second
      rw [found] at found'
      cases found'
      obtain ⟨request, member, is⟩ := answered_request first
      obtain ⟨other, member', is'⟩ := answered_request second
      have pair := apart.apart request member other member'
      rw [is, is'] at pair
      exact storedKey_inj pair (stored.symm.trans stored')

/-- A request for an image under a key of the client. -/
def imageRequest (actorId key : String) (short : key.length ≤ 200) (mediaAssetId : UuidBits) :
    Request where
  job := .requestImage actorId (some ⟨key, short⟩) mediaAssetId
  jobId := mediaAssetId
  now := 0

/-- An admitted key that leaves no room in the column. -/
def longKey : List Request :=
  [imageRequest "alice" "campaign-2024-launch-facebook-image-request-0001" (by decide) 0]

/-- An actor whose id goes on with the beginning of another's key. -/
def splitKeys : List Request :=
  [imageRequest "team" "a:1" (by decide) 0, imageRequest "team:a" "1" (by decide) 1]

/-- Two keys of one actor that the sanitizer redacts to the same text. -/
def redactedKeys : List Request :=
  [imageRequest "alice" "token=1" (by decide) 0, imageRequest "alice" "token=2" (by decide) 1]

/-- Not every key fits, and not every key names one request: the asset of the second actor gets the
job of the first one's, and the second key of an actor is answered with the asset of the first. -/
theorem keys_name_others : ¬ KeysName (fun _ => 0) {} longKey ∧
    ¬ KeysName (fun _ => 0) {} splitKeys ∧ ¬ KeysName (fun _ => 0) {} redactedKeys := by
  refine ⟨fun name => ?_, fun name => ?_, fun name => ?_⟩
  · exact absurd (name.fits _ List.mem_cons_self) (by decide +kernel)
  · obtain ⟨job, found, is⟩ := name.named 1 ⟨"team:a", some "1", 0⟩ (by decide +kernel)
    have first : ∀ job, ((requestMachine (fun _ => 0) {}).run (requestMachine (fun _ => 0) {}).init
        splitKeys).db.jobs.lookup 0 = some job → mediaAssetOf job.payload = some 0 := by
      decide +kernel
    rw [first job found] at is
    cases is
  · have same := name.distinct "alice" (some ⟨"token=1", by decide⟩) (some ⟨"token=2", by decide⟩)
      0 1 0 (by decide +kernel) (by decide +kernel)
    exact absurd same (by decide +kernel)

end CyberLegends.Media
