import CyberLegends.Operations.Alerts

/-! When the unresolved alerts match the conditions that hold: the limit leaves out none of them, and
none has an unresolved alert of another hour. -/

namespace CyberLegends.Operations

open CyberLegends.Core Lib Jobs Actions Agents Outbox Media

/-! ### Texts that sanitization leaves -/

theorem afterWord_missing {word chars : List Char} {w : Char} (letter : w ∈ word)
    (missing : ∀ c ∈ chars, foldCase c ≠ w) : afterWord word chars = none := by
  induction word generalizing chars with
  | nil => cases letter
  | cons first word ih =>
    cases chars with
    | nil => rfl
    | cons c chars =>
      rw [afterWord]
      split
      · rename_i same
        rcases List.mem_cons.mp letter with rfl | later
        · exact absurd same (missing c List.mem_cons_self)
        · exact ih later fun c member => missing c (List.mem_cons_of_mem _ member)
      · rfl

/-- A text without five letters, in whatever case, has no secret: each pattern begins with a word that
has one of them. -/
theorem unsecret_missing {chars : List Char}
    (missing : ∀ c ∈ chars, foldCase c ∉ ['p', 'u', 's', 't', 'r']) : Unsecret chars := by
  intro pattern member suffix short
  have absent : ∀ w ∈ ['p', 'u', 's', 't', 'r'], ∀ c ∈ suffix, foldCase c ≠ w := by
    rintro w letter c inside rfl
    exact missing c (short.subset inside) letter
  have word {text : List Char} (w : Char) (letter : w ∈ ['p', 'u', 's', 't', 'r'])
      (inside : w ∈ text) : afterWord text suffix = none :=
    afterWord_missing inside (absent w letter)
  simp only [secretPatterns, List.mem_cons, List.not_mem_nil, or_false] at member
  rcases member with rfl | rfl | rfl
  · unfold credentialsPattern
    rw [word 'p' (by decide) (by decide)]
  · unfold assignmentPattern afterKeyword afterApiKey
    rw [word 'p' (by decide) (by decide), word 'u' (by decide) (by decide),
      word 'p' (by decide) (by decide), word 's' (by decide) (by decide),
      word 't' (by decide) (by decide)]
    rfl
  · unfold bearerPattern
    rw [word 'r' (by decide) (by decide)]

/-- What an identifier is written with. -/
theorem mem_uuidText {id : UuidBits} {c : Char} (member : c ∈ (uuidText id).toList) :
    c = '-' ∨ ∃ digit, c = hexDigit digit := by
  have digits : ∀ count n, c ∈ hexDigits count n → ∃ digit, c = hexDigit digit := by
    intro count
    induction count with
    | zero => exact fun _ none => nomatch none
    | succ count ih =>
      intro n inside
      rcases List.mem_append.mp inside with front | last
      · exact ih _ front
      · exact ⟨_, List.mem_singleton.mp last⟩
  have part : ∀ m n, c ∈ ((hexDigits 32 id).drop m).take n → ∃ digit, c = hexDigit digit :=
    fun m n there => digits _ _ (List.mem_of_mem_drop (List.mem_of_mem_take there))
  unfold uuidText at member
  rw [String.toList_ofList] at member
  simp only [List.mem_append, List.mem_cons] at member
  rcases member with there | dash | there | dash | there | dash | there | dash | there
  · exact .inr (part 0 8 there)
  · exact .inl dash
  · exact .inr (part 8 4 there)
  · exact .inl dash
  · exact .inr (part 12 4 there)
  · exact .inl dash
  · exact .inr (part 16 4 there)
  · exact .inl dash
  · exact .inr (digits _ _ (List.mem_of_mem_drop there))

theorem sanitizeText_uuidText (id : UuidBits) : sanitizeText 200 (uuidText id) = uuidText id := by
  have plain : Unsecret (uuidText id).toList := by
    refine unsecret_missing fun c member => ?_
    rcases mem_uuidText member with rfl | ⟨digit, rfl⟩
    · decide
    · exact (by decide : ∀ digit, foldCase (hexDigit digit) ∉ ['p', 'u', 's', 't', 'r']) digit
  rw [sanitizeText_unsecret plain, List.take_of_length_le, String.ofList_toList]
  rw [String.length_toList, uuidText_length]
  decide

/-! ### Conditions -/

section

variable {settings : AlertSettings} {watched : Watched} {limit : Nat} {identity : AlertIdentity}

theorem Holds.managed (holds : Holds settings watched identity) :
    identity.alertType ∈ managedTypes := by
  cases holds <;>
    simp [jobIdentity, executionIdentity, memoryIdentity, queueIdentity, outboxIdentity, managedTypes]

/-- The columns of an alert of a condition are its identity. -/
theorem Holds.columns (holds : Holds settings watched identity) (bucket : Nat) :
    (DeduplicationKey.mk identity bucket).columns = identity := by
  cases holds with
  | deadJob =>
    have kind : sanitizeText 100 "job" = "job" := by decide +kernel
    simp only [DeduplicationKey.columns, jobIdentity, kind, sanitizeText_uuidText]
  | failedAction =>
    have kind : sanitizeText 100 "action_execution" = "action_execution" := by decide +kernel
    simp only [DeduplicationKey.columns, executionIdentity, kind, sanitizeText_uuidText]
  | memory => exact (by decide +kernel : DeduplicationKey.columns ⟨memoryIdentity, 0⟩ = memoryIdentity)
  | queue => exact (by decide +kernel : DeduplicationKey.columns ⟨queueIdentity, 0⟩ = queueIdentity)
  | outbox => exact (by decide +kernel : DeduplicationKey.columns ⟨outboxIdentity, 0⟩ = outboxIdentity)

/-- The identities of the conditions that are collected. -/
def collected (settings : AlertSettings) (watched : Watched) (limit : Nat) : List AlertIdentity :=
  (watched.conditions settings limit).map AlertCondition.identity

theorem mem_systemCondition {holds : Bool} {identity' : AlertIdentity} {severity : SecuritySeverity}
    {summary : String} {count : Nat} :
    identity ∈ (Watched.systemCondition holds identity' severity summary count).map
      AlertCondition.identity ↔ holds = true ∧ identity = identity' := by
  unfold Watched.systemCondition
  cases holds <;> simp

/-- Which identities are collected. -/
theorem mem_collected : identity ∈ collected settings watched limit ↔
    (∃ row ∈ watched.deadJobs limit, identity = jobIdentity row.1) ∨
      (∃ row ∈ watched.failedActions limit, identity = executionIdentity row.1) ∨
      (watched.memoryBacklog ≠ 0 ∧ identity = memoryIdentity) ∨
      (settings.jobBatchSize * 10 < watched.queueBacklog ∧ identity = queueIdentity) ∨
      (settings.outboxReadyBacklogLimit < watched.outboxBacklog ∧ identity = outboxIdentity) := by
  unfold collected Watched.conditions
  simp only [List.map_append, List.mem_append, mem_systemCondition, or_assoc, decide_eq_true_eq]
  simp only [List.map_map, List.mem_map, Function.comp_apply, Watched.deadJobCondition,
    Watched.failedActionCondition, @eq_comm _ _ identity]

theorem holds_of_collected (member : identity ∈ collected settings watched limit) :
    Holds settings watched identity := by
  rcases mem_collected.mp member with ⟨row, paged, rfl⟩ | ⟨row, paged, rfl⟩ | ⟨backlog, rfl⟩ |
    ⟨backlog, rfl⟩ | ⟨backlog, rfl⟩
  · obtain ⟨there, status⟩ := Table.mem_page paged
    exact .deadJob there (of_decide_eq_true status)
  · obtain ⟨there, status⟩ := Table.mem_page paged
    exact .failedAction there (of_decide_eq_true status)
  · exact .memory backlog
  · exact .queue backlog
  · exact .outbox backlog

/-- The limit leaves out no dead job and no failed execution. -/
def WithinLimit (watched : Watched) (limit : Nat) : Prop :=
  (watched.jobs.entries.filter fun entry => Watched.isDeadLetter entry.1 entry.2).length ≤ limit ∧
    (watched.executions.entries.filter fun entry => Watched.isFailed entry.1 entry.2).length ≤ limit

theorem jobIdentity_inj {jobId jobId' : UuidBits} (same : jobIdentity jobId = jobIdentity jobId') :
    jobId = jobId' := by
  simp only [jobIdentity, AlertIdentity.mk.injEq] at same
  exact uuidText_inj same.2.2

theorem executionIdentity_inj {id id' : UuidBits} (same : executionIdentity id = executionIdentity id') :
    id = id' := by
  simp only [executionIdentity, AlertIdentity.mk.injEq] at same
  exact uuidText_inj same.2.2

/-- Every condition that holds is collected exactly if the limit leaves out none. -/
theorem collected_all_iff :
    (∀ identity, Holds settings watched identity → identity ∈ collected settings watched limit) ↔
      WithinLimit watched limit := by
  constructor
  · intro all
    constructor
    · refine (Table.page_all_iff (completedOrder BackgroundJobModel.completedAt)).mp fun jobId job row status => ?_
      have member := mem_collected.mp (all _ (.deadJob row (of_decide_eq_true status)))
      obtain ⟨⟨jobId', job'⟩, paged, same⟩ : ∃ row ∈ watched.deadJobs limit,
          jobIdentity jobId = jobIdentity row.1 := by
        rcases member with found | ⟨_, _, same⟩ | ⟨_, same⟩ | ⟨_, same⟩ | ⟨_, same⟩
        · exact found
        all_goals
          simp [jobIdentity, executionIdentity, memoryIdentity, queueIdentity, outboxIdentity] at same
      obtain rfl := jobIdentity_inj same
      have row' := (Table.mem_page paged).1
      rw [row] at row'
      cases row'
      exact paged
    · refine (Table.page_all_iff (completedOrder AgentActionExecutionModel.completedAt)).mp fun executionId execution row status => ?_
      have member := mem_collected.mp (all _ (.failedAction row (of_decide_eq_true status)))
      obtain ⟨⟨executionId', execution'⟩, paged, same⟩ : ∃ row ∈ watched.failedActions limit,
          executionIdentity executionId = executionIdentity row.1 := by
        rcases member with ⟨_, _, same⟩ | found | ⟨_, same⟩ | ⟨_, same⟩ | ⟨_, same⟩
        · simp [jobIdentity, executionIdentity] at same
        · exact found
        all_goals
          simp [executionIdentity, memoryIdentity, queueIdentity, outboxIdentity] at same
      obtain rfl := executionIdentity_inj same
      have row' := (Table.mem_page paged).1
      rw [row] at row'
      cases row'
      exact paged
  · rintro ⟨jobs, executions⟩ identity holds
    rw [mem_collected]
    cases holds with
    | deadJob row status =>
      exact .inl ⟨_, (Table.page_all_iff _).mpr jobs _ _ row (decide_eq_true status), rfl⟩
    | failedAction row status =>
      exact .inr (.inl ⟨_, (Table.page_all_iff _).mpr executions _ _ row (decide_eq_true status), rfl⟩)
    | memory backlog => exact .inr (.inr (.inl ⟨backlog, rfl⟩))
    | queue backlog => exact .inr (.inr (.inr (.inl ⟨backlog, rfl⟩)))
    | outbox backlog => exact .inr (.inr (.inr (.inr ⟨backlog, rfl⟩)))

end

/-! ### Alerts after a reconciliation -/

section

variable {alerts : Alerts} {key : DeduplicationKey}

/-- To open an alert leaves every other one as it is. -/
theorem unresolved_openAlert (condition : AlertCondition) (now : Timestamp) :
    (alerts.openAlert condition now).Unresolved key ↔
      key = ⟨condition.identity, bucketOf now⟩ ∨ alerts.Unresolved key := by
  unfold Alerts.openAlert Alerts.openOrIncrement Alerts.Unresolved
  by_cases here : key = ⟨condition.identity, bucketOf now⟩
  · subst here
    simp only [true_or, iff_true]
    split <;> exact ⟨_, AList.lookup_insert _, by simp⟩
  · simp only [here, false_or]
    split <;> rw [AList.lookup_insert_ne here]

theorem unresolved_openAll (conditions : List AlertCondition) (openedAt : AlertIdentity → Timestamp) :
    (conditions.foldl (fun (alerts : Alerts) condition =>
        alerts.openAlert condition (openedAt condition.identity)) alerts).Unresolved key ↔
      alerts.Unresolved key ∨
        ∃ identity ∈ conditions.map AlertCondition.identity,
          key = ⟨identity, bucketOf (openedAt identity)⟩ := by
  induction conditions generalizing alerts with
  | nil => simp
  | cons condition conditions ih =>
    rw [List.foldl_cons, ih, unresolved_openAlert, List.map_cons, List.exists_mem_cons_iff,
      or_assoc, or_left_comm]

/-- What is cleared is resolved, and nothing else. -/
theorem unresolved_resolveCleared (managed : List AlertType) (active : List AlertIdentity)
    (actorId : String) (now : Timestamp) :
    (alerts.resolveCleared managed active actorId now).Unresolved key ↔
      alerts.Unresolved key ∧ (key.identity.alertType ∈ managed → key.columns ∈ active) := by
  have status : ∀ status : AlertStatus, status ∈ [AlertStatus.opened, .acknowledged] ↔
      status ≠ .resolved := by
    intro status
    cases status <;> decide
  have listed : key ∈ (alerts.listActiveForTypes managed).filter (fun key => key.columns ∉ active) ↔
      alerts.Unresolved key ∧ key.identity.alertType ∈ managed ∧ key.columns ∉ active := by
    simp only [Alerts.listActiveForTypes, List.mem_filter, List.mem_map, decide_eq_true_eq, status]
    constructor
    · rintro ⟨⟨⟨key', row⟩, ⟨entry, type, unresolved⟩, rfl⟩, cleared⟩
      exact ⟨⟨row, AList.mem_lookup_iff.mpr entry, unresolved⟩, type, cleared⟩
    · rintro ⟨⟨row, found, unresolved⟩, type, cleared⟩
      exact ⟨⟨⟨key, row⟩, ⟨AList.mem_lookup_iff.mp found, type, unresolved⟩, rfl⟩, cleared⟩
  have nodup : ((alerts.listActiveForTypes managed).filter (fun key => key.columns ∉ active)).Nodup :=
    (alerts.keys_nodup.sublist (List.filter_sublist.map Sigma.fst)).filter _
  unfold Alerts.resolveCleared
  rw [Alerts.Unresolved, Table.rewriteEach_lookup nodup]
  by_cases cleared : key ∈ (alerts.listActiveForTypes managed).filter (fun key => key.columns ∉ active)
  · rw [if_pos cleared]
    obtain ⟨-, type, outside⟩ := listed.mp cleared
    constructor
    · rintro ⟨row, found, unresolved⟩
      obtain ⟨old, -, rfl⟩ := Option.map_eq_some_iff.mp found
      exact absurd rfl unresolved
    · rintro ⟨-, inside⟩
      exact absurd (inside type) outside
  · rw [if_neg cleared]
    constructor
    · intro unresolved
      refine ⟨unresolved, fun type => ?_⟩
      by_contra outside
      exact cleared (listed.mpr ⟨unresolved, type, outside⟩)
    · exact And.left

end

/-! ### Reconciliation -/

section

variable {settings : AlertSettings} {watched : Watched} {limit : Int} {clock : Clock}
  {alerts : Alerts} {key : DeduplicationKey} {identity : AlertIdentity}

/-- The alerts that a reconciliation leaves unresolved. -/
theorem unresolved_reconcile :
    (reconcile settings watched limit clock alerts).Unresolved key ↔
      (alerts.Unresolved key ∨
        ∃ identity ∈ collected settings watched (effectiveLimit limit),
          key = ⟨identity, bucketOf (clock.openedAt identity)⟩) ∧
      (key.identity.alertType ∈ managedTypes →
        key.columns ∈ collected settings watched (effectiveLimit limit)) := by
  unfold reconcile
  dsimp only
  rw [unresolved_resolveCleared, unresolved_openAll]
  rfl

/-- The alert that a reconciliation opens for an identity that it collects. -/
theorem opened_unresolved
    (member : identity ∈ collected settings watched (effectiveLimit limit)) :
    (reconcile settings watched limit clock alerts).Unresolved
        ⟨identity, bucketOf (clock.openedAt identity)⟩ ∧
      (DeduplicationKey.mk identity (bucketOf (clock.openedAt identity))).columns = identity := by
  have columns := (holds_of_collected member).columns (bucketOf (clock.openedAt identity))
  refine ⟨unresolved_reconcile.mpr ⟨.inr ⟨identity, member, rfl⟩, fun _ => ?_⟩, columns⟩
  rw [columns]
  exact member

/-- No condition that holds has an unresolved alert under another key than the reconciliation opens,
which is that of the hour. -/
def ThisHour (settings : AlertSettings) (watched : Watched) (clock : Clock) (alerts : Alerts) : Prop :=
  ∀ key, alerts.Unresolved key → Holds settings watched key.columns →
    key = ⟨key.columns, bucketOf (clock.openedAt key.columns)⟩

/-- The unresolved alerts match the conditions exactly if the limit leaves out none and no condition
has an unresolved alert of another hour. -/
theorem bijective_iff :
    Bijective settings watched (reconcile settings watched limit clock alerts) ↔
      WithinLimit watched (effectiveLimit limit) ∧ ThisHour settings watched clock alerts := by
  constructor
  · rintro ⟨exactlyOne, -⟩
    have all : ∀ identity, Holds settings watched identity →
        identity ∈ collected settings watched (effectiveLimit limit) := by
      intro identity holds
      obtain ⟨key, ⟨unresolved, rfl⟩, -⟩ := exactlyOne identity holds
      exact (unresolved_reconcile.mp unresolved).2 holds.managed
    refine ⟨collected_all_iff.mp all, fun key unresolved holds => ?_⟩
    obtain ⟨only, -, unique⟩ := exactlyOne key.columns holds
    have here : (reconcile settings watched limit clock alerts).Unresolved key :=
      unresolved_reconcile.mpr ⟨.inl unresolved, fun _ => all _ holds⟩
    obtain ⟨opened, columns⟩ : (reconcile settings watched limit clock alerts).Unresolved _ ∧ _ :=
      opened_unresolved (all _ holds)
    exact (unique key ⟨here, rfl⟩).trans (unique _ ⟨opened, columns⟩).symm
  · rintro ⟨within, thisHour⟩
    have all : ∀ identity, Holds settings watched identity →
        identity ∈ collected settings watched (effectiveLimit limit) := collected_all_iff.mpr within
    constructor
    · intro identity holds
      refine ⟨_, opened_unresolved (all identity holds), ?_⟩
      rintro key ⟨unresolved, rfl⟩
      rcases (unresolved_reconcile.mp unresolved).1 with before | ⟨identity, member, rfl⟩
      · exact thisHour key before holds
      · rw [(holds_of_collected member).columns]
    · intro key unresolved managed
      exact holds_of_collected ((unresolved_reconcile.mp unresolved).2 managed)

/-- The identities of the alerts that a reconciliation leaves unresolved. -/
theorem active_reconcile :
    (reconcile settings watched limit clock alerts).Active identity ↔
      identity ∈ collected settings watched (effectiveLimit limit) ∨
        identity.alertType ∉ managedTypes ∧ alerts.Active identity := by
  constructor
  · rintro ⟨key, unresolved, rfl⟩
    obtain ⟨found, active⟩ := unresolved_reconcile.mp unresolved
    by_cases managed : key.identity.alertType ∈ managedTypes
    · exact .inl (active managed)
    · rcases found with before | ⟨identity, member, rfl⟩
      · exact .inr ⟨managed, key, before, rfl⟩
      · exact absurd (holds_of_collected member).managed managed
  · rintro (member | ⟨unmanaged, key, before, rfl⟩)
    · exact ⟨_, opened_unresolved member⟩
    · exact ⟨key, unresolved_reconcile.mpr ⟨.inl before, fun managed => absurd managed unmanaged⟩,
        rfl⟩

/-- A second reconciliation over the same conditions leaves the same identities active. -/
theorem active_again (clock' : Clock) :
    (reconcile settings watched limit clock' (reconcile settings watched limit clock alerts)).Active
        identity ↔
      (reconcile settings watched limit clock alerts).Active identity := by
  rw [active_reconcile, active_reconcile]
  tauto

end

/-- The alerts after a reconciliation match the conditions, and another one at any time, over the same
conditions, leaves the same identities. -/
def Reconciled (settings : AlertSettings) (watched : Watched) (limit : Int) (clock : Clock)
    (alerts : Alerts) : Prop :=
  Bijective settings watched (reconcile settings watched limit clock alerts) ∧
    ∀ (clock' : Clock) (identity : AlertIdentity),
      (reconcile settings watched limit clock' (reconcile settings watched limit clock alerts)).Active
          identity ↔
        (reconcile settings watched limit clock alerts).Active identity

/-- A reconciliation does what it is for exactly if the limit leaves out no condition and no condition
has an unresolved alert of another hour. -/
theorem reconciled_iff (settings : AlertSettings) (watched : Watched) (limit : Int) (clock : Clock)
    (alerts : Alerts) :
    Reconciled settings watched limit clock alerts ↔
      WithinLimit watched (effectiveLimit limit) ∧ ThisHour settings watched clock alerts :=
  (and_iff_left fun clock' _ => active_again clock').trans bijective_iff

/-- One job that has reached dead letter. -/
def oneDeadJob : Watched where
  jobs := (∅ : Table UuidBits BackgroundJobModel).insert 0
    { jobType := "WORKFLOW_RUN", status := .deadLetter, payload := .workflowRun 0, priority := 50
      maxAttempts := 1, availableAt := 0, idempotencyKey := "k", createdAt := 0 }

/-- The alert of the job, open since the first hour. -/
def hourOldAlert : Alerts :=
  (∅ : Alerts).insert ⟨jobIdentity 0, 0⟩
    { severity := .high, summary := "s", details := .null, firstSeenAt := 0, lastSeenAt := 0 }

/-- A condition that holds into the next hour has two alerts. -/
theorem next_hour_two_alerts :
    ¬ ∀ (settings : AlertSettings) (watched : Watched) (limit : Int) (clock : Clock)
      (alerts : Alerts), Reconciled settings watched limit clock alerts := by
  intro law
  have thisHour := (bijective_iff.mp
    (law {} oneDeadJob 100 ⟨fun _ => seconds 3600, seconds 3600⟩ hourOldAlert).1).2
  have holds : Holds {} oneDeadJob (jobIdentity 0) := .deadJob (AList.lookup_insert _) rfl
  have columns := holds.columns 0
  have same := thisHour ⟨jobIdentity 0, 0⟩ ⟨_, AList.lookup_insert _, by simp⟩
    (by rw [columns]; exact holds)
  exact absurd (congrArg DeduplicationKey.bucket same) (by simp [bucketOf, seconds])

end CyberLegends.Operations
