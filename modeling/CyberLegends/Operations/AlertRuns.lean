import CyberLegends.Lib.Machine
import CyberLegends.Operations.Alerts

/-! The life of an alert while reconcilers open and resolve alerts and operators acknowledge and
resolve them, in any order. Each of these is one statement or locks the rows that it changes until it
commits, so it is one step. -/

namespace CyberLegends.Operations

open CyberLegends.Core Lib Agents

/-! ### Operators -/

inductive AlertError
  | alertNotFound (message : String)
  | jobConflict (message : String)
  deriving DecidableEq, Repr

namespace Alerts

variable (alerts : Alerts)

-- The row of an alert is named by its key, which no two rows share.
def requiredForUpdate (key : DeduplicationKey) : Except AlertError OperationalAlertModel :=
  match alerts.lookup key with
  | none => .error (.alertNotFound "Operational alert not found")
  | some row => .ok row

def acknowledgeRow (actorId : String) (now : Timestamp) (row : OperationalAlertModel) :
    OperationalAlertModel :=
  { row with
    status := .acknowledged
    acknowledgedBy := some (sanitizeText 200 actorId)
    acknowledgedAt := some now }

def acknowledge (key : DeduplicationKey) (actorId : String) (now : Timestamp) :
    Except AlertError Alerts := do
  let row ← alerts.requiredForUpdate key
  if row.status = .resolved then throw (.jobConflict "Resolved alert cannot be acknowledged")
  return alerts.insert key (acknowledgeRow actorId now row)

def resolve (key : DeduplicationKey) (actorId : String) (now : Timestamp) :
    Except AlertError Alerts := do
  let row ← alerts.requiredForUpdate key
  if row.status = .resolved then return alerts
  return alerts.insert key (resolveRow (sanitizeText 200 actorId) now row)

/-- The opening of the alert of a condition that occurred at a time, in the statement's own time. -/
def openOccurred (condition : AlertCondition) (occurredAt now : Timestamp) : Alerts :=
  alerts.openOrIncrement ⟨condition.identity, bucketOf occurredAt⟩ condition.severity
    (sanitizeText 1000 condition.summary) (sanitizeJson 2000 (.dict condition.details)) now

theorem openOccurred_now (condition : AlertCondition) (now : Timestamp) :
    alerts.openOccurred condition now now = alerts.openAlert condition now := rfl

/-- `resolveCleared` while other transactions hold some rows, which it skips. -/
def resolveClearedUnlocked (locked : List DeduplicationKey) (managedTypes : List AlertType)
    (activeResources : List AlertIdentity) (actorId : String) (now : Timestamp) : Alerts :=
  alerts.rewriteEach (resolveRow actorId now) <|
    ((alerts.listActiveForTypes managedTypes).filter (· ∉ locked)).filter fun key =>
      key.columns ∉ activeResources

theorem resolveClearedUnlocked_nil (managedTypes : List AlertType)
    (activeResources : List AlertIdentity) (actorId : String) (now : Timestamp) :
    alerts.resolveClearedUnlocked [] managedTypes activeResources actorId now =
      alerts.resolveCleared managedTypes activeResources actorId now := by
  unfold resolveClearedUnlocked resolveCleared
  rw [List.filter_eq_self.mpr fun key _ => decide_eq_true List.not_mem_nil]

end Alerts

/-! ### Runs -/

inductive AlertEvent
  | opens (condition : AlertCondition) (occurredAt now : Timestamp)
  | acknowledge (key : DeduplicationKey) (actorId : String) (now : Timestamp)
  | resolve (key : DeduplicationKey) (actorId : String) (now : Timestamp)
  | resolveCleared (locked : List DeduplicationKey) (managedTypes : List AlertType)
      (activeResources : List AlertIdentity) (actorId : String) (now : Timestamp)

def alertStep (alerts : Alerts) : AlertEvent → Alerts
  | .opens condition occurredAt now => alerts.openOccurred condition occurredAt now
  | .acknowledge key actorId now => (alerts.acknowledge key actorId now).toOption.getD alerts
  | .resolve key actorId now => (alerts.resolve key actorId now).toOption.getD alerts
  | .resolveCleared locked managedTypes activeResources actorId now =>
    alerts.resolveClearedUnlocked locked managedTypes activeResources actorId now

/-- Any reconcilers and operators, from an empty table. -/
def alertMachine : Machine Alerts AlertEvent where
  init := ∅
  step := alertStep

/-- The condition under which an event opens the alert of a key, and the time. -/
def openingOf (key : DeduplicationKey) (_ : Alerts) : AlertEvent → Option (AlertCondition × Timestamp)
  | .opens condition occurredAt now =>
    if (⟨condition.identity, bucketOf occurredAt⟩ : DeduplicationKey) = key then
      some (condition, now)
    else none
  | _ => none

/-- The openings of a key in a run. -/
def openings (key : DeduplicationKey) (events : List AlertEvent) : List (AlertCondition × Timestamp) :=
  alertMachine.collected (openingOf key) alertMachine.init events

/-- The row of a key after an opening. -/
def openedRow (opening : AlertCondition × Timestamp) (before : Option OperationalAlertModel) :
    OperationalAlertModel where
  severity := opening.1.severity
  summary := sanitizeText 1000 opening.1.summary
  details := sanitizeJson 2000 (.dict opening.1.details)
  firstSeenAt := (before.map OperationalAlertModel.firstSeenAt).getD opening.2
  lastSeenAt := opening.2
  occurrenceCount := (before.map OperationalAlertModel.occurrenceCount).getD 0 + 1

/-! ### One step -/

/-- What an event that does not open the alert of a key makes of its row. -/
inductive Turn : Option OperationalAlertModel → Option OperationalAlertModel → Prop
  | kept (row : Option OperationalAlertModel) : Turn row row
  | acknowledged {row : OperationalAlertModel} (active : row.status ≠ .resolved) (actorId : String)
      (now : Timestamp) : Turn (some row) (some (Alerts.acknowledgeRow actorId now row))
  | resolved {row : OperationalAlertModel} (active : row.status ≠ .resolved) (actorId : String)
      (now : Timestamp) : Turn (some row) (some (Alerts.resolveRow actorId now row))

section

variable {alerts : Alerts} {key : DeduplicationKey}

variable (alerts key) in
theorem Alerts.lookup_openOccurred (condition : AlertCondition) (occurredAt now : Timestamp) :
    (alerts.openOccurred condition occurredAt now).lookup key =
      if (⟨condition.identity, bucketOf occurredAt⟩ : DeduplicationKey) = key then
        some (openedRow (condition, now) (alerts.lookup key))
      else alerts.lookup key := by
  unfold Alerts.openOccurred Alerts.openOrIncrement
  by_cases here : (⟨condition.identity, bucketOf occurredAt⟩ : DeduplicationKey) = key
  · subst here
    rw [if_pos rfl]
    cases alerts.lookup ⟨condition.identity, bucketOf occurredAt⟩ with
    | none => exact AList.lookup_insert alerts
    | some row => exact AList.lookup_insert alerts
  · rw [if_neg here]
    cases alerts.lookup ⟨condition.identity, bucketOf occurredAt⟩ with
    | none => exact AList.lookup_insert_ne (Ne.symm here)
    | some row => exact AList.lookup_insert_ne (Ne.symm here)

theorem Alerts.requiredForUpdate_ok {row : OperationalAlertModel}
    (found : alerts.requiredForUpdate key = .ok row) : alerts.lookup key = some row := by
  unfold Alerts.requiredForUpdate at found
  split at found
  · cases found
  · cases found
    assumption

theorem Alerts.acknowledge_ok {alerts' : Alerts} {actorId : String} {now : Timestamp}
    (done : alerts.acknowledge key actorId now = .ok alerts') :
    ∃ row, alerts.lookup key = some row ∧ row.status ≠ .resolved ∧
      alerts' = alerts.insert key (acknowledgeRow actorId now row) := by
  unfold Alerts.acknowledge at done
  obtain ⟨row, found, done⟩ := bind_eq_ok.mp done
  by_cases ended : row.status = .resolved
  · rw [if_pos ended] at done
    cases done
  · rw [if_neg ended] at done
    cases done
    exact ⟨row, requiredForUpdate_ok found, ended, rfl⟩

theorem Alerts.resolve_ok {alerts' : Alerts} {actorId : String} {now : Timestamp}
    (done : alerts.resolve key actorId now = .ok alerts') :
    alerts' = alerts ∨ ∃ row, alerts.lookup key = some row ∧ row.status ≠ .resolved ∧
      alerts' = alerts.insert key (resolveRow (sanitizeText 200 actorId) now row) := by
  unfold Alerts.resolve at done
  obtain ⟨row, found, done⟩ := bind_eq_ok.mp done
  by_cases ended : row.status = .resolved
  · rw [if_pos ended] at done
    cases done
    exact .inl rfl
  · rw [if_neg ended] at done
    cases done
    exact .inr ⟨row, requiredForUpdate_ok found, ended, rfl⟩

/-- To rewrite the row of one key is a turn of that row, and of no other. -/
theorem Turn.insert {target : DeduplicationKey} {row row' : OperationalAlertModel}
    (found : alerts.lookup target = some row) (turn : Turn (some row) (some row')) :
    Turn (alerts.lookup key) ((alerts.insert target row').lookup key) := by
  by_cases here : key = target
  · subst here
    rw [found, AList.lookup_insert]
    exact turn
  · rw [AList.lookup_insert_ne here]
    exact .kept _

theorem Turn.resolveClearedUnlocked (locked : List DeduplicationKey) (managed : List AlertType)
    (active : List AlertIdentity) (actorId : String) (now : Timestamp) :
    Turn (alerts.lookup key)
      ((alerts.resolveClearedUnlocked locked managed active actorId now).lookup key) := by
  have nodup : (((alerts.listActiveForTypes managed).filter (· ∉ locked)).filter
      (fun key => key.columns ∉ active)).Nodup :=
    ((alerts.keys_nodup.sublist (List.filter_sublist.map Sigma.fst)).filter _).filter _
  unfold Alerts.resolveClearedUnlocked
  rw [Table.rewriteEach_lookup nodup]
  split
  · rename_i cleared
    have listed := (List.mem_filter.mp (List.mem_filter.mp cleared).1).1
    simp only [Alerts.listActiveForTypes, List.mem_map, List.mem_filter, decide_eq_true_eq] at listed
    obtain ⟨⟨key', row⟩, ⟨entry, -, unresolved⟩, rfl⟩ := listed
    rw [AList.mem_lookup_iff.mpr entry]
    refine .resolved ?_ actorId now
    intro ended
    rw [ended] at unresolved
    simp at unresolved
  · exact .kept _

variable (alerts key) in
/-- An event opens the alert of a key, or turns its row. -/
theorem alertStep_lookup (event : AlertEvent) :
    (∃ opening, openingOf key alerts event = some opening ∧
      (alertStep alerts event).lookup key = some (openedRow opening (alerts.lookup key))) ∨
    openingOf key alerts event = none ∧
      Turn (alerts.lookup key) ((alertStep alerts event).lookup key) := by
  cases event with
  | opens condition occurredAt now =>
    have after := alerts.lookup_openOccurred key condition occurredAt now
    by_cases here : (⟨condition.identity, bucketOf occurredAt⟩ : DeduplicationKey) = key
    · rw [if_pos here] at after
      exact .inl ⟨_, if_pos here, after⟩
    · rw [if_neg here] at after
      exact .inr ⟨if_neg here, after.symm ▸ .kept _⟩
  | acknowledge target actorId now =>
    refine .inr ⟨rfl, ?_⟩
    show Turn _ (AList.lookup key ((alerts.acknowledge target actorId now).toOption.getD alerts))
    cases done : alerts.acknowledge target actorId now with
    | error => exact .kept _
    | ok alerts' =>
      obtain ⟨row, found, active, rfl⟩ := Alerts.acknowledge_ok done
      exact Turn.insert found (.acknowledged active actorId now)
  | resolve target actorId now =>
    refine .inr ⟨rfl, ?_⟩
    show Turn _ (AList.lookup key ((alerts.resolve target actorId now).toOption.getD alerts))
    cases done : alerts.resolve target actorId now with
    | error => exact .kept _
    | ok alerts' =>
      rcases Alerts.resolve_ok done with rfl | ⟨row, found, active, rfl⟩
      · exact .kept _
      · exact Turn.insert found (.resolved active _ now)
  | resolveCleared locked managed active actorId now =>
    exact .inr ⟨rfl, Turn.resolveClearedUnlocked locked managed active actorId now⟩

end

/-! ### The life of an alert -/

/-- The columns of an alert agree with its status. -/
structure Life (row : OperationalAlertModel) : Prop where
  acknowledged : row.acknowledgedBy.isSome = row.acknowledgedAt.isSome
  resolved : row.resolvedBy.isSome = row.resolvedAt.isSome
  opened : row.status = .opened → row.acknowledgedAt = none
  taken : row.status = .acknowledged → row.acknowledgedAt ≠ none
  ended : row.status = .resolved ↔ row.resolvedAt ≠ none

/-- What the openings of a key leave in its row. -/
structure Opened (left : List (AlertCondition × Timestamp)) (row : OperationalAlertModel) : Prop where
  count : row.occurrenceCount = left.length
  firstSeen : left.head?.map Prod.snd = some row.firstSeenAt
  lastSeen : left.getLast?.map Prod.snd = some row.lastSeenAt
  severity : left.getLast?.map (fun opening => opening.1.severity) = some row.severity
  summary : left.getLast?.map (fun opening => sanitizeText 1000 opening.1.summary) = some row.summary
  details : left.getLast?.map (fun opening => sanitizeJson 2000 (.dict opening.1.details)) =
    some row.details

/-- The row of a key that has been opened so far as `left` says. -/
inductive Tracked : List (AlertCondition × Timestamp) → Option OperationalAlertModel → Prop
  | absent : Tracked [] none
  | present {left : List (AlertCondition × Timestamp)} {row : OperationalAlertModel}
      (opened : Opened left row) (life : Life row) : Tracked left (some row)

/-- How far an alert has come. -/
def AlertStatus.rank : AlertStatus → Nat
  | .opened => 0
  | .acknowledged => 1
  | .resolved => 2

/-- What is left of a row while its alert is not opened again: its status never goes back, and once
it is resolved nothing of it changes. -/
structure Later (row row' : OperationalAlertModel) : Prop where
  onward : row.status.rank ≤ row'.status.rank
  final : row.status = .resolved → row' = row

theorem Later.refl (row : OperationalAlertModel) : Later row row := ⟨le_rfl, fun _ => rfl⟩

theorem Later.trans {row row' row'' : OperationalAlertModel} (first : Later row row')
    (second : Later row' row'') : Later row row'' where
  onward := first.onward.trans second.onward
  final ended := by
    obtain rfl := first.final ended
    exact second.final ended

theorem Turn.later {row : OperationalAlertModel} {after : Option OperationalAlertModel}
    (turn : Turn (some row) after) : ∃ row', after = some row' ∧ Later row row' := by
  cases turn with
  | kept => exact ⟨row, rfl, .refl row⟩
  | acknowledged active actorId now =>
    refine ⟨_, rfl, ?_, fun ended => absurd ended active⟩
    show row.status.rank ≤ 1
    revert active
    cases row.status <;> decide
  | resolved active actorId now =>
    refine ⟨_, rfl, ?_, fun ended => absurd ended active⟩
    show row.status.rank ≤ 2
    cases row.status <;> decide

theorem Life.acknowledge {row : OperationalAlertModel} (life : Life row)
    (active : row.status ≠ .resolved) (actorId : String) (now : Timestamp) :
    Life (Alerts.acknowledgeRow actorId now row) where
  acknowledged := rfl
  resolved := life.resolved
  opened status := by cases status
  taken _ := Option.some_ne_none now
  ended := by
    constructor
    · intro status
      cases status
    · intro resolved
      exact absurd (life.ended.mpr resolved) active

theorem Life.resolve {row : OperationalAlertModel} (life : Life row) (actorId : String)
    (now : Timestamp) : Life (Alerts.resolveRow actorId now row) where
  acknowledged := life.acknowledged
  resolved := rfl
  opened status := by cases status
  taken status := by cases status
  ended := ⟨fun _ => Option.some_ne_none now, fun _ => rfl⟩

theorem Life.openedRow (opening : AlertCondition × Timestamp) (before : Option OperationalAlertModel) :
    Life (openedRow opening before) where
  acknowledged := rfl
  resolved := rfl
  opened _ := rfl
  taken status := by cases status
  ended := by
    constructor
    · intro status
      cases status
    · intro resolved
      exact absurd rfl resolved

theorem Turn.tracked {left : List (AlertCondition × Timestamp)}
    {before after : Option OperationalAlertModel} (turn : Turn before after)
    (tracked : Tracked left before) : Tracked left after := by
  cases turn with
  | kept => exact tracked
  | acknowledged active actorId now =>
    cases tracked with | present opened life =>
    refine .present ?_ (life.acknowledge active actorId now)
    exact ⟨opened.count, opened.firstSeen, opened.lastSeen, opened.severity, opened.summary,
      opened.details⟩
  | resolved active actorId now =>
    cases tracked with | present opened life =>
    refine .present ?_ (life.resolve actorId now)
    exact ⟨opened.count, opened.firstSeen, opened.lastSeen, opened.severity, opened.summary,
      opened.details⟩

theorem Tracked.openedRow {left : List (AlertCondition × Timestamp)}
    {before : Option OperationalAlertModel} (tracked : Tracked left before)
    (opening : AlertCondition × Timestamp) :
    Tracked (left ++ [opening]) (some (openedRow opening before)) := by
  refine .present ?_ (.openedRow opening before)
  cases tracked with
  | absent => exact ⟨rfl, rfl, rfl, rfl, rfl, rfl⟩
  | @present left row opened life =>
    have first : (left ++ [opening]).head? = left.head? := by
      cases left with
      | nil => cases opened.firstSeen
      | cons => rfl
    constructor
    · rw [List.length_append, ← opened.count]
      rfl
    · rw [first, opened.firstSeen]
      rfl
    all_goals
      rw [List.getLast?_concat]
      rfl

/-! ### Runs -/

/-- The row of each key says what its openings have left, its columns agree with its status, and
while it is not opened again its status never goes back and a resolved alert stays as it is. -/
theorem alert_life (key : DeduplicationKey) (events : List AlertEvent) :
    Tracked (openings key events) ((alertMachine.run alertMachine.init events).lookup key) ∧
      ∀ before middle after, before ++ middle ++ after = events →
        alertMachine.Meets (fun alerts event => openingOf key alerts event = none)
          (alertMachine.run alertMachine.init before) middle →
        ∀ row, (alertMachine.run alertMachine.init before).lookup key = some row →
          ∃ row', (alertMachine.run alertMachine.init (before ++ middle)).lookup key = some row' ∧
            Later row row' := by
  constructor
  · refine Machine.collected_holds (I := fun left (alerts : Alerts) => Tracked left (alerts.lookup key))
      ?_ ((AList.lookup_empty key).symm ▸ .absent) events
    intro left alerts event tracked
    rcases alertStep_lookup alerts key event with
      ⟨opening, opens, after⟩ | ⟨unopened, turn⟩
    · rw [opens]
      exact after.symm ▸ tracked.openedRow opening
    · rw [unopened, Option.toList_none, List.append_nil]
      exact turn.tracked tracked
  · rintro before middle after - unopened row found
    rw [Machine.run_append]
    refine Machine.run_holds (M := alertMachine)
      (I := fun alerts => ∃ row', alerts.lookup key = some row' ∧ Later row row') ?_
      ⟨row, found, .refl row⟩ unopened
    rintro alerts event ⟨row', found', later⟩ none
    rcases alertStep_lookup alerts key event with
      ⟨opening, opens, -⟩ | ⟨-, turn⟩
    · rw [none] at opens
      cases opens
    · rw [found'] at turn
      obtain ⟨row'', after, onward⟩ := turn.later
      exact ⟨row'', after, later.trans onward⟩

end CyberLegends.Operations
