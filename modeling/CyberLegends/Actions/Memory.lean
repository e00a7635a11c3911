import CyberLegends.Actions.Lockstep

/-! The memory of controlled actions. However executors, crashes and reconcilers come between each
other, a handler is started once for a request, an execution has at most one entry about its end, and
one whose memory is marked as recorded has exactly one. -/

namespace CyberLegends.Actions

open CyberLegends.Core Lib Workflow Jobs
open ActionExecutionStatus (ended)
open ExecutorWorld (eventTypeOf)

variable {config : ActionConfig} {now : Timestamp} {w w' : ExecutorWorld}

/-! ### What is claimed of states -/

/-- The entries about the end of an execution. -/
def ExecutorWorld.terminalEntries (w : ExecutorWorld) (executionId : ActionExecutionId) : Nat :=
  w.entries.countP fun entry => entry.actionExecutionId = executionId ∧
    (entry.eventType = .actionCompleted ∨ entry.eventType = .actionFailed)

structure RecordedOnce (w : ExecutorWorld) : Prop where
  handled : ∀ requestId, w.handled.count requestId ≤ 1
  single : ∀ executionId, w.terminalEntries executionId ≤ 1
  recorded : ∀ executionId execution, w.executions.lookup executionId = some execution →
    execution.memory.recordStatus = .recorded → w.terminalEntries executionId = 1

/-! ### Executions that have ended, and their entries -/

/-- The execution has ended, in the way that the kind of entry tells of. -/
def ExecutorWorld.EndedAs (w : ExecutorWorld) (executionId : ActionExecutionId)
    (eventType : MemoryEventType) : Prop :=
  ∃ execution, w.executions.lookup executionId = some execution ∧
    ended execution.status = true ∧ eventTypeOf execution.status = eventType

def ExecutorWorld.Entered (w : ExecutorWorld) (executionId : ActionExecutionId)
    (eventType : MemoryEventType) : Prop :=
  ∃ entry ∈ w.entries, entry.actionExecutionId = executionId ∧ entry.eventType = eventType

theorem ExecutorWorld.EndedAs.unique {executionId : ActionExecutionId}
    {first second : MemoryEventType} (h : w.EndedAs executionId first)
    (h' : w.EndedAs executionId second) : first = second := by
  obtain ⟨execution, row, -, rfl⟩ := h
  obtain ⟨execution', row', -, rfl⟩ := h'
  rw [row] at row'
  cases row'
  rfl

theorem ExecutorWorld.EndedAs.kept {ok : Prop} (change : TableChange ok w w')
    {executionId : ActionExecutionId} {eventType : MemoryEventType}
    (h : w.EndedAs executionId eventType) : w'.EndedAs executionId eventType := by
  obtain ⟨execution, row, closed, kind⟩ := h
  obtain ⟨memory, row'⟩ := change.kept row closed
  exact ⟨_, row', closed, kind⟩

/-- The stage comes after the entry exists. -/
def RecordStage.Follows (w : ExecutorWorld) (executionId : ActionExecutionId)
    (eventType : MemoryEventType) : RecordStage → Prop
  | .mark _ => w.Entered executionId eventType
  | _ => True

/-- An activity that records is about an execution that has ended; an executor at its start has not
started the handler yet. -/
def Activity.Recording (w : ExecutorWorld) : Activity → Prop
  | .executor (.start requestId _) => requestId ∉ w.handled
  | .executor (.record _ executionId eventType _ stage) =>
    w.EndedAs executionId eventType ∧ stage.Follows w executionId eventType
  | .reconciler (.next executionIds) =>
    ∀ executionId ∈ executionIds, ∃ eventType, w.EndedAs executionId eventType
  | .reconciler (.record _ executionId eventType stage executionIds) =>
    (w.EndedAs executionId eventType ∧ stage.Follows w executionId eventType) ∧
      ∀ executionId ∈ executionIds, ∃ eventType, w.EndedAs executionId eventType
  | _ => True

structure Remembered (w : ExecutorWorld) : Prop where
  coherent : Coherent w
  unique : w.entries.Pairwise fun entry other =>
    entry.actionExecutionId = other.actionExecutionId → entry.eventType ≠ other.eventType
  kind : ∀ entry ∈ w.entries, w.EndedAs entry.actionExecutionId entry.eventType
  recorded : ∀ executionId execution, w.executions.lookup executionId = some execution →
    execution.memory.recordStatus = .recorded → ∃ eventType, w.Entered executionId eventType
  recording : ∀ caller activity, w.activities.lookup caller = some activity → activity.Recording w
  starts : ∀ caller caller' requestId executionId executionId',
    w.activities.lookup caller = some (.executor (.start requestId executionId)) →
      w.activities.lookup caller' = some (.executor (.start requestId executionId')) →
        caller = caller'
  executed : ∀ requestId ∈ w.handled, ∃ executionId, w.Executes requestId executionId
  handled : w.handled.Nodup

theorem Remembered.empty : Remembered {} where
  coherent := .empty
  unique := .nil
  kind _ member := by cases member
  recorded _ _ row := by simp at row
  recording _ _ found := by simp at found
  starts _ _ _ _ _ found := by simp at found
  executed _ member := by cases member
  handled := .nil

theorem eventTypeOf_terminal (status : ActionExecutionStatus) :
    eventTypeOf status = .actionCompleted ∨ eventTypeOf status = .actionFailed := by
  unfold eventTypeOf
  split
  · exact .inl rfl
  · exact .inr rfl

/-- The entries about one execution are all of one kind, and there is at most one of each kind. -/
theorem Remembered.terminalEntries_le (remembered : Remembered w)
    (executionId : ActionExecutionId) : w.terminalEntries executionId ≤ 1 := by
  unfold ExecutorWorld.terminalEntries
  rw [List.countP_eq_length_filter]
  have distinct := remembered.unique.sublist (List.filter_sublist (p := fun entry =>
    entry.actionExecutionId = executionId ∧
      (entry.eventType = .actionCompleted ∨ entry.eventType = .actionFailed)))
  have about : ∀ entry ∈ w.entries.filter (fun entry => entry.actionExecutionId = executionId ∧
      (entry.eventType = .actionCompleted ∨ entry.eventType = .actionFailed)),
        entry ∈ w.entries ∧ entry.actionExecutionId = executionId := by
    intro entry member
    obtain ⟨member, holds⟩ := List.mem_filter.mp member
    exact ⟨member, (of_decide_eq_true holds).1⟩
  generalize w.entries.filter _ = entries at distinct about ⊢
  match entries with
  | [] => simp
  | [_] => simp
  | entry :: other :: rest =>
    obtain ⟨first, firstId⟩ := about entry (by simp)
    obtain ⟨second, secondId⟩ := about other (by simp)
    have same : entry.actionExecutionId = other.actionExecutionId := firstId.trans secondId.symm
    have kinds : entry.eventType = other.eventType :=
      (same ▸ remembered.kind entry first).unique (remembered.kind other second)
    exact absurd kinds ((List.pairwise_cons.mp distinct).1 other List.mem_cons_self same)

theorem Remembered.recordedOnce (remembered : Remembered w) : RecordedOnce w where
  handled requestId := List.nodup_iff_count_le_one.mp remembered.handled requestId
  single := remembered.terminalEntries_le
  recorded executionId execution row marked := by
    obtain ⟨eventType, entry, member, rfl, -⟩ := remembered.recorded executionId execution row marked
    have terminal : entry.eventType = .actionCompleted ∨ entry.eventType = .actionFailed := by
      obtain ⟨_, -, -, kind⟩ := remembered.kind entry member
      exact kind ▸ eventTypeOf_terminal _
    have positive : 0 < w.terminalEntries entry.actionExecutionId :=
      List.countP_pos_iff.mpr ⟨entry, member, by simp [terminal]⟩
    have := remembered.terminalEntries_le entry.actionExecutionId
    omega

/-! ### What a step does to entries and their columns -/

/-- A new entry is the first of its kind and is about an execution that has ended; memory turns to
recorded only where there is an entry. -/
structure Remembering (w w' : ExecutorWorld) : Prop where
  entries : w'.entries = w.entries ∨ ∃ entry, w'.entries = entry :: w.entries ∧
    (∀ other ∈ w.entries, other.actionExecutionId = entry.actionExecutionId →
      other.eventType ≠ entry.eventType) ∧
      w.EndedAs entry.actionExecutionId entry.eventType
  recorded : ∀ executionId execution', w'.executions.lookup executionId = some execution' →
    execution'.memory.recordStatus = .recorded →
      (∃ execution, w.executions.lookup executionId = some execution ∧
        execution.memory.recordStatus = .recorded) ∨ ∃ eventType, w.Entered executionId eventType

theorem Remembering.of_same (entries : w'.entries = w.entries)
    (executions : w'.executions = w.executions) : Remembering w w' where
  entries := .inl entries
  recorded _ execution' row' marked := .inl ⟨execution', executions ▸ row', marked⟩

theorem Remembering.setExecution {executionId : ActionExecutionId}
    {execution : AgentActionExecutionModel} (entries : w'.entries = w.entries)
    (executions : w'.executions = w.executions.insert executionId execution)
    (marked : execution.memory.recordStatus = .recorded →
      (∃ before, w.executions.lookup executionId = some before ∧
        before.memory.recordStatus = .recorded) ∨ ∃ eventType, w.Entered executionId eventType) :
    Remembering w w' where
  entries := .inl entries
  recorded other execution' row' marked' := by
    rw [executions] at row'
    obtain ⟨rfl, rfl⟩ | ⟨-, row⟩ := Table.lookup_insert_cases row'
    · exact marked marked'
    · exact .inl ⟨execution', row, marked'⟩

theorem ExecutorWorld.Entered.kept (remembering : Remembering w w')
    {executionId : ActionExecutionId} {eventType : MemoryEventType}
    (h : w.Entered executionId eventType) : w'.Entered executionId eventType := by
  obtain ⟨entry, member, facts⟩ := h
  refine ⟨entry, ?_, facts⟩
  rcases remembering.entries with same | ⟨_, added, -⟩
  · exact same ▸ member
  · rw [added]
    exact List.mem_cons_of_mem _ member

section

variable {requestId : ActionRequestId} {executionId : ActionExecutionId}
  {eventType : MemoryEventType} {stage : RecordStage}

theorem RecordStep.remembering {outcome : RecordOutcome} (closed : w.EndedAs executionId eventType)
    (follows : stage.Follows w executionId eventType)
    (step : RecordStep now w requestId executionId eventType stage w' outcome) :
    Remembering w w' := by
  cases step with
  | raised | aborted | done | found | missing => exact .of_same rfl rfl
  | @inserted _ request row fresh =>
    exact ⟨.inr ⟨_, rfl, fresh, closed⟩, fun _ execution' row' marked =>
      .inl ⟨execution', row', marked⟩⟩
  | @started _ execution columns row =>
    refine .setExecution rfl rfl fun marked => .inl ⟨execution, row, ?_⟩
    obtain ⟨committed, -⟩ | assigned := flush_cases columns.recordStatus
      columns.startMemoryRecordAttempt.recordStatus execution.memory.recordStatus
    · exact committed ▸ marked
    · rw [MemoryColumns.flush, assigned] at marked
      cases marked
  | marked row => exact .setExecution rfl rfl fun _ => .inr ⟨eventType, follows⟩
  | @failed errorCode errorMessage execution row =>
    obtain ⟨-, executions, -, -, entries, -⟩ := @addEvent_frame
      (w.setExecution executionId
        { execution with
          memory := execution.memory.markMemoryRecordFailed errorCode errorMessage })
      executionId .memoryReconciliationRequired
    exact .setExecution entries executions nofun

/-- The entry exists when the record comes to its mark. -/
theorem RecordStep.follows {stage' : RecordStage}
    (step : RecordStep now w requestId executionId eventType stage w' (.continues stage')) :
    stage'.Follows w' executionId eventType := by
  generalize result : RecordOutcome.continues stage' = outcome at step
  cases step with
  | raised | done | marked | missing | failed => cases result
  | aborted | started =>
    cases result
    trivial
  | @found _ entry member about kind =>
    cases result
    exact ⟨entry, member, about, kind⟩
  | inserted =>
    cases result
    exact ⟨_, List.mem_cons_self, rfl, rfl⟩

end

theorem ExecutorStep.remembering {answer : Answer} {executor : Executor}
    {outcome : Outcome Executor} (recording : (Activity.executor executor).Recording w)
    (step : ExecutorStep config now w answer executor w' outcome) : Remembering w w' := by
  cases step with
  | waits | unread | hinted | unreserved | refused | started | failed | handled | unfinished
  | unrecorded => exact .of_same rfl rfl
  | @reserved requestId _ hint committed request execution identifier _ row result =>
    obtain ⟨-, -, -, memory, -⟩ := reserveLoaded_ok row result
    refine .setExecution rfl rfl fun marked => ?_
    rw [memory] at marked
    cases marked
  | @finalized requestId executionId outcome raised _ columns _ result =>
    obtain ⟨⟨request, execution, -, -, -, -, executions⟩, -, -, entries, -⟩ := finalize_frame result
    have unmarked : (outcome.finishExecution execution now).memory.recordStatus ≠ .recorded := by
      cases outcome <;> exact nofun
    exact .setExecution entries executions fun marked => absurd marked unmarked
  | records step => exact step.remembering recording.1 recording.2
  | recorded step => exact step.remembering recording.1 recording.2

/-- A handler is started from the start of its executor only. -/
theorem ExecutorStep.handled_same {answer : Answer} {executor : Executor}
    {outcome : Outcome Executor}
    (step : ExecutorStep config now w answer executor w' outcome) :
    w'.handled = w.handled ∨ ∃ requestId executionId, executor = .start requestId executionId ∧
      outcome = .continues (.handle requestId executionId) ∧
        w'.handled = requestId :: w.handled := by
  cases step with
  | waits | unread | hinted | unreserved | refused | reserved | failed | handled | unfinished
  | unrecorded => exact .inl rfl
  | started => exact .inr ⟨_, _, rfl, rfl, rfl⟩
  | finalized _ result =>
    obtain ⟨-, -, -, -, handled⟩ := finalize_frame result
    exact .inl handled
  | records step =>
    obtain ⟨-, -, -, handled, -⟩ := step.frame
    exact .inl handled
  | recorded step =>
    obtain ⟨-, -, -, handled, -⟩ := step.frame
    exact .inl handled

theorem HandlerOutcome.endedAs (outcome : HandlerOutcome) (execution : AgentActionExecutionModel) :
    ended (outcome.finishExecution execution now).status = true ∧
      eventTypeOf (outcome.finishExecution execution now).status = outcome.memoryEventType := by
  cases outcome <;> exact ⟨rfl, rfl⟩

/-- Where an executor goes on, it records an execution that has ended, or is at a new start. -/
theorem ExecutorStep.recording {ok : Prop} (remembered : Remembered w) {answer : Answer}
    {executor executor' : Executor} (recording : (Activity.executor executor).Recording w)
    (change : TableChange ok w w')
    (step : ExecutorStep config now w answer executor w' (.continues executor')) :
    (Activity.executor executor').Recording w' := by
  generalize result : Outcome.continues executor' = outcome at step
  cases step with
  | waits unanswered =>
    cases result
    rcases unanswered with ⟨_, _, rfl⟩ | ⟨_, _, _, _, rfl, -⟩ <;> trivial
  | unread | unreserved | refused | unfinished => cases result
  | hinted | started | failed | handled =>
    cases result
    trivial
  | @reserved requestId _ hint committed request execution identifier _ row created =>
    cases result
    obtain ⟨-, -, -, -, unexecuted⟩ := reserveLoaded_ok row created
    intro started
    obtain ⟨executionId, execution, executionRow, owner⟩ := remembered.executed requestId started
    exact unexecuted executionId execution executionRow owner
  | @finalized requestId executionId outcome _ _ columns _ finalized =>
    cases result
    obtain ⟨⟨request, execution, -, -, -, -, executions⟩, -⟩ := finalize_frame finalized
    refine ⟨⟨outcome.finishExecution execution now, ?_, outcome.endedAs execution⟩, trivial⟩
    rw [executions]
    exact AList.lookup_insert ..
  | records step =>
    cases result
    exact ⟨recording.1.kept change, step.follows⟩
  | recorded _ ends => exact absurd result.symm (ends executor')
  | unrecorded ends =>
    obtain ends | ⟨errorCode, errorMessage, retryable, same⟩ := ends
    · exact absurd result.symm (ends executor')
    · cases result.trans same
      trivial

theorem Executor.interrupted_recording {executor executor' : Executor}
    (recording : (Activity.executor executor).Recording w)
    (on : executor.interrupted = some executor') : (Activity.executor executor').Recording w := by
  unfold Executor.interrupted at on
  split at on
  · cases on
  · cases on
  · cases on
  · cases on
    trivial
  · cases on
    trivial
  · cases on
    trivial
  · split at on
    · cases on
      trivial
    · cases on
  · split at on
    · cases on
      exact recording
    · cases on

theorem ReconcilerStep.remembering {reconciler : Reconciler} {outcome : Outcome Reconciler}
    (recording : (Activity.reconciler reconciler).Recording w)
    (step : ReconcilerStep now w reconciler w' outcome) : Remembering w w' := by
  cases step with
  | ends | skipped | opened => exact .of_same rfl rfl
  | records step => exact step.remembering recording.1.1 recording.1.2
  | recorded step => exact step.remembering recording.1.1 recording.1.2

theorem ReconcilerStep.recording {ok : Prop} {reconciler reconciler' : Reconciler}
    (recording : (Activity.reconciler reconciler).Recording w) (change : TableChange ok w w')
    (step : ReconcilerStep now w reconciler w' (.continues reconciler')) :
    (Activity.reconciler reconciler').Recording w' := by
  have later : ∀ executionIds : List ActionExecutionId,
      (∀ executionId ∈ executionIds, ∃ eventType, w.EndedAs executionId eventType) →
        ∀ executionId ∈ executionIds, ∃ eventType, w'.EndedAs executionId eventType := by
    intro executionIds closed executionId member
    obtain ⟨eventType, ended⟩ := closed executionId member
    exact ⟨eventType, ended.kept change⟩
  generalize result : Outcome.continues reconciler' = outcome at step
  cases step with
  | ends ends => exact absurd result.symm (ends reconciler')
  | skipped =>
    cases result
    exact later _ fun executionId member => recording executionId (List.mem_cons_of_mem _ member)
  | @opened executionId executionIds execution row =>
    cases result
    obtain ⟨eventType, execution', row', closed, -⟩ := recording executionId List.mem_cons_self
    rw [row] at row'
    cases row'
    exact ⟨⟨⟨execution, row, closed, rfl⟩, trivial⟩,
      later _ fun other member => recording other (List.mem_cons_of_mem _ member)⟩
  | records step =>
    cases result
    exact ⟨⟨recording.1.1.kept change, step.follows⟩, later _ recording.2⟩
  | recorded =>
    cases result
    exact later _ recording.2

/-! ### Every run -/

theorem WorldStep.remembering (remembered : Remembered w) {event : ExecutorEvent}
    (step : WorldStep config w event w') : Remembering w w' := by
  cases step with
  | idle | reconciling | interrupted | stopped | lost => exact .of_same rfl rfl
  | served change => exact .of_same rfl change.executions
  | began change => exact .of_same rfl change.executions
  | @executed _ _ _ _ next outcome row step =>
    have next : Remembering w next := step.remembering (remembered.recording _ _ row)
    cases outcome <;> exact ⟨next.entries, next.recorded⟩
  | @reconciled _ _ _ _ next outcome row step =>
    have next : Remembering w next := step.remembering (remembered.recording _ _ row)
    cases outcome <;> exact ⟨next.entries, next.recorded⟩

/-- The handlers that a step starts: at most one, and its executor has left its start. -/
theorem WorldStep.handled_same {event : ExecutorEvent} (step : WorldStep config w event w') :
    w'.handled = w.handled ∨ ∃ caller requestId executionId,
      w.activities.lookup caller = some (.executor (.start requestId executionId)) ∧
        w'.activities = w.activities.insert caller (.executor (.handle requestId executionId)) ∧
          w'.handled = requestId :: w.handled := by
  cases step with
  | idle | reconciling | interrupted | stopped | lost | served | began => exact .inl rfl
  | @executed caller _ _ _ next outcome row step =>
    obtain same | ⟨requestId, executionId, rfl, rfl, handled⟩ := step.handled_same
    · cases outcome <;> exact .inl same
    · refine .inr ⟨caller, requestId, executionId, row, ?_, handled⟩
      exact congrArg (AList.insert caller _) step.frame.1
  | @reconciled _ _ _ _ next outcome row step =>
    have same : next.handled = w.handled := by
      cases step with
      | ends | skipped | opened => rfl
      | records step => exact step.frame.2.2.2.1
      | recorded step => exact step.frame.2.2.2.1
    cases outcome <;> exact .inl same

/-- The executor's new start is at a request that had no execution. -/
theorem ExecutorStep.fresh_start {answer : Answer} {executor executor' : Executor}
    (step : ExecutorStep config now w answer executor w' (.continues executor'))
    {requestId : ActionRequestId} {executionId : ActionExecutionId}
    (start : executor' = .start requestId executionId) : w.Unexecuted requestId := by
  generalize result : Outcome.continues executor' = outcome at step
  subst start
  cases step with
  | waits unanswered =>
    cases result
    simp at unanswered
  | unread | unreserved | refused | unfinished | hinted | started | failed | handled | finalized
  | records => cases result
  | reserved _ row created =>
    cases result
    exact (reserveLoaded_ok row created).2.2.2.2
  | recorded _ ends => exact absurd result.symm (ends _)
  | unrecorded ends =>
    obtain ends | ⟨errorCode, errorMessage, retryable, same⟩ := ends
    · exact absurd result.symm (ends _)
    · cases result.trans same

/-- One caller acts in a step; where its activity is new, it records what has ended or is at the start
of a request that had no execution. -/
theorem WorldStep.activity (remembered : Remembered w) {event : ExecutorEvent}
    (step : WorldStep config w event w') : ∃ caller,
      (∀ other, other ≠ caller → w'.activities.lookup other = w.activities.lookup other) ∧
        ∀ activity, w'.activities.lookup caller = some activity →
          w.activities.lookup caller = some activity ∨ activity.Recording w' ∧
            ∀ requestId executionId, activity = .executor (.start requestId executionId) →
              w.Unexecuted requestId := by
  have change := step.change remembered.coherent
  cases step with
  | idle => exact ⟨0, fun _ _ => rfl, fun _ found => .inl found⟩
  | served => exact ⟨0, fun _ _ => rfl, fun _ found => .inl found⟩
  | @began _ caller =>
    refine ⟨caller, fun other ne => AList.lookup_insert_ne ne, fun activity found => .inr ?_⟩
    rw [ExecutorWorld.setActivity, AList.lookup_insert] at found
    cases found
    exact ⟨trivial, nofun⟩
  | @reconciling caller limit executionIds named =>
    refine ⟨caller, fun other ne => AList.lookup_insert_ne ne, fun activity found => .inr ?_⟩
    rw [ExecutorWorld.setActivity, AList.lookup_insert] at found
    cases found
    refine ⟨?_, nofun⟩
    intro executionId member
    obtain ⟨execution, row, holds⟩ := (Option.any_eq_true ..).mp (named executionId member)
    have holds := (of_decide_eq_true holds).1
    exact ⟨_, execution, row, decide_eq_true holds, rfl⟩
  | @executed caller answer now executor next outcome row step =>
    have frame := step.frame.1
    refine ⟨caller, fun other ne => ?_, fun activity found => ?_⟩
    · rw [← frame]
      cases outcome with
      | continues => exact AList.lookup_insert_ne ne
      | returns => exact AList.lookup_erase_ne ne
      | raises => exact AList.lookup_erase_ne ne
    · cases outcome with
      | continues executor' =>
        have found := (AList.lookup_insert ..).symm.trans found
        cases found
        have recording : (Activity.executor executor').Recording next :=
          step.recording remembered (remembered.recording _ _ row)
            (change.congr rfl rfl rfl)
        refine .inr ⟨recording, ?_⟩
        rintro requestId executionId ⟨⟩
        exact step.fresh_start rfl
      | returns =>
        have found := (AList.lookup_erase ..).symm.trans found
        cases found
      | raises =>
        have found := (AList.lookup_erase ..).symm.trans found
        cases found
  | @reconciled caller answer now reconciler next outcome row step =>
    have frame := step.frame.1
    refine ⟨caller, fun other ne => ?_, fun activity found => ?_⟩
    · rw [← frame]
      cases outcome with
      | continues => exact AList.lookup_insert_ne ne
      | returns => exact AList.lookup_erase_ne ne
      | raises => exact AList.lookup_erase_ne ne
    · cases outcome with
      | continues reconciler' =>
        have found := (AList.lookup_insert ..).symm.trans found
        cases found
        have recording : (Activity.reconciler reconciler').Recording next :=
          step.recording (remembered.recording _ _ row) (change.congr rfl rfl rfl)
        exact .inr ⟨recording, nofun⟩
      | returns =>
        have found := (AList.lookup_erase ..).symm.trans found
        cases found
      | raises =>
        have found := (AList.lookup_erase ..).symm.trans found
        cases found
  | @interrupted caller executor executor' row on =>
    refine ⟨caller, fun other ne => AList.lookup_insert_ne ne, fun activity found => .inr ?_⟩
    rw [ExecutorWorld.setActivity, AList.lookup_insert] at found
    cases found
    have recording : (Activity.executor executor').Recording w :=
      Executor.interrupted_recording (remembered.recording _ _ row) on
    refine ⟨recording, ?_⟩
    rintro requestId executionId ⟨⟩
    unfold Executor.interrupted at on
    split at on
    all_goals first | cases on | (split at on <;> cases on)
  | @stopped caller =>
    refine ⟨caller, fun other ne => AList.lookup_erase_ne ne, fun activity found => ?_⟩
    rw [ExecutorWorld.endActivity, AList.lookup_erase] at found
    cases found
  | @lost caller =>
    refine ⟨caller, fun other ne => AList.lookup_erase_ne ne, fun activity found => ?_⟩
    rw [ExecutorWorld.endActivity, AList.lookup_erase] at found
    cases found

theorem Activity.Recording.kept {ok : Prop} (change : TableChange ok w w')
    (remembering : Remembering w w') {activity : Activity} (h : activity.Recording w)
    (unstarted : ∀ requestId executionId,
      activity = .executor (.start requestId executionId) → requestId ∉ w'.handled) :
    activity.Recording w' := by
  have follows : ∀ {executionId eventType stage}, RecordStage.Follows w executionId eventType stage →
      RecordStage.Follows w' executionId eventType stage := by
    intro executionId eventType stage follows
    cases stage with
    | mark => exact follows.kept remembering
    | start | insert | fail => trivial
  have later : ∀ {executionIds : List ActionExecutionId},
      (∀ executionId ∈ executionIds, ∃ eventType, w.EndedAs executionId eventType) →
        ∀ executionId ∈ executionIds, ∃ eventType, w'.EndedAs executionId eventType := by
    intro executionIds closed executionId member
    obtain ⟨eventType, ended⟩ := closed executionId member
    exact ⟨eventType, ended.kept change⟩
  cases activity with
  | executor executor =>
    cases executor with
    | hint | reserve | handle | finalize => trivial
    | start requestId executionId => exact unstarted requestId executionId rfl
    | record => exact ⟨h.1.kept change, follows h.2⟩
  | reconciler reconciler =>
    cases reconciler with
    | next => exact later h
    | record => exact ⟨⟨h.1.1.kept change, follows h.1.2⟩, later h.2⟩

/-- After a step, too, no executor is at the start of a handler that has been started. -/
theorem WorldStep.unstarted (remembered : Remembered w) {event : ExecutorEvent}
    (step : WorldStep config w event w') {caller : CallerId} {requestId : ActionRequestId}
    {executionId : ActionExecutionId}
    (before : w.activities.lookup caller = some (.executor (.start requestId executionId)))
    (after : w'.activities.lookup caller = some (.executor (.start requestId executionId))) :
    requestId ∉ w'.handled := by
  have unstarted : requestId ∉ w.handled := remembered.recording caller _ before
  obtain same | ⟨acting, started, startedId, row, activities, handled⟩ := step.handled_same
  · exact same ▸ unstarted
  · rw [handled]
    intro member
    obtain rfl | member := List.mem_cons.mp member
    · obtain rfl := remembered.starts caller acting requestId executionId startedId before row
      rw [activities, AList.lookup_insert] at after
      cases after
    · exact unstarted member

theorem WorldStep.recording (remembered : Remembered w) {event : ExecutorEvent}
    (step : WorldStep config w event w') {caller : CallerId} {activity : Activity}
    (found : w'.activities.lookup caller = some activity) :
    w.activities.lookup caller = some activity ∨ activity.Recording w' := by
  obtain ⟨acting, others, acts⟩ := step.activity remembered
  by_cases same : caller = acting
  · subst same
    exact (acts activity found).imp id And.left
  · exact .inl ((others caller same).symm.trans found)

theorem WorldStep.starts (remembered : Remembered w) {event : ExecutorEvent}
    (step : WorldStep config w event w') {caller caller' : CallerId} {requestId : ActionRequestId}
    {executionId executionId' : ActionExecutionId}
    (first : w'.activities.lookup caller = some (.executor (.start requestId executionId)))
    (second : w'.activities.lookup caller' = some (.executor (.start requestId executionId'))) :
    caller = caller' := by
  obtain ⟨acting, others, acts⟩ := step.activity remembered
  have held : ∀ other otherId, w.activities.lookup other =
      some (.executor (.start requestId otherId)) → ¬w.Unexecuted requestId := by
    intro other otherId row unexecuted
    obtain ⟨execution, executionRow, owner⟩ := remembered.coherent.subjects other _ row
    exact unexecuted otherId execution executionRow owner
  -- a start is held over from before, or is that of the caller that acts
  have origin : ∀ other otherId, w'.activities.lookup other =
      some (.executor (.start requestId otherId)) →
        w.activities.lookup other = some (.executor (.start requestId otherId)) ∨
          other = acting ∧ w.Unexecuted requestId := by
    intro other otherId row
    by_cases same : other = acting
    · subst same
      obtain before | ⟨-, fresh⟩ := acts _ row
      · exact .inl before
      · exact .inr ⟨rfl, fresh requestId otherId rfl⟩
    · exact .inl ((others other same).symm.trans row)
  obtain before | ⟨rfl, fresh⟩ := origin caller executionId first
  · obtain before' | ⟨-, fresh⟩ := origin caller' executionId' second
    · exact remembered.starts caller caller' requestId executionId executionId' before before'
    · exact absurd fresh (held caller executionId before)
  · obtain before' | ⟨rfl, -⟩ := origin caller' executionId' second
    · exact absurd fresh (held caller' executionId' before')
    · rfl

theorem remembered_step (remembered : Remembered w) (event : ExecutorEvent) :
    Remembered (w.step config event) := by
  have step : WorldStep config w event (w.step config event) :=
    world_step remembered.coherent.calls event
  have change := step.change remembered.coherent
  have remembering := step.remembering remembered
  generalize result : w.step config event = w' at step change remembering
  constructor
  · rw [← result]
    exact coherent_step remembered.coherent event
  · obtain same | ⟨entry, added, fresh, -⟩ := remembering.entries
    · rw [same]
      exact remembered.unique
    · rw [added]
      refine List.pairwise_cons.mpr ⟨?_, remembered.unique⟩
      intro other member about same
      exact fresh other member about.symm same.symm
  · intro entry member
    obtain same | ⟨new, added, -, closed⟩ := remembering.entries
    · exact (remembered.kind entry (same ▸ member)).kept change
    · rw [added] at member
      obtain rfl | member := List.mem_cons.mp member
      · exact closed.kept change
      · exact (remembered.kind entry member).kept change
  · intro executionId execution' row' marked
    obtain ⟨execution, row, marked⟩ | ⟨eventType, entered⟩ :=
      remembering.recorded executionId execution' row' marked
    · obtain ⟨eventType, entered⟩ := remembered.recorded executionId execution row marked
      exact ⟨eventType, entered.kept remembering⟩
    · exact ⟨eventType, entered.kept remembering⟩
  · intro caller activity found
    obtain before | recording := step.recording remembered found
    · refine (remembered.recording caller activity before).kept change remembering ?_
      rintro requestId executionId rfl
      exact step.unstarted remembered before found
    · exact recording
  · intro caller caller' requestId executionId executionId' first second
    exact step.starts remembered first second
  · intro requestId member
    obtain same | ⟨caller, started, executionId, row, -, handled⟩ := step.handled_same
    · obtain ⟨executionId, executes⟩ := remembered.executed requestId (same ▸ member)
      exact ⟨executionId, change.executes executes⟩
    · rw [handled] at member
      obtain rfl | member := List.mem_cons.mp member
      · exact ⟨executionId, change.executes (remembered.coherent.subjects caller _ row)⟩
      · obtain ⟨executionId, executes⟩ := remembered.executed requestId member
        exact ⟨executionId, change.executes executes⟩
  · obtain same | ⟨caller, started, executionId, row, -, handled⟩ := step.handled_same
    · rw [same]
      exact remembered.handled
    · rw [handled]
      exact List.nodup_cons.mpr ⟨remembered.recording caller _ row, remembered.handled⟩

/-- In every state of every run the handler of a request has been started at most once, an execution
has at most one entry about its end, and exactly one when its memory is marked as recorded. -/
theorem memory_recorded_once (config : ActionConfig) (events : List ExecutorEvent) :
    (executorMachine config).Always RecordedOnce (executorMachine config).init events := by
  rw [Machine.always_iff_prefix]
  intro prefixEvents _
  have reachable : (executorMachine config).Reachable
      ((executorMachine config).run (executorMachine config).init prefixEvents) :=
    ⟨prefixEvents, rfl⟩
  have remembered := reachable.holds Remembered.empty
    fun w event remembered => @remembered_step config w remembered event
  exact remembered.recordedOnce

/-- The executor is lost between the entry and its mark, and a reconciler records the execution. -/
def reconciledRun : List ExecutorEvent :=
  (manualReviewRun.take 6).map .service ++
    [.service (.proceed 2 0 2), .advance 2 (.proceed 0) 2, .advance 2 (.proceed 20) 2,
      .advance 2 (.proceed 0) 2, .advance 2 (.success "marked") 3, .advance 2 (.proceed 0) 3,
      .advance 2 (.proceed 0) 3, .advance 2 (.proceed 0) 3, .lose 2, .reconcile 7 100 [20],
      .advance 7 (.proceed 0) 4, .advance 7 (.proceed 0) 4, .advance 7 (.proceed 0) 4,
      .advance 7 (.proceed 0) 5]

example :
    let w := (executorMachine manualReviewConfig).run {} reconciledRun
    (w.executions.lookup 20).any (fun execution => execution.memory.recordStatus = .recorded) ∧
      w.terminalEntries 20 = 1 ∧ w.handled = [10] := by
  decide +kernel

end CyberLegends.Actions
