import CyberLegends.Prompts.Lifecycle

/-! The outbox events of activations: when there are as many of them as activations were committed. -/

namespace CyberLegends.Prompts

open CyberLegends.Core Lib Actions

/-- The event of an activation of the version. -/
def PendingCall.event (pending : PendingCall) : PromptActivated where
  promptTemplateId := pending.model.promptTemplateId
  promptVersionId := pending.versionId
  version := pending.model.version

/-- The event of the activation that a step commits. -/
def activates (w : PromptWorld) : PromptEvent → Option PromptActivated
  | .run id now =>
    match (w.session id).pending with
    | some pending =>
      match pending.operation, (w.session id).commit w.db now pending with
      | .activate .., .ok _ => some pending.event
      | _, _ => none
    | none => none
  | _ => none

/-- One for a step that commits an activation. -/
def activations (w : PromptWorld) (event : PromptEvent) : Nat :=
  if (activates w event).isSome then 1 else 0

/-- The version that the step activates has no event yet. -/
def ActivatesNew (w : PromptWorld) (event : PromptEvent) : Prop :=
  ∀ activated ∈ activates w event, activated ∉ w.db.outbox

@[simp] theorem length_addEvent_new {outbox : List PromptActivated} {event : PromptActivated}
    (new : event ∉ outbox) : (addEvent outbox event).length = outbox.length + 1 := by
  simp [addEvent, new]

@[simp] theorem addEvent_old {outbox : List PromptActivated} {event : PromptActivated}
    (old : event ∈ outbox) : addEvent outbox event = outbox := if_pos old

theorem flushVersion_outbox (db : Database) (versionId : PromptVersionId)
    (loaded assigned : PromptVersionModel) :
    (db.flushVersion versionId loaded assigned).outbox = db.outbox := by
  unfold Database.flushVersion
  split <;> rfl

theorem supersede_outbox (session : PromptSession) (db : Database) (now : Timestamp)
    (templateId : PromptTemplateId) (versionId : PromptVersionId) :
    (session.supersede db now templateId versionId).1.outbox = db.outbox := by
  unfold PromptSession.supersede
  split
  · rfl
  · exact flushVersion_outbox ..

/-- What a commit adds to the outbox is the event of its activation. -/
theorem commit_outbox {session session' : PromptSession} {db db' : Database} {now : Timestamp}
    {pending : PendingCall} (result : session.commit db now pending = .ok (db', session')) :
    db'.outbox =
      match pending.operation with
      | .transition .. => db.outbox
      | .activate .. => addEvent db.outbox pending.event := by
  unfold PromptSession.commit at result
  split at result
  · cases result
  · rename_i template found
    cases operation : pending.operation with
    | transition target expectedStatus =>
      simp only [operation] at result
      split at result
      · cases result
      · cases result
        exact flushVersion_outbox ..
    | activate expectedStatus expectedTemplateVersion =>
      simp only [operation] at result
      unfold PromptSession.activate at result
      dsimp only at result
      split at result
      · cases result
      · split at result
        · cases result
        · split at result
          · cases result
            simp only [flushVersion_outbox, supersede_outbox]
            rfl
          · cases result

/-- A step adds to the outbox the event of the activation that it commits. -/
theorem step_outbox (w : PromptWorld) (event : PromptEvent) :
    (w.step event).db.outbox =
      match activates w event with
      | none => w.db.outbox
      | some activated => addEvent w.db.outbox activated := by
  cases event with
  | run id now =>
    simp only [PromptWorld.step, PromptWorld.run, activates]
    cases waiting : (w.session id).pending with
    | none => rfl
    | some pending =>
      dsimp only
      cases result : (w.session id).commit w.db now pending with
      | error error => cases pending.operation <;> rfl
      | ok committed =>
        obtain ⟨db, session⟩ := committed
        have outbox := commit_outbox result
        revert outbox
        cases pending.operation <;> exact fun outbox => outbox
  | createTemplate templateId =>
    simp only [PromptWorld.step]
    split <;> rfl
  | createVersion id versionId templateId actor =>
    simp only [PromptWorld.step, PromptWorld.createVersion]
    split
    · rfl
    · split <;> rfl
  | start id versionId call actor =>
    simp only [PromptWorld.step, PromptWorld.start]
    split
    · rfl
    · split <;> rfl
  | forgetVersion id versionId =>
    simp only [PromptWorld.step]
    split <;> rfl
  | loadTemplate | loadVersion | forgetTemplate | rollback => rfl

/-- A step adds as many events as it commits activations exactly if it activates no version that has
an event. -/
theorem step_counts_iff (w : PromptWorld) (event : PromptEvent) :
    (w.step event).db.outbox.length = w.db.outbox.length + activations w event ↔
      ActivatesNew w event := by
  rw [step_outbox, ActivatesNew, activations]
  cases activates w event with
  | none => simp
  | some activated => by_cases new : activated ∈ w.db.outbox <;> simp [new]

/-- In every run, after each of its prefixes, there are as many events of activations as activations
were committed, exactly when no version is activated that has an event. -/
theorem one_event_each_activation_iff (events : List PromptEvent) :
    (∀ past, past <+: events →
      (promptMachine.run promptMachine.init past).db.outbox.length =
        promptMachine.total activations promptMachine.init past) ↔
      promptMachine.Meets ActivatesNew promptMachine.init events := by
  have counts : (∀ past, past <+: events →
      (promptMachine.run promptMachine.init past).db.outbox.length =
        0 + promptMachine.total activations promptMachine.init past) ↔
      promptMachine.Steps (fun w event w' =>
        w'.db.outbox.length = w.db.outbox.length + activations w event) promptMachine.init events :=
    Machine.counts_iff_steps (f := fun w : PromptWorld => w.db.outbox.length)
  simp only [Nat.zero_add] at counts
  rw [counts]
  exact Machine.steps_iff_meets step_counts_iff

/-- A version that comes back has been activated twice and has one event. -/
theorem rollback_has_no_event :
    ¬ ∀ (events past : List PromptEvent), past <+: events →
      (promptMachine.run promptMachine.init past).db.outbox.length =
        promptMachine.total activations promptMachine.init past := by
  intro law
  have counts := law rollbackRun rollbackRun (List.prefix_refl _)
  revert counts
  decide +kernel

end CyberLegends.Prompts
