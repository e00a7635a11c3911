import CyberLegends.Prompts.Versions

/-! The life of a prompt version. The lock on the template serializes the calls, but the version is
read before it, so a status change goes along an edge as long as the status that the call has read
is still the committed one. That one version is active, and approved, holds without that. -/

namespace CyberLegends.Prompts

open CyberLegends.Core Lib Actions

/-! ### What is to hold -/

/-- The edges of the life of a version. -/
def PromptVersionStatus.next : PromptVersionStatus → List PromptVersionStatus
  | draft => [testing]
  | testing => [approved]
  | approved => [active]
  | active => [retired]
  | retired => [active]

/-- Every status that an event changes goes along an edge from the one committed before, and a new
version is a draft. -/
structure FollowsEdges (w : PromptWorld) (_ : PromptEvent) (w' : PromptWorld) : Prop where
  changed : ∀ versionId row row', w.db.versions.lookup versionId = some row →
    w'.db.versions.lookup versionId = some row' →
      row'.status = row.status ∨ row'.status ∈ row.status.next
  created : ∀ versionId row', w.db.versions.lookup versionId = none →
    w'.db.versions.lookup versionId = some row' → row'.status = .draft

/-- A template has one active version at most, which somebody has approved. -/
structure OneApproved (w : PromptWorld) : Prop where
  one : ∀ versionId versionId' row row', w.db.versions.lookup versionId = some row →
    w.db.versions.lookup versionId' = some row' →
      row.promptTemplateId = row'.promptTemplateId → row.status = .active →
        row'.status = .active → versionId = versionId'
  approved : ∀ versionId row, w.db.versions.lookup versionId = some row →
    row.status = .active → row.approvedBy.isSome = true

/-- The status that a call has read before the lock is still the committed one. -/
def ReadsFresh (w : PromptWorld) : PromptEvent → Prop
  | .run id _ => ∀ pending ∈ (w.session id).pending,
    ∀ row ∈ w.db.versions.lookup pending.versionId, row.status = pending.model.status
  | _ => True

instance decidableReadsFresh (w : PromptWorld) (event : PromptEvent) :
    Decidable (ReadsFresh w event) :=
  match event with
  | .run id _ => inferInstanceAs (Decidable (∀ pending ∈ (w.session id).pending,
      ∀ row ∈ w.db.versions.lookup pending.versionId, row.status = pending.model.status))
  | .createTemplate _ | .createVersion .. | .loadTemplate .. | .loadVersion .. | .forgetTemplate ..
  | .forgetVersion .. | .rollback _ | .start .. => isTrue trivial

/-! ### Versions that have been approved -/

/-- A version in the status has been approved. -/
def PromptVersionStatus.pastApproval : PromptVersionStatus → Bool
  | approved | active | retired => true
  | draft | testing => false

/-- What a session has seen of a version is no more than what is committed. -/
def Vouched (versions : Versions) (versionId : PromptVersionId) (seen : PromptVersionModel) : Prop :=
  ∃ row, versions.lookup versionId = some row ∧
    row.promptTemplateId = seen.promptTemplateId ∧
      (seen.status.pastApproval = true ∨ seen.approvedBy.isSome = true →
        row.approvedBy.isSome = true)

/-- What a session has loaded is vouched for. -/
def Loaded (versions loaded : Versions) : Prop :=
  ∀ versionId seen, loaded.lookup versionId = some seen → Vouched versions versionId seen

structure SessionSound (versions : Versions) (session : PromptSession) : Prop where
  loaded : Loaded versions session.versions
  pending : ∀ pending, session.pending = some pending →
    Vouched versions pending.versionId pending.model

/-- Every version stays, and stays approved. -/
def Grows (versions versions' : Versions) : Prop :=
  ∀ versionId row, versions.lookup versionId = some row →
    ∃ row', versions'.lookup versionId = some row' ∧
      row'.promptTemplateId = row.promptTemplateId ∧
        (row.approvedBy.isSome = true → row'.approvedBy.isSome = true)

def Approved (versions : Versions) : Prop :=
  ∀ versionId row, versions.lookup versionId = some row → row.status.pastApproval = true →
    row.approvedBy.isSome = true

def Single (versions : Versions) : Prop :=
  ∀ versionId versionId' row row', versions.lookup versionId = some row →
    versions.lookup versionId' = some row' → row.promptTemplateId = row'.promptTemplateId →
      row.status = .active → row'.status = .active → versionId = versionId'

structure PromptSound (w : PromptWorld) : Prop where
  approved : Approved w.db.versions
  single : Single w.db.versions
  sessions : ∀ id session, w.sessions.lookup id = some session →
    SessionSound w.db.versions session

section

variable {versions versions' : Versions} {versionId : PromptVersionId}

theorem Grows.refl (versions : Versions) : Grows versions versions :=
  fun _ row found => ⟨row, found, rfl, id⟩

theorem Grows.trans {versions'' : Versions} (grows : Grows versions versions')
    (grows' : Grows versions' versions'') : Grows versions versions'' := by
  intro versionId row found
  obtain ⟨row', found', template, approved⟩ := grows versionId row found
  obtain ⟨row'', found'', template', approved'⟩ := grows' versionId row' found'
  exact ⟨row'', found'', template'.trans template, approved' ∘ approved⟩

theorem Vouched.mono {seen : PromptVersionModel} (grows : Grows versions versions')
    (vouched : Vouched versions versionId seen) : Vouched versions' versionId seen := by
  obtain ⟨row, found, template, approved⟩ := vouched
  obtain ⟨row', found', template', approved'⟩ := grows versionId row found
  exact ⟨row', found', template'.trans template, approved' ∘ approved⟩

theorem Loaded.mono {loaded : Versions} (grows : Grows versions versions')
    (sound : Loaded versions loaded) : Loaded versions' loaded :=
  fun versionId seen found => (sound versionId seen found).mono grows

theorem SessionSound.mono {session : PromptSession} (grows : Grows versions versions')
    (sound : SessionSound versions session) : SessionSound versions' session where
  loaded := sound.loaded.mono grows
  pending pending held := (sound.pending pending held).mono grows

/-- A session that has loaded nothing has seen nothing. -/
theorem SessionSound.empty (versions : Versions) : SessionSound versions {} where
  loaded _ _ found := by cases found
  pending _ held := by cases held

/-- What a session gets by its key is vouched for. -/
theorem Loaded.get {loaded : Versions} {seen : PromptVersionModel} (sound : Loaded versions loaded)
    (approved : Approved versions) (got : Table.get loaded versions versionId = some seen) :
    Vouched versions versionId seen := by
  unfold Table.get at got
  cases held : loaded.lookup versionId with
  | some row =>
    rw [held] at got
    cases got
    exact sound versionId seen held
  | none =>
    rw [held] at got
    refine ⟨seen, got, rfl, fun past => ?_⟩
    exact past.elim (approved versionId seen got) id

theorem Loaded.insert {loaded : Versions} {seen : PromptVersionModel} (sound : Loaded versions loaded)
    (vouched : Vouched versions versionId seen) : Loaded versions (loaded.insert versionId seen) := by
  intro other seen' found
  obtain ⟨rfl, rfl⟩ | ⟨-, before⟩ := Table.lookup_insert_cases found
  · exact vouched
  · exact sound other seen' before

theorem Loaded.erase {loaded : Versions} (sound : Loaded versions loaded) :
    Loaded versions (loaded.erase versionId) :=
  fun other seen found => sound other seen (Table.lookup_erase_some found).2

end

/-! ### The update of a version -/

section

variable {db : Database} {versionId : PromptVersionId} {loaded assigned : PromptVersionModel}

theorem flushVersion_lookup {row : PromptVersionModel} (found : db.versions.lookup versionId = some row)
    (other : PromptVersionId) :
    (db.flushVersion versionId loaded assigned).versions.lookup other =
      if other = versionId then some (loaded.flush assigned row) else db.versions.lookup other := by
  unfold Database.flushVersion
  rw [found]
  by_cases same : other = versionId
  · subst same
    rw [if_pos rfl]
    exact AList.lookup_insert _
  · rw [if_neg same]
    exact AList.lookup_insert_ne same

/-- What the calls assign: a version keeps its template, and gains an approval if anything. -/
structure Assigns (loaded assigned : PromptVersionModel) : Prop where
  template : assigned.promptTemplateId = loaded.promptTemplateId
  approvedBy : assigned.approvedBy = loaded.approvedBy ∨ assigned.approvedBy.isSome = true

theorem flush_template {row : PromptVersionModel} (assigns : Assigns loaded assigned) :
    (loaded.flush assigned row).promptTemplateId = row.promptTemplateId := by
  show Lib.flush loaded.promptTemplateId assigned.promptTemplateId row.promptTemplateId = _
  rw [assigns.template, flush_same]

theorem flush_approvedBy {row : PromptVersionModel} (assigns : Assigns loaded assigned)
    (was : row.approvedBy.isSome = true) :
    (loaded.flush assigned row).approvedBy.isSome = true := by
  show (Lib.flush loaded.approvedBy assigned.approvedBy row.approvedBy).isSome = true
  rcases assigns.approvedBy with same | granted
  · rw [same, flush_same]
    exact was
  · obtain ⟨kept, -⟩ | written := flush_cases loaded.approvedBy assigned.approvedBy row.approvedBy
    · rw [kept]
      exact was
    · rw [written]
      exact granted

/-- An approval that a call has assigned is committed with it. -/
theorem flush_granted {row : PromptVersionModel}
    (known : loaded.approvedBy.isSome = true → row.approvedBy.isSome = true)
    (granted : assigned.approvedBy.isSome = true) :
    (loaded.flush assigned row).approvedBy.isSome = true := by
  show (Lib.flush loaded.approvedBy assigned.approvedBy row.approvedBy).isSome = true
  obtain ⟨kept, same⟩ | written := flush_cases loaded.approvedBy assigned.approvedBy row.approvedBy
  · rw [kept]
    rw [same] at granted
    exact known granted
  · rw [written]
    exact granted

theorem flush_grows (assigns : Assigns loaded assigned) :
    Grows db.versions (db.flushVersion versionId loaded assigned).versions := by
  cases there : db.versions.lookup versionId with
  | none =>
    unfold Database.flushVersion
    rw [there]
    exact .refl _
  | some committed =>
    intro other row found
    rw [flushVersion_lookup there]
    by_cases same : other = versionId
    · subst same
      rw [there] at found
      cases found
      rw [if_pos rfl]
      exact ⟨_, rfl, flush_template assigns, flush_approvedBy assigns⟩
    · rw [if_neg same]
      exact ⟨row, found, rfl, id⟩

/-- A version that has been approved when it is committed past its approval stays so. -/
theorem flush_approved (approved : Approved db.versions)
    (vouched : Vouched db.versions versionId loaded) (assigns : Assigns loaded assigned)
    (supported : ∀ row, db.versions.lookup versionId = some row →
      assigned.status.pastApproval = true →
        row.approvedBy.isSome = true ∨ assigned.approvedBy.isSome = true) :
    Approved (db.flushVersion versionId loaded assigned).versions ∧
      Vouched (db.flushVersion versionId loaded assigned).versions versionId assigned := by
  obtain ⟨committed, there, template, known⟩ := vouched
  have granted : committed.approvedBy.isSome = true ∨ assigned.approvedBy.isSome = true →
      (loaded.flush assigned committed).approvedBy.isSome = true := fun either =>
    either.elim (flush_approvedBy assigns) (flush_granted fun was => known (.inr was))
  constructor
  · intro other row found past
    rw [flushVersion_lookup there] at found
    split at found
    · cases found
      obtain ⟨kept, -⟩ | written := flush_cases loaded.status assigned.status committed.status
      · have past : (Lib.flush loaded.status assigned.status committed.status).pastApproval = true :=
          past
        rw [kept] at past
        exact granted (.inl (approved versionId committed there past))
      · have past : (Lib.flush loaded.status assigned.status committed.status).pastApproval = true :=
          past
        rw [written] at past
        exact granted (supported committed there past)
    · exact approved other row found past
  · refine ⟨loaded.flush assigned committed, ?_, ?_, fun either => ?_⟩
    · rw [flushVersion_lookup there, if_pos rfl]
    · rw [flush_template assigns, assigns.template]
      exact template
    · exact granted (either.elim (supported committed there) .inr)

/-- Where a committed version comes from. -/
theorem flush_origin (assigns : Assigns loaded assigned) {row' : PromptVersionModel}
    {other : PromptVersionId}
    (found' : (db.flushVersion versionId loaded assigned).versions.lookup other = some row') :
    ∃ row, db.versions.lookup other = some row ∧ row'.promptTemplateId = row.promptTemplateId ∧
      (row'.status = row.status ∨ other = versionId ∧ row'.status = assigned.status) := by
  cases there : db.versions.lookup versionId with
  | none =>
    unfold Database.flushVersion at found'
    rw [there] at found'
    exact ⟨row', found', rfl, .inl rfl⟩
  | some committed =>
    rw [flushVersion_lookup there] at found'
    split at found'
    · rename_i same
      subst same
      cases found'
      refine ⟨committed, there, flush_template assigns, ?_⟩
      exact (flush_cases loaded.status assigned.status committed.status).imp And.left
        fun written => ⟨rfl, written⟩
    · exact ⟨row', found', rfl, .inl rfl⟩

end

/-! ### What a call assigns -/

section

variable {model assigned : PromptVersionModel} {now : Timestamp}
  {target expectedStatus : PromptVersionStatus} {actor : AuthenticatedActor}

theorem transition_ok (result : model.transition now target expectedStatus actor = .ok assigned) :
    Assigns model assigned ∧ assigned.status ∈ model.status.next ∧
      (assigned.status.pastApproval = true →
        model.status.pastApproval = true ∨ assigned.approvedBy.isSome = true) ∧
        assigned.status ≠ .active := by
  unfold PromptVersionModel.transition at result
  split at result
  · cases result
  · split at result
    · cases result
    · rename_i _ admitted
      have source : model.status ∈ allowed target := not_not.mp admitted
      cases target with
      | draft | active => cases source
      | testing =>
        obtain status := List.mem_singleton.mp source
        cases result
        refine ⟨⟨rfl, .inl rfl⟩, ?_, (fun past => nomatch past), nofun⟩
        rw [status]
        exact List.mem_singleton.mpr rfl
      | approved =>
        obtain status := List.mem_singleton.mp source
        simp only at result
        split at result
        · cases result
        · cases result
          refine ⟨⟨rfl, .inr rfl⟩, ?_, fun _ => .inr rfl, nofun⟩
          rw [status]
          exact List.mem_singleton.mpr rfl
      | retired =>
        obtain status := List.mem_singleton.mp source
        cases result
        refine ⟨⟨rfl, .inl rfl⟩, ?_, fun _ => .inl ?_, nofun⟩
        · rw [status]
          exact List.mem_singleton.mpr rfl
        · rw [status]
          rfl

theorem activatable_next (activatable : model.activatable expectedStatus = true) :
    .active ∈ model.status.next ∧ model.status.pastApproval = true := by
  obtain ⟨-, approved | retired⟩ := of_decide_eq_true activatable
  · rw [approved]
    exact ⟨List.mem_singleton.mpr rfl, rfl⟩
  · rw [retired]
    exact ⟨List.mem_singleton.mpr rfl, rfl⟩

theorem activated_assigns (model : PromptVersionModel) (now : Timestamp) :
    Assigns model (model.activated now) := ⟨rfl, .inl rfl⟩

theorem superseded_assigns (model : PromptVersionModel) (now : Timestamp) :
    Assigns model (model.superseded now) := ⟨rfl, .inl rfl⟩

end

/-! ### The lock and the commit -/

section

variable {session session' : PromptSession} {db db' : Database} {now : Timestamp}
  {pending : PendingCall}

/-- What a commit keeps; `loaded` is what the session holds after it. -/
structure Committed (db db' : Database) (loaded : Versions) : Prop where
  grows : Grows db.versions db'.versions
  approved : Approved db'.versions
  loaded : Loaded db'.versions loaded

/-- The update of a vouched version keeps what is to be kept. -/
theorem flush_committed {versionId : PromptVersionId} {model assigned : PromptVersionModel}
    {loaded : Versions} (approved : Approved db.versions) (sound : Loaded db.versions loaded)
    (vouched : Vouched db.versions versionId model) (assigns : Assigns model assigned)
    (supported : ∀ row, db.versions.lookup versionId = some row →
      assigned.status.pastApproval = true →
        row.approvedBy.isSome = true ∨ assigned.approvedBy.isSome = true) :
    Committed db (db.flushVersion versionId model assigned) (loaded.insert versionId assigned) := by
  obtain ⟨approved', vouched'⟩ := flush_approved approved vouched assigns supported
  have grows := @flush_grows db versionId model assigned assigns
  exact ⟨grows, approved', (sound.mono grows).insert vouched'⟩

/-- A version that was past its approval, or is approved with the update, has been approved. -/
theorem Vouched.supported {versionId : PromptVersionId} {model assigned : PromptVersionModel}
    (vouched : Vouched db.versions versionId model)
    (past : assigned.status.pastApproval = true →
      model.status.pastApproval = true ∨ assigned.approvedBy.isSome = true) :
    ∀ row, db.versions.lookup versionId = some row → assigned.status.pastApproval = true →
      row.approvedBy.isSome = true ∨ assigned.approvedBy.isSome = true := by
  obtain ⟨committed, there, -, known⟩ := vouched
  intro row found written
  rw [there] at found
  cases found
  exact (past written).imp (fun was => known (.inl was)) id

theorem mem_activeVersions {templateId : PromptTemplateId} {versionId : PromptVersionId}
    {row : PromptVersionModel} (found : db.versions.lookup versionId = some row)
    (template : row.promptTemplateId = templateId) (active : row.status = .active) :
    versionId ∈ db.activeVersions templateId :=
  Table.select_all found (decide_eq_true ⟨template, active⟩) (Nat.le_refl _)

theorem previous_active {templateId : PromptTemplateId} {versionId previousId : PromptVersionId}
    {model : PromptVersionModel}
    (previous : session.previous db templateId versionId = some (previousId, model)) :
    Table.get session.versions db.versions previousId = some model ∧ previousId ≠ versionId ∧
      ∃ row, db.versions.lookup previousId = some row ∧ row.status = .active := by
  unfold PromptSession.previous at previous
  split at previous
  · cases previous
  · rename_i activeId rest selected
    split at previous
    · cases previous
    · rename_i other
      obtain ⟨seen, got, same⟩ := Option.map_eq_some_iff.mp previous
      cases same
      have active : previousId ∈ db.activeVersions templateId := by
        rw [selected]
        exact List.mem_cons_self
      obtain ⟨row, found, holds⟩ := Table.mem_select active
      exact ⟨got, other, row, found, (of_decide_eq_true holds).2⟩

/-- The version that was active retires, whatever the session has seen of it. -/
theorem supersede_committed (approved : Approved db.versions)
    (sound : Loaded db.versions session.versions) (templateId : PromptTemplateId)
    (versionId : PromptVersionId) :
    Committed db (session.supersede db now templateId versionId).1
      (session.supersede db now templateId versionId).2 := by
  unfold PromptSession.supersede
  split
  · exact ⟨.refl _, approved, sound⟩
  · rename_i previousId model previous
    obtain ⟨got, -, row, found, active⟩ := previous_active previous
    refine flush_committed approved sound (sound.get approved got) (superseded_assigns ..) ?_
    intro row' found' _
    rw [found] at found'
    cases found'
    exact .inl (approved previousId row found (by rw [active]; rfl))

theorem supersede_origin {templateId : PromptTemplateId} {versionId other : PromptVersionId}
    {row' : PromptVersionModel}
    (found' : (session.supersede db now templateId versionId).1.versions.lookup other = some row') :
    ∃ row, db.versions.lookup other = some row ∧ row'.promptTemplateId = row.promptTemplateId ∧
      (row'.status = row.status ∨
        other ≠ versionId ∧ row.status = .active ∧ row'.status = .retired) := by
  unfold PromptSession.supersede at found'
  split at found'
  · exact ⟨row', found', rfl, .inl rfl⟩
  · rename_i previousId model previous
    obtain ⟨-, distinct, current, there, active⟩ := previous_active previous
    obtain ⟨row, found, template, same | ⟨rfl, written⟩⟩ :=
      flush_origin (superseded_assigns model now) found'
    · exact ⟨row, found, template, .inl same⟩
    · rw [found] at there
      cases there
      exact ⟨current, found, template, .inr ⟨distinct, active, written⟩⟩

/-- The kinds of commit. -/
inductive CommitKind (session : PromptSession) (db : Database) (now : Timestamp)
    (pending : PendingCall) : Database → PromptSession → Prop
  | transition {target expectedStatus assigned} (templates : Templates)
      (result : pending.model.transition now target expectedStatus pending.actor = .ok assigned) :
      CommitKind session db now pending
        (db.flushVersion pending.versionId pending.model assigned)
        { templates, versions := session.versions.insert pending.versionId assigned }
  | activate {expectedStatus db'} (templates : Templates)
      (activatable : pending.model.activatable expectedStatus = true)
      (versions : db'.versions =
        ((session.supersede db now pending.model.promptTemplateId pending.versionId).1.flushVersion
          pending.versionId pending.model (pending.model.activated now)).versions)
      (oneActive : db'.oneActive pending.model.promptTemplateId = true) :
      CommitKind session db now pending db'
        { templates
          versions := (session.supersede db now pending.model.promptTemplateId
            pending.versionId).2.insert pending.versionId (pending.model.activated now) }

theorem commit_kind (result : session.commit db now pending = .ok (db', session')) :
    CommitKind session db now pending db' session' := by
  unfold PromptSession.commit at result
  split at result
  · cases result
  · split at result
    · split at result
      · cases result
      · rename_i transitioned
        cases result
        exact .transition _ transitioned
    · unfold PromptSession.activate at result
      dsimp only at result
      split at result
      · cases result
      · split at result
        · cases result
        · rename_i activatable
          split at result
          · rename_i oneActive
            cases result
            exact .activate _ ((Bool.not_eq_false _).mp activatable) rfl oneActive
          · cases result

theorem commit_committed (approved : Approved db.versions) (sound : SessionSound db.versions session)
    (held : session.pending = some pending)
    (kind : CommitKind session db now pending db' session') :
    Committed db db' session'.versions := by
  have vouched := sound.pending pending held
  cases kind with
  | transition templates result =>
    obtain ⟨assigns, -, past, -⟩ := transition_ok result
    exact flush_committed approved sound.loaded vouched assigns (vouched.supported past)
  | activate templates activatable versions =>
    have first := @supersede_committed session db now approved sound.loaded
      pending.model.promptTemplateId pending.versionId
    have vouched' := vouched.mono first.grows
    have past := (activatable_next activatable).2
    have second := flush_committed first.approved first.loaded vouched'
      (activated_assigns pending.model now) (vouched'.supported fun _ => .inl past)
    refine ⟨?_, ?_, ?_⟩
    · rw [versions]
      exact first.grows.trans second.grows
    · rw [versions]
      exact second.approved
    · rw [versions]
      exact second.loaded

/-- Every status that a commit changes goes along an edge, when the call has read the committed one. -/
theorem commit_edges (kind : CommitKind session db now pending db' session')
    (fresh : ∀ row ∈ db.versions.lookup pending.versionId, row.status = pending.model.status)
    {versionId : PromptVersionId} {row' : PromptVersionModel}
    (found' : db'.versions.lookup versionId = some row') :
    ∃ row, db.versions.lookup versionId = some row ∧
      (row'.status = row.status ∨ row'.status ∈ row.status.next) := by
  cases kind with
  | transition templates result =>
    obtain ⟨assigns, edge, -⟩ := transition_ok result
    obtain ⟨row, found, -, same | ⟨rfl, written⟩⟩ := flush_origin assigns found'
    · exact ⟨row, found, .inl same⟩
    · rw [← fresh row found, ← written] at edge
      exact ⟨row, found, .inr edge⟩
  | activate templates activatable versions =>
    rw [versions] at found'
    obtain ⟨between, found₁, -, last⟩ := flush_origin (activated_assigns pending.model now) found'
    obtain ⟨row, found, -, first⟩ := supersede_origin found₁
    refine ⟨row, found, ?_⟩
    rcases last with same | ⟨rfl, written⟩
    · rw [same]
      rcases first with same | ⟨-, active, retired⟩
      · exact .inl same
      · rw [active, retired]
        exact .inr (List.mem_singleton.mpr rfl)
    · have edge := (activatable_next activatable).1
      rw [← fresh row found] at edge
      rw [written]
      exact .inr edge

/-- A commit leaves one active version of a template at most. -/
theorem commit_single (single : Single db.versions)
    (vouched : Vouched db.versions pending.versionId pending.model)
    (kind : CommitKind session db now pending db' session') : Single db'.versions := by
  intro versionId versionId' row₁ row₁' found₁ found₁' template active₁ active₁'
  cases kind with
  | @transition _ _ assigned templates result =>
    obtain ⟨assigns, -, -, inactive⟩ := transition_ok result
    have origin : ∀ {other row₁},
        (db.flushVersion pending.versionId pending.model assigned).versions.lookup other =
          some row₁ → row₁.status = .active → ∃ row, db.versions.lookup other = some row ∧
            row₁.promptTemplateId = row.promptTemplateId ∧ row.status = .active := by
      intro other row₁ found₁ active₁
      obtain ⟨row, found, kept, same | ⟨-, written⟩⟩ := flush_origin assigns found₁
      · exact ⟨row, found, kept, same ▸ active₁⟩
      · exact absurd (written.symm.trans active₁) inactive
    obtain ⟨row, found, kept, active⟩ := origin found₁ active₁
    obtain ⟨row', found', kept', active'⟩ := origin found₁' active₁'
    exact single versionId versionId' row row' found found'
      (kept.symm.trans (template.trans kept')) active active'
  | activate templates activatable versions oneActive =>
    by_cases same : row₁.promptTemplateId = pending.model.promptTemplateId
    · have short : (db'.activeVersions pending.model.promptTemplateId).length ≤ 1 :=
        of_decide_eq_true oneActive
      have listed := mem_activeVersions found₁ same active₁
      have listed' := mem_activeVersions found₁' (template.symm.trans same) active₁'
      generalize db'.activeVersions pending.model.promptTemplateId = active at short listed listed'
      match active, short with
      | [], _ => cases listed
      | [only], _ =>
        rw [List.mem_singleton.mp listed, List.mem_singleton.mp listed']
    · -- the activation is of another template
      have origin : ∀ {other row₁}, db'.versions.lookup other = some row₁ →
          row₁.promptTemplateId ≠ pending.model.promptTemplateId → row₁.status = .active →
            ∃ row, db.versions.lookup other = some row ∧
              row₁.promptTemplateId = row.promptTemplateId ∧ row.status = .active := by
        intro other row₁ found₁ apart active₁
        rw [versions] at found₁
        obtain ⟨between, between_found, kept, last⟩ :=
          flush_origin (activated_assigns pending.model now) found₁
        obtain ⟨row, found, kept', first⟩ := supersede_origin between_found
        refine ⟨row, found, kept.trans kept', ?_⟩
        rcases last with same | ⟨rfl, -⟩
        · rcases first with same' | ⟨-, -, retired⟩
          · rw [← same', ← same]
            exact active₁
          · rw [same, retired] at active₁
            cases active₁
        · obtain ⟨committed, there, template, -⟩ := vouched
          rw [found] at there
          cases there
          exact absurd (kept.trans (kept'.trans template)) apart
      obtain ⟨row, found, kept, active⟩ := origin found₁ same active₁
      obtain ⟨row', found', kept', active'⟩ := origin found₁' (template ▸ same) active₁'
      exact single versionId versionId' row row' found found'
        (kept.symm.trans (template.trans kept')) active active'

end

/-! ### Steps and runs -/

variable {w : PromptWorld} {event : PromptEvent}

theorem PromptSound.session (sound : PromptSound w) (id : SessionId) :
    SessionSound w.db.versions (w.session id) := by
  unfold PromptWorld.session
  cases held : w.sessions.lookup id with
  | none => exact .empty _
  | some session => exact sound.sessions id session held

/-- A session that goes on, on a database that has kept every version. -/
theorem PromptSound.setSession (sound : PromptSound w) {db : Database} {id : SessionId}
    {session : PromptSession} (grows : Grows w.db.versions db.versions)
    (approved : Approved db.versions) (single : Single db.versions)
    (session_sound : SessionSound db.versions session) :
    PromptSound (PromptWorld.setSession { w with db } id session) where
  approved := approved
  single := single
  sessions other session' held := by
    obtain ⟨rfl, rfl⟩ | ⟨-, before⟩ := Table.lookup_insert_cases held
    · exact session_sound
    · exact (sound.sessions other session' before).mono grows

theorem PromptSound.goes (sound : PromptSound w) {id : SessionId} {session : PromptSession}
    (session_sound : SessionSound w.db.versions session) :
    PromptSound (w.setSession id session) :=
  sound.setSession (.refl _) sound.approved sound.single session_sound

theorem versionFound_ok {found : Option PromptVersionModel} {model : PromptVersionModel}
    (h : versionFound found = .ok model) : found = some model := by
  cases found with
  | none => cases h
  | some row =>
    cases h
    rfl

/-- A call that has begun refers to the version that it has read. -/
theorem begin_found {call : PromptCall} {actor : AuthenticatedActor}
    {found : Option PromptVersionModel} {model : PromptVersionModel} {operation : PromptOperation}
    (begun : call.begin actor found = .ok (model, operation)) : found = some model := by
  cases call with
  | transition | activate =>
    obtain ⟨-, -, begun⟩ := bind_eq_ok.mp begun
    obtain ⟨row, read, begun⟩ := bind_eq_ok.mp begun
    cases begun
    exact versionFound_ok read
  | rollback templateId =>
    obtain ⟨row, read, begun⟩ := bind_eq_ok.mp begun
    by_cases other : row.promptTemplateId ≠ templateId
    · rw [if_pos other] at begun
      cases begun
    · rw [if_neg other] at begun
      obtain ⟨-, -, begun⟩ := bind_eq_ok.mp begun
      cases begun
      exact versionFound_ok read

theorem start_sound (sound : PromptSound w) (id : SessionId) (versionId : PromptVersionId)
    (call : PromptCall) (actor : AuthenticatedActor) :
    PromptSound (w.start id versionId call actor) := by
  unfold PromptWorld.start
  dsimp only
  split
  · exact sound
  · split
    · exact sound.goes (.empty _)
    · rename_i model operation begun
      have got := begin_found begun
      have vouched := (sound.session id).loaded.get sound.approved got
      refine sound.goes ⟨(sound.session id).loaded.insert vouched, fun pending held => ?_⟩
      cases held
      exact vouched

theorem createVersion_grows {versionId : PromptVersionId} (fresh : versionId ∉ w.db.versions)
    (model : PromptVersionModel) : Grows w.db.versions (w.db.versions.insert versionId model) := by
  intro other row found
  refine ⟨row, ?_, rfl, id⟩
  rw [AList.lookup_insert_ne, found]
  rintro rfl
  rw [AList.lookup_eq_none.mpr fresh] at found
  cases found

theorem createVersion_sound (sound : PromptSound w) (id : SessionId) (versionId : PromptVersionId)
    (templateId : PromptTemplateId) (actor : AuthenticatedActor) :
    PromptSound (w.createVersion id versionId templateId actor) := by
  unfold PromptWorld.createVersion
  split
  · exact sound.goes (.empty _)
  · split
    · rename_i admitted
      have grows := createVersion_grows admitted.2
        { promptTemplateId := templateId, version := w.db.nextVersion templateId }
      have kept := (sound.session id).mono grows
      refine sound.setSession grows ?_ ?_ ⟨kept.loaded.insert ?_, kept.pending⟩
      · intro other row found past
        obtain ⟨rfl, rfl⟩ | ⟨-, before⟩ := Table.lookup_insert_cases found
        · cases past
        · exact sound.approved other row before past
      · intro other other' row row' found found' template active active'
        obtain ⟨rfl, rfl⟩ | ⟨-, before⟩ := Table.lookup_insert_cases found
        · cases active
        · obtain ⟨rfl, rfl⟩ | ⟨-, before'⟩ := Table.lookup_insert_cases found'
          · cases active'
          · exact sound.single other other' row row' before before' template active active'
      · exact ⟨_, AList.lookup_insert _, rfl, fun either => either.elim nofun nofun⟩
    · exact sound.goes (.empty _)

theorem run_sound (sound : PromptSound w) (id : SessionId) (now : Timestamp) :
    PromptSound (w.run id now) := by
  unfold PromptWorld.run
  dsimp only
  split
  · exact sound
  · rename_i pending held
    split
    · exact sound.goes (.empty _)
    · rename_i db session result
      have kind := commit_kind result
      have committed := commit_committed sound.approved (sound.session id) held kind
      refine sound.setSession committed.grows committed.approved ?_ ⟨committed.loaded, ?_⟩
      · exact commit_single sound.single ((sound.session id).pending pending held) kind
      · intro pending' held'
        cases kind <;> cases held'

theorem step_sound (sound : PromptSound w) (event : PromptEvent) : PromptSound (w.step event) := by
  cases event with
  | createTemplate templateId =>
    simp only [PromptWorld.step]
    split
    · exact sound
    · exact ⟨sound.approved, sound.single, sound.sessions⟩
  | createVersion id versionId templateId actor => exact createVersion_sound sound ..
  | loadTemplate id templateId =>
    exact sound.goes ⟨(sound.session id).loaded, (sound.session id).pending⟩
  | loadVersion id versionId =>
    refine sound.goes ⟨?_, (sound.session id).pending⟩
    show Loaded _ (Table.load _ _ _)
    unfold Table.load
    split
    · exact (sound.session id).loaded
    · rename_i row got
      exact (sound.session id).loaded.insert ((sound.session id).loaded.get sound.approved got)
  | forgetTemplate id templateId =>
    exact sound.goes ⟨(sound.session id).loaded, (sound.session id).pending⟩
  | forgetVersion id versionId =>
    simp only [PromptWorld.step]
    split
    · exact sound
    · exact sound.goes ⟨(sound.session id).loaded.erase, (sound.session id).pending⟩
  | rollback id => exact sound.goes (.empty _)
  | start id versionId call actor => exact start_sound sound ..
  | run id now => exact run_sound sound ..

theorem sound_init : PromptSound promptMachine.init where
  approved _ _ found := by cases found
  single _ _ _ _ found := by cases found
  sessions _ _ held := by cases held

theorem PromptSound.oneApproved (sound : PromptSound w) : OneApproved w where
  one := sound.single
  approved versionId row found active := sound.approved versionId row found (by rw [active]; rfl)

/-- An event that writes no version follows the edges. -/
theorem edges_same {w' : PromptWorld} (same : w'.db.versions = w.db.versions) :
    FollowsEdges w event w' where
  changed versionId row row' found found' := by
    rw [same, found] at found'
    cases found'
    exact .inl rfl
  created versionId row' absent found' := by
    rw [same, absent] at found'
    cases found'

theorem step_edges (fresh : ReadsFresh w event) : FollowsEdges w event (w.step event) := by
  cases event with
  | loadTemplate | loadVersion | forgetTemplate | rollback => exact edges_same rfl
  | createTemplate | forgetVersion =>
    refine edges_same ?_
    simp only [PromptWorld.step]
    split <;> rfl
  | start id versionId call actor =>
    refine edges_same ?_
    simp only [PromptWorld.step, PromptWorld.start]
    split
    · rfl
    · split <;> rfl
  | createVersion id versionId templateId actor =>
    simp only [PromptWorld.step, PromptWorld.createVersion]
    split
    · exact edges_same rfl
    · split
      · rename_i admitted
        constructor
        · intro other row row' found found'
          obtain ⟨rfl, rfl⟩ | ⟨-, before⟩ := Table.lookup_insert_cases found'
          · rw [AList.lookup_eq_none.mpr admitted.2] at found
            cases found
          · rw [found] at before
            cases before
            exact .inl rfl
        · intro other row' absent found'
          obtain ⟨rfl, rfl⟩ | ⟨-, before⟩ := Table.lookup_insert_cases found'
          · rfl
          · rw [absent] at before
            cases before
      · exact edges_same rfl
  | run id now =>
    simp only [PromptWorld.step, PromptWorld.run]
    split
    · exact edges_same rfl
    · rename_i pending held
      split
      · exact edges_same rfl
      · rename_i db session result
        have edges := @commit_edges _ _ _ _ _ _ (commit_kind result) (fresh pending held)
        constructor
        · intro versionId row row' found found'
          obtain ⟨row₀, found₀, edge⟩ := edges found'
          rw [found] at found₀
          cases found₀
          exact edge
        · intro versionId row' absent found'
          obtain ⟨row₀, found₀, -⟩ := edges found'
          rw [absent] at found₀
          cases found₀

/-- A template never has two active versions, and no active version lacks an approval. -/
theorem always_one_approved (events : List PromptEvent) :
    promptMachine.Always OneApproved promptMachine.init events :=
  Machine.always_of_invariant (fun _ event sound => step_sound sound event)
    (fun _ sound => sound.oneApproved) sound_init

/-- In a run in which every call finds the status that it has read still committed when it holds the
lock, every status goes along the edges; one version of a template is active, and approved. -/
theorem prompt_lifecycle (events : List PromptEvent)
    (fresh : promptMachine.Meets ReadsFresh promptMachine.init events) :
    promptMachine.Steps FollowsEdges promptMachine.init events ∧
      promptMachine.Always OneApproved promptMachine.init events :=
  ⟨Machine.steps_hold (I := fun _ => True) (fun _ _ _ _ => trivial)
    (fun _ _ _ fresh => step_edges fresh) trivial fresh, always_one_approved events⟩

def manager : AuthenticatedActor := { actorId := "mia", role := .manager }

/-- A version is tested and approved, each in a session of its own. -/
def approvedRun : List PromptEvent :=
  [.createTemplate 0, .createVersion 0 7 0 manager,
    .start 1 7 (.transition .testing .draft) manager, .run 1 10,
    .start 2 7 (.transition .approved .testing) manager, .run 2 20]

/-- The version becomes active, another one takes its place, and the first comes back. -/
def rollbackRun : List PromptEvent :=
  approvedRun ++
    [.start 3 7 (.activate .approved 1) manager, .run 3 30, .createVersion 0 8 0 manager,
      .start 4 8 (.transition .testing .draft) manager, .run 4 40,
      .start 4 8 (.transition .approved .testing) manager, .run 4 50,
      .start 5 8 (.activate .approved 2) manager, .run 5 60,
      .start 6 7 (.rollback 0 3) manager, .run 6 70]

theorem rollback_run_lawful :
    promptMachine.Steps FollowsEdges promptMachine.init rollbackRun ∧
      promptMachine.Always OneApproved promptMachine.init rollbackRun :=
  prompt_lifecycle rollbackRun (by decide +kernel)

/-- Two sessions have read the draft in order to test it. The version becomes active before the
second takes the lock. -/
def staleRun : List PromptEvent :=
  [.createTemplate 0, .createVersion 0 7 0 manager,
    .start 1 7 (.transition .testing .draft) manager,
    .start 2 7 (.transition .testing .draft) manager, .run 1 10,
    .start 3 7 (.transition .approved .testing) manager, .run 3 20,
    .start 4 7 (.activate .approved 1) manager, .run 4 30]

/-- The second session takes the active version back to testing. -/
theorem stale_run_leaves_edges :
    ¬∀ events, promptMachine.Steps FollowsEdges promptMachine.init events ∧
      promptMachine.Always OneApproved promptMachine.init events := by
  intro lawful
  obtain ⟨steps, -⟩ := lawful (staleRun ++ [.run 2 40])
  have last := (Machine.Steps.append.mp steps).2.1
  have before : ((promptMachine.run promptMachine.init staleRun).db.versions.lookup 7).map
      (·.status) = some .active := by
    decide +kernel
  have after : ((promptMachine.step (promptMachine.run promptMachine.init staleRun)
      (.run 2 40)).db.versions.lookup 7).map (·.status) = some .testing := by
    decide +kernel
  generalize promptMachine.run promptMachine.init staleRun = w at last before after
  obtain ⟨row, found, active⟩ := Option.map_eq_some_iff.mp before
  obtain ⟨row', found', testing⟩ := Option.map_eq_some_iff.mp after
  have edge := last.changed 7 row row' found found'
  rw [active, testing] at edge
  exact absurd edge (by decide)

end CyberLegends.Prompts
