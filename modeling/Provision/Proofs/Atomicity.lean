import Provision.Proofs.Creation
import Provision.Provider

/-!
What has been sent when an operation fails by a check of its own. All that an operation sends is
checked before the first statement is sent, or passes its check together with that statement; the
one exception is the lookup of a repository that has just been created in no schema.
-/

namespace Provision

open Attempt

/-- The fault is found without asking the platform. -/
def FaultCause.isOwnCheck : FaultCause → Bool
  | statement _ _ (.refused _) => true
  | statement _ _ _ => false
  | _ => true

theorem FaultCause.refused_of_isOwnCheck {action : Action} {resourceType : String}
    {failure : Failure} (own : (statement action resourceType failure).isOwnCheck) :
    ∃ violations, failure = .refused violations := by
  cases failure with
  | refused violations => exact ⟨violations, rfl⟩
  | execution | notFound | conversion | timeout => simp [isOwnCheck] at own

inductive Call where
  | read (id : ResourceId) (identifier? : Option String)
  | create (resource : Resource)
  | update (id : ResourceId) (identifier : String) (current : Attributes) (wanted : Resource)
  | delete (id : ResourceId) (identifier : String)
  | readDataSource (resource : Resource)

def Call.attempt (provider : Provider) : Call → Attempt Fault (Option State)
  | read id identifier? => some <$> provider.read id identifier?
  | create resource => some <$> provider.create resource
  | update id identifier current wanted => some <$> provider.update id identifier current wanted
  | delete id identifier => (fun _ => none) <$> provider.delete id identifier
  | readDataSource resource => some <$> provider.readDataSource resource

variable {α β : Type} {connection : Connection} {before : List Statement}

namespace Attempt

/-- If the attempt fails by an own check, it has sent nothing. -/
def ChecksFirst (connection : Connection) (before : List Statement) (attempt : Attempt Fault α) :
    Prop :=
  ∀ fault, (play connection before attempt).1 = .error fault → fault.cause.isOwnCheck →
    (play connection before attempt).2 = before

theorem ChecksFirst.done (result : Except Fault α) :
    ChecksFirst connection before (ExceptT.mk (.done result)) :=
  fun _ _ _ => rfl

theorem ChecksFirst.map (convert : α → β) {attempt : Attempt Fault α}
    (first : ChecksFirst connection before attempt) :
    ChecksFirst connection before (convert <$> attempt) := by
  intro fault failed own
  rw [play_map] at failed ⊢
  cases played : (play connection before attempt).1 with
  | error fault' =>
      rw [played] at failed
      obtain rfl := Except.error.inj failed
      exact first fault' played own
  | ok value => simp [played, Functor.map, Except.map] at failed

theorem ChecksFirst.bind {attempt : Attempt Fault α} {next : α → Attempt Fault β}
    (first : ChecksFirst connection before attempt)
    (rest : ∀ value sent, play connection before attempt = (.ok value, sent) →
      ∀ fault, (play connection sent (next value)).1 = .error fault → fault.cause.isOwnCheck →
        (play connection sent (next value)).2 = before) :
    ChecksFirst connection before (attempt >>= next) := by
  intro fault failed own
  cases played : play connection before attempt with
  | mk result sent =>
      cases result with
      | error fault' =>
          rw [play_bind_error played] at failed ⊢
          obtain rfl := Except.error.inj failed
          have kept := first fault' (by rw [played]) own
          rwa [played] at kept
      | ok value =>
          rw [play_bind_ok played] at failed ⊢
          exact rest value sent played fault failed own

theorem ChecksFirst.after {checks : Attempt Fault α} {result : Except Fault α}
    (checking : play connection before checks = (result, before)) {next : α → Attempt Fault β}
    (first : ∀ value, result = .ok value → ChecksFirst connection before (next value)) :
    ChecksFirst connection before (checks >>= next) := by
  refine .bind (fun _ _ _ => by rw [checking]) fun value sent played fault failed own => ?_
  obtain ⟨rfl, rfl⟩ := Prod.mk.inj (checking.symm.trans played)
  exact first value rfl fault failed own

end Attempt

namespace Operation

theorem checksFirst_query (config : Config) (action : Action) (id : ResourceId)
    (statement : Statement) (ofRow : Row → Conversion α) :
    ChecksFirst connection before
      (performed action id (query config.statementTimeout? statement ofRow)) := by
  intro fault failed own
  rw [play_performed, play_query] at failed ⊢
  by_cases accepted : statement.form.violations = []
  · rw [play_rows_accepted connection config.statementTimeout? before accepted] at failed
    obtain ⟨failure, unanswered, rfl⟩ := mapError_eq_error_iff.mp failed
    obtain ⟨violations, rfl⟩ := FaultCause.refused_of_isOwnCheck own
    -- The statement was sent, so what is wrong is the answer or one of its rows.
    rcases bind_eq_error_iff.mp unanswered with refused | ⟨rows, -, unread⟩
    · exact absurd refused answer_ne_refused
    · simp only [converted] at unread
      split at unread
      next => simp at unread
      next => simp at unread
  · rw [play_rows_refused connection config.statementTimeout? before accepted]

theorem checksFirst_read (config : Config) (id : ResourceId) (identifier? : Option String) :
    ChecksFirst connection before (read config id identifier?) := by
  intro fault failed own
  cases identifier? with
  | none => rw [play_read_none]
  | some identifier =>
      cases supported : Lookup.ofType? id.resourceType with
      | none => rw [play_read_unsupported connection before supported]
      | some lookup =>
          cases asked : lookup.ask identifier with
          | error cause => rw [play_read connection before config identifier supported, asked]
          | ok question =>
              rcases read_asked connection before supported asked with ⟨-, refused⟩ | ⟨-, failing⟩
              · rw [refused]
              · obtain ⟨failure, unrefused, rfl⟩ := failing fault failed
                obtain ⟨violations, rfl⟩ := FaultCause.refused_of_isOwnCheck own
                exact absurd rfl (unrefused violations)

theorem checksFirst_performAll (config : Config) (action : Action) (id : ResourceId)
    {statements : List Statement} {condition : Prop}
    (together : ∀ statement ∈ statements, statement.form.violations = [] ↔ condition) :
    ChecksFirst connection before (performAll config action id statements) := by
  intro fault failed own
  obtain ⟨result, sent, performance, played⟩ :=
    play_performAll connection before config action id statements
  rw [played] at failed ⊢
  obtain ⟨failure, stopped, rfl⟩ := mapError_eq_error_iff.mp failed
  obtain ⟨violations, rfl⟩ := FaultCause.refused_of_isOwnCheck own
  exact performance.sent_of_refused together stopped

theorem checksFirst_perform (config : Config) (action : Action) (id : ResourceId)
    (statement : Statement) :
    ChecksFirst connection before (performAll config action id [statement]) := by
  have together : ∀ other ∈ [statement],
      other.form.violations = [] ↔ statement.form.violations = [] := by
    intro other member
    rw [List.mem_singleton.mp member]
  exact checksFirst_performAll config action id together

theorem checksFirst_delete (config : Config) (id : ResourceId) (identifier : String) :
    ChecksFirst connection before (delete config id identifier) := by
  rw [delete_eq]
  refine .after (play_checked connection before id _) fun statement _ => ?_
  exact checksFirst_perform config .delete id statement

theorem checksFirst_readDataSource (config : Config) (resource : Resource) :
    ChecksFirst connection before (readDataSource config resource) := by
  simp only [readDataSource, kindOf]
  cases ResourceKind.ofName? resource.id.resourceType with
  | none => exact .done _
  | some kind =>
      rw [pure_bind]
      refine .after (play_checked connection before resource.id _) fun _ _ => ?_
      cases kind with
      | computePools =>
          refine .after (play_checked connection before resource.id _) fun request _ => ?_
          rw [bind_pure_comp]
          exact .map _ (checksFirst_query config .list resource.id _ _)
      | imageRepositories =>
          refine .after (play_checked connection before resource.id _) fun request _ => ?_
          rw [bind_pure_comp]
          exact .map _ (checksFirst_query config .list resource.id _ _)
      | computePool => exact .done _
      | imageRepository => exact .done _

theorem not_isOwnCheck_of_play_read_pool {config : Config} {id : ResourceId} {identifier : String}
    {pool : AccountId} {fault : Fault}
    (known : ResourceKind.ofName? id.resourceType = some .computePool)
    (decoded : accountId identifier = .ok pool)
    (failed : (play connection before (read config id (some identifier))).1 = .error fault) :
    ¬fault.cause.isOwnCheck := by
  intro own
  have supported : Lookup.ofType? id.resourceType = some .pools := by rw [Lookup.ofType?, known]
  have asked := Lookup.ask_pools decoded
  rcases read_asked connection before supported asked with ⟨refused, -⟩ | ⟨-, failing⟩
  · exact refused (Statement.showPools_like_accepted pool.name)
  · obtain ⟨failure, unrefused, rfl⟩ := failing fault failed
    obtain ⟨violations, rfl⟩ := FaultCause.refused_of_isOwnCheck own
    exact unrefused violations rfl

theorem checksFirst_update (config : Config) (id : ResourceId) (identifier : String)
    (current : Attributes) (wanted : Resource) :
    ChecksFirst connection before (update config id identifier current wanted) := by
  rw [update_eq]
  refine .after (play_done connection before _) fun statements derived => ?_
  obtain ⟨kind, known, -, -, ⟨rfl, pool, decoded, changes, told, rfl⟩ | ⟨-, -, rfl⟩⟩ :=
    alterations_eq_ok_iff.mp derived
  -- Both statements on a pool pass their check or neither does, and its lookup always does.
  · refine .bind (checksFirst_performAll config .update id fun statement member =>
      PoolResource.statements_accepted_iff told pool member) ?_
    intro _ sent _ fault failed own
    exact absurd own (not_isOwnCheck_of_play_read_pool known decoded failed)
  · refine .after (play_pure connection before ()) fun _ _ => ?_
    exact checksFirst_read config id (some identifier)

theorem schema_eq_empty_of_play_read_repository {config : Config} {id : ResourceId}
    {repository : SchemaId} {fault : Fault}
    (known : ResourceKind.ofName? id.resourceType = some .imageRepository)
    (valid : repository.toIdentifier.isValid)
    (failed : (play connection before
      (read config id (some repository.toIdentifier.encode))).1 = .error fault)
    (own : fault.cause.isOwnCheck) : repository.schema = "" := by
  have supported : Lookup.ofType? id.resourceType = some .repositories := by
    rw [Lookup.ofType?, known]
  have decoded : schemaId repository.toIdentifier.encode = .ok repository :=
    schemaId_eq_ok_iff.mpr (Identifier.decode_encode_of_isValid valid)
  have asked := Lookup.ask_repositories decoded
  rcases read_asked connection before supported asked with ⟨refused, -⟩ | ⟨-, failing⟩
  · rw [ne_eq, Statement.showRepositories_inSchema_accepted_iff, container_isValid_iff valid,
      Decidable.not_not] at refused
    exact refused
  · obtain ⟨failure, unrefused, rfl⟩ := failing fault failed
    obtain ⟨violations, rfl⟩ := FaultCause.refused_of_isOwnCheck own
    exact absurd rfl (unrefused violations)

theorem checksFirst_create (config : Config) (resource : Resource)
    (contained : ∀ repository,
      ¬CreatesSchemaless config connection before resource repository) :
    ChecksFirst connection before (create config resource) := by
  rw [create_eq]
  refine .after (play_checked connection before resource.id _) fun creation made => ?_
  have made := mapError_eq_ok_iff.mp made
  refine .bind (checksFirst_perform config .create resource.id creation.1) ?_
  intro _ sent played fault failed own
  obtain ⟨accepted, rows, answered⟩ : creation.1.form.violations = [] ∧ ∃ rows,
      answer connection config.statementTimeout? before creation.1 = .ok rows := by
    obtain ⟨result, sent', performance, performed⟩ :=
      play_performAll connection before config .create resource.id [creation.1]
    cases result with
    | error failure => simp [performed, mapError_error] at played
    | ok _ => exact performance.answered_of_ok
  obtain ⟨kind, known, valid, ⟨rfl, request, -, requested, object⟩ |
    ⟨rfl, repository, located, requested, object⟩⟩ := creation_eq_ok_iff.mp made
  · rw [← requested, Statement.createPool_accepted_iff] at accepted
    have decoded := accountId_eq_ok_iff.mpr (Identifier.decode_encode_of_isValid accepted.1)
    exact absurd own (not_isOwnCheck_of_play_read_pool known decoded (object ▸ failed))
  · rw [← requested] at accepted answered
    have named := (Statement.createRepository_accepted_iff _).mp accepted
    exact absurd {
      typed := ResourceKind.name_of_ofName? known
      valid
      located
      named
      schemaless := schema_eq_empty_of_play_read_repository known named (object ▸ failed) own
      created := ⟨rows, answered⟩ } (contained repository)

end Operation

theorem Call.checksFirst (config : Config) (call : Call)
    (contained : ∀ resource repository, call = .create resource →
      ¬Operation.CreatesSchemaless config connection before resource repository) :
    ChecksFirst connection before (call.attempt (.ofConfig config)) := by
  cases call with
  | read id identifier? => exact (Operation.checksFirst_read config id identifier?).map some
  | create resource =>
      exact (Operation.checksFirst_create config resource fun repository =>
        contained resource repository rfl).map some
  | update id identifier current wanted =>
      exact (Operation.checksFirst_update config id identifier current wanted).map some
  | delete id identifier => exact (Operation.checksFirst_delete config id identifier).map _
  | readDataSource resource => exact (Operation.checksFirst_readDataSource config resource).map some

theorem Operation.CreatesSchemaless.play_call {config : Config} {resource : Resource}
    {repository : SchemaId}
    (creates : CreatesSchemaless config connection before resource repository) :
    play connection before ((Call.create resource).attempt (.ofConfig config)) =
      (.error (.about resource.id (.statement .read "image_repository"
        (.refused [.invalidIdentifier "Schema"]))),
        before ++ [.createRepository { name := repository }]) := by
  have mapped := play_map connection before some (Operation.create config resource)
  rw [creates.play_create] at mapped
  exact mapped

/-- A call fails by an own check after it has sent a statement exactly when it creates a repository
in no schema, which is accepted, and the platform has created it. -/
theorem own_check_after_sending_iff (config : Config) (connection : Connection)
    (before : List Statement) (call : Call) :
    (∃ fault,
      (play connection before (call.attempt (.ofConfig config))).1 = .error fault ∧
        fault.cause.isOwnCheck ∧
        (play connection before (call.attempt (.ofConfig config))).2 ≠ before) ↔
      ∃ resource repository, call = .create resource ∧
        Operation.CreatesSchemaless config connection before resource repository := by
  constructor
  · rintro ⟨fault, failed, own, sent⟩
    apply Classical.byContradiction
    intro contained
    refine sent (call.checksFirst config ?_ fault failed own)
    intro resource repository same creates
    exact contained ⟨resource, repository, same, creates⟩
  · rintro ⟨resource, repository, rfl, creates⟩
    rw [creates.play_call]
    exact ⟨_, rfl, rfl, by simp⟩

theorem not_forall_checksFirst :
    ¬∀ (config : Config) (connection : Connection) (before : List Statement) (call : Call),
      ChecksFirst connection before (call.attempt (.ofConfig config)) := by
  intro first
  have kept := first {} Operation.silent [] (.create Operation.schemaless)
  rw [ChecksFirst, Operation.createsSchemaless_schemaless.play_call] at kept
  simpa using kept _ rfl rfl

end Provision
