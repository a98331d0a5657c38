import Provision.Proofs.Lookup
import Provision.Proofs.PoolChanges

/-!
The course of an operation: its own checks first, which need no connection and give the statements
that change the platform; then those statements, one after the other; then a look at the platform.
-/

namespace Provision

open Attempt

inductive Effect where
  | create
  | alter
  | drop
deriving DecidableEq, Repr

namespace Statement

/-- What a statement does to the platform, and to which object; none if it only looks. -/
def effect? : Statement → Option (Effect × Identifier)
  | createPool request => some (.create, request.name.toIdentifier)
  | alterPool request => some (.alter, request.name.toIdentifier)
  | dropPool request => some (.drop, request.name.toIdentifier)
  | createRepository request => some (.create, request.name.toIdentifier)
  | dropRepository request => some (.drop, request.name.toIdentifier)
  | showPools _ | describePool _ | showRepositories _ => none

theorem target_of_effect {statement : Statement} {effect : Effect} {object : Identifier}
    (affects : statement.effect? = some (effect, object)) :
    statement.target = object.qualifiedName := by
  cases statement with
  | showPools | describePool | showRepositories => simp [effect?] at affects
  | createPool | alterPool | dropPool | createRepository | dropRepository =>
      simp only [effect?, Option.some.injEq, Prod.mk.injEq] at affects
      rw [← affects.2]
      rfl

end Statement

namespace Lookup

theorem effect?_of_ask {resourceType : String} {lookup : Lookup} {identifier : String}
    {object : Identifier} {request : Statement}
    (supported : ofType? resourceType = some lookup)
    (asked : lookup.ask identifier = .ok (object, request)) : request.effect? = none := by
  rcases ofType?_eq_some_iff.mp supported with ⟨-, rfl⟩ | ⟨-, rfl⟩
  · obtain ⟨pool, -, asked⟩ := bind_eq_ok_iff.mp asked
    obtain ⟨-, rfl⟩ := Prod.mk.inj (Except.ok.inj asked)
    rfl
  · obtain ⟨repository, -, asked⟩ := bind_eq_ok_iff.mp asked
    obtain ⟨-, rfl⟩ := Prod.mk.inj (Except.ok.inj asked)
    rfl

end Lookup

theorem PoolResource.Changes.effect?_of_mem {changes : PoolResource.Changes} {pool : AccountId}
    {statement : Statement} (member : statement ∈ changes.statements pool) :
    statement.effect? = some (.alter, pool.toIdentifier) := by
  simp only [PoolResource.Changes.statements, List.mem_append, List.mem_map] at member
  rcases member with ⟨reset, -, rfl⟩ | ⟨assignment, -, rfl⟩
  · rfl
  · rfl

namespace Operation

/-- The statement that creates a resource, and the object that it creates. -/
def creation (config : Config) (resource : Resource) : Except FaultCause (Statement × Identifier) :=
  match ResourceKind.ofName? resource.id.resourceType with
  | none => .error (.unsupportedType resource.id.resourceType)
  | some kind => do
      let attributes := kind.schema.withDefaults resource.attributes
      valid kind.schema attributes
      match kind with
      | .computePool => do
          let request ← PoolResource.createRequest attributes
          return (.createPool request, request.name.toIdentifier)
      | .imageRepository => do
          let repository ← RepositoryResource.repositoryId config attributes
          return (.createRepository { name := repository }, repository.toIdentifier)
      | _ => throw (.unsupportedType resource.id.resourceType)

/-- The statements that take a resource from its current attributes to the wanted ones. -/
def alterations (id : ResourceId) (identifier : String) (current : Attributes)
    (wanted : Resource) : Except Fault (List Statement) :=
  match ResourceKind.ofName? id.resourceType with
  | none => .error (.about id (.unsupportedType id.resourceType))
  | some kind => do
      (valid kind.schema wanted.attributes).mapError (.about id)
      match replacement? kind.schema current wanted.attributes with
      | some name => throw (.about wanted.id (.needsReplacement name))
      | none =>
          Except.mapError (.about id) (match kind with
            | .computePool => do
                let pool ← accountId identifier
                let changes ← PoolResource.changes kind.schema current wanted.attributes
                return changes.statements pool
            | .imageRepository => do
                let _ ← schemaId identifier
                return []
            | _ => throw (.unsupportedType id.resourceType))

def removal (config : Config) (id : ResourceId) (identifier : String) :
    Except FaultCause Statement :=
  let ifExists? := if config.dropIfExists then some true else none
  match ResourceKind.ofName? id.resourceType with
  | some .computePool => do
      let pool ← accountId identifier
      return .dropPool { name := pool, ifExists? }
  | some .imageRepository => do
      let repository ← schemaId identifier
      return .dropRepository { name := repository, ifExists? }
  | _ => .error (.unsupportedType id.resourceType)

theorem create_eq (config : Config) (resource : Resource) :
    create config resource = (do
      let made ← checked resource.id (creation config resource)
      performAll config .create resource.id [made.1]
      read config resource.id (some made.2.encode)) := by
  dsimp only [create, creation, kindOf]
  cases ResourceKind.ofName? resource.id.resourceType with
  | none => rfl
  | some kind =>
      dsimp only
      rw [pure_bind]
      cases valid kind.schema (kind.schema.withDefaults resource.attributes) with
      | error cause => rfl
      | ok passed =>
          cases kind with
          | computePool =>
              dsimp only
              cases PoolResource.createRequest _ with
              | error cause => rfl
              | ok request => simp only [performAll, bind_assoc, pure_bind]; rfl
          | imageRepository =>
              dsimp only
              cases RepositoryResource.repositoryId config _ with
              | error cause => rfl
              | ok repository => simp only [performAll, bind_assoc, pure_bind]; rfl
          | computePools => rfl
          | imageRepositories => rfl

theorem creation_eq_ok_iff {config : Config} {resource : Resource} {statement : Statement}
    {object : Identifier} :
    creation config resource = .ok (statement, object) ↔
      ∃ kind, ResourceKind.ofName? resource.id.resourceType = some kind ∧
        let attributes := kind.schema.withDefaults resource.attributes
        valid kind.schema attributes = .ok () ∧
          ((kind = .computePool ∧ ∃ request, PoolResource.createRequest attributes = .ok request ∧
            .createPool request = statement ∧ request.name.toIdentifier = object) ∨
          (kind = .imageRepository ∧ ∃ repository,
            RepositoryResource.repositoryId config attributes = .ok repository ∧
            .createRepository { name := repository } = statement ∧
            repository.toIdentifier = object)) := by
  simp only [creation]
  cases ResourceKind.ofName? resource.id.resourceType with
  | none => simp
  | some kind =>
      dsimp only
      cases passed : valid kind.schema (kind.schema.withDefaults resource.attributes) with
      | error cause => simp [passed, bind, Except.bind]
      | ok _ =>
          cases kind with
          | computePool =>
              simp [passed, bind_eq_ok_iff, pure, Except.pure]
          | imageRepository =>
              simp [passed, bind_eq_ok_iff, pure, Except.pure]
          | computePools => simp [bind_eq_ok_iff, throw, throwThe, MonadExceptOf.throw]
          | imageRepositories => simp [bind_eq_ok_iff, throw, throwThe, MonadExceptOf.throw]

theorem delete_eq (config : Config) (id : ResourceId) (identifier : String) :
    delete config id identifier = (do
      let statement ← checked id (removal config id identifier)
      performAll config .delete id [statement]) := by
  dsimp only [delete, removal]
  cases ResourceKind.ofName? id.resourceType with
  | none => rfl
  | some kind =>
      cases kind with
      | computePool =>
          dsimp only
          cases accountId identifier with
          | error cause => rfl
          | ok pool => exact (bind_pure _).symm
      | imageRepository =>
          dsimp only
          cases schemaId identifier with
          | error cause => rfl
          | ok repository => exact (bind_pure _).symm
      | computePools => rfl
      | imageRepositories => rfl

theorem alter_eq (config : Config) (id : ResourceId) (pool : AccountId)
    (changes : PoolResource.Changes) :
    alter config id pool changes = performAll config .update id (changes.statements pool) := by
  obtain ⟨reset?, assignment?⟩ := changes
  cases reset? with
  | none =>
      cases assignment? with
      | none => rfl
      | some assignment => exact (bind_pure _).symm
  | some reset =>
      cases assignment? with
      | none => rfl
      | some assignment => exact bind_congr fun _ => (bind_pure _).symm

theorem update_eq (config : Config) (id : ResourceId) (identifier : String)
    (current : Attributes) (wanted : Resource) :
    update config id identifier current wanted = (do
      let statements ← ExceptT.mk (.done (alterations id identifier current wanted))
      performAll config .update id statements
      read config id (some identifier)) := by
  dsimp only [update, alterations, kindOf]
  cases ResourceKind.ofName? id.resourceType with
  | none => rfl
  | some kind =>
      dsimp only
      rw [pure_bind]
      cases valid kind.schema wanted.attributes with
      | error cause => rfl
      | ok passed =>
          cases replacement? kind.schema current wanted.attributes with
          | some name => rfl
          | none =>
              cases kind with
              | computePool =>
                  dsimp only
                  cases accountId identifier with
                  | error cause => rfl
                  | ok pool =>
                      cases PoolResource.changes ResourceKind.computePool.schema current
                          wanted.attributes with
                      | error cause => rfl
                      | ok changes =>
                          show (do
                            alter config id pool changes
                            read config id (some identifier)) = _
                          rw [alter_eq]
                          rfl
              | imageRepository =>
                  dsimp only
                  cases schemaId identifier with
                  | error cause => rfl
                  | ok repository => rfl
              | computePools => rfl
              | imageRepositories => rfl

theorem alterations_eq_ok_iff {id : ResourceId} {identifier : String} {current : Attributes}
    {wanted : Resource} {statements : List Statement} :
    alterations id identifier current wanted = .ok statements ↔
      ∃ kind, ResourceKind.ofName? id.resourceType = some kind ∧
        valid kind.schema wanted.attributes = .ok () ∧
        replacement? kind.schema current wanted.attributes = none ∧
          ((kind = .computePool ∧ ∃ pool, accountId identifier = .ok pool ∧
            ∃ changes, PoolResource.changes kind.schema current wanted.attributes = .ok changes ∧
              changes.statements pool = statements) ∨
          (kind = .imageRepository ∧ (∃ repository, schemaId identifier = .ok repository) ∧
            statements = [])) := by
  simp only [alterations]
  cases ResourceKind.ofName? id.resourceType with
  | none => simp
  | some kind =>
      dsimp only
      cases passed : valid kind.schema wanted.attributes with
      | error cause => simp [passed, mapError_error, bind, Except.bind]
      | ok _ =>
          cases replaced : replacement? kind.schema current wanted.attributes with
          | some name =>
              simp [replaced, mapError_eq_ok_iff, bind_eq_ok_iff, throw, throwThe,
                MonadExceptOf.throw]
          | none =>
              cases kind with
              | computePool =>
                  simp [passed, replaced, bind_eq_ok_iff, mapError_eq_ok_iff, pure, Except.pure]
              | imageRepository =>
                  simp [passed, replaced, bind_eq_ok_iff, mapError_eq_ok_iff, pure, Except.pure]
              | computePools =>
                  simp [bind_eq_ok_iff, mapError_eq_ok_iff, throw, throwThe, MonadExceptOf.throw]
              | imageRepositories =>
                  simp [bind_eq_ok_iff, mapError_eq_ok_iff, throw, throwThe, MonadExceptOf.throw]

section

variable {connection : Connection} {before : List Statement} {config : Config}
  {resource wanted : Resource} {id : ResourceId} {identifier : String} {current : Attributes}

theorem play_create_refused {cause : FaultCause}
    (refused : creation config resource = .error cause) :
    play connection before (create config resource) =
      (.error (.about resource.id cause), before) := by
  rw [create_eq]
  exact play_bind_error (play_checked_error refused) _

theorem play_create_made {statement : Statement} {object : Identifier}
    (made : creation config resource = .ok (statement, object)) :
    play connection before (create config resource) = play connection before (do
      performAll config .create resource.id [statement]
      read config resource.id (some object.encode)) := by
  rw [create_eq]
  exact play_bind_ok (play_checked_ok made) _

theorem play_delete_made {statement : Statement}
    (made : removal config id identifier = .ok statement) :
    play connection before (delete config id identifier) =
      play connection before (performAll config .delete id [statement]) := by
  rw [delete_eq]
  exact play_bind_ok (play_checked_ok made) _

theorem play_update_refused {fault : Fault}
    (refused : alterations id identifier current wanted = .error fault) :
    play connection before (update config id identifier current wanted) =
      (.error fault, before) := by
  rw [update_eq, refused]
  exact play_bind_error (play_done connection before _) _

theorem play_update_made {statements : List Statement}
    (made : alterations id identifier current wanted = .ok statements) :
    play connection before (update config id identifier current wanted) =
      play connection before (do
        performAll config .update id statements
        read config id (some identifier)) := by
  rw [update_eq, made]
  exact play_bind_ok (play_done connection before _) _

end

variable (connection : Connection) (before : List Statement)

theorem read_sent (config : Config) (id : ResourceId) (identifier? : Option String) :
    ∃ asked, (play connection before (read config id identifier?)).2 = before ++ asked ∧
      ∀ statement ∈ asked, statement.effect? = none := by
  cases identifier? with
  | none => exact ⟨[], by simp [play_read_none]⟩
  | some identifier =>
      cases supported : Lookup.ofType? id.resourceType with
      | none => exact ⟨[], by simp [play_read_unsupported connection before supported]⟩
      | some lookup =>
          rw [play_read connection before config identifier supported]
          cases asked : lookup.ask identifier with
          | error cause => exact ⟨[], by simp⟩
          | ok question =>
              obtain ⟨object, request⟩ := question
              dsimp only
              by_cases accepted : request.form.violations = []
              · refine ⟨[request], ?_, ?_⟩
                · rw [play_rows_accepted connection config.statementTimeout? before accepted]
                · simpa using Lookup.effect?_of_ask supported asked
              · refine ⟨[], ?_, by simp⟩
                rw [play_rows_refused connection config.statementTimeout? before accepted]
                simp

/-- A read whose question stands is refused before it is sent, or it is sent and nothing is refused
any more. -/
theorem read_asked {config : Config} {id : ResourceId} {lookup : Lookup} {identifier : String}
    {object : Identifier} {request : Statement}
    (supported : Lookup.ofType? id.resourceType = some lookup)
    (asked : lookup.ask identifier = .ok (object, request)) :
    (request.form.violations ≠ [] ∧ play connection before (read config id (some identifier)) =
      (.error (.about id (.statement .read id.resourceType (.refused request.form.violations))),
        before)) ∨
    (request.form.violations = [] ∧
      ∀ fault, (play connection before (read config id (some identifier))).1 = .error fault →
        ∃ failure, (∀ violations, failure ≠ .refused violations) ∧
          fault = .about id (.statement .read id.resourceType failure)) := by
  rw [play_read connection before config identifier supported, asked]
  dsimp only
  by_cases accepted : request.form.violations = []
  · refine .inr ⟨accepted, ?_⟩
    rw [play_rows_accepted connection config.statementTimeout? before accepted]
    intro fault failed
    cases answered : answer connection config.statementTimeout? before request with
    | error failure =>
        rw [answered] at failed
        obtain rfl := Except.error.inj failed
        exact ⟨failure, fun violations same => answer_ne_refused (same ▸ answered), rfl⟩
    | ok rows =>
        rw [answered] at failed
        dsimp only [Lookup.state] at failed
        cases read : rows.mapM lookup.ofRow with
        | error error =>
            rw [read] at failed
            obtain rfl := Except.error.inj failed
            exact ⟨_, by simp, rfl⟩
        | ok shown =>
            rw [read] at failed
            dsimp only at failed
            split at failed
            next => simp at failed
            next => simp at failed
  · refine .inl ⟨accepted, ?_⟩
    rw [play_rows_refused connection config.statementTimeout? before accepted]

theorem performAll_read_sent (config : Config) (action : Action) (id : ResourceId)
    (statements : List Statement) (identifier? : Option String) :
    ∃ done rest asked, statements = done ++ rest ∧
      (play connection before (do
        performAll config action id statements
        read config id identifier?)).2 = before ++ (done ++ asked) ∧
      (∀ statement ∈ done, statement.form.violations = []) ∧
      ∀ statement ∈ asked, statement.effect? = none := by
  obtain ⟨result, sent, performance, played⟩ :=
    play_performAll connection before config action id statements
  obtain ⟨done, rest, split, rfl, accepted, -⟩ := performance.sent_eq
  cases result with
  | error failure =>
      refine ⟨done, rest, [], split, ?_, accepted, by simp⟩
      rw [play_bind_error played, List.append_nil]
  | ok _ =>
      obtain ⟨asked, looked, looks⟩ := read_sent connection (before ++ done) config id identifier?
      refine ⟨done, rest, asked, split, ?_, accepted, looks⟩
      rw [play_bind_ok played, looked, List.append_assoc]

end Operation

end Provision
