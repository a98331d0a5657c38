import Provision.Proofs.Course
import Provision.Proofs.Listing

/-!
Attempts that follow a sequence of statements: they perform the statements in order, and fail once
one of them is refused or fails. An attempt may also fail before it sends anything.
-/

namespace Provision

open Attempt

/-! What is asked to find an object. -/

def AccountId.question (pool : AccountId) : Statement := .showPools { like? := some pool.name }

def SchemaId.question (repository : SchemaId) : Statement :=
  .showRepositories {
    like? := some repository.name, scope? := some (.ofSchema repository.container) }

namespace Attempt

variable {α β : Type} {connection : Connection} {deadline? : Option Nat} {before : List Statement}

theorem performance_rows (statement : Statement) :
    Performance connection deadline? before [statement]
      ((fun _ => ()) <$> (play connection before (rows deadline? statement)).1)
      (play connection before (rows deadline? statement)).2 := by
  by_cases accepted : statement.form.violations = []
  · rw [play_rows_accepted connection deadline? before accepted]
    cases answered : answer connection deadline? before statement with
    | error failure => exact .failed accepted answered
    | ok rows => exact .answered accepted answered .finished
  · rw [play_rows_refused connection deadline? before accepted]
    exact .refused accepted

/-- The attempt performs the statements in order, and succeeds only if it has performed all. -/
def Follows (connection : Connection) (deadline? : Option Nat) (before whole : List Statement)
    (attempt : Attempt Fault α) : Prop :=
  ∃ result,
    Performance connection deadline? before whole result (play connection before attempt).2 ∧
    ∀ value, (play connection before attempt).1 = .ok value → result = .ok ()

theorem Follows.map (convert : α → β) {whole : List Statement} {attempt : Attempt Fault α}
    (follows : Follows connection deadline? before whole attempt) :
    Follows connection deadline? before whole (convert <$> attempt) := by
  obtain ⟨result, performance, succeeds⟩ := follows
  refine ⟨result, by rwa [play_map], fun value succeeded => ?_⟩
  rw [play_map] at succeeded
  cases played : (play connection before attempt).1 with
  | error fault => simp [played, Functor.map, Except.map] at succeeded
  | ok value => exact succeeds value played

theorem Follows.error_of_unsent {whole : List Statement} {attempt : Attempt Fault α}
    (follows : Follows connection deadline? before whole attempt) (some : whole ≠ [])
    (unsent : (play connection before attempt).2 = before) :
    ∃ fault, (play connection before attempt).1 = .error fault := by
  obtain ⟨result, performance, succeeds⟩ := follows
  cases played : (play connection before attempt).1 with
  | error fault => exact ⟨fault, rfl⟩
  | ok value =>
      obtain ⟨done, rest, rfl, sent, -, complete⟩ := performance.sent_eq
      obtain rfl : done = [] := by simpa [unsent] using sent
      exact absurd (complete (succeeds value played)) some

def Unsent (connection : Connection) (before : List Statement) (attempt : Attempt Fault α) : Prop :=
  ∃ fault, play connection before attempt = (.error fault, before)

theorem Unsent.map (convert : α → β) {attempt : Attempt Fault α}
    (unsent : Unsent connection before attempt) :
    Unsent connection before (convert <$> attempt) := by
  obtain ⟨fault, played⟩ := unsent
  refine ⟨fault, ?_⟩
  rw [play_map, played]
  rfl

theorem Unsent.bind {attempt : Attempt Fault α} (unsent : Unsent connection before attempt)
    (next : α → Attempt Fault β) : Unsent connection before (attempt >>= next) := by
  obtain ⟨fault, played⟩ := unsent
  exact ⟨fault, play_bind_error played next⟩

theorem Unsent.after {checks : Attempt Fault α} {value : α}
    (checked : play connection before checks = (.ok value, before)) {next : α → Attempt Fault β}
    (unsent : Unsent connection before (next value)) :
    Unsent connection before (checks >>= next) := by
  rw [Unsent, play_bind_ok checked]
  exact unsent

end Attempt

namespace Operation

variable {connection : Connection} {before : List Statement} {config : Config}

theorem follows_read {id : ResourceId} {lookup : Lookup} {identifier : String}
    {object : Identifier} {question : Statement}
    (supported : Lookup.ofType? id.resourceType = some lookup)
    (asked : lookup.ask identifier = .ok (object, question)) :
    Follows connection config.statementTimeout? before [question]
      (read config id (some identifier)) := by
  rw [Follows, play_read connection before config identifier supported, asked]
  refine ⟨_, performance_rows question, fun state succeeded => ?_⟩
  cases played : (play connection before (rows config.statementTimeout? question)).1 with
  | error failure => simp [played] at succeeded
  | ok rows => rfl

theorem follows_perform (action : Action) (id : ResourceId) (statement : Statement) :
    Follows connection config.statementTimeout? before [statement]
      (performAll config action id [statement]) := by
  obtain ⟨result, sent, performance, played⟩ :=
    play_performAll connection before config action id [statement]
  rw [Follows, played]
  exact ⟨result, performance, fun _ succeeded => mapError_eq_ok_iff.mp succeeded⟩

theorem follows_performAll_read {action : Action} {id : ResourceId} {statements : List Statement}
    {question : Statement} {identifier? : Option String}
    (looks : ∀ sent,
      Performance connection config.statementTimeout? before statements (.ok ()) sent →
        Follows connection config.statementTimeout? sent [question] (read config id identifier?)) :
    Follows connection config.statementTimeout? before (statements ++ [question]) (do
      performAll config action id statements
      read config id identifier?) := by
  obtain ⟨result, sent, performance, played⟩ :=
    play_performAll connection before config action id statements
  cases result with
  | error failure =>
      rw [Follows, play_bind_error played]
      exact ⟨_, performance.append_error (by simp) _, by simp⟩
  -- Only now is the platform looked at, so what the statements did is known.
  | ok _ =>
      obtain ⟨result, look, succeeds⟩ := looks sent performance
      rw [Follows, play_bind_ok played]
      exact ⟨result, performance.append rfl look, succeeds⟩

section

variable {id : ResourceId} {identifier : String}

theorem follows_read_pool {pool : AccountId}
    (known : ResourceKind.ofName? id.resourceType = some .computePool)
    (decoded : accountId identifier = .ok pool) :
    Follows connection config.statementTimeout? before [pool.question]
      (read config id (some identifier)) := by
  have supported : Lookup.ofType? id.resourceType = some .pools := by rw [Lookup.ofType?, known]
  exact follows_read supported (Lookup.ask_pools decoded)

theorem follows_read_repository {repository : SchemaId}
    (known : ResourceKind.ofName? id.resourceType = some .imageRepository)
    (decoded : schemaId identifier = .ok repository) :
    Follows connection config.statementTimeout? before [repository.question]
      (read config id (some identifier)) := by
  have supported : Lookup.ofType? id.resourceType = some .repositories := by
    rw [Lookup.ofType?, known]
  exact follows_read supported (Lookup.ask_repositories decoded)

theorem follows_create {resource : Resource} {statement question : Statement}
    {object : Identifier} (made : creation config resource = .ok (statement, object))
    (looks : ∀ sent, statement.form.violations = [] →
      Follows connection config.statementTimeout? sent [question]
        (read config resource.id (some object.encode))) :
    Follows connection config.statementTimeout? before [statement, question]
      (create config resource) := by
  rw [Follows, play_create_made made]
  exact follows_performAll_read fun sent performance => looks sent performance.answered_of_ok.1

theorem follows_update {current : Attributes} {wanted : Resource} {statements : List Statement}
    {question : Statement} (derived : alterations id identifier current wanted = .ok statements)
    (looks : ∀ sent, Follows connection config.statementTimeout? sent [question]
      (read config id (some identifier))) :
    Follows connection config.statementTimeout? before (statements ++ [question])
      (update config id identifier current wanted) := by
  rw [Follows, play_update_made derived]
  exact follows_performAll_read fun sent _ => looks sent

theorem follows_delete {statement : Statement}
    (removes : removal config id identifier = .ok statement) :
    Follows connection config.statementTimeout? before [statement]
      (delete config id identifier) := by
  rw [Follows, play_delete_made removes]
  exact follows_perform .delete id statement

end

theorem follows_list {resource : Resource} {listing : Listing} {statement : Statement}
    (supported : Listing.ofType? resource.id.resourceType = some listing)
    (passed : valid listing.kind.schema resource.attributes = .ok ())
    (asked : listing.ask config resource.attributes = .ok statement) :
    Follows connection config.statementTimeout? before [statement]
      (readDataSource config resource) := by
  rw [Follows, play_readDataSource connection before config supported, passed, asked]
  refine ⟨_, performance_rows statement, fun state succeeded => ?_⟩
  cases played : (play connection before (rows config.statementTimeout? statement)).1 with
  | error failure => simp [played] at succeeded
  | ok rows => rfl

theorem follows_list_pools {resource : Resource} {request : ComputePool.Show}
    (known : ResourceKind.ofName? resource.id.resourceType = some .computePools)
    (passed : valid ResourceKind.computePools.schema resource.attributes = .ok ())
    (requested : PoolResource.showRequest resource.attributes = .ok request) :
    Follows connection config.statementTimeout? before [.showPools request]
      (readDataSource config resource) := by
  have supported : Listing.ofType? resource.id.resourceType = some .pools := by
    rw [Listing.ofType?, known]
  exact follows_list supported passed (map_eq_ok_iff.mpr ⟨request, requested, rfl⟩)

theorem follows_list_repositories {resource : Resource} {request : ImageRepository.Show}
    (known : ResourceKind.ofName? resource.id.resourceType = some .imageRepositories)
    (passed : valid ResourceKind.imageRepositories.schema resource.attributes = .ok ())
    (requested : RepositoryResource.showRequest config resource.attributes = .ok request) :
    Follows connection config.statementTimeout? before [.showRepositories request]
      (readDataSource config resource) := by
  have supported : Listing.ofType? resource.id.resourceType = some .repositories := by
    rw [Listing.ofType?, known]
  exact follows_list supported passed (map_eq_ok_iff.mpr ⟨request, requested, rfl⟩)

end Operation

end Provision
