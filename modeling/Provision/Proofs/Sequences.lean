import Provision.Proofs.Atomicity
import Provision.Proofs.Following
import Provision.Proofs.UniqueReading

/-!
The statements that an operation sends, in order. Each call has a sequence of statements that it
follows until one is refused or fails; what follows is not sent, and the call fails.
-/

namespace Provision

open Attempt Operation

namespace Statement

theorem sql_ne_of_verb {left right : Statement}
    (apart : left.verb.toList.head? ≠ right.verb.toList.head?) : left.sql ≠ right.sql := by
  intro same
  rw [← head?_sql, ← head?_sql, same] at apart
  exact apart rfl

/-- The platform can tell the two statements apart, if both are sent. -/
def Discernible (left right : Statement) : Prop :=
  left.form.violations = [] → right.form.violations = [] → left.sql ≠ right.sql

theorem reset_discernible (name : AccountId) (reset : ComputePool.Reset)
    (assignment : ComputePool.Assignment) :
    Discernible (alterPool { name, unset? := some reset })
      (alterPool { name, set? := some assignment }) := by
  intro accepted accepted' same
  have read := spelled_sql_of_accepted accepted (by simp)
  have read' := spelled_sql_of_accepted accepted' (by simp)
  have content := alterPool_inj.mp ((read.inj read').mp same)
  simp [Statement.content] at content

end Statement

namespace Call

/-- The statements that a call sends if nothing stops it. A call has none if its own arguments are
at fault. -/
inductive Sequence (config : Config) : Call → List Statement → Prop
  | unread {id} : Sequence config (.read id none) []
  | readPool {id identifier pool} :
      ResourceKind.ofName? id.resourceType = some .computePool →
      accountId identifier = .ok pool →
      Sequence config (.read id (some identifier)) [pool.question]
  | readRepository {id identifier repository} :
      ResourceKind.ofName? id.resourceType = some .imageRepository →
      schemaId identifier = .ok repository →
      Sequence config (.read id (some identifier)) [repository.question]
  | createPool {resource request} :
      creation config resource = .ok (.createPool request, request.name.toIdentifier) →
      Sequence config (.create resource) [.createPool request, request.name.question]
  | createRepository {resource request} :
      creation config resource = .ok (.createRepository request, request.name.toIdentifier) →
      Sequence config (.create resource) [.createRepository request, request.name.question]
  | updatePool {id identifier current wanted pool changes} :
      ResourceKind.ofName? id.resourceType = some .computePool →
      valid ResourceKind.computePool.schema wanted.attributes = .ok () →
      replacement? ResourceKind.computePool.schema current wanted.attributes = none →
      accountId identifier = .ok pool →
      PoolResource.changes ResourceKind.computePool.schema current wanted.attributes = .ok changes →
      Sequence config (.update id identifier current wanted)
        (changes.statements pool ++ [pool.question])
  | updateRepository {id identifier current wanted repository} :
      ResourceKind.ofName? id.resourceType = some .imageRepository →
      valid ResourceKind.imageRepository.schema wanted.attributes = .ok () →
      replacement? ResourceKind.imageRepository.schema current wanted.attributes = none →
      schemaId identifier = .ok repository →
      Sequence config (.update id identifier current wanted) [repository.question]
  | deletePool {id identifier pool} :
      ResourceKind.ofName? id.resourceType = some .computePool →
      accountId identifier = .ok pool →
      Sequence config (.delete id identifier)
        [.dropPool {
          name := pool, ifExists? := if config.dropIfExists then some true else none }]
  | deleteRepository {id identifier repository} :
      ResourceKind.ofName? id.resourceType = some .imageRepository →
      schemaId identifier = .ok repository →
      Sequence config (.delete id identifier)
        [.dropRepository {
          name := repository, ifExists? := if config.dropIfExists then some true else none }]
  | listPools {resource request} :
      ResourceKind.ofName? resource.id.resourceType = some .computePools →
      valid ResourceKind.computePools.schema resource.attributes = .ok () →
      PoolResource.showRequest resource.attributes = .ok request →
      Sequence config (.readDataSource resource) [.showPools request]
  | listRepositories {resource request} :
      ResourceKind.ofName? resource.id.resourceType = some .imageRepositories →
      valid ResourceKind.imageRepositories.schema resource.attributes = .ok () →
      RepositoryResource.showRequest config resource.attributes = .ok request →
      Sequence config (.readDataSource resource) [.showRepositories request]

end Call

namespace Call

variable {config : Config} {connection : Connection} {before : List Statement} {call : Call}
  {whole : List Statement}

theorem Sequence.follows (sequence : Sequence config call whole) :
    Follows connection config.statementTimeout? before whole
      (call.attempt (.ofConfig config)) := by
  cases sequence with
  | unread => exact ⟨.ok (), .finished, fun _ _ => rfl⟩
  | readPool known decoded => exact (follows_read_pool known decoded).map some
  | readRepository known decoded => exact (follows_read_repository known decoded).map some
  -- What was created had a valid name, so its stored form leads the look back to it.
  | @createPool resource request made =>
      refine (follows_create made fun sent accepted => ?_).map some
      obtain ⟨kind, known, -, ⟨rfl, -⟩ | ⟨-, _, -, impossible, -⟩⟩ := creation_eq_ok_iff.mp made
      · have named := ((Statement.createPool_accepted_iff request).mp accepted).1
        exact follows_read_pool known
          (accountId_eq_ok_iff.mpr (Identifier.decode_encode_of_isValid named))
      · cases impossible
  | @createRepository resource request made =>
      refine (follows_create made fun sent accepted => ?_).map some
      obtain ⟨kind, known, -, ⟨-, _, -, impossible, -⟩ | ⟨rfl, -⟩⟩ := creation_eq_ok_iff.mp made
      · cases impossible
      · have named := (Statement.createRepository_accepted_iff request).mp accepted
        exact follows_read_repository known
          (schemaId_eq_ok_iff.mpr (Identifier.decode_encode_of_isValid named))
  | updatePool known passed kept decoded derived =>
      have altered := alterations_eq_ok_iff.mpr ⟨.computePool, known, passed, kept,
        .inl ⟨rfl, _, decoded, _, derived, rfl⟩⟩
      exact (follows_update altered fun sent => follows_read_pool known decoded).map some
  | updateRepository known passed kept decoded =>
      have altered := alterations_eq_ok_iff.mpr ⟨.imageRepository, known, passed, kept,
        .inr ⟨rfl, ⟨_, decoded⟩, rfl⟩⟩
      exact (follows_update altered fun sent => follows_read_repository known decoded).map some
  | deletePool known decoded =>
      refine (follows_delete ?_).map _
      rw [removal, known, decoded]
      rfl
  | deleteRepository known decoded =>
      refine (follows_delete ?_).map _
      rw [removal, known, decoded]
      rfl
  | listPools known passed requested => exact (follows_list_pools known passed requested).map some
  | listRepositories known passed requested =>
      exact (follows_list_repositories known passed requested).map some

/-! A call without a sequence fails before it sends anything. -/

theorem read_sequence (config : Config) (id : ResourceId) (identifier? : Option String) :
    (∃ whole, Sequence config (.read id identifier?) whole) ∨
      Unsent connection before (Operation.read config id identifier?) := by
  cases identifier? with
  | none => exact .inl ⟨[], .unread⟩
  | some identifier =>
      rw [Operation.read]
      cases known : ResourceKind.ofName? id.resourceType with
      | none => exact .inr ⟨_, rfl⟩
      | some kind =>
          cases kind with
          | computePool =>
              cases decoded : accountId identifier with
              | error cause => exact .inr (Unsent.bind ⟨_, play_checked_error rfl⟩ _)
              | ok pool => exact .inl ⟨_, .readPool known decoded⟩
          | imageRepository =>
              cases decoded : schemaId identifier with
              | error cause => exact .inr (Unsent.bind ⟨_, play_checked_error rfl⟩ _)
              | ok repository => exact .inl ⟨_, .readRepository known decoded⟩
          | computePools | imageRepositories => exact .inr ⟨_, rfl⟩

theorem create_sequence (config : Config) (resource : Resource) :
    (∃ whole, Sequence config (.create resource) whole) ∨
      Unsent connection before (Operation.create config resource) := by
  cases made : creation config resource with
  | error cause => exact .inr ⟨_, play_create_refused made⟩
  | ok creation =>
      obtain ⟨statement, object⟩ := creation
      obtain ⟨kind, -, -, ⟨-, request, -, rfl, rfl⟩ | ⟨-, repository, -, rfl, rfl⟩⟩ :=
        creation_eq_ok_iff.mp made
      · exact .inl ⟨_, .createPool made⟩
      · exact .inl ⟨_, .createRepository made⟩

theorem update_sequence (config : Config) (id : ResourceId) (identifier : String)
    (current : Attributes) (wanted : Resource) :
    (∃ whole, Sequence config (.update id identifier current wanted) whole) ∨
      Unsent connection before (Operation.update config id identifier current wanted) := by
  cases altered : alterations id identifier current wanted with
  | error fault => exact .inr ⟨fault, play_update_refused altered⟩
  | ok statements =>
      obtain ⟨kind, known, passed, kept, ⟨rfl, pool, decoded, changes, derived, -⟩ |
        ⟨rfl, ⟨repository, decoded⟩, -⟩⟩ := alterations_eq_ok_iff.mp altered
      · exact .inl ⟨_, .updatePool known passed kept decoded derived⟩
      · exact .inl ⟨_, .updateRepository known passed kept decoded⟩

theorem delete_sequence (config : Config) (id : ResourceId) (identifier : String) :
    (∃ whole, Sequence config (.delete id identifier) whole) ∨
      Unsent connection before (Operation.delete config id identifier) := by
  rw [Operation.delete]
  cases known : ResourceKind.ofName? id.resourceType with
  | none => exact .inr ⟨_, rfl⟩
  | some kind =>
      cases kind with
      | computePool =>
          cases decoded : accountId identifier with
          | error cause => exact .inr (Unsent.bind ⟨_, play_checked_error rfl⟩ _)
          | ok pool => exact .inl ⟨_, .deletePool known decoded⟩
      | imageRepository =>
          cases decoded : schemaId identifier with
          | error cause => exact .inr (Unsent.bind ⟨_, play_checked_error rfl⟩ _)
          | ok repository => exact .inl ⟨_, .deleteRepository known decoded⟩
      | computePools | imageRepositories => exact .inr ⟨_, rfl⟩

theorem readDataSource_sequence (config : Config) (resource : Resource) :
    (∃ whole, Sequence config (.readDataSource resource) whole) ∨
      Unsent connection before (Operation.readDataSource config resource) := by
  simp only [Operation.readDataSource, kindOf]
  cases known : ResourceKind.ofName? resource.id.resourceType with
  | none => exact .inr ⟨_, rfl⟩
  | some kind =>
      rw [pure_bind]
      cases passed : valid kind.schema resource.attributes with
      | error cause => exact .inr (Unsent.bind ⟨_, play_checked_error rfl⟩ _)
      | ok _ =>
          cases kind with
          | computePools =>
              cases requested : PoolResource.showRequest resource.attributes with
              | error cause =>
                  exact .inr (.after (play_checked_ok rfl)
                    (Unsent.bind ⟨_, play_checked_error rfl⟩ _))
              | ok request => exact .inl ⟨_, .listPools known passed requested⟩
          | imageRepositories =>
              cases requested : RepositoryResource.showRequest config resource.attributes with
              | error cause =>
                  exact .inr (.after (play_checked_ok rfl)
                    (Unsent.bind ⟨_, play_checked_error rfl⟩ _))
              | ok request => exact .inl ⟨_, .listRepositories known passed requested⟩
          | computePool | imageRepository => exact .inr (.after (play_checked_ok rfl) ⟨_, rfl⟩)

theorem sequence_or_unsent (config : Config) (connection : Connection) (before : List Statement)
    (call : Call) :
    (∃ whole, Sequence config call whole) ∨
      Unsent connection before (call.attempt (.ofConfig config)) := by
  cases call with
  | read id identifier? => exact (read_sequence config id identifier?).imp_right (.map some)
  | create resource => exact (create_sequence config resource).imp_right (.map some)
  | update id identifier current wanted =>
      exact (update_sequence config id identifier current wanted).imp_right (.map some)
  | delete id identifier => exact (delete_sequence config id identifier).imp_right (.map _)
  | readDataSource resource => exact (readDataSource_sequence config resource).imp_right (.map some)

/-! What the sequences have in common. -/

theorem Sequence.eq_nil_iff (sequence : Sequence config call whole) :
    whole = [] ↔ ∃ id, call = .read id none := by
  cases sequence with
  | unread => simp
  | readPool | readRepository | createPool | createRepository | updatePool | updateRepository
  | deletePool | deleteRepository | listPools | listRepositories => simp

def onlyLooks : Call → Bool
  | read _ _ | readDataSource _ => true
  | create _ | update _ _ _ _ | delete _ _ => false

theorem Sequence.shows (sequence : Sequence config call whole) (looks : call.onlyLooks) :
    ∀ statement ∈ whole, statement.verb = "SHOW" := by
  cases sequence with
  | unread => simp
  | readPool | readRepository | listPools | listRepositories =>
      simp [Statement.verb, AccountId.question, SchemaId.question]
  | createPool | createRepository | updatePool | updateRepository | deletePool
  | deleteRepository => simp [onlyLooks] at looks

theorem changes_discernible (changes : PoolResource.Changes) (pool : AccountId) :
    (changes.statements pool).Pairwise Statement.Discernible := by
  obtain ⟨reset?, assignment?⟩ := changes
  cases reset? with
  | none =>
      cases assignment? with
      | none => exact .nil
      | some assignment => exact List.pairwise_singleton _ _
  | some reset =>
      cases assignment? with
      | none => exact List.pairwise_singleton _ _
      | some assignment =>
          exact List.pairwise_pair.mpr (Statement.reset_discernible pool reset assignment)

theorem verb_of_changes {changes : PoolResource.Changes} {pool : AccountId} {statement : Statement}
    (member : statement ∈ changes.statements pool) : statement.verb = "ALTER" := by
  simp only [PoolResource.Changes.statements, List.mem_append, List.mem_map] at member
  rcases member with ⟨reset, -, rfl⟩ | ⟨assignment, -, rfl⟩
  · rfl
  · rfl

theorem Sequence.discernible (sequence : Sequence config call whole) :
    whole.Pairwise Statement.Discernible := by
  cases sequence with
  | unread => exact .nil
  | readPool | readRepository | updateRepository | deletePool | deleteRepository | listPools
  | listRepositories => exact List.pairwise_singleton _ _
  | createPool | createRepository =>
      refine List.pairwise_pair.mpr fun _ _ => Statement.sql_ne_of_verb ?_
      exact show "CREATE".toList.head? ≠ "SHOW".toList.head? by decide
  | updatePool =>
      refine List.pairwise_append.mpr ⟨changes_discernible _ _, List.pairwise_singleton _ _, ?_⟩
      intro change member other asked _ _
      obtain rfl := List.mem_singleton.mp asked
      refine Statement.sql_ne_of_verb ?_
      rw [verb_of_changes member]
      exact show "ALTER".toList.head? ≠ "SHOW".toList.head? by decide

theorem Sequence.nodup {done : List Statement} (sequence : Sequence config call whole)
    (begun : done <+: whole) (accepted : ∀ statement ∈ done, statement.form.violations = []) :
    (done.map Statement.sql).Nodup := by
  have apart := List.Pairwise.sublist begun.sublist sequence.discernible
  refine List.pairwise_map.mpr (List.Pairwise.imp_of_mem ?_ apart)
  intro left right member member' distinct
  exact distinct (accepted left member) (accepted right member')

theorem Sequence.sent_of_answered {sent : List Statement} (sequence : Sequence config call whole)
    (ran : (play connection before (call.attempt (.ofConfig config))).2 = before ++ sent)
    (accepted : ∀ statement ∈ whole, statement.form.violations = [])
    (answered : AllAnswered connection config.statementTimeout? before whole) : sent = whole := by
  obtain ⟨result, performance, -⟩ := sequence.follows
  have all := performance.sent_of_allAnswered accepted answered
  exact List.append_cancel_left (ran.symm.trans all)

theorem play_unread (config : Config) (id : ResourceId) :
    play connection before ((Call.read id none).attempt (.ofConfig config)) =
      (.ok (some (.absent id)), before) := rfl

end Call

/-- What a call sends is the beginning of its sequence, without a repetition, and all but the last
statement was answered. A call succeeds only if all of its sequence was sent and answered, which is
nothing only for a read without an identifier; and where nothing is refused and all is answered,
all is sent. -/
theorem sent_along_sequence (config : Config) (connection : Connection) (before : List Statement)
    (call : Call) :
    let outcome := play connection before (call.attempt (.ofConfig config))
    ∃ sent, outcome.2 = before ++ sent ∧
      (sent = [] ∨ ∃ whole, call.Sequence config whole ∧ sent <+: whole) ∧
      AllAnswered connection config.statementTimeout? before sent.dropLast ∧
      (sent.map Statement.sql).Nodup ∧
      (∀ result, outcome.1 = .ok result → call.Sequence config sent ∧
        AllAnswered connection config.statementTimeout? before sent) ∧
      ((∃ result, outcome.1 = .ok result) ∧ sent = [] ↔ ∃ id, call = .read id none) ∧
      (call.onlyLooks → ∀ statement ∈ sent, statement.verb = "SHOW") ∧
      ∀ whole, call.Sequence config whole →
        (∀ statement ∈ whole, statement.form.violations = []) →
        AllAnswered connection config.statementTimeout? before whole → sent = whole := by
  intro outcome
  rcases Call.sequence_or_unsent config connection before call with
    ⟨whole, sequence⟩ | ⟨fault, played⟩
  · obtain ⟨result, performance, succeeds⟩ := sequence.follows
    obtain ⟨sent, rest, split, ran, accepted, finished⟩ := performance.sent_eq
    obtain ⟨earlier, all⟩ := performance.allAnswered ran
    have begun : sent <+: whole := ⟨rest, split.symm⟩
    have finishes {value} (succeeded : outcome.1 = .ok value) : sent = whole := by
      rw [split, finished (succeeds value succeeded), List.append_nil]
    refine ⟨sent, ran, .inr ⟨whole, sequence, begun⟩, earlier, sequence.nodup begun accepted,
      fun value succeeded => ⟨finishes succeeded ▸ sequence, all (succeeds value succeeded)⟩,
      ⟨?_, ?_⟩, fun looks statement member => sequence.shows looks statement (begun.subset member),
      fun _ other => other.sent_of_answered ran⟩
    · rintro ⟨⟨value, succeeded⟩, rfl⟩
      exact sequence.eq_nil_iff.mp (finishes succeeded).symm
    · rintro ⟨id, rfl⟩
      have unread : before = before ++ sent := ran
      exact ⟨⟨_, rfl⟩, by simpa using unread⟩
  · refine ⟨[], by simp [outcome, played], .inl rfl, trivial, .nil, ?_, ⟨?_, ?_⟩, by simp,
      fun _ other => other.sent_of_answered (by simp [played])⟩
    · simp [outcome, played]
    · simp [outcome, played]
    · rintro ⟨id, rfl⟩
      simp [Call.play_unread] at played

end Provision
