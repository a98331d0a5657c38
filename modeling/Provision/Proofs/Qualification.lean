import Provision.Proofs.Sentences
import Provision.Proofs.Sequences

/-!
Which statements on repositories name their object in full. A repository is named by its database,
its schema and its own name, a schema that is listed by its database and its name; but a segment
that is empty is left out of the text, which then means the database or the schema of the session.
-/

namespace Provision

open Attempt Operation

namespace Identifier

theorem given_eq_segments_iff {id : Identifier} : id.given = id.segments ↔ "" ∉ id.segments := by
  rw [given, List.filter_eq_self]
  constructor
  · intro kept empty
    simpa using kept "" empty
  · intro full segment member
    simpa using ne_of_mem_of_not_mem member full

theorem exists_written_iff {id : Identifier} (named : id.given ≠ []) :
    (∃ segments : List String, segments.length = id.segments.length ∧
      id.qualifiedName = written segments) ↔ "" ∉ id.segments := by
  constructor
  · rintro ⟨segments, length, same⟩
    have some : segments ≠ [] := by
      rintro rfl
      cases id <;> simp [Identifier.segments] at length
    rw [qualifiedName_eq, ← String.toList_inj] at same
    obtain ⟨rfl, -⟩ := (written_append_inj named some Text.setOff_nil Text.setOff_nil).mp
      (by simpa using same)
    exact given_eq_segments_iff.mp (List.filter_sublist.eq_of_length length)
  · intro full
    exact ⟨id.segments, rfl, by rw [qualifiedName_eq, given_eq_segments_iff.mpr full]⟩

end Identifier

namespace ImageRepository

open Statement

def Create.opening (create : Create) : String :=
  Text.joined " " (["CREATE"] ++ keywordClause "OR REPLACE" (.ofFlag? create.orReplace?) ++
    ["IMAGE REPOSITORY"] ++ keywordClause "IF NOT EXISTS" (.ofFlag? create.ifNotExists?))

def Drop.opening (drop : Drop) : String :=
  Text.joined " " (["DROP", "IMAGE REPOSITORY"] ++
    keywordClause "IF EXISTS" (.ofFlag? drop.ifExists?))

end ImageRepository

namespace Statement

/-- The repository that a statement is about, or the schema that it lists, after the words that
stand before its name. -/
def naming? : Statement → Option (String × Identifier)
  | createRepository request => some (request.opening, request.name.toIdentifier)
  | dropRepository request => some (request.opening, request.name.toIdentifier)
  | showRepositories request =>
      (request.scope?.bind Scope.schema?).map fun schema =>
        (request.opening ++ " SCHEMA", schema.toIdentifier)
  | createPool _ | alterPool _ | dropPool _ | showPools _ | describePool _ => none

/-- The text names the object by as many quoted segments as the object has. -/
def NamesInFull (statement : Statement) : Prop :=
  ∀ opening id, statement.naming? = some (opening, id) →
    ∃ segments : List String, segments.length = id.segments.length ∧
      statement.sql = opening ++ " " ++ Identifier.written segments

def place? : Statement → Option DatabaseId
  | createRepository request => some request.name.container
  | dropRepository request => some request.name.container
  | showRepositories request => request.scope?.bind Scope.schema?
  | createPool _ | alterPool _ | dropPool _ | showPools _ | describePool _ => none

theorem createRepository_sql {request : ImageRepository.Create}
    (named : request.name.toIdentifier.given ≠ []) :
    (createRepository request).sql =
      request.opening ++ " " ++ request.name.toIdentifier.qualifiedName := by
  rw [ImageRepository.Create.opening, ← Text.joined_concat (by simp)]
  simp [sql, form, ImageRepository.Create.form, Form.sql, Form.clauses, clausesOf, Field.clauses,
    Field.fixed, Field.keyword, Field.target, targetClause, nonempty, qualifiedName_ne_empty named]

theorem dropRepository_sql {request : ImageRepository.Drop}
    (named : request.name.toIdentifier.given ≠ []) :
    (dropRepository request).sql =
      request.opening ++ " " ++ request.name.toIdentifier.qualifiedName := by
  rw [ImageRepository.Drop.opening, ← Text.joined_concat (by simp)]
  simp [sql, form, ImageRepository.Drop.form, Form.sql, Form.clauses, clausesOf, Field.clauses,
    Field.fixed, Field.keyword, Field.target, targetClause, nonempty, qualifiedName_ne_empty named]

theorem showRepositories_inSchema_sql (like? : Option String) (schema : DatabaseId) :
    let request : ImageRepository.Show := { like?, scope? := some (.ofSchema schema) }
    (showRepositories request).sql =
      request.opening ++ " SCHEMA" ++ " " ++ schema.toIdentifier.qualifiedName := by
  intro request
  have place : (Scope.ofSchema schema).form.clauses =
      ["SCHEMA" ++ " " ++ schema.toIdentifier.qualifiedName] := rfl
  -- The verb and its object are two clauses of the form, but one text of the opening.
  rw [← String.toList_inj]
  cases like? with
  | none =>
      have clauses : request.form.clauses =
          ["SHOW", "IMAGE REPOSITORIES", "IN"] ++ (Scope.ofSchema schema).form.clauses := rfl
      simp [sql, form, Form.sql, clauses, place, ImageRepository.Show.opening,
        ImageRepository.Show.likeClause, Text.joined, request]
  | some pattern =>
      have clauses : request.form.clauses =
          ["SHOW", "IMAGE REPOSITORIES", "LIKE", Text.quoted '\'' pattern, "IN"] ++
            (Scope.ofSchema schema).form.clauses := rfl
      simp [sql, form, Form.sql, clauses, place, ImageRepository.Show.opening,
        ImageRepository.Show.likeClause, Text.joined, request]

theorem namesInFull_iff_of_naming? {statement : Statement} {opening : String} {id : Identifier}
    (naming : statement.naming? = some (opening, id)) (named : id.given ≠ [])
    (written : statement.sql = opening ++ " " ++ id.qualifiedName) :
    statement.NamesInFull ↔ "" ∉ id.segments := by
  rw [← Identifier.exists_written_iff named]
  simp [NamesInFull, naming, written]

theorem namesInFull_of_naming?_eq_none {statement : Statement}
    (naming : statement.naming? = none) : statement.NamesInFull := by
  simp [NamesInFull, naming]

theorem namesInFull_iff {statement : Statement} (accepted : statement.form.violations = []) :
    statement.NamesInFull ↔
      ∀ place, statement.place? = some place → place.database ≠ "" ∧ place.name ≠ "" := by
  cases statement with
  | createPool | alterPool | dropPool | showPools | describePool =>
      exact iff_of_true (namesInFull_of_naming?_eq_none rfl) (by simp [place?])
  | createRepository request =>
      have valid := (createRepository_accepted_iff request).mp accepted
      have named := Identifier.given_ne_nil valid
      have own : request.name.name ≠ "" := Identifier.name_ne_empty valid
      rw [namesInFull_iff_of_naming? rfl named (createRepository_sql named)]
      simp [place?, SchemaId.toIdentifier, Identifier.segments, SchemaId.container, own.symm]
  | dropRepository request =>
      have valid := (dropRepository_accepted_iff request).mp accepted
      have named := Identifier.given_ne_nil valid
      have own : request.name.name ≠ "" := Identifier.name_ne_empty valid
      rw [namesInFull_iff_of_naming? rfl named (dropRepository_sql named)]
      simp [place?, SchemaId.toIdentifier, Identifier.segments, SchemaId.container, own.symm]
  | showRepositories request =>
      obtain ⟨like?, scope?⟩ := request
      cases scope? with
      | none => exact iff_of_true (namesInFull_of_naming?_eq_none rfl) (by simp [place?])
      | some scope =>
          have within : (Field.block "In" "IN" (some scope.form)).Passes _ :=
            passes_of_accepted accepted (by simp [Statement.form, ImageRepository.Show.form])
          rcases ImageRepository.scope_cases ((Field.passes_block_iff ..).mp within _ rfl) with
            ⟨on, rfl⟩ | ⟨id, -, rfl⟩ | ⟨schema, named, rfl⟩
          · exact iff_of_true (namesInFull_of_naming?_eq_none rfl) (by simp [place?])
          · exact iff_of_true (namesInFull_of_naming?_eq_none rfl)
              (by simp [place?, Scope.ofDatabase])
          · rw [namesInFull_iff_of_naming? rfl named (showRepositories_inSchema_sql like? schema)]
            simp [place?, Scope.ofSchema, DatabaseId.toIdentifier, Identifier.segments]

end Statement

namespace Call

def resourceType : Call → String
  | read id _ | update id _ _ _ | delete id _ => id.resourceType
  | create resource | readDataSource resource => resource.id.resourceType

/-- The schema that holds the repository which a call is about, or that a call lists. -/
def scope? (config : Config) : Call → Option DatabaseId
  | create resource =>
      (RepositoryResource.repositoryId config resource.attributes).toOption.map SchemaId.container
  | read _ (some identifier) | update _ identifier _ _ | delete _ identifier =>
      (schemaId identifier).toOption.map SchemaId.container
  | readDataSource resource =>
      ((RepositoryResource.showRequest config resource.attributes).toOption.bind
        ImageRepository.Show.scope?).bind Statement.Scope.schema?
  | read _ none => none

variable {config : Config} {connection : Connection} {before sent whole : List Statement}
  {call : Call}

theorem withDefaults_repository (attributes : Attributes) :
    ResourceKind.imageRepository.schema.withDefaults attributes = attributes := rfl

theorem Sequence.place?_eq (sequence : Sequence config call whole)
    (about : call.resourceType = "image_repository" ∨ call.resourceType = "image_repositories") :
    ∀ statement ∈ whole, statement.place? = call.scope? config := by
  have kinds : ResourceKind.ofName? call.resourceType = some .imageRepository ∨
      ResourceKind.ofName? call.resourceType = some .imageRepositories :=
    about.imp (fun named => by rw [named]; rfl) (fun named => by rw [named]; rfl)
  have other {kind : ResourceKind} (known : ResourceKind.ofName? call.resourceType = some kind)
    (pools : kind = .computePool ∨ kind = .computePools) : False := by
    rcases pools with rfl | rfl <;> simp [known] at kinds
  cases sequence with
  | unread => simp
  | readPool known | updatePool known | deletePool known => exact (other known (.inl rfl)).elim
  | listPools known => exact (other known (.inr rfl)).elim
  | createPool made =>
      obtain ⟨kind, known, -, ⟨rfl, -⟩ | ⟨-, _, -, impossible, -⟩⟩ := creation_eq_ok_iff.mp made
      · exact (other known (.inl rfl)).elim
      · cases impossible
  | @createRepository resource request made =>
      obtain ⟨kind, known, -, ⟨-, _, -, impossible, -⟩ | ⟨rfl, repository, located, same, -⟩⟩ :=
        creation_eq_ok_iff.mp made
      · cases impossible
      · obtain rfl := Statement.createRepository.inj same
        rw [withDefaults_repository] at located
        simp [Statement.place?, scope?, located, SchemaId.question, Statement.Scope.ofSchema,
          Except.toOption]
  | readRepository known decoded | updateRepository known _ _ decoded
  | deleteRepository known decoded =>
      simp [Statement.place?, scope?, decoded, SchemaId.question, Statement.Scope.ofSchema,
        Except.toOption]
  | listRepositories known passed requested =>
      simp [Statement.place?, scope?, requested, Except.toOption]

theorem Sequence.exists_unqualified_iff (sequence : Sequence config call whole)
    (about : call.resourceType = "image_repository" ∨ call.resourceType = "image_repositories")
    (begun : sent <+: whole) (accepted : ∀ statement ∈ sent, statement.form.violations = []) :
    (∃ statement ∈ sent, ¬statement.NamesInFull) ↔
      sent ≠ [] ∧ ∃ scope, call.scope? config = some scope ∧
        (scope.database = "" ∨ scope.name = "") := by
  have places := fun statement member => sequence.place?_eq about statement (begun.subset member)
  have unqualified {statement} (member : statement ∈ sent) : ¬statement.NamesInFull ↔
      ∃ scope, call.scope? config = some scope ∧ (scope.database = "" ∨ scope.name = "") := by
    rw [Statement.namesInFull_iff (accepted statement member), places statement member]
    simp [or_iff_not_imp_left]
  constructor
  · rintro ⟨statement, member, partly⟩
    exact ⟨List.ne_nil_of_mem member, (unqualified member).mp partly⟩
  · rintro ⟨some, lacking⟩
    obtain ⟨statement, member⟩ := List.exists_mem_of_ne_nil sent some
    exact ⟨statement, member, (unqualified member).mpr lacking⟩

end Call

/-- A call on repositories names each repository, and each schema that it lists, in full, unless it
sends a statement although the database or the schema that it works in is empty. -/
theorem unqualified_sent_iff (config : Config) (connection : Connection) (before : List Statement)
    (call : Call)
    (about : call.resourceType = "image_repository" ∨ call.resourceType = "image_repositories") :
    ∃ sent, (play connection before (call.attempt (.ofConfig config))).2 = before ++ sent ∧
      ((∃ statement ∈ sent, ¬statement.NamesInFull) ↔
        sent ≠ [] ∧ ∃ scope, call.scope? config = some scope ∧
          (scope.database = "" ∨ scope.name = "")) := by
  rcases Call.sequence_or_unsent config connection before call with
    ⟨whole, sequence⟩ | ⟨fault, played⟩
  · obtain ⟨result, performance, -⟩ := sequence.follows
    obtain ⟨sent, rest, split, ran, accepted, -⟩ := performance.sent_eq
    exact ⟨sent, ran, sequence.exists_unqualified_iff about ⟨rest, split.symm⟩ accepted⟩
  · exact ⟨[], by simp [played], by simp⟩

def databaseless : Resource where
  id := ⟨"image_repository", "repo"⟩
  attributes := .ofList [
    ("name", .string "REPO"),
    ("database", .string ""),
    ("schema", .string "SC")]

theorem play_databaseless :
    (play silent [] ((Call.create databaseless).attempt (.ofConfig {}))).2 =
      [.createRepository { name := ⟨"", "SC", "REPO"⟩ }, SchemaId.question ⟨"", "SC", "REPO"⟩] := by
  have passed : valid ResourceKind.imageRepository.schema databaseless.attributes = .ok () :=
    valid_eq_ok_iff.mpr (Schema.faults_eq_nil_iff.mp (Schema.faults_eq_nil_of (by rfl) (by rfl)))
  have made : creation {} databaseless =
      .ok (.createRepository { name := ⟨"", "SC", "REPO"⟩ },
        (SchemaId.mk "" "SC" "REPO").toIdentifier) :=
    creation_eq_ok_iff.mpr ⟨.imageRepository, rfl, passed, .inr ⟨rfl, _, rfl, rfl, rfl⟩⟩
  have follows : Follows silent none [] _ ((Call.create databaseless).attempt (.ofConfig {})) :=
    (Call.Sequence.createRepository made).follows
  obtain ⟨result, performance, -⟩ := follows
  refine performance.sent_of_allAnswered ?_ ⟨⟨[], rfl⟩, ⟨[], rfl⟩, trivial⟩
  simp only [List.forall_mem_cons]
  exact ⟨(Statement.createRepository_accepted_iff _).mpr (by decide),
    (Statement.showRepositories_inSchema_accepted_iff _ _).mpr (by decide), by simp⟩

theorem unqualified_sent_databaseless :
    (Call.create databaseless).resourceType = "image_repository" ∧
      ∃ sent, (play silent [] ((Call.create databaseless).attempt (.ofConfig {}))).2 = sent ∧
        ∃ statement ∈ sent, ¬statement.NamesInFull := by
  obtain ⟨sent, ran, unqualified⟩ :=
    unqualified_sent_iff {} silent [] (.create databaseless) (.inl rfl)
  refine ⟨rfl, sent, ran, unqualified.mpr ⟨?_, ⟨"", "SC"⟩, rfl, .inl rfl⟩⟩
  rintro rfl
  simp [play_databaseless] at ran

theorem not_forall_namesInFull :
    ¬∀ (config : Config) (connection : Connection) (before sent : List Statement) (call : Call),
      call.resourceType = "image_repository" ∨ call.resourceType = "image_repositories" →
      (play connection before (call.attempt (.ofConfig config))).2 = before ++ sent →
      ∀ statement ∈ sent, statement.NamesInFull := by
  intro always
  have full := always {} silent [] _ (.create databaseless) (.inl rfl) play_databaseless _
    List.mem_cons_self
  have accepted :
      (Statement.createRepository { name := ⟨"", "SC", "REPO"⟩ }).form.violations = [] :=
    (Statement.createRepository_accepted_iff _).mpr (by decide)
  exact ((Statement.namesInFull_iff accepted).mp full ⟨"", "SC"⟩ rfl).1 rfl

end Provision
