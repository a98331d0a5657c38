import Provision.Proofs.Course
import Provision.Proofs.SchemaValidity
import Provision.Proofs.StoredForm

/-!
How a creation ends. What has been created is read back by its stored identifier, and this lookup is
accepted unless a repository was created in no schema.
-/

namespace Provision.Operation

open Attempt

section

variable (connection : Connection) (before : List Statement)

theorem play_create {config : Config} {resource : Resource} {statement : Statement}
    {object : Identifier} {rows : List Row}
    (made : creation config resource = .ok (statement, object))
    (accepted : statement.form.violations = [])
    (answered : answer connection config.statementTimeout? before statement = .ok rows) :
    play connection before (create config resource) =
      play connection (before ++ [statement])
        (read config resource.id (some object.encode)) := by
  obtain ⟨result, sent, performance, played⟩ :=
    play_performAll connection before config .create resource.id [statement]
  rw [play_create_made made]
  cases performance with
  | refused refused => exact absurd accepted refused
  | failed _ failed => simp [answered] at failed
  | answered _ _ rest =>
      cases rest with
      | finished => exact play_bind_ok played _

end

theorem container_isValid_iff {repository : SchemaId} (valid : repository.toIdentifier.isValid) :
    repository.container.toIdentifier.isValid ↔ repository.schema ≠ "" := by
  obtain ⟨database, schema, name⟩ := repository
  simp only [SchemaId.toIdentifier, SchemaId.container, DatabaseId.toIdentifier, Identifier.isValid,
    Identifier.segments, Identifier.name, Bool.and_eq_true, decide_eq_true_eq, List.all_eq_true,
    List.mem_filter] at valid ⊢
  refine ⟨fun contained => of_decide_eq_true contained.1,
    fun named => ⟨decide_eq_true named, fun segment member => ?_⟩⟩
  rcases List.mem_cons.mp member.1 with rfl | inner
  · exact valid.2 segment ⟨List.mem_cons_self, member.2⟩
  · rw [List.mem_singleton.mp inner] at member ⊢
    exact valid.2 schema ⟨by simp, member.2⟩

theorem showRepositories_refused (pattern database : String) :
    (Statement.showRepositories {
      like? := some pattern, scope? := some (.ofSchema ⟨database, ""⟩) }).form.violations =
        [.invalidIdentifier "Schema"] := rfl

/-- A repository that is created although it is in no schema. -/
structure CreatesSchemaless (config : Config) (connection : Connection) (before : List Statement)
    (resource : Resource) (repository : SchemaId) : Prop where
  typed : resource.id.resourceType = "image_repository"
  valid : valid ResourceKind.imageRepository.schema
    (ResourceKind.imageRepository.schema.withDefaults resource.attributes) = .ok ()
  located : RepositoryResource.repositoryId config
    (ResourceKind.imageRepository.schema.withDefaults resource.attributes) = .ok repository
  named : repository.toIdentifier.isValid
  schemaless : repository.schema = ""
  created : ∃ rows, answer connection config.statementTimeout? before
    (.createRepository { name := repository }) = .ok rows

section

variable {config : Config} {connection : Connection} {before : List Statement}
  {resource : Resource} {repository : SchemaId}

theorem CreatesSchemaless.creation
    (creates : CreatesSchemaless config connection before resource repository) :
    creation config resource =
      .ok (.createRepository { name := repository }, repository.toIdentifier) := by
  have known : ResourceKind.ofName? resource.id.resourceType = some .imageRepository := by
    rw [creates.typed]
    rfl
  exact creation_eq_ok_iff.mpr ⟨.imageRepository, known, creates.valid,
    .inr ⟨rfl, repository, creates.located, rfl, rfl⟩⟩

theorem CreatesSchemaless.play_create
    (creates : CreatesSchemaless config connection before resource repository) :
    play connection before (create config resource) =
      (.error (.about resource.id (.statement .read "image_repository"
        (.refused [.invalidIdentifier "Schema"]))),
        before ++ [.createRepository { name := repository }]) := by
  obtain ⟨rows, answered⟩ := creates.created
  have accepted :=
    (Statement.createRepository_accepted_iff { name := repository }).mpr creates.named
  have supported : Lookup.ofType? resource.id.resourceType = some .repositories := by
    rw [creates.typed]
    rfl
  have decoded : schemaId repository.toIdentifier.encode = .ok repository :=
    schemaId_eq_ok_iff.mpr (Identifier.decode_encode_of_isValid creates.named)
  have asked := Lookup.ask_repositories decoded
  have container : repository.container = ⟨repository.database, ""⟩ := by
    rw [SchemaId.container, creates.schemaless]
  rw [container] at asked
  have refused := showRepositories_refused repository.name repository.database
  rw [Operation.play_create connection before creates.creation accepted answered]
  rcases read_asked connection (before ++ [_]) supported asked with ⟨-, read⟩ | ⟨unrefused, -⟩
  · rw [read, refused, creates.typed]
  · simp [refused] at unrefused

end

def schemaless : Resource where
  id := ⟨"image_repository", "images"⟩
  attributes := .ofList [
    ("name", .string "REPO"),
    ("database", .string "DB"),
    ("schema", .string "")]

def silent : Connection := fun _ _ => ⟨0, .ok []⟩

theorem createsSchemaless_schemaless :
    CreatesSchemaless {} silent [] schemaless ⟨"DB", "", "REPO"⟩ where
  typed := rfl
  valid := valid_eq_ok_iff.mpr
    (Schema.faults_eq_nil_iff.mp (Schema.faults_eq_nil_of (by rfl) (by rfl)))
  located := rfl
  named := by decide
  schemaless := rfl
  created := ⟨[], rfl⟩

end Provision.Operation
