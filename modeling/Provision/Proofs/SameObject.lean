import Provision.Proofs.AcceptedRequests
import Provision.Proofs.Following
import Provision.Proofs.SettledPool

/-!
Which object an update is about. It goes on with the object that was read, and refuses to if the
resource says of itself that it is another one; what the resource leaves to the defaults of the
provider is not compared.
-/

namespace Provision

open Attempt

namespace Operation

variable {config : Config} {connection : Connection} {before : List Statement} {id : ResourceId}
  {identifier : String} {current : Attributes} {wanted : Resource}

theorem text_of_kept {schema : Schema} {current wanted : Attributes} {key shown given : String}
    {declared : Attribute} (kept : replacement? schema current wanted = none)
    (known : schema.attribute? key = some declared) (replaces : declared.replaces)
    (shows : current.get? key = some (.string shown))
    (set : wanted.get? key = some (.string given)) : given = shown := by
  have unchanged := List.find?_eq_none.mp kept key (Schema.mem_replacing known replaces)
  rw [shows, set] at unchanged
  have same : shown = given := by simpa using unchanged
  exact same.symm

theorem update_error_of_unsent
    (unsent : (play connection before (update config id identifier current wanted)).2 = before) :
    ∃ fault, (play connection before (update config id identifier current wanted)).1 =
      .error fault := by
  cases altered : alterations id identifier current wanted with
  | error fault => exact ⟨fault, by rw [play_update_refused altered]⟩
  | ok statements =>
      obtain ⟨kind, known, -, -, ⟨rfl, pool, decoded, -⟩ | ⟨rfl, ⟨repository, decoded⟩, -⟩⟩ :=
        alterations_eq_ok_iff.mp altered
      · exact Follows.error_of_unsent
          (follows_update altered fun _ => follows_read_pool known decoded) (by simp) unsent
      · exact Follows.error_of_unsent
          (follows_update altered fun _ => follows_read_repository known decoded) (by simp) unsent

theorem altered_of_sent
    (sent : (play connection before (update config id identifier current wanted)).2 ≠ before) :
    ∃ statements, alterations id identifier current wanted = .ok statements := by
  cases altered : alterations id identifier current wanted with
  | error fault => simp [play_update_refused altered] at sent
  | ok statements => exact ⟨statements, rfl⟩

theorem creation_of_pool {name : String}
    (known : ResourceKind.ofName? wanted.id.resourceType = some .computePool)
    (accepted : ResourceKind.computePool.schema.Accepts wanted.attributes)
    (named : wanted.attributes.get? "name" = some (.string name)) :
    ∃ request, creation config wanted = .ok (.createPool request, .account ⟨name⟩) := by
  obtain ⟨request, requested, given, -⟩ :=
    PoolResource.exists_createRequest accepted.withDefaults
  rw [Schema.get?_withDefaults_of_none (by rfl), named] at given
  obtain rfl := Value.string.inj (Option.some.inj given)
  exact ⟨request, creation_eq_ok_iff.mpr ⟨.computePool, known,
    valid_eq_ok_iff.mpr accepted.withDefaults, .inl ⟨rfl, request, requested, rfl, rfl⟩⟩⟩

theorem creation_of_repository_iff {name : String} {database? schema? : Option String}
    {repository : SchemaId}
    (known : ResourceKind.ofName? wanted.id.resourceType = some .imageRepository)
    (accepted : ResourceKind.imageRepository.schema.Accepts wanted.attributes)
    (named : wanted.attributes.get? "name" = some (.string name))
    (ofDatabase : wanted.attributes.get? "database" = database?.map .string)
    (ofSchema : wanted.attributes.get? "schema" = schema?.map .string) :
    (∃ statement, creation config wanted = .ok (statement, .schema repository)) ↔
      database?.or config.defaultDatabase? = some repository.database ∧
        schema?.or config.defaultSchema? = some repository.schema ∧ name = repository.name := by
  let filled := ResourceKind.imageRepository.schema.withDefaults wanted.attributes
  have nameFilled : filled.get? "name" = some (.string name) :=
    (Schema.get?_withDefaults_of_none (by rfl)).trans named
  have databaseFilled : filled.get? "database" = database?.map .string :=
    (Schema.get?_withDefaults_of_none (by rfl)).trans ofDatabase
  have schemaFilled : filled.get? "schema" = schema?.map .string :=
    (Schema.get?_withDefaults_of_none (by rfl)).trans ofSchema
  rw [← RepositoryResource.repositoryId_eq_ok_iff nameFilled databaseFilled schemaFilled]
  constructor
  · rintro ⟨statement, made⟩
    obtain ⟨kind, known', -, ⟨rfl, -⟩ | ⟨rfl, other, requested, -, same⟩⟩ :=
      creation_eq_ok_iff.mp made
    · simp [known] at known'
    · obtain rfl : other = repository := Identifier.schema.inj same
      exact requested
  · intro requested
    exact ⟨_, creation_eq_ok_iff.mpr ⟨.imageRepository, known,
      valid_eq_ok_iff.mpr accepted.withDefaults, .inr ⟨rfl, repository, requested, rfl, rfl⟩⟩⟩

end Operation

namespace Lookup

theorem exists_pool {row : Row} {entry : Identifier × Attributes}
    (read : pools.ofRow row = .ok entry) :
    ∃ pool : ComputePool, entry = (pool.id.toIdentifier, PoolResource.attributes pool) := by
  cases found : ComputePool.ofRow row with
  | error error => simp [pools, found, Functor.map, Except.map] at read
  | ok pool =>
      simp only [pools, found, Functor.map, Except.map, Except.ok.injEq] at read
      exact ⟨pool, read.symm⟩

theorem exists_repository {row : Row} {entry : Identifier × Attributes}
    (read : repositories.ofRow row = .ok entry) :
    ∃ repository : ImageRepository,
      entry = (repository.id.toIdentifier, RepositoryResource.attributes repository) := by
  cases found : ImageRepository.ofRow row with
  | error error => simp [repositories, found, Functor.map, Except.map] at read
  | ok repository =>
      simp only [repositories, found, Functor.map, Except.map, Except.ok.injEq] at read
      exact ⟨repository, read.symm⟩

end Lookup

namespace RepositoryResource

theorem get?_name (repository : ImageRepository) :
    (attributes repository).get? "name" = some (.string repository.name) := by
  simp [attributes, Table.ofList, Table.get?_insert]

theorem get?_database (repository : ImageRepository) :
    (attributes repository).get? "database" = some (.string repository.databaseName) := by
  simp [attributes, Table.ofList, Table.get?_insert]

theorem get?_schema (repository : ImageRepository) :
    (attributes repository).get? "schema" = some (.string repository.schemaName) := by
  simp [attributes, Table.ofList, Table.get?_insert]

end RepositoryResource

namespace Operation

variable {config : Config} {connection : Connection} {before : List Statement} {id : ResourceId}
  {identifier : String} {current : Attributes} {wanted : Resource}

theorem shown_of_reported {lookup : Lookup} {state : State}
    (supported : Lookup.ofType? id.resourceType = some lookup)
    (reported : (play connection before (read config id (some identifier))).1 = .ok state)
    (present : state.exists?) :
    ∃ row object, lookup.ofRow row = .ok (object, state.attributes) ∧
      Identifier.decode identifier = .ok object := by
  obtain ⟨object, shown, entry, ⟨request, rows, asked, -, -, read⟩, first, rfl⟩ :=
    read_existing supported reported present
  have shows : entry.1 = object := by simpa using List.find?_some first
  have member : Except.ok entry ∈ rows.map lookup.ofRow :=
    read ▸ List.mem_map_of_mem (List.mem_of_find?_eq_some first)
  obtain ⟨row, -, found⟩ := List.mem_map.mp member
  exact ⟨row, object, shows ▸ found, Lookup.decode_of_ask supported asked⟩

/-- The place of the repository is left to defaults of the provider that lead elsewhere. -/
def Strays (config : Config) (object : Identifier) (wanted : Attributes) : Prop :=
  ∃ repository : SchemaId, object = repository.toIdentifier ∧
    (wanted.get? "database" = none ∧ config.defaultDatabase? ≠ some repository.database ∨
      wanted.get? "schema" = none ∧ config.defaultSchema? ≠ some repository.schema)

theorem strays_iff {repository : SchemaId} {wanted : Attributes} :
    Strays config repository.toIdentifier wanted ↔
      wanted.get? "database" = none ∧ config.defaultDatabase? ≠ some repository.database ∨
        wanted.get? "schema" = none ∧ config.defaultSchema? ≠ some repository.schema := by
  refine ⟨?_, fun strays => ⟨repository, rfl, strays⟩⟩
  rintro ⟨other, same, strays⟩
  obtain rfl : repository = other := Identifier.schema.inj same
  exact strays

theorem or_eq_some_iff {given? default? : Option String} {shown : String}
    (agrees : ∀ given ∈ given?, given = shown) :
    given?.or default? = some shown ↔ ¬(given? = none ∧ default? ≠ some shown) := by
  cases given? with
  | none => simp
  | some given =>
      obtain rfl := agrees given rfl
      simp

theorem same_pool (config : Config) {pool : ComputePool}
    (known : ResourceKind.ofName? wanted.id.resourceType = some .computePool)
    (accepted : ResourceKind.computePool.schema.Accepts wanted.attributes)
    (kept : replacement? ResourceKind.computePool.schema (PoolResource.attributes pool)
      wanted.attributes = none) :
    (∃ statement, creation config wanted = .ok (statement, pool.id.toIdentifier)) ∧
      wanted.attributes.get? "instance_family" = some (.string pool.instanceFamily) := by
  obtain ⟨name, family, named, ofFamily⟩ := PoolResource.exists_identity accepted
  obtain rfl := text_of_kept kept (show _ = some _ from rfl) rfl (PoolResource.get?_name pool) named
  obtain rfl := text_of_kept kept (show _ = some _ from rfl) rfl
    (PoolResource.get?_instanceFamily pool) ofFamily
  obtain ⟨request, made⟩ := creation_of_pool known accepted named
  exact ⟨⟨_, made⟩, ofFamily⟩

theorem same_repository_iff {repository : ImageRepository}
    (known : ResourceKind.ofName? wanted.id.resourceType = some .imageRepository)
    (accepted : ResourceKind.imageRepository.schema.Accepts wanted.attributes)
    (kept : replacement? ResourceKind.imageRepository.schema
      (RepositoryResource.attributes repository) wanted.attributes = none) :
    (∃ statement, creation config wanted = .ok (statement, repository.id.toIdentifier)) ↔
      ¬Strays config repository.id.toIdentifier wanted.attributes := by
  obtain ⟨name, database?, schema?, named, ofDatabase, ofSchema⟩ :=
    RepositoryResource.exists_declared accepted
  have sameName := text_of_kept kept (show _ = some _ from rfl) rfl
    (RepositoryResource.get?_name repository) named
  have sameDatabase : ∀ given ∈ database?, given = repository.id.database := by
    rintro given rfl
    exact text_of_kept kept (show _ = some _ from rfl) rfl
      (RepositoryResource.get?_database repository) ofDatabase
  have sameSchema : ∀ given ∈ schema?, given = repository.id.schema := by
    rintro given rfl
    exact text_of_kept kept (show _ = some _ from rfl) rfl
      (RepositoryResource.get?_schema repository) ofSchema
  refine (creation_of_repository_iff known accepted named ofDatabase ofSchema).trans ?_
  rw [or_eq_some_iff sameDatabase, or_eq_some_iff sameSchema, strays_iff, not_or, ofDatabase,
    ofSchema, Option.map_eq_none_iff, Option.map_eq_none_iff]
  exact ⟨fun ⟨database, schema, _⟩ => ⟨database, schema⟩,
    fun ⟨database, schema⟩ => ⟨database, schema, sameName⟩⟩

/-- An update that sends anything is about the object that the resource names, and about the
family of a pool that it names, unless the resource leaves the place of a repository to defaults of
the provider that lead elsewhere. An update that sends nothing fails. -/
theorem update_same_object (config : Config) (connection later : Connection)
    (before earlier : List Statement) (id : ResourceId) (identifier : String) (state : State)
    (wanted : Resource)
    (managed : id.resourceType = "compute_pool" ∨ id.resourceType = "image_repository")
    (alike : wanted.id.resourceType = id.resourceType)
    (reported : (play connection before (read config id (some identifier))).1 = .ok state)
    (present : state.exists?) :
    let outcome := play later earlier (update config id identifier state.attributes wanted)
    (outcome.2 = earlier → ∃ fault, outcome.1 = .error fault) ∧
    (outcome.2 ≠ earlier → ∃ object, Identifier.decode identifier = .ok object ∧
      ((∃ statement, creation config wanted = .ok (statement, object)) ↔
        ¬Strays config object wanted.attributes) ∧
      (id.resourceType = "compute_pool" → ∃ family : String,
        wanted.attributes.get? "instance_family" = some (.string family) ∧
          state.attributes.get? "instance_family" = some (.string family))) := by
  intro outcome
  refine ⟨update_error_of_unsent, fun sent => ?_⟩
  -- Something was sent, so the checks of the update itself have passed.
  obtain ⟨statements, altered⟩ := altered_of_sent sent
  obtain ⟨kind, known, passed, kept, -⟩ := alterations_eq_ok_iff.mp altered
  have accepted := valid_eq_ok_iff.mp passed
  rw [← alike] at known
  rcases managed with typed | typed
  · obtain rfl : ResourceKind.computePool = kind := by
      rw [alike, typed] at known
      exact Option.some.inj known
    obtain ⟨row, object, read, decoded⟩ :=
      shown_of_reported (Lookup.ofType?_eq_some_iff.mpr (.inl ⟨typed, rfl⟩)) reported present
    obtain ⟨pool, shown⟩ := Lookup.exists_pool read
    obtain ⟨rfl, shows⟩ := Prod.mk.inj shown
    rw [shows] at kept ⊢
    obtain ⟨created, family⟩ := same_pool config known accepted kept
    have placed : ¬Strays config pool.id.toIdentifier wanted.attributes := by
      rintro ⟨repository, impossible, -⟩
      cases impossible
    exact ⟨_, decoded, iff_of_true created placed,
      fun _ => ⟨_, family, PoolResource.get?_instanceFamily pool⟩⟩
  · obtain rfl : ResourceKind.imageRepository = kind := by
      rw [alike, typed] at known
      exact Option.some.inj known
    obtain ⟨row, object, read, decoded⟩ :=
      shown_of_reported (Lookup.ofType?_eq_some_iff.mpr (.inr ⟨typed, rfl⟩)) reported present
    obtain ⟨repository, shown⟩ := Lookup.exists_repository read
    obtain ⟨rfl, shows⟩ := Prod.mk.inj shown
    rw [shows] at kept
    refine ⟨_, decoded, same_repository_iff known accepted kept, fun pooled => ?_⟩
    simp [typed] at pooled

def unplaced : Resource where
  id := ⟨"image_repository", "images"⟩
  attributes := .ofList [("name", .string "REPO")]

def placing (database : String) : Config := {
  defaultDatabase? := database, defaultSchema? := "SC" }

theorem accepts_unplaced :
    ResourceKind.imageRepository.schema.Accepts unplaced.attributes :=
  Schema.faults_eq_nil_iff.mp (Schema.faults_eq_nil_of (by rfl) (by rfl))

theorem get?_unplaced (key : String) :
    unplaced.attributes.get? key = if key = "name" then some (.string "REPO") else none := by
  simp [unplaced, Table.ofList, Table.get?_insert]

theorem read_placing (database : String) (id : ResourceId) (identifier? : Option String) :
    read (placing database) id identifier? = read {} id identifier? := rfl

theorem read_lookalikes (database : String) :
    (play lookalikes [] (read (placing database) unplaced.id (some "DB|SC|REPO"))).1 =
      .ok (.existing unplaced.id (some "DB|SC|REPO") (shownRepository "REPO" "second").2) := by
  have supported : Lookup.ofType? unplaced.id.resourceType = some .repositories := rfl
  rw [read_placing]
  exact (read_of_answered supported answered_lookalikes).trans rfl

theorem kept_unplaced :
    replacement? ResourceKind.imageRepository.schema (shownRepository "REPO" "second").2
      unplaced.attributes = none := by
  refine List.find?_eq_none.mpr fun name member => ?_
  have listed : name ∈ ["name", "database", "schema"] := List.mem_mergeSort.mp member
  simp only [List.mem_cons, List.not_mem_nil, or_false] at listed
  rcases listed with rfl | rfl | rfl
  · simp [get?_unplaced, shownRepository, RepositoryResource.get?_name]
  · simp [get?_unplaced]
  · simp [get?_unplaced]

theorem update_unplaced_sends (database : String) :
    (play lookalikes [] (update (placing database) unplaced.id "DB|SC|REPO"
      (shownRepository "REPO" "second").2 unplaced)).2 ≠ [] := by
  have known : ResourceKind.ofName? unplaced.id.resourceType = some .imageRepository := rfl
  have decoded : schemaId "DB|SC|REPO" = .ok ⟨"DB", "SC", "REPO"⟩ := rfl
  have altered : alterations unplaced.id "DB|SC|REPO" (shownRepository "REPO" "second").2 unplaced =
      .ok [] :=
    alterations_eq_ok_iff.mpr ⟨.imageRepository, known, valid_eq_ok_iff.mpr accepts_unplaced,
      kept_unplaced, .inr ⟨rfl, ⟨_, decoded⟩, rfl⟩⟩
  obtain ⟨request, rows, -, sent, -⟩ := answered_lookalikes
  rw [play_update_made altered, performAll, play_bind_ok rfl, read_placing]
  have sends : (play lookalikes [] (read {} unplaced.id (some "DB|SC|REPO"))).2 = [request] := sent
  simp [sends]

theorem unplaced_updates_own :
    ∃ statement, creation (placing "DB") unplaced =
      .ok (statement, .schema ⟨"DB", "SC", "REPO"⟩) := by
  obtain ⟨-, about⟩ := update_same_object (placing "DB") lookalikes lookalikes [] [] unplaced.id
    "DB|SC|REPO" _ unplaced (.inr rfl) rfl (read_lookalikes "DB") rfl
  obtain ⟨object, decoded, same, -⟩ := about (update_unplaced_sends "DB")
  have leads : Identifier.decode "DB|SC|REPO" = .ok (.schema ⟨"DB", "SC", "REPO"⟩) := rfl
  obtain rfl := Except.ok.inj (leads.symm.trans decoded)
  refine same.mpr fun strays => ?_
  obtain ⟨repository, same, elsewhere⟩ := strays
  obtain rfl := Identifier.schema.inj same
  simp [placing] at elsewhere

theorem not_forall_update_same_object :
    ¬∀ (config : Config) (connection later : Connection) (before earlier : List Statement)
        (id : ResourceId) (identifier : String) (state : State) (wanted : Resource),
      id.resourceType = "compute_pool" ∨ id.resourceType = "image_repository" →
      wanted.id.resourceType = id.resourceType →
      (play connection before (read config id (some identifier))).1 = .ok state →
      state.exists? →
      (play later earlier (update config id identifier state.attributes wanted)).2 ≠ earlier →
      ∃ statement object, creation config wanted = .ok (statement, object) ∧
        Identifier.decode identifier = .ok object ∧
        (id.resourceType = "compute_pool" →
          wanted.attributes.get? "instance_family" = state.attributes.get? "instance_family") := by
  intro always
  obtain ⟨statement, object, made, decoded, -⟩ :=
    always (placing "DB2") lookalikes lookalikes [] [] unplaced.id "DB|SC|REPO" _ unplaced
      (.inr rfl) rfl (read_lookalikes "DB2") rfl (update_unplaced_sends "DB2")
  have leads : Identifier.decode "DB|SC|REPO" = .ok (.schema ⟨"DB", "SC", "REPO"⟩) := rfl
  obtain rfl := Except.ok.inj (leads.symm.trans decoded)
  have known : ResourceKind.ofName? unplaced.id.resourceType = some .imageRepository := rfl
  have unset {key : String} (other : key ≠ "name") :
      unplaced.attributes.get? key = (none : Option String).map .string := by
    simp [get?_unplaced, other]
  obtain ⟨elsewhere, -⟩ := (creation_of_repository_iff known accepts_unplaced
    (get?_unplaced "name") (unset (by decide)) (unset (by decide))).mp ⟨statement, made⟩
  simp [placing] at elsewhere

end Operation

end Provision
