import Provision.Proofs.Conversation

/-!
How the objects of a resource type are looked up: what is asked for a stored identifier, and what is
made of the rows that answer. Both resource types are read in the same way.
-/

namespace Provision

open Attempt

variable {α β : Type}

theorem ResourceKind.name_of_ofName? {name : String} {kind : ResourceKind}
    (found : ResourceKind.ofName? name = some kind) : name = kind.name := by
  have named := List.find?_some found
  simpa using (of_decide_eq_true named).symm

structure Lookup where
  /-- The object that a stored identifier leads to, and the statement that asks for it. -/
  ask : String → Except FaultCause (Identifier × Statement)
  /-- The object that a row shows, and its attributes. -/
  ofRow : Row → Conversion (Identifier × Attributes)

namespace Lookup

def pools : Lookup where
  ask identifier := do
    let pool ← Operation.accountId identifier
    return (pool.toIdentifier, .showPools { like? := some pool.name })
  ofRow row := (fun pool => (pool.id.toIdentifier, PoolResource.attributes pool)) <$>
    ComputePool.ofRow row

def repositories : Lookup where
  ask identifier := do
    let repository ← Operation.schemaId identifier
    return (repository.toIdentifier, .showRepositories {
      like? := some repository.name, scope? := some (.ofSchema repository.container) })
  ofRow row := (fun repository =>
    (repository.id.toIdentifier, RepositoryResource.attributes repository)) <$>
      ImageRepository.ofRow row

def ofType? (resourceType : String) : Option Lookup :=
  match ResourceKind.ofName? resourceType with
  | some .computePool => some pools
  | some .imageRepository => some repositories
  | _ => none

theorem ofType?_eq_some_iff {resourceType : String} {lookup : Lookup} :
    ofType? resourceType = some lookup ↔
      resourceType = "compute_pool" ∧ lookup = pools ∨
        resourceType = "image_repository" ∧ lookup = repositories := by
  constructor
  · intro supported
    simp only [ofType?] at supported
    cases kind? : ResourceKind.ofName? resourceType with
    | none => simp [kind?] at supported
    | some kind =>
        have named := ResourceKind.name_of_ofName? kind?
        rw [kind?] at supported
        cases kind with
        | computePool => exact .inl ⟨named, (Option.some.inj supported).symm⟩
        | imageRepository => exact .inr ⟨named, (Option.some.inj supported).symm⟩
        | computePools => simp at supported
        | imageRepositories => simp at supported
  · rintro (⟨rfl, rfl⟩ | ⟨rfl, rfl⟩)
    · rfl
    · rfl

theorem ask_pools {identifier : String} {pool : AccountId}
    (decoded : Operation.accountId identifier = .ok pool) :
    pools.ask identifier =
      .ok (pool.toIdentifier, .showPools { like? := some pool.name }) :=
  bind_eq_ok_iff.mpr ⟨pool, decoded, rfl⟩

theorem ask_repositories {identifier : String} {repository : SchemaId}
    (decoded : Operation.schemaId identifier = .ok repository) :
    repositories.ask identifier =
      .ok (repository.toIdentifier, .showRepositories {
        like? := some repository.name, scope? := some (.ofSchema repository.container) }) :=
  bind_eq_ok_iff.mpr ⟨repository, decoded, rfl⟩

def state (lookup : Lookup) (id : ResourceId) (identifier : String) (object : Identifier)
    (rows : List Row) : Except Fault State :=
  match rows.mapM lookup.ofRow with
  | .error error => .error (.about id (.statement .read id.resourceType (.conversion error)))
  | .ok shown =>
      match shown.find? fun entry => entry.1 = object with
      | some entry => .ok (.existing id (some identifier) entry.2)
      | none => .ok (.absent id)

end Lookup

theorem mapM_eq_ok_iff {convert : Row → Conversion α} {rows : List Row} {values : List α} :
    rows.mapM convert = .ok values ↔ rows.map convert = values.map .ok := by
  induction rows generalizing values with
  | nil =>
      cases values with
      | nil => simp [pure, Except.pure]
      | cons value others => simp [pure, Except.pure]
  | cons row rest ih =>
      rw [List.mapM_cons]
      cases read : convert row with
      | error error =>
          cases values with
          | nil => simp [bind, Except.bind]
          | cons value others => simp [bind, Except.bind, read]
      | ok first =>
          cases remaining : rest.mapM convert with
          | error error =>
              cases values with
              | nil => simp [bind, Except.bind]
              | cons value others =>
                  have unread : ¬rest.map convert = others.map .ok := by
                    rw [← ih, remaining]
                    simp
                  simp [bind, Except.bind, unread]
          | ok found =>
              cases values with
              | nil => simp [bind, Except.bind, pure, Except.pure]
              | cons value others =>
                  simp [bind, Except.bind, pure, Except.pure, read, ← ih, remaining]

theorem mapM_first_error_iff {convert : Row → Conversion α} {rows : List Row}
    {error : ConversionError} :
    rows.mapM convert = .error error ↔
      ∃ earlier row later, rows = earlier ++ row :: later ∧
        (∀ other ∈ earlier, ∃ value, convert other = .ok value) ∧ convert row = .error error := by
  constructor
  · intro failed
    induction rows with
    | nil => simp [pure, Except.pure] at failed
    | cons row rest ih =>
        rw [List.mapM_cons] at failed
        rcases bind_eq_error_iff.mp failed with unread | ⟨value, read, failed⟩
        · exact ⟨[], row, rest, rfl, by simp, unread⟩
        · rcases bind_eq_error_iff.mp failed with failed | ⟨values, -, impossible⟩
          · obtain ⟨earlier, failing, later, rfl, passed, unread⟩ := ih failed
            exact ⟨row :: earlier, failing, later, rfl,
              List.forall_mem_cons.mpr ⟨⟨value, read⟩, passed⟩, unread⟩
          · simp [pure, Except.pure] at impossible
  · rintro ⟨earlier, row, later, rfl, passed, unread⟩
    induction earlier with
    | nil => simp [List.mapM_cons, unread, bind, Except.bind]
    | cons first others ih =>
        obtain ⟨⟨value, read⟩, passed⟩ := List.forall_mem_cons.mp passed
        simp only [List.cons_append, List.mapM_cons, read, ih passed, bind, Except.bind]

theorem mapM_error {convert : Row → Conversion α} {rows : List Row} {error : ConversionError}
    (failed : rows.mapM convert = .error error) : ∃ row ∈ rows, convert row = .error error := by
  obtain ⟨earlier, row, later, rfl, -, unread⟩ := mapM_first_error_iff.mp failed
  exact ⟨row, by simp, unread⟩

theorem mapM_eq_error_iff {convert : Row → Conversion α} {rows : List Row} :
    (∃ error, rows.mapM convert = .error error) ↔
      ∃ row ∈ rows, ∃ error, convert row = .error error := by
  constructor
  · rintro ⟨error, failed⟩
    obtain ⟨row, member, unread⟩ := mapM_error failed
    exact ⟨row, member, error, unread⟩
  · rintro ⟨row, member, error, unread⟩
    cases result : rows.mapM convert with
    | error fault => exact ⟨fault, rfl⟩
    | ok values =>
        have read := mapM_eq_ok_iff.mp result
        have present : convert row ∈ values.map Except.ok := read ▸ List.mem_map_of_mem member
        rw [unread] at present
        simp at present

theorem mapM_map {ε : Type} (convert : Row → Except ε α) (change : α → β) (rows : List Row) :
    rows.mapM (fun row => change <$> convert row) = List.map change <$> rows.mapM convert := by
  induction rows with
  | nil => rfl
  | cons row rest ih =>
      rw [List.mapM_cons, List.mapM_cons, ih]
      cases convert row with
      | error error => rfl
      | ok value =>
          cases rest.mapM convert with
          | error error => rfl
          | ok values => rfl

namespace Operation

variable (connection : Connection) (before : List Statement)

theorem play_look (id : ResourceId) (identifier : String) (lookup : Attempt Failure α)
    (attributes : α → Attributes) :
    play connection before (look id identifier lookup attributes) =
      (observed id identifier attributes (play connection before lookup).1,
        (play connection before lookup).2) := by
  simp only [look, play, ExceptT.run_mk]
  rw [← bind_pure_comp, Script.run_bind]
  rfl

theorem observed_found (id : ResourceId) (identifier : String) (attributes : α → Attributes)
    (kind : String) (object : Identifier) (wanted : α → Bool) (found : List α) :
    observed id identifier attributes (findOne kind object wanted found) =
      match found.find? wanted with
      | some entry => .ok (.existing id (some identifier) (attributes entry))
      | none => .ok (.absent id) := by
  rw [findOne]
  cases found.find? wanted with
  | some entry => rfl
  | none => rfl

theorem observed_findOne (lookup : Lookup) {kind : String} {id : ResourceId} {identifier : String}
    {object : Identifier} {ofRow : Row → Conversion α} {idOf : α → Identifier}
    {attributes : α → Attributes} {wanted : α → Bool}
    (shows : lookup.ofRow = fun row => (fun entry => (idOf entry, attributes entry)) <$> ofRow row)
    (wants : wanted = fun entry => decide (idOf entry = object)) (rows : List Row) :
    observed id identifier attributes (do
      let found ← converted (rows.mapM ofRow)
      findOne kind object wanted found) = lookup.state id identifier object rows := by
  rw [Lookup.state, shows, mapM_map, wants]
  cases rows.mapM ofRow with
  | error error => rfl
  | ok found =>
      refine (observed_found id identifier attributes kind object _ found).trans ?_
      show _ = match (found.map fun entry => (idOf entry, attributes entry)).find? _ with
        | some entry => _
        | none => _
      rw [List.find?_map]
      simp only [Function.comp_def]
      cases found.find? fun entry => decide (idOf entry = object) with
      | some entry => rfl
      | none => rfl

theorem play_rows_error {deadline? : Option Nat} {statement : Statement} {failure : Failure}
    (failed : (play connection before (rows deadline? statement)).1 = .error failure) :
    failure.isNotFound = false := by
  by_cases accepted : statement.form.violations = []
  · rw [play_rows_accepted connection deadline? before accepted] at failed
    rcases answer_error connection deadline? before failed with ⟨source, rfl⟩ | ⟨seconds, rfl⟩
    · rfl
    · rfl
  · rw [play_rows_refused connection deadline? before accepted] at failed
    obtain rfl := Except.error.inj failed
    rfl

theorem observed_query (lookup : Lookup) {deadline? : Option Nat} {statement : Statement}
    {kind : String} {id : ResourceId} {identifier : String}
    {object : Identifier} {ofRow : Row → Conversion α} {idOf : α → Identifier}
    {attributes : α → Attributes} {wanted : α → Bool}
    (shows : lookup.ofRow = fun row => (fun entry => (idOf entry, attributes entry)) <$> ofRow row)
    (wants : wanted = fun entry => decide (idOf entry = object)) :
    play connection before (look id identifier (do
      let found ← query deadline? statement ofRow
      ExceptT.mk (.done (findOne kind object wanted found))) attributes) =
    (match (play connection before (rows deadline? statement)).1 with
      | .ok rows => lookup.state id identifier object rows
      | .error failure => .error (.about id (.statement .read id.resourceType failure)),
      (play connection before (rows deadline? statement)).2) := by
  rw [play_look, play_bind_done, play_query]
  refine Prod.ext ?_ rfl
  cases played : (play connection before (rows deadline? statement)).1 with
  | ok rows => exact observed_findOne lookup shows wants rows
  | error failure =>
      show observed id identifier attributes (.error failure) = _
      simp only [observed, play_rows_error connection before played, Bool.false_eq_true, if_false]

theorem play_read_none (config : Config) (id : ResourceId) :
    play connection before (read config id none) = (.ok (.absent id), before) := rfl

theorem play_read_unsupported {config : Config} {id : ResourceId} {identifier : String}
    (unsupported : Lookup.ofType? id.resourceType = none) :
    play connection before (read config id (some identifier)) =
      (.error (.about id (.unsupportedType id.resourceType)), before) := by
  simp only [Lookup.ofType?, read] at unsupported ⊢
  cases kind? : ResourceKind.ofName? id.resourceType with
  | none => rfl
  | some kind =>
      rw [kind?] at unsupported
      cases kind with
      | computePool => simp at unsupported
      | imageRepository => simp at unsupported
      | computePools => rfl
      | imageRepositories => rfl

theorem play_read (config : Config) {id : ResourceId} {lookup : Lookup} (identifier : String)
    (supported : Lookup.ofType? id.resourceType = some lookup) :
    play connection before (read config id (some identifier)) =
      match lookup.ask identifier with
      | .error cause => (.error (.about id cause), before)
      | .ok (object, statement) =>
          (match (play connection before (rows config.statementTimeout? statement)).1 with
            | .ok rows => lookup.state id identifier object rows
            | .error failure => .error (.about id (.statement .read id.resourceType failure)),
            (play connection before (rows config.statementTimeout? statement)).2) := by
  simp only [Lookup.ofType?, read] at supported ⊢
  cases kind? : ResourceKind.ofName? id.resourceType with
  | none => simp [kind?] at supported
  | some kind =>
      rw [kind?] at supported
      cases kind with
      | computePool =>
          obtain rfl := Option.some.inj supported
          simp only [Lookup.pools]
          cases accountId identifier with
          | error cause => rfl
          | ok pool =>
              refine observed_query connection before Lookup.pools rfl ?_
              funext entry
              obtain ⟨name⟩ := pool
              simp [ComputePool.id, AccountId.toIdentifier]
      | imageRepository =>
          obtain rfl := Option.some.inj supported
          simp only [Lookup.repositories]
          cases schemaId identifier with
          | error cause => rfl
          | ok repository =>
              refine observed_query connection before Lookup.repositories rfl ?_
              funext entry
              simp [SchemaId.toIdentifier]
      | computePools => simp at supported
      | imageRepositories => simp at supported

end Operation

end Provision
