import Provision.Proofs.Addressing
import Provision.Proofs.Creation
import Provision.Proofs.ReadSoundness

/-!
The identifier that is stored of a created object leads every later operation back to that object.
A statement that creates is accepted only if no segment of the identifier holds the mark that
separates segments in the stored form, so the stored form is decoded to what it was made of.
-/

namespace Provision

open Attempt

/-- The stored identifier does not lead to an object of the resource type. -/
def FaultCause.isMisshapen : FaultCause → Bool
  | notOfAccount _ | notOfSchema _ | undecodable _ => true
  | _ => false

namespace Operation

structure Has (kind : ObjectKind) (object : Identifier) : Prop where
  valid : object.isValid
  depth : object.segments.length = kind.naming.length

/-- What the stored form of an object is good for, in operations on resources that stand for
objects of the kind: it is decoded to the object, statements write the object as the target says,
and rows are told apart by its segments. -/
structure LeadsBack (kind : ObjectKind) (object : Identifier) (target : String) : Prop where
  written : target = Identifier.written (object.segments.filter (· ≠ "")) ∧ target ≠ ""
  decoded :
    (kind = .computePool ∧ ∃ pool, object = pool.toIdentifier ∧
      accountId object.encode = .ok pool) ∨
    (kind = .imageRepository ∧ ∃ repository, object = repository.toIdentifier ∧
      schemaId object.encode = .ok repository)
  dropped (config : Config) (connection : Connection) (before : List Statement) (id : ResourceId) :
    id.resourceType = kind.resourceType →
      ∃ statement, (play connection before (delete config id object.encode)).2 =
          before ++ [statement] ∧
        statement.effect? = some (.drop, object) ∧ statement.target = target ∧
        statement.sql = "DROP " ++ kind.noun ++ " " ++
          (if config.dropIfExists then "IF EXISTS " else "") ++ target
  altered (config : Config) (connection : Connection) (before : List Statement) (id : ResourceId)
    (current : Attributes) (wanted : Resource) :
    id.resourceType = kind.resourceType →
      ∃ sent, (play connection before (update config id object.encode current wanted)).2 =
          before ++ sent ∧
        ∀ statement ∈ sent, statement.effect? = none ∨
          statement.effect? = some (.alter, object) ∧ statement.target = target ∧
            statement.Addresses ("ALTER " ++ kind.noun) target
  matched (config : Config) (connection : Connection) (before : List Statement) (id : ResourceId)
    (state : State) :
    id.resourceType = kind.resourceType →
      (play connection before (read config id (some object.encode))).1 = .ok state →
      ∃ rows, kind.Answered config connection before
          (play connection before (read config id (some object.encode))).2 object.encode object
          rows ∧
        ((∃ row attributes, kind.FirstShown rows object row attributes ∧
            state = .existing id (some object.encode) attributes) ∨
          (∀ row ∈ rows, ¬kind.Names row object) ∧ state = .absent id)
  shaped (config : Config) (connection : Connection) (before : List Statement) (id : ResourceId)
    (current : Attributes) (wanted : Resource) (fault : Fault) :
    id.resourceType = kind.resourceType →
      (play connection before (read config id (some object.encode))).1 = .error fault ∨
      (play connection before (update config id object.encode current wanted)).1 = .error fault ∨
      (play connection before (delete config id object.encode)).1 = .error fault →
      fault.cause.isMisshapen = false

variable {kind : ObjectKind} {object : Identifier} {id : ResourceId}

theorem Has.stores (has : Has kind object) : kind.Stores object.encode object :=
  ⟨has.depth, Identifier.separator_not_mem has.valid, rfl⟩

theorem Has.decoded (has : Has kind object) :
    (kind = .computePool ∧ ∃ pool, object = pool.toIdentifier ∧
      accountId object.encode = .ok pool) ∨
    (kind = .imageRepository ∧ ∃ repository, object = repository.toIdentifier ∧
      schemaId object.encode = .ok repository) := by
  obtain ⟨valid, depth⟩ := has
  have decoded := Identifier.decode_encode_of_isValid valid
  cases kind with
  | computePool =>
      obtain ⟨pool, rfl⟩ := ObjectKind.exists_account depth
      exact .inl ⟨rfl, pool, rfl, accountId_eq_ok_iff.mpr decoded⟩
  | imageRepository =>
      obtain ⟨repository, rfl⟩ := ObjectKind.exists_schema depth
      exact .inr ⟨rfl, repository, rfl, schemaId_eq_ok_iff.mpr decoded⟩

theorem Has.removed (has : Has kind object) (config : Config)
    (typed : id.resourceType = kind.resourceType) :
    ∃ statement, removal config id object.encode = .ok statement ∧
      statement.effect? = some (.drop, object) ∧ statement.form.violations = [] ∧
      statement.sql = "DROP " ++ kind.noun ++ " " ++
        (if config.dropIfExists then "IF EXISTS " else "") ++ object.qualifiedName := by
  have valid := has.valid
  have named := Identifier.given_ne_nil valid
  let ifExists? := if config.dropIfExists then some true else none
  have sparing : ifExists? = some true ↔ config.dropIfExists := by simp [ifExists?]
  simp only [← sparing]
  rcases has.decoded with ⟨rfl, pool, rfl, decoded⟩ | ⟨rfl, repository, rfl, decoded⟩
  · have known : ResourceKind.ofName? id.resourceType = some .computePool := by rw [typed]; rfl
    refine ⟨.dropPool { name := pool, ifExists? }, ?_, rfl,
      (Statement.dropPool_accepted_iff { name := pool, ifExists? }).mpr valid,
      Statement.sql_of_drop rfl named⟩
    simp only [removal, known, decoded]
    rfl
  · have known : ResourceKind.ofName? id.resourceType = some .imageRepository := by
      rw [typed]; rfl
    refine ⟨.dropRepository { name := repository, ifExists? }, ?_, rfl,
      (Statement.dropRepository_accepted_iff { name := repository, ifExists? }).mpr valid,
      Statement.sql_of_drop rfl named⟩
    simp only [removal, known, decoded]
    rfl

theorem addresses_of_mem_statements {changes : PoolResource.Changes} {pool : AccountId}
    {statement : Statement} (named : pool.toIdentifier.given ≠ [])
    (member : statement ∈ changes.statements pool) :
    statement.Addresses "ALTER COMPUTE POOL" pool.toIdentifier.qualifiedName := by
  simp only [PoolResource.Changes.statements, List.mem_append, List.mem_map] at member
  rcases member with ⟨reset, -, rfl⟩ | ⟨assignment, -, rfl⟩
  · exact Statement.addresses_alterPool named rfl
  · exact Statement.addresses_alterPool named rfl

theorem Has.altered (has : Has kind object) {current : Attributes} {wanted : Resource}
    {statements : List Statement} (typed : id.resourceType = kind.resourceType)
    (derived : alterations id object.encode current wanted = .ok statements) :
    ∀ statement ∈ statements, statement.effect? = some (.alter, object) ∧
      statement.Addresses ("ALTER " ++ kind.noun) object.qualifiedName := by
  intro statement member
  obtain ⟨resourceKind, known, -, -, ⟨rfl, pool, decoded, changes, -, rfl⟩ | ⟨rfl, -, rfl⟩⟩ :=
    alterations_eq_ok_iff.mp derived
  · have pooled := typed.symm.trans (ResourceKind.name_of_ofName? known)
    rcases has.decoded with ⟨rfl, other, rfl, decoded'⟩ | ⟨rfl, -⟩
    · obtain rfl := Except.ok.inj (decoded'.symm.trans decoded)
      exact ⟨PoolResource.Changes.effect?_of_mem member,
        addresses_of_mem_statements (Identifier.given_ne_nil has.valid) member⟩
    · simp [ResourceKind.name, ObjectKind.resourceType] at pooled
  · simp at member

theorem isMisshapen_of_valid {schema : Schema} {attributes : Attributes} {cause : FaultCause}
    (failed : valid schema attributes = .error cause) : cause.isMisshapen = false := by
  obtain ⟨rfl, -⟩ := valid_eq_error_iff.mp failed
  rfl

theorem Has.unaltered (has : Has kind object) {current : Attributes} {wanted : Resource}
    {fault : Fault} (typed : id.resourceType = kind.resourceType)
    (failed : alterations id object.encode current wanted = .error fault) :
    fault.cause.isMisshapen = false := by
  simp only [alterations] at failed
  cases known : ResourceKind.ofName? id.resourceType with
  | none =>
      rw [known] at failed
      exact Except.error.inj failed ▸ rfl
  | some resourceKind =>
      have named := typed.symm.trans (ResourceKind.name_of_ofName? known)
      rw [known] at failed
      rcases bind_eq_error_iff.mp failed with invalid | ⟨_, -, failed⟩
      · obtain ⟨cause, rejected, rfl⟩ := mapError_eq_error_iff.mp invalid
        exact isMisshapen_of_valid rejected
      · split at failed
        next => exact Except.error.inj failed ▸ rfl
        next =>
          obtain ⟨cause, underived, rfl⟩ := mapError_eq_error_iff.mp failed
          show cause.isMisshapen = false
          cases resourceKind with
          | computePool =>
              rcases has.decoded with ⟨-, pool, -, decoded⟩ | ⟨rfl, -⟩
              · simp only [decoded, bind_eq_error_iff, reduceCtorEq, false_or] at underived
                obtain ⟨_, -, underived | ⟨_, -, impossible⟩⟩ := underived
                · obtain ⟨key, expected, rfl⟩ := PoolResource.wrongType_of_changes underived
                  rfl
                · simp [pure, Except.pure] at impossible
              · simp [ResourceKind.name, ObjectKind.resourceType] at named
          | imageRepository =>
              rcases has.decoded with ⟨rfl, -⟩ | ⟨-, repository, -, decoded⟩
              · simp [ResourceKind.name, ObjectKind.resourceType] at named
              · simp [decoded, bind, Except.bind, pure, Except.pure] at underived
          | computePools => exact Except.error.inj underived ▸ rfl
          | imageRepositories => exact Except.error.inj underived ▸ rfl

theorem ifNotExists?_of_createRequest {wanted : Attributes} {request : ComputePool.Create}
    (requested : PoolResource.createRequest wanted = .ok request) :
    request.ifNotExists? = none := by
  simp only [PoolResource.createRequest, bind_eq_ok_iff] at requested
  obtain ⟨_, -, _, -, _, -, _, -, _, -, _, -, _, -, _, -, made⟩ := requested
  obtain rfl := Except.ok.inj made
  rfl

structure Makes (kind : ObjectKind) (statement : Statement) (object : Identifier) : Prop where
  has : Has kind object
  effect : statement.effect? = some (.create, object)
  addresses : statement.Addresses ("CREATE " ++ kind.noun) object.qualifiedName

theorem makes_of_creation {config : Config} {resource : Resource} {statement : Statement}
    (made : creation config resource = .ok (statement, object))
    (accepted : statement.form.violations = []) :
    ∃ kind : ObjectKind, kind.resourceType = resource.id.resourceType ∧
      Makes kind statement object := by
  obtain ⟨resourceKind, known, -,
    ⟨rfl, request, requested, rfl, rfl⟩ | ⟨rfl, repository, -, rfl, rfl⟩⟩ :=
      creation_eq_ok_iff.mp made
  · have valid := ((Statement.createPool_accepted_iff request).mp accepted).1
    exact ⟨.computePool, (ResourceKind.name_of_ofName? known).symm, ⟨valid, rfl⟩, rfl,
      Statement.addresses_createPool (Identifier.given_ne_nil valid)
        (ifNotExists?_of_createRequest requested)⟩
  · have valid := (Statement.createRepository_accepted_iff _).mp accepted
    exact ⟨.imageRepository, (ResourceKind.name_of_ofName? known).symm, ⟨valid, rfl⟩, rfl,
      Statement.addresses_createRepository (Identifier.given_ne_nil valid)⟩

theorem makes_of_created {config : Config} {connection : Connection}
    {before sent : List Statement} {resource : Resource} {statement : Statement}
    (ran : (play connection before (create config resource)).2 = before ++ sent)
    (member : statement ∈ sent) (creates : statement.effect? = some (.create, object)) :
    ∃ kind : ObjectKind, kind.resourceType = resource.id.resourceType ∧
      Makes kind statement object := by
  cases made : creation config resource with
  | error cause =>
      rw [play_create_refused made] at ran
      obtain rfl : sent = [] := by simpa using ran
      simp at member
  | ok creation =>
      obtain ⟨prepared, created⟩ := creation
      rw [play_create_made made] at ran
      obtain ⟨done, rest, asked, split, sends, accepted, looks⟩ :=
        performAll_read_sent connection before config .create resource.id [prepared]
          (some created.encode)
      obtain rfl := List.append_cancel_left (ran.symm.trans sends)
      rcases List.mem_append.mp member with performed | looked
      · have found : statement ∈ [prepared] := split ▸ List.mem_append_left rest performed
        obtain rfl := List.mem_singleton.mp found
        obtain ⟨kind, typed, makes⟩ := makes_of_creation made (accepted statement performed)
        obtain ⟨-, rfl⟩ := Prod.mk.inj (Option.some.inj (creates.symm.trans makes.effect))
        exact ⟨kind, typed, makes⟩
      -- The read-back only looks.
      · simp [looks statement looked] at creates

theorem play_delete_of_has (has : Has kind object) (typed : id.resourceType = kind.resourceType)
    (config : Config) (connection : Connection) (before : List Statement) :
    ∃ statement, (play connection before (delete config id object.encode)).2 =
        before ++ [statement] ∧
      statement.effect? = some (.drop, object) ∧
      (statement.sql = "DROP " ++ kind.noun ++ " " ++
        (if config.dropIfExists then "IF EXISTS " else "") ++ object.qualifiedName) ∧
      ∀ fault, (play connection before (delete config id object.encode)).1 = .error fault →
        fault.cause.isMisshapen = false := by
  obtain ⟨statement, removed, drops, accepted, text⟩ := has.removed config typed
  obtain ⟨result, sent, performance, played⟩ :=
    play_performAll connection before config .delete id [statement]
  rw [play_delete_made removed, played]
  refine ⟨statement, performance.sent_of_accepted accepted, drops, text, ?_⟩
  intro fault failed
  obtain ⟨failure, -, rfl⟩ := mapError_eq_error_iff.mp failed
  rfl

theorem play_read_of_has (has : Has kind object) (typed : id.resourceType = kind.resourceType)
    (config : Config) (connection : Connection) (before : List Statement) (fault : Fault)
    (failed : (play connection before (read config id (some object.encode))).1 = .error fault) :
    fault.cause.isMisshapen = false := by
  have asked := ObjectKind.lookup_ask_eq_ok_iff.mpr ⟨has.stores, rfl⟩
  rcases read_asked connection before (ObjectKind.supported typed) asked with
    ⟨-, refused⟩ | ⟨-, failing⟩
  · rw [refused] at failed
    exact Except.error.inj failed ▸ rfl
  · obtain ⟨failure, -, rfl⟩ := failing fault failed
    rfl

theorem play_update_of_has (has : Has kind object) (typed : id.resourceType = kind.resourceType)
    (config : Config) (connection : Connection) (before : List Statement) (current : Attributes)
    (wanted : Resource) :
    (∃ sent, (play connection before (update config id object.encode current wanted)).2 =
        before ++ sent ∧
      ∀ statement ∈ sent, statement.effect? = none ∨
        statement.effect? = some (.alter, object) ∧
          statement.Addresses ("ALTER " ++ kind.noun) object.qualifiedName) ∧
    ∀ fault,
      (play connection before (update config id object.encode current wanted)).1 = .error fault →
        fault.cause.isMisshapen = false := by
  cases derived : alterations id object.encode current wanted with
  | error fault =>
      rw [play_update_refused derived]
      refine ⟨⟨[], by simp, by simp⟩, ?_⟩
      intro fault' failed
      obtain rfl : fault = fault' := Except.error.inj failed
      exact has.unaltered typed derived
  | ok statements =>
      rw [play_update_made derived]
      obtain ⟨done, rest, asked, split, sends, -, looks⟩ :=
        performAll_read_sent connection before config .update id statements (some object.encode)
      refine ⟨⟨done ++ asked, sends, ?_⟩, ?_⟩
      · intro statement member
        rcases List.mem_append.mp member with performed | looked
        · have altered : statement ∈ statements := split ▸ List.mem_append_left rest performed
          exact .inr (has.altered typed derived statement altered)
        · exact .inl (looks statement looked)
      · intro fault failed
        obtain ⟨result, sent, -, played⟩ :=
          play_performAll connection before config .update id statements
        cases result with
        | error failure =>
            rw [play_bind_error played] at failed
            exact Except.error.inj failed ▸ rfl
        | ok _ =>
            rw [play_bind_ok played] at failed
            exact play_read_of_has has typed config connection sent fault failed

theorem Has.leadsBack (has : Has kind object) : LeadsBack kind object object.qualifiedName where
  written := ⟨rfl, Statement.qualifiedName_ne_empty (Identifier.given_ne_nil has.valid)⟩
  decoded := has.decoded
  dropped config connection before id typed := by
    obtain ⟨statement, sent, drops, text, -⟩ :=
      play_delete_of_has has typed config connection before
    exact ⟨statement, sent, drops, Statement.target_of_effect drops, text⟩
  altered config connection before id current wanted typed := by
    obtain ⟨⟨sent, ran, affects⟩, -⟩ :=
      play_update_of_has has typed config connection before current wanted
    refine ⟨sent, ran, fun statement member => ?_⟩
    rcases affects statement member with looks | ⟨alters, addresses⟩
    · exact .inl looks
    · exact .inr ⟨alters, Statement.target_of_effect alters, addresses⟩
  matched config connection before id state typed reported := by
    rcases ObjectKind.read_rows config connection before object.encode typed with
      ⟨-, fault, failed⟩ | ⟨other, rows, answered, found⟩
    · simp [reported] at failed
    · obtain rfl := has.stores.unique answered.stores
      refine ⟨rows, answered, ?_⟩
      rcases found with ⟨row, attributes, shown, existing⟩ | ⟨unnamed, absent⟩
      · exact .inl ⟨row, attributes, shown, Except.ok.inj (reported.symm.trans existing)⟩
      · exact .inr ⟨unnamed, Except.ok.inj (reported.symm.trans absent)⟩
  shaped config connection before id current wanted fault typed failed := by
    rcases failed with failed | failed | failed
    · exact play_read_of_has has typed config connection before fault failed
    · obtain ⟨-, shaped⟩ :=
        play_update_of_has has typed config connection before current wanted
      exact shaped fault failed
    · obtain ⟨-, -, -, -, shaped⟩ := play_delete_of_has has typed config connection before
      exact shaped fault failed

/-- The stored identifier of whatever a creation sends a statement to create leads back to it, and
to the target that this statement has. -/
theorem created_leadsBack (config : Config) (connection : Connection)
    (before sent : List Statement) (resource : Resource) (statement : Statement)
    (object : Identifier)
    (ran : (play connection before (create config resource)).2 = before ++ sent)
    (member : statement ∈ sent) (creates : statement.effect? = some (.create, object)) :
    ∃ kind : ObjectKind, kind.resourceType = resource.id.resourceType ∧
      statement.Addresses ("CREATE " ++ kind.noun) statement.target ∧
      LeadsBack kind object statement.target := by
  rw [Statement.target_of_effect creates]
  obtain ⟨kind, typed, makes⟩ := makes_of_created ran member creates
  exact ⟨kind, typed, makes.addresses, makes.has.leadsBack⟩

theorem created_schemaless_leadsBack :
    LeadsBack .imageRepository (.schema ⟨"DB", "", "REPO"⟩) "\"DB\".\"REPO\"" := by
  obtain ⟨kind, typed, -, leadsBack⟩ :=
    created_leadsBack {} silent [] [.createRepository { name := ⟨"DB", "", "REPO"⟩ }] schemaless
      (.createRepository { name := ⟨"DB", "", "REPO"⟩ }) (.schema ⟨"DB", "", "REPO"⟩)
      (by rw [createsSchemaless_schemaless.play_create]) List.mem_cons_self rfl
  cases kind with
  | computePool => simp [ObjectKind.resourceType, schemaless] at typed
  | imageRepository => exact leadsBack

end Operation

end Provision
