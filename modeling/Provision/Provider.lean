import Provision.Attempt
import Provision.ComputePool
import Provision.ImageRepository
import Provision.Provider.Resources

/-!
The provider: how objects are looked up, what an operation on a resource sends and reports, and what
providers have in common.
-/

namespace Provision

namespace ComputePool

def list (deadline? : Option Nat) (request : Show) : Attempt Failure (List ComputePool) :=
  Attempt.query deadline? (.showPools request) ofRow

/-- The pattern is the name itself, which may match other pools too. -/
def find (deadline? : Option Nat) (id : AccountId) : Attempt Failure ComputePool := do
  let pools ← list deadline? { like? := some id.name }
  ExceptT.mk (.done (findOne kind id.toIdentifier (fun pool => pool.name = id.name) pools))

def describe (deadline? : Option Nat) (id : AccountId) : Attempt Failure ComputePool :=
  Attempt.queryFirst deadline? (.describePool ⟨id⟩) kind ofRow

end ComputePool

namespace ImageRepository

def list (deadline? : Option Nat) (request : Show) : Attempt Failure (List ImageRepository) :=
  Attempt.query deadline? (.showRepositories request) ofRow

def find (deadline? : Option Nat) (id : SchemaId) : Attempt Failure ImageRepository := do
  let repositories ←
    list deadline? { like? := some id.name, scope? := some (.ofSchema id.container) }
  ExceptT.mk (.done (findOne kind id.toIdentifier (fun repository => repository.id = id)
    repositories))

end ImageRepository

/-!
The operations on resources. Attributes and identifiers are checked before a statement is sent, and
what an operation reports is what it has just read from the platform.
-/

namespace Operation

variable {α : Type}

def checked (id : ResourceId) : Except FaultCause α → Attempt Fault α
  | .ok value => pure value
  | .error cause => throw (.about id cause)

def performed (action : Action) (id : ResourceId) (attempt : Attempt Failure α) :
    Attempt Fault α :=
  attempt.adapt fun failure => .about id (.statement action id.resourceType failure)

def unsupported (id : ResourceId) : Attempt Fault α :=
  throw (.about id (.unsupportedType id.resourceType))

def kindOf (id : ResourceId) : Attempt Fault ResourceKind :=
  match ResourceKind.ofName? id.resourceType with
  | some kind => pure kind
  | none => unsupported id

def accountId (identifier : String) : Except FaultCause AccountId :=
  match Identifier.decode identifier with
  | .ok (.account id) => .ok id
  | .ok _ => .error (.notOfAccount identifier)
  | .error error => .error (.undecodable error)

def schemaId (identifier : String) : Except FaultCause SchemaId :=
  match Identifier.decode identifier with
  | .ok (.schema id) => .ok id
  | .ok _ => .error (.notOfSchema identifier)
  | .error error => .error (.undecodable error)

def valid (schema : Schema) (attributes : Attributes) : Except FaultCause Unit :=
  match schema.faults attributes with
  | [] => .ok ()
  | faults => .error (.invalidAttributes faults)

def replacement? (schema : Schema) (current wanted : Attributes) : Option String :=
  schema.replacing.find? fun name =>
    match current.get? name, wanted.get? name with
    | some old, some new => !old.same new
    | _, _ => false

/-- The state that a lookup has found. An object that is not there is no failure. -/
def observed (id : ResourceId) (identifier : String) (attributes : α → Attributes) :
    Except Failure α → Except Fault State
  | .ok found => .ok (.existing id (some identifier) (attributes found))
  | .error failure =>
      if failure.isNotFound then .ok (.absent id)
      else .error (.about id (.statement .read id.resourceType failure))

def look (id : ResourceId) (identifier : String) (lookup : Attempt Failure α)
    (attributes : α → Attributes) : Attempt Fault State :=
  ExceptT.mk (observed id identifier attributes <$> lookup.run)

def read (config : Config) (id : ResourceId) (identifier? : Option String) :
    Attempt Fault State :=
  match identifier? with
  | none => pure (.absent id)
  | some identifier =>
      match ResourceKind.ofName? id.resourceType with
      | some .computePool => do
          let pool ← checked id (accountId identifier)
          look id identifier (ComputePool.find config.statementTimeout? pool)
            PoolResource.attributes
      | some .imageRepository => do
          let repository ← checked id (schemaId identifier)
          look id identifier (ImageRepository.find config.statementTimeout? repository)
            RepositoryResource.attributes
      | _ => unsupported id

def create (config : Config) (resource : Resource) : Attempt Fault State := do
  let id := resource.id
  let execute := fun statement =>
    performed .create id (Attempt.execute config.statementTimeout? statement)
  let kind ← kindOf id
  let attributes := kind.schema.withDefaults resource.attributes
  checked id (valid kind.schema attributes)
  match kind with
  | .computePool =>
      let request ← checked id (PoolResource.createRequest attributes)
      execute (.createPool request)
      read config id (some request.name.toIdentifier.encode)
  | .imageRepository =>
      let repository ← checked id (RepositoryResource.repositoryId config attributes)
      execute (.createRepository { name := repository })
      read config id (some repository.toIdentifier.encode)
  | _ => unsupported id

/-- Properties are reset before others are assigned. -/
def alter (config : Config) (id : ResourceId) (pool : AccountId)
    (changes : PoolResource.Changes) : Attempt Fault Unit := do
  let execute := fun alter =>
    performed .update id (Attempt.execute config.statementTimeout? (.alterPool alter))
  if let some reset := changes.reset? then
    execute { name := pool, unset? := some reset }
  if let some assignment := changes.assignment? then
    execute { name := pool, set? := some assignment }

def update (config : Config) (id : ResourceId) (identifier : String) (current : Attributes)
    (wanted : Resource) : Attempt Fault State := do
  let kind ← kindOf id
  checked id (valid kind.schema wanted.attributes)
  if let some name := replacement? kind.schema current wanted.attributes then
    throw (.about wanted.id (.needsReplacement name))
  match kind with
  | .computePool =>
      let pool ← checked id (accountId identifier)
      let changes ← checked id (PoolResource.changes kind.schema current wanted.attributes)
      alter config id pool changes
      read config id (some identifier)
  | .imageRepository =>
      let _ ← checked id (schemaId identifier)
      read config id (some identifier)
  | _ => unsupported id

def delete (config : Config) (id : ResourceId) (identifier : String) : Attempt Fault Unit := do
  let ifExists? := if config.dropIfExists then some true else none
  let execute := fun statement =>
    performed .delete id (Attempt.execute config.statementTimeout? statement)
  match ResourceKind.ofName? id.resourceType with
  | some .computePool =>
      let pool ← checked id (accountId identifier)
      execute (.dropPool { name := pool, ifExists? })
  | some .imageRepository =>
      let repository ← checked id (schemaId identifier)
      execute (.dropRepository { name := repository, ifExists? })
  | _ => unsupported id

/-- Lists the objects of a data source under its own name, beside the attributes it was given. -/
def readDataSource (config : Config) (resource : Resource) : Attempt Fault State := do
  let id := resource.id
  let kind ← kindOf id
  let attributes := resource.attributes
  checked id (valid kind.schema attributes)
  match kind with
  | .computePools =>
      let request ← checked id (PoolResource.showRequest attributes)
      let pools ← performed .list id (ComputePool.list config.statementTimeout? request)
      let items := pools.map PoolResource.summary
      return .existing id none (attributes.insert kind.name (.list items))
  | .imageRepositories =>
      let request ← checked id (RepositoryResource.showRequest config attributes)
      let repositories ← performed .list id (ImageRepository.list config.statementTimeout? request)
      let items := repositories.map RepositoryResource.summary
      return .existing id none (attributes.insert kind.name (.list items))
  | _ => unsupported id

end Operation

/-!
Providers: which resources a provider has, and what can be done with them.
-/

structure Provider where
  name : String
  resourceTypes : List ResourceType
  read : ResourceId → Option String → Attempt Fault State
  create : Resource → Attempt Fault State
  update : ResourceId → String → Attributes → Resource → Attempt Fault State
  delete : ResourceId → String → Attempt Fault Unit
  readDataSource : Resource → Attempt Fault State := fun resource =>
    throw (.about resource.id (.unsupportedDataSource resource.id.resourceType))

def Provider.ofConfig (config : Config) : Provider where
  name := "snowflake"
  resourceTypes := ResourceKind.all.map ResourceKind.toType
  read := Operation.read config
  create := Operation.create config
  update := Operation.update config
  delete := Operation.delete config
  readDataSource := Operation.readDataSource config

end Provision
