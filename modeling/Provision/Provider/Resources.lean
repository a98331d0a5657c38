import Provision.ComputePool
import Provision.ImageRepository
import Provision.Provider.Catalog
import Provision.Provider.Config
import Provision.Provider.Fault

/-!
Compute pools as resources: the attributes a pool shows, and the statements that bring a pool to the
attributes wanted of it.
-/

namespace Provision

namespace PoolResource

open ComputePool

def attributes (pool : ComputePool) : Attributes :=
  let shown : Attributes := .ofList [
    ("name", .string pool.name),
    ("min_nodes", .int pool.minNodes),
    ("max_nodes", .int pool.maxNodes),
    ("instance_family", .string pool.instanceFamily),
    ("auto_resume", .bool pool.autoResume),
    ("auto_suspend_secs", .int pool.autoSuspendSecs),
    ("state", .string pool.state),
    ("owner", .string pool.owner),
    ("created_on", .string pool.createdOn.text)]
  if pool.comment = "" then shown else shown.insert "comment" (.string pool.comment)

def summary (pool : ComputePool) : Value :=
  .map [
    ("name", .string pool.name),
    ("state", .string pool.state),
    ("instance_family", .string pool.instanceFamily),
    ("comment", .string pool.comment)]

def createRequest (wanted : Attributes) : Except FaultCause Create := do
  let name ← wanted.string "name"
  let minNodes ← wanted.int "min_nodes"
  let maxNodes ← wanted.int "max_nodes"
  let instanceFamily ← wanted.string "instance_family"
  let autoResume? ← wanted.bool? "auto_resume"
  let initiallySuspended? ← wanted.bool? "initially_suspended"
  let autoSuspendSecs? ← wanted.int? "auto_suspend_secs"
  let comment? ← wanted.string? "comment"
  return {
    name := ⟨name⟩, minNodes, maxNodes, instanceFamily, autoResume?, initiallySuspended?,
    autoSuspendSecs?, comment? }

def showRequest (wanted : Attributes) : Except FaultCause Show := do
  let like? ← wanted.string? "like"
  let startsWith? ← wanted.string? "starts_with"
  let limit? ← wanted.int? "limit"
  return { like?, startsWith?, limit? := limit?.map fun rows => { rows } }

def isChanged (current wanted : Attributes) (key : String) : Bool :=
  match wanted.get? key with
  | some value => !current.holds key value
  | none => false

def assignment (current wanted : Attributes) : Except FaultCause Assignment := do
  let changed := isChanged current wanted
  let minNodes? ← if changed "min_nodes" then wanted.int? "min_nodes" else .ok none
  let maxNodes? ← if changed "max_nodes" then wanted.int? "max_nodes" else .ok none
  let autoResume? ← if changed "auto_resume" then wanted.bool? "auto_resume" else .ok none
  let autoSuspendSecs? ←
    if changed "auto_suspend_secs" then wanted.int? "auto_suspend_secs" else .ok none
  let comment? ← if changed "comment" then wanted.string? "comment" else .ok none
  return { minNodes?, maxNodes?, autoResume?, autoSuspendSecs?, comment? }

def isCustom (default? : Option Value) (value : Value) : Bool :=
  match default?, value with
  | some default, _ => !value.same default
  | none, .string text => text ≠ ""
  | none, _ => true

/-- Resets an attribute that is no longer wanted, if the pool shows it as anything but reset. -/
def resetFlag (schema : Schema) (current wanted : Attributes) (key : String) : Option Bool :=
  if wanted.contains key then none
  else
    match current.get? key with
    | some value =>
        if isCustom ((schema.attribute? key).bind Attribute.default?) value then some true else none
    | none => none

def reset (schema : Schema) (current wanted : Attributes) : Reset where
  autoSuspendSecs? := resetFlag schema current wanted "auto_suspend_secs"
  autoResume? := resetFlag schema current wanted "auto_resume"
  comment? := resetFlag schema current wanted "comment"

structure Changes where
  reset? : Option Reset
  assignment? : Option Assignment
deriving DecidableEq, Repr

/-- What takes a pool from its current attributes to the wanted ones. Neither part is there where
it would name no property. -/
def changes (schema : Schema) (current wanted : Attributes) : Except FaultCause Changes := do
  let assignment ← assignment current wanted
  let reset := reset schema current wanted
  return {
    reset? := if reset = {} then none else some reset
    assignment? := if assignment = {} then none else some assignment }

end PoolResource

/-!
Image repositories as resources: the attributes a repository shows, and where a repository is when
its own attributes do not say it.
-/

namespace RepositoryResource

open ImageRepository Statement

def attributes (repository : ImageRepository) : Attributes :=
  .ofList [
    ("name", .string repository.name),
    ("database", .string repository.databaseName),
    ("schema", .string repository.schemaName),
    ("repository_url", .string repository.repositoryUrl),
    ("owner", .string repository.owner),
    ("comment", .string repository.comment),
    ("created_on", .string repository.createdOn.text)]

def summary (repository : ImageRepository) : Value :=
  .map [
    ("name", .string repository.name),
    ("database_name", .string repository.databaseName),
    ("schema_name", .string repository.schemaName),
    ("repository_url", .string repository.repositoryUrl),
    ("owner", .string repository.owner),
    ("comment", .string repository.comment)]

def located (wanted : Attributes) (key : String) (default? : Option String) :
    Except FaultCause (Option String) := do
  let given? ← wanted.string? key
  return given?.or default?

def repositoryId (config : Config) (wanted : Attributes) : Except FaultCause SchemaId := do
  let name ← wanted.string "name"
  let database? ← located wanted "database" config.defaultDatabase?
  let schema? ← located wanted "schema" config.defaultSchema?
  match database?, schema? with
  | some database, some schema => return ⟨database, schema, name⟩
  | _, _ => throw .scopeUnknown

/-- A default database narrows a listing only together with a schema. -/
def showRequest (config : Config) (wanted : Attributes) : Except FaultCause Show := do
  let like? ← wanted.string? "like"
  let database? ← located wanted "database" config.defaultDatabase?
  let schema? ← wanted.string? "schema"
  match database?, schema? with
  | some database, some schema => return { like?, scope? := some (.ofSchema ⟨database, schema⟩) }
  | none, some _ => throw .databaseUnknown
  | some database, none =>
      if wanted.contains "database" then
        return { like?, scope? := some (.ofDatabase ⟨database⟩) }
      else return { like? }
  | none, none => return { like? }

end RepositoryResource

end Provision
