import Provision.Identifier
import Provision.Row
import Provision.Statement.Form

/-!
Image repositories as the platform reports them, and the statements on them. A repository cannot be
altered.
-/

namespace Provision

structure ImageRepository where
  createdOn : Instant
  name : String
  databaseName : String
  schemaName : String
  repositoryUrl : String
  owner : String
  ownerRoleType : String
  comment : String
deriving DecidableEq

namespace ImageRepository

def kind : String := "image repository"

def id (repository : ImageRepository) : SchemaId :=
  ⟨repository.databaseName, repository.schemaName, repository.name⟩

structure Record where
  createdOn : Instant
  name : String
  databaseName : String
  schemaName : String
  repositoryUrl : String
  owner : String
  ownerRoleType? : Option String
  comment? : Option String
deriving DecidableEq

namespace Record

def ofRow (row : Row) : Conversion Record := do
  let createdOn ← row.instant "created_on"
  let name ← row.string "name"
  let databaseName ← row.string "database_name"
  let schemaName ← row.string "schema_name"
  let repositoryUrl ← row.string "repository_url"
  let owner ← row.string "owner"
  let ownerRoleType? ← row.string? "owner_role_type"
  let comment? ← row.string? "comment"
  return {
    createdOn, name, databaseName, schemaName, repositoryUrl, owner, ownerRoleType?, comment? }

def toRepository (record : Record) : ImageRepository where
  createdOn := record.createdOn
  name := record.name
  databaseName := record.databaseName
  schemaName := record.schemaName
  repositoryUrl := record.repositoryUrl
  owner := record.owner
  ownerRoleType := record.ownerRoleType?.getD ""
  comment := record.comment?.getD ""

end Record

def ofRow (row : Row) : Conversion ImageRepository := Record.toRepository <$> Record.ofRow row

open Statement

/-- `CREATE [OR REPLACE] IMAGE REPOSITORY [IF NOT EXISTS] <name>` -/
structure Create where
  name : SchemaId
  orReplace? : Option Bool := none
  ifNotExists? : Option Bool := none
deriving DecidableEq, Repr

def Create.form (create : Create) : Form where
  name := "CreateImageRepositoryOptions"
  fields := [
    .fixed "CREATE",
    .keyword "OrReplace" "OR REPLACE" (.ofFlag? create.orReplace?),
    .fixed "IMAGE REPOSITORY",
    .keyword "IfNotExists" "IF NOT EXISTS" (.ofFlag? create.ifNotExists?),
    .target "name" create.name.toIdentifier]
  constraints := []

structure Drop where
  name : SchemaId
  ifExists? : Option Bool := none
deriving DecidableEq, Repr

def Drop.form (drop : Drop) : Form where
  name := "DropImageRepositoryOptions"
  fields := [
    .fixed "DROP",
    .fixed "IMAGE REPOSITORY",
    .keyword "IfExists" "IF EXISTS" (.ofFlag? drop.ifExists?),
    .target "name" drop.name.toIdentifier]
  constraints := []

/-- `SHOW IMAGE REPOSITORIES [LIKE '<pattern>'] [IN ...]` -/
structure Show where
  like? : Option String := none
  scope? : Option Scope := none
deriving DecidableEq, Repr

def Show.form (request : Show) : Form where
  name := "ShowImageRepositoryOptions"
  fields := [
    .fixed "SHOW",
    .fixed "IMAGE REPOSITORIES",
    .block "Like" "LIKE" (request.like?.map likeForm),
    .block "In" "IN" (request.scope?.map Scope.form)]
  constraints := []

end ImageRepository

end Provision
