import Provision.Schema

/-!
The resources that the provider manages or looks up, with their schemas.
-/

namespace Provision

structure ResourceType where
  name : String
  dataSource : Bool := false
  schema : Schema := { resourceType := name }

inductive ResourceKind where
  | computePool
  | imageRepository
  | computePools
  | imageRepositories
deriving DecidableEq, Repr

namespace ResourceKind

def name : ResourceKind → String
  | computePool => "compute_pool"
  | imageRepository => "image_repository"
  | computePools => "compute_pools"
  | imageRepositories => "image_repositories"

def isDataSource : ResourceKind → Bool
  | computePool | imageRepository => false
  | computePools | imageRepositories => true

def all : List ResourceKind := [computePool, imageRepository, computePools, imageRepositories]

def ofName? (name : String) : Option ResourceKind := all.find? fun kind => kind.name = name

def poolAttributes : List Attribute := [
  { name := "name", type := .string, required := true, replaces := true },
  { name := "min_nodes", type := .positiveInt, required := true },
  { name := "max_nodes", type := .positiveInt, required := true },
  { name := "instance_family", type := .string, required := true, replaces := true },
  { name := "auto_resume", type := .bool, default? := some (.bool true) },
  { name := "initially_suspended", type := .bool, replaces := true,
    default? := some (.bool false) },
  { name := "auto_suspend_secs", type := .nonNegativeInt, default? := some (.int 600) },
  { name := "comment", type := .string },
  { name := "state", type := .string, computed := true },
  { name := "owner", type := .string, computed := true },
  { name := "created_on", type := .string, computed := true }]

def repositoryAttributes : List Attribute := [
  { name := "name", type := .string, required := true, replaces := true },
  { name := "database", type := .string, replaces := true },
  { name := "schema", type := .string, replaces := true },
  { name := "repository_url", type := .string, computed := true },
  { name := "owner", type := .string, computed := true },
  { name := "comment", type := .string, computed := true },
  { name := "created_on", type := .string, computed := true }]

def listing (name : String) : Attribute where
  name := name
  type := .list (.map .string)
  computed := true

def poolsAttributes : List Attribute := [
  { name := "like", type := .string },
  { name := "starts_with", type := .string },
  { name := "limit", type := .positiveInt },
  listing "compute_pools"]

def repositoriesAttributes : List Attribute := [
  { name := "like", type := .string },
  { name := "database", type := .string },
  { name := "schema", type := .string },
  listing "image_repositories"]

def attributes : ResourceKind → List Attribute
  | computePool => poolAttributes
  | imageRepository => repositoryAttributes
  | computePools => poolsAttributes
  | imageRepositories => repositoriesAttributes

def schema (kind : ResourceKind) : Schema := .ofAttributes kind.name kind.attributes

def toType (kind : ResourceKind) : ResourceType where
  name := kind.name
  dataSource := kind.isDataSource
  schema := kind.schema

end ResourceKind

end Provision
