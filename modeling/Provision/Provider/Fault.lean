import Provision.Attempt
import Provision.Resource
import Provision.Schema

/-!
Why an operation of a provider failed.
-/

namespace Provision

inductive Action where
  | read
  | create
  | update
  | delete
  | list
deriving DecidableEq, Repr

def Action.verb : Action → String
  | read => "read"
  | create => "create"
  | update => "update"
  | delete => "delete"
  | list => "list"

inductive FaultCause where
  | unsupportedType (resourceType : String)
  | unsupportedDataSource (resourceType : String)
  | invalidAttributes (faults : List AttributeFault)
  | needsReplacement (name : String)
  | notOfAccount (identifier : String)
  | notOfSchema (identifier : String)
  | undecodable (error : Identifier.DecodeError)
  | scopeUnknown
  | databaseUnknown
  | wrongType (key expected : String)
  | unset (key : String)
  | statement (action : Action) (resourceType : String) (failure : Failure)
  | reported (message : String) (because? : Option TypeFault)

namespace FaultCause

def message : FaultCause → String
  | unsupportedType resourceType => "Unsupported resource type: " ++ resourceType
  | unsupportedDataSource resourceType => "Data source '" ++ resourceType ++ "' is not supported"
  | invalidAttributes faults =>
      "Invalid attributes: " ++ Text.joined "; " (faults.map AttributeFault.message)
  | needsReplacement name =>
      "Attribute '" ++ name ++ "' cannot be changed in place, the resource must be replaced"
  | notOfAccount identifier => "Identifier '" ++ identifier ++ "' is not an account-level object"
  | notOfSchema identifier => "Identifier '" ++ identifier ++ "' is not a schema-level object"
  | undecodable _ => "Invalid identifier"
  | scopeUnknown =>
      "Image repository needs a database and a schema (attribute or provider default)"
  | databaseUnknown => "Filtering by schema requires a database"
  | wrongType key expected => "Attribute '" ++ key ++ "' must be " ++ expected
  | unset key => "Missing required attribute '" ++ key ++ "'"
  | statement action resourceType failure =>
      "Failed to " ++ action.verb ++ " " ++ resourceType ++ ": " ++ failure.message
  | reported message _ => message

/-- The messages of what lies behind the fault, the nearest first. -/
def chain : FaultCause → List String
  | undecodable error => [error.message]
  | statement _ _ failure => failure.message :: failure.source?.toList
  | reported _ (some fault) => [fault.message]
  | _ => []

end FaultCause

structure Fault where
  cause : FaultCause
  resource? : Option ResourceId := none

namespace Fault

def message (fault : Fault) : String :=
  match fault.resource? with
  | some id => "[" ++ id.display ++ "] " ++ fault.cause.message
  | none => fault.cause.message

def about (id : ResourceId) (cause : FaultCause) : Fault := ⟨cause, some id⟩

end Fault

/-!
Attributes as arguments of a request: looked up by name and expected to be of a type.
-/

namespace Attributes

variable {α : Type}

def typed? (attributes : Attributes) (key expected : String) (convert? : Value → Option α) :
    Except FaultCause (Option α) :=
  match attributes.get? key with
  | none => .ok none
  | some value =>
      match convert? value with
      | some converted => .ok (some converted)
      | none => .error (.wrongType key expected)

def string? (attributes : Attributes) (key : String) : Except FaultCause (Option String) :=
  attributes.typed? key "a string" Value.asString?

def int? (attributes : Attributes) (key : String) : Except FaultCause (Option Int) :=
  attributes.typed? key "an integer" Value.asInt?

def bool? (attributes : Attributes) (key : String) : Except FaultCause (Option Bool) :=
  attributes.typed? key "a boolean" Value.asBool?

def required (key : String) : Except FaultCause (Option α) → Except FaultCause α
  | .ok (some value) => .ok value
  | .ok none => .error (.unset key)
  | .error cause => .error cause

def string (attributes : Attributes) (key : String) : Except FaultCause String :=
  required key (attributes.string? key)

def int (attributes : Attributes) (key : String) : Except FaultCause Int :=
  required key (attributes.int? key)

end Attributes

end Provision
