import Provision.ComputePool
import Provision.ImageRepository
import Provision.Statement.Form
import Provision.Statement.Shown

/-!
What is wrong with a form. A form reports its fields first, then the constraints on them, then the
forms that its fields hold, each under the path of the fields that lead to it.
-/

namespace Provision

namespace Statement

inductive Violation where
  | noForm
  | invalidIdentifier (field : String)
  | missing (owner field : String)
  | notExactlyOne (owner : String) (names : List String)
  | noneOf (owner : String) (names : List String)
deriving DecidableEq, Repr

def Violation.message : Violation → String
  | noForm => "options cannot be nil"
  | invalidIdentifier field => "invalid object identifier for field " ++ field
  | missing owner field => owner ++ "." ++ field ++ " is required"
  | notExactlyOne owner names =>
      "exactly one of " ++ owner ++ " fields [" ++ Text.joined " " names ++ "] must be set"
  | noneOf owner names =>
      "at least one of " ++ owner ++ " fields [" ++ Text.joined " " names ++ "] must be set"

def Violation.summary (violations : List Violation) : String :=
  Text.joined "; " (violations.map message)

/-- An invalid identifier is one violation, also where it is required and empty; a valid one is
never empty. -/
def Field.violation? (owner : String) (field : Field) : Option Violation :=
  match field.arg with
  | .ident id => if id.isValid then none else some (.invalidIdentifier field.name)
  | arg => if field.required && arg.isZero then some (.missing owner field.name) else none

def presentCount (fields : List Field) (names : List String) : Nat :=
  (names.filter fun name =>
    match fields.find? fun field => field.name = name with
    | some field => field.arg.isPresent
    | none => false).length

def Constraint.violation? (owner : String) (fields : List Field) : Constraint → Option Violation
  | exactlyOne names =>
      if presentCount fields names ≠ 1 then some (.notExactlyOne owner names) else none
  | atLeastOne names => if presentCount fields names = 0 then some (.noneOf owner names) else none

mutual

def Form.violationsUnder (owner : String) : Form → List Violation
  | ⟨_, fields, constraints⟩ =>
      fields.filterMap (Field.violation? owner) ++
        constraints.filterMap (Constraint.violation? owner fields) ++
        violationsWithin owner fields

def Field.violationsWithin (owner : String) : Field → List Violation
  | ⟨name, _, _, .block form⟩ => form.violationsUnder (owner ++ "." ++ name)
  | _ => []

def violationsWithin (owner : String) : List Field → List Violation
  | [] => []
  | field :: rest => field.violationsWithin owner ++ violationsWithin owner rest

end

def Form.violations (form : Form) : List Violation := form.violationsUnder form.name

def violations? : Option Form → List Violation
  | none => [.noForm]
  | some form => form.violations

end Statement

/-!
The statements that are sent to the platform.
-/

inductive Statement where
  | createPool (request : ComputePool.Create)
  | alterPool (request : ComputePool.Alter)
  | dropPool (request : ComputePool.Drop)
  | showPools (request : ComputePool.Show)
  | describePool (request : ComputePool.Describe)
  | createRepository (request : ImageRepository.Create)
  | dropRepository (request : ImageRepository.Drop)
  | showRepositories (request : ImageRepository.Show)
deriving DecidableEq, Repr

namespace Statement

def form : Statement → Form
  | createPool request => request.form
  | alterPool request => request.form
  | dropPool request => request.form
  | showPools request => request.form
  | describePool request => request.form
  | createRepository request => request.form
  | dropRepository request => request.form
  | showRepositories request => request.form

def sql (statement : Statement) : String := statement.form.sql

def operation (statement : Statement) : String := statement.form.name

/-- Empty for a statement that is about no single object. -/
def target (statement : Statement) : String := statement.form.target?.getD ""

end Statement

end Provision
