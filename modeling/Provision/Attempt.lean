import Provision.Row
import Provision.Statement

/-!
Why a statement did not give what was asked of it.
-/

namespace Provision

inductive Failure where
  | refused (violations : List Statement.Violation)
  | execution (operation target source : String)
  | notFound (kind id : String)
  | conversion (error : ConversionError)
  | timeout (operation : String) (seconds : Nat)

namespace Failure

def message : Failure → String
  | refused violations => Statement.Violation.summary violations
  | execution operation target source =>
      operation ++ " on " ++ target ++ " failed: " ++ source
  | notFound kind id => kind ++ " " ++ id ++ " not found"
  | conversion error =>
      "Cannot convert column '" ++ error.column ++ "': " ++ error.cause.message
  | timeout operation seconds =>
      operation ++ " timed out after " ++ Decimal.ofNat seconds ++ "s"

def isNotFound : Failure → Bool
  | notFound _ _ => true
  | _ => false

def source? : Failure → Option String
  | execution _ _ source => some source
  | _ => none

end Failure

def findOne {α : Type} (kind : String) (id : Identifier) (wanted : α → Bool) (items : List α) :
    Except Failure α :=
  match items.find? wanted with
  | some item => .ok item
  | none => .error (.notFound kind id.qualifiedName)

/-!
Conversations with the platform. A script sends statements one after the other and decides by each
reply how it goes on; it is run against a connection, which may answer anything. Nothing is sent
twice.
-/

/-- The delay is in milliseconds. -/
structure Reply where
  delay : Nat
  outcome : Except String (List Row)

/-- Answers a statement, given the statements before it. -/
abbrev Connection := List String → String → Reply

inductive Script (α : Type) where
  | done (result : α)
  | send (statement : Statement) (next : Reply → Script α)

namespace Script

variable {α β : Type}

def andThen : Script α → (α → Script β) → Script β
  | done result, next => next result
  | send statement rest, next => send statement fun reply => (rest reply).andThen next

instance : Monad Script where
  pure := done
  bind := andThen

theorem andThen_done (script : Script α) : script.andThen done = script := by
  induction script with
  | done result => rfl
  | send statement rest ih => simp only [andThen, ih]

theorem andThen_assoc {γ : Type} (script : Script α) (next : α → Script β)
    (last : β → Script γ) :
    (script.andThen next).andThen last =
      script.andThen fun result => (next result).andThen last := by
  induction script with
  | done result => rfl
  | send statement rest ih => simp only [andThen, ih]

instance : LawfulMonad Script :=
  .mk' Script andThen_done (fun _ _ => rfl) andThen_assoc

def run (connection : Connection) : List Statement → Script α → α × List Statement
  | sent, done result => (result, sent)
  | sent, send statement next =>
      let reply := connection (sent.map Statement.sql) statement.sql
      run connection (sent ++ [statement]) (next reply)

end Script

/-!
Scripts that may fail. A statement is checked before it is sent, and its reply is given up when it
comes after the deadline.
-/

abbrev Attempt (ε α : Type) := ExceptT ε Script α

namespace Attempt

variable {α : Type}

/-- A reply in time is not later than the deadline, which is in seconds. -/
def settle (deadline? : Option Nat) (statement : Statement) (reply : Reply) :
    Except Failure (List Row) :=
  let outcome := match reply.outcome with
    | .ok rows => .ok rows
    | .error source => .error (.execution statement.operation statement.target source)
  match deadline? with
  | some seconds =>
      if reply.delay > seconds * 1000 then .error (.timeout statement.operation seconds)
      else outcome
  | none => outcome

/-- A statement is sent only if nothing is wrong with its form. -/
def rows (deadline? : Option Nat) (statement : Statement) : Attempt Failure (List Row) :=
  ExceptT.mk <|
    match statement.form.violations with
    | [] => .send statement fun reply => .done (settle deadline? statement reply)
    | violations => .done (.error (.refused violations))

def execute (deadline? : Option Nat) (statement : Statement) : Attempt Failure Unit := do
  let _ ← rows deadline? statement

def converted (conversion : Conversion α) : Except Failure α :=
  match conversion with
  | .ok value => .ok value
  | .error error => .error (.conversion error)

def query (deadline? : Option Nat) (statement : Statement) (ofRow : Row → Conversion α) :
    Attempt Failure (List α) := do
  let rows ← rows deadline? statement
  ExceptT.mk (.done (converted (rows.mapM ofRow)))

def queryFirst (deadline? : Option Nat) (statement : Statement) (kind : String)
    (ofRow : Row → Conversion α) : Attempt Failure α := do
  match ← rows deadline? statement with
  | [] => throw (.notFound kind statement.target)
  | row :: _ => ExceptT.mk (.done (converted (ofRow row)))

end Attempt

end Provision
