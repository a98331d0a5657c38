import Provision.Json.Reading
import Provision.Resource

/-!
Settings of the provider, read from the attributes of its block or from a JSON document. Unknown
keys are ignored.
-/

namespace Provision

structure Config where
  /-- Statements that run for more than so many seconds fail. -/
  statementTimeout? : Option Nat := none
  dropIfExists : Bool := false
  defaultDatabase? : Option String := none
  defaultSchema? : Option String := none
deriving DecidableEq, Repr

namespace Config

variable {α : Type}

structure AttributeError where
  key : String
  expected : String
deriving DecidableEq, Repr

def AttributeError.message (error : AttributeError) : String :=
  "Invalid provider attribute '" ++ error.key ++ "': expected " ++ error.expected

def attribute? (attributes : Attributes) (key expected : String) (convert? : Value → Option α) :
    Except AttributeError (Option α) :=
  match attributes.get? key with
  | none => .ok none
  | some value =>
      match convert? value with
      | some converted => .ok (some converted)
      | none => .error ⟨key, expected⟩

def seconds? : Option Int → Except AttributeError (Option Nat)
  | none => .ok none
  | some seconds =>
      if seconds < 0 then .error ⟨"statement_timeout_secs", "a non-negative integer"⟩
      else .ok (some seconds.toNat)

def ofAttributes (attributes : Attributes) : Except AttributeError Config := do
  let timeout? ← attribute? attributes "statement_timeout_secs" "an integer" Value.asInt?
  let statementTimeout? ← seconds? timeout?
  let dropIfExists? ← attribute? attributes "drop_if_exists" "a boolean" Value.asBool?
  let defaultDatabase? ← attribute? attributes "default_database" "a string" Value.asString?
  let defaultSchema? ← attribute? attributes "default_schema" "a string" Value.asString?
  return {
    statementTimeout?, dropIfExists := dropIfExists?.getD false, defaultDatabase?, defaultSchema? }

def timeoutOfJson? : Json → Option (Option Nat)
  | .null => some none
  | .number number => number.toUnsigned?.map some
  | _ => none

def boolOfJson? : Json → Option Bool
  | .bool truth => some truth
  | _ => none

def textOfJson? : Json → Option (Option String)
  | .null => some none
  | .string literal => literal.toString?.map some
  | _ => none

def field? (convert? : Json → Option α) (default : α) : Option Json → Option α
  | none => some default
  | some value => convert? value

def ofFields? (timeout? dropIfExists? database? schema? : Option Json) : Option Config := do
  let statementTimeout? ← field? timeoutOfJson? none timeout?
  let dropIfExists ← field? boolOfJson? false dropIfExists?
  let defaultDatabase? ← field? textOfJson? none database?
  let defaultSchema? ← field? textOfJson? none schema?
  some { statementTimeout?, dropIfExists, defaultDatabase?, defaultSchema? }

/-- The only member of that name, if there is one; a member may not be repeated. -/
def member? (members : List (Json.Literal × Json)) (name : String) : Option (Option Json) :=
  match members.filter fun member => member.1 = .ofString name with
  | [] => some none
  | [member] => some (some member.2)
  | _ => none

/-- An array has the fields in the order of their declaration; the last ones may be left out. -/
def ofDocument? : Json → Option Config
  | .object members => do
      if !members.all fun member => member.1.toString?.isSome then none
      let timeout? ← member? members "statement_timeout_secs"
      let dropIfExists? ← member? members "drop_if_exists"
      let database? ← member? members "default_database"
      let schema? ← member? members "default_schema"
      ofFields? timeout? dropIfExists? database? schema?
  | .list items =>
      if items.length > 4 then none else ofFields? items[0]? items[1]? items[2]? items[3]?
  | _ => none

def ofJson? (text : String) : Option Config := do ofDocument? (← Json.parse? text)

end Config

end Provision
