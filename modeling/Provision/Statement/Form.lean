import Provision.Identifier

/-!
Forms of SQL statements. A form is the table of its fields in the order of their clauses; each field
says what part of the statement it is, and holds the argument it has been given. A field can hold a
form of its own, so forms are trees.
-/

namespace Provision.Statement

inductive Quoting where
  | bare
  | quoted
  | listed
deriving DecidableEq, Repr

inductive Role where
  | fixed (sql : String)
  | target
  | keyword (sql : String)
  /-- A keyword and a value, with an equals sign between them or none. -/
  | parameter (keyword : String) (quoting : Quoting) (equals : Bool)
  | value (quoting : Quoting)
  | block (keyword : String)
deriving DecidableEq, Repr

inductive Constraint where
  | exactlyOne (names : List String)
  | atLeastOne (names : List String)
deriving DecidableEq, Repr

mutual

inductive Arg where
  | unset
  | flag (on : Bool)
  | ident (id : Identifier)
  | int (number : Int)
  | bool (truth : Bool)
  | text (text : String)
  | list (items : List String)
  | block (form : Form)

structure Field where
  name : String
  role : Role
  required : Bool
  arg : Arg

structure Form where
  name : String
  fields : List Field
  constraints : List Constraint

end

namespace Arg

def ofFlag? : Option Bool → Arg
  | some on => flag on
  | none => unset

def ofInt? : Option Int → Arg
  | some number => int number
  | none => unset

def ofBool? : Option Bool → Arg
  | some truth => bool truth
  | none => unset

def ofText? : Option String → Arg
  | some given => text given
  | none => unset

def ofIdent? : Option Identifier → Arg
  | some id => ident id
  | none => unset

def ofBlock? : Option Form → Arg
  | some form => block form
  | none => unset

def isPresent : Arg → Bool
  | unset => false
  | _ => true

/-- The argument says nothing that a required field could do with. -/
def isZero : Arg → Bool
  | unset => true
  | int number => number = 0
  | text given => given = ""
  | list items => items.isEmpty
  | ident id => id.name = ""
  | flag _ | bool _ | block _ => false

end Arg

namespace Field

def fixed (sql : String) : Field := ⟨sql, .fixed sql, false, .unset⟩

def target (name : String) (id : Identifier) : Field := ⟨name, .target, false, .ident id⟩

def keyword (name sql : String) (arg : Arg) : Field := ⟨name, .keyword sql, false, arg⟩

def parameter (name keyword : String) (quoting : Quoting) (arg : Arg) : Field :=
  ⟨name, .parameter keyword quoting true, false, arg⟩

def clause (name keyword : String) (quoting : Quoting) (arg : Arg) : Field :=
  ⟨name, .parameter keyword quoting false, false, arg⟩

def value (name : String) (quoting : Quoting) (arg : Arg) : Field :=
  ⟨name, .value quoting, false, arg⟩

def block (name keyword : String) (form? : Option Form) : Field :=
  ⟨name, .block keyword, false, .ofBlock? form?⟩

def needed (field : Field) : Field := { field with required := true }

end Field

namespace Form

def field? (form : Form) (name : String) : Option Field :=
  form.fields.find? fun field => field.name = name

def position? (form : Form) (name : String) : Option Nat :=
  form.fields.findIdx? fun field => field.name = name

def targetOf? (field : Field) : Option String :=
  match field.role, field.arg with
  | .target, .ident id => some id.qualifiedName
  | _, _ => none

def target? (form : Form) : Option String := form.fields.findSome? targetOf?

end Form

/-!
The clauses by which SHOW statements narrow down what they list.
-/

def likeForm (pattern : String) : Form where
  name := "Like"
  fields := [.value "Pattern" .quoted (.text pattern)]
  constraints := []

/-- `LIMIT <rows> [FROM '<name>']` -/
structure Limit where
  rows : Int
  from? : Option String := none
deriving DecidableEq, Repr

def Limit.form (limit : Limit) : Form where
  name := "LimitFrom"
  fields := [
    (Field.value "Rows" .bare (.int limit.rows)).needed,
    .clause "From" "FROM" .quoted (.ofText? limit.from?)]
  constraints := []

/-- `IN ACCOUNT | IN DATABASE <database> | IN SCHEMA <database>.<schema>` -/
structure Scope where
  account? : Option Bool := none
  database? : Option AccountId := none
  schema? : Option DatabaseId := none
deriving DecidableEq, Repr

namespace Scope

def ofDatabase (id : AccountId) : Scope := { database? := some id }

def ofSchema (id : DatabaseId) : Scope := { schema? := some id }

def form (scope : Scope) : Form where
  name := "In"
  fields := [
    .keyword "Account" "ACCOUNT" (.ofFlag? scope.account?),
    .keyword "Database" "DATABASE" (.ofIdent? (scope.database?.map AccountId.toIdentifier)),
    .keyword "Schema" "SCHEMA" (.ofIdent? (scope.schema?.map DatabaseId.toIdentifier))]
  constraints := [.exactlyOne ["Account", "Database", "Schema"]]

end Scope

end Provision.Statement
