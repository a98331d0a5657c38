import Provision.Decimal
import Provision.Statement.Form
import Provision.Text

/-!
The SQL text of a form: the clauses of its fields in order, with spaces between them. Fields that
hold no fitting argument leave no clause.
-/

namespace Provision.Statement

namespace Quoting

/-- A value that is no free text needs no quotation marks. -/
def scalar : Quoting → String → String
  | listed, raw => "(" ++ raw ++ ")"
  | _, raw => raw

def free : Quoting → String → String
  | quoted, raw => Text.quoted '\'' raw
  | quoting, raw => quoting.scalar raw

end Quoting

def Arg.value? (quoting : Quoting) : Arg → Option String
  | int number => some (quoting.scalar (Decimal.ofInt number))
  | bool truth => some (quoting.scalar (if truth then "true" else "false"))
  | text given => some (quoting.free given)
  | ident id => some (quoting.scalar id.qualifiedName)
  | list items => some ("(" ++ Text.joined ", " items ++ ")")
  | unset | flag _ | block _ => none

def keywordClause (sql : String) : Arg → List String
  | .flag true => [sql]
  | .ident id => [sql ++ " " ++ id.qualifiedName]
  | _ => []

def parameterClause (keyword : String) (quoting : Quoting) (equals : Bool) (arg : Arg) :
    List String :=
  match arg.value? quoting with
  | some value => [keyword ++ (if equals then " = " else " ") ++ value]
  | none => []

def nonempty (sql : String) : List String := if sql = "" then [] else [sql]

def targetClause : Arg → List String
  | .ident id => nonempty id.qualifiedName
  | _ => []

mutual

def Form.clauses : Form → List String
  | ⟨_, fields, _⟩ => clausesOf fields

def Field.clauses : Field → List String
  | ⟨_, .block keyword, _, .block form⟩ => nonempty keyword ++ form.clauses
  | ⟨_, .fixed sql, _, _⟩ => [sql]
  | ⟨_, .target, _, arg⟩ => targetClause arg
  | ⟨_, .keyword sql, _, arg⟩ => keywordClause sql arg
  | ⟨_, .parameter keyword quoting equals, _, arg⟩ => parameterClause keyword quoting equals arg
  | ⟨_, .value quoting, _, arg⟩ => (arg.value? quoting).toList
  | _ => []

def clausesOf : List Field → List String
  | [] => []
  | field :: rest => field.clauses ++ clausesOf rest

end

def Form.sql (form : Form) : String := Text.joined " " form.clauses

/-!
Arguments of forms as diagnostics show them.
-/

def Arg.shown : Arg → String
  | unset => "Unset"
  | flag on => "Flag(" ++ Text.shownBool on ++ ")"
  | ident id => "Ident(" ++ id.qualifiedName ++ ")"
  | int number => "Int(" ++ Decimal.ofInt number ++ ")"
  | bool truth => "Bool(" ++ Text.shownBool truth ++ ")"
  | text given => "Text(" ++ Text.shown given ++ ")"
  | list items => "List([" ++ Text.joined ", " (items.map Text.shown) ++ "])"
  | block form => "Block(" ++ form.name ++ ")"

end Provision.Statement
