import Provision.Instant
import Provision.Json.Basic
import Provision.Table
import Provision.Text

/-!
Rows of query results. Cells are typed loosely: a column is asked for under the type its reader
expects, and text is taken for an integer, a boolean or an instant where it is written as one. A
null cell is read like an absent one.
-/

namespace Provision

inductive Cell where
  | null
  | text (text : String)
  | int (number : Int)
  | bool (truth : Bool)
  | instant (instant : Instant)
deriving DecidableEq

def Cell.shown : Cell → String
  | null => "Null"
  | text given => "Text(" ++ Text.shown given ++ ")"
  | int number => "Int(" ++ Decimal.ofInt number ++ ")"
  | bool truth => "Bool(" ++ Text.shownBool truth ++ ")"
  | instant time => "Timestamp(" ++ time.shown ++ ")"

inductive ConversionCause where
  | missing
  | mismatch (expected : String) (got : Cell)
  | notInteger (text : String)
  | notInstant (text : String) (fault : Instant.ReadingFault)
  | notObject
  | fractional (number : Json.Number)
  | unsupported (value : Json)

def ConversionCause.message : ConversionCause → String
  | missing => "missing or null"
  | mismatch expected got => "expected " ++ expected ++ ", got " ++ got.shown
  | notInteger text => "'" ++ text ++ "' is not an integer"
  | notInstant text fault => "'" ++ text ++ "': " ++ fault.message
  | notObject => "expected a JSON object"
  | fractional number => "number " ++ number.text ++ " is not an integer"
  | unsupported value => "unsupported value " ++ value.compact

structure ConversionError where
  column : String
  cause : ConversionCause

/-- Columns go by their names in lower case. -/
structure Row where
  columns : Table Cell

abbrev Conversion (α : Type) := Except ConversionError α

namespace Row

variable {α : Type}

/-- Only ASCII letters have a lower case here. -/
def lowered (name : String) : String := String.ofList (name.toList.map Char.toLower)

def set (row : Row) (column : String) (cell : Cell) : Row :=
  ⟨row.columns.insert (lowered column) cell⟩

def empty : Row := ⟨.empty⟩

def ofCells (cells : List (String × Cell)) : Row :=
  cells.foldl (fun row entry => row.set entry.1 entry.2) empty

def cellOfJson : Json → Except ConversionCause Cell
  | .null => .ok .null
  | .bool truth => .ok (.bool truth)
  | .number number =>
      match number.toWord? with
      | some word => .ok (.int word)
      | none => .error (.fractional number)
  | .string literal =>
      match literal.toString? with
      | some text => .ok (.text text)
      | none => .error (.unsupported (.string literal))
  | value => .error (.unsupported value)

def setMembers : Row → List (Json.Literal × Json) → Conversion Row
  | row, [] => .ok row
  | row, (name, value) :: rest =>
      match cellOfJson value with
      | .ok cell => (row.set name.lossy cell).setMembers rest
      | .error cause => .error ⟨name.lossy, cause⟩

/-- The members of an object in the order of their names; the first one that is no cell is
reported under its own spelling. -/
def ofJson : Json → Conversion Row
  | .object members => setMembers empty (Json.arranged members)
  | _ => .error ⟨"<row>", .notObject⟩

def get? (row : Row) (column : String) : Option Cell := row.columns.get? column

def given? (row : Row) (column : String) : Option Cell := (row.get? column).filter (· ≠ .null)

def read? (row : Row) (column : String) (convert : Cell → Except ConversionCause α) :
    Conversion (Option α) :=
  match row.given? column with
  | none => .ok none
  | some cell =>
      match convert cell with
      | .ok value => .ok (some value)
      | .error cause => .error ⟨column, cause⟩

def required (column : String) : Conversion (Option α) → Conversion α
  | .ok (some value) => .ok value
  | .ok none => .error ⟨column, .missing⟩
  | .error error => .error error

def textOfCell : Cell → Except ConversionCause String
  | .text text => .ok text
  | other => .error (.mismatch "text" other)

def intOfCell : Cell → Except ConversionCause Int
  | .int number => .ok number
  | .text text =>
      match Decimal.word? (Text.trimmed text.toList) with
      | some number => .ok number
      | none => .error (.notInteger text)
  | other => .error (.mismatch "integer" other)

def boolOfCell : Cell → Except ConversionCause Bool
  | .bool truth => .ok truth
  | .text text =>
      if lowered text = "true" then .ok true
      else if lowered text = "false" then .ok false
      else .error (.mismatch "boolean" (.text text))
  | other => .error (.mismatch "boolean" other)

def instantOfCell : Cell → Except ConversionCause Instant
  | .instant instant => .ok instant
  | .text text =>
      match Instant.read text with
      | .ok instant => .ok instant
      | .error fault => .error (.notInstant text fault)
  | other => .error (.mismatch "timestamp" other)

def string? (row : Row) (column : String) : Conversion (Option String) :=
  row.read? column textOfCell

def int? (row : Row) (column : String) : Conversion (Option Int) := row.read? column intOfCell

def bool? (row : Row) (column : String) : Conversion (Option Bool) := row.read? column boolOfCell

def instant? (row : Row) (column : String) : Conversion (Option Instant) :=
  row.read? column instantOfCell

def string (row : Row) (column : String) : Conversion String := required column (row.string? column)

def int (row : Row) (column : String) : Conversion Int := required column (row.int? column)

def bool (row : Row) (column : String) : Conversion Bool := required column (row.bool? column)

def instant (row : Row) (column : String) : Conversion Instant :=
  required column (row.instant? column)

end Row

end Provision
