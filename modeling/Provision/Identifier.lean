import Provision.Decimal
import Provision.Text

/-!
Names of platform objects. An object belongs to the account, to a database or to a schema, and its
name has one, two or three segments. A name has two written forms: the qualified name in
statements, and the stored form by which an object is found again.
-/

namespace Provision

structure AccountId where
  name : String
deriving DecidableEq, Repr

structure DatabaseId where
  database : String
  name : String
deriving DecidableEq, Repr

structure SchemaId where
  database : String
  schema : String
  name : String
deriving DecidableEq, Repr

inductive Identifier where
  | account (id : AccountId)
  | database (id : DatabaseId)
  | schema (id : SchemaId)
deriving DecidableEq, Repr

namespace Identifier

def segments : Identifier → List String
  | account id => [id.name]
  | database id => [id.database, id.name]
  | schema id => [id.database, id.schema, id.name]

def name : Identifier → String
  | account id => id.name
  | database id => id.name
  | schema id => id.name

def isControl (char : Char) : Bool := char.toNat < 0x20 || char.toNat = 0x7F

/-- A segment has 1 to 255 characters, none of them a control character or the mark that
separates segments in the stored form. -/
def isSegment (segment : String) : Bool :=
  1 ≤ segment.toList.length && segment.toList.length ≤ 255 &&
    segment.toList.all fun char => !isControl char && char ≠ '|'

/-- Outer segments may be empty, which leaves them out of the qualified name. -/
def isValid (id : Identifier) : Bool :=
  id.name ≠ "" && (id.segments.filter (· ≠ "")).all isSegment

def quotedSegment (segment : String) : String := Text.quoted '"' segment

def qualifiedName (id : Identifier) : String :=
  Text.joined "." ((id.segments.filter (· ≠ "")).map quotedSegment)

/-- Identifiers are compared segment by segment, whatever they are identifiers of. -/
def sameAs (left right : Identifier) : Bool := left.segments = right.segments

def encode (id : Identifier) : String := Text.joined "|" id.segments

structure DecodeError where
  input : String
  parts : Nat
deriving DecidableEq, Repr

def DecodeError.message (error : DecodeError) : String :=
  "cannot decode identifier '" ++ error.input ++ "': expected 1 to 3 '|'-separated parts, got " ++
    Decimal.ofNat error.parts

def decode (text : String) : Except DecodeError Identifier :=
  match (Text.pieces '|' text.toList).map String.ofList with
  | [name] => .ok (account ⟨name⟩)
  | [outer, name] => .ok (database ⟨outer, name⟩)
  | [outer, middle, name] => .ok (schema ⟨outer, middle, name⟩)
  | parts => .error ⟨text, parts.length⟩

end Identifier

def AccountId.toIdentifier (id : AccountId) : Identifier := .account id

def DatabaseId.toIdentifier (id : DatabaseId) : Identifier := .database id

def SchemaId.toIdentifier (id : SchemaId) : Identifier := .schema id

def SchemaId.container (id : SchemaId) : DatabaseId := ⟨id.database, id.schema⟩

end Provision
