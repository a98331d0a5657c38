import Provision.Table

/-!
Values of attributes. Two maps are the same value when they hold the same keys with the same
values, in whatever order they were written.
-/

namespace Provision

inductive Value where
  | string (text : String)
  | int (number : Int)
  | bool (truth : Bool)
  | list (items : List Value)
  | map (entries : List (String × Value))
deriving Inhabited

abbrev Attributes := Table Value

namespace Value

def kind : Value → String
  | string _ => "String"
  | int _ => "Int"
  | bool _ => "Bool"
  | list _ => "List"
  | map _ => "Map"

def asString? : Value → Option String
  | string text => some text
  | _ => none

def asInt? : Value → Option Int
  | int number => some number
  | _ => none

def asBool? : Value → Option Bool
  | bool truth => some truth
  | _ => none

mutual

def same : Value → Value → Bool
  | string left, string right => left = right
  | int left, int right => left = right
  | bool left, bool right => left = right
  | list left, list right => sameItems left right
  | map left, map right => left.length = right.length && sameEntries left right
  | _, _ => false

def sameItems : List Value → List Value → Bool
  | [], [] => true
  | left :: restLeft, right :: restRight => left.same right && sameItems restLeft restRight
  | _, _ => false

/-- Each entry on the left has its like on the right. -/
def sameEntries : List (String × Value) → List (String × Value) → Bool
  | [], _ => true
  | (key, left) :: rest, entries =>
      (match firstOf key entries with
        | some right => left.same right
        | none => false) && sameEntries rest entries

end

@[simp] theorem same_string (left right : String) :
    (string left).same (string right) = decide (left = right) := rfl

@[simp] theorem same_int (left right : Int) :
    (int left).same (int right) = decide (left = right) := rfl

@[simp] theorem same_bool (left right : Bool) :
    (bool left).same (bool right) = decide (left = right) := rfl

end Value

def Attributes.holds (attributes : Attributes) (key : String) (value : Value) : Bool :=
  match attributes.get? key with
  | some current => current.same value
  | none => false

/-!
Resources as they are wanted, and states of resources as the platform shows them.
-/

structure ResourceId where
  resourceType : String
  name : String
deriving DecidableEq, Repr

def ResourceId.display (id : ResourceId) : String := id.resourceType ++ "." ++ id.name

structure Resource where
  id : ResourceId
  attributes : Attributes := ∅
  readOnly : Bool := false

inductive State where
  | absent (id : ResourceId)
  /-- The stored form of the identifier leads back to the object. -/
  | existing (id : ResourceId) (identifier? : Option String) (attributes : Attributes)

namespace State

def id : State → ResourceId
  | absent id => id
  | existing id _ _ => id

def identifier? : State → Option String
  | absent _ => none
  | existing _ identifier? _ => identifier?

def attributes : State → Attributes
  | absent _ => ∅
  | existing _ _ attributes => attributes

def exists? : State → Bool
  | absent _ => false
  | existing _ _ _ => true

end State

end Provision
