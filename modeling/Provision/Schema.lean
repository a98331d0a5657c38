import Provision.Decimal
import Provision.Resource

/-!
Types of attributes. A value that does not inhabit a type has a fault, which says where in the
value it lies.
-/

namespace Provision

inductive AttributeType where
  | string
  | int
  | bool
  /-- The values of the base that the check has no objection to. -/
  | custom (name : String) (base : AttributeType) (objection? : Value → Option String)
  | list (item : AttributeType)
  | map (entry : AttributeType)

inductive TypeFault where
  | mismatch (expected got : String)
  | rejected (objection : String)
  | atIndex (index : Nat) (inner : TypeFault)
  | atKey (key : String) (inner : TypeFault)
deriving DecidableEq, Repr

def TypeFault.message : TypeFault → String
  | mismatch expected got => "Type mismatch: expected " ++ expected ++ ", got " ++ got
  | rejected objection => "Validation failed: " ++ objection
  | atIndex index inner => "List item at index " ++ Decimal.ofNat index ++ ": " ++ inner.message
  | atKey key inner => "Map value for key '" ++ key ++ "': " ++ inner.message

namespace AttributeType

def display : AttributeType → String
  | string => "String"
  | int => "Int"
  | bool => "Bool"
  | custom name _ _ => name
  | list item => "List<" ++ item.display ++ ">"
  | map entry => "Map<" ++ entry.display ++ ">"

def faultOfItems (fault? : Value → Option TypeFault) : Nat → List Value → Option TypeFault
  | _, [] => none
  | index, item :: rest =>
      match fault? item with
      | some fault => some (.atIndex index fault)
      | none => faultOfItems fault? (index + 1) rest

def faultOfEntries (fault? : Value → Option TypeFault) :
    List (String × Value) → Option TypeFault
  | [] => none
  | (key, value) :: rest =>
      match fault? value with
      | some fault => some (.atKey key fault)
      | none => faultOfEntries fault? rest

def fault? : AttributeType → Value → Option TypeFault
  | string, .string _ => none
  | int, .int _ => none
  | bool, .bool _ => none
  | custom _ base objection?, value => (base.fault? value).or ((objection? value).map .rejected)
  | list item, .list items => faultOfItems item.fault? 0 items
  | map entry, .map entries => faultOfEntries entry.fault? entries
  | expected, value => some (.mismatch expected.display value.kind)

def positiveObjection? : Value → Option String
  | .int number => if number > 0 then none else some "Value must be positive"
  | _ => some "Expected integer"

def nonNegativeObjection? : Value → Option String
  | .int number => if number ≥ 0 then none else some "Value must not be negative"
  | _ => some "Expected integer"

def positiveInt : AttributeType := custom "PositiveInt" int positiveObjection?

def nonNegativeInt : AttributeType := custom "NonNegativeInt" int nonNegativeObjection?

end AttributeType

/-!
Schemas of resources: which attributes a resource of some type has, which of them must be set, and
what their values are. Attributes that a schema does not declare are let through.
-/

structure Attribute where
  name : String
  type : AttributeType
  required : Bool := false
  computed : Bool := false
  replaces : Bool := false
  default? : Option Value := none

structure Schema where
  resourceType : String
  attributes : Table Attribute := ∅

inductive AttributeFault where
  | missing (name : String)
  | computed (name : String)
  | illTyped (fault : TypeFault)
deriving DecidableEq, Repr

def AttributeFault.message : AttributeFault → String
  | missing name => "Required attribute '" ++ name ++ "' is missing"
  | computed name => "Attribute '" ++ name ++ "' is computed and cannot be set"
  | illTyped fault => fault.message

def ascending (texts : List String) : List String := texts.mergeSort fun left right => left ≤ right

namespace Schema

def ofAttributes (resourceType : String) (attributes : List Attribute) : Schema where
  resourceType := resourceType
  attributes := .ofList (attributes.map fun declared => (declared.name, declared))

def attribute? (schema : Schema) (name : String) : Option Attribute := schema.attributes.get? name

def replacing (schema : Schema) : List String :=
  ascending ((schema.attributes.entries.filter (·.2.replaces)).map Prod.fst)

def withDefaults (schema : Schema) (attributes : Attributes) : Attributes :=
  schema.attributes.entries.foldl (fun filled entry =>
    match entry.2.default? with
    | some value => filled.insertNew entry.1 value
    | none => filled) attributes

def missing (schema : Schema) (attributes : Attributes) : List AttributeFault :=
  (schema.attributes.entries.filter fun entry =>
    entry.2.required && !attributes.contains entry.1 && entry.2.default?.isNone).map
      fun entry => .missing entry.1

def faultOf? (schema : Schema) (name : String) (value : Value) : Option AttributeFault :=
  match schema.attribute? name with
  | none => none
  | some declared =>
      if declared.computed then some (.computed name)
      else (declared.type.fault? value).map .illTyped

def misset (schema : Schema) (attributes : Attributes) : List AttributeFault :=
  attributes.entries.filterMap fun entry => schema.faultOf? entry.1 entry.2

def byMessage (faults : List AttributeFault) : List AttributeFault :=
  faults.mergeSort fun left right => left.message ≤ right.message

/-- The missing attributes first, then those that are set and should not be as they are; both in
the order of their messages. -/
def faults (schema : Schema) (attributes : Attributes) : List AttributeFault :=
  byMessage (schema.missing attributes) ++ byMessage (schema.misset attributes)

end Schema

end Provision
