import Provision.Decimal
import Provision.Text

/-!
Strings of JSON documents. An escape can stand for half of a surrogate pair, so a literal is a list
of codes, and it is a text only where no half has been left alone.
-/

namespace Provision

namespace Json

structure Literal where
  codes : List Nat
deriving DecidableEq, Repr

def isHighHalf (code : Nat) : Bool := 0xD800 ≤ code && code ≤ 0xDBFF

def isLowHalf (code : Nat) : Bool := 0xDC00 ≤ code && code ≤ 0xDFFF

def isHalf (code : Nat) : Bool := isHighHalf code || isLowHalf code

def paired : List Nat → List Nat
  | high :: low :: rest =>
      if isHighHalf high && isLowHalf low then
        (0x10000 + (high - 0xD800) * 0x400 + (low - 0xDC00)) :: paired rest
      else high :: paired (low :: rest)
  | codes => codes

namespace Literal

def ofString (text : String) : Literal := ⟨text.toList.map Char.toNat⟩

def toString? (literal : Literal) : Option String :=
  if literal.codes.any isHalf then none
  else some (String.ofList (literal.codes.map Char.ofNat))

def lossy (literal : Literal) : String :=
  String.ofList (literal.codes.map fun code =>
    if isHalf code then '\ufffd' else Char.ofNat code)

def escaped (code : Nat) : List Char :=
  let digits := Nat.toDigits 16 code
  '\\' :: 'u' :: (List.replicate (4 - digits.length) '0' ++ digits)

def writtenCode (code : Nat) : List Char :=
  if code = 0x22 then ['\\', '"']
  else if code = 0x5C then ['\\', '\\']
  else if code = 0x8 then ['\\', 'b']
  else if code = 0x9 then ['\\', 't']
  else if code = 0xA then ['\\', 'n']
  else if code = 0xC then ['\\', 'f']
  else if code = 0xD then ['\\', 'r']
  else if code < 0x20 || isHalf code then escaped code
  else [Char.ofNat code]

def write (literal : Literal) : String :=
  String.ofList ('"' :: (literal.codes.flatMap writtenCode ++ ['"']))

end Literal

/-!
Numbers of JSON documents, as they are written and as they are shown. An integer of 64 bits, signed
or unsigned, stands for itself; every other number stands for a binary magnitude.
-/

/-- The digits after the point are kept as they are; there are none where there is no point. -/
structure Number where
  negative : Bool
  whole : Nat
  fraction : List Char
  exponent? : Option Int
deriving DecidableEq, Repr

namespace Number

def ofInt (number : Int) : Number := ⟨number < 0, number.natAbs, [], none⟩

def isInteger (number : Number) : Bool := number.fraction = [] && number.exponent? = none

def toWord? (number : Number) : Option Int :=
  if !number.isInteger then none
  else if number.negative then
    if 0 < number.whole && number.whole ≤ 9223372036854775808 then some (-Int.ofNat number.whole)
    else none
  else if number.whole ≤ 9223372036854775807 then some number.whole
  else none

def unsignedBound : Nat := 18446744073709551616

def toUnsigned? (number : Number) : Option Nat :=
  if number.isInteger && !number.negative && number.whole < unsignedBound then some number.whole
  else none

def absorb : Nat → List Char → Nat × List Char
  | significand, [] => (significand, [])
  | significand, digit :: rest =>
      let next := significand * 10 + (digit.toNat - '0'.toNat)
      if next < unsignedBound then absorb next rest else (significand, digit :: rest)

def magnitude? (number : Number) : Option Decimal.Binary64 :=
  let (high, rest) := absorb 0 (Nat.toDigits 10 number.whole)
  let (significand, ignored) := absorb high number.fraction
  let taken := number.fraction.length - ignored.length
  Decimal.Binary64.scaled? significand (rest.length - taken + number.exponent?.getD 0)

def layout : Decimal.Layout := ⟨-5, 15⟩

/-- A number beyond all magnitudes is shown as the greatest one. -/
def text (number : Number) : String :=
  match number.toWord?, number.toUnsigned? with
  | some word, _ => Decimal.ofInt word
  | none, some unsigned => Decimal.ofNat unsigned
  | none, none =>
      let magnitude := number.magnitude?.getD .greatest
      (if number.negative then "-" else "") ++ layout.write magnitude.shortest

end Number

end Json

/-!
JSON documents. A document is kept as it is written, with the numbers and strings it spells and
with all members of its objects; its compact form has the members in the order of their names, each
name once.
-/

inductive Json where
  | null
  | bool (truth : Bool)
  | number (value : Json.Number)
  | string (literal : Json.Literal)
  | list (items : List Json)
  | object (members : List (Json.Literal × Json))
deriving Inhabited

namespace Json

variable {α : Type}

def ofInt (number : Int) : Json := .number (.ofInt number)

def ofString (text : String) : Json := .string (.ofString text)

def ofMembers (members : List (String × Json)) : Json :=
  .object (members.map fun member => (.ofString member.1, member.2))

def place (name : Literal) (value : α) : List (Literal × α) → List (Literal × α)
  | [] => [(name, value)]
  | (current, present) :: rest =>
      if name = current then (name, value) :: rest
      else if name.codes < current.codes then (name, value) :: (current, present) :: rest
      else (current, present) :: place name value rest

/-- In the order of the names; of several members of one name the last one counts. -/
def arranged (members : List (Literal × α)) : List (Literal × α) :=
  members.foldl (fun placed member => place member.1 member.2 placed) []

def writeMember (member : Literal × String) : String := member.1.write ++ ":" ++ member.2

mutual

def compact : Json → String
  | null => "null"
  | bool truth => if truth then "true" else "false"
  | number value => value.text
  | string literal => literal.write
  | list items => "[" ++ Text.joined "," (compactItems items) ++ "]"
  | object members =>
      "\x7b" ++ Text.joined "," ((arranged (compactMembers members)).map writeMember) ++ "\x7d"

def compactItems : List Json → List String
  | [] => []
  | item :: rest => item.compact :: compactItems rest

def compactMembers : List (Literal × Json) → List (Literal × String)
  | [] => []
  | (name, value) :: rest => (name, value.compact) :: compactMembers rest

end

end Json

end Provision
