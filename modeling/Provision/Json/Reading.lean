import Provision.Json.Basic

/-!
Reading a JSON document from text. A document is one value with blanks around it; nothing may
follow.
-/

namespace Provision.Json.Reading

def isBlank (char : Char) : Bool := char = ' ' || char = '\n' || char = '\r' || char = '\t'

def skipBlanks (text : List Char) : List Char := text.dropWhile isBlank

def hexDigit? (char : Char) : Option Nat :=
  if char.isDigit then some (char.toNat - '0'.toNat)
  else if 'a' ≤ char && char ≤ 'f' then some (char.toNat - 'a'.toNat + 10)
  else if 'A' ≤ char && char ≤ 'F' then some (char.toNat - 'A'.toNat + 10)
  else none

def hexCode? (first second third fourth : Char) : Option Nat := do
  let first ← hexDigit? first
  let second ← hexDigit? second
  let third ← hexDigit? third
  let fourth ← hexDigit? fourth
  some (((first * 16 + second) * 16 + third) * 16 + fourth)

def escape? : Char → Option Nat
  | '"' => some 0x22
  | '\\' => some 0x5C
  | '/' => some 0x2F
  | 'b' => some 0x8
  | 'f' => some 0xC
  | 'n' => some 0xA
  | 'r' => some 0xD
  | 't' => some 0x9
  | _ => none

def codes? : List Char → Option (List Nat × List Char)
  | [] => none
  | '"' :: rest => some ([], rest)
  | '\\' :: 'u' :: first :: second :: third :: fourth :: rest => do
      let code ← hexCode? first second third fourth
      let (codes, rest) ← codes? rest
      some (code :: codes, rest)
  | '\\' :: char :: rest => do
      let code ← escape? char
      let (codes, rest) ← codes? rest
      some (code :: codes, rest)
  | char :: rest =>
      if char = '\\' || char.toNat < 0x20 then none
      else do
        let (codes, rest) ← codes? rest
        some (char.toNat :: codes, rest)

def literal? : List Char → Option (Literal × List Char)
  | '"' :: rest => (codes? rest).map fun read => (⟨paired read.1⟩, read.2)
  | _ => none

def fraction? : List Char → Option (List Char × List Char)
  | '.' :: rest =>
      let digits := rest.takeWhile Char.isDigit
      if digits = [] then none else some (digits, rest.dropWhile Char.isDigit)
  | text => some ([], text)

def sign : List Char → Bool × List Char
  | '-' :: rest => (true, rest)
  | '+' :: rest => (false, rest)
  | text => (false, text)

def exponent? : List Char → Option (Option Int × List Char)
  | [] => some (none, [])
  | mark :: rest =>
      if mark = 'e' || mark = 'E' then
        let (negative, rest) := sign rest
        let digits := rest.takeWhile Char.isDigit
        if digits = [] then none
        else
          let power := Int.ofNat (Nat.ofDigitChars 10 digits 0)
          some (some (if negative then -power else power), rest.dropWhile Char.isDigit)
      else some (none, mark :: rest)

def number? (text : List Char) : Option (Number × List Char) := do
  let (negative, text) := match text with
    | '-' :: rest => (true, rest)
    | rest => (false, rest)
  let whole := text.takeWhile Char.isDigit
  if whole = [] || (whole.head? = some '0' && whole.length > 1) then none
  else
    let (fraction, rest) ← fraction? (text.dropWhile Char.isDigit)
    let (exponent, rest) ← exponent? rest
    some (⟨negative, Nat.ofDigitChars 10 whole 0, fraction, exponent⟩, rest)

mutual

def value? : Nat → List Char → Option (Json × List Char)
  | 0, _ => none
  | fuel + 1, text =>
      match skipBlanks text with
      | 'n' :: 'u' :: 'l' :: 'l' :: rest => some (.null, rest)
      | 't' :: 'r' :: 'u' :: 'e' :: rest => some (.bool true, rest)
      | 'f' :: 'a' :: 'l' :: 's' :: 'e' :: rest => some (.bool false, rest)
      | '"' :: rest => (codes? rest).map fun read => (.string ⟨paired read.1⟩, read.2)
      | '[' :: rest =>
          match skipBlanks rest with
          | ']' :: rest => some (.list [], rest)
          | rest => (items? fuel rest).map fun read => (.list read.1, read.2)
      | '\x7b' :: rest =>
          match skipBlanks rest with
          | '\x7d' :: rest => some (.object [], rest)
          | rest => (members? fuel rest).map fun read => (.object read.1, read.2)
      | text => (number? text).map fun read => (.number read.1, read.2)

def items? : Nat → List Char → Option (List Json × List Char)
  | 0, _ => none
  | fuel + 1, text => do
      let (item, rest) ← value? fuel text
      match skipBlanks rest with
      | ',' :: rest => do
          let (items, rest) ← items? fuel rest
          some (item :: items, rest)
      | ']' :: rest => some ([item], rest)
      | _ => none

def members? : Nat → List Char → Option (List (Literal × Json) × List Char)
  | 0, _ => none
  | fuel + 1, text => do
      let (name, rest) ← literal? (skipBlanks text)
      match skipBlanks rest with
      | ':' :: rest => do
          let (value, rest) ← value? fuel rest
          match skipBlanks rest with
          | ',' :: rest => do
              let (members, rest) ← members? fuel rest
              some ((name, value) :: members, rest)
          | '\x7d' :: rest => some ([(name, value)], rest)
          | _ => none
      | _ => none

end

end Provision.Json.Reading

namespace Provision.Json

/-- Every bracket takes two steps and every other character at most one. -/
def parse? (text : String) : Option Json := do
  let chars := text.toList
  let (document, rest) ← Reading.value? (2 * chars.length + 1) chars
  if Reading.skipBlanks rest = [] then some document else none

end Provision.Json
