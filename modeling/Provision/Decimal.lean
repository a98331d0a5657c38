/-!
Integers in decimal: how they are written, and which texts are read as one.
-/

namespace Provision.Decimal

def twoTo (exponent : Nat) : Nat := Nat.pow 2 exponent

def tenTo (exponent : Nat) : Nat := Nat.pow 10 exponent

def ofNat (number : Nat) : String := String.ofList (Nat.toDigits 10 number)

def ofInt : Int → String
  | .ofNat number => ofNat number
  | .negSucc number => "-" ++ ofNat (number + 1)

def padded (width number : Nat) : String :=
  let digits := Nat.toDigits 10 number
  String.ofList (List.replicate (width - digits.length) '0' ++ digits)

def isWord (number : Int) : Bool := -9223372036854775808 ≤ number && number ≤ 9223372036854775807

def natOfDigits? (digits : List Char) : Option Nat :=
  if digits ≠ [] && digits.all Char.isDigit then some (Nat.ofDigitChars 10 digits 0) else none

def word? (text : List Char) : Option Int :=
  let number? := match text with
    | '+' :: digits => (natOfDigits? digits).map Int.ofNat
    | '-' :: digits => (natOfDigits? digits).map fun number => -Int.ofNat number
    | digits => (natOfDigits? digits).map Int.ofNat
  number?.filter isWord

/-!
Magnitudes of 64-bit binary floating point as exact pairs of naturals and powers of two, and
rounding to the nearest of them, a tie to the even one.
-/

/-- The value `mantissa * 2 ^ exponent`. The mantissa has 53 bits, fewer only at the least
exponent. -/
structure Binary64 where
  mantissa : Nat
  exponent : Int
deriving DecidableEq, Repr

namespace Binary64

def leastExponent : Int := -1074

def greatestExponent : Int := 971

def zero : Binary64 := ⟨0, leastExponent⟩

def greatest : Binary64 := ⟨twoTo 53 - 1, greatestExponent⟩

def roundDiv (numerator denominator : Nat) : Nat :=
  let quotient := numerator / denominator
  let twice := 2 * (numerator % denominator)
  if twice > denominator || (twice = denominator && quotient % 2 = 1) then quotient + 1
  else quotient

/-- Rounds the quotient of two naturals; none where it is beyond the greatest magnitude. -/
def ofRatio? (numerator denominator : Nat) : Option Binary64 :=
  if numerator = 0 then some zero
  else
    let scale := (Nat.log2 numerator : Int) - Nat.log2 denominator
    let above := fun exponent : Int =>
      numerator * twoTo (-exponent).toNat ≥ twoTo 52 * (denominator * twoTo exponent.toNat)
    let exponent := max leastExponent (if above (scale - 52) then scale - 52 else scale - 53)
    let mantissa :=
      roundDiv (numerator * twoTo (-exponent).toNat) (denominator * twoTo exponent.toNat)
    let rounded : Binary64 :=
      if mantissa = twoTo 53 then ⟨twoTo 52, exponent + 1⟩ else ⟨mantissa, exponent⟩
    if rounded.exponent > greatestExponent then none else some rounded

def numerator (value : Binary64) : Nat := value.mantissa * twoTo value.exponent.toNat

def denominator (value : Binary64) : Nat := twoTo (-value.exponent).toNat

def times? (left right : Binary64) : Option Binary64 :=
  ofRatio? (left.numerator * right.numerator) (left.denominator * right.denominator)

def over? (left right : Binary64) : Option Binary64 :=
  ofRatio? (left.numerator * right.denominator) (left.denominator * right.numerator)

def greatestPower : Nat := 308

def power? (digits : Nat) : Option Binary64 := ofRatio? (tenTo digits) 1

def shrink? : Nat → Binary64 → Option Binary64
  | 0, value => some value
  | steps + 1, value => do
      let smaller ← value.over? (← power? greatestPower)
      shrink? steps smaller

/-- The magnitude `significand * 10 ^ scale`, reached by rounding the significand and then the
product or quotient with a rounded power of ten. A scale below the least power takes one quotient
for every 308 digits; three of them leave nothing of a significand of 64 bits. -/
def scaled? (significand : Nat) (scale : Int) : Option Binary64 := do
  let value ← ofRatio? significand 1
  if value.mantissa = 0 then
    some zero
  else if scale ≥ 0 then
    if scale.toNat ≤ greatestPower then value.times? (← power? scale.toNat) else none
  else
    let digits := (-scale).toNat
    let steps := (digits - 1) / greatestPower
    if steps ≥ 3 then some zero
    else (← shrink? steps value).over? (← power? (digits - steps * greatestPower))

end Binary64

/-!
The shortest decimal of a binary magnitude: the fewest digits that are read back as the same
magnitude, and among those the nearest. Layouts of such decimals as text.
-/

structure Scaled where
  digits : Nat
  exponent : Int
deriving DecidableEq, Repr

def compareScaled (left : Nat) (power : Int) (right : Nat) (shift : Int) : Ordering :=
  compare (left * tenTo power.toNat * twoTo (-shift).toNat)
    (right * twoTo shift.toNat * tenTo (-power).toNat)

namespace Binary64

def narrowBelow (value : Binary64) : Bool :=
  value.mantissa = twoTo 52 && value.exponent > leastExponent

def readsBack (value : Binary64) (decimal : Scaled) : Bool :=
  let lower := if value.narrowBelow then 4 * value.mantissa - 1 else 4 * value.mantissa - 2
  let upper := 4 * value.mantissa + 2
  let closed := value.mantissa % 2 = 0
  let low := compareScaled decimal.digits decimal.exponent lower (value.exponent - 2)
  let high := compareScaled decimal.digits decimal.exponent upper (value.exponent - 2)
  (low = .gt || (closed && low = .eq)) && (high = .lt || (closed && high = .eq))

def powerAbove (value : Binary64) : Int :=
  let estimate := ((Nat.log2 value.mantissa + value.exponent) * 30103).fdiv 100000 - 1
  let candidates := [estimate, estimate + 1, estimate + 2]
  (candidates.find? fun power =>
    compareScaled 1 power value.mantissa value.exponent = .gt).getD (estimate + 3)

/-- Of the two neighbours of the magnitude on a decimal grid, the one that is read back; of two
the nearer, and of two as near the even one. -/
def onGrid? (value : Binary64) (exponent : Int) : Option Scaled :=
  let below := (value.numerator * tenTo (-exponent).toNat) /
    (value.denominator * tenTo exponent.toNat)
  let lower : Scaled := ⟨below, exponent⟩
  let upper : Scaled := ⟨below + 1, exponent⟩
  match value.readsBack lower, value.readsBack upper with
  | false, false => none
  | true, false => some lower
  | false, true => some upper
  | true, true =>
      match compareScaled (2 * below + 1) exponent (2 * value.mantissa) value.exponent with
      | .gt => some lower
      | .lt => some upper
      | .eq => some (if below % 2 = 0 then lower else upper)

def withoutZeros : Nat → Scaled → Scaled
  | 0, decimal => decimal
  | fuel + 1, decimal =>
      if decimal.digits ≠ 0 && decimal.digits % 10 = 0 then
        withoutZeros fuel ⟨decimal.digits / 10, decimal.exponent + 1⟩
      else decimal

def shortest (value : Binary64) : Scaled :=
  if value.mantissa = 0 then ⟨0, 0⟩
  else
    let power := value.powerAbove
    let grids := (List.range 17).map fun count => power - (Int.ofNat count + 1)
    withoutZeros 17 ((grids.findSome? value.onGrid?).getD ⟨value.mantissa, value.exponent⟩)

end Binary64

structure Layout where
  leastPositional : Int
  greatestPositional : Int

def zeros (count : Int) : List Char := List.replicate count.toNat '0'

/-- A positional decimal has at least one digit on both sides of its point. An exponent has its
sign always, and a point stands before it only where digits follow. -/
def Layout.write (layout : Layout) (decimal : Scaled) : String :=
  let digits := Nat.toDigits 10 decimal.digits
  let whole := digits.length + decimal.exponent
  let power := whole - 1
  if layout.leastPositional ≤ power && power ≤ layout.greatestPositional then
    if whole ≤ 0 then
      String.ofList ('0' :: '.' :: (zeros (-whole) ++ digits))
    else if decimal.exponent ≥ 0 then
      String.ofList (digits ++ zeros decimal.exponent ++ ['.', '0'])
    else
      String.ofList (digits.take whole.toNat ++ '.' :: digits.drop whole.toNat)
  else
    let mantissa := match digits with
      | [] => []
      | [digit] => [digit]
      | first :: rest => first :: '.' :: rest
    String.ofList mantissa ++ "e" ++ (if power < 0 then "-" else "+") ++ ofNat power.natAbs

end Provision.Decimal
