import Worksheet.Document
import Worksheet.Number.Decimal

/-!
Numbers as JSON writes them. A literal without fraction and exponent that fits 64 bits is a whole
number. Any other literal is read in two steps: its digits are taken as long as they fit 64 bits,
and the power of ten is then applied by one rounded product or quotient. A result beyond the
finite numbers is an error, one below the smallest is zero.
-/

namespace Worksheet.Json

structure Literal where
  negative : Bool
  whole : List Char
  fraction : Option (List Char) := none
  exponent : Option Int := none
deriving DecidableEq, Repr

/-- Digits taken into 64 bits, and how many powers of ten the digits left out stand for. -/
structure Significand where
  value : Nat := 0
  power : Int := 0
  full : Bool := false
deriving DecidableEq, Repr

namespace Significand

/-- Takes a digit unless there is no room, in which case no later digit is taken either. A digit
before the point moves the power if it is left out, one behind the point if it is taken. -/
def take (behindPoint : Bool) (s : Significand) (c : Char) : Significand :=
  let value := 10 * s.value + digitValue c
  if s.full ∨ Nat.pow 2 64 ≤ value then
    { s with full := true, power := if behindPoint then s.power else s.power + 1 }
  else { s with value := value, power := if behindPoint then s.power - 1 else s.power }

end Significand

def powerOfTen (n : Nat) : Nat := Number.nearestMagnitude (Nat.pow 10 n * Number.unitsPerOne) 1

/-- The largest power of ten that is applied at once. -/
def mostPower : Nat := 308

/-- A magnitude times a power of ten, unless the result is not finite. -/
def scale (magnitude : Nat) (power : Int) : Option Nat :=
  if magnitude = 0 then some 0
  else if 0 ≤ power then
    let product := Number.mulMagnitude magnitude (powerOfTen power.toNat)
    if power ≤ mostPower ∧ product < Number.magnitudes then some product else none
  else if -mostPower ≤ power then
    some (Number.divMagnitude magnitude (powerOfTen (-power).toNat))
  else scale (Number.divMagnitude magnitude (powerOfTen mostPower)) (power + mostPower)
termination_by (-power).toNat
decreasing_by
  simp only [mostPower] at *
  omega

namespace Literal

/-- A whole number in the range of 64 bits, with a sign or without. -/
def integer? (l : Literal) : Option Int :=
  if l.fraction.isSome ∨ l.exponent.isSome then none
  else
    let n := ofDigits l.whole
    if l.negative then if 0 < n ∧ n ≤ Nat.pow 2 63 then some (-n) else none
    else if n < Nat.pow 2 64 then some n else none

/-- The number of a literal read as a real, if it is finite. -/
def real? (l : Literal) : Option Number :=
  let before := l.whole.foldl (Significand.take false) {}
  let s := (l.fraction.getD []).foldl (Significand.take true) { before with full := false }
  let magnitude := Number.nearestMagnitude (s.value * Number.unitsPerOne) 1
  (scale magnitude (s.power + l.exponent.getD 0)).map (Number.ofMagnitude l.negative)

def datum (l : Literal) : Scalar :=
  match l.integer?, l.real? with
  | some n, _ => .integer n
  | none, some x => .real x
  | none, none => .unusable

end Literal

/-! ## Reading literals -/

def readDigits? (text : List Char) : Option (List Char × List Char) :=
  match text.takeWhile Char.isDigit with
  | [] => none
  | digits => some (digits, text.dropWhile Char.isDigit)

/-- A whole number without needless zeros in front. -/
def readWhole? : List Char → Option (List Char × List Char)
  | '0' :: rest => some (['0'], rest)
  | text => readDigits? text

/-- A fraction, if a point follows. -/
def readFraction? : List Char → Option (Option (List Char) × List Char)
  | '.' :: text => (readDigits? text).map fun (digits, rest) => (some digits, rest)
  | text => some (none, text)

def readPower? : List Char → Option (Int × List Char)
  | '-' :: text => (readDigits? text).map fun (digits, rest) => (-ofDigits digits, rest)
  | '+' :: text => (readDigits? text).map fun (digits, rest) => ((ofDigits digits : Int), rest)
  | text => (readDigits? text).map fun (digits, rest) => ((ofDigits digits : Int), rest)

def readExponent? : List Char → Option (Option Int × List Char)
  | 'e' :: text | 'E' :: text => (readPower? text).map fun (power, rest) => (some power, rest)
  | text => some (none, text)

def readUnsigned? (negative : Bool) (text : List Char) : Option (Literal × List Char) := do
  let (whole, text) ← readWhole? text
  let (fraction, text) ← readFraction? text
  let (exponent, text) ← readExponent? text
  return (⟨negative, whole, fraction, exponent⟩, text)

def readLiteral? : List Char → Option (Literal × List Char)
  | '-' :: text => readUnsigned? true text
  | text => readUnsigned? false text

end Worksheet.Json
