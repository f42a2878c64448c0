/-!
Numbers as the template language keeps them: binary floating point with a significand of 53 bits
and exponents down to 2 ^ -1074. The finite magnitudes are numbered from zero in ascending order,
and each is a whole number of units of 2 ^ -1074, so all arithmetic on them is exact arithmetic on
natural numbers followed by one rounding.
-/

namespace Worksheet

abbrev Number.magnitudes : Nat := 2047 * Nat.pow 2 52

/-- A number: the sign of zero is kept, and there is one value that is not a number. -/
inductive Number
  | finite (negative : Bool) (magnitude : Fin Number.magnitudes)
  | infinite (negative : Bool)
  | notANumber
deriving DecidableEq, Repr

namespace Number

/-- The magnitude with a given place in the order, in units of 2 ^ -1074. The first 2 ^ 53 are one
unit apart; from there on the distance doubles after every 2 ^ 52 of them. -/
def units (magnitude : Nat) : Nat :=
  if magnitude < Nat.pow 2 52 then magnitude
  else (Nat.pow 2 52 + magnitude % Nat.pow 2 52) * Nat.pow 2 (magnitude / Nat.pow 2 52 - 1)

def unitsPerOne : Nat := Nat.pow 2 1074

/-- A quotient rounded to a whole number, halves to the even neighbour. -/
def roundQuotient (num den : Nat) : Nat :=
  let q := num / den
  let r := num % den
  if 2 * r < den then q
  else if den < 2 * r then q + 1
  else if q % 2 = 0 then q
  else q + 1

/-- The magnitude nearest to a quotient of units, halves to the even one. A result beyond the
finite magnitudes stands for an overflow. -/
def nearestMagnitude (num den : Nat) : Nat :=
  let exponent := (num / den).log2 - 52
  exponent * Nat.pow 2 52 + roundQuotient num (den * Nat.pow 2 exponent)

/-- The number with a given magnitude, infinite beyond the finite ones. -/
def ofMagnitude (negative : Bool) (magnitude : Nat) : Number :=
  if h : magnitude < magnitudes then finite negative ⟨magnitude, h⟩ else infinite negative

/-- The number nearest to a quotient. -/
def ofRatio (negative : Bool) (num den : Nat) : Number :=
  ofMagnitude negative (nearestMagnitude (num * unitsPerOne) den)

def zero : Number := finite false ⟨0, by decide⟩

def ofNat (n : Nat) : Number := ofRatio false n 1

def ofInt : Int → Number
  | .ofNat n => ofRatio false n 1
  | .negSucc n => ofRatio true (n + 1) 1

def isFinite : Number → Bool
  | finite _ _ => true
  | _ => false

/-- Zero of either sign. -/
def isZero : Number → Bool
  | finite _ m => m.val == 0
  | _ => false

/-- Equality of numbers as such: the zeros are equal, and what is not a number equals nothing. -/
def equals : Number → Number → Bool
  | finite s m, finite t n => m == n && (s == t || m.val == 0)
  | infinite s, infinite t => s == t
  | _, _ => false

/-- The product of two finite magnitudes, rounded. -/
def mulMagnitude (a b : Nat) : Nat := nearestMagnitude (units a * units b) unitsPerOne

/-- The quotient of two finite magnitudes, rounded. -/
def divMagnitude (a b : Nat) : Nat := nearestMagnitude (units a * unitsPerOne) (units b)

end Number

end Worksheet
