import Worksheet.Number.Basic

/-!
Decimals: a whole number of digits and a power of ten. A decimal is read exactly and becomes a
number by one rounding. In the other direction `Decimal.shortest` finds the decimal with the
fewest digits that reads back to a number, and of those the one nearest to it.
-/

namespace Worksheet

/-! ## Digits -/

def digitValue (c : Char) : Nat := c.toNat - '0'.toNat

def ofDigits (digits : List Char) : Nat := digits.foldl (fun n c => 10 * n + digitValue c) 0

def digitsOf (n : Nat) : List Char := Nat.toDigits 10 n

/-- The value `coefficient * 10 ^ exponent`. -/
structure Decimal where
  coefficient : Nat
  exponent : Int
deriving DecidableEq, Repr

namespace Decimal

/-- Exponents beyond this leave every number of ordinary length infinite or zero. -/
def farExponent : Int := 400

/-- The number nearest to a decimal. Decimals far outside the range of numbers are settled by
their exponent alone. -/
def toNumber (negative : Bool) (d : Decimal) : Number :=
  let top := d.exponent + (digitsOf d.coefficient).length
  if d.coefficient = 0 ∨ top < -farExponent then .ofMagnitude negative 0
  else if farExponent < top then .infinite negative
  else if 0 ≤ d.exponent then .ofRatio negative (d.coefficient * Nat.pow 10 d.exponent.toNat) 1
  else .ofRatio negative d.coefficient (Nat.pow 10 (-d.exponent).toNat)

/-! ## Shortest decimals -/

/-- What becomes of a value that lies exactly between two decimals of the same length. -/
inductive Tie
  | toEven
  | up
deriving DecidableEq, Repr

/-- The place of the point of a magnitude that is not zero: it lies below ten to this power, and
not below a tenth of it. -/
def pointOf (magnitude : Nat) : Int :=
  let scaled := Number.units magnitude * Nat.pow 10 farExponent.toNat / Number.unitsPerOne
  (digitsOf scaled).length - farExponent

/-- The decimal with the given last place that reads back to a magnitude and lies nearest to it.
The reals that read back reach halfway to the neighbouring magnitudes, and the ends belong to them
exactly if the place of the magnitude in the order is even. -/
def onGrid? (tie : Tie) (magnitude : Nat) (place : Int) : Option Decimal :=
  let up := Nat.pow 10 (-place).toNat
  let grid := Number.unitsPerOne * Nat.pow 10 place.toNat
  let value := Number.units magnitude
  let low := (Number.units (magnitude - 1) + value) * up
  let high := (value + Number.units (magnitude + 1)) * up
  let readsBack (n : Nat) : Bool :=
    if magnitude % 2 = 0 then low ≤ 2 * n * grid && 2 * n * grid ≤ high
    else low < 2 * n * grid && 2 * n * grid < high
  let below := value * up / grid
  let above := below + 1
  let nearer :=
    if 2 * value * up < (below + above) * grid then below
    else if (below + above) * grid < 2 * value * up then above
    else match tie with
      | .up => above
      | .toEven => if below % 2 = 0 then below else above
  match readsBack below, readsBack above with
  | true, true => some ⟨nearer, place⟩
  | true, false => some ⟨below, place⟩
  | false, true => some ⟨above, place⟩
  | false, false => none

/-- Seventeen digits always suffice. -/
def mostDigits : Nat := 17

/-- The decimal with the fewest digits that reads back to a magnitude. -/
def shortest (tie : Tie) (magnitude : Nat) : Decimal :=
  if magnitude = 0 then ⟨0, 0⟩
  else
    let point := pointOf magnitude
    ((List.range mostDigits).findSome? fun (n : Nat) => onGrid? tie magnitude (point - 1 - n)).getD
      ⟨Number.units magnitude, 0⟩

end Decimal

end Worksheet
