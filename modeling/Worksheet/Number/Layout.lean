import Worksheet.Number.Decimal

/-!
Texts of numbers. All layouts write the fewest digits that read back to the number; a
`NumberLayout` says what a layout decides for itself.
-/

namespace Worksheet

/-- What a way to write numbers decides. -/
structure NumberLayout where
  /-- The text of what is not a number. -/
  notANumber : String
  infinity : String
  negativeInfinity : String
  /-- Whether a negative zero shows its sign. -/
  signedZero : Bool
  /-- Whether a whole number written without an exponent ends in a point and a zero. -/
  fraction : Bool
  /-- The powers of ten of a leading digit that are written without an exponent, if not all. -/
  positional : Option (Int × Int)
  /-- Whether an exponent that is not negative has a sign. -/
  exponentSign : Bool
  tie : Decimal.Tie

namespace NumberLayout

/-- Digits with a point before the digit at place `point`; places without a digit hold zeros. -/
def positionalText (layout : NumberLayout) (digits : List Char) (point : Int) : List Char :=
  if point ≤ 0 then '0' :: '.' :: (List.replicate (-point).toNat '0' ++ digits)
  else if point.toNat < digits.length then
    digits.take point.toNat ++ '.' :: digits.drop point.toNat
  else
    digits ++ List.replicate (point.toNat - digits.length) '0' ++
      (if layout.fraction then ['.', '0'] else [])

/-- A leading digit, the others behind a point, and the power of ten of the leading digit. -/
def exponentText (layout : NumberLayout) (digits : List Char) (power : Int) : List Char :=
  let sign := if power < 0 then ['-'] else if layout.exponentSign then ['+'] else []
  let mantissa := match digits with
    | first :: second :: rest => first :: '.' :: second :: rest
    | _ => digits
  mantissa ++ 'e' :: (sign ++ digitsOf power.natAbs)

def magnitudeText (layout : NumberLayout) (magnitude : Nat) : List Char :=
  if magnitude = 0 then if layout.fraction then ['0', '.', '0'] else ['0']
  else
    let d := Decimal.shortest layout.tie magnitude
    let all := digitsOf d.coefficient
    let digits := (all.reverse.dropWhile (· == '0')).reverse
    let point := d.exponent + all.length
    match layout.positional with
    | none => layout.positionalText digits point
    | some (low, high) =>
      if low ≤ point - 1 ∧ point - 1 ≤ high then layout.positionalText digits point
      else layout.exponentText digits (point - 1)

def text (layout : NumberLayout) : Number → String
  | .notANumber => layout.notANumber
  | .infinite false => layout.infinity
  | .infinite true => layout.negativeInfinity
  | .finite negative magnitude =>
    let digits := layout.magnitudeText magnitude
    if negative && (magnitude.val != 0 || layout.signedZero) then String.ofList ('-' :: digits)
    else String.ofList digits

end NumberLayout

end Worksheet
