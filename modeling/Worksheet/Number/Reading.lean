import Worksheet.Number.Decimal

/-!
Reading numbers as people write them: a sign, digits with a point among them, and an exponent, all
optional but for one digit; or a word for infinity or for what is not a number.
-/

namespace Worksheet

/-- A text of ASCII letters in lower case. -/
def lowercase (text : List Char) : List Char := text.map Char.toLower

/-- Takes a sign off the front of a text; true stands for a minus. -/
def readSign : List Char → Bool × List Char
  | '-' :: rest => (true, rest)
  | '+' :: rest => (false, rest)
  | text => (false, text)

def signedWhole? (text : List Char) : Option Int :=
  let (negative, digits) := readSign text
  if digits.isEmpty || !digits.all Char.isDigit then none
  else
    let n := (ofDigits digits : Int)
    some (if negative then -n else n)

namespace Decimal

/-- The power of ten behind the letter for an exponent; nothing at all stands for zero. -/
def power? : List Char → Option Int
  | [] => some 0
  | 'e' :: text | 'E' :: text => signedWhole? text
  | _ => none

/-- A decimal without its sign. -/
def read? (text : List Char) : Option Decimal :=
  let whole := text.takeWhile Char.isDigit
  let rest := text.dropWhile Char.isDigit
  let (fraction, rest) := match rest with
    | '.' :: rest => (rest.takeWhile Char.isDigit, rest.dropWhile Char.isDigit)
    | _ => ([], rest)
  let digits := whole ++ fraction
  if digits.isEmpty then none
  else (power? rest).map fun power => ⟨ofDigits digits, power - fraction.length⟩

end Decimal

def Number.ofText? (text : List Char) : Option Number :=
  let (negative, text) := readSign text
  match String.ofList (lowercase text) with
  | "inf" | "infinity" => some (.infinite negative)
  | "nan" => some .notANumber
  | _ => (Decimal.read? text).map (Decimal.toNumber negative)

end Worksheet
