import Worksheet.Document
import Worksheet.Json.Quoted
import Worksheet.Number.Reading

/-!
Numbers, booleans and dates of TOML. Underscores may stand between the digits of a number. Dates
are recognized but of no use to the program.
-/

namespace Worksheet.Toml

/-- Digits without the underscores between them. An underscore needs a digit on both sides. -/
def digits? (isDigit : Char → Bool) : List Char → Option (List Char)
  | [] => none
  | [c] => if isDigit c then some [c] else none
  | c :: '_' :: rest => if isDigit c then (digits? isDigit rest).map (c :: ·) else none
  | c :: rest => if isDigit c then (digits? isDigit rest).map (c :: ·) else none

/-- Whether decimal digits have a zero in front that says nothing. -/
def hasLeadingZero : List Char → Bool
  | '0' :: _ :: _ => true
  | _ => false

/-- A whole number in a base that is a power of two. -/
def based? (base : Nat) (text : List Char) : Option Int := do
  let isDigit (c : Char) : Bool := ((Json.hexValue? c).map fun n => decide (n < base)).getD false
  let digits ← digits? isDigit text
  return (digits.foldl (fun n c => base * n + (Json.hexValue? c).getD 0) 0 : Nat)

def decimal? (text : List Char) : Option Int := do
  let (negative, text) := readSign text
  let digits ← digits? Char.isDigit text
  if hasLeadingZero digits then none
  else
    let n := (ofDigits digits : Int)
    return if negative then -n else n

def integer? : List Char → Option Int
  | '0' :: 'x' :: text => based? 16 text
  | '0' :: 'o' :: text => based? 8 text
  | '0' :: 'b' :: text => based? 2 text
  | text => decimal? text

def exponent? : List Char → Option Int
  | [] => some 0
  | 'e' :: text | 'E' :: text => do
    let (negative, text) := readSign text
    let n := (ofDigits (← digits? Char.isDigit text) : Int)
    return if negative then -n else n
  | _ => none

/-- A number with a fraction or an exponent or both. -/
def fractional? (negative : Bool) (text : List Char) : Option Number := do
  let isPart (c : Char) : Bool := c.isDigit || c == '_'
  let whole ← digits? Char.isDigit (text.takeWhile isPart)
  if hasLeadingZero whole then none
  else
    match text.dropWhile isPart with
    | [] => none
    | '.' :: rest =>
      let fraction ← digits? Char.isDigit (rest.takeWhile isPart)
      let power ← exponent? (rest.dropWhile isPart)
      return Decimal.toNumber negative ⟨ofDigits (whole ++ fraction), power - fraction.length⟩
    | rest => return Decimal.toNumber negative ⟨ofDigits whole, ← exponent? rest⟩

def real? (text : List Char) : Option Number :=
  let (negative, text) := readSign text
  match text with
  | ['i', 'n', 'f'] => some (.infinite negative)
  | ['n', 'a', 'n'] => some .notANumber
  | text => fractional? negative text

/-! ## Dates -/

/-- The number that a given count of digits stands for. -/
def fixed? (count : Nat) (text : List Char) : Option (Nat × List Char) :=
  let digits := text.take count
  if digits.length = count ∧ digits.all Char.isDigit then some (ofDigits digits, text.drop count)
  else none

def daysIn (year month : Nat) : Nat :=
  if month = 2 then if year % 4 = 0 ∧ (year % 100 ≠ 0 ∨ year % 400 = 0) then 29 else 28
  else if month = 4 ∨ month = 6 ∨ month = 9 ∨ month = 11 then 30
  else 31

def expect? (c : Char) : List Char → Option (List Char)
  | d :: rest => if c = d then some rest else none
  | [] => none

def readDate? (text : List Char) : Option (List Char) := do
  let (year, text) ← fixed? 4 text
  let (month, text) ← fixed? 2 (← expect? '-' text)
  let (day, text) ← fixed? 2 (← expect? '-' text)
  if 1 ≤ month ∧ month ≤ 12 ∧ 1 ≤ day ∧ day ≤ daysIn year month then some text else none

def readFraction? : List Char → Option (List Char)
  | '.' :: text => if text.head?.any Char.isDigit then some (text.dropWhile Char.isDigit) else none
  | text => some text

def readTime? (text : List Char) : Option (List Char) := do
  let (hour, text) ← fixed? 2 text
  let (minute, text) ← fixed? 2 (← expect? ':' text)
  let (second, text) ← fixed? 2 (← expect? ':' text)
  let text ← readFraction? text
  if hour ≤ 23 ∧ minute ≤ 59 ∧ second ≤ 60 then some text else none

/-- Whether a text is the distance of a clock from the common one, or nothing. -/
def isOffset : List Char → Bool
  | [] | ['Z'] | ['z'] => true
  | sign :: text =>
    (sign == '+' || sign == '-') &&
      match fixed? 2 text with
      | some (hour, ':' :: text) =>
        match fixed? 2 text with
        | some (minute, []) => hour ≤ 23 && minute ≤ 59
        | _ => false
      | _ => false

/-- Whether a text is a date, a time, or both. -/
def isMoment (text : List Char) : Bool :=
  match readDate? text with
  | some [] => true
  | some (c :: text) =>
    (c == 'T' || c == 't' || c == ' ') && ((readTime? text).map isOffset).getD false
  | none => readTime? text == some []

def scalar? (text : List Char) : Option Scalar :=
  match String.ofList text with
  | "true" => some (.boolean true)
  | "false" => some (.boolean false)
  | _ =>
    match integer? text, real? text with
    | some n, _ => some (.integer n)
    | none, some x => some (.real x)
    | none, none => if isMoment text then some .unusable else none

end Worksheet.Toml
