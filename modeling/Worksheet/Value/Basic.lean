import Worksheet.Dictionary
import Worksheet.Number.Layout

/-!
The values a template can show: texts, numbers, booleans, lists of values, and nothing.
-/

namespace Worksheet

inductive Value
  | null
  | boolean (b : Bool)
  | number (x : Number)
  | text (s : String)
  | list (items : List Value)
deriving Repr, Inhabited

/-- Numbers in a rendered text: never an exponent, no fraction for whole numbers, no sign for
zero. -/
def Value.numberLayout : NumberLayout where
  notANumber := "NaN"
  infinity := "Infinity"
  negativeInfinity := "-Infinity"
  signedZero := false
  fraction := false
  positional := none
  exponentSign := false
  tie := .up

namespace Value

/-- Whether a condition on the value holds. An empty list counts as true. -/
def truthy : Value → Bool
  | null => false
  | boolean b => b
  | number x => !x.isZero && x != .notANumber
  | text s => s != ""
  | list _ => true

def asList? : Value → Option (List Value)
  | list items => some items
  | _ => none

def asText? : Value → Option String
  | text s => some s
  | _ => none

def kindName : Value → String
  | null => "null"
  | boolean _ => "boolean"
  | number _ => "number"
  | text _ => "text"
  | list _ => "list"

mutual

/-- The text a template shows for a value. Elements of a list have commas between them. -/
def toText : Value → String
  | null => ""
  | boolean b => if b then "true" else "false"
  | number x => numberLayout.text x
  | text s => s
  | list items => ",".intercalate (textsOf items)

def textsOf : List Value → List String
  | [] => []
  | v :: rest => v.toText :: textsOf rest

end

mutual

/-- Equality of values as such: numbers are compared as numbers. -/
def equals : Value → Value → Bool
  | null, null => true
  | boolean a, boolean b => a == b
  | number x, number y => x.equals y
  | text s, text t => s == t
  | list xs, list ys => equalItems xs ys
  | _, _ => false

def equalItems : List Value → List Value → Bool
  | [], [] => true
  | x :: xs, y :: ys => x.equals y && equalItems xs ys
  | _, _ => false

end

end Value

/-- The values a rendering starts from, by name. -/
abbrev Context := Dictionary Value

namespace Context

def equals (a b : Context) : Bool :=
  a.keys == b.keys && Value.equalItems (a.entries.map Prod.snd) (b.entries.map Prod.snd)

end Context

end Worksheet
