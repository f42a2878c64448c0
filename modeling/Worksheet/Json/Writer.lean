import Worksheet.Json.Basic
import Worksheet.Json.Quoted
import Worksheet.Number.Layout

/-!
Writing JSON: on one line without blanks, or spread over lines with an indent of two blanks for
each level.
-/

namespace Worksheet

/-- Numbers in JSON: a fraction is always shown, and very large and very small numbers have an
exponent with a sign. What is not finite has no JSON form and becomes null. -/
def Json.numberLayout : NumberLayout where
  notANumber := "null"
  infinity := "null"
  negativeInfinity := "null"
  signedZero := true
  fraction := true
  positional := some (-5, 15)
  exponentSign := true
  tie := .toEven

namespace Json

/-- Stretches of text with commas between them. -/
def separated (comma : List Char) (parts : List (List Char)) : List Char :=
  (parts.intersperse comma).flatten

mutual

def write : Json → List Char
  | null => ['n', 'u', 'l', 'l']
  | boolean b => (if b then "true" else "false").toList
  | integer n => (toString n).toList
  | real x => (numberLayout.text x).toList
  | string s => quote s
  | array items => '[' :: (separated [','] (writeItems items) ++ [']'])
  | object members => '\x7b' :: (separated [','] (writeMembers members) ++ ['\x7d'])

def writeItems : List Json → List (List Char)
  | [] => []
  | j :: rest => j.write :: writeItems rest

def writeMembers : List (String × Json) → List (List Char)
  | [] => []
  | (name, j) :: rest => (quote name ++ ':' :: j.write) :: writeMembers rest

end

def compact (j : Json) : String := String.ofList j.write

def newLine (level : Nat) : List Char := '\n' :: List.replicate (2 * level) ' '

/-- Parts of a container on lines of their own; an empty container stays on one line. -/
def enclosed (opening closing : Char) (level : Nat) (parts : List (List Char)) : List Char :=
  if parts.isEmpty then [opening, closing]
  else
    opening :: (newLine (level + 1) ++ separated (',' :: newLine (level + 1)) parts ++
      newLine level ++ [closing])

mutual

def spread (level : Nat) : Json → List Char
  | array items => enclosed '[' ']' level (spreadItems (level + 1) items)
  | object members => enclosed '\x7b' '\x7d' level (spreadMembers (level + 1) members)
  | j => j.write

def spreadItems (level : Nat) : List Json → List (List Char)
  | [] => []
  | j :: rest => j.spread level :: spreadItems level rest

def spreadMembers (level : Nat) : List (String × Json) → List (List Char)
  | [] => []
  | (name, j) :: rest => (quote name ++ ':' :: ' ' :: j.spread level) :: spreadMembers level rest

end

def pretty (j : Json) : String := String.ofList (j.spread 0)

end Json

end Worksheet
