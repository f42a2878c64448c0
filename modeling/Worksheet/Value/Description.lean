import Worksheet.Text.Lines
import Worksheet.Text.Visible
import Worksheet.Value.Basic

/-!
How a context is shown to an observer: one line for each entry, with the kind of its value and the
value written so that its structure can be seen.
-/

namespace Worksheet

def quotedCharacter (c : Char) : List Char :=
  if c = '"' then ['\\', '"']
  else if c = '\\' then ['\\', '\\']
  else if c = '\n' then ['\\', 'n']
  else if c = '\t' then ['\\', 't']
  else if c = '\r' then ['\\', 'r']
  else if c = '\x00' then ['\\', '0']
  else if isVisible c then [c]
  else '\\' :: 'u' :: '\x7b' :: (Nat.toDigits 16 c.toNat ++ ['\x7d'])

/-- A text in quotes with its unusual characters made visible. -/
def quoted (s : String) : String :=
  String.ofList ('"' :: (s.toList.flatMap quotedCharacter ++ ['"']))

namespace Value

/-- Numbers as an observer sees them: always with a fraction or an exponent. -/
def descriptionLayout : NumberLayout where
  notANumber := "NaN"
  infinity := "inf"
  negativeInfinity := "-inf"
  signedZero := true
  fraction := true
  positional := some (-4, 15)
  exponentSign := false
  tie := .up

mutual

/-- A value with the name of its kind. -/
def describe : Value → String
  | null => "Null"
  | boolean b => if b then "Bool(true)" else "Bool(false)"
  | number x => "Number(" ++ descriptionLayout.text x ++ ")"
  | text s => "Text(" ++ quoted s ++ ")"
  | list items => "List([" ++ ", ".intercalate (describeItems items) ++ "])"

def describeItems : List Value → List String
  | [] => []
  | v :: rest => v.describe :: describeItems rest

end

end Value

namespace Context

/-- The lines that show a context. A name that holds line feeds takes several. -/
def describe (c : Context) : List String :=
  let entry (e : String × Value) : String := s!"  {e.1} ({e.2.kindName}): {e.2.describe}\n"
  let shown := if c.isEmpty then "  (empty)\n" else String.join (c.entries.map entry)
  (terminatedLines ("Template context:\n" ++ shown).toList).map String.ofList

end Context

end Worksheet
