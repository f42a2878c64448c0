import Worksheet.Json.Literal
import Worksheet.Json.Quoted

/-!
A JSON text as a sequence of tokens.
-/

namespace Worksheet.Json

inductive Token
  | openArray
  | closeArray
  | openObject
  | closeObject
  | comma
  | colon
  | null
  | boolean (b : Bool)
  | number (l : Literal)
  /-- A string, or none if its codes name no text. -/
  | string (s : Option String)
deriving DecidableEq, Repr

/-- Whether a character may stand between tokens. -/
def isBlank (c : Char) : Bool := c == ' ' || c == '\t' || c == '\n' || c == '\r'

/-- Reads a token off the front of a text that does not start with a blank. -/
def Token.read? : List Char → Option (Token × List Char)
  | '[' :: rest => some (openArray, rest)
  | ']' :: rest => some (closeArray, rest)
  | '\x7b' :: rest => some (openObject, rest)
  | '\x7d' :: rest => some (closeObject, rest)
  | ',' :: rest => some (comma, rest)
  | ':' :: rest => some (colon, rest)
  | 'n' :: 'u' :: 'l' :: 'l' :: rest => some (null, rest)
  | 't' :: 'r' :: 'u' :: 'e' :: rest => some (boolean true, rest)
  | 'f' :: 'a' :: 'l' :: 's' :: 'e' :: rest => some (boolean false, rest)
  | '"' :: text =>
    (readCodes? text).map fun (codes, rest) => (string ((charactersOf? codes).map .ofList), rest)
  | text => (readLiteral? text).map fun (l, rest) => (number l, rest)

/-- The tokens of a text, at most as many as `most`. -/
def tokensUpTo? : Nat → List Char → Option (List Token)
  | most, text =>
    match text.dropWhile isBlank with
    | [] => some []
    | text =>
      match most with
      | 0 => none
      | most + 1 => do
        let (token, rest) ← Token.read? text
        return token :: (← tokensUpTo? most rest)

/-- The tokens of a text. Each takes a character at least, so the length bounds their number. -/
def tokens? (text : List Char) : Option (List Token) := tokensUpTo? text.length text

end Worksheet.Json
