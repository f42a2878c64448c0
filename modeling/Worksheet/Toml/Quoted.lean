import Worksheet.Json.Quoted

/-!
Strings of TOML: basic ones with escapes and literal ones without, each on one line or over
several. A reader gets the text behind the opening quotes and gives the string and what follows
the closing quotes. Every step takes a character at least, so the length of a text bounds the
steps it needs.
-/

namespace Worksheet.Toml

/-- Controls other than the tab may not stand in strings and comments. -/
def isForbidden (c : Char) : Bool := (c.toNat < 0x20 && c != '\t') || c.toNat == 0x7f

/-- The character whose code has the given number of hexadecimal digits. -/
def readCode? (digits : Nat) (text : List Char) : Option (Char × List Char) :=
  let shown := text.take digits
  if shown.length < digits then none
  else do
    let values ← shown.mapM Json.hexValue?
    let code := values.foldl (fun n d => 16 * n + d) 0
    if code < 0xD800 ∨ (0xE000 ≤ code ∧ code < 0x110000) then
      some (Char.ofNat code, text.drop digits)
    else none

/-- The character that an escape behind a backslash stands for. -/
def readEscape? : List Char → Option (Char × List Char)
  | 'b' :: rest => some ('\x08', rest)
  | 't' :: rest => some ('\t', rest)
  | 'n' :: rest => some ('\n', rest)
  | 'f' :: rest => some ('\x0c', rest)
  | 'r' :: rest => some ('\r', rest)
  | '"' :: rest => some ('"', rest)
  | '\\' :: rest => some ('\\', rest)
  | 'u' :: rest => readCode? 4 rest
  | 'U' :: rest => readCode? 8 rest
  | _ => none

def prepend (c : Char) (r : Option (List Char × List Char)) : Option (List Char × List Char) :=
  r.map fun (s, rest) => (c :: s, rest)

def readBasic? : Nat → List Char → Option (List Char × List Char)
  | 0, _ => none
  | _, [] => none
  | steps + 1, c :: rest =>
    if c = '"' then some ([], rest)
    else if c = '\\' then do
      let (c, rest) ← readEscape? rest
      prepend c (readBasic? steps rest)
    else if isForbidden c then none
    else prepend c (readBasic? steps rest)

def readLiteral? : List Char → Option (List Char × List Char)
  | [] => none
  | c :: rest =>
    if c = '\'' then some ([], rest)
    else if isForbidden c then none
    else prepend c (readLiteral? rest)

/-- Quotes inside a string over several lines: three of them close it, and up to two more before
the closing ones belong to the string. -/
def closingQuotes? (quote : Char) (text : List Char) : Option (List Char × List Char) :=
  let run := min (text.takeWhile (· == quote)).length 5
  if run < 3 then none else some (List.replicate (run - 3) quote, text.drop run)

def lineEnds : List Char → Bool
  | '\n' :: _ => true
  | '\r' :: '\n' :: _ => true
  | _ => false

/-- What is left of a text without the blanks and line ends at its start. -/
def dropBlankLines (text : List Char) : List Char :=
  text.dropWhile fun c => c == ' ' || c == '\t' || c == '\n' || c == '\r'

/-- A backslash at the end of a line joins it to the next text. -/
def readJoin? (text : List Char) : Option (List Char) :=
  let behind := text.dropWhile fun c => c == ' ' || c == '\t'
  if lineEnds behind then some (dropBlankLines behind) else none

def readBasicLines? : Nat → List Char → Option (List Char × List Char)
  | 0, _ => none
  | _, [] => none
  | steps + 1, c :: rest =>
    match closingQuotes? '"' (c :: rest) with
    | some closed => some closed
    | none =>
      if c = '\\' then
        match readJoin? rest with
        | some rest => readBasicLines? steps rest
        | none => do
          let (c, rest) ← readEscape? rest
          prepend c (readBasicLines? steps rest)
      else if isForbidden c && !lineEnds (c :: rest) then none
      else prepend c (readBasicLines? steps rest)

def readLiteralLines? : Nat → List Char → Option (List Char × List Char)
  | 0, _ => none
  | _, [] => none
  | steps + 1, c :: rest =>
    match closingQuotes? '\'' (c :: rest) with
    | some closed => some closed
    | none =>
      if isForbidden c && !lineEnds (c :: rest) then none
      else prepend c (readLiteralLines? steps rest)

/-- A line end right behind the opening quotes does not belong to the string. -/
def dropFirstLineEnd : List Char → List Char
  | '\n' :: rest => rest
  | '\r' :: '\n' :: rest => rest
  | text => text

/-- Reads a string of any form off the front of a text. -/
def readString? : List Char → Option (List Char × List Char)
  | '"' :: '"' :: '"' :: text =>
    readBasicLines? (text.length + 1) (dropFirstLineEnd text)
  | '"' :: text => readBasic? (text.length + 1) text
  | '\'' :: '\'' :: '\'' :: text =>
    readLiteralLines? (text.length + 1) (dropFirstLineEnd text)
  | '\'' :: text => readLiteral? text
  | _ => none

end Worksheet.Toml
