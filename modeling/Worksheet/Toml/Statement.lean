import Worksheet.Toml.Quoted
import Worksheet.Toml.Scalar

/-!
A TOML text as a sequence of statements: entries with a dotted key and a value, and headers that
open a table or a new element of a list of tables.
-/

namespace Worksheet.Toml

/-- A value; an inline table keeps the dotted keys it is written with. -/
inductive Value
  | scalar (s : Scalar)
  | list (items : List Value)
  | table (entries : List (List String × Value))
deriving Repr, Inhabited

mutual

def Value.depth : Value → Nat
  | .scalar _ => 0
  | .list items => depthOfItems items + 1
  | .table entries => depthOfEntries entries + 1

def depthOfItems : List Value → Nat
  | [] => 0
  | v :: rest => max v.depth (depthOfItems rest)

def depthOfEntries : List (List String × Value) → Nat
  | [] => 0
  | (_, v) :: rest => max v.depth (depthOfEntries rest)

end

inductive Statement
  | entry (path : List String) (value : Value)
  | table (path : List String)
  | element (path : List String)
deriving Repr

def isBlank (c : Char) : Bool := c == ' ' || c == '\t'

def dropBlanks (text : List Char) : List Char := text.dropWhile isBlank

/-! ## Keys -/

def isBareKey (c : Char) : Bool := c.isAlphanum || c == '_' || c == '-'

/-- One part of a dotted key. -/
def readSimpleKey? (text : List Char) : Option (String × List Char) :=
  match text with
  | '"' :: rest => (readBasic? (rest.length + 1) rest).map fun (s, rest) => (String.ofList s, rest)
  | '\'' :: rest => (readLiteral? rest).map fun (s, rest) => (String.ofList s, rest)
  | text =>
    match text.takeWhile isBareKey with
    | [] => none
    | key => some (String.ofList key, text.dropWhile isBareKey)

/-- A dotted key, with blanks behind it. -/
def readKey? : Nat → List Char → Option (List String × List Char)
  | 0, _ => none
  | steps + 1, text => do
    let (key, rest) ← readSimpleKey? (dropBlanks text)
    match dropBlanks rest with
    | '.' :: rest =>
      let (keys, rest) ← readKey? steps rest
      return (key :: keys, rest)
    | rest => return ([key], rest)

/-- A dotted key and the sign before its value. -/
def readAssignment? (text : List Char) : Option (List String × List Char) := do
  let (path, rest) ← readKey? (text.length + 1) text
  match rest with
  | '=' :: rest => return (path, dropBlanks rest)
  | _ => none

/-! ## Values -/

/-- A comment without its line end, if one follows. -/
def dropComment? : List Char → Option (List Char)
  | '#' :: text =>
    let comment := text.takeWhile fun c => c != '\n' && c != '\r'
    if comment.any isForbidden then none else some (text.drop comment.length)
  | text => some text

def dropFiller? : Nat → List Char → Option (List Char)
  | 0, _ => none
  | steps + 1, text => do
    let text ← dropComment? (dropBlanks text)
    match text with
    | '\n' :: rest => dropFiller? steps rest
    | '\r' :: '\n' :: rest => dropFiller? steps rest
    | text => return text

def endsWord (c : Char) : Bool :=
  isBlank c || c == '\n' || c == '\r' || c == ',' || c == ']' || c == '\x7d' || c == '#'

/-- A word; a date takes the time behind a single blank with it. -/
def readWord (text : List Char) : List Char × List Char :=
  let word := text.takeWhile (!endsWord ·)
  let rest := text.drop word.length
  match rest with
  | ' ' :: behind =>
    let time := behind.takeWhile (!endsWord ·)
    if readDate? word == some [] && (readTime? time).isSome then
      (word ++ ' ' :: time, behind.drop time.length)
    else (word, rest)
  | _ => (word, rest)

mutual

def readValue? : Nat → List Char → Option (Value × List Char)
  | 0, _ => none
  | steps + 1, text =>
    match text with
    | '"' :: _ | '\'' :: _ =>
      (readString? text).map fun (s, rest) => (.scalar (.text (String.ofList s)), rest)
    | '[' :: rest => (readItems? steps rest).map fun (items, rest) => (.list items, rest)
    | '\x7b' :: rest =>
      match dropBlanks rest with
      | '\x7d' :: rest => some (.table [], rest)
      | rest => (readEntries? steps rest).map fun (entries, rest) => (.table entries, rest)
    | text =>
      let (word, rest) := readWord text
      (scalar? word).map fun s => (.scalar s, rest)

def readItems? : Nat → List Char → Option (List Value × List Char)
  | 0, _ => none
  | steps + 1, text => do
    match ← dropFiller? (text.length + 1) text with
    | ']' :: rest => return ([], rest)
    | text =>
      let (v, text) ← readValue? steps text
      match ← dropFiller? (text.length + 1) text with
      | ',' :: rest =>
        let (items, rest) ← readItems? steps rest
        return (v :: items, rest)
      | ']' :: rest => return ([v], rest)
      | _ => none

/-- The entries of an inline table, one at least, up to its closing brace. -/
def readEntries? : Nat → List Char → Option (List (List String × Value) × List Char)
  | 0, _ => none
  | steps + 1, text => do
    let (path, text) ← readAssignment? text
    let (v, text) ← readValue? steps text
    match dropBlanks text with
    | ',' :: rest =>
      let (entries, rest) ← readEntries? steps rest
      return ((path, v) :: entries, rest)
    | '\x7d' :: rest => return ([(path, v)], rest)
    | _ => none

end

/-! ## Statements -/

def readStatement? (text : List Char) : Option (Statement × List Char) :=
  match text with
  | '[' :: '[' :: rest => do
    let (path, rest) ← readKey? (rest.length + 1) rest
    match rest with
    | ']' :: ']' :: rest => return (.element path, rest)
    | _ => none
  | '[' :: rest => do
    let (path, rest) ← readKey? (rest.length + 1) rest
    match rest with
    | ']' :: rest => return (.table path, rest)
    | _ => none
  | text => do
    let (path, rest) ← readAssignment? text
    let (v, rest) ← readValue? (2 * rest.length + 2) rest
    return (.entry path v, rest)

def endLine? (text : List Char) : Option (List Char) := do
  match ← dropComment? (dropBlanks text) with
  | [] => return []
  | '\n' :: rest => return rest
  | '\r' :: '\n' :: rest => return rest
  | _ => none

/-- Statements up to the end of the text, at most as many as `most`. -/
def statementsUpTo? : Nat → List Char → Option (List Statement)
  | most, text => do
    match ← dropFiller? (text.length + 1) text with
    | [] => return []
    | text =>
      match most with
      | 0 => none
      | most + 1 =>
        let (s, rest) ← readStatement? text
        return s :: (← statementsUpTo? most (← endLine? rest))

/-- The statements of a text. A byte order mark at its start is skipped. -/
def statements? (text : List Char) : Option (List Statement) :=
  match text with
  | '\ufeff' :: rest => statementsUpTo? rest.length rest
  | text => statementsUpTo? text.length text

end Worksheet.Toml
