/-!
A place in a YAML text. What a character means there depends on its column, and how far a key may
reach depends on lines and characters, so all three are counted.
-/

namespace Worksheet.Yaml

/-- The points in which readers of YAML differ. -/
structure Rules where
  /-- Whether the line separators beyond ASCII end lines. -/
  wideBreaks : Bool
  /-- Whether texts with control characters are refused; if not, a zero ends a text. -/
  printableOnly : Bool
  /-- Whether a mark of the byte order may start a line. -/
  orderMarks : Bool
  /-- Whether the last line of a block scalar counts as ended where the text ends. -/
  endsLastLine : Bool
  /-- Whether a block scalar that is a whole document needs no indentation. -/
  bareBlocks : Bool
  /-- Whether a document may follow another without being announced. -/
  bareDocuments : Bool
  /-- Whether nothing but a comment may stand behind the mark of an end. -/
  idleEnds : Bool
  /-- Whether an entry of a mapping may leave out its key. -/
  emptyKeys : Bool
  /-- Whether a colon before a flow indicator ends a plain scalar; if not, it is an error. -/
  colonEndsInFlow : Bool
  /-- Whether directives nobody knows are skipped; if not, they are errors. -/
  skipsDirectives : Bool
  /-- Whether a tab is an error only in the indentation of a line that holds something. -/
  lenientTabs : Bool
  /-- Whether blanks are needed before a comment and before a word behind a colon. -/
  needsBlanks : Bool
  /-- Whether brackets, quotes and block scalars have to be indented like the rest of a block. -/
  strictIndents : Bool
  /-- Whether a word in brackets may start with a colon or a question mark. -/
  flowWords : Bool
  /-- Whether a key in brackets may be of any length and take several lines. -/
  longFlowKeys : Bool
  /-- How many brackets may be open, if that is limited. -/
  mostBrackets : Option Nat
  /-- Whether all characters may name an anchor that have no meaning of their own. -/
  wideAnchors : Bool
deriving DecidableEq, Repr

def Rules.isBreak (rules : Rules) (c : Char) : Bool :=
  c == '\n' || c == '\r' ||
    (rules.wideBreaks && (c == '\u0085' || c == '\u2028' || c == '\u2029'))

/-- Whether a character separates tokens on a line. -/
def isBlank (c : Char) : Bool := c == ' ' || c == '\t'

/-- Whether a text starts with what separates tokens, or has ended. -/
def Rules.isSeparated (rules : Rules) : List Char → Bool
  | [] => true
  | c :: _ => isBlank c || rules.isBreak c

/-- Reads a line break off the front of a text. The usual ones all count as a line feed. -/
def Rules.readBreak? (rules : Rules) : List Char → Option (Char × List Char)
  | '\r' :: '\n' :: rest => some ('\n', rest)
  | c :: rest =>
    if !rules.isBreak c then none
    else if c = '\u2028' ∨ c = '\u2029' then some (c, rest)
    else some ('\n', rest)
  | [] => none

/-- What is left of a text, and where it starts. -/
structure Cursor where
  rest : List Char
  line : Nat := 0
  column : Nat := 0
  /-- How many characters come before. -/
  offset : Nat := 0
deriving DecidableEq, Repr

namespace Cursor

def skip (c : Cursor) (count : Nat) : Cursor :=
  { c with rest := c.rest.drop count, column := c.column + count, offset := c.offset + count }

def goTo (c : Cursor) (rest : List Char) : Cursor := c.skip (c.rest.length - rest.length)

def skipBlanks (c : Cursor) : Cursor := c.goTo (c.rest.dropWhile isBlank)

/-- Whether the line holds nothing more than blanks and a comment. -/
def isIdle (rules : Rules) (c : Cursor) : Bool :=
  match c.rest.dropWhile isBlank with
  | [] => true
  | x :: _ => x == '#' || rules.isBreak x

def skipLine (rules : Rules) (c : Cursor) : Cursor :=
  c.goTo (c.rest.dropWhile fun x => !rules.isBreak x)

/-- Goes on to the next line, if this one ends here, and tells what ends it. -/
def readBreak? (rules : Rules) (c : Cursor) : Option (Char × Cursor) :=
  (rules.readBreak? c.rest).map fun (b, rest) =>
    (b, ⟨rest, c.line + 1, 0, c.offset + (c.rest.length - rest.length)⟩)

/-- Whether a line starts here with three equal characters that stand alone. -/
def isRuler (rules : Rules) (x : Char) (c : Cursor) : Bool :=
  c.column == 0 &&
    match c.rest with
    | x₁ :: x₂ :: x₃ :: rest => x₁ == x && x₂ == x && x₃ == x && rules.isSeparated rest
    | _ => false

def isDocumentMark (rules : Rules) (c : Cursor) : Bool := c.isRuler rules '-' || c.isRuler rules '.'

/-- Goes on behind blanks and a comment to the end of the line, if the line has nothing else. -/
def endLine? (rules : Rules) (c : Cursor) : Option Cursor :=
  let c := c.skipBlanks
  let c := if c.rest.head? = some '#' then c.skipLine rules else c
  match c.rest with
  | [] => some c
  | _ => (c.readBreak? rules).map Prod.snd

/-- Whether a comment follows without a blank before it where one is needed. -/
def hasTightComment (rules : Rules) (c : Cursor) : Bool :=
  rules.needsBlanks && c.rest.head? == some '#'

end Cursor

end Worksheet.Yaml
