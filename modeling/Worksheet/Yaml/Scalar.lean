import Worksheet.Json.Quoted
import Worksheet.Number.Decimal
import Worksheet.Yaml.Cursor

/-!
The scalars of YAML: plain ones, quoted ones and blocks. Lines of the first two are folded: a break
becomes a blank, and of several breaks all but the first are kept. Every step of a reader takes a
character at least, so the length of a text bounds the steps it needs.
-/

namespace Worksheet.Yaml

/-! ## Gaps -/

/-- What lies between two words of a scalar. -/
structure Gap where
  /-- The blanks, as long as there is no break. -/
  blanks : List Char := []
  /-- Whether the words stand on different lines. -/
  broken : Bool := false
  /-- Whether the break between the lines was taken back by a backslash. -/
  joined : Bool := false
  breaks : List Char := []
deriving DecidableEq, Repr

namespace Gap

def isEmpty (g : Gap) : Bool := g = {}

def fold (g : Gap) : List Char :=
  if !g.broken then g.blanks
  else if g.joined then g.breaks
  else
    match g.breaks with
    | ['\n'] => [' ']
    | '\n' :: further => further
    | breaks => breaks

/-- Reads the rest of a gap. A tab may not stand before the margin of a line, except perhaps on an
idle line. -/
def read? (rules : Rules) (margin : Nat) (lenient : Bool) :
    Nat → Gap → Cursor → Option (Gap × Cursor)
  | 0, g, c => some (g, c)
  | steps + 1, g, c =>
    match c.readBreak? rules with
    | some (b, next) =>
      read? rules margin lenient steps
        { g with blanks := [], broken := true, breaks := g.breaks ++ [b] } next
    | none =>
      match c.rest with
      | x :: _ =>
        if !isBlank x then some (g, c)
        else if g.broken then
          if x = '\t' ∧ c.column < margin ∧ !(lenient && c.isIdle rules) then none
          else read? rules margin lenient steps g (c.skip 1)
        else read? rules margin lenient steps { g with blanks := g.blanks ++ [x] } (c.skip 1)
      | [] => some (g, c)

end Gap

/-! ## Plain scalars -/

/-- Whether a character has a meaning of its own inside brackets. -/
def isFlowIndicator (c : Char) : Bool :=
  c == ',' || c == '[' || c == ']' || c == '{' || c == '}'

/-- Whether a colon at the front of a text ends a plain scalar. -/
def colonEnds (rules : Rules) (inFlow : Bool) (behind : List Char) : Bool :=
  rules.isSeparated behind ||
    (inFlow && rules.colonEndsInFlow && behind.head?.any isFlowIndicator)

/-- Whether a colon at the front of a text is an error. -/
def colonFails (rules : Rules) (inFlow : Bool) (behind : List Char) : Bool :=
  inFlow && !rules.colonEndsInFlow && behind.head?.any fun c => isFlowIndicator c || c == '?'

/-- Reads a word of a plain scalar, which may be empty. -/
def readWord? (rules : Rules) (inFlow : Bool) : List Char → Option (List Char × List Char)
  | [] => some ([], [])
  | c :: rest =>
    if isBlank c || rules.isBreak c || (inFlow && isFlowIndicator c) then some ([], c :: rest)
    else if c = ':' ∧ colonFails rules inFlow rest then none
    else if c = ':' ∧ colonEnds rules inFlow rest then some ([], c :: rest)
    else (readWord? rules inFlow rest).map fun (word, rest) => (c :: word, rest)

/-- Whether a word would be a lone hyphen in brackets, which may not be one. -/
def isLoneHyphen (rules : Rules) (inFlow : Bool) (text : List Char) : Bool :=
  rules.flowWords && inFlow && text.head? == some '-' && (text.drop 1).head?.any isFlowIndicator

/-- What has been read of a plain scalar: its text, the gap behind it and the place behind that. -/
structure PlainScalar where
  text : List Char
  gap : Gap
  next : Cursor

/-- Reads words and the gaps between them, given the gap before the first of them. In a block the
lines of the scalar lie behind the margin. -/
def readPlain? (rules : Rules) (inFlow : Bool) (margin : Nat) :
    Nat → Gap → Cursor → Option PlainScalar
  | 0, g, c => some ⟨[], g, c⟩
  | steps + 1, g, c => do
    if c.isDocumentMark rules || c.rest.head? == some '#' then return ⟨[], g, c⟩
    if isLoneHyphen rules inFlow c.rest then none
    let (word, rest) ← readWord? rules inFlow c.rest
    if word.isEmpty then return ⟨[], g, c⟩
    let c := c.goTo rest
    let (next, c) ← Gap.read? rules margin rules.lenientTabs (c.rest.length + 1) {} c
    let before := g.fold ++ word
    if next.isEmpty || (!inFlow && c.column < margin) then return ⟨before, next, c⟩
    let more ← readPlain? rules inFlow margin steps next c
    return { more with text := before ++ more.text }

/-! ## Quoted scalars -/

/-- The character whose code has the given number of hexadecimal digits. -/
def readCode? (digits : Nat) (text : List Char) : Option (Char × List Char) :=
  let shown := text.take digits
  if shown.length < digits then none
  else do
    let values ← shown.mapM Json.hexValue?
    let code := values.foldl (fun n d => 16 * n + d) 0
    if code < 0xD800 ∨ (0xE000 ≤ code ∧ code < 0x110000) then
      some (Char.ofNat code, text.drop digits)
    else none

/-- The character that an escape behind a backslash stands for. -/
def readEscape? : List Char → Option (Char × List Char)
  | [] => none
  | c :: rest =>
    match c with
    | '0' => some ('\x00', rest)
    | 'a' => some ('\x07', rest)
    | 'b' => some ('\x08', rest)
    | 't' | '\t' => some ('\t', rest)
    | 'n' => some ('\n', rest)
    | 'v' => some ('\x0b', rest)
    | 'f' => some ('\x0c', rest)
    | 'r' => some ('\r', rest)
    | 'e' => some ('\x1b', rest)
    | ' ' | '"' | '/' | '\\' => some (c, rest)
    | 'N' => some ('\u0085', rest)
    | '_' => some ('\u00a0', rest)
    | 'L' => some ('\u2028', rest)
    | 'P' => some ('\u2029', rest)
    | 'x' => readCode? 2 rest
    | 'u' => readCode? 4 rest
    | 'U' => readCode? 8 rest
    | _ => none

/-- Reads a quoted scalar behind its opening quote. Its lines may not start before a column. -/
def readQuoted? (rules : Rules) (quote : Char) (column : Nat) :
    Nat → Cursor → Option (List Char × Cursor)
  | 0, _ => none
  | steps + 1, c =>
    let more (before : List Char) (c : Cursor) : Option (List Char × Cursor) :=
      (readQuoted? rules quote column steps c).map fun (text, c) => (before ++ text, c)
    let gap (g : Gap) (c : Cursor) : Option (List Char × Cursor) := do
      let (g, c) ← Gap.read? rules column false (c.rest.length + 1) g c
      if g.broken ∧ c.column < column then none
      more g.fold c
    if c.isDocumentMark rules then none
    else
      match c.rest with
      | [] => none
      | x :: rest =>
        if isBlank x || rules.isBreak x then gap {} c
        else if x = '\'' ∧ quote = '\'' ∧ rest.head? = some '\'' then more [x] (c.skip 2)
        else if x = quote then some ([], c.skip 1)
        else if x = '\\' ∧ quote = '"' then
          match (c.skip 1).readBreak? rules with
          | some (_, c) => gap { broken := true, joined := true } c
          | none => do
            let (y, rest) ← readEscape? rest
            more [y] (c.goTo rest)
        else more [x] (c.skip 1)

/-! ## Block scalars -/

inductive Chomping
  | strip
  | clip
  | keep
deriving DecidableEq, Repr

structure BlockHeader where
  folded : Bool
  chomping : Chomping := .clip
  /-- How far the lines are indented, if it is said. -/
  indent : Option Nat := none
deriving DecidableEq, Repr

def BlockHeader.readChomping (h : BlockHeader) : List Char → BlockHeader × List Char
  | '+' :: rest => ({ h with chomping := .keep }, rest)
  | '-' :: rest => ({ h with chomping := .strip }, rest)
  | text => (h, text)

def BlockHeader.readIndent? (h : BlockHeader) : List Char → Option (BlockHeader × List Char)
  | [] => some (h, [])
  | c :: rest =>
    if !c.isDigit then some (h, c :: rest)
    else if c = '0' then none
    else some ({ h with indent := some (digitValue c) }, rest)

/-- Reads the indicators behind the one that opens a block scalar, in either order. -/
def BlockHeader.read? (folded : Bool) (text : List Char) : Option (BlockHeader × List Char) := do
  let (h, rest) := readChomping ⟨folded, .clip, none⟩ text
  if h.chomping ≠ .clip then h.readIndent? rest
  else
    let (h, rest) ← h.readIndent? rest
    return h.readChomping rest

/-- Empty lines and the indentation behind them. -/
structure Indentation where
  breaks : List Char := []
  /-- The widest indentation. -/
  widest : Nat := 0
  next : Cursor

/-- Reads empty lines and indentation, which reaches up to a column if one is given. A tab may not
stand in for indentation, unless it just ends the scalar. -/
def readIndentation? (rules : Rules) (indent : Option Nat) :
    Nat → Indentation → Option Indentation
  | 0, i => some i
  | steps + 1, i =>
    let spaces := (i.next.rest.takeWhile (· == ' ')).length
    let spaces := match indent with
      | some n => min spaces (n - i.next.column)
      | none => spaces
    let c := i.next.skip spaces
    let i := { i with widest := max i.widest c.column, next := c }
    if !rules.lenientTabs ∧ c.rest.head? = some '\t' ∧ indent.all (c.column < ·) then none
    else
      match c.readBreak? rules with
      | some (b, c) =>
        readIndentation? rules indent steps { i with breaks := i.breaks ++ [b], next := c }
      | none => some i

/-- The breaks that stand before the next line of a block scalar. -/
structure BlockGap where
  /-- The break that ends the line before, unless there is none. -/
  first : List Char := []
  further : List Char := []
  /-- Whether the line before starts with a blank. -/
  afterBlank : Bool := false

/-- What a gap contributes to the scalar. Lines are folded if neither starts with a blank. -/
def BlockGap.fold (g : BlockGap) (folded beforeBlank : Bool) : List Char :=
  if folded && g.first == ['\n'] && !g.afterBlank && !beforeBlank then
    (if g.further.isEmpty then [' '] else []) ++ g.further
  else g.first ++ g.further

/-- Reads the lines of a block scalar that start in the given column. -/
def readBlockLines? (rules : Rules) (folded : Bool) (indent : Nat) :
    Nat → BlockGap → Cursor → Option (List Char × BlockGap × Cursor)
  | 0, g, c => some ([], g, c)
  | steps + 1, g, c => do
    if c.column ≠ indent ∨ c.rest = [] ∨ c.isRuler rules '.' then return ([], g, c)
    let startsBlank := c.rest.head?.any isBlank
    let line := c.rest.takeWhile fun x => !rules.isBreak x
    let c := c.skipLine rules
    let (first, c) := match c.readBreak? rules with
      | some (b, c) => ([b], c)
      | none => ([], c)
    let i ← readIndentation? rules (some indent) (c.rest.length + 1) { next := c }
    let (text, last, c) ←
      readBlockLines? rules folded indent steps ⟨first, i.breaks, startsBlank⟩ i.next
    return (g.fold folded startsBlank ++ line ++ text, last, c)

/-- Reads a block scalar behind the indicator that opens it, inside a block with the given
margin. -/
def readBlock? (rules : Rules) (folded : Bool) (margin : Nat) (c : Cursor) :
    Option (List Char × Cursor) := do
  let (header, rest) ← BlockHeader.read? folded c.rest
  if (c.goTo rest).hasTightComment rules then none
  let c ← (c.goTo rest).endLine? rules
  if c.rest.head? = some '\t' then none
  let stated := header.indent.map fun n => max margin 1 - 1 + n
  let i ← readIndentation? rules stated (c.rest.length + 1) { next := c }
  let indent := stated.getD (max i.widest (if rules.bareBlocks then margin else max margin 1))
  let misplaced := i.next.column < indent ∧ margin ≤ i.next.column ∧ i.next.rest ≠ []
  if rules.strictIndents ∧ misplaced then none
  let (text, last, c) ←
    readBlockLines? rules folded indent (i.next.rest.length + 1) { further := i.breaks } i.next
  let unended := rules.endsLastLine && !text.isEmpty && c.rest.isEmpty && indent ≤ c.column
  let last := if unended then { last with first := last.first ++ ['\n'] } else last
  let tail := match header.chomping with
    | .strip => []
    | .clip => last.first
    | .keep => last.first ++ last.further
  return (text ++ tail, c)

end Worksheet.Yaml
