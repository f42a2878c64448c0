import Worksheet.Yaml.Property

/-!
From a YAML text to its tokens. Two things depend on what comes later. Whether a scalar is a key
shows only at the colon behind it, so places where a key may have started are remembered and the
tokens that open an entry are put there afterwards. And a block ends where a line starts further
left, so the margins of the open blocks are kept.
-/

namespace Worksheet.Yaml

structure PossibleKey where
  /-- Whether the block has no meaning without a key here. -/
  required : Bool
  /-- How many tokens come before. -/
  place : Nat
  start : Cursor

def longestKey : Nat := 1024

structure Scan where
  next : Cursor
  /-- The columns behind which the parts of the open blocks lie, the innermost first. -/
  margins : List Nat := []
  /-- Whether what comes next belongs to an entry of the innermost block, so that it has to be
  indented further than the entry. -/
  inEntry : Bool := false
  /-- Whether the last token ends where only blanks stand before it on its line. -/
  leading : Bool := false
  /-- Whether a key may start here. -/
  keyAllowed : Bool := true
  key : Option PossibleKey := none
  /-- The possible keys outside the open brackets, the innermost first. -/
  outerKeys : List (Option PossibleKey) := []
  /-- Where a colon may follow a quoted scalar or a bracket as it is. -/
  joint : Option Nat := none
  /-- The tokens so far, the last one first. -/
  tokens : List Token := []
  count : Nat := 0

namespace Scan

def margin (s : Scan) : Nat := s.margins.headD 0

def inFlow (s : Scan) : Bool := !s.outerKeys.isEmpty

/-- The column before which nothing that belongs to the open blocks may lie. -/
def contentColumn (s : Scan) : Nat := if s.inEntry then s.margin else s.margin - 1

def enter (s : Scan) : Scan :=
  if s.inFlow || s.margins.isEmpty then s else { s with inEntry := true }

def leave (s : Scan) : Scan := { s with inEntry := false }

def emit (t : Token) (s : Scan) : Scan :=
  { s with tokens := t :: s.tokens, count := s.count + 1, leading := false }

def insertAt (place : Nat) (t : Token) (s : Scan) : Scan :=
  let later := s.count - place
  { s with tokens := s.tokens.take later ++ t :: s.tokens.drop later, count := s.count + 1 }

def skip (count : Nat) (s : Scan) : Scan := { s with next := s.next.skip count }

def goTo (rest : List Char) (s : Scan) : Scan := { s with next := s.next.goTo rest }

def allowKey (allowed : Bool) (s : Scan) : Scan := { s with keyAllowed := allowed }

/-! ## Blocks -/

/-- Closes the blocks whose margins do not pass a test. -/
def closeBlocks (stays : Nat → Bool) (s : Scan) : Scan :=
  if s.inFlow then s
  else
    let closed := s.margins.takeWhile fun m => !stays m
    { s with
      margins := s.margins.drop closed.length
      inEntry := s.inEntry && stays (s.margin + 1)
      tokens := closed.map (fun _ => .blockEnd) ++ s.tokens
      count := s.count + closed.length }

def closeAllBlocks (s : Scan) : Scan := s.closeBlocks fun _ => false

/-- Opens a block in a column, unless one is open there already. -/
def openBlock (column place : Nat) (t : Token) (s : Scan) : Scan :=
  if !s.inFlow && s.margin ≤ column then
    { s.insertAt place t with margins := (column + 1) :: s.margins, inEntry := false }
  else s

/-! ## Keys -/

def dropKey? (s : Scan) : Option Scan :=
  if s.key.any (·.required) then none else some { s with key := none }

def saveKey? (s : Scan) : Option Scan :=
  if s.keyAllowed then do
    let s ← s.dropKey?
    return { s with key := some ⟨!s.inFlow && s.margin == s.next.column + 1, s.count, s.next⟩ }
  else some s

/-- Whether a key that started at one place cannot reach another. -/
def PossibleKey.isStale (k : PossibleKey) (c : Cursor) : Bool :=
  k.start.line < c.line || k.start.offset + longestKey < c.offset

/-- Gives up a possible key that cannot reach a place. -/
def expire? (c : Cursor) : Option PossibleKey → Option (Option PossibleKey)
  | none => some none
  | some k =>
    if !PossibleKey.isStale k c then some (some k) else if k.required then none else some none

def expireKeys? (rules : Rules) (s : Scan) : Option Scan := do
  if rules.longFlowKeys && s.inFlow then return s
  return { s with key := ← expire? s.next s.key, outerKeys := ← s.outerKeys.mapM (expire? s.next) }

/-! ## What stands between tokens -/

/-- The mark of the byte order, which may start a line. -/
def orderMark : Char := '\ufeff'

/-- Goes on behind blanks. Tabs are blanks where no key may start, or where they indent nothing that
lies before the content of the blocks. -/
def skipBlanks? (rules : Rules) (s : Scan) : Option Cursor :=
  let c := s.next.goTo (s.next.rest.dropWhile (· == ' '))
  if c.rest.head? ≠ some '\t' then some c
  else if rules.lenientTabs then
    let leading := s.leading || s.next.column = 0
    let indents := leading && !s.margins.isEmpty && c.column < s.contentColumn
    if indents && !c.isIdle rules then none else some c.skipBlanks
  else some (if s.inFlow || !s.keyAllowed then c.skipBlanks else c)

def skipGap? (rules : Rules) : Nat → Scan → Option Scan
  | 0, s => some s
  | steps + 1, s => do
    let marked := rules.orderMarks ∧ s.next.column = 0 ∧ s.next.rest.head? = some orderMark
    let s := if marked then s.skip 1 else s
    let c ← s.skipBlanks? rules
    let c := if c.rest.head? = some '#' then c.skipLine rules else c
    match c.readBreak? rules with
    | some (_, c) =>
      skipGap? rules steps { s with next := c, keyAllowed := s.keyAllowed || !s.inFlow }
    | none => return { s with next := c }

/-! ## Tokens -/

def endText? (s : Scan) : Option Scan := s.closeAllBlocks.dropKey?

def directive? (rules : Rules) (s : Scan) : Option Scan := do
  let s ← s.closeAllBlocks.dropKey?
  let (d, rest) ← readDirective? rules (s.next.rest.drop 1)
  let next ← (s.next.goTo rest).endLine? rules
  return ({ s with next := next, keyAllowed := false } : Scan).emit (.directive d)

def documentMark? (rules : Rules) (t : Token) (s : Scan) : Option Scan := do
  let s ← s.closeAllBlocks.dropKey?
  let s := ((s.allowKey false).emit t).skip 3
  if rules.idleEnds && t == .documentEnd && !s.next.isIdle rules then none
  return s

/-- Refuses a comment right behind the last token. -/
def checkComment? (rules : Rules) (s : Scan) : Option Scan :=
  if s.next.hasTightComment rules then none else some s

/-- Notes that a colon may follow as it is. -/
def markJoint (s : Scan) : Scan := { s with joint := some s.next.skipBlanks.offset }

def openFlow? (rules : Rules) (t : Token) (s : Scan) : Option Scan := do
  if rules.mostBrackets = some s.outerKeys.length then none
  let s := (← s.saveKey?).enter
  (({ s with outerKeys := s.key :: s.outerKeys, key := none, keyAllowed := true } :
    Scan).emit t).skip 1 |>.checkComment? rules

def closeFlow? (rules : Rules) (t : Token) (s : Scan) : Option Scan := do
  let s ← s.dropKey?
  let s := match s.outerKeys with
    | key :: outer => { s with key := key, outerKeys := outer }
    | [] => s
  let s ← (((s.allowKey false).emit t).skip 1).checkComment? rules
  return s.markJoint

def separator? (rules : Rules) (s : Scan) : Option Scan := do
  let s ← s.dropKey?
  (((s.allowKey true).emit .separator).skip 1).checkComment? rules

/-- Opens a block for an indicator, which may only stand where a key may start. -/
def openFor? (t : Token) (s : Scan) : Option Scan :=
  if s.inFlow then some s
  else if s.keyAllowed then some (s.openBlock s.next.column s.count t)
  else none

/-- Goes into an element of a sequence if nothing that opens a block follows on its line. -/
def enterElement (rules : Rules) (s : Scan) : Scan :=
  let c := s.next.skipBlanks
  let c := if c.rest.head? = some '#' then c.skipLine rules else c
  if c.rest.head?.any fun x => rules.isBreak x || isFlowIndicator x then s.enter else s

/-- Whether tabs stand between two elements that open on the same line. -/
def hasTabbedElement (rules : Rules) (behind : List Char) : Bool :=
  rules.needsBlanks && (behind.takeWhile isBlank).contains '\t' &&
    match behind.dropWhile isBlank with
    | '-' :: rest => rules.isSeparated rest
    | _ => false

/-- Whether a word stands behind a colon with nothing but tabs between them. -/
def hasTabbedWord (rules : Rules) (behind : List Char) : Bool :=
  let blanks := behind.takeWhile isBlank
  rules.needsBlanks && behind.head? == some '\t' && !blanks.contains ' ' &&
    (behind.drop blanks.length).head?.any fun c => c == '-' || c.isAlphanum

/-- Whether a question mark ends the text, or a tab stands among the blanks behind it. -/
def lacksBlank (rules : Rules) (behind : List Char) : Bool :=
  rules.needsBlanks && (behind.isEmpty || (behind.dropWhile (· == ' ')).head? == some '\t')

def element? (rules : Rules) (s : Scan) : Option Scan := do
  let s ← (← s.openFor? .blockSequence).dropKey?
  let s := ((s.allowKey true).emit .element).skip 1
  if hasTabbedElement rules s.next.rest then none
  return s.enterElement rules

def explicitKey? (rules : Rules) (s : Scan) : Option Scan := do
  let s ← (← s.openFor? .blockMapping).dropKey?
  let s := ((s.allowKey !s.inFlow).emit .key).skip 1
  if lacksBlank rules s.next.rest then none
  return s

/-- Turns the possible key, if there is one, into a key. -/
def settleKey? (s : Scan) : Option Scan :=
  match s.key with
  | some k =>
    let s := (s.insertAt k.place .key).openBlock k.start.column k.place .blockMapping
    some { s with key := none, keyAllowed := false }
  | none => (s.openFor? .blockMapping).map (allowKey !s.inFlow)

def value? (rules : Rules) (s : Scan) : Option Scan := do
  let s := ((← s.settleKey?).enter.emit .value).skip 1
  if hasTabbedWord rules s.next.rest then none
  return s

/-- A token that may start a key and is followed by none. -/
def unit? (t : Token) (rest : List Char) (s : Scan) : Option Scan := do
  let s ← s.saveKey?
  return ((s.allowKey false).emit t).goTo rest

def quoted? (rules : Rules) (quote : Char) (s : Scan) : Option Scan := do
  let s ← s.saveKey?
  let column := if rules.strictIndents then s.contentColumn else 0
  let (text, next) ← readQuoted? rules quote column s.next.rest.length (s.next.skip 1)
  let s := { (s.allowKey false).emit (.scalar false (String.ofList text)) with next := next }
  return (← s.checkComment? rules).markJoint

def block? (rules : Rules) (folded : Bool) (s : Scan) : Option Scan := do
  if rules.strictIndents && s.keyAllowed && s.margin == s.next.column + 1 then none
  let s ← s.leave.dropKey?
  let (text, next) ← readBlock? rules folded s.margin (s.next.skip 1)
  let s := (s.allowKey true).emit (.scalar false (String.ofList text))
  return { s with next := next, leading := true }

def plain? (rules : Rules) (s : Scan) : Option Scan := do
  let s ← s.leave.saveKey?
  if rules.strictIndents && s.inFlow && s.next.column < s.margin then none
  let p ← readPlain? rules s.inFlow s.margin (s.next.rest.length + 1) {} s.next
  let s := (s.allowKey p.gap.broken).emit (.scalar true (String.ofList p.text))
  return { s with next := p.next }

/-- Whether a plain scalar can start with a character, given what is behind that. -/
def startsPlain (rules : Rules) (inFlow : Bool) (c : Char) (behind : List Char) : Bool :=
  match c with
  | '-' => !behind.head?.any isBlank
  | '?' | ':' => (rules.flowWords || !inFlow) && !rules.isSeparated behind
  | '|' | '>' => rules.flowWords && inFlow
  | ',' | '[' | ']' | '{' | '}' | '#' | '&' | '*' | '!' | '\'' | '"' | '%' | '@' | '\x60' => false
  | c => !isBlank c && !rules.isBreak c

/-- Whether a question mark opens a key, given what is behind it. -/
def opensKey (rules : Rules) (behind : List Char) (s : Scan) : Bool :=
  rules.isSeparated behind || (s.inFlow && !rules.flowWords)

/-- Whether a colon opens a value, given what is behind it. -/
def opensValue (rules : Rules) (behind : List Char) (s : Scan) : Bool :=
  rules.isSeparated behind ||
    (s.inFlow &&
      (!rules.flowWords || behind.head?.any isFlowIndicator || s.joint == some s.next.offset))

def token? (rules : Rules) (c : Char) (behind : List Char) (s : Scan) : Option Scan :=
  if c = '%' ∧ s.next.column = 0 then s.directive? rules
  else if s.next.isRuler rules '-' then s.documentMark? rules .documentStart
  else if s.next.isRuler rules '.' then s.documentMark? rules .documentEnd
  else if rules.strictIndents ∧ s.next.column < s.contentColumn then none
  else if c = '[' then s.openFlow? rules .flowSequence
  else if c = '{' then s.openFlow? rules .flowMapping
  else if c = ']' then s.closeFlow? rules .flowSequenceEnd
  else if c = '}' then s.closeFlow? rules .flowMappingEnd
  else if c = ',' then s.separator? rules
  else if c = '-' ∧ rules.isSeparated behind then s.element? rules
  else if c = '?' ∧ s.opensKey rules behind then s.explicitKey? rules
  else if c = ':' ∧ s.opensValue rules behind then s.value? rules
  else if c = '*' then do
    let (name, rest) ← readAnchor? rules behind
    s.unit? (.alias name) rest
  else if c = '&' then do
    let (name, rest) ← readAnchor? rules behind
    s.unit? (.anchor name) rest
  else if c = '!' then do
    let (t, rest) ← readTag? rules s.inFlow (c :: behind)
    s.unit? t rest
  else if c = '|' ∧ !s.inFlow then s.block? rules false
  else if c = '>' ∧ !s.inFlow then s.block? rules true
  else if c = '\'' ∨ c = '"' then s.quoted? rules c
  else if startsPlain rules s.inFlow c behind then s.plain? rules
  else none

/-- Reads all tokens. Every token takes a character at least. -/
def run? (rules : Rules) : Nat → Scan → Option Scan
  | 0, _ => none
  | steps + 1, s => do
    let s ← (← s.skipGap? rules (s.next.rest.length + 1)).expireKeys? rules
    let s := s.closeBlocks (· ≤ s.next.column + 1)
    match s.next.rest with
    | [] => s.endText?
    | c :: behind => run? rules steps (← s.token? rules c behind)

end Scan

/-- Whether a character may stand in a text at all. -/
def isPrintable (c : Char) : Bool :=
  let code := c.toNat
  c == '\t' || c == '\n' || c == '\r' || (0x20 ≤ code && code ≤ 0x7e) || code == 0x85 ||
    (0xa0 ≤ code && code ≤ 0xfffd) || 0x10000 ≤ code

def tokens? (rules : Rules) (text : List Char) : Option (List Token) := do
  if rules.printableOnly ∧ !text.all isPrintable then none
  let text := if rules.printableOnly then text else text.takeWhile (· != '\x00')
  let marked := rules.orderMarks ∧ text.head? = some Scan.orderMark
  let text := if marked then text.drop 1 else text
  let s ← Scan.run? rules (text.length + 1) { next := { rest := text } }
  return s.tokens.reverse

end Worksheet.Yaml
