import Worksheet.Yaml.Tokens

/-!
From the tokens of a YAML text to the trees of its documents. Nothing is said yet about what a
plain scalar means. Anchored nodes stand in the tree wherever an alias names them.
-/

namespace Worksheet.Yaml

/-- A tree of scalars, each with its tag if it has one. -/
inductive Node
  | scalar (tag : Option String) (plain : Bool) (text : String)
  | sequence (tag : Option String) (items : List Node)
  | mapping (tag : Option String) (entries : List (Node × Node))
deriving Repr, Inhabited

/-- The node that stands where nothing is written. -/
def Node.nothing : Node := scalar none true ""

/-- What is left of the tokens, and what has been named so far. -/
structure Reading where
  rules : Rules
  tokens : List Token
  anchors : List (String × Node) := []
  /-- What the shorthands at the front of tags stand for. -/
  shorthands : List (String × String) := []

abbrev Reader (α : Type) := StateT Reading Option α

namespace Reader

def peek : Reader (Option Token) := do return (← get).tokens.head?

def drop : Reader Unit := modify fun r => { r with tokens := r.tokens.drop 1 }

def takes (t : Token) : Reader Bool := do
  if (← peek) = some t then
    drop
    return true
  else return false

def expect (t : Token) : Reader Unit := do
  if !(← takes t) then failure

/-- Whether one of some tokens comes next, or none at all. -/
def stopsAt (ends : List Token) : Reader Bool := do
  return (← peek).all ends.contains

/-- Whether an entry starts with its value, and may do so. -/
def lacksKey : Reader Bool := do return (← get).rules.emptyKeys && (← peek) == some .value

def name (anchor : Option String) (n : Node) : Reader Node := do
  match anchor with
  | some a => modify fun r => { r with anchors := (a, n) :: r.anchors }
  | none => pure ()
  return n

/-! ## Properties -/

def resolveTag (handle rest : String) : Reader String := do
  if handle = "" then return rest
  else
    match (← get).shorthands.lookup handle with
    | some meaning => return meaning ++ rest
    | none =>
      match handle with
      | "!" => return "!" ++ rest
      | "!!" => return "tag:yaml.org,2002:" ++ rest
      | _ => failure

/-- Reads an anchor and a tag in either order, each at most once. -/
def properties : Nat → Option String → Option String → Reader (Option String × Option String)
  | 0, anchor, tag => return (anchor, tag)
  | steps + 1, anchor, tag => do
    match ← peek with
    | some (.anchor a) =>
      if anchor.isSome then return (anchor, tag)
      drop
      properties steps (some a) tag
    | some (.tag handle rest) =>
      if tag.isSome then return (anchor, tag)
      drop
      properties steps anchor (some (← resolveTag handle rest))
    | _ => return (anchor, tag)

/-! ## Nodes -/

inductive Place
  /-- Inside brackets. -/
  | flow
  | block
  /-- In an entry of a mapping, where the elements of a sequence need no indentation. -/
  | entry
deriving DecidableEq, Repr

mutual

/-- Reads a node. The first argument bounds how many calls may be nested. -/
def node : Nat → Place → Reader Node
  | 0, _ => failure
  | steps + 1, place => do
    match ← peek with
    | some (.alias a) =>
      drop
      match (← get).anchors.lookup a with
      | some n => return n
      | none => failure
    | _ =>
      let (anchor, tag) ← properties 2 none none
      match ← peek with
      | some (.scalar plain text) =>
        drop
        name anchor (.scalar tag plain text)
      | some .flowSequence =>
        drop
        name anchor (.sequence tag (← flowItems steps true))
      | some .flowMapping =>
        drop
        name anchor (.mapping tag (← flowEntries steps true))
      | some .blockSequence =>
        if place = .flow then failure
        drop
        let items ← elements steps
        expect .blockEnd
        name anchor (.sequence tag items)
      | some .blockMapping =>
        if place = .flow then failure
        drop
        name anchor (.mapping tag (← blockEntries steps))
      | some .element =>
        if place = .entry then name anchor (.sequence tag (← elements steps))
        else if anchor.isSome || tag.isSome then name anchor (.scalar tag true "")
        else failure
      | _ =>
        if anchor.isSome || tag.isSome then name anchor (.scalar tag true "") else failure

/-- Reads a node, or nothing where one of some tokens comes next. -/
def nodeUnless : Nat → Place → List Token → Reader Node
  | 0, _, _ => failure
  | steps + 1, place, ends => do
    if ← stopsAt ends then return .nothing else node steps place

def elements : Nat → Reader (List Node)
  | 0 => failure
  | steps + 1 => do
    if ← takes .element then
      let n ← nodeUnless steps .block [.element, .key, .value, .blockEnd]
      return n :: (← elements steps)
    else return []

/-- Reads the entries of a mapping in a block, and its end. -/
def blockEntries : Nat → Reader (List (Node × Node))
  | 0 => failure
  | steps + 1 => do
    if ← takes .blockEnd then return []
    let key ←
      if ← takes .key then nodeUnless steps .entry [.key, .value, .blockEnd]
      else if ← lacksKey then pure .nothing
      else failure
    let value ←
      if ← takes .value then nodeUnless steps .entry [.key, .value, .blockEnd]
      else pure .nothing
    return (key, value) :: (← blockEntries steps)

def flowItems : Nat → Bool → Reader (List Node)
  | 0, _ => failure
  | steps + 1, first => do
    if ← takes .flowSequenceEnd then return []
    if !first then expect .separator
    if ← takes .key then
      let key ← node steps .flow
      let value ← flowValue steps [.separator, .flowSequenceEnd]
      return .mapping none [(key, value)] :: (← flowItems steps false)
    else if ← lacksKey then
      let value ← flowValue steps [.separator, .flowSequenceEnd]
      return .mapping none [(.nothing, value)] :: (← flowItems steps false)
    else if ← takes .flowSequenceEnd then return []
    else
      let n ← node steps .flow
      return n :: (← flowItems steps false)

def flowEntries : Nat → Bool → Reader (List (Node × Node))
  | 0, _ => failure
  | steps + 1, first => do
    if ← takes .flowMappingEnd then return []
    if !first then expect .separator
    if ← takes .key then
      let key ← nodeUnless steps .flow [.value, .separator, .flowMappingEnd]
      let value ← flowValue steps [.separator, .flowMappingEnd]
      return (key, value) :: (← flowEntries steps false)
    else if ← lacksKey then
      let value ← flowValue steps [.separator, .flowMappingEnd]
      return (.nothing, value) :: (← flowEntries steps false)
    else if ← takes .flowMappingEnd then return []
    else
      let key ← node steps .flow
      return (key, .nothing) :: (← flowEntries steps false)

/-- Reads the value of an entry in brackets, which may be missing. -/
def flowValue : Nat → List Token → Reader Node
  | 0, _ => failure
  | steps + 1, ends => do
    if ← takes .value then nodeUnless steps .flow ends else return .nothing

end

/-! ## Documents -/

/-- Reads directives; each may be given once. -/
def directives : Nat → List String → Reader Unit
  | 0, _ => failure
  | steps + 1, seen => do
    match ← peek with
    | some (.directive d) =>
      drop
      match d with
      | .version major minor =>
        if seen.contains "" || major ≠ 1 || !(minor == 1 || minor == 2) then failure
        directives steps ("" :: seen)
      | .shorthand handle meaning =>
        if seen.contains handle then failure
        modify fun r => { r with shorthands := (handle, meaning) :: r.shorthands }
        directives steps (handle :: seen)
      | .unknown => directives steps seen
    | _ => return

/-- Reads the content of a document and the mark of its end, if there is one. -/
def content (steps : Nat) (explicit : Bool) : Reader (Node × Bool) := do
  let empty : Bool ← match ← peek with
    | none | some .documentStart | some .documentEnd | some (.directive _) => pure explicit
    | _ => pure false
  let n ← if empty then pure .nothing else node steps .block
  return (n, ← takes .documentEnd)

def dropEnds : Nat → Reader Unit
  | 0 => return
  | steps + 1 => do if ← takes .documentEnd then dropEnds steps

/-- Reads documents; the first may do without being announced, and so may others after the mark of
an end. -/
def documents : Nat → Bool → Reader (List Node)
  | 0, _ => failure
  | steps + 1, bare => do
    let bareToo := (← get).rules.bareDocuments
    if !bare || bareToo then dropEnds (steps + 1)
    match ← peek with
    | none => return []
    | some t =>
      modify fun r => { r with anchors := [], shorthands := [] }
      let explicit : Bool := match t with
        | .directive _ | .documentStart => true
        | _ => !bare
      if explicit then
        directives (steps + 1) []
        expect .documentStart
      let (n, ended) ← content (3 * steps + 3) explicit
      return n :: (← documents steps (ended && bareToo))

end Reader

def documents? (rules : Rules) (text : String) : Option (List Node) := do
  let tokens ← tokens? rules text.toList
  let r ← (Reader.documents (2 * tokens.length + 2) true).run { rules := rules, tokens := tokens }
  return r.1

end Worksheet.Yaml
