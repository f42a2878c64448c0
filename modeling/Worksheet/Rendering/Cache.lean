import Worksheet.Dictionary
import Worksheet.Number.Basic
import Worksheet.Log
import Worksheet.Template.Parsing

/-!
A cache of parsed templates. A template is parsed on its first use and its tree is shared by all
later uses until the cache is cleared; failures are not kept. Trees carry the time at which they
were made, so that two uses share a tree exactly if the times agree.
-/

namespace Worksheet

/-- A parsed template and the time at which its tree was made. -/
structure SharedBody where
  made : Nat
  body : Body
deriving DecidableEq, Repr

/-- How often a cache answered from its entries, and how often it had to parse. -/
structure CacheStats where
  hits : Nat
  misses : Nat
  entries : Nat
deriving DecidableEq, Repr

namespace CacheStats

/-- The share of hits in percent. The quotient is rounded before it is scaled. -/
def hitRate (s : CacheStats) : Number :=
  let total := s.hits + s.misses
  if total = 0 then .zero
  else
    let magnitude (n : Nat) : Nat := Number.nearestMagnitude (n * Number.unitsPerOne) 1
    let share := Number.divMagnitude (magnitude s.hits) (magnitude total)
    .ofMagnitude false (Number.mulMagnitude share (magnitude 100))

end CacheStats

structure ParseCache where
  entries : Dictionary SharedBody := .empty
  hits : Nat := 0
  misses : Nat := 0
deriving Repr

/-- What the lexer tells an observer about a template. -/
def tokenizeEntry (template : String) : LogEntry :=
  ⟨.trace, s!"Tokenized template into {(tokenize template).length} token(s)"⟩

namespace ParseCache

def stats (c : ParseCache) : CacheStats := ⟨c.hits, c.misses, c.entries.size⟩

/-- The tree of a template: a kept one, or one made now under the given limit. -/
def getOrParse (now limit : Nat) (template : String) (c : ParseCache) :
    Except SyntaxError SharedBody × ParseCache :=
  match c.entries.get? template with
  | some shared => (.ok shared, { c with hits := c.hits + 1 })
  | none =>
    let c := { c with misses := c.misses + 1 }
    match Body.parse limit template with
    | .error e => (.error e, c)
    | .ok body => (.ok ⟨now, body⟩, { c with entries := c.entries.insert template ⟨now, body⟩ })

def logOfGet (limit : Nat) (template : String) (c : ParseCache) : List LogEntry :=
  match c.entries.get? template with
  | some _ => []
  | none =>
    tokenizeEntry template ::
      match Body.parse limit template with
      | .error _ => []
      | .ok _ => [⟨.debug, s!"Cached parsed template ({template.utf8ByteSize} bytes)"⟩]

inductive Request
  | get (limit : Nat) (template : String)
  | clear
deriving DecidableEq, Repr

/-- Answers a request made at a time. Clearing gives no tree. -/
def answer (now : Nat) (c : ParseCache) :
    Request → Option (Except SyntaxError SharedBody) × ParseCache
  | .get limit template =>
    let (result, c) := c.getOrParse now limit template
    (some result, c)
  | .clear => (none, {})

/-- Answers requests one after the other, each at its own time, with the states they lead to. -/
def answers (now : Nat) (c : ParseCache) :
    List Request → List (Option (Except SyntaxError SharedBody) × ParseCache)
  | [] => []
  | r :: rest =>
    let result := c.answer now r
    result :: answers (now + 1) result.2 rest

end ParseCache

end Worksheet
