import Worksheet.Template.Body

/-!
The names a template looks up in its context. The element and the position of an iteration are
bound by the iteration itself, so inside one they are left out.
-/

namespace Worksheet

def insertNew (names : List String) (name : String) : List String :=
  if name ∈ names then names else names ++ [name]

/-- The names of a template by the way they are used, each list in the order of first use. -/
structure References where
  insertions : List String := []
  conditions : List String := []
  sources : List String := []
deriving DecidableEq, Repr

namespace References

/-- Every name once: insertions, then conditions, then sources. -/
def allNames (r : References) : List String :=
  (r.insertions ++ r.conditions ++ r.sources).foldl insertNew []

def contains (r : References) (name : String) : Bool :=
  r.insertions.contains name || r.conditions.contains name || r.sources.contains name

end References

/-- Whether an iteration binds the name for its own body. -/
def isLoopName (name : String) : Bool := name == itemName || name == indexName

namespace Body

/-- Notes a name unless an enclosing iteration binds it. -/
def note (looping : Bool) (names : List String) (name : String) : List String :=
  if looping && isLoopName name then names else insertNew names name

/-- Adds the names of a body to those met before it. -/
def addReferences (looping : Bool) : Body → References → References
  | empty, r => r
  | literal _ rest, r => rest.addReferences looping r
  | reference name rest, r =>
    rest.addReferences looping { r with insertions := note looping r.insertions name }
  | block .conditional name inner rest, r =>
    rest.addReferences looping <|
      inner.addReferences looping { r with conditions := note looping r.conditions name }
  | block .iteration name inner rest, r =>
    rest.addReferences looping <|
      inner.addReferences true { r with sources := note looping r.sources name }

def references (b : Body) : References := b.addReferences false {}

end Body

end Worksheet
