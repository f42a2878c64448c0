import Worksheet.Template.Marker

/-!
The parsed form of a template. A body is a sequence of literal texts, references and blocks, and
a block holds a body of its own. The sequence is part of the inductive type, so every definition
on bodies is one structural recursion over what a body starts with and what follows.
-/

namespace Worksheet

/-- What a template or a block consists of, first part first. -/
inductive Body
  | empty
  | literal (text : String) (rest : Body)
  | reference (name : String) (rest : Body)
  | block (kind : BlockKind) (name : String) (inner rest : Body)
deriving DecidableEq, Repr, Inhabited

namespace Body

def isEmpty : Body → Bool
  | empty => true
  | _ => false

def append : Body → Body → Body
  | empty, b => b
  | literal text rest, b => literal text (rest.append b)
  | reference name rest, b => reference name (rest.append b)
  | block kind name inner rest, b => block kind name inner (rest.append b)

instance : Append Body := ⟨append⟩

/-- Moves the parts of the first body over to the second one by one. The insides of blocks stay. -/
def reverseOnto : Body → Body → Body
  | empty, done => done
  | literal text rest, done => rest.reverseOnto (literal text done)
  | reference name rest, done => rest.reverseOnto (reference name done)
  | block kind name inner rest, done => rest.reverseOnto (block kind name inner done)

def reverse (b : Body) : Body := b.reverseOnto empty

def depth : Body → Nat
  | empty => 0
  | literal _ rest => rest.depth
  | reference _ rest => rest.depth
  | block _ _ inner rest => max (inner.depth + 1) rest.depth

/-- The template text a body stands for. -/
def spell : Body → List Char
  | empty => []
  | literal text rest => text.toList ++ rest.spell
  | reference name rest => (Marker.reference name).spell ++ rest.spell
  | block kind name inner rest =>
    (Marker.opening kind name).spell ++ inner.spell ++ (Marker.closing kind).spell ++ rest.spell

def print (b : Body) : String := String.ofList b.spell

/-- A part of a body without what it holds. -/
inductive Part
  | literal (text : String)
  | reference (name : String)
  | block (kind : BlockKind) (name : String)
deriving DecidableEq, Repr

/-- All parts in the order of the template, each with the number of blocks around it. -/
def parts (level : Nat) : Body → List (Nat × Part)
  | empty => []
  | literal text rest => (level, .literal text) :: rest.parts level
  | reference name rest => (level, .reference name) :: rest.parts level
  | block kind name inner rest =>
    (level, .block kind name) :: (inner.parts (level + 1) ++ rest.parts level)

/-! ## Outline -/

/-- How an outline shows a part: a literal by its number of characters, all else by its name. -/
def Part.label : Part → String
  | literal text => s!"text ({text.length} chars)"
  | reference name => braced name
  | block kind name => s!"#{kind.keyword} {name}"

/-- One line of an outline, indented by two blanks for each block around the part. -/
def outlineLine (entry : Nat × Part) : String :=
  String.ofList (List.replicate (2 * entry.1) ' ') ++ entry.2.label ++ "\n"

/-- The block structure for a reader: one line for each part. -/
def outline (b : Body) : String := String.join ((b.parts 0).map outlineLine)

end Body

end Worksheet
