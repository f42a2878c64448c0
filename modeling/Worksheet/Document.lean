import Worksheet.Number.Basic

/-!
Documents: what a data file says, whatever format it is written in. Every reader of a format
produces one, and what the program takes from a file it takes from a document.
-/

namespace Worksheet

inductive Scalar
  | null
  | boolean (b : Bool)
  | integer (n : Int)
  | real (x : Number)
  | text (s : String)
  /-- A datum that no use of a document accepts, such as a date or a number out of range. -/
  | unusable
deriving DecidableEq, Repr

/-- A tree of data. The entries of a table keep the order and the repetitions of the file. -/
inductive Document
  /-- A datum, and the text that stands for it in a format where other texts may too. -/
  | scalar (value : Scalar) (written : String)
  | list (items : List Document)
  | table (entries : List (String × Document))
deriving Repr, Inhabited

namespace Document

def null : Document := scalar .null ""

/-- A datum in a format where how it is written does not matter. -/
def datum (value : Scalar) : Document := scalar value ""

/-- A document that no use accepts. -/
def refused : Document := list [table []]

mutual

/-- How many lists and tables are nested at the deepest place. -/
def depth : Document → Nat
  | scalar _ _ => 0
  | list items => depthOfItems items + 1
  | table entries => depthOfEntries entries + 1

def depthOfItems : List Document → Nat
  | [] => 0
  | d :: rest => max d.depth (depthOfItems rest)

def depthOfEntries : List (String × Document) → Nat
  | [] => 0
  | (_, d) :: rest => max d.depth (depthOfEntries rest)

end

end Document

end Worksheet
