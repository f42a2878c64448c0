import Worksheet.Number.Reading

/-!
Paths of files, as far as their form tells something: the parts between slashes, the name at the
end and its extension, and the path of the directory around it.
-/

namespace Worksheet.Path

def stretches : List Char → List (List Char)
  | [] => [[]]
  | c :: path =>
    if c = '/' then [] :: stretches path
    else
      match stretches path with
      | [] => [[c]]
      | s :: rest => (c :: s) :: rest

/-- Whether a stretch says nothing. -/
def isIdle (s : List Char) : Bool := s.isEmpty || s == ['.']

/-- The parts of a path, which lead from one directory to the next. -/
def parts (path : String) : List String :=
  ((stretches path.toList).filter fun s => !isIdle s).map String.ofList

/-- The name at the end of a path, unless the path ends by going up. -/
def fileName? (path : String) : Option String := (parts path).getLast?.filter (· ≠ "..")

/-- What follows the last point of a name. A point at the start does not count. -/
def extensionOf? (name : String) : Option String :=
  let behind := name.toList.reverse.takeWhile (· != '.')
  let before := name.toList.reverse.drop (behind.length + 1)
  if before.isEmpty then none else some (String.ofList behind.reverse)

/-- The extension of a path in lower case; empty if there is none. -/
def extension (path : String) : String :=
  match (fileName? path).bind extensionOf? with
  | some e => String.ofList (lowercase e.toList)
  | none => ""

/-- Whether a path ends with a slash, or with a point behind one. -/
def isOpen (path : String) : Bool :=
  match (stretches path.toList).getLast? with
  | some s => isIdle s && !path.isEmpty
  | none => false

/-- Whether the last stretch with anything in it is a point. -/
def endsWithPoint (path : String) : Bool :=
  ((stretches path.toList).filter (!·.isEmpty)).getLast? == some ['.']

/-- The name that a path ends with, slashes apart. A point at the end leads to the directory before
it, and is no name. -/
def endName? (path : String) : Option String := if endsWithPoint path then none else fileName? path

def dropIdle (stretches : List (List Char)) : List (List Char) :=
  (stretches.reverse.dropWhile isIdle).reverse

def join (stretches : List (List Char)) : List Char := (stretches.intersperse ['/']).flatten

/-- The path of the directory around a path, written as in the path itself. A point at the start of
a path counts as a part. There is no directory around the root. -/
def directory? (path : String) : Option String :=
  let root := path.toList.takeWhile (· == '/') |>.take 1
  let all := stretches (path.toList.drop root.length)
  let start := if root.isEmpty && all.head? == some ['.'] then [['.']] else []
  match dropIdle (all.drop start.length) with
  | [] => if start.isEmpty then none else some ""
  | inner => some (String.ofList (root ++ join (start ++ dropIdle inner.dropLast)))

end Worksheet.Path
