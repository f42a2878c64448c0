import Worksheet.Failure
import Worksheet.Path

/-!
Files, as far as a run of the program meets them: their contents, the directories there are, and
the directory that paths start from. What stands in the way of reading or writing a file follows
from these alone.
-/

namespace Worksheet

/-- A way down from the root, by names. -/
abbrev Location := List String

inductive Content
  | text (s : String)
  /-- Bytes that encode no text. -/
  | binary
deriving DecidableEq, Repr

inductive FileError
  | notFound
  | notDirectory
  | isDirectory
  | exists
  | notText
deriving DecidableEq, Repr

namespace FileError

def message : FileError → String
  | notFound => "No such file or directory (os error 2)"
  | notDirectory => "Not a directory (os error 20)"
  | isDirectory => "Is a directory (os error 21)"
  | .exists => "File exists (os error 17)"
  | notText => "stream did not contain valid UTF-8"

def kind : FileError → FileErrorKind
  | notFound => .notFound
  | notText => .invalidData
  | _ => .uncommon

def failure (activity : String) (e : FileError) : Failure :=
  ⟨.file e.kind e.message, [activity]⟩

end FileError

structure Files where
  /-- Where paths start that do not start at the root. -/
  here : Location := []
  contents : List (Location × Content) := []
  /-- Directories, apart from those that hold something. -/
  directories : List Location := []
deriving DecidableEq, Repr

namespace Files

def content? (f : Files) (l : Location) : Option Content := f.contents.lookup l

def isFile (f : Files) (l : Location) : Bool := (f.content? l).isSome

def isDirectory (f : Files) (l : Location) : Bool :=
  l.isPrefixOf f.here || f.directories.any l.isPrefixOf ||
    f.contents.any fun e => e.1.length ≠ l.length && l.isPrefixOf e.1

/-- What is wrong with going on from a location that is no directory. -/
def obstacle (f : Files) (l : Location) : FileError :=
  if f.isFile l then .notDirectory else .notFound

/-- One step from a directory. Above the root there is the root. -/
def step (l : Location) (part : String) : Location :=
  if part = ".." then l.dropLast else l ++ [part]

/-- Follows parts of a path through directories. -/
def walk (f : Files) (l : Location) : List String → Except FileError Location
  | [] => .ok l
  | part :: rest =>
    if f.isDirectory l then f.walk (step l part) rest else .error (f.obstacle l)

def start (f : Files) (path : String) : Location := if path.startsWith "/" then [] else f.here

/-- The location that a path leads to, whether or not there is anything. A path that ends with a
slash can only lead to a directory. -/
def locate (f : Files) (path : String) : Except FileError Location :=
  if path.isEmpty then .error .notFound
  else do
    let l ← f.walk (f.start path) (Path.parts path)
    if Path.isOpen path && !f.isDirectory l then throw (f.obstacle l)
    return l

def has (f : Files) (path : String) : Bool :=
  match f.locate path with
  | .ok l => f.isFile l || f.isDirectory l
  | .error _ => false

def readText (f : Files) (path : String) : Except FileError String := do
  let l ← f.locate path
  match f.content? l with
  | some (.text s) => return s
  | some .binary => throw .notText
  | none => throw (if f.isDirectory l then .isDirectory else .notFound)

/-- The directories that are missing on a way, from a location that is a directory or will be
one. -/
def missing (f : Files) (l : Location) : List String → Except FileError (List Location)
  | [] => .ok []
  | part :: rest =>
    let next := step l part
    if f.isDirectory next then f.missing next rest
    else if f.isFile next then .error (if rest.isEmpty then .exists else .notDirectory)
    -- From here on each directory is made on its own, so a file behind is in the place of one.
    else ((f.missing next rest).map (next :: ·)).mapError fun _ => .exists

/-- The directories that have to be made so that a path leads to one. -/
def missingDirectories (f : Files) (path : String) : Except FileError (List Location) :=
  f.missing (f.start path) (Path.parts path)

/-- The location that is written to by way of a path. Nothing can be written to a directory, nor by
way of a path that can only lead to one. -/
def target (f : Files) (path : String) : Except FileError Location :=
  match Path.endName? path with
  | some name => do
    let around ← f.walk (f.start path) (Path.parts path).dropLast
    if !f.isDirectory around then throw (f.obstacle around)
    if Path.isOpen path || f.isDirectory (around ++ [name]) then throw .isDirectory
    return around ++ [name]
  | none => do
    -- The last stretch is no name to be made, so what stands in the way is met like in a look-up.
    let _ ← f.locate path
    throw .isDirectory

def withDirectory (f : Files) (l : Location) : Files :=
  { f with directories := l :: f.directories }

def withText (f : Files) (l : Location) (s : String) : Files :=
  { f with contents := (l, .text s) :: f.contents.filter (·.1 ≠ l) }

end Files

end Worksheet
