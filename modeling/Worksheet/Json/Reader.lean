import Worksheet.Json.Basic
import Worksheet.Json.Token

/-!
Reading JSON. The tokens are taken one by one; arrays and objects that are still open lie on a
stack. The result is a document, so that members nobody asks for may hold data that JSON can
write and nothing can use.
-/

namespace Worksheet.Json

/-- An array or object that is still open, its last element first. An object also holds the name
whose value is being read. A name that is no text makes the object unusable. -/
inductive Container
  | array (items : List Document)
  | object (entries : List (Option String × Document)) (name : Option String)
deriving Repr

inductive Expected
  | value
  | itemOrEnd
  | nameOrEnd
  | name
  | colon
  | separator
  | nothing
deriving DecidableEq, Repr

structure Reading where
  expected : Expected := .value
  opened : List Container := []
  result : Document := .null
deriving Repr

/-- The table of an object's entries, if all names are texts. -/
def tableOf (entries : List (Option String × Document)) : Document :=
  let named := entries.mapM fun (name, d) => name.map fun name => (name, d)
  match named with
  | some entries => .table entries
  | none => .datum .unusable

namespace Reading

/-- Hands a finished document to the innermost container. -/
def deliver (opened : List Container) (d : Document) : Reading :=
  match opened with
  | [] => ⟨.nothing, [], d⟩
  | .array items :: outer => ⟨.separator, .array (d :: items) :: outer, .null⟩
  | .object entries name :: outer =>
    ⟨.separator, .object ((name, d) :: entries) none :: outer, .null⟩

def value (opened : List Container) : Token → Option Reading
  | .openArray => some ⟨.itemOrEnd, .array [] :: opened, .null⟩
  | .openObject => some ⟨.nameOrEnd, .object [] none :: opened, .null⟩
  | .null => some (deliver opened (.datum .null))
  | .boolean b => some (deliver opened (.datum (.boolean b)))
  | .number l => some (deliver opened (.datum l.datum))
  | .string (some s) => some (deliver opened (.datum (.text s)))
  | .string none => some (deliver opened (.datum .unusable))
  | _ => none

def close (opened : List Container) : Token → Option Reading
  | .closeArray =>
    match opened with
    | .array items :: outer => some (deliver outer (.list items.reverse))
    | _ => none
  | .closeObject =>
    match opened with
    | .object entries _ :: outer => some (deliver outer (tableOf entries.reverse))
    | _ => none
  | _ => none

def member (opened : List Container) : Token → Option Reading
  | .string s =>
    match opened with
    | .object entries _ :: outer => some ⟨.colon, .object entries s :: outer, .null⟩
    | _ => none
  | _ => none

def afterComma (opened : List Container) : Option Reading :=
  match opened with
  | .array _ :: _ => some ⟨.value, opened, .null⟩
  | .object _ _ :: _ => some ⟨.name, opened, .null⟩
  | [] => none

def feed (s : Reading) (t : Token) : Option Reading :=
  match s.expected with
  | .value => value s.opened t
  | .itemOrEnd => if t = .closeArray then close s.opened t else value s.opened t
  | .nameOrEnd => if t = .closeObject then close s.opened t else member s.opened t
  | .name => member s.opened t
  | .colon => if t = .colon then some { s with expected := .value } else none
  | .separator => if t = .comma then afterComma s.opened else close s.opened t
  | .nothing => none

end Reading

def read? (text : String) : Option Document := do
  let s ← (← tokens? text.toList).foldlM Reading.feed {}
  if s.expected = .nothing then some s.result else none

def parse? (text : String) : Option Json := (read? text).bind ofDocument?

end Worksheet.Json
