import Worksheet.Json.Reader
import Worksheet.Json.Writer
import Worksheet.Value.Basic

/-!
Values and contexts as JSON. Every value has a JSON form. In the other direction objects have no
value, and the first one met is blamed by the path that leads to it.
-/

namespace Worksheet

inductive DataError
  | notAnObject (found : String)
  | unsupported (path : String) (found : String)
  | invalidJson
deriving DecidableEq, Repr

def DataError.message : DataError → String
  | notAnObject found => s!"context must be a JSON object mapping names to values, found {found}"
  | unsupported path found =>
    s!"unsupported {found} value at '{path}': " ++
      "context values must be text, numbers, booleans, lists or null"
  | invalidJson => "invalid context JSON"

namespace Value

mutual

/-- The value of some data found at a path. -/
def ofJson (path : String) : Json → Except DataError Value
  | .null => .ok null
  | .boolean b => .ok (boolean b)
  | .integer n => .ok (number (.ofInt n))
  | .real x => .ok (number x)
  | .string s => .ok (text s)
  | .array items => (ofItems path 0 items).map list
  | .object _ => .error (.unsupported path "object")

/-- The values of the elements of an array, counted from `index`. -/
def ofItems (path : String) (index : Nat) : List Json → Except DataError (List Value)
  | [] => .ok []
  | j :: rest => do
    let v ← ofJson (path ++ s!"[{index}]") j
    return v :: (← ofItems path (index + 1) rest)

end

mutual

def toJson : Value → Json
  | null => .null
  | boolean b => .boolean b
  | number x => .real x
  | text s => .string s
  | list items => .array (jsonOfItems items)

def jsonOfItems : List Value → List Json
  | [] => []
  | v :: rest => v.toJson :: jsonOfItems rest

end

def ofJsonText (text : String) : Except DataError Value :=
  match Json.parse? text with
  | none => .error .invalidJson
  | some j => ofJson "$" j

end Value

namespace Context

def ofMembers : List (String × Json) → Except DataError (List (String × Value))
  | [] => .ok []
  | (name, j) :: rest => do
    let v ← Value.ofJson name j
    return (name, v) :: (← ofMembers rest)

def ofJson : Json → Except DataError Context
  | .object members => (ofMembers members).map .ofList
  | j => .error (.notAnObject j.typeName)

def ofJsonText (text : String) : Except DataError Context :=
  match Json.parse? text with
  | none => .error .invalidJson
  | some j => ofJson j

def toJson (c : Context) : Json := .object (c.entries.map fun e => (e.1, e.2.toJson))

end Context

end Worksheet
