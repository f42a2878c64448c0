import Worksheet.Dictionary
import Worksheet.Document

/-!
JSON values, and which documents are one: every datum has to be usable, and lists and tables may
not be nested too deeply. The members of an object are kept by name, each name once.
-/

namespace Worksheet

/-- A JSON value. Whole numbers that fit 64 bits are told apart from other numbers. -/
inductive Json
  | null
  | boolean (b : Bool)
  | integer (n : Int)
  | real (x : Number)
  | string (s : String)
  | array (items : List Json)
  | object (members : List (String × Json))
deriving Repr, Inhabited

namespace Json

def typeName : Json → String
  | null => "null"
  | boolean _ => "boolean"
  | integer _ | real _ => "number"
  | string _ => "string"
  | array _ => "array"
  | object _ => "object"

/-- Lists and objects may be nested this deeply. -/
def deepest : Nat := 127

/-- Members in the order of their names; of members with one name the last counts. -/
def sortMembers (members : List (String × Json)) : List (String × Json) :=
  (Dictionary.ofList members).entries

mutual

/-- The value a document holds, unless some datum is unusable. -/
def ofData? : Document → Option Json
  | .scalar .null _ => some null
  | .scalar (.boolean b) _ => some (boolean b)
  | .scalar (.integer n) _ => some (integer n)
  | .scalar (.real x) _ => some (real x)
  | .scalar (.text s) _ => some (string s)
  | .scalar .unusable _ => none
  | .list items => (ofItems? items).map array
  | .table entries => (ofEntries? entries).map fun members => object (sortMembers members)

def ofItems? : List Document → Option (List Json)
  | [] => some []
  | d :: rest => do return (← ofData? d) :: (← ofItems? rest)

def ofEntries? : List (String × Document) → Option (List (String × Json))
  | [] => some []
  | (key, d) :: rest => do return (key, ← ofData? d) :: (← ofEntries? rest)

end

/-- The value of a document that is not nested too deeply. -/
def ofDocument? (d : Document) : Option Json :=
  if d.depth ≤ deepest then ofData? d else none

mutual

def toDocument : Json → Document
  | null => .datum .null
  | boolean b => .datum (.boolean b)
  | integer n => .datum (.integer n)
  | real x => .datum (.real x)
  | string s => .datum (.text s)
  | array items => .list (documentsOfItems items)
  | object members => .table (documentsOfMembers members)

def documentsOfItems : List Json → List Document
  | [] => []
  | j :: rest => j.toDocument :: documentsOfItems rest

def documentsOfMembers : List (String × Json) → List (String × Document)
  | [] => []
  | (name, j) :: rest => (name, j.toDocument) :: documentsOfMembers rest

end

end Json

end Worksheet
