import Worksheet.Yaml.Schema

/-!
What the nodes at the front of a page mean. The words for numbers differ a little from those of
YAML files, whole numbers beyond 64 bits are rounded, and no key of a mapping may be repeated.
-/

namespace Worksheet.Frontmatter

open Yaml

/-- The whole number of 64 bits that a text denotes. -/
def whole? (text : List Char) : Option Int :=
  (signedWhole? text).filter fun n => -(Nat.pow 2 63) ≤ n && n < Nat.pow 2 63

/-- A whole number in a base of at most sixteen, with a sign or without. -/
def wholeIn? (base : Nat) (text : List Char) : Option Int :=
  let (negative, digits) := readSign text
  ((ofDigitsIn? base digits).map fun (n : Nat) => if negative then -(n : Int) else n).filter
    fun n => -(Nat.pow 2 63) ≤ n && n < Nat.pow 2 63

/-- A whole number. A sign may stand behind another if the first is a plus. -/
def integer? (text : List Char) : Option Int :=
  match text with
  | '0' :: 'x' :: digits => wholeIn? 16 digits
  | '0' :: 'o' :: digits => wholeIn? 8 digits
  | '+' :: digits => (whole? digits).or (whole? text)
  | text => whole? text

/-- Whether a text names a number without digits. These count as zero. -/
def isNumberWord (text : String) : Bool :=
  isNanText text || isInfinityText text ||
    (isInfinityText (String.ofList (text.toList.drop 1)) &&
      (text.startsWith "+" || text.startsWith "-"))

/-- A number that need not be whole. -/
def real? (text : String) : Option Number :=
  if isNumberWord text then some .zero
  else if text.toList.any Char.isDigit then Number.ofText? text.toList
  else none

/-- A number as a datum. What is not finite is lost. -/
def scalarOfReal (x : Number) : Scalar := if x.isFinite then .real x else .null

def plainScalar (text : String) : Scalar :=
  match integer? text.toList with
  | some n => .integer n
  | none =>
    if text.isEmpty || isNullText text then .null
    else
      match booleanText? text with
      | some b => .boolean b
      | none => ((real? text).map scalarOfReal).getD (.text text)

/-- The meaning of a plain scalar with a tag. What does not suit a tag is lost. -/
def taggedScalar (tag text : String) : Scalar :=
  if tag = commonTag "bool" then
    if text = "true" then .boolean true else if text = "false" then .boolean false else .null
  else if tag = commonTag "int" then ((whole? text.toList).map Scalar.integer).getD .null
  else if tag = commonTag "float" then ((real? text).map scalarOfReal).getD .null
  else if tag = commonTag "null" then .null
  else .text text

def scalarOf (tag : Option String) (plain : Bool) (text : String) : Scalar :=
  if !plain then .text text
  else
    match tag with
    | some tag => taggedScalar tag text
    | none => plainScalar text

def keyText (written : String) : Scalar → String
  | .null => "null"
  | .boolean b => if b then "true" else "false"
  | .integer n => toString n
  | .text s => s
  | .real _ | .unusable => written

mutual

def document? : Node → Option Document
  | .scalar tag plain text => some (.datum (scalarOf tag plain text))
  | .sequence _ items => (documents? items).map .list
  | .mapping _ entries => (entries? [] entries).map .table

def documents? : List Node → Option (List Document)
  | [] => some []
  | n :: rest => do return (← document? n) :: (← documents? rest)

/-- The entries of a mapping, given the keys before them. -/
def entries? (seen : List Scalar) : List (Node × Node) → Option (List (String × Document))
  | [] => some []
  | (.scalar tag plain text, n) :: rest => do
    let key := scalarOf tag plain text
    if seen.contains key then none
    let d ← document? n
    return (keyText text key, d) :: (← entries? (key :: seen) rest)
  | _ => none

end

def rules : Rules where
  wideBreaks := false
  printableOnly := false
  orderMarks := false
  endsLastLine := true
  bareBlocks := true
  bareDocuments := true
  idleEnds := true
  emptyKeys := true
  colonEndsInFlow := true
  skipsDirectives := true
  lenientTabs := true
  needsBlanks := true
  strictIndents := true
  flowWords := true
  longFlowKeys := true
  mostBrackets := some 255
  wideAnchors := true

/-- The first document at the front of a page. -/
def read? (text : String) : Option Document := do
  match ← Yaml.documents? rules text with
  | [] => some .null
  | n :: _ => document? n

end Worksheet.Frontmatter
