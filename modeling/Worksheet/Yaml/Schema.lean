import Worksheet.Document
import Worksheet.Number.Reading
import Worksheet.Yaml.Node

/-!
What the nodes of a YAML file mean. A plain scalar is null, a boolean or a number if it is spelled
like one, and a text otherwise; a tag can decide it differently. The texts of scalars are kept,
because they count where a text is asked for.
-/

namespace Worksheet.Yaml

/-- Tags of the common types start like this. -/
def commonTag (name : String) : String := "tag:yaml.org,2002:" ++ name

def isNullText (text : String) : Bool :=
  text == "null" || text == "Null" || text == "NULL" || text == "~"

def booleanText? : String → Option Bool
  | "true" | "True" | "TRUE" => some true
  | "false" | "False" | "FALSE" => some false
  | _ => none

/-! ## Whole numbers -/

/-- Whether digits have a zero in front that says nothing. A sign before them does not count. -/
def isZeroPadded (text : List Char) : Bool :=
  match (readSign text).2 with
  | '0' :: c :: rest => (c :: rest).all Char.isDigit
  | _ => false

/-- The number that digits in a base of at most sixteen denote. -/
def ofDigitsIn? (base : Nat) (digits : List Char) : Option Nat :=
  if digits.isEmpty then none
  else
    digits.foldlM (fun n c => do
      let d ← Json.hexValue? c
      if d < base then some (base * n + d) else none) 0

/-- A whole number without a sign. A letter behind a zero names its base. -/
def magnitude? : List Char → Option Nat
  | '0' :: 'x' :: digits => ofDigitsIn? 16 digits
  | '0' :: 'o' :: digits => ofDigitsIn? 8 digits
  | '0' :: 'b' :: digits => ofDigitsIn? 2 digits
  | digits => if isZeroPadded digits then none else ofDigitsIn? 10 digits

/-- A whole number of at most 128 bits. Longer ones are no whole numbers. -/
def integerText? (text : List Char) : Option Int :=
  match text with
  | '-' :: digits =>
    (magnitude? digits).bind fun n => if n ≤ Nat.pow 2 127 then some (-(n : Int)) else none
  | text =>
    let digits := match text with
      | '+' :: digits => digits
      | digits => digits
    (magnitude? digits).bind fun n => if n < Nat.pow 2 128 then some (n : Int) else none

/-! ## Other numbers -/

/-- The spellings of what is infinite, up to the sign. -/
def isInfinityText (text : String) : Bool := text == ".inf" || text == ".Inf" || text == ".INF"

def isNanText (text : String) : Bool := text == ".nan" || text == ".NaN" || text == ".NAN"

/-- A number that need not be whole. Beyond the words for them no number is infinite. -/
def realText? (text : List Char) : Option Number :=
  let unsigned := match text with
    | '+' :: rest => rest
    | text => text
  let signs := (text.takeWhile fun c => c == '+' || c == '-').length
  if text.head? = some '+' ∧ 1 < signs then none
  else if isInfinityText (String.ofList unsigned) then some (.infinite false)
  else if text.head? = some '-' ∧ isInfinityText (String.ofList (text.drop 1)) then
    some (.infinite true)
  else if isNanText (String.ofList text) then some .notANumber
  else (Number.ofText? unsigned).filter Number.isFinite

/-! ## Nodes -/

def plainScalar (text : String) : Scalar :=
  if text.isEmpty || isNullText text then .null
  else
    match booleanText? text with
    | some b => .boolean b
    | none =>
      match integerText? text.toList with
      | some n => .integer n
      | none =>
        if isZeroPadded text.toList then .text text
        else ((realText? text.toList).map Scalar.real).getD (.text text)

/-- The meaning of a scalar with a tag. Tags of a file's own have none. -/
def taggedScalar (tag text : String) : Scalar :=
  if tag = commonTag "bool" then ((booleanText? text).map Scalar.boolean).getD .unusable
  else if tag = commonTag "int" then ((integerText? text.toList).map Scalar.integer).getD .unusable
  else if tag = commonTag "float" then ((realText? text.toList).map Scalar.real).getD .unusable
  else if tag = commonTag "null" then if isNullText text then .null else .unusable
  else if tag.startsWith "!" then .unusable
  else .text text

def scalarOf (tag : Option String) (plain : Bool) (text : String) : Scalar :=
  match tag with
  | some tag => taggedScalar tag text
  | none => if plain then plainScalar text else .text text

mutual

/-- The meaning of a node. A mapping whose keys are not all scalars has no use. -/
def Node.toDocument : Node → Document
  | .scalar tag plain text => .scalar (scalarOf tag plain text) text
  | .sequence _ items => .list (documentsOf items)
  | .mapping _ entries => ((entriesOf? entries).map Document.table).getD .refused

def documentsOf : List Node → List Document
  | [] => []
  | n :: rest => n.toDocument :: documentsOf rest

def entriesOf? : List (Node × Node) → Option (List (String × Document))
  | [] => some []
  | (.scalar _ _ key, n) :: rest => (entriesOf? rest).map ((key, n.toDocument) :: ·)
  | _ => none

end

def fileRules : Rules where
  wideBreaks := true
  printableOnly := true
  orderMarks := true
  endsLastLine := false
  bareBlocks := false
  bareDocuments := false
  idleEnds := false
  emptyKeys := false
  colonEndsInFlow := false
  skipsDirectives := false
  lenientTabs := false
  needsBlanks := false
  strictIndents := false
  flowWords := false
  longFlowKeys := false
  mostBrackets := none
  wideAnchors := false

/-- The document of a YAML file, which must be the only one in it. -/
def read? (text : String) : Option Document :=
  match documents? fileRules text with
  | some [n] => some n.toDocument
  | _ => none

end Worksheet.Yaml
