import Worksheet.Descriptor.Basic
import Worksheet.Document

/-!
From documents to descriptors. Fields nobody knows are ignored, and a known field given twice makes
the document unreadable. The formats agree on all but a few points, which a `Dialect` names.
-/

namespace Worksheet

/-- Which content a field may have if its name is given in place of a word. -/
inductive WordField
  /-- No field stands for a word. -/
  | none
  | null
  /-- An empty list or an empty table. -/
  | emptyContainer
deriving DecidableEq, Repr

/-- Whether a field with some content may stand for the word that is its name. -/
def WordField.admits : WordField → Document → Bool
  | null, .scalar .null _ => true
  | emptyContainer, .list [] | emptyContainer, .table [] => true
  | _, _ => false

/-- What the formats of descriptors decide for themselves. -/
structure Dialect where
  /-- Whether a text may be given as any datum, and is then what is written for the datum. -/
  writtenTexts : Bool := false
  /-- Whether a place where nothing is written counts as an empty list or table. -/
  emptyAsNothing : Bool := false
  /-- How deeply lists may be nested in a default, if that is limited. -/
  deepestDefault : Option Nat := none
  /-- How a word from a list of words may be given as the name of a field. -/
  wordField : WordField := .none
  /-- Whether a list that gives the fields of a record in order may go on behind the last one. -/
  longRecords : Bool := false
deriving DecidableEq, Repr

/-- The fields of a record: what is given for a known name, if anything is. -/
abbrev Fields := String → Option Document

namespace Document

/-- What a table gives for a name, and whether it gives it only once. -/
def entriesNamed (entries : List (String × Document)) (name : String) : List Document :=
  (entries.filter (·.1 == name)).map Prod.snd

/-- The fields of a table. No known field may be given twice. -/
def fieldsOfTable? (known : List String) (entries : List (String × Document)) : Option Fields :=
  if known.all fun name => (entriesNamed entries name).length ≤ 1 then
    some fun name => (entriesNamed entries name).head?
  else none

/-- The fields of a list, which gives the known ones in order and may stop early. -/
def fieldsOfList (known : List String) (items : List Document) : Fields :=
  fun name => (known.zip items).lookup name

end Document

namespace Dialect

def isEmpty (dialect : Dialect) : Document → Bool
  | .scalar .null written => dialect.emptyAsNothing && written.isEmpty
  | _ => false

def record? (dialect : Dialect) (known : List String) (d : Document) : Option Fields :=
  match d with
  | .table entries => Document.fieldsOfTable? known entries
  | .list items =>
    if dialect.longRecords || items.length ≤ known.length then
      some (Document.fieldsOfList known items)
    else none
  | d => if dialect.isEmpty d then some fun _ => none else none

def text? (dialect : Dialect) : Document → Option String
  | .scalar (.text s) _ => some s
  | .scalar _ written => if dialect.writtenTexts then some written else none
  | _ => none

def listOf? {α : Type} (dialect : Dialect) (read : Document → Option α) (d : Document) :
    Option (List α) :=
  match d with
  | .list items => items.mapM read
  | d => if dialect.isEmpty d then some [] else none

/-- A table of texts; of texts with one name the last counts. -/
def texts? (dialect : Dialect) (d : Document) : Option (Dictionary String) :=
  match d with
  | .table entries =>
    (entries.mapM fun e => (dialect.text? e.2).map fun s => (e.1, s)).map .ofList
  | d => if dialect.isEmpty d then some .empty else none

/-! ## Fields -/

/-- A field that has to be given. -/
def needed? {α : Type} (read : Document → Option α) (d : Option Document) : Option α :=
  d.bind read

/-- A field that may be left out. -/
def given? {α : Type} (default : α) (read : Document → Option α) : Option Document → Option α
  | none => some default
  | some d => read d

/-- A field that may be left out or null. -/
def optional? {α : Type} (read : Document → Option α) : Option Document → Option (Option α)
  | none | some (.scalar .null _) => some none
  | some d => (read d).map some

def boolean? : Document → Option Bool
  | .scalar (.boolean b) _ => some b
  | _ => none

def type? (dialect : Dialect) (d : Document) : Option VariableType :=
  match d with
  | .table [(name, content)] =>
    if dialect.wordField.admits content then VariableType.ofName? name else none
  | d => (dialect.text? d).bind VariableType.ofName?

/-- Whole numbers of 64 bits, with a sign or without. -/
def fits64 (n : Int) : Bool := -(Nat.pow 2 63) ≤ n && n < Nat.pow 2 64

mutual

/-- A value. Tables are none, nor are whole numbers beyond 64 bits. -/
def value? : Document → Option Value
  | .scalar .null _ => some .null
  | .scalar (.boolean b) _ => some (.boolean b)
  | .scalar (.integer n) _ => if fits64 n then some (.number (.ofInt n)) else none
  | .scalar (.real x) _ => some (.number x)
  | .scalar (.text s) _ => some (.text s)
  | .scalar .unusable _ => none
  | .list items => (values? items).map .list
  | .table _ => none

def values? : List Document → Option (List Value)
  | [] => some []
  | d :: rest => do return (← value? d) :: (← values? rest)

end

/-- A default, which may be nested as deeply as the format permits. -/
def default? (dialect : Dialect) (d : Document) : Option Value :=
  match dialect.deepestDefault with
  | some most => if d.depth ≤ most then value? d else none
  | none => value? d

/-- A time in whole minutes or in words. -/
def estimatedTime? : Document → Option EstimatedTime
  | .scalar (.integer n) _ =>
    if 0 ≤ n ∧ n < Nat.pow 2 32 then some (.minutes (UInt32.ofNat n.toNat)) else none
  | .scalar (.text s) _ => some (.text s)
  | _ => none

/-! ## Records -/

def readVariable? (dialect : Dialect) (d : Document) : Option Variable := do
  let fields ← dialect.record?
    ["name", "type", "label", "required", "defaultValue", "options", "description"] d
  return {
    name := ← needed? dialect.text? (fields "name")
    type := ← given? .text dialect.type? (fields "type")
    label := ← given? "" dialect.text? (fields "label")
    required := ← given? false boolean? (fields "required")
    default := ← optional? dialect.default? (fields "defaultValue")
    options := ← given? [] (dialect.listOf? dialect.text?) (fields "options")
    description := ← optional? dialect.text? (fields "description") }

def readSection? (dialect : Dialect) (d : Document) : Option Section := do
  let fields ← dialect.record? ["id", "name", "condition", "description"] d
  return {
    id := ← needed? dialect.text? (fields "id")
    name := ← needed? dialect.text? (fields "name")
    condition := ← needed? dialect.text? (fields "condition")
    description := ← optional? dialect.text? (fields "description") }

def readMetadata? (dialect : Dialect) (d : Document) : Option Metadata := do
  let fields ← dialect.record? ["author", "version", "tags", "difficulty", "estimatedTime"] d
  return {
    author := ← optional? dialect.text? (fields "author")
    version := ← optional? dialect.text? (fields "version")
    tags := ← given? [] (dialect.listOf? dialect.text?) (fields "tags")
    difficulty := ← optional? dialect.text? (fields "difficulty")
    estimatedTime := ← optional? estimatedTime? (fields "estimatedTime") }

def readDescriptor? (dialect : Dialect) (d : Document) : Option Descriptor := do
  let fields ← dialect.record?
    ["name", "description", "template", "variables", "conditionalSections", "customPrompts",
      "metadata"] d
  return {
    name := ← optional? dialect.text? (fields "name")
    description := ← optional? dialect.text? (fields "description")
    template := ← needed? dialect.text? (fields "template")
    inputs := ← given? [] (dialect.listOf? dialect.readVariable?) (fields "variables")
    sections := ← given? [] (dialect.listOf? dialect.readSection?) (fields "conditionalSections")
    prompts := ← given? .empty dialect.texts? (fields "customPrompts")
    metadata := ← given? {} dialect.readMetadata? (fields "metadata") }

end Dialect

end Worksheet
