import Worksheet.Template.Parsing
import Worksheet.Template.References
import Worksheet.Value.Basic

/-!
Descriptors: a template together with the inputs its author declares for it. Declarations are
advisory; a template is rendered whatever it refers to.
-/

namespace Worksheet

/-- What kind of form field a variable is collected with. -/
inductive VariableType
  | text
  | textarea
  | number
  | boolean
  | select
deriving DecidableEq, Repr

namespace VariableType

def all : List VariableType := [text, textarea, number, boolean, select]

def name : VariableType → String
  | text => "text"
  | textarea => "textarea"
  | number => "number"
  | boolean => "boolean"
  | select => "select"

/-- The type with a given name. Two types have a second name. -/
def ofName? : String → Option VariableType
  | "text" | "string" => some text
  | "textarea" => some textarea
  | "number" => some number
  | "boolean" | "bool" => some boolean
  | "select" => some select
  | _ => none

/-- Whether a value has the shape the type asks for. The absence of a value suits all types. -/
def accepts : VariableType → Value → Bool
  | _, .null => true
  | text, .text _ | textarea, .text _ | select, .text _ => true
  | number, .number _ => true
  | boolean, .boolean _ => true
  | _, _ => false

end VariableType

/-- A declared input of a template. -/
structure Variable where
  name : String
  type : VariableType := .text
  /-- What a form calls the variable, unless it is empty. -/
  label : String := ""
  required : Bool := false
  default : Option Value := none
  /-- The values a select variable can take. -/
  options : List String := []
  description : Option String := none
deriving Repr

/-- What a form calls a variable: its label, or its name if there is none. -/
def Variable.displayLabel (v : Variable) : String := if v.label.isEmpty then v.name else v.label

/-- A part of a template that one condition shows or hides. -/
structure Section where
  id : String
  name : String
  condition : String
  description : Option String := none
deriving DecidableEq, Repr

/-- How long a lesson takes, in minutes or in words. -/
inductive EstimatedTime
  | minutes (n : UInt32)
  | text (s : String)
deriving DecidableEq, Repr

def EstimatedTime.display : EstimatedTime → String
  | minutes n => s!"{n.toNat} min"
  | text s => s

/-- Facts about a template that play no part in rendering it. -/
structure Metadata where
  author : Option String := none
  version : Option String := none
  tags : List String := []
  difficulty : Option String := none
  estimatedTime : Option EstimatedTime := none
deriving DecidableEq, Repr

def Metadata.isEmpty (m : Metadata) : Bool := m = {}

structure Descriptor where
  name : Option String := none
  description : Option String := none
  template : String
  inputs : List Variable := []
  sections : List Section := []
  /-- Texts for a later step of generation, by purpose. -/
  prompts : Dictionary String := .empty
  metadata : Metadata := {}
deriving Repr

namespace Descriptor

def findVariable? (d : Descriptor) (name : String) : Option Variable :=
  d.inputs.find? (·.name == name)

def findSection? (d : Descriptor) (id : String) : Option Section := d.sections.find? (·.id == id)

/-- The names the declarations make available: of variables, and of conditions of sections. -/
def declaredNames (d : Descriptor) : List String :=
  (d.inputs.map (·.name) ++ d.sections.map (·.condition)).foldl insertNew []

/-- The name used in messages. -/
def displayName (d : Descriptor) (fallback : String) : String := d.name.getD fallback

end Descriptor

end Worksheet
