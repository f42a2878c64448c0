import Worksheet.Descriptor.Basic
import Worksheet.Value.Json

/-!
Descriptors as JSON. Fields that hold nothing are left out, apart from the type of a variable.
-/

namespace Worksheet

/-- A field that is left out if there is no value. -/
def fieldOf (name : String) : Option Json → List (String × Json)
  | some j => [(name, j)]
  | none => []

def textField (name : String) (s : Option String) : List (String × Json) :=
  fieldOf name (s.map .string)

/-- A field for a list that is left out if the list is empty. -/
def listField (name : String) (items : List Json) : List (String × Json) :=
  if items.isEmpty then [] else [(name, .array items)]

def Variable.toJson (v : Variable) : Json :=
  .object <|
    [("name", .string v.name), ("type", .string v.type.name)] ++
    (if v.label.isEmpty then [] else [("label", .string v.label)]) ++
    (if v.required then [("required", .boolean true)] else []) ++
    fieldOf "defaultValue" (v.default.map Value.toJson) ++
    listField "options" (v.options.map .string) ++
    textField "description" v.description

def Section.toJson (s : Section) : Json :=
  .object <|
    [("id", .string s.id), ("name", .string s.name), ("condition", .string s.condition)] ++
    textField "description" s.description

def EstimatedTime.toJson : EstimatedTime → Json
  | minutes n => .integer n.toNat
  | text s => .string s

def Metadata.toJson (m : Metadata) : Json :=
  .object <|
    textField "author" m.author ++
    textField "version" m.version ++
    listField "tags" (m.tags.map .string) ++
    textField "difficulty" m.difficulty ++
    fieldOf "estimatedTime" (m.estimatedTime.map EstimatedTime.toJson)

def Descriptor.toJson (d : Descriptor) : Json :=
  .object <|
    textField "name" d.name ++
    textField "description" d.description ++
    [("template", .string d.template)] ++
    listField "variables" (d.inputs.map Variable.toJson) ++
    listField "conditionalSections" (d.sections.map Section.toJson) ++
    (if d.prompts.isEmpty then []
      else [("customPrompts", .object (d.prompts.entries.map fun e => (e.1, .string e.2)))]) ++
    (if d.metadata.isEmpty then [] else [("metadata", d.metadata.toJson)])

end Worksheet
