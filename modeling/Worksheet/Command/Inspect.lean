import Worksheet.Command.Invocation
import Worksheet.Command.Render
import Worksheet.Descriptor.Json
import Worksheet.Json.Writer

/-!
Showing what a descriptor declares and what its template uses.
-/

namespace Worksheet

structure Inspection where
  name : String
  descriptor : Descriptor
  body : Body

namespace Inspection

def outlineLines (i : Inspection) : List String :=
  (terminatedLines i.body.outline.toList).map String.ofList

/-! ## As JSON -/

def referencesJson (r : References) : Json :=
  let names (ns : List String) : Json := .array (ns.map .string)
  .object [("variables", names r.insertions), ("conditions", names r.conditions),
    ("sources", names r.sources)]

def toJson (i : Inspection) : Json :=
  let d := i.descriptor
  .object <|
    [("name", .string i.name),
      ("variables", .array (d.inputs.map Variable.toJson)),
      ("conditionalSections", .array (d.sections.map Section.toJson)),
      ("references", referencesJson i.body.references),
      ("depth", .integer i.body.depth),
      ("outline", .array (i.outlineLines.map .string))] ++
    (if d.metadata.isEmpty then [] else [("metadata", d.metadata.toJson)]) ++
    [("customPrompts", .object (d.prompts.entries.map fun e => (e.1, .string e.2)))]

/-! ## As text -/

/-- A part with a heading, which is left out if it has no lines. -/
def part (heading : String) (lines : List String) : String :=
  if lines.isEmpty then "" else s!"\n{heading}\n" ++ String.join (lines.map fun l => s!"  {l}\n")

def variableLine (v : Variable) : String :=
  let traits := [v.type.name] ++ (if v.required then ["required"] else []) ++
    (v.default.map fun value => s!"default {value.toText}").toList ++
    if v.options.isEmpty then [] else ["options: " ++ " | ".intercalate v.options]
  s!"{v.name} (" ++ ", ".intercalate traits ++ s!") - {v.displayLabel}"

def sectionLine (s : Section) : String := s!"{s.id}: {s.name} [if {s.condition}]"

def nameList (names : List String) : String :=
  if names.isEmpty then "(none)" else ", ".intercalate names

def metadataLines (m : Metadata) : List String :=
  let line (label : String) (s : Option String) : List String :=
    (s.map fun s => s!"{label}: {s}").toList
  line "author" m.author ++ line "version" m.version ++
    (if m.tags.isEmpty then [] else ["tags: " ++ ", ".intercalate m.tags]) ++
    line "difficulty" m.difficulty ++
    line "estimated time" (m.estimatedTime.map EstimatedTime.display)

def text (i : Inspection) : String :=
  let d := i.descriptor
  let refs := i.body.references
  s!"{i.name}\n" ++
    part "Variables:" (d.inputs.map variableLine) ++
    part "Conditional sections:" (d.sections.map sectionLine) ++
    part "Template references:"
      ["variables:  " ++ nameList refs.insertions, "conditions: " ++ nameList refs.conditions,
        "iterations: " ++ nameList refs.sources] ++
    s!"\nOutline: (depth {i.body.depth})\n" ++
    String.join (i.outlineLines.map fun l => s!"  {l}\n") ++
    (if d.prompts.isEmpty then ""
      else "\nCustom prompts: " ++ ", ".intercalate d.prompts.keys ++ "\n") ++
    part "Metadata:" (metadataLines d.metadata)

end Inspection

def InspectRequest.run (f : Files) (config : String) (r : InspectRequest) : Run Unit := do
  let settings ← loadSettings f config
  let d ← loadTemplate f r.raw r.file
  let name := d.displayName r.file
  Run.log [tokenizeEntry d.template]
  match Body.parse settings.maxDepth d.template with
  | .error e => .reject (e.problem name d.template)
  | .ok body =>
    let i : Inspection := ⟨name, d, body⟩
    match r.format with
    | .json => Run.print (i.toJson.pretty ++ "\n")
    | .text => Run.print i.text

end Worksheet
