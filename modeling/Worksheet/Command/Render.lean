import Worksheet.Command.Invocation
import Worksheet.Command.Loading
import Worksheet.Descriptor.Inputs
import Worksheet.Rendering.Renderer
import Worksheet.Template.Report

/-!
Rendering a descriptor with values from a file and from the command line.
-/

namespace Worksheet

/-- What is wrong with a template, as a problem of the descriptor with the given name. -/
def SyntaxError.problem (name template : String) (e : SyntaxError) : Problem :=
  .templateSyntax name e.message (e.report template (some name))

def renderDescriptor (settings : Settings) (name : String) (d : Descriptor) (c : Context) :
    Run String := do
  let renderer := Renderer.ofSettings settings
  Run.log (renderer.logOfRender d.template c)
  match (renderer.render 0 d.template c).1 with
  | .ok text => return text
  | .error e => .reject (e.problem name d.template)

/-- Writes a text to a file, in a directory that is made if need be. -/
def writeOutput (f : Files) (path text : String) : Run Unit := do
  let missing ← match (Path.directory? path).filter (!·.isEmpty) with
    | some around =>
      .ofFiles s!"Failed to create directory {around}" (f.missingDirectories around)
    | none => .pure []
  missing.forM fun l => Run.effect (.makeDirectory l)
  let l ← .ofFiles s!"Failed to write {path}" ((missing.foldl Files.withDirectory f).target path)
  Run.effect (.write l text)

/-- Reports issues with the inputs, which are failures in a strict run. -/
def reportIssues (strict : Bool) (issues : List String) : Run Unit :=
  if strict && !issues.isEmpty then .reject (.inputRejected issues)
  else issues.forM fun issue => Run.remark s!"⚠ {issue}\n"

def RenderRequest.run (f : Files) (config : String) (r : RenderRequest) : Run Unit := do
  let settings ← loadSettings f config
  let d ← loadTemplate f r.raw r.file
  let supplied ← loadInputs f r.context r.assignments
  Run.log (d.logOfInputs supplied)
  reportIssues (r.strict || settings.strictInputs)
    ((d.inputIssues supplied).map InputIssue.message)
  let name := d.displayName r.file
  let text ← renderDescriptor settings name d (d.buildContext supplied)
  match r.output with
  | some path =>
    writeOutput f path text
    Run.remark s!"✓ Rendered {name} to {path}\n"
  | none => Run.print text

end Worksheet
