import Worksheet.Command.Invocation
import Worksheet.Command.Loading
import Worksheet.Descriptor.Validation
import Worksheet.Json.Writer

/-!
Checking a descriptor and showing what was found.
-/

namespace Worksheet

def checkJson (valid : Bool) (file : String) (errors warnings : List String) : Json :=
  .object [("valid", .boolean valid), ("file", .string file),
    ("errors", .array (errors.map .string)), ("warnings", .array (warnings.map .string))]

namespace Findings

def toJson (file : String) (found : Findings) : Json :=
  checkJson found.isValid file (found.errors.map DescriptorError.message)
    (found.warnings.map DescriptorWarning.message)

/-- The last line about a descriptor with the given name. -/
def summary (name : String) (found : Findings) : String :=
  let warnings := found.warnings.length
  if !found.isValid then
    s!"✗ {name} has {found.errors.length} error(s) and {warnings} warning(s)\n"
  else if warnings = 0 then s!"✓ {name} is valid\n"
  else s!"✓ {name} is valid ({warnings} warning(s))\n"

def text (name : String) (found : Findings) : String :=
  String.join (found.errors.map fun e => s!"✗ {e.message}\n") ++
    String.join (found.warnings.map fun w => s!"⚠ {w.message}\n") ++ found.summary name

end Findings

/-- The descriptor to be checked. Where JSON is asked for, a failure to load it is printed. -/
def ValidateRequest.load (f : Files) (r : ValidateRequest) : Run Descriptor :=
  let loaded := loadDescriptor f r.file
  match loaded.result, r.format with
  | .error failure, .json =>
    let shown := (checkJson false r.file [failure.inlineText] []).pretty ++ "\n"
    { loaded with effects := loaded.effects ++ [.print shown] }
  | _, _ => loaded

def ValidateRequest.run (f : Files) (config : String) (r : ValidateRequest) : Run Unit := do
  let settings ← loadSettings f config
  let d ← r.load f
  let found := d.validate settings.maxDepth
  Run.log (d.logOfValidate settings.maxDepth)
  match r.format with
  | .json => Run.print ((found.toJson r.file).pretty ++ "\n")
  | .text => Run.print (found.text (d.displayName r.file))
  if !found.isValid then .reject (.invalidDescriptor r.file found.errors.length)

end Worksheet
