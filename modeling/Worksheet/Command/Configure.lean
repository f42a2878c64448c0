import Worksheet.Command.Invocation
import Worksheet.Command.Loading

/-!
Showing, locating and creating the configuration file.
-/

namespace Worksheet

/-- Writes a configuration file with the defaults. An existing one is kept unless it may be
overwritten. -/
def createSettings (f : Files) (path : String) (force : Bool) : Run Unit := do
  if f.has path && !force then
    .reject (.configuration s!"{path} already exists (use --force to overwrite)")
  let missing ← match Path.directory? path with
    | some around =>
      .ofFiles s!"Failed to create config directory: {around}" (f.missingDirectories around)
    | none => .pure []
  missing.forM fun l => Run.effect (.makeDirectory l)
  let l ← .ofFiles s!"Failed to write config to {path}"
    ((missing.foldl Files.withDirectory f).target path)
  Run.effect (.write l Settings.exampleText)
  Run.print s!"✓ Created {path}\n"

def Settings.lines (s : Settings) : String :=
  let iterations := match s.maxIterations with
    | some n => toString n
    | none => "unlimited"
  s!"  max_depth      = {s.maxDepth}\n" ++ s!"  max_iterations = {iterations}\n" ++
    s!"  cache          = {s.cache}\n" ++ s!"  strict_inputs  = {s.strictInputs}\n"

def showSettings (f : Files) (path : String) : Run Unit := do
  let settings ← loadSettings f path
  let source := if f.has path then path else path ++ " (not found, using defaults)"
  Run.print (s!"Configuration: {source}\n" ++ settings.lines)

def SettingsRequest.run (f : Files) (path : String) : SettingsRequest → Run Unit
  | .init force => createSettings f path force
  | .display => showSettings f path
  | .path => Run.print (path ++ "\n")

end Worksheet
