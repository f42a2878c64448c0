import Worksheet.Command.Configure
import Worksheet.Command.Inspect
import Worksheet.Command.Render
import Worksheet.Command.Validate

/-!
The program as a whole: what an invocation does, given the files there are.
-/

namespace Worksheet

def Invocation.configPath (home : String) (i : Invocation) : String :=
  i.config.getD (Settings.defaultPath home)

/-- The paths that an invocation may look at or write to. -/
def Invocation.paths (home : String) (i : Invocation) : List String :=
  i.configPath home ::
    match i.action with
    | .render r => r.file :: (r.context.toList ++ r.output.toList)
    | .validate r => [r.file]
    | .inspect r => [r.file]
    | .settings _ => []

def Invocation.run (home : String) (f : Files) (i : Invocation) : Run Unit :=
  let config := i.configPath home
  match i.action with
  | .render r => r.run f config
  | .validate r => r.run f config
  | .inspect r => r.run f config
  | .settings r => r.run f config

end Worksheet
