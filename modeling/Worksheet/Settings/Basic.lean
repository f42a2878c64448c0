import Worksheet.Template.Parsing

/-!
The settings of the program, which a configuration file can change.
-/

namespace Worksheet

structure Settings where
  /-- How deeply blocks of a template may be nested. -/
  maxDepth : Nat := defaultDepthLimit
  /-- How many loop bodies one rendering may run, if there is a limit. -/
  maxIterations : Option Nat := none
  /-- Whether parsed templates are kept for later renderings. -/
  cache : Bool := true
  /-- Whether issues with the inputs make a rendering fail. -/
  strictInputs : Bool := false
deriving DecidableEq, Repr

end Worksheet
