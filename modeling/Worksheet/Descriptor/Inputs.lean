import Worksheet.Descriptor.Basic
import Worksheet.Log
import Worksheet.Number.Reading
import Worksheet.Text.Blank

/-!
From supplied inputs to the context of a rendering. Inputs from a form are texts, so a text for a
number or a boolean is read as one; blank inputs are replaced by defaults. Nothing fails: an input
that does not fit is kept as it is and reported.
-/

namespace Worksheet

inductive InputIssue
  | missingRequired (name label : String)
  | notANumber (name value : String)
  | notABoolean (name value : String)
  | notAnOption (name value : String) (options : List String)
  | wrongType (name : String) (expected : VariableType) (found : String)
deriving DecidableEq, Repr

namespace InputIssue

def name : InputIssue → String
  | missingRequired name _ => name
  | notANumber name _ => name
  | notABoolean name _ => name
  | notAnOption name _ _ => name
  | wrongType name _ _ => name

def message : InputIssue → String
  | missingRequired name label => s!"'{label}' ({name}) is required but was not provided"
  | notANumber name value => s!"'{name}' expects a number, got '{value}'"
  | notABoolean name value => s!"'{name}' expects yes/no, got '{value}'"
  | notAnOption name value options =>
    let list := ", ".intercalate options
    s!"'{name}' must be one of [{list}], got '{value}'"
  | wrongType name expected found =>
    s!"'{name}' is declared as {expected.name} but was given a {found}"

end InputIssue

/-- Whether a value counts as no input. -/
def Value.isBlank : Value → Bool
  | null => true
  | text s => isBlankText s
  | _ => false

/-- The answer a word stands for, in letters of either case. -/
def flag? (word : List Char) : Option Bool :=
  match String.ofList (lowercase word) with
  | "yes" | "y" | "true" | "on" | "1" => some true
  | "no" | "n" | "false" | "off" | "0" => some false
  | _ => none

namespace Variable

/-- What becomes of a variable: a value it is bound to from now on, and an issue. -/
structure Outcome where
  binding : Option Value := none
  issue : Option InputIssue := none
deriving Repr

/-- Fits an input that is not blank to the type of the variable. -/
def coerce (v : Variable) (value : Value) : Outcome :=
  match value with
  | .text s =>
    let word := trim s.toList
    match v.type with
    | .number =>
      match Number.ofText? word with
      | some (.finite negative magnitude) =>
        { binding := some (.number (.finite negative magnitude)) }
      | _ => { issue := some (.notANumber v.name s) }
    | .boolean =>
      match flag? word with
      | some b => { binding := some (.boolean b) }
      | none => { issue := some (.notABoolean v.name s) }
    | .select =>
      if v.options.isEmpty || v.options.contains s then {}
      else { issue := some (.notAnOption v.name s v.options) }
    | .text | .textarea => {}
  | value =>
    if v.type.accepts value then {}
    else { issue := some (.wrongType v.name v.type value.kindName) }

/-- What is done for a variable without input. -/
def fallback (v : Variable) : Outcome :=
  match v.default with
  | some value => { binding := some value }
  | none =>
    if v.type = .boolean then { binding := some (.boolean false) }
    else if v.required then { issue := some (.missingRequired v.name v.displayLabel) }
    else {}

def outcome (v : Variable) (supplied : Context) : Outcome :=
  match supplied.get? v.name with
  | some value => if value.isBlank then v.fallback else v.coerce value
  | none => v.fallback

end Variable

namespace Descriptor

def bindOutcome (supplied : Context) (context : Context) (v : Variable) : Context :=
  match (v.outcome supplied).binding with
  | some value => context.insert v.name value
  | none => context

/-- The context for a rendering: what is supplied, with coerced values and defaults put over it. -/
def buildContext (d : Descriptor) (supplied : Context) : Context :=
  d.inputs.foldl (bindOutcome supplied) supplied

/-- What is wrong with the inputs, in the order of the declarations. -/
def inputIssues (d : Descriptor) (supplied : Context) : List InputIssue :=
  d.inputs.filterMap fun v => (v.outcome supplied).issue

def logOfInputs (d : Descriptor) (supplied : Context) : List LogEntry :=
  match d.inputIssues supplied with
  | [] => []
  | issues => [⟨.debug, s!"{issues.length} input issue(s) while building context"⟩]

end Descriptor

end Worksheet
