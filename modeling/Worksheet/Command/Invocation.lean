import Worksheet.Log

/-!
What the program is asked to do.
-/

namespace Worksheet

inductive OutputFormat
  | text
  | json
deriving DecidableEq, Repr

namespace OutputFormat

def ofName? : String → Option OutputFormat
  | "text" => some text
  | "json" => some json
  | _ => none

end OutputFormat

/-- A rendering of a descriptor, or of a bare template. -/
structure RenderRequest where
  file : String
  /-- A file with values. -/
  context : Option String := none
  /-- Values given one by one, each behind its name and an equals sign. -/
  assignments : List String := []
  /-- The file that is written instead of printing. -/
  output : Option String := none
  /-- Whether the file is a bare template. -/
  raw : Bool := false
  /-- Whether issues with the inputs are failures. -/
  strict : Bool := false
deriving DecidableEq, Repr

structure ValidateRequest where
  file : String
  format : OutputFormat := .text
deriving DecidableEq, Repr

structure InspectRequest where
  file : String
  raw : Bool := false
  format : OutputFormat := .text
deriving DecidableEq, Repr

inductive SettingsRequest
  /-- Write a configuration file with the defaults. -/
  | init (force : Bool)
  | display
  | path
deriving DecidableEq, Repr

inductive Action
  | render (r : RenderRequest)
  | validate (r : ValidateRequest)
  | inspect (r : InspectRequest)
  | settings (r : SettingsRequest)
deriving DecidableEq, Repr

structure Invocation where
  action : Action
  /-- The configuration file to use instead of the usual one. -/
  config : Option String := none
  verbose : Bool := false
  quiet : Bool := false
deriving DecidableEq, Repr

/-- Up to which level log entries are recorded, if at all. -/
def Invocation.observer (i : Invocation) : Option LogLevel :=
  if i.verbose then some .debug else if i.quiet then none else some .warn

end Worksheet
