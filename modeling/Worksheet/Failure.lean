import Worksheet.Template.SyntaxError

/-!
Failures of the program, and how they are put to its users. A failure is a base cause with notes
added on the way up, and these form a chain from the last note down to the cause. What a user is
told is found by searches along the chain, one for each sort of cause; the notes show only where
the cause has no words of its own.
-/

namespace Worksheet

/-- What a user is told has gone wrong. -/
inductive Problem
  | descriptorNotFound (path : String)
  | unsupportedFormat (path extension : String)
  /-- The reader of the format may have said why. -/
  | descriptorSyntax (file : String) (reason : Option String)
  | invalidDescriptor (name : String) (count : Nat)
  | templateSyntax (template message report : String)
  | contextSyntax (file : String) (reason : Option String)
  | invalidAssignment (assignment : String)
  | inputRejected (issues : List String)
  | configuration (message : String)
  | other (message : String)
deriving DecidableEq, Repr

def Problem.message : Problem → String
  | descriptorNotFound path => s!"Template file not found: {path}"
  | unsupportedFormat path extension =>
    s!"Unsupported descriptor format '{extension}' for {path}"
  | descriptorSyntax file _ => s!"Invalid descriptor syntax in {file}"
  | invalidDescriptor name count => s!"Descriptor '{name}' has {count} validation error(s)"
  | templateSyntax template message _ => s!"Template syntax error in {template}: {message}"
  | contextSyntax file _ => s!"Invalid context file {file}"
  | invalidAssignment assignment => s!"Invalid assignment '{assignment}': expected KEY=VALUE"
  | inputRejected issues => s!"{issues.length} input issue(s) found"
  | configuration message => s!"Configuration error: {message}"
  | other message => message

/-- What went wrong with a file, as far as it matters for advice. -/
inductive FileErrorKind
  | notFound
  | permissionDenied
  | invalidData
  | uncommon
deriving DecidableEq, Repr

def FileErrorKind.suggestion : FileErrorKind → Option String
  | notFound => some "Check that the file or directory exists and the path is correct"
  | permissionDenied => some "Check the file permissions or choose a location you can write to"
  | invalidData => some "Templates and descriptors must be UTF-8 text"
  | uncommon => none

/-- An error of the reader of configuration files: what it says, and the text in which it shows
this together with the place. -/
structure TomlError where
  message : String
  shown : String := message
deriving DecidableEq, Repr

instance : Coe String TomlError := ⟨fun message => { message }⟩

inductive Cause
  | problem (p : Problem)
  | template (e : SyntaxError)
  | file (kind : FileErrorKind) (message : String)
  /-- A configuration file that cannot be read. -/
  | toml (e : TomlError)
  | plain (message : String)
deriving DecidableEq, Repr

def Cause.message : Cause → String
  | problem p => p.message
  | template e => e.message
  | file _ message => message
  | toml e => e.shown
  | plain message => message

/-- A cause and the notes added to it, the last one first. -/
structure Failure where
  cause : Cause
  notes : List String := []
deriving DecidableEq, Repr

inductive Link
  | note (text : String)
  | cause (c : Cause)
deriving DecidableEq, Repr

namespace Link

/-- A note is none of what is looked for in a chain, whatever it says. -/
def problem? : Link → Option Problem
  | cause (.problem p) => some p
  | _ => none

def template? : Link → Option SyntaxError
  | cause (.template e) => some e
  | _ => none

def fileError? : Link → Option FileErrorKind
  | cause (.file kind _) => some kind
  | _ => none

def toml? : Link → Option TomlError
  | cause (.toml e) => some e
  | _ => none

end Link

/-- A problem with what else a user is told about it. -/
structure Advice where
  problem : Problem
  details : Option String := none
  suggestion : Option String := none
deriving DecidableEq, Repr

namespace Problem

/-- The details and the suggestion that go with a problem. -/
def advice (p : Problem) : Advice :=
  match p with
  | descriptorNotFound path =>
    { problem := p
      suggestion := some (s!"Check the path '{path}'. " ++
        "Descriptors end in .toml, .yaml, .json or .md") }
  | unsupportedFormat _ _ =>
    { problem := p
      suggestion := some ("Rename the file to .toml, .yaml, .yml, .json, .md or .markdown, " ++
        "or pass --raw to render it as a bare template") }
  | descriptorSyntax _ reason =>
    { problem := p
      details := reason
      suggestion := some ("Field names are camelCase (defaultValue, conditionalSections, " ++
        "customPrompts) and \x60template\x60 is required") }
  | invalidDescriptor name _ =>
    { problem := p, suggestion := some s!"Run 'lessonforge validate {name}' to see each error" }
  | templateSyntax _ _ report =>
    { problem := p, details := if report.isEmpty then none else some report }
  | contextSyntax _ reason =>
    { problem := p
      details := reason
      suggestion := some ("The context file must be a JSON object whose values are text, " ++
        "numbers, booleans, lists or null") }
  | invalidAssignment _ =>
    { problem := p
      suggestion := some "Use --set name=value, for example --set title=Fractions" }
  | inputRejected issues =>
    { problem := p
      details := some ("\n".intercalate issues)
      suggestion := some
        "Supply the missing values with --set or a context file, or drop --strict" }
  | configuration _ =>
    { problem := p
      suggestion := some ("Run 'lessonforge config path' to locate the file and " ++
        "'lessonforge config show' to inspect it") }
  | other _ => { problem := p }

end Problem

def SyntaxError.advice (e : SyntaxError) : Advice where
  problem := .templateSyntax "template" e.message ""
  suggestion := some ("Check that every " ++ braced "#if" ++ " has a matching " ++
    braced "/if" ++ " and every " ++ braced "#each" ++ " a matching " ++ braced "/each")

/-- The problem is told in other words than those of the reader, which are the details. -/
def TomlError.advice (e : TomlError) (shown : String) : Advice where
  problem := .configuration shown
  details := some e.message
  suggestion := some "Check the TOML syntax. Verify quotes, brackets, and value types"

namespace Failure

def note (text : String) (f : Failure) : Failure := { f with notes := text :: f.notes }

/-- All messages, the outermost first. -/
def messages (f : Failure) : List String := f.notes ++ [f.cause.message]

def causeLines (causes : List String) : String :=
  String.join (causes.mapIdx fun i c => s!"\n  {i + 1}: {c}")

/-- The outermost message, and the others as its causes. -/
def chainText (f : Failure) : String :=
  match f.messages with
  | [] => ""
  | [only] => only
  | outermost :: causes => outermost ++ "\n\nCaused by:" ++ causeLines causes

def inlineText (f : Failure) : String := ": ".intercalate f.messages

/-- The notes and the cause, the outermost first. -/
def chain (f : Failure) : List Link := f.notes.map .note ++ [.cause f.cause]

/-- What a user is told about a failure. The first search that finds something decides. -/
def advice (f : Failure) : Advice :=
  match f.chain.findSome? Link.problem? with
  | some p => p.advice
  | none =>
    match f.chain.findSome? Link.template? with
    | some e => e.advice
    | none =>
      -- a file error that is not common is left to the last search
      match (f.chain.findSome? Link.fileError?).bind FileErrorKind.suggestion with
      | some suggestion => { problem := .other f.chainText, suggestion := some suggestion }
      | none =>
        match f.chain.findSome? Link.toml? with
        | some e => e.advice f.chainText
        | none => { problem := .other f.chainText }

end Failure

namespace Advice

/-- A line that is left out if there is nothing to say. -/
def line (before : String) : Option String → String
  | some text => before ++ text
  | none => ""

def text (a : Advice) : String :=
  a.problem.message ++ line "\nDetails: " a.details ++ line "\nSuggestion: " a.suggestion

/-- The advice as it is shown at the end of a failed run. -/
def display (a : Advice) : String :=
  let shown (label : String) : Option String → String
    | some text => label ++ ": " ++ text ++ "\n"
    | none => ""
  shown "error" (some a.problem.message) ++ shown "details" a.details ++
    shown "suggestion" a.suggestion

end Advice

end Worksheet
