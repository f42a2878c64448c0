import Worksheet.Command.Invocation

/-!
Reading the words of a command line. There is a level for the program and one for each command; a
level has options, perhaps a file, and perhaps commands of its own. The words are read from left
to right, and the first mistake counts. What can be checked only at the end of a level is checked
after the levels below it.
-/

namespace Worksheet

inductive Refusal
  | help
  | version
  /-- Nothing is said where a command has to be named. -/
  | nothing
  | noCommand
  | unknownCommand
  | unknownArgument
  | invalidValue
  | needlessValue
  /-- Options exclude each other, or one is repeated. -/
  | conflict
  | missingFile
deriving DecidableEq, Repr

namespace Refusal

/-- Those who ask for help or for the version have not made a mistake. -/
def exitCode : Refusal → Nat
  | help | version => 0
  | _ => 2

def message : Refusal → String
  | help | nothing => ""
  | version => "lessonforge 0.1.0"
  | noCommand => "error: a command is required"
  | unknownCommand => "error: unrecognized command"
  | unknownArgument => "error: unexpected argument"
  | invalidValue => "error: invalid or missing value"
  | needlessValue => "error: unexpected value"
  | conflict => "error: options cannot be used together"
  | missingFile => "error: a file is required"

end Refusal

namespace Usage

/-! ## Options -/

inductive Parameter
  | verbose
  | quiet
  | config
  | help
  | version
  | context
  | set
  | output
  | raw
  | strict
  | format
  | force
deriving DecidableEq, Repr

namespace Parameter

def name : Parameter → String
  | verbose => "verbose"
  | quiet => "quiet"
  | config => "config"
  | help => "help"
  | version => "version"
  | context => "context"
  | set => "set"
  | output => "output"
  | raw => "raw"
  | strict => "strict"
  | format => "format"
  | force => "force"

def letter? : Parameter → Option Char
  | verbose => some 'v'
  | quiet => some 'q'
  | config => some 'c'
  | help => some 'h'
  | version => some 'V'
  | set => some 's'
  | output => some 'o'
  | format => some 'f'
  | _ => none

def takesValue : Parameter → Bool
  | config | context | set | output | format => true
  | _ => false

def accepts (p : Parameter) (value : String) : Bool :=
  match p with
  | config | context | output => !value.isEmpty
  | format => (OutputFormat.ofName? value).isSome
  | _ => true

/-- The options of every level. -/
def everywhere : List Parameter := [verbose, quiet, config, help]

end Parameter

/-! ## Levels -/

inductive Level
  | program
  | render
  | validate
  | inspect
  | settings
  | init
  | display
  | path
deriving DecidableEq, Repr

namespace Level

def parameters : Level → List Parameter
  | program => .version :: Parameter.everywhere
  | render => [.context, .set, .output, .raw, .strict] ++ Parameter.everywhere
  | validate => .format :: Parameter.everywhere
  | inspect => [.raw, .format] ++ Parameter.everywhere
  | init => .force :: Parameter.everywhere
  | settings | display | path => Parameter.everywhere

def takesFile : Level → Bool
  | render | validate | inspect => true
  | _ => false

def command? : Level → String → Option Level
  | program, "render" => some render
  | program, "validate" => some validate
  | program, "inspect" => some inspect
  | program, "config" => some settings
  | settings, "init" => some init
  | settings, "show" => some display
  | settings, "path" => some path
  | _, _ => none

def hasCommands (level : Level) : Bool := level = program || level = settings

end Level

/-! ## Words -/

structure Given where
  parameters : List Parameter := []
  values : List (Parameter × String) := []
  file : Option String := none
deriving DecidableEq, Repr

namespace Given

def has (g : Given) (p : Parameter) : Bool := g.parameters.contains p

def value? (g : Given) (p : Parameter) : Option String := g.values.lookup p

/-- All values of an option that may be repeated. -/
def valuesOf (g : Given) (p : Parameter) : List String :=
  (g.values.filter (·.1 = p)).map Prod.snd

/-- Adds an option without its value. Only assignments can be repeated. -/
def note (p : Parameter) (g : Given) : Except Refusal Given :=
  if p = .help then .error .help
  else if p = .version then .error .version
  else if g.has p && p ≠ .set then .error .conflict
  else .ok { g with parameters := g.parameters ++ [p] }

def noteValue (p : Parameter) (value : String) (g : Given) : Except Refusal Given := do
  let g ← g.note p
  if p.accepts value then return { g with values := g.values ++ [(p, value)] }
  else throw .invalidValue

/-- Checks what is given at a level, once it is known whether a command follows. -/
def check (level : Level) (hasCommand : Bool) (g : Given) : Except Refusal Unit :=
  if level = .program && !hasCommand then
    .error (if g.parameters.isEmpty then .nothing else .noCommand)
  else if g.has .verbose && g.has .quiet then .error .conflict
  else if level.takesFile && g.file.isNone then .error .missingFile
  else .ok ()

end Given

/-- A word that has been read but not yet added. It is added when the next one is. -/
inductive Pending
  | nothing
  /-- An option whose value has not come yet. -/
  | awaited (p : Parameter)
  | value (p : Parameter) (s : String)
  | file (s : String)
deriving DecidableEq, Repr

structure Reading where
  given : Given := {}
  pending : Pending := .nothing
  /-- Whether all that follows is no option. -/
  plain : Bool := false
  fileRead : Bool := false

namespace Reading

def settle (r : Reading) : Except Refusal Reading :=
  let done (g : Given) : Reading := { r with given := g, pending := .nothing }
  match r.pending with
  | .nothing => .ok r
  | .awaited _ => .error .invalidValue
  | .value p s => (r.given.noteValue p s).map done
  | .file s =>
    if s.isEmpty then .error .invalidValue else .ok (done { r.given with file := some s })

/-- Adds an option, with its value if that is attached to it. -/
def option (p : Parameter) (attached : Option String) (r : Reading) : Except Refusal Reading :=
  if p.takesValue then do
    let r ← r.settle
    match attached with
    | some value => return { r with given := ← r.given.noteValue p value }
    | none => return { r with pending := .awaited p }
  else if attached.isSome then .error .needlessValue
  else do
    let r ← r.settle
    return { r with given := ← r.given.note p }

/-- Reads an option that is named in full, without the hyphens before it. -/
def longWord (level : Level) (word : List Char) (r : Reading) : Except Refusal Reading :=
  let name := String.ofList (word.takeWhile (· != '='))
  let attached := match word.dropWhile (· != '=') with
    | [] => none
    | _ :: value => some (String.ofList value)
  match level.parameters.find? (·.name == name) with
  | some p => r.option p attached
  | none => .error .unknownArgument

/-- Reads options that are named by letters. The value of an option may follow its letter. -/
def letters (level : Level) : List Char → Reading → Except Refusal Reading
  | [], r => .ok r
  | c :: rest, r =>
    match level.parameters.find? (·.letter? == some c) with
    | none => .error .unknownArgument
    | some p =>
      if !p.takesValue then do letters level rest (← r.option p none)
      else
        match rest with
        | [] => r.option p none
        | '=' :: value => r.option p (some (String.ofList value))
        | value => r.option p (some (String.ofList value))

/-- Reads a word that is neither an option nor a command. -/
def plainWord (level : Level) (word : String) (r : Reading) : Except Refusal Reading :=
  if level.takesFile && !r.fileRead then do
    let r ← r.settle
    return { r with pending := .file word, fileRead := true }
  else if level.hasCommands && !(r.plain && (word == "help" || (level.command? word).isSome)) then
    .error .unknownCommand
  else .error .unknownArgument

/-- Reads a word that is not a command. -/
def word (level : Level) (word : String) (r : Reading) : Except Refusal Reading :=
  if r.plain then r.plainWord level word
  else
    match word.toList with
    | ['-', '-'] => .ok { r with plain := true }
    | '-' :: '-' :: rest => r.longWord level rest
    | '-' :: c :: rest => r.letters level (c :: rest)
    | _ =>
      match r.pending with
      | .awaited p => .ok { r with pending := .value p word }
      | _ => r.plainWord level word

def finish (level : Level) (hasCommand : Bool) (r : Reading) : Except Refusal Given := do
  let r ← r.settle
  r.given.check level hasCommand
  return r.given

/-- The command that a word names, unless the word is the value of an option. -/
def command? (level : Level) (word : String) (r : Reading) : Option Level :=
  match r.plain, r.pending with
  | false, .awaited _ => none
  | false, _ => level.command? word
  | true, _ => none

def asksHelp (level : Level) (word : String) (r : Reading) : Bool :=
  level.hasCommands && word == "help" && !r.plain &&
    match r.pending with
    | .awaited _ => false
    | _ => true

end Reading

def helpOn (level : Level) : List String → Refusal
  | [] => .help
  | word :: rest =>
    match level.command? word with
    | some below => helpOn below rest
    | none => if level.hasCommands && word == "help" && rest.isEmpty then .help else .unknownCommand

/-- What is given at a level and at those below it, the outermost first. -/
def readLevel (level : Level) (r : Reading) : List String → Except Refusal (List (Level × Given))
  | [] => do return [(level, ← r.finish level false)]
  | word :: rest =>
    if r.asksHelp level word then .error (helpOn level rest)
    else
      match r.command? level word with
      | some below => do
        let inner ← readLevel below {} rest
        return (level, ← r.finish level true) :: inner
      | none => do readLevel level (← r.word level word) rest

/-! ## Invocations -/

/-- The format that is given, or the one that holds if none is. -/
def Given.format (g : Given) : OutputFormat :=
  ((g.value? .format).bind OutputFormat.ofName?).getD .text

/-- What the innermost level asks for. -/
def action? : Level → Given → Option Action
  | .program, _ => none
  | .render, g =>
    g.file.map fun file => .render
      { file := file
        context := g.value? .context
        assignments := g.valuesOf .set
        output := g.value? .output
        raw := g.has .raw
        strict := g.has .strict }
  | .validate, g => g.file.map fun file => .validate ⟨file, g.format⟩
  | .inspect, g => g.file.map fun file => .inspect ⟨file, g.has .raw, g.format⟩
  | .settings, _ | .display, _ => some (.settings .display)
  | .init, g => some (.settings (.init (g.has .force)))
  | .path, _ => some (.settings .path)

end Usage

open Usage in
/-- The invocation that words stand for. Of several configuration files the innermost counts. -/
def Invocation.ofWords (words : List String) : Except Refusal Invocation := do
  let levels ← readLevel .program {} words
  match levels.getLast?.bind fun (level, g) => action? level g with
  | none => throw .noCommand
  | some action =>
    return {
      action := action
      config := levels.reverse.findSome? fun (_, g) => g.value? .config
      verbose := levels.any fun (_, g) => g.has .verbose
      quiet := levels.any fun (_, g) => g.has .quiet }

end Worksheet
