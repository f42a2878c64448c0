import Worksheet.Command.Run
import Worksheet.Descriptor.Format
import Worksheet.Settings.Reading
import Worksheet.Value.Json

/-!
Loading what the commands work on: settings, descriptors and values.
-/

namespace Worksheet

/-- The usual place of the configuration file, below the home directory. -/
def Settings.defaultPath (home : String) : String :=
  (if home.endsWith "/" then home else home ++ "/") ++ ".lessonforge/config.toml"

/-- The settings of a configuration file, or the defaults if there is none. -/
def loadSettings (f : Files) (path : String) : Run Settings := do
  if f.has path then
    let text ← .ofFiles s!"Failed to read config from {path}" (f.readText path)
    match Settings.ofText text with
    | .ok s => return s
    | .error .unreadable =>
      .fail ⟨.toml SettingsError.unreadable.message, [s!"Failed to parse config from {path}"]⟩
    | .error e => .fail ⟨.plain e.message, [s!"Invalid config in {path}"]⟩
  else
    Run.debug s!"No config file at {path}, using defaults"
    return {}

/-- The text of a file that a command is about. -/
def loadSource (f : Files) (path : String) : Run String :=
  if f.has path then .ofFiles s!"Failed to read {path}" (f.readText path)
  else .reject (.descriptorNotFound path)

def loadDescriptor (f : Files) (path : String) : Run Descriptor := do
  match Format.ofPath? path with
  | none => .reject (.unsupportedFormat path (Path.extension path))
  | some format =>
    let text ← loadSource f path
    Run.debug s!"Loading {format.name} descriptor from {path}"
    match format.read text with
    | .error e => .reject (.descriptorSyntax path e.message?)
    | .ok d =>
      Run.debug (s!"Loaded descriptor with {d.inputs.length} variable(s) and " ++
        s!"{d.sections.length} conditional section(s)")
      return d

/-- The descriptor in a file, or the one that has only the file's text as its template. -/
def loadTemplate (f : Files) (raw : Bool) (path : String) : Run Descriptor :=
  if raw then do
    let text ← loadSource f path
    return { template := text }
  else loadDescriptor f path

def DataError.reason? : DataError → Option String
  | invalidJson => none
  | e => some e.message

def loadContext (f : Files) (path : String) : Run Context := do
  let text ← .ofFiles s!"Failed to read context file {path}" (f.readText path)
  match Context.ofJsonText text with
  | .error e => .reject (.contextSyntax path e.reason?)
  | .ok c =>
    Run.debug s!"Loaded {c.size} value(s) from {path}"
    return c

/-! ## Values given one by one -/

/-- The value that a text stands for: a list if it is written as one, and the text otherwise. -/
def assignedValue (text : List Char) : Value :=
  let s := String.ofList text
  if (trimStart text).head? = some '[' then ((Value.ofJsonText s).toOption).getD (.text s)
  else .text s

def readAssignment? (assignment : String) : Option (String × Value) :=
  let text := assignment.toList
  let name := trim (text.takeWhile (· != '='))
  if !text.contains '=' || name.isEmpty then none
  else some (String.ofList name, assignedValue ((text.dropWhile (· != '=')).drop 1))

/-- Puts assignments over a context one after the other. -/
def assign (c : Context) : List String → Run Context
  | [] => .pure c
  | a :: rest =>
    match readAssignment? a with
    | some (name, value) => assign (c.insert name value) rest
    | none => .reject (.invalidAssignment a)

/-- The values of a file, if one is given, with assignments put over them. -/
def loadInputs (f : Files) (path : Option String) (assignments : List String) : Run Context := do
  let c ← match path with
    | some path => loadContext f path
    | none => .pure .empty
  assign c assignments

end Worksheet
