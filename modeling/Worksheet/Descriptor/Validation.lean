import Worksheet.Descriptor.Basic
import Worksheet.Rendering.Cache
import Worksheet.Text.Blank
import Worksheet.Text.Distance

/-!
Checking descriptors. Errors are found in descriptors that are broken: names declared twice,
selections without options, templates that do not parse. Warnings point at what is most likely a
mistake, such as a reference that no declaration covers.
-/

namespace Worksheet

inductive DescriptorError
  | duplicateVariable (name : String)
  | malformedName (name : String)
  | noOptions (name : String)
  | defaultType (name found : String) (type : VariableType)
  | defaultNotAnOption (name choice : String)
  | emptySectionId (name : String)
  | duplicateSectionId (id : String)
  | malformedCondition (condition id : String)
  | template (cause : SyntaxError)
deriving DecidableEq, Repr

def DescriptorError.message : DescriptorError → String
  | duplicateVariable name => s!"Variable '{name}' is declared more than once"
  | malformedName name =>
    s!"Variable name '{name}' is not a valid identifier " ++
      "(letters, digits and '_', not starting with a digit)"
  | noOptions name => s!"Select variable '{name}' has no options"
  | defaultType name found type =>
    s!"Default value of '{name}' is a {found} but the variable is of type {type.name}"
  | defaultNotAnOption name choice =>
    s!"Default value '{choice}' of '{name}' is not one of its options"
  | emptySectionId name => s!"Conditional section '{name}' has an empty id"
  | duplicateSectionId id => s!"Conditional section id '{id}' is used more than once"
  | malformedCondition condition id =>
    s!"Condition '{condition}' of section '{id}' must be a single name, not an expression"
  | template cause => "Template does not parse: " ++ cause.message

/-- What is worth pointing out about a descriptor. -/
inductive DescriptorWarning
  | shadowedName
  | needlessOptions (name : String) (type : VariableType)
  | unrecognizedMarker (text : String) (line : Nat)
  | loopNameOutside (name : String)
  | undeclared (name : String) (similar : List String)
  | iteratedScalar (name : String) (type : VariableType)
  | unusedVariable (name : String)
  | untestedSection (id condition : String)
deriving DecidableEq, Repr

def DescriptorWarning.message : DescriptorWarning → String
  | shadowedName =>
    s!"Variable '{itemName}' is shadowed by the current element inside " ++ braced "#each" ++
      " blocks"
  | needlessOptions name type =>
    s!"Variable '{name}' has options but is of type {type.name}; options are only used by select"
  | unrecognizedMarker text line =>
    s!"'{text}' on line {line} is not a recognized marker and renders as literal text"
  | loopNameOutside name =>
    s!"'{name}' is used outside " ++ braced "#each" ++
      " and only resolves if supplied in the context"
  | undeclared name similar =>
    let quotes := ", ".intercalate (similar.map fun s => s!"'{s}'")
    let hint := if similar.isEmpty then "" else s!" (did you mean {quotes}?)"
    s!"Template references '{name}' which is not declared" ++ hint
  | iteratedScalar name type =>
    s!"'{name}' is iterated with " ++ braced "#each" ++
      s!" but declared as {type.name}; only lists produce output"
  | unusedVariable name => s!"Variable '{name}' is declared but never used"
  | untestedSection id condition =>
    s!"Section '{id}' tests '{condition}' but the template has no " ++
      braced ("#if " ++ condition)

structure Findings where
  errors : List DescriptorError := []
  warnings : List DescriptorWarning := []
deriving DecidableEq, Repr

namespace Findings

/-- Warnings do not make a descriptor invalid. -/
def isValid (f : Findings) : Bool := f.errors.isEmpty

def append (f g : Findings) : Findings := ⟨f.errors ++ g.errors, f.warnings ++ g.warnings⟩

instance : Append Findings := ⟨append⟩

def errorIf (condition : Bool) (e : DescriptorError) : Findings :=
  if condition then { errors := [e] } else {}

def warningIf (condition : Bool) (w : DescriptorWarning) : Findings :=
  if condition then { warnings := [w] } else {}

end Findings

/-! ## Variables and sections -/

def Variable.checkDefault (v : Variable) : Findings :=
  match v.default with
  | none => {}
  | some value =>
    if !v.type.accepts value then
      .errorIf true (.defaultType v.name value.kindName v.type)
    else
      match v.type, value with
      | .select, .text choice =>
        .errorIf (!v.options.isEmpty && !v.options.contains choice)
          (.defaultNotAnOption v.name choice)
      | _, _ => {}

/-- Checks a variable that comes after others with the given names. -/
def Variable.check (seen : List String) (v : Variable) : Findings :=
  .errorIf (seen.contains v.name) (.duplicateVariable v.name) ++
  .errorIf (!isIdentifier v.name) (.malformedName v.name) ++
  .warningIf (v.name == itemName) .shadowedName ++
  .errorIf (v.type == .select && v.options.isEmpty) (.noOptions v.name) ++
  .warningIf (v.type != .select && !v.options.isEmpty) (.needlessOptions v.name v.type) ++
  v.checkDefault

/-- Checks variables that come after others with the given names. -/
def checkVariables (seen : List String) : List Variable → Findings
  | [] => {}
  | v :: rest => v.check seen ++ checkVariables (v.name :: seen) rest

/-- Checks sections that come after others with the given identifiers. A blank identifier is an
error of its own and does not count as used. -/
def checkSections (seen : List String) : List Section → Findings
  | [] => {}
  | s :: rest =>
    let blank := isBlankText s.id
    .errorIf blank (.emptySectionId s.name) ++
    .errorIf (!blank && seen.contains s.id) (.duplicateSectionId s.id) ++
    .errorIf (!isIdentifier s.condition) (.malformedCondition s.condition s.id) ++
    checkSections (if blank then seen else s.id :: seen) rest

/-! ## Markers that are not recognized -/

def isNoBrace (c : Char) : Bool := c != '{' && c != '}'

/-- Reads double braces around a text without braces off the front of a text. -/
def readBraced? : List Char → Option (List Char × List Char)
  | '{' :: '{' :: text =>
    match text.dropWhile isNoBrace with
    | '}' :: '}' :: rest => some (text.takeWhile isNoBrace, rest)
    | _ => none
  | _ => none

theorem length_lt_of_readBraced? {text inner rest : List Char}
    (h : readBraced? text = some (inner, rest)) : rest.length < text.length := by
  unfold readBraced? at h
  split at h
  · next t =>
    split at h
    · next hd =>
      simp only [Option.some.injEq, Prod.mk.injEq] at h
      obtain ⟨_, rfl⟩ := h
      have hl := (List.dropWhile_suffix isNoBrace (l := t)).length_le
      rw [hd] at hl
      simp only [List.length_cons] at hl ⊢
      omega
    · simp at h
  · simp at h

/-- The texts in double braces that literal text holds, each with its line. -/
def bracedTexts (line : Nat) (text : List Char) : List (Nat × String) :=
  match _h : readBraced? text with
  | some (inner, rest) =>
    (line, braced (String.ofList inner)) :: bracedTexts (line + inner.count '\n') rest
  | none =>
    match text with
    | [] => []
    | c :: rest => bracedTexts (if c = '\n' then line + 1 else line) rest
termination_by text.length
decreasing_by
  · exact length_lt_of_readBraced? _h
  · simp

/-- What literal text holds that only looks like a marker. -/
def Token.unrecognized (t : Token) : List DescriptorWarning :=
  match t.lexeme with
  | .literal text =>
    (bracedTexts t.position.line text.toList).map fun (line, found) =>
      .unrecognizedMarker found line
  | .marker _ => []

def checkMarkers (template : String) : Findings :=
  { warnings := (tokenize template).flatMap Token.unrecognized }

/-! ## References -/

def mostSuggestions : Nat := 3

/-- The declared names close to a name, closest first. A suggestion may differ in half of the
name's length at most. -/
def similarNames (target : String) (declared : List String) : List String :=
  let scored := declared.map fun name => (name, editDistance target.toList name.toList)
  let sorted := scored.mergeSort fun a b => a.2 ≤ b.2
  ((sorted.filter fun e => e.2 ≤ target.utf8ByteSize * 50 / 100).take mostSuggestions).map Prod.fst

/-- Checks a name that the template looks up. -/
def checkReference (declared : List String) (name : String) : Findings :=
  if declared.contains name then {}
  else if isLoopName name then .warningIf true (.loopNameOutside name)
  else .warningIf true (.undeclared name (similarNames name declared))

namespace Descriptor

/-- Checks that what is iterated is not declared as a single value. -/
def checkSource (d : Descriptor) (source : String) : Findings :=
  match d.findVariable? source with
  | some v => .warningIf true (.iteratedScalar source v.type)
  | none => {}

def checkEach {α : Type} (check : α → Findings) (items : List α) : Findings :=
  items.foldr (fun x found => check x ++ found) {}

/-- Compares what a template refers to with what is declared. -/
def checkReferences (d : Descriptor) (refs : References) : Findings :=
  checkEach (checkReference d.declaredNames) refs.allNames ++
  checkEach d.checkSource refs.sources ++
  checkEach (fun v => .warningIf (!refs.allNames.contains v.name) (.unusedVariable v.name))
    d.inputs ++
  checkEach
    (fun s =>
      .warningIf (!refs.conditions.contains s.condition) (.untestedSection s.id s.condition))
    d.sections

def checkTemplate (limit : Nat) (d : Descriptor) : Findings :=
  match Body.parse limit d.template with
  | .ok body => d.checkReferences body.references
  | .error cause => .errorIf true (.template cause)

def validate (limit : Nat) (d : Descriptor) : Findings :=
  checkVariables [] d.inputs ++ checkSections [] d.sections ++ checkMarkers d.template ++
  d.checkTemplate limit

/-- What an observer learns from the validation: the template is split into tokens twice. -/
def logOfValidate (limit : Nat) (d : Descriptor) : List LogEntry :=
  let found := d.validate limit
  [tokenizeEntry d.template, tokenizeEntry d.template,
    ⟨.debug, s!"Validation finished with {found.errors.length} error(s) and " ++
      s!"{found.warnings.length} warning(s)"⟩]

end Descriptor

end Worksheet
