import Worksheet.Number.Decimal
import Worksheet.Yaml.Scalar
import Worksheet.Yaml.Token

/-!
Anchors, tags and directives of YAML. The readers take what they read off the front of a text.
-/

namespace Worksheet.Yaml

/-- Whether a character may stand in the name of an anchor or of a shorthand. -/
def isNameChar (c : Char) : Bool :=
  (c.toNat < 0x80 && c.isAlphanum) || c == '-' || c == '_'

/-- Splits a text behind its longest start in which all characters pass a test. -/
def spanText (p : Char → Bool) (text : List Char) : List Char × List Char :=
  (text.takeWhile p, text.dropWhile p)

def readAnchor? (rules : Rules) (text : List Char) : Option (String × List Char) :=
  let wide (c : Char) : Bool := !isBlank c && !rules.isBreak c && !isFlowIndicator c
  let (name, rest) := spanText (if rules.wideAnchors then wide else isNameChar) text
  let ends := rules.wideAnchors || rules.isSeparated rest || rest.head?.any fun c =>
    c == '?' || c == ':' || c == ',' || c == ']' || c == '}' || c == '%' || c == '@' || c == '\x60'
  if name.isEmpty || !ends then none else some (String.ofList name, rest)

/-! ## Tags -/

/-- Whether a character may stand in a tag. Some may only stand in a tag in angle brackets and in
what a shorthand stands for. -/
def isTagChar (enclosed : Bool) (c : Char) : Bool :=
  isNameChar c || c == ';' || c == '/' || c == '?' || c == ':' || c == '@' || c == '&' ||
    c == '=' || c == '+' || c == '$' || c == '.' || c == '!' || c == '~' || c == '*' ||
    c == '\'' || c == '(' || c == ')' ||
    (enclosed && (c == ',' || c == '[' || c == ']'))

/-- The character that some bytes encode. -/
def charOfBytes? (bytes : List Nat) : Option String :=
  String.fromUTF8? ⟨(bytes.map UInt8.ofNat).toArray⟩

/-- Reads as many bytes as a text gives, each after a percent sign. -/
def readBytes : List Char → List Nat × List Char
  | '%' :: high :: low :: rest =>
    match Json.hexValue? high, Json.hexValue? low with
    | some h, some l =>
      let (bytes, rest) := readBytes rest
      ((16 * h + l) :: bytes, rest)
    | _, _ => ([], '%' :: high :: low :: rest)
  | text => ([], text)

def readTagText? (enclosed : Bool) : Nat → List Char → Option (String × List Char)
  | 0, text => some ("", text)
  | steps + 1, text => do
    let (run, rest) := spanText (isTagChar enclosed) text
    if rest.head? ≠ some '%' then return (String.ofList run, rest)
    let (bytes, rest) := readBytes rest
    if bytes.isEmpty then none
    let (more, rest) ← readTagText? enclosed steps rest
    return (String.ofList run ++ (← charOfBytes? bytes) ++ more, rest)

/-- Reads the shorthand at the front of a tag: an exclamation mark alone, or a name between two. -/
def readHandle? : List Char → Option (String × List Char)
  | '!' :: text =>
    let (name, rest) := spanText isNameChar text
    match rest with
    | '!' :: rest => some ("!" ++ String.ofList name ++ "!", rest)
    | rest => some ("!" ++ String.ofList name, rest)
  | _ => none

/-- Reads a tag: its shorthand, or nothing where it has none, and what follows that. -/
def readTag? (rules : Rules) (inFlow : Bool) (text : List Char) :
    Option (Token × List Char) := do
  let (handle, suffix, rest) ← match text with
    | '!' :: '<' :: text => do
      let (suffix, rest) ← readTagText? true text.length text
      match rest with
      | '>' :: rest => if suffix.isEmpty then none else some ("", suffix, rest)
      | _ => none
    | text => do
      let (handle, rest) ← readHandle? text
      let (suffix, rest) ← readTagText? false rest.length rest
      if handle.length > 1 ∧ handle.endsWith "!" then
        if suffix.isEmpty then none else some (handle, suffix, rest)
      else
        let suffix := String.ofList (handle.toList.drop 1) ++ suffix
        if suffix.isEmpty then some ("", "!", rest) else some ("!", suffix, rest)
  if rules.isSeparated rest || (inFlow && rest.head? == some ',') then
    return (.tag handle suffix, rest)
  else none

/-! ## Directives -/

def readVersionPart? (text : List Char) : Option (Nat × List Char) :=
  let (digits, rest) := spanText Char.isDigit text
  if digits.isEmpty || 9 < digits.length then none else some (ofDigits digits, rest)

def readVersion? (text : List Char) : Option (Directive × List Char) := do
  let (major, rest) ← readVersionPart? (text.dropWhile isBlank)
  match rest with
  | '.' :: rest =>
    let (minor, rest) ← readVersionPart? rest
    return (.version major minor, rest)
  | _ => none

def readShorthand? (rules : Rules) (text : List Char) : Option (Directive × List Char) := do
  let (handle, rest) ← readHandle? (text.dropWhile isBlank)
  if handle ≠ "!" ∧ !handle.endsWith "!" then none
  if !rest.head?.any isBlank then none
  let rest := rest.dropWhile isBlank
  let (meaning, rest) ← readTagText? true rest.length rest
  if meaning.isEmpty ∨ !rules.isSeparated rest then none
  return (.shorthand handle meaning, rest)

def readDirective? (rules : Rules) (text : List Char) : Option (Directive × List Char) := do
  let (name, rest) := spanText isNameChar text
  if name.isEmpty ∨ !rules.isSeparated rest then none
  match String.ofList name with
  | "YAML" => readVersion? rest
  | "TAG" => readShorthand? rules rest
  | _ =>
    if rules.skipsDirectives then
      return (.unknown, rest.dropWhile fun c => !rules.isBreak c)
    else none

end Worksheet.Yaml
