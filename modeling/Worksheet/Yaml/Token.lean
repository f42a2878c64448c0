/-!
Tokens of YAML: the indicators of a text, its scalars and their properties, with the indentation
made explicit.
-/

namespace Worksheet.Yaml

/-- A line about the documents of a text. -/
inductive Directive
  | version (major minor : Nat)
  /-- What a shorthand at the front of tags stands for. -/
  | shorthand (handle meaning : String)
  | unknown
deriving DecidableEq, Repr

inductive Token
  | directive (d : Directive)
  | documentStart
  | documentEnd
  | blockSequence
  | blockMapping
  | blockEnd
  | flowSequence
  | flowSequenceEnd
  | flowMapping
  | flowMappingEnd
  /-- The start of an element of a block sequence. -/
  | element
  | separator
  | key
  | value
  | anchor (name : String)
  | alias (name : String)
  | tag (handle rest : String)
  | scalar (plain : Bool) (text : String)
deriving DecidableEq, Repr

end Worksheet.Yaml
