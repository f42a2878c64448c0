import Worksheet.Descriptor.Reading
import Worksheet.Frontmatter.Page
import Worksheet.Frontmatter.Schema
import Worksheet.Json.Reader
import Worksheet.Path
import Worksheet.Toml.Reader
import Worksheet.Yaml.Schema

/-!
The formats of descriptor files. The extension of a file tells its format. In Markdown the fields
stand at the front of a page, and its body is the template.
-/

namespace Worksheet

/-- Formats of descriptor files. -/
inductive Format
  | toml
  | yaml
  | json
  | markdown
deriving DecidableEq, Repr

/-- Why a text gives no descriptor. -/
inductive FormatError
  /-- The text does not keep to the format, or its fields are not those of a descriptor. -/
  | unreadable
  | frontNotMapping
  | templateInFront
deriving DecidableEq, Repr

/-- What there is to say about the error beyond that it occurred. -/
def FormatError.message? : FormatError → Option String
  | unreadable => none
  | frontNotMapping => some "frontmatter must be a mapping of descriptor fields"
  | templateInFront =>
    some "\x60template\x60 must not be set in frontmatter; the document body is the template"

namespace Format

def name : Format → String
  | toml => "Toml"
  | yaml => "Yaml"
  | json => "Json"
  | markdown => "Markdown"

def ofExtension? : String → Option Format
  | "toml" => some toml
  | "yaml" | "yml" => some yaml
  | "json" => some json
  | "md" | "markdown" => some markdown
  | _ => none

def ofPath? (path : String) : Option Format := ofExtension? (Path.extension path)

/-- What a format decides about descriptors. -/
def dialect : Format → Dialect
  | toml => { wordField := .emptyContainer, longRecords := true }
  | yaml => { writtenTexts := true, emptyAsNothing := true, deepestDefault := some 125 }
  | json => { deepestDefault := some 124, wordField := .null }
  | markdown => { emptyAsNothing := true }

/-- The fields that a page gives besides the template. -/
def frontFields (page : Page) : Except FormatError (List (String × Document)) :=
  match page.front with
  | none => .ok []
  | some front =>
    match Frontmatter.read? front with
    | none => .error .unreadable
    | some (.scalar .null _) => .ok []
    | some (.table entries) =>
      if entries.any (·.1 == "template") then .error .templateInFront else .ok entries
    | some _ => .error .frontNotMapping

def document (format : Format) (text : String) : Except FormatError Document :=
  let readable : Option Document → Except FormatError Document := (·.elim (.error .unreadable) .ok)
  match format with
  | toml => readable (Toml.read? text)
  | yaml => readable (Yaml.read? text)
  | json => readable (Json.read? text)
  | markdown => do
    let page := Page.ofText text
    let fields ← frontFields page
    return .table (fields ++ [("template", .datum (.text page.body))])

/-- The descriptor that a text holds in a format. -/
def read (format : Format) (text : String) : Except FormatError Descriptor := do
  match format.dialect.readDescriptor? (← format.document text) with
  | some d => return d
  | none => .error .unreadable

end Format

end Worksheet
