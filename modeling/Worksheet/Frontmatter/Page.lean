import Worksheet.Text.Blank
import Worksheet.Text.Lines

/-!
Pages: documents that may open with data about themselves, set off from the text by lines of three
hyphens.
-/

namespace Worksheet

/-- A page, with the data at its front if there is any. -/
structure Page where
  front : Option String
  body : String
deriving DecidableEq, Repr

namespace Page

/-- The line before and behind the data. -/
def fence : List Char := ['-', '-', '-']

/-- Whether a line is a fence. White space behind it does not matter. -/
def isFence (line : List Char) : Bool := trimEnd line == fence

/-- The text that lines make up, without empty lines in front. -/
def bodyOf (lines : List (List Char)) : String :=
  String.ofList ((joinLines lines).dropWhile (· == '\n'))

/-- The page that a text shows. Data that no second fence ends belongs to the body, and a text no
longer than a fence is an empty page. -/
def ofText (text : String) : Page :=
  if text.utf8ByteSize ≤ fence.length then ⟨none, ""⟩
  else
    let first := text.toList.takeWhile (· != '\n')
    let rest := text.toList.drop (first.length + 1)
    if isFence first && first.length < text.toList.length then
      let lines := terminatedLines rest
      let front := lines.takeWhile fun line => !isFence line
      match lines.drop front.length with
      | _ :: body => ⟨some (String.ofList (trim (joinLines front))), bodyOf body⟩
      | [] => ⟨none, bodyOf lines⟩
    else ⟨none, bodyOf (terminatedLines text.toList)⟩

end Page

end Worksheet
