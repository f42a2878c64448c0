import Worksheet.Template.SyntaxError
import Worksheet.Text.Lines

/-!
The report of a syntax error: the message, the lines around the marker to blame with a caret
below its first character, and a suggestion.
-/

namespace Worksheet

/-- How many lines before and after the line of an error are shown with it. -/
def reportMargin : Nat := 2

/-- The lines around a line, with their numbers. Nothing is shown for a line the text lacks. -/
def surroundingLines (text : List Char) (line : Nat) : List (Nat × List Char) :=
  let lines := splitLines text
  if line = 0 ∨ lines.length < line then []
  else
    let before := line - (reportMargin + 1)
    let shown := (lines.take (line + reportMargin)).drop before
    shown.mapIdx fun i l => (before + i + 1, trimFinal '\r' l)

def padLeft (width : Nat) (text : List Char) : List Char :=
  List.replicate (width - text.length) ' ' ++ text

/-- What stands before the bar on a line of the report, the bar, and the line. -/
def reportLine (width : Nat) (margin line : List Char) : List Char :=
  padLeft width margin ++ [' ', '|', ' '] ++ line ++ ['\n']

namespace SyntaxError

/-- The lines of the template that the report shows, with the caret line. -/
def excerpt (e : SyntaxError) (source : List Char) : List Char :=
  let lines := surroundingLines source e.position.line
  match lines.getLast? with
  | none => []
  | some (last, _) =>
    let width := (toString last).length
    '\n' :: lines.flatMap fun (number, line) =>
      let shown := reportLine width (toString number).toList line
      if number = e.position.line then
        shown ++ reportLine width [] (List.replicate (e.position.column - 1) ' ' ++ ['^'])
      else shown

/-- The report for an author, with the name of the template if it has one. -/
def report (e : SyntaxError) (source : String) (name : Option String) : String :=
  let heading := "ERROR: Template Syntax Error\n\n" ++ "Error: " ++ e.message ++ "\n"
  let title := match name with
    | some name => "Template: " ++ name ++ "\n"
    | none => ""
  heading ++ title ++ s!"Line: {e.position.line}\n" ++ String.ofList (e.excerpt source.toList) ++
    "\n" ++ e.suggestion

end SyntaxError

end Worksheet
