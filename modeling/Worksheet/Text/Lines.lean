/-!
Lines of a text. `splitLines` cuts at every line feed, so a text always has at least one line and
the lines with line feeds between them give the text back. `terminatedLines` reads a line feed as
the end of a line instead: nothing follows the last one, and a carriage return before it belongs
to the line end.
-/

namespace Worksheet

/-- The stretches of a text between its line feeds. -/
def splitLines : List Char → List (List Char)
  | [] => [[]]
  | c :: text =>
    if c = '\n' then [] :: splitLines text
    else
      match splitLines text with
      | [] => [[c]]
      | line :: lines => (c :: line) :: lines

theorem splitLines_ne_nil (text : List Char) : splitLines text ≠ [] := by
  cases text with
  | nil => simp [splitLines]
  | cons c text =>
    rw [splitLines]
    split
    · simp
    · split <;> simp

/-- Removes one character from the end of a text if it stands there. -/
def dropFinal (c : Char) (text : List Char) : List Char :=
  if text.getLast? = some c then text.dropLast else text

/-- Removes a character from the end of a text as often as it stands there. -/
def trimFinal (c : Char) (text : List Char) : List Char :=
  (text.reverse.dropWhile (· == c)).reverse

/-- The lines of a text in which each line ends with a line feed or with a carriage return and a
line feed; the last line may do without. -/
def terminatedLines (text : List Char) : List (List Char) :=
  let lines := splitLines text
  let closed := lines.dropLast.map (dropFinal '\r')
  match lines.getLast? with
  | none | some [] => closed
  | some last => closed ++ [last]

def joinLines (lines : List (List Char)) : List Char := (lines.intersperse ['\n']).flatten

end Worksheet
