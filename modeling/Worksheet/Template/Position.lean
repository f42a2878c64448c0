/-!
Positions in a template. A position counts what lies before it: bytes of UTF-8, lines, and
characters of the current line. Only a line feed ends a line.
-/

namespace Worksheet

/-- A place in a template: bytes before it, and line and column counted from one. -/
structure Position where
  offset : Nat
  line : Nat
  column : Nat
deriving DecidableEq, Repr

namespace Position

def start : Position := ⟨0, 1, 1⟩

def step (p : Position) (c : Char) : Position :=
  if c = '\n' then ⟨p.offset + c.utf8Size, p.line + 1, 1⟩
  else ⟨p.offset + c.utf8Size, p.line, p.column + 1⟩

def after (p : Position) (text : List Char) : Position := text.foldl step p

theorem after_append (p : Position) (s t : List Char) :
    p.after (s ++ t) = (p.after s).after t := List.foldl_append

def describe (p : Position) : String := s!"line {p.line}, column {p.column}"

end Position

end Worksheet
