import Worksheet.Template.Marker
import Worksheet.Template.Position

/-!
A template as a sequence of tokens. Every marker of the text becomes a token, and each gap
between markers that is not empty becomes one literal token, so nothing of the text is lost and
no two literals are neighbours.
-/

namespace Worksheet

/-- A stretch of a template: literal text, or a marker. -/
inductive Lexeme
  | literal (text : String)
  | marker (m : Marker)
deriving DecidableEq, Repr

def Lexeme.spell : Lexeme → List Char
  | literal text => text.toList
  | marker m => m.spell

/-- The literal for characters collected in reverse, if there are any. -/
def Lexeme.ofPending : List Char → List Lexeme
  | [] => []
  | pending => [literal (String.ofList pending.reverse)]

/-- Splits a text at its markers. The characters since the last marker are collected in reverse. -/
def Lexeme.scan (pending text : List Char) : List Lexeme :=
  match _h : Marker.read? text with
  | some (m, rest) => ofPending pending ++ marker m :: scan [] rest
  | none =>
    match text with
    | [] => ofPending pending
    | c :: rest => scan (c :: pending) rest
termination_by text.length
decreasing_by
  · exact Marker.length_lt_of_read? _h
  · simp

structure Token where
  lexeme : Lexeme
  position : Position
deriving DecidableEq, Repr

namespace Token

/-- Gives each lexeme its place, the first one starting at `p`. -/
def place (p : Position) : List Lexeme → List Token
  | [] => []
  | x :: xs => ⟨x, p⟩ :: place (p.after x.spell) xs

end Token

def tokenize (template : String) : List Token :=
  Token.place .start (Lexeme.scan [] template.toList)

end Worksheet
