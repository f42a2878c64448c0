import Worksheet.Template.Body
import Worksheet.Template.SyntaxError
import Worksheet.Template.Token

/-!
Matching the blocks of a template. Tokens are read from left to right; the blocks that are still
open lie on a stack, and the first token that cannot belong to a well-matched template of the
permitted depth is blamed.
-/

namespace Worksheet

def defaultDepthLimit : Nat := 64

/-- No limit permits more nesting than this. -/
def depthCeiling : Nat := 1024

/-- The nesting that a limit permits. -/
def effectiveDepth (limit : Nat) : Nat := min limit depthCeiling

/-- A block without its closing so far, and what the enclosing body held before it. -/
structure OpenBlock where
  kind : BlockKind
  name : String
  position : Position
  before : Body
deriving DecidableEq, Repr

/-- The state of a parse. Bodies that are still growing hold their last part first. -/
structure Matching where
  current : Body := .empty
  opened : List OpenBlock := []
deriving DecidableEq, Repr

namespace Matching

def feed (limit : Nat) (s : Matching) (token : Token) : Except SyntaxError Matching :=
  match token.lexeme with
  | .literal text => .ok { s with current := .literal text s.current }
  | .marker (.reference name) => .ok { s with current := .reference name s.current }
  | .marker (.opening kind name) =>
    if s.opened.length < effectiveDepth limit then
      .ok ⟨.empty, ⟨kind, name, token.position, s.current⟩ :: s.opened⟩
    else .error (.tooDeep (effectiveDepth limit) token.position)
  | .marker (.closing kind) =>
    match s.opened with
    | [] => .error (.unmatchedClose kind none token.position)
    | b :: opened =>
      if b.kind = kind then .ok ⟨.block kind b.name s.current.reverse b.before, opened⟩
      else .error (.unmatchedClose kind (some b.kind) token.position)

/-- Ends the parse. The innermost block that is still open is blamed. -/
def finish (s : Matching) : Except SyntaxError Body :=
  match s.opened with
  | [] => .ok s.current.reverse
  | b :: _ => .error (.unclosedBlock b.kind b.name b.position)

end Matching

def Body.ofTokens (limit : Nat) (tokens : List Token) : Except SyntaxError Body := do
  (← tokens.foldlM (Matching.feed limit) {}).finish

def Body.parse (limit : Nat) (template : String) : Except SyntaxError Body :=
  ofTokens limit (tokenize template)

end Worksheet
