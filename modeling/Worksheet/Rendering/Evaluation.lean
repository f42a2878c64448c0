import Worksheet.Log
import Worksheet.Template.Body
import Worksheet.Value.Basic

/-!
The meaning of a template body in a context, as the sequence of steps of its evaluation: the texts
it writes, the runs of a loop body it makes, and what it has to pass over. Evaluation always
succeeds. Inside an iteration the element and its position are bound in a scope of their own, which
hides entries of the context with the same names and ends with the iteration.
-/

namespace Worksheet

/-- What an iteration binds while its body runs once: an element and its position from one. -/
structure Frame where
  item : Value
  index : Nat
deriving Repr

inductive Step
  | wrote (text : String)
  | entered (frame : Frame)
  | notAList (source : String)
  | exhausted (budget : Nat)
deriving Repr

namespace Step

def output : Step → String
  | wrote text => text
  | _ => ""

def logEntry? : Step → Option LogEntry
  | notAList source => some ⟨.trace, s!"'{source}' is not a list, skipping iteration block"⟩
  | exhausted budget =>
    some ⟨.warn, s!"Iteration budget of {budget} exhausted; remaining loop iterations skipped"⟩
  | _ => none

def warnings (steps : List Step) : List LogEntry :=
  (steps.filterMap logEntry?).filter fun entry => entry.level = .warn

end Step

/-- How much of the budget of loop runs is spent, and whether its end has been announced. -/
structure Meter where
  spent : Nat := 0
  announced : Bool := false
deriving DecidableEq, Repr

namespace Meter

/-- Whether the budget has room for one more run. Without a budget there is always room. -/
def hasRoom (budget : Option Nat) (m : Meter) : Bool :=
  match budget with
  | none => true
  | some most => m.spent < most

def spend (m : Meter) : Meter := { m with spent := m.spent + 1 }

/-- The end of the budget is announced once. -/
def announce (budget : Option Nat) (m : Meter) : List Step :=
  match budget with
  | some most => if m.announced then [] else [.exhausted most]
  | none => []

def close (m : Meter) : Meter := { m with announced := true }

end Meter

/-- Runs a body for each element as long as there is room, counting positions from `index`. -/
def runLoop (budget : Option Nat) (body : Frame → Meter → List Step × Meter) (index : Nat) :
    List Value → Meter → List Step × Meter
  | [], m => ([], m)
  | item :: items, m =>
    if m.hasRoom budget then
      let frame : Frame := ⟨item, index⟩
      let (first, m) := body frame m.spend
      let (others, m) := runLoop budget body (index + 1) items m
      (.entered frame :: (first ++ others), m)
    else (m.announce budget, m.close)

/-- The value a name has: the innermost iteration binds its element and its position. -/
def lookup (context : Context) (scope : List Frame) (name : String) : Option Value :=
  match scope with
  | [] => context.get? name
  | frame :: _ =>
    if name = itemName then some frame.item
    else if name = indexName then some (.number (.ofNat frame.index))
    else context.get? name

namespace Body

/-- The steps of a body inside the given iterations, innermost first. -/
def run (budget : Option Nat) (context : Context) :
    Body → List Frame → Meter → List Step × Meter
  | empty, _, m => ([], m)
  | literal text rest, scope, m =>
    let (steps, m) := rest.run budget context scope m
    (.wrote text :: steps, m)
  | reference name rest, scope, m =>
    let shown := match lookup context scope name with
      | some v => [Step.wrote v.toText]
      | none => []
    let (steps, m) := rest.run budget context scope m
    (shown ++ steps, m)
  | block .conditional name inner rest, scope, m =>
    let holds := ((lookup context scope name).map Value.truthy).getD false
    let (first, m) := if holds then inner.run budget context scope m else ([], m)
    let (steps, m) := rest.run budget context scope m
    (first ++ steps, m)
  | block .iteration name inner rest, scope, m =>
    let (first, m) := match lookup context scope name with
      | some (.list items) =>
        runLoop budget (fun frame => inner.run budget context (frame :: scope)) 1 items m
      | _ => ([.notAList name], m)
    let (steps, m) := rest.run budget context scope m
    (first ++ steps, m)

def steps (budget : Option Nat) (context : Context) (b : Body) : List Step :=
  (b.run budget context [] {}).1

def evaluate (budget : Option Nat) (context : Context) (b : Body) : String :=
  String.join ((b.steps budget context).map Step.output)

/-- The frames of the loop bodies that were run, in order. -/
def executed (budget : Option Nat) (context : Context) (b : Body) : List Frame :=
  (b.steps budget context).filterMap fun
    | .entered frame => some frame
    | _ => none

def warnings (budget : Option Nat) (context : Context) (b : Body) : List LogEntry :=
  Step.warnings (b.steps budget context)

end Body

end Worksheet
