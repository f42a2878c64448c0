import Worksheet.Files
import Worksheet.Log

/-!
Runs of the program: what it does to the outside, in order, and how it ends. What has been done
before a failure stays done.
-/

namespace Worksheet

/-- One thing done to the outside. -/
inductive Effect
  | log (e : LogEntry)
  | print (text : String)
  /-- A text for the user that is not part of the result. -/
  | remark (text : String)
  | makeDirectory (l : Location)
  | write (l : Location) (text : String)
deriving DecidableEq, Repr

namespace Effect

def entry? : Effect → Option LogEntry
  | log e => some e
  | _ => none

def printed? : Effect → Option String
  | print text => some text
  | _ => none

/-- What the effect writes beside the result, where an observer records log entries up to a level or
not at all. -/
def told? (observer : Option LogLevel) : Effect → Option String
  | log e => if observer.any (·.records e.level) then some e.line else none
  | remark text => some text
  | _ => none

def apply (f : Files) : Effect → Files
  | makeDirectory l => f.withDirectory l
  | write l text => f.withText l text
  | _ => f

end Effect

/-- The effects of a computation and its result. -/
structure Run (α : Type) where
  effects : List Effect
  result : Except Failure α

namespace Run

variable {α β : Type}

protected def pure (a : α) : Run α := ⟨[], .ok a⟩

protected def bind (r : Run α) (k : α → Run β) : Run β :=
  match r.result with
  | .ok a => ⟨r.effects ++ (k a).effects, (k a).result⟩
  | .error failure => ⟨r.effects, .error failure⟩

instance : Monad Run where
  pure := Run.pure
  bind := Run.bind

def fail (failure : Failure) : Run α := ⟨[], .error failure⟩

/-- Fails with a problem that nothing else is said about. -/
def reject (p : Problem) : Run α := fail ⟨.problem p, []⟩

def effect (e : Effect) : Run Unit := ⟨[e], .ok ()⟩

def print (text : String) : Run Unit := effect (.print text)

def remark (text : String) : Run Unit := effect (.remark text)

def debug (message : String) : Run Unit := effect (.log ⟨.debug, message⟩)

def log (entries : List LogEntry) : Run Unit := ⟨entries.map Effect.log, .ok ()⟩

/-- The result of an activity with files, whose failure is named after the activity. -/
def ofFiles (activity : String) : Except FileError α → Run α
  | .ok a => .pure a
  | .error e => fail (e.failure activity)

/-! ## What a run shows -/

def entries (r : Run α) : List LogEntry := r.effects.filterMap Effect.entry?

def stdout (r : Run α) : String := String.join (r.effects.filterMap Effect.printed?)

/-- The remarks, and between them the log entries that an observer records. The failure that a run may
end with is reported after all of these, and is part of the result. -/
def stderr (r : Run α) (observer : Option LogLevel := none) : String :=
  String.join (r.effects.filterMap (Effect.told? observer))

def filesAfter (r : Run α) (f : Files) : Files := r.effects.foldl Effect.apply f

def failure? (r : Run α) : Option Failure :=
  match r.result with
  | .ok _ => none
  | .error failure => some failure

end Run

end Worksheet
