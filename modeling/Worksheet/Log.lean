/-!
What the program tells an observer while it works. An entry has a level; an observer who records
a level records the more urgent ones too.
-/

namespace Worksheet

inductive LogLevel
  | warn
  | info
  | debug
  | trace
deriving DecidableEq, Repr

namespace LogLevel

def name : LogLevel → String
  | warn => "WARN"
  | info => "INFO"
  | debug => "DEBUG"
  | trace => "TRACE"

def rank : LogLevel → Nat
  | warn => 0
  | info => 1
  | debug => 2
  | trace => 3

/-- Whether an observer of this level records entries of another. -/
def records (observer level : LogLevel) : Bool := level.rank ≤ observer.rank

end LogLevel

structure LogEntry where
  level : LogLevel
  message : String
deriving DecidableEq, Repr

namespace LogEntry

def line (e : LogEntry) : String := s!"{e.level.name} {e.message}\n"

end LogEntry

end Worksheet
