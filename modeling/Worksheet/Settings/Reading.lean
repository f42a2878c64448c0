import Worksheet.Descriptor.Reading
import Worksheet.Settings.Basic
import Worksheet.Toml.Reader

/-!
Settings from a configuration file in TOML. What the file does not mention keeps its default, and
what it mentions needlessly is ignored.
-/

namespace Worksheet

inductive SettingsError
  /-- The file is no TOML, or an entry has the wrong type. -/
  | unreadable
  | depthTooSmall
  | depthTooLarge (depth : Nat)
deriving DecidableEq, Repr

def SettingsError.message : SettingsError → String
  | unreadable => "invalid TOML"
  | depthTooSmall => "max_depth must be at least 1"
  | depthTooLarge depth => s!"max_depth must be at most {depthCeiling}, got {depth}"

namespace Settings

/-- A count of 64 bits. -/
def count? : Document → Option Nat
  | .scalar (.integer n) _ => if 0 ≤ n ∧ n < Nat.pow 2 64 then some n.toNat else none
  | _ => none

def ofDocument? (d : Document) : Option Settings := do
  let fields ← Dialect.record? {} ["max_depth", "max_iterations", "cache", "strict_inputs"] d
  return {
    maxDepth := ← Dialect.given? defaultDepthLimit count? (fields "max_depth")
    maxIterations := ← Dialect.optional? count? (fields "max_iterations")
    cache := ← Dialect.given? true Dialect.boolean? (fields "cache")
    strictInputs := ← Dialect.given? false Dialect.boolean? (fields "strict_inputs") }

/-- Refuses depths that cannot be kept to. -/
def check (s : Settings) : Except SettingsError Settings :=
  if s.maxDepth = 0 then .error .depthTooSmall
  else if depthCeiling < s.maxDepth then .error (.depthTooLarge s.maxDepth)
  else .ok s

def ofText (text : String) : Except SettingsError Settings :=
  match (Toml.read? text).bind ofDocument? with
  | none => .error .unreadable
  | some s => s.check

/-- A configuration file with the defaults and a comment on each setting. -/
def exampleText : String :=
  "# lessonforge configuration\n\n" ++
  s!"# Reject templates with blocks nested deeper than this (at most {depthCeiling})\n" ++
  s!"max_depth = {defaultDepthLimit}\n\n" ++
  "# Stop iterating after this many loop iterations per render\n# max_iterations = 10000\n\n" ++
  "# Reuse parsed templates between renders in one process\ncache = true\n\n" ++
  "# Fail \x60render\x60 when inputs do not match the declared variables\nstrict_inputs = false\n"

end Settings

end Worksheet
