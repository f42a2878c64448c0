import Worksheet.Command.Program
import Worksheet.Command.Usage

/-!
The program on a real system. It looks at the files that an invocation mentions, runs the
invocation on what it saw, and carries out the effects.
-/

namespace Worksheet

def absolutePath (l : Location) : String := "/" ++ "/".intercalate l

/-- Looks at what is found at a location. -/
def lookAt (f : Files) (l : Location) : IO Files := do
  match ← (IO.FS.realPath (absolutePath l ++ "/.")).toBaseIO with
  | .ok _ => return f.withDirectory l
  | .error _ =>
    match ← (IO.FS.readBinFile (absolutePath l)).toBaseIO with
    | .ok bytes =>
      let content := match String.fromUTF8? bytes with
        | some s => .text s
        | none => .binary
      return { f with contents := (l, content) :: f.contents }
    | .error _ => return f

/-- The places a path leads through. -/
def placesOf (here : Location) (path : String) : List Location :=
  let start := if path.startsWith "/" then [] else here
  let l := (Path.parts path).foldl Files.step start
  (List.range (l.length + 1)).map l.take

def perform (observer : Option LogLevel) : Effect → IO Unit
  | .print text => IO.print text
  | .makeDirectory l => IO.FS.createDirAll (absolutePath l)
  | .write l text => IO.FS.writeFile (absolutePath l) text
  | e => (e.told? observer).forM IO.eprint

/-- Runs an invocation and gives its exit code. -/
def runInvocation (i : Invocation) : IO UInt32 := do
  let home := (← IO.getEnv "HOME").getD ""
  let here := Path.parts (toString (← IO.currentDir))
  let f ← ((i.paths home).flatMap (placesOf here)).foldlM lookAt { here := here }
  let run := i.run home f
  run.effects.forM (perform i.observer)
  match run.failure? with
  | none => return 0
  | some failure =>
    IO.eprint failure.advice.display
    return 1

end Worksheet

def main (words : List String) : IO UInt32 := do
  match Worksheet.Invocation.ofWords words with
  | .ok i => Worksheet.runInvocation i
  | .error refusal =>
    IO.eprintln refusal.message
    return UInt32.ofNat refusal.exitCode
