import Worksheet.Proofs.Command.Footprint

/-!
A rendering in stages. First everything that it needs is loaded: settings, descriptor, values. Then
the inputs are checked, and at last the text is made and handed over. Only the last stage does
anything but tell what happens.
-/

namespace Worksheet

variable {f : Files} {config : String} {settings : Settings} {d : Descriptor} {supplied : Context}

/-- The values that assignments are put over: those of a file, if one is given. -/
def fileInputs (f : Files) : Option String → Run Context
  | some path => loadContext f path
  | none => .pure .empty

theorem loadInputs_eq (path : Option String) (assignments : List String) :
    loadInputs f path assignments = fileInputs f path >>= fun c => assign c assignments := by
  cases path <;> rfl

namespace RenderRequest

variable {r : RenderRequest}

def prepare (f : Files) (config : String) (r : RenderRequest) :
    Run (Settings × Descriptor × Context) := do
  let settings ← loadSettings f config
  let d ← loadTemplate f r.raw r.file
  let supplied ← loadInputs f r.context r.assignments
  return (settings, d, supplied)

/-- Loads what a rendering needs besides settings. -/
def material (f : Files) (r : RenderRequest) : Run (Descriptor × Context) := do
  let d ← loadTemplate f r.raw r.file
  let supplied ← loadInputs f r.context r.assignments
  return (d, supplied)

theorem prepare_eq_material :
    r.prepare f config = loadSettings f config >>= fun settings =>
      Prod.mk settings <$> r.material f := by
  simp only [prepare, material, map_bind, map_pure]

def present (f : Files) (r : RenderRequest) (settings : Settings) (d : Descriptor)
    (supplied : Context) : Run Unit := do
  let text ← renderDescriptor settings (d.displayName r.file) d (d.buildContext supplied)
  r.deliver f (d.displayName r.file) text

/-- Goes on once everything is loaded. -/
def complete (f : Files) (r : RenderRequest) (settings : Settings) (d : Descriptor)
    (supplied : Context) : Run Unit := do
  Run.log (d.logOfInputs supplied)
  reportIssues (r.strict || settings.strictInputs)
    ((d.inputIssues supplied).map InputIssue.message)
  r.present f settings d supplied

theorem run_eq_prepare :
    r.run f config = r.prepare f config >>= fun p => r.complete f p.1 p.2.1 p.2.2 := by
  simp only [RenderRequest.run, prepare, complete, present, bind_assoc, pure_bind]
  rfl

theorem logs_prepare : (r.prepare f config).Each Effect.Logs := by
  refine (logs_loadSettings f config).bind fun _ _ => ?_
  refine (logs_loadTemplate f r.file r.raw).bind fun _ _ => ?_
  exact (logs_loadInputs f r.context r.assignments).bind fun _ _ => Run.each_pure _

theorem result_prepare (hsettings : (loadSettings f config).result = .ok settings)
    (hd : (loadTemplate f r.raw r.file).result = .ok d) :
    (r.prepare f config).result =
      (loadInputs f r.context r.assignments).result.map fun c => (settings, d, c) := by
  rw [prepare, Run.result_bind_of_ok hsettings, Run.result_bind_of_ok hd]
  cases hinputs : (loadInputs f r.context r.assignments).result with
  | ok c => rw [Run.result_bind_of_ok hinputs]; rfl
  | error failure => rw [Run.bind_of_error hinputs]; rfl

theorem result_run_of_error {failure : Failure}
    (h : (r.prepare f config).result = .error failure) :
    (r.run f config).result = .error failure := by
  rw [run_eq_prepare, Run.bind_of_error h]

theorem result_run_of_ok (h : (r.prepare f config).result = .ok (settings, d, supplied)) :
    (r.run f config).result = (r.complete f settings d supplied).result := by
  rw [run_eq_prepare, Run.result_bind_of_ok h]

end RenderRequest

end Worksheet
