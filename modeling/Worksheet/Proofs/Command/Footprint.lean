import Worksheet.Proofs.Command.Effects
import Worksheet.Proofs.Command.Paths

/-!
What an invocation leaves behind. A rendering that fails prints nothing and keeps every file, and
one that succeeds either prints its text or writes it to one file. Of the other commands only the
one that creates a configuration file writes to a file. It is meant to spare an existing one, but
only looks for it by way of the path before it makes the directories that the path needs.
-/

namespace Worksheet

namespace Files

variable {f : Files} {l : Location} {path text : String} {made : List Location}

/-- Whether files differ from earlier ones in that a text was put into the file that a path leads
to, which is the one that it led to before, if any. -/
structure Replaced (f : Files) (path text : String) (l : Location) (after : Files) : Prop where
  located : after.locate path = .ok l
  before : ∀ m, f.locate path = .ok m → m = l
  content : after.content? l = some (.text text)
  others : ∀ m, m ≠ l → after.content? m = f.content? m

theorem content?_foldl_withDirectory :
    (made.foldl withDirectory f).content? l = f.content? l := by
  induction made generalizing f with
  | nil => rfl
  | cons m rest ih => exact ih

theorem here_foldl_withDirectory : (made.foldl withDirectory f).here = f.here := by
  induction made generalizing f with
  | nil => rfl
  | cons m rest ih => exact ih

theorem isDirectory_foldl_withDirectory (h : f.isDirectory l = true) :
    (made.foldl withDirectory f).isDirectory l = true := by
  induction made generalizing f with
  | nil => exact h
  | cons m rest ih => exact ih (isDirectory_withDirectory h)

theorem replaced_of_target (h : (made.foldl withDirectory f).target path = .ok l) :
    f.Replaced path text l ((made.foldl withDirectory f).withText l text) where
  located := locate_withText h
  before m hm := by
    have hafter : ((made.foldl withDirectory f).withText l text).locate path = .ok m :=
      locate_mono here_foldl_withDirectory
        (fun _ hdir => isDirectory_withText (isDirectory_foldl_withDirectory hdir)) hm
    rw [locate_withText h] at hafter
    exact (Except.ok.inj hafter).symm
  content := by rw [content?_withText, if_pos rfl]
  others m hm := by rw [content?_withText, if_neg hm, content?_foldl_withDirectory]

end Files

/-! ## Writing -/

namespace Run

variable {f : Files} {path text : String} {tail : List Effect} {r : Run Unit}

/-- How an attempt to write a text by way of a path goes. Nothing is written before everything that
can fail is done. -/
inductive Attempt (f : Files) (path text : String) (tail : List Effect) (r : Run Unit) : Prop
  | failed (activity : String) (e : FileError) (result_eq : r.result = .error (e.failure activity))
      (harmless : r.Each Effect.Harmless)
  | written (made : List Location) (l : Location)
      (target_eq : (made.foldl Files.withDirectory f).target path = .ok l)
      (eq : r = ⟨made.map Effect.makeDirectory ++ .write l text :: tail, .ok ()⟩)

theorem forM_makeDirectory (made : List Location) :
    made.forM (fun l => effect (.makeDirectory l)) = ⟨made.map Effect.makeDirectory, .ok ()⟩ := by
  induction made with
  | nil => rfl
  | cons l rest ih =>
    change (effect (.makeDirectory l) >>= fun _ => rest.forM _) = _
    rw [ih]
    rfl

theorem attempt_of_steps {finish : Location → Run Unit} (preparation activity : String)
    (missing : Except FileError (List Location))
    (hfinish : ∀ l, finish l = ⟨.write l text :: tail, .ok ()⟩) :
    Attempt f path text tail (do
      let made ← .ofFiles preparation missing
      made.forM fun l => effect (.makeDirectory l)
      let l ← .ofFiles activity ((made.foldl Files.withDirectory f).target path)
      finish l) := by
  cases missing with
  | error e => exact .failed preparation e rfl (fun _ he => nomatch he)
  | ok made =>
    have hmade : (ofFiles preparation (.ok made)).result = .ok made := rfl
    rw [bind_of_ok hmade, forM_makeDirectory]
    cases htarget : (made.foldl Files.withDirectory f).target path with
    | error e =>
      refine .failed activity e rfl fun effect heffect => ?_
      have hmember : effect ∈ made.map Effect.makeDirectory := by
        simpa [bind, Run.bind, ofFiles, Run.pure, fail] using heffect
      obtain ⟨l, -, rfl⟩ := List.mem_map.mp hmember
      exact ⟨trivial, trivial⟩
    | ok l => exact .written made l htarget (by simp [bind, Run.bind, ofFiles, Run.pure, hfinish])

namespace Attempt

theorem harmless_of_error {failure : Failure} (h : Attempt f path text tail r)
    (hr : r.result = .error failure) : r.Each Effect.Harmless := by
  cases h with
  | failed _ _ _ harmless => exact harmless
  | written made l _ heq =>
    rw [heq] at hr
    contradiction

theorem silent (h : Attempt f path text tail r) (htail : ∀ e ∈ tail, e.Silent) :
    r.Each Effect.Silent := by
  cases h with
  | failed _ _ _ harmless => exact harmless.silent
  | written made l _ heq =>
    rw [heq]
    intro e he
    rcases List.mem_append.mp he with hmade | hwritten
    · obtain ⟨m, -, rfl⟩ := List.mem_map.mp hmade
      trivial
    · rcases List.mem_cons.mp hwritten with rfl | hlater
      · trivial
      · exact htail e hlater

theorem replaced_of_ok (h : Attempt f path text tail r) (hr : r.result = .ok ())
    (htail : ∀ g, tail.foldl Effect.apply g = g) :
    ∃ l, f.Replaced path text l (r.filesAfter f) ∧
      (f.isFile l = true → f.has path = false → ".." ∈ Path.parts path) := by
  cases h with
  | failed _ _ herror _ =>
    rw [herror] at hr
    contradiction
  | written made l htarget heq =>
    have hafter : r.filesAfter f = (made.foldl Files.withDirectory f).withText l text := by
      rw [heq, filesAfter, List.foldl_append, List.foldl_map, List.foldl_cons, htail]
      rfl
    refine ⟨l, hafter ▸ Files.replaced_of_target htarget, fun hfile hhas => ?_⟩
    by_contra hup
    have habsent := Files.isFile_eq_false_of_target hhas hup Files.here_foldl_withDirectory htarget
    exact Bool.false_ne_true (habsent.symm.trans hfile)

end Attempt

end Run

theorem attempt_writeOutput (f : Files) (path text : String) :
    (writeOutput f path text).Attempt f path text [] := by
  unfold writeOutput
  split
  · exact Run.attempt_of_steps _ _ _ fun _ => rfl
  · exact Run.attempt_of_steps "" _ (.ok []) fun _ => rfl

/-- Creating a configuration file is an attempt to write it unless there is one to be kept. -/
theorem createSettings_cases (f : Files) (path : String) (force : Bool) :
    (∃ problem, createSettings f path force = .reject problem) ∨
      (f.has path = true → force = true) ∧
        (createSettings f path force).Attempt f path Settings.exampleText
          [.print s!"✓ Created {path}\n"] := by
  unfold createSettings
  cases hkept : f.has path && !force with
  | true => exact .inl ⟨_, rfl⟩
  | false =>
    refine .inr ⟨by simpa using hkept, ?_⟩
    simp only [Bool.false_eq_true, if_false]
    split
    · exact Run.attempt_of_steps _ _ _ fun _ => rfl
    · exact Run.attempt_of_steps "" _ (.ok []) fun _ => rfl

/-! ## Rendering -/

namespace RenderRequest

variable {f : Files} {config : String} {r : RenderRequest} {name text : String}

/-- Whether a request has a text as its outcome: all that it needs can be loaded, and the template
gives the text for the inputs. -/
def Renders (f : Files) (config : String) (r : RenderRequest) (text : String) : Prop :=
  ∃ settings d supplied body,
    (loadSettings f config).result = .ok settings ∧
    (loadTemplate f r.raw r.file).result = .ok d ∧
    (loadInputs f r.context r.assignments).result = .ok supplied ∧
    Body.parse settings.maxDepth d.template = .ok body ∧
    text = body.evaluate settings.maxIterations (d.buildContext supplied)

/-- The part of a run that comes to the text, and to the name of what is rendered. -/
def compose (f : Files) (config : String) (r : RenderRequest) : Run (String × String) := do
  let settings ← loadSettings f config
  let d ← loadTemplate f r.raw r.file
  let supplied ← loadInputs f r.context r.assignments
  Run.log (d.logOfInputs supplied)
  reportIssues (r.strict || settings.strictInputs)
    ((d.inputIssues supplied).map InputIssue.message)
  let text ← renderDescriptor settings (d.displayName r.file) d (d.buildContext supplied)
  return (d.displayName r.file, text)

/-- The part of a run that hands over the text. -/
def deliver (f : Files) (r : RenderRequest) (name text : String) : Run Unit :=
  match r.output with
  | some path => do
    writeOutput f path text
    Run.remark s!"✓ Rendered {name} to {path}\n"
  | none => Run.print text

theorem deliver_to_file {path : String} (h : r.output = some path) :
    r.deliver f name text =
      writeOutput f path text >>= fun _ => Run.remark s!"✓ Rendered {name} to {path}\n" := by
  rw [deliver, h]

theorem deliver_to_stdout (h : r.output = none) : r.deliver f name text = Run.print text := by
  rw [deliver, h]

theorem run_eq : r.run f config = r.compose f config >>= fun p => r.deliver f p.1 p.2 := by
  simp only [RenderRequest.run, compose, bind_assoc, pure_bind]
  rfl

theorem idle_compose : (r.compose f config).Each Effect.Idle := by
  refine (idle_loadSettings f config).bind fun settings _ => ?_
  refine (idle_loadTemplate f r.file r.raw).bind fun d _ => ?_
  refine (idle_loadInputs f r.context r.assignments).bind fun supplied _ => ?_
  refine Run.Each.bind (by simp [Effect.Idle]) fun _ _ => ?_
  refine (idle_reportIssues _ _).bind fun _ _ => ?_
  exact (idle_renderDescriptor _ _ _ _).bind fun _ _ => Run.each_pure _

theorem renders_of_compose (h : (r.compose f config).result = .ok (name, text)) :
    r.Renders f config text := by
  simp only [compose, Run.result_bind_eq_ok_iff] at h
  obtain ⟨settings, hsettings, d, hd, supplied, hsupplied, _, -, _, -, shown, hshown, hpair⟩ := h
  obtain rfl : shown = text := congrArg Prod.snd (Except.ok.inj hpair)
  rw [result_renderDescriptor] at hshown
  split at hshown
  · next body hbody =>
    exact ⟨settings, d, supplied, body, hsettings, hd, hsupplied, hbody,
      (Except.ok.inj hshown).symm⟩
  · contradiction

theorem harmless_of_error {failure : Failure} (h : (r.run f config).result = .error failure) :
    (r.run f config).Each Effect.Harmless := by
  rw [run_eq] at h ⊢
  refine idle_compose.harmless.bind fun p hp => ?_
  rw [Run.result_bind_of_ok hp] at h
  cases hout : r.output with
  | none =>
    rw [deliver_to_stdout hout] at h
    contradiction
  | some path =>
    rw [deliver_to_file hout] at h ⊢
    rcases Run.result_bind_eq_error_iff.mp h with hwrite | ⟨_, -, hremark⟩
    · refine ((attempt_writeOutput f path p.2).harmless_of_error hwrite).bind fun _ _ => ?_
      exact Run.each_remark.mpr ⟨trivial, trivial⟩
    · contradiction

theorem run_to_file {path : String} (hout : r.output = some path)
    (h : (r.run f config).result = .ok ()) :
    (r.run f config).stdout = "" ∧
      ∃ text l, r.Renders f config text ∧
        f.Replaced path text l ((r.run f config).filesAfter f) := by
  rw [run_eq] at h ⊢
  obtain ⟨⟨name, text⟩, hcompose, hdeliver⟩ := Run.result_bind_eq_ok_iff.mp h
  rw [deliver_to_file hout] at hdeliver
  obtain ⟨_, hwrite, -⟩ := Run.result_bind_eq_ok_iff.mp hdeliver
  constructor
  · refine Run.Each.stdout_eq (Run.Each.bind idle_compose.harmless.silent ?_)
    intro p _
    rw [deliver_to_file hout]
    exact ((attempt_writeOutput f path p.2).silent nofun).bind fun _ _ =>
      Run.each_remark.mpr trivial
  · obtain ⟨l, hreplaced, -⟩ :=
      (attempt_writeOutput f path text).replaced_of_ok hwrite fun _ => rfl
    refine ⟨text, l, renders_of_compose hcompose, ?_⟩
    rw [Run.filesAfter_bind_of_ok hcompose, idle_compose.filesAfter_eq, deliver_to_file hout,
      Run.filesAfter_bind_of_ok hwrite, Run.filesAfter_remark]
    exact hreplaced

theorem run_to_stdout (hout : r.output = none) (h : (r.run f config).result = .ok ()) :
    r.Renders f config (r.run f config).stdout ∧ (r.run f config).Each Effect.KeepsFiles := by
  rw [run_eq] at h ⊢
  obtain ⟨⟨name, text⟩, hcompose, -⟩ := Run.result_bind_eq_ok_iff.mp h
  constructor
  · rw [Run.stdout_bind_of_ok hcompose, idle_compose.stdout_of_idle, deliver_to_stdout hout,
      Run.stdout_print, String.empty_append]
    exact renders_of_compose hcompose
  · refine idle_compose.harmless.keepsFiles.bind fun p _ => ?_
    rw [deliver_to_stdout hout]
    exact Run.each_print.mpr trivial

end RenderRequest

/-! ## Checking -/

namespace ValidateRequest

def shown (r : ValidateRequest) (d : Descriptor) (found : Findings) : String :=
  match r.format with
  | .json => (found.toJson r.file).pretty ++ "\n"
  | .text => found.text (d.displayName r.file)

theorem run_eq (f : Files) (config : String) (r : ValidateRequest) :
    r.run f config = (do
      let settings ← loadSettings f config
      let d ← r.load f
      Run.log (d.logOfValidate settings.maxDepth)
      Run.print (r.shown d (d.validate settings.maxDepth))
      if !(d.validate settings.maxDepth).isValid then
        .reject (.invalidDescriptor r.file (d.validate settings.maxDepth).errors.length)) := by
  unfold ValidateRequest.run shown
  cases r.format <;> rfl

end ValidateRequest

/-! ## All commands -/

theorem keepsFiles_validate (f : Files) (config : String) (r : ValidateRequest) :
    (r.run f config).Each Effect.KeepsFiles := by
  rw [ValidateRequest.run_eq]
  refine (idle_loadSettings f config).harmless.keepsFiles.bind fun settings _ => ?_
  refine Run.Each.bind ?_ fun d _ => ?_
  · have hloaded := (idle_loadDescriptor f r.file).harmless.keepsFiles
    unfold ValidateRequest.load
    simp only
    split
    · exact fun e he => (List.mem_append.mp he).elim (hloaded e) fun hshown => by
        rw [List.mem_singleton.mp hshown]
        trivial
    · exact hloaded
  · refine Run.Each.bind (by simp [Effect.KeepsFiles]) fun _ _ => ?_
    refine Run.Each.bind (by simp [Effect.KeepsFiles]) fun _ _ => ?_
    split <;> simp

theorem keepsFiles_inspect (f : Files) (config : String) (r : InspectRequest) :
    (r.run f config).Each Effect.KeepsFiles := by
  refine (idle_loadSettings f config).harmless.keepsFiles.bind fun settings _ => ?_
  refine (idle_loadTemplate f r.file r.raw).harmless.keepsFiles.bind fun d _ => ?_
  refine Run.Each.bind (by simp [Effect.KeepsFiles]) fun _ _ => ?_
  simp only
  split
  · simp
  · split <;> simp [Effect.KeepsFiles]

theorem keepsFiles_showSettings (f : Files) (path : String) :
    (showSettings f path).Each Effect.KeepsFiles := by
  refine (idle_loadSettings f path).harmless.keepsFiles.bind fun settings _ => ?_
  simp [Effect.KeepsFiles]

/-- What an invocation does to the files, and what a rendering prints. -/
theorem footprint (home : String) (f : Files) (i : Invocation) :
    let run := i.run home f
    let config := i.configPath home
    let after := run.filesAfter f
    match i.action with
    | .render r =>
      match run.result, r.output with
      | .error _, _ => run.stdout = "" ∧ after.content? = f.content?
      | .ok _, some path =>
        run.stdout = "" ∧ ∃ text l, r.Renders f config text ∧ f.Replaced path text l after
      | .ok _, none => r.Renders f config run.stdout ∧ after.content? = f.content?
    | .settings (.init force) =>
      match run.result with
      | .error _ => after.content? = f.content?
      | .ok _ => ∃ l, f.Replaced config Settings.exampleText l after ∧
          (f.isFile l = true → force = true ∨ f.has config = false ∧ ".." ∈ Path.parts config)
    | _ => after.content? = f.content? := by
  obtain ⟨action, config, verbose, quiet⟩ := i
  cases action with
  | render r =>
    simp only [Invocation.run]
    cases hresult : (r.run f _).result with
    | error failure =>
      have hharmless := RenderRequest.harmless_of_error hresult
      exact ⟨hharmless.silent.stdout_eq, hharmless.keepsFiles.content?_filesAfter⟩
    | ok _ =>
      cases hout : r.output with
      | some path => exact RenderRequest.run_to_file hout hresult
      | none =>
        have hshown := RenderRequest.run_to_stdout hout hresult
        exact ⟨hshown.1, hshown.2.content?_filesAfter⟩
  | validate r => exact (keepsFiles_validate f _ r).content?_filesAfter
  | inspect r => exact (keepsFiles_inspect f _ r).content?_filesAfter
  | settings request =>
    cases request with
    | init force =>
      simp only [Invocation.run, SettingsRequest.run]
      rcases createSettings_cases f _ force with ⟨problem, hreject⟩ | ⟨hkept, hattempt⟩
      · rw [hreject]
        exact (Run.each_reject problem).content?_filesAfter
      · cases hresult : (createSettings f _ force).result with
        | error failure =>
          exact (hattempt.harmless_of_error hresult).keepsFiles.content?_filesAfter
        | ok _ =>
          obtain ⟨l, hreplaced, hup⟩ := hattempt.replaced_of_ok hresult fun _ => rfl
          refine ⟨l, hreplaced, fun hfile => ?_⟩
          cases hhas : f.has _ with
          | true => exact .inl (hkept hhas)
          | false => exact .inr ⟨rfl, hup hfile hhas⟩
    | display => exact (keepsFiles_showSettings f _).content?_filesAfter
    | path => exact (Run.each_print.mpr trivial).content?_filesAfter

/-- A configuration file is overwritten without being asked for where the path to it goes by way of
a directory that is still to be made. -/
theorem settings_overwritten_by_roundabout_path :
    let f : Files := { contents := [(["config.toml"], .text "max_depth = 3\n")] }
    let i : Invocation := { action := .settings (.init false), config := some "a/../config.toml" }
    let run := i.run "/root" f
    f.isFile ["config.toml"] = true ∧ run.failure? = none ∧
      (run.filesAfter f).content? ["config.toml"] ≠ f.content? ["config.toml"] := by
  decide +kernel

end Worksheet
