import Worksheet.Proofs.Command.Stages
import Worksheet.Proofs.Json.Writing

/-!
What strictness does. A strict run and the same run without strictness load the same things, so they
fail alike at that stage. They part only where inputs have issues: the one is rejected with the very
issues that the other one warns of, and before it has done anything. This is what the user sees with
the log recorded up to any level, or not at all.
-/

namespace Worksheet

/-! ## Warnings -/

/-- The text of a warning, if the effect is one. -/
def Effect.warning? : Effect → Option String
  | remark text =>
    match text.toList with
    | '⚠' :: ' ' :: line => some (String.ofList line.dropLast)
    | _ => none
  | _ => none

theorem Effect.warning?_remark_issue (issue : String) :
    (remark s!"⚠ {issue}\n").warning? = some issue := by
  simp [warning?, toString]

theorem Effect.warning?_remark_rendered (name path : String) :
    (remark s!"✓ Rendered {name} to {path}\n").warning? = none := by
  simp [warning?, toString]

namespace Run

variable {α β : Type} {r : Run α} {k : α → Run β} {a : α} {observer : Option LogLevel}

def warnings (r : Run α) : List String := r.effects.filterMap Effect.warning?

theorem warnings_bind_of_ok (h : r.result = .ok a) :
    (r >>= k).warnings = r.warnings ++ (k a).warnings := by
  rw [warnings, effects_bind_of_ok h, List.filterMap_append]
  rfl

theorem stderr_bind_of_ok (h : r.result = .ok a) :
    (r >>= k).stderr observer = r.stderr observer ++ (k a).stderr observer := by
  rw [stderr, effects_bind_of_ok h, List.filterMap_append, String.join_append]
  rfl

theorem stderr_bind_of_error {failure : Failure} (h : r.result = .error failure) :
    (r >>= k).stderr observer = r.stderr observer := by
  rw [bind_of_error h]
  rfl

theorem stderr_map (g : α → β) : (g <$> r).stderr observer = r.stderr observer := by
  rw [map_eq_pure_bind]
  cases h : r.result with
  | ok a => rw [stderr_bind_of_ok h]; exact String.append_empty
  | error failure => exact stderr_bind_of_error h

theorem Each.warnings_eq (h : r.Each fun e => e.warning? = none) : r.warnings = [] :=
  List.filterMap_eq_nil_iff.mpr h

theorem Each.warnings_of_logs (h : r.Each Effect.Logs) : r.warnings = [] :=
  Each.warnings_eq (h.mono fun e he => by cases e <;> first | rfl | contradiction)

/-- Whether nobody can tell two runs apart: neither by how they end, nor by what they print and write,
nor by what they tell on the way, with log entries recorded for the given observer. -/
structure Indistinguishable (observer : Option LogLevel) (r s : Run Unit) : Prop where
  result_eq : r.result = s.result
  stdout_eq : r.stdout = s.stdout
  stderr_eq : r.stderr observer = s.stderr observer
  filesAfter_eq : ∀ f, r.filesAfter f = s.filesAfter f

theorem Indistinguishable.refl (r : Run Unit) : r.Indistinguishable observer r :=
  ⟨rfl, rfl, rfl, fun _ => rfl⟩

section Logs

variable {s : Run α} {k k' : α → Run Unit} {b : α}

/-- Runs that only log can be told apart by the log alone, with whatever goes on after them. -/
theorem Each.indistinguishable_bind_of_ok (hr : r.Each Effect.Logs) (hs : s.Each Effect.Logs)
    (hlog : r.stderr observer = s.stderr observer) (ha : r.result = .ok a) (hb : s.result = .ok b)
    (hk : (k a).Indistinguishable observer (k' b)) :
    (r >>= k).Indistinguishable observer (s >>= k') where
  result_eq := by rw [result_bind_of_ok ha, result_bind_of_ok hb, hk.result_eq]
  stdout_eq := by
    rw [stdout_bind_of_ok ha, stdout_bind_of_ok hb, hr.idle.stdout_of_idle, hs.idle.stdout_of_idle,
      hk.stdout_eq]
  stderr_eq := by rw [stderr_bind_of_ok ha, stderr_bind_of_ok hb, hlog, hk.stderr_eq]
  filesAfter_eq f := by
    rw [filesAfter_bind_of_ok ha, filesAfter_bind_of_ok hb, hr.idle.filesAfter_eq,
      hs.idle.filesAfter_eq, hk.filesAfter_eq]

theorem Each.indistinguishable_bind_of_error {failure : Failure} (hr : r.Each Effect.Logs)
    (hs : s.Each Effect.Logs) (hlog : r.stderr observer = s.stderr observer)
    (ha : r.result = .error failure) (hb : s.result = .error failure) :
    (r >>= k).Indistinguishable observer (s >>= k') := by
  rw [bind_of_error ha, bind_of_error hb]
  exact ⟨rfl, hr.idle.stdout_of_idle.trans hs.idle.stdout_of_idle.symm, hlog,
    fun _ => hr.idle.filesAfter_eq.trans hs.idle.filesAfter_eq.symm⟩

end Logs

end Run

theorem warnings_reportIssues (issues : List String) :
    (reportIssues false issues).warnings = issues := by
  rw [reportIssues]
  simp only [Bool.false_and, Bool.false_eq_true, if_false]
  induction issues with
  | nil => rfl
  | cons issue rest ih =>
    change (Run.remark s!"⚠ {issue}\n" >>= fun _ => rest.forM _).warnings = _
    rw [Run.warnings_bind_of_ok (Run.result_remark _), ih]
    simp [Run.warnings, Run.remark, Run.effect, Effect.warning?_remark_issue]

theorem each_writeOutput (f : Files) (path text : String) :
    (writeOutput f path text).Each fun e => e.warning? = none := by
  unfold writeOutput
  split
  all_goals
    refine Run.Each.bind (by simp) fun made _ => ?_
    refine Run.Each.bind (Run.each_forM fun l _ => Run.each_effect.mpr rfl) fun _ _ => ?_
    exact Run.Each.bind (by simp) fun l _ => Run.each_effect.mpr rfl

/-! ## Strict and lenient runs -/

namespace RenderRequest

variable {f g : Files} {config config' : String} {r r' : RenderRequest} {settings : Settings}
  {d : Descriptor} {supplied : Context} {observer : Option LogLevel}

/-- Whether a run of a request is strict, because the request or the configuration says so. -/
def IsStrict (f : Files) (config : String) (r : RenderRequest) : Prop :=
  r.strict = true ∨ ∃ s, (loadSettings f config).result = .ok s ∧ s.strictInputs = true

theorem isStrict_iff (h : (loadSettings f config).result = .ok settings) :
    r.IsStrict f config ↔ (r.strict || settings.strictInputs) = true := by
  simp [IsStrict, h]

/-- Whether the paths of a request lead to the same in two sets of files: in what is read, and in
where the output can be put. -/
structure SameFiles (f g : Files) (r : RenderRequest) : Prop where
  source_has : f.has r.file = g.has r.file
  source_text : f.readText r.file = g.readText r.file
  context_text : ∀ path, r.context = some path → f.readText path = g.readText path
  output_missing : ∀ path, r.output = some path → ∀ around, Path.directory? path = some around →
    f.missingDirectories around = g.missingDirectories around
  output_target : ∀ path, r.output = some path → ∀ made : List Location,
    (made.foldl Files.withDirectory f).target path = (made.foldl Files.withDirectory g).target path

/-- Whether two runs are the same but for being strict: the requests differ in nothing else, nor do
the settings that the configurations give, and the other files are the same. -/
structure SameButStrict (f g : Files) (config config' : String) (r r' : RenderRequest) : Prop where
  request : r' = { r with strict := r'.strict }
  settings : (loadSettings f config).result.map ({ · with strictInputs := false }) =
    (loadSettings g config').result.map ({ · with strictInputs := false })
  files : r.SameFiles f g

/-- Whether two configurations are both there, or the one path leads to neither. That there is none is
logged, for observers of debug entries. -/
def FoundAlike (f g : Files) (config config' : String) : Prop :=
  f.has config = g.has config' ∧ (f.has config = false → config = config')

theorem effects_loadSettings :
    (loadSettings f config).effects = if f.has config then []
      else [.log ⟨.debug, s!"No config file at {config}, using defaults"⟩] := by
  rw [loadSettings]
  split
  · cases f.readText config with
    | error e => rfl
    | ok text =>
      rw [Run.effects_bind_of_ok (a := text) rfl]
      cases Settings.ofText text with
      | ok s => rfl
      | error e => cases e <;> rfl
  · rfl

theorem stderr_loadSettings_eq
    (hfound : observer.any (·.records .debug) = true → FoundAlike f g config config') :
    (loadSettings f config).stderr observer = (loadSettings g config').stderr observer := by
  rw [Run.stderr, Run.stderr, effects_loadSettings, effects_loadSettings]
  cases hdebug : observer.any (·.records .debug) with
  | true =>
    obtain ⟨hhas, hpath⟩ := hfound hdebug
    rw [← hhas]
    cases hconfig : f.has config with
    | true => rfl
    | false => rw [hpath hconfig]
  | false => split <;> split <;> simp [Effect.told?, hdebug]

theorem SameFiles.loadTemplate_eq (h : r.SameFiles f g) :
    loadTemplate f r.raw r.file = loadTemplate g r.raw r.file := by
  have hsource : loadSource f r.file = loadSource g r.file := by
    rw [loadSource, loadSource, h.source_has, h.source_text]
  simp only [loadTemplate, loadDescriptor, hsource]

theorem SameFiles.loadInputs_eq (h : r.SameFiles f g) :
    loadInputs f r.context r.assignments = loadInputs g r.context r.assignments := by
  cases hcontext : r.context with
  | none => rfl
  | some path => simp only [loadInputs, loadContext, h.context_text path hcontext]

theorem SameFiles.deliver_eq (h : r.SameFiles f g) (name text : String) :
    r.deliver f name text = r.deliver g name text := by
  cases hout : r.output with
  | none => rw [deliver_to_stdout hout, deliver_to_stdout hout]
  | some path =>
    have hwrite : writeOutput f path text = writeOutput g path text := by
      unfold writeOutput
      cases haround : (Path.directory? path).filter (!·.isEmpty) with
      | none => simp only [h.output_target path hout]
      | some around =>
        have hdir := (Option.filter_eq_some_iff.mp haround).1
        simp only [h.output_target path hout, h.output_missing path hout around hdir]
    rw [deliver_to_file hout, deliver_to_file hout, hwrite]

/-- With no issues there is nothing that strictness could change. -/
theorem complete_eq_of_no_issues (h : r.SameFiles f g) {settings' : Settings}
    (hrequest : r' = { r with strict := r'.strict })
    (hsettings : { settings with strictInputs := false } = { settings' with strictInputs := false })
    (hissues : d.inputIssues supplied = []) :
    r.complete f settings d supplied = r'.complete g settings' d supplied := by
  have hquiet : ∀ strict, reportIssues strict [] = pure () := fun strict => by
    simp [reportIssues]
  have hrender : renderDescriptor settings = renderDescriptor settings' := by
    have hlenient : ∀ s, renderDescriptor { s with strictInputs := false } = renderDescriptor s :=
      fun _ => rfl
    rw [← hlenient settings, hsettings, hlenient]
  have hdeliver : ∀ name text, r.deliver f name text = r'.deliver g name text := by
    intro name text
    rw [h.deliver_eq, hrequest]
    rfl
  have hfile : r'.file = r.file := by rw [hrequest]
  simp only [complete, present, hissues, List.map_nil, hquiet, hrender, hdeliver, hfile]

theorem complete_of_issues (hstrict : (r.strict || settings.strictInputs) = true)
    (hissues : (d.inputIssues supplied).map InputIssue.message ≠ []) :
    r.complete f settings d supplied = Run.log (d.logOfInputs supplied) >>= fun _ =>
      .reject (.inputRejected ((d.inputIssues supplied).map InputIssue.message)) := by
  have hreject : reportIssues (r.strict || settings.strictInputs)
      ((d.inputIssues supplied).map InputIssue.message) =
      .reject (.inputRejected ((d.inputIssues supplied).map InputIssue.message)) := by
    rw [reportIssues, hstrict, if_pos]
    simpa using hissues
  rw [complete, hreject]
  rfl

theorem warnings_present : (r.present f settings d supplied).warnings = [] := by
  refine Run.Each.warnings_eq ?_
  refine Run.Each.bind ?_ fun text _ => ?_
  · exact (logs_renderDescriptor _ _ _ _).mono fun e he => by
      cases e <;> first | rfl | contradiction
  · cases hout : r.output with
    | none =>
      rw [deliver_to_stdout hout]
      exact Run.each_print.mpr rfl
    | some path =>
      rw [deliver_to_file hout]
      exact (each_writeOutput f path text).bind fun _ _ =>
        Run.each_remark.mpr (Effect.warning?_remark_rendered _ path)

theorem warnings_complete (hlenient : (r.strict || settings.strictInputs) = false) :
    (r.complete f settings d supplied).warnings =
      (d.inputIssues supplied).map InputIssue.message := by
  rw [complete, hlenient, Run.warnings_bind_of_ok (Run.result_log _),
    Run.warnings_bind_of_ok (result_reportIssues _), warnings_reportIssues, warnings_present,
    List.append_nil, Run.Each.warnings_of_logs (by simp [Effect.Logs])]
  rfl

theorem SameButStrict.settings_cases (h : SameButStrict f g config config' r r') :
    (∃ failure, (loadSettings f config).result = .error failure ∧
      (loadSettings g config').result = .error failure) ∨
    ∃ s s', (loadSettings f config).result = .ok s ∧ (loadSettings g config').result = .ok s' ∧
      { s with strictInputs := false } = { s' with strictInputs := false } := by
  have hsame := h.settings
  cases hs : (loadSettings f config).result <;> cases hs' : (loadSettings g config').result <;>
    rw [hs, hs'] at hsame
  case error.error failure failure' =>
    exact .inl ⟨failure, rfl, congrArg _ (Except.error.inj hsame).symm⟩
  case ok.ok s s' => exact .inr ⟨s, s', rfl, rfl, Except.ok.inj hsame⟩
  all_goals contradiction

theorem SameButStrict.material_eq (h : SameButStrict f g config config' r r') :
    r'.material g = r.material f := by
  have hrequest : r'.material g = r.material g := by
    rw [h.request]
    rfl
  rw [hrequest, material, material]
  simp only [h.files.loadTemplate_eq, h.files.loadInputs_eq]

/-- Two runs that are the same but for being strict load the same, or fail to for the same reason. -/
theorem SameButStrict.prepare_cases (h : SameButStrict f g config config' r r') :
    (∃ failure, (r.prepare f config).result = .error failure ∧
      (r'.prepare g config').result = .error failure) ∨
    ∃ s s' d c, (r.prepare f config).result = .ok (s, d, c) ∧
      (r'.prepare g config').result = .ok (s', d, c) ∧
      (loadSettings f config).result = .ok s ∧ (loadSettings g config').result = .ok s' ∧
      { s with strictInputs := false } = { s' with strictInputs := false } := by
  rw [prepare_eq_material, prepare_eq_material, h.material_eq]
  rcases h.settings_cases with ⟨failure, hs, hs'⟩ | ⟨s, s', hs, hs', hsame⟩
  · exact .inl ⟨failure, by rw [Run.bind_of_error hs], by rw [Run.bind_of_error hs']⟩
  · rw [Run.result_bind_of_ok hs, Run.result_bind_of_ok hs', Run.result_map, Run.result_map]
    cases (r.material f).result with
    | error failure => exact .inl ⟨failure, rfl, rfl⟩
    | ok p => exact .inr ⟨s, s', p.1, p.2, rfl, rfl, hs, hs', hsame⟩

theorem SameButStrict.stderr_prepare_eq (h : SameButStrict f g config config' r r')
    (hfound : observer.any (·.records .debug) = true → FoundAlike f g config config') :
    (r.prepare f config).stderr observer = (r'.prepare g config').stderr observer := by
  have hsettings := stderr_loadSettings_eq hfound
  rw [prepare_eq_material, prepare_eq_material, h.material_eq]
  rcases h.settings_cases with ⟨failure, hs, hs'⟩ | ⟨s, s', hs, hs', -⟩
  · rw [Run.stderr_bind_of_error hs, Run.stderr_bind_of_error hs', hsettings]
  · rw [Run.stderr_bind_of_ok hs, Run.stderr_bind_of_ok hs', Run.stderr_map, Run.stderr_map,
      hsettings]

/-- A rejected run has told what it did, and done nothing else. -/
theorem logs_complete_of_issues (hstrict : (r.strict || settings.strictInputs) = true)
    (hissues : (d.inputIssues supplied).map InputIssue.message ≠ []) :
    (r.complete f settings d supplied).Each Effect.Logs := by
  rw [complete_of_issues hstrict hissues]
  exact Run.Each.bind (by simp [Effect.Logs]) fun _ _ => Run.each_reject _

/-- Strictness is a gate behind loading: two runs that are the same but for being strict fail alike
if something cannot be loaded, and do the same if the inputs have no issues. Otherwise the strict one
is rejected for the issues that the other one warns of, and leaves no trace. For observers of debug
entries the configurations have to be found alike. -/
theorem strictness_gates (h : SameButStrict f g config config' r r') (hstrict : r.IsStrict f config)
    (hlenient : ¬ r'.IsStrict g config') (observer : Option LogLevel)
    (hfound : observer.any (·.records .debug) = true → FoundAlike f g config config') :
    match (r.prepare f config).result with
    | .error failure =>
      (r.run f config).result = .error failure ∧
        (r.run f config).Indistinguishable observer (r'.run g config')
    | .ok (_, d, supplied) =>
      let issues := (d.inputIssues supplied).map InputIssue.message
      (issues = [] → (r.run f config).Indistinguishable observer (r'.run g config')) ∧
      (issues ≠ [] →
        (r.run f config).result = .error ⟨.problem (.inputRejected issues), []⟩ ∧
        (r.run f config).stdout = "" ∧ (∀ k, (r.run f config).filesAfter k = k) ∧
        (r'.run g config').warnings = issues) := by
  have hlog := h.stderr_prepare_eq hfound
  rcases h.prepare_cases with ⟨failure, hp, hp'⟩ | ⟨s, s', d, c, hp, hp', hs, hs', hsame⟩
  · rw [hp]
    refine ⟨result_run_of_error hp, ?_⟩
    rw [run_eq_prepare, run_eq_prepare]
    exact logs_prepare.indistinguishable_bind_of_error logs_prepare hlog hp hp'
  · rw [hp]
    have hgate : (r.strict || s.strictInputs) = true := (isStrict_iff hs).mp hstrict
    have hopen : (r'.strict || s'.strictInputs) = false :=
      Bool.eq_false_iff.mpr (mt (isStrict_iff hs').mpr hlenient)
    refine ⟨fun hissues => ?_, fun hissues => ?_⟩
    · have hcomplete := complete_eq_of_no_issues h.files h.request hsame
        (List.map_eq_nil_iff.mp hissues)
      rw [run_eq_prepare, run_eq_prepare]
      exact logs_prepare.indistinguishable_bind_of_ok logs_prepare hlog hp hp'
        (hcomplete ▸ .refl _)
    · have hlogs : (r.run f config).Each Effect.Logs := by
        rw [run_eq_prepare]
        refine logs_prepare.bind fun p hloaded => ?_
        obtain rfl := Except.ok.inj (hp.symm.trans hloaded)
        exact logs_complete_of_issues hgate hissues
      have hresult : (r.run f config).result =
          .error ⟨.problem (.inputRejected ((d.inputIssues c).map InputIssue.message)), []⟩ := by
        rw [result_run_of_ok hp, complete_of_issues hgate hissues,
          Run.result_bind_of_ok (Run.result_log _), Run.result_reject]
      refine ⟨hresult, hlogs.idle.stdout_of_idle, fun _ => hlogs.idle.filesAfter_eq, ?_⟩
      rw [run_eq_prepare, Run.warnings_bind_of_ok hp', logs_prepare.warnings_of_logs,
        warnings_complete hopen, List.nil_append]

/-- A run differs from the one with another choice of the strict flag in nothing else. -/
theorem sameButStrict_flag (f : Files) (config : String) (r : RenderRequest) (strict : Bool) :
    SameButStrict f f config config r { r with strict := strict } where
  request := rfl
  settings := rfl
  files := ⟨rfl, rfl, fun _ _ => rfl, fun _ _ _ _ => rfl, fun _ _ _ => rfl⟩

/-- Nor does it differ otherwise from the one with another text in the configuration file that gives
the same settings but for strictness, unless it reads that file for something else. -/
theorem sameButStrict_withText {l : Location} (hfile : f.isFile l = true) (text : String)
    (hsettings : (loadSettings f config).result.map ({ · with strictInputs := false }) =
      (loadSettings (f.withText l text) config).result.map ({ · with strictInputs := false }))
    (hread : ∀ path ∈ r.file :: r.context.toList, f.locate path ≠ .ok l) (strict : Bool) :
    SameButStrict f (f.withText l text) config config r { r with strict := strict } := by
  have htree := Files.sameTree_withText hfile text
  have htext : ∀ path ∈ r.file :: r.context.toList,
      f.readText path = (f.withText l text).readText path := by
    intro path hpath
    refine htree.readText_eq fun m hm => ?_
    rw [Files.content?_withText, if_neg]
    rintro rfl
    exact hread path hpath hm
  refine ⟨rfl, hsettings, htree.has_eq r.file, htext _ List.mem_cons_self, ?_, ?_, ?_⟩
  · intro path hpath
    exact htext path (List.mem_cons_of_mem _ (by simp [hpath]))
  · exact fun path _ around _ => htree.missingDirectories_eq around
  · exact fun path _ made => (htree.foldl_withDirectory made).target_eq path

/-- A question with an input that is required, beside a configuration that is strict. -/
def quiz : Files where
  contents :=
    [(["config.toml"], .text "strict_inputs = true\n"),
      (["quiz.json"], .text ("\x7b\"template\":\"\x7b\x7btopic\x7d\x7d?\"," ++
        "\"variables\":[\x7b\"name\":\"topic\",\"required\":true\x7d]\x7d"))]

def quizDescriptor : Descriptor where
  template := "\x7b\x7btopic\x7d\x7d?"
  inputs := [{ name := "topic", required := true }]

theorem result_loadTemplate_quiz :
    (loadTemplate quiz false "quiz.json").result = .ok quizDescriptor := by
  let written : Json := .object [("template", .string "\x7b\x7btopic\x7d\x7d?"),
    ("variables", .array [.object [("name", .string "topic"), ("required", .boolean true)]])]
  have hread : Format.json.read written.compact = .ok quizDescriptor := by
    have hlegible : written.Legible := by
      simp [written, Json.Legible, Json.LegibleMembers, Json.LegibleItems]
    rw [Format.read, Format.document, Json.read?_compact hlegible]
    rfl
  exact (result_loadTemplate quiz "quiz.json" rfl).trans
    (result_loadDescriptor (by decide +kernel) (by decide +kernel) (by decide +kernel) hread)

/-- Where the input is missing, the run is rejected with the strict configuration or the strict flag,
and with neither it warns of that. Where it is given, nobody can tell which configuration there is,
whatever part of the log he records. -/
theorem quiz_gated :
    let relaxed := quiz.withText ["config.toml"] "strict_inputs = false\n"
    let r : RenderRequest := { file := "quiz.json" }
    let issue := "'topic' (topic) is required but was not provided"
    let flagged : RenderRequest := { r with strict := true }
    let answered : RenderRequest := { r with assignments := ["topic=Maps"] }
    let rejected : Failure := ⟨.problem (.inputRejected [issue]), []⟩
    SameButStrict quiz relaxed "config.toml" "config.toml" r r ∧
      SameButStrict relaxed relaxed "config.toml" "config.toml" flagged r ∧
      r.IsStrict quiz "config.toml" ∧ ¬ r.IsStrict relaxed "config.toml" ∧
      FoundAlike quiz relaxed "config.toml" "config.toml" ∧
      (r.run quiz "config.toml").result = .error rejected ∧
      (flagged.run relaxed "config.toml").result = .error rejected ∧
      (r.run quiz "config.toml").stdout = "" ∧ (r.run relaxed "config.toml").warnings = [issue] ∧
      ∀ observer, (answered.run quiz "config.toml").Indistinguishable observer
        (answered.run relaxed "config.toml") := by
  intro relaxed r issue flagged answered rejected
  have hd : (loadTemplate quiz r.raw r.file).result = .ok quizDescriptor := result_loadTemplate_quiz
  have hstrict : (loadSettings quiz "config.toml").result = .ok { strictInputs := true } := by
    decide +kernel
  have hrelaxed : (loadSettings relaxed "config.toml").result = .ok {} := by decide +kernel
  have hissues : (quizDescriptor.inputIssues .empty).map InputIssue.message = [issue] := by
    decide +kernel
  have hassignment : readAssignment? "topic=Maps" = some ("topic", .text "Maps") := rfl
  let given : Context := Dictionary.empty.insert "topic" (.text "Maps")
  have hgiven : (loadInputs quiz answered.context answered.assignments).result = .ok given := by
    rw [loadInputs_eq, Run.result_bind_of_ok (a := .empty) rfl, assign, hassignment]
    rfl
  have hanswered : (quizDescriptor.inputIssues given).map InputIssue.message = [] := by
    decide +kernel
  have hsame : ∀ q : RenderRequest, q.file = "quiz.json" → q.context = none →
      SameButStrict quiz relaxed "config.toml" "config.toml" q { q with strict := false } :=
    fun q hfile hcontext => sameButStrict_withText (by decide +kernel) _
      (by rw [hstrict, hrelaxed]; rfl) (by rw [hfile, hcontext]; decide +kernel) false
  have hsame' := sameButStrict_flag relaxed "config.toml" flagged false
  have his : ∀ q : RenderRequest, q.IsStrict quiz "config.toml" :=
    fun q => (isStrict_iff hstrict).mpr (Bool.or_true _)
  have hnot : ∀ q : RenderRequest, q.strict = false → ¬ q.IsStrict relaxed "config.toml" :=
    fun q hq => mt (isStrict_iff hrelaxed).mp (by simp [hq])
  have hfound : FoundAlike quiz relaxed "config.toml" "config.toml" :=
    ⟨by decide +kernel, fun _ => rfl⟩
  have hprepare : (r.prepare quiz "config.toml").result =
      .ok ({ strictInputs := true }, quizDescriptor, .empty) := result_prepare hstrict hd
  have hprepare' : (flagged.prepare relaxed "config.toml").result =
      .ok ({}, quizDescriptor, .empty) :=
    result_prepare hrelaxed ((hsame r rfl rfl).files.loadTemplate_eq ▸ hd)
  have hprepared : (answered.prepare quiz "config.toml").result =
      .ok ({ strictInputs := true }, quizDescriptor, given) := by
    rw [result_prepare hstrict (r := answered) hd, hgiven]
    rfl
  have hgate := strictness_gates (hsame r rfl rfl) (his r) (hnot r rfl) (some .debug) fun _ => hfound
  have hgate' := strictness_gates hsame' (.inl rfl) (hnot r rfl) (some .warn)
    fun h => absurd h (by decide)
  rw [hprepare] at hgate
  rw [hprepare'] at hgate'
  obtain ⟨hresult, hstdout, -, hwarnings⟩ := hgate.2 (by simp [hissues])
  have hresult' := (hgate'.2 (by simp [hissues])).1
  rw [hissues] at hresult hresult' hwarnings
  refine ⟨hsame r rfl rfl, hsame', his r, hnot r rfl, hfound, hresult, hresult', hstdout, hwarnings,
    fun observer => ?_⟩
  have hpass := strictness_gates (hsame answered rfl rfl) (his answered) (hnot answered rfl)
    observer fun _ => hfound
  rw [hprepared] at hpass
  exact hpass.1 hanswered

end RenderRequest

end Worksheet
