import Worksheet.Command.Program
import Worksheet.Proofs.Rendering.History

/-!
Reasoning about runs. The result of one run after another is known from the results of both, and an
effect of the whole is an effect of one of them. Loading does nothing to the outside but to tell
what it does.
-/

namespace Worksheet

namespace Run

variable {α β : Type} {r : Run α} {k : α → Run β} {a : α} {b : β} {failure : Failure}

/-! ## Results -/

@[simp] theorem result_pure (a : α) : (pure a : Run α).result = .ok a := rfl

@[simp] theorem result_pure' (a : α) : (Run.pure a).result = .ok a := rfl

@[simp] theorem result_fail (failure : Failure) : (fail failure : Run α).result = .error failure :=
  rfl

@[simp] theorem result_reject (p : Problem) : (reject p : Run α).result = .error ⟨.problem p, []⟩ :=
  rfl

@[simp] theorem result_effect (e : Effect) : (effect e).result = .ok () := rfl

@[simp] theorem result_remark (text : String) : (remark text).result = .ok () := rfl

@[simp] theorem result_debug (message : String) : (debug message).result = .ok () := rfl

@[simp] theorem result_log (entries : List LogEntry) : (log entries).result = .ok () := rfl

theorem bind_of_ok (h : r.result = .ok a) :
    r >>= k = ⟨r.effects ++ (k a).effects, (k a).result⟩ := by
  change Run.bind r k = _
  rw [Run.bind, h]

theorem bind_of_error (h : r.result = .error failure) : r >>= k = ⟨r.effects, .error failure⟩ := by
  change Run.bind r k = _
  rw [Run.bind, h]

instance : LawfulMonad Run := by
  refine LawfulMonad.mk' Run ?_ (fun _ _ => rfl) ?_
  · rintro α ⟨effects, _ | a⟩
    · rfl
    · change Run.mk _ _ = _
      simp [Run.pure]
  · rintro α β γ ⟨effects, _ | a⟩ k next
    · rfl
    · cases h : (k a).result <;> simp [bind, Run.bind, h]

theorem result_bind_of_ok (h : r.result = .ok a) : (r >>= k).result = (k a).result := by
  rw [bind_of_ok h]

theorem result_map (g : α → β) : (g <$> r).result = r.result.map g := by
  rw [map_eq_pure_bind]
  cases h : r.result with
  | ok a => rw [result_bind_of_ok h]; rfl
  | error failure => rw [bind_of_error h]; rfl

theorem effects_bind_of_ok (h : r.result = .ok a) :
    (r >>= k).effects = r.effects ++ (k a).effects := by
  rw [bind_of_ok h]

theorem result_bind_eq_ok_iff :
    (r >>= k).result = .ok b ↔ ∃ a, r.result = .ok a ∧ (k a).result = .ok b := by
  cases h : r.result with
  | ok a => simp [result_bind_of_ok h]
  | error failure => simp [bind_of_error h]

theorem result_bind_eq_error_iff :
    (r >>= k).result = .error failure ↔
      r.result = .error failure ∨ ∃ a, r.result = .ok a ∧ (k a).result = .error failure := by
  cases h : r.result with
  | ok a => simp [result_bind_of_ok h]
  | error failure => simp [bind_of_error h]

theorem result_forM {γ : Type} {act : γ → Run Unit} {items : List γ}
    (h : ∀ x ∈ items, (act x).result = .ok ()) : (items.forM act).result = .ok () := by
  induction items with
  | nil => rfl
  | cons x rest ih =>
    change (act x >>= fun _ => rest.forM act).result = .ok ()
    rw [result_bind_of_ok (h x List.mem_cons_self)]
    exact ih fun y hy => h y (List.mem_cons_of_mem _ hy)

/-- Whether all effects of a run have a property. -/
def Each (p : Effect → Prop) (r : Run α) : Prop := ∀ e ∈ r.effects, p e

variable {p q : Effect → Prop}

theorem Each.mono (h : r.Each p) (hpq : ∀ e, p e → q e) : r.Each q :=
  fun e he => hpq e (h e he)

@[simp] theorem each_pure (a : α) : Each p (pure a : Run α) := fun _ he => nomatch he

@[simp] theorem each_pure' (a : α) : Each p (Run.pure a) := fun _ he => nomatch he

@[simp] theorem each_fail (failure : Failure) : Each p (fail failure : Run α) :=
  fun _ he => nomatch he

@[simp] theorem each_reject (problem : Problem) : Each p (reject problem : Run α) :=
  fun _ he => nomatch he

@[simp] theorem each_ofFiles (activity : String) (x : Except FileError α) :
    Each p (ofFiles activity x) := by
  cases x <;> exact fun _ he => nomatch he

@[simp] theorem each_effect {e : Effect} : Each p (effect e) ↔ p e := by simp [Each, effect]

@[simp] theorem each_print {text : String} : Each p (print text) ↔ p (.print text) := each_effect

@[simp] theorem each_remark {text : String} : Each p (remark text) ↔ p (.remark text) := each_effect

@[simp] theorem each_debug {message : String} :
    Each p (debug message) ↔ p (.log ⟨.debug, message⟩) := each_effect

@[simp] theorem each_log {entries : List LogEntry} :
    Each p (log entries) ↔ ∀ e ∈ entries, p (.log e) := by simp [Each, log]

theorem each_bind_iff : Each p (r >>= k) ↔ r.Each p ∧ ∀ a, r.result = .ok a → (k a).Each p := by
  cases h : r.result with
  | ok a => simp [Each, effects_bind_of_ok h, or_imp, forall_and]
  | error failure => simp [Each, bind_of_error h]

@[simp] theorem each_map {g : α → β} : Each p (g <$> r) ↔ r.Each p := by
  rw [map_eq_pure_bind, each_bind_iff]
  simp

theorem Each.bind (hr : r.Each p) (hk : ∀ a, r.result = .ok a → (k a).Each p) :
    Each p (r >>= k) :=
  each_bind_iff.mpr ⟨hr, hk⟩

theorem each_forM {γ : Type} {act : γ → Run Unit} {items : List γ}
    (h : ∀ x ∈ items, (act x).Each p) : Each p (items.forM act) := by
  induction items with
  | nil => exact each_pure _
  | cons x rest ih =>
    change Each p (act x >>= fun _ => rest.forM act)
    exact (h x List.mem_cons_self).bind fun _ _ => ih fun y hy => h y (List.mem_cons_of_mem _ hy)

end Run

/-! ## Kinds of effects -/

namespace Effect

/-- Whether the effect only tells something to an observer. -/
def Logs : Effect → Prop
  | log _ => True
  | _ => False

/-- Whether the effect only tells something: to an observer or to the user, but not as a result. -/
def Idle : Effect → Prop
  | log _ | remark _ => True
  | _ => False

/-- Whether the effect does not show a result. -/
def Silent : Effect → Prop
  | print _ => False
  | _ => True

/-- Whether the effect does not write to a file. -/
def KeepsFiles : Effect → Prop
  | write _ _ => False
  | _ => True

/-- Whether the effect neither shows a result nor writes to a file. -/
def Harmless (e : Effect) : Prop := e.Silent ∧ e.KeepsFiles

theorem Logs.idle {e : Effect} (h : e.Logs) : e.Idle := by
  cases e <;> simp_all [Logs, Idle]

theorem Idle.harmless {e : Effect} (h : e.Idle) : e.Harmless := by
  cases e <;> simp_all [Idle, Harmless, Silent, KeepsFiles]

end Effect

namespace Files

variable {f : Files} {l l' : Location} {s : String}

theorem content?_withText :
    (f.withText l s).content? l' = if l' = l then some (.text s) else f.content? l' := by
  rw [content?, withText, List.lookup_cons, Dictionary.lookup_filter_ne]
  by_cases h : l' = l
  · simp [h]
  · rw [beq_eq_false_iff_ne.mpr h, if_neg h, if_neg h]
    rfl

theorem content?_apply {e : Effect} (h : e.KeepsFiles) : (e.apply f).content? l = f.content? l := by
  cases e <;> first | rfl | contradiction

end Files

namespace Run

variable {α β : Type} {r : Run α} {k : α → Run β} {a : α} {f : Files}

theorem filesAfter_bind_of_ok (h : r.result = .ok a) :
    (r >>= k).filesAfter f = (k a).filesAfter (r.filesAfter f) := by
  rw [filesAfter, effects_bind_of_ok h, List.foldl_append]
  rfl

@[simp] theorem filesAfter_remark (text : String) : (remark text).filesAfter f = f := rfl

@[simp] theorem stdout_print (text : String) : (print text).stdout = text := by
  simp [stdout, print, effect, Effect.printed?]

theorem stdout_bind_of_ok (h : r.result = .ok a) :
    (r >>= k).stdout = r.stdout ++ (k a).stdout := by
  rw [stdout, effects_bind_of_ok h, List.filterMap_append, String.join_append]
  rfl

theorem Each.idle (h : r.Each Effect.Logs) : r.Each Effect.Idle := h.mono fun _ => Effect.Logs.idle

theorem Each.harmless (h : r.Each Effect.Idle) : r.Each Effect.Harmless :=
  h.mono fun _ => Effect.Idle.harmless

theorem Each.silent (h : r.Each Effect.Harmless) : r.Each Effect.Silent :=
  h.mono fun _ he => he.1

theorem Each.keepsFiles (h : r.Each Effect.Harmless) : r.Each Effect.KeepsFiles :=
  h.mono fun _ he => he.2

/-- Without a write all files keep their contents. -/
theorem Each.content?_filesAfter (h : r.Each Effect.KeepsFiles) :
    (r.filesAfter f).content? = f.content? := by
  obtain ⟨effects, result⟩ := r
  rw [filesAfter]
  induction effects generalizing f with
  | nil => rfl
  | cons e rest ih =>
    rw [List.foldl_cons, ih fun e he => h e (List.mem_cons_of_mem _ he)]
    exact funext fun l => Files.content?_apply (h e List.mem_cons_self)

theorem Each.filesAfter_eq (h : r.Each Effect.Idle) : r.filesAfter f = f := by
  obtain ⟨effects, result⟩ := r
  rw [filesAfter]
  induction effects with
  | nil => rfl
  | cons e rest ih =>
    have he : e.Idle := h e List.mem_cons_self
    have happly : e.apply f = f := by cases e <;> first | rfl | contradiction
    rw [List.foldl_cons, happly]
    exact ih fun e he => h e (List.mem_cons_of_mem _ he)

theorem Each.stdout_eq (h : r.Each Effect.Silent) : r.stdout = "" := by
  have hprinted : r.effects.filterMap Effect.printed? = [] := by
    rw [List.filterMap_eq_nil_iff]
    intro e he
    have hsilent : e.Silent := h e he
    cases e <;> first | rfl | contradiction
  rw [stdout, hprinted]
  rfl

theorem Each.stdout_of_idle (h : r.Each Effect.Idle) : r.stdout = "" :=
  h.harmless.silent.stdout_eq

end Run

/-! ## Loading -/

section Loading

variable (f : Files) (path : String)

theorem logs_loadSettings : (loadSettings f path).Each Effect.Logs := by
  rw [loadSettings]
  split
  · refine (Run.each_ofFiles _ _).bind fun text _ => ?_
    split <;> simp
  · simp [Effect.Logs]

theorem idle_loadSettings : (loadSettings f path).Each Effect.Idle := (logs_loadSettings f path).idle

theorem logs_loadSource : (loadSource f path).Each Effect.Logs := by
  rw [loadSource]
  split <;> simp

theorem logs_loadDescriptor : (loadDescriptor f path).Each Effect.Logs := by
  rw [loadDescriptor]
  split
  · simp
  · refine (logs_loadSource f path).bind fun text _ => ?_
    refine Run.Each.bind (by simp [Effect.Logs]) fun _ _ => ?_
    split
    · simp
    · simp [Effect.Logs]

theorem idle_loadDescriptor : (loadDescriptor f path).Each Effect.Idle :=
  (logs_loadDescriptor f path).idle

theorem result_loadDescriptor {f : Files} {path text : String} {format : Format} {d : Descriptor}
    (hformat : Format.ofPath? path = some format) (hhas : f.has path = true)
    (htext : f.readText path = .ok text) (hread : format.read text = .ok d) :
    (loadDescriptor f path).result = .ok d := by
  have hsource : (loadSource f path).result = .ok text := by
    rw [loadSource, if_pos hhas, htext]
    rfl
  rw [loadDescriptor, hformat]
  simp only [Run.result_bind_of_ok hsource, Run.result_bind_of_ok (Run.result_debug _), hread]
  rfl

theorem result_loadTemplate {raw : Bool} (h : raw = false) :
    (loadTemplate f raw path).result = (loadDescriptor f path).result := by
  rw [loadTemplate, h]
  rfl

theorem logs_loadTemplate (raw : Bool) : (loadTemplate f raw path).Each Effect.Logs := by
  rw [loadTemplate]
  split
  · exact (logs_loadSource f path).bind fun _ _ => Run.each_pure _
  · exact logs_loadDescriptor f path

theorem idle_loadTemplate (raw : Bool) : (loadTemplate f raw path).Each Effect.Idle :=
  (logs_loadTemplate f path raw).idle

theorem logs_assign (c : Context) (assignments : List String) :
    (assign c assignments).Each Effect.Logs := by
  induction assignments generalizing c with
  | nil => exact Run.each_pure' _
  | cons a rest ih =>
    rw [assign]
    split
    · exact ih _
    · simp

theorem logs_loadInputs (context : Option String) (assignments : List String) :
    (loadInputs f context assignments).Each Effect.Logs := by
  unfold loadInputs
  split
  · refine Run.Each.bind ?_ fun c _ => logs_assign c assignments
    rw [loadContext]
    refine (Run.each_ofFiles _ _).bind fun text _ => ?_
    split
    · simp
    · simp [Effect.Logs]
  · exact (Run.each_pure' _).bind fun c _ => logs_assign c assignments

theorem idle_loadInputs (context : Option String) (assignments : List String) :
    (loadInputs f context assignments).Each Effect.Idle :=
  (logs_loadInputs f context assignments).idle

theorem idle_reportIssues (strict : Bool) (issues : List String) :
    (reportIssues strict issues).Each Effect.Idle := by
  rw [reportIssues]
  split
  · simp
  · exact Run.each_forM fun _ _ => by simp [Effect.Idle]

theorem result_reportIssues (issues : List String) :
    (reportIssues false issues).result = .ok () :=
  Run.result_forM fun _ _ => rfl

/-- Rendering comes down to parsing and evaluating, with a cache or without one. -/
theorem result_renderDescriptor (settings : Settings) (name : String) (d : Descriptor)
    (c : Context) :
    (renderDescriptor settings name d c).result =
      match Body.parse settings.maxDepth d.template with
      | .ok body => .ok (body.evaluate settings.maxIterations c)
      | .error e => .error ⟨.problem (e.problem name d.template), []⟩ := by
  have hrender : ((Renderer.ofSettings settings).render 0 d.template c).1 =
      (Body.parse settings.maxDepth d.template).map fun b => b.evaluate settings.maxIterations c :=
    (Renderer.sound_ofSettings settings).render_eq 0 d.template c
  rw [renderDescriptor, Run.result_bind_of_ok (Run.result_log _), hrender]
  cases Body.parse settings.maxDepth d.template <;> rfl

theorem logs_renderDescriptor (settings : Settings) (name : String) (d : Descriptor) (c : Context) :
    (renderDescriptor settings name d c).Each Effect.Logs := by
  rw [renderDescriptor]
  refine Run.Each.bind (by simp [Effect.Logs]) fun _ _ => ?_
  split <;> simp

theorem idle_renderDescriptor (settings : Settings) (name : String) (d : Descriptor) (c : Context) :
    (renderDescriptor settings name d c).Each Effect.Idle :=
  (logs_renderDescriptor settings name d c).idle

end Loading

end Worksheet
