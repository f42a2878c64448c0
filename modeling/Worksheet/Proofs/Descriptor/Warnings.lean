import Worksheet.Descriptor.Validation
import Worksheet.Proofs.Rendering.Dependence
import Worksheet.Proofs.Template.RoundTrip

/-!
What the warnings about references say of the rendering. A warning names every name that the
template looks up and nobody declares, so the declared names and the names of these warnings
determine the rendering. A variable that a warning calls unused is never looked up, so its entry
never shows.
-/

namespace Worksheet

/-! ## Warnings of a check -/

namespace DescriptorWarning

/-- Whether the warning compares the references of a template with the declarations. -/
def AboutReferences : DescriptorWarning → Prop
  | loopNameOutside _ | undeclared _ _ | iteratedScalar _ _ | unusedVariable _
  | untestedSection _ _ => True
  | shadowedName | needlessOptions _ _ | unrecognizedMarker _ _ => False

/-- The name that is looked up without being declared, if the warning is about one. -/
def uncovered? : DescriptorWarning → Option String
  | loopNameOutside name | undeclared name _ => some name
  | _ => none

theorem aboutReferences_of_uncovered {w : DescriptorWarning} {x : String}
    (h : w.uncovered? = some x) : w.AboutReferences := by
  cases w <;> simp_all [uncovered?, AboutReferences]

end DescriptorWarning

open DescriptorWarning

namespace Findings

@[simp] theorem warnings_empty : ({} : Findings).warnings = [] := rfl

@[simp] theorem warnings_append (f g : Findings) : (f ++ g).warnings = f.warnings ++ g.warnings :=
  rfl

@[simp] theorem warnings_errorIf (condition : Bool) (e : DescriptorError) :
    (errorIf condition e).warnings = [] := by
  cases condition <;> rfl

@[simp] theorem mem_warnings_warningIf {condition : Bool} {w w' : DescriptorWarning} :
    w' ∈ (warningIf condition w).warnings ↔ condition = true ∧ w' = w := by
  cases condition <;> simp [warningIf]

end Findings

variable {w : DescriptorWarning}

theorem mem_warnings_checkEach {α : Type} {check : α → Findings} {items : List α} :
    w ∈ (Descriptor.checkEach check items).warnings ↔ ∃ x ∈ items, w ∈ (check x).warnings := by
  induction items with
  | nil => simp [Descriptor.checkEach]
  | cons x items ih =>
    have hcons : Descriptor.checkEach check (x :: items) =
        check x ++ Descriptor.checkEach check items := rfl
    simp [hcons, ih]

/-! ## Declarations -/

theorem Variable.warnings_checkDefault (v : Variable) : v.checkDefault.warnings = [] := by
  rw [checkDefault]
  split
  · rfl
  · split
    · exact Findings.warnings_errorIf _ _
    · split
      · exact Findings.warnings_errorIf _ _
      · rfl

/-- What the declarations of variables can give reason to warn of. -/
theorem warnings_checkVariables_cases {seen : List String} {inputs : List Variable}
    (h : w ∈ (checkVariables seen inputs).warnings) :
    w = shadowedName ∨ ∃ name type, w = needlessOptions name type := by
  induction inputs generalizing seen with
  | nil => simp [checkVariables] at h
  | cons v rest ih =>
    rw [checkVariables, Findings.warnings_append, List.mem_append] at h
    rcases h with h | h
    · simp only [Variable.check, Findings.warnings_append, Findings.warnings_errorIf,
        Variable.warnings_checkDefault, List.append_nil, List.nil_append, List.mem_append,
        Findings.mem_warnings_warningIf] at h
      rcases h with ⟨_, rfl⟩ | ⟨_, rfl⟩
      · exact .inl rfl
      · exact .inr ⟨_, _, rfl⟩
    · exact ih h

theorem not_aboutReferences_of_mem_checkVariables {seen : List String} {inputs : List Variable}
    (h : w ∈ (checkVariables seen inputs).warnings) : ¬ w.AboutReferences := by
  rcases warnings_checkVariables_cases h with rfl | ⟨_, _, rfl⟩ <;> exact id

theorem warnings_checkSections (seen : List String) (sections : List Section) :
    (checkSections seen sections).warnings = [] := by
  induction sections generalizing seen with
  | nil => rfl
  | cons s rest ih => simp [checkSections, ih]

theorem not_aboutReferences_of_mem_checkMarkers {template : String}
    (h : w ∈ (checkMarkers template).warnings) : ¬ w.AboutReferences := by
  obtain ⟨t, _, ht⟩ := List.mem_flatMap.mp h
  rw [Token.unrecognized] at ht
  split at ht
  · obtain ⟨_, _, rfl⟩ := List.mem_map.mp ht
    exact id
  · simp at ht

/-! ## References -/

theorem warnings_checkReference (declared : List String) (name : String) :
    (checkReference declared name).warnings =
      if name ∈ declared then []
      else if isLoopName name = true then [loopNameOutside name]
      else [undeclared name (similarNames name declared)] := by
  rw [checkReference]
  simp only [List.contains_iff_mem]
  split
  · rfl
  · split <;> rfl

theorem mem_warnings_checkReference {declared : List String} {name x : String} :
    (∃ w ∈ (checkReference declared name).warnings, w.uncovered? = some x) ↔
      x = name ∧ name ∉ declared := by
  rw [warnings_checkReference]
  split
  · next hdeclared => simp [hdeclared]
  · next hdeclared => split <;> simp [uncovered?, hdeclared, eq_comm]

theorem uncovered_checkSource {d : Descriptor} {source : String}
    (h : w ∈ (d.checkSource source).warnings) : w.uncovered? = none := by
  rw [Descriptor.checkSource] at h
  split at h
  · obtain ⟨_, rfl⟩ := Findings.mem_warnings_warningIf.mp h
    rfl
  · simp at h

namespace Descriptor

variable {limit : Nat} {d : Descriptor} {b : Body} {x : String}

/-- What the comparison with the declarations can give reason to warn of. -/
theorem mem_warnings_checkReferences {refs : References} :
    w ∈ (d.checkReferences refs).warnings ↔
      (∃ name ∈ refs.allNames, w ∈ (checkReference d.declaredNames name).warnings) ∨
      (∃ source ∈ refs.sources, w ∈ (d.checkSource source).warnings) ∨
      (∃ v ∈ d.inputs, v.name ∉ refs.allNames ∧ w = unusedVariable v.name) ∨
      ∃ s ∈ d.sections, s.condition ∉ refs.conditions ∧ w = untestedSection s.id s.condition := by
  simp [checkReferences, mem_warnings_checkEach]

theorem aboutReferences_of_mem_checkReferences {refs : References}
    (h : w ∈ (d.checkReferences refs).warnings) : w.AboutReferences := by
  rcases mem_warnings_checkReferences.mp h with
    ⟨name, _, hw⟩ | ⟨source, _, hw⟩ | ⟨v, _, _, rfl⟩ | ⟨s, _, _, rfl⟩
  · rw [warnings_checkReference] at hw
    split at hw
    · contradiction
    · split at hw <;> obtain rfl := List.mem_singleton.mp hw <;> trivial
  · rw [checkSource] at hw
    split at hw
    · obtain ⟨_, rfl⟩ := Findings.mem_warnings_warningIf.mp hw
      trivial
    · contradiction
  · trivial
  · trivial

/-- The checks of the declarations and of literal text do not compare references. -/
theorem mem_warnings_validate (hparse : Body.parse limit d.template = .ok b)
    (hw : w.AboutReferences) :
    w ∈ (d.validate limit).warnings ↔ w ∈ (d.checkReferences b.references).warnings := by
  have hvariables : w ∉ (checkVariables [] d.inputs).warnings :=
    fun h => not_aboutReferences_of_mem_checkVariables h hw
  have hmarkers : w ∉ (checkMarkers d.template).warnings :=
    fun h => not_aboutReferences_of_mem_checkMarkers h hw
  simp [validate, checkTemplate, hparse, warnings_checkSections, hvariables, hmarkers]

/-- A name is uncovered exactly if the template looks it up and no declaration has it. -/
theorem exists_uncovered_iff (hparse : Body.parse limit d.template = .ok b) :
    (∃ w ∈ (d.validate limit).warnings, w.uncovered? = some x) ↔
      b.Free x ∧ x ∉ d.declaredNames := by
  have hreferences : (∃ w ∈ (d.validate limit).warnings, w.uncovered? = some x) ↔
      ∃ w ∈ (d.checkReferences b.references).warnings, w.uncovered? = some x := by
    constructor
    · rintro ⟨w, hw, hx⟩
      exact ⟨w, (mem_warnings_validate hparse (aboutReferences_of_uncovered hx)).mp hw, hx⟩
    · rintro ⟨w, hw, hx⟩
      exact ⟨w, (mem_warnings_validate hparse (aboutReferences_of_uncovered hx)).mpr hw, hx⟩
  rw [hreferences, ← Body.mem_allNames_references]
  simp only [mem_warnings_checkReferences]
  constructor
  · rintro ⟨w, ⟨name, hname, hw⟩ | ⟨source, _, hw⟩ | ⟨v, _, _, rfl⟩ | ⟨s, _, _, rfl⟩, hx⟩
    · obtain ⟨rfl, hdeclared⟩ := mem_warnings_checkReference.mp ⟨w, hw, hx⟩
      exact ⟨hname, hdeclared⟩
    · rw [uncovered_checkSource hw] at hx
      contradiction
    · contradiction
    · contradiction
  · rintro ⟨hname, hdeclared⟩
    obtain ⟨w, hw, hx⟩ := mem_warnings_checkReference.mpr ⟨rfl, hdeclared⟩
    exact ⟨w, .inl ⟨x, hname, hw⟩, hx⟩

/-- A variable is called unused exactly if it is declared and never looked up. -/
theorem unusedVariable_mem_iff (hparse : Body.parse limit d.template = .ok b) :
    unusedVariable x ∈ (d.validate limit).warnings ↔
      x ∈ d.inputs.map Variable.name ∧ ¬ b.Free x := by
  have hw : (unusedVariable x).AboutReferences := trivial
  rw [mem_warnings_validate hparse hw, ← Body.mem_allNames_references,
    mem_warnings_checkReferences]
  constructor
  · rintro (⟨name, _, hw⟩ | ⟨source, _, hw⟩ | ⟨v, hv, hunused, hx⟩ | ⟨s, _, _, hx⟩)
    · rw [warnings_checkReference] at hw
      split at hw
      · contradiction
      · split at hw <;> simp at hw
    · rw [checkSource] at hw
      split at hw <;> simp at hw
    · obtain rfl := DescriptorWarning.unusedVariable.inj hx
      exact ⟨List.mem_map_of_mem hv, hunused⟩
    · contradiction
  · rintro ⟨hx, hfree⟩
    obtain ⟨v, hv, rfl⟩ := List.mem_map.mp hx
    exact .inr (.inr (.inl ⟨v, hv, hfree, rfl⟩))

theorem rendering_congr {budget : Option Nat} {context context' : Context}
    (h : ∀ x, b.Free x → context.get? x = context'.get? x) :
    b.evaluate budget context = b.evaluate budget context' ∧
      b.warnings budget context = b.warnings budget context' := by
  have hsteps : b.steps budget context = b.steps budget context' := Body.steps_congr budget h
  simp only [Body.evaluate, Body.warnings, hsteps, and_self]

/-- The declared names and the names that warnings call undeclared or used outside of iterations
determine the rendering, and the entry of a variable that a warning calls unused never shows. -/
theorem rendering_determined_by_warnings (limit : Nat) (d : Descriptor) (b : Body)
    (hparse : Body.parse limit d.template = .ok b) :
    (∀ budget context context',
      (∀ name ∈ d.declaredNames, context.get? name = context'.get? name) →
      (∀ w ∈ (d.validate limit).warnings, ∀ name, w.uncovered? = some name →
        context.get? name = context'.get? name) →
      b.evaluate budget context = b.evaluate budget context' ∧
        b.warnings budget context = b.warnings budget context') ∧
    ∀ name, unusedVariable name ∈ (d.validate limit).warnings →
      ∀ budget context value,
        b.evaluate budget (context.insert name value) = b.evaluate budget context ∧
        b.evaluate budget (context.erase name) = b.evaluate budget context := by
  constructor
  · intro budget context context' hdeclared hwarned
    apply rendering_congr
    intro x hx
    by_cases hx' : x ∈ d.declaredNames
    · exact hdeclared x hx'
    · obtain ⟨w, hw, hname⟩ := (exists_uncovered_iff hparse).mpr ⟨hx, hx'⟩
      exact hwarned w hw x hname
  · intro name hunused budget context value
    obtain ⟨-, hfree⟩ := (unusedVariable_mem_iff hparse).mp hunused
    have hne : ∀ x, b.Free x → x ≠ name := by
      rintro x hx rfl
      exact hfree hx
    have hinsert : ∀ x, b.Free x → (context.insert name value).get? x = context.get? x := by
      intro x hx
      rw [Dictionary.get?_insert, if_neg (hne x hx)]
    have herase : ∀ x, b.Free x → (context.erase name).get? x = context.get? x := by
      intro x hx
      rw [Dictionary.get?_erase, if_neg (hne x hx)]
    exact ⟨(rendering_congr hinsert).1, (rendering_congr herase).1⟩

def tallyBody : Body :=
  .block .iteration "rows" (.reference "this" (.reference "unit" .empty))
    (.reference "@index" .empty)

/-- A table whose rows are declared and whose unit is not. -/
def tally : Descriptor where
  template := tallyBody.print
  inputs := [{ name := "rows" }, { name := "spare" }]

def tallyContext (title : String) : Context :=
  .ofList [("rows", .list [.text "3", .text "4"]), ("unit", .text "cm"), ("this", .text title)]

theorem tally_without_title :
    Body.parse 8 tally.template = .ok tallyBody ∧
      (∀ name ∈ tally.declaredNames,
        (tallyContext "a").get? name = (tallyContext "b").get? name) ∧
      (∀ w ∈ (tally.validate 8).warnings, ∀ name, w.uncovered? = some name →
        (tallyContext "a").get? name = (tallyContext "b").get? name) ∧
      tallyBody.evaluate none (tallyContext "a") = tallyBody.evaluate none (tallyContext "b") ∧
      unusedVariable "spare" ∈ (tally.validate 8).warnings ∧
      tallyBody.evaluate none ((tallyContext "a").insert "spare" (.text "x")) =
        tallyBody.evaluate none (tallyContext "a") := by
  have hparse : Body.parse 8 tally.template = .ok tallyBody :=
    Body.parse_eq_ok_iff.mpr ⟨rfl, ⟨rfl, ⟨rfl, rfl, trivial⟩, rfl, trivial⟩, by decide⟩
  have hreferences : tallyBody.references.allNames = ["unit", "@index", "rows"] := rfl
  have hdeclared : ∀ name ∈ tally.declaredNames,
      (tallyContext "a").get? name = (tallyContext "b").get? name := by
    have hnames : tally.declaredNames = ["rows", "spare"] := rfl
    simp [hnames, tallyContext, Dictionary.ofList, Dictionary.get?_insert]
  have hwarned : ∀ w ∈ (tally.validate 8).warnings, ∀ name, w.uncovered? = some name →
      (tallyContext "a").get? name = (tallyContext "b").get? name := by
    intro w hw name hname
    obtain ⟨hfree, -⟩ := (exists_uncovered_iff hparse).mp ⟨w, hw, hname⟩
    rw [← Body.mem_allNames_references, hreferences] at hfree
    obtain rfl | rfl | rfl : name = "unit" ∨ name = "@index" ∨ name = "rows" := by
      simpa using hfree
    all_goals simp [tallyContext, Dictionary.ofList, Dictionary.get?_insert]
  have hunused : unusedVariable "spare" ∈ (tally.validate 8).warnings :=
    (unusedVariable_mem_iff hparse).mpr ⟨by decide, by
      simp [← Body.mem_allNames_references, hreferences]⟩
  obtain ⟨hsame, hspare⟩ := rendering_determined_by_warnings 8 tally tallyBody hparse
  exact ⟨hparse, hdeclared, hwarned, (hsame none _ _ hdeclared hwarned).1, hunused,
    (hspare "spare" hunused none _ (.text "x")).1⟩

end Descriptor

end Worksheet
