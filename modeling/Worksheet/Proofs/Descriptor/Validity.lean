import Mathlib.Data.List.TakeWhile
import Worksheet.Descriptor.Validation
import Worksheet.Proofs.Template.Marker

/-!
Valid descriptors. The checks of a descriptor find no error exactly if each variable and each section
is sound by itself, no name and no identifier is used twice, and the template parses. The checks walk
through the declarations with what was met so far; as none of it comes again, the names of the whole
list are distinct.
-/

namespace Worksheet

/-! ## Findings -/

namespace Findings

@[simp] theorem isValid_empty : ({} : Findings).isValid = true := rfl

@[simp] theorem isValid_append (f g : Findings) : (f ++ g).isValid = (f.isValid && g.isValid) := by
  obtain ⟨errors, _⟩ := f
  cases errors <;> rfl

@[simp] theorem isValid_errorIf (condition : Bool) (e : DescriptorError) :
    (errorIf condition e).isValid = !condition := by
  cases condition <;> rfl

@[simp] theorem isValid_warningIf (condition : Bool) (w : DescriptorWarning) :
    (warningIf condition w).isValid = true := by
  cases condition <;> rfl

end Findings

/-! ## Texts -/

theorem trim_eq_nil_iff {text : List Char} : trim text = [] ↔ text.all isSpace = true := by
  rw [trim, trimEnd, trimStart, List.reverse_eq_nil_iff, List.dropWhile_eq_nil_iff,
    List.all_eq_true]
  constructor
  · intro h c hc
    rw [← List.takeWhile_append_dropWhile (p := isSpace) (l := text)] at hc
    rcases List.mem_append.mp hc with hc | hc
    · exact List.mem_takeWhile_imp hc
    · exact h c (List.mem_reverse.mpr hc)
  · intro h
    rw [List.dropWhile_eq_nil_iff.mpr h]
    intro c hc
    contradiction

theorem isBlankText_eq_false_iff {s : String} : isBlankText s = false ↔ trim s.toList ≠ [] := by
  rw [ne_eq, trim_eq_nil_iff, Bool.not_eq_true]
  rfl

/-- A word of letters, digits and underscores that does not start with a digit. -/
def IsIdentifier (name : String) : Prop :=
  ∃ c cs, name.toList = c :: cs ∧ (IsLetter c ∨ c = '_') ∧
    ∀ d ∈ cs, IsLetter d ∨ IsDigit d ∨ d = '_'

theorem isIdentifier_eq_true_iff {name : String} :
    isIdentifier name = true ↔ IsIdentifier name := by
  simp only [isIdentifier_iff, isNameStart_iff, isNamePart_iff]
  rfl

/-! ## Keys that come once -/

/-- Whether the keys are distinct and none of them was met before. -/
def NewKeys (seen keys : List String) : Prop := keys.Nodup ∧ ∀ key ∈ keys, key ∉ seen

theorem newKeys_nil (seen : List String) : NewKeys seen [] :=
  ⟨List.nodup_nil, fun _ hkey => absurd hkey List.not_mem_nil⟩

theorem newKeys_nil_left {keys : List String} : NewKeys [] keys ↔ keys.Nodup :=
  ⟨And.left, fun h => ⟨h, fun _ _ => List.not_mem_nil⟩⟩

/-- A walk through the keys adds each of them to those met before. -/
theorem newKeys_cons_iff {seen keys : List String} {key : String} :
    NewKeys seen (key :: keys) ↔ key ∉ seen ∧ NewKeys (key :: seen) keys := by
  rw [NewKeys, NewKeys, List.nodup_cons, List.forall_mem_cons]
  constructor
  · rintro ⟨⟨hnew, hdistinct⟩, hseen, hrest⟩
    refine ⟨hseen, hdistinct, ?_⟩
    intro other hother hmem
    rcases List.mem_cons.mp hmem with rfl | hmem
    · exact hnew hother
    · exact hrest other hother hmem
  · rintro ⟨hseen, hdistinct, hrest⟩
    refine ⟨⟨fun hmem => hrest key hmem List.mem_cons_self, hdistinct⟩, hseen, ?_⟩
    intro other hother hmem
    exact hrest other hother (List.mem_cons_of_mem _ hmem)

/-! ## Variables -/

namespace Variable

/-- What a declaration has to keep to, whatever else is declared. -/
structure Sound (v : Variable) : Prop where
  name_identifier : IsIdentifier v.name
  options_ne_nil : v.type = .select → v.options ≠ []
  default_accepted : ∀ value, v.default = some value → v.type.accepts value = true
  default_mem_options : v.type = .select → ∀ choice, v.default = some (.text choice) →
    choice ∈ v.options

/-- A default of a selection without options is not looked up; the missing options are an error
already. -/
theorem isValid_checkDefault_iff {v : Variable} :
    v.checkDefault.isValid = true ↔
      (∀ value, v.default = some value → v.type.accepts value = true) ∧
        (v.type = .select → v.options ≠ [] → ∀ choice, v.default = some (.text choice) →
          choice ∈ v.options) := by
  rw [checkDefault]
  cases hdefault : v.default with
  | none => simp
  | some value =>
    cases haccepts : v.type.accepts value with
    | false => simp [haccepts]
    | true =>
      simp only [Bool.not_true, Bool.false_eq_true, if_false, Option.some.injEq, forall_eq',
        haccepts, true_and]
      split
      · next choice htype =>
        simp [htype, Classical.or_iff_not_imp_left]
      · next hother =>
        simp only [Findings.isValid_empty, true_iff]
        intro htype _ choice hchoice
        exact absurd hchoice (hother choice htype)

theorem isValid_check_iff {v : Variable} {seen : List String} :
    (v.check seen).isValid = true ↔ v.name ∉ seen ∧ v.Sound := by
  have hoptions : (v.check seen).isValid = true ↔
      (v.name ∉ seen ∧ IsIdentifier v.name ∧ (v.type = .select → v.options ≠ [])) ∧
        v.checkDefault.isValid = true := by
    simp [check, isIdentifier_eq_true_iff, Classical.or_iff_not_imp_left, and_assoc]
  rw [hoptions, isValid_checkDefault_iff]
  constructor
  · rintro ⟨⟨hseen, hname, hoptions⟩, haccepted, hlisted⟩
    exact ⟨hseen, hname, hoptions, haccepted, fun htype => hlisted htype (hoptions htype)⟩
  · rintro ⟨hseen, hname, hoptions, haccepted, hlisted⟩
    exact ⟨⟨hseen, hname, hoptions⟩, haccepted, fun htype _ => hlisted htype⟩

end Variable

theorem isValid_checkVariables_iff {seen : List String} {inputs : List Variable} :
    (checkVariables seen inputs).isValid = true ↔
      NewKeys seen (inputs.map Variable.name) ∧ ∀ v ∈ inputs, v.Sound := by
  induction inputs generalizing seen with
  | nil => simp [checkVariables, newKeys_nil]
  | cons v rest ih =>
    rw [checkVariables, Findings.isValid_append, Bool.and_eq_true, Variable.isValid_check_iff, ih,
      List.map_cons, newKeys_cons_iff, List.forall_mem_cons]
    simp only [and_assoc, and_left_comm]

/-! ## Sections -/

structure Section.Sound (s : Section) : Prop where
  id_not_blank : trim s.id.toList ≠ []
  condition_identifier : IsIdentifier s.condition

theorem isValid_checkSections_iff {seen : List String} {sections : List Section} :
    (checkSections seen sections).isValid = true ↔
      NewKeys seen (sections.map Section.id) ∧ ∀ s ∈ sections, s.Sound := by
  induction sections generalizing seen with
  | nil => simp [checkSections, newKeys_nil]
  | cons s rest ih =>
    rw [checkSections, List.map_cons, newKeys_cons_iff, List.forall_mem_cons]
    cases hblank : isBlankText s.id with
    | true =>
      have hunsound : ¬ s.Sound := by
        intro h
        rw [isBlankText_eq_false_iff.mpr h.id_not_blank] at hblank
        contradiction
      simp [hunsound]
    | false =>
      have hsound : s.Sound ↔ isIdentifier s.condition = true :=
        ⟨fun h => isIdentifier_eq_true_iff.mpr h.condition_identifier,
          fun h => ⟨isBlankText_eq_false_iff.mp hblank, isIdentifier_eq_true_iff.mp h⟩⟩
      simp [ih, hsound, and_assoc, and_left_comm]

/-! ## Descriptors -/

namespace Descriptor

theorem isValid_checkEach {α : Type} {check : α → Findings} (h : ∀ x, (check x).isValid = true)
    (items : List α) : (checkEach check items).isValid = true := by
  induction items with
  | nil => rfl
  | cons x items ih =>
    rw [checkEach, List.foldr_cons, Findings.isValid_append, h x]
    exact ih

/-- That references and declarations do not match is never an error. -/
theorem isValid_checkReferences (d : Descriptor) (refs : References) :
    (d.checkReferences refs).isValid = true := by
  have hreference : ∀ name, (checkReference d.declaredNames name).isValid = true := by
    intro name
    rw [checkReference]
    split
    · rfl
    · split <;> rfl
  have hsource : ∀ name, (d.checkSource name).isValid = true := by
    intro name
    rw [checkSource]
    split <;> rfl
  simp only [checkReferences, Findings.isValid_append, isValid_checkEach hreference,
    isValid_checkEach hsource, isValid_checkEach fun _ => Findings.isValid_warningIf _ _,
    Bool.and_self]

theorem isValid_checkTemplate_iff {limit : Nat} {d : Descriptor} :
    (d.checkTemplate limit).isValid = true ↔ ∃ body, Body.parse limit d.template = .ok body := by
  rw [checkTemplate]
  cases Body.parse limit d.template with
  | ok body => simp [isValid_checkReferences]
  | error e => simp

/-- What makes a descriptor usable under a depth limit. -/
structure Sound (limit : Nat) (d : Descriptor) : Prop where
  names_nodup : (d.inputs.map Variable.name).Nodup
  inputs_sound : ∀ v ∈ d.inputs, v.Sound
  ids_nodup : (d.sections.map Section.id).Nodup
  sections_sound : ∀ s ∈ d.sections, s.Sound
  parses : ∃ body, Body.parse limit d.template = .ok body

theorem isValid_validate_cases (limit : Nat) (d : Descriptor) :
    (d.validate limit).isValid = true ↔
      ((d.inputs.map Variable.name).Nodup ∧ ∀ v ∈ d.inputs, v.Sound) ∧
      ((d.sections.map Section.id).Nodup ∧ ∀ s ∈ d.sections, s.Sound) ∧
      ∃ body, Body.parse limit d.template = .ok body := by
  have hmarkers : (checkMarkers d.template).isValid = true := rfl
  rw [validate, Findings.isValid_append, Findings.isValid_append, Findings.isValid_append,
    hmarkers, Bool.and_true, Bool.and_eq_true, Bool.and_eq_true, isValid_checkVariables_iff,
    isValid_checkSections_iff, isValid_checkTemplate_iff, newKeys_nil_left, newKeys_nil_left,
    and_assoc]

/-- Validation accepts exactly the sound descriptors. -/
theorem validate_accepts_exactly (limit : Nat) (d : Descriptor) :
    (d.validate limit).isValid = true ↔ d.Sound limit := by
  rw [isValid_validate_cases]
  constructor
  · rintro ⟨⟨hnames, hinputs⟩, ⟨hids, hsections⟩, hparses⟩
    exact ⟨hnames, hinputs, hids, hsections, hparses⟩
  · rintro ⟨hnames, hinputs, hids, hsections, hparses⟩
    exact ⟨⟨hnames, hinputs⟩, ⟨hids, hsections⟩, hparses⟩

end Descriptor

end Worksheet
