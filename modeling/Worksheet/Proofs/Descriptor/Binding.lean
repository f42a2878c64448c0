import Mathlib.Data.List.Basic
import Worksheet.Descriptor.Inputs
import Worksheet.Proofs.Descriptor.Validity

/-!
What the variables of a valid descriptor are bound to. Their names are distinct, so each variable is
settled by its own input: a value is kept, a text is read as a value of the type, or a default takes
the place of a missing input. A default and a value that was read are left alone when they are
supplied, so building a context from a built context changes nothing.
-/

namespace Worksheet

namespace Variable

variable {v : Variable} {supplied supplied' : Context} {value : Value}

/-! ## One variable -/

/-- Whether there is nothing but a blank input, if any. -/
def Missing (given : Option Value) : Prop := ∀ value, given = some value → value.isBlank = true

theorem outcome_congr (h : supplied.get? v.name = supplied'.get? v.name) :
    v.outcome supplied = v.outcome supplied' := by
  rw [outcome, outcome, h]

theorem outcome_of_missing (h : Missing (supplied.get? v.name)) :
    v.outcome supplied = v.fallback := by
  rw [outcome]
  cases hget : supplied.get? v.name with
  | none => rfl
  | some value => simp only [h value hget, if_true]

theorem outcome_of_given (h : supplied.get? v.name = some value) (hvalue : value.isBlank = false) :
    v.outcome supplied = v.coerce value := by
  simp only [outcome, h, hvalue, Bool.false_eq_true, if_false]

/-- An input is missing, or it is given and not blank. -/
theorem missing_or_given (given : Option Value) :
    Missing given ∨ ∃ value, given = some value ∧ value.isBlank = false := by
  cases given with
  | none => exact .inl fun _ h => nomatch h
  | some value =>
    cases hvalue : value.isBlank with
    | false => exact .inr ⟨value, rfl, hvalue⟩
    | true =>
      refine .inl fun _ h => ?_
      obtain rfl := Option.some.inj h
      exact hvalue

/-- The values that texts are read as. -/
def Reads (v : Variable) (value : Value) : Prop :=
  (v.type = .number ∧ ∃ x, value = .number x) ∨ (v.type = .boolean ∧ ∃ b, value = .boolean b)

theorem Reads.accepts (h : v.Reads value) : v.type.accepts value = true := by
  rcases h with ⟨htype, x, rfl⟩ | ⟨htype, b, rfl⟩ <;> rw [htype] <;> rfl

theorem Reads.type_ne_select (h : v.Reads value) : v.type ≠ .select := by
  rcases h with ⟨htype, -⟩ | ⟨htype, -⟩ <;> rw [htype] <;> decide

/-- Whether a variable may be left without a value. -/
def Optional (v : Variable) : Prop := v.type ≠ .boolean ∧ v.default = none ∧ v.required = false

/-- What can become of a variable with a given input. -/
inductive Settled (v : Variable) (given : Option Value) : Outcome → Prop
  | kept (value : Value) (hgiven : given = some value) (hblank : value.isBlank = false)
      (hcoerce : v.coerce value = {}) (haccepts : v.type.accepts value = true)
      (hlisted : v.type = .select → ∀ choice, value = .text choice → v.options ≠ [] →
        choice ∈ v.options) : Settled v given {}
  | read (value typed : Value) (hgiven : given = some value) (hblank : value.isBlank = false)
      (hcoerce : v.coerce value = { binding := some typed }) (hreads : v.Reads typed) :
      Settled v given { binding := some typed }
  | refused (value : Value) (issue : InputIssue) (hgiven : given = some value)
      (hblank : value.isBlank = false) (hname : issue.name = v.name) :
      Settled v given { issue := some issue }
  | default (value : Value) (hmissing : Missing given) (hdefault : v.default = some value) :
      Settled v given { binding := some value }
  | unchecked (hmissing : Missing given) (hdefault : v.default = none) (htype : v.type = .boolean) :
      Settled v given { binding := some (.boolean false) }
  | required (hmissing : Missing given) (hdefault : v.default = none) (htype : v.type ≠ .boolean)
      (hrequired : v.required = true) :
      Settled v given { issue := some (.missingRequired v.name v.displayLabel) }
  | unneeded (hmissing : Missing given) (hoptional : v.Optional) : Settled v given {}

theorem coerce_cases (v : Variable) (value : Value) :
    (v.coerce value = {} ∧ v.type.accepts value = true ∧
      (v.type = .select → ∀ choice, value = .text choice → v.options ≠ [] → choice ∈ v.options)) ∨
    (∃ typed, v.coerce value = { binding := some typed } ∧ v.Reads typed) ∨
    ∃ issue, v.coerce value = { issue := some issue } ∧ issue.name = v.name := by
  cases value with
  | text s =>
    rw [coerce]
    cases htype : v.type with
    | number =>
      refine .inr ?_
      dsimp only
      split
      · exact .inl ⟨_, rfl, .inl ⟨htype, _, rfl⟩⟩
      · exact .inr ⟨_, rfl, rfl⟩
    | boolean =>
      refine .inr ?_
      dsimp only
      split
      · exact .inl ⟨_, rfl, .inr ⟨htype, _, rfl⟩⟩
      · exact .inr ⟨_, rfl, rfl⟩
    | select =>
      dsimp only
      split
      · next hlisted =>
        refine .inl ⟨rfl, rfl, ?_⟩
        rintro _ choice hchoice hoptions
        obtain rfl := Value.text.inj hchoice
        simpa [hoptions] using hlisted
      · exact .inr (.inr ⟨_, rfl, rfl⟩)
    | text | textarea =>
      refine .inl ⟨rfl, rfl, ?_⟩
      intro hselect
      contradiction
  | null | boolean b | number x | list items =>
    rw [coerce]
    · split
      · next haccepts =>
        refine .inl ⟨rfl, haccepts, ?_⟩
        intro _ choice hchoice
        contradiction
      · exact .inr (.inr ⟨_, rfl, rfl⟩)
    · intro s hs
      contradiction

theorem settled_coerce {given : Option Value} (hgiven : given = some value)
    (hblank : value.isBlank = false) : v.Settled given (v.coerce value) := by
  rcases v.coerce_cases value with
    ⟨he, haccepts, hlisted⟩ | ⟨typed, he, hreads⟩ | ⟨issue, he, hname⟩
  · rw [he]
    exact .kept value hgiven hblank he haccepts hlisted
  · rw [he]
    exact .read value typed hgiven hblank he hreads
  · rw [he]
    exact .refused value issue hgiven hblank hname

theorem settled_fallback {given : Option Value} (hmissing : Missing given) :
    v.Settled given v.fallback := by
  rw [fallback]
  cases hdefault : v.default with
  | some value => exact .default value hmissing hdefault
  | none =>
    dsimp only
    split
    · next htype => exact .unchecked hmissing hdefault htype
    · next htype =>
      split
      · next hrequired => exact .required hmissing hdefault htype hrequired
      · next hrequired =>
        exact .unneeded hmissing ⟨htype, hdefault, Bool.eq_false_iff.mpr hrequired⟩

theorem settled_outcome (v : Variable) (supplied : Context) :
    v.Settled (supplied.get? v.name) (v.outcome supplied) := by
  rcases missing_or_given (supplied.get? v.name) with hmissing | ⟨value, hgiven, hblank⟩
  · rw [outcome_of_missing hmissing]
    exact settled_fallback hmissing
  · rw [outcome_of_given hgiven hblank]
    exact settled_coerce hgiven hblank

theorem binding_cases (h : (v.outcome supplied).binding = some value) :
    (v.outcome supplied).issue = none ∧ (v.default = some value ∨ v.Reads value) := by
  have hsettled := v.settled_outcome supplied
  generalize v.outcome supplied = o at h hsettled
  cases hsettled with
  | kept | refused | required | unneeded => contradiction
  | read given typed _ _ _ hreads =>
    obtain rfl := Option.some.inj h
    exact ⟨rfl, .inr hreads⟩
  | default d _ hdefault => exact ⟨rfl, .inl (hdefault.trans h)⟩
  | unchecked _ _ htype =>
    obtain rfl := Option.some.inj h
    exact ⟨rfl, .inr (.inr ⟨htype, false, rfl⟩)⟩

theorem coerce_eq_empty (haccepts : v.type.accepts value = true)
    (hlisted : v.type = .select → ∀ choice, value = .text choice → choice ∈ v.options) :
    v.coerce value = {} := by
  cases value with
  | text s =>
    rw [coerce]
    cases htype : v.type with
    | select => simp [hlisted htype s rfl]
    | text | textarea => rfl
    | number | boolean =>
      rw [htype] at haccepts
      contradiction
  | null | boolean b | number x | list items =>
    rw [coerce, if_pos haccepts]
    intro s hs
    contradiction

/-- A default and what a text is read as are left alone when they are supplied. -/
theorem outcome_of_default_or_reads (hv : v.Sound) (h : v.default = some value ∨ v.Reads value)
    (hget : supplied.get? v.name = some value) :
    v.outcome supplied = {} ∨ v.outcome supplied = { binding := some value } := by
  rcases h with hdefault | hreads
  · cases hblank : value.isBlank with
    | true =>
      refine .inr ?_
      rw [outcome, hget]
      simp only [hblank, if_true, fallback, hdefault]
    | false =>
      rw [outcome_of_given hget hblank]
      refine .inl (coerce_eq_empty (hv.default_accepted value hdefault) ?_)
      rintro htype choice rfl
      exact hv.default_mem_options htype choice hdefault
  · refine .inl ?_
    rcases hreads with ⟨htype, x, rfl⟩ | ⟨htype, b, rfl⟩
    · rw [outcome_of_given hget rfl]
      exact coerce_eq_empty (by rw [htype]; rfl) fun _ _ h => nomatch h
    · rw [outcome_of_given hget rfl]
      exact coerce_eq_empty (by rw [htype]; rfl) fun _ _ h => nomatch h

/-- What a variable is bound to in the end. -/
def bound (v : Variable) (supplied : Context) : Option Value :=
  (v.outcome supplied).binding.or (supplied.get? v.name)

theorem bound_of_binding_eq_none (h : (v.outcome supplied).binding = none) :
    v.bound supplied = supplied.get? v.name := by
  rw [bound, h, Option.none_or]

theorem bound_of_binding_eq_some (h : (v.outcome supplied).binding = some value) :
    v.bound supplied = some value := by
  rw [bound, h, Option.some_or]

/-- An input with an issue is kept. -/
theorem bound_of_issue (h : (v.outcome supplied).issue ≠ none) :
    v.bound supplied = supplied.get? v.name := by
  cases hbinding : (v.outcome supplied).binding with
  | none => exact bound_of_binding_eq_none hbinding
  | some value => exact absurd (binding_cases hbinding).1 h

/-- When a variable is supplied with what it is bound to, that is what it is bound to again. -/
theorem bound_again (hv : v.Sound) (h : supplied'.get? v.name = v.bound supplied) :
    (v.outcome supplied').issue = (v.outcome supplied).issue ∧
      v.bound supplied' = v.bound supplied := by
  cases hbinding : (v.outcome supplied).binding with
  | none =>
    -- the input is kept, so the same input is supplied again
    have hget := h.trans (bound_of_binding_eq_none hbinding)
    have hsame := outcome_congr hget
    exact ⟨by rw [hsame], by rw [bound, bound, hsame, hget]⟩
  | some value =>
    obtain ⟨hissue, hvalue⟩ := binding_cases hbinding
    rw [bound_of_binding_eq_some hbinding] at h ⊢
    rw [hissue]
    rcases outcome_of_default_or_reads hv hvalue h with he | he
    · exact ⟨by rw [he], by rw [bound, he, h]; rfl⟩
    · exact ⟨by rw [he], by rw [bound, he]; rfl⟩

/-- Without an issue there is a value that fits, from the input, the default or the type, or nothing
has to be bound. -/
theorem bound_cases (hv : v.Sound) (hissue : (v.outcome supplied).issue = none) :
    (∃ value, v.bound supplied = some value ∧ v.type.accepts value = true ∧
      (v.type = .select → ∀ choice, value = .text choice → choice ∈ v.options) ∧
      ((∃ given, supplied.get? v.name = some given ∧ given.isBlank = false ∧
          value = (v.coerce given).binding.getD given) ∨
        v.default = some value ∨ v.type = .boolean)) ∨
    (Missing (supplied.get? v.name) ∧ v.bound supplied = supplied.get? v.name ∧ v.Optional) := by
  have hsettled := v.settled_outcome supplied
  rw [bound]
  generalize v.outcome supplied = o at hissue hsettled ⊢
  cases hsettled with
  | refused | required => contradiction
  | kept value hgiven hblank hcoerce haccepts hlisted =>
    refine .inl ⟨value, hgiven, haccepts, ?_, .inl ⟨value, hgiven, hblank, by rw [hcoerce]; rfl⟩⟩
    intro hselect choice hchoice
    exact hlisted hselect choice hchoice (hv.options_ne_nil hselect)
  | read given typed hgiven hblank hcoerce hreads =>
    refine .inl ⟨typed, rfl, hreads.accepts, ?_, .inl ⟨given, hgiven, hblank, by rw [hcoerce]; rfl⟩⟩
    intro hselect
    exact absurd hselect hreads.type_ne_select
  | default value _ hdefault =>
    refine .inl ⟨value, rfl, hv.default_accepted value hdefault, ?_, .inr (.inl hdefault)⟩
    rintro hselect choice rfl
    exact hv.default_mem_options hselect choice hdefault
  | unchecked _ _ htype =>
    refine .inl ⟨.boolean false, rfl, by rw [htype]; rfl, ?_, .inr (.inr htype)⟩
    intro _ choice hchoice
    contradiction
  | unneeded hmissing hoptional => exact .inr ⟨hmissing, rfl, hoptional⟩

/-- What a variable of a valid descriptor can be bound to, next to what was supplied for it. -/
structure WellBound (v : Variable) (given bound : Option Value) : Prop where
  /-- The value is of the type, or the variable is optional and left blank or unbound. -/
  accepted_or_optional :
    (∃ value, bound = some value ∧ v.type.accepts value = true) ∨
      ((∃ s, isBlankText s = true ∧ given = some (.text s) ∧ bound = given) ∨ bound = none) ∧
        v.Optional
  /-- A blank text is kept for an optional variable only, unless it is also the default. -/
  optional_of_blank : ∀ s, isBlankText s = true → given = some (.text s) → bound = given →
    v.default = given ∨ v.Optional
  mem_options_or_blank : v.type = .select → ∀ choice, bound = some (.text choice) →
    choice ∈ v.options ∨ isBlankText choice = true
  provided_or_default : v.required = true → v.type ≠ .boolean →
    (∃ value, given = some value ∧ value.isBlank = false ∧
      bound = some ((v.coerce value).binding.getD value)) ∨
    ∃ value, v.default = some value ∧ bound = some value

theorem wellBound_bound (hv : v.Sound) (hissue : (v.outcome supplied).issue = none) :
    v.WellBound (supplied.get? v.name) (v.bound supplied) := by
  rcases bound_cases hv hissue with
    ⟨value, hbound, haccepts, hlisted, horigin⟩ | ⟨hmissing, hbound, hoptional⟩
  · rw [hbound]
    constructor
    case accepted_or_optional => exact .inl ⟨value, rfl, haccepts⟩
    case optional_of_blank =>
      intro s hs hgiven hkept
      rw [hgiven] at hkept horigin ⊢
      obtain rfl := Option.some.inj hkept
      rcases horigin with ⟨given, hget, hblank, -⟩ | hdefault | htype
      · obtain rfl := Option.some.inj hget
        rw [Value.isBlank, hs] at hblank
        contradiction
      · exact .inl hdefault
      · rw [htype] at haccepts
        contradiction
    case mem_options_or_blank =>
      intro htype choice hchoice
      exact .inl (hlisted htype choice (Option.some.inj hchoice))
    case provided_or_default =>
      intro _ htype
      rcases horigin with ⟨given, hget, hblank, rfl⟩ | hdefault | hboolean
      · exact .inl ⟨given, hget, hblank, rfl⟩
      · exact .inr ⟨value, hdefault, rfl⟩
      · contradiction
  · rw [hbound]
    constructor
    case accepted_or_optional =>
      cases hget : supplied.get? v.name with
      | none => exact .inr ⟨.inr rfl, hoptional⟩
      | some value =>
        have hblank := hmissing value hget
        cases value with
        | null => exact .inl ⟨.null, rfl, by cases v.type <;> rfl⟩
        | text s => exact .inr ⟨.inl ⟨s, hblank, rfl, rfl⟩, hoptional⟩
        | boolean | number | list => contradiction
    case optional_of_blank => exact fun _ _ _ _ => .inr hoptional
    case mem_options_or_blank =>
      intro _ choice hchoice
      exact .inr (hmissing _ hchoice)
    case provided_or_default =>
      intro hrequired
      rw [hoptional.2.2] at hrequired
      contradiction

end Variable

/-! ## All variables -/

namespace Descriptor

open Variable

variable {d : Descriptor} {v : Variable} {supplied context : Context} {inputs : List Variable}
  {name : String}

theorem get?_bindOutcome_self :
    (bindOutcome supplied context v).get? v.name =
      (v.outcome supplied).binding.or (context.get? v.name) := by
  rw [bindOutcome]
  cases (v.outcome supplied).binding with
  | none => rfl
  | some value => rw [Dictionary.get?_insert, if_pos rfl, Option.some_or]

theorem get?_bindOutcome_of_ne (h : name ≠ v.name) :
    (bindOutcome supplied context v).get? name = context.get? name := by
  rw [bindOutcome]
  cases (v.outcome supplied).binding with
  | none => rfl
  | some value => rw [Dictionary.get?_insert, if_neg h]

theorem get?_foldl_of_not_mem (h : name ∉ inputs.map Variable.name) :
    (inputs.foldl (bindOutcome supplied) context).get? name = context.get? name := by
  induction inputs generalizing context with
  | nil => rfl
  | cons v rest ih =>
    rw [List.map_cons, List.mem_cons, not_or] at h
    rw [List.foldl_cons, ih h.2, get?_bindOutcome_of_ne h.1]

theorem get?_foldl_of_mem (hnames : (inputs.map Variable.name).Nodup) (hv : v ∈ inputs) :
    (inputs.foldl (bindOutcome supplied) context).get? v.name =
      (v.outcome supplied).binding.or (context.get? v.name) := by
  induction inputs generalizing context with
  | nil => contradiction
  | cons w rest ih =>
    rw [List.map_cons, List.nodup_cons] at hnames
    rw [List.foldl_cons]
    rcases List.mem_cons.mp hv with rfl | hv
    · rw [get?_foldl_of_not_mem hnames.1, get?_bindOutcome_self]
    · have hne : v.name ≠ w.name := by
        intro heq
        exact hnames.1 (List.mem_map.mpr ⟨v, hv, heq⟩)
      rw [ih hnames.2 hv, get?_bindOutcome_of_ne hne]

theorem get?_buildContext (hnames : (d.inputs.map Variable.name).Nodup) (hv : v ∈ d.inputs) :
    (d.buildContext supplied).get? v.name = v.bound supplied :=
  get?_foldl_of_mem hnames hv

theorem get?_buildContext_of_undeclared (h : name ∉ d.inputs.map Variable.name) :
    (d.buildContext supplied).get? name = supplied.get? name :=
  get?_foldl_of_not_mem h

theorem issue_eq_none (h : d.inputIssues supplied = []) (hv : v ∈ d.inputs) :
    (v.outcome supplied).issue = none :=
  List.filterMap_eq_nil_iff.mp h v hv

/-- Without issues each variable of a valid descriptor is well bound. -/
theorem buildContext_wellBound (limit : Nat) (d : Descriptor) (supplied : Context)
    (hvalid : (d.validate limit).isValid = true) (hissues : d.inputIssues supplied = [])
    (v : Variable) (hv : v ∈ d.inputs) :
    v.WellBound (supplied.get? v.name) ((d.buildContext supplied).get? v.name) := by
  obtain ⟨⟨hnames, hsound⟩, -⟩ := (isValid_validate_cases limit d).mp hvalid
  rw [get?_buildContext hnames hv]
  exact wellBound_bound (hsound v hv) (issue_eq_none hissues hv)

/-- A number that nothing has to be given for. -/
def pages : Variable := { name := "pages", type := .number }

def lesson : Descriptor where
  template := "Lesson"
  inputs := [{ name := "title", required := true },
    { name := "minutes", type := .number, default := some (.number (.ofNat 45)) },
    { name := "lab", type := .boolean },
    { name := "level", type := .select, options := ["intro", "advanced"],
      default := some (.text "intro") },
    pages]

def lessonInputs (minutes : String) : Context :=
  .ofList [("title", .text "Cells"), ("minutes", .text minutes), ("pages", .text " ")]

theorem pages_wellBound :
    (lesson.validate 0).isValid = true ∧ lesson.inputIssues (lessonInputs " 30 ") = [] ∧
      pages ∈ lesson.inputs ∧
      pages.WellBound ((lessonInputs " 30 ").get? "pages")
        ((lesson.buildContext (lessonInputs " 30 ")).get? "pages") := by
  have hvalid : (lesson.validate 0).isValid = true := by decide +kernel
  have hissues : lesson.inputIssues (lessonInputs " 30 ") = [] := by decide +kernel
  have hmem : pages ∈ lesson.inputs := by simp [lesson]
  exact ⟨hvalid, hissues, hmem,
    buildContext_wellBound 0 lesson (lessonInputs " 30 ") hvalid hissues pages hmem⟩

/-- A context that was built from inputs is built again from itself, with the same issues; what has
an issue is kept as it was supplied. -/
theorem buildContext_idempotent (limit : Nat) (d : Descriptor)
    (hvalid : (d.validate limit).isValid = true) (supplied : Context) :
    d.buildContext (d.buildContext supplied) = d.buildContext supplied ∧
      d.inputIssues (d.buildContext supplied) = d.inputIssues supplied ∧
      ∀ v ∈ d.inputs, (v.outcome supplied).issue ≠ none →
        (d.buildContext supplied).get? v.name = supplied.get? v.name := by
  obtain ⟨⟨hnames, hsound⟩, -⟩ := (isValid_validate_cases limit d).mp hvalid
  have hget : ∀ v ∈ d.inputs, (d.buildContext supplied).get? v.name = v.bound supplied :=
    fun v hv => get?_buildContext hnames hv
  refine ⟨?_, ?_, ?_⟩
  · apply Dictionary.ext_get?
    intro name
    by_cases hname : name ∈ d.inputs.map Variable.name
    · obtain ⟨v, hv, rfl⟩ := List.mem_map.mp hname
      rw [get?_buildContext hnames hv, (bound_again (hsound v hv) (hget v hv)).2, hget v hv]
    · exact get?_buildContext_of_undeclared hname
  · apply List.filterMap_congr
    intro v hv
    exact (bound_again (hsound v hv) (hget v hv)).1
  · intro v hv hissue
    rw [hget v hv, bound_of_issue hissue]

theorem lesson_built_again :
    (lesson.validate 0).isValid = true ∧
      lesson.inputIssues (lessonInputs "soon") = [.notANumber "minutes" "soon"] ∧
      lesson.buildContext (lesson.buildContext (lessonInputs "soon")) =
        lesson.buildContext (lessonInputs "soon") ∧
      lesson.inputIssues (lesson.buildContext (lessonInputs "soon")) =
        lesson.inputIssues (lessonInputs "soon") ∧
      ∀ v ∈ lesson.inputs, (v.outcome (lessonInputs "soon")).issue ≠ none →
        (lesson.buildContext (lessonInputs "soon")).get? v.name =
          (lessonInputs "soon").get? v.name := by
  have hvalid : (lesson.validate 0).isValid = true := by decide +kernel
  exact ⟨hvalid, by decide +kernel, buildContext_idempotent 0 lesson hvalid (lessonInputs "soon")⟩

end Descriptor

end Worksheet
