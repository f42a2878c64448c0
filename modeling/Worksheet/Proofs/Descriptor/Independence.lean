import Mathlib.Data.List.Nodup
import Worksheet.Proofs.Descriptor.Binding

/-!
Variables with distinct names are settled one by one. What a variable is bound to and what is wrong
with its input follow from the variable and from what is supplied under its name; no other
declaration, no other input and no order of declarations has a part in it.
-/

namespace Worksheet

namespace Variable

variable {v : Variable} {supplied supplied' : Context}

theorem bound_congr (h : supplied.get? v.name = supplied'.get? v.name) :
    v.bound supplied = v.bound supplied' := by
  rw [bound, bound, outcome_congr h, h]

/-- An issue names the variable it is about. -/
theorem name_of_issue {issue : InputIssue} (h : (v.outcome supplied).issue = some issue) :
    issue.name = v.name := by
  have hsettled := v.settled_outcome supplied
  generalize v.outcome supplied = o at h hsettled
  cases hsettled with
  | kept | read | default | unchecked | unneeded => contradiction
  | refused value issue' _ _ hname =>
    obtain rfl := Option.some.inj h
    exact hname
  | required =>
    obtain rfl := Option.some.inj h
    rfl

end Variable

namespace Descriptor

open Variable

variable {d : Descriptor} {v : Variable} {supplied : Context}

/-- The issues name some of the variables, in the order of the declarations. -/
theorem map_name_inputIssues (d : Descriptor) (supplied : Context) :
    (d.inputIssues supplied).map InputIssue.name =
      (d.inputs.filter fun v => (v.outcome supplied).issue.isSome).map Variable.name := by
  rw [inputIssues, List.map_filterMap, ← List.filterMap_eq_map, ← List.filterMap_eq_filter,
    List.filterMap_filterMap]
  apply List.filterMap_congr
  intro v _
  cases hissue : (v.outcome supplied).issue with
  | none => simp [Option.guard, hissue]
  | some issue => simp [Option.guard, hissue, name_of_issue hissue]

/-- What is wrong with the input under a name, if anything is. -/
def issueAbout (d : Descriptor) (supplied : Context) (name : String) : Option InputIssue :=
  (d.inputIssues supplied).find? fun issue => issue.name == name

theorem mem_inputIssues_iff {issue : InputIssue} :
    issue ∈ d.inputIssues supplied ↔
      ∃ v ∈ d.inputs, (v.outcome supplied).issue = some issue := List.mem_filterMap

/-- The only variable of a name is the only one with issues about the name. -/
theorem issueAbout_eq (hnames : (d.inputs.map Variable.name).Nodup) (hv : v ∈ d.inputs) :
    d.issueAbout supplied v.name = (v.outcome supplied).issue := by
  have hof : ∀ issue ∈ d.inputIssues supplied, issue.name = v.name →
      (v.outcome supplied).issue = some issue := by
    intro issue hissue hname
    obtain ⟨w, hw, hof⟩ := mem_inputIssues_iff.mp hissue
    have hsame : w = v :=
      List.inj_on_of_nodup_map hnames hw hv ((name_of_issue hof).symm.trans hname)
    rwa [hsame] at hof
  rw [issueAbout]
  cases hfind : (d.inputIssues supplied).find? fun issue => issue.name == v.name with
  | some issue =>
    have hname : issue.name = v.name := by simpa using List.find?_some hfind
    exact (hof issue (List.mem_of_find?_eq_some hfind) hname).symm
  | none =>
    cases hissue : (v.outcome supplied).issue with
    | none => rfl
    | some issue =>
      have hnone := List.find?_eq_none.mp hfind issue (mem_inputIssues_iff.mpr ⟨v, hv, hissue⟩)
      exact absurd (beq_iff_eq.mpr (name_of_issue hissue)) hnone

theorem buildContext_perm {d' : Descriptor} (hnames : (d.inputs.map Variable.name).Nodup)
    (h : d'.inputs.Perm d.inputs) : d'.buildContext supplied = d.buildContext supplied := by
  have hnames' : (d'.inputs.map Variable.name).Nodup := (h.map Variable.name).nodup_iff.mpr hnames
  apply Dictionary.ext_get?
  intro name
  by_cases hname : name ∈ d.inputs.map Variable.name
  · obtain ⟨v, hv, rfl⟩ := List.mem_map.mp hname
    rw [get?_buildContext hnames hv, get?_buildContext hnames' (h.mem_iff.mpr hv)]
  · have hname' : name ∉ d'.inputs.map Variable.name := by
      rwa [(h.map Variable.name).mem_iff]
    rw [get?_buildContext_of_undeclared hname, get?_buildContext_of_undeclared hname']

/-- How the variables of a descriptor are settled next to each other. -/
structure SettlesApart (d : Descriptor) (supplied : Context) : Prop where
  undeclared : ∀ name, name ∉ d.inputs.map Variable.name →
    (d.buildContext supplied).get? name = supplied.get? name
  /-- A variable with the same input is settled alike, whatever else is declared and supplied. -/
  determined : ∀ (d' : Descriptor) (supplied' : Context) (v : Variable),
    (d'.inputs.map Variable.name).Nodup → v ∈ d.inputs → v ∈ d'.inputs →
    supplied'.get? v.name = supplied.get? v.name →
      (d'.buildContext supplied').get? v.name = (d.buildContext supplied).get? v.name ∧
        d'.issueAbout supplied' v.name = d.issueAbout supplied v.name
  /-- A variable has one issue at most, in its place among the declarations. -/
  in_order : ((d.inputIssues supplied).map InputIssue.name).Sublist (d.inputs.map Variable.name)
  kept : ∀ issue ∈ d.inputIssues supplied,
    (d.buildContext supplied).get? issue.name = supplied.get? issue.name
  /-- In another order each variable has the issue it had, in its new place. -/
  permuted : ∀ inputs, inputs.Perm d.inputs →
    { d with inputs := inputs }.buildContext supplied = d.buildContext supplied ∧
      ({ d with inputs := inputs }.inputIssues supplied).Perm (d.inputIssues supplied) ∧
      { d with inputs := inputs }.inputIssues supplied =
        inputs.filterMap fun v => d.issueAbout supplied v.name

/-- Variables with distinct names are settled independently of each other. -/
theorem settlesApart_of_nodup (hnames : (d.inputs.map Variable.name).Nodup) (supplied : Context) :
    d.SettlesApart supplied where
  undeclared _ hname := get?_buildContext_of_undeclared hname
  determined d' supplied' v hnames' hv hv' hget := by
    constructor
    · rw [get?_buildContext hnames' hv', get?_buildContext hnames hv, bound_congr hget]
    · rw [issueAbout_eq hnames' hv', issueAbout_eq hnames hv, outcome_congr hget]
  in_order := by
    rw [map_name_inputIssues]
    exact List.filter_sublist.map Variable.name
  kept issue hissue := by
    obtain ⟨v, hv, hof⟩ := mem_inputIssues_iff.mp hissue
    have hne : (v.outcome supplied).issue ≠ none := by simp [hof]
    rw [name_of_issue hof, get?_buildContext hnames hv, bound_of_issue hne]
  permuted inputs hperm := by
    refine ⟨buildContext_perm hnames hperm, hperm.filterMap _, ?_⟩
    apply List.filterMap_congr
    intro v hv
    exact (issueAbout_eq hnames (hperm.mem_iff.mp hv)).symm

theorem settlesApart_lesson :
    (lesson.inputs.map Variable.name).Nodup ∧ lesson.SettlesApart (lessonInputs "soon") := by
  have hnames : (lesson.inputs.map Variable.name).Nodup := by decide
  exact ⟨hnames, settlesApart_of_nodup hnames (lessonInputs "soon")⟩

end Descriptor

end Worksheet
