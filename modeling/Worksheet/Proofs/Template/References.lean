import Worksheet.Template.References

/-!
The references of a body are its free names. A name is free if it is looked up at a place where no
iteration of the body binds it. The lists that are collected from left to right, in which a name
stands once and inside iterations the loop names are skipped, hold exactly the free names.
-/

namespace Worksheet

theorem isLoopName_eq_false_iff {x : String} :
    isLoopName x = false ↔ x ≠ itemName ∧ x ≠ indexName := by
  rw [isLoopName, Bool.or_eq_false_iff, beq_eq_false_iff_ne, beq_eq_false_iff_ne]

namespace Body

/-- Whether a body looks the name up outside of what its own iterations bind. -/
def Free : Body → String → Prop
  | empty, _ => False
  | literal _ rest, x => rest.Free x
  | reference name rest, x => x = name ∨ rest.Free x
  | block .conditional name inner rest, x => x = name ∨ inner.Free x ∨ rest.Free x
  | block .iteration name inner rest, x =>
    x = name ∨ (inner.Free x ∧ isLoopName x = false) ∨ rest.Free x

/-- Whether every use of a loop name stands inside an iteration. The source of an iteration stands
outside of it. -/
def LoopNamesInside : Body → Prop
  | empty => True
  | literal _ rest => rest.LoopNamesInside
  | reference name rest => isLoopName name = false ∧ rest.LoopNamesInside
  | block .conditional name inner rest =>
    isLoopName name = false ∧ inner.LoopNamesInside ∧ rest.LoopNamesInside
  | block .iteration name _ rest => isLoopName name = false ∧ rest.LoopNamesInside

theorem LoopNamesInside.isLoopName_eq_false {b : Body} {x : String} (h : b.LoopNamesInside)
    (hx : b.Free x) : isLoopName x = false := by
  induction b with
  | empty => exact hx.elim
  | literal text rest ih => exact ih h hx
  | reference name rest ih =>
    rcases hx with rfl | hx
    · exact h.1
    · exact ih h.2 hx
  | block kind name inner rest ih ih' =>
    cases kind with
    | conditional =>
      rcases hx with rfl | hx | hx
      · exact h.1
      · exact ih h.2.1 hx
      · exact ih' h.2.2 hx
    | iteration =>
      rcases hx with rfl | ⟨_, hx⟩ | hx
      · exact h.1
      · exact hx
      · exact ih' h.2 hx

end Body

theorem mem_insertNew {names : List String} {name x : String} :
    x ∈ insertNew names name ↔ x ∈ names ∨ x = name := by
  rw [insertNew]
  split
  · next h =>
    constructor
    · exact .inl
    · rintro (hx | rfl)
      · exact hx
      · exact h
  · simp

theorem mem_foldl_insertNew {names more : List String} {x : String} :
    x ∈ more.foldl insertNew names ↔ x ∈ names ∨ x ∈ more := by
  induction more generalizing names with
  | nil => simp
  | cons name more ih => rw [List.foldl_cons, ih, mem_insertNew, List.mem_cons, or_assoc]

theorem References.mem_allNames {r : References} {x : String} :
    x ∈ r.allNames ↔ x ∈ r.insertions ∨ x ∈ r.conditions ∨ x ∈ r.sources := by
  simp [References.allNames, mem_foldl_insertNew, or_assoc]

namespace Body

variable {looping : Bool} {x : String}

theorem mem_note {names : List String} {name : String} :
    x ∈ note looping names name ↔
      x ∈ names ∨ (x = name ∧ (looping && isLoopName x) = false) := by
  rw [note]
  split
  · next h =>
    constructor
    · exact .inl
    · rintro (hx | ⟨rfl, hx⟩)
      · exact hx
      · rw [h] at hx
        contradiction
  · next h =>
    rw [mem_insertNew]
    constructor
    · rintro (hx | rfl)
      · exact .inl hx
      · exact .inr ⟨rfl, by simpa using h⟩
    · rintro (hx | ⟨hx, _⟩)
      · exact .inl hx
      · exact .inr hx

/-- A walk through a body adds its free names, inside an iteration without the loop names. -/
theorem mem_addReferences {b : Body} {r : References} :
    x ∈ (b.addReferences looping r).allNames ↔
      x ∈ r.allNames ∨ (b.Free x ∧ (looping && isLoopName x) = false) := by
  induction b generalizing looping r with
  | empty => simp [addReferences, Free]
  | literal text rest ih => exact ih
  | reference name rest ih =>
    rw [addReferences, ih]
    simp only [References.mem_allNames, mem_note, Free]
    grind
  | block kind name inner rest ih ih' =>
    cases kind with
    | conditional =>
      rw [addReferences, ih', ih]
      simp only [References.mem_allNames, mem_note, Free]
      grind
    | iteration =>
      rw [addReferences, ih', ih]
      simp only [References.mem_allNames, mem_note, Free, Bool.true_and]
      grind

theorem mem_allNames_references {b : Body} : x ∈ b.references.allNames ↔ b.Free x := by
  rw [references, mem_addReferences]
  simp [References.allNames]

end Body

end Worksheet
