import Worksheet.Proofs.Rendering.Stretch
import Worksheet.Proofs.Template.References

/-!
What a rendering depends on. Two evaluations of a body make the same steps if they look up the same
value for each of its free names. The references of a template are its free names, so contexts that
agree on them give the same text and the same warnings under every budget.
-/

namespace Worksheet

section Lookup

variable {context context' : Context} {scope scope' : List Frame} {x : String}

theorem lookup_of_not_loopName (h : isLoopName x = false) :
    lookup context scope x = context.get? x := by
  obtain ⟨hitem, hindex⟩ := isLoopName_eq_false_iff.mp h
  cases scope with
  | nil => rfl
  | cons frame scope => rw [lookup, if_neg hitem, if_neg hindex]

/-- A round binds the loop names, and all else is looked up as outside of it. -/
theorem lookup_cons_congr (frame : Frame)
    (h : isLoopName x = false → lookup context scope x = lookup context' scope' x) :
    lookup context (frame :: scope) x = lookup context' (frame :: scope') x := by
  cases hx : isLoopName x with
  | false =>
    have hout := h hx
    rw [lookup_of_not_loopName hx, lookup_of_not_loopName hx] at hout ⊢
    exact hout
  | true =>
    rw [isLoopName, Bool.or_eq_true_iff, beq_iff_eq, beq_iff_eq] at hx
    rw [lookup, lookup]
    split
    · rfl
    · next hitem => rw [if_pos (hx.resolve_left hitem), if_pos (hx.resolve_left hitem)]

end Lookup

namespace Body

theorem run_congr {b : Body} {context context' : Context} {scope scope' : List Frame}
    (budget : Option Nat)
    (h : ∀ x, b.Free x → lookup context scope x = lookup context' scope' x) :
    b.run budget context scope = b.run budget context' scope' := by
  induction b generalizing scope scope' with
  | empty => rfl
  | literal text rest ih => rw [run_literal, run_literal, ih h]
  | reference name rest ih =>
    have hrest := ih fun x hx => h x (.inr hx)
    rw [run_reference, run_reference, shown, shown, h name (.inl rfl), hrest]
  | block kind name inner rest ih ih' =>
    cases kind with
    | conditional =>
      have hinner := ih fun x hx => h x (.inr (.inl hx))
      have hrest := ih' fun x hx => h x (.inr (.inr hx))
      rw [run_conditional, run_conditional, holds, holds, h name (.inl rfl), hinner, hrest]
    | iteration =>
      -- in a round the loop names agree because the round binds them
      have hinner : ∀ frame, inner.run budget context (frame :: scope) =
          inner.run budget context' (frame :: scope') := by
        intro frame
        apply ih
        intro x hx
        exact lookup_cons_congr frame fun hloop => h x (.inr (.inl ⟨hx, hloop⟩))
      have hrest := ih' fun x hx => h x (.inr (.inr hx))
      rw [run_iteration, run_iteration, rounds, rounds, h name (.inl rfl), hrest]
      simp only [hinner]

theorem steps_congr {b : Body} {context context' : Context} (budget : Option Nat)
    (h : ∀ x, b.Free x → context.get? x = context'.get? x) :
    b.steps budget context = b.steps budget context' := by
  have hrun : b.run budget context [] = b.run budget context' [] := run_congr budget h
  rw [steps, steps, hrun]

/-- Contexts that agree on the references of a body give the same text and the same warnings. If
the body uses the loop names inside iterations only, the entries with these names do not count. -/
theorem rendering_determined_by_references (b : Body) (budget : Option Nat)
    (context context' : Context) :
    ((∀ name ∈ b.references.allNames, context.get? name = context'.get? name) →
      b.evaluate budget context = b.evaluate budget context' ∧
        b.warnings budget context = b.warnings budget context') ∧
    (b.LoopNamesInside →
      (∀ name, name ≠ itemName → name ≠ indexName → context.get? name = context'.get? name) →
      b.evaluate budget context = b.evaluate budget context' ∧
        b.warnings budget context = b.warnings budget context') := by
  have hsame : (∀ x, b.Free x → context.get? x = context'.get? x) →
      b.evaluate budget context = b.evaluate budget context' ∧
        b.warnings budget context = b.warnings budget context' := by
    intro h
    rw [evaluate, evaluate, warnings, warnings, steps_congr budget h]
    exact ⟨rfl, rfl⟩
  constructor
  · intro h
    apply hsame
    intro x hx
    exact h x (mem_allNames_references.mpr hx)
  · intro hinside h
    apply hsame
    intro x hx
    obtain ⟨hitem, hindex⟩ := isLoopName_eq_false_iff.mp (hinside.isLoopName_eq_false hx)
    exact h x hitem hindex

/-- A list under a condition, with the unit after each element. -/
def lengthsBody : Body :=
  .block .conditional "listed"
    (.block .iteration "lengths" (.reference "this" (.reference "unit" .empty)) .empty) .empty

def lengthsContext (outer : String) : Context :=
  .ofList [("unit", .text "cm"), ("this", .text outer),
    ("lengths", .list [.text "3", .text "4"]), ("listed", .boolean true)]

theorem lengths_without_outer :
    (∀ name ∈ lengthsBody.references.allNames,
        (lengthsContext "a").get? name = (lengthsContext "b").get? name) ∧
      lengthsBody.LoopNamesInside ∧
      (∀ name, name ≠ itemName → name ≠ indexName →
        (lengthsContext "a").get? name = (lengthsContext "b").get? name) ∧
      lengthsBody.evaluate (some 1) (lengthsContext "a") = "3cm" ∧
      lengthsBody.evaluate (some 1) (lengthsContext "a") =
        lengthsBody.evaluate (some 1) (lengthsContext "b") ∧
      lengthsBody.warnings (some 1) (lengthsContext "a") =
        lengthsBody.warnings (some 1) (lengthsContext "b") := by
  have hreferences : ∀ name ∈ lengthsBody.references.allNames,
      (lengthsContext "a").get? name = (lengthsContext "b").get? name := by
    have hnames : lengthsBody.references.allNames = ["unit", "listed", "lengths"] := rfl
    simp [hnames, lengthsContext, Dictionary.ofList, Dictionary.get?_insert]
  have hinside : lengthsBody.LoopNamesInside := ⟨rfl, ⟨rfl, trivial⟩, trivial⟩
  have hothers : ∀ name, name ≠ itemName → name ≠ indexName →
      (lengthsContext "a").get? name = (lengthsContext "b").get? name := by
    intro name hitem _
    have hitem : name ≠ "this" := hitem
    simp [lengthsContext, Dictionary.ofList, Dictionary.get?_insert, hitem]
  have hfirst := (rendering_determined_by_references lengthsBody (some 1) (lengthsContext "a")
    (lengthsContext "b")).1 hreferences
  have hsecond := (rendering_determined_by_references lengthsBody (some 1) (lengthsContext "a")
    (lengthsContext "b")).2 hinside hothers
  exact ⟨hreferences, hinside, hothers, rfl, hfirst.1, hsecond.2⟩

end Body

end Worksheet
