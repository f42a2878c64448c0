import Worksheet.Proofs.Rendering.Dependence

/-!
Scopes as contexts. What the iterations around a place bind can as well be bound by the context, so
a body inside iterations writes what it writes at top level in a context that is rebound. Evaluation
without a budget is thereby a function on bodies and contexts alone: it takes parts side by side to
texts side by side, and an iteration to its body in the context rebound to each element in turn.
-/

namespace Worksheet

open Stretch

/-! ## Rebinding -/

namespace Context

/-- The context with the loop names bound as in a round. -/
def bind (context : Context) (frame : Frame) : Context :=
  (context.insert itemName frame.item).insert indexName (.number (.ofNat frame.index))

/-- The context with all that iterations bind, the innermost one first in the list. -/
def within (context : Context) (scope : List Frame) : Context :=
  scope.foldr (fun frame context => context.bind frame) context

theorem get?_bind (context : Context) (frame : Frame) (name : String) :
    (context.bind frame).get? name =
      if name = itemName then some frame.item
      else if name = indexName then some (.number (.ofNat frame.index))
      else context.get? name := by
  rw [bind, Dictionary.get?_insert, Dictionary.get?_insert]
  have hne : itemName ≠ indexName := by decide
  by_cases hitem : name = itemName
  · rw [if_pos hitem, if_pos hitem, if_neg (hitem ▸ hne)]
  · rw [if_neg hitem, if_neg hitem]

theorem get?_within (context : Context) (scope : List Frame) (name : String) :
    (context.within scope).get? name = lookup context scope name := by
  induction scope with
  | nil => rfl
  | cons frame scope ih =>
    have hout : (context.within (frame :: scope)).get? name =
        lookup (context.within scope) [frame] name := get?_bind _ frame name
    rw [hout]
    apply lookup_cons_congr frame
    intro _
    exact ih

end Context

/-! ## Texts -/

def text (steps : List Step) : String := String.join (steps.map Step.output)

theorem text_append (steps more : List Step) : text (steps ++ more) = text steps ++ text more := by
  rw [text, List.map_append, String.join_append]
  rfl

theorem text_andThen {f g : Stretch} (hg : g.Unmetered) (m : Meter) :
    text (f.andThen g m).1 = text (f m).1 ++ text (g m).1 := by
  rw [andThen, text_append, hg (f m).2 m]

theorem text_runLoop {body : Frame → Stretch} (hbody : ∀ frame, (body frame).Unmetered)
    (index : Nat) (items : List Value) (m : Meter) :
    text (runLoop none body index items m).1 =
      String.join (items.mapIdx fun i item => text (body ⟨item, index + i⟩ m).1) := by
  induction items generalizing index with
  | nil => rfl
  | cons item items ih =>
    have hround : text ((enter ⟨item, index⟩).andThen (body ⟨item, index⟩) m).1 =
        text (body ⟨item, index⟩ m).1 := by
      rw [text_andThen (hbody _)]
      exact String.empty_append
    rw [runLoop_cons_free, text_andThen (unmetered_runLoop hbody), hround, ih,
      List.mapIdx_cons, String.join_cons]
    simp only [Nat.add_zero, Nat.add_assoc, Nat.add_comm 1]

namespace Body

theorem text_run (b : Body) (context : Context) (scope : List Frame) (m : Meter) :
    text (b.run none context scope m).1 = b.evaluate none (context.within scope) := by
  have hrun : b.run none context scope = b.run none (context.within scope) [] :=
    run_congr none fun x _ => (context.get?_within scope x).symm
  rw [hrun, unmetered_run b _ [] m {}]
  rfl

theorem evaluate_append (a b : Body) (context : Context) :
    (a ++ b).evaluate none context = a.evaluate none context ++ b.evaluate none context := by
  have happend := text_andThen (f := a.run none context []) (unmetered_run b context []) {}
  rw [← run_append] at happend
  exact happend

/-- Nothing follows the last part. -/
theorem text_andThen_empty (f : Stretch) (context : Context) (m : Meter) :
    text (andThen f (empty.run none context []) m).1 = text (f m).1 := by
  rw [text_andThen (unmetered_run empty context [])]
  exact String.append_empty

theorem evaluate_literal (t : String) (rest : Body) (context : Context) :
    (literal t rest).evaluate none context = t ++ rest.evaluate none context := by
  have hrun := text_andThen (f := emit [.wrote t]) (unmetered_run rest context []) {}
  rw [← run_literal] at hrun
  have ht : text (emit [.wrote t] {}).1 = t := String.empty_append
  rw [ht] at hrun
  exact hrun

theorem evaluate_reference (name : String) (context : Context) :
    (reference name empty).evaluate none context =
      ((context.get? name).map Value.toText).getD "" := by
  have hrun := text_andThen_empty (emit (shown context [] name)) context {}
  rw [← run_reference] at hrun
  refine Eq.trans hrun ?_
  rw [emit, shown, lookup]
  cases context.get? name with
  | none => rfl
  | some v => exact String.empty_append

theorem evaluate_reference_rest (name : String) (rest : Body) (context : Context) :
    (reference name rest).evaluate none context =
      (reference name empty).evaluate none context ++ rest.evaluate none context :=
  evaluate_append (reference name empty) rest context

theorem evaluate_block (kind : BlockKind) (name : String) (inner rest : Body) (context : Context) :
    (block kind name inner rest).evaluate none context =
      (block kind name inner empty).evaluate none context ++ rest.evaluate none context :=
  evaluate_append (block kind name inner empty) rest context

theorem evaluate_conditional (name : String) (inner : Body) (context : Context) :
    (block .conditional name inner empty).evaluate none context =
      match context.get? name with
      | some v => if v.truthy then inner.evaluate none context else ""
      | none => "" := by
  have hrun : (block .conditional name inner empty).evaluate none context =
      text ((if holds context [] name then inner.run none context [] else emit []) {}).1 := by
    rw [← text_andThen_empty _ context, ← run_conditional]
    rfl
  have hholds : holds context [] name =
      ((context.get? name).map Value.truthy).getD false := rfl
  rw [hrun, hholds]
  cases context.get? name with
  | none => rfl
  | some v =>
    change text ((if v.truthy then inner.run none context [] else emit []) {}).1 =
      if v.truthy then inner.evaluate none context else ""
    split <;> rfl

theorem evaluate_iteration (name : String) (inner : Body) (context : Context) :
    (block .iteration name inner empty).evaluate none context =
      match context.get? name with
      | some (.list items) =>
        String.join (items.mapIdx fun i v => inner.evaluate none (context.bind ⟨v, i + 1⟩))
      | _ => "" := by
  have hrun : (block .iteration name inner empty).evaluate none context =
      text (rounds none context [] name inner {}).1 := by
    rw [← text_andThen_empty _ context, ← run_iteration]
    rfl
  have hlookup : lookup context [] name = context.get? name := rfl
  rw [hrun, rounds, hlookup]
  cases context.get? name with
  | none => rfl
  | some v =>
    cases v with
    | list items =>
      have hloop := text_runLoop (fun frame => unmetered_run inner context [frame]) 1 items {}
      simp only [text_run, Nat.add_comm 1] at hloop
      exact hloop
    | null | boolean | number | text => rfl

/-- Evaluation without a budget is lexically scoped. Inside iterations it is evaluation at top level
in the rebound context, and there parts side by side give texts side by side, a condition its body
or nothing, an iteration its body in the context rebound to each element, and after a block the
context is as before. -/
theorem evaluate_lexical (context : Context) :
    (∀ (b : Body) (scope : List Frame) (m : Meter),
      String.join ((b.run none context scope m).1.map Step.output) =
        b.evaluate none (context.within scope)) ∧
    (∀ a b : Body,
      (a ++ b).evaluate none context = a.evaluate none context ++ b.evaluate none context) ∧
    (∀ name inner, (block .conditional name inner empty).evaluate none context =
      match context.get? name with
      | some v => if v.truthy then inner.evaluate none context else ""
      | none => "") ∧
    (∀ name inner, (block .iteration name inner empty).evaluate none context =
      match context.get? name with
      | some (.list items) =>
        String.join (items.mapIdx fun i v => inner.evaluate none (context.bind ⟨v, i + 1⟩))
      | _ => "") ∧
    ∀ kind name inner rest, (block kind name inner rest).evaluate none context =
      (block kind name inner empty).evaluate none context ++ rest.evaluate none context := by
  refine ⟨?_, ?_, ?_, ?_, ?_⟩
  · intro b scope m
    exact text_run b context scope m
  · intro a b
    exact evaluate_append a b context
  · intro name inner
    exact evaluate_conditional name inner context
  · intro name inner
    exact evaluate_iteration name inner context
  · intro kind name inner rest
    exact evaluate_append (block kind name inner empty) rest context

/-- An iteration over the rounds of another one, and an outer entry that both hide. -/
example :
    (block .iteration "rows"
        (block .iteration "this" (reference "@index" (reference "this" empty))
          (literal "/" (reference "@index" (literal ";" empty))))
        (reference "this" empty)).evaluate none
      (.ofList [("rows", .list [.list [.text "a", .text "b"], .list [.text "c"]]),
        ("this", .text "x")]) = "1a2b/1;1c/2;x" := by decide +kernel

end Body

end Worksheet
