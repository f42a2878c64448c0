import Mathlib.Data.List.Flatten
import Worksheet.Proofs.Rendering.Stretch

/-!
What a smaller budget leaves of the output. Under a smaller budget an evaluation writes some of the
texts that it writes under a larger one, in the same order. As long as the smaller budget has room,
both evaluations are at the same count of rounds; from then on one of them runs no rounds, and goes
on with what follows its loops. Under the budget zero it writes what stands outside of all loops.
-/

namespace Worksheet

open Stretch

/-! ## Texts that are written -/

def written (steps : List Step) : List String :=
  steps.filterMap fun
    | .wrote text => some text
    | _ => none

theorem written_append (steps more : List Step) :
    written (steps ++ more) = written steps ++ written more := List.filterMap_append

theorem join_written (steps : List Step) :
    String.join (written steps) = String.join (steps.map Step.output) := by
  induction steps with
  | nil => rfl
  | cons s rest ih =>
    rw [List.map_cons, String.join_cons, ← ih]
    cases s with
    | wrote text => exact String.join_cons
    | entered | notAList | exhausted => exact String.empty_append.symm

theorem written_announce (budget : Option Nat) (m : Meter) :
    written (m.announce budget) = [] := by
  cases budget with
  | none => rfl
  | some most =>
    rw [Meter.announce]
    split <;> rfl

/-! ## Two budgets -/

/-- Whether a meter has no room under the budget, or has spent as much as the other one. -/
def Meter.Trails (budget : Nat) (m other : Meter) : Prop :=
  m.hasRoom (some budget) = false ∨ m.spent = other.spent

theorem Meter.Trails.spend {budget : Nat} {m other : Meter} (h : m.Trails budget other) :
    m.spend.Trails budget other.spend := by
  rcases h with h | h
  · have hfull : budget ≤ m.spent := by simpa [Meter.hasRoom] using h
    have hstill : ¬m.spent + 1 < budget := Nat.not_lt.mpr (Nat.le_succ_of_le hfull)
    exact .inl (decide_eq_false hstill)
  · exact .inr (congrArg (· + 1) h)

/-- Whether a stretch writes a part of what another one does, from each meter that trails the
meter of the other, and comes to such a meter again. -/
def Stretch.Trims (budget : Nat) (small large : Stretch) : Prop :=
  ∀ m other, m.Trails budget other →
    (written (small m).1).Sublist (written (large other).1) ∧
      (small m).2.Trails budget (large other).2

namespace Stretch

variable {budget : Nat} {larger : Option Nat}

theorem trims_emit (steps : List Step) : Trims budget (emit steps) (emit steps) :=
  fun _ _ h => ⟨List.Sublist.refl _, h⟩

theorem trims_enter (frame : Frame) : Trims budget (enter frame) (enter frame) :=
  fun _ _ h => ⟨List.Sublist.refl _, h.spend⟩

theorem Trims.andThen {small small' large large' : Stretch} (h : Trims budget small large)
    (h' : Trims budget small' large') :
    Trims budget (small.andThen small') (large.andThen large') := by
  intro m other hm
  obtain ⟨hfirst, hnext⟩ := h m other hm
  obtain ⟨hsecond, hlast⟩ := h' _ _ hnext
  refine ⟨?_, hlast⟩
  rw [Stretch.andThen, Stretch.andThen, written_append, written_append]
  exact hfirst.append hsecond

/-- The loop under the smaller budget may end before the other one does. -/
theorem trims_runLoop (hle : ∀ most, larger = some most → budget ≤ most)
    {small large : Frame → Stretch} (h : ∀ frame, Trims budget (small frame) (large frame))
    (index : Nat) (items : List Value) :
    Trims budget (runLoop (some budget) small index items) (runLoop larger large index items) := by
  induction items generalizing index with
  | nil => exact trims_emit []
  | cons item items ih =>
    intro m other hm
    cases hroom : m.hasRoom (some budget) with
    | false =>
      rw [runLoop_cons_of_full hroom, written_announce]
      exact ⟨List.nil_sublist _, .inl hroom⟩
    | true =>
      have hspent : m.spent = other.spent := by
        apply hm.resolve_left
        simp [hroom]
      have hother : other.hasRoom larger = true := by
        cases larger with
        | none => rfl
        | some most =>
          have hmost := hle most rfl
          simp only [Meter.hasRoom, decide_eq_true_eq] at hroom ⊢
          omega
      rw [runLoop_cons_of_room hroom, runLoop_cons_of_room hother]
      exact (((trims_enter _).andThen (h _)).andThen (ih (index + 1))) m other hm

end Stretch

namespace Body

theorem trims_run {budget : Nat} {larger : Option Nat}
    (hle : ∀ most, larger = some most → budget ≤ most) (b : Body) (context : Context)
    (scope : List Frame) :
    Trims budget (b.run (some budget) context scope) (b.run larger context scope) :=
  run_rel (fun steps _ => trims_emit steps) Trims.andThen (trims_runLoop hle) b context scope

/-! ## Outside of loops -/

/-- The body with all iterations left out, those inside of conditions too. -/
def withoutIterations : Body → Body
  | empty => empty
  | literal text rest => literal text rest.withoutIterations
  | reference name rest => reference name rest.withoutIterations
  | block .conditional name inner rest =>
    block .conditional name inner.withoutIterations rest.withoutIterations
  | block .iteration _ _ rest => rest.withoutIterations

/-- No round is run when there is no budget at all. -/
theorem written_rounds_zero (context : Context) (scope : List Frame) (name : String) (inner : Body)
    (m : Meter) : written (rounds (some 0) context scope name inner m).1 = [] := by
  rw [rounds]
  cases lookup context scope name with
  | none => rfl
  | some v =>
    cases v with
    | list items =>
      cases items with
      | nil => rfl
      | cons item items => exact written_announce (some 0) m
    | null | boolean | number | text => rfl

theorem written_andThen (f g : Stretch) (m : Meter) :
    written (andThen f g m).1 = written (f m).1 ++ written (g (f m).2).1 :=
  written_append _ _

theorem written_run_zero (budget : Option Nat) (b : Body) (context : Context) (scope : List Frame)
    (m m' : Meter) :
    written (b.run (some 0) context scope m).1 =
      written (b.withoutIterations.run budget context scope m').1 := by
  induction b generalizing m m' with
  | empty => rfl
  | literal text rest ih =>
    rw [withoutIterations, run_literal, run_literal, written_andThen, written_andThen]
    exact congrArg _ (ih _ _)
  | reference name rest ih =>
    rw [withoutIterations, run_reference, run_reference, written_andThen, written_andThen]
    exact congrArg _ (ih _ _)
  | block kind name inner rest ih ih' =>
    cases kind with
    | conditional =>
      rw [withoutIterations, run_conditional, run_conditional, written_andThen, written_andThen]
      split
      · rw [ih m m', ih' _ _]
      · exact congrArg _ (ih' _ _)
    | iteration =>
      rw [withoutIterations, run_iteration, written_andThen, written_rounds_zero, ih' _ m']
      rfl

/-- The texts that an evaluation writes, in their order. -/
def pieces (budget : Option Nat) (context : Context) (b : Body) : List String :=
  written (b.steps budget context)

theorem evaluate_eq_join (budget : Option Nat) (context : Context) (b : Body) :
    b.evaluate budget context = String.join (b.pieces budget context) :=
  (join_written _).symm

/-- A smaller budget only leaves out texts that a larger one writes. The budget zero leaves those
outside of loops, which every budget writes therefore. -/
theorem trimmed_by_budget (context : Context) (b : Body) :
    (∀ (budget : Nat) (larger : Option Nat), (∀ most, larger = some most → budget ≤ most) →
      (b.pieces (some budget) context).Sublist (b.pieces larger context) ∧
        (b.evaluate (some budget) context).toList.Sublist (b.evaluate larger context).toList) ∧
    (∀ budget, b.evaluate (some 0) context = b.withoutIterations.evaluate budget context) ∧
    ∀ budget, (b.withoutIterations.pieces none context).Sublist (b.pieces budget context) := by
  have hless : ∀ (budget : Nat) (larger : Option Nat),
      (∀ most, larger = some most → budget ≤ most) →
      (b.pieces (some budget) context).Sublist (b.pieces larger context) := by
    intro budget larger hle
    exact (trims_run hle b context [] {} {} (.inr rfl)).1
  have hzero : ∀ budget, b.pieces (some 0) context = b.withoutIterations.pieces budget context := by
    intro budget
    exact written_run_zero budget b context [] {} {}
  refine ⟨?_, ?_, ?_⟩
  · intro budget larger hle
    have hpieces := hless budget larger hle
    refine ⟨hpieces, ?_⟩
    rw [evaluate_eq_join, evaluate_eq_join, String.toList_join, String.toList_join]
    exact hpieces.flatMap String.toList
  · intro budget
    rw [evaluate_eq_join, evaluate_eq_join, hzero budget]
  · intro budget
    rw [← hzero none]
    exact hless 0 budget fun most _ => Nat.zero_le most

/-- The budget ends in the first round of the outer loop, which goes on to its own end. -/
example :
    (block .iteration "rows"
        (block .iteration "this" (reference "this" empty) (literal ";" empty))
        (literal "." empty)).evaluate (some 2)
      (.ofList [("rows", .list [.list [.text "a", .text "b"], .list [.text "c"]])]) = "a;." := rfl

end Body

end Worksheet
