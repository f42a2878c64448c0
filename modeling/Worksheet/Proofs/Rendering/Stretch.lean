import Worksheet.Rendering.Evaluation

/-!
An evaluation as a sequence of stretches, each from a meter to some steps and the meter after them.
A body runs its parts one after the other, and a loop runs its rounds so, as long as the budget has
room. Without a budget the steps do not depend on the meter.
-/

namespace Worksheet

/-- Neither the start of a round nor the end of the budget. -/
def Step.isPlain : Step → Bool
  | wrote _ | notAList _ => true
  | entered _ | exhausted _ => false

abbrev Stretch := Meter → List Step × Meter

namespace Stretch

def emit (steps : List Step) : Stretch := fun m => (steps, m)

def enter (frame : Frame) : Stretch := fun m => ([.entered frame], m.spend)

def andThen (f g : Stretch) : Stretch := fun m =>
  ((f m).1 ++ (g (f m).2).1, (g (f m).2).2)

variable {f g h : Stretch}

theorem andThen_assoc : (f.andThen g).andThen h = f.andThen (g.andThen h) := by
  funext m
  simp only [andThen, List.append_assoc]

/-- Whether the steps are the same from every meter. -/
def Unmetered (f : Stretch) : Prop := ∀ m m', (f m).1 = (f m').1

theorem unmetered_emit (steps : List Step) : (emit steps).Unmetered := fun _ _ => rfl

theorem unmetered_enter (frame : Frame) : (enter frame).Unmetered := fun _ _ => rfl

theorem Unmetered.andThen (hf : f.Unmetered) (hg : g.Unmetered) : (f.andThen g).Unmetered := by
  intro m m'
  simp only [Stretch.andThen]
  rw [hf m m', hg (f m).2 (f m').2]

end Stretch

open Stretch

/-! ## Loops -/

section Loop

variable {budget : Option Nat} {body : Frame → Stretch} {index : Nat} {item : Value}
  {items : List Value} {m : Meter}

theorem runLoop_cons_of_room (h : m.hasRoom budget = true) :
    runLoop budget body index (item :: items) m =
      ((enter ⟨item, index⟩).andThen (body ⟨item, index⟩)).andThen
        (runLoop budget body (index + 1) items) m := by
  rw [runLoop, if_pos h]
  rfl

theorem runLoop_cons_of_full (h : m.hasRoom budget = false) :
    runLoop budget body index (item :: items) m = (m.announce budget, m.close) := by
  rw [runLoop, h]
  rfl

theorem runLoop_cons_free :
    runLoop none body index (item :: items) =
      ((enter ⟨item, index⟩).andThen (body ⟨item, index⟩)).andThen
        (runLoop none body (index + 1) items) := by
  funext m
  exact runLoop_cons_of_room rfl

theorem unmetered_runLoop (h : ∀ frame, Unmetered (body frame)) :
    Unmetered (runLoop none body index items) := by
  induction items generalizing index with
  | nil => exact unmetered_emit []
  | cons item items ih =>
    rw [runLoop_cons_free]
    exact ((unmetered_enter _).andThen (h _)).andThen ih

end Loop

/-! ## Bodies -/

namespace Body

variable {budget : Option Nat} {context : Context} {scope : List Frame}

/-- What a reference adds: nothing if its name has no value. -/
def shown (context : Context) (scope : List Frame) (name : String) : List Step :=
  ((lookup context scope name).map fun v => Step.wrote v.toText).toList

def holds (context : Context) (scope : List Frame) (name : String) : Bool :=
  ((lookup context scope name).map Value.truthy).getD false

/-- The rounds of an iteration, or the remark that there are none. -/
def rounds (budget : Option Nat) (context : Context) (scope : List Frame) (name : String)
    (inner : Body) : Stretch :=
  match lookup context scope name with
  | some (.list items) =>
    runLoop budget (fun frame => inner.run budget context (frame :: scope)) 1 items
  | _ => emit [.notAList name]

theorem run_literal (text : String) (rest : Body) :
    (literal text rest).run budget context scope =
      andThen (emit [.wrote text]) (rest.run budget context scope) := rfl

theorem run_reference (name : String) (rest : Body) :
    (reference name rest).run budget context scope =
      andThen (emit (shown context scope name)) (rest.run budget context scope) := by
  funext m
  simp only [run, shown, andThen, emit]
  cases lookup context scope name <;> rfl

theorem run_conditional (name : String) (inner rest : Body) :
    (block .conditional name inner rest).run budget context scope =
      andThen (if holds context scope name then inner.run budget context scope else emit [])
        (rest.run budget context scope) := by
  funext m
  cases h : holds context scope name <;> rw [holds] at h <;> simp only [run, andThen, h] <;> rfl

theorem run_iteration (name : String) (inner rest : Body) :
    (block .iteration name inner rest).run budget context scope =
      andThen (rounds budget context scope name inner) (rest.run budget context scope) := by
  funext m
  cases hv : lookup context scope name with
  | none => simp only [run, rounds, andThen, hv]; rfl
  | some v => cases v <;> simp only [run, rounds, andThen, hv] <;> rfl

theorem run_append (a b : Body) :
    (a ++ b).run budget context scope =
      andThen (a.run budget context scope) (b.run budget context scope) := by
  induction a with
  | empty => rfl
  | literal text rest ih =>
    rw [run_literal, andThen_assoc, ← ih]
    rfl
  | reference name rest ih =>
    rw [run_reference, andThen_assoc, ← ih]
    exact run_reference name (rest ++ b)
  | block kind name inner rest _ ih =>
    cases kind with
    | conditional =>
      rw [run_conditional, andThen_assoc, ← ih]
      exact run_conditional name inner (rest ++ b)
    | iteration =>
      rw [run_iteration, andThen_assoc, ← ih]
      exact run_iteration name inner (rest ++ b)

theorem isPlain_of_mem_shown {name : String} {s : Step} (h : s ∈ shown context scope name) :
    s.isPlain = true := by
  rw [shown] at h
  cases hv : lookup context scope name with
  | none => simp [hv] at h
  | some v =>
    obtain rfl : s = .wrote v.toText := by simpa [hv] using h
    rfl

/-- What holds of stretches outside of loops, and of sequences and loops if it holds of what they
consist of, holds of two runs of a body. -/
theorem run_rel {R : Stretch → Stretch → Prop} {budget budget' : Option Nat}
    (hemit : ∀ steps, (∀ s ∈ steps, s.isPlain = true) → R (emit steps) (emit steps))
    (handThen : ∀ {f f' g g'}, R f f' → R g g' → R (andThen f g) (andThen f' g'))
    (hloop : ∀ {f f' : Frame → Stretch}, (∀ frame, R (f frame) (f' frame)) → ∀ index items,
      R (runLoop budget f index items) (runLoop budget' f' index items))
    (b : Body) (context : Context) (scope : List Frame) :
    R (b.run budget context scope) (b.run budget' context scope) := by
  have hone : ∀ s : Step, s.isPlain = true → R (emit [s]) (emit [s]) := by
    intro s hs
    exact hemit [s] (List.forall_mem_singleton.mpr hs)
  have hnone : R (emit []) (emit []) := hemit [] (List.forall_mem_nil _)
  induction b generalizing scope with
  | empty => exact hnone
  | literal text rest ih =>
    rw [run_literal, run_literal]
    exact handThen (hone _ rfl) (ih scope)
  | reference name rest ih =>
    rw [run_reference, run_reference]
    exact handThen (hemit _ fun _ => isPlain_of_mem_shown) (ih scope)
  | block kind name inner rest ih ih' =>
    cases kind with
    | conditional =>
      rw [run_conditional, run_conditional]
      refine handThen ?_ (ih' scope)
      split
      · exact ih scope
      · exact hnone
    | iteration =>
      rw [run_iteration, run_iteration]
      refine handThen ?_ (ih' scope)
      rw [rounds, rounds]
      split
      · exact hloop (fun frame => ih (frame :: scope)) 1 _
      · exact hone _ rfl

theorem unmetered_run (b : Body) (context : Context) (scope : List Frame) :
    Unmetered (b.run none context scope) :=
  @run_rel (fun f _ => Unmetered f) none none (fun steps _ => unmetered_emit steps)
    Unmetered.andThen (fun h _ _ => unmetered_runLoop h) b context scope

end Body

end Worksheet
