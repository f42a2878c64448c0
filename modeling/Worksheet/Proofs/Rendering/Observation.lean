import Mathlib.Data.List.Forall2
import Worksheet.Proofs.Rendering.Scope

/-!
What a rendering can tell of the values of a context: their texts, whether they hold as conditions,
and the items of lists. Values that agree in this, all the way into their lists, are alike. A loop
over alike lists runs as many rounds with alike elements, so contexts that bind alike values render
alike. A name without a value counts as one with the null value.
-/

namespace Worksheet

open Stretch

/-! ## Texts of numbers -/

namespace NumberLayout

variable {layout : NumberLayout}

theorem positionalText_ne_nil (digits : List Char) (point : Int) :
    layout.positionalText digits point ≠ [] := by
  rw [positionalText]
  split
  · exact List.cons_ne_nil _ _
  · next hpoint =>
    split
    · simp
    · -- a point behind all digits is preceded by digits or by zeros
      have hlen : point.toNat ≤
          (digits ++ List.replicate (point.toNat - digits.length) '0').length := by
        rw [List.length_append, List.length_replicate]
        omega
      intro hnil
      rw [(List.append_eq_nil_iff.mp hnil).1, List.length_nil] at hlen
      omega

theorem exponentText_ne_nil (digits : List Char) (power : Int) :
    layout.exponentText digits power ≠ [] := by
  simp [exponentText]

theorem magnitudeText_ne_nil (magnitude : Nat) : layout.magnitudeText magnitude ≠ [] := by
  rw [magnitudeText]
  split
  · split <;> exact List.cons_ne_nil _ _
  · simp only
    split
    · exact positionalText_ne_nil _ _
    · split
      · exact positionalText_ne_nil _ _
      · exact exponentText_ne_nil _ _

theorem text_finite_ne (negative : Bool) (magnitude : Fin Number.magnitudes) :
    layout.text (.finite negative magnitude) ≠ "" := by
  have hne := layout.magnitudeText_ne_nil magnitude
  intro htext
  have hnil := congrArg String.toList htext
  simp only [text] at hnil
  split at hnil <;> simp_all

end NumberLayout

/-! ## Alike values -/

namespace Value

/-- Values that no rendering can tell apart. -/
inductive Alike : Value → Value → Prop
  | single {v w} : v.toText = w.toText → v.truthy = w.truthy → v.asList? = none →
    w.asList? = none → Alike v w
  | list {xs ys} : (list xs).toText = (list ys).toText → (list xs).truthy = (list ys).truthy →
    List.Forall₂ Alike xs ys → Alike (list xs) (list ys)

namespace Alike

variable {v w : Value} {xs ys : List Value}

theorem toText_eq (h : Alike v w) : v.toText = w.toText := by
  cases h with
  | single htext | list htext => exact htext

theorem truthy_eq (h : Alike v w) : v.truthy = w.truthy := by
  cases h with
  | single _ htruthy | list _ htruthy => exact htruthy

theorem textsOf_eq (h : List.Forall₂ Alike xs ys) : textsOf xs = textsOf ys := by
  induction h with
  | nil => rfl
  | cons hv _ ih => rw [textsOf, textsOf, hv.toText_eq, ih]

/-- Lists are alike as soon as their items are. -/
theorem of_forall₂ (h : List.Forall₂ Alike xs ys) : Alike (.list xs) (.list ys) := by
  refine .list ?_ rfl h
  rw [toText, toText, textsOf_eq h]

mutual

theorem refl : ∀ v : Value, Alike v v
  | .list items => of_forall₂ (refl_items items)
  | .null | .boolean _ | .number _ | .text _ => .single rfl rfl rfl rfl

theorem refl_items : ∀ items : List Value, List.Forall₂ Alike items items
  | [] => .nil
  | v :: rest => .cons (refl v) (refl_items rest)

end

mutual

theorem symm : ∀ {v w : Value}, Alike v w → Alike w v
  | _, _, .single htext htruthy hv hw => .single htext.symm htruthy.symm hw hv
  | .list _, .list _, .list _ _ hitems => of_forall₂ (symm_items hitems)

theorem symm_items : ∀ {xs ys : List Value}, List.Forall₂ Alike xs ys → List.Forall₂ Alike ys xs
  | _, _, .nil => .nil
  | _ :: _, _ :: _, .cons h hrest => .cons (symm h) (symm_items hrest)

end

mutual

theorem trans : ∀ {u v w : Value}, Alike u v → Alike v w → Alike u w
  | _, _, _, .single htext htruthy hu _, .single htext' htruthy' _ hw =>
    .single (htext.trans htext') (htruthy.trans htruthy') hu hw
  | .list _, .list _, .list _, .list _ _ hitems, .list _ _ hitems' =>
    of_forall₂ (trans_items hitems hitems')

theorem trans_items : ∀ {xs ys zs : List Value}, List.Forall₂ Alike xs ys →
    List.Forall₂ Alike ys zs → List.Forall₂ Alike xs zs
  | _, _, _, .nil, .nil => .nil
  | _ :: _, _ :: _, _ :: _, .cons h hrest, .cons h' hrest' =>
    .cons (trans h h') (trans_items hrest hrest')

end

theorem equivalence : Equivalence Alike := ⟨refl, symm, trans⟩

/-- Two values are alike if they have the same text, hold alike as conditions, and are either lists
of as many items that are alike in pairs, or no lists. -/
theorem alike_iff {v w : Value} :
    Alike v w ↔ v.toText = w.toText ∧ v.truthy = w.truthy ∧
      ((∃ xs ys, v = .list xs ∧ w = .list ys ∧ List.Forall₂ Alike xs ys) ∨
        v.asList? = none ∧ w.asList? = none) := by
  constructor
  · intro h
    refine ⟨h.toText_eq, h.truthy_eq, ?_⟩
    cases h with
    | single _ _ hv hw => exact .inr ⟨hv, hw⟩
    | list _ _ hitems => exact .inl ⟨_, _, rfl, rfl, hitems⟩
  · rintro ⟨htext, htruthy, ⟨xs, ys, rfl, rfl, hitems⟩ | ⟨hv, hw⟩⟩
    · exact .list htext htruthy hitems
    · exact .single htext htruthy hv hw

theorem null_text : Alike .null (.text "") := .single rfl rfl rfl rfl

/-- A number that holds as a condition is like its text. -/
theorem number_text (negative : Bool) {magnitude : Fin Number.magnitudes}
    (h : magnitude.val ≠ 0) :
    Alike (.number (.finite negative magnitude))
      (.text (Value.number (.finite negative magnitude)).toText) := by
  have hnumber : (Value.number (.finite negative magnitude)).truthy = true := by
    simp [truthy, Number.isZero, h]
  have htext : (numberLayout.text (.finite negative magnitude) != "") = true :=
    bne_iff_ne.mpr (numberLayout.text_finite_ne negative magnitude)
  exact .single rfl (hnumber.trans htext.symm) rfl rfl

end Alike

end Value

/-! ## Alike scopes -/

structure Frame.Alike (frame frame' : Frame) : Prop where
  item : Value.Alike frame.item frame'.item
  index : frame.index = frame'.index

/-- The value that a name is taken to have where it may have none. -/
def valueOf (v : Option Value) : Value := v.getD .null

theorem alike_lookup {context context' : Context} {scope scope' : List Frame} (name : String)
    (hcontext : Value.Alike (valueOf (context.get? name)) (valueOf (context'.get? name)))
    (hscope : List.Forall₂ Frame.Alike scope scope') :
    Value.Alike (valueOf (lookup context scope name)) (valueOf (lookup context' scope' name)) := by
  cases hscope with
  | nil => exact hcontext
  | cons hframe _ =>
    rw [lookup, lookup]
    split
    · exact hframe.item
    · split
      · rw [hframe.index]
        exact .refl _
      · exact hcontext

/-! ## Alike evaluations -/

/-- Whether some steps and the meter after them show the same as others: the text that is written
and what an observer is told. -/
structure SameOutcome (made made' : List Step × Meter) : Prop where
  text_eq : text made.1 = text made'.1
  log_eq : made.1.filterMap Step.logEntry? = made'.1.filterMap Step.logEntry?
  meter_eq : made.2 = made'.2

/-- Whether two stretches show the same from each meter. -/
def Stretch.Shows (f g : Stretch) : Prop := ∀ m, SameOutcome (f m) (g m)

namespace Stretch

variable {f f' g g' : Stretch}

theorem shows_refl (f : Stretch) : f.Shows f := fun _ => ⟨rfl, rfl, rfl⟩

theorem shows_enter (frame frame' : Frame) : (enter frame).Shows (enter frame') :=
  fun _ => ⟨rfl, rfl, rfl⟩

theorem Shows.andThen (h : f.Shows g) (h' : f'.Shows g') :
    (f.andThen f').Shows (g.andThen g') := by
  intro m
  obtain ⟨htext, hlog, hmeter⟩ := h m
  obtain ⟨htext', hlog', hmeter'⟩ := h' (f m).2
  rw [hmeter] at htext' hlog' hmeter'
  refine ⟨?_, ?_, ?_⟩
  · rw [Stretch.andThen, Stretch.andThen, text_append, text_append, htext, hmeter, htext']
  · rw [Stretch.andThen, Stretch.andThen, List.filterMap_append, List.filterMap_append, hlog,
      hmeter, hlog']
  · rw [Stretch.andThen, Stretch.andThen, hmeter, hmeter']

/-- Loops over alike lists have room for as many rounds. -/
theorem shows_runLoop {budget : Option Nat} {body body' : Frame → Stretch}
    (h : ∀ frame frame', frame.Alike frame' → (body frame).Shows (body' frame'))
    (index : Nat) {items items' : List Value} (hitems : List.Forall₂ Value.Alike items items') :
    Shows (runLoop budget body index items) (runLoop budget body' index items') := by
  induction hitems generalizing index with
  | nil => exact shows_refl _
  | @cons item item' items items' hitem _ ih =>
    intro m
    cases hroom : m.hasRoom budget with
    | false =>
      rw [runLoop_cons_of_full hroom, runLoop_cons_of_full hroom]
      exact ⟨rfl, rfl, rfl⟩
    | true =>
      rw [runLoop_cons_of_room hroom, runLoop_cons_of_room hroom]
      have hround := h ⟨item, index⟩ ⟨item', index⟩ ⟨hitem, rfl⟩
      exact ((shows_enter _ _).andThen hround).andThen (ih (index + 1)) m

end Stretch

namespace Body

section

variable (context : Context) (scope : List Frame) (name : String)

theorem text_shown :
    text (shown context scope name) = (valueOf (lookup context scope name)).toText := by
  rw [shown]
  cases lookup context scope name with
  | none => rfl
  | some v => exact String.empty_append

theorem filterMap_logEntry_shown : (shown context scope name).filterMap Step.logEntry? = [] := by
  rw [shown]
  cases lookup context scope name <;> rfl

theorem holds_eq_truthy :
    holds context scope name = (valueOf (lookup context scope name)).truthy := by
  rw [holds]
  cases lookup context scope name <;> rfl

end

section

variable {context context' : Context} {scope scope' : List Frame} {name : String}

theorem rounds_of_list {items : List Value} {budget : Option Nat} {inner : Body}
    (h : valueOf (lookup context scope name) = .list items) :
    rounds budget context scope name inner =
      runLoop budget (fun frame => inner.run budget context (frame :: scope)) 1 items := by
  rw [rounds]
  cases hv : lookup context scope name with
  | none =>
    rw [hv] at h
    contradiction
  | some v =>
    rw [hv] at h
    obtain rfl : v = .list items := h
    rfl

theorem rounds_of_single {budget : Option Nat} {inner : Body}
    (h : (valueOf (lookup context scope name)).asList? = none) :
    rounds budget context scope name inner = emit [.notAList name] := by
  rw [rounds]
  cases hv : lookup context scope name with
  | none => rfl
  | some v =>
    rw [hv] at h
    cases v with
    | list => contradiction
    | null | boolean | number | text => rfl

theorem shows_shown
    (h : Value.Alike (valueOf (lookup context scope name))
      (valueOf (lookup context' scope' name))) :
    Shows (emit (shown context scope name)) (emit (shown context' scope' name)) := by
  intro m
  refine ⟨?_, ?_, rfl⟩
  · exact (text_shown context scope name).trans
      (h.toText_eq.trans (text_shown context' scope' name).symm)
  · exact (filterMap_logEntry_shown context scope name).trans
      (filterMap_logEntry_shown context' scope' name).symm

theorem shows_rounds {budget : Option Nat} {inner : Body}
    (h : Value.Alike (valueOf (lookup context scope name)) (valueOf (lookup context' scope' name)))
    (hinner : ∀ frame frame' : Frame, frame.Alike frame' →
      Shows (inner.run budget context (frame :: scope))
        (inner.run budget context' (frame' :: scope'))) :
    Shows (rounds budget context scope name inner) (rounds budget context' scope' name inner) := by
  rcases (Value.Alike.alike_iff.mp h).2.2 with ⟨items, items', hv, hv', hitems⟩ | ⟨hv, hv'⟩
  · rw [rounds_of_list hv, rounds_of_list hv']
    exact shows_runLoop hinner 1 hitems
  · rw [rounds_of_single hv, rounds_of_single hv']
    exact shows_refl _

end

theorem shows_run {context context' : Context}
    (hcontext : ∀ name, Value.Alike (valueOf (context.get? name)) (valueOf (context'.get? name)))
    (budget : Option Nat) (b : Body) {scope scope' : List Frame}
    (hscope : List.Forall₂ Frame.Alike scope scope') :
    Shows (b.run budget context scope) (b.run budget context' scope') := by
  induction b generalizing scope scope' with
  | empty => exact shows_refl _
  | literal text rest ih =>
    rw [run_literal, run_literal]
    exact (shows_refl _).andThen (ih hscope)
  | reference name rest ih =>
    have hname := alike_lookup name (hcontext name) hscope
    rw [run_reference, run_reference]
    exact (shows_shown hname).andThen (ih hscope)
  | block kind name inner rest ih ih' =>
    have hname := alike_lookup name (hcontext name) hscope
    cases kind with
    | conditional =>
      have hholds : holds context scope name = holds context' scope' name := by
        rw [holds_eq_truthy, holds_eq_truthy, hname.truthy_eq]
      rw [run_conditional, run_conditional, hholds]
      refine Shows.andThen ?_ (ih' hscope)
      split
      · exact ih hscope
      · exact shows_refl _
    | iteration =>
      rw [run_iteration, run_iteration]
      exact (shows_rounds hname fun _ _ hframe => ih (.cons hframe hscope)).andThen (ih' hscope)

/-- Whether a body is rendered alike in two contexts, as to its text and its warnings. -/
def RendersAlike (b : Body) (budget : Option Nat) (context context' : Context) : Prop :=
  b.evaluate budget context = b.evaluate budget context' ∧
    b.warnings budget context = b.warnings budget context'

theorem rendersAlike_of_alike (b : Body) (budget : Option Nat) {context context' : Context}
    (h : ∀ name, Value.Alike (valueOf (context.get? name)) (valueOf (context'.get? name))) :
    b.RendersAlike budget context context' := by
  obtain ⟨htext, hlog, -⟩ := shows_run h budget b .nil {}
  refine ⟨htext, ?_⟩
  rw [warnings, warnings, Step.warnings, Step.warnings, steps, steps, hlog]

/-- A rendering shows the values of a context only by their texts, by whether they hold, and by the
items of lists. So no value, the null value and the empty text can be exchanged for one another, and
so can a number that is not zero and its text, in a context and in its lists. -/
theorem rendering_observes (b : Body) (budget : Option Nat) :
    (∀ context context' : Context,
      (∀ name, Value.Alike (valueOf (context.get? name)) (valueOf (context'.get? name))) →
      b.RendersAlike budget context context') ∧
    (∀ v w : Value, Value.Alike v w ↔ v.toText = w.toText ∧ v.truthy = w.truthy ∧
      ((∃ xs ys, v = .list xs ∧ w = .list ys ∧ List.Forall₂ Value.Alike xs ys) ∨
        v.asList? = none ∧ w.asList? = none)) ∧
    Equivalence Value.Alike ∧
    (∀ xs ys, List.Forall₂ Value.Alike xs ys → Value.Alike (.list xs) (.list ys)) ∧
    Value.Alike .null (.text "") ∧
    (∀ negative (magnitude : Fin Number.magnitudes), magnitude.val ≠ 0 →
      Value.Alike (.number (.finite negative magnitude))
        (.text (Value.number (.finite negative magnitude)).toText)) ∧
    (∀ (context : Context) name v w, Value.Alike v w →
      b.RendersAlike budget (context.insert name v) (context.insert name w)) ∧
    ∀ (context : Context) name,
      b.RendersAlike budget (context.erase name) (context.insert name .null) := by
  refine ⟨fun _ _ => rendersAlike_of_alike b budget, fun _ _ => Value.Alike.alike_iff,
    Value.Alike.equivalence, fun _ _ => .of_forall₂, .null_text,
    fun negative _ => .number_text negative, ?_, ?_⟩
  · intro context name v w h
    apply rendersAlike_of_alike
    intro other
    rw [Dictionary.get?_insert, Dictionary.get?_insert]
    split
    · exact h
    · exact .refl _
  · intro context name
    apply rendersAlike_of_alike
    intro other
    rw [Dictionary.get?_erase, Dictionary.get?_insert]
    split <;> exact .refl _

/-- A loop over a list with a null value and a number, and one with their texts. -/
example :
    let b := block .iteration "items" (block .conditional "this" (reference "this" empty)
      (literal ";" empty)) (reference "note" empty)
    b.evaluate none (.ofList [("items", .list [.null, .number (.ofNat 12)])]) = ";12;" ∧
      b.evaluate none (.ofList [("items", .list [.text "", .text "12"]), ("note", .null)]) =
        ";12;" := by decide +kernel

end Body

end Worksheet
