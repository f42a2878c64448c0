import Worksheet.Proofs.Rendering.Stretch

/-!
The budget of loop runs against the free evaluation. As long as the budget lasts, an evaluation
under a budget makes the steps of the free one. At the first round for which there is no room it
announces the end, once, and from there on it enters no round. So the rounds that are run are the
first ones of the free evaluation, as many as the budget permits.
-/

namespace Worksheet

open Stretch

/-- The frames of the rounds that some steps enter. -/
def frames (steps : List Step) : List Frame :=
  steps.filterMap fun
    | .entered frame => some frame
    | _ => none

theorem frames_append (steps more : List Step) :
    frames (steps ++ more) = frames steps ++ frames more := List.filterMap_append

theorem Step.warnings_append (steps more : List Step) :
    Step.warnings (steps ++ more) = Step.warnings steps ++ Step.warnings more := by
  rw [warnings, List.filterMap_append, List.filter_append]
  rfl

def exhaustion (budget : Nat) : LogEntry :=
  ⟨.warn, s!"Iteration budget of {budget} exhausted; remaining loop iterations skipped"⟩

/-- Neither a round nor a warning. -/
def Idle (steps : List Step) : Prop := frames steps = [] ∧ Step.warnings steps = []

theorem idle_nil : Idle [] := ⟨rfl, rfl⟩

theorem Idle.append {steps more : List Step} (h : Idle steps) (h' : Idle more) :
    Idle (steps ++ more) := by
  rw [Idle, frames_append, Step.warnings_append, h.1, h.2, h'.1, h'.2]
  exact idle_nil

theorem idle_of_isPlain {steps : List Step} (h : ∀ s ∈ steps, s.isPlain = true) : Idle steps := by
  induction steps with
  | nil => exact idle_nil
  | cons s rest ih =>
    obtain ⟨hs, hrest⟩ := List.forall_mem_cons.mp h
    have hfirst : Idle [s] := by
      cases s with
      | wrote | notAList => exact ⟨rfl, rfl⟩
      | entered | exhausted => contradiction
    exact hfirst.append (ih hrest)

section

variable {before tail : List Step}

theorem frames_append_entered (before after : List Step) (frame : Frame) :
    frames (before ++ .entered frame :: after) = frames before ++ frame :: frames after :=
  frames_append before (.entered frame :: after)

theorem frames_append_exhausted (budget : Nat) (h : Idle tail) :
    frames (before ++ .exhausted budget :: tail) = frames before := by
  have htail : frames (.exhausted budget :: tail) = [] := h.1
  rw [frames_append, htail, List.append_nil]

theorem warnings_append_exhausted (budget : Nat) (hbefore : Step.warnings before = [])
    (h : Idle tail) :
    Step.warnings (before ++ .exhausted budget :: tail) = [exhaustion budget] := by
  have htail : Step.warnings (.exhausted budget :: tail) = [exhaustion budget] :=
    congrArg (exhaustion budget :: ·) h.2
  rw [Step.warnings_append, hbefore, htail, List.nil_append]

end

namespace Meter

/-- The meters that an evaluation under a budget can reach. -/
def Reachable (budget : Nat) (m : Meter) : Prop :=
  (m.announced = false ∧ m.spent ≤ budget) ∨ m = ⟨budget, true⟩

end Meter

/-- How an evaluation under a budget goes where the free one makes the given steps: from a meter to
its own steps and the meter after them. The budget may suffice, it may end before the round of some
frame, or its end may have been announced already. -/
inductive Cut (budget : Nat) : Meter → List Step → List Step → Meter → Prop
  | within {spent steps} : spent + (frames steps).length ≤ budget → Step.warnings steps = [] →
    Cut budget ⟨spent, false⟩ steps steps ⟨spent + (frames steps).length, false⟩
  | ending {spent before frame after tail} : spent + (frames before).length = budget →
    Step.warnings before = [] → Idle tail →
    Cut budget ⟨spent, false⟩ (before ++ .entered frame :: after)
      (before ++ .exhausted budget :: tail) ⟨budget, true⟩
  | past {steps tail} : Idle tail → Cut budget ⟨budget, true⟩ steps tail ⟨budget, true⟩

namespace Cut

variable {budget : Nat} {m m' m'' : Meter} {steps steps' made made' : List Step}

theorem reachable (h : Cut budget m steps made m') : m'.Reachable budget := by
  cases h with
  | within hspent _ => exact .inl ⟨rfl, hspent⟩
  | ending => exact .inr rfl
  | past => exact .inr rfl

theorem append (h : Cut budget m steps made m') (h' : Cut budget m' steps' made' m'') :
    Cut budget m (steps ++ steps') (made ++ made') m'' := by
  -- the meter between the two tells which cases can follow each other
  cases h with
  | within hspent hquiet =>
    cases h' with
    | within hspent' hquiet' =>
      rw [Nat.add_assoc, ← List.length_append, ← frames_append] at hspent' ⊢
      refine .within hspent' ?_
      rw [Step.warnings_append, hquiet, hquiet']
      rfl
    | ending hspent' hquiet' htail =>
      rw [← List.append_assoc, ← List.append_assoc]
      refine .ending ?_ ?_ htail
      · rw [frames_append, List.length_append, ← Nat.add_assoc, hspent']
      · rw [Step.warnings_append, hquiet, hquiet']
        rfl
  | ending hspent hquiet htail =>
    cases h' with
    | past htail' =>
      rw [List.append_assoc, List.append_assoc]
      exact .ending hspent hquiet (htail.append htail')
  | past htail =>
    cases h' with
    | past htail' => exact .past (htail.append htail')

/-- Steps outside of loops are made under every budget. -/
theorem of_idle (hm : m.Reachable budget) (h : Idle steps) : Cut budget m steps steps m := by
  obtain ⟨spent, announced⟩ := m
  rcases hm with ⟨hannounced, hspent⟩ | hm
  · obtain rfl : announced = false := hannounced
    have hcut : Cut budget ⟨spent, false⟩ steps steps ⟨spent + (frames steps).length, false⟩ := by
      refine .within ?_ h.2
      rw [h.1]
      exact hspent
    rw [h.1] at hcut
    exact hcut
  · rw [hm]
    exact .past h

/-- A round for which there is room. -/
theorem of_room (frame : Frame) (hm : m.Reachable budget) (h : m.hasRoom (some budget) = true) :
    Cut budget m [.entered frame] [.entered frame] m.spend := by
  obtain ⟨spent, announced⟩ := m
  have hroom : spent < budget := by simpa [Meter.hasRoom] using h
  rcases hm with ⟨hannounced, _⟩ | hm
  · obtain rfl : announced = false := hannounced
    exact .within hroom rfl
  · obtain ⟨rfl, _⟩ := Meter.mk.inj hm
    exact absurd hroom (Nat.lt_irrefl _)

/-- A round without room is announced if none was before. -/
theorem of_full (frame : Frame) (hm : m.Reachable budget) (h : m.hasRoom (some budget) = false) :
    Cut budget m (.entered frame :: steps) (m.announce (some budget)) m.close := by
  obtain ⟨spent, announced⟩ := m
  rcases hm with ⟨hannounced, hspent⟩ | hm
  · obtain rfl : announced = false := hannounced
    have hfull : budget ≤ spent := by simpa [Meter.hasRoom] using h
    obtain rfl : spent = budget := Nat.le_antisymm hspent hfull
    have hcut : Cut spent ⟨spent, false⟩ ([] ++ .entered frame :: steps)
        ([] ++ .exhausted spent :: []) ⟨spent, true⟩ := .ending (Nat.add_zero spent) rfl idle_nil
    exact hcut
  · obtain ⟨rfl, rfl⟩ := Meter.mk.inj hm
    exact .past idle_nil

end Cut

/-- Whether one stretch does under a budget what another does freely. The free one may start from
any meter. -/
def Stretch.Limits (budget : Nat) (limited free : Stretch) : Prop :=
  ∀ m, m.Reachable budget → ∀ start, Cut budget m (free start).1 (limited m).1 (limited m).2

namespace Stretch

variable {budget : Nat}

theorem limits_emit {steps : List Step} (h : Idle steps) :
    Limits budget (emit steps) (emit steps) :=
  fun _ hm _ => .of_idle hm h

theorem Limits.andThen {limited limited' free free' : Stretch} (h : Limits budget limited free)
    (h' : Limits budget limited' free') :
    Limits budget (limited.andThen limited') (free.andThen free') := by
  intro m hm start
  have hfirst := h m hm start
  exact hfirst.append (h' _ hfirst.reachable _)

theorem limits_runLoop {limited free : Frame → Stretch}
    (h : ∀ frame, Limits budget (limited frame) (free frame)) (index : Nat) (items : List Value) :
    Limits budget (runLoop (some budget) limited index items) (runLoop none free index items) := by
  induction items generalizing index with
  | nil => exact limits_emit idle_nil
  | cons item items ih =>
    intro m hm start
    rw [runLoop_cons_free]
    cases hroom : m.hasRoom (some budget) with
    | false =>
      -- all rounds from here on are left out, whatever the free loop does in them
      rw [runLoop_cons_of_full hroom]
      exact .of_full _ hm hroom
    | true =>
      rw [runLoop_cons_of_room hroom]
      have henter : Cut budget m (enter ⟨item, index⟩ start).1 (enter ⟨item, index⟩ m).1
          (enter ⟨item, index⟩ m).2 := .of_room ⟨item, index⟩ hm hroom
      have hround := henter.append (h ⟨item, index⟩ _ henter.reachable start.spend)
      exact hround.append (ih (index + 1) _ hround.reachable _)

end Stretch

namespace Body

theorem limits_run (budget : Nat) (b : Body) (context : Context) (scope : List Frame) :
    Limits budget (b.run (some budget) context scope) (b.run none context scope) :=
  run_rel (fun _ h => limits_emit (idle_of_isPlain h)) Limits.andThen limits_runLoop b context scope

theorem cut_steps (budget : Nat) (context : Context) (b : Body) :
    ∃ m, Cut budget {} (b.steps none context) (b.steps (some budget) context) m :=
  ⟨_, limits_run budget b context [] {} (.inl ⟨rfl, Nat.zero_le _⟩) {}⟩

/-- A budget is spent exactly and in order. The rounds under it are the first ones of the free
evaluation, it is announced once if there are more, and up to the first round that is left out the
two evaluations make the same steps. -/
theorem budget_spent_in_order (n : Nat) (context : Context) (b : Body) :
    b.executed (some n) context = (b.executed none context).take n ∧
    (b.executed (some n) context).length = min n (b.executed none context).length ∧
    b.warnings (some n) context =
      (if n < (b.executed none context).length then [exhaustion n] else []) ∧
    ((b.executed none context).length ≤ n →
      b.steps (some n) context = b.steps none context ∧
        b.evaluate (some n) context = b.evaluate none context) ∧
    (n < (b.executed none context).length →
      ∃ before frame after tail, b.steps none context = before ++ .entered frame :: after ∧
        b.steps (some n) context = before ++ .exhausted n :: tail ∧ frames tail = []) := by
  obtain ⟨m, hcut⟩ := cut_steps n context b
  have hfree : b.executed none context = frames (b.steps none context) := rfl
  have hmade : b.executed (some n) context = frames (b.steps (some n) context) := rfl
  rw [hfree, hmade, warnings, evaluate, evaluate]
  generalize b.steps none context = free at hcut
  generalize b.steps (some n) context = made at hcut
  cases hcut with
  | within hspent hquiet =>
    rw [Nat.zero_add] at hspent
    refine ⟨?_, ?_, ?_, ?_, ?_⟩
    · rw [List.take_of_length_le hspent]
    · rw [Nat.min_eq_right hspent]
    · rw [hquiet, if_neg (Nat.not_lt.mpr hspent)]
    · intro _
      exact ⟨rfl, rfl⟩
    · intro hlt
      exact absurd hspent (Nat.not_le.mpr hlt)
  | @ending _ before frame after tail hspent hquiet htail =>
    rw [Nat.zero_add] at hspent
    have hmore : n < (frames (before ++ .entered frame :: after)).length := by
      rw [frames_append_entered, List.length_append, List.length_cons]
      omega
    refine ⟨?_, ?_, ?_, ?_, ?_⟩
    · rw [frames_append_exhausted n htail, frames_append_entered, List.take_left' hspent]
    · rw [frames_append_exhausted n htail, Nat.min_eq_left (Nat.le_of_lt hmore), hspent]
    · rw [if_pos hmore, warnings_append_exhausted n hquiet htail]
    · intro hle
      exact absurd hmore (Nat.not_lt.mpr hle)
    · intro _
      exact ⟨before, frame, after, tail, rfl, rfl, htail.1⟩

/-- The second of two loops ends after its first round. -/
example :
    (block .iteration "items" (reference "this" empty)
        (literal "|" (block .iteration "items" (reference "this" empty) empty))).evaluate (some 3)
      (.ofList [("items", .list [.text "a", .text "b"])]) = "ab|a" := rfl

end Body

end Worksheet
