import Worksheet.Proofs.Template.Depth
import Worksheet.Rendering.Renderer

/-!
A renderer after any history of requests. Every tree that its cache keeps is the one that parsing
gives under the limit that is in force, because a request that changes the limit empties the cache.
So the cache never shows: parsing and rendering answer as if there were none, under the limit and
the budget that were asked for last.
-/

namespace Worksheet

/-- Whether every kept tree is what its template is parsed to under the limit. -/
def ParseCache.Sound (limit : Nat) (c : ParseCache) : Prop :=
  ∀ template shared, c.entries.get? template = some shared →
    Body.parse limit template = .ok shared.body

namespace ParseCache

variable {limit : Nat} {c : ParseCache}

theorem sound_empty (limit : Nat) : Sound limit {} := by
  intro template shared h
  rw [Dictionary.get?_empty] at h
  contradiction

/-- What a use of the cache gives, and what it leaves. -/
theorem getOrParse_cases (now limit : Nat) (template : String) (c : ParseCache) :
    (∃ shared, c.entries.get? template = some shared ∧
      c.getOrParse now limit template = (.ok shared, { c with hits := c.hits + 1 })) ∨
    (∃ e, c.entries.get? template = none ∧ Body.parse limit template = .error e ∧
      c.getOrParse now limit template = (.error e, { c with misses := c.misses + 1 })) ∨
    ∃ body, c.entries.get? template = none ∧ Body.parse limit template = .ok body ∧
      c.getOrParse now limit template = (.ok ⟨now, body⟩,
        { c with misses := c.misses + 1, entries := c.entries.insert template ⟨now, body⟩ }) := by
  cases hget : c.entries.get? template with
  | some shared =>
    refine .inl ⟨shared, rfl, ?_⟩
    simp only [getOrParse, hget]
  | none =>
    cases hparse : Body.parse limit template with
    | error e =>
      refine .inr (.inl ⟨e, rfl, rfl, ?_⟩)
      simp only [getOrParse, hget, hparse]
    | ok body =>
      refine .inr (.inr ⟨body, rfl, rfl, ?_⟩)
      simp only [getOrParse, hget, hparse]

theorem Sound.map_getOrParse (h : c.Sound limit) (now : Nat) (template : String) :
    (c.getOrParse now limit template).1.map SharedBody.body = Body.parse limit template := by
  rcases getOrParse_cases now limit template c with
    ⟨shared, hget, he⟩ | ⟨e, _, hparse, he⟩ | ⟨body, _, hparse, he⟩
  · rw [he, h template shared hget]
    rfl
  · rw [he, hparse]
    rfl
  · rw [he, hparse]
    rfl

/-- A use keeps a cache sound, also under another limit if that one permits no more. -/
theorem Sound.getOrParse {limit' : Nat} (h : c.Sound limit)
    (hle : effectiveDepth limit' ≤ effectiveDepth limit) (now : Nat) (template : String) :
    (c.getOrParse now limit' template).2.Sound limit := by
  rcases getOrParse_cases now limit' template c with
    ⟨shared, _, he⟩ | ⟨e, _, _, he⟩ | ⟨body, _, hparse, he⟩
  · rw [he]
    exact h
  · rw [he]
    exact h
  · rw [he]
    intro other kept hget
    rw [Dictionary.get?_insert] at hget
    split at hget
    · next heq =>
      obtain rfl := Option.some.inj hget
      rw [heq]
      exact Body.parse_eq_ok_mono hle hparse
    · exact h other kept hget

end ParseCache

namespace Renderer

variable {r : Renderer}

def Sound (r : Renderer) : Prop := ∀ c, r.cache = some c → c.Sound r.depthLimit

theorem sound_start : Sound {} := by
  intro c h
  contradiction

theorem sound_withDepthLimit (limit : Nat) (r : Renderer) : (r.withDepthLimit limit).Sound := by
  intro c h
  obtain ⟨_, _, rfl⟩ := Option.map_eq_some_iff.mp h
  exact ParseCache.sound_empty limit

theorem Sound.withBudget (h : r.Sound) (budget : Option Nat) : (r.withBudget budget).Sound := h

theorem Sound.withCache (h : r.Sound) (wanted : Bool) : (r.withCache wanted).Sound := by
  intro c hc
  cases wanted with
  | false => contradiction
  | true =>
    obtain rfl := Option.some.inj hc
    cases hcache : r.cache with
    | none => exact ParseCache.sound_empty r.depthLimit
    | some c => exact h c hcache

theorem sound_ofSettings (s : Settings) : (ofSettings s).Sound :=
  ((sound_withDepthLimit s.maxDepth {}).withBudget s.maxIterations).withCache s.cache

theorem Sound.parse (h : r.Sound) (now : Nat) (template : String) :
    (r.parse now template).2.Sound := by
  rw [Renderer.parse]
  split
  · next c hcache =>
    intro c' hc'
    obtain rfl := Option.some.inj hc'
    exact (h c hcache).getOrParse (Nat.le_refl _) now template
  · exact h

/-- Every request keeps the renderer sound, a failing one too. -/
theorem Sound.answer (h : r.Sound) (now : Nat) (request : Request) :
    (r.answer now request).2.Sound := by
  cases request with
  | start => exact sound_start
  | settings s => exact sound_ofSettings s
  | depthLimit limit => exact sound_withDepthLimit limit r
  | budget budget => exact h.withBudget budget
  | cache wanted => exact h.withCache wanted
  | parse template => exact h.parse now template
  | render template context => exact h.parse now template
  | evaluate body context => exact h

theorem Sound.after (h : r.Sound) (now : Nat) (requests : List Request) :
    (r.after now requests).Sound := by
  induction requests generalizing now r with
  | nil => exact h
  | cons request rest ih => exact ih (h.answer now request) (now + 1)

/-! ## What is in force -/

structure Bounds where
  depthLimit : Nat := defaultDepthLimit
  budget : Option Nat := none

/-- What a request puts in force. -/
def Bounds.change (b : Bounds) : Request → Bounds
  | .start => {}
  | .settings s => ⟨s.maxDepth, s.maxIterations⟩
  | .depthLimit limit => { b with depthLimit := limit }
  | .budget budget => { b with budget := budget }
  | _ => b

/-- What is in force after some requests to a new renderer. -/
def Bounds.after (requests : List Request) : Bounds := requests.foldl change {}

def bounds (r : Renderer) : Bounds := ⟨r.depthLimit, r.budget⟩

theorem bounds_parse (now : Nat) (template : String) (r : Renderer) :
    (r.parse now template).2.bounds = r.bounds := by
  rw [parse]
  split <;> rfl

theorem bounds_answer (now : Nat) (r : Renderer) (request : Request) :
    (r.answer now request).2.bounds = r.bounds.change request := by
  cases request with
  | parse template => exact bounds_parse now template r
  | render template context => exact bounds_parse now template r
  | start | settings | depthLimit | budget | cache | evaluate => rfl

theorem bounds_after (now : Nat) (r : Renderer) (requests : List Request) :
    (r.after now requests).bounds = requests.foldl Bounds.change r.bounds := by
  induction requests generalizing now r with
  | nil => rfl
  | cons request rest ih => rw [after, ih, bounds_answer, List.foldl_cons]

/-! ## Answers -/

theorem Sound.map_parse (h : r.Sound) (now : Nat) (template : String) :
    (r.parse now template).1.map SharedBody.body = Body.parse r.depthLimit template := by
  rw [Renderer.parse]
  split
  · next c hcache => exact (h c hcache).map_getOrParse now template
  · cases Body.parse r.depthLimit template <;> rfl

theorem Sound.render_eq (h : r.Sound) (now : Nat) (template : String) (context : Context) :
    (r.render now template context).1 =
      (Body.parse r.depthLimit template).map fun b => b.evaluate r.budget context := by
  have hbudget : (r.parse now template).2.budget = r.budget :=
    congrArg Bounds.budget (bounds_parse now template r)
  rw [← h.map_parse now template, Renderer.render]
  simp only [Renderer.evaluate, hbudget]
  cases (r.parse now template).1 <;> rfl

/-- After any requests to a new renderer, it parses and renders as without a cache, under the limit
and the budget that are in force. -/
theorem answers_as_uncached (start now : Nat) (requests : List Request) (template : String)
    (context : Context) :
    (after start {} requests).bounds = Bounds.after requests ∧
    ((after start {} requests).parse now template).1.map SharedBody.body =
      Body.parse (Bounds.after requests).depthLimit template ∧
    ((after start {} requests).render now template context).1 =
      (Body.parse (Bounds.after requests).depthLimit template).map fun b =>
        b.evaluate (Bounds.after requests).budget context := by
  have hsound := sound_start.after start requests
  have hbounds : (after start {} requests).bounds = Bounds.after requests :=
    bounds_after start {} requests
  have hlimit : (after start {} requests).depthLimit = (Bounds.after requests).depthLimit :=
    congrArg Bounds.depthLimit hbounds
  have hbudget : (after start {} requests).budget = (Bounds.after requests).budget :=
    congrArg Bounds.budget hbounds
  rw [← hlimit, ← hbudget]
  exact ⟨hbounds, hsound.map_parse now template, hsound.render_eq now template context⟩

end Renderer

end Worksheet
