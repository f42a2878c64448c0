import Worksheet.Rendering.Cache
import Worksheet.Rendering.Evaluation
import Worksheet.Settings.Basic
import Worksheet.Value.Description

/-!
A renderer: a depth limit, a budget of loop runs and a cache if one is wanted. The cache is emptied
whenever the depth limit changes, because its trees were accepted under the old one.
-/

namespace Worksheet

structure Renderer where
  depthLimit : Nat := defaultDepthLimit
  budget : Option Nat := none
  cache : Option ParseCache := none
deriving Repr

namespace Renderer

def withDepthLimit (limit : Nat) (r : Renderer) : Renderer :=
  { r with depthLimit := limit, cache := r.cache.map fun _ => {} }

def withBudget (budget : Option Nat) (r : Renderer) : Renderer := { r with budget := budget }

/-- Starts or stops keeping trees. A cache that is wanted already is kept. -/
def withCache (wanted : Bool) (r : Renderer) : Renderer :=
  { r with cache := if wanted then some (r.cache.getD {}) else none }

def ofSettings (s : Settings) : Renderer :=
  (({} : Renderer).withDepthLimit s.maxDepth |>.withBudget s.maxIterations).withCache s.cache

def stats (r : Renderer) : Option CacheStats := r.cache.map ParseCache.stats

/-- The tree of a template, from the cache if there is one. -/
def parse (now : Nat) (template : String) (r : Renderer) :
    Except SyntaxError SharedBody × Renderer :=
  match r.cache with
  | some c =>
    let (result, c) := c.getOrParse now r.depthLimit template
    (result, { r with cache := some c })
  | none => ((Body.parse r.depthLimit template).map (SharedBody.mk now), r)

def evaluate (r : Renderer) (body : Body) (context : Context) : String :=
  body.evaluate r.budget context

def render (now : Nat) (template : String) (context : Context) (r : Renderer) :
    Except SyntaxError String × Renderer :=
  let (result, r) := r.parse now template
  (result.map fun shared => r.evaluate shared.body context, r)

/-! ## What an observer learns -/

def logOfParse (template : String) (r : Renderer) : List LogEntry :=
  match r.cache with
  | some c => c.logOfGet r.depthLimit template
  | none => [tokenizeEntry template]

def logOfEvaluate (r : Renderer) (body : Body) (context : Context) : List LogEntry :=
  (body.steps r.budget context).filterMap Step.logEntry?

def logOfRender (template : String) (context : Context) (r : Renderer) : List LogEntry :=
  let before := ⟨.debug, s!"Rendering template ({template.utf8ByteSize} bytes)"⟩ ::
    (context.describe.map (LogEntry.mk .debug) ++ r.logOfParse template)
  match (r.parse 0 template).1 with
  | .error _ => before
  | .ok shared =>
    let rendered := r.evaluate shared.body context
    before ++ r.logOfEvaluate shared.body context ++
      [⟨.debug, s!"Template rendering complete ({rendered.utf8ByteSize} bytes)"⟩]

/-! ## Histories -/

inductive Request
  | start
  | settings (s : Settings)
  | depthLimit (limit : Nat)
  | budget (budget : Option Nat)
  | cache (wanted : Bool)
  | parse (template : String)
  | render (template : String) (context : Context)
  | evaluate (body : Body) (context : Context)

inductive Answer
  | done
  | tree (result : Except SyntaxError SharedBody)
  | rendered (result : Except SyntaxError String)

/-- Answers a request made at a time. -/
def answer (now : Nat) (r : Renderer) : Request → Answer × Renderer
  | .start => (.done, {})
  | .settings s => (.done, ofSettings s)
  | .depthLimit limit => (.done, r.withDepthLimit limit)
  | .budget budget => (.done, r.withBudget budget)
  | .cache wanted => (.done, r.withCache wanted)
  | .parse template =>
    let (result, r) := r.parse now template
    (.tree result, r)
  | .render template context =>
    let (result, r) := r.render now template context
    (.rendered result, r)
  | .evaluate body context => (.rendered (.ok (r.evaluate body context)), r)

def logOf (r : Renderer) : Request → List LogEntry
  | .parse template => r.logOfParse template
  | .render template context => r.logOfRender template context
  | .evaluate body context => r.logOfEvaluate body context
  | _ => []

/-- The renderer after some requests, the first one made at time `now`. -/
def after (now : Nat) (r : Renderer) : List Request → Renderer
  | [] => r
  | request :: rest => after (now + 1) (r.answer now request).2 rest

end Renderer

end Worksheet
