import Worksheet.Proofs.Template.Body
import Worksheet.Template.Parsing

/-!
The stack of open blocks against well-matched tokens. What a state of the parse has read falls
into stretches that flatten from bodies, one for each open block and one before all of them, with
the openings between the stretches. The tokens of a body are read as that body, and whatever is
accepted is the flattening of the result; so tokens are accepted exactly if they flatten from a
body that is not nested too deeply.
-/

namespace Worksheet

/-- The tokens of a body, at any places. -/
def Body.Flattens (b : Body) (tokens : List Token) : Prop :=
  b.lexemes = tokens.map Token.lexeme

namespace Matching

variable {limit : Nat} {s s' : Matching} {t : Token} {tokens before after : List Token}

/-! ## Runs -/

/-- Takes tokens one after the other until one is refused. -/
def run (limit : Nat) (s : Matching) (tokens : List Token) : Except SyntaxError Matching :=
  tokens.foldlM (feed limit) s

theorem run_nil : run limit s [] = .ok s := rfl

theorem run_cons_of_feed (h : feed limit s t = .ok s') :
    run limit s (t :: tokens) = run limit s' tokens := by
  rw [run, List.foldlM_cons, h]
  rfl

theorem run_cons_of_error {e : SyntaxError} (h : feed limit s t = .error e) :
    run limit s (t :: tokens) = .error e := by
  rw [run, List.foldlM_cons, h]
  rfl

theorem run_append_of_run (h : run limit s before = .ok s') :
    run limit s (before ++ after) = run limit s' after := by
  rw [run] at h
  rw [run, List.foldlM_append, h]
  rfl

theorem run_append_error {e : SyntaxError} (h : run limit s before = .error e) :
    run limit s (before ++ after) = .error e := by
  rw [run] at h
  rw [run, List.foldlM_append, h]
  rfl

/-! ## Single tokens -/

theorem feed_literal {text : String} (h : t.lexeme = .literal text) :
    feed limit s t = .ok { s with current := .literal text s.current } := by
  rw [feed, h]

/-- A literal is never refused, so it is not the last token of a run that stops. -/
theorem run_of_run_concat_literal {text : String} {e : SyntaxError} (ht : t.lexeme = .literal text)
    (h : run limit s (tokens ++ [t]) = .error e) : run limit s tokens = .error e := by
  cases hrun : run limit s tokens with
  | error e' =>
    rw [run_append_error hrun] at h
    exact h
  | ok s' =>
    rw [run_append_of_run hrun, run_cons_of_feed (feed_literal ht), run_nil] at h
    contradiction

theorem feed_reference {name : String} (h : t.lexeme = .marker (.reference name)) :
    feed limit s t = .ok { s with current := .reference name s.current } := by
  rw [feed, h]

theorem feed_opening {kind : BlockKind} {name : String}
    (h : t.lexeme = .marker (.opening kind name))
    (hdepth : s.opened.length < effectiveDepth limit) :
    feed limit s t = .ok ⟨.empty, ⟨kind, name, t.position, s.current⟩ :: s.opened⟩ := by
  simp only [feed, h, if_pos hdepth]

theorem feed_closing {b : OpenBlock} {opened : List OpenBlock} {current : Body}
    (h : t.lexeme = .marker (.closing b.kind)) :
    feed limit ⟨current, b :: opened⟩ t =
      .ok ⟨.block b.kind b.name current.reverse b.before, opened⟩ := by
  simp only [feed, h, if_true]

/-- What one accepted token does to the state. -/
inductive Step (limit : Nat) : Matching → Token → Matching → Prop
  | literal {current opened text position} :
    Step limit ⟨current, opened⟩ ⟨.literal text, position⟩ ⟨.literal text current, opened⟩
  | reference {current opened name position} :
    Step limit ⟨current, opened⟩ ⟨.marker (.reference name), position⟩
      ⟨.reference name current, opened⟩
  | opening {current opened kind name position} :
    opened.length < effectiveDepth limit →
    Step limit ⟨current, opened⟩ ⟨.marker (.opening kind name), position⟩
      ⟨.empty, ⟨kind, name, position, current⟩ :: opened⟩
  | closing {current opened position} {b : OpenBlock} :
    Step limit ⟨current, b :: opened⟩ ⟨.marker (.closing b.kind), position⟩
      ⟨.block b.kind b.name current.reverse b.before, opened⟩

/-- Why one token is refused. -/
inductive Refusal (limit : Nat) : Matching → Token → SyntaxError → Prop
  | tooDeep {s kind name position} : effectiveDepth limit ≤ s.opened.length →
    Refusal limit s ⟨.marker (.opening kind name), position⟩
      (.tooDeep (effectiveDepth limit) position)
  | unmatched {s kind position} : s.opened.head?.map OpenBlock.kind ≠ some kind →
    Refusal limit s ⟨.marker (.closing kind), position⟩
      (.unmatchedClose kind (s.opened.head?.map OpenBlock.kind) position)

/-- A token makes a step or is refused. -/
theorem feed_cases (limit : Nat) (s : Matching) (t : Token) :
    (∃ s', feed limit s t = .ok s' ∧ Step limit s t s') ∨
      ∃ e, feed limit s t = .error e ∧ Refusal limit s t e := by
  obtain ⟨lexeme, position⟩ := t
  obtain ⟨current, opened⟩ := s
  cases lexeme with
  | literal text => exact .inl ⟨_, rfl, .literal⟩
  | marker m =>
    cases m with
    | reference name => exact .inl ⟨_, rfl, .reference⟩
    | opening kind name =>
      by_cases hdepth : opened.length < effectiveDepth limit
      · exact .inl ⟨_, feed_opening rfl hdepth, .opening hdepth⟩
      · refine .inr ⟨_, ?_, .tooDeep (Nat.le_of_not_lt hdepth)⟩
        simp only [feed, if_neg hdepth]
    | closing kind =>
      cases opened with
      | nil => exact .inr ⟨_, rfl, .unmatched (by simp)⟩
      | cons b opened =>
        by_cases hkind : b.kind = kind
        · subst hkind
          exact .inl ⟨_, feed_closing rfl, .closing⟩
        · refine .inr ⟨_, ?_, .unmatched (by simpa using hkind)⟩
          simp only [feed, if_neg hkind]
          rfl

theorem step_of_feed (h : feed limit s t = .ok s') : Step limit s t s' := by
  rcases feed_cases limit s t with ⟨_, h', hstep⟩ | ⟨_, h', _⟩
  · rw [h] at h'
    obtain rfl := Except.ok.inj h'
    exact hstep
  · rw [h] at h'
    contradiction

theorem refusal_of_feed {e : SyntaxError} (h : feed limit s t = .error e) :
    Refusal limit s t e := by
  rcases feed_cases limit s t with ⟨_, h', _⟩ | ⟨_, h', hrefusal⟩
  · rw [h] at h'
    contradiction
  · rw [h] at h'
    obtain rfl := Except.error.inj h'
    exact hrefusal

/-- A run ends, or stops at the first token that is refused. -/
theorem run_cases (limit : Nat) (s : Matching) (tokens : List Token) :
    (∃ s', run limit s tokens = .ok s') ∨
      ∃ before t after s' e, tokens = before ++ t :: after ∧ run limit s before = .ok s' ∧
        Refusal limit s' t e ∧ run limit s (before ++ [t]) = .error e ∧
        run limit s tokens = .error e := by
  induction tokens generalizing s with
  | nil => exact .inl ⟨s, run_nil⟩
  | cons t tokens ih =>
    cases hfeed : feed limit s t with
    | error e =>
      exact .inr ⟨[], t, tokens, s, e, rfl, run_nil, refusal_of_feed hfeed,
        run_cons_of_error hfeed, run_cons_of_error hfeed⟩
    | ok s' =>
      rcases ih s' with ⟨s'', hrun⟩ | ⟨before, u, after, s'', e, rfl, hbefore, hr, hu, hrun⟩
      · exact .inl ⟨s'', (run_cons_of_feed hfeed).trans hrun⟩
      · refine .inr ⟨t :: before, u, after, s'', e, rfl, ?_, hr, ?_, ?_⟩
        · exact (run_cons_of_feed hfeed).trans hbefore
        · exact (run_cons_of_feed hfeed).trans hu
        · exact (run_cons_of_feed hfeed).trans hrun

/-! ## What a state has read -/

/-- The tokens that lead to a state: well-matched ones, and for each open block its opening and
again well-matched ones, nowhere nested deeper than the depth. -/
inductive Reads (depth : Nat) : List Token → Matching → Prop
  | root {tokens current} : current.reverse.Flattens tokens → current.depth ≤ depth →
    Reads depth tokens ⟨current, []⟩
  | nested {outer inner current opened kind name position enclosing} :
    Reads depth outer ⟨enclosing, opened⟩ → current.reverse.Flattens inner →
    opened.length + 1 + current.depth ≤ depth →
    Reads depth (outer ++ ⟨.marker (.opening kind name), position⟩ :: inner)
      ⟨current, ⟨kind, name, position, enclosing⟩ :: opened⟩

theorem reads_start (depth : Nat) : Reads depth [] {} := .root rfl (Nat.zero_le depth)

theorem Reads.depth_le {depth : Nat} (h : Reads depth tokens s) :
    s.opened.length + s.current.depth ≤ depth := by
  cases h with
  | root _ hdepth => simpa using hdepth
  | nested _ _ hdepth => exact hdepth

/-- More well-matched tokens extend the innermost stretch. -/
theorem Reads.push {depth : Nat} {current current' : Body} {opened : List OpenBlock}
    {new : List Token} (h : Reads depth tokens ⟨current, opened⟩)
    (hlex : current'.reverse.lexemes = current.reverse.lexemes ++ new.map Token.lexeme)
    (hdepth : opened.length + current'.depth ≤ depth) :
    Reads depth (tokens ++ new) ⟨current', opened⟩ := by
  have hflat : ∀ inner, current.reverse.Flattens inner →
      current'.reverse.Flattens (inner ++ new) := by
    intro inner hinner
    rw [Body.Flattens, hlex, hinner, List.map_append]
  cases h with
  | root hf _ => exact .root (hflat _ hf) (by simpa using hdepth)
  | nested houter hf _ =>
    rw [List.append_assoc, List.cons_append]
    exact .nested houter (hflat _ hf) hdepth

theorem Reads.step (h : Reads (effectiveDepth limit) tokens s) (hs : Step limit s t s') :
    Reads (effectiveDepth limit) (tokens ++ [t]) s' := by
  have hle := h.depth_le
  cases hs with
  | literal => exact h.push (Body.lexemes_reverse_literal _ _) hle
  | reference => exact h.push (Body.lexemes_reverse_reference _ _) hle
  | opening hdepth => exact .nested h rfl hdepth
  | closing =>
    cases h with
    | nested houter hf hdepth =>
      have hle' := houter.depth_le
      rw [List.append_assoc, List.cons_append]
      apply houter.push
      · rw [Body.lexemes_reverse_block, hf]
        simp
      · simp only [Body.depth, Body.depth_reverse] at hle' ⊢
        omega

theorem Reads.run (h : Reads (effectiveDepth limit) before s) (hrun : run limit s tokens = .ok s') :
    Reads (effectiveDepth limit) (before ++ tokens) s' := by
  induction tokens generalizing before s with
  | nil =>
    obtain rfl := Except.ok.inj hrun
    rwa [List.append_nil]
  | cons t tokens ih =>
    cases hfeed : feed limit s t with
    | error e =>
      rw [run_cons_of_error hfeed] at hrun
      contradiction
    | ok s'' =>
      rw [run_cons_of_feed hfeed] at hrun
      have hnext := ih (h.step (step_of_feed hfeed)) hrun
      rwa [List.append_assoc] at hnext

/-! ## The tokens of a body -/

/-- The tokens of a body are read as that body, whatever was read before. -/
theorem run_of_flattens {b : Body} (h : b.Flattens tokens)
    (hdepth : s.opened.length + b.depth ≤ effectiveDepth limit) :
    run limit s tokens = .ok { s with current := b.reverseOnto s.current } := by
  induction b generalizing s tokens with
  | empty =>
    obtain rfl := List.map_eq_nil_iff.mp h.symm
    exact run_nil
  | literal text rest ih =>
    obtain ⟨t, tokens, rfl, ht, hrest⟩ := List.map_eq_cons_iff.mp h.symm
    exact (run_cons_of_feed (feed_literal ht)).trans (ih hrest.symm hdepth)
  | reference name rest ih =>
    obtain ⟨t, tokens, rfl, ht, hrest⟩ := List.map_eq_cons_iff.mp h.symm
    exact (run_cons_of_feed (feed_reference ht)).trans (ih hrest.symm hdepth)
  | block kind name inner rest ih ih' =>
    obtain ⟨t, tokens, rfl, ht, hrest⟩ := List.map_eq_cons_iff.mp h.symm
    obtain ⟨first, tokens, rfl, hinner, hrest⟩ := List.map_eq_append_iff.mp hrest
    obtain ⟨u, last, rfl, hu, hrest⟩ := List.map_eq_cons_iff.mp hrest
    simp only [Body.depth] at hdepth
    -- inside the block the stack is higher by one, as the inner body is deeper by one
    rw [run_cons_of_feed (feed_opening ht (by omega)),
      run_append_of_run (ih hinner.symm (by simp only [List.length_cons]; omega)),
      run_cons_of_feed (feed_closing (b := ⟨kind, name, t.position, s.current⟩) hu),
      ih' hrest.symm (by simp only; omega)]
    congr 2
    change rest.reverseOnto (.block kind name inner.reverse.reverse s.current) = _
    rw [Body.reverse_reverse]
    rfl

theorem finish_eq_ok_iff {b : Body} :
    s.finish = .ok b ↔ s.opened = [] ∧ s.current.reverse = b := by
  obtain ⟨current, opened⟩ := s
  cases opened <;> simp [finish]

end Matching

namespace Body

open Matching

variable {limit : Nat} {tokens : List Token} {b : Body}

theorem ofTokens_of_run {s : Matching} (h : run limit {} tokens = .ok s) :
    ofTokens limit tokens = s.finish := by
  rw [run] at h
  rw [ofTokens, h]
  rfl

theorem ofTokens_of_run_error {e : SyntaxError} (h : run limit {} tokens = .error e) :
    ofTokens limit tokens = .error e := by
  rw [run] at h
  rw [ofTokens, h]
  rfl

/-- Tokens are accepted with the body they flatten from if it keeps to the depth. -/
theorem ofTokens_eq_ok_iff :
    ofTokens limit tokens = .ok b ↔ b.Flattens tokens ∧ b.depth ≤ effectiveDepth limit := by
  constructor
  · intro h
    cases hrun : run limit {} tokens with
    | error e =>
      rw [ofTokens_of_run_error hrun] at h
      contradiction
    | ok s =>
      rw [ofTokens_of_run hrun, finish_eq_ok_iff] at h
      obtain ⟨hnone, rfl⟩ := h
      have hreads := (reads_start (effectiveDepth limit)).run hrun
      cases hreads with
      | root hf hdepth => exact ⟨hf, by rwa [depth_reverse]⟩
      | nested => contradiction
  · rintro ⟨hf, hdepth⟩
    have hrun := run_of_flattens (s := {}) hf (by simpa using hdepth)
    rw [ofTokens_of_run hrun, finish_eq_ok_iff]
    exact ⟨rfl, reverse_reverse b⟩

/-- Tokens are accepted exactly if they flatten from a body of the permitted depth. The result is
that body, and no other body flattens to the tokens. -/
theorem ofTokens_accepts_exactly (limit : Nat) (tokens : List Token) :
    (∀ b, ofTokens limit tokens = .ok b ↔
      b.lexemes = tokens.map Token.lexeme ∧ b.depth ≤ min limit 1024) ∧
    ((∃ b, ofTokens limit tokens = .ok b) ↔
      ∃ b : Body, b.lexemes = tokens.map Token.lexeme ∧ b.depth ≤ min limit 1024) ∧
    ∀ b c : Body, b.lexemes = tokens.map Token.lexeme → c.lexemes = tokens.map Token.lexeme →
      b = c :=
  ⟨fun _ => ofTokens_eq_ok_iff, exists_congr fun _ => ofTokens_eq_ok_iff,
    fun _ _ hb hc => lexemes_injective (hb.trans hc.symm)⟩

end Body

end Worksheet
