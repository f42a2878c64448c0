import Worksheet.Proofs.Template.RoundTrip

/-!
Parsing under two limits. As long as the lower limit refuses nothing for its depth, a parse under it
takes the same steps as one under the higher limit. So a higher limit only replaces errors about
depth, and where it still finds one, the lower limit has found one before or at the same marker.
-/

namespace Worksheet

theorem effectiveDepth_mono {a b : Nat} (h : a ≤ b) : effectiveDepth a ≤ effectiveDepth b := by
  unfold effectiveDepth
  omega

theorem effectiveDepth_of_le {limit : Nat} (h : depthCeiling ≤ limit) :
    effectiveDepth limit = depthCeiling :=
  Nat.min_eq_right h

/-- No limit permits more than the ceiling. -/
theorem effectiveDepth_le_ceiling (limit : Nat) :
    effectiveDepth limit ≤ effectiveDepth depthCeiling := by
  rw [effectiveDepth_of_le (Nat.le_refl depthCeiling)]
  exact Nat.min_le_right limit depthCeiling

namespace Matching

variable {a b limit : Nat} {s : Matching} {tokens : List Token}

/-- One token is taken alike under both limits, or it is too deep for the lower one. -/
theorem feed_eq_or_tooDeep (h : a ≤ b) (s : Matching) (t : Token) :
    feed a s t = feed b s t ∨
      feed a s t = .error (.tooDeep (effectiveDepth a) t.position) := by
  have hle := effectiveDepth_mono h
  obtain ⟨lexeme, position⟩ := t
  cases lexeme with
  | literal text => exact .inl rfl
  | marker m =>
    cases m with
    | reference name => exact .inl rfl
    | closing kind => exact .inl rfl
    | opening kind name =>
      by_cases hdepth : s.opened.length < effectiveDepth a
      · left
        rw [feed_opening rfl hdepth, feed_opening rfl (Nat.lt_of_lt_of_le hdepth hle)]
      · right
        simp only [feed, if_neg hdepth]

/-- Tokens are taken alike under both limits, or one of them is too deep for the lower one and the
higher one takes all before it. -/
theorem run_eq_or_tooDeep (h : a ≤ b) (s : Matching) (tokens : List Token) :
    run a s tokens = run b s tokens ∨
      ∃ before t after s', tokens = before ++ t :: after ∧ run b s before = .ok s' ∧
        run a s tokens = .error (.tooDeep (effectiveDepth a) t.position) := by
  induction tokens generalizing s with
  | nil => exact .inl rfl
  | cons t tokens ih =>
    rcases feed_eq_or_tooDeep h s t with heq | hdeep
    · cases hfeed : feed b s t with
      | error e =>
        left
        rw [run_cons_of_error (heq.trans hfeed), run_cons_of_error hfeed]
      | ok s' =>
        rw [run_cons_of_feed (heq.trans hfeed), run_cons_of_feed hfeed]
        rcases ih s' with hrun | ⟨before, u, after, s'', rfl, hbefore, hrun⟩
        · exact .inl hrun
        · refine .inr ⟨t :: before, u, after, s'', rfl, ?_, hrun⟩
          exact (run_cons_of_feed hfeed).trans hbefore
    · exact .inr ⟨[], t, tokens, s, rfl, run_nil, run_cons_of_error hdeep⟩

/-- An error in the midst of the tokens is the refusal of one of them. -/
theorem refusal_of_run_error {e : SyntaxError} (h : run limit s tokens = .error e) :
    ∃ s' t, t ∈ tokens ∧ Refusal limit s' t e := by
  rcases run_cases limit s tokens with ⟨s', hrun⟩ | ⟨before, t, after, s', e', rfl, -, hr, -, hrun⟩
  · rw [h] at hrun
    contradiction
  · rw [h] at hrun
    obtain rfl := Except.error.inj hrun
    exact ⟨s', t, by simp, hr⟩

/-- The limit has no other part in a parse than the depth that it permits. -/
theorem feed_congr (h : effectiveDepth a = effectiveDepth b) : feed a = feed b := by
  funext s t
  simp only [feed, h]

end Matching

namespace Body

open Matching

variable {a b limit : Nat} {tokens : List Token} {template : String}

/-- Only that a block is left open is found at the end. -/
theorem run_of_ofTokens_error {e : SyntaxError} (h : ofTokens limit tokens = .error e)
    (he : ∀ kind name p, e ≠ .unclosedBlock kind name p) : run limit {} tokens = .error e := by
  cases hrun : run limit {} tokens with
  | error e' =>
    rw [ofTokens_of_run_error hrun] at h
    exact congrArg Except.error (Except.error.inj h)
  | ok s =>
    rw [ofTokens_of_run hrun, finish] at h
    split at h
    · contradiction
    · exact absurd (Except.error.inj h).symm (he _ _ _)

theorem run_of_ofTokens_tooDeep {l : Nat} {p : Position}
    (h : ofTokens limit tokens = .error (.tooDeep l p)) :
    run limit {} tokens = .error (.tooDeep l p) :=
  run_of_ofTokens_error h (by simp)

/-- An error about depth says which depth the limit permits. -/
theorem eq_effectiveDepth_of_parse {l : Nat} {p : Position}
    (h : parse limit template = .error (.tooDeep l p)) : l = effectiveDepth limit := by
  obtain ⟨s, t, -, hr⟩ := refusal_of_run_error (run_of_ofTokens_tooDeep h)
  cases hr
  rfl

/-- A template is parsed alike under both limits, or it is too deep for the lower one, not after the
place where it is too deep for the higher one. -/
theorem parse_eq_or_tooDeep (h : a ≤ b) (template : String) :
    parse a template = parse b template ∨
      ∃ p, parse a template = .error (.tooDeep (effectiveDepth a) p) ∧
        ∀ l q, parse b template = .error (.tooDeep l q) → p.offset ≤ q.offset := by
  rcases run_eq_or_tooDeep h {} (tokenize template) with
    heq | ⟨before, t, after, s, hsplit, hbefore, hdeep⟩
  · left
    change run a {} (tokenize template) >>= finish = run b {} (tokenize template) >>= finish
    rw [heq]
  · refine .inr ⟨t.position, ofTokens_of_run_error hdeep, ?_⟩
    intro l q hq
    -- the higher limit takes all before the token, so its error is at the token or later
    have hrun := run_of_ofTokens_tooDeep hq
    rw [hsplit, run_append_of_run hbefore] at hrun
    obtain ⟨s', u, hu, hr⟩ := refusal_of_run_error hrun
    cases hr
    have hsorted := pairwise_tokenize template
    rw [hsplit] at hsorted
    have hlater := (List.pairwise_cons.mp (List.pairwise_append.mp hsorted).2.1).1
    rcases List.mem_cons.mp hu with rfl | hu
    · exact Nat.le_refl _
    · exact Nat.le_of_lt (hlater _ hu)

theorem parse_eq_ok_mono {body : Body} (h : effectiveDepth a ≤ effectiveDepth b)
    (hparse : parse a template = .ok body) : parse b template = .ok body := by
  obtain ⟨hprint, hcanonical, hdepth⟩ := parse_eq_ok_iff.mp hparse
  exact parse_eq_ok_iff.mpr ⟨hprint, hcanonical, Nat.le_trans hdepth h⟩

theorem parse_congr (h : effectiveDepth a = effectiveDepth b) (template : String) :
    parse a template = parse b template := by
  rw [parse, parse, ofTokens, ofTokens, feed_congr h]

/-- An answer under the lower limit that is not about depth is also the answer under the higher
one. -/
theorem parse_eq_of_not_tooDeep (h : a ≤ b) {result : Except SyntaxError Body}
    (hparse : parse a template = result) (hresult : ∀ l p, result ≠ .error (.tooDeep l p)) :
    parse b template = result := by
  rcases parse_eq_or_tooDeep h template with heq | ⟨p, hdeep, -⟩
  · rw [← heq, hparse]
  · exact absurd (hparse.symm.trans hdeep) (hresult _ _)

/-- What becomes of a template when the limit is raised. -/
structure Relaxes (a b : Nat) (template : String) : Prop where
  accepted : ∀ body, parse a template = .ok body → parse b template = .ok body
  unmatched : ∀ kind enclosing p, parse a template = .error (.unmatchedClose kind enclosing p) →
    parse b template = .error (.unmatchedClose kind enclosing p)
  unclosed : ∀ kind name p, parse a template = .error (.unclosedBlock kind name p) →
    parse b template = .error (.unclosedBlock kind name p)
  tooDeep : ∀ l q, parse b template = .error (.tooDeep l q) →
    ∃ p, parse a template = .error (.tooDeep (min a 1024) p) ∧ p.offset ≤ q.offset
  ceiling : 1024 ≤ a → parse a template = parse b template

/-- A higher limit keeps what a lower one accepts and every error that is not about depth. What is
too deep for the higher one is too deep for the lower one, at the same place or before, and from the
ceiling on all limits are alike. -/
theorem relaxes_of_le (h : a ≤ b) (template : String) : Relaxes a b template where
  accepted _ hparse := parse_eq_of_not_tooDeep h hparse (by simp)
  unmatched _ _ _ hparse := parse_eq_of_not_tooDeep h hparse (by simp)
  unclosed _ _ _ hparse := parse_eq_of_not_tooDeep h hparse (by simp)
  tooDeep l q hq := by
    rcases parse_eq_or_tooDeep h template with heq | ⟨p, hdeep, hle⟩
    · rw [hq] at heq
      obtain rfl := eq_effectiveDepth_of_parse heq
      exact ⟨q, heq, Nat.le_refl _⟩
    · exact ⟨p, hdeep, hle l q hq⟩
  ceiling ha := by
    apply parse_congr
    rw [effectiveDepth_of_le ha, effectiveDepth_of_le (Nat.le_trans ha h)]

/-- Three blocks, the innermost of them closed by a marker of the wrong kind. -/
def crossedTemplate : String :=
  "\x7b\x7b#if a\x7d\x7d\x7b\x7b#if b\x7d\x7d\x7b\x7b#if c\x7d\x7d\x7b\x7b/each\x7d\x7d"

theorem relaxes_crossedTemplate :
    1 ≤ 2 ∧ parse 2 crossedTemplate = .error (.tooDeep 2 ⟨18, 1, 19⟩) ∧
      (∃ p, parse 1 crossedTemplate = .error (.tooDeep 1 p) ∧ p.offset ≤ 18) ∧
      3 ≤ 4 ∧ parse 3 crossedTemplate = parse 4 crossedTemplate := by
  have htokens : tokenize crossedTemplate =
      [⟨.marker (.opening .conditional "a"), ⟨0, 1, 1⟩⟩,
        ⟨.marker (.opening .conditional "b"), ⟨9, 1, 10⟩⟩,
        ⟨.marker (.opening .conditional "c"), ⟨18, 1, 19⟩⟩,
        ⟨.marker (.closing .iteration), ⟨27, 1, 28⟩⟩] := by decide +kernel
  have h2 : parse 2 crossedTemplate = .error (.tooDeep 2 ⟨18, 1, 19⟩) := by
    rw [parse, htokens]
    rfl
  have h3 : parse 3 crossedTemplate =
      .error (.unmatchedClose .iteration (some .conditional) ⟨27, 1, 28⟩) := by
    rw [parse, htokens]
    rfl
  have h4 := (relaxes_of_le (show 3 ≤ 4 by decide) crossedTemplate).unmatched _ _ _ h3
  have h1 := (relaxes_of_le (show 1 ≤ 2 by decide) crossedTemplate).tooDeep _ _ h2
  exact ⟨by decide, h2, h1, by decide, h3.trans h4.symm⟩

end Body

end Worksheet
