import Worksheet.Proofs.Template.Matching

/-!
Which token an error blames. Tokens that the parse survives can always be continued to accepted
ones, by closing what is open, and tokens at which it fails cannot. So an error in the midst of the
tokens blames the first one after which nothing helps, and an error at their end blames the last
opening that is not closed.
-/

namespace Worksheet

namespace Matching

variable {limit : Nat} {s : Matching} {tokens before after : List Token}

/-! ## Openings and their closings -/

/-- Whether a block of the kind is closed in what follows its opening. -/
def ClosedIn (kind : BlockKind) (after : List Token) : Prop :=
  ∃ inner close rest, after = inner ++ close :: rest ∧ (∃ b : Body, b.Flattens inner) ∧
    close.lexeme = .marker (.closing kind)

/-- Whether every opening among the tokens has its closing there. -/
def AllClosed : List Token → Prop
  | [] => True
  | t :: after =>
    (∀ kind name, t.lexeme = .marker (.opening kind name) → ClosedIn kind after) ∧ AllClosed after

/-- The last opening among the tokens that has no closing there. -/
def LastOpen (tokens : List Token) (kind : BlockKind) (name : String) (position : Position) :
    Prop :=
  ∃ before after, tokens = before ++ ⟨.marker (.opening kind name), position⟩ :: after ∧
    ¬ ClosedIn kind after ∧ AllClosed after

/-- The kind of the innermost block that the tokens leave open, if they leave one open. -/
def Encloses (tokens : List Token) : Option BlockKind → Prop
  | none => AllClosed tokens
  | some kind => ∃ name position, LastOpen tokens kind name position

theorem ClosedIn.append {kind : BlockKind} (h : ClosedIn kind before) (after : List Token) :
    ClosedIn kind (before ++ after) := by
  obtain ⟨inner, close, rest, rfl, hinner, hclose⟩ := h
  exact ⟨inner, close, rest ++ after, by simp, hinner, hclose⟩

theorem AllClosed.append (hbefore : AllClosed before) (hafter : AllClosed after) :
    AllClosed (before ++ after) := by
  induction before with
  | nil => exact hafter
  | cons t before ih =>
    refine ⟨?_, ih hbefore.2⟩
    intro kind name ht
    exact (hbefore.1 kind name ht).append after

theorem allClosed_of_flattens {b : Body} (h : b.Flattens tokens) : AllClosed tokens := by
  induction b generalizing tokens with
  | empty =>
    obtain rfl := List.map_eq_nil_iff.mp h.symm
    trivial
  | literal text rest ih | reference name rest ih =>
    obtain ⟨t, tokens, rfl, ht, hrest⟩ := List.map_eq_cons_iff.mp h.symm
    refine ⟨?_, ih hrest.symm⟩
    intro kind name' ht'
    rw [ht] at ht'
    simp at ht'
  | block kind name inner rest ih ih' =>
    obtain ⟨t, tokens, rfl, ht, hrest⟩ := List.map_eq_cons_iff.mp h.symm
    obtain ⟨first, tokens, rfl, hinner, hrest⟩ := List.map_eq_append_iff.mp hrest
    obtain ⟨u, last, rfl, hu, hrest⟩ := List.map_eq_cons_iff.mp hrest
    refine ⟨?_, (ih hinner.symm).append ⟨?_, ih' hrest.symm⟩⟩
    · intro kind' name' ht'
      rw [ht] at ht'
      obtain ⟨rfl, rfl⟩ := Marker.opening.inj (Lexeme.marker.inj ht')
      exact ⟨first, u, last, rfl, ⟨inner, hinner.symm⟩, hu⟩
    · intro kind' name' hu'
      rw [hu] at hu'
      simp at hu'

/-- Well-matched tokens hold no closing for a block outside of them. -/
theorem not_closedIn_of_flattens {b : Body} {kind : BlockKind} (h : b.Flattens after) :
    ¬ ClosedIn kind after := by
  rintro ⟨inner, close, rest, rfl, ⟨c, hc⟩, hclose⟩
  have he : c.lexemes ++ (.marker (.closing kind) :: rest.map Token.lexeme) = b.lexemes ++ [] := by
    rw [List.append_nil, h, hc, List.map_append, List.map_cons, hclose]
  have hnil := (Body.lexemes_append_inj (Body.stops_closing kind _) Body.stops_nil he).2
  contradiction

theorem Reads.lastOpen {depth : Nat} {b : OpenBlock} (h : Reads depth tokens s)
    (hb : s.opened.head? = some b) : LastOpen tokens b.kind b.name b.position := by
  cases h with
  | root => contradiction
  | nested _ hf _ =>
    obtain rfl := Option.some.inj hb
    exact ⟨_, _, rfl, not_closedIn_of_flattens hf, allClosed_of_flattens hf⟩

/-- The stack knows the innermost block that is open. -/
theorem Reads.encloses {depth : Nat} (h : Reads depth tokens s) :
    Encloses tokens (s.opened.head?.map OpenBlock.kind) := by
  cases hb : s.opened.head? with
  | none =>
    cases h with
    | root hf _ => exact allClosed_of_flattens hf
    | nested => contradiction
  | some b => exact ⟨b.name, b.position, h.lastOpen hb⟩

/-! ## Continuations -/

/-- Whether tokens can be continued so that the whole is accepted. -/
def Completable (limit : Nat) (tokens : List Token) : Prop :=
  ∃ rest b, Body.ofTokens limit (tokens ++ rest) = .ok b

theorem Completable.of_isPrefix (h : Completable limit tokens) (hp : before <+: tokens) :
    Completable limit before := by
  obtain ⟨rest, b, hb⟩ := h
  obtain ⟨after, rfl⟩ := hp
  exact ⟨after ++ rest, b, by rwa [← List.append_assoc]⟩

/-- A closing for an open block. -/
def OpenBlock.closer (b : OpenBlock) : Token := ⟨.marker (.closing b.kind), .start⟩

theorem run_closers (limit : Nat) (current : Body) (opened : List OpenBlock) :
    ∃ last, run limit ⟨current, opened⟩ (opened.map OpenBlock.closer) = .ok ⟨last, []⟩ := by
  induction opened generalizing current with
  | nil => exact ⟨current, run_nil⟩
  | cons b opened ih =>
    obtain ⟨last, hlast⟩ := ih (.block b.kind b.name current.reverse b.before)
    exact ⟨last, (run_cons_of_feed (feed_closing rfl)).trans hlast⟩

theorem completable_of_run (h : run limit {} tokens = .ok s) : Completable limit tokens := by
  obtain ⟨last, hlast⟩ := run_closers limit s.current s.opened
  have hrun := (run_append_of_run h).trans hlast
  exact ⟨s.opened.map OpenBlock.closer, last.reverse, Body.ofTokens_of_run hrun⟩

theorem not_completable_of_run {e : SyntaxError} (h : run limit {} tokens = .error e) :
    ¬ Completable limit tokens := by
  rintro ⟨rest, b, hb⟩
  rw [Body.ofTokens_of_run_error (run_append_error h)] at hb
  contradiction

/-! ## Blame -/

/-- What an error says about the tokens that were refused. -/
structure Blames (limit : Nat) (tokens : List Token) (e : SyntaxError) : Prop where
  hopeless : (∃ before, before <+: tokens ∧ ¬ Completable limit before) →
    ∃ i t, tokens[i]? = some t ∧ ¬ Completable limit (tokens.take (i + 1)) ∧
      (∀ j < i, Completable limit (tokens.take (j + 1))) ∧
      ((∃ kind name, t.lexeme = .marker (.opening kind name) ∧
          e = .tooDeep (min limit 1024) t.position) ∨
        ∃ kind enclosing, t.lexeme = .marker (.closing kind) ∧
          e = .unmatchedClose kind enclosing t.position ∧ Encloses (tokens.take i) enclosing)
  unclosed : (∀ before, before <+: tokens → Completable limit before) →
    ∃ kind name position, e = .unclosedBlock kind name position ∧
      LastOpen tokens kind name position

theorem blames_of_refusal {t : Token} {e : SyntaxError} (hs : run limit {} before = .ok s)
    (hr : Refusal limit s t e) (ht : run limit {} (before ++ [t]) = .error e) :
    Blames limit (before ++ t :: after) e := by
  have hsplit : before ++ t :: after = (before ++ [t]) ++ after := by simp
  have hnot := not_completable_of_run ht
  have hreads := (reads_start (effectiveDepth limit)).run hs
  constructor
  · intro _
    refine ⟨before.length, t, by simp, ?_, ?_, ?_⟩
    · rw [hsplit, List.take_left' (by simp)]
      exact hnot
    · intro j hj
      apply (completable_of_run hs).of_isPrefix
      rw [List.take_append_of_le_length hj]
      exact List.take_prefix _ _
    · rw [List.take_left]
      cases hr with
      | tooDeep => exact .inl ⟨_, _, rfl, rfl⟩
      | unmatched => exact .inr ⟨_, _, rfl, rfl, hreads.encloses⟩
  · intro hall
    exact absurd (hall _ ⟨after, hsplit.symm⟩) hnot

theorem blames_of_finish {e : SyntaxError} (hs : run limit {} tokens = .ok s)
    (he : s.finish = .error e) : Blames limit tokens e := by
  have hreads := (reads_start (effectiveDepth limit)).run hs
  constructor
  · rintro ⟨before, hp, hnot⟩
    exact absurd ((completable_of_run hs).of_isPrefix hp) hnot
  · intro _
    obtain ⟨current, opened⟩ := s
    cases opened with
    | nil => contradiction
    | cons b opened =>
      obtain rfl := Except.error.inj he
      exact ⟨b.kind, b.name, b.position, rfl, hreads.lastOpen rfl⟩

/-- An error blames the first token after which nothing helps. If there is none, it blames the last
opening that is not closed. -/
theorem blames_of_ofTokens {e : SyntaxError} (h : Body.ofTokens limit tokens = .error e) :
    Blames limit tokens e := by
  rcases run_cases limit {} tokens with
    ⟨s, hrun⟩ | ⟨before, t, after, s, e', rfl, hbefore, hr, ht, hrun⟩
  · rw [Body.ofTokens_of_run hrun] at h
    exact blames_of_finish hrun h
  · rw [Body.ofTokens_of_run_error hrun] at h
    obtain rfl := Except.error.inj h
    exact blames_of_refusal hbefore hr ht

/-- A condition, a closed iteration in it, and then the closing of the wrong kind. -/
def crossedTokens : List Token :=
  [⟨.marker (.opening .conditional "a"), ⟨0, 1, 1⟩⟩,
    ⟨.marker (.opening .iteration "b"), ⟨9, 1, 10⟩⟩, ⟨.literal "x", ⟨20, 1, 21⟩⟩,
    ⟨.marker (.closing .iteration), ⟨21, 1, 22⟩⟩, ⟨.marker (.closing .iteration), ⟨30, 1, 31⟩⟩,
    ⟨.marker (.closing .conditional), ⟨39, 1, 40⟩⟩]

theorem blames_crossedTokens :
    Body.ofTokens 2 crossedTokens =
        .error (.unmatchedClose .iteration (some .conditional) ⟨30, 1, 31⟩) ∧
      Blames 2 crossedTokens (.unmatchedClose .iteration (some .conditional) ⟨30, 1, 31⟩) :=
  ⟨rfl, blames_of_ofTokens rfl⟩

end Matching

end Worksheet
