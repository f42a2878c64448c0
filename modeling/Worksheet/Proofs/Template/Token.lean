import Worksheet.Proofs.Template.Scan

/-!
Tokens and their places. The tokens of a template are the lexemes of its scan, each at the place
that the text spelled before it leads to; later tokens start later.
-/

namespace Worksheet

theorem Position.offset_step (p : Position) (c : Char) :
    (p.step c).offset = p.offset + c.utf8Size := by
  unfold Position.step
  split <;> rfl

theorem Position.offset_le_after (p : Position) (s : List Char) :
    p.offset ≤ (p.after s).offset := by
  induction s generalizing p with
  | nil => exact Nat.le_refl _
  | cons c s ih =>
    have hstep := p.offset_step c
    have hrest : (p.step c).offset ≤ ((p.step c).after s).offset := ih (p.step c)
    change p.offset ≤ ((p.step c).after s).offset
    omega

theorem Position.offset_lt_after (p : Position) {s : List Char} (h : s ≠ []) :
    p.offset < (p.after s).offset := by
  obtain ⟨c, s, rfl⟩ := List.exists_cons_of_ne_nil h
  have hstep := p.offset_step c
  have hpos := c.utf8Size_pos
  have hrest := (p.step c).offset_le_after s
  change p.offset < ((p.step c).after s).offset
  omega

namespace Token

/-- The text that tokens are spelled with. -/
def spellAll (tokens : List Token) : List Char := tokens.flatMap fun t => t.lexeme.spell

theorem map_lexeme_place (p : Position) (xs : List Lexeme) :
    (place p xs).map Token.lexeme = xs := by
  induction xs generalizing p with
  | nil => rfl
  | cons x xs ih => rw [place, List.map_cons, ih]

theorem place_append (p : Position) (xs ys : List Lexeme) :
    place p (xs ++ ys) = place p xs ++ place (p.after (xs.flatMap Lexeme.spell)) ys := by
  induction xs generalizing p with
  | nil => rfl
  | cons x xs ih =>
    rw [List.cons_append, place, place, ih, List.flatMap_cons, Position.after_append,
      List.cons_append]

theorem mem_place_iff {p q : Position} {x : Lexeme} {xs : List Lexeme} :
    ⟨x, q⟩ ∈ place p xs ↔
      ∃ ys zs, xs = ys ++ x :: zs ∧ q = p.after (ys.flatMap Lexeme.spell) := by
  induction xs generalizing p with
  | nil => simp [place]
  | cons y xs ih =>
    rw [place, List.mem_cons, ih]
    constructor
    · rintro (he | ⟨ys, zs, rfl, rfl⟩)
      · obtain ⟨rfl, rfl⟩ := Token.mk.inj he
        exact ⟨[], xs, rfl, rfl⟩
      · exact ⟨y :: ys, zs, rfl, by rw [List.flatMap_cons, Position.after_append]⟩
    · rintro ⟨ys, zs, he, rfl⟩
      cases ys with
      | nil =>
        obtain ⟨rfl, rfl⟩ := List.cons.inj he
        exact .inl rfl
      | cons z ys =>
        obtain ⟨rfl, rfl⟩ := List.cons.inj he
        exact .inr ⟨ys, zs, rfl, by rw [List.flatMap_cons, Position.after_append]⟩

theorem offset_le_of_mem_place {p : Position} {t : Token} {xs : List Lexeme}
    (h : t ∈ place p xs) : p.offset ≤ t.position.offset := by
  obtain ⟨ys, zs, _, hq⟩ := mem_place_iff.mp (show ⟨t.lexeme, t.position⟩ ∈ place p xs from h)
  rw [hq]
  exact p.offset_le_after _

/-- Later tokens start later, since no lexeme is empty. -/
theorem pairwise_place (p : Position) {xs : List Lexeme} (h : Lexeme.Separated xs) :
    (place p xs).Pairwise fun t u => t.position.offset < u.position.offset := by
  induction xs generalizing p with
  | nil => exact .nil
  | cons x xs ih =>
    refine .cons ?_ (ih _ h.tail)
    intro t ht
    exact Nat.lt_of_lt_of_le
      (p.offset_lt_after (Lexeme.spell_ne_nil_of_separated h)) (offset_le_of_mem_place ht)

end Token

/-! ## The tokens of a template -/

variable {source : String}

theorem map_lexeme_tokenize (source : String) :
    (tokenize source).map Token.lexeme = Lexeme.scan [] source.toList := by
  rw [tokenize, Token.map_lexeme_place]

/-- The lexemes of a template are the one separated sequence that spells it. -/
theorem map_lexeme_tokenize_eq_iff {xs : List Lexeme} :
    (tokenize source).map Token.lexeme = xs ↔
      Lexeme.Separated xs ∧ xs.flatMap Lexeme.spell = source.toList := by
  rw [map_lexeme_tokenize, Lexeme.scan_eq_iff]

theorem separated_lexemes (source : String) :
    Lexeme.Separated ((tokenize source).map Token.lexeme) :=
  (map_lexeme_tokenize_eq_iff.mp rfl).1

theorem flatMap_spell_lexemes (source : String) :
    ((tokenize source).map Token.lexeme).flatMap Lexeme.spell = source.toList :=
  (map_lexeme_tokenize_eq_iff.mp rfl).2

theorem spellAll_tokenize (source : String) :
    Token.spellAll (tokenize source) = source.toList := by
  rw [Token.spellAll, ← List.flatMap_map]
  exact flatMap_spell_lexemes source

theorem pairwise_tokenize (source : String) :
    (tokenize source).Pairwise fun t u => t.position.offset < u.position.offset := by
  apply Token.pairwise_place
  rw [← map_lexeme_tokenize]
  exact separated_lexemes source

theorem mem_tokenize_iff {x : Lexeme} {p : Position} :
    ⟨x, p⟩ ∈ tokenize source ↔ ∃ ys zs, (tokenize source).map Token.lexeme = ys ++ x :: zs ∧
      p = Position.start.after (ys.flatMap Lexeme.spell) := by
  rw [map_lexeme_tokenize]
  exact Token.mem_place_iff

end Worksheet
