import Worksheet.Template.Body
import Worksheet.Template.Token

/-!
Bodies as sequences of lexemes. A body flattens to the markers and literals it is written with,
and it can be read back from them: a sequence of lexemes is the flattening of at most one body,
even when the closing of an enclosing block and more may follow.
-/

namespace Worksheet

namespace Body

/-- The literals and markers of a body in the order in which they are written. -/
def lexemes : Body → List Lexeme
  | empty => []
  | literal text rest => .literal text :: rest.lexemes
  | reference name rest => .marker (.reference name) :: rest.lexemes
  | block kind name inner rest =>
    .marker (.opening kind name) :: (inner.lexemes ++ .marker (.closing kind) :: rest.lexemes)

theorem flatMap_spell_lexemes (b : Body) : b.lexemes.flatMap Lexeme.spell = b.spell := by
  induction b with
  | empty => rfl
  | literal text rest ih => rw [lexemes, List.flatMap_cons, ih]; rfl
  | reference name rest ih => rw [lexemes, List.flatMap_cons, ih]; rfl
  | block kind name inner rest ih ih' =>
    rw [lexemes, List.flatMap_cons, List.flatMap_append, List.flatMap_cons, ih, ih', spell]
    simp only [Lexeme.spell, List.append_assoc]

/-! ## Bodies side by side -/

theorem lexemes_append (a b : Body) : (a ++ b).lexemes = a.lexemes ++ b.lexemes := by
  induction a with
  | empty => rfl
  | literal text rest ih => exact congrArg (_ :: ·) ih
  | reference name rest ih => exact congrArg (_ :: ·) ih
  | block kind name inner rest _ ih =>
    change _ :: (inner.lexemes ++ _ :: (rest ++ b).lexemes) = _
    rw [ih]
    simp [lexemes]

theorem depth_append (a b : Body) : (a ++ b).depth = max a.depth b.depth := by
  induction a with
  | empty => exact (Nat.zero_max b.depth).symm
  | literal text rest ih => exact ih
  | reference name rest ih => exact ih
  | block kind name inner rest _ ih =>
    change max (inner.depth + 1) (rest ++ b).depth = max (max (inner.depth + 1) rest.depth) b.depth
    rw [ih, Nat.max_assoc]

/-! ## Parts in the opposite order -/

theorem reverse_reverseOnto (b done : Body) :
    (b.reverseOnto done).reverse = done.reverseOnto b := by
  induction b generalizing done with
  | empty => rfl
  | literal text rest ih => exact ih (.literal text done)
  | reference name rest ih => exact ih (.reference name done)
  | block kind name inner rest _ ih => exact ih (.block kind name inner done)

theorem reverse_reverse (b : Body) : b.reverse.reverse = b := reverse_reverseOnto b .empty

theorem lexemes_reverseOnto (b done : Body) :
    (b.reverseOnto done).lexemes = b.reverse.lexemes ++ done.lexemes := by
  induction b generalizing done with
  | empty => rfl
  | literal text rest ih =>
    rw [reverse, reverseOnto, reverseOnto, ih, ih (.literal text .empty), List.append_assoc]
    rfl
  | reference name rest ih =>
    rw [reverse, reverseOnto, reverseOnto, ih, ih (.reference name .empty), List.append_assoc]
    rfl
  | block kind name inner rest _ ih =>
    rw [reverse, reverseOnto, reverseOnto, ih, ih (.block kind name inner .empty),
      List.append_assoc]
    simp [lexemes]

theorem lexemes_reverse_literal (text : String) (b : Body) :
    (literal text b).reverse.lexemes = b.reverse.lexemes ++ [.literal text] :=
  lexemes_reverseOnto b (.literal text .empty)

theorem lexemes_reverse_reference (name : String) (b : Body) :
    (reference name b).reverse.lexemes = b.reverse.lexemes ++ [.marker (.reference name)] :=
  lexemes_reverseOnto b (.reference name .empty)

theorem lexemes_reverse_block (kind : BlockKind) (name : String) (inner b : Body) :
    (block kind name inner b).reverse.lexemes = b.reverse.lexemes ++
      .marker (.opening kind name) :: (inner.lexemes ++ [.marker (.closing kind)]) :=
  lexemes_reverseOnto b (.block kind name inner .empty)

theorem depth_reverseOnto (b done : Body) :
    (b.reverseOnto done).depth = max b.depth done.depth := by
  induction b generalizing done with
  | empty => simp [reverseOnto, depth]
  | literal text rest ih => exact ih (.literal text done)
  | reference name rest ih => exact ih (.reference name done)
  | block kind name inner rest _ ih =>
    have hrest := ih (.block kind name inner done)
    simp only [reverseOnto, depth] at hrest ⊢
    omega

theorem depth_reverse (b : Body) : b.reverse.depth = b.depth := by
  rw [reverse, depth_reverseOnto, depth, Nat.max_zero]

/-! ## Reading a body off its lexemes -/

/-- Nothing follows, or the closing of an enclosing block. -/
def Stops (rest : List Lexeme) : Prop :=
  ∀ x ∈ rest.head?, ∃ kind, x = .marker (.closing kind)

theorem stops_nil : Stops [] := by
  intro x hx
  contradiction

theorem stops_closing (kind : BlockKind) (rest : List Lexeme) :
    Stops (.marker (.closing kind) :: rest) := by
  intro x hx
  exact ⟨kind, (Option.some.inj hx).symm⟩

theorem Stops.eq_empty {b : Body} {s : List Lexeme} (h : Stops (b.lexemes ++ s)) : b = empty := by
  cases b with
  | empty => rfl
  | literal | reference | block =>
    obtain ⟨kind, hk⟩ := h _ rfl
    simp at hk

/-- Bodies are delimited: what they flatten to and the rest that follows tell where they end. -/
theorem lexemes_append_inj {b c : Body} {s t : List Lexeme} (hs : Stops s) (ht : Stops t)
    (h : b.lexemes ++ s = c.lexemes ++ t) : b = c ∧ s = t := by
  induction b generalizing c s t with
  | empty =>
    have hc : Stops (c.lexemes ++ t) := h ▸ hs
    obtain rfl := hc.eq_empty
    exact ⟨rfl, h⟩
  | literal text rest ih =>
    cases c with
    | empty =>
      have hb : Stops ((literal text rest).lexemes ++ s) := h ▸ ht
      exact absurd hb.eq_empty (by simp)
    | literal text' rest' =>
      obtain ⟨hx, hrest⟩ := List.cons.inj h
      obtain ⟨rfl, rfl⟩ := ih hs ht hrest
      obtain rfl := Lexeme.literal.inj hx
      exact ⟨rfl, rfl⟩
    | reference | block => simp [lexemes] at h
  | reference name rest ih =>
    cases c with
    | empty =>
      have hb : Stops ((reference name rest).lexemes ++ s) := h ▸ ht
      exact absurd hb.eq_empty (by simp)
    | reference name' rest' =>
      obtain ⟨hx, hrest⟩ := List.cons.inj h
      obtain ⟨rfl, rfl⟩ := ih hs ht hrest
      obtain rfl := Marker.reference.inj (Lexeme.marker.inj hx)
      exact ⟨rfl, rfl⟩
    | literal | block => simp [lexemes] at h
  | block kind name inner rest ih ih' =>
    cases c with
    | empty =>
      have hb : Stops ((block kind name inner rest).lexemes ++ s) := h ▸ ht
      exact absurd hb.eq_empty (by simp)
    | block kind' name' inner' rest' =>
      simp only [lexemes, List.cons_append, List.append_assoc] at h
      obtain ⟨hx, hrest⟩ := List.cons.inj h
      obtain ⟨rfl, rfl⟩ := Marker.opening.inj (Lexeme.marker.inj hx)
      -- the closing of the block ends its inner body, and what follows it ends the block's rest
      obtain ⟨rfl, hafter⟩ := ih (stops_closing kind _) (stops_closing kind _) hrest
      obtain ⟨rfl, rfl⟩ := ih' hs ht (List.cons.inj hafter).2
      exact ⟨rfl, rfl⟩
    | literal | reference => simp [lexemes] at h

theorem lexemes_injective {b c : Body} (h : b.lexemes = c.lexemes) : b = c :=
  (lexemes_append_inj stops_nil stops_nil (congrArg (· ++ []) h)).1

/-- A body whose last lexeme is a literal ends in that literal. -/
theorem exists_of_lexemes_concat {b : Body} {xs : List Lexeme} {text : String}
    (h : b.lexemes = xs ++ [.literal text]) :
    ∃ before : Body, before.lexemes = xs ∧ b = before ++ literal text empty := by
  obtain ⟨r, rfl⟩ : ∃ r : Body, b = r.reverse := ⟨b.reverse, (reverse_reverse b).symm⟩
  cases r with
  | empty => simp [reverse, reverseOnto, lexemes] at h
  | literal text' rest =>
    rw [lexemes_reverse_literal] at h
    obtain ⟨hrest, htext⟩ := List.append_inj' h rfl
    refine ⟨rest.reverse, hrest, lexemes_injective ?_⟩
    rw [lexemes_reverse_literal, htext, lexemes_append]
    rfl
  | reference name rest =>
    rw [lexemes_reverse_reference] at h
    simp at h
  | block kind name inner rest =>
    rw [lexemes_reverse_block, ← List.cons_append, ← List.append_assoc] at h
    have hlast := (List.append_inj' h rfl).2
    simp at hlast

end Body

end Worksheet
