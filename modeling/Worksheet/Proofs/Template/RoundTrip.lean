import Worksheet.Proofs.Template.Matching
import Worksheet.Proofs.Template.Token

/-!
Printing and parsing are inverse to each other. The bodies that templates stand for are the
canonical ones: their names are references, their literals are not empty and hold no marker, and
no literal follows another. A template is parsed to a body exactly if the body is canonical, keeps
to the depth and prints as the template.
-/

namespace Worksheet

namespace Body

def StartsWithLiteral : Body → Prop
  | literal _ _ => True
  | _ => False

/-- The bodies that templates stand for. -/
def Canonical : Body → Prop
  | empty => True
  | literal text rest =>
    text ≠ "" ∧ MarkerFree text.toList ∧ ¬ rest.StartsWithLiteral ∧ rest.Canonical
  | reference name rest => isReference name = true ∧ rest.Canonical
  | block _ name inner rest => isReference name = true ∧ inner.Canonical ∧ rest.Canonical

theorem startsWithLiteral_iff {b : Body} :
    b.StartsWithLiteral ↔ ∃ text, b.lexemes.head? = some (.literal text) := by
  cases b <;> simp [StartsWithLiteral, lexemes]

end Body

theorem Lexeme.separated_append_marker_iff {xs ys : List Lexeme} {m : Marker} :
    Separated (xs ++ marker m :: ys) ↔ Separated xs ∧ m.WellFormed ∧ Separated ys := by
  induction xs with
  | nil => simp [Separated]
  | cons x xs ih =>
    have hhead : ∀ t, (xs ++ marker m :: ys).head? = some (literal t) ↔
        xs.head? = some (literal t) := by
      intro t
      cases xs <;> simp
    cases x <;> simp only [List.cons_append, Separated, ih, ne_eq, hhead, and_assoc]

namespace Body

theorem separated_lexemes_iff {b : Body} : Lexeme.Separated b.lexemes ↔ b.Canonical := by
  induction b with
  | empty => rfl
  | literal text rest ih =>
    have hhead : (∀ t, rest.lexemes.head? ≠ some (.literal t)) ↔ ¬ rest.StartsWithLiteral := by
      simp [startsWithLiteral_iff]
    simp only [lexemes, Lexeme.Separated, Canonical, hhead, ih]
  | reference name rest ih => simp only [lexemes, Lexeme.Separated, Canonical, ih]; rfl
  | block kind name inner rest ih ih' =>
    simp only [lexemes, Lexeme.Separated, Lexeme.separated_append_marker_iff, ih, ih', Canonical]
    simp [Marker.WellFormed]

theorem print_eq_iff {b : Body} {template : String} :
    b.print = template ↔ b.lexemes.flatMap Lexeme.spell = template.toList := by
  rw [flatMap_spell_lexemes, print, ← String.toList_inj, String.toList_ofList]

/-- A template is parsed to a body exactly if the body is canonical, keeps to the depth and prints
as the template. -/
theorem parse_eq_ok_iff {limit : Nat} {template : String} {b : Body} :
    parse limit template = .ok b ↔
      b.print = template ∧ b.Canonical ∧ b.depth ≤ effectiveDepth limit := by
  have hlex : b.Flattens (tokenize template) ↔ b.Canonical ∧ b.print = template := by
    rw [Flattens, eq_comm, map_lexeme_tokenize_eq_iff, separated_lexemes_iff, print_eq_iff]
  rw [parse, ofTokens_eq_ok_iff, hlex]
  constructor
  · rintro ⟨⟨hcanonical, hprint⟩, hdepth⟩
    exact ⟨hprint, hcanonical, hdepth⟩
  · rintro ⟨hprint, hcanonical, hdepth⟩
    exact ⟨⟨hcanonical, hprint⟩, hdepth⟩

/-- Printing gives back what was parsed, and parsing what was printed. Templates are parsed to the
canonical bodies of the permitted depth and to no others, and different ones to different bodies. -/
theorem print_parse_inverse (limit : Nat) :
    (∀ template b, parse limit template = .ok b → b.print = template) ∧
    (∀ b : Body, b.Canonical → b.depth ≤ min limit 1024 → parse limit b.print = .ok b) ∧
    (∀ b : Body, (∃ template, parse limit template = .ok b) ↔
      b.Canonical ∧ b.depth ≤ min limit 1024) ∧
    ∀ limit' template template' b, parse limit template = .ok b →
      parse limit' template' = .ok b → template = template' := by
  refine ⟨?_, ?_, ?_, ?_⟩
  · intro template b h
    exact (parse_eq_ok_iff.mp h).1
  · intro b hcanonical hdepth
    exact parse_eq_ok_iff.mpr ⟨rfl, hcanonical, hdepth⟩
  · intro b
    constructor
    · rintro ⟨template, h⟩
      exact (parse_eq_ok_iff.mp h).2
    · intro h
      exact ⟨b.print, parse_eq_ok_iff.mpr ⟨rfl, h⟩⟩
  · intro limit' template template' b h h'
    rw [← (parse_eq_ok_iff.mp h).1, ← (parse_eq_ok_iff.mp h').1]

end Body

end Worksheet
