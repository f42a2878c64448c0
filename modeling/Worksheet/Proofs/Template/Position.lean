import Mathlib.Data.List.DropRight
import Worksheet.Proofs.Template.Token

/-!
What a position says of the text before it. Its offset counts bytes of UTF-8, its line the line
feeds, and its column the characters after the last line feed. One more character keeps this, so it
holds after any text, and in particular where a token of a template starts.
-/

namespace Worksheet

/-- What a text holds after its last line feed; all of it if there is none. -/
def lastLine (text : List Char) : List Char := text.rtakeWhile (· ≠ '\n')

theorem utf8ByteSize_ofList_concat (text : List Char) (c : Char) :
    (String.ofList (text ++ [c])).utf8ByteSize =
      (String.ofList text).utf8ByteSize + c.utf8Size := by
  rw [String.ofList_append, String.utf8ByteSize_append, ← String.singleton_eq_ofList,
    String.utf8ByteSize_singleton]

namespace Position

/-- Whether a position is the one at the end of a text. -/
structure Marks (before : List Char) (p : Position) : Prop where
  offset_eq : p.offset = (String.ofList before).utf8ByteSize
  line_eq : p.line = 1 + before.count '\n'
  column_eq : p.column = 1 + (lastLine before).length

variable {before : List Char} {p : Position}

theorem marks_start : Marks [] start := ⟨rfl, rfl, rfl⟩

theorem Marks.step (h : Marks before p) (c : Char) : Marks (before ++ [c]) (p.step c) := by
  have hoffset : (p.step c).offset = (String.ofList (before ++ [c])).utf8ByteSize := by
    rw [offset_step, h.offset_eq, utf8ByteSize_ofList_concat]
  by_cases hc : c = '\n'
  · subst hc
    refine ⟨hoffset, ?_, ?_⟩
    · simp [Position.step, h.line_eq, Nat.add_assoc]
    · simp [Position.step, lastLine]
  · refine ⟨hoffset, ?_, ?_⟩
    · simp [Position.step, hc, h.line_eq]
    · simp [Position.step, hc, h.column_eq, lastLine, Nat.add_assoc]

theorem Marks.after (h : Marks before p) (text : List Char) :
    Marks (before ++ text) (p.after text) := by
  induction text generalizing before p with
  | nil => rwa [List.append_nil]
  | cons c text ih =>
    have hnext := ih (h.step c)
    rwa [List.append_assoc] at hnext

theorem marks_after_start (text : List Char) : Marks text (start.after text) :=
  marks_start.after text

/-- The line goes on counting line feeds. -/
theorem Marks.line_after (h : Marks before p) (text : List Char) :
    (p.after text).line = p.line + text.count '\n' := by
  rw [(h.after text).line_eq, h.line_eq, List.count_append, Nat.add_assoc]

end Position

/-! ## Tokens -/

namespace Token

theorem position_of_place {p : Position} {xs : List Lexeme} {before after : List Token} {t : Token}
    (h : place p xs = before ++ t :: after) : t.position = p.after (spellAll before) := by
  induction before generalizing p xs with
  | nil =>
    cases xs with
    | nil => contradiction
    | cons x xs =>
      obtain ⟨rfl, -⟩ := List.cons.inj h
      rfl
  | cons u before ih =>
    cases xs with
    | nil => contradiction
    | cons x xs =>
      obtain ⟨rfl, hrest⟩ := List.cons.inj h
      rw [ih hrest, ← Position.after_append]
      rfl

end Token

open Token

variable {source : String}

/-- A token starts where the tokens before it end, and its position counts the bytes, the lines and
the columns of the text up to there; the offset never falls within a character. -/
theorem position_exact {before after : List Token} {t : Token}
    (h : tokenize source = before ++ t :: after) :
    source.toList = spellAll before ++ (t.lexeme.spell ++ spellAll after) ∧
      t.position.Marks (spellAll before) ∧
      String.Pos.Raw.IsValid source ⟨t.position.offset⟩ := by
  have htext : source.toList = spellAll before ++ (t.lexeme.spell ++ spellAll after) := by
    rw [← spellAll_tokenize source, h]
    simp [spellAll]
  have hmarks : t.position.Marks (spellAll before) := by
    rw [position_of_place h]
    exact Position.marks_after_start _
  refine ⟨htext, hmarks, ?_⟩
  rw [String.Pos.Raw.isValid_iff_exists_append]
  refine ⟨.ofList (spellAll before), .ofList (t.lexeme.spell ++ spellAll after), ?_, ?_⟩
  · rw [← String.ofList_append, ← htext, String.ofList_toList]
  · rw [hmarks.offset_eq]
    rfl

/-- A marker after characters of several bytes and an empty line. -/
theorem position_after_accents :
    tokenize "día\n\n→\x7b\x7bx\x7d\x7d" =
        [⟨.literal "día\n\n→", ⟨0, 1, 1⟩⟩, ⟨.marker (.reference "x"), ⟨9, 3, 2⟩⟩] ∧
      Position.Marks (spellAll [⟨.literal "día\n\n→", ⟨0, 1, 1⟩⟩]) ⟨9, 3, 2⟩ := by
  have h : tokenize "día\n\n→\x7b\x7bx\x7d\x7d" =
      [⟨.literal "día\n\n→", ⟨0, 1, 1⟩⟩] ++ ⟨.marker (.reference "x"), ⟨9, 3, 2⟩⟩ :: [] := by
    decide +kernel
  exact ⟨h, (position_exact h).2.1⟩

end Worksheet
