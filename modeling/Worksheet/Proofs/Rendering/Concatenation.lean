import Worksheet.Proofs.Rendering.Scope
import Worksheet.Proofs.Template.Seam

/-!
Rendering takes templates side by side to texts side by side, whatever braces stand at the seam, as
long as they do not form a marker there. And a template that is refused at one of its markers is
refused in the same way when more follows.
-/

namespace Worksheet

namespace Body

variable {limit : Nat} {first second : String}

/-- Merging the literals at the seam does not change the text. -/
theorem Joins.evaluate_eq {a b c : Body} (h : Joins a b c) (context : Context) :
    c.evaluate none context = a.evaluate none context ++ b.evaluate none context := by
  cases h with
  | apart => exact evaluate_append a b context
  | merged =>
    simp only [evaluate_append, evaluate_literal, String.append_assoc]
    exact congrArg _ (congrArg _ String.empty_append.symm)

/-- What becomes of two templates that are put side by side. -/
structure Concatenates (limit : Nat) (first second : String) : Prop where
  accepted : ∀ a b, parse limit first = .ok a → parse limit second = .ok b →
    ∃ c, parse limit (first ++ second) = .ok c ∧
      ∀ context, c.evaluate none context = a.evaluate none context ++ b.evaluate none context
  unmatched : ∀ kind enclosing p, parse limit first = .error (.unmatchedClose kind enclosing p) →
    parse limit (first ++ second) = .error (.unmatchedClose kind enclosing p)
  tooDeep : ∀ l p, parse limit first = .error (.tooDeep l p) →
    parse limit (first ++ second) = .error (.tooDeep l p)

/-- If no marker straddles the seam, two templates that parse do so side by side and render to
their texts side by side; and an error of the first one at a marker is the error of both. -/
theorem concatenates_of_seamless (h : Seamless first second) (limit : Nat) :
    Concatenates limit first second where
  accepted a b ha hb := by
    obtain ⟨c, hc, hjoins⟩ := exists_joins_parse h ha hb
    exact ⟨c, hc, hjoins.evaluate_eq⟩
  unmatched _ _ _ hparse := parse_append_error h hparse (by simp)
  tooDeep _ _ hparse := parse_append_error h hparse (by simp)

/-- A block, and a brace that opens nothing. -/
def strayBrace : String := "\x7b\x7b#if a\x7d\x7dx\x7b\x7b/if\x7d\x7d\x7b"

/-- A brace with a blank after it, so that no marker starts at the seam, and a reference. -/
def strayName : String := "\x7b b\x7d\x7d\x7b\x7bc\x7d\x7d"

theorem concatenates_strayBrace :
    Seamless strayBrace strayName ∧
      (∃ c, parse 1 (strayBrace ++ strayName) = .ok c ∧ ∀ context, c.evaluate none context =
        (block .conditional "a" (literal "x" empty) (literal "\x7b" empty)).evaluate none context ++
          (literal "\x7b b\x7d\x7d" (reference "c" empty)).evaluate none context) ∧
      parse 0 strayBrace = .error (.tooDeep 0 ⟨0, 1, 1⟩) ∧
      parse 0 (strayBrace ++ strayName) = .error (.tooDeep 0 ⟨0, 1, 1⟩) := by
  have h : Seamless strayBrace strayName := by decide +kernel
  have htokens : tokenize strayBrace =
      [⟨.marker (.opening .conditional "a"), ⟨0, 1, 1⟩⟩, ⟨.literal "x", ⟨9, 1, 10⟩⟩,
        ⟨.marker (.closing .conditional), ⟨10, 1, 11⟩⟩, ⟨.literal "\x7b", ⟨17, 1, 18⟩⟩] := by
    decide +kernel
  have htokens' : tokenize strayName =
      [⟨.literal "\x7b b\x7d\x7d", ⟨0, 1, 1⟩⟩, ⟨.marker (.reference "c"), ⟨5, 1, 6⟩⟩] := by
    decide +kernel
  have hfirst : parse 1 strayBrace =
      .ok (block .conditional "a" (literal "x" empty) (literal "\x7b" empty)) := by
    rw [parse, htokens]
    rfl
  have hsecond : parse 1 strayName =
      .ok (literal "\x7b b\x7d\x7d" (reference "c" empty)) := by
    rw [parse, htokens']
    rfl
  have hdeep : parse 0 strayBrace = .error (.tooDeep 0 ⟨0, 1, 1⟩) := by
    rw [parse, htokens]
    rfl
  exact ⟨h, (concatenates_of_seamless h 1).accepted _ _ hfirst hsecond, hdeep,
    (concatenates_of_seamless h 0).tooDeep _ _ hdeep⟩

end Body

end Worksheet
