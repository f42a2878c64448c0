import Worksheet.Proofs.Template.Position
import Worksheet.Proofs.Template.RoundTrip

/-!
A template inside a block. A marker between two texts is a token whatever stands next to it, and the
tokens of a template that parses leave the stack as they found it. So an opening before such a
template stays open until its closing comes, one level deeper than the template, and a closing behind
the template meets that opening or nothing.
-/

namespace Worksheet

namespace BlockKind

def openingText (kind : BlockKind) (name : String) : String :=
  braced ("#" ++ kind.keyword ++ " " ++ name)

def closingText (kind : BlockKind) : String := braced ("/" ++ kind.keyword)

theorem toList_openingText (kind : BlockKind) (name : String) :
    (kind.openingText name).toList = (Marker.opening kind name).spell := by
  simp [openingText, Marker.toList_braced, Marker.spell_eq_fenced, Marker.inner]

theorem toList_closingText (kind : BlockKind) :
    kind.closingText.toList = (Marker.closing kind).spell := by
  simp [closingText, Marker.toList_braced, Marker.spell_eq_fenced, Marker.inner]

end BlockKind

/-! ## A marker between two texts -/

/-- A marker is a lexeme whatever stands next to it, so no text reaches over it. -/
theorem Lexeme.scan_marker {m : Marker} (hm : m.WellFormed) (before after : List Char) :
    scan [] (before ++ (m.spell ++ after)) = scan [] before ++ marker m :: scan [] after := by
  obtain ⟨hbefore, hspell⟩ := scan_eq_iff.mp (Eq.refl (scan [] before))
  obtain ⟨hafter, hspell'⟩ := scan_eq_iff.mp (Eq.refl (scan [] after))
  rw [scan_eq_iff]
  constructor
  · exact separated_append_marker_iff.mpr ⟨hbefore, hm, hafter⟩
  · rw [List.flatMap_append, List.flatMap_cons, hspell, hspell', spell]

variable {limit : Nat} {template : String} {body : Body} {kind : BlockKind} {name : String}

theorem scan_openingText_append (hname : isReference name = true) (rest : String) :
    Lexeme.scan [] (kind.openingText name ++ rest).toList =
      .marker (.opening kind name) :: Lexeme.scan [] rest.toList := by
  have hmarker : (Marker.opening kind name).WellFormed := hname
  have hscan := Lexeme.scan_marker hmarker [] rest.toList
  rwa [Lexeme.scan_nil, Lexeme.ofPending, List.nil_append, List.nil_append,
    ← kind.toList_openingText, ← String.toList_append] at hscan

theorem scan_append_closingText (text : String) (kind : BlockKind) :
    Lexeme.scan [] (text ++ kind.closingText).toList =
      Lexeme.scan [] text.toList ++ [.marker (.closing kind)] := by
  have hmarker : (Marker.closing kind).WellFormed := trivial
  have hscan := Lexeme.scan_marker hmarker text.toList []
  rwa [List.append_nil, Lexeme.scan_nil, Lexeme.ofPending, ← kind.toList_closingText,
    ← String.toList_append] at hscan

theorem tokenize_append_closingText (text : String) (kind : BlockKind) :
    tokenize (text ++ kind.closingText) =
      tokenize text ++ [⟨.marker (.closing kind), Position.start.after text.toList⟩] := by
  have hspell := (Lexeme.scan_eq_iff.mp (Eq.refl (Lexeme.scan [] text.toList))).2
  rw [tokenize, scan_append_closingText, Token.place_append, hspell]
  rfl

/-! ## Runs over the tokens of a template -/

namespace Matching

/-- A closing is refused unless the innermost open block is of its kind. -/
theorem feed_unmatched {s : Matching} {t : Token} (ht : t.lexeme = .marker (.closing kind))
    (hkind : s.opened.head?.map OpenBlock.kind ≠ some kind) :
    feed limit s t =
      .error (.unmatchedClose kind (s.opened.head?.map OpenBlock.kind) t.position) := by
  obtain ⟨current, opened⟩ := s
  cases opened with
  | nil => simp only [feed, ht, List.head?_nil, Option.map_none]
  | cons b opened =>
    have hne : b.kind ≠ kind := by simpa using hkind
    simp only [feed, ht, if_neg hne, List.head?_cons, Option.map_some]

/-- The tokens of a template that parses leave the stack as they found it. -/
theorem run_tokenize (h : Body.parse limit template = .ok body) :
    run limit {} (tokenize template) = .ok ⟨body.reverse, []⟩ := by
  obtain ⟨hflattens, hdepth⟩ := Body.ofTokens_eq_ok_iff.mp h
  exact run_of_flattens hflattens (by simpa using hdepth)

/-- Behind an opening they leave that opening on the stack. -/
theorem run_tokenize_opened (h : Body.parse limit template = .ok body)
    (hname : isReference name = true) (hdepth : body.depth + 1 ≤ effectiveDepth limit) :
    run limit {} (tokenize (kind.openingText name ++ template)) =
      .ok ⟨body.reverse, [⟨kind, name, .start, .empty⟩]⟩ := by
  obtain ⟨hflattens, -⟩ := Body.ofTokens_eq_ok_iff.mp h
  rw [Body.Flattens, map_lexeme_tokenize] at hflattens
  rw [tokenize, scan_openingText_append hname, Token.place,
    run_cons_of_feed (feed_opening rfl (Nat.lt_of_lt_of_le (Nat.succ_pos _) hdepth))]
  apply run_of_flattens
  · rw [Body.Flattens, Token.map_lexeme_place, hflattens]
  · simpa [Nat.add_comm] using hdepth

end Matching

namespace Body

open Matching

/-- A closing behind a text is refused if what the text leaves open is not of its kind. -/
theorem parse_append_closingText {s : Matching} {text : String}
    (hrun : run limit {} (tokenize text) = .ok s)
    (hkind : s.opened.head?.map OpenBlock.kind ≠ some kind) :
    parse limit (text ++ kind.closingText) =
      .error (.unmatchedClose kind (s.opened.head?.map OpenBlock.kind)
        (Position.start.after text.toList)) := by
  apply ofTokens_of_run_error
  rw [tokenize_append_closingText, run_append_of_run hrun]
  exact run_cons_of_error (feed_unmatched rfl hkind)

/-- What becomes of a template between the markers of a block. -/
structure Wraps (limit : Nat) (template : String) (body : Body) (kind : BlockKind) (name : String) :
    Prop where
  closed : ∀ b,
    parse limit (kind.openingText name ++ template ++ kind.closingText) = .ok b ↔
      body.depth + 1 ≤ min limit 1024 ∧ b = block kind name body empty
  unclosed : body.depth + 1 ≤ min limit 1024 →
    parse limit (kind.openingText name ++ template) = .error (.unclosedBlock kind name ⟨0, 1, 1⟩)
  crossed : body.depth + 1 ≤ min limit 1024 → ∀ other, other ≠ kind →
    ∃ p : Position, p.Marks (kind.openingText name ++ template).toList ∧
      parse limit (kind.openingText name ++ template ++ other.closingText) =
        .error (.unmatchedClose other (some kind) p)
  stray : ∀ other, ∃ p : Position, p.Marks template.toList ∧
    parse limit (template ++ other.closingText) = .error (.unmatchedClose other none p)

/-- A template that parses does so inside a block if there is room for one more level, and then to
that block. Without its closing the opening is blamed, and a closing that does not belong to it is
blamed at the end of the template. -/
theorem wraps_of_parse (h : parse limit template = .ok body) (hname : isReference name = true)
    (kind : BlockKind) : Wraps limit template body kind name where
  closed b := by
    obtain ⟨hflattens, -⟩ := ofTokens_eq_ok_iff.mp h
    rw [Flattens, map_lexeme_tokenize] at hflattens
    have hlexemes : (tokenize (kind.openingText name ++ template ++ kind.closingText)).map
        Token.lexeme = (block kind name body empty).lexemes := by
      rw [map_lexeme_tokenize, scan_append_closingText, scan_openingText_append hname, lexemes,
        hflattens]
      rfl
    rw [parse, ofTokens_eq_ok_iff, Flattens, hlexemes]
    constructor
    · rintro ⟨hb, hdepth⟩
      obtain rfl := lexemes_injective hb
      exact ⟨Nat.le_trans (Nat.le_max_left _ _) hdepth, rfl⟩
    · rintro ⟨hdepth, rfl⟩
      exact ⟨rfl, Nat.max_le.mpr ⟨hdepth, Nat.zero_le _⟩⟩
  unclosed hdepth := ofTokens_of_run (run_tokenize_opened h hname hdepth)
  crossed hdepth other hother := by
    have hkind : some kind ≠ some other := by simpa using hother.symm
    exact ⟨_, Position.marks_after_start _,
      parse_append_closingText (run_tokenize_opened h hname hdepth) hkind⟩
  stray other :=
    ⟨_, Position.marks_after_start _, parse_append_closingText (run_tokenize h) (by simp)⟩

/-- Braces at both ends that touch the markers of a block around it, and a block of its own. -/
def edgedTemplate : String :=
  "\x7d→\n\x7b\x7b#each b\x7d\x7d\x7b\x7b/each\x7d\x7d\x7b\x7b"

/-- There is room for one block around the template under a limit of two and none under a limit of
one. -/
theorem wraps_edgedTemplate :
    parse 2 edgedTemplate = .ok
        (literal "\x7d→\n" (block .iteration "b" empty (literal "\x7b\x7b" empty))) ∧
      isReference "a" = true ∧
      Wraps 2 edgedTemplate
        (literal "\x7d→\n" (block .iteration "b" empty (literal "\x7b\x7b" empty)))
        .conditional "a" ∧
      Wraps 1 edgedTemplate
        (literal "\x7d→\n" (block .iteration "b" empty (literal "\x7b\x7b" empty)))
        .conditional "a" := by
  have htokens : tokenize edgedTemplate =
      [⟨.literal "\x7d→\n", ⟨0, 1, 1⟩⟩, ⟨.marker (.opening .iteration "b"), ⟨5, 2, 1⟩⟩,
        ⟨.marker (.closing .iteration), ⟨16, 2, 12⟩⟩, ⟨.literal "\x7b\x7b", ⟨25, 2, 21⟩⟩] := by
    decide +kernel
  have hparse : ∀ limit, 0 < effectiveDepth limit → parse limit edgedTemplate = .ok
      (literal "\x7d→\n" (block .iteration "b" empty (literal "\x7b\x7b" empty))) := by
    intro limit hlimit
    rw [parse, htokens, ofTokens_eq_ok_iff]
    exact ⟨rfl, hlimit⟩
  have hname : isReference "a" = true := by decide
  have htwo := hparse 2 (by decide)
  exact ⟨htwo, hname, wraps_of_parse htwo hname .conditional,
    wraps_of_parse (hparse 1 (by decide)) hname .conditional⟩

end Body

end Worksheet
