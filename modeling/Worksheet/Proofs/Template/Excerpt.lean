import Mathlib.Data.List.DropRight
import Worksheet.Proofs.Template.Blame
import Worksheet.Proofs.Template.Depth
import Worksheet.Proofs.Template.Position
import Worksheet.Proofs.Template.Tokenization
import Worksheet.Template.Report

/-!
What the report of a syntax error shows. The lines of a text up to the marker to blame are as many as
the position says, and what stands before the marker on its line is as long as the column says. So
among the lines that are printed around the marker the caret stands below its first brace.
-/

namespace Worksheet

/-! ## Lines -/

theorem splitLines_cons (c : Char) (text : List Char) :
    splitLines (c :: text) =
      if c = '\n' then [] :: splitLines text else (splitLines text).modifyHead (c :: ·) := by
  rw [splitLines]
  split
  · rfl
  · cases hlines : splitLines text with
    | nil => exact absurd hlines (splitLines_ne_nil text)
    | cons line lines => rfl

theorem splitLines_eq_splitOn (text : List Char) : splitLines text = text.splitOn '\n' := by
  induction text with
  | nil => rfl
  | cons c text ih =>
    rw [splitLines_cons, ih, List.splitOn, List.splitOn, List.splitOnP_cons_eq_if_modifyHead]
    simp only [beq_iff_eq]

/-- The lines from the one in which a stretch of the text ends. -/
theorem drop_splitLines_append (before rest : List Char) :
    (splitLines (before ++ rest)).drop (before.count '\n') =
      (splitLines rest).modifyHead (lastLine before ++ ·) := by
  induction before using List.reverseRecOn generalizing rest with
  | nil => exact congrFun List.modifyHead_id.symm (splitLines rest)
  | append_singleton before c ih =>
    have hcons := ih (c :: rest)
    rw [splitLines_cons] at hcons
    rw [List.append_assoc, List.singleton_append, List.count_append]
    by_cases hc : c = '\n'
    · subst hc
      have hlast : lastLine (before ++ ['\n']) = [] := by simp [lastLine]
      rw [if_pos rfl] at hcons
      rw [List.count_singleton_self, List.drop_add_one_eq_tail_drop, hcons, hlast]
      exact congrFun List.modifyHead_id.symm (splitLines rest)
    · have hlast : lastLine (before ++ [c]) = lastLine before ++ [c] := by simp [lastLine, hc]
      have hcount : [c].count '\n' = 0 := by simp [hc]
      rw [if_neg hc, List.modifyHead_modifyHead] at hcons
      rw [hcount, Nat.add_zero, hcons, hlast]
      congr 1
      funext line
      simp

theorem lastLine_of_not_mem {text : List Char} (h : '\n' ∉ text) : lastLine text = text := by
  rw [lastLine, List.rtakeWhile_eq_self_iff]
  intro c hc
  simp only [ne_eq, decide_eq_true_eq]
  rintro rfl
  exact h hc

/-- A stretch without a line feed stands in one line, behind what precedes it there. -/
theorem exists_getElem?_splitLines (before after : List Char) {inner : List Char}
    (h : '\n' ∉ inner) :
    ∃ rest, (splitLines (before ++ (inner ++ after)))[before.count '\n']? =
      some (lastLine before ++ (inner ++ rest)) := by
  have hinner := drop_splitLines_append inner after
  rw [List.count_eq_zero_of_not_mem h, List.drop_zero, lastLine_of_not_mem h] at hinner
  have hdrop := drop_splitLines_append before (inner ++ after)
  rw [hinner, List.modifyHead_modifyHead] at hdrop
  obtain ⟨rest, lines, hlines⟩ := List.exists_cons_of_ne_nil (splitLines_ne_nil after)
  refine ⟨rest, ?_⟩
  rw [← Nat.add_zero (before.count '\n'), ← List.getElem?_drop, hdrop, hlines]
  rfl

/-! ## Trimming -/

theorem trimFinal_append {c d : Char} (h : d ≠ c) (before after : List Char) :
    trimFinal c (before ++ [d] ++ after) = before ++ [d] ++ trimFinal c after := by
  have hstop : (d == c) = false := beq_eq_false_iff_ne.mpr h
  rw [trimFinal, trimFinal, List.reverse_append, List.dropWhile_append]
  split
  · next hempty =>
    rw [List.isEmpty_iff.mp hempty]
    simp [hstop]
  · simp

/-- Only the character is removed, and it does not stand at the end any more. -/
theorem exists_trimFinal (c : Char) (text : List Char) :
    ∃ n, text = trimFinal c text ++ List.replicate n c ∧ (trimFinal c text).getLast? ≠ some c := by
  refine ⟨(text.reverse.takeWhile (· == c)).length, ?_, ?_⟩
  · have hall : ∀ d ∈ text.reverse.takeWhile (· == c), d = c := by
      intro d hd
      exact eq_of_beq (List.mem_takeWhile_imp (p := (· == c)) hd)
    rw [trimFinal, ← List.reverse_replicate, ← List.eq_replicate_of_mem hall,
      ← List.reverse_append, List.takeWhile_append_dropWhile, List.reverse_reverse]
  · rw [trimFinal, List.getLast?_reverse]
    intro hhead
    have hnot := List.head?_dropWhile_not (· == c) text.reverse
    rw [hhead] at hnot
    simp at hnot

/-! ## Numbers -/

/-- Larger numbers are not shorter. -/
theorem length_toString_le {m n : Nat} (h : m ≤ n) :
    (toString m).toList.length ≤ (toString n).toList.length := by
  rw [Nat.toString_eq_ofList_toDigits, Nat.toString_eq_ofList_toDigits, String.toList_ofList,
    String.toList_ofList]
  have hpos : 0 < (Nat.toDigits 10 n).length := Nat.length_toDigits_pos
  rw [Nat.length_toDigits_le_iff (by decide) hpos]
  exact Nat.lt_of_le_of_lt h ((Nat.length_toDigits_le_iff (by decide) hpos).mp (Nat.le_refl _))

theorem length_padLeft {width : Nat} {text : List Char} (h : text.length ≤ width) :
    (padLeft width text).length = width := by
  rw [padLeft, List.length_append, List.length_replicate]
  omega

/-! ## The lines around a line -/

def firstShown (line : Nat) : Nat := max 1 (line - 2)

def lastShown (text : List Char) (line : Nat) : Nat := min (line + 2) (text.splitOn '\n').length

/-- A line by its number, without the carriage returns at its end. -/
def shownLine (text : List Char) (number : Nat) : List Char :=
  trimFinal '\r' ((text.splitOn '\n').getD (number - 1) [])

section Window

variable {text : List Char} {line : Nat}

theorem surroundingLines_eq (hpos : 0 < line) (hle : line ≤ (text.splitOn '\n').length) :
    surroundingLines text line =
      (List.range' (firstShown line) (lastShown text line + 1 - firstShown line)).map
        fun n => (n, shownLine text n) := by
  have hfirst : firstShown line = line - 3 + 1 := by
    rw [firstShown]
    omega
  rw [surroundingLines, splitLines_eq_splitOn, if_neg (by omega), hfirst, lastShown]
  apply List.ext_getElem
  · simp only [reportMargin, List.length_mapIdx, List.length_drop, List.length_take,
      List.length_map, List.length_range']
    omega
  · intro i hi hi'
    have hindex : line - 3 + 1 + i - 1 = line - 3 + i := by omega
    simp only [reportMargin, List.length_mapIdx, List.length_drop, List.length_take] at hi
    have hlt : line - 3 + i < (text.splitOn '\n').length := by omega
    simp only [reportMargin, List.getElem_mapIdx, List.getElem_drop, List.getElem_take,
      List.getElem_map, List.getElem_range', Nat.one_mul, shownLine, hindex]
    rw [List.getD_eq_getElem?_getD, List.getElem?_eq_getElem hlt, Option.getD_some,
      Nat.add_right_comm]

/-- The lines before a line, the line, and the lines after it. -/
theorem range'_shown (hpos : 0 < line) (hle : line ≤ (text.splitOn '\n').length) :
    List.range' (firstShown line) (lastShown text line + 1 - firstShown line) =
      List.range' (firstShown line) (line - firstShown line) ++
        line :: List.range' (line + 1) (lastShown text line - line) := by
  have hfirst : firstShown line ≤ line := by
    rw [firstShown]
    omega
  have hlast : line ≤ lastShown text line := by
    rw [lastShown]
    omega
  have hcount : lastShown text line + 1 - firstShown line =
      (line - firstShown line) + (lastShown text line - line + 1) := by omega
  have hstart : firstShown line + 1 * (line - firstShown line) = line := by omega
  rw [hcount, ← List.range'_append, hstart, List.range'_succ]

end Window

/-! ## The marker to blame -/

namespace Marker

/-- A marker stands in one line. -/
theorem not_mem_spell {m : Marker} (h : m.WellFormed) : '\n' ∉ m.spell := by
  have hkind : ∀ kind : BlockKind, '\n' ∉ kind.keyword.toList := by
    intro kind
    cases kind <;> decide
  have hname : ∀ name, isReference name = true → '\n' ∉ name.toList := fun name hn =>
    not_mem_of_isReference hn (by decide) (by decide)
  cases m with
  | reference name => simpa [spell, inner] using hname name h
  | opening kind name => simpa [spell, inner] using ⟨hkind kind, hname name h⟩
  | closing kind => simpa [spell, inner] using hkind kind

end Marker

namespace SyntaxError

/-- Whether an error is about a marker. -/
def Concerns : SyntaxError → Marker → Prop
  | unmatchedClose kind _ _, m => m = .closing kind
  | unclosedBlock kind name _, m => m = .opening kind name
  | tooDeep _ _, m => ∃ kind name, m = .opening kind name

open Matching in
/-- An error is about a marker that stands at its place. -/
theorem exists_concerned {limit : Nat} {source : String} {e : SyntaxError}
    (h : Body.parse limit source = .error e) :
    ∃ m, e.Concerns m ∧ ⟨.marker m, e.position⟩ ∈ tokenize source := by
  cases hrun : run limit {} (tokenize source) with
  | ok s =>
    rw [Body.parse, Body.ofTokens_of_run hrun] at h
    have hreads := (reads_start (effectiveDepth limit)).run hrun
    obtain ⟨current, opened⟩ := s
    cases opened with
    | nil => contradiction
    | cons b opened =>
      obtain rfl := Except.error.inj h
      obtain ⟨before, after, hsplit, -⟩ := hreads.lastOpen rfl
      refine ⟨.opening b.kind b.name, rfl, ?_⟩
      rw [List.nil_append] at hsplit
      rw [hsplit]
      exact List.mem_append_right _ List.mem_cons_self
  | error e' =>
    rw [Body.parse, Body.ofTokens_of_run_error hrun] at h
    obtain rfl := Except.error.inj h
    obtain ⟨s, t, ht, hr⟩ := refusal_of_run_error hrun
    cases hr with
    | tooDeep => exact ⟨_, ⟨_, _, rfl⟩, ht⟩
    | unmatched => exact ⟨_, rfl, ht⟩

/-! ## The excerpt -/

/-- A line of a report without the line feed. -/
def printed (width : Nat) (margin line : List Char) : List Char :=
  padLeft width margin ++ [' ', '|', ' '] ++ line

/-- The lines of a report between its heading and its suggestion. -/
def printedLines (e : SyntaxError) (text : List Char) : List (List Char) :=
  let line := e.position.line
  let width := (toString (lastShown text line)).length
  let row := fun n => printed width (toString n).toList (shownLine text n)
  let caret := printed width [] (List.replicate (e.position.column - 1) ' ' ++ ['^'])
  (List.range' (firstShown line) (line - firstShown line)).map row ++
    row line :: caret :: (List.range' (line + 1) (lastShown text line - line)).map row

/-- More stands behind the row of one line only. -/
theorem flatMap_row {line : Nat} {before after : List Nat} (row : Nat → List Char)
    (caret : List Char) (hbefore : ∀ n ∈ before, n ≠ line) (hafter : ∀ n ∈ after, n ≠ line) :
    (before ++ line :: after).flatMap (fun n => if n = line then row n ++ caret else row n) =
      before.flatMap row ++ (row line ++ (caret ++ after.flatMap row)) := by
  have hrow : ∀ ns : List Nat, (∀ n ∈ ns, n ≠ line) →
      ns.flatMap (fun n => if n = line then row n ++ caret else row n) = ns.flatMap row := by
    intro ns hns
    apply List.flatMap_congr
    intro n hn
    rw [if_neg (hns n hn)]
  rw [List.flatMap_append, List.flatMap_cons, hrow before hbefore, hrow after hafter, if_pos rfl,
    List.append_assoc]

theorem excerpt_eq {e : SyntaxError} {text : List Char} (hpos : 0 < e.position.line)
    (hle : e.position.line ≤ (text.splitOn '\n').length) :
    e.excerpt text = '\n' :: (e.printedLines text).flatMap (· ++ ['\n']) := by
  have hlines := surroundingLines_eq hpos hle
  have hlast : (surroundingLines text e.position.line).getLast? =
      some (lastShown text e.position.line, shownLine text (lastShown text e.position.line)) := by
    have hpositive : 0 < lastShown text e.position.line + 1 - firstShown e.position.line := by
      rw [lastShown, firstShown]
      omega
    have hnumber : firstShown e.position.line +
        (lastShown text e.position.line + 1 - firstShown e.position.line) - 1 =
          lastShown text e.position.line := by omega
    rw [hlines, List.getLast?_map, List.getLast?_range', if_neg (Nat.ne_of_gt hpositive),
      Option.map_some, hnumber]
  have hbefore : ∀ n ∈ List.range' (firstShown e.position.line)
      (e.position.line - firstShown e.position.line), n ≠ e.position.line := by
    intro n hn
    have := List.mem_range'_1.mp hn
    omega
  have hafter : ∀ n ∈ List.range' (e.position.line + 1)
      (lastShown text e.position.line - e.position.line), n ≠ e.position.line := by
    intro n hn
    have := List.mem_range'_1.mp hn
    omega
  rw [range'_shown hpos hle] at hlines
  simp only [excerpt, hlast]
  rw [hlines, List.flatMap_map, List.cons.injEq]
  refine ⟨rfl, (flatMap_row _ _ hbefore hafter).trans ?_⟩
  rw [printedLines, List.flatMap_append, List.flatMap_cons, List.flatMap_cons, List.flatMap_map,
    List.flatMap_map]
  rfl

/-- How a report prints a line of a text: its number at the end of a margin, a bar, and the line
without the carriage returns at its end. -/
def Prints (width number : Nat) (line row : List Char) : Prop :=
  ∃ blanks shown returns,
    row = List.replicate blanks ' ' ++ (toString number).toList ++ [' ', '|', ' '] ++ shown ∧
    blanks + (toString number).length = width ∧
    line = shown ++ List.replicate returns '\r' ∧ shown.getLast? ≠ some '\r'

theorem prints_printed {width number : Nat} (line : List Char)
    (h : (toString number).length ≤ width) :
    Prints width number line (printed width (toString number).toList (trimFinal '\r' line)) := by
  obtain ⟨returns, hline, hlast⟩ := exists_trimFinal '\r' line
  refine ⟨width - (toString number).length, trimFinal '\r' line, returns, ?_, by omega, hline, hlast⟩
  rw [printed, padLeft, String.length_toList]

/-- The lines around the marker to blame as they are printed, with a caret below the marker. -/
structure Excerpt (e : SyntaxError) (source : String) where
  marker : Occurrence source.toList
  concerned : e.Concerns marker.marker
  marks : e.position.Marks marker.before
  /-- How many characters stand before each bar. -/
  width : Nat
  /-- What is printed of a line, by its number. -/
  row : Nat → List Char
  row_prints : ∀ n, firstShown e.position.line ≤ n →
    n ≤ lastShown source.toList e.position.line →
      ∃ line, (source.toList.splitOn '\n')[n - 1]? = some line ∧ Prints width n line (row n)
  /-- What is printed before and after the marker on its line. -/
  lead : List Char
  tail : List Char
  row_eq : row e.position.line = lead ++ (marker.written.toList ++ tail)
  /-- How many blanks stand between the bar and the caret. -/
  indent : Nat
  length_lead : lead.length = width + [' ', '|', ' '].length + indent

namespace Excerpt

variable {e : SyntaxError} {source : String}

def caret (x : Excerpt e source) : List Char :=
  List.replicate x.width ' ' ++ [' ', '|', ' '] ++ List.replicate x.indent ' ' ++ ['^']

/-- The lines that are shown, with the caret below the one of the marker. -/
def rows (x : Excerpt e source) : List (List Char) :=
  let line := e.position.line
  (List.range' (firstShown line) (line - firstShown line)).map x.row ++
    x.row line :: x.caret ::
      (List.range' (line + 1) (lastShown source.toList line - line)).map x.row

end Excerpt

/-- A marker ends with a brace, so nothing of it is removed at the end of its line. -/
theorem trimFinal_spell (before rest : List Char) (m : Marker) :
    trimFinal '\r' (before ++ (m.spell ++ rest)) = before ++ (m.spell ++ trimFinal '\r' rest) := by
  have hspell : m.spell = '{' :: '{' :: (m.inner ++ ['}']) ++ ['}'] := by simp [Marker.spell]
  have htrim := trimFinal_append (show '}' ≠ '\r' by decide)
    (before ++ '{' :: '{' :: (m.inner ++ ['}'])) rest
  rw [hspell]
  simpa only [List.append_assoc] using htrim

/-- Every line that is shown is printed with its bar in one column. -/
theorem prints_shownLine {text : List Char} {line number : Nat} (hfirst : firstShown line ≤ number)
    (hlast : number ≤ lastShown text line) :
    ∃ content, (text.splitOn '\n')[number - 1]? = some content ∧
      Prints (toString (lastShown text line)).length number content
        (printed (toString (lastShown text line)).length (toString number).toList
          (shownLine text number)) := by
  have hlt : number - 1 < (text.splitOn '\n').length := by
    rw [firstShown] at hfirst
    rw [lastShown] at hlast
    omega
  have hcontent := List.getElem?_eq_getElem hlt
  have hshown : shownLine text number = trimFinal '\r' (text.splitOn '\n')[number - 1] := by
    rw [shownLine, List.getD_eq_getElem?_getD, hcontent, Option.getD_some]
  refine ⟨_, hcontent, ?_⟩
  rw [hshown]
  apply prints_printed
  simpa only [String.length_toList] using length_toString_le hlast

/-- Where a marker stands there is a line that is shown with the marker in it, behind what precedes
the marker on that line. -/
theorem exists_shownLine_eq {source : String} (o : Occurrence source.toList) {p : Position}
    (hmarks : p.Marks o.before) :
    0 < p.line ∧ p.line ≤ (source.toList.splitOn '\n').length ∧
      ∃ rest, shownLine source.toList p.line = lastLine o.before ++ (o.marker.spell ++ rest) := by
  have hline := hmarks.line_eq
  obtain ⟨rest, hrest⟩ :=
    exists_getElem?_splitLines o.before o.after (Marker.not_mem_spell o.wellFormed)
  have hindex : o.before.count '\n' = p.line - 1 := by omega
  rw [← o.text_eq_spell, splitLines_eq_splitOn, hindex] at hrest
  obtain ⟨hlt, -⟩ := List.getElem?_eq_some_iff.mp hrest
  refine ⟨by omega, by omega, trimFinal '\r' rest, ?_⟩
  rw [shownLine, List.getD_eq_getElem?_getD, hrest, Option.getD_some, trimFinal_spell]

/-- The excerpt around an occurrence of a marker at the place of an error. -/
theorem exists_excerpt {e : SyntaxError} {source : String} (o : Occurrence source.toList)
    (hconcerned : e.Concerns o.marker) (hmarks : e.position.Marks o.before) :
    ∃ x : Excerpt e source, x.rows = e.printedLines source.toList := by
  obtain ⟨hpos, hle, rest, hshown⟩ := exists_shownLine_eq o hmarks
  let width := (toString (lastShown source.toList e.position.line)).length
  have hlast : e.position.line ≤ lastShown source.toList e.position.line := by
    rw [lastShown]
    omega
  have hwidth : (toString e.position.line).toList.length ≤ width := length_toString_le hlast
  let x : Excerpt e source :=
    { marker := o
      concerned := hconcerned
      marks := hmarks
      width := width
      row := fun n => printed width (toString n).toList (shownLine source.toList n)
      row_prints := fun _ hfirst hlast => prints_shownLine hfirst hlast
      lead := padLeft width (toString e.position.line).toList ++ [' ', '|', ' '] ++
        lastLine o.before
      tail := rest
      row_eq := by
        rw [printed, hshown, o.toList_written, List.append_assoc _ (lastLine o.before)]
      indent := (lastLine o.before).length
      length_lead := by
        rw [List.length_append, List.length_append, length_padLeft hwidth] }
  have hcaret : x.caret =
      printed width [] (List.replicate (e.position.column - 1) ' ' ++ ['^']) := by
    have hcolumn := hmarks.column_eq
    have hindent : e.position.column - 1 = (lastLine o.before).length := by omega
    rw [hindent, printed, padLeft, Excerpt.caret]
    simp only [List.length_nil, Nat.sub_zero, List.append_nil, List.append_assoc]
    rfl
  refine ⟨x, ?_⟩
  rw [Excerpt.rows, hcaret]
  rfl

def heading (e : SyntaxError) (name : Option String) : String :=
  let title := match name with
    | some name => "Template: " ++ name ++ "\n"
    | none => ""
  "ERROR: Template Syntax Error\n\n" ++ "Error: " ++ e.message ++ "\n" ++ title ++
    s!"Line: {e.position.line}\n"

theorem report_eq (e : SyntaxError) (source : String) (name : Option String) :
    e.report source name =
      e.heading name ++ String.ofList (e.excerpt source.toList) ++ "\n" ++ e.suggestion := by
  cases name <;> rfl

/-- The report of a syntax error shows the lines around the marker to blame, and the caret stands
below the first brace of the marker. -/
theorem report_points {limit : Nat} {source : String} {e : SyntaxError}
    (h : Body.parse limit source = .error e) (name : Option String) :
    ∃ x : Excerpt e source, e.report source name =
      e.heading name ++ ("\n" ++ String.ofList (x.rows.flatMap (· ++ ['\n']))) ++ "\n" ++
        e.suggestion := by
  obtain ⟨m, hconcerned, hmem⟩ := exists_concerned h
  obtain ⟨o, rfl, hposition⟩ := marker_mem_tokenize_iff.mp hmem
  have hmarks : e.position.Marks o.before := hposition ▸ Position.marks_after_start o.before
  obtain ⟨hpos, hle, -⟩ := exists_shownLine_eq o hmarks
  obtain ⟨x, hrows⟩ := exists_excerpt o hconcerned hmarks
  have hexcerpt : e.excerpt source.toList = ['\n'] ++ x.rows.flatMap (· ++ ['\n']) := by
    rw [excerpt_eq hpos hle, hrows]
    rfl
  have hnewLine : String.ofList ['\n'] = "\n" := rfl
  refine ⟨x, ?_⟩
  rw [report_eq, hexcerpt, String.ofList_append, hnewLine]

/-- Eleven lines, some of which end with a carriage return, and a closing for no block in the tenth
one, behind a character of two bytes. -/
def longTemplate : String :=
  "1\n2\n3\n4\n5\n6\n7\n8\r\n9\nnaïve \x7b\x7b/if\x7d\x7d\r\nend"

theorem report_points_longTemplate :
    Body.parse 64 longTemplate = .error (.unmatchedClose .conditional none ⟨26, 10, 7⟩) ∧
      ∃ x : Excerpt (.unmatchedClose .conditional none ⟨26, 10, 7⟩) longTemplate,
        (unmatchedClose .conditional none ⟨26, 10, 7⟩).report longTemplate (some "lesson.md") =
          (unmatchedClose .conditional none ⟨26, 10, 7⟩).heading (some "lesson.md") ++
            ("\n" ++ String.ofList (x.rows.flatMap (· ++ ['\n']))) ++ "\n" ++
            (unmatchedClose .conditional none ⟨26, 10, 7⟩).suggestion := by
  have htokens : tokenize longTemplate =
      [⟨.literal "1\n2\n3\n4\n5\n6\n7\n8\r\n9\nnaïve ", ⟨0, 1, 1⟩⟩,
        ⟨.marker (.closing .conditional), ⟨26, 10, 7⟩⟩, ⟨.literal "\r\nend", ⟨33, 10, 14⟩⟩] := by
    decide +kernel
  have hparse : Body.parse 64 longTemplate =
      .error (.unmatchedClose .conditional none ⟨26, 10, 7⟩) := by
    rw [Body.parse, htokens]
    rfl
  exact ⟨hparse, report_points hparse (some "lesson.md")⟩

example : (unmatchedClose .conditional none ⟨26, 10, 7⟩).excerpt longTemplate.toList =
    ("\n 8 | 8\n 9 | 9\n10 | naïve \x7b\x7b/if\x7d\x7d\n" ++
      "   |       ^\n11 | end\n").toList := by decide +kernel

end SyntaxError

end Worksheet
