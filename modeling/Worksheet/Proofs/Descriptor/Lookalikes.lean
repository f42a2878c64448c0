import Worksheet.Proofs.Descriptor.Warnings
import Worksheet.Proofs.Template.Position

/-!
Text in double braces that is no marker. A check searches each literal for it. Two texts in double
braces never overlap if no brace stands inside, so nothing is hidden at the end of a literal, and
the literals hold exactly what a search of the whole template finds besides its markers.
-/

namespace Worksheet

/-! ## Reading text in double braces -/

variable {text inner rest : List Char}

theorem braceFree_iff : BraceFree text ↔ ∀ c ∈ text, isNoBrace c = true := by
  simp only [BraceFree, isNoBrace, Bool.and_eq_true, bne_iff_ne]
  constructor
  · intro h c hc
    exact ⟨fun he => h.1 (he ▸ hc), fun he => h.2 (he ▸ hc)⟩
  · intro h
    exact ⟨fun hc => (h _ hc).1 rfl, fun hc => (h _ hc).2 rfl⟩

/-- A text starts with text in double braces exactly if it can be read there. -/
theorem readBraced?_eq_some_iff :
    readBraced? text = some (inner, rest) ↔ BraceFree inner ∧ text = fenced inner ++ rest := by
  constructor
  · intro h
    unfold readBraced? at h
    split at h
    · next t =>
      split at h
      · next tail hdrop =>
        obtain ⟨rfl, rfl⟩ := Prod.mk.inj (Option.some.inj h)
        have ht : t = t.takeWhile isNoBrace ++ '}' :: '}' :: tail := by
          rw [← hdrop, List.takeWhile_append_dropWhile]
        refine ⟨braceFree_iff.mpr fun c hc => List.mem_takeWhile_imp hc, ?_⟩
        conv_lhs => rw [ht]
        simp [fenced]
      · contradiction
    · contradiction
  · rintro ⟨hfree, rfl⟩
    have hall := braceFree_iff.mp hfree
    have hdrop : (inner ++ '}' :: '}' :: rest).dropWhile isNoBrace = '}' :: '}' :: rest := by
      rw [List.dropWhile_append_of_pos hall]
      rfl
    have htake : (inner ++ '}' :: '}' :: rest).takeWhile isNoBrace = inner := by
      rw [List.takeWhile_append_of_pos hall]
      exact List.append_nil inner
    simp only [fenced, List.cons_append, List.append_assoc, List.nil_append, readBraced?, hdrop,
      htake]

/-- One place of a text starts one text in double braces at most. -/
theorem fenced_append_inj {inner' s t : List Char} (h : BraceFree inner) (h' : BraceFree inner')
    (he : fenced inner ++ s = fenced inner' ++ t) : inner = inner' ∧ s = t := by
  have hread : some (inner, s) = some (inner', t) := by
    rw [← readBraced?_eq_some_iff.mpr ⟨h, rfl⟩, ← readBraced?_eq_some_iff.mpr ⟨h', rfl⟩, he]
  exact Prod.mk.inj (Option.some.inj hread)

theorem count_fenced (inner : List Char) : (fenced inner).count '\n' = inner.count '\n' := by
  simp [fenced]

theorem bracedTexts_nil (line : Nat) : bracedTexts line [] = [] := by
  rw [bracedTexts]
  split
  · rename_i h
    contradiction
  · rfl

theorem bracedTexts_fenced (line : Nat) (rest : List Char) (h : BraceFree inner) :
    bracedTexts line (fenced inner ++ rest) =
      (line, braced (String.ofList inner)) :: bracedTexts (line + inner.count '\n') rest := by
  have hread := readBraced?_eq_some_iff.mpr ⟨h, Eq.refl (fenced inner ++ rest)⟩
  rw [bracedTexts]
  split
  · rename_i h'
    rw [hread] at h'
    obtain ⟨rfl, rfl⟩ := Prod.mk.inj (Option.some.inj h')
    rfl
  · rename_i h'
    rw [hread] at h'
    contradiction

theorem nextLine_eq (line : Nat) (c : Char) :
    (if c = '\n' then line + 1 else line) = line + [c].count '\n' := by
  by_cases hc : c = '\n' <;> simp [hc]

theorem bracedTexts_cons {c : Char} (line : Nat) (h : readBraced? (c :: rest) = none) :
    bracedTexts line (c :: rest) = bracedTexts (line + [c].count '\n') rest := by
  rw [bracedTexts]
  split
  · rename_i h'
    rw [h] at h'
    contradiction
  · rw [← nextLine_eq]

/-! ## Enclosures -/

/-- A text in double braces without a brace inside, where it stands in a text. -/
structure Enclosure (text : List Char) where
  before : List Char
  inner : String
  after : List Char
  braceFree : BraceFree inner.toList
  text_eq : text = before ++ ((braced inner).toList ++ after)

namespace Enclosure

def written (e : Enclosure text) : String := braced e.inner

def start (e : Enclosure text) : Nat := e.before.length

def line (e : Enclosure text) : Nat := 1 + e.before.count '\n'

/-- Whether it is no well-formed marker. -/
def Unrecognized (e : Enclosure text) : Prop := ¬ ∃ m : Marker, m.Written e.written

def warning (e : Enclosure text) : DescriptorWarning := .unrecognizedMarker e.written e.line

theorem toList_written (e : Enclosure text) : e.written.toList = fenced e.inner.toList :=
  Marker.toList_braced e.inner

theorem text_eq_fenced (e : Enclosure text) :
    text = e.before ++ (fenced e.inner.toList ++ e.after) := by
  rw [← e.toList_written]
  exact e.text_eq

/-- The text in double braces that a text starts with. -/
def ofFenced (h : BraceFree inner) (rest : List Char) : Enclosure (fenced inner ++ rest) where
  before := []
  inner := String.ofList inner
  after := rest
  braceFree := by rwa [String.toList_ofList]
  text_eq := by rw [Marker.toList_braced, String.toList_ofList]; rfl

/-- The same text in double braces with more text before it. -/
def push (l : List Char) (e : Enclosure text) : Enclosure (l ++ text) where
  before := l ++ e.before
  inner := e.inner
  after := e.after
  braceFree := e.braceFree
  text_eq := by rw [List.append_assoc, ← e.text_eq]

theorem eq_of_before_eq {e f : Enclosure text} (h : e.before = f.before) : e = f := by
  have he : e.before ++ (fenced e.inner.toList ++ e.after) =
      f.before ++ (fenced f.inner.toList ++ f.after) := by
    rw [← e.text_eq_fenced, ← f.text_eq_fenced]
  rw [h] at he
  obtain ⟨hinner, hafter⟩ :=
    fenced_append_inj e.braceFree f.braceFree (List.append_cancel_left he)
  have hinner' : e.inner = f.inner := String.toList_inj.mp hinner
  cases e
  cases f
  subst h hinner' hafter
  rfl

/-- What stands behind other text was there before that text was put in front. -/
theorem exists_push {l : List Char} (e : Enclosure (l ++ text)) (h : l <+: e.before) :
    ∃ f : Enclosure text, e = f.push l := by
  obtain ⟨a, ha⟩ := h
  have htext : l ++ text = l ++ (a ++ ((braced e.inner).toList ++ e.after)) := by
    rw [← List.append_assoc, ha]
    exact e.text_eq
  exact ⟨⟨a, e.inner, e.after, e.braceFree, List.append_cancel_left htext⟩,
    eq_of_before_eq ha.symm⟩

/-- Behind text in double braces the next one starts after it. -/
theorem eq_ofFenced_or_push (h : BraceFree inner) (e : Enclosure (fenced inner ++ rest)) :
    e = ofFenced h rest ∨ ∃ f : Enclosure rest, e = f.push (fenced inner) := by
  by_cases hb : e.before = []
  · exact .inl (eq_of_before_eq hb)
  · right
    have hle := length_fenced_le h hb e.text_eq_fenced
    exact e.exists_push (List.prefix_of_prefix_length_le (List.prefix_append _ rest)
      ⟨_, e.text_eq_fenced.symm⟩ hle)

/-- What has no text in double braces at its start has it later. -/
theorem exists_push_of_none {c : Char} (h : readBraced? (c :: rest) = none)
    (e : Enclosure (c :: rest)) : ∃ f : Enclosure rest, e = f.push [c] := by
  apply exists_push (l := [c])
  cases hb : e.before with
  | nil =>
    have htext := e.text_eq_fenced
    rw [hb, List.nil_append] at htext
    rw [readBraced?_eq_some_iff.mpr ⟨e.braceFree, htext⟩] at h
    contradiction
  | cons d l =>
    have htext := e.text_eq
    rw [hb] at htext
    obtain rfl := (List.cons.inj htext).1
    exact ⟨l, rfl⟩

theorem pairwise_push {found : List (Enclosure text)} (l : List Char)
    (h : found.Pairwise fun e f => e.start < f.start) :
    (found.map (push l)).Pairwise fun e f => e.start < f.start := by
  refine List.pairwise_map.mpr (h.imp ?_)
  intro e f hlt
  simpa [start, push] using hlt

/-- The texts in double braces with their lines, if the text they stand in starts on a line. -/
def listed (line : Nat) (found : List (Enclosure text)) : List (Nat × String) :=
  found.map fun e => (line + e.before.count '\n', e.written)

theorem listed_push (line : Nat) (l : List Char) (found : List (Enclosure text)) :
    listed line (found.map (push l)) = listed (line + l.count '\n') found := by
  rw [listed, List.map_map]
  apply List.map_congr_left
  intro e _
  simp [push, written, Nat.add_assoc]

end Enclosure

/-- The search of a text finds all texts in double braces in their order, each with its line. -/
theorem exists_enclosures (line : Nat) (text : List Char) :
    ∃ found : List (Enclosure text), bracedTexts line text = Enclosure.listed line found ∧
      found.Pairwise (fun e f => e.start < f.start) ∧ ∀ e, e ∈ found := by
  fun_induction bracedTexts line text with
  | case1 line text inner rest hread ih =>
    obtain ⟨hfree, rfl⟩ := readBraced?_eq_some_iff.mp hread
    obtain ⟨found, hfound, hsorted, hall⟩ := ih
    refine ⟨.ofFenced hfree rest :: found.map (Enclosure.push (fenced inner)), ?_, ?_, ?_⟩
    · rw [hfound, ← count_fenced, ← Enclosure.listed_push]
      rfl
    · refine .cons ?_ (Enclosure.pairwise_push (fenced inner) hsorted)
      intro e he
      obtain ⟨f, _, rfl⟩ := List.mem_map.mp he
      simp [Enclosure.start, Enclosure.ofFenced, Enclosure.push, fenced]
    · intro e
      rcases e.eq_ofFenced_or_push hfree with rfl | ⟨f, rfl⟩
      · exact List.mem_cons_self
      · exact List.mem_cons_of_mem _ (List.mem_map_of_mem (hall f))
  | case2 line =>
    refine ⟨[], rfl, .nil, ?_⟩
    intro e
    have hlen := congrArg List.length e.text_eq_fenced
    simp [fenced] at hlen
  | case3 line c rest hread ih =>
    obtain ⟨found, hfound, hsorted, hall⟩ := ih
    rw [dite_eq_ite, nextLine_eq, ← Enclosure.listed_push] at hfound
    refine ⟨found.map (Enclosure.push [c]), ?_, Enclosure.pairwise_push [c] hsorted, ?_⟩
    · rw [nextLine_eq]
      exact hfound
    · intro e
      obtain ⟨f, rfl⟩ := e.exists_push_of_none hread
      exact List.mem_map_of_mem (hall f)

/-- Whether text in double braces is read as no marker. -/
def isLookalike (written : String) : Bool := (Marker.read? written.toList).isNone

theorem Enclosure.isLookalike_iff {e : Enclosure text} :
    isLookalike e.written = true ↔ e.Unrecognized := by
  rw [isLookalike, Option.isNone_iff_eq_none]
  constructor
  · rintro hnone ⟨m, hm⟩
    obtain ⟨hwell, hspell⟩ := Marker.written_iff.mp hm
    have hread := Marker.read?_spell_append hwell []
    rw [List.append_nil, ← hspell, hnone] at hread
    contradiction
  · intro hun
    rw [Option.eq_none_iff_forall_ne_some]
    rintro ⟨m, rest⟩ hread
    obtain ⟨hwell, he⟩ := Marker.read?_eq_some_iff.mp hread
    -- both are text in double braces, so nothing of the one follows the other
    have he' : fenced e.inner.toList ++ [] = fenced m.inner ++ rest := by
      rw [List.append_nil, ← e.toList_written, he, Marker.spell_eq_fenced]
    obtain ⟨-, rfl⟩ := fenced_append_inj e.braceFree (Marker.braceFree_inner hwell) he'
    rw [List.append_nil] at he
    exact hun ⟨m, Marker.written_iff.mpr ⟨hwell, he⟩⟩

/-! ## Literals and the whole template -/

/-- Whether a text is at its end or opens double braces. -/
def Opens (text : List Char) : Prop := text = [] ∨ ∃ t, text = '{' :: '{' :: t

theorem readBraced?_append_of_opens {l : List Char} (h : Opens rest) (hl : l ≠ [])
    (hnone : readBraced? l = none) : readBraced? (l ++ rest) = none := by
  rcases h with rfl | ⟨t, rfl⟩
  · rwa [List.append_nil]
  rw [Option.eq_none_iff_forall_ne_some]
  rintro ⟨inner, tail⟩ hread
  obtain ⟨hfree, he⟩ := readBraced?_eq_some_iff.mp hread
  have hle := length_fenced_le hfree hl he.symm
  obtain ⟨a, ha⟩ := List.prefix_of_prefix_length_le ⟨tail, he.symm⟩ (List.prefix_append l _) hle
  rw [readBraced?_eq_some_iff.mpr ⟨hfree, ha.symm⟩] at hnone
  contradiction

/-- No text in double braces goes beyond a place where double braces open. -/
theorem bracedTexts_append (line : Nat) (l : List Char) (h : Opens rest) :
    bracedTexts line (l ++ rest) =
      bracedTexts line l ++ bracedTexts (line + l.count '\n') rest := by
  fun_induction bracedTexts line l with
  | case1 line l inner tail hread ih =>
    obtain ⟨hfree, rfl⟩ := readBraced?_eq_some_iff.mp hread
    rw [List.append_assoc, bracedTexts_fenced line _ hfree, ih, List.count_append, count_fenced,
      Nat.add_assoc, List.cons_append]
  | case2 line => simp
  | case3 line c tail hread ih =>
    have hcons : readBraced? (c :: (tail ++ rest)) = none :=
      readBraced?_append_of_opens h (List.cons_ne_nil c tail) hread
    rw [dite_eq_ite, nextLine_eq] at ih
    rw [nextLine_eq, List.cons_append, bracedTexts_cons line hcons, ih, Nat.add_assoc,
      ← List.count_append]
    rfl

/-- The warnings that a search of a text gives reason to, besides its markers. -/
def lookalikeWarnings (line : Nat) (text : List Char) : List DescriptorWarning :=
  ((bracedTexts line text).filter fun b => isLookalike b.2).map fun b => .unrecognizedMarker b.2 b.1

theorem lookalikeWarnings_append (line : Nat) (l : List Char) (h : Opens rest) :
    lookalikeWarnings line (l ++ rest) =
      lookalikeWarnings line l ++ lookalikeWarnings (line + l.count '\n') rest := by
  simp only [lookalikeWarnings, bracedTexts_append line l h, List.filter_append, List.map_append]

theorem lookalikeWarnings_spell {m : Marker} (line : Nat) (rest : List Char) (hm : m.WellFormed) :
    lookalikeWarnings line (m.spell ++ rest) =
      lookalikeWarnings (line + m.spell.count '\n') rest := by
  have hfree := Marker.braceFree_inner hm
  have hread : isLookalike (braced (String.ofList m.inner)) = false := by
    have hspell : (braced (String.ofList m.inner)).toList = m.spell ++ [] := by
      rw [Marker.toList_braced, String.toList_ofList, List.append_nil, Marker.spell_eq_fenced]
    rw [isLookalike, hspell, Marker.read?_spell_append hm]
    rfl
  rw [Marker.spell_eq_fenced]
  simp [lookalikeWarnings, bracedTexts_fenced line rest hfree, hread, count_fenced]

/-- In a literal no text in double braces is a marker. -/
theorem unrecognized_literal {t : String} {p : Position} (h : MarkerFree t.toList) :
    Token.unrecognized ⟨.literal t, p⟩ = lookalikeWarnings p.line t.toList := by
  have hall : ∀ b ∈ bracedTexts p.line t.toList, isLookalike b.2 = true := by
    intro b hb
    obtain ⟨found, hfound, -, -⟩ := exists_enclosures p.line t.toList
    rw [hfound, Enclosure.listed] at hb
    obtain ⟨e, -, rfl⟩ := List.mem_map.mp hb
    apply e.isLookalike_iff.mpr
    rintro ⟨m, hm⟩
    exact h m _ hm ⟨e.before, e.after, by rw [List.append_assoc]; exact e.text_eq.symm⟩
  rw [lookalikeWarnings, List.filter_eq_self.mpr hall]
  rfl

/-- What follows a literal opens double braces, as it is a marker. -/
theorem Lexeme.Separated.opens {t : String} {xs : List Lexeme}
    (h : Separated (.literal t :: xs)) : Opens (xs.flatMap spell) := by
  obtain ⟨-, -, hhead, -⟩ := h
  cases xs with
  | nil => exact .inl rfl
  | cons x xs =>
    cases x with
    | literal u => exact absurd rfl (hhead u)
    | marker m => exact .inr ⟨_, rfl⟩

/-- The literals of a text give reason to the same warnings as the text as a whole. -/
theorem flatMap_unrecognized_place {before : List Char} {p : Position} {xs : List Lexeme}
    (hp : p.Marks before) (h : Lexeme.Separated xs) :
    (Token.place p xs).flatMap Token.unrecognized =
      lookalikeWarnings p.line (xs.flatMap Lexeme.spell) := by
  induction xs generalizing before p with
  | nil => simp [Token.place, lookalikeWarnings, bracedTexts_nil]
  | cons x xs ih =>
    have hrest := ih (hp.after x.spell) h.tail
    rw [hp.line_after] at hrest
    rw [Token.place, List.flatMap_cons, List.flatMap_cons, hrest]
    cases x with
    | marker m =>
      exact (lookalikeWarnings_spell p.line _ h.1).symm
    | literal t =>
      rw [unrecognized_literal h.2.1]
      exact (lookalikeWarnings_append p.line t.toList h.opens).symm

theorem warnings_checkMarkers (template : String) :
    (checkMarkers template).warnings = lookalikeWarnings 1 template.toList := by
  obtain ⟨hsep, hspell⟩ := Lexeme.scan_eq_iff.mp (Eq.refl (Lexeme.scan [] template.toList))
  rw [← hspell]
  exact flatMap_unrecognized_place Position.marks_start hsep

/-! ## Descriptors -/

/-- Whether the warning is about text in double braces. -/
def DescriptorWarning.isUnrecognizedMarker : DescriptorWarning → Bool
  | unrecognizedMarker _ _ => true
  | _ => false

namespace Descriptor

open DescriptorWarning

/-- The declarations and the references never give reason to such a warning. -/
theorem filter_warnings_validate (limit : Nat) (d : Descriptor) :
    (d.validate limit).warnings.filter isUnrecognizedMarker =
      (checkMarkers d.template).warnings := by
  have hvariables : (checkVariables [] d.inputs).warnings.filter isUnrecognizedMarker = [] := by
    apply List.filter_eq_nil_iff.mpr
    intro w hw
    rcases warnings_checkVariables_cases hw with rfl | ⟨_, _, rfl⟩ <;> simp [isUnrecognizedMarker]
  have hmarkers : (checkMarkers d.template).warnings.filter isUnrecognizedMarker =
      (checkMarkers d.template).warnings := by
    apply List.filter_eq_self.mpr
    intro w hw
    rw [warnings_checkMarkers] at hw
    obtain ⟨_, _, rfl⟩ := List.mem_map.mp hw
    rfl
  have htemplate : (d.checkTemplate limit).warnings.filter isUnrecognizedMarker = [] := by
    rw [checkTemplate]
    split
    · apply List.filter_eq_nil_iff.mpr
      intro w hw
      have habout := aboutReferences_of_mem_checkReferences hw
      cases w with
      | unrecognizedMarker => contradiction
      | _ => simp [isUnrecognizedMarker]
    · rfl
  simp only [validate, Findings.warnings_append, List.filter_append, hvariables,
    warnings_checkSections, hmarkers, htemplate, List.nil_append, List.append_nil]

/-- The warnings about text in double braces are those about the stretches of the template that
are no well-formed markers: one for each, in their order, with the stretch itself and the line it
starts on. -/
theorem lookalikes_reported (limit : Nat) (d : Descriptor) :
    ∃ found : List (Enclosure d.template.toList),
      (∀ e, e ∈ found ↔ e.Unrecognized) ∧
      found.Pairwise (fun e f => e.start < f.start) ∧
      (d.validate limit).warnings.filter isUnrecognizedMarker = found.map Enclosure.warning ∧
      ((d.validate limit).warnings.filter isUnrecognizedMarker).map DescriptorWarning.message =
        found.map fun e => "'" ++ e.written ++ "' on line " ++ toString e.line ++
          " is not a recognized marker and renders as literal text" := by
  obtain ⟨all, hsearch, hsorted, hall⟩ := exists_enclosures 1 d.template.toList
  have hmem : ∀ e, e ∈ all.filter (fun e => isLookalike e.written) ↔ e.Unrecognized := by
    intro e
    rw [List.mem_filter, e.isLookalike_iff]
    exact and_iff_right (hall e)
  have hwarnings : (d.validate limit).warnings.filter isUnrecognizedMarker =
      (all.filter fun e => isLookalike e.written).map Enclosure.warning := by
    rw [filter_warnings_validate, warnings_checkMarkers, lookalikeWarnings, hsearch,
      Enclosure.listed, List.filter_map, List.map_map]
    rfl
  refine ⟨_, hmem, hsorted.filter _, hwarnings, ?_⟩
  rw [hwarnings, List.map_map]
  rfl

end Descriptor

end Worksheet
