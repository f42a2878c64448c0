import Worksheet.Proofs.Template.Marker
import Worksheet.Template.Token

/-!
What a scan finds. A sequence of lexemes is separated if its markers are well-formed, its literals
hold no marker and are not empty, and no two literals are neighbours. Every text is spelled by
exactly one separated sequence, and that sequence is the one a scan gives. All markers of a text
are lexemes of it.
-/

namespace Worksheet

/-- No well-formed marker occurs in the text. -/
def MarkerFree (text : List Char) : Prop :=
  ∀ (m : Marker) (w : String), m.Written w → ¬ w.toList <:+: text

theorem markerFree_iff {text : List Char} :
    MarkerFree text ↔ ∀ m : Marker, m.WellFormed → ¬ m.spell <:+: text := by
  constructor
  · intro h m hm
    have hw : m.Written (String.ofList m.spell) :=
      Marker.written_iff.mpr ⟨hm, String.toList_ofList⟩
    simpa using h m _ hw
  · intro h m w hw
    obtain ⟨hm, he⟩ := Marker.written_iff.mp hw
    rw [he]
    exact h m hm

namespace Lexeme

/-- The sequences of lexemes that a text can have. -/
def Separated : List Lexeme → Prop
  | [] => True
  | marker m :: xs => m.WellFormed ∧ Separated xs
  | literal text :: xs =>
    text ≠ "" ∧ MarkerFree text.toList ∧ (∀ t, xs.head? ≠ some (literal t)) ∧ Separated xs

theorem spell_ne_nil_of_separated {x : Lexeme} {xs : List Lexeme} (h : Separated (x :: xs)) :
    x.spell ≠ [] := by
  cases x with
  | literal text =>
    intro he
    exact h.1 (String.toList_inj.mp he)
  | marker m => exact m.spell_ne_nil

theorem Separated.tail {x : Lexeme} {xs : List Lexeme} (h : Separated (x :: xs)) :
    Separated xs := by
  cases x with
  | literal text => exact h.2.2.2
  | marker m => exact h.2

theorem Separated.of_append {xs ys : List Lexeme} (h : Separated (xs ++ ys)) : Separated ys := by
  induction xs with
  | nil => exact h
  | cons x xs ih => exact ih h.tail

/-! ## Where no marker starts -/

/-- No marker starts inside `l` when `rest` follows. -/
def NoStart (l rest : List Char) : Prop :=
  ∀ s, s ≠ [] → s <:+ l → Marker.read? (s ++ rest) = none

theorem noStart_nil (rest : List Char) : NoStart [] rest := by
  intro s hs hl
  exact absurd (List.suffix_nil.mp hl) hs

theorem NoStart.concat {l rest : List Char} {c : Char} (h : NoStart l (c :: rest))
    (hc : Marker.read? (c :: rest) = none) : NoStart (l ++ [c]) rest := by
  intro s hs hl
  rcases List.suffix_concat_iff.mp hl with rfl | ⟨r, rfl, hr⟩
  · contradiction
  · rw [List.append_assoc]
    cases r with
    | nil => exact hc
    | cons d r => exact h (d :: r) (by simp) hr

theorem NoStart.cons {l rest : List Char} {c : Char} (h : NoStart (c :: l) rest) :
    Marker.read? (c :: (l ++ rest)) = none ∧ NoStart l rest :=
  ⟨h (c :: l) (by simp) List.suffix_rfl,
    fun s hs hl => h s hs (hl.trans (List.suffix_cons c l))⟩

theorem NoStart.markerFree {l rest : List Char} (h : NoStart l rest) : MarkerFree l := by
  rw [markerFree_iff]
  rintro m hm ⟨s, t, rfl⟩
  have hnone := h (m.spell ++ t) (by simp [m.spell_ne_nil]) ⟨s, by simp⟩
  rw [List.append_assoc, Marker.read?_spell_append hm] at hnone
  contradiction

/-- No marker starts in a literal: it would end in the literal, where none occurs, or overlap with
the marker that comes next. -/
theorem Separated.noStart {text : String} {xs : List Lexeme} (h : Separated (literal text :: xs)) :
    NoStart text.toList (xs.flatMap spell) := by
  obtain ⟨_, hfree, hhead, hxs⟩ := h
  rw [markerFree_iff] at hfree
  rintro s hs ⟨r, hr⟩
  rw [Option.eq_none_iff_forall_ne_some]
  rintro ⟨m, rest⟩ hread
  obtain ⟨hm, he⟩ := Marker.read?_eq_some_iff.mp hread
  have hle : m.spell.length ≤ s.length := by
    cases xs with
    | nil =>
      rw [List.flatMap_nil, List.append_nil] at he
      simp [he]
    | cons x xs =>
      cases x with
      | literal t => exact absurd rfl (hhead t)
      | marker n => exact Marker.length_spell_le hm hs he.symm
  have hstart : m.spell <+: s :=
    List.prefix_of_prefix_length_le ⟨rest, he.symm⟩ (List.prefix_append s _) hle
  exact hfree m hm (hstart.isInfix.trans ⟨r, [], by simpa using hr⟩)

/-! ## The scan -/

theorem scan_of_read? {pending text rest : List Char} {m : Marker}
    (h : Marker.read? text = some (m, rest)) :
    scan pending text = ofPending pending ++ marker m :: scan [] rest := by
  rw [scan]
  split
  · rename_i h'
    rw [h] at h'
    obtain ⟨rfl, rfl⟩ := Prod.mk.inj (Option.some.inj h')
    rfl
  · rename_i h'
    rw [h] at h'
    contradiction

theorem scan_cons {pending rest : List Char} {c : Char} (h : Marker.read? (c :: rest) = none) :
    scan pending (c :: rest) = scan (c :: pending) rest := by
  rw [scan]
  split
  · rename_i h'
    rw [h] at h'
    contradiction
  · rfl

theorem scan_nil (pending : List Char) : scan pending [] = ofPending pending := by
  rw [scan]
  split
  · rename_i h'
    contradiction
  · rfl

theorem flatMap_spell_ofPending (pending : List Char) :
    (ofPending pending).flatMap spell = pending.reverse := by
  cases pending with
  | nil => rfl
  | cons c pending => simp [ofPending, spell]

theorem separated_ofPending {pending rest : List Char} {xs : List Lexeme}
    (h : NoStart pending.reverse rest) (hhead : ∀ t, xs.head? ≠ some (literal t))
    (hxs : Separated xs) : Separated (ofPending pending ++ xs) := by
  cases pending with
  | nil => exact hxs
  | cons c pending =>
    refine ⟨?_, ?_, hhead, hxs⟩
    · intro he
      have := congrArg String.toList he
      simp at this
    · rw [String.toList_ofList]
      exact h.markerFree

/-- A scan loses nothing, and what it gives is separated if no marker starts in what is pending. -/
theorem scan_spec (pending text : List Char) (h : NoStart pending.reverse text) :
    Separated (scan pending text) ∧
      (scan pending text).flatMap spell = pending.reverse ++ text := by
  fun_induction scan pending text with
  | case1 pending text m rest hread ih =>
    -- no marker starts in what is pending, so it may stand as a literal before this marker
    obtain ⟨hm, rfl⟩ := Marker.read?_eq_some_iff.mp hread
    obtain ⟨hsep, hspell⟩ := ih (noStart_nil rest)
    refine ⟨separated_ofPending h (by simp) ⟨hm, hsep⟩, ?_⟩
    rw [List.flatMap_append, flatMap_spell_ofPending, List.flatMap_cons, hspell]
    rfl
  | case2 pending hread =>
    have hsep : Separated (ofPending pending ++ []) := separated_ofPending h (by simp) trivial
    rw [List.append_nil] at hsep ⊢
    exact ⟨hsep, flatMap_spell_ofPending pending⟩
  | case3 pending c rest hread ih =>
    have hnext : NoStart (c :: pending).reverse rest := by
      rw [List.reverse_cons]
      exact h.concat hread
    obtain ⟨hsep, hspell⟩ := ih hnext
    refine ⟨hsep, ?_⟩
    rw [hspell, List.reverse_cons, List.append_assoc]
    rfl

theorem scan_append {pending l rest : List Char} (h : NoStart l rest) :
    scan pending (l ++ rest) = scan (l.reverse ++ pending) rest := by
  induction l generalizing pending with
  | nil => rfl
  | cons c l ih =>
    obtain ⟨hc, hl⟩ := h.cons
    rw [List.cons_append, scan_cons hc, ih hl, List.reverse_cons, List.append_assoc]
    rfl

/-- What is pending becomes a literal as soon as a marker or the end follows. -/
theorem scan_pending {xs : List Lexeme} (pending : List Char) (h : Separated xs)
    (hhead : ∀ t, xs.head? ≠ some (literal t)) :
    scan pending (xs.flatMap spell) = ofPending pending ++ scan [] (xs.flatMap spell) := by
  cases xs with
  | nil => rw [List.flatMap_nil, scan_nil, scan_nil, ofPending, List.append_nil]
  | cons x xs =>
    cases x with
    | literal t => exact absurd rfl (hhead t)
    | marker m =>
      have hread : Marker.read? ((marker m :: xs).flatMap spell) = some (m, xs.flatMap spell) :=
        Marker.read?_spell_append h.1 _
      rw [scan_of_read? hread, scan_of_read? hread]
      rfl

theorem ofPending_reverse {text : String} (h : text ≠ "") :
    ofPending text.toList.reverse = [literal text] := by
  cases hr : text.toList.reverse with
  | nil =>
    have hnil : text.toList = [] := by simpa using hr
    exact absurd (String.toList_inj.mp hnil) h
  | cons c cs =>
    change [literal (String.ofList (c :: cs).reverse)] = [literal text]
    rw [← hr, List.reverse_reverse, String.ofList_toList]

theorem scan_flatMap_spell {xs : List Lexeme} (h : Separated xs) :
    scan [] (xs.flatMap spell) = xs := by
  induction xs with
  | nil => exact scan_nil []
  | cons x xs ih =>
    cases x with
    | marker m =>
      rw [List.flatMap_cons, spell, scan_of_read? (Marker.read?_spell_append h.1 _), ih h.2]
      rfl
    | literal text =>
      have hstart := h.noStart
      obtain ⟨hne, _, hhead, hxs⟩ := h
      rw [List.flatMap_cons, spell, scan_append hstart, List.append_nil,
        scan_pending _ hxs hhead, ih hxs, ofPending_reverse hne]
      rfl

/-- A scan gives the one separated sequence that spells the text. -/
theorem scan_eq_iff {text : List Char} {xs : List Lexeme} :
    scan [] text = xs ↔ Separated xs ∧ xs.flatMap spell = text := by
  constructor
  · rintro rfl
    exact scan_spec [] text (noStart_nil text)
  · rintro ⟨h, rfl⟩
    exact scan_flatMap_spell h

/-! ## Markers in a text -/

/-- Wherever a well-formed marker occurs in what separated lexemes spell, it is one of them. -/
theorem exists_marker_of_spell_eq {xs : List Lexeme} {before after : List Char} {m : Marker}
    (h : Separated xs) (hm : m.WellFormed)
    (he : xs.flatMap spell = before ++ (m.spell ++ after)) :
    ∃ ys zs, xs = ys ++ marker m :: zs ∧ ys.flatMap spell = before ∧
      zs.flatMap spell = after := by
  induction xs generalizing before with
  | nil =>
    have hlen := congrArg List.length he
    have := m.length_spell_pos
    simp only [List.flatMap_nil, List.length_nil, List.length_append] at hlen
    omega
  | cons x xs ih =>
    -- it is enough that the marker does not start before the end of the first lexeme
    have hstep : ∀ a, before = x.spell ++ a → ∃ ys zs, x :: xs = ys ++ marker m :: zs ∧
        ys.flatMap spell = before ∧ zs.flatMap spell = after := by
      rintro a rfl
      rw [List.flatMap_cons, List.append_assoc] at he
      obtain ⟨ys, zs, rfl, hys, hzs⟩ := ih h.tail (List.append_cancel_left he)
      exact ⟨x :: ys, zs, rfl, by rw [List.flatMap_cons, hys], hzs⟩
    cases x with
    | marker n =>
      obtain ⟨hn, _⟩ := h
      have he' : n.spell ++ xs.flatMap spell = before ++ (m.spell ++ after) := he
      by_cases hb : before = []
      · subst hb
        obtain ⟨rfl, hrest⟩ := Marker.spell_append_inj hn hm he'
        exact ⟨[], xs, rfl, rfl, hrest⟩
      · have hle := Marker.length_spell_le hn hb he'
        obtain ⟨a, ha⟩ :=
          List.prefix_of_prefix_length_le ⟨_, he'⟩ (List.prefix_append before _) hle
        exact hstep a ha.symm
    | literal text =>
      have he' : text.toList ++ xs.flatMap spell = before ++ (m.spell ++ after) := he
      rcases List.append_eq_append_iff.mp he' with ⟨a, ha, _⟩ | ⟨a, ha, hrest⟩
      · exact hstep a ha
      · cases a with
        | nil => exact hstep [] (by simpa [spell] using ha.symm)
        | cons c a =>
          have hnone := h.noStart (c :: a) (by simp) ⟨before, ha.symm⟩
          rw [← hrest, Marker.read?_spell_append hm] at hnone
          contradiction

end Lexeme

end Worksheet
