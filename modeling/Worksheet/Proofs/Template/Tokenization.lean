import Worksheet.Proofs.Template.Token

/-!
The tokens of a template against the markers that occur in its text. Occurrences of well-formed
markers never overlap. The marker tokens are the occurrences in their order, each at its place,
and the literal tokens are the gaps that the occurrences leave.
-/

namespace Worksheet

variable {text : List Char}

/-- A well-formed marker in a text, with what stands before and after it. -/
structure Occurrence (text : List Char) where
  before : List Char
  marker : Marker
  written : String
  after : List Char
  marker_written : marker.Written written
  text_eq : text = before ++ (written.toList ++ after)

namespace Occurrence

def start (o : Occurrence text) : Nat := o.before.length

def stop (o : Occurrence text) : Nat := o.before.length + o.written.length

def position (o : Occurrence text) : Position := Position.start.after o.before

theorem wellFormed (o : Occurrence text) : o.marker.WellFormed :=
  (Marker.written_iff.mp o.marker_written).1

theorem toList_written (o : Occurrence text) : o.written.toList = o.marker.spell :=
  (Marker.written_iff.mp o.marker_written).2

theorem stop_eq (o : Occurrence text) : o.stop = o.start + o.marker.spell.length := by
  rw [← o.toList_written, String.length_toList]
  rfl

theorem text_eq_spell (o : Occurrence text) :
    text = o.before ++ (o.marker.spell ++ o.after) := by
  rw [← o.toList_written]
  exact o.text_eq

/-- The occurrence of a well-formed marker between two stretches of text. -/
def ofSpell {before after : List Char} {m : Marker} (hm : m.WellFormed)
    (h : text = before ++ (m.spell ++ after)) : Occurrence text where
  before := before
  marker := m
  written := String.ofList m.spell
  after := after
  marker_written := Marker.written_iff.mpr ⟨hm, String.toList_ofList⟩
  text_eq := by rw [String.toList_ofList]; exact h

theorem eq_of_before_eq {o p : Occurrence text} (h : o.before = p.before) : o = p := by
  have he : o.before ++ (o.marker.spell ++ o.after) = p.before ++ (p.marker.spell ++ p.after) := by
    rw [← o.text_eq_spell, ← p.text_eq_spell]
  rw [h] at he
  obtain ⟨hm, ha⟩ := Marker.spell_append_inj o.wellFormed p.wellFormed (List.append_cancel_left he)
  have hw : o.written = p.written := by
    apply String.toList_inj.mp
    rw [o.toList_written, p.toList_written, hm]
  cases o
  cases p
  subst h hm ha hw
  rfl

theorem eq_or_stop_le {o p : Occurrence text} (h : o.start ≤ p.start) :
    o = p ∨ o.stop ≤ p.start := by
  have he : o.before ++ (o.marker.spell ++ o.after) = p.before ++ (p.marker.spell ++ p.after) := by
    rw [← o.text_eq_spell, ← p.text_eq_spell]
  obtain ⟨a, ha⟩ := List.prefix_of_prefix_length_le ⟨_, he⟩ (List.prefix_append p.before _) h
  by_cases hnil : a = []
  · left
    apply eq_of_before_eq
    rw [← ha, hnil, List.append_nil]
  · right
    rw [← ha, List.append_assoc] at he
    have hle := Marker.length_spell_le o.wellFormed hnil (List.append_cancel_left he)
    have hlen := congrArg List.length ha
    rw [List.length_append] at hlen
    rw [stop_eq]
    unfold start
    omega

/-- Two occurrences are the same or do not overlap. -/
theorem disjoint (o p : Occurrence text) : o = p ∨ o.stop ≤ p.start ∨ p.stop ≤ o.start := by
  rcases Nat.le_total o.start p.start with h | h
  · rcases eq_or_stop_le h with h | h
    · exact .inl h
    · exact .inr (.inl h)
  · rcases eq_or_stop_le h with h | h
    · exact .inl h.symm
    · exact .inr (.inr h)

end Occurrence

/-! ## Gaps -/

/-- Whether a character of a text, given by its index, belongs to a marker. -/
def Covered (text : List Char) (k : Nat) : Prop :=
  ∃ o : Occurrence text, o.start ≤ k ∧ k < o.stop

/-- A stretch of a text that belongs to no marker and cannot be extended to either side. -/
structure Gap (text : List Char) where
  before : List Char
  inner : List Char
  after : List Char
  text_eq : text = before ++ (inner ++ after)
  inner_ne_nil : inner ≠ []
  uncovered : ∀ k, before.length ≤ k → k < before.length + inner.length → ¬ Covered text k
  covered_before : before ≠ [] → Covered text (before.length - 1)
  covered_after : after ≠ [] → Covered text (before.length + inner.length)

namespace Gap

def start (g : Gap text) : Nat := g.before.length

def stop (g : Gap text) : Nat := g.before.length + g.inner.length

def position (g : Gap text) : Position := Position.start.after g.before

theorem stop_le_length (g : Gap text) : g.stop ≤ text.length := by
  have hlen := congrArg List.length g.text_eq
  simp only [List.length_append] at hlen
  unfold stop
  omega

theorem start_le_start {g g' : Gap text} {k : Nat} (hk : k < g.stop) (hk' : g'.start ≤ k) :
    g'.start ≤ g.start := by
  apply Nat.le_of_not_lt
  intro hlt
  have hne : g'.before ≠ [] := by
    intro hnil
    simp [start, hnil] at hlt
  have hcov := g'.covered_before hne
  unfold start stop at *
  exact g.uncovered _ (by omega) (by omega) hcov

theorem stop_le_stop {g g' : Gap text} {k : Nat} (hk : g.start ≤ k) (hk' : k < g'.stop) :
    g.stop ≤ g'.stop := by
  apply Nat.le_of_not_lt
  intro hlt
  have hne : g'.after ≠ [] := by
    intro hnil
    have hlen := congrArg List.length g'.text_eq
    have hle := g.stop_le_length
    simp only [hnil, List.append_nil, List.length_append] at hlen
    unfold stop at *
    omega
  have hcov := g'.covered_after hne
  unfold start stop at *
  exact g.uncovered _ (by omega) (by omega) hcov

/-- A character lies in one gap at most. -/
theorem eq_of_common {g g' : Gap text} {k : Nat} (hk : g.start ≤ k ∧ k < g.stop)
    (hk' : g'.start ≤ k ∧ k < g'.stop) : g.before = g'.before ∧ g.inner = g'.inner := by
  have hstart : g.start = g'.start :=
    Nat.le_antisymm (start_le_start hk'.2 hk.1) (start_le_start hk.2 hk'.1)
  have hstop : g.stop = g'.stop :=
    Nat.le_antisymm (stop_le_stop hk.1 hk'.2) (stop_le_stop hk'.1 hk.2)
  have he : g.before ++ (g.inner ++ g.after) = g'.before ++ (g'.inner ++ g'.after) := by
    rw [← g.text_eq, ← g'.text_eq]
  obtain ⟨hbefore, hrest⟩ := List.append_inj he hstart
  have hlen : g.inner.length = g'.inner.length := by
    unfold start at hstart
    unfold stop at hstop
    omega
  exact ⟨hbefore, (List.append_inj hrest hlen).1⟩

end Gap

/-! ## Lexemes and the stretches they spell -/

namespace Lexeme

theorem exists_lexeme_at {xs : List Lexeme} {k : Nat} (hk : k < (xs.flatMap spell).length) :
    ∃ ys x zs, xs = ys ++ x :: zs ∧ (ys.flatMap spell).length ≤ k ∧
      k < (ys.flatMap spell).length + x.spell.length := by
  induction xs generalizing k with
  | nil => simp at hk
  | cons x xs ih =>
    by_cases hx : k < x.spell.length
    · exact ⟨[], x, xs, rfl, by simp, by simpa using hx⟩
    · rw [List.flatMap_cons, List.length_append] at hk
      obtain ⟨ys, y, zs, rfl, hle, hlt⟩ := ih (k := k - x.spell.length) (by omega)
      refine ⟨x :: ys, y, zs, rfl, ?_, ?_⟩ <;>
        rw [List.flatMap_cons, List.length_append] <;> omega

/-- A character belongs to one lexeme only. -/
theorem eq_of_common {ys ys' zs zs' : List Lexeme} {x x' : Lexeme} {k : Nat}
    (h : ys ++ x :: zs = ys' ++ x' :: zs')
    (hk : (ys.flatMap spell).length ≤ k ∧ k < (ys.flatMap spell).length + x.spell.length)
    (hk' : (ys'.flatMap spell).length ≤ k ∧ k < (ys'.flatMap spell).length + x'.spell.length) :
    ys = ys' ∧ x = x' ∧ zs = zs' := by
  rcases List.append_eq_append_iff.mp h with ⟨a, rfl, ha⟩ | ⟨a, rfl, ha⟩
  · cases a with
    | nil =>
      obtain ⟨rfl, rfl⟩ := List.cons.inj ha
      simp
    | cons y a =>
      obtain ⟨rfl, rfl⟩ := List.cons.inj ha
      simp only [List.flatMap_append, List.flatMap_cons, List.length_append] at hk'
      omega
  · cases a with
    | nil =>
      obtain ⟨rfl, rfl⟩ := List.cons.inj ha
      simp
    | cons y a =>
      obtain ⟨rfl, rfl⟩ := List.cons.inj ha
      simp only [List.flatMap_append, List.flatMap_cons, List.length_append] at hk
      omega

theorem flatMap_spell_eq (ys zs : List Lexeme) (x : Lexeme) :
    (ys ++ x :: zs).flatMap spell = ys.flatMap spell ++ (x.spell ++ zs.flatMap spell) := by
  rw [List.flatMap_append, List.flatMap_cons]

variable {ys zs : List Lexeme} {x : Lexeme}

theorem covered_of_marker {m : Marker} (h : Separated (ys ++ marker m :: zs)) {k : Nat}
    (hk : (ys.flatMap spell).length ≤ k)
    (hk' : k < (ys.flatMap spell).length + m.spell.length) :
    Covered ((ys ++ marker m :: zs).flatMap spell) k := by
  have hm : m.WellFormed := h.of_append.1
  let o := Occurrence.ofSpell hm (flatMap_spell_eq ys zs (marker m))
  refine ⟨o, hk, ?_⟩
  rw [o.stop_eq]
  exact hk'

/-- What an occurrence covers is spelled by a marker. -/
theorem not_covered_of_literal {t : String} (h : Separated (ys ++ literal t :: zs)) {k : Nat}
    (hk : (ys.flatMap spell).length ≤ k)
    (hk' : k < (ys.flatMap spell).length + t.toList.length) :
    ¬ Covered ((ys ++ literal t :: zs).flatMap spell) k := by
  rintro ⟨o, ho, ho'⟩
  obtain ⟨ys', zs', he, hbefore, _⟩ := exists_marker_of_spell_eq h o.wellFormed o.text_eq_spell
  have hin : (ys'.flatMap spell).length ≤ k ∧
      k < (ys'.flatMap spell).length + (marker o.marker).spell.length := by
    rw [hbefore]
    rw [o.stop_eq] at ho'
    exact ⟨ho, ho'⟩
  have hx := (eq_of_common he ⟨hk, hk'⟩ hin).2.1
  contradiction

/-- The stretch of a literal ends where the text ends or a marker starts. -/
theorem covered_after_literal {t : String} (h : Separated (ys ++ literal t :: zs))
    (hne : zs.flatMap spell ≠ []) :
    Covered ((ys ++ literal t :: zs).flatMap spell)
      ((ys.flatMap spell).length + t.toList.length) := by
  obtain ⟨_, _, hhead, _⟩ := h.of_append
  cases zs with
  | nil => contradiction
  | cons z zs =>
    cases z with
    | literal t' => exact absurd rfl (hhead t')
    | marker m =>
      have he : ys ++ literal t :: marker m :: zs = (ys ++ [literal t]) ++ marker m :: zs := by
        rw [List.append_assoc]
        rfl
      have hlen : ((ys ++ [literal t]).flatMap spell).length =
          (ys.flatMap spell).length + t.toList.length := by
        simp [spell]
      have := m.length_spell_pos
      rw [he] at h ⊢
      exact covered_of_marker h (by omega) (by omega)

/-- The stretch of a literal starts where the text starts or a marker ends. -/
theorem covered_before_literal {t : String} (h : Separated (ys ++ literal t :: zs))
    (hne : ys.flatMap spell ≠ []) :
    Covered ((ys ++ literal t :: zs).flatMap spell) ((ys.flatMap spell).length - 1) := by
  rcases List.eq_nil_or_concat ys with rfl | ⟨ys, y, rfl⟩
  · contradiction
  rw [List.concat_eq_append] at *
  rw [List.append_assoc] at h ⊢
  cases y with
  | literal t' =>
    obtain ⟨_, _, hhead, _⟩ := h.of_append
    exact absurd rfl (hhead t)
  | marker m =>
    have := m.length_spell_pos
    have hlen : ((ys ++ [marker m]).flatMap spell).length =
        (ys.flatMap spell).length + m.spell.length := by
      simp [spell]
    exact covered_of_marker h (by omega) (by omega)

/-- The gap that a literal of a separated sequence fills. -/
def gapOfLiteral {t : String} (h : Separated (ys ++ literal t :: zs)) :
    Gap ((ys ++ literal t :: zs).flatMap spell) where
  before := ys.flatMap spell
  inner := t.toList
  after := zs.flatMap spell
  text_eq := flatMap_spell_eq ys zs (literal t)
  inner_ne_nil := spell_ne_nil_of_separated h.of_append
  uncovered := fun _ hk hk' => not_covered_of_literal h hk hk'
  covered_before := covered_before_literal h
  covered_after := covered_after_literal h

/-- Every gap is filled by a literal. -/
theorem exists_literal_of_gap {xs : List Lexeme} (h : Separated xs)
    (hspell : xs.flatMap spell = text) (g : Gap text) :
    ∃ ys t zs, xs = ys ++ literal t :: zs ∧ ys.flatMap spell = g.before ∧
      t.toList = g.inner := by
  subst hspell
  have hpos : 0 < g.inner.length := List.length_pos_iff.mpr g.inner_ne_nil
  have hlen := g.stop_le_length
  have hin : g.start ≤ g.start ∧ g.start < g.stop := by
    unfold Gap.start Gap.stop
    omega
  obtain ⟨ys, x, zs, rfl, hk⟩ := exists_lexeme_at (Nat.lt_of_lt_of_le hin.2 hlen)
  cases x with
  | marker m =>
    have hcov := covered_of_marker h hk.1 hk.2
    exact absurd hcov (g.uncovered _ hin.1 hin.2)
  | literal t =>
    obtain ⟨hbefore, hinner⟩ := Gap.eq_of_common (g := gapOfLiteral h) hk hin
    exact ⟨ys, t, zs, rfl, hbefore, hinner⟩

end Lexeme

/-! ## Tokens -/

variable {source : String}

theorem marker_mem_tokenize_iff {m : Marker} {p : Position} :
    ⟨.marker m, p⟩ ∈ tokenize source ↔
      ∃ o : Occurrence source.toList, o.marker = m ∧ o.position = p := by
  have hsep := separated_lexemes source
  have hspell := flatMap_spell_lexemes source
  rw [mem_tokenize_iff]
  constructor
  · rintro ⟨ys, zs, he, rfl⟩
    rw [he] at hsep hspell
    have hm : m.WellFormed := hsep.of_append.1
    rw [Lexeme.flatMap_spell_eq] at hspell
    exact ⟨.ofSpell hm hspell.symm, rfl, rfl⟩
  · rintro ⟨o, rfl, rfl⟩
    obtain ⟨ys, zs, he, hbefore, _⟩ :=
      Lexeme.exists_marker_of_spell_eq hsep o.wellFormed (hspell.trans o.text_eq_spell)
    exact ⟨ys, zs, he, by rw [hbefore]; rfl⟩

theorem literal_mem_tokenize_iff {t : String} {p : Position} :
    ⟨.literal t, p⟩ ∈ tokenize source ↔
      ∃ g : Gap source.toList, g.inner = t.toList ∧ g.position = p := by
  have hsep := separated_lexemes source
  have hspell := flatMap_spell_lexemes source
  rw [mem_tokenize_iff]
  constructor
  · rintro ⟨ys, zs, he, rfl⟩
    rw [he] at hsep hspell
    rw [← hspell]
    exact ⟨Lexeme.gapOfLiteral hsep, rfl, rfl⟩
  · rintro ⟨g, hinner, rfl⟩
    obtain ⟨ys, t', zs, he, hbefore, ht⟩ := Lexeme.exists_literal_of_gap hsep hspell g
    obtain rfl : t' = t := String.toList_inj.mp (ht.trans hinner)
    exact ⟨ys, zs, he, by rw [hbefore]; rfl⟩

/-- The tokens of a template are its markers, in order and each at its place, and the gaps between
them. Hence no literal holds a marker, no two literals are neighbours and nothing is lost. -/
theorem tokenize_exact (source : String) :
    (∀ o p : Occurrence source.toList, o = p ∨ o.stop ≤ p.start ∨ p.stop ≤ o.start) ∧
    (tokenize source).Pairwise (fun t u => t.position.offset < u.position.offset) ∧
    (∀ m p, ⟨.marker m, p⟩ ∈ tokenize source ↔
      ∃ o : Occurrence source.toList, o.marker = m ∧ o.position = p) ∧
    (∀ t p, ⟨.literal t, p⟩ ∈ tokenize source ↔
      ∃ g : Gap source.toList, g.inner = t.toList ∧ g.position = p) ∧
    (∀ before t p u q after,
      tokenize source ≠ before ++ ⟨.literal t, p⟩ :: ⟨.literal u, q⟩ :: after) ∧
    (∀ t p, ⟨.literal t, p⟩ ∈ tokenize source → MarkerFree t.toList) ∧
    (tokenize source).flatMap (fun t => t.lexeme.spell) = source.toList := by
  have hsep := separated_lexemes source
  refine ⟨Occurrence.disjoint, pairwise_tokenize source, fun _ _ => marker_mem_tokenize_iff,
    fun _ _ => literal_mem_tokenize_iff, ?_, ?_, spellAll_tokenize source⟩
  · intro before t p u q after he
    rw [he, List.map_append] at hsep
    obtain ⟨_, _, hhead, _⟩ := hsep.of_append
    exact absurd rfl (hhead u)
  · intro t p hmem
    obtain ⟨ys, zs, he, _⟩ := mem_tokenize_iff.mp hmem
    rw [he] at hsep
    exact hsep.of_append.2.1

end Worksheet
