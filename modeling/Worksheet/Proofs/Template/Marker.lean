import Worksheet.Template.Marker

/-!
Markers as stretches of a text. Reading and spelling are inverse to each other, so a text starts
with a marker exactly if it starts with the spelling of a well-formed one. No brace stands inside
the braces of a well-formed marker, and therefore two of them never overlap in one text.
-/

namespace Worksheet

/-- Neither an opening nor a closing brace occurs in the text. -/
def BraceFree (text : List Char) : Prop := '{' ∉ text ∧ '}' ∉ text

theorem BraceFree.append {s t : List Char} (hs : BraceFree s) (ht : BraceFree t) :
    BraceFree (s ++ t) :=
  ⟨fun h => (List.mem_append.mp h).elim hs.1 ht.1, fun h => (List.mem_append.mp h).elim hs.2 ht.2⟩

/-! ## Text in double braces -/

def fenced (inner : List Char) : List Char := '{' :: '{' :: (inner ++ ['}', '}'])

/-- Behind the first character of a text in double braces no double braces open until it ends, if
no brace stands inside. -/
theorem length_fenced_le {inner l s t : List Char} (hinner : BraceFree inner) (hl : l ≠ [])
    (h : fenced inner ++ s = l ++ '{' :: '{' :: t) : (fenced inner).length ≤ l.length := by
  rcases List.append_eq_append_iff.mp h with ⟨a, rfl, _⟩ | ⟨a, ha, ht⟩
  · simp
  cases a with
  | nil => simp [ha]
  | cons c a =>
    exfalso
    obtain ⟨d, l, rfl⟩ := List.exists_cons_of_ne_nil hl
    obtain ⟨rfl, hc⟩ := List.cons.inj ht
    have hin : '{' :: (inner ++ ['}', '}']) = l ++ '{' :: a := (List.cons.inj ha).2
    have hmem : '{' ∈ inner ++ ['}', '}'] := by
      cases l with
      | nil =>
        -- the second brace would be the first character inside
        obtain rfl : inner ++ ['}', '}'] = a := (List.cons.inj hin).2
        have hne : inner ++ ['}', '}'] ≠ [] := by simp
        obtain ⟨e, rest, he⟩ := List.exists_cons_of_ne_nil hne
        rw [he] at hc ⊢
        obtain rfl : '{' = e := (List.cons.inj hc).1
        exact List.mem_cons_self
      | cons e l =>
        have hrest : inner ++ ['}', '}'] = l ++ '{' :: a := (List.cons.inj hin).2
        simp [hrest]
    rcases List.mem_append.mp hmem with hmem | hmem
    · exact hinner.1 hmem
    · revert hmem
      decide

/-! ## Names -/

/-- The letters from A to Z and from a to z. -/
def IsLetter (c : Char) : Prop := ('A' ≤ c ∧ c ≤ 'Z') ∨ ('a' ≤ c ∧ c ≤ 'z')

/-- The digits from 0 to 9. -/
def IsDigit (c : Char) : Prop := '0' ≤ c ∧ c ≤ '9'

/-- What a marker may name: the loop position, or a word of letters, digits and underscores that
does not start with a digit. -/
def IsName (name : String) : Prop :=
  name = "@index" ∨ ∃ c cs, name.toList = c :: cs ∧ (IsLetter c ∨ c = '_') ∧
    ∀ d ∈ cs, IsLetter d ∨ IsDigit d ∨ d = '_'

theorem isAlpha_iff {c : Char} : c.isAlpha = true ↔ IsLetter c := by
  change (decide ('A' ≤ c ∧ c ≤ 'Z') || (decide ('a' ≤ c) && decide (c ≤ 'z'))) = true ↔ IsLetter c
  simp [IsLetter]

theorem isDigit_iff {c : Char} : c.isDigit = true ↔ IsDigit c := by
  change (decide ('0' ≤ c) && decide (c ≤ '9')) = true ↔ IsDigit c
  simp [IsDigit]

theorem isNameStart_iff {c : Char} : isNameStart c = true ↔ IsLetter c ∨ c = '_' := by
  simp [isNameStart, isAlpha_iff]

theorem isNamePart_iff {c : Char} : isNamePart c = true ↔ IsLetter c ∨ IsDigit c ∨ c = '_' := by
  simp [isNamePart, Char.isAlphanum, isAlpha_iff, isDigit_iff, or_assoc]

theorem isNamePart_of_isNameStart {c : Char} (h : isNameStart c = true) : isNamePart c = true := by
  rcases isNameStart_iff.mp h with h | h
  · exact isNamePart_iff.mpr (.inl h)
  · exact isNamePart_iff.mpr (.inr (.inr h))

theorem isIdentifier_iff {name : String} :
    isIdentifier name = true ↔
      ∃ c cs, name.toList = c :: cs ∧ isNameStart c = true ∧ ∀ d ∈ cs, isNamePart d = true := by
  unfold isIdentifier
  split
  · rename_i hn
    simp [hn]
  · rename_i c cs hn
    simp only [hn, Bool.and_eq_true, List.all_eq_true]
    constructor
    · intro h
      exact ⟨c, cs, rfl, h⟩
    · rintro ⟨_, _, he, h⟩
      obtain ⟨rfl, rfl⟩ := List.cons.inj he
      exact h

theorem isReference_cases {name : String} (h : isReference name = true) :
    name = indexName ∨
      ∃ c cs, name.toList = c :: cs ∧ isNameStart c = true ∧ ∀ d ∈ cs, isNamePart d = true := by
  rcases Bool.or_eq_true_iff.mp h with h | h
  · exact .inl (eq_of_beq h)
  · exact .inr (isIdentifier_iff.mp h)

theorem isReference_iff {name : String} : isReference name = true ↔ IsName name := by
  simp only [isReference, Bool.or_eq_true, beq_iff_eq, isIdentifier_iff, isNameStart_iff,
    isNamePart_iff]
  rfl

/-- What is no part of a name stands in none, but for the sign in front of the position. -/
theorem isNamePart_or_eq_at_of_mem {name : String} {c : Char} (h : isReference name = true)
    (hc : c ∈ name.toList) : isNamePart c = true ∨ c = '@' := by
  rcases isReference_cases h with rfl | ⟨d, ds, hn, hd, hds⟩
  · have hindex : (indexName.toList.all fun d => isNamePart d || d == '@') = true := by decide
    simpa using List.all_eq_true.mp hindex c hc
  · left
    rw [hn] at hc
    rcases List.mem_cons.mp hc with rfl | hc
    · exact isNamePart_of_isNameStart hd
    · exact hds c hc

theorem not_mem_of_isReference {name : String} {c : Char} (h : isReference name = true)
    (hpart : isNamePart c = false) (hat : c ≠ '@') : c ∉ name.toList := by
  intro hmem
  rcases isNamePart_or_eq_at_of_mem h hmem with hc | hc
  · exact Bool.false_ne_true (hpart.symm.trans hc)
  · exact hat hc

theorem braceFree_of_isReference {name : String} (h : isReference name = true) :
    BraceFree name.toList :=
  ⟨not_mem_of_isReference h (by decide) (by decide),
    not_mem_of_isReference h (by decide) (by decide)⟩

/-- A name ends where the first character follows that cannot continue it. -/
theorem readName?_append {name : String} {rest : List Char} (h : isReference name = true)
    (hr : ∀ c ∈ rest.head?, isNamePart c = false) :
    readName? (name.toList ++ rest) = some (name, rest) := by
  rcases isReference_cases h with rfl | ⟨c, cs, hn, hc, hcs⟩
  · rfl
  · have hat : c ≠ '@' := by
      intro he
      subst he
      revert hc
      decide
    have htake : (cs ++ rest).takeWhile isNamePart = cs := by
      rw [List.takeWhile_append_of_pos hcs]
      cases rest with
      | nil => simp
      | cons d rest => simp [hr d rfl]
    have hdrop : (cs ++ rest).dropWhile isNamePart = rest := by
      rw [List.dropWhile_append_of_pos hcs]
      cases rest with
      | nil => rfl
      | cons d rest => simp [hr d rfl]
    rw [hn, List.cons_append]
    unfold readName?
    split
    · rename_i he
      exact absurd (List.cons.inj he).1 hat
    · rename_i d text _ he
      obtain ⟨rfl, rfl⟩ := List.cons.inj he
      rw [if_pos hc, htake, hdrop, ← hn, String.ofList_toList]
    · contradiction

/-! ## Reading what was spelled -/

theorem BlockKind.read?_append (kind : BlockKind) (rest : List Char) :
    read? (kind.keyword.toList ++ rest) = some (kind, rest) := by
  cases kind <;> rfl

/-- How a marker is written in a template. -/
inductive Marker.Written : Marker → String → Prop
  | reference {name} : IsName name → Written (.reference name) (braced name)
  | condition {name} : IsName name → Written (.opening .conditional name) (braced ("#if " ++ name))
  | iteration {name} : IsName name → Written (.opening .iteration name) (braced ("#each " ++ name))
  | endCondition : Written (.closing .conditional) (braced "/if")
  | endIteration : Written (.closing .iteration) (braced "/each")

namespace Marker

variable {m n : Marker} {s t text rest : List Char}

theorem braceFree_inner (h : m.WellFormed) : BraceFree m.inner := by
  have hkind : ∀ kind : BlockKind, BraceFree kind.keyword.toList := by
    intro kind
    cases kind <;> exact ⟨by decide, by decide⟩
  cases m with
  | reference name => exact braceFree_of_isReference h
  | opening kind name =>
    have hsharp : BraceFree ['#'] := ⟨by decide, by decide⟩
    have hblank : BraceFree [' '] := ⟨by decide, by decide⟩
    exact hsharp.append ((hkind kind).append (hblank.append (braceFree_of_isReference h)))
  | closing kind =>
    have hslash : BraceFree ['/'] := ⟨by decide, by decide⟩
    exact hslash.append (hkind kind)

theorem spell_eq_fenced (m : Marker) : m.spell = fenced m.inner := rfl

theorem spell_ne_nil (m : Marker) : m.spell ≠ [] := by simp [spell]

theorem length_spell_pos (m : Marker) : 0 < m.spell.length :=
  List.length_pos_iff.mpr m.spell_ne_nil

theorem toList_braced (text : String) : (braced text).toList = fenced text.toList := by
  simp [braced, fenced]

/-- A well-formed marker is written as it is spelled, and no other marker is written at all. -/
theorem written_iff {m : Marker} {w : String} :
    m.Written w ↔ m.WellFormed ∧ w.toList = m.spell := by
  constructor
  · intro h
    cases h with
    | reference hn | condition hn | iteration hn =>
      refine ⟨isReference_iff.mpr hn, ?_⟩
      simp [toList_braced, spell_eq_fenced, inner, BlockKind.keyword]
    | endCondition | endIteration => exact ⟨trivial, by decide⟩
  · rintro ⟨hm, hw⟩
    have heq : ∀ text : String, m.spell = (braced text).toList → w = braced text := by
      intro text ht
      exact String.toList_inj.mp (hw.trans ht)
    cases m with
    | reference name =>
      rw [heq name (by simp [toList_braced, spell_eq_fenced, inner])]
      exact .reference (isReference_iff.mp hm)
    | opening kind name =>
      cases kind with
      | conditional =>
        rw [heq ("#if " ++ name)
          (by simp [toList_braced, spell_eq_fenced, inner, BlockKind.keyword])]
        exact .condition (isReference_iff.mp hm)
      | iteration =>
        rw [heq ("#each " ++ name)
          (by simp [toList_braced, spell_eq_fenced, inner, BlockKind.keyword])]
        exact .iteration (isReference_iff.mp hm)
    | closing kind =>
      cases kind with
      | conditional =>
        rw [heq "/if" (by decide)]
        exact .endCondition
      | iteration =>
        rw [heq "/each" (by decide)]
        exact .endIteration

/-- What stands before a closing brace is read as a whole. -/
theorem readInner?_append (h : m.WellFormed) (rest : List Char) :
    readInner? (m.inner ++ '}' :: rest) = some (m, '}' :: rest) := by
  have hend : ∀ c ∈ ('}' :: rest).head?, isNamePart c = false := by
    intro c hc
    obtain rfl := Option.some.inj hc
    decide
  cases m with
  | reference name =>
    have hname := readName?_append h hend
    -- a name starts with neither of the signs that tell the other markers apart
    have hsign : ∀ c ∈ (name.toList ++ '}' :: rest).head?, c ≠ '#' ∧ c ≠ '/' := by
      rcases isReference_cases h with rfl | ⟨d, ds, hn, hd, _⟩
      · intro c hc
        obtain rfl := Option.some.inj hc
        decide
      · intro c hc
        rw [hn] at hc
        obtain rfl := Option.some.inj hc
        constructor <;> intro he <;> subst he <;> revert hd <;> decide
    unfold readInner?
    simp only [inner]
    split
    · rename_i he
      rw [he] at hsign
      exact absurd rfl (hsign '#' rfl).1
    · rename_i he
      rw [he] at hsign
      exact absurd rfl (hsign '/' rfl).2
    · rw [hname]
      rfl
  | opening kind name =>
    simp only [inner, List.cons_append, List.append_assoc, readInner?]
    rw [BlockKind.read?_append]
    simp only [readName?_append h hend, Option.map_some]
  | closing kind =>
    simp only [inner, List.cons_append, readInner?]
    rw [BlockKind.read?_append]
    rfl

theorem read?_spell_append (h : m.WellFormed) (rest : List Char) :
    read? (m.spell ++ rest) = some (m, rest) := by
  have hinner : readInner? (m.inner ++ ['}', '}'] ++ rest) = some (m, '}' :: '}' :: rest) := by
    rw [List.append_assoc]
    exact readInner?_append h ('}' :: rest)
  simp only [spell, List.cons_append, read?, hinner]

theorem wellFormed_of_readInner? (h : readInner? text = some (m, rest)) : m.WellFormed := by
  unfold readInner? at h
  split at h
  · split at h
    · obtain ⟨⟨name, r⟩, hn, he⟩ := Option.map_eq_some_iff.mp h
      obtain ⟨rfl, rfl⟩ := Prod.mk.inj he
      exact isReference_of_readName? hn
    · contradiction
  · obtain ⟨⟨kind, r⟩, _, he⟩ := Option.map_eq_some_iff.mp h
    obtain ⟨rfl, rfl⟩ := Prod.mk.inj he
    trivial
  · obtain ⟨⟨name, r⟩, hn, he⟩ := Option.map_eq_some_iff.mp h
    obtain ⟨rfl, rfl⟩ := Prod.mk.inj he
    exact isReference_of_readName? hn

theorem wellFormed_of_read? (h : read? text = some (m, rest)) : m.WellFormed := by
  unfold read? at h
  split at h
  · split at h
    · rename_i hi
      obtain ⟨rfl, rfl⟩ := Prod.mk.inj (Option.some.inj h)
      exact wellFormed_of_readInner? hi
    · contradiction
  · contradiction

/-- A text starts with a marker exactly if it starts with the spelling of a well-formed one. -/
theorem read?_eq_some_iff :
    read? text = some (m, rest) ↔ m.WellFormed ∧ text = m.spell ++ rest := by
  constructor
  · intro h
    exact ⟨wellFormed_of_read? h, eq_append_of_read? h⟩
  · rintro ⟨hm, rfl⟩
    exact read?_spell_append hm rest

/-- One place of a text starts one well-formed marker at most. -/
theorem spell_append_inj (hm : m.WellFormed) (hn : n.WellFormed)
    (h : m.spell ++ s = n.spell ++ t) : m = n ∧ s = t := by
  have hr : some (m, s) = some (n, t) := by
    rw [← read?_spell_append hm, ← read?_spell_append hn, h]
  exact Prod.mk.inj (Option.some.inj hr)

/-! ## No overlap -/

/-- After its first two characters a marker holds no opening brace, so whatever is spelled after
the first character of a well-formed marker starts behind it. -/
theorem length_spell_le {l : List Char} (hm : m.WellFormed) (hl : l ≠ [])
    (h : m.spell ++ s = l ++ (n.spell ++ t)) : m.spell.length ≤ l.length :=
  length_fenced_le (braceFree_inner hm) hl h

end Marker

end Worksheet
