import Worksheet.Proofs.Template.Excerpt
import Worksheet.Proofs.Template.RoundTrip

/-!
What an outline tells. It has one line for each part of the template, in the order in which a visit
that goes into depth first comes to them, with an indent for each block around the part. No line
tells how a literal reads, only how long it is, and all else can be read off the lines: the tree is
known from the outline but for the texts of its literals.
-/

namespace Worksheet

namespace Body

/-! ## Places -/

/-- The part with an index, and what it holds. -/
def child? : Body → Nat → Option (Part × Body)
  | empty, _ => none
  | literal text _, 0 => some (.literal text, empty)
  | reference name _, 0 => some (.reference name, empty)
  | block kind name inner _, 0 => some (.block kind name, inner)
  | literal _ rest, i + 1 => rest.child? i
  | reference _ rest, i + 1 => rest.child? i
  | block _ _ _ rest, i + 1 => rest.child? i

/-- The part at a place, which tells the index to take at each level. A place is one longer than
there are blocks around the part. -/
def at? (b : Body) : List Nat → Option Part
  | [] => none
  | [i] => (b.child? i).map Prod.fst
  | i :: j :: place => (b.child? i).bind fun c => c.2.at? (j :: place)

/-- The parts with their places, those of the outermost level counted from an index. -/
def placed (i : Nat) : Body → List (List Nat × Part)
  | empty => []
  | literal text rest => ([i], .literal text) :: rest.placed (i + 1)
  | reference name rest => ([i], .reference name) :: rest.placed (i + 1)
  | block kind name inner rest =>
    ([i], .block kind name) ::
      ((inner.placed 0).map fun e => (i :: e.1, e.2)) ++ rest.placed (i + 1)

variable {b c : Body} {i : Nat} {place : List Nat} {part : Part}

theorem at?_empty : empty.at? place = none := by
  match place with
  | [] | [_] | _ :: _ :: _ => rfl

theorem at?_singleton : b.at? [i] = (b.child? i).map Prod.fst := rfl

theorem at?_cons_cons {j : Nat} :
    b.at? (i :: j :: place) = (b.child? i).bind fun c => c.2.at? (j :: place) := rfl

theorem at?_cons_congr {j : Nat} (h : b.child? i = c.child? j) :
    b.at? (i :: place) = c.at? (j :: place) := by
  cases place with
  | nil => rw [at?_singleton, at?_singleton, h]
  | cons k place => rw [at?_cons_cons, at?_cons_cons, h]

/-- A literal or a reference is the part at its index and holds none. -/
theorem at?_cons_of_leaf {p : Part} (h : b.child? i = some (p, empty)) :
    b.at? (i :: place) = if place = [] then some p else none := by
  cases place with
  | nil => rw [at?_singleton, h]; rfl
  | cons j place => rw [at?_cons_cons, h]; exact at?_empty

theorem at?_cons_of_block {p : Part} {inner : Body} (h : b.child? i = some (p, inner)) :
    b.at? (i :: place) = some part ↔
      place = [] ∧ p = part ∨ inner.at? place = some part := by
  cases place with
  | nil => simp [h, at?]
  | cons j place => simp [at?_cons_cons, h]

/-- A part is the first one or stands in it, or it is a part of what follows. -/
theorem exists_place_iff (h : ∀ j, b.child? (j + 1) = c.child? j) :
    (∃ j rest, place = (i + j) :: rest ∧ b.at? (j :: rest) = some part) ↔
      (∃ rest, place = i :: rest ∧ b.at? (0 :: rest) = some part) ∨
        ∃ j rest, place = (i + 1 + j) :: rest ∧ c.at? (j :: rest) = some part := by
  constructor
  · rintro ⟨j, rest, rfl, hat⟩
    cases j with
    | zero => exact .inl ⟨rest, rfl, hat⟩
    | succ j =>
      exact .inr ⟨j, rest, by rw [Nat.add_assoc, Nat.add_comm 1], at?_cons_congr (h j) ▸ hat⟩
  · rintro (⟨rest, rfl, hat⟩ | ⟨j, rest, rfl, hat⟩)
    · exact ⟨0, rest, rfl, hat⟩
    · exact ⟨j + 1, rest, by rw [Nat.add_assoc, Nat.add_comm 1], (at?_cons_congr (h j)).trans hat⟩

/-- Where the parts of a body are, if they are counted from an index. -/
theorem mem_placed_iff :
    (place, part) ∈ b.placed i ↔
      ∃ j rest, place = (i + j) :: rest ∧ b.at? (j :: rest) = some part := by
  induction b generalizing i place with
  | empty => simp [placed, at?_empty]
  | literal text rest ih | reference name rest ih =>
    rw [placed, List.mem_cons, exists_place_iff (c := rest) fun _ => rfl, ih]
    refine or_congr ?_ Iff.rfl
    rw [Prod.mk.injEq, eq_comm (a := part)]
    constructor
    · rintro ⟨rfl, rfl⟩
      exact ⟨[], rfl, rfl⟩
    · rintro ⟨rest, rfl, hat⟩
      rw [at?_cons_of_leaf rfl, ite_eq_iff] at hat
      simpa [eq_comm] using hat
  | block kind name inner rest ih ih' =>
    rw [placed, List.mem_append, List.mem_cons, exists_place_iff (c := rest) fun _ => rfl, ih']
    refine or_congr ?_ Iff.rfl
    have hinner : (place, part) ∈ (inner.placed 0).map (fun e => (i :: e.1, e.2)) ↔
        ∃ rest, place = i :: rest ∧ inner.at? rest = some part := by
      rw [List.mem_map]
      constructor
      · rintro ⟨⟨rest, part⟩, hmem, hplace⟩
        obtain ⟨rfl, rfl⟩ := Prod.mk.inj hplace
        obtain ⟨j, rest, rfl, hat⟩ := ih.mp hmem
        exact ⟨_, rfl, by rwa [Nat.zero_add]⟩
      · rintro ⟨rest, rfl, hat⟩
        cases rest with
        | nil => cases hat
        | cons j rest => exact ⟨(j :: rest, part), ih.mpr ⟨j, rest, by rw [Nat.zero_add], hat⟩, rfl⟩
    rw [hinner]
    constructor
    · rintro (hhere | ⟨rest, rfl, hat⟩)
      · obtain ⟨rfl, rfl⟩ := Prod.mk.inj hhere
        exact ⟨[], rfl, rfl⟩
      · exact ⟨rest, rfl, (at?_cons_of_block rfl).mpr (.inr hat)⟩
    · rintro ⟨rest, rfl, hat⟩
      rcases (at?_cons_of_block rfl).mp hat with ⟨rfl, rfl⟩ | hat
      · exact .inl rfl
      · exact .inr ⟨rest, rfl, hat⟩

/-- The places are in the order of words, so a block comes before what it holds, and this before
what follows the block. -/
theorem pairwise_placed (b : Body) (i : Nat) :
    (b.placed i).Pairwise fun x y => x.1 < y.1 := by
  have hlater : ∀ (b : Body) (i : Nat), ∀ e ∈ b.placed (i + 1), ∀ place, i :: place < e.1 := by
    intro b i e he place
    obtain ⟨j, rest, hplace, -⟩ := mem_placed_iff.mp he
    rw [hplace]
    exact List.cons_lt_cons_iff.mpr (.inl (by omega))
  induction b generalizing i with
  | empty => exact .nil
  | literal text rest ih | reference name rest ih =>
    exact List.pairwise_cons.mpr ⟨fun e he => hlater rest i e he [], ih (i + 1)⟩
  | block kind name inner rest ih ih' =>
    rw [placed, List.pairwise_append, List.pairwise_cons, List.pairwise_map]
    refine ⟨⟨?_, ?_⟩, ih' (i + 1), ?_⟩
    · intro e he
      obtain ⟨⟨place, part⟩, hplaced, rfl⟩ := List.mem_map.mp he
      obtain ⟨j, rest, rfl, -⟩ := mem_placed_iff.mp hplaced
      exact List.cons_lt_cons_iff.mpr (.inr ⟨rfl, List.nil_lt_cons _ _⟩)
    · exact (ih 0).imp fun hlt => List.cons_lt_cons_iff.mpr (.inr ⟨rfl, hlt⟩)
    · intro x hx y hy
      rcases List.mem_cons.mp hx with rfl | hx
      · exact hlater rest i y hy []
      · obtain ⟨e, -, rfl⟩ := List.mem_map.mp hx
        exact hlater rest i y hy e.1

theorem map_placed (b : Body) (i level : Nat) :
    (b.placed i).map (fun e => (level + (e.1.length - 1), e.2)) = b.parts level := by
  induction b generalizing i level with
  | empty => rfl
  | literal text rest ih | reference name rest ih =>
    rw [placed, List.map_cons, ih, parts]
    rfl
  | block kind name inner rest ih ih' =>
    have hinner : ((inner.placed 0).map fun e => (i :: e.1, e.2)).map
        (fun e => (level + (e.1.length - 1), e.2)) = inner.parts (level + 1) := by
      rw [← ih 0 (level + 1), List.map_map]
      refine List.map_congr_left fun e he => ?_
      obtain ⟨j, rest, hplace, -⟩ := mem_placed_iff.mp (show (e.1, e.2) ∈ _ from he)
      simp [hplace]
      omega
    rw [placed, List.map_append, List.map_cons, hinner, ih', parts]
    rfl

end Body

/-! ## Labels -/

def literalLabel (length : Nat) : String := s!"text ({length} chars)"

def blockLabel (kind : BlockKind) (name : String) : String := s!"#{kind.keyword} {name}"

theorem toList_literalLabel (length : Nat) :
    (literalLabel length).toList =
      "text (".toList ++ Nat.toDigits 10 length ++ " chars)".toList := by
  simp [literalLabel, toString]

theorem toList_blockLabel (kind : BlockKind) (name : String) :
    (blockLabel kind name).toList = '#' :: (kind.keyword.toList ++ ' ' :: name.toList) := by
  simp [blockLabel, toString]

@[simp]
theorem head?_literalLabel (length : Nat) : (literalLabel length).toList.head? = some 't' := by
  rw [toList_literalLabel]
  rfl

@[simp]
theorem head?_braced (name : String) : (braced name).toList.head? = some '{' := by
  rw [Marker.toList_braced]
  rfl

@[simp]
theorem head?_blockLabel (kind : BlockKind) (name : String) :
    (blockLabel kind name).toList.head? = some '#' := by
  rw [toList_blockLabel]
  rfl

theorem literalLabel_inj {m n : Nat} (h : literalLabel m = literalLabel n) : m = n := by
  rw [← String.toList_inj, toList_literalLabel, toList_literalLabel, List.append_cancel_right_eq,
    List.append_cancel_left_eq] at h
  simpa using congrArg (fun digits => Nat.ofDigitChars 10 digits 0) h

theorem braced_inj {name name' : String} (h : braced name = braced name') : name = name' := by
  rw [← String.toList_inj, Marker.toList_braced, Marker.toList_braced] at h
  simpa [fenced, String.toList_inj] using h

theorem blockLabel_inj {kind kind' : BlockKind} {name name' : String}
    (h : blockLabel kind name = blockLabel kind' name') : kind = kind' ∧ name = name' := by
  rw [← String.toList_inj, toList_blockLabel, toList_blockLabel] at h
  have hrest := (List.cons.inj h).2
  -- the keywords differ in their first letter
  cases kind <;> cases kind' <;> simp_all [BlockKind.keyword, String.toList_inj]

namespace Body

theorem Part.label_literal (text : String) : (literal text).label = literalLabel text.length := rfl

theorem Part.label_reference (name : String) : (reference name).label = braced name := rfl

theorem Part.label_block (kind : BlockKind) (name : String) :
    (block kind name).label = blockLabel kind name := rfl

/-- A label starts with a letter, a brace or a number sign. -/
theorem Part.head?_label_ne_blank (p : Part) : p.label.toList.head? ≠ some ' ' := by
  cases p with
  | literal text => simp [label_literal]
  | reference name => simp [label_reference]
  | block kind name => simp [label_block]

def Part.name? : Part → Option String
  | literal _ => none
  | reference name | block _ name => some name

/-- What labels are made of. -/
def isLabelChar (c : Char) : Bool := isNamePart c || "@ ()\x7b\x7d#".toList.contains c

theorem all_isLabelChar_of_isReference {name : String} (h : isReference name = true) :
    name.toList.all isLabelChar = true := by
  rw [List.all_eq_true]
  intro c hc
  rcases isNamePart_or_eq_at_of_mem h hc with hpart | rfl
  · simp [isLabelChar, hpart]
  · decide

theorem Part.all_label {p : Part} (hname : ∀ name ∈ p.name?, isReference name = true) :
    p.label.toList.all isLabelChar = true := by
  cases p with
  | literal text =>
    have hdigits : (Nat.toDigits 10 text.length).all isLabelChar = true := by
      rw [List.all_eq_true]
      intro c hc
      have hdigit := Nat.isDigit_of_mem_toDigits (by omega) (by omega) hc
      simp [isLabelChar, isNamePart, Char.isAlphanum, hdigit]
    rw [label_literal, toList_literalLabel, List.all_append, List.all_append, hdigits]
    decide
  | reference name =>
    have hchars := all_isLabelChar_of_isReference (hname name rfl)
    rw [label_reference, Marker.toList_braced, fenced, List.all_cons, List.all_cons,
      List.all_append, hchars]
    decide
  | block kind name =>
    have hchars := all_isLabelChar_of_isReference (hname name rfl)
    rw [label_block, toList_blockLabel, List.all_cons, List.all_append, List.all_cons, hchars]
    cases kind <;> decide

end Body

/-! ## Skeletons -/

/-- A body in which only the number of characters is left of each literal. -/
inductive Skeleton
  | empty
  | literal (length : Nat) (rest : Skeleton)
  | reference (name : String) (rest : Skeleton)
  | block (kind : BlockKind) (name : String) (inner rest : Skeleton)
deriving DecidableEq, Repr

def Body.skeleton : Body → Skeleton
  | empty => .empty
  | literal text rest => .literal text.length rest.skeleton
  | reference name rest => .reference name rest.skeleton
  | block kind name inner rest => .block kind name inner.skeleton rest.skeleton

namespace Skeleton

/-- The labels of an outline, each with the number of blocks around it. -/
def labels (level : Nat) : Skeleton → List (Nat × String)
  | empty => []
  | literal length rest => (level, literalLabel length) :: rest.labels level
  | reference name rest => (level, braced name) :: rest.labels level
  | block kind name inner rest =>
    (level, blockLabel kind name) :: (inner.labels (level + 1) ++ rest.labels level)

end Skeleton

namespace Body

theorem map_label_parts (b : Body) (level : Nat) :
    (b.parts level).map (fun e => (e.1, e.2.label)) = b.skeleton.labels level := by
  induction b generalizing level with
  | empty => rfl
  | literal text rest ih | reference name rest ih =>
    rw [parts, List.map_cons, ih, skeleton, Skeleton.labels]
    rfl
  | block kind name inner rest ih ih' =>
    rw [parts, List.map_cons, List.map_append, ih, ih', skeleton, Skeleton.labels]
    rfl

end Body

namespace Skeleton

/-- Nothing follows, or a label with fewer blocks around it. -/
def Stops (level : Nat) (rest : List (Nat × String)) : Prop := ∀ e ∈ rest.head?, e.1 < level

variable {a b : Skeleton} {level : Nat} {s t : List (Nat × String)}

theorem stops_nil : Stops level [] := by
  intro e he
  contradiction

/-- Where the labels of a level stop, those of a skeleton on that level do not start. -/
theorem Stops.eq_empty (h : Stops level t) (ha : a.labels level ++ s = t) : a = empty := by
  subst ha
  cases a with
  | empty => rfl
  | literal | reference | block => exact absurd (h _ rfl) (Nat.lt_irrefl level)

/-- What a block holds ends where what follows the block begins, or where this ends. -/
theorem Stops.succ (h : Stops level s) : Stops (level + 1) (a.labels level ++ s) := by
  intro e he
  cases a with
  | empty => exact Nat.lt_succ_of_lt (h e he)
  | literal | reference | block =>
    obtain rfl := Option.some.inj he
    exact Nat.lt_succ_self level

/-- Labels that start differently belong to different parts. -/
theorem label_ne {x y : Nat × String} (h : x.2.toList.head? ≠ y.2.toList.head?) : x ≠ y := by
  rintro rfl
  exact h rfl

/-- The labels and their levels tell the skeleton, and where its labels end. -/
theorem labels_append_inj (hs : Stops level s) (ht : Stops level t)
    (h : a.labels level ++ s = b.labels level ++ t) : a = b ∧ s = t := by
  induction a generalizing b level s t with
  | empty =>
    obtain rfl := hs.eq_empty h.symm
    exact ⟨rfl, h⟩
  | literal length rest ih =>
    cases b with
    | empty => exact absurd (ht.eq_empty h) (by simp)
    | literal length' rest' =>
      obtain ⟨hx, hrest⟩ := List.cons.inj h
      obtain ⟨rfl, rfl⟩ := ih hs ht hrest
      obtain rfl := literalLabel_inj (Prod.mk.inj hx).2
      exact ⟨rfl, rfl⟩
    | reference | block => exact absurd (List.cons.inj h).1 (label_ne (by simp))
  | reference name rest ih =>
    cases b with
    | empty => exact absurd (ht.eq_empty h) (by simp)
    | reference name' rest' =>
      obtain ⟨hx, hrest⟩ := List.cons.inj h
      obtain ⟨rfl, rfl⟩ := ih hs ht hrest
      obtain rfl := braced_inj (Prod.mk.inj hx).2
      exact ⟨rfl, rfl⟩
    | literal | block => exact absurd (List.cons.inj h).1 (label_ne (by simp))
  | block kind name inner rest ih ih' =>
    cases b with
    | empty => exact absurd (ht.eq_empty h) (by simp)
    | block kind' name' inner' rest' =>
      simp only [labels, List.cons_append, List.append_assoc] at h
      obtain ⟨hx, hrest⟩ := List.cons.inj h
      obtain ⟨rfl, rfl⟩ := blockLabel_inj (Prod.mk.inj hx).2
      -- the labels inside the block end where the level falls back to that of the block
      obtain ⟨rfl, hafter⟩ := ih hs.succ ht.succ hrest
      obtain ⟨rfl, rfl⟩ := ih' hs ht hafter
      exact ⟨rfl, rfl⟩
    | literal | reference => exact absurd (List.cons.inj h).1 (label_ne (by simp))

theorem labels_injective (h : a.labels level = b.labels level) : a = b :=
  (labels_append_inj stops_nil stops_nil (congrArg (· ++ []) h)).1

end Skeleton

/-! ## Lines -/

/-- Lines without line ends are read back if each of them is ended by a line feed. -/
theorem terminatedLines_flatMap {lines : List (List Char)}
    (h : ∀ line ∈ lines, '\n' ∉ line ∧ '\r' ∉ line) :
    terminatedLines (lines.flatMap (· ++ ['\n'])) = lines := by
  have hsplit : splitLines (lines.flatMap (· ++ ['\n'])) = lines ++ [[]] := by
    rw [splitLines_eq_splitOn]
    induction lines with
    | nil => rfl
    | cons line lines ih =>
      rw [List.flatMap_cons, List.append_assoc, List.singleton_append,
        List.splitOn_append_cons_self_of_not_mem (h line List.mem_cons_self).1,
        ih fun l hl => h l (List.mem_cons_of_mem _ hl), List.cons_append]
  have hdrop : lines.map (dropFinal '\r') = lines := by
    refine (List.map_congr_left fun line hline => ?_).trans (List.map_id lines)
    exact if_neg fun hlast => (h line hline).2 (List.mem_of_getLast? hlast)
  rw [terminatedLines, hsplit, List.dropLast_concat, List.getLast?_concat]
  exact hdrop

namespace Body

/-- The line of an outline for a part, without its end. -/
def indented (e : Nat × Part) : List Char := List.replicate (2 * e.1) ' ' ++ e.2.label.toList

/-- Reads the number of blocks and the label off a line. -/
def readLine (line : List Char) : Nat × String :=
  ((line.takeWhile (· == ' ')).length / 2, String.ofList (line.dropWhile (· == ' ')))

/-- A label does not start with a blank, so it is known where the indent ends. -/
theorem readLine_indented (e : Nat × Part) : readLine (indented e) = (e.1, e.2.label) := by
  have hblank : ∀ c ∈ List.replicate (2 * e.1) ' ', (c == ' ') = true := by
    intro c hc
    rw [List.eq_of_mem_replicate hc]
    rfl
  have hlabel : e.2.label.toList.takeWhile (· == ' ') = [] ∧
      e.2.label.toList.dropWhile (· == ' ') = e.2.label.toList := by
    cases htext : e.2.label.toList with
    | nil => exact ⟨rfl, rfl⟩
    | cons c text =>
      have hne : c ≠ ' ' := by
        rintro rfl
        exact Part.head?_label_ne_blank e.2 (by rw [htext]; rfl)
      simp [hne]
  rw [readLine, indented, List.takeWhile_append_of_pos hblank, List.dropWhile_append_of_pos hblank,
    hlabel.1, hlabel.2, List.append_nil, List.length_replicate,
    Nat.mul_div_cancel_left _ Nat.two_pos, String.ofList_toList]

theorem toList_outline (b : Body) :
    b.outline.toList = ((b.parts 0).map indented).flatMap (· ++ ['\n']) := by
  rw [outline, String.toList_join, List.flatMap_map, List.flatMap_map]
  refine List.flatMap_congr fun e _ => ?_
  rw [outlineLine, String.toList_append, String.toList_append, String.toList_ofList, indented]
  rfl

/-- All names of a canonical body are references. -/
theorem Canonical.isReference {b : Body} (h : b.Canonical) {level : Nat} :
    ∀ e ∈ b.parts level, ∀ name ∈ e.2.name?, isReference name = true := by
  induction b generalizing level with
  | empty => simp [parts]
  | literal text rest ih =>
    rw [parts, List.forall_mem_cons]
    exact ⟨nofun, ih h.2.2.2⟩
  | reference name rest ih =>
    rw [parts, List.forall_mem_cons]
    exact ⟨fun _ hn => Option.some.inj hn ▸ h.1, ih h.2⟩
  | block kind name inner rest ih ih' =>
    rw [parts, List.forall_mem_cons, List.forall_mem_append]
    exact ⟨fun _ hn => Option.some.inj hn ▸ h.1, ih h.2.1, ih' h.2.2⟩

theorem Canonical.terminatedLines_outline {b : Body} (h : b.Canonical) :
    terminatedLines b.outline.toList = (b.parts 0).map indented := by
  rw [toList_outline, terminatedLines_flatMap]
  intro line hline
  obtain ⟨e, he, rfl⟩ := List.mem_map.mp hline
  have hlabel := List.all_eq_true.mp (Part.all_label (h.isReference e he))
  have hnot : ∀ c, isLabelChar c = false → c ≠ ' ' → c ∉ indented e := by
    intro c hc hblank hmem
    rcases List.mem_append.mp hmem with hmem | hmem
    · exact hblank (List.eq_of_mem_replicate hmem)
    · exact Bool.false_ne_true (hc.symm.trans (hlabel c hmem))
  exact ⟨hnot '\n' (by decide) (by decide), hnot '\r' (by decide) (by decide)⟩

/-- The outlines of canonical bodies are the same exactly if the bodies differ in nothing but the
texts of literals of the same lengths. -/
theorem Canonical.outline_eq_iff {a b : Body} (ha : a.Canonical) (hb : b.Canonical) :
    a.outline = b.outline ↔ a.skeleton = b.skeleton := by
  constructor
  · intro h
    have hlines : (a.parts 0).map indented = (b.parts 0).map indented := by
      rw [← ha.terminatedLines_outline, h, hb.terminatedLines_outline]
    have hlabels : ∀ c : Body, ((c.parts 0).map indented).map readLine = c.skeleton.labels 0 := by
      intro c
      rw [List.map_map, ← map_label_parts]
      exact List.map_congr_left fun e _ => readLine_indented e
    have hskeleton : a.skeleton.labels 0 = b.skeleton.labels 0 := by
      rw [← hlabels, hlines, hlabels]
    exact Skeleton.labels_injective hskeleton
  · intro h
    let line (e : Nat × String) : String :=
      String.ofList (List.replicate (2 * e.1) ' ') ++ e.2 ++ "\n"
    have houtline : ∀ c : Body, c.outline = String.join ((c.skeleton.labels 0).map line) := by
      intro c
      rw [← map_label_parts, List.map_map]
      rfl
    rw [houtline a, h, houtline b]

/-- The outlines of two parsed templates are the same exactly if the trees are, once each literal is
replaced by its number of characters. An outline has one line for each part, in the order in which a
part comes before what it holds and this before what follows the part, and a line is indented by two
blanks for each block around its part. -/
theorem outline_faithful {limit limit' : Nat} {template template' : String} {a b : Body}
    (ha : parse limit template = .ok a) (hb : parse limit' template' = .ok b) :
    (a.outline = b.outline ↔ a.skeleton = b.skeleton) ∧
    ∃ nodes : List (List Nat × Part),
      nodes.Pairwise (fun x y => x.1 < y.1) ∧
      (∀ place part, (place, part) ∈ nodes ↔ a.at? place = some part) ∧
      terminatedLines a.outline.toList = nodes.map fun e =>
        List.replicate (2 * (e.1.length - 1)) ' ' ++ e.2.label.toList := by
  have hcanonical : a.Canonical := (parse_eq_ok_iff.mp ha).2.1
  refine ⟨hcanonical.outline_eq_iff (parse_eq_ok_iff.mp hb).2.1, a.placed 0,
    pairwise_placed a 0, ?_, ?_⟩
  · intro place part
    rw [mem_placed_iff]
    constructor
    · rintro ⟨j, rest, rfl, hat⟩
      rwa [Nat.zero_add]
    · intro hat
      cases place with
      | nil => cases hat
      | cons j rest => exact ⟨j, rest, by rw [Nat.zero_add], hat⟩
  · rw [hcanonical.terminatedLines_outline, ← map_placed a 0 0, List.map_map]
    refine List.map_congr_left fun e _ => ?_
    rw [Function.comp_apply, indented, Nat.zero_add]

/-- A text behind an empty block and the same text inside the block have different outlines. -/
theorem outline_inside_or_behind :
    parse 8 (braced "#if a" ++ braced "/if" ++ "x") =
        .ok (block .conditional "a" empty (literal "x" empty)) ∧
      parse 8 (braced "#if a" ++ "x" ++ braced "/if") =
        .ok (block .conditional "a" (literal "x" empty) empty) ∧
      (block .conditional "a" empty (literal "x" empty)).outline ≠
        (block .conditional "a" (literal "x" empty) empty).outline := by
  have hbehind : parse 8 (braced "#if a" ++ braced "/if" ++ "x") =
      .ok (block .conditional "a" empty (literal "x" empty)) := by decide +kernel
  have hinside : parse 8 (braced "#if a" ++ "x" ++ braced "/if") =
      .ok (block .conditional "a" (literal "x" empty) empty) := by decide +kernel
  exact ⟨hbehind, hinside, mt (outline_faithful hbehind hinside).1.mp (by decide)⟩

end Body

end Worksheet
