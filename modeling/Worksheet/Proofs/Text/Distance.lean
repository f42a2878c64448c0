import Mathlib.Order.Bounds.Defs
import Worksheet.Text.Distance

/-!
The edit distance is the least number of edits that turn one text into another. An edit inserts,
removes or replaces one character anywhere. The rows that are computed hold what a recursion on the
last characters of two texts gives, and one edit changes the result of that recursion by one at
most.
-/

namespace Worksheet

/-! ## Edits -/

/-- One character is inserted, removed or replaced. -/
inductive Edit : List Char → List Char → Prop
  | insert (before after : List Char) (c : Char) : Edit (before ++ after) (before ++ c :: after)
  | remove (before after : List Char) (c : Char) : Edit (before ++ c :: after) (before ++ after)
  | replace (before after : List Char) (c d : Char) :
    Edit (before ++ c :: after) (before ++ d :: after)

/-- A text is turned into another by so many edits, one after the other. -/
inductive Edits : Nat → List Char → List Char → Prop
  | refl (s : List Char) : Edits 0 s s
  | step {n : Nat} {s t u : List Char} : Edit s t → Edits n t u → Edits (n + 1) s u

variable {n : Nat} {s t : List Char}

theorem Edit.cons (c : Char) (h : Edit s t) : Edit (c :: s) (c :: t) := by
  cases h with
  | insert before after d => exact .insert (c :: before) after d
  | remove before after d => exact .remove (c :: before) after d
  | replace before after d e => exact .replace (c :: before) after d e

theorem Edit.reverse (h : Edit s t) : Edit s.reverse t.reverse := by
  cases h with
  | insert before after c => simpa using Edit.insert after.reverse before.reverse c
  | remove before after c => simpa using Edit.remove after.reverse before.reverse c
  | replace before after c d => simpa using Edit.replace after.reverse before.reverse c d

namespace Edits

theorem cons (c : Char) (h : Edits n s t) : Edits n (c :: s) (c :: t) := by
  induction h with
  | refl s => exact .refl (c :: s)
  | step hedit _ ih => exact .step (hedit.cons c) ih

theorem reverse (h : Edits n s t) : Edits n s.reverse t.reverse := by
  induction h with
  | refl s => exact .refl s.reverse
  | step hedit _ ih => exact .step hedit.reverse ih

theorem reverse_iff : Edits n s.reverse t.reverse ↔ Edits n s t := by
  constructor
  · intro h
    simpa using h.reverse
  · exact reverse

/-- Before anything else the first character may be removed, inserted or replaced. -/
theorem remove_head (c : Char) (h : Edits n s t) : Edits (n + 1) (c :: s) t :=
  .step (.remove [] s c) h

theorem insert_head (d : Char) (h : Edits n s t) : Edits (n + 1) s (d :: t) :=
  .step (.insert [] s d) (h.cons d)

theorem replace_head (c d : Char) (h : Edits n s t) : Edits (n + 1) (c :: s) (d :: t) :=
  .step (.replace [] s c d) (h.cons d)

theorem min {m : Nat} (h : Edits m s t) (h' : Edits n s t) : Edits (min m n) s t := by
  rw [Nat.min_def]
  split
  · exact h
  · exact h'

end Edits

/-! ## The fewest edits -/

/-- The fewest edits that turn one text into another, by what becomes of their first characters. -/
def fewestEdits : List Char → List Char → Nat
  | [], t => t.length
  | c :: s, [] => s.length + 1
  | c :: s, d :: t =>
    min (min (fewestEdits (c :: s) t + 1) (fewestEdits s (d :: t) + 1))
      (if c = d then fewestEdits s t else fewestEdits s t + 1)
termination_by s t => s.length + t.length

theorem fewestEdits_nil_left (t : List Char) : fewestEdits [] t = t.length := by
  rw [fewestEdits]

theorem fewestEdits_nil_right (s : List Char) : fewestEdits s [] = s.length := by
  cases s <;> simp [fewestEdits]

theorem fewestEdits_cons_cons (c d : Char) (s t : List Char) :
    fewestEdits (c :: s) (d :: t) =
      min (min (fewestEdits (c :: s) t + 1) (fewestEdits s (d :: t) + 1))
        (if c = d then fewestEdits s t else fewestEdits s t + 1) := by
  rw [fewestEdits]

theorem edits_nil_left (t : List Char) : Edits t.length [] t := by
  induction t with
  | nil => exact .refl []
  | cons d t ih => exact ih.insert_head d

theorem edits_nil_right (s : List Char) : Edits s.length s [] := by
  induction s with
  | nil => exact .refl []
  | cons c s ih => exact ih.remove_head c

/-- So many edits are enough. -/
theorem edits_fewestEdits (s t : List Char) : Edits (fewestEdits s t) s t := by
  fun_induction fewestEdits s t with
  | case1 t => exact edits_nil_left t
  | case2 c s => exact edits_nil_right (c :: s)
  | case3 c s d t ihinsert ihremove ihkeep =>
    have hinsert : Edits (fewestEdits (c :: s) t + 1) (c :: s) (d :: t) := ihinsert.insert_head d
    have hremove : Edits (fewestEdits s (d :: t) + 1) (c :: s) (d :: t) := ihremove.remove_head c
    have hkeep : Edits (if c = d then fewestEdits s t else fewestEdits s t + 1)
        (c :: s) (d :: t) := by
      split
      · next h => exact h ▸ ihkeep.cons c
      · exact ihkeep.replace_head c d
    exact (hinsert.min hremove).min hkeep

/-! ## One edit more or less -/

theorem fewestEdits_cons_left_le (c : Char) (s t : List Char) :
    fewestEdits (c :: s) t ≤ fewestEdits s t + 1 := by
  cases t with
  | nil => simp [fewestEdits_nil_right]
  | cons d t =>
    rw [fewestEdits_cons_cons]
    omega

theorem fewestEdits_cons_right_le (d : Char) (s t : List Char) :
    fewestEdits s (d :: t) ≤ fewestEdits s t + 1 := by
  cases s with
  | nil => simp [fewestEdits_nil_left]
  | cons c s =>
    rw [fewestEdits_cons_cons]
    omega

theorem fewestEdits_le_cons_left (c : Char) (s t : List Char) :
    fewestEdits s t ≤ fewestEdits (c :: s) t + 1 := by
  induction t with
  | nil =>
    simp only [fewestEdits_nil_right, List.length_cons]
    omega
  | cons d t ih =>
    have hinsert := fewestEdits_cons_right_le d s t
    rw [fewestEdits_cons_cons]
    split <;> omega

theorem fewestEdits_cons_le_cons (c d : Char) (s t : List Char) :
    fewestEdits (c :: s) t ≤ fewestEdits (d :: s) t + 1 := by
  induction t with
  | nil => simp [fewestEdits_nil_right]
  | cons e t ih =>
    rw [fewestEdits_cons_cons, fewestEdits_cons_cons]
    split <;> split <;> omega

/-- What holds for the rest of two texts holds with the same character in front of them. -/
theorem fewestEdits_cons_mono (c : Char) (h : ∀ u, fewestEdits s u ≤ fewestEdits t u + 1)
    (u : List Char) : fewestEdits (c :: s) u ≤ fewestEdits (c :: t) u + 1 := by
  induction u with
  | nil => simpa [fewestEdits_nil_right] using h []
  | cons d u ih =>
    have hremove := h (d :: u)
    have hkeep := h u
    rw [fewestEdits_cons_cons, fewestEdits_cons_cons]
    split <;> omega

theorem fewestEdits_append_mono (before : List Char)
    (h : ∀ u, fewestEdits s u ≤ fewestEdits t u + 1) :
    ∀ u, fewestEdits (before ++ s) u ≤ fewestEdits (before ++ t) u + 1 := by
  induction before with
  | nil => exact h
  | cons c before ih => exact fewestEdits_cons_mono c ih

/-- An edit saves one edit at most. -/
theorem Edit.fewestEdits_le (h : Edit s t) (u : List Char) :
    fewestEdits s u ≤ fewestEdits t u + 1 := by
  cases h with
  | insert before after c =>
    exact fewestEdits_append_mono before (fewestEdits_le_cons_left c after) u
  | remove before after c =>
    exact fewestEdits_append_mono before (fewestEdits_cons_left_le c after) u
  | replace before after c d =>
    exact fewestEdits_append_mono before (fewestEdits_cons_le_cons c d after) u

theorem fewestEdits_self (s : List Char) : fewestEdits s s = 0 := by
  induction s with
  | nil => simp [fewestEdits_nil_left]
  | cons c s ih => simp [fewestEdits_cons_cons, ih]

/-- Fewer edits are not enough. -/
theorem Edits.fewestEdits_le (h : Edits n s t) : fewestEdits s t ≤ n := by
  induction h with
  | refl s => exact Nat.le_of_eq (fewestEdits_self s)
  | step hedit _ ih => exact Nat.le_trans (hedit.fewestEdits_le _) (Nat.succ_le_succ ih)

theorem isLeast_fewestEdits (s t : List Char) : IsLeast {n | Edits n s t} (fewestEdits s t) :=
  ⟨edits_fewestEdits s t, fun _ h => h.fewestEdits_le⟩

/-! ## Rows -/

/-- The fewest edits from one text to the starts of another that are longer than a given one. All
but the rest of the second text is held with its last character first. -/
def rowFrom (s before : List Char) : List Char → List Nat
  | [] => []
  | d :: rest => fewestEdits s (d :: before) :: rowFrom s (d :: before) rest

/-- The row of a text: the fewest edits from it to all starts of the target. -/
def rowOf (target s : List Char) : List Nat := fewestEdits s [] :: rowFrom s [] target

theorem rowBelow_rowFrom (c : Char) (s before rest : List Char) :
    rowBelow c (fewestEdits (c :: s) before) (fewestEdits s before) rest (rowFrom s before rest) =
      rowFrom (c :: s) before rest := by
  induction rest generalizing before with
  | nil => rfl
  | cons d rest ih => rw [rowFrom, rowBelow, ← fewestEdits_cons_cons, ih, rowFrom]

theorem extendRow_rowOf (target s : List Char) (c : Char) :
    extendRow target (rowOf target s) c = rowOf target (c :: s) := by
  have hfirst : fewestEdits (c :: s) [] = fewestEdits s [] + 1 := by simp [fewestEdits_nil_right]
  rw [rowOf, extendRow, ← hfirst, rowBelow_rowFrom, rowOf]

theorem foldl_extendRow (target source s : List Char) :
    source.foldl (extendRow target) (rowOf target s) = rowOf target (source.reverse ++ s) := by
  induction source generalizing s with
  | nil => rfl
  | cons c source ih => simp [extendRow_rowOf, ih]

theorem rowOf_nil (target : List Char) : rowOf target [] = List.range (target.length + 1) := by
  have hrow : ∀ before rest : List Char, rowFrom [] before rest =
      List.range' (before.length + 1) rest.length := by
    intro before rest
    induction rest generalizing before with
    | nil => rfl
    | cons d rest ih => simp [rowFrom, ih, fewestEdits_nil_left, List.range'_succ]
  rw [rowOf, hrow, fewestEdits_nil_left, List.range_eq_range', List.range'_succ]
  rfl

theorem getLast?_rowFrom (s before rest : List Char) :
    (fewestEdits s before :: rowFrom s before rest).getLast? =
      some (fewestEdits s (rest.reverse ++ before)) := by
  induction rest generalizing before with
  | nil => rfl
  | cons d rest ih => simp [rowFrom, List.getLast?_cons_cons, ih]

theorem editDistance_eq (s t : List Char) :
    editDistance s t = fewestEdits s.reverse t.reverse := by
  rw [editDistance, ← rowOf_nil, foldl_extendRow, rowOf, getLast?_rowFrom]
  simp

/-- The edit distance is the least number of edits that turn the one text into the other. -/
theorem isLeast_editDistance (s t : List Char) : IsLeast {n | Edits n s t} (editDistance s t) := by
  have hleast := isLeast_fewestEdits s.reverse t.reverse
  simpa only [Edits.reverse_iff, ← editDistance_eq] using hleast

end Worksheet
