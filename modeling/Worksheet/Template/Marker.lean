/-!
The markers of the template language. A marker is written without any blank inside its braces,
and with exactly one blank between the keyword of an opening and its name. `Marker.spell` writes
a marker and `Marker.read?` reads one off the front of a text; whatever is read is the spelling
of the marker followed by the rest.
-/

namespace Worksheet

def braced (text : String) : String := "\x7b\x7b" ++ text ++ "\x7d\x7d"

/-! ## Names -/

/-- The name that stands for the current element inside an iteration. -/
def itemName : String := "this"

/-- The name that stands for the position of the current element, counted from one. -/
def indexName : String := "@index"

/-- Only ASCII letters and the underscore start a name. -/
def isNameStart (c : Char) : Bool := c.isAlpha || c == '_'

/-- A name goes on with ASCII letters, digits and underscores. -/
def isNamePart (c : Char) : Bool := c.isAlphanum || c == '_'

/-- Whether a text is a name that a descriptor may declare. -/
def isIdentifier (name : String) : Bool :=
  match name.toList with
  | [] => false
  | c :: cs => isNameStart c && cs.all isNamePart

/-- Whether a text may stand inside a marker: an identifier, or the name of the loop position. -/
def isReference (name : String) : Bool := name == indexName || isIdentifier name

/-- Reads the longest name a text starts with. -/
def readName? : List Char → Option (String × List Char)
  | '@' :: 'i' :: 'n' :: 'd' :: 'e' :: 'x' :: rest => some (indexName, rest)
  | c :: rest =>
    if isNameStart c then
      some (String.ofList (c :: rest.takeWhile isNamePart), rest.dropWhile isNamePart)
    else none
  | [] => none

theorem eq_append_of_readName? {text rest : List Char} {name : String}
    (h : readName? text = some (name, rest)) : text = name.toList ++ rest := by
  unfold readName? at h
  split at h
  · simp only [Option.some.injEq, Prod.mk.injEq] at h
    obtain ⟨rfl, rfl⟩ := h
    rfl
  · split at h
    · simp only [Option.some.injEq, Prod.mk.injEq] at h
      obtain ⟨rfl, rfl⟩ := h
      simp
    · simp at h
  · simp at h

theorem isReference_of_readName? {text rest : List Char} {name : String}
    (h : readName? text = some (name, rest)) : isReference name = true := by
  unfold readName? at h
  split at h
  · simp only [Option.some.injEq, Prod.mk.injEq] at h
    obtain ⟨rfl, _⟩ := h
    rfl
  · split at h
    · next hc =>
      simp only [Option.some.injEq, Prod.mk.injEq] at h
      obtain ⟨rfl, _⟩ := h
      have hall : ∀ l : List Char, (l.takeWhile isNamePart).all isNamePart = true := by
        intro l
        induction l with
        | nil => rfl
        | cons a l ih => by_cases ha : isNamePart a <;> simp [ha]
      simp [isReference, isIdentifier, hc, hall]
    · simp at h
  · simp at h

/-! ## Blocks -/

/-- The two kinds of block: shown on a condition, or once for each element of a list. -/
inductive BlockKind
  | conditional
  | iteration
deriving DecidableEq, Repr

namespace BlockKind

def keyword : BlockKind → String
  | conditional => "if"
  | iteration => "each"

def read? : List Char → Option (BlockKind × List Char)
  | 'i' :: 'f' :: rest => some (conditional, rest)
  | 'e' :: 'a' :: 'c' :: 'h' :: rest => some (iteration, rest)
  | _ => none

theorem eq_append_of_read? {text rest : List Char} {kind : BlockKind}
    (h : read? text = some (kind, rest)) : text = kind.keyword.toList ++ rest := by
  unfold read? at h
  split at h <;> simp only [Option.some.injEq, Prod.mk.injEq, reduceCtorEq] at h
  all_goals
    obtain ⟨rfl, rfl⟩ := h
    rfl

end BlockKind

/-! ## Markers -/

/-- What stands between double braces. -/
inductive Marker
  | reference (name : String)
  | opening (kind : BlockKind) (name : String)
  | closing (kind : BlockKind)
deriving DecidableEq, Repr

namespace Marker

def inner : Marker → List Char
  | reference name => name.toList
  | opening kind name => '#' :: (kind.keyword.toList ++ ' ' :: name.toList)
  | closing kind => '/' :: kind.keyword.toList

def spell (m : Marker) : List Char := '{' :: '{' :: (m.inner ++ ['}', '}'])

/-- The names of a marker are references. -/
def WellFormed : Marker → Prop
  | reference name => isReference name
  | opening _ name => isReference name
  | closing _ => True

instance : DecidablePred WellFormed
  | reference name => inferInstanceAs (Decidable (isReference name = true))
  | opening _ name => inferInstanceAs (Decidable (isReference name = true))
  | closing _ => inferInstanceAs (Decidable True)

/-- Reads what stands between the braces off the front of a text. -/
def readInner? : List Char → Option (Marker × List Char)
  | '#' :: text =>
    match BlockKind.read? text with
    | some (kind, ' ' :: text) => (readName? text).map fun (name, rest) => (opening kind name, rest)
    | _ => none
  | '/' :: text => (BlockKind.read? text).map fun (kind, rest) => (closing kind, rest)
  | text => (readName? text).map fun (name, rest) => (reference name, rest)

/-- Reads a marker off the front of a text. A text that only resembles a marker has none. -/
def read? : List Char → Option (Marker × List Char)
  | '{' :: '{' :: text =>
    match readInner? text with
    | some (m, '}' :: '}' :: rest) => some (m, rest)
    | _ => none
  | _ => none

theorem eq_append_of_readInner? {text rest : List Char} {m : Marker}
    (h : readInner? text = some (m, rest)) : text = m.inner ++ rest := by
  unfold readInner? at h
  split at h
  · split at h
    · next hk =>
      simp only [Option.map_eq_some_iff, Prod.mk.injEq, Prod.exists] at h
      obtain ⟨name, r, hn, rfl, rfl⟩ := h
      rw [BlockKind.eq_append_of_read? hk, eq_append_of_readName? hn]
      simp [inner]
    · simp at h
  · simp only [Option.map_eq_some_iff, Prod.mk.injEq, Prod.exists] at h
    obtain ⟨kind, r, hk, rfl, rfl⟩ := h
    rw [BlockKind.eq_append_of_read? hk]
    simp [inner]
  · simp only [Option.map_eq_some_iff, Prod.mk.injEq, Prod.exists] at h
    obtain ⟨name, r, hn, rfl, rfl⟩ := h
    rw [eq_append_of_readName? hn]
    simp [inner]

theorem eq_append_of_read? {text rest : List Char} {m : Marker}
    (h : read? text = some (m, rest)) : text = m.spell ++ rest := by
  unfold read? at h
  split at h
  · split at h
    · next hi =>
      simp only [Option.some.injEq, Prod.mk.injEq] at h
      obtain ⟨rfl, rfl⟩ := h
      rw [eq_append_of_readInner? hi]
      simp [spell]
    · simp at h
  · simp at h

theorem length_lt_of_read? {text rest : List Char} {m : Marker}
    (h : read? text = some (m, rest)) : rest.length < text.length := by
  have := congrArg List.length (eq_append_of_read? h)
  simp only [spell, List.length_append, List.length_cons] at this
  omega

end Marker

end Worksheet
