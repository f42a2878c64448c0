import Worksheet.Proofs.Command.Stages
import Worksheet.Proofs.Descriptor.Validity
import Worksheet.Proofs.Json.Reading
import Worksheet.Proofs.Value.Conversion

/-!
The values that a rendering starts from. An assignment is cut at its first equals sign; in front of
it stands a name, and what follows is taken as it is unless it is a list in JSON. Assignments are
put over the values of a file one after the other, so of those with one name the last counts, and
the first one without a name ends the run.
-/

namespace Worksheet

/-! ## Cutting an assignment -/

/-- Whether an assignment consists of two stretches with its first equals sign between them. -/
structure CutAtEquals (a : String) (key rest : List Char) : Prop where
  text_eq : a.toList = key ++ '=' :: rest
  first : '=' ∉ key

/-- Whether no name stands in front of the first equals sign of an assignment, or there is no such
sign. -/
def Nameless (a : String) : Prop :=
  '=' ∉ a.toList ∨ ∃ key rest, CutAtEquals a key rest ∧ ∀ c ∈ key, isSpace c = true

/-- Whether an assignment is to a name, which may have white space around it. -/
def AssignsTo (a name : String) : Prop :=
  ∃ key rest, CutAtEquals a key rest ∧ name.toList = trim key

variable {a name : String} {key rest : List Char}

theorem CutAtEquals.eq (h : CutAtEquals a key rest) :
    key = a.toList.takeWhile (· != '=') ∧ rest = (a.toList.dropWhile (· != '=')).drop 1 := by
  have hkey : ∀ c ∈ key, (c != '=') = true := by
    intro c hc
    simp only [bne_iff_ne, ne_eq]
    rintro rfl
    exact h.first hc
  rw [h.text_eq, List.takeWhile_append_of_pos hkey, List.dropWhile_append_of_pos hkey]
  simp

/-- An assignment is cut in one way only. -/
theorem CutAtEquals.unique {key' rest' : List Char} (h : CutAtEquals a key rest)
    (h' : CutAtEquals a key' rest') : key = key' ∧ rest = rest' :=
  ⟨h.eq.1.trans h'.eq.1.symm, h.eq.2.trans h'.eq.2.symm⟩

theorem AssignsTo.unique {name' : String} (h : AssignsTo a name) (h' : AssignsTo a name') :
    name = name' := by
  obtain ⟨key, rest, hcut, hname⟩ := h
  obtain ⟨key', rest', hcut', hname'⟩ := h'
  rw [← String.toList_inj, hname, hname', (hcut.unique hcut').1]

/-! ## The value of an assignment -/

/-- Whether a text is a JSON array in which no object stands. White space may come first, but
only such as JSON permits lets the text be read. -/
structure WritesArray (text : List Char) (items : List Json) : Prop where
  bracket : (trimStart text).head? = some '['
  parsed : Json.parse? (String.ofList text) = some (.array items)
  plain : ¬ (Json.array items).HoldsObject

/-- Whether a text behind an equals sign is given for a value: for a list if it is written as one, and
for itself otherwise. -/
inductive GivenFor (text : List Char) : Value → Prop
  | list {items values} : WritesArray text items → List.Forall₂ Value.Mirrors items values →
      GivenFor text (.list values)
  | text : (∀ items, ¬ WritesArray text items) → GivenFor text (.text (String.ofList text))

/-- Whether an assignment gives a value to a name. -/
def Assigns (a name : String) (v : Value) : Prop :=
  ∃ key rest, CutAtEquals a key rest ∧ name.toList = trim key ∧ GivenFor rest v

theorem Assigns.assignsTo {v : Value} (h : Assigns a name v) : AssignsTo a name := by
  obtain ⟨key, rest, hcut, hname, -⟩ := h
  exact ⟨key, rest, hcut, hname⟩

/-- What a name is bound to after assignments were put over a context: to what the last assignment
to it gives, or to what it was bound to if there is none. -/
inductive BoundAfter (c : Context) (assignments : List String) (name : String) :
    Option Value → Prop
  | assigned (before) {a after v} : assignments = before ++ a :: after → Assigns a name v →
      (∀ b ∈ after, ¬ AssignsTo b name) → BoundAfter c assignments name (some v)
  | kept : (∀ a ∈ assignments, ¬ AssignsTo a name) → BoundAfter c assignments name (c.get? name)

/-- What becomes of assignments put over a context. -/
inductive AssignOutcome (c : Context) (assignments : List String) : Except Failure Context → Prop
  | refused (before) {a after} : assignments = before ++ a :: after → (∀ b ∈ before, ¬ Nameless b) →
      Nameless a → AssignOutcome c assignments (.error ⟨.problem (.invalidAssignment a), []⟩)
  | bound {supplied : Context} : (∀ a ∈ assignments, ¬ Nameless a) →
      (∀ name, BoundAfter c assignments name (supplied.get? name)) →
      AssignOutcome c assignments (.ok supplied)

variable {c : Context} {assignments : List String}

/-- An assignment in front counts only for a name that no later one is to. -/
theorem BoundAfter.cons {name' : String} {v : Value} {bound : Option Value}
    (ha : Assigns a name' v) (h : BoundAfter (c.insert name' v) assignments name bound) :
    BoundAfter c (a :: assignments) name bound := by
  cases h with
  | assigned before hsplit hassigns hlater =>
    exact .assigned (a :: before) (congrArg (a :: ·) hsplit) hassigns hlater
  | kept hnone =>
    rw [Dictionary.get?_insert]
    split
    · next hname => exact .assigned [] rfl (hname ▸ ha) hnone
    · next hname =>
      exact .kept (List.forall_mem_cons.mpr ⟨fun hto => hname (hto.unique ha.assignsTo), hnone⟩)

theorem AssignOutcome.cons {name' : String} {v : Value} {r : Except Failure Context}
    (hname : ¬ Nameless a) (ha : Assigns a name' v)
    (h : AssignOutcome (c.insert name' v) assignments r) :
    AssignOutcome c (a :: assignments) r := by
  cases h with
  | refused before hsplit hbefore hnameless =>
    exact .refused (a :: before) (congrArg (a :: ·) hsplit)
      (List.forall_mem_cons.mpr ⟨hname, hbefore⟩) hnameless
  | bound hnames hbound =>
    exact .bound (List.forall_mem_cons.mpr ⟨hname, hnames⟩) fun name => (hbound name).cons ha

namespace RenderRequest

end RenderRequest

end Worksheet
