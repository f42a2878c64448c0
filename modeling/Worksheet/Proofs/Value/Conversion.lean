import Mathlib.Data.List.Forall2
import Worksheet.Value.Json

/-!
JSON data as values and contexts. A place within some data says which child to enter at each level,
so that the order of places is the order of a visit that goes into depth first and from left to
right. Data without an object has the value of its own shape; otherwise the first object of that
visit is the one that is blamed, and only arrays lie on the way to it.
-/

namespace Worksheet

namespace Json

/-! ## Places -/

/-- What stands right inside some data, from left to right. -/
def children : Json → List Json
  | array items => items
  | object members => members.map Prod.snd
  | _ => []

/-- What stands at a place. -/
def at? (j : Json) : List Nat → Option Json
  | [] => some j
  | i :: place => j.children[i]?.bind fun child => child.at? place

def HoldsObject (j : Json) : Prop := ∃ place members, j.at? place = some (object members)

/-- Whether a place is that of the first object. Lists of numbers are ordered as words are, and so
is the visit of the places. -/
structure FirstObject (j : Json) (place : List Nat) : Prop where
  leads : ∃ members, j.at? place = some (object members)
  through_arrays : ∀ before i after, place = before ++ i :: after →
    ∃ items, j.at? before = some (array items)
  first : ∀ other, other < place → ∀ members, j.at? other ≠ some (object members)

variable {j : Json} {items : List Json} {place : List Nat}

theorem at?_cons_of_getElem? {child : Json} {i : Nat} (h : items[i]? = some child) :
    (array items).at? (i :: place) = child.at? place := by
  change items[i]?.bind _ = _
  rw [h, Option.bind_some]

/-- An object at a place in an array stands in one of its elements. -/
theorem getElem?_of_at?_array {members : List (String × Json)}
    (h : (array items).at? place = some (object members)) :
    ∃ i rest child, place = i :: rest ∧ items[i]? = some child ∧
      child.at? rest = some (object members) := by
  cases place with
  | nil => simp [at?] at h
  | cons i rest =>
    obtain ⟨child, hchild, hat⟩ := Option.bind_eq_some_iff.mp h
    exact ⟨i, rest, child, rfl, hchild, hat⟩

theorem not_holdsObject_of_children (hobject : ∀ members, j ≠ object members)
    (h : j.children = []) : ¬ j.HoldsObject := by
  rintro ⟨place, members, hat⟩
  cases place with
  | nil => exact hobject members (Option.some.inj hat)
  | cons i rest =>
    rw [at?, h] at hat
    contradiction

theorem holdsObject_array_iff :
    (array items).HoldsObject ↔ ∃ child ∈ items, child.HoldsObject := by
  constructor
  · rintro ⟨place, members, hat⟩
    obtain ⟨i, rest, child, -, hchild, hat⟩ := getElem?_of_at?_array hat
    exact ⟨child, List.mem_of_getElem? hchild, rest, members, hat⟩
  · rintro ⟨child, hmem, place, members, hat⟩
    obtain ⟨i, hi⟩ := List.getElem?_of_mem hmem
    exact ⟨i :: place, members, (at?_cons_of_getElem? hi).trans hat⟩

theorem firstObject_object (members : List (String × Json)) : (object members).FirstObject [] where
  leads := ⟨members, rfl⟩
  through_arrays := by simp
  first other hother := absurd hother (List.not_lt_nil other)

/-- The first object of an array is that of the first element with an object. -/
theorem FirstObject.array {before after : List Json} (h : j.FirstObject place)
    (hbefore : ∀ k ∈ before, ¬ k.HoldsObject) :
    (Json.array (before ++ j :: after)).FirstObject (before.length :: place) := by
  have hchild : (before ++ j :: after)[before.length]? = some j := by simp
  constructor
  case leads =>
    rw [at?_cons_of_getElem? hchild]
    exact h.leads
  case through_arrays =>
    intro outer i inner hsplit
    cases outer with
    | nil => exact ⟨_, rfl⟩
    | cons k outer =>
      obtain ⟨rfl, hplace⟩ := List.cons.inj hsplit
      rw [at?_cons_of_getElem? hchild]
      exact h.through_arrays outer i inner hplace
  case first =>
    intro other hother members hat
    obtain ⟨i, rest, child, rfl, hget, hat⟩ := getElem?_of_at?_array hat
    rcases List.cons_lt_cons_iff.mp hother with hlt | ⟨rfl, hlt⟩
    · rw [List.getElem?_append_left hlt] at hget
      exact hbefore child (List.mem_of_getElem? hget) ⟨rest, members, hat⟩
    · rw [hchild] at hget
      obtain rfl := Option.some.inj hget
      exact h.first rest hlt members hat

/-! ## Paths -/

def pathText (root : String) (place : List Nat) : String :=
  root ++ String.join (place.map fun i => s!"[{i}]")

theorem pathText_nil (root : String) : pathText root [] = root := String.append_empty

theorem pathText_cons (root : String) (i : Nat) (place : List Nat) :
    pathText root (i :: place) = pathText (root ++ s!"[{i}]") place := by
  rw [pathText, pathText, List.map_cons, String.join_cons]
  exact String.append_assoc.symm

end Json

namespace Value

/-! ## Values -/

/-- Whether a value has the shape and the data of some JSON data. -/
inductive Mirrors : Json → Value → Prop
  | null : Mirrors .null .null
  | boolean {b} : Mirrors (.boolean b) (.boolean b)
  | integer {n} : Mirrors (.integer n) (.number (.ofInt n))
  | real {x} : Mirrors (.real x) (.number x)
  | string {s} : Mirrors (.string s) (.text s)
  | array {items values} : List.Forall₂ Mirrors items values → Mirrors (.array items) (.list values)

/-- The error that blames the object at a place. -/
def blamed (root : String) (place : List Nat) : DataError :=
  .unsupported (Json.pathText root place) "object"

/-- What becomes of some data at a path. -/
inductive Outcome (path : String) (j : Json) : Except DataError Value → Prop
  | value {v} : Mirrors j v → ¬ j.HoldsObject → Outcome path j (.ok v)
  | refused {place} : j.FirstObject place → Outcome path j (.error (blamed path place))

/-- What becomes of the elements of an array at a path, the first of which has the index. -/
inductive ItemsOutcome (path : String) (index : Nat) (items : List Json) :
    Except DataError (List Value) → Prop
  | values {vs} : List.Forall₂ Mirrors items vs → (∀ j ∈ items, ¬ j.HoldsObject) →
      ItemsOutcome path index items (.ok vs)
  | refused (before) {j after place} : items = before ++ j :: after →
      (∀ k ∈ before, ¬ k.HoldsObject) → j.FirstObject place →
      ItemsOutcome path index items (.error (blamed path ((index + before.length) :: place)))

theorem Outcome.array {path : String} {items : List Json} {r : Except DataError (List Value)}
    (h : ItemsOutcome path 0 items r) : Outcome path (.array items) (r.map list) := by
  cases h with
  | values hmirrors hnone =>
    refine .value (.array hmirrors) ?_
    rw [Json.holdsObject_array_iff]
    rintro ⟨j, hj, hholds⟩
    exact hnone j hj hholds
  | refused before hsplit hbefore hfirst =>
    rw [Nat.zero_add, hsplit]
    exact .refused (hfirst.array hbefore)

theorem itemsOutcome_nil (path : String) (index : Nat) : ItemsOutcome path index [] (.ok []) :=
  .values .nil (by simp)

/-- The first element decides, or else the rest. -/
theorem ItemsOutcome.cons {path : String} {index : Nat} {j : Json} {items : List Json}
    {r : Except DataError Value} {rs : Except DataError (List Value)}
    (h : Outcome (path ++ s!"[{index}]") j r) (hrest : ItemsOutcome path (index + 1) items rs) :
    ItemsOutcome path index (j :: items) (do return (← r) :: (← rs)) := by
  cases h with
  | refused hfirst =>
    rw [blamed, ← Json.pathText_cons]
    exact .refused [] rfl (by simp) hfirst
  | value hmirrors hnone =>
    cases hrest with
    | values hmirrors' hnone' =>
      exact .values (.cons hmirrors hmirrors') (List.forall_mem_cons.mpr ⟨hnone, hnone'⟩)
    | refused before hsplit hbefore hfirst =>
      have hindex : index + 1 + before.length = index + (j :: before).length := by
        rw [List.length_cons]
        omega
      rw [hindex]
      exact .refused (j :: before) (congrArg (j :: ·) hsplit)
        (List.forall_mem_cons.mpr ⟨hnone, hbefore⟩) hfirst

theorem outcome_object (path : String) (members : List (String × Json)) :
    Outcome path (.object members) (.error (.unsupported path "object")) := by
  have hrefused : Outcome path (.object members) (.error (blamed path [])) :=
    .refused (Json.firstObject_object members)
  rwa [blamed, Json.pathText_nil] at hrefused

mutual

theorem outcome_ofJson (path : String) : ∀ j : Json, Outcome path j (ofJson path j)
  | .null => .value .null (Json.not_holdsObject_of_children (by simp) rfl)
  | .boolean _ => .value .boolean (Json.not_holdsObject_of_children (by simp) rfl)
  | .integer _ => .value .integer (Json.not_holdsObject_of_children (by simp) rfl)
  | .real _ => .value .real (Json.not_holdsObject_of_children (by simp) rfl)
  | .string _ => .value .string (Json.not_holdsObject_of_children (by simp) rfl)
  | .array items => .array (outcome_ofItems path 0 items)
  | .object members => outcome_object path members

theorem outcome_ofItems (path : String) (index : Nat) :
    ∀ items : List Json, ItemsOutcome path index items (ofItems path index items)
  | [] => itemsOutcome_nil path index
  | j :: rest => .cons (outcome_ofJson _ j) (outcome_ofItems path (index + 1) rest)

end

end Value

namespace Context

open Value

/-! ## Contexts -/

inductive MembersOutcome (members : List (String × Json)) :
    Except DataError (List (String × Value)) → Prop
  | entries {es} : List.Forall₂ (fun m e => m.1 = e.1 ∧ Mirrors m.2 e.2) members es →
      (∀ m ∈ members, ¬ m.2.HoldsObject) → MembersOutcome members (.ok es)
  | refused (before) {name j after place} : members = before ++ (name, j) :: after →
      (∀ m ∈ before, ¬ m.2.HoldsObject) → j.FirstObject place →
      MembersOutcome members (.error (blamed name place))

/-- The first member decides, or else the rest. -/
theorem MembersOutcome.cons {name : String} {j : Json} {members : List (String × Json)}
    {r : Except DataError Value} {rs : Except DataError (List (String × Value))}
    (h : Outcome name j r) (hrest : MembersOutcome members rs) :
    MembersOutcome ((name, j) :: members) (do let v ← r; return (name, v) :: (← rs)) := by
  cases h with
  | refused hfirst => exact .refused [] rfl (by simp) hfirst
  | value hmirrors hnone =>
    cases hrest with
    | entries hmirrors' hnone' =>
      exact .entries (.cons ⟨rfl, hmirrors⟩ hmirrors') (List.forall_mem_cons.mpr ⟨hnone, hnone'⟩)
    | refused before hsplit hbefore hfirst =>
      exact .refused ((name, j) :: before) (congrArg ((name, j) :: ·) hsplit)
        (List.forall_mem_cons.mpr ⟨hnone, hbefore⟩) hfirst

theorem outcome_ofMembers :
    ∀ members : List (String × Json), MembersOutcome members (ofMembers members)
  | [] => .entries .nil (by simp)
  | (name, j) :: rest => .cons (outcome_ofJson name j) (outcome_ofMembers rest)

theorem map_fst_eq {members : List (String × Json)} {es : List (String × Value)}
    (h : List.Forall₂ (fun m e => m.1 = e.1 ∧ Mirrors m.2 e.2) members es) :
    members.map Prod.fst = es.map Prod.fst := by
  induction h with
  | nil => rfl
  | cons hentry _ ih => rw [List.map_cons, List.map_cons, hentry.1, ih]

theorem rel_lookup {members : List (String × Json)} {es : List (String × Value)}
    (h : List.Forall₂ (fun m e => m.1 = e.1 ∧ Mirrors m.2 e.2) members es) (name : String) :
    Option.Rel Mirrors (members.lookup name) (es.lookup name) := by
  induction h with
  | nil => exact .none
  | @cons m e members es hentry _ ih =>
    obtain ⟨key, j⟩ := m
    obtain ⟨key', v⟩ := e
    obtain ⟨hkey, hmirrors⟩ := hentry
    obtain rfl : key = key' := hkey
    rw [Dictionary.lookup_cons_eq_ite, Dictionary.lookup_cons_eq_ite]
    split
    · exact .some hmirrors
    · exact ih

/-- Entries that match the members of an object are in order as well, and none is lost. -/
theorem rel_get? {d : Dictionary Json} {es : List (String × Value)}
    (h : List.Forall₂ (fun m e => m.1 = e.1 ∧ Mirrors m.2 e.2) d.entries es) (name : String) :
    Option.Rel Mirrors (d.get? name) ((Dictionary.ofList es).get? name) := by
  have hordered : (es.map Prod.fst).Pairwise (· < ·) := by
    rw [← map_fst_eq h]
    exact List.pairwise_map.mpr d.ordered
  have hentries : (Dictionary.ofList es).entries = es :=
    Dictionary.entries_foldl_insert (d := .empty) (List.pairwise_map.mp hordered)
  rw [Dictionary.get?, Dictionary.get?, hentries]
  exact rel_lookup h name

/-- An entry is found by its name, and what smaller names find stands before it. -/
theorem get?_of_entries_eq {d : Dictionary Json} {before after : List (String × Json)}
    {name : String} {j : Json} (h : d.entries = before ++ (name, j) :: after) :
    d.get? name = some j ∧
      ∀ other, other < name → ∀ k, d.get? other = some k → (other, k) ∈ before := by
  have hordered := d.ordered
  rw [h, List.pairwise_append] at hordered
  obtain ⟨-, hafter, hbefore⟩ := hordered
  constructor
  · rw [Dictionary.get?, h, List.lookup_eq_some_iff]
    refine ⟨before, after, rfl, ?_⟩
    intro m hm
    have hlt : m.1 < name := hbefore m hm _ List.mem_cons_self
    simp only [bne_iff_ne, ne_eq]
    rintro rfl
    exact String.lt_irrefl _ hlt
  · intro other hother k hk
    have hnone : ((name, j) :: after).lookup other = none :=
      Dictionary.lookup_eq_none_of_lt (List.forall_mem_cons.mpr
        ⟨hother, fun m hm => String.lt_trans hother ((List.pairwise_cons.mp hafter).1 m hm)⟩)
    rw [Dictionary.get?, h, List.lookup_append, hnone, Option.or_none] at hk
    obtain ⟨front, back, rfl, -⟩ := List.lookup_eq_some_iff.mp hk
    exact List.mem_append_right front List.mem_cons_self

end Context

namespace Json

/-- How JSON data becomes a value and a context. The members of an object that is read are the
entries of a dictionary, so that the smallest name is the first. -/
structure Converts (j : Json) : Prop where
  value_iff : (∃ v, Value.ofJson "$" j = .ok v) ↔ ¬ j.HoldsObject
  value_mirrors : ∀ v, Value.ofJson "$" j = .ok v → Value.Mirrors j v
  value_refused : ∀ e, Value.ofJson "$" j = .error e →
    ∃ place, j.FirstObject place ∧ e = .unsupported (pathText "$" place) "object"
  context_iff : (∃ c, Context.ofJson j = .ok c) ↔
    ∃ members, j = object members ∧ ∀ m ∈ members, ¬ m.2.HoldsObject
  context_mirrors : ∀ (d : Dictionary Json) c, j = object d.entries → Context.ofJson j = .ok c →
    ∀ name, Option.Rel Value.Mirrors (d.get? name) (c.get? name)
  context_refused : ∀ (d : Dictionary Json) e, j = object d.entries → Context.ofJson j = .error e →
    ∃ name member place, d.get? name = some member ∧ member.FirstObject place ∧
      (∀ other, other < name → ∀ k, d.get? other = some k → ¬ k.HoldsObject) ∧
      e = .unsupported (pathText name place) "object"

theorem FirstObject.holdsObject {j : Json} {place : List Nat} (h : j.FirstObject place) :
    j.HoldsObject :=
  ⟨place, h.leads⟩

theorem exists_value_iff (path : String) (j : Json) :
    (∃ v, Value.ofJson path j = .ok v) ↔ ¬ j.HoldsObject := by
  have houtcome := Value.outcome_ofJson path j
  generalize Value.ofJson path j = r at houtcome
  cases houtcome with
  | value _ hnone => exact ⟨fun _ => hnone, fun _ => ⟨_, rfl⟩⟩
  | refused hfirst => exact ⟨nofun, absurd hfirst.holdsObject⟩

theorem exists_context_object_iff (members : List (String × Json)) :
    (∃ c, Context.ofJson (object members) = .ok c) ↔ ∀ m ∈ members, ¬ m.2.HoldsObject := by
  have houtcome := Context.outcome_ofMembers members
  rw [Context.ofJson]
  generalize Context.ofMembers members = r at houtcome
  cases houtcome with
  | entries _ hnone => exact ⟨fun _ => hnone, fun _ => ⟨_, rfl⟩⟩
  | @refused before name j after place hsplit _ hfirst =>
    have hmem : (name, j) ∈ members := by
      rw [hsplit]
      exact List.mem_append_right before List.mem_cons_self
    exact ⟨nofun, fun hnone => absurd hfirst.holdsObject (hnone (name, j) hmem)⟩

theorem exists_context_iff (j : Json) :
    (∃ c, Context.ofJson j = .ok c) ↔
      ∃ members, j = object members ∧ ∀ m ∈ members, ¬ m.2.HoldsObject := by
  constructor
  · rintro ⟨c, hc⟩
    cases j with
    | object members => exact ⟨members, rfl, (exists_context_object_iff members).mp ⟨c, hc⟩⟩
    | _ => contradiction
  · rintro ⟨members, rfl, hnone⟩
    exact (exists_context_object_iff members).mpr hnone

/-- Data becomes a value or a context unless an object stands in it, and then the first one is
blamed. -/
theorem converts (j : Json) : j.Converts where
  value_iff := exists_value_iff "$" j
  value_mirrors v hv := by
    have houtcome := Value.outcome_ofJson "$" j
    rw [hv] at houtcome
    cases houtcome with
    | value hmirrors _ => exact hmirrors
  value_refused e he := by
    have houtcome := Value.outcome_ofJson "$" j
    rw [he] at houtcome
    cases houtcome with
    | refused hfirst => exact ⟨_, hfirst, rfl⟩
  context_iff := exists_context_iff j
  context_mirrors d c hj hc := by
    have houtcome := Context.outcome_ofMembers d.entries
    rw [hj, Context.ofJson] at hc
    generalize Context.ofMembers d.entries = r at houtcome hc
    cases houtcome with
    | entries hmirrors _ =>
      obtain rfl := Except.ok.inj hc
      exact Context.rel_get? hmirrors
    | refused => contradiction
  context_refused d e hj he := by
    have houtcome := Context.outcome_ofMembers d.entries
    rw [hj, Context.ofJson] at he
    generalize Context.ofMembers d.entries = r at houtcome he
    cases houtcome with
    | entries => contradiction
    | refused before hsplit hbefore hfirst =>
      obtain rfl := Except.error.inj he
      obtain ⟨hget, hsmaller⟩ := Context.get?_of_entries_eq hsplit
      exact ⟨_, _, _, hget, hfirst,
        fun other hother k hk => hbefore _ (hsmaller other hother k hk), rfl⟩

/-- The second element of the steps is the first object. -/
example : Context.ofJson (.object [("steps", .array [.integer 1, .object [("x", .null)]])]) =
    .error (.unsupported "steps[1]" "object") := by
  rfl

end Json

end Worksheet
