/-!
Finite maps from texts, kept in ascending order of their keys. Texts are ordered by their
characters. The order is part of the type, so a dictionary has one form: two dictionaries that
look up alike are equal.
-/

namespace Worksheet

/-- Entries with ascending keys. -/
structure Dictionary (α : Type) where
  entries : List (String × α)
  ordered : entries.Pairwise (fun a b => a.1 < b.1)

namespace Dictionary

variable {α : Type}

instance [Repr α] : Repr (Dictionary α) := ⟨fun d n => reprPrec d.entries n⟩

def empty : Dictionary α := ⟨[], List.Pairwise.nil⟩

instance : Inhabited (Dictionary α) := ⟨empty⟩

def size (d : Dictionary α) : Nat := d.entries.length

def isEmpty (d : Dictionary α) : Bool := d.entries.isEmpty

theorem eq_empty_of_isEmpty {d : Dictionary α} (h : d.isEmpty = true) : d = empty := by
  obtain ⟨entries, ordered⟩ := d
  obtain rfl : entries = [] := List.isEmpty_iff.mp h
  rfl

def keys (d : Dictionary α) : List String := d.entries.map Prod.fst

def get? (d : Dictionary α) (key : String) : Option α := d.entries.lookup key

def contains (d : Dictionary α) (key : String) : Bool := (d.get? key).isSome

/-- Puts an entry into its place among others, instead of one with the same key. -/
def insertEntry (key : String) (value : α) : List (String × α) → List (String × α)
  | [] => [(key, value)]
  | (k, v) :: rest =>
    if key = k then (key, value) :: rest
    else if key < k then (key, value) :: (k, v) :: rest
    else (k, v) :: insertEntry key value rest

theorem mem_insertEntry {key : String} {value : α} {entries : List (String × α)} {e : String × α}
    (h : e ∈ insertEntry key value entries) : e = (key, value) ∨ e ∈ entries := by
  induction entries with
  | nil => simpa [insertEntry] using h
  | cons x rest ih =>
    rw [insertEntry] at h
    split at h
    · rcases List.mem_cons.mp h with h | h
      · exact .inl h
      · exact .inr (List.mem_cons_of_mem _ h)
    · split at h
      · rcases List.mem_cons.mp h with h | h
        · exact .inl h
        · exact .inr h
      · rcases List.mem_cons.mp h with h | h
        · exact .inr (h ▸ List.mem_cons_self)
        · exact (ih h).imp id (List.mem_cons_of_mem _)

theorem ordered_insertEntry (key : String) (value : α) {entries : List (String × α)}
    (h : entries.Pairwise (fun a b => a.1 < b.1)) :
    (insertEntry key value entries).Pairwise (fun a b => a.1 < b.1) := by
  induction entries with
  | nil => simp [insertEntry]
  | cons x rest ih =>
    obtain ⟨hx, hrest⟩ := List.pairwise_cons.mp h
    rw [insertEntry]
    split
    · next he => exact List.pairwise_cons.mpr ⟨fun e hm => he ▸ hx e hm, hrest⟩
    · next hne =>
      split
      · next hlt =>
        refine List.pairwise_cons.mpr ⟨fun e hm => ?_, h⟩
        rcases List.mem_cons.mp hm with hm | hm
        · exact hm ▸ hlt
        · exact String.lt_trans hlt (hx e hm)
      · next hnlt =>
        refine List.pairwise_cons.mpr ⟨fun e hm => ?_, ih hrest⟩
        rcases mem_insertEntry hm with hm | hm
        · rcases Std.lt_trichotomy key x.1 with ht | ht | ht
          · exact absurd ht hnlt
          · exact absurd ht hne
          · exact hm ▸ ht
        · exact hx e hm

def insert (d : Dictionary α) (key : String) (value : α) : Dictionary α :=
  ⟨insertEntry key value d.entries, ordered_insertEntry key value d.ordered⟩

theorem lookup_cons_eq_ite (key k : String) (v : α) (rest : List (String × α)) :
    ((k, v) :: rest).lookup key = if key = k then some v else rest.lookup key := by
  rw [List.lookup_cons]
  by_cases h : key = k
  · subst h
    simp
  · rw [if_neg h, beq_eq_false_iff_ne.mpr h]

theorem lookup_insertEntry (key key' : String) (value : α) (entries : List (String × α)) :
    (insertEntry key value entries).lookup key' =
      if key' = key then some value else entries.lookup key' := by
  induction entries with
  | nil => rw [insertEntry, lookup_cons_eq_ite]
  | cons e rest ih =>
    obtain ⟨k, v⟩ := e
    rw [insertEntry]
    split
    · next hk =>
      subst hk
      simp only [lookup_cons_eq_ite]
      split <;> rfl
    · next hk =>
      split
      · rw [lookup_cons_eq_ite]
      · rw [lookup_cons_eq_ite, ih, lookup_cons_eq_ite]
        by_cases hkey : key' = key
        · subst hkey
          rw [if_neg hk, if_pos rfl, if_pos rfl]
        · rw [if_neg hkey, if_neg hkey]

@[simp] theorem get?_empty (key : String) : (empty : Dictionary α).get? key = none := rfl

theorem get?_insert (d : Dictionary α) (key key' : String) (value : α) :
    (d.insert key value).get? key' = if key' = key then some value else d.get? key' :=
  lookup_insertEntry key key' value d.entries

theorem length_insertEntry_of_lookup_eq_none {key : String} {entries : List (String × α)}
    (value : α) (h : entries.lookup key = none) :
    (insertEntry key value entries).length = entries.length + 1 := by
  induction entries with
  | nil => rfl
  | cons e rest ih =>
    obtain ⟨k, v⟩ := e
    rw [lookup_cons_eq_ite] at h
    by_cases hk : key = k
    · rw [if_pos hk] at h
      contradiction
    · rw [if_neg hk] at h
      rw [insertEntry, if_neg hk]
      split
      · rfl
      · rw [List.length_cons, ih h, List.length_cons]

/-- A new key makes the dictionary larger by one. -/
theorem size_insert {d : Dictionary α} {key : String} (value : α) (h : d.get? key = none) :
    (d.insert key value).size = d.size + 1 :=
  length_insertEntry_of_lookup_eq_none value h

/-- A key before all others has no entry. -/
theorem lookup_eq_none_of_lt {key : String} {entries : List (String × α)}
    (h : ∀ e ∈ entries, key < e.1) : entries.lookup key = none := by
  rw [List.lookup_eq_none_iff]
  intro e he
  have hlt := h e he
  simp only [bne_iff_ne, ne_eq]
  rintro rfl
  exact String.lt_irrefl _ hlt

theorem eq_of_lookup_eq {xs ys : List (String × α)} (hx : xs.Pairwise (fun a b => a.1 < b.1))
    (hy : ys.Pairwise (fun a b => a.1 < b.1)) (h : ∀ key, xs.lookup key = ys.lookup key) :
    xs = ys := by
  induction xs generalizing ys with
  | nil =>
    cases ys with
    | nil => rfl
    | cons e ys =>
      have hhead := h e.1
      rw [lookup_cons_eq_ite, if_pos rfl] at hhead
      contradiction
  | cons e xs ih =>
    obtain ⟨k, v⟩ := e
    cases ys with
    | nil =>
      have hhead := h k
      rw [lookup_cons_eq_ite, if_pos rfl] at hhead
      contradiction
    | cons e' ys =>
      obtain ⟨k', v'⟩ := e'
      obtain ⟨hk, hxs⟩ := List.pairwise_cons.mp hx
      obtain ⟨hk', hys⟩ := List.pairwise_cons.mp hy
      -- the first key of either list has to be found in the other one
      have hsame : k = k' := by
        rcases Std.lt_trichotomy k k' with hlt | heq | hlt
        · have hnone : ((k', v') :: ys).lookup k = none :=
            lookup_eq_none_of_lt (List.forall_mem_cons.mpr
              ⟨hlt, fun e he => String.lt_trans hlt (hk' e he)⟩)
          rw [← h k, lookup_cons_eq_ite, if_pos rfl] at hnone
          contradiction
        · exact heq
        · have hnone : ((k, v) :: xs).lookup k' = none :=
            lookup_eq_none_of_lt (List.forall_mem_cons.mpr
              ⟨hlt, fun e he => String.lt_trans hlt (hk e he)⟩)
          rw [h k', lookup_cons_eq_ite, if_pos rfl] at hnone
          contradiction
      subst hsame
      have hvalue := h k
      rw [lookup_cons_eq_ite, lookup_cons_eq_ite, if_pos rfl, if_pos rfl] at hvalue
      have htail : ∀ key, xs.lookup key = ys.lookup key := by
        intro key
        have hkey := h key
        rw [lookup_cons_eq_ite, lookup_cons_eq_ite] at hkey
        by_cases heq : key = k
        · subst heq
          rw [lookup_eq_none_of_lt hk, lookup_eq_none_of_lt hk']
        · rwa [if_neg heq, if_neg heq] at hkey
      rw [Option.some.inj hvalue, ih hxs hys htail]

/-- Two dictionaries that look up alike are equal. -/
theorem ext_get? {d e : Dictionary α} (h : ∀ key, d.get? key = e.get? key) : d = e := by
  obtain ⟨xs, hx⟩ := d
  obtain ⟨ys, hy⟩ := e
  obtain rfl := eq_of_lookup_eq hx hy h
  rfl

def erase (d : Dictionary α) (key : String) : Dictionary α :=
  ⟨d.entries.filter (fun e => e.1 ≠ key), d.ordered.filter _⟩

theorem lookup_filter_ne {κ : Type} [BEq κ] [LawfulBEq κ] [DecidableEq κ] (key key' : κ)
    (entries : List (κ × α)) :
    (entries.filter fun e => e.1 ≠ key).lookup key' =
      if key' = key then none else entries.lookup key' := by
  induction entries with
  | nil => simp
  | cons e rest ih =>
    by_cases he : e.1 = key
    · rw [List.filter_cons_of_neg (by simpa using he), ih, List.lookup_cons]
      split
      · rfl
      · next hne => rw [beq_eq_false_iff_ne.mpr (he ▸ hne)]
    · rw [List.filter_cons_of_pos (by simpa using he), List.lookup_cons, List.lookup_cons, ih]
      by_cases hkey : key' = e.1
      · subst hkey
        simp [he]
      · rw [beq_eq_false_iff_ne.mpr hkey]

theorem get?_erase (d : Dictionary α) (key key' : String) :
    (d.erase key).get? key' = if key' = key then none else d.get? key' :=
  lookup_filter_ne key key' d.entries

/-- The dictionary of some entries; of entries with one key the last counts. -/
def ofList (entries : List (String × α)) : Dictionary α :=
  entries.foldl (fun d e => d.insert e.1 e.2) empty

theorem insertEntry_of_lt {key : String} {entries : List (String × α)} (value : α)
    (h : ∀ e ∈ entries, e.1 < key) :
    insertEntry key value entries = entries ++ [(key, value)] := by
  induction entries with
  | nil => rfl
  | cons e rest ih =>
    obtain ⟨hlt, hrest⟩ := List.forall_mem_cons.mp h
    have hne : key ≠ e.1 := by
      rintro rfl
      exact String.lt_irrefl _ hlt
    have hnlt : ¬key < e.1 := fun hgt => String.lt_irrefl _ (String.lt_trans hlt hgt)
    rw [insertEntry, if_neg hne, if_neg hnlt, ih hrest]
    rfl

/-- Entries behind all others are added at the end. -/
theorem entries_foldl_insert {d : Dictionary α} {entries : List (String × α)}
    (h : (d.entries ++ entries).Pairwise fun a b => a.1 < b.1) :
    (entries.foldl (fun d e => d.insert e.1 e.2) d).entries = d.entries ++ entries := by
  induction entries generalizing d with
  | nil => simp
  | cons e rest ih =>
    have hlast : ∀ e' ∈ d.entries, e'.1 < e.1 :=
      fun e' he' => (List.pairwise_append.mp h).2.2 e' he' e List.mem_cons_self
    have hinsert : (d.insert e.1 e.2).entries = d.entries ++ [e] := insertEntry_of_lt e.2 hlast
    rw [List.foldl_cons, ih, hinsert, List.append_assoc]
    · rfl
    · rwa [hinsert, List.append_assoc]

theorem ofList_entries (d : Dictionary α) : ofList d.entries = d := by
  obtain ⟨entries, ordered⟩ := d
  have hentries : (ofList entries).entries = entries :=
    entries_foldl_insert (d := empty) (by simpa [empty] using ordered)
  generalize ofList entries = e at hentries
  obtain ⟨entries', ordered'⟩ := e
  obtain rfl : entries' = entries := hentries
  rfl

/-- Puts all entries of another dictionary over this one. -/
def overlay (d other : Dictionary α) : Dictionary α :=
  other.entries.foldl (fun d e => d.insert e.1 e.2) d

end Dictionary

end Worksheet
