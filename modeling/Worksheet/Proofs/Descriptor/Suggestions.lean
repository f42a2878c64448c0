import Mathlib.Data.List.FinRange
import Worksheet.Proofs.Descriptor.Warnings
import Worksheet.Proofs.Template.Position
import Worksheet.Proofs.Text.Distance

/-!
The declared names that a warning suggests in place of an undeclared one. Names of few edits come
before names of more, and of two names with the same number the one that is declared first. The
suggestions are the first three in this order among the names that are close enough. One name may
be declared at several places, so the order is one of places.
-/

namespace Worksheet

/-! ## The length of a name -/

theorem utf8Size_of_isNamePart {c : Char} (h : isNamePart c = true) : c.utf8Size = 1 := by
  have hascii : c.val ≤ 127 := by
    rcases isNamePart_iff.mp h with (⟨_, hc⟩ | ⟨_, hc⟩) | ⟨_, hc⟩ | rfl
    · exact UInt32.le_trans hc (by decide)
    · exact UInt32.le_trans hc (by decide)
    · exact UInt32.le_trans hc (by decide)
    · decide
  exact Char.utf8Size_eq_one_iff.mpr hascii

theorem utf8ByteSize_ofList {text : List Char} (h : ∀ c ∈ text, c.utf8Size = 1) :
    (String.ofList text).utf8ByteSize = text.length := by
  induction text using List.reverseRecOn with
  | nil => rfl
  | append_singleton text c ih =>
    rw [List.forall_mem_append, List.forall_mem_singleton] at h
    rw [utf8ByteSize_ofList_concat, ih h.1, h.2, List.length_append, List.length_singleton]

/-- A name that may stand in a marker takes one byte for each character. -/
theorem utf8ByteSize_of_isReference {name : String} (h : isReference name = true) :
    name.utf8ByteSize = name.length := by
  have hsingle : ∀ c ∈ name.toList, c.utf8Size = 1 := by
    intro c hc
    rcases isNamePart_or_eq_at_of_mem h hc with hpart | rfl
    · exact utf8Size_of_isNamePart hpart
    · decide
  have hsize := utf8ByteSize_ofList hsingle
  rwa [String.ofList_toList, String.length_toList] at hsize

/-! ## Places by a measure -/

/-- In the list of all places, each stands at its own position. -/
theorem snd_eq_of_mem_zipIdx_finRange {n : Nat} {p : Fin n × Nat}
    (h : p ∈ (List.finRange n).zipIdx) : p.2 = p.1 := by
  obtain ⟨hlt, hget⟩ := List.getElem?_eq_some_iff.mp (List.mem_zipIdx_iff_getElem?.mp h)
  rw [List.getElem_finRange] at hget
  simp [← hget]

/-- To compare places together with their positions is to compare by the measure first. -/
theorem zipIdxLE_iff {n : Nat} {measure : Fin n → Nat} {p q : Fin n × Nat} :
    List.zipIdxLE (fun i j => measure i ≤ measure j) p q = true ↔
      measure p.1 < measure q.1 ∨ measure p.1 = measure q.1 ∧ p.2 ≤ q.2 := by
  simp only [List.zipIdxLE, decide_eq_true_eq]
  split
  · split
    · rw [decide_eq_true_eq]
      omega
    · simp only [true_iff]
      omega
  · simp only [Bool.false_eq_true, false_iff]
    omega

/-- A sort by a measure keeps the order of places with the same measure. -/
theorem pairwise_mergeSort_finRange {n : Nat} (measure : Fin n → Nat) :
    ((List.finRange n).mergeSort fun i j => measure i ≤ measure j).Pairwise
      fun i j => measure i < measure j ∨ measure i = measure j ∧ i < j := by
  have hnodup : ((List.finRange n).mergeSort fun i j => measure i ≤ measure j).Nodup :=
    (List.mergeSort_perm _ _).nodup_iff.mpr (List.nodup_finRange n)
  -- the sort is stable: it is the sort of the places together with their positions
  rw [← List.mergeSort_zipIdx] at hnodup ⊢
  rw [List.pairwise_map]
  have hsorted : ((List.finRange n).zipIdx.mergeSort
      (List.zipIdxLE fun i j => measure i ≤ measure j)).Pairwise
        (List.zipIdxLE (fun i j => measure i ≤ measure j) · · = true) := by
    apply List.pairwise_mergeSort
    · simp only [zipIdxLE_iff]
      omega
    · simp only [Bool.or_eq_true, zipIdxLE_iff]
      omega
  refine (hsorted.and (List.pairwise_map.mp hnodup)).imp_of_mem ?_
  rintro p q hp hq ⟨hle, hne⟩
  have hp' := snd_eq_of_mem_zipIdx_finRange (List.mem_mergeSort.mp hp)
  have hq' := snd_eq_of_mem_zipIdx_finRange (List.mem_mergeSort.mp hq)
  rw [zipIdxLE_iff] at hle
  omega

/-! ## The best suggestions -/

namespace Suggestion

section

variable (target : String) (declared : List String)

/-- How many edits turn the one name into the other. -/
def nameDistance (name name' : String) : Nat := editDistance name.toList name'.toList

/-- Whether a name may be suggested: half of the characters have to be edited at most. -/
def CloseTo (name : String) : Prop := nameDistance target name ≤ target.length / 2

instance : DecidablePred (CloseTo target) :=
  fun name => inferInstanceAs (Decidable (nameDistance target name ≤ target.length / 2))

/-- How far the name is that is declared at a place. -/
def distanceAt (i : Fin declared.length) : Nat := nameDistance target (declared.get i)

/-- Nearer, or as near and declared before. -/
def Precedes (i j : Fin declared.length) : Prop :=
  distanceAt target declared i < distanceAt target declared j ∨
    distanceAt target declared i = distanceAt target declared j ∧ i < j

instance (i j : Fin declared.length) : Decidable (Precedes target declared i j) :=
  inferInstanceAs (Decidable (_ ∨ _))

/-- Whether the names at these places are the best suggestions, in their order. -/
structure Best (places : List (Fin declared.length)) : Prop where
  close : ∀ i ∈ places, CloseTo target (declared.get i)
  length_eq : places.length = min 3 (declared.countP (CloseTo target ·))
  ordered : places.Pairwise (Precedes target declared)
  none_better : ∀ i ∈ places, ∀ j ∉ places, CloseTo target (declared.get j) →
    ¬ Precedes target declared j i

/-- The places of all declared names, those of the nearest names first. -/
def ranking : List (Fin declared.length) :=
  (List.finRange declared.length).mergeSort fun i j =>
    distanceAt target declared i ≤ distanceAt target declared j

/-- The places of the names that are close enough. -/
def closePlaces : List (Fin declared.length) :=
  (ranking target declared).filter fun i => CloseTo target (declared.get i)

end

variable {target : String} {declared : List String}

theorem Precedes.asymm {i j : Fin declared.length} (h : Precedes target declared i j) :
    ¬ Precedes target declared j i := by
  rcases h with h | ⟨h, hij⟩
  · rintro (h' | ⟨h', _⟩) <;> omega
  · rintro (h' | ⟨_, hji⟩) <;> omega

theorem Precedes.trichotomy (target : String) (i j : Fin declared.length) :
    Precedes target declared i j ∨ i = j ∨ Precedes target declared j i := by
  simp only [Precedes]
  omega

namespace Best

variable {places places' : List (Fin declared.length)}

theorem nodup (h : Best target declared places) : places.Nodup := by
  refine h.ordered.imp ?_
  rintro i j hij rfl
  exact hij.asymm hij

theorem perm_of_subset (h : Best target declared places)
    (h' : Best target declared places') (hsub : places ⊆ places') :
    places.Perm places' := by
  have hlength : places'.length = places.length := h'.length_eq.trans h.length_eq.symm
  exact (List.subperm_of_subset h.nodup hsub).perm_of_length_le hlength.le

/-- If one list had a place that the other has not, the other would have one in turn, and each of
the two places would come before the other. -/
theorem subset (h : Best target declared places)
    (h' : Best target declared places') : places ⊆ places' := by
  intro i hi
  by_contra hi'
  obtain ⟨j, hj', hj⟩ : ∃ j ∈ places', j ∉ places := by
    by_contra hall
    push Not at hall
    exact hi' ((h'.perm_of_subset h hall).mem_iff.mpr hi)
  rcases Precedes.trichotomy target i j with hij | rfl | hji
  · exact h'.none_better j hj' i hi' (h.close i hi) hij
  · exact hj hi
  · exact h.none_better i hi j hj (h'.close j hj') hji

/-- The conditions leave no choice. -/
theorem unique (h : Best target declared places)
    (h' : Best target declared places') : places = places' :=
  (h.perm_of_subset h' (h.subset h')).eq_of_pairwise
    (fun _ _ _ _ hij hji => absurd hji hij.asymm) h.ordered h'.ordered

end Best

theorem ranking_perm : (ranking target declared).Perm (List.finRange declared.length) :=
  List.mergeSort_perm _ _

theorem mem_closePlaces {i : Fin declared.length} :
    i ∈ closePlaces target declared ↔ CloseTo target (declared.get i) := by
  rw [closePlaces, List.mem_filter, decide_eq_true_eq]
  exact and_iff_right (ranking_perm.mem_iff.mpr (List.mem_finRange i))

theorem length_closePlaces :
    (closePlaces target declared).length = declared.countP (CloseTo target ·) := by
  rw [closePlaces, ← List.countP_eq_length_filter, ranking_perm.countP_eq]
  conv_rhs => rw [← List.map_get_finRange declared, List.countP_map]
  rfl

theorem pairwise_closePlaces :
    (closePlaces target declared).Pairwise (Precedes target declared) :=
  (pairwise_mergeSort_finRange (distanceAt target declared)).filter _

theorem best_take_closePlaces :
    Best target declared ((closePlaces target declared).take 3) where
  close i hi := mem_closePlaces.mp (List.mem_of_mem_take hi)
  length_eq := by rw [List.length_take, length_closePlaces]
  ordered := pairwise_closePlaces.sublist (List.take_sublist 3 _)
  none_better := by
    intro i hi j hj hclose
    have hj' : j ∈ (closePlaces target declared).drop 3 := by
      have hmem := mem_closePlaces.mpr hclose
      rw [← List.take_append_drop 3 (closePlaces target declared)] at hmem
      exact (List.mem_append.mp hmem).resolve_left hj
    exact (pairwise_closePlaces.rel_of_mem_take_of_mem_drop hi hj').asymm

/-- The suggestions are the names at the first three places that are close enough. The bytes of the
name, of which the search takes half, are as many as its characters. -/
theorem similarNames_eq (h : isReference target = true) :
    similarNames target declared =
      ((closePlaces target declared).take 3).map declared.get := by
  let scored : Fin declared.length → String × Nat := fun i =>
    (declared.get i, distanceAt target declared i)
  have hscored : (declared.map fun name => (name, nameDistance target name)) =
      (List.finRange declared.length).map scored := by
    conv_lhs => rw [← List.map_get_finRange declared]
    rw [List.map_map]
    rfl
  have hsorted : ((declared.map fun name => (name, nameDistance target name)).mergeSort
      fun a b => a.2 ≤ b.2) = (ranking target declared).map scored := by
    rw [hscored, ranking]
    symm
    apply List.map_mergeSort
    intro i _ j _
    rfl
  have hclose : (((ranking target declared).map scored).filter fun e =>
      e.2 ≤ target.utf8ByteSize * 50 / 100) = (closePlaces target declared).map scored := by
    rw [List.filter_map, closePlaces]
    congr 1
    apply List.filter_congr
    intro i _
    have hhalf : target.utf8ByteSize * 50 / 100 = target.length / 2 := by
      rw [utf8ByteSize_of_isReference h]
      omega
    simp only [Function.comp_apply, hhalf]
    rfl
  calc similarNames target declared
      = ((((declared.map fun name => (name, nameDistance target name)).mergeSort
          fun a b => a.2 ≤ b.2).filter fun e =>
            e.2 ≤ target.utf8ByteSize * 50 / 100).take 3).map Prod.fst := rfl
    _ = (((closePlaces target declared).map scored).take 3).map Prod.fst := by rw [hsorted, hclose]
    _ = ((closePlaces target declared).take 3).map declared.get := by
      rw [← List.map_take, List.map_map]
      rfl

end Suggestion

/-! ## The report -/

theorem nodup_insertNew {names : List String} (h : names.Nodup) (name : String) :
    (insertNew names name).Nodup := by
  rw [insertNew]
  split
  · exact h
  · next hname => exact h.append (List.nodup_singleton name) (List.disjoint_singleton.mpr hname)

open DescriptorWarning

theorem undeclared_mem_checkReference {declared similar : List String} {name name' : String} :
    undeclared name similar ∈ (checkReference declared name').warnings ↔
      name' = name ∧ name ∉ declared ∧ isLoopName name = false ∧
        similar = similarNames name declared := by
  rw [warnings_checkReference]
  split
  · grind
  · split <;> grind

namespace Descriptor

open Suggestion

variable {limit : Nat} {d : Descriptor} {b : Body}

/-- However often a name is declared, it is offered once. -/
theorem nodup_declaredNames (d : Descriptor) : d.declaredNames.Nodup :=
  List.foldlRecOn _ insertNew List.nodup_nil fun _ h name _ => nodup_insertNew h name

/-- Suggestions are made for a name that the template looks up, unless it is declared or bound by
iterations. -/
theorem undeclared_mem_iff {name : String} {similar : List String}
    (hparse : Body.parse limit d.template = .ok b) :
    undeclared name similar ∈ (d.validate limit).warnings ↔
      b.Free name ∧ name ∉ d.declaredNames ∧ isLoopName name = false ∧
        similar = similarNames name d.declaredNames := by
  have hw : (undeclared name similar).AboutReferences := trivial
  rw [mem_warnings_validate hparse hw, ← Body.mem_allNames_references,
    mem_warnings_checkReferences]
  simp only [undeclared_mem_checkReference]
  constructor
  · rintro (⟨_, hname, rfl, hsimilar⟩ | ⟨source, _, hw⟩ | ⟨v, _, _, hx⟩ | ⟨s, _, _, hx⟩)
    · exact ⟨hname, hsimilar⟩
    · have hnone := uncovered_checkSource hw
      contradiction
    · contradiction
    · contradiction
  · rintro ⟨hname, hsimilar⟩
    exact .inl ⟨name, hname, rfl, hsimilar⟩

/-- For a name that is not declared the names at the best places are suggested, and no others. The
distance of two names is the least number of edits that turn the one into the other. A report has
these suggestions for each such name that its template looks up, and each declared name is at one
place then. -/
theorem suggestions_best (name : String) (declared : List String)
    (hname : isReference name = true) (hundeclared : name ∉ declared) :
    (∃ places, Best name declared places ∧
      (∀ others, Best name declared others → others = places) ∧
      similarNames name declared = places.map declared.get) ∧
    (∀ other : String,
      IsLeast {n | Edits n name.toList other.toList} (nameDistance name other)) ∧
    ∀ (limit : Nat) (d : Descriptor) (b : Body), Body.parse limit d.template = .ok b →
      d.declaredNames = declared →
      declared.Nodup ∧
      ∀ similar, undeclared name similar ∈ (d.validate limit).warnings ↔
        b.Free name ∧ isLoopName name = false ∧ similar = similarNames name declared := by
  refine ⟨⟨_, best_take_closePlaces, ?_, similarNames_eq hname⟩, ?_, ?_⟩
  · intro others hothers
    exact hothers.unique best_take_closePlaces
  · intro other
    exact isLeast_editDistance name.toList other.toList
  · rintro limit d b hparse rfl
    refine ⟨d.nodup_declaredNames, ?_⟩
    intro similar
    rw [undeclared_mem_iff hparse, and_iff_right hundeclared]

def coverBody : Body := .reference "titel" .empty

/-- A page with a misspelled name. Three declared names are two edits away from it, in the order of
declaration, and the last one a single edit. -/
def cover : Descriptor where
  template := coverBody.print
  inputs := [{ name := "title" }, { name := "tile" }, { name := "pupil" }, { name := "hotel" },
    { name := "titer" }]

def coverNames : List String := ["title", "tile", "pupil", "hotel", "titer"]

def coverPlaces : List (Fin coverNames.length) := [(4 : Fin 5), (0 : Fin 5), (1 : Fin 5)]

theorem cover_suggestions :
    isReference "titel" = true ∧ "titel" ∉ coverNames ∧ Best "titel" coverNames coverPlaces ∧
      similarNames "titel" coverNames = ["titer", "title", "tile"] ∧
      Body.parse 8 cover.template = .ok coverBody ∧ cover.declaredNames = coverNames ∧
      undeclared "titel" ["titer", "title", "tile"] ∈ (cover.validate 8).warnings := by
  have hname : isReference "titel" = true := by decide
  have hundeclared : "titel" ∉ coverNames := by decide
  have hbest : Best "titel" coverNames coverPlaces :=
    ⟨by decide, by decide, by decide, by decide⟩
  have hparse : Body.parse 8 cover.template = .ok coverBody :=
    Body.parse_eq_ok_iff.mpr ⟨rfl, ⟨rfl, trivial⟩, by decide⟩
  have hnames : cover.declaredNames = coverNames := rfl
  obtain ⟨⟨places, -, hunique, hplaces⟩, -, hreport⟩ :=
    suggestions_best "titel" coverNames hname hundeclared
  have hsimilar : similarNames "titel" coverNames = ["titer", "title", "tile"] := by
    rw [hplaces, ← hunique coverPlaces hbest]
    rfl
  obtain ⟨-, hwarning⟩ := hreport 8 cover coverBody hparse hnames
  exact ⟨hname, hundeclared, hbest, hsimilar, hparse, hnames,
    (hwarning _).mpr ⟨.inl rfl, by decide, hsimilar.symm⟩⟩

end Descriptor

end Worksheet
