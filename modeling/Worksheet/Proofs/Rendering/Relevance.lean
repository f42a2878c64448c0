import Worksheet.Proofs.Rendering.Scope

/-!
Names that matter. If a body refers to a name at a place that can be reached, there are contexts
that differ in this name alone and are rendered to different texts. They give every free name a text
inside of as many lists as the body is deep. Such a value holds as a condition, and as a source it
makes one round with the next list as its element, so all blocks around the place are opened. A
longer text for the name makes nothing shorter, and what is shown at the place it makes longer.
-/

namespace Worksheet

/-! ## Nested texts -/

namespace Value

/-- A text inside of lists with one element each. -/
def nested (s : String) : Nat → Value
  | 0 => text s
  | n + 1 => list [nested s n]

theorem toText_nested (s : String) (n : Nat) : (nested s n).toText = s := by
  induction n with
  | zero => rfl
  | succ n ih => simp [nested, toText, textsOf, ih]

theorem truthy_nested {s : String} (h : s ≠ "") (n : Nat) : (nested s n).truthy = true := by
  cases n with
  | zero => simp [nested, truthy, h]
  | succ n => rfl

theorem nested_inj {s t : String} {n m : Nat} (h : nested s n = nested t m) : s = t ∧ n = m := by
  induction n generalizing m with
  | zero =>
    cases m with
    | zero => exact ⟨Value.text.inj h, rfl⟩
    | succ m => contradiction
  | succ n ih =>
    cases m with
    | zero => contradiction
    | succ m =>
      obtain ⟨hst, hnm⟩ := ih (List.cons.inj (Value.list.inj h)).1
      exact ⟨hst, congrArg Nat.succ hnm⟩

/-- The second value is the first one, or it has a longer text in as many lists. -/
def Grows (v v' : Value) : Prop :=
  v = v' ∨ ∃ s s' n, s ≠ "" ∧ s.length ≤ s'.length ∧ v = nested s n ∧ v' = nested s' n

theorem grows_nested {s s' : String} (hs : s ≠ "") (h : s.length ≤ s'.length) (n : Nat) :
    (nested s n).Grows (nested s' n) := .inr ⟨s, s', n, hs, h, rfl, rfl⟩

theorem Grows.eq_nested {s : String} {n : Nat} {v : Value} (h : (nested s n).Grows v) :
    ∃ s', s.length ≤ s'.length ∧ v = nested s' n := by
  rcases h with rfl | ⟨t, s', m, _, hle, ht, rfl⟩
  · exact ⟨s, Nat.le_refl _, rfl⟩
  · obtain ⟨rfl, rfl⟩ := nested_inj ht
    exact ⟨s', hle, rfl⟩

theorem Grows.truthy_eq {v v' : Value} (h : v.Grows v') : v.truthy = v'.truthy := by
  rcases h with rfl | ⟨s, s', n, hs, hle, rfl, rfl⟩
  · rfl
  · have hs' : s' ≠ "" := by
      rintro rfl
      exact hs (String.length_eq_zero_iff.mp (Nat.le_zero.mp hle))
    rw [truthy_nested hs, truthy_nested hs']

theorem Grows.length_toText_le {v v' : Value} (h : v.Grows v') :
    v.toText.length ≤ v'.toText.length := by
  rcases h with rfl | ⟨s, s', n, _, hle, rfl, rfl⟩
  · exact Nat.le_refl _
  · rw [toText_nested, toText_nested]
    exact hle

end Value

namespace Context

/-- Each entry of the first context is one of the second, as it is or with a longer text. -/
def Grows (context context' : Context) : Prop :=
  ∀ name, Option.Rel Value.Grows (context.get? name) (context'.get? name)

theorem Grows.get? {context context' : Context} (h : context.Grows context') {name : String}
    {v : Value} (hv : context.get? name = some v) :
    ∃ v', context'.get? name = some v' ∧ v.Grows v' := by
  have hname := h name
  rw [hv] at hname
  generalize context'.get? name = o at hname
  cases hname with
  | some hgrow => exact ⟨_, rfl, hgrow⟩

theorem Grows.bind {context context' : Context} (h : context.Grows context') {v v' : Value}
    (hv : v.Grows v') (index : Nat) :
    (context.bind ⟨v, index⟩).Grows (context'.bind ⟨v', index⟩) := by
  intro name
  rw [get?_bind, get?_bind]
  split
  · exact .some hv
  · split
    · exact .some (.inl rfl)
    · exact h name

def constant (value : Value) (names : List String) : Context :=
  names.foldr (fun name (context : Context) => context.insert name value) .empty

theorem get?_constant (value : Value) (names : List String) (name : String) :
    (constant value names).get? name = if name ∈ names then some value else none := by
  induction names with
  | nil => rfl
  | cons other names ih =>
    have hstep : constant value (other :: names) = (constant value names).insert other value := rfl
    rw [hstep, Dictionary.get?_insert, ih]
    by_cases h : name = other <;> simp [h]

end Context

theorem length_join_mapIdx_le {α : Type} {f g : Nat → α → String}
    (h : ∀ i a, (f i a).length ≤ (g i a).length) (items : List α) :
    (String.join (items.mapIdx f)).length ≤ (String.join (items.mapIdx g)).length := by
  induction items generalizing f g with
  | nil => exact Nat.le_refl _
  | cons a items ih =>
    rw [List.mapIdx_cons, List.mapIdx_cons, String.join_cons, String.join_cons,
      String.length_append, String.length_append]
    exact Nat.add_le_add (h 0 a) (ih fun i a => h (i + 1) a)

namespace Body

/-- An iteration over a nested text makes one round. -/
theorem evaluate_iteration_nested {name : String} {context : Context} {s : String} {n : Nat}
    (h : context.get? name = some (.nested s (n + 1))) (inner : Body) :
    (block .iteration name inner empty).evaluate none context =
      inner.evaluate none (context.bind ⟨.nested s n, 1⟩) := by
  rw [evaluate_iteration, h]
  simp [Value.nested]

theorem length_evaluate_le (b : Body) {context context' : Context} (h : context.Grows context') :
    (b.evaluate none context).length ≤ (b.evaluate none context').length := by
  induction b generalizing context context' with
  | empty => exact Nat.le_refl _
  | literal t rest ih =>
    rw [evaluate_literal, evaluate_literal, String.length_append, String.length_append]
    exact Nat.add_le_add_left (ih h) _
  | reference name rest ih =>
    rw [evaluate_reference_rest, evaluate_reference_rest _ _ context', String.length_append,
      String.length_append]
    apply Nat.add_le_add ?_ (ih h)
    rw [evaluate_reference, evaluate_reference]
    have hname := h name
    generalize context.get? name = o, context'.get? name = o' at hname
    cases hname with
    | none => exact Nat.le_refl _
    | some hv => exact hv.length_toText_le
  | block kind name inner rest ih ih' =>
    rw [evaluate_block, evaluate_block _ _ _ _ context', String.length_append,
      String.length_append]
    apply Nat.add_le_add ?_ (ih' h)
    have hname := h name
    cases kind with
    | conditional =>
      rw [evaluate_conditional, evaluate_conditional]
      generalize context.get? name = o, context'.get? name = o' at hname
      cases hname with
      | none => exact Nat.le_refl _
      | some hv =>
        simp only [hv.truthy_eq]
        split
        · exact ih h
        · exact Nat.le_refl _
    | iteration =>
      rw [evaluate_iteration, evaluate_iteration]
      generalize context.get? name = o, context'.get? name = o' at hname
      cases hname with
      | none => exact Nat.le_refl _
      | some hv =>
        rcases hv with rfl | ⟨s, s', n, hs, hle, rfl, rfl⟩
        · split
          · exact length_join_mapIdx_le (fun i v => ih (h.bind (.inl rfl) (i + 1))) _
          · exact Nat.le_refl _
        · cases n with
          | zero => exact Nat.le_refl _
          | succ n =>
            have hround := ih (h.bind (.inr ⟨s, s', n, hs, hle, rfl, rfl⟩) 1)
            simpa [Value.nested] using hround

/-! ## Exposed names -/

/-- Whether the body refers to the name at a place where no iteration binds it and that does not lie
in an iteration over the position inside of another iteration. There the position is a number, so
such an iteration has no rounds. -/
def Exposes (looping : Bool) : Body → String → Prop
  | empty, _ => False
  | literal _ rest, x => rest.Exposes looping x
  | reference name rest, x =>
    (x = name ∧ (looping && isLoopName x) = false) ∨ rest.Exposes looping x
  | block .conditional _ inner rest, x => inner.Exposes looping x ∨ rest.Exposes looping x
  | block .iteration name inner rest, x =>
    ((looping && name == indexName) = false ∧ inner.Exposes true x) ∨ rest.Exposes looping x

/-- Two contexts that open all blocks of a body, the second one with a longer text for a name. -/
structure Probed (b : Body) (looping : Bool) (x : String) (context context' : Context) : Prop where
  grows : context.Grows context'
  opens : ∀ name, b.Free name →
    (looping = true ∧ name = indexName ∧ context.get? name = some (.number (.ofNat 1))) ∨
      ∃ s n, s ≠ "" ∧ b.depth ≤ n ∧ context.get? name = some (.nested s n)
  longer : (looping && isLoopName x) = false → ∃ s s' n, s.length < s'.length ∧
    context.get? x = some (.nested s n) ∧ context'.get? x = some (.nested s' n)

namespace Probed

variable {looping : Bool} {name x : String} {kind : BlockKind} {inner rest b b' : Body}
  {context context' : Context}

/-- A part of a body is probed with it. -/
theorem mono (h : b.Probed looping x context context') (hfree : ∀ y, b'.Free y → b.Free y)
    (hdepth : b'.depth ≤ b.depth) : b'.Probed looping x context context' where
  grows := h.grows
  longer := h.longer
  opens := by
    intro y hy
    rcases h.opens y (hfree y hy) with hindex | ⟨s, n, hs, hn, hget⟩
    · exact .inl hindex
    · exact .inr ⟨s, n, hs, Nat.le_trans hdepth hn, hget⟩

theorem rest_of_block (h : (block kind name inner rest).Probed looping x context context') :
    rest.Probed looping x context context' := by
  apply h.mono
  · intro y hy
    cases kind <;> exact .inr (.inr hy)
  · exact Nat.le_max_right _ _

theorem inner_of_conditional
    (h : (block .conditional name inner rest).Probed looping x context context') :
    inner.Probed looping x context context' := by
  apply h.mono
  · intro y hy
    exact .inr (.inl hy)
  · exact Nat.le_trans (Nat.le_succ _) (Nat.le_max_left _ _)

/-- Both contexts open a condition. -/
theorem holds (h : (block .conditional name inner rest).Probed looping x context context') :
    ∃ v v', context.get? name = some v ∧ v.truthy = true ∧
      context'.get? name = some v' ∧ v'.truthy = true := by
  have hv : ∃ v, context.get? name = some v ∧ v.truthy = true := by
    rcases h.opens name (.inl rfl) with ⟨_, _, hget⟩ | ⟨s, n, hs, _, hget⟩
    · exact ⟨_, hget, by decide +kernel⟩
    · exact ⟨_, hget, Value.truthy_nested hs n⟩
  obtain ⟨v, hget, hv⟩ := hv
  obtain ⟨v', hget', hgrow⟩ := h.grows.get? hget
  exact ⟨v, v', hget, hv, hget', hgrow.truthy_eq ▸ hv⟩

/-- In the round that both contexts make, the body of an iteration is probed again. -/
theorem round (h : (block .iteration name inner rest).Probed looping x context context')
    (hopen : (looping && name == indexName) = false) :
    ∃ s s' n, context.get? name = some (.nested s (n + 1)) ∧
      context'.get? name = some (.nested s' (n + 1)) ∧
      inner.Probed true x (context.bind ⟨.nested s n, 1⟩) (context'.bind ⟨.nested s' n, 1⟩) := by
  rcases h.opens name (.inl rfl) with ⟨rfl, rfl, _⟩ | ⟨s, n, hs, hn, hget⟩
  · contradiction
  -- the element has one list less, and the inside of the block is less deep by one
  have hdepth : inner.depth + 1 ≤ n := Nat.le_trans (Nat.le_max_left _ _) hn
  obtain ⟨n, rfl⟩ : ∃ m, n = m + 1 := ⟨n - 1, by omega⟩
  obtain ⟨v, hget', hgrow⟩ := h.grows.get? hget
  obtain ⟨s', hle, rfl⟩ := hgrow.eq_nested
  refine ⟨s, s', n, hget, hget', h.grows.bind (Value.grows_nested hs hle n) 1, ?_, ?_⟩
  · intro y hy
    rw [Context.get?_bind]
    by_cases hitem : y = itemName
    · rw [if_pos hitem]
      exact .inr ⟨s, n, hs, by omega, rfl⟩
    · rw [if_neg hitem]
      by_cases hindex : y = indexName
      · rw [if_pos hindex]
        exact .inl ⟨rfl, hindex, rfl⟩
      · rw [if_neg hindex]
        have hloop := isLoopName_eq_false_iff.mpr ⟨hitem, hindex⟩
        rcases h.opens y (.inr (.inl ⟨hy, hloop⟩)) with ⟨_, hy', _⟩ | ⟨t, m, ht, hm, hgety⟩
        · exact absurd hy' hindex
        · have hdepth : inner.depth + 1 ≤ m := Nat.le_trans (Nat.le_max_left _ _) hm
          exact .inr ⟨t, m, ht, by omega, hgety⟩
  · intro hx
    have hx : isLoopName x = false := hx
    obtain ⟨hitem, hindex⟩ := isLoopName_eq_false_iff.mp hx
    rw [Context.get?_bind, Context.get?_bind, if_neg hitem, if_neg hindex, if_neg hitem,
      if_neg hindex]
    apply h.longer
    rw [hx, Bool.and_false]

end Probed

theorem length_evaluate_lt {b : Body} {looping : Bool} {x : String} {context context' : Context}
    (h : b.Probed looping x context context') (hx : b.Exposes looping x) :
    (b.evaluate none context).length < (b.evaluate none context').length := by
  -- one of two neighbours holds the place and gets longer, the other one does not get shorter
  induction b generalizing looping context context' with
  | empty => exact hx.elim
  | literal t rest ih =>
    rw [evaluate_literal, evaluate_literal, String.length_append, String.length_append]
    exact Nat.add_lt_add_left (ih (h.mono (fun _ hy => hy) (Nat.le_refl _)) hx) _
  | reference name rest ih =>
    have hle := length_evaluate_le rest h.grows
    have hle' := length_evaluate_le (reference name empty) h.grows
    rw [evaluate_reference_rest, evaluate_reference_rest _ _ context', String.length_append,
      String.length_append]
    rcases hx with ⟨rfl, hfree⟩ | hx
    · obtain ⟨s, s', n, hlt, hget, hget'⟩ := h.longer hfree
      have hshown : ∀ t, ((some (Value.nested t n)).map Value.toText).getD "" = t :=
        fun t => Value.toText_nested t n
      rw [evaluate_reference, evaluate_reference, hget, hget', hshown, hshown]
      omega
    · have hlt := ih (h.mono (fun _ hy => .inr hy) (Nat.le_refl _)) hx
      omega
  | block kind name inner rest ih ih' =>
    have hle := length_evaluate_le rest h.grows
    have hle' := length_evaluate_le (block kind name inner empty) h.grows
    rw [evaluate_block, evaluate_block _ _ _ _ context', String.length_append,
      String.length_append]
    cases kind with
    | conditional =>
      rcases hx with hx | hx
      · have hlt := ih h.inner_of_conditional hx
        obtain ⟨v, v', hget, hv, hget', hv'⟩ := h.holds
        rw [evaluate_conditional, evaluate_conditional, hget, hget']
        simp only [hv, hv', if_true]
        omega
      · have hlt := ih' h.rest_of_block hx
        omega
    | iteration =>
      rcases hx with ⟨hopen, hx⟩ | hx
      · obtain ⟨s, s', n, hget, hget', hround⟩ := h.round hopen
        have hlt := ih hround hx
        rw [evaluate_iteration_nested hget, evaluate_iteration_nested hget']
        omega
      · have hlt := ih' h.rest_of_block hx
        omega

/-- A walk through a body lists the names that it exposes among its insertions. -/
theorem mem_insertions_addReferences {b : Body} {looping : Bool} {x : String} {r : References}
    (h : x ∈ r.insertions ∨ b.Exposes looping x) :
    x ∈ (b.addReferences looping r).insertions := by
  induction b generalizing looping r with
  | empty => exact h.resolve_right id
  | literal text rest ih => exact ih h
  | reference name rest ih =>
    apply ih
    rcases h with h | h | h
    · exact .inl (mem_note.mpr (.inl h))
    · exact .inl (mem_note.mpr (.inr h))
    · exact .inr h
  | block kind name inner rest ih ih' =>
    cases kind with
    | conditional =>
      apply ih'
      rcases h with h | h | h
      · exact .inl (ih (.inl h))
      · exact .inl (ih (.inr h))
      · exact .inr h
    | iteration =>
      apply ih'
      rcases h with h | ⟨_, h⟩ | h
      · exact .inl (ih (.inl h))
      · exact .inl (ih (.inr h))
      · exact .inr h

/-- All free names of a body with a text inside of as many lists as the body is deep, and with
another such text for one name. -/
def probe (b : Body) (x s : String) : Context :=
  (Context.constant (.nested "." b.depth) b.references.allNames).insert x (.nested s b.depth)

theorem get?_probe (b : Body) (x s name : String) :
    (b.probe x s).get? name =
      if name = x then some (.nested s b.depth)
      else if name ∈ b.references.allNames then some (.nested "." b.depth)
      else none := by
  rw [probe, Dictionary.get?_insert, Context.get?_constant]

theorem probed_probe (b : Body) (x : String) :
    b.Probed false x (b.probe x ".") (b.probe x "..") where
  grows := by
    intro name
    rw [get?_probe, get?_probe]
    split
    · exact .some (Value.grows_nested (by decide) (by decide) b.depth)
    · split
      · exact .some (.inl rfl)
      · exact .none
  opens := by
    intro name hname
    refine .inr ⟨".", b.depth, by decide, Nat.le_refl _, ?_⟩
    rw [get?_probe, if_pos (mem_allNames_references.mpr hname), ite_self]
  longer := by
    intro _
    refine ⟨".", "..", b.depth, by decide, ?_, ?_⟩ <;> rw [get?_probe, if_pos rfl]

/-- A body lists each name it exposes, and for each of them there are contexts that differ in this
name alone and are rendered to different texts. -/
theorem exposed_name_matters (b : Body) (x : String) (h : b.Exposes false x) :
    x ∈ b.references.insertions ∧
      ∃ context context' : Context, (∀ name, name ≠ x → context.get? name = context'.get? name) ∧
        b.evaluate none context ≠ b.evaluate none context' := by
  refine ⟨mem_insertions_addReferences (.inr h), b.probe x ".", b.probe x "..", ?_, ?_⟩
  · intro name hname
    rw [get?_probe, get?_probe, if_neg hname, if_neg hname]
  · intro heq
    have hlt := length_evaluate_lt (b.probed_probe x) h
    rw [heq] at hlt
    exact Nat.lt_irrefl _ hlt

/-- The rows of a table in each cell, unless the position of the cell is missing. -/
def cellsBody : Body :=
  .block .iteration "rows"
    (.block .iteration "this"
      (.block .conditional "@index" (.reference "rows" .empty) .empty) .empty) .empty

theorem rows_matter :
    cellsBody.Exposes false "rows" ∧ "rows" ∈ cellsBody.references.insertions ∧
      ∃ context context' : Context,
        (∀ name, name ≠ "rows" → context.get? name = context'.get? name) ∧
        cellsBody.evaluate none context ≠ cellsBody.evaluate none context' := by
  have hexposed : cellsBody.Exposes false "rows" :=
    .inl ⟨rfl, .inl ⟨rfl, .inl (.inl ⟨rfl, rfl⟩)⟩⟩
  exact ⟨hexposed, exposed_name_matters cellsBody "rows" hexposed⟩

end Body

end Worksheet
