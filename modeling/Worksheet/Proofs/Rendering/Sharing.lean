import Mathlib.Data.Finset.Card
import Mathlib.Data.List.DropRight
import Worksheet.Proofs.Rendering.Cache

/-!
The counters of a cache, and which answers share a tree. The counters tell how many requests there
were since the cache was cleared, for how many templates a tree was given, and how many requests
failed. A tree is made once for each template: two answers share it exactly if they are for one
template and the cache was not cleared between them.
-/

namespace Worksheet

namespace ParseCache

variable {start now limit : Nat} {template : String} {shared : SharedBody} {c : ParseCache}
  {requests : List Request}

/-! ## Exchanges -/

structure Exchange where
  request : Request
  reply : Option (Except SyntaxError SharedBody)

namespace Exchange

/-- The template that a tree was given for. -/
def served? : Exchange → Option String
  | ⟨.get _ template, some (.ok _)⟩ => some template
  | _ => none

def refused : Exchange → Bool
  | ⟨_, some (.error _)⟩ => true
  | _ => false

end Exchange

/-- The requests with their replies, the first of them made at the time `now`. -/
def exchanges (now : Nat) (c : ParseCache) (requests : List Request) : List Exchange :=
  List.zipWith (fun r a => ⟨r, a.1⟩) requests (answers now c requests)

theorem exchanges_concat (now : Nat) (c : ParseCache) (requests : List Request) (r : Request) :
    exchanges now c (requests ++ [r]) = exchanges now c requests ++
      [⟨r, ((after now c requests).answer (now + requests.length) r).1⟩] := by
  induction requests generalizing now c with
  | nil => rfl
  | cons first rest ih =>
    have hrest := ih (now + 1) (c.answer now first).2
    rw [Nat.add_assoc, Nat.add_comm 1] at hrest
    exact congrArg (_ :: ·) hrest

theorem map_request_exchanges (now : Nat) (c : ParseCache) (requests : List Request) :
    (exchanges now c requests).map Exchange.request = requests := by
  induction requests generalizing now c with
  | nil => rfl
  | cons first rest ih => exact congrArg (first :: ·) (ih (now + 1) (c.answer now first).2)

/-- An exchange in the midst of others starts from the state that those before it lead to. -/
theorem exchanges_eq_append_cons {before later : List Exchange} {e : Exchange}
    (h : exchanges now c requests = before ++ e :: later) :
    ∃ earlier r rest, before = exchanges now c earlier ∧
      e = ⟨r, ((after now c earlier).answer (now + earlier.length) r).1⟩ ∧
      later = exchanges (now + earlier.length + 1)
        ((after now c earlier).answer (now + earlier.length) r).2 rest := by
  induction before generalizing now c requests with
  | nil =>
    cases requests with
    | nil => contradiction
    | cons r rest =>
      obtain ⟨rfl, rfl⟩ := List.cons.inj h
      exact ⟨[], r, rest, rfl, rfl, rfl⟩
  | cons first before ih =>
    cases requests with
    | nil => contradiction
    | cons r rest =>
      obtain ⟨rfl, hrest⟩ := List.cons.inj h
      obtain ⟨earlier, r', rest', rfl, rfl, rfl⟩ := ih hrest
      refine ⟨r :: earlier, r', rest', rfl, ?_, ?_⟩
      · rw [after, List.length_cons, Nat.add_assoc, Nat.add_comm 1]
      · rw [after, List.length_cons, Nat.add_assoc now 1, Nat.add_comm 1]

/-! ## Counters -/

/-- The exchanges after the last clearing. -/
def sinceClear (es : List Exchange) : List Exchange := es.rtakeWhile fun e => e.request ≠ .clear

def served (es : List Exchange) : List String := es.filterMap Exchange.served?

/-- What the counters say of the exchanges since the last clearing. -/
structure Tallies (since : List Exchange) (s : CacheStats) : Prop where
  asked : s.hits + s.misses = since.length
  entries_eq : s.entries = (served since).toFinset.card
  misses_eq : s.misses = s.entries + since.countP Exchange.refused

/-- Whether the counters are right and the trees that are kept are those that were given. -/
structure Accounts (since : List Exchange) (c : ParseCache) : Prop where
  tallies : Tallies since c.stats
  keeps_iff : ∀ template, c.Keeps template ↔ template ∈ served since

theorem accounts_empty : Accounts [] {} where
  tallies := ⟨rfl, rfl, rfl⟩
  keeps_iff template := by
    refine iff_of_false ?_ List.not_mem_nil
    rintro ⟨shared, hget⟩
    rw [Dictionary.get?_empty] at hget
    contradiction

section

variable {since : List Exchange}

theorem served_concat_ok (since : List Exchange) (limit : Nat) (template : String)
    (shared : SharedBody) :
    served (since ++ [⟨.get limit template, some (.ok shared)⟩]) = served since ++ [template] :=
  List.filterMap_append

theorem served_concat_error (since : List Exchange) (limit : Nat) (template : String)
    (e : SyntaxError) :
    served (since ++ [⟨.get limit template, some (.error e)⟩]) = served since := by
  simp [served, Exchange.served?]

theorem countP_refused_concat_ok (since : List Exchange) (r : Request) (shared : SharedBody) :
    List.countP Exchange.refused (since ++ [⟨r, some (.ok shared)⟩]) =
      since.countP Exchange.refused := by
  simp [Exchange.refused]

theorem countP_refused_concat_error (since : List Exchange) (r : Request) (e : SyntaxError) :
    List.countP Exchange.refused (since ++ [⟨r, some (.error e)⟩]) =
      since.countP Exchange.refused + 1 := by
  simp [Exchange.refused]

/-- A hit gives a tree for a template that was counted before. -/
theorem Accounts.hit (h : Accounts since c) (hget : c.entries.get? template = some shared) :
    Accounts (since ++ [⟨.get limit template, some (.ok shared)⟩])
      { c with hits := c.hits + 1 } := by
  obtain ⟨⟨hasked, hentries, hmisses⟩, hkeeps⟩ := h
  have hmem : template ∈ served since := (hkeeps template).mp ⟨shared, hget⟩
  simp only [stats] at hasked hentries hmisses
  refine ⟨⟨?_, ?_, ?_⟩, ?_⟩
  · simp only [stats, List.length_append, List.length_singleton]
    omega
  · rw [served_concat_ok, List.toFinset_append]
    simpa [stats, hmem] using hentries
  · rw [countP_refused_concat_ok]
    exact hmisses
  · intro other
    rw [served_concat_ok, List.mem_append, List.mem_singleton, ← hkeeps other]
    constructor
    · exact .inl
    · rintro (hother | rfl)
      · exact hother
      · exact ⟨shared, hget⟩

/-- A refusal is a miss that leaves no tree. -/
theorem Accounts.refusal (h : Accounts since c) (limit : Nat) (template : String)
    (e : SyntaxError) :
    Accounts (since ++ [⟨.get limit template, some (.error e)⟩])
      { c with misses := c.misses + 1 } := by
  obtain ⟨⟨hasked, hentries, hmisses⟩, hkeeps⟩ := h
  simp only [stats] at hasked hmisses
  refine ⟨⟨?_, ?_, ?_⟩, ?_⟩
  · simp only [stats, List.length_append, List.length_singleton]
    omega
  · rw [served_concat_error]
    exact hentries
  · rw [countP_refused_concat_error]
    simp only [stats]
    omega
  · rw [served_concat_error]
    exact hkeeps

/-- A tree that is made is a miss and one more template. -/
theorem Accounts.made (h : Accounts since c) (hget : c.entries.get? template = none) :
    Accounts (since ++ [⟨.get limit template, some (.ok shared)⟩])
      { c with misses := c.misses + 1, entries := c.entries.insert template shared } := by
  obtain ⟨⟨hasked, hentries, hmisses⟩, hkeeps⟩ := h
  have hnot : template ∉ served since := by
    rw [← hkeeps template]
    rintro ⟨kept, hkept⟩
    rw [hget] at hkept
    contradiction
  have hsize := Dictionary.size_insert shared hget
  simp only [stats] at hasked hentries hmisses
  refine ⟨⟨?_, ?_, ?_⟩, ?_⟩
  · simp only [stats, List.length_append, List.length_singleton]
    omega
  · rw [served_concat_ok, List.toFinset_append, Finset.card_union_of_disjoint (by simpa using hnot)]
    simp only [stats, hsize, hentries]
    rfl
  · rw [countP_refused_concat_ok]
    simp only [stats, hsize]
    omega
  · intro other
    rw [served_concat_ok, List.mem_append, List.mem_singleton, ← hkeeps other, Keeps, Keeps,
      Dictionary.get?_insert]
    by_cases hother : other = template
    · simp [hother]
    · simp [hother]

theorem Accounts.getOrParse (h : Accounts since c) (now limit : Nat) (template : String) :
    Accounts (since ++ [⟨.get limit template, some (c.getOrParse now limit template).1⟩])
      (c.getOrParse now limit template).2 := by
  rcases getOrParse_cases now limit template c with
    ⟨shared, hget, he⟩ | ⟨e, _, _, he⟩ | ⟨body, hget, _, he⟩
  · rw [he]
    exact h.hit hget
  · rw [he]
    exact h.refusal limit template e
  · rw [he]
    exact h.made hget

end

theorem sinceClear_concat_get (es : List Exchange) (limit : Nat) (template : String)
    (reply : Option (Except SyntaxError SharedBody)) :
    sinceClear (es ++ [⟨.get limit template, reply⟩]) =
      sinceClear es ++ [⟨.get limit template, reply⟩] :=
  List.rtakeWhile_concat_pos _ _ _ (by simp)

theorem sinceClear_concat_clear (es : List Exchange)
    (reply : Option (Except SyntaxError SharedBody)) :
    sinceClear (es ++ [⟨.clear, reply⟩]) = [] :=
  List.rtakeWhile_concat_neg _ _ _ (by simp)

theorem accounts_after (now : Nat) (requests : List Request) :
    Accounts (sinceClear (exchanges now {} requests)) (after now {} requests) := by
  induction requests using List.reverseRecOn with
  | nil => exact accounts_empty
  | append_singleton requests r ih =>
    rw [exchanges_concat, after_concat]
    cases r with
    | get limit template =>
      have hstep := ih.getOrParse (now + requests.length) limit template
      rwa [← sinceClear_concat_get] at hstep
    | clear =>
      rw [sinceClear_concat_clear]
      exact accounts_empty

/-! ## Shared trees -/

/-- Whether trees were made at times from `start` on and before `now`, and no two at one time. -/
structure Stamped (start now : Nat) (trees : Dictionary SharedBody) : Prop where
  made_mem : ∀ template shared, trees.get? template = some shared →
    start ≤ shared.made ∧ shared.made < now
  made_inj : ∀ template template' shared shared', trees.get? template = some shared →
    trees.get? template' = some shared' → shared.made = shared'.made → template = template'

section

variable {trees : Dictionary SharedBody}

theorem stamped_empty (start now : Nat) : Stamped start now .empty := by
  constructor
  · intro template shared hget
    rw [Dictionary.get?_empty] at hget
    contradiction
  · intro template template' shared shared' hget
    rw [Dictionary.get?_empty] at hget
    contradiction

theorem Stamped.later (h : Stamped start now trees) : Stamped start (now + 1) trees where
  made_mem template shared hget := by
    obtain ⟨hstart, hlt⟩ := h.made_mem template shared hget
    exact ⟨hstart, Nat.lt_succ_of_lt hlt⟩
  made_inj := h.made_inj

theorem Stamped.earlier {start' : Nat} (h : Stamped start now trees) (hle : start' ≤ start) :
    Stamped start' now trees where
  made_mem template shared hget := by
    obtain ⟨hstart, hlt⟩ := h.made_mem template shared hget
    exact ⟨Nat.le_trans hle hstart, hlt⟩
  made_inj := h.made_inj

/-- A tree made now is later than all that are kept. -/
theorem Stamped.insert (h : Stamped start now trees) (hstart : start ≤ now) (template : String)
    (body : Body) : Stamped start (now + 1) (trees.insert template ⟨now, body⟩) := by
  constructor
  · intro other shared hget
    rw [Dictionary.get?_insert] at hget
    split at hget
    · obtain rfl := Option.some.inj hget
      exact ⟨hstart, Nat.lt_succ_self now⟩
    · exact h.later.made_mem other shared hget
  · intro first second shared shared' hget hget' hmade
    rw [Dictionary.get?_insert] at hget hget'
    split at hget <;> split at hget'
    · next hfirst hsecond => rw [hfirst, hsecond]
    · obtain rfl := Option.some.inj hget
      have hlt := (h.made_mem second shared' hget').2
      exact absurd hmade (Nat.ne_of_gt hlt)
    · obtain rfl := Option.some.inj hget'
      have hlt := (h.made_mem first shared hget).2
      exact absurd hmade (Nat.ne_of_lt hlt)
    · exact h.made_inj first second shared shared' hget hget' hmade

end

theorem Stamped.answer (h : Stamped start now c.entries) (hstart : start ≤ now) (r : Request) :
    Stamped start (now + 1) (c.answer now r).2.entries := by
  cases r with
  | clear => exact stamped_empty start (now + 1)
  | get limit template =>
    change Stamped start (now + 1) (c.getOrParse now limit template).2.entries
    rcases getOrParse_cases now limit template c with
      ⟨shared, _, he⟩ | ⟨e, _, _, he⟩ | ⟨body, _, _, he⟩
    · rw [he]
      exact h.later
    · rw [he]
      exact h.later
    · rw [he]
      exact h.insert hstart template body

theorem Stamped.after (h : Stamped start now c.entries) (hstart : start ≤ now)
    (requests : List Request) :
    Stamped start (now + requests.length) (after now c requests).entries := by
  induction requests generalizing now c with
  | nil => exact h
  | cons r rest ih =>
    have hrest := ih (h.answer hstart r) (Nat.le_succ_of_le hstart)
    rwa [Nat.add_assoc, Nat.add_comm 1] at hrest

/-- What is given is kept. -/
theorem get?_getOrParse_of_eq_ok (h : (c.getOrParse now limit template).1 = .ok shared) :
    (c.getOrParse now limit template).2.entries.get? template = some shared := by
  rcases getOrParse_cases now limit template c with
    ⟨kept, hget, he⟩ | ⟨e, _, _, he⟩ | ⟨body, _, _, he⟩
  · rw [he] at h ⊢
    obtain rfl := Except.ok.inj h
    exact hget
  · rw [he] at h
    contradiction
  · rw [he] at h ⊢
    obtain rfl := Except.ok.inj h
    simp [Dictionary.get?_insert]

/-- What is kept stays as it is. -/
theorem get?_getOrParse_of_get? (h : c.entries.get? template = some shared) (now limit : Nat)
    (other : String) :
    (c.getOrParse now limit other).2.entries.get? template = some shared := by
  rcases getOrParse_cases now limit other c with
    ⟨kept, hget, he⟩ | ⟨e, _, _, he⟩ | ⟨body, hget, _, he⟩
  · rw [he]
    exact h
  · rw [he]
    exact h
  · have hne : template ≠ other := by
      rintro rfl
      rw [h] at hget
      contradiction
    rw [he, Dictionary.get?_insert, if_neg hne]
    exact h

theorem get?_after_of_get? (h : c.entries.get? template = some shared) (now : Nat)
    (hclear : .clear ∉ requests) :
    (after now c requests).entries.get? template = some shared := by
  induction requests generalizing now c with
  | nil => exact h
  | cons r rest ih =>
    rw [List.mem_cons, not_or] at hclear
    cases r with
    | clear => exact absurd rfl hclear.1
    | get limit other => exact ih (get?_getOrParse_of_get? h now limit other) (now + 1) hclear.2

/-- Trees that were given before the cache was cleared are older than those that are kept after. -/
theorem stamped_after_of_clear (hclear : .clear ∈ requests) :
    Stamped now (now + requests.length) (after now c requests).entries := by
  induction requests generalizing now c with
  | nil => contradiction
  | cons r rest ih =>
    rw [List.length_cons, Nat.add_comm rest.length, ← Nat.add_assoc]
    rcases List.mem_cons.mp hclear with rfl | hrest
    · exact (stamped_empty now (now + 1)).after (c := {}) (Nat.le_succ now) rest
    · exact (ih hrest).earlier (Nat.le_succ now)

/-- An answer given after another one shares its tree exactly if it is for the same template and the
cache was not cleared in between. -/
theorem made_eq_iff_of_given {between : List Request} {template' : String} {shared' : SharedBody}
    (hstamped : Stamped 0 now c.entries) (hkept : c.entries.get? template = some shared)
    (hgiven : ((after now c between).getOrParse (now + between.length) limit template').1 =
      .ok shared') :
    (shared.made = shared'.made ↔ template = template' ∧ .clear ∉ between) ∧
      (shared.made = shared'.made → shared = shared') := by
  have hkept' := get?_getOrParse_of_eq_ok hgiven
  by_cases hclear : .clear ∈ between
  · have hlater := (stamped_after_of_clear (c := c) hclear).answer (Nat.le_add_right now _)
      (.get limit template')
    have hle : now ≤ shared'.made := (hlater.made_mem _ _ hkept').1
    have hlt : shared.made < now := (hstamped.made_mem _ _ hkept).2
    have hne : shared.made ≠ shared'.made := Nat.ne_of_lt (Nat.lt_of_lt_of_le hlt hle)
    exact ⟨iff_of_false hne fun h => h.2 hclear, fun h => absurd h hne⟩
  · -- the tree of the first answer is still kept next to that of the second one
    have hboth := get?_getOrParse_of_get? (get?_after_of_get? hkept now hclear)
      (now + between.length) limit template'
    have hall := (hstamped.after (Nat.zero_le now) between).answer (Nat.zero_le _)
      (.get limit template')
    have hinj : shared.made = shared'.made → template = template' :=
      hall.made_inj _ _ _ _ hboth hkept'
    have hsame : template = template' → shared = shared' := by
      rintro rfl
      exact Option.some.inj (hboth.symm.trans hkept')
    exact ⟨⟨fun h => ⟨hinj h, hclear⟩, fun h => congrArg SharedBody.made (hsame h.1)⟩,
      fun h => hsame (hinj h)⟩

theorem not_mem_requests_iff {es : List Exchange} (h : exchanges now c requests = es) :
    .clear ∉ requests ↔ ∀ e ∈ es, e.request ≠ .clear := by
  rw [← map_request_exchanges now c requests, h]
  simp

/-- After each request the counters tell how many requests there were since the cache was cleared,
for how many templates a tree was given and how many requests failed. Two requests were given one
tree exactly if they are for one template and the cache was not cleared between them. -/
theorem stats_and_sharing_exact (now : Nat) (requests : List Request) :
    (∀ r, ∃ reply c, answers now {} (requests ++ [r]) = answers now {} requests ++ [(reply, c)] ∧
      Tallies (sinceClear (exchanges now {} (requests ++ [r]))) c.stats) ∧
    ∀ before limit template shared between limit' template' shared' later,
      exchanges now {} requests = before ++ ⟨.get limit template, some (.ok shared)⟩ ::
        (between ++ ⟨.get limit' template', some (.ok shared')⟩ :: later) →
      (shared.made = shared'.made ↔
        template = template' ∧ ∀ e ∈ between, e.request ≠ .clear) ∧
      (shared.made = shared'.made → shared = shared') := by
  constructor
  · intro r
    have haccounts := accounts_after now (requests ++ [r])
    rw [after_concat] at haccounts
    exact ⟨_, _, answers_append now {} requests [r], haccounts.tallies⟩
  · intro before limit template shared between limit' template' shared' later h
    obtain ⟨earlier, r, rest, -, hfirst, hrest⟩ := exchanges_eq_append_cons h
    obtain ⟨rfl, hshared⟩ := Exchange.mk.inj hfirst
    have hkept := get?_getOrParse_of_eq_ok (Option.some.inj hshared).symm
    have hstamped := ((stamped_empty 0 now).after (c := {}) (Nat.zero_le now) earlier).answer
      (Nat.zero_le _) (.get limit template)
    obtain ⟨middle, r', rest', hbetween, hsecond, -⟩ := exchanges_eq_append_cons hrest.symm
    obtain ⟨rfl, hshared'⟩ := Exchange.mk.inj hsecond
    rw [← not_mem_requests_iff hbetween.symm]
    exact made_eq_iff_of_given hstamped hkept (Option.some.inj hshared').symm

/-- Two templates, one that fails, and the first one again before and after a clearing. -/
def repeatedRequests : List Request :=
  [.get 64 "a", .get 64 "b", .get 64 "\x7b\x7b/if\x7d\x7d", .get 64 "a", .clear, .get 64 "a"]

example : (answers 0 {} repeatedRequests).map (fun a => (a.1.bind fun result =>
      result.toOption.map SharedBody.made, a.2.stats)) =
    [(some 0, ⟨0, 1, 1⟩), (some 1, ⟨0, 2, 2⟩), (none, ⟨0, 3, 2⟩), (some 0, ⟨1, 3, 2⟩),
      (none, ⟨0, 0, 0⟩), (some 5, ⟨0, 1, 1⟩)] := by decide +kernel

end ParseCache

end Worksheet
