import Mathlib.Data.List.Induction
import Worksheet.Proofs.Rendering.History

/-!
One cache under many limits. Whatever the limits of the requests were, each kept tree is what its
template is parsed to under the ceiling, because a limit only decides whether there is a tree. A
template has a kept tree exactly if a request for it was answered with one and the cache was not
cleared since. So another limit can make a depth check fall out, and never gives another tree.
-/

namespace Worksheet

namespace ParseCache

variable {now limit : Nat} {template : String} {c : ParseCache} {requests : List Request}

/-! ## Histories -/

/-- The cache after some requests, the first of them made at the time `now`. -/
def after (now : Nat) (c : ParseCache) : List Request → ParseCache
  | [] => c
  | r :: rest => after (now + 1) (c.answer now r).2 rest

theorem after_concat (now : Nat) (c : ParseCache) (requests : List Request) (r : Request) :
    after now c (requests ++ [r]) =
      ((after now c requests).answer (now + requests.length) r).2 := by
  induction requests generalizing now c with
  | nil => rfl
  | cons first rest ih =>
    rw [List.cons_append, after, ih, List.length_cons, after, Nat.add_assoc, Nat.add_comm 1]

/-- What comes later is answered by the cache that the earlier requests leave. -/
theorem answers_append (now : Nat) (c : ParseCache) (requests later : List Request) :
    answers now c (requests ++ later) =
      answers now c requests ++ answers (now + requests.length) (after now c requests) later := by
  induction requests generalizing now c with
  | nil => rfl
  | cons first rest ih =>
    rw [List.cons_append, answers, ih, List.length_cons, answers, after, List.cons_append,
      Nat.add_assoc, Nat.add_comm 1]

/-! ## Kept trees -/

theorem sound_answer (h : c.Sound depthCeiling) (now : Nat) (r : Request) :
    (c.answer now r).2.Sound depthCeiling := by
  cases r with
  | get limit template =>
    exact h.getOrParse (effectiveDepth_le_ceiling limit) now template
  | clear => exact sound_empty depthCeiling

theorem sound_after (now : Nat) (requests : List Request) :
    (after now {} requests).Sound depthCeiling := by
  induction requests using List.reverseRecOn with
  | nil => exact sound_empty depthCeiling
  | append_singleton requests r ih =>
    rw [after_concat]
    exact sound_answer ih _ r

/-- Whether the cache has a tree of the template. -/
def Keeps (template : String) (c : ParseCache) : Prop :=
  ∃ shared, c.entries.get? template = some shared

/-- Whether a request for the template would be answered with a tree. -/
def Gives (now limit : Nat) (template : String) (c : ParseCache) : Prop :=
  ∃ shared, (c.getOrParse now limit template).1 = .ok shared

theorem gives_iff :
    c.Gives now limit template ↔
      (∃ body, Body.parse limit template = .ok body) ∨ c.Keeps template := by
  rcases getOrParse_cases now limit template c with
    ⟨shared, hget, he⟩ | ⟨e, hget, hparse, he⟩ | ⟨body, hget, hparse, he⟩
  · simp [Gives, Keeps, he, hget]
  · simp [Gives, Keeps, he, hget, hparse]
  · simp [Gives, Keeps, he, hparse]

/-- A use keeps a tree only of what it was asked for, if it gives one. -/
theorem keeps_getOrParse_iff {other : String} :
    (c.getOrParse now limit other).2.Keeps template ↔
      c.Keeps template ∨ (other = template ∧ c.Gives now limit template) := by
  rcases getOrParse_cases now limit other c with
    ⟨shared, hget, he⟩ | ⟨e, hget, hparse, he⟩ | ⟨body, hget, hparse, he⟩
  · rw [he]
    constructor
    · exact .inl
    · rintro (hkeeps | ⟨rfl, -⟩)
      · exact hkeeps
      · exact ⟨shared, hget⟩
  · rw [he]
    constructor
    · exact .inl
    · rintro (hkeeps | ⟨rfl, shared, hgives⟩)
      · exact hkeeps
      · rw [he] at hgives
        contradiction
  · rw [he, Keeps, Dictionary.get?_insert]
    by_cases heq : template = other
    · subst heq
      simp [Gives, he]
    · simp [Keeps, heq, Ne.symm heq]

/-- Whether some request for the template was answered with a tree and the cache was not cleared
since. -/
def Served (now : Nat) (template : String) (requests : List Request) : Prop :=
  ∃ earlier limit later, requests = earlier ++ .get limit template :: later ∧
    .clear ∉ later ∧ (after now {} earlier).Gives (now + earlier.length) limit template

theorem not_served_nil : ¬ Served now template [] := by
  rintro ⟨earlier, limit, later, he, -⟩
  simp at he

theorem served_concat_iff {r : Request} :
    Served now template (requests ++ [r]) ↔
      (Served now template requests ∧ r ≠ .clear) ∨
        ∃ limit, r = .get limit template ∧
          (after now {} requests).Gives (now + requests.length) limit template := by
  constructor
  · rintro ⟨earlier, limit, later, he, hclear, hgives⟩
    rcases List.eq_nil_or_concat later with rfl | ⟨later, last, rfl⟩
    · obtain ⟨rfl, hr⟩ := List.append_inj' he rfl
      exact .inr ⟨limit, (List.cons.inj hr).1, hgives⟩
    · rw [List.concat_eq_append] at he hclear
      rw [← List.cons_append, ← List.append_assoc] at he
      obtain ⟨rfl, hr⟩ := List.append_inj' he rfl
      obtain rfl : r = last := (List.cons.inj hr).1
      rw [List.mem_append, not_or] at hclear
      refine .inl ⟨⟨earlier, limit, later, rfl, hclear.1, hgives⟩, ?_⟩
      rintro rfl
      exact hclear.2 List.mem_cons_self
  · rintro (⟨⟨earlier, limit, later, rfl, hclear, hgives⟩, hr⟩ | ⟨limit, rfl, hgives⟩)
    · refine ⟨earlier, limit, later ++ [r], by simp, ?_, hgives⟩
      simp [hclear, hr.symm]
    · exact ⟨requests, limit, [], rfl, List.not_mem_nil, hgives⟩

theorem keeps_after_iff :
    (after now {} requests).Keeps template ↔ Served now template requests := by
  have hempty : ¬ Keeps template {} := by
    rintro ⟨shared, hget⟩
    rw [Dictionary.get?_empty] at hget
    contradiction
  induction requests using List.reverseRecOn with
  | nil => exact iff_of_false hempty not_served_nil
  | append_singleton requests r ih =>
    have hserved : Served now template requests ↔ (after now {} requests).Keeps template := ih.symm
    rw [after_concat, served_concat_iff, hserved]
    cases r with
    | clear =>
      refine iff_of_false hempty ?_
      rintro (⟨-, hne⟩ | ⟨_, hget, -⟩)
      · exact hne rfl
      · contradiction
    | get limit other =>
      have hanswer : ((after now {} requests).answer (now + requests.length)
          (.get limit other)).2.Keeps template ↔ _ := keeps_getOrParse_iff
      rw [hanswer]
      constructor
      · rintro (hkeeps | ⟨rfl, hgives⟩)
        · exact .inl ⟨hkeeps, by simp⟩
        · exact .inr ⟨limit, rfl, hgives⟩
      · rintro (⟨hkeeps, -⟩ | ⟨limit', hr, hgives⟩)
        · exact .inl hkeeps
        · obtain ⟨rfl, rfl⟩ := Request.get.inj hr
          exact .inr ⟨rfl, hgives⟩

/-! ## Answers -/

theorem Sound.parse_of_getOrParse {bound : Nat} {shared : SharedBody} (h : c.Sound bound)
    (hle : effectiveDepth limit ≤ effectiveDepth bound)
    (hgiven : (c.getOrParse now limit template).1 = .ok shared) :
    Body.parse bound template = .ok shared.body := by
  rcases getOrParse_cases now limit template c with
    ⟨kept, hget, he⟩ | ⟨e, _, _, he⟩ | ⟨body, _, hparse, he⟩
  · rw [he] at hgiven
    obtain rfl := Except.ok.inj hgiven
    exact h template kept hget
  · rw [he] at hgiven
    contradiction
  · rw [he] at hgiven
    obtain rfl := Except.ok.inj hgiven
    exact Body.parse_eq_ok_mono hle hparse

theorem of_getOrParse_error {e : SyntaxError}
    (hfailed : (c.getOrParse now limit template).1 = .error e) :
    Body.parse limit template = .error e ∧
      (c.getOrParse now limit template).2.entries = c.entries := by
  rcases getOrParse_cases now limit template c with
    ⟨kept, _, he⟩ | ⟨e', _, hparse, he⟩ | ⟨body, _, _, he⟩
  · rw [he] at hfailed
    contradiction
  · rw [he] at hfailed
    obtain rfl := Except.error.inj hfailed
    exact ⟨hparse, by rw [he]⟩
  · rw [he] at hfailed
    contradiction

/-- A request is answered with a tree if its template parses under its own limit or was served
since the cache was cleared, and the tree is the one under the ceiling. A failure is that of the
parse, and leaves the kept trees as they are. -/
theorem answers_under_mixed_limits (now : Nat) (requests later : List Request) (limit : Nat)
    (template : String) :
    ∃ result c,
      answers now {} (requests ++ .get limit template :: later) =
        answers now {} requests ++
          (some result, c) :: answers (now + requests.length + 1) c later ∧
      ((∃ shared, result = .ok shared) ↔
        (∃ body, Body.parse limit template = .ok body) ∨ Served now template requests) ∧
      (∀ shared, result = .ok shared → Body.parse 1024 template = .ok shared.body) ∧
      ∀ e, result = .error e →
        Body.parse limit template = .error e ∧ c.entries = (after now {} requests).entries := by
  have hsound := sound_after now requests
  refine ⟨_, _, answers_append now {} requests (.get limit template :: later), ?_, ?_, ?_⟩
  · rw [← keeps_after_iff]
    exact gives_iff
  · intro shared hgiven
    exact hsound.parse_of_getOrParse (effectiveDepth_le_ceiling limit) hgiven
  · intro e hfailed
    exact of_getOrParse_error hfailed

def nestedTemplate : String :=
  "\x7b\x7b#if a\x7d\x7d\x7b\x7b#if b\x7d\x7dx\x7b\x7b/if\x7d\x7d\x7b\x7b/if\x7d\x7d"

-- too deep at first, it is given under the same limit once a higher one has let it in
example : (answers 0 {} [.get 1 nestedTemplate, .get 2 nestedTemplate, .get 1 nestedTemplate]).map
    (fun a => a.1.map fun result => result.toOption.map SharedBody.made) =
      [some none, some (some 1), some (some 1)] := by decide +kernel

end ParseCache

end Worksheet
