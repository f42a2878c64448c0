import Worksheet.Failure

/-!
What the notes of a failure do to the advice. No search along the chain stops at a note, so each of
them finds what it would find without the notes, and a failure is classified by its cause alone. The
notes are told only where the cause has no words of its own: there the message lists them all, and
the cause as the last one.
-/

namespace Worksheet

/-- Two problems are of one variant, whatever they say. -/
def Problem.SameVariant (p q : Problem) : Prop := p.ctorIdx = q.ctorIdx

/-- A message is the first of some texts and below it the others in their order, numbered from
one. -/
def Lists (texts : List String) (message : String) : Prop :=
  ∃ outermost causes lines, texts = outermost :: causes ∧ lines.length = causes.length ∧
    (∀ i text, causes[i]? = some text → lines[i]? = some s!"\n  {i + 1}: {text}") ∧
    message = if causes = [] then outermost
      else outermost ++ "\n\nCaused by:" ++ String.join lines

/-- The advice for a cause, with a text to show for it if it has no words of its own. -/
def Cause.advice (shown : String) : Cause → Advice
  | problem p => p.advice
  | template e => e.advice
  | file kind _ => { problem := .other shown, suggestion := kind.suggestion }
  | toml e => e.advice shown
  | plain _ => { problem := .other shown }

namespace Failure

variable {α : Type} {f : Failure}

/-- Notes are put before those that are there, the last one first. -/
theorem foldl_note (f : Failure) (texts : List String) :
    texts.foldl (fun f text => f.note text) f = ⟨f.cause, texts.reverse ++ f.notes⟩ := by
  induction texts generalizing f with
  | nil => rfl
  | cons text texts ih =>
    rw [List.foldl_cons, ih, note, List.reverse_cons, List.append_assoc, List.singleton_append]

/-- A search that takes no note finds what it takes the cause for. -/
theorem findSome?_chain {search : Link → Option α} (h : ∀ text, search (.note text) = none) :
    f.chain.findSome? search = search (.cause f.cause) := by
  have hnotes : (f.notes.map Link.note).findSome? search = none := by
    rw [List.findSome?_eq_none_iff]
    intro link hlink
    obtain ⟨text, -, rfl⟩ := List.mem_map.mp hlink
    exact h text
  rw [chain, List.findSome?_append, hnotes, Option.none_or, List.findSome?_singleton]

theorem advice_eq (f : Failure) : f.advice = f.cause.advice f.chainText := by
  have hproblem : f.chain.findSome? Link.problem? = Link.problem? (.cause f.cause) :=
    findSome?_chain fun _ => rfl
  have htemplate : f.chain.findSome? Link.template? = Link.template? (.cause f.cause) :=
    findSome?_chain fun _ => rfl
  have hfile : f.chain.findSome? Link.fileError? = Link.fileError? (.cause f.cause) :=
    findSome?_chain fun _ => rfl
  have htoml : f.chain.findSome? Link.toml? = Link.toml? (.cause f.cause) :=
    findSome?_chain fun _ => rfl
  rw [Failure.advice, hproblem, htemplate, hfile, htoml]
  cases f.cause with
  | problem | template | toml | plain => rfl
  | file kind => cases kind <;> rfl

theorem lists_chainText (f : Failure) : Lists f.messages f.chainText := by
  obtain ⟨outermost, causes, hmessages⟩ : ∃ outermost causes, f.messages = outermost :: causes :=
    List.exists_cons_of_ne_nil (by simp [messages])
  refine ⟨outermost, causes, causes.mapIdx fun i text => s!"\n  {i + 1}: {text}", hmessages,
    List.length_mapIdx, ?_, ?_⟩
  · intro i text htext
    rw [List.getElem?_mapIdx, htext]
    rfl
  · rw [chainText, hmessages]
    cases causes with
    | nil => rfl
    | cons cause causes => rfl

/-- Whatever notes are added one after the other, what a user is told has the variant, the
suggestion and the details it has for the cause alone. The notes show only for a file error, an
error of the reader of configuration files and a plain message, all of them listed from the
outermost one to the cause. -/
theorem advice_foldl_note (c : Cause) (texts : List String) :
    let alone : Failure := ⟨c, []⟩
    let noted := texts.foldl (fun f text => f.note text) alone
    noted.advice.problem.SameVariant alone.advice.problem ∧
      noted.advice.suggestion = alone.advice.suggestion ∧
      noted.advice.details = alone.advice.details ∧
      match c with
      | .problem _ | .template _ => noted.advice.problem = alone.advice.problem
      | .toml _ => ∃ message, Lists (texts.reverse ++ [c.message]) message ∧
          noted.advice.problem = .configuration message
      | .file _ _ | .plain _ => ∃ message, Lists (texts.reverse ++ [c.message]) message ∧
          noted.advice.problem = .other message := by
  intro alone noted
  have hnoted : noted = ⟨c, texts.reverse⟩ := by
    rw [← List.append_nil texts.reverse]
    exact foldl_note alone texts
  have hlists : Lists (texts.reverse ++ [c.message]) noted.chainText := by
    rw [hnoted]
    exact lists_chainText ⟨c, texts.reverse⟩
  have hadvice : noted.advice = c.advice noted.chainText := by
    rw [advice_eq noted, hnoted]
  rw [hadvice, advice_eq alone]
  cases c with
  | problem | template => exact ⟨rfl, rfl, rfl, rfl⟩
  | file | toml | plain => exact ⟨rfl, rfl, rfl, _, hlists, rfl⟩

end Failure

end Worksheet
