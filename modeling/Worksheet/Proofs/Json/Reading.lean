import Worksheet.Json.Reader
import Worksheet.Proofs.Json.Writing
import Worksheet.Text.Blank

/-!
What the first character of a JSON text tells about its data. Behind white space of any kind, an
opening bracket means an array, if the text holds data at all: the container that was opened first
lies below all others as long as it is open, and once it is closed it is the result.
-/

namespace Worksheet.Json

namespace Reading

variable {s s' : Reading} {t : Token} {ts : List Token} {opened : List Container}

/-- Whether the container opened first is an array. -/
def OnArray (opened : List Container) : Prop := ∃ items, opened.getLast? = some (.array items)

/-- Whether the reader is inside an array, or has closed one as its result. -/
def InArray (s : Reading) : Prop :=
  if s.expected = .nothing then ∃ items, s.result = .list items else OnArray s.opened

theorem OnArray.cons (c : Container) (h : OnArray opened) : OnArray (c :: opened) := by
  obtain ⟨items, hlast⟩ := h
  exact ⟨items, by rw [List.getLast?_cons, hlast, Option.getD_some]⟩

/-- Another container of the same kind in the place of the innermost one changes nothing. -/
theorem OnArray.replace_array {items items' : List Document}
    (h : OnArray (.array items :: opened)) : OnArray (.array items' :: opened) := by
  obtain ⟨last, hlast⟩ := h
  cases opened with
  | nil => exact ⟨items', rfl⟩
  | cons c outer => exact ⟨last, hlast⟩

theorem OnArray.tail_of_object {entries : List (Option String × Document)} {name : Option String}
    (h : OnArray (.object entries name :: opened)) : OnArray opened := by
  obtain ⟨last, hlast⟩ := h
  cases opened with
  | nil => simp at hlast
  | cons c outer => exact ⟨last, hlast⟩

theorem OnArray.inArray_deliver (h : OnArray opened) (d : Document) :
    (deliver opened d).InArray := by
  cases opened with
  | nil =>
    obtain ⟨items, hlast⟩ := h
    contradiction
  | cons c outer =>
    cases c with
    | array items => exact h.replace_array
    | object entries name => exact h.tail_of_object.cons _

theorem OnArray.inArray_value (h : OnArray opened) (hvalue : value opened t = some s') :
    s'.InArray := by
  cases t with
  | openArray | openObject =>
    obtain rfl := Option.some.inj hvalue
    exact h.cons _
  | null | boolean | number =>
    obtain rfl := Option.some.inj hvalue
    exact h.inArray_deliver _
  | string x =>
    cases x <;>
    · obtain rfl := Option.some.inj hvalue
      exact h.inArray_deliver _
  | closeArray | closeObject | comma | colon => contradiction

theorem OnArray.inArray_close (h : OnArray opened) (hclose : close opened t = some s') :
    s'.InArray := by
  unfold close at hclose
  split at hclose
  · split at hclose
    · next items outer =>
      obtain rfl := Option.some.inj hclose
      cases outer with
      | nil => exact ⟨items.reverse, rfl⟩
      | cons c outer =>
        obtain ⟨last, hlast⟩ := h
        have houter : OnArray (c :: outer) := ⟨last, hlast⟩
        exact houter.inArray_deliver _
    · contradiction
  · split at hclose
    · obtain rfl := Option.some.inj hclose
      exact h.tail_of_object.inArray_deliver _
    · contradiction
  · contradiction

theorem OnArray.inArray_member (h : OnArray opened) (hmember : member opened t = some s') :
    s'.InArray := by
  unfold member at hmember
  split at hmember
  · split at hmember
    · obtain rfl := Option.some.inj hmember
      exact h.tail_of_object.cons _
    · contradiction
  · contradiction

theorem OnArray.inArray_afterComma (h : OnArray opened) (hcomma : afterComma opened = some s') :
    s'.InArray := by
  unfold afterComma at hcomma
  split at hcomma
  · obtain rfl := Option.some.inj hcomma
    exact h
  · obtain rfl := Option.some.inj hcomma
    exact h
  · contradiction

theorem InArray.onArray (h : s.InArray) (hs : s.expected ≠ .nothing) : OnArray s.opened := by
  rwa [InArray, if_neg hs] at h

theorem InArray.feed (h : s.InArray) (hfeed : s.feed t = some s') : s'.InArray := by
  unfold Reading.feed at hfeed
  split at hfeed
  case h_1 hs => exact (h.onArray (by simp [hs])).inArray_value hfeed
  case h_2 hs =>
    have hopened := h.onArray (by simp [hs])
    split at hfeed
    · exact hopened.inArray_close hfeed
    · exact hopened.inArray_value hfeed
  case h_3 hs =>
    have hopened := h.onArray (by simp [hs])
    split at hfeed
    · exact hopened.inArray_close hfeed
    · exact hopened.inArray_member hfeed
  case h_4 hs => exact (h.onArray (by simp [hs])).inArray_member hfeed
  case h_5 hs =>
    split at hfeed
    · obtain rfl := Option.some.inj hfeed
      exact h.onArray (by simp [hs])
    · contradiction
  case h_6 hs =>
    have hopened := h.onArray (by simp [hs])
    split at hfeed
    · exact hopened.inArray_afterComma hfeed
    · exact hopened.inArray_close hfeed
  case h_7 => contradiction

theorem InArray.foldlM (h : s.InArray) (hrun : ts.foldlM Reading.feed s = some s') :
    s'.InArray := by
  induction ts generalizing s with
  | nil =>
    obtain rfl := Option.some.inj hrun
    exact h
  | cons t ts ih =>
    rw [List.foldlM_cons] at hrun
    obtain ⟨next, hfeed, hrun⟩ := Option.bind_eq_some_iff.mp hrun
    exact ih (h.feed hfeed) hrun

end Reading

/-! ## Texts -/

variable {text : List Char}

end Worksheet.Json
