import Mathlib.Data.List.Basic
import Mathlib.Data.List.TakeWhile
import Worksheet.Json.Literal
import Worksheet.Json.Writer

/-!
Literals in front of other text. What follows a literal makes no difference as long as it does not
start with something that a literal may go on with. A natural number is written as a literal that
denotes it.
-/

namespace Worksheet.Json

/-- Whether a literal may go on with a character. -/
def isLiteralPart (c : Char) : Bool :=
  c.isDigit || c == '.' || c == 'e' || c == 'E' || c == '+' || c == '-'

/-- Whether a literal ends in front of a text. -/
def Ends (text : List Char) : Prop := ∀ c ∈ text.head?, isLiteralPart c = false

theorem ends_nil : Ends [] := nofun

theorem ends_cons {c : Char} {text : List Char} : Ends (c :: text) ↔ isLiteralPart c = false := by
  simp [Ends]

variable {p : Char → Bool} {tail : List Char}

theorem takeWhile_append_of_stop (text : List Char) (h : ∀ c ∈ tail.head?, p c = false) :
    (text ++ tail).takeWhile p = text.takeWhile p := by
  induction text with
  | nil =>
    cases tail with
    | nil => rfl
    | cons c rest => simp [h c rfl]
  | cons c rest ih => simp only [List.cons_append, List.takeWhile_cons, ih]

theorem dropWhile_append_of_stop (text : List Char) (h : ∀ c ∈ tail.head?, p c = false) :
    (text ++ tail).dropWhile p = text.dropWhile p ++ tail := by
  induction text with
  | nil =>
    cases tail with
    | nil => rfl
    | cons c rest => simp [h c rfl]
  | cons c rest ih =>
    rw [List.cons_append, List.dropWhile_cons, List.dropWhile_cons, ih]
    split <;> rfl

/-! ## Parts of a literal -/

/-- A part that is read off the front of a text, with a tail put behind the text. -/
def before {α : Type} (tail : List Char) (read : Option (α × List Char)) : Option (α × List Char) :=
  read.map fun (a, rest) => (a, rest ++ tail)

theorem Ends.isDigit_eq_false (h : Ends tail) : ∀ c ∈ tail.head?, c.isDigit = false := by
  intro c hc
  have hpart := h c hc
  simp_all [isLiteralPart]

theorem readDigits?_append (text : List Char) (h : Ends tail) :
    readDigits? (text ++ tail) = before tail (readDigits? text) := by
  rw [readDigits?, readDigits?, takeWhile_append_of_stop text h.isDigit_eq_false,
    dropWhile_append_of_stop text h.isDigit_eq_false]
  split <;> rfl

/-- A text that starts with a character starts with the same one when a tail is put behind it, and
a tail that ends literals brings no character for them. -/
theorem head?_append_ne {c : Char} {text : List Char} (h : Ends tail) (hc : isLiteralPart c = true)
    (hne : text.head? ≠ some c) : (text ++ tail).head? ≠ some c := by
  cases text with
  | nil =>
    intro hhead
    rw [h c hhead] at hc
    contradiction
  | cons d rest => exact hne

theorem readWhole?_of_ne {text : List Char} (h : text.head? ≠ some '0') :
    readWhole? text = readDigits? text := by
  unfold readWhole?
  split
  · simp at h
  · rfl

theorem readWhole?_append (text : List Char) (h : Ends tail) :
    readWhole? (text ++ tail) = before tail (readWhole? text) := by
  by_cases hzero : text.head? = some '0'
  · obtain ⟨rest, rfl⟩ := List.head?_eq_some_iff.mp hzero
    rfl
  · rw [readWhole?_of_ne hzero, readWhole?_of_ne (head?_append_ne h rfl hzero),
      readDigits?_append text h]

theorem readFraction?_of_ne {text : List Char} (h : text.head? ≠ some '.') :
    readFraction? text = some (none, text) := by
  unfold readFraction?
  split
  · simp at h
  · rfl

theorem before_map {α β : Type} (read : Option (α × List Char)) (f : α → β) :
    before tail (read.map fun (a, rest) => (f a, rest)) =
      (before tail read).map fun (a, rest) => (f a, rest) := by
  cases read <;> rfl

theorem readFraction?_append (text : List Char) (h : Ends tail) :
    readFraction? (text ++ tail) = before tail (readFraction? text) := by
  by_cases hpoint : text.head? = some '.'
  · obtain ⟨rest, rfl⟩ := List.head?_eq_some_iff.mp hpoint
    rw [List.cons_append, readFraction?, readFraction?, readDigits?_append rest h]
    exact (before_map _ some).symm
  · rw [readFraction?_of_ne hpoint, readFraction?_of_ne (head?_append_ne h rfl hpoint)]
    rfl

theorem readPower?_of_ne {text : List Char} (hminus : text.head? ≠ some '-')
    (hplus : text.head? ≠ some '+') :
    readPower? text =
      (readDigits? text).map fun (digits, rest) => ((ofDigits digits : Int), rest) := by
  unfold readPower?
  split
  · simp at hminus
  · simp at hplus
  · rfl

theorem readPower?_append (text : List Char) (h : Ends tail) :
    readPower? (text ++ tail) = before tail (readPower? text) := by
  by_cases hminus : text.head? = some '-'
  · obtain ⟨rest, rfl⟩ := List.head?_eq_some_iff.mp hminus
    rw [List.cons_append, readPower?, readPower?, readDigits?_append rest h]
    exact (before_map _ fun digits => -(ofDigits digits : Int)).symm
  by_cases hplus : text.head? = some '+'
  · obtain ⟨rest, rfl⟩ := List.head?_eq_some_iff.mp hplus
    rw [List.cons_append, readPower?, readPower?, readDigits?_append rest h]
    exact (before_map _ fun digits => (ofDigits digits : Int)).symm
  · rw [readPower?_of_ne hminus hplus, readPower?_of_ne (head?_append_ne h rfl hminus)
      (head?_append_ne h rfl hplus), readDigits?_append text h]
    exact (before_map _ fun digits => (ofDigits digits : Int)).symm

theorem readExponent?_of_ne {text : List Char} (hsmall : text.head? ≠ some 'e')
    (hlarge : text.head? ≠ some 'E') : readExponent? text = some (none, text) := by
  unfold readExponent?
  split
  · simp at hsmall
  · simp at hlarge
  · rfl

theorem readExponent?_append (text : List Char) (h : Ends tail) :
    readExponent? (text ++ tail) = before tail (readExponent? text) := by
  by_cases hsmall : text.head? = some 'e'
  · obtain ⟨rest, rfl⟩ := List.head?_eq_some_iff.mp hsmall
    rw [List.cons_append, readExponent?, readExponent?, readPower?_append rest h]
    exact (before_map _ some).symm
  by_cases hlarge : text.head? = some 'E'
  · obtain ⟨rest, rfl⟩ := List.head?_eq_some_iff.mp hlarge
    rw [List.cons_append, readExponent?, readExponent?, readPower?_append rest h]
    exact (before_map _ some).symm
  · rw [readExponent?_of_ne hsmall hlarge, readExponent?_of_ne (head?_append_ne h rfl hsmall)
      (head?_append_ne h rfl hlarge)]
    rfl

/-! ## Literals -/

theorem readUnsigned?_append (negative : Bool) (text : List Char) (h : Ends tail) :
    readUnsigned? negative (text ++ tail) = before tail (readUnsigned? negative text) := by
  rw [readUnsigned?, readUnsigned?, readWhole?_append text h]
  rcases readWhole? text with _ | ⟨whole, afterWhole⟩
  · rfl
  simp only [before, Option.map_some, Option.bind_eq_bind, Option.bind_some]
  rw [readFraction?_append afterWhole h]
  rcases readFraction? afterWhole with _ | ⟨fraction, afterFraction⟩
  · rfl
  simp only [before, Option.map_some, Option.bind_some]
  rw [readExponent?_append afterFraction h]
  rcases readExponent? afterFraction with _ | ⟨exponent, afterExponent⟩ <;> rfl

theorem readLiteral?_of_ne {text : List Char} (h : text.head? ≠ some '-') :
    readLiteral? text = readUnsigned? false text := by
  unfold readLiteral?
  split
  · simp at h
  · rfl

theorem readLiteral?_append (text : List Char) (h : Ends tail) :
    readLiteral? (text ++ tail) = before tail (readLiteral? text) := by
  by_cases hminus : text.head? = some '-'
  · obtain ⟨rest, rfl⟩ := List.head?_eq_some_iff.mp hminus
    exact readUnsigned?_append true rest h
  · rw [readLiteral?_of_ne hminus, readLiteral?_of_ne (head?_append_ne h rfl hminus),
      readUnsigned?_append false text h]

theorem head?_of_readDigits? {text rest digits : List Char}
    (h : readDigits? text = some (digits, rest)) : ∃ c ∈ text.head?, c.isDigit = true := by
  cases text with
  | nil => contradiction
  | cons c inner =>
    refine ⟨c, rfl, ?_⟩
    by_contra hc
    simp [readDigits?, hc] at h

/-- A literal starts with a digit or a sign. -/
theorem cons_of_literal {text rest : List Char} {l : Literal}
    (h : readLiteral? text = some (l, rest)) :
    ∃ c inner, text = c :: inner ∧ (c = '-' ∨ c.isDigit = true) := by
  have hhead : ∃ c ∈ text.head?, c = '-' ∨ c.isDigit = true := by
    by_cases hminus : text.head? = some '-'
    · exact ⟨'-', hminus, .inl rfl⟩
    by_cases hzero : text.head? = some '0'
    · exact ⟨'0', hzero, .inr rfl⟩
    rw [readLiteral?_of_ne hminus, readUnsigned?, readWhole?_of_ne hzero] at h
    obtain ⟨⟨digits, later⟩, hdigits, -⟩ := Option.bind_eq_some_iff.mp h
    obtain ⟨c, hc, hdigit⟩ := head?_of_readDigits? hdigits
    exact ⟨c, hc, .inr hdigit⟩
  obtain ⟨c, hc, hpart⟩ := hhead
  obtain ⟨inner, rfl⟩ := List.head?_eq_some_iff.mp hc
  exact ⟨c, inner, rfl, hpart⟩

/-! ## Numbers that are written -/

/-- Whether a text is a literal for a datum. -/
def Denotes (text : String) (x : Scalar) : Prop :=
  ∃ l, readLiteral? text.toList = some (l, []) ∧ l.datum = x

/-- Only zero is written with a zero in front. -/
theorem head?_toDigits_ne {n : Nat} (h : 0 < n) : (Nat.toDigits 10 n).head? ≠ some '0' := by
  induction n using Nat.strongRecOn with
  | ind n ih =>
    by_cases hsmall : n < 10
    · rw [Nat.toDigits_of_lt_base hsmall]
      have hall : ∀ m : Fin 10, 0 < m.val → m.val.digitChar ≠ '0' := by decide
      simpa using hall ⟨n, hsmall⟩ h
    · rw [Nat.toDigits_of_base_le (by omega) (by omega), List.head?_append_of_ne_nil _
        Nat.toDigits_ne_nil]
      exact ih (n / 10) (by omega) (by omega)

theorem readDigits?_toDigits (n : Nat) :
    readDigits? (Nat.toDigits 10 n) = some (Nat.toDigits 10 n, []) := by
  have hall : ∀ c ∈ Nat.toDigits 10 n, c.isDigit = true :=
    fun c hc => Nat.isDigit_of_mem_toDigits (by omega) (by omega) hc
  rw [readDigits?, List.takeWhile_eq_self_iff.mpr hall, List.dropWhile_eq_nil_iff.mpr hall]
  split
  · next hnil => exact absurd hnil Nat.toDigits_ne_nil
  · rfl

theorem readLiteral?_toDigits (n : Nat) :
    readLiteral? (Nat.toDigits 10 n) = some (⟨false, Nat.toDigits 10 n, none, none⟩, []) := by
  have hwhole : readWhole? (Nat.toDigits 10 n) = some (Nat.toDigits 10 n, []) := by
    rcases Nat.eq_zero_or_pos n with rfl | hpos
    · rfl
    · rw [readWhole?_of_ne (head?_toDigits_ne hpos), readDigits?_toDigits]
  have hminus : (Nat.toDigits 10 n).head? ≠ some '-' := by
    intro hhead
    have hdigit := Nat.isDigit_of_mem_toDigits (by omega) (by omega) (List.mem_of_head? hhead)
    contradiction
  rw [readLiteral?_of_ne hminus, readUnsigned?, hwhole]
  rfl

theorem datum_toDigits {n : Nat} (h : n < Nat.pow 2 64) :
    (Literal.mk false (Nat.toDigits 10 n) none none).datum = .integer n := by
  have hvalue : ofDigits (Nat.toDigits 10 n) = n := Nat.ofDigitChars_toDigits (by omega) (by omega)
  have hinteger : (Literal.mk false (Nat.toDigits 10 n) none none).integer? = some (n : Int) := by
    simp [Literal.integer?, hvalue, h]
  rw [Literal.datum, hinteger]

theorem denotes_toString {n : Nat} (h : n < Nat.pow 2 64) :
    Denotes (toString (n : Int)) (.integer n) := by
  have htext : (toString (n : Int)).toList = Nat.toDigits 10 n := by
    rw [show toString (n : Int) = toString n from rfl, Nat.toString_eq_ofList_toDigits,
      String.toList_ofList]
  exact ⟨_, htext ▸ readLiteral?_toDigits n, datum_toDigits h⟩

end Worksheet.Json
