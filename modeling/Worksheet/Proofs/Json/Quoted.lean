import Worksheet.Json.Quoted

/-!
A text written as a string is read as the text, whatever follows behind the closing quote.
-/

namespace Worksheet.Json

theorem hexValue?_hexDigit {n : Nat} (h : n < 16) : hexValue? (hexDigit n) = some n := by
  have hall : ∀ m : Fin 16, hexValue? (hexDigit m) = some m.val := by decide
  exact hall ⟨n, h⟩

theorem readCode?_of_lt {n : Nat} (h : n < 0x20) (text : List Char) :
    readCode? ('0' :: '0' :: hexDigit (n / 16) :: hexDigit (n % 16) :: text) = some (n, text) := by
  have hzero : hexValue? '0' = some 0 := rfl
  have hhigh : hexValue? (hexDigit (n / 16)) = some (n / 16) := hexValue?_hexDigit (by omega)
  have hlow : hexValue? (hexDigit (n % 16)) = some (n % 16) := hexValue?_hexDigit (by omega)
  rw [readCode?, hzero, hhigh, hlow]
  have hcode : n / 16 * 16 + n % 16 = n := by omega
  simp [hcode]

theorem readCodes?_letter {letter c : Char} (h : escaped? letter = some c) (text : List Char) :
    readCodes? ('\\' :: letter :: text) =
      (readCodes? text).map fun (codes, rest) => (c.toNat :: codes, rest) := by
  have hu : letter ≠ 'u' := by
    rintro rfl
    contradiction
  rw [readCodes?, h]
  exact hu

/-- A character is written as a letter behind a backslash, by its code, or as it is. -/
theorem escape_cases (c : Char) :
    (∃ letter, escaped? letter = some c ∧ escape c = ['\\', letter]) ∨
    (c.toNat < 0x20 ∧
      escape c = ['\\', 'u', '0', '0', hexDigit (c.toNat / 16), hexDigit (c.toNat % 16)]) ∨
    (c ≠ '"' ∧ c ≠ '\\' ∧ ¬c.toNat < 0x20 ∧ escape c = [c]) := by
  by_cases hletter : c ∈ ['"', '\\', '\x08', '\x0c', '\n', '\r', '\t']
  · left
    simp only [List.mem_cons, List.not_mem_nil, or_false] at hletter
    rcases hletter with rfl | rfl | rfl | rfl | rfl | rfl | rfl
    all_goals
      refine ⟨_, ?_, rfl⟩
      rfl
  · right
    simp only [List.mem_cons, List.not_mem_nil, or_false, not_or] at hletter
    obtain ⟨hquote, hbackslash, hb, hf, hn, hr, ht⟩ := hletter
    have hescape : escape c = if c.toNat < 0x20 then
        ['\\', 'u', '0', '0', hexDigit (c.toNat / 16), hexDigit (c.toNat % 16)] else [c] := by
      rw [escape, if_neg hquote, if_neg hbackslash, if_neg hb, if_neg hf, if_neg hn, if_neg hr,
        if_neg ht]
    by_cases hcode : c.toNat < 0x20
    · exact .inl ⟨hcode, by rw [hescape, if_pos hcode]⟩
    · exact .inr ⟨hquote, hbackslash, hcode, by rw [hescape, if_neg hcode]⟩

/-- An escaped character is read as its code. -/
theorem readCodes?_escape (c : Char) (text : List Char) :
    readCodes? (escape c ++ text) =
      (readCodes? text).map fun (codes, rest) => (c.toNat :: codes, rest) := by
  rcases escape_cases c with
    ⟨letter, hletter, heq⟩ | ⟨hcode, heq⟩ | ⟨hquote, hbackslash, hcode, heq⟩
  · rw [heq]
    exact readCodes?_letter hletter text
  · have hread := readCode?_of_lt hcode text
    rw [heq]
    simp only [List.cons_append, List.nil_append]
    rw [readCodes?]
    split
    · next h =>
      rw [hread] at h
      obtain ⟨rfl, rfl⟩ := Prod.mk.inj (Option.some.inj h)
      rfl
    · next h =>
      rw [hread] at h
      contradiction
  · rw [heq, List.singleton_append, readCodes?, if_neg hcode]
    · exact hquote
    · exact fun rest h _ => hbackslash h
    · exact fun _ _ h _ => hbackslash h

theorem readCodes?_flatMap_escape (s text : List Char) :
    readCodes? (s.flatMap escape ++ '"' :: text) = some (s.map Char.toNat, text) := by
  induction s with
  | nil => simp [readCodes?]
  | cons c rest ih =>
    rw [List.flatMap_cons, List.append_assoc, readCodes?_escape, ih]
    rfl

/-- No character is a surrogate. -/
theorem charactersOf?_map_toNat (s : List Char) : charactersOf? (s.map Char.toNat) = some s := by
  induction s with
  | nil => rfl
  | cons c rest ih =>
    have hvalid : c.toNat < 0xD800 ∨ 0xDFFF < c.toNat := Or.imp_right And.left c.valid
    rw [List.map_cons, charactersOf?.eq_def]
    simp only []
    rw [if_pos hvalid, ih, Char.ofNat_toNat]
    rfl

end Worksheet.Json
