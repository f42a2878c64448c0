/-!
Texts as JSON strings. A string may name characters by their code; codes beyond 16 bits come as a
pair of surrogates, and a surrogate without its partner names no character.
-/

namespace Worksheet.Json

def hexValue? (c : Char) : Option Nat :=
  if c.isDigit then some (c.toNat - '0'.toNat)
  else if 'a' ≤ c ∧ c ≤ 'f' then some (c.toNat - 'a'.toNat + 10)
  else if 'A' ≤ c ∧ c ≤ 'F' then some (c.toNat - 'A'.toNat + 10)
  else none

/-- The code written with four hexadecimal digits. -/
def readCode? : List Char → Option (Nat × List Char)
  | a :: b :: c :: d :: rest => do
    let code := ((← hexValue? a) * 16 + (← hexValue? b)) * 16 + (← hexValue? c)
    return (code * 16 + (← hexValue? d), rest)
  | _ => none

/-- The character that a letter behind a backslash stands for. -/
def escaped? : Char → Option Char
  | '"' => some '"'
  | '\\' => some '\\'
  | '/' => some '/'
  | 'b' => some '\x08'
  | 'f' => some '\x0c'
  | 'n' => some '\n'
  | 'r' => some '\r'
  | 't' => some '\t'
  | _ => none

theorem length_lt_of_readCode? {text rest : List Char} {code : Nat}
    (h : readCode? text = some (code, rest)) : rest.length < text.length := by
  unfold readCode? at h
  split at h
  · simp only [Option.bind_eq_bind, Option.bind_eq_some_iff, Option.pure_def, Option.some.injEq,
      Prod.mk.injEq] at h
    obtain ⟨_, _, _, _, _, _, _, _, _, rfl⟩ := h
    simp
    omega
  · simp at h

/-- Reads the codes of a string up to and including the closing quote. -/
def readCodes? (text : List Char) : Option (List Nat × List Char) :=
  match text with
  | [] => none
  | '"' :: rest => some ([], rest)
  | '\\' :: 'u' :: rest =>
    match _h : readCode? rest with
    | some (code, rest) => (readCodes? rest).map fun (codes, rest) => (code :: codes, rest)
    | none => none
  | '\\' :: c :: rest =>
    match escaped? c with
    | some c => (readCodes? rest).map fun (codes, rest) => (c.toNat :: codes, rest)
    | none => none
  | c :: rest =>
    if c.toNat < 0x20 then none
    else (readCodes? rest).map fun (codes, rest) => (c.toNat :: codes, rest)
termination_by text.length
decreasing_by
  all_goals simp only [List.length_cons]
  · have := length_lt_of_readCode? _h
    omega
  all_goals omega

/-- Joins pairs of surrogates. There is no text if one has no partner. -/
def charactersOf? : List Nat → Option (List Char)
  | [] => some []
  | code :: rest =>
    if code < 0xD800 ∨ 0xDFFF < code then (charactersOf? rest).map (Char.ofNat code :: ·)
    else if 0xDC00 ≤ code then none
    else
      match rest with
      | low :: rest =>
        if 0xDC00 ≤ low ∧ low ≤ 0xDFFF then
          let joined := 0x10000 + (code - 0xD800) * 0x400 + (low - 0xDC00)
          (charactersOf? rest).map (Char.ofNat joined :: ·)
        else none
      | [] => none

/-! ## Writing -/

def hexDigit (n : Nat) : Char := Char.ofNat (if n < 10 then '0'.toNat + n else 'a'.toNat + n - 10)

def escape (c : Char) : List Char :=
  if c = '"' then ['\\', '"']
  else if c = '\\' then ['\\', '\\']
  else if c = '\x08' then ['\\', 'b']
  else if c = '\x0c' then ['\\', 'f']
  else if c = '\n' then ['\\', 'n']
  else if c = '\r' then ['\\', 'r']
  else if c = '\t' then ['\\', 't']
  else if c.toNat < 0x20 then
    ['\\', 'u', '0', '0', hexDigit (c.toNat / 16), hexDigit (c.toNat % 16)]
  else [c]

def quote (s : String) : List Char := '"' :: (s.toList.flatMap escape ++ ['"'])

end Worksheet.Json
