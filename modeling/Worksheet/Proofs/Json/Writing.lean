import Worksheet.Json.Reader
import Worksheet.Proofs.Json.Literal
import Worksheet.Proofs.Json.Quoted

/-!
What is written as JSON is read again, on one line or spread over lines: the reader, wherever it
expects a value, takes the text of a tree as the document that the tree is. The one thing that is
asked of the tree is that the literals of its numbers denote these numbers.
-/

namespace Worksheet.Json

variable {s s' after : Reading} {t : Token} {ts : List Token} {text gap rest tail : List Char}
  {d : Document}

/-! ## Tokens -/

theorem tokensUpTo?_of_blank (h : text.dropWhile isBlank = []) (n : Nat) :
    tokensUpTo? n text = some [] := by
  unfold tokensUpTo?
  simp only [h]

theorem tokensUpTo?_zero (h : text.dropWhile isBlank ≠ []) : tokensUpTo? 0 text = none := by
  unfold tokensUpTo?
  split
  · contradiction
  · rfl

theorem tokensUpTo?_succ (h : text.dropWhile isBlank ≠ []) (n : Nat) :
    tokensUpTo? (n + 1) text =
      (Token.read? (text.dropWhile isBlank)).bind fun p => (tokensUpTo? n p.2).map (p.1 :: ·) := by
  conv_lhs => unfold tokensUpTo?
  split
  · contradiction
  · cases Token.read? (text.dropWhile isBlank) with
    | none => rfl
    | some p => cases h : tokensUpTo? n p.2 <;> simp [h]

theorem tokensUpTo?_mono {n m : Nat} (h : tokensUpTo? n text = some ts) (hnm : n ≤ m) :
    tokensUpTo? m text = some ts := by
  by_cases hblank : text.dropWhile isBlank = []
  · rw [tokensUpTo?_of_blank hblank] at h ⊢
    exact h
  induction n generalizing m text ts with
  | zero =>
    rw [tokensUpTo?_zero hblank] at h
    contradiction
  | succ n ih =>
    obtain ⟨m, rfl⟩ : ∃ k, m = k + 1 := ⟨m - 1, by omega⟩
    rw [tokensUpTo?_succ hblank] at h ⊢
    obtain ⟨⟨t, rest⟩, hread, hrest⟩ := Option.bind_eq_some_iff.mp h
    obtain ⟨later, hlater, heq⟩ := Option.map_eq_some_iff.mp hrest
    rw [hread, Option.bind_some]
    refine Option.map_eq_some_iff.mpr ⟨later, ?_, heq⟩
    by_cases hend : rest.dropWhile isBlank = []
    · simpa only [tokensUpTo?_of_blank hend] using hlater
    · exact ih hlater (by omega) hend

/-- What the reader makes of a text that it comes to in some state. -/
def consume (s : Reading) (text : List Char) : Option Reading :=
  (tokens? text).bind (·.foldlM Reading.feed s)

theorem read?_of_consume {text : String} (h : consume {} text.toList = some ⟨.nothing, [], d⟩) :
    read? text = some d := by
  obtain ⟨ts, hts, hfed⟩ := Option.bind_eq_some_iff.mp h
  rw [read?, hts]
  simp [hfed]

/-- Whether a text consists of blanks. -/
def Blank (text : List Char) : Prop := ∀ c ∈ text, isBlank c = true

theorem blank_nil : Blank [] := nofun

theorem blank_space : Blank [' '] := by simp [Blank, isBlank]

theorem blank_newLine (level : Nat) : Blank (newLine level) := by
  intro c hc
  rcases List.mem_cons.mp hc with rfl | hc
  · rfl
  · rw [List.eq_of_mem_replicate hc]
    rfl

/-- Blanks are passed over. -/
theorem consume_blank (hgap : Blank gap) (h : consume s rest = some after) :
    consume s (gap ++ rest) = some after := by
  have hdrop : (gap ++ rest).dropWhile isBlank = rest.dropWhile isBlank :=
    List.dropWhile_append_of_pos hgap
  obtain ⟨ts, hts, hfed⟩ := Option.bind_eq_some_iff.mp h
  have hlexed : tokens? (gap ++ rest) = some ts := by
    have hmore : tokensUpTo? (gap ++ rest).length rest = some ts := tokensUpTo?_mono hts (by simp)
    by_cases hblank : rest.dropWhile isBlank = []
    · rw [tokensUpTo?_of_blank hblank] at hmore
      rw [tokens?, tokensUpTo?_of_blank (hdrop ▸ hblank), hmore]
    · obtain ⟨n, hn⟩ : ∃ n, (gap ++ rest).length = n + 1 := by
        cases hlength : (gap ++ rest).length with
        | zero =>
          rw [hlength, tokensUpTo?_zero hblank] at hmore
          contradiction
        | succ n => exact ⟨n, rfl⟩
      rw [hn, tokensUpTo?_succ hblank] at hmore
      rw [tokens?, hn, tokensUpTo?_succ (hdrop ▸ hblank), hdrop, hmore]
  rw [consume, hlexed]
  exact hfed

/-- A token at the front is fed to the reader. -/
theorem consume_token {c : Char} (hc : isBlank c = false)
    (hread : Token.read? (c :: (text ++ rest)) = some (t, rest)) (hfeed : s.feed t = some s')
    (h : consume s' rest = some after) : consume s (c :: (text ++ rest)) = some after := by
  have hdrop : (c :: (text ++ rest)).dropWhile isBlank = c :: (text ++ rest) := by simp [hc]
  obtain ⟨ts, hts, hfed⟩ := Option.bind_eq_some_iff.mp h
  have hlexed : tokens? (c :: (text ++ rest)) = some (t :: ts) := by
    have hmore : tokensUpTo? (text ++ rest).length rest = some ts := tokensUpTo?_mono hts (by simp)
    rw [tokens?, List.length_cons, tokensUpTo?_succ (by simp [hdrop]), hdrop, hread,
      Option.bind_some, hmore]
    rfl
  rw [consume, hlexed]
  simp [hfeed, hfed]

/-! ## Single data -/

/-- Whether a text is taken as a document wherever a value is expected. -/
def Writes (text : List Char) (d : Document) : Prop :=
  ∀ s rest after, s.expected = .value ∨ s.expected = .itemOrEnd → Ends rest →
    consume (Reading.deliver s.opened d) rest = some after → consume s (text ++ rest) = some after

theorem feed_value (hs : s.expected = .value ∨ s.expected = .itemOrEnd)
    (h : Reading.value s.opened t = some s') : s.feed t = some s' := by
  have ht : t ≠ .closeArray := by
    rintro rfl
    contradiction
  rcases hs with hs | hs
  · rw [Reading.feed, hs]
    exact h
  · rw [Reading.feed, hs]
    simp only [ht, if_false]
    exact h

theorem writes_of_token {c : Char} (hc : isBlank c = false)
    (hread : ∀ rest, Ends rest → Token.read? (c :: (text ++ rest)) = some (t, rest))
    (hvalue : ∀ opened, Reading.value opened t = some (Reading.deliver opened d)) :
    Writes (c :: text) d :=
  fun _ rest _ hs hrest h => consume_token hc (hread rest hrest) (feed_value hs (hvalue _)) h

theorem writes_null : Writes ['n', 'u', 'l', 'l'] (.datum .null) :=
  writes_of_token (by decide) (fun _ _ => rfl) fun _ => rfl

theorem writes_boolean (b : Bool) :
    Writes (if b then "true" else "false").toList (.datum (.boolean b)) := by
  cases b
  · exact writes_of_token (t := .boolean false) (by decide) (fun _ _ => rfl) fun _ => rfl
  · exact writes_of_token (t := .boolean true) (by decide) (fun _ _ => rfl) fun _ => rfl

theorem read?_quote (s : String) (rest : List Char) :
    Token.read? (quote s ++ rest) = some (.string (some s), rest) := by
  have hcodes := readCodes?_flatMap_escape s.toList rest
  rw [quote, List.cons_append, List.append_assoc, List.singleton_append, Token.read?, hcodes]
  simp only [Option.map_some, charactersOf?_map_toNat, String.ofList_toList]

theorem writes_quote (s : String) : Writes (quote s) (.datum (.text s)) :=
  writes_of_token (by decide) (fun rest _ => read?_quote s rest) fun _ => rfl

theorem read?_of_literal {l : Literal} (h : readLiteral? text = some (l, rest)) :
    Token.read? text = some (.number l, rest) := by
  obtain ⟨c, inner, hcons, hc⟩ := cons_of_literal h
  unfold Token.read?
  split
  all_goals first
    | rw [h]; rfl
    | obtain ⟨rfl, -⟩ := List.cons.inj hcons
      exact absurd hc (by decide)

theorem writes_literal {l : Literal} (h : readLiteral? text = some (l, [])) :
    Writes text (.datum l.datum) := by
  obtain ⟨c, inner, rfl, hc⟩ := cons_of_literal h
  have hblank : isBlank c = false := by
    by_contra hblank
    simp only [isBlank, Bool.not_eq_false, Bool.or_eq_true, beq_iff_eq] at hblank
    rcases hblank with ((rfl | rfl) | rfl) | rfl <;> exact absurd hc (by decide)
  refine writes_of_token (t := .number l) hblank (fun rest hrest => ?_) fun _ => rfl
  have hread := readLiteral?_append (c :: inner) hrest
  rw [h] at hread
  exact read?_of_literal hread

/-! ## Containers -/

theorem ends_append (hgap : Blank gap) (h : Ends rest) : Ends (gap ++ rest) := by
  cases gap with
  | nil => exact h
  | cons c gap =>
    have hc := hgap c List.mem_cons_self
    simp only [isBlank, Bool.or_eq_true, beq_iff_eq] at hc
    rw [List.cons_append, ends_cons]
    rcases hc with ((rfl | rfl) | rfl) | rfl <;> rfl

theorem consume_mark {c : Char} (hc : isBlank c = false)
    (hread : Token.read? (c :: rest) = some (t, rest)) (hfeed : s.feed t = some s')
    (h : consume s' rest = some after) : consume s (c :: rest) = some after := by
  have hfront : Token.read? (c :: ([] ++ rest)) = some (t, rest) := hread
  exact consume_token hc hfront hfeed h

@[simp] theorem separated_nil (comma : List Char) : separated comma [] = [] := rfl

@[simp] theorem separated_singleton (comma part : List Char) : separated comma [part] = part := by
  simp [separated]

theorem separated_cons_cons (comma part next : List Char) (parts : List (List Char)) :
    separated comma (part :: next :: parts) =
      part ++ (comma ++ separated comma (next :: parts)) := by
  simp [separated]

/-- The elements of an array that is open. -/
theorem consume_items {parts : List (List Char)} {docs done : List Document}
    {outer : List Container} (hgap : Blank gap)
    (hparts : List.Forall₂ Writes parts docs) (hne : parts ≠ [])
    (hs : s.expected = .value ∨ s.expected = .itemOrEnd) (hopened : s.opened = .array done :: outer)
    (htail : Ends tail)
    (h : consume ⟨.separator, .array (docs.reverse ++ done) :: outer, .null⟩ tail = some after) :
    consume s (separated (',' :: gap) parts ++ tail) = some after := by
  induction hparts generalizing s done with
  | nil => contradiction
  | @cons part doc parts docs hpart hparts ih =>
    cases hparts with
    | nil =>
      rw [separated_singleton]
      refine hpart s tail after hs htail ?_
      rw [hopened]
      exact h
    | @cons next nextDoc parts docs hnext hparts =>
      rw [separated_cons_cons, List.append_assoc, List.append_assoc]
      refine hpart s _ after hs (ends_cons.mpr rfl) ?_
      rw [hopened]
      refine consume_mark (t := .comma) rfl rfl rfl ?_
      refine consume_blank hgap (ih (by simp) (.inl rfl) rfl ?_)
      simpa using h

/-- Parts in brackets are an array. -/
theorem writes_array {parts : List (List Char)} {docs : List Document} {opening closing : List Char}
    (hopening : Blank opening) (hgap : Blank gap)
    (hclosing : Blank closing) (hparts : List.Forall₂ Writes parts docs) :
    Writes ('[' :: (opening ++ (separated (',' :: gap) parts ++ (closing ++ [']']))))
      (.list docs) := by
  intro s rest after hs _ h
  simp only [List.cons_append, List.append_assoc, List.nil_append]
  refine consume_mark (t := .openArray) rfl rfl (feed_value hs rfl) (consume_blank hopening ?_)
  cases hparts with
  | nil =>
    rw [separated_nil, List.nil_append]
    exact consume_blank hclosing (consume_mark (t := .closeArray) rfl rfl rfl h)
  | cons hpart hparts =>
    refine consume_items hgap (.cons hpart hparts) (by simp) (.inr rfl) rfl ?_ ?_
    · exact ends_append hclosing (ends_cons.mpr rfl)
    · refine consume_blank hclosing (consume_mark (t := .closeArray) rfl rfl ?_ h)
      simp [Reading.feed, Reading.close]

/-- Whether a text is a name and the text of a value with a colon between them. -/
def WritesMember (text : List Char) (e : String × Document) : Prop :=
  ∃ gap inner, text = quote e.1 ++ ':' :: (gap ++ inner) ∧ (Blank gap) ∧
    Writes inner e.2

theorem consume_member {e : String × Document} {done : List (Option String × Document)}
    {outer : List Container} (hpart : WritesMember text e)
    (hs : s.expected = .name ∨ s.expected = .nameOrEnd)
    (hopened : s.opened = .object done none :: outer) (htail : Ends tail)
    (h : consume ⟨.separator, .object ((some e.1, e.2) :: done) none :: outer, .null⟩ tail =
      some after) :
    consume s (text ++ tail) = some after := by
  obtain ⟨gap, inner, rfl, hgap, hinner⟩ := hpart
  have hfeed : s.feed (.string (some e.1)) =
      some ⟨.colon, .object done (some e.1) :: outer, .null⟩ := by
    rcases hs with hs | hs <;> simp [Reading.feed, hs, hopened, Reading.member]
  rw [List.append_assoc, List.cons_append, List.append_assoc]
  refine consume_token (by decide) (read?_quote e.1 _) hfeed ?_
  refine consume_mark (t := .colon) rfl rfl rfl (consume_blank hgap ?_)
  exact hinner _ _ _ (.inl rfl) htail h

/-- The members of an object that is open. -/
theorem consume_members {parts : List (List Char)} {entries : List (String × Document)}
    {done : List (Option String × Document)} {outer : List Container}
    (hgap : Blank gap) (hparts : List.Forall₂ WritesMember parts entries)
    (hne : parts ≠ []) (hs : s.expected = .name ∨ s.expected = .nameOrEnd)
    (hopened : s.opened = .object done none :: outer) (htail : Ends tail)
    (h : consume ⟨.separator,
        .object ((entries.map fun e => (some e.1, e.2)).reverse ++ done) none :: outer,
        .null⟩ tail = some after) :
    consume s (separated (',' :: gap) parts ++ tail) = some after := by
  induction hparts generalizing s done with
  | nil => contradiction
  | @cons part e parts entries hpart hparts ih =>
    cases hparts with
    | nil =>
      rw [separated_singleton]
      exact consume_member hpart hs hopened htail h
    | @cons next e' parts entries hnext hparts =>
      rw [separated_cons_cons, List.append_assoc, List.append_assoc]
      refine consume_member hpart hs hopened (ends_cons.mpr rfl) ?_
      refine consume_mark (t := .comma) rfl rfl rfl ?_
      refine consume_blank hgap (ih (by simp) (.inl rfl) rfl ?_)
      simpa using h

theorem tableOf_named (entries : List (String × Document)) :
    tableOf (entries.map fun e => (some e.1, e.2)) = .table entries := by
  have hnamed : (entries.map fun e => (some e.1, e.2)).mapM
      (fun (p : Option String × Document) => p.1.map fun name => (name, p.2)) = some entries := by
    induction entries with
    | nil => rfl
    | cons e rest ih => simp [ih]
  rw [tableOf]
  simp only [hnamed]

/-- Members in braces are an object. -/
theorem writes_object {parts : List (List Char)} {entries : List (String × Document)}
    {opening closing : List Char} (hopening : Blank opening)
    (hgap : Blank gap) (hclosing : Blank closing)
    (hparts : List.Forall₂ WritesMember parts entries) :
    Writes ('\x7b' :: (opening ++ (separated (',' :: gap) parts ++ (closing ++ ['\x7d']))))
      (.table entries) := by
  intro s rest after hs _ h
  simp only [List.cons_append, List.append_assoc, List.nil_append]
  refine consume_mark (t := .openObject) rfl rfl (feed_value hs rfl) (consume_blank hopening ?_)
  cases hparts with
  | nil =>
    rw [separated_nil, List.nil_append]
    exact consume_blank hclosing (consume_mark (t := .closeObject) rfl rfl rfl h)
  | cons hpart hparts =>
    refine consume_members hgap (.cons hpart hparts) (by simp) (.inr rfl) rfl ?_ ?_
    · exact ends_append hclosing (ends_cons.mpr rfl)
    · refine consume_blank hclosing (consume_mark (t := .closeObject) rfl rfl ?_ h)
      simp only [Reading.feed, Reading.close, List.append_nil, List.reverse_reverse, tableOf_named]
      rfl

/-! ## Trees -/

mutual

/-- Whether the literals that are written for the numbers of a tree denote these numbers. -/
def Legible : Json → Prop
  | integer n => Denotes (toString n) (.integer n)
  | real x => Denotes (numberLayout.text x) (.real x)
  | array items => LegibleItems items
  | object members => LegibleMembers members
  | _ => True

def LegibleItems : List Json → Prop
  | [] => True
  | j :: rest => j.Legible ∧ LegibleItems rest

def LegibleMembers : List (String × Json) → Prop
  | [] => True
  | (_, j) :: rest => j.Legible ∧ LegibleMembers rest

end

theorem legibleItems_iff {items : List Json} :
    LegibleItems items ↔ ∀ j ∈ items, j.Legible := by
  induction items with
  | nil => simp [LegibleItems]
  | cons j rest ih => simp [LegibleItems, ih]

theorem legibleMembers_iff {members : List (String × Json)} :
    LegibleMembers members ↔ ∀ e ∈ members, e.2.Legible := by
  induction members with
  | nil => simp [LegibleMembers]
  | cons e rest ih => simp [LegibleMembers, ih]

theorem writes_of_denotes {text : String} {x : Scalar} (h : Denotes text x) :
    Writes text.toList (.datum x) := by
  obtain ⟨l, hread, rfl⟩ := h
  exact writes_literal hread

mutual

theorem writes_write : ∀ j : Json, j.Legible → Writes j.write j.toDocument
  | null, _ => writes_null
  | boolean b, _ => writes_boolean b
  | integer _, h => writes_of_denotes h
  | real _, h => writes_of_denotes h
  | string s, _ => writes_quote s
  | array items, h =>
    writes_array blank_nil blank_nil blank_nil (writes_writeItems items h)
  | object members, h =>
    writes_object blank_nil blank_nil blank_nil (writes_writeMembers members h)

theorem writes_writeItems : ∀ items : List Json, LegibleItems items →
    List.Forall₂ Writes (writeItems items) (documentsOfItems items)
  | [], _ => .nil
  | j :: rest, h => .cons (writes_write j h.1) (writes_writeItems rest h.2)

theorem writes_writeMembers : ∀ members : List (String × Json), LegibleMembers members →
    List.Forall₂ WritesMember (writeMembers members) (documentsOfMembers members)
  | [], _ => .nil
  | (_, j) :: rest, h =>
    .cons ⟨[], j.write, rfl, blank_nil, writes_write j h.1⟩ (writes_writeMembers rest h.2)

end

theorem writes_enclosed_array {parts : List (List Char)} {docs : List Document} (level : Nat)
    (hparts : List.Forall₂ Writes parts docs) :
    Writes (enclosed '[' ']' level parts) (.list docs) := by
  unfold enclosed
  split
  · next hempty =>
    obtain rfl := List.isEmpty_iff.mp hempty
    exact writes_array blank_nil blank_nil blank_nil hparts
  · simpa only [List.append_assoc] using writes_array (blank_newLine (level + 1))
      (blank_newLine (level + 1)) (blank_newLine level) hparts

theorem writes_enclosed_object {parts : List (List Char)} {entries : List (String × Document)}
    (level : Nat) (hparts : List.Forall₂ WritesMember parts entries) :
    Writes (enclosed '\x7b' '\x7d' level parts) (.table entries) := by
  unfold enclosed
  split
  · next hempty =>
    obtain rfl := List.isEmpty_iff.mp hempty
    exact writes_object blank_nil blank_nil blank_nil hparts
  · simpa only [List.append_assoc] using writes_object (blank_newLine (level + 1))
      (blank_newLine (level + 1)) (blank_newLine level) hparts

mutual

theorem writes_spread (level : Nat) : ∀ j : Json, j.Legible → Writes (j.spread level) j.toDocument
  | null, h => writes_write null h
  | boolean b, h => writes_write (boolean b) h
  | integer n, h => writes_write (integer n) h
  | real x, h => writes_write (real x) h
  | string s, h => writes_write (string s) h
  | array items, h => writes_enclosed_array level (writes_spreadItems (level + 1) items h)
  | object members, h => writes_enclosed_object level (writes_spreadMembers (level + 1) members h)

theorem writes_spreadItems (level : Nat) : ∀ items : List Json, LegibleItems items →
    List.Forall₂ Writes (spreadItems level items) (documentsOfItems items)
  | [], _ => .nil
  | j :: rest, h => .cons (writes_spread level j h.1) (writes_spreadItems level rest h.2)

theorem writes_spreadMembers (level : Nat) : ∀ members : List (String × Json),
    LegibleMembers members →
    List.Forall₂ WritesMember (spreadMembers level members) (documentsOfMembers members)
  | [], _ => .nil
  | (_, j) :: rest, h =>
    .cons ⟨[' '], j.spread level, rfl, blank_space, writes_spread level j h.1⟩
      (writes_spreadMembers level rest h.2)

end

/-! ## Whole texts -/

/-- A text that is taken as a document, with blanks behind it, is read as the document. -/
theorem Writes.read? (h : Writes text d) (hgap : Blank gap) :
    Json.read? (String.ofList (text ++ gap)) = some d := by
  refine read?_of_consume ?_
  rw [String.toList_ofList]
  refine h {} gap _ (.inl rfl) ?_ ?_
  · simpa using ends_append hgap ends_nil
  · have hend : consume (Reading.deliver [] d) [] = some ⟨.nothing, [], d⟩ := rfl
    simpa using consume_blank hgap hend

theorem read?_compact {j : Json} (h : j.Legible) : read? j.compact = some j.toDocument := by
  have hread := (writes_write j h).read? blank_nil
  rwa [List.append_nil] at hread

theorem read?_pretty {j : Json} (h : j.Legible) : read? j.pretty = some j.toDocument := by
  have hread := (writes_spread 0 j h).read? blank_nil
  rwa [List.append_nil] at hread

end Worksheet.Json
