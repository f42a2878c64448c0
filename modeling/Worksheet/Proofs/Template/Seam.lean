import Worksheet.Proofs.Template.Depth
import Worksheet.Proofs.Template.Tokenization

/-!
Two templates side by side. If no marker straddles the seam, the lexemes of the whole are those of
the parts, with the literals at the seam merged to one. So nothing that is read of the first part
depends on what follows it: an error at one of its markers stays where it is, and two bodies that
are parsed alone are parsed side by side.
-/

namespace Worksheet

/-! ## The seam -/

/-- No marker of two texts side by side starts in the first and ends in the second. -/
def Seamless (first second : String) : Prop :=
  ∀ o : Occurrence (first ++ second).toList, o.stop ≤ first.length ∨ first.length ≤ o.start

variable {first second : String}

theorem seamless_iff :
    Seamless first second ↔ ∀ k < first.length,
      ∀ read ∈ Marker.read? ((first ++ second).toList.drop k), second.length ≤ read.2.length := by
  have hlen : (first ++ second).toList.length = first.length + second.length := by
    rw [String.toList_append, List.length_append, String.length_toList, String.length_toList]
  constructor
  · rintro h k hk ⟨m, rest⟩ hread
    obtain ⟨hm, hdrop⟩ := Marker.read?_eq_some_iff.mp hread
    have htext : (first ++ second).toList =
        (first ++ second).toList.take k ++ (m.spell ++ rest) := by
      rw [← hdrop, List.take_append_drop]
    let o := Occurrence.ofSpell hm htext
    have hstart : o.start = k := by
      change ((first ++ second).toList.take k).length = k
      rw [List.length_take]
      omega
    have hstop : o.stop = k + m.spell.length := by rw [o.stop_eq, hstart]; rfl
    have hall := congrArg List.length hdrop
    rw [List.length_drop, List.length_append] at hall
    have hseam := h o
    change second.length ≤ rest.length
    omega
  · intro h o
    by_cases hstart : o.start < first.length
    · left
      have hdrop : (first ++ second).toList.drop o.start = o.marker.spell ++ o.after :=
        (congrArg (List.drop o.start) o.text_eq_spell).trans List.drop_left
      have hread : Marker.read? ((first ++ second).toList.drop o.start) =
          some (o.marker, o.after) := Marker.read?_eq_some_iff.mpr ⟨o.wellFormed, hdrop⟩
      have hle : second.length ≤ o.after.length := h o.start hstart _ hread
      have hall := congrArg List.length o.text_eq_spell
      rw [List.length_append, List.length_append] at hall
      rw [o.stop_eq]
      unfold Occurrence.start at *
      omega
    · exact .inr (Nat.le_of_not_lt hstart)

instance : Decidable (Seamless first second) := decidable_of_iff _ seamless_iff.symm

/-- What stands at both sides of the seam holds no marker as a whole. -/
theorem Seamless.markerFree {before after : List Char} {t u : String} (h : Seamless first second)
    (hfirst : first.toList = before ++ t.toList) (hsecond : second.toList = u.toList ++ after)
    (ht : MarkerFree t.toList) (hu : MarkerFree u.toList) : MarkerFree (t ++ u).toList := by
  rw [markerFree_iff] at ht hu ⊢
  rintro m hm ⟨l, r, hlr⟩
  rw [String.toList_append, List.append_assoc] at hlr
  have htext : (first ++ second).toList = (before ++ l) ++ (m.spell ++ (r ++ after)) := by
    rw [String.toList_append, hfirst, hsecond, List.append_assoc, ← List.append_assoc t.toList,
      ← hlr]
    simp only [List.append_assoc]
  let o := Occurrence.ofSpell hm htext
  have hstart : o.start = before.length + l.length := List.length_append
  have hstop : o.stop = o.start + m.spell.length := o.stop_eq
  have hseam : first.length = before.length + t.length := by
    rw [← String.length_toList, hfirst, List.length_append, String.length_toList]
  rcases h o with hin | hout
  · -- it would lie within the first side
    have hle : (l ++ m.spell).length ≤ t.toList.length := by
      rw [List.length_append, String.length_toList]
      omega
    have hp : l ++ m.spell <+: t.toList :=
      List.prefix_of_prefix_length_le ⟨r, by rw [List.append_assoc, hlr]⟩
        (List.prefix_append _ _) hle
    exact ht m hm ((List.suffix_append l m.spell).isInfix.trans hp.isInfix)
  · -- it would lie within the second side
    have hle : t.toList.length ≤ l.length := by
      rw [String.length_toList]
      omega
    obtain ⟨l', rfl⟩ := List.prefix_of_prefix_length_le (List.prefix_append t.toList u.toList)
      ⟨m.spell ++ r, hlr⟩ hle
    rw [List.append_assoc] at hlr
    have hu' : u.toList = l' ++ (m.spell ++ r) := (List.append_cancel_left hlr).symm
    exact hu m hm ⟨l', r, by rw [hu', List.append_assoc]⟩

/-! ## Lexemes side by side -/

namespace Lexeme

/-- The first two sequences one after the other, where the literals at the seam may be merged. -/
inductive Joins : List Lexeme → List Lexeme → List Lexeme → Prop
  | apart {xs ys : List Lexeme} : Joins xs ys (xs ++ ys)
  | merged {xs ys : List Lexeme} {t u : String} :
    Joins (xs ++ [literal t]) (literal u :: ys) (xs ++ literal (t ++ u) :: ys)

/-- Another literal between the same neighbours. -/
theorem separated_merged {xs ys : List Lexeme} {t u v : String}
    (hxs : Separated (xs ++ [literal t])) (hys : Separated (literal u :: ys)) (hv : v ≠ "")
    (hfree : MarkerFree v.toList) : Separated (xs ++ literal v :: ys) := by
  induction xs with
  | nil => exact ⟨hv, hfree, hys.2.2⟩
  | cons x xs ih =>
    cases x with
    | marker m => exact ⟨hxs.1, ih hxs.2⟩
    | literal w =>
      obtain ⟨hne, hfree', hhead, hrest⟩ := hxs
      refine ⟨hne, hfree', ?_, ih hrest⟩
      cases xs with
      | nil => exact absurd rfl (hhead t)
      | cons x' xs => exact hhead

/-- The lexemes of the whole are those of the parts, but for two literals at the seam. -/
theorem joins_scan (h : Seamless first second) :
    Joins (scan [] first.toList) (scan [] second.toList) (scan [] (first ++ second).toList) := by
  obtain ⟨hxs, hfirst⟩ := scan_eq_iff.mp (Eq.refl (scan [] first.toList))
  obtain ⟨hys, hsecond⟩ := scan_eq_iff.mp (Eq.refl (scan [] second.toList))
  generalize scan [] first.toList = xs at *
  generalize scan [] second.toList = ys at *
  have hapart (hsep : Separated (xs ++ ys)) :
      Joins xs ys (scan [] (first ++ second).toList) := by
    have hspell : (xs ++ ys).flatMap spell = (first ++ second).toList := by
      rw [List.flatMap_append, hfirst, hsecond, String.toList_append]
    rw [scan_eq_iff.mpr ⟨hsep, hspell⟩]
    exact .apart
  rcases List.eq_nil_or_concat xs with rfl | ⟨xs, x, rfl⟩
  · exact hapart hys
  rw [List.concat_eq_append] at *
  cases x with
  | marker m =>
    apply hapart
    obtain ⟨hbefore, hm, -⟩ := separated_append_marker_iff.mp hxs
    rw [List.append_assoc]
    exact separated_append_marker_iff.mpr ⟨hbefore, hm, hys⟩
  | literal t =>
    cases ys with
    | nil => exact hapart (by rwa [List.append_nil])
    | cons y ys =>
      cases y with
      | marker m => exact hapart (separated_append_marker_iff.mpr ⟨hxs, hys⟩)
      | literal u =>
        rw [List.flatMap_append, List.flatMap_singleton] at hfirst
        rw [List.flatMap_cons] at hsecond
        have ht := hxs.of_append
        have hne : t ++ u ≠ "" := by simp [ht.1]
        have hfree := h.markerFree hfirst.symm hsecond.symm ht.2.1 hys.2.1
        have hspell : (xs ++ literal (t ++ u) :: ys).flatMap spell =
            (first ++ second).toList := by
          rw [flatMap_spell_eq, String.toList_append, ← hfirst, ← hsecond, spell, spell, spell,
            String.toList_append]
          simp only [List.append_assoc]
        rw [scan_eq_iff.mpr ⟨separated_merged hxs hys hne hfree, hspell⟩]
        exact .merged

end Lexeme

/-! ## Bodies side by side -/

namespace Body

open Matching

/-- The parts of the first two bodies, where the literals at the seam may be merged. -/
inductive Joins : Body → Body → Body → Prop
  | apart {a b : Body} : Joins a b (a ++ b)
  | merged {a b : Body} {t u : String} :
    Joins (a ++ literal t empty) (literal u b) (a ++ literal (t ++ u) b)

variable {limit : Nat} {a b c : Body}

theorem Joins.depth_eq (h : Joins a b c) : c.depth = max a.depth b.depth := by
  cases h with
  | apart => exact depth_append a b
  | merged => simp [depth_append, depth]

theorem exists_joins {xs : List Lexeme} (h : Lexeme.Joins a.lexemes b.lexemes xs) :
    ∃ c, c.lexemes = xs ∧ Joins a b c := by
  generalize hxs : a.lexemes = xs' at h
  generalize hys : b.lexemes = ys' at h
  cases h with
  | apart => exact ⟨a ++ b, by rw [lexemes_append, hxs, hys], .apart⟩
  | merged =>
    obtain ⟨before, hbefore, rfl⟩ := exists_of_lexemes_concat hxs
    cases b with
    | literal u rest =>
      obtain ⟨hu, hrest⟩ := List.cons.inj hys
      obtain rfl := Lexeme.literal.inj hu
      exact ⟨_, by rw [lexemes_append, hbefore, lexemes, hrest], .merged⟩
    | empty | reference | block => simp [lexemes] at hys

/-- Bodies that are parsed alone are parsed side by side. -/
theorem exists_joins_parse (h : Seamless first second) (ha : parse limit first = .ok a)
    (hb : parse limit second = .ok b) :
    ∃ c, parse limit (first ++ second) = .ok c ∧ Joins a b c := by
  obtain ⟨hfirst, hdepth⟩ := ofTokens_eq_ok_iff.mp ha
  obtain ⟨hsecond, hdepth'⟩ := ofTokens_eq_ok_iff.mp hb
  have hjoins := Lexeme.joins_scan h
  rw [← map_lexeme_tokenize, ← map_lexeme_tokenize second, ← hfirst, ← hsecond] at hjoins
  obtain ⟨c, hc, hjoin⟩ := exists_joins hjoins
  refine ⟨c, ofTokens_eq_ok_iff.mpr ⟨?_, ?_⟩, hjoin⟩
  · rw [Flattens, hc, map_lexeme_tokenize]
  · rw [hjoin.depth_eq]
    exact Nat.max_le.mpr ⟨hdepth, hdepth'⟩

/-- An error at a marker of the first part is the same for the whole. -/
theorem parse_append_error {e : SyntaxError} (h : Seamless first second)
    (hparse : parse limit first = .error e) (he : ∀ kind name p, e ≠ .unclosedBlock kind name p) :
    parse limit (first ++ second) = .error e := by
  have hrun := run_of_ofTokens_error hparse he
  apply ofTokens_of_run_error
  have hjoins := Lexeme.joins_scan h
  unfold tokenize at hrun ⊢
  generalize Lexeme.scan [] first.toList = xs at hjoins hrun
  generalize Lexeme.scan [] second.toList = ys at hjoins
  generalize Lexeme.scan [] (first ++ second).toList = zs at hjoins
  cases hjoins with
  | apart =>
    rw [Token.place_append]
    exact run_append_error hrun
  | merged =>
    rw [Token.place_append] at hrun ⊢
    -- the literal before the seam is taken, so the error is before it
    exact run_append_error (run_of_run_concat_literal rfl hrun)

end Body

end Worksheet
