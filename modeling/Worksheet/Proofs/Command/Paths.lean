import Mathlib.Data.List.Basic
import Worksheet.Files

/-!
Where paths lead. A file keeps the directories around it, so a path without a step up that leads to
a file can be followed from the start. A path that can be written to leads to the file afterwards,
and reading it gives what was written.
-/

namespace Worksheet.Files

variable {f g : Files} {l l' : Location} {path s : String} {parts : List String}

/-! ## Directories -/

theorem isDirectory_iff :
    f.isDirectory l = true ↔
      l <+: f.here ∨ (∃ m ∈ f.directories, l <+: m) ∨
        ∃ e ∈ f.contents, e.1.length ≠ l.length ∧ l <+: e.1 := by
  simp [isDirectory, or_assoc]

theorem isFile_iff : f.isFile l = true ↔ ∃ e ∈ f.contents, e.1 = l := by
  rw [isFile, content?]
  induction f.contents with
  | nil => simp
  | cons e rest ih =>
    rw [List.lookup_cons]
    by_cases h : l = e.1
    · simp [h]
    · rw [beq_eq_false_iff_ne.mpr h, ih]
      simp [Ne.symm h]

/-- There is a directory at each location above a file. -/
theorem isDirectory_of_isFile {part : String} (h : f.isFile (l ++ part :: parts) = true) :
    f.isDirectory l = true := by
  obtain ⟨e, he, hl⟩ := isFile_iff.mp h
  refine isDirectory_iff.mpr (.inr (.inr ⟨e, he, ?_, ?_⟩)) <;> rw [hl]
  · simp
  · exact List.prefix_append l _

/-- Writing a text to a file removes no directory. -/
theorem isDirectory_withText (h : f.isDirectory l = true) :
    (f.withText l' s).isDirectory l = true := by
  rcases isDirectory_iff.mp h with hhere | hmade | ⟨e, he, hlength, hprefix⟩
  · exact isDirectory_iff.mpr (.inl hhere)
  · exact isDirectory_iff.mpr (.inr (.inl hmade))
  · refine isDirectory_iff.mpr (.inr (.inr ?_))
    by_cases hl : e.1 = l'
    · exact ⟨(l', .text s), List.mem_cons_self, hl ▸ hlength, hl ▸ hprefix⟩
    · exact ⟨e, List.mem_cons_of_mem _ (List.mem_filter.mpr ⟨he, by simpa using hl⟩), hlength,
        hprefix⟩

theorem isDirectory_withDirectory (h : f.isDirectory l = true) :
    (f.withDirectory l').isDirectory l = true := by
  rcases isDirectory_iff.mp h with hhere | ⟨m, hm, hprefix⟩ | hholds
  · exact isDirectory_iff.mpr (.inl hhere)
  · exact isDirectory_iff.mpr (.inr (.inl ⟨m, List.mem_cons_of_mem _ hm, hprefix⟩))
  · exact isDirectory_iff.mpr (.inr (.inr hholds))

/-! ## Walks -/

theorem walk_mono (hfg : ∀ m, f.isDirectory m = true → g.isDirectory m = true)
    (h : f.walk l parts = .ok l') : g.walk l parts = .ok l' := by
  induction parts generalizing l with
  | nil => exact h
  | cons part rest ih =>
    rw [walk] at h ⊢
    split at h
    · next hl =>
      rw [if_pos (hfg l hl)]
      exact ih h
    · contradiction

/-- What a path leads to stays when directories are added. -/
theorem locate_mono (hhere : g.here = f.here)
    (hfg : ∀ m, f.isDirectory m = true → g.isDirectory m = true) (h : f.locate path = .ok l) :
    g.locate path = .ok l := by
  have hstart : g.start path = f.start path := by rw [start, start, hhere]
  rw [locate] at h ⊢
  split at h
  · contradiction
  · next hempty =>
    rw [if_neg hempty, hstart]
    cases hwalk : f.walk (f.start path) (Path.parts path) with
    | error e =>
      rw [hwalk] at h
      contradiction
    | ok m =>
      rw [hwalk] at h
      rw [walk_mono hfg hwalk]
      simp only [bind, Except.bind] at h ⊢
      cases hdir : f.isDirectory m with
      | true => simpa [hdir, hfg m hdir] using h
      | false =>
        cases hopen : Path.isOpen path with
        | true => simp [hopen, hdir, throw, throwThe] at h
        | false => simpa [hopen] using h

theorem walk_concat (name : String) (h : f.walk l parts = .ok l')
    (hl : f.isDirectory l' = true) : f.walk l (parts ++ [name]) = .ok (step l' name) := by
  induction parts generalizing l with
  | nil =>
    obtain rfl := Except.ok.inj h
    rw [List.nil_append, walk, if_pos hl, walk]
  | cons part rest ih =>
    rw [List.cons_append, walk] at *
    split at h
    · next hdir =>
      rw [if_pos hdir]
      exact ih h
    · contradiction

theorem step_of_ne {part : String} (h : part ≠ "..") : step l part = l ++ [part] := if_neg h

/-- A walk without a step up ends below its start. -/
theorem eq_append_of_walk (h : f.walk l parts = .ok l') (hup : ".." ∉ parts) : l' = l ++ parts := by
  induction parts generalizing l with
  | nil =>
    obtain rfl := Except.ok.inj h
    simp
  | cons part rest ih =>
    rw [List.mem_cons, not_or] at hup
    rw [walk] at h
    split at h
    · rw [ih h hup.2, step_of_ne (Ne.symm hup.1), List.append_assoc]
      rfl
    · contradiction

theorem walk_of_isFile (h : f.isFile (l ++ parts) = true) (hup : ".." ∉ parts) :
    f.walk l parts = .ok (l ++ parts) := by
  induction parts generalizing l with
  | nil => simp [walk]
  | cons part rest ih =>
    rw [List.mem_cons, not_or] at hup
    rw [walk, if_pos (isDirectory_of_isFile h), step_of_ne (Ne.symm hup.1)]
    have hnext : l ++ part :: rest = (l ++ [part]) ++ rest := by simp
    rw [hnext] at h ⊢
    exact ih h hup.2

/-! ## Writing by way of a path -/

theorem parts_of_endName? {name : String} (h : Path.endName? path = some name) :
    (Path.parts path).dropLast ++ [name] = Path.parts path ∧ name ≠ ".." := by
  rw [Path.endName?] at h
  split at h
  · contradiction
  · obtain ⟨hlast, hname⟩ := Option.filter_eq_some_iff.mp h
    exact ⟨List.dropLast_append_getLast? name hlast, by simpa using hname⟩

/-- What it takes to write to a location by way of a path. -/
theorem target_cases (h : f.target path = .ok l) :
    ∃ inner name around, Path.parts path = inner ++ [name] ∧ name ≠ ".." ∧
      Path.isOpen path = false ∧ f.walk (f.start path) inner = .ok around ∧
      f.isDirectory around = true ∧ l = around ++ [name] := by
  rw [target] at h
  split at h
  · next name hend =>
    obtain ⟨hparts, hname⟩ := parts_of_endName? hend
    cases haround : f.walk (f.start path) (Path.parts path).dropLast with
    | error e =>
      rw [haround] at h
      contradiction
    | ok around =>
      simp only [haround, bind, Except.bind] at h
      cases hdir : f.isDirectory around with
      | false =>
        rw [hdir] at h
        contradiction
      | true =>
        rw [hdir] at h
        simp only [Bool.not_true, Bool.false_eq_true, if_false] at h
        split at h
        · contradiction
        · next hfree =>
          rw [Bool.or_eq_true, not_or, Bool.not_eq_true] at hfree
          exact ⟨_, name, around, hparts.symm, hname, hfree.1, haround, hdir,
            (Except.ok.inj h).symm⟩
  · cases hlocate : f.locate path with
    | error e =>
      rw [hlocate] at h
      contradiction
    | ok around =>
      rw [hlocate] at h
      contradiction

theorem parts_of_isEmpty (h : path.isEmpty = true) : Path.parts path = [] := by
  rw [String.isEmpty_iff] at h
  rw [h]
  rfl

theorem locate_of_walk (h : f.walk (f.start path) parts = .ok l) (hparts : Path.parts path = parts)
    (hne : parts ≠ []) (hopen : Path.isOpen path = false) : f.locate path = .ok l := by
  have hempty : path.isEmpty = false := by
    rw [Bool.eq_false_iff]
    exact fun he => hne (hparts ▸ parts_of_isEmpty he)
  rw [locate, hempty, hparts, h, hopen]
  rfl

/-- A path that was written by way of leads to the file, which holds what was written. -/
theorem locate_withText (h : f.target path = .ok l) : (f.withText l s).locate path = .ok l := by
  obtain ⟨inner, name, around, hparts, hname, hopen, hwalk, haround, rfl⟩ := target_cases h
  have hdirectories : ∀ m, f.isDirectory m = true →
      (f.withText (around ++ [name]) s).isDirectory m = true := fun m hm => isDirectory_withText hm
  have hend := walk_concat name (walk_mono hdirectories hwalk) (hdirectories _ haround)
  rw [step_of_ne hname] at hend
  exact locate_of_walk hend hparts (by simp) hopen

/-- If a path leads to nothing and has no step up, there is no file that it leads to once the
directories on its way are made. -/
theorem isFile_eq_false_of_target (hhas : f.has path = false) (hup : ".." ∉ Path.parts path)
    (hstart : g.here = f.here) (h : g.target path = .ok l) : f.isFile l = false := by
  obtain ⟨inner, name, around, hparts, hname, hopen, hwalk, -, rfl⟩ := target_cases h
  have hinner : ".." ∉ inner := fun hmem => hup (by simp [hparts, hmem])
  have hl : around ++ [name] = f.start path ++ Path.parts path := by
    rw [eq_append_of_walk hwalk hinner, hparts, start, start, hstart, List.append_assoc]
  rw [hl, Bool.eq_false_iff]
  intro hfile
  have hlocate := locate_of_walk (walk_of_isFile hfile hup) rfl (by simp [hparts]) hopen
  rw [has, hlocate] at hhas
  simp [hfile] at hhas

/-! ## Files at the same places -/

/-- Whether there are files and directories at the same places, whatever the files hold. -/
structure SameTree (f g : Files) : Prop where
  here_eq : f.here = g.here
  isFile_eq : ∀ l, f.isFile l = g.isFile l
  isDirectory_eq : ∀ l, f.isDirectory l = g.isDirectory l

theorem exists_mem_contents_withText {p : Location → Prop} :
    (∃ e ∈ (f.withText l s).contents, p e.1) ↔ p l ∨ ∃ e ∈ f.contents, p e.1 := by
  constructor
  · rintro ⟨e, he, hp⟩
    rcases List.mem_cons.mp he with rfl | he
    · exact .inl hp
    · exact .inr ⟨e, List.mem_of_mem_filter he, hp⟩
  · rintro (hp | ⟨e, he, hp⟩)
    · exact ⟨_, List.mem_cons_self, hp⟩
    · by_cases hl : e.1 = l
      · exact ⟨_, List.mem_cons_self, hl ▸ hp⟩
      · exact ⟨e, List.mem_cons_of_mem _ (List.mem_filter.mpr ⟨he, by simpa using hl⟩), hp⟩

/-- Another text in a file moves nothing. -/
theorem sameTree_withText (h : f.isFile l = true) (s : String) : f.SameTree (f.withText l s) := by
  have hcontents : ∀ p : Location → Prop,
      (∃ e ∈ f.contents, p e.1) ↔ ∃ e ∈ (f.withText l s).contents, p e.1 := by
    intro p
    obtain ⟨e, he, hl⟩ := isFile_iff.mp h
    rw [exists_mem_contents_withText, iff_or_self]
    exact fun hp => ⟨e, he, hl ▸ hp⟩
  refine ⟨rfl, fun m => ?_, fun m => ?_⟩
  · rw [Bool.eq_iff_iff, isFile_iff, isFile_iff]
    exact hcontents (· = m)
  · rw [Bool.eq_iff_iff, isDirectory_iff, isDirectory_iff,
      hcontents fun m' => m'.length ≠ m.length ∧ m <+: m']
    rfl

namespace SameTree

theorem obstacle_eq (h : f.SameTree g) (l : Location) : f.obstacle l = g.obstacle l := by
  rw [obstacle, obstacle, h.isFile_eq]

theorem walk_eq (h : f.SameTree g) (l : Location) (parts : List String) :
    f.walk l parts = g.walk l parts := by
  induction parts generalizing l with
  | nil => rfl
  | cons part rest ih => rw [walk, walk, h.isDirectory_eq, h.obstacle_eq, ih]

theorem start_eq (h : f.SameTree g) (path : String) : f.start path = g.start path := by
  rw [start, start, h.here_eq]

theorem locate_eq (h : f.SameTree g) (path : String) : f.locate path = g.locate path := by
  simp only [locate, h.start_eq, h.walk_eq, h.isDirectory_eq, h.obstacle_eq]

theorem has_eq (h : f.SameTree g) (path : String) : f.has path = g.has path := by
  simp only [has, h.locate_eq, h.isFile_eq, h.isDirectory_eq]

theorem readText_eq (h : f.SameTree g)
    (hcontent : ∀ l, f.locate path = .ok l → f.content? l = g.content? l) :
    f.readText path = g.readText path := by
  rw [readText, readText, ← h.locate_eq]
  cases hl : f.locate path with
  | error e => rfl
  | ok l => simp only [bind, Except.bind, hcontent l hl, h.isDirectory_eq]

theorem missing_eq (h : f.SameTree g) (l : Location) (parts : List String) :
    f.missing l parts = g.missing l parts := by
  induction parts generalizing l with
  | nil => rfl
  | cons part rest ih => simp only [missing, h.isDirectory_eq, h.isFile_eq, ih]

theorem missingDirectories_eq (h : f.SameTree g) (path : String) :
    f.missingDirectories path = g.missingDirectories path := by
  rw [missingDirectories, missingDirectories, h.start_eq, h.missing_eq]

theorem target_eq (h : f.SameTree g) (path : String) : f.target path = g.target path := by
  simp only [target, h.start_eq, h.walk_eq, h.isDirectory_eq, h.obstacle_eq, h.locate_eq]

theorem withDirectory (h : f.SameTree g) (l : Location) :
    (f.withDirectory l).SameTree (g.withDirectory l) where
  here_eq := h.here_eq
  isFile_eq := h.isFile_eq
  isDirectory_eq m := by
    have hadded : ∀ k : Files, (k.withDirectory l).isDirectory m =
        (m.isPrefixOf l || k.isDirectory m) := by
      intro k
      simp only [isDirectory, Files.withDirectory, List.any_cons]
      ac_rfl
    rw [hadded, hadded, h.isDirectory_eq]

theorem foldl_withDirectory (h : f.SameTree g) (made : List Location) :
    (made.foldl Files.withDirectory f).SameTree (made.foldl Files.withDirectory g) := by
  induction made generalizing f g with
  | nil => exact h
  | cons l rest ih => exact ih (h.withDirectory l)

end SameTree

end Worksheet.Files
