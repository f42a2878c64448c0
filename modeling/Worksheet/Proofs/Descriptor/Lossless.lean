import Worksheet.Descriptor.Format
import Worksheet.Descriptor.Json
import Worksheet.Proofs.Json.Writing

/-!
Descriptors survive being written as JSON. A field that is left out is read as what it was left out
for, so every descriptor is read back as it was, if its defaults can be: a default that is null
would be taken for none, and numbers have to be read from their literals and lists may not be nested
too deeply.
-/

namespace Worksheet

/-! ## Records -/

namespace Json

/-- The object of those fields that have a value. -/
def ofFields (fields : List (String × Option Json)) : Json :=
  .object (fields.flatMap fun p => fieldOf p.1 p.2)

theorem documentsOfMembers_append (xs ys : List (String × Json)) :
    documentsOfMembers (xs ++ ys) = documentsOfMembers xs ++ documentsOfMembers ys := by
  induction xs with
  | nil => rfl
  | cons x rest ih => rw [List.cons_append, documentsOfMembers, documentsOfMembers, ih]; rfl

theorem documentsOfItems_map {α : Type} (write : α → Json) (items : List α) :
    documentsOfItems (items.map write) = items.map fun x => (write x).toDocument := by
  induction items with
  | nil => rfl
  | cons x rest ih => rw [List.map_cons, documentsOfItems, ih]; rfl

theorem entriesNamed_fieldOf (name key : String) (j : Option Json) :
    Document.entriesNamed (documentsOfMembers (fieldOf key j)) name =
      if key = name then (j.map toDocument).toList else [] := by
  cases j with
  | none => simp [fieldOf, documentsOfMembers, Document.entriesNamed]
  | some j =>
    by_cases h : key = name <;>
      simp [fieldOf, documentsOfMembers, Document.entriesNamed, h]

theorem entriesNamed_ofFields {fields : List (String × Option Json)} (name : String)
    (h : (fields.map Prod.fst).Nodup) :
    Document.entriesNamed (documentsOfMembers (fields.flatMap fun p => fieldOf p.1 p.2)) name =
      ((fields.lookup name).join.map toDocument).toList := by
  induction fields with
  | nil => rfl
  | cons p rest ih =>
    obtain ⟨key, j⟩ := p
    obtain ⟨hnew, hrest⟩ := List.nodup_cons.mp h
    have happend (xs ys : List (String × Document)) :
        Document.entriesNamed (xs ++ ys) name =
          Document.entriesNamed xs name ++ Document.entriesNamed ys name := by
      simp [Document.entriesNamed]
    rw [List.flatMap_cons, documentsOfMembers_append, happend, entriesNamed_fieldOf, ih hrest,
      Dictionary.lookup_cons_eq_ite]
    by_cases hname : name = key
    · subst hname
      have hnone : rest.lookup name = none := by
        rw [List.lookup_eq_none_iff]
        intro p hp
        have hmem : p.1 ∈ rest.map Prod.fst := List.mem_map_of_mem hp
        have hne : name ≠ p.1 := fun heq => hnew (heq ▸ hmem)
        simpa using hne
      simp [hnone]
    · rw [if_neg (Ne.symm hname), if_neg hname, List.nil_append]

theorem record?_ofFields (dialect : Dialect) (known : List String)
    {fields : List (String × Option Json)} (h : (fields.map Prod.fst).Nodup) :
    dialect.record? known (ofFields fields).toDocument =
      some fun name => (fields.lookup name).join.map toDocument := by
  have hentries : ∀ name, Document.entriesNamed
      (documentsOfMembers (fields.flatMap fun p => fieldOf p.1 p.2)) name =
        ((fields.lookup name).join.map toDocument).toList :=
    fun name => entriesNamed_ofFields name h
  have honce : (known.all fun name => ((fields.lookup name).join.map toDocument).toList.length ≤ 1) =
      true := by
    rw [List.all_eq_true]
    intro name _
    cases ((fields.lookup name).join.map toDocument) <;> simp
  rw [ofFields, toDocument, Dialect.record?, Document.fieldsOfTable?]
  simp only [hentries, honce, if_true, Option.some.injEq]
  funext name
  cases ((fields.lookup name).join.map toDocument) <;> rfl

end Json

/-! ## Fields -/

/-- A value that is left out if it says nothing. -/
def shownUnless (absent : Bool) (j : Json) : Option Json := if absent then none else some j

namespace Dialect

variable {α : Type} {dialect : Dialect} {read : Document → Option α} {j : Json} {a default : α}

theorem needed?_some (d : Document) : needed? read (some d) = read d := rfl

theorem given?_some (d : Document) : given? default read (some d) = read d := rfl

/-- A field that is left out for its default is read as it was. -/
theorem given?_shownUnless {absent : Bool} (habsent : absent = true → a = default)
    (hread : read j.toDocument = some a) :
    given? default read ((shownUnless absent j).map Json.toDocument) = some a := by
  cases absent with
  | true => rw [habsent rfl]; rfl
  | false => exact hread

theorem optional?_of_ne_null (h : j ≠ .null) :
    optional? read (some j.toDocument) = (read j.toDocument).map some := by
  unfold optional?
  split
  · contradiction
  · next heq =>
    cases j with
    | null => contradiction
    | _ => cases heq
  · next heq => rw [Option.some.inj heq]

/-- A field that may be missing is read as it was. -/
theorem optional?_map {write : α → Json} {x : Option α} (hnull : ∀ a ∈ x, write a ≠ .null)
    (hread : ∀ a ∈ x, read (write a).toDocument = some a) :
    optional? read ((x.map write).map Json.toDocument) = some x := by
  cases x with
  | none => rfl
  | some a =>
    rw [Option.map_some, Option.map_some, optional?_of_ne_null (hnull a rfl), hread a rfl]
    rfl

theorem listOf?_map {write : α → Json} {items : List α}
    (hread : ∀ x ∈ items, read (write x).toDocument = some x) :
    dialect.listOf? read (Json.array (items.map write)).toDocument = some items := by
  rw [Json.toDocument, listOf?, Json.documentsOfItems_map]
  induction items with
  | nil => rfl
  | cons x rest ih =>
    have hrest := ih fun y hy => hread y (List.mem_cons_of_mem _ hy)
    simp [hread x List.mem_cons_self, hrest]

theorem texts?_map (d : Dictionary String) :
    dialect.texts? (Json.object (d.entries.map fun e => (e.1, .string e.2))).toDocument =
      some d := by
  have hentries : (Json.documentsOfMembers (d.entries.map fun e => (e.1, .string e.2))).mapM
      (fun e => (dialect.text? e.2).map fun s => (e.1, s)) = some d.entries := by
    induction d.entries with
    | nil => rfl
    | cons e rest ih =>
      rw [List.map_cons, Json.documentsOfMembers, List.mapM_cons, ih]
      rfl
  rw [Json.toDocument, texts?, hentries, Option.map_some, Dictionary.ofList_entries]

theorem estimatedTime?_toJson (t : EstimatedTime) : estimatedTime? t.toJson.toDocument = some t := by
  cases t with
  | text s => rfl
  | minutes n =>
    have hbound : (n.toNat : Int) < Nat.pow 2 32 := Int.ofNat_lt.mpr n.toNat_lt
    rw [EstimatedTime.toJson, Json.toDocument, Document.datum, estimatedTime?,
      if_pos ⟨Int.natCast_nonneg _, hbound⟩]
    simp

theorem text?_string (s : String) : dialect.text? (Json.string s).toDocument = some s := rfl

theorem type?_string (t : VariableType) :
    dialect.type? (Json.string t.name).toDocument = some t := by
  cases t <;> rfl

mutual

theorem value?_toJson : ∀ v : Value, value? v.toJson.toDocument = some v
  | .null => rfl
  | .boolean _ => rfl
  | .number _ => rfl
  | .text _ => rfl
  | .list items => by
    rw [Value.toJson, Json.toDocument, value?, values?_jsonOfItems items]
    rfl

theorem values?_jsonOfItems : ∀ items : List Value,
    values? (Json.documentsOfItems (Value.jsonOfItems items)) = some items
  | [] => rfl
  | v :: rest => by
    rw [Value.jsonOfItems, Json.documentsOfItems, values?, value?_toJson v,
      values?_jsonOfItems rest]
    rfl

end

theorem default?_toJson {v : Value}
    (h : ∀ most ∈ dialect.deepestDefault, v.toJson.toDocument.depth ≤ most) :
    dialect.default? v.toJson.toDocument = some v := by
  rw [default?]
  cases hmost : dialect.deepestDefault with
  | none => exact value?_toJson v
  | some most =>
    simp only [h most hmost, if_true]
    exact value?_toJson v

end Dialect

/-! ## The records of a descriptor -/

open Json (ofFields)

theorem fieldOf_some (name : String) (j : Json) : fieldOf name (some j) = [(name, j)] := rfl

theorem fieldOf_shownUnless (name : String) (absent : Bool) (j : Json) :
    fieldOf name (shownUnless absent j) = if absent then [] else [(name, j)] := by
  cases absent <;> rfl

theorem listField_eq {α : Type} (name : String) (write : α → Json) (items : List α) :
    listField name (items.map write) =
      fieldOf name (shownUnless items.isEmpty (.array (items.map write))) := by
  cases items <;> rfl

def Variable.fields (v : Variable) : List (String × Option Json) :=
  [("name", some (.string v.name)), ("type", some (.string v.type.name)),
    ("label", shownUnless v.label.isEmpty (.string v.label)),
    ("required", shownUnless (!v.required) (.boolean true)),
    ("defaultValue", v.default.map Value.toJson),
    ("options", shownUnless v.options.isEmpty (.array (v.options.map .string))),
    ("description", v.description.map .string)]

theorem Variable.toJson_eq (v : Variable) : v.toJson = ofFields v.fields := by
  cases h : v.required <;>
    simp [toJson, ofFields, fields, h, textField, listField_eq, fieldOf_some, fieldOf_shownUnless]

def Section.fields (s : Section) : List (String × Option Json) :=
  [("id", some (.string s.id)), ("name", some (.string s.name)),
    ("condition", some (.string s.condition)), ("description", s.description.map .string)]

theorem Section.toJson_eq (s : Section) : s.toJson = ofFields s.fields := by
  simp [toJson, ofFields, fields, textField, fieldOf_some]

def Metadata.fields (m : Metadata) : List (String × Option Json) :=
  [("author", m.author.map .string), ("version", m.version.map .string),
    ("tags", shownUnless m.tags.isEmpty (.array (m.tags.map .string))),
    ("difficulty", m.difficulty.map .string),
    ("estimatedTime", m.estimatedTime.map EstimatedTime.toJson)]

theorem Metadata.toJson_eq (m : Metadata) : m.toJson = ofFields m.fields := by
  simp [toJson, ofFields, fields, textField, listField_eq]

def Descriptor.fields (d : Descriptor) : List (String × Option Json) :=
  [("name", d.name.map .string), ("description", d.description.map .string),
    ("template", some (.string d.template)),
    ("variables", shownUnless d.inputs.isEmpty (.array (d.inputs.map Variable.toJson))),
    ("conditionalSections",
      shownUnless d.sections.isEmpty (.array (d.sections.map Section.toJson))),
    ("customPrompts",
      shownUnless d.prompts.isEmpty (.object (d.prompts.entries.map fun e => (e.1, .string e.2)))),
    ("metadata", shownUnless d.metadata.isEmpty d.metadata.toJson)]

theorem Descriptor.toJson_eq (d : Descriptor) : d.toJson = ofFields d.fields := by
  simp [toJson, ofFields, fields, textField, listField_eq, fieldOf_some, fieldOf_shownUnless]

namespace Dialect

variable {dialect : Dialect}

theorem optional?_text (x : Option String) :
    optional? dialect.text? ((x.map .string).map Json.toDocument) = some x :=
  optional?_map (fun _ _ => nofun) fun _ _ => rfl

theorem given?_texts (items : List String) :
    given? [] (dialect.listOf? dialect.text?)
      ((shownUnless items.isEmpty (.array (items.map .string))).map Json.toDocument) =
        some items :=
  given?_shownUnless List.isEmpty_iff.mp (listOf?_map fun _ _ => rfl)

theorem readVariable?_toJson {v : Variable} (hnull : ∀ value ∈ v.default, value ≠ .null)
    (hdepth : ∀ value ∈ v.default, ∀ most ∈ dialect.deepestDefault,
      value.toJson.toDocument.depth ≤ most) :
    dialect.readVariable? v.toJson.toDocument = some v := by
  have hlabel : given? "" dialect.text?
      ((shownUnless v.label.isEmpty (.string v.label)).map Json.toDocument) = some v.label :=
    given?_shownUnless String.isEmpty_iff.mp rfl
  have hrequired : given? false boolean?
      ((shownUnless (!v.required) (.boolean true)).map Json.toDocument) = some v.required := by
    cases v.required <;> rfl
  have hdefault : optional? dialect.default?
      ((v.default.map Value.toJson).map Json.toDocument) = some v.default := by
    refine optional?_map (fun value hvalue => ?_) fun value hvalue =>
      default?_toJson (hdepth value hvalue)
    have hvalue := hnull value hvalue
    cases value <;> simp_all [Value.toJson]
  rw [Variable.toJson_eq, readVariable?, Json.record?_ofFields _ _ (by simp [Variable.fields])]
  simp [Variable.fields, Dictionary.lookup_cons_eq_ite, needed?_some, given?_some, text?_string,
    type?_string, hlabel, hrequired, hdefault, given?_texts, optional?_text, -Option.map_map]

theorem readSection?_toJson (s : Section) :
    dialect.readSection? s.toJson.toDocument = some s := by
  rw [Section.toJson_eq, readSection?, Json.record?_ofFields _ _ (by simp [Section.fields])]
  simp [Section.fields, Dictionary.lookup_cons_eq_ite, needed?_some, text?_string, optional?_text,
    -Option.map_map]

theorem readMetadata?_toJson (m : Metadata) :
    dialect.readMetadata? m.toJson.toDocument = some m := by
  have htime : optional? estimatedTime?
      ((m.estimatedTime.map EstimatedTime.toJson).map Json.toDocument) = some m.estimatedTime :=
    optional?_map (fun t _ => by cases t <;> nofun) fun t _ => estimatedTime?_toJson t
  rw [Metadata.toJson_eq, readMetadata?, Json.record?_ofFields _ _ (by simp [Metadata.fields])]
  simp [Metadata.fields, Dictionary.lookup_cons_eq_ite, given?_texts, optional?_text, htime,
    -Option.map_map]

/-- A descriptor is read from the document that it is written as, whatever the dialect, as long as
its defaults are. -/
theorem readDescriptor?_toJson {d : Descriptor}
    (hnull : ∀ v ∈ d.inputs, ∀ value ∈ v.default, value ≠ .null)
    (hdepth : ∀ v ∈ d.inputs, ∀ value ∈ v.default, ∀ most ∈ dialect.deepestDefault,
      value.toJson.toDocument.depth ≤ most) :
    dialect.readDescriptor? d.toJson.toDocument = some d := by
  have hinputs : given? [] (dialect.listOf? dialect.readVariable?)
      ((shownUnless d.inputs.isEmpty (.array (d.inputs.map Variable.toJson))).map
        Json.toDocument) = some d.inputs :=
    given?_shownUnless List.isEmpty_iff.mp
      (listOf?_map fun v hv => readVariable?_toJson (hnull v hv) (hdepth v hv))
  have hsections : given? [] (dialect.listOf? dialect.readSection?)
      ((shownUnless d.sections.isEmpty (.array (d.sections.map Section.toJson))).map
        Json.toDocument) = some d.sections :=
    given?_shownUnless List.isEmpty_iff.mp (listOf?_map fun s _ => readSection?_toJson s)
  have hprompts : given? .empty dialect.texts?
      ((shownUnless d.prompts.isEmpty
        (.object (d.prompts.entries.map fun e => (e.1, .string e.2)))).map Json.toDocument) =
        some d.prompts :=
    given?_shownUnless Dictionary.eq_empty_of_isEmpty (texts?_map d.prompts)
  have hmetadata : given? {} dialect.readMetadata?
      ((shownUnless d.metadata.isEmpty d.metadata.toJson).map Json.toDocument) =
        some d.metadata :=
    given?_shownUnless of_decide_eq_true (readMetadata?_toJson d.metadata)
  rw [Descriptor.toJson_eq, readDescriptor?,
    Json.record?_ofFields _ _ (by simp [Descriptor.fields])]
  simp [Descriptor.fields, Dictionary.lookup_cons_eq_ite, needed?_some, text?_string,
    optional?_text, hinputs, hsections, hprompts, hmetadata, -Option.map_map]

end Dialect

/-! ## Numbers -/

mutual

def Value.numbers : Value → List Number
  | number x => [x]
  | list items => numbersOfItems items
  | _ => []

def Value.numbersOfItems : List Value → List Number
  | [] => []
  | v :: rest => v.numbers ++ numbersOfItems rest

end

namespace Json

mutual

theorem legible_value : ∀ v : Value,
    (∀ x ∈ v.numbers, Denotes (numberLayout.text x) (.real x)) → v.toJson.Legible
  | .null, _ => trivial
  | .boolean _, _ => trivial
  | .number x, h => h x (List.mem_singleton.mpr rfl)
  | .text _, _ => trivial
  | .list items, h => legibleItems_values items h

theorem legibleItems_values : ∀ items : List Value,
    (∀ x ∈ Value.numbersOfItems items, Denotes (numberLayout.text x) (.real x)) →
      LegibleItems (Value.jsonOfItems items)
  | [], _ => trivial
  | v :: rest, h =>
    ⟨legible_value v fun x hx => h x (List.mem_append_left _ hx),
      legibleItems_values rest fun x hx => h x (List.mem_append_right _ hx)⟩

end

theorem legible_ofFields {fields : List (String × Option Json)}
    (h : ∀ p ∈ fields, ∀ j ∈ p.2, j.Legible) : (ofFields fields).Legible := by
  refine legibleMembers_iff.mpr fun e he => ?_
  obtain ⟨⟨name, j⟩, hp, he⟩ := List.mem_flatMap.mp he
  cases j with
  | none => contradiction
  | some j =>
    obtain rfl := List.mem_singleton.mp he
    exact h _ hp j rfl

end Json

theorem shownUnless_eq_some_iff {absent : Bool} {j j' : Json} :
    shownUnless absent j = some j' ↔ absent = false ∧ j = j' := by
  cases absent <;> simp [shownUnless]

open Json (legible_ofFields legibleItems_iff legibleMembers_iff)

theorem Variable.legible_toJson {v : Variable}
    (h : ∀ value ∈ v.default, ∀ x ∈ value.numbers,
      Json.Denotes (Json.numberLayout.text x) (.real x)) : v.toJson.Legible := by
  have hdefault : ∀ value, v.default = some value → value.toJson.Legible :=
    fun value hvalue => Json.legible_value value (h value hvalue)
  rw [toJson_eq]
  refine legible_ofFields ?_
  simpa [fields, shownUnless_eq_some_iff, Json.Legible, legibleItems_iff] using hdefault

theorem Section.legible_toJson (s : Section) : s.toJson.Legible := by
  rw [toJson_eq]
  refine legible_ofFields ?_
  simp [fields, Json.Legible]

theorem Metadata.legible_toJson (m : Metadata) : m.toJson.Legible := by
  have htime : ∀ t : EstimatedTime, t.toJson.Legible := by
    intro t
    cases t with
    | text s => trivial
    | minutes n => exact Json.denotes_toString (Nat.lt_trans n.toNat_lt (by decide))
  rw [toJson_eq]
  refine legible_ofFields ?_
  simp [fields, shownUnless_eq_some_iff, Json.Legible, legibleItems_iff, htime]

theorem Descriptor.legible_toJson {d : Descriptor}
    (h : ∀ v ∈ d.inputs, ∀ value ∈ v.default, ∀ x ∈ value.numbers,
      Json.Denotes (Json.numberLayout.text x) (.real x)) : d.toJson.Legible := by
  have hinputs : (Json.array (d.inputs.map Variable.toJson)).Legible :=
    legibleItems_iff.mpr (by simpa using fun v hv => Variable.legible_toJson (h v hv))
  have hsections : (Json.array (d.sections.map Section.toJson)).Legible :=
    legibleItems_iff.mpr (by simp [Section.legible_toJson])
  have hprompts : (Json.object (d.prompts.entries.map fun e => (e.1, .string e.2))).Legible := by
    refine legibleMembers_iff.mpr fun e he => ?_
    obtain ⟨prompt, -, rfl⟩ := List.mem_map.mp he
    trivial
  have hstring : ∀ s, (Json.string s).Legible := fun _ => trivial
  rw [toJson_eq]
  refine legible_ofFields ?_
  simp [fields, shownUnless_eq_some_iff, hinputs, hsections, hprompts, hstring,
    Metadata.legible_toJson]

/-! ## Whole descriptors -/

def Descriptor.defaults (d : Descriptor) : List Value := d.inputs.filterMap Variable.default

/-- Whether a value is a default that JSON has words for: it is not null, which would stand for no
default at all, and all its numbers are finite. -/
structure Value.Expressible (v : Value) : Prop where
  ne_null : v ≠ .null
  finite : ∀ x ∈ v.numbers, x.isFinite = true

/-- What is asked of the reader for a value to come back: from the literal of a finite number it
gets that number, and it follows the lists to the bottom. -/
structure Value.Recovered (v : Value) : Prop where
  numbers : ∀ x ∈ v.numbers, x.isFinite = true →
    Json.Denotes (Json.numberLayout.text x) (.real x)
  depth : ∀ most ∈ Format.json.dialect.deepestDefault, v.toJson.toDocument.depth ≤ most

theorem Descriptor.mem_defaults {d : Descriptor} {v : Variable} {value : Value}
    (hv : v ∈ d.inputs) (hvalue : value ∈ v.default) : value ∈ d.defaults :=
  List.mem_filterMap.mpr ⟨v, hv, hvalue⟩

/-- A descriptor that is written as JSON is read as the same descriptor. -/
theorem Descriptor.read_toJson (d : Descriptor) (hdefaults : ∀ v ∈ d.defaults, v.Expressible)
    (hreader : ∀ v ∈ d.defaults, v.Recovered) :
    Format.json.read d.toJson.compact = .ok d ∧ Format.json.read d.toJson.pretty = .ok d := by
  have hlegible : d.toJson.Legible := by
    refine legible_toJson fun v hv value hvalue x hx => ?_
    have hmem := mem_defaults hv hvalue
    exact (hreader value hmem).numbers x hx ((hdefaults value hmem).finite x hx)
  have hdecoded : Format.json.dialect.readDescriptor? d.toJson.toDocument = some d :=
    Dialect.readDescriptor?_toJson
      (fun v hv value hvalue => (hdefaults value (mem_defaults hv hvalue)).ne_null)
      fun v hv value hvalue => (hreader value (mem_defaults hv hvalue)).depth
  have hread : ∀ text, Json.read? text = some d.toJson.toDocument →
      Format.json.read text = .ok d := by
    intro text htext
    have hdocument : Format.json.document text = .ok d.toJson.toDocument := by
      rw [Format.document, htext]
      rfl
    rw [Format.read, hdocument]
    simp only [bind, Except.bind, hdecoded]
    rfl
  exact ⟨hread _ (Json.read?_compact hlegible), hread _ (Json.read?_pretty hlegible)⟩

/-- A descriptor with a nested default, a prompt and a time in minutes comes back. -/
theorem Descriptor.scores_read_back :
    let scores : Value := .list [.number (.ofRatio true 5 2), .null, .list [.text "\"none\""]]
    let d : Descriptor := {
      template := "\x7b\x7b#each scores\x7d\x7d\x7b\x7bthis\x7d\x7d\x7b\x7b/each\x7d\x7d\n"
      inputs := [{ name := "scores", default := some scores }, { name := "title", required := true }]
      prompts := .ofList [("tone", "friendly")]
      metadata := { estimatedTime := some (.minutes 45) } }
    (∀ v ∈ d.defaults, v.Expressible) ∧ (∀ v ∈ d.defaults, v.Recovered) ∧
      Format.json.read d.toJson.compact = .ok d := by
  intro scores d
  have hnumber : Json.Denotes (Json.numberLayout.text (.ofRatio true 5 2))
      (.real (.ofRatio true 5 2)) :=
    ⟨⟨true, ['2'], some ['5'], none⟩, by decide +kernel, by decide +kernel⟩
  have hdefaults : ∀ v ∈ d.defaults, v.Expressible := by
    intro v hv
    obtain rfl : v = scores := List.mem_singleton.mp hv
    exact ⟨nofun, by decide +kernel⟩
  have hreader : ∀ v ∈ d.defaults, v.Recovered := by
    intro v hv
    obtain rfl : v = scores := List.mem_singleton.mp hv
    refine ⟨fun x hx _ => ?_, by decide +kernel⟩
    have hx : x = .ofRatio true 5 2 := by
      simpa [scores, Value.numbers, Value.numbersOfItems] using hx
    exact hx ▸ hnumber
  exact ⟨hdefaults, hreader, (d.read_toJson hdefaults hreader).1⟩

end Worksheet
