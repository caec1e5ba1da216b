import FieldFilter.Proofs.Text.Loose
import FieldFilter.Proofs.Toml.Distinct
import FieldFilter.Schema.Declaration
import FieldFilter.Schema.Document
import Mathlib.Data.List.Forall2
import Mathlib.Data.List.Nodup

/-!
# FieldFilter.Proofs.Schema.Document — which documents are schemas

A document is a schema if its `fields` are a table that is not empty and every entry of it is `WellFormed`.  The
first entry that is not is refused with the first thing that is wrong with it (`Faulty`), unless its type has to be
shown and is nested too deep for that (`TypeTooDeep`).  An entry that is well formed gives the same field as its
`declaration`, and keys that come once can all be registered, so a schema is the registry that its declarations make
(`ofTable_exact`).
-/

namespace FieldFilter

open Toml (Datum Table)

/-! ### Types and registries -/

theorem FieldType.ofWord?_eq_some {w : LooseText} {t : FieldType} : ofWord? w = some t ↔ w = t.word := by
  constructor
  · intro h
    simpa using List.find?_some h
  · rintro rfl
    cases t <;> rfl

namespace Registry

variable {r : Registry} {fs : List Field} {ds : List Declaration}

/-- Fields with keys of their own are all registered, in their order. -/
theorem foldlM_push (h : ((r.fields ++ fs).map Field.key).Nodup) :
    ∃ r', fs.foldlM push r = .ok r' ∧ r'.fields = r.fields ++ fs := by
  induction fs generalizing r with
  | nil => exact ⟨r, rfl, (List.append_nil _).symm⟩
  | cons f fs ih =>
    have hnew : f.key ∉ r.fields.map Field.key := by
      rw [List.map_append, List.nodup_append] at h
      exact fun hf => h.2.2 _ hf _ List.mem_cons_self rfl
    have hpush : ∃ r', r.push f = .ok r' := ⟨_, by rw [push, dif_neg hnew]⟩
    obtain ⟨mid, hmid⟩ := hpush
    have hfields := push_fields hmid
    obtain ⟨r', hr', hall⟩ := ih (r := mid) (by rwa [hfields, List.append_assoc, List.singleton_append])
    refine ⟨r', ?_, by rw [hall, hfields, List.append_assoc, List.singleton_append]⟩
    rw [List.foldlM_cons, hmid]
    exact hr'

theorem exists_ofFields (h : (fs.map Field.key).Nodup) : ∃ r, ofFields fs = .ok r ∧ r.fields = fs :=
  foldlM_push (r := empty) h

/-- Declarations of fields make the registry of these fields. -/
theorem declare_of_fields (h : List.Forall₂ (fun d f => Declaration.toField d = .ok f) ds fs) :
    declare ds = (ofFields fs).mapError .fault := by
  unfold declare ofFields
  generalize empty = r
  induction h generalizing r with
  | nil => rfl
  | @cons d f ds fs hf _ ih =>
    rw [List.foldlM_cons, List.foldlM_cons, hf]
    show ((r.push f).mapError DeclarationFault.fault >>= _) = _
    cases r.push f with
    | error e => rfl
    | ok mid => exact ih mid

end Registry

namespace Schema

variable {document entries spec : Table} {key : String} {d : Datum} {fault : SchemaFault} {f : Field}
  {fs : List Field} {r : Registry}

/-! ### One entry -/

/-- The words for types. -/
def typeNames : List String := ["string", "number", "date", "boolean", "enum", "relation"]

/-- The type of a field is one of the words for types. -/
def HasType (spec : Table) : Prop := ∃ w ∈ typeNames, spec.lookup "type" = some (.text w)

/-- If there is a label, it is a text. -/
def FitsLabel (spec : Table) : Prop := ∀ d, spec.lookup "label" = some d → ∃ s, d = .text s

/-- If there are options, they are a list of texts. -/
def FitsOptions (spec : Table) : Prop :=
  ∀ d, spec.lookup "options" = some d → ∃ texts : List String, d = .array (texts.map .text)

/-- The datum describes a field. -/
def WellFormed (d : Datum) : Prop := ∃ spec, d = .table spec ∧ HasType spec ∧ FitsLabel spec ∧ FitsOptions spec

/-- The type of a field has something in it that is nested too deep to be shown. -/
def TypeTooDeep (spec : Table) : Prop := ∃ d, spec.lookup "type" = some d ∧ d.unshown? maxNesting = some .tooDeep

/-- The datum under a key describes no field, with this fault.  The faults have an order: each supposes that
none of those before it applies.  A wrong type is shown before it is refused, and there it can break down. -/
inductive Faulty (key : String) : Datum → SchemaFault → Prop
  | notTable {d : Datum} : (∀ spec, d ≠ .table spec) → Faulty key d (.refused (.notTable key))
  | type {spec : Table} : ¬ HasType spec → ¬ TypeTooDeep spec → Faulty key (.table spec) (.refused (.type key))
  | tooDeep {spec : Table} : ¬ HasType spec → TypeTooDeep spec → Faulty key (.table spec) (.brokenDown .tooDeep)
  | label {spec : Table} : HasType spec → ¬ FitsLabel spec → Faulty key (.table spec) (.refused (.label key))
  | options {spec : Table} : HasType spec → FitsLabel spec → ¬ FitsOptions spec →
    Faulty key (.table spec) (.refused (.options key))

/-- A field as the entry of a table declares it.  A label that is no text and options that are no list of texts
are left out, as a declaration has no place for them. -/
def declaration : String × Datum → Declaration
  | (key, .table spec) => {
      key
      label := ((spec.lookup "label").bind Datum.text?).map .ofString
      type := match spec.lookup "type" with
        | some (.text w) => .word w
        | some _ => .unusable
        | none => .missing
      source := match (spec.lookup "options").bind Datum.texts? with
        | some texts => .fixed (texts.map .ofString)
        | none => .absent }
  | (key, _) => { key, type := .missing }

theorem hasType_iff : HasType spec ↔ ∃ t : FieldType, spec.lookup "type" = some (.text t.word) := by
  constructor
  · rintro ⟨w, hw, hlookup⟩
    have hall : ∀ w ∈ typeNames, ∃ t : FieldType, w = t.word := by
      simp only [typeNames, List.forall_mem_cons]
      exact ⟨⟨.string, rfl⟩, ⟨.number, rfl⟩, ⟨.date, rfl⟩, ⟨.boolean, rfl⟩, ⟨.enum, rfl⟩, ⟨.relation, rfl⟩, by simp⟩
    obtain ⟨t, rfl⟩ := hall w hw
    exact ⟨t, hlookup⟩
  · rintro ⟨t, hlookup⟩
    exact ⟨t.word, by cases t <;> decide, hlookup⟩

/-- The type that is read is the one whose word stands there. -/
theorem read_type_eq_some {t : FieldType} :
    (((spec.lookup "type").bind Datum.text?).bind fun w => FieldType.ofWord? w) = some t ↔
      spec.lookup "type" = some (.text t.word) := by
  cases spec.lookup "type" with
  | none => simp
  | some d =>
    cases d with
    | text s => simp [Datum.text?, FieldType.ofWord?_eq_some, LooseText.ofString_inj]
    | _ => simp [Datum.text?]

/-- A type is one of the words, or it is shown and refused, or it cannot be shown. -/
theorem type_cases (key : String) (spec : Table) :
    (∃ t : FieldType, type key (spec.lookup "type") = .ok t ∧ spec.lookup "type" = some (.text t.word)) ∨
      ∃ fault, type key (spec.lookup "type") = .error fault ∧ Faulty key (.table spec) fault := by
  unfold type
  cases hread : ((spec.lookup "type").bind Datum.text?).bind fun w => FieldType.ofWord? w with
  | some t => exact .inl ⟨t, rfl, read_type_eq_some.mp hread⟩
  | none =>
    have hnot : ¬ HasType spec := by
      intro hhas
      obtain ⟨t, ht⟩ := hasType_iff.mp hhas
      exact nomatch hread.symm.trans (read_type_eq_some.mpr ht)
    have hdeep : TypeTooDeep spec ↔ (spec.lookup "type").bind (Datum.unshown? maxNesting) = some .tooDeep :=
      Option.bind_eq_some_iff.symm
    right
    cases hshown : (spec.lookup "type").bind (Datum.unshown? maxNesting) with
    | none => exact ⟨_, rfl, .type hnot fun h => nomatch hshown.symm.trans (hdeep.mp h)⟩
    | some obstacle =>
      cases obstacle with
      | tooDeep => exact ⟨_, rfl, .tooDeep hnot (hdeep.mpr hshown)⟩
      | numeralTooLong => exact ⟨_, rfl, .type hnot fun h => nomatch hshown.symm.trans (hdeep.mp h)⟩

theorem fitsLabel_iff : FitsLabel spec ↔ ∃ s, ((spec.lookup "label").getD (.text key)).text? = some s := by
  unfold FitsLabel
  cases spec.lookup "label" with
  | none => simp [Datum.text?]
  | some d => cases d <;> simp [Datum.text?]

theorem fitsOptions_iff (h : spec.lookup "options" = some d) : FitsOptions spec ↔ ∃ texts, d.texts? = some texts := by
  simp [FitsOptions, h, Datum.texts?_eq_some]

/-- Where a label is read, a declaration has the same. -/
theorem label_of_text? {label : String} (h : ((spec.lookup "label").getD (.text key)).text? = some label) :
    (((spec.lookup "label").bind Datum.text?).map LooseText.ofString).getD key = label := by
  cases hlookup : spec.lookup "label" with
  | none =>
    rw [hlookup] at h
    cases h
    rfl
  | some d =>
    rw [hlookup] at h
    simp only [Option.getD_some] at h
    simp [h]

/-- An entry describes a field, the one that it declares, or it fails with what is wrong with it first. -/
theorem field_cases (key : String) (d : Datum) :
    (∃ f, field key d = .ok f ∧ WellFormed d ∧ f.key = key ∧ (declaration (key, d)).toField = .ok f) ∨
      ∃ fault, field key d = .error fault ∧ Faulty key d fault := by
  cases d with
  | table spec =>
    unfold field
    rcases type_cases key spec with ⟨t, htype, hword⟩ | ⟨fault, htype, hfaulty⟩
    · have hhas : HasType spec := hasType_iff.mpr ⟨t, hword⟩
      have hofWord : FieldType.ofWord? (t.word : LooseText) = some t := FieldType.ofWord?_eq_some.mpr rfl
      simp only [htype, ok_bind]
      cases hlabel : ((spec.lookup "label").getD (.text key)).text? with
      | none =>
        refine .inr ⟨_, rfl, .label hhas fun hfits => ?_⟩
        obtain ⟨label, hsome⟩ : ∃ label, ((spec.lookup "label").getD (.text key)).text? = some label :=
          fitsLabel_iff.mp hfits
        exact nomatch hlabel.symm.trans hsome
      | some label =>
        have hfits : FitsLabel spec := fitsLabel_iff.mpr ⟨label, hlabel⟩
        have hdeclared := label_of_text? hlabel
        cases hoptions : spec.lookup "options" with
        | none =>
          refine .inl ⟨{ key, label, type := t }, rfl, ⟨spec, rfl, hhas, hfits, ?_⟩, rfl, ?_⟩
          · simp [FitsOptions, hoptions]
          · simp only [declaration, Declaration.toField, hword, hofWord, hdeclared, hoptions, Option.bind_none]
        | some options =>
          cases htexts : options.texts? with
          | none =>
            refine .inr ⟨_, by simp only [htexts], .options hhas hfits fun hoptionsFit => ?_⟩
            obtain ⟨texts, hsome⟩ := (fitsOptions_iff hoptions).mp hoptionsFit
            exact nomatch htexts.symm.trans hsome
          | some texts =>
            refine .inl ⟨{ key, label, type := t, source := .fixed (texts.map .ofString) }, by simp only [htexts],
              ⟨spec, rfl, hhas, hfits, (fitsOptions_iff hoptions).mpr ⟨texts, htexts⟩⟩, rfl, ?_⟩
            simp only [declaration, Declaration.toField, hword, hofWord, hdeclared, hoptions, Option.bind_some, htexts]
    · refine .inr ⟨fault, ?_, hfaulty⟩
      simp only [htype]
      rfl
  | _ => exact .inr ⟨_, rfl, .notTable (by simp)⟩

theorem Faulty.not_wellFormed (h : Faulty key d fault) : ¬ WellFormed d := by
  rintro ⟨spec, rfl, htype, hlabel, hoptions⟩
  cases h with
  | notTable hnone => exact hnone spec rfl
  | type hnot | tooDeep hnot => exact hnot htype
  | label _ hnot => exact hnot hlabel
  | options _ _ hnot => exact hnot hoptions

/-- Only the first thing that is wrong with an entry counts. -/
theorem Faulty.unique {fault' : SchemaFault} (h : Faulty key d fault) (h' : Faulty key d fault') : fault = fault' := by
  cases h with
  | notTable hnone =>
    cases h' with
    | notTable => rfl
    | type | tooDeep | label | options => exact absurd rfl (hnone _)
  | type hnot hshown =>
    cases h' with
    | notTable hnone => exact absurd rfl (hnone _)
    | type => rfl
    | tooDeep _ hdeep => exact absurd hdeep hshown
    | label htype | options htype => exact absurd htype hnot
  | tooDeep hnot hdeep =>
    cases h' with
    | notTable hnone => exact absurd rfl (hnone _)
    | type _ hshown => exact absurd hdeep hshown
    | tooDeep => rfl
    | label htype | options htype => exact absurd htype hnot
  | label htype hnot =>
    cases h' with
    | notTable hnone => exact absurd rfl (hnone _)
    | type hnot' | tooDeep hnot' => exact absurd htype hnot'
    | label => rfl
    | options _ hlabel => exact absurd hlabel hnot
  | options htype hlabel hnot =>
    cases h' with
    | notTable hnone => exact absurd rfl (hnone _)
    | type hnot' | tooDeep hnot' => exact absurd htype hnot'
    | label _ hnot' => exact absurd hlabel hnot'
    | options => rfl

theorem exists_field_iff : (∃ f, field key d = .ok f) ↔ WellFormed d := by
  rcases field_cases key d with ⟨f, hf, hwell, -⟩ | ⟨fault, hfault, hfaulty⟩
  · exact iff_of_true ⟨f, hf⟩ hwell
  · exact iff_of_false (fun ⟨f, hf⟩ => nomatch hf.symm.trans hfault) hfaulty.not_wellFormed

theorem field_eq_error_iff : field key d = .error fault ↔ Faulty key d fault := by
  rcases field_cases key d with ⟨f, hf, hwell, -⟩ | ⟨fault', hfault, hfaulty⟩
  · exact iff_of_false (fun h => nomatch hf.symm.trans h) fun h => h.not_wellFormed hwell
  · constructor
    · intro h
      cases hfault.symm.trans h
      exact hfaulty
    · intro h
      rw [hfault, hfaulty.unique h]

theorem declaration_of_field (h : field key d = .ok f) :
    f.key = key ∧ (declaration (key, d)).toField = .ok f := by
  rcases field_cases key d with ⟨f', hf', -, hdeclared⟩ | ⟨fault, hfault, -⟩
  · cases hf'.symm.trans h
    exact hdeclared
  · exact nomatch h.symm.trans hfault

/-! ### The table of fields -/

/-- The first entry that describes no field is the one that is refused. -/
theorem failure?_fields (entries : Table) :
    failure? (fields entries) = entries.findSome? fun e => failure? (field e.1 e.2) := by
  induction entries with
  | nil => rfl
  | cons e entries ih =>
    obtain ⟨key, d⟩ := e
    have hrest (f : Field) : failure? (fields entries >>= fun fs => .ok (f :: fs)) = failure? (fields entries) := by
      cases fields entries <;> rfl
    rw [List.findSome?_cons, ← ih, fields]
    refine (failure?_bind hrest).trans ?_
    cases failure? (field key d) <;> rfl

theorem exists_fields_iff : (∃ fs, fields entries = .ok fs) ↔ ∀ e ∈ entries, WellFormed e.2 := by
  rw [← failure?_eq_none, failure?_fields, List.findSome?_eq_none_iff]
  simp only [failure?_eq_none, exists_field_iff]

theorem fields_eq_error_iff : fields entries = .error fault ↔ ∃ before key d after,
    entries = before ++ (key, d) :: after ∧ (∀ e ∈ before, WellFormed e.2) ∧ Faulty key d fault := by
  rw [← failure?_eq_some, failure?_fields, List.findSome?_eq_some_iff]
  simp only [failure?_eq_none, failure?_eq_some, exists_field_iff, field_eq_error_iff]
  constructor
  · rintro ⟨before, ⟨key, d⟩, after, hsplit, hfaulty, hbefore⟩
    exact ⟨before, key, d, after, hsplit, hbefore, hfaulty⟩
  · rintro ⟨before, key, d, after, hsplit, hbefore, hfaulty⟩
    exact ⟨before, (key, d), after, hsplit, hfaulty, hbefore⟩

/-- Each field comes from the entry in its place. -/
theorem forall₂_of_fields (h : fields entries = .ok fs) :
    List.Forall₂ (fun e f => field e.1 e.2 = .ok f) entries fs := by
  induction entries generalizing fs with
  | nil =>
    cases h
    exact .nil
  | cons e entries ih =>
    obtain ⟨f, hf, h⟩ := bind_eq_ok.mp h
    obtain ⟨fs, hfs, heq⟩ := bind_eq_ok.mp h
    cases heq
    exact .cons hf (ih hfs)

/-! ### Whole documents -/

/-- The table of fields of a document, if it has one that is not empty. -/
def HasFields (document entries : Table) : Prop := document.lookup "fields" = some (.table entries) ∧ entries ≠ []

/-- The keys of fields are distinct in a document whose tables have distinct keys. -/
theorem nodup_of_distinct (h : (Datum.table document).Distinct) (hfields : HasFields document entries) :
    (entries.map Prod.fst).Nodup := by
  obtain ⟨before, after, hsplit, -⟩ := List.lookup_eq_some_iff.mp hfields.1
  cases h with
  | table _ hall =>
    cases hall ("fields", .table entries) (by simp [hsplit]) with
    | table hkeys _ => exact hkeys

/-- Fields that are read have the keys of their entries, and are what these declare. -/
theorem keys_of_fields (h : fields entries = .ok fs) :
    fs.map Field.key = entries.map (fun e => (e.1 : LooseText)) ∧
      List.Forall₂ (fun d f => Declaration.toField d = .ok f) (entries.map declaration) fs := by
  have hall := forall₂_of_fields h
  constructor
  · clear h
    induction hall with
    | nil => rfl
    | cons hf _ ih => rw [List.map_cons, List.map_cons, (declaration_of_field hf).1, ih]
  · rw [List.forall₂_map_left_iff]
    exact hall.imp fun e f hf => (declaration_of_field hf).2

theorem ofTable_of_noFields (h : ∀ entries, ¬ HasFields document entries) :
    ofTable document = .error (.refused .noFields) := by
  unfold ofTable
  split
  · rfl
  · next entries hne hlookup => exact absurd ⟨hlookup, fun hnil => hne hnil⟩ (h entries)
  · rfl

/-- What becomes of a table of fields becomes of the document. -/
theorem ofTable_cases (hfields : HasFields document entries) (hkeys : (entries.map Prod.fst).Nodup) :
    (∃ fault, fields entries = .error fault ∧ ofTable document = .error fault) ∨
      ∃ fs r, fields entries = .ok fs ∧ Registry.ofFields fs = .ok r ∧ r.fields = fs ∧ ofTable document = .ok r := by
  obtain ⟨hlookup, hne⟩ := hfields
  obtain ⟨e, rest, rfl⟩ := List.exists_cons_of_ne_nil hne
  unfold ofTable
  rw [hlookup]
  simp only
  cases hfs : fields (e :: rest) with
  | error fault => exact .inl ⟨fault, rfl, rfl⟩
  | ok fs =>
    have hnodup : (fs.map Field.key).Nodup := by
      have hmap : fs.map Field.key = ((e :: rest).map Prod.fst).map LooseText.ofString := by
        rw [(keys_of_fields hfs).1, List.map_map]
        rfl
      rw [hmap]
      exact List.Nodup.map (fun _ _ => LooseText.ofString_inj.mp) hkeys
    obtain ⟨r, hr, hrfields⟩ := Registry.exists_ofFields hnodup
    refine .inr ⟨fs, r, rfl, hr, hrfields, ?_⟩
    simp only [bind, Except.bind, hr]
    rfl

theorem HasFields.unique {entries' : Table} (h : HasFields document entries) (h' : HasFields document entries') :
    entries = entries' := by
  cases h.1.symm.trans h'.1
  rfl

/-- A document is a schema just if its fields are well formed, and then it is the registry that they declare. -/
theorem ofTable_eq_ok_iff (hfields : HasFields document entries) (hkeys : (entries.map Prod.fst).Nodup) :
    ofTable document = .ok r ↔ (∀ e ∈ entries, WellFormed e.2) ∧
      r.keys = entries.map (fun e => (e.1 : LooseText)) ∧ Registry.declare (entries.map declaration) = .ok r := by
  rcases ofTable_cases hfields hkeys with ⟨fault, hfault, htable⟩ | ⟨fs, r', hfs, hr', hrfields, htable⟩
  · refine iff_of_false (fun h => nomatch htable.symm.trans h) fun h => ?_
    obtain ⟨fs, hfs⟩ := exists_fields_iff.mpr h.1
    exact nomatch hfault.symm.trans hfs
  · obtain ⟨hall, hdeclared⟩ := keys_of_fields hfs
    have hdeclare : Registry.declare (entries.map declaration) = .ok r' := by
      rw [Registry.declare_of_fields hdeclared, hr']
      rfl
    rw [htable]
    constructor
    · rintro ⟨⟩
      exact ⟨exists_fields_iff.mp ⟨fs, hfs⟩, by rw [Registry.keys, hrfields, hall], hdeclare⟩
    · rintro ⟨-, -, hr⟩
      exact congrArg Except.ok (Except.ok.inj (hdeclare.symm.trans hr))

theorem exists_ofTable_iff (hfields : HasFields document entries) (hkeys : (entries.map Prod.fst).Nodup) :
    (∃ r, ofTable document = .ok r) ↔ ∀ e ∈ entries, WellFormed e.2 := by
  rw [← exists_fields_iff]
  rcases ofTable_cases hfields hkeys with ⟨fault, hfault, htable⟩ | ⟨fs, r, hfs, -, -, htable⟩
  · simp [hfault, htable]
  · simp [hfs, htable]

theorem ofTable_eq_error_iff (hfields : HasFields document entries) (hkeys : (entries.map Prod.fst).Nodup) :
    ofTable document = .error fault ↔ ∃ before key d after,
      entries = before ++ (key, d) :: after ∧ (∀ e ∈ before, WellFormed e.2) ∧ Faulty key d fault := by
  rw [← fields_eq_error_iff]
  rcases ofTable_cases hfields hkeys with ⟨fault', hfault, htable⟩ | ⟨fs, r, hfs, -, -, htable⟩
  · simp [hfault, htable]
  · simp [hfs, htable]

/-- **Schemas are the documents whose fields are all well formed.**  Any other document fails: for want of fields,
or with the first entry of the table of fields that is not well formed and with what is wrong with it first.  It is
refused for that, except for a type that is nested too deep to be shown, which has no message.  The registry of a
schema has its keys in their order, and it is the one that its entries declare.  A document is one that comes from a
file, so no table in it has a key twice. -/
theorem ofTable_exact (document : Table) (h : (Datum.table document).Distinct) :
    ((∃ r, ofTable document = .ok r) ↔ ∃ entries, HasFields document entries ∧ ∀ e ∈ entries, WellFormed e.2) ∧
    (∀ fault, ofTable document = .error fault ↔
      (∀ entries, ¬ HasFields document entries) ∧ fault = .refused .noFields ∨
      ∃ entries before key d after, HasFields document entries ∧ entries = before ++ (key, d) :: after ∧
        (∀ e ∈ before, WellFormed e.2) ∧ Faulty key d fault) ∧
    ∀ r, ofTable document = .ok r ↔ ∃ entries, HasFields document entries ∧ (∀ e ∈ entries, WellFormed e.2) ∧
      r.keys = entries.map (fun e => (e.1 : LooseText)) ∧ Registry.declare (entries.map declaration) = .ok r := by
  by_cases hsome : ∃ entries, HasFields document entries
  · obtain ⟨entries, hfields⟩ := hsome
    have hkeys := nodup_of_distinct h hfields
    refine ⟨?_, fun fault => ?_, fun r => ?_⟩
    · rw [exists_ofTable_iff hfields hkeys]
      exact ⟨fun hall => ⟨entries, hfields, hall⟩, fun ⟨_, hfields', hall⟩ => hfields.unique hfields' ▸ hall⟩
    · rw [ofTable_eq_error_iff hfields hkeys]
      constructor
      · rintro ⟨before, key, d, after, hfirst⟩
        exact .inr ⟨entries, before, key, d, after, hfields, hfirst⟩
      · rintro (⟨hnone, -⟩ | ⟨_, before, key, d, after, hfields', hfirst⟩)
        · exact absurd hfields (hnone entries)
        · exact ⟨before, key, d, after, hfields.unique hfields' ▸ hfirst⟩
    · rw [ofTable_eq_ok_iff hfields hkeys]
      exact ⟨fun hall => ⟨entries, hfields, hall⟩, fun ⟨_, hfields', hall⟩ => hfields.unique hfields' ▸ hall⟩
  · rw [not_exists] at hsome
    rw [ofTable_of_noFields hsome]
    refine ⟨?_, fun fault => ?_, fun r => ?_⟩
    · exact iff_of_false (by simp) fun ⟨entries, hfields, _⟩ => hsome entries hfields
    · simp [hsome, eq_comm]
    · exact iff_of_false (by simp) fun ⟨entries, hfields, _⟩ => hsome entries hfields

theorem distinct_single (h : d.Distinct) : (Datum.table [(key, d)]).Distinct :=
  .table (List.nodup_singleton key) (by simpa using h)

/-- A document with a title, a field that has all there is to a field, and one that has only a type. -/
def staffDocument : Table := [
  ("title", .text "Staff"),
  ("fields", .table [
    ("team", .table [("label", .text "Team"), ("type", .text "enum"), ("options", .array [.text "red", .text "blue"])]),
    ("age", .table [("type", .text "number")])])]

theorem ofTable_exact_staff : (Datum.table staffDocument).Distinct ∧
    ∃ r, ofTable staffDocument = .ok r ∧ r.keys = ["team", "age"] := by
  have hoptions : (Datum.array [.text "red", .text "blue"]).Distinct :=
    .array (by simpa using ⟨.text _, .text _⟩)
  have hteam : (Datum.table [("label", .text "Team"), ("type", .text "enum"),
      ("options", .array [.text "red", .text "blue"])]).Distinct :=
    .table (by decide) (by simpa using ⟨.text _, .text _, hoptions⟩)
  have hage : (Datum.table [("type", .text "number")]).Distinct := distinct_single (.text _)
  have hfields : (Datum.table [("team", .table [("label", .text "Team"), ("type", .text "enum"),
      ("options", .array [.text "red", .text "blue"])]), ("age", .table [("type", .text "number")])]).Distinct :=
    .table (by decide) (by simpa using ⟨hteam, hage⟩)
  have hdistinct : (Datum.table staffDocument).Distinct :=
    .table (by decide) (by simpa [staffDocument] using ⟨.text _, hfields⟩)
  obtain ⟨hok, -, hregistry⟩ := ofTable_exact staffDocument hdistinct
  obtain ⟨r, hr⟩ := hok.mpr ⟨_, ⟨rfl, by simp⟩, by
    simp only [List.forall_mem_cons]
    exact ⟨⟨_, rfl, ⟨"enum", by decide, rfl⟩, fun _ h => ⟨"Team", (Option.some.inj h).symm⟩,
      fun _ h => ⟨["red", "blue"], (Option.some.inj h).symm⟩⟩,
      ⟨_, rfl, ⟨"number", by decide, rfl⟩, nofun, nofun⟩, by simp⟩⟩
  obtain ⟨entries, ⟨hlookup, -⟩, -, hkeys, -⟩ := (hregistry r).mp hr
  cases hlookup
  exact ⟨hdistinct, r, hr, hkeys⟩

/-- Of two entries the first counts, and of two things that are wrong with it the type. -/
example : ofTable [("fields", .table [
    ("age", .table [("type", .array []), ("label", .integer 7)]), ("team", .text "")])] =
    .error (.refused (.type "age")) := rfl

/-- A table inside so many tables. -/
def sunk : Nat → Datum
  | 0 => .table []
  | depth + 1 => .table [("b", sunk depth)]

theorem unshown?_sunk {steps depth : Nat} (h : steps ≤ depth) : (sunk depth).unshown? steps = some .tooDeep := by
  induction depth generalizing steps with
  | zero =>
    obtain rfl := Nat.le_zero.mp h
    simp only [Datum.unshown?]
  | succ depth ih =>
    cases steps with
    | zero => simp only [Datum.unshown?]
    | succ steps =>
      simp only [sunk, Datum.unshown?, Datum.entriesUnshown?, ih (Nat.le_of_succ_le_succ h), Option.some_or]

theorem distinct_sunk (depth : Nat) : (sunk depth).Distinct := by
  induction depth with
  | zero => exact .table .nil nofun
  | succ depth ih => exact distinct_single ih

/-- A document with one field, whose type is a table inside twenty thousand tables. -/
def sunkDocument : Table := [("fields", .table [("a", .table [("type", sunk 20000)])])]

/-- There is a document that is no schema and is not refused for it either. -/
theorem ofTable_sunk : (Datum.table sunkDocument).Distinct ∧
    ofTable sunkDocument = .error (.brokenDown .tooDeep) := by
  refine ⟨distinct_single (distinct_single (distinct_single (distinct_sunk 20000))), ?_⟩
  have hfields : HasFields sunkDocument [("a", .table [("type", sunk 20000)])] := ⟨rfl, by simp⟩
  have hnot : ¬ HasType [("type", sunk 20000)] := by
    rintro ⟨w, -, hw⟩
    cases hw
  have hdeep : TypeTooDeep [("type", sunk 20000)] := ⟨_, rfl, unshown?_sunk (by decide)⟩
  exact (ofTable_eq_error_iff hfields (by simp)).mpr ⟨[], "a", _, [], rfl, nofun, .tooDeep hnot hdeep⟩

/-- No file of a schema names a key twice. -/
theorem load_ne_repeatedKey (w : Workspace) (path p : Path) (key : LooseText) :
    load w path ≠ .error (.schema p (.repeatedKey key)) := by
  intro h
  unfold load at h
  rcases bind_eq_error.mp h with h | ⟨path, -, h⟩
  · obtain ⟨b, -, heq⟩ := mapError_eq_error.mp h
    cases heq
  · rcases bind_eq_error.mp h with h | ⟨bytes, -, h⟩
    · obtain ⟨fault, -, heq⟩ := mapError_eq_error.mp h
      cases heq
    · split at h
      · cases h
      · cases h
      · cases h
      · next document hdecode =>
        obtain ⟨fault, hfault, heq⟩ := mapError_eq_error.mp h
        by_cases hsome : ∃ entries, HasFields document entries
        · obtain ⟨entries, hfields⟩ := hsome
          have hkeys := nodup_of_distinct (Toml.Document.distinct_of_decode hdecode) hfields
          obtain ⟨before, key, d, after, -, -, hfaulty⟩ := (ofTable_eq_error_iff hfields hkeys).mp hfault
          cases hfaulty <;> cases heq
        · rw [ofTable_of_noFields (not_exists.mp hsome)] at hfault
          cases hfault
          cases heq

end Schema
end FieldFilter
