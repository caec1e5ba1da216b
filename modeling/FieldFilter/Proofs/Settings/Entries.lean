import FieldFilter.Proofs.Settings.Load
import FieldFilter.Proofs.Toml.Draft
import FieldFilter.Proofs.Text.Occurrence

/-!
# FieldFilter.Proofs.Settings.Entries — the entries of a configuration one by one

A configuration has four entries, looked at in the order of `Entitled.all`.  With each of them two things can be
wrong: what stands there is not of its kind (`Misfits`), or its section is no table and cannot be searched
(`Obstructed`).  The first entry with which something is wrong decides what becomes of the whole
(`failure?_ofTable`).
-/

namespace FieldFilter

open Toml (Datum Table)

namespace Entitled

/-- The section in which an entry stands, and its key there. -/
def place : Entitled → String × String
  | schemaPath => ("paths", "schema")
  | dataPath => ("paths", "data")
  | coloredOutput => ("display", "colored_output")
  | columns => ("display", "columns")

/-- The entries in the order in which they are looked at. -/
def all : List Entitled := [schemaPath, dataPath, coloredOutput, columns]

/-- The datum is of the kind that the entry has to be of. -/
def Suits : Entitled → Datum → Prop
  | schemaPath, d | dataPath, d => ∃ s, d = .text s
  | coloredOutput, d => ∃ b, d = .boolean b
  | columns, d => ∃ texts : List String, d = .array (texts.map .text)

end Entitled

namespace Settings

variable {w : Workspace} {t entries : Table} {p : Path} {s : Settings} {e : Entitled} {d : Datum} {key x : String}
  {f : LoadFault}

/-! ### What can be wrong with an entry -/

/-- The datum stands in the place of the entry. -/
def Holds (t : Table) (e : Entitled) (d : Datum) : Prop :=
  ∃ entries, t.lookup e.place.1 = some (.table entries) ∧ entries.lookup e.place.2 = some d

/-- What stands in the place of the entry is not of its kind. -/
def Misfits (t : Table) (e : Entitled) : Prop := ∃ d, Holds t e d ∧ ¬ e.Suits d

/-- Looking for a key in a datum that is no table breaks down: the datum cannot be searched at all, or it is a
text with the key in it or an array with the key among its items. -/
def Blocks (key : String) : Datum → Prop
  | .table _ => False
  | .text s => key.toList <:+: s.toList
  | .array items => .text key ∈ items
  | _ => True

/-- The section of the entry is no table, and looking for the entry in it breaks down. -/
def Obstructed (t : Table) (e : Entitled) : Prop := ∃ d, t.lookup e.place.1 = some d ∧ Blocks e.place.2 d

/-- Something is wrong with the entry. -/
def Amiss (t : Table) (e : Entitled) : Prop := Misfits t e ∨ Obstructed t e

/-- Something is wrong with the entry, and with none that is looked at before it. -/
def FirstAmiss (t : Table) (e : Entitled) : Prop :=
  Amiss t e ∧ ∃ before after, Entitled.all = before ++ e :: after ∧ ∀ e' ∈ before, ¬ Amiss t e'

/-! ### Sections -/

theorem mem_texts_iff {items : List Datum} :
    (items.filterMap Datum.text?).contains key = true ↔ .text key ∈ items := by
  rw [List.contains_iff_mem, List.mem_filterMap]
  constructor
  · rintro ⟨d, hd, htext⟩
    cases d with
    | text s => exact Option.some.inj htext ▸ hd
    | _ => nomatch htext
  · exact fun h => ⟨_, h, rfl⟩

/-- Looking for an entry breaks down just if it is obstructed. -/
theorem entryOf_eq_error_iff : entryOf e.place.1 e.place.2 (t.lookup e.place.1) = .error f ↔
    Obstructed t e ∧ f = .breakdown (.notTable e.place.1) := by
  unfold Obstructed
  cases t.lookup e.place.1 with
  | none => simp [entryOf]
  | some d =>
    cases d with
    | text s =>
      by_cases h : Text.occursIn e.place.2.toList s.toList = true
      · simp [entryOf, Blocks, h, Text.occursIn_iff_infix.mp h, eq_comm]
      · simp [entryOf, Blocks, h, mt Text.occursIn_iff_infix.mpr h]
    | array items =>
      by_cases h : (items.filterMap Datum.text?).contains e.place.2 = true
      · simp only [entryOf, h]
        simp [Blocks, mem_texts_iff.mp h, eq_comm]
      · simp only [entryOf, h]
        simp [Blocks, mt mem_texts_iff.mpr h]
    | _ => simp [entryOf, Blocks, eq_comm]

/-- What is found in the place of an entry stands there. -/
theorem entryOf_eq_some_iff :
    entryOf e.place.1 e.place.2 (t.lookup e.place.1) = .ok (some d) ↔ Holds t e d := by
  unfold Holds
  cases t.lookup e.place.1 with
  | none => simp [entryOf]
  | some d' =>
    cases d' with
    | table entries => simp [entryOf]
    | text s =>
      simp only [entryOf]
      split <;> simp
    | array items =>
      simp only [entryOf]
      split <;> simp
    | _ => simp [entryOf]

/-! ### Readers of entries -/

/-- The reader of an entry refuses just what is not of the entry's kind. -/
def Judges {α : Type} (e : Entitled) (read : Option Datum → Except LoadFault α) : Prop :=
  failure? (read none) = none ∧
    ∀ d, (e.Suits d → failure? (read (some d)) = none) ∧ (¬ e.Suits d → failure? (read (some d)) = some (.entry e))

theorem judges_pathEntry (he : e = .schemaPath ∨ e = .dataPath) : Judges e (pathEntry e) := by
  have hsuits : ∀ d, e.Suits d ↔ ∃ s, d = .text s := by
    rcases he with rfl | rfl <;> exact fun d => Iff.rfl
  refine ⟨rfl, fun d => ?_⟩
  rw [hsuits]
  cases d <;> simp [pathEntry, failure?]

theorem judges_flagEntry (fallback : Bool) : Judges .coloredOutput (flagEntry .coloredOutput fallback) := by
  refine ⟨rfl, fun d => ?_⟩
  cases d <;> simp [flagEntry, failure?, Entitled.Suits]

theorem judges_textsEntry : Judges .columns (textsEntry .columns) := by
  refine ⟨rfl, fun d => ?_⟩
  have hsuits : Entitled.columns.Suits d ↔ ∃ texts, d.texts? = some texts := by
    simp only [Datum.texts?_eq_some, Entitled.Suits]
  rw [hsuits, textsEntry]
  cases d.texts? <;> simp [failure?]

/-! ### The first fault -/

open Classical in
/-- What is wrong with an entry. -/
noncomputable def fault? (t : Table) (e : Entitled) : Option LoadFault :=
  if Misfits t e then some (.entry e)
  else if Obstructed t e then some (.breakdown (.notTable e.place.1))
  else none

theorem fault?_eq_none : fault? t e = none ↔ ¬ Amiss t e := by
  unfold fault? Amiss
  split_ifs <;> simp_all

/-- What stands in a table is reached. -/
theorem not_obstructed_of_holds (h : Holds t e d) : ¬ Obstructed t e := by
  rintro ⟨d', hlookup, hblocks⟩
  obtain ⟨entries, htable, -⟩ := h
  rw [htable] at hlookup
  cases hlookup
  exact hblocks

theorem fault?_eq_some : fault? t e = some f ↔
    Misfits t e ∧ f = .entry e ∨ Obstructed t e ∧ f = .breakdown (.notTable e.place.1) := by
  unfold fault?
  split_ifs with hmisfits hobstructed
  · have hclear : ¬ Obstructed t e := by
      obtain ⟨d, hd, -⟩ := hmisfits
      exact not_obstructed_of_holds hd
    simp [hmisfits, hclear, eq_comm]
  · simp [hmisfits, hobstructed, eq_comm]
  · simp [hmisfits, hobstructed]

/-- Looking for an entry and reading it fails with what is wrong with the entry. -/
theorem failure?_entry {α : Type} {read : Option Datum → Except LoadFault α} (h : Judges e read) :
    failure? (entryOf e.place.1 e.place.2 (t.lookup e.place.1) >>= read) = fault? t e := by
  obtain ⟨hnone, hsome⟩ := h
  cases hentry : entryOf e.place.1 e.place.2 (t.lookup e.place.1) with
  | error f => exact (fault?_eq_some.mpr (.inr (entryOf_eq_error_iff.mp hentry))).symm
  | ok found =>
    have hclear : ¬ Obstructed t e := fun hobstructed => by
      have herror := entryOf_eq_error_iff.mpr ⟨hobstructed, rfl⟩
      exact nomatch hentry.symm.trans herror
    cases found with
    | none =>
      refine hnone.trans (fault?_eq_none.mpr ?_).symm
      rintro (⟨d, hd, -⟩ | hobstructed)
      · exact nomatch hentry.symm.trans (entryOf_eq_some_iff.mpr hd)
      · exact hclear hobstructed
    | some d =>
      have hd : Holds t e d := entryOf_eq_some_iff.mp hentry
      by_cases hsuits : e.Suits d
      · refine ((hsome d).1 hsuits).trans (fault?_eq_none.mpr ?_).symm
        rintro (⟨d', hd', hmisfits⟩ | hobstructed)
        · have hsame := hentry.symm.trans (entryOf_eq_some_iff.mpr hd')
          cases hsame
          exact hmisfits hsuits
        · exact hclear hobstructed
      · exact ((hsome d).2 hsuits).trans (fault?_eq_some.mpr (.inl ⟨⟨d, hd, hsuits⟩, rfl⟩)).symm

/-- **The first entry with which something is wrong** decides what becomes of the document. -/
theorem failure?_ofTable (t : Table) (p : Path) :
    failure? (ofTable t p) = Entitled.all.findSome? (fault? t) := by
  have hschema : failure? (entryOf "paths" "schema" (t.lookup "paths") >>= pathEntry .schemaPath) =
      fault? t .schemaPath := failure?_entry (judges_pathEntry (.inl rfl))
  have hdata : failure? (entryOf "paths" "data" (t.lookup "paths") >>= pathEntry .dataPath) =
      fault? t .dataPath := failure?_entry (judges_pathEntry (.inr rfl))
  have hcolored : failure? (entryOf "display" "colored_output" (t.lookup "display") >>=
      flagEntry .coloredOutput true) = fault? t .coloredOutput := failure?_entry (judges_flagEntry true)
  have hcolumns : failure? (entryOf "display" "columns" (t.lookup "display") >>= textsEntry .columns) =
      fault? t .columns := failure?_entry judges_textsEntry
  have hchain : failure? (ofTable t p) = (fault? t .schemaPath).or ((fault? t .dataPath).or
      ((fault? t .coloredOutput).or ((fault? t .columns).or none))) := by
    rw [← hschema, ← hdata, ← hcolored, ← hcolumns]
    exact failure?_bind_bind fun _ => failure?_bind_bind fun _ => failure?_bind_bind fun _ =>
      failure?_bind_bind fun _ => rfl
  rw [hchain]
  simp only [Entitled.all, List.findSome?_cons, List.findSome?_nil]
  cases fault? t .schemaPath <;> cases fault? t .dataPath <;> cases fault? t .coloredOutput <;>
    cases fault? t .columns <;> rfl

/-- A document is a configuration just if nothing is wrong with its entries. -/
theorem exists_ofTable_iff (t : Table) (p : Path) : (∃ s, ofTable t p = .ok s) ↔ ∀ e, ¬ Amiss t e := by
  have hall : ∀ e, e ∈ Entitled.all := fun e => by cases e <;> decide
  rw [← failure?_eq_none, failure?_ofTable, List.findSome?_eq_none_iff]
  exact ⟨fun h e => fault?_eq_none.mp (h e (hall e)), fun h e _ => fault?_eq_none.mpr (h e)⟩

/-- A document is refused with the first of its entries with which something is wrong. -/
theorem ofTable_eq_error_iff : ofTable t p = .error f ↔ ∃ e, FirstAmiss t e ∧
    (Misfits t e ∧ f = .entry e ∨ Obstructed t e ∧ f = .breakdown (.notTable e.place.1)) := by
  rw [← failure?_eq_some, failure?_ofTable, List.findSome?_eq_some_iff]
  simp only [fault?_eq_none, fault?_eq_some]
  constructor
  · rintro ⟨before, e, after, hall, hfault, hbefore⟩
    exact ⟨e, ⟨hfault.imp And.left And.left, before, after, hall, hbefore⟩, hfault⟩
  · rintro ⟨e, ⟨-, before, after, hall, hbefore⟩, hfault⟩
    exact ⟨before, e, after, hall, hfault, hbefore⟩

theorem ofTable_eq_entry_iff : ofTable t p = .error (.entry e) ↔ FirstAmiss t e ∧ Misfits t e := by
  rw [ofTable_eq_error_iff]
  constructor
  · rintro ⟨e', hfirst, ⟨hmisfits, heq⟩ | ⟨-, heq⟩⟩
    · cases heq
      exact ⟨hfirst, hmisfits⟩
    · cases heq
  · exact fun ⟨hfirst, hmisfits⟩ => ⟨e, hfirst, .inl ⟨hmisfits, rfl⟩⟩

/-- The path that is read in the place of an entry is the text that stands there. -/
theorem pathEntry_eq_some {found : Option Datum} {q : Path} {path : Option Path}
    (hentry : entryOf e.place.1 e.place.2 (t.lookup e.place.1) = .ok found)
    (hpath : pathEntry e found = .ok path) : path = some q ↔ ∃ x, Holds t e (.text x) ∧ q = Path.ofText x := by
  simp only [← entryOf_eq_some_iff, hentry, Except.ok.injEq]
  cases found with
  | none =>
    cases hpath
    simp
  | some d =>
    cases d with
    | text x =>
      cases hpath
      simp [eq_comm]
    | _ => nomatch hpath

/-! ### Loading -/

/-- Of a path in a configuration, relative to a directory, it can be told whether anything is there. -/
def CanAsk (w : Workspace) (base q : Path) : Prop :=
  ∃ r present, absolute w base q = .ok r ∧ w.isPresent r = .ok present

theorem exists_checkPath_iff {base : Path} {missing : Path → Notice} {path : Option Path} :
    (∃ found, checkPath w base missing path = .ok found) ↔ ∀ q ∈ path, CanAsk w base q := by
  cases path with
  | none => exact iff_of_true ⟨_, rfl⟩ (by simp)
  | some q =>
    simp only [Prod.exists, checkPath_eq_ok, Option.mem_some_iff, forall_eq']
    exact ⟨fun ⟨_, _, r, present, hr, hpresent, _⟩ => ⟨r, present, hr, hpresent⟩,
      fun ⟨r, present, hr, hpresent⟩ => ⟨_, _, r, present, hr, hpresent, rfl, rfl⟩⟩

theorem exists_check_iff (hsource : s.source = some p) :
    (∃ found, s.check w = .ok found) ↔
      (∀ q ∈ s.schemaPath, CanAsk w p.parent q) ∧ ∀ q ∈ s.dataPath, CanAsk w p.parent q := by
  have hschema : (∃ found, checkPath w p.parent .noSchemaFile s.schemaPath = .ok found) ↔ _ :=
    exists_checkPath_iff
  have hdata : (∃ found, checkPath w p.parent .noDataFile s.dataPath = .ok found) ↔ _ := exists_checkPath_iff
  rw [← hschema, ← hdata]
  constructor
  · rintro ⟨⟨s', notices⟩, hcheck⟩
    obtain ⟨_, _, _, _, hschema, hdata, -⟩ := (check_eq_ok hsource).mp hcheck
    exact ⟨⟨_, hschema⟩, ⟨_, hdata⟩⟩
  · rintro ⟨⟨⟨_, _⟩, hschema⟩, ⟨_, _⟩, hdata⟩
    exact ⟨_, (check_eq_ok hsource).mpr ⟨_, _, _, _, hschema, hdata, rfl, rfl⟩⟩

/-- Of every path that the document names it can be told whether anything is there. -/
def PathsAskable (w : Workspace) (p : Path) (t : Table) : Prop :=
  ∀ e ∈ [Entitled.schemaPath, .dataPath], ∀ x, Holds t e (.text x) → CanAsk w p.parent (Path.ofText x)

theorem exists_check_ofTable_iff (h : ofTable t p = .ok s) :
    (∃ found, s.check w = .ok found) ↔ PathsAskable w p t := by
  obtain ⟨_, _, _, _, hschema, hschemaPath, hdata, hdataPath, -, -, -, -, hsource⟩ := ofTable_eq_ok.mp h
  have hschemaText : ∀ q, s.schemaPath = some q ↔ ∃ x, Holds t .schemaPath (.text x) ∧ q = Path.ofText x :=
    fun q => pathEntry_eq_some hschema hschemaPath
  have hdataText : ∀ q, s.dataPath = some q ↔ ∃ x, Holds t .dataPath (.text x) ∧ q = Path.ofText x :=
    fun q => pathEntry_eq_some hdata hdataPath
  rw [exists_check_iff hsource]
  simp only [Option.mem_def, hschemaText, hdataText]
  constructor
  · rintro ⟨hschema, hdata⟩ e he x hx
    rcases List.mem_cons.mp he with rfl | he
    · exact hschema _ ⟨x, hx, rfl⟩
    · obtain rfl := List.mem_singleton.mp he
      exact hdata _ ⟨x, hx, rfl⟩
  · intro h
    constructor
    · rintro _ ⟨x, hx, rfl⟩
      exact h _ (by simp) x hx
    · rintro _ ⟨x, hx, rfl⟩
      exact h _ (by simp) x hx

section

variable {given : Option Path} {bytes : ByteArray} (hlocate : w.locate (given.getD defaultPath) = .ok p)
  (hread : w.read p = .ok bytes)
include hlocate hread

/-- Loading a document goes through its entries and then through its paths. -/
theorem load_of_decode (hdecode : Toml.Document.decode bytes = .ok t) :
    load w given = ofTable t p >>= fun s => (s.check w).mapError .breakdown := by
  rw [load_of_read hlocate hread, hdecode]

/-- A file is refused for an entry just if that is the first with which something is wrong, and is not of its
kind. -/
theorem load_eq_entry_iff : load w given = .error (.entry e) ↔
    ∃ t, Toml.Document.decode bytes = .ok t ∧ FirstAmiss t e ∧ Misfits t e := by
  cases hdecode : Toml.Document.decode bytes with
  | error fault =>
    rw [load_of_read hlocate hread, hdecode]
    cases fault <;> simp
  | ok t =>
    rw [load_of_decode hlocate hread hdecode, bind_eq_error, ofTable_eq_entry_iff]
    constructor
    · rintro (h | ⟨s, -, h⟩)
      · exact ⟨t, rfl, h⟩
      · obtain ⟨b, -, hb⟩ := mapError_eq_error.mp h
        nomatch hb
    · rintro ⟨_, heq, h⟩
      cases heq
      exact .inl h

/-- A file that is refused with a message is refused as a whole or for an entry. -/
theorem load_error_cases (h : load w given = .error f) :
    f = .configuration p ∨ (∃ e, f = .entry e) ∨ ∃ b, f = .breakdown b := by
  rw [load_of_read hlocate hread] at h
  cases hdecode : Toml.Document.decode bytes with
  | error fault =>
    rw [hdecode] at h
    cases fault <;> cases h <;> simp
  | ok t =>
    rw [hdecode] at h
    rcases bind_eq_error.mp h with hf | ⟨s, -, hf⟩
    · obtain ⟨e, -, ⟨-, rfl⟩ | ⟨-, rfl⟩⟩ := ofTable_eq_error_iff.mp hf <;> simp
    · obtain ⟨b, -, rfl⟩ := mapError_eq_error.mp hf
      simp

/-- A file is loaded, or refused with a message, just if it is no document for a fault of its form, or it is a
document in which the first entry with which something is wrong is not of its kind, or nothing is wrong with its
entries and its paths can be asked for. -/
theorem load_told_iff : (∀ b, load w given ≠ .error (.breakdown b)) ↔
    Toml.Document.decode bytes = .error .malformed ∨ ∃ t, Toml.Document.decode bytes = .ok t ∧
      ((∃ e, FirstAmiss t e ∧ Misfits t e) ∨ (∀ e, ¬ Amiss t e) ∧ PathsAskable w p t) := by
  cases hdecode : Toml.Document.decode bytes with
  | error fault =>
    rw [load_of_read hlocate hread, hdecode]
    cases fault <;> simp
  | ok t =>
    rw [load_of_decode hlocate hread hdecode]
    cases htable : ofTable t p with
    | error f =>
      obtain ⟨e, hfirst, ⟨hmisfits, rfl⟩ | ⟨hobstructed, rfl⟩⟩ := ofTable_eq_error_iff.mp htable
      · refine iff_of_true (fun b h => ?_) (.inr ⟨t, rfl, .inl ⟨e, hfirst, hmisfits⟩⟩)
        cases h
      · refine iff_of_false (fun h => h _ rfl) ?_
        rintro (h | ⟨_, heq, ⟨e', hfirst', hmisfits'⟩ | ⟨hclear, -⟩⟩)
        · nomatch h
        · cases heq
          exact nomatch htable.symm.trans (ofTable_eq_entry_iff.mpr ⟨hfirst', hmisfits'⟩)
        · cases heq
          exact hclear e (.inr hobstructed)
    | ok s =>
      have hclear := (exists_ofTable_iff t p).mp ⟨s, htable⟩
      have hask := exists_check_ofTable_iff (w := w) htable
      cases hcheck : s.check w with
      | error b =>
        refine iff_of_false (fun h => h b (by simp [hcheck, bind, Except.bind, Except.mapError])) ?_
        rintro (h | ⟨_, heq, ⟨e, hfirst, -⟩ | ⟨-, hpaths⟩⟩)
        · nomatch h
        · cases heq
          exact hclear e hfirst.1
        · cases heq
          obtain ⟨found, hfound⟩ := hask.mpr hpaths
          exact nomatch hcheck.symm.trans hfound
      | ok found =>
        refine iff_of_true (fun b h => ?_) (.inr ⟨t, rfl, .inr ⟨hclear, hask.mp ⟨found, hcheck⟩⟩⟩)
        simp [hcheck, bind, Except.bind, Except.mapError] at h

end

end Settings
end FieldFilter
