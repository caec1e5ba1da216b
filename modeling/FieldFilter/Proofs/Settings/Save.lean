import FieldFilter.Proofs.Settings.Entries
import FieldFilter.Proofs.Toml.Written

/-!
# FieldFilter.Proofs.Settings.Save — saving and loading again

A configuration that was loaded holds resolved paths and whole columns (`Settled`).  Saved and loaded again it is
the same (`load_save_iff`), if its paths are made of characters: a path with bytes in it that are no text has no
place in a file that is text (`save_byteless`).
-/

namespace FieldFilter.Settings

open Toml (Datum Table)

variable {w after : Workspace} {s s' : Settings} {p q : Path} {given target : LooseText} {notices : List Notice}
  {text : String} {t : Table} {e : Entitled}

/-- The paths of the configuration. -/
def paths (s : Settings) : List Path := s.schemaPath.toList ++ s.dataPath.toList

/-- The configuration is as loading leaves it: its paths are resolved, and its columns are whole. -/
structure Settled (s : Settings) : Prop where
  resolved : ∀ p ∈ s.paths, p.Resolved
  columns : ∀ t ∈ s.columns, t.Whole

theorem mem_paths : p ∈ s.paths ↔ s.schemaPath = some p ∨ s.dataPath = some p := by
  simp [paths]

/-! ### What was loaded -/

/-- A configuration that is loaded has no file, or a document that describes it. -/
theorem cases_of_load {given : Option Path} (h : load w given = .ok (s, notices)) :
    s = {} ∨ ∃ p t s₀, w.locate (given.getD defaultPath) = .ok p ∧ ofTable t p = .ok s₀ ∧
      s₀.check w = .ok (s, notices) := by
  obtain ⟨p, hp, hpresence⟩ := bind_eq_ok.mp h
  obtain ⟨present, -, hrest⟩ := bind_eq_ok.mp hpresence
  have hlocate := mapError_eq_ok.mp hp
  cases present with
  | false =>
    cases hrest
    exact .inl rfl
  | true =>
    obtain ⟨bytes, hbytes, -⟩ := bind_eq_ok.mp hrest
    rw [load_of_read hlocate (mapError_eq_ok.mp hbytes)] at h
    cases hdecode : Toml.Document.decode bytes with
    | error fault => rw [hdecode] at h; cases fault <;> cases h
    | ok t =>
      rw [hdecode] at h
      obtain ⟨s₀, htable, hcheck⟩ := bind_eq_ok.mp h
      exact .inr ⟨p, t, s₀, hlocate, htable, mapError_eq_ok.mp hcheck⟩

theorem resolved_of_absolute (hw : w.Normal) (hp : p.Normal) {base r : Path} (hbase : base.Normal)
    (h : absolute w base p = .ok r) : r.Resolved := by
  obtain ⟨q, hq, hr⟩ := absolute_eq_ok.mp h
  exact Path.resolved_of_resolve (hbase.join (hw.expandHome hp hq)) hw.directory hw.usable hr

/-- A path that was checked is resolved. -/
theorem resolved_of_checkPath (hw : w.Normal) {base : Path} (hbase : base.Normal) {missing : Path → Notice}
    {path found : Option Path} (hpath : ∀ p ∈ path, p.Normal)
    (h : checkPath w base missing path = .ok (found, notices)) : ∀ p ∈ found, p.Resolved := by
  cases path with
  | none => cases h; simp
  | some p =>
    obtain ⟨r, _, hr, -, rfl, -⟩ := checkPath_eq_ok.mp h
    simpa using resolved_of_absolute hw (hpath p rfl) hbase hr

theorem whole_textsEntry {found : Option Datum} {texts : List LooseText} (h : textsEntry e found = .ok texts) :
    ∀ t ∈ texts, t.Whole := by
  cases found with
  | none => cases h; simp
  | some d =>
    rw [textsEntry] at h
    cases htexts : d.texts? with
    | none => simp [htexts] at h
    | some ss =>
      obtain rfl : ss.map .ofString = texts := by simpa [htexts] using h
      intro t ht
      obtain ⟨s, -, rfl⟩ := List.mem_map.mp ht
      exact ⟨s, rfl⟩

theorem normal_pathEntry {found : Option Datum} {path : Option Path} (h : pathEntry e found = .ok path) :
    ∀ p ∈ path, p.Normal := by
  cases found with
  | none => cases h; simp
  | some d =>
    cases d with
    | text x =>
      cases h
      simpa using Path.normal_ofText x
    | _ => nomatch h

/-- What is loaded is settled. -/
theorem settled_of_load (hw : w.Normal) {given : Option Path} (hgiven : ∀ p ∈ given, p.Normal)
    (h : load w given = .ok (s, notices)) : s.Settled := by
  rcases cases_of_load h with rfl | ⟨p, t, s₀, hlocate, htable, hcheck⟩
  · exact ⟨by simp [paths], by simp⟩
  · have hp : p.Resolved := by
      refine hw.resolved ?_ hlocate
      cases given with
      | none => exact Path.normal_ofText _
      | some p => exact hgiven p rfl
    obtain ⟨_, _, _, _, -, hschema, -, hdata, -, -, -, htexts, hsource⟩ := ofTable_eq_ok.mp htable
    obtain ⟨_, _, _, _, hcheckSchema, hcheckData, rfl, -⟩ := (check_eq_ok hsource).mp hcheck
    refine ⟨fun p hmem => ?_, whole_textsEntry htexts⟩
    rcases mem_paths.mp hmem with hpath | hpath
    · exact resolved_of_checkPath hw hp.parent.normal (normal_pathEntry hschema) hcheckSchema p hpath
    · exact resolved_of_checkPath hw hp.parent.normal (normal_pathEntry hdata) hcheckData p hpath

/-! ### What was saved -/

/-- The text of a resolved path is not empty. -/
theorem isEmpty_text (hp : p.Resolved) : p.text.isEmpty = false := by
  rw [LooseText.isEmpty, hp.text_eq]
  rfl

theorem bare_keys : ∀ k ∈ ["display", "paths", "colored_output", "columns", "schema", "data"], Toml.Bare k := by
  decide

/-- A settled configuration with whole paths can be written. -/
theorem writable_sections (hs : s.Settled) (hpaths : ∀ p ∈ s.paths, p.text.Whole) :
    ∀ part ∈ s.sections, Toml.Writable part := by
  have hpath : ∀ p ∈ s.paths, (Toml.Setting.text p.text).Whole :=
    fun p hp => ⟨hpaths p hp, isEmpty_text (hs.resolved p hp)⟩
  have hcolumns : (Toml.Setting.texts s.columns).Whole := hs.columns
  have hflag : (Toml.Setting.flag s.coloredOutput).Whole := trivial
  have hbare := bare_keys
  obtain ⟨schemaPath, dataPath, colored, columns, source⟩ := s
  simp only [List.forall_mem_cons] at hbare
  cases schemaPath <;> cases dataPath <;> cases columns <;>
    simp_all only [paths, sections, Toml.Writable, List.forall_mem_cons, Option.toList_some, Option.toList_none,
      Option.map_some, Option.map_none, List.isEmpty_nil, List.isEmpty_cons, List.nil_append, List.cons_append,
      if_true, if_false, Bool.false_eq_true, List.not_mem_nil, and_self, true_and] <;> simp

/-- No section and no key of a section is written twice. -/
theorem nodup_sections (s : Settings) :
    (s.sections.map Prod.fst).Nodup ∧ ∀ part ∈ s.sections, (part.2.map Prod.fst).Nodup := by
  obtain ⟨schemaPath, dataPath, colored, columns, source⟩ := s
  cases schemaPath <;> cases dataPath <;> cases columns <;> simp [sections]

theorem read_write (hs : s.Settled) (hpaths : ∀ p ∈ s.paths, p.text.Whole) (htext : s.write.whole? = some text) :
    Toml.Document.read text = .ok (Toml.writtenTable s.sections) :=
  Toml.Document.read_writeSections (writable_sections hs hpaths) (nodup_sections s).1 (nodup_sections s).2 htext

section

variable (s)

theorem entryOf_schema : entryOf "paths" "schema" ((Toml.writtenTable s.sections).lookup "paths") =
    .ok (s.schemaPath.map fun q => .text (q.text.whole?.getD "")) := by
  obtain ⟨schemaPath, dataPath, colored, columns, source⟩ := s
  cases schemaPath <;> cases dataPath <;> rfl

theorem entryOf_data : entryOf "paths" "data" ((Toml.writtenTable s.sections).lookup "paths") =
    .ok (s.dataPath.map fun q => .text (q.text.whole?.getD "")) := by
  obtain ⟨schemaPath, dataPath, colored, columns, source⟩ := s
  cases schemaPath <;> cases dataPath <;> rfl

theorem entryOf_colored : entryOf "display" "colored_output" ((Toml.writtenTable s.sections).lookup "display") =
    .ok (some (.boolean s.coloredOutput)) := by
  rfl

theorem entryOf_columns : entryOf "display" "columns" ((Toml.writtenTable s.sections).lookup "display") =
    .ok (if s.columns.isEmpty then none
      else some (.array (s.columns.map fun t => .text (t.whole?.getD "")))) := by
  obtain ⟨schemaPath, dataPath, colored, columns, source⟩ := s
  cases columns <;> rfl

end

theorem textsEntry_written {texts : List LooseText} (h : ∀ t ∈ texts, t.Whole) :
    textsEntry e (if texts.isEmpty then none
      else some (.array (texts.map fun t => .text (t.whole?.getD "")))) = .ok texts := by
  obtain ⟨ss, rfl⟩ := LooseText.exists_map_ofString h
  have htexts : (Datum.array (ss.map .text)).texts? = some ss := Datum.texts?_eq_some.mpr rfl
  by_cases hempty : ss = []
  · subst hempty
    rfl
  · simp only [List.map_map, Function.comp_def, LooseText.whole?_ofString, Option.getD_some]
    rw [if_neg (by simpa using hempty), textsEntry, htexts]

/-- The document of a settled configuration describes it. -/
theorem ofTable_written (hs : s.Settled) (hpaths : ∀ p ∈ s.paths, p.text.Whole) (p : Path) :
    ofTable (Toml.writtenTable s.sections) p = .ok { s with source := some p } := by
  have hpath : ∀ e path, (∀ q ∈ path, q ∈ s.paths) →
      pathEntry e (path.map fun q => .text (q.text.whole?.getD "")) = .ok path := by
    intro e path hmem
    cases path with
    | none => rfl
    | some q =>
      obtain ⟨x, hx⟩ := hpaths q (hmem q rfl)
      rw [Option.map_some, hx, LooseText.whole?_ofString, Option.getD_some, pathEntry, ← hx,
        (hs.resolved q (hmem q rfl)).ofText_text]
  have hschema := hpath .schemaPath s.schemaPath fun q hq => mem_paths.mpr (.inl hq)
  have hdata := hpath .dataPath s.dataPath fun q hq => mem_paths.mpr (.inr hq)
  exact ofTable_eq_ok.mpr ⟨_, _, _, _, entryOf_schema s, hschema, entryOf_data s, hdata, entryOf_colored s, rfl,
    entryOf_columns s, textsEntry_written hs.columns, rfl⟩

/-! ### Saving and loading again -/

theorem mem_sections (hp : p ∈ s.paths) :
    ∃ part ∈ s.sections, ∃ key, (key, Toml.Setting.text p.text) ∈ part.2 := by
  obtain ⟨schemaPath, dataPath, colored, columns, source⟩ := s
  rcases mem_paths.mp hp with rfl | rfl
  · cases dataPath <;> exact ⟨_, List.mem_cons_of_mem _ List.mem_cons_self, "schema", List.mem_cons_self⟩
  · cases schemaPath with
    | none => exact ⟨_, List.mem_cons_of_mem _ List.mem_cons_self, "data", List.mem_cons_self⟩
    | some _ =>
      exact ⟨_, List.mem_cons_of_mem _ List.mem_cons_self, "data", List.mem_cons_of_mem _ List.mem_cons_self⟩

/-- The text of a configuration is whole just if its paths are. -/
theorem whole_write_iff (hs : s.Settled) : s.write.Whole ↔ ∀ p ∈ s.paths, p.text.Whole := by
  refine ⟨fun h p hp => ?_, fun h => Toml.whole_writeSections (writable_sections hs h)⟩
  obtain ⟨part, hpart, key, hkey⟩ := mem_sections hp
  exact Toml.whole_of_written hpart hkey h

theorem save_eq_ok : s.save w (some q) = .ok after ↔
    ∃ p text, w.locate q = .ok p ∧ s.write.whole? = some text ∧ w.write p text.toUTF8 = .ok after := by
  have htarget : s.target w (some q) = w.locate q := rfl
  unfold save
  rw [htarget]
  constructor
  · intro h
    obtain ⟨p, hp, h⟩ := bind_eq_ok.mp h
    cases hwhole : s.write.whole? with
    | some text =>
      rw [hwhole] at h
      exact ⟨p, text, hp, rfl, mapError_eq_ok.mp h⟩
    | none =>
      rw [hwhole] at h
      obtain ⟨_, -, h⟩ := bind_eq_ok.mp h
      nomatch h
  · rintro ⟨p, text, hp, hwhole, hwrite⟩
    refine bind_eq_ok.mpr ⟨p, hp, ?_⟩
    rw [hwhole]
    exact mapError_eq_ok.mpr hwrite

theorem checkPath_of_resolved (base : Path) (missing : Path → Notice) {path : Option Path}
    (h : ∀ q ∈ path, q.Resolved) : (∃ notices, checkPath w base missing path = .ok (path, notices)) ↔
      ∀ q ∈ path, ∃ present, w.isPresent q = .ok present := by
  cases path with
  | none => exact iff_of_true ⟨_, rfl⟩ (by simp)
  | some q =>
    constructor
    · rintro ⟨notices, hcheck⟩ _ ⟨⟩
      obtain ⟨r, present, -, hpresent, heq, -⟩ := checkPath_eq_ok.mp hcheck
      cases heq
      exact ⟨present, hpresent⟩
    · intro hasked
      obtain ⟨present, hpresent⟩ := hasked q rfl
      exact ⟨_, checkPath_eq_ok.mpr ⟨q, present, absolute_of_resolved (h q rfl), hpresent, rfl, rfl⟩⟩

/-- A settled configuration is left as it is, if its paths can be asked for. -/
theorem check_of_settled (hs : s.Settled) (hsource : s.source = some p) :
    (∃ notices, s.check w = .ok (s, notices)) ↔ ∀ q ∈ s.paths, ∃ present, w.isPresent q = .ok present := by
  have hschema := checkPath_of_resolved (w := w) p.parent .noSchemaFile
    fun q hq => hs.resolved q (mem_paths.mpr (.inl hq))
  have hdata := checkPath_of_resolved (w := w) p.parent .noDataFile
    fun q hq => hs.resolved q (mem_paths.mpr (.inr hq))
  have hsplit : (∀ q ∈ s.paths, ∃ present, w.isPresent q = .ok present) ↔
      (∀ q ∈ s.schemaPath, ∃ present, w.isPresent q = .ok present) ∧
        ∀ q ∈ s.dataPath, ∃ present, w.isPresent q = .ok present := by
    simp only [mem_paths, or_imp, forall_and, Option.mem_def]
  rw [hsplit, ← hschema, ← hdata]
  constructor
  · rintro ⟨notices, h⟩
    obtain ⟨schemaPath, _, dataPath, _, hcheckSchema, hcheckData, heq, -⟩ := (check_eq_ok hsource).mp h
    obtain rfl : s.schemaPath = schemaPath := congrArg Settings.schemaPath heq
    obtain rfl : s.dataPath = dataPath := congrArg Settings.dataPath heq
    exact ⟨⟨_, hcheckSchema⟩, ⟨_, hcheckData⟩⟩
  · rintro ⟨⟨_, hcheckSchema⟩, ⟨_, hcheckData⟩⟩
    exact ⟨_, (check_eq_ok hsource).mpr ⟨_, _, _, _, hcheckSchema, hcheckData, rfl, rfl⟩⟩

/-- Of the paths of a configuration that is loaded it can be told whether anything is there. -/
theorem isPresent_of_load {given : Option Path} (h : load w given = .ok (s, notices)) :
    ∀ q ∈ s.paths, ∃ present, w.isPresent q = .ok present := by
  have hcheckPath : ∀ {base missing path found notices},
      checkPath w base missing path = .ok (found, notices) → ∀ q ∈ found, ∃ present, w.isPresent q = .ok present := by
    intro base missing path found notices hcheck
    cases path with
    | none => cases hcheck; simp
    | some q =>
      obtain ⟨r, present, -, hpresent, rfl, -⟩ := checkPath_eq_ok.mp hcheck
      rintro _ ⟨⟩
      exact ⟨present, hpresent⟩
  rcases cases_of_load h with rfl | ⟨p, t, s₀, -, htable, hcheck⟩
  · simp [paths]
  · obtain ⟨_, _, _, _, hschema, hdata, rfl, -⟩ := (check_eq_ok (ofTable_source htable)).mp hcheck
    exact fun q hq => (mem_paths.mp hq).elim (hcheckPath hschema q) (hcheckPath hdata q)

/-- **Loading, saving and loading again**: a configuration that was loaded can be saved wherever a file can be
written, just if its paths are made of characters.  What is loaded then is the same configuration, just if of its
paths it can still be told whether anything is there, and so it is unless directories are made for the file. -/
theorem load_save_iff {given : Option LooseText} {made : Workspace} (hw : w.Normal)
    (hload : load w (given.map Path.ofText) = .ok (s, notices)) (hlocate : w.locate (Path.ofText target) = .ok p)
    (hwritable : w.write p .empty = .ok made) :
    ((∃ after, s.save w (some (Path.ofText target)) = .ok after) ↔ ∀ q ∈ s.paths, q.text.Whole) ∧
      ∀ after, s.save w (some (Path.ofText target)) = .ok after →
        ((∃ notices, load after (some (Path.ofText target)) = .ok ({ s with source := some p }, notices)) ↔
          ∀ q ∈ s.paths, ∃ present, after.isPresent q = .ok present) ∧
        (w.isPresent p.parent = .ok true →
          ∃ notices, load after (some (Path.ofText target)) = .ok ({ s with source := some p }, notices)) := by
  have hs : s.Settled := settled_of_load hw (by cases given <;> simp [Path.normal_ofText]) hload
  have hp : p.Resolved := hw.resolved (Path.normal_ofText target) hlocate
  refine ⟨?_, fun after hsave => ?_⟩
  · rw [← whole_write_iff hs]
    constructor
    · rintro ⟨after, hsave⟩
      obtain ⟨_, text, -, htext, -⟩ := save_eq_ok.mp hsave
      exact ⟨text, LooseText.whole?_eq_some.mp htext⟩
    · rintro ⟨text, htext⟩
      obtain ⟨after, hwrite⟩ := Workspace.exists_write hwritable text.toUTF8
      exact ⟨after, save_eq_ok.mpr ⟨p, text, hlocate, LooseText.whole?_eq_some.mpr htext, hwrite⟩⟩
  · obtain ⟨p', text, hlocate', htext, hwrite⟩ := save_eq_ok.mp hsave
    obtain rfl : p' = p := Except.ok.inj (hlocate'.symm.trans hlocate)
    have hpaths := (whole_write_iff hs).mp ⟨text, LooseText.whole?_eq_some.mp htext⟩
    have hdecode : Toml.Document.decode text.toUTF8 = .ok (Toml.writtenTable s.sections) := by
      rw [decode_toUTF8, read_write hs hpaths htext]
    have hload' : load after (some (Path.ofText target)) =
        (({ s with source := some p' } : Settings).check after).mapError .breakdown := by
      have hlocated : after.locate ((some (Path.ofText target)).getD defaultPath) = .ok p' :=
        (Workspace.locate_write hwrite _).trans hlocate
      rw [load_of_decode hlocated (Workspace.read_write hp hwrite) hdecode, ofTable_written hs hpaths]
      rfl
    have hiff := check_of_settled (w := after) (s := { s with source := some p' }) ⟨hs.resolved, hs.columns⟩ rfl
    have hagain : (∃ notices, load after (some (Path.ofText target)) =
        .ok ({ s with source := some p' }, notices)) ↔ ∀ q ∈ s.paths, ∃ present, after.isPresent q = .ok present := by
      simp only [hload', mapError_eq_ok]
      exact hiff
    refine ⟨hagain, fun hparent => hagain.mpr fun q hq => ?_⟩
    exact Workspace.exists_isPresent_write hp (hs.resolved q hq) hwrite hparent (isPresent_of_load hload q hq)

/-! ### A configuration in a directory -/

/-- A configuration in a directory of some name, seen from the directory above. -/
def cellar (name : LooseText) : Workspace where
  root := .directory [(name, .directory [("c.toml", .file
    "[paths]\nschema = \"s.toml\"\n\n[display]\ncolumns = [\"\", \"a \\\"b\\\"\"]\n".toUTF8)])]
  directory := { root := .single }
  home := none

/-- A path from the root. -/
def cellarPath (names : List LooseText) : Path := { root := .single, parts := names }

/-- What is loaded there. -/
def cellarSettings (name : LooseText) : Settings where
  schemaPath := some (cellarPath [name, "s.toml"])
  columns := ["", "a \"b\""]
  source := some (cellarPath [name, "c.toml"])

theorem normal_cellar (name : LooseText) : (cellar name).Normal := by
  have hdirectory : (cellar name).directory = Path.ofText "/" := by
    change ({ root := .single } : Path) = _
    decide
  exact .of_texts hdirectory (by decide) nofun nofun

/-- A name that is one byte and no text. -/
def byteName : LooseText := ⟨[.half ⟨0x4ff⟩]⟩

/-- The configuration is loaded under either kind of name. -/
theorem load_cellar {name : LooseText} (hname : name = "a" ∨ name = byteName) :
    load (cellar name) (some (Path.ofText (name ++ "/c.toml"))) =
      .ok (cellarSettings name, [.noSchemaFile (cellarPath [name, "s.toml"])]) := by
  rcases hname with rfl | rfl <;> decide +kernel

/-- Where the name is a text, the configuration is saved next to the directory and loaded again. -/
theorem load_save_named : ∃ made after notices,
    load (cellar "a") (some (Path.ofText "a/c.toml")) =
      .ok (cellarSettings "a", [.noSchemaFile (cellarPath ["a", "s.toml"])]) ∧
    (cellar "a").locate (Path.ofText "d.toml") = .ok (cellarPath ["d.toml"]) ∧
    (cellar "a").write (cellarPath ["d.toml"]) .empty = .ok made ∧
    (cellarSettings "a").save (cellar "a") (some (Path.ofText "d.toml")) = .ok after ∧
    load after (some (Path.ofText "d.toml")) =
      .ok ({ cellarSettings "a" with source := some (cellarPath ["d.toml"]) }, notices) := by
  have hload : load (cellar "a") ((some "a/c.toml" : Option LooseText).map Path.ofText) =
      .ok (cellarSettings "a", [.noSchemaFile (cellarPath ["a", "s.toml"])]) :=
    load_cellar (.inl rfl)
  have hlocate : (cellar "a").locate (Path.ofText "d.toml") = .ok (cellarPath ["d.toml"]) := by rfl
  obtain ⟨made, hmade⟩ : ∃ made, (cellar "a").write (cellarPath ["d.toml"]) .empty = .ok made := ⟨_, rfl⟩
  have hwhole : ∀ q ∈ (cellarSettings "a").paths, q.text.Whole := by
    intro q hq
    obtain rfl : q = cellarPath ["a", "s.toml"] := by simpa [paths, cellarSettings] using hq
    exact ⟨"/a/s.toml", by rfl⟩
  have hparent : (cellar "a").isPresent (cellarPath ["d.toml"]).parent = .ok true := by rfl
  obtain ⟨hsave, hagain⟩ := load_save_iff (normal_cellar "a") hload hlocate hmade
  obtain ⟨after, hafter⟩ := hsave.mpr hwhole
  obtain ⟨notices, hnotices⟩ := (hagain after hafter).2 hparent
  exact ⟨made, after, notices, hload, hlocate, hmade, hafter, hnotices⟩

/-- Where the name is no text, the configuration is loaded, but it cannot be saved. -/
theorem save_byteless : ∃ made,
    load (cellar byteName) (some (Path.ofText (byteName ++ "/c.toml"))) =
      .ok (cellarSettings byteName, [.noSchemaFile (cellarPath [byteName, "s.toml"])]) ∧
    (cellar byteName).locate (Path.ofText "d.toml") = .ok (cellarPath ["d.toml"]) ∧
    (cellar byteName).write (cellarPath ["d.toml"]) .empty = .ok made ∧
    (cellarSettings byteName).save (cellar byteName) (some (Path.ofText "d.toml")) = .error .byteless := by
  have hlocate : (cellar byteName).locate (Path.ofText "d.toml") = .ok (cellarPath ["d.toml"]) := by rfl
  exact ⟨_, load_cellar (.inr rfl), hlocate, rfl, rfl⟩

end FieldFilter.Settings
