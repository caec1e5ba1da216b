import FieldFilter.Proofs.Attempt
import FieldFilter.Proofs.Files.Tree
import FieldFilter.Settings

/-!
# FieldFilter.Proofs.Settings.Load — loading a file that was written

What comes of a configuration is taken apart step by step: the document (`load_written`), its two paths
(`ofTable_schemaPath`, `ofTable_dataPath`), and their absolute forms (`check_eq_ok`).
-/

namespace FieldFilter.Settings

open Toml (Datum Table)

variable {w after : Workspace} {base path p r : Path} {s s' : Settings} {notices : List Notice}
  {missing : Path → Notice} {t entries : Table} {text x : String}

/-! ### Absolute forms -/

theorem absolute_eq_ok : absolute w base p = .ok r ↔
    ∃ q, w.expandHome p = .ok q ∧ (base.join q).resolve w.directory = .ok r := by
  unfold absolute
  cases w.expandHome p with
  | error e => simp [throw, throwThe, MonadExceptOf.throw]
  | ok q => simp [mapError_eq_ok]

theorem absolute_of_resolved (hp : p.Resolved) : absolute w base p = .ok p :=
  absolute_eq_ok.mpr ⟨p, hp.expandHome _, by rw [hp.join, hp.resolve]⟩

/-- A name is followed from the directory of the configuration. -/
theorem absolute_name {name : LooseText} (hbase : base.Resolved) (hname : Path.IsName name) (hup : name ≠ "..")
    (hused : Path.faultIn? name = none) (htilde : name.marks.head? ≠ some (.char '~')) :
    absolute w base { parts := [name] } = .ok (base.join { parts := [name] }) := by
  have hhome : w.expandHome { parts := [name] } = .ok { parts := [name] } := by
    unfold Workspace.expandHome Path.expandHome
    split <;> simp_all
  exact absolute_eq_ok.mpr ⟨_, hhome, (hbase.child hname hup hused).resolve _⟩

/-- The parts of an absolute form were parts of the path, if that starts at the root. -/
theorem mem_of_mem_absolute {part : LooseText} (hroot : p.root ≠ .relative) (h : absolute w base p = .ok r)
    (hpart : part ∈ r.parts) : part ∈ p.parts := by
  obtain ⟨q, hq, hr⟩ := absolute_eq_ok.mp h
  obtain rfl : p = q := Except.ok.inj ((Path.expandHome_of_rooted hroot _).symm.trans hq)
  rw [Path.join, if_neg hroot] at hr
  exact Path.mem_of_mem_resolve hroot hr hpart

theorem checkPath_eq_ok {found : Option Path} : checkPath w base missing (some p) = .ok (found, notices) ↔
    ∃ r present, absolute w base p = .ok r ∧ w.isPresent r = .ok present ∧ found = some r ∧
      notices = if present then [] else [missing r] := by
  constructor
  · intro h
    obtain ⟨r, hr, h⟩ := bind_eq_ok.mp h
    obtain ⟨present, hpresent, h⟩ := bind_eq_ok.mp h
    cases h
    exact ⟨r, present, hr, hpresent, rfl, rfl⟩
  · rintro ⟨r, present, hr, hpresent, rfl, rfl⟩
    exact bind_eq_ok.mpr ⟨r, hr, bind_eq_ok.mpr ⟨present, hpresent, rfl⟩⟩

theorem check_eq_ok (hsource : s.source = some path) : s.check w = .ok (s', notices) ↔
    ∃ schemaPath missingSchema dataPath missingData,
      checkPath w path.parent .noSchemaFile s.schemaPath = .ok (schemaPath, missingSchema) ∧
      checkPath w path.parent .noDataFile s.dataPath = .ok (dataPath, missingData) ∧
      s' = { s with schemaPath, dataPath } ∧ notices = missingSchema ++ missingData := by
  have hbase : (s.source.map Path.parent).getD w.directory = path.parent := by rw [hsource]; rfl
  unfold check
  simp only [hbase]
  constructor
  · intro h
    obtain ⟨⟨schemaPath, missingSchema⟩, hschema, h⟩ := bind_eq_ok.mp h
    obtain ⟨⟨dataPath, missingData⟩, hdata, h⟩ := bind_eq_ok.mp h
    cases h
    exact ⟨_, _, _, _, hschema, hdata, rfl, rfl⟩
  · rintro ⟨schemaPath, missingSchema, dataPath, missingData, hschema, hdata, rfl, rfl⟩
    exact bind_eq_ok.mpr ⟨_, hschema, bind_eq_ok.mpr ⟨_, hdata, rfl⟩⟩

/-! ### Documents -/

theorem ofTable_eq_ok : ofTable t path = .ok s ↔ ∃ schema data colored columns,
    entryOf "paths" "schema" (t.lookup "paths") = .ok schema ∧
      pathEntry .schemaPath schema = .ok s.schemaPath ∧
    entryOf "paths" "data" (t.lookup "paths") = .ok data ∧
      pathEntry .dataPath data = .ok s.dataPath ∧
    entryOf "display" "colored_output" (t.lookup "display") = .ok colored ∧
      flagEntry .coloredOutput true colored = .ok s.coloredOutput ∧
    entryOf "display" "columns" (t.lookup "display") = .ok columns ∧
      textsEntry .columns columns = .ok s.columns ∧
    s.source = some path := by
  obtain ⟨schemaPath, dataPath, coloredOutput, shown, source⟩ := s
  constructor
  · intro h
    obtain ⟨schema, hschema, h⟩ := bind_eq_ok.mp h
    obtain ⟨_, hschemaPath, h⟩ := bind_eq_ok.mp h
    obtain ⟨data, hdata, h⟩ := bind_eq_ok.mp h
    obtain ⟨_, hdataPath, h⟩ := bind_eq_ok.mp h
    obtain ⟨colored, hcolored, h⟩ := bind_eq_ok.mp h
    obtain ⟨_, hflag, h⟩ := bind_eq_ok.mp h
    obtain ⟨columns, hcolumns, h⟩ := bind_eq_ok.mp h
    obtain ⟨_, htexts, h⟩ := bind_eq_ok.mp h
    cases h
    exact ⟨schema, data, colored, columns, hschema, hschemaPath, hdata, hdataPath, hcolored, hflag, hcolumns,
      htexts, rfl⟩
  · rintro ⟨schema, data, colored, columns, hschema, hschemaPath, hdata, hdataPath, hcolored, hflag, hcolumns,
      htexts, hsource⟩
    cases hsource
    refine bind_eq_ok.mpr ⟨_, hschema, bind_eq_ok.mpr ⟨_, hschemaPath, ?_⟩⟩
    refine bind_eq_ok.mpr ⟨_, hdata, bind_eq_ok.mpr ⟨_, hdataPath, ?_⟩⟩
    refine bind_eq_ok.mpr ⟨_, hcolored, bind_eq_ok.mpr ⟨_, hflag, ?_⟩⟩
    exact bind_eq_ok.mpr ⟨_, hcolumns, bind_eq_ok.mpr ⟨_, htexts, rfl⟩⟩

/-- A text in the place of a path is that path. -/
theorem pathEntry_lookup {e : Entitled} {key : String} {entry : Option Datum} {found : Option Path}
    (hpaths : t.lookup "paths" = some (.table entries)) (hkey : entries.lookup key = some (.text x))
    (hentry : entryOf "paths" key (t.lookup "paths") = .ok entry) (hfound : pathEntry e entry = .ok found) :
    found = some (Path.ofText x) := by
  rw [hpaths] at hentry
  cases hentry
  rw [hkey] at hfound
  cases hfound
  rfl

theorem ofTable_schemaPath (h : ofTable t path = .ok s) (hpaths : t.lookup "paths" = some (.table entries))
    (hschema : entries.lookup "schema" = some (.text x)) : s.schemaPath = some (Path.ofText x) := by
  obtain ⟨_, _, _, _, hentry, hfound, -⟩ := ofTable_eq_ok.mp h
  exact pathEntry_lookup hpaths hschema hentry hfound

theorem ofTable_dataPath (h : ofTable t path = .ok s) (hpaths : t.lookup "paths" = some (.table entries))
    (hdata : entries.lookup "data" = some (.text x)) : s.dataPath = some (Path.ofText x) := by
  obtain ⟨_, _, _, _, -, -, hentry, hfound, -⟩ := ofTable_eq_ok.mp h
  exact pathEntry_lookup hpaths hdata hentry hfound

theorem ofTable_source (h : ofTable t path = .ok s) : s.source = some path := by
  obtain ⟨_, _, _, _, -, -, -, -, -, -, -, -, hsource⟩ := ofTable_eq_ok.mp h
  exact hsource

/-- The bytes of a text are decoded to it. -/
theorem decode_toUTF8 (text : String) : Toml.Document.decode text.toUTF8 = Toml.Document.read text := by
  have hvalid : text.toUTF8.IsValidUTF8 := text.isValidUTF8
  have htext : decodeText text.toUTF8 = .ok text := by
    rw [decodeText, String.fromUTF8?, dif_pos hvalid]
    rfl
  rw [Toml.Document.decode, htext]
  rfl

/-- Loading a file that is there reads its bytes. -/
theorem load_of_read {given : Option Path} {bytes : ByteArray}
    (hlocate : w.locate (given.getD defaultPath) = .ok path) (hread : w.read path = .ok bytes) :
    load w given = match Toml.Document.decode bytes with
      | .error .notUtf8 => .error (.breakdown .notUtf8)
      | .error .numeralTooLong => .error (.breakdown .numeralTooLong)
      | .error .tooDeep => .error (.breakdown .tooDeep)
      | .error .malformed => .error (.configuration path)
      | .ok t => ofTable t path >>= fun s => (s.check w).mapError .breakdown := by
  rw [load, hlocate]
  simp only [bind, Except.bind, mapError_ok, Workspace.isPresent_of_read hread, if_true, hread]
  cases Toml.Document.decode bytes with
  | error e => cases e <;> rfl
  | ok t => rfl

/-- Loading a file that was written reads what was written. -/
theorem load_written (hpath : path.Resolved) (hwrite : w.write path text.toUTF8 = .ok after) :
    load after (some path) = match Toml.Document.read text with
      | .error .notUtf8 => .error (.breakdown .notUtf8)
      | .error .numeralTooLong => .error (.breakdown .numeralTooLong)
      | .error .tooDeep => .error (.breakdown .tooDeep)
      | .error .malformed => .error (.configuration path)
      | .ok t => ofTable t path >>= fun s => (s.check after).mapError .breakdown := by
  have hlocate : after.locate ((some path).getD defaultPath) = .ok path := Workspace.locate_of_resolved hpath
  rw [load_of_read hlocate (Workspace.read_write hpath hwrite), decode_toUTF8]

theorem load_written_eq_ok (hpath : path.Resolved) (hwrite : w.write path text.toUTF8 = .ok after) :
    load after (some path) = .ok (s', notices) ↔ ∃ t s,
      Toml.Document.read text = .ok t ∧ ofTable t path = .ok s ∧ s.check after = .ok (s', notices) := by
  rw [load_written hpath hwrite]
  cases Toml.Document.read text with
  | error e => cases e <;> simp
  | ok t => simp [bind_eq_ok, mapError_eq_ok]

end FieldFilter.Settings
