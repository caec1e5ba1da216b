import FieldFilter.Command.Program
import FieldFilter.Proofs.Command.Run
import FieldFilter.Proofs.Command.Starter
import FieldFilter.Proofs.Settings.Load

/-!
# FieldFilter.Proofs.Command.InitConfig — loading the configuration to start from

What a run of `init-config` that succeeds has written (`gives_initConfig`), and when the file is loaded with what
was asked for (`load_initConfig_iff`).  The paths are written between single quotes as they are, so a path with a
single quote or a control character in it is not read back; the file may even be refused
(`load_initConfig_apostrophe`).
-/

namespace FieldFilter

open Run

/-! ### What is asked for -/

/-- What is asked of `init-config` by the values of its options. -/
def StarterRequest.ofTexts (force : Bool) (output schema data : Option LooseText) : StarterRequest where
  force := force
  output := output.map Path.ofText
  schema := schema.map Path.ofText
  data := data.map Path.ofText

/-! ### The run of the command -/

namespace Program

variable {c : Context} {q : StarterRequest} {t t' : Transcript}

theorem gives_resolved {given found : Option Path} : (resolved c given).Gives t found t' ↔
    given.mapM c.workspace.locate = .ok found ∧ t' = t := by
  cases given with
  | none => rw [resolved, gives_pure]; simp [pure, Except.pure, eq_comm]
  | some p =>
    rw [resolved]
    simp only [gives_bind, gives_orBreak, gives_pure]
    simp only [Option.mapM_some, Functor.map, Except.map]
    cases c.workspace.locate p with
    | error e => simp
    | ok r => simp [eq_comm]

theorem honest_resolved (given : Option Path) : Honest (resolved c given) := by
  cases given with
  | none => exact .pure _
  | some p => exact (Honest.orBreak _).bind fun _ => .pure _

theorem honest_initConfig (c : Context) (q : StarterRequest) : Honest (initConfig c q) := by
  unfold initConfig
  refine (Honest.orBreak _).bind fun path => (Honest.orBreak _).bind fun present => ?_
  by_cases hexists : (present && !q.force) = true
  · simp only [hexists, if_true]
    exact (Honest.complain _).bind fun _ => (Honest.complain _).bind fun _ => Honest.exit_bind (by decide)
  · simp only [hexists]
    refine (honest_resolved _).bind fun schema => (honest_resolved _).bind fun data => ?_
    cases c.workspace.write path .empty with
    | error _ => exact (Honest.complain _).bind fun _ => .exit (by decide)
    | ok _ =>
      refine (Honest.save _ _).bind fun _ => (Honest.say _).bind fun _ => ?_
      split
      · exact .say _
      · exact .pure _

theorem gives_initConfig (h : (initConfig c q).Gives t () t') : ∃ path schema data text after,
    c.workspace.locate (q.output.getD Settings.defaultPath) = .ok path ∧
    q.schema.mapM c.workspace.locate = .ok schema ∧ q.data.mapM c.workspace.locate = .ok data ∧
    c.workspace.write path .empty = .ok after ∧ (Starter.document schema data).whole? = some text ∧
    t'.saved = t.saved ++ [(path, text)] := by
  unfold initConfig at h
  obtain ⟨path, t₁, hpath, h₁⟩ := gives_bind.mp h
  obtain ⟨present, t₂, hpresent, h₂⟩ := gives_bind.mp h₁
  obtain ⟨hpath, ht₁⟩ := gives_orBreak.mp hpath
  obtain ⟨-, ht₂⟩ := gives_orBreak.mp hpresent
  by_cases hexists : (present && !q.force) = true
  · simp only [hexists, if_true] at h₂
    obtain ⟨_, _, -, h₃⟩ := gives_bind.mp h₂
    obtain ⟨_, _, -, h₄⟩ := gives_bind.mp h₃
    obtain ⟨_, _, h₅, -⟩ := gives_bind.mp h₄
    exact absurd h₅ not_gives_exit
  · simp only [hexists] at h₂
    obtain ⟨schema, t₃, hschema, h₃⟩ := gives_bind.mp h₂
    obtain ⟨data, t₄, hdata, h₄⟩ := gives_bind.mp h₃
    obtain ⟨hschema, ht₃⟩ := gives_resolved.mp hschema
    obtain ⟨hdata, ht₄⟩ := gives_resolved.mp hdata
    cases hwrite : c.workspace.write path .empty with
    | error _ =>
      rw [hwrite] at h₄
      obtain ⟨_, _, -, h₅⟩ := gives_bind.mp h₄
      exact absurd h₅ not_gives_exit
    | ok after =>
      rw [hwrite] at h₄
      obtain ⟨_, t₅, hsave, h₅⟩ := gives_bind.mp h₄
      obtain ⟨_, t₆, hsay, h₆⟩ := gives_bind.mp h₅
      obtain ⟨text, htext, ht₅⟩ := gives_save.mp hsave
      refine ⟨path, schema, data, text, after, hpath, hschema, hdata, hwrite, htext, ?_⟩
      have hkept : t'.saved = t₆.saved := by
        split at h₆
        · exact KeepsFiles.say _ _ _ _ h₆
        · rw [(gives_pure.mp h₆).2]
      rw [hkept, KeepsFiles.say _ _ _ _ hsay, ht₅, ht₄, ht₃, ht₂, ht₁]

/-- The command succeeds where nothing is in the way: the paths can be located, no file is there or it may be
overwritten, the file can be written and is whole, and what is told about it can be printed. -/
theorem ending_initConfig {path : Path} {present : Bool} {schema data : Option Path} {text : String}
    {made : Workspace} (hpath : c.workspace.locate (q.output.getD Settings.defaultPath) = .ok path)
    (hpresent : c.workspace.isPresent path = .ok present) (hfree : (present && !q.force) = false)
    (hschema : q.schema.mapM c.workspace.locate = .ok schema) (hdata : q.data.mapM c.workspace.locate = .ok data)
    (hwrite : c.workspace.write path .empty = .ok made)
    (htext : (Starter.document schema data).whole? = some text)
    (hsuccess : Prints (Console.Markup.styled "success"
      ("Created config file: " ++ Console.Markup.escape path.text)))
    (hedit : Prints (Console.Markup.styled "info" "Edit \\[paths] to point at your schema and data files.")) :
    (initConfig c q).outcome.ending = .status 0 := by
  suffices h : ∃ t, (initConfig c q).Gives {} () t by
    obtain ⟨t, ht⟩ := h
    rw [ht.outcome_eq]
  obtain ⟨t₁, ht₁⟩ := hsuccess.gives { saved := [(path, text)] }
  obtain ⟨t₂, ht₂⟩ : ∃ t₂, (if (schema.isNone || data.isNone) = true then inform
      "Edit \\[paths] to point at your schema and data files." else pure () : Run Unit).Gives t₁ () t₂ := by
    split
    · exact hedit.gives t₁
    · exact ⟨t₁, gives_pure.mpr ⟨rfl, rfl⟩⟩
  refine ⟨t₂, ?_⟩
  unfold initConfig
  refine gives_bind.mpr ⟨path, {}, gives_orBreak.mpr ⟨hpath, rfl⟩, ?_⟩
  refine gives_bind.mpr ⟨present, {}, gives_orBreak.mpr ⟨hpresent, rfl⟩, ?_⟩
  simp only [hfree]
  refine gives_bind.mpr ⟨schema, {}, gives_resolved.mpr ⟨hschema, rfl⟩, ?_⟩
  refine gives_bind.mpr ⟨data, {}, gives_resolved.mpr ⟨hdata, rfl⟩, ?_⟩
  rw [hwrite]
  refine gives_bind.mpr ⟨(), _, gives_save.mpr ⟨text, htext, rfl⟩, ?_⟩
  exact gives_bind.mpr ⟨(), t₁, ht₁, ht₂⟩

end Program

/-! ### Paths in the file -/

namespace Starter

variable {w after : Workspace} {base path p r : Path} {cs : List Char}

/-- The path that is to be read back: the one given, else a name next to the configuration. -/
def entry (w : Workspace) (path : Path) (name : LooseText) : Option LooseText → Except Breakdown Path
  | some given => w.locate (Path.ofText given)
  | none => .ok (path.parent.join (Path.ofText name))

/-- What is left of a path that was cut is another path. -/
theorem Cut.absolute_ne (hp : p.Resolved) (hcut : Cut p.text cs)
    (h : Settings.absolute w base (Path.ofText (LooseText.ofString (String.ofList cs))) = .ok r) : r ≠ p := by
  rintro rfl
  have hne := hcut.ne_nil hp
  obtain ⟨hcs, m, back, hm, hmarks⟩ := hcut
  obtain ⟨rest, hslash⟩ : ∃ rest, cs.map Mark.char = .char '/' :: rest := by
    obtain ⟨c, cs, rfl⟩ := List.exists_cons_of_ne_nil hne
    rw [hp.text_eq] at hmarks
    exact ⟨cs.map .char, by simp [(List.cons.inj hmarks).1]⟩
  have hroot : (Path.ofText (LooseText.ofString (String.ofList cs))).root ≠ .relative :=
    Path.root_ofText (by simpa using hslash)
  have hmark : m ≠ .char '/' := by
    rintro rfl
    exact absurd hm (by decide)
  -- the mark at which the text is cut stands in a part, and no part that is left holds it
  obtain ⟨part, hpart, hmem⟩ := (hp.mem_text_iff hmark).mp (by simp [hmarks])
  have hleft := Path.mem_of_mem_ofText (Settings.mem_of_mem_absolute hroot h hpart) hmem
  obtain ⟨c, hc, rfl⟩ : ∃ c ∈ cs, Mark.char c = m := by simpa using hleft
  have hquotable : isQuotable (.char c) = true := by simpa [isQuotable, Mark.is] using hcs c hc
  exact absurd hquotable (by simp [hm])

/-- The names in the example are names of files in the directory of the configuration. -/
theorem absolute_exampleName {name : String} (hbase : base.Resolved)
    (hname : name = "schema.toml" ∨ name = "rows.json") :
    Settings.absolute w base (Path.ofText name) = .ok (base.join (Path.ofText name)) := by
  have hpart : Path.ofText name = { parts := [name] } := by
    rcases hname with rfl | rfl <;> rfl
  have hisName : Path.IsName name := by
    unfold Path.IsName
    rcases hname with rfl | rfl <;> decide
  rw [hpart]
  refine Settings.absolute_name hbase hisName ?_ ?_ ?_ <;> rcases hname with rfl | rfl <;> decide

/-- Where a path of the file is to lead: a given one is resolved already. -/
theorem entry_of_located {name : String} {given : Option LooseText} {found : Option Path} (hw : w.Normal)
    (hpath : path.Resolved) (hname : name = "schema.toml" ∨ name = "rows.json")
    (h : (given.map Path.ofText).mapM w.locate = .ok found) :
    ∃ r, entry w path name given = .ok r ∧ found = given.map (fun _ => r) ∧ (∀ p ∈ found, p.Resolved) ∧
      ∀ after : Workspace, Settings.absolute after path.parent (found.getD (Path.ofText name)) = .ok r := by
  cases given with
  | none =>
    obtain rfl : found = none := (Except.ok.inj h).symm
    exact ⟨_, rfl, rfl, by simp, fun after => absolute_exampleName hpath.parent hname⟩
  | some t =>
    cases hr : w.locate (Path.ofText t) with
    | error e => simp [hr, Functor.map, Except.map] at h
    | ok r =>
      obtain rfl : found = some r := by simpa [hr, Functor.map, Except.map, eq_comm] using h
      have hresolved : r.Resolved := hw.resolved (Path.normal_ofText t) hr
      exact ⟨r, hr, rfl, by simpa using hresolved, fun after => Settings.absolute_of_resolved hresolved⟩

/-! ### Loading the file -/

section Load

open Settings

variable {schema data : Option Path} {schemaPath dataPath : Path} {text : String} {notices : List Notice}

/-- The settings that the file is to hold: two paths, colors, and no columns. -/
def settings (path schemaPath dataPath : Path) : Settings where
  schemaPath := some schemaPath
  dataPath := some dataPath
  coloredOutput := true
  columns := []
  source := some path

theorem ofTable_table (x y : String) (path : Path) :
    ofTable (table x y) path = .ok (settings path (Path.ofText x) (Path.ofText y)) := by
  rfl

/-- A path that comes out as it is meant was not cut. -/
theorem quotable_of_checkPath {missing : Path → Notice} {found : Option Path} (hp : p.Resolved)
    (hcheck : checkPath after base missing found = .ok (some p, notices))
    (hfound : ∀ cs, Cut p.text cs → found = some (Path.ofText (LooseText.ofString (String.ofList cs)))) :
    Quotable p.text := by
  by_contra hquotable
  obtain ⟨cs, hcut⟩ := exists_cut hquotable
  rw [hfound cs hcut] at hcheck
  obtain ⟨r, -, hr, -, heq, -⟩ := checkPath_eq_ok.mp hcheck
  exact hcut.absolute_ne hp hr (Option.some.inj heq).symm

/-- The file is loaded with the paths that are meant exactly if each of those given can stand between single
quotes and it can be asked for both whether they are there. -/
theorem load_document_iff (hpath : path.Resolved) (hwrite : w.write path text.toUTF8 = .ok after)
    (htext : (document schema data).whole? = some text) (hschema : ∀ p ∈ schema, p.Resolved)
    (hdata : ∀ p ∈ data, p.Resolved)
    (hschemaPath : absolute after path.parent (schema.getD (Path.ofText "schema.toml")) = .ok schemaPath)
    (hdataPath : absolute after path.parent (data.getD (Path.ofText "rows.json")) = .ok dataPath) :
    (∃ notices, load after (some path) = .ok (settings path schemaPath dataPath, notices)) ↔
      (∀ p ∈ schema, Quotable p.text) ∧ (∀ p ∈ data, Quotable p.text) ∧
        (∃ b, after.isPresent schemaPath = .ok b) ∧ ∃ b, after.isPresent dataPath = .ok b := by
  constructor
  · rintro ⟨notices, hload⟩
    obtain ⟨t, s, hread, hs, hcheck⟩ := (load_written_eq_ok hpath hwrite).mp hload
    obtain ⟨_, missingSchema, _, missingData, hcheckSchema, hcheckData, heq, -⟩ :=
      (check_eq_ok (ofTable_source hs)).mp hcheck
    obtain ⟨rfl, rfl, -⟩ := Settings.mk.inj heq
    have hquotable : ∀ p ∈ schema, Quotable p.text := by
      rintro p rfl
      obtain rfl : p = schemaPath := by
        simpa [absolute_of_resolved (hschema p rfl)] using hschemaPath
      refine quotable_of_checkPath (hschema p rfl) hcheckSchema fun cs hcut => ?_
      obtain ⟨entries, hpaths, hentry⟩ := read_document_schema (hschema p rfl) hcut htext hread
      exact ofTable_schemaPath hs hpaths hentry
    have hquotable' : ∀ p ∈ data, Quotable p.text := by
      rintro p rfl
      obtain rfl : p = dataPath := by
        simpa [absolute_of_resolved (hdata p rfl)] using hdataPath
      refine quotable_of_checkPath (hdata p rfl) hcheckData fun cs hcut => ?_
      obtain ⟨entries, hpaths, hentry⟩ :=
        read_document_data (fun p hp => ⟨hschema p hp, hquotable p hp⟩) (hdata p rfl) hcut htext hread
      exact ofTable_dataPath hs hpaths hentry
    obtain ⟨x, y, hread', hx, hy⟩ := read_document (fun p hp => ⟨hschema p hp, hquotable p hp⟩)
      (fun p hp => ⟨hdata p hp, hquotable' p hp⟩) htext
    obtain rfl : table x y = t := Except.ok.inj (hread'.symm.trans hread)
    obtain rfl := Except.ok.inj ((ofTable_table x y path).symm.trans hs)
    obtain ⟨r, b, -, hpresent, hr, -⟩ := checkPath_eq_ok.mp hcheckSchema
    obtain ⟨r', b', -, hpresent', hr', -⟩ := checkPath_eq_ok.mp hcheckData
    obtain rfl := Option.some.inj hr
    obtain rfl := Option.some.inj hr'
    exact ⟨hquotable, hquotable', ⟨b, hpresent⟩, ⟨b', hpresent'⟩⟩
  · rintro ⟨hquotable, hquotable', ⟨b, hpresent⟩, ⟨b', hpresent'⟩⟩
    obtain ⟨x, y, hread, hx, hy⟩ := read_document (fun p hp => ⟨hschema p hp, hquotable p hp⟩)
      (fun p hp => ⟨hdata p hp, hquotable' p hp⟩) htext
    rw [← hx] at hschemaPath
    rw [← hy] at hdataPath
    have hcheck := (check_eq_ok (s := settings path (Path.ofText x) (Path.ofText y)) rfl).mpr
      ⟨_, _, _, _, checkPath_eq_ok.mpr ⟨schemaPath, b, hschemaPath, hpresent, rfl, rfl⟩,
        checkPath_eq_ok.mpr ⟨dataPath, b', hdataPath, hpresent', rfl, rfl⟩, rfl, rfl⟩
    exact ⟨_, (load_written_eq_ok hpath hwrite).mpr ⟨_, _, hread, ofTable_table x y path, hcheck⟩⟩

end Load

end Starter

namespace Program

open Settings Starter Toml Toml.Statement

/-! ### What was asked for is loaded -/

/-- The configuration that the command writes is loaded with the paths that were asked for, in their absolute
forms, with colors and without columns, exactly if every given path, resolved, can stand between single quotes
and of both paths it can be told whether anything is there. -/
theorem load_initConfig_iff {c : Context} {force : Bool} {output schema data : Option LooseText}
    (hw : c.workspace.Normal)
    (hok : (initConfig c (.ofTexts force output schema data)).outcome.ending = .status 0) :
    ∃ path text schemaPath dataPath after,
      c.workspace.locate ((output.map Path.ofText).getD defaultPath) = .ok path ∧
      entry c.workspace path "schema.toml" schema = .ok schemaPath ∧
      entry c.workspace path "rows.json" data = .ok dataPath ∧
      (initConfig c (.ofTexts force output schema data)).outcome.transcript.saved = [(path, text)] ∧
      c.workspace.write path text.toUTF8 = .ok after ∧
      ((∃ notices, load after (some path) = .ok (settings path schemaPath dataPath, notices)) ↔
        (schema.isSome → Quotable schemaPath.text) ∧ (data.isSome → Quotable dataPath.text) ∧
          (∃ b, after.isPresent schemaPath = .ok b) ∧ ∃ b, after.isPresent dataPath = .ok b) := by
  obtain ⟨path, schema', data', text, made, hpath, hschema', hdata', hmade, htext, hsaved⟩ :=
    gives_initConfig ((honest_initConfig c _).gives hok)
  have hnormal : ((output.map Path.ofText).getD defaultPath).Normal := by
    cases output with
    | none => exact Path.normal_ofText _
    | some t => exact Path.normal_ofText t
  have hresolved := hw.resolved hnormal hpath
  obtain ⟨after, hwrite⟩ := Workspace.exists_write hmade text.toUTF8
  obtain ⟨schemaPath, hschema, rfl, hschemaResolved, hschemaAbsolute⟩ :=
    entry_of_located hw hresolved (.inl rfl) hschema'
  obtain ⟨dataPath, hdata, rfl, hdataResolved, hdataAbsolute⟩ :=
    entry_of_located hw hresolved (.inr rfl) hdata'
  refine ⟨path, text, schemaPath, dataPath, after, hpath, hschema, hdata, hsaved, hwrite, ?_⟩
  rw [load_document_iff hresolved hwrite htext hschemaResolved hdataResolved (hschemaAbsolute after)
    (hdataAbsolute after)]
  cases schema <;> cases data <;> simp

/-! ### In an empty directory -/

/-- An empty directory, at work in which is a user without a home. -/
def workshop : Context where
  workspace := { root := .directory [], directory := { root := .single, parts := ["work"] }, home := none }
  settings := {}

/-- A path in the workshop. -/
def workshopPath (name : String) : Path := { root := .single, parts := ["work", name] }

theorem normal_workshop : workshop.workspace.Normal := by
  have hdirectory : workshop.workspace.directory = Path.ofText "/work" := by rfl
  exact .of_texts hdirectory (by decide) nofun nofun

theorem locate_workshop : workshop.workspace.locate (Path.ofText "c.toml") = .ok (workshopPath "c.toml") := by
  rfl

theorem marks_workshopPath (name : String) :
    (workshopPath name).text.marks = ("/work/".toList ++ name.toList).map .char := by
  simp [workshopPath, Path.text, PathRoot.text, LooseText.intercalate, List.intercalate_cons_cons]

/-- The command succeeds with a schema file that has its name on one line. -/
theorem ending_workshop {schema : String} (hname : '\n' ∉ schema.toList)
    (hlocate : workshop.workspace.locate (Path.ofText schema) = .ok (workshopPath schema)) :
    (initConfig workshop (.ofTexts false (some "c.toml") (some schema) none)).outcome.ending = .status 0 := by
  obtain ⟨made, hwrite⟩ : ∃ made, workshop.workspace.write (workshopPath "c.toml") .empty = .ok made :=
    ⟨_, rfl⟩
  have hlevel : Level (workshopPath schema).text := by simpa [Level, marks_workshopPath] using hname
  obtain ⟨text, htext⟩ := exists_whole (some (workshopPath schema)) none (by simpa using hlevel)
    (by simpa using ⟨_, marks_workshopPath schema⟩) (by simp)
  have hpresent : workshop.workspace.isPresent (workshopPath "c.toml") = .ok false := by rfl
  have hschema : (Option.map Path.ofText (some (LooseText.ofString schema))).mapM workshop.workspace.locate =
      .ok (some (workshopPath schema)) := by
    simp [hlocate, Functor.map, Except.map]
  exact ending_initConfig locate_workshop hpresent rfl hschema rfl hwrite htext
    (by unfold Prints; decide +kernel) prints_advice

/-- A name with spaces and double quotes is read back. -/
theorem load_initConfig_workshop : ∃ text after notices,
    (initConfig workshop (.ofTexts false (some "c.toml") (some "a \"b\".toml") none)).outcome.ending = .status 0 ∧
    (initConfig workshop (.ofTexts false (some "c.toml") (some "a \"b\".toml") none)).outcome.transcript.saved =
      [(workshopPath "c.toml", text)] ∧
    workshop.workspace.write (workshopPath "c.toml") text.toUTF8 = .ok after ∧
    load after (some (workshopPath "c.toml")) = .ok (settings (workshopPath "c.toml")
      (workshopPath "a \"b\".toml") (workshopPath "rows.json"), notices) := by
  have hlocate : workshop.workspace.locate (Path.ofText "a \"b\".toml") =
      .ok (workshopPath "a \"b\".toml") := by
    rfl
  have hok := ending_workshop (by simp) hlocate
  obtain ⟨path, text, schemaPath, dataPath, after, hpath, hschema, hdata, hsaved, hwrite, hiff⟩ :=
    load_initConfig_iff normal_workshop hok
  obtain rfl : workshopPath "c.toml" = path := Except.ok.inj (locate_workshop.symm.trans hpath)
  obtain rfl : workshopPath "a \"b\".toml" = schemaPath := Except.ok.inj (hlocate.symm.trans hschema)
  obtain rfl : workshopPath "rows.json" = dataPath := by
    rw [← Except.ok.inj hdata]
    rfl
  have hquotable : Quotable (workshopPath "a \"b\".toml").text := by
    simp [Quotable, marks_workshopPath, isQuotable, Mark.is, isControl]
  have hshort : ∀ part ∈ (workshopPath "a \"b\".toml").parts ++ (workshopPath "rows.json").parts,
      Path.partBytes part ≤ Entry.maxNameBytes := by
    decide
  have hschemaPresent : ∃ b, after.isPresent (workshopPath "a \"b\".toml") = .ok b :=
    Workspace.exists_isPresent (by decide) fun part h => hshort part (List.mem_append_left _ h)
  have hdataPresent : ∃ b, after.isPresent (workshopPath "rows.json") = .ok b :=
    Workspace.exists_isPresent (by decide) fun part h => hshort part (List.mem_append_right _ h)
  obtain ⟨notices, hload⟩ := hiff.mpr ⟨fun _ => hquotable, by simp, hschemaPresent, hdataPresent⟩
  exact ⟨text, after, notices, hok, hsaved, hwrite, hload⟩

/-- A name with a single quote is not: the command succeeds, and the file that it wrote is refused. -/
theorem load_initConfig_apostrophe : ∃ text after,
    (initConfig workshop (.ofTexts false (some "c.toml") (some "it's.toml") none)).outcome.ending = .status 0 ∧
    (initConfig workshop (.ofTexts false (some "c.toml") (some "it's.toml") none)).outcome.transcript.saved =
      [(workshopPath "c.toml", text)] ∧
    workshop.workspace.write (workshopPath "c.toml") text.toUTF8 = .ok after ∧
    load after (some (workshopPath "c.toml")) = .error (.configuration (workshopPath "c.toml")) := by
  have hlocate : workshop.workspace.locate (Path.ofText "it's.toml") = .ok (workshopPath "it's.toml") := by
    rfl
  have hok := ending_workshop (by simp) hlocate
  obtain ⟨path, schema, data, text, made, hpath, hschema, hdata, hmade, htext, hsaved⟩ :=
    gives_initConfig ((honest_initConfig _ _).gives hok)
  obtain rfl : workshopPath "c.toml" = path := Except.ok.inj (locate_workshop.symm.trans hpath)
  obtain rfl : some (workshopPath "it's.toml") = schema := by
    simpa [StarterRequest.ofTexts, hlocate, Functor.map, Except.map] using hschema
  obtain rfl : none = data := Except.ok.inj hdata
  obtain ⟨after, hwrite⟩ := Workspace.exists_write hmade text.toUTF8
  refine ⟨text, after, hok, hsaved, hwrite, ?_⟩
  have hmarks : (document (some (workshopPath "it's.toml")) none).marks =
      (ofLines (upper.map String.toList) ++ "schema = '/work/it's.toml".toList).map .char ++
        .char '\'' :: .char '\n' :: ((ofLines (middle.map String.toList)).map .char ++
          ((pathLine "data" "rows.json" none).marks ++
            .char '\n' :: (ofLines (lower.map String.toList)).map .char)) := by
    rw [document_eq (by simp [Level, marks_workshopPath]), marks_pathLines]
    simp [pathLine, marks_workshopPath]
  obtain ⟨back, hchars, -⟩ := LooseText.toList_of_whole htext hmarks
  have hliteral : Literal "/work/it".toList := by simp [Literal, isControl]
  have hstatements := opens_upper.read_trailing bare_schema (spells_literal hliteral (by decide)) (c := 's')
    (by decide) (by decide) (by simpa using hchars)
  have hread : Document.read text = .error .malformed := by
    rw [Document.read, hstatements]
    rfl
  rw [load_written ((normal_workshop.resolved (Path.normal_ofText _) locate_workshop)) hwrite, hread]

end Program
end FieldFilter
