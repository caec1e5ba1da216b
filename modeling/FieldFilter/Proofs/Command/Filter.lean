import FieldFilter.Proofs.Command.Conjunction
import FieldFilter.Proofs.Command.Run
import FieldFilter.Proofs.Json.Ascii

/-!
# FieldFilter.Proofs.Command.Filter — what filtering comes to

The schema, the chips and the expression, and the rows are looked at in this order, and the first that cannot be
used ends the run with its own status and without output.  Otherwise the rows that satisfy every chip and the
expression are written (`filter_outcome`).
-/

namespace FieldFilter

open Run

/-- The outcome has this exit status and this output. -/
def Outcome.Shows (o : Outcome) (code : Nat) (output : String) : Prop :=
  o.ending.code = code ∧ o.transcript.output = output

/-- A value is put out as it is written. -/
theorem Run.gives_echo_indented {t : Transcript} {depth : Nat} {v : Value} : (echo (Json.indented depth v)).Gives t ()
    { t with output := t.output ++ (Json.indented depth v ++ "\n") } := by
  rw [echo, Json.echo_indented, put, LooseText.whole?_ofString]
  exact gives_modify.mpr rfl

namespace Program

variable {w : Workspace} {environment : List (LooseText × LooseText)} {arguments : List LooseText}
  {opening : Opening} {c : Context} {q : FilterRequest} {t : Transcript} {schema data : Path} {r : Registry}
  {f : LoadFault} {code : Nat} {cs : List Condition} {n : Node} {rows : List Record}

/-! ### One step after the other -/

theorem detail_eq_pure (h : c.verbose = false) (markup : LooseText) : detail c markup = pure () := by
  simp [detail, h]

theorem quits_filter_schemaless (h : Settings.schemaFile (some c.settings) q.schema = none) :
    (filter c q).Quits t 2 := by
  have hregistry : (loadRegistry c q.schema).Quits t 2 := by
    rw [loadRegistry, h]
    exact quits_report (if_pos printed_unnamed.1)
  exact hregistry.bind

section

variable (hschema : Settings.schemaFile (some c.settings) q.schema = some schema)
include hschema

theorem quits_filter_schema (h : Schema.load c.workspace schema = .error f)
    (hquits : (loaded unusableFile (.error f) : Run Registry).Quits t code) : (filter c q).Quits t code := by
  have hregistry : (loadRegistry c q.schema).Quits t code := by
    rw [loadRegistry, hschema]
    dsimp only
    rw [h]
    exact hquits.bind
  exact hregistry.bind

variable (hverbose : c.verbose = false) (hr : Schema.load c.workspace schema = .ok r)
include hverbose hr

theorem gives_loadRegistry : (loadRegistry c q.schema).Gives t r t := by
  rw [loadRegistry, hschema]
  dsimp only
  rw [hr]
  refine gives_bind.mpr ⟨r, t, gives_pure.mpr ⟨rfl, rfl⟩, ?_⟩
  rw [detail_eq_pure hverbose]
  exact gives_bind.mpr ⟨(), t, gives_pure.mpr ⟨rfl, rfl⟩, gives_pure.mpr ⟨rfl, rfl⟩⟩

theorem quits_filter_dataless (h : Settings.dataFile (some c.settings) q.data = none) :
    (filter c q).Quits t 2 := by
  refine Quits.after (gives_loadRegistry hschema hverbose hr) ?_
  rw [h]
  exact quits_report (if_pos printed_unnamed.2)

variable (hdata : Settings.dataFile (some c.settings) q.data = some data)
include hdata

theorem quits_filter_refused (h : Refused r q) : (filter c q).Quits t 1 := by
  obtain ⟨fault, hfault⟩ := buildFilter_of_refused h
  refine Quits.after (gives_loadRegistry hschema hverbose hr) ?_
  rw [hdata]
  dsimp only
  rw [hfault]
  exact quits_report (ite_self 1)

variable (hcs : q.chips.mapM r.chip? = some cs) (hn : r.parse (LooseText.intercalate " " q.expression) = .ok n)
include hcs hn

theorem quits_filter_rows (h : Rows.load c.workspace data = .error f)
    (hquits : (loaded unusableFile (.error f) : Run (List Record)).Quits t code) : (filter c q).Quits t code := by
  refine Quits.after (gives_loadRegistry hschema hverbose hr) ?_
  simp only [hdata, buildFilter_eq_ok hcs hn, hverbose, Bool.false_eq_true, if_false, h]
  exact hquits.bind

variable {kept : List Record}

theorem gives_filter (hformat : q.format = .json) (hrows : Rows.load c.workspace data = .ok rows)
    (hkept : filterOn id (combine (Node.ofChips (cs.map .condition)) n) rows = .ok kept) :
    (filter c q).Gives t () { t with output := t.output ++ (Json.indented 0 (Rows.toValue kept) ++ "\n") } := by
  refine gives_bind.mpr ⟨r, t, gives_loadRegistry hschema hverbose hr, ?_⟩
  simp only [hdata, buildFilter_eq_ok hcs hn, hverbose, Bool.false_eq_true, if_false, hrows, hformat]
  refine gives_bind.mpr ⟨rows, t, gives_pure.mpr ⟨rfl, rfl⟩, ?_⟩
  rw [hkept]
  refine gives_bind.mpr ⟨kept, t, gives_pure.mpr ⟨rfl, rfl⟩, ?_⟩
  rw [detail_eq_pure hverbose]
  exact gives_bind.mpr ⟨(), t, gives_pure.mpr ⟨rfl, rfl⟩, gives_echo_indented⟩

end

/-! ### The whole run -/

/-- The notice can be printed. -/
def Printable (n : Notice) : Prop := (printout (warningMarkup (Console.Markup.escape n.message))).fault = none

theorem gives_warnings {notices : List Notice} (h : ∀ n ∈ notices, Printable n) (t : Transcript) :
    ∃ t', (notices.forM fun n => warn (Console.Markup.escape n.message)).Gives t () t' ∧ t'.output = t.output := by
  induction notices generalizing t with
  | nil => exact ⟨t, gives_pure.mpr ⟨rfl, rfl⟩, rfl⟩
  | cons n rest ih =>
    obtain ⟨hn, hrest⟩ := List.forall_mem_cons.mp h
    obtain ⟨t', ht', houtput⟩ := ih hrest (afterComplaint (warningMarkup (Console.Markup.escape n.message)) t)
    exact ⟨t', gives_bind.mpr ⟨(), _, gives_complain.mpr ⟨hn, rfl⟩, ht'⟩, houtput⟩

/-- What a command works with under the preferences. -/
def contextOf (w : Workspace) (settings : Settings) (p : Preferences) : Context where
  workspace := w
  settings := settings
  verbose := p.verbose
  quiet := p.quiet

section

variable {settings : Settings} {notices : List Notice}
  (hopening : Opening.read environment arguments = .ok (.inr opening))
  (hrequest : Request.read opening.command opening.arguments = .ok (.inr (.filter q)))
  (hload : Settings.load w opening.preferences.config = .ok (settings, notices))
  (hnotices : ∀ n ∈ notices, isShown opening.preferences n = true → Printable n)
include hopening hrequest hload hnotices

/-- A run is that of the command once the configuration is loaded and its notices are shown. -/
theorem result_serve : ∃ t : Transcript, t.output = "" ∧ (serve w environment arguments).result {} =
    (filter (contextOf w settings opening.preferences) q).result t := by
  have hshown : ∀ n ∈ notices.filter (isShown opening.preferences), Printable n :=
    fun n hn => hnotices n (List.mem_filter.mp hn).1 (List.mem_filter.mp hn).2
  obtain ⟨t, ht, houtput⟩ := gives_warnings hshown {}
  refine ⟨t, houtput, ?_⟩
  have hprepare :
      (prepare w opening.preferences).Gives {} (contextOf w settings opening.preferences) t := by
    rw [prepare, hload]
    exact gives_bind.mpr ⟨_, _, gives_pure.mpr ⟨rfl, rfl⟩, gives_bind.mpr
      ⟨(), t, ht, gives_pure.mpr ⟨rfl, rfl⟩⟩⟩
  rw [serve, hopening, understood, result_bind, result_pure]
  dsimp only
  rw [result_bind, hprepare]
  dsimp only
  rw [hrequest, understood, result_bind, result_pure]
  rfl

theorem shows_of_quits (h : ∀ t, (filter (contextOf w settings opening.preferences) q).Quits t code) :
    (run w environment arguments).Shows code "" := by
  obtain ⟨t, houtput, hserve⟩ := result_serve hopening hrequest hload hnotices
  obtain ⟨e, t', hstops, hcode, ht'⟩ := h t
  rw [run, Stops.outcome_eq (hserve.trans hstops)]
  exact ⟨hcode, ht'.trans houtput⟩

theorem shows_of_gives {output : String}
    (h : ∀ t, (filter (contextOf w settings opening.preferences) q).Gives t () { t with output := t.output ++ output }) :
    (run w environment arguments).Shows 0 output := by
  obtain ⟨t, houtput, hserve⟩ := result_serve hopening hrequest hload hnotices
  rw [run, Gives.outcome_eq (hserve.trans (h t)), houtput]
  exact ⟨rfl, String.empty_append⟩

/-- **What filtering comes to**, where rows are written as JSON and no details are asked for.  Without a schema, or
with one that is refused, the status is 2; after that without a file of rows; after that a chip or an expression
that is refused gives status 1, whatever is in the file of rows; and after that a file of rows that is refused
gives status 2.  A file with which the run breaks down, or of which the message cannot be printed, gives status 1
in the place of 2.  In all these cases there is no output.  Otherwise the status is 0 and the output holds, in
their order, the rows that satisfy every chip and pass the expression: those that are left when the rows are
filtered by the chips and then by the expression, or the other way round. -/
theorem filter_outcome (hformat : q.format = .json) (hverbose : opening.preferences.verbose = false) :
    (Settings.schemaFile (some settings) q.schema = none → (run w environment arguments).Shows 2 "") ∧
    ∀ schema, Settings.schemaFile (some settings) q.schema = some schema →
      (∀ f, Schema.load w schema = .error f →
        (Told f → (run w environment arguments).Shows 2 "") ∧
        (¬ Told f → (run w environment arguments).Shows 1 "")) ∧
      ∀ r, Schema.load w schema = .ok r →
        (Settings.dataFile (some settings) q.data = none → (run w environment arguments).Shows 2 "") ∧
        ∀ data, Settings.dataFile (some settings) q.data = some data →
          (Refused r q → (run w environment arguments).Shows 1 "") ∧
          ∀ cs n, q.chips.mapM r.chip? = some cs → r.parse (LooseText.intercalate " " q.expression) = .ok n →
            (∀ f, Rows.load w data = .error f →
              (Told f → (run w environment arguments).Shows 2 "") ∧
              (¬ Told f → (run w environment arguments).Shows 1 "")) ∧
            ∀ rows, Rows.load w data = .ok rows → (∀ row ∈ rows, row.InRange) →
              (run w environment arguments).Shows 0
                (Json.indented 0 (Rows.toValue (passing cs n rows)) ++ "\n") ∧
              (filterOn id (Node.ofChips (cs.map .condition)) rows).bind (filterOn id n) =
                .ok (passing cs n rows) ∧
              (filterOn id n rows).bind (filterOn id (Node.ofChips (cs.map .condition))) =
                .ok (passing cs n rows) ∧
              (q.chips = [] → (LooseText.intercalate " " q.expression).strip.isEmpty = true →
                passing cs n rows = rows) := by
  have hquits {code : Nat} (h : ∀ t, (filter (contextOf w settings opening.preferences) q).Quits t code) :
      (run w environment arguments).Shows code "" := shows_of_quits hopening hrequest hload hnotices h
  refine ⟨fun h => hquits fun _ => quits_filter_schemaless h, fun schema hschema => ⟨fun f hf => ?_, fun r hr => ?_⟩⟩
  · exact ⟨fun h => hquits fun _ => quits_filter_schema hschema hf (quits_loaded h),
      fun h => hquits fun _ => quits_filter_schema hschema hf (quits_loaded_untold h)⟩
  refine ⟨fun h => hquits fun _ => quits_filter_dataless hschema hverbose hr h, fun data hdata => ⟨fun h => ?_, ?_⟩⟩
  · exact hquits fun _ => quits_filter_refused hschema hverbose hr hdata h
  intro cs n hcs hn
  refine ⟨fun f hf => ?_, fun rows hrows hrange => ⟨?_, ?_, ?_, fun hchips hblank => ?_⟩⟩
  · exact ⟨fun h => hquits fun _ => quits_filter_rows hschema hverbose hr hdata hcs hn hf (quits_loaded h),
      fun h => hquits fun _ => quits_filter_rows hschema hverbose hr hdata hcs hn hf (quits_loaded_untold h)⟩
  · refine shows_of_gives hopening hrequest hload hnotices fun t => ?_
    exact gives_filter hschema hverbose hr hdata hcs hn hformat hrows (filterOn_combine hrange)
  · exact filterOn_chips_expression hrange
  · exact filterOn_expression_chips hrange
  · obtain rfl : cs = [] := by simpa [hchips, eq_comm] using hcs
    obtain rfl : n = .everything := by
      rw [Registry.parse_blank hblank] at hn
      exact (Except.ok.inj hn).symm
    exact passing_everything rows

end

/-! ### Rows on a desk -/

/-- A schema of one field, and a file of two rows. -/
def desk : Workspace where
  root := .directory [
    ("s.toml", .file "[fields.age]\ntype = \"number\"\n".toUTF8),
    ("r.json", .file "[\x7b\"age\": 9\x7d, \x7b\"age\": 31\x7d]".toUTF8)]
  directory := { root := .single }
  home := some { root := .single }

/-- Nobody has a configuration there. -/
theorem load_deskSettings :
    Settings.load desk none = .ok ({}, [.noConfiguration (Path.ofText "/.config/smart-search/config.toml")]) := by
  rfl

/-- One chip, and an expression whose combinator is `or`. -/
def deskRequest : FilterRequest where
  expression := ["age = 9 or", "age = 31"]
  chips := [("AGE", ">", " 30 ")]
  schema := some (Path.ofText "s.toml")
  data := some (Path.ofText "r.json")
  format := .json

/-- The command line that asks for it. -/
def deskLine : List LooseText :=
  ["filter", "-w", "AGE", ">", " 30 ", "-s", "s.toml", "-d", "r.json", "-f", "json", "age = 9 or", "age = 31"]

theorem read_deskLine : Opening.read [] deskLine = .ok (.inr
    { preferences := {}, command := .filter, arguments := deskLine.tail }) := by
  have harguments : Arguments.read preferenceForms false deskLine = .ok { options := [], words := deskLine } := by
    with_unfolding_all rfl
  rw [Opening.read, harguments]
  rfl

theorem read_deskRequest : Request.read .filter deskLine.tail = .ok (.inr (.filter deskRequest)) := by
  have harguments : Arguments.read CommandName.filter.forms true deskLine.tail =
      .ok { options := [⟨"where", ["AGE", ">", " 30 "]⟩, ⟨"schema", ["s.toml"]⟩, ⟨"data", ["r.json"]⟩,
              ⟨"format", ["json"]⟩], words := deskRequest.expression } := by
    with_unfolding_all rfl
  rw [Request.read, harguments]
  rfl

/-- Both rows pass the expression, and the chip leaves one of them. -/
theorem filter_desk : ∃ r cs n rows, Schema.load desk (Path.ofText "s.toml") = .ok r ∧
    deskRequest.chips.mapM r.chip? = some cs ∧
    r.parse (LooseText.intercalate " " deskRequest.expression) = .ok n ∧
    Rows.load desk (Path.ofText "r.json") = .ok rows ∧ (∀ row ∈ rows, row.InRange) ∧
    (run desk [] deskLine).Shows 0 "[\n  \x7b\n    \"age\": 31\n  \x7d\n]\n" := by
  have hloaded : ((Schema.load desk (Path.ofText "s.toml")).toOption.bind fun r =>
      (deskRequest.chips.mapM r.chip?).bind fun cs =>
      (r.parse (LooseText.intercalate " " deskRequest.expression)).toOption.bind fun n =>
      (Rows.load desk (Path.ofText "r.json")).toOption.map fun rows =>
        (decide (∀ row ∈ rows, row.InRange), Json.indented 0 (Rows.toValue (passing cs n rows)) ++ "\n")) =
      some (true, "[\n  \x7b\n    \"age\": 31\n  \x7d\n]\n") := by
    decide +kernel
  simp only [Option.bind_eq_some_iff, Option.map_eq_some_iff, toOption_eq_some, Prod.mk.injEq,
    decide_eq_true_eq] at hloaded
  obtain ⟨r, hr, cs, hcs, n, hn, rows, hrows, hrange, hwritten⟩ := hloaded
  obtain ⟨-, hschema⟩ := filter_outcome read_deskLine read_deskRequest load_deskSettings
    (by simp [isShown]) rfl rfl
  obtain ⟨-, hregistry⟩ := hschema (Path.ofText "s.toml") rfl
  obtain ⟨-, hdata⟩ := hregistry r hr
  obtain ⟨-, hfilter⟩ := hdata (Path.ofText "r.json") rfl
  obtain ⟨-, hkept⟩ := hfilter cs n hcs hn
  obtain ⟨hshows, -⟩ := hkept rows hrows hrange
  exact ⟨r, cs, n, rows, hr, hcs, hn, hrows, hrange, hwritten ▸ hshows⟩

/-- The request for rows by a schema in the home of a user who is not known. -/
def homelessRequest : FilterRequest where
  schema := some (Path.ofText "~nosuchuser/s.toml")
  format := .json

def homelessLine : List LooseText := ["filter", "-s", "~nosuchuser/s.toml", "-f", "json"]

theorem read_homelessLine : Opening.read [] homelessLine = .ok (.inr
    { preferences := {}, command := .filter, arguments := homelessLine.tail }) := by
  have harguments : Arguments.read preferenceForms false homelessLine =
      .ok { options := [], words := homelessLine } := by
    with_unfolding_all rfl
  rw [Opening.read, harguments]
  rfl

theorem read_homelessRequest : Request.read .filter homelessLine.tail = .ok (.inr (.filter homelessRequest)) := by
  have harguments : Arguments.read CommandName.filter.forms true homelessLine.tail =
      .ok { options := [⟨"schema", ["~nosuchuser/s.toml"]⟩, ⟨"format", ["json"]⟩], words := [] } := by
    with_unfolding_all rfl
  rw [Request.read, harguments]
  rfl

/-- A schema whose path names such a user breaks the run down, so that its status is not the one for files. -/
theorem filter_homeless :
    Schema.load desk (Path.ofText "~nosuchuser/s.toml") =
      .error (.breakdown (.path (.unknownHome "nosuchuser"))) ∧
    (run desk [] homelessLine).Shows 1 "" ∧ ¬ (run desk [] homelessLine).Shows 2 "" := by
  have hload : Schema.load desk (Path.ofText "~nosuchuser/s.toml") =
      .error (.breakdown (.path (.unknownHome "nosuchuser"))) := by
    rfl
  have huntold : ¬ Told (.breakdown (.path (.unknownHome "nosuchuser"))) := by
    rintro ⟨message, hmessage, -⟩
    cases hmessage
  have hshows : (run desk [] homelessLine).Shows 1 "" :=
    shows_of_quits read_homelessLine read_homelessRequest load_deskSettings (by simp [isShown])
      fun _ => quits_filter_schema rfl hload (quits_loaded_untold huntold)
  refine ⟨hload, hshows, fun h => ?_⟩
  cases hshows.1.symm.trans h.1

end Program

end FieldFilter
