import FieldFilter.Command.Program
import FieldFilter.Proofs.Command.Run
import FieldFilter.Proofs.Settings.Entries

/-!
# FieldFilter.Proofs.Command.Startup — configurations that cannot be used

Before a command is carried out the configuration is loaded.  Where that fails the run ends with status 1 and has
written nothing to the output; whether it tells why depends on what is wrong with the file
(`load_reported_iff`).  A section that is no table is one of the things that it does not tell
(`load_sectionless`).
-/

namespace FieldFilter

open Run

namespace Program

variable {w : Workspace} {environment : List (LooseText × LooseText)} {arguments : List LooseText}
  {opening : Opening} {given : Option Path} {p : Path} {bytes : ByteArray} {f : LoadFault} {b : Breakdown}
  {message : LooseText} {e : Entitled}

/-! ### Runs without a configuration -/

section

variable (hopening : Opening.read environment arguments = .ok (.inr opening))
include hopening

/-- Nothing comes before the configuration, and nothing after one that cannot be loaded. -/
theorem outcome_of_load {ending : Ending} {t : Transcript}
    (h : (loaded invalidInput (Settings.load w opening.preferences.config)).Stops {} ending t) :
    run w environment arguments = ⟨ending, t⟩ := by
  refine Stops.outcome_eq (stops_bind.mpr (.inr ⟨.inr opening, {}, ?_, ?_⟩))
  · rw [hopening, understood, gives_pure]
    exact ⟨rfl, rfl⟩
  · have hprepare : (prepare w opening.preferences).Stops {} ending t := h.bind
    exact hprepare.bind

/-- A configuration that breaks down ends the run without a message. -/
theorem run_of_breakdown (h : Settings.load w opening.preferences.config = .error (.breakdown b)) :
    run w environment arguments = ⟨.brokenDown b, {}⟩ :=
  outcome_of_load hopening (h ▸ stops_throw.mpr ⟨rfl, rfl⟩)

/-- A configuration that is refused is reported, as far as that can be printed. -/
theorem run_of_refused (h : Settings.load w opening.preferences.config = .error f)
    (hmessage : f.message? = some message) :
    run w environment arguments =
      ⟨endingAfter (printout (errorMarkup (Console.Markup.escape message))) invalidInput,
        afterComplaint (errorMarkup (Console.Markup.escape message)) {}⟩ :=
  outcome_of_load hopening (h ▸ (stops_loaded hmessage).mpr ⟨rfl, rfl⟩)

/-- A run whose configuration cannot be loaded ends with status 1 and leaves nothing but what it told. -/
theorem code_of_load (h : Settings.load w opening.preferences.config = .error f) :
    (run w environment arguments).ending.code = 1 ∧ (run w environment arguments).transcript.output = "" ∧
      (run w environment arguments).transcript.saved = [] := by
  cases hmessage : f.message? with
  | none =>
    cases f with
    | breakdown b =>
      rw [run_of_breakdown hopening h]
      exact ⟨rfl, rfl, rfl⟩
    | _ => nomatch hmessage
  | some message =>
    rw [run_of_refused hopening h hmessage, endingAfter]
    cases (printout (errorMarkup (Console.Markup.escape message))).fault <;> exact ⟨rfl, rfl, rfl⟩

/-- An entry that is not of its kind is named in the message. -/
theorem run_of_entry (h : Settings.load w opening.preferences.config = .error (.entry e)) :
    run w environment arguments = ⟨.status invalidInput,
      { errors := "Error: Invalid config value for '" ++ e.name ++ "': " ++ e.demand ++ "\n" }⟩ := by
  rw [run_of_refused hopening h rfl, endingAfter, afterComplaint, printout_entry]
  simp only [LooseText.escaped_ofString, String.empty_append]

end

/-! ### What is told about a file -/

/-- A file at the place of the configuration is loaded or refused with a message just if it is malformed, or the
first of its entries with which something is wrong is not of its kind, or nothing is wrong with its entries and
of its paths it can be told whether anything is there.  The run of a command whose configuration cannot be loaded
ends with status 1 and has written nothing else: a refused configuration is reported, and an entry that is not of
its kind by its name, while any other breaks the run down without a message. -/
theorem load_reported_iff (hlocate : w.locate (given.getD Settings.defaultPath) = .ok p)
    (hread : w.read p = .ok bytes) :
    ((∃ found, Settings.load w given = .ok found) ∨ Settings.load w given = .error (.configuration p) ∨
        (∃ e, Settings.load w given = .error (.entry e)) ↔
      Toml.Document.decode bytes = .error .malformed ∨ ∃ t, Toml.Document.decode bytes = .ok t ∧
        ((∃ e, Settings.FirstAmiss t e ∧ Settings.Misfits t e) ∨
          (∀ e, ¬ Settings.Amiss t e) ∧ Settings.PathsAskable w p t)) ∧
    (∀ e, Settings.load w given = .error (.entry e) ↔
      ∃ t, Toml.Document.decode bytes = .ok t ∧ Settings.FirstAmiss t e ∧ Settings.Misfits t e) ∧
    ∀ environment arguments opening, Opening.read environment arguments = .ok (.inr opening) →
      opening.preferences.config = given →
      (∀ f, Settings.load w given = .error f → (run w environment arguments).ending.code = 1 ∧
        (run w environment arguments).transcript.output = "" ∧
        (run w environment arguments).transcript.saved = []) ∧
      (∀ f message, Settings.load w given = .error f → f.message? = some message →
        run w environment arguments =
          ⟨endingAfter (printout (errorMarkup (Console.Markup.escape message))) invalidInput,
            { errors := (printout (errorMarkup (Console.Markup.escape message))).text.escaped }⟩) ∧
      (∀ e, Settings.load w given = .error (.entry e) → run w environment arguments = ⟨.status invalidInput,
        { errors := "Error: Invalid config value for '" ++ e.name ++ "': " ++ e.demand ++ "\n" }⟩) ∧
      ∀ b, Settings.load w given = .error (.breakdown b) →
        run w environment arguments = ⟨.brokenDown b, {}⟩ := by
  refine ⟨?_, fun e => Settings.load_eq_entry_iff hlocate hread, ?_⟩
  · rw [← Settings.load_told_iff hlocate hread]
    cases h : Settings.load w given with
    | ok found => simp
    | error f =>
      obtain rfl | ⟨e, rfl⟩ | ⟨b, rfl⟩ := Settings.load_error_cases hlocate hread h <;> simp
  · rintro environment arguments opening hopening rfl
    refine ⟨fun f h => code_of_load hopening h, fun f message h hmessage => ?_, fun e => run_of_entry hopening,
      fun b => run_of_breakdown hopening⟩
    rw [run_of_refused hopening h hmessage, afterComplaint]
    simp

/-! ### A section that is no table -/

/-- A directory with one configuration. -/
def shelf (text : String) : Workspace where
  root := .directory [("c.toml", .file text.toUTF8)]
  directory := { root := .single }
  home := none

/-- The command line that asks for the fields of the schema that a configuration names. -/
theorem read_fieldsLine : Opening.read [] ["--config", "c.toml", "fields"] = .ok (.inr
    { preferences := { config := some (Path.ofText "c.toml") }, command := .fields, arguments := [] }) := by
  have harguments : Arguments.read preferenceForms false ["--config", "c.toml", "fields"] =
      .ok { options := [⟨"config", ["c.toml"]⟩], words := ["fields"] } := by
    with_unfolding_all rfl
  rw [Opening.read, harguments]
  rfl

/-- Columns that are no list are reported. -/
theorem load_reported_columns :
    (shelf "[display]\ncolumns = 5\n").locate (Path.ofText "c.toml") = .ok { root := .single, parts := ["c.toml"] } ∧
    (shelf "[display]\ncolumns = 5\n").read { root := .single, parts := ["c.toml"] } =
      .ok "[display]\ncolumns = 5\n".toUTF8 ∧
    run (shelf "[display]\ncolumns = 5\n") [] ["--config", "c.toml", "fields"] = ⟨.status 1,
      { errors := "Error: Invalid config value for 'display.columns': must be a list of strings\n" }⟩ := by
  have hlocate : (shelf "[display]\ncolumns = 5\n").locate
      ((some (Path.ofText "c.toml")).getD Settings.defaultPath) =
        .ok { root := .single, parts := ["c.toml"] } := by
    rfl
  have hread : (shelf "[display]\ncolumns = 5\n").read { root := .single, parts := ["c.toml"] } =
      .ok "[display]\ncolumns = 5\n".toUTF8 := by
    rfl
  have hload : Settings.load (shelf "[display]\ncolumns = 5\n") (some (Path.ofText "c.toml")) =
      .error (.entry .columns) := by
    decide +kernel
  obtain ⟨-, -, hrun⟩ := load_reported_iff hlocate hread
  obtain ⟨-, -, hentry, -⟩ := hrun [] ["--config", "c.toml", "fields"] _ read_fieldsLine rfl
  exact ⟨hlocate, hread, hentry .columns hload⟩

/-- A number in the place of a section breaks the loading down, and no message tells of it. -/
theorem load_sectionless :
    Settings.load (shelf "paths = 5\n") (some (Path.ofText "c.toml")) = .error (.breakdown (.notTable "paths")) ∧
    run (shelf "paths = 5\n") [] ["--config", "c.toml", "fields"] = ⟨.brokenDown (.notTable "paths"), {}⟩ := by
  have hload : Settings.load (shelf "paths = 5\n") (some (Path.ofText "c.toml")) =
      .error (.breakdown (.notTable "paths")) := by
    decide +kernel
  exact ⟨hload, run_of_breakdown read_fieldsLine hload⟩

end Program
end FieldFilter
