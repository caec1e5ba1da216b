import FieldFilter.Command.Transcript

/-!
# FieldFilter.Proofs.Command.Run — what runs come to

A run gives a value or is stopped, and leaves a transcript either way.  Runs are taken apart with `gives_bind`
and `stops_bind`; a run that says something leaves the files that it saved as they were, and one that only reports
an error has put nothing out (`Quits`).  What the program says in fixed words is short enough for the screen
(`printout_entry`, `printed_unnamed`, `prints_advice`).
-/

namespace FieldFilter.Run

variable {α β : Type} {run x : Run α} {f : α → Run β} {t t' : Transcript} {a a' : α} {b : β}
  {e e' : Ending} {code : Nat} {fault : LoadFault}

/-- What a run comes to, and the transcript after it. -/
def result (run : Run α) (t : Transcript) : Except Ending α × Transcript := (ExceptT.run run).run t

/-- The run comes to its last step. -/
def Gives (run : Run α) (t : Transcript) (a : α) (t' : Transcript) : Prop := run.result t = (.ok a, t')

/-- The run is ended before its last step. -/
def Stops (run : Run α) (t : Transcript) (e : Ending) (t' : Transcript) : Prop :=
  run.result t = (.error e, t')

theorem result_bind (x : Run α) (f : α → Run β) (t : Transcript) :
    result (x >>= f) t = match x.result t with
      | (.ok a, t') => (f a).result t'
      | (.error e, t') => (.error e, t') := by
  unfold result
  simp only [ExceptT.run_bind, StateT.run_bind]
  obtain ⟨result, t'⟩ := (ExceptT.run x).run t
  cases result <;> rfl

theorem result_pure (a : α) (t : Transcript) : result (pure a) t = (.ok a, t) := rfl

theorem result_throw (e : Ending) (t : Transcript) : result (throw e : Run α) t = (.error e, t) := rfl

theorem result_modify (g : Transcript → Transcript) (t : Transcript) :
    result (modify g : Run Unit) t = (.ok (), g t) := rfl

theorem gives_bind : Gives (x >>= f) t b t' ↔ ∃ a t₁, x.Gives t a t₁ ∧ (f a).Gives t₁ b t' := by
  unfold Gives
  rw [result_bind]
  obtain ⟨_ | a, t₁⟩ := x.result t <;> simp [and_assoc]

theorem stops_bind : Stops (x >>= f) t e t' ↔
    x.Stops t e t' ∨ ∃ a t₁, x.Gives t a t₁ ∧ (f a).Stops t₁ e t' := by
  unfold Gives Stops
  rw [result_bind]
  obtain ⟨_ | a, t₁⟩ := x.result t <;> simp [and_assoc]

theorem gives_pure : Gives (pure a) t a' t' ↔ a' = a ∧ t' = t := by
  rw [Gives, result_pure]
  simp [eq_comm]

theorem not_stops_pure : ¬ Stops (pure a) t e t' := by
  rw [Stops, result_pure]
  simp

theorem not_gives_throw : ¬ Gives (throw e : Run α) t a t' := by
  rw [Gives, result_throw]
  simp

theorem stops_throw : Stops (throw e : Run α) t e' t' ↔ e' = e ∧ t' = t := by
  rw [Stops, result_throw]
  simp [eq_comm]

theorem gives_modify {g : Transcript → Transcript} {u : Unit} : Gives (modify g) t u t' ↔ t' = g t := by
  rw [Gives, result_modify]
  simp [eq_comm]

theorem not_stops_modify {g : Transcript → Transcript} : ¬ Stops (modify g : Run Unit) t e t' := by
  rw [Stops, result_modify]
  simp

theorem not_gives_exit : ¬ Gives (exit code : Run α) t a t' := not_gives_throw

theorem gives_orBreak {attempt : Except Breakdown α} :
    (orBreak attempt).Gives t a t' ↔ attempt = .ok a ∧ t' = t := by
  cases attempt with
  | error _ => simpa [orBreak] using not_gives_throw
  | ok a' => rw [orBreak, gives_pure, Except.ok.injEq, eq_comm (a := a)]

theorem gives_save {path : Path} {text : LooseText} {u : Unit} : (save path text).Gives t u t' ↔
    ∃ s, text.whole? = some s ∧ t' = { t with saved := t.saved ++ [(path, s)] } := by
  unfold save
  rw [gives_bind]
  cases htext : text.whole? with
  | none => simpa using fun _ _ _ => not_gives_throw
  | some s =>
    simp only [gives_modify, Option.isNone_some, Bool.false_eq_true, if_false, gives_pure, Option.getD_some]
    simp

/-! ### Status 0 -/

/-- Where the run is stopped, its status is not 0. -/
def Honest (run : Run α) : Prop := ∀ t t', ¬ run.Stops t (.status 0) t'

namespace Honest

theorem bind (hx : Honest x) (hf : ∀ a, Honest (f a)) : Honest (x >>= f) := by
  intro t t' h
  obtain h | ⟨a, t₁, -, h⟩ := stops_bind.mp h
  · exact hx t t' h
  · exact hf a t₁ t' h

theorem pure (a : α) : Honest (Pure.pure a : Run α) := fun _ _ => not_stops_pure

theorem throw (he : e ≠ .status 0) : Honest (MonadExcept.throw e : Run α) :=
  fun _ _ h => he (stops_throw.mp h).1.symm

theorem modify (g : Transcript → Transcript) : Honest (modify g : Run Unit) := fun _ _ => not_stops_modify

theorem exit (h : code ≠ 0) : Honest (Run.exit code : Run α) := throw (by simpa using h)

/-- What would come after the exit does not matter. -/
theorem exit_bind (h : code ≠ 0) : Honest (Run.exit code >>= f) := by
  intro t t' hstops
  obtain hstops | ⟨_, _, hgives, -⟩ := stops_bind.mp hstops
  · exact Honest.exit h t t' hstops
  · exact not_gives_exit hgives

theorem orBreak (attempt : Except Breakdown α) : Honest (Run.orBreak attempt) := by
  cases attempt with
  | error _ => exact throw (by simp)
  | ok a => exact pure a

theorem put (text : LooseText) : Honest (Run.put text) := by
  unfold Run.put
  cases text.whole? with
  | none => exact throw (by simp)
  | some _ => exact modify _

theorem release {write : LooseText → Run Unit} (hw : ∀ text, Honest (write text)) (p : Console.Line.Printout) :
    Honest (Run.release write p) := by
  refine (hw _).bind fun _ => ?_
  cases p.fault with
  | none => exact pure _
  | some _ => exact throw (by simp)

theorem say (markup : LooseText) : Honest (Run.say markup) := release put _

theorem complain (markup : LooseText) : Honest (Run.complain markup) := release (fun _ => modify _) _

theorem save (path : Path) (text : LooseText) : Honest (Run.save path text) := by
  refine (modify _).bind fun _ => ?_
  split
  · exact throw (by simp)
  · exact pure _

end Honest

theorem outcome_of_result (run : Run Unit) : run.outcome = match run.result {} with
    | (.ok (), t) => ⟨.status 0, t⟩
    | (.error e, t) => ⟨e, t⟩ := rfl

/-- An honest run ends with status 0 only at its last step. -/
theorem Honest.gives {run : Run Unit} (h : Honest run) (hending : run.outcome.ending = .status 0) :
    run.Gives {} () run.outcome.transcript := by
  have houtcome := outcome_of_result run
  cases hresult : run.result {} with
  | mk result t =>
    rw [hresult] at houtcome
    cases result with
    | error e =>
      rw [houtcome] at hending
      exact absurd (hresult.trans (by rw [← hending])) (h {} t)
    | ok u =>
      rw [houtcome]
      exact hresult

theorem Gives.outcome_eq {run : Run Unit} (h : run.Gives {} () t) : run.outcome = ⟨.status 0, t⟩ := by
  rw [outcome_of_result, h]

theorem Stops.bind (h : x.Stops t e t') : (x >>= f).Stops t e t' := stops_bind.mpr (.inl h)

theorem Stops.outcome_eq {run : Run Unit} (h : run.Stops {} e t) : run.outcome = ⟨e, t⟩ := by
  rw [outcome_of_result, h]

/-! ### Messages -/

/-- The message can be cut into lines and is made of characters alone. -/
def Prints (markup : LooseText) : Prop :=
  let p := Console.Line.print Console.Highlight.spans (Console.Markup.message markup)
  p.fault = none ∧ p.text.whole?.isSome = true

/-- What can be printed is said. -/
theorem Prints.gives {markup : LooseText} (h : Prints markup) (t : Transcript) :
    ∃ t', (say markup).Gives t () t' := by
  obtain ⟨hfault, hwhole⟩ := h
  obtain ⟨s, hs⟩ := Option.isSome_iff_exists.mp hwhole
  have hput : (put (Console.Line.print Console.Highlight.spans (Console.Markup.message markup)).text).Gives t ()
      { t with output := t.output ++ s } := by
    rw [put, hs]
    exact gives_modify.mpr rfl
  refine ⟨{ t with output := t.output ++ s }, gives_bind.mpr ⟨(), _, hput, ?_⟩⟩
  simp only [hfault]
  exact gives_pure.mpr ⟨rfl, rfl⟩

/-- What is printed of a message. -/
def printout (markup : LooseText) : Console.Line.Printout :=
  Console.Line.print Console.Highlight.spans (Console.Markup.message markup)

/-- The markup of an error that is reported. -/
def errorMarkup (markup : LooseText) : LooseText :=
  Console.Markup.styled "error" "Error:" ++ " " ++ markup

/-- The transcript after a complaint: it is written as far as it can be printed. -/
def afterComplaint (markup : LooseText) (t : Transcript) : Transcript :=
  { t with errors := t.errors ++ (printout markup).text.escaped }

theorem gives_complain {markup : LooseText} {u : Unit} :
    (complain markup).Gives t u t' ↔ (printout markup).fault = none ∧ t' = afterComplaint markup t := by
  have hrelease : complain markup = release putError (printout markup) := rfl
  rw [hrelease, release, gives_bind]
  simp only [putError, gives_modify]
  cases (printout markup).fault with
  | none => simp [gives_pure, afterComplaint]
  | some e => simp [not_gives_throw]

theorem stops_complain {markup : LooseText} : (complain markup).Stops t e t' ↔
    ∃ u, (printout markup).fault = some u ∧ e = .brokenDown (.uncut u.signs) ∧
      t' = afterComplaint markup t := by
  have hrelease : complain markup = release putError (printout markup) := rfl
  rw [hrelease, release, stops_bind]
  simp only [putError, gives_modify, not_stops_modify, false_or]
  cases (printout markup).fault with
  | none => simp [not_stops_pure]
  | some u => simp [stops_throw, afterComplaint]

/-- How a run ends with a status after something was printed. -/
def endingAfter (p : Console.Line.Printout) (code : Nat) : Ending :=
  match p.fault with
  | none => .status code
  | some e => .brokenDown (.uncut e.signs)

theorem stops_complain_exit {markup : LooseText} :
    Stops (complain markup >>= fun _ => (exit code : Run α)) t e t' ↔
      e = endingAfter (printout markup) code ∧ t' = afterComplaint markup t := by
  rw [stops_bind]
  simp only [stops_complain, gives_complain, endingAfter]
  cases (printout markup).fault with
  | none => simp [exit, stops_throw]
  | some u => simp

/-- A fault with a message is reported, and the run is ended with its status. -/
theorem stops_loaded {f : LoadFault} {message : LooseText} (h : f.message? = some message) :
    (loaded code (.error f) : Run α).Stops t e t' ↔
      e = endingAfter (printout (errorMarkup (Console.Markup.escape message))) code ∧
        t' = afterComplaint (errorMarkup (Console.Markup.escape message)) t := by
  have hloaded : (loaded code (.error f) : Run α) =
      complain (errorMarkup (Console.Markup.escape message)) >>= fun _ => exit code := by
    cases f with
    | breakdown b => nomatch h
    | _ =>
      simp only [loaded, h, Option.getD_some]
      rfl
  rw [hloaded, stops_complain_exit]

/-! ### Runs that put nothing out -/

/-- The fault has a message, and the message can be printed. -/
def Told (fault : LoadFault) : Prop := ∃ message, fault.message? = some message ∧
  (printout (errorMarkup (Console.Markup.escape message))).fault = none

/-- The run is ended with an exit status, and has put nothing out by then. -/
def Quits (run : Run α) (t : Transcript) (code : Nat) : Prop :=
  ∃ e t', run.Stops t e t' ∧ e.code = code ∧ t'.output = t.output

theorem Quits.bind (h : x.Quits t code) : (x >>= f).Quits t code := by
  obtain ⟨e, t', hstops, h⟩ := h
  exact ⟨e, t', hstops.bind, h⟩

theorem Quits.after (hx : x.Gives t a t) (h : (f a).Quits t code) : (x >>= f).Quits t code := by
  obtain ⟨e, t', hstops, h⟩ := h
  exact ⟨e, t', stops_bind.mpr (.inr ⟨a, t, hx, hstops⟩), h⟩

theorem code_endingAfter (p : Console.Line.Printout) (code : Nat) :
    (endingAfter p code).code = if p.fault = none then code else 1 := by
  rw [endingAfter]
  cases p.fault <;> simp [Ending.code]

/-- A fault that is told ends the run with the status for it. -/
theorem quits_loaded (h : Told fault) : (loaded code (.error fault) : Run α).Quits t code := by
  obtain ⟨message, hmessage, hprints⟩ := h
  exact ⟨_, _, (stops_loaded hmessage).mpr ⟨rfl, rfl⟩, by rw [code_endingAfter, if_pos hprints], rfl⟩

/-- Any other fault breaks the run down. -/
theorem quits_loaded_untold (h : ¬ Told fault) : (loaded code (.error fault) : Run α).Quits t 1 := by
  cases hmessage : fault.message? with
  | none =>
    cases fault with
    | breakdown b => exact ⟨_, _, stops_throw.mpr ⟨rfl, rfl⟩, rfl, rfl⟩
    | _ => nomatch hmessage
  | some message =>
    have hfault : (printout (errorMarkup (Console.Markup.escape message))).fault ≠ none :=
      fun hprints => h ⟨message, hmessage, hprints⟩
    exact ⟨_, _, (stops_loaded hmessage).mpr ⟨rfl, rfl⟩, by rw [code_endingAfter, if_neg hfault], rfl⟩

/-- The markup of a warning. -/
def warningMarkup (markup : LooseText) : LooseText :=
  Console.Markup.styled "warning" "Warning:" ++ " " ++ markup

/-- The markup of a hint. -/
def hintMarkup (advice : LooseText) : LooseText :=
  "  " ++ Console.Markup.styled "info" "Hint:" ++ " " ++ advice

/-- An error with a hint ends the run with the status for it, if both can be printed, else with status 1. -/
theorem quits_report {markup advice : LooseText} {status : Nat}
    (h : (if (printout (errorMarkup markup)).fault = none ∧ (printout (hintMarkup advice)).fault = none then status
      else 1) = code) :
    (report markup >>= fun _ => hint advice >>= fun _ => (exit status : Run α)).Quits t code := by
  have hreport : report markup = complain (errorMarkup markup) := rfl
  have hhint : hint advice = complain (hintMarkup advice) := rfl
  rw [hreport, hhint]
  cases hfault : (printout (errorMarkup markup)).fault with
  | some u =>
    have hcode : 1 = code := by simpa [hfault] using h
    exact ⟨_, _, (stops_complain.mpr ⟨u, hfault, rfl, rfl⟩).bind, hcode, rfl⟩
  | none =>
    have hstops : Stops (complain (hintMarkup advice) >>= fun _ => (exit status : Run α))
        (afterComplaint (errorMarkup markup) t) _ _ := stops_complain_exit.mpr ⟨rfl, rfl⟩
    refine ⟨_, _, stops_bind.mpr (.inr ⟨(), _, gives_complain.mpr ⟨hfault, rfl⟩, hstops⟩), ?_, rfl⟩
    simpa only [code_endingAfter, hfault, true_and] using h

/-! ### Fixed messages

The characters of a literal are written out before they are counted, since decoding its bytes takes long. -/

/-- The message about an entry is short enough to be printed as it is. -/
theorem printout_entry (e : Entitled) :
    printout (errorMarkup (Console.Markup.escape
      (LooseText.ofString ("Invalid config value for '" ++ e.name ++ "': " ++ e.demand)))) =
      { text := LooseText.ofString ("Error: Invalid config value for '" ++ e.name ++ "': " ++ e.demand ++ "\n") } := by
  cases e
  all_goals simp only [Entitled.name, Entitled.demand, LooseText.ofString, String.toList_append]
  all_goals repeat rw [String.toList_ofList]
  all_goals decide +kernel

/-- The errors about files that are not named can be printed, with the hints that follow them. -/
theorem printed_unnamed :
    ((printout (errorMarkup "No schema file given")).fault = none ∧
      (printout (hintMarkup "Pass --schema or set paths.schema in the config")).fault = none) ∧
    (printout (errorMarkup "No data file given")).fault = none ∧
      (printout (hintMarkup "Pass --data or set paths.data in the config")).fault = none := by
  simp only [LooseText.ofString]
  repeat rw [String.toList_ofList]
  decide +kernel

/-- The advice that follows the making of a configuration can be printed. -/
theorem prints_advice :
    Prints (Console.Markup.styled "info" "Edit \\[paths] to point at your schema and data files.") := by
  simp only [Prints, LooseText.ofString]
  repeat rw [String.toList_ofList]
  decide +kernel

/-! ### Files -/

/-- What the run has said leaves the files that were saved. -/
def KeepsFiles (run : Run α) : Prop := ∀ t a t', run.Gives t a t' → t'.saved = t.saved

namespace KeepsFiles

theorem bind (hx : KeepsFiles x) (hf : ∀ a, KeepsFiles (f a)) : KeepsFiles (x >>= f) := by
  intro t b t' h
  obtain ⟨a, t₁, hx', hf'⟩ := gives_bind.mp h
  rw [hf a t₁ b t' hf', hx t a t₁ hx']

theorem put (text : LooseText) : KeepsFiles (Run.put text) := by
  intro t a t' h
  unfold Run.put at h
  cases htext : text.whole? with
  | none => exact absurd (by simpa [htext] using h) not_gives_throw
  | some s =>
    rw [htext] at h
    rw [gives_modify.mp h]

theorem release {write : LooseText → Run Unit} (hw : ∀ text, KeepsFiles (write text))
    (p : Console.Line.Printout) : KeepsFiles (Run.release write p) := by
  refine (hw _).bind fun _ => ?_
  intro t a t' h
  cases hfault : p.fault with
  | none =>
    rw [hfault] at h
    rw [(gives_pure.mp h).2]
  | some e =>
    rw [hfault] at h
    exact absurd h not_gives_throw

theorem say (markup : LooseText) : KeepsFiles (Run.say markup) := release put _

end KeepsFiles

end FieldFilter.Run
