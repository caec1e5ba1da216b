import FieldFilter.Proofs.Session.Effect

/-!
# FieldFilter.Proofs.Session.Assembly — the stages of a chip

A session holds just the parts of the next chip that its stage calls for (`Underway`), and all its chips suit
its registry (`Coherent`).  Every event keeps this, so in every run a menu of operators offers exactly what
can be chosen, and a finished chip is refused only for want of a value (`stages_of_run`).
-/

namespace FieldFilter.Session

variable {registry : Registry} {s : Session} {e : Event} {r : Reply (Option Condition)}

/-- The parts of the next chip at each stage: its field is registered and its operator suits the field. -/
inductive Underway (registry : Registry) : Stage → Option LooseText → Option LooseText → Prop
  | idle : Underway registry .idle none none
  | fieldChosen {key : LooseText} {f : Field} : registry.get? key = some f →
    Underway registry .fieldChosen (some key) none
  | operatorChosen {key operator : LooseText} {f : Field} : registry.get? key = some f →
    operator ∈ f.type.operatorWords → Underway registry .operatorChosen (some key) (some operator)

section Underway

variable {stage : Stage} {field operator : Option LooseText}

theorem Underway.idle_iff (h : Underway registry stage field operator) :
    stage = .idle ↔ field = none ∧ operator = none := by
  cases h <;> simp

theorem Underway.of_fieldChosen (h : Underway registry stage field operator) (hs : stage = .fieldChosen) :
    operator = none ∧ ∃ key f, field = some key ∧ registry.get? key = some f := by
  cases h with
  | fieldChosen hf => exact ⟨rfl, _, _, rfl, hf⟩
  | idle | operatorChosen => cases hs

theorem Underway.of_operatorChosen (h : Underway registry stage field operator)
    (hs : stage = .operatorChosen) : ∃ key f word, field = some key ∧ registry.get? key = some f ∧
      operator = some word ∧ word ∈ f.type.operatorWords := by
  cases h with
  | operatorChosen hf hmem => exact ⟨_, _, _, rfl, hf, rfl, hmem⟩
  | idle | fieldChosen => cases hs

end Underway

/-- What holds of a session in every run. -/
structure Coherent (registry : Registry) (s : Session) : Prop where
  registered : s.registry = registry
  underway : Underway registry s.stage s.field s.operator
  chips : ∀ c ∈ s.chips, registry.Accepts c

theorem coherent_fresh (registry : Registry) (listeners : List LooseText) :
    Coherent registry (Traffic.fresh registry listeners).session where
  registered := rfl
  underway := .idle
  chips c hc := by cases hc

/-! ### Every event keeps it -/

theorem Coherent.resolvers (h : Coherent registry s) (l : List (LooseText × Resolver)) :
    Coherent registry { s with resolvers := l } := ⟨h.registered, h.underway, h.chips⟩

theorem Coherent.atRest (h : Coherent registry s) {chips : List Condition}
    (hchips : ∀ c ∈ chips, registry.Accepts c) (l : List (LooseText × Resolver)) :
    Coherent registry (s.atRest chips l) := ⟨h.registered, .idle, hchips⟩

theorem Coherent.effect (h : Coherent registry s) (he : Effect s e r) : Coherent registry r.session := by
  cases he with
  | still a l => exact h.resolvers l
  | givenUp a l => exact h.atRest h.chips l
  | fieldChosen hf => exact ⟨h.registered, .fieldChosen (h.registered ▸ hf), h.chips⟩
  | @operatorChosen key operator f l hkey hf hop =>
    refine ⟨h.registered, ?_, h.chips⟩
    rw [hkey]
    exact .operatorChosen (h.registered ▸ hf) hop
  | @put _ c l _ hc =>
    refine h.atRest (fun c' hc' => ?_) l
    rcases List.mem_append.mp hc' with hold | hnew
    · exact h.chips c' hold
    · rw [List.mem_singleton.mp hnew]
      exact h.registered ▸ hc
  | removed _ => exact ⟨h.registered, h.underway, fun c hc => h.chips c (List.mem_of_mem_eraseIdx hc)⟩
  | cleared l => exact h.atRest (by simp) l
  | subscribed name => exact ⟨h.registered, h.underway, h.chips⟩

theorem coherent_of_run {listeners : List LooseText} {answer : Nat → LookupOutcome} {es : List Event}
    {t : Traffic} (hrun : (Traffic.fresh registry listeners).run answer es = some t) :
    Coherent registry t.session := by
  refine Traffic.run_induction (P := fun t => Coherent registry t.session) (fun h hs => ?_)
    (coherent_fresh registry listeners) hrun
  obtain ⟨r, hr, hsession⟩ := Traffic.reply_of_step hs
  rw [hsession]
  exact h.effect (Traffic.effect hr)

/-! ### What can be done at a stage -/

theorem suggestOperators_empty (type : FieldType) : type.suggestOperators "" = type.operatorWords := by
  refine List.filter_eq_self.mpr fun w _ => ?_
  simp [LooseText.isStartOf]

/-- With a field chosen, the menu offers the operators that can be chosen. -/
theorem Coherent.operators_offered (h : Coherent registry s) (hs : s.stage = .fieldChosen) :
    ∃ offered, (s.suggestions "").answer = .ok offered ∧
      ∀ operator, (s.chooseOperator operator).answer = .ok () ↔ operator ∈ offered := by
  obtain ⟨-, key, f, hkey, hf⟩ := h.underway.of_fieldChosen hs
  rw [← h.registered] at hf
  refine ⟨f.type.operatorWords, ?_, fun operator => ?_⟩
  · unfold suggestions
    rw [activeField_eq hkey hf, hs]
    exact congrArg Except.ok (suggestOperators_empty f.type)
  · rw [chooseOperator_eq_ok, hs]
    simp [hkey, hf]

/-- With an operator chosen, a chip is refused only if its value is blank. -/
theorem Coherent.commit_answer (h : Coherent registry s) (hs : s.stage = .operatorChosen)
    (value : LooseText) :
    ((∃ c, (s.commit value).answer = .ok c) ↔ value.strip.isEmpty = false) ∧
      ∀ e, (s.commit value).answer = .error e → ∃ key, s.field = some key ∧ e = .emptyValue key := by
  obtain ⟨key, f, operator, hkey, hf, hop, hmem⟩ := h.underway.of_operatorChosen hs
  rw [← h.registered] at hf
  cases hblank : value.strip.isEmpty with
  | false =>
    have hok := commit_eq_ok.mpr ⟨hs, hblank, key, operator, f, hkey, hop, hf, hmem, rfl⟩
    refine ⟨iff_of_true ⟨_, hok⟩ rfl, fun e he => ?_⟩
    rw [hok] at he
    cases he
  | true =>
    have hrefused : (s.commit value).answer = .error (.emptyValue key) := by
      simp [commit, hs, hkey, hop, hblank]
    rw [hrefused]
    exact ⟨iff_of_false (by simp) (by simp), fun e he => ⟨key, hkey, (Except.error.inj he).symm⟩⟩

/-- **The stages of a chip.**  In every run a session is idle just if neither a field nor an operator is
chosen; a field that is chosen is registered, an operator that is chosen suits it, and all chips suit the
registry.  So with a field chosen exactly the operators on offer can be chosen, and with an operator chosen
exactly the values that are not blank make a chip, and nothing else is wrong with the others. -/
theorem stages_of_run (registry : Registry) (listeners : List LooseText) (answer : Nat → LookupOutcome)
    (es : List Event) (t : Traffic) (hrun : (Traffic.fresh registry listeners).run answer es = some t) :
    (t.session.stage = .idle ↔ t.session.field = none ∧ t.session.operator = none) ∧
    (t.session.stage = .fieldChosen →
      t.session.operator = none ∧ ∃ key ∈ registry.keys, t.session.field = some key) ∧
    (t.session.stage = .operatorChosen → ∃ key f operator, t.session.field = some key ∧
      registry.get? key = some f ∧ t.session.operator = some operator ∧ operator ∈ f.type.operatorWords) ∧
    (∀ c ∈ t.session.chips, registry.Accepts c) ∧
    (t.session.stage = .fieldChosen → ∃ offered, (t.session.suggestions "").answer = .ok offered ∧
      ∀ operator, (t.session.chooseOperator operator).answer = .ok () ↔ operator ∈ offered) ∧
    (t.session.stage = .operatorChosen → ∀ value,
      ((∃ c, (t.session.commit value).answer = .ok c) ↔ value.strip.isEmpty = false) ∧
        ∀ e, (t.session.commit value).answer = .error e →
          ∃ key, t.session.field = some key ∧ e = .emptyValue key) := by
  have h := coherent_of_run hrun
  refine ⟨h.underway.idle_iff, fun hs => ?_, h.underway.of_operatorChosen, h.chips, h.operators_offered,
    h.commit_answer⟩
  obtain ⟨hop, key, f, hkey, hf⟩ := h.underway.of_fieldChosen hs
  exact ⟨hop, key, Registry.mem_keys_of_get? hf, hkey⟩

/-- Refused operators and values, a whole chip that is refused at its end, and then a chip under way. -/
def halting : Option Traffic :=
  (Traffic.fresh ⟨[⟨"age", "Years", .number, .absent⟩, ⟨"status", "Status", .enum, .absent⟩], by decide⟩
    ["main"]).run (fun _ => .nothing)
    [.chooseField " years ", .chooseOperator "contains", .chooseOperator ">", .commit " \t", .commit " 30 ",
      .add "age" "<" "", .startLookup "x", .chooseField "STATUS", .startLookup "y", .chooseOperator "=",
      .finishLookup 0]

set_option maxRecDepth 10000 in
theorem stages_of_run_halting :
    ∃ t, halting = some t ∧ t.session.stage = .operatorChosen ∧ t.session.chips = [⟨"age", ">", "30"⟩] ∧
      ∀ value, ((∃ c, (t.session.commit value).answer = .ok c) ↔ value.strip.isEmpty = false) ∧
        ∀ e, (t.session.commit value).answer = .error e →
          ∃ key, t.session.field = some key ∧ e = .emptyValue key := by
  have hend : halting.map (fun t => (t.session.stage, t.session.chips)) =
      some (.operatorChosen, [⟨"age", ">", "30"⟩]) := by rfl
  obtain ⟨t, ht, hlast⟩ := Option.map_eq_some_iff.mp hend
  obtain ⟨hstage, hchips⟩ := Prod.mk.inj hlast
  exact ⟨t, ht, hstage, hchips, (stages_of_run _ _ _ _ t ht).2.2.2.2.2 hstage⟩

end FieldFilter.Session
