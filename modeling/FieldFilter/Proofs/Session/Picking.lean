import FieldFilter.Proofs.Filter.Equality
import FieldFilter.Proofs.Session.Assembly
import FieldFilter.Proofs.Session.Suggestions

/-!
# FieldFilter.Proofs.Session.Picking — values picked from the menu

With an operator chosen, the menu offers options as they come, from the field or from a lookup
(`Sound.offered`).  A value that is committed loses the white space around it and may not be blank, so picking
an option makes a chip with just that value if the option is not empty and has no white space around it, and
not otherwise (`pick_of_run`).
-/

namespace FieldFilter

/-- Equality with a text that is no date is that of texts. -/
theorem Condition.holds_equal_text {r : Record} {field s operand : LooseText} (hraw : r.get field = .text s)
    (hday : (Value.text s).day? = none) :
    (Condition.mk field "=" operand).holds r = .ok (decide (s = operand)) := by
  rw [holds_equal (.inl (hraw ▸ hday)), hraw, Value.settledText_of_ne_int (by simp) rfl]
  rfl

namespace Session

variable {registry : Registry} {t : Traffic} {s : Session} {key operator value : LooseText} {f : Field}

/-! ### What is offered -/

/-- **What the menu offers for a value** is what the field has without a lookup, or what a lookup has brought. -/
theorem Sound.offered (h : Sound registry t) (hs : t.session.stage = .operatorChosen)
    (hkey : t.session.field = some key) (hf : registry.get? key = some f) :
    ∃ offered, (∀ text, (t.session.suggestions text).answer = .ok offered) ∧
      ∀ o ∈ offered, o ∈ f.unfiltered ∨ ∃ task options, .answer task options ∈ t.log ∧ o ∈ options := by
  have hf' : t.session.registry.get? key = some f := h.registered ▸ hf
  cases hc : f.type.hasChoices with
  | true =>
    obtain ⟨since, r, hsince, hr, hleaves, -⟩ := h.shown hs key f hkey hf hc
    refine ⟨r.options, fun text => by rw [suggestions_eq hs hkey hf' hc hr], fun o ho => ?_⟩
    rcases hleaves.origin with horigin | ⟨_, _, hmem, task, rfl, -⟩
    · exact .inl (horigin ▸ ho)
    · exact .inr ⟨task, _, hsince.mem hmem, ho⟩
  | false =>
    refine ⟨[], fun text => ?_, nofun⟩
    unfold suggestions
    rw [activeField_eq hkey hf', hs]
    simp [hc]

/-! ### What picking it leads to -/

/-- What it leads to when a value is picked from the menu. -/
structure Picked (s : Session) (key operator value : LooseText) : Prop where
  /-- It makes a chip with just this value if it is not empty and has no white space around it. -/
  exactly : (s.commit value).answer = .ok ⟨key, operator, value⟩ ↔ value.strip = value ∧ value.isEmpty = false
  /-- It makes a chip unless it is blank. -/
  filled : value.strip.isEmpty = false → (s.commit value).answer = .ok ⟨key, operator, value.strip⟩ ∧
    (s.commit value).session.chips = s.chips ++ [⟨key, operator, value.strip⟩]
  blank : value.strip.isEmpty = true → s.commit value = ⟨.error (.emptyValue key), s, []⟩
  /-- A record with this value, if that is no date, passes a chip for equality just if it is the chip's value. -/
  passes : ∀ c, (s.commit value).answer = .ok c → c.operator = "=" → ∀ r : Record, r.get key = .text value →
    (Value.text value).day? = none → c.holds r = .ok (decide (value = c.value))

theorem commit_chips {c : Condition} (h : (s.commit value).answer = .ok c) :
    (s.commit value).session.chips = s.chips ++ [c] := by
  rcases s.commit_cases value with ⟨e, -, heq⟩ | ⟨_, _, c', -, -, -, -, -, heq⟩
  · rw [heq] at h
    cases h
  · rw [heq] at h ⊢
    obtain rfl : c = c' := (Except.ok.inj h).symm
    obtain ⟨l, hl⟩ := cancel_atRest { s with chips := s.chips ++ [c] }
    rw [hl]
    rfl

theorem Coherent.picked (h : Coherent registry s) (hs : s.stage = .operatorChosen) (hkey : s.field = some key)
    (hop : s.operator = some operator) (value : LooseText) : Picked s key operator value := by
  obtain ⟨key, f, operator, hkey', hf, hop', hmem⟩ := h.underway.of_operatorChosen hs
  cases hkey.symm.trans hkey'
  cases hop.symm.trans hop'
  rw [← h.registered] at hf
  have hok (c : Condition) : (s.commit value).answer = .ok c ↔
      value.strip.isEmpty = false ∧ c = ⟨key, operator, value.strip⟩ := by
    simp [commit_eq_ok, hs, hkey, hop, hf, hmem]
  refine
    { exactly := ?_
      filled := fun hfilled => ?_
      blank := fun hblank => by simp [commit, hs, hkey, hop, hblank]
      passes := fun c hc heq r hraw hday => ?_ }
  · rw [hok]
    constructor
    · rintro ⟨hfilled, hchip⟩
      have hstrip : value = value.strip := congrArg Condition.value hchip
      exact ⟨hstrip.symm, by rwa [← hstrip] at hfilled⟩
    · rintro ⟨hstrip, hfilled⟩
      exact ⟨by rwa [hstrip], by rw [hstrip]⟩
  · have hcommit := (hok _).mpr ⟨hfilled, rfl⟩
    exact ⟨hcommit, commit_chips hcommit⟩
  · obtain ⟨-, rfl⟩ := (hok c).mp hc
    cases heq
    exact Condition.holds_equal_text hraw hday

/-- **Values picked from the menu.**  In every run, once an operator is chosen, the menu offers what the field has
or what lookups have brought, and each entry makes a chip with just itself for its value if it is not empty and
has no white space around it, a chip with the rest of it if it has, and no chip if it is blank. -/
theorem pick_of_run (registry : Registry) (listeners : List LooseText) (answer : Nat → LookupOutcome)
    (es : List Event) (t : Traffic) (hrun : (Traffic.fresh registry listeners).run answer es = some t)
    (hs : t.session.stage = .operatorChosen) :
    ∃ key f operator offered, t.session.field = some key ∧ registry.get? key = some f ∧
      t.session.operator = some operator ∧ (∀ text, (t.session.suggestions text).answer = .ok offered) ∧
      ∀ o ∈ offered, (o ∈ f.unfiltered ∨ ∃ task options, .answer task options ∈ t.log ∧ o ∈ options) ∧
        Picked t.session key operator o := by
  have h := coherent_of_run hrun
  obtain ⟨key, f, operator, hkey, hf, hop, -⟩ := h.underway.of_operatorChosen hs
  obtain ⟨offered, hanswer, horigin⟩ := (sound_of_run hrun).offered hs hkey hf
  exact ⟨key, f, operator, offered, hkey, hf, hop, hanswer, fun o ho => ⟨horigin o ho, h.picked hs hkey hop o⟩⟩

/-- A field with a plain option, one with a space before it, and an empty one. -/
def padded : Registry := ⟨[⟨"s", "State", .enum, .fixed ["open", " a", ""]⟩], by simp⟩

/-- A chip for it under way. -/
def picking : Option Traffic :=
  (Traffic.fresh padded ["main"]).run (fun _ => .nothing) [.chooseField "s", .chooseOperator "="]

theorem pick_of_run_open :
    ∃ t, picking = some t ∧ t.session.stage = .operatorChosen ∧
      (t.session.suggestions "").answer = .ok ["open", " a", ""] ∧
      (t.session.commit "open").answer = .ok ⟨"s", "=", "open"⟩ := by
  have hend : picking.map (fun t => (t.session.stage, t.session.field, t.session.operator)) =
      some (.operatorChosen, some (LooseText.ofString "s"), some (LooseText.ofString "=")) := by rfl
  have hmenu : picking.map (fun t => (t.session.suggestions "").answer) = some (.ok ["open", " a", ""]) := by rfl
  obtain ⟨t, ht, hlast⟩ := Option.map_eq_some_iff.mp hend
  simp only [Prod.mk.injEq] at hlast
  obtain ⟨hstage, hfield, hoperator⟩ := hlast
  have hoffered : (t.session.suggestions "").answer = .ok ["open", " a", ""] := by simpa [ht] using hmenu
  obtain ⟨key, f, operator, offered, hkey, -, hop, hanswer, hall⟩ := pick_of_run _ _ _ _ t ht hstage
  obtain rfl := Except.ok.inj ((hanswer "").symm.trans hoffered)
  obtain rfl := Option.some.inj (hkey.symm.trans hfield)
  obtain rfl := Option.some.inj (hop.symm.trans hoperator)
  exact ⟨t, ht, hstage, hoffered, (hall "open" List.mem_cons_self).2.exactly.mpr ⟨by decide, by decide⟩⟩

/-- An option with a space before it makes a chip without the space, which a record that has the option does not
pass, and an empty option makes none. -/
theorem pick_padded : picking.map (fun t => ((t.session.suggestions "").answer, (t.session.commit " a").answer,
      (t.session.commit "").answer)) =
    some (.ok ["open", " a", ""], .ok ⟨"s", "=", "a"⟩, .error (.emptyValue "s")) ∧
      (Condition.mk "s" "=" "a").holds [("s", .text " a")] = .ok false :=
  ⟨by rfl, by rfl⟩

end Session
end FieldFilter
