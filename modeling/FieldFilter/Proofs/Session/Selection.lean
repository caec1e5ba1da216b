import FieldFilter.Proofs.Expression.Resolved

/-!
# FieldFilter.Proofs.Session.Selection — which field a key selects in a session

Each step that assembles a chip goes through under a condition of its own (`chooseField_eq_ok`,
`chooseOperator_eq_ok`, `commit_eq_ok`, `add_eq_ok`).  A key that is typed exactly selects its own field, in
sessions as in expressions, just if no earlier key of the registry is the same up to case
(`selectsItself_iff`).
-/

namespace FieldFilter.Session

variable {s : Session} {text key field operator value : LooseText} {c : Condition} {f : Field}

/-! ### When a step goes through -/

theorem chooseField_eq_ok :
    (s.chooseField text).answer = .ok key ↔ s.stage ≠ .operatorChosen ∧ s.registry.find text = some key := by
  unfold chooseField
  by_cases hs : s.stage = .operatorChosen
  · simp [hs]
  · rw [if_neg hs]
    cases hfind : s.registry.find text <;> simp [hs]

theorem chooseOperator_eq_ok :
    (s.chooseOperator operator).answer = .ok () ↔ s.stage ≠ .idle ∧
      ∃ key f, s.field = some key ∧ s.registry.get? key = some f ∧ operator ∈ f.type.operatorWords := by
  constructor
  · intro h
    rcases chooseOperator_cases s operator with ⟨e, he⟩ | ⟨key, f, l, hs, hkey, hf, hop, -⟩
    · rw [he] at h
      cases h
    · exact ⟨hs, key, f, hkey, hf, hop⟩
  · rintro ⟨hs, key, f, hkey, hf, hop⟩
    have hcond : s.registry.condition key operator "" = .ok ⟨key, operator, ""⟩ :=
      Registry.condition_eq_ok.mpr ⟨f, hf, hop, rfl⟩
    obtain ⟨l, hprime, -⟩ :=
      primeOptions_eq (s := { s with operator := some operator, stage := .operatorChosen }) hf
    rw [hkey] at hprime
    unfold chooseOperator
    simp only [hkey, hcond]
    cases hstage : s.stage with
    | idle => exact absurd hstage hs
    | fieldChosen | operatorChosen => simp only [hprime]

theorem commit_eq_ok :
    (s.commit value).answer = .ok c ↔ s.stage = .operatorChosen ∧ value.strip.isEmpty = false ∧
      ∃ key operator f, s.field = some key ∧ s.operator = some operator ∧ s.registry.get? key = some f ∧
        operator ∈ f.type.operatorWords ∧ c = ⟨key, operator, value.strip⟩ := by
  constructor
  · intro h
    rcases commit_cases s value with ⟨e, -, he⟩ | ⟨key, operator, c', hs, hkey, hop, hne, hcond, heq⟩
    · rw [he] at h
      cases h
    · rw [heq] at h
      cases h
      obtain ⟨f, hf, hmem, rfl⟩ := Registry.condition_eq_ok.mp hcond
      exact ⟨hs, hne, key, operator, f, hkey, hop, hf, hmem, rfl⟩
  · rintro ⟨hs, hne, key, operator, f, hkey, hop, hf, hmem, rfl⟩
    have hcond : s.registry.condition key operator value.strip = .ok ⟨key, operator, value.strip⟩ :=
      Registry.condition_eq_ok.mpr ⟨f, hf, hmem, rfl⟩
    simp [commit, hs, hkey, hop, hne, hcond]

theorem chooseField_ok (h : (s.chooseField text).answer = .ok key) :
    (s.chooseField text).session = { s with field := some key, operator := none, stage := .fieldChosen } := by
  rcases chooseField_cases s text with ⟨e, he⟩ | ⟨key', -, -, hok⟩
  · rw [he] at h
    cases h
  · rw [hok] at h ⊢
    cases h
    rfl

theorem chooseOperator_ok (h : (s.chooseOperator operator).answer = .ok ()) :
    ∃ l, (s.chooseOperator operator).session =
      { s with operator := some operator, stage := .operatorChosen, resolvers := l } := by
  rcases chooseOperator_cases s operator with ⟨e, he⟩ | ⟨key, f, l, -, -, -, -, hok, -⟩
  · rw [he] at h
    cases h
  · exact ⟨l, by rw [hok]⟩

theorem add_eq_ok_iff_steps :
    (s.add field operator value).answer = .ok c ↔ (∃ key, (s.chooseField field).answer = .ok key) ∧
      ((s.chooseField field).session.chooseOperator operator).answer = .ok () ∧
      (((s.chooseField field).session.chooseOperator operator).session.commit value).answer = .ok c := by
  simp only [add]
  generalize s.chooseField field = first
  cases h₁ : first.answer with
  | error e => simp
  | ok key =>
    generalize first.session.chooseOperator operator = second
    cases h₂ : second.answer with
    | error e => simp
    | ok u =>
      generalize second.session.commit value = third
      cases h₃ : third.answer with
      | ok c' => simp [h₃]
      | error e => cases he : e.isFailure <;> simp [h₃, he]

/-- A whole chip goes through if its field can be chosen, its operator suits the field and its value is not
blank. -/
theorem add_eq_ok :
    (s.add field operator value).answer = .ok c ↔ s.stage ≠ .operatorChosen ∧ value.strip.isEmpty = false ∧
      ∃ key f, s.registry.find field = some key ∧ s.registry.get? key = some f ∧
        operator ∈ f.type.operatorWords ∧ c = ⟨key, operator, value.strip⟩ := by
  rw [add_eq_ok_iff_steps]
  constructor
  · rintro ⟨⟨key, h₁⟩, h₂, h₃⟩
    obtain ⟨hs, hfind⟩ := chooseField_eq_ok.mp h₁
    obtain ⟨l, hl⟩ := chooseOperator_ok h₂
    rw [hl, chooseField_ok h₁] at h₃
    obtain ⟨-, hne, _, _, f, ⟨⟩, ⟨⟩, hf, hmem, rfl⟩ := commit_eq_ok.mp h₃
    exact ⟨hs, hne, key, f, hfind, hf, hmem, rfl⟩
  · rintro ⟨hs, hne, key, f, hfind, hf, hmem, rfl⟩
    have h₁ := chooseField_eq_ok.mpr ⟨hs, hfind⟩
    have h₂ : ((s.chooseField field).session.chooseOperator operator).answer = .ok () := by
      rw [chooseField_ok h₁]
      exact chooseOperator_eq_ok.mpr ⟨by simp, key, f, rfl, hf, hmem⟩
    obtain ⟨l, hl⟩ := chooseOperator_ok h₂
    refine ⟨⟨key, h₁⟩, h₂, ?_⟩
    rw [hl, chooseField_ok h₁]
    exact commit_eq_ok.mpr ⟨rfl, hne, key, operator, f, rfl, rfl, hf, hmem, rfl⟩

/-! ### Keys as they were registered -/

/-- Wherever the key is typed or picked it selects its own field. -/
structure SelectsItself (r : Registry) (k : LooseText) : Prop where
  find : r.find k = some k
  chosen : ∀ s : Session, s.registry = r → s.stage ≠ .operatorChosen → (s.chooseField k).answer = .ok k
  /-- The menu of an idle session offers the key only if picking it selects its field. -/
  offered : ∀ (s : Session) (text : LooseText) (keys : List LooseText), s.registry = r → s.stage = .idle →
    (s.suggestions text).answer = .ok keys → k ∈ keys → (s.chooseField k).answer = .ok k
  /-- A chip that is added under the key is the condition on its field. -/
  added : ∀ (s : Session) (operator value : LooseText) (c : Condition), s.registry = r →
    s.stage ≠ .operatorChosen → ((s.add k operator value).answer = .ok c ↔
      value.strip.isEmpty = false ∧ r.condition k operator value.strip = .ok c)
  /-- A condition that is typed with the key is read as one on its field. -/
  read : ∀ (text : LooseText) (n m : Node) (i : Nat) (c c' : Condition), Expression.parse text = .ok n →
    r.parse text = .ok m → n.conditions[i]? = some c → m.conditions[i]? = some c' → c.field = k → c'.field = k

/-- **A key that is typed exactly selects its own field** just if no earlier key is the same up to case. -/
theorem selectsItself_iff {r : Registry} {k : LooseText} (hk : k ∈ r.keys) (hstrip : k.strip = k)
    (hne : k.isEmpty = false) : SelectsItself r k ↔ r.Unshadowed k := by
  rw [← Registry.find_self_iff hk hstrip hne]
  refine ⟨SelectsItself.find, fun hfind => ?_⟩
  have hchosen (s : Session) (hr : s.registry = r) (hs : s.stage ≠ .operatorChosen) :
      (s.chooseField k).answer = .ok k := chooseField_eq_ok.mpr ⟨hs, hr ▸ hfind⟩
  refine ⟨hfind, hchosen, fun s _ _ hr hs _ _ => hchosen s hr (by simp [hs]), fun s operator value c hr hs => ?_,
    fun text n m i c c' hn hm hc hc' hfield => ?_⟩
  · rw [add_eq_ok, hr, Registry.condition_eq_ok]
    simp [hs, hfind]
  · obtain ⟨n', hn', rfl, -⟩ := Registry.parse_eq_ok.mp hm
    obtain rfl := Except.ok.inj (hn.symm.trans hn')
    rw [Registry.conditions_resolve, List.getElem?_map, hc] at hc'
    obtain rfl := Option.some.inj hc'
    simp [Registry.resolveCondition, hfield, hfind]

/-- Two fields, each labelled with the key of the other. -/
def crossed : Registry where
  fields := [⟨"age", "name", .number, .absent⟩, ⟨"Name", "AGE", .string, .absent⟩]
  nodup := by decide

theorem selectsItself_crossed :
    ("Name" : LooseText) ∈ crossed.keys ∧ LooseText.strip "Name" = "Name" ∧ LooseText.isEmpty "Name" = false ∧
      SelectsItself crossed "Name" := by
  have hk : ("Name" : LooseText) ∈ crossed.keys := by decide
  have hstrip : LooseText.strip "Name" = "Name" := by decide
  refine ⟨hk, hstrip, rfl, (selectsItself_iff hk hstrip rfl).mpr ⟨["age"], [], rfl, ?_⟩⟩
  decide +kernel

/-- Two fields whose keys are the same up to case. -/
def twins : Registry where
  fields := [⟨"A", "first", .string, .absent⟩, ⟨"a", "second", .string, .absent⟩]
  nodup := by decide

/-- The second key selects the first field. -/
theorem find_twins :
    ("a" : LooseText) ∈ twins.keys ∧ LooseText.strip "a" = "a" ∧ LooseText.isEmpty "a" = false ∧
      twins.find "a" = some "A" ∧ ¬ SelectsItself twins "a" := by
  have hfind : twins.find "a" = some "A" := by rfl
  refine ⟨by decide, by decide, rfl, hfind, fun h => ?_⟩
  exact absurd (hfind.symm.trans h.find) (by decide)

end FieldFilter.Session
