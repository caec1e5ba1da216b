import FieldFilter.Session

/-!
# FieldFilter.Proofs.Session.Operations — what each step of a session can do

One lemma for each operation lists its outcomes in full: a refusal leaves the session as it was, and a step
that goes through changes what the lemma says and nothing else.  Later proofs cite these lemmas and open no
operation.
-/

namespace FieldFilter

/-! ### The registry -/

namespace Registry

variable {r : Registry} {key operator value text : LooseText} {f : Field} {c : Condition}

theorem get_eq_ok : r.get key = .ok f ↔ r.get? key = some f := by
  unfold get
  cases r.get? key <;> simp

theorem get_of_none (h : r.get? key = none) : r.get key = .error (.unknownField key) := by
  rw [get, h]

/-- A field stands under its own key. -/
theorem key_of_get? (h : r.get? key = some f) : f.key = key := by
  simpa using List.find?_some h

theorem mem_keys_of_get? (h : r.get? key = some f) : key ∈ r.keys := by
  rw [← key_of_get? h]
  exact List.mem_map_of_mem (List.mem_of_find?_eq_some h)

/-- What a text names is registered. -/
theorem find_registered (h : r.find text = some key) : ∃ f, r.get? key = some f := by
  unfold find at h
  simp only at h
  split at h
  · cases h
  · obtain ⟨g, hg, rfl⟩ := Option.map_eq_some_iff.mp h
    have hmem : g ∈ r.fields := by
      rcases Option.or_eq_some_iff.mp hg with hk | ⟨-, hl⟩
      · exact List.mem_of_find?_eq_some hk
      · exact List.mem_of_find?_eq_some hl
    exact Option.isSome_iff_exists.mp (List.find?_isSome.mpr ⟨g, hmem, beq_self_eq_true g.key⟩)

theorem condition_eq_ok :
    r.condition key operator value = .ok c ↔
      ∃ f, r.get? key = some f ∧ operator ∈ f.type.operatorWords ∧ c = ⟨key, operator, value⟩ := by
  cases h : r.get? key with
  | none => simp [condition, get_of_none h, bind, Except.bind]
  | some f =>
    simp only [condition, get_eq_ok.mpr h, bind, Except.bind, Option.some.injEq, exists_eq_left']
    by_cases hmem : operator ∈ f.type.operatorWords
    · rw [if_pos hmem]
      exact ⟨fun e => ⟨hmem, (Except.ok.inj e).symm⟩, fun e => congrArg Except.ok e.2.symm⟩
    · rw [if_neg hmem]
      exact ⟨fun e => (nomatch e), fun e => absurd e.1 hmem⟩

/-- No condition is refused because someone asks to stop. -/
theorem isFailure_of_condition {e : Fault} (h : r.condition key operator value = .error e) :
    e.isFailure = true := by
  cases hf : r.get? key with
  | none =>
    simp only [condition, get_of_none hf, bind, Except.bind, Except.error.injEq] at h
    exact h ▸ rfl
  | some f =>
    simp only [condition, get_eq_ok.mpr hf, bind, Except.bind] at h
    split at h
    · cases h
    · cases h
      rfl

end Registry

namespace Session

variable {s s' : Session} {key k text operator value : LooseText} {r : Resolver} {f : Field}

/-! ### Resolvers -/

theorem lookup_putResolver (key k : LooseText) (r : Resolver) (l : List (LooseText × Resolver)) :
    (putResolver key r l).lookup k = if k = key then some r else l.lookup k := by
  induction l with
  | nil =>
    by_cases h : k = key
    · simp [putResolver, h]
    · simp [putResolver, List.lookup_cons, h, beq_eq_false_iff_ne.mpr h]
  | cons p l ih =>
    obtain ⟨k', r'⟩ := p
    by_cases hk : k' = key
    · subst hk
      by_cases h : k = k'
      · simp [putResolver, h]
      · simp [putResolver, List.lookup_cons, h, beq_eq_false_iff_ne.mpr h]
    · rw [putResolver, if_neg hk, List.lookup_cons, List.lookup_cons, ih]
      by_cases h : k = k'
      · subst h
        simp [hk]
      · simp [beq_eq_false_iff_ne.mpr h]

@[simp] theorem lookup_withResolver :
    (s.withResolver key r).resolvers.lookup k = if k = key then some r else s.resolvers.lookup k :=
  lookup_putResolver key k r s.resolvers

/-- The resolver that a registered field has, or gets on first use. -/
def resolverAt (s : Session) (key : LooseText) (f : Field) : Resolver :=
  (s.resolvers.lookup key).getD { field := f }

/-- Asking for the resolver of a registered field makes it if need be and changes nothing else. -/
theorem resolver_eq (h : s.registry.get? key = some f) :
    ∃ l, s.resolver key = .ok (s.resolverAt key f, { s with resolvers := l }) ∧
      ∀ k, l.lookup k = if k = key then some (s.resolverAt key f) else s.resolvers.lookup k := by
  unfold resolver resolverAt
  cases hl : s.resolvers.lookup key with
  | some r =>
    refine ⟨s.resolvers, rfl, fun k => ?_⟩
    by_cases hk : k = key
    · rw [if_pos hk, hk, hl]
      rfl
    · rw [if_neg hk]
  | none =>
    refine ⟨putResolver key { field := f } s.resolvers, ?_, fun k => lookup_putResolver key k _ _⟩
    simp only [Registry.get_eq_ok.mpr h, bind, Except.bind]
    rfl

/-! ### Giving up the chip under way -/

theorem cancel_eq (s : Session) :
    ∃ l, s.cancel = { s with resolvers := l, stage := .idle, field := none, operator := none } ∧
      ∀ k, l.lookup k =
        if s.field = some k then (s.resolvers.lookup k).map Resolver.reset else s.resolvers.lookup k := by
  simp only [cancel]
  cases hf : s.field with
  | none => exact ⟨s.resolvers, rfl, fun k => rfl⟩
  | some key =>
    cases hl : s.resolvers.lookup key with
    | none =>
      refine ⟨s.resolvers, by simp only [hl], fun k => ?_⟩
      by_cases hk : key = k
      · subst hk
        simp [hl]
      · rw [if_neg fun e => hk (Option.some.inj e)]
    | some r =>
      refine ⟨putResolver key r.reset s.resolvers, by simp only [hl]; rfl, fun k => ?_⟩
      rw [lookup_putResolver]
      by_cases hk : k = key
      · subst hk
        simp [hl]
      · rw [if_neg hk, if_neg fun e => hk (Option.some.inj e).symm]

/-- There is nothing to give up twice. -/
theorem cancel_cancel (s : Session) : s.cancel.cancel = s.cancel := by
  obtain ⟨l, hs, -⟩ := s.cancel_eq
  rw [hs]
  rfl

/-! ### Assembling a chip -/

/-- Listeners that only come back are all called, and leave the session alone. -/
@[simp] theorem publish_nil {α : Type} (a : α) : s.publish a [] = ⟨.ok a, s, s.announcement⟩ := rfl

theorem chooseField_cases (s : Session) (text : LooseText) :
    (∃ e, s.chooseField text = ⟨.error e, s, []⟩) ∨
    ∃ key, s.stage ≠ .operatorChosen ∧ s.registry.find text = some key ∧
      s.chooseField text =
        ⟨.ok key, { s with field := some key, operator := none, stage := .fieldChosen }, []⟩ := by
  unfold chooseField
  by_cases hs : s.stage = .operatorChosen
  · exact Or.inl ⟨_, if_pos hs⟩
  · rw [if_neg hs]
    cases hfind : s.registry.find text with
    | none => exact Or.inl ⟨_, rfl⟩
    | some key => exact Or.inr ⟨key, hs, rfl, rfl⟩

/-- Priming is always possible for a registered field. -/
theorem primeOptions_eq (h : s.registry.get? key = some f) :
    ∃ l, s.primeOptions key = .ok { s with resolvers := l } ∧
      ∀ k, l.lookup k = if k = key ∧ f.type.hasChoices = true
        then some ((s.resolverAt key f).prime "").resolver else s.resolvers.lookup k := by
  unfold primeOptions
  simp only [Registry.get_eq_ok.mpr h, bind, Except.bind]
  by_cases hc : f.type.hasChoices = true
  · obtain ⟨l, hr, hl⟩ := resolver_eq h
    refine ⟨putResolver key ((s.resolverAt key f).prime "").resolver l, ?_, fun k => ?_⟩
    · rw [if_pos hc, hr]
      rfl
    · rw [lookup_putResolver, hl k]
      by_cases hk : k = key
      · simp [hk, hc]
      · simp [hk]
  · exact ⟨s.resolvers, by rw [if_neg hc]; rfl, fun k => by rw [if_neg fun e => hc e.2]⟩

theorem chooseOperator_cases (s : Session) (operator : LooseText) :
    (∃ e, s.chooseOperator operator = ⟨.error e, s, []⟩) ∨
    ∃ key f l, s.stage ≠ .idle ∧ s.field = some key ∧ s.registry.get? key = some f ∧
      operator ∈ f.type.operatorWords ∧
      s.chooseOperator operator =
        ⟨.ok (), { s with operator := some operator, stage := .operatorChosen, resolvers := l }, []⟩ ∧
      ∀ k, l.lookup k = if k = key ∧ f.type.hasChoices = true
        then some ((s.resolverAt key f).prime "").resolver else s.resolvers.lookup k := by
  unfold chooseOperator
  split
  · exact Or.inl ⟨_, rfl⟩
  · exact Or.inl ⟨_, rfl⟩
  · next key hkey hidle =>
    cases hc : s.registry.condition key operator "" with
    | error e => exact Or.inl ⟨e, rfl⟩
    | ok c =>
      obtain ⟨f, hf, hmem, -⟩ := Registry.condition_eq_ok.mp hc
      let chosen := { s with operator := some operator, stage := .operatorChosen }
      have hf' : chosen.registry.get? key = some f := hf
      obtain ⟨l, hprime, hl⟩ := primeOptions_eq hf'
      refine Or.inr ⟨key, f, l, hidle, hkey, hf, hmem, ?_, hl⟩
      simp only [chosen] at hprime
      simp only [hprime]

theorem commit_cases (s : Session) (value : LooseText) :
    (∃ e, e.isFailure = true ∧ ∀ reactions, s.commit value reactions = ⟨.error e, s, []⟩) ∨
    ∃ key operator c, s.stage = .operatorChosen ∧ s.field = some key ∧ s.operator = some operator ∧
      value.strip.isEmpty = false ∧ s.registry.condition key operator value.strip = .ok c ∧
      ∀ reactions, s.commit value reactions = { s with chips := s.chips ++ [c] }.cancel.publish c reactions := by
  unfold commit
  split
  · next key operator hs hf ho =>
    by_cases he : value.strip.isEmpty = true
    · exact Or.inl ⟨_, rfl, fun _ => if_pos he⟩
    · simp only [if_neg he]
      cases hc : s.registry.condition key operator value.strip with
      | error e => exact Or.inl ⟨e, Registry.isFailure_of_condition hc, fun _ => rfl⟩
      | ok c =>
        exact Or.inr ⟨key, operator, c, hs, hf, ho, Bool.eq_false_iff.mpr he, hc, fun _ => rfl⟩
  · exact Or.inl ⟨_, rfl, fun _ => rfl⟩

/-- Adding a whole chip: its field is refused, or the chip is given up later, or all three parts go through. -/
theorem add_cases (s : Session) (field operator value : LooseText) :
    (∃ e, s.chooseField field = ⟨.error e, s, []⟩ ∧ s.add field operator value = ⟨.error e, s, []⟩) ∨
    ∃ key s₁, s.chooseField field = ⟨.ok key, s₁, []⟩ ∧
      ((∃ e, s₁.chooseOperator operator = ⟨.error e, s₁, []⟩ ∧
          s.add field operator value = ⟨.error e, s₁.cancel, []⟩) ∨
        ∃ s₂, s₁.chooseOperator operator = ⟨.ok (), s₂, []⟩ ∧
          ((∃ e, s₂.commit value = ⟨.error e, s₂, []⟩ ∧
              s.add field operator value = ⟨.error e, s₂.cancel, []⟩) ∨
            ∃ c, (s₂.commit value).answer = .ok c ∧ s.add field operator value = s₂.commit value)) := by
  rcases chooseField_cases s field with ⟨e, h⟩ | ⟨key, -, -, h⟩
  · exact Or.inl ⟨e, h, by simp [add, h]⟩
  · refine Or.inr ⟨key, _, h, ?_⟩
    generalize { s with field := some key, operator := none, stage := .fieldChosen } = s₁ at h
    rcases chooseOperator_cases s₁ operator with ⟨e, h₂⟩ | ⟨_, _, l, -, -, -, -, h₂, -⟩
    · exact Or.inl ⟨e, h₂, by simp [add, h, h₂]⟩
    · refine Or.inr ⟨_, h₂, ?_⟩
      generalize { s₁ with operator := some operator, stage := .operatorChosen, resolvers := l } = s₂ at h₂
      rcases commit_cases s₂ value with ⟨e, he, h₃⟩ | ⟨_, _, c, -, -, -, -, -, h₃⟩
      · exact Or.inl ⟨e, h₃ [], by simp [add, h, h₂, h₃, he]⟩
      · exact Or.inr ⟨c, congrArg Reply.answer (h₃ []), by simp [add, h, h₂, h₃]⟩

/-! ### Changing the chips -/

theorem removeChip_cases (s : Session) (index : Int) :
    (∃ e, ∀ reactions, s.removeChip index reactions = ⟨.error e, s, []⟩) ∨
    ∃ i, Node.position? index s.chips.length = some i ∧
      ∀ reactions, s.removeChip index reactions = { s with chips := s.chips.eraseIdx i }.publish () reactions := by
  unfold removeChip
  cases hi : Node.position? index s.chips.length with
  | none => exact Or.inl ⟨_, fun _ => rfl⟩
  | some i => exact Or.inr ⟨i, rfl, fun _ => rfl⟩

/-! ### Looking up options -/

/-- A lookup is begun for the chosen field, which is registered in every session that comes about. -/
theorem startLookup_cases (s : Session) (query : LooseText)
    (hreg : ∀ key, s.field = some key → ∃ f, s.registry.get? key = some f) :
    (s.field = none ∧ ∃ e, s.startLookup query = ⟨.error e, s, []⟩) ∨
    ∃ key f l, s.field = some key ∧ s.registry.get? key = some f ∧
      s.startLookup query =
        ⟨.ok (key, ((s.resolverAt key f).start query).1), { s with resolvers := l }, []⟩ ∧
      ∀ k, l.lookup k =
        if k = key then some ((s.resolverAt key f).start query).2 else s.resolvers.lookup k := by
  unfold startLookup
  cases hfield : s.field with
  | none => exact Or.inl ⟨rfl, _, rfl⟩
  | some key =>
    obtain ⟨f, hf⟩ := hreg key hfield
    obtain ⟨l, hr, hl⟩ := resolver_eq hf
    refine Or.inr ⟨key, f, putResolver key ((s.resolverAt key f).start query).2 l, rfl, hf, ?_, fun k => ?_⟩
    · simp only [hr, ← hfield]
      rfl
    · rw [lookup_putResolver, hl k]
      by_cases hk : k = key
      · simp [hk]
      · simp [hk]

/-- A lookup comes back to the resolver that it was asked of. -/
theorem finishLookup_eq {ticket : Ticket} {o : LookupOutcome} (h : s.resolvers.lookup key = some r) :
    s.finishLookup key ticket o =
      ⟨((r.finish ticket o).answer.map fun _ => (r.finish ticket o).resolver.options).mapError .raised,
        s.withResolver key (r.finish ticket o).resolver, []⟩ := by
  simp only [finishLookup, resolver, h]

/-! ### The menu -/

theorem activeField_eq (hk : s.field = some key) (hf : s.registry.get? key = some f) :
    s.activeField = .ok (some f) := by
  simp [activeField, hk, Registry.get_eq_ok.mpr hf, Except.map]

/-- Looking at the menu makes at most a resolver. -/
theorem suggestions_cases (s : Session) (text : LooseText) :
    (s.suggestions text).session = s ∨
    ∃ key f l, s.registry.get? key = some f ∧ (s.suggestions text).session = { s with resolvers := l } ∧
      ∀ k, l.lookup k = if k = key then some (s.resolverAt key f) else s.resolvers.lookup k := by
  unfold suggestions
  split
  · exact Or.inl rfl
  · exact Or.inl rfl
  · exact Or.inl rfl
  · exact Or.inl rfl
  · next f _ hactive =>
    by_cases hc : f.type.hasChoices = true
    · rw [if_pos hc]
      have hf : s.registry.get? f.key = some f := by
        unfold activeField at hactive
        split at hactive
        · cases hactive
        · next key _ =>
          cases hg : s.registry.get? key with
          | none => simp [Registry.get_of_none hg, Except.map] at hactive
          | some g =>
            simp only [Registry.get_eq_ok.mpr hg, Except.map, Except.ok.injEq, Option.some.injEq] at hactive
            rw [← hactive, Registry.key_of_get? hg]
            exact hg
      obtain ⟨l, hr, hl⟩ := resolver_eq hf
      exact Or.inr ⟨f.key, f, l, hf, by rw [hr], hl⟩
    · rw [if_neg hc]
      exact Or.inl rfl

/-- Once an operator is chosen, the menu holds what the field's resolver has applied. -/
theorem suggestions_eq (hs : s.stage = .operatorChosen) (hk : s.field = some key)
    (hf : s.registry.get? key = some f) (hc : f.type.hasChoices = true)
    (hr : s.resolvers.lookup key = some r) : s.suggestions text = ⟨.ok r.options, s, []⟩ := by
  unfold suggestions
  rw [activeField_eq hk hf, hs]
  simp only [if_pos hc, Registry.key_of_get? hf, resolver, hr]

end Session
end FieldFilter
