import FieldFilter.Proofs.Session.Suggestions

/-!
# FieldFilter.Proofs.Session.Stale — lookups that come back too late

Every event leads to a later session, so a lookup that something newer has overtaken stays behind the resolver of
its field for good (`Traffic.Stale`).  When it comes back, after whatever else has happened, nothing changes
(`Traffic.Stale.ineffective`).
-/

namespace FieldFilter.Session

variable {answer : Nat → LookupOutcome} {t t' : Traffic} {s s' : Session} {e : Event} {key : LooseText}
  {r r' : Resolver} {task : Nat}

/-- A resolver that is put in its own place changes nothing. -/
theorem putResolver_of_lookup {l : List (LooseText × Resolver)} (h : l.lookup key = some r) :
    putResolver key r l = l := by
  induction l with
  | nil => cases h
  | cons p l ih =>
    obtain ⟨k, q⟩ := p
    by_cases hk : k = key
    · subst hk
      rw [List.lookup_cons_self] at h
      rw [putResolver, if_pos rfl, Option.some.inj h]
    · rw [List.lookup_cons, beq_eq_false_iff_ne.mpr (Ne.symm hk)] at h
      rw [putResolver, if_neg hk, ih h]

/-! ### Lookups by number -/

namespace Traffic

/-- A step begins at most one lookup, or one comes back. -/
theorem lookups_of_step (h : t.step answer e = some t') : t'.lookups = t.lookups ∨
    (∃ p, t'.lookups = t.lookups ++ [p]) ∨ ∃ task, t'.lookups = t.lookups.set task none := by
  cases e with
  | chooseOperator operator =>
    simp only [step] at h
    split at h <;> cases h <;> exact .inl rfl
  | openResolver key =>
    simp only [step] at h
    split at h <;> cases h <;> exact .inl rfl
  | startLookup query =>
    simp only [step] at h
    split at h <;> cases h
    · exact .inr (.inl ⟨_, rfl⟩)
    · exact .inl rfl
  | finishLookup task =>
    simp only [step] at h
    split at h <;> cases h
    exact .inr (.inr ⟨task, rfl⟩)
  | _ =>
    cases h
    exact .inl rfl

/-- A lookup that is under way after a step was so before, unless the step began it. -/
theorem underway_of_step (h : t.step answer e = some t') (htask : task < t.lookups.length) :
    task < t'.lookups.length ∧ ∀ p, t'.lookups[task]? = some (some p) → t.lookups[task]? = some (some p) := by
  rcases lookups_of_step h with heq | ⟨p, heq⟩ | ⟨n, heq⟩
  · exact ⟨heq ▸ htask, fun p hp => heq ▸ hp⟩
  · refine ⟨by simp [heq]; omega, fun q hq => ?_⟩
    rwa [heq, List.getElem?_append_left htask] at hq
  · refine ⟨by simpa [heq] using htask, fun q hq => ?_⟩
    rw [heq] at hq
    exact (underway_set.mp hq).2

/-! ### Stale lookups -/

/-- The lookup with this number has come back, or something newer has been asked of the resolver of its field. -/
def Stale (t : Traffic) (task : Nat) : Prop :=
  task < t.lookups.length ∧ ∀ key (ticket : Ticket), t.lookups[task]? = some (some (key, ticket)) →
    ∃ r, t.session.resolvers.lookup key = some r ∧ ticket.generation < r.generation

theorem Stale.step (h : t.Stale task) (hs : t.step answer e = some t') : t'.Stale task := by
  obtain ⟨htask, hold⟩ := h
  obtain ⟨htask', hback⟩ := underway_of_step hs htask
  refine ⟨htask', fun key ticket hlook => ?_⟩
  obtain ⟨r, hr, hlt⟩ := hold key ticket (hback _ hlook)
  obtain ⟨r', hr', hle⟩ := (later_of_step hs).lookup hr
  exact ⟨r', hr', Nat.lt_of_lt_of_le hlt hle⟩

/-- **A stale lookup changes nothing** when it comes back. -/
theorem Stale.finish (h : t.Stale task) (hs : t.step answer (.finishLookup task) = some t') :
    t'.session = t.session := by
  simp only [Traffic.step] at hs
  split at hs
  · next key ticket hlook =>
    obtain ⟨r, hr, hlt⟩ := h.2 key ticket hlook
    cases hs
    rw [finishLookup_eq hr, Resolver.finish_of_ne (Nat.ne_of_lt hlt)]
    exact congrArg (fun l => { t.session with resolvers := l }) (putResolver_of_lookup hr)
  · cases hs

/-- The lookup changes nothing when it comes back, after any further events. -/
def Ineffective (answer : Nat → LookupOutcome) (t : Traffic) (task : Nat) : Prop :=
  ∀ es t₁ t₂, t.run answer es = some t₁ → t₁.step answer (.finishLookup task) = some t₂ →
    t₂.session = t₁.session

theorem Stale.ineffective (h : t.Stale task) : t.Ineffective answer task := by
  intro es t₁ t₂ hrun hs
  have hstale : t₁.Stale task :=
    run_induction (P := fun u => u.Stale task) (fun hold hstep => Stale.step hold hstep) h hrun
  exact hstale.finish hs

end Traffic

end FieldFilter.Session
