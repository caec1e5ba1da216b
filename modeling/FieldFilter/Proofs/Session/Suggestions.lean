import Mathlib.Tactic.SplitIfs
import FieldFilter.Proofs.History
import FieldFilter.Proofs.Session.Run

/-!
# FieldFilter.Proofs.Session.Suggestions — the options of one chip never leak into another

Once an operator is chosen for a field whose values are picked, the menu shows what the lookups begun since
then have brought.  `Shows key` says which of them count: a lookup begun for the field, with no newer one for
the field begun before it comes back.  `Sound` is the invariant of a run: since the last choice of an
operator, the resolver of the chosen field holds what `Leaves (Shows key)` says, and a lookup under way has
the number of that resolver exactly if it is the newest one begun for the field since the choice.
-/

namespace FieldFilter.Session

/-- Among these happenings the lookup was begun for the field, and no newer one for the field since. -/
def Newest (key : LooseText) (log : List Happening) (task : Nat) : Prop :=
  ∃ us vs, log = us ++ .request task key :: vs ∧ ∀ n, .request n key ∉ vs

/-- The lookup that comes back is the newest one for the field: the menu then shows its options. -/
def Shows (key : LooseText) (log : List Happening) (h : Happening) (options : List LooseText) : Prop :=
  ∃ task, h = .answer task options ∧ Newest key log task

/-- The happenings after the last choice of an operator, which was for the field. -/
def Since (key : LooseText) (log since : List Happening) : Prop :=
  ∃ before, log = before ++ .choice key :: since ∧ ∀ k, .choice k ∉ since

section Newest

variable {key : LooseText} {log : List Happening} {h : Happening} {task n : Nat}

theorem not_newest_nil : ¬ Newest key [] task := by
  rintro ⟨us, vs, hcut, -⟩
  simp at hcut

theorem Newest.mem (hn : Newest key log task) : .request task key ∈ log := by
  obtain ⟨us, vs, rfl, -⟩ := hn
  simp

/-- A request alone shows nothing new. -/
theorem not_shows_request {options : List LooseText} : ¬ Shows key log (.request n key) options := by
  rintro ⟨_, he, -⟩
  cases he

theorem newest_request : Newest key (log ++ [.request n key]) task ↔ task = n := by
  constructor
  · rintro ⟨us, vs, hcut, hvs⟩
    rcases concat_eq_append_cons hcut with ⟨-, he⟩ | ⟨ws, rfl, -⟩
    · exact (Happening.request.inj he).1
    · exact absurd (by simp) (hvs n)
  · rintro rfl
    exact ⟨log, [], rfl, by simp⟩

theorem newest_other (hne : ∀ n, h ≠ .request n key) : Newest key (log ++ [h]) task ↔ Newest key log task := by
  constructor
  · rintro ⟨us, vs, hcut, hvs⟩
    rcases concat_eq_append_cons hcut with ⟨-, he⟩ | ⟨ws, rfl, rfl⟩
    · exact absurd he.symm (hne task)
    · exact ⟨us, ws, rfl, fun n hn => hvs n (by simp [hn])⟩
  · rintro ⟨us, vs, rfl, hvs⟩
    refine ⟨us, vs ++ [h], by simp, fun n hn => ?_⟩
    rcases List.mem_append.mp hn with hn | hn
    · exact hvs n hn
    · exact hne n (List.mem_singleton.mp hn).symm

theorem since_choice : Since key (log ++ [.choice key]) [] :=
  ⟨log, rfl, by simp⟩

theorem Since.concat {since : List Happening} (hs : Since key log since) (hne : ∀ k, h ≠ .choice k) :
    Since key (log ++ [h]) (since ++ [h]) := by
  obtain ⟨before, rfl, hno⟩ := hs
  refine ⟨before, by simp, fun k hk => ?_⟩
  rcases List.mem_append.mp hk with hk | hk
  · exact hno k hk
  · exact hne k (List.mem_singleton.mp hk).symm

theorem Since.mem {since : List Happening} (hs : Since key log since) {x : Happening} (hx : x ∈ since) :
    x ∈ log := by
  obtain ⟨before, rfl, -⟩ := hs
  simp [hx]

end Newest

/-! ### The invariant of a run -/

/-- What holds of a session and its lookups in every run. -/
structure Sound (registry : Registry) (t : Traffic) : Prop where
  registered : t.session.registry = registry
  resolver : ∀ key r, t.session.resolvers.lookup key = some r → registry.get? key = some r.field
  field : ∀ key, t.session.field = some key → ∃ f, registry.get? key = some f
  ticket : ∀ (task : Nat) (key : LooseText) (ticket : Ticket),
    t.lookups[task]? = some (some (key, ticket)) →
      ∃ r, t.session.resolvers.lookup key = some r ∧ ticket.generation ≤ r.generation
  request : ∀ task key, .request task key ∈ t.log → task < t.lookups.length ∧
    ∀ (k : LooseText) (ticket : Ticket), t.lookups[task]? = some (some (k, ticket)) → k = key
  shown : t.session.stage = .operatorChosen → ∀ key f, t.session.field = some key →
    registry.get? key = some f → f.type.hasChoices = true →
    ∃ since r, Since key t.log since ∧ t.session.resolvers.lookup key = some r ∧
      Leaves (Shows key) f.unfiltered since r.options ∧
      ∀ (task : Nat) (ticket : Ticket), t.lookups[task]? = some (some (key, ticket)) →
        (ticket.generation = r.generation ↔ Newest key since task)

section Sound

variable {registry : Registry} {answer : Nat → LookupOutcome} {t t' : Traffic} {s' : Session}

theorem sound_fresh (registry : Registry) (listeners : List LooseText) :
    Sound registry (.fresh registry listeners) where
  registered := rfl
  resolver key r h := by simp [Traffic.fresh] at h
  field key h := by simp [Traffic.fresh] at h
  ticket task key ticket h := by simp [Traffic.fresh] at h
  request task key h := by simp [Traffic.fresh] at h
  shown h := by cases h

/-- Resolvers stay those of registered fields. -/
theorem Sound.resolver_later (h : Sound registry t) (hl : Later t.session s') (key : LooseText)
    (r : Resolver) (hr : s'.resolvers.lookup key = some r) : registry.get? key = some r.field := by
  have hg := hl.grows key
  rw [hr, h.registered] at hg
  generalize hb : t.session.resolvers.lookup key = before at hg
  cases hg with
  | same => exact h.resolver key r hb
  | asked hf _ => exact hf ▸ h.resolver key _ hb
  | made hf => exact hf

/-- No lookup gets ahead of its resolver. -/
theorem Sound.ticket_later (h : Sound registry t) (hl : Later t.session s') {task : Nat}
    {key : LooseText} {ticket : Ticket} (hlook : t.lookups[task]? = some (some (key, ticket))) :
    ∃ r, s'.resolvers.lookup key = some r ∧ ticket.generation ≤ r.generation := by
  obtain ⟨r, hr, hle⟩ := h.ticket task key ticket hlook
  obtain ⟨r', hr', hgen⟩ := hl.lookup hr
  exact ⟨r', hr', Nat.le_trans hle hgen⟩

/-- A step that chooses no operator and leaves lookups alone keeps the invariant: either no operator is
chosen after it, or the chosen field and its resolver are what they were. -/
theorem Sound.withSession (h : Sound registry t) (hl : Later t.session s')
    (hfield : ∀ key, s'.field = some key → ∃ f, registry.get? key = some f)
    (hkeep : s'.stage ≠ .operatorChosen ∨ s'.stage = t.session.stage ∧ s'.field = t.session.field ∧
      ∀ key r, t.session.resolvers.lookup key = some r → s'.resolvers.lookup key = some r) :
    Sound registry (t.withSession s') where
  registered := hl.registry.trans h.registered
  resolver := h.resolver_later hl
  field := hfield
  ticket task key ticket hlook := h.ticket_later hl hlook
  request := h.request
  shown hs key f hk hf hc := by
    rcases hkeep with hne | ⟨hstage, hsame, hres⟩
    · exact absurd hs hne
    · obtain ⟨since, r, h1, h2, h3, h4⟩ := h.shown (hstage ▸ hs) key f (hsame ▸ hk) hf hc
      exact ⟨since, r, h1, hres key r h2, h3, h4⟩

/-- The resolver of a registered field is one for that field. -/
theorem Sound.resolverAt_field (h : Sound registry t) {key : LooseText} {f : Field}
    (hf : registry.get? key = some f) : (t.session.resolverAt key f).field = f := by
  unfold resolverAt
  cases hr : t.session.resolvers.lookup key with
  | none => rfl
  | some r => exact Option.some.inj ((h.resolver key r hr).symm.trans hf)

/-- Choosing an operator primes the field's resolver and makes all its lookups old. -/
theorem Sound.choice (h : Sound registry t) (operator : LooseText) {key : LooseText} {f : Field}
    {l : List (LooseText × Resolver)} (hkey : t.session.field = some key)
    (hf : registry.get? key = some f)
    (hl : ∀ k, l.lookup k = if k = key ∧ f.type.hasChoices = true
      then some ((t.session.resolverAt key f).prime "").resolver else t.session.resolvers.lookup k)
    (hs' : s' = { t.session with
      operator := some operator, stage := .operatorChosen, resolvers := l })
    (hlater : Later t.session s') :
    Sound registry { t with session := s', log := t.log ++ [.choice key] } where
  registered := hlater.registry.trans h.registered
  resolver := h.resolver_later hlater
  field k hk := h.field k (by rw [hs'] at hk; exact hk)
  ticket task k ticket hlook := h.ticket_later hlater hlook
  request task k hmem := by
    simp only [List.mem_append, List.mem_singleton, reduceCtorEq, or_false] at hmem
    exact h.request task k hmem
  shown _ k g hk hg hc := by
    have hkk : k = key := by
      rw [hs'] at hk
      exact Option.some.inj (hk.symm.trans hkey)
    subst hkk
    obtain rfl : g = f := Option.some.inj (hg.symm.trans hf)
    refine ⟨[], ((t.session.resolverAt k g).prime "").resolver, since_choice, ?_, ?_, ?_⟩
    · rw [hs', hl k, if_pos ⟨rfl, hc⟩]
    · have hoptions : ((t.session.resolverAt k g).prime "").resolver.options = g.unfiltered := by
        have hfield := h.resolverAt_field hf
        rw [Resolver.prime_resolver, hfield]
        exact g.static_empty
      rw [hoptions]
      exact Leaves.nil
    · intro task ticket hlook
      obtain ⟨r, hr, hle⟩ := h.ticket task k ticket hlook
      have hgen : ((t.session.resolverAt k g).prime "").resolver.generation = r.generation + 1 := by
        simp [resolverAt, hr, Resolver.prime_resolver]
      exact iff_of_false (by omega) not_newest_nil

/-- A lookup that is begun becomes the newest one for its field. -/
theorem Sound.begin (h : Sound registry t) {key query : LooseText} {f : Field}
    {l : List (LooseText × Resolver)} (hkey : t.session.field = some key)
    (hf : registry.get? key = some f)
    (hl : ∀ k, l.lookup k = if k = key
      then some ((t.session.resolverAt key f).start query).2 else t.session.resolvers.lookup k)
    (hlater : Later t.session { t.session with resolvers := l }) :
    Sound registry ⟨{ t.session with resolvers := l },
      t.lookups ++ [some (key, ((t.session.resolverAt key f).start query).1)],
      t.log ++ [.request t.lookups.length key]⟩ := by
  refine
    { registered := h.registered
      resolver := h.resolver_later hlater
      field := h.field
      ticket := ?_, request := ?_, shown := ?_ }
  · intro task k ticket hlook
    rcases underway_concat.mp hlook with ⟨hold, -⟩ | ⟨-, hnew⟩
    · exact h.ticket_later hlater hold
    · cases hnew
      exact ⟨_, by rw [hl key, if_pos rfl], Nat.le_refl _⟩
  · intro task k hmem
    rw [List.length_append]
    rcases List.mem_append.mp hmem with hmem | hmem
    · obtain ⟨hlt, hsame⟩ := h.request task k hmem
      refine ⟨Nat.lt_add_right _ hlt, fun k' ticket hlook => ?_⟩
      rcases underway_concat.mp hlook with ⟨hold, -⟩ | ⟨rfl, -⟩
      · exact hsame k' ticket hold
      · exact absurd hlt (Nat.lt_irrefl _)
    · simp only [List.mem_singleton, Happening.request.injEq] at hmem
      obtain ⟨rfl, rfl⟩ := hmem
      refine ⟨Nat.lt_succ_self _, fun k' ticket hlook => ?_⟩
      rcases underway_concat.mp hlook with ⟨-, hlt⟩ | ⟨-, hnew⟩
      · exact absurd hlt (Nat.lt_irrefl _)
      · exact congrArg Prod.fst hnew
  · intro hs k g hk hg hc
    obtain rfl : k = key := Option.some.inj (hk.symm.trans hkey)
    obtain rfl : g = f := Option.some.inj (hg.symm.trans hf)
    obtain ⟨since, r, hsince, hr, hleaves, hticket⟩ := h.shown hs k g hk hg hc
    have hat : t.session.resolverAt k g = r := by simp [resolverAt, hr]
    refine ⟨since ++ [.request t.lookups.length k], (r.start query).2,
      hsince.concat (by simp), by rw [hl k, if_pos rfl, hat],
      hleaves.keep fun _ => not_shows_request, ?_⟩
    intro task ticket hlook
    rw [newest_request]
    rcases underway_concat.mp hlook with ⟨hold, hlt⟩ | ⟨rfl, hnew⟩
    · obtain ⟨r', hr', hle⟩ := h.ticket task k ticket hold
      obtain rfl : r' = r := Option.some.inj (hr'.symm.trans hr)
      have hgen : (r'.start query).2.generation = r'.generation + 1 := rfl
      exact iff_of_false (by omega) (by omega)
    · rw [hat] at hnew
      cases hnew
      exact iff_of_true rfl rfl

/-- A lookup that comes back changes no resolver but its own. -/
theorem lookup_finishLookup {s : Session} {k key : LooseText} {r : Resolver} {ticket : Ticket}
    {o : LookupOutcome} (hr : s.resolvers.lookup k = some r) :
    (s.finishLookup k ticket o).session.resolvers.lookup key =
      if key = k then some (r.finish ticket o).resolver else s.resolvers.lookup key := by
  rw [finishLookup_eq hr]
  exact lookup_withResolver

/-- A lookup that is stopped leaves its resolver as it was. -/
theorem lookup_finishLookup_stop {s : Session} {k key : LooseText} {r : Resolver} {ticket : Ticket}
    {o : LookupOutcome} (hr : s.resolvers.lookup k = some r) (ho : o.options? = none) :
    (s.finishLookup k ticket o).session.resolvers.lookup key = s.resolvers.lookup key := by
  rw [lookup_finishLookup hr, Resolver.finish_resolver Reaction.quiet_default.inert, ho]
  by_cases hk : key = k
  · rw [if_pos hk, hk, hr]
    exact congrArg some (ite_self r)
  · rw [if_neg hk]

/-- A lookup that comes back is shown if it is the newest one for the chosen field, and otherwise dropped. -/
theorem Sound.finish (h : Sound registry t) {task : Nat} {k : LooseText} {ticket : Ticket}
    {o : LookupOutcome} (hlook : t.lookups[task]? = some (some (k, ticket))) :
    Sound registry ⟨(t.session.finishLookup k ticket o).session, t.lookups.set task none,
      t.log ++ (o.options?.map (.answer task)).toList⟩ := by
  obtain ⟨r, hr, -⟩ := h.ticket task k ticket hlook
  have hlater := later_finishLookup t.session k ticket o
  have hsession : (t.session.finishLookup k ticket o).session =
      t.session.withResolver k (r.finish ticket o).resolver := by rw [finishLookup_eq hr]
  refine
    { registered := hlater.registry.trans h.registered
      resolver := h.resolver_later hlater
      field := fun key hk => h.field key (by rw [hsession] at hk; exact hk)
      ticket := fun n key u hn => h.ticket_later hlater (underway_set.mp hn).2
      request := ?_, shown := ?_ }
  · intro n key hmem
    have hold : .request n key ∈ t.log := by
      cases ho : o.options? <;> simpa [ho] using hmem
    obtain ⟨hlt, hsame⟩ := h.request n key hold
    exact ⟨by rw [List.length_set]; exact hlt, fun k' u hn => hsame k' u (underway_set.mp hn).2⟩
  · intro hs key f hk hf hc
    rw [hsession] at hs hk
    obtain ⟨since, r', hsince, hr', hleaves, hticket⟩ := h.shown hs key f hk hf hc
    cases ho : o.options? with
    | none =>
      refine ⟨since, r', by simpa using hsince, ?_, hleaves, fun n u hn => hticket n u (underway_set.mp hn).2⟩
      rw [lookup_finishLookup_stop hr ho]
      exact hr'
    | some options =>
      have hsince' := hsince.concat (h := .answer task options) (by simp)
      have hnewest : ∀ n, Newest key (since ++ [.answer task options]) n ↔ Newest key since n :=
        fun n => newest_other (by simp)
      by_cases hkey : key = k
      · subst hkey
        obtain rfl : r' = r := Option.some.inj (hr'.symm.trans hr)
        refine ⟨_, (r'.finish ticket o).resolver, hsince', ?_, ?_, ?_⟩
        · rw [lookup_finishLookup hr, if_pos rfl]
        · rw [Resolver.finish_resolver Reaction.quiet_default.inert, ho]
          by_cases hg : ticket.generation = r'.generation
          · rw [if_pos hg]
            exact .set ⟨task, rfl, (hticket task ticket hlook).mp hg⟩
          · rw [if_neg hg]
            refine hleaves.keep fun w hw => ?_
            obtain ⟨n, he, hn⟩ := hw
            obtain ⟨rfl, -⟩ := Happening.answer.inj he
            exact hg ((hticket task ticket hlook).mpr hn)
        · intro n u hn
          rw [Resolver.finish_generation, hnewest]
          exact hticket n u (underway_set.mp hn).2
      · refine ⟨_, r', hsince', ?_, ?_, ?_⟩
        · rw [lookup_finishLookup hr, if_neg hkey]
          exact hr'
        · refine hleaves.keep fun w hw => ?_
          obtain ⟨n, he, hn⟩ := hw
          obtain ⟨rfl, -⟩ := Happening.answer.inj he
          -- a lookup that counts for the chosen field was begun for it
          exact hkey ((h.request task key (hsince.mem hn.mem)).2 k ticket hlook).symm
        · intro n u hn
          rw [hnewest]
          exact hticket n u (underway_set.mp hn).2

/-- Nothing is chosen after a step that gives up the chip under way. -/
theorem cancel_idle (s : Session) : s.cancel.stage = .idle ∧ s.cancel.field = none := by
  obtain ⟨l, hs, -⟩ := s.cancel_eq
  rw [hs]
  exact ⟨rfl, rfl⟩

theorem commit_idle {s : Session} {value : LooseText} {c : Condition}
    (hc : (s.commit value).answer = .ok c) :
    (s.commit value).session.stage = .idle ∧ (s.commit value).session.field = none := by
  rcases s.commit_cases value with ⟨e, -, h⟩ | ⟨_, _, _, -, -, -, -, -, h⟩
  · rw [h] at hc
    cases hc
  · rw [h]
    exact cancel_idle _

/-- Adding a whole chip leaves a session as it was or one without a chip under way. -/
theorem add_idle (s : Session) (field operator value : LooseText) :
    (s.add field operator value).session = s ∨ (s.add field operator value).session.stage = .idle ∧
      (s.add field operator value).session.field = none := by
  rcases s.add_cases field operator value with ⟨e, -, h⟩ | ⟨key, s₁, -, hrest⟩
  · exact Or.inl (by rw [h])
  · right
    rcases hrest with ⟨e, -, h⟩ | ⟨s₂, -, ⟨e, -, h⟩ | ⟨c, hc, h⟩⟩
    · rw [h]
      exact cancel_idle s₁
    · rw [h]
      exact cancel_idle s₂
    · rw [h]
      exact commit_idle hc

theorem Sound.same (h : Sound registry t) (hs : s' = t.session) : Sound registry (t.withSession s') := by
  rw [hs]
  exact h

theorem Sound.idle (h : Sound registry t) (hl : Later t.session s')
    (hidle : s'.stage = .idle ∧ s'.field = none) : Sound registry (t.withSession s') := by
  obtain ⟨hstage, hfield⟩ := hidle
  refine h.withSession hl (fun key hk => ?_) (Or.inl ?_)
  · rw [hfield] at hk
    cases hk
  · rw [hstage]
    exact Stage.noConfusion

/-- A step that makes at most a resolver keeps the invariant. -/
theorem Sound.made (h : Sound registry t) {key : LooseText} {f : Field} {l : List (LooseText × Resolver)}
    (hlater : Later t.session { t.session with resolvers := l })
    (hl : ∀ k, l.lookup k = if k = key then some (t.session.resolverAt key f)
      else t.session.resolvers.lookup k) :
    Sound registry (t.withSession { t.session with resolvers := l }) := by
  refine h.withSession hlater h.field (Or.inr ⟨rfl, rfl, fun k r hr => ?_⟩)
  rw [hl k]
  split_ifs with hk
  · rw [resolverAt, ← hk, hr]
    rfl
  · exact hr

theorem Sound.chooseField (h : Sound registry t) (text : LooseText) :
    Sound registry (t.withSession (t.session.chooseField text).session) := by
  rcases t.session.chooseField_cases text with ⟨e, heq⟩ | ⟨key, -, hfind, heq⟩
  · exact h.same (by rw [heq])
  · refine h.withSession (later_chooseField _ text) (fun k hk => ?_) (Or.inl (by simp [heq]))
    simp only [heq, Option.some.injEq] at hk
    rw [← hk, ← h.registered]
    exact Registry.find_registered hfind

theorem Sound.commit (h : Sound registry t) (value : LooseText) :
    Sound registry (t.withSession (t.session.commit value).session) := by
  rcases t.session.commit_cases value with ⟨e, -, heq⟩ | ⟨_, _, c, -, -, -, -, -, heq⟩
  · exact h.same (by rw [heq])
  · have hc : (t.session.commit value).answer = .ok c := congrArg Reply.answer (heq [])
    exact h.idle (later_commit _ value) (commit_idle hc)

theorem Sound.add (h : Sound registry t) (field operator value : LooseText) :
    Sound registry (t.withSession (t.session.add field operator value).session) := by
  rcases t.session.add_idle field operator value with heq | hidle
  · exact h.same heq
  · exact h.idle (later_add _ field operator value) hidle

/-- Only fields that are registered have resolvers. -/
theorem Sound.resolver_of_none (h : Sound registry t) {key : LooseText} (hf : registry.get? key = none) :
    t.session.resolver key = .error (.unknownField key) := by
  unfold Session.resolver
  cases hr : t.session.resolvers.lookup key with
  | none => simp [Registry.get_of_none (h.registered ▸ hf), bind, Except.bind]
  | some r => exact absurd (h.resolver key r hr) (by rw [hf]; simp)

/-- Every event keeps the invariant. -/
theorem Sound.step (h : Sound registry t) {e : Event} (hs : t.step answer e = some t') :
    Sound registry t' := by
  cases e with
  | chooseField text =>
    cases hs
    exact h.chooseField text
  | chooseOperator operator =>
    have hlater := later_chooseOperator t.session operator
    rcases t.session.chooseOperator_cases operator with ⟨e, heq⟩ | ⟨key, f, l, -, hkey, hf, -, heq, hl⟩
    · simp only [Traffic.step, heq, Option.some.injEq] at hs
      exact hs ▸ h
    · simp only [Traffic.step, heq, hkey, Option.some.injEq] at hs
      simp only [heq, hkey] at hlater
      rw [← hs]
      exact h.choice operator hkey (h.registered ▸ hf) hl (by simp only [hkey]) hlater
  | commit value =>
    cases hs
    exact h.commit value
  | cancel =>
    cases hs
    exact h.idle (later_cancel _) (cancel_idle _)
  | add field operator value =>
    cases hs
    exact h.add field operator value
  | removeChip index =>
    cases hs
    rcases t.session.removeChip_cases index with ⟨e, heq⟩ | ⟨i, -, heq⟩
    · exact h.same (by rw [heq])
    · rw [heq]
      exact h.withSession ⟨rfl, fun _ => .same⟩ h.field (Or.inr ⟨rfl, rfl, fun _ _ hr => hr⟩)
  | clear =>
    cases hs
    exact h.idle (later_clear _) (cancel_idle _)
  | subscribe name =>
    cases hs
    exact h.withSession ⟨rfl, fun _ => .same⟩ h.field (Or.inr ⟨rfl, rfl, fun _ _ hr => hr⟩)
  | suggestions text =>
    cases hs
    have hlater := later_suggestions t.session text
    rcases t.session.suggestions_cases text with heq | ⟨key, f, l, -, heq, hl⟩
    · exact h.same heq
    · rw [heq] at hlater ⊢
      exact h.made hlater hl
  | openResolver key =>
    simp only [Traffic.step] at hs
    cases hf : registry.get? key with
    | none =>
      rw [h.resolver_of_none hf] at hs
      cases hs
      exact h
    | some f =>
      obtain ⟨l, hr, hl⟩ := resolver_eq (s := t.session) (h.registered ▸ hf)
      rw [hr] at hs
      cases hs
      exact h.made (later_resolver hr).1 hl
  | startLookup query =>
    rcases t.session.startLookup_cases query (fun key hk => h.registered ▸ h.field key hk) with
      ⟨-, e, heq⟩ | ⟨key, f, l, hkey, hf, heq, hl⟩
    · simp only [Traffic.step, heq, Option.some.injEq] at hs
      exact hs ▸ h
    · have hlater := later_startLookup t.session query
      simp only [Traffic.step, heq, Option.some.injEq] at hs
      rw [heq] at hlater
      rw [← hs]
      exact h.begin hkey (h.registered ▸ hf) hl hlater
  | finishLookup task =>
    simp only [Traffic.step] at hs
    split at hs
    · next k ticket hlook =>
      cases hs
      exact h.finish hlook
    · cases hs

theorem sound_of_run {listeners : List LooseText} {es : List Event}
    (hrun : (Traffic.fresh registry listeners).run answer es = some t) : Sound registry t :=
  Traffic.run_induction (fun h hs => h.step hs) (sound_fresh registry listeners) hrun

end Sound

/-! ### The main result -/

/-- **No options leak from one chip into another.**  In every run, once an operator is chosen for a field whose
values are picked, the menu shows the options of the lookup that came back last among those begun for the field
since the operator was chosen and not overtaken by a newer one; without any, it shows all options that the field
has without a lookup.  A lookup begun before, or for another field, changes nothing in the menu when it comes
back, and no lookup changes the resolver of another field. -/
theorem suggestions_of_lookups (registry : Registry) (listeners : List LooseText)
    (answer : Nat → LookupOutcome) (es : List Event) (t : Traffic)
    (hrun : (Traffic.fresh registry listeners).run answer es = some t) :
    (∀ key f, t.session.stage = .operatorChosen → t.session.field = some key →
      registry.get? key = some f → f.type.hasChoices = true →
      ∃ since options, Since key t.log since ∧ Leaves (Shows key) f.unfiltered since options ∧
        (∀ text, (t.session.suggestions text).answer = .ok options) ∧
        ∀ task t', .request task key ∉ since → t.step answer (.finishLookup task) = some t' →
          ∀ text, (t'.session.suggestions text).answer = .ok options) ∧
    (∀ task k ticket t', t.lookups[task]? = some (some (k, ticket)) →
      t.step answer (.finishLookup task) = some t' →
      ∀ key, key ≠ k → t'.session.resolvers.lookup key = t.session.resolvers.lookup key) := by
  have h := sound_of_run hrun
  constructor
  · intro key f hs hk hf hc
    obtain ⟨since, r, hsince, hr, hleaves, hticket⟩ := h.shown hs key f hk hf hc
    have hf' : t.session.registry.get? key = some f := h.registered ▸ hf
    refine ⟨since, r.options, hsince, hleaves, fun text => by rw [suggestions_eq hs hk hf' hc hr], ?_⟩
    intro task t' hold hstep text
    simp only [Traffic.step] at hstep
    split at hstep
    · next k ticket hlook =>
      cases hstep
      obtain ⟨r', hr', -⟩ := h.ticket task k ticket hlook
      -- the resolver of the chosen field is untouched
      have hsame : (t.session.finishLookup k ticket
          (t.session.outcome (answer task) k ticket.query)).session.resolvers.lookup key = some r := by
        rw [lookup_finishLookup hr']
        split_ifs with hkey
        · subst hkey
          obtain rfl : r' = r := Option.some.inj (hr'.symm.trans hr)
          have hne : ticket.generation ≠ r'.generation := fun hg =>
            hold ((hticket task ticket hlook).mp hg).mem
          rw [Resolver.finish_of_ne hne]
        · exact hr
      rw [finishLookup_eq hr'] at hsame ⊢
      exact congrArg Reply.answer
        (suggestions_eq (s := t.session.withResolver k (r'.finish ticket _).resolver) hs hk hf' hc hsame)
    · cases hstep
  · intro task k ticket t' hlook hstep key hne
    simp only [Traffic.step, hlook, Option.some.injEq] at hstep
    obtain ⟨r, hr, -⟩ := h.ticket task k ticket hlook
    rw [← hstep, lookup_finishLookup hr, if_neg hne]

/-- A lookup for a chip that is given up while it is under way, and then the next chip for the same field. -/
def abandoned : Option Traffic :=
  (Traffic.fresh ⟨[⟨"project", "Project", .relation, .lookup fun _ => .nothing⟩], by simp⟩ []).run
    (fun _ => .listed [.text "Design"])
    [.chooseField "project", .chooseOperator "=", .startLookup "des", .cancel,
      .chooseField "project", .chooseOperator "="]

theorem suggestions_of_lookups_abandoned :
    ∃ t, abandoned = some t ∧ t.session.stage = .operatorChosen ∧ t.session.field = some "project" ∧
      ∃ since options, Since "project" t.log since ∧ Leaves (Shows "project") [] since options ∧
        (∀ text, (t.session.suggestions text).answer = .ok options) ∧
        ∀ task t', .request task "project" ∉ since →
          t.step (fun _ => .listed [.text "Design"]) (.finishLookup task) = some t' →
          ∀ text, (t'.session.suggestions text).answer = .ok options := by
  obtain ⟨t, ht⟩ : ∃ t, abandoned = some t := ⟨_, rfl⟩
  have hs : abandoned.map (·.session.stage) = some .operatorChosen := rfl
  have hk : abandoned.map (·.session.field) =
      some (some (LooseText.ofString "project")) := rfl
  rw [ht] at hs hk
  have hstage := Option.some.inj hs
  have hfield := Option.some.inj hk
  exact ⟨t, ht, hstage, hfield,
    (suggestions_of_lookups _ _ _ _ t ht).1 "project" _ hstage hfield rfl rfl⟩

end FieldFilter.Session
