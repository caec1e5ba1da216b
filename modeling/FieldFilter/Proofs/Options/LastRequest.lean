import Mathlib.Data.List.Induction
import FieldFilter.Proofs.History
import FieldFilter.Proofs.Options.Found

/-!
# FieldFilter.Proofs.Options.LastRequest — lookups may end in any order

`Traffic` is a resolver with the lookups that are under way, and `Traffic.run` lets any events happen to it:
requests begin, lookups come back, options are primed and forgotten.  What a run shows is settled by its
events alone, without the numbers that the resolver gives out:

* `Newest es task query`: the last request among `es` was the lookup numbered `task`.
* `Sets f answer es e pair`: after the events `es`, the event `e` is effective and sets the options and
  the query to `pair`.
* `Sound`: the invariant of a run.  A lookup under way carries the resolver's number exactly as long as it is
  the newest request.
-/

namespace FieldFilter.Resolver

/-- What can happen to a resolver. -/
inductive Event where
  | start (query : LooseText)
  /-- The lookup with this number, counted from 0 in the order of the starts, comes back. -/
  | finish (task : Nat)
  | prime (query : LooseText)
  | reset
  deriving DecidableEq

namespace Event

/-- Something is asked of the resolver; a lookup that comes back asks for nothing. -/
def isRequest : Event → Bool
  | finish _ => false
  | _ => true

/-- The query of a lookup that is begun. -/
def started? : Event → Option LooseText
  | start query => some query
  | _ => none

end Event

/-- The queries of the lookups begun, in their order. -/
def started (es : List Event) : List LooseText := es.filterMap Event.started?

/-- The requests among some events. -/
def requests (es : List Event) : List Event := es.filter Event.isRequest

/-- The last request among the events is the start of the lookup with this number and query. -/
def Newest (es : List Event) (task : Nat) (query : LooseText) : Prop :=
  ∃ us vs, es = us ++ .start query :: vs ∧ (started us).length = task ∧ requests vs = []

/-- After the events `es` this event is effective, and it sets the options and the query. -/
inductive Sets (f : Field) (answer : Nat → LookupOutcome) (es : List Event) :
    Event → List LooseText × Option LooseText → Prop
  | prime (query : LooseText) :
    Sets f answer es (.prime query)
      ((f.staticOptions? query).getD [], (f.staticOptions? query).map fun _ => query)
  | reset : Sets f answer es .reset ([], none)
  | finish {task : Nat} {query : LooseText} {options : List LooseText} : Newest es task query →
    f.found (answer task) query = some options → Sets f answer es (.finish task) (options, some query)

/-- A resolver and the lookups begun, by number; those that have come back are blank. -/
structure Traffic where
  resolver : Resolver
  lookups : List (Option Ticket) := []

namespace Traffic

/-- A resolver of which nothing has been asked. -/
def fresh (f : Field) (announces : Bool) : Traffic := { resolver := { field := f, announces } }

/-- One event, where `answer task` is what the lookup with that number comes back with.  No lookup comes back
before it is begun, or twice.  One who is told of the options meanwhile reacts as given. -/
def step (answer : Nat → LookupOutcome) (t : Traffic) (e : Event)
    (reaction : Reaction Resolver (List LooseText) := {}) : Option (Traffic × Resolution) :=
  match e with
  | .start query =>
    let (ticket, r) := t.resolver.start query
    some (⟨r, t.lookups ++ [some ticket]⟩, { resolver := r })
  | .finish task =>
    match t.lookups[task]? with
    | some (some ticket) =>
      let res := t.resolver.finish ticket (t.resolver.field.outcome (answer task) ticket.query) reaction
      some (⟨res.resolver, t.lookups.set task none⟩, res)
    | _ => none
  | .prime query =>
    let res := t.resolver.prime query reaction
    some (⟨res.resolver, t.lookups⟩, res)
  | .reset => some (⟨t.resolver.reset, t.lookups⟩, { resolver := t.resolver.reset })

/-- What a lookup under way does when it comes back. -/
theorem step_finish_iff {answer : Nat → LookupOutcome} {t t' : Traffic} {task : Nat} {res : Resolution}
    {reaction : Reaction Resolver (List LooseText)} :
    t.step answer (.finish task) reaction = some (t', res) ↔
      ∃ ticket, t.lookups[task]? = some (some ticket) ∧
        res = t.resolver.finish ticket (t.resolver.field.outcome (answer task) ticket.query) reaction ∧
        t' = ⟨res.resolver, t.lookups.set task none⟩ := by
  simp only [step]
  split
  · next ticket hlook =>
    simp only [Option.some.injEq, Prod.mk.injEq, hlook, exists_eq_left']
    constructor
    · rintro ⟨rfl, rfl⟩
      exact ⟨rfl, rfl⟩
    · rintro ⟨rfl, rfl⟩
      exact ⟨rfl, rfl⟩
  · next hnone =>
    refine iff_of_false (by simp) ?_
    rintro ⟨ticket, hlook, -⟩
    exact hnone ticket hlook

/-- One who leaves the resolver alone changes nothing about where an event leads, even by raising something. -/
theorem step_inert {answer : Nat → LookupOutcome} {t : Traffic} {e : Event}
    {reaction : Reaction Resolver (List LooseText)} (h : reaction.Inert) :
    (t.step answer e reaction).map Prod.fst = (t.step answer e).map Prod.fst := by
  cases e with
  | start query => rfl
  | reset => rfl
  | prime query => simp [step, prime_inert h, announce_inert h, prime_resolver]
  | finish task =>
    simp only [step]
    split
    · simp [finish_resolver h, finish_resolver Reaction.quiet_default.inert]
    · rfl

/-- The events happen one after the other. -/
def run (answer : Nat → LookupOutcome) (t : Traffic) (es : List Event) : Option Traffic :=
  es.foldlM (fun t e => (t.step answer e).map Prod.fst) t

theorem run_concat {answer : Nat → LookupOutcome} {t t' : Traffic} {es : List Event} {e : Event} :
    t.run answer (es ++ [e]) = some t' ↔
      ∃ mid res, t.run answer es = some mid ∧ mid.step answer e = some (t', res) := by
  simp only [run, List.foldlM_append, List.foldlM_cons, List.foldlM_nil, Option.bind_eq_bind,
    Option.bind_eq_some_iff, Option.map_eq_some_iff, Option.pure_def, Option.some.injEq]
  constructor
  · rintro ⟨mid, h1, t1, ⟨⟨t2, res⟩, h2, rfl⟩, rfl⟩
    exact ⟨mid, res, h1, h2⟩
  · rintro ⟨mid, res, h1, h2⟩
    exact ⟨mid, h1, t', ⟨(t', res), h2, rfl⟩, rfl⟩

end Traffic

/-! ### The newest request -/

section Newest

variable {es us vs : List Event} {e : Event} {task : Nat} {query q : LooseText}

@[simp] theorem started_append : started (us ++ vs) = started us ++ started vs :=
  List.filterMap_append

@[simp] theorem requests_append : requests (us ++ vs) = requests us ++ requests vs :=
  List.filter_append us vs

@[simp] theorem started_start : started [.start query] = [query] := rfl

@[simp] theorem started_finish : started [.finish task] = [] := rfl

@[simp] theorem requests_finish : requests [.finish task] = [] := rfl

theorem requests_of_isRequest (h : e.isRequest = true) : requests [e] = [e] :=
  List.filter_cons_of_pos h

/-- Requests hold all starts. -/
theorem started_requests (es : List Event) : started (requests es) = started es := by
  induction es with
  | nil => rfl
  | cons e es ih =>
    cases e with
    | finish task => exact ih
    | start query => exact congrArg (query :: ·) ih
    | prime query => exact ih
    | reset => exact ih

theorem newest_start : Newest (es ++ [.start query]) (started es).length query :=
  ⟨es, [], rfl, rfl, rfl⟩

/-- A start makes its own lookup the newest request. -/
theorem newest_concat_start (h : Newest (es ++ [.start q]) task query) :
    task = (started es).length ∧ query = q := by
  obtain ⟨us, vs, hcut, rfl, hvs⟩ := h
  rcases concat_eq_append_cons hcut with ⟨rfl, he⟩ | ⟨ws, rfl, rfl⟩
  · exact ⟨rfl, Event.start.inj he⟩
  · simp [requests_of_isRequest (e := .start q) rfl] at hvs

/-- After a request that is no start, no lookup is the newest. -/
theorem not_newest_concat (he : e.isRequest = true) (hs : e.started? = none) :
    ¬ Newest (es ++ [e]) task query := by
  rintro ⟨us, vs, hcut, -, hvs⟩
  rcases concat_eq_append_cons hcut with ⟨rfl, rfl⟩ | ⟨ws, rfl, rfl⟩
  · simp [Event.started?] at hs
  · simp [requests_of_isRequest he] at hvs

/-- What comes back leaves the newest request as it was. -/
theorem newest_concat_finish {n : Nat} : Newest (es ++ [.finish n]) task query ↔ Newest es task query := by
  constructor
  · rintro ⟨us, vs, hcut, hlen, hvs⟩
    rcases concat_eq_append_cons hcut with ⟨rfl, he⟩ | ⟨ws, rfl, rfl⟩
    · cases he
    · exact ⟨us, ws, rfl, hlen, by simpa using hvs⟩
  · rintro ⟨us, vs, rfl, hlen, hvs⟩
    exact ⟨us, vs ++ [.finish n], by simp, hlen, by simp [hvs]⟩

theorem Newest.started_getElem? (h : Newest es task query) : (started es)[task]? = some query := by
  obtain ⟨us, vs, rfl, rfl, -⟩ := h
  simp [started, Event.started?]

/-- The newest one ends the requests. -/
theorem newest_iff : Newest es task query ↔
    ∃ before, requests es = before ++ [.start query] ∧ (started before).length = task := by
  constructor
  · rintro ⟨us, vs, rfl, rfl, hvs⟩
    refine ⟨requests us, ?_, by rw [started_requests]⟩
    rw [requests_append, requests, requests, List.filter_cons_of_pos rfl]
    exact congrArg (requests us ++ .start query :: ·) hvs
  · rintro ⟨before, hes, rfl⟩
    obtain ⟨us, vs, rfl, rfl, hvs⟩ := List.filter_eq_append_iff.mp hes
    obtain ⟨ws, xs, rfl, hws, -, hxs⟩ := List.filter_eq_cons_iff.mp hvs
    have hnone : requests ws = [] := List.filter_eq_nil_iff.mpr hws
    refine ⟨us ++ ws, xs, by simp, ?_, hxs⟩
    rw [← started_requests (us ++ ws), requests_append, hnone, List.append_nil]
    rfl

end Newest

/-! ### The invariant of a run -/

/-- What the requests leave once every lookup has come back, the last of them unstopped: that one decides. -/
def settled (f : Field) (answer : Nat → LookupOutcome) (rs : List Event) :
    List LooseText × Option LooseText :=
  match rs.getLast? with
  | some (.start query) => ((f.found (answer ((started rs).length - 1)) query).getD [], some query)
  | some (.prime query) =>
    ((f.staticOptions? query).getD [], (f.staticOptions? query).map fun _ => query)
  | _ => ([], none)

/-- What holds of a resolver to which the events `es` have happened. -/
structure Sound (f : Field) (announces : Bool) (answer : Nat → LookupOutcome) (es : List Event)
    (t : Traffic) : Prop where
  field : t.resolver.field = f
  announces : t.resolver.announces = announces
  generation : t.resolver.generation = (requests es).length
  length : t.lookups.length = (started es).length
  ticket : ∀ (task : Nat) (ticket : Ticket), t.lookups[task]? = some (some ticket) →
    (started es)[task]? = some ticket.query ∧ ticket.generation ≤ t.resolver.generation ∧
    (ticket.generation = t.resolver.generation ↔ Newest es task ticket.query)
  leaves : Leaves (Sets f answer) ([], none) es (t.resolver.options, t.resolver.query)
  /-- With the newest request out of the way, the requests alone decide, unless it was stopped. -/
  quiet : (∀ (task : Nat) (ticket : Ticket), t.lookups[task]? = some (some ticket) →
      ticket.generation ≠ t.resolver.generation) →
    (∀ task query, Newest es task query → f.found (answer task) query ≠ none) →
    (t.resolver.options, t.resolver.query) = settled f answer (requests es)

section Sound

variable {f : Field} {announces : Bool} {answer : Nat → LookupOutcome} {es : List Event} {t : Traffic}

theorem sound_fresh : Sound f announces answer [] (.fresh f announces) where
  field := rfl
  announces := rfl
  generation := rfl
  length := rfl
  ticket task ticket h := by simp [Traffic.fresh] at h
  leaves := Leaves.nil
  quiet _ _ := rfl

theorem Sound.start (h : Sound f announces answer es t) (query : LooseText) :
    Sound f announces answer (es ++ [.start query])
      ⟨(t.resolver.start query).2, t.lookups ++ [some (t.resolver.start query).1]⟩ where
  field := h.field
  announces := h.announces
  generation := by
    rw [requests_append, requests_of_isRequest rfl, List.length_append, ← h.generation]
    rfl
  length := by simp [h.length]
  ticket task ticket hlook := by
    rcases underway_concat.mp hlook with ⟨hold, hlt⟩ | ⟨rfl, rfl⟩
    · -- an older lookup: the new number is past its own
      obtain ⟨hquery, hle, -⟩ := h.ticket task ticket hold
      have hnew : ticket.generation < t.resolver.generation + 1 := by omega
      refine ⟨?_, Nat.le_of_lt hnew, ?_⟩
      · rw [started_append, List.getElem?_append_left (h.length ▸ hlt)]
        exact hquery
      · constructor
        · intro heq
          exact absurd heq (Nat.ne_of_lt hnew)
        · intro hn
          have := (newest_concat_start hn).1
          have := h.length
          omega
    · refine ⟨?_, Nat.le_refl _, ?_⟩
      · rw [started_append, h.length]
        simp [Resolver.start]
      · exact iff_of_true rfl (h.length ▸ newest_start)
  leaves := h.leaves.keep fun w hs => by cases hs
  quiet hq _ := absurd rfl
    (hq t.lookups.length (t.resolver.start query).1 List.getElem?_concat_length)

/-- A request that is no lookup makes all lookups old. -/
theorem Sound.request (h : Sound f announces answer es t) {e : Event} {r : Resolver}
    (he : e.isRequest = true) (hs : e.started? = none) (hfield : r.field = t.resolver.field)
    (hannounces : r.announces = t.resolver.announces)
    (hgeneration : r.generation = t.resolver.generation + 1)
    (hsets : Sets f answer es e (r.options, r.query))
    (hsettled : (r.options, r.query) = settled f answer (requests es ++ [e])) :
    Sound f announces answer (es ++ [e]) ⟨r, t.lookups⟩ where
  field := hfield.trans h.field
  announces := hannounces.trans h.announces
  generation := by simp [requests_of_isRequest he, hgeneration, h.generation]
  length := by simp [h.length, started, hs]
  ticket task ticket hlook := by
    obtain ⟨hquery, hle, -⟩ := h.ticket task ticket hlook
    have hlt : ticket.generation < r.generation := by omega
    refine ⟨?_, Nat.le_of_lt hlt, ?_⟩
    · rw [started_append]
      exact List.getElem?_append_left (List.getElem?_eq_some_iff.mp hquery).1 ▸ hquery
    · exact iff_of_false (Nat.ne_of_lt hlt) (not_newest_concat he hs)
  leaves := .set hsets
  quiet _ _ := by rw [requests_append, requests_of_isRequest he, hsettled]

/-- A lookup under way is effective just if it has the number of the newest request and is not stopped. -/
theorem Sound.sets_finish_iff (h : Sound f announces answer es t) {task : Nat} {ticket : Ticket}
    (hlook : t.lookups[task]? = some (some ticket)) {w : List LooseText × Option LooseText} :
    Sets f answer es (.finish task) w ↔ ticket.generation = t.resolver.generation ∧
      ∃ options, f.found (answer task) ticket.query = some options ∧ w = (options, some ticket.query) := by
  obtain ⟨hquery, -, hnewest⟩ := h.ticket task ticket hlook
  constructor
  · intro hs
    cases hs with
    | finish hn hfound =>
      have hq := Option.some.inj (hn.started_getElem?.symm.trans hquery)
      rw [hq] at hn hfound ⊢
      exact ⟨hnewest.mpr hn, _, hfound, rfl⟩
  · rintro ⟨hg, options, hfound, rfl⟩
    exact .finish (hnewest.mp hg) hfound

theorem Sound.finish (h : Sound f announces answer es t) {task : Nat} {ticket : Ticket}
    (hlook : t.lookups[task]? = some (some ticket)) :
    Sound f announces answer (es ++ [.finish task])
      ⟨(t.resolver.finish ticket (t.resolver.field.outcome (answer task) ticket.query)).resolver,
        t.lookups.set task none⟩ := by
  obtain ⟨hquery, -, hnewest⟩ := h.ticket task ticket hlook
  have hopen {w : List LooseText × Option LooseText} := h.sets_finish_iff hlook (w := w)
  refine
    { field := by simp [h.field]
      announces := by simp [h.announces]
      generation := by simp [h.generation]
      length := by simp [h.length]
      ticket := ?_, leaves := ?_, quiet := ?_ }
  · intro n u hn
    obtain ⟨h1, h2, h3⟩ := h.ticket n u (underway_set.mp hn).2
    refine ⟨?_, by simpa using h2, ?_⟩
    · simpa using h1
    · rw [finish_generation, newest_concat_finish]
      exact h3
  · rw [finish_resolver Reaction.quiet_default.inert, h.field, Field.options?_outcome]
    by_cases hg : ticket.generation = t.resolver.generation
    · rw [if_pos hg]
      cases hfound : f.found (answer task) ticket.query with
      | none => exact h.leaves.keep fun w hs => hopen.mp hs |>.2.elim fun _ hw => by simp [hfound] at hw
      | some options => exact .set (.finish (hnewest.mp hg) hfound)
    · rw [if_neg hg]
      exact h.leaves.keep fun w hs => hg (hopen.mp hs).1
  · intro hquiet hfound
    rw [requests_append, requests_finish, List.append_nil]
    simp only [newest_concat_finish] at hfound
    rw [finish_resolver Reaction.quiet_default.inert, h.field, Field.options?_outcome]
    by_cases hg : ticket.generation = t.resolver.generation
    · obtain ⟨before, hreq, hlen⟩ := newest_iff.mp (hnewest.mp hg)
      obtain ⟨options, ho⟩ := Option.ne_none_iff_exists'.mp (hfound _ _ (hnewest.mp hg))
      rw [if_pos hg, hreq, ho]
      simp [settled, hlen, ho]
    · rw [if_neg hg]
      refine h.quiet (fun n u hn => ?_) hfound
      by_cases hnt : n = task
      · subst hnt
        rw [hlook] at hn
        cases hn
        exact hg
      · simpa using hquiet n u (underway_set.mpr ⟨hnt, hn⟩)

/-- Every event keeps the invariant. -/
theorem Sound.step (h : Sound f announces answer es t) {e : Event} {t' : Traffic} {res : Resolution}
    (hs : t.step answer e = some (t', res)) : Sound f announces answer (es ++ [e]) t' := by
  cases e with
  | start query =>
    cases hs
    exact h.start query
  | finish task =>
    obtain ⟨ticket, hlook, rfl, rfl⟩ := Traffic.step_finish_iff.mp hs
    exact h.finish hlook
  | prime query =>
    simp only [Traffic.step, prime_resolver, Option.some.injEq, Prod.mk.injEq] at hs
    rw [← hs.1]
    refine h.request rfl rfl rfl rfl rfl ?_ ?_
    · rw [← h.field]
      exact .prime query
    · simp [settled, ← h.field]
  | reset =>
    cases hs
    exact h.request rfl rfl rfl rfl rfl .reset (by simp [settled, reset])

theorem sound_of_run (hrun : (Traffic.fresh f announces).run answer es = some t) :
    Sound f announces answer es t := by
  induction es using List.reverseRecOn generalizing t with
  | nil =>
    cases hrun
    exact sound_fresh
  | append_singleton es e ih =>
    obtain ⟨mid, res, hmid, hs⟩ := Traffic.run_concat.mp hrun
    exact (ih hmid).step hs

end Sound

/-! ### The main result -/

/-- A list is announced once, if lists are announced, and is the answer unless something is raised thereupon. -/
structure Announces (announces : Bool) (reaction : Reaction Resolver (List LooseText)) (res : Resolution)
    (options : List LooseText) : Prop where
  announced : res.announced = if announces then [options] else []
  answer : res.answer = if announces then reaction.answer (some options) else .ok (some options)

theorem announces_announce {r : Resolver} {reaction : Reaction Resolver (List LooseText)} {announces : Bool}
    {options : List LooseText} {warnings : List Warning} (h : reaction.Inert) (ha : r.announces = announces)
    (ho : r.options = options) : Announces announces reaction (r.announce reaction warnings) options := by
  rw [announce_inert h, ha, ho]
  exact ⟨rfl, rfl⟩

/-- What it leads to when the lookup with this number, begun for this query, comes back to a resolver. -/
structure ComesBack (f : Field) (announces : Bool) (answer : Nat → LookupOutcome) (es : List Event) (task : Nat)
    (query : LooseText) (reaction : Reaction Resolver (List LooseText)) (r : Resolver) (res : Resolution) :
    Prop where
  applied : ∀ w, Sets f answer es (.finish task) w → Announces announces reaction res w.1
  ineffective : (∀ w, ¬ Sets f answer es (.finish task) w) → res.resolver = r ∧ res.announced = []
  dropped : (∀ w, ¬ Sets f answer es (.finish task) w) → f.found (answer task) query ≠ none →
    res.answer = .ok none
  stopped : f.found (answer task) query = none →
    ∃ name, answer task = .raised (.stop name) ∧ res.answer = .error (.stop name)

section Wins

variable {f : Field} {announces : Bool} {answer : Nat → LookupOutcome} {es : List Event} {t : Traffic}

theorem Sound.comesBack (h : Sound f announces answer es t) {task : Nat} {ticket : Ticket}
    {reaction : Reaction Resolver (List LooseText)} (hlook : t.lookups[task]? = some (some ticket))
    (hreaction : reaction.Inert) :
    ComesBack f announces answer es task ticket.query reaction t.resolver
      (t.resolver.finish ticket (t.resolver.field.outcome (answer task) ticket.query) reaction) := by
  have hopen {w : List LooseText × Option LooseText} := h.sets_finish_iff hlook (w := w)
  have hfound : (t.resolver.field.outcome (answer task) ticket.query).options? =
      f.found (answer task) ticket.query := by rw [h.field, Field.options?_outcome]
  rcases finish_cases t.resolver ticket (t.resolver.field.outcome (answer task) ticket.query) reaction with
    ⟨name, ho, heq⟩ | ⟨options, warnings, ho, hcases⟩
  · rw [ho] at hfound
    obtain ⟨hnone, name', hname'⟩ := Field.found_eq_none.mp hfound.symm
    rw [heq]
    refine ⟨fun w hw => ?_, fun _ => ⟨rfl, rfl⟩, fun _ hsome => absurd hfound.symm hsome, fun _ => ?_⟩
    · obtain ⟨-, options, hoptions, -⟩ := hopen.mp hw
      cases hfound.trans hoptions
    · -- the field needs a lookup, so its outcome is the lookup's
      rw [h.field, Field.outcome_eq hnone] at ho
      exact ⟨name, ho, rfl⟩
  · rw [hfound] at ho
    rcases hcases with ⟨hg, heq⟩ | ⟨hg, heq⟩ <;> rw [heq]
    · have hsets := hopen.mpr ⟨hg, options, ho, rfl⟩
      refine ⟨fun w hw => ?_, fun hnone => absurd hsets (hnone _), fun hnone => absurd hsets (hnone _),
        fun hnone => nomatch ho.symm.trans hnone⟩
      obtain ⟨-, options', hoptions', rfl⟩ := hopen.mp hw
      obtain rfl := Option.some.inj (ho.symm.trans hoptions')
      exact announces_announce hreaction h.announces rfl
    · exact ⟨fun w hw => absurd (hopen.mp hw).1 hg, fun _ => ⟨rfl, rfl⟩, fun _ _ => rfl,
        fun hnone => nomatch ho.symm.trans hnone⟩

theorem Sound.prime_announces (h : Sound f announces answer es t) {query : LooseText}
    {w : List LooseText × Option LooseText} (hw : Sets f answer es (.prime query) w)
    {reaction : Reaction Resolver (List LooseText)} (hreaction : reaction.Inert) :
    Announces announces reaction (t.resolver.prime query reaction) w.1 := by
  cases hw
  rw [prime_inert hreaction, h.field]
  exact announces_announce hreaction h.announces rfl

/-- Where the same was requested and all lookups are back, the resolver is the same. -/
theorem Sound.resolver_eq {es' : List Event} {t' : Traffic} (h : Sound f announces answer es t)
    (h' : Sound f announces answer es' t') (hreq : requests es' = requests es)
    (hback : ∀ u ∈ t.lookups, u = none) (hback' : ∀ u ∈ t'.lookups, u = none)
    (hfound : ∀ task query, Newest es task query → f.found (answer task) query ≠ none) :
    t'.resolver = t.resolver := by
  have hnone : ∀ {u : Traffic}, (∀ x ∈ u.lookups, x = none) → ∀ (task : Nat) (ticket : Ticket),
      u.lookups[task]? = some (some ticket) → ticket.generation ≠ u.resolver.generation :=
    fun hu task ticket hlook => nomatch hu _ (List.mem_of_getElem? hlook)
  have hfound' : ∀ task query, Newest es' task query → f.found (answer task) query ≠ none :=
    fun task query hn => hfound task query (newest_iff.mpr (hreq ▸ newest_iff.mp hn))
  have hpair := (h'.quiet (hnone hback') hfound').trans (hreq ▸ (h.quiet (hnone hback) hfound).symm)
  obtain ⟨hoptions, hquery⟩ := Prod.mk.inj hpair
  have hgeneration := h'.generation.trans (hreq ▸ h.generation.symm)
  have hfield := h'.field.trans h.field.symm
  have hannounces := h'.announces.trans h.announces.symm
  obtain ⟨⟨f₁, a₁, o₁, q₁, g₁⟩, l₁⟩ := t
  obtain ⟨⟨f₂, a₂, o₂, q₂, g₂⟩, l₂⟩ := t'
  simp only at hoptions hquery hgeneration hfield hannounces
  subst hoptions hquery hgeneration hfield hannounces
  rfl

end Wins
end FieldFilter.Resolver
