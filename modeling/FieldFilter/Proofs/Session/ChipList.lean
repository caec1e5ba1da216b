import FieldFilter.Proofs.Filter.Passing
import FieldFilter.Proofs.Session.Publication

/-!
# FieldFilter.Proofs.Session.ChipList — a session as a list of chips

From outside a run is a list of events with their answers and the calls of listeners (`Traffic.seen`).  Beside
it one can keep a plain list: a chip that an event answers goes to its end, a removal drops a position, and
clearing empties it (`keep`).  The chips of the session are that list after every event, and the listeners are
told of exactly these changes, each with the filter after it (`chips_eq_kept`).
-/

namespace FieldFilter.Session

/-- An event of a run as it is seen from outside: what it answers, and the listeners called. -/
structure Seen where
  event : Event
  answer : Except Fault (Option Condition)
  published : List (LooseText × Node)

/-- What is seen of some events, one after the other, with what listeners do at each of them. -/
def Traffic.seen (answer : Nat → LookupOutcome) : Traffic → List (Event × List Listening) → List Seen
  | _, [] => []
  | t, (e, reactions) :: es =>
    match t.reply answer e reactions, t.step answer e reactions with
    | some r, some t' => ⟨e, r.answer, r.published⟩ :: seen answer t' es
    | _, _ => []

/-- The plain list after one more event: only what goes through changes it. -/
def keep (chips : List Condition) (x : Seen) : List Condition :=
  match x.event, x.answer with
  | .commit _, .ok (some c) | .add .., .ok (some c) => chips ++ [c]
  | .removeChip index, .ok _ => chips.eraseIdx index.toNat
  | .clear, .ok _ => []
  | _, _ => chips

/-- The plain list after some events. -/
def kept (xs : List Seen) : List Condition := xs.foldl keep []

/-- The event has changed the chips. -/
def Seen.changes (x : Seen) : Bool := x.event.editsChips && x.answer.isOk

/-- The filters that a listener was called with, in order. -/
def received (name : LooseText) (xs : List Seen) : List Node :=
  xs.flatMap fun x => (x.published.filter fun call => call.1 = name).map Prod.snd

/-! ### One event -/

variable {s : Session} {e : Event} {r : Reply (Option Condition)} {answer : Nat → LookupOutcome}
  {t t' : Traffic} {es : List (Event × List Listening)} {reactions : List Listening}

theorem position?_eq_some {index : Int} {size i : Nat} :
    Node.position? index size = some i ↔ (0 ≤ index ∧ index < size) ∧ index.toNat = i := by
  unfold Node.position?
  split <;> simp [*]

theorem removeChip_eq_ok {index : Int} :
    (s.removeChip index).answer = .ok () ↔ 0 ≤ index ∧ index < s.chips.length := by
  unfold removeChip
  cases hi : Node.position? index s.chips.length with
  | none =>
    refine iff_of_false (by simp) fun h => ?_
    rw [position?_eq_some.mpr ⟨h, rfl⟩] at hi
    cases hi
  | some i => exact iff_of_true rfl (position?_eq_some.mp hi).1

theorem keep_of_refused {chips : List Condition} {a : Except Fault (Option Condition)}
    {calls : List (LooseText × Node)} (h : e.editsChips = true → ∃ fault, a = .error fault) :
    keep chips ⟨e, a, calls⟩ = chips := by
  cases e with
  | commit | add | removeChip | clear =>
    obtain ⟨fault, rfl⟩ := h rfl
    rfl
  | _ => rfl

theorem not_changes_of_refused {a : Except Fault (Option Condition)} {calls : List (LooseText × Node)}
    (h : e.editsChips = true → ∃ fault, a = .error fault) : (Seen.mk e a calls).changes = false := by
  cases hedit : e.editsChips with
  | false => simp [Seen.changes, hedit]
  | true =>
    obtain ⟨fault, rfl⟩ := h hedit
    simp [Seen.changes, Except.isOk, Except.toBool]

/-- The chips after an event are those of the plain list. -/
theorem Effect.chips_eq (h : Effect s e r) : r.session.chips = keep s.chips ⟨e, r.answer, r.published⟩ := by
  cases h with
  | still a l hrefused _ => exact (keep_of_refused hrefused).symm
  | givenUp a l hrefused _ => exact (keep_of_refused hrefused).symm
  | put l he _ => rcases he with ⟨value, rfl⟩ | ⟨field, operator, value, rfl⟩ <;> rfl
  | removed hi =>
    obtain ⟨-, rfl⟩ := position?_eq_some.mp hi
    rfl
  | fieldChosen | operatorChosen | cleared | subscribed => rfl

theorem Effect.listeners_eq (h : Effect s e r) :
    r.session.listeners = s.listeners ++ e.newListeners := by
  cases h with
  | still a l _ hnone => simp [hnone]
  | givenUp a l _ hnone => simp [hnone, atRest]
  | put l he _ =>
    rcases he with ⟨value, rfl⟩ | ⟨field, operator, value, rfl⟩ <;> simp [atRest, Event.newListeners]
  | fieldChosen | operatorChosen | removed | cleared | subscribed =>
    simp [atRest, subscribe, Event.newListeners]

/-- Every listener is called once for a change of the chips, with the filter after it, and not otherwise. -/
theorem Effect.published_eq (h : Effect s e r) : r.published =
    if (Seen.mk e r.answer r.published).changes then s.listeners.map fun name => (name, r.session.filter)
    else [] := by
  cases h with
  | still a l hrefused _ => rw [not_changes_of_refused hrefused]; rfl
  | givenUp a l hrefused _ => rw [not_changes_of_refused hrefused]; rfl
  | put l he _ => rcases he with ⟨value, rfl⟩ | ⟨field, operator, value, rfl⟩ <;> rfl
  | fieldChosen | operatorChosen | removed | cleared | subscribed => rfl

/-! ### A whole run -/

theorem kept_concat (xs : List Seen) (x : Seen) : kept (xs ++ [x]) = keep (kept xs) x := by
  simp [kept, List.foldl_append]

theorem received_concat (name : LooseText) (xs : List Seen) (x : Seen) :
    received name (xs ++ [x]) =
      received name xs ++ (x.published.filter fun call => call.1 = name).map Prod.snd := by
  simp [received]

theorem Traffic.perform_concat {t : Traffic} : t.perform answer (es ++ [(e, reactions)]) = some t' ↔
    ∃ mid, t.perform answer es = some mid ∧ mid.step answer e reactions = some t' := by
  simp only [perform, List.foldlM_append, List.foldlM_cons, List.foldlM_nil, bind_pure]
  exact Option.bind_eq_some_iff

theorem Traffic.seen_concat {t mid : Traffic} (hrun : t.perform answer es = some mid)
    (hr : mid.reply answer e reactions = some r) (hs : mid.step answer e reactions = some t') :
    t.seen answer (es ++ [(e, reactions)]) = t.seen answer es ++ [⟨e, r.answer, r.published⟩] := by
  induction es generalizing t with
  | nil =>
    cases hrun
    simp [seen, hr, hs]
  | cons x es ih =>
    obtain ⟨next, hstep, hrest⟩ := Option.bind_eq_some_iff.mp hrun
    obtain ⟨r', hr', -⟩ := reply_of_step hstep
    simp [seen, hr', hstep, ih hrest]

/-- What holds of a run and what is seen of it. -/
structure Accounted (listeners : List LooseText) (es : List (Event × List Listening)) (xs : List Seen)
    (s : Session) : Prop where
  chips : s.chips = kept xs
  listeners : s.listeners = listeners ++ es.flatMap fun x => x.1.newListeners
  /-- A listener that was called at all is still one, and knows the filter. -/
  heard : ∀ name n, (received name xs).getLast? = some n → name ∈ s.listeners ∧ n = s.filter

/-- A session without a change of its chips has the same filter. -/
theorem Effect.filter_eq (h : Effect s e r)
    (hsame : (Seen.mk e r.answer r.published).changes = false) : r.session.filter = s.filter := by
  have hchips := h.chips_eq
  suffices keep s.chips ⟨e, r.answer, r.published⟩ = s.chips by
    rw [this] at hchips
    rw [filter, hchips, ← filter]
  cases h with
  | put l he _ => rcases he with ⟨value, rfl⟩ | ⟨field, operator, value, rfl⟩ <;> cases hsame
  | removed | cleared => cases hsame
  | still a l hrefused _ => exact keep_of_refused hrefused
  | givenUp a l hrefused _ => exact keep_of_refused hrefused
  | fieldChosen | operatorChosen | subscribed => rfl

/-- What a listener hears of one change of the chips is the filter after it, if it hears anything. -/
theorem getLast?_calls {listeners : List LooseText} {name : LooseText} {n : Node} :
    (((listeners.map fun name => (name, n)).filter fun call => call.1 = name).map Prod.snd).getLast? =
      if name ∈ listeners then some n else none := by
  have hcalls : ((listeners.map fun name => (name, n)).filter fun call => call.1 = name).map Prod.snd =
      List.replicate (listeners.count name) n := by
    induction listeners with
    | nil => rfl
    | cons who rest ih =>
      by_cases hwho : who = name
      · simp [hwho, ih, List.replicate_succ]
      · simp [hwho, ih]
  rw [hcalls, List.getLast?_replicate]
  simp [List.count_eq_zero]

theorem Accounted.effect {listeners : List LooseText} {xs : List Seen} (h : Accounted listeners es xs s)
    (he : Effect s e r) :
    Accounted listeners (es ++ [(e, reactions)]) (xs ++ [⟨e, r.answer, r.published⟩]) r.session where
  chips := by rw [kept_concat, ← h.chips, he.chips_eq]
  listeners := by simp [he.listeners_eq, h.listeners]
  heard name n hn := by
    rw [received_concat, List.getLast?_append, he.published_eq] at hn
    cases hchange : (Seen.mk e r.answer r.published).changes with
    | true =>
      rw [if_pos hchange, getLast?_calls] at hn
      by_cases hname : name ∈ s.listeners
      · rw [if_pos hname] at hn
        exact ⟨by simp [he.listeners_eq, hname], (Option.some.inj hn).symm⟩
      · simp only [if_neg hname, Option.none_or] at hn
        exact absurd (h.heard name n hn).1 hname
    | false =>
      simp only [hchange, Bool.false_eq_true, if_false, List.filter_nil, List.map_nil, List.getLast?_nil,
        Option.none_or] at hn
      obtain ⟨hname, rfl⟩ := h.heard name n hn
      exact ⟨by simp [he.listeners_eq, hname], (he.filter_eq hchange).symm⟩

/-- Listeners that come back change nothing about what is seen of an event. -/
theorem Traffic.effect_of_quiet (hq : ∀ reaction ∈ reactions, reaction.Quiet)
    (h : t.reply answer e reactions = some r) : Effect t.session e r := by
  obtain ⟨r₀, hr₀, hinterrupted⟩ := reply_inert (fun reaction hreaction => (hq reaction hreaction).inert) h
  rw [hinterrupted.quiet fun reaction hreaction => (hq reaction hreaction).comesBack]
  exact effect hr₀

theorem accounted_of_perform {registry : Registry} {listeners : List LooseText}
    (hquiet : ∀ x ∈ es, ∀ reaction ∈ x.2, reaction.Quiet)
    (hrun : (Traffic.fresh registry listeners).perform answer es = some t) :
    Accounted listeners es ((Traffic.fresh registry listeners).seen answer es) t.session := by
  induction es using List.reverseRecOn generalizing t with
  | nil =>
    cases hrun
    exact ⟨rfl, by simp [Traffic.fresh], fun name n hn => by cases hn⟩
  | append_singleton es x ih =>
    obtain ⟨mid, hmid, hs⟩ := Traffic.perform_concat.mp hrun
    obtain ⟨r, hr, hsession⟩ := Traffic.reply_of_step hs
    rw [Traffic.seen_concat hmid hr hs, hsession]
    have hold := ih (fun y hy => hquiet y (List.mem_append_left _ hy)) hmid
    exact hold.effect (Traffic.effect_of_quiet (hquiet x (by simp)) hr)

/-! ### The filter of the plain list -/

theorem filter_eq_everything_iff : s.filter = .everything ↔ s.chips = [] := by
  unfold filter Node.ofChips Node.allOf
  cases s.chips <;> simp

theorem filter_of_ne_nil (h : s.chips ≠ []) :
    s.filter = .group Combinator.and.word (s.chips.map .condition) := by
  unfold filter Node.ofChips Node.allOf
  cases hchips : s.chips with
  | nil => exact absurd hchips h
  | cons c cs => rfl

theorem filter_holds {record : Record} (h : record.InRange) :
    s.filter.holds record = .ok (∀ c ∈ s.chips, c.Passes record : Bool) := by
  have hall : (decide (∀ c ∈ s.chips, c.Passes record)) = s.chips.all fun c => c.Passes record := by
    rw [Bool.eq_iff_iff]
    simp
  rw [hall]
  by_cases hchips : s.chips = []
  · rw [filter_eq_everything_iff.mpr hchips, hchips]
    rfl
  · rw [filter_of_ne_nil hchips, ← h.allHold]
    rfl

/-- Two chips and a third under way, a listener that comes late, a chip that is refused, and a removal. -/
def revised : List (Event × List Listening) := [
  (.add "years" ">" " 30 ", [{}]), (.add "Name" "contains" "a", []), (.subscribe "late", []),
  (.chooseField "age", []), (.removeChip 2, []), (.add "age" "contains" "7", []), (.removeChip 0, [{}, {}]),
  (.commit "x", [])]

theorem revised_quiet : ∀ x ∈ revised, ∀ reaction ∈ x.2, reaction.Quiet := by
  have hdefault : ∀ x ∈ revised, ∀ reaction ∈ x.2, reaction = {} := by simp [revised]
  intro x hx reaction hreaction
  rw [hdefault x hx reaction hreaction]
  exact Reaction.quiet_default

def people : Traffic := .fresh .persons ["main"]

end FieldFilter.Session
