import FieldFilter.Proofs.Options.Found
import FieldFilter.Proofs.Session.Effect

/-!
# FieldFilter.Proofs.Session.Publication — listeners that raise something

A step that publishes calls the listeners in their order, until one of them raises something (`Heard`).  Where they
leave the session alone, this is all that it changes about the step (`Reply.Interrupted`): the session after it is
that after the same step with listeners that all come back.  `Traffic.reply_inert` says so of every event.
-/

namespace FieldFilter

namespace Session

/-- Of the calls that are due one after the other, those made are all, or those up to the first one at which
something is raised. -/
inductive Heard (reactions : List Listening) (due : List (LooseText × Node)) :
    List (LooseText × Node) → Option Raised → Prop
  | all : (∀ i < due.length, ∀ reaction, reactions[i]? = some reaction → reaction.raises = none) →
    Heard reactions due due none
  | upTo {i : Nat} {reaction : Listening} {e : Raised} : i < due.length → reactions[i]? = some reaction →
    reaction.raises = some e →
    (∀ j < i, ∀ reaction, reactions[j]? = some reaction → reaction.raises = none) →
    Heard reactions due (due.take (i + 1)) (some e)

end Session

/-- The reply `r` is `r₀`, but the listeners are only called up to the first one that raises something, and this is
then the answer. -/
structure Reply.Interrupted {α : Type} (reactions : List Session.Listening) (r₀ r : Reply α) : Prop where
  session : r.session = r₀.session
  heard : ∃ raised, Session.Heard reactions r₀.published r.published raised ∧
    r.answer = raised.elim r₀.answer fun e => .error (.raised e)

namespace Session

variable {reactions : List Listening} {reaction : Listening} {due made : List (LooseText × Node)}
  {raised : Option Raised}

/-! ### One call after the other -/

theorem heard_nil_iff : Heard reactions [] made raised ↔ made = [] ∧ raised = none := by
  constructor
  · intro h
    cases h with
    | all => exact ⟨rfl, rfl⟩
    | upTo hi => exact absurd hi (Nat.not_lt_zero _)
  · rintro ⟨rfl, rfl⟩
    exact .all fun i hi => absurd hi (Nat.not_lt_zero i)

/-- If nothing is raised, all calls are made. -/
theorem Heard.eq_of_none (h : Heard reactions due made none) : made = due := by
  cases h
  rfl

/-- A listener that comes back makes way for the next one. -/
theorem Heard.cons (h : Heard reactions due made raised) (hback : reaction.raises = none)
    (call : LooseText × Node) : Heard (reaction :: reactions) (call :: due) (call :: made) raised := by
  -- the first place has this listener, and the place after `j` has the `j`-th of the others
  have hshift {n : Nat} (hn : ∀ j < n, ∀ reaction, reactions[j]? = some reaction → reaction.raises = none) :
      ∀ j < n + 1, ∀ other, (reaction :: reactions)[j]? = some other → other.raises = none := by
    intro j hj other hother
    cases j with
    | zero => exact Option.some.inj hother ▸ hback
    | succ j => exact hn j (Nat.lt_of_succ_lt_succ hj) other hother
  cases h with
  | all hnone => exact .all (hshift hnone)
  | @upTo i _ _ hi hreaction hraises hbefore =>
    exact .upTo (Nat.succ_lt_succ hi) hreaction hraises (hshift hbefore)

theorem Heard.quiet (h : Heard reactions due made raised) (hback : ∀ reaction ∈ reactions, reaction.raises = none) :
    raised = none := by
  cases h with
  | all => rfl
  | upTo _ hreaction hraises => exact nomatch (hback _ (List.mem_of_getElem? hreaction)).symm.trans hraises

/-- **The loop over the listeners**, if they leave the session alone. -/
theorem tell_inert (h : ∀ reaction ∈ reactions, reaction.Inert) (filter : Node) (s : Session) (position : Nat) :
    ∃ made raised, Heard reactions ((s.listeners.drop position).map fun name => (name, filter)) made raised ∧
      s.tell filter position reactions = ⟨raised.elim (.ok ()) fun e => .error (.raised e), s, made⟩ := by
  induction reactions generalizing position with
  | nil => exact ⟨_, none, .all (by simp), rfl⟩
  | cons reaction rest ih =>
    rw [List.forall_mem_cons] at h
    rw [tell]
    cases hname : s.listeners[position]? with
    | none =>
      rw [List.drop_eq_nil_of_le (List.getElem?_eq_none_iff.mp hname)]
      exact ⟨[], none, heard_nil_iff.mpr ⟨rfl, rfl⟩, rfl⟩
    | some name =>
      obtain ⟨hlt, rfl⟩ := List.getElem?_eq_some_iff.mp hname
      rw [List.drop_eq_getElem_cons hlt, List.map_cons]
      simp only [h.1 s]
      cases hraises : reaction.raises with
      | some e => exact ⟨_, some e, .upTo (i := 0) (by simp) rfl hraises (by simp), rfl⟩
      | none =>
        obtain ⟨made, raised, hheard, heq⟩ := ih h.2 (position + 1)
        exact ⟨_, raised, hheard.cons hraises _, by simp [heq]⟩

end Session

/-! ### Interrupted steps -/

namespace Reply.Interrupted

variable {α β : Type} {reactions : List Session.Listening} {r₀ r : Reply α}

/-- A step that calls nobody is not interrupted. -/
theorem silent (h : r.published = []) : Interrupted reactions r r :=
  ⟨rfl, none, by rw [h]; exact Session.heard_nil_iff.mpr ⟨rfl, rfl⟩, rfl⟩

theorem map (h : Interrupted reactions r₀ r) (f : α → β) : Interrupted reactions (r₀.map f) (r.map f) := by
  obtain ⟨hsession, raised, hheard, hanswer⟩ := h
  refine ⟨hsession, raised, hheard, ?_⟩
  simp only [Reply.map, hanswer]
  cases raised <;> rfl

/-- A step goes on to its end, or something is raised in it. -/
theorem cases (h : Interrupted reactions r₀ r) : r = r₀ ∨ ∃ e, r.session = r₀.session ∧
    Session.Heard reactions r₀.published r.published (some e) ∧ r.answer = .error (.raised e) := by
  obtain ⟨hsession, raised, hheard, hanswer⟩ := h
  cases raised with
  | some e => exact .inr ⟨e, hsession, hheard, hanswer⟩
  | none =>
    obtain ⟨a, s, calls⟩ := r
    cases hsession
    cases hheard.eq_of_none
    cases hanswer
    exact .inl rfl

/-- Nothing is interrupted by listeners that come back. -/
theorem quiet (h : Interrupted reactions r₀ r) (hback : ∀ reaction ∈ reactions, reaction.raises = none) :
    r = r₀ := by
  rcases h.cases with rfl | ⟨e, -, hheard, -⟩
  · rfl
  · cases hheard.quiet hback

end Reply.Interrupted

namespace Session

/-! ### Steps that publish -/

variable {α : Type} {reactions : List Listening}

/-- Listeners play no part in an event that leaves the chips alone. -/
theorem Traffic.reply_of_not_edits {answer : Nat → LookupOutcome} {t : Traffic} {e : Event}
    (he : e.editsChips = false) : t.reply answer e reactions = t.reply answer e := by
  cases e with
  | commit | add | removeChip | clear => cases he
  | _ => rfl

section Inert

variable {answer : Nat → LookupOutcome} {t : Traffic} {e : Event} (h : ∀ reaction ∈ reactions, reaction.Inert)
include h

theorem publish_inert (s : Session) (a : α) :
    Reply.Interrupted reactions (s.publish a []) (s.publish a reactions) := by
  obtain ⟨made, raised, hheard, heq⟩ := tell_inert h s.filter s 0
  unfold publish
  rw [heq]
  exact ⟨rfl, raised, hheard, by cases raised <;> rfl⟩

theorem commit_inert (s : Session) (value : LooseText) :
    Reply.Interrupted reactions (s.commit value) (s.commit value reactions) := by
  rcases s.commit_cases value with ⟨e, -, heq⟩ | ⟨_, _, c, -, -, -, -, -, heq⟩
  · rw [heq, heq]
    exact Reply.Interrupted.silent rfl
  · rw [heq, heq]
    exact publish_inert h _ c

theorem removeChip_inert (s : Session) (index : Int) :
    Reply.Interrupted reactions (s.removeChip index) (s.removeChip index reactions) := by
  rcases s.removeChip_cases index with ⟨e, heq⟩ | ⟨i, -, heq⟩
  · rw [heq, heq]
    exact Reply.Interrupted.silent rfl
  · rw [heq, heq]
    exact publish_inert h _ ()

theorem clear_inert (s : Session) : Reply.Interrupted reactions s.clear (s.clear reactions) :=
  publish_inert h _ ()

/-- A whole chip may be given up once more, after it was committed. -/
theorem add_inert (s : Session) (field operator value : LooseText) :
    Reply.Interrupted reactions (s.add field operator value) (s.add field operator value reactions) := by
  rcases s.chooseField_cases field with ⟨e, h₁⟩ | ⟨key, -, -, h₁⟩
  · simp only [add, h₁]
    exact Reply.Interrupted.silent rfl
  · generalize { s with field := some key, operator := none, stage := .fieldChosen } = s₁ at h₁
    rcases s₁.chooseOperator_cases operator with ⟨e, h₂⟩ | ⟨_, _, l, -, -, -, -, h₂, -⟩
    · simp only [add, h₁, h₂]
      exact Reply.Interrupted.silent rfl
    · generalize { s₁ with operator := some operator, stage := .operatorChosen, resolvers := l } = s₂ at h₂
      simp only [add, h₁, h₂]
      rcases s₂.commit_cases value with ⟨e, he, h₃⟩ | ⟨_, _, c, -, -, -, -, -, h₃⟩
      · simp only [h₃, he]
        exact Reply.Interrupted.silent rfl
      · simp only [h₃]
        obtain ⟨hsession, raised, hheard, hanswer⟩ := publish_inert h { s₂ with chips := s₂.chips ++ [c] }.cancel c
        rw [hanswer]
        cases raised with
        | none => exact ⟨hsession, none, hheard, hanswer⟩
        | some e =>
          -- the session was given up when the chip was committed, so it stays as it is
          simp only [Option.elim_some, hsession, publish_nil, cancel_cancel]
          split
          · exact ⟨rfl, some e, hheard, rfl⟩
          · exact ⟨hsession, some e, hheard, hanswer⟩

/-- **What listeners can do to an event** by raising something. -/
theorem Traffic.reply_inert {r : Reply (Option Condition)} (hr : t.reply answer e reactions = some r) :
    ∃ r₀, t.reply answer e = some r₀ ∧ Reply.Interrupted reactions r₀ r := by
  cases hedit : e.editsChips with
  | false =>
    rw [reply_of_not_edits hedit] at hr
    exact ⟨r, hr, Reply.Interrupted.silent ((Traffic.effect hr).silent hedit)⟩
  | true =>
    cases e with
    | commit value => exact ⟨_, rfl, Option.some.inj hr ▸ Reply.Interrupted.map (commit_inert h _ value) some⟩
    | add field operator value =>
      exact ⟨_, rfl, Option.some.inj hr ▸ Reply.Interrupted.map (add_inert h _ field operator value) some⟩
    | removeChip index => exact ⟨_, rfl, Option.some.inj hr ▸ Reply.Interrupted.map (removeChip_inert h _ index) _⟩
    | clear => exact ⟨_, rfl, Option.some.inj hr ▸ Reply.Interrupted.map (clear_inert h _) _⟩
    | _ => cases hedit

/-- Where an event leads does not hang on what listeners raise. -/
theorem Traffic.step_inert : t.step answer e reactions = t.step answer e := by
  cases e with
  | commit value => exact congrArg (some ∘ t.withSession) (Reply.Interrupted.session (commit_inert h _ value))
  | add field operator value =>
    exact congrArg (some ∘ t.withSession) (Reply.Interrupted.session (add_inert h _ field operator value))
  | removeChip index =>
    exact congrArg (some ∘ t.withSession) (Reply.Interrupted.session (removeChip_inert h _ index))
  | clear => exact congrArg (some ∘ t.withSession) (Reply.Interrupted.session (clear_inert h _))
  | _ => rfl

end Inert

/-- Of two listeners the first raises something: the chip is there, but the second is not told of it. -/
example : ∃ r, (Traffic.fresh .persons ["main", "other"]).reply (fun _ => .nothing) (.add "age" ">" "30")
    [{ raises := some (.stop "exit") }] = some r ∧ r.session.chips = [⟨"age", ">", "30"⟩] ∧
    r.published.map Prod.fst = ["main"] ∧ r.answer = .error (.raised (.stop "exit")) :=
  ⟨_, rfl, by rfl, by rfl, by rfl⟩

/-! ### Runs -/

namespace Traffic

/-- The events happen one after the other, and at each of them the listeners react as given. -/
def perform (answer : Nat → LookupOutcome) (t : Traffic) (es : List (Event × List Listening)) : Option Traffic :=
  es.foldlM (fun t x => t.step answer x.1 x.2) t

/-- Where a run leads does not hang on what listeners raise. -/
theorem perform_inert {answer : Nat → LookupOutcome} {t : Traffic} {es : List (Event × List Listening)}
    (h : ∀ x ∈ es, ∀ reaction ∈ x.2, reaction.Inert) : t.perform answer es = t.run answer (es.map Prod.fst) := by
  induction es generalizing t with
  | nil => rfl
  | cons x es ih =>
    rw [List.forall_mem_cons] at h
    simp only [perform, run, List.map_cons, List.foldlM_cons, step_inert h.1]
    exact congrArg ((t.step answer x.1).bind ·) (funext fun _ => ih h.2)

end Traffic
end Session
end FieldFilter
