import FieldFilter.Command.Program
import FieldFilter.Proofs.Filter.Passing
import FieldFilter.Proofs.Session.Effect

/-!
# FieldFilter.Proofs.Command.Conjunction — the filter that chips and an expression make

Chips are added to a session one by one, and the filter of an expression is joined to theirs.  This goes through
if every chip asks for a condition and the expression can be read, and fails otherwise (`buildFilter_eq_ok`,
`buildFilter_of_refused`).  A record passes the outcome just if it satisfies every chip and passes the expression
(`Node.passes_combine`), whatever the expression's own combinator is.
-/

namespace FieldFilter

/-! ### Chips -/

/-- The condition that a chip asks for: its field by key, and its value without white space around it.  There is
none if the field is not known or does not take the operator, or if the value is blank. -/
def Registry.chip? (r : Registry) : LooseText × LooseText × LooseText → Option Condition
  | (field, operator, value) => do
    let key ← r.find field
    let f ← r.get? key
    if operator ∈ f.type.operatorWords ∧ value.strip.isEmpty = false then
      some ⟨key, operator, value.strip⟩
    else none

/-- A blank expression asks for nothing. -/
theorem Registry.parse_blank {r : Registry} {text : LooseText} (h : text.strip.isEmpty = true) :
    r.parse text = .ok .everything := by
  simp [Registry.parse, Expression.parse, h, Registry.resolve, Registry.validate, bind, Except.bind, pure,
    Except.pure]

namespace Session

variable {s : Session} {field operator value : LooseText} {c : Condition}

/-- A session that is not past an operator takes the chips that ask for a condition. -/
theorem add_eq_ok_iff_chip (hs : s.stage ≠ .operatorChosen) :
    (s.add field operator value).answer = .ok c ↔ s.registry.chip? (field, operator, value) = some c := by
  rw [add_eq_ok]
  simp only [Registry.chip?, Option.bind_eq_bind, Option.bind_eq_some_iff, Option.ite_none_right_eq_some]
  constructor
  · rintro ⟨-, hvalue, key, f, hkey, hf, hoperator, rfl⟩
    exact ⟨key, hkey, f, hf, ⟨hoperator, hvalue⟩, rfl⟩
  · rintro ⟨key, hkey, f, hf, ⟨hoperator, hvalue⟩, h⟩
    exact ⟨hs, hvalue, key, f, hkey, hf, hoperator, (Option.some.inj h).symm⟩

/-- A chip that is taken comes after the others, and none is under way then. -/
theorem add_session (h : (s.add field operator value).answer = .ok c) :
    ∃ l, (s.add field operator value).session = s.atRest (s.chips ++ [c]) l := by
  have heffect := add_effect s field operator value
  generalize hreply : (s.add field operator value).map some = reply at heffect
  have hanswer : reply.answer = .ok (some c) := by
    rw [← hreply, Reply.map, h]
    rfl
  have hsession : reply.session = (s.add field operator value).session := by
    rw [← hreply]
    rfl
  rw [← hsession]
  cases heffect with
  | still a l hrefused | givenUp a l hrefused =>
    obtain ⟨fault, rfl⟩ := hrefused rfl
    cases hanswer
  | put l _ _ =>
    cases hanswer
    exact ⟨l, rfl⟩

end Session

namespace Program

variable {r : Registry} {s : Session} {q : FilterRequest} {chip : LooseText × LooseText × LooseText}
  {chips : List (LooseText × LooseText × LooseText)} {c : Condition} {cs : List Condition} {n : Node}

/-- A chip that asks for a condition is added, and the others come after it. -/
theorem addChips_step (hs : s.stage = .idle) (hchip : s.registry.chip? chip = some c) :
    ∃ l, addChips s (chip :: chips) = addChips (s.atRest (s.chips ++ [c]) l) chips := by
  obtain ⟨field, operator, value⟩ := chip
  have hanswer := (Session.add_eq_ok_iff_chip (by simp [hs])).mpr hchip
  obtain ⟨l, hsession⟩ := Session.add_session hanswer
  exact ⟨l, by simp [addChips, hanswer, hsession, bind, Except.bind]⟩

/-- No chip is added after one that asks for none. -/
theorem addChips_stop (hs : s.stage = .idle) (hchip : s.registry.chip? chip = none) :
    ∃ e, addChips s (chip :: chips) = .error e := by
  obtain ⟨field, operator, value⟩ := chip
  cases hanswer : (s.add field operator value).answer with
  | error e => exact ⟨e, by simp [addChips, hanswer, bind, Except.bind]⟩
  | ok c =>
    rw [Session.add_eq_ok_iff_chip (by simp [hs]), hchip] at hanswer
    cases hanswer

theorem addChips_of_mapM (hs : s.stage = .idle) (hcs : chips.mapM s.registry.chip? = some cs) :
    ∃ s', addChips s chips = .ok s' ∧ s'.chips = s.chips ++ cs := by
  induction chips generalizing s cs with
  | nil =>
    cases hcs
    exact ⟨s, rfl, by simp⟩
  | cons chip rest ih =>
    simp only [List.mapM_cons, Option.bind_eq_bind, Option.bind_eq_some_iff, Option.pure_def,
      Option.some.injEq] at hcs
    obtain ⟨c, hchip, cs', hrest, rfl⟩ := hcs
    obtain ⟨l, hstep⟩ := addChips_step hs hchip
    obtain ⟨s', hs', hchips⟩ := ih (s := s.atRest (s.chips ++ [c]) l) rfl hrest
    exact ⟨s', hstep.trans hs', by simpa [Session.atRest] using hchips⟩

theorem addChips_of_none (hs : s.stage = .idle) (hchip : ∃ chip ∈ chips, s.registry.chip? chip = none) :
    ∃ e, addChips s chips = .error e := by
  induction chips generalizing s with
  | nil => simp at hchip
  | cons first rest ih =>
    cases hfirst : s.registry.chip? first with
    | none => exact addChips_stop hs hfirst
    | some c =>
      obtain ⟨l, hstep⟩ := addChips_step hs hfirst
      rw [hstep]
      refine ih rfl ?_
      simpa [hfirst, Session.atRest] using hchip

/-! ### The whole filter -/

/-- Something that is asked for is refused: a chip, or the expression. -/
def Refused (r : Registry) (q : FilterRequest) : Prop :=
  (∃ chip ∈ q.chips, r.chip? chip = none) ∨ ∃ e, r.parse (LooseText.intercalate " " q.expression) = .error e

theorem buildFilter_eq_ok (hcs : q.chips.mapM r.chip? = some cs)
    (hn : r.parse (LooseText.intercalate " " q.expression) = .ok n) :
    buildFilter r q = .ok (cs, combine (Node.ofChips (cs.map .condition)) n) := by
  obtain ⟨s, hs, hchips⟩ := addChips_of_mapM (s := { registry := r }) rfl hcs
  obtain rfl : s.chips = cs := by simpa using hchips
  simp [buildFilter, hs, hn, Session.filter, bind, Except.bind, pure, Except.pure]

theorem buildFilter_of_refused (h : Refused r q) : ∃ e, buildFilter r q = .error e := by
  unfold buildFilter
  cases hchips : addChips { registry := r } q.chips with
  | error e => exact ⟨e, rfl⟩
  | ok s =>
    rcases h with hchip | ⟨e, he⟩
    · obtain ⟨e, he⟩ := addChips_of_none (s := { registry := r }) rfl hchip
      exact nomatch he.symm.trans hchips
    · exact ⟨e, by simp [he, bind, Except.bind]⟩

end Program

/-! ### The records that pass -/

/-- The record passes the filter. -/
def Node.Passes (n : Node) (r : Record) : Prop := n.holds r = .ok true

instance (n : Node) (r : Record) : Decidable (n.Passes r) := inferInstanceAs (Decidable (n.holds r = .ok true))

section

variable {r : Record} {rows : List Record} {cs : List Condition} {n : Node} {ns : List Node}

/-- It is enough to look at the keys that are there, since the others are null. -/
theorem Record.inRange_iff_values : r.InRange ↔ ∀ e ∈ r, (r.get e.1).isComparable = true := by
  refine ⟨fun h e _ => h e.1, fun h key => ?_⟩
  cases hlookup : r.lookup key with
  | none =>
    rw [Record.get, hlookup]
    rfl
  | some v =>
    obtain ⟨before, after, hr, -⟩ := List.lookup_eq_some_iff.mp hlookup
    exact h (key, v) (by simp [hr])

instance (r : Record) : Decidable r.InRange := decidable_of_iff _ Record.inRange_iff_values.symm

theorem Record.InRange.node_holds_eq (h : r.InRange) : n.holds r = .ok (decide (n.Passes r)) :=
  eq_ok_decide (Record.inRange_iff.mp h n)

/-- Where every value of the rows can be compared, those that pass are kept. -/
theorem filterOn_of_inRange (h : ∀ row ∈ rows, row.InRange) (n : Node) :
    filterOn id n rows = .ok (rows.filter fun row => n.Passes row) :=
  filterOn_eq_filter fun row hrow => (h row hrow).node_holds_eq

theorem Node.passes_condition {c : Condition} : (Node.condition c).Passes r ↔ c.Passes r := Iff.rfl

theorem Node.allHold_eq_true : Node.allHold r ns = .ok true ↔ ∀ n ∈ ns, n.Passes r := by
  induction ns with
  | nil => simp [Node.allHold]
  | cons n ns ih =>
    rw [Node.allHold, bind_eq_ok, List.forall_mem_cons, ← ih, Node.Passes]
    constructor
    · rintro ⟨_ | _, hn, hns⟩
      · cases hns
      · exact ⟨hn, hns⟩
    · rintro ⟨hn, hns⟩
      exact ⟨true, hn, hns⟩

theorem Node.passes_allOf : (Node.allOf ns).Passes r ↔ ∀ n ∈ ns, n.Passes r := Node.allHold_eq_true

/-- What is put at the end of an `and` group is one more thing to pass, whatever is in it. -/
theorem Node.passes_append : ((Node.allOf ns).append n).Passes r ↔ (Node.allOf ns).Passes r ∧ n.Passes r := by
  have hgroup : (Node.allOf ns).append n = .allOf (ns ++ [n]) := rfl
  rw [hgroup, passes_allOf, passes_allOf, List.forall_mem_append, List.forall_mem_singleton]

theorem Node.passes_ofChips : (Node.ofChips (cs.map .condition)).Passes r ↔ ∀ c ∈ cs, c.Passes r := by
  cases cs with
  | nil => exact iff_of_true rfl (by simp)
  | cons c cs =>
    have hgroup : Node.ofChips ((c :: cs).map .condition) = .allOf ((c :: cs).map .condition) := rfl
    rw [hgroup, Node.passes_allOf, List.forall_mem_map]
    exact forall₂_congr fun _ _ => Node.passes_condition

/-- **A record passes chips and an expression together** just if it satisfies every chip and the expression. -/
theorem Node.passes_combine : (Program.combine (Node.ofChips (cs.map .condition)) n).Passes r ↔
    (∀ c ∈ cs, c.Passes r) ∧ n.Passes r := by
  have heverything : Node.everything.Passes r := rfl
  rw [← Node.passes_ofChips (r := r)]
  cases cs with
  | nil => exact (and_iff_right heverything).symm
  | cons c cs =>
    have hgroup : Node.ofChips ((c :: cs).map .condition) = .allOf ((c :: cs).map .condition) := rfl
    rw [hgroup]
    cases n with
    | everything => exact (and_iff_left heverything).symm
    | condition _ | group _ _ => exact Node.passes_append

/-! ### The rows that are kept -/

/-- The rows that satisfy every condition and pass the filter, in their order. -/
def passing (cs : List Condition) (n : Node) (rows : List Record) : List Record :=
  rows.filter fun row => (∀ c ∈ cs, c.Passes row) ∧ n.Passes row

theorem passing_everything (rows : List Record) : passing [] .everything rows = rows := by
  have heverything (row : Record) : Node.everything.Passes row := rfl
  simp [passing, heverything]

section

variable (h : ∀ row ∈ rows, row.InRange)
include h

theorem filterOn_combine :
    filterOn id (Program.combine (Node.ofChips (cs.map .condition)) n) rows = .ok (passing cs n rows) := by
  simp only [filterOn_of_inRange h, Node.passes_combine, passing]

/-- The rows that pass one filter are run over a second one. -/
theorem filterOn_twice (n m : Node) : (filterOn id n rows).bind (filterOn id m) =
    .ok (rows.filter fun row => n.Passes row ∧ m.Passes row) := by
  have hkept : ∀ row ∈ rows.filter fun row => n.Passes row, row.InRange :=
    fun row hrow => h row (List.mem_of_mem_filter hrow)
  rw [filterOn_of_inRange h, Except.bind, filterOn_of_inRange hkept, List.filter_filter]
  simp only [Bool.decide_and, Bool.and_comm]

theorem filterOn_chips_expression :
    (filterOn id (Node.ofChips (cs.map .condition)) rows).bind (filterOn id n) = .ok (passing cs n rows) := by
  simp only [filterOn_twice h, Node.passes_ofChips, passing]

theorem filterOn_expression_chips :
    (filterOn id n rows).bind (filterOn id (Node.ofChips (cs.map .condition))) = .ok (passing cs n rows) := by
  simp only [filterOn_twice h, Node.passes_ofChips, passing, and_comm]

end

end

end FieldFilter
