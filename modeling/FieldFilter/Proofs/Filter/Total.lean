import Mathlib.Algebra.Order.Ring.Int
import FieldFilter.Filter.Evaluate
import FieldFilter.Proofs.Attempt
import FieldFilter.Proofs.Filter.Conditions
import FieldFilter.Proofs.Value.Settled

/-!
# FieldFilter.Proofs.Filter.Total — when filtering gives an answer

A condition fails on a record just if its field holds an integer past the doubles, or a value that cannot be written
(`Condition.holds_eq_error_iff`), whatever its operator and its operand; a tree and a run over rows fail with
one of their conditions.  So every filter gives an answer on exactly the rows without such a value under a
key (`filterOn_total_iff`).
-/

namespace FieldFilter

variable {α : Type} {record : α → Record} {filter n : Node} {ns : List Node} {rows : List α} {r : Record}
  {c : Condition} {e : Incomparable}

/-! ### Conditions -/

/-- **A condition fails** just if its field holds a value that cannot be compared. -/
theorem Condition.holds_eq_error_iff : c.holds r = .error e ↔ (r.get c.field).FailsWith e := by
  unfold Condition.holds
  dsimp only
  generalize r.get c.field = v
  cases hwritable : v.isWritable with
  | false =>
    rw [Value.written_of_not hwritable]
    constructor
    · intro h
      cases h
      exact .numeralTooLong hwritable
    · intro h
      cases h with
      | numeralTooLong => rfl
      | outOfRange hyes => exact nomatch hwritable.symm.trans hyes
  | true =>
    rw [Value.written_of_isWritable hwritable, ok_bind]
    split
    · -- two days compare, and an integer is no day
      next left right hleft _ =>
      obtain ⟨result, hresult⟩ := compare_settled c.operator (some (.date left)) (some (.date right))
      refine iff_of_false (fun h => nomatch hresult.symm.trans h) fun hfails => ?_
      cases hfails with
      | outOfRange => cases hleft.symm.trans (Value.day?_int _)
      | numeralTooLong hno => cases hwritable.symm.trans hno
    · -- the operand is a text and always settles, so only the record's value can fail
      rw [← Value.settle_eq_error_iff hwritable, bind_eq_error]
      refine or_iff_left fun ⟨left, _, h⟩ => ?_
      obtain ⟨result, hresult⟩ := compare_settled c.operator left (some (.text c.value))
      exact nomatch hresult.symm.trans h

/-! ### Trees and rows fail with a condition -/

theorem Node.allHold_eq_error (h : Node.allHold r ns = .error e) : ∃ n ∈ ns, n.holds r = .error e := by
  induction ns with
  | nil => cases h
  | cons n ns ih =>
    rw [Node.allHold] at h
    rcases bind_eq_error.mp h with hn | ⟨_ | _, -, hrest⟩
    · exact ⟨n, List.mem_cons_self, hn⟩
    · cases hrest
    · obtain ⟨m, hm, he⟩ := ih hrest
      exact ⟨m, List.mem_cons_of_mem n hm, he⟩

theorem Node.someHolds_eq_error (h : Node.someHolds r ns = .error e) : ∃ n ∈ ns, n.holds r = .error e := by
  induction ns with
  | nil => cases h
  | cons n ns ih =>
    rw [Node.someHolds] at h
    rcases bind_eq_error.mp h with hn | ⟨_ | _, -, hrest⟩
    · exact ⟨n, List.mem_cons_self, hn⟩
    · obtain ⟨m, hm, he⟩ := ih hrest
      exact ⟨m, List.mem_cons_of_mem n hm, he⟩
    · cases hrest

/-- A tree fails only with one of its conditions. -/
theorem Node.holds_eq_error (h : n.holds r = .error e) : ∃ c ∈ n.conditions, c.holds r = .error e := by
  induction n using Node.members_induction with
  | everything => cases h
  | condition c => exact ⟨c, by simp, h⟩
  | group word members ih =>
    obtain ⟨m, hm, he⟩ : ∃ m ∈ members, m.holds r = .error e := by
      rw [Node.holds] at h
      split at h
      · exact Node.allHold_eq_error h
      · exact Node.someHolds_eq_error h
      · cases h
    obtain ⟨c, hc, hce⟩ := ih m hm he
    exact ⟨c, by simpa using ⟨m, hm, hc⟩, hce⟩

/-- A run over rows fails only with one of them. -/
theorem filterOn_eq_error (h : filterOn record filter rows = .error e) :
    ∃ row ∈ rows, filter.holds (record row) = .error e := by
  induction rows with
  | nil => nomatch h
  | cons row rest ih =>
    rw [filterOn] at h
    rcases bind_eq_error.mp h with hrow | ⟨keep, -, h⟩
    · exact ⟨row, List.mem_cons_self, hrow⟩
    · rcases bind_eq_error.mp h with hrest | ⟨kept, -, hreturn⟩
      · obtain ⟨row', hrow', he⟩ := ih hrest
        exact ⟨row', List.mem_cons_of_mem row hrow', he⟩
      · nomatch hreturn

/-- A run over rows that gives an answer has one for each of them. -/
theorem holds_of_filterOn {kept : List α} (h : filterOn record filter rows = .ok kept) :
    ∀ row ∈ rows, ∃ b, filter.holds (record row) = .ok b := by
  induction rows generalizing kept with
  | nil => nofun
  | cons row rest ih =>
    cases hrow : filter.holds (record row) with
    | error e => simp [filterOn, hrow, bind, Except.bind] at h
    | ok keep =>
      cases hrest : filterOn record filter rest with
      | error e => simp [filterOn, hrow, hrest, bind, Except.bind] at h
      | ok kept' =>
        rintro row' (_ | ⟨_, hrow'⟩)
        · exact ⟨keep, hrow⟩
        · exact ih hrest row' hrow'

/-- A run over rows gives an answer just if each of them has one. -/
theorem filterOn_ok_iff : (∃ kept, filterOn record filter rows = .ok kept) ↔
    ∀ row ∈ rows, ∃ b, filter.holds (record row) = .ok b := by
  refine ⟨fun ⟨kept, hkept⟩ => holds_of_filterOn hkept, fun h => ?_⟩
  cases hkept : filterOn record filter rows with
  | ok kept => exact ⟨kept, rfl⟩
  | error e =>
    obtain ⟨row, hrow, hfail⟩ := filterOn_eq_error hkept
    obtain ⟨b, hb⟩ := h row hrow
    exact nomatch hb.symm.trans hfail

/-! ### When filtering gives an answer -/

/-- Every value that a record holds under a key can be compared. -/
def Record.InRange (r : Record) : Prop := ∀ key, (r.get key).isComparable = true

/-- A tree that fails has met a value that cannot be compared, in a field that it names. -/
theorem Node.field_of_holds_eq_error (h : n.holds r = .error e) :
    ∃ c ∈ n.conditions, (r.get c.field).FailsWith e := by
  obtain ⟨c, hc, hfail⟩ := Node.holds_eq_error h
  exact ⟨c, hc, Condition.holds_eq_error_iff.mp hfail⟩

/-- Every tree has an answer on exactly the records whose values can be compared. -/
theorem Record.inRange_iff : r.InRange ↔ ∀ n : Node, ∃ b, n.holds r = .ok b := by
  constructor
  · intro h n
    cases hn : n.holds r with
    | ok b => exact ⟨b, rfl⟩
    | error e =>
      obtain ⟨c, -, hfails⟩ := Node.field_of_holds_eq_error hn
      exact absurd hfails (Value.isComparable_iff.mp (h c.field) e)
  · intro h key
    refine Value.isComparable_iff.mpr fun e hfails => ?_
    have hfail : (Node.condition ⟨key, "=", "1"⟩).holds r = .error e := Condition.holds_eq_error_iff.mpr hfails
    obtain ⟨b, hb⟩ := h (.condition ⟨key, "=", "1"⟩)
    exact nomatch hb.symm.trans hfail

/-- **Every filter gives an answer** on exactly the rows whose values can be compared, and one that fails has
met a value that cannot, in a field that it names. -/
theorem filterOn_total_iff (record : α → Record) (rows : List α) :
    ((∀ n : Node, ∀ row ∈ rows, ∃ b, n.holds (record row) = .ok b) ↔ ∀ row ∈ rows, (record row).InRange) ∧
      ((∀ filter, ∃ kept, filterOn record filter rows = .ok kept) ↔ ∀ row ∈ rows, (record row).InRange) ∧
      ∀ filter e, filterOn record filter rows = .error e →
        ∃ row ∈ rows, ∃ c ∈ filter.conditions, ((record row).get c.field).FailsWith e := by
  have hnodes : (∀ n : Node, ∀ row ∈ rows, ∃ b, n.holds (record row) = .ok b) ↔
      ∀ row ∈ rows, (record row).InRange := by
    simp only [Record.inRange_iff]
    exact ⟨fun h row hrow n => h n row hrow, fun h n row hrow => h row hrow n⟩
  refine ⟨hnodes, by simpa only [filterOn_ok_iff] using hnodes, fun filter e h => ?_⟩
  obtain ⟨row, hrow, hfail⟩ := filterOn_eq_error h
  exact ⟨row, hrow, Node.field_of_holds_eq_error hfail⟩

/-- An integer of 401 digits is past the doubles, and even a test for equality fails on it. -/
theorem holds_immense :
    (Node.condition ⟨"a", "=", "1"⟩).holds [("a", .int (10 ^ 400))] = .error (.outOfRange (10 ^ 400)) := by
  have hlimit : Binary64.intLimit ≤ ((10 : Int) ^ 400).natAbs := by decide +kernel
  have hwritable : (Value.int (10 ^ 400)).isWritable = true := by decide +kernel
  generalize (10 : Int) ^ 400 = immense at *
  exact Condition.holds_eq_error_iff.mpr (.outOfRange hwritable hlimit)

end FieldFilter
