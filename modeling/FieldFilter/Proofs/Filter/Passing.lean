import FieldFilter.Proofs.Filter.Total

/-!
# FieldFilter.Proofs.Filter.Passing — the rows that pass

Where every row has an answer, a run over rows keeps just those that pass (`filterOn_eq_filter`).  A record
whose values can be compared passes a flat group of conditions just if it satisfies each of them
(`Record.InRange.allHold`).
-/

namespace FieldFilter

/-- The record satisfies the condition. -/
def Condition.Passes (c : Condition) (r : Record) : Prop := c.holds r = .ok true

instance (c : Condition) (r : Record) : Decidable (c.Passes r) :=
  inferInstanceAs (Decidable (c.holds r = .ok true))

variable {α : Type} {record : α → Record} {filter : Node} {rows : List α} {r : Record} {c : Condition}

/-- A condition has an answer on every record whose values can be compared. -/
theorem Record.InRange.holds_eq (h : r.InRange) : c.holds r = .ok (decide (c.Passes r)) :=
  eq_ok_decide (Record.inRange_iff.mp h (.condition c))

theorem Record.InRange.allHold (h : r.InRange) (cs : List Condition) :
    Node.allHold r (cs.map .condition) = .ok (cs.all fun c => c.Passes r) := by
  induction cs with
  | nil => rfl
  | cons c cs ih =>
    rw [List.map_cons, Node.allHold, Node.holds, h.holds_eq, ih, List.all_cons]
    cases decide (c.Passes r) <;> rfl

/-- **A run over rows keeps those that pass**, where every row has an answer. -/
theorem filterOn_eq_filter {passes : α → Bool} (h : ∀ row ∈ rows, filter.holds (record row) = .ok (passes row)) :
    filterOn record filter rows = .ok (rows.filter passes) := by
  induction rows with
  | nil => rfl
  | cons row rest ih =>
    rw [filterOn, h row List.mem_cons_self, ih fun row' hrow' => h row' (List.mem_cons_of_mem row hrow'),
      List.filter_cons]
    cases passes row <;> rfl

end FieldFilter
