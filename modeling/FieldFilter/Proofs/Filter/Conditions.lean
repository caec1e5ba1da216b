import FieldFilter.Filter.Evaluate

/-!
# FieldFilter.Proofs.Filter.Conditions — trees member by member

`Node.members_induction` is induction over trees, with what is to be shown at hand for every member of a
group.  `Node.conditions` lists the conditions of a tree in reading order.  What a group comes to depends only on
what its members come to (`Node.holds_group_congr`).
-/

namespace FieldFilter.Node

/-- What holds of the conditions, and of a group if it holds of its members, holds of all trees. -/
@[elab_as_elim]
theorem members_induction {P : Node → Prop} (everything : P .everything) (condition : ∀ c, P (.condition c))
    (group : ∀ word members, (∀ n ∈ members, P n) → P (.group word members)) (n : Node) : P n := by
  refine Node.rec (motive_1 := P) (motive_2 := fun ns => ∀ n ∈ ns, P n) everything condition
    (fun word members ih => group word members ih) (fun n hn => nomatch hn) (fun n ns hn hns m hm => ?_) n
  rcases List.mem_cons.mp hm with rfl | hm
  · exact hn
  · exact hns m hm

mutual

/-- The conditions of a tree in reading order. -/
def conditions : Node → List Condition
  | everything => []
  | condition c => [c]
  | group _ members => conditionsOfAll members

def conditionsOfAll : List Node → List Condition
  | [] => []
  | n :: rest => n.conditions ++ conditionsOfAll rest

end

@[simp] theorem conditions_everything : everything.conditions = [] := rfl

@[simp] theorem conditions_condition (c : Condition) : (condition c).conditions = [c] := rfl

@[simp] theorem conditions_group (word : LooseText) (members : List Node) :
    (group word members).conditions = members.flatMap conditions := by
  show conditionsOfAll members = _
  induction members with
  | nil => rfl
  | cons n ns ih => rw [conditionsOfAll, ih, List.flatMap_cons]

/-! ### What a group comes to -/

section Outcomes

variable {r r' : Record} {ns ms : List Node}

theorem allHold_congr (h : ns.map (holds r) = ms.map (holds r')) : allHold r ns = allHold r' ms := by
  induction ns generalizing ms with
  | nil => rw [List.map_eq_nil_iff.mp h.symm, allHold, allHold]
  | cons n ns ih =>
    obtain ⟨m, ms, rfl, hm, hms⟩ := List.map_eq_cons_iff.mp h.symm
    rw [allHold, allHold, hm, ih hms.symm]

theorem someHolds_congr (h : ns.map (holds r) = ms.map (holds r')) : someHolds r ns = someHolds r' ms := by
  induction ns generalizing ms with
  | nil => rw [List.map_eq_nil_iff.mp h.symm, someHolds, someHolds]
  | cons n ns ih =>
    obtain ⟨m, ms, rfl, hm, hms⟩ := List.map_eq_cons_iff.mp h.symm
    rw [someHolds, someHolds, hm, ih hms.symm]

/-- Groups whose members come to the same, one by one, come to the same. -/
theorem holds_group_congr {word : LooseText} (h : ns.map (holds r) = ms.map (holds r')) :
    (group word ns).holds r = (group word ms).holds r' := by
  rw [holds, holds, allHold_congr h, someHolds_congr h]

end Outcomes

end FieldFilter.Node
