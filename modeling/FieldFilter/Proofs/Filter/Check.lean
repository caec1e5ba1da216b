import Mathlib.Data.List.Nodup
import Mathlib.Tactic.SplitIfs
import FieldFilter.Filter.Build
import FieldFilter.Proofs.Attempt
import FieldFilter.Proofs.Filter.Conditions
import FieldFilter.Proofs.Session.Operations

/-!
# FieldFilter.Proofs.Filter.Check — what the check of a tree reports

The check looks at the nodes of a tree in preorder, at each for itself: `Registry.Sound` says of which nodes it
approves, and `Registry.Faulty` what it says of the others.  A tree passes if all its nodes are sound, and is
refused with what is said of the first that is not (`validate_eq_ok_iff`, `validate_eq_error_iff`).
-/

namespace FieldFilter

variable {α β γ : Type}

/-- The first find in lists that are put together is the first find in the first list that has one. -/
theorem findSome?_flatMap (l : List α) (f : α → List β) (p : β → Option γ) :
    (l.flatMap f).findSome? p = l.findSome? fun a => (f a).findSome? p := by
  induction l with
  | nil => rfl
  | cons a l ih =>
    rw [List.flatMap_cons, List.findSome?_append, ih, List.findSome?_cons]
    cases (f a).findSome? p <;> rfl

theorem findSome?_congr {l : List α} {p q : α → Option β} (h : ∀ a ∈ l, p a = q a) :
    l.findSome? p = l.findSome? q := by
  induction l with
  | nil => rfl
  | cons a l ih =>
    rw [List.forall_mem_cons] at h
    rw [List.findSome?_cons, List.findSome?_cons, h.1, ih h.2]

namespace Node

mutual

/-- The nodes of a tree, each group before its members and these from left to right. -/
def preorder : Node → List Node
  | everything => [everything]
  | condition c => [condition c]
  | group word members => group word members :: preorderOfAll members

def preorderOfAll : List Node → List Node
  | [] => []
  | n :: rest => n.preorder ++ preorderOfAll rest

end

@[simp] theorem preorder_everything : everything.preorder = [everything] := rfl

@[simp] theorem preorder_condition (c : Condition) : (condition c).preorder = [condition c] := rfl

@[simp] theorem preorder_group (word : LooseText) (members : List Node) :
    (group word members).preorder = group word members :: members.flatMap preorder := by
  show _ :: preorderOfAll members = _
  congr 1
  induction members with
  | nil => rfl
  | cons n ns ih => rw [preorderOfAll, ih, List.flatMap_cons]

end Node

namespace Registry

variable {r : Registry} {n : Node} {c : Condition} {word : LooseText} {e : Fault}

/-- The condition names the key of a registered field, and an operator that the type of the field takes. -/
def Permits (r : Registry) (c : Condition) : Prop :=
  ∃ f ∈ r.fields, f.key = c.field ∧ c.operator ∈ f.type.operatorWords

/-- A node of which the check approves, whatever it thinks of the members. -/
def Sound (r : Registry) : Node → Prop
  | .everything => True
  | .condition c => r.Permits c
  | .group word _ => word = "and" ∨ word = "or"

/-- A node of which the check does not approve, with what it says of it. -/
inductive Faulty (r : Registry) : Node → Fault → Prop
  | combinator {word : LooseText} {members : List Node} : word ≠ "and" → word ≠ "or" →
    Faulty r (.group word members) (.invalidCombinator word)
  | field {c : Condition} : (∀ f ∈ r.fields, f.key ≠ c.field) → Faulty r (.condition c) (.unknownField c.field)
  | operator {c : Condition} {f : Field} : f ∈ r.fields → f.key = c.field → c.operator ∉ f.type.operatorWords →
    Faulty r (.condition c) (.invalidOperator c.field c.operator f.type.operators)

/-! ### The check of one node -/

/-- The fields of a registry are the fields that stand under their keys. -/
theorem get?_eq_some_iff {key : LooseText} {f : Field} : r.get? key = some f ↔ f ∈ r.fields ∧ f.key = key := by
  constructor
  · exact fun h => ⟨List.mem_of_find?_eq_some h, key_of_get? h⟩
  · rintro ⟨hf, rfl⟩
    obtain ⟨g, hg⟩ : ∃ g, r.get? f.key = some g :=
      Option.isSome_iff_exists.mp (List.find?_isSome.mpr ⟨f, hf, beq_self_eq_true _⟩)
    have hsame : g = f := List.inj_on_of_nodup_map r.nodup (List.mem_of_find?_eq_some hg) hf (key_of_get? hg)
    rwa [hsame] at hg

theorem get?_eq_none_iff {key : LooseText} : r.get? key = none ↔ ∀ f ∈ r.fields, f.key ≠ key := by
  simp [get?, List.find?_eq_none]

/-- The fault of a condition. -/
def conditionFault? (r : Registry) (c : Condition) : Option Fault :=
  failure? (r.condition c.field c.operator c.value)

theorem conditionFault?_of_none (h : r.get? c.field = none) : r.conditionFault? c = some (.unknownField c.field) := by
  rw [conditionFault?, condition, get_of_none h]
  rfl

theorem conditionFault?_of_some {f : Field} (h : r.get? c.field = some f) :
    r.conditionFault? c = if c.operator ∈ f.type.operatorWords then none
      else some (.invalidOperator c.field c.operator f.type.operators) := by
  simp only [conditionFault?, condition, get_eq_ok.mpr h, bind, Except.bind]
  split <;> rfl

theorem conditionFault?_eq_none_iff : r.conditionFault? c = none ↔ r.Permits c := by
  unfold Permits
  cases h : r.get? c.field with
  | none =>
    rw [conditionFault?_of_none h]
    refine iff_of_false (by simp) ?_
    rintro ⟨f, hf, hkey, -⟩
    exact get?_eq_none_iff.mp h f hf hkey
  | some f =>
    rw [conditionFault?_of_some h]
    simp only [ite_eq_left_iff, reduceCtorEq, imp_false, not_not]
    constructor
    · exact fun hop => ⟨f, (get?_eq_some_iff.mp h).1, (get?_eq_some_iff.mp h).2, hop⟩
    · rintro ⟨g, hg, hkey, hop⟩
      cases h.symm.trans (get?_eq_some_iff.mpr ⟨hg, hkey⟩)
      exact hop

theorem conditionFault?_eq_some_iff : r.conditionFault? c = some e ↔ r.Faulty (.condition c) e := by
  constructor
  · intro he
    cases h : r.get? c.field with
    | none =>
      rw [conditionFault?_of_none h] at he
      cases he
      exact .field (get?_eq_none_iff.mp h)
    | some f =>
      rw [conditionFault?_of_some h] at he
      split at he
      · cases he
      · next hop =>
        cases he
        exact .operator (get?_eq_some_iff.mp h).1 (get?_eq_some_iff.mp h).2 hop
  · intro hfault
    cases hfault with
    | field hnone => exact conditionFault?_of_none (get?_eq_none_iff.mpr hnone)
    | operator hf hkey hop => rw [conditionFault?_of_some (get?_eq_some_iff.mpr ⟨hf, hkey⟩), if_neg hop]

/-- The fault of a node itself. -/
def nodeFault? (r : Registry) : Node → Option Fault
  | .everything => none
  | .condition c => r.conditionFault? c
  | .group word _ => if (Combinator.ofWord? word).isSome then none else some (.invalidCombinator word)

theorem isSome_ofWord?_iff : (Combinator.ofWord? word).isSome = true ↔ word = "and" ∨ word = "or" := by
  unfold Combinator.ofWord?
  split_ifs <;> simp_all

theorem nodeFault?_eq_none_iff : r.nodeFault? n = none ↔ r.Sound n := by
  cases n with
  | everything => simp [nodeFault?, Sound]
  | condition c => exact conditionFault?_eq_none_iff
  | group word members =>
    rw [nodeFault?, Sound, ← isSome_ofWord?_iff]
    cases Combinator.ofWord? word <;> simp

theorem nodeFault?_eq_some_iff : r.nodeFault? n = some e ↔ r.Faulty n e := by
  cases n with
  | everything => exact iff_of_false (by simp [nodeFault?]) nofun
  | condition c => exact conditionFault?_eq_some_iff
  | group word members =>
    have hword : (Combinator.ofWord? word).isSome = true ↔ _ := isSome_ofWord?_iff
    rw [nodeFault?]
    constructor
    · intro h
      split at h
      · cases h
      · next hnone =>
        cases h
        rw [hword, not_or] at hnone
        exact .combinator hnone.1 hnone.2
    · rintro (⟨hand, hor⟩ | _ | _)
      rw [if_neg (hword.not.mpr (not_or.mpr ⟨hand, hor⟩))]

/-! ### The check of a tree -/

theorem failure?_validateAll (r : Registry) (ns : List Node) :
    failure? (r.validateAll ns) = ns.findSome? fun n => failure? (r.validate n) := by
  induction ns with
  | nil => rfl
  | cons n ns ih =>
    rw [validateAll, failure?_bind fun _ => ih, List.findSome?_cons]
    cases failure? (r.validate n) <;> rfl

theorem failure?_validate_condition (r : Registry) (c : Condition) :
    failure? (r.validate (.condition c)) = r.conditionFault? c := by
  rw [validate, conditionFault?]
  cases r.condition c.field c.operator c.value <;> rfl

/-- A group is checked before its members. -/
theorem failure?_validate_group (r : Registry) (word : LooseText) (members : List Node) :
    failure? (r.validate (.group word members)) =
      (r.nodeFault? (.group word members)).or (members.findSome? fun n => failure? (r.validate n)) := by
  rw [validate, nodeFault?, ← failure?_validateAll]
  cases Combinator.ofWord? word <;> rfl

/-- **The first fault in preorder** is the one that the check reports. -/
theorem failure?_validate (r : Registry) (n : Node) : failure? (r.validate n) = n.preorder.findSome? r.nodeFault? := by
  induction n using Node.members_induction with
  | everything => rfl
  | condition c =>
    rw [failure?_validate_condition, Node.preorder_condition, List.findSome?_singleton]
    rfl
  | group word members ih =>
    rw [failure?_validate_group, findSome?_congr ih, ← findSome?_flatMap, Node.preorder_group, List.findSome?_cons]
    cases r.nodeFault? (.group word members) <;> rfl

theorem validate_eq_ok_iff_failure? : r.validate n = .ok () ↔ failure? (r.validate n) = none := by
  rw [failure?_eq_none]
  exact ⟨fun h => ⟨_, h⟩, fun ⟨_, h⟩ => h⟩

theorem validate_eq_ok_iff : r.validate n = .ok () ↔ ∀ m ∈ n.preorder, r.Sound m := by
  rw [validate_eq_ok_iff_failure?, failure?_validate, List.findSome?_eq_none_iff]
  simp only [nodeFault?_eq_none_iff]

theorem validate_eq_error_iff : r.validate n = .error e ↔
    ∃ before m after, n.preorder = before ++ m :: after ∧ (∀ x ∈ before, r.Sound x) ∧ r.Faulty m e := by
  rw [← failure?_eq_some, failure?_validate, List.findSome?_eq_some_iff]
  simp only [nodeFault?_eq_none_iff, nodeFault?_eq_some_iff]
  constructor
  · rintro ⟨before, m, after, hsplit, hfaulty, hbefore⟩
    exact ⟨before, m, after, hsplit, hbefore, hfaulty⟩
  · rintro ⟨before, m, after, hsplit, hbefore, hfaulty⟩
    exact ⟨before, m, after, hsplit, hfaulty, hbefore⟩

end Registry
end FieldFilter
