import Mathlib.Data.List.Basic
import Mathlib.Logic.Relation
import FieldFilter.Proofs.Filter.Passing
import FieldFilter.Proofs.Filter.Total

/-!
# FieldFilter.Proofs.Filter.Meaning — what a tree means

A tree means that all members of its `and` groups hold, and some member of its `or` groups (`Node.Satisfied`).
Evaluation goes from left to right and stops early, but an answer that it gives is always this one
(`Node.satisfied_iff_of_holds`).  It gives one on every record whose integers are in range wherever the tree looks,
lists and objects with integers that cannot be written apart (`Record.InRangeOn.overlong`).  So a tree may be
rewritten at any depth (`Node.Rewrites`), and only the fields that it names count (`meaning_of_holds`).
-/

namespace FieldFilter

/-- The value is no list and no object. -/
def Value.isScalar : Value → Bool
  | list _ | object _ => false
  | _ => true

/-- No field that the tree names holds an integer past the doubles. -/
def Record.InRangeOn (r : Record) (n : Node) : Prop :=
  ∀ c ∈ n.conditions, ∀ k, r.get c.field = .int k → k.natAbs < Binary64.intLimit

/-- Some field that the tree names holds a list or an object with an integer in it that has more digits than are
written. -/
def Record.Overlong (r : Record) (n : Node) : Prop :=
  ∃ c ∈ n.conditions, (r.get c.field).isScalar = false ∧ (r.get c.field).isWritable = false

namespace Node

/-- What a tree means, where it is known which conditions hold.  A group that is joined by any other word than
`and` or `or` means nothing that could hold. -/
inductive Satisfied (sat : Condition → Prop) : Node → Prop
  | everything : Satisfied sat .everything
  | condition {c : Condition} : sat c → Satisfied sat (.condition c)
  | all {ns : List Node} : (∀ n ∈ ns, Satisfied sat n) → Satisfied sat (.group Combinator.and.word ns)
  | some {ns : List Node} {n : Node} : n ∈ ns → Satisfied sat n → Satisfied sat (.group Combinator.or.word ns)

/-- A change in the form of a tree, at any depth. -/
inductive Rewrites : Node → Node → Prop
  /-- The members of a group change places, or are repeated. -/
  | members {c : Combinator} {ns ms : List Node} : (∀ n, n ∈ ns ↔ n ∈ ms) →
    Rewrites (.group c.word ns) (.group c.word ms)
  /-- A group inside one of the same combinator gives way to its members; one without members is dropped. -/
  | flatten {c : Combinator} {us ns vs : List Node} :
    Rewrites (.group c.word (us ++ .group c.word ns :: vs)) (.group c.word (us ++ ns ++ vs))
  /-- A group of one member gives way to the member. -/
  | unwrap {c : Combinator} {n : Node} : Rewrites (.group c.word [n]) n
  /-- A member of any group is changed. -/
  | inside {word : LooseText} {us vs : List Node} {n m : Node} : Rewrites n m →
    Rewrites (.group word (us ++ n :: vs)) (.group word (us ++ m :: vs))

variable {sat : Condition → Prop} {r r' : Record} {c : Condition} {n m : Node} {ns ms : List Node}
  {word : LooseText}

/-! ### Meanings of groups -/

theorem satisfied_condition : (condition c).Satisfied sat ↔ sat c :=
  ⟨fun h => by cases h; assumption, .condition⟩

theorem satisfied_all : (group Combinator.and.word ns).Satisfied sat ↔ ∀ n ∈ ns, n.Satisfied sat :=
  ⟨fun h => by cases h; assumption, .all⟩

theorem satisfied_some : (group Combinator.or.word ns).Satisfied sat ↔ ∃ n ∈ ns, n.Satisfied sat :=
  ⟨fun h => by cases h; exact ⟨_, by assumption, by assumption⟩, fun ⟨_, hn, h⟩ => .some hn h⟩

theorem not_satisfied_unknown (h : Combinator.ofWord? word = none) : ¬ (group word ns).Satisfied sat := by
  intro hs
  cases hs <;> cases h

/-! ### Evaluation -/

theorem iff_of_allHold {P : Node → Prop} {b : Bool} (h : allHold r ns = .ok b)
    (hmembers : ∀ n ∈ ns, ∀ b, n.holds r = .ok b → (b = true ↔ P n)) : b = true ↔ ∀ n ∈ ns, P n := by
  induction ns with
  | nil =>
    cases h
    simp
  | cons n ns ih =>
    obtain ⟨first, hn, hrest⟩ := bind_eq_ok.mp h
    rw [List.forall_mem_cons, ← hmembers n List.mem_cons_self first hn]
    cases first with
    | false =>
      cases hrest
      simp
    | true => simpa using ih hrest fun m hm => hmembers m (List.mem_cons_of_mem n hm)

theorem iff_of_someHolds {P : Node → Prop} {b : Bool} (h : someHolds r ns = .ok b)
    (hmembers : ∀ n ∈ ns, ∀ b, n.holds r = .ok b → (b = true ↔ P n)) : b = true ↔ ∃ n ∈ ns, P n := by
  induction ns with
  | nil =>
    cases h
    simp
  | cons n ns ih =>
    obtain ⟨first, hn, hrest⟩ := bind_eq_ok.mp h
    rw [List.exists_mem_cons_iff, ← hmembers n List.mem_cons_self first hn]
    cases first with
    | true =>
      cases hrest
      simp
    | false => simpa using ih hrest fun m hm => hmembers m (List.mem_cons_of_mem n hm)

end Node

theorem Combinator.eq_word_of_ofWord? {word : LooseText} {c : Combinator} (h : ofWord? word = some c) :
    word = c.word := by
  unfold ofWord? at h
  split_ifs at h with hand hor
  · cases h
    exact hand
  · cases h
    exact hor

/-- **An answer is what the tree means**, on whatever record it is given. -/
theorem Node.satisfied_iff_of_holds {r : Record} {n : Node} {b : Bool} (h : n.holds r = .ok b) :
    b = true ↔ n.Satisfied fun c => c.Passes r := by
  induction n using Node.members_induction generalizing b with
  | everything =>
    cases h
    simp [Node.Satisfied.everything]
  | condition c =>
    have hc : c.holds r = .ok b := h
    rw [Node.satisfied_condition, Condition.Passes, hc, Except.ok.injEq]
  | group word ns ih =>
    cases hword : Combinator.ofWord? word with
    | none =>
      rw [Node.holds, hword] at h
      cases h
      simp [Node.not_satisfied_unknown hword]
    | some combinator =>
      rw [Node.holds, hword] at h
      obtain rfl := Combinator.eq_word_of_ofWord? hword
      cases combinator with
      | and =>
        rw [Node.satisfied_all]
        exact Node.iff_of_allHold h fun n hn b hb => ih n hn hb
      | or =>
        rw [Node.satisfied_some]
        exact Node.iff_of_someHolds h fun n hn b hb => ih n hn hb

/-- A scalar in range can be written. -/
theorem Value.isWritable_of_isScalar {v : Value} (h : v.isScalar = true)
    (hrange : ∀ k, v = .int k → k.natAbs < Binary64.intLimit) : v.isWritable = true := by
  cases v with
  | int k => exact isWritable_int (hrange k rfl)
  | list | object => cases h
  | _ => rfl

/-- **Where the tree looks in range** evaluation fails only on what is inside a list or an object. -/
theorem Record.InRangeOn.overlong {r : Record} {n : Node} {e : Incomparable} (h : r.InRangeOn n)
    (hfail : n.holds r = .error e) : e = .numeralTooLong ∧ r.Overlong n := by
  obtain ⟨c, hc, hfails⟩ := Node.field_of_holds_eq_error hfail
  have hrange := h c hc
  unfold Record.Overlong
  generalize hv : r.get c.field = v at hfails hrange
  cases hfails with
  | outOfRange _ hge => exact absurd (hrange _ rfl) (Nat.not_lt.mpr hge)
  | numeralTooLong hno =>
    refine ⟨rfl, c, hc, ?_, hv ▸ hno⟩
    rw [hv]
    refine Bool.eq_false_iff.mpr fun hscalar => ?_
    exact nomatch hno.symm.trans (Value.isWritable_of_isScalar hscalar hrange)

namespace Node

variable {sat : Condition → Prop} {r r' : Record} {c : Combinator} {n m : Node} {us ns vs : List Node}

/-! ### Rewriting -/

/-- A rewritten tree looks at the same conditions. -/
theorem Rewrites.mem_conditions (h : Rewrites n m) (x : Condition) : x ∈ n.conditions ↔ x ∈ m.conditions := by
  induction h with
  | members hmem => simp [hmem]
  | flatten => simp
  | unwrap => simp
  | inside _ ih => simp [ih]

theorem satisfied_flatten : (group c.word (us ++ group c.word ns :: vs)).Satisfied sat ↔
    (group c.word (us ++ ns ++ vs)).Satisfied sat := by
  cases c with
  | and => simp [satisfied_all, or_imp, forall_and]
  | or => simp [satisfied_some, or_and_right, exists_or]

theorem satisfied_inside {word : LooseText} (h : n.Satisfied sat ↔ m.Satisfied sat) :
    (group word (us ++ n :: vs)).Satisfied sat ↔ (group word (us ++ m :: vs)).Satisfied sat := by
  cases hword : Combinator.ofWord? word with
  | none => exact iff_of_false (not_satisfied_unknown hword) (not_satisfied_unknown hword)
  | some c =>
    obtain rfl := Combinator.eq_word_of_ofWord? hword
    cases c with
    | and => simp [satisfied_all, or_imp, forall_and, h]
    | or => simp [satisfied_some, or_and_right, exists_or, h]

/-- **A rewritten tree means the same.** -/
theorem Rewrites.satisfied_iff (h : Rewrites n m) : n.Satisfied sat ↔ m.Satisfied sat := by
  induction h with
  | @members c ns ms hmem => cases c <;> simp [satisfied_all, satisfied_some, hmem]
  | flatten => exact satisfied_flatten
  | @unwrap c n => cases c <;> simp [satisfied_all, satisfied_some]
  | inside _ ih => exact satisfied_inside ih

/-- What every rewriting keeps is the same for trees that rewritings join. -/
theorem iff_of_eqvGen {P : Node → Prop} (hstep : ∀ n m, Rewrites n m → (P n ↔ P m))
    (h : Relation.EqvGen Rewrites n m) : P n ↔ P m := by
  have hequiv : Equivalence fun n m : Node => (P n ↔ P m) := ⟨fun _ => .rfl, .symm, .trans⟩
  exact hequiv.eqvGen_iff.mp (Relation.EqvGen.mono hstep _ _ h)

theorem mem_conditions_of_eqvGen (h : Relation.EqvGen Rewrites n m) (x : Condition) :
    x ∈ n.conditions ↔ x ∈ m.conditions :=
  iff_of_eqvGen (fun _ _ hstep => hstep.mem_conditions x) h

theorem satisfied_iff_of_eqvGen (h : Relation.EqvGen Rewrites n m) : n.Satisfied sat ↔ m.Satisfied sat :=
  iff_of_eqvGen (fun _ _ hstep => hstep.satisfied_iff) h

/-! ### Records that agree -/

/-- **Only the fields that a tree names count.** -/
theorem holds_agree (h : ∀ c ∈ n.conditions, r'.get c.field = r.get c.field) : n.holds r' = n.holds r := by
  induction n using members_induction with
  | everything => rfl
  | condition c =>
    have hfield : r'.get c.field = r.get c.field := h c (by simp)
    simp only [holds, Condition.holds, hfield]
  | group word ns ih =>
    have hmembers : ∀ n ∈ ns, n.holds r' = n.holds r :=
      fun n hn => ih n hn fun c hc => h c (by simpa using ⟨n, hn, hc⟩)
    exact holds_group_congr (List.map_congr_left hmembers)

/-! ### The law of trees -/

/-- Two conditions under groups that add nothing to them. -/
def wrapped : Node :=
  .group "and" [.group "or" [.condition ⟨"age", ">", "30"⟩, .group "or" [.condition ⟨"name", "=", "Eve"⟩]],
    .group "and" []]

/-- The same two, the other way round. -/
def swapped : Node := .group "or" [.condition ⟨"name", "=", "Eve"⟩, .condition ⟨"age", ">", "30"⟩]

/-- A record with an integer past the doubles in a field that they do not name. -/
def tall : Record := [("age", .int 31), ("name", .text "Ada"), ("size", .int (2 ^ 1024))]

theorem wrapped_rewrites : Relation.EqvGen Rewrites wrapped swapped := by
  let age : Node := .condition ⟨"age", ">", "30"⟩
  let name : Node := .condition ⟨"name", "=", "Eve"⟩
  have hdrop : Rewrites wrapped (.group "and" [.group "or" [age, .group "or" [name]]]) :=
    @Rewrites.flatten .and [.group "or" [age, .group "or" [name]]] [] []
  have hflatten : Rewrites (.group "or" [age, .group "or" [name]]) (.group "or" [age, name]) :=
    @Rewrites.flatten .or [age] [name] []
  have hswap : Rewrites (.group "or" [age, name]) swapped :=
    @Rewrites.members .or [age, name] [name, age] fun n => by simp [or_comm]
  exact .trans _ _ _ (.rel _ _ hdrop) (.trans _ _ _ (.rel _ _ (.unwrap (c := .and)))
    (.trans _ _ _ (.rel _ _ hflatten) (.rel _ _ hswap)))

end Node
end FieldFilter
