import FieldFilter.Proofs.Filter.Order
import FieldFilter.Proofs.Value.WholeNumber

/-!
# FieldFilter.Proofs.Filter.Storage — how a whole number is stored

A whole number can stand in a record as an integer, as a double or as a text, and the last two also in settled form
(`Stores`).  All of them settle to a value with one text and one place in the order of doubles (`Counts`), and a
comparison sees nothing else of it (`Counts.compare_eq`).  So every condition has one answer on all of them, and the
integer's own text is equal to each (`holds_stored`).
-/

namespace FieldFilter

variable {n : Int} {v : Value} {s t : Scalar} {x y : Binary64} {word : LooseText} {r : Record}

/-- The value is the whole number in one of the ways to store it. -/
inductive Stores (n : Int) : Value → Prop
  | int : Stores n (.int n)
  | float {x : Binary64} : x.toInt? = some n → Stores n (.float x)
  | text : Stores n (.text n.repr)
  | number {x : Binary64} : x.toInt? = some n → Stores n (.scalar (.number x))
  | settledText : Stores n (.scalar (.text n.repr))

/-- The settled value has the text of the whole number, and it is that number. -/
structure Counts (n : Int) (s : Scalar) : Prop where
  text : s.toText = n.repr
  number : ∃ x, (Value.scalar s).toNumber = .ok x ∧ x.toInt? = some n

theorem counts_number (h : x.toInt? = some n) : Counts n (.number x) where
  text := congrArg LooseText.ofString (Binary64.toText_of_toInt? h)
  number := ⟨x, rfl, h⟩

theorem counts_text (h : n.natAbs ≤ 2 ^ 53) : Counts n (.text n.repr) where
  text := rfl
  number := by
    refine ⟨Value.textToNumber n.repr, ?_, Value.toInt?_textToNumber h⟩
    have hwritten : (Value.scalar (.text n.repr)).written = .ok (LooseText.ofString n.repr) := rfl
    simp only [Value.toNumber, hwritten, ok_bind, LooseText.whole?_ofString]
    rfl

namespace Stores

/-- **However it is stored, a whole number settles** to a value that counts as it. -/
theorem settle (h : n.natAbs ≤ 2 ^ 53) (hv : Stores n v) : ∃ s, v.settle = .ok (some s) ∧ Counts n s := by
  cases hv with
  | int =>
    have hexact : Binary64.Exact n := Binary64.exact_of_le h
    cases hx : Binary64.ofInt? n with
    | none => exact absurd ((Binary64.ofInt?_eq_none_iff n).mp hx) (Nat.not_le.mpr hexact.2)
    | some x =>
      obtain ⟨m, hm, hsame⟩ := Binary64.toInt?_of_ofInt? hx
      rw [hsame.mpr hexact] at hm
      refine ⟨.number x, ?_, counts_number hm⟩
      rw [Value.settle, Binary64.ofInt_of_ofInt? hx]
      rfl
  | float hx => exact ⟨_, rfl, counts_number hx⟩
  | text => exact ⟨_, rfl, counts_text h⟩
  | number hx => exact ⟨_, rfl, counts_number hx⟩
  | settledText => exact ⟨_, rfl, counts_text h⟩

theorem toText (hv : Stores n v) : v.toText = (Value.int n).toText := by
  cases hv with
  | int | text | settledText => rfl
  | float hx | number hx => exact (counts_number hx).text

theorem isWritable (h : n.natAbs ≤ 2 ^ 53) (hv : Stores n v) : v.isWritable = true := by
  cases hv with
  | int => exact Value.isWritable_int (Binary64.exact_of_le h).2
  | _ => rfl

/-- The text of a whole number is no date. -/
theorem day? (hv : Stores n v) : v.day? = none := by
  rw [← Value.day?_int n, Value.day?, Value.day?, hv.toText]

end Stores

namespace Counts

theorem rank?_eq (hx : x.toInt? = some n) (hy : y.toInt? = some n) : x.rank? = y.rank? := by
  have hplace := (Binary64.place?_of_toInt? hx).trans (Binary64.place?_of_toInt? hy).symm
  exact Option.map_injective toLex.injective hplace

/-- **A comparison sees only the number** in values that count as it. -/
theorem compare_eq (hs : Counts n s) (ht : Counts n t) (word : LooseText) (operand : Value) :
    compare word (.scalar s) operand = compare word (.scalar t) operand := by
  have htext : (Value.scalar s).written = (Value.scalar t).written :=
    congrArg Except.ok (hs.text.trans ht.text.symm)
  obtain ⟨x, hx, hxn⟩ := hs.number
  obtain ⟨y, hy, hyn⟩ := ht.number
  have hrank : x.rank? = y.rank? := rank?_eq hxn hyn
  unfold compare
  cases Operator.ofWord? word with
  | none => rfl
  | some op =>
    cases op <;> simp only [Operator.apply, Operator.numeric, Operator.textual, htext, hx, hy, bind, Except.bind, Binary64.lt,
      Binary64.le, hrank]

/-- An order test of the number against itself asks for the relation of its place to itself. -/
theorem compare_order {rel : Place → Place → Prop} (hword : OrderTest word rel) (hs : Counts n s)
    (ht : Counts n t) : ∃ found p, compare word (.scalar s) (.scalar t) = .ok found ∧ (found = true ↔ rel p p) := by
  obtain ⟨test, hcompare, htest⟩ := hword
  obtain ⟨x, hx, hxn⟩ := hs.number
  obtain ⟨y, hy, hyn⟩ := ht.number
  obtain ⟨p, hxp, hyp⟩ : ∃ p, x.place? = some p ∧ y.place? = some p :=
    ⟨_, Binary64.place?_of_toInt? hxn, Binary64.place?_of_toInt? hyn⟩
  refine ⟨test x y, p, ?_, ?_⟩
  · rw [hcompare, Operator.numeric, hx, hy]
    rfl
  · simp [htest, hxp, hyp]

theorem compare_reflexive {rel : Place → Place → Prop} (hword : OrderTest word rel) (hrel : ∀ p, rel p p)
    (hs : Counts n s) (ht : Counts n t) : compare word (.scalar s) (.scalar t) = .ok true := by
  obtain ⟨found, p, hfound, hiff⟩ := compare_order hword hs ht
  rw [hfound, hiff.mpr (hrel p)]

theorem compare_irreflexive {rel : Place → Place → Prop} (hword : OrderTest word rel) (hrel : ∀ p, ¬ rel p p)
    (hs : Counts n s) (ht : Counts n t) : compare word (.scalar s) (.scalar t) = .ok false := by
  obtain ⟨found, p, hfound, hiff⟩ := compare_order hword hs ht
  rw [hfound, Bool.eq_false_iff.mpr (mt hiff.mp (hrel p))]

/-- The number compares with itself as equal. -/
theorem compare_self (hs : Counts n s) (ht : Counts n t) :
    (∀ word ∈ ["=", ">=", "<=", "contains"], compare (word : String) (.scalar s) (.scalar t) = .ok true) ∧
      ∀ word ∈ ["!=", ">", "<"], compare (word : String) (.scalar s) (.scalar t) = .ok false := by
  have htext : (Value.scalar s).toText = (Value.scalar t).toText := hs.text.trans ht.text.symm
  simp only [List.mem_cons, List.not_mem_nil, or_false, forall_eq_or_imp, forall_eq]
  refine ⟨⟨?_, ?_, ?_, ?_⟩, ?_, ?_, ?_⟩
  · rw [compare_equal, htext, decide_eq_true rfl]
  · exact compare_reflexive orderTest_atLeast le_refl hs ht
  · exact compare_reflexive orderTest_atMost le_refl hs ht
  · rw [compare_contains, htext, LooseText.occursInAnyCase_iff.mpr (List.infix_refl _)]
  · rw [compare_notEqual, htext, decide_eq_false (not_not_intro rfl)]
  · exact compare_irreflexive orderTest_greater lt_irrefl hs ht
  · exact compare_irreflexive orderTest_less lt_irrefl hs ht

end Counts

/-- A condition on a whole number compares its settled value with the operand. -/
theorem Stores.holds (h : n.natAbs ≤ 2 ^ 53) {field : LooseText} (hv : Stores n (r.get field))
    (word operand : LooseText) :
    ∃ s, Counts n s ∧ (Condition.mk field word operand).holds r = compare word (.scalar s) (.scalar (.text operand)) := by
  obtain ⟨s, hs, hcounts⟩ := hv.settle h
  refine ⟨s, hcounts, ?_⟩
  rw [Condition.holds_settled (.inl hv.day?), Value.written_of_isWritable (hv.isWritable h), hs]
  rfl

/-- **How a whole number is stored does not matter**, up to `2 ^ 53` either way: every condition has one answer on
all records that hold it under the field, and with the text of the number as operand `=`, `>=`, `<=` and `contains`
hold and `!=`, `>` and `<` do not. -/
theorem holds_stored (n : Int) (h : n.natAbs ≤ 2 ^ 53) :
    (∀ c : Condition, ∃ found, ∀ r : Record, Stores n (r.get c.field) → (Node.condition c).holds r = .ok found) ∧
    ∀ (field : LooseText) (r : Record), Stores n (r.get field) →
      (∀ word ∈ ["=", ">=", "<=", "contains"],
        (Node.condition ⟨field, (word : String), n.repr⟩).holds r = .ok true) ∧
      ∀ word ∈ ["!=", ">", "<"],
        (Node.condition ⟨field, (word : String), n.repr⟩).holds r = .ok false := by
  have hown : Counts n (.text n.repr) := counts_text h
  constructor
  · intro c
    obtain ⟨found, hfound⟩ := compare_settled c.operator (some (.text n.repr)) (some (.text c.value))
    refine ⟨found, fun r hv => ?_⟩
    obtain ⟨s, hs, hholds⟩ := hv.holds h c.operator c.value
    exact hholds.trans ((hs.compare_eq hown _ _).trans hfound)
  · intro field r hv
    constructor
    · intro word hword
      obtain ⟨s, hs, hholds⟩ := hv.holds h word n.repr
      exact hholds.trans ((hs.compare_self hown).1 word hword)
    · intro word hword
      obtain ⟨s, hs, hholds⟩ := hv.holds h word n.repr
      exact hholds.trans ((hs.compare_self hown).2 word hword)

/-- The least integer in the exact range, as a text, as a double, as an integer and in settled form. -/
theorem holds_stored_least : (-9007199254740992 : Int).natAbs ≤ 2 ^ 53 ∧
    (Node.condition ⟨"a", ">=", "-9007199254740992"⟩).holds [("a", .text "-9007199254740992")] = .ok true ∧
    (Node.condition ⟨"a", "!=", "-9007199254740992"⟩).holds
      [("a", .float (.finite true (9007199254740992 * Binary64.unitsPerOne)))] = .ok false ∧
    (Node.condition ⟨"a", "contains", "71"⟩).holds [("a", .int (-9007199254740992))] =
      (Node.condition ⟨"a", "contains", "71"⟩).holds [("a", .scalar (.text "-9007199254740992"))] := by
  have hle : (-9007199254740992 : Int).natAbs ≤ 2 ^ 53 := by decide
  obtain ⟨hsame, hown⟩ := holds_stored (-9007199254740992) hle
  obtain ⟨found, hfound⟩ := hsame ⟨"a", "contains", "71"⟩
  have hfloat : Stores (-9007199254740992)
      (.float (.finite true (9007199254740992 * Binary64.unitsPerOne))) := .float (Binary64.toInt?_finite true _)
  refine ⟨hle, (hown "a" [("a", _)] .text).1 ">=" (by decide), (hown "a" [("a", _)] hfloat).2 "!=" (by decide), ?_⟩
  exact (hfound [("a", _)] .int).trans (hfound [("a", _)] .settledText).symm

end FieldFilter
