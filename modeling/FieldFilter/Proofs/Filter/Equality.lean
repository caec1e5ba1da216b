import Std.Data.String.ToInt
import FieldFilter.Filter.Evaluate
import FieldFilter.Proofs.Attempt
import FieldFilter.Proofs.Number.Exact
import FieldFilter.Proofs.Value.Settled

/-!
# FieldFilter.Proofs.Filter.Equality — equality of texts

Where the two sides are not both dates, a test of texts is about the text of the settled value and the operand
(`Condition.holds_textual`).  Settling keeps the text of every value that can be written but that of an integer that
is no double, so just for the others equality is that of texts (`equality_iff`).
-/

namespace FieldFilter

variable {r : Record} {field operand : LooseText} {v : Value} {n m : Int} {x : Binary64}

/-! ### Settled texts -/

theorem Binary64.ofInt_of_ofInt? (h : Binary64.ofInt? n = some x) : Binary64.ofInt n = .ok x := by
  simp only [Binary64.ofInt_eq_elim]
  generalize Binary64.ofInt? n = found at h ⊢
  rw [h]
  rfl

/-- A double that is an integer has its text. -/
theorem Binary64.toText_of_toInt? (h : x.toInt? = some m) : x.toText = toString m := by
  cases x with
  | nan => nomatch h
  | infinity negative => nomatch h
  | finite negative units => simp only [Binary64.toText, h]

namespace Value

/-- The text of a value in its settled form, if the value can be written and settled. -/
def settledText (v : Value) : Except Incomparable LooseText :=
  v.written >>= fun _ => v.settle.map fun s => (ofScalar? s).toText

/-- Settling loses nothing of the value: it is an integer that is a double, or else it can be written. -/
def Exact : Value → Prop
  | int n => Binary64.Exact n
  | v => v.isWritable = true

/-- Different integers have different texts. -/
theorem toText_int_inj : (int n).toText = (int m).toText ↔ n = m := by
  have htext : ∀ k, (int k).toText.marks = k.repr.toList.map .char := fun _ => rfl
  refine ⟨fun h => ?_, fun h => by rw [h]⟩
  have hmarks := congrArg LooseText.marks h
  rw [htext, htext, List.map_inj_right fun a b heq => Mark.char.inj heq, String.toList_inj] at hmarks
  exact Int.repr_inj.mp hmarks

/-- A settled integer has the text of an integer, its own just if it is a double. -/
theorem settledText_int (h : n.natAbs < Binary64.intLimit) :
    ∃ m, (int n).settledText = .ok (int m).toText ∧ (m = n ↔ Binary64.Exact n) := by
  cases hx : Binary64.ofInt? n with
  | none => exact absurd ((Binary64.ofInt?_eq_none_iff n).mp hx) (Nat.not_le.mpr h)
  | some x =>
    obtain ⟨m, hm, hexact⟩ := Binary64.toInt?_of_ofInt? hx
    have hsettle : (int n).settle = .ok (some (.number x)) := by
      rw [settle, Binary64.ofInt_of_ofInt? hx]
      rfl
    have htext : (ofScalar? (some (.number x))).toText = (int m).toText :=
      congrArg LooseText.ofString (Binary64.toText_of_toInt? hm)
    refine ⟨m, ?_, hexact⟩
    rw [settledText, written_of_isWritable (isWritable_int h), hsettle, ← htext]
    rfl

/-- A value that cannot be compared has no settled text. -/
theorem settledText_of_failsWith {e : Incomparable} (h : v.FailsWith e) : v.settledText = .error e := by
  unfold settledText
  cases h with
  | numeralTooLong hno =>
    rw [written_of_not hno]
    rfl
  | outOfRange hwritable hge =>
    rw [written_of_isWritable hwritable, (settle_eq_error_iff hwritable).mpr (.outOfRange hwritable hge)]
    rfl

/-- What is no integer keeps its text, if it can be written. -/
theorem settledText_of_ne_int (hne : ∀ n, v ≠ int n) (h : v.isWritable = true) : v.settledText = .ok v.toText := by
  have hsettle : v.settle.map (fun s => (ofScalar? s).toText) = .ok v.toText := by
    cases v with
    | int n => exact absurd rfl (hne n)
    | null | scalar | float => rfl
    | _ =>
      simp only [settle, written_of_isWritable h]
      rfl
  rw [settledText, written_of_isWritable h, ok_bind, hsettle]

/-- Only what can be written has a settled text. -/
theorem isWritable_of_settledText {s : LooseText} (h : v.settledText = .ok s) : v.isWritable = true := by
  by_contra hno
  exact nomatch h.symm.trans (settledText_of_failsWith (.numeralTooLong (Bool.eq_false_iff.mpr hno)))

theorem exact_iff_of_ne_int (hne : ∀ n, v ≠ int n) : v.Exact ↔ v.isWritable = true := by
  cases v with
  | int n => exact absurd rfl (hne n)
  | _ => rfl

/-- **Settling keeps the text** of a value just if it loses nothing of it. -/
theorem settledText_eq_iff : v.settledText = .ok v.toText ↔ v.Exact := by
  by_cases hint : ∃ n, v = int n
  · obtain ⟨n, rfl⟩ := hint
    rcases Nat.lt_or_ge n.natAbs Binary64.intLimit with hlt | hge
    · obtain ⟨m, hm, hexact⟩ := settledText_int hlt
      rw [hm, Except.ok.injEq, toText_int_inj, Exact, hexact]
    · refine iff_of_false (fun h => ?_) fun h => absurd h.2 (Nat.not_lt.mpr hge)
      obtain ⟨e, hfails⟩ : ∃ e, (int n).FailsWith e := by
        cases hwritable : (int n).isWritable with
        | true => exact ⟨_, .outOfRange hwritable hge⟩
        | false => exact ⟨_, .numeralTooLong hwritable⟩
      exact nomatch (settledText_of_failsWith hfails).symm.trans h
  · have hne : ∀ n, v ≠ int n := fun n h => hint ⟨n, h⟩
    rw [exact_iff_of_ne_int hne]
    cases hwritable : v.isWritable with
    | true => exact iff_of_true (settledText_of_ne_int hne hwritable) rfl
    | false =>
      rw [settledText_of_failsWith (.numeralTooLong hwritable)]
      exact iff_of_false nofun nofun

end Value

/-! ### Tests of texts -/

/-- The value and the operand do not both have the form of a date. -/
def NotBothDates (v : Value) (operand : LooseText) : Prop := v.day? = none ∨ (Value.text operand).day? = none

/-- An operand that has the text of an integer is no date. -/
theorem notBothDates_int (n : Int) (operand : LooseText) : NotBothDates (.int n) operand := .inl (Value.day?_int n)

/-- Under a word for a test of texts, settled values are compared by their texts. -/
def TextTest (word : LooseText) (test : LooseText → LooseText → Bool) : Prop :=
  ∀ a b : Option Scalar, compare word (.ofScalar? a) (.ofScalar? b) =
    .ok (test (Value.ofScalar? a).toText (Value.ofScalar? b).toText)

theorem textTest_equal : TextTest "=" fun s t => decide (s = t) :=
  Operator.textual_ofScalar? fun s t => s == t

theorem textTest_notEqual : TextTest "!=" fun s t => decide (s ≠ t) := fun a b =>
  (Operator.textual_ofScalar? (fun s t => s != t) a b).trans (congrArg Except.ok decide_not.symm)

theorem compare_equal (s t : Scalar) : compare "=" (.scalar s) (.scalar t) =
    .ok (decide ((Value.scalar s).toText = (Value.scalar t).toText)) := textTest_equal (some s) (some t)

theorem compare_notEqual (s t : Scalar) : compare "!=" (.scalar s) (.scalar t) =
    .ok (decide ((Value.scalar s).toText ≠ (Value.scalar t).toText)) := textTest_notEqual (some s) (some t)

/-- Where the sides are not both dates, the settled value is compared with the operand. -/
theorem Condition.holds_settled {word : LooseText} (h : NotBothDates (r.get field) operand) :
    (Condition.mk field word operand).holds r = (r.get field).written >>= fun _ =>
      (r.get field).settle >>= fun left => compare word (.ofScalar? left) (.ofScalar? (some (.text operand))) := by
  unfold holds
  dsimp only
  generalize r.get field = v at h ⊢
  cases hwritable : v.isWritable with
  | false =>
    rw [Value.written_of_not hwritable]
    rfl
  | true =>
    have hday : v.toText.day? = v.day? := rfl
    have hoperand : operand.day? = (Value.text operand).day? := rfl
    rw [Value.written_of_isWritable hwritable, ok_bind, ok_bind, hday, hoperand]
    rcases h with h | h
    · rw [h]
      rfl
    · rw [h]
      cases v.day? <;> rfl

/-- Where the sides are not both dates, a test of texts is about the text of the settled value and the operand. -/
theorem Condition.holds_textual {word : LooseText} {test : LooseText → LooseText → Bool}
    (hword : TextTest word test) (h : NotBothDates (r.get field) operand) :
    (Condition.mk field word operand).holds r = (r.get field).settledText.map fun s => test s operand := by
  rw [holds_settled h, Value.settledText]
  cases (r.get field).written with
  | error e => rfl
  | ok text =>
    cases (r.get field).settle with
    | error e => rfl
    | ok left => exact hword _ _

theorem Condition.holds_equal (h : NotBothDates (r.get field) operand) :
    (Condition.mk field "=" operand).holds r = (r.get field).settledText.map fun s => decide (s = operand) :=
  holds_textual textTest_equal h

theorem Condition.holds_notEqual (h : NotBothDates (r.get field) operand) :
    (Condition.mk field "!=" operand).holds r = (r.get field).settledText.map fun s => decide (s ≠ operand) :=
  holds_textual textTest_notEqual h

/-! ### The law of equality -/

/-- An integer is equal to its own text just if it is a double. -/
theorem Condition.holds_equal_int_iff (hn : r.get field = .int n) :
    (Condition.mk field "=" (Value.int n).toText).holds r = .ok true ↔ Binary64.Exact n := by
  have hown : (Value.int n).settledText = .ok (Value.int n).toText ↔ Binary64.Exact n := Value.settledText_eq_iff
  rw [holds_equal (hn ▸ notBothDates_int n _), hn, ← hown]
  cases (Value.int n).settledText with
  | error e => simp [Except.map]
  | ok s => simp [Except.map]

/-- **Equality is that of texts**, where the sides are not both dates, for every operand just if the value is an
integer that is a double, of at most 53 significant bits and in range, or else can be written.  An integer that is
no double is not even equal to its own text; up to `2 ^ 53` there is no such integer. -/
theorem equality_iff (r : Record) (field : LooseText) :
    ((∀ operand, NotBothDates (r.get field) operand →
        (Condition.mk field "=" operand).holds r = .ok (decide ((r.get field).toText = operand)) ∧
        (Condition.mk field "!=" operand).holds r = .ok (decide ((r.get field).toText ≠ operand))) ↔
      (r.get field).Exact) ∧
    (∀ n : Int, (Condition.mk field "=" (toString n : String)).holds ((field, .int n) :: r) = .ok true ↔
      Binary64.Exact n) ∧
    ∀ n : Int, n.natAbs ≤ 2 ^ 53 →
      (Condition.mk field "=" (toString n : String)).holds ((field, .int n) :: r) = .ok true := by
  have hown : ∀ n : Int, (Condition.mk field "=" (toString n : String)).holds ((field, .int n) :: r) = .ok true ↔
      Binary64.Exact n :=
    fun n => Condition.holds_equal_int_iff (by simp [Record.get])
  refine ⟨⟨fun h => ?_, fun hexact operand h => ?_⟩, hown, fun n hn => (hown n).mpr (Binary64.exact_of_le hn)⟩
  · by_cases hint : ∃ n, r.get field = .int n
    · obtain ⟨n, hraw⟩ := hint
      have hlaw := (h (Value.int n).toText (hraw ▸ notBothDates_int n _)).1
      rw [hraw, decide_eq_true rfl] at hlaw
      rw [hraw]
      exact (Condition.holds_equal_int_iff hraw).mp hlaw
    · -- any operand that is no date has an answer, so the value can be written
      have hnone : NotBothDates (r.get field) "x" := .inr (by rfl)
      have hlaw := (h "x" hnone).1
      rw [Condition.holds_equal hnone] at hlaw
      rw [Value.exact_iff_of_ne_int fun n hn => hint ⟨n, hn⟩]
      cases htext : (r.get field).settledText with
      | ok s => exact Value.isWritable_of_settledText htext
      | error e =>
        rw [htext] at hlaw
        cases hlaw
  · rw [Condition.holds_equal h, Condition.holds_notEqual h, Value.settledText_eq_iff.mpr hexact]
    exact ⟨rfl, rfl⟩

/-- A record with a whole double. -/
def aged : Record := [("age", .float (.finite false (31 * Binary64.unitsPerOne)))]

theorem equality_iff_aged : NotBothDates (aged.get "age") "31" ∧
    (Condition.mk "age" "=" "31").holds aged = .ok true ∧ (Condition.mk "age" "!=" "31").holds aged = .ok false ∧
    (Condition.mk "age" "=" "-7").holds (("age", .int (-7)) :: aged) = .ok true := by
  have hdates : NotBothDates (aged.get "age") "31" := .inr (by rfl)
  have htext : (aged.get "age").toText = "31" := by decide +kernel
  obtain ⟨hlaw, -, hsmall⟩ := equality_iff aged "age"
  obtain ⟨hequal, hnotEqual⟩ := hlaw.mpr (by rfl) "31" hdates
  rw [htext] at hequal hnotEqual
  exact ⟨hdates, hequal, hnotEqual, hsmall (-7) (by decide)⟩

/-- The least integer that is no double is not equal to its own text. -/
theorem holds_equal_odd :
    (Condition.mk "a" "=" "9007199254740993").holds [("a", .int 9007199254740993)] = .ok false := by
  decide +kernel

end FieldFilter
