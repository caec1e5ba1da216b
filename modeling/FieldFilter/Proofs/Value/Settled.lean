import FieldFilter.Filter.Operator
import FieldFilter.Proofs.Number.Range

/-!
# FieldFilter.Proofs.Value.Settled — what comparison may see

A value can be compared if it can be written and settled.  What cannot is an integer past the doubles, or has an
integer of too many digits in it (`Value.FailsWith`), and the text of an integer is no date, so that no day stands in
for it.  Settled values compare under every word (`compare_settled`).
-/

namespace FieldFilter

variable {v : Value} {n : Int} {e : Incomparable}

theorem Binary64.ofInt_eq_elim :
    Binary64.ofInt = fun n => (Binary64.ofInt? n).elim (.error (.outOfRange n)) .ok := by
  -- opened as a function: at an argument the search for the double would be evaluated
  delta Binary64.ofInt
  funext n
  generalize Binary64.ofInt? n = found
  cases found <;> rfl

theorem Binary64.ofInt_eq_error_iff :
    Binary64.ofInt n = .error e ↔ e = .outOfRange n ∧ Binary64.ofInt? n = none := by
  simp only [Binary64.ofInt_eq_elim]
  generalize Binary64.ofInt? n = found
  cases found <;> simp [eq_comm]

/-- No double has nearly as many digits as are written. -/
theorem Binary64.intLimit_le : Binary64.intLimit ≤ integerLimit := by
  have hpow (i j : Nat) (h : i ≤ j) : 2 ^ i ≤ Nat.pow 10 j :=
    (Nat.pow_le_pow_left (by decide) i).trans (Nat.pow_le_pow_right (by decide) h)
  unfold integerLimit
  exact (Nat.sub_le ..).trans (hpow 1024 maxIntegerDigits (by decide))

namespace Value

/-! ### Integers are no dates -/

/-- A text whose characters after the first are digits has no place for the sign after the year. -/
theorem dateShape?_eq_none {s : List Char} (h : ∀ c ∈ s.tail, c.isDigit) : dateShape? s = none := by
  unfold dateShape?
  split
  · exact absurd (h '-' (by simp)) (by decide)
  · exact absurd (h '-' (by simp)) (by decide)
  · rfl

theorem isDigit_of_mem_tail_repr (n : Int) : ∀ c ∈ n.repr.toList.tail, c.isDigit := by
  intro c hc
  cases n with
  | ofNat m =>
    have hm : c ∈ (Nat.toDigits 10 m).tail := by simpa [Int.repr] using hc
    exact Nat.isDigit_of_mem_toDigits (by decide) (by decide) (List.mem_of_mem_tail hm)
  | negSucc m =>
    have hm : c ∈ Nat.toDigits 10 (m + 1) := by simpa [Int.repr] using hc
    exact Nat.isDigit_of_mem_toDigits (by decide) (by decide) hm

theorem day?_int (n : Int) : (int n).day? = none := by
  simp [day?, LooseText.day?, toText, literal, textToDay?, dateShape?_eq_none (isDigit_of_mem_tail_repr n)]

/-! ### The texts of integers -/

/-- The text of an integer is made of digits and a sign. -/
theorem mem_toText_int {mark : Mark} (h : mark ∈ (int n).toText.marks) :
    ∃ c, mark = .char c ∧ (c = '-' ∨ c.isDigit = true) := by
  obtain ⟨c, hc, rfl⟩ := List.mem_map.mp (show mark ∈ n.repr.toList.map .char from h)
  refine ⟨c, rfl, ?_⟩
  cases n with
  | ofNat k =>
    have hk : c ∈ Nat.toDigits 10 k := by simpa [Int.repr] using hc
    exact .inr (Nat.isDigit_of_mem_toDigits (by decide) (by decide) hk)
  | negSucc k =>
    have hk : c = '-' ∨ c ∈ Nat.toDigits 10 (k + 1) := by simpa [Int.repr] using hc
    exact hk.imp_right (Nat.isDigit_of_mem_toDigits (by decide) (by decide))

theorem toText_int_ne_nil (n : Int) : (int n).toText.marks ≠ [] := by
  show n.repr.toList.map Mark.char ≠ []
  cases n <;> simp [Int.repr]

/-! ### Values that can be written -/

theorem written_of_isWritable (h : v.isWritable = true) : v.written = .ok v.toText := if_pos h

theorem written_of_not (h : v.isWritable = false) : v.written = .error .numeralTooLong := by
  rw [written, h]
  rfl

/-- An integer that has a double near it can be written. -/
theorem isWritable_int (h : n.natAbs < Binary64.intLimit) : (int n).isWritable = true := by
  rw [isWritable, decide_eq_true_iff]
  exact Nat.lt_of_lt_of_le h Binary64.intLimit_le

@[simp] theorem isWritable_ofScalar? (s : Option Scalar) : (ofScalar? s).isWritable = true := by
  cases s <;> rfl

@[simp] theorem written_ofScalar? (s : Option Scalar) : (ofScalar? s).written = .ok (ofScalar? s).toText :=
  written_of_isWritable (isWritable_ofScalar? s)

/-! ### Values that cannot be compared -/

/-- What is wrong with a value that cannot be compared. -/
inductive FailsWith : Value → Incomparable → Prop
  | outOfRange {n : Int} : (int n).isWritable = true → Binary64.intLimit ≤ n.natAbs →
    FailsWith (int n) (.outOfRange n)
  | numeralTooLong {v : Value} : v.isWritable = false → FailsWith v .numeralTooLong

/-- The value can be compared: it is an integer in the range of doubles, or what is in it can be written. -/
def isComparable : Value → Bool
  | int n => decide (n.natAbs < Binary64.intLimit)
  | v => v.isWritable

theorem isComparable_int : (int n).isComparable = true ↔ n.natAbs < Binary64.intLimit := by
  rw [isComparable, decide_eq_true_iff]

theorem isComparable_of_ne_int (h : ∀ n, v ≠ int n) : v.isComparable = v.isWritable := by
  cases v with
  | int n => exact absurd rfl (h n)
  | _ => rfl

/-- **A value can be compared** just if nothing is wrong with it. -/
theorem isComparable_iff : v.isComparable = true ↔ ∀ e, ¬ v.FailsWith e := by
  by_cases hint : ∃ n, v = int n
  · obtain ⟨n, rfl⟩ := hint
    rw [isComparable_int]
    constructor
    · intro h e hfails
      cases hfails with
      | outOfRange _ hge => exact absurd h (Nat.not_lt.mpr hge)
      | numeralTooLong hno => exact nomatch (isWritable_int h).symm.trans hno
    · intro h
      refine Nat.not_le.mp fun hge => ?_
      cases hwritable : (int n).isWritable with
      | true => exact h _ (.outOfRange hwritable hge)
      | false => exact h _ (.numeralTooLong hwritable)
  · have hne : ∀ n, v ≠ int n := fun n h => hint ⟨n, h⟩
    rw [isComparable_of_ne_int hne]
    constructor
    · intro h e hfails
      cases hfails with
      | outOfRange => exact hne _ rfl
      | numeralTooLong hno => exact nomatch h.symm.trans hno
    · intro h
      exact Bool.not_eq_false _ |>.mp fun hno => h _ (.numeralTooLong hno)

/-! ### Settled forms -/

/-- **Of the values that can be written only an integer past the doubles** has no settled form. -/
theorem settle_eq_error_iff (h : v.isWritable = true) : v.settle = .error e ↔ v.FailsWith e := by
  by_cases hint : ∃ n, v = int n
  · obtain ⟨n, rfl⟩ := hint
    have hsettle : (int n).settle = .error e ↔ Binary64.ofInt n = .error e := by
      rw [settle]
      cases Binary64.ofInt n <;> simp [bind, Except.bind, pure, Except.pure]
    rw [hsettle, Binary64.ofInt_eq_error_iff, Binary64.ofInt?_eq_none_iff]
    constructor
    · rintro ⟨rfl, hge⟩
      exact .outOfRange h hge
    · intro hfails
      cases hfails with
      | outOfRange _ hge => exact ⟨rfl, hge⟩
      | numeralTooLong hno => exact nomatch h.symm.trans hno
  · refine iff_of_false ?_ fun hfails => ?_
    · cases v with
      | int n => exact absurd ⟨n, rfl⟩ hint
      | null | scalar | float => simp [settle]
      | _ => simp [settle, written_of_isWritable h]
    · cases hfails with
      | outOfRange => exact hint ⟨_, rfl⟩
      | numeralTooLong hno => exact nomatch h.symm.trans hno

/-- Settled values are numbers, or not a number, without fail. -/
theorem toNumber_ofScalar? (s : Option Scalar) : ∃ x, (ofScalar? s).toNumber = .ok x := by
  rcases s with _ | (s | x | x) <;> exact ⟨_, rfl⟩

end Value

/-- A test of texts goes through on settled values. -/
theorem Operator.textual_ofScalar? (test : LooseText → LooseText → Bool) (a b : Option Scalar) :
    textual test (.ofScalar? a) (.ofScalar? b) = .ok (test (Value.ofScalar? a).toText (Value.ofScalar? b).toText) := by
  rw [textual, Value.written_ofScalar?, Value.written_ofScalar?]
  rfl

/-- **Settled values compare** under every word. -/
theorem compare_settled (operator : LooseText) (a b : Option Scalar) :
    ∃ result, compare operator (.ofScalar? a) (.ofScalar? b) = .ok result := by
  obtain ⟨x, hx⟩ := Value.toNumber_ofScalar? a
  obtain ⟨y, hy⟩ := Value.toNumber_ofScalar? b
  unfold compare
  cases Operator.ofWord? operator with
  | none => exact ⟨false, rfl⟩
  | some op =>
    cases op with
    | contains | equal | notEqual => exact ⟨_, Operator.textual_ofScalar? _ a b⟩
    | greater | atLeast | less | atMost =>
      simp only [Operator.apply, Operator.numeric, hx, hy]
      exact ⟨_, rfl⟩

end FieldFilter
