import FieldFilter.Proofs.Filter.Order

/-!
# FieldFilter.Proofs.Filter.Chronology — dates compare in their order

Existing dates are ordered like their texts, and their milliseconds are exact integers, so that every test on the
texts of two of them tells how these texts are ordered, or whether they are the same (`dates_compare_as_texts`).
-/

namespace FieldFilter

variable {r : Record} {field word : LooseText} {a b : LooseText} {d e : Date} {x y : Binary64} {n m : Int}
  {rel : Place → Place → Prop}

/-! ### Places of dates -/

theorem Date.IsValid.place_lt_iff (hd : d.IsValid) (he : e.IsValid) : d.place < e.place ↔ d.text < e.text := by
  have hunits : (0 : Int) < Binary64.unitsPerOne := by decide +kernel
  rw [hd.text_lt_iff he, ← hd.millis_lt_iff he, place, place, Prod.Lex.toLex_lt_toLex,
    Int.mul_lt_mul_right hunits]
  simp

theorem Date.IsValid.place_le_iff (hd : d.IsValid) (he : e.IsValid) : d.place ≤ e.place ↔ d.text ≤ e.text := by
  rw [← not_lt, ← not_lt, he.place_lt_iff hd]

/-- An order test on the texts of two existing dates asks how the places of these are related. -/
theorem Condition.holds_dates {P : Prop} [Decidable P] (hword : OrderTest word rel)
    (hraw : r.get field = .text d.text) (hd : d.IsValid) (he : e.IsValid) (hrel : rel d.place e.place ↔ P) :
    (Condition.mk field word e.text).holds r = .ok (decide P) := by
  have hdName : LooseText.Names d.text d := LooseText.names_iff.mpr ⟨hd, rfl⟩
  have heName : LooseText.Names e.text e := LooseText.names_iff.mpr ⟨he, rfl⟩
  obtain ⟨found, hholds, hfound⟩ := Condition.holds_order hword hraw
  rw [hholds, Except.ok.injEq, Bool.eq_iff_iff, hfound, LooseText.related_iff hdName.place? heName.place?, hrel,
    decide_eq_true_iff]

/-- On a text in the form of a date no order test is true, unless it and the operand are existing dates. -/
theorem Condition.holds_shaped (hword : OrderTest word rel) (hraw : r.get field = .text a) (ha : a.DateShaped)
    (hnone : ¬ (a.IsDay ∧ b.IsDay)) : (Condition.mk field word b).holds r = .ok false := by
  obtain ⟨found, hholds, hfound⟩ := Condition.holds_order hword hraw
  have hapart : ¬ LooseText.Related rel a b := by
    rintro ⟨scale, p, q, hp, hq, -⟩
    rcases LooseText.sameScale_iff.mp ⟨scale, p, q, hp, hq⟩ with hdays | ⟨hnumber, -⟩
    · exact hnone hdays
    · exact ha.isDate hnumber.day?
  rw [hholds, Bool.eq_false_iff.mpr (mt hfound.mp hapart)]

/-! ### Equality of dates -/

/-- Days are the same text just if they have the same milliseconds. -/
theorem toText_date_eq_iff (hx : x.toInt? = some n) (hy : y.toInt? = some m) :
    (Value.scalar (.date x)).toText = (Value.scalar (.date y)).toText ↔ n = m := by
  have htext : ∀ {x : Binary64} {n : Int}, x.toInt? = some n →
      (Value.scalar (.date x)).toText = (Value.int n).toText :=
    fun h => congrArg LooseText.ofString (Binary64.toText_of_toInt? h)
  rw [htext hx, htext hy, Value.toText_int_inj]

theorem Condition.holds_equal_dates (hraw : r.get field = .text d.text) (hd : d.IsValid) (he : e.IsValid) :
    (Condition.mk field "=" e.text).holds r = .ok (decide (d.text = e.text)) ∧
      (Condition.mk field "!=" e.text).holds r = .ok (decide (d.text ≠ e.text)) := by
  obtain ⟨x, hx, hxn⟩ := (LooseText.names_iff.mpr ⟨hd, rfl⟩ : LooseText.Names d.text d).day?
  obtain ⟨y, hy, hyn⟩ := (LooseText.names_iff.mpr ⟨he, rfl⟩ : LooseText.Names e.text e).day?
  have hsame : (Value.scalar (.date x)).toText = (Value.scalar (.date y)).toText ↔ d.text = e.text := by
    rw [toText_date_eq_iff hxn hyn, hd.millis_inj he, hd.text_inj he]
  rw [holds_days hraw hx hy, holds_days hraw hx hy, compare_equal, compare_notEqual]
  exact ⟨congrArg Except.ok (decide_eq_decide.mpr hsame), congrArg Except.ok (decide_eq_decide.mpr (not_congr hsame))⟩

/-! ### The law of dates -/

/-- **Dates compare like their texts** on a record that holds the text of one.  Each order test with the text of
another gives the order of the two texts, and the tests for equality tell whether they are the same.  If both have
the form of a date but one is no existing date, no order test is true.  The milliseconds of an existing date are an
integer below `2 ^ 53` in magnitude, and the double that stands for the date is this integer. -/
theorem dates_compare_as_texts (r : Record) (field : LooseText) (a b : String) (hraw : r.get field = .text a) :
    (LooseText.IsDay a → LooseText.IsDay b →
      (Condition.mk field ">" b).holds r = .ok (decide (a > b)) ∧
      (Condition.mk field ">=" b).holds r = .ok (decide (a ≥ b)) ∧
      (Condition.mk field "<" b).holds r = .ok (decide (a < b)) ∧
      (Condition.mk field "<=" b).holds r = .ok (decide (a ≤ b)) ∧
      (Condition.mk field "=" b).holds r = .ok (decide (a = b)) ∧
      (Condition.mk field "!=" b).holds r = .ok (decide (a ≠ b))) ∧
    (LooseText.DateShaped a → LooseText.DateShaped b → ¬ (LooseText.IsDay a ∧ LooseText.IsDay b) →
      (Condition.mk field ">" b).holds r = .ok false ∧ (Condition.mk field ">=" b).holds r = .ok false ∧
      (Condition.mk field "<" b).holds r = .ok false ∧ (Condition.mk field "<=" b).holds r = .ok false) ∧
    ∀ d : Date, d.IsValid → ∃ x, (Value.text d.text).day? = some x ∧ x.toInt? = some d.millis ∧
      d.millis.natAbs < 2 ^ 53 := by
  refine ⟨?_, fun ha _ hnone => ?_, fun d hd => ?_⟩
  · rintro ⟨d, hd, ha⟩ ⟨e, he, hb⟩
    obtain rfl : a = d.text := LooseText.ofString_inj.mp ha
    obtain rfl : b = e.text := LooseText.ofString_inj.mp hb
    exact ⟨Condition.holds_dates orderTest_greater hraw hd he (he.place_lt_iff hd),
      Condition.holds_dates orderTest_atLeast hraw hd he (he.place_le_iff hd),
      Condition.holds_dates orderTest_less hraw hd he (hd.place_lt_iff he),
      Condition.holds_dates orderTest_atMost hraw hd he (hd.place_le_iff he),
      Condition.holds_equal_dates hraw hd he⟩
  · exact ⟨Condition.holds_shaped orderTest_greater hraw ha hnone,
      Condition.holds_shaped orderTest_atLeast hraw ha hnone,
      Condition.holds_shaped orderTest_less hraw ha hnone,
      Condition.holds_shaped orderTest_atMost hraw ha hnone⟩
  · obtain ⟨x, hx, hmillis⟩ := (LooseText.names_iff.mpr ⟨hd, rfl⟩ : LooseText.Names d.text d).day?
    exact ⟨x, hx, hmillis, hd.millis_lt⟩

/-- A record that holds a leap day. -/
def due : Record := [("due", .text "2024-02-29")]

/-- A leap day is after the last day before 1970, and no order test compares it with one that does not exist. -/
theorem dates_compare_as_texts_due : due.get "due" = .text "2024-02-29" ∧
    (Condition.mk "due" ">" "1969-12-31").holds due = .ok true ∧
    (Condition.mk "due" "=" "1969-12-31").holds due = .ok false ∧
    (Condition.mk "due" "<" "2025-02-29").holds due = .ok false := by
  have hraw : due.get "due" = .text "2024-02-29" := rfl
  have hday : LooseText.IsDay "2024-02-29" := ⟨⟨2024, 2, 29⟩, by decide, by decide⟩
  have hday' : LooseText.IsDay "1969-12-31" := ⟨⟨1969, 12, 31⟩, by decide, by decide⟩
  have hform : LooseText.dateForm? "2024-02-29" = some (⟨2024, 2, 29⟩, true) := by decide
  have hform' : LooseText.dateForm? "2025-02-29" = some (⟨2025, 2, 29⟩, true) := by decide
  have hnoDay : ¬ LooseText.IsDay "2025-02-29" := by
    rw [LooseText.isDay_iff]
    rintro ⟨d, hd, hvalid⟩
    obtain ⟨rfl, -⟩ := Prod.mk.inj (Option.some.inj (hform'.symm.trans hd))
    exact absurd hvalid (by decide)
  obtain ⟨hdays, -⟩ := dates_compare_as_texts due "due" "2024-02-29" "1969-12-31" hraw
  obtain ⟨-, hshaped, -⟩ := dates_compare_as_texts due "due" "2024-02-29" "2025-02-29" hraw
  obtain ⟨hgreater, -, -, -, hequal, -⟩ := hdays hday hday'
  obtain ⟨-, -, hless, -⟩ := hshaped (.of_dateForm? hform) (.of_dateForm? hform') fun h => hnoDay h.2
  exact ⟨hraw, hgreater.trans (by decide +kernel), hequal.trans (by decide +kernel), hless⟩

end FieldFilter
