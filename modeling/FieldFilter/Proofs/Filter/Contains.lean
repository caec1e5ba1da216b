import FieldFilter.Proofs.Filter.Equality
import FieldFilter.Proofs.Text.Lower
import FieldFilter.Proofs.Value.Day

/-!
# FieldFilter.Proofs.Filter.Contains — one text inside another, and one day inside another

On a record that holds a text, `contains` looks for the operand in that text, in any case, unless both have the
form of a date.  Two dates are compared as days like under every other operator: the text of the milliseconds
of one is looked for in that of the other (`contains_on_text_iff`).
-/

namespace FieldFilter

variable {r : Record} {field s operand word : LooseText} {n m : Int} {x y : Binary64} {d e : Date}

/-! ### The texts of days -/

theorem lowerMark_of_plain {c : Char} (h : c = '-' ∨ c.isDigit = true) (before after : List Mark) :
    LooseText.lowerMark before after (.char c) = [.char c] := by
  have hascii : c.toNat < 65 := by
    rcases h with rfl | h
    · decide
    · simp only [Char.isDigit, Bool.and_eq_true, decide_eq_true_eq] at h
      have := UInt32.le_iff_toNat_le.mp h.2
      exact Nat.lt_of_le_of_lt this (by decide)
  have hsigma : c ≠ 'Σ' := by
    rintro rfl
    exact absurd hascii (by decide)
  have hupper : ¬ 'A' ≤ c := fun hle => absurd (UInt32.le_iff_toNat_le.mp hle) (Nat.not_le.mpr hascii)
  simp [LooseText.lowerMark, hsigma, Text.lowerChar, hupper, Nat.lt_trans hascii (by decide : 65 < 128)]

namespace Value

theorem lower_toText_int (n : Int) : (int n).toText.lower = (int n).toText := by
  refine congrArg LooseText.mk ((LooseText.marks_lower _).trans (LooseText.lowerBetween_eq_self fun mark hmark => ?_))
  obtain ⟨c, rfl, hc⟩ := mem_toText_int hmark
  exact lowerMark_of_plain hc

end Value

/-- The text of an integer and that of what is not a number have no mark in common. -/
theorem not_mem_nan_of_mem_int {mark : Mark} (h : mark ∈ (Value.int n).toText.marks) :
    mark ∉ (LooseText.ofString "nan").marks := by
  obtain ⟨c, rfl, hc⟩ := Value.mem_toText_int h
  intro hmem
  have hletter : c = 'n' ∨ c = 'a' ∨ c = 'n' := by simpa using hmem
  rcases hletter with rfl | rfl | rfl <;> exact absurd hc (by decide)

/-! ### `contains` -/

theorem textTest_contains : TextTest "contains" fun s t => t.occursInAnyCase s :=
  Operator.textual_ofScalar? fun s t => t.occursInAnyCase s

theorem compare_contains (s t : Scalar) : compare "contains" (.scalar s) (.scalar t) =
    .ok ((Value.scalar t).toText.occursInAnyCase (Value.scalar s).toText) := textTest_contains (some s) (some t)

/-- Two sides that both have the form of a date are compared as days. -/
theorem Condition.holds_days (hraw : r.get field = .text s) (hx : (Value.text s).day? = some x)
    (hy : (Value.text operand).day? = some y) :
    (Condition.mk field word operand).holds r = compare word (.scalar (.date x)) (.scalar (.date y)) := by
  have hs : s.day? = some x := hx
  have hoperand : operand.day? = some y := hy
  have hwritten : (Value.text s).written = .ok s := rfl
  unfold holds
  dsimp only
  rw [hraw, hwritten, ok_bind, hs, hoperand]

theorem Condition.holds_contains_text (hraw : r.get field = .text s) (h : NotBothDates (.text s) operand) :
    (Condition.mk field "contains" operand).holds r = .ok (operand.occursInAnyCase s) := by
  rw [holds_textual textTest_contains (hraw ▸ h), hraw]
  rfl

namespace Binary64

/-- The text of the second double stands in that of the first one, in any case. -/
def textOccurs (x y : Binary64) : Bool := LooseText.occursInAnyCase (y.toText : String) (x.toText : String)

theorem lower_toText_nan : LooseText.lower (nan.toText : String) = "nan" := by rfl

theorem lower_toText_of_toInt? (h : x.toInt? = some n) :
    LooseText.lower (x.toText : String) = (Value.int n).toText := by
  rw [toText_of_toInt? h]
  exact Value.lower_toText_int n

theorem textOccurs_int (hx : x.toInt? = some n) (hy : y.toInt? = some m) :
    textOccurs x y = true ↔ (Value.int m).toText.marks <:+: (Value.int n).toText.marks := by
  rw [textOccurs, LooseText.occursInAnyCase_iff, lower_toText_of_toInt? hx, lower_toText_of_toInt? hy]

theorem textOccurs_nan : textOccurs nan nan = true := by rfl

theorem textOccurs_int_nan (hx : x.toInt? = some n) : textOccurs x nan = false := by
  rw [← Bool.not_eq_true, textOccurs, LooseText.occursInAnyCase_iff, lower_toText_of_toInt? hx, lower_toText_nan]
  intro hstands
  exact not_mem_nan_of_mem_int (hstands.subset (List.mem_cons_self)) List.mem_cons_self

theorem textOccurs_nan_int (hy : y.toInt? = some m) : textOccurs nan y = false := by
  rw [← Bool.not_eq_true, textOccurs, LooseText.occursInAnyCase_iff, lower_toText_of_toInt? hy, lower_toText_nan]
  intro hstands
  obtain ⟨mark, hmark⟩ := List.exists_mem_of_ne_nil _ (Value.toText_int_ne_nil m)
  exact not_mem_nan_of_mem_int hmark (hstands.subset hmark)

end Binary64

theorem Condition.holds_contains_days (hraw : r.get field = .text s) (hx : (Value.text s).day? = some x)
    (hy : (Value.text operand).day? = some y) :
    (Condition.mk field "contains" operand).holds r = .ok (Binary64.textOccurs x y) :=
  (holds_days hraw hx hy).trans (compare_contains _ _)

/-- **`contains` is search in texts** on a record that holds a text, unless the text and the operand both have the
form of a date.  These are compared as days: for two that exist the number of milliseconds of one, in digits, is
looked for in that of the other, and else they match just if neither exists. -/
theorem contains_on_text_iff (r : Record) (field s operand : LooseText) (hraw : r.get field = .text s) :
    ∃ found, (Condition.mk field "contains" operand).holds r = .ok found ∧
      (NotBothDates (.text s) operand → (found = true ↔ operand.lower.marks <:+: s.lower.marks)) ∧
      (∀ d e, s.Names d → operand.Names e →
        (found = true ↔ (Value.int e.millis).toText.marks <:+: (Value.int d.millis).toText.marks)) ∧
      (s.NamesNoDay → operand.NamesNoDay → found = true) ∧
      (∀ d, s.Names d ∧ operand.NamesNoDay ∨ s.NamesNoDay ∧ operand.Names d → found = false) := by
  by_cases hdates : NotBothDates (.text s) operand
  · refine ⟨_, Condition.holds_contains_text hraw hdates, fun _ => LooseText.occursInAnyCase_iff, ?_, ?_, ?_⟩
    · exact fun d e hd he => (hdates.elim hd.isDate he.isDate).elim
    · exact fun hs ho => (hdates.elim hs.isDate ho.isDate).elim
    · rintro d (⟨hd, ho⟩ | ⟨hs, hd⟩)
      · exact (hdates.elim hd.isDate ho.isDate).elim
      · exact (hdates.elim hs.isDate hd.isDate).elim
  · obtain ⟨hleft, hright⟩ := not_or.mp hdates
    obtain ⟨x, hx⟩ := Option.ne_none_iff_exists'.mp hleft
    obtain ⟨y, hy⟩ := Option.ne_none_iff_exists'.mp hright
    refine ⟨_, Condition.holds_contains_days hraw hx hy, fun h => absurd h hdates, ?_, ?_, ?_⟩
    · exact fun d e hd he => Binary64.textOccurs_int (hd.toInt? hx) (he.toInt? hy)
    · intro hs ho
      rw [hs.eq_nan hx, ho.eq_nan hy]
      exact Binary64.textOccurs_nan
    · rintro d (⟨hd, ho⟩ | ⟨hs, hd⟩)
      · rw [ho.eq_nan hy]
        exact Binary64.textOccurs_int_nan (hd.toInt? hx)
      · rw [hs.eq_nan hx]
        exact Binary64.textOccurs_nan_int (hd.toInt? hy)

/-- A record that holds a day in spring. -/
def sown : Record := [("sown", .text "1970-05-07")]

/-- A part of a date is looked for in its text.  The 126th day after the first of 1970 is 10886400000 milliseconds
after its start, in which the 86400000 of the second day stand. -/
theorem contains_on_text_sown : sown.get "sown" = .text "1970-05-07" ∧
    (Condition.mk "sown" "contains" "1970-05").holds sown = .ok true ∧
    (Condition.mk "sown" "contains" "1970-01-02").holds sown = .ok true := by
  have hraw : sown.get "sown" = .text "1970-05-07" := rfl
  have hpart : NotBothDates (.text "1970-05-07") "1970-05" := .inr (by rfl)
  have hday : LooseText.Names "1970-05-07" ⟨1970, 5, 7⟩ := by decide
  have hsecond : LooseText.Names "1970-01-02" ⟨1970, 1, 2⟩ := by decide
  obtain ⟨_, hholds, htexts, -⟩ := contains_on_text_iff sown "sown" "1970-05-07" "1970-05" hraw
  obtain ⟨_, hholds', -, hdays, -⟩ := contains_on_text_iff sown "sown" "1970-05-07" "1970-01-02" hraw
  refine ⟨hraw, ?_, ?_⟩
  · rw [hholds, (htexts hpart).mpr (by decide +kernel)]
  · rw [hholds', (hdays _ _ hday hsecond).mpr (by decide)]

/-- Every day that exists contains the first of 1970, whose 0 milliseconds stand in all multiples of those of a
day. -/
theorem holds_contains_epoch :
    (Condition.mk "d" "contains" "1970-01-01").holds [("d", .text "2025-01-04")] = .ok true ∧
      ¬ LooseText.marks (LooseText.lower "1970-01-01") <:+: LooseText.marks (LooseText.lower "2025-01-04") := by
  decide +kernel

end FieldFilter
