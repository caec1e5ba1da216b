import FieldFilter.Proofs.Number.Exact
import FieldFilter.Proofs.Value.NumberText

/-!
# FieldFilter.Proofs.Value.WholeNumber — whole numbers read back from their texts

The text of an integer is a sign, if it is negative, and ASCII digits, and it is read as the numeral of that integer
(`Numeral.read?_repr`).  The double nearest to that numeral is the integer itself, up to `2 ^ 53`
(`Value.toInt?_textToNumber`).
-/

namespace FieldFilter

variable {n : Int} {m : Nat} {s : List Char}

/-! ### Numerals -/

namespace Numeral

open Text (digitValue? isDecimalDigit)

theorem digits_toDigits (m : Nat) : Digits (Nat.toDigits 10 m) := fun _ hc =>
  Text.isDecimalDigit_of_isDigit (Nat.isDigit_of_mem_toDigits (by decide) (by decide) hc)

theorem toDigits_ne_nil (m : Nat) : Nat.toDigits 10 m ≠ [] :=
  List.ne_nil_of_length_pos Nat.length_toDigits_pos

/-- The digits of a number stand for it. -/
theorem ofDigits_toDigits (m : Nat) : ofDigits ((Nat.toDigits 10 m).filterMap digitValue?) = m := by
  have hdigits : ∀ c ∈ Nat.toDigits 10 m, c.isDigit = true := fun c hc =>
    Nat.isDigit_of_mem_toDigits (by decide) (by decide) hc
  exact (Value.DateParts.number_eq hdigits).trans Nat.ofDigitChars_ten_toDigits

/-- Digits after whatever sign are a numeral without fraction and exponent. -/
theorem read?_of_takeSign {negative : Bool} (h : takeSign s = (negative, Nat.toDigits 10 m)) :
    read? s = some ⟨negative, m, 0⟩ := by
  have hend : Opens (isDecimalDigit · = false) [] := fun c hc => nomatch hc
  have hwhole := takeDigits_append (digits_toDigits m) hend
  have hne : ((Nat.toDigits 10 m).filterMap digitValue?).isEmpty = false :=
    List.isEmpty_eq_false_iff.mpr ((digits_toDigits m).values_ne_nil_iff.mpr (toDigits_ne_nil m))
  rw [List.append_nil] at hwhole
  simp only [read?_eq, h, hwhole, takeFraction, hne, List.isEmpty_nil, Bool.false_and, Bool.false_eq_true, if_false,
    readExponent?, Option.bind_some, List.append_nil, ofDigits_toDigits]
  rfl

/-- **The text of an integer is read as its numeral.** -/
theorem read?_repr (n : Int) : read? n.repr.toList = some ⟨n < 0, n.natAbs, 0⟩ := by
  cases n with
  | ofNat m =>
    have hnoSign : Opens NoSign (Nat.toDigits 10 m) := fun c hc =>
      noSign_of_digit (digits_toDigits m c (List.mem_of_mem_head? hc))
    have hsign : takeSign (Nat.toDigits 10 m) = (false, Nat.toDigits 10 m) := by
      unfold takeSign
      split
      · next heq => exact absurd rfl (hnoSign '+' (congrArg List.head? heq)).1
      · next heq => exact absurd rfl (hnoSign '-' (congrArg List.head? heq)).2
      · rfl
    have hpos : ¬ Int.ofNat m < 0 := Int.not_lt.mpr (Int.natCast_nonneg m)
    rw [decide_eq_false hpos, Int.repr, Nat.toList_repr]
    exact read?_of_takeSign hsign
  | negSucc m =>
    have hsign : takeSign ('-' :: Nat.toDigits 10 (m + 1)) = (true, Nat.toDigits 10 (m + 1)) := rfl
    have htext : (Int.negSucc m).repr.toList = '-' :: Nat.toDigits 10 (m + 1) := by simp [Int.repr]
    rw [decide_eq_true (Int.negSucc_lt_zero m), htext]
    exact read?_of_takeSign hsign

/-- Up to `2 ^ 53` numbers have few digits. -/
theorem decimalLength_le (h : m ≤ 2 ^ 53) : decimalLength m ≤ 16 :=
  (Nat.length_toDigits_le_iff (by decide) (by decide)).mpr (Nat.lt_of_le_of_lt h (by decide))

end Numeral

/-! ### The nearest double -/

/-- A whole number that is a double is the double nearest to it. -/
theorem Binary64.ofQuotient_one (negative : Bool) (hshort : Short m) (hlimit : m < intLimit) :
    ofQuotient negative m 1 = .finite negative (m * unitsPerOne) := by
  have hlt : roundUnits m 1 < unitsLimit :=
    Nat.not_le.mp (mt (unitsLimit_le_roundUnits_iff m).mp (Nat.not_le.mpr hlimit))
  have hunits : nearestUnits? m 1 = some (m * unitsPerOne) := by
    unfold nearestUnits?
    dsimp only
    rw [if_pos hlt, (roundUnits_eq_iff m).mpr hshort]
  simp only [ofQuotient_eq_elim]
  generalize nearestUnits? m 1 = found at hunits ⊢
  rw [hunits]
  rfl

/-- The double nearest to a short numeral without fraction and exponent is its number. -/
theorem Numeral.toBinary64_whole (negative : Bool) (h : m ≤ 2 ^ 53) :
    (Numeral.mk negative m 0).toBinary64 = .finite negative (m * Binary64.unitsPerOne) := by
  have hexact : Binary64.Exact m := Binary64.exact_of_le h
  have hlength := decimalLength_le h
  unfold toBinary64
  dsimp only
  split_ifs with hzero hlarge
  · have hm : m = 0 := by omega
    rw [hm, Nat.zero_mul]
  · omega
  · have hone : m * Nat.pow 10 (Int.toNat 0) = m := by simp
    rw [hone]
    exact Binary64.ofQuotient_one negative hexact.1 hexact.2

namespace Value

theorem stripChars_repr (n : Int) : Text.stripChars n.repr.toList = n.repr.toList := by
  have hblank : ∀ c ∈ n.repr.toList, Text.isBlank c = false := by
    intro c hc
    have hmark : Mark.char c ∈ (int n).toText.marks := List.mem_map_of_mem hc
    obtain ⟨_, heq, hc⟩ := mem_toText_int hmark
    cases heq
    rcases hc with rfl | hc
    · decide
    · exact Text.not_blank_of_digit (Text.isDecimalDigit_of_isDigit hc)
  have hne : n.repr.toList ≠ [] := List.map_eq_nil_iff.not.mp (toText_int_ne_nil n)
  have hstrip : Text.stripChars (n.repr.toList ++ []) = n.repr.toList :=
    Text.stripChars_append ⟨_, List.head?_eq_some_head hne, hblank _ (List.head_mem hne)⟩
      ⟨_, List.getLast?_eq_some_getLast hne, hblank _ (List.getLast_mem hne)⟩ fun c hc => nomatch hc
  rwa [List.append_nil] at hstrip

theorem textToNumber_of_read? {s : String} {x : Numeral} (hne : (Text.stripChars s.toList).isEmpty = false)
    (hread : Numeral.read? (Text.stripChars s.toList) = some x) : textToNumber s = x.toBinary64 := by
  simp only [textToNumber, hne, hread, Bool.false_eq_true, if_false]

/-- **The number in the text of an integer** is that integer, up to `2 ^ 53`. -/
theorem toInt?_textToNumber (h : n.natAbs ≤ 2 ^ 53) : (textToNumber n.repr).toInt? = some n := by
  have hne : (Text.stripChars n.repr.toList).isEmpty = false := by
    rw [stripChars_repr, List.isEmpty_eq_false_iff]
    exact List.map_eq_nil_iff.not.mp (toText_int_ne_nil n)
  have hread : Numeral.read? (Text.stripChars n.repr.toList) = some ⟨n < 0, n.natAbs, 0⟩ := by
    rw [stripChars_repr, Numeral.read?_repr]
  rw [textToNumber_of_read? hne hread, Numeral.toBinary64_whole _ h, Binary64.toInt?_finite]
  by_cases hneg : n < 0
  · rw [decide_eq_true hneg, if_pos rfl, Option.some.injEq]
    omega
  · rw [decide_eq_false hneg, if_neg Bool.false_ne_true, Option.some.injEq]
    omega

end Value
end FieldFilter
