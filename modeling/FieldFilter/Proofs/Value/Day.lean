import FieldFilter.Proofs.Number.Exact
import FieldFilter.Proofs.Text.Loose
import FieldFilter.Proofs.Value.Settled

/-!
# FieldFilter.Proofs.Value.Day — what a text says about days

The texts in the form of a date are made of the digits of a year, a month and a day (`Value.DateParts`).  Such a
text names an existing day (`LooseText.Names`) or none (`LooseText.NamesNoDay`); every other text is no date
(`day_trichotomy`).  The milliseconds of an existing day are an integer below
`2 ^ 53` (`Date.IsValid.millis_lt`), so the double that stands for the day is that integer (`Names.day?`).
-/

namespace FieldFilter

/-! ### Milliseconds -/

namespace Date

variable {d : Date}

theorem daysInMonth_le (year month : Nat) : daysInMonth year month ≤ 31 := by
  unfold daysInMonth
  split_ifs <;> omega

theorem daysBeforeMonth_le (year month : Nat) : daysBeforeMonth year month ≤ 31 * month := by
  induction month with
  | zero => simp [daysBeforeMonth]
  | succ month ih =>
    have := daysInMonth_le year month
    rw [daysBeforeMonth]
    split <;> omega

/-- **The milliseconds of an existing day** are fewer than `2 ^ 53` either way. -/
theorem IsValid.millis_lt (h : d.IsValid) : d.millis.natAbs < 2 ^ 53 := by
  obtain ⟨hyear, hlast, -, hmonth, -, hday⟩ := h
  have hbefore := daysBeforeMonth_le d.year d.month
  have hlength := daysInMonth_le d.year d.month
  have hyears : daysBeforeYear d.year ≤ 365 * 9998 + 9998 / 4 + 9998 / 400 := by
    simp only [daysBeforeYear]
    omega
  unfold millis dayNumber
  omega

end Date

/-! ### The form of a date -/

namespace Value

open Text (isDecimalDigit digitValue?)

theorem mapM_digitValue?_eq_some_iff {s : List Char} {values : List Nat} : s.mapM digitValue? = some values ↔
    (∀ c ∈ s, isDecimalDigit c = true) ∧ s.filterMap digitValue? = values := by
  induction s generalizing values with
  | nil => simp
  | cons c s ih =>
    cases hc : digitValue? c with
    | none => simp [List.mapM_cons, isDecimalDigit, hc]
    | some n =>
      have hrest : (c :: s).mapM digitValue? = some values ↔ ∃ rest, s.mapM digitValue? = some rest ∧
          n :: rest = values := by
        simp [List.mapM_cons, hc, Option.bind_eq_some_iff]
      simp only [hrest, ih, List.forall_mem_cons, isDecimalDigit, hc, Option.isSome_some, true_and,
        List.filterMap_cons_some hc, exists_eq_left', and_assoc, exists_and_left]

/-- A text in the form of a date, taken apart: the digits, of any script, of a year, a month and a day, and a line
end that may follow. -/
structure DateParts where
  year : List Char
  month : List Char
  day : List Char
  lineEnd : Bool
  year_length : year.length = 4
  month_length : month.length = 2
  day_length : day.length = 2
  digits : ∀ c ∈ year ++ month ++ day, isDecimalDigit c = true

namespace DateParts

/-- The parts put together. -/
def chars (p : DateParts) : List Char :=
  p.year ++ '-' :: (p.month ++ '-' :: (p.day ++ if p.lineEnd then ['\n'] else []))

/-- The number that some digits stand for. -/
def number (s : List Char) : Nat := Numeral.ofDigits (s.filterMap digitValue?)

def date (p : DateParts) : Date := ⟨number p.year, number p.month, number p.day⟩

/-- The digits are ASCII digits and there is no line end. -/
def plain (p : DateParts) : Bool := !p.lineEnd && (p.year ++ p.month ++ p.day).all Char.isDigit

theorem go_eq_some_iff {year month day : List Char} {plain : Bool} {form : Date × Bool} :
    dateShape?.go year month day plain = some form ↔ (∀ c ∈ year ++ month ++ day, isDecimalDigit c = true) ∧
      (⟨number year, number month, number day⟩, plain && (year ++ month ++ day).all Char.isDigit) = form := by
  have hall : (∀ c ∈ year ++ month ++ day, isDecimalDigit c = true) ↔
      (∀ c ∈ year, isDecimalDigit c = true) ∧ (∀ c ∈ month, isDecimalDigit c = true) ∧
        ∀ c ∈ day, isDecimalDigit c = true := by
    simp only [List.forall_mem_append, and_assoc]
  rw [hall]
  constructor
  · intro h
    obtain ⟨y, hy, h⟩ := Option.bind_eq_some_iff.mp h
    obtain ⟨m, hm, h⟩ := Option.bind_eq_some_iff.mp h
    obtain ⟨d, hd, h⟩ := Option.bind_eq_some_iff.mp h
    obtain ⟨hyear, rfl⟩ := mapM_digitValue?_eq_some_iff.mp hy
    obtain ⟨hmonth, rfl⟩ := mapM_digitValue?_eq_some_iff.mp hm
    obtain ⟨hday, rfl⟩ := mapM_digitValue?_eq_some_iff.mp hd
    exact ⟨⟨hyear, hmonth, hday⟩, Option.some.inj h⟩
  · rintro ⟨⟨hyear, hmonth, hday⟩, rfl⟩
    rw [dateShape?.go, mapM_digitValue?_eq_some_iff.mpr ⟨hyear, rfl⟩,
      mapM_digitValue?_eq_some_iff.mpr ⟨hmonth, rfl⟩, mapM_digitValue?_eq_some_iff.mpr ⟨hday, rfl⟩]
    rfl

end DateParts

/-- **The texts in the form of a date** are those that such parts make up. -/
theorem dateShape?_eq_some_iff {s : List Char} {form : Date × Bool} :
    dateShape? s = some form ↔ ∃ p : DateParts, p.chars = s ∧ (p.date, p.plain) = form := by
  constructor
  · intro h
    unfold dateShape? at h
    split at h
    · obtain ⟨hdigits, hform⟩ := DateParts.go_eq_some_iff.mp h
      exact ⟨⟨_, _, _, false, rfl, rfl, rfl, hdigits⟩, rfl, hform⟩
    · obtain ⟨hdigits, hform⟩ := DateParts.go_eq_some_iff.mp h
      exact ⟨⟨_, _, _, true, rfl, rfl, rfl, hdigits⟩, rfl, hform⟩
    · cases h
  · rintro ⟨⟨year, month, day, lineEnd, hyear, hmonth, hday, hdigits⟩, rfl, rfl⟩
    match year, month, day, hyear, hmonth, hday with
    | [_, _, _, _], [_, _], [_, _], _, _, _ => cases lineEnd <;> exact DateParts.go_eq_some_iff.mpr ⟨hdigits, rfl⟩

/-- A text in the form of a date is made of digits, hyphens and a line end. -/
theorem mem_of_dateShape? {s : List Char} {form : Date × Bool} (h : dateShape? s = some form) :
    ∀ c ∈ s, isDecimalDigit c = true ∨ c = '-' ∨ c = '\n' := by
  obtain ⟨p, rfl, -⟩ := dateShape?_eq_some_iff.mp h
  have hdigits := p.digits
  intro c hc
  simp only [DateParts.chars, List.mem_append, List.mem_cons, List.mem_ite_nil_right, List.not_mem_nil] at hc hdigits
  grind

end Value

namespace LooseText

variable {t : LooseText} {d : Date} {x : Binary64} {c : Char}

/-- The date that the text has the form of, and whether it is written plainly: in ASCII digits and without a
line end. -/
def dateForm? (t : LooseText) : Option (Date × Bool) := t.whole?.bind fun s => Value.dateShape? s.toList

/-- The text names an existing day, plainly written. -/
def Names (t : LooseText) (d : Date) : Prop := t.dateForm? = some (d, true) ∧ d.IsValid

instance : Decidable (t.Names d) := by unfold Names; infer_instance

/-- The text has the form of a date but names no day: there is no such day, or it is not written plainly. -/
def NamesNoDay (t : LooseText) : Prop := ∃ d plain, t.dateForm? = some (d, plain) ∧ ¬ (plain = true ∧ d.IsValid)

theorem day?_text : (Value.text t).day? = t.dateForm?.map fun (date, plain) =>
    if plain ∧ date.IsValid then (Binary64.ofInt? date.millis).getD .nan else .nan := by
  rw [Value.day?, Value.toText, dateForm?, Option.map_bind]
  rfl

/-- A text with any other character is no date. -/
theorem day?_eq_none_of_mem (hmem : .char c ∈ t.marks) (hdigit : Text.isDecimalDigit c = false) (hhyphen : c ≠ '-')
    (hline : c ≠ '\n') : (Value.text t).day? = none := by
  rw [day?_text, Option.map_eq_none_iff, dateForm?]
  cases hwhole : t.whole? with
  | none => rfl
  | some s =>
    cases hform : Value.dateShape? s.toList with
    | none => simp [hform]
    | some form =>
      have hc : c ∈ s.toList := by simpa [whole?_eq_some.mp hwhole] using hmem
      have := Value.mem_of_dateShape? hform c hc
      simp [hdigit, hhyphen, hline] at this

/-- **The double that stands for an existing day** is the number of its milliseconds. -/
theorem Names.day? (h : t.Names d) : ∃ x, (Value.text t).day? = some x ∧ x.toInt? = some d.millis := by
  obtain ⟨hform, hvalid⟩ := h
  have hexact : Binary64.Exact d.millis := Binary64.exact_of_le hvalid.millis_lt.le
  cases hx : Binary64.ofInt? d.millis with
  | none => exact absurd ((Binary64.ofInt?_eq_none_iff _).mp hx) (Nat.not_le.mpr hexact.2)
  | some x =>
    obtain ⟨m, hm, hsame⟩ := Binary64.toInt?_of_ofInt? hx
    refine ⟨x, ?_, by rw [hm, hsame.mpr hexact]⟩
    simp [day?_text, hform, hvalid, hx]

theorem Names.isDate (h : t.Names d) : (Value.text t).day? ≠ none := by
  obtain ⟨x, hx, -⟩ := h.day?
  simp [hx]

theorem Names.toInt? (h : t.Names d) (hx : (Value.text t).day? = some x) : x.toInt? = some d.millis := by
  obtain ⟨x', hx', hmillis⟩ := h.day?
  rwa [Option.some.inj (hx.symm.trans hx')]

theorem NamesNoDay.day? (h : t.NamesNoDay) : (Value.text t).day? = some .nan := by
  obtain ⟨d, plain, hform, hnone⟩ := h
  rw [day?_text, hform]
  exact congrArg some (if_neg hnone)

theorem NamesNoDay.isDate (h : t.NamesNoDay) : (Value.text t).day? ≠ none := by
  simp [h.day?]

theorem NamesNoDay.eq_nan (h : t.NamesNoDay) (hx : (Value.text t).day? = some x) : x = .nan :=
  Option.some.inj (hx.symm.trans h.day?)

/-- **A text is no date, or names an existing day, or has the form of a date and names none.** -/
theorem day_trichotomy (t : LooseText) : (Value.text t).day? = none ∨ (∃ d, t.Names d) ∨ t.NamesNoDay := by
  rcases hform : t.dateForm? with _ | ⟨d, plain⟩
  · exact .inl (by rw [day?_text, hform]; rfl)
  · right
    by_cases hplain : plain = true ∧ d.IsValid
    · exact .inl ⟨d, by rw [hform, hplain.1], hplain.2⟩
    · exact .inr ⟨d, plain, hform, hplain⟩

end LooseText
end FieldFilter
