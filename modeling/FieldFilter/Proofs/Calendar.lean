import FieldFilter.Calendar

/-!
# FieldFilter.Proofs.Calendar — days are numbered in their order

Dates are ordered by year, month and day of the month (`Date.Before`).  A month ends before the next one begins,
and the days of its months make up a year (`Date.daysBeforeYear_succ`), so existing dates are numbered in this
order (`Date.IsValid.dayNumber_lt_iff`).
-/

namespace FieldFilter.Date

variable {d e : Date} {year month month' year' : Nat}

/-- The date comes before the other one. -/
def Before (d e : Date) : Prop :=
  d.year < e.year ∨ d.year = e.year ∧ (d.month < e.month ∨ d.month = e.month ∧ d.day < e.day)

theorem eq_iff_not_before (d e : Date) : d = e ↔ ¬ d.Before e ∧ ¬ e.Before d := by
  constructor
  · rintro rfl
    simp [Before]
  · obtain ⟨y, m, n⟩ := d
    obtain ⟨y', m', n'⟩ := e
    simp only [Before, mk.injEq, not_or, not_and, Nat.not_lt]
    rintro ⟨⟨hyear, hrest⟩, hyear', hrest'⟩
    obtain rfl := Nat.le_antisymm hyear' hyear
    obtain ⟨hmonth, hday⟩ := hrest rfl
    obtain ⟨hmonth', hday'⟩ := hrest' rfl
    obtain rfl := Nat.le_antisymm hmonth' hmonth
    exact ⟨rfl, rfl, Nat.le_antisymm (hday' rfl) (hday rfl)⟩

/-! ### Months and years -/

theorem daysBeforeMonth_succ (h : 0 < month) :
    daysBeforeMonth year (month + 1) = daysBeforeMonth year month + daysInMonth year month := by
  rw [daysBeforeMonth, if_neg (Nat.ne_of_gt h)]

theorem daysBeforeMonth_mono (h : month ≤ month') :
    daysBeforeMonth year month ≤ daysBeforeMonth year month' := by
  induction h with
  | refl => exact Nat.le_refl _
  | step _ ih => exact Nat.le_trans ih (Nat.le_add_right _ _)

/-- The months of a year make up its days. -/
theorem daysBeforeMonth_thirteen (year : Nat) :
    daysBeforeMonth year 13 = if isLeap year then 366 else 365 := by
  simp only [daysBeforeMonth, daysInMonth]
  cases isLeap year <;> rfl

/-- The next year begins when the months of the year are over. -/
theorem daysBeforeYear_succ (h : 0 < year) :
    daysBeforeYear (year + 1) = daysBeforeYear year + daysBeforeMonth year 13 := by
  obtain ⟨past, rfl⟩ := Nat.exists_eq_add_one.mpr h
  have hfour : (past + 1) / 4 = past / 4 + if (past + 1) % 4 = 0 then 1 else 0 := by split <;> omega
  have hcentury : (past + 1) / 100 = past / 100 + if (past + 1) % 100 = 0 then 1 else 0 := by split <;> omega
  have hcycle : (past + 1) / 400 = past / 400 + if (past + 1) % 400 = 0 then 1 else 0 := by split <;> omega
  have hle : past / 100 ≤ past / 4 := Nat.div_le_div_left (by decide) (by decide)
  have hdvd : (past + 1) % 100 = 0 → (past + 1) % 4 = 0 := by omega
  have hdvd' : (past + 1) % 400 = 0 → (past + 1) % 100 = 0 := by omega
  rw [daysBeforeMonth_thirteen]
  simp only [daysBeforeYear, isLeap, Nat.add_sub_cancel, hfour, hcentury, hcycle]
  generalize past / 4 = fours at *
  generalize past / 100 = centuries at *
  generalize past / 400 = cycles at *
  by_cases h4 : (past + 1) % 4 = 0
  · by_cases h100 : (past + 1) % 100 = 0
    · by_cases h400 : (past + 1) % 400 = 0
      · simp [h4, h100, h400]
        omega
      · simp [h4, h100, h400]
        omega
    · simp [h4, h100, mt hdvd' h100]
      omega
  · simp [h4, mt hdvd h4, mt hdvd' (mt hdvd h4)]
    omega

theorem daysBeforeYear_mono (hyear : 0 < year) (h : year ≤ year') : daysBeforeYear year ≤ daysBeforeYear year' := by
  induction h with
  | refl => exact Nat.le_refl _
  | step hle ih =>
    rw [daysBeforeYear_succ (Nat.lt_of_lt_of_le hyear hle)]
    exact Nat.le_trans ih (Nat.le_add_right _ _)

/-! ### Existing dates -/

/-- An existing day comes before the end of its month, and so of its year. -/
theorem IsValid.dayOfYear_le (h : d.IsValid) :
    daysBeforeMonth d.year d.month + d.day ≤ daysBeforeMonth d.year (d.month + 1) := by
  obtain ⟨-, -, hmonth, -, -, hday⟩ := h
  rw [daysBeforeMonth_succ hmonth]
  exact Nat.add_le_add_left hday _

theorem IsValid.dayNumber_lt (hd : d.IsValid) (he : e.IsValid) (h : d.Before e) : d.dayNumber < e.dayNumber := by
  have hend := hd.dayOfYear_le
  obtain ⟨hyear, -, -, hmonth, -, -⟩ := hd
  obtain ⟨-, -, -, -, hday, -⟩ := he
  suffices hcount : daysBeforeYear d.year + daysBeforeMonth d.year d.month + d.day <
      daysBeforeYear e.year + daysBeforeMonth e.year e.month + e.day by
    unfold dayNumber
    omega
  rcases h with hlt | ⟨heq, hlt | ⟨heq', hlt⟩⟩
  · have hyears : daysBeforeYear (d.year + 1) ≤ daysBeforeYear e.year := daysBeforeYear_mono (Nat.succ_pos _) hlt
    have hmonths : daysBeforeMonth d.year (d.month + 1) ≤ daysBeforeMonth d.year 13 :=
      daysBeforeMonth_mono (Nat.add_le_add_right hmonth 1)
    rw [daysBeforeYear_succ hyear] at hyears
    omega
  · have hmonths : daysBeforeMonth d.year (d.month + 1) ≤ daysBeforeMonth d.year e.month :=
      daysBeforeMonth_mono hlt
    rw [← heq]
    omega
  · rw [← heq, ← heq']
    omega

/-- **Existing dates are numbered in their order.** -/
theorem IsValid.dayNumber_lt_iff (hd : d.IsValid) (he : e.IsValid) : d.dayNumber < e.dayNumber ↔ d.Before e := by
  refine ⟨fun h => ?_, hd.dayNumber_lt he⟩
  refine Classical.byContradiction fun hbefore => ?_
  have hafter : ¬ e.Before d := fun hafter => Int.lt_asymm h (he.dayNumber_lt hd hafter)
  obtain rfl := (eq_iff_not_before d e).mpr ⟨hbefore, hafter⟩
  exact Int.lt_irrefl _ h

theorem IsValid.millis_lt_iff (hd : d.IsValid) (he : e.IsValid) : d.millis < e.millis ↔ d.Before e := by
  rw [← hd.dayNumber_lt_iff he]
  unfold millis
  omega

theorem IsValid.millis_inj (hd : d.IsValid) (he : e.IsValid) : d.millis = e.millis ↔ d = e := by
  rw [eq_iff_not_before, ← hd.millis_lt_iff he, ← he.millis_lt_iff hd]
  omega

end FieldFilter.Date
