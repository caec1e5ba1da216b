import Mathlib.Data.String.Basic
import FieldFilter.Proofs.Calendar
import FieldFilter.Proofs.Value.Day

/-!
# FieldFilter.Proofs.Value.DateText — how dates are written

An existing date is written in one way (`Date.text`): four, two and two ASCII digits with hyphens between them.
Those texts name days and no others do (`LooseText.names_iff`).  Digits of one width are ordered like their numbers
(`Text.ofDigitChars_lt_iff`), so the texts of dates are ordered like the dates (`Date.IsValid.text_lt_iff`).
-/

namespace FieldFilter

/-! ### Digits of one width -/

namespace Text

variable {s t : List Char} {c c' : Char} {n width : Nat}

theorem toNat_of_isDigit (h : c.isDigit = true) : 48 ≤ c.toNat ∧ c.toNat ≤ 57 := Char.isDigit_iff_toNat.mp h

/-- The value of an ASCII digit. -/
theorem digitValue?_of_isDigit (h : c.isDigit = true) : digitValue? c = some (c.toNat - 48) := by
  have hascii : c.toNat < 128 := Nat.lt_of_le_of_lt (toNat_of_isDigit h).2 (by decide)
  rw [digitValue?, if_pos hascii, if_pos h]

theorem isDecimalDigit_of_isDigit (h : c.isDigit = true) : isDecimalDigit c = true := by
  rw [isDecimalDigit, digitValue?_of_isDigit h]
  rfl

/-- The number of some ASCII digits, the first of which counts most. -/
theorem ofDigitChars_cons (c : Char) (s : List Char) :
    Nat.ofDigitChars 10 (c :: s) 0 = 10 ^ s.length * (c.toNat - 48) + Nat.ofDigitChars 10 s 0 := by
  rw [Nat.ofDigitChars_cons, Nat.ofDigitChars_eq_ofDigitChars_zero, Nat.mul_zero, Nat.zero_add]
  rfl

theorem ofDigitChars_lt (h : ∀ c ∈ s, c.isDigit = true) : Nat.ofDigitChars 10 s 0 < 10 ^ s.length := by
  induction s with
  | nil => decide
  | cons c s ih =>
    obtain ⟨hc, hs⟩ := List.forall_mem_cons.mp h
    have hfirst : 10 ^ s.length * (c.toNat - 48) ≤ 10 ^ s.length * 9 :=
      Nat.mul_le_mul_left _ (Nat.sub_le_of_le_add (toNat_of_isDigit hc).2)
    have hrest := ih hs
    rw [ofDigitChars_cons, List.length_cons, Nat.pow_succ]
    omega

/-- **Digits of one width are ordered like their numbers.** -/
theorem ofDigitChars_lt_iff (hlength : s.length = t.length) (hs : ∀ c ∈ s, c.isDigit = true)
    (ht : ∀ c ∈ t, c.isDigit = true) : s < t ↔ Nat.ofDigitChars 10 s 0 < Nat.ofDigitChars 10 t 0 := by
  induction s generalizing t with
  | nil =>
    obtain rfl := List.length_eq_zero_iff.mp hlength.symm
    exact iff_of_false (List.not_lt_nil _) (Nat.lt_irrefl _)
  | cons c s ih =>
    obtain ⟨c', t, rfl⟩ := List.exists_cons_of_length_eq_add_one hlength.symm
    have hlengths : s.length = t.length := Nat.succ.inj hlength
    obtain ⟨hc, hs⟩ := List.forall_mem_cons.mp hs
    obtain ⟨hc', ht⟩ := List.forall_mem_cons.mp ht
    have hc48 := (toNat_of_isDigit hc).1
    have hc'48 := (toNat_of_isDigit hc').1
    have hsmall := ofDigitChars_lt hs
    have hsmall' := ofDigitChars_lt ht
    rw [List.cons_lt_cons_iff, ih hlengths hs ht, ofDigitChars_cons, ofDigitChars_cons, hlengths]
    rw [hlengths] at hsmall
    -- a greater first digit outweighs all digits after it
    have hstep : ∀ x y : Nat, x < y → 10 ^ t.length * x + 10 ^ t.length ≤ 10 ^ t.length * y :=
      fun x y hxy => Nat.mul_le_mul_left (10 ^ t.length) hxy
    rcases lt_trichotomy c c' with hlt | rfl | hgt
    · have hdigits := hstep _ _ (Nat.sub_lt_sub_right hc48 (show c.toNat < c'.toNat from hlt))
      exact iff_of_true (.inl hlt) (by omega)
    · simp
    · have hdigits := hstep _ _ (Nat.sub_lt_sub_right hc'48 (show c'.toNat < c.toNat from hgt))
      refine iff_of_false ?_ (by omega)
      rintro (hlt | ⟨rfl, -⟩)
      · exact lt_asymm hlt hgt
      · exact lt_irrefl _ hgt

theorem ofDigitChars_inj (hlength : s.length = t.length) (hs : ∀ c ∈ s, c.isDigit = true)
    (ht : ∀ c ∈ t, c.isDigit = true) : Nat.ofDigitChars 10 s 0 = Nat.ofDigitChars 10 t 0 ↔ s = t := by
  refine ⟨fun h => ?_, fun h => by rw [h]⟩
  rcases lt_trichotomy s t with hlt | heq | hgt
  · exact absurd ((ofDigitChars_lt_iff hlength hs ht).mp hlt) (h ▸ Nat.lt_irrefl _)
  · exact heq
  · exact absurd ((ofDigitChars_lt_iff hlength.symm ht hs).mp hgt) (h ▸ Nat.lt_irrefl _)

/-- Texts with starts of one length are ordered by these first. -/
theorem append_lt_append_iff {s' t' : List Char} (hlength : s.length = t.length) :
    s ++ s' < t ++ t' ↔ s < t ∨ s = t ∧ s' < t' := by
  induction s generalizing t with
  | nil =>
    obtain rfl := List.length_eq_zero_iff.mp hlength.symm
    simp
  | cons c s ih =>
    obtain ⟨c', t, rfl⟩ := List.exists_cons_of_length_eq_add_one hlength.symm
    rw [List.cons_append, List.cons_append, List.cons_lt_cons_iff, List.cons_lt_cons_iff,
      ih (Nat.succ.inj hlength), List.cons.injEq]
    tauto

/-- A number in ASCII digits, with zeros before them to fill the width. -/
def fixedWidth (width n : Nat) : List Char := (Nat.toDigits 10 n).leftpad width '0'

theorem isDigit_of_mem_fixedWidth (h : c ∈ fixedWidth width n) : c.isDigit = true := by
  rw [fixedWidth, List.leftpad, List.mem_append] at h
  rcases h with h | h
  · rw [List.eq_of_mem_replicate h]
    rfl
  · exact Nat.isDigit_of_mem_toDigits (by decide) (by decide) h

theorem ofDigitChars_fixedWidth (width n : Nat) : Nat.ofDigitChars 10 (fixedWidth width n) 0 = n := by
  rw [fixedWidth, List.leftpad, Nat.ofDigitChars_append, Nat.ofDigitChars_replicate_zero, Nat.mul_zero,
    Nat.ofDigitChars_ten_toDigits]

theorem length_fixedWidth (hwidth : 0 < width) (h : n < 10 ^ width) : (fixedWidth width n).length = width := by
  rw [fixedWidth, List.length_leftpad]
  exact Nat.max_eq_left ((Nat.length_toDigits_le_iff (by decide) hwidth).mpr h)

end Text

namespace Value.DateParts

variable {p q : DateParts}

/-- The number that ASCII digits stand for. -/
theorem number_eq {s : List Char} (h : ∀ c ∈ s, c.isDigit = true) : number s = Nat.ofDigitChars 10 s 0 := by
  have hvalues : s.filterMap Text.digitValue? = s.map fun c => c.toNat - 48 :=
    List.filterMap_eq_map_iff_forall_eq_some.mpr fun c hc => Text.digitValue?_of_isDigit (h c hc)
  rw [number, hvalues, Numeral.ofDigits, List.foldl_map, Nat.ofDigitChars_eq_foldl]
  rfl

theorem plain_iff : p.plain = true ↔ p.lineEnd = false ∧ (∀ c ∈ p.year, c.isDigit = true) ∧
    (∀ c ∈ p.month, c.isDigit = true) ∧ ∀ c ∈ p.day, c.isDigit = true := by
  simp only [plain, Bool.and_eq_true, Bool.not_eq_true', List.all_eq_true, List.forall_mem_append, and_assoc]

/-- **Plain texts in the form of dates are ordered like the dates.** -/
theorem chars_lt_iff (hp : p.plain = true) (hq : q.plain = true) : p.chars < q.chars ↔ p.date.Before q.date := by
  obtain ⟨hend, hyear, hmonth, hday⟩ := plain_iff.mp hp
  obtain ⟨hend', hyear', hmonth', hday'⟩ := plain_iff.mp hq
  have hyears := p.year_length.trans q.year_length.symm
  have hmonths := p.month_length.trans q.month_length.symm
  have hdays := p.day_length.trans q.day_length.symm
  simp only [chars, hend, hend', Bool.false_eq_true, if_false, List.append_nil, Date.Before, date,
    number_eq hyear, number_eq hmonth, number_eq hday, number_eq hyear', number_eq hmonth', number_eq hday']
  rw [Text.append_lt_append_iff hyears, List.cons_lt_cons_iff, Text.append_lt_append_iff hmonths,
    List.cons_lt_cons_iff, Text.ofDigitChars_lt_iff hyears hyear hyear',
    Text.ofDigitChars_lt_iff hmonths hmonth hmonth', Text.ofDigitChars_lt_iff hdays hday hday',
    Text.ofDigitChars_inj hyears hyear hyear', Text.ofDigitChars_inj hmonths hmonth hmonth']
  simp only [lt_irrefl, false_or, true_and]

/-- A date is plainly written in one way. -/
theorem chars_eq (hp : p.plain = true) (hq : q.plain = true) (h : p.date = q.date) : p.chars = q.chars := by
  obtain ⟨hbefore, hafter⟩ := (Date.eq_iff_not_before _ _).mp h
  rw [← chars_lt_iff hp hq] at hbefore
  rw [← chars_lt_iff hq hp] at hafter
  exact le_antisymm (not_lt.mp hafter) (not_lt.mp hbefore)

end Value.DateParts

/-! ### The text of a date -/

namespace Date

variable {d e : Date}

/-- The date as it is written: the year, the month and the day of the month in ASCII digits. -/
def text (d : Date) : String :=
  String.ofList (Text.fixedWidth 4 d.year ++ '-' :: (Text.fixedWidth 2 d.month ++ '-' :: Text.fixedWidth 2 d.day))

/-- The numbers of an existing date fit their widths. -/
theorem IsValid.lt_pow (h : d.IsValid) : d.year < 10 ^ 4 ∧ d.month < 10 ^ 2 ∧ d.day < 10 ^ 2 := by
  obtain ⟨-, hyear, -, hmonth, -, hday⟩ := h
  have hlength := daysInMonth_le d.year d.month
  omega

/-- The parts of the text of an existing date. -/
def IsValid.parts (h : d.IsValid) : Value.DateParts where
  year := Text.fixedWidth 4 d.year
  month := Text.fixedWidth 2 d.month
  day := Text.fixedWidth 2 d.day
  lineEnd := false
  year_length := Text.length_fixedWidth (by decide) h.lt_pow.1
  month_length := Text.length_fixedWidth (by decide) h.lt_pow.2.1
  day_length := Text.length_fixedWidth (by decide) h.lt_pow.2.2
  digits := by
    intro c hc
    simp only [List.mem_append] at hc
    rcases hc with (hc | hc) | hc <;> exact Text.isDecimalDigit_of_isDigit (Text.isDigit_of_mem_fixedWidth hc)

theorem IsValid.chars_parts (h : d.IsValid) : h.parts.chars = d.text.toList := by
  simp [parts, Value.DateParts.chars, text]

theorem IsValid.date_parts (h : d.IsValid) : h.parts.date = d := by
  simp only [Value.DateParts.date, parts, Value.DateParts.number_eq fun _ => Text.isDigit_of_mem_fixedWidth,
    Text.ofDigitChars_fixedWidth]

theorem IsValid.plain_parts (h : d.IsValid) : h.parts.plain = true :=
  Value.DateParts.plain_iff.mpr ⟨rfl, fun _ => Text.isDigit_of_mem_fixedWidth,
    fun _ => Text.isDigit_of_mem_fixedWidth, fun _ => Text.isDigit_of_mem_fixedWidth⟩

/-- **The texts of existing dates are ordered like the dates.** -/
theorem IsValid.text_lt_iff (hd : d.IsValid) (he : e.IsValid) : d.text < e.text ↔ d.Before e := by
  rw [String.lt_iff_toList_lt, ← hd.chars_parts, ← he.chars_parts,
    Value.DateParts.chars_lt_iff hd.plain_parts he.plain_parts, hd.date_parts, he.date_parts]

theorem IsValid.text_inj (hd : d.IsValid) (he : e.IsValid) : d.text = e.text ↔ d = e := by
  rw [eq_iff_not_before, ← hd.text_lt_iff he, ← he.text_lt_iff hd, not_lt, not_lt, le_antisymm_iff, and_comm]

end Date

namespace LooseText

variable {t : LooseText} {d : Date} {form : Date × Bool}

theorem dateForm?_eq_some_iff : t.dateForm? = some form ↔
    ∃ p : Value.DateParts, t = ofString (String.ofList p.chars) ∧ (p.date, p.plain) = form := by
  simp only [dateForm?, Option.bind_eq_some_iff, whole?_eq_some, Value.dateShape?_eq_some_iff]
  constructor
  · rintro ⟨s, rfl, p, hchars, hform⟩
    exact ⟨p, by rw [hchars, String.ofList_toList], hform⟩
  · rintro ⟨p, rfl, hform⟩
    exact ⟨_, rfl, p, String.toList_ofList.symm, hform⟩

/-- **A text names the day whose text it is.** -/
theorem names_iff : t.Names d ↔ d.IsValid ∧ t = d.text := by
  rw [Names, dateForm?_eq_some_iff, and_comm]
  refine and_congr_right fun hvalid => ⟨?_, ?_⟩
  · rintro ⟨p, rfl, hform⟩
    obtain ⟨hdate, hplain⟩ := Prod.mk.inj hform
    rw [Value.DateParts.chars_eq hplain hvalid.plain_parts (hdate.trans hvalid.date_parts.symm),
      hvalid.chars_parts, String.ofList_toList]
  · rintro rfl
    refine ⟨hvalid.parts, ?_, Prod.ext hvalid.date_parts hvalid.plain_parts⟩
    rw [hvalid.chars_parts, String.ofList_toList]

/-- The text has the form of a date. -/
def DateShaped (t : LooseText) : Prop := ∃ p : Value.DateParts, t = ofString (String.ofList p.chars)

theorem DateShaped.of_dateForm? (h : t.dateForm? = some form) : t.DateShaped := by
  obtain ⟨p, hp, -⟩ := dateForm?_eq_some_iff.mp h
  exact ⟨p, hp⟩

/-- The text is that of an existing date. -/
def IsDay (t : LooseText) : Prop := ∃ d : Date, d.IsValid ∧ t = d.text

theorem isDay_iff : t.IsDay ↔ ∃ d, t.Names d := exists_congr fun _ => names_iff.symm

theorem DateShaped.isDate (h : t.DateShaped) : (Value.text t).day? ≠ none := by
  obtain ⟨p, hp⟩ := h
  rw [day?_text, dateForm?_eq_some_iff.mpr ⟨p, hp, rfl⟩]
  nofun

end LooseText
end FieldFilter
