import FieldFilter.Proofs.Number.Numeral
import FieldFilter.Proofs.Value.DateText

/-!
# FieldFilter.Proofs.Value.NumberText — which texts are numbers

Without the white space at its ends a number is empty, a numeral, or infinity by name (`Value.IsNumber`); every
other text is not a number (`LooseText.number_ne_nan_iff`).  No text in the form of a date is a number
(`LooseText.IsNumber.day?`).
-/

namespace FieldFilter

open Text (isDecimalDigit isBlank stripChars)

variable {s tail : List Char} {c : Char}

/-! ### White space -/

/-- A digit is one of the ten of its script. -/
theorem Text.exists_digitZero (h : isDecimalDigit c = true) :
    ∃ z ∈ Text.digitZeros, z ≤ c.toNat ∧ c.toNat < z + 10 := by
  unfold isDecimalDigit Text.digitValue? at h
  split_ifs at h with hascii hdigit
  · obtain ⟨hlow, hhigh⟩ := Char.isDigit_iff_toNat.mp hdigit
    exact ⟨48, by decide, hlow, Nat.lt_succ_of_le hhigh⟩
  · cases h
  · simpa using h

/-- Digits are no white space, in any script. -/
theorem Text.not_blank_of_digit (h : isDecimalDigit c = true) : isBlank c = false := by
  by_contra hblank
  obtain ⟨range, hrange, hlow, hhigh⟩ := Text.within_iff.mp (Bool.eq_true_of_not_eq_false hblank)
  have hapart : ∀ z ∈ Text.digitZeros, ∀ range ∈ Text.blankRanges, z + 10 ≤ range.1 ∨ range.2 < z := by decide
  obtain ⟨z, hz, hfirst, hlast⟩ := Text.exists_digitZero h
  have := hapart z hz range hrange
  omega

/-- White space is taken from the end of a text whose own ends are none. -/
theorem Text.stripChars_append (hfirst : ∃ c ∈ s.head?, isBlank c = false)
    (hlast : ∃ c ∈ s.getLast?, isBlank c = false) (htail : ∀ c ∈ tail, isBlank c = true) :
    stripChars (s ++ tail) = s := by
  obtain ⟨a, ha, hfirst⟩ := hfirst
  obtain ⟨z, hz, hlast⟩ := hlast
  obtain ⟨s', rfl⟩ := List.head?_eq_some_iff.mp ha
  obtain ⟨s'', hs⟩ := List.getLast?_eq_some_iff.mp hz
  have htail' : ∀ c ∈ tail.reverse, isBlank c = true := fun c hc => htail c (List.mem_reverse.mp hc)
  rw [stripChars, trim, List.cons_append, List.dropWhile_cons_of_neg (by simp [hfirst]), ← List.cons_append,
    List.reverse_append, List.dropWhile_append_of_pos htail', hs, List.reverse_append, List.reverse_singleton,
    List.singleton_append, List.dropWhile_cons_of_neg (by simp [hlast]), List.reverse_cons, List.reverse_reverse]

namespace Value

/-! ### Numbers -/

/-- The text is a number: without the white space at its ends it is empty, a numeral, or infinity by name. -/
def IsNumber (s : String) : Prop :=
  stripChars s.toList = [] ∨ Numeral.Form (stripChars s.toList) ∨
    ∃ sign, Numeral.Sign sign ∧ stripChars s.toList = sign ++ "Infinity".toList

theorem takeSign_eq_infinity_iff :
    (Numeral.takeSign s).2 = "Infinity".toList ↔ ∃ sign, Numeral.Sign sign ∧ s = sign ++ "Infinity".toList := by
  constructor
  · intro h
    obtain ⟨sign, rest, hsign, rfl, htake⟩ := Numeral.exists_sign s
    exact ⟨sign, hsign, by rw [← htake, h]⟩
  · rintro ⟨sign, hsign, rfl⟩
    refine Numeral.takeSign_append hsign fun c hc => ?_
    obtain rfl := Option.some.inj hc
    exact ⟨by decide, by decide⟩

/-- **A text is a number** or not a number. -/
theorem textToNumber_ne_nan_iff {s : String} : textToNumber s ≠ .nan ↔ IsNumber s := by
  rw [IsNumber, ← Numeral.read?_isSome_iff, ← takeSign_eq_infinity_iff, textToNumber]
  dsimp only
  generalize stripChars s.toList = trimmed
  by_cases hempty : trimmed = []
  · exact iff_of_true (by rw [hempty]; nofun) (.inl hempty)
  rw [if_neg (mt List.isEmpty_iff.mp hempty), or_iff_right hempty]
  cases Numeral.read? trimmed with
  | some n => exact iff_of_true n.toBinary64_ne_nan (.inl rfl)
  | none =>
    dsimp only
    split_ifs with hword
    · exact iff_of_true nofun (.inr hword)
    · exact iff_of_false (fun h => h rfl) fun h => h.elim nofun hword

/-! ### Dates -/

namespace DateParts

/-- The parts put together without a line end. -/
def dashed (p : DateParts) : List Char := p.year ++ '-' :: (p.month ++ '-' :: p.day)

theorem exists_year (p : DateParts) : ∃ d rest, isDecimalDigit d = true ∧ p.dashed = d :: rest := by
  obtain ⟨d, rest, hyear⟩ := List.exists_cons_of_length_eq_add_one p.year_length
  exact ⟨d, rest ++ '-' :: (p.month ++ '-' :: p.day), p.digits d (by simp [hyear]), by simp [dashed, hyear]⟩

theorem stripChars_chars (p : DateParts) : stripChars p.chars = p.dashed := by
  have hchars : p.chars = p.dashed ++ if p.lineEnd then ['\n'] else [] := by simp [chars, dashed]
  obtain ⟨d, rest, hd, hyear⟩ := p.exists_year
  have hlast : ∃ c ∈ p.dashed.getLast?, isBlank c = false := by
    have hne : p.day ≠ [] := List.ne_nil_of_length_eq_add_one p.day_length
    have hday : p.day.getLast hne ∈ p.day := List.getLast_mem hne
    refine ⟨p.day.getLast hne, ?_, Text.not_blank_of_digit (p.digits _ (by simp [hday]))⟩
    simp [dashed, List.getLast?_append, List.getLast?_cons, List.getLast?_eq_some_getLast hne]
  rw [hchars]
  refine Text.stripChars_append ⟨d, by rw [hyear]; rfl, Text.not_blank_of_digit hd⟩ hlast fun c hc => ?_
  split_ifs at hc
  · rw [List.mem_singleton.mp hc]
    rfl
  · exact absurd hc List.not_mem_nil

theorem not_form_dashed (p : DateParts) : ¬ Numeral.Form p.dashed := by
  obtain ⟨d, rest, hd, hyear⟩ := p.exists_year
  have hdigits : Numeral.Digits p.year := fun c hc => p.digits c (by simp [hc])
  have hnoSign : Numeral.Opens Numeral.NoSign p.dashed := by
    intro c hc
    rw [hyear] at hc
    obtain rfl := Option.some.inj hc
    exact Numeral.noSign_of_digit hd
  have hsign : (Numeral.takeSign p.dashed).2 = p.dashed := Numeral.takeSign_append .none hnoSign
  have hhyphen : Numeral.Opens (fun c => isDecimalDigit c = false ∧ c ≠ '.') ('-' :: (p.month ++ '-' :: p.day)) := by
    intro c hc
    obtain rfl := Option.some.inj hc
    decide
  -- behind the year a numeral could only go on with a point or a power of ten
  have hwhole := Numeral.takeDigits_append hdigits fun c hc => (hhyphen c hc).1
  rw [← dashed, ← hsign] at hwhole
  rw [← Numeral.read?_isSome_iff,
    Numeral.read?_isSome_of hwhole (Numeral.takeFraction_of_opens fun c hc => (hhyphen c hc).2)]
  exact fun ⟨_, hpower⟩ => absurd (hpower.letter '-' rfl) (by decide)

/-- Dates start with a digit, and neither a numeral nor the name of infinity goes on with a hyphen after digits. -/
theorem not_isNumber {s : String} (p : DateParts) (h : p.chars = s.toList) : ¬ IsNumber s := by
  obtain ⟨d, rest, hd, hyear⟩ := p.exists_year
  rw [IsNumber, ← h, p.stripChars_chars]
  rintro (hempty | hform | ⟨sign, hsign, hname⟩)
  · exact absurd (hyear.symm.trans hempty) (List.cons_ne_nil d rest)
  · exact p.not_form_dashed hform
  · have hfirst : d = '+' ∨ d = '-' ∨ d = 'I' := by
      rw [hyear] at hname
      cases hsign with
      | none => exact .inr (.inr (List.cons.inj hname).1)
      | plus => exact .inl (List.cons.inj hname).1
      | minus => exact .inr (.inl (List.cons.inj hname).1)
    rcases hfirst with rfl | rfl | rfl <;> exact absurd hd (by decide)

end DateParts

end Value

namespace LooseText

variable {t : LooseText}

/-- The number that a text stands for in a comparison. -/
def number (t : LooseText) : Binary64 := (t.whole?.map Value.textToNumber).getD .nan

/-- The text is a number. -/
def IsNumber (t : LooseText) : Prop := ∃ s, t = ofString s ∧ Value.IsNumber s

theorem number_ne_nan_iff : t.number ≠ .nan ↔ t.IsNumber := by
  simp only [IsNumber, ← whole?_eq_some, number]
  cases t.whole? with
  | none => exact iff_of_false (fun h => h rfl) nofun
  | some s => simpa using Value.textToNumber_ne_nan_iff

/-- **No text in the form of a date is a number.** -/
theorem IsNumber.day? (h : t.IsNumber) : (Value.text t).day? = none := by
  obtain ⟨s, rfl, hs⟩ := h
  rw [day?_text, Option.map_eq_none_iff]
  by_contra hne
  obtain ⟨form, hform⟩ := Option.ne_none_iff_exists'.mp hne
  obtain ⟨p, hp, -⟩ := dateForm?_eq_some_iff.mp hform
  exact p.not_isNumber (by rw [ofString_inj.mp hp, String.toList_ofList]) hs

end LooseText
end FieldFilter
