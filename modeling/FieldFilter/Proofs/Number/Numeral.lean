import FieldFilter.Number.Numeral
import Mathlib.Data.List.TakeWhile

/-!
# FieldFilter.Proofs.Number.Numeral — the form of numerals

A numeral is an optional sign, digits with at most one point at or between them, and an optional power of ten
(`Numeral.Form`).  Those texts are read as numerals and no others are (`Numeral.read?_isSome_iff`), and what is
read has a double near it, be it infinite (`Numeral.toBinary64_ne_nan`).
-/

namespace FieldFilter

namespace Numeral

open Text (isDecimalDigit digitValue?)

/-! ### The form -/

/-- Decimal digits of any script. -/
def Digits (s : List Char) : Prop := ∀ c ∈ s, isDecimalDigit c = true

/-- An optional sign. -/
inductive Sign : List Char → Prop
  | none : Sign []
  | plus : Sign ['+']
  | minus : Sign ['-']

/-- Digits with at most one point before, between or after them. -/
inductive Mantissa : List Char → Prop
  | whole {ds : List Char} : Digits ds → ds ≠ [] → Mantissa ds
  | point {ds es : List Char} : Digits ds → Digits es → (ds ≠ [] ∨ es ≠ []) → Mantissa (ds ++ '.' :: es)

/-- An optional power of ten. -/
inductive Power : List Char → Prop
  | none : Power []
  | some {e : Char} {sign ds : List Char} : (e = 'e' ∨ e = 'E') → Sign sign → Digits ds → ds ≠ [] →
    Power (e :: (sign ++ ds))

/-- The form of a numeral. -/
def Form (s : List Char) : Prop :=
  ∃ sign mantissa power, Sign sign ∧ Mantissa mantissa ∧ Power power ∧ s = sign ++ (mantissa ++ power)

variable {s ds sign rest fraction : List Char} {c : Char}

/-! ### Signs and digits at the front -/

/-- The text goes on with a character, if at all, that is of some kind. -/
def Opens (p : Char → Prop) (s : List Char) : Prop := ∀ c ∈ s.head?, p c

/-- The character is no sign. -/
def NoSign (c : Char) : Prop := c ≠ '+' ∧ c ≠ '-'

theorem exists_sign (s : List Char) : ∃ sign rest, Sign sign ∧ s = sign ++ rest ∧ (takeSign s).2 = rest := by
  unfold takeSign
  split
  · exact ⟨_, _, .plus, rfl, rfl⟩
  · exact ⟨_, _, .minus, rfl, rfl⟩
  · exact ⟨_, _, .none, rfl, rfl⟩

theorem takeSign_append (hsign : Sign sign) (hrest : Opens NoSign rest) : (takeSign (sign ++ rest)).2 = rest := by
  cases hsign with
  | none =>
    unfold takeSign
    split
    · next heq => exact absurd rfl (hrest '+' (congrArg List.head? heq)).1
    · next heq => exact absurd rfl (hrest '-' (congrArg List.head? heq)).2
    · rfl
  | plus => rfl
  | minus => rfl

theorem exists_digits (s : List Char) : ∃ ds rest, Digits ds ∧ Opens (isDecimalDigit · = false) rest ∧
    s = ds ++ rest := by
  refine ⟨s.takeWhile isDecimalDigit, s.dropWhile isDecimalDigit, fun c => List.mem_takeWhile_imp, ?_,
    List.takeWhile_append_dropWhile.symm⟩
  intro c hc
  have := List.head?_dropWhile_not isDecimalDigit s
  rw [Option.mem_def.mp hc] at this
  simpa using this

theorem takeDigits_append (hds : Digits ds) (hrest : Opens (isDecimalDigit · = false) rest) :
    takeDigits (ds ++ rest) = (ds.filterMap digitValue?, rest) := by
  induction ds with
  | nil =>
    cases rest with
    | nil => rfl
    | cons c rest =>
      have hc : digitValue? c = none := Option.not_isSome_iff_eq_none.mp (Bool.eq_false_iff.mp (hrest c rfl))
      rw [List.nil_append, takeDigits, hc]
      rfl
  | cons c ds ih =>
    obtain ⟨hc, hds⟩ := List.forall_mem_cons.mp hds
    obtain ⟨n, hn⟩ := Option.isSome_iff_exists.mp hc
    rw [List.cons_append, takeDigits, hn, ih hds, List.filterMap_cons_some hn]

/-- Digits have values. -/
theorem Digits.values_ne_nil_iff (h : Digits ds) : ds.filterMap digitValue? ≠ [] ↔ ds ≠ [] := by
  refine not_congr ⟨fun hnil => List.eq_nil_iff_forall_not_mem.mpr fun c hc => ?_, fun hnil => by rw [hnil]; rfl⟩
  have hnone := List.filterMap_eq_nil_iff.mp hnil c hc
  have hsome := h c hc
  rw [isDecimalDigit, hnone] at hsome
  cases hsome

theorem noSign_of_digit (h : isDecimalDigit c = true) : NoSign c := by
  constructor <;> rintro rfl <;> exact absurd h (by decide)

theorem opens_point (s : List Char) : Opens (isDecimalDigit · = false) ('.' :: s) := by
  intro c hc
  obtain rfl := Option.some.inj hc
  decide

theorem Mantissa.opens (h : Mantissa s) (rest : List Char) : Opens NoSign (s ++ rest) := by
  intro c hc
  cases h with
  | whole hds hne =>
    obtain ⟨d, ds, rfl⟩ := List.exists_cons_of_ne_nil hne
    obtain rfl := Option.some.inj hc
    exact noSign_of_digit (hds d List.mem_cons_self)
  | @point ds es hds =>
    cases ds with
    | nil =>
      obtain rfl := Option.some.inj hc
      exact ⟨by decide, by decide⟩
    | cons d ds =>
      obtain rfl := Option.some.inj hc
      exact noSign_of_digit (hds d List.mem_cons_self)

/-! ### Powers of ten -/

/-- After its letter and sign a power of ten is made of digits, to the end. -/
theorem readExponent?_cons (hc : c = 'e' ∨ c = 'E') (hsign : (takeSign s).2 = ds ++ rest) (hds : Digits ds)
    (hrest : Opens (isDecimalDigit · = false) rest) :
    (readExponent? (c :: s)).isSome = true ↔ ds ≠ [] ∧ rest = [] := by
  rw [← hds.values_ne_nil_iff]
  simp only [readExponent?, if_pos hc, hsign, takeDigits_append hds hrest]
  cases ds.filterMap digitValue? <;> cases rest <;> simp

theorem readExponent?_isSome_iff : (readExponent? s).isSome = true ↔ Power s := by
  constructor
  · intro h
    cases s with
    | nil => exact .none
    | cons c s =>
      have hc : c = 'e' ∨ c = 'E' := by
        by_contra hne
        rw [readExponent?, if_neg hne] at h
        cases h
      obtain ⟨sign, tail, hsign, rfl, htake⟩ := exists_sign s
      obtain ⟨ds, rest, hds, hrest, rfl⟩ := exists_digits tail
      obtain ⟨hne, rfl⟩ := (readExponent?_cons hc htake hds hrest).mp h
      rw [List.append_nil]
      exact .some hc hsign hds hne
  · rintro (_ | ⟨hc, hsign, hds, hne⟩)
    · rfl
    · have hend : Opens (isDecimalDigit · = false) [] := fun c hc => nomatch hc
      refine (readExponent?_cons hc ?_ hds hend).mpr ⟨hne, rfl⟩
      rw [List.append_nil]
      exact takeSign_append hsign fun c h => noSign_of_digit (hds c (List.mem_of_mem_head? h))

/-- A power of ten, if there is one, starts with its letter. -/
theorem Power.letter (h : Power s) : Opens (fun c => c = 'e' ∨ c = 'E') s := by
  intro c hc
  rcases h with _ | ⟨he, -, -, -⟩
  · nomatch hc
  · obtain rfl := Option.some.inj hc
    exact he

theorem Power.opens (h : Power s) : Opens (fun c => isDecimalDigit c = false ∧ c ≠ '.') s := by
  intro c hc
  rcases h.letter c hc with rfl | rfl <;> decide

/-! ### Numerals -/

/-- The digits after a point at the front, none if there is no point, and what follows them. -/
def takeFraction (s : List Char) : List Nat × List Char :=
  match s with
  | '.' :: rest => takeDigits rest
  | _ => ([], s)

/-- How a numeral is read, in terms of its parts. -/
theorem read?_eq (s : List Char) : read? s =
    let (whole, tail) := takeDigits (takeSign s).2
    let (fraction, rest) := takeFraction tail
    if whole.isEmpty && fraction.isEmpty then none
    else (readExponent? rest).bind fun exponent =>
      some ⟨(takeSign s).1, ofDigits (whole ++ fraction), exponent - fraction.length⟩ := rfl

/-- A numeral has digits on one side of its point, if not on both, and then a power of ten. -/
theorem read?_isSome_of {whole fraction : List Nat} {tail : List Char}
    (hwhole : takeDigits (takeSign s).2 = (whole, tail)) (hfraction : takeFraction tail = (fraction, rest)) :
    (read? s).isSome = true ↔ (whole ≠ [] ∨ fraction ≠ []) ∧ Power rest := by
  rw [← readExponent?_isSome_iff, read?_eq, hwhole]
  dsimp only
  rw [hfraction]
  cases whole <;> cases fraction <;> cases readExponent? rest <;> simp

theorem takeFraction_of_opens (h : Opens (· ≠ '.') s) : takeFraction s = ([], s) := by
  unfold takeFraction
  split
  · exact absurd rfl (h '.' rfl)
  · rfl

/-- **The texts that are read as numerals** are those that have the form of one. -/
theorem read?_isSome_iff : (read? s).isSome = true ↔ Form s := by
  constructor
  · intro h
    obtain ⟨sign, tail, hsign, rfl, htake⟩ := exists_sign s
    obtain ⟨ds, rest, hds, hrest, rfl⟩ := exists_digits tail
    have hwhole := takeDigits_append hds hrest
    rw [← htake] at hwhole
    by_cases hpoint : ∃ s, rest = '.' :: s
    · obtain ⟨s, rfl⟩ := hpoint
      obtain ⟨es, power, hes, hpower, rfl⟩ := exists_digits s
      obtain ⟨hne, hform⟩ := (read?_isSome_of hwhole (takeDigits_append hes hpower)).mp h
      rw [hds.values_ne_nil_iff, hes.values_ne_nil_iff] at hne
      exact ⟨sign, _, power, hsign, .point hds hes hne, hform, by simp⟩
    · have hopens : Opens (· ≠ '.') rest := by
        rintro c hc rfl
        exact hpoint (List.head?_eq_some_iff.mp hc)
      obtain ⟨hne, hform⟩ := (read?_isSome_of hwhole (takeFraction_of_opens hopens)).mp h
      exact ⟨sign, ds, rest, hsign, .whole hds (by simpa [hds.values_ne_nil_iff] using hne), hform, rfl⟩
  · rintro ⟨sign, mantissa, power, hsign, hmantissa, hpower, rfl⟩
    have htake := takeSign_append hsign (hmantissa.opens power)
    have hend : Opens (isDecimalDigit · = false) power := fun c hc => (hpower.opens c hc).1
    cases hmantissa with
    | whole hds hne =>
      have hwhole := takeDigits_append hds hend
      rw [← htake] at hwhole
      have hfraction := takeFraction_of_opens fun c hc => (hpower.opens c hc).2
      exact (read?_isSome_of hwhole hfraction).mpr ⟨.inl (hds.values_ne_nil_iff.mpr hne), hpower⟩
    | @point ds es hds hes hne =>
      have hwhole := takeDigits_append hds (opens_point (es ++ power))
      rw [← List.cons_append, ← List.append_assoc, ← htake] at hwhole
      refine (read?_isSome_of hwhole (takeDigits_append hes hend)).mpr ⟨?_, hpower⟩
      rwa [hds.values_ne_nil_iff, hes.values_ne_nil_iff]

end Numeral

/-! ### Doubles -/

theorem Binary64.ofQuotient_eq_elim : ofQuotient = fun negative num den =>
    (nearestUnits? num den).elim (.infinity negative) (.finite negative) := by
  -- opened as a function: at arguments the search for the units would be evaluated
  delta ofQuotient
  funext negative num den
  generalize nearestUnits? num den = found
  cases found <;> rfl

theorem Binary64.ofQuotient_ne_nan (negative : Bool) (num den : Nat) : ofQuotient negative num den ≠ .nan := by
  simp only [ofQuotient_eq_elim]
  generalize nearestUnits? num den = found
  cases found <;> nofun

/-- A numeral has a double near it, be it infinite. -/
theorem Numeral.toBinary64_ne_nan (x : Numeral) : x.toBinary64 ≠ .nan := by
  unfold toBinary64
  dsimp only
  split_ifs
  · nofun
  · nofun
  · exact Binary64.ofQuotient_ne_nan _ _ _

end FieldFilter
